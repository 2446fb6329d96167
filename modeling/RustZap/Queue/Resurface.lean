import RustZap.Queue.Work

open collections serde_json runs
open rustzap.models rustzap.transcription

namespace rustzap.state

/-- The operations that mark a conversation dirty without recording a message. -/
inductive UpdateOp where
  | update_receipt (message_id receipt_type : String) (created_at_wa : Option OffsetDateTime)
  | update_outbound_after_dispatch (message_id : String) (wa_message_id : Option String)
      (status : String) (error_message : Option String)
  | set_completed_groq_transcript (message : Message) (media : MediaObject) (result : GroqTranscription)
  | patch_conversation_metadata (project_id company_id conversation_id : String) (body : Value)

namespace UpdateOp

def apply (self : AppState) (ctx : Ctx) (inner : StoreInner) : UpdateOp → StoreInner
  | .update_receipt message_id receipt_type created_at_wa =>
    (update_receipt_with_context self ctx inner message_id receipt_type created_at_wa).2
  | .update_outbound_after_dispatch message_id wa_message_id status error_message =>
    (state.update_outbound_after_dispatch ctx inner message_id wa_message_id status error_message).2
  | .set_completed_groq_transcript message media result =>
    (state.set_completed_groq_transcript ctx inner message media result).2
  | .patch_conversation_metadata project_id company_id conversation_id body =>
    (state.patch_conversation_metadata ctx inner project_id company_id conversation_id body).2

theorem apply_keyed (self : AppState) (ctx : Ctx) {inner : StoreInner} (h : inner.WellKeyed)
    (op : UpdateOp) : (op.apply self ctx inner).WellKeyed := by
  have hkeyed : ∀ inner', Changes ctx ⟨fun _ _ => True, False, False⟩ inner inner' → inner'.WellKeyed :=
    fun inner' hchanges => hchanges.invariant (fun _ _ h => h.change) h
  cases op with
  | update_receipt message_id receipt_type created_at_wa =>
    exact hkeyed _ (update_receipt_with_context_changes ..)
  | update_outbound_after_dispatch message_id wa_message_id status error_message =>
    exact hkeyed _ (update_outbound_after_dispatch_changes _ _ _ _ _ (fun _ _ => trivial))
  | set_completed_groq_transcript message media result =>
    exact ⟨h.conversations, h.messages, h.dirty.mark _ _ _ _ _⟩
  | patch_conversation_metadata project_id company_id conversation_id body =>
    exact hkeyed _ (patch_conversation_metadata_changes ..)

/-- The conversation that the operation marks, with its tenant, and the sequence
number that it marks it at: that of the message it is about, or the last one of
the conversation. -/
def target (ctx : Ctx) (inner : StoreInner) : UpdateOp → Option (String × String × String × Int)
  | .update_receipt message_id _ _ => (inner.messages_by_id.lookup message_id).map of_message
  | .update_outbound_after_dispatch message_id _ _ _ =>
    (inner.messages_by_id.lookup message_id).map of_message
  | .set_completed_groq_transcript message _ _ => some (of_message message)
  | .patch_conversation_metadata project_id company_id conversation_id body =>
    if (state.patch_conversation_metadata ctx inner project_id company_id conversation_id body).1.isOk then
      (inner.conversations.lookup
        (resolve_conversation_id_inner inner project_id company_id conversation_id)).map fun conversation =>
          (project_id, company_id, conversation.id, conversation.last_seq)
    else none
where
  of_message (message : Message) : String × String × String × Int :=
    (message.project_id, message.company_id, message.conversation_id, message.conversation_seq)

end UpdateOp

/-- The conversation has been marked dirty at this sequence number; the cursors
are as they were. -/
structure Marked (ctx : Ctx) (inner : StoreInner) (project_id company_id conversation_id : String)
    (seq : Int) (inner' : StoreInner) : Prop where
  dirty : inner'.dirty = inner.dirty.insert (project_id, company_id, conversation_id)
    (marked_dirty ctx.now conversation_id seq (inner.dirty.lookup (project_id, company_id, conversation_id)))
  consumer_state : inner'.consumer_state = inner.consumer_state

theorem patch_conversation_metadata_marked {ctx : Ctx} {inner : StoreInner}
    {project_id company_id conversation_id : String} {body : Value} {conversation : Conversation}
    (hok : (patch_conversation_metadata ctx inner project_id company_id conversation_id body).1.isOk = true)
    (hconversation : inner.conversations.lookup
      (resolve_conversation_id_inner inner project_id company_id conversation_id) = some conversation) :
    Marked ctx inner project_id company_id conversation.id conversation.last_seq
      (patch_conversation_metadata ctx inner project_id company_id conversation_id body).2 := by
  unfold patch_conversation_metadata at hok ⊢
  cases body with
  | object fields =>
    dsimp only at hok ⊢
    split at hok
    · cases hok
    · split at hok
      · cases hok
      · next hunsupported hfields =>
        rw [if_neg hfields, hconversation]
        rw [hconversation] at hok
        split at hok
        · cases hok
        · next found hfound =>
          have hsame : found = conversation :=
            Option.some.inj (Option.filter_eq_some_iff.mp hfound).1.symm
          subst hsame
          obtain ⟨hid, -, -, -, hseq⟩ := patch_conversation_keeps (.object fields) found
          split at hok
          · cases hok
          · next patched hpatch =>
            rw [hpatch] at hid hseq
            simp only at hid hseq
            rw [← hid, ← hseq]
            exact ⟨rfl, rfl⟩
  | _ => cases hok

theorem UpdateOp.apply_marked (self : AppState) {ctx : Ctx} {inner : StoreInner} {op : UpdateOp}
    {project_id company_id conversation_id : String} {seq : Int}
    (htarget : op.target ctx inner = some (project_id, company_id, conversation_id, seq)) :
    Marked ctx inner project_id company_id conversation_id seq (op.apply self ctx inner) := by
  cases op with
  | update_receipt message_id receipt_type created_at_wa =>
    obtain ⟨message, hmessage, heq⟩ := Option.map_eq_some_iff.mp htarget
    cases heq
    rcases update_receipt_with_context_cases self ctx inner message_id receipt_type created_at_wa with
      ⟨hnone, -⟩ | ⟨stored, inner', hstored, ⟨events, rfl⟩, hupdate⟩
    · rw [hmessage] at hnone
      cases hnone
    · rw [hmessage] at hstored
      cases hstored
      rw [UpdateOp.apply, hupdate]
      exact ⟨rfl, rfl⟩
  | update_outbound_after_dispatch message_id wa_message_id status error_message =>
    obtain ⟨message, hmessage, heq⟩ := Option.map_eq_some_iff.mp htarget
    cases heq
    rcases update_outbound_after_dispatch_cases ctx inner message_id wa_message_id status error_message
      with ⟨hnone, -⟩ | ⟨stored, inner', hstored, ⟨events, rfl⟩, hupdate⟩
    · rw [hmessage] at hnone
      cases hnone
    · rw [hmessage] at hstored
      cases hstored
      rw [UpdateOp.apply, hupdate]
      exact ⟨rfl, rfl⟩
  | set_completed_groq_transcript message media result =>
    cases htarget
    exact ⟨rfl, rfl⟩
  | patch_conversation_metadata project company conversation body =>
    rw [UpdateOp.target] at htarget
    split at htarget
    · next hok =>
      obtain ⟨stored, hstored, heq⟩ := Option.map_eq_some_iff.mp htarget
      cases heq
      exact patch_conversation_metadata_marked hok hstored
    · cases htarget

/-- The ack of everything that a leased item stands for. -/
def full_ack (consumer_id : String) (item : DirtyConversationItem) : DirtyAckRequest where
  consumer_id
  processed_until_seq := item.max_seq
  lease_token := item.lease_token

/-- One visit of a consumer: it polls, with a limit that covers the company's
dirty conversations, and acknowledges what it gets of this conversation. -/
def Store.visit (self : AppState) (project_id company_id conversation_id : String) (store : Store)
    (visit : Ctx × String) : Store :=
  let limit := dirty_count store.inner project_id company_id
  let polled := store.apply self visit.1 (.list_dirty project_id company_id visit.2 limit)
  match (list_dirty visit.1 store.inner project_id company_id visit.2 limit).1.find? fun item =>
      item.conversation_id = conversation_id with
  | some item =>
    polled.apply self visit.1 (.ack_dirty project_id company_id conversation_id (full_ack visit.2 item))
  | none => polled

/-- The conversation comes back to the consumer, and the visits of the registered
consumers clear it again. -/
structure Resurfaces (app : AppState) (project_id company_id conversation_id consumer_id : String)
    (store : Store) : Prop where
  listed : ∀ ctx limit, dirty_count store.inner project_id company_id ≤ limit →
    ∃ item ∈ (list_dirty ctx store.inner project_id company_id consumer_id limit).1,
      item.conversation_id = conversation_id
  cleared : ∀ visits : List (Ctx × String), consumer_id ∈ visits.map Prod.snd →
    (∀ registered, (store.inner.consumer_state.lookup
      (project_id, company_id, registered, conversation_id)).isSome = true →
      registered ∈ visits.map Prod.snd) →
    (visits.foldl (Store.visit app project_id company_id conversation_id) store).inner.dirty.lookup
      (project_id, company_id, conversation_id) = none

/-- Where the visits of the `remaining` consumers are still to come: the entry is
gone, or one of them is behind it, and so is no registered consumer but them. -/
def Draining (project_id company_id conversation_id : String) (max_seq : Int) (remaining : List String)
    (inner : StoreInner) : Prop :=
  inner.dirty.lookup (project_id, company_id, conversation_id) = none ∨
  ∃ record, inner.dirty.lookup (project_id, company_id, conversation_id) = some record ∧
    record.max_seq = max_seq ∧
    (∃ consumer ∈ remaining,
      processed_until inner project_id company_id consumer conversation_id < max_seq) ∧
    ∀ consumer cursor, inner.consumer_state.lookup
      (project_id, company_id, consumer, conversation_id) = some cursor → cursor < max_seq →
      consumer ∈ remaining

section Drain

variable {self : AppState} {project_id company_id conversation_id : String} {store : Store}

/-- An item of this conversation stands for its dirty entry. -/
theorem item_of_conversation {ctx : Ctx} {consumer : String} {limit : Nat} {item : DirtyConversationItem}
    (hitem : item ∈ (list_dirty ctx store.inner project_id company_id consumer limit).1)
    (hconversation : item.conversation_id = conversation_id) :
    ∃ record, store.inner.dirty.lookup (project_id, company_id, conversation_id) = some record ∧
      processed_until store.inner project_id company_id consumer conversation_id < record.max_seq ∧
      item.max_seq = record.max_seq ∧
      HoldsLease ctx (list_dirty ctx store.inner project_id company_id consumer limit).2 project_id
        company_id conversation_id (full_ack consumer item) := by
  obtain ⟨conversation, record, position, hrecord, hbehind, rfl, hlease⟩ := of_mem_list_dirty hitem
  have hkey : record.conversation_id = conversation := store.keyed.dirty _ record hrecord
  have hsame : conversation = conversation_id := hkey.symm.trans hconversation
  subst hsame
  refine ⟨record, hrecord, hbehind, rfl, _, hlease, rfl, ?_⟩
  exact Int.le_add_of_nonneg_right (by decide)

/-- A consumer with nothing to do in the conversation only polls. -/
theorem visit_of_done {ctx : Ctx} {consumer : String}
    (hdone : ∀ record, store.inner.dirty.lookup (project_id, company_id, conversation_id) = some record →
      record.max_seq ≤ processed_until store.inner project_id company_id consumer conversation_id) :
    (store.visit self project_id company_id conversation_id (ctx, consumer)).inner =
      (list_dirty ctx store.inner project_id company_id consumer
        (dirty_count store.inner project_id company_id)).2 := by
  have hnone : (list_dirty ctx store.inner project_id company_id consumer
      (dirty_count store.inner project_id company_id)).1.find? (fun item =>
        item.conversation_id = conversation_id) = none := by
    rw [List.find?_eq_none]
    intro item hitem hconversation
    obtain ⟨record, hrecord, hbehind, -⟩ := item_of_conversation hitem (by simpa using hconversation)
    have := hdone record hrecord
    omega
  unfold Store.visit
  dsimp only
  rw [hnone]
  rfl

/-- A consumer that is behind the entry leases and acknowledges it. -/
theorem visit_of_behind (self : AppState) (ctx : Ctx) {consumer : String} {record : DirtyRecord}
    (hrecord : store.inner.dirty.lookup (project_id, company_id, conversation_id) = some record)
    (hbehind : processed_until store.inner project_id company_id consumer conversation_id <
      record.max_seq) :
    ∃ request : DirtyAckRequest, request.consumer_id = consumer ∧
      request.processed_until_seq = record.max_seq ∧
      (store.visit self project_id company_id conversation_id (ctx, consumer)).inner =
        acked (list_dirty ctx store.inner project_id company_id consumer
          (dirty_count store.inner project_id company_id)).2 project_id company_id conversation_id request
          record := by
  obtain ⟨position, hmem, -⟩ := mem_list_dirty ctx (le_refl _) hrecord hbehind
  have hkey : record.conversation_id = conversation_id := store.keyed.dirty _ record hrecord
  cases hfind : (list_dirty ctx store.inner project_id company_id consumer
      (dirty_count store.inner project_id company_id)).1.find? (fun item =>
        item.conversation_id = conversation_id) with
  | none =>
    rw [List.find?_eq_none] at hfind
    exact absurd (decide_eq_true hkey) (hfind _ hmem)
  | some item =>
    have hconversation : item.conversation_id = conversation_id := by simpa using List.find?_some hfind
    obtain ⟨record', hrecord', -, hseq, hlease⟩ :=
      item_of_conversation (List.mem_of_find?_eq_some hfind) hconversation
    rw [hrecord] at hrecord'
    cases hrecord'
    refine ⟨full_ack consumer item, rfl, hseq, ?_⟩
    unfold Store.visit
    dsimp only
    rw [hfind]
    exact ack_dirty_of_lease hrecord hlease

/-- Polling moves no cursor of the conversation that is behind the entry, unless
it is the polling consumer's own. -/
theorem list_dirty_cursor_of_ne {ctx : Ctx} {consumer other : String} {limit : Nat} (hne : other ≠ consumer) :
    (list_dirty ctx store.inner project_id company_id consumer limit).2.consumer_state.lookup
        (project_id, company_id, other, conversation_id) =
      store.inner.consumer_state.lookup (project_id, company_id, other, conversation_id) := by
  rcases list_dirty_cursor store.inner project_id company_id consumer ctx limit
    (project_id, company_id, other, conversation_id) with hsame | ⟨hown, -⟩
  · exact hsame
  · exact absurd hown hne

theorem Draining.visit_behind {remaining : List String} {inner : StoreInner} {record : DirtyRecord}
    {request : DirtyAckRequest}
    (hrecord : inner.dirty.lookup (project_id, company_id, conversation_id) = some record)
    (hseq : request.processed_until_seq = record.max_seq)
    (hregistered : ∀ consumer cursor, consumer ≠ request.consumer_id → inner.consumer_state.lookup
      (project_id, company_id, consumer, conversation_id) = some cursor → cursor < record.max_seq →
      consumer ∈ remaining) :
    Draining project_id company_id conversation_id record.max_seq remaining
      (acked inner project_id company_id conversation_id request record) := by
  by_cases hcompletes : AckCompletes inner project_id company_id conversation_id request record.max_seq
  · left
    rw [acked_dirty_of_completes _ _ _ _ _ _ hcompletes, HashMap.lookup_erase_ite, if_pos rfl]
  · right
    have hcursor : ∀ consumer, consumer ≠ request.consumer_id →
        (acked inner project_id company_id conversation_id request record).consumer_state.lookup
          (project_id, company_id, consumer, conversation_id) =
        inner.consumer_state.lookup (project_id, company_id, consumer, conversation_id) := by
      intro consumer hne
      rw [acked_consumer_state, HashMap.lookup_insert_ite, if_neg]
      intro heq
      simp only [Prod.mk.injEq, true_and, and_true] at heq
      exact hne heq
    refine ⟨record, ?_, rfl, ?_, ?_⟩
    · rw [acked_dirty_of_not_completes _ _ _ _ _ _ hcompletes]
      exact hrecord
    · -- an ack that does not complete the entry leaves another registered consumer behind
      simp only [AckCompletes, hseq, le_refl, true_and, not_forall, not_le] at hcompletes
      obtain ⟨other, cursor, hne, hother, hbehind⟩ := hcompletes
      refine ⟨other, hregistered other cursor hne hother hbehind, ?_⟩
      rw [processed_until, hcursor other hne, hother]
      exact hbehind
    · intro consumer cursor hlookup hbehind
      by_cases hne : consumer = request.consumer_id
      · rw [acked_consumer_state, hne, HashMap.lookup_insert_ite, if_pos rfl, hseq] at hlookup
        cases hlookup
        exact absurd hbehind (lt_irrefl _)
      · rw [hcursor consumer hne] at hlookup
        exact hregistered consumer cursor hne hlookup hbehind

/-- A visit takes its consumer off the list of those that are still behind. -/
theorem Draining.visit {max_seq : Int} {consumer : String} {remaining : List String} (ctx : Ctx)
    (h : Draining project_id company_id conversation_id max_seq (consumer :: remaining) store.inner) :
    Draining project_id company_id conversation_id max_seq remaining
      (store.visit self project_id company_id conversation_id (ctx, consumer)).inner := by
  rcases h with hgone | ⟨record, hrecord, rfl, ⟨behind, hmem, hbehind⟩, hregistered⟩
  · left
    rw [visit_of_done (fun record hrecord => by rw [hgone] at hrecord; cases hrecord)]
    exact hgone
  · by_cases hconsumer : processed_until store.inner project_id company_id consumer conversation_id <
        record.max_seq
    · obtain ⟨request, rfl, hseq, heq⟩ := visit_of_behind self ctx hrecord hconsumer
      rw [heq]
      refine Draining.visit_behind hrecord hseq fun other cursor hne hcursor hlow => ?_
      rw [list_dirty_cursor_of_ne hne] at hcursor
      exact (List.mem_cons.mp (hregistered other cursor hcursor hlow)).resolve_left hne
    · rw [visit_of_done (fun record' hrecord' => by
        rw [hrecord] at hrecord'
        cases hrecord'
        exact not_lt.mp hconsumer)]
      right
      refine ⟨record, hrecord, rfl, ⟨behind, ?_, ?_⟩, fun other cursor hcursor hlow => ?_⟩
      · refine (List.mem_cons.mp hmem).resolve_left ?_
        rintro rfl
        exact hconsumer hbehind
      · rw [processed_until_list_dirty]
        exact hbehind
      · by_cases hne : other = consumer
        · subst hne
          have hsame := processed_until_list_dirty store.inner project_id company_id other ctx
            (dirty_count store.inner project_id company_id) project_id company_id other conversation_id
          rw [processed_until, hcursor, Option.getD_some] at hsame
          exact absurd (hsame ▸ hlow) hconsumer
        · rw [list_dirty_cursor_of_ne hne] at hcursor
          exact (List.mem_cons.mp (hregistered other cursor hcursor hlow)).resolve_left hne

theorem Draining.visits (self : AppState) (visits : List (Ctx × String)) {max_seq : Int} :
    ∀ {store : Store}, Draining project_id company_id conversation_id max_seq (visits.map Prod.snd)
      store.inner →
      (visits.foldl (Store.visit self project_id company_id conversation_id) store).inner.dirty.lookup
        (project_id, company_id, conversation_id) = none := by
  induction visits with
  | nil =>
    rintro store (hgone | ⟨record, -, -, ⟨consumer, hmem, -⟩, -⟩)
    · exact hgone
    · cases hmem
  | cons visit visits ih =>
    intro store h
    exact ih (Draining.visit visit.1 h)

end Drain

/-- The store after an update. -/
def Store.update (self : AppState) (ctx : Ctx) (store : Store) (op : UpdateOp) : Store where
  inner := op.apply self ctx store.inner
  keyed := op.apply_keyed self ctx store.keyed

/-- A marked conversation comes back to a consumer, and the registered consumers
can clear it again, exactly when the consumer's cursor is behind the sequence
number of the mark or behind the entry that was there already. -/
theorem update_resurfaces_iff (self : AppState) (ctx : Ctx) (store : Store) (op : UpdateOp)
    (consumer_id : String) {project_id company_id conversation_id : String} {seq : Int}
    (htarget : op.target ctx store.inner = some (project_id, company_id, conversation_id, seq)) :
    Resurfaces self project_id company_id conversation_id consumer_id (store.update self ctx op) ↔
      processed_until store.inner project_id company_id consumer_id conversation_id < seq ∨
      ∃ record, store.inner.dirty.lookup (project_id, company_id, conversation_id) = some record ∧
        processed_until store.inner project_id company_id consumer_id conversation_id < record.max_seq := by
  have hmarked := op.apply_marked self htarget
  obtain ⟨entry, hentry, hmax⟩ : ∃ entry, (store.update self ctx op).inner.dirty.lookup
      (project_id, company_id, conversation_id) = some entry ∧
      entry.max_seq = (store.inner.dirty.lookup (project_id, company_id, conversation_id)).elim seq
        fun record => max record.max_seq seq := by
    refine ⟨_, ?_, marked_dirty_max_seq ctx.now conversation_id seq _⟩
    rw [show (store.update self ctx op).inner.dirty = _ from hmarked.dirty, HashMap.lookup_insert_ite,
      if_pos rfl]
  have hcursor : processed_until (store.update self ctx op).inner project_id company_id consumer_id
      conversation_id = processed_until store.inner project_id company_id consumer_id conversation_id := by
    rw [processed_until, show (store.update self ctx op).inner.consumer_state = _ from
      hmarked.consumer_state, processed_until]
  have hbehind : processed_until (store.update self ctx op).inner project_id company_id consumer_id
      conversation_id < entry.max_seq ↔
      processed_until store.inner project_id company_id consumer_id conversation_id < seq ∨
      ∃ record, store.inner.dirty.lookup (project_id, company_id, conversation_id) = some record ∧
        processed_until store.inner project_id company_id consumer_id conversation_id <
          record.max_seq := by
    rw [hcursor, hmax]
    cases store.inner.dirty.lookup (project_id, company_id, conversation_id) with
    | none => simp
    | some record => simp [or_comm]
  rw [← hbehind]
  constructor
  · intro h
    obtain ⟨item, hitem, hconversation⟩ := h.listed ctx _ (le_refl _)
    obtain ⟨record, hrecord, hlow, -⟩ := item_of_conversation hitem hconversation
    rw [hentry] at hrecord
    cases hrecord
    exact hlow
  · intro hlow
    refine ⟨fun now limit hlimit => ?_, fun visits hmem hregistered => ?_⟩
    · obtain ⟨position, hitem, -⟩ := mem_list_dirty now hlimit hentry hlow
      exact ⟨_, hitem, (store.update self ctx op).keyed.dirty _ entry hentry⟩
    · refine Draining.visits self visits (Or.inr ⟨entry, hentry, rfl, ⟨consumer_id, hmem, hlow⟩, ?_⟩)
      intro registered cursor hlookup _
      exact hregistered registered (by rw [hlookup]; rfl)

/-- The indexer polls the first conversation and acknowledges its only message. -/
def sample.caught_up : Store :=
  sample.run Store.empty [sample.received, sample.polled "indexer" 2, sample.acked "indexer" 3]

/-- A receipt for the acknowledged message marks the conversation, and the
indexer does not get it. -/
theorem receipt_does_not_resurface :
    ¬ Resurfaces sample.service "acme" "company_a" "5511988887777@s.whatsapp.net" "indexer"
      (sample.caught_up.update sample.service (sample.ctx 4 "r") (.update_receipt "msg_a0" "read" none)) := by
  intro hresurfaces
  obtain ⟨item, hitem, -⟩ := hresurfaces.listed (sample.ctx 5 "i") 10 (by decide)
  have hnone : (list_dirty (sample.ctx 5 "i") (sample.caught_up.update sample.service (sample.ctx 4 "r")
      (.update_receipt "msg_a0" "read" none)).inner "acme" "company_a" "indexer" 10).1.length = 0 := by
    decide
  rw [List.eq_nil_of_length_eq_zero hnone] at hitem
  cases hitem

/-- To a consumer that has not been there yet, it does come back. -/
theorem receipt_resurfaces_to_newcomer :
    Resurfaces sample.service "acme" "company_a" "5511988887777@s.whatsapp.net" "bot"
      (sample.caught_up.update sample.service (sample.ctx 4 "r") (.update_receipt "msg_a0" "read" none)) := by
  have htarget : (UpdateOp.update_receipt "msg_a0" "read" none).target (sample.ctx 4 "r")
      sample.caught_up.inner = some ("acme", "company_a", "5511988887777@s.whatsapp.net", 1) := by decide
  exact (update_resurfaces_iff sample.service (sample.ctx 4 "r") sample.caught_up _ "bot" htarget).mpr
    (Or.inl (by decide))

end rustzap.state
