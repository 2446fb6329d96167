import RustZap.State.Operations

open collections runs
open rustzap.models

namespace rustzap.state

section Change

variable {ctx : Ctx} {effects : Effects} {inner inner' : StoreInner}

theorem marked_dirty_keeps {dirty : HashMap (String × String × String) DirtyRecord}
    (now : OffsetDateTime) (project_id company_id conversation_id : String) (seq : Int)
    {key : String × String × String} {record : DirtyRecord} (h : dirty.lookup key = some record) :
    ∃ record', (dirty.insert (project_id, company_id, conversation_id) (marked_dirty now conversation_id seq
        (dirty.lookup (project_id, company_id, conversation_id)))).lookup key = some record' ∧
      record.max_seq ≤ record'.max_seq := by
  by_cases hkey : key = (project_id, company_id, conversation_id)
  · subst hkey
    refine ⟨_, (HashMap.lookup_insert_ite ..).trans (if_pos rfl), ?_⟩
    rw [marked_dirty_max_seq, h]
    exact le_max_left record.max_seq seq
  · exact ⟨record, by rw [HashMap.lookup_insert_ite, if_neg hkey]; exact h, le_refl _⟩

/-- Without an ack no dirty entry goes away, and none falls back. -/
theorem Change.dirty_kept (hacks : ¬ effects.acks) (h : Change ctx effects inner inner')
    {key : String × String × String} {record : DirtyRecord} (hrecord : inner.dirty.lookup key = some record) :
    ∃ record', inner'.dirty.lookup key = some record' ∧ record.max_seq ≤ record'.max_seq := by
  cases h with
  | aside hsame => exact ⟨record, by rw [hsame.dirty]; exact hrecord, le_refl _⟩
  | record hrecorded hnew hquiet =>
    obtain ⟨conversation, contacts, group_members, events, -, rfl⟩ := hrecorded
    exact marked_dirty_keeps _ _ _ _ _ hrecord
  | rewrite hold hsame hwa => exact ⟨record, hrecord, le_refl _⟩
  | rewrite_all f hsame hwa => exact ⟨record, hrecord, le_refl _⟩
  | converse hsame => exact ⟨record, hrecord, le_refl _⟩
  | converse_all f hsame => exact ⟨record, hrecord, le_refl _⟩
  | mark now project_id company_id conversation_id seq hseq => exact marked_dirty_keeps _ _ _ _ _ hrecord
  | poll now project_id company_id consumer_id limit => exact ⟨record, hrecord, le_refl _⟩
  | ack request hdirty hack => exact absurd hack hacks

/-- Without an ack no cursor moves. -/
theorem Change.processed_until_kept (hacks : ¬ effects.acks) (h : Change ctx effects inner inner')
    (project_id company_id consumer_id conversation_id : String) :
    processed_until inner' project_id company_id consumer_id conversation_id =
      processed_until inner project_id company_id consumer_id conversation_id := by
  cases h with
  | aside hsame => rw [processed_until, hsame.consumer_state, processed_until]
  | record hrecorded hnew hquiet =>
    obtain ⟨conversation, contacts, group_members, events, -, rfl⟩ := hrecorded
    rfl
  | rewrite hold hsame hwa => rfl
  | rewrite_all f hsame hwa => rfl
  | converse hsame => rfl
  | converse_all f hsame => rfl
  | mark now project_id company_id conversation_id seq hseq => rfl
  | poll now project_id company_id consumer_id limit => exact processed_until_list_dirty ..
  | ack request hdirty hack => exact absurd hack hacks

end Change

/-- A message has been recorded between the two stores, as number `seq` of the
company's conversation. -/
def Records (before after : StoreInner) (project_id company_id conversation_id : String) (seq : Int) :
    Prop :=
  ∃ id message, before.messages_by_id.lookup id = none ∧ after.messages_by_id.lookup id = some message ∧
    message.project_id = project_id ∧ message.company_id = company_id ∧
    message.conversation_id = conversation_id ∧ message.conversation_seq = seq

/-- Work is outstanding for the consumer: the conversation has a dirty entry that
covers it, and the consumer's cursor is behind it. -/
structure Outstanding (project_id company_id conversation_id consumer_id : String) (seq : Int)
    (inner : StoreInner) : Prop where
  entry : ∃ record, inner.dirty.lookup (project_id, company_id, conversation_id) = some record ∧
    seq ≤ record.max_seq
  behind : processed_until inner project_id company_id consumer_id conversation_id < seq

/-- The consumer has not acknowledged the work yet. -/
def NotYetAcked (project_id company_id conversation_id consumer_id : String) (seq : Int)
    (_store : Store) (label : Ctx × StoreOp) : Prop :=
  ∀ request, label.2 = .ack_dirty project_id company_id conversation_id request →
    request.consumer_id = consumer_id → request.processed_until_seq < seq

/-- A valid ack of another consumer comes when the consumer holds a cursor for
the conversation, because it has leased it before, or it leaves the entry where
it is for another reason. -/
def AwaitsConsumer (project_id company_id conversation_id consumer_id : String)
    (store : Store) (label : Ctx × StoreOp) : Prop :=
  ∀ request record, label.2 = .ack_dirty project_id company_id conversation_id request →
    request.consumer_id ≠ consumer_id →
    HoldsLease label.1 store.inner project_id company_id conversation_id request →
    store.inner.dirty.lookup (project_id, company_id, conversation_id) = some record →
    (store.inner.consumer_state.lookup
      (project_id, company_id, consumer_id, conversation_id)).isSome = true ∨
    ¬ AckCompletes store.inner project_id company_id conversation_id request record.max_seq

section Work

variable {project_id company_id conversation_id consumer_id : String} {seq : Int} {inner inner' : StoreInner}

theorem Outstanding.change {ctx : Ctx} {effects : Effects} (hacks : ¬ effects.acks)
    (h : Outstanding project_id company_id conversation_id consumer_id seq inner)
    (hchange : Change ctx effects inner inner') :
    Outstanding project_id company_id conversation_id consumer_id seq inner' := by
  obtain ⟨record, hrecord, hseq⟩ := h.entry
  obtain ⟨record', hrecord', hle⟩ := hchange.dirty_kept hacks hrecord
  exact ⟨⟨record', hrecord', hseq.trans hle⟩, (hchange.processed_until_kept hacks ..).trans_lt h.behind⟩

theorem Outstanding.reordered (h : Outstanding project_id company_id conversation_id consumer_id seq inner)
    (hreordered : inner.Reordered inner') :
    Outstanding project_id company_id conversation_id consumer_id seq inner' := by
  obtain ⟨record, hrecord, hseq⟩ := h.entry
  refine ⟨⟨record, (hreordered.dirty.lookup _).symm.trans hrecord, hseq⟩, ?_⟩
  rw [processed_until, ← hreordered.consumer_state.lookup]
  exact h.behind

/-- An ack of the consumer that stops short of the work, or an ack of another
that does not complete the entry, leaves the work outstanding. -/
theorem Outstanding.acked (h : Outstanding project_id company_id conversation_id consumer_id seq inner)
    {request : DirtyAckRequest} {record : DirtyRecord}
    (hrecord : inner.dirty.lookup (project_id, company_id, conversation_id) = some record)
    (hown : request.consumer_id = consumer_id → request.processed_until_seq < seq)
    (hothers : request.consumer_id ≠ consumer_id →
      ¬ AckCompletes inner project_id company_id conversation_id request record.max_seq) :
    Outstanding project_id company_id conversation_id consumer_id seq
      (acked inner project_id company_id conversation_id request record) := by
  have hseq : seq ≤ record.max_seq := by
    obtain ⟨record', hrecord', hseq⟩ := h.entry
    rw [hrecord] at hrecord'
    cases hrecord'
    exact hseq
  have hcompletes : ¬ AckCompletes inner project_id company_id conversation_id request record.max_seq := by
    by_cases hconsumer : request.consumer_id = consumer_id
    · exact fun hcompletes => absurd hcompletes.1 (by have := hown hconsumer; omega)
    · exact hothers hconsumer
  refine ⟨⟨record, ?_, hseq⟩, ?_⟩
  · rw [acked_dirty_of_not_completes _ _ _ _ _ _ hcompletes]
    exact hrecord
  · rw [processed_until, acked_consumer_state, HashMap.lookup_insert_ite]
    split
    · next heq =>
      simp only [Prod.mk.injEq, true_and, and_true] at heq
      exact hown heq.symm
    · exact h.behind

/-- A cursor behind the work keeps every ack of the others from completing the
entry. -/
theorem Outstanding.not_completes
    (h : Outstanding project_id company_id conversation_id consumer_id seq inner)
    {request : DirtyAckRequest} {record : DirtyRecord}
    (hrecord : inner.dirty.lookup (project_id, company_id, conversation_id) = some record)
    (hconsumer : request.consumer_id ≠ consumer_id)
    (hregistered : (inner.consumer_state.lookup
      (project_id, company_id, consumer_id, conversation_id)).isSome = true) :
    ¬ AckCompletes inner project_id company_id conversation_id request record.max_seq := by
  intro hcompletes
  obtain ⟨cursor, hcursor⟩ := Option.isSome_iff_exists.mp hregistered
  obtain ⟨record', hrecord', hseq⟩ := h.entry
  rw [hrecord] at hrecord'
  cases hrecord'
  have hreached := hcompletes.2 consumer_id cursor (Ne.symm hconsumer) hcursor
  have hbehind := h.behind
  rw [processed_until, hcursor, Option.getD_some] at hbehind
  omega

/-- An ack of another conversation does not touch the work. -/
theorem Outstanding.acked_elsewhere
    (h : Outstanding project_id company_id conversation_id consumer_id seq inner)
    {project company conversation : String}
    (hkey : (project, company, conversation) ≠ (project_id, company_id, conversation_id))
    (request : DirtyAckRequest) (record : DirtyRecord) :
    Outstanding project_id company_id conversation_id consumer_id seq
      (rustzap.state.acked inner project company conversation request record) := by
  obtain ⟨stored, hstored, hseq⟩ := h.entry
  refine ⟨⟨stored, ?_, hseq⟩, ?_⟩
  · by_cases hcompletes : AckCompletes inner project company conversation request record.max_seq
    · rw [acked_dirty_of_completes _ _ _ _ _ _ hcompletes, HashMap.lookup_erase_ite, if_neg (Ne.symm hkey)]
      exact hstored
    · rw [acked_dirty_of_not_completes _ _ _ _ _ _ hcompletes]
      exact hstored
  · rw [processed_until, acked_consumer_state, HashMap.lookup_insert_ite, if_neg]
    · exact h.behind
    · intro heq
      simp only [Prod.mk.injEq] at heq
      exact hkey (by rw [heq.1, heq.2.1, heq.2.2.2])

theorem Outstanding.step {self : AppState} {store store' : Store} {label : Ctx × StoreOp}
    (h : Outstanding project_id company_id conversation_id consumer_id seq store.inner)
    (hacked : NotYetAcked project_id company_id conversation_id consumer_id seq store label)
    (hawaits : AwaitsConsumer project_id company_id conversation_id consumer_id store label)
    (hstep : Store.Step self store label store') :
    Outstanding project_id company_id conversation_id consumer_id seq store'.inner := by
  refine Outstanding.reordered ?_ hstep
  by_cases hack : label.2.IsAck
  · obtain ⟨ctx, op⟩ := label
    cases op with
    | ack_dirty project company conversation request =>
      change Outstanding _ _ _ _ _ (ack_dirty ctx store.inner project company conversation request).2
      rcases ack_dirty_cases ctx store.inner project company conversation request with
        heq | ⟨record, hrecord, hlease, heq⟩
      · rw [heq]
        exact h
      · rw [heq]
        by_cases hkey : (project, company, conversation) = (project_id, company_id, conversation_id)
        · cases hkey
          refine h.acked hrecord (hacked request rfl) (fun hconsumer => ?_)
          rcases hawaits request record rfl hconsumer hlease hrecord with hregistered | hcompletes
          · exact h.not_completes hrecord hconsumer hregistered
          · exact hcompletes
        · exact h.acked_elsewhere hkey request record
    | _ => exact hack.elim
  · exact (label.2.apply_changes self label.1 store.keyed.messages).invariant
      (fun _ _ hinv hchange => hinv.change hack hchange) h

/-- Outstanding work is listed to the consumer. -/
theorem Outstanding.listed {store : Store} {limit : Nat} (ctx : Ctx)
    (h : Outstanding project_id company_id conversation_id consumer_id seq store.inner)
    (hlimit : dirty_count store.inner project_id company_id ≤ limit) :
    ∃ item ∈ (list_dirty ctx store.inner project_id company_id consumer_id limit).1,
      item.conversation_id = conversation_id ∧ seq ≤ item.max_seq := by
  obtain ⟨record, hrecord, hseq⟩ := h.entry
  obtain ⟨position, hitem, -⟩ := mem_list_dirty ctx hlimit hrecord (h.behind.trans_le hseq)
  exact ⟨_, hitem, store.keyed.dirty _ record hrecord, hseq⟩

end Work

def sample.polled (consumer_id : String) (second : Nat) : Ctx × StoreOp :=
  (sample.ctx second consumer_id, .list_dirty "acme" "company_a" consumer_id 10)

def sample.acked (consumer_id : String) (second : Nat) : Ctx × StoreOp :=
  (sample.ctx second consumer_id, .ack_dirty "acme" "company_a" "5511988887777@s.whatsapp.net"
    { consumer_id, lease_token := "lease_" ++ consumer_id ++ "0", processed_until_seq := 1 })

end rustzap.state
