import RustZap.Consistency.Indexes

open collections serde_json runs
open rustzap.models rustzap.whatsapp

namespace rustzap.state

/-- The number of the last message that a conversation has counted; a conversation
that is not there has counted none. -/
def last_seq (conversations : HashMap String Conversation) (conversation_id : String) : Int :=
  (conversations.lookup conversation_id).elim 0 Conversation.last_seq

/-- Sequence numbers that go up and lie between one and the last one. -/
def InOrder (last : Int) (seqs : List Int) : Prop :=
  seqs.Pairwise (· < ·) ∧ ∀ seq ∈ seqs, 1 ≤ seq ∧ seq ≤ last

theorem InOrder.append_next {last : Int} {seqs : List Int} (h : InOrder last seqs) (hlast : 0 ≤ last) :
    InOrder (last + 1) (seqs ++ [last + 1]) := by
  constructor
  · refine List.pairwise_append.mpr ⟨h.1, List.pairwise_singleton .., ?_⟩
    intro seq hseq next hnext
    rw [List.mem_singleton.mp hnext]
    have := (h.2 seq hseq).2
    omega
  · intro seq hseq
    rcases List.mem_append.mp hseq with hold | hnext
    · have := h.2 seq hold
      omega
    · rw [List.mem_singleton.mp hnext]
      omega

theorem InOrder.sublist {last : Int} {seqs seqs' : List Int} (h : InOrder last seqs)
    (hsub : seqs'.Sublist seqs) : InOrder last seqs' :=
  ⟨h.1.sublist hsub, fun seq hseq => h.2 seq (hsub.subset hseq)⟩

/-- The numbers of every list are in order up to the count of its conversation, and no
dirty entry is ahead of that count. -/
structure SequencesInOrder (inner : StoreInner) : Prop where
  counted : ∀ conversation_id, 0 ≤ last_seq inner.conversations conversation_id
  listed : ∀ conversation_id messages,
    inner.messages_by_conversation.lookup conversation_id = some messages →
    InOrder (last_seq inner.conversations conversation_id) (messages.map Message.conversation_seq)
  dirty : ∀ key record, inner.dirty.lookup key = some record →
    record.max_seq ≤ last_seq inner.conversations key.2.2

theorem last_seq_insert (conversations : HashMap String Conversation) (key : String)
    (conversation : Conversation) (conversation_id : String) :
    last_seq (conversations.insert key conversation) conversation_id =
      if conversation_id = key then conversation.last_seq else last_seq conversations conversation_id := by
  rw [last_seq, HashMap.lookup_insert_ite]
  split <;> rfl

/-- A change that records nothing counts nothing. -/
theorem Change.last_seq_eq {ctx : Ctx} {on_queue : Prop} {inner inner' : StoreInner}
    (h : Change ctx (.quiet on_queue) inner inner') (conversation_id : String) :
    last_seq inner'.conversations conversation_id = last_seq inner.conversations conversation_id := by
  cases h with
  | aside hsame => rw [hsame.conversations]
  | record hrecorded hnew hquiet => exact absurd trivial (hquiet "" "")
  | rewrite hold hsame hwa => rfl
  | rewrite_all f hsame hwa => rfl
  | converse hsame =>
    dsimp only
    rw [last_seq_insert]
    split
    · next heq =>
      rw [heq, hsame.last_seq]
      rfl
    · rfl
  | converse_all f hsame =>
    dsimp only [last_seq]
    rw [HashMap.lookup_map_values]
    cases inner.conversations.lookup conversation_id with
    | none => rfl
    | some conversation => exact (hsame conversation).last_seq
  | mark now project_id company_id conversation_id seq hseq => rfl
  | poll now project_id company_id consumer_id limit => rfl
  | ack request hdirty hacks =>
    unfold acked
    dsimp only
    split <;> rfl

theorem Changes.last_seq_eq {ctx : Ctx} {on_queue : Prop} {inner inner' : StoreInner}
    (h : Changes ctx (.quiet on_queue) inner inner') (conversation_id : String) :
    last_seq inner'.conversations conversation_id = last_seq inner.conversations conversation_id := by
  have hstep : ∀ s t, last_seq s.conversations conversation_id = last_seq inner.conversations conversation_id →
      Change ctx (.quiet on_queue) s t →
      last_seq t.conversations conversation_id = last_seq inner.conversations conversation_id :=
    fun s t heq hchange => (hchange.last_seq_eq conversation_id).trans heq
  exact h.invariant hstep rfl

theorem marked_dirty_max_seq_le {now : OffsetDateTime} {conversation_id : String} {seq last : Int}
    {stored : Option DirtyRecord} (hstored : ∀ record, stored = some record → record.max_seq ≤ last)
    (hseq : seq ≤ last) : (marked_dirty now conversation_id seq stored).max_seq ≤ last := by
  rw [marked_dirty_max_seq]
  cases stored with
  | none => exact hseq
  | some record => exact max_le (hstored record rfl) hseq

section Recorded

variable {ctx : Ctx} {message : Message} {inner inner' : StoreInner}

/-- A recorded message gets the number after the last one. -/
theorem Recorded.conversation_seq (h : Recorded ctx inner message inner') :
    message.conversation_seq = last_seq inner.conversations message.conversation_id + 1 := by
  obtain ⟨conversation, contacts, group_members, events, hcounted, -⟩ := h
  exact hcounted.next_seq

theorem Recorded.last_seq_eq (h : Recorded ctx inner message inner') (conversation_id : String) :
    last_seq inner'.conversations conversation_id =
      if conversation_id = message.conversation_id then message.conversation_seq
      else last_seq inner.conversations conversation_id := by
  obtain ⟨conversation, contacts, group_members, events, hcounted, rfl⟩ := h
  dsimp only
  rw [last_seq_insert, hcounted.last_seq]

theorem Recorded.last_seq_le (h : Recorded ctx inner message inner') (conversation_id : String) :
    last_seq inner.conversations conversation_id ≤ last_seq inner'.conversations conversation_id := by
  rw [h.last_seq_eq]
  split
  · next heq =>
    have := h.conversation_seq
    rw [heq]
    omega
  · exact le_rfl

theorem SequencesInOrder.recorded (hrecorded : Recorded ctx inner message inner')
    (h : SequencesInOrder inner) : SequencesInOrder inner' := by
  have hmono := hrecorded.last_seq_le
  have hseq := hrecorded.conversation_seq
  have hlast := hrecorded.last_seq_eq message.conversation_id
  rw [if_pos rfl] at hlast
  refine ⟨fun conversation_id => (h.counted conversation_id).trans (hmono conversation_id), ?_, ?_⟩
  · obtain ⟨conversation, contacts, group_members, events, -, rfl⟩ := hrecorded
    intro conversation_id messages hmessages
    dsimp only at hmessages hlast hmono ⊢
    rw [HashMap.lookup_insert_ite] at hmessages
    split at hmessages
    · next heq =>
      cases hmessages
      subst heq
      rw [hlast, hseq, List.map_append, List.map_singleton, hseq]
      refine InOrder.append_next ?_ (h.counted _)
      cases hstored : inner.messages_by_conversation.lookup message.conversation_id with
      | none => exact ⟨List.Pairwise.nil, fun _ hmem => absurd hmem List.not_mem_nil⟩
      | some stored => exact h.listed _ stored hstored
    · obtain ⟨hpairwise, hbounds⟩ := h.listed conversation_id messages hmessages
      exact ⟨hpairwise, fun seq hmem => ⟨(hbounds seq hmem).1,
        (hbounds seq hmem).2.trans (hmono conversation_id)⟩⟩
  · obtain ⟨conversation, contacts, group_members, events, -, rfl⟩ := hrecorded
    intro key record hrecord
    dsimp only at hrecord hlast hmono ⊢
    rw [HashMap.lookup_insert_ite] at hrecord
    split at hrecord
    · next heq =>
      cases hrecord
      subst heq
      refine marked_dirty_max_seq_le (fun stored hstored => ?_) hlast.ge
      exact (h.dirty _ stored hstored).trans (hmono message.conversation_id)
    · exact (h.dirty key record hrecord).trans (hmono key.2.2)

end Recorded

/-- Where the indexes agree, the numbers of the stored messages are counted. -/
theorem SequencesInOrder.stored {inner : StoreInner} (h : SequencesInOrder inner)
    (hagree : IndexesAgree inner) {message_id : String} {message : Message}
    (hmessage : inner.messages_by_id.lookup message_id = some message) :
    message.conversation_seq ≤ last_seq inner.conversations message.conversation_id := by
  obtain ⟨messages, hmessages, hmem⟩ := Grouped.Agree.mem hagree hmessage
  exact ((h.listed _ messages hmessages).2 _ (List.mem_map_of_mem hmem)).2

theorem SequencesInOrder.markable {inner : StoreInner} (h : SequencesInOrder inner)
    (hkeyed : inner.WellKeyed) (hagree : IndexesAgree inner) {conversation_id : String} {seq : Int}
    (hseq : Markable inner conversation_id seq) : seq ≤ last_seq inner.conversations conversation_id := by
  rcases hseq with ⟨message_id, message, hmessage, rfl, rfl⟩ | ⟨key, conversation, hconversation, rfl, rfl⟩
  · exact h.stored hagree hmessage
  · rw [hkeyed.conversations key conversation hconversation, last_seq, hconversation]
    exact le_rfl

theorem replace_message_seqs {message : Message} :
    ∀ {messages : List Message}, (∀ stored ∈ messages, stored.id = message.id →
        stored.conversation_seq = message.conversation_seq) →
      (replace_message messages message).map Message.conversation_seq =
        messages.map Message.conversation_seq := by
  intro messages
  induction messages with
  | nil => intro _; rfl
  | cons stored rest ih =>
    intro hsame
    rw [replace_message]
    split
    · next hid => rw [List.map_cons, List.map_cons, hsame stored List.mem_cons_self hid]
    · rw [List.map_cons, List.map_cons, ih fun other hother => hsame other (List.mem_cons_of_mem _ hother)]

/-- The lists after a change that records nothing carry the numbers they did. -/
theorem Change.listed_seqs {ctx : Ctx} {on_queue : Prop} {inner inner' : StoreInner} (hkeyed : inner.WellKeyed)
    (hagree : IndexesAgree inner) (h : Change ctx (.quiet on_queue) inner inner') (conversation_id : String) :
    (inner'.messages_by_conversation.lookup conversation_id).map (List.map Message.conversation_seq) =
      (inner.messages_by_conversation.lookup conversation_id).map (List.map Message.conversation_seq) := by
  cases h with
  | aside hsame => rw [hsame.messages_by_conversation]
  | record hrecorded hnew hquiet => exact absurd trivial (hquiet "" "")
  | @rewrite message_id old new hold hsame hwa =>
    unfold store_message
    dsimp only
    split
    · next messages hmessages =>
      rw [HashMap.lookup_insert_ite]
      split
      · next heq =>
        rw [heq, hmessages, Option.map_some, Option.map_some, replace_message_seqs]
        intro stored hmem hid
        -- the list's entry of that id is the message that was looked up
        have hstored := (Grouped.Agree.of_mem hagree hmessages hmem).1
        rw [hid, hsame.id, hkeyed.messages message_id old hold, hold] at hstored
        cases hstored
        exact hsame.conversation_seq.symm
      · rfl
    · rfl
  | rewrite_all f hsame hwa =>
    dsimp only
    rw [HashMap.lookup_map_values, Option.map_map]
    cases inner.messages_by_conversation.lookup conversation_id with
    | none => rfl
    | some messages =>
      rw [Option.map_some, Option.map_some, Function.comp_apply, List.map_map]
      exact congrArg some (List.map_congr_left fun message _ => (hsame message).conversation_seq)
  | converse hsame => rfl
  | converse_all f hsame => rfl
  | mark now project_id company_id conversation_id seq hseq => rfl
  | poll now project_id company_id consumer_id limit => rfl
  | ack request hdirty hacks =>
    unfold acked
    dsimp only
    split <;> rfl

theorem SequencesInOrder.change {ctx : Ctx} {on_queue : Prop} {inner inner' : StoreInner}
    (hkeyed : inner.WellKeyed) (hagree : IndexesAgree inner)
    (hchange : Change ctx (.quiet on_queue) inner inner') (h : SequencesInOrder inner) :
    SequencesInOrder inner' := by
  have hlast := hchange.last_seq_eq
  refine ⟨fun conversation_id => ?_, fun conversation_id messages hmessages => ?_, ?_⟩
  · rw [hlast]
    exact h.counted conversation_id
  · have hseqs := hchange.listed_seqs hkeyed hagree conversation_id
    rw [hmessages, Option.map_some] at hseqs
    obtain ⟨stored, hstored, heq⟩ := Option.map_eq_some_iff.mp hseqs.symm
    rw [hlast, ← heq]
    exact h.listed conversation_id stored hstored
  · intro key record hrecord
    rw [hlast]
    cases hchange with
    | aside hsame =>
      rw [hsame.dirty] at hrecord
      exact h.dirty key record hrecord
    | record hrecorded hnew hquiet => exact absurd trivial (hquiet "" "")
    | rewrite hold hsame hwa => exact h.dirty key record hrecord
    | rewrite_all f hsame hwa => exact h.dirty key record hrecord
    | converse hsame => exact h.dirty key record hrecord
    | converse_all f hsame => exact h.dirty key record hrecord
    | mark now project_id company_id conversation_id seq hseq =>
      dsimp only at hrecord
      rw [HashMap.lookup_insert_ite] at hrecord
      split at hrecord
      · next heq =>
        cases hrecord
        subst heq
        exact marked_dirty_max_seq_le (fun stored hstored => h.dirty _ stored hstored)
          (h.markable hkeyed hagree hseq)
      · exact h.dirty key record hrecord
    | poll now project_id company_id consumer_id limit => exact h.dirty key record hrecord
    | ack request hdirty hacks => exact h.dirty key record (acked_dirty_lookup hrecord)

theorem SequencesInOrder.remove_expired {inner : StoreInner} (h : SequencesInOrder inner)
    (message_ids media_ids : List String) :
    SequencesInOrder (remove_expired inner message_ids media_ids) := by
  refine ⟨h.counted, ?_, h.dirty⟩
  intro conversation_id messages hmessages
  dsimp only [state.remove_expired] at hmessages
  rw [HashMap.lookup_map_values, Option.map_eq_some_iff] at hmessages
  obtain ⟨stored, hstored, rfl⟩ := hmessages
  exact (h.listed conversation_id stored hstored).sublist (List.filter_sublist.map _)

/-- The conversation is on an updates surface. -/
def on_updates_surface (conversations : HashMap String Conversation) (conversation_id : String) : Bool :=
  (conversations.lookup conversation_id).any conversation_updates_surface

section Sanitized

variable {store : PersistedStore}

theorem placeholder_last_seq (media : Option MediaObject) :
    (media.map (placeholder_conversation store)).elim 0 Conversation.last_seq = 0 := by
  cases media <;> rfl

/-- A snapshot keeps the count of a conversation that is on no updates surface. -/
theorem sanitized_last_seq {conversation_id : String}
    (hsurface : on_updates_surface store.conversations conversation_id = false) :
    last_seq (sanitize_updates_surfaces store).conversations conversation_id =
      last_seq store.conversations conversation_id := by
  rw [last_seq, last_seq, sanitized_conversations_lookup]
  rw [on_updates_surface] at hsurface
  cases hconversation : store.conversations.lookup conversation_id with
  | none => exact placeholder_last_seq _
  | some conversation =>
    rw [hconversation, Option.any_some] at hsurface
    rw [Option.filter_some_pos (by simp [hsurface])]
    rfl

theorem sanitized_last_seq_nonneg {conversation_id : String}
    (h : 0 ≤ last_seq store.conversations conversation_id) :
    0 ≤ last_seq (sanitize_updates_surfaces store).conversations conversation_id := by
  cases hsurface : on_updates_surface store.conversations conversation_id with
  | false =>
    rw [sanitized_last_seq hsurface]
    exact h
  | true =>
    rw [last_seq, sanitized_conversations_lookup]
    rw [on_updates_surface] at hsurface
    cases hconversation : store.conversations.lookup conversation_id with
    | none => exact (placeholder_last_seq _).ge
    | some conversation =>
      rw [hconversation, Option.any_some] at hsurface
      rw [Option.filter_some_neg (by simp [hsurface]), Option.none_or]
      exact (placeholder_last_seq _).ge

theorem not_on_updates_surface (hkeyed : store.conversations.Keyed Conversation.id) {conversation_id : String}
    (hallowed : conversation_id ∉ disallowed_conversations store) :
    on_updates_surface store.conversations conversation_id = false := by
  rw [on_updates_surface, Option.any_eq_false]
  intro conversation hconversation
  rw [Bool.eq_false_iff]
  intro hsurface
  refine hallowed (List.mem_append_left _ ?_)
  rw [← hkeyed conversation_id conversation hconversation]
  exact List.mem_map_of_mem (List.mem_filter.mpr ⟨HashMap.mem_values_of_lookup hconversation, hsurface⟩)

theorem sanitized_not_on_updates_surface (conversation_id : String) :
    on_updates_surface (sanitize_updates_surfaces store).conversations conversation_id = false := by
  have hnone := (List.append_eq_nil_iff.mp (disallowed_conversations_sanitized store)).1
  rw [List.map_eq_nil_iff, List.filter_eq_nil_iff] at hnone
  rw [on_updates_surface, Option.any_eq_false]
  intro conversation hconversation
  exact Bool.eq_false_iff.mpr (hnone conversation (HashMap.mem_values_of_lookup hconversation))

end Sanitized

section Restarted

variable {inner : StoreInner}

theorem restarted_conversations (inner : StoreInner) : (restarted inner).conversations =
    (sanitize_updates_surfaces (sanitize_updates_surfaces inner.to_persisted)).conversations := rfl

/-- A restart keeps the count of a conversation that is on no updates surface. -/
theorem restarted_last_seq {conversation_id : String}
    (hsurface : on_updates_surface inner.conversations conversation_id = false) :
    last_seq (restarted inner).conversations conversation_id =
      last_seq inner.conversations conversation_id := by
  have hfirst : last_seq (sanitize_updates_surfaces inner.to_persisted).conversations conversation_id =
    last_seq inner.to_persisted.conversations conversation_id := sanitized_last_seq hsurface
  rw [restarted_conversations, sanitized_last_seq (sanitized_not_on_updates_surface conversation_id), hfirst]
  rfl

/-- A list that is there after a restart is what is left of one that was there. -/
theorem of_restarted_messages_by_conversation_lookup {conversation_id : String} {messages : List Message}
    (h : (restarted inner).messages_by_conversation.lookup conversation_id = some messages) :
    conversation_id ∉ dropped_conversations inner ∧
      ∃ stored, inner.messages_by_conversation.lookup conversation_id = some stored ∧
        messages.Sublist stored := by
  have hrestarted : (restarted inner).messages_by_conversation = (sanitize_updates_surfaces
    (sanitize_updates_surfaces inner.to_persisted)).messages_by_conversation := rfl
  have hpersisted : inner.to_persisted.messages_by_conversation = inner.messages_by_conversation := rfl
  rw [hrestarted, sanitized_messages_by_conversation_lookup, Option.filter_eq_some_iff,
    Option.map_eq_some_iff] at h
  obtain ⟨⟨first, hfirst, rfl⟩, -⟩ := h
  rw [sanitized_messages_by_conversation_lookup, Option.filter_eq_some_iff, Option.map_eq_some_iff,
    hpersisted] at hfirst
  obtain ⟨⟨stored, hstored, rfl⟩, hallowed⟩ := hfirst
  simp only [Bool.and_eq_true, Bool.not_eq_true', List.contains_eq_mem, decide_eq_false_iff_not] at hallowed
  exact ⟨hallowed.1.1, stored, hstored, List.filter_sublist.trans List.filter_sublist⟩

theorem SequencesInOrder.restarted (hkeyed : inner.WellKeyed) (h : SequencesInOrder inner) :
    SequencesInOrder (restarted inner) := by
  have hkept : ∀ conversation_id, conversation_id ∉ dropped_conversations inner →
      last_seq (state.restarted inner).conversations conversation_id =
        last_seq inner.conversations conversation_id := by
    intro conversation_id hallowed
    have hsurface : on_updates_surface inner.to_persisted.conversations conversation_id = false :=
      not_on_updates_surface hkeyed.conversations hallowed
    exact restarted_last_seq hsurface
  constructor
  · intro conversation_id
    rw [restarted_conversations]
    exact sanitized_last_seq_nonneg (sanitized_last_seq_nonneg (h.counted conversation_id))
  · intro conversation_id messages hmessages
    obtain ⟨hallowed, stored, hstored, hsub⟩ := of_restarted_messages_by_conversation_lookup hmessages
    rw [hkept conversation_id hallowed]
    exact (h.listed conversation_id stored hstored).sublist (hsub.map _)
  · intro key record hrecord
    rw [restarted_dirty_lookup, Option.filter_eq_some_iff] at hrecord
    have hallowed : key.2.2 ∉ dropped_conversations inner := by simpa using hrecord.2
    rw [hkept key.2.2 hallowed]
    exact h.dirty key record hrecord.1

end Restarted

theorem last_seq_reordered {conversations conversations' : HashMap String Conversation}
    (h : conversations.Reordered conversations') (conversation_id : String) :
    last_seq conversations' conversation_id = last_seq conversations conversation_id := by
  rw [last_seq, last_seq, h.lookup]

/-- The sequence numbers stay in order throughout the life of a service. -/
theorem sequences_in_order_preserved :
    Preserved fun inner => IndexesAgree inner ∧ SequencesInOrder inner where
  reordered s t hreordered h := by
    refine ⟨indexes_agree_preserved.reordered s t hreordered h.1, ?_⟩
    have hlast := last_seq_reordered hreordered.conversations
    constructor
    · intro conversation_id
      rw [hlast]
      exact h.2.counted conversation_id
    · intro conversation_id messages hmessages
      rw [← hreordered.messages_by_conversation.lookup] at hmessages
      rw [hlast]
      exact h.2.listed conversation_id messages hmessages
    · intro key record hrecord
      rw [← hreordered.dirty.lookup] at hrecord
      rw [hlast]
      exact h.2.dirty key record hrecord
  recorded ctx s message t hkeyed hrecorded hnew h :=
    ⟨indexes_agree_preserved.recorded ctx s message t hkeyed hrecorded hnew h.1, h.2.recorded hrecorded⟩
  changed _ _ _ _ hkeyed hchange h := ⟨h.1.change hkeyed hchange, h.2.change hkeyed h.1 hchange⟩
  removed _ message_ids media_ids hkeyed h :=
    ⟨h.1.remove_expired hkeyed message_ids media_ids, h.2.remove_expired message_ids media_ids⟩
  restarted _ hkeyed h := ⟨h.1.restarted hkeyed, h.2.restarted hkeyed⟩

theorem sequences_in_order {self : AppState} {labels : List (Ctx × Operation)} {store : Store}
    (hrun : Run (Store.Lives self) Store.empty labels store) : SequencesInOrder store.inner := by
  have hempty : SequencesInOrder Store.empty.inner :=
    ⟨fun _ => le_rfl, nofun, nofun⟩
  exact (sequences_in_order_preserved.run hrun ⟨Grouped.Agree.empty, hempty⟩).2

/-- A change that records nothing brings no message. -/
theorem Change.message_absent {ctx : Ctx} {on_queue : Prop} {inner inner' : StoreInner}
    (h : Change ctx (.quiet on_queue) inner inner') {message_id : String}
    (hnone : inner.messages_by_id.lookup message_id = none) :
    inner'.messages_by_id.lookup message_id = none := by
  cases h.messages with
  | none heq =>
    rw [heq]
    exact hnone
  | record hnew hquiet heq => exact absurd trivial (hquiet "" "")
  | rewrite hold hsame hwa heq =>
    rw [heq, HashMap.lookup_insert_ite, if_neg]
    · exact hnone
    · rintro rfl
      rw [hold] at hnone
      cases hnone
  | rewrite_all f hsame hwa heq =>
    rw [heq, HashMap.lookup_map_values, hnone]
    rfl

theorem Changes.message_absent {ctx : Ctx} {on_queue : Prop} {inner inner' : StoreInner}
    (h : Changes ctx (.quiet on_queue) inner inner') {message_id : String}
    (hnone : inner.messages_by_id.lookup message_id = none) :
    inner'.messages_by_id.lookup message_id = none :=
  h.invariant (fun _ _ hnone hchange => hchange.message_absent hnone) hnone

/-- A step records a message when it is in the store afterwards, under an id that was
not there before. -/
def NewlyRecorded (store store' : Store) (message : Message) : Prop :=
  store.inner.messages_by_id.lookup message.id = none ∧
    store'.inner.messages_by_id.lookup message.id = some message

/-- Where an operation leaves a message under an id that was not there, that is the
message it has recorded. -/
theorem Operation.apply_records (self : AppState) (ctx : Ctx) {inner : StoreInner} (hkeyed : inner.WellKeyed)
    (op : Operation) {message : Message} (hnone : inner.messages_by_id.lookup message.id = none)
    (hsome : (op.apply self ctx inner).messages_by_id.lookup message.id = some message) :
    message.conversation_seq = last_seq inner.conversations message.conversation_id + 1 ∧
      last_seq (op.apply self ctx inner).conversations message.conversation_id =
        message.conversation_seq := by
  rcases op.apply_cases self ctx hkeyed.messages with
    ⟨mid, rfl | ⟨recorded, hrecorded, hnew⟩, hchanges⟩ | ⟨message_ids, media_ids, -, heq⟩ | ⟨-, heq⟩
  · rw [hchanges.message_absent hnone] at hsome
    cases hsome
  · by_cases hid : message.id = recorded.id
    · have hmid : mid.messages_by_id.lookup message.id = some recorded := by
        obtain ⟨conversation, contacts, group_members, events, -, rfl⟩ := hrecorded
        dsimp only
        rw [hid, AList.lookup_insert]
      obtain ⟨kept, hkept, hsame⟩ := hchanges.message_kept (fun hquiet => absurd trivial (hquiet "" "")) hmid
      rw [hsome] at hkept
      cases hkept
      rw [hsame.conversation_seq, hsame.conversation_id, hchanges.last_seq_eq, hrecorded.last_seq_eq,
        if_pos rfl]
      exact ⟨hrecorded.conversation_seq, rfl⟩
    · have hmid : mid.messages_by_id.lookup message.id = none := by
        obtain ⟨conversation, contacts, group_members, events, -, rfl⟩ := hrecorded
        dsimp only
        rw [HashMap.lookup_insert_ite, if_neg hid, hnone]
      rw [hchanges.message_absent hmid] at hsome
      cases hsome
  · rw [heq] at hsome
    have hmessage := (HashMap.lookup_retain_eq_some_iff.mp hsome).1
    rw [hnone] at hmessage
    cases hmessage
  · rw [heq, restarted_messages_by_id_lookup, hnone, ite_self] at hsome
    cases hsome

theorem Operation.last_seq_le (self : AppState) (ctx : Ctx) {inner : StoreInner} (hkeyed : inner.WellKeyed)
    (op : Operation) {conversation_id : String}
    (hkept : op = .restart → on_updates_surface inner.conversations conversation_id = false) :
    last_seq inner.conversations conversation_id ≤
      last_seq (op.apply self ctx inner).conversations conversation_id := by
  rcases op.apply_cases self ctx hkeyed.messages with
    ⟨mid, rfl | ⟨recorded, hrecorded, hnew⟩, hchanges⟩ | ⟨message_ids, media_ids, -, heq⟩ | ⟨hop, heq⟩
  · exact (hchanges.last_seq_eq conversation_id).ge
  · rw [hchanges.last_seq_eq]
    exact hrecorded.last_seq_le conversation_id
  · rw [heq]
    exact le_rfl
  · rw [heq, restarted_last_seq (hkept hop)]

/-- The conversation is on no updates surface when the service restarts. -/
def KeepsConversation (conversation_id : String) (store : Store) (label : Ctx × Operation) : Prop :=
  label.2 = .restart → on_updates_surface store.inner.conversations conversation_id = false

section Steps

variable {self : AppState} {store store' : Store} {label : Ctx × Operation}

theorem NewlyRecorded.conversation_seq {message : Message} (hrecords : NewlyRecorded store store' message)
    (hstep : Store.Next self store label store') :
    message.conversation_seq = last_seq store.inner.conversations message.conversation_id + 1 ∧
      last_seq store'.inner.conversations message.conversation_id = message.conversation_seq := by
  have hsome : (label.2.apply self label.1 store.inner).messages_by_id.lookup message.id = some message :=
    (hstep.messages_by_id.lookup _).trans hrecords.2
  obtain ⟨hseq, hlast⟩ := label.2.apply_records self label.1 store.keyed hrecords.1 hsome
  exact ⟨hseq, (last_seq_reordered hstep.conversations _).trans hlast⟩

theorem last_seq_le_of_run {conversation_id : String} {labels : List (Ctx × Operation)}
    (hrun : Run (Guarded (Store.Next self) (KeepsConversation conversation_id)) store labels store') :
    last_seq store.inner.conversations conversation_id ≤
      last_seq store'.inner.conversations conversation_id := by
  induction hrun with
  | nil => exact le_rfl
  | @cons s t u label labels hstep hrest ih =>
    refine le_trans ?_ ih
    rw [last_seq_reordered hstep.2.conversations]
    exact label.2.last_seq_le self label.1 s.keyed hstep.1

end Steps

/-- Whatever happens from the empty store on, the numbers in a conversation's list go
up and lie between one and the conversation's count, and no dirty entry is ahead of
it. A message that is recorded next gets the number after the count, and a number
above it goes to every message recorded in the conversation from then on, whatever is
removed in between and however often the service restarts. -/
theorem sequence_discipline (self : AppState) {labels : List (Ctx × Operation)} {store : Store}
    (hrun : Run (Store.Lives self) Store.empty labels store) :
    (∀ conversation_id messages,
      store.inner.messages_by_conversation.lookup conversation_id = some messages →
      InOrder (last_seq store.inner.conversations conversation_id)
        (messages.map Message.conversation_seq)) ∧
    (∀ project_id company_id conversation_id dirty,
      store.inner.dirty.lookup (project_id, company_id, conversation_id) = some dirty →
      dirty.max_seq ≤ last_seq store.inner.conversations conversation_id) ∧
    ∀ label next message, Store.Lives self store label next → NewlyRecorded store next message →
      message.conversation_seq = last_seq store.inner.conversations message.conversation_id + 1 ∧
      ∀ labels' before label' after later,
        Run (Guarded (Store.Next self) (KeepsConversation message.conversation_id)) next labels' before →
        Store.Next self before label' after → NewlyRecorded before after later →
        later.conversation_id = message.conversation_id →
        message.conversation_seq < later.conversation_seq := by
  have horder := sequences_in_order hrun
  refine ⟨horder.listed, fun project_id company_id conversation_id dirty => horder.dirty _ dirty, ?_⟩
  intro label next message hstep hrecords
  obtain ⟨hseq, hlast⟩ := hrecords.conversation_seq hstep.2
  refine ⟨hseq, ?_⟩
  intro labels' before label' after later hrun' hstep' hrecords' hsame
  have hle := last_seq_le_of_run hrun'
  have hlater := (hrecords'.conversation_seq hstep').1
  rw [hsame] at hlater
  omega

namespace sample

def answered : Store :=
  live Store.empty [(received.1, .store received.2)]

/-- The answer is the second message of its conversation. -/
def answer : Ctx × Operation :=
  (prepared.1, .store prepared.2)

/-- Both messages are removed for their age, and the service restarts. -/
def forgotten : List (Ctx × Operation) :=
  [(ctx 3 "c", .remove_expired ["msg_a0", "msg_b0"] []), (ctx 4 "d", .restart)]

/-- Another text comes in. -/
def received_again : Ctx × Operation :=
  (ctx 5 "e", .store (.process_whatsapp_event company_a answers (.Message (text_event "3EB0A1" 5 false))))

theorem newly_recorded (store store' : Store) (message_id conversation_id : String)
    (hnone : store.inner.messages_by_id.lookup message_id = none)
    (hsome : (store'.inner.messages_by_id.lookup message_id).map Message.conversation_id =
      some conversation_id) :
    ∃ message, message.conversation_id = conversation_id ∧ NewlyRecorded store store' message := by
  obtain ⟨message, hmessage, hconversation⟩ := Option.map_eq_some_iff.mp hsome
  have hid := store'.keyed.messages message_id message hmessage
  subst hid
  exact ⟨message, hconversation, hnone, hmessage⟩

end sample

theorem number_not_assigned_again :
    ∃ answer later, NewlyRecorded sample.answered (sample.live sample.answered [sample.answer]) answer ∧
      NewlyRecorded (sample.live sample.answered (sample.answer :: sample.forgotten))
        (sample.live sample.answered (sample.answer :: sample.forgotten ++ [sample.received_again])) later ∧
      answer.conversation_seq < later.conversation_seq := by
  have hrun := sample.lives [(sample.received.1, .store sample.received.2)] Store.empty (by decide)
  obtain ⟨answer, hanswer, hrecords⟩ := sample.newly_recorded sample.answered
    (sample.live sample.answered [sample.answer]) "msg_b0" "5511988887777@s.whatsapp.net" (by decide)
    (by decide)
  obtain ⟨later, hlater, hrecords'⟩ := sample.newly_recorded
    (sample.live sample.answered (sample.answer :: sample.forgotten))
    (sample.live sample.answered (sample.answer :: sample.forgotten ++ [sample.received_again]))
    "msg_e0" "5511988887777@s.whatsapp.net" (by decide) (by decide)
  have hforgotten : Run (Guarded (Store.Next sample.service) (KeepsConversation answer.conversation_id))
      (sample.live sample.answered [sample.answer]) sample.forgotten
      (sample.live sample.answered (sample.answer :: sample.forgotten)) := by
    rw [hanswer]
    exact .cons ⟨nofun, StoreInner.Reordered.refl _⟩
      (.cons ⟨fun _ => by decide, StoreInner.Reordered.refl _⟩ (.nil _))
  have hlives : Store.Lives sample.service sample.answered sample.answer
      (sample.live sample.answered [sample.answer]) :=
    ⟨Option.isNone_iff_eq_none.mp (by decide), StoreInner.Reordered.refl _⟩
  have hnumbers := (sequence_discipline sample.service hrun).2.2 _ _ answer hlives hrecords
  exact ⟨answer, later, hrecords, hrecords', hnumbers.2 _ _ _ _ later hforgotten
    (StoreInner.Reordered.refl _) hrecords' (hlater.trans hanswer.symm)⟩

end rustzap.state
