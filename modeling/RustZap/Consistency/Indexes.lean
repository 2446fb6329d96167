import RustZap.State.Service
import RustZap.Lib.Grouped

open collections serde_json runs
open rustzap.models rustzap.whatsapp

namespace rustzap.state

/-- The two indexes of the messages agree: every message of the id map stands once in
the list of its conversation, field by field as it is, and the lists hold nothing
else. -/
def IndexesAgree (inner : StoreInner) : Prop :=
  Grouped.Agree Message.conversation_id Message.id inner.messages_by_conversation inner.messages_by_id

/-- The only message of its id in a list is the one that is replaced. -/
theorem replace_message_filter {message old : Message} (query : String) :
    ∀ {messages : List Message}, (messages.filter fun stored => stored.id = message.id) = [old] →
      ((replace_message messages message).filter fun stored => stored.id = query) =
        if query = message.id then (messages.filter fun stored => stored.id = query).map fun _ => message
        else messages.filter fun stored => stored.id = query := by
  intro messages
  induction messages with
  | nil => intro hone; cases hone
  | cons stored rest ih =>
    intro hone
    rw [replace_message]
    by_cases hstored : stored.id = message.id
    · rw [List.filter_cons_of_pos (by simpa using hstored)] at hone
      have hrest := (List.cons.inj hone).2
      rw [if_pos hstored]
      split
      · next hquery =>
        subst hquery
        simp [hstored, hrest]
      · next hquery =>
        have hother : ¬ stored.id = query := fun heq => hquery (heq.symm.trans hstored)
        simp [hother, Ne.symm hquery]
    · rw [List.filter_cons_of_neg (by simpa using hstored)] at hone
      have hrest := ih hone
      rw [if_neg hstored]
      by_cases hquery : stored.id = query
      · have hother : ¬ query = message.id := fun heq => hstored (hquery.trans heq)
        rw [if_neg hother] at hrest ⊢
        simp [hquery, hrest]
      · rw [List.filter_cons_of_neg (by simpa using hquery), List.filter_cons_of_neg (by simpa using hquery)]
        exact hrest

theorem IndexesAgree.store_message {inner : StoreInner} (h : IndexesAgree inner) {message_id : String}
    {old new : Message} (hold : inner.messages_by_id.lookup message_id = some old)
    (hid : old.id = message_id) (hsame : SameMessage old new) :
    IndexesAgree (store_message inner message_id new) := by
  obtain ⟨messages, hmessages, -⟩ := Grouped.Agree.mem h hold
  rw [← hsame.conversation_id] at hmessages
  unfold IndexesAgree state.store_message
  dsimp only
  rw [hmessages]
  have hcopy : (messages.filter fun stored => stored.id = new.id) = [old] := by
    have honce := ((Grouped.Agree.held_once_iff h _ _).mp hold).1
    rw [Grouped.copies, ← hsame.conversation_id, hmessages] at honce
    rw [hsame.id, hid]
    exact honce
  refine Grouped.Agree.replace h hold hsame.conversation_id hmessages fun query => ?_
  rw [replace_message_filter query hcopy, hsame.id, hid]

theorem IndexesAgree.change {ctx : Ctx} {on_queue : Prop} {inner inner' : StoreInner} (hkeyed : inner.WellKeyed)
    (hchange : Change ctx (.quiet on_queue) inner inner') (h : IndexesAgree inner) : IndexesAgree inner' := by
  cases hchange with
  | aside hsame =>
    unfold IndexesAgree
    rw [hsame.messages_by_conversation, hsame.messages_by_id]
    exact h
  | record hrecorded hnew hquiet => exact absurd trivial (hquiet "" "")
  | rewrite hold hsame hwa => exact h.store_message hold (hkeyed.messages _ _ hold) hsame
  | rewrite_all f hsame hwa =>
    exact Grouped.Agree.map_values h (fun message => (hsame message).conversation_id)
      (fun message => (hsame message).id)
  | converse hsame => exact h
  | converse_all f hsame => exact h
  | mark now project_id company_id conversation_id seq hseq => exact h
  | poll now project_id company_id consumer_id limit => exact h
  | ack request hdirty hacks =>
    unfold IndexesAgree acked
    dsimp only
    split <;> exact h

theorem IndexesAgree.remove_expired {inner : StoreInner} (hkeyed : inner.WellKeyed)
    (h : IndexesAgree inner) (message_ids media_ids : List String) :
    IndexesAgree (remove_expired inner message_ids media_ids) := by
  refine Grouped.Agree.filter h (fun message => !message_ids.contains message.id) ?_ ?_
  · intro conversation_id message_id
    dsimp only [Grouped.copies, state.remove_expired]
    rw [HashMap.lookup_map_values]
    cases inner.messages_by_conversation.lookup conversation_id with
    | none => rfl
    | some messages =>
      rw [Option.map_some, Option.getD_some, Option.getD_some, List.filter_comm]
  · intro message_id
    dsimp only [state.remove_expired]
    rw [HashMap.lookup_retain]
    cases hmessage : inner.messages_by_id.lookup message_id with
    | none => rfl
    | some message =>
      rw [← hkeyed.messages message_id message hmessage]
      rfl

section Sanitized

variable {store : PersistedStore}

theorem removed_of_mem_list {conversation_id : String} {messages : List Message} {message : Message}
    (hmessages : store.messages_by_conversation.lookup conversation_id = some messages)
    (hmem : message ∈ messages) (hkept : message.id ∉ removed_message_ids store) :
    removed store message = false := by
  rw [Bool.eq_false_iff]
  intro hremoved
  refine hkept (List.mem_append_right _ (List.mem_map_of_mem (List.mem_filter.mpr ⟨?_, hremoved⟩)))
  exact List.mem_flatten.mpr ⟨messages, HashMap.mem_values_of_lookup hmessages, hmem⟩

/-- Where the indexes agree, a list loses the messages whose ids are removed, and
disappears only when none is left. -/
theorem sanitized_list (h : Grouped.Agree Message.conversation_id Message.id store.messages_by_conversation
      store.messages_by_id) (conversation_id : String) :
    ((sanitize_updates_surfaces store).messages_by_conversation.lookup conversation_id).getD [] =
      ((store.messages_by_conversation.lookup conversation_id).getD []).filter fun message =>
        !(removed_message_ids store).contains message.id := by
  rw [sanitized_messages_by_conversation_lookup]
  cases hmessages : store.messages_by_conversation.lookup conversation_id with
  | none => rfl
  | some messages =>
    have hfilter : (messages.filter fun message =>
          !(removed_message_ids store).contains message.id && !message_updates_surface message) =
        messages.filter fun message => !(removed_message_ids store).contains message.id := by
      apply List.filter_congr
      intro message hmem
      by_cases hid : message.id ∈ removed_message_ids store
      · simp [hid]
      · have hkept := removed_of_mem_list hmessages hmem hid
        rw [removed, Bool.or_eq_false_iff] at hkept
        simp [hkept.2]
    rw [Option.map_some, hfilter, Option.getD_some]
    cases hleft : messages.filter fun message => !(removed_message_ids store).contains message.id with
    | nil => simp [Option.filter]
    | cons message rest =>
      -- a message that is left shows that its conversation is
      have hmem : message ∈ messages.filter fun message =>
          !(removed_message_ids store).contains message.id := by
        rw [hleft]
        exact List.mem_cons_self
      obtain ⟨hmem, hid⟩ := List.mem_filter.mp hmem
      have hkept := removed_of_mem_list hmessages hmem (by simpa using hid)
      rw [removed, message_updates_surface, (Grouped.Agree.of_mem h hmessages hmem).2] at hkept
      simp only [Bool.or_eq_false_iff] at hkept
      have hallowed : conversation_id ∉ disallowed_conversations store := by simpa using hkept.1
      rw [Option.filter_some_pos, Option.getD_some]
      simp [hallowed, hkept.2.1]

theorem sanitized_indexes_agree (hkeyed : store.messages_by_id.Keyed Message.id)
    (h : Grouped.Agree Message.conversation_id Message.id store.messages_by_conversation
      store.messages_by_id) :
    Grouped.Agree Message.conversation_id Message.id
      (sanitize_updates_surfaces store).messages_by_conversation
      (sanitize_updates_surfaces store).messages_by_id := by
  refine Grouped.Agree.filter h (fun message => !(removed_message_ids store).contains message.id) ?_ ?_
  · intro conversation_id message_id
    rw [Grouped.copies, sanitized_list h, List.filter_comm]
    rfl
  · intro message_id
    rw [sanitized_messages_by_id_lookup]
    cases hmessage : store.messages_by_id.lookup message_id with
    | none => simp
    | some message =>
      rw [← hkeyed message_id message hmessage]
      by_cases hid : message.id ∈ removed_message_ids store
      · rw [if_pos hid, Option.filter_some_neg]
        simpa using hid
      · rw [if_neg hid, Option.filter_some_pos]
        simpa using hid

end Sanitized

theorem IndexesAgree.restarted {inner : StoreInner} (hkeyed : inner.WellKeyed) (h : IndexesAgree inner) :
    IndexesAgree (restarted inner) := by
  have hfirst : IndexesAgree (PersistedStore.from_inner inner).into_inner ↔
      Grouped.Agree Message.conversation_id Message.id
        (sanitize_updates_surfaces (sanitize_updates_surfaces inner.to_persisted)).messages_by_conversation
        (sanitize_updates_surfaces (sanitize_updates_surfaces inner.to_persisted)).messages_by_id := Iff.rfl
  have hkeyed' : inner.to_persisted.messages_by_id.Keyed Message.id := hkeyed.messages
  exact hfirst.mpr (sanitized_indexes_agree (sanitized_messages_keyed hkeyed')
    (sanitized_indexes_agree hkeyed' h))

/-- The two indexes agree throughout the life of a service. -/
theorem indexes_agree_preserved : Preserved IndexesAgree where
  reordered _ _ hreordered h :=
    Grouped.Agree.reordered h hreordered.messages_by_conversation hreordered.messages_by_id
  recorded _ _ message _ _ hrecorded hnew h := by
    obtain ⟨conversation, contacts, group_members, events, -, rfl⟩ := hrecorded
    exact Grouped.Agree.append h hnew
  changed _ _ _ _ hkeyed hchange h := h.change hkeyed hchange
  removed _ message_ids media_ids hkeyed h := h.remove_expired hkeyed message_ids media_ids
  restarted _ hkeyed h := h.restarted hkeyed

end rustzap.state
