import RustZap.State.Lifecycle

open collections serde_json
open rustzap.error rustzap.models rustzap.whatsapp

namespace rustzap.state

/-- The conversations that a snapshot of the store drops with all that belongs to
them. -/
def dropped_conversations (inner : StoreInner) : List String :=
  disallowed_conversations inner.to_persisted

/-- The messages that a snapshot of the store drops. -/
def dropped_message_ids (inner : StoreInner) : List String :=
  removed_message_ids inner.to_persisted

section Restarted

variable (inner : StoreInner)

theorem restarted_messages_by_id_lookup (message_id : String) :
    (restarted inner).messages_by_id.lookup message_id =
      if message_id ∈ dropped_message_ids inner then none
      else inner.messages_by_id.lookup message_id :=
  into_inner_from_inner_messages_lookup inner message_id

/-- A filter that comes from an empty list keeps everything. -/
theorem filter_not_contains_nil {A : Type} (f : A → String) (items : List A) :
    (items.filter fun item => !([] : List String).contains (f item)) = items := by
  rw [List.filter_eq_self]
  intro item _
  rfl

theorem restarted_dirty_lookup (key : String × String × String) :
    (restarted inner).dirty.lookup key =
      (inner.dirty.lookup key).filter fun _ => !(dropped_conversations inner).contains key.2.2 := by
  have hdirty : ∀ store, (sanitize_updates_surfaces store).dirty =
    store.dirty.filter fun pair => !(disallowed_conversations store).contains pair.1.2.2 := fun _ => rfl
  have hrestarted : (restarted inner).dirty = .of_pairs
    (sanitize_updates_surfaces (sanitize_updates_surfaces inner.to_persisted)).dirty := rfl
  rw [hrestarted, hdirty, disallowed_conversations_sanitized, filter_not_contains_nil, hdirty]
  exact HashMap.lookup_of_pairs_filter inner.dirty _ key

theorem restarted_dirty_leases_lookup (key : String × String × String × String) :
    (restarted inner).dirty_leases.lookup key = (inner.dirty_leases.lookup key).filter fun _ =>
      !(dropped_conversations inner).contains key.2.2.2 := by
  have hleases : ∀ store, (sanitize_updates_surfaces store).dirty_leases =
    store.dirty_leases.filter fun pair => !(disallowed_conversations store).contains pair.1.2.2.2 :=
    fun _ => rfl
  have hrestarted : (restarted inner).dirty_leases = .of_pairs
    (sanitize_updates_surfaces (sanitize_updates_surfaces inner.to_persisted)).dirty_leases := rfl
  rw [hrestarted, hleases, disallowed_conversations_sanitized, filter_not_contains_nil, hleases]
  exact HashMap.lookup_of_pairs_filter inner.dirty_leases _ key

theorem restarted_consumer_state_lookup (key : String × String × String × String) :
    (restarted inner).consumer_state.lookup key = (inner.consumer_state.lookup key).filter fun _ =>
      !(dropped_conversations inner).contains key.2.2.2 := by
  have hstate : ∀ store, (sanitize_updates_surfaces store).consumer_state =
    store.consumer_state.filter fun pair => !(disallowed_conversations store).contains pair.1.2.2.2 :=
    fun _ => rfl
  have hrestarted : (restarted inner).consumer_state = .of_pairs
    (sanitize_updates_surfaces (sanitize_updates_surfaces inner.to_persisted)).consumer_state := rfl
  rw [hrestarted, hstate, disallowed_conversations_sanitized, filter_not_contains_nil, hstate]
  exact HashMap.lookup_of_pairs_filter inner.consumer_state _ key

/-- An idempotency entry is taken for one of a conversation: the client's key is
compared with the ids of the conversations that are dropped. -/
theorem restarted_idempotency_lookup (key : String × String × String) :
    (restarted inner).idempotency.lookup key = (inner.idempotency.lookup key).filter fun record =>
      !(dropped_conversations inner).contains key.2.2 && !is_updates_surface_jid key.2.2 &&
        !(dropped_message_ids inner).contains record.message_id := by
  have hidempotency : ∀ store, (sanitize_updates_surfaces store).idempotency =
    store.idempotency.filter fun pair => !(disallowed_conversations store).contains pair.1.2.2 &&
      !is_updates_surface_jid pair.1.2.2 && !(removed_message_ids store).contains pair.2.message_id :=
    fun _ => rfl
  have hrestarted : (restarted inner).idempotency = .of_pairs
    (sanitize_updates_surfaces (sanitize_updates_surfaces inner.to_persisted)).idempotency := rfl
  rw [hrestarted, hidempotency, disallowed_conversations_sanitized, removed_message_ids_sanitized,
    hidempotency, List.filter_filter]
  have hpairs : inner.to_persisted.idempotency = inner.idempotency.to_pairs := rfl
  rw [hpairs, HashMap.lookup_of_pairs_filter]
  refine congrArg (Option.filter · _) (funext fun record => ?_)
  -- the second pass only repeats a test of the first
  rw [List.contains_nil, List.contains_nil, Bool.not_false, Bool.true_and, Bool.and_true]
  rw [dropped_conversations, dropped_message_ids]
  cases is_updates_surface_jid key.2.2 <;> simp

/-- The record of an upload survives with its medium, and never without it. -/
theorem restarted_media_upload_named {key : String × String × String}
    {record : MediaUploadIdempotencyRecord}
    (h : (restarted inner).media_upload_idempotency.lookup key = some record) :
    ((restarted inner).media.lookup record.media_id).isSome := by
  have hupload : ∀ store, (sanitize_updates_surfaces store).media_upload_idempotency =
    store.media_upload_idempotency.filter fun pair =>
      ((sanitize_updates_surfaces store).media.lookup pair.2.media_id).isSome := fun _ => rfl
  have hrestarted : (restarted inner).media_upload_idempotency = .of_pairs
    (sanitize_updates_surfaces (PersistedStore.from_inner inner)).media_upload_idempotency := rfl
  rw [hrestarted, hupload] at h
  exact (List.mem_filter.mp (HashMap.mem_of_lookup_of_pairs h)).2

theorem restarted_events :
    (restarted inner).events = inner.events.filter fun event =>
      !event.conversation_id.any is_updates_surface_jid &&
        !event.message_id.any (dropped_message_ids inner).contains := by
  have hevents : ∀ store, (sanitize_updates_surfaces store).events = store.events.filter fun event =>
    !event.conversation_id.any is_updates_surface_jid &&
      !event.message_id.any (removed_message_ids store).contains := fun _ => rfl
  have hrestarted : (restarted inner).events =
    (sanitize_updates_surfaces (sanitize_updates_surfaces inner.to_persisted)).events := rfl
  rw [hrestarted, hevents, hevents, removed_message_ids_sanitized, List.filter_filter]
  refine List.filter_congr fun event _ => ?_
  rw [dropped_message_ids]
  cases event.message_id <;> cases event.conversation_id.any is_updates_surface_jid <;> simp

/-- The conversations of a sanitized store: those that are on no updates surface, and
a placeholder for every other one that a stored medium names. -/
theorem sanitized_conversations_lookup (store : PersistedStore) (conversation_id : String) :
    (sanitize_updates_surfaces store).conversations.lookup conversation_id =
      ((store.conversations.lookup conversation_id).filter fun conversation =>
        !conversation_updates_surface conversation).or
      (((without_updates_surfaces store).media.values.find? fun media =>
        (!str.is_empty (str.trim media.conversation_id) &&
          ((without_updates_surfaces store).conversations.lookup media.conversation_id).isNone) &&
        media.conversation_id = conversation_id).map
          (placeholder_conversation (without_updates_surfaces store))) := by
  simp only [sanitize_updates_surfaces, ensure_media_conversation_placeholders]
  rw [HashMap.lookup_foldl_or_insert MediaObject.conversation_id
    (placeholder_conversation (without_updates_surfaces store)), List.find?_filter]
  have hconversations : (without_updates_surfaces store).conversations =
    store.conversations.retain fun _ conversation => !conversation_updates_surface conversation := rfl
  rw [hconversations, HashMap.lookup_retain]
  refine congrArg (fun find => Option.or _ (Option.map _ (List.find? find _))) (funext fun media => ?_)
  rw [Bool.decide_and, Bool.decide_coe, Bool.decide_coe]

/-- What a sanitized store keeps of the messages of a conversation. -/
theorem sanitized_messages_by_conversation_lookup (store : PersistedStore) (conversation_id : String) :
    (sanitize_updates_surfaces store).messages_by_conversation.lookup conversation_id =
      ((store.messages_by_conversation.lookup conversation_id).map fun messages =>
        messages.filter fun message =>
          !(removed_message_ids store).contains message.id && !message_updates_surface message).filter
      fun messages => !(disallowed_conversations store).contains conversation_id &&
        !is_updates_surface_jid conversation_id && !messages.isEmpty := by
  have hlists : (sanitize_updates_surfaces store).messages_by_conversation =
    (store.messages_by_conversation.map_values fun _ messages => messages.filter fun message =>
      !(removed_message_ids store).contains message.id && !message_updates_surface message).retain
      fun conversation_id messages => !(disallowed_conversations store).contains conversation_id &&
        !is_updates_surface_jid conversation_id && !messages.isEmpty := rfl
  rw [hlists, HashMap.lookup_retain, HashMap.lookup_map_values]

theorem sanitized_conversations_keyed {store : PersistedStore}
    (h : store.conversations.Keyed Conversation.id) :
    (sanitize_updates_surfaces store).conversations.Keyed Conversation.id := by
  intro key conversation hconversation
  rw [sanitized_conversations_lookup] at hconversation
  rcases Option.or_eq_some_iff.mp hconversation with hstored | ⟨-, hplaced⟩
  · exact h key conversation (Option.filter_eq_some_iff.mp hstored).1
  · obtain ⟨media, hfind, rfl⟩ := Option.map_eq_some_iff.mp hplaced
    have hmedia := List.find?_some hfind
    rw [Bool.and_eq_true, decide_eq_true_eq] at hmedia
    exact hmedia.2

theorem restarted_well_keyed {inner : StoreInner} (h : inner.WellKeyed) :
    (restarted inner).WellKeyed where
  conversations := by
    have hconversations : (restarted inner).conversations =
      (sanitize_updates_surfaces (sanitize_updates_surfaces inner.to_persisted)).conversations := rfl
    rw [hconversations]
    exact sanitized_conversations_keyed (sanitized_conversations_keyed h.conversations)
  messages := by
    intro key message hmessage
    rw [restarted_messages_by_id_lookup] at hmessage
    split at hmessage
    · cases hmessage
    · exact h.messages key message hmessage
  dirty := by
    intro key record hrecord
    rw [restarted_dirty_lookup] at hrecord
    exact h.dirty key record (Option.filter_eq_some_iff.mp hrecord).1

theorem remove_expired_well_keyed {inner : StoreInner} (h : inner.WellKeyed)
    (message_ids media_ids : List String) : (remove_expired inner message_ids media_ids).WellKeyed :=
  ⟨h.conversations, h.messages.retain _, h.dirty⟩

end Restarted

end rustzap.state
