import RustZap.Persistence.Placeholders

open collections serde_json
open rustzap.models rustzap.whatsapp

namespace rustzap.state

attribute [ext] PersistedStore

section Settled

variable (store : PersistedStore)

/-- A test that says nothing of removed conversations and messages finds nothing more
to remove in a sanitized store. -/
theorem removed_id_sanitized (message_id : String) :
    (removed_message_ids (sanitize_updates_surfaces store)).contains message_id = false := by
  rw [removed_message_ids_sanitized]
  rfl

theorem disallowed_sanitized (conversation_id : String) :
    (disallowed_conversations (sanitize_updates_surfaces store)).contains conversation_id = false := by
  rw [disallowed_conversations_sanitized]
  rfl

theorem sanitized_messages_by_conversation :
    (sanitize_updates_surfaces store).messages_by_conversation =
      (store.messages_by_conversation.map_values fun _ messages => messages.filter fun message =>
        !(removed_message_ids store).contains message.id && !message_updates_surface message).retain
        fun conversation_id messages =>
          !(disallowed_conversations store).contains conversation_id &&
            !is_updates_surface_jid conversation_id && !messages.isEmpty := rfl

theorem sanitized_group_members :
    (sanitize_updates_surfaces store).group_members =
      (store.group_members.map_values fun _ members =>
        members.retain fun _ member => !group_member_updates_surface member).retain
        fun group_id members => !(disallowed_conversations store).contains group_id &&
          !is_updates_surface_jid group_id && !members.entries.isEmpty := rfl

theorem sanitized_media :
    (sanitize_updates_surfaces store).media = store.media.retain fun _ media =>
      !(disallowed_conversations store).contains media.conversation_id &&
        !is_updates_surface_jid media.conversation_id &&
        !media.message_id.any (removed_message_ids store).contains := rfl

theorem sanitized_transcripts :
    (sanitize_updates_surfaces store).transcripts =
      store.transcripts.retain fun message_id _ => !(removed_message_ids store).contains message_id := rfl

theorem sanitized_idempotency :
    (sanitize_updates_surfaces store).idempotency = store.idempotency.filter fun entry =>
      !(disallowed_conversations store).contains entry.1.2.2 && !is_updates_surface_jid entry.1.2.2 &&
        !(removed_message_ids store).contains entry.2.message_id := rfl

theorem sanitized_media_upload_idempotency :
    (sanitize_updates_surfaces store).media_upload_idempotency =
      store.media_upload_idempotency.filter fun entry =>
        ((sanitize_updates_surfaces store).media.lookup entry.2.media_id).isSome := rfl

theorem sanitized_dirty :
    (sanitize_updates_surfaces store).dirty = store.dirty.filter fun entry =>
      !(disallowed_conversations store).contains entry.1.2.2 := rfl

theorem sanitized_dirty_leases :
    (sanitize_updates_surfaces store).dirty_leases = store.dirty_leases.filter fun entry =>
      !(disallowed_conversations store).contains entry.1.2.2.2 := rfl

theorem sanitized_consumer_state :
    (sanitize_updates_surfaces store).consumer_state = store.consumer_state.filter fun entry =>
      !(disallowed_conversations store).contains entry.1.2.2.2 := rfl

theorem sanitized_group_profile_refreshes :
    (sanitize_updates_surfaces store).group_profile_refreshes =
      store.group_profile_refreshes.retain fun key _ => !key_updates_surface key := rfl

theorem sanitized_events :
    (sanitize_updates_surfaces store).events = store.events.filter fun event =>
      !event.conversation_id.any is_updates_surface_jid &&
        !event.message_id.any (removed_message_ids store).contains := rfl

/-- No id was removed from a sanitized store, so no optional one was. -/
theorem removed_any_sanitized (message_id : Option String) :
    message_id.any (removed_message_ids (sanitize_updates_surfaces store)).contains = false := by
  cases message_id with
  | none => rfl
  | some message_id => exact removed_id_sanitized store message_id

theorem settled_messages_by_id :
    (sanitize_updates_surfaces (sanitize_updates_surfaces store)).messages_by_id =
      (sanitize_updates_surfaces store).messages_by_id := by
  have hmessages : (sanitize_updates_surfaces (sanitize_updates_surfaces store)).messages_by_id =
    (sanitize_updates_surfaces store).messages_by_id.retain fun message_id message =>
      !(removed_message_ids (sanitize_updates_surfaces store)).contains message_id &&
        !(disallowed_conversations (sanitize_updates_surfaces store)).contains message.conversation_id &&
        !message_updates_surface message := rfl
  rw [hmessages]
  refine HashMap.retain_eq_self _ fun entry hmem => ?_
  have hmessage := HashMap.lookup_eq_some_iff.mpr hmem
  rw [removed_id_sanitized, disallowed_sanitized,
    (lookup_sanitized_messages_by_id_eq_some_iff.mp hmessage).2.2.2]
  rfl

theorem settled_messages_by_conversation :
    (sanitize_updates_surfaces (sanitize_updates_surfaces store)).messages_by_conversation =
      (sanitize_updates_surfaces store).messages_by_conversation := by
  rw [sanitized_messages_by_conversation, HashMap.map_values_eq_self]
  · refine HashMap.retain_eq_self _ fun entry hmem => ?_
    have hkept := HashMap.lookup_eq_some_iff.mpr hmem
    rw [sanitized_messages_by_conversation] at hmem
    have hfilled := (List.mem_filter.mp hmem).2
    rw [Bool.and_eq_true] at hfilled
    rw [disallowed_sanitized, (lookup_sanitized_messages_by_conversation hkept).1, hfilled.2]
    rfl
  · intro entry hmem
    have hkept := HashMap.lookup_eq_some_iff.mpr hmem
    rw [List.filter_eq_self]
    intro message hmessage
    rw [removed_id_sanitized, (lookup_sanitized_messages_by_conversation hkept).2 message hmessage]
    rfl

theorem settled_group_members :
    (sanitize_updates_surfaces (sanitize_updates_surfaces store)).group_members =
      (sanitize_updates_surfaces store).group_members := by
  rw [sanitized_group_members (sanitize_updates_surfaces store), HashMap.map_values_eq_self]
  · refine HashMap.retain_eq_self _ fun entry hmem => ?_
    rw [sanitized_group_members] at hmem
    have hkept := (List.mem_filter.mp hmem).2
    rw [Bool.and_eq_true, Bool.and_eq_true] at hkept
    rw [disallowed_sanitized, hkept.1.2, hkept.2]
    rfl
  · intro entry hmem
    rw [sanitized_group_members] at hmem
    obtain ⟨old, -, heq⟩ := List.mem_map.mp (List.mem_filter.mp hmem).1
    have hmembers : entry.2 = old.2.retain fun _ member => !group_member_updates_surface member := by
      rw [← heq]
    rw [hmembers]
    exact HashMap.retain_retain old.2 fun _ _ h => h

theorem settled_group_profile_refreshes :
    (sanitize_updates_surfaces (sanitize_updates_surfaces store)).group_profile_refreshes =
      (sanitize_updates_surfaces store).group_profile_refreshes := by
  rw [sanitized_group_profile_refreshes (sanitize_updates_surfaces store),
    sanitized_group_profile_refreshes store]
  exact HashMap.retain_retain _ fun _ _ h => h

theorem settled_media :
    (sanitize_updates_surfaces (sanitize_updates_surfaces store)).media =
      (sanitize_updates_surfaces store).media := by
  rw [sanitized_media (sanitize_updates_surfaces store), sanitized_media store]
  refine HashMap.retain_retain _ fun media_id media hkept => ?_
  rw [Bool.and_eq_true, Bool.and_eq_true] at hkept
  rw [disallowed_sanitized, hkept.1.2, removed_any_sanitized]
  rfl

theorem settled_transcripts :
    (sanitize_updates_surfaces (sanitize_updates_surfaces store)).transcripts =
      (sanitize_updates_surfaces store).transcripts := by
  rw [sanitized_transcripts (sanitize_updates_surfaces store)]
  refine HashMap.retain_eq_self _ fun entry _ => ?_
  rw [removed_id_sanitized]
  rfl

theorem settled_idempotency :
    (sanitize_updates_surfaces (sanitize_updates_surfaces store)).idempotency =
      (sanitize_updates_surfaces store).idempotency := by
  rw [sanitized_idempotency (sanitize_updates_surfaces store)]
  refine List.filter_eq_self.mpr fun entry hmem => ?_
  rw [sanitized_idempotency] at hmem
  have hkept := (List.mem_filter.mp hmem).2
  rw [Bool.and_eq_true, Bool.and_eq_true] at hkept
  rw [disallowed_sanitized, removed_id_sanitized, hkept.1.2]
  rfl

theorem settled_media_upload_idempotency :
    (sanitize_updates_surfaces (sanitize_updates_surfaces store)).media_upload_idempotency =
      (sanitize_updates_surfaces store).media_upload_idempotency := by
  rw [sanitized_media_upload_idempotency (sanitize_updates_surfaces store), settled_media]
  refine List.filter_eq_self.mpr fun entry hmem => ?_
  rw [sanitized_media_upload_idempotency] at hmem
  exact (List.mem_filter.mp hmem).2

theorem settled_dirty :
    (sanitize_updates_surfaces (sanitize_updates_surfaces store)).dirty =
      (sanitize_updates_surfaces store).dirty := by
  rw [sanitized_dirty (sanitize_updates_surfaces store)]
  refine List.filter_eq_self.mpr fun entry _ => ?_
  rw [disallowed_sanitized]
  rfl

theorem settled_dirty_leases :
    (sanitize_updates_surfaces (sanitize_updates_surfaces store)).dirty_leases =
      (sanitize_updates_surfaces store).dirty_leases := by
  rw [sanitized_dirty_leases (sanitize_updates_surfaces store)]
  refine List.filter_eq_self.mpr fun entry _ => ?_
  rw [disallowed_sanitized]
  rfl

theorem settled_consumer_state :
    (sanitize_updates_surfaces (sanitize_updates_surfaces store)).consumer_state =
      (sanitize_updates_surfaces store).consumer_state := by
  rw [sanitized_consumer_state (sanitize_updates_surfaces store)]
  refine List.filter_eq_self.mpr fun entry _ => ?_
  rw [disallowed_sanitized]
  rfl

theorem settled_events :
    (sanitize_updates_surfaces (sanitize_updates_surfaces store)).events =
      (sanitize_updates_surfaces store).events := by
  rw [sanitized_events (sanitize_updates_surfaces store)]
  refine List.filter_eq_self.mpr fun event hmem => ?_
  rw [sanitized_events] at hmem
  have hkept := (List.mem_filter.mp hmem).2
  rw [Bool.and_eq_true] at hkept
  rw [hkept.1, removed_any_sanitized]
  rfl

/-- The filters find nothing in what they have left before, and no medium is without
its conversation. -/
theorem sanitize_updates_surfaces_idempotent :
    sanitize_updates_surfaces (sanitize_updates_surfaces store) = sanitize_updates_surfaces store := by
  have hclean := sanitized_no_updates_surfaces store
  exact PersistedStore.ext rfl rfl rfl rfl (hclean.sanitized_conversations (sanitized_no_orphan store))
    (settled_messages_by_conversation store) (settled_messages_by_id store) (settled_idempotency store)
    (settled_media_upload_idempotency store) (settled_dirty store) (settled_dirty_leases store)
    (settled_consumer_state store) hclean.kept_contacts hclean.kept_groups (settled_group_members store)
    (settled_group_profile_refreshes store) (settled_media store) (settled_transcripts store) rfl
    (settled_events store) rfl rfl rfl

end Settled

/-- A conversation that was in the snapshot, and that sanitizing takes out. -/
def RemovedConversation (store : PersistedStore) (conversation_id : String) : Prop :=
  (store.conversations.lookup conversation_id).isSome ∧
    (sanitize_updates_surfaces store).conversations.lookup conversation_id = none

def RemovedMessage (store : PersistedStore) (message_id : String) : Prop :=
  (store.messages_by_id.lookup message_id).isSome ∧
    (sanitize_updates_surfaces store).messages_by_id.lookup message_id = none

/-- The keys of the maps are what their values say. -/
structure PersistedStore.WellKeyed (store : PersistedStore) : Prop where
  conversations : store.conversations.Keyed Conversation.id
  messages_by_id : store.messages_by_id.Keyed Message.id
  messages_by_conversation : ∀ conversation_id messages,
    store.messages_by_conversation.lookup conversation_id = some messages →
    ∀ message ∈ messages, message.conversation_id = conversation_id

/-- The two message indexes hold the same messages. -/
def SameMessages (store : PersistedStore) : Prop :=
  ∀ message, message ∈ store.messages_by_conversation.values.flatten ↔
    message ∈ store.messages_by_id.values

/-- What sanitizing leaves is on no updates surface, and nothing of it goes back to what
was taken out. -/
structure SnapshotClean (store : PersistedStore) : Prop where
  surfaces : NoUpdatesSurfaces (sanitize_updates_surfaces store)
  group_members : ∀ group_id members,
    (sanitize_updates_surfaces store).group_members.lookup group_id = some members →
    is_updates_surface_jid group_id = false ∧
      ∀ member ∈ members.values, group_member_updates_surface member = false
  media : ∀ media ∈ (sanitize_updates_surfaces store).media.values,
    is_updates_surface_jid media.conversation_id = false
  idempotency : ∀ entry ∈ (sanitize_updates_surfaces store).idempotency,
    ¬ RemovedMessage store entry.2.message_id
  transcripts : ∀ message_id, RemovedMessage store message_id →
    (sanitize_updates_surfaces store).transcripts.lookup message_id = none
  uploads : ∀ entry ∈ (sanitize_updates_surfaces store).media_upload_idempotency,
    ((sanitize_updates_surfaces store).media.lookup entry.2.media_id).isSome
  placed : ∀ media ∈ (sanitize_updates_surfaces store).media.values,
    str.is_empty (str.trim media.conversation_id) = false →
    ((sanitize_updates_surfaces store).conversations.lookup media.conversation_id).isSome

/-- What is on no updates surface itself, and belongs to nothing that was taken out,
comes through as it was. -/
structure SnapshotKeeps (store : PersistedStore) : Prop where
  conversations : ∀ conversation_id conversation,
    store.conversations.lookup conversation_id = some conversation →
    conversation_updates_surface conversation = false →
    (sanitize_updates_surfaces store).conversations.lookup conversation_id = some conversation
  messages_by_id : ∀ message_id message, store.messages_by_id.lookup message_id = some message →
    message_updates_surface message = false → ¬ RemovedConversation store message.conversation_id →
    (sanitize_updates_surfaces store).messages_by_id.lookup message_id = some message
  messages_by_conversation : ∀ conversation_id messages,
    store.messages_by_conversation.lookup conversation_id = some messages →
    ((sanitize_updates_surfaces store).messages_by_conversation.lookup conversation_id).getD [] =
      messages.filter fun message =>
        ((sanitize_updates_surfaces store).messages_by_id.lookup message.id).isSome
  media : ∀ media_id media, store.media.lookup media_id = some media →
    is_updates_surface_jid media.conversation_id = false →
    ¬ RemovedConversation store media.conversation_id →
    (∀ message_id, media.message_id = some message_id → ¬ RemovedMessage store message_id) →
    (sanitize_updates_surfaces store).media.lookup media_id = some media
  dirty : ∀ entry ∈ store.dirty, is_updates_surface_jid entry.1.2.2 = false →
    ¬ RemovedConversation store entry.1.2.2 → entry ∈ (sanitize_updates_surfaces store).dirty
  consumer_state : ∀ entry ∈ store.consumer_state, is_updates_surface_jid entry.1.2.2.2 = false →
    ¬ RemovedConversation store entry.1.2.2.2 →
    entry ∈ (sanitize_updates_surfaces store).consumer_state

section Sanitizing

variable {store : PersistedStore}

theorem removed_message_of_removed {message_id : String} (h : RemovedMessage store message_id) :
    message_id ∈ removed_message_ids store := by
  obtain ⟨hstored, hgone⟩ := h
  rw [sanitized_messages_by_id_lookup] at hgone
  split at hgone
  · assumption
  · rw [hgone] at hstored
    cases hstored

theorem snapshot_clean (store : PersistedStore) : SnapshotClean store where
  surfaces := sanitized_no_updates_surfaces store
  group_members group_id members hmembers := by
    rw [sanitized_group_members, HashMap.lookup_retain_eq_some_iff, HashMap.lookup_map_values,
      Option.map_eq_some_iff] at hmembers
    obtain ⟨⟨old, -, rfl⟩, hkept⟩ := hmembers
    simp only [Bool.and_eq_true, Bool.not_eq_true'] at hkept
    refine ⟨hkept.1.2, fun member hmem => ?_⟩
    obtain ⟨contact_id, hmember⟩ := HashMap.mem_values_iff.mp hmem
    simpa using (HashMap.lookup_retain_eq_some_iff.mp hmember).2
  media media hmem := by
    obtain ⟨media_id, hmedia⟩ := HashMap.mem_values_iff.mp hmem
    exact of_lookup_without_updates_surfaces_media hmedia
  idempotency entry hmem hremoved := by
    rw [sanitized_idempotency, List.mem_filter] at hmem
    simp only [Bool.and_eq_true, Bool.not_eq_true', List.contains_eq_mem, decide_eq_false_iff_not] at hmem
    exact hmem.2.2 (removed_message_of_removed hremoved)
  transcripts message_id hremoved := by
    rw [sanitized_transcripts, HashMap.lookup_retain, Option.filter_eq_none_iff]
    intro transcript _
    simpa using removed_message_of_removed hremoved
  uploads entry hmem := by
    rw [sanitized_media_upload_idempotency] at hmem
    exact (List.mem_filter.mp hmem).2
  placed media hmem hblank := by
    rw [← Option.ne_none_iff_isSome]
    intro hnone
    obtain ⟨media_id, hmedia⟩ := HashMap.mem_values_iff.mp hmem
    exact sanitized_no_orphan store
      ⟨media, hmem, hblank, of_lookup_without_updates_surfaces_media hmedia, hnone⟩

/-- A placeholder never brings a conversation of an updates surface back: its media are
gone with it. -/
theorem removed_conversation_of_surface (hkeyed : store.conversations.Keyed Conversation.id)
    {conversation : Conversation} (hmem : conversation ∈ store.conversations.values)
    (hsurface : conversation_updates_surface conversation = true) :
    RemovedConversation store conversation.id := by
  obtain ⟨key, hkey⟩ := HashMap.mem_values_iff.mp hmem
  have hid := hkeyed key conversation hkey
  rw [← hid] at hkey
  refine ⟨by rw [hkey]; rfl, ?_⟩
  rw [sanitized_conversations_lookup, hkey, Option.filter_some_neg (by simp [hsurface]), Option.none_or,
    Option.map_eq_none_iff, List.find?_eq_none]
  intro media hmedia hfound
  obtain ⟨media_id, hlookup⟩ := HashMap.mem_values_iff.mp hmedia
  have hkept : (sanitize_updates_surfaces store).media.lookup media_id = some media := hlookup
  rw [sanitized_media, HashMap.lookup_retain_eq_some_iff] at hkept
  simp only [Bool.and_eq_true, Bool.not_eq_true', List.contains_eq_mem, decide_eq_false_iff_not] at hkept
  rw [Bool.and_eq_true, decide_eq_true_eq] at hfound
  refine hkept.2.1.1 ?_
  rw [hfound.2, disallowed_conversations]
  exact List.mem_append_left _ (List.mem_map_of_mem (List.mem_filter.mpr ⟨hmem, hsurface⟩))

theorem not_disallowed (hkeyed : store.conversations.Keyed Conversation.id) {conversation_id : String}
    (hsurface : is_updates_surface_jid conversation_id = false)
    (hkept : ¬ RemovedConversation store conversation_id) :
    conversation_id ∉ disallowed_conversations store := by
  intro hmem
  rcases List.mem_append.mp hmem with hconversation | hlist
  · obtain ⟨conversation, hfiltered, rfl⟩ := List.mem_map.mp hconversation
    obtain ⟨hmem, hon⟩ := List.mem_filter.mp hfiltered
    exact hkept (removed_conversation_of_surface hkeyed hmem hon)
  · rw [(List.mem_filter.mp hlist).2] at hsurface
    cases hsurface

/-- The ids of the removed messages are those that the index by id loses. -/
theorem mem_removed_message_ids_iff (hkeyed : store.WellKeyed) (hsame : SameMessages store)
    {message_id : String} {message : Message}
    (hmessage : store.messages_by_id.lookup message_id = some message) :
    message_id ∈ removed_message_ids store ↔ removed store message = true := by
  constructor
  · intro hmem
    rcases List.mem_append.mp hmem with hby_id | hlisted
    · obtain ⟨found, hfound⟩ := HashMap.mem_keys_iff.mp hby_id
      obtain ⟨hstored, hremoved⟩ := HashMap.lookup_retain_eq_some_iff.mp hfound
      rw [hmessage, Option.some.injEq] at hstored
      rw [hstored]
      exact hremoved
    · -- the listed message of that id is the one of the index by id
      obtain ⟨listed, hfiltered, hid⟩ := List.mem_map.mp hlisted
      obtain ⟨hmem, hremoved⟩ := List.mem_filter.mp hfiltered
      obtain ⟨key, hkey⟩ := HashMap.mem_values_iff.mp ((hsame listed).mp hmem)
      rw [← hkeyed.messages_by_id key listed hkey, hid, hmessage, Option.some.injEq] at hkey
      rw [hkey]
      exact hremoved
  · intro hremoved
    exact List.mem_append_left _ (HashMap.mem_keys_of_lookup
      (HashMap.lookup_retain_eq_some_iff.mpr ⟨hmessage, hremoved⟩))

theorem removed_message_of_mem (hkeyed : store.WellKeyed) (hsame : SameMessages store) {message_id : String}
    (hmem : message_id ∈ removed_message_ids store) : RemovedMessage store message_id := by
  refine ⟨?_, by rw [sanitized_messages_by_id_lookup, if_pos hmem]⟩
  rcases List.mem_append.mp hmem with hby_id | hlisted
  · obtain ⟨message, hfound⟩ := HashMap.mem_keys_iff.mp hby_id
    rw [(HashMap.lookup_retain_eq_some_iff.mp hfound).1]
    rfl
  · obtain ⟨listed, hfiltered, rfl⟩ := List.mem_map.mp hlisted
    obtain ⟨key, hkey⟩ := HashMap.mem_values_iff.mp ((hsame listed).mp (List.mem_filter.mp hfiltered).1)
    rw [hkeyed.messages_by_id key listed hkey, hkey]
    rfl

/-- The list of a conversation keeps the messages that the index by id keeps, in their
order. -/
theorem kept_list (hkeyed : store.WellKeyed) (hsame : SameMessages store) {conversation_id : String}
    {messages : List Message}
    (hmessages : store.messages_by_conversation.lookup conversation_id = some messages) :
    ((sanitize_updates_surfaces store).messages_by_conversation.lookup conversation_id).getD [] =
      messages.filter fun message =>
        ((sanitize_updates_surfaces store).messages_by_id.lookup message.id).isSome := by
  have hindexed : ∀ message ∈ messages, store.messages_by_id.lookup message.id = some message := by
    intro message hmem
    have hflat := List.mem_flatten.mpr ⟨messages, HashMap.mem_values_of_lookup hmessages, hmem⟩
    obtain ⟨key, hkey⟩ := HashMap.mem_values_iff.mp ((hsame message).mp hflat)
    rw [hkeyed.messages_by_id key message hkey]
    exact hkey
  have hkept : ∀ message ∈ messages,
      ((sanitize_updates_surfaces store).messages_by_id.lookup message.id).isSome =
        !removed store message := by
    intro message hmem
    have hiff := mem_removed_message_ids_iff hkeyed hsame (hindexed message hmem)
    rw [sanitized_messages_by_id_lookup, hindexed message hmem]
    cases hremoved : removed store message with
    | true => rw [if_pos (hiff.mpr hremoved)]; rfl
    | false =>
      rw [if_neg fun hmem => by rw [hiff.mp hmem] at hremoved; cases hremoved]
      rfl
  have hfilter : (messages.filter fun message =>
      !(removed_message_ids store).contains message.id && !message_updates_surface message) =
      messages.filter fun message => !removed store message := by
    refine List.filter_congr fun message hmem => ?_
    have hiff := mem_removed_message_ids_iff hkeyed hsame (hindexed message hmem)
    cases hremoved : removed store message with
    | true => simp [hiff.mpr hremoved]
    | false =>
      have hout : message.id ∉ removed_message_ids store := fun hmem => by
        rw [hiff.mp hmem] at hremoved
        cases hremoved
      rw [removed, Bool.or_eq_false_iff] at hremoved
      simp [hout, hremoved.2]
  rw [List.filter_congr hkept, sanitized_messages_by_conversation, HashMap.lookup_retain,
    HashMap.lookup_map_values, hmessages, Option.map_some, hfilter]
  -- a list that goes as a whole has nothing to keep
  by_cases hallowed : conversation_id ∈ disallowed_conversations store ∨
      is_updates_surface_jid conversation_id = true
  · have hnone : (messages.filter fun message => !removed store message) = [] := by
      rw [List.filter_eq_nil_iff]
      intro message hmem
      have hconversation := hkeyed.messages_by_conversation conversation_id messages hmessages message hmem
      rw [removed, hconversation, message_updates_surface, hconversation]
      rcases hallowed with hdisallowed | hsurface
      · simp [hdisallowed]
      · simp [hsurface]
    rw [hnone]
    simp [Option.filter]
  · rw [not_or, Bool.not_eq_true] at hallowed
    cases hlist : messages.filter fun message => !removed store message with
    | nil => simp [Option.filter]
    | cons => simp [Option.filter, hallowed.1, hallowed.2]

theorem snapshot_keeps (hkeyed : store.WellKeyed) (hsame : SameMessages store) : SnapshotKeeps store where
  conversations conversation_id conversation hconversation hoff := by
    rw [sanitized_conversations_lookup, hconversation, Option.filter_some_pos (by simp [hoff])]
    rfl
  messages_by_id message_id message hmessage hoff hconversation := by
    rw [sanitized_messages_by_id_lookup, if_neg, hmessage]
    rw [mem_removed_message_ids_iff hkeyed hsame hmessage, removed, hoff, Bool.or_false]
    rw [message_updates_surface, Bool.or_eq_false_iff] at hoff
    simpa using not_disallowed hkeyed.conversations hoff.1 hconversation
  messages_by_conversation conversation_id messages hmessages := kept_list hkeyed hsame hmessages
  media media_id media hmedia hoff hconversation hmessage := by
    rw [sanitized_media, HashMap.lookup_retain_eq_some_iff]
    refine ⟨hmedia, ?_⟩
    have hallowed := not_disallowed hkeyed.conversations hoff hconversation
    have hnone : media.message_id.any (removed_message_ids store).contains = false := by
      cases hid : media.message_id with
      | none => rfl
      | some message_id =>
        have hout : message_id ∉ removed_message_ids store :=
          fun hmem => hmessage message_id hid (removed_message_of_mem hkeyed hsame hmem)
        simpa using hout
    simp [hallowed, hoff, hnone]
  dirty entry hmem hoff hconversation := by
    rw [sanitized_dirty, List.mem_filter]
    exact ⟨hmem, by simpa using not_disallowed hkeyed.conversations hoff hconversation⟩
  consumer_state entry hmem hoff hconversation := by
    rw [sanitized_consumer_state, List.mem_filter]
    exact ⟨hmem, by simpa using not_disallowed hkeyed.conversations hoff hconversation⟩

end Sanitizing

/-- Sanitizing a snapshot a second time changes nothing, what the first time leaves is
clean, and it takes out no more than that needs. -/
theorem sanitized_snapshot {store : PersistedStore} (hkeyed : store.WellKeyed) (hsame : SameMessages store) :
    sanitize_updates_surfaces (sanitize_updates_surfaces store) = sanitize_updates_surfaces store ∧
      SnapshotClean store ∧ SnapshotKeeps store :=
  ⟨sanitize_updates_surfaces_idempotent store, snapshot_clean store, snapshot_keeps hkeyed hsame⟩

namespace sample

/-- One text in a chat and one on the status surface. -/
def posts : List (Ctx × Operation) :=
  [(received.1, .store received.2),
    (ctx 2 "s", .store (.receive_inbound_text "acme" "company_a"
      { conversation_id := some "status@broadcast"
        channel_id := some "channel_a"
        from_phone_e164 := some "+5511977776666"
        sender_name := none
        profile_picture_url := none
        text := "status" }))]

def posted : PersistedStore :=
  (live Store.empty posts).inner.to_persisted

end sample

/-- The status post goes, the chat stays. -/
theorem sanitized_status_post :
    RemovedMessage sample.posted "msg_s0" ∧ ¬ RemovedMessage sample.posted "msg_a0" ∧
      SnapshotKeeps sample.posted := by
  have hrun := sample.lives sample.posts Store.empty (by decide)
  have hagree : IndexesAgree (sample.live Store.empty sample.posts).inner :=
    indexes_agree_preserved.run hrun Grouped.Agree.empty
  have hkeyed : sample.posted.WellKeyed :=
    { conversations := (sample.live Store.empty sample.posts).keyed.conversations
      messages_by_id := (sample.live Store.empty sample.posts).keyed.messages
      messages_by_conversation := fun conversation_id messages hmessages message hmem =>
        (Grouped.Agree.of_mem hagree hmessages hmem).2 }
  have hlists : sample.posted.messages_by_conversation.values.flatten =
    sample.posted.messages_by_id.values := by decide
  have hsame : SameMessages sample.posted := fun message => by rw [hlists]
  refine ⟨⟨by decide, by decide⟩, fun hgone => ?_, (sanitized_snapshot hkeyed hsame).2.2⟩
  exact absurd hgone.2 (by decide)

end rustzap.state
