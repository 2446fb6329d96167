import RustZap.State.Changes

open collections serde_json
open rustzap.models rustzap.whatsapp

namespace rustzap.state

/-- What the service writes to the database of its metadata. -/
structure PersistedStore where
  projects : HashMap String Value := ∅
  companies : List ((String × String) × Value) := []
  api_keys : HashMap String Value := ∅
  channels : HashMap String ChannelRecord := ∅
  conversations : HashMap String Conversation := ∅
  messages_by_conversation : HashMap String (List Message) := ∅
  messages_by_id : HashMap String Message := ∅
  idempotency : List ((String × String × String) × IdempotencyRecord) := []
  media_upload_idempotency : List ((String × String × String) × MediaUploadIdempotencyRecord) := []
  dirty : List ((String × String × String) × DirtyRecord) := []
  dirty_leases : List ((String × String × String × String) × DirtyLeaseRecord) := []
  consumer_state : List ((String × String × String × String) × Int) := []
  contacts : HashMap String ContactRecord := ∅
  groups : HashMap String GroupRecord := ∅
  group_members : HashMap String (HashMap String GroupMemberRecord) := ∅
  group_profile_refreshes : HashMap String OffsetDateTime := ∅
  media : HashMap String MediaObject := ∅
  transcripts : HashMap String Transcript := ∅
  qr : HashMap String QrState := ∅
  events : List CommonEvent := []
  callbacks : HashMap String Value := ∅
  webhook_delivery_attempts : List WebhookDeliveryAttempt := []
  audit_logs : List Value := []

def conversation_updates_surface (conversation : Conversation) : Bool :=
  is_updates_surface_jid conversation.id || conversation.contact_id.any is_updates_surface_jid ||
    conversation.group_id.any is_updates_surface_jid

def contact_updates_surface (contact : ContactRecord) : Bool :=
  is_updates_surface_jid contact.id || contact.canonical_jid.any is_updates_surface_jid ||
    contact.lid.any is_updates_surface_jid

def group_updates_surface (group_id : String) (group : GroupRecord) : Bool :=
  is_updates_surface_jid group_id || group.wa_jid.any is_updates_surface_jid

def group_member_updates_surface (member : GroupMemberRecord) : Bool :=
  is_updates_surface_jid member.group_id || is_updates_surface_jid member.contact_id ||
    member.wa_jid.any is_updates_surface_jid

def message_updates_surface (message : Message) : Bool :=
  is_updates_surface_jid message.conversation_id || message.sender_contact_id.any is_updates_surface_jid

def key_updates_surface (key : String) : Bool :=
  (str.split key '|').any is_updates_surface_jid || (str.split key '\x00').any is_updates_surface_jid ||
    is_updates_surface_jid key

def normalize_group_profile_refreshes (refreshes : HashMap String OffsetDateTime) :
    HashMap String OffsetDateTime :=
  .of_pairs (refreshes.entries.map fun entry => (str.replace entry.1 '\x00' '|', entry.2))

def channel_belongs_to_company (channel : ChannelRecord) (project_id company_id : String) : Bool :=
  channel.project_id = project_id && channel.company_id = company_id

def placeholder_channel_for_project_company (store : PersistedStore) (project_id company_id : String) :
    String :=
  let channels := store.channels.entries.filter fun entry =>
    channel_belongs_to_company entry.2 project_id company_id
  (((channels.find? fun entry => entry.2.status = "connected").map Sigma.fst).or
    (channels.head?.map Sigma.fst)).getD "channel_dev"

/-- The conversation that stands in for the missing one of a stored medium. -/
def placeholder_conversation (store : PersistedStore) (media : MediaObject) : Conversation :=
  let conversation_id := media.conversation_id
  let is_group := str.ends_with conversation_id "@g.us"
  { id := conversation_id
    project_id := media.project_id
    company_id := media.company_id
    channel_account_id := placeholder_channel_for_project_company store media.project_id media.company_id
    conversation_type := if is_group then "group" else "direct"
    contact_id := if is_group then none else some conversation_id
    group_id := none
    display_name := some (if is_group then group_subject_for_jid conversation_id
      else display_name_for_jid conversation_id)
    display_phone := if is_group then none else phone_from_jid conversation_id
    phone_number := if is_group then none else phone_number_from_jid conversation_id
    profile_picture_media_id := none
    avatar_url := none
    profile_picture_url := none
    last_seq := 0
    last_message_at := none
    unread_count := 0
    is_archived := false
    is_muted := false
    is_pinned := false
    control_mode := "manual"
    created_at := media.created_at
    updated_at := media.updated_at }

def ensure_media_conversation_placeholders (store : PersistedStore) : PersistedStore :=
  let orphan_media := store.media.values.filter fun media =>
    !str.is_empty (str.trim media.conversation_id) &&
      (store.conversations.lookup media.conversation_id).isNone
  let conversations := orphan_media.foldl (fun conversations media =>
    if (conversations.lookup media.conversation_id).isSome then conversations
    else conversations.insert media.conversation_id (placeholder_conversation store media))
    store.conversations
  { store with conversations }

/-- The conversations whose contents no snapshot keeps. -/
def disallowed_conversations (store : PersistedStore) : List String :=
  (store.conversations.values.filter conversation_updates_surface).map Conversation.id ++
    store.messages_by_conversation.keys.filter is_updates_surface_jid

/-- Whether a message goes with the updates surfaces. -/
def removed (store : PersistedStore) (message : Message) : Bool :=
  (disallowed_conversations store).contains message.conversation_id || message_updates_surface message

def removed_message_ids (store : PersistedStore) : List String :=
  (store.messages_by_id.retain fun _ message => removed store message).keys ++
    (store.messages_by_conversation.values.flatten.filter (removed store)).map Message.id

/-- The store without the updates surfaces and without what belongs to them. -/
def without_updates_surfaces (store : PersistedStore) : PersistedStore :=
  let disallowed := fun conversation_id => (disallowed_conversations store).contains conversation_id
  let removed_id := fun message_id => (removed_message_ids store).contains message_id
  let media := store.media.retain fun _ media =>
    !disallowed media.conversation_id && !is_updates_surface_jid media.conversation_id &&
      !media.message_id.any removed_id
  { store with
    conversations := store.conversations.retain fun _ conversation =>
      !conversation_updates_surface conversation
    contacts := store.contacts.retain fun _ contact => !contact_updates_surface contact
    groups := store.groups.retain fun group_id group => !group_updates_surface group_id group
    group_members :=
      (store.group_members.map_values fun _ members =>
        members.retain fun _ member => !group_member_updates_surface member).retain
        fun group_id members =>
          !disallowed group_id && !is_updates_surface_jid group_id && !members.entries.isEmpty
    group_profile_refreshes := store.group_profile_refreshes.retain fun key _ => !key_updates_surface key
    messages_by_id := store.messages_by_id.retain fun message_id message =>
      !removed_id message_id && !disallowed message.conversation_id && !message_updates_surface message
    messages_by_conversation :=
      (store.messages_by_conversation.map_values fun _ messages => messages.filter fun message =>
        !removed_id message.id && !message_updates_surface message).retain
        fun conversation_id messages =>
          !disallowed conversation_id && !is_updates_surface_jid conversation_id && !messages.isEmpty
    media
    transcripts := store.transcripts.retain fun message_id _ => !removed_id message_id
    idempotency := store.idempotency.filter fun (key, record) =>
      !disallowed key.2.2 && !is_updates_surface_jid key.2.2 && !removed_id record.message_id
    media_upload_idempotency := store.media_upload_idempotency.filter fun (_, record) =>
      (media.lookup record.media_id).isSome
    dirty := store.dirty.filter fun (key, _) => !disallowed key.2.2
    dirty_leases := store.dirty_leases.filter fun (key, _) => !disallowed key.2.2.2
    consumer_state := store.consumer_state.filter fun (key, _) => !disallowed key.2.2.2
    events := store.events.filter fun event =>
      !event.conversation_id.any is_updates_surface_jid && !event.message_id.any removed_id }

def sanitize_updates_surfaces (store : PersistedStore) : PersistedStore :=
  ensure_media_conversation_placeholders (without_updates_surfaces store)

/-- The store as it goes into a snapshot, before the updates surfaces are taken
out. -/
def StoreInner.to_persisted (inner : StoreInner) : PersistedStore where
  projects := inner.projects
  companies := inner.companies.to_pairs
  api_keys := inner.api_keys
  channels := inner.channels
  conversations := inner.conversations
  messages_by_conversation := inner.messages_by_conversation
  messages_by_id := inner.messages_by_id
  idempotency := inner.idempotency.to_pairs
  media_upload_idempotency := inner.media_upload_idempotency.to_pairs
  dirty := inner.dirty.to_pairs
  dirty_leases := inner.dirty_leases.to_pairs
  consumer_state := inner.consumer_state.to_pairs
  contacts := inner.contacts
  groups := inner.groups
  group_members := inner.group_members
  group_profile_refreshes := normalize_group_profile_refreshes inner.group_profile_refreshes
  media := inner.media
  transcripts := inner.transcripts
  qr := inner.qr
  events := inner.events
  callbacks := inner.callbacks
  webhook_delivery_attempts := inner.webhook_delivery_attempts
  audit_logs := inner.audit_logs

namespace PersistedStore

def from_inner (inner : StoreInner) : PersistedStore :=
  sanitize_updates_surfaces inner.to_persisted

def into_inner (self : PersistedStore) : StoreInner :=
  let store := sanitize_updates_surfaces self
  { projects := store.projects
    companies := .of_pairs store.companies
    api_keys := store.api_keys
    channels := store.channels
    conversations := store.conversations
    messages_by_conversation := store.messages_by_conversation
    messages_by_id := store.messages_by_id
    idempotency := .of_pairs store.idempotency
    media_upload_idempotency := .of_pairs store.media_upload_idempotency
    media_upload_idempotency_inflight := ∅
    dirty := .of_pairs store.dirty
    dirty_leases := .of_pairs store.dirty_leases
    consumer_state := .of_pairs store.consumer_state
    contacts := store.contacts
    groups := store.groups
    group_members := store.group_members
    group_profile_refreshes := normalize_group_profile_refreshes store.group_profile_refreshes
    media := store.media
    transcripts := store.transcripts
    qr := store.qr
    events := store.events
    internal_processed_event_ids := []
    callbacks := store.callbacks
    webhook_delivery_attempts := store.webhook_delivery_attempts
    audit_logs := store.audit_logs }

end PersistedStore

/-- A conversation of the map is one of those that were there, or a placeholder of
a stored medium. -/
theorem ensure_media_conversation_placeholders_values {store : PersistedStore}
    {conversation : Conversation}
    (h : conversation ∈ (ensure_media_conversation_placeholders store).conversations.values) :
    conversation ∈ store.conversations.values ∨
      ∃ media ∈ store.media.values, conversation = placeholder_conversation store media := by
  obtain ⟨key, hkey⟩ := HashMap.mem_values_iff.mp h
  simp only [ensure_media_conversation_placeholders] at hkey
  rw [HashMap.lookup_foldl_or_insert MediaObject.conversation_id (placeholder_conversation store)] at hkey
  rcases Option.or_eq_some_iff.mp hkey with hstored | ⟨-, hplaced⟩
  · exact Or.inl (HashMap.mem_values_of_lookup hstored)
  · obtain ⟨media, hfind, rfl⟩ := Option.map_eq_some_iff.mp hplaced
    exact Or.inr ⟨media, List.mem_of_mem_filter (List.mem_of_find?_eq_some hfind), rfl⟩

theorem placeholder_conversation_updates_surface {store : PersistedStore} {media : MediaObject}
    (h : is_updates_surface_jid media.conversation_id = false) :
    conversation_updates_surface (placeholder_conversation store media) = false := by
  unfold conversation_updates_surface placeholder_conversation
  dsimp only
  split <;> simp [h]

theorem of_lookup_without_updates_surfaces_conversations {store : PersistedStore} {key : String}
    {conversation : Conversation}
    (h : (without_updates_surfaces store).conversations.lookup key = some conversation) :
    conversation_updates_surface conversation = false := by
  dsimp only [without_updates_surfaces] at h
  simpa using (HashMap.lookup_retain_eq_some_iff.mp h).2

theorem of_lookup_without_updates_surfaces_media {store : PersistedStore} {key : String}
    {media : MediaObject} (h : (without_updates_surfaces store).media.lookup key = some media) :
    is_updates_surface_jid media.conversation_id = false := by
  dsimp only [without_updates_surfaces] at h
  have hkept := (HashMap.lookup_retain_eq_some_iff.mp h).2
  simp only [Bool.and_eq_true, Bool.not_eq_true'] at hkept
  exact hkept.1.2

theorem lookup_sanitized_messages_by_conversation {store : PersistedStore} {key : String}
    {messages : List Message}
    (h : (sanitize_updates_surfaces store).messages_by_conversation.lookup key = some messages) :
    is_updates_surface_jid key = false ∧ ∀ message ∈ messages, message_updates_surface message = false := by
  dsimp only [sanitize_updates_surfaces, ensure_media_conversation_placeholders,
    without_updates_surfaces] at h
  obtain ⟨hlist, hkept⟩ := HashMap.lookup_retain_eq_some_iff.mp h
  rw [HashMap.lookup_map_values, Option.map_eq_some_iff] at hlist
  obtain ⟨old, -, rfl⟩ := hlist
  simp only [Bool.and_eq_true, Bool.not_eq_true'] at hkept
  refine ⟨hkept.1.2, fun message hmem => ?_⟩
  have htest := (List.mem_filter.mp hmem).2
  simp only [Bool.and_eq_true, Bool.not_eq_true'] at htest
  exact htest.2

theorem lookup_sanitized_messages_by_id_eq_some_iff {store : PersistedStore} {message_id : String}
    {message : Message} :
    (sanitize_updates_surfaces store).messages_by_id.lookup message_id = some message ↔
      store.messages_by_id.lookup message_id = some message ∧
      message_id ∉ removed_message_ids store ∧
      message.conversation_id ∉ disallowed_conversations store ∧
      message_updates_surface message = false := by
  dsimp only [sanitize_updates_surfaces, ensure_media_conversation_placeholders,
    without_updates_surfaces]
  rw [HashMap.lookup_retain_eq_some_iff]
  simp only [Bool.and_eq_true, Bool.not_eq_true', List.contains_eq_mem, decide_eq_false_iff_not, and_assoc]

/-- No conversation that is left in a sanitized store belongs to an updates
surface, and no list of messages does. -/
theorem disallowed_conversations_sanitized (store : PersistedStore) :
    disallowed_conversations (sanitize_updates_surfaces store) = [] := by
  unfold disallowed_conversations
  rw [List.append_eq_nil_iff, List.map_eq_nil_iff, List.filter_eq_nil_iff, List.filter_eq_nil_iff]
  constructor
  · intro conversation hmem
    rw [Bool.not_eq_true]
    rcases ensure_media_conversation_placeholders_values hmem with hstored | ⟨media, hmedia, rfl⟩
    · obtain ⟨key, hkey⟩ := HashMap.mem_values_iff.mp hstored
      exact of_lookup_without_updates_surfaces_conversations hkey
    · obtain ⟨key, hkey⟩ := HashMap.mem_values_iff.mp hmedia
      exact placeholder_conversation_updates_surface (of_lookup_without_updates_surfaces_media hkey)
  · intro key hmem
    obtain ⟨messages, hmessages⟩ := HashMap.mem_keys_iff.mp hmem
    rw [Bool.not_eq_true]
    exact (lookup_sanitized_messages_by_conversation hmessages).1

theorem removed_sanitized (store : PersistedStore) (message : Message) :
    removed (sanitize_updates_surfaces store) message = message_updates_surface message := by
  rw [removed, disallowed_conversations_sanitized, List.contains_nil, Bool.false_or]

/-- What is sanitized once has no message left to remove. -/
theorem removed_message_ids_sanitized (store : PersistedStore) :
    removed_message_ids (sanitize_updates_surfaces store) = [] := by
  rw [removed_message_ids, List.append_eq_nil_iff, List.map_eq_nil_iff, List.filter_eq_nil_iff,
    List.eq_nil_iff_forall_not_mem]
  constructor
  · intro message_id hmem
    obtain ⟨message, hmessage⟩ := HashMap.mem_keys_iff.mp hmem
    obtain ⟨hstored, hremoved⟩ := HashMap.lookup_retain_eq_some_iff.mp hmessage
    rw [removed_sanitized] at hremoved
    rw [(lookup_sanitized_messages_by_id_eq_some_iff.mp hstored).2.2.2] at hremoved
    cases hremoved
  · intro message hmem
    obtain ⟨messages, hmessages, hmessage⟩ := List.mem_flatten.mp hmem
    obtain ⟨key, hkey⟩ := HashMap.mem_values_iff.mp hmessages
    rw [removed_sanitized, (lookup_sanitized_messages_by_conversation hkey).2 message hmessage]
    exact Bool.false_ne_true

/-- A message stays in the sanitized store unless its id is one of the removed
ones. -/
theorem sanitized_messages_by_id_lookup (store : PersistedStore) (message_id : String) :
    (sanitize_updates_surfaces store).messages_by_id.lookup message_id =
      if message_id ∈ removed_message_ids store then none else store.messages_by_id.lookup message_id := by
  apply Option.ext
  intro message
  rw [lookup_sanitized_messages_by_id_eq_some_iff]
  split
  · next hmem => simp [hmem]
  · next hmem =>
    constructor
    · exact fun h => h.1
    · intro h
      -- a message that fails one of the other tests has its id on the list
      have hkept : removed store message = false := by
        rw [Bool.eq_false_iff]
        intro hremoved
        exact hmem (List.mem_append_left _ (HashMap.mem_keys_of_lookup
          (HashMap.lookup_retain_eq_some_iff.mpr ⟨h, hremoved⟩)))
      rw [removed, Bool.or_eq_false_iff] at hkept
      exact ⟨h, hmem, by simpa using hkept.1, hkept.2⟩

/-- The messages of a service that starts from a snapshot of the store. -/
theorem into_inner_from_inner_messages_lookup (inner : StoreInner) (message_id : String) :
    (PersistedStore.from_inner inner).into_inner.messages_by_id.lookup message_id =
      if message_id ∈ removed_message_ids inner.to_persisted then none
      else inner.messages_by_id.lookup message_id := by
  dsimp only [PersistedStore.into_inner, PersistedStore.from_inner]
  rw [sanitized_messages_by_id_lookup, removed_message_ids_sanitized, if_neg List.not_mem_nil,
    sanitized_messages_by_id_lookup]
  rfl

theorem sanitized_messages_keyed {store : PersistedStore} (h : store.messages_by_id.Keyed Message.id) :
    (sanitize_updates_surfaces store).messages_by_id.Keyed Message.id := by
  intro key message hmessage
  exact h key message (lookup_sanitized_messages_by_id_eq_some_iff.mp hmessage).1

end rustzap.state
