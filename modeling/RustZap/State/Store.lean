import RustZap.Whatsapp

open collections serde_json
open rustzap.models

namespace rustzap.state

structure ContactRecord where
  id : String
  canonical_jid : Option String
  lid : Option String
  project_id : String
  company_id : String
  channel_account_id : Option String
  phone_e164 : Option String
  push_name : Option String
  display_name : String
  profile_picture_media_id : Option String
  business_description : Option String
  profile_lookup_attempted_at : Option OffsetDateTime
  profile_lookup_failed_at : Option OffsetDateTime
  profile_lookup_failure_count : Nat
  avatar_url : Option String
  profile_picture_url : Option String
  first_contact_at : OffsetDateTime
  last_contact_at : OffsetDateTime
  deriving DecidableEq

structure GroupMemberRecord where
  group_id : String
  contact_id : String
  wa_jid : Option String
  phone_e164 : Option String
  display_name : String
  role : String
  is_admin : Bool
  joined_at : OffsetDateTime
  updated_at : OffsetDateTime
  last_seen_at : OffsetDateTime
  deriving DecidableEq

structure GroupRecord where
  wa_jid : Option String
  subject : Option String
  description : Option String
  owner_jid : Option String
  subject_owner_jid : Option String
  profile_picture_media_id : Option String
  avatar_url : Option String
  profile_picture_url : Option String
  created_at_wa : Option OffsetDateTime
  members_count : Option Nat
  admins_count : Option Nat
  deriving DecidableEq

/-- The channel object. The source keeps it as a JSON object with exactly these
keys, written by `create_channel` and `set_channel_status` only. -/
structure ChannelRecord where
  id : String
  project_id : String
  company_id : String
  provider : String
  phone_e164 : Option String
  label : String
  status : String
  connected_at : Option OffsetDateTime
  created_at : OffsetDateTime
  updated_at : OffsetDateTime
  deriving DecidableEq

structure IdempotencyRecord where
  request_hash : String
  message_id : String
  deriving DecidableEq

structure MediaUploadIdempotencyRecord where
  request_hash : String
  media_id : String
  deriving DecidableEq

structure DirtyRecord where
  conversation_id : String
  max_seq : Int
  reason : String
  priority : Int
  available_at : OffsetDateTime
  lease_token : Option String
  locked_until : Option OffsetDateTime
  deriving DecidableEq

structure DirtyLeaseRecord where
  lease_token : String
  locked_until : OffsetDateTime
  max_seq : Int
  deriving DecidableEq

/-- The whole in-memory state of the service, behind its one lock. -/
structure StoreInner where
  projects : HashMap String Value := ∅
  companies : HashMap (String × String) Value := ∅
  api_keys : HashMap String Value := ∅
  channels : HashMap String ChannelRecord := ∅
  conversations : HashMap String Conversation := ∅
  messages_by_conversation : HashMap String (List Message) := ∅
  messages_by_id : HashMap String Message := ∅
  idempotency : HashMap (String × String × String) IdempotencyRecord := ∅
  media_upload_idempotency : HashMap (String × String × String) MediaUploadIdempotencyRecord := ∅
  media_upload_idempotency_inflight : HashMap (String × String × String) String := ∅
  dirty : HashMap (String × String × String) DirtyRecord := ∅
  dirty_leases : HashMap (String × String × String × String) DirtyLeaseRecord := ∅
  consumer_state : HashMap (String × String × String × String) Int := ∅
  contacts : HashMap String ContactRecord := ∅
  groups : HashMap String GroupRecord := ∅
  group_members : HashMap String (HashMap String GroupMemberRecord) := ∅
  group_profile_refreshes : HashMap String OffsetDateTime := ∅
  media : HashMap String MediaObject := ∅
  transcripts : HashMap String Transcript := ∅
  qr : HashMap String QrState := ∅
  events : List CommonEvent := []
  internal_processed_event_ids : List String := []
  callbacks : HashMap String Value := ∅
  webhook_delivery_attempts : List WebhookDeliveryAttempt := []
  audit_logs : List Value := []

/-- The same store, its maps yielding their entries in other orders. Hash maps
promise no order, so a result that depends on iteration has to hold for every
store in this relation. -/
structure StoreInner.Reordered (s t : StoreInner) : Prop where
  projects : s.projects.Reordered t.projects
  companies : s.companies.Reordered t.companies
  api_keys : s.api_keys.Reordered t.api_keys
  channels : s.channels.Reordered t.channels
  conversations : s.conversations.Reordered t.conversations
  messages_by_conversation : s.messages_by_conversation.Reordered t.messages_by_conversation
  messages_by_id : s.messages_by_id.Reordered t.messages_by_id
  idempotency : s.idempotency.Reordered t.idempotency
  media_upload_idempotency : s.media_upload_idempotency.Reordered t.media_upload_idempotency
  media_upload_idempotency_inflight :
    s.media_upload_idempotency_inflight.Reordered t.media_upload_idempotency_inflight
  dirty : s.dirty.Reordered t.dirty
  dirty_leases : s.dirty_leases.Reordered t.dirty_leases
  consumer_state : s.consumer_state.Reordered t.consumer_state
  contacts : s.contacts.Reordered t.contacts
  groups : s.groups.Reordered t.groups
  group_members : s.group_members.Reordered t.group_members
  group_profile_refreshes : s.group_profile_refreshes.Reordered t.group_profile_refreshes
  media : s.media.Reordered t.media
  transcripts : s.transcripts.Reordered t.transcripts
  qr : s.qr.Reordered t.qr
  callbacks : s.callbacks.Reordered t.callbacks
  events : s.events = t.events
  internal_processed_event_ids : s.internal_processed_event_ids = t.internal_processed_event_ids
  webhook_delivery_attempts : s.webhook_delivery_attempts = t.webhook_delivery_attempts
  audit_logs : s.audit_logs = t.audit_logs

theorem StoreInner.Reordered.refl (s : StoreInner) : s.Reordered s := by
  constructor <;> first | exact HashMap.Reordered.refl _ | rfl

end rustzap.state
