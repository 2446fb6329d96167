import RustZap.Lib.Upserts
import RustZap.State.Snapshot

open collections serde_json sql
open rustzap.models

namespace rustzap.db

open rustzap.state

/-! The tables of the relational projection, with the columns that its statements
write. The columns `created_at` and `updated_at` that the database fills in by
itself are left out. -/

structure ProjectRow where
  name : String
  status : String
  deriving DecidableEq

structure CompanyRow where
  project_id : String
  name : String
  status : String
  deriving DecidableEq

structure ChannelRow where
  project_id : String
  company_id : String
  provider : String
  phone_e164 : Option String
  label : Option String
  status : String
  connected_at : Option OffsetDateTime
  deriving DecidableEq

structure ContactRow where
  project_id : String
  company_id : String
  channel_account_id : String
  wa_jid : Option String
  phone_e164 : Option String
  lid : Option String
  push_name : Option String
  display_name : Option String
  profile_picture_media_id : Option String
  business_description : Option String
  avatar_url : Option String
  profile_picture_url : Option String
  first_contact_at : OffsetDateTime
  last_contact_at : OffsetDateTime
  deriving DecidableEq

structure GroupRow where
  project_id : String
  company_id : String
  channel_account_id : String
  wa_jid : String
  subject : Option String
  description : Option String
  owner_jid : Option String
  subject_owner_jid : Option String
  created_at_wa : Option OffsetDateTime
  profile_picture_media_id : Option String
  avatar_url : Option String
  profile_picture_url : Option String
  members_count : Option Nat
  admins_count : Option Nat
  deriving DecidableEq

structure GroupMemberRow where
  wa_jid : Option String
  phone_e164 : Option String
  name : Option String
  role : String
  is_admin : Bool
  joined_at : Option OffsetDateTime
  updated_at : OffsetDateTime
  deriving DecidableEq

structure ConversationRow where
  project_id : String
  company_id : String
  channel_account_id : String
  type : String
  contact_id : Option String
  group_id : Option String
  display_name : Option String
  display_phone : Option String
  avatar_url : Option String
  profile_picture_url : Option String
  last_seq : Int
  last_message_at : Option OffsetDateTime
  unread_count : Int
  is_archived : Bool
  is_muted : Bool
  is_pinned : Bool
  control_mode : String
  created_at : OffsetDateTime
  updated_at : OffsetDateTime
  deriving DecidableEq

structure MediaObjectRow where
  project_id : String
  company_id : String
  conversation_id : String
  message_id : Option String
  media_type : String
  mime_type : String
  original_filename : Option String
  size_bytes : Nat
  sha256 : String
  storage_status : String
  bucket : Option String
  object_key : Option String
  permanent_object_key : Option String
  public_url : Option String
  thumbnail_url : Option String
  expires_at : Option OffsetDateTime
  saved_at : Option OffsetDateTime
  created_at : OffsetDateTime
  updated_at : OffsetDateTime
  deriving DecidableEq

structure DirtyRow where
  max_seq : Int
  reason : String
  priority : Int
  available_at : OffsetDateTime
  locked_until : Option OffsetDateTime
  lease_token : Option String
  deriving DecidableEq

structure ConsumerStateRow where
  last_processed_seq : Int
  last_processed_at : OffsetDateTime
  deriving DecidableEq

structure IdempotencyRow where
  request_hash : String
  response_json : Value
  message_id : String
  status : String
  expires_at : OffsetDateTime

structure CallbackRow where
  project_id : String
  company_id : String
  url : String
  encrypted_secret : Option String
  enabled : Bool
  events : List String
  max_batch_size : Int
  timeout_seconds : Int
  deriving DecidableEq

structure WebhookDeliveryAttemptRow where
  callback_id : String
  event_id : String
  attempt : Nat
  status : String
  http_status : Option Nat
  error_message : Option String
  first_failed_at : Option OffsetDateTime
  last_failed_at : Option OffsetDateTime
  next_retry_at : Option OffsetDateTime
  created_at : OffsetDateTime
  deriving DecidableEq

/-- The relational tables, each by its key. A row of `messages` or `transcripts`
has the columns of the record it comes from. -/
structure Tables where
  projects : HashMap String ProjectRow := ∅
  companies : HashMap String CompanyRow := ∅
  channel_accounts : HashMap String ChannelRow := ∅
  contacts : HashMap String ContactRow := ∅
  groups : HashMap String GroupRow := ∅
  group_members : HashMap (String × String) GroupMemberRow := ∅
  conversations : HashMap String ConversationRow := ∅
  messages : HashMap String Message := ∅
  media_objects : HashMap String MediaObjectRow := ∅
  transcripts : HashMap String Transcript := ∅
  dirty_conversations : HashMap (String × String × String) DirtyRow := ∅
  dirty_conversation_leases : HashMap (String × String × String × String) DirtyLeaseRecord := ∅
  consumer_processing_state : HashMap (String × String × String × String) ConsumerStateRow := ∅
  idempotency_keys : HashMap (String × String × String) IdempotencyRow := ∅
  consumer_callbacks : HashMap String CallbackRow := ∅
  webhook_delivery_attempts : HashMap String WebhookDeliveryAttemptRow := ∅

/-- A statement of the projection, by the table it writes to. -/
inductive Statement where
  | projects (upsert : Upsert OffsetDateTime String ProjectRow)
  | companies (upsert : Upsert OffsetDateTime String CompanyRow)
  | channel_accounts (upsert : Upsert OffsetDateTime String ChannelRow)
  | contacts (upsert : Upsert OffsetDateTime String ContactRow)
  | groups (upsert : Upsert OffsetDateTime String GroupRow)
  | group_members (upsert : Upsert OffsetDateTime (String × String) GroupMemberRow)
  | conversations (upsert : Upsert OffsetDateTime String ConversationRow)
  | messages (upsert : Upsert OffsetDateTime String Message)
  | media_objects (upsert : Upsert OffsetDateTime String MediaObjectRow)
  | transcripts (upsert : Upsert OffsetDateTime String Transcript)
  | dirty_conversations (upsert : Upsert OffsetDateTime (String × String × String) DirtyRow)
  | dirty_conversation_leases
      (upsert : Upsert OffsetDateTime (String × String × String × String) DirtyLeaseRecord)
  | consumer_processing_state
      (upsert : Upsert OffsetDateTime (String × String × String × String) ConsumerStateRow)
  | idempotency_keys (upsert : Upsert OffsetDateTime (String × String × String) IdempotencyRow)
  | consumer_callbacks (upsert : Upsert OffsetDateTime String CallbackRow)
  | webhook_delivery_attempts (upsert : Upsert OffsetDateTime String WebhookDeliveryAttemptRow)

inductive TableName where
  | projects
  | companies
  | channel_accounts
  | contacts
  | groups
  | group_members
  | conversations
  | messages
  | media_objects
  | transcripts
  | dirty_conversations
  | dirty_conversation_leases
  | consumer_processing_state
  | idempotency_keys
  | consumer_callbacks
  | webhook_delivery_attempts
  deriving DecidableEq

def Statement.table : Statement → TableName
  | .projects _ => .projects
  | .companies _ => .companies
  | .channel_accounts _ => .channel_accounts
  | .contacts _ => .contacts
  | .groups _ => .groups
  | .group_members _ => .group_members
  | .conversations _ => .conversations
  | .messages _ => .messages
  | .media_objects _ => .media_objects
  | .transcripts _ => .transcripts
  | .dirty_conversations _ => .dirty_conversations
  | .dirty_conversation_leases _ => .dirty_conversation_leases
  | .consumer_processing_state _ => .consumer_processing_state
  | .idempotency_keys _ => .idempotency_keys
  | .consumer_callbacks _ => .consumer_callbacks
  | .webhook_delivery_attempts _ => .webhook_delivery_attempts

namespace Tables

def execute (self : Tables) (now : OffsetDateTime) : Statement → Tables
  | .projects upsert => { self with projects := upsert.execute now self.projects }
  | .companies upsert => { self with companies := upsert.execute now self.companies }
  | .channel_accounts upsert => { self with channel_accounts := upsert.execute now self.channel_accounts }
  | .contacts upsert => { self with contacts := upsert.execute now self.contacts }
  | .groups upsert => { self with groups := upsert.execute now self.groups }
  | .group_members upsert => { self with group_members := upsert.execute now self.group_members }
  | .conversations upsert => { self with conversations := upsert.execute now self.conversations }
  | .messages upsert => { self with messages := upsert.execute now self.messages }
  | .media_objects upsert => { self with media_objects := upsert.execute now self.media_objects }
  | .transcripts upsert => { self with transcripts := upsert.execute now self.transcripts }
  | .dirty_conversations upsert => { self with
      dirty_conversations := upsert.execute now self.dirty_conversations }
  | .dirty_conversation_leases upsert => { self with
      dirty_conversation_leases := upsert.execute now self.dirty_conversation_leases }
  | .consumer_processing_state upsert => { self with
      consumer_processing_state := upsert.execute now self.consumer_processing_state }
  | .idempotency_keys upsert => { self with idempotency_keys := upsert.execute now self.idempotency_keys }
  | .consumer_callbacks upsert => { self with
      consumer_callbacks := upsert.execute now self.consumer_callbacks }
  | .webhook_delivery_attempts upsert => { self with
      webhook_delivery_attempts := upsert.execute now self.webhook_delivery_attempts }

section Constraints

variable (self : Tables)

def has_project (id : String) : Bool := (self.projects.lookup id).isSome

def has_tenant (project_id company_id : String) : Bool :=
  self.has_project project_id && (self.companies.lookup company_id).isSome

def has_channel (id : String) : Bool := (self.channel_accounts.lookup id).isSome

def has_contact (id : String) : Bool := (self.contacts.lookup id).isSome

def has_group (id : String) : Bool := (self.groups.lookup id).isSome

def has_conversation (id : String) : Bool := (self.conversations.lookup id).isSome

/-- The two unique indexes of `messages`: the sequence numbers of a conversation,
and the provider's ids on a channel. -/
def message_clashes (id : String) (message : Message) : Bool :=
  self.messages.entries.any fun entry => entry.1 ≠ id &&
    (entry.2.conversation_id = message.conversation_id &&
        entry.2.conversation_seq = message.conversation_seq ||
      message.wa_message_id.isSome && entry.2.wa_message_id = message.wa_message_id &&
        entry.2.channel_account_id = message.channel_account_id &&
        entry.2.direction = message.direction)

/-- Whether the row that a statement leaves meets the constraints that the
migrations declare. -/
def meets_constraints (now : OffsetDateTime) : Statement → Bool
  | .projects _ => true
  | .companies upsert => self.has_project (upsert.row now (self.companies.lookup upsert.key)).project_id
  | .channel_accounts upsert =>
    let row := upsert.row now (self.channel_accounts.lookup upsert.key)
    self.has_tenant row.project_id row.company_id
  | .contacts upsert =>
    let row := upsert.row now (self.contacts.lookup upsert.key)
    self.has_tenant row.project_id row.company_id && self.has_channel row.channel_account_id
  | .groups upsert =>
    let row := upsert.row now (self.groups.lookup upsert.key)
    self.has_tenant row.project_id row.company_id && self.has_channel row.channel_account_id
  | .group_members upsert => self.has_group upsert.key.1 && self.has_contact upsert.key.2
  | .conversations upsert =>
    let row := upsert.row now (self.conversations.lookup upsert.key)
    self.has_tenant row.project_id row.company_id && self.has_channel row.channel_account_id &&
      row.contact_id.all self.has_contact && row.group_id.all self.has_group
  | .messages upsert =>
    let row := upsert.row now (self.messages.lookup upsert.key)
    self.has_tenant row.project_id row.company_id && self.has_conversation row.conversation_id &&
      self.has_channel row.channel_account_id && row.sender_contact_id.all self.has_contact &&
      !self.message_clashes upsert.key row
  | .media_objects upsert =>
    let row := upsert.row now (self.media_objects.lookup upsert.key)
    self.has_tenant row.project_id row.company_id && self.has_conversation row.conversation_id &&
      row.message_id.all fun id => (self.messages.lookup id).isSome
  | .transcripts upsert =>
    let row := upsert.row now (self.transcripts.lookup upsert.key)
    self.has_tenant row.project_id row.company_id && (self.messages.lookup row.message_id).isSome &&
      row.media_id.all fun id => (self.media_objects.lookup id).isSome
  | .dirty_conversations upsert =>
    self.has_tenant upsert.key.1 upsert.key.2.1 && self.has_conversation upsert.key.2.2
  | .dirty_conversation_leases upsert =>
    self.has_tenant upsert.key.1 upsert.key.2.1 && self.has_conversation upsert.key.2.2.2
  | .consumer_processing_state upsert =>
    self.has_tenant upsert.key.1 upsert.key.2.1 && self.has_conversation upsert.key.2.2.2
  | .idempotency_keys upsert => self.has_tenant upsert.key.1 upsert.key.2.1
  | .consumer_callbacks upsert =>
    let row := upsert.row now (self.consumer_callbacks.lookup upsert.key)
    self.has_tenant row.project_id row.company_id
  | .webhook_delivery_attempts upsert =>
    let row := upsert.row now (self.webhook_delivery_attempts.lookup upsert.key)
    (self.consumer_callbacks.lookup row.callback_id).isSome

end Constraints

/-- The statements of a script, each with the reading of the clock it gets. -/
def execute_all (self : Tables) (script : List (OffsetDateTime × Statement)) : Tables :=
  script.foldl (fun tables entry => tables.execute entry.1 entry.2) self

end Tables

/-- One of the tables, with its share of the statements. -/
structure Table (K R : Type) [DecidableEq K] where
  name : TableName
  rows : Tables → HashMap K R
  upsert : Statement → Option (Upsert OffsetDateTime K R)
  rows_execute : ∀ tables now statement, rows (Tables.execute tables now statement) =
    (upsert statement).elim (rows tables) fun upsert => upsert.execute now (rows tables)
  upsert_isSome : ∀ statement, (upsert statement).isSome → statement.table = name

namespace Table

variable {K R : Type} [DecidableEq K]

/-- The statements of the table, in their order. -/
def upserts (table : Table K R) (statements : List Statement) : List (Upsert OffsetDateTime K R) :=
  statements.filterMap table.upsert

def timed_upserts (table : Table K R) (script : List (OffsetDateTime × Statement)) :
    List (OffsetDateTime × Upsert OffsetDateTime K R) :=
  script.filterMap fun entry => (table.upsert entry.2).map fun upsert => (entry.1, upsert)

theorem timed_upserts_snd (table : Table K R) (script : List (OffsetDateTime × Statement)) :
    (table.timed_upserts script).map Prod.snd = table.upserts (script.map Prod.snd) := by
  rw [timed_upserts, upserts, List.map_filterMap, List.filterMap_map]
  refine List.filterMap_congr fun entry _ => ?_
  rw [Option.map_map]
  exact Option.map_id'

/-- One statement of the table for each item. -/
theorem upserts_map (table : Table K R) {A : Type} {f : A → Statement} {g : A → Upsert OffsetDateTime K R}
    (h : ∀ item, table.upsert (f item) = some (g item)) (items : List A) :
    table.upserts (items.map f) = items.map g := by
  rw [upserts, List.filterMap_map, ← List.filterMap_eq_map']
  exact List.filterMap_congr fun item _ => h item

theorem upserts_filterMap (table : Table K R) {A : Type} (f : A → Option Statement) (items : List A) :
    table.upserts (items.filterMap f) = items.filterMap fun item => (f item).bind table.upsert :=
  List.filterMap_filterMap

theorem upserts_flatMap (table : Table K R) {A : Type} (f : A → List Statement) (items : List A) :
    table.upserts (items.flatMap f) = items.flatMap fun item => table.upserts (f item) :=
  List.filterMap_flatMap

theorem upserts_append (table : Table K R) (first second : List Statement) :
    table.upserts (first ++ second) = table.upserts first ++ table.upserts second :=
  List.filterMap_append

theorem upsert_eq_none (table : Table K R) {statement : Statement} (h : table.name ≠ statement.table) :
    table.upsert statement = none := by
  rw [← Option.not_isSome_iff_eq_none]
  exact fun hsome => h (table.upsert_isSome statement hsome).symm

theorem upserts_eq_nil (table : Table K R) {statements : List Statement}
    (h : ∀ statement ∈ statements, table.upsert statement = none) : table.upserts statements = [] :=
  List.filterMap_eq_nil_iff.mpr h

/-- A script does to the table what the table's statements do. -/
theorem rows_execute_all (table : Table K R) (tables : Tables) (script : List (OffsetDateTime × Statement)) :
    table.rows (tables.execute_all script) =
      Upsert.execute_all (table.timed_upserts script) (table.rows tables) := by
  induction script generalizing tables with
  | nil => rfl
  | cons entry script ih =>
    rw [Tables.execute_all, List.foldl_cons]
    refine (ih _).trans ?_
    rw [table.rows_execute]
    unfold timed_upserts
    rw [List.filterMap_cons]
    cases table.upsert entry.2 <;> rfl

def projects : Table String ProjectRow where
  name := .projects
  rows := Tables.projects
  upsert | .projects upsert => some upsert | _ => none
  rows_execute tables now statement := by cases statement <;> rfl
  upsert_isSome statement h := by cases statement <;> first | rfl | cases h

def companies : Table String CompanyRow where
  name := .companies
  rows := Tables.companies
  upsert | .companies upsert => some upsert | _ => none
  rows_execute tables now statement := by cases statement <;> rfl
  upsert_isSome statement h := by cases statement <;> first | rfl | cases h

def channel_accounts : Table String ChannelRow where
  name := .channel_accounts
  rows := Tables.channel_accounts
  upsert | .channel_accounts upsert => some upsert | _ => none
  rows_execute tables now statement := by cases statement <;> rfl
  upsert_isSome statement h := by cases statement <;> first | rfl | cases h

def contacts : Table String ContactRow where
  name := .contacts
  rows := Tables.contacts
  upsert | .contacts upsert => some upsert | _ => none
  rows_execute tables now statement := by cases statement <;> rfl
  upsert_isSome statement h := by cases statement <;> first | rfl | cases h

def messages : Table String Message where
  name := .messages
  rows := Tables.messages
  upsert | .messages upsert => some upsert | _ => none
  rows_execute tables now statement := by cases statement <;> rfl
  upsert_isSome statement h := by cases statement <;> first | rfl | cases h

def media_objects : Table String MediaObjectRow where
  name := .media_objects
  rows := Tables.media_objects
  upsert | .media_objects upsert => some upsert | _ => none
  rows_execute tables now statement := by cases statement <;> rfl
  upsert_isSome statement h := by cases statement <;> first | rfl | cases h

def transcripts : Table String Transcript where
  name := .transcripts
  rows := Tables.transcripts
  upsert | .transcripts upsert => some upsert | _ => none
  rows_execute tables now statement := by cases statement <;> rfl
  upsert_isSome statement h := by cases statement <;> first | rfl | cases h

def dirty_conversations : Table (String × String × String) DirtyRow where
  name := .dirty_conversations
  rows := Tables.dirty_conversations
  upsert | .dirty_conversations upsert => some upsert | _ => none
  rows_execute tables now statement := by cases statement <;> rfl
  upsert_isSome statement h := by cases statement <;> first | rfl | cases h

def consumer_callbacks : Table String CallbackRow where
  name := .consumer_callbacks
  rows := Tables.consumer_callbacks
  upsert | .consumer_callbacks upsert => some upsert | _ => none
  rows_execute tables now statement := by cases statement <;> rfl
  upsert_isSome statement h := by cases statement <;> first | rfl | cases h

end Table

end rustzap.db
