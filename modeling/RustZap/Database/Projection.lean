import RustZap.Database.Outbox
import RustZap.Database.Tables

open collections serde_json sql
open rustzap.models

namespace rustzap.db

open rustzap.eventbus rustzap.state

def value_str (value : Value) (key : String) : Option String :=
  ((value.get key).bind Value.as_str).bind str.non_blank

def channel_status_for_id (store : PersistedStore) (channel_id : String) : String :=
  ((store.channels.lookup channel_id).bind fun channel => str.non_blank channel.status).getD "disconnected"

def channel_connected_at_for_id (store : PersistedStore) (channel_id : String) : Option OffsetDateTime :=
  (store.channels.lookup channel_id).bind ChannelRecord.connected_at

def channel_for_project_company (store : PersistedStore) (project_id company_id : String) : String :=
  let channel := store.channels.entries.find? fun entry =>
    channel_belongs_to_company entry.2 project_id company_id
  let conversation := store.conversations.values.find? fun conversation =>
    conversation.project_id = project_id && conversation.company_id = company_id
  ((channel.map Sigma.fst).or (conversation.map Conversation.channel_account_id)).getD "channel_dev"

def group_context (store : PersistedStore) (group_id : String) : String × String × String :=
  match store.conversations.values.find? fun conversation => conversation.group_id = some group_id with
  | some conversation =>
    (conversation.project_id, conversation.company_id, conversation.channel_account_id)
  | none => ("default", "default", "channel_dev")

section Upserts

def upsert_project (id name status : String) : Statement :=
  .projects
    { key := id
      insert := fun _ => { name, status }
      update := fun _ _ => { name, status } }

def upsert_company (project_id company_id name status : String) : Statement :=
  .companies
    { key := company_id
      insert := fun _ => { project_id, name, status }
      update := fun _ _ => { project_id, name, status } }

def upsert_channel (id project_id company_id provider : String) (phone_e164 label : Option String)
    (status : String) (connected_at : Option OffsetDateTime) : Statement :=
  .channel_accounts
    { key := id
      insert := fun _ => { project_id, company_id, provider, phone_e164, label, status, connected_at }
      update := fun _ row =>
        { project_id
          company_id
          provider
          phone_e164 := phone_e164.or row.phone_e164
          label := label.or row.label
          status
          connected_at := if status = "connected" then connected_at.or row.connected_at else none } }

def upsert_contact (contact : ContactRecord) (channel_id : String) : Statement :=
  let channel_id := contact.channel_account_id.getD channel_id
  let wa_jid := contact.canonical_jid.or contact.lid
  .contacts
    { key := contact.id
      insert := fun _ =>
        { project_id := contact.project_id
          company_id := contact.company_id
          channel_account_id := channel_id
          wa_jid
          phone_e164 := contact.phone_e164
          lid := contact.lid
          push_name := contact.push_name
          display_name := some contact.display_name
          profile_picture_media_id := contact.profile_picture_media_id
          business_description := contact.business_description
          avatar_url := contact.avatar_url
          profile_picture_url := contact.profile_picture_url
          first_contact_at := contact.first_contact_at
          last_contact_at := contact.last_contact_at }
      update := fun _ row =>
        { row with
          channel_account_id := channel_id
          wa_jid := wa_jid.or row.wa_jid
          lid := contact.lid.or row.lid
          phone_e164 := contact.phone_e164.or row.phone_e164
          push_name := contact.push_name.or row.push_name
          display_name := some contact.display_name
          profile_picture_media_id := contact.profile_picture_media_id.or row.profile_picture_media_id
          business_description := contact.business_description.or row.business_description
          avatar_url := contact.avatar_url.or row.avatar_url
          profile_picture_url := contact.profile_picture_url.or row.profile_picture_url
          last_contact_at := contact.last_contact_at } }

def upsert_minimal_contact (project_id company_id channel_id contact_id : String)
    (display_name phone_e164 : Option String) : Statement :=
  let display_name := some (display_name.getD contact_id)
  .contacts
    { key := contact_id
      insert := fun now =>
        { project_id
          company_id
          channel_account_id := channel_id
          wa_jid := some contact_id
          phone_e164
          lid := none
          push_name := none
          display_name
          profile_picture_media_id := none
          business_description := none
          avatar_url := none
          profile_picture_url := none
          first_contact_at := now
          last_contact_at := now }
      update := fun now row =>
        { row with
          display_name := display_name.or row.display_name
          phone_e164 := phone_e164.or row.phone_e164
          last_contact_at := now } }

def upsert_group (group_id : String) (group : GroupRecord) (project_id company_id channel_id : String) :
    Statement :=
  let wa_jid := group.wa_jid.getD group_id
  let members_count := group.members_count.filter fun value => value < 2 ^ 31
  let admins_count := group.admins_count.filter fun value => value < 2 ^ 31
  .groups
    { key := group_id
      insert := fun _ =>
        { project_id
          company_id
          channel_account_id := channel_id
          wa_jid
          subject := group.subject
          description := group.description
          owner_jid := group.owner_jid
          subject_owner_jid := group.subject_owner_jid
          created_at_wa := group.created_at_wa
          profile_picture_media_id := group.profile_picture_media_id
          avatar_url := group.avatar_url
          profile_picture_url := group.profile_picture_url
          members_count
          admins_count }
      update := fun _ row =>
        { row with
          channel_account_id := channel_id
          wa_jid
          subject := group.subject.or row.subject
          description := group.description.or row.description
          owner_jid := group.owner_jid.or row.owner_jid
          subject_owner_jid := group.subject_owner_jid.or row.subject_owner_jid
          created_at_wa := group.created_at_wa.or row.created_at_wa
          profile_picture_media_id := group.profile_picture_media_id.or row.profile_picture_media_id
          avatar_url := group.avatar_url.or row.avatar_url
          profile_picture_url := group.profile_picture_url.or row.profile_picture_url
          members_count := members_count.or row.members_count
          admins_count := admins_count.or row.admins_count } }

def upsert_group_member (member : GroupMemberRecord) : Statement :=
  let wa_jid := some (member.wa_jid.getD member.contact_id)
  .group_members
    { key := (member.group_id, member.contact_id)
      insert := fun _ =>
        { wa_jid
          phone_e164 := member.phone_e164
          name := some member.display_name
          role := member.role
          is_admin := member.is_admin
          joined_at := some member.joined_at
          updated_at := member.updated_at }
      update := fun _ row =>
        { wa_jid := wa_jid.or row.wa_jid
          phone_e164 := member.phone_e164.or row.phone_e164
          name := (some member.display_name).or row.name
          role := member.role
          is_admin := member.is_admin
          joined_at := row.joined_at.or (some member.joined_at)
          updated_at := member.updated_at } }

def persist_conversation (conversation : Conversation) : Statement :=
  let row : ConversationRow :=
    { project_id := conversation.project_id
      company_id := conversation.company_id
      channel_account_id := conversation.channel_account_id
      type := conversation.conversation_type
      contact_id := conversation.contact_id
      group_id := conversation.group_id
      display_name := conversation.display_name
      display_phone := conversation.display_phone
      avatar_url := conversation.avatar_url
      profile_picture_url := conversation.profile_picture_url
      last_seq := conversation.last_seq
      last_message_at := conversation.last_message_at
      unread_count := conversation.unread_count
      is_archived := conversation.is_archived
      is_muted := conversation.is_muted
      is_pinned := conversation.is_pinned
      control_mode := conversation.control_mode
      created_at := conversation.created_at
      updated_at := conversation.updated_at }
  .conversations
    { key := conversation.id
      insert := fun _ => row
      update := fun _ old => { row with created_at := old.created_at } }

def persist_message (message : Message) : Statement :=
  .messages
    { key := message.id
      insert := fun _ => message
      update := fun _ row =>
        { row with
          conversation_seq := message.conversation_seq
          wa_message_id := message.wa_message_id
          sender_contact_id := message.sender_contact_id
          sender_display_name := message.sender_display_name
          text := message.text
          media_id := message.media_id
          media_url := message.media_url
          thumbnail_url := message.thumbnail_url
          mime_type := message.mime_type
          file_name := message.file_name
          quoted_message_id := message.quoted_message_id
          status := message.status
          error_message := message.error_message
          is_starred := message.is_starred
          is_pinned := message.is_pinned
          reaction := message.reaction
          sent_by_source := message.sent_by_source
          sent_by_external_user_id := message.sent_by_external_user_id
          updated_at := message.updated_at } }

def persist_media_object (media : MediaObject) : Statement :=
  let row : MediaObjectRow :=
    { project_id := media.project_id
      company_id := media.company_id
      conversation_id := media.conversation_id
      message_id := media.message_id
      media_type := media.media_type
      mime_type := media.mime_type
      original_filename := media.original_filename
      size_bytes := min media.size_bytes (2 ^ 63 - 1)
      sha256 := media.sha256
      storage_status := media.storage_status
      bucket := media.bucket
      object_key := media.object_key
      permanent_object_key := media.permanent_object_key
      public_url := media.public_url
      thumbnail_url := media.thumbnail_url
      expires_at := media.expires_at
      saved_at := media.saved_at
      created_at := media.created_at
      updated_at := media.updated_at }
  .media_objects
    { key := media.id
      insert := fun _ => row
      update := fun _ old => { row with
        project_id := old.project_id
        company_id := old.company_id
        created_at := old.created_at } }

def persist_transcript (transcript : Transcript) : Statement :=
  .transcripts
    { key := transcript.id
      insert := fun _ => transcript
      update := fun _ row =>
        { row with
          media_id := transcript.media_id
          text := transcript.text
          raw_response_json := transcript.raw_response_json
          status := transcript.status
          error_message := transcript.error_message
          updated_at := transcript.updated_at } }

def persist_dirty_record (project_id company_id : String) (dirty : DirtyRecord) : Statement :=
  let row : DirtyRow :=
    { max_seq := dirty.max_seq
      reason := dirty.reason
      priority := dirty.priority
      available_at := dirty.available_at
      locked_until := dirty.locked_until
      lease_token := dirty.lease_token }
  .dirty_conversations
    { key := (project_id, company_id, dirty.conversation_id)
      insert := fun _ => row
      update := fun _ _ => row }

def persist_dirty_lease (project_id company_id consumer_id conversation_id : String)
    (lease : DirtyLeaseRecord) : Statement :=
  .dirty_conversation_leases
    { key := (project_id, company_id, consumer_id, conversation_id)
      insert := fun _ => lease
      update := fun _ _ => lease }

def persist_webhook_delivery_attempt (attempt : WebhookDeliveryAttempt) : Statement :=
  .webhook_delivery_attempts
    { key := attempt.id
      insert := fun _ =>
        { callback_id := attempt.callback_id
          event_id := attempt.event_id
          attempt := min attempt.attempt (2 ^ 31 - 1)
          status := attempt.status
          http_status := attempt.http_status
          error_message := attempt.error_message
          first_failed_at := attempt.first_failed_at
          last_failed_at := attempt.last_failed_at
          next_retry_at := attempt.next_retry_at
          created_at := attempt.created_at }
      update := fun _ row => row }

end Upserts

section Persist

variable (store : PersistedStore)

def persist_projects : List Statement :=
  let active := fun project_id => upsert_project project_id project_id "active"
  (store.projects.entries.map fun entry =>
    upsert_project entry.1 ((value_str entry.2 "name").getD entry.1)
      ((value_str entry.2 "status").getD "active")) ++
  (store.companies.map fun entry => active entry.1.1) ++
  (store.channels.values.filterMap fun channel => (str.non_blank channel.project_id).map active) ++
  (store.conversations.values.map fun conversation => active conversation.project_id) ++
  (store.messages_by_id.values.map fun message => active message.project_id) ++
  (store.media.values.map fun media => active media.project_id) ++
  (store.transcripts.values.map fun transcript => active transcript.project_id) ++
  (store.dirty.map fun entry => active entry.1.1) ++
  (store.consumer_state.map fun entry => active entry.1.1) ++
  (store.idempotency.map fun entry => active entry.1.1)

def persist_companies : List Statement :=
  let active := fun project_id company_id => upsert_company project_id company_id company_id "active"
  (store.companies.map fun entry =>
    upsert_company entry.1.1 entry.1.2 ((value_str entry.2 "name").getD entry.1.2)
      ((value_str entry.2 "status").getD "active")) ++
  (store.channels.values.filterMap fun channel =>
    (str.non_blank channel.project_id).bind fun project_id =>
      (str.non_blank channel.company_id).map fun company_id => active project_id company_id) ++
  (store.conversations.values.map fun conversation =>
    active conversation.project_id conversation.company_id) ++
  (store.messages_by_id.values.map fun message => active message.project_id message.company_id) ++
  (store.dirty.map fun entry => active entry.1.1 entry.1.2.1) ++
  (store.consumer_state.map fun entry => active entry.1.1 entry.1.2.1) ++
  (store.idempotency.map fun entry => active entry.1.1 entry.1.2.1)

/-- The row of a channel that is only known by its id. -/
def upsert_referenced_channel (channel_id project_id company_id : String) : Statement :=
  upsert_channel channel_id project_id company_id "whatsapp-rust" none (some "WhatsApp")
    (channel_status_for_id store channel_id) (channel_connected_at_for_id store channel_id)

def persist_channels : List Statement :=
  (store.channels.entries.flatMap fun entry =>
    let channel := entry.2
    let project_id := (str.non_blank channel.project_id).getD "default"
    let company_id := (str.non_blank channel.company_id).getD "default"
    [upsert_project project_id project_id "active",
      upsert_company project_id company_id company_id "active",
      upsert_channel entry.1 project_id company_id ((str.non_blank channel.provider).getD "whatsapp-rust")
        (channel.phone_e164.bind str.non_blank) (str.non_blank channel.label)
        ((str.non_blank channel.status).getD "disconnected") channel.connected_at]) ++
  (store.conversations.values.map fun conversation =>
    upsert_referenced_channel store conversation.channel_account_id conversation.project_id
      conversation.company_id) ++
  (store.messages_by_id.values.map fun message =>
    upsert_referenced_channel store message.channel_account_id message.project_id message.company_id)

def persist_contacts : List Statement :=
  (store.contacts.values.flatMap fun contact =>
    let channel_id := channel_for_project_company store contact.project_id contact.company_id
    [upsert_referenced_channel store channel_id contact.project_id contact.company_id,
      upsert_contact contact channel_id]) ++
  (store.conversations.values.filterMap fun conversation =>
    conversation.contact_id.map fun contact_id =>
      upsert_minimal_contact conversation.project_id conversation.company_id
        conversation.channel_account_id contact_id conversation.display_name conversation.display_phone) ++
  (store.messages_by_id.values.filterMap fun message =>
    message.sender_contact_id.map fun contact_id =>
      upsert_minimal_contact message.project_id message.company_id message.channel_account_id contact_id
        message.sender_display_name none)

/-- The group that stands in for one that is not stored. -/
def unknown_group (wa_jid : String) (subject avatar_url profile_picture_url : Option String) :
    GroupRecord where
  wa_jid := some wa_jid
  subject
  description := none
  owner_jid := none
  subject_owner_jid := none
  profile_picture_media_id := none
  avatar_url
  profile_picture_url
  created_at_wa := none
  members_count := none
  admins_count := none

def persist_groups : List Statement :=
  (store.groups.entries.map fun entry =>
    let (project_id, company_id, channel_id) := group_context store entry.1
    upsert_group entry.1 entry.2 project_id company_id channel_id) ++
  (store.conversations.values.filterMap fun conversation =>
    conversation.group_id.map fun group_id =>
      upsert_group group_id
        (unknown_group group_id conversation.display_name conversation.avatar_url
          conversation.profile_picture_url)
        conversation.project_id conversation.company_id conversation.channel_account_id)

def persist_group_members : List Statement :=
  store.group_members.entries.flatMap fun entry =>
    let (project_id, company_id, channel_id) := group_context store entry.1
    let group := (store.groups.lookup entry.1).getD (unknown_group entry.1 (some entry.1) none none)
    upsert_group entry.1 group project_id company_id channel_id ::
      entry.2.values.flatMap fun member =>
        [upsert_minimal_contact project_id company_id channel_id member.contact_id
            (some member.display_name) member.phone_e164,
          upsert_group_member member]

def persist_conversations : List Statement :=
  store.conversations.values.map persist_conversation

def persist_messages : List Statement :=
  store.messages_by_id.values.map persist_message

def persist_media : List Statement :=
  store.media.values.map persist_media_object

def persist_transcripts : List Statement :=
  store.transcripts.values.map persist_transcript

def persist_dirty : List Statement :=
  store.dirty.map fun entry => persist_dirty_record entry.1.1 entry.1.2.1 entry.2

def persist_dirty_leases : List Statement :=
  store.dirty_leases.map fun entry =>
    persist_dirty_lease entry.1.1 entry.1.2.1 entry.1.2.2.1 entry.1.2.2.2 entry.2

def persist_consumer_state : List Statement :=
  store.consumer_state.map fun entry =>
    .consumer_processing_state
      { key := entry.1
        insert := fun now => { last_processed_seq := entry.2, last_processed_at := now }
        update := fun now _ => { last_processed_seq := entry.2, last_processed_at := now } }

def persist_idempotency (now_utc : OffsetDateTime) : List Statement :=
  let expires_at := now_utc + Duration.hours 72
  store.idempotency.map fun entry =>
    let row : IdempotencyRow :=
      { request_hash := entry.2.request_hash
        response_json := .object [("message_id", .string entry.2.message_id)]
        message_id := entry.2.message_id
        status := "completed"
        expires_at }
    .idempotency_keys { key := entry.1, insert := fun _ => row, update := fun _ _ => row }

/-- The id under which a callback is entered. -/
def callback_id (callback : Value) : String :=
  (value_str callback "id").getD "callback_unknown"

/-- A 64-bit integer cut to 32 bits. -/
def as_i32 (value : Int) : Int :=
  Int.bmod value (2 ^ 32)

def persist_callback (callback : Value) : List Statement :=
  let project_id := (value_str callback "project_id").getD "default"
  let company_id := (value_str callback "company_id").getD "default"
  let row : CallbackRow :=
    { project_id
      company_id
      url := (value_str callback "url").getD "http://localhost/webhook"
      encrypted_secret := value_str callback "encrypted_secret"
      enabled := ((callback.get "enabled").bind Value.as_bool).getD true
      events := (((callback.get "events").bind Value.as_array).map fun items =>
        items.filterMap Value.as_str).getD ["conversation.dirty"]
      max_batch_size := as_i32 (((callback.get "max_batch_size").bind Value.as_i64).getD 100)
      timeout_seconds := as_i32 (((callback.get "timeout_seconds").bind Value.as_i64).getD 10) }
  [upsert_project project_id project_id "active",
    upsert_company project_id company_id company_id "active",
    .consumer_callbacks
      { key := callback_id callback
        insert := fun _ => row
        update := fun _ old => { row with project_id := old.project_id, company_id := old.company_id } }]

def persist_callbacks : List Statement :=
  store.callbacks.values.flatMap persist_callback

def persist_webhook_delivery_attempts : List Statement :=
  store.webhook_delivery_attempts.map persist_webhook_delivery_attempt

/-- The statements of the projection, in their order. -/
def relational_statements (now_utc : OffsetDateTime) : List Statement :=
  persist_projects store ++ persist_companies store ++ persist_channels store ++ persist_contacts store ++
    persist_groups store ++ persist_group_members store ++ persist_conversations store ++
    persist_messages store ++ persist_media store ++ persist_transcripts store ++ persist_dirty store ++
    persist_dirty_leases store ++ persist_consumer_state store ++ persist_idempotency store now_utc ++
    persist_callbacks store ++ persist_webhook_delivery_attempts store

end Persist

/-- The handle of the database. `refuses` stands for all that makes the server
refuse a statement, or fail to answer it. -/
structure MetadataDb where
  kafka : config.KafkaConfig
  refuses : Tables → OffsetDateTime → Statement → Option String

structure Database where
  metadata_snapshot : Option PersistedStore := none
  event_outbox : Outbox := ∅
  tables : Tables := {}

/-- What a call of `persist_store` learns from outside: the clock of the database
at its transaction, how the transaction ended, the clock at each statement after
it, and the clock of the service. -/
structure PersistAnswers where
  transaction_at : OffsetDateTime
  transaction : Option String
  statement_at : Nat → OffsetDateTime
  now_utc : OffsetDateTime

/-- The statements one after the other, up to the first that is refused. -/
def run_statements (refuses : Tables → OffsetDateTime → Statement → Option String) :
    List (OffsetDateTime × Statement) → Tables → Except String Unit × Tables
  | [], tables => (.ok (), tables)
  | (now, statement) :: script, tables =>
    match refuses tables now statement with
    | some err => (.error err, tables)
    | none => run_statements refuses script (tables.execute now statement)

def timed (clock : Nat → OffsetDateTime) (statements : List Statement) :
    List (OffsetDateTime × Statement) :=
  statements.zipIdx.map fun entry => (clock entry.2, entry.1)

theorem timed_snd (clock : Nat → OffsetDateTime) (statements : List Statement) :
    (timed clock statements).map Prod.snd = statements := by
  rw [timed, List.map_map]
  exact List.zipIdx_map_fst 0 statements

/-- What succeeds has executed every statement. -/
theorem run_statements_ok {refuses : Tables → OffsetDateTime → Statement → Option String}
    {script : List (OffsetDateTime × Statement)} {tables : Tables}
    (h : (run_statements refuses script tables).1 = .ok ()) :
    (run_statements refuses script tables).2 = tables.execute_all script := by
  induction script generalizing tables with
  | nil => rfl
  | cons entry script ih =>
    obtain ⟨now, statement⟩ := entry
    rw [run_statements] at h ⊢
    split at h
    · cases h
    · exact ih h

namespace MetadataDb

variable (self : MetadataDb)

def persist_snapshot_and_outbox (answers : PersistAnswers) (store : PersistedStore) (db : Database) :
    Except String Unit × Database :=
  match answers.transaction with
  | some err => (.error err, db)
  | none =>
    (.ok (), { db with
      metadata_snapshot := some store
      event_outbox := store.events.foldl (fun outbox event =>
        (enqueue_outbox_event self.kafka event).execute answers.transaction_at outbox) db.event_outbox })

def persist_relational (answers : PersistAnswers) (store : PersistedStore) (db : Database) :
    Except String Unit × Database :=
  let result := run_statements self.refuses
    (timed answers.statement_at (relational_statements store answers.now_utc)) db.tables
  (result.1, { db with tables := result.2 })

def persist_store (answers : PersistAnswers) (store : PersistedStore) (db : Database) :
    Except String Unit × Database :=
  match self.persist_snapshot_and_outbox answers store db with
  | (.error err, db) => (.error err, db)
  | (.ok _, db) => self.persist_relational answers store db

/-- A call that succeeds has executed the whole projection. -/
theorem persist_store_ok {self : MetadataDb} {answers : PersistAnswers} {store : PersistedStore}
    {db : Database} (h : (self.persist_store answers store db).1 = .ok ()) :
    ∃ script, script.map Prod.snd = relational_statements store answers.now_utc ∧
      (self.persist_store answers store db).2.tables = db.tables.execute_all script := by
  refine ⟨timed answers.statement_at (relational_statements store answers.now_utc), timed_snd _ _, ?_⟩
  rw [persist_store, persist_snapshot_and_outbox] at h ⊢
  cases htransaction : answers.transaction with
  | some err =>
    rw [htransaction] at h
    cases h
  | none =>
    rw [htransaction] at h
    dsimp only [persist_relational] at h ⊢
    exact run_statements_ok h

end MetadataDb

end rustzap.db
