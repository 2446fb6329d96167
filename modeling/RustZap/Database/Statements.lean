import RustZap.Database.Projection

open collections serde_json sql
open rustzap.models

namespace rustzap.db

open rustzap.eventbus rustzap.state Table

section Shapes

variable {P : Statement → Prop} (store : PersistedStore)

/-! What each part of the projection is made of. -/

theorem persist_projects_each (hproject : ∀ id name status, P (upsert_project id name status)) :
    ∀ statement ∈ persist_projects store, P statement := by
  intro statement hmem
  simp only [persist_projects, List.mem_append, List.mem_map, List.mem_filterMap,
    Option.map_eq_some_iff] at hmem
  rcases hmem with ((((((((⟨_, _, rfl⟩ | ⟨_, _, rfl⟩) | ⟨_, _, _, _, rfl⟩) | ⟨_, _, rfl⟩) | ⟨_, _, rfl⟩) |
    ⟨_, _, rfl⟩) | ⟨_, _, rfl⟩) | ⟨_, _, rfl⟩) | ⟨_, _, rfl⟩) | ⟨_, _, rfl⟩
  all_goals exact hproject _ _ _

theorem persist_companies_each
    (hcompany : ∀ project_id company_id name status, P (upsert_company project_id company_id name status)) :
    ∀ statement ∈ persist_companies store, P statement := by
  intro statement hmem
  simp only [persist_companies, List.mem_append, List.mem_map, List.mem_filterMap, Option.bind_eq_some_iff,
    Option.map_eq_some_iff] at hmem
  rcases hmem with (((((⟨_, _, rfl⟩ | ⟨_, _, _, _, _, _, rfl⟩) | ⟨_, _, rfl⟩) | ⟨_, _, rfl⟩) | ⟨_, _, rfl⟩) |
    ⟨_, _, rfl⟩) | ⟨_, _, rfl⟩
  all_goals exact hcompany _ _ _ _

theorem persist_channels_each (hproject : ∀ id name status, P (upsert_project id name status))
    (hcompany : ∀ project_id company_id name status, P (upsert_company project_id company_id name status))
    (hchannel : ∀ id project_id company_id provider phone_e164 label status connected_at,
      P (upsert_channel id project_id company_id provider phone_e164 label status connected_at)) :
    ∀ statement ∈ persist_channels store, P statement := by
  intro statement hmem
  simp only [persist_channels, List.mem_append, List.mem_flatMap, List.mem_map, List.mem_cons,
    List.not_mem_nil, or_false] at hmem
  rcases hmem with (⟨_, _, rfl | rfl | rfl⟩ | ⟨_, _, rfl⟩) | ⟨_, _, rfl⟩
  · exact hproject _ _ _
  · exact hcompany _ _ _ _
  all_goals exact hchannel _ _ _ _ _ _ _ _

theorem persist_contacts_each
    (hchannel : ∀ id project_id company_id provider phone_e164 label status connected_at,
      P (upsert_channel id project_id company_id provider phone_e164 label status connected_at))
    (hcontact : ∀ contact channel_id, P (upsert_contact contact channel_id))
    (hminimal : ∀ project_id company_id channel_id contact_id display_name phone_e164,
      P (upsert_minimal_contact project_id company_id channel_id contact_id display_name phone_e164)) :
    ∀ statement ∈ persist_contacts store, P statement := by
  intro statement hmem
  simp only [persist_contacts, List.mem_append, List.mem_flatMap, List.mem_filterMap, List.mem_cons,
    List.not_mem_nil, or_false, Option.map_eq_some_iff] at hmem
  rcases hmem with (⟨_, _, rfl | rfl⟩ | ⟨_, _, _, _, rfl⟩) | ⟨_, _, _, _, rfl⟩
  · exact hchannel _ _ _ _ _ _ _ _
  · exact hcontact _ _
  all_goals exact hminimal _ _ _ _ _ _

theorem persist_groups_each (hgroup : ∀ group_id group project_id company_id channel_id,
      P (upsert_group group_id group project_id company_id channel_id)) :
    ∀ statement ∈ persist_groups store, P statement := by
  intro statement hmem
  simp only [persist_groups, List.mem_append, List.mem_map, List.mem_filterMap,
    Option.map_eq_some_iff] at hmem
  rcases hmem with ⟨_, _, rfl⟩ | ⟨_, _, _, _, rfl⟩
  all_goals exact hgroup _ _ _ _ _

theorem persist_group_members_each (hgroup : ∀ group_id group project_id company_id channel_id,
      P (upsert_group group_id group project_id company_id channel_id))
    (hminimal : ∀ project_id company_id channel_id contact_id display_name phone_e164,
      P (upsert_minimal_contact project_id company_id channel_id contact_id display_name phone_e164))
    (hmember : ∀ member, P (upsert_group_member member)) :
    ∀ statement ∈ persist_group_members store, P statement := by
  intro statement hmem
  simp only [persist_group_members, List.mem_flatMap, List.mem_cons, List.not_mem_nil, or_false] at hmem
  rcases hmem with ⟨_, _, rfl | ⟨_, _, rfl | rfl⟩⟩
  · exact hgroup _ _ _ _ _
  · exact hminimal _ _ _ _ _ _
  · exact hmember _

theorem persist_callbacks_each (hproject : ∀ id name status, P (upsert_project id name status))
    (hcompany : ∀ project_id company_id name status, P (upsert_company project_id company_id name status))
    (hcallback : ∀ upsert, P (.consumer_callbacks upsert)) :
    ∀ statement ∈ persist_callbacks store, P statement := by
  intro statement hmem
  simp only [persist_callbacks, persist_callback, List.mem_flatMap, List.mem_cons, List.not_mem_nil,
    or_false] at hmem
  rcases hmem with ⟨_, _, rfl | rfl | rfl⟩
  · exact hproject _ _ _
  · exact hcompany _ _ _ _
  · exact hcallback _

end Shapes

section Writes

variable {K R : Type} [DecidableEq K] {table : Table K R} (store : PersistedStore)

/-! Each part of the projection is silent about the tables it does not write to. -/

@[simp]
theorem upserts_persist_projects (h : table.name ≠ .projects) :
    table.upserts (persist_projects store) = [] :=
  table.upserts_eq_nil (persist_projects_each store fun _ _ _ => table.upsert_eq_none h)

@[simp]
theorem upserts_persist_companies (h : table.name ≠ .companies) :
    table.upserts (persist_companies store) = [] :=
  table.upserts_eq_nil (persist_companies_each store fun _ _ _ _ => table.upsert_eq_none h)

@[simp]
theorem upserts_persist_channels (hproject : table.name ≠ .projects) (hcompany : table.name ≠ .companies)
    (hchannel : table.name ≠ .channel_accounts) : table.upserts (persist_channels store) = [] :=
  table.upserts_eq_nil (persist_channels_each store (fun _ _ _ => table.upsert_eq_none hproject)
    (fun _ _ _ _ => table.upsert_eq_none hcompany) fun _ _ _ _ _ _ _ _ => table.upsert_eq_none hchannel)

@[simp]
theorem upserts_persist_contacts (hchannel : table.name ≠ .channel_accounts)
    (hcontact : table.name ≠ .contacts) : table.upserts (persist_contacts store) = [] :=
  table.upserts_eq_nil (persist_contacts_each store (fun _ _ _ _ _ _ _ _ => table.upsert_eq_none hchannel)
    (fun _ _ => table.upsert_eq_none hcontact) fun _ _ _ _ _ _ => table.upsert_eq_none hcontact)

@[simp]
theorem upserts_persist_groups (h : table.name ≠ .groups) : table.upserts (persist_groups store) = [] :=
  table.upserts_eq_nil (persist_groups_each store fun _ _ _ _ _ => table.upsert_eq_none h)

@[simp]
theorem upserts_persist_group_members (hgroup : table.name ≠ .groups) (hcontact : table.name ≠ .contacts)
    (hmember : table.name ≠ .group_members) : table.upserts (persist_group_members store) = [] :=
  table.upserts_eq_nil (persist_group_members_each store (fun _ _ _ _ _ => table.upsert_eq_none hgroup)
    (fun _ _ _ _ _ _ => table.upsert_eq_none hcontact) fun _ => table.upsert_eq_none hmember)

@[simp]
theorem upserts_persist_conversations (h : table.name ≠ .conversations) :
    table.upserts (persist_conversations store) = [] :=
  table.upserts_eq_nil (List.forall_mem_map.mpr fun _ _ => table.upsert_eq_none h)

@[simp]
theorem upserts_persist_messages (h : table.name ≠ .messages) :
    table.upserts (persist_messages store) = [] :=
  table.upserts_eq_nil (List.forall_mem_map.mpr fun _ _ => table.upsert_eq_none h)

@[simp]
theorem upserts_persist_media (h : table.name ≠ .media_objects) :
    table.upserts (persist_media store) = [] :=
  table.upserts_eq_nil (List.forall_mem_map.mpr fun _ _ => table.upsert_eq_none h)

@[simp]
theorem upserts_persist_transcripts (h : table.name ≠ .transcripts) :
    table.upserts (persist_transcripts store) = [] :=
  table.upserts_eq_nil (List.forall_mem_map.mpr fun _ _ => table.upsert_eq_none h)

@[simp]
theorem upserts_persist_dirty (h : table.name ≠ .dirty_conversations) :
    table.upserts (persist_dirty store) = [] :=
  table.upserts_eq_nil (List.forall_mem_map.mpr fun _ _ => table.upsert_eq_none h)

@[simp]
theorem upserts_persist_dirty_leases (h : table.name ≠ .dirty_conversation_leases) :
    table.upserts (persist_dirty_leases store) = [] :=
  table.upserts_eq_nil (List.forall_mem_map.mpr fun _ _ => table.upsert_eq_none h)

@[simp]
theorem upserts_persist_consumer_state (h : table.name ≠ .consumer_processing_state) :
    table.upserts (persist_consumer_state store) = [] :=
  table.upserts_eq_nil (List.forall_mem_map.mpr fun _ _ => table.upsert_eq_none h)

@[simp]
theorem upserts_persist_idempotency (now_utc : OffsetDateTime) (h : table.name ≠ .idempotency_keys) :
    table.upserts (persist_idempotency store now_utc) = [] :=
  table.upserts_eq_nil (List.forall_mem_map.mpr fun _ _ => table.upsert_eq_none h)

@[simp]
theorem upserts_persist_callbacks (hproject : table.name ≠ .projects) (hcompany : table.name ≠ .companies)
    (hcallback : table.name ≠ .consumer_callbacks) : table.upserts (persist_callbacks store) = [] :=
  table.upserts_eq_nil (persist_callbacks_each store (fun _ _ _ => table.upsert_eq_none hproject)
    (fun _ _ _ _ => table.upsert_eq_none hcompany) fun _ => table.upsert_eq_none hcallback)

@[simp]
theorem upserts_persist_webhook_delivery_attempts (h : table.name ≠ .webhook_delivery_attempts) :
    table.upserts (persist_webhook_delivery_attempts store) = [] :=
  table.upserts_eq_nil (List.forall_mem_map.mpr fun _ _ => table.upsert_eq_none h)

/-- What holds of the statements that name a project, a company, a channel or a
contact holds of all the statements on the tables of these. -/
theorem relational_each {Q : Upsert OffsetDateTime K R → Prop} (now_utc : OffsetDateTime)
    (hproject : ∀ id name status, ∀ upsert ∈ table.upsert (upsert_project id name status), Q upsert)
    (hcompany : ∀ project_id company_id name status,
      ∀ upsert ∈ table.upsert (upsert_company project_id company_id name status), Q upsert)
    (hchannel : ∀ id project_id company_id provider phone_e164 label status connected_at, ∀ upsert ∈
      table.upsert (upsert_channel id project_id company_id provider phone_e164 label status connected_at),
      Q upsert)
    (hcontact : ∀ contact channel_id, ∀ upsert ∈ table.upsert (upsert_contact contact channel_id), Q upsert)
    (hminimal : ∀ project_id company_id channel_id contact_id display_name phone_e164, ∀ upsert ∈
      table.upsert (upsert_minimal_contact project_id company_id channel_id contact_id display_name phone_e164),
      Q upsert)
    (hname : table.name ∈ [.projects, .companies, .channel_accounts, .contacts]) :
    ∀ upsert ∈ table.upserts (relational_statements store now_utc), Q upsert := by
  have hother : ∀ statement : Statement,
      statement.table ∉ [.projects, .companies, .channel_accounts, .contacts] →
      ∀ upsert ∈ table.upsert statement, Q upsert := by
    intro statement hnot upsert hsome
    rw [table.upsert_isSome statement (Option.isSome_of_mem hsome)] at hnot
    exact absurd hname hnot
  have hall : ∀ statement ∈ relational_statements store now_utc,
      ∀ upsert ∈ table.upsert statement, Q upsert := by
    unfold relational_statements
    simp only [List.forall_mem_append, and_assoc]
    refine ⟨persist_projects_each store hproject, persist_companies_each store hcompany,
      persist_channels_each store hproject hcompany hchannel,
      persist_contacts_each store hchannel hcontact hminimal,
      persist_groups_each store fun _ _ _ _ _ => hother _ (of_decide_eq_true rfl),
      persist_group_members_each store (fun _ _ _ _ _ => hother _ (of_decide_eq_true rfl)) hminimal
        fun _ => hother _ (of_decide_eq_true rfl), ?_, ?_, ?_, ?_, ?_, ?_, ?_, ?_,
      persist_callbacks_each store hproject hcompany fun _ => hother _ (of_decide_eq_true rfl), ?_⟩
    all_goals exact List.forall_mem_map.mpr fun _ _ => hother _ (of_decide_eq_true rfl)
  intro upsert hmem
  obtain ⟨statement, hstatement, hupsert⟩ := List.mem_filterMap.mp hmem
  exact hall statement hstatement upsert hupsert

end Writes

section Tables

variable (store : PersistedStore) (now_utc : OffsetDateTime)

def message_ids : List String :=
  store.messages_by_id.values.map Message.id

def media_ids : List String :=
  store.media.values.map MediaObject.id

def transcript_ids : List String :=
  store.transcripts.values.map Transcript.id

def dirty_keys : List (String × String × String) :=
  store.dirty.map fun entry => (entry.1.1, entry.1.2.1, entry.2.conversation_id)

def callback_ids : List String :=
  store.callbacks.values.map callback_id

theorem messages_keys : (Table.messages.upserts (relational_statements store now_utc)).map Upsert.key =
    message_ids store := by
  have hname : Table.messages.name = .messages := rfl
  have hparts : Table.messages.upserts (relational_statements store now_utc) =
      Table.messages.upserts (persist_messages store) := by
    simp [relational_statements, upserts_append, hname]
  rw [hparts, persist_messages, Table.messages.upserts_map fun _ => rfl, List.map_map]
  rfl

theorem media_keys : (Table.media_objects.upserts (relational_statements store now_utc)).map Upsert.key =
    media_ids store := by
  have hname : Table.media_objects.name = .media_objects := rfl
  have hparts : Table.media_objects.upserts (relational_statements store now_utc) =
      Table.media_objects.upserts (persist_media store) := by
    simp [relational_statements, upserts_append, hname]
  rw [hparts, persist_media, Table.media_objects.upserts_map fun _ => rfl, List.map_map]
  rfl

theorem transcripts_keys :
    (Table.transcripts.upserts (relational_statements store now_utc)).map Upsert.key =
      transcript_ids store := by
  have hname : Table.transcripts.name = .transcripts := rfl
  have hparts : Table.transcripts.upserts (relational_statements store now_utc) =
      Table.transcripts.upserts (persist_transcripts store) := by
    simp [relational_statements, upserts_append, hname]
  rw [hparts, persist_transcripts, Table.transcripts.upserts_map fun _ => rfl, List.map_map]
  rfl

theorem dirty_conversations_keys :
    (Table.dirty_conversations.upserts (relational_statements store now_utc)).map Upsert.key =
      dirty_keys store := by
  have hname : Table.dirty_conversations.name = .dirty_conversations := rfl
  have hparts : Table.dirty_conversations.upserts (relational_statements store now_utc) =
      Table.dirty_conversations.upserts (persist_dirty store) := by
    simp [relational_statements, upserts_append, hname]
  rw [hparts, persist_dirty, Table.dirty_conversations.upserts_map fun _ => rfl, List.map_map]
  rfl

theorem consumer_callbacks_keys :
    (Table.consumer_callbacks.upserts (relational_statements store now_utc)).map Upsert.key =
      callback_ids store := by
  have hname : Table.consumer_callbacks.name = .consumer_callbacks := rfl
  have hparts : Table.consumer_callbacks.upserts (relational_statements store now_utc) =
      Table.consumer_callbacks.upserts (persist_callbacks store) := by
    simp [relational_statements, upserts_append, hname]
  rw [hparts, persist_callbacks, Table.consumer_callbacks.upserts_flatMap, List.map_flatMap, callback_ids,
    List.map_eq_flatMap]
  rfl

/-- The columns of a contact that a person can be known by. -/
inductive ContactColumn where
  | phone_e164
  | push_name
  | business_description
  | profile_picture_media_id
  | avatar_url
  | profile_picture_url

namespace ContactColumn

def of_contact (contact : ContactRecord) : ContactColumn → Option String
  | phone_e164 => contact.phone_e164
  | push_name => contact.push_name
  | business_description => contact.business_description
  | profile_picture_media_id => contact.profile_picture_media_id
  | avatar_url => contact.avatar_url
  | profile_picture_url => contact.profile_picture_url

def of_row (column : ContactColumn) (row : ContactRow) : Option String :=
  match column with
  | phone_e164 => row.phone_e164
  | push_name => row.push_name
  | business_description => row.business_description
  | profile_picture_media_id => row.profile_picture_media_id
  | avatar_url => row.avatar_url
  | profile_picture_url => row.profile_picture_url

/-- What a phone number alone says about the column. -/
def of_phone (phone : Option String) : ContactColumn → Option String
  | phone_e164 => phone
  | _ => none

/-- What a snapshot has to say about the column, contact by contact: the contacts
themselves, then the conversations, the messages and the members of the groups,
of which only the phone number counts. -/
def writes (column : ContactColumn) (store : PersistedStore) : List (String × Option String) :=
  (store.contacts.values.map fun contact => (contact.id, column.of_contact contact)) ++
  (store.conversations.values.filterMap fun conversation =>
    conversation.contact_id.map fun contact_id => (contact_id, column.of_phone conversation.display_phone)) ++
  (store.messages_by_id.values.filterMap fun message =>
    message.sender_contact_id.map fun contact_id => (contact_id, none)) ++
  (store.group_members.entries.flatMap fun entry =>
    entry.2.values.map fun member => (member.contact_id, column.of_phone member.phone_e164))

/-- What a snapshot has to say about the column of one contact. -/
def offers (column : ContactColumn) (store : PersistedStore) (contact_id : String) :
    List (Option String) :=
  ((column.writes store).filter fun write => write.1 = contact_id).map Prod.snd

/-- What a statement writes to the column. -/
def value (column : ContactColumn) (upsert : Upsert OffsetDateTime String ContactRow) : Option String :=
  column.of_row (upsert.insert 0)

end ContactColumn

theorem contacts_upserts : Table.contacts.upserts (relational_statements store now_utc) =
    Table.contacts.upserts (persist_contacts store) ++
      Table.contacts.upserts (persist_group_members store) := by
  have hname : Table.contacts.name = .contacts := rfl
  simp [relational_statements, upserts_append, hname]

theorem contacts_writes (column : ContactColumn) :
    ((Table.contacts.upserts (relational_statements store now_utc)).map fun upsert =>
      (upsert.key, column.value upsert)) = column.writes store := by
  rw [contacts_upserts, persist_contacts, upserts_append, upserts_append, persist_group_members]
  simp only [List.map_append, ContactColumn.writes, upserts_flatMap, upserts_filterMap, List.map_flatMap,
    List.map_filterMap]
  congr 1
  · congr 1
    · congr 1
      · rw [List.map_eq_flatMap]
        cases column <;> rfl
      · refine List.filterMap_congr fun conversation _ => ?_
        cases conversation.contact_id <;> cases column <;> rfl
    · refine List.filterMap_congr fun message _ => ?_
      cases message.sender_contact_id <;> cases column <;> rfl
  · refine List.flatMap_congr fun entry _ => ?_
    -- the group itself comes first
    change List.map _ (Table.contacts.upserts (List.flatMap _ entry.2.values)) = _
    rw [upserts_flatMap, List.map_flatMap, List.map_eq_flatMap]
    cases column <;> rfl

/-- The contacts that a snapshot writes a row for. -/
def contact_keys : List String :=
  (ContactColumn.push_name.writes store).map Prod.fst

theorem contacts_keys : (Table.contacts.upserts (relational_statements store now_utc)).map Upsert.key =
    contact_keys store := by
  rw [contact_keys, ← contacts_writes store now_utc, List.map_map]
  rfl

theorem coalesces_contact (column : ContactColumn) (contact : ContactRecord) (channel_id : String) :
    ∀ upsert ∈ Table.contacts.upsert (upsert_contact contact channel_id),
      upsert.Coalesces column.of_row (column.value upsert) := by
  rintro _ ⟨⟩ now (_ | row)
  · cases column <;> exact (Option.or_none).symm
  · cases column <;> rfl

theorem coalesces_minimal_contact (column : ContactColumn)
    (project_id company_id channel_id contact_id : String) (display_name phone_e164 : Option String) :
    ∀ upsert ∈ Table.contacts.upsert
        (upsert_minimal_contact project_id company_id channel_id contact_id display_name phone_e164),
      upsert.Coalesces column.of_row (column.value upsert) := by
  rintro _ ⟨⟩ now (_ | row)
  · cases column <;> exact (Option.or_none).symm
  · cases column <;> rfl

/-- No statement of the projection ever empties one of the columns. -/
theorem contacts_coalesce (column : ContactColumn) :
    ∀ upsert ∈ Table.contacts.upserts (relational_statements store now_utc),
      upsert.Coalesces column.of_row (column.value upsert) := by
  refine relational_each store now_utc ?_ ?_ ?_ (coalesces_contact column) (coalesces_minimal_contact column)
    (by decide)
  · rintro _ _ _ _ ⟨⟩
  · rintro _ _ _ _ _ ⟨⟩
  · rintro _ _ _ _ _ _ _ _ _ ⟨⟩

end Tables

end rustzap.db
