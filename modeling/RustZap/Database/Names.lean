import RustZap.Database.Forgotten

open collections serde_json sql
open rustzap.models

namespace rustzap.db

open rustzap.eventbus rustzap.state Table

/-- The name that a project or company states, or else its id. -/
def stated_name (id : String) (value : Value) : String :=
  ((value.get "name").bind Value.as_str).getD id

def stated_status (value : Value) : String :=
  ((value.get "status").bind Value.as_str).getD "active"

/-- The name as the projection reads it, without surrounding white space. -/
def read_name (id : String) (value : Value) : String :=
  (value_str value "name").getD id

def read_status (value : Value) : String :=
  (value_str value "status").getD "active"

section References

variable (store : PersistedStore)

/-- The projects that the snapshot mentions besides its own list of projects, as
the loops after that list come to them. -/
def project_references : List String :=
  store.companies.map (fun entry => entry.1.1) ++
  store.channels.values.filterMap (fun channel => str.non_blank channel.project_id) ++
  store.conversations.values.map Conversation.project_id ++
  store.messages_by_id.values.map Message.project_id ++
  store.media.values.map MediaObject.project_id ++
  store.transcripts.values.map Transcript.project_id ++
  store.dirty.map (fun entry => entry.1.1) ++
  store.consumer_state.map (fun entry => entry.1.1) ++
  store.idempotency.map (fun entry => entry.1.1) ++
  store.channels.values.map (fun channel => (str.non_blank channel.project_id).getD "default") ++
  store.callbacks.values.map (fun callback => (value_str callback "project_id").getD "default")

/-- The companies that the snapshot mentions besides its own list of companies. -/
def company_references : List String :=
  store.channels.values.filterMap (fun channel =>
    (str.non_blank channel.project_id).bind fun _ => str.non_blank channel.company_id) ++
  store.conversations.values.map Conversation.company_id ++
  store.messages_by_id.values.map Message.company_id ++
  store.dirty.map (fun entry => entry.1.2.1) ++
  store.consumer_state.map (fun entry => entry.1.2.1) ++
  store.idempotency.map (fun entry => entry.1.2.1) ++
  store.channels.values.map (fun channel => (str.non_blank channel.company_id).getD "default") ++
  store.callbacks.values.map (fun callback => (value_str callback "company_id").getD "default")

/-- The channels that conversations, messages and contacts go by, with the project
and company of each of these. -/
def channel_references : List (String × String × String) :=
  store.conversations.values.map (fun conversation =>
    (conversation.channel_account_id, conversation.project_id, conversation.company_id)) ++
  store.messages_by_id.values.map (fun message =>
    (message.channel_account_id, message.project_id, message.company_id)) ++
  store.contacts.values.map (fun contact =>
    (channel_for_project_company store contact.project_id contact.company_id, contact.project_id,
      contact.company_id))

end References

section Writes

variable (store : PersistedStore) (now_utc : OffsetDateTime)

/-- What a row shows for a name and a status. -/
def ProjectRow.shown (row : ProjectRow) : String × String :=
  (row.name, row.status)

def CompanyRow.shown (row : CompanyRow) : String × String :=
  (row.name, row.status)

def ChannelRow.owner (row : ChannelRow) : String × String :=
  (row.project_id, row.company_id)

/-- What a row shows of a channel: its owner, its label and its phone number. -/
def ChannelRow.shown (row : ChannelRow) : (String × String) × Option String × Option String :=
  (row.owner, row.label, row.phone_e164)

theorem map_referenced (found : Option String) :
    (found.bind fun id => some (id, id, "active")) = found.map fun id => (id, id, "active") := by
  cases found <;> rfl

theorem flatMap_singletons {A B : Type} (f : A → B) (items : List A) :
    (items.flatMap fun item => [f item]) = items.map f :=
  List.map_eq_flatMap.symm

/-- The projects come first, under their own names, and then the references. -/
theorem projects_writes : ((Table.projects.upserts (relational_statements store now_utc)).map fun upsert =>
    (upsert.key, (upsert.insert 0).shown)) =
    (store.projects.entries.map fun entry => (entry.1, read_name entry.1 entry.2, read_status entry.2)) ++
      (project_references store).map fun id => (id, id, "active") := by
  have hname : Table.projects.name = .projects := rfl
  have hparts : Table.projects.upserts (relational_statements store now_utc) =
      Table.projects.upserts (persist_projects store) ++ Table.projects.upserts (persist_channels store) ++
        Table.projects.upserts (persist_callbacks store) := by
    simp [relational_statements, upserts_append, hname]
  rw [hparts]
  simp [persist_projects, persist_channels, persist_callbacks, persist_callback, upserts, Table.projects,
    upsert_project, upsert_company, upsert_channel, upsert_referenced_channel, List.filterMap_flatMap,
    List.filterMap_filterMap, List.map_filterMap, Function.comp_def, ProjectRow.shown, read_name,
    read_status, project_references, HashMap.values, flatMap_singletons, Option.bind_map, map_referenced]

theorem companies_writes : ((Table.companies.upserts (relational_statements store now_utc)).map fun upsert =>
    (upsert.key, (upsert.insert 0).shown)) =
    (store.companies.map fun entry => (entry.1.2, read_name entry.1.2 entry.2, read_status entry.2)) ++
      (company_references store).map fun id => (id, id, "active") := by
  have hname : Table.companies.name = .companies := rfl
  have hparts : Table.companies.upserts (relational_statements store now_utc) =
      Table.companies.upserts (persist_companies store) ++ Table.companies.upserts (persist_channels store) ++
        Table.companies.upserts (persist_callbacks store) := by
    simp [relational_statements, upserts_append, hname]
  rw [hparts]
  simp [persist_companies, persist_channels, persist_callbacks, persist_callback, upserts, Table.companies,
    upsert_project, upsert_company, upsert_channel, upsert_referenced_channel, List.filterMap_flatMap,
    List.filterMap_filterMap, List.map_filterMap, Function.comp_def, CompanyRow.shown, read_name,
    read_status, company_references, HashMap.values, flatMap_singletons, Option.bind_assoc, Option.bind_map,
    map_referenced]

theorem channels_writes :
    ((Table.channel_accounts.upserts (relational_statements store now_utc)).map fun upsert =>
      (upsert.key, (upsert.insert 0).shown)) =
    (store.channels.entries.map fun entry =>
      (entry.1, ((str.non_blank entry.2.project_id).getD "default",
          (str.non_blank entry.2.company_id).getD "default"),
        str.non_blank entry.2.label, entry.2.phone_e164.bind str.non_blank)) ++
      (channel_references store).map fun reference => (reference.1, reference.2, some "WhatsApp", none) := by
  have hname : Table.channel_accounts.name = .channel_accounts := rfl
  have hparts : Table.channel_accounts.upserts (relational_statements store now_utc) =
      Table.channel_accounts.upserts (persist_channels store) ++
        Table.channel_accounts.upserts (persist_contacts store) := by
    simp [relational_statements, upserts_append, hname]
  rw [hparts]
  simp [persist_channels, persist_contacts, upserts, Table.channel_accounts, upsert_project, upsert_company,
    upsert_channel, upsert_referenced_channel, upsert_contact, upsert_minimal_contact, List.filterMap_flatMap,
    List.filterMap_filterMap, Function.comp_def, ChannelRow.shown, ChannelRow.owner, channel_references,
    HashMap.values, flatMap_singletons, Option.bind_map]

end Writes

section LastWrites

variable {C : Type}

/-- What is written under a key. -/
def written (key : String) (writes : List (String × C)) : List C :=
  (writes.filter fun write => write.1 = key).map Prod.snd

theorem written_append (key : String) (first second : List (String × C)) :
    written key (first ++ second) = written key first ++ written key second := by
  rw [written, List.filter_append, List.map_append]
  rfl

/-- Of a map, one value is written under each key. -/
theorem written_entries {V : Type} {map : HashMap String V} {key : String} {value : V} (f : String → V → C)
    (h : map.lookup key = some value) :
    written key (map.entries.map fun entry => (entry.1, f entry.1 entry.2)) = [f key value] := by
  rw [written, List.filter_map, List.map_map]
  change (map.entries.filter fun entry => entry.1 = key).map _ = _
  rw [HashMap.entries_filter_key h]
  rfl

theorem written_map {D : Type} (f : C → D) (key : String) (writes : List (String × C)) :
    written key (writes.map fun write => (write.1, f write.2)) = (written key writes).map f := by
  rw [written, List.filter_map, List.map_map, written, List.map_map]
  rfl

theorem written_references {references : List String} (c : String → C) (key : String) :
    (written key (references.map fun reference => (reference, c reference))).getLast? =
      if key ∈ references then some (c key) else none := by
  have hwritten : written key (references.map fun reference => (reference, c reference)) =
      (references.filter fun reference => reference = key).map c := by
    rw [written, List.filter_map, List.map_map]
    rfl
  rw [hwritten, List.getLast?_map]
  split
  · next hmem =>
    have hfiltered : key ∈ references.filter fun reference => reference = key :=
      List.mem_filter.mpr ⟨hmem, decide_eq_true rfl⟩
    obtain ⟨last, hlast⟩ := Option.isSome_iff_exists.mp
      (List.getLast?_isSome.mpr (List.ne_nil_of_mem hfiltered))
    have heq : last = key := of_decide_eq_true (List.mem_filter.mp (List.mem_of_getLast? hlast)).2
    rw [hlast, heq]
    rfl
  · next hnot =>
    have hnone : (references.filter fun reference => reference = key) = [] := by
      refine List.filter_eq_nil_iff.mpr fun reference hmem heq => hnot ?_
      rwa [← of_decide_eq_true heq]
    rw [hnone]
    rfl

end LastWrites

/-- The last of the references to a channel. -/
def last_reference (store : PersistedStore) (channel_id : String) : Option (String × String) :=
  (written channel_id (channel_references store)).getLast?

/-- The rows of the snapshot's projects, companies and channels are those of the
snapshot. -/
structure NamesKept (store : PersistedStore) (tables : Tables) : Prop where
  projects : ∀ id project, store.projects.lookup id = some project →
    ∃ row, tables.projects.lookup id = some row ∧
      row.name = stated_name id project ∧ row.status = stated_status project
  companies : ∀ entry ∈ store.companies, ∃ row, tables.companies.lookup entry.1.2 = some row ∧
    row.name = stated_name entry.1.2 entry.2 ∧ row.status = stated_status entry.2
  channels : ∀ id channel, store.channels.lookup id = some channel →
    ∃ row, tables.channel_accounts.lookup id = some row ∧
      row.project_id = channel.project_id ∧ row.company_id = channel.company_id ∧
      row.label = some channel.label ∧ row.phone_e164 = channel.phone_e164

/-- What is mentioned elsewhere in the snapshot is named as a mention names it, and
the rest is named without surrounding white space. -/
structure NamesUndisturbed (store : PersistedStore) (tables : Tables) : Prop where
  referenced_projects : ∀ id project, store.projects.lookup id = some project →
    id ∈ project_references store → stated_name id project = id ∧ stated_status project = "active"
  other_projects : ∀ id project, store.projects.lookup id = some project →
    id ∉ project_references store →
      read_name id project = stated_name id project ∧ read_status project = stated_status project
  referenced_companies : ∀ entry ∈ store.companies, entry.1.2 ∈ company_references store →
    stated_name entry.1.2 entry.2 = entry.1.2 ∧ stated_status entry.2 = "active"
  other_companies : ∀ entry ∈ store.companies, entry.1.2 ∉ company_references store →
    ∀ last, (store.companies.filter fun other => other.1.2 = entry.1.2).getLast? = some last →
      read_name entry.1.2 last.2 = stated_name entry.1.2 entry.2 ∧
        read_status last.2 = stated_status entry.2
  referenced_channels : ∀ id channel, store.channels.lookup id = some channel →
    ∀ owner, last_reference store id = some owner →
      owner = (channel.project_id, channel.company_id) ∧ channel.label = "WhatsApp"
  other_channels : ∀ id channel, store.channels.lookup id = some channel →
    last_reference store id = none →
      (str.non_blank channel.project_id).getD "default" = channel.project_id ∧
      (str.non_blank channel.company_id).getD "default" = channel.company_id ∧
      (str.non_blank channel.label).or ((tables.channel_accounts.lookup id).bind ChannelRow.label) =
        some channel.label
  phones : ∀ id channel, store.channels.lookup id = some channel →
    (channel.phone_e164.bind str.non_blank).or
      ((tables.channel_accounts.lookup id).bind ChannelRow.phone_e164) = channel.phone_e164

section Rows

variable {store : PersistedStore} {now_utc : OffsetDateTime} {script : List (OffsetDateTime × Statement)}
  {R C : Type}

/-- What every statement sets is as the last one set it. -/
theorem assigned_row (table : Table String R) {shown : R → C}
    (hscript : script.map Prod.snd = relational_statements store now_utc)
    (hassigns : ∀ upsert ∈ table.upserts (relational_statements store now_utc),
      upsert.Assigns shown (shown (upsert.insert 0))) (tables : Tables) (id : String) :
    ((table.rows (tables.execute_all script)).lookup id).map shown =
      (written id ((table.upserts (relational_statements store now_utc)).map fun upsert =>
        (upsert.key, shown (upsert.insert 0)))).getLast?.or (((table.rows tables).lookup id).map shown) := by
  rw [← hscript, ← table.timed_upserts_snd] at hassigns ⊢
  rw [table.rows_execute_all, Upsert.lookup_execute_all_assigns hassigns, Upsert.on_key_map]
  rfl

/-- What every statement coalesces is as the last one that had something set it. -/
theorem coalesced_row (table : Table String R) {column : R → Option C}
    (hscript : script.map Prod.snd = relational_statements store now_utc)
    (hcoalesces : ∀ upsert ∈ table.upserts (relational_statements store now_utc),
      upsert.Coalesces column (column (upsert.insert 0))) (tables : Tables) (id : String) :
    ((table.rows (tables.execute_all script)).lookup id).bind column =
      (last_some (written id ((table.upserts (relational_statements store now_utc)).map fun upsert =>
        (upsert.key, column (upsert.insert 0))))).or (((table.rows tables).lookup id).bind column) := by
  rw [← hscript, ← table.timed_upserts_snd] at hcoalesces ⊢
  rw [table.rows_execute_all, Upsert.lookup_execute_all_coalesces hcoalesces, Upsert.on_key_map]
  rfl

theorem projects_assign : ∀ upsert ∈ Table.projects.upserts (relational_statements store now_utc),
    upsert.Assigns ProjectRow.shown (upsert.insert 0).shown := by
  refine relational_each store now_utc ?_ ?_ ?_ ?_ ?_ (by decide)
  · rintro id name status _ ⟨⟩ now (_ | row) <;> rfl
  · rintro _ _ _ _ _ ⟨⟩
  · rintro _ _ _ _ _ _ _ _ _ ⟨⟩
  · rintro _ _ _ ⟨⟩
  · rintro _ _ _ _ _ _ _ ⟨⟩

theorem companies_assign : ∀ upsert ∈ Table.companies.upserts (relational_statements store now_utc),
    upsert.Assigns CompanyRow.shown (upsert.insert 0).shown := by
  refine relational_each store now_utc ?_ ?_ ?_ ?_ ?_ (by decide)
  · rintro _ _ _ _ ⟨⟩
  · rintro project_id company_id name status _ ⟨⟩ now (_ | row) <;> rfl
  · rintro _ _ _ _ _ _ _ _ _ ⟨⟩
  · rintro _ _ _ ⟨⟩
  · rintro _ _ _ _ _ _ _ ⟨⟩

/-- A channel's owner is overwritten, its label and phone number are coalesced. -/
theorem channels_write : ∀ upsert ∈ Table.channel_accounts.upserts (relational_statements store now_utc),
    upsert.Assigns ChannelRow.owner (upsert.insert 0).owner ∧
      upsert.Coalesces ChannelRow.label (upsert.insert 0).label ∧
      upsert.Coalesces ChannelRow.phone_e164 (upsert.insert 0).phone_e164 := by
  refine relational_each store now_utc ?_ ?_ ?_ ?_ ?_ (by decide)
  · rintro _ _ _ _ ⟨⟩
  · rintro _ _ _ _ _ ⟨⟩
  · rintro id project_id company_id provider phone_e164 label status connected_at _ ⟨⟩
    refine ⟨?_, ?_, ?_⟩ <;> rintro now (_ | row) <;> first | rfl | exact (Option.or_none).symm
  · rintro _ _ _ ⟨⟩
  · rintro _ _ _ _ _ _ _ ⟨⟩

variable (tables : Tables) (hscript : script.map Prod.snd = relational_statements store now_utc)

include hscript

theorem project_row {id : String} {project : Value} (h : store.projects.lookup id = some project) :
    ((tables.execute_all script).projects.lookup id).map ProjectRow.shown =
      some (if id ∈ project_references store then (id, "active")
        else (read_name id project, read_status project)) := by
  refine (assigned_row Table.projects hscript projects_assign tables id).trans ?_
  rw [projects_writes, written_append, List.getLast?_append,
    written_entries (fun id value => (read_name id value, read_status value)) h,
    written_references fun id => (id, "active")]
  split <;> rfl

theorem company_row {entry : (String × String) × Value} (h : entry ∈ store.companies) :
    ∃ last, (store.companies.filter fun other => other.1.2 = entry.1.2).getLast? = some last ∧
      ((tables.execute_all script).companies.lookup entry.1.2).map CompanyRow.shown =
        some (if entry.1.2 ∈ company_references store then (entry.1.2, "active")
          else (read_name entry.1.2 last.2, read_status last.2)) := by
  have hfiltered : entry ∈ store.companies.filter fun other => other.1.2 = entry.1.2 :=
    List.mem_filter.mpr ⟨h, decide_eq_true rfl⟩
  obtain ⟨last, hlast⟩ := Option.isSome_iff_exists.mp
    (List.getLast?_isSome.mpr (List.ne_nil_of_mem hfiltered))
  have hid : last.1.2 = entry.1.2 := of_decide_eq_true (List.mem_filter.mp (List.mem_of_getLast? hlast)).2
  have hown : (written entry.1.2 (store.companies.map fun entry =>
      (entry.1.2, read_name entry.1.2 entry.2, read_status entry.2))).getLast? =
      some (read_name entry.1.2 last.2, read_status last.2) := by
    rw [written, List.filter_map, List.map_map, List.getLast?_map]
    change ((store.companies.filter fun other => other.1.2 = entry.1.2).getLast?).map _ = _
    rw [hlast, ← hid]
    rfl
  refine ⟨last, hlast, (assigned_row Table.companies hscript companies_assign tables entry.1.2).trans ?_⟩
  rw [companies_writes, written_append, List.getLast?_append, hown, written_references fun id => (id, "active")]
  split <;> rfl

omit hscript in
/-- Of a channel of the snapshot, its own row is written first and the references
to it after that. -/
theorem channel_written {id : String} {channel : ChannelRecord} (h : store.channels.lookup id = some channel)
    (column : ChannelRow → C) (part : (String × String) × Option String × Option String → C)
    (hpart : ∀ row, column row = part row.shown) :
    written id ((Table.channel_accounts.upserts (relational_statements store now_utc)).map fun upsert =>
      (upsert.key, column (upsert.insert 0))) =
    part (((str.non_blank channel.project_id).getD "default",
          (str.non_blank channel.company_id).getD "default"),
        str.non_blank channel.label, channel.phone_e164.bind str.non_blank) ::
      (written id (channel_references store)).map fun owner => part (owner, some "WhatsApp", none) := by
  have hshown : ((Table.channel_accounts.upserts (relational_statements store now_utc)).map fun upsert =>
      (upsert.key, column (upsert.insert 0))) =
      ((Table.channel_accounts.upserts (relational_statements store now_utc)).map fun upsert =>
        (upsert.key, (upsert.insert 0).shown)).map fun write => (write.1, part write.2) := by
    rw [List.map_map]
    refine List.map_congr_left fun upsert _ => ?_
    rw [hpart]
    rfl
  rw [hshown, written_map, channels_writes, written_append, written_entries (fun _ channel =>
      (((str.non_blank channel.project_id).getD "default", (str.non_blank channel.company_id).getD "default"),
        str.non_blank channel.label, channel.phone_e164.bind str.non_blank)) h,
    written_map (fun owner => (owner, some "WhatsApp", none)), List.map_append, List.map_map]
  rfl

theorem channel_row {id : String} {channel : ChannelRecord} (h : store.channels.lookup id = some channel) :
    ∃ row, (tables.execute_all script).channel_accounts.lookup id = some row ∧
      row.owner = (last_reference store id).getD
        ((str.non_blank channel.project_id).getD "default", (str.non_blank channel.company_id).getD "default") ∧
      row.label = (if (last_reference store id).isSome then some "WhatsApp"
        else (str.non_blank channel.label).or ((tables.channel_accounts.lookup id).bind ChannelRow.label)) ∧
      row.phone_e164 = (channel.phone_e164.bind str.non_blank).or
        ((tables.channel_accounts.lookup id).bind ChannelRow.phone_e164) := by
  have howner := assigned_row Table.channel_accounts hscript (fun upsert hmem =>
    (channels_write upsert hmem).1) tables id
  have hlabel := coalesced_row Table.channel_accounts hscript (fun upsert hmem =>
    (channels_write upsert hmem).2.1) tables id
  have hphone := coalesced_row Table.channel_accounts hscript (fun upsert hmem =>
    (channels_write upsert hmem).2.2) tables id
  rw [channel_written h ChannelRow.owner (fun shown => shown.1) fun _ => rfl, List.getLast?_cons,
    List.map_id'] at howner
  rw [channel_written h ChannelRow.label (fun shown => shown.2.1) fun _ => rfl, last_some_cons] at hlabel
  rw [channel_written h ChannelRow.phone_e164 (fun shown => shown.2.2) fun _ => rfl, last_some_cons] at hphone
  obtain ⟨row, hrow, howned⟩ := Option.map_eq_some_iff.mp howner
  rw [hrow, Option.bind_some] at hlabel hphone
  refine ⟨row, hrow, howned, hlabel.trans ?_, hphone.trans ?_⟩
  · rw [last_some_map_some, List.getLast?_map, last_reference]
    cases (written id (channel_references store)).getLast? with
    | none =>
      have hrows : Table.channel_accounts.rows tables = tables.channel_accounts := rfl
      rw [Option.map_none, Option.none_or, Option.isSome_none, if_neg Bool.false_ne_true, hrows]
    | some owner => rw [Option.map_some, Option.some_or, Option.some_or, Option.isSome_some, if_pos rfl]
  · rw [last_some_eq_none_iff.mpr fun value hmem => ?_]
    · rfl
    · obtain ⟨owner, -, rfl⟩ := List.mem_map.mp hmem
      rfl

end Rows

/-- The projection keeps names and owners exactly if nothing in the snapshot mentions
what has another name. -/
theorem projection_keeps_names_iff (self : MetadataDb) (answers : PersistAnswers) (store : PersistedStore)
    (db : Database) (hok : (self.persist_store answers store db).1 = .ok ()) :
    NamesKept store (self.persist_store answers store db).2.tables ↔ NamesUndisturbed store db.tables := by
  obtain ⟨script, hscript, htables⟩ := MetadataDb.persist_store_ok hok
  rw [htables]
  constructor
  · intro h
    constructor
    case referenced_projects =>
      intro id project hproject hmem
      obtain ⟨row, hrow, hname, hstatus⟩ := h.projects id project hproject
      have hshown := project_row db.tables hscript hproject
      rw [hrow, if_pos hmem] at hshown
      obtain ⟨hid, hactive⟩ := Prod.mk.inj (Option.some.inj hshown)
      exact ⟨hname.symm.trans hid, hstatus.symm.trans hactive⟩
    case other_projects =>
      intro id project hproject hnot
      obtain ⟨row, hrow, hname, hstatus⟩ := h.projects id project hproject
      have hshown := project_row db.tables hscript hproject
      rw [hrow, if_neg hnot] at hshown
      obtain ⟨hread, hstatus_read⟩ := Prod.mk.inj (Option.some.inj hshown)
      exact ⟨hread.symm.trans hname, hstatus_read.symm.trans hstatus⟩
    case referenced_companies =>
      intro entry hentry hmem
      obtain ⟨row, hrow, hname, hstatus⟩ := h.companies entry hentry
      obtain ⟨last, -, hshown⟩ := company_row db.tables hscript hentry
      rw [hrow, if_pos hmem] at hshown
      obtain ⟨hid, hactive⟩ := Prod.mk.inj (Option.some.inj hshown)
      exact ⟨hname.symm.trans hid, hstatus.symm.trans hactive⟩
    case other_companies =>
      intro entry hentry hnot last hlast
      obtain ⟨row, hrow, hname, hstatus⟩ := h.companies entry hentry
      obtain ⟨_, hlast', hshown⟩ := company_row db.tables hscript hentry
      cases hlast.symm.trans hlast'
      rw [hrow, if_neg hnot] at hshown
      obtain ⟨hread, hstatus_read⟩ := Prod.mk.inj (Option.some.inj hshown)
      exact ⟨hread.symm.trans hname, hstatus_read.symm.trans hstatus⟩
    case referenced_channels =>
      intro id channel hchannel owner howner
      obtain ⟨row, hrow, hproject, hcompany, hlabel, -⟩ := h.channels id channel hchannel
      obtain ⟨_, hrow', hrow_owner, hrow_label, -⟩ := channel_row db.tables hscript hchannel
      cases hrow.symm.trans hrow'
      rw [howner] at hrow_owner hrow_label
      refine ⟨hrow_owner.symm.trans (Prod.ext hproject hcompany), ?_⟩
      exact Option.some.inj (hlabel.symm.trans hrow_label)
    case other_channels =>
      intro id channel hchannel hnone
      obtain ⟨row, hrow, hproject, hcompany, hlabel, -⟩ := h.channels id channel hchannel
      obtain ⟨_, hrow', hrow_owner, hrow_label, -⟩ := channel_row db.tables hscript hchannel
      cases hrow.symm.trans hrow'
      rw [hnone] at hrow_owner hrow_label
      obtain ⟨hread_project, hread_company⟩ := Prod.mk.inj hrow_owner
      exact ⟨hread_project.symm.trans hproject, hread_company.symm.trans hcompany, hrow_label.symm.trans hlabel⟩
    case phones =>
      intro id channel hchannel
      obtain ⟨row, hrow, -, -, -, hphone⟩ := h.channels id channel hchannel
      obtain ⟨_, hrow', -, -, hrow_phone⟩ := channel_row db.tables hscript hchannel
      cases hrow.symm.trans hrow'
      exact hrow_phone.symm.trans hphone
  · intro h
    constructor
    case projects =>
      intro id project hproject
      obtain ⟨row, hrow, hshown⟩ := Option.map_eq_some_iff.mp (project_row db.tables hscript hproject)
      refine ⟨row, hrow, ?_⟩
      by_cases hmem : id ∈ project_references store
      · rw [if_pos hmem] at hshown
        obtain ⟨hname, hstatus⟩ := h.referenced_projects id project hproject hmem
        obtain ⟨hid, hactive⟩ := Prod.mk.inj hshown
        exact ⟨hid.trans hname.symm, hactive.trans hstatus.symm⟩
      · rw [if_neg hmem] at hshown
        obtain ⟨hname, hstatus⟩ := h.other_projects id project hproject hmem
        obtain ⟨hread, hstatus_read⟩ := Prod.mk.inj hshown
        exact ⟨hread.trans hname, hstatus_read.trans hstatus⟩
    case companies =>
      intro entry hentry
      obtain ⟨last, hlast, hcompany⟩ := company_row db.tables hscript hentry
      obtain ⟨row, hrow, hshown⟩ := Option.map_eq_some_iff.mp hcompany
      refine ⟨row, hrow, ?_⟩
      by_cases hmem : entry.1.2 ∈ company_references store
      · rw [if_pos hmem] at hshown
        obtain ⟨hname, hstatus⟩ := h.referenced_companies entry hentry hmem
        obtain ⟨hid, hactive⟩ := Prod.mk.inj hshown
        exact ⟨hid.trans hname.symm, hactive.trans hstatus.symm⟩
      · rw [if_neg hmem] at hshown
        obtain ⟨hname, hstatus⟩ := h.other_companies entry hentry hmem last hlast
        obtain ⟨hread, hstatus_read⟩ := Prod.mk.inj hshown
        exact ⟨hread.trans hname, hstatus_read.trans hstatus⟩
    case channels =>
      intro id channel hchannel
      obtain ⟨row, hrow, hrow_owner, hrow_label, hrow_phone⟩ := channel_row db.tables hscript hchannel
      have hphone := hrow_phone.trans (h.phones id channel hchannel)
      cases hlast : last_reference store id with
      | some owner =>
        obtain ⟨howner, hlabel⟩ := h.referenced_channels id channel hchannel owner hlast
        rw [hlast] at hrow_owner hrow_label
        obtain ⟨hproject, hcompany⟩ := Prod.mk.inj (hrow_owner.trans howner)
        exact ⟨row, hrow, hproject, hcompany, hrow_label.trans (congrArg some hlabel.symm), hphone⟩
      | none =>
        obtain ⟨hproject, hcompany, hlabel⟩ := h.other_channels id channel hchannel hlast
        rw [hlast] at hrow_owner hrow_label
        obtain ⟨hread_project, hread_company⟩ := Prod.mk.inj hrow_owner
        exact ⟨row, hrow, hread_project.trans hproject, hread_company.trans hcompany, hrow_label.trans hlabel,
          hphone⟩

namespace sample

/-- A project with a name and a status, as the routes create it. -/
def acme (name : String) : Value :=
  .object [("id", .string "acme"), ("name", .string name), ("status", .string "active")]

def company_a : Value :=
  .object [("id", .string "company_a"), ("project_id", .string "acme"), ("name", .string "Company A"),
    ("status", .string "active")]

def tenants (name : String) : PersistedStore :=
  .from_inner {
    projects := .of_pairs [("acme", acme name)]
    companies := .of_pairs [(("acme", "company_a"), company_a)] }

end sample

/-- The company of a project that is named like its id leaves that name alone. -/
theorem plain_names_kept :
    NamesKept (sample.tenants "acme")
      (sample.postgres.persist_store (sample.persisted_at 1) (sample.tenants "acme") {}).2.tables := by
  refine (projection_keeps_names_iff sample.postgres (sample.persisted_at 1) (sample.tenants "acme") {}
    (by decide)).mpr ?_
  have hproject : ∀ id project, (sample.tenants "acme").projects.lookup id = some project →
      id = "acme" ∧ project = sample.acme "acme" := by
    intro id project h
    have hkeys : id ∈ (sample.tenants "acme").projects.keys := HashMap.mem_keys_of_lookup h
    obtain rfl : id = "acme" := List.mem_singleton.mp hkeys
    exact ⟨rfl, (Option.some.inj h).symm⟩
  have hchannels : (sample.tenants "acme").channels = ∅ := rfl
  constructor
  case referenced_projects =>
    intro id project h _
    obtain ⟨rfl, rfl⟩ := hproject id project h
    decide
  case other_projects =>
    intro id project h hnot
    obtain ⟨rfl, rfl⟩ := hproject id project h
    decide
  case referenced_companies => decide
  case other_companies => decide
  case referenced_channels =>
    intro id channel h
    rw [hchannels, AList.lookup_empty] at h
    cases h
  case other_channels =>
    intro id channel h
    rw [hchannels, AList.lookup_empty] at h
    cases h
  case phones =>
    intro id channel h
    rw [hchannels, AList.lookup_empty] at h
    cases h

/-- Each company writes its project's row once more, with the id for the name. -/
theorem company_renames_project :
    ¬ ∀ (answers : PersistAnswers) (store : PersistedStore) (db : Database),
      (sample.postgres.persist_store answers store db).1 = .ok () →
      NamesKept store (sample.postgres.persist_store answers store db).2.tables := by
  intro hclaim
  have hkept := hclaim (sample.persisted_at 1) (sample.tenants "Acme Ltda") {} (by decide)
  obtain ⟨row, hrow, hname, -⟩ := hkept.projects "acme" (sample.acme "Acme Ltda") rfl
  have hshown : ((sample.postgres.persist_store (sample.persisted_at 1) (sample.tenants "Acme Ltda")
      {}).2.tables.projects.lookup "acme").map ProjectRow.name = some "acme" := by decide
  rw [hrow] at hshown
  exact absurd (hname.symm.trans (Option.some.inj hshown)) (by decide)

end rustzap.db
