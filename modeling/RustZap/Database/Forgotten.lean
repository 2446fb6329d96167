import RustZap.Database.Statements
import RustZap.Lib.Runs
import RustZap.State.Service

open collections serde_json sql runs
open rustzap.models

namespace rustzap.db

open rustzap.eventbus rustzap.state

/-- A snapshot and what its persisting learned from outside. -/
abbrev Persist := PersistAnswers × PersistedStore

/-- A snapshot that is persisted successfully. -/
def MetadataDb.Persists (self : MetadataDb) (db : Database) (persist : Persist) (db' : Database) : Prop :=
  self.persist_store persist.1 persist.2 db = (.ok (), db')

def persist_statements (persist : Persist) : List Statement :=
  relational_statements persist.2 persist.1.now_utc

/-- After a run of successful calls the tables are those that the statements of
all the snapshots make. -/
theorem tables_of_run {self : MetadataDb} {db db' : Database} {persists : List Persist}
    (hrun : Run self.Persists db persists db') :
    ∃ script, script.map Prod.snd = persists.flatMap persist_statements ∧
      db'.tables = db.tables.execute_all script := by
  induction hrun with
  | nil => exact ⟨[], rfl, rfl⟩
  | cons hstep _ ih =>
    obtain ⟨rest, hrest, htables⟩ := ih
    obtain ⟨first, hfirst, heq⟩ := MetadataDb.persist_store_ok (congrArg Prod.fst hstep)
    refine ⟨first ++ rest, ?_, ?_⟩
    · rw [List.map_append, hfirst, hrest]
      rfl
    · rw [congrArg Prod.snd hstep] at heq
      rw [htables, heq, Tables.execute_all, Tables.execute_all, Tables.execute_all, List.foldl_append]

section Rows

variable {K R : Type} [DecidableEq K] {self : MetadataDb} {db : Database} {persists : List Persist}

/-- A table that starts empty has the rows that one of the snapshots has written. -/
theorem rows_isSome (table : Table K R) {keys : PersistedStore → List K}
    (hkeys : ∀ store now_utc,
      (table.upserts (relational_statements store now_utc)).map Upsert.key = keys store)
    (hempty : table.rows {} = ∅) (hrun : Run self.Persists {} persists db) (key : K) :
    ((table.rows db.tables).lookup key).isSome ↔ ∃ persist ∈ persists, key ∈ keys persist.2 := by
  obtain ⟨script, hscript, htables⟩ := tables_of_run hrun
  rw [htables, table.rows_execute_all, Upsert.lookup_execute_all_isSome, table.timed_upserts_snd, hscript,
    table.upserts_flatMap]
  change ((table.rows {}).lookup key).isSome ∨ _ ↔ _
  rw [hempty]
  simp only [AList.lookup_empty, Option.isSome_none, Bool.false_eq_true, false_or, List.mem_flatMap]
  constructor
  · rintro ⟨upsert, ⟨persist, hmem, hupsert⟩, rfl⟩
    refine ⟨persist, hmem, ?_⟩
    rw [← hkeys persist.2 persist.1.now_utc]
    exact List.mem_map_of_mem hupsert
  · rintro ⟨persist, hmem, hkey⟩
    rw [← hkeys persist.2 persist.1.now_utc] at hkey
    obtain ⟨upsert, hupsert, rfl⟩ := List.mem_map.mp hkey
    exact ⟨upsert, ⟨persist, hmem, hupsert⟩, rfl⟩

/-- A column of a contact ends on the last value that any of the snapshots had to
offer. -/
theorem contact_column (column : ContactColumn) (hrun : Run self.Persists {} persists db)
    (contact_id : String) :
    (db.tables.contacts.lookup contact_id).bind column.of_row =
      last_some (persists.flatMap fun persist => column.offers persist.2 contact_id) := by
  obtain ⟨script, hscript, htables⟩ := tables_of_run hrun
  have hrows : db.tables.contacts =
      Upsert.execute_all (Table.contacts.timed_upserts script) ∅ :=
    (congrArg Table.contacts.rows htables).trans (Table.contacts.rows_execute_all {} script)
  have hupserts : (Table.contacts.timed_upserts script).map Prod.snd =
      persists.flatMap fun persist => Table.contacts.upserts (persist_statements persist) := by
    rw [Table.timed_upserts_snd, hscript, Table.upserts_flatMap]
  have hcoalesce : ∀ upsert ∈ (Table.contacts.timed_upserts script).map Prod.snd,
      upsert.Coalesces column.of_row (column.value upsert) := by
    intro upsert hmem
    rw [hupserts] at hmem
    obtain ⟨persist, -, hupsert⟩ := List.mem_flatMap.mp hmem
    exact contacts_coalesce persist.2 persist.1.now_utc column upsert hupsert
  rw [hrows, Upsert.lookup_execute_all_coalesces hcoalesce, AList.lookup_empty, Option.bind_none,
    Option.or_none, Upsert.on_key_map, hupserts, List.map_flatMap, List.filter_flatMap, List.map_flatMap]
  refine congrArg last_some (List.flatMap_congr fun persist _ => ?_)
  rw [persist_statements, contacts_writes, ContactColumn.offers]

end Rows

/-- The id that a callback states. -/
def stated_id (callback : Value) : Option String :=
  (callback.get "id").bind Value.as_str

/-- The tables have the rows of a snapshot and no others, and of its contacts
they have what the snapshot has. -/
structure Forgotten (tables : Tables) (store : PersistedStore) : Prop where
  messages : ∀ id, (tables.messages.lookup id).isSome ↔ id ∈ message_ids store
  transcripts : ∀ id, (tables.transcripts.lookup id).isSome ↔ id ∈ transcript_ids store
  media_objects : ∀ id, (tables.media_objects.lookup id).isSome ↔ id ∈ media_ids store
  dirty_conversations : ∀ key, (tables.dirty_conversations.lookup key).isSome ↔ key ∈ dirty_keys store
  consumer_callbacks : ∀ id, (tables.consumer_callbacks.lookup id).isSome ↔
    ∃ callback ∈ store.callbacks.values, stated_id callback = some id
  contacts : ∀ contact ∈ store.contacts.values, ∃ row, tables.contacts.lookup contact.id = some row ∧
    ∀ column : ContactColumn, column.of_row row = column.of_contact contact

/-- The last snapshot still has all that the earlier ones had, and has no more to
say about a column of a contact than the contact itself. -/
structure NothingDropped (earlier : List PersistedStore) (store : PersistedStore) : Prop where
  messages : ∀ old ∈ earlier, message_ids old ⊆ message_ids store
  transcripts : ∀ old ∈ earlier, transcript_ids old ⊆ transcript_ids store
  media_objects : ∀ old ∈ earlier, media_ids old ⊆ media_ids store
  dirty_conversations : ∀ old ∈ earlier, dirty_keys old ⊆ dirty_keys store
  consumer_callbacks : ∀ old ∈ store :: earlier, ∀ id ∈ callback_ids old,
    ∃ callback ∈ store.callbacks.values, stated_id callback = some id
  callback_ids_plain : ∀ callback ∈ store.callbacks.values, ∀ id, stated_id callback = some id →
    str.non_blank id = some id
  contacts : ∀ contact ∈ store.contacts.values, ∀ column : ContactColumn,
    last_some (column.offers store contact.id) = column.of_contact contact ∧
      (column.of_contact contact = none → ∀ old ∈ earlier, ∀ value ∈ column.offers old contact.id,
        value = none)

theorem callback_id_eq {callback : Value} {id : String} (hstated : stated_id callback = some id)
    (hplain : str.non_blank id = some id) : callback_id callback = id := by
  rw [callback_id, value_str, show (callback.get "id").bind Value.as_str = some id from hstated,
    Option.bind_some, hplain]
  rfl

/-- Rows are entered under ids without surrounding white space. -/
theorem non_blank_callback_id (callback : Value) :
    str.non_blank (callback_id callback) = some (callback_id callback) := by
  rw [callback_id, value_str]
  cases (callback.get "id").bind Value.as_str with
  | none => decide
  | some id =>
    rw [Option.bind_some]
    unfold str.non_blank
    split
    · decide
    · next hfilled =>
      rw [Option.getD_some, str.trim_trim, if_neg hfilled]

theorem mem_writes (column : ContactColumn) {store : PersistedStore} {contact : ContactRecord}
    (h : contact ∈ store.contacts.values) :
    (contact.id, column.of_contact contact) ∈ column.writes store :=
  List.mem_append_left _ (List.mem_append_left _ (List.mem_append_left _ (List.mem_map_of_mem h)))

theorem mem_offers_self (column : ContactColumn) {store : PersistedStore} {contact : ContactRecord}
    (h : contact ∈ store.contacts.values) :
    column.of_contact contact ∈ column.offers store contact.id :=
  List.mem_map.mpr ⟨(contact.id, column.of_contact contact),
    List.mem_filter.mpr ⟨mem_writes column h, decide_eq_true rfl⟩, rfl⟩

/-- The last value of two groups of which the second holds a given one. -/
theorem last_some_append_eq_iff {C : Type} {first second : List (Option C)} {value : Option C}
    (hmem : value ∈ second) :
    last_some (first ++ second) = value ↔
      last_some second = value ∧ (value = none → ∀ other ∈ first, other = none) := by
  rw [last_some_append]
  cases hsecond : last_some second with
  | some last =>
    rw [Option.some_or]
    refine ⟨fun h => ⟨h, fun hnone => ?_⟩, And.left⟩
    rw [hnone] at h
    cases h
  | none =>
    have hnone : value = none := last_some_eq_none_iff.mp hsecond value hmem
    rw [Option.none_or, hnone, last_some_eq_none_iff]
    simp

section Keys

variable {self : MetadataDb} {history : List Persist} {answers : PersistAnswers} {store : PersistedStore}
  {db : Database} {K : Type} {keys : PersistedStore → List K} {key : K}

/-- The rows of all the snapshots are those of the last one when it still has
those of the others. -/
theorem written_iff_mem_last (hkept : ∀ old ∈ history.map Prod.snd, keys old ⊆ keys store) :
    (∃ persist ∈ history ++ [(answers, store)], key ∈ keys persist.2) ↔ key ∈ keys store := by
  constructor
  · rintro ⟨persist, hmem, hkey⟩
    rcases List.mem_append.mp hmem with hold | hlast
    · exact hkept _ (List.mem_map_of_mem hold) hkey
    · rwa [List.mem_singleton.mp hlast] at hkey
  · intro hkey
    exact ⟨(answers, store), List.mem_append_right _ List.mem_cons_self, hkey⟩

theorem subset_last_of_written
    (h : ∀ key, (∃ persist ∈ history ++ [(answers, store)], key ∈ keys persist.2) → key ∈ keys store) :
    ∀ old ∈ history.map Prod.snd, keys old ⊆ keys store := by
  intro old hold key hkey
  obtain ⟨persist, hmem, rfl⟩ := List.mem_map.mp hold
  exact h key ⟨persist, List.mem_append_left _ hmem, hkey⟩

end Keys

/-- After any sequence of successful calls, the tables are those of the last
snapshot exactly when nothing was dropped on the way. -/
theorem projection_forgets_iff (self : MetadataDb) (history : List Persist) (answers : PersistAnswers)
    (store : PersistedStore) (db : Database)
    (hrun : Run self.Persists {} (history ++ [(answers, store)]) db) :
    Forgotten db.tables store ↔ NothingDropped (history.map Prod.snd) store := by
  have hmessages := rows_isSome Table.messages messages_keys rfl hrun
  have htranscripts := rows_isSome Table.transcripts transcripts_keys rfl hrun
  have hmedia := rows_isSome Table.media_objects media_keys rfl hrun
  have hdirty := rows_isSome Table.dirty_conversations dirty_conversations_keys rfl hrun
  have hcallbacks := rows_isSome Table.consumer_callbacks consumer_callbacks_keys rfl hrun
  have hcontacts := rows_isSome Table.contacts contacts_keys rfl hrun
  have hcolumns : ∀ (column : ContactColumn) contact, contact ∈ store.contacts.values →
      ((db.tables.contacts.lookup contact.id).bind column.of_row = column.of_contact contact ↔
        last_some (column.offers store contact.id) = column.of_contact contact ∧
          (column.of_contact contact = none → ∀ old ∈ history.map Prod.snd,
            ∀ value ∈ column.offers old contact.id, value = none)) := by
    intro column contact hcontact
    have hearlier : (∀ value ∈ history.flatMap fun persist => column.offers persist.2 contact.id,
        value = none) ↔ ∀ old ∈ history.map Prod.snd, ∀ value ∈ column.offers old contact.id, value = none := by
      rw [List.forall_mem_map]
      simp only [List.mem_flatMap, forall_exists_index, and_imp]
      exact ⟨fun h persist hmem value hvalue => h value persist hmem hvalue,
        fun h value persist hmem hvalue => h persist hmem value hvalue⟩
    rw [contact_column column hrun, List.flatMap_append, List.flatMap_cons, List.flatMap_nil,
      List.append_nil, last_some_append_eq_iff (mem_offers_self column hcontact), hearlier]
  constructor
  · intro h
    constructor
    case messages => exact subset_last_of_written fun id hid => (h.messages id).mp ((hmessages id).mpr hid)
    case transcripts =>
      exact subset_last_of_written fun id hid => (h.transcripts id).mp ((htranscripts id).mpr hid)
    case media_objects =>
      exact subset_last_of_written fun id hid => (h.media_objects id).mp ((hmedia id).mpr hid)
    case dirty_conversations =>
      exact subset_last_of_written fun key hkey => (h.dirty_conversations key).mp ((hdirty key).mpr hkey)
    case consumer_callbacks =>
      intro old hold id hid
      refine (h.consumer_callbacks id).mp ((hcallbacks id).mpr ?_)
      rcases List.mem_cons.mp hold with rfl | hearlier
      · exact ⟨(answers, old), List.mem_append_right _ List.mem_cons_self, hid⟩
      · obtain ⟨persist, hmem, rfl⟩ := List.mem_map.mp hearlier
        exact ⟨persist, List.mem_append_left _ hmem, hid⟩
    case callback_ids_plain =>
      intro callback hcallback id hstated
      obtain ⟨persist, -, hid⟩ := (hcallbacks id).mp ((h.consumer_callbacks id).mpr ⟨callback, hcallback, hstated⟩)
      obtain ⟨written, -, rfl⟩ := List.mem_map.mp hid
      exact non_blank_callback_id written
    case contacts =>
      intro contact hcontact column
      obtain ⟨row, hrow, hsame⟩ := h.contacts contact hcontact
      refine (hcolumns column contact hcontact).mp ?_
      rw [hrow, Option.bind_some, hsame column]
  · intro h
    constructor
    case messages => exact fun id => (hmessages id).trans (written_iff_mem_last h.messages)
    case transcripts => exact fun id => (htranscripts id).trans (written_iff_mem_last h.transcripts)
    case media_objects => exact fun id => (hmedia id).trans (written_iff_mem_last h.media_objects)
    case dirty_conversations =>
      exact fun key => (hdirty key).trans (written_iff_mem_last h.dirty_conversations)
    case consumer_callbacks =>
      intro id
      refine (hcallbacks id).trans ?_
      constructor
      · rintro ⟨persist, hmem, hid⟩
        refine h.consumer_callbacks persist.2 ?_ id hid
        rcases List.mem_append.mp hmem with hold | hlast
        · exact List.mem_cons_of_mem _ (List.mem_map_of_mem hold)
        · rw [List.mem_singleton.mp hlast]
          exact List.mem_cons_self
      · rintro ⟨callback, hcallback, hstated⟩
        refine ⟨(answers, store), List.mem_append_right _ List.mem_cons_self, List.mem_map.mpr
          ⟨callback, hcallback, ?_⟩⟩
        exact callback_id_eq hstated (h.callback_ids_plain callback hcallback id hstated)
    case contacts =>
      intro contact hcontact
      have hwritten : ((Table.contacts.rows db.tables).lookup contact.id).isSome := by
        refine (hcontacts contact.id).mpr ⟨(answers, store), List.mem_append_right _ List.mem_cons_self, ?_⟩
        exact List.mem_map_of_mem (f := Prod.fst) (mem_writes .push_name hcontact)
      obtain ⟨row, hrow⟩ := Option.isSome_iff_exists.mp hwritten
      refine ⟨row, hrow, fun column => ?_⟩
      have hcolumn := (hcolumns column contact hcontact).mpr (h.contacts contact hcontact column)
      rwa [show db.tables.contacts.lookup contact.id = some row from hrow] at hcolumn

namespace sample

open rustzap.state.sample

/-- A server that refuses what the constraints do not allow and nothing else. -/
def postgres : MetadataDb where
  kafka := config.KafkaConfig.from_env
  refuses tables now statement :=
    if tables.meets_constraints now statement then none else some "violates a constraint"

def persisted_at (second : Int) : PersistAnswers where
  transaction_at := Duration.seconds second
  transaction := none
  statement_at _ := Duration.seconds second
  now_utc := Duration.seconds second

def channel_a : ChannelRecord where
  id := "channel_a"
  project_id := "acme"
  company_id := "company_a"
  provider := "whatsapp-rust"
  phone_e164 := none
  label := "WhatsApp Dev"
  status := "disconnected"
  connected_at := none
  created_at := 0
  updated_at := 0

/-- Somebody who shows a name. -/
def ana : ContactRecord where
  id := "5511988887777@s.whatsapp.net"
  canonical_jid := some "5511988887777@s.whatsapp.net"
  lid := none
  project_id := "acme"
  company_id := "company_a"
  channel_account_id := some "channel_a"
  phone_e164 := some "+5511988887777"
  push_name := some "Ana"
  display_name := "Ana"
  profile_picture_media_id := none
  business_description := none
  profile_lookup_attempted_at := none
  profile_lookup_failed_at := none
  profile_lookup_failure_count := 0
  avatar_url := none
  profile_picture_url := none
  first_contact_at := 0
  last_contact_at := 0

def named_inner : StoreInner where
  channels := .of_pairs [("channel_a", channel_a)]
  contacts := .of_pairs [("5511988887777@s.whatsapp.net", ana)]

/-- The store once she has asked to be forgotten. -/
def anonymized_inner : StoreInner :=
  (anonymize_contact service (ctx 2 "b") named_inner "acme" "company_a" "5511988887777@s.whatsapp.net"
    true).2

/-- The database after some calls, and whether all of them succeed. -/
def persisted : List Persist → Database → Bool × Database
  | [], db => (true, db)
  | persist :: persists, db =>
    let result := postgres.persist_store persist.1 persist.2 db
    let rest := persisted persists result.2
    (result.1.isOk && rest.1, rest.2)

theorem persists (persists : List Persist) : ∀ db, (persisted persists db).1 = true →
    Run postgres.Persists db persists (persisted persists db).2 := by
  induction persists with
  | nil => exact fun db _ => .nil db
  | cons persist persists ih =>
    intro db hok
    obtain ⟨hfirst, hrest⟩ := Bool.and_eq_true_iff.mp hok
    refine .cons ?_ (ih _ hrest)
    unfold MetadataDb.Persists
    cases hresult : postgres.persist_store persist.1 persist.2 db with
    | mk result after =>
      rw [hresult] at hfirst
      cases result with
      | ok _ => rfl
      | error err => cases hfirst

def named : Persist :=
  (persisted_at 1, .from_inner named_inner)

def anonymized : Persist :=
  (persisted_at 2, .from_inner anonymized_inner)

/-- The empty store, which a service starts with. -/
def started : Persist :=
  (persisted_at 0, .from_inner {})

end sample

/-- As long as nothing goes, the tables are those of the store. -/
theorem named_sender_projected :
    Forgotten (sample.persisted [sample.started, sample.named] {}).2.tables sample.named.2 := by
  have hrun := sample.persists [sample.started, sample.named] {} (by decide)
  refine (projection_forgets_iff sample.postgres [sample.started] sample.named.1 sample.named.2 _ hrun).mpr ?_
  have hcallbacks : sample.named.2.callbacks.values = [] ∧ sample.started.2.callbacks.values = [] := by decide
  constructor
  case messages => decide
  case transcripts => decide
  case media_objects => decide
  case dirty_conversations => decide
  case consumer_callbacks => decide
  case callback_ids_plain =>
    intro callback hmem
    rw [hcallbacks.1] at hmem
    cases hmem
  case contacts =>
    have hoffers : ∀ contact ∈ sample.named.2.contacts.values,
        ∀ column ∈ [.phone_e164, .push_name, .business_description, .profile_picture_media_id, .avatar_url,
          ContactColumn.profile_picture_url],
        last_some (column.offers sample.named.2 contact.id) = column.of_contact contact ∧
          (column.of_contact contact = none → ∀ old ∈ [sample.started].map Prod.snd,
            ∀ value ∈ column.offers old contact.id, value = none) := by decide
    intro contact hmem column
    exact hoffers contact hmem column (by cases column <;> simp)

/-- The name of somebody who was forgotten stays in her row. -/
theorem anonymized_name_stays :
    ¬ ∀ (history : List Persist) (answers : PersistAnswers) (store : PersistedStore) (db : Database),
      Run sample.postgres.Persists {} (history ++ [(answers, store)]) db → Forgotten db.tables store := by
  intro hclaim
  have hrun := sample.persists [sample.named, sample.anonymized] {} (by decide)
  have hforgotten := hclaim [sample.named] sample.anonymized.1 sample.anonymized.2 _ hrun
  have hcontact : ∃ contact ∈ sample.anonymized.2.contacts.values,
      contact.id = "5511988887777@s.whatsapp.net" ∧ contact.push_name = none := by decide
  have hoffers : last_some ([sample.named, sample.anonymized].flatMap fun persist =>
      ContactColumn.push_name.offers persist.2 "5511988887777@s.whatsapp.net") = some "Ana" := by decide
  obtain ⟨contact, hmem, hid, hnone⟩ := hcontact
  obtain ⟨row, hrow, hcolumns⟩ := hforgotten.contacts contact hmem
  have hcolumn := contact_column .push_name hrun "5511988887777@s.whatsapp.net"
  rw [hid] at hrow
  rw [hrow, Option.bind_some, hcolumns .push_name, hoffers] at hcolumn
  exact absurd (hnone.symm.trans hcolumn) (by decide)

end rustzap.db
