import RustZap.Channels.LoggedOut
import RustZap.Channels.Sessions
import RustZap.Lib.Upserts
import RustZap.State.Retention

open collections files serde_json sql
open rustzap.error rustzap.models rustzap.whatsapp

namespace rustzap

namespace AppState

variable (self : AppState)

/-- The record of a project that is upserted. -/
def project_value (now : OffsetDateTime) (id name : String) : Value :=
  .object [("id", .string id), ("name", .string name), ("status", .string "active"),
    ("created_at", .string (self.host.ts now)), ("updated_at", .string (self.host.ts now))]

/-- The policy of a company that is upserted. -/
def privacy_value : Value :=
  .object [("message_retention_days", .number 365),
    ("media_temp_retention_days", .number self.config.media_temp_retention_days),
    ("media_permanent_retention_policy", .string "manual"), ("transcript_retention_days", .number 365),
    ("allow_message_text_in_logs", .bool false), ("allow_transcript_storage", .bool true)]

def company_value (now : OffsetDateTime) (project_id company_id name : String) : Value :=
  .object [("id", .string company_id), ("project_id", .string project_id), ("name", .string name),
    ("status", .string "active"), ("created_at", .string (self.host.ts now)),
    ("updated_at", .string (self.host.ts now)), ("privacy", self.privacy_value)]

end AppState

namespace state

def upsert_project (app : AppState) (ctx : Ctx) (inner : StoreInner) (id name : String) : Value × StoreInner :=
  let project := app.project_value ctx.now id name
  (project, { inner with projects := inner.projects.insert id project })

def upsert_company (app : AppState) (ctx : Ctx) (inner : StoreInner) (project_id company_id name : String) :
    Value × StoreInner :=
  let company := app.company_value ctx.now project_id company_id name
  (company, { inner with companies := inner.companies.insert (project_id, company_id) company })

def channel_exists (inner : StoreInner) (channel_id : String) : Bool :=
  (inner.channels.lookup channel_id).isSome

/-- What a start of the service reads when it comes to a session that it found: the clock in each
of the calls, and what the connect learns from outside. -/
structure SessionReads where
  project : Ctx
  company : Ctx
  channel : Ctx
  connect : Ctx
  answers : ConnectAnswers

namespace ChannelService

variable (service : ChannelService)

/-- The channel is created unless the store has it. -/
def ensure_channel (ctx : Ctx) (inner : StoreInner) : ApiResult Unit × StoreInner :=
  if !channel_exists inner service.channel_id then
    let created := create_channel ctx inner service.runtime.project_id service.runtime.company_id
      (some service.channel_id) (some "WhatsApp Restored") none
    (created.1.map fun _ => (), created.2)
  else (.ok (), inner)

/-- The tenant of the channel, which is named by its ids. -/
def upsert_tenant (reads : SessionReads) (inner : StoreInner) : StoreInner :=
  let runtime := service.runtime
  let inner := (upsert_project service.app reads.project inner runtime.project_id runtime.project_id).2
  (upsert_company service.app reads.company inner runtime.project_id runtime.company_id runtime.company_id).2

/-- One session that was found. The result says whether its channel was connected. -/
def bootstrap_session (reads : SessionReads) (s : ChannelState) : ApiResult Bool × ChannelState :=
  match service.ensure_channel reads.channel (service.upsert_tenant reads s.inner) with
  | (.error err, inner) => (.error err, { s with inner })
  | (.ok (), inner) =>
    let connected := service.connect_channel reads.connect reads.answers { s with inner }
    (.ok connected.1.isOk, connected.2)

/-- All the sessions that were found, one after the other, with the count of those started. -/
def bootstrap_sessions (reads : ChannelRuntime → SessionReads) :
    List ChannelRuntime → Nat → ChannelState → ApiResult Nat × ChannelState
  | [], started, s => (.ok started, s)
  | runtime :: found, started, s =>
    match bootstrap_session { service with runtime } (reads runtime) s with
    | (.error err, s) => (.error err, s)
    | (.ok connected, s) => bootstrap_sessions reads found (if connected then started + 1 else started) s

end ChannelService

/-- What is found is read before the first session is opened. -/
def bootstrap_existing_sessions (service : ChannelService) (cwd : List String) (fs : FileSystem)
    (reads : ChannelRuntime → SessionReads) (s : ChannelState) : ApiResult Nat × ChannelState :=
  let base := service.wa_session_sqlite_dir
  if !fs.path_exists (resolve cwd base) then (.ok 0, s)
  else service.bootstrap_sessions reads (discover_session_channels cwd fs base) 0 s

/-- What a channel was created with. The rest of its record is about its connection. -/
def created_as (channel : ChannelRecord) : ChannelRecord :=
  { channel with status := "disconnected", connected_at := none, updated_at := channel.created_at }

/-- No row is new but under these keys. -/
def AddsOnly {K V : Type} [DecidableEq K] (keys : List K) (table table' : HashMap K V) : Prop :=
  ∀ key, (table'.lookup key).isSome → (table.lookup key).isSome ∨ key ∈ keys

/-- The records of the tenants are as they were, so is what the channels were created with, and new
records are there for the sessions that were found only. -/
structure ConfigurationKept (found : List ChannelRuntime) (inner inner' : StoreInner) : Prop where
  projects : ∀ id project, inner.projects.lookup id = some project → inner'.projects.lookup id = some project
  companies : ∀ key company, inner.companies.lookup key = some company →
    inner'.companies.lookup key = some company
  channels : ∀ id channel, inner.channels.lookup id = some channel →
    (inner'.channels.lookup id).map created_as = some (created_as channel)
  new_projects : AddsOnly (found.map ChannelRuntime.project_id) inner.projects inner'.projects
  new_companies : AddsOnly (found.map fun runtime => (runtime.project_id, runtime.company_id))
    inner.companies inner'.companies
  new_channels : AddsOnly (found.map ChannelRuntime.channel_id) inner.channels inner'.channels

/-- No session was found of a project or a company that the store has a record of, unless that record is
already the default one, stamped with the very moment of the last of its upserts. -/
structure TenantsNew (app : AppState) (reads : ChannelRuntime → SessionReads) (found : List ChannelRuntime)
    (inner : StoreInner) : Prop where
  projects : ∀ id project, inner.projects.lookup id = some project →
    ∀ last, (found.filter fun runtime => runtime.project_id = id).getLast? = some last →
      project = app.project_value (reads last).project.now last.project_id last.project_id
  companies : ∀ key company, inner.companies.lookup key = some company →
    ∀ last, (found.filter fun runtime => (runtime.project_id, runtime.company_id) = key).getLast? = some last →
      company = app.company_value (reads last).company.now last.project_id last.company_id last.company_id

/-- Nothing but the connection of one channel has changed. -/
structure ConnectionOnly (channel_id : String) (inner inner' : StoreInner) : Prop where
  projects : inner'.projects = inner.projects
  companies : inner'.companies = inner.companies
  channels : ∀ id channel, inner.channels.lookup id = some channel →
    (inner'.channels.lookup id).map created_as = some (created_as channel)
  new_channels : AddsOnly [channel_id] inner.channels inner'.channels

namespace ConnectionOnly

variable {channel_id : String} {inner mid inner' : StoreInner}

theorem same (hprojects : inner'.projects = inner.projects) (hcompanies : inner'.companies = inner.companies)
    (hchannels : inner'.channels = inner.channels) : ConnectionOnly channel_id inner inner' where
  projects := hprojects
  companies := hcompanies
  channels id channel h := by
    rw [hchannels, h]
    rfl
  new_channels id h := by
    rw [hchannels] at h
    exact Or.inl h

theorem trans (h : ConnectionOnly channel_id inner mid) (h' : ConnectionOnly channel_id mid inner') :
    ConnectionOnly channel_id inner inner' where
  projects := h'.projects.trans h.projects
  companies := h'.companies.trans h.companies
  channels id channel hchannel := by
    obtain ⟨kept, hkept, hcreated⟩ := Option.map_eq_some_iff.mp (h.channels id channel hchannel)
    rw [h'.channels id kept hkept, hcreated]
  new_channels id hid := by
    rcases h'.new_channels id hid with hmid | hnew
    · exact h.new_channels id hmid
    · exact Or.inr hnew

theorem insert {channel : ChannelRecord} (hprojects : inner'.projects = inner.projects)
    (hcompanies : inner'.companies = inner.companies)
    (hchannels : inner'.channels = inner.channels.insert channel_id channel)
    (hcreated : ∀ old, inner.channels.lookup channel_id = some old → created_as channel = created_as old) :
    ConnectionOnly channel_id inner inner' where
  projects := hprojects
  companies := hcompanies
  channels id old hold := by
    rw [hchannels, HashMap.lookup_insert_ite]
    split
    · next heq =>
      rw [heq] at hold
      rw [Option.map_some, hcreated old hold]
    · rw [hold]
      rfl
  new_channels id hid := by
    rw [hchannels, HashMap.lookup_insert_ite] at hid
    split at hid
    · next heq => exact Or.inr (List.mem_singleton.mpr heq)
    · exact Or.inl hid

end ConnectionOnly

section Frames

variable (ctx : Ctx) (inner : StoreInner) (channel_id : String)

theorem set_channel_status_connection_only (status : String) (connected_at : Option OffsetDateTime) :
    ConnectionOnly channel_id inner (set_channel_status ctx inner channel_id status connected_at) := by
  refine .insert rfl rfl rfl fun old hold => ?_
  rw [hold]
  rfl

theorem reconcile_connection_only (is_channel_connected : Bool) :
    ConnectionOnly channel_id inner
      (reconcile_channel_runtime_status ctx inner channel_id is_channel_connected) := by
  unfold reconcile_channel_runtime_status
  split
  · exact .same rfl rfl rfl
  · split
    · exact .same rfl rfl rfl
    · next channel hchannel =>
      split
      · exact .same rfl rfl rfl
      · refine .insert rfl rfl rfl fun old hold => ?_
        cases hchannel.symm.trans hold
        rfl

end Frames

namespace ChannelService

variable (service : ChannelService)

theorem early_answer_connection_only (ctx : Ctx) (answers : ConnectAnswers) (s : ChannelState) :
    ConnectionOnly service.channel_id s.inner (service.early_answer ctx answers s).2.inner := by
  have hcompany : ConnectionOnly service.channel_id s.inner
      (service.channel_for_company ctx answers.reconciled s).2.inner := by
    unfold channel_for_company
    dsimp only
    split
    · exact reconcile_connection_only ctx s.inner service.channel_id _
    · exact reconcile_connection_only ctx s.inner service.channel_id _
  unfold early_answer
  revert hcompany
  rcases service.channel_for_company ctx answers.reconciled s with ⟨err | channel, t⟩
  · exact id
  · intro hcompany
    have hmarked : (if service.status t = some "connected" then
        { t with whatsapp := t.whatsapp.mark_connected service.channel_id } else t).inner = t.inner := by
      split <;> rfl
    dsimp only at hcompany ⊢
    split
    · exact hcompany
    · generalize (if service.status t = some "connected" then
        { t with whatsapp := t.whatsapp.mark_connected service.channel_id } else t) = marked at hmarked ⊢
      rw [← hmarked] at hcompany
      split
      · exact hcompany
      · split
        · exact hcompany
        · exact hcompany

theorem start_session_connection_only (ctx : Ctx) (answers : ConnectAnswers) (s : ChannelState) :
    ConnectionOnly service.channel_id s.inner (service.start_session ctx answers s).2.inner := by
  have hreset : ConnectionOnly service.channel_id s.inner (service.reset_session ctx answers s).inner := by
    unfold reset_session
    dsimp only
    split
    · exact .same rfl rfl rfl
    · exact .same rfl rfl rfl
  unfold start_session
  generalize service.reset_session ctx answers s = reset at hreset
  have hqr : ConnectionOnly service.channel_id reset.inner
    (set_qr reset.inner service.channel_id "connecting" none ctx.now) := .same rfl rfl rfl
  exact (hreset.trans hqr).trans
    (set_channel_status_connection_only ctx _ service.channel_id "connecting" none)

theorem connect_channel_connection_only (ctx : Ctx) (answers : ConnectAnswers) (s : ChannelState) :
    ConnectionOnly service.channel_id s.inner (service.connect_channel ctx answers s).2.inner := by
  have hearly := service.early_answer_connection_only ctx answers s
  rcases service.connect_channel_cases ctx answers s with ⟨result, -, hconnect⟩ | ⟨-, hconnect⟩
  · rw [hconnect]
    exact hearly
  · rw [hconnect]
    exact hearly.trans (service.start_session_connection_only ctx answers _)

/-- A channel that the store does not have can always be created. -/
theorem ensure_channel_spec (ctx : Ctx) (inner : StoreInner) :
    (service.ensure_channel ctx inner).1 = .ok () ∧
      ConnectionOnly service.channel_id inner (service.ensure_channel ctx inner).2 := by
  unfold ensure_channel channel_exists
  cases hchannel : inner.channels.lookup service.channel_id with
  | some channel => exact ⟨rfl, .same rfl rfl rfl⟩
  | none =>
    rw [Option.isSome_none, Bool.not_false, if_pos rfl, create_channel]
    dsimp only [Option.getD_some]
    rw [hchannel]
    refine ⟨rfl, .insert rfl rfl rfl fun old hold => ?_⟩
    rw [hchannel] at hold
    cases hold

/-- A channel sees of its session what it sees of a bootstrap of its own, with the tenant upserted before. -/
theorem bootstrap_session_eq (ctx : Ctx) (answers : ConnectAnswers) (reads : SessionReads) (s : ChannelState)
    (hsession : (s.files.lookup service.session_path).isSome) :
    (service.bootstrap_session { reads with channel := ctx, connect := ctx, answers } s).2 =
      service.bootstrap_existing_sessions ctx answers
        { s with inner := service.upsert_tenant reads s.inner } := by
  obtain ⟨session, hlookup⟩ := Option.isSome_iff_exists.mp hsession
  have htenant : service.upsert_tenant { reads with channel := ctx, connect := ctx, answers } s.inner =
    service.upsert_tenant reads s.inner := rfl
  rw [bootstrap_session, bootstrap_existing_sessions, htenant]
  generalize service.upsert_tenant reads s.inner = inner
  dsimp only
  rw [hlookup, ensure_channel, restored_channel, channel_exists]
  dsimp only
  cases hchannel : inner.channels.lookup service.channel_id with
  | some channel => rfl
  | none =>
    have hcreated : (create_channel ctx inner service.runtime.project_id service.runtime.company_id
        (some service.channel_id) (some "WhatsApp Restored") none).1.map (fun _ => ()) = .ok () := by
      rw [create_channel]
      dsimp only [Option.getD_some]
      rw [hchannel]
      rfl
    rw [Option.isSome_none, Bool.not_false, if_pos rfl]
    dsimp only
    rw [hcreated]

theorem bootstrap_session_spec (reads : SessionReads) (s : ChannelState) :
    (∃ connected, (service.bootstrap_session reads s).1 = .ok connected) ∧
      ConnectionOnly service.channel_id (service.upsert_tenant reads s.inner)
        (service.bootstrap_session reads s).2.inner := by
  have hensured := service.ensure_channel_spec reads.channel (service.upsert_tenant reads s.inner)
  unfold bootstrap_session
  revert hensured
  rcases service.ensure_channel reads.channel (service.upsert_tenant reads s.inner) with ⟨result, inner⟩
  rintro ⟨hok, hensured⟩
  dsimp only at hok hensured
  subst hok
  exact ⟨⟨_, rfl⟩, hensured.trans
    (service.connect_channel_connection_only reads.connect reads.answers { s with inner })⟩

end ChannelService

/-- What a whole start does to the store: each session that was found replaces the records of its
tenant, and adds its channel where there is none. -/
structure Bootstrapped (app : AppState) (reads : ChannelRuntime → SessionReads) (found : List ChannelRuntime)
    (inner inner' : StoreInner) : Prop where
  projects : inner'.projects = Upsert.execute_all (found.map fun runtime => ((), Upsert.put runtime.project_id
    (app.project_value (reads runtime).project.now runtime.project_id runtime.project_id))) inner.projects
  companies : inner'.companies = Upsert.execute_all (found.map fun runtime =>
    ((), Upsert.put (runtime.project_id, runtime.company_id) (app.company_value (reads runtime).company.now
      runtime.project_id runtime.company_id runtime.company_id))) inner.companies
  channels : ∀ id channel, inner.channels.lookup id = some channel →
    (inner'.channels.lookup id).map created_as = some (created_as channel)
  new_channels : AddsOnly (found.map ChannelRuntime.channel_id) inner.channels inner'.channels

namespace Bootstrapped

variable {app : AppState} {reads : ChannelRuntime → SessionReads} {found : List ChannelRuntime}
  {inner mid inner' : StoreInner}

theorem nil : Bootstrapped app reads [] inner inner where
  projects := rfl
  companies := rfl
  channels id channel h := by
    rw [h]
    rfl
  new_channels id h := Or.inl h

theorem cons (service : ChannelService) (happ : service.app = app)
    (hsession : ConnectionOnly service.channel_id (service.upsert_tenant (reads service.runtime) inner) mid)
    (h : Bootstrapped app reads found mid inner') :
    Bootstrapped app reads (service.runtime :: found) inner inner' := by
  subst happ
  constructor
  case projects =>
    rw [h.projects, hsession.projects, List.map_cons, Upsert.execute_all, Upsert.execute_all, List.foldl_cons,
      Upsert.execute_put]
    rfl
  case companies =>
    rw [h.companies, hsession.companies, List.map_cons, Upsert.execute_all, Upsert.execute_all, List.foldl_cons,
      Upsert.execute_put]
    rfl
  case channels =>
    intro id channel hchannel
    obtain ⟨kept, hkept, hcreated⟩ := Option.map_eq_some_iff.mp (hsession.channels id channel hchannel)
    rw [h.channels id kept hkept, hcreated]
  case new_channels =>
    intro id hid
    rcases h.new_channels id hid with hmid | hnew
    · rcases hsession.new_channels id hmid with hold | hnew
      · exact Or.inl hold
      · exact Or.inr (List.mem_cons.mpr (Or.inl (List.mem_singleton.mp hnew)))
    · exact Or.inr (List.mem_cons_of_mem _ hnew)

theorem puts_add_only {K V : Type} [DecidableEq K] (key : ChannelRuntime → K) (row : ChannelRuntime → V)
    (table : HashMap K V) : AddsOnly (found.map key) table
      (Upsert.execute_all (found.map fun runtime => ((), Upsert.put (key runtime) (row runtime))) table) := by
  intro query hquery
  rcases (Upsert.lookup_execute_all_isSome _ table query).mp hquery with hold | ⟨upsert, hupsert, hkey⟩
  · exact Or.inl hold
  · obtain ⟨entry, hentry, rfl⟩ := List.mem_map.mp hupsert
    obtain ⟨runtime, hruntime, rfl⟩ := List.mem_map.mp hentry
    exact Or.inr (hkey ▸ List.mem_map_of_mem hruntime)

theorem kept_iff (h : Bootstrapped app reads found inner inner') :
    ConfigurationKept found inner inner' ↔ TenantsNew app reads found inner := by
  constructor
  · intro hkept
    have hprojects := hkept.projects
    have hcompanies := hkept.companies
    rw [h.projects] at hprojects
    rw [h.companies] at hcompanies
    exact {
      projects := (Upsert.execute_all_put_keeps_iff _ _ () found inner.projects).mp hprojects
      companies := (Upsert.execute_all_put_keeps_iff _ _ () found inner.companies).mp hcompanies }
  · intro hnew
    constructor
    case projects =>
      rw [h.projects]
      exact (Upsert.execute_all_put_keeps_iff _ _ () found inner.projects).mpr hnew.projects
    case companies =>
      rw [h.companies]
      exact (Upsert.execute_all_put_keeps_iff _ _ () found inner.companies).mpr hnew.companies
    case channels => exact h.channels
    case new_projects =>
      rw [h.projects]
      exact puts_add_only ChannelRuntime.project_id _ inner.projects
    case new_companies =>
      rw [h.companies]
      exact puts_add_only (fun runtime => (runtime.project_id, runtime.company_id)) _ inner.companies
    case new_channels => exact h.new_channels

end Bootstrapped

namespace ChannelService

variable (service : ChannelService)

theorem bootstrap_sessions_bootstrapped (reads : ChannelRuntime → SessionReads) (found : List ChannelRuntime) :
    ∀ (started : Nat) (s : ChannelState),
      Bootstrapped service.app reads found s.inner
        (service.bootstrap_sessions reads found started s).2.inner := by
  induction found with
  | nil => exact fun started s => .nil
  | cons runtime found ih =>
    intro started s
    obtain ⟨⟨connected, hconnected⟩, hsession⟩ :=
      bootstrap_session_spec { service with runtime } (reads runtime) s
    rw [bootstrap_sessions]
    revert hconnected hsession
    rcases bootstrap_session { service with runtime } (reads runtime) s with ⟨result, t⟩
    intro hsession hconnected
    dsimp only at hsession hconnected
    subst hconnected
    exact .cons { service with runtime } rfl hsession (ih _ t)

end ChannelService

section Start

variable (service : ChannelService) (cwd : List String) (fs : FileSystem)

/-- Below a directory that does not exist nothing is found. -/
theorem discover_of_not_exists {base : String} (h : fs.path_exists (resolve cwd base) = false) :
    discover_session_channels cwd fs base = [] := by
  refine List.eq_nil_iff_forall_not_mem.mpr fun runtime hfound => ?_
  have hsession := mem_discover_iff.mp hfound
  rw [place_eq] at hsession
  have hdir := fs.is_dir_iff.mp (parent_is_dir (parent_mem (parent_mem (parent_mem hsession))))
  rw [FileSystem.path_exists, Bool.or_eq_false_iff, decide_eq_false_iff_not] at h
  rcases hdir with hroot | hlookup
  · exact h.1 hroot
  · rw [hlookup] at h
    cases h.2

theorem bootstrap_bootstrapped (reads : ChannelRuntime → SessionReads) (s : ChannelState) :
    Bootstrapped service.app reads (discover_session_channels cwd fs service.wa_session_sqlite_dir) s.inner
      (bootstrap_existing_sessions service cwd fs reads s).2.inner := by
  unfold bootstrap_existing_sessions
  dsimp only
  cases hexists : fs.path_exists (resolve cwd service.wa_session_sqlite_dir) with
  | false =>
    rw [discover_of_not_exists cwd fs hexists, Bool.not_false, if_pos rfl]
    exact .nil
  | true =>
    rw [Bool.not_true, if_neg Bool.false_ne_true]
    exact service.bootstrap_sessions_bootstrapped reads _ 0 s

/-- A start leaves the records of projects and companies alone, whatever the store and the session
directories, if and only if no session is found of a tenant that has a record. -/
theorem bootstrap_keeps_configuration_iff (reads : ChannelRuntime → SessionReads) (s : ChannelState) :
    ConfigurationKept (discover_session_channels cwd fs service.wa_session_sqlite_dir) s.inner
        (bootstrap_existing_sessions service cwd fs reads s).2.inner ↔
      TenantsNew service.app reads (discover_session_channels cwd fs service.wa_session_sqlite_dir) s.inner :=
  (bootstrap_bootstrapped service cwd fs reads s).kept_iff

/-- Where every record was made before the start, the condition is that no session found is of a known
project or company. -/
theorem tenants_new_iff_unknown {app : AppState} {reads : ChannelRuntime → SessionReads}
    {found : List ChannelRuntime} {inner : StoreInner}
    (hprojects : ∀ id project, inner.projects.lookup id = some project → ∀ runtime ∈ found,
      project.get "created_at" ≠ some (.string (app.host.ts (reads runtime).project.now)))
    (hcompanies : ∀ key company, inner.companies.lookup key = some company → ∀ runtime ∈ found,
      company.get "created_at" ≠ some (.string (app.host.ts (reads runtime).company.now))) :
    TenantsNew app reads found inner ↔ ∀ runtime ∈ found, inner.projects.lookup runtime.project_id = none ∧
      inner.companies.lookup (runtime.project_id, runtime.company_id) = none := by
  have hproject := Upsert.put_keeps_iff_absent ChannelRuntime.project_id
    (fun runtime => app.project_value (reads runtime).project.now runtime.project_id runtime.project_id)
    fun id project hproject runtime hruntime heq =>
      hprojects id project hproject runtime hruntime (by rw [heq]; rfl)
  have hcompany := Upsert.put_keeps_iff_absent (fun runtime => (runtime.project_id, runtime.company_id))
    (fun runtime => app.company_value (reads runtime).company.now runtime.project_id runtime.company_id
      runtime.company_id)
    fun key company hcompany runtime hruntime heq =>
      hcompanies key company hcompany runtime hruntime (by rw [heq]; rfl)
  constructor
  · intro hnew runtime hruntime
    exact ⟨hproject.mp hnew.projects runtime hruntime, hcompany.mp hnew.companies runtime hruntime⟩
  · intro hunknown
    exact {
      projects := hproject.mpr fun runtime hruntime => (hunknown runtime hruntime).1
      companies := hcompany.mpr fun runtime hruntime => (hunknown runtime hruntime).2 }

/-- The policy in force for a company of which a session was found is the default one. -/
theorem bootstrap_resets_policy (reads : ChannelRuntime → SessionReads) (s : ChannelState)
    {runtime : ChannelRuntime} (h : runtime ∈ discover_session_channels cwd fs service.wa_session_sqlite_dir) :
    company_privacy_policy (company (bootstrap_existing_sessions service cwd fs reads s).2.inner
        runtime.project_id runtime.company_id) =
      { message_retention_days := some 365
        media_temp_retention_days := some service.app.config.media_temp_retention_days
        transcript_retention_days := some 365
        allow_transcript_storage := true } := by
  have hcompanies := (bootstrap_bootstrapped service cwd fs reads s).companies
  have hmem : runtime ∈ (discover_session_channels cwd fs service.wa_session_sqlite_dir).filter fun other =>
      (other.project_id, other.company_id) = (runtime.project_id, runtime.company_id) :=
    List.mem_filter.mpr ⟨h, decide_eq_true rfl⟩
  have hlast := List.getLast?_eq_some_getLast (List.ne_nil_of_mem hmem)
  rw [company, hcompanies, Upsert.lookup_execute_all_put, hlast]
  rfl

end Start

namespace sample

/-- A company that keeps its messages for a month, and no transcripts. -/
def strict_company : Value :=
  .object [("id", .string "company_a"), ("project_id", .string "acme"), ("name", .string "Acme Ltda"),
    ("status", .string "active"), ("created_at", .string "2024-03-01T10:00:00Z"),
    ("updated_at", .string "2024-03-01T10:00:00Z"),
    ("privacy", .object [("message_retention_days", .number 30), ("media_temp_retention_days", .number 30),
      ("media_permanent_retention_policy", .string "manual"), ("transcript_retention_days", .number 30),
      ("allow_message_text_in_logs", .bool false), ("allow_transcript_storage", .bool false)])]

/-- The store of the company, as it is read back. -/
def configured : StoreInner :=
  restarted { companies := .of_pairs [(("acme", "company_a"), strict_company)] }

/-- The session of its channel is there since before the restart. -/
def paired_files : Option FileSystem :=
  session_files.bind fun fs => open_session_file ["srv"] fs (session_sqlite_path "wa_sessions" company_a)

def restart_reads (_ : ChannelRuntime) : SessionReads where
  project := ctx 5 "i"
  company := ctx 5 "j"
  channel := ctx 5 "k"
  connect := ctx 5 "l"
  answers := connects

end sample

/-- After a restart the messages of the company are kept for a year. -/
theorem restart_resets_policy : ∃ fs, sample.paired_files = some fs ∧
    ¬ ConfigurationKept (discover_session_channels ["srv"] fs "wa_sessions") sample.configured
      (bootstrap_existing_sessions (sample.channels false) ["srv"] fs sample.restart_reads
        (.start sample.configured)).2.inner := by
  obtain ⟨fs, hfs⟩ := Option.isSome_iff_exists.mp (show sample.paired_files.isSome = true by decide +kernel)
  refine ⟨fs, hfs, fun hkept => ?_⟩
  have hdiscovered : sample.paired_files.map (discover_session_channels ["srv"] · "wa_sessions") =
      some [sample.company_a] := by decide +kernel
  rw [hfs, Option.map_some] at hdiscovered
  have hfound : sample.company_a ∈ discover_session_channels ["srv"] fs "wa_sessions" :=
    Option.some.inj hdiscovered ▸ List.mem_singleton_self _
  have hreset := bootstrap_resets_policy (sample.channels false) ["srv"] fs sample.restart_reads
    (.start sample.configured) hfound
  have hcompany := hkept.companies (sample.company_a.project_id, sample.company_a.company_id)
    sample.strict_company rfl
  have hdays := congrArg CompanyPrivacyPolicy.message_retention_days hreset
  rw [company, hcompany] at hdays
  cases hdays

end state

end rustzap
