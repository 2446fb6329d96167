import RustZap.Lib.HashMap
import RustZap.Whatsapp

open collections

namespace rustzap.whatsapp

/-- Per-channel reconnection bookkeeping. It lives in the memory of the process. -/
structure ReconnectIntent where
  desired : Bool := false
  needs_session_reset : Bool := false
  has_connected : Bool := false
  attempts : Nat := 0
  deriving DecidableEq

def RECONNECT_BASE_DELAY_SECS : Nat := 5

def RECONNECT_MAX_DELAY_SECS : Nat := 300

/-- What a supervisor's task and its client say when they are asked. -/
structure Supervisor where
  is_finished : Bool
  is_connected : Bool

/-- Of a supervisor only its presence is kept here: its task and its client answer
for themselves, differently at different times. -/
structure WhatsappManager where
  supervisors : HashMap String Unit := ∅
  intents : HashMap String ReconnectIntent := ∅

namespace WhatsappManager

def intent (manager : WhatsappManager) (channel_id : String) : ReconnectIntent :=
  (manager.intents.lookup channel_id).getD {}

def update_intent (manager : WhatsappManager) (channel_id : String) (f : ReconnectIntent → ReconnectIntent) :
    WhatsappManager :=
  { manager with intents := manager.intents.insert channel_id (f (manager.intent channel_id)) }

def set_desired (manager : WhatsappManager) (channel_id : String) (desired : Bool) : WhatsappManager :=
  manager.update_intent channel_id fun intent => { intent with desired }

def is_desired (manager : WhatsappManager) (channel_id : String) : Bool :=
  (manager.intents.lookup channel_id).any ReconnectIntent.desired

def mark_needs_session_reset (manager : WhatsappManager) (channel_id : String) : WhatsappManager :=
  manager.update_intent channel_id fun intent =>
    { intent with needs_session_reset := true, has_connected := false, attempts := 0 }

/-- Returns and clears the pending session-reset flag for the channel. -/
def take_needs_session_reset (manager : WhatsappManager) (channel_id : String) : Bool × WhatsappManager :=
  match manager.intents.lookup channel_id with
  | some intent =>
    if intent.needs_session_reset then
      (true, { manager with
        intents := manager.intents.insert channel_id { intent with needs_session_reset := false } })
    else (false, manager)
  | none => (false, manager)

/-- The counter is a `u32` and saturates. -/
def next_reconnect_delay_secs (manager : WhatsappManager) (channel_id : String) : Nat × WhatsappManager :=
  let attempt := min (manager.intent channel_id).attempts 16
  (min (RECONNECT_BASE_DELAY_SECS <<< attempt) RECONNECT_MAX_DELAY_SECS,
    manager.update_intent channel_id fun intent =>
      { intent with attempts := min (intent.attempts + 1) (2 ^ 32 - 1) })

def mark_connected (manager : WhatsappManager) (channel_id : String) : WhatsappManager :=
  manager.update_intent channel_id fun intent => { intent with has_connected := true, attempts := 0 }

def should_reconnect (manager : WhatsappManager) (channel_id : String) : Bool :=
  (manager.intents.lookup channel_id).any fun intent => intent.desired && intent.has_connected

def is_channel_active (manager : WhatsappManager) (channel_id : String) (supervisor : Supervisor) : Bool :=
  (manager.supervisors.lookup channel_id).any fun _ => !supervisor.is_finished

def is_channel_connected (manager : WhatsappManager) (channel_id : String) (supervisor : Supervisor) :
    Bool :=
  (manager.supervisors.lookup channel_id).any fun _ => !supervisor.is_finished && supervisor.is_connected

def stop_channel (manager : WhatsappManager) (channel_id : String) : WhatsappManager :=
  { manager with supervisors := manager.supervisors.erase channel_id }

section Intents

variable (manager : WhatsappManager) (channel_id : String)

@[simp] theorem intent_update_intent (f : ReconnectIntent → ReconnectIntent) :
    (manager.update_intent channel_id f).intent channel_id = f (manager.intent channel_id) := by
  rw [intent, update_intent, HashMap.lookup_insert_ite, if_pos rfl]
  rfl

@[simp] theorem intent_set_desired (desired : Bool) :
    (manager.set_desired channel_id desired).intent channel_id =
      { manager.intent channel_id with desired } :=
  intent_update_intent ..

@[simp] theorem intent_mark_needs_session_reset :
    (manager.mark_needs_session_reset channel_id).intent channel_id =
      { manager.intent channel_id with needs_session_reset := true, has_connected := false, attempts := 0 } :=
  intent_update_intent ..

@[simp] theorem intent_mark_connected :
    (manager.mark_connected channel_id).intent channel_id =
      { manager.intent channel_id with has_connected := true, attempts := 0 } :=
  intent_update_intent ..

@[simp] theorem intent_stop_channel :
    (manager.stop_channel channel_id).intent channel_id = manager.intent channel_id :=
  rfl

@[simp] theorem take_needs_session_reset_fst :
    (manager.take_needs_session_reset channel_id).1 = (manager.intent channel_id).needs_session_reset := by
  rw [take_needs_session_reset, intent]
  cases manager.intents.lookup channel_id with
  | none => rfl
  | some intent =>
    dsimp only [Option.getD_some]
    cases intent.needs_session_reset <;> rfl

/-- Taking the flag touches nothing else of the intent. -/
@[simp] theorem intent_take_needs_session_reset :
    (manager.take_needs_session_reset channel_id).2.intent channel_id =
      { manager.intent channel_id with needs_session_reset := false } := by
  rw [take_needs_session_reset, intent, intent]
  cases hlookup : manager.intents.lookup channel_id with
  | none =>
    dsimp only
    rw [hlookup]
    rfl
  | some intent =>
    obtain ⟨desired, needs_session_reset, has_connected, attempts⟩ := intent
    cases needs_session_reset with
    | true =>
      dsimp only
      rw [if_pos rfl]
      dsimp only
      rw [HashMap.lookup_insert_ite, if_pos rfl]
      rfl
    | false =>
      dsimp only
      rw [if_neg Bool.false_ne_true, hlookup]
      rfl

@[simp] theorem intent_next_reconnect_delay_secs :
    (manager.next_reconnect_delay_secs channel_id).2.intent channel_id =
      { manager.intent channel_id with
        attempts := min ((manager.intent channel_id).attempts + 1) (2 ^ 32 - 1) } :=
  intent_update_intent ..

theorem is_desired_eq : manager.is_desired channel_id = (manager.intent channel_id).desired := by
  rw [is_desired, intent]
  cases manager.intents.lookup channel_id <;> rfl

theorem should_reconnect_eq : manager.should_reconnect channel_id =
    ((manager.intent channel_id).desired && (manager.intent channel_id).has_connected) := by
  rw [should_reconnect, intent]
  cases manager.intents.lookup channel_id <;> rfl

/-- The waits double up to a ceiling: none is shorter than the base delay, and none
is longer than the longest. -/
theorem next_reconnect_delay_secs_bounds :
    RECONNECT_BASE_DELAY_SECS ≤ (manager.next_reconnect_delay_secs channel_id).1 ∧
      (manager.next_reconnect_delay_secs channel_id).1 ≤ RECONNECT_MAX_DELAY_SECS := by
  refine ⟨le_min ?_ (by decide), min_le_right _ _⟩
  rw [Nat.shiftLeft_eq]
  exact Nat.le_mul_of_pos_right _ (Nat.two_pow_pos _)

end Intents

end WhatsappManager

/-- The credentials in a session file, as far as they matter here: whether a logout
has made them invalid. -/
structure Session where
  invalidated : Bool
  deriving DecidableEq

/-- The session files on disk, by their paths. -/
abbrev SessionFiles := HashMap String Session

/-- `Path::join` on paths without a drive. -/
def join_path (base component : String) : String :=
  if str.starts_with component "/" then component
  else if base = "" || str.ends_with base "/" then base ++ component
  else base ++ "/" ++ component

def session_sqlite_path (base_dir : String) (runtime : ChannelRuntime) : String :=
  join_path (join_path (join_path (join_path base_dir runtime.project_id) runtime.company_id)
    runtime.channel_id) "session.sqlite"

/-- The sidecar files `-shm` and `-wal` hold nothing of their own. A file that cannot
be removed stays, with a warning in the log. -/
def wipe_session_files (files : SessionFiles) (session_path : String) (removed : Bool) : SessionFiles :=
  if removed then files.erase session_path else files

/-- How far the start of a session comes, with the text of the error. -/
inductive StartAnswer where
  | not_opened (err : String)
  | not_built (err : String)
  | running

/-- The outcome of a start: the manager, the files, and the session that was opened,
as it was found. -/
structure Started where
  result : Except String Unit
  manager : WhatsappManager
  files : SessionFiles
  opened : Option Session

/-- A session file that does not exist is created by being opened. -/
def open_session (files : SessionFiles) (session_path : String) : Session :=
  (files.lookup session_path).getD { invalidated := false }

def start_channel (manager : WhatsappManager) (files : SessionFiles) (channel_id session_path : String)
    (supervisor : Supervisor) (answer : StartAnswer) : Started :=
  if manager.is_channel_active channel_id supervisor then
    { result := .ok (), manager, files, opened := none }
  else
    let manager := manager.stop_channel channel_id
    let session := open_session files session_path
    let opened_files := files.insert session_path session
    match answer with
    | .not_opened err => { result := .error err, manager, files, opened := none }
    | .not_built err => { result := .error err, manager, files := opened_files, opened := some session }
    | .running =>
      { result := .ok (), files := opened_files, opened := some session
        manager := { manager with supervisors := manager.supervisors.insert channel_id () } }

@[simp] theorem intent_start_channel (manager : WhatsappManager) (files : SessionFiles)
    (channel_id session_path : String) (supervisor : Supervisor) (answer : StartAnswer) :
    (start_channel manager files channel_id session_path supervisor answer).manager.intent channel_id =
      manager.intent channel_id := by
  unfold start_channel
  split
  · rfl
  · cases answer <;> rfl

/-- A session is opened as the files have it, and stays as it is. -/
theorem start_channel_opened (manager : WhatsappManager) (files : SessionFiles)
    (channel_id session_path : String) (supervisor : Supervisor) (answer : StartAnswer) :
    (∀ session ∈ (start_channel manager files channel_id session_path supervisor answer).opened,
      session = open_session files session_path) ∧
    ∀ session, (start_channel manager files channel_id session_path supervisor answer).files.lookup
        session_path = some session → session = open_session files session_path := by
  have hkept : ∀ session, files.lookup session_path = some session →
      session = open_session files session_path := by
    intro session hsession
    rw [open_session, hsession]
    rfl
  have hinserted : ∀ session, (files.insert session_path (open_session files session_path)).lookup
      session_path = some session → session = open_session files session_path := by
    intro session hsession
    rw [HashMap.lookup_insert_ite, if_pos rfl] at hsession
    exact (Option.some.inj hsession).symm
  unfold start_channel
  split
  · exact ⟨nofun, hkept⟩
  · cases answer with
    | not_opened err => exact ⟨nofun, hkept⟩
    | not_built err =>
      refine ⟨fun session hsession => ?_, hinserted⟩
      exact (Option.some.inj hsession).symm
    | running =>
      refine ⟨fun session hsession => ?_, hinserted⟩
      exact (Option.some.inj hsession).symm

end rustzap.whatsapp
