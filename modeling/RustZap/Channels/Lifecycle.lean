import RustZap.Channels.Manager
import RustZap.State.Restart
import RustZap.State.WhatsappEvents

open collections serde_json
open rustzap.error rustzap.eventbus rustzap.models rustzap.whatsapp

namespace rustzap.state

/-- The events of a session that are about its connection. The others, about messages
and groups, touch neither the channel nor the reconnect intent. -/
inductive SessionEvent where
  | Connected
  | Disconnected
  | LoggedOut (reason : String)
  | PairingQrCode (code : String) (timeout_secs : Nat)
  | Diagnostic (event_type : String) (payload : Value)

namespace SessionEvent

def event : SessionEvent → WhatsappEvent
  | .Connected => .Connected
  | .Disconnected => .Disconnected
  | .LoggedOut reason => .LoggedOut reason
  | .PairingQrCode code timeout_secs => .PairingQrCode code timeout_secs
  | .Diagnostic event_type payload => .Diagnostic event_type payload

/-- The provider reports a logout in either of two ways. -/
def logs_out : SessionEvent → Bool
  | .LoggedOut _ => true
  | .Diagnostic event_type payload => event_type = "channel.connect_failure" &&
      str.contains (((payload.get "reason").bind Value.as_str).getD "") "LoggedOut"
  | _ => false

def is_runtime_stopped : SessionEvent → Bool
  | .Diagnostic event_type _ => event_type = "channel.runtime_stopped"
  | _ => false

end SessionEvent

def raw_whatsapp_event_must_stay_inline : WhatsappEvent → Bool
  | .PairingQrCode _ _ => true
  | _ => false

/-- What was decided when a session's runtime had stopped, and what the decision
should have gone by. -/
structure Stop where
  scheduled : Bool
  operator : Bool
  connected : Bool
  deriving DecidableEq

/-- What happened in the life of a channel. The code keeps none of it. `operator` says
that the operator's last call was a connect, `connected` that a connection was reported
since the last logout, and `connected_here` that this was since the last restart, too. -/
structure History where
  opened : List Session := []
  operator : Bool := false
  connected : Bool := false
  connected_here : Bool := false
  stops : List Stop := []

/-- One channel: the store, the manager in the memory of the process, the session files,
the tasks that were spawned and sleep, and the raw events that wait for a worker. -/
structure ChannelState where
  inner : StoreInner
  whatsapp : WhatsappManager := {}
  files : SessionFiles := ∅
  wipes : List String := []
  reconnects : List Nat := []
  raw : List SessionEvent := []
  history : History := {}

def channel_status (inner : StoreInner) (channel_id : String) : Option String :=
  (inner.channels.lookup channel_id).map ChannelRecord.status

/-- The service as a channel sees it. `raw_payload` is what `serde_json` makes of a raw
event. -/
structure ChannelService where
  app : AppState
  runtime : ChannelRuntime
  wa_session_sqlite_dir : String
  kafka_worker_mode_enabled : Bool
  raw_payload : ChannelRuntime → WhatsappEvent → Value

/-- What a connect learns from outside: of the supervisor at the three times it asks,
whether session files can be removed, and how a start ends. -/
structure ConnectAnswers where
  reconciled : Supervisor
  connected : Supervisor
  removed : Bool
  started : Supervisor
  start : StartAnswer

def channel_not_found (channel_id : String) : ApiError :=
  .NotFound ("channel " ++ channel_id ++ " not found")

/-- A pairing code that can still be scanned. -/
def active_qr (now : OffsetDateTime) (cached_qr : Option QrState) : Option QrState :=
  cached_qr.filter fun qr => qr.qr_code_text.isSome && qr.expires_at > now + Duration.seconds 2

def qr_expired (now : OffsetDateTime) (cached_qr : Option QrState) : Bool :=
  cached_qr.any fun qr => qr.qr_code_text.isSome && qr.expires_at ≤ now + Duration.seconds 2

namespace ChannelService

variable (service : ChannelService)

def channel_id : String :=
  service.runtime.channel_id

def session_path : String :=
  session_sqlite_path service.wa_session_sqlite_dir service.runtime

def intent (s : ChannelState) : ReconnectIntent :=
  s.whatsapp.intent service.channel_id

def status (s : ChannelState) : Option String :=
  channel_status s.inner service.channel_id

def channel_for_company (ctx : Ctx) (supervisor : Supervisor) (s : ChannelState) :
    ApiResult ChannelRecord × ChannelState :=
  let inner := reconcile_channel_runtime_status ctx s.inner service.channel_id
    (s.whatsapp.is_channel_connected service.channel_id supervisor)
  match (inner.channels.lookup service.channel_id).filter fun channel =>
      channel_belongs_to_company channel service.runtime.project_id service.runtime.company_id with
  | some channel => (.ok channel, { s with inner })
  | none => (.error (channel_not_found service.channel_id), { s with inner })

/-- The first half of `connect_channel`: the answer of a call that starts nothing. -/
def early_answer (ctx : Ctx) (answers : ConnectAnswers) (s : ChannelState) :
    Option (ApiResult QrState) × ChannelState :=
  match service.channel_for_company ctx answers.reconciled s with
  | (.error err, s) => (some (.error err), s)
  | (.ok _, s) =>
    let stored_connected := service.status s = some "connected"
    if stored_connected ∧ s.whatsapp.is_channel_connected service.channel_id answers.connected then
      let qr : QrState :=
        { channel_id := service.channel_id, status := "connected", qr_code_text := none, expires_at := ctx.now }
      (some (.ok qr), s)
    else
      let s := if stored_connected then
          { s with whatsapp := s.whatsapp.mark_connected service.channel_id }
        else s
      let cached_qr := s.inner.qr.lookup service.channel_id
      match active_qr ctx.now cached_qr with
      | some qr => (some (.ok qr), s)
      | none =>
        if qr_expired ctx.now cached_qr then
          (none, { s with whatsapp := s.whatsapp.stop_channel service.channel_id })
        else (none, s)

/-- Credentials that are known to be dead are wiped before the next pairing. -/
def reset_session (ctx : Ctx) (answers : ConnectAnswers) (s : ChannelState) : ChannelState :=
  let taken := s.whatsapp.take_needs_session_reset service.channel_id
  if taken.1 ∨ service.status s = some "logged_out" then
    { s with
      whatsapp := taken.2.stop_channel service.channel_id
      files := wipe_session_files s.files service.session_path answers.removed
      inner := push_event_inner s.inner (runtime_event ctx 0 "channel.session_reset" service.runtime none
        (.object [("reason", .string "logged_out_credentials_wiped")])) }
  else { s with whatsapp := taken.2 }

/-- The second half of `connect_channel`. -/
def start_session (ctx : Ctx) (answers : ConnectAnswers) (s : ChannelState) :
    ApiResult QrState × ChannelState :=
  let s := service.reset_session ctx answers s
  let qr : QrState :=
    { channel_id := service.channel_id, status := "connecting", qr_code_text := none, expires_at := ctx.now }
  let inner := set_channel_status ctx (set_qr s.inner service.channel_id "connecting" none ctx.now)
    service.channel_id "connecting" none
  let started := start_channel (s.whatsapp.set_desired service.channel_id true) s.files service.channel_id
    service.session_path answers.started answers.start
  let result : ApiResult QrState := match started.result with
    | .ok () => .ok qr
    | .error err => .error (.Internal ("failed to start WhatsApp: " ++ err))
  (result, { s with
    inner, whatsapp := started.manager, files := started.files
    history := { s.history with opened := s.history.opened ++ started.opened.toList } })

def connect_channel (ctx : Ctx) (answers : ConnectAnswers) (s : ChannelState) :
    ApiResult QrState × ChannelState :=
  match service.early_answer ctx answers s with
  | (some result, s) => (result, s)
  | (none, s) => service.start_session ctx answers s

/-- The result is `none` for the object that stands for an unknown channel. -/
def disconnect_channel (ctx : Ctx) (s : ChannelState) : Option ChannelRecord × ChannelState :=
  let whatsapp := (s.whatsapp.set_desired service.channel_id false).stop_channel service.channel_id
  match s.inner.channels.lookup service.channel_id with
  | some channel =>
    let channel := { channel with status := "disconnected", connected_at := none, updated_at := ctx.now }
    (some channel, { s with whatsapp, inner :=
      { s.inner with channels := s.inner.channels.insert service.channel_id channel } })
  | none => (none, { s with whatsapp })

def disconnect_channel_for_company (ctx : Ctx) (supervisor : Supervisor) (s : ChannelState) :
    ApiResult (Option ChannelRecord) × ChannelState :=
  match service.channel_for_company ctx supervisor s with
  | (.error err, s) => (.error err, s)
  | (.ok _, s) =>
    let disconnected := service.disconnect_channel ctx s
    (.ok disconnected.1, disconnected.2)

/-- The manager after an event. -/
def noted (manager : WhatsappManager) (event : SessionEvent) : WhatsappManager :=
  match event with
  | .Connected => manager.mark_connected service.channel_id
  | event =>
    if event.logs_out then
      (manager.set_desired service.channel_id false).mark_needs_session_reset service.channel_id
    else manager

/-- No session event carries media. -/
def session_answers (ctx : Ctx) (should_reconnect : Bool) (delay_secs : Nat) : EventAnswers where
  media := { ctx, download := .error "", staged := .ok (), put := .ok () }
  should_reconnect
  delay_secs

def recorded_history (history : History) (event : SessionEvent) (respawn : Bool) : History :=
  let history := if event.is_runtime_stopped then
      { history with stops := history.stops ++
          [{ scheduled := respawn, operator := history.operator, connected := history.connected }] }
    else history
  match event with
  | .Connected => { history with connected := true, connected_here := true }
  | event => if event.logs_out then { history with connected := false, connected_here := false } else history

/-- The handling of an event, with what it does beside the store: the intents, the
delayed wipe after a logout, and the delayed reconnect after a stop. -/
def process_session_event (ctx : Ctx) (session_path : String) (event : SessionEvent) (s : ChannelState) :
    ChannelState :=
  let whatsapp := service.noted s.whatsapp event
  let respawn := event.is_runtime_stopped && whatsapp.should_reconnect service.channel_id
  let delay := whatsapp.next_reconnect_delay_secs service.channel_id
  { s with
    inner := (process_whatsapp_event service.app ctx s.inner service.runtime
      (session_answers ctx (whatsapp.should_reconnect service.channel_id) delay.1) event.event).2
    whatsapp := if respawn then delay.2 else whatsapp
    wipes := match event with
      | .LoggedOut _ => s.wipes ++ [session_path]
      | _ => s.wipes
    reconnects := if respawn then s.reconnects ++ [delay.1] else s.reconnects
    history := recorded_history s.history event respawn }

def enqueue_whatsapp_raw_event (ctx : Ctx) (event : SessionEvent) (s : ChannelState) : ChannelState :=
  { s with
    raw := s.raw ++ [event]
    inner := push_event_inner s.inner (runtime_event ctx 0 "whatsapp.raw.inbound" service.runtime none
      (service.raw_payload service.runtime event.event)) }

/-- Whether an event goes to Kafka before it is handled. -/
def enqueues (event : SessionEvent) : Bool :=
  service.kafka_worker_mode_enabled && !raw_whatsapp_event_must_stay_inline event.event

def handle_whatsapp_event (ctx : Ctx) (event : SessionEvent) (s : ChannelState) : ChannelState :=
  if service.enqueues event then service.enqueue_whatsapp_raw_event ctx event s
  else service.process_session_event ctx service.session_path event s

/-- The path of the session does not go through Kafka. -/
def process_whatsapp_raw_event (ctx : Ctx) (event : SessionEvent) (s : ChannelState) : ChannelState :=
  service.process_session_event ctx "" event s

/-- The task that was spawned when the session was logged out. -/
def delayed_wipe (session_path : String) (removed : Bool) (s : ChannelState) : ChannelState :=
  if s.whatsapp.is_desired service.channel_id then s
  else { s with
    whatsapp := s.whatsapp.stop_channel service.channel_id
    files := wipe_session_files s.files session_path removed }

/-- The task that was spawned when the runtime had stopped. -/
def scheduled_reconnect (ctx : Ctx) (active : Supervisor) (answers : ConnectAnswers) (s : ChannelState) :
    ChannelState :=
  if !s.whatsapp.is_desired service.channel_id || s.whatsapp.is_channel_active service.channel_id active then s
  else (service.connect_channel ctx answers s).2

/-- A channel of which only the session file is left is created again. -/
def restored_channel (ctx : Ctx) (s : ChannelState) : ChannelState :=
  match s.inner.channels.lookup service.channel_id with
  | some _ => s
  | none => { s with
      inner := (create_channel ctx s.inner service.runtime.project_id service.runtime.company_id
        (some service.channel_id) (some "WhatsApp Restored") none).2 }

/-- The projects and companies that a bootstrap adds matter to no channel. -/
def bootstrap_existing_sessions (ctx : Ctx) (answers : ConnectAnswers) (s : ChannelState) : ChannelState :=
  match s.files.lookup service.session_path with
  | none => s
  | some _ => (service.connect_channel ctx answers (service.restored_channel ctx s)).2

/-- The store is read back, the files stay, and so do the events in Kafka. The rest was
in memory. -/
def restart (s : ChannelState) : ChannelState where
  inner := restarted s.inner
  files := s.files
  raw := s.raw
  history := { s.history with connected_here := false }

/-- A logout makes the credentials invalid that the session has. -/
def invalidate (files : SessionFiles) : SessionFiles :=
  match files.lookup service.session_path with
  | some _ => files.insert service.session_path { invalidated := true }
  | none => files

end ChannelService

/-- What happens to a channel. A worker may take any raw event that waits, and one that
it handles may stay and come again. -/
inductive ChannelStep where
  | connect (ctx : Ctx) (answers : ConnectAnswers)
  | disconnect (ctx : Ctx) (supervisor : Supervisor)
  | emit (ctx : Ctx) (event : SessionEvent)
  | work (ctx : Ctx) (place : Nat) (settled : Bool)
  | wipe (place : Nat) (removed : Bool)
  | reconnect (ctx : Ctx) (place : Nat) (active : Supervisor) (answers : ConnectAnswers)
  | restart
  | bootstrap (ctx : Ctx) (answers : ConnectAnswers)

namespace ChannelService

variable (service : ChannelService)

/-- A call of the operator counts once the channel is found. -/
def heard (operator : Bool) {A : Type} (result : ApiResult A) (s : ChannelState) : ChannelState :=
  match result with
  | .error (.NotFound _) => s
  | _ => { s with history := { s.history with operator } }

def step (s : ChannelState) : ChannelStep → ChannelState
  | .connect ctx answers =>
    let connected := service.connect_channel ctx answers s
    heard true connected.1 connected.2
  | .disconnect ctx supervisor =>
    let disconnected := service.disconnect_channel_for_company ctx supervisor s
    heard false disconnected.1 disconnected.2
  | .emit ctx event =>
    let files := if event.logs_out then service.invalidate s.files else s.files
    service.handle_whatsapp_event ctx event { s with files }
  | .work ctx place settled =>
    match s.raw[place]? with
    | none => s
    | some event => service.process_whatsapp_raw_event ctx event
        { s with raw := if settled then s.raw.eraseIdx place else s.raw }
  | .wipe place removed =>
    match s.wipes[place]? with
    | none => s
    | some session_path => service.delayed_wipe session_path removed { s with wipes := s.wipes.eraseIdx place }
  | .reconnect ctx place active answers =>
    match s.reconnects[place]? with
    | none => s
    | some _ => service.scheduled_reconnect ctx active answers
        { s with reconnects := s.reconnects.eraseIdx place }
  | .restart => restart s
  | .bootstrap ctx answers => service.bootstrap_existing_sessions ctx answers s

end ChannelService

section Status

variable (ctx : Ctx) (inner : StoreInner) (channel_id : String)

@[simp] theorem channel_status_set_channel_status (status : String) (connected_at : Option OffsetDateTime) :
    channel_status (set_channel_status ctx inner channel_id status connected_at) channel_id = some status := by
  have hchannels : (set_channel_status ctx inner channel_id status connected_at).channels.lookup channel_id =
      some _ := AList.lookup_insert _
  rw [channel_status, hchannels]
  rfl

@[simp] theorem channel_status_set_qr (status : String) (qr_code_text : Option String)
    (expires_at : OffsetDateTime) :
    channel_status (set_qr inner channel_id status qr_code_text expires_at) channel_id =
      channel_status inner channel_id :=
  rfl

@[simp] theorem channel_status_push_event_inner (event : CommonEvent) :
    channel_status (push_event_inner inner event) channel_id = channel_status inner channel_id :=
  rfl

theorem channel_status_reconcile (is_channel_connected : Bool) :
    channel_status (reconcile_channel_runtime_status ctx inner channel_id is_channel_connected) channel_id =
        channel_status inner channel_id ∨
      channel_status inner channel_id = some "connected" ∧
        channel_status (reconcile_channel_runtime_status ctx inner channel_id is_channel_connected)
          channel_id = some "disconnected" := by
  unfold reconcile_channel_runtime_status
  split
  · exact Or.inl rfl
  · cases hchannel : inner.channels.lookup channel_id with
    | none => exact Or.inl rfl
    | some channel =>
      dsimp only
      split
      · exact Or.inl rfl
      · next hconnected =>
        refine Or.inr ⟨?_, ?_⟩
        · rw [channel_status, hchannel, Option.map_some, not_not.mp hconnected]
        · rw [channel_status_push_event_inner, channel_status, HashMap.lookup_insert_ite, if_pos rfl]
          rfl

end Status

/-- What an event makes of the status of its channel. -/
def SessionEvent.status_after (status : Option String) : SessionEvent → Option String
  | .Connected => some "connected"
  | .Disconnected => if status = some "logged_out" then status else some "disconnected"
  | .LoggedOut _ => some "logged_out"
  | .PairingQrCode _ _ => some "waiting_qr"
  | .Diagnostic event_type payload =>
    if event_type = "channel.connect_failure" then
      if (SessionEvent.Diagnostic event_type payload).logs_out then some "logged_out"
      else some "disconnected"
    else status

theorem channel_status_process_whatsapp_event (app : AppState) (ctx : Ctx) (inner : StoreInner)
    (runtime : ChannelRuntime) (answers : EventAnswers) (event : SessionEvent) :
    channel_status (process_whatsapp_event app ctx inner runtime answers event.event).2 runtime.channel_id =
      event.status_after (channel_status inner runtime.channel_id) := by
  cases event with
  | Connected =>
    exact channel_status_set_channel_status ctx inner runtime.channel_id "connected" (some ctx.now)
  | LoggedOut reason =>
    exact channel_status_set_channel_status ctx inner runtime.channel_id "logged_out" none
  | PairingQrCode code timeout_secs =>
    exact channel_status_set_channel_status ctx inner runtime.channel_id "waiting_qr" none
  | Disconnected =>
    change channel_status (push_event_inner (if channel_status inner runtime.channel_id = some "logged_out"
      then inner else set_channel_status ctx inner runtime.channel_id "disconnected" none) _) _ = _
    rw [channel_status_push_event_inner, SessionEvent.status_after]
    split
    · rfl
    · exact channel_status_set_channel_status ..
  | Diagnostic event_type payload =>
    have hpushed : ∀ inner', channel_status (if event_type = "channel.runtime_stopped" && answers.should_reconnect
        then push_event_inner inner' (runtime_event ctx 3 "channel.reconnect_scheduled" runtime none
          (.object [("delay_secs", .number answers.delay_secs)]))
        else inner') runtime.channel_id = channel_status inner' runtime.channel_id := by
      intro inner'
      split <;> rfl
    refine (hpushed _).trans ?_
    rw [channel_status_push_event_inner, SessionEvent.status_after]
    split
    · next hfailure =>
      rw [channel_status_set_qr, channel_status_set_channel_status, SessionEvent.logs_out, hfailure]
      rw [decide_eq_true rfl, Bool.true_and]
      split <;> rfl
    · rfl

namespace ChannelService

variable (service : ChannelService)

theorem status_process_session_event (ctx : Ctx) (session_path : String) (event : SessionEvent)
    (s : ChannelState) :
    service.status (service.process_session_event ctx session_path event s) =
      event.status_after (service.status s) :=
  channel_status_process_whatsapp_event ..

theorem noted_logs_out {event : SessionEvent} (h : event.logs_out = true) (manager : WhatsappManager) :
    service.noted manager event =
      (manager.set_desired service.channel_id false).mark_needs_session_reset service.channel_id := by
  cases event with
  | Connected => cases h
  | Disconnected => cases h
  | LoggedOut reason => rfl
  | PairingQrCode code timeout_secs => cases h
  | Diagnostic event_type payload => exact if_pos h

/-- Apart from a logout, an event leaves the intent alone, or notes a connection in it. -/
theorem noted_not_logs_out {event : SessionEvent} (h : event.logs_out = false) (manager : WhatsappManager) :
    service.noted manager event = manager ∨
      event = .Connected ∧ service.noted manager event = manager.mark_connected service.channel_id := by
  cases event with
  | Connected => exact Or.inr ⟨rfl, rfl⟩
  | Disconnected => exact Or.inl rfl
  | LoggedOut reason => cases h
  | PairingQrCode code timeout_secs => exact Or.inl rfl
  | Diagnostic event_type payload =>
    refine Or.inl (if_neg ?_)
    rw [h]
    exact Bool.false_ne_true

/-- Scheduling a reconnect only counts the attempt. -/
theorem intent_process_session_event (ctx : Ctx) (session_path : String) (event : SessionEvent)
    (s : ChannelState) :
    ∃ attempts, service.intent (service.process_session_event ctx session_path event s) =
      { (service.noted s.whatsapp event).intent service.channel_id with attempts } := by
  have hwhatsapp : (service.process_session_event ctx session_path event s).whatsapp =
      if event.is_runtime_stopped && (service.noted s.whatsapp event).should_reconnect service.channel_id then
        ((service.noted s.whatsapp event).next_reconnect_delay_secs service.channel_id).2
      else service.noted s.whatsapp event := rfl
  rw [intent, hwhatsapp]
  split
  · exact ⟨_, WhatsappManager.intent_next_reconnect_delay_secs ..⟩
  · exact ⟨_, rfl⟩

theorem recorded_history_frame (history : History) (event : SessionEvent) (respawn : Bool) :
    (recorded_history history event respawn).opened = history.opened ∧
      (recorded_history history event respawn).operator = history.operator := by
  unfold recorded_history
  cases event <;> dsimp only <;> (repeat' split) <;> exact ⟨rfl, rfl⟩

/-- What a call leaves behind that starts nothing. -/
structure Unstarted (s t : ChannelState) : Prop where
  files : t.files = s.files
  raw : t.raw = s.raw
  history : t.history = s.history
  desired : (service.intent t).desired = (service.intent s).desired
  needs_session_reset : (service.intent t).needs_session_reset = (service.intent s).needs_session_reset
  status : service.status t = service.status s ∨
    service.status s = some "connected" ∧ service.status t = some "disconnected"
  has_connected : (service.intent t).has_connected = (service.intent s).has_connected ∨
    (service.intent t).has_connected = true ∧ service.status t = some "connected"

theorem channel_for_company_unstarted (ctx : Ctx) (supervisor : Supervisor) (s : ChannelState) :
    service.Unstarted s (service.channel_for_company ctx supervisor s).2 := by
  have hstatus := channel_status_reconcile ctx s.inner service.channel_id
    (s.whatsapp.is_channel_connected service.channel_id supervisor)
  unfold channel_for_company
  dsimp only
  split
  · exact ⟨rfl, rfl, rfl, rfl, rfl, hstatus, Or.inl rfl⟩
  · exact ⟨rfl, rfl, rfl, rfl, rfl, hstatus, Or.inl rfl⟩

theorem early_answer_unstarted (ctx : Ctx) (answers : ConnectAnswers) (s : ChannelState) :
    service.Unstarted s (service.early_answer ctx answers s).2 := by
  have hcompany := service.channel_for_company_unstarted ctx answers.reconciled s
  unfold early_answer
  revert hcompany
  rcases service.channel_for_company ctx answers.reconciled s with ⟨err | channel, t⟩
  · exact id
  · intro hcompany
    dsimp only at hcompany ⊢
    have hmarked : service.Unstarted s (if service.status t = some "connected" then
        { t with whatsapp := t.whatsapp.mark_connected service.channel_id } else t) := by
      split
      · next hconnected =>
        have hintent := t.whatsapp.intent_mark_connected service.channel_id
        exact { hcompany with
          desired := (congrArg ReconnectIntent.desired hintent).trans hcompany.desired
          needs_session_reset :=
            (congrArg ReconnectIntent.needs_session_reset hintent).trans hcompany.needs_session_reset
          has_connected := Or.inr ⟨congrArg ReconnectIntent.has_connected hintent, hconnected⟩ }
      · exact hcompany
    split
    · exact hcompany
    · generalize (if service.status t = some "connected" then
        { t with whatsapp := t.whatsapp.mark_connected service.channel_id } else t) = marked at hmarked ⊢
      split
      · exact hmarked
      · split
        · exact { hmarked with }
        · exact hmarked

theorem disconnect_channel_spec (ctx : Ctx) (s : ChannelState) :
    (service.disconnect_channel ctx s).2.history = s.history ∧
    (service.disconnect_channel ctx s).2.files = s.files ∧
    (service.disconnect_channel ctx s).2.raw = s.raw ∧
    service.intent (service.disconnect_channel ctx s).2 = { service.intent s with desired := false } ∧
    service.status (service.disconnect_channel ctx s).2 = (service.status s).map fun _ => "disconnected" := by
  have hintent := s.whatsapp.intent_set_desired service.channel_id false
  unfold disconnect_channel
  dsimp only
  split
  · next channel hchannel =>
    refine ⟨rfl, rfl, rfl, hintent, ?_⟩
    rw [status, status, channel_status, channel_status, HashMap.lookup_insert_ite, if_pos rfl, hchannel]
    rfl
  · next hchannel =>
    refine ⟨rfl, rfl, rfl, hintent, ?_⟩
    rw [status, status, channel_status, hchannel]
    rfl

/-- A restored channel has no other intent, and no other status unless it had none. -/
theorem restored_channel_cases (ctx : Ctx) (s : ChannelState) :
    service.restored_channel ctx s = s ∨
      service.status s = none ∧ ∃ inner, service.restored_channel ctx s = { s with inner } ∧
        channel_status inner service.channel_id = some "disconnected" := by
  unfold restored_channel
  split
  · exact Or.inl rfl
  · next hchannel =>
    refine Or.inr ⟨?_, _, rfl, ?_⟩
    · rw [status, channel_status, hchannel]
      rfl
    · rw [create_channel]
      dsimp only [Option.getD_some]
      rw [hchannel]
      dsimp only
      rw [channel_status, HashMap.lookup_insert_ite, if_pos rfl]
      rfl

/-- The session files once dead credentials that are known to be dead are wiped. -/
def files_after_reset (answers : ConnectAnswers) (s : ChannelState) : SessionFiles :=
  if (service.intent s).needs_session_reset ∨ service.status s = some "logged_out" then
    wipe_session_files s.files service.session_path answers.removed
  else s.files

/-- What a call leaves behind that gets as far as starting a session. -/
structure Attempted (answers : ConnectAnswers) (s t : ChannelState) : Prop where
  raw : t.raw = s.raw
  status : service.status t = some "connecting"
  desired : (service.intent t).desired = true
  has_connected : (service.intent t).has_connected = (service.intent s).has_connected
  history : ∃ opened, t.history = { s.history with opened := s.history.opened ++ opened } ∧
    ∀ session ∈ opened, session = open_session (service.files_after_reset answers s) service.session_path
  files : ∀ session, t.files.lookup service.session_path = some session →
    session = open_session (service.files_after_reset answers s) service.session_path

theorem reset_session_spec (ctx : Ctx) (answers : ConnectAnswers) (s : ChannelState) :
    (service.reset_session ctx answers s).raw = s.raw ∧
    (service.reset_session ctx answers s).history = s.history ∧
    (service.reset_session ctx answers s).files = service.files_after_reset answers s ∧
    service.intent (service.reset_session ctx answers s) =
      { service.intent s with needs_session_reset := false } := by
  have htaken : (s.whatsapp.take_needs_session_reset service.channel_id).1 =
      (service.intent s).needs_session_reset := s.whatsapp.take_needs_session_reset_fst _
  have hintent := s.whatsapp.intent_take_needs_session_reset service.channel_id
  unfold reset_session files_after_reset
  dsimp only
  rw [htaken]
  split
  · exact ⟨rfl, rfl, rfl, hintent⟩
  · exact ⟨rfl, rfl, rfl, hintent⟩

theorem start_session_attempted (ctx : Ctx) (answers : ConnectAnswers) (s : ChannelState) :
    service.Attempted answers s (service.start_session ctx answers s).2 := by
  obtain ⟨hraw, hhistory, hfiles, hintent⟩ := service.reset_session_spec ctx answers s
  unfold start_session
  revert hraw hhistory hfiles hintent
  generalize service.reset_session ctx answers s = reset
  intro hraw hhistory hfiles hintent
  obtain ⟨hopened, hkept⟩ := start_channel_opened (reset.whatsapp.set_desired service.channel_id true)
    reset.files service.channel_id service.session_path answers.started answers.start
  have hstarted := intent_start_channel (reset.whatsapp.set_desired service.channel_id true)
    reset.files service.channel_id service.session_path answers.started answers.start
  rw [WhatsappManager.intent_set_desired] at hstarted
  rw [hfiles] at hopened hkept
  constructor
  case raw => exact hraw
  case status => exact channel_status_set_channel_status ctx _ service.channel_id "connecting" none
  case desired => exact congrArg ReconnectIntent.desired hstarted
  case has_connected =>
    exact (congrArg ReconnectIntent.has_connected hstarted).trans
      (congrArg ReconnectIntent.has_connected hintent : (service.intent reset).has_connected = _)
  case history =>
    dsimp only
    rw [hfiles, hhistory]
    exact ⟨_, rfl, fun session hsession => hopened session (Option.mem_toList.mp hsession)⟩
  case files =>
    intro session hsession
    dsimp only at hsession
    rw [hfiles] at hsession
    exact hkept session hsession

/-- A connect is answered at once, or it starts a session from the state that the first
half of the call leaves. -/
theorem connect_channel_cases (ctx : Ctx) (answers : ConnectAnswers) (s : ChannelState) :
    (∃ result, (service.early_answer ctx answers s).1 = some result ∧
      service.connect_channel ctx answers s = (result, (service.early_answer ctx answers s).2)) ∨
    (service.early_answer ctx answers s).1 = none ∧ service.connect_channel ctx answers s =
      service.start_session ctx answers (service.early_answer ctx answers s).2 := by
  unfold connect_channel
  rcases service.early_answer ctx answers s with ⟨_ | result, t⟩
  · exact Or.inr ⟨rfl, rfl⟩
  · exact Or.inl ⟨result, rfl, rfl⟩

end ChannelService

end rustzap.state
