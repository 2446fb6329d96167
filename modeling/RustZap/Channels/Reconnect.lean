import RustZap.Channels.LoggedOut

open collections runs serde_json
open rustzap.error rustzap.eventbus rustzap.models rustzap.whatsapp

namespace rustzap.state

/-- A channel whose session is gone is not stored as connected any more. -/
theorem channel_status_reconciled (ctx : Ctx) (inner : StoreInner) (channel_id : String) :
    channel_status (reconcile_channel_runtime_status ctx inner channel_id false) channel_id ≠
      some "connected" := by
  unfold reconcile_channel_runtime_status
  rw [if_neg Bool.false_ne_true]
  cases hchannel : inner.channels.lookup channel_id with
  | none =>
    dsimp only
    rw [channel_status, hchannel]
    exact (Option.some_ne_none _).symm
  | some channel =>
    dsimp only
    split
    · next hother =>
      rw [channel_status, hchannel]
      exact fun h => hother (Option.some.inj h)
    · rw [channel_status_push_event_inner, channel_status, HashMap.lookup_insert_ite, if_pos rfl]
      have hother : "disconnected" ≠ "connected" := by decide
      exact fun h => hother (Option.some.inj h)

namespace ChannelService

variable (service : ChannelService)

theorem early_answer_unsupervised (ctx : Ctx) (answers : ConnectAnswers) {s : ChannelState}
    (hidle : s.whatsapp.supervisors.lookup service.channel_id = none) :
    service.status (service.early_answer ctx answers s).2 ≠ some "connected" := by
  have hcompany : service.status (service.channel_for_company ctx answers.reconciled s).2 ≠ some "connected" := by
    have hreconciled := channel_status_reconciled ctx s.inner service.channel_id
    have hfalse : s.whatsapp.is_channel_connected service.channel_id answers.reconciled = false := by
      rw [WhatsappManager.is_channel_connected, hidle]
      rfl
    unfold channel_for_company
    rw [hfalse]
    dsimp only
    split <;> exact hreconciled
  unfold early_answer
  revert hcompany
  rcases service.channel_for_company ctx answers.reconciled s with ⟨err | channel, t⟩
  · exact id
  · intro hcompany
    dsimp only at hcompany ⊢
    rw [if_neg fun h => hcompany h.1, if_neg hcompany]
    split
    · exact hcompany
    · split <;> exact hcompany

/-- The only error of the check is that the company has no such channel. -/
theorem channel_for_company_cases (ctx : Ctx) (supervisor : Supervisor) (s : ChannelState) :
    (service.channel_for_company ctx supervisor s).2.whatsapp = s.whatsapp ∧
    ∀ err, (service.channel_for_company ctx supervisor s).1 = .error err →
      err = channel_not_found service.channel_id := by
  unfold channel_for_company
  dsimp only
  split
  · exact ⟨rfl, nofun⟩
  · exact ⟨rfl, fun err h => (Except.error.inj h).symm⟩

theorem early_answer_error {ctx : Ctx} {answers : ConnectAnswers} {s : ChannelState} {err : ApiError}
    (h : (service.early_answer ctx answers s).1 = some (.error err)) :
    err = channel_not_found service.channel_id ∧
      service.intent (service.early_answer ctx answers s).2 = service.intent s := by
  have hcompany := service.channel_for_company_cases ctx answers.reconciled s
  unfold early_answer at h ⊢
  revert h hcompany
  rcases service.channel_for_company ctx answers.reconciled s with ⟨err' | channel, t⟩
  · rintro h ⟨hwhatsapp, herror⟩
    cases h
    exact ⟨herror err rfl, congrArg (fun manager => manager.intent service.channel_id) hwhatsapp⟩
  · intro h _
    dsimp only at h
    generalize (if service.status t = some "connected" then
      { t with whatsapp := t.whatsapp.mark_connected service.channel_id } else t) = marked at h
    split at h
    · cases h
    · split at h
      · cases h
      · split at h <;> cases h

/-- An attempt to start a session is an answer to the operator, also where it fails. -/
theorem heard_start_session (operator : Bool) (ctx : Ctx) (answers : ConnectAnswers) (s : ChannelState) :
    heard operator (service.start_session ctx answers s).1 (service.start_session ctx answers s).2 =
      { (service.start_session ctx answers s).2 with
        history := { (service.start_session ctx answers s).2.history with operator } } := by
  unfold heard
  split
  · next err hresult =>
    unfold start_session at hresult
    dsimp only at hresult
    split at hresult <;> cases hresult
  · rfl

/-- A connection is reported of a channel that is still wanted, if it is wanted at all, and
the runtime of a channel that has been connected does not stop before it has been connected
again after a restart. -/
def HandledInOrder (s : ChannelState) (event : SessionEvent) : Prop :=
  match event with
  | .Connected => s.history.operator = true → (service.intent s).desired = true
  | event => event.is_runtime_stopped = true → s.history.connected = true → s.history.connected_here = true

/-- A step does not part the reconnect intent from what the operator wants. -/
def KeepsIntent (s : ChannelState) : ChannelStep → Prop
  | .connect ctx answers => ∀ qr, (service.early_answer ctx answers s).1 = some (.ok qr) →
      s.history.connected = true → (service.intent s).desired = true
  | .emit _ event => service.enqueues event = false → service.HandledInOrder s event
  | .work _ place _ => ∀ event, s.raw[place]? = some event → service.HandledInOrder s event
  | .bootstrap _ _ =>
    s.history.operator = true ∧ s.whatsapp.supervisors.lookup service.channel_id = none
  | _ => True

/-- How the intent goes with what happened. -/
structure Tracked (s : ChannelState) : Prop where
  stops : ∀ stop ∈ s.history.stops, stop.scheduled = (stop.operator && stop.connected)
  status : service.status s = some "connected" → s.history.connected = true
  has_connected : (service.intent s).has_connected = true → s.history.connected = true
  connected_here : s.history.connected_here = true → (service.intent s).has_connected = true
  desired : (service.intent s).desired = true → s.history.operator = true
  wanted : s.history.operator = true → (service.intent s).has_connected = true →
    (service.intent s).desired = true

variable {service} {s t : ChannelState}

/-- A channel that is still stored as connected after the reconciliation was so before. -/
theorem Unstarted.connected (h : service.Unstarted s t) (hconnected : service.status t = some "connected") :
    service.status s = some "connected" := by
  rcases h.status with hsame | ⟨hbefore, -⟩
  · rw [← hsame, hconnected]
  · exact hbefore

/-- A call that starts nothing keeps the intent, and may note a connection that the store
knows of. -/
theorem Tracked.unstarted (h : service.Tracked s) (hu : service.Unstarted s t)
    (hwanted : (service.intent t).has_connected = (service.intent s).has_connected ∨
      (service.intent s).desired = true) : service.Tracked t := by
  constructor
  case stops =>
    rw [hu.history]
    exact h.stops
  case status =>
    intro hconnected
    rw [hu.history]
    exact h.status (hu.connected hconnected)
  case has_connected =>
    intro hhas
    rw [hu.history]
    rcases hu.has_connected with hsame | ⟨-, hconnected⟩
    · exact h.has_connected (hsame ▸ hhas)
    · exact h.status (hu.connected hconnected)
  case connected_here =>
    rw [hu.history]
    intro hhere
    rcases hu.has_connected with hsame | ⟨hhas, -⟩
    · rw [hsame]
      exact h.connected_here hhere
    · exact hhas
  case desired =>
    rw [hu.desired, hu.history]
    exact h.desired
  case wanted =>
    rw [hu.desired, hu.history]
    intro hoperator hhas
    rcases hwanted with hsame | hdesired
    · exact h.wanted hoperator (hsame ▸ hhas)
    · exact hdesired

/-- An attempt to start a session leaves a channel that is wanted. -/
theorem Tracked.attempted (h : service.Tracked s) {u : ChannelState} {answers : ConnectAnswers}
    (hu : service.Unstarted s u) (ha : service.Attempted answers u t) {operator : Bool}
    (hoperator : operator = true) :
    service.Tracked { t with history := { t.history with operator } } := by
  obtain ⟨opened, hhistory, -⟩ := ha.history
  have hsame : t.history = { s.history with opened := s.history.opened ++ opened } := by
    rw [hhistory, hu.history]
  constructor
  case stops =>
    rw [hsame]
    exact h.stops
  case status =>
    intro hstatus
    exact absurd (Option.some.inj (ha.status.symm.trans hstatus)) (by decide)
  case has_connected =>
    intro hhas
    rw [hsame]
    have hhas' : (service.intent u).has_connected = true := ha.has_connected.symm.trans hhas
    rcases hu.has_connected with hkept | ⟨-, hstatus⟩
    · exact h.has_connected (hkept.symm.trans hhas')
    · exact h.status (hu.connected hstatus)
  case connected_here =>
    intro hhere
    rw [hsame] at hhere
    refine ha.has_connected.trans ?_
    rcases hu.has_connected with hkept | ⟨hhas, -⟩
    · exact hkept.trans (h.connected_here hhere)
    · exact hhas
  case desired => exact fun _ => hoperator
  case wanted => exact fun _ _ => ha.desired

theorem Tracked.ask (h : service.Tracked s)
    (hwanted : (service.intent s).has_connected = true → (service.intent s).desired = true) :
    service.Tracked { s with history := { s.history with operator := true } } :=
  { h with desired := fun _ => rfl, wanted := fun _ => hwanted }

theorem Tracked.connect (h : service.Tracked s) {ctx : Ctx} {answers : ConnectAnswers}
    (hok : service.KeepsIntent s (.connect ctx answers)) :
    service.Tracked (service.step s (.connect ctx answers)) := by
  change service.Tracked (heard true (service.connect_channel ctx answers s).1
    (service.connect_channel ctx answers s).2)
  have hu := service.early_answer_unstarted ctx answers s
  rcases service.connect_channel_cases ctx answers s with ⟨result, hearly, hconnect⟩ | ⟨-, hconnect⟩
  · rw [hconnect]
    cases result with
    | error err =>
      obtain ⟨rfl, hintent⟩ := service.early_answer_error hearly
      exact h.unstarted hu (Or.inl (congrArg ReconnectIntent.has_connected hintent))
    | ok qr =>
      have hdesired : s.history.connected = true → (service.intent s).desired = true := hok qr hearly
      have hnoted := hu.has_connected.imp_right fun hconnected => hdesired (h.status (hu.connected hconnected.2))
      have ht := h.unstarted hu hnoted
      refine ht.ask fun hhas => ?_
      rw [hu.desired]
      exact hdesired (hu.history ▸ ht.has_connected hhas)
  · rw [hconnect, heard_start_session]
    exact h.attempted hu (service.start_session_attempted ctx answers _) rfl

/-- A connect that is not the operator's, of a channel that the operator wants. -/
theorem Tracked.connect_wanted (h : service.Tracked s) (ctx : Ctx) (answers : ConnectAnswers)
    (hoperator : s.history.operator = true)
    (hnoted : (service.intent (service.early_answer ctx answers s).2).has_connected =
      (service.intent s).has_connected ∨ (service.intent s).desired = true) :
    service.Tracked (service.connect_channel ctx answers s).2 := by
  have hu := service.early_answer_unstarted ctx answers s
  rcases service.connect_channel_cases ctx answers s with ⟨result, -, hconnect⟩ | ⟨-, hconnect⟩
  · rw [hconnect]
    exact h.unstarted hu hnoted
  · rw [hconnect]
    have hattempted := service.start_session_attempted ctx answers (service.early_answer ctx answers s).2
    revert hattempted
    generalize (service.start_session ctx answers (service.early_answer ctx answers s).2).2 = t
    intro hattempted
    obtain ⟨opened, hhistory, -⟩ := hattempted.history
    have hsame := congrArg History.operator hhistory
    have hkept := congrArg History.operator hu.history
    exact h.attempted hu hattempted (hsame.trans (hkept.trans hoperator))

theorem Tracked.disconnect (h : service.Tracked s) (ctx : Ctx) (supervisor : Supervisor) :
    service.Tracked (service.step s (.disconnect ctx supervisor)) := by
  change service.Tracked (heard false (service.disconnect_channel_for_company ctx supervisor s).1
    (service.disconnect_channel_for_company ctx supervisor s).2)
  have hcompany := service.channel_for_company_unstarted ctx supervisor s
  obtain ⟨hwhatsapp, herror⟩ := service.channel_for_company_cases ctx supervisor s
  have ht := h.unstarted hcompany (Or.inl (congrArg
    (fun manager => (manager.intent service.channel_id).has_connected) hwhatsapp))
  unfold disconnect_channel_for_company
  revert ht herror
  rcases service.channel_for_company ctx supervisor s with ⟨err | channel, t⟩
  · intro herror ht
    cases herror err rfl
    exact ht
  · intro _ ht
    obtain ⟨hhistory, -, -, hintent, hstatus⟩ := service.disconnect_channel_spec ctx t
    have hdesired := congrArg ReconnectIntent.desired hintent
    have hhas := congrArg ReconnectIntent.has_connected hintent
    constructor
    case stops =>
      change ∀ stop ∈ (service.disconnect_channel ctx t).2.history.stops, _
      rw [hhistory]
      exact ht.stops
    case status =>
      intro hconnected
      obtain ⟨_, -, hdisconnected⟩ := Option.map_eq_some_iff.mp (hstatus.symm.trans hconnected)
      exact absurd hdisconnected (by decide)
    case has_connected =>
      intro hconnected
      have hbefore := ht.has_connected (hhas.symm.trans hconnected)
      change (service.disconnect_channel ctx t).2.history.connected = true
      rw [hhistory, hbefore]
    case connected_here =>
      intro hhere
      change (service.disconnect_channel ctx t).2.history.connected_here = true at hhere
      rw [hhistory] at hhere
      exact hhas.trans (ht.connected_here hhere)
    case desired => exact fun h => absurd (hdesired.symm.trans h) Bool.false_ne_true
    case wanted => exact fun h => absurd h Bool.false_ne_true

theorem SessionEvent.status_after_connected {event : SessionEvent} {status : Option String}
    (h : event.status_after status = some "connected") : event = .Connected ∨ status = some "connected" := by
  cases event with
  | Connected => exact Or.inl rfl
  | Disconnected =>
    rw [SessionEvent.status_after] at h
    split at h
    · exact Or.inr h
    · exact absurd (Option.some.inj h) (by decide)
  | LoggedOut reason => exact absurd (Option.some.inj h) (by decide)
  | PairingQrCode code timeout_secs => exact absurd (Option.some.inj h) (by decide)
  | Diagnostic event_type payload =>
    rw [SessionEvent.status_after] at h
    split at h
    · split at h
      · exact absurd (Option.some.inj h) (by decide)
      · exact absurd (Option.some.inj h) (by decide)
    · exact Or.inr h

/-- A logout shows in the status, and no decision about a reconnect is made then. -/
theorem SessionEvent.of_logs_out {event : SessionEvent} (h : event.logs_out = true) :
    event.is_runtime_stopped = false ∧ ∀ status, event.status_after status = some "logged_out" := by
  cases event with
  | Connected => cases h
  | Disconnected => cases h
  | LoggedOut reason => exact ⟨rfl, fun _ => rfl⟩
  | PairingQrCode code timeout_secs => cases h
  | Diagnostic event_type payload =>
    have hfailure : event_type = "channel.connect_failure" := by
      rw [SessionEvent.logs_out, Bool.and_eq_true, decide_eq_true_eq] at h
      exact h.1
    constructor
    · rw [hfailure]
      rfl
    · intro status
      rw [SessionEvent.status_after, if_pos hfailure, if_pos h]

theorem recorded_history_logs_out {event : SessionEvent} (h : event.logs_out = true) (history : History)
    (respawn : Bool) : recorded_history history event respawn =
      { history with connected := false, connected_here := false } := by
  have hstops := (SessionEvent.of_logs_out h).1
  cases event with
  | Connected => cases h
  | Disconnected => cases h
  | LoggedOut reason => rfl
  | PairingQrCode code timeout_secs => cases h
  | Diagnostic event_type payload =>
    unfold recorded_history
    rw [if_neg (Bool.eq_false_iff.mp hstops)]
    exact if_pos h

/-- An event that reports neither a connection nor a logout is at most the occasion of a
decision. -/
theorem recorded_history_quiet {event : SessionEvent} (hlogs_out : event.logs_out = false)
    (hconnected : event ≠ .Connected) (history : History) (respawn : Bool) :
    recorded_history history event respawn = { history with
      stops := history.stops ++ if event.is_runtime_stopped then
          [{ scheduled := respawn, operator := history.operator, connected := history.connected }]
        else [] } := by
  have hstops : ∀ stop : Stop, (if event.is_runtime_stopped then
      { history with stops := history.stops ++ [stop] } else history : History) =
      { history with stops := history.stops ++ if event.is_runtime_stopped then [stop] else [] } := by
    intro stop
    split
    · rfl
    · rw [List.append_nil]
  cases event with
  | Connected => exact absurd rfl hconnected
  | LoggedOut reason => cases hlogs_out
  | Disconnected => exact hstops _
  | PairingQrCode code timeout_secs => exact hstops _
  | Diagnostic event_type payload =>
    rw [← hstops]
    exact if_neg (Bool.eq_false_iff.mp hlogs_out)

theorem Tracked.quiet (h : service.Tracked s) {event : SessionEvent} {ctx : Ctx} {session_path : String}
    (hlogs_out : event.logs_out = false) (hconnected : event ≠ .Connected)
    (hstopped : event.is_runtime_stopped = true → s.history.connected = true →
      s.history.connected_here = true) :
    service.Tracked (service.process_session_event ctx session_path event s) := by
  have hnoted : service.noted s.whatsapp event = s.whatsapp :=
    (service.noted_not_logs_out hlogs_out s.whatsapp).resolve_right fun hnoted => hconnected hnoted.1
  obtain ⟨attempts, hintent⟩ := service.intent_process_session_event ctx session_path event s
  rw [hnoted] at hintent
  have hdesired := congrArg ReconnectIntent.desired hintent
  have hhas := congrArg ReconnectIntent.has_connected hintent
  have hhistory : (service.process_session_event ctx session_path event s).history =
      recorded_history s.history event
        (event.is_runtime_stopped && (service.noted s.whatsapp event).should_reconnect service.channel_id) := rfl
  rw [recorded_history_quiet hlogs_out hconnected, hnoted, WhatsappManager.should_reconnect_eq] at hhistory
  constructor
  case stops =>
    rw [hhistory]
    intro stop hstop
    rcases List.mem_append.mp hstop with hold | hnew
    · exact h.stops stop hold
    · split at hnew
      · next hruntime_stopped =>
        cases List.mem_singleton.mp hnew
        -- the two flags of the intent say what the decision should go by
        dsimp only
        rw [hruntime_stopped, Bool.true_and, Bool.eq_iff_iff, Bool.and_eq_true, Bool.and_eq_true]
        constructor
        · rintro ⟨hdesired, hhas⟩
          exact ⟨h.desired hdesired, h.has_connected hhas⟩
        · rintro ⟨hoperator, hconnected⟩
          have hhas := h.connected_here (hstopped hruntime_stopped hconnected)
          exact ⟨h.wanted hoperator hhas, hhas⟩
      · cases hnew
  case status =>
    intro hstatus
    rw [status_process_session_event] at hstatus
    rw [hhistory]
    exact h.status ((SessionEvent.status_after_connected hstatus).resolve_left hconnected)
  case has_connected =>
    intro hhas'
    rw [hhistory]
    exact h.has_connected (hhas.symm.trans hhas')
  case connected_here =>
    intro hhere
    rw [hhistory] at hhere
    exact hhas.trans (h.connected_here hhere)
  case desired =>
    intro hdesired'
    rw [hhistory]
    exact h.desired (hdesired.symm.trans hdesired')
  case wanted =>
    intro hoperator hhas'
    rw [hhistory] at hoperator
    exact hdesired.trans (h.wanted hoperator (hhas.symm.trans hhas'))

/-- A logout ends the intent and what it rested on. -/
theorem Tracked.logged_out (h : service.Tracked s) {event : SessionEvent} {ctx : Ctx} {session_path : String}
    (hlogs_out : event.logs_out = true) :
    service.Tracked (service.process_session_event ctx session_path event s) := by
  obtain ⟨attempts, hintent⟩ := service.intent_process_session_event ctx session_path event s
  rw [service.noted_logs_out hlogs_out, WhatsappManager.intent_mark_needs_session_reset,
    WhatsappManager.intent_set_desired] at hintent
  have hdesired := congrArg ReconnectIntent.desired hintent
  have hhas := congrArg ReconnectIntent.has_connected hintent
  have hhistory : (service.process_session_event ctx session_path event s).history =
      { s.history with connected := false, connected_here := false } :=
    recorded_history_logs_out hlogs_out ..
  constructor
  case stops =>
    rw [hhistory]
    exact h.stops
  case status =>
    intro hstatus
    rw [status_process_session_event, (SessionEvent.of_logs_out hlogs_out).2] at hstatus
    exact absurd (Option.some.inj hstatus) (by decide)
  case has_connected => exact fun h => absurd (hhas.symm.trans h) Bool.false_ne_true
  case connected_here =>
    rw [hhistory]
    exact fun h => absurd h Bool.false_ne_true
  case desired => exact fun h => absurd (hdesired.symm.trans h) Bool.false_ne_true
  case wanted => exact fun _ h => absurd (hhas.symm.trans h) Bool.false_ne_true

theorem Tracked.connected (h : service.Tracked s) {ctx : Ctx} {session_path : String}
    (hwanted : s.history.operator = true → (service.intent s).desired = true) :
    service.Tracked (service.process_session_event ctx session_path .Connected s) := by
  obtain ⟨attempts, hintent⟩ := service.intent_process_session_event ctx session_path .Connected s
  have hnoted : service.noted s.whatsapp .Connected = s.whatsapp.mark_connected service.channel_id := rfl
  rw [hnoted, WhatsappManager.intent_mark_connected] at hintent
  have hdesired := congrArg ReconnectIntent.desired hintent
  have hhas := congrArg ReconnectIntent.has_connected hintent
  constructor
  case stops => exact h.stops
  case status => exact fun _ => rfl
  case has_connected => exact fun _ => rfl
  case connected_here => exact fun _ => hhas
  case desired => exact fun hdesired' => h.desired (hdesired.symm.trans hdesired')
  case wanted => exact fun hoperator _ => hdesired.trans (hwanted hoperator)

theorem Tracked.process (h : service.Tracked s) {ctx : Ctx} {session_path : String} {event : SessionEvent}
    (hok : service.HandledInOrder s event) :
    service.Tracked (service.process_session_event ctx session_path event s) := by
  cases hlogs_out : event.logs_out with
  | true => exact h.logged_out hlogs_out
  | false =>
    cases event with
    | Connected => exact h.connected hok
    | Disconnected => exact h.quiet hlogs_out nofun hok
    | LoggedOut reason => cases hlogs_out
    | PairingQrCode code timeout_secs => exact h.quiet hlogs_out nofun hok
    | Diagnostic event_type payload => exact h.quiet hlogs_out nofun hok

theorem Tracked.step (h : service.Tracked s) {label : ChannelStep} (hok : service.KeepsIntent s label) :
    service.Tracked (service.step s label) := by
  cases label with
  | connect ctx answers => exact h.connect hok
  | disconnect ctx supervisor => exact h.disconnect ctx supervisor
  | emit ctx event =>
    rw [ChannelService.step, handle_whatsapp_event]
    split
    · exact { h with }
    · next hinline =>
      have hs : service.Tracked { s with
          files := if event.logs_out then service.invalidate s.files else s.files } := { h with }
      exact hs.process (hok (Bool.eq_false_iff.mpr hinline))
  | work ctx place settled =>
    dsimp only [ChannelService.step]
    split
    · exact h
    · next event hevent =>
      have hs : service.Tracked { s with raw := if settled then s.raw.eraseIdx place else s.raw } := { h with }
      exact hs.process (hok event hevent)
  | wipe place removed =>
    dsimp only [ChannelService.step]
    split
    · exact h
    · unfold delayed_wipe
      split
      · exact { h with }
      · exact { h with }
  | reconnect ctx place active answers =>
    dsimp only [ChannelService.step]
    have hs : service.Tracked { s with reconnects := s.reconnects.eraseIdx place } := { h with }
    split
    · exact h
    · unfold scheduled_reconnect
      split
      · exact hs
      · next hdue =>
        rw [Bool.or_eq_true, not_or, Bool.not_eq_true', Bool.not_eq_false, WhatsappManager.is_desired_eq] at hdue
        have hdesired : (service.intent s).desired = true := hdue.1
        exact hs.connect_wanted ctx answers (h.desired hdesired) (Or.inr hdesired)
  | restart =>
    have hintent : (service.intent (ChannelService.restart s)).has_connected = false ∧
        (service.intent (ChannelService.restart s)).desired = false := ⟨rfl, rfl⟩
    refine ⟨h.stops, h.status, fun hconnected => ?_, fun hhere => ?_, fun hdesired => ?_, fun _ hconnected => ?_⟩
    · cases hintent.1.symm.trans hconnected
    · cases hhere
    · cases hintent.2.symm.trans hdesired
    · cases hintent.1.symm.trans hconnected
  | bootstrap ctx answers =>
    obtain ⟨hoperator, hidle⟩ := hok
    rw [ChannelService.step, bootstrap_existing_sessions]
    split
    · exact h
    · have hfresh : ∀ t : ChannelState, t.whatsapp = s.whatsapp →
          (service.intent (service.early_answer ctx answers t).2).has_connected =
            (service.intent t).has_connected := by
        intro t ht
        have hunsupervised := service.early_answer_unsupervised ctx answers (ht.symm ▸ hidle)
        exact (service.early_answer_unstarted ctx answers t).has_connected.resolve_right
          fun hconnected => hunsupervised hconnected.2
      rcases service.restored_channel_cases ctx s with hsame | ⟨-, inner, hrestored, hstatus⟩
      · rw [hsame]
        exact h.connect_wanted ctx answers hoperator (Or.inl (hfresh s rfl))
      · have hs : service.Tracked { s with inner } := { h with
          status := fun hconnected => absurd (Option.some.inj (hstatus.symm.trans hconnected)) (by decide) }
        rw [hrestored]
        exact hs.connect_wanted ctx answers hoperator (Or.inl (hfresh { s with inner } rfl))

end ChannelService

/-- In a run in which no step parts the intent from what the operator wants, a reconnect is
scheduled exactly where the operator's last call is a connect and the channel has been
connected since its last logout. -/
theorem reconnect_scheduled_iff (service : ChannelService) (inner : StoreInner)
    (hnew : channel_status inner service.channel_id ≠ some "connected") {labels : List ChannelStep}
    {s : ChannelState} (hrun : Run (Guarded (OfFun service.step) service.KeepsIntent) (.start inner) labels s) :
    ∀ stop ∈ s.history.stops, stop.scheduled = (stop.operator && stop.connected) := by
  have hstep : ∀ s label t, service.Tracked s → Guarded (OfFun service.step) service.KeepsIntent s label t →
      service.Tracked t := by
    rintro s label t h ⟨hok, rfl⟩
    exact h.step hok
  have hstart : service.Tracked (.start inner) := ⟨nofun, fun h => absurd h hnew, nofun, nofun, nofun, nofun⟩
  exact (Run.invariant hstep hrun hstart).stops

namespace sample

def runtime_stopped : SessionEvent :=
  .Diagnostic "channel.runtime_stopped" (.object [("reason", .string "bot_task_finished")])

/-- The operator connects, and the session is paired. -/
def paired_up : List ChannelStep :=
  [.connect (ctx 1 "d") connects, .emit (ctx 2 "e") .Connected]

/-- The process starts again, and the first attempt to connect dies. -/
def restarted_up : List ChannelStep :=
  paired_up ++ [.restart, .bootstrap (ctx 3 "f") connects, .emit (ctx 4 "g") .Disconnected,
    .emit (ctx 5 "h") runtime_stopped]

end sample

/-- Without a restart, the channel is started again. -/
theorem connected_channel_retried :
    let lived := sample.lived (sample.channels false)
      (sample.paired_up ++ [.emit (sample.ctx 3 "f") sample.runtime_stopped])
    lived.history.stops = [{ scheduled := true, operator := true, connected := true }] ∧
      ∀ stop ∈ lived.history.stops, stop.scheduled = (stop.operator && stop.connected) := by
  have hconnect : (sample.channels false).KeepsIntent (.start sample.channel_created)
      (.connect (sample.ctx 1 "d") sample.connects) := fun _ _ hconnected => absurd hconnected (by decide)
  have hreported : (sample.channels false).KeepsIntent
      (sample.lived (sample.channels false) [.connect (sample.ctx 1 "d") sample.connects])
      (.emit (sample.ctx 2 "e") .Connected) := fun _ _ => by decide
  have hstopped : (sample.channels false).KeepsIntent (sample.lived (sample.channels false) sample.paired_up)
      (.emit (sample.ctx 3 "f") sample.runtime_stopped) := fun _ _ _ => by decide
  refine ⟨by decide, ?_⟩
  exact reconnect_scheduled_iff (sample.channels false) sample.channel_created (by decide)
    (.cons ⟨hconnect, rfl⟩ (.cons ⟨hreported, rfl⟩ (.cons ⟨hstopped, rfl⟩ (.nil _))))

/-- The channel was connected when the process restarted, and it is not retried. -/
theorem restarted_channel_not_retried :
    ¬ ∀ (service : ChannelService) (inner : StoreInner) (labels : List ChannelStep) (s : ChannelState),
      channel_status inner service.channel_id ≠ some "connected" →
      Run (OfFun service.step) (.start inner) labels s →
        ∀ stop ∈ s.history.stops, stop.scheduled = (stop.operator && stop.connected) := by
  intro hclaim
  have hstops : (sample.lived (sample.channels false) sample.restarted_up).history.stops =
      [{ scheduled := false, operator := true, connected := true }] := by decide
  have hscheduled := hclaim (sample.channels false) sample.channel_created sample.restarted_up _ (by decide)
    (sample.run_lived _ _) { scheduled := false, operator := true, connected := true }
    (by rw [hstops]; decide)
  cases hscheduled

end rustzap.state
