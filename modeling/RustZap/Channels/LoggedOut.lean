import RustZap.Lib.Runs
import RustZap.Channels.Lifecycle
import RustZap.State.Operations

open collections runs serde_json
open rustzap.error rustzap.eventbus rustzap.models rustzap.whatsapp

namespace rustzap.state

/-- An event that writes another status over `logged_out`. -/
def SessionEvent.overwrites_status (event : SessionEvent) : Prop :=
  event.status_after (some "logged_out") ≠ some "logged_out"

/-- A report of a logout waits for a worker. -/
def ChannelState.LogoutQueued (s : ChannelState) : Prop :=
  ∃ event ∈ s.raw, event.logs_out = true

namespace ChannelService

variable (service : ChannelService)

/-- The session file holds credentials that a logout has made invalid. -/
def DeadCredentials (s : ChannelState) : Prop :=
  (open_session s.files service.session_path).invalidated = true

instance (s : ChannelState) : Decidable (service.DeadCredentials s) :=
  inferInstanceAs (Decidable (_ = true))

/-- What the next connect goes by. -/
def LogoutMarked (s : ChannelState) : Prop :=
  (service.intent s).needs_session_reset = true ∨ service.status s = some "logged_out"

/-- While there are dead credentials on disk, a step does not lose the last trace of the
logout: neither the persisted status nor the flag in memory goes before something else
remembers, and a connect does not come before the report is handled. -/
def KeepsTrace (s : ChannelState) (label : ChannelStep) : Prop :=
  service.DeadCredentials s →
    match label with
    | .connect _ answers | .reconnect _ _ _ answers | .bootstrap _ answers =>
      (s.LogoutQueued → service.LogoutMarked s) ∧ answers.removed = true
    | .disconnect _ _ => service.status s = some "logged_out" →
      (service.intent s).needs_session_reset = true ∨ s.LogoutQueued
    | .emit _ event => service.enqueues event = false → event.overwrites_status →
      service.status s = some "logged_out" →
        (service.intent s).needs_session_reset = true ∨ s.LogoutQueued
    | .work _ place _ => ∀ event, s.raw[place]? = some event → event.overwrites_status →
      service.status s = some "logged_out" →
        (service.intent s).needs_session_reset = true ∨ s.LogoutQueued
    | .restart => (service.intent s).needs_session_reset = true →
      service.status s = some "logged_out" ∨ s.LogoutQueued
    | .wipe _ _ => True

/-- No dead session was opened, and a dead session is known to be dead. -/
structure Remembered (s : ChannelState) : Prop where
  opened : ∀ session ∈ s.history.opened, session.invalidated = false
  known : service.DeadCredentials s → service.LogoutMarked s ∨ s.LogoutQueued

variable {service} {s t : ChannelState}

/-- A step that touches neither the files nor what remembers a logout. -/
theorem Remembered.same (h : service.Remembered s) (hopened : t.history.opened = s.history.opened)
    (hfiles : t.files = s.files) (hraw : t.raw = s.raw)
    (hflag : (service.intent t).needs_session_reset = (service.intent s).needs_session_reset)
    (hstatus : service.status s = some "logged_out" → service.status t = some "logged_out") :
    service.Remembered t where
  opened := by
    rw [hopened]
    exact h.opened
  known := by
    intro hdead
    rw [DeadCredentials, hfiles] at hdead
    rw [LogoutMarked, ChannelState.LogoutQueued, hflag, hraw]
    rcases h.known hdead with (hmarked | hmarked) | hqueued
    · exact Or.inl (Or.inl hmarked)
    · exact Or.inl (Or.inr (hstatus hmarked))
    · exact Or.inr hqueued

theorem Unstarted.status_logged_out (h : service.Unstarted s t)
    (hlogged_out : service.status s = some "logged_out") : service.status t = some "logged_out" := by
  rcases h.status with hsame | ⟨hconnected, -⟩
  · rw [hsame, hlogged_out]
  · rw [hlogged_out] at hconnected
    exact absurd hconnected (by decide)

theorem Unstarted.remembered (hu : service.Unstarted s t) (h : service.Remembered s) : service.Remembered t :=
  h.same (congrArg History.opened hu.history) hu.files hu.raw hu.needs_session_reset hu.status_logged_out

/-- What is opened after the reset is alive, if the reset goes by a trace of the logout
and removes the file. -/
theorem open_session_after_reset {answers : ConnectAnswers}
    (hmarked : service.DeadCredentials s → service.LogoutMarked s ∧ answers.removed = true) :
    (open_session (service.files_after_reset answers s) service.session_path).invalidated = false := by
  by_cases hdead : service.DeadCredentials s
  · obtain ⟨hmarked, hremoved⟩ := hmarked hdead
    have hreset : service.files_after_reset answers s =
        wipe_session_files s.files service.session_path answers.removed := if_pos hmarked
    rw [hreset, wipe_session_files, if_pos hremoved, open_session,
      HashMap.lookup_erase_ite, if_pos rfl]
    rfl
  · rw [files_after_reset]
    split
    · rw [wipe_session_files]
      split
      · rw [open_session, HashMap.lookup_erase_ite, if_pos rfl]
        rfl
      · exact Bool.eq_false_iff.mpr hdead
    · exact Bool.eq_false_iff.mpr hdead

theorem Remembered.connect (h : service.Remembered s) {ctx : Ctx} {answers : ConnectAnswers}
    (hok : service.DeadCredentials s →
      (s.LogoutQueued → service.LogoutMarked s) ∧ answers.removed = true) :
    service.Remembered (service.connect_channel ctx answers s).2 := by
  have hu := service.early_answer_unstarted ctx answers s
  rcases service.connect_channel_cases ctx answers s with ⟨result, -, hconnect⟩ | ⟨-, hconnect⟩
  · rw [hconnect]
    exact hu.remembered h
  · rw [hconnect]
    revert hu
    generalize (service.early_answer ctx answers s).2 = u
    intro hu
    have hstarted := service.start_session_attempted ctx answers u
    have halive : (open_session (service.files_after_reset answers u) service.session_path).invalidated =
        false := by
      refine open_session_after_reset fun hdead => ?_
      have hdead' : service.DeadCredentials s := by
        rw [DeadCredentials, hu.files] at hdead
        exact hdead
      obtain ⟨hqueue, hremoved⟩ := hok hdead'
      refine ⟨?_, hremoved⟩
      rcases (h.known hdead').elim id hqueue with hflag | hlogged_out
      · exact Or.inl (hu.needs_session_reset.trans hflag)
      · exact Or.inr (hu.status_logged_out hlogged_out)
    constructor
    case opened =>
      intro session hsession
      obtain ⟨opened, hhistory, hopened⟩ := hstarted.history
      rw [hhistory] at hsession
      rcases List.mem_append.mp hsession with hold | hnew
      · rw [hu.history] at hold
        exact h.opened session hold
      · rw [hopened session hnew]
        exact halive
    case known =>
      intro hdead
      rw [DeadCredentials, open_session] at hdead
      cases hfile : (service.start_session ctx answers u).2.files.lookup service.session_path with
      | none =>
        rw [hfile] at hdead
        cases hdead
      | some session =>
        rw [hfile, Option.getD_some, hstarted.files session hfile, halive] at hdead
        cases hdead

/-- Handling an event remembers the logout that it reports, and otherwise what there is to
remember, unless it writes over the status with nothing else left. -/
theorem remembered_process {ctx : Ctx} {session_path : String} {event : SessionEvent}
    (hopened : ∀ session ∈ s.history.opened, session.invalidated = false)
    (hknown : event.logs_out = false → service.DeadCredentials s → service.LogoutMarked s ∨ s.LogoutQueued)
    (hok : event.logs_out = false → service.DeadCredentials s → event.overwrites_status →
      service.status s = some "logged_out" →
        (service.intent s).needs_session_reset = true ∨ s.LogoutQueued) :
    service.Remembered (service.process_session_event ctx session_path event s) := by
  obtain ⟨attempts, hintent⟩ := service.intent_process_session_event ctx session_path event s
  have hflag := congrArg ReconnectIntent.needs_session_reset hintent
  constructor
  case opened =>
    intro session hsession
    have hframe : session ∈ s.history.opened := (recorded_history_frame s.history event _).1 ▸ hsession
    exact hopened session hframe
  case known =>
    intro hdead
    cases hlogs_out : event.logs_out with
    | true =>
      rw [service.noted_logs_out hlogs_out, WhatsappManager.intent_mark_needs_session_reset] at hflag
      exact Or.inl (Or.inl hflag)
    | false =>
      have hkept : ((service.noted s.whatsapp event).intent service.channel_id).needs_session_reset =
          (service.intent s).needs_session_reset := by
        rcases service.noted_not_logs_out hlogs_out s.whatsapp with hsame | ⟨-, hmarked⟩
        · rw [hsame]
          rfl
        · rw [hmarked, WhatsappManager.intent_mark_connected]
          rfl
      have hflagged : (service.intent s).needs_session_reset = true →
          service.LogoutMarked (service.process_session_event ctx session_path event s) :=
        fun h => Or.inl (hflag.trans (hkept.trans h))
      rcases hknown hlogs_out hdead with (hmarked | hlogged_out) | hqueued
      · exact Or.inl (hflagged hmarked)
      · by_cases hoverwrites : event.overwrites_status
        · exact (hok hlogs_out hdead hoverwrites hlogged_out).imp hflagged id
        · refine Or.inl (Or.inr ?_)
          rw [status_process_session_event, hlogged_out]
          exact not_not.mp hoverwrites
      · exact Or.inr hqueued

theorem Remembered.disconnect (h : service.Remembered s) {ctx : Ctx} {supervisor : Supervisor}
    (hok : service.DeadCredentials s → service.status s = some "logged_out" →
      (service.intent s).needs_session_reset = true ∨ s.LogoutQueued) :
    service.Remembered (service.disconnect_channel_for_company ctx supervisor s).2 := by
  have hcompany := service.channel_for_company_unstarted ctx supervisor s
  unfold disconnect_channel_for_company
  revert hcompany
  rcases service.channel_for_company ctx supervisor s with ⟨err | channel, t⟩
  · exact fun hcompany => hcompany.remembered h
  · intro hcompany
    dsimp only at hcompany ⊢
    obtain ⟨hhistory, hfiles, hraw, hintent, -⟩ := service.disconnect_channel_spec ctx t
    have hflag : (service.intent (service.disconnect_channel ctx t).2).needs_session_reset =
        (service.intent t).needs_session_reset := by
      rw [hintent]
    constructor
    case opened =>
      rw [hhistory, hcompany.history]
      exact h.opened
    case known =>
      intro hdead
      rw [DeadCredentials, hfiles, hcompany.files] at hdead
      rw [LogoutMarked, ChannelState.LogoutQueued, hflag, hraw, hcompany.needs_session_reset, hcompany.raw]
      rcases h.known hdead with (hmarked | hlogged_out) | hqueued
      · exact Or.inl (Or.inl hmarked)
      · exact (hok hdead hlogged_out).imp Or.inl id
      · exact Or.inr hqueued

/-- A wipe can only make an end of dead credentials. -/
theorem Remembered.wipe (h : service.Remembered s) {session_path : String} {removed : Bool} :
    service.Remembered (service.delayed_wipe session_path removed s) := by
  unfold delayed_wipe
  split
  · exact h
  · refine ⟨h.opened, fun hdead => h.known ?_⟩
    rw [DeadCredentials, wipe_session_files] at hdead
    split at hdead
    · rw [open_session, HashMap.lookup_erase_ite] at hdead
      split at hdead
      · cases hdead
      · exact hdead
    · exact hdead

theorem Remembered.emit (h : service.Remembered s) {ctx : Ctx} {event : SessionEvent}
    (hok : service.KeepsTrace s (.emit ctx event)) :
    service.Remembered (service.step s (.emit ctx event)) := by
  -- only a report of a logout comes with credentials that die
  have hfiles : event.logs_out = false →
      (if event.logs_out then service.invalidate s.files else s.files) = s.files := by
    intro hlogs_out
    rw [if_neg (Bool.eq_false_iff.mp hlogs_out)]
  have hdead : event.logs_out = false → service.DeadCredentials { s with
      files := if event.logs_out then service.invalidate s.files else s.files } → service.DeadCredentials s := by
    intro hlogs_out hdead
    rw [DeadCredentials, hfiles hlogs_out] at hdead
    exact hdead
  rw [step, handle_whatsapp_event]
  split
  · refine ⟨h.opened, fun hdead' => ?_⟩
    cases hlogs_out : event.logs_out with
    | true => exact Or.inr ⟨event, List.mem_append_right _ (List.mem_singleton_self event), hlogs_out⟩
    | false =>
      refine (h.known (hdead hlogs_out hdead')).imp id ?_
      rintro ⟨queued, hmem, hqueued⟩
      exact ⟨queued, List.mem_append_left _ hmem, hqueued⟩
  · next hinline =>
    refine remembered_process h.opened (fun hlogs_out hdead' => h.known (hdead hlogs_out hdead')) ?_
    intro hlogs_out hdead'
    exact hok (hdead hlogs_out hdead') (Bool.eq_false_iff.mpr hinline)

theorem Remembered.work (h : service.Remembered s) {ctx : Ctx} {place : Nat} {settled : Bool}
    (hok : service.KeepsTrace s (.work ctx place settled)) :
    service.Remembered (service.step s (.work ctx place settled)) := by
  dsimp only [ChannelService.step]
  split
  · exact h
  · next event hevent =>
    -- taking another event from the queue leaves a report of a logout there
    have hqueued : event.logs_out = false → s.LogoutQueued →
        ({ s with raw := if settled then s.raw.eraseIdx place else s.raw } : ChannelState).LogoutQueued := by
      rintro hlogs_out ⟨queued, hmem, hqueued⟩
      refine ⟨queued, ?_, hqueued⟩
      dsimp only
      split
      · obtain ⟨i, hi⟩ := List.mem_iff_getElem?.mp hmem
        refine List.mem_eraseIdx_iff_getElem?.mpr ⟨i, ?_, hi⟩
        rintro rfl
        cases hi.symm.trans hevent
        rw [hlogs_out] at hqueued
        cases hqueued
      · exact hmem
    refine remembered_process h.opened (fun hlogs_out hdead => (h.known hdead).imp id (hqueued hlogs_out)) ?_
    intro hlogs_out hdead hoverwrites hlogged_out
    exact (hok hdead event hevent hoverwrites hlogged_out).imp id (hqueued hlogs_out)

theorem Remembered.restart (h : service.Remembered s) {s' : ChannelState}
    (hok : service.KeepsTrace s .restart) (hs' : s' = ChannelService.restart s) : service.Remembered s' := by
  subst hs'
  refine ⟨h.opened, fun hdead => ?_⟩
  rcases h.known hdead with (hflag | hlogged_out) | hqueued
  · exact (hok hdead hflag).imp Or.inr id
  · exact Or.inl (Or.inr hlogged_out)
  · exact Or.inr hqueued

theorem Remembered.bootstrap (h : service.Remembered s) {ctx : Ctx} {answers : ConnectAnswers}
    (hok : service.KeepsTrace s (.bootstrap ctx answers)) :
    service.Remembered (service.bootstrap_existing_sessions ctx answers s) := by
  unfold bootstrap_existing_sessions
  split
  · exact h
  · rcases service.restored_channel_cases ctx s with hsame | ⟨hstatus, inner, hrestored, -⟩
    · rw [hsame]
      exact h.connect hok
    · -- a channel that the store does not know has no status to lose
      have hunmarked : service.status s ≠ some "logged_out" := by
        rw [hstatus]
        exact nofun
      have hcreated : service.Remembered { s with inner } :=
        h.same rfl rfl rfl rfl fun hlogged_out => absurd hlogged_out hunmarked
      rw [hrestored]
      refine hcreated.connect fun hdead => ?_
      refine ⟨fun hqueued => ?_, (hok hdead).2⟩
      exact Or.inl (((hok hdead).1 hqueued).resolve_right hunmarked)

theorem Remembered.step (h : service.Remembered s) {label : ChannelStep} (hok : service.KeepsTrace s label) :
    service.Remembered (service.step s label) := by
  have hheard : ∀ {A : Type} (operator : Bool) (result : ApiResult A) (t : ChannelState),
      service.Remembered t → service.Remembered (heard operator result t) := by
    intro A operator result t ht
    unfold heard
    split
    · exact ht
    · exact ⟨ht.opened, ht.known⟩
  cases label with
  | connect ctx answers => exact hheard _ _ _ (h.connect hok)
  | disconnect ctx supervisor => exact hheard _ _ _ (h.disconnect hok)
  | emit ctx event => exact h.emit hok
  | work ctx place settled => exact h.work hok
  | wipe place removed =>
    dsimp only [ChannelService.step]
    split
    · exact h
    · have htaken : service.Remembered { s with wipes := s.wipes.eraseIdx place } := ⟨h.opened, h.known⟩
      exact htaken.wipe
  | reconnect ctx place active answers =>
    dsimp only [ChannelService.step]
    have htaken : service.Remembered { s with reconnects := s.reconnects.eraseIdx place } :=
      ⟨h.opened, h.known⟩
    split
    · exact h
    · unfold scheduled_reconnect
      split
      · exact htaken
      · exact htaken.connect hok
  | restart => exact h.restart hok rfl
  | bootstrap ctx answers => exact h.bootstrap hok

end ChannelService

/-- A channel before anything happened to it. -/
def ChannelState.start (inner : StoreInner) : ChannelState where
  inner

/-- In a run in which no step loses the last trace of a logout, no session is opened whose
credentials a logout has made invalid. -/
theorem dead_credentials_not_reused (service : ChannelService) (inner : StoreInner)
    {labels : List ChannelStep} {s : ChannelState}
    (hrun : Run (Guarded (OfFun service.step) service.KeepsTrace) (.start inner) labels s) :
    ∀ session ∈ s.history.opened, session.invalidated = false := by
  have hstep : ∀ s label t, service.Remembered s → Guarded (OfFun service.step) service.KeepsTrace s label t →
      service.Remembered t := by
    rintro s label t h ⟨hok, rfl⟩
    exact h.step hok
  have hstart : service.Remembered (.start inner) := ⟨nofun, fun hdead => absurd hdead Bool.false_ne_true⟩
  exact (Run.invariant hstep hrun hstart).opened

namespace sample

/-- A service with one channel, and with Kafka or without. -/
def channels (kafka_worker_mode_enabled : Bool) : ChannelService where
  app := service
  runtime := company_a
  wa_session_sqlite_dir := "wa_sessions"
  kafka_worker_mode_enabled
  raw_payload _ _ := .null

def channel_created : StoreInner :=
  (create_channel (ctx 0 "c") {} "acme" "company_a" (some "channel_a") none none).2

def running : Supervisor where
  is_finished := false
  is_connected := true

def connects : ConnectAnswers where
  reconciled := running
  connected := running
  removed := true
  started := running
  start := .running

def logged_out : SessionEvent :=
  .LoggedOut "LoggedOut"

def lived (service : ChannelService) (labels : List ChannelStep) : ChannelState :=
  labels.foldl service.step (.start channel_created)

theorem run_lived (service : ChannelService) (labels : List ChannelStep) :
    Run (OfFun service.step) (.start channel_created) labels (lived service labels) :=
  .foldl _ _ labels

def paired : List ChannelStep :=
  [.connect (ctx 1 "d") connects, .emit (ctx 2 "e") logged_out]

/-- The logout goes through Kafka, so that the delayed wipe has no path. The operator
disconnects, and the process starts again. -/
def logout_forgotten : List ChannelStep :=
  paired ++ [.work (ctx 3 "f") 0 true, .wipe 0 true, .disconnect (ctx 4 "g") running, .restart,
    .bootstrap (ctx 5 "h") connects]

end sample

/-- A connect after a logout opens a new session. -/
theorem logged_out_session_replaced :
    let lived := sample.lived (sample.channels false)
      (sample.paired ++ [.connect (sample.ctx 3 "f") sample.connects])
    lived.history.opened.length = 2 ∧ ∀ session ∈ lived.history.opened, session.invalidated = false := by
  have hconnect : (sample.channels false).KeepsTrace (.start sample.channel_created)
      (.connect (sample.ctx 1 "d") sample.connects) := fun hdead => absurd hdead (by decide)
  have hlogout : (sample.channels false).KeepsTrace
      (sample.lived (sample.channels false) [.connect (sample.ctx 1 "d") sample.connects])
      (.emit (sample.ctx 2 "e") sample.logged_out) := fun hdead => absurd hdead (by decide)
  have hagain : (sample.channels false).KeepsTrace (sample.lived (sample.channels false) sample.paired)
      (.connect (sample.ctx 3 "f") sample.connects) := fun _ => ⟨fun _ => Or.inl (by decide), rfl⟩
  refine ⟨by decide, ?_⟩
  exact dead_credentials_not_reused (sample.channels false) sample.channel_created
    (.cons ⟨hconnect, rfl⟩ (.cons ⟨hlogout, rfl⟩ (.cons ⟨hagain, rfl⟩ (.nil _))))

/-- The logout is forgotten, and the dead session is opened again. -/
theorem dead_credentials_reused :
    ¬ ∀ (service : ChannelService) (inner : StoreInner) (labels : List ChannelStep) (s : ChannelState),
      Run (OfFun service.step) (.start inner) labels s →
        ∀ session ∈ s.history.opened, session.invalidated = false := by
  intro hclaim
  have hopened : (sample.lived (sample.channels true) sample.logout_forgotten).history.opened =
      [{ invalidated := false }, { invalidated := true }] := by decide
  have halive := hclaim _ _ _ _ (sample.run_lived (sample.channels true) sample.logout_forgotten)
    { invalidated := true } (by rw [hopened]; decide)
  cases halive

end rustzap.state
