import RustZap.State.Operations
import RustZap.State.Webhooks

open collections serde_json runs
open rustzap.error rustzap.models rustzap.secrets

namespace rustzap.state

/-- The attempts for one event at one callback, in the order in which they were recorded:
they are numbered, there are not too many of them, none follows a success or comes before
the time that the one before it has set, and the failures know when the first was. -/
structure Disciplined (max_retries : Nat) (attempts : List WebhookDeliveryAttempt) : Prop where
  numbered : attempts.map WebhookDeliveryAttempt.attempt = List.range' 1 attempts.length
  bounded : attempts.length ≤ max 1 max_retries
  stopped : attempts.Pairwise fun earlier _ => earlier.status ≠ "success"
  waited : attempts.IsChain fun previous next => ∀ next_retry_at, previous.next_retry_at = some next_retry_at →
    next_retry_at ≤ next.created_at
  first_failed : ∀ attempt ∈ attempts, attempt.status = "failed" → attempt.first_failed_at =
    (attempts.find? fun attempt => attempt.status = "failed").map WebhookDeliveryAttempt.created_at
  outcome : ∀ attempt ∈ attempts, attempt.status = "success" ∨ attempt.status = "failed"

/-- A job is for the attempt that is next, and that is due at some time. -/
structure IsNext (max_retries : Nat) (now : OffsetDateTime) (attempts : List WebhookDeliveryAttempt)
    (job : WebhookDeliveryJob) : Prop where
  number : job.attempt = attempts.length + 1
  allowed : attempts.length < max 1 max_retries
  no_success : ∀ attempt ∈ attempts, attempt.status ≠ "success"
  due : ∀ last ∈ attempts.getLast?, ∀ next_retry_at, last.next_retry_at = some next_retry_at →
    next_retry_at ≤ now
  first_failed : job.first_failed_at = attempts.head?.map WebhookDeliveryAttempt.created_at

section Attempts

variable {max_retries : Nat} {attempts : List WebhookDeliveryAttempt}

theorem Disciplined.nil : Disciplined max_retries [] where
  numbered := rfl
  bounded := Nat.zero_le _
  stopped := .nil
  waited := .nil
  first_failed _ hattempt := absurd hattempt List.not_mem_nil
  outcome _ hattempt := absurd hattempt List.not_mem_nil

theorem last_attempt_concat (attempts : List WebhookDeliveryAttempt) (attempt : WebhookDeliveryAttempt) :
    last_attempt (attempts ++ [attempt]) = match last_attempt attempts with
      | some best => if best.attempt ≤ attempt.attempt then some attempt else some best
      | none => some attempt := by
  rw [last_attempt, List.foldl_append]
  rfl

theorem mem_of_last_attempt {last : WebhookDeliveryAttempt} :
    last_attempt attempts = some last → last ∈ attempts := by
  induction attempts using List.reverseRecOn with
  | nil =>
    intro hlast
    cases hlast
  | append_singleton attempts attempt ih =>
    intro hlast
    rw [last_attempt_concat] at hlast
    split at hlast
    · next best hbest =>
      split at hlast
      · cases hlast
        exact List.mem_append_right _ (List.mem_singleton_self _)
      · cases hlast
        exact List.mem_append_left _ (ih hbest)
    · cases hlast
      exact List.mem_append_right _ (List.mem_singleton_self _)

theorem numbered_concat {earlier : List WebhookDeliveryAttempt} {last : WebhookDeliveryAttempt} :
    (earlier ++ [last]).map WebhookDeliveryAttempt.attempt = List.range' 1 (earlier ++ [last]).length ↔
      earlier.map WebhookDeliveryAttempt.attempt = List.range' 1 earlier.length ∧
        last.attempt = earlier.length + 1 := by
  rw [List.map_append, List.length_append, List.length_singleton, List.range'_1_concat, List.map_singleton]
  constructor
  · intro h
    obtain ⟨hearlier, hlast⟩ := List.append_inj h (by rw [List.length_map, List.length_range'])
    have hnumber := List.singleton_inj.mp hlast
    exact ⟨hearlier, by omega⟩
  · rintro ⟨hearlier, hlast⟩
    rw [hearlier, hlast, Nat.add_comm]

/-- Of attempts that are numbered the last has the highest number. -/
theorem last_attempt_eq (hnumbered : attempts.map WebhookDeliveryAttempt.attempt =
    List.range' 1 attempts.length) : last_attempt attempts = attempts.getLast? := by
  induction attempts using List.reverseRecOn with
  | nil => rfl
  | append_singleton earlier last ih =>
    obtain ⟨hearlier, hlast⟩ := numbered_concat.mp hnumbered
    rw [last_attempt_concat, List.getLast?_concat]
    split
    · next best hbest =>
      have hnumber : best.attempt ∈ List.range' 1 earlier.length := by
        rw [← hearlier]
        exact List.mem_map_of_mem (mem_of_last_attempt hbest)
      rw [List.mem_range'_1] at hnumber
      rw [if_pos (by omega)]
    · rfl

/-- As long as nothing has succeeded, the first failure is the first attempt. -/
theorem Disciplined.find?_failed (h : Disciplined max_retries attempts)
    (hfailed : ∀ attempt ∈ attempts, attempt.status ≠ "success") :
    attempts.find? (fun attempt => attempt.status = "failed") = attempts.head? := by
  cases attempts with
  | nil => rfl
  | cons first rest =>
    have hfirst := (h.outcome first List.mem_cons_self).resolve_left (hfailed first List.mem_cons_self)
    exact List.find?_cons_of_pos (decide_eq_true hfirst)

/-- What is to be done next after disciplined attempts. -/
theorem Disciplined.next_attempt {self : WebhookService} (h : Disciplined self.webhook.max_retries attempts)
    {now : OffsetDateTime} {callback : Value} {event : CommonEvent} {job : WebhookDeliveryJob}
    (hjob : self.next_attempt now callback event attempts = some job) :
    IsNext self.webhook.max_retries now attempts job ∧ job.callback = callback ∧ job.event = event := by
  unfold WebhookService.next_attempt at hjob
  rw [last_attempt_eq h.numbered] at hjob
  split at hjob
  · cases hjob
  · next hsuccess =>
    have hfailed : ∀ attempt ∈ attempts, attempt.status ≠ "success" := by
      intro attempt hattempt hstatus
      exact hsuccess (List.any_eq_true.mpr ⟨attempt, hattempt, decide_eq_true hstatus⟩)
    split at hjob
    · next hnone =>
      cases hjob
      rw [List.getLast?_eq_none_iff] at hnone
      subst hnone
      exact ⟨⟨rfl, Nat.lt_of_lt_of_le Nat.zero_lt_one (Nat.le_max_left _ _), hfailed, nofun, rfl⟩, rfl, rfl⟩
    · next last hlast =>
      obtain ⟨earlier, rfl⟩ := List.getLast?_eq_some_iff.mp hlast
      have hnumber := (numbered_concat.mp h.numbered).2
      have hu32 := self.webhook.max_retries_u32
      split at hjob
      · cases hjob
      · next hretries =>
        split at hjob
        · cases hjob
        · next hdue =>
          cases hjob
          refine ⟨⟨?_, ?_, hfailed, ?_, ?_⟩, rfl, rfl⟩
          · dsimp only
            rw [List.length_append, List.length_singleton]
            omega
          · rw [List.length_append, List.length_singleton]
            omega
          · intro found hfound next_retry_at hretry
            cases hlast.symm.trans hfound
            rw [hretry, Option.any_some, decide_eq_true_eq] at hdue
            exact not_lt.mp hdue
          · have hstatus : last.status = "failed" :=
              (h.outcome last (List.mem_append_right _ (List.mem_singleton_self _))).resolve_left
                (hfailed last (List.mem_append_right _ (List.mem_singleton_self _)))
            dsimp only
            rw [h.first_failed last (List.mem_append_right _ (List.mem_singleton_self _)) hstatus,
              h.find?_failed hfailed]
            cases earlier <;> rfl

/-- The attempt of a job that is next keeps the attempts disciplined. -/
theorem Disciplined.concat (h : Disciplined max_retries attempts) {now : OffsetDateTime}
    {job : WebhookDeliveryJob} (hnext : IsNext max_retries now attempts job) {attempt : WebhookDeliveryAttempt}
    (hnumber : attempt.attempt = job.attempt) (hcreated : now ≤ attempt.created_at)
    (houtcome : attempt.status = "success" ∨ attempt.status = "failed")
    (hfirst : attempt.status = "failed" → attempt.first_failed_at =
      job.first_failed_at.or (some attempt.created_at)) : Disciplined max_retries (attempts ++ [attempt]) := by
  refine ⟨numbered_concat.mpr ⟨h.numbered, hnumber.trans hnext.number⟩, ?_, ?_, ?_, ?_, ?_⟩
  · rw [List.length_append, List.length_singleton]
    exact hnext.allowed
  · rw [List.pairwise_append]
    exact ⟨h.stopped, List.pairwise_singleton _ _, fun earlier hearlier _ _ => hnext.no_success earlier hearlier⟩
  · rw [List.isChain_append]
    refine ⟨h.waited, .singleton _, fun last hlast next hattempt next_retry_at hretry => ?_⟩
    cases hattempt
    exact (hnext.due last hlast next_retry_at hretry).trans hcreated
  · intro found hfound hstatus
    rw [List.find?_append, h.find?_failed hnext.no_success]
    rcases List.mem_append.mp hfound with hfound | hfound
    · rw [h.first_failed found hfound hstatus, h.find?_failed hnext.no_success]
      cases attempts with
      | nil => cases hfound
      | cons first rest => rfl
    · rw [List.mem_singleton] at hfound
      subst hfound
      rw [hfirst hstatus, hnext.first_failed, List.find?_singleton, if_pos (decide_eq_true hstatus)]
      cases attempts <;> rfl
  · intro found hfound
    rcases List.mem_append.mp hfound with hfound | hfound
    · exact h.outcome found hfound
    · rw [List.mem_singleton.mp hfound]
      exact houtcome

end Attempts

def callback_id (callback : Value) : String :=
  (callback.get_str "id").getD ""

/-- What an attempt is for: the callback's id and the event's. -/
def WebhookDeliveryJob.pair (job : WebhookDeliveryJob) : String × String :=
  (job.callback_id, job.event.event_id)

/-- The service between two sections of its webhook delivery: the store, the time, and the
jobs of the cycle under way that are still to be delivered. -/
structure WebhookState where
  inner : StoreInner
  clock : OffsetDateTime
  jobs : List WebhookDeliveryJob

/-- A cycle takes its snapshot of the jobs, a job is delivered, or something comes in
between: an event, or a request that sets or deletes a callback. -/
inductive WebhookLabel where
  | begin_cycle (now : OffsetDateTime)
  | deliver (answers : DeliveryAnswers)
  | push_event (event : CommonEvent)
  | upsert_callback (ctx : Ctx) (nonce : Option Nonce) (project_id company_id : String)
      (callback_id : Option String) (body : Value)
  | delete_callback (ctx : Ctx) (project_id company_id callback_id : String)

namespace WebhookService

variable (self : WebhookService)

/-- One step. The clock never goes back, no two events draw the same id, and a cycle
begins when the one before it is over. The maps may yield their entries in any order. -/
def Step (state : WebhookState) (label : WebhookLabel) (state' : WebhookState) : Prop :=
  match label with
  | .begin_cycle now => state.jobs = [] ∧ state.clock ≤ now ∧
    ∃ inner, state.inner.Reordered inner ∧ state' = {
      inner, clock := now
      jobs := if !self.webhook.delivery_enabled || !self.webhook_signal_enabled then []
        else self.pending_webhook_jobs now inner }
  | .deliver answers =>
    state.clock ≤ answers.signed_at ∧ answers.signed_at ≤ answers.planned_at ∧
    answers.planned_at ≤ answers.recorded_at ∧ ∃ job jobs, state.jobs = job :: jobs ∧
      match self.deliver_webhook_job answers state.inner job with
      | (.ok _, inner) => state' = { inner, clock := answers.recorded_at, jobs }
      | (.error _, inner) => state' = { inner, clock := answers.recorded_at, jobs := [] }
  | .push_event event => (∀ stored ∈ state.inner.events, stored.event_id ≠ event.event_id) ∧
    state' = { state with inner := push_event_inner state.inner event }
  | .upsert_callback ctx nonce project_id company_id callback_id body => state.clock ≤ ctx.now ∧ state' = {
      state with
      inner := (self.upsert_callback ctx nonce state.inner project_id company_id callback_id body).2
      clock := ctx.now }
  | .delete_callback ctx project_id company_id callback_id => state.clock ≤ ctx.now ∧ state' = {
      state with
      inner := (self.delete_callback ctx state.inner project_id company_id callback_id).2
      clock := ctx.now }

end WebhookService

/-- What holds between any two steps: callbacks and events are told apart by their ids,
and the jobs of the cycle are for attempts that are next, no two of them for the same. -/
structure WebhookService.InOrder (service : WebhookService) (state : WebhookState) : Prop where
  keyed : state.inner.callbacks.Keyed callback_id
  events : (state.inner.events.map CommonEvent.event_id).Nodup
  disciplined : ∀ callback_id event_id,
    Disciplined service.webhook.max_retries (state.inner.attempts_of callback_id event_id)
  jobs_distinct : (state.jobs.map WebhookDeliveryJob.pair).Nodup
  jobs_next : ∀ job ∈ state.jobs, IsNext service.webhook.max_retries state.clock
    (state.inner.attempts_of job.callback_id job.event.event_id) job

section Step

variable {self : WebhookService} {state state' : WebhookState}

/-- What a delivery comes to: it breaks off, or it records the attempt of its job. -/
theorem deliver_webhook_job_cases (answers : DeliveryAnswers) (inner : StoreInner) (job : WebhookDeliveryJob) :
    (∃ err, self.deliver_webhook_job answers inner job = (.error err, inner)) ∨
    ∃ response, self.deliver_webhook_job answers inner job = (.ok (),
      record_webhook_attempt answers.recorded_at answers.attempt_id inner
        (self.attempt_input answers.planned_at job response)) := by
  unfold WebhookService.deliver_webhook_job
  split
  · exact Or.inl ⟨_, rfl⟩
  · split
    · exact Or.inl ⟨_, rfl⟩
    · split
      · exact Or.inl ⟨_, rfl⟩
      · exact Or.inr ⟨_, rfl⟩

/-- The attempt that a delivery records. -/
theorem recorded_attempt (answers : DeliveryAnswers) (job : WebhookDeliveryJob)
    (response : Except String WebhookResponse) :
    let attempt := webhook_attempt answers.recorded_at answers.attempt_id
      (self.attempt_input answers.planned_at job response)
    attempt.callback_id = job.callback_id ∧ attempt.event_id = job.event.event_id ∧
      attempt.attempt = job.attempt ∧ attempt.created_at = answers.recorded_at ∧
      (attempt.status = "success" ∨ attempt.status = "failed") ∧
      (attempt.status = "failed" → attempt.first_failed_at =
        job.first_failed_at.or (some attempt.created_at)) := by
  unfold WebhookService.attempt_input
  cases response with
  | error err => exact ⟨rfl, rfl, rfl, rfl, Or.inr rfl, fun _ => rfl⟩
  | ok response =>
    dsimp only
    split
    · exact ⟨rfl, rfl, rfl, rfl, Or.inl rfl,
        fun hstatus => absurd (show "success" = "failed" from hstatus) (by decide)⟩
    · exact ⟨rfl, rfl, rfl, rfl, Or.inr rfl, fun _ => rfl⟩

theorem attempts_of_record (now : OffsetDateTime) (attempt_id : String) (inner : StoreInner)
    (input : WebhookAttemptInput) (callback_id event_id : String) :
    (record_webhook_attempt now attempt_id inner input).attempts_of callback_id event_id =
      inner.attempts_of callback_id event_id ++
        if input.callback_id = callback_id ∧ input.event.event_id = event_id then
          [webhook_attempt now attempt_id input] else [] := by
  unfold StoreInner.attempts_of record_webhook_attempt
  dsimp only
  rw [List.filter_append]
  congr 1
  split
  · next h =>
    refine List.filter_eq_self.mpr fun attempt hattempt => ?_
    rw [List.mem_singleton.mp hattempt, Bool.and_eq_true, decide_eq_true_eq, decide_eq_true_eq]
    exact h
  · next h =>
    refine List.filter_eq_nil_iff.mpr fun attempt hattempt => ?_
    rw [List.mem_singleton.mp hattempt, Bool.and_eq_true, decide_eq_true_eq, decide_eq_true_eq]
    exact h

/-- The jobs of a snapshot. -/
theorem mem_pending_webhook_jobs {now : OffsetDateTime} {inner : StoreInner} {job : WebhookDeliveryJob}
    (hjob : job ∈ self.pending_webhook_jobs now inner) :
    ∃ callback ∈ inner.callbacks.values, ∃ event ∈ inner.events,
      self.next_attempt now callback event (inner.attempts_of (callback_id callback) event.event_id) =
        some job := by
  obtain ⟨callback, hcallback, hjob⟩ := List.mem_flatMap.mp hjob
  split at hjob
  · cases hjob
  · obtain ⟨event, hevent, hjob⟩ := List.mem_filterMap.mp hjob
    refine ⟨callback, hcallback, event, hevent, ?_⟩
    unfold WebhookService.pending_job at hjob
    split at hjob
    · cases hjob
    · split at hjob
      · cases hjob
      · exact hjob

theorem next_attempt_callback {now : OffsetDateTime} {callback : Value} {event : CommonEvent}
    {attempts : List WebhookDeliveryAttempt} {job : WebhookDeliveryJob}
    (hjob : self.next_attempt now callback event attempts = some job) :
    job.callback = callback ∧ job.event = event := by
  unfold WebhookService.next_attempt at hjob
  split at hjob
  · cases hjob
  · split at hjob
    · cases hjob
      exact ⟨rfl, rfl⟩
    · split at hjob
      · cases hjob
      · split at hjob
        · cases hjob
        · cases hjob
          exact ⟨rfl, rfl⟩

theorem next_attempt_pair {now : OffsetDateTime} {callback : Value} {event : CommonEvent}
    {attempts : List WebhookDeliveryAttempt} {job : WebhookDeliveryJob}
    (hjob : self.next_attempt now callback event attempts = some job) :
    job.pair = (callback_id callback, event.event_id) := by
  obtain ⟨rfl, rfl⟩ := next_attempt_callback hjob
  rfl

/-- A snapshot has one job at most for a callback and an event. -/
theorem pending_pairs_nodup (now : OffsetDateTime) {inner : StoreInner}
    (hkeyed : inner.callbacks.Keyed callback_id) (hevents : (inner.events.map CommonEvent.event_id).Nodup) :
    ((self.pending_webhook_jobs now inner).map WebhookDeliveryJob.pair).Nodup := by
  have hpair : ∀ callback event job, self.pending_job now inner callback event = some job →
      job.pair = (callback_id callback, event.event_id) := by
    intro callback event job hjob
    unfold WebhookService.pending_job at hjob
    split at hjob
    · cases hjob
    · split at hjob
      · cases hjob
      · exact next_attempt_pair hjob
  have hof : ∀ callback, ∀ job ∈ (if (callback.get "enabled").bind Value.as_bool ≠ some true then []
      else inner.events.filterMap (self.pending_job now inner callback)), job.pair.1 = callback_id callback := by
    intro callback job hjob
    split at hjob
    · cases hjob
    · obtain ⟨event, -, hjob⟩ := List.mem_filterMap.mp hjob
      rw [hpair callback event job hjob]
  have hvalues := hkeyed.values_nodup
  rw [List.Nodup, List.pairwise_map] at hevents hvalues ⊢
  rw [WebhookService.pending_webhook_jobs, List.pairwise_flatMap]
  constructor
  · intro callback _
    split
    · exact .nil
    · rw [List.pairwise_filterMap]
      refine hevents.imp fun {event event'} hne job hjob job' hjob' hsame => hne ?_
      rw [hpair _ _ _ hjob, hpair _ _ _ hjob'] at hsame
      exact congrArg Prod.snd hsame
  · refine hvalues.imp fun {callback callback'} hne job hjob job' hjob' hsame => hne ?_
    rw [← hof callback job hjob, ← hof callback' job' hjob', hsame]

namespace WebhookService

theorem InOrder.begin_cycle (h : self.InOrder state) {now : OffsetDateTime} {inner : StoreInner}
    (hreordered : state.inner.Reordered inner) (jobs : List WebhookDeliveryJob)
    (hjobs : jobs = [] ∨ jobs = self.pending_webhook_jobs now inner) :
    self.InOrder { inner, clock := now, jobs } := by
  have hkeyed := h.keyed.reordered hreordered.callbacks
  have hevents : (inner.events.map CommonEvent.event_id).Nodup := hreordered.events ▸ h.events
  have hdisciplined : ∀ callback_id event_id,
      Disciplined self.webhook.max_retries (inner.attempts_of callback_id event_id) := by
    intro callback_id event_id
    have hbefore := h.disciplined callback_id event_id
    rwa [StoreInner.attempts_of, hreordered.webhook_delivery_attempts] at hbefore
  refine ⟨hkeyed, hevents, hdisciplined, ?_, ?_⟩
  · rcases hjobs with rfl | rfl
    · exact List.nodup_nil
    · exact pending_pairs_nodup now hkeyed hevents
  · intro job hjob
    rcases hjobs with rfl | rfl
    · cases hjob
    · obtain ⟨callback, -, event, -, hnext⟩ := mem_pending_webhook_jobs hjob
      obtain ⟨hisnext, hcallback, hevent⟩ := (hdisciplined _ _).next_attempt hnext
      rw [WebhookDeliveryJob.callback_id, hcallback, hevent]
      exact hisnext

/-- A step that leaves the attempts and the jobs alone. -/
theorem InOrder.aside (h : self.InOrder state) {clock : OffsetDateTime} {inner : StoreInner}
    (hclock : state.clock ≤ clock) (hkeyed : inner.callbacks.Keyed callback_id)
    (hevents : (inner.events.map CommonEvent.event_id).Nodup)
    (hattempts : inner.webhook_delivery_attempts = state.inner.webhook_delivery_attempts) :
    self.InOrder { state with inner, clock } := by
  have hsame : ∀ callback_id event_id,
      inner.attempts_of callback_id event_id = state.inner.attempts_of callback_id event_id := by
    intro callback_id event_id
    rw [StoreInner.attempts_of, hattempts, ← StoreInner.attempts_of]
  refine ⟨hkeyed, hevents, ?_, h.jobs_distinct, ?_⟩
  · intro callback_id event_id
    dsimp only
    rw [hsame]
    exact h.disciplined callback_id event_id
  · intro job hjob
    have hnext := h.jobs_next job hjob
    dsimp only
    rw [hsame]
    exact { hnext with due := fun last hlast next_retry_at hretry =>
      (hnext.due last hlast next_retry_at hretry).trans hclock }

/-- A delivery that gets as far as an attempt. The other jobs are for other pairs. -/
theorem InOrder.record (h : self.InOrder state) {job : WebhookDeliveryJob} {jobs : List WebhookDeliveryJob}
    (hjobs : state.jobs = job :: jobs) (answers : DeliveryAnswers)
    (hclock : state.clock ≤ answers.recorded_at) (response : Except String WebhookResponse) :
    self.InOrder {
      inner := record_webhook_attempt answers.recorded_at answers.attempt_id state.inner
        (self.attempt_input answers.planned_at job response)
      clock := answers.recorded_at, jobs } := by
  obtain ⟨hcallback, hevent, hnumber, hcreated, houtcome, hfirst⟩ :=
    @recorded_attempt self answers job response
  have hinput : ∀ callback_id event_id, ((self.attempt_input answers.planned_at job response).callback_id =
      callback_id ∧ (self.attempt_input answers.planned_at job response).event.event_id = event_id) ↔
      job.pair = (callback_id, event_id) := by
    intro callback_id event_id
    rw [WebhookDeliveryJob.pair, Prod.mk.injEq, ← hcallback, ← hevent]
    exact Iff.rfl
  have hdistinct := h.jobs_distinct
  rw [hjobs, List.map_cons, List.nodup_cons] at hdistinct
  have hnext := h.jobs_next job (hjobs ▸ List.mem_cons_self)
  refine ⟨h.keyed, h.events, ?_, hdistinct.2, ?_⟩
  · intro callback_id event_id
    dsimp only
    rw [attempts_of_record]
    simp only [hinput]
    split
    · next hpair =>
      cases hpair
      exact (h.disciplined _ _).concat hnext hnumber (hclock.trans hcreated.ge) houtcome hfirst
    · rw [List.append_nil]
      exact h.disciplined callback_id event_id
  · intro other hother
    have hne : ¬ job.pair = (other.callback_id, other.event.event_id) := by
      intro hpair
      exact hdistinct.1 (hpair ▸ List.mem_map_of_mem hother)
    have hlater := h.jobs_next other (hjobs ▸ List.mem_cons_of_mem _ hother)
    dsimp only
    rw [attempts_of_record, if_neg (mt (hinput _ _).mp hne), List.append_nil]
    exact { hlater with due := fun last hlast next_retry_at hretry =>
      (hlater.due last hlast next_retry_at hretry).trans hclock }

theorem InOrder.step (h : self.InOrder state) {label : WebhookLabel}
    (hstep : self.Step state label state') : self.InOrder state' := by
  cases label with
  | begin_cycle now =>
    obtain ⟨-, -, inner, hreordered, rfl⟩ := hstep
    refine h.begin_cycle hreordered _ ?_
    split
    · exact Or.inl rfl
    · exact Or.inr rfl
  | deliver answers =>
    obtain ⟨hsigned, hplanned, hrecorded, job, jobs, hjobs, hdelivered⟩ := hstep
    have hclock := (hsigned.trans hplanned).trans hrecorded
    rcases @deliver_webhook_job_cases self answers state.inner job with
      ⟨err, hdeliver⟩ | ⟨response, hdeliver⟩
    · rw [hdeliver] at hdelivered
      dsimp only at hdelivered
      rw [hdelivered]
      exact ⟨h.keyed, h.events, h.disciplined, List.nodup_nil, fun job hjob => absurd hjob List.not_mem_nil⟩
    · rw [hdeliver] at hdelivered
      dsimp only at hdelivered
      rw [hdelivered]
      exact h.record hjobs answers hclock response
  | push_event event =>
    obtain ⟨hfresh, rfl⟩ := hstep
    refine h.aside le_rfl h.keyed ?_ rfl
    change ((state.inner.events ++ [event]).map CommonEvent.event_id).Nodup
    rw [List.map_append, List.map_singleton, List.nodup_append]
    refine ⟨h.events, List.nodup_singleton _, ?_⟩
    intro id hid new hnew hsame
    obtain ⟨stored, hstored, rfl⟩ := List.mem_map.mp hid
    exact hfresh stored hstored (hsame.trans (List.mem_singleton.mp hnew))
  | upsert_callback ctx nonce project_id company_id callback_id body =>
    obtain ⟨hclock, rfl⟩ := hstep
    rcases upsert_callback_cases self ctx state.inner project_id company_id nonce callback_id body with
      ⟨err, hupsert⟩ | ⟨callback_url, encrypted_secret, created_at, audit_logs, answer, -, -, hupsert⟩
    · rw [hupsert]
      exact h.aside hclock h.keyed h.events rfl
    · rw [hupsert]
      exact h.aside hclock (h.keyed.insert rfl) h.events rfl
  | delete_callback ctx project_id company_id callback_id =>
    obtain ⟨hclock, rfl⟩ := hstep
    rcases delete_callback_cases self ctx state.inner project_id company_id callback_id with
      ⟨err, hdelete⟩ | ⟨audit_logs, answer, hdelete⟩
    · rw [hdelete]
      exact h.aside hclock h.keyed h.events rfl
    · rw [hdelete]
      exact h.aside hclock (h.keyed.erase callback_id) h.events rfl

end WebhookService

end Step

/-- The service before its first cycle: it may have callbacks and events, but has not
attempted anything. -/
structure WebhookState.Begins (state : WebhookState) : Prop where
  keyed : state.inner.callbacks.Keyed callback_id
  events : (state.inner.events.map CommonEvent.event_id).Nodup
  attempts : state.inner.webhook_delivery_attempts = []
  jobs : state.jobs = []

theorem WebhookState.Begins.in_order {state : WebhookState} (h : state.Begins) (self : WebhookService) :
    self.InOrder state where
  keyed := h.keyed
  events := h.events
  disciplined callback_id event_id := by
    rw [StoreInner.attempts_of, h.attempts]
    exact .nil
  jobs_distinct := by
    rw [h.jobs]
    exact List.nodup_nil
  jobs_next job hjob := by
    rw [h.jobs] at hjob
    cases hjob

theorem WebhookService.in_order_of_run {self : WebhookService} {state state' : WebhookState}
    {labels : List WebhookLabel} (hbegins : state.Begins) (hrun : Run self.Step state labels state') :
    self.InOrder state' :=
  hrun.invariant (fun _ _ _ h hstep => h.step hstep) (hbegins.in_order self)

/-- No request goes out before the time that the last attempt for its event at its callback
has set for the next one. -/
theorem webhook_posted_when_due (self : WebhookService) {state state' state'' : WebhookState}
    {labels : List WebhookLabel} (hbegins : state.Begins) (hrun : Run self.Step state labels state')
    {answers : DeliveryAnswers} (hdeliver : self.Step state' (.deliver answers) state'') :
    ∃ job ∈ state'.jobs.head?, ∀ last ∈ (state'.inner.attempts_of job.callback_id job.event.event_id).getLast?,
      ∀ next_retry_at, last.next_retry_at = some next_retry_at → next_retry_at ≤ answers.signed_at := by
  obtain ⟨hsigned, -, -, job, jobs, hjobs, -⟩ := hdeliver
  have hnext := (WebhookService.in_order_of_run hbegins hrun).jobs_next job (hjobs ▸ List.mem_cons_self)
  refine ⟨job, hjobs ▸ rfl, fun last hlast next_retry_at hretry => ?_⟩
  exact (hnext.due last hlast next_retry_at hretry).trans hsigned

/-- Whatever comes between the deliveries of a cycle, whatever the callbacks answer and
whenever, the attempts for an event at a callback are disciplined. -/
theorem webhook_attempts_disciplined (self : WebhookService) {state state' : WebhookState}
    {labels : List WebhookLabel} (hbegins : state.Begins) (hrun : Run self.Step state labels state')
    (callback_id event_id : String) :
    Disciplined self.webhook.max_retries (state'.inner.attempts_of callback_id event_id) :=
  (WebhookService.in_order_of_run hbegins hrun).disciplined callback_id event_id

namespace sample

def master_key : SecretMasterKey where
  bytes := as_bytes "0123456789abcdef0123456789abcdef"
  length := by decide

def nonce : Nonce where
  bytes := [0, 1, 2, 3, 4, 5, 6, 7, 8, 9, 10, 11]
  length := rfl

/-- "webhook_secret" under the key and the nonce, with its tag. -/
def ciphertext : List UInt8 :=
  [90, 128, 217, 20, 182, 119, 185, 243, 219, 185, 18, 204, 20, 187, 57, 189, 46, 174, 106, 143, 117, 182, 211,
    189, 248, 175, 251, 7, 238, 207]

def rotated_nonce : Nonce where
  bytes := [12, 13, 14, 15, 16, 17, 18, 19, 20, 21, 22, 23]
  length := rfl

/-- "rotated_secret" under the key and the other nonce. -/
def rotated_ciphertext : List UInt8 :=
  [22, 193, 87, 252, 111, 200, 241, 61, 150, 32, 254, 229, 190, 168, 125, 84, 29, 213, 13, 242, 64, 78, 148, 202,
    163, 233, 237, 179, 209, 72]

/-- Nonce, secret and ciphertext of the two. -/
def sealed_secrets : List (List UInt8 × List UInt8 × List UInt8) :=
  [(nonce.bytes, as_bytes "webhook_secret", ciphertext),
    (rotated_nonce.bytes, as_bytes "rotated_secret", rotated_ciphertext)]

def base64_texts : List (List UInt8 × String) :=
  [(nonce.bytes, "AAECAwQFBgcICQoL"), (ciphertext, "WoDZFLZ3ufPbuRLMFLs5vS6uao91ttO9+K/7B+7P"),
    (rotated_nonce.bytes, "DA0ODxAREhMUFRYX"), (rotated_ciphertext, "FsFX/G/I8T2WIP7lvqh9VB3VDfJATpTKo+nts9FI")]

/-- The crates on the two secrets; other secrets are not encrypted, and other bytes are
encoded letter by letter. -/
def crates : Crates where
  encrypt key bytes plaintext :=
    if key.bytes = master_key.bytes then
      (sealed_secrets.find? fun entry => entry.1 = bytes && entry.2.1 = plaintext).map fun entry => entry.2.2
    else none
  decrypt key bytes encrypted :=
    if key.bytes = master_key.bytes then
      (sealed_secrets.find? fun entry => entry.1 = bytes && entry.2.2 = encrypted).map fun entry => entry.2.1
    else none
  base64_encode bytes :=
    ((base64_texts.find? fun entry => entry.1 = bytes).map Prod.snd).getD
      (String.ofList ('=' :: bytes.map fun byte => Char.ofNat (byte.toNat + 256)))
  base64_decode text :=
    ((base64_texts.find? fun entry => entry.2 = text).map Prod.fst).or <|
      match text.toList with
      | '=' :: letters => some (letters.map fun letter => UInt8.ofNat (letter.toNat - 256))
      | _ => none

/-- The addresses that consumers give. -/
def urls : List String :=
  ["https://consumer.example.com/rustzap/webhook", "https://consumer.example.com/rustzap/v2/webhook"]

def webhook_service : WebhookService where
  app := service
  webhook :=
    { delivery_enabled := true, timeout_seconds := 10, max_batch_size := 100, max_retries := 8,
      max_retries_u32 := by decide, retry_base_seconds := 5, retry_max_seconds := 3600 }
  consumer_signal_mode := .Webhook
  secret_master_key := some master_key
  crates
  parse_url url :=
    if urls.contains url then
      .ok { scheme := "https", host_str := some "consumer.example.com" }
    else .error "relative URL without a base"
  parse_ip _ := none
  to_vec _ := as_bytes "\x7b\x7d"
  hmac_sha256_hex _ _ := "2b2c75240a9dea4be446f75d550da115a76464984d21cb7b0f08f09ccd42f32e"

/-- A request that sets up a callback with a secret. -/
def callback_body : Value :=
  .object [("url", .string "https://consumer.example.com/rustzap/webhook"), ("secret", .string "webhook_secret"),
    ("events", .array [.string "conversation.dirty"])]

def dirty_event : CommonEvent where
  event_id := "evt_1"
  event_type := "conversation.dirty"
  project_id := "acme"
  company_id := "company_a"
  channel_id := none
  conversation_id := some "5511988887777@s.whatsapp.net"
  message_id := none
  conversation_seq := some 1
  trace_id := "trace_1"
  causation_id := none
  correlation_id := "corr_1"
  occurred_at := Duration.seconds 1
  produced_at := Duration.seconds 1
  payload := .object [("to_seq", .number 1)]

/-- What a delivery at some second learns. -/
def delivery (second : Nat) (answer : Except String WebhookResponse) : DeliveryAnswers where
  signed_at := Duration.seconds second
  planned_at := Duration.seconds second
  recorded_at := Duration.seconds second
  attempt_id := "01912d68-783e-7a03-8467-5661c1243ad4"
  client := .ok ()
  send _ := answer

/-- The step that a label stands for, with the maps as they are stored. -/
def follow (state : WebhookState) : WebhookLabel → Option WebhookState
  | .begin_cycle now =>
    if state.jobs.isEmpty ∧ state.clock ≤ now then
      some { inner := state.inner, clock := now, jobs := webhook_service.pending_webhook_jobs now state.inner }
    else none
  | .deliver answers =>
    if state.clock ≤ answers.signed_at ∧ answers.signed_at ≤ answers.planned_at ∧
        answers.planned_at ≤ answers.recorded_at then
      match state.jobs with
      | [] => none
      | job :: jobs =>
        match webhook_service.deliver_webhook_job answers state.inner job with
        | (.ok _, inner) => some { inner, clock := answers.recorded_at, jobs }
        | (.error _, inner) => some { inner, clock := answers.recorded_at, jobs := [] }
    else none
  | .push_event event =>
    if ∀ stored ∈ state.inner.events, stored.event_id ≠ event.event_id then
      some { state with inner := push_event_inner state.inner event }
    else none
  | .upsert_callback ctx nonce project_id company_id callback_id body =>
    if state.clock ≤ ctx.now then
      some { state with
        inner := (webhook_service.upsert_callback ctx nonce state.inner project_id company_id callback_id body).2
        clock := ctx.now }
    else none
  | .delete_callback ctx project_id company_id callback_id =>
    if state.clock ≤ ctx.now then
      some { state with
        inner := (webhook_service.delete_callback ctx state.inner project_id company_id callback_id).2
        clock := ctx.now }
    else none

theorem follow_step {state state' : WebhookState} {label : WebhookLabel}
    (hfollow : follow state label = some state') : webhook_service.Step state label state' := by
  cases label with
  | begin_cycle now =>
    obtain ⟨⟨hjobs, hclock⟩, hstate⟩ := Option.ite_none_right_eq_some.mp hfollow
    exact ⟨List.isEmpty_iff.mp hjobs, hclock, state.inner, .refl _, (Option.some.inj hstate).symm⟩
  | deliver answers =>
    obtain ⟨⟨hsigned, hplanned, hrecorded⟩, hstate⟩ := Option.ite_none_right_eq_some.mp hfollow
    split at hstate
    · cases hstate
    · next job jobs hjobs =>
      refine ⟨hsigned, hplanned, hrecorded, job, jobs, hjobs, ?_⟩
      split at hstate <;> exact (Option.some.inj hstate).symm
  | push_event event =>
    obtain ⟨hfresh, hstate⟩ := Option.ite_none_right_eq_some.mp hfollow
    exact ⟨hfresh, (Option.some.inj hstate).symm⟩
  | upsert_callback ctx nonce project_id company_id callback_id body =>
    obtain ⟨hclock, hstate⟩ := Option.ite_none_right_eq_some.mp hfollow
    exact ⟨hclock, (Option.some.inj hstate).symm⟩
  | delete_callback ctx project_id company_id callback_id =>
    obtain ⟨hclock, hstate⟩ := Option.ite_none_right_eq_some.mp hfollow
    exact ⟨hclock, (Option.some.inj hstate).symm⟩

def followed (state : WebhookState) (labels : List WebhookLabel) : Option WebhookState :=
  labels.foldlM follow state

theorem followed_run (labels : List WebhookLabel) : ∀ state state', followed state labels = some state' →
    Run webhook_service.Step state labels state' := by
  induction labels with
  | nil =>
    intro state state' hfollowed
    cases hfollowed
    exact .nil _
  | cons label labels ih =>
    intro state state' hfollowed
    rw [followed, List.foldlM_cons] at hfollowed
    obtain ⟨mid, hmid, hrest⟩ := Option.bind_eq_some_iff.mp hfollowed
    exact .cons (follow_step hmid) (ih mid state' hrest)

def no_webhooks : WebhookState where
  inner := {}
  clock := 0
  jobs := []

/-- A callback that does not answer in time, and then does. -/
def retried : List WebhookLabel :=
  [.upsert_callback (ctx 1 "a") (some nonce) "acme" "company_a" none callback_body, .push_event dirty_event,
    .begin_cycle (Duration.seconds 2), .deliver (delivery 2 (.error "operation timed out")),
    .begin_cycle (Duration.seconds 7), .deliver (delivery 7 (.ok { status := 204, display := "204 No Content" }))]

end sample

/-- The second attempt succeeds. -/
theorem retried_webhook_disciplined : ∃ state,
    Run sample.webhook_service.Step sample.no_webhooks sample.retried state ∧
    (state.inner.attempts_of "callback_a0" "evt_1").map WebhookDeliveryAttempt.status = ["failed", "success"] ∧
    Disciplined 8 (state.inner.attempts_of "callback_a0" "evt_1") := by
  have hfollowed : (sample.followed sample.no_webhooks sample.retried).any (fun state =>
      (state.inner.attempts_of "callback_a0" "evt_1").map WebhookDeliveryAttempt.status = ["failed", "success"]) =
      true := by decide
  obtain ⟨state, hstate, hstatus⟩ := (Option.any_eq_true _ _).mp hfollowed
  have hrun := sample.followed_run _ _ _ hstate
  have hbegins : sample.no_webhooks.Begins := ⟨.empty, List.nodup_nil, rfl, rfl⟩
  exact ⟨state, hrun, of_decide_eq_true hstatus,
    webhook_attempts_disciplined sample.webhook_service hbegins hrun "callback_a0" "evt_1"⟩

end rustzap.state
