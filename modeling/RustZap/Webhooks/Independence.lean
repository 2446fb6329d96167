import RustZap.Webhooks.Discipline

open collections serde_json runs
open rustzap.error rustzap.models rustzap.secrets

namespace rustzap.state

/-- The attempt is one of the job. -/
structure IsAttemptOf (job : WebhookDeliveryJob) (attempt : WebhookDeliveryAttempt) : Prop where
  callback_id : attempt.callback_id = job.callback_id
  event_id : attempt.event_id = job.event.event_id
  number : attempt.attempt = job.attempt

namespace WebhookService

/-- A request can be made of the callback's jobs: it has a URL and a secret that decrypts. -/
def deliverable (self : WebhookService) (callback : Value) : Bool :=
  (callback.get_str "url").isSome && (self.callback_secret callback).toBool

/-- A cycle in which every HTTP client can be built. -/
def ClientsBuilt (answers : Nat → DeliveryAnswers) : Prop :=
  ∀ n, (answers n).client = .ok ()

/-- A callback that does not answer. -/
def no_answer : DeliveryAnswers where
  signed_at := 0
  planned_at := 0
  recorded_at := 0
  attempt_id := ""
  client := .ok ()
  send _ := .error "operation timed out"

/-- The cycle records one attempt for each pending job. -/
def CycleComplete (service : WebhookService) (now : OffsetDateTime) (inner : StoreInner)
    (answers : Nat → DeliveryAnswers) : Prop :=
  ∃ added, (service.deliver_pending_webhooks_once now inner answers).2.webhook_delivery_attempts =
    inner.webhook_delivery_attempts ++ added ∧
    List.Forall₂ IsAttemptOf (service.pending_webhook_jobs now inner) added

/-- The cycle records an attempt for each pending job of a callback in order, whatever the
other callbacks are like. -/
def CycleIndependent (service : WebhookService) (now : OffsetDateTime) (inner : StoreInner)
    (answers : Nat → DeliveryAnswers) : Prop :=
  ∃ added, (service.deliver_pending_webhooks_once now inner answers).2.webhook_delivery_attempts =
    inner.webhook_delivery_attempts ++ added ∧
    ∀ job ∈ service.pending_webhook_jobs now inner, service.deliverable job.callback = true →
      ∃ attempt ∈ added, IsAttemptOf job attempt

section Cycle

variable {service : WebhookService} {inner : StoreInner} {now : OffsetDateTime} {answers : Nat → DeliveryAnswers}

/-- A job is delivered, and its attempt recorded, where a request can be made of it. -/
theorem deliver_webhook_job_eq {answers : DeliveryAnswers} (hclient : answers.client = .ok ())
    (job : WebhookDeliveryJob) :
    if service.deliverable job.callback then ∃ attempt, IsAttemptOf job attempt ∧
      service.deliver_webhook_job answers inner job = (.ok (), { inner with
        webhook_delivery_attempts := inner.webhook_delivery_attempts ++ [attempt] })
    else ∃ err, service.deliver_webhook_job answers inner job = (.error err, inner) := by
  unfold deliverable deliver_webhook_job
  cases job.callback.get_str "url" with
  | none => exact ⟨_, rfl⟩
  | some url =>
    cases service.callback_secret job.callback with
    | error err => exact ⟨_, rfl⟩
    | ok secret =>
      dsimp only
      rw [hclient]
      obtain ⟨hcallback, hevent, hnumber, -⟩ := @recorded_attempt service answers job
        (answers.send (service.webhook_request answers.signed_at job url secret))
      exact ⟨_, ⟨hcallback, hevent, hnumber⟩, rfl⟩

/-- A cycle gets as far as the first job of which no request can be made. -/
theorem deliver_jobs_eq (hclients : ClientsBuilt answers) (jobs : List WebhookDeliveryJob) :
    ∀ (inner : StoreInner) (delivered : Nat), ∃ added,
      (service.deliver_jobs inner jobs answers delivered).2.webhook_delivery_attempts =
        inner.webhook_delivery_attempts ++ added ∧
      List.Forall₂ IsAttemptOf (jobs.takeWhile fun job => service.deliverable job.callback) added := by
  induction jobs with
  | nil => exact fun inner delivered => ⟨[], (List.append_nil _).symm, .nil⟩
  | cons job jobs ih =>
    intro inner delivered
    have hjob := @deliver_webhook_job_eq service inner _ (hclients delivered) job
    rw [List.takeWhile_cons, deliver_jobs]
    split at hjob
    · next hdeliverable =>
      obtain ⟨attempt, hattempt, hdelivered⟩ := hjob
      rw [hdelivered, if_pos hdeliverable]
      obtain ⟨added, hadded, hattempts⟩ := ih { inner with
        webhook_delivery_attempts := inner.webhook_delivery_attempts ++ [attempt] } (delivered + 1)
      refine ⟨attempt :: added, ?_, .cons hattempt hattempts⟩
      rw [hadded, List.append_assoc]
      rfl
    · next hbroken =>
      obtain ⟨err, hdelivered⟩ := hjob
      rw [hdelivered, if_neg hbroken]
      exact ⟨[], (List.append_nil _).symm, .nil⟩

variable (henabled : service.webhook.delivery_enabled = true ∧ service.webhook_signal_enabled = true)
include henabled

theorem deliver_pending_eq (now : OffsetDateTime) (inner : StoreInner) (answers : Nat → DeliveryAnswers) :
    service.deliver_pending_webhooks_once now inner answers =
      service.deliver_jobs inner (service.pending_webhook_jobs now inner) answers 0 := by
  rw [deliver_pending_webhooks_once, henabled.1, henabled.2]
  rfl

theorem cycle_complete_iff (hclients : ClientsBuilt answers) :
    service.CycleComplete now inner answers ↔
      ∀ job ∈ service.pending_webhook_jobs now inner, service.deliverable job.callback = true := by
  obtain ⟨added, hadded, hattempts⟩ := @deliver_jobs_eq service _ hclients
    (service.pending_webhook_jobs now inner) inner 0
  rw [← List.takeWhile_eq_self_iff, CycleComplete, deliver_pending_eq henabled]
  constructor
  · rintro ⟨added', hadded', hcomplete⟩
    have hsame : added' = added := List.append_cancel_left (hadded'.symm.trans hadded)
    refine (List.takeWhile_prefix _).eq_of_length ?_
    rw [hattempts.length_eq, hcomplete.length_eq, hsame]
  · intro hall
    exact ⟨added, hadded, hall ▸ hattempts⟩

omit henabled in
theorem CycleComplete.independent (h : service.CycleComplete now inner answers) :
    service.CycleIndependent now inner answers := by
  obtain ⟨added, hadded, hattempts⟩ := h
  refine ⟨added, hadded, fun job hjob _ => ?_⟩
  obtain ⟨n, hn, rfl⟩ := List.mem_iff_getElem.mp hjob
  have hadded : n < added.length := hattempts.length_eq ▸ hn
  exact ⟨added[n], List.getElem_mem _, (List.forall₂_iff_get.mp hattempts).2 n hn hadded⟩

/-- A cycle that meets a broken callback first records nothing. -/
theorem broken_first (hclients : ClientsBuilt answers) {job : WebhookDeliveryJob}
    {jobs : List WebhookDeliveryJob} (hjobs : service.pending_webhook_jobs now inner = job :: jobs)
    (hbroken : service.deliverable job.callback = false) :
    (service.deliver_pending_webhooks_once now inner answers).2.webhook_delivery_attempts =
      inner.webhook_delivery_attempts := by
  obtain ⟨added, hadded, hattempts⟩ := @deliver_jobs_eq service _ hclients
    (service.pending_webhook_jobs now inner) inner 0
  rw [hjobs, List.takeWhile_cons, hbroken] at hattempts
  cases hattempts
  rw [deliver_pending_eq henabled, hadded, List.append_nil]

end Cycle

section Order

variable {service : WebhookService} {inner inner' : StoreInner} {now : OffsetDateTime}

/-- The jobs of one callback. -/
def callback_jobs (service : WebhookService) (now : OffsetDateTime) (inner : StoreInner) (callback : Value) :
    List WebhookDeliveryJob :=
  if (callback.get "enabled").bind Value.as_bool ≠ some true then []
  else inner.events.filterMap (service.pending_job now inner callback)

theorem pending_webhook_jobs_eq : service.pending_webhook_jobs now inner =
    inner.callbacks.values.flatMap (service.callback_jobs now inner) := rfl

theorem callback_of_job {callback : Value} {job : WebhookDeliveryJob}
    (hjob : job ∈ service.callback_jobs now inner callback) : job.callback = callback := by
  unfold callback_jobs at hjob
  split at hjob
  · cases hjob
  · obtain ⟨event, -, hjob⟩ := List.mem_filterMap.mp hjob
    unfold pending_job at hjob
    split at hjob
    · cases hjob
    · split at hjob
      · cases hjob
      · exact (next_attempt_callback hjob).1

theorem callback_jobs_reordered (hreordered : inner.Reordered inner') (callback : Value) :
    service.callback_jobs now inner' callback = service.callback_jobs now inner callback := by
  have hattempts : inner'.attempts_of = inner.attempts_of := by
    funext callback_id event_id
    rw [StoreInner.attempts_of, ← hreordered.webhook_delivery_attempts, ← StoreInner.attempts_of]
  have hjob : service.pending_job now inner' callback = service.pending_job now inner callback := by
    funext event
    rw [pending_job, hattempts, ← pending_job]
  rw [callback_jobs, hjob, ← hreordered.events, ← callback_jobs]

theorem mem_pending_reordered_iff (hreordered : inner.Reordered inner') {job : WebhookDeliveryJob} :
    job ∈ service.pending_webhook_jobs now inner' ↔ job ∈ service.pending_webhook_jobs now inner := by
  rw [pending_webhook_jobs_eq, pending_webhook_jobs_eq, List.mem_flatMap, List.mem_flatMap]
  simp only [callback_jobs_reordered hreordered, hreordered.callbacks.values.mem_iff]

/-- The callbacks may come in an order in which a given one is the first. -/
theorem exists_reordered_first {callback : Value} (hcallback : callback ∈ inner.callbacks.values) :
    ∃ inner', inner.Reordered inner' ∧ inner'.callbacks.values.head? = some callback := by
  obtain ⟨entry, hentry, rfl⟩ := List.mem_map.mp hcallback
  obtain ⟨before, after, hentries⟩ := List.append_of_mem hentry
  have hperm : inner.callbacks.entries.Perm (entry :: (before ++ after)) := hentries ▸ List.perm_middle
  let callbacks : HashMap String Value :=
    ⟨entry :: (before ++ after), (List.perm_nodupKeys hperm).mp inner.callbacks.nodupKeys⟩
  have hreordered : inner.callbacks.Reordered callbacks := hperm
  exact ⟨{ inner with callbacks }, { StoreInner.Reordered.refl inner with callbacks := hreordered }, rfl⟩

/-- Where a callback is broken, it may be met before every other. -/
theorem exists_broken_first (henabled : service.webhook.delivery_enabled = true ∧
    service.webhook_signal_enabled = true) {job : WebhookDeliveryJob}
    (hjob : job ∈ service.pending_webhook_jobs now inner)
    (hbroken : service.deliverable job.callback = false) :
    ∃ inner', inner.Reordered inner' ∧ ∀ answers, ClientsBuilt answers →
      (service.deliver_pending_webhooks_once now inner' answers).2.webhook_delivery_attempts =
        inner'.webhook_delivery_attempts := by
  rw [pending_webhook_jobs_eq] at hjob
  obtain ⟨callback, hcallback, hjob⟩ := List.mem_flatMap.mp hjob
  obtain ⟨inner', hreordered, hfirst⟩ := exists_reordered_first hcallback
  refine ⟨inner', hreordered, fun answers hclients => ?_⟩
  obtain ⟨others, hvalues⟩ := List.head?_eq_some_iff.mp hfirst
  have hjobs : service.pending_webhook_jobs now inner' =
      service.callback_jobs now inner callback ++ others.flatMap (service.callback_jobs now inner') := by
    rw [pending_webhook_jobs_eq, hvalues, List.flatMap_cons, callback_jobs_reordered hreordered]
  cases hown : service.callback_jobs now inner callback with
  | nil =>
    rw [hown] at hjob
    cases hjob
  | cons first rest =>
    rw [hown] at hjobs
    have hsame : first.callback = job.callback :=
      (callback_of_job (hown ▸ List.mem_cons_self)).trans (callback_of_job hjob).symm
    exact broken_first henabled hclients hjobs (hsame ▸ hbroken)

end Order

end WebhookService

open WebhookService in
/-- Whatever the order of the callbacks, a cycle records an attempt for every pending job
exactly when a request can be made of every callback with a pending job; and one for every
job of a callback in order exactly when all these callbacks are in order, or none is. -/
theorem webhook_cycle_iff (service : WebhookService) (henabled : service.webhook.delivery_enabled = true ∧
    service.webhook_signal_enabled = true) (now : OffsetDateTime) (inner : StoreInner) :
    ((∀ inner', inner.Reordered inner' → ∀ answers, ClientsBuilt answers →
        service.CycleComplete now inner' answers) ↔
      ∀ job ∈ service.pending_webhook_jobs now inner, service.deliverable job.callback = true) ∧
    ((∀ inner', inner.Reordered inner' → ∀ answers, ClientsBuilt answers →
        service.CycleIndependent now inner' answers) ↔
      (∀ job ∈ service.pending_webhook_jobs now inner, service.deliverable job.callback = true) ∨
        ∀ job ∈ service.pending_webhook_jobs now inner, service.deliverable job.callback = false) := by
  have hcomplete : (∀ job ∈ service.pending_webhook_jobs now inner, service.deliverable job.callback = true) →
      ∀ inner', inner.Reordered inner' → ∀ answers, ClientsBuilt answers →
        service.CycleComplete now inner' answers := by
    intro hall inner' hreordered answers hclients
    rw [cycle_complete_iff henabled hclients]
    exact fun job hjob => hall job ((mem_pending_reordered_iff hreordered).mp hjob)
  refine ⟨⟨fun hclaim => ?_, hcomplete⟩, fun hclaim => ?_, fun hcases => ?_⟩
  · have hhere := hclaim inner (.refl inner) (fun _ => no_answer) fun _ => rfl
    exact (cycle_complete_iff henabled fun _ => rfl).mp hhere
  · by_contra hneither
    rw [not_or, not_forall, not_forall] at hneither
    obtain ⟨⟨broken, hbroken⟩, ⟨sound, hsound⟩⟩ := hneither
    rw [Classical.not_imp, Bool.not_eq_true] at hbroken
    rw [Classical.not_imp, Bool.not_eq_false] at hsound
    obtain ⟨inner', hreordered, hnothing⟩ := exists_broken_first henabled hbroken.1 hbroken.2
    obtain ⟨added, hadded, hattempts⟩ := hclaim inner' hreordered (fun _ => no_answer) fun _ => rfl
    have hnone : added = [] := by
      rw [hnothing _ fun _ => rfl] at hadded
      exact List.append_cancel_left (hadded.symm.trans (List.append_nil _).symm)
    obtain ⟨attempt, hattempt, -⟩ := hattempts sound ((mem_pending_reordered_iff hreordered).mpr hsound.1) hsound.2
    rw [hnone] at hattempt
    cases hattempt
  · intro inner' hreordered answers hclients
    rcases hcases with hall | hnone
    · exact (hcomplete hall inner' hreordered answers hclients).independent
    · obtain ⟨added, hadded, -⟩ := @deliver_jobs_eq service _ hclients
        (service.pending_webhook_jobs now inner') inner' 0
      rw [← deliver_pending_eq henabled] at hadded
      refine ⟨added, hadded, fun job hjob hdeliverable => ?_⟩
      have hbroken := hnone job ((mem_pending_reordered_iff hreordered).mp hjob)
      cases hbroken.symm.trans hdeliverable

/-- That no callback keeps the others from being called, in no state that the service gets
into and in no order of the callbacks. -/
def WebhooksIndependent (service : WebhookService) : Prop :=
  ∀ start labels state, WebhookState.Begins start → Run service.Step start labels state →
    ∀ inner, state.inner.Reordered inner → ∀ now answers, WebhookService.ClientsBuilt answers →
      service.CycleIndependent now inner answers

namespace sample

/-- The service as it was set up at first, without a master key. -/
def keyless_service : WebhookService :=
  { webhook_service with secret_master_key := none, consumer_signal_mode := .Polling }

def keyless_body : Value :=
  .object [("url", .string "https://consumer.example.com/rustzap/webhook"),
    ("events", .array [.string "conversation.dirty"])]

/-- A callback of company B from that time, which has no secret. -/
def keyless_callback : WebhookState where
  inner := (keyless_service.upsert_callback (ctx 1 "a") none {} "acme" "company_b" none keyless_body).2
  clock := 0
  jobs := []

theorem keyless_begins : keyless_callback.Begins := by
  refine ⟨?_, List.nodup_nil, rfl, rfl⟩
  exact HashMap.Keyed.empty.insert rfl

/-- Company A sets up a callback, and both companies have an event. -/
def two_callbacks : List WebhookLabel :=
  [.upsert_callback (ctx 2 "b") (some nonce) "acme" "company_a" none callback_body, .push_event dirty_event,
    .push_event { dirty_event with event_id := "evt_2", company_id := "company_b" }]

/-- The service of company A alone. -/
def one_callback : List WebhookLabel :=
  [.upsert_callback (ctx 2 "b") (some nonce) "acme" "company_a" none callback_body, .push_event dirty_event]

end sample

/-- A service whose only callback is in order. -/
theorem sound_callback_called : ∃ state,
    Run sample.webhook_service.Step sample.no_webhooks sample.one_callback state ∧
    (sample.webhook_service.pending_webhook_jobs (Duration.seconds 3) state.inner).length = 1 ∧
    ∀ inner, state.inner.Reordered inner → ∀ answers, WebhookService.ClientsBuilt answers →
      sample.webhook_service.CycleComplete (Duration.seconds 3) inner answers := by
  have hfollowed : (sample.followed sample.no_webhooks sample.one_callback).any (fun state =>
      (sample.webhook_service.pending_webhook_jobs (Duration.seconds 3) state.inner).length = 1 &&
        (sample.webhook_service.pending_webhook_jobs (Duration.seconds 3) state.inner).all fun job =>
          sample.webhook_service.deliverable job.callback) = true := by decide
  obtain ⟨state, hstate, hjobs⟩ := (Option.any_eq_true _ _).mp hfollowed
  rw [Bool.and_eq_true, decide_eq_true_eq, List.all_eq_true] at hjobs
  exact ⟨state, sample.followed_run _ _ _ hstate, hjobs.1,
    (webhook_cycle_iff sample.webhook_service ⟨rfl, rfl⟩ (Duration.seconds 3) state.inner).1.mpr hjobs.2⟩

/-- The callback of company B has no secret: where it comes first, company A is not called. -/
theorem broken_callback_blocks : ¬ WebhooksIndependent sample.webhook_service := by
  intro hclaim
  have hfollowed : (sample.followed sample.keyless_callback sample.two_callbacks).any (fun state =>
      ((sample.webhook_service.pending_webhook_jobs (Duration.seconds 3) state.inner).any fun job =>
        !sample.webhook_service.deliverable job.callback) &&
      (sample.webhook_service.pending_webhook_jobs (Duration.seconds 3) state.inner).any fun job =>
        sample.webhook_service.deliverable job.callback) = true := by decide
  obtain ⟨state, hstate, hjobs⟩ := (Option.any_eq_true _ _).mp hfollowed
  rw [Bool.and_eq_true, List.any_eq_true, List.any_eq_true] at hjobs
  obtain ⟨⟨broken, hbroken, hnot⟩, ⟨sound, hsound, hdeliverable⟩⟩ := hjobs
  have henabled : sample.webhook_service.webhook.delivery_enabled = true ∧
      sample.webhook_service.webhook_signal_enabled = true := ⟨rfl, rfl⟩
  obtain ⟨inner, hreordered, hnothing⟩ := WebhookService.exists_broken_first henabled hbroken
    ((Bool.not_eq_true' _).mp hnot)
  have hrun := sample.followed_run _ _ _ hstate
  obtain ⟨added, hadded, hattempts⟩ := hclaim _ _ state sample.keyless_begins hrun inner hreordered
    (Duration.seconds 3) (fun _ => WebhookService.no_answer) fun _ => rfl
  rw [hnothing _ fun _ => rfl] at hadded
  have hnone : added = [] := List.append_cancel_left (hadded.symm.trans (List.append_nil _).symm)
  obtain ⟨attempt, hattempt, -⟩ := hattempts sound
    ((WebhookService.mem_pending_reordered_iff hreordered).mpr hsound) hdeliverable
  rw [hnone] at hattempt
  cases hattempt

end rustzap.state
