import RustZap.State.Callbacks

open collections serde_json
open rustzap.error rustzap.models rustzap.secrets

namespace rustzap.state

structure WebhookDeliveryJob where
  callback : Value
  event : CommonEvent
  attempt : Nat
  first_failed_at : Option OffsetDateTime

structure WebhookAttemptInput where
  callback_id : String
  event : CommonEvent
  attempt : Nat
  status : String
  http_status : Option Nat
  error_message : Option String
  first_failed_at : Option OffsetDateTime
  next_retry_at : Option OffsetDateTime

/-- What is posted to a callback. -/
structure WebhookRequest where
  url : String
  timeout_seconds : Nat
  signature : String
  timestamp : String
  event_id : String
  body : Value

/-- The answer of a callback's server: the status code, and how it is displayed. -/
structure WebhookResponse where
  status : Nat
  display : String

def WebhookResponse.is_success (response : WebhookResponse) : Bool :=
  200 ≤ response.status && response.status < 300

/-- What one delivery learns from outside: the clock when the request is signed, when the
retry is planned and when the attempt is recorded, the id of the attempt, whether an HTTP
client could be built, and what came back. -/
structure DeliveryAnswers where
  signed_at : OffsetDateTime
  planned_at : OffsetDateTime
  recorded_at : OffsetDateTime
  attempt_id : String
  client : Except String Unit
  send : WebhookRequest → Except String WebhookResponse

def callback_subscribes_to_event (callback : Value) (event_type : String) : Bool :=
  ((callback.get "events").bind Value.as_array).all fun events =>
    events.any fun event => event.as_str.any fun name => name = "*" || name = event_type

def compact_payload : Value → Value
  | .object fields => .object (compact_fields fields)
  | .array items => .array (compact_items items)
  | other => other
where
  compact_fields : List (String × Value) → List (String × Value)
    | [] => []
    | (key, value) :: fields =>
      if ["text", "caption", "bytes", "raw_response_json", "transcript", "media"].contains key then
        compact_fields fields
      else (key, compact_payload value) :: compact_fields fields
  compact_items : List Value → List Value
    | [] => []
    | item :: items => compact_payload item :: compact_items items

/-- The retries back off: the delay doubles from attempt to attempt, up to a limit. -/
def next_webhook_retry_at (now : OffsetDateTime) (attempt retry_base_seconds retry_max_seconds : Nat) :
    OffsetDateTime :=
  let exponent := min (attempt - 1) 16
  let delay := min (min (retry_base_seconds * 2 ^ exponent) (2 ^ 64 - 1)) (max retry_max_seconds 1)
  now + Duration.seconds (min delay (2 ^ 63 - 1) : Nat)

/-- The attempts for an event at a callback, in the order in which they were recorded. -/
def StoreInner.attempts_of (inner : StoreInner) (callback_id event_id : String) : List WebhookDeliveryAttempt :=
  inner.webhook_delivery_attempts.filter fun attempt =>
    attempt.callback_id = callback_id && attempt.event_id = event_id

/-- The attempt with the highest number, the last one of these. -/
def last_attempt (attempts : List WebhookDeliveryAttempt) : Option WebhookDeliveryAttempt :=
  attempts.foldl (fun last attempt => match last with
    | some best => if best.attempt ≤ attempt.attempt then some attempt else some best
    | none => some attempt) none

namespace WebhookService

variable (self : WebhookService)

def webhook_signature (secret timestamp : String) (raw_body : List UInt8) : String :=
  self.hmac_sha256_hex (as_bytes secret) (as_bytes timestamp ++ as_bytes "." ++ raw_body)

def compact_webhook_event (event : CommonEvent) : Value :=
  .object [("event_id", .string event.event_id), ("event_type", .string event.event_type),
    ("project_id", .string event.project_id), ("company_id", .string event.company_id),
    ("channel_id", Value.of_option event.channel_id), ("conversation_id", Value.of_option event.conversation_id),
    ("message_id", Value.of_option event.message_id),
    ("conversation_seq", event.conversation_seq.elim .null .number),
    ("occurred_at", .string (self.app.host.ts event.occurred_at)), ("payload", compact_payload event.payload)]

/-- The next attempt for an event at a callback, when there is one to make. -/
def next_attempt (now : OffsetDateTime) (callback : Value) (event : CommonEvent)
    (attempts : List WebhookDeliveryAttempt) : Option WebhookDeliveryJob :=
  if attempts.any fun attempt => attempt.status = "success" then none
  else match last_attempt attempts with
    | none => some { callback, event, attempt := 1, first_failed_at := none }
    | some last_attempt =>
      if last_attempt.attempt ≥ self.webhook.max_retries then none
      else if last_attempt.next_retry_at.any fun next_retry_at => next_retry_at > now then none
      else some {
        callback, event
        attempt := min (last_attempt.attempt + 1) (2 ^ 32 - 1)
        first_failed_at := last_attempt.first_failed_at.or (some last_attempt.created_at) }

/-- The job of a callback for one event of its company that it subscribes to. -/
def pending_job (now : OffsetDateTime) (inner : StoreInner) (callback : Value) (event : CommonEvent) :
    Option WebhookDeliveryJob :=
  if event.project_id ≠ (callback.get_str "project_id").getD "" ∨
      event.company_id ≠ (callback.get_str "company_id").getD "" then none
  else if !callback_subscribes_to_event callback event.event_type then none
  else self.next_attempt now callback event
    (inner.attempts_of ((callback.get_str "id").getD "") event.event_id)

def pending_webhook_jobs (now : OffsetDateTime) (inner : StoreInner) : List WebhookDeliveryJob :=
  inner.callbacks.values.flatMap fun callback =>
    if (callback.get "enabled").bind Value.as_bool ≠ some true then []
    else inner.events.filterMap (self.pending_job now inner callback)

end WebhookService

def WebhookDeliveryJob.callback_id (job : WebhookDeliveryJob) : String :=
  (job.callback.get_str "id").getD ""

/-- The attempt as it is recorded. -/
def webhook_attempt (now : OffsetDateTime) (attempt_id : String) (input : WebhookAttemptInput) :
    WebhookDeliveryAttempt where
  id := attempt_id
  project_id := input.event.project_id
  company_id := input.event.company_id
  callback_id := input.callback_id
  event_id := input.event.event_id
  attempt := input.attempt
  status := input.status
  http_status := input.http_status
  error_message := input.error_message
  first_failed_at := if input.status = "failed" then input.first_failed_at.or (some now) else none
  last_failed_at := if input.status = "failed" then some now else none
  next_retry_at := input.next_retry_at
  created_at := now

def record_webhook_attempt (now : OffsetDateTime) (attempt_id : String) (inner : StoreInner)
    (input : WebhookAttemptInput) : StoreInner :=
  { inner with
    webhook_delivery_attempts := inner.webhook_delivery_attempts ++ [webhook_attempt now attempt_id input] }

namespace WebhookService

variable (self : WebhookService)

/-- The attempt that the answer of the callback's server amounts to. -/
def attempt_input (planned_at : OffsetDateTime) (job : WebhookDeliveryJob) :
    Except String WebhookResponse → WebhookAttemptInput
  | .ok response =>
    if response.is_success then
      { callback_id := job.callback_id, event := job.event, attempt := job.attempt, status := "success",
        http_status := some response.status, error_message := none, first_failed_at := none,
        next_retry_at := none }
    else
      { callback_id := job.callback_id, event := job.event, attempt := job.attempt, status := "failed",
        http_status := some response.status, error_message := some ("webhook returned " ++ response.display),
        first_failed_at := job.first_failed_at,
        next_retry_at := some (next_webhook_retry_at planned_at job.attempt self.webhook.retry_base_seconds
          self.webhook.retry_max_seconds) }
  | .error err =>
    { callback_id := job.callback_id, event := job.event, attempt := job.attempt, status := "failed",
      http_status := none, error_message := some err, first_failed_at := job.first_failed_at,
      next_retry_at := some (next_webhook_retry_at planned_at job.attempt self.webhook.retry_base_seconds
        self.webhook.retry_max_seconds) }

/-- The secret with which a callback's requests are signed. -/
def callback_secret (callback : Value) : ApiResult String :=
  match callback.get_str "encrypted_secret" with
  | none => .error (.Internal ("callback " ++ (callback.get_str "id").getD "" ++ " is missing encrypted_secret"))
  | some encrypted_secret => self.decrypt_callback_secret encrypted_secret

/-- The request of a job, signed with the callback's secret. -/
def webhook_request (signed_at : OffsetDateTime) (job : WebhookDeliveryJob) (url secret : String) :
    WebhookRequest :=
  let body := Value.object [("events", .array [self.compact_webhook_event job.event])]
  let timestamp := toString (signed_at / 1000000000)
  { url
    timeout_seconds := max (((job.callback.get "timeout_seconds").bind Value.as_u64).getD
      self.webhook.timeout_seconds) 1
    signature := self.webhook_signature secret timestamp (self.to_vec body)
    timestamp
    event_id := job.event.event_id
    body }

def deliver_webhook_job (answers : DeliveryAnswers) (inner : StoreInner) (job : WebhookDeliveryJob) :
    ApiResult Unit × StoreInner :=
  match job.callback.get_str "url" with
  | none => (.error (.BadRequest "callback url is required"), inner)
  | some url =>
    match self.callback_secret job.callback with
    | .error err => (.error err, inner)
    | .ok secret =>
      match answers.client with
      | .error err => (.error (.Internal ("failed to build webhook client: " ++ err)), inner)
      | .ok _ =>
        let response := answers.send (self.webhook_request answers.signed_at job url secret)
        (.ok (), record_webhook_attempt answers.recorded_at answers.attempt_id inner
          (self.attempt_input answers.planned_at job response))

/-- The deliveries of a cycle, one after the other. The first that fails to get as far as
an attempt ends the cycle. -/
def deliver_jobs (inner : StoreInner) :
    List WebhookDeliveryJob → (Nat → DeliveryAnswers) → Nat → ApiResult Nat × StoreInner
  | [], _, delivered => (.ok delivered, inner)
  | job :: jobs, answers, delivered =>
    match self.deliver_webhook_job (answers delivered) inner job with
    | (.error err, inner) => (.error err, inner)
    | (.ok _, inner) => deliver_jobs inner jobs answers (delivered + 1)

def deliver_pending_webhooks_once (now : OffsetDateTime) (inner : StoreInner)
    (answers : Nat → DeliveryAnswers) : ApiResult Nat × StoreInner :=
  if !self.webhook.delivery_enabled || !self.webhook_signal_enabled then (.ok 0, inner)
  else self.deliver_jobs inner (self.pending_webhook_jobs now inner) answers 0

end WebhookService

end rustzap.state
