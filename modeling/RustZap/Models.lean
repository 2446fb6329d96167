import RustZap.Lib.HashMap
import RustZap.Lib.Json
import RustZap.Lib.Text

open collections serde_json

namespace rustzap

/-- An instant, in nanoseconds since the Unix epoch. -/
abbrev OffsetDateTime := Int

/-- The bits of a 64-bit float. The program only copies them. -/
abbrev F64 := UInt64

namespace Duration

def seconds (n : Int) : Int := n * 1000000000

def minutes (n : Int) : Int := seconds (n * 60)

def hours (n : Int) : Int := minutes (n * 60)

def days (n : Int) : Int := hours (n * 24)

end Duration

/-- The readings one call takes from outside the program: the clock, and the
UUIDs it draws. A call that draws several numbers them. -/
structure Ctx where
  now : OffsetDateTime
  uuid : Nat → String

/-- The readings that remain once `draws` UUIDs have been used up. -/
def Ctx.skip (self : Ctx) (draws : Nat) : Ctx where
  now := self.now
  uuid n := self.uuid (n + draws)

namespace error

inductive ApiError where
  | BadRequest (message : String)
  | Unauthorized (message : String)
  | Forbidden (message : String)
  | NotFound (message : String)
  | Conflict (message : String)
  | IdempotencyConflict (message : String)
  | NotSupported (message : String)
  | RateLimited (message : String)
  | PayloadTooLarge (message : String)
  | ProviderError (message : String)
  | Internal (message : String)
  deriving Repr, DecidableEq

def ApiError.to_string : ApiError → String
  | .BadRequest m | .Unauthorized m | .Forbidden m | .NotFound m | .Conflict m
  | .IdempotencyConflict m | .NotSupported m | .RateLimited m | .PayloadTooLarge m
  | .ProviderError m | .Internal m => m

def ApiError.code : ApiError → String
  | .BadRequest _ => "bad_request"
  | .Unauthorized _ => "unauthorized"
  | .Forbidden _ => "forbidden"
  | .NotFound _ => "not_found"
  | .Conflict _ => "conflict"
  | .IdempotencyConflict _ => "idempotency_conflict"
  | .NotSupported _ => "not_supported"
  | .RateLimited _ => "rate_limited"
  | .PayloadTooLarge _ => "payload_too_large"
  | .ProviderError _ => "provider_error"
  | .Internal _ => "internal_error"

abbrev ApiResult := Except ApiError

end error

namespace models

structure Conversation where
  id : String
  project_id : String
  company_id : String
  channel_account_id : String
  conversation_type : String
  contact_id : Option String
  group_id : Option String
  display_name : Option String
  display_phone : Option String
  phone_number : Option String
  profile_picture_media_id : Option String
  avatar_url : Option String
  profile_picture_url : Option String
  last_seq : Int
  last_message_at : Option OffsetDateTime
  unread_count : Int
  is_archived : Bool
  is_muted : Bool
  is_pinned : Bool
  control_mode : String
  created_at : OffsetDateTime
  updated_at : OffsetDateTime
  deriving Repr, DecidableEq

inductive DeliveryState where
  | NotApplicable
  | Pending
  | Sent
  | Delivered
  | Read
  | Failed
  deriving Repr, DecidableEq

namespace DeliveryState

def for_message (direction message_type status : String) : DeliveryState :=
  if ¬ (direction = "outbound" ∨ direction = "out") ∨ message_type = "system" then .NotApplicable
  else if status = "queued" then .Pending
  else if status = "sent_to_whatsapp" ∨ status = "server_ack" then .Sent
  else if status = "delivered" then .Delivered
  else if status = "read" ∨ status = "played" then .Read
  else if status = "failed" then .Failed
  else .NotApplicable

/-- The snake case name under which a state is serialised. -/
def name : DeliveryState → String
  | .NotApplicable => "not_applicable"
  | .Pending => "pending"
  | .Sent => "sent"
  | .Delivered => "delivered"
  | .Read => "read"
  | .Failed => "failed"

end DeliveryState

structure Message where
  id : String
  project_id : String
  company_id : String
  conversation_id : String
  channel_account_id : String
  conversation_seq : Int
  wa_message_id : Option String
  direction : String
  sender_contact_id : Option String
  sender_display_name : Option String
  message_type : String
  text : Option String
  media_id : Option String
  media_url : Option String
  thumbnail_url : Option String
  mime_type : Option String
  file_name : Option String
  quoted_message_id : Option String
  status : String
  error_message : Option String
  is_starred : Bool
  is_pinned : Bool
  reaction : Option String
  sent_by_source : Option String
  sent_by_external_user_id : Option String
  created_at_wa : OffsetDateTime
  created_at : OffsetDateTime
  updated_at : OffsetDateTime
  deriving Repr, DecidableEq

def Message.delivery_state (self : Message) : DeliveryState :=
  DeliveryState.for_message self.direction self.message_type self.status

structure SendMessageRequest where
  message_type : String
  text : Option String
  media_id : Option String
  caption : Option String
  filename : Option String
  quoted_message_id : Option String
  metadata : Option Value

structure SimulateInboundTextRequest where
  conversation_id : Option String
  channel_id : Option String
  from_phone_e164 : Option String
  sender_name : Option String
  profile_picture_url : Option String
  text : String
  deriving DecidableEq

structure SimulateInboundMediaRequest where
  conversation_id : Option String
  channel_id : Option String
  from_phone_e164 : Option String
  sender_name : Option String
  media_type : Option String
  mime_type : Option String
  size_bytes : Option Nat
  filename : Option String
  caption : Option String
  profile_picture_url : Option String
  deriving DecidableEq

structure MessagesPage where
  conversation_id : String
  from_seq : Option Int
  to_seq : Option Int
  has_more : Bool
  messages : List Message
  deriving DecidableEq

structure QrState where
  channel_id : String
  status : String
  qr_code_text : Option String
  expires_at : OffsetDateTime
  deriving DecidableEq

structure MediaObject where
  id : String
  project_id : String
  company_id : String
  conversation_id : String
  message_id : Option String
  media_type : String
  mime_type : String
  original_filename : Option String
  size_bytes : Nat
  sha256 : String
  storage_status : String
  bucket : Option String
  object_key : Option String
  permanent_object_key : Option String
  public_url : Option String
  thumbnail_url : Option String
  width : Option Nat
  height : Option Nat
  duration_seconds : Option F64
  expires_at : Option OffsetDateTime
  saved_at : Option OffsetDateTime
  created_at : OffsetDateTime
  updated_at : OffsetDateTime
  deriving DecidableEq

structure Transcript where
  id : String
  project_id : String
  company_id : String
  message_id : String
  media_id : Option String
  provider : String
  model : String
  language : String
  text : Option String
  raw_response_json : Value
  status : String
  error_message : Option String
  created_at : OffsetDateTime
  updated_at : OffsetDateTime

structure DirtyConversationItem where
  conversation_id : String
  max_seq : Int
  reason : String
  priority : Int
  available_at : OffsetDateTime
  lease_token : String
  locked_until : OffsetDateTime
  deriving DecidableEq

structure DirtyAckRequest where
  consumer_id : String
  processed_until_seq : Int
  lease_token : String
  deriving DecidableEq

structure WebhookDeliveryAttempt where
  id : String
  project_id : String
  company_id : String
  callback_id : String
  event_id : String
  attempt : Nat
  status : String
  http_status : Option Nat
  error_message : Option String
  first_failed_at : Option OffsetDateTime
  last_failed_at : Option OffsetDateTime
  next_retry_at : Option OffsetDateTime
  created_at : OffsetDateTime
  deriving DecidableEq

structure CommonEvent where
  event_id : String
  event_type : String
  project_id : String
  company_id : String
  channel_id : Option String
  conversation_id : Option String
  message_id : Option String
  conversation_seq : Option Int
  trace_id : String
  causation_id : Option String
  correlation_id : String
  occurred_at : OffsetDateTime
  produced_at : OffsetDateTime
  payload : Value

end models

end rustzap
