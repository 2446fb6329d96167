import RustZap.Models

open serde_json

namespace rustzap.whatsapp

def is_updates_surface_jid (jid : String) : Bool :=
  let normalized := str.to_ascii_lowercase (str.trim jid)
  normalized = "status@broadcast" || str.ends_with normalized "@newsletter" ||
    str.ends_with normalized "@broadcast"

/-- The session path of the source goes beside the runtime where a session is opened
or wiped. Nothing else reads it. -/
structure ChannelRuntime where
  project_id : String
  company_id : String
  channel_id : String
  deriving DecidableEq

structure ContactProfile where
  requested_jid : String
  resolved_jid : Option String
  lid : Option String
  phone_e164 : Option String
  business_description : Option String
  profile_picture_id : Option String
  profile_picture_media_id : Option String
  profile_picture_url : Option String
  deriving DecidableEq

structure OutboundMediaMessage where
  media_type : String
  mime_type : String
  filename : Option String
  caption : Option String
  bytes : List UInt8
  ptt : Bool
  deriving DecidableEq

structure InboundMediaDescriptor where
  media_type : String
  mime_type : String
  filename : Option String
  caption : Option String
  direct_path : String
  media_key_b64 : String
  file_sha256_b64 : String
  file_enc_sha256_b64 : String
  file_length : Nat
  width : Option Nat
  height : Option Nat
  duration_seconds : Option F64
  deriving DecidableEq

def InboundMediaDescriptor.to_json (self : InboundMediaDescriptor) : Value :=
  .object [("media_type", .string self.media_type), ("mime_type", .string self.mime_type),
    ("filename", Value.of_option self.filename), ("caption", Value.of_option self.caption),
    ("direct_path", .string self.direct_path), ("media_key_b64", .string self.media_key_b64),
    ("file_sha256_b64", .string self.file_sha256_b64),
    ("file_enc_sha256_b64", .string self.file_enc_sha256_b64),
    ("file_length", .number self.file_length), ("width", Value.of_option_nat self.width),
    ("height", Value.of_option_nat self.height),
    ("duration_seconds", self.duration_seconds.elim .null .float)]

structure GroupParticipantProfile where
  contact_id : String
  phone_jid : Option String
  is_admin : Bool
  deriving DecidableEq

structure GroupProfile where
  group_jid : String
  subject : Option String
  description : Option String
  owner_jid : Option String
  subject_owner_jid : Option String
  created_at_wa_unix : Option Nat
  size : Option Nat
  profile_picture_id : Option String
  profile_picture_media_id : Option String
  profile_picture_url : Option String
  participants : List GroupParticipantProfile
  deriving DecidableEq

/-- The life of a pairing code, kept between one second and five minutes. -/
def qr_expires_at (now : OffsetDateTime) (timeout_secs : Nat) : OffsetDateTime :=
  let secs : Int := if timeout_secs < 2 ^ 63 then timeout_secs else 20
  now + Duration.seconds (max 1 (min secs 300))

/-- The fields of a `Message` event. -/
structure MessageEvent where
  wa_message_id : String
  chat_jid : String
  sender_jid : String
  sender_alt_jid : Option String
  recipient_jid : Option String
  recipient_alt_jid : Option String
  push_name : Option String
  text : Option String
  message_type : String
  media : Option InboundMediaDescriptor
  created_at_wa : OffsetDateTime
  is_from_me : Bool
  deriving DecidableEq

/-- The fields of a `Receipt` event. -/
structure ReceiptEvent where
  wa_message_ids : List String
  receipt_type : String
  chat_jid : String
  created_at_wa : OffsetDateTime
  deriving DecidableEq

inductive WhatsappEvent where
  | Connected
  | Disconnected
  | LoggedOut (reason : String)
  | PairingQrCode (code : String) (timeout_secs : Nat)
  | HistorySyncIgnored
  | Message (event : MessageEvent)
  | Receipt (event : ReceiptEvent)
  | GroupUpdate (group_jid : String) (subject : Option String) (created_at_wa : OffsetDateTime)
  | Diagnostic (event_type : String) (payload : Value)

end rustzap.whatsapp
