import RustZap.Whatsapp

open rustzap.models

namespace rustzap

namespace config

inductive StorageProvider where
  | LocalFs
  | R2
  deriving DecidableEq

structure R2Config where
  bucket : String
  public_url : Option String
  base_prefix : String

/-- The settings that the modelled functions read. -/
structure AppConfig where
  dev_mode : Bool
  public_base_url : String
  storage_provider : StorageProvider
  r2 : R2Config
  stt_max_audio_mb : Nat
  media_sniff_magic_bytes : Bool
  media_temp_retention_days : Nat
  media_quick_delete_threshold_mb : Nat
  media_reject_threshold_mb : Nat

def R2Config.public_object_url (self : R2Config) (object_key : String) : Option String :=
  self.public_url.map fun base =>
    str.trim_end_matches base '/' ++ "/" ++ str.trim_start_matches object_key '/'

def AppConfig.public_object_url (self : AppConfig) (object_key : String) : Option String :=
  if self.storage_provider ≠ .R2 then none else self.r2.public_object_url object_key

def AppConfig.dev_media_url (self : AppConfig) (media_id : String) : String :=
  str.trim_end_matches self.public_base_url '/' ++ "/dev-media/" ++ media_id

/-- The settings that an empty environment gives. -/
def AppConfig.from_env : AppConfig where
  dev_mode := true
  public_base_url := "http://localhost:8167"
  storage_provider := .LocalFs
  r2 := { bucket := "devbucket", public_url := none, base_prefix := "rustyzap" }
  stt_max_audio_mb := 25
  media_sniff_magic_bytes := true
  media_temp_retention_days := 30
  media_quick_delete_threshold_mb := 25
  media_reject_threshold_mb := 100

end config

/-- What the service takes from the crates it uses: SHA-256 in hexadecimal, the
hash of a serialised request, base64 decoding to hexadecimal, the calendar date
of an instant and its RFC 3339 text. -/
structure Host where
  sha256_hex : List UInt8 → String
  sha256_json : SendMessageRequest → String
  base64_to_hex : String → Option String
  format_date : OffsetDateTime → String
  ts : OffsetDateTime → String

/-- The part of the service that no call changes. -/
structure AppState where
  config : config.AppConfig
  host : Host

namespace media

inductive MediaDecision where
  | Temp
  | Quarantine
  | Rejected
  deriving DecidableEq

structure MediaLimits where
  quick_delete_threshold_mb : Nat
  reject_threshold_mb : Nat

/-- The products are those of 64-bit arithmetic. -/
def MediaLimits.classify (self : MediaLimits) (size_bytes : Nat) : MediaDecision :=
  let quick := self.quick_delete_threshold_mb * 1024 * 1024 % 2 ^ 64
  let reject := self.reject_threshold_mb * 1024 * 1024 % 2 ^ 64
  if size_bytes > reject then .Rejected
  else if size_bytes > quick then .Quarantine
  else .Temp

/-- The bytes of an ASCII literal, as the source's `b"..."`. -/
def ascii (text : String) : List UInt8 :=
  text.toList.map fun c => UInt8.ofNat c.toNat

/-- The slice `bytes[start..stop]`, when the bytes reach that far. -/
def slice (bytes : List UInt8) (start stop : Nat) : Option (List UInt8) :=
  if stop ≤ bytes.length then some ((bytes.take stop).drop start) else none

def sniff_mime_from_magic (bytes : List UInt8) : Option String :=
  if ([0x89] ++ ascii "PNG\r\n" ++ [0x1a, 0x0a]).isPrefixOf bytes then some "image/png"
  else if [0xff, 0xd8, 0xff].isPrefixOf bytes then some "image/jpeg"
  else if bytes.length ≥ 12 && slice bytes 0 4 = some (ascii "RIFF") &&
      slice bytes 8 12 = some (ascii "WEBP") then some "image/webp"
  else if (ascii "GIF87a").isPrefixOf bytes || (ascii "GIF89a").isPrefixOf bytes then some "image/gif"
  else if (ascii "%PDF-").isPrefixOf bytes then some "application/pdf"
  else if (ascii "OggS").isPrefixOf bytes then some "audio/ogg"
  else if (ascii "RIFF").isPrefixOf bytes && slice bytes 8 12 = some (ascii "WAVE") then some "audio/wav"
  else if (ascii "ID3").isPrefixOf bytes || [0xff, 0xfb].isPrefixOf bytes then some "audio/mpeg"
  else if bytes.length ≥ 12 && slice bytes 4 8 = some (ascii "ftyp") then some "video/mp4"
  else none

def magic_matches_mime (declared_mime : Option String) (bytes : List UInt8) : Bool :=
  match sniff_mime_from_magic bytes, declared_mime with
  | none, _ => true
  | some _, none => true
  | some sniffed, some declared =>
    let declared := str.to_ascii_lowercase (str.trim (str.first_piece declared ';'))
    declared = sniffed || (declared = "audio/mp4" && sniffed = "video/mp4") ||
      (declared = "video/quicktime" && sniffed = "video/mp4")

structure R2ObjectKeyInput where
  base_prefix : String
  storage_class : String
  project_id : String
  company_id : String
  channel_id : String
  conversation_id : Option String
  entity_type : Option String
  entity_id : Option String
  date : String
  media_id : String
  ext : String

/-- The first twelve bytes of the digest, in hexadecimal. -/
def opaque_id_hash (host : Host) (value : String) : String :=
  String.ofList ((host.sha256_hex value.toUTF8.data.toList).toList.take 24)

def conversation_hash (host : Host) (conversation_id : String) : String :=
  opaque_id_hash host conversation_id

def r2_object_key (host : Host) (input : R2ObjectKeyInput) : String :=
  let ext := str.trim_start_matches input.ext '.'
  let channel_hash := opaque_id_hash host input.channel_id
  if input.storage_class = "permanent" then
    input.base_prefix ++ "/permanent/project=" ++ input.project_id ++ "/company=" ++
      input.company_id ++ "/entity=" ++ input.entity_type.getD "unknown" ++ "/entity_id_hash=" ++
      (input.entity_id.map (opaque_id_hash host)).getD "unknown" ++ "/date=" ++ input.date ++
      "/media=" ++ input.media_id ++ "." ++ ext
  else if input.storage_class = "outbound-temp" then
    input.base_prefix ++ "/outbound-temp/project=" ++ input.project_id ++ "/company=" ++
      input.company_id ++ "/channel_hash=" ++ channel_hash ++ "/date=" ++ input.date ++
      "/upload=" ++ input.media_id ++ "." ++ ext
  else
    input.base_prefix ++ "/" ++ input.storage_class ++ "/project=" ++ input.project_id ++
      "/company=" ++ input.company_id ++ "/channel_hash=" ++ channel_hash ++
      "/conversation_hash=" ++ ((input.conversation_id.map (conversation_hash host)).getD "unknown") ++
      "/date=" ++ input.date ++ "/media=" ++ input.media_id ++ "." ++ ext

end media

namespace state

open error whatsapp

def normalize_media_type (value : String) : ApiResult String :=
  let normalized := str.to_ascii_lowercase (str.trim value)
  if normalized = "image" ∨ normalized = "audio" ∨ normalized = "document" then .ok normalized
  else if normalized = "file" ∨ normalized = "application" then .ok "document"
  else if normalized = "" then .error (.BadRequest "media type is empty")
  else .error (.BadRequest ("unsupported outbound media type " ++ normalized))

def infer_media_type (mime_type : String) : String :=
  if str.starts_with mime_type "image/" then "image"
  else if str.starts_with mime_type "audio/" then "audio"
  else "document"

def normalize_inbound_media_type (value mime_type : String) : String :=
  let normalized := str.to_ascii_lowercase (str.trim value)
  if normalized = "image" ∨ normalized = "audio" ∨ normalized = "video" ∨ normalized = "document" then
    normalized
  else if normalized = "file" ∨ normalized = "application" then "document"
  else if str.starts_with mime_type "video/" then "video"
  else infer_media_type mime_type

def descriptor_sha256_hex (host : Host) (descriptor : InboundMediaDescriptor) : String :=
  (host.base64_to_hex descriptor.file_sha256_b64).getD ""

/-- The length of an extension is counted in bytes. -/
def file_extension (filename : String) : Option String :=
  ((str.last_piece filename '.').map str.trim).filter fun ext =>
    !str.is_empty ext && ext.utf8ByteSize ≤ 12

def extension_for_mime (mime_type : String) : String :=
  match str.trim (str.first_piece mime_type ';') with
  | "image/jpeg" => "jpg"
  | "image/png" => "png"
  | "image/gif" => "gif"
  | "image/webp" => "webp"
  | "image/svg+xml" => "svg"
  | "audio/ogg" => "ogg"
  | "audio/webm" => "webm"
  | "audio/mpeg" => "mp3"
  | "audio/mp4" => "m4a"
  | "video/mp4" => "mp4"
  | "video/quicktime" => "mov"
  | "application/pdf" => "pdf"
  | "text/plain" => "txt"
  | _ => "bin"

end state

end rustzap
