import RustZap.State.Transcripts

open collections serde_json
open rustzap.error rustzap.eventbus rustzap.media rustzap.models rustzap.transcription rustzap.whatsapp

namespace rustzap.state

structure InboundMediaRecordInput where
  runtime : ChannelRuntime
  message : Message
  conversation_id : String
  descriptor : InboundMediaDescriptor
  media_id : String
  size_bytes : Nat
  sha256 : String
  storage_status : String
  object_key : Option String

def InboundMediaRecordInput.media_type (input : InboundMediaRecordInput) : String :=
  normalize_inbound_media_type input.descriptor.media_type input.descriptor.mime_type

/-- The media object that an inbound media leaves in the store. -/
def InboundMediaRecordInput.media (input : InboundMediaRecordInput) (self : AppState)
    (now : OffsetDateTime) : MediaObject :=
  let local_url := if self.config.dev_mode && input.storage_status ≠ "rejected" then
      some (self.config.dev_media_url input.media_id)
    else none
  let public_url := (input.object_key.bind self.config.public_object_url).or local_url
  { id := input.media_id
    project_id := input.runtime.project_id
    company_id := input.runtime.company_id
    conversation_id := input.conversation_id
    message_id := some input.message.id
    media_type := input.media_type
    mime_type := str.trim input.descriptor.mime_type
    original_filename := input.descriptor.filename
    size_bytes := input.size_bytes
    sha256 := input.sha256
    storage_status := input.storage_status
    bucket := input.object_key.map fun _ => self.config.r2.bucket
    object_key := input.object_key
    permanent_object_key := none
    public_url
    thumbnail_url := if input.media_type = "image" then public_url else none
    width := input.descriptor.width
    height := input.descriptor.height
    duration_seconds := input.descriptor.duration_seconds
    expires_at := if input.storage_status ≠ "rejected" then
        some (now + Duration.days self.config.media_temp_retention_days)
      else none
    saved_at := none
    created_at := now
    updated_at := now }

/-- An event of the channel about a message. -/
def channel_event (ctx : Ctx) (draw : Nat) (event_type : String) (runtime : ChannelRuntime)
    (conversation_id : String) (message : Message) (payload : Value) : CommonEvent :=
  new_event ctx draw event_type runtime.project_id runtime.company_id (some runtime.channel_id)
    (some conversation_id) (some message.id) (some message.conversation_seq) payload

/-- The event that announces stored media; rejected media has none. -/
def publish_media_stored (ctx : Ctx) (inner : StoreInner) (input : InboundMediaRecordInput)
    (message : Message) (media : MediaObject) : StoreInner :=
  if media.storage_status ≠ "rejected" then
    push_event_inner inner (channel_event ctx 2 "media.stored" input.runtime input.conversation_id message
      (.object [("message_id", .string message.id), ("media_id", .string media.id),
        ("media_type", .string media.media_type), ("mime_type", .string media.mime_type),
        ("storage_status", .string media.storage_status), ("size_bytes", .number media.size_bytes)]))
  else inner

/-- Stored audio gets a transcript of its message, pending, and a request for it. -/
def request_inbound_transcript (ctx : Ctx) (inner : StoreInner) (input : InboundMediaRecordInput)
    (message : Message) (media : MediaObject) : StoreInner :=
  if media.media_type = "audio" ∧ media.storage_status ≠ "rejected" then
    let transcript := transcript_with_lifecycle ctx 5 input.runtime.project_id input.runtime.company_id
      message.id (some media.id) .Pending none
    push_event_inner { inner with transcripts := inner.transcripts.insert message.id transcript }
      (channel_event ctx 6 "audio.transcription.requested" input.runtime input.conversation_id message
        (.object (transcript_payload message media transcript)))
  else inner

def record_inbound_media_object (self : AppState) (ctx : Ctx) (inner : StoreInner)
    (input : InboundMediaRecordInput) : MediaObject × StoreInner :=
  let media := input.media self ctx.now
  let inner := { inner with media := inner.media.insert media.id media }
  let attached := attach_media_to_message_inner ctx.now inner input.message.id media
  let message := attached.1.getD input.message
  let inner := publish_media_stored ctx attached.2 input message media
  (media, request_inbound_transcript ctx inner input message media)

/-- What the handling of an inbound media learns from outside: the download, the
staging on disk and the byte store's answer. It happens after the message has
been recorded and has its own clock and UUIDs. -/
structure InboundMediaAnswers where
  ctx : Ctx
  download : Except String (List UInt8)
  staged : ApiResult Unit
  put : Except String Unit

def record_media_storage_failed_event (ctx : Ctx) (inner : StoreInner) (runtime : ChannelRuntime)
    (message : Message) (conversation_id media_id code error : String) : StoreInner :=
  push_event_inner inner (channel_event ctx 2 "media.storage_failed" runtime conversation_id message
    (.object [("message_id", .string message.id), ("media_id", .string media_id),
      ("code", .string code), ("error", .string error)]))

/-- The object key under which the bytes of an inbound media are kept. -/
def inbound_object_key (self : AppState) (now : OffsetDateTime) (runtime : ChannelRuntime)
    (conversation_id : String) (descriptor : InboundMediaDescriptor) (media_id storage_status : String) :
    String :=
  r2_object_key self.host
    { base_prefix := self.config.r2.base_prefix, storage_class := storage_status,
      project_id := runtime.project_id, company_id := runtime.company_id,
      channel_id := runtime.channel_id, conversation_id := some conversation_id, entity_type := none,
      entity_id := none, date := self.host.format_date now, media_id,
      ext := (descriptor.filename.bind file_extension).getD (extension_for_mime descriptor.mime_type) }

def store_downloaded_inbound_media (self : AppState) (inner : StoreInner) (runtime : ChannelRuntime)
    (message : Message) (conversation_id : String) (descriptor : InboundMediaDescriptor)
    (bytes : List UInt8) (answers : InboundMediaAnswers) : ApiResult MediaObject × StoreInner :=
  if bytes = [] then (.error (.BadRequest "downloaded WhatsApp media is empty"), inner)
  else
    let ctx := answers.ctx
    let decision := (media_limits self).classify bytes.length
    let media_id := "media_" ++ ctx.uuid 1
    if decision = .Rejected then
      let recorded := record_inbound_media_object self ctx inner
        { runtime, message, conversation_id, descriptor, media_id, size_bytes := bytes.length,
          sha256 := self.host.sha256_hex bytes, storage_status := "rejected", object_key := none }
      (.ok recorded.1, recorded.2)
    else match answers.staged with
      | .error err => (.error err, inner)
      | .ok _ =>
        if self.config.media_sniff_magic_bytes &&
            !magic_matches_mime (some descriptor.mime_type) bytes then
          (.error (.BadRequest ("downloaded WhatsApp media magic bytes do not match declared MIME type "
            ++ descriptor.mime_type)), inner)
        else
          let storage_status := if decision = .Temp then "temp" else "quarantine"
          match answers.put with
          | .error err =>
            (.error (.ProviderError err), record_media_storage_failed_event ctx inner runtime message
              conversation_id media_id "byte_store_put_failed" err)
          | .ok _ =>
            let recorded := record_inbound_media_object self ctx inner
              { runtime, message, conversation_id, descriptor, media_id, size_bytes := bytes.length,
                sha256 := self.host.sha256_hex bytes, storage_status,
                object_key := some (inbound_object_key self ctx.now runtime conversation_id descriptor
                  media_id storage_status) }
            (.ok recorded.1, recorded.2)

def download_and_store_inbound_media (self : AppState) (inner : StoreInner) (runtime : ChannelRuntime)
    (message : Message) (conversation_id : String) (descriptor : InboundMediaDescriptor)
    (answers : InboundMediaAnswers) : ApiResult MediaObject × StoreInner :=
  if (media_limits self).classify descriptor.file_length = .Rejected then
    let recorded := record_inbound_media_object self answers.ctx inner
      { runtime, message, conversation_id, descriptor, media_id := "media_" ++ answers.ctx.uuid 0,
        size_bytes := descriptor.file_length, sha256 := descriptor_sha256_hex self.host descriptor,
        storage_status := "rejected", object_key := none }
    (.ok recorded.1, recorded.2)
  else match answers.download with
    | .error err => (.error (.Internal ("failed to download WhatsApp media: " ++ err)), inner)
    | .ok bytes =>
      store_downloaded_inbound_media self inner runtime message conversation_id descriptor bytes answers

end rustzap.state
