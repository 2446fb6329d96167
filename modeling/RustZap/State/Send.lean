import RustZap.State.Record

open collections serde_json
open rustzap.error rustzap.eventbus rustzap.media rustzap.models

namespace rustzap.state

structure SendMessageOutcome where
  message : Message
  should_dispatch : Bool
  deriving DecidableEq

/-- The answer to a request whose idempotency key is already known. -/
def replay_send (inner : StoreInner) (record : IdempotencyRecord) (request_hash : String) :
    ApiResult SendMessageOutcome :=
  if record.request_hash = request_hash then
    match inner.messages_by_id.lookup record.message_id with
    | some message => .ok { message, should_dispatch := false }
    | none => .error (.Internal ("cached idempotency message " ++ record.message_id ++ " missing"))
  else .error (.IdempotencyConflict "same Idempotency-Key used with different request body")

/-- The media that a request sends: one of the tenant's, uploaded to this
conversation and not rejected. -/
def media_for_send (inner : StoreInner) (project_id company_id conversation_id : String)
    (media_id : Option String) : ApiResult (Option MediaObject) :=
  match media_id with
  | none => .ok none
  | some media_id =>
    let not_found := ApiError.NotFound ("media " ++ media_id ++ " not found")
    match inner.media.lookup media_id with
    | none => .error not_found
    | some media =>
      if media.project_id ≠ project_id ∨ media.company_id ≠ company_id then .error not_found
      else if media.conversation_id ≠ conversation_id then
        .error (.BadRequest ("media " ++ media_id ++ " belongs to conversation " ++ media.conversation_id))
      else if media.storage_status = "rejected" then
        .error (.PayloadTooLarge ("media " ++ media_id ++ " was rejected by the upload policy"))
      else .ok (some media)

/-- The stored media now names the message, and the message the media. -/
def link_media (ctx : Ctx) (inner : StoreInner) (message : Message) (media : MediaObject) :
    Message × StoreInner :=
  let linked := match inner.media.lookup media.id with
    | some stored =>
      let stored := { stored with message_id := some message.id, updated_at := ctx.now }
      (stored, { inner with media := inner.media.insert media.id stored })
    | none => (media, inner)
  let attached := attach_media_to_message_inner ctx.now linked.2 message.id linked.1
  (attached.1.getD message, attached.2)

/-- The channel through which a conversation sends. -/
def send_channel (inner : StoreInner) (project_id company_id conversation_id : String) : Option String :=
  ((inner.conversations.lookup conversation_id).map Conversation.channel_account_id).or
    (connected_channel_for_project_company inner project_id company_id)

/-- The recording of an outbound message, with its media already checked. -/
def queue_outbound (ctx : Ctx) (inner : StoreInner) (project_id company_id conversation_id : String)
    (request : SendMessageRequest) (sent_by_external_user_id : Option String)
    (media : Option MediaObject) : Message × StoreInner :=
  let recorded := record_message_inner ctx inner
    { project_id, company_id, conversation_id
      direction := "outbound"
      message_type := (media.map MediaObject.media_type).getD request.message_type
      text := request.text.or request.caption
      status := "queued"
      quoted_message_id := request.quoted_message_id
      channel_account_id := send_channel inner project_id company_id conversation_id
      sender_contact_id := none
      sender_display_name := none
      sender_profile_picture_url := none
      sent_by_external_user_id }
  match media with
  | some media => link_media ctx recorded.2 recorded.1 media
  | none => recorded

def prepare_send_message_with_actor (self : AppState) (ctx : Ctx) (inner : StoreInner)
    (project_id company_id conversation_id idempotency_key : String) (request : SendMessageRequest)
    (sent_by_external_user_id : Option String) : ApiResult SendMessageOutcome × StoreInner :=
  let request_hash := self.host.sha256_json request
  let idem_key := (project_id, company_id, idempotency_key)
  let conversation_id := resolve_conversation_id_inner inner project_id company_id conversation_id
  match inner.idempotency.lookup idem_key with
  | some record => (replay_send inner record request_hash, inner)
  | none =>
    match media_for_send inner project_id company_id conversation_id request.media_id with
    | .error err => (.error err, inner)
    | .ok media =>
      let queued := queue_outbound ctx inner project_id company_id conversation_id request
        sent_by_external_user_id media
      let message := queued.1
      let inner := { queued.2 with
        idempotency := queued.2.idempotency.insert idem_key { request_hash, message_id := message.id } }
      (.ok { message, should_dispatch := true },
        push_event_inner inner (new_event ctx 8 "outbound.send.requested" project_id company_id
          (some message.channel_account_id) (some conversation_id) (some message.id)
          (some message.conversation_seq)
          (.object [("message_id", .string message.id), ("media_id", Value.of_option message.media_id),
            ("message_type", .string message.message_type)])))

def inbound_conversation_id (request : SimulateInboundTextRequest) : String :=
  request.conversation_id.getD ((request.from_phone_e164.map phone_to_jid).getD "conv_dev")

def inbound_sender_id (request : SimulateInboundTextRequest) : String :=
  (request.from_phone_e164.map phone_to_jid).getD (inbound_conversation_id request)

def receive_inbound_text (ctx : Ctx) (inner : StoreInner) (project_id company_id : String)
    (request : SimulateInboundTextRequest) : Message × StoreInner :=
  record_message_inner ctx inner
    { project_id, company_id
      conversation_id := inbound_conversation_id request
      direction := "inbound"
      message_type := "text"
      text := some request.text
      status := "received"
      quoted_message_id := none
      channel_account_id := request.channel_id
      sender_contact_id := some (inbound_sender_id request)
      sender_display_name := request.sender_name
      sender_profile_picture_url := request.profile_picture_url
      sent_by_external_user_id := none }

structure OutboundMediaUpload where
  conversation_id : String
  media_type : Option String
  mime_type : Option String
  filename : Option String
  caption : Option String
  bytes : List UInt8

/-- What an upload learns from outside: whether the bytes could be staged on
disk, and whether the byte store took them. -/
structure UploadAnswers where
  staged : ApiResult Unit
  put : Except String Unit

/-- A text that is not blank, trimmed. -/
def trimmed_or_none (value : Option String) : Option String :=
  value.bind str.non_blank

def media_limits (self : AppState) : MediaLimits where
  quick_delete_threshold_mb := self.config.media_quick_delete_threshold_mb
  reject_threshold_mb := self.config.media_reject_threshold_mb

/-- The media object of an accepted upload. -/
def uploaded_media (self : AppState) (ctx : Ctx) (project_id company_id conversation_id channel_id : String)
    (upload : OutboundMediaUpload) (media_type mime_type storage_class : String) : MediaObject :=
  let media_id := "media_" ++ ctx.uuid 0
  let filename := trimmed_or_none upload.filename
  let ext := (filename.bind file_extension).getD (extension_for_mime mime_type)
  let dev_url := if self.config.dev_mode then some (self.config.dev_media_url media_id) else none
  { id := media_id
    project_id, company_id, conversation_id
    message_id := none
    media_type, mime_type
    original_filename := filename
    size_bytes := upload.bytes.length
    sha256 := self.host.sha256_hex upload.bytes
    storage_status := storage_class
    bucket := some self.config.r2.bucket
    object_key := some (r2_object_key self.host
      { base_prefix := self.config.r2.base_prefix, storage_class, project_id, company_id, channel_id,
        conversation_id := some conversation_id, entity_type := none, entity_id := none,
        date := self.host.format_date ctx.now, media_id, ext })
    permanent_object_key := none
    public_url := dev_url
    thumbnail_url := if media_type = "image" then dev_url else none
    width := none
    height := none
    duration_seconds := none
    expires_at := some (ctx.now + Duration.days self.config.media_temp_retention_days)
    saved_at := none
    created_at := ctx.now
    updated_at := ctx.now }

def upload_outbound_media (self : AppState) (ctx : Ctx) (inner : StoreInner)
    (project_id company_id : String) (upload : OutboundMediaUpload) (answers : UploadAnswers) :
    ApiResult MediaObject × StoreInner :=
  if upload.bytes = [] then (.error (.BadRequest "upload file is empty"), inner)
  else if str.is_empty (str.trim upload.conversation_id) then
    (.error (.BadRequest "conversation_id is required"), inner)
  else
    let conversation_id := resolve_conversation_id_inner inner project_id company_id
      (str.trim upload.conversation_id)
    let decision := (media_limits self).classify upload.bytes.length
    let mime_type := (trimmed_or_none upload.mime_type).getD "application/octet-stream"
    if decision = .Rejected then
      (.error (.PayloadTooLarge ("media upload is larger than " ++
        toString self.config.media_reject_threshold_mb ++ " MB")), inner)
    else match (upload.media_type.map normalize_media_type).getD (.ok (infer_media_type mime_type)) with
      | .error err => (.error err, inner)
      | .ok media_type =>
        match answers.staged with
        | .error err => (.error err, inner)
        | .ok _ =>
          if self.config.media_sniff_magic_bytes && !magic_matches_mime (some mime_type) upload.bytes then
            (.error (.BadRequest ("upload magic bytes do not match declared MIME type " ++ mime_type)),
              inner)
          else
            let channel_id := (send_channel inner project_id company_id conversation_id).getD "channel_dev"
            let media := uploaded_media self ctx project_id company_id conversation_id channel_id upload
              media_type mime_type (if decision = .Temp then "outbound-temp" else "quarantine")
            match answers.put with
            | .error err => (.error (.ProviderError err), inner)
            | .ok _ =>
              let inner := ensure_conversation_inner ctx inner project_id company_id conversation_id
                channel_id "manual"
              (.ok media, { inner with media := inner.media.insert media.id media })

end rustzap.state
