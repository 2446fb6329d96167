import RustZap.State.Snapshot

open collections serde_json
open rustzap.error rustzap.eventbus rustzap.media rustzap.models rustzap.transcription rustzap.whatsapp

namespace rustzap.state

/-- A changed message goes back to both maps, and nothing else happens. -/
def set_message_flag (ctx : Ctx) (inner : StoreInner) (message_id flag : String) (value : Bool) :
    ApiResult Message × StoreInner :=
  match inner.messages_by_id.lookup message_id with
  | none => (.error (message_not_found message_id), inner)
  | some message =>
    let flagged := if flag = "pin" then { message with is_pinned := value }
      else if flag = "star" then { message with is_starred := value }
      else message
    let updated := { flagged with updated_at := ctx.now }
    (.ok updated, store_message inner message_id updated)

def set_message_reaction (ctx : Ctx) (inner : StoreInner) (message_id : String)
    (reaction : Option String) : ApiResult Message × StoreInner :=
  match inner.messages_by_id.lookup message_id with
  | none => (.error (message_not_found message_id), inner)
  | some message =>
    let updated := { message with reaction, updated_at := ctx.now }
    (.ok updated, push_event_inner (store_message inner message_id updated)
      (message_event ctx 0 "message.reaction" updated
        (.object [("reaction", Value.of_option updated.reaction)])))

/-- What the provider made of a reaction. -/
inductive ReactionAnswer where
  | sent
  | refused (err : String)
  | timed_out

def react_to_message (ctx : Ctx) (inner : StoreInner) (message_id : String) (emoji : Option String)
    (answer : ReactionAnswer) : ApiResult Message × StoreInner :=
  match inner.messages_by_id.lookup message_id with
  | none => (.error (message_not_found message_id), inner)
  | some message =>
    match message.wa_message_id with
    | none =>
      (.error (.BadRequest ("message " ++ message_id ++ " does not have a WhatsApp id yet")), inner)
    | some _ =>
      match answer with
      | .sent => set_message_reaction ctx inner message_id (emoji.bind str.non_blank)
      | .refused err => (.error (.ProviderError err), inner)
      | .timed_out => (.error (.ProviderError "WhatsApp reaction timed out"), inner)

/-- What the simulation of an inbound media learns from outside. -/
structure SimulatedMediaAnswers where
  can_upload : Bool
  put : Except String Unit

namespace SimulateInboundMediaRequest

def conversation (request : SimulateInboundMediaRequest) : String :=
  request.conversation_id.getD "conv_dev"

def channel (request : SimulateInboundMediaRequest) : String :=
  request.channel_id.getD "channel_dev"

def kind (request : SimulateInboundMediaRequest) : String :=
  request.media_type.getD "image"

def size (request : SimulateInboundMediaRequest) : Nat :=
  request.size_bytes.getD 512000

def message_input (request : SimulateInboundMediaRequest) (project_id company_id : String) :
    RecordMessageInput where
  project_id
  company_id
  conversation_id := conversation request
  direction := "inbound"
  message_type := kind request
  text := request.caption
  status := "received"
  quoted_message_id := none
  channel_account_id := some (channel request)
  sender_contact_id := some ((request.from_phone_e164.map phone_to_jid).getD (conversation request))
  sender_display_name := request.sender_name
  sender_profile_picture_url := request.profile_picture_url
  sent_by_external_user_id := none

/-- The media object of the simulation, under the UUID that follows those of the
message. -/
def media (request : SimulateInboundMediaRequest) (self : AppState) (ctx : Ctx)
    (project_id company_id : String) (message : Message) (answers : SimulatedMediaAnswers) : MediaObject :=
  let decision := (media_limits self).classify (size request)
  let status := match decision with
    | .Temp => "temp"
    | .Quarantine => "quarantine"
    | .Rejected => "rejected"
  let media_id := "media_" ++ ctx.uuid 8
  let object_key := if decision = .Rejected then none
    else some (r2_object_key self.host
      { base_prefix := self.config.r2.base_prefix, storage_class := status, project_id, company_id,
        channel_id := channel request, conversation_id := some (conversation request),
        entity_type := none, entity_id := none, date := self.host.format_date ctx.now, media_id,
        ext := (request.filename.bind fun name => str.last_piece name '.').getD "bin" })
  let public_url := object_key.bind self.config.public_object_url
  let dev_preview_url := if self.config.dev_mode && kind request = "image" then
      some (self.config.dev_media_url media_id)
    else none
  { id := media_id
    project_id, company_id
    conversation_id := conversation request
    message_id := some message.id
    media_type := kind request
    mime_type := request.mime_type.getD "application/octet-stream"
    original_filename := request.filename
    size_bytes := size request
    sha256 := self.host.sha256_hex (media_id ++ ":" ++ toString (size request)).toUTF8.data.toList
    storage_status := status
    bucket := some self.config.r2.bucket
    object_key
    permanent_object_key := none
    public_url
    thumbnail_url := if kind request = "image" then
        if answers.can_upload then public_url.or dev_preview_url else dev_preview_url.or public_url
      else none
    width := none
    height := none
    duration_seconds := none
    expires_at := some (ctx.now + Duration.days self.config.media_temp_retention_days)
    saved_at := none
    created_at := ctx.now
    updated_at := ctx.now }

end SimulateInboundMediaRequest

/-- The medium of a simulated message is stored, the message names it, and audio
gets a transcript that is still to be made. -/
def attach_simulated_media (ctx : Ctx) (inner : StoreInner) (project_id company_id channel_id : String)
    (message : Message) (media : MediaObject) : (Message × Option Transcript) × StoreInner :=
  let attached := attach_media_to_message_inner ctx.now
    { inner with media := inner.media.insert media.id media } message.id media
  let message := attached.1.getD message
  if media.media_type = "audio" ∧ media.storage_status ≠ "rejected" then
    let transcript := transcript_with_lifecycle ctx 9 project_id company_id message.id (some media.id)
      .Pending none
    ((message, some transcript), push_event_inner
      { attached.2 with transcripts := attached.2.transcripts.insert message.id transcript }
      (new_event ctx 10 "audio.transcription.requested" project_id company_id (some channel_id)
        (some media.conversation_id) (some message.id) (some message.conversation_seq)
        (.object (transcript_payload message media transcript))))
  else ((message, none), attached.2)

def try_receive_inbound_media (self : AppState) (ctx : Ctx) (inner : StoreInner)
    (project_id company_id : String) (request : SimulateInboundMediaRequest)
    (answers : SimulatedMediaAnswers) :
    ApiResult (Message × MediaObject × Option Transcript) × StoreInner :=
  let recorded := record_message_inner ctx inner
    (SimulateInboundMediaRequest.message_input request project_id company_id)
  let message := recorded.1
  let media := SimulateInboundMediaRequest.media request self ctx project_id company_id message answers
  let channel_id := SimulateInboundMediaRequest.channel request
  match media.object_key, answers.put with
  | some _, .error err =>
    (.error (.ProviderError err), push_event_inner recorded.2
      (new_event ctx 9 "media.storage_failed" project_id company_id (some channel_id)
        (some media.conversation_id) (some message.id) (some message.conversation_seq)
        (.object [("message_id", .string message.id), ("media_id", .string media.id),
          ("code", .string "byte_store_put_failed"), ("error", .string err)])))
  | _, _ =>
    let attached := attach_simulated_media ctx recorded.2 project_id company_id channel_id message media
    (.ok (attached.1.1, media, attached.1.2), attached.2)

def request_transcript (ctx : Ctx) (inner : StoreInner) (project_id company_id message_id : String) :
    ApiResult Transcript × StoreInner :=
  match message_for_company inner project_id company_id message_id with
  | .error err => (.error err, inner)
  | .ok message =>
    match message.media_id with
    | none => (.error (.BadRequest ("message " ++ message_id ++ " has no media to transcribe")), inner)
    | some media_id =>
      match media_for_company inner project_id company_id media_id with
      | .error err => (.error err, inner)
      | .ok media =>
        if !str.starts_with media.mime_type "audio/" then
          (.error (.BadRequest ("media " ++ media.id ++ " is not an audio object")), inner)
        else match (inner.transcripts.lookup message_id).filter fun transcript =>
            ["pending", "processing", "completed", "skipped_size_limit",
              "skipped_unsupported_type"].contains transcript.status with
          | some transcript => (.ok transcript, inner)
          | none =>
            let transcript := transcript_with_lifecycle ctx 0 project_id company_id message_id
              (some media.id) .Pending none
            (.ok transcript, push_event_inner
              { inner with transcripts := inner.transcripts.insert message_id transcript }
              (new_event ctx 1 "audio.transcription.requested" project_id company_id
                (some message.channel_account_id) (some message.conversation_id) (some message.id)
                (some message.conversation_seq)
                (.object (transcript_payload message media transcript))))

def sniff_profile_picture_mime (bytes : List UInt8) : ApiResult String :=
  match sniff_mime_from_magic bytes with
  | some "image/jpeg" => .ok "image/jpeg"
  | some "image/png" => .ok "image/png"
  | some "image/webp" => .ok "image/webp"
  | _ => .error (.BadRequest "profile picture image has unsupported magic bytes")

/-- The media object of a profile picture. It is stored under the id of the contact
or group it shows, as if that were a conversation. -/
def profile_picture_media (self : AppState) (ctx : Ctx)
    (project_id company_id channel_id entity_type entity_id mime_type : String) (bytes : List UInt8) :
    MediaObject :=
  let media_id := "media_" ++ ctx.uuid 0
  let object_key := r2_object_key self.host
    { base_prefix := self.config.r2.base_prefix, storage_class := "permanent", project_id, company_id,
      channel_id, conversation_id := none, entity_type := some entity_type, entity_id := some entity_id,
      date := self.host.format_date ctx.now, media_id, ext := extension_for_mime mime_type }
  let dev_url := if self.config.dev_mode then some (self.config.dev_media_url media_id) else none
  let public_url := (self.config.public_object_url object_key).or dev_url
  { id := media_id
    project_id, company_id
    conversation_id := entity_id
    message_id := none
    media_type := "image"
    mime_type
    original_filename := none
    size_bytes := bytes.length
    sha256 := self.host.sha256_hex bytes
    storage_status := "permanent"
    bucket := some self.config.r2.bucket
    object_key := some object_key
    permanent_object_key := some object_key
    public_url
    thumbnail_url := public_url.or dev_url
    width := none
    height := none
    duration_seconds := none
    expires_at := none
    saved_at := some ctx.now
    created_at := ctx.now
    updated_at := ctx.now }

def store_profile_picture_media_bytes (self : AppState) (ctx : Ctx) (inner : StoreInner)
    (project_id company_id channel_id entity_type entity_id : String) (bytes : List UInt8)
    (put : Except String Unit) : ApiResult MediaObject × StoreInner :=
  if bytes = [] then (.error (.BadRequest "profile picture image is empty"), inner)
  else match sniff_profile_picture_mime bytes with
    | .error err => (.error err, inner)
    | .ok mime_type =>
      match put with
      | .error err => (.error (.ProviderError ("profile picture storage failed: " ++ err)), inner)
      | .ok _ =>
        let media := profile_picture_media self ctx project_id company_id channel_id entity_type entity_id
          mime_type bytes
        (.ok media, push_event_inner { inner with media := inner.media.insert media.id media }
          (new_event ctx 1 "media.stored" project_id company_id (some channel_id) (some entity_id) none none
            (.object [("media_id", .string media.id), ("media_type", .string "image"),
              ("storage_status", .string "permanent"), ("entity_type", .string entity_type)])))

/-- A changed media object is written back. -/
def update_media (inner : StoreInner) (media_id : String) (change : MediaObject → MediaObject) :
    ApiResult MediaObject × StoreInner :=
  match inner.media.lookup media_id with
  | none => (.error (media_not_found media_id), inner)
  | some media =>
    (.ok (change media), { inner with media := inner.media.insert media_id (change media) })

def save_media_with_permanent_object_key (self : AppState) (ctx : Ctx) (inner : StoreInner)
    (media_id entity_type entity_id : String) (permanent_object_key : Option String) :
    ApiResult MediaObject × StoreInner :=
  update_media inner media_id fun media =>
    let object_key := permanent_object_key.getD (r2_object_key self.host
      { base_prefix := self.config.r2.base_prefix, storage_class := "permanent",
        project_id := media.project_id, company_id := media.company_id, channel_id := "channel_dev",
        conversation_id := some media.conversation_id, entity_type := some entity_type,
        entity_id := some entity_id, date := self.host.format_date ctx.now, media_id, ext := "bin" })
    let public_url := self.config.public_object_url object_key
    { media with
      storage_status := "permanent"
      permanent_object_key := some object_key
      public_url
      thumbnail_url := if media.media_type = "image" then
          public_url.or (if self.config.dev_mode then some (self.config.dev_media_url media_id) else none)
        else media.thumbnail_url
      saved_at := some ctx.now
      updated_at := ctx.now }

def delete_media_for_company (ctx : Ctx) (inner : StoreInner) (project_id company_id media_id : String) :
    ApiResult MediaObject × StoreInner :=
  match media_for_company inner project_id company_id media_id with
  | .error err => (.error err, inner)
  | .ok _ => update_media inner media_id fun media =>
    { media with
      storage_status := "deleted"
      public_url := none
      thumbnail_url := none
      expires_at := none
      updated_at := ctx.now }

def audit_log (self : AppState) (ctx : Ctx) (draw : Nat) (inner : StoreInner)
    (project_id company_id action resource_type : String) (resource_id : Option String)
    (response : Value) : StoreInner :=
  { inner with audit_logs := inner.audit_logs ++
      [.object [("id", .string ("audit_" ++ ctx.uuid draw)), ("project_id", .string project_id),
        ("company_id", .string company_id), ("actor_type", .string "api_key"),
        ("action", .string action), ("resource_type", .string resource_type),
        ("resource_id", Value.of_option resource_id), ("response_json", response),
        ("created_at", .string (self.host.ts ctx.now))]] }

def contact_aliases_for_record (contact : ContactRecord) : List String :=
  str.sort_dedup ([contact.id] ++ contact.canonical_jid.toList ++ contact.lid.toList)

/-- The record of a contact that is not to be recognised any more. -/
def anonymous_contact (now : OffsetDateTime) (contact : ContactRecord) : ContactRecord :=
  { contact with
    phone_e164 := none
    push_name := none
    display_name := "anonymous_" ++ String.ofList (contact.id.toList.take 8)
    business_description := none
    avatar_url := none
    profile_picture_url := none
    last_contact_at := now }

/-- A conversation of the company with one of the aliases. -/
def anonymize_conversation (now : OffsetDateTime) (project_id company_id : String) (aliases : List String)
    (anonymous_name : String) (conversation : Conversation) : Conversation :=
  if conversation.project_id = project_id && conversation.company_id = company_id &&
      conversation.contact_id.any aliases.contains then
    { conversation with
      display_name := some anonymous_name
      display_phone := none
      phone_number := none
      avatar_url := none
      profile_picture_url := none
      updated_at := now }
  else conversation

/-- A message of the company from one of the aliases. -/
def anonymize_message (now : OffsetDateTime) (project_id company_id : String) (aliases : List String)
    (anonymous_name : String) (delete_messages : Bool) (message : Message) : Message :=
  if message.project_id = project_id && message.company_id = company_id &&
      message.sender_contact_id.any aliases.contains then
    { message with
      sender_display_name := some anonymous_name
      text := if delete_messages then none else message.text
      updated_at := now }
  else message

def anonymize_contact (self : AppState) (ctx : Ctx) (inner : StoreInner)
    (project_id company_id contact_id : String) (delete_messages : Bool) : ApiResult Value × StoreInner :=
  let resolved := resolve_contact_id_inner inner project_id company_id contact_id
  match (inner.contacts.lookup resolved).filter fun contact =>
      contact.matches_tenant project_id company_id with
  | none => (.error (contact_not_found resolved), inner)
  | some contact =>
    let aliases := contact_aliases_for_record contact
    let anonymous := anonymous_contact ctx.now contact
    let change := anonymize_message ctx.now project_id company_id aliases anonymous.display_name
      delete_messages
    let inner := { inner with
      contacts := inner.contacts.insert resolved anonymous
      conversations := inner.conversations.map_values fun _ conversation =>
        anonymize_conversation ctx.now project_id company_id aliases anonymous.display_name conversation
      messages_by_conversation := inner.messages_by_conversation.map_values fun _ messages =>
        messages.map change
      messages_by_id := inner.messages_by_id.map_values fun _ message => change message }
    (.ok (.object [("contact_id", .string contact_id), ("technical_contact_id", .string resolved),
        ("anonymized", .bool true), ("deleted", .bool delete_messages), ("pii_redacted", .bool true)]),
      audit_log self ctx 0 inner project_id company_id
        (if delete_messages then "privacy.delete" else "privacy.anonymize") "contact" (some resolved)
        (.object [("pii_redacted", .bool true), ("message_text_deleted", .bool delete_messages)]))

/-- What the first look at the idempotency key of an upload comes to: an answer, a
wait for the upload that is under way, or an upload of its own. -/
inductive UploadStart where
  | answered (result : ApiResult MediaObject)
  | wait
  | upload

def upload_conflict : ApiError :=
  .IdempotencyConflict "same Idempotency-Key used with different upload body"

def replay_upload (inner : StoreInner) (record : MediaUploadIdempotencyRecord) (request_hash : String) :
    ApiResult MediaObject :=
  if record.request_hash = request_hash then
    match inner.media.lookup record.media_id with
    | some media => .ok media
    | none => .error (.Internal ("cached idempotency media " ++ record.media_id ++ " missing"))
  else .error upload_conflict

/-- The first critical section of `upload_outbound_media_idempotent`. The hash is that
of the upload's fields. -/
def begin_upload (inner : StoreInner) (idem_key : String × String × String) (request_hash : String) :
    UploadStart × StoreInner :=
  match inner.media_upload_idempotency.lookup idem_key with
  | some record => (.answered (replay_upload inner record request_hash), inner)
  | none =>
    match inner.media_upload_idempotency_inflight.lookup idem_key with
    | some inflight_hash =>
      if inflight_hash ≠ request_hash then (.answered (.error upload_conflict), inner)
      else (.wait, inner)
    | none => (.upload, { inner with
        media_upload_idempotency_inflight :=
          inner.media_upload_idempotency_inflight.insert idem_key request_hash })

/-- The last critical section, once the upload itself has come back. -/
def finish_upload (inner : StoreInner) (idem_key : String × String × String) (request_hash : String)
    (media_result : ApiResult MediaObject) : ApiResult MediaObject × StoreInner :=
  let inner := { inner with
    media_upload_idempotency_inflight := inner.media_upload_idempotency_inflight.erase idem_key }
  match media_result with
  | .error err => (.error err, inner)
  | .ok media =>
    match inner.media_upload_idempotency.lookup idem_key with
    | some record => (replay_upload inner record request_hash, inner)
    | none => (.ok media, { inner with
        media_upload_idempotency :=
          inner.media_upload_idempotency.insert idem_key { request_hash, media_id := media.id } })

/-- An upload that nothing else comes in between of. One that meets another of its
key waits for it and looks again. -/
def upload_outbound_media_idempotent (self : AppState) (ctx : Ctx) (inner : StoreInner)
    (project_id company_id idempotency_key request_hash : String) (upload : OutboundMediaUpload)
    (answers : UploadAnswers) : ApiResult MediaObject × StoreInner :=
  let idem_key := (project_id, company_id, idempotency_key)
  match begin_upload inner idem_key request_hash with
  | (.answered result, inner) => (result, inner)
  | (.wait, inner) =>
    (.error (.IdempotencyConflict "same Idempotency-Key upload is still in progress"), inner)
  | (.upload, inner) =>
    let uploaded := upload_outbound_media self ctx inner project_id company_id upload answers
    finish_upload uploaded.2 idem_key request_hash uploaded.1

end rustzap.state
