import RustZap.State.Receipts
import RustZap.State.Send

open collections serde_json
open rustzap.error rustzap.eventbus rustzap.models rustzap.whatsapp

namespace rustzap.state

def channel_for_conversation (inner : StoreInner) (conversation_id : String) : Option String :=
  (inner.conversations.lookup conversation_id).map Conversation.channel_account_id

/-- The record that `set_channel_status` inserts for a channel it does not know. -/
def unknown_channel (channel_id : String) (now : OffsetDateTime) : ChannelRecord where
  id := channel_id
  project_id := "unknown"
  company_id := "unknown"
  provider := "whatsapp-rust"
  phone_e164 := none
  label := "WhatsApp"
  status := "disconnected"
  connected_at := none
  created_at := now
  updated_at := now

def set_channel_status (ctx : Ctx) (inner : StoreInner) (channel_id status : String)
    (connected_at : Option OffsetDateTime) : StoreInner :=
  let channel := (inner.channels.lookup channel_id).getD (unknown_channel channel_id ctx.now)
  let channel := { channel with
    status
    updated_at := ctx.now
    connected_at := match connected_at with
      | some connected_at => some connected_at
      | none => if status ≠ "connected" then none else channel.connected_at }
  { inner with channels := inner.channels.insert channel_id channel }

def create_channel (ctx : Ctx) (inner : StoreInner) (project_id company_id : String)
    (id label phone_e164 : Option String) : ApiResult ChannelRecord × StoreInner :=
  let channel_id := id.getD ("channel_" ++ ctx.uuid 0)
  match inner.channels.lookup channel_id with
  | some existing =>
    if existing.project_id ≠ project_id ∨ existing.company_id ≠ company_id then
      (.error (.Conflict ("channel " ++ channel_id ++ " already exists for another company")), inner)
    else
      let updated := { existing with
        label := label.getD existing.label
        phone_e164 := phone_e164.or existing.phone_e164
        updated_at := ctx.now }
      (.ok updated, { inner with channels := inner.channels.insert channel_id updated })
  | none =>
    let channel : ChannelRecord :=
      { id := channel_id, project_id, company_id, provider := "whatsapp-rust", phone_e164,
        label := label.getD "WhatsApp Dev", status := "disconnected", connected_at := none,
        created_at := ctx.now, updated_at := ctx.now }
    (.ok channel, { inner with channels := inner.channels.insert channel_id channel })

def set_qr (inner : StoreInner) (channel_id status : String) (qr_code_text : Option String)
    (expires_at : OffsetDateTime) : StoreInner :=
  { inner with qr := inner.qr.insert channel_id { channel_id, status, qr_code_text, expires_at } }

/-- A channel that the store believes connected and whose session is gone. -/
def reconcile_channel_runtime_status (ctx : Ctx) (inner : StoreInner) (channel_id : String)
    (is_channel_connected : Bool) : StoreInner :=
  if is_channel_connected then inner
  else match inner.channels.lookup channel_id with
    | none => inner
    | some channel =>
      if channel.status ≠ "connected" then inner
      else
        let channel' := { channel with
          status := "disconnected", connected_at := none, updated_at := ctx.now }
        push_event_inner
          { inner with
            channels := inner.channels.insert channel_id channel'
            qr := inner.qr.insert channel_id
              { channel_id, status := "disconnected", qr_code_text := none, expires_at := ctx.now } }
          (new_event ctx 10 "channel.disconnected" channel.project_id channel.company_id (some channel_id)
            none none none (.object []))

def outbound_send_target_jid (inner : StoreInner) (message : Message) : String :=
  if is_group_jid message.conversation_id then message.conversation_id
  else match (inner.conversations.lookup message.conversation_id).filter fun conversation =>
      conversation_matches_tenant conversation message.project_id message.company_id with
    | some conversation =>
      if conversation.conversation_type = "group" then conversation.id
      else match conversation_phone_number_for_inner inner conversation with
        | some phone_number => phone_to_jid phone_number
        | none => message.conversation_id
    | none => message.conversation_id

/-- A call of the provider's `send_text` or `send_media`. -/
inductive ProviderSend where
  | text (channel_id jid text : String)
  | media (channel_id jid : String) (payload : OutboundMediaMessage)
  deriving DecidableEq

/-- How the provider answers a send. -/
inductive SendAnswer where
  | sent (wa_message_id : String)
  | refused (error : String)
  | timed_out
  deriving DecidableEq

/-- What one dispatch learns from outside: whether the session is up, at the two
times it asks, the bytes of the media, and the provider's answer. -/
structure DispatchAnswers where
  reconciled : Bool
  connected : Bool
  bytes : Except String (List UInt8)
  send : SendAnswer
  deriving DecidableEq

def media_not_found (media_id : String) : ApiError :=
  .NotFound ("media " ++ media_id ++ " not found")

def media_blob (inner : StoreInner) (media_id : String) (bytes : Except String (List UInt8)) :
    ApiResult (Option (MediaObject × List UInt8)) :=
  match inner.media.lookup media_id with
  | none => .error (media_not_found media_id)
  | some media =>
    match media.object_key.or media.permanent_object_key with
    | none => .ok none
    | some _ =>
      match bytes with
      | .ok bytes => .ok (some (media, bytes))
      | .error err =>
        if str.contains err "No such file" || str.contains err "not found" ||
            str.contains err "os error 2" then .ok none
        else .error (.ProviderError err)

/-- The result of a dispatch, with the provider call it made, if any. -/
structure Dispatched where
  result : ApiResult Message
  inner : StoreInner
  send : Option ProviderSend

/-- The end of a dispatch: its result is stored. -/
def Dispatched.store (ctx : Ctx) (inner : StoreInner) (message_id : String)
    (wa_message_id : Option String) (status : String) (error_message : Option String)
    (send : Option ProviderSend) : Dispatched :=
  let updated := update_outbound_after_dispatch ctx inner message_id wa_message_id status error_message
  { result := updated.1, inner := updated.2, send }

def mark_channel_disconnected (ctx : Ctx) (inner : StoreInner) (channel_id : String) : StoreInner :=
  set_qr (set_channel_status ctx inner channel_id "disconnected" none) channel_id "disconnected" none
    ctx.now

/-- What follows the provider's answer. -/
def store_send_result (ctx : Ctx) (inner : StoreInner) (message_id channel_id : String)
    (send : ProviderSend) : SendAnswer → Dispatched
  | .sent wa_message_id =>
    .store ctx inner message_id (some wa_message_id) "sent_to_whatsapp" none (some send)
  | .refused error =>
    let inner := if str.contains error "is not connected" then
        mark_channel_disconnected ctx inner channel_id
      else inner
    .store ctx inner message_id none "failed" (some error) (some send)
  | .timed_out =>
    .store ctx inner message_id none "failed" (some "WhatsApp send timed out") (some send)

/-- Either the call of the provider that the message asks for, or how the
dispatch ends without one. -/
def outbound_send (ctx : Ctx) (inner : StoreInner) (message : Message) (channel_id : String)
    (request_text : Option String) (bytes : Except String (List UInt8)) : Dispatched ⊕ ProviderSend :=
  let jid := outbound_send_target_jid inner message
  match message.media_id with
  | some media_id =>
    match media_blob inner media_id bytes with
    | .ok (some (media, bytes)) =>
      .inr (.media channel_id jid
        { media_type := media.media_type, mime_type := media.mime_type,
          filename := media.original_filename, caption := message.text, bytes,
          ptt := message.message_type = "audio" })
    | .ok none =>
      .inl (.store ctx inner message.id none "failed"
        (some ("media " ++ media_id ++ " has no upload bytes available")) none)
    | .error err => .inl (.store ctx inner message.id none "failed" (some err.to_string) none)
  | none =>
    match request_text with
    | some text => .inr (.text channel_id jid text)
    | none => .inl { result := .ok message, inner, send := none }

/-- The channel through which a message leaves: its conversation's, where there
is one. -/
def dispatch_channel (inner : StoreInner) (message : Message) : String :=
  (channel_for_conversation inner message.conversation_id).getD message.channel_account_id

def dispatch_prepared_message (ctx : Ctx) (inner : StoreInner) (outcome : SendMessageOutcome)
    (request_text : Option String) (answers : DispatchAnswers) : Dispatched :=
  if !outcome.should_dispatch then { result := .ok outcome.message, inner, send := none }
  else
    let message := outcome.message
    let channel_id := dispatch_channel inner message
    let not_connected := some ("WhatsApp channel " ++ channel_id ++ " is not connected")
    let inner := reconcile_channel_runtime_status ctx inner channel_id answers.reconciled
    if (inner.channels.lookup channel_id).map ChannelRecord.status ≠ some "connected" then
      .store ctx inner message.id none "failed" not_connected none
    else if !answers.connected then
      .store ctx (mark_channel_disconnected ctx inner channel_id) message.id none "failed"
        not_connected none
    else match outbound_send ctx inner message channel_id request_text answers.bytes with
      | .inl dispatched => dispatched
      | .inr send => store_send_result ctx inner message.id channel_id send answers.send

def message_for_company (inner : StoreInner) (project_id company_id message_id : String) :
    ApiResult Message :=
  match (inner.messages_by_id.lookup message_id).filter fun message =>
      message.project_id = project_id && message.company_id = company_id with
  | some message => .ok message
  | none => .error (message_not_found message_id)

theorem message_for_company_ok {inner : StoreInner} {project_id company_id message_id : String}
    {message : Message} (h : message_for_company inner project_id company_id message_id = .ok message) :
    inner.messages_by_id.lookup message_id = some message ∧ message.project_id = project_id ∧
      message.company_id = company_id := by
  unfold message_for_company at h
  split at h
  · next found hfound =>
    cases h
    rw [Option.filter_eq_some_iff, Bool.and_eq_true, decide_eq_true_eq, decide_eq_true_eq] at hfound
    exact hfound
  · cases h

/-- The message that a send request is about. -/
def outbound_message_id (event : CommonEvent) : Option String :=
  ((event.payload.get "message_id").bind Value.as_str).or event.message_id

def process_outbound_send_request (ctx : Ctx) (inner : StoreInner) (event : CommonEvent)
    (answers : DispatchAnswers) : Dispatched :=
  match outbound_message_id event with
  | none =>
    { result := .error (.BadRequest "outbound send event missing message_id"), inner, send := none }
  | some message_id =>
    match message_for_company inner event.project_id event.company_id message_id with
    | .error err => { result := .error err, inner, send := none }
    | .ok message =>
      if message.status = "sent_to_whatsapp" ∨ message.status = "failed" then
        { result := .ok message, inner, send := none }
      else
        let text := ((event.payload.get "text").bind Value.as_str).or message.text
        dispatch_prepared_message ctx inner { message, should_dispatch := true } text answers

end rustzap.state
