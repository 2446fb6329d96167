import RustZap.State.Record

open collections serde_json
open rustzap.error rustzap.eventbus rustzap.models

namespace rustzap.state

def message_not_found (message_id : String) : ApiError :=
  .NotFound ("message " ++ message_id ++ " not found")

/-- The common end of the updates of a message: it is written back, its
conversation is marked dirty at the message's own sequence number, and an event
goes out. -/
def publish_update (ctx : Ctx) (inner : StoreInner) (message_id : String) (updated : Message)
    (event_type : String) (payload : Value) : StoreInner :=
  let inner := store_message inner message_id updated
  let inner := mark_dirty_inner ctx 0 inner updated.project_id updated.company_id
    updated.conversation_id updated.conversation_seq updated.channel_account_id
  push_event_inner inner (new_event ctx 3 event_type updated.project_id updated.company_id
    (some updated.channel_account_id) (some updated.conversation_id) (some updated.id)
    (some updated.conversation_seq) payload)

def dispatch_event_type (status : String) : String :=
  if status = "sent_to_whatsapp" then "message.sent"
  else if status = "failed" then "message.failed"
  else "message.updated"

/-- The message once the result of its dispatch is known. -/
def Message.dispatched (message : Message) (now : OffsetDateTime) (wa_message_id : Option String)
    (status : String) (error_message : Option String) : Message :=
  { message with
    wa_message_id := wa_message_id.or message.wa_message_id
    status
    error_message
    updated_at := now }

def update_outbound_after_dispatch (ctx : Ctx) (inner : StoreInner) (message_id : String)
    (wa_message_id : Option String) (status : String) (error_message : Option String) :
    ApiResult Message × StoreInner :=
  match inner.messages_by_id.lookup message_id with
  | none => (.error (message_not_found message_id), inner)
  | some message =>
    let updated := Message.dispatched message ctx.now wa_message_id status error_message
    (.ok updated, publish_update ctx inner message_id updated (dispatch_event_type status)
      (.object [("message_id", .string updated.id),
        ("wa_message_id", Value.of_option updated.wa_message_id), ("status", .string updated.status),
        ("delivery_state", .string updated.delivery_state.name),
        ("error_message", Value.of_option updated.error_message)]))

/-- The message once a receipt for it has come in. -/
def Message.receipted (message : Message) (now : OffsetDateTime) (receipt_type : String) : Message :=
  { message with status := receipt_type, updated_at := now }

def update_receipt_with_context (self : AppState) (ctx : Ctx) (inner : StoreInner)
    (message_id receipt_type : String) (created_at_wa : Option OffsetDateTime) :
    ApiResult Message × StoreInner :=
  match inner.messages_by_id.lookup message_id with
  | none => (.error (message_not_found message_id), inner)
  | some message =>
    let updated := Message.receipted message ctx.now receipt_type
    (.ok updated, publish_update ctx inner message_id updated "message.receipt"
      (.object [("message_id", .string updated.id),
        ("wa_message_id", Value.of_option updated.wa_message_id),
        ("receipt_type", .string receipt_type), ("status", .string updated.status),
        ("delivery_state", .string updated.delivery_state.name),
        ("created_at_wa", Value.of_option (created_at_wa.map self.host.ts))]))

/-- The id of the first message in the map's order that carries the WhatsApp
id, of whichever channel and company. -/
def find_by_wa_id (inner : StoreInner) (wa_message_id : String) : Option String :=
  (inner.messages_by_id.values.find? fun message => message.wa_message_id = some wa_message_id).map
    Message.id

def update_receipt_by_wa_id_with_context (self : AppState) (ctx : Ctx) (inner : StoreInner)
    (wa_message_id receipt_type : String) (created_at_wa : Option OffsetDateTime) :
    ApiResult Message × StoreInner :=
  match find_by_wa_id inner wa_message_id with
  | none => (.error (.NotFound ("wa message " ++ wa_message_id ++ " not found")), inner)
  | some internal_id => update_receipt_with_context self ctx inner internal_id receipt_type created_at_wa

/-- What an update of a message does to the store: the message is replaced in
both maps, its conversation is marked dirty at its sequence number, and events
are appended. Nothing else changes. -/
def Updated (ctx : Ctx) (inner : StoreInner) (message_id : String) (updated : Message)
    (inner' : StoreInner) : Prop :=
  ∃ events, inner' = { store_message inner message_id updated with
    events
    dirty := inner.dirty.insert (updated.project_id, updated.company_id, updated.conversation_id)
      (marked_dirty ctx.now updated.conversation_id updated.conversation_seq
        (inner.dirty.lookup (updated.project_id, updated.company_id, updated.conversation_id))) }

theorem publish_update_updated (ctx : Ctx) (inner : StoreInner) (message_id : String)
    (updated : Message) (event_type : String) (payload : Value) :
    Updated ctx inner message_id updated
      (publish_update ctx inner message_id updated event_type payload) :=
  ⟨_, rfl⟩

theorem update_outbound_after_dispatch_cases (ctx : Ctx) (inner : StoreInner) (message_id : String)
    (wa_message_id : Option String) (status : String) (error_message : Option String) :
    inner.messages_by_id.lookup message_id = none ∧
      update_outbound_after_dispatch ctx inner message_id wa_message_id status error_message =
        (.error (message_not_found message_id), inner) ∨
    ∃ message inner', inner.messages_by_id.lookup message_id = some message ∧
      Updated ctx inner message_id
        (Message.dispatched message ctx.now wa_message_id status error_message) inner' ∧
      update_outbound_after_dispatch ctx inner message_id wa_message_id status error_message =
        (.ok (Message.dispatched message ctx.now wa_message_id status error_message), inner') := by
  unfold update_outbound_after_dispatch
  cases hmessage : inner.messages_by_id.lookup message_id with
  | none => exact Or.inl ⟨rfl, rfl⟩
  | some message => exact Or.inr ⟨message, _, rfl, publish_update_updated .., rfl⟩

theorem update_receipt_with_context_cases (self : AppState) (ctx : Ctx) (inner : StoreInner)
    (message_id receipt_type : String) (created_at_wa : Option OffsetDateTime) :
    inner.messages_by_id.lookup message_id = none ∧
      update_receipt_with_context self ctx inner message_id receipt_type created_at_wa =
        (.error (message_not_found message_id), inner) ∨
    ∃ message inner', inner.messages_by_id.lookup message_id = some message ∧
      Updated ctx inner message_id (Message.receipted message ctx.now receipt_type) inner' ∧
      update_receipt_with_context self ctx inner message_id receipt_type created_at_wa =
        (.ok (Message.receipted message ctx.now receipt_type), inner') := by
  unfold update_receipt_with_context
  cases hmessage : inner.messages_by_id.lookup message_id with
  | none => exact Or.inl ⟨rfl, rfl⟩
  | some message => exact Or.inr ⟨message, _, rfl, publish_update_updated .., rfl⟩

end rustzap.state
