import RustZap.State.Record

open collections serde_json
open rustzap.error rustzap.eventbus rustzap.models

namespace rustzap.state

/-- A conversation as a read shows it. -/
def public_conversation (inner : StoreInner) (conversation : Conversation) : Conversation :=
  let conversation := if conversation.conversation_type = "group" then
      apply_group_record_to_conversation conversation conversation.id
        (inner.groups.lookup conversation.id)
    else conversation
  apply_public_conversation_fields inner conversation

/-- The order of two last message times, nothing being before everything. -/
def later_or_same (a b : Option OffsetDateTime) : Bool :=
  match a, b with
  | _, none => true
  | none, some _ => false
  | some a, some b => b ≤ a

def conversations (inner : StoreInner) (project_id company_id : String) : List Conversation :=
  sort_by (fun a b => later_or_same a.last_message_at b.last_message_at)
    ((inner.conversations.values.filter fun conversation =>
        conversation.project_id = project_id && conversation.company_id = company_id).map
      (public_conversation inner))

def conversation (inner : StoreInner) (project_id company_id conversation_id : String) :
    ApiResult Conversation :=
  match conversation_for_inner inner project_id company_id conversation_id with
  | .ok conversation => .ok (public_conversation inner conversation)
  | .error err => .error err

def normalize_message_media_urls (self : AppState) (message : Message) : Message :=
  if self.config.storage_provider ≠ .LocalFs || !self.config.dev_mode then message
  else match message.media_id with
    | none => message
    | some media_id =>
      let url := self.config.dev_media_url media_id
      { message with
        media_url := some url
        thumbnail_url := if message.message_type = "image" then some url else message.thumbnail_url }

def list_messages (self : AppState) (inner : StoreInner) (conversation_id : String)
    (after_seq before_seq : Option Int) (limit : Nat) : MessagesPage :=
  let messages := ((inner.messages_by_conversation.lookup conversation_id).getD []).filter fun message =>
    (after_seq.all fun seq => message.conversation_seq > seq) &&
      before_seq.all fun seq => message.conversation_seq < seq
  let messages := (sort_by (fun a b => a.conversation_seq ≤ b.conversation_seq) messages).map
    (normalize_message_media_urls self)
  let page := messages.take limit
  { conversation_id
    from_seq := page.head?.map Message.conversation_seq
    to_seq := page.getLast?.map Message.conversation_seq
    has_more := messages.length > limit
    messages := page }

def list_messages_for_conversation (self : AppState) (inner : StoreInner)
    (project_id company_id conversation_id : String) (after_seq before_seq : Option Int) (limit : Nat) :
    ApiResult MessagesPage :=
  match conversation inner project_id company_id conversation_id with
  | .error err => .error err
  | .ok conversation =>
    let public_id := public_conversation_id conversation
    let page := list_messages self inner conversation.id after_seq before_seq limit
    .ok { page with
      conversation_id := public_id
      messages := page.messages.map fun message => { message with conversation_id := public_id } }

def mark_read (ctx : Ctx) (inner : StoreInner) (project_id company_id conversation_id : String) :
    ApiResult Conversation × StoreInner :=
  let conversation_id := resolve_conversation_id_inner inner project_id company_id conversation_id
  match (inner.conversations.lookup conversation_id).filter fun conversation =>
      conversation_matches_tenant conversation project_id company_id with
  | none => (.error (.NotFound "conversation not found"), inner)
  | some conversation =>
    let updated := { conversation with unread_count := 0, updated_at := ctx.now }
    let inner := { inner with conversations := inner.conversations.insert conversation_id updated }
    (.ok updated, push_event_inner inner (new_event ctx 0 "conversation.read" project_id company_id
      (some updated.channel_account_id) (some updated.id) none (some updated.last_seq)
      (.object [("unread_count", .number 0)])))

def conversation_patch_fields : List String :=
  ["is_archived", "is_muted", "is_pinned", "control_mode"]

/-- One field of a patch, when the body has it: the value is read, and the
conversation changed. -/
def patch_field {A : Type} (body : Value) (key : String) (read : Value → ApiResult A)
    (set : Conversation → A → Conversation) (conversation : Conversation) :
    ApiResult Unit × Conversation :=
  match body.get key with
  | none => (.ok (), conversation)
  | some value =>
    match read value with
    | .ok a => (.ok (), set conversation a)
    | .error err => (.error err, conversation)

def read_bool (key : String) (value : Value) : ApiResult Bool :=
  match value.as_bool with
  | some b => .ok b
  | none => .error (.BadRequest (key ++ " must be a boolean"))

def read_control_mode (value : Value) : ApiResult String :=
  match value.as_str with
  | none => .error (.BadRequest "control_mode must be a string")
  | some control_mode =>
    if str.is_empty (str.trim control_mode) then .error (.BadRequest "control_mode must not be empty")
    else .ok control_mode

/-- One step after another, up to the first error. The conversation keeps what
the steps before the error have written. -/
def patch_in_turn (steps : List (Conversation → ApiResult Unit × Conversation))
    (conversation : Conversation) : ApiResult Unit × Conversation :=
  match steps with
  | [] => (.ok (), conversation)
  | step :: rest =>
    match step conversation with
    | (.ok _, conversation) => patch_in_turn rest conversation
    | (.error err, conversation) => (.error err, conversation)

def patch_conversation (body : Value) (conversation : Conversation) : ApiResult Unit × Conversation :=
  patch_in_turn
    [patch_field body "is_archived" (read_bool "is_archived") fun c b => { c with is_archived := b },
      patch_field body "is_muted" (read_bool "is_muted") fun c b => { c with is_muted := b },
      patch_field body "is_pinned" (read_bool "is_pinned") fun c b => { c with is_pinned := b },
      patch_field body "control_mode" read_control_mode fun c m => { c with control_mode := m }]
    conversation

def patch_conversation_metadata (ctx : Ctx) (inner : StoreInner)
    (project_id company_id conversation_id : String) (body : Value) :
    ApiResult Conversation × StoreInner :=
  match body with
  | .object fields =>
    match fields.find? fun field => !conversation_patch_fields.contains field.1 with
    | some field =>
      (.error (.BadRequest ("unsupported conversation patch field " ++ field.1)), inner)
    | none =>
      if fields = [] then
        (.error (.BadRequest "conversation patch body must include at least one supported field"), inner)
      else
        let conversation_id := resolve_conversation_id_inner inner project_id company_id conversation_id
        match (inner.conversations.lookup conversation_id).filter fun conversation =>
            conversation_matches_tenant conversation project_id company_id with
        | none => (.error (.NotFound "conversation not found"), inner)
        | some conversation =>
          match patch_conversation body conversation with
          | (.error err, patched) =>
            (.error err, { inner with
              conversations := inner.conversations.insert conversation_id patched })
          | (.ok _, patched) =>
            let updated := { patched with updated_at := ctx.now }
            let inner := push_event_inner
              { inner with conversations := inner.conversations.insert conversation_id updated }
              (new_event ctx 0 "conversation.updated" project_id company_id
                (some updated.channel_account_id) (some updated.id) none (some updated.last_seq)
                (.object [("conversation_id", .string updated.id),
                  ("is_archived", .bool updated.is_archived), ("is_muted", .bool updated.is_muted),
                  ("is_pinned", .bool updated.is_pinned),
                  ("control_mode", .string updated.control_mode)]))
            (.ok updated, mark_dirty_inner ctx 3 inner project_id company_id updated.id updated.last_seq
              updated.channel_account_id)
  | _ => (.error (.BadRequest "conversation patch body must be an object"), inner)

end rustzap.state
