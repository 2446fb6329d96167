import RustZap.State.Events
import RustZap.State.Resolve

open collections serde_json
open rustzap.eventbus rustzap.models

namespace rustzap.state

/-- What a conversation shows of its group or of its contact. -/
structure ConversationProfile where
  display_name : Option String
  display_phone : Option String
  profile_picture_media_id : Option String
  avatar_url : Option String
  profile_picture_url : Option String

def conversation_profile (conversation_id : String) (contact : Option ContactRecord)
    (group_record : Option GroupRecord) : ConversationProfile :=
  if is_group_jid conversation_id then
    { display_name := some ((group_record.bind GroupRecord.subject).getD
        (group_subject_for_jid conversation_id))
      display_phone := none
      profile_picture_media_id := group_record.bind fun group =>
        rustzap_profile_picture_media_id group.profile_picture_media_id
      avatar_url := group_record.bind GroupRecord.avatar_url
      profile_picture_url := group_record.bind GroupRecord.profile_picture_url }
  else
    { display_name := contact.map ContactRecord.display_name
      display_phone := contact.bind ContactRecord.phone_e164
      profile_picture_media_id := contact.bind fun contact =>
        rustzap_profile_picture_media_id contact.profile_picture_media_id
      avatar_url := contact.bind ContactRecord.avatar_url
      profile_picture_url := contact.bind ContactRecord.profile_picture_url }

/-- The record of a group, which only a group conversation reads. -/
def group_record_for (inner : StoreInner) (conversation_id : String) : Option GroupRecord :=
  if is_group_jid conversation_id then inner.groups.lookup conversation_id else none

/-- An empty conversation, as the entry points insert it. -/
def new_conversation (project_id company_id conversation_id channel_id : String)
    (contact_id : Option String) (profile : ConversationProfile) (phone_number : Option String)
    (control_mode : String) (now : OffsetDateTime) : Conversation where
  id := conversation_id
  project_id
  company_id
  channel_account_id := channel_id
  conversation_type := if is_group_jid conversation_id then "group" else "direct"
  contact_id := if is_group_jid conversation_id then none else contact_id
  group_id := if is_group_jid conversation_id then some conversation_id else none
  display_name := profile.display_name
  display_phone := profile.display_phone
  phone_number
  profile_picture_media_id := profile.profile_picture_media_id
  avatar_url := profile.avatar_url
  profile_picture_url := profile.profile_picture_url
  last_seq := 0
  last_message_at := none
  unread_count := 0
  is_archived := false
  is_muted := false
  is_pinned := false
  control_mode
  created_at := now
  updated_at := now

def ensure_conversation_inner (ctx : Ctx) (inner : StoreInner)
    (project_id company_id conversation_id channel_id control_mode : String) : StoreInner :=
  if (inner.conversations.lookup conversation_id).isSome then inner
  else
    let is_group := is_group_jid conversation_id
    let upserted := upsert_contact_inner inner
      { project_id, company_id, channel_id := some channel_id, contact_id := conversation_id,
        push_name := none, profile_picture_url := none, now := ctx.now }
    let contact := if is_group then none else some upserted.1
    let inner := if is_group then inner else upserted.2
    let profile := conversation_profile conversation_id contact (group_record_for inner conversation_id)
    let conversation := new_conversation project_id company_id conversation_id channel_id
      (some conversation_id) profile (contact.bind contact_phone_number) control_mode ctx.now
    { inner with conversations := inner.conversations.insert conversation_id conversation }

/-- A list with its first element of that id replaced, as a loop over
`iter_mut().find` leaves it. -/
def replace_message (messages : List Message) (message : Message) : List Message :=
  match messages with
  | [] => []
  | stored :: rest =>
    if stored.id = message.id then message :: rest else stored :: replace_message rest message

/-- Writes a changed message back to its place in the id map and to its
conversation's list. -/
def store_message (inner : StoreInner) (message_id : String) (message : Message) : StoreInner :=
  { inner with
    messages_by_id := inner.messages_by_id.insert message_id message
    messages_by_conversation := match inner.messages_by_conversation.lookup message.conversation_id with
      | some messages =>
        inner.messages_by_conversation.insert message.conversation_id (replace_message messages message)
      | none => inner.messages_by_conversation }

def attach_media_to_message_inner (now : OffsetDateTime) (inner : StoreInner) (message_id : String)
    (media : MediaObject) : Option Message × StoreInner :=
  match inner.messages_by_id.lookup message_id with
  | none => (none, inner)
  | some message =>
    let updated := { message with
      media_id := some media.id
      media_url := media.public_url
      thumbnail_url := media.thumbnail_url
      mime_type := some media.mime_type
      file_name := media.original_filename
      updated_at := now }
    (some updated, store_message inner message_id updated)

/-- The end of both recorders: the message joins its conversation's list and the
id map, the conversation is marked dirty, and the event goes out. -/
def append_message (ctx : Ctx) (inner : StoreInner) (message : Message) (event_type : String)
    (payload : Value) : StoreInner :=
  let messages := (inner.messages_by_conversation.lookup message.conversation_id).getD []
  let inner := { inner with
    messages_by_conversation :=
      inner.messages_by_conversation.insert message.conversation_id (messages ++ [message])
    messages_by_id := inner.messages_by_id.insert message.id message }
  let inner := mark_dirty_inner ctx 2 inner message.project_id message.company_id
    message.conversation_id message.conversation_seq message.channel_account_id
  push_event_inner inner (new_event ctx 5 event_type message.project_id message.company_id
    (some message.channel_account_id) (some message.conversation_id) (some message.id)
    (some message.conversation_seq) payload)

/-- The message counts of a conversation once it has received one more. -/
def count_message (self : Conversation) (direction : String)
    (last_message_at now : OffsetDateTime) : Conversation :=
  { self with
    last_seq := self.last_seq + 1
    last_message_at := some last_message_at
    updated_at := now
    unread_count := if direction = "inbound" then self.unread_count + 1 else self.unread_count }

/-- The arguments of `record_message_inner`. -/
structure RecordMessageInput where
  project_id : String
  company_id : String
  conversation_id : String
  direction : String
  message_type : String
  text : Option String
  status : String
  quoted_message_id : Option String
  channel_account_id : Option String
  sender_contact_id : Option String
  sender_display_name : Option String
  sender_profile_picture_url : Option String
  sent_by_external_user_id : Option String

namespace RecordMessageInput

def channel_id (input : RecordMessageInput) : String :=
  input.channel_account_id.getD "channel_dev"

def contact_id (input : RecordMessageInput) : Option String :=
  let own := if is_group_jid input.conversation_id then none else some input.conversation_id
  if input.direction = "inbound" then input.sender_contact_id.or own else own

/-- The contact is upserted first, then the sender's place in the group. -/
def people (input : RecordMessageInput) (now : OffsetDateTime) (inner : StoreInner) :
    Option ContactRecord × StoreInner :=
  let upserted := match input.contact_id with
    | some contact_id =>
      let upserted := upsert_contact_inner inner
        { project_id := input.project_id, company_id := input.company_id,
          channel_id := some input.channel_id, contact_id, push_name := input.sender_display_name,
          profile_picture_url := input.sender_profile_picture_url, now }
      (some upserted.1, upserted.2)
    | none => (none, inner)
  match is_group_jid input.conversation_id, input.sender_contact_id with
  | true, some sender_contact_id =>
    let display_name := (input.sender_display_name.or (upserted.1.map ContactRecord.display_name)).getD
      (display_name_for_jid sender_contact_id)
    (upserted.1, upsert_group_member_inner upserted.2 input.conversation_id sender_contact_id
      display_name now)
  | _, _ => upserted

def new_conversation (input : RecordMessageInput) (profile : ConversationProfile)
    (now : OffsetDateTime) : Conversation :=
  state.new_conversation input.project_id input.company_id input.conversation_id input.channel_id
    input.contact_id profile (profile.display_phone.bind phone_number_from_e164) "autopilot" now

/-- The refresh of the conversation's profile, before its counts move. -/
def refresh (input : RecordMessageInput) (profile : ConversationProfile)
    (group_record : Option GroupRecord) (conversation : Conversation) : Conversation :=
  if is_group_jid input.conversation_id then
    apply_group_record_to_conversation conversation input.conversation_id group_record
  else
    { conversation with
      display_name := profile.display_name.or conversation.display_name
      phone_number := if profile.display_phone.isSome then
          profile.display_phone.bind phone_number_from_e164
        else conversation.phone_number
      display_phone := profile.display_phone.or conversation.display_phone }

def conversation (input : RecordMessageInput) (now : OffsetDateTime) (inner : StoreInner) :
    Conversation :=
  let people := input.people now inner
  let group_record := group_record_for people.2 input.conversation_id
  let profile := conversation_profile input.conversation_id people.1 group_record
  let stored := (people.2.conversations.lookup input.conversation_id).getD
    (input.new_conversation profile now)
  count_message (input.refresh profile group_record stored) input.direction now now

def message (input : RecordMessageInput) (ctx : Ctx) (contact : Option ContactRecord)
    (conversation_seq : Int) : Message where
  id := "msg_" ++ ctx.uuid 0
  project_id := input.project_id
  company_id := input.company_id
  conversation_id := input.conversation_id
  channel_account_id := input.channel_id
  conversation_seq
  wa_message_id := some ("wa_" ++ ctx.uuid 1)
  direction := input.direction
  sender_contact_id := input.sender_contact_id
  sender_display_name := input.sender_display_name.or (contact.map ContactRecord.display_name)
  message_type := input.message_type
  text := input.text
  media_id := none
  media_url := none
  thumbnail_url := none
  mime_type := none
  file_name := none
  quoted_message_id := input.quoted_message_id
  status := input.status
  error_message := none
  is_starred := false
  is_pinned := false
  reaction := none
  sent_by_source := if input.direction = "outbound" then some "rustzap_api" else none
  sent_by_external_user_id :=
    if input.direction = "outbound" then input.sent_by_external_user_id else none
  created_at_wa := ctx.now
  created_at := ctx.now
  updated_at := ctx.now

end RecordMessageInput

def record_message_inner (ctx : Ctx) (inner : StoreInner) (input : RecordMessageInput) :
    Message × StoreInner :=
  let people := input.people ctx.now inner
  let conversation := input.conversation ctx.now inner
  let message := input.message ctx people.1 conversation.last_seq
  let inner := { people.2 with
    conversations := people.2.conversations.insert input.conversation_id conversation }
  (message, append_message ctx inner message
    (if input.direction = "inbound" then "message.received" else "message.queued")
    (.object [("message_id", .string message.id), ("status", .string message.status),
      ("delivery_state", .string message.delivery_state.name)]))

structure WhatsappMessageInput where
  project_id : String
  company_id : String
  channel_id : String
  conversation_id : String
  contact_id : Option String
  contact_name : Option String
  contact_alt_jid : Option String
  direction : String
  message_type : String
  text : Option String
  status : String
  wa_message_id : Option String
  sender_contact_id : Option String
  sender_name : Option String
  sender_alt_jid : Option String
  created_at_wa : OffsetDateTime

/-- Whether a stored message has the external identity of an incoming one. -/
def has_external_identity (channel_id wa_message_id direction : String) (message : Message) : Bool :=
  message.channel_account_id = channel_id && message.wa_message_id = some wa_message_id &&
    message.direction = direction

namespace WhatsappMessageInput

/-- The first stored message of the same channel, WhatsApp id and direction, in
the map's order. -/
def existing (input : WhatsappMessageInput) (inner : StoreInner) : Option Message :=
  input.wa_message_id.bind fun wa_message_id =>
    inner.messages_by_id.values.find?
      (has_external_identity input.channel_id wa_message_id input.direction)

def is_inbound_group (input : WhatsappMessageInput) : Bool :=
  is_group_jid input.conversation_id && input.direction = "inbound"

def contact_key (input : WhatsappMessageInput) : Option String :=
  input.contact_id.or <|
    if input.is_inbound_group then input.sender_contact_id
    else if !is_group_jid input.conversation_id then some input.conversation_id
    else none

def upsert_contact (input : WhatsappMessageInput) (now : OffsetDateTime) (inner : StoreInner)
    (contact_id : Option String) (push_name alt_jid : Option String) :
    Option ContactRecord × StoreInner :=
  match contact_id with
  | some contact_id =>
    let upserted := upsert_contact_with_alt_inner inner
      { contact :=
          { project_id := input.project_id, company_id := input.company_id,
            channel_id := some input.channel_id, contact_id, push_name,
            profile_picture_url := none, now }
        alt_jid }
    (some upserted.1, upserted.2)
  | none => (none, inner)

structure People where
  contact : Option ContactRecord
  sender_contact : Option ContactRecord
  inner : StoreInner

/-- The contact is upserted first, then the sender of a group message, then the
sender's place in the group. -/
def people (input : WhatsappMessageInput) (now : OffsetDateTime) (inner : StoreInner) : People :=
  let contact := input.upsert_contact now inner input.contact_key input.contact_name
    input.contact_alt_jid
  let sender := input.upsert_contact now contact.2
    (if input.is_inbound_group then input.sender_contact_id else none)
    input.sender_name input.sender_alt_jid
  let inner := match is_group_jid input.conversation_id, input.sender_contact_id with
    | true, some sender_contact_id =>
      let display_name := (((sender.1.or contact.1).map ContactRecord.display_name).or
        input.sender_name).getD (display_name_for_jid sender_contact_id)
      upsert_group_member_inner sender.2 input.conversation_id sender_contact_id display_name now
    | _, _ => sender.2
  { contact := contact.1, sender_contact := sender.1, inner }

def new_conversation (input : WhatsappMessageInput) (profile : ConversationProfile)
    (now : OffsetDateTime) : Conversation :=
  state.new_conversation input.project_id input.company_id input.conversation_id input.channel_id
    input.contact_key profile (profile.display_phone.bind phone_number_from_e164) "manual" now

/-- Unlike the API's recorder, this one refreshes the pictures as well. -/
def refresh (input : WhatsappMessageInput) (profile : ConversationProfile)
    (group_record : Option GroupRecord) (conversation : Conversation) : Conversation :=
  if is_group_jid input.conversation_id then
    apply_group_record_to_conversation conversation input.conversation_id group_record
  else
    { conversation with
      display_name := profile.display_name.or conversation.display_name
      phone_number := if profile.display_phone.isSome then
          profile.display_phone.bind phone_number_from_e164
        else conversation.phone_number
      display_phone := profile.display_phone.or conversation.display_phone
      avatar_url := profile.avatar_url.or conversation.avatar_url
      profile_picture_url := profile.profile_picture_url.or conversation.profile_picture_url
      profile_picture_media_id :=
        profile.profile_picture_media_id.or conversation.profile_picture_media_id }

def conversation (input : WhatsappMessageInput) (now : OffsetDateTime) (inner : StoreInner) :
    Conversation :=
  let people := input.people now inner
  let group_record := group_record_for people.inner input.conversation_id
  let profile := conversation_profile input.conversation_id people.contact group_record
  let stored := (people.inner.conversations.lookup input.conversation_id).getD
    (input.new_conversation profile now)
  count_message (input.refresh profile group_record stored) input.direction input.created_at_wa now

def message (input : WhatsappMessageInput) (ctx : Ctx) (people : People) (conversation_seq : Int) :
    Message where
  id := "msg_" ++ ctx.uuid 0
  project_id := input.project_id
  company_id := input.company_id
  conversation_id := input.conversation_id
  channel_account_id := input.channel_id
  conversation_seq
  wa_message_id := input.wa_message_id
  direction := input.direction
  sender_contact_id := input.sender_contact_id
  sender_display_name := if input.direction = "inbound" then
      ((people.sender_contact.or people.contact).map ContactRecord.display_name).or input.sender_name
    else none
  message_type := input.message_type
  text := input.text
  media_id := none
  media_url := none
  thumbnail_url := none
  mime_type := none
  file_name := none
  quoted_message_id := none
  status := input.status
  error_message := none
  is_starred := false
  is_pinned := false
  reaction := none
  sent_by_source := if input.direction = "outbound" then some "whatsapp-rust" else none
  sent_by_external_user_id := if input.direction = "outbound" then input.sender_name else none
  created_at_wa := input.created_at_wa
  created_at := ctx.now
  updated_at := ctx.now

/-- The recording of a message that is not known yet. -/
def record (input : WhatsappMessageInput) (ctx : Ctx) (inner : StoreInner) : Message × StoreInner :=
  let people := input.people ctx.now inner
  let conversation := input.conversation ctx.now inner
  let message := input.message ctx people conversation.last_seq
  let inner := { people.inner with
    conversations := people.inner.conversations.insert input.conversation_id conversation }
  (message, append_message ctx inner message
    (if input.direction = "inbound" then "message.received" else "message.sent")
    (.object [("wa_message_id", Value.of_option message.wa_message_id),
      ("status", .string message.status), ("delivery_state", .string message.delivery_state.name)]))

end WhatsappMessageInput

def record_whatsapp_message (ctx : Ctx) (inner : StoreInner) (input : WhatsappMessageInput) :
    Message × StoreInner :=
  match input.existing inner with
  | some existing => (existing, inner)
  | none => input.record ctx inner

theorem RecordMessageInput.people_frame (input : RecordMessageInput) (now : OffsetDateTime)
    (inner : StoreInner) :
    ∃ contacts group_members, (input.people now inner).2 = { inner with contacts, group_members } := by
  unfold RecordMessageInput.people
  cases input.contact_id <;> dsimp only <;> split <;> exact ⟨_, _, rfl⟩

theorem WhatsappMessageInput.upsert_contact_frame (input : WhatsappMessageInput)
    (now : OffsetDateTime) (inner : StoreInner) (contact_id push_name alt_jid : Option String) :
    ∃ contacts, (input.upsert_contact now inner contact_id push_name alt_jid).2 =
      { inner with contacts } := by
  cases contact_id with
  | none => exact ⟨_, rfl⟩
  | some contact_id => exact upsert_contact_with_alt_inner_frame inner _

theorem WhatsappMessageInput.people_frame (input : WhatsappMessageInput) (now : OffsetDateTime)
    (inner : StoreInner) :
    ∃ contacts group_members, (input.people now inner).inner =
      { inner with contacts, group_members } := by
  unfold WhatsappMessageInput.people
  obtain ⟨contacts, hcontact⟩ := input.upsert_contact_frame now inner input.contact_key
    input.contact_name input.contact_alt_jid
  obtain ⟨contacts', hsender⟩ := input.upsert_contact_frame now { inner with contacts }
    (if input.is_inbound_group then input.sender_contact_id else none)
    input.sender_name input.sender_alt_jid
  dsimp only
  rw [hcontact]
  split
  · rw [hsender]
    exact ⟨_, _, rfl⟩
  · rw [hsender]
    exact ⟨_, _, rfl⟩

/-- How a conversation stands once a message of it has been recorded: it is the
stored one, or a new one of the message's tenant, and its count has moved to the
message's sequence number. -/
structure Counted (stored : Option Conversation) (message : Message) (conversation : Conversation) :
    Prop where
  id : conversation.id = stored.elim message.conversation_id Conversation.id
  project_id : conversation.project_id = stored.elim message.project_id Conversation.project_id
  company_id : conversation.company_id = stored.elim message.company_id Conversation.company_id
  last_seq : conversation.last_seq = message.conversation_seq
  next_seq : message.conversation_seq = stored.elim 0 Conversation.last_seq + 1

/-- What recording a message does to the store, whichever recorder it was: the
conversation counts the message, the message is in both message maps, and the
conversation is marked dirty up to its number. Besides these, only contacts,
group members and events change. -/
def Recorded (ctx : Ctx) (inner : StoreInner) (message : Message) (inner' : StoreInner) : Prop :=
  ∃ conversation contacts group_members events,
    Counted (inner.conversations.lookup message.conversation_id) message conversation ∧
    inner' = { inner with
      contacts, group_members, events
      conversations := inner.conversations.insert message.conversation_id conversation
      messages_by_conversation := inner.messages_by_conversation.insert message.conversation_id
        ((inner.messages_by_conversation.lookup message.conversation_id).getD [] ++ [message])
      messages_by_id := inner.messages_by_id.insert message.id message
      dirty := inner.dirty.insert (message.project_id, message.company_id, message.conversation_id)
        (marked_dirty ctx.now message.conversation_id message.conversation_seq
          (inner.dirty.lookup (message.project_id, message.company_id, message.conversation_id))) }

theorem RecordMessageInput.conversation_counted (input : RecordMessageInput) (ctx : Ctx)
    (inner : StoreInner) (contact : Option ContactRecord) :
    Counted (inner.conversations.lookup input.conversation_id)
      (input.message ctx contact (input.conversation ctx.now inner).last_seq)
      (input.conversation ctx.now inner) := by
  obtain ⟨contacts, group_members, hpeople⟩ := input.people_frame ctx.now inner
  simp only [RecordMessageInput.conversation, count_message, RecordMessageInput.refresh, hpeople]
  cases hstored : inner.conversations.lookup input.conversation_id <;> split <;>
    exact ⟨rfl, rfl, rfl, rfl, rfl⟩

theorem WhatsappMessageInput.conversation_counted (input : WhatsappMessageInput) (ctx : Ctx)
    (inner : StoreInner) (people : People) :
    Counted (inner.conversations.lookup input.conversation_id)
      (input.message ctx people (input.conversation ctx.now inner).last_seq)
      (input.conversation ctx.now inner) := by
  obtain ⟨contacts, group_members, hpeople⟩ := input.people_frame ctx.now inner
  simp only [WhatsappMessageInput.conversation, count_message, WhatsappMessageInput.refresh, hpeople]
  cases hstored : inner.conversations.lookup input.conversation_id <;> split <;>
    exact ⟨rfl, rfl, rfl, rfl, rfl⟩

theorem record_message_inner_recorded (ctx : Ctx) (inner : StoreInner) (input : RecordMessageInput) :
    Recorded ctx inner (record_message_inner ctx inner input).1
      (record_message_inner ctx inner input).2 := by
  obtain ⟨contacts, group_members, hpeople⟩ := input.people_frame ctx.now inner
  refine ⟨input.conversation ctx.now inner, contacts, group_members,
    (record_message_inner ctx inner input).2.events, input.conversation_counted ctx inner _, ?_⟩
  simp only [record_message_inner, hpeople]
  rfl

theorem WhatsappMessageInput.record_recorded (input : WhatsappMessageInput) (ctx : Ctx)
    (inner : StoreInner) :
    Recorded ctx inner (input.record ctx inner).1 (input.record ctx inner).2 := by
  obtain ⟨contacts, group_members, hpeople⟩ := input.people_frame ctx.now inner
  refine ⟨input.conversation ctx.now inner, contacts, group_members,
    (input.record ctx inner).2.events, input.conversation_counted ctx inner _, ?_⟩
  simp only [WhatsappMessageInput.record, hpeople]
  rfl

/-- The recorder of WhatsApp messages either finds the message or records it. -/
theorem record_whatsapp_message_cases (ctx : Ctx) (inner : StoreInner) (input : WhatsappMessageInput) :
    (∃ existing, input.existing inner = some existing ∧
      record_whatsapp_message ctx inner input = (existing, inner)) ∨
    input.existing inner = none ∧ record_whatsapp_message ctx inner input = input.record ctx inner := by
  unfold record_whatsapp_message
  cases hexisting : input.existing inner with
  | some existing => exact Or.inl ⟨existing, rfl, rfl⟩
  | none => exact Or.inr ⟨rfl, rfl⟩

end rustzap.state
