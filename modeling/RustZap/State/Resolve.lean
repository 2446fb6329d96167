import RustZap.State.Contacts
import RustZap.Media

open collections
open rustzap.error rustzap.models

namespace rustzap.state

def conversation_matches_tenant (conversation : Conversation) (project_id company_id : String) : Bool :=
  conversation.project_id = project_id && conversation.company_id = company_id

def conversation_phone_number_for_inner (inner : StoreInner) (conversation : Conversation) :
    Option String :=
  if conversation.conversation_type = "group" then none
  else
    conversation.phone_number.or <|
      (conversation.display_phone.bind phone_number_from_e164).or <|
      (phone_number_from_jid conversation.id).or <|
      ((conversation.contact_id.bind inner.contacts.lookup).bind contact_phone_number).or <|
      (inner.contacts.lookup conversation.id).bind contact_phone_number

def apply_public_conversation_fields (inner : StoreInner) (conversation : Conversation) : Conversation :=
  let conversation := { conversation with
    profile_picture_media_id := rustzap_profile_picture_media_id conversation.profile_picture_media_id }
  if conversation.conversation_type = "group" then { conversation with phone_number := none }
  else match conversation_phone_number_for_inner inner conversation with
    | some phone_number =>
      { conversation with
        display_phone := conversation.display_phone.or (some ("+" ++ phone_number))
        phone_number := some phone_number }
    | none => conversation

def public_conversation_id (conversation : Conversation) : String :=
  conversation.phone_number.getD conversation.id

/-- The ids under which a contact may hold a conversation. -/
def contact_conversation_ids (contact : ContactRecord) : List String :=
  contact.lid.toList ++ contact.canonical_jid.toList ++ [contact.id]

def conversation_id_for_phone_number_inner (inner : StoreInner)
    (project_id company_id phone_number : String) : Option String :=
  let contacts := inner.contacts.values.filter fun contact =>
    contact.project_id = project_id && contact.company_id = company_id &&
      contact_phone_number contact = some phone_number
  let aliases := contacts.flatMap contact_conversation_ids ++ [phone_to_jid phone_number]
  (str.sort_dedup aliases).find? fun jid =>
    (inner.conversations.lookup jid).any fun conversation =>
      conversation_matches_tenant conversation project_id company_id

/-- The phone number a conversation reference stands for, when it is one. -/
def reference_phone_number (trimmed : String) : Option String :=
  (phone_number_from_jid trimmed).or
    (if !str.contains_char trimmed '@' then phone_number_from_value trimmed else none)

def resolve_conversation_id_inner (inner : StoreInner)
    (project_id company_id conversation_id : String) : String :=
  let trimmed := str.trim conversation_id
  if (inner.conversations.lookup trimmed).any fun conversation =>
      conversation_matches_tenant conversation project_id company_id then trimmed
  else match reference_phone_number trimmed with
    | some phone_number =>
      (conversation_id_for_phone_number_inner inner project_id company_id phone_number).getD
        (phone_to_jid phone_number)
    | none => trimmed

def conversation_for_inner (inner : StoreInner) (project_id company_id conversation_id : String) :
    ApiResult Conversation :=
  let conversation_id := resolve_conversation_id_inner inner project_id company_id conversation_id
  match (inner.conversations.lookup conversation_id).filter fun conversation =>
      conversation_matches_tenant conversation project_id company_id with
  | some conversation => .ok conversation
  | none => .error (.NotFound "conversation not found")

def ChannelRecord.serves (self : ChannelRecord) (project_id company_id : String) : Bool :=
  self.project_id = project_id && self.company_id = company_id && self.status = "connected"

/-- The first connected channel of the tenant in the map's order. -/
def connected_channel_for_project_company (inner : StoreInner) (project_id company_id : String) :
    Option String :=
  (inner.channels.entries.find? fun entry => entry.2.serves project_id company_id).map Sigma.fst

def apply_group_record_to_conversation (conversation : Conversation) (group_id : String)
    (group : Option GroupRecord) : Conversation :=
  { conversation with
    conversation_type := "group"
    contact_id := none
    group_id := some group_id
    display_phone := none
    phone_number := none
    display_name := some ((group.bind GroupRecord.subject).getD (group_subject_for_jid group_id))
    profile_picture_media_id :=
      group.bind fun group => rustzap_profile_picture_media_id group.profile_picture_media_id
    avatar_url := group.bind GroupRecord.avatar_url
    profile_picture_url := group.bind GroupRecord.profile_picture_url }

def apply_contact_to_conversation (conversation : Conversation) (contact : ContactRecord)
    (now : OffsetDateTime) : Conversation :=
  { conversation with
    contact_id := some contact.id
    display_name := some contact.display_name
    display_phone := contact.phone_e164.or conversation.display_phone
    phone_number := (contact_phone_number contact).or conversation.phone_number
    avatar_url := contact.avatar_url.or conversation.avatar_url
    profile_picture_url := contact.profile_picture_url.or conversation.profile_picture_url
    profile_picture_media_id := rustzap_profile_picture_media_id contact.profile_picture_media_id
    updated_at := now }

end rustzap.state
