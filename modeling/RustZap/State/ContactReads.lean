import RustZap.State.Maintenance

open collections
open rustzap.error rustzap.models

namespace rustzap.state

/-- The phone book of a company, the last contact first. The source renders each
record as JSON, from the record alone, and compares the rendered instants. -/
def contacts (self : AppState) (inner : StoreInner) (project_id company_id : String) : List ContactRecord :=
  sort_by (fun a b => self.host.ts b.last_contact_at ≤ self.host.ts a.last_contact_at)
    (inner.contacts.values.filter fun contact => contact.matches_tenant project_id company_id)

def contact (inner : StoreInner) (project_id company_id contact_id : String) : ApiResult ContactRecord :=
  let contact_id := resolve_contact_id_inner inner project_id company_id contact_id
  match (inner.contacts.lookup contact_id).filter fun contact =>
      contact.matches_tenant project_id company_id with
  | some contact => .ok contact
  | none => .error (contact_not_found contact_id)

/-- All that a company has stored about a person. -/
structure PrivacyExport where
  contact : ContactRecord
  conversations : List Conversation
  messages : List Message
  media : List MediaObject
  transcripts : List Transcript

def privacy_export_contact (inner : StoreInner) (project_id company_id contact_id : String) :
    ApiResult PrivacyExport :=
  match contact inner project_id company_id contact_id with
  | .error err => .error err
  | .ok contact =>
    let aliases := contact_aliases_for_record contact
    let conversations := inner.conversations.values.filter fun conversation =>
      conversation.project_id = project_id && conversation.company_id = company_id &&
        conversation.contact_id.any aliases.contains
    let conversation_ids := conversations.map Conversation.id
    let messages := inner.messages_by_id.values.filter fun message =>
      message.project_id = project_id && message.company_id = company_id &&
        (conversation_ids.contains message.conversation_id || message.sender_contact_id.any aliases.contains)
    let message_ids := messages.map Message.id
    let media := inner.media.values.filter fun media =>
      media.project_id = project_id && media.company_id = company_id &&
        (conversation_ids.contains media.conversation_id || media.message_id.any message_ids.contains)
    let transcripts := inner.transcripts.values.filter fun transcript =>
      transcript.project_id = project_id && transcript.company_id = company_id &&
        message_ids.contains transcript.message_id
    .ok { contact, conversations, messages, media, transcripts }

end rustzap.state
