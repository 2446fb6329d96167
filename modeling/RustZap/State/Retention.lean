import RustZap.State.Maintenance

open collections serde_json
open rustzap.error rustzap.models

namespace rustzap.state

structure CompanyPrivacyPolicy where
  message_retention_days : Option Nat
  media_temp_retention_days : Option Nat
  transcript_retention_days : Option Nat
  allow_transcript_storage : Bool

def as_u64 : Value → Option Nat
  | .number (.ofNat n) => some n
  | _ => none

def company_privacy_policy (company : Value) : CompanyPrivacyPolicy :=
  let privacy := (company.get "privacy").getD .null
  { message_retention_days := ((privacy.get "message_retention_days").bind as_u64).or (some 365)
    media_temp_retention_days := ((privacy.get "media_temp_retention_days").bind as_u64).or (some 30)
    transcript_retention_days := ((privacy.get "transcript_retention_days").bind as_u64).or (some 365)
    allow_transcript_storage := ((privacy.get "allow_transcript_storage").bind Value.as_bool).getD true }

def retention_cutoff (now : OffsetDateTime) (days : Option Nat) : Option OffsetDateTime :=
  days.map fun days => now - Duration.days (min days (2 ^ 63 - 1) : Nat)

/-- The bytes of a medium are deleted under both of its keys. `deleted` is the byte
store's answer. -/
def delete_media_object_bytes_best_effort (deleted : String → Bool) (media : MediaObject) : Bool :=
  media.object_key.all deleted &&
    (media.permanent_object_key.filter fun object_key => media.object_key ≠ some object_key).all deleted

def is_temp_status (storage_status : String) : Bool :=
  storage_status = "temp" || storage_status = "quarantine" || storage_status = "outbound-temp"

/-- The section of the retention that removes what has been selected before. -/
def remove_expired (inner : StoreInner) (message_ids media_ids : List String) : StoreInner :=
  { inner with
    messages_by_id := inner.messages_by_id.retain fun message_id _ => !message_ids.contains message_id
    messages_by_conversation := inner.messages_by_conversation.map_values fun _ messages =>
      messages.filter fun message => !message_ids.contains message.id
    transcripts := inner.transcripts.retain fun message_id _ => !message_ids.contains message_id
    media := inner.media.retain fun media_id _ => !media_ids.contains media_id }

/-- The section that removes the company's old transcripts. -/
def expire_transcripts (inner : StoreInner) (project_id company_id : String) (cutoff : OffsetDateTime) :
    StoreInner :=
  { inner with transcripts := inner.transcripts.retain fun _ transcript =>
      !(transcript.project_id = project_id && transcript.company_id = company_id &&
        transcript.updated_at ≤ cutoff) }

def is_null : Value → Bool
  | .null => true
  | _ => false

/-- Whether the retention redacts a transcript of the company. -/
def redacts (project_id company_id : String) (transcript : Transcript) : Bool :=
  transcript.project_id = project_id && transcript.company_id = company_id &&
    (transcript.text.isSome || !is_null transcript.raw_response_json)

/-- The section that redacts the transcripts of a company that stores none. -/
def redact_transcripts (now : OffsetDateTime) (inner : StoreInner) (project_id company_id : String) :
    StoreInner :=
  { inner with transcripts := inner.transcripts.map_values fun _ transcript =>
      if transcript.project_id = project_id && transcript.company_id = company_id &&
          (transcript.text.isSome || !is_null transcript.raw_response_json) then
        { transcript with
          text := none
          raw_response_json := .object [("redacted", .bool true)]
          updated_at := now }
      else transcript }

namespace CompanyPrivacyPolicy

variable (policy : CompanyPrivacyPolicy) (now : OffsetDateTime) (inner : StoreInner)
  (project_id company_id : String)

/-- The company's messages that are old enough to go. -/
def candidate_message_ids : List String :=
  match retention_cutoff now policy.message_retention_days with
  | none => []
  | some cutoff => (inner.messages_by_id.retain fun _ message =>
      message.project_id = project_id && message.company_id = company_id &&
        message.created_at ≤ cutoff).keys

/-- The media that go with a message, and the company's temporary media that are
old enough. -/
def candidate_media : List MediaObject :=
  inner.media.values.filter fun media =>
    media.message_id.any (policy.candidate_message_ids now inner project_id company_id).contains ||
    (is_temp_status media.storage_status && media.project_id = project_id &&
      media.company_id = company_id &&
      (retention_cutoff now policy.media_temp_retention_days).any fun cutoff => media.created_at ≤ cutoff)

/-- The messages with a medium whose bytes could not be deleted. They stay. -/
def failed_message_ids (deleted : String → Bool) : List String :=
  ((policy.candidate_media now inner project_id company_id).filter fun media =>
    !delete_media_object_bytes_best_effort deleted media).filterMap MediaObject.message_id

def removable_message_ids (deleted : String → Bool) : List String :=
  (policy.candidate_message_ids now inner project_id company_id).filter fun message_id =>
    !(policy.failed_message_ids now inner project_id company_id deleted).contains message_id

def removable_media_ids (deleted : String → Bool) : List String :=
  ((policy.candidate_media now inner project_id company_id).filter fun media =>
    delete_media_object_bytes_best_effort deleted media &&
      !media.message_id.any (policy.failed_message_ids now inner project_id company_id deleted).contains).map
    MediaObject.id

end CompanyPrivacyPolicy

/-- The retention of one company, with nothing in between its sections. -/
def apply_company_retention (now : OffsetDateTime) (inner : StoreInner) (project_id company_id : String)
    (policy : CompanyPrivacyPolicy) (deleted : String → Bool) : StoreInner :=
  let inner := remove_expired inner
    (policy.removable_message_ids now inner project_id company_id deleted)
    (policy.removable_media_ids now inner project_id company_id deleted)
  let inner := match retention_cutoff now policy.transcript_retention_days with
    | some cutoff => expire_transcripts inner project_id company_id cutoff
    | none => inner
  if !policy.allow_transcript_storage then redact_transcripts now inner project_id company_id else inner

structure RetentionSummary where
  messages_removed : Nat := 0
  transcripts_removed : Nat := 0
  transcripts_redacted : Nat := 0
  media_removed : Nat := 0
  deriving DecidableEq

/-- What the retention of one company reports. The ids are counted as sets. -/
def company_retention_summary (now : OffsetDateTime) (inner : StoreInner) (project_id company_id : String)
    (policy : CompanyPrivacyPolicy) (deleted : String → Bool) : RetentionSummary :=
  let message_ids := policy.removable_message_ids now inner project_id company_id deleted
  let media_ids := policy.removable_media_ids now inner project_id company_id deleted
  let inner := remove_expired inner message_ids media_ids
  let before := inner.transcripts.entries.length
  let inner := match retention_cutoff now policy.transcript_retention_days with
    | some cutoff => expire_transcripts inner project_id company_id cutoff
    | none => inner
  { messages_removed := message_ids.dedup.length
    media_removed := media_ids.dedup.length
    transcripts_removed := before - inner.transcripts.entries.length
    transcripts_redacted := if policy.allow_transcript_storage then 0
      else (inner.transcripts.values.filter (redacts project_id company_id)).length }

/-- The temporary media that have expired, and whose bytes could be deleted, go. -/
def expired_media_ids (now : OffsetDateTime) (inner : StoreInner) (deleted : String → Bool) :
    List String :=
  (inner.media.values.filter fun media =>
    is_temp_status media.storage_status && (media.expires_at.any fun expires_at => expires_at ≤ now) &&
      delete_media_object_bytes_best_effort deleted media).map MediaObject.id

def cleanup_expired_temp_media (now : OffsetDateTime) (inner : StoreInner) (deleted : String → Bool) :
    StoreInner :=
  { inner with media := (expired_media_ids now inner deleted).foldl (fun media media_id =>
      media.erase media_id) inner.media }

end rustzap.state
