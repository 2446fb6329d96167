import RustZap.State.Dispatch

open collections serde_json
open rustzap.error rustzap.eventbus rustzap.models

namespace rustzap.transcription

structure GroqTranscription where
  text : String
  raw_response_json : Value

inductive TranscriptLifecycle where
  | Pending
  | Processing
  | Completed
  | Failed (message : String)
  | SkippedSizeLimit
  | SkippedUnsupportedType
  deriving DecidableEq

def TranscriptLifecycle.status : TranscriptLifecycle → String
  | .Pending => "pending"
  | .Processing => "processing"
  | .Completed => "completed"
  | .Failed _ => "failed"
  | .SkippedSizeLimit => "skipped_size_limit"
  | .SkippedUnsupportedType => "skipped_unsupported_type"

/-- A new transcript draws one UUID, the one numbered `draw`. -/
def transcript_with_lifecycle (ctx : Ctx) (draw : Nat) (project_id company_id message_id : String)
    (media_id : Option String) (lifecycle : TranscriptLifecycle) (text : Option String) :
    Transcript where
  id := "tr_" ++ ctx.uuid draw
  project_id
  company_id
  message_id
  media_id
  provider := "groq"
  model := "whisper-large-v3-turbo"
  language := "pt"
  text
  raw_response_json := .object [("lifecycle", .string lifecycle.status)]
  status := lifecycle.status
  error_message := match lifecycle with
    | .Failed message => some message
    | _ => none
  created_at := ctx.now
  updated_at := ctx.now

def groq_transcript_from_result (ctx : Ctx) (draw : Nat) (project_id company_id message_id : String)
    (media_id : Option String) (result : GroqTranscription) : Transcript :=
  { transcript_with_lifecycle ctx draw project_id company_id message_id media_id .Completed
      (some result.text) with
    raw_response_json := result.raw_response_json }

end rustzap.transcription

namespace rustzap.state

open rustzap.transcription

def company (inner : StoreInner) (project_id company_id : String) : Value :=
  (inner.companies.lookup (project_id, company_id)).getD
    (.object [("id", .string company_id), ("project_id", .string project_id),
      ("name", .string "Development Company"), ("status", .string "active")])

def company_allows_transcript_storage (inner : StoreInner) (project_id company_id : String) : Bool :=
  let privacy := ((company inner project_id company_id).get "privacy").getD .null
  ((privacy.get "allow_transcript_storage").bind Value.as_bool).getD true

/-- A transcript as the store keeps it: redacted where the company forbids its
storage, and under the id and the creation time of the one it replaces. -/
def stored_transcript (inner : StoreInner) (message : Message) (transcript : Transcript) : Transcript :=
  let transcript := if company_allows_transcript_storage inner message.project_id message.company_id then
      transcript
    else { transcript with text := none, raw_response_json := .object [("redacted", .bool true)] }
  match inner.transcripts.lookup message.id with
  | some existing => { transcript with id := existing.id, created_at := existing.created_at }
  | none => transcript

/-- An event about a message. -/
def message_event (ctx : Ctx) (draw : Nat) (event_type : String) (message : Message)
    (payload : Value) : CommonEvent :=
  new_event ctx draw event_type message.project_id message.company_id (some message.channel_account_id)
    (some message.conversation_id) (some message.id) (some message.conversation_seq) payload

/-- Marks the message's conversation dirty at the message's sequence number. -/
def mark_message_dirty (ctx : Ctx) (draw : Nat) (inner : StoreInner) (message : Message) : StoreInner :=
  mark_dirty_inner ctx draw inner message.project_id message.company_id message.conversation_id
    message.conversation_seq message.channel_account_id

def transcript_payload (message : Message) (media : MediaObject) (transcript : Transcript) :
    List (String × Value) :=
  [("message_id", .string message.id), ("media_id", .string media.id),
    ("transcript_id", .string transcript.id)]

def set_transcript_lifecycle (ctx : Ctx) (inner : StoreInner) (message : Message)
    (media : MediaObject) (lifecycle : TranscriptLifecycle) (text : Option String) :
    Transcript × StoreInner :=
  let transcript := stored_transcript inner message (transcript_with_lifecycle ctx 0 message.project_id
    message.company_id message.id (some media.id) lifecycle text)
  let inner := { inner with transcripts := inner.transcripts.insert message.id transcript }
  if transcript.status = "completed" then
    let inner := push_event_inner inner (message_event ctx 1 "audio.transcribed" message
      (.object (transcript_payload message media transcript ++ [("status", .string transcript.status)])))
    (transcript, mark_message_dirty ctx 4 inner message)
  else (transcript, inner)

def set_completed_groq_transcript (ctx : Ctx) (inner : StoreInner) (message : Message)
    (media : MediaObject) (result : GroqTranscription) : Transcript × StoreInner :=
  let transcript := stored_transcript inner message (groq_transcript_from_result ctx 0 message.project_id
    message.company_id message.id (some media.id) result)
  let inner := { inner with transcripts := inner.transcripts.insert message.id transcript }
  let inner := push_event_inner inner (message_event ctx 1 "audio.transcribed" message
    (.object (transcript_payload message media transcript)))
  let inner := push_event_inner inner (message_event ctx 4 "transcript.completed" message
    (.object (transcript_payload message media transcript)))
  (transcript, mark_message_dirty ctx 7 inner message)

def media_for_company (inner : StoreInner) (project_id company_id media_id : String) :
    ApiResult MediaObject :=
  match (inner.media.lookup media_id).filter fun media =>
      media.project_id = project_id && media.company_id = company_id with
  | some media => .ok media
  | none => .error (media_not_found media_id)

/-- What the transcription worker learns from outside: the stored bytes and the
answer of the speech service. Its last write has a clock of its own. -/
structure TranscriptionAnswers where
  bytes : Except String (List UInt8)
  result : Except String GroqTranscription
  ctx : Ctx

/-- What remains of a transcription once the message and its media are known. -/
def transcribe (self : AppState) (ctx : Ctx) (inner : StoreInner) (message : Message)
    (media_id : String) (media : MediaObject) (answers : TranscriptionAnswers) :
    Transcript × StoreInner :=
  if !str.starts_with media.mime_type "audio/" then
    set_transcript_lifecycle ctx inner message media .SkippedUnsupportedType none
  else if media.size_bytes > min (self.config.stt_max_audio_mb * (1024 * 1024)) (2 ^ 64 - 1) then
    set_transcript_lifecycle ctx inner message media .SkippedSizeLimit none
  else
    let inner := (set_transcript_lifecycle ctx inner message media .Processing none).2
    match media_blob inner media_id answers.bytes with
    | .ok none =>
      set_transcript_lifecycle answers.ctx inner message media
        (.Failed ("media " ++ media_id ++ " has no stored bytes available for STT")) none
    | .error err => set_transcript_lifecycle answers.ctx inner message media (.Failed err.to_string) none
    | .ok (some _) =>
      match answers.result with
      | .ok result => set_completed_groq_transcript answers.ctx inner message media result
      | .error error => set_transcript_lifecycle answers.ctx inner message media (.Failed error) none

def process_transcription_request (self : AppState) (ctx : Ctx) (inner : StoreInner)
    (event : CommonEvent) (answers : TranscriptionAnswers) : ApiResult Transcript × StoreInner :=
  match ((event.payload.get "message_id").bind Value.as_str).or event.message_id with
  | none => (.error (.BadRequest "transcription event missing message_id"), inner)
  | some message_id =>
    match message_for_company inner event.project_id event.company_id message_id with
    | .error err => (.error err, inner)
    | .ok message =>
      match (inner.transcripts.lookup message_id).filter fun transcript =>
          transcript.status = "completed" || transcript.status = "skipped_size_limit" ||
            transcript.status = "skipped_unsupported_type" with
      | some transcript => (.ok transcript, inner)
      | none =>
        match ((event.payload.get "media_id").bind Value.as_str).or message.media_id with
        | none =>
          (.error (.BadRequest ("message " ++ message_id ++ " has no media to transcribe")), inner)
        | some media_id =>
          match media_for_company inner event.project_id event.company_id media_id with
          | .error err => (.error err, inner)
          | .ok media =>
            let transcribed := transcribe self ctx inner message media_id media answers
            (.ok transcribed.1, transcribed.2)

end rustzap.state
