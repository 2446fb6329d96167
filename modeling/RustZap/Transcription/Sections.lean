import RustZap.State.Maintenance

open collections serde_json
open rustzap.error rustzap.models rustzap.transcription

namespace rustzap.state

/-- What a transcription has come to, and is about to write. -/
inductive TranscriptWrite where
  | lifecycle (lifecycle : TranscriptLifecycle)
  | completed (result : GroqTranscription)

/-- The transcript to be written, as it is made up before the store is looked at. -/
def TranscriptWrite.transcript (ctx : Ctx) (message : Message) (media : MediaObject) :
    TranscriptWrite → Transcript
  | .lifecycle reached => transcript_with_lifecycle ctx 0 message.project_id message.company_id message.id
      (some media.id) reached none
  | .completed result => groq_transcript_from_result ctx 0 message.project_id message.company_id message.id
      (some media.id) result

/-- The first critical section of a write, which reads what the company allows. -/
def permitted_transcript (inner : StoreInner) (message : Message) (transcript : Transcript) : Transcript :=
  if company_allows_transcript_storage inner message.project_id message.company_id then transcript
  else { transcript with text := none, raw_response_json := .object [("redacted", .bool true)] }

/-- A transcript under the id and the creation time of the one it replaces. -/
def replacing_transcript (inner : StoreInner) (message : Message) (transcript : Transcript) : Transcript :=
  match inner.transcripts.lookup message.id with
  | some existing => { transcript with id := existing.id, created_at := existing.created_at }
  | none => transcript

/-- The second one, which puts the transcript into the store. -/
def write_transcript (ctx : Ctx) (inner : StoreInner) (message : Message) (media : MediaObject)
    (transcript : Transcript) : TranscriptWrite → Transcript × StoreInner
  | .lifecycle _ =>
    let transcript := replacing_transcript inner message transcript
    let inner := { inner with transcripts := inner.transcripts.insert message.id transcript }
    if transcript.status = "completed" then
      let inner := push_event_inner inner (message_event ctx 1 "audio.transcribed" message
        (.object (transcript_payload message media transcript ++ [("status", .string transcript.status)])))
      (transcript, mark_message_dirty ctx 4 inner message)
    else (transcript, inner)
  | .completed _ =>
    let transcript := replacing_transcript inner message transcript
    let inner := { inner with transcripts := inner.transcripts.insert message.id transcript }
    let inner := push_event_inner inner (message_event ctx 1 "audio.transcribed" message
      (.object (transcript_payload message media transcript)))
    let inner := push_event_inner inner (message_event ctx 4 "transcript.completed" message
      (.object (transcript_payload message media transcript)))
    (transcript, mark_message_dirty ctx 7 inner message)

theorem set_transcript_lifecycle_eq (ctx : Ctx) (inner : StoreInner) (message : Message) (media : MediaObject)
    (lifecycle : TranscriptLifecycle) :
    set_transcript_lifecycle ctx inner message media lifecycle none =
      write_transcript ctx inner message media (permitted_transcript inner message
        ((TranscriptWrite.lifecycle lifecycle).transcript ctx message media)) (.lifecycle lifecycle) :=
  rfl

theorem set_completed_groq_transcript_eq (ctx : Ctx) (inner : StoreInner) (message : Message)
    (media : MediaObject) (result : GroqTranscription) :
    set_completed_groq_transcript ctx inner message media result =
      write_transcript ctx inner message media (permitted_transcript inner message
        ((TranscriptWrite.completed result).transcript ctx message media)) (.completed result) :=
  rfl

/-- Where an execution of `process_transcription_request` stands between two critical
sections. -/
inductive TranscriptionPhase where
  | requested
  | located (message_id : String) (message : Message)
  | unfinished (message : Message) (media_id : String)
  | permitting (message : Message) (media_id : String) (media : MediaObject) (write : TranscriptWrite)
  | writing (message : Message) (media_id : String) (media : MediaObject) (write : TranscriptWrite)
      (transcript : Transcript)
  | reading (message : Message) (media_id : String) (media : MediaObject)
  | returned (result : ApiResult Transcript)

/-- What takes an execution from one phase to the next, with what it learns there from
outside. -/
inductive TranscriptionSection where
  | locate
  | check
  | find_media
  | permit (ctx : Ctx)
  | write (ctx : Ctx)
  | read (bytes : Except String (List UInt8)) (result : Except String GroqTranscription)

/-- What is written before the bytes are read: the media may not be transcribed at all. -/
def first_write (self : AppState) (media : MediaObject) : TranscriptWrite :=
  if !str.starts_with media.mime_type "audio/" then .lifecycle .SkippedUnsupportedType
  else if media.size_bytes > min (self.config.stt_max_audio_mb * (1024 * 1024)) (2 ^ 64 - 1) then
    .lifecycle .SkippedSizeLimit
  else .lifecycle .Processing

/-- What is written after them. -/
def last_write (inner : StoreInner) (media_id : String) (bytes : Except String (List UInt8))
    (result : Except String GroqTranscription) : TranscriptWrite :=
  match media_blob inner media_id bytes with
  | .ok none => .lifecycle (.Failed ("media " ++ media_id ++ " has no stored bytes available for STT"))
  | .error err => .lifecycle (.Failed err.to_string)
  | .ok (some _) =>
    match result with
    | .ok result => .completed result
    | .error error => .lifecycle (.Failed error)

/-- The execution returns what it has written, unless it has only begun. -/
def written_phase (message : Message) (media_id : String) (media : MediaObject) (transcript : Transcript) :
    TranscriptWrite → TranscriptionPhase
  | .lifecycle .Processing => .reading message media_id media
  | _ => .returned (.ok transcript)

/-- The critical section by which an execution goes on from its phase. -/
def transcription_go (self : AppState) (event : CommonEvent) (inner : StoreInner) :
    TranscriptionSection → TranscriptionPhase → Option (TranscriptionPhase × StoreInner)
  | .locate, .requested =>
    match ((event.payload.get "message_id").bind Value.as_str).or event.message_id with
    | none => some (.returned (.error (.BadRequest "transcription event missing message_id")), inner)
    | some message_id =>
      match message_for_company inner event.project_id event.company_id message_id with
      | .error err => some (.returned (.error err), inner)
      | .ok message => some (.located message_id message, inner)
  | .check, .located message_id message =>
    match (inner.transcripts.lookup message_id).filter fun transcript =>
        transcript.status = "completed" || transcript.status = "skipped_size_limit" ||
          transcript.status = "skipped_unsupported_type" with
    | some transcript => some (.returned (.ok transcript), inner)
    | none =>
      match ((event.payload.get "media_id").bind Value.as_str).or message.media_id with
      | none => some (.returned (.error
          (.BadRequest ("message " ++ message_id ++ " has no media to transcribe"))), inner)
      | some media_id => some (.unfinished message media_id, inner)
  | .find_media, .unfinished message media_id =>
    match media_for_company inner event.project_id event.company_id media_id with
    | .error err => some (.returned (.error err), inner)
    | .ok media => some (.permitting message media_id media (first_write self media), inner)
  | .permit ctx, .permitting message media_id media write =>
    some (.writing message media_id media write
      (permitted_transcript inner message (write.transcript ctx message media)), inner)
  | .write ctx, .writing message media_id media write transcript =>
    let written := write_transcript ctx inner message media transcript write
    some (written_phase message media_id media written.1 write, written.2)
  | .read bytes result, .reading message media_id media =>
    some (.permitting message media_id media (last_write inner media_id bytes result), inner)
  | _, _ => none

/-- Several sections that nothing comes in between of. -/
def transcription_sections (self : AppState) (event : CommonEvent) :
    List TranscriptionSection → TranscriptionPhase × StoreInner → Option (TranscriptionPhase × StoreInner)
  | [], reached => some reached
  | next :: sections, (phase, inner) =>
    (transcription_go self event inner next phase).bind (transcription_sections self event sections)

section Sections

variable (self : AppState) (ctx : Ctx) (inner : StoreInner) (event : CommonEvent) (message : Message)
  (media_id : String) (media : MediaObject)

/-- The two sections of a write. -/
theorem transcription_sections_write (write : TranscriptWrite) :
    transcription_sections self event [.permit ctx, .write ctx] (.permitting message media_id media write, inner) =
      let written := write_transcript ctx inner message media
        (permitted_transcript inner message (write.transcript ctx message media)) write
      some (written_phase message media_id media written.1 write, written.2) :=
  rfl

/-- The sections of `transcribe`. -/
theorem transcribe_sections (answers : TranscriptionAnswers) :
    ∃ sections, transcription_sections self event sections
      (.permitting message media_id media (first_write self media), inner) =
        some (.returned (.ok (transcribe self ctx inner message media_id media answers).1),
          (transcribe self ctx inner message media_id media answers).2) := by
  unfold transcribe first_write
  split
  · exact ⟨[.permit ctx, .write ctx], rfl⟩
  · split
    · exact ⟨[.permit ctx, .write ctx], rfl⟩
    · refine ⟨[.permit ctx, .write ctx, .read answers.bytes answers.result, .permit answers.ctx,
        .write answers.ctx], ?_⟩
      change transcription_sections self event [.permit answers.ctx, .write answers.ctx]
        (.permitting message media_id media
          (last_write (set_transcript_lifecycle ctx inner message media .Processing none).2 media_id answers.bytes
            answers.result), (set_transcript_lifecycle ctx inner message media .Processing none).2) = _
      generalize (set_transcript_lifecycle ctx inner message media .Processing none).2 = processing
      rw [transcription_sections_write]
      unfold last_write
      dsimp only
      cases media_blob processing media_id answers.bytes with
      | error err => rfl
      | ok blob =>
        cases blob with
        | none => rfl
        | some _ => cases answers.result <;> rfl

end Sections

/-- A transcription that nothing comes in between of is its sections, one after the other. -/
theorem process_transcription_request_sections (self : AppState) (ctx : Ctx) (inner : StoreInner)
    (event : CommonEvent) (answers : TranscriptionAnswers) :
    ∃ sections, transcription_sections self event sections (.requested, inner) =
      some (.returned (process_transcription_request self ctx inner event answers).1,
        (process_transcription_request self ctx inner event answers).2) := by
  unfold process_transcription_request
  split
  · next hid =>
    refine ⟨[.locate], ?_⟩
    simp only [transcription_sections, transcription_go, hid, Option.bind_some]
  · next message_id hid =>
    split
    · next err hmessage =>
      refine ⟨[.locate], ?_⟩
      simp only [transcription_sections, transcription_go, hid, hmessage, Option.bind_some]
    · next message hmessage =>
      split
      · next transcript htranscript =>
        refine ⟨[.locate, .check], ?_⟩
        simp only [transcription_sections, transcription_go, hid, hmessage, htranscript, Option.bind_some]
      · next htranscript =>
        split
        · next hmedia_id =>
          refine ⟨[.locate, .check], ?_⟩
          simp only [transcription_sections, transcription_go, hid, hmessage, htranscript, hmedia_id,
            Option.bind_some]
        · next media_id hmedia_id =>
          split
          · next err hmedia =>
            refine ⟨[.locate, .check, .find_media], ?_⟩
            simp only [transcription_sections, transcription_go, hid, hmessage, htranscript, hmedia_id, hmedia,
              Option.bind_some]
          · next media hmedia =>
            obtain ⟨sections, htranscribed⟩ :=
              transcribe_sections self ctx inner event message media_id media answers
            refine ⟨.locate :: .check :: .find_media :: sections, ?_⟩
            simp only [transcription_sections, transcription_go, hid, hmessage, htranscript, hmedia_id, hmedia,
              Option.bind_some]
            exact htranscribed

end rustzap.state
