import RustZap.Inbound.Redelivery
import RustZap.Lib.Runs
import RustZap.Transcription.Sections

open collections serde_json runs
open rustzap.error rustzap.media rustzap.models rustzap.transcription

namespace rustzap.state

/-- The transcript of a message keeps its identity, and once it is completed, its text. -/
def TranscriptKept (message_id : String) (inner inner' : StoreInner) : Prop :=
  ∀ transcript, inner.transcripts.lookup message_id = some transcript →
    ∃ transcript', inner'.transcripts.lookup message_id = some transcript' ∧ transcript'.id = transcript.id ∧
      transcript'.created_at = transcript.created_at ∧
      (transcript.status = "completed" → transcript'.status = "completed" ∧ transcript'.text = transcript.text)

/-- The executions of `process_transcription_request`, each for an event of its own or for
one that is delivered again. -/
structure Transcriptions (I : Type) where
  service : AppState
  event : I → CommonEvent

structure TranscriptionRace (I : Type) where
  inner : StoreInner
  phase : I → TranscriptionPhase

/-- Something happens in the service: an execution goes on, a client asks for a transcript,
inbound media is recorded, or the store changes otherwise. -/
inductive TranscriptionLabel (I : Type) where
  | go (execution : I) (next : TranscriptionSection)
  | request_transcript (ctx : Ctx) (project_id company_id message_id : String)
  | record_inbound_media_object (ctx : Ctx) (input : InboundMediaRecordInput)
  | other (inner : StoreInner)

/-- The message that inbound media is attached to. -/
def InboundMediaRecordInput.attached_id (input : InboundMediaRecordInput) (inner : StoreInner) : String :=
  ((inner.messages_by_id.lookup input.message.id).map Message.id).getD input.message.id

/-- A request for a transcript that gets as far as the transcript of the message. -/
def requests_transcript (inner : StoreInner) (project_id company_id message_id : String) : Bool :=
  match message_for_company inner project_id company_id message_id with
  | .error _ => false
  | .ok message => message.media_id.any fun media_id =>
    match media_for_company inner project_id company_id media_id with
    | .error _ => false
    | .ok media => str.starts_with media.mime_type "audio/"

/-- The states in which a request for a transcript finds one. -/
def answers_request (transcript : Transcript) : Bool :=
  ["pending", "processing", "completed", "skipped_size_limit", "skipped_unsupported_type"].contains transcript.status

namespace Transcriptions

variable {I : Type} [DecidableEq I] (executions : Transcriptions I)

/-- One step, as far as the transcript of one message is concerned: what else happens in the
store leaves it alone. -/
def Step (message_id : String) (race : TranscriptionRace I) (label : TranscriptionLabel I)
    (race' : TranscriptionRace I) : Prop :=
  match label with
  | .go execution next => ∃ moved,
      transcription_go executions.service (executions.event execution) race.inner next (race.phase execution) =
        some moved ∧
      race' = { inner := moved.2, phase := Function.update race.phase execution moved.1 }
  | .request_transcript ctx project_id company_id requested_id =>
    race' = { race with inner := (request_transcript ctx race.inner project_id company_id requested_id).2 }
  | .record_inbound_media_object ctx input =>
    race' = { race with inner := (record_inbound_media_object executions.service ctx race.inner input).2 }
  | .other inner => inner.transcripts.lookup message_id = race.inner.transcripts.lookup message_id ∧
      race' = { race with inner }

/-- The step leaves the transcript of the message what it is: no execution writes over a
completed transcript, unless it is the same text again, no request finds a failed one, and
no audio is recorded where there is a transcript. -/
def KeepsTranscript (message_id : String) (race : TranscriptionRace I) : TranscriptionLabel I → Prop
  | .go execution (.write _) =>
    match race.phase execution with
    | .writing message _ _ _ transcript => message.id = message_id →
      ∀ stored, race.inner.transcripts.lookup message_id = some stored → stored.status = "completed" →
        transcript.status = "completed" ∧ transcript.text = stored.text
    | _ => True
  | .go _ _ => True
  | .request_transcript _ project_id company_id requested_id => requested_id = message_id →
    requests_transcript race.inner project_id company_id requested_id = true →
      ∀ stored, race.inner.transcripts.lookup message_id = some stored → answers_request stored = true
  | .record_inbound_media_object _ input => input.media_type = "audio" → input.storage_status ≠ "rejected" →
    input.attached_id race.inner = message_id → race.inner.transcripts.lookup message_id = none
  | .other _ => True

end Transcriptions

/-- The id of the transcript that a step would make up is not that of the stored one. -/
def DrawsNewTranscript {I : Type} (message_id : String) (inner : StoreInner) : TranscriptionLabel I → Prop
  | .request_transcript ctx .. => ∀ stored, inner.transcripts.lookup message_id = some stored →
    stored.id ≠ "tr_" ++ ctx.uuid 0
  | .record_inbound_media_object ctx _ => ∀ stored, inner.transcripts.lookup message_id = some stored →
    stored.id ≠ "tr_" ++ ctx.uuid 5
  | _ => True

section Kept

variable {message_id : String} {inner inner' : StoreInner}

theorem TranscriptKept.of_lookup (h : inner'.transcripts.lookup message_id = inner.transcripts.lookup message_id) :
    TranscriptKept message_id inner inner' :=
  fun transcript htranscript => ⟨transcript, h.trans htranscript, rfl, rfl, fun hstatus => ⟨hstatus, rfl⟩⟩

theorem TranscriptKept.trans {inner'' : StoreInner} (h : TranscriptKept message_id inner inner')
    (h' : TranscriptKept message_id inner' inner'') : TranscriptKept message_id inner inner'' := by
  intro transcript htranscript
  obtain ⟨transcript', htranscript', hid, hcreated, hcompleted⟩ := h transcript htranscript
  obtain ⟨last, hlast, hid', hcreated', hcompleted'⟩ := h' transcript' htranscript'
  refine ⟨last, hlast, hid'.trans hid, hcreated'.trans hcreated, fun hstatus => ?_⟩
  obtain ⟨hstatus', htext⟩ := hcompleted hstatus
  obtain ⟨hlast_status, hlast_text⟩ := hcompleted' hstatus'
  exact ⟨hlast_status, hlast_text.trans htext⟩

theorem TranscriptKept.of_absent (h : inner.transcripts.lookup message_id = none) :
    TranscriptKept message_id inner inner' := by
  intro transcript htranscript
  cases h.symm.trans htranscript

theorem write_transcript_transcripts (ctx : Ctx) (message : Message) (media : MediaObject)
    (transcript : Transcript) (write : TranscriptWrite) :
    (write_transcript ctx inner message media transcript write).2.transcripts =
      inner.transcripts.insert message.id (replacing_transcript inner message transcript) := by
  cases write with
  | completed result => rfl
  | lifecycle reached =>
    unfold write_transcript
    dsimp only
    split <;> rfl

/-- Of the sections of an execution only the last one of a write touches the transcripts. -/
theorem transcription_go_transcripts {self : AppState} {event : CommonEvent} {next : TranscriptionSection}
    {phase : TranscriptionPhase} {moved : TranscriptionPhase × StoreInner}
    (hgo : transcription_go self event inner next phase = some moved) :
    (moved.2.transcripts = inner.transcripts ∧ ∀ ctx, next ≠ .write ctx) ∨
      ∃ ctx message media_id media write transcript, next = .write ctx ∧
        phase = .writing message media_id media write transcript ∧
        moved.2.transcripts =
          inner.transcripts.insert message.id (replacing_transcript inner message transcript) := by
  unfold transcription_go at hgo
  split at hgo
  case h_5 ctx message media_id media write transcript =>
    cases hgo
    exact Or.inr ⟨ctx, message, media_id, media, write, transcript, rfl, rfl, write_transcript_transcripts ..⟩
  case h_7 => cases hgo
  all_goals refine Or.inl ⟨?_, fun ctx h => by cases h⟩
  all_goals repeat' split at hgo
  all_goals
    cases hgo
    rfl

theorem request_transcript_transcripts (ctx : Ctx) (project_id company_id requested_id : String) :
    (request_transcript ctx inner project_id company_id requested_id).2.transcripts = inner.transcripts ∧
        (requests_transcript inner project_id company_id requested_id = true →
          ∃ stored, inner.transcripts.lookup requested_id = some stored ∧ answers_request stored = true) ∨
      requests_transcript inner project_id company_id requested_id = true ∧
        (inner.transcripts.lookup requested_id).any answers_request = false ∧
        ∃ media_id, (request_transcript ctx inner project_id company_id requested_id).2.transcripts =
          inner.transcripts.insert requested_id
            (transcript_with_lifecycle ctx 0 project_id company_id requested_id media_id .Pending none) := by
  unfold request_transcript requests_transcript
  cases message_for_company inner project_id company_id requested_id with
  | error err => exact Or.inl ⟨rfl, fun h => by cases h⟩
  | ok message =>
    dsimp only
    cases message.media_id with
    | none => exact Or.inl ⟨rfl, fun h => by cases h⟩
    | some media_id =>
      dsimp only
      rw [Option.any_some]
      cases media_for_company inner project_id company_id media_id with
      | error err => exact Or.inl ⟨rfl, fun h => by cases h⟩
      | ok media =>
        dsimp only
        cases str.starts_with media.mime_type "audio/" with
        | false => exact Or.inl ⟨rfl, fun h => by cases h⟩
        | true =>
          rw [if_neg (by decide)]
          split
          · next stored hstored =>
            obtain ⟨hlookup, hanswers⟩ := Option.filter_eq_some_iff.mp hstored
            exact Or.inl ⟨rfl, fun _ => ⟨stored, hlookup, hanswers⟩⟩
          · next hnone =>
            refine Or.inr ⟨rfl, ?_, some media.id, rfl⟩
            cases hstored : inner.transcripts.lookup requested_id with
            | none => rfl
            | some stored =>
              rw [hstored, Option.filter_eq_none_iff] at hnone
              rw [Option.any_some]
              exact Bool.eq_false_iff.mpr (hnone stored rfl)

theorem InboundMediaRecordInput.media_fields (input : InboundMediaRecordInput) (self : AppState)
    (now : OffsetDateTime) : (input.media self now).media_type = input.media_type ∧
      (input.media self now).storage_status = input.storage_status ∧ (input.media self now).id = input.media_id := by
  simp only [InboundMediaRecordInput.media, and_self]

theorem request_inbound_transcript_transcripts (ctx : Ctx) (input : InboundMediaRecordInput) (message : Message)
    {media : MediaObject} {media_type storage_status media_id : String}
    (hmedia : media.media_type = media_type ∧ media.storage_status = storage_status ∧ media.id = media_id) :
    (request_inbound_transcript ctx inner input message media).transcripts =
      if media_type = "audio" ∧ storage_status ≠ "rejected" then
        inner.transcripts.insert message.id (transcript_with_lifecycle ctx 5 input.runtime.project_id
          input.runtime.company_id message.id (some media_id) .Pending none)
      else inner.transcripts := by
  obtain ⟨rfl, rfl, rfl⟩ := hmedia
  unfold request_inbound_transcript
  split <;> rfl

theorem publish_media_stored_transcripts (ctx : Ctx) (input : InboundMediaRecordInput) (message : Message)
    (media : MediaObject) :
    (publish_media_stored ctx inner input message media).transcripts = inner.transcripts := by
  unfold publish_media_stored
  split <;> rfl

theorem record_inbound_media_object_transcripts (self : AppState) (ctx : Ctx) (input : InboundMediaRecordInput) :
    (record_inbound_media_object self ctx inner input).2.transcripts =
      if input.media_type = "audio" ∧ input.storage_status ≠ "rejected" then
        inner.transcripts.insert (input.attached_id inner) (transcript_with_lifecycle ctx 5 input.runtime.project_id
          input.runtime.company_id (input.attached_id inner) (some input.media_id) .Pending none)
      else inner.transcripts := by
  have hattached : ∀ s : StoreInner, s.messages_by_id = inner.messages_by_id → s.transcripts = inner.transcripts →
      ∃ message s', attach_media_to_message_inner ctx.now s input.message.id (input.media self ctx.now) =
          (message, s') ∧ (message.getD input.message).id = input.attached_id inner ∧
        s'.transcripts = inner.transcripts := by
    intro s hmessages htranscripts
    unfold attach_media_to_message_inner InboundMediaRecordInput.attached_id
    rw [hmessages]
    cases inner.messages_by_id.lookup input.message.id with
    | none => exact ⟨_, _, rfl, rfl, htranscripts⟩
    | some message => exact ⟨_, _, rfl, rfl, htranscripts⟩
  obtain ⟨message, attached, hattached, hid, htranscripts⟩ := hattached
    { inner with media := inner.media.insert (input.media self ctx.now).id (input.media self ctx.now) } rfl rfl
  rw [record_inbound_media_object]
  dsimp only
  rw [hattached]
  dsimp only
  rw [request_inbound_transcript_transcripts ctx input _ (input.media_fields self ctx.now),
    publish_media_stored_transcripts, htranscripts, hid]

/-- A write keeps the transcript of the message unless that is completed and would become
something else. -/
theorem replacing_transcript_kept_iff {message : Message} {transcript : Transcript}
    (hwritten : inner'.transcripts =
      inner.transcripts.insert message.id (replacing_transcript inner message transcript)) :
    TranscriptKept message_id inner inner' ↔ (message.id = message_id →
      ∀ stored, inner.transcripts.lookup message_id = some stored → stored.status = "completed" →
        transcript.status = "completed" ∧ transcript.text = stored.text) := by
  by_cases hid : message.id = message_id
  · subst hid
    have hlookup : inner'.transcripts.lookup message.id = some (replacing_transcript inner message transcript) := by
      rw [hwritten, AList.lookup_insert]
    have hreplacing : ∀ stored, inner.transcripts.lookup message.id = some stored →
        replacing_transcript inner message transcript =
          { transcript with id := stored.id, created_at := stored.created_at } := by
      intro stored hstored
      rw [replacing_transcript, hstored]
    constructor
    · intro hkept _ stored hstored hcompleted
      obtain ⟨transcript', htranscript', -, -, hstays⟩ := hkept stored hstored
      rw [hlookup, hreplacing stored hstored] at htranscript'
      cases htranscript'
      exact hstays hcompleted
    · intro hstays stored hstored
      exact ⟨_, hlookup.trans (congrArg some (hreplacing stored hstored)), rfl, rfl, hstays rfl stored hstored⟩
  · refine iff_of_true (TranscriptKept.of_lookup ?_) fun h => absurd h hid
    rw [hwritten, AList.lookup_insert_ne fun h => hid h.symm]

namespace Transcriptions

variable {I : Type} [DecidableEq I] {executions : Transcriptions I} {race race' : TranscriptionRace I}

/-- A step does to the transcript what its condition says, or it puts a transcript of its own
in its place, and keeps it only where there was none. -/
theorem step_cases {label : TranscriptionLabel I} (hstep : executions.Step message_id race label race') :
    (TranscriptKept message_id race.inner race'.inner ↔ KeepsTranscript message_id race label) ∨
      ∃ transcript, race'.inner.transcripts.lookup message_id = some transcript ∧
        (KeepsTranscript message_id race label ↔ race.inner.transcripts.lookup message_id = none) ∧
        (DrawsNewTranscript message_id race.inner label →
          ∀ stored, race.inner.transcripts.lookup message_id = some stored → stored.id ≠ transcript.id) := by
  cases label with
  | go execution next =>
    obtain ⟨moved, hgo, rfl⟩ := hstep
    rcases transcription_go_transcripts hgo with ⟨hsame, hnext⟩ |
      ⟨ctx, message, media_id, media, write, transcript, rfl, hphase, hwritten⟩
    · refine Or.inl (iff_of_true (TranscriptKept.of_lookup (by rw [hsame])) ?_)
      cases next with
      | write ctx => exact absurd rfl (hnext ctx)
      | _ => trivial
    · rw [replacing_transcript_kept_iff hwritten, KeepsTranscript, hphase]
      exact Or.inl Iff.rfl
  | request_transcript ctx project_id company_id requested_id =>
    have hinner : race'.inner = (request_transcript ctx race.inner project_id company_id requested_id).2 :=
      congrArg TranscriptionRace.inner hstep
    rcases request_transcript_transcripts ctx project_id company_id requested_id with
      ⟨hsame, hanswers⟩ | ⟨haccepted, hnone, media_id, hwritten⟩
    · rw [← hinner] at hsame
      refine Or.inl (iff_of_true (TranscriptKept.of_lookup (congrArg _ hsame)) ?_)
      rintro rfl haccepted stored hstored
      obtain ⟨answered, hanswered, hanswer⟩ := hanswers haccepted
      cases hanswered.symm.trans hstored
      exact hanswer
    · rw [← hinner] at hwritten
      by_cases hid : requested_id = message_id
      · subst hid
        refine Or.inr ⟨transcript_with_lifecycle ctx 0 project_id company_id requested_id media_id .Pending none,
          by rw [hwritten, AList.lookup_insert], ⟨fun hkeeps => ?_, fun habsent => ?_⟩, fun hdraws => hdraws⟩
        · cases hstored : race.inner.transcripts.lookup requested_id with
          | none => rfl
          | some stored =>
            rw [hstored, Option.any_some, hkeeps rfl haccepted stored hstored] at hnone
            cases hnone
        · intro _ _ stored hstored
          cases habsent.symm.trans hstored
      · refine Or.inl (iff_of_true (TranscriptKept.of_lookup ?_) fun h => absurd h hid)
        rw [hwritten, AList.lookup_insert_ne fun h => hid h.symm]
  | record_inbound_media_object ctx input =>
    have hrace : race' = { race with
        inner := (record_inbound_media_object executions.service ctx race.inner input).2 } := hstep
    have htranscripts := @record_inbound_media_object_transcripts race.inner executions.service ctx input
    have hinner : race'.inner = (record_inbound_media_object executions.service ctx race.inner input).2 := by
      rw [hrace]
    rw [← hinner] at htranscripts
    by_cases haudio : input.media_type = "audio" ∧ input.storage_status ≠ "rejected"
    · rw [if_pos haudio] at htranscripts
      by_cases hid : input.attached_id race.inner = message_id
      · have hlookup := congrArg (AList.lookup message_id) htranscripts
        rw [hid, AList.lookup_insert] at hlookup
        exact Or.inr ⟨_, hlookup, ⟨fun hkeeps => hkeeps haudio.1 haudio.2 hid, fun habsent _ _ _ => habsent⟩,
          fun hdraws => hdraws⟩
      · refine Or.inl (iff_of_true (TranscriptKept.of_lookup ?_) fun _ _ h => absurd h hid)
        rw [htranscripts, AList.lookup_insert_ne fun h => hid h.symm]
    · rw [if_neg haudio] at htranscripts
      exact Or.inl (iff_of_true (TranscriptKept.of_lookup (congrArg _ htranscripts))
        fun htype hstatus => absurd ⟨htype, hstatus⟩ haudio)
  | other inner =>
    obtain ⟨hsame, rfl⟩ := hstep
    exact Or.inl (iff_of_true (TranscriptKept.of_lookup hsame) trivial)

theorem step_kept {label : TranscriptionLabel I} (hstep : executions.Step message_id race label race')
    (hkeeps : KeepsTranscript message_id race label) : TranscriptKept message_id race.inner race'.inner := by
  rcases step_cases hstep with hiff | ⟨transcript, -, habsent, -⟩
  · exact hiff.mpr hkeeps
  · exact .of_absent (habsent.mp hkeeps)

theorem keeps_of_kept {label : TranscriptionLabel I} (hstep : executions.Step message_id race label race')
    (hdraws : DrawsNewTranscript message_id race.inner label)
    (hkept : TranscriptKept message_id race.inner race'.inner) : KeepsTranscript message_id race label := by
  rcases step_cases hstep with hiff | ⟨transcript, hreplaced, habsent, hnew⟩
  · exact hiff.mp hkept
  · refine habsent.mpr ?_
    cases hstored : race.inner.transcripts.lookup message_id with
    | none => rfl
    | some stored =>
      obtain ⟨transcript', htranscript', hid, -⟩ := hkept stored hstored
      cases hreplaced.symm.trans htranscript'
      exact absurd hid.symm (hnew hdraws stored hstored)

end Transcriptions

end Kept

/-- However the executions, the requests and the recordings come in between each other, the
transcript of a message keeps its identity and its text as long as every step meets the
condition, and the first step that does not breaks it. -/
theorem transcript_kept_iff {I : Type} [DecidableEq I] (executions : Transcriptions I) {message_id : String}
    {start race : TranscriptionRace I} {labels : List (TranscriptionLabel I)}
    (hrun : Run (Guarded (executions.Step message_id) (Transcriptions.KeepsTranscript message_id))
      start labels race) :
    TranscriptKept message_id start.inner race.inner ∧
      ∀ label race', executions.Step message_id race label race' → DrawsNewTranscript message_id race.inner label →
        (TranscriptKept message_id race.inner race'.inner ↔
          Transcriptions.KeepsTranscript message_id race label) := by
  have hstep : ∀ s label t, TranscriptKept message_id start.inner s.inner →
      Guarded (executions.Step message_id) (Transcriptions.KeepsTranscript message_id) s label t →
        TranscriptKept message_id start.inner t.inner :=
    fun _ _ _ hkept hnext => hkept.trans (Transcriptions.step_kept hnext.2 hnext.1)
  refine ⟨hrun.invariant hstep (TranscriptKept.of_lookup rfl), fun label race' hlast hdraws => ?_⟩
  exact ⟨Transcriptions.keeps_of_kept hlast hdraws, Transcriptions.step_kept hlast⟩

/-- That a transcript keeps its identity and its text whatever happens. -/
def TranscriptsKept {I : Type} [DecidableEq I] (executions : Transcriptions I) (inner : StoreInner) : Prop :=
  ∀ message_id labels before labels' after,
    Run (executions.Step message_id) { inner, phase := fun _ => .requested } labels before →
      Run (executions.Step message_id) before labels' after → TranscriptKept message_id before.inner after.inner

namespace sample

/-- The request for the transcript of the voice message, delivered twice. -/
def two_transcriptions : Transcriptions Bool where
  service := service
  event _ := eventbus.new_event (ctx 2 "m") 6 "audio.transcription.requested" "acme" "company_a"
    (some "channel_a") (some "5511988887777@s.whatsapp.net") (some "msg_a0") (some 1)
    (.object [("message_id", .string "msg_a0"), ("media_id", .string "media_m1")])

/-- The voice message has been stored, and its transcript is pending. -/
def voice_stored : StoreInner :=
  (run Store.empty
    [(ctx 1 "a", .process_whatsapp_event company_a (stored_media 2 "m") (.Message voice_event))]).inner

def found : List TranscriptionSection :=
  [.locate, .check, .find_media]

def finishes : List TranscriptionSection :=
  [.permit (ctx 3 "t"), .write (ctx 3 "t"),
    .read (.ok (ascii "OggS" ++ [0, 2])) (.ok { text := "oi", raw_response_json := .null }),
    .permit (ctx 4 "g"), .write (ctx 4 "g")]

def moved_to (race : TranscriptionRace Bool) (execution : Bool) (moved : TranscriptionPhase × StoreInner) :
    TranscriptionRace Bool where
  inner := moved.2
  phase := Function.update race.phase execution moved.1

/-- Sections of the two executions, one after the other, as far as they may be taken. -/
def went (ok : TranscriptionRace Bool → TranscriptionSection → Bool) (race : TranscriptionRace Bool) :
    List (Bool × TranscriptionSection) → Option (TranscriptionRace Bool)
  | [] => some race
  | (execution, next) :: sections =>
    if ok race next then
      (transcription_go two_transcriptions.service (two_transcriptions.event execution) race.inner next
        (race.phase execution)).bind fun moved => went ok (moved_to race execution moved) sections
    else none

theorem went_run {ok : TranscriptionRace Bool → TranscriptionSection → Bool}
    {step : TranscriptionRace Bool → TranscriptionLabel Bool → TranscriptionRace Bool → Prop}
    (hstep : ∀ race execution next moved, ok race next = true →
      transcription_go two_transcriptions.service (two_transcriptions.event execution) race.inner next
        (race.phase execution) = some moved → step race (.go execution next) (moved_to race execution moved))
    (sections : List (Bool × TranscriptionSection)) : ∀ race race', went ok race sections = some race' →
      Run step race (sections.map fun taken => .go taken.1 taken.2) race' := by
  induction sections with
  | nil =>
    intro race race' hwent
    cases hwent
    exact .nil _
  | cons taken sections ih =>
    intro race race' hwent
    obtain ⟨hok, hbind⟩ := Option.ite_none_right_eq_some.mp hwent
    obtain ⟨moved, hmoved, hrest⟩ := Option.bind_eq_some_iff.mp hbind
    exact .cons (hstep race taken.1 taken.2 moved hok hmoved) (ih _ race' hrest)

def requested : TranscriptionRace Bool where
  inner := voice_stored
  phase _ := .requested

def stands (race : TranscriptionRace Bool) : Option (String × Option String) :=
  (race.inner.transcripts.lookup "msg_a0").map fun transcript => (transcript.status, transcript.text)

/-- Nothing is written over a completed transcript. -/
def harmless (race : TranscriptionRace Bool) (next : TranscriptionSection) : Bool :=
  (race.inner.transcripts.lookup "msg_a0").all (fun transcript => transcript.status ≠ "completed") ||
    match next with
    | .write _ => false
    | _ => true

theorem harmless_keeps {race : TranscriptionRace Bool} {execution : Bool} {next : TranscriptionSection}
    (hharmless : harmless race next = true) :
    Transcriptions.KeepsTranscript "msg_a0" race (.go execution next) := by
  cases next with
  | write ctx =>
    rw [harmless, Bool.or_false, Option.all_eq_true] at hharmless
    rw [Transcriptions.KeepsTranscript]
    split
    · intro _ stored hstored hcompleted
      exact absurd hcompleted (of_decide_eq_true (hharmless stored hstored))
    · trivial
  | _ => trivial

/-- The first execution runs to its end, and the second finds what it has left. -/
def one_after_the_other : List (Bool × TranscriptionSection) :=
  (found ++ finishes).map (Prod.mk false) ++ [(true, .locate), (true, .check)]

def asks_again : TranscriptionLabel Bool :=
  .request_transcript (ctx 5 "h") "acme" "company_a" "msg_a0"

/-- Both executions have found the transcript unfinished when the first one runs to its end. -/
def overtakes : List (Bool × TranscriptionSection) :=
  found.map (Prod.mk true) ++ (found ++ finishes).map (Prod.mk false)

/-- The second one goes on. -/
def begins_again : List (Bool × TranscriptionSection) :=
  [(true, .permit (ctx 5 "h")), (true, .write (ctx 5 "h"))]

end sample

/-- The completed transcript of a voice message answers the event that comes again, and the
next request. -/
theorem completed_transcript_kept : ∃ race race',
    Run (Guarded (sample.two_transcriptions.Step "msg_a0") (Transcriptions.KeepsTranscript "msg_a0"))
      sample.requested (sample.one_after_the_other.map fun taken => .go taken.1 taken.2) race ∧
    sample.stands race = some ("completed", some "oi") ∧
    sample.two_transcriptions.Step "msg_a0" race sample.asks_again race' ∧
    TranscriptKept "msg_a0" sample.requested.inner race.inner ∧ TranscriptKept "msg_a0" race.inner race'.inner := by
  have hwent : (sample.went sample.harmless sample.requested sample.one_after_the_other).any (fun race =>
      sample.stands race = some ("completed", some "oi") &&
        (race.inner.transcripts.lookup "msg_a0").all answers_request) = true := by decide
  obtain ⟨race, hrace, hends⟩ := (Option.any_eq_true _ _).mp hwent
  rw [Bool.and_eq_true, decide_eq_true_eq, Option.all_eq_true] at hends
  have hrun : Run (Guarded (sample.two_transcriptions.Step "msg_a0") (Transcriptions.KeepsTranscript "msg_a0"))
      sample.requested (sample.one_after_the_other.map fun taken => .go taken.1 taken.2) race :=
    sample.went_run
      (fun _ _ _ moved hok hmoved => ⟨sample.harmless_keeps hok, moved, hmoved, rfl⟩) _ _ _ hrace
  have hasks : Transcriptions.KeepsTranscript "msg_a0" race sample.asks_again :=
    fun _ _ stored hstored => hends.2 stored hstored
  have hasked : sample.two_transcriptions.Step "msg_a0" race sample.asks_again _ := rfl
  have hagain := transcript_kept_iff sample.two_transcriptions (.cons ⟨hasks, hasked⟩ (.nil _))
  exact ⟨race, _, hrun, hends.1, hasked, (transcript_kept_iff sample.two_transcriptions hrun).1, hagain.1⟩

/-- The transcript is being processed again after it was completed. -/
theorem completed_transcript_downgraded : ¬ TranscriptsKept sample.two_transcriptions sample.voice_stored := by
  intro hclaim
  have hwent : (sample.went (fun _ _ => true) sample.requested sample.overtakes).any (fun race =>
      sample.stands race = some ("completed", some "oi") &&
        (sample.went (fun _ _ => true) race sample.begins_again).any fun race =>
          sample.stands race = some ("processing", none)) = true := by decide
  obtain ⟨race, hrace, hends⟩ := (Option.any_eq_true _ _).mp hwent
  obtain ⟨hcompleted, hagain⟩ := Bool.and_eq_true_iff.mp hends
  obtain ⟨race', hrace', hprocessing⟩ := (Option.any_eq_true _ _).mp hagain
  have hstep : ∀ race execution next moved, (fun _ _ => true) race next = true →
      transcription_go sample.two_transcriptions.service (sample.two_transcriptions.event execution) race.inner next
        (race.phase execution) = some moved →
      sample.two_transcriptions.Step "msg_a0" race (.go execution next) (sample.moved_to race execution moved) :=
    fun _ _ _ moved _ hmoved => ⟨moved, hmoved, rfl⟩
  have hkept := hclaim "msg_a0" _ race _ race' (sample.went_run hstep _ _ _ hrace)
    (sample.went_run hstep _ _ _ hrace')
  obtain ⟨transcript, htranscript, hstands⟩ := Option.map_eq_some_iff.mp (of_decide_eq_true hcompleted)
  obtain ⟨transcript', htranscript', -, -, hstays⟩ := hkept transcript htranscript
  obtain ⟨hstatus, -⟩ := hstays (congrArg Prod.fst hstands)
  have hprocessing := of_decide_eq_true hprocessing
  rw [sample.stands, htranscript', Option.map_some, hstatus] at hprocessing
  have hdiffer : "completed" ≠ "processing" := by decide
  exact hdiffer (congrArg Prod.fst (Option.some.inj hprocessing))

end rustzap.state
