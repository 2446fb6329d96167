import RustZap.State.Operations

open collections
open rustzap.error rustzap.media rustzap.models rustzap.transcription rustzap.whatsapp

namespace rustzap.state

/-- Nothing that a reader sees of messages, conversations, media and transcripts
has changed: every message, with its place and its media, every conversation's
count and unread count, every media object, and id, status and text of every
transcript. -/
structure Unchanged (inner inner' : StoreInner) : Prop where
  messages : ∀ id, inner'.messages_by_id.lookup id = inner.messages_by_id.lookup id
  messages_by_conversation : ∀ id,
    inner'.messages_by_conversation.lookup id = inner.messages_by_conversation.lookup id
  conversations : ∀ id, (inner'.conversations.lookup id).map (fun c => (c.last_seq, c.unread_count)) =
    (inner.conversations.lookup id).map fun c => (c.last_seq, c.unread_count)
  media : ∀ id, inner'.media.lookup id = inner.media.lookup id
  transcripts : ∀ id, (inner'.transcripts.lookup id).map (fun t => (t.id, t.status, t.text)) =
    (inner.transcripts.lookup id).map fun t => (t.id, t.status, t.text)

/-- The attempt to store the media ends with a media object: the file is too large
by its descriptor or once it is downloaded, and is recorded as rejected, or it is
downloaded, staged, of its declared type, and stored. -/
def RecordsMedia (self : AppState) (descriptor : InboundMediaDescriptor)
    (answers : InboundMediaAnswers) : Prop :=
  (media_limits self).classify descriptor.file_length = .Rejected ∨
  ∃ bytes, answers.download = .ok bytes ∧ bytes ≠ [] ∧
    ((media_limits self).classify bytes.length = .Rejected ∨
      answers.staged = .ok () ∧ answers.put = .ok () ∧
        (self.config.media_sniff_magic_bytes && !magic_matches_mime (some descriptor.mime_type) bytes) = false)

section Redelivery

variable {self : AppState} {ctx : Ctx} {inner : StoreInner} {runtime : ChannelRuntime}

theorem Unchanged.of_frame {inner' : StoreInner}
    (hmessages : inner'.messages_by_id = inner.messages_by_id)
    (hlists : inner'.messages_by_conversation = inner.messages_by_conversation)
    (hconversations : inner'.conversations = inner.conversations) (hmedia : inner'.media = inner.media)
    (htranscripts : inner'.transcripts = inner.transcripts) : Unchanged inner inner' := by
  constructor <;> intro id
  · rw [hmessages]
  · rw [hlists]
  · rw [hconversations]
  · rw [hmedia]
  · rw [htranscripts]

/-- Recording an inbound media puts an object under its id and leaves the
conversations alone. -/
theorem record_inbound_media_object_frame (self : AppState) (ctx : Ctx) (inner : StoreInner)
    (input : InboundMediaRecordInput) :
    (record_inbound_media_object self ctx inner input).2.conversations = inner.conversations ∧
    (record_inbound_media_object self ctx inner input).2.media =
      inner.media.insert input.media_id (input.media self ctx.now) := by
  have hattached : ∀ s : StoreInner,
      (attach_media_to_message_inner ctx.now s input.message.id (input.media self ctx.now)).2.conversations =
        s.conversations ∧
      (attach_media_to_message_inner ctx.now s input.message.id (input.media self ctx.now)).2.media =
        s.media := by
    intro s
    unfold attach_media_to_message_inner
    split <;> exact ⟨rfl, rfl⟩
  unfold record_inbound_media_object request_inbound_transcript publish_media_stored
  dsimp only
  split <;> split <;> exact hattached _

/-- The media of an event either ends up as a new object, or leaves nothing but
events. -/
theorem download_and_store_inbound_media_cases (self : AppState) (inner : StoreInner)
    (runtime : ChannelRuntime) (message : Message) (conversation_id : String)
    (descriptor : InboundMediaDescriptor) (answers : InboundMediaAnswers) :
    RecordsMedia self descriptor answers ∧ (∃ draw < 2, ∃ input,
      input.media_id = "media_" ++ answers.ctx.uuid draw ∧
      (download_and_store_inbound_media self inner runtime message conversation_id descriptor
        answers).2 = (record_inbound_media_object self answers.ctx inner input).2) ∨
    ¬ RecordsMedia self descriptor answers ∧ ∃ events,
      (download_and_store_inbound_media self inner runtime message conversation_id descriptor
        answers).2 = { inner with events } := by
  unfold download_and_store_inbound_media
  by_cases hannounced : (media_limits self).classify descriptor.file_length = .Rejected
  · rw [if_pos hannounced]
    dsimp only
    refine Or.inl ⟨Or.inl hannounced, 0, by decide, _, ?_, rfl⟩
    rfl
  · rw [if_neg hannounced]
    cases hdownload : answers.download with
    | error err =>
      refine Or.inr ⟨?_, _, rfl⟩
      rintro (h | ⟨bytes, hbytes, -⟩)
      · exact hannounced h
      · rw [hdownload] at hbytes
        cases hbytes
    | ok bytes =>
      have hrecords : RecordsMedia self descriptor answers ↔ bytes ≠ [] ∧
          ((media_limits self).classify bytes.length = .Rejected ∨
            answers.staged = .ok () ∧ answers.put = .ok () ∧
              (self.config.media_sniff_magic_bytes &&
                !magic_matches_mime (some descriptor.mime_type) bytes) = false) := by
        simp [RecordsMedia, hannounced, hdownload]
      rw [hrecords]
      dsimp only
      unfold store_downloaded_inbound_media
      dsimp only
      by_cases hempty : bytes = []
      · rw [if_pos hempty]
        exact Or.inr ⟨fun h => h.1 hempty, _, rfl⟩
      · rw [if_neg hempty]
        by_cases hrejected : (media_limits self).classify bytes.length = .Rejected
        · rw [if_pos hrejected]
          dsimp only
          refine Or.inl ⟨⟨hempty, Or.inl hrejected⟩, 1, by decide, _, ?_, rfl⟩
          rfl
        · rw [if_neg hrejected]
          cases hstaged : answers.staged with
          | error err => exact Or.inr ⟨by simp [hrejected], _, rfl⟩
          | ok _ =>
            dsimp only
            split
            · next hsniffed => exact Or.inr ⟨by simp [hrejected, hsniffed], _, rfl⟩
            · next hsniffed =>
              cases hput : answers.put with
              | error err => exact Or.inr ⟨by simp [hrejected], _, rfl⟩
              | ok _ =>
                dsimp only
                refine Or.inl ⟨⟨hempty, Or.inr ⟨rfl, rfl, ?_⟩⟩, 1, by decide, _, ?_, rfl⟩
                · exact Bool.eq_false_iff.mpr hsniffed
                · rfl

/-- The media of an event never touches the conversations. -/
theorem process_message_media_cases (self : AppState) (ctx : Ctx) (inner : StoreInner)
    (runtime : ChannelRuntime) (event : MessageEvent) (message : Message)
    (descriptor : InboundMediaDescriptor) (answers : InboundMediaAnswers) :
    (process_message_media self ctx inner runtime event message descriptor answers).conversations =
        inner.conversations ∧
    (RecordsMedia self descriptor answers ∧ (∃ draw < 2, ∃ media,
      (process_message_media self ctx inner runtime event message descriptor answers).media =
        inner.media.insert ("media_" ++ answers.ctx.uuid draw) media) ∨
    ¬ RecordsMedia self descriptor answers ∧ ∃ events,
      process_message_media self ctx inner runtime event message descriptor answers =
        { inner with events }) := by
  unfold process_message_media
  dsimp only
  generalize channel_event ctx 8 "media.download.requested" runtime event.chat_jid message _ = requested
  rcases download_and_store_inbound_media_cases self (push_event_inner inner requested) runtime message
    event.chat_jid descriptor answers with
    ⟨hrecords, draw, hdraw, input, hid, hstored⟩ | ⟨hrecords, events, hstored⟩
  · obtain ⟨hconversations, hmedia⟩ := record_inbound_media_object_frame self answers.ctx
      (push_event_inner inner requested) input
    rw [← hstored] at hconversations hmedia
    rw [hid] at hmedia
    split
    · exact ⟨hconversations, Or.inl ⟨hrecords, draw, hdraw, _, hmedia⟩⟩
    · exact ⟨hconversations, Or.inl ⟨hrecords, draw, hdraw, _, hmedia⟩⟩
  · rw [hstored]
    split
    · exact ⟨rfl, Or.inr ⟨hrecords, _, rfl⟩⟩
    · exact ⟨rfl, Or.inr ⟨hrecords, _, rfl⟩⟩

/-- A recorded message is counted by its conversation. -/
theorem not_unchanged_of_recorded {message : Message} {recorded inner' : StoreInner}
    (hrecorded : Recorded ctx inner message recorded)
    (hconversations : inner'.conversations = recorded.conversations) : ¬ Unchanged inner inner' := by
  intro hunchanged
  obtain ⟨conversation, contacts, group_members, events, hcounted, rfl⟩ := hrecorded
  have hsame := hunchanged.conversations message.conversation_id
  rw [hconversations, HashMap.lookup_insert_ite, if_pos rfl, Option.map_some] at hsame
  cases hstored : inner.conversations.lookup message.conversation_id with
  | none =>
    rw [hstored] at hsame
    cases hsame
  | some stored =>
    have hnext := hcounted.next_seq
    rw [hstored] at hsame hnext
    have hseq : conversation.last_seq = stored.last_seq := congrArg Prod.fst (Option.some.inj hsame)
    rw [hcounted.last_seq, hnext, Option.elim_some] at hseq
    omega

theorem unchanged_spawn_enrichment_iff (handled : StoreInner) (event : MessageEvent) :
    Unchanged inner (spawn_enrichment ctx handled runtime event).2 ↔ Unchanged inner handled := by
  obtain ⟨contacts, refreshes, hspawned⟩ := spawn_enrichment_frame ctx handled runtime event
  rw [hspawned]
  exact ⟨fun h => ⟨h.messages, h.messages_by_conversation, h.conversations, h.media, h.transcripts⟩,
    fun h => ⟨h.messages, h.messages_by_conversation, h.conversations, h.media, h.transcripts⟩⟩

/-- The media of a known message changes nothing exactly when it does not come as
far as being recorded. -/
theorem process_message_media_unchanged_iff (event : MessageEvent) (message : Message)
    (descriptor : InboundMediaDescriptor) (answers : InboundMediaAnswers)
    (hfresh : ∀ draw < 2, inner.media.lookup ("media_" ++ answers.ctx.uuid draw) = none) :
    Unchanged inner (process_message_media self ctx inner runtime event message descriptor answers) ↔
      ¬ RecordsMedia self descriptor answers := by
  obtain ⟨-, ⟨hrecords, draw, hdraw, media, hmedia⟩ | ⟨hrecords, events, heq⟩⟩ := process_message_media_cases
    self ctx inner runtime event message descriptor answers
  · refine iff_of_false (fun hunchanged => ?_) (not_not.mpr hrecords)
    have hsame := hunchanged.media ("media_" ++ answers.ctx.uuid draw)
    rw [hmedia, HashMap.lookup_insert_ite, if_pos rfl, hfresh draw hdraw] at hsame
    cases hsame
  · rw [heq]
    exact iff_of_true (.of_frame rfl rfl rfl rfl rfl) hrecords

end Redelivery

/-- The handling of a message event changes nothing that a reader sees exactly
when the event is ignored, or when its message is known already and its media,
if it has one, does not come as far as being recorded. -/
theorem redelivery_unchanged_iff (self : AppState) (ctx : Ctx) (inner : StoreInner)
    (runtime : ChannelRuntime) (event : MessageEvent) (answers : EventAnswers)
    (hfresh : ∀ draw < 2, inner.media.lookup ("media_" ++ answers.media.ctx.uuid draw) = none) :
    Unchanged inner (process_whatsapp_event self ctx inner runtime answers (.Message event)).2 ↔
      (ignored_message_event self ctx inner runtime event).isSome = true ∨
      ((whatsapp_message_input runtime event).existing inner).isSome = true ∧
        ∀ descriptor, event.media = some descriptor → ¬ RecordsMedia self descriptor answers.media := by
  simp only [process_whatsapp_event]
  unfold process_message_event
  cases hignored : ignored_message_event self ctx inner runtime event with
  | some ignored => exact iff_of_true (.of_frame rfl rfl rfl rfl rfl) (Or.inl rfl)
  | none =>
    dsimp only
    rw [unchanged_spawn_enrichment_iff]
    simp only [Option.isSome_none, Bool.false_eq_true, false_or]
    rcases record_whatsapp_message_cases ctx inner (whatsapp_message_input runtime event) with
      ⟨existing, hexisting, hrecord⟩ | ⟨hnone, hrecord⟩
    · rw [hrecord, hexisting]
      cases hmedia : event.media with
      | none => exact iff_of_true (.of_frame rfl rfl rfl rfl rfl) ⟨rfl, fun _ h => by cases h⟩
      | some descriptor =>
        dsimp only
        rw [process_message_media_unchanged_iff event existing descriptor answers.media hfresh]
        simp
    · -- the message is not known any more, and is recorded again
      rw [hrecord, hnone]
      refine iff_of_false ?_ (fun h => by cases h.1)
      have hrecorded := (whatsapp_message_input runtime event).record_recorded ctx inner
      cases event.media with
      | none => exact not_unchanged_of_recorded hrecorded rfl
      | some descriptor =>
        exact not_unchanged_of_recorded hrecorded (process_message_media_cases ..).1

namespace sample

/-- A voice message of six bytes. -/
def voice : InboundMediaDescriptor where
  media_type := "audio"
  mime_type := "audio/ogg"
  filename := none
  caption := none
  direct_path := "/v/t62.7117-24/1"
  media_key_b64 := "AAAA"
  file_sha256_b64 := "AAAA"
  file_enc_sha256_b64 := "AAAA"
  file_length := 6
  width := none
  height := none
  duration_seconds := none

def voice_event : MessageEvent :=
  { text_event "3EB0A0" 1 false with text := none, message_type := "audio", media := some voice }

/-- The voice message is downloaded and stored. -/
def stored_media (second : Nat) (tag : String) : EventAnswers :=
  { answers with
    media := { ctx := ctx second tag, download := .ok (ascii "OggS" ++ [0, 2]), staged := .ok ()
               put := .ok () } }

/-- The transcript of the voice message is completed. -/
def transcribed : Ctx × StoreOp :=
  (ctx 3 "t", .process_transcription_request
    (eventbus.new_event (ctx 2 "m") 6 "audio.transcription.requested" "acme" "company_a"
      (some "channel_a") (some "5511988887777@s.whatsapp.net") (some "msg_a0") (some 1)
      (.object [("message_id", .string "msg_a0"), ("media_id", .string "media_m1")]))
    { bytes := .ok (ascii "OggS" ++ [0, 2]), result := .ok { text := "oi", raw_response_json := .null }
      ctx := ctx 4 "g" })

/-- The voice message has been handled once, and has been transcribed. -/
def heard : Store :=
  run Store.empty
    [(ctx 1 "a", .process_whatsapp_event company_a (stored_media 2 "m") (.Message voice_event)),
      transcribed]

end sample

/-- Delivered again, the voice message gets a second media object, and its
transcript is pending again. -/
theorem redelivery_resets_transcript :
    ¬ Unchanged sample.heard.inner (process_whatsapp_event sample.service (sample.ctx 5 "b")
      sample.heard.inner sample.company_a (sample.stored_media 6 "n") (.Message sample.voice_event)).2 := by
  intro hunchanged
  have hbefore : (sample.heard.inner.transcripts.lookup "msg_a0").map (fun t => t.status) =
      some "completed" := by decide
  have hafter : ((process_whatsapp_event sample.service (sample.ctx 5 "b") sample.heard.inner
      sample.company_a (sample.stored_media 6 "n") (.Message sample.voice_event)).2.transcripts.lookup
        "msg_a0").map (fun t => t.status) = some "pending" := by decide
  have hsame := congrArg (Option.map fun t => t.2.1) (hunchanged.transcripts "msg_a0")
  rw [Option.map_map, Option.map_map] at hsame
  exact absurd (hafter.symm.trans (hsame.trans hbefore)) (by decide)

/-- Delivered again when it cannot be downloaded, it leaves everything as it is. -/
theorem redelivery_without_download_unchanged :
    Unchanged sample.heard.inner (process_whatsapp_event sample.service (sample.ctx 5 "b")
      sample.heard.inner sample.company_a sample.answers (.Message sample.voice_event)).2 := by
  refine (redelivery_unchanged_iff _ _ _ _ _ _ ?_).mpr (Or.inr ⟨by decide, ?_⟩)
  · have hnew : ∀ draw < 2, (sample.heard.inner.media.lookup
        ("media_" ++ sample.answers.media.ctx.uuid draw)).isNone = true := by decide
    exact fun draw hdraw => Option.isNone_iff_eq_none.mp (hnew draw hdraw)
  · rintro descriptor heq (hrejected | ⟨bytes, hbytes, -⟩)
    · cases heq
      exact absurd hrejected (by decide)
    · cases hbytes

end rustzap.state
