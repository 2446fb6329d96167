import RustZap.State.Lifecycle

open collections serde_json runs
open rustzap.error rustzap.eventbus rustzap.models rustzap.transcription rustzap.whatsapp

namespace rustzap.state

/-- Whether an event asks for the sending of the message. -/
def requests_send (message_id : String) (event : CommonEvent) : Bool :=
  event.event_type = "outbound.send.requested" && event.message_id = some message_id

/-- A medium or a transcript of the company is stored for the message. -/
def Attached (inner : StoreInner) (message_id project_id company_id : String) : Prop :=
  (∃ media_id media, inner.media.lookup media_id = some media ∧ media.message_id = some message_id ∧
    media.project_id = project_id ∧ media.company_id = company_id) ∨
  ∃ transcript, inner.transcripts.lookup message_id = some transcript ∧
    transcript.project_id = project_id ∧ transcript.company_id = company_id

/-- What stands beside conversations and messages and is left alone by all operations
but a few: the idempotency records stay as they are, no medium goes away, the media
stand under their own ids if they did before, and events are only appended, none of
which asks for the sending of a message. New media and transcripts are of the companies
that own their messages, if `owns` says so of the messages that they are made for. -/
structure SidesKept (owns : String → String → String → Prop) (inner inner' : StoreInner) : Prop where
  idempotency : inner'.idempotency = inner.idempotency
  media_upload_idempotency : inner'.media_upload_idempotency = inner.media_upload_idempotency
  media : ∀ media_id, (inner.media.lookup media_id).isSome → (inner'.media.lookup media_id).isSome
  media_keyed : inner.media.Keyed MediaObject.id → inner'.media.Keyed MediaObject.id
  attached : ∀ message_id project_id company_id, Attached inner' message_id project_id company_id →
    Attached inner message_id project_id company_id ∨ owns message_id project_id company_id
  events : ∃ added, inner'.events = inner.events ++ added ∧
    ∀ event ∈ added, ∀ message_id, requests_send message_id event = false

section Kept

variable {owns : String → String → String → Prop} {inner inner' mid : StoreInner}

theorem SidesKept.same (hidempotency : inner'.idempotency = inner.idempotency)
    (hupload : inner'.media_upload_idempotency = inner.media_upload_idempotency)
    (hmedia : inner'.media = inner.media) (htranscripts : inner'.transcripts = inner.transcripts)
    (hevents : inner'.events = inner.events) : SidesKept owns inner inner' where
  idempotency := hidempotency
  media_upload_idempotency := hupload
  media media_id h := by rwa [hmedia]
  media_keyed h := by rwa [hmedia]
  attached message_id project_id company_id h := by
    rw [Attached, hmedia, htranscripts] at h
    exact Or.inl h
  events := ⟨[], by rw [hevents, List.append_nil], List.forall_mem_nil _⟩

theorem SidesKept.refl (inner : StoreInner) : SidesKept owns inner inner :=
  .same rfl rfl rfl rfl rfl

theorem SidesKept.trans (h : SidesKept owns inner mid) (h' : SidesKept owns mid inner') :
    SidesKept owns inner inner' where
  idempotency := h'.idempotency.trans h.idempotency
  media_upload_idempotency := h'.media_upload_idempotency.trans h.media_upload_idempotency
  media media_id hmedia := h'.media media_id (h.media media_id hmedia)
  media_keyed hkeyed := h'.media_keyed (h.media_keyed hkeyed)
  attached message_id project_id company_id hattached := by
    rcases h'.attached message_id project_id company_id hattached with hattached | howns
    · exact h.attached message_id project_id company_id hattached
    · exact Or.inr howns
  events := by
    obtain ⟨added, heq, hadded⟩ := h.events
    obtain ⟨added', heq', hadded'⟩ := h'.events
    refine ⟨added ++ added', by rw [heq', heq, List.append_assoc], ?_⟩
    intro event hevent
    rcases List.mem_append.mp hevent with hevent | hevent
    · exact hadded event hevent
    · exact hadded' event hevent

theorem SidesKept.insert_media (inner : StoreInner) {media_id : String} {media : MediaObject}
    (hid : inner.media.Keyed MediaObject.id → media.id = media_id)
    (hmessage : ∀ message_id, media.message_id = some message_id →
      Attached inner message_id media.project_id media.company_id ∨
        owns message_id media.project_id media.company_id) :
    SidesKept owns inner { inner with media := inner.media.insert media_id media } where
  idempotency := rfl
  media_upload_idempotency := rfl
  media key hkey := by
    rw [HashMap.lookup_insert_ite]
    split
    · rfl
    · exact hkey
  media_keyed hkeyed := hkeyed.insert (hid hkeyed)
  attached message_id project_id company_id h := by
    rcases h with ⟨key, found, hfound, hnamed, rfl, rfl⟩ | htranscript
    · rw [HashMap.lookup_insert_ite] at hfound
      split at hfound
      · cases hfound
        exact hmessage message_id hnamed
      · exact Or.inl (Or.inl ⟨key, found, hfound, hnamed, rfl, rfl⟩)
    · exact Or.inl (Or.inr htranscript)
  events := ⟨[], (List.append_nil _).symm, List.forall_mem_nil _⟩

theorem SidesKept.insert_transcript (inner : StoreInner) {message_id : String} {transcript : Transcript}
    (howns : owns message_id transcript.project_id transcript.company_id) :
    SidesKept owns inner { inner with transcripts := inner.transcripts.insert message_id transcript } where
  idempotency := rfl
  media_upload_idempotency := rfl
  media _ hmedia := hmedia
  media_keyed hkeyed := hkeyed
  attached key project_id company_id h := by
    rcases h with hmedia | ⟨found, hfound, rfl, rfl⟩
    · exact Or.inl (Or.inl hmedia)
    · rw [HashMap.lookup_insert_ite] at hfound
      split at hfound
      · next hkey =>
        cases hfound
        exact Or.inr (hkey ▸ howns)
      · exact Or.inl (Or.inr ⟨found, hfound, rfl, rfl⟩)
  events := ⟨[], (List.append_nil _).symm, List.forall_mem_nil _⟩

/-- Transcripts go or keep their companies. -/
theorem SidesKept.keep_transcripts (inner : StoreInner) {transcripts : HashMap String Transcript}
    (hkept : ∀ message_id transcript, transcripts.lookup message_id = some transcript →
      ∃ old, inner.transcripts.lookup message_id = some old ∧ transcript.project_id = old.project_id ∧
        transcript.company_id = old.company_id) :
    SidesKept owns inner { inner with transcripts } where
  idempotency := rfl
  media_upload_idempotency := rfl
  media _ hmedia := hmedia
  media_keyed hkeyed := hkeyed
  attached message_id project_id company_id h := by
    rcases h with hmedia | ⟨transcript, htranscript, rfl, rfl⟩
    · exact Or.inl (Or.inl hmedia)
    · obtain ⟨old, hold, hproject, hcompany⟩ := hkept message_id transcript htranscript
      exact Or.inl (Or.inr ⟨old, hold, hproject.symm, hcompany.symm⟩)
  events := ⟨[], (List.append_nil _).symm, List.forall_mem_nil _⟩

theorem SidesKept.push_event {event : CommonEvent}
    (hevent : ∀ message_id, requests_send message_id event = false) (h : SidesKept owns inner mid) :
    SidesKept owns inner (push_event_inner mid event) :=
  h.trans {
    idempotency := rfl
    media_upload_idempotency := rfl
    media := fun _ hmedia => hmedia
    media_keyed := fun hkeyed => hkeyed
    attached := fun _ _ _ hattached => Or.inl hattached
    events := ⟨[event], rfl, fun added hadded => by rwa [List.mem_singleton.mp hadded]⟩ }

theorem SidesKept.push {event : CommonEvent} (event_type : String)
    (htype : event.event_type = event_type) (hother : event_type ≠ "outbound.send.requested")
    (h : SidesKept owns inner mid) : SidesKept owns inner (push_event_inner mid event) := by
  refine h.push_event fun message_id => ?_
  rw [requests_send, htype, decide_eq_false hother, Bool.false_and]

/-- An event about no message asks for no sending, whatever its type. -/
theorem SidesKept.push_unrelated {event : CommonEvent}
    (hmessage : event.message_id = none) (h : SidesKept owns inner mid) :
    SidesKept owns inner (push_event_inner mid event) := by
  refine h.push_event fun message_id => ?_
  rw [requests_send, hmessage]
  exact Bool.and_false _

end Kept

section Sides

variable {owns : String → String → String → Prop} {inner : StoreInner}

theorem SidesKept.mark {mid : StoreInner} {ctx : Ctx} {draw : Nat}
    {project_id company_id conversation_id : String} {max_seq : Int} {channel_id : String}
    (h : SidesKept owns inner mid) :
    SidesKept owns inner
      (mark_dirty_inner ctx draw mid project_id company_id conversation_id max_seq channel_id) :=
  .push_unrelated rfl (h.trans (.same rfl rfl rfl rfl rfl))

theorem attach_media_to_message_inner_sides (now : OffsetDateTime) (message_id : String)
    (media : MediaObject) :
    SidesKept owns inner (attach_media_to_message_inner now inner message_id media).2 := by
  unfold attach_media_to_message_inner
  split <;> exact .same rfl rfl rfl rfl rfl

theorem publish_update_sides {ctx : Ctx} {message_id event_type : String} {updated : Message}
    {payload : Value} (hother : event_type ≠ "outbound.send.requested") :
    SidesKept owns inner (publish_update ctx inner message_id updated event_type payload) :=
  .push event_type rfl hother (.mark (.same rfl rfl rfl rfl rfl))

theorem dispatch_event_type_other (status : String) :
    dispatch_event_type status ≠ "outbound.send.requested" := by
  unfold dispatch_event_type
  split
  · decide
  · split <;> decide

theorem update_outbound_after_dispatch_sides (ctx : Ctx) (message_id : String)
    (wa_message_id : Option String) (status : String) (error_message : Option String) :
    SidesKept owns inner
      (update_outbound_after_dispatch ctx inner message_id wa_message_id status error_message).2 := by
  unfold update_outbound_after_dispatch
  split
  · exact .refl inner
  · exact publish_update_sides (dispatch_event_type_other status)

theorem update_receipt_with_context_sides (self : AppState) (ctx : Ctx)
    (message_id receipt_type : String) (created_at_wa : Option OffsetDateTime) :
    SidesKept owns inner
      (update_receipt_with_context self ctx inner message_id receipt_type created_at_wa).2 := by
  unfold update_receipt_with_context
  split
  · exact .refl inner
  · exact publish_update_sides (by decide)

theorem append_message_sides (ctx : Ctx) (message : Message) {event_type : String} (payload : Value)
    (hother : event_type ≠ "outbound.send.requested") :
    SidesKept owns inner (append_message ctx inner message event_type payload) :=
  .push event_type rfl hother (.mark (.same rfl rfl rfl rfl rfl))

theorem record_message_inner_stored (ctx : Ctx) (inner : StoreInner) (input : RecordMessageInput) :
    (record_message_inner ctx inner input).2.messages_by_id.lookup (record_message_inner ctx inner input).1.id =
      some (record_message_inner ctx inner input).1 := by
  obtain ⟨conversation, contacts, group_members, events, -, heq⟩ := record_message_inner_recorded ctx inner input
  rw [heq]
  exact AList.lookup_insert _

theorem record_message_inner_media (ctx : Ctx) (inner : StoreInner) (input : RecordMessageInput) :
    (record_message_inner ctx inner input).2.media = inner.media := by
  obtain ⟨conversation, contacts, group_members, events, -, heq⟩ := record_message_inner_recorded ctx inner input
  rw [heq]

theorem record_message_inner_sides (ctx : Ctx) (input : RecordMessageInput) :
    SidesKept owns inner (record_message_inner ctx inner input).2 := by
  obtain ⟨contacts, group_members, hpeople⟩ := input.people_frame ctx.now inner
  have hconversation : SidesKept owns inner { (input.people ctx.now inner).2 with
      conversations := (input.people ctx.now inner).2.conversations.insert input.conversation_id
        (input.conversation ctx.now inner) } := by
    rw [hpeople]
    exact .same rfl rfl rfl rfl rfl
  refine hconversation.trans (append_message_sides ctx _ _ ?_)
  split <;> decide

theorem record_whatsapp_message_sides (ctx : Ctx) (input : WhatsappMessageInput) :
    SidesKept owns inner (record_whatsapp_message ctx inner input).2 := by
  rcases record_whatsapp_message_cases ctx inner input with ⟨existing, -, heq⟩ | ⟨-, heq⟩
  · rw [heq]
    exact .refl inner
  · obtain ⟨contacts, group_members, hpeople⟩ := input.people_frame ctx.now inner
    have hconversation : SidesKept owns inner { (input.people ctx.now inner).inner with
        conversations := (input.people ctx.now inner).inner.conversations.insert input.conversation_id
          (input.conversation ctx.now inner) } := by
      rw [hpeople]
      exact .same rfl rfl rfl rfl rfl
    rw [heq]
    refine hconversation.trans (append_message_sides ctx _ _ ?_)
    split <;> decide

theorem link_media_sides (ctx : Ctx) (message : Message) (media : MediaObject)
    (howns : ∀ stored, inner.media.lookup media.id = some stored →
      owns message.id stored.project_id stored.company_id) :
    SidesKept owns inner (link_media ctx inner message media).2 := by
  unfold link_media
  cases hstored : inner.media.lookup media.id with
  | none => exact attach_media_to_message_inner_sides ..
  | some stored =>
    refine .trans ?_ (attach_media_to_message_inner_sides ..)
    refine .insert_media inner (fun hkeyed => hkeyed media.id stored hstored) fun message_id hmessage => ?_
    cases hmessage
    exact Or.inr (howns stored hstored)

theorem queue_outbound_sides (ctx : Ctx) (project_id company_id conversation_id : String)
    (request : SendMessageRequest) (actor : Option String) (media : Option MediaObject)
    (howns : ∀ sent stored, media = some sent → inner.media.lookup sent.id = some stored →
      owns ("msg_" ++ ctx.uuid 0) stored.project_id stored.company_id) :
    SidesKept owns inner
      (queue_outbound ctx inner project_id company_id conversation_id request actor media).2 := by
  unfold queue_outbound
  cases media with
  | none => exact record_message_inner_sides ..
  | some media =>
    refine .trans (record_message_inner_sides ..) (link_media_sides ctx _ media fun stored hstored => ?_)
    rw [record_message_inner_media] at hstored
    exact howns media stored rfl hstored

theorem ensure_conversation_inner_sides (ctx : Ctx)
    (project_id company_id conversation_id channel_id control_mode : String) :
    SidesKept owns inner
      (ensure_conversation_inner ctx inner project_id company_id conversation_id channel_id
        control_mode) := by
  unfold ensure_conversation_inner
  split
  · exact .refl inner
  · dsimp only
    split <;> exact .same rfl rfl rfl rfl rfl

theorem upload_outbound_media_sides (self : AppState) (ctx : Ctx) (project_id company_id : String)
    (upload : OutboundMediaUpload) (answers : UploadAnswers) :
    SidesKept owns inner (upload_outbound_media self ctx inner project_id company_id upload answers).2 := by
  unfold upload_outbound_media
  dsimp only
  repeat' split
  all_goals first
    | exact .refl inner
    | exact .trans (ensure_conversation_inner_sides ..) (.insert_media _ (fun _ => rfl) fun _ h => by cases h)

theorem mark_read_sides (ctx : Ctx) (project_id company_id conversation_id : String) :
    SidesKept owns inner (mark_read ctx inner project_id company_id conversation_id).2 := by
  unfold mark_read
  dsimp only
  split
  · exact .refl inner
  · exact .push_unrelated rfl (.same rfl rfl rfl rfl rfl)

theorem patch_conversation_metadata_sides (ctx : Ctx) (project_id company_id conversation_id : String)
    (body : Value) :
    SidesKept owns inner (patch_conversation_metadata ctx inner project_id company_id conversation_id body).2 := by
  unfold patch_conversation_metadata
  split
  · split
    · exact .refl inner
    · split
      · exact .refl inner
      · dsimp only
        split
        · exact .refl inner
        · split
          · exact .same rfl rfl rfl rfl rfl
          · exact .mark (.push_unrelated rfl (.same rfl rfl rfl rfl rfl))
  · exact .refl inner

theorem reconcile_channel_runtime_status_sides (ctx : Ctx) (channel_id : String) (connected : Bool) :
    SidesKept owns inner (reconcile_channel_runtime_status ctx inner channel_id connected) := by
  unfold reconcile_channel_runtime_status
  split
  · exact .refl inner
  · split
    · exact .refl inner
    · split
      · exact .refl inner
      · exact .push_unrelated rfl (.same rfl rfl rfl rfl rfl)

theorem mark_channel_disconnected_sides (ctx : Ctx) (channel_id : String) :
    SidesKept owns inner (mark_channel_disconnected ctx inner channel_id) :=
  .same rfl rfl rfl rfl rfl

theorem store_send_result_sides (ctx : Ctx) (message_id channel_id : String) (send : ProviderSend)
    (answer : SendAnswer) :
    SidesKept owns inner (store_send_result ctx inner message_id channel_id send answer).inner := by
  cases answer with
  | sent wa_message_id => exact update_outbound_after_dispatch_sides ..
  | refused error =>
    have hchannel : SidesKept owns inner (if str.contains error "is not connected" then
        mark_channel_disconnected ctx inner channel_id else inner) := by
      split
      · exact mark_channel_disconnected_sides ..
      · exact .refl inner
    exact hchannel.trans (update_outbound_after_dispatch_sides ..)
  | timed_out => exact update_outbound_after_dispatch_sides ..

theorem outbound_send_sides {ctx : Ctx} {message : Message} {channel_id : String}
    {request_text : Option String} {bytes : Except String (List UInt8)} {dispatched : Dispatched}
    (h : outbound_send ctx inner message channel_id request_text bytes = .inl dispatched) :
    SidesKept owns inner dispatched.inner := by
  unfold outbound_send at h
  dsimp only at h
  repeat' split at h
  all_goals cases h
  · exact update_outbound_after_dispatch_sides ..
  · exact update_outbound_after_dispatch_sides ..
  · exact .refl inner

theorem dispatch_prepared_message_sides (ctx : Ctx) (outcome : SendMessageOutcome)
    (request_text : Option String) (answers : DispatchAnswers) :
    SidesKept owns inner (dispatch_prepared_message ctx inner outcome request_text answers).inner := by
  unfold dispatch_prepared_message
  split
  · exact .refl inner
  · dsimp only
    refine .trans (reconcile_channel_runtime_status_sides ctx (dispatch_channel inner outcome.message)
      answers.reconciled) ?_
    split
    · exact update_outbound_after_dispatch_sides ..
    · split
      · exact .trans (mark_channel_disconnected_sides ctx (dispatch_channel inner outcome.message))
          (update_outbound_after_dispatch_sides ..)
      · split
        · next hsend => exact outbound_send_sides hsend
        · exact store_send_result_sides ..

theorem process_outbound_send_request_sides (ctx : Ctx) (event : CommonEvent) (answers : DispatchAnswers) :
    SidesKept owns inner (process_outbound_send_request ctx inner event answers).inner := by
  rcases process_outbound_send_request_cases ctx inner event answers with
    ⟨-, hinner⟩ | ⟨message_id, message, -, -, -, -, -, heq⟩
  · rw [hinner]
    exact .refl inner
  · rw [heq]
    exact dispatch_prepared_message_sides ..

/-- A transcript is stored for the message and company that it is made for. -/
theorem insert_stored_transcript_sides (message : Message) {transcript : Transcript}
    (howns : owns message.id transcript.project_id transcript.company_id) :
    SidesKept owns inner { inner with
      transcripts := inner.transcripts.insert message.id (stored_transcript inner message transcript) } := by
  refine .insert_transcript inner ?_
  unfold stored_transcript
  dsimp only
  repeat' split
  all_goals exact howns

theorem set_transcript_lifecycle_sides (ctx : Ctx) (message : Message) (media : MediaObject)
    (lifecycle : TranscriptLifecycle) (text : Option String)
    (howns : owns message.id message.project_id message.company_id) :
    SidesKept owns inner (set_transcript_lifecycle ctx inner message media lifecycle text).2 := by
  unfold set_transcript_lifecycle
  dsimp only
  split
  · exact .mark (.push "audio.transcribed" rfl (by decide) (insert_stored_transcript_sides message howns))
  · exact insert_stored_transcript_sides message howns

theorem set_completed_groq_transcript_sides (ctx : Ctx) (message : Message) (media : MediaObject)
    (result : GroqTranscription) (howns : owns message.id message.project_id message.company_id) :
    SidesKept owns inner (set_completed_groq_transcript ctx inner message media result).2 := by
  unfold set_completed_groq_transcript
  exact .mark (.push "transcript.completed" rfl (by decide)
    (.push "audio.transcribed" rfl (by decide) (insert_stored_transcript_sides message howns)))

theorem transcribe_sides (self : AppState) (ctx : Ctx) (message : Message) (media_id : String)
    (media : MediaObject) (answers : TranscriptionAnswers)
    (howns : owns message.id message.project_id message.company_id) :
    SidesKept owns inner (transcribe self ctx inner message media_id media answers).2 := by
  have hlifecycle : ∀ (ctx : Ctx) (s : StoreInner) (lifecycle : TranscriptLifecycle),
      SidesKept owns s (set_transcript_lifecycle ctx s message media lifecycle none).2 :=
    fun ctx s lifecycle => set_transcript_lifecycle_sides ctx message media lifecycle none howns
  unfold transcribe
  split
  · exact hlifecycle ..
  · split
    · exact hlifecycle ..
    · refine .trans (hlifecycle ctx inner .Processing) ?_
      dsimp only
      split
      · exact hlifecycle ..
      · exact hlifecycle ..
      · split
        · exact set_completed_groq_transcript_sides answers.ctx message media _ howns
        · exact hlifecycle ..

/-- The messages of the store are of the companies that `owns` says. -/
def Owned (owns : String → String → String → Prop) (inner : StoreInner) : Prop :=
  ∀ message_id message, inner.messages_by_id.lookup message_id = some message →
    owns message_id message.project_id message.company_id ∧
      owns message.id message.project_id message.company_id

theorem process_transcription_request_sides (self : AppState) (ctx : Ctx) (event : CommonEvent)
    (answers : TranscriptionAnswers) (howned : Owned owns inner) :
    SidesKept owns inner (process_transcription_request self ctx inner event answers).2 := by
  unfold process_transcription_request
  split
  · exact .refl inner
  · split
    · exact .refl inner
    · next message hmessage =>
      have howns := (howned _ message (message_for_company_ok hmessage).1).2
      repeat' split
      all_goals first
        | exact .refl inner
        | exact transcribe_sides self ctx message _ _ answers howns

theorem publish_media_stored_sides (ctx : Ctx) (input : InboundMediaRecordInput) (message : Message)
    (media : MediaObject) : SidesKept owns inner (publish_media_stored ctx inner input message media) := by
  unfold publish_media_stored
  split
  · exact .push "media.stored" rfl (by decide) (.refl inner)
  · exact .refl inner

theorem request_inbound_transcript_sides (ctx : Ctx) (input : InboundMediaRecordInput) (message : Message)
    (media : MediaObject) (howns : owns message.id input.runtime.project_id input.runtime.company_id) :
    SidesKept owns inner (request_inbound_transcript ctx inner input message media) := by
  unfold request_inbound_transcript
  split
  · exact .push "audio.transcription.requested" rfl (by decide) (.insert_transcript inner howns)
  · exact .refl inner

/-- The message is, as it is and as it is stored, the company's. -/
def OwnedBy (owns : String → String → String → Prop) (inner : StoreInner) (message : Message)
    (project_id company_id : String) : Prop :=
  owns message.id project_id company_id ∧ ∀ stored, inner.messages_by_id.lookup message.id = some stored →
    owns stored.id project_id company_id

theorem attached_message_owned {message : Message} {project_id company_id : String} (now : OffsetDateTime)
    (media : MediaObject) (howned : OwnedBy owns inner message project_id company_id) :
    owns ((attach_media_to_message_inner now inner message.id media).1.getD message).id project_id
      company_id := by
  unfold attach_media_to_message_inner
  cases hstored : inner.messages_by_id.lookup message.id with
  | none => exact howned.1
  | some stored => exact howned.2 stored hstored

theorem record_inbound_media_object_sides (self : AppState) (ctx : Ctx) (input : InboundMediaRecordInput)
    (howned : OwnedBy owns inner input.message input.runtime.project_id input.runtime.company_id) :
    SidesKept owns inner (record_inbound_media_object self ctx inner input).2 := by
  have hmedia : SidesKept owns inner { inner with
      media := inner.media.insert (input.media self ctx.now).id (input.media self ctx.now) } := by
    refine .insert_media inner (fun _ => rfl) fun message_id hmessage => ?_
    cases hmessage
    exact Or.inr howned.1
  unfold record_inbound_media_object
  dsimp only
  exact .trans (.trans (.trans hmedia (attach_media_to_message_inner_sides ..))
    (publish_media_stored_sides ..)) (request_inbound_transcript_sides ctx input _ _
      (attached_message_owned ctx.now (input.media self ctx.now) howned))

theorem store_downloaded_inbound_media_sides (self : AppState) (runtime : ChannelRuntime)
    (message : Message) (conversation_id : String) (descriptor : InboundMediaDescriptor)
    (bytes : List UInt8) (answers : InboundMediaAnswers)
    (howned : OwnedBy owns inner message runtime.project_id runtime.company_id) :
    SidesKept owns inner (store_downloaded_inbound_media self inner runtime message conversation_id
      descriptor bytes answers).2 := by
  unfold store_downloaded_inbound_media
  split
  · exact .refl inner
  · dsimp only
    split
    · dsimp only
      exact record_inbound_media_object_sides self answers.ctx _ howned
    · split
      · exact .refl inner
      · split
        · exact .refl inner
        · split
          · exact .push "media.storage_failed" rfl (by decide) (.refl inner)
          · dsimp only
            exact record_inbound_media_object_sides self answers.ctx _ howned

theorem download_and_store_inbound_media_sides (self : AppState) (runtime : ChannelRuntime)
    (message : Message) (conversation_id : String) (descriptor : InboundMediaDescriptor)
    (answers : InboundMediaAnswers)
    (howned : OwnedBy owns inner message runtime.project_id runtime.company_id) :
    SidesKept owns inner (download_and_store_inbound_media self inner runtime message conversation_id
      descriptor answers).2 := by
  unfold download_and_store_inbound_media
  split
  · dsimp only
    exact record_inbound_media_object_sides self answers.ctx _ howned
  · split
    · exact .refl inner
    · exact store_downloaded_inbound_media_sides self runtime message conversation_id descriptor _ answers
        howned

/-- The event that asks for the download of a medium. -/
def download_requested (ctx : Ctx) (runtime : ChannelRuntime) (event : MessageEvent) (message : Message)
    (descriptor : InboundMediaDescriptor) : CommonEvent :=
  channel_event ctx 8 "media.download.requested" runtime event.chat_jid message
    (.object [("message_id", .string message.id), ("media", descriptor.to_json)])

/-- The request is stored before anything that the download leads to. -/
theorem process_message_media_requested (self : AppState) (ctx : Ctx) (runtime : ChannelRuntime)
    (event : MessageEvent) (message : Message) (descriptor : InboundMediaDescriptor)
    (answers : InboundMediaAnswers)
    (howned : OwnedBy owns inner message runtime.project_id runtime.company_id) :
    SidesKept owns (push_event_inner inner (download_requested ctx runtime event message descriptor))
      (process_message_media self ctx inner runtime event message descriptor answers) := by
  have hstored : SidesKept owns (push_event_inner inner (download_requested ctx runtime event message descriptor))
      (download_and_store_inbound_media self
        (push_event_inner inner (download_requested ctx runtime event message descriptor)) runtime message
        event.chat_jid descriptor answers).2 :=
    download_and_store_inbound_media_sides self runtime message event.chat_jid descriptor answers howned
  unfold process_message_media
  dsimp only
  split
  · exact hstored
  · exact .push "media.download.failed" rfl (by decide) hstored

theorem process_message_media_sides (self : AppState) (ctx : Ctx) (runtime : ChannelRuntime)
    (event : MessageEvent) (message : Message) (descriptor : InboundMediaDescriptor)
    (answers : InboundMediaAnswers)
    (howned : OwnedBy owns inner message runtime.project_id runtime.company_id) :
    SidesKept owns inner (process_message_media self ctx inner runtime event message descriptor answers) :=
  .trans (.push "media.download.requested" rfl (by decide) (.refl inner))
    (process_message_media_requested self ctx runtime event message descriptor answers howned)

theorem spawn_enrichment_sides (ctx : Ctx) (runtime : ChannelRuntime) (event : MessageEvent) :
    SidesKept owns inner (spawn_enrichment ctx inner runtime event).2 := by
  obtain ⟨contacts, refreshes, heq⟩ := spawn_enrichment_frame ctx inner runtime event
  rw [heq]
  exact .same rfl rfl rfl rfl rfl

theorem spawn_group_enrichment_sides (ctx : Ctx) (runtime : ChannelRuntime) (group_id : String)
    (force : Bool) :
    SidesKept owns inner (spawn_group_enrichment ctx inner runtime group_id force).2 := by
  obtain ⟨refreshes, heq⟩ := spawn_group_enrichment_frame ctx inner runtime group_id force
  rw [heq]
  exact .same rfl rfl rfl rfl rfl

/-- An event that is dropped is announced without a message. -/
theorem ignored_message_event_message_id {self : AppState} {ctx : Ctx} {runtime : ChannelRuntime}
    {event : MessageEvent} {ignored : CommonEvent}
    (h : ignored_message_event self ctx inner runtime event = some ignored) :
    ignored.message_id = none := by
  unfold ignored_message_event at h
  repeat' split at h
  all_goals cases h
  all_goals rfl

/-- The message that an event is, recorded now or before, is of the channel's company. -/
def EventOwned (owns : String → String → String → Prop) (self : AppState) (ctx : Ctx) (inner : StoreInner)
    (runtime : ChannelRuntime) (event : MessageEvent) : Prop :=
  ignored_message_event self ctx inner runtime event = none → OwnedBy owns (record_whatsapp_message ctx inner (whatsapp_message_input runtime event)).2
    (record_whatsapp_message ctx inner (whatsapp_message_input runtime event)).1 runtime.project_id
    runtime.company_id

theorem process_message_event_sides (self : AppState) (ctx : Ctx) (runtime : ChannelRuntime)
    (event : MessageEvent) (answers : InboundMediaAnswers)
    (howned : EventOwned owns self ctx inner runtime event) :
    SidesKept owns inner (process_message_event self ctx inner runtime event answers).2 := by
  unfold process_message_event
  split
  · next ignored hignored =>
    exact .push_unrelated (ignored_message_event_message_id hignored) (.refl inner)
  · next hignored =>
    refine .trans ?_ (spawn_enrichment_sides ..)
    split
    · exact .trans (record_whatsapp_message_sides ..)
        (process_message_media_sides self ctx runtime event _ _ answers (howned hignored))
    · exact record_whatsapp_message_sides ..

theorem apply_receipts_sides (self : AppState) (receipt_type : String) (created_at_wa : OffsetDateTime)
    (wa_message_ids : List String) :
    ∀ (ctx : Ctx) (inner : StoreInner), SidesKept owns inner
      (apply_receipts self receipt_type created_at_wa ctx inner wa_message_ids) := by
  induction wa_message_ids with
  | nil => exact fun ctx inner => .refl inner
  | cons wa_message_id rest ih =>
    intro ctx inner
    refine .trans ?_ (ih _ _)
    unfold update_receipt_by_wa_id_with_context
    split
    · exact .refl inner
    · exact update_receipt_with_context_sides ..

theorem process_receipt_event_sides (self : AppState) (ctx : Ctx) (runtime : ChannelRuntime)
    (event : ReceiptEvent) :
    SidesKept owns inner (process_receipt_event self ctx inner runtime event) := by
  unfold process_receipt_event
  split
  · exact .push_unrelated rfl (.refl inner)
  · exact apply_receipts_sides ..

theorem apply_group_participants_sides (ctx : Ctx) (project_id company_id channel_id group_id : String)
    (owner_jid : Option String) (participants : List GroupParticipantProfile) :
    ∀ inner, SidesKept owns inner (participants.foldl
      (apply_group_participant ctx project_id company_id channel_id group_id owner_jid) inner) := by
  induction participants with
  | nil => exact fun inner => .refl inner
  | cons participant rest ih =>
    intro inner
    refine .trans ?_ (ih _)
    unfold apply_group_participant upsert_group_member_metadata_inner
    cases participant.phone_jid with
    | none => exact .same rfl rfl rfl rfl rfl
    | some phone_jid =>
      obtain ⟨contacts, hcontacts⟩ := upsert_contact_with_alt_inner_frame inner
        { contact :=
            { project_id, company_id, channel_id := some channel_id,
              contact_id := participant.contact_id, push_name := none, profile_picture_url := none,
              now := ctx.now }
          alt_jid := some phone_jid }
      dsimp only
      rw [hcontacts]
      exact .same rfl rfl rfl rfl rfl

theorem apply_group_profile_sides (self : AppState) (ctx : Ctx)
    (project_id company_id channel_id group_id : String) (profile : GroupProfile) :
    SidesKept owns inner
      (apply_group_profile self ctx inner project_id company_id channel_id group_id profile) := by
  have hrecord : ∀ mid record, SidesKept owns mid (store_group_record ctx.now mid project_id company_id
      channel_id group_id record) := fun mid record => .same rfl rfl rfl rfl rfl
  have hgroup : ∀ record, SidesKept owns inner { inner with groups := inner.groups.insert group_id record } :=
    fun record => .same rfl rfl rfl rfl rfl
  unfold apply_group_profile
  exact .push_unrelated rfl (.trans (.trans (hgroup _) (apply_group_participants_sides ..)) (hrecord _ _))

theorem process_group_update_sides (self : AppState) (ctx : Ctx) (runtime : ChannelRuntime)
    (group_jid : String) (subject : Option String) (created_at_wa : OffsetDateTime) :
    SidesKept owns inner
      (process_group_update self ctx inner runtime group_jid subject created_at_wa).2 := by
  unfold process_group_update
  split
  · exact .push_unrelated rfl (.refl inner)
  · refine .trans ?_ (spawn_group_enrichment_sides ..)
    split
    · unfold apply_group_subject
      split
      · exact .refl inner
      · exact .push_unrelated rfl (.same rfl rfl rfl rfl rfl)
    · exact .refl inner

theorem process_diagnostic_sides (ctx : Ctx) (runtime : ChannelRuntime) (event_type : String)
    (payload : Value) (answers : EventAnswers) :
    SidesKept owns inner (process_diagnostic ctx inner runtime event_type payload answers) := by
  unfold process_diagnostic
  dsimp only
  split
  · split
    · exact .push_unrelated rfl (.push_unrelated rfl (.same rfl rfl rfl rfl rfl))
    · exact .push_unrelated rfl (.push_unrelated rfl (.refl inner))
  · split
    · exact .push_unrelated rfl (.same rfl rfl rfl rfl rfl)
    · exact .push_unrelated rfl (.refl inner)

theorem process_whatsapp_event_sides (self : AppState) (ctx : Ctx) (runtime : ChannelRuntime)
    (answers : EventAnswers) (event : WhatsappEvent)
    (howned : ∀ message, event = .Message message → EventOwned owns self ctx inner runtime message) :
    SidesKept owns inner (process_whatsapp_event self ctx inner runtime answers event).2 := by
  unfold process_whatsapp_event
  cases event with
  | Message event => exact process_message_event_sides self ctx runtime event answers.media (howned event rfl)
  | Receipt event =>
    dsimp only
    exact process_receipt_event_sides ..
  | GroupUpdate group_jid subject created_at_wa => exact process_group_update_sides ..
  | Diagnostic event_type payload =>
    dsimp only
    exact process_diagnostic_sides ..
  | Disconnected =>
    dsimp only
    split <;> exact .push_unrelated rfl (.same rfl rfl rfl rfl rfl)
  | Connected => exact .push_unrelated rfl (.same rfl rfl rfl rfl rfl)
  | LoggedOut reason => exact .push_unrelated rfl (.same rfl rfl rfl rfl rfl)
  | PairingQrCode code timeout_secs => exact .push_unrelated rfl (.same rfl rfl rfl rfl rfl)
  | HistorySyncIgnored => exact .push_unrelated rfl (.refl inner)

theorem apply_contact_profile_sides (ctx : Ctx) (input : ContactProfileApplyInput) :
    SidesKept owns inner (apply_contact_profile ctx inner input) := by
  unfold apply_contact_profile
  exact .push_unrelated rfl (.same rfl rfl rfl rfl rfl)

theorem list_dirty_sides (ctx : Ctx) (project_id company_id consumer_id : String) (limit : Nat) :
    SidesKept owns inner (list_dirty ctx inner project_id company_id consumer_id limit).2 :=
  .same rfl rfl rfl rfl rfl

theorem ack_dirty_sides (ctx : Ctx) (project_id company_id conversation_id : String)
    (request : DirtyAckRequest) :
    SidesKept owns inner (ack_dirty ctx inner project_id company_id conversation_id request).2 := by
  rcases ack_dirty_cases ctx inner project_id company_id conversation_id request with
    heq | ⟨dirty, -, -, heq⟩
  · rw [heq]
    exact .refl inner
  · rw [heq]
    unfold acked
    dsimp only
    split <;> exact .same rfl rfl rfl rfl rfl

theorem record_contact_profile_lookup_failure_sides (ctx : Ctx) (project_id company_id contact_id : String) :
    SidesKept owns inner (record_contact_profile_lookup_failure ctx inner project_id company_id contact_id) := by
  unfold record_contact_profile_lookup_failure
  dsimp only
  split <;> exact .same rfl rfl rfl rfl rfl

theorem create_channel_sides (ctx : Ctx) (project_id company_id : String)
    (id label phone_e164 : Option String) :
    SidesKept owns inner (create_channel ctx inner project_id company_id id label phone_e164).2 := by
  unfold create_channel
  dsimp only
  repeat' split
  all_goals exact .same rfl rfl rfl rfl rfl

theorem attach_simulated_media_sides (ctx : Ctx) {project_id company_id : String} (channel_id : String)
    {message : Message} {media : MediaObject} (hnamed : media.message_id = some message.id)
    (hproject : media.project_id = project_id) (hcompany : media.company_id = company_id)
    (howned : OwnedBy owns inner message project_id company_id) :
    SidesKept owns inner (attach_simulated_media ctx inner project_id company_id channel_id message media).2 := by
  have hstored : SidesKept owns inner { inner with media := inner.media.insert media.id media } := by
    refine .insert_media inner (fun _ => rfl) fun message_id hmessage => Or.inr ?_
    rw [hnamed, Option.some.injEq] at hmessage
    rw [hproject, hcompany, ← hmessage]
    exact howned.1
  have hmedia := hstored.trans (attach_media_to_message_inner_sides ctx.now message.id media)
  have howned' : OwnedBy owns { inner with media := inner.media.insert media.id media } message project_id
    company_id := howned
  unfold attach_simulated_media
  dsimp only
  split
  · exact .push "audio.transcription.requested" rfl (by decide)
      (hmedia.trans (.insert_transcript _ (attached_message_owned ctx.now media howned')))
  · exact hmedia

theorem try_receive_inbound_media_sides (self : AppState) (ctx : Ctx) (project_id company_id : String)
    (request : SimulateInboundMediaRequest) (answers : SimulatedMediaAnswers)
    (howns : owns ("msg_" ++ ctx.uuid 0) project_id company_id) :
    SidesKept owns inner
      (try_receive_inbound_media self ctx inner project_id company_id request answers).2 := by
  unfold try_receive_inbound_media
  dsimp only
  split
  · exact .push "media.storage_failed" rfl (by decide) (record_message_inner_sides ..)
  · refine .trans (record_message_inner_sides ..)
      (attach_simulated_media_sides ctx _ rfl rfl rfl ⟨howns, fun stored hstored => ?_⟩)
    rw [record_message_inner_stored] at hstored
    cases hstored
    exact howns

theorem set_message_flag_sides (ctx : Ctx) (message_id flag : String) (value : Bool) :
    SidesKept owns inner (set_message_flag ctx inner message_id flag value).2 := by
  unfold set_message_flag
  split <;> exact .same rfl rfl rfl rfl rfl

theorem react_to_message_sides (ctx : Ctx) (message_id : String) (emoji : Option String)
    (answer : ReactionAnswer) :
    SidesKept owns inner (react_to_message ctx inner message_id emoji answer).2 := by
  unfold react_to_message set_message_reaction
  split
  · exact .refl inner
  · split
    · exact .refl inner
    · split
      · dsimp only
        exact .push "message.reaction" rfl (by decide) (.same rfl rfl rfl rfl rfl)
      · exact .refl inner
      · exact .refl inner

theorem request_transcript_sides (ctx : Ctx) (project_id company_id message_id : String)
    (howned : Owned owns inner) :
    SidesKept owns inner (request_transcript ctx inner project_id company_id message_id).2 := by
  unfold request_transcript
  split
  · exact .refl inner
  · next message hmessage =>
    obtain ⟨hlookup, rfl, rfl⟩ := message_for_company_ok hmessage
    have howns := (howned message_id message hlookup).1
    repeat' split
    all_goals first
      | exact .refl inner
      | exact .push "audio.transcription.requested" rfl (by decide) (.insert_transcript inner howns)

theorem begin_upload_sides (idem_key : String × String × String) (request_hash : String) :
    SidesKept owns inner (begin_upload inner idem_key request_hash).2 := by
  unfold begin_upload
  repeat' split
  all_goals exact .same rfl rfl rfl rfl rfl

theorem store_profile_picture_media_bytes_sides (self : AppState) (ctx : Ctx)
    (project_id company_id channel_id entity_type entity_id : String) (bytes : List UInt8)
    (put : Except String Unit) :
    SidesKept owns inner (store_profile_picture_media_bytes self ctx inner project_id company_id channel_id
      entity_type entity_id bytes put).2 := by
  unfold store_profile_picture_media_bytes
  split
  · exact .refl inner
  · split
    · exact .refl inner
    · split
      · exact .refl inner
      · exact .push_unrelated rfl (.insert_media inner (fun _ => rfl) fun _ h => by cases h)

/-- What an update of a medium does not touch. -/
structure SameAttachment (media media' : MediaObject) : Prop where
  id : media'.id = media.id
  project_id : media'.project_id = media.project_id
  company_id : media'.company_id = media.company_id
  message_id : media'.message_id = media.message_id

theorem update_media_sides (media_id : String) {change : MediaObject → MediaObject}
    (hchange : ∀ media, SameAttachment media (change media)) :
    SidesKept owns inner (update_media inner media_id change).2 := by
  unfold update_media
  split
  · exact .refl inner
  · next media hmedia =>
    refine .insert_media inner (fun hkeyed => (hchange media).id.trans (hkeyed media_id media hmedia)) ?_
    intro message_id hmessage
    rw [(hchange media).message_id] at hmessage
    rw [(hchange media).project_id, (hchange media).company_id]
    exact Or.inl (Or.inl ⟨media_id, media, hmedia, hmessage, rfl, rfl⟩)

theorem delete_media_for_company_sides (ctx : Ctx) (project_id company_id media_id : String) :
    SidesKept owns inner (delete_media_for_company ctx inner project_id company_id media_id).2 := by
  unfold delete_media_for_company
  split
  · exact .refl inner
  · exact update_media_sides media_id fun _ => ⟨rfl, rfl, rfl, rfl⟩

theorem anonymize_contact_sides (self : AppState) (ctx : Ctx) (project_id company_id contact_id : String)
    (delete_messages : Bool) :
    SidesKept owns inner
      (anonymize_contact self ctx inner project_id company_id contact_id delete_messages).2 := by
  unfold anonymize_contact
  dsimp only
  split <;> exact .same rfl rfl rfl rfl rfl

theorem redact_transcripts_sides (now : OffsetDateTime) (project_id company_id : String) :
    SidesKept owns inner (redact_transcripts now inner project_id company_id) := by
  refine .keep_transcripts inner fun message_id transcript htranscript => ?_
  rw [HashMap.lookup_map_values, Option.map_eq_some_iff] at htranscript
  obtain ⟨old, hold, rfl⟩ := htranscript
  refine ⟨old, hold, ?_⟩
  split <;> exact ⟨rfl, rfl⟩

def StoreOp.IsSend : StoreOp → Prop
  | .prepare_send_message_with_actor _ _ _ _ _ _ => True
  | _ => False

/-- The messages that an operation makes media and transcripts for are of the companies
that `owns` says. -/
def StoreOp.Attaches (owns : String → String → String → Prop) (self : AppState) (ctx : Ctx)
    (inner : StoreInner) : StoreOp → Prop
  | .prepare_send_message_with_actor project company conversation key request _ => ∀ sent stored,
    inner.idempotency.lookup (project, company, key) = none →
    media_for_send inner project company (resolve_conversation_id_inner inner project company conversation)
      request.media_id = .ok (some sent) → inner.media.lookup sent.id = some stored →
    owns ("msg_" ++ ctx.uuid 0) stored.project_id stored.company_id
  | .process_transcription_request _ _ => Owned owns inner
  | .process_whatsapp_event runtime _ event => ∀ message, event = .Message message →
    EventOwned owns self ctx inner runtime message
  | _ => True

theorem StoreOp.sides_kept (self : AppState) (ctx : Ctx) {op : StoreOp} (hop : ¬ op.IsSend)
    (howned : op.Attaches owns self ctx inner) : SidesKept owns inner (op.apply self ctx inner) := by
  cases op with
  | create_channel project company id label phone => exact create_channel_sides ..
  | receive_inbound_text project company request => exact record_message_inner_sides ..
  | prepare_send_message_with_actor project company conversation key request actor =>
    exact absurd trivial hop
  | upload_outbound_media project company upload answers => exact upload_outbound_media_sides ..
  | mark_read project company conversation => exact mark_read_sides ..
  | patch_conversation_metadata project company conversation body =>
    exact patch_conversation_metadata_sides ..
  | update_receipt message receipt_type => exact update_receipt_with_context_sides ..
  | update_outbound_after_dispatch message wa_message_id status error_message =>
    exact update_outbound_after_dispatch_sides ..
  | process_outbound_send_request event answers => exact process_outbound_send_request_sides ..
  | process_transcription_request event answers =>
    exact process_transcription_request_sides self ctx event answers howned
  | process_whatsapp_event runtime answers event =>
    exact process_whatsapp_event_sides self ctx runtime answers event howned
  | list_dirty project company consumer limit => exact list_dirty_sides ..
  | ack_dirty project company conversation request => exact ack_dirty_sides ..
  | apply_contact_profile input => exact apply_contact_profile_sides ..
  | record_contact_profile_lookup_failure project company contact =>
    exact record_contact_profile_lookup_failure_sides ..
  | apply_group_profile project company channel group profile => exact apply_group_profile_sides ..

/-- The operations that write an idempotency record, and those that remove something:
a send, the end of an upload under a key, the retention and a restart. -/
def Operation.OnSides : Operation → Prop
  | .store op => op.IsSend
  | .finish_upload _ _ _ => True
  | .remove_expired _ _ => True
  | .restart => True
  | _ => False

def Operation.Attaches (owns : String → String → String → Prop) (self : AppState) (ctx : Ctx)
    (inner : StoreInner) : Operation → Prop
  | .store op => op.Attaches owns self ctx inner
  | .try_receive_inbound_media project company _ _ => owns ("msg_" ++ ctx.uuid 0) project company
  | .request_transcript _ _ _ => Owned owns inner
  | _ => True

/-- Where it does not matter which company a message is of. -/
def anyone (_message_id _project_id _company_id : String) : Prop :=
  True

theorem StoreOp.attaches_any (self : AppState) (ctx : Ctx) (inner : StoreInner) (op : StoreOp) :
    op.Attaches anyone self ctx inner := by
  cases op with
  | prepare_send_message_with_actor project company conversation key request actor =>
    exact fun _ _ _ _ _ => trivial
  | process_transcription_request event answers => exact fun _ _ _ => ⟨trivial, trivial⟩
  | process_whatsapp_event runtime answers event => exact fun _ _ _ => ⟨trivial, fun _ _ => trivial⟩
  | _ => exact trivial

theorem Operation.attaches_any (self : AppState) (ctx : Ctx) (inner : StoreInner) (op : Operation) :
    op.Attaches anyone self ctx inner := by
  cases op with
  | store op => exact op.attaches_any self ctx inner
  | request_transcript project company message => exact fun _ _ _ => ⟨trivial, trivial⟩
  | _ => exact trivial

theorem Operation.sides_kept (self : AppState) (ctx : Ctx) {op : Operation} (hop : ¬ op.OnSides)
    (howned : op.Attaches owns self ctx inner) : SidesKept owns inner (op.apply self ctx inner) := by
  cases op with
  | store op => exact op.sides_kept self ctx hop howned
  | try_receive_inbound_media project company request answers =>
    exact try_receive_inbound_media_sides self ctx project company request answers howned
  | set_message_flag message flag value => exact set_message_flag_sides ..
  | react_to_message message emoji answer => exact react_to_message_sides ..
  | request_transcript project company message =>
    exact request_transcript_sides ctx project company message howned
  | begin_upload idem_key request_hash => exact begin_upload_sides ..
  | finish_upload idem_key request_hash media_result => exact absurd trivial hop
  | store_profile_picture_media_bytes project company channel entity_type entity_id bytes put =>
    exact store_profile_picture_media_bytes_sides ..
  | save_media_with_permanent_object_key media entity_type entity_id permanent_object_key =>
    exact update_media_sides media fun _ => ⟨rfl, rfl, rfl, rfl⟩
  | delete_media_for_company project company media => exact delete_media_for_company_sides ..
  | anonymize_contact project company contact delete_messages => exact anonymize_contact_sides ..
  | remove_expired message_ids media_ids => exact absurd trivial hop
  | expire_transcripts project company cutoff =>
    exact .keep_transcripts inner fun message_id transcript htranscript =>
      ⟨transcript, (HashMap.lookup_retain_eq_some_iff.mp htranscript).1, rfl, rfl⟩
  | redact_transcripts project company => exact redact_transcripts_sides ..
  | restart => exact absurd trivial hop

/-- The event by which a prepared message asks to be sent. -/
def send_requested (ctx : Ctx) (project_id company_id conversation_id : String) (message : Message) :
    CommonEvent :=
  new_event ctx 8 "outbound.send.requested" project_id company_id (some message.channel_account_id)
    (some conversation_id) (some message.id) (some message.conversation_seq)
    (.object [("message_id", .string message.id), ("media_id", Value.of_option message.media_id),
      ("message_type", .string message.message_type)])

theorem queue_outbound_message (ctx : Ctx) (inner : StoreInner) (project_id company_id conversation_id : String)
    (request : SendMessageRequest) (actor : Option String) (media : Option MediaObject) :
    let queued := queue_outbound ctx inner project_id company_id conversation_id request actor media
    queued.1.id = "msg_" ++ ctx.uuid 0 ∧ queued.1.conversation_id = conversation_id ∧
      queued.1.project_id = project_id ∧ queued.1.company_id = company_id ∧
      queued.2.messages_by_id.lookup queued.1.id = some queued.1 := by
  unfold queue_outbound
  cases media with
  | none => exact ⟨rfl, rfl, rfl, rfl, record_message_inner_stored ctx inner _⟩
  | some media =>
    dsimp only [link_media]
    split
    all_goals
      unfold attach_media_to_message_inner
      dsimp only
      rw [record_message_inner_stored]
      exact ⟨rfl, rfl, rfl, rfl, AList.lookup_insert _⟩

/-- A send is answered from the record of its key, is refused, or queues a message
under a new id, records it under the key and asks for its sending. -/
theorem prepare_send_message_with_actor_cases (self : AppState) (ctx : Ctx) (inner : StoreInner)
    (project_id company_id conversation_id idempotency_key : String) (request : SendMessageRequest)
    (actor : Option String) (howned : (StoreOp.prepare_send_message_with_actor project_id company_id
      conversation_id idempotency_key request actor).Attaches owns self ctx inner) :
    let answer := prepare_send_message_with_actor self ctx inner project_id company_id conversation_id
      idempotency_key request actor
    let target := resolve_conversation_id_inner inner project_id company_id conversation_id
    (∃ record, inner.idempotency.lookup (project_id, company_id, idempotency_key) = some record ∧
      answer = (replay_send inner record (self.host.sha256_json request), inner)) ∨
    inner.idempotency.lookup (project_id, company_id, idempotency_key) = none ∧
      ((∃ err, answer = (.error err, inner)) ∨
      ∃ message mid, SidesKept owns inner mid ∧ message.id = "msg_" ++ ctx.uuid 0 ∧
        message.conversation_id = target ∧ mid.messages_by_id.lookup message.id = some message ∧
        answer = (.ok { message, should_dispatch := true }, push_event_inner
          { mid with
            idempotency := mid.idempotency.insert (project_id, company_id, idempotency_key)
              { request_hash := self.host.sha256_json request, message_id := message.id } }
          (send_requested ctx project_id company_id target message))) := by
  intro answer target
  have hanswer : answer = prepare_send_message_with_actor self ctx inner project_id company_id
    conversation_id idempotency_key request actor := rfl
  unfold prepare_send_message_with_actor at hanswer
  dsimp only at hanswer
  cases hrecord : inner.idempotency.lookup (project_id, company_id, idempotency_key) with
  | some record =>
    rw [hrecord] at hanswer
    exact Or.inl ⟨record, rfl, hanswer⟩
  | none =>
    rw [hrecord] at hanswer
    refine Or.inr ⟨rfl, ?_⟩
    cases hmedia : media_for_send inner project_id company_id target request.media_id with
    | error err =>
      rw [hmedia] at hanswer
      exact Or.inl ⟨err, hanswer⟩
    | ok media =>
      rw [hmedia] at hanswer
      obtain ⟨hid, hconversation, -, -, hlookup⟩ := queue_outbound_message ctx inner project_id company_id target
        request actor media
      refine Or.inr ⟨_, _, queue_outbound_sides ctx project_id company_id target request actor media ?_, hid,
        hconversation, hlookup, hanswer⟩
      rintro sent stored rfl hstored
      exact howned sent stored hrecord hmedia hstored

end Sides

end rustzap.state
