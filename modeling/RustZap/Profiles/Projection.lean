import RustZap.Profiles.Book
import RustZap.Tenants.Contacts

open collections serde_json runs
open rustzap.error rustzap.eventbus rustzap.models rustzap.transcription rustzap.whatsapp

namespace rustzap.state

def ContactRecord.looked (contact : ContactRecord) : Looked where
  attempted_at := contact.profile_lookup_attempted_at
  failed_at := contact.profile_lookup_failed_at

/-- What the store says of the looks at profiles. -/
def StoreInner.profile_book (inner : StoreInner) : ProfileBook where
  contacts contact_id := ((inner.contacts.lookup contact_id).map ContactRecord.looked).getD {}
  groups key := inner.group_profile_refreshes.lookup key

/-- The looks that the store goes through at one time. -/
def Looks (now : OffsetDateTime) (ops : List ProfileOp) (inner inner' : StoreInner) : Prop :=
  Run ProfileBook.Step inner.profile_book (ops.map (Prod.mk now)) inner'.profile_book

section Looks

variable {now : OffsetDateTime} {inner mid inner' : StoreInner} {ops ops' : List ProfileOp}

theorem Looks.quiet (h : inner'.profile_book = inner.profile_book) : Looks now [] inner inner' := by
  rw [Looks, h]
  exact .nil _

theorem Looks.trans (h : Looks now ops inner mid) (h' : Looks now ops' mid inner') :
    Looks now (ops ++ ops') inner inner' := by
  rw [Looks, List.map_append]
  exact Run.append h h'

theorem Looks.then_quiet (h : Looks now ops inner mid) (hquiet : inner'.profile_book = mid.profile_book) :
    Looks now ops inner inner' := by
  rwa [Looks, hquiet]

theorem Looks.after_quiet (hquiet : mid.profile_book = inner.profile_book) (h : Looks now ops mid inner') :
    Looks now ops inner inner' := by
  rwa [Looks, ← hquiet]

end Looks

theorem ProfileBook.enter_enter (book : ProfileBook) (contact_ids contact_ids' : List String) (looked : Looked) :
    (book.enter contact_ids looked).enter contact_ids' looked = book.enter (contact_ids ++ contact_ids') looked := by
  unfold ProfileBook.enter
  congr
  funext contact_id
  simp only [List.mem_append]
  split <;> split <;> simp_all

theorem ProfileBook.enter_same (book : ProfileBook) (contact_id : String) :
    book.enter [contact_id] (book.contacts contact_id) = book := by
  unfold ProfileBook.enter
  congr
  funext id
  simp only [List.mem_singleton]
  split
  · next hid => rw [hid]
  · rfl

section Contacts

variable (inner : StoreInner)

/-- A record is written under a contact's id. -/
theorem profile_book_insert (contact_id : String) (contact : ContactRecord) :
    StoreInner.profile_book { inner with contacts := inner.contacts.insert contact_id contact } =
      inner.profile_book.enter [contact_id] contact.looked := by
  unfold StoreInner.profile_book ProfileBook.enter
  congr
  funext id
  rw [HashMap.lookup_insert_ite]
  simp only [List.mem_singleton]
  split <;> rfl

/-- And under its other ids, each time with that id. -/
theorem profile_book_insert_all (contact : ContactRecord) (aliases : List String) :
    ∀ inner : StoreInner, StoreInner.profile_book { inner with
        contacts := aliases.foldl (fun contacts jid => contacts.insert jid { contact with id := jid })
          inner.contacts } = inner.profile_book.enter aliases contact.looked := by
  induction aliases with
  | nil =>
    intro inner
    unfold ProfileBook.enter
    simp
  | cons jid aliases ih =>
    intro inner
    have hfirst := profile_book_insert inner jid { contact with id := jid }
    have hrest := ih { inner with contacts := inner.contacts.insert jid { contact with id := jid } }
    rw [List.foldl_cons, hrest, hfirst]
    exact inner.profile_book.enter_enter [jid] aliases contact.looked

theorem ContactUpsertInput.apply_looked (input : ContactUpsertInput) (entry : ContactRecord) :
    (input.apply entry).looked = entry.looked := by
  unfold ContactUpsertInput.apply ContactRecord.looked
  dsimp only
  repeat' split
  all_goals rfl

theorem ContactEnrichmentInput.apply_looked (input : ContactEnrichmentInput) (entry : ContactRecord) :
    (input.apply entry).looked =
      if input.profile_lookup_succeeded then { attempted_at := some input.now } else entry.looked := by
  unfold ContactEnrichmentInput.apply ContactRecord.looked
  dsimp only
  repeat' split
  all_goals rfl

/-- An upsert looks at nobody. -/
theorem upsert_contact_inner_looked (input : ContactUpsertInput) :
    (upsert_contact_inner inner input).1.looked = inner.profile_book.contacts input.contact_id := by
  rw [upsert_contact_inner]
  dsimp only [StoreInner.profile_book]
  rw [input.apply_looked]
  cases inner.contacts.lookup input.contact_id <;> rfl

theorem upsert_contact_inner_quiet (input : ContactUpsertInput) :
    (upsert_contact_inner inner input).2.profile_book = inner.profile_book := by
  have hwritten := profile_book_insert inner input.contact_id (upsert_contact_inner inner input).1
  rw [upsert_contact_inner_looked, ProfileBook.enter_same] at hwritten
  exact hwritten

def ContactEnrichmentInput.profile_op (input : ContactEnrichmentInput) : ProfileOp :=
  .enrich input.contact_id input.aliases input.profile_lookup_succeeded

theorem enrich_contact_inner_looks (input : ContactEnrichmentInput) :
    Looks input.now [input.profile_op] inner (enrich_contact_inner inner input).2 := by
  have hstep : ProfileBook.Step inner.profile_book (input.now, input.profile_op) (inner.profile_book.enter
      (input.contact_id :: input.aliases) (if input.profile_lookup_succeeded then
        { attempted_at := some input.now } else inner.profile_book.contacts input.contact_id)) :=
    .enrich ..
  have hlooked : (enrich_contact_inner inner input).1.looked = if input.profile_lookup_succeeded then
      { attempted_at := some input.now } else inner.profile_book.contacts input.contact_id := by
    have happlied := input.apply_looked (upsert_contact_inner inner input.upsert).1
    rw [upsert_contact_inner_looked] at happlied
    exact happlied
  have hbook : (enrich_contact_inner inner input).2.profile_book = inner.profile_book.enter
      (input.contact_id :: input.aliases) (enrich_contact_inner inner input).1.looked := by
    have hentered := profile_book_insert (upsert_contact_inner inner input.upsert).2 input.contact_id
      (enrich_contact_inner inner input).1
    rw [upsert_contact_inner_quiet] at hentered
    have hcopied := profile_book_insert_all (enrich_contact_inner inner input).1 input.aliases
      { (upsert_contact_inner inner input.upsert).2 with
        contacts := (upsert_contact_inner inner input.upsert).2.contacts.insert input.contact_id
          (enrich_contact_inner inner input).1 }
    rw [hentered, ProfileBook.enter_enter] at hcopied
    exact hcopied
  rw [Looks, hbook, hlooked]
  exact .cons hstep (.nil _)

def ContactUpsertWithAltInput.profile_ops (input : ContactUpsertWithAltInput) : List ProfileOp :=
  (contact_profile_from_alt input.contact.contact_id input.alt_jid).toList.map fun profile =>
    (input.enrichment profile).profile_op

theorem upsert_contact_with_alt_inner_looks (input : ContactUpsertWithAltInput) :
    Looks input.contact.now input.profile_ops inner (upsert_contact_with_alt_inner inner input).2 := by
  unfold upsert_contact_with_alt_inner ContactUpsertWithAltInput.profile_ops
  cases contact_profile_from_alt input.contact.contact_id input.alt_jid with
  | none => exact .quiet (upsert_contact_inner_quiet inner input.contact)
  | some profile => exact enrich_contact_inner_looks inner (input.enrichment profile)

/-- The contact and, in a group, the sender of a WhatsApp message that is recorded. -/
def WhatsappMessageInput.profile_ops (input : WhatsappMessageInput) (now : OffsetDateTime) :
    List ProfileOp :=
  (input.contact_key.toList.flatMap fun contact_id =>
    (input.upsert_input now input.contact_name input.contact_alt_jid contact_id).profile_ops) ++
  ((if input.is_inbound_group then input.sender_contact_id else none).toList.flatMap fun contact_id =>
    (input.upsert_input now input.sender_name input.sender_alt_jid contact_id).profile_ops)

theorem WhatsappMessageInput.upsert_contact_looks (input : WhatsappMessageInput) (now : OffsetDateTime)
    (contact_id push_name alt_jid : Option String) :
    Looks now (contact_id.toList.flatMap fun contact_id =>
        (input.upsert_input now push_name alt_jid contact_id).profile_ops)
      inner (input.upsert_contact now inner contact_id push_name alt_jid).2 := by
  cases contact_id with
  | none => exact .quiet rfl
  | some contact_id =>
    rw [Option.toList_some, List.flatMap_singleton]
    exact upsert_contact_with_alt_inner_looks inner (input.upsert_input now push_name alt_jid contact_id)

theorem WhatsappMessageInput.people_looks (input : WhatsappMessageInput) (now : OffsetDateTime) :
    Looks now (input.profile_ops now) inner (input.people now inner).inner := by
  have hcontact := input.upsert_contact_looks inner now input.contact_key input.contact_name
    input.contact_alt_jid
  have hsender := input.upsert_contact_looks (input.upsert_contact now inner input.contact_key
    input.contact_name input.contact_alt_jid).2 now
    (if input.is_inbound_group then input.sender_contact_id else none) input.sender_name input.sender_alt_jid
  unfold WhatsappMessageInput.people
  dsimp only
  split
  · exact (hcontact.trans hsender).then_quiet rfl
  · exact hcontact.trans hsender

theorem RecordMessageInput.people_quiet (input : RecordMessageInput) (now : OffsetDateTime) :
    (input.people now inner).2.profile_book = inner.profile_book := by
  unfold RecordMessageInput.people
  cases input.contact_id with
  | none =>
    dsimp only
    split <;> rfl
  | some contact_id =>
    dsimp only
    split <;> exact upsert_contact_inner_quiet inner _

def participant_profile_ops (now : OffsetDateTime) (project_id company_id channel_id : String)
    (participant : GroupParticipantProfile) : List ProfileOp :=
  participant.phone_jid.toList.flatMap fun phone_jid =>
    (participant_upsert now project_id company_id channel_id participant phone_jid).profile_ops

theorem apply_group_participant_looks (ctx : Ctx) (project_id company_id channel_id group_id : String)
    (owner_jid : Option String) (participant : GroupParticipantProfile) :
    Looks ctx.now (participant_profile_ops ctx.now project_id company_id channel_id participant) inner
      (apply_group_participant ctx project_id company_id channel_id group_id owner_jid inner participant) := by
  -- the member's place in the group is no contact
  have hmember : ∀ mid contact_id phone_jid display_name is_admin, StoreInner.profile_book
      (upsert_group_member_metadata_inner mid group_id contact_id phone_jid display_name owner_jid is_admin
        ctx.now) = mid.profile_book := fun _ _ _ _ _ => rfl
  unfold apply_group_participant
  refine .then_quiet ?_ (hmember ..)
  rw [participant_profile_ops]
  cases participant.phone_jid with
  | none => exact .quiet rfl
  | some phone_jid =>
    rw [Option.toList_some, List.flatMap_singleton]
    exact upsert_contact_with_alt_inner_looks inner
      (participant_upsert ctx.now project_id company_id channel_id participant phone_jid)

theorem apply_group_participants_looks (ctx : Ctx) (project_id company_id channel_id group_id : String)
    (owner_jid : Option String) (participants : List GroupParticipantProfile) :
    ∀ inner : StoreInner, Looks ctx.now
      (participants.flatMap (participant_profile_ops ctx.now project_id company_id channel_id)) inner
      (participants.foldl (apply_group_participant ctx project_id company_id channel_id group_id owner_jid)
        inner) := by
  induction participants with
  | nil => exact fun inner => .quiet rfl
  | cons participant participants ih =>
    intro inner
    exact (apply_group_participant_looks inner ..).trans (ih _)

end Contacts

section Quiet

variable {inner : StoreInner}

theorem attach_media_to_message_inner_quiet (now : OffsetDateTime) (message_id : String) (media : MediaObject) :
    (attach_media_to_message_inner now inner message_id media).2.profile_book = inner.profile_book := by
  unfold attach_media_to_message_inner
  split <;> rfl

theorem update_outbound_after_dispatch_quiet (ctx : Ctx) (message_id : String)
    (wa_message_id : Option String) (status : String) (error_message : Option String) :
    (update_outbound_after_dispatch ctx inner message_id wa_message_id status error_message).2.profile_book =
      inner.profile_book := by
  unfold update_outbound_after_dispatch
  split <;> rfl

theorem update_receipt_with_context_quiet (self : AppState) (ctx : Ctx) (message_id receipt_type : String)
    (created_at_wa : Option OffsetDateTime) :
    (update_receipt_with_context self ctx inner message_id receipt_type created_at_wa).2.profile_book =
      inner.profile_book := by
  unfold update_receipt_with_context
  split <;> rfl

theorem record_message_inner_quiet (ctx : Ctx) (input : RecordMessageInput) :
    (record_message_inner ctx inner input).2.profile_book = inner.profile_book :=
  input.people_quiet inner ctx.now

theorem link_media_quiet (ctx : Ctx) (message : Message) (media : MediaObject) :
    (link_media ctx inner message media).2.profile_book = inner.profile_book := by
  unfold link_media
  cases inner.media.lookup media.id with
  | none => exact attach_media_to_message_inner_quiet ..
  | some stored => exact attach_media_to_message_inner_quiet ..

theorem queue_outbound_quiet (ctx : Ctx) (project_id company_id conversation_id : String)
    (request : SendMessageRequest) (actor : Option String) (media : Option MediaObject) :
    (queue_outbound ctx inner project_id company_id conversation_id request actor media).2.profile_book =
      inner.profile_book := by
  unfold queue_outbound
  cases media with
  | none => exact record_message_inner_quiet ctx _
  | some media => exact (link_media_quiet ..).trans (record_message_inner_quiet ctx _)

theorem prepare_send_message_with_actor_quiet (self : AppState) (ctx : Ctx)
    (project_id company_id conversation_id idempotency_key : String) (request : SendMessageRequest)
    (actor : Option String) :
    (prepare_send_message_with_actor self ctx inner project_id company_id conversation_id idempotency_key
      request actor).2.profile_book = inner.profile_book := by
  unfold prepare_send_message_with_actor
  dsimp only
  split
  · rfl
  · split
    · rfl
    · exact queue_outbound_quiet ..

theorem ensure_conversation_inner_quiet (ctx : Ctx)
    (project_id company_id conversation_id channel_id control_mode : String) :
    (ensure_conversation_inner ctx inner project_id company_id conversation_id channel_id
      control_mode).profile_book = inner.profile_book := by
  unfold ensure_conversation_inner
  split
  · rfl
  · dsimp only
    split
    · rfl
    · exact upsert_contact_inner_quiet inner _

theorem upload_outbound_media_quiet (self : AppState) (ctx : Ctx) (project_id company_id : String)
    (upload : OutboundMediaUpload) (answers : UploadAnswers) :
    (upload_outbound_media self ctx inner project_id company_id upload answers).2.profile_book =
      inner.profile_book := by
  unfold upload_outbound_media
  dsimp only
  repeat' split
  all_goals first
    | rfl
    | exact ensure_conversation_inner_quiet ..

theorem mark_read_quiet (ctx : Ctx) (project_id company_id conversation_id : String) :
    (mark_read ctx inner project_id company_id conversation_id).2.profile_book = inner.profile_book := by
  unfold mark_read
  dsimp only
  split <;> rfl

theorem patch_conversation_metadata_quiet (ctx : Ctx) (project_id company_id conversation_id : String)
    (body : Value) :
    (patch_conversation_metadata ctx inner project_id company_id conversation_id body).2.profile_book =
      inner.profile_book := by
  unfold patch_conversation_metadata
  dsimp only
  repeat' split
  all_goals rfl

theorem reconcile_channel_runtime_status_quiet (ctx : Ctx) (channel_id : String) (connected : Bool) :
    (reconcile_channel_runtime_status ctx inner channel_id connected).profile_book = inner.profile_book := by
  unfold reconcile_channel_runtime_status
  repeat' split
  all_goals rfl

theorem store_send_result_quiet (ctx : Ctx) (message_id channel_id : String) (send : ProviderSend)
    (answer : SendAnswer) :
    (store_send_result ctx inner message_id channel_id send answer).inner.profile_book =
      inner.profile_book := by
  cases answer with
  | sent wa_message_id => exact update_outbound_after_dispatch_quiet ..
  | refused error =>
    unfold store_send_result
    dsimp only
    split <;> exact update_outbound_after_dispatch_quiet ..
  | timed_out => exact update_outbound_after_dispatch_quiet ..

theorem outbound_send_quiet {ctx : Ctx} {message : Message} {channel_id : String}
    {request_text : Option String} {bytes : Except String (List UInt8)} {dispatched : Dispatched}
    (h : outbound_send ctx inner message channel_id request_text bytes = .inl dispatched) :
    dispatched.inner.profile_book = inner.profile_book := by
  unfold outbound_send at h
  dsimp only at h
  repeat' split at h
  all_goals cases h
  · exact update_outbound_after_dispatch_quiet ..
  · exact update_outbound_after_dispatch_quiet ..
  · rfl

theorem dispatch_prepared_message_quiet (ctx : Ctx) (outcome : SendMessageOutcome)
    (request_text : Option String) (answers : DispatchAnswers) :
    (dispatch_prepared_message ctx inner outcome request_text answers).inner.profile_book =
      inner.profile_book := by
  unfold dispatch_prepared_message
  split
  · rfl
  · dsimp only
    refine .trans ?_ (reconcile_channel_runtime_status_quiet ctx
      (dispatch_channel inner outcome.message) answers.reconciled)
    split
    · exact update_outbound_after_dispatch_quiet ..
    · split
      · exact update_outbound_after_dispatch_quiet ..
      · split
        · next hsend => exact outbound_send_quiet hsend
        · exact store_send_result_quiet ..

theorem process_outbound_send_request_quiet (ctx : Ctx) (event : CommonEvent) (answers : DispatchAnswers) :
    (process_outbound_send_request ctx inner event answers).inner.profile_book = inner.profile_book := by
  rcases process_outbound_send_request_cases ctx inner event answers with
    ⟨-, hinner⟩ | ⟨message_id, message, -, -, -, -, -, heq⟩
  · rw [hinner]
  · rw [heq]
    exact dispatch_prepared_message_quiet ..

theorem set_transcript_lifecycle_quiet (ctx : Ctx) (message : Message) (media : MediaObject)
    (lifecycle : TranscriptLifecycle) (text : Option String) :
    (set_transcript_lifecycle ctx inner message media lifecycle text).2.profile_book = inner.profile_book := by
  unfold set_transcript_lifecycle
  dsimp only
  split <;> rfl

theorem set_completed_groq_transcript_quiet (ctx : Ctx) (message : Message) (media : MediaObject)
    (result : GroqTranscription) :
    (set_completed_groq_transcript ctx inner message media result).2.profile_book = inner.profile_book := by
  unfold set_completed_groq_transcript
  rfl

theorem transcribe_quiet (self : AppState) (ctx : Ctx) (message : Message) (media_id : String)
    (media : MediaObject) (answers : TranscriptionAnswers) :
    (transcribe self ctx inner message media_id media answers).2.profile_book = inner.profile_book := by
  unfold transcribe
  dsimp only
  split
  · exact set_transcript_lifecycle_quiet ..
  · split
    · exact set_transcript_lifecycle_quiet ..
    · refine .trans ?_ (set_transcript_lifecycle_quiet ctx message media .Processing none)
      split
      · exact set_transcript_lifecycle_quiet ..
      · exact set_transcript_lifecycle_quiet ..
      · split
        · exact set_completed_groq_transcript_quiet ..
        · exact set_transcript_lifecycle_quiet ..

theorem process_transcription_request_quiet (self : AppState) (ctx : Ctx) (event : CommonEvent)
    (answers : TranscriptionAnswers) :
    (process_transcription_request self ctx inner event answers).2.profile_book = inner.profile_book := by
  unfold process_transcription_request
  repeat' split
  all_goals first
    | rfl
    | exact transcribe_quiet ..

theorem record_inbound_media_object_quiet (self : AppState) (ctx : Ctx) (input : InboundMediaRecordInput) :
    (record_inbound_media_object self ctx inner input).2.profile_book = inner.profile_book := by
  have hpublished : ∀ mid message media,
      (publish_media_stored ctx mid input message media).profile_book = mid.profile_book := by
    intro mid message media
    unfold publish_media_stored
    split <;> rfl
  have hrequested : ∀ mid message media,
      (request_inbound_transcript ctx mid input message media).profile_book = mid.profile_book := by
    intro mid message media
    unfold request_inbound_transcript
    split <;> rfl
  unfold record_inbound_media_object
  dsimp only
  rw [hrequested, hpublished, attach_media_to_message_inner_quiet]
  rfl

theorem store_downloaded_inbound_media_quiet (self : AppState) (runtime : ChannelRuntime)
    (message : Message) (conversation_id : String) (descriptor : InboundMediaDescriptor)
    (bytes : List UInt8) (answers : InboundMediaAnswers) :
    (store_downloaded_inbound_media self inner runtime message conversation_id descriptor bytes
      answers).2.profile_book = inner.profile_book := by
  unfold store_downloaded_inbound_media
  split
  · rfl
  · dsimp only
    split
    · rw [record_inbound_media_object_quiet]
    · split
      · rfl
      · split
        · rfl
        · split
          · rfl
          · rw [record_inbound_media_object_quiet]

theorem process_message_media_quiet (self : AppState) (ctx : Ctx) (runtime : ChannelRuntime)
    (event : MessageEvent) (message : Message) (descriptor : InboundMediaDescriptor)
    (answers : InboundMediaAnswers) :
    (process_message_media self ctx inner runtime event message descriptor answers).profile_book =
      inner.profile_book := by
  have hstored : ∀ mid, (download_and_store_inbound_media self mid runtime message event.chat_jid descriptor
      answers).2.profile_book = mid.profile_book := by
    intro mid
    unfold download_and_store_inbound_media
    split
    · dsimp only
      rw [record_inbound_media_object_quiet]
    · split
      · rfl
      · exact store_downloaded_inbound_media_quiet ..
  have hrequested : (push_event_inner inner (channel_event ctx 8 "media.download.requested" runtime
      event.chat_jid message (.object [("message_id", .string message.id),
        ("media", descriptor.to_json)]))).profile_book = inner.profile_book := rfl
  unfold process_message_media
  dsimp only
  split
  · exact (hstored _).trans hrequested
  · exact (hstored _).trans hrequested

end Quiet

end rustzap.state
