import RustZap.State.Service

open collections runs
open rustzap.models rustzap.whatsapp

namespace rustzap.state

/-- An operation that handles the connection of the channel. -/
def Operation.Connects (channel_id : String) : Operation → Prop
  | .store (.process_whatsapp_event runtime _ .Connected) => runtime.channel_id = channel_id
  | _ => False

/-- The connection that the messages of a channel are measured against is the same as
before, or there is none any more. -/
def ConnectionStays (channel_id : String) (inner inner' : StoreInner) : Prop :=
  channel_connected_at inner' channel_id = channel_connected_at inner channel_id ∨
    channel_connected_at inner' channel_id = none

section Connections

variable {ctx : Ctx} {inner mid inner' : StoreInner} {channel_id : String}

theorem ConnectionStays.of_channels (h : inner'.channels = inner.channels) :
    ConnectionStays channel_id inner inner' := by
  left
  rw [channel_connected_at, h, channel_connected_at]

theorem ConnectionStays.trans (h : ConnectionStays channel_id inner mid)
    (h' : ConnectionStays channel_id mid inner') : ConnectionStays channel_id inner inner' := by
  rcases h' with h' | h'
  · rcases h with h | h
    · exact Or.inl (h'.trans h)
    · exact Or.inr (h'.trans h)
  · exact Or.inr h'

/-- A channel's record is replaced by one with the same connection or with none. -/
theorem ConnectionStays.insert {key : String} {channel : ChannelRecord}
    (h : inner'.channels = inner.channels.insert key channel)
    (hconnected : channel.connected_at = channel_connected_at inner key ∨ channel.connected_at = none) :
    ConnectionStays channel_id inner inner' := by
  rw [ConnectionStays, channel_connected_at, h, HashMap.lookup_insert_ite]
  split
  · next hkey =>
    rw [Option.bind_some, hkey]
    exact hconnected
  · exact Or.inl rfl

theorem set_channel_status_stays (ctx : Ctx) (inner : StoreInner) (key status : String)
    (hstatus : status ≠ "connected") :
    ConnectionStays channel_id inner (set_channel_status ctx inner key status none) :=
  .insert rfl (Or.inr (if_pos hstatus))

theorem Recorded.channels_eq {message : Message} (h : Recorded ctx inner message inner') :
    inner'.channels = inner.channels := by
  obtain ⟨conversation, contacts, group_members, events, -, rfl⟩ := h
  rfl

theorem record_message_inner_channels (ctx : Ctx) (inner : StoreInner) (input : RecordMessageInput) :
    (record_message_inner ctx inner input).2.channels = inner.channels :=
  (record_message_inner_recorded ctx inner input).channels_eq

theorem record_whatsapp_message_channels (ctx : Ctx) (inner : StoreInner) (input : WhatsappMessageInput) :
    (record_whatsapp_message ctx inner input).2.channels = inner.channels := by
  rcases record_whatsapp_message_cases ctx inner input with ⟨existing, -, heq⟩ | ⟨-, heq⟩
  · rw [heq]
  · rw [heq]
    exact (input.record_recorded ctx inner).channels_eq

theorem attach_media_to_message_inner_channels (now : OffsetDateTime) (inner : StoreInner)
    (message_id : String) (media : MediaObject) :
    (attach_media_to_message_inner now inner message_id media).2.channels = inner.channels := by
  unfold attach_media_to_message_inner
  split <;> rfl

theorem prepare_send_message_with_actor_channels (self : AppState) (ctx : Ctx) (inner : StoreInner)
    (project_id company_id conversation_id idempotency_key : String) (request : SendMessageRequest)
    (actor : Option String) :
    (prepare_send_message_with_actor self ctx inner project_id company_id conversation_id idempotency_key
      request actor).2.channels = inner.channels := by
  have hlinked : ∀ (s : StoreInner) message media,
      (link_media ctx s message media).2.channels = s.channels := by
    intro s message media
    unfold link_media
    dsimp only
    rw [attach_media_to_message_inner_channels]
    split <;> rfl
  have hqueued : ∀ conversation_id media, (queue_outbound ctx inner project_id company_id conversation_id
      request actor media).2.channels = inner.channels := by
    intro conversation_id media
    unfold queue_outbound
    cases media with
    | none => exact record_message_inner_channels ctx inner _
    | some media => exact (hlinked _ _ _).trans (record_message_inner_channels ctx inner _)
  unfold prepare_send_message_with_actor
  dsimp only
  split
  · rfl
  · split
    · rfl
    · next media hmedia =>
      exact hqueued _ media

theorem upload_outbound_media_channels (self : AppState) (ctx : Ctx) (inner : StoreInner)
    (project_id company_id : String) (upload : OutboundMediaUpload) (answers : UploadAnswers) :
    (upload_outbound_media self ctx inner project_id company_id upload answers).2.channels =
      inner.channels := by
  have hensured : ∀ conversation_id channel_id control_mode,
      (ensure_conversation_inner ctx inner project_id company_id conversation_id channel_id
        control_mode).channels = inner.channels := by
    intro conversation_id channel_id control_mode
    unfold ensure_conversation_inner
    dsimp only
    split
    · rfl
    · split
      · rfl
      · obtain ⟨contacts, hupserted⟩ := upsert_contact_inner_frame inner
          { project_id, company_id, channel_id := some channel_id, contact_id := conversation_id,
            push_name := none, profile_picture_url := none, now := ctx.now }
        rw [hupserted]
  unfold upload_outbound_media
  dsimp only
  repeat' split
  all_goals first
    | rfl
    | exact hensured _ _ _

theorem update_outbound_after_dispatch_channels (ctx : Ctx) (inner : StoreInner) (message_id : String)
    (wa_message_id : Option String) (status : String) (error_message : Option String) :
    (update_outbound_after_dispatch ctx inner message_id wa_message_id status error_message).2.channels =
      inner.channels := by
  unfold update_outbound_after_dispatch
  split <;> rfl

theorem update_receipt_with_context_channels (self : AppState) (ctx : Ctx) (inner : StoreInner)
    (message_id receipt_type : String) (created_at_wa : Option OffsetDateTime) :
    (update_receipt_with_context self ctx inner message_id receipt_type created_at_wa).2.channels =
      inner.channels := by
  unfold update_receipt_with_context
  split <;> rfl

theorem apply_receipts_channels (self : AppState) (receipt_type : String) (created_at_wa : OffsetDateTime)
    (wa_message_ids : List String) (ctx : Ctx) (inner : StoreInner) :
    (apply_receipts self receipt_type created_at_wa ctx inner wa_message_ids).channels = inner.channels := by
  induction wa_message_ids generalizing ctx inner with
  | nil => rfl
  | cons wa_message_id rest ih =>
    rw [apply_receipts, ih, update_receipt_by_wa_id_with_context]
    split
    · rfl
    · exact update_receipt_with_context_channels ..

/-- A dispatch notes at most that the channel is not connected any more. -/
theorem dispatch_prepared_message_stays (ctx : Ctx) (inner : StoreInner) (outcome : SendMessageOutcome)
    (request_text : Option String) (answers : DispatchAnswers) :
    ConnectionStays channel_id inner
      (dispatch_prepared_message ctx inner outcome request_text answers).inner := by
  have hreconciled : ∀ key connected,
      ConnectionStays channel_id inner (reconcile_channel_runtime_status ctx inner key connected) := by
    intro key connected
    unfold reconcile_channel_runtime_status
    repeat' split
    · exact .of_channels rfl
    · exact .of_channels rfl
    · exact .of_channels rfl
    · exact .insert rfl (Or.inr rfl)
  have hmarked : ∀ (s : StoreInner) key, ConnectionStays channel_id s (mark_channel_disconnected ctx s key) :=
    fun s key => (set_channel_status_stays ctx s key "disconnected" (by decide)).trans (.of_channels rfl)
  have hstored : ∀ (s : StoreInner) id wa status error send, ConnectionStays channel_id s
      (Dispatched.store ctx s id wa status error send).inner :=
    fun s id wa status error send => .of_channels (update_outbound_after_dispatch_channels ..)
  have hanswered : ∀ (s : StoreInner) id key send answer,
      ConnectionStays channel_id s (store_send_result ctx s id key send answer).inner := by
    intro s id key send answer
    cases answer with
    | sent wa => exact hstored ..
    | timed_out => exact hstored ..
    | refused error =>
      refine .trans ?_ (hstored _ _ _ _ _ _)
      split
      · exact hmarked s key
      · exact .of_channels rfl
  unfold dispatch_prepared_message
  split
  · exact .of_channels rfl
  · dsimp only
    refine (hreconciled (dispatch_channel inner outcome.message) answers.reconciled).trans ?_
    split
    · exact hstored ..
    · split
      · exact (hmarked _ _).trans (hstored _ _ _ _ _ _)
      · split
        · next dispatched hsend =>
          cases outbound_send_end answers hsend with
          | unanswered _ hinner => exact .of_channels (congrArg StoreInner.channels hinner)
          | failed error _ hinner =>
            rw [hinner]
            exact .of_channels (update_outbound_after_dispatch_channels ..)
          | sent wa _ _ hinner =>
            rw [hinner]
            exact .of_channels (update_outbound_after_dispatch_channels ..)
        · exact hanswered ..

theorem process_outbound_send_request_stays (ctx : Ctx) (inner : StoreInner) (event : CommonEvent)
    (answers : DispatchAnswers) :
    ConnectionStays channel_id inner (process_outbound_send_request ctx inner event answers).inner := by
  rcases process_outbound_send_request_cases ctx inner event answers with
    ⟨-, hinner⟩ | ⟨message_id, message, -, -, -, -, -, heq⟩
  · exact .of_channels (congrArg StoreInner.channels hinner)
  · rw [heq]
    exact dispatch_prepared_message_stays ..

theorem process_transcription_request_channels (self : AppState) (ctx : Ctx) (inner : StoreInner)
    (event : CommonEvent) (answers : TranscriptionAnswers) :
    (process_transcription_request self ctx inner event answers).2.channels = inner.channels := by
  have hlifecycle : ∀ (c : Ctx) (s : StoreInner) message media lifecycle text,
      (set_transcript_lifecycle c s message media lifecycle text).2.channels = s.channels := by
    intro c s message media lifecycle text
    unfold set_transcript_lifecycle
    dsimp only
    split <;> rfl
  have hcompleted : ∀ (c : Ctx) (s : StoreInner) message media result,
      (set_completed_groq_transcript c s message media result).2.channels = s.channels :=
    fun _ _ _ _ _ => rfl
  have htranscribed : ∀ message media_id media,
      (transcribe self ctx inner message media_id media answers).2.channels = inner.channels := by
    intro message media_id media
    unfold transcribe
    dsimp only
    repeat' split
    · exact hlifecycle ..
    · exact hlifecycle ..
    · exact (hlifecycle ..).trans (hlifecycle ..)
    · exact (hlifecycle ..).trans (hlifecycle ..)
    · exact (hcompleted ..).trans (hlifecycle ..)
    · exact (hlifecycle ..).trans (hlifecycle ..)
  unfold process_transcription_request
  repeat' split
  all_goals first
    | rfl
    | exact htranscribed _ _ _

theorem record_inbound_media_object_channels (self : AppState) (ctx : Ctx) (inner : StoreInner)
    (input : InboundMediaRecordInput) :
    (record_inbound_media_object self ctx inner input).2.channels = inner.channels := by
  unfold record_inbound_media_object request_inbound_transcript publish_media_stored
  dsimp only
  split <;> split <;> exact attach_media_to_message_inner_channels ..

theorem download_and_store_inbound_media_channels (self : AppState) (inner : StoreInner)
    (runtime : ChannelRuntime) (message : Message) (conversation_id : String)
    (descriptor : InboundMediaDescriptor) (answers : InboundMediaAnswers) :
    (download_and_store_inbound_media self inner runtime message conversation_id descriptor
      answers).2.channels = inner.channels := by
  have hstored : ∀ bytes, (store_downloaded_inbound_media self inner runtime message conversation_id
      descriptor bytes answers).2.channels = inner.channels := by
    intro bytes
    unfold store_downloaded_inbound_media
    dsimp only
    split
    · rfl
    · split
      · simp only [record_inbound_media_object_channels]
      · cases answers.staged with
        | error err => rfl
        | ok _ =>
          dsimp only
          split
          · rfl
          · cases answers.put with
            | error err => rfl
            | ok _ => simp only [record_inbound_media_object_channels]
  unfold download_and_store_inbound_media
  dsimp only
  split
  · simp only [record_inbound_media_object_channels]
  · cases answers.download with
    | error err => rfl
    | ok bytes => exact hstored bytes

theorem process_message_event_channels (self : AppState) (ctx : Ctx) (inner : StoreInner)
    (runtime : ChannelRuntime) (event : MessageEvent) (answers : InboundMediaAnswers) :
    (process_message_event self ctx inner runtime event answers).2.channels = inner.channels := by
  have hmedia : ∀ (s : StoreInner) message descriptor,
      (process_message_media self ctx s runtime event message descriptor answers).channels = s.channels := by
    intro s message descriptor
    unfold process_message_media
    dsimp only
    split <;> exact download_and_store_inbound_media_channels ..
  have hspawned : ∀ s : StoreInner, (spawn_enrichment ctx s runtime event).2.channels = s.channels := by
    intro s
    obtain ⟨contacts, refreshes, heq⟩ := spawn_enrichment_frame ctx s runtime event
    rw [heq]
  unfold process_message_event
  split
  · rfl
  · rw [hspawned]
    split
    · exact (hmedia _ _ _).trans (record_whatsapp_message_channels ..)
    · exact record_whatsapp_message_channels ..

theorem apply_group_profile_channels (self : AppState) (ctx : Ctx) (inner : StoreInner)
    (project_id company_id channel_id group_id : String) (profile : GroupProfile) :
    (apply_group_profile self ctx inner project_id company_id channel_id group_id profile).channels =
      inner.channels := by
  have hparticipants : ∀ (participants : List GroupParticipantProfile) (s : StoreInner),
      (participants.foldl (apply_group_participant ctx project_id company_id channel_id group_id
        profile.owner_jid) s).channels = s.channels := by
    intro participants
    induction participants with
    | nil => intro s; rfl
    | cons participant rest ih =>
      intro s
      rw [List.foldl_cons, ih]
      unfold apply_group_participant upsert_group_member_metadata_inner
      dsimp only
      split
      · next phone_jid hphone =>
        obtain ⟨contacts, hupserted⟩ := upsert_contact_with_alt_inner_frame s
          { contact :=
              { project_id, company_id, channel_id := some channel_id,
                contact_id := participant.contact_id, push_name := none, profile_picture_url := none,
                now := ctx.now }
            alt_jid := some phone_jid }
        rw [hupserted]
      · rfl
  exact hparticipants profile.participants _

theorem apply_contact_profile_channels (ctx : Ctx) (inner : StoreInner) (input : ContactProfileApplyInput) :
    (apply_contact_profile ctx inner input).channels = inner.channels := by
  obtain ⟨contacts, henriched⟩ := enrich_contact_inner_frame inner
    { project_id := input.project_id, company_id := input.company_id,
      channel_id := some input.channel_id, contact_id := input.contact_id, push_name := input.push_name,
      profile := input.profile, now := ctx.now,
      profile_lookup_succeeded := input.profile_lookup_succeeded }
  unfold apply_contact_profile
  dsimp only
  rw [henriched]
  rfl

theorem process_group_update_channels (self : AppState) (ctx : Ctx) (inner : StoreInner)
    (runtime : ChannelRuntime) (group_jid : String) (subject : Option String)
    (created_at_wa : OffsetDateTime) :
    (process_group_update self ctx inner runtime group_jid subject created_at_wa).2.channels =
      inner.channels := by
  have hspawned : ∀ s : StoreInner,
      (spawn_group_enrichment ctx s runtime group_jid true).2.channels = s.channels := by
    intro s
    obtain ⟨refreshes, heq⟩ := spawn_group_enrichment_frame ctx s runtime group_jid true
    rw [heq]
  unfold process_group_update
  split
  · rfl
  · rw [hspawned]
    cases subject with
    | none => rfl
    | some subject =>
      unfold apply_group_subject
      dsimp only
      split <;> rfl

/-- Besides the handling of a connection, an event leaves the connection as it is or
takes it away. -/
theorem process_whatsapp_event_stays (self : AppState) (ctx : Ctx) (inner : StoreInner)
    (runtime : ChannelRuntime) (answers : EventAnswers) (event : WhatsappEvent)
    (hconnects : event = .Connected → runtime.channel_id ≠ channel_id) :
    ConnectionStays channel_id inner (process_whatsapp_event self ctx inner runtime answers event).2 := by
  have hstatus : ∀ (s : StoreInner) status, status ≠ "connected" → ConnectionStays channel_id s
      (set_channel_status ctx s runtime.channel_id status none) :=
    fun s status => set_channel_status_stays ctx s runtime.channel_id status
  cases event with
  | PairingQrCode code timeout_secs =>
    exact (hstatus inner "waiting_qr" (by decide)).trans (.of_channels rfl)
  | Connected =>
    left
    rw [channel_connected_at, channel_connected_at]
    have hother : channel_id ≠ runtime.channel_id := (hconnects rfl).symm
    have hchannels : (process_whatsapp_event self ctx inner runtime answers
        .Connected).2.channels.lookup channel_id = inner.channels.lookup channel_id :=
      AList.lookup_insert_ne hother
    rw [hchannels]
  | Disconnected =>
    dsimp only [process_whatsapp_event]
    refine .trans ?_ (.of_channels rfl)
    split
    · exact .of_channels rfl
    · exact hstatus inner "disconnected" (by decide)
  | LoggedOut reason => exact (hstatus inner "logged_out" (by decide)).trans (.of_channels rfl)
  | HistorySyncIgnored => exact .of_channels rfl
  | Message event =>
    dsimp only [process_whatsapp_event]
    exact .of_channels (process_message_event_channels ..)
  | Receipt event =>
    refine .of_channels ?_
    dsimp only [process_whatsapp_event]
    unfold process_receipt_event
    split
    · rfl
    · exact apply_receipts_channels ..
  | GroupUpdate group_jid subject created_at_wa =>
    dsimp only [process_whatsapp_event]
    exact .of_channels (process_group_update_channels ..)
  | Diagnostic event_type payload =>
    dsimp only [process_whatsapp_event]
    unfold process_diagnostic
    dsimp only
    have hfailure : ConnectionStays channel_id inner
        (if event_type = "channel.connect_failure" then
          set_qr (set_channel_status ctx inner runtime.channel_id
            (if str.contains (((payload.get "reason").bind serde_json.Value.as_str).getD "") "LoggedOut" then
              "logged_out" else "disconnected") none) runtime.channel_id
            (if str.contains (((payload.get "reason").bind serde_json.Value.as_str).getD "") "LoggedOut" then
              "logged_out" else "disconnected") none ctx.now
        else inner) := by
      split
      · refine (hstatus inner _ ?_).trans (.of_channels rfl)
        split <;> decide
      · exact .of_channels rfl
    refine hfailure.trans (.of_channels ?_)
    split <;> rfl

theorem StoreOp.apply_stays (self : AppState) (ctx : Ctx) (inner : StoreInner) (op : StoreOp)
    (hconnects : ¬ (Operation.store op).Connects channel_id) :
    ConnectionStays channel_id inner (op.apply self ctx inner) := by
  cases op with
  | create_channel project company id label phone =>
    unfold StoreOp.apply state.create_channel
    dsimp only
    split
    · next existing hexisting =>
      split
      · exact .of_channels rfl
      · refine .insert rfl (Or.inl ?_)
        rw [channel_connected_at, hexisting, Option.bind_some]
    · exact .insert rfl (Or.inr rfl)
  | receive_inbound_text project company request => exact .of_channels (record_message_inner_channels ..)
  | prepare_send_message_with_actor project company conversation key request actor =>
    exact .of_channels (prepare_send_message_with_actor_channels ..)
  | upload_outbound_media project company upload answers =>
    exact .of_channels (upload_outbound_media_channels ..)
  | mark_read project company conversation =>
    refine .of_channels ?_
    unfold StoreOp.apply state.mark_read
    dsimp only
    split <;> rfl
  | patch_conversation_metadata project company conversation body =>
    refine .of_channels ?_
    unfold StoreOp.apply state.patch_conversation_metadata
    dsimp only
    repeat' split
    all_goals rfl
  | update_receipt message receipt_type => exact .of_channels (update_receipt_with_context_channels ..)
  | update_outbound_after_dispatch message wa_message_id status error_message =>
    exact .of_channels (update_outbound_after_dispatch_channels ..)
  | process_outbound_send_request event answers => exact process_outbound_send_request_stays ..
  | process_transcription_request event answers =>
    exact .of_channels (process_transcription_request_channels ..)
  | process_whatsapp_event runtime answers event =>
    refine process_whatsapp_event_stays self ctx inner runtime answers event ?_
    rintro rfl hchannel
    exact hconnects hchannel
  | list_dirty project company consumer limit => exact .of_channels rfl
  | ack_dirty project company conversation request =>
    refine .of_channels ?_
    unfold StoreOp.apply state.ack_dirty acked
    dsimp only
    repeat' split
    all_goals rfl
  | apply_contact_profile input => exact .of_channels (apply_contact_profile_channels ..)
  | record_contact_profile_lookup_failure project company contact =>
    refine .of_channels ?_
    unfold StoreOp.apply state.record_contact_profile_lookup_failure
    dsimp only
    split <;> rfl
  | apply_group_profile project company channel group profile =>
    exact .of_channels (apply_group_profile_channels ..)

theorem try_receive_inbound_media_channels (self : AppState) (ctx : Ctx) (inner : StoreInner)
    (project_id company_id : String) (request : SimulateInboundMediaRequest)
    (answers : SimulatedMediaAnswers) :
    (try_receive_inbound_media self ctx inner project_id company_id request answers).2.channels =
      inner.channels := by
  have hattached : ∀ (s : StoreInner) channel_id message media,
      (attach_simulated_media ctx s project_id company_id channel_id message media).2.channels =
        s.channels := by
    intro s channel_id message media
    unfold attach_simulated_media
    dsimp only
    split <;> exact attach_media_to_message_inner_channels ..
  have hrecorded := record_message_inner_channels ctx inner
    (SimulateInboundMediaRequest.message_input request project_id company_id)
  unfold try_receive_inbound_media
  dsimp only
  split
  · exact hrecorded
  · exact (hattached _ _ _ _).trans hrecorded

theorem update_media_channels (inner : StoreInner) (media_id : String) (change : MediaObject → MediaObject) :
    (update_media inner media_id change).2.channels = inner.channels := by
  unfold update_media
  split <;> rfl

/-- Whatever happens besides, a channel keeps the connection it has until the next one
is handled, or is noted to have none. -/
theorem Operation.apply_stays (self : AppState) (ctx : Ctx) (inner : StoreInner) (op : Operation)
    (hconnects : ¬ op.Connects channel_id) : ConnectionStays channel_id inner (op.apply self ctx inner) := by
  cases op with
  | store op => exact op.apply_stays self ctx inner hconnects
  | try_receive_inbound_media project company request answers =>
    exact .of_channels (try_receive_inbound_media_channels ..)
  | set_message_flag message flag value =>
    refine .of_channels ?_
    unfold Operation.apply state.set_message_flag
    dsimp only
    split <;> rfl
  | react_to_message message emoji answer =>
    refine .of_channels ?_
    unfold Operation.apply state.react_to_message set_message_reaction
    dsimp only
    repeat' split
    all_goals rfl
  | request_transcript project company message =>
    refine .of_channels ?_
    unfold Operation.apply state.request_transcript
    dsimp only
    repeat' split
    all_goals rfl
  | begin_upload idem_key request_hash =>
    refine .of_channels ?_
    unfold Operation.apply state.begin_upload
    dsimp only
    repeat' split
    all_goals rfl
  | finish_upload idem_key request_hash media_result =>
    refine .of_channels ?_
    unfold Operation.apply state.finish_upload
    dsimp only
    repeat' split
    all_goals rfl
  | store_profile_picture_media_bytes project company channel entity_type entity_id bytes put =>
    refine .of_channels ?_
    unfold Operation.apply state.store_profile_picture_media_bytes
    dsimp only
    repeat' split
    all_goals rfl
  | save_media_with_permanent_object_key media entity_type entity_id permanent_object_key =>
    exact .of_channels (update_media_channels ..)
  | delete_media_for_company project company media =>
    refine .of_channels ?_
    unfold Operation.apply state.delete_media_for_company
    dsimp only
    split
    · rfl
    · exact update_media_channels ..
  | anonymize_contact project company contact delete_messages =>
    refine .of_channels ?_
    unfold Operation.apply state.anonymize_contact
    dsimp only
    split <;> rfl
  | remove_expired message_ids media_ids => exact .of_channels rfl
  | expire_transcripts project company cutoff => exact .of_channels rfl
  | redact_transcripts project company => exact .of_channels rfl
  | restart => exact .of_channels rfl

end Connections

theorem channel_connected_at_reordered {inner inner' : StoreInner} (h : inner.Reordered inner')
    (channel_id : String) : channel_connected_at inner' channel_id = channel_connected_at inner channel_id := by
  rw [channel_connected_at, ← h.channels.lookup, channel_connected_at]

/-- No connection of the channel is handled in the step. -/
def NoNewConnection (channel_id : String) (_ : Store) (label : Ctx × Operation) : Prop :=
  ¬ label.2.Connects channel_id

/-- Between one connection of a channel and the next, the channel is noted as connected
since the first one, or not at all. -/
theorem connection_stays_in_run {self : AppState} {channel_id : String} {start store : Store}
    {labels : List (Ctx × Operation)}
    (hrun : Run (Guarded (Store.Next self) (NoNewConnection channel_id)) start labels store) :
    ConnectionStays channel_id start.inner store.inner := by
  have hstep : ∀ s label t, ConnectionStays channel_id start.inner s.inner →
      Guarded (Store.Next self) (NoNewConnection channel_id) s label t →
      ConnectionStays channel_id start.inner t.inner := by
    intro s label t hstays hguarded
    refine hstays.trans ?_
    have happlied := label.2.apply_stays self label.1 s.inner hguarded.1
    rw [ConnectionStays, channel_connected_at_reordered hguarded.2]
    exact happlied
  exact hrun.invariant hstep (Or.inl rfl)

theorem connected_noted (self : AppState) (ctx : Ctx) (inner : StoreInner) (runtime : ChannelRuntime)
    (answers : EventAnswers) :
    channel_connected_at (process_whatsapp_event self ctx inner runtime answers .Connected).2
      runtime.channel_id = some ctx.now := by
  have hchannels : (process_whatsapp_event self ctx inner runtime answers
      .Connected).2.channels.lookup runtime.channel_id = some _ := AList.lookup_insert _
  rw [channel_connected_at, hchannels]
  rfl

end rustzap.state
