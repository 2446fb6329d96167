import RustZap.State.Operations
import RustZap.State.Retention

open collections serde_json runs
open rustzap.error rustzap.models rustzap.whatsapp

namespace rustzap.state

/-- Everything that can happen to the store between its first start and any later
state: the operations of the service, its maintenance, and a restart from a
snapshot. An upload under an idempotency key shows as its first and its last
section, around the `upload_outbound_media` of the store's operations, and the
retention as its three sections, so that anything may come in between. -/
inductive Operation where
  | store (op : StoreOp)
  | try_receive_inbound_media (project_id company_id : String) (request : SimulateInboundMediaRequest)
      (answers : SimulatedMediaAnswers)
  | set_message_flag (message_id flag : String) (value : Bool)
  | react_to_message (message_id : String) (emoji : Option String) (answer : ReactionAnswer)
  | request_transcript (project_id company_id message_id : String)
  | begin_upload (idem_key : String × String × String) (request_hash : String)
  | finish_upload (idem_key : String × String × String) (request_hash : String)
      (media_result : ApiResult MediaObject)
  | store_profile_picture_media_bytes
      (project_id company_id channel_id entity_type entity_id : String) (bytes : List UInt8)
      (put : Except String Unit)
  | save_media_with_permanent_object_key (media_id entity_type entity_id : String)
      (permanent_object_key : Option String)
  | delete_media_for_company (project_id company_id media_id : String)
  | anonymize_contact (project_id company_id contact_id : String) (delete_messages : Bool)
  | remove_expired (message_ids media_ids : List String)
  | expire_transcripts (project_id company_id : String) (cutoff : OffsetDateTime)
  | redact_transcripts (project_id company_id : String)
  | restart

/-- The store that a service finds after a restart. -/
def restarted (inner : StoreInner) : StoreInner :=
  (PersistedStore.from_inner inner).into_inner

def Operation.apply (self : AppState) (ctx : Ctx) (inner : StoreInner) : Operation → StoreInner
  | .store op => op.apply self ctx inner
  | .try_receive_inbound_media project company request answers =>
    (state.try_receive_inbound_media self ctx inner project company request answers).2
  | .set_message_flag message flag value => (state.set_message_flag ctx inner message flag value).2
  | .react_to_message message emoji answer => (state.react_to_message ctx inner message emoji answer).2
  | .request_transcript project company message =>
    (state.request_transcript ctx inner project company message).2
  | .begin_upload idem_key request_hash => (state.begin_upload inner idem_key request_hash).2
  | .finish_upload idem_key request_hash media_result =>
    (state.finish_upload inner idem_key request_hash media_result).2
  | .store_profile_picture_media_bytes project company channel entity_type entity_id bytes put =>
    (state.store_profile_picture_media_bytes self ctx inner project company channel entity_type entity_id
      bytes put).2
  | .save_media_with_permanent_object_key media entity_type entity_id permanent_object_key =>
    (state.save_media_with_permanent_object_key self ctx inner media entity_type entity_id
      permanent_object_key).2
  | .delete_media_for_company project company media =>
    (state.delete_media_for_company ctx inner project company media).2
  | .anonymize_contact project company contact delete_messages =>
    (state.anonymize_contact self ctx inner project company contact delete_messages).2
  | .remove_expired message_ids media_ids => state.remove_expired inner message_ids media_ids
  | .expire_transcripts project company cutoff => state.expire_transcripts inner project company cutoff
  | .redact_transcripts project company => state.redact_transcripts ctx.now inner project company
  | .restart => restarted inner

/-- The changes that record no message. Those of the operations on the dirty queue may
give out leases and take acks. -/
def Effects.quiet (on_queue : Prop) : Effects where
  gives _ _ := True
  acks := on_queue
  polls := on_queue

/-- Either nothing has happened yet, or a message has been recorded. -/
def RecordsFirst (ctx : Ctx) (inner mid : StoreInner) : Prop :=
  mid = inner ∨ ∃ message, Recorded ctx inner message mid ∧ NewMessage ctx inner message

/-- Whatever an operation records, it records first: the rest of it are changes
that record nothing. -/
def Recording (ctx : Ctx) (on_queue : Prop) (inner inner' : StoreInner) : Prop :=
  ∃ mid, RecordsFirst ctx inner mid ∧ Changes ctx (.quiet on_queue) mid inner'

theorem Recording.of_changes {ctx : Ctx} {on_queue : Prop} {inner inner' : StoreInner}
    (h : Changes ctx (.quiet on_queue) inner inner') : Recording ctx on_queue inner inner' :=
  ⟨inner, Or.inl rfl, h⟩

section Recording

variable {ctx : Ctx} {on_queue : Prop} {inner : StoreInner}

theorem record_message_inner_records_first (input : RecordMessageInput) :
    RecordsFirst ctx inner (record_message_inner ctx inner input).2 :=
  Or.inr ⟨_, record_message_inner_recorded ctx inner input,
    record_message_inner_new_message ctx inner input⟩

theorem record_whatsapp_message_records_first (input : WhatsappMessageInput) :
    RecordsFirst ctx inner (record_whatsapp_message ctx inner input).2 := by
  rcases record_whatsapp_message_cases ctx inner input with ⟨existing, -, heq⟩ | ⟨hnone, heq⟩
  · rw [heq]
    exact Or.inl rfl
  · rw [heq]
    exact Or.inr ⟨_, input.record_recorded ctx inner, WhatsappMessageInput.record_new_message ctx hnone⟩

theorem queue_outbound_records (project_id company_id conversation_id : String)
    (request : SendMessageRequest) (actor : Option String) (media : Option MediaObject) :
    Recording ctx on_queue inner
      (queue_outbound ctx inner project_id company_id conversation_id request actor media).2 := by
  unfold queue_outbound
  cases media with
  | none => exact ⟨_, record_message_inner_records_first _, .refl⟩
  | some media => exact ⟨_, record_message_inner_records_first _, link_media_changes ..⟩

theorem prepare_send_message_with_actor_records (self : AppState)
    (project_id company_id conversation_id idempotency_key : String) (request : SendMessageRequest)
    (actor : Option String) :
    Recording ctx on_queue inner (prepare_send_message_with_actor self ctx inner project_id company_id
      conversation_id idempotency_key request actor).2 := by
  unfold prepare_send_message_with_actor
  dsimp only
  split
  · exact .of_changes .refl
  · split
    · exact .of_changes .refl
    · obtain ⟨mid, hmid, hchanges⟩ := queue_outbound_records _ _ _ _ _ _
      exact ⟨mid, hmid, hchanges.then_aside (by constructor <;> rfl)⟩

theorem process_whatsapp_event_records (self : AppState) (runtime : ChannelRuntime)
    (answers : EventAnswers) (event : WhatsappEvent) :
    Recording ctx on_queue inner (process_whatsapp_event self ctx inner runtime answers event).2 := by
  by_cases hevent : ∃ message, event = .Message message
  · obtain ⟨message, rfl⟩ := hevent
    dsimp only [process_whatsapp_event]
    cases hignored : ignored_message_event self ctx inner runtime message with
    | some ignored =>
      unfold process_message_event
      rw [hignored]
      exact .of_changes (push_event_inner_changes _)
    | none =>
      exact ⟨_, record_whatsapp_message_records_first (whatsapp_message_input runtime message),
        heeded_message_event_changes self runtime message answers.media hignored⟩
  · exact .of_changes (process_other_event_changes _ _ _ fun message heq => hevent ⟨message, heq⟩)

theorem attach_simulated_media_changes {effects : Effects} (ctx' : Ctx)
    (project_id company_id channel_id : String) (message : Message) (media : MediaObject) :
    Changes ctx effects inner
      (attach_simulated_media ctx' inner project_id company_id channel_id message media).2 := by
  have hstored : SameCore inner { inner with media := inner.media.insert media.id media } :=
    ⟨rfl, rfl, rfl, rfl, rfl, rfl⟩
  unfold attach_simulated_media
  dsimp only
  split
  · exact .then_aside (.after_aside hstored (attach_media_to_message_inner_changes ctx'.now message.id media))
      (by constructor <;> rfl)
  · exact .after_aside hstored (attach_media_to_message_inner_changes ..)

theorem try_receive_inbound_media_changes {effects : Effects} (self : AppState)
    (project_id company_id : String) (request : SimulateInboundMediaRequest)
    (answers : SimulatedMediaAnswers) :
    Changes ctx effects
      (record_message_inner ctx inner (SimulateInboundMediaRequest.message_input request project_id company_id)).2
      (try_receive_inbound_media self ctx inner project_id company_id request answers).2 := by
  unfold try_receive_inbound_media
  dsimp only
  split
  · exact push_event_inner_changes _
  · exact attach_simulated_media_changes ..

theorem try_receive_inbound_media_records (self : AppState) (project_id company_id : String)
    (request : SimulateInboundMediaRequest) (answers : SimulatedMediaAnswers) :
    Recording ctx on_queue inner
      (try_receive_inbound_media self ctx inner project_id company_id request answers).2 :=
  ⟨_, record_message_inner_records_first _, try_receive_inbound_media_changes ..⟩

theorem set_message_flag_changes {effects : Effects} (ctx' : Ctx) (message_id flag : String)
    (value : Bool) :
    Changes ctx effects inner (set_message_flag ctx' inner message_id flag value).2 := by
  unfold set_message_flag
  cases hold : inner.messages_by_id.lookup message_id with
  | none => exact .refl
  | some old =>
    refine store_message_changes hold ?_ (Or.inl ?_)
    · split
      · exact ⟨rfl, rfl, rfl, rfl, rfl, rfl, rfl, rfl⟩
      · split <;> exact ⟨rfl, rfl, rfl, rfl, rfl, rfl, rfl, rfl⟩
    · split
      · rfl
      · split <;> rfl

theorem react_to_message_changes {effects : Effects} (ctx' : Ctx) (message_id : String)
    (emoji : Option String) (answer : ReactionAnswer) :
    Changes ctx effects inner (react_to_message ctx' inner message_id emoji answer).2 := by
  unfold react_to_message set_message_reaction
  cases hold : inner.messages_by_id.lookup message_id with
  | none => exact .refl
  | some old =>
    dsimp only
    split
    · exact .refl
    · split
      · refine .trans (store_message_changes hold ?_ (Or.inl ?_)) (push_event_inner_changes _)
        · exact ⟨rfl, rfl, rfl, rfl, rfl, rfl, rfl, rfl⟩
        · rfl
      · exact .refl
      · exact .refl

theorem request_transcript_core (ctx : Ctx) (inner : StoreInner)
    (project_id company_id message_id : String) :
    SameCore inner (request_transcript ctx inner project_id company_id message_id).2 := by
  unfold request_transcript
  dsimp only
  repeat' split
  all_goals exact ⟨rfl, rfl, rfl, rfl, rfl, rfl⟩

theorem begin_upload_core (inner : StoreInner) (idem_key : String × String × String)
    (request_hash : String) : SameCore inner (begin_upload inner idem_key request_hash).2 := by
  unfold begin_upload
  repeat' split
  all_goals exact ⟨rfl, rfl, rfl, rfl, rfl, rfl⟩

theorem finish_upload_core (inner : StoreInner) (idem_key : String × String × String)
    (request_hash : String) (media_result : ApiResult MediaObject) :
    SameCore inner (finish_upload inner idem_key request_hash media_result).2 := by
  unfold finish_upload
  dsimp only
  repeat' split
  all_goals exact ⟨rfl, rfl, rfl, rfl, rfl, rfl⟩

theorem store_profile_picture_media_bytes_core (self : AppState) (ctx : Ctx) (inner : StoreInner)
    (project_id company_id channel_id entity_type entity_id : String) (bytes : List UInt8)
    (put : Except String Unit) :
    SameCore inner (store_profile_picture_media_bytes self ctx inner project_id company_id channel_id
      entity_type entity_id bytes put).2 := by
  unfold store_profile_picture_media_bytes
  dsimp only
  repeat' split
  all_goals exact ⟨rfl, rfl, rfl, rfl, rfl, rfl⟩

theorem update_media_core (inner : StoreInner) (media_id : String) (change : MediaObject → MediaObject) :
    SameCore inner (update_media inner media_id change).2 := by
  unfold update_media
  split <;> exact ⟨rfl, rfl, rfl, rfl, rfl, rfl⟩

theorem delete_media_for_company_core (ctx : Ctx) (inner : StoreInner)
    (project_id company_id media_id : String) :
    SameCore inner (delete_media_for_company ctx inner project_id company_id media_id).2 := by
  unfold delete_media_for_company
  split
  · exact ⟨rfl, rfl, rfl, rfl, rfl, rfl⟩
  · exact update_media_core ..

theorem anonymize_message_same (now : OffsetDateTime) (project_id company_id : String)
    (aliases : List String) (anonymous_name : String) (delete_messages : Bool) (message : Message) :
    SameMessage message (anonymize_message now project_id company_id aliases anonymous_name delete_messages
      message) := by
  unfold anonymize_message
  split <;> exact ⟨rfl, rfl, rfl, rfl, rfl, rfl, rfl, rfl⟩

theorem anonymize_contact_changes {effects : Effects} (self : AppState) (ctx' : Ctx)
    (project_id company_id contact_id : String) (delete_messages : Bool) :
    Changes ctx effects inner
      (anonymize_contact self ctx' inner project_id company_id contact_id delete_messages).2 := by
  unfold anonymize_contact
  dsimp only
  split
  · exact .refl
  · next contact _ =>
    have hconversations : Changes ctx effects inner { inner with
        conversations := inner.conversations.map_values fun _ conversation =>
          anonymize_conversation ctx'.now project_id company_id (contact_aliases_for_record contact)
            (anonymous_contact ctx'.now contact).display_name conversation } := by
      refine .single (.converse_all _ ?_)
      intro conversation
      unfold anonymize_conversation
      split <;> exact ⟨rfl, rfl, fun old h => by cases h; exact ⟨rfl, rfl⟩⟩
    refine .then_aside (hconversations.tail (.rewrite_all (anonymize_message ctx'.now project_id company_id
      (contact_aliases_for_record contact) (anonymous_contact ctx'.now contact).display_name
      delete_messages) (anonymize_message_same _ _ _ _ _ _) ?_)) (by constructor <;> rfl)
    intro message
    unfold anonymize_message
    split <;> rfl

end Recording

/-- The operations that the dirty queue offers. -/
def StoreOp.OnQueue (op : StoreOp) : Prop :=
  op.IsAck ∨ op.IsPoll

/-- What every operation but a removal and a restart does to the core of the
store. -/
theorem StoreOp.apply_records (self : AppState) (ctx : Ctx) {inner : StoreInner}
    (hkeyed : inner.messages_by_id.Keyed Message.id) (op : StoreOp) :
    Recording ctx op.OnQueue inner (op.apply self ctx inner) := by
  cases op with
  | receive_inbound_text project company request =>
    exact ⟨_, record_message_inner_records_first _, .refl⟩
  | prepare_send_message_with_actor project company conversation key request actor =>
    exact prepare_send_message_with_actor_records ..
  | process_whatsapp_event runtime answers event => exact process_whatsapp_event_records ..
  | create_channel project company id label phone =>
    unfold StoreOp.apply state.create_channel
    dsimp only
    repeat' split
    all_goals exact .of_changes (Changes.aside ⟨rfl, rfl, rfl, rfl, rfl, rfl⟩)
  | upload_outbound_media project company upload answers =>
    exact .of_changes (upload_outbound_media_changes ..)
  | mark_read project company conversation => exact .of_changes (mark_read_changes ..)
  | patch_conversation_metadata project company conversation body =>
    exact .of_changes (patch_conversation_metadata_changes ..)
  | update_receipt message receipt_type => exact .of_changes (update_receipt_with_context_changes ..)
  | update_outbound_after_dispatch message wa_message_id status error_message =>
    exact .of_changes (update_outbound_after_dispatch_changes _ _ _ _ _ fun _ _ => trivial)
  | process_outbound_send_request event answers =>
    exact .of_changes (process_outbound_send_request_changes _ _ _ hkeyed fun _ _ _ _ _ => trivial)
  | process_transcription_request event answers =>
    exact .of_changes (process_transcription_request_changes ..)
  | list_dirty project company consumer limit => exact .of_changes (.single (.poll _ _ _ _ _ (Or.inr trivial)))
  | ack_dirty project company conversation request =>
    exact .of_changes (ack_dirty_changes (Or.inl trivial) ..)
  | apply_contact_profile input => exact .of_changes (apply_contact_profile_changes ..)
  | record_contact_profile_lookup_failure project company contact =>
    exact .of_changes (Changes.aside (record_contact_profile_lookup_failure_core ..))
  | apply_group_profile project company channel group profile =>
    exact .of_changes (apply_group_profile_changes ..)

def Operation.OnQueue : Operation → Prop
  | .store op => op.OnQueue
  | _ => False

/-- What an operation does to the core of the store: it records a message and then
changes others without recording any, or it removes messages, or it is a restart. -/
theorem Operation.apply_cases (self : AppState) (ctx : Ctx) {inner : StoreInner}
    (hkeyed : inner.messages_by_id.Keyed Message.id) (op : Operation) :
    Recording ctx op.OnQueue inner (op.apply self ctx inner) ∨
    (∃ message_ids media_ids, op = .remove_expired message_ids media_ids ∧
      op.apply self ctx inner = state.remove_expired inner message_ids media_ids) ∨
    op = .restart ∧ op.apply self ctx inner = restarted inner := by
  cases op with
  | store op => exact Or.inl (op.apply_records self ctx hkeyed)
  | try_receive_inbound_media project company request answers =>
    exact Or.inl (try_receive_inbound_media_records ..)
  | set_message_flag message flag value =>
    exact Or.inl (.of_changes (set_message_flag_changes ..))
  | react_to_message message emoji answer => exact Or.inl (.of_changes (react_to_message_changes ..))
  | request_transcript project company message =>
    exact Or.inl (.of_changes (.aside (request_transcript_core ..)))
  | begin_upload idem_key request_hash => exact Or.inl (.of_changes (.aside (begin_upload_core ..)))
  | finish_upload idem_key request_hash media_result =>
    exact Or.inl (.of_changes (.aside (finish_upload_core ..)))
  | store_profile_picture_media_bytes project company channel entity_type entity_id bytes put =>
    exact Or.inl (.of_changes (.aside (store_profile_picture_media_bytes_core ..)))
  | save_media_with_permanent_object_key media entity_type entity_id permanent_object_key =>
    exact Or.inl (.of_changes (.aside (update_media_core ..)))
  | delete_media_for_company project company media =>
    exact Or.inl (.of_changes (.aside (delete_media_for_company_core ..)))
  | anonymize_contact project company contact delete_messages =>
    exact Or.inl (.of_changes (anonymize_contact_changes ..))
  | remove_expired message_ids media_ids => exact Or.inr (Or.inl ⟨message_ids, media_ids, rfl, rfl⟩)
  | expire_transcripts project company cutoff =>
    exact Or.inl (.of_changes (.aside ⟨rfl, rfl, rfl, rfl, rfl, rfl⟩))
  | redact_transcripts project company =>
    exact Or.inl (.of_changes (.aside ⟨rfl, rfl, rfl, rfl, rfl, rfl⟩))
  | restart => exact Or.inr (Or.inr ⟨rfl, rfl⟩)

end rustzap.state
