import RustZap.Retention.Sections

open collections serde_json runs
open rustzap.error rustzap.models rustzap.whatsapp

namespace rustzap.state

/-- The media and the transcripts of a message are of its company. -/
def OwnAttachments (inner : StoreInner) : Prop :=
  ∀ message_id project_id company_id message, Attached inner message_id project_id company_id →
    inner.messages_by_id.lookup message_id = some message →
    message.project_id = project_id ∧ message.company_id = company_id

/-- Whether a medium or a transcript is stored for the message. -/
def is_attached (inner : StoreInner) (message_id : String) : Bool :=
  inner.media.values.any (fun media => media.message_id = some message_id) ||
    (inner.transcripts.lookup message_id).isSome

/-- Whether a message that is known already under the WhatsApp id of an event is of the
channel's company. -/
def Operation.finds_own (inner : StoreInner) : Operation → Bool
  | .store (.process_whatsapp_event runtime _ (.Message event)) =>
    ((whatsapp_message_input runtime event).existing inner).all fun existing =>
      existing.project_id = runtime.project_id && existing.company_id = runtime.company_id
  | _ => true

/-- A step that attaches what comes in to the company's own messages. Nothing is stored
yet for the message whose id it draws. -/
structure AttachesToOwn (store : Store) (label : Ctx × Operation) : Prop where
  drawn : is_attached store.inner ("msg_" ++ label.1.uuid 0) = false
  known : label.2.finds_own store.inner = true

section Ownership

variable {self : AppState} {ctx : Ctx} {inner inner' : StoreInner}

/-- A stored message is of the company. -/
def HasOwner (inner : StoreInner) (message_id project_id company_id : String) : Prop :=
  ∃ message, inner.messages_by_id.lookup message_id = some message ∧ message.project_id = project_id ∧
    message.company_id = company_id

theorem is_attached_of_attached {message_id project_id company_id : String}
    (h : Attached inner message_id project_id company_id) : is_attached inner message_id = true := by
  rw [is_attached, Bool.or_eq_true]
  rcases h with ⟨media_id, media, hmedia, hnamed, -⟩ | ⟨transcript, htranscript, -⟩
  · exact Or.inl (List.any_eq_true.mpr ⟨media, HashMap.mem_values_of_lookup hmedia, decide_eq_true hnamed⟩)
  · exact Or.inr (by rw [htranscript, Option.isSome_some])

/-- It is enough that what is attached was attached before or belongs to the owner of its
message, where no message comes in under another id than the one drawn. -/
theorem OwnAttachments.of_attached (h : OwnAttachments inner)
    (hdrawn : is_attached inner ("msg_" ++ ctx.uuid 0) = false)
    (hfrom : ∀ message_id message, message_id ≠ "msg_" ++ ctx.uuid 0 →
      inner'.messages_by_id.lookup message_id = some message →
      ∃ old, inner.messages_by_id.lookup message_id = some old ∧ SameMessage old message)
    (hattached : ∀ message_id project_id company_id, Attached inner' message_id project_id company_id →
      Attached inner message_id project_id company_id ∨ HasOwner inner' message_id project_id company_id) :
    OwnAttachments inner' := by
  intro message_id project_id company_id message hattached' hmessage
  rcases hattached message_id project_id company_id hattached' with hbefore | ⟨found, hfound, hproject, hcompany⟩
  · have hid : message_id ≠ "msg_" ++ ctx.uuid 0 := by
      rintro rfl
      rw [is_attached_of_attached hbefore] at hdrawn
      cases hdrawn
    obtain ⟨old, hold, hsame⟩ := hfrom message_id message hid hmessage
    rw [hsame.project_id, hsame.company_id]
    exact h message_id project_id company_id old hbefore hold
  · rw [hmessage, Option.some.injEq] at hfound
    rw [hfound]
    exact ⟨hproject, hcompany⟩

theorem remove_expired_attached {message_ids media_ids : List String}
    {message_id project_id company_id : String}
    (h : Attached (remove_expired inner message_ids media_ids) message_id project_id company_id) :
    Attached inner message_id project_id company_id := by
  rcases h with ⟨media_id, media, hmedia, hnamed⟩ | ⟨transcript, htranscript, howner⟩
  · exact Or.inl ⟨media_id, media, (HashMap.lookup_retain_eq_some_iff.mp hmedia).1, hnamed⟩
  · exact Or.inr ⟨transcript, (HashMap.lookup_retain_eq_some_iff.mp htranscript).1, howner⟩

theorem restarted_attached {message_id project_id company_id : String}
    (h : Attached (restarted inner) message_id project_id company_id) :
    Attached inner message_id project_id company_id := by
  have hmedia : ∀ store : PersistedStore, ∀ media_id media,
      (sanitize_updates_surfaces store).media.lookup media_id = some media →
      store.media.lookup media_id = some media :=
    fun store media_id media hmedia => (HashMap.lookup_retain_eq_some_iff.mp hmedia).1
  have htranscripts : ∀ store : PersistedStore, ∀ message_id transcript,
      (sanitize_updates_surfaces store).transcripts.lookup message_id = some transcript →
      store.transcripts.lookup message_id = some transcript :=
    fun store message_id transcript h => (HashMap.lookup_retain_eq_some_iff.mp h).1
  rcases h with ⟨media_id, media, hlookup, hnamed⟩ | ⟨transcript, hlookup, howner⟩
  · exact Or.inl ⟨media_id, media, hmedia _ _ _ (hmedia _ _ _ hlookup), hnamed⟩
  · exact Or.inr ⟨transcript, htranscripts _ _ _ (htranscripts _ _ _ hlookup), howner⟩

theorem media_for_send_eq_ok {project_id company_id conversation_id : String} {media_id : Option String}
    {media : MediaObject}
    (h : media_for_send inner project_id company_id conversation_id media_id = .ok (some media)) :
    (∃ media_id, inner.media.lookup media_id = some media) ∧ media.project_id = project_id ∧
      media.company_id = company_id := by
  unfold media_for_send at h
  split at h
  · cases h
  · dsimp only at h
    split at h
    · cases h
    · next found hfound =>
      split_ifs at h with hother
      cases h
      rw [not_or, not_not, not_not] at hother
      exact ⟨⟨_, hfound⟩, hother⟩

/-- The medium of a send is the sender's, and so is the message. -/
theorem send_has_owner (hmedia : MediaKeyed inner) {project_id company_id conversation_id key : String}
    {request : SendMessageRequest} {actor : Option String} {sent stored : MediaObject}
    (hrecord : inner.idempotency.lookup (project_id, company_id, key) = none)
    (hsent : media_for_send inner project_id company_id
      (resolve_conversation_id_inner inner project_id company_id conversation_id) request.media_id =
        .ok (some sent))
    (hstored : inner.media.lookup sent.id = some stored) :
    HasOwner (prepare_send_message_with_actor self ctx inner project_id company_id conversation_id key request
      actor).2 ("msg_" ++ ctx.uuid 0) stored.project_id stored.company_id := by
  obtain ⟨⟨media_id, hlookup⟩, hproject, hcompany⟩ := media_for_send_eq_ok hsent
  rw [hmedia media_id sent hlookup, hlookup, Option.some.injEq] at hstored
  obtain ⟨hid, -, hproject', hcompany', hqueued⟩ := queue_outbound_message ctx inner project_id company_id
    (resolve_conversation_id_inner inner project_id company_id conversation_id) request actor (some sent)
  have hlookup' : (prepare_send_message_with_actor self ctx inner project_id company_id conversation_id key request
      actor).2.messages_by_id = (queue_outbound ctx inner project_id company_id
        (resolve_conversation_id_inner inner project_id company_id conversation_id) request actor
        (some sent)).2.messages_by_id := by
    unfold prepare_send_message_with_actor
    dsimp only
    simp only [hrecord, hsent, push_event_inner]
  refine ⟨_, ?_, hproject'.trans (hstored ▸ hproject.symm), hcompany'.trans (hstored ▸ hcompany.symm)⟩
  rw [hlookup', ← hid]
  exact hqueued

/-- The message that an event is recorded as is of the channel's company, where the one that
is known already is. -/
theorem recorded_of_channel (ctx : Ctx) {runtime : ChannelRuntime} {answers : EventAnswers} {event : MessageEvent}
    (hknown : (Operation.store (.process_whatsapp_event runtime answers (.Message event))).finds_own inner =
      true) :
    (record_whatsapp_message ctx inner (whatsapp_message_input runtime event)).1.project_id = runtime.project_id ∧
      (record_whatsapp_message ctx inner (whatsapp_message_input runtime event)).1.company_id =
        runtime.company_id := by
  rcases record_whatsapp_message_cases ctx inner (whatsapp_message_input runtime event) with
    ⟨existing, hexisting, heq⟩ | ⟨-, heq⟩
  · rw [Operation.finds_own, hexisting, Option.all_some, Bool.and_eq_true, decide_eq_true_eq,
      decide_eq_true_eq] at hknown
    rw [heq]
    exact hknown
  · rw [heq]
    exact ⟨rfl, rfl⟩

theorem event_owned (hkeyed : inner.WellKeyed) {runtime : ChannelRuntime} {answers : EventAnswers}
    {event : MessageEvent}
    (hknown : (Operation.store (.process_whatsapp_event runtime answers (.Message event))).finds_own inner =
      true) :
    EventOwned (HasOwner (process_message_event self ctx inner runtime event answers.media).2) self ctx inner
      runtime event := by
  intro hheeded
  obtain ⟨hproject, hcompany⟩ := recorded_of_channel ctx hknown
  obtain ⟨stored, hstored, hsame⟩ :=
    process_message_event_stored self runtime event answers.media hkeyed.messages hheeded
  have howned := (⟨stored, hstored, hsame.project_id.trans hproject, hsame.company_id.trans hcompany⟩ :
    HasOwner _ _ _ _)
  refine ⟨howned, fun found hfound => ?_⟩
  rw [record_whatsapp_message_stored ctx hkeyed.messages, Option.some.injEq] at hfound
  exact hfound ▸ howned

theorem simulated_media_has_owner {project_id company_id : String} {request : SimulateInboundMediaRequest}
    {answers : SimulatedMediaAnswers} :
    HasOwner (try_receive_inbound_media self ctx inner project_id company_id request answers).2
      ("msg_" ++ ctx.uuid 0) project_id company_id := by
  have hlater : Changes ctx (.quiet True)
      (record_message_inner ctx inner (SimulateInboundMediaRequest.message_input request project_id company_id)).2
      (try_receive_inbound_media self ctx inner project_id company_id request answers).2 :=
    try_receive_inbound_media_changes self project_id company_id request answers
  obtain ⟨stored, hstored, hsame⟩ := hlater.message_kept (fun hquiet => absurd trivial (hquiet "" ""))
    (record_message_inner_stored ctx inner _)
  exact ⟨stored, hstored, hsame.project_id, hsame.company_id⟩

theorem stored_owned (hkeyed : inner.WellKeyed)
    (hkept : MessagesKept inner.messages_by_id inner'.messages_by_id) : Owned (HasOwner inner') inner := by
  intro message_id message hmessage
  obtain ⟨message', hmessage', hsame⟩ := hkept message_id message hmessage
  have howned : HasOwner inner' message_id message.project_id message.company_id :=
    ⟨message', hmessage', hsame.project_id, hsame.company_id⟩
  rw [hkeyed.messages message_id message hmessage]
  exact ⟨howned, howned⟩

/-- What an operation attaches has the owner of the message that it is attached to. -/
theorem attaches_own (self : AppState) (hkeyed : inner.WellKeyed) (hmedia : MediaKeyed inner)
    (hfresh : inner.messages_by_id.lookup ("msg_" ++ ctx.uuid 0) = none) (op : Operation)
    (hknown : op.finds_own inner = true) :
    op.Attaches (HasOwner (op.apply self ctx inner)) self ctx inner := by
  cases op with
  | store op =>
    cases op with
    | prepare_send_message_with_actor project company conversation key request actor =>
      exact fun sent stored hrecord hsent hstored => send_has_owner hmedia hrecord hsent hstored
    | process_transcription_request event answers =>
      exact stored_owned hkeyed (Operation.messages_kept self hkeyed hfresh _ (fun _ _ h => by cases h)
        (fun h => by cases h))
    | process_whatsapp_event runtime answers event =>
      rintro message rfl
      have howned : EventOwned (HasOwner (process_message_event self ctx inner runtime message answers.media).2)
          self ctx inner runtime message :=
        event_owned hkeyed hknown
      exact howned
    | _ => exact trivial
  | try_receive_inbound_media project company request answers => exact simulated_media_has_owner
  | request_transcript project company message =>
    exact stored_owned hkeyed (Operation.messages_kept self hkeyed hfresh _ (fun _ _ h => by cases h)
      (fun h => by cases h))
  | _ => exact trivial

/-- Whatever an operation leaves attached was attached before, or has the owner of its
message. -/
theorem apply_attached (hkeyed : inner.WellKeyed) (hmedia : MediaKeyed inner)
    (hfresh : inner.messages_by_id.lookup ("msg_" ++ ctx.uuid 0) = none) (op : Operation)
    (hknown : op.finds_own inner = true)
    {message_id project_id company_id : String}
    (h : Attached (op.apply self ctx inner) message_id project_id company_id) :
    Attached inner message_id project_id company_id ∨
      HasOwner (op.apply self ctx inner) message_id project_id company_id := by
  have howned := attaches_own self hkeyed hmedia hfresh op hknown
  by_cases hop : op.OnSides
  · cases op with
    | store op =>
      cases op with
      | prepare_send_message_with_actor project company conversation key request actor =>
        dsimp only [Operation.apply, StoreOp.apply] at h howned ⊢
        rcases prepare_send_message_with_actor_cases self ctx inner project company conversation key request
          actor howned with ⟨record, -, heq⟩ | ⟨-, ⟨err, heq⟩ | ⟨message, mid, hsides, -, -, -, heq⟩⟩
        · rw [heq] at h
          exact Or.inl h
        · rw [heq] at h
          exact Or.inl h
        · rw [heq] at h
          exact hsides.attached message_id project_id company_id h
      | _ => exact absurd hop not_false
    | finish_upload idem_key request_hash media_result =>
      dsimp only [Operation.apply, state.finish_upload] at h
      repeat' split at h
      all_goals exact Or.inl h
    | remove_expired message_ids media_ids => exact Or.inl (remove_expired_attached h)
    | restart => exact Or.inl (restarted_attached h)
    | _ => exact absurd hop not_false
  · exact (op.sides_kept self ctx hop howned).attached message_id project_id company_id h

theorem OwnAttachments.reordered (h : OwnAttachments inner) (hreordered : inner.Reordered inner') :
    OwnAttachments inner' := by
  intro message_id project_id company_id message hattached hmessage
  rw [← hreordered.messages_by_id.lookup] at hmessage
  refine h message_id project_id company_id message ?_ hmessage
  rcases hattached with ⟨media_id, media, hmedia, hnamed⟩ | ⟨transcript, htranscript, howner⟩
  · rw [← hreordered.media.lookup] at hmedia
    exact Or.inl ⟨media_id, media, hmedia, hnamed⟩
  · rw [← hreordered.transcripts.lookup] at htranscript
    exact Or.inr ⟨transcript, htranscript, howner⟩

theorem OwnAttachments.step {label : Ctx × Operation} {store store' : Store}
    (h : OwnAttachments store.inner) (hmedia : MediaKeyed store.inner) (hown : AttachesToOwn store label)
    (hstep : Store.Lives self store label store') : OwnAttachments store'.inner := by
  obtain ⟨hfresh, hnext⟩ := hstep
  have happlied : OwnAttachments (store.perform self label.1 label.2).inner :=
    h.of_attached hown.drawn
      (fun message_id message hid hmessage => label.2.message_from self store.keyed hid hmessage)
      (fun message_id project_id company_id hattached => apply_attached store.keyed hmedia hfresh label.2
        hown.known hattached)
  exact happlied.reordered hnext

end Ownership

/-- Throughout a run whose steps attach what comes in to the company's own messages, the
media and transcripts of a message are of its company. -/
theorem own_attachments_of_run {self : AppState} {labels : List (Ctx × Operation)} {store : Store}
    (hrun : Run (Guarded (Store.Lives self) AttachesToOwn) Store.empty labels store) :
    OwnAttachments store.inner := by
  have hstep : ∀ s label t, MediaKeyed s.inner ∧ OwnAttachments s.inner →
      Guarded (Store.Lives self) AttachesToOwn s label t → MediaKeyed t.inner ∧ OwnAttachments t.inner :=
    fun s label t h hstep => ⟨h.1.step hstep.2, h.2.step h.1 hstep.1 hstep.2⟩
  have hempty : OwnAttachments Store.empty.inner := by
    rintro message_id project_id company_id message - hmessage
    cases hmessage
  exact (hrun.invariant hstep ⟨HashMap.Keyed.empty, hempty⟩).2

/-- The condition on a step as a test. -/
def sample.attaches_to_own (store : Store) (label : Ctx × Operation) : Bool :=
  !is_attached store.inner ("msg_" ++ label.1.uuid 0) && label.2.finds_own store.inner

theorem sample.lives_attached (labels : List (Ctx × Operation))
    (hnew : sample.draws_new_ids Store.empty labels = true)
    (hown : sample.all_pass sample.attaches_to_own Store.empty labels = true) :
    Run (Guarded (Store.Lives sample.service) AttachesToOwn) Store.empty labels
      (sample.live Store.empty labels) := by
  refine sample.lives_guarded (fun store label htest => ?_) labels Store.empty hnew hown
  obtain ⟨hdrawn, hknown⟩ := Bool.and_eq_true_iff.mp htest
  exact ⟨Bool.not_eq_true' _ ▸ hdrawn, hknown⟩

end rustzap.state
