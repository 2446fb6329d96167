import RustZap.Profiles.Projection
import RustZap.Tenants.Profiles

open collections serde_json runs
open rustzap.error rustzap.eventbus rustzap.models rustzap.transcription rustzap.whatsapp

namespace rustzap.state

/-- The look that a reservation begins, if it is given. -/
def reserved_ops (op : ProfileOp) : ApiResult Bool → List ProfileOp
  | .ok true => [op]
  | _ => []

section Reservations

variable (inner : StoreInner)

theorem contact_profile_refresh_due_iff (contact : ContactRecord) (now : OffsetDateTime) :
    contact_profile_refresh_due contact now false = contact.looked.due now := by
  rw [contact_profile_refresh_due, Looked.due, Bool.false_or]
  change _ = contact.profile_lookup_attempted_at.all _
  cases contact.profile_lookup_attempted_at <;> rfl

theorem profile_book_stored {contact_id : String} {contact : ContactRecord}
    (h : inner.contacts.lookup contact_id = some contact) :
    inner.profile_book.contacts contact_id = contact.looked := by
  simp only [StoreInner.profile_book]
  rw [h]
  rfl

/-- A reservation that is given begins a look, and one that is not changes nothing. -/
theorem reserve_contact_profile_refresh_looks (ctx : Ctx) (project_id company_id contact_id : String) :
    let reserved := reserve_contact_profile_refresh ctx inner project_id company_id contact_id false
    Looks ctx.now (reserved_ops
        (.look_up (resolve_contact_id_inner inner project_id company_id contact_id)) reserved.1) inner
      reserved.2 := by
  unfold reserve_contact_profile_refresh
  dsimp only
  cases hcontact : (inner.contacts.lookup (resolve_contact_id_inner inner project_id company_id
      contact_id)).filter fun contact => contact.matches_tenant project_id company_id with
  | none => exact .quiet rfl
  | some contact =>
    have hstored := profile_book_stored inner (Option.filter_eq_some_iff.mp hcontact).1
    dsimp only
    by_cases hdue : contact_profile_refresh_due contact ctx.now false = true
    · rw [if_neg (by simp [hdue])]
      rw [contact_profile_refresh_due_iff, ← hstored] at hdue
      have hstep := ProfileBook.Step.look_up hdue
      rw [hstored] at hstep
      unfold Looks
      rw [profile_book_insert]
      exact .cons hstep (.nil _)
    · rw [if_pos (by simp [hdue])]
      exact .quiet rfl

theorem profile_book_insert_group (key : String) (now : OffsetDateTime) :
    StoreInner.profile_book
        { inner with group_profile_refreshes := inner.group_profile_refreshes.insert key now } =
      inner.profile_book.enter_group key now := by
  unfold StoreInner.profile_book ProfileBook.enter_group
  congr
  funext group
  exact HashMap.lookup_insert_ite ..

theorem reserve_group_profile_refresh_looks (ctx : Ctx) (runtime : ChannelRuntime) (group_id : String)
    (force : Bool) :
    let reserved := reserve_group_profile_refresh ctx inner runtime group_id force
    Looks ctx.now (reserved_ops (.refresh (group_profile_refresh_key runtime group_id) force)
      (.ok reserved.1)) inner reserved.2 := by
  unfold reserve_group_profile_refresh
  dsimp only
  split
  · exact .quiet rfl
  · next hdue =>
    unfold Looks
    rw [profile_book_insert_group]
    refine .cons (.refresh ?_) (.nil _)
    rintro rfl last hlast
    have hlast : inner.group_profile_refreshes.lookup (group_profile_refresh_key runtime group_id) =
      some last := hlast
    rw [hlast] at hdue
    simpa using hdue

end Reservations

section Spawned

variable (inner : StoreInner)

/-- The look that a spawned task goes on with. The id of the contact is resolved in the
store in which it is reserved. -/
def EnrichmentTask.profile_op (inner : StoreInner) (force : Bool) : EnrichmentTask → ProfileOp
  | .contact runtime _ contact_id _ _ =>
    .look_up (resolve_contact_id_inner inner runtime.project_id runtime.company_id contact_id)
  | .group runtime group_id => .refresh (group_profile_refresh_key runtime group_id) force

theorem spawn_contact_enrichment_looks (ctx : Ctx) (runtime : ChannelRuntime)
    (conversation_id contact_id : String) (alt_jid push_name : Option String) (force : Bool) :
    let spawned := spawn_contact_enrichment ctx inner runtime conversation_id contact_id alt_jid push_name
    Looks ctx.now (spawned.1.map (EnrichmentTask.profile_op inner force)) inner spawned.2 := by
  have hreserved := reserve_contact_profile_refresh_looks inner ctx runtime.project_id
    runtime.company_id contact_id
  unfold spawn_contact_enrichment
  dsimp only at hreserved ⊢
  split
  all_goals
    next hgiven =>
    rw [hgiven] at hreserved
    exact hreserved

theorem spawn_group_enrichment_looks (start : StoreInner) (ctx : Ctx) (runtime : ChannelRuntime)
    (group_id : String) (force : Bool) :
    let spawned := spawn_group_enrichment ctx inner runtime group_id force
    Looks ctx.now (spawned.1.map (EnrichmentTask.profile_op start force)) inner spawned.2 := by
  have hreserved := reserve_group_profile_refresh_looks inner ctx runtime group_id force
  unfold spawn_group_enrichment
  dsimp only at hreserved ⊢
  split
  · exact .quiet rfl
  · split
    · next hgiven =>
      rw [hgiven] at hreserved
      exact hreserved
    · next hgiven =>
      rw [Bool.not_eq_true _ |>.mp hgiven] at hreserved
      exact hreserved

theorem spawn_enrichment_looks (ctx : Ctx) (runtime : ChannelRuntime) (event : MessageEvent) :
    let spawned := spawn_enrichment ctx inner runtime event
    Looks ctx.now (spawned.1.map (EnrichmentTask.profile_op inner false)) inner spawned.2 := by
  have hgroup : ∀ mid, Looks ctx.now ((if is_group_jid event.chat_jid then
      spawn_group_enrichment ctx mid runtime event.chat_jid false else ([], mid)).1.map
        (EnrichmentTask.profile_op inner false)) mid
      (if is_group_jid event.chat_jid then
        spawn_group_enrichment ctx mid runtime event.chat_jid false else ([], mid)).2 := by
    intro mid
    split
    · exact spawn_group_enrichment_looks mid inner ctx runtime event.chat_jid false
    · exact .quiet rfl
  unfold spawn_enrichment
  dsimp only
  rw [List.map_append]
  refine Looks.trans ?_ (hgroup _)
  cases contact_for_enrichment event with
  | none => exact .quiet rfl
  | some contact_id =>
    dsimp only
    split
    · exact .quiet rfl
    · exact spawn_contact_enrichment_looks ..

/-- The store in which a message has been recorded, and its medium been fetched. -/
def message_recorded (self : AppState) (ctx : Ctx) (inner : StoreInner) (runtime : ChannelRuntime)
    (event : MessageEvent) (answers : InboundMediaAnswers) : StoreInner :=
  let recorded := record_whatsapp_message ctx inner (whatsapp_message_input runtime event)
  match event.media with
  | some descriptor =>
    process_message_media self ctx recorded.2 runtime event recorded.1 descriptor answers
  | none => recorded.2

/-- A message that is new enriches its people from their alternative ids, and one that is
not dropped begins the looks that it spawns. -/
def message_profile_ops (self : AppState) (ctx : Ctx) (inner : StoreInner) (runtime : ChannelRuntime)
    (event : MessageEvent) (answers : InboundMediaAnswers) : List ProfileOp :=
  if (ignored_message_event self ctx inner runtime event).isSome then []
  else
    let input := whatsapp_message_input runtime event
    (if (input.existing inner).isSome then [] else input.profile_ops ctx.now) ++
      (process_message_event self ctx inner runtime event answers).1.map
        (EnrichmentTask.profile_op (message_recorded self ctx inner runtime event answers) false)

theorem record_whatsapp_message_looks (ctx : Ctx) (input : WhatsappMessageInput) :
    Looks ctx.now (if (input.existing inner).isSome then [] else input.profile_ops ctx.now) inner
      (record_whatsapp_message ctx inner input).2 := by
  rcases record_whatsapp_message_cases ctx inner input with ⟨existing, hsome, heq⟩ | ⟨hnone, heq⟩
  · rw [heq, hsome]
    exact .quiet rfl
  · have hrecord : (input.record ctx inner).2.profile_book = (input.people ctx.now inner).inner.profile_book := by
      unfold WhatsappMessageInput.record append_message
      rfl
    rw [heq, hnone]
    exact (input.people_looks inner ctx.now).then_quiet hrecord

theorem message_recorded_looks (self : AppState) (ctx : Ctx) (runtime : ChannelRuntime)
    (event : MessageEvent) (answers : InboundMediaAnswers) :
    let input := whatsapp_message_input runtime event
    Looks ctx.now (if (input.existing inner).isSome then [] else input.profile_ops ctx.now) inner
      (message_recorded self ctx inner runtime event answers) := by
  have hrecorded := record_whatsapp_message_looks inner ctx (whatsapp_message_input runtime event)
  unfold message_recorded
  dsimp only
  cases event.media with
  | none => exact hrecorded
  | some descriptor => exact hrecorded.then_quiet (process_message_media_quiet ..)

theorem process_message_event_looks (self : AppState) (ctx : Ctx) (runtime : ChannelRuntime)
    (event : MessageEvent) (answers : InboundMediaAnswers) :
    Looks ctx.now (message_profile_ops self ctx inner runtime event answers) inner
      (process_message_event self ctx inner runtime event answers).2 := by
  unfold message_profile_ops
  cases hignored : ignored_message_event self ctx inner runtime event with
  | some ignored =>
    unfold process_message_event
    rw [hignored]
    exact .quiet rfl
  | none =>
    have hprocessed : process_message_event self ctx inner runtime event answers =
        spawn_enrichment ctx (message_recorded self ctx inner runtime event answers) runtime event := by
      unfold process_message_event
      split
      · next hsome =>
        rw [hignored] at hsome
        cases hsome
      · rfl
    rw [hprocessed]
    exact (message_recorded_looks inner self ctx runtime event answers).trans
      (spawn_enrichment_looks _ ctx runtime event)

theorem process_receipt_event_quiet (self : AppState) (ctx : Ctx) (runtime : ChannelRuntime)
    (event : ReceiptEvent) :
    (process_receipt_event self ctx inner runtime event).profile_book = inner.profile_book := by
  have hreceipts : ∀ (wa_message_ids : List String) (ctx : Ctx) (inner : StoreInner),
      (apply_receipts self event.receipt_type event.created_at_wa ctx inner wa_message_ids).profile_book =
        inner.profile_book := by
    intro wa_message_ids
    induction wa_message_ids with
    | nil => exact fun _ _ => rfl
    | cons wa_message_id rest ih =>
      intro ctx inner
      refine (ih _ _).trans ?_
      unfold update_receipt_by_wa_id_with_context
      split
      · rfl
      · exact update_receipt_with_context_quiet ..
  unfold process_receipt_event
  split
  · rfl
  · exact hreceipts ..

theorem process_group_update_looks (self : AppState) (ctx : Ctx) (runtime : ChannelRuntime)
    (group_jid : String) (subject : Option String) (created_at_wa : OffsetDateTime) :
    let processed := process_group_update self ctx inner runtime group_jid subject created_at_wa
    Looks ctx.now (processed.1.map (EnrichmentTask.profile_op inner true)) inner processed.2 := by
  have hsubject : ∀ subject, (apply_group_subject self ctx inner runtime.project_id runtime.company_id
      runtime.channel_id group_jid subject created_at_wa).profile_book = inner.profile_book := by
    intro subject
    unfold apply_group_subject
    split <;> rfl
  unfold process_group_update
  dsimp only
  split
  · exact .quiet rfl
  · refine .after_quiet ?_ (spawn_group_enrichment_looks _ inner ctx runtime group_jid true)
    split
    · exact hsubject _
    · rfl

theorem process_diagnostic_quiet (ctx : Ctx) (runtime : ChannelRuntime) (event_type : String)
    (payload : Value) (answers : EventAnswers) :
    (process_diagnostic ctx inner runtime event_type payload answers).profile_book = inner.profile_book := by
  unfold process_diagnostic
  dsimp only
  repeat' split
  all_goals rfl

def event_profile_ops (self : AppState) (ctx : Ctx) (inner : StoreInner) (runtime : ChannelRuntime)
    (answers : EventAnswers) : WhatsappEvent → List ProfileOp
  | .Message event => message_profile_ops self ctx inner runtime event answers.media
  | .GroupUpdate group_jid subject created_at_wa =>
    (process_group_update self ctx inner runtime group_jid subject created_at_wa).1.map
      (EnrichmentTask.profile_op inner true)
  | _ => []

theorem process_whatsapp_event_looks (self : AppState) (ctx : Ctx) (runtime : ChannelRuntime)
    (answers : EventAnswers) (event : WhatsappEvent) :
    Looks ctx.now (event_profile_ops self ctx inner runtime answers event) inner
      (process_whatsapp_event self ctx inner runtime answers event).2 := by
  unfold process_whatsapp_event event_profile_ops
  cases event with
  | Message event => exact process_message_event_looks inner self ctx runtime event answers.media
  | GroupUpdate group_jid subject created_at_wa =>
    exact process_group_update_looks inner self ctx runtime group_jid subject created_at_wa
  | Receipt event =>
    dsimp only
    exact .quiet (process_receipt_event_quiet inner self ctx runtime event)
  | Diagnostic event_type payload =>
    dsimp only
    exact .quiet (process_diagnostic_quiet inner ctx runtime event_type payload answers)
  | Disconnected =>
    refine .quiet ?_
    dsimp only
    split <;> rfl
  | Connected | LoggedOut | PairingQrCode | HistorySyncIgnored => exact .quiet rfl

end Spawned

section Operations

variable (inner : StoreInner)

theorem apply_contact_profile_looks (ctx : Ctx) (input : ContactProfileApplyInput) :
    Looks ctx.now [(input.enrichment ctx.now).profile_op] inner (apply_contact_profile ctx inner input) :=
  (enrich_contact_inner_looks inner (input.enrichment ctx.now)).then_quiet rfl

/-- The failure of a look is noted if there is a contact to note it with. -/
def failure_profile_ops (inner : StoreInner) (project_id company_id contact_id : String) :
    List ProfileOp :=
  let resolved := resolve_contact_id_inner inner project_id company_id contact_id
  ((inner.contacts.lookup resolved).filter fun contact =>
    contact.matches_tenant project_id company_id).toList.map fun _ => .fail resolved

theorem record_contact_profile_lookup_failure_looks (ctx : Ctx) (project_id company_id contact_id : String) :
    Looks ctx.now (failure_profile_ops inner project_id company_id contact_id) inner
      (record_contact_profile_lookup_failure ctx inner project_id company_id contact_id) := by
  unfold record_contact_profile_lookup_failure failure_profile_ops
  dsimp only
  split
  · next hnone =>
    rw [hnone]
    exact .quiet rfl
  · next contact hcontact =>
    rw [hcontact]
    unfold Looks
    rw [profile_book_insert]
    exact .cons (.fail _) (.nil _)

theorem apply_group_profile_looks (self : AppState) (ctx : Ctx)
    (project_id company_id channel_id group_id : String) (profile : GroupProfile) :
    Looks ctx.now
      (profile.participants.flatMap (participant_profile_ops ctx.now project_id company_id channel_id)) inner
      (apply_group_profile self ctx inner project_id company_id channel_id group_id profile) := by
  have hparticipants := apply_group_participants_looks ctx project_id company_id channel_id group_id
    profile.owner_jid profile.participants { inner with
      groups := inner.groups.insert group_id
        (group_record_of_profile ((inner.groups.lookup group_id).getD empty_group_record) profile) }
  unfold apply_group_profile
  exact (Looks.after_quiet rfl hparticipants).then_quiet rfl

def StoreOp.profile_ops (self : AppState) (ctx : Ctx) (inner : StoreInner) : StoreOp → List ProfileOp
  | .process_whatsapp_event runtime answers event => event_profile_ops self ctx inner runtime answers event
  | .apply_contact_profile input => [(input.enrichment ctx.now).profile_op]
  | .record_contact_profile_lookup_failure project company contact =>
    failure_profile_ops inner project company contact
  | .apply_group_profile project company channel _ profile =>
    profile.participants.flatMap (participant_profile_ops ctx.now project company channel)
  | _ => []

theorem StoreOp.looks (self : AppState) (ctx : Ctx) (op : StoreOp) :
    Looks ctx.now (op.profile_ops self ctx inner) inner (op.apply self ctx inner) := by
  cases op with
  | process_whatsapp_event runtime answers event => exact process_whatsapp_event_looks ..
  | apply_contact_profile input => exact apply_contact_profile_looks ..
  | record_contact_profile_lookup_failure project company contact =>
    exact record_contact_profile_lookup_failure_looks ..
  | apply_group_profile project company channel group profile => exact apply_group_profile_looks ..
  | create_channel project company id label phone =>
    refine .quiet ?_
    unfold StoreOp.apply state.create_channel
    dsimp only
    repeat' split
    all_goals rfl
  | receive_inbound_text project company request => exact .quiet (record_message_inner_quiet ..)
  | prepare_send_message_with_actor project company conversation key request actor =>
    exact .quiet (prepare_send_message_with_actor_quiet ..)
  | upload_outbound_media project company upload answers => exact .quiet (upload_outbound_media_quiet ..)
  | mark_read project company conversation => exact .quiet (mark_read_quiet ..)
  | patch_conversation_metadata project company conversation body =>
    exact .quiet (patch_conversation_metadata_quiet ..)
  | update_receipt message receipt_type => exact .quiet (update_receipt_with_context_quiet ..)
  | update_outbound_after_dispatch message wa_message_id status error_message =>
    exact .quiet (update_outbound_after_dispatch_quiet ..)
  | process_outbound_send_request event answers => exact .quiet (process_outbound_send_request_quiet ..)
  | process_transcription_request event answers => exact .quiet (process_transcription_request_quiet ..)
  | list_dirty project company consumer limit => exact .quiet rfl
  | ack_dirty project company conversation request =>
    refine .quiet ?_
    rcases ack_dirty_cases ctx inner project company conversation request with heq | ⟨dirty, -, -, heq⟩
    · exact congrArg StoreInner.profile_book heq
    · refine (congrArg StoreInner.profile_book heq).trans ?_
      unfold acked
      dsimp only
      split <;> rfl

theorem try_receive_inbound_media_quiet (self : AppState) (ctx : Ctx) (project_id company_id : String)
    (request : SimulateInboundMediaRequest) (answers : SimulatedMediaAnswers) :
    (try_receive_inbound_media self ctx inner project_id company_id request answers).2.profile_book =
      inner.profile_book := by
  have hattached : ∀ mid channel_id message media, (attach_simulated_media ctx mid project_id company_id
      channel_id message media).2.profile_book = mid.profile_book := by
    intro mid channel_id message media
    have hmedia : (attach_media_to_message_inner ctx.now
        { mid with media := mid.media.insert media.id media } message.id media).2.profile_book =
          mid.profile_book := attach_media_to_message_inner_quiet ..
    unfold attach_simulated_media
    dsimp only
    split
    · exact hmedia
    · exact hmedia
  have hrecorded : (record_message_inner ctx inner (SimulateInboundMediaRequest.message_input request
      project_id company_id)).2.profile_book = inner.profile_book := record_message_inner_quiet ..
  unfold try_receive_inbound_media
  dsimp only
  split
  · exact hrecorded
  · dsimp only
    rw [hattached]
    exact hrecorded

/-- A contact is made anonymous, and when it was looked at is not touched. -/
theorem anonymize_contact_quiet (self : AppState) (ctx : Ctx) (project_id company_id contact_id : String)
    (delete_messages : Bool) :
    (anonymize_contact self ctx inner project_id company_id contact_id delete_messages).2.profile_book =
      inner.profile_book := by
  unfold anonymize_contact
  dsimp only
  split
  · rfl
  · next contact hcontact =>
    have hstored := profile_book_stored inner (Option.filter_eq_some_iff.mp hcontact).1
    have hlooked : (anonymous_contact ctx.now contact).looked = contact.looked := rfl
    have hentered := profile_book_insert inner
      (resolve_contact_id_inner inner project_id company_id contact_id) (anonymous_contact ctx.now contact)
    rw [hlooked, ← hstored, ProfileBook.enter_same] at hentered
    exact hentered

end Operations

section Restart

variable (inner : StoreInner)

/-- The contacts that a restart forgets are those on an updates surface. -/
def forgotten_contacts : List String :=
  (inner.contacts.retain fun _ contact => contact_updates_surface contact).keys

/-- The keys under which a restart remembers no look at a group, or another one: those that a
snapshot renames, what it makes of them, and those on an updates surface. -/
def forgotten_groups : List String :=
  let keys := inner.group_profile_refreshes.keys
  let renamed := keys.filter fun key => str.replace key '\x00' '|' ≠ key
  renamed ++ renamed.map (fun key => str.replace key '\x00' '|') ++ keys.filter key_updates_surface

theorem restarted_contacts_lookup {contact_id : String} (h : contact_id ∉ forgotten_contacts inner) :
    (restarted inner).contacts.lookup contact_id = inner.contacts.lookup contact_id := by
  have hcontacts : (restarted inner).contacts =
    (inner.contacts.retain fun _ contact => !contact_updates_surface contact).retain
      fun _ contact => !contact_updates_surface contact := rfl
  rw [hcontacts, HashMap.lookup_retain, HashMap.lookup_retain]
  cases hlookup : inner.contacts.lookup contact_id with
  | none => rfl
  | some contact =>
    by_cases hsurface : contact_updates_surface contact = true
    · have hforgotten : contact_id ∈ forgotten_contacts inner := by
        rw [forgotten_contacts, HashMap.mem_keys_iff]
        exact ⟨contact, HashMap.lookup_retain_eq_some_iff.mpr ⟨hlookup, hsurface⟩⟩
      exact absurd hforgotten h
    · simp [hsurface]

/-- Normalization moves no entry to or from a key that is no renamed one. -/
theorem normalized_lookup {refreshes : HashMap String OffsetDateTime} {key : String}
    (h : ∀ other, other ∈ refreshes.keys → (str.replace other '\x00' '|' = key ↔ other = key)) :
    (normalize_group_profile_refreshes refreshes).lookup key = refreshes.lookup key :=
  HashMap.lookup_rename h

/-- A normalized key stays as it is when it is normalized again. -/
theorem replace_of_mem_normalized {refreshes : HashMap String OffsetDateTime} {key : String}
    (h : key ∈ (normalize_group_profile_refreshes refreshes).keys) : str.replace key '\x00' '|' = key := by
  obtain ⟨last, hlast⟩ := HashMap.mem_keys_iff.mp h
  rw [normalize_group_profile_refreshes] at hlast
  obtain ⟨entry, -, heq⟩ := List.mem_map.mp (HashMap.mem_of_lookup_of_pairs hlast)
  rw [← (Prod.mk.inj heq).1]
  exact str.replace_replace entry.1 (by decide)

theorem not_forgotten_renamed {key other : String} (h : key ∉ forgotten_groups inner)
    (hother : other ∈ inner.group_profile_refreshes.keys) :
    str.replace other '\x00' '|' = key ↔ other = key := by
  simp only [forgotten_groups, List.mem_append, not_or] at h
  obtain ⟨⟨hrenamed, hnormal⟩, -⟩ := h
  by_cases hsame : str.replace other '\x00' '|' = other
  · rw [hsame]
  · have hmem : other ∈ inner.group_profile_refreshes.keys.filter fun key =>
        str.replace key '\x00' '|' ≠ key := List.mem_filter.mpr ⟨hother, decide_eq_true hsame⟩
    constructor
    · rintro rfl
      exact absurd (List.mem_map_of_mem hmem) hnormal
    · rintro rfl
      exact absurd hmem hrenamed

theorem restarted_groups_lookup {key : String} (h : key ∉ forgotten_groups inner) :
    (restarted inner).group_profile_refreshes.lookup key = inner.group_profile_refreshes.lookup key := by
  have hgroups : (restarted inner).group_profile_refreshes = normalize_group_profile_refreshes
    (((normalize_group_profile_refreshes inner.group_profile_refreshes).retain
      fun key _ => !key_updates_surface key).retain fun key _ => !key_updates_surface key) := rfl
  rw [hgroups, normalized_lookup, HashMap.lookup_retain, HashMap.lookup_retain,
    normalized_lookup fun _ => not_forgotten_renamed inner h]
  · cases hlookup : inner.group_profile_refreshes.lookup key with
    | none => rfl
    | some last =>
      by_cases hsurface : key_updates_surface key = true
      · have hforgotten : key ∈ forgotten_groups inner :=
          List.mem_append_right _ (List.mem_filter.mpr ⟨HashMap.mem_keys_of_lookup hlookup, hsurface⟩)
        exact absurd hforgotten h
      · simp [hsurface]
  · -- what has been written has been normalized before
    intro other hother
    obtain ⟨last, hlast⟩ := HashMap.mem_keys_iff.mp hother
    rw [HashMap.lookup_retain_eq_some_iff, HashMap.lookup_retain_eq_some_iff] at hlast
    rw [replace_of_mem_normalized (HashMap.mem_keys_of_lookup hlast.1.1)]

theorem restarted_looks (now : OffsetDateTime) :
    Looks now [.restart (forgotten_contacts inner) (forgotten_groups inner)] inner (restarted inner) := by
  refine .cons (.restart ?_ ?_) (.nil _)
  · intro contact_id hkept
    simp only [StoreInner.profile_book]
    rw [restarted_contacts_lookup inner hkept]
  · intro key hkept
    exact restarted_groups_lookup inner hkept

def Operation.profile_ops (self : AppState) (ctx : Ctx) (inner : StoreInner) : Operation → List ProfileOp
  | .store op => op.profile_ops self ctx inner
  | .restart => [.restart (forgotten_contacts inner) (forgotten_groups inner)]
  | _ => []

theorem Operation.looks (self : AppState) (ctx : Ctx) (op : Operation) :
    Looks ctx.now (op.profile_ops self ctx inner) inner (op.apply self ctx inner) := by
  cases op with
  | store op => exact op.looks inner self ctx
  | restart => exact restarted_looks inner ctx.now
  | try_receive_inbound_media project company request answers =>
    exact .quiet (try_receive_inbound_media_quiet ..)
  | set_message_flag message flag value =>
    refine .quiet ?_
    unfold Operation.apply state.set_message_flag
    dsimp only
    split <;> rfl
  | react_to_message message emoji answer =>
    refine .quiet ?_
    unfold Operation.apply state.react_to_message set_message_reaction
    dsimp only
    repeat' split
    all_goals rfl
  | request_transcript project company message =>
    refine .quiet ?_
    unfold Operation.apply state.request_transcript
    dsimp only
    repeat' split
    all_goals rfl
  | begin_upload idem_key request_hash =>
    refine .quiet ?_
    unfold Operation.apply state.begin_upload
    dsimp only
    repeat' split
    all_goals rfl
  | finish_upload idem_key request_hash media_result =>
    refine .quiet ?_
    unfold Operation.apply state.finish_upload
    dsimp only
    repeat' split
    all_goals rfl
  | store_profile_picture_media_bytes project company channel entity_type entity_id bytes put =>
    refine .quiet ?_
    unfold Operation.apply state.store_profile_picture_media_bytes
    dsimp only
    repeat' split
    all_goals rfl
  | save_media_with_permanent_object_key media entity_type entity_id permanent_object_key =>
    refine .quiet ?_
    unfold Operation.apply state.save_media_with_permanent_object_key update_media
    dsimp only
    repeat' split
    all_goals rfl
  | delete_media_for_company project company media =>
    refine .quiet ?_
    unfold Operation.apply state.delete_media_for_company update_media
    dsimp only
    repeat' split
    all_goals rfl
  | anonymize_contact project company contact delete_messages => exact .quiet (anonymize_contact_quiet ..)
  | remove_expired message_ids media_ids => exact .quiet rfl
  | expire_transcripts project company cutoff => exact .quiet rfl
  | redact_transcripts project company => exact .quiet rfl

end Restart

end rustzap.state
