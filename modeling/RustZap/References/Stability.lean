import RustZap.References.PublicIds
import RustZap.Tenants.Profiles

open collections runs
open rustzap.error rustzap.models rustzap.whatsapp

namespace rustzap.state

/-- What a company's references may be affected by: the recording of messages, uploads,
and what is learnt about people and groups. -/
inductive ReferenceOp where
  | tenant_op (op : TenantOp)
  | upload_outbound_media (project_id company_id : String) (upload : OutboundMediaUpload)
      (answers : UploadAnswers)
  | apply_contact_profile (input : ContactProfileApplyInput)
  | apply_group_subject (project_id company_id channel_id group_id subject : String)
      (created_at_wa : OffsetDateTime)

/-- The store with what a profile says about a group, before its participants. -/
def with_group_profile (inner : StoreInner) (group_id : String) (profile : GroupProfile) : StoreInner :=
  let record := group_record_of_profile ((inner.groups.lookup group_id).getD empty_group_record) profile
  { inner with groups := inner.groups.insert group_id record }

namespace ReferenceOp

def tenant : ReferenceOp → String × String
  | .tenant_op op => (op.project_id, op.company_id)
  | .upload_outbound_media project_id company_id _ _ => (project_id, company_id)
  | .apply_contact_profile input => (input.project_id, input.company_id)
  | .apply_group_subject project_id company_id _ _ _ _ => (project_id, company_id)

variable (self : AppState) (ctx : Ctx) (inner : StoreInner)

def apply : ReferenceOp → StoreInner
  | .tenant_op op => op.apply self ctx inner
  | .upload_outbound_media project_id company_id upload answers =>
    (state.upload_outbound_media self ctx inner project_id company_id upload answers).2
  | .apply_contact_profile input => state.apply_contact_profile ctx inner input
  | .apply_group_subject project_id company_id channel_id group_id subject created_at_wa =>
    state.apply_group_subject self ctx inner project_id company_id channel_id group_id subject created_at_wa

/-- The id under which an operation wants a conversation to be. -/
def chat : ReferenceOp → Option String
  | .tenant_op (.record_message_inner input) => some input.conversation_id
  | .tenant_op (.record_whatsapp_message input) =>
    if (input.existing inner).isSome then none else some input.conversation_id
  | .tenant_op (.apply_group_profile _ _ _ group_id _) => some group_id
  | .tenant_op (.ensure_conversation_inner _ _ conversation_id _ _) => some conversation_id
  | .tenant_op (.enrich_contact_inner _) => none
  | .upload_outbound_media project_id company_id upload answers =>
    match (state.upload_outbound_media self ctx inner project_id company_id upload answers).1 with
    | .ok _ => some (resolve_conversation_id_inner inner project_id company_id (str.trim upload.conversation_id))
    | .error _ => none
  | .apply_contact_profile _ => none
  | .apply_group_subject _ _ _ group_id subject _ => (str.non_blank subject).map fun _ => group_id

/-- The operation opens a conversation of the tenant under the id. -/
def Opens (op : ReferenceOp) (tenant : String × String) (jid : String) : Prop :=
  op.tenant = tenant ∧ op.chat self ctx inner = some jid ∧ inner.conversations.lookup jid = none

/-- The contacts with the records that the operation upserts. -/
def contacts (op : ReferenceOp) : HashMap String ContactRecord :=
  match op with
  | .tenant_op (.record_message_inner input) => (input.people ctx.now inner).2.contacts
  | .tenant_op (.record_whatsapp_message input) =>
    if (input.existing inner).isSome then inner.contacts else (input.people ctx.now inner).inner.contacts
  | .tenant_op (.apply_group_profile project_id company_id channel_id group_id profile) =>
    (profile.participants.foldl
      (apply_group_participant ctx project_id company_id channel_id group_id profile.owner_jid)
      (with_group_profile inner group_id profile)).contacts
  | .tenant_op (.ensure_conversation_inner project_id company_id conversation_id channel_id control_mode) =>
    (ensure_conversation_inner ctx inner project_id company_id conversation_id channel_id control_mode).contacts
  | .tenant_op (.enrich_contact_inner input) => (enrich_contact_inner inner input).2.contacts
  | .upload_outbound_media project_id company_id _ _ =>
    match op.chat self ctx inner with
    | none => inner.contacts
    | some conversation_id =>
      (ensure_conversation_inner ctx inner project_id company_id conversation_id
        ((send_channel inner project_id company_id conversation_id).getD "channel_dev") "manual").contacts
  | .apply_contact_profile input => (enrich_contact_inner inner (input.enrichment ctx.now)).2.contacts
  | .apply_group_subject .. => inner.contacts

end ReferenceOp

/-- Whose the conversation under an id is. -/
def owner_of (inner : StoreInner) (jid : String) : Option (String × String) :=
  (inner.conversations.lookup jid).map Conversation.tenant

theorem has_conversation_iff_owner {tenant : String × String} {inner : StoreInner} {jid : String} :
    HasConversation tenant inner jid ↔ owner_of inner jid = some tenant := by
  rw [owner_of, Option.map_eq_some_iff, HasConversation]

/-- No conversation changes hands, and at most one is added: the tenant's, under one id. -/
structure Opened (tenant : String × String) (chat : Option String) (inner inner' : StoreInner) : Prop where
  owner : ∀ jid, owner_of inner' jid = (owner_of inner jid).or (if chat = some jid then some tenant else none)

section Opened

variable {tenant : String × String} {inner inner' : StoreInner}

theorem Opened.kept (h : ∀ jid, owner_of inner' jid = owner_of inner jid) : Opened tenant none inner inner' := by
  constructor
  intro jid
  rw [h, if_neg nofun, Option.or_none]

theorem Opened.inserted {jid : String} {conversation : Conversation}
    (hconversations : inner'.conversations = inner.conversations.insert jid conversation)
    (howner : some conversation.tenant = (owner_of inner jid).or (some tenant)) :
    Opened tenant (some jid) inner inner' := by
  constructor
  intro other
  rw [owner_of, hconversations, HashMap.lookup_insert_ite]
  split
  · next h =>
    subst h
    rw [if_pos rfl]
    exact howner
  · next h =>
    rw [if_neg fun hsame => h (Option.some.inj hsame).symm, Option.or_none]
    rfl

theorem Opened.congr {chat : Option String} {mid inner'' : StoreInner} (h : Opened tenant chat mid inner')
    (hold : mid.conversations = inner.conversations) (hnew : inner''.conversations = inner'.conversations) :
    Opened tenant chat inner inner'' := by
  constructor
  intro jid
  rw [owner_of, hnew, ← owner_of, h.owner, owner_of, hold, ← owner_of]

theorem Recorded.opened {ctx : Ctx} {message : Message} (h : Recorded ctx inner message inner') :
    Opened message.tenant (some message.conversation_id) inner inner' := by
  obtain ⟨conversation, contacts, group_members, events, hcounted, rfl⟩ := h
  refine .inserted rfl ?_
  rw [Conversation.tenant, hcounted.project_id, hcounted.company_id, owner_of]
  cases inner.conversations.lookup message.conversation_id <;> rfl

theorem ensure_conversation_inner_opened (ctx : Ctx) (inner : StoreInner)
    (project_id company_id conversation_id channel_id control_mode : String) :
    Opened (project_id, company_id) (some conversation_id) inner
      (ensure_conversation_inner ctx inner project_id company_id conversation_id channel_id control_mode) := by
  unfold ensure_conversation_inner
  split
  · next hsome =>
    constructor
    intro jid
    split
    · next hjid =>
      cases hjid
      obtain ⟨conversation, hconversation⟩ := Option.isSome_iff_exists.mp hsome
      rw [owner_of, hconversation]
      rfl
    · rw [Option.or_none]
  · next hnone =>
    have hfree : owner_of inner conversation_id = none := by
      rw [owner_of, Option.map_eq_none_iff]
      exact Option.not_isSome_iff_eq_none.mp hnone
    dsimp only
    split
    · refine .inserted rfl ?_
      rw [hfree]
      rfl
    · refine .inserted rfl ?_
      rw [hfree]
      rfl

theorem apply_group_participants_conversations (ctx : Ctx) (project_id company_id channel_id group_id : String)
    (owner_jid : Option String) (participants : List GroupParticipantProfile) :
    ∀ inner : StoreInner, (participants.foldl
      (apply_group_participant ctx project_id company_id channel_id group_id owner_jid) inner).conversations =
        inner.conversations := by
  induction participants with
  | nil => exact fun _ => rfl
  | cons participant participants ih =>
    intro inner
    rw [List.foldl_cons, ih]
    exact (apply_group_participant_core ..).conversations

theorem store_group_record_opened (now : OffsetDateTime) (inner : StoreInner)
    (project_id company_id channel_id group_id : String) (record : GroupRecord) :
    Opened (project_id, company_id) (some group_id) inner
      (store_group_record now inner project_id company_id channel_id group_id record) := by
  refine .inserted rfl ?_
  rw [owner_of]
  cases inner.conversations.lookup group_id <;> rfl

theorem apply_group_profile_opened (self : AppState) (ctx : Ctx) (inner : StoreInner)
    (project_id company_id channel_id group_id : String) (profile : GroupProfile) :
    Opened (project_id, company_id) (some group_id) inner
      (apply_group_profile self ctx inner project_id company_id channel_id group_id profile) :=
  (store_group_record_opened ..).congr (apply_group_participants_conversations ctx project_id company_id
    channel_id group_id profile.owner_jid profile.participants (with_group_profile inner group_id profile)) rfl

theorem apply_group_subject_opened (self : AppState) (ctx : Ctx) (inner : StoreInner)
    (project_id company_id channel_id group_id subject : String) (created_at_wa : OffsetDateTime) :
    Opened (project_id, company_id) ((str.non_blank subject).map fun _ => group_id) inner
      (apply_group_subject self ctx inner project_id company_id channel_id group_id subject created_at_wa) := by
  unfold apply_group_subject
  cases str.non_blank subject with
  | none => exact .kept fun _ => rfl
  | some subject => exact (store_group_record_opened ..).congr rfl rfl

theorem upload_outbound_media_cases (self : AppState) (ctx : Ctx) (inner : StoreInner)
    (project_id company_id : String) (upload : OutboundMediaUpload) (answers : UploadAnswers) :
    (∃ err, upload_outbound_media self ctx inner project_id company_id upload answers = (.error err, inner)) ∨
    ∃ media, upload_outbound_media self ctx inner project_id company_id upload answers =
      (.ok media,
        let conversation_id := resolve_conversation_id_inner inner project_id company_id
          (str.trim upload.conversation_id)
        let inner := ensure_conversation_inner ctx inner project_id company_id conversation_id
          ((send_channel inner project_id company_id conversation_id).getD "channel_dev") "manual"
        { inner with media := inner.media.insert media.id media }) := by
  unfold upload_outbound_media
  dsimp only
  repeat' split
  all_goals first | exact Or.inl ⟨_, rfl⟩ | exact Or.inr ⟨_, rfl⟩

/-- A profile that is applied renames conversations, and nothing more. -/
theorem apply_contact_profile_opened (ctx : Ctx) (inner : StoreInner) (input : ContactProfileApplyInput) :
    Opened (input.project_id, input.company_id) none inner (apply_contact_profile ctx inner input) := by
  refine .kept fun jid => ?_
  unfold apply_contact_profile
  extract_lets enriched contact inner₁ aliases conversations inner₂
  have hfirst : (conversations.lookup jid).map Conversation.tenant = owner_of inner jid := by
    simp only [conversations]
    split
    · next conversation hstored =>
      have hstored : inner.conversations.lookup input.conversation_id = some conversation := hstored
      split
      · rw [HashMap.lookup_insert_ite]
        split
        · next hjid =>
          rw [hjid, owner_of, hstored]
          rfl
        · rfl
      · rfl
    · rfl
  rw [owner_of]
  change ((conversations.map_values _).lookup jid).map Conversation.tenant = _
  rw [HashMap.lookup_map_values, Option.map_map, ← hfirst]
  refine congrArg (fun owner => (conversations.lookup jid).map owner) (funext fun conversation => ?_)
  rw [Function.comp_apply]
  split <;> rfl

end Opened

namespace ReferenceOp

variable (self : AppState) (ctx : Ctx) (inner : StoreInner)

theorem opened (op : ReferenceOp) :
    Opened op.tenant (op.chat self ctx inner) inner (op.apply self ctx inner) := by
  cases op with
  | tenant_op op =>
    cases op with
    | record_message_inner input => exact (record_message_inner_recorded ctx inner input).opened
    | record_whatsapp_message input =>
      dsimp only [tenant, chat, apply, TenantOp.apply]
      rcases record_whatsapp_message_cases ctx inner input with ⟨existing, hexisting, heq⟩ | ⟨hnone, heq⟩
      · rw [heq, hexisting, Option.isSome_some, if_pos rfl]
        exact .kept fun _ => rfl
      · rw [heq, hnone, Option.isSome_none, if_neg Bool.false_ne_true]
        exact (input.record_recorded ctx inner).opened
    | apply_group_profile project_id company_id channel_id group_id profile =>
      exact apply_group_profile_opened self ctx inner project_id company_id channel_id group_id profile
    | ensure_conversation_inner project_id company_id conversation_id channel_id control_mode =>
      exact ensure_conversation_inner_opened ctx inner project_id company_id conversation_id channel_id control_mode
    | enrich_contact_inner input => exact .kept fun _ => rfl
  | upload_outbound_media project_id company_id upload answers =>
    dsimp only [tenant, chat, apply]
    rcases upload_outbound_media_cases self ctx inner project_id company_id upload answers with
      ⟨err, heq⟩ | ⟨media, heq⟩
    · rw [heq]
      exact .kept fun _ => rfl
    · rw [heq]
      exact (ensure_conversation_inner_opened ..).congr rfl rfl
  | apply_contact_profile input => exact apply_contact_profile_opened ctx inner input
  | apply_group_subject project_id company_id channel_id group_id subject created_at_wa =>
    exact apply_group_subject_opened ..

theorem apply_contacts (op : ReferenceOp) : (op.apply self ctx inner).contacts = op.contacts self ctx inner := by
  cases op with
  | tenant_op op =>
    cases op with
    | record_whatsapp_message input =>
      dsimp only [contacts, apply, TenantOp.apply]
      rcases record_whatsapp_message_cases ctx inner input with ⟨existing, hexisting, heq⟩ | ⟨hnone, heq⟩
      · rw [heq, hexisting]
        rfl
      · rw [heq, hnone]
        rfl
    | _ => rfl
  | upload_outbound_media project_id company_id upload answers =>
    dsimp only [contacts, chat, apply]
    rcases upload_outbound_media_cases self ctx inner project_id company_id upload answers with
      ⟨err, heq⟩ | ⟨media, heq⟩
    · rw [heq]
    · rw [heq]
  | apply_contact_profile input => rfl
  | apply_group_subject project_id company_id channel_id group_id subject created_at_wa =>
    dsimp only [contacts, apply, state.apply_group_subject]
    cases str.non_blank subject with
    | none => rfl
    | some subject => rfl

/-- The tenant's conversations after an operation. -/
theorem has_conversation_apply_iff {op : ReferenceOp} {owner : String × String} {jid : String} :
    HasConversation owner (op.apply self ctx inner) jid ↔
      HasConversation owner inner jid ∨ op.Opens self ctx inner owner jid := by
  rw [has_conversation_iff_owner, has_conversation_iff_owner, (op.opened self ctx inner).owner, Opens]
  unfold owner_of
  cases inner.conversations.lookup jid with
  | some conversation => simp
  | none =>
    rw [Option.map_none, Option.none_or]
    split
    · next hchat => simp [hchat]
    · next hchat => simp [hchat]

/-- One operation of the service on behalf of a company. The maps may yield their
entries in another order from one operation to the next. -/
def Next (inner : StoreInner) (label : Ctx × ReferenceOp) (inner' : StoreInner) : Prop :=
  (label.2.apply self label.1 inner).Reordered inner'

end ReferenceOp

/-- The operation opens no conversation under the reference, and of the conversations that
the reference's number then leads to, the given one is still the first. -/
def KeepsReference (self : AppState) (tenant : String × String) (reference jid : String) (inner : StoreInner)
    (label : Ctx × ReferenceOp) : Prop :=
  str.trim reference = jid ∨
    ¬ label.2.Opens self label.1 inner tenant (str.trim reference) ∧
      ∀ phone_number, reference_phone_number (str.trim reference) = some phone_number →
        Linked tenant (label.2.contacts self label.1 inner) phone_number jid ∧
        ∀ other, Linked tenant (label.2.contacts self label.1 inner) phone_number other →
          HasConversation tenant inner other ∨ label.2.Opens self label.1 inner tenant other → jid ≤ other

/-- The reference leads to a conversation of the company. -/
structure LeadsTo (project_id company_id reference jid : String) (inner : StoreInner) : Prop where
  resolved : resolve_conversation_id_inner inner project_id company_id reference = jid
  conversation : HasConversation (project_id, company_id) inner jid

/-- What a request can do that names the conversation by the reference: it reads the
conversation, and sends the media objects that were uploaded to it. -/
structure Usable (project_id company_id reference jid : String) (inner : StoreInner) : Prop where
  read : ∃ stored, inner.conversations.lookup jid = some stored ∧
    conversation_for_inner inner project_id company_id reference = .ok stored
  attached : ∀ media_id media, inner.media.lookup media_id = some media → media.project_id = project_id →
    media.company_id = company_id → media.conversation_id = jid → media.storage_status ≠ "rejected" →
    media_for_send inner project_id company_id
      (resolve_conversation_id_inner inner project_id company_id reference) (some media_id) = .ok (some media)

section LeadsTo

variable {project_id company_id reference jid : String} {inner inner' : StoreInner}

theorem LeadsTo.usable (h : LeadsTo project_id company_id reference jid inner) :
    Usable project_id company_id reference jid inner := by
  obtain ⟨stored, hstored, howner⟩ := h.conversation
  have hmatches : conversation_matches_tenant stored project_id company_id = true := by
    rw [conversation_matches_tenant_eq]
    exact decide_eq_true howner
  refine ⟨⟨stored, hstored, ?_⟩, ?_⟩
  · rw [conversation_for_inner, h.resolved, hstored, Option.filter_some, if_pos hmatches]
  · intro media_id media hmedia hproject hcompany hconversation hstatus
    rw [h.resolved, media_for_send, hmedia]
    dsimp only
    rw [if_neg (not_or.mpr ⟨not_not.mpr hproject, not_not.mpr hcompany⟩), if_neg (not_not.mpr hconversation),
      if_neg hstatus]

theorem LeadsTo.reordered (h : LeadsTo project_id company_id reference jid inner)
    (hconversations : inner.conversations.Reordered inner'.conversations)
    (hcontacts : inner.contacts.Reordered inner'.contacts) :
    LeadsTo project_id company_id reference jid inner' := by
  have hconversation : ∀ other, HasConversation (project_id, company_id) inner' other ↔
      HasConversation (project_id, company_id) inner other := by
    intro other
    rw [HasConversation, ← hconversations.lookup, HasConversation]
  have hlinked : ∀ phone_number other, Linked (project_id, company_id) inner'.contacts phone_number other ↔
      Linked (project_id, company_id) inner.contacts phone_number other := by
    intro phone_number other
    rw [Linked, Linked]
    simp only [hcontacts.values.mem_iff]
  refine ⟨?_, (hconversation jid).mpr h.conversation⟩
  rw [resolve_conversation_id_iff ((hconversation jid).mpr h.conversation)]
  refine ((resolve_conversation_id_iff h.conversation).mp h.resolved).imp id ?_
  rintro ⟨hfree, phone_number, hnumber, hfirst⟩
  refine ⟨mt (hconversation _).mp hfree, phone_number, hnumber, ?_, ?_, ?_⟩
  · exact (hlinked _ _).mpr hfirst.linked
  · exact (hconversation _).mpr hfirst.conversation
  · exact fun other hother hexists => hfirst.least other ((hlinked _ _).mp hother) ((hconversation _).mp hexists)

theorem LeadsTo.apply_iff (h : LeadsTo project_id company_id reference jid inner) (self : AppState)
    (label : Ctx × ReferenceOp) :
    LeadsTo project_id company_id reference jid (label.2.apply self label.1 inner) ↔
      KeepsReference self (project_id, company_id) reference jid inner label := by
  have hafter : HasConversation (project_id, company_id) (label.2.apply self label.1 inner) jid :=
    (ReferenceOp.has_conversation_apply_iff ..).mpr (Or.inl h.conversation)
  have hbefore := (resolve_conversation_id_iff h.conversation).mp h.resolved
  have hresolved : resolve_conversation_id_inner (label.2.apply self label.1 inner) project_id company_id
      reference = jid ↔ _ := resolve_conversation_id_iff hafter
  rw [KeepsReference]
  by_cases hown : str.trim reference = jid
  · exact iff_of_true ⟨hresolved.mpr (Or.inl hown), hafter⟩ (Or.inl hown)
  · obtain ⟨hfree, phone_number, hnumber, -⟩ := hbefore.resolve_left hown
    rw [or_iff_right hown] at hresolved ⊢
    constructor
    · intro hleads
      obtain ⟨hfree', phone_number', hnumber', hfirst⟩ := hresolved.mp hleads.resolved
      rw [ReferenceOp.has_conversation_apply_iff] at hfree'
      refine ⟨fun hopens => hfree' (Or.inr hopens), fun number hnumber => ?_⟩
      cases hnumber'.symm.trans hnumber
      rw [← ReferenceOp.apply_contacts]
      exact ⟨hfirst.linked, fun other hother hexists =>
        hfirst.least other hother ((ReferenceOp.has_conversation_apply_iff ..).mpr hexists)⟩
    · rintro ⟨hopens, hleast⟩
      obtain ⟨hlinked, hleast⟩ := hleast phone_number hnumber
      rw [← ReferenceOp.apply_contacts] at hlinked hleast
      refine ⟨hresolved.mpr ⟨?_, phone_number, hnumber, hlinked, hafter, ?_⟩, hafter⟩
      · rw [ReferenceOp.has_conversation_apply_iff]
        exact not_or.mpr ⟨hfree, hopens⟩
      · intro other hother hexists
        exact hleast other hother ((ReferenceOp.has_conversation_apply_iff ..).mp hexists)

theorem LeadsTo.next_iff (h : LeadsTo project_id company_id reference jid inner) {self : AppState}
    {label : Ctx × ReferenceOp} (hnext : ReferenceOp.Next self inner label inner') :
    LeadsTo project_id company_id reference jid inner' ↔
      KeepsReference self (project_id, company_id) reference jid inner label := by
  rw [← h.apply_iff]
  exact ⟨fun hleads => hleads.reordered hnext.conversations.symm hnext.contacts.symm,
    fun hleads => hleads.reordered hnext.conversations hnext.contacts⟩

end LeadsTo

/-- A reference that leads to a conversation leads there after every further operation
that keeps it, and after no other. -/
theorem reference_stable_iff (self : AppState) {project_id company_id reference jid : String}
    {start inner : StoreInner} {labels : List (Ctx × ReferenceOp)}
    (hleads : LeadsTo project_id company_id reference jid start)
    (hrun : Run (Guarded (ReferenceOp.Next self)
      (KeepsReference self (project_id, company_id) reference jid)) start labels inner) :
    LeadsTo project_id company_id reference jid inner ∧ Usable project_id company_id reference jid inner ∧
      ∀ label inner', ReferenceOp.Next self inner label inner' →
        (LeadsTo project_id company_id reference jid inner' ↔
          KeepsReference self (project_id, company_id) reference jid inner label) := by
  have hkept : LeadsTo project_id company_id reference jid inner := by
    have hstep : ∀ before label after, LeadsTo project_id company_id reference jid before →
        Guarded (ReferenceOp.Next self) (KeepsReference self (project_id, company_id) reference jid)
            before label after →
          LeadsTo project_id company_id reference jid after :=
      fun _ _ _ hbefore hnext => (hbefore.next_iff hnext.2).mpr hnext.1
    exact hrun.invariant hstep hleads
  exact ⟨hkept, hkept.usable, fun label inner' hnext => hkept.next_iff hnext⟩

/-- That whatever a company does, its references lead where they led. -/
def ReferencesStable (self : AppState) : Prop :=
  ∀ lived store project_id company_id reference jid ops inner,
    Run (Store.Lives self) Store.empty lived store →
      LeadsTo project_id company_id reference jid store.inner →
        Run (Guarded (ReferenceOp.Next self) fun _ label => label.2.tenant = (project_id, company_id))
          store.inner ops inner → LeadsTo project_id company_id reference jid inner

namespace sample

/-- Somebody has written from a phone number. -/
def phone_chat : Store :=
  live Store.empty [(received.1, .store received.2)]

theorem phone_chat_leads :
    LeadsTo "acme" "company_a" "5511988887777" "5511988887777@s.whatsapp.net" phone_chat.inner :=
  ⟨by decide, has_conversation_iff.mp (by decide)⟩

/-- The company records another message. -/
def recorded (event : MessageEvent) : Ctx × ReferenceOp :=
  (ctx 2 "b", .tenant_op (.record_whatsapp_message (whatsapp_message_input company_a event)))

def after (event : MessageEvent) : StoreInner :=
  (recorded event).2.apply service (recorded event).1 phone_chat.inner

theorem recorded_next (event : MessageEvent) :
    ReferenceOp.Next service phone_chat.inner (recorded event) (after event) :=
  StoreInner.Reordered.refl _

end sample

/-- Another text in the chat leaves the reference where it led. -/
theorem second_text_keeps_reference :
    Usable "acme" "company_a" "5511988887777" "5511988887777@s.whatsapp.net"
      (sample.after (sample.text_event "3EB0B0" 2 false)) := by
  have hnext := sample.recorded_next (sample.text_event "3EB0B0" 2 false)
  have hchat : (sample.recorded (sample.text_event "3EB0B0" 2 false)).2.chat sample.service (sample.ctx 2 "b")
      sample.phone_chat.inner = some "5511988887777@s.whatsapp.net" := by decide
  -- all ids of the contacts with the number are the chat's own
  have hlinked : ∀ other ∈ linked_ids "acme" "company_a" ((sample.recorded (sample.text_event "3EB0B0" 2
      false)).2.contacts sample.service (sample.ctx 2 "b") sample.phone_chat.inner) "5511988887777",
      other = "5511988887777@s.whatsapp.net" := by decide
  have hnumber : reference_phone_number (str.trim "5511988887777") = some "5511988887777" := by decide
  have hkeeps : KeepsReference sample.service ("acme", "company_a") "5511988887777"
      "5511988887777@s.whatsapp.net" sample.phone_chat.inner
      (sample.recorded (sample.text_event "3EB0B0" 2 false)) := by
    refine Or.inr ⟨fun hopens => ?_, fun phone_number hread => ⟨?_, fun other hother _ => ?_⟩⟩
    · exact absurd (hchat.symm.trans hopens.2.1) (by decide)
    · cases hnumber.symm.trans hread
      exact Or.inl (by decide)
    · cases hnumber.symm.trans hread
      exact le_of_eq (hlinked other (mem_linked_ids.mpr hother)).symm
  exact (reference_stable_iff sample.service sample.phone_chat_leads (.cons ⟨hkeeps, hnext⟩ (.nil _))).2.1

/-- The person writes from a chat under a LID, which comes first among the number's
conversations: what was uploaded to the phone number cannot be sent to it any more. -/
theorem lid_message_moves_reference : ¬ ReferencesStable sample.service := by
  intro hstable
  have hnext := sample.recorded_next (sample.lid_event "3EB0B0" 2)
  have hrun : Run (Guarded (ReferenceOp.Next sample.service) fun _ label => label.2.tenant = ("acme", "company_a"))
      sample.phone_chat.inner [sample.recorded (sample.lid_event "3EB0B0" 2)]
      (sample.after (sample.lid_event "3EB0B0" 2)) := .cons ⟨rfl, hnext⟩ (.nil _)
  have hleads := hstable _ sample.phone_chat "acme" "company_a" "5511988887777" "5511988887777@s.whatsapp.net" _ _
    (sample.lives [(sample.received.1, .store sample.received.2)] Store.empty (by decide))
    sample.phone_chat_leads hrun
  have hmoved : resolve_conversation_id_inner (sample.after (sample.lid_event "3EB0B0" 2)) "acme" "company_a"
      "5511988887777" = "200889293889773@lid" := by decide
  exact absurd (hmoved.symm.trans hleads.resolved) (by decide)

end rustzap.state
