import RustZap.State.ContactReads
import RustZap.State.Service

open collections serde_json runs
open rustzap.error rustzap.models rustzap.whatsapp

namespace rustzap.state

/-- What a company's own record of a person consists of: who owns it, its names, its
phone and the ids it is linked with. -/
structure SameContact (old new : ContactRecord) : Prop where
  id : new.id = old.id
  project_id : new.project_id = old.project_id
  company_id : new.company_id = old.company_id
  push_name : new.push_name = old.push_name
  display_name : new.display_name = old.display_name
  phone_e164 : new.phone_e164 = old.phone_e164
  canonical_jid : new.canonical_jid = old.canonical_jid
  lid : new.lid = old.lid

/-- What another company than the given one finds in the contacts. An export and a
phone number are resolved against the rest of the store as well, so these are compared
with what they would give had the contacts stayed as they were. -/
structure SameReads (project_id company_id : String) (inner inner' : StoreInner) : Prop where
  contacts : ∀ self, contacts self inner' project_id company_id = contacts self inner project_id company_id
  contact : ∀ contact_id,
    contact inner' project_id company_id contact_id = contact inner project_id company_id contact_id
  by_phone : ∀ phone_number, contact_id_for_phone_number_inner inner' project_id company_id phone_number =
    contact_id_for_phone_number_inner inner project_id company_id phone_number
  conversation : ∀ conversation_id,
    resolve_conversation_id_inner inner' project_id company_id conversation_id =
      resolve_conversation_id_inner { inner' with contacts := inner.contacts } project_id company_id
        conversation_id
  privacy_export : ∀ contact_id, privacy_export_contact inner' project_id company_id contact_id =
    privacy_export_contact { inner' with contacts := inner.contacts } project_id company_id contact_id

/-- The records of all companies but the given one are as they were, and so are the
reads of these companies. -/
structure ContactsKept (project_id company_id : String) (inner inner' : StoreInner) : Prop where
  kept : ∀ key contact, inner.contacts.lookup key = some contact →
    contact.matches_tenant project_id company_id = false →
    ∃ contact', inner'.contacts.lookup key = some contact' ∧ SameContact contact contact'
  reads : ∀ project company, (project, company) ≠ (project_id, company_id) →
    SameReads project company inner inner'

/-- The contacts after records of one company have been written under some keys. -/
def Claimed (project_id company_id : String) (keys : List String)
    (contacts contacts' : HashMap String ContactRecord) : Prop :=
  ∃ writes : List (String × ContactRecord), contacts' = contacts.extend writes ∧
    (∀ key, key ∈ writes.map Prod.fst ↔ key ∈ keys) ∧
    ∀ write ∈ writes, write.2.matches_tenant project_id company_id = true

section Claimed

variable {project_id company_id : String} {keys : List String}
  {contacts contacts' : HashMap String ContactRecord}

theorem Claimed.refl (contacts : HashMap String ContactRecord) :
    Claimed project_id company_id [] contacts contacts :=
  ⟨[], rfl, fun _ => Iff.rfl, fun _ hwrite => absurd hwrite List.not_mem_nil⟩

theorem Claimed.trans {keys' : List String} {contacts'' : HashMap String ContactRecord}
    (h : Claimed project_id company_id keys contacts contacts')
    (h' : Claimed project_id company_id keys' contacts' contacts'') :
    Claimed project_id company_id (keys ++ keys') contacts contacts'' := by
  obtain ⟨writes, heq, hkeys, howner⟩ := h
  obtain ⟨writes', heq', hkeys', howner'⟩ := h'
  refine ⟨writes ++ writes', ?_, ?_, ?_⟩
  · rw [heq', heq, HashMap.extend, HashMap.extend, HashMap.extend, List.foldl_append]
  · intro key
    rw [List.map_append, List.mem_append, List.mem_append, hkeys, hkeys']
  · intro write hwrite
    rcases List.mem_append.mp hwrite with hwrite | hwrite
    · exact howner write hwrite
    · exact howner' write hwrite

theorem Claimed.not_mem (h : Claimed project_id company_id keys contacts contacts') {key : String}
    (hkey : key ∉ keys) : contacts'.lookup key = contacts.lookup key := by
  obtain ⟨writes, rfl, hkeys, -⟩ := h
  exact HashMap.lookup_extend_of_not_mem (mt (hkeys key).mp hkey) contacts

theorem Claimed.mem (h : Claimed project_id company_id keys contacts contacts') {key : String}
    (hkey : key ∈ keys) :
    ∃ contact, contacts'.lookup key = some contact ∧ contact.matches_tenant project_id company_id = true := by
  obtain ⟨writes, rfl, hkeys, howner⟩ := h
  obtain ⟨write, hwrite, hlookup⟩ := HashMap.lookup_extend_of_mem ((hkeys key).mpr hkey) contacts
  exact ⟨write.2, hlookup, howner write hwrite⟩

/-- A selection of other companies' records is not affected where no such record was
overwritten. -/
theorem Claimed.filter_values (h : Claimed project_id company_id keys contacts contacts')
    {select : ContactRecord → Bool}
    (hother : ∀ contact, contact.matches_tenant project_id company_id = true → select contact = false)
    (hkeys : ∀ key ∈ keys, ∀ contact, contacts.lookup key = some contact →
      contact.matches_tenant project_id company_id = true) :
    contacts'.values.filter select = contacts.values.filter select := by
  obtain ⟨writes, rfl, hmem, howner⟩ := h
  refine HashMap.filter_values_extend (fun write hwrite => hother _ (howner write hwrite)) contacts ?_
  intro write hwrite contact hcontact
  exact hother contact (hkeys _ ((hmem _).mp (List.mem_map_of_mem hwrite)) contact hcontact)

theorem Claimed.filter_lookup (h : Claimed project_id company_id keys contacts contacts')
    {select : ContactRecord → Bool}
    (hother : ∀ contact, contact.matches_tenant project_id company_id = true → select contact = false)
    (hkeys : ∀ key ∈ keys, ∀ contact, contacts.lookup key = some contact →
      contact.matches_tenant project_id company_id = true) (key : String) :
    (contacts'.lookup key).filter select = (contacts.lookup key).filter select := by
  by_cases hkey : key ∈ keys
  · obtain ⟨contact', hcontact', howner⟩ := h.mem hkey
    have hold : (contacts.lookup key).filter select = none := by
      rw [Option.filter_eq_none_iff]
      intro contact hcontact
      rw [hother contact (hkeys key hkey contact hcontact)]
      exact Bool.false_ne_true
    rw [hold, hcontact', Option.filter_some, hother contact' howner]
    rfl
  · rw [h.not_mem hkey]

end Claimed

/-- The keys under which an enrichment writes. -/
def ContactEnrichmentInput.keys (input : ContactEnrichmentInput) : List String :=
  input.contact_id :: input.aliases

/-- The enrichment that an upsert with another id amounts to. -/
def ContactUpsertWithAltInput.enrichment (input : ContactUpsertWithAltInput) (profile : ContactProfile) :
    ContactEnrichmentInput where
  project_id := input.contact.project_id
  company_id := input.contact.company_id
  channel_id := input.contact.channel_id
  contact_id := input.contact.contact_id
  push_name := input.contact.push_name
  profile := { profile with
    profile_picture_url := input.contact.profile_picture_url.or profile.profile_picture_url }
  now := input.contact.now
  profile_lookup_succeeded := false

def ContactUpsertWithAltInput.keys (input : ContactUpsertWithAltInput) : List String :=
  match contact_profile_from_alt input.contact.contact_id input.alt_jid with
  | some profile => (input.enrichment profile).keys
  | none => [input.contact.contact_id]

section Writes

variable (inner : StoreInner)

theorem ContactUpsertInput.apply_owner (input : ContactUpsertInput) (entry : ContactRecord) :
    (input.apply entry).matches_tenant input.project_id input.company_id = true := by
  have howner : (input.apply entry).project_id = input.project_id ∧
      (input.apply entry).company_id = input.company_id := by
    unfold ContactUpsertInput.apply
    dsimp only
    repeat' split
    all_goals exact ⟨rfl, rfl⟩
  rw [ContactRecord.matches_tenant, howner.1, howner.2, decide_eq_true rfl, decide_eq_true rfl]
  rfl

theorem ContactEnrichmentInput.apply_owner (input : ContactEnrichmentInput) (entry : ContactRecord)
    (project_id company_id : String) :
    (input.apply entry).matches_tenant project_id company_id = entry.matches_tenant project_id company_id := by
  have howner : (input.apply entry).project_id = entry.project_id ∧
      (input.apply entry).company_id = entry.company_id := by
    unfold ContactEnrichmentInput.apply
    dsimp only
    repeat' split
    all_goals exact ⟨rfl, rfl⟩
  rw [ContactRecord.matches_tenant, howner.1, howner.2, ContactRecord.matches_tenant]

theorem upsert_contact_inner_claimed (input : ContactUpsertInput) :
    Claimed input.project_id input.company_id [input.contact_id] inner.contacts
      (upsert_contact_inner inner input).2.contacts := by
  refine ⟨[(input.contact_id, (upsert_contact_inner inner input).1)], rfl, fun _ => Iff.rfl, ?_⟩
  intro write hwrite
  rw [List.mem_singleton.mp hwrite]
  exact input.apply_owner _

/-- An enrichment writes the record of its contact twice, and then its aliases. -/
theorem enrich_contact_inner_claimed (input : ContactEnrichmentInput) :
    Claimed input.project_id input.company_id input.keys inner.contacts
      (enrich_contact_inner inner input).2.contacts := by
  have hupserted : (upsert_contact_inner inner input.upsert).1.matches_tenant input.project_id
      input.company_id = true := input.upsert.apply_owner _
  have henriched : (enrich_contact_inner inner input).1.matches_tenant input.project_id
      input.company_id = true := (input.apply_owner _ _ _).trans hupserted
  refine ⟨(input.contact_id, (upsert_contact_inner inner input.upsert).1) ::
    (input.contact_id, (enrich_contact_inner inner input).1) ::
    input.aliases.map (fun jid => (jid, { (enrich_contact_inner inner input).1 with id := jid })), ?_, ?_, ?_⟩
  · rw [HashMap.extend, List.foldl_cons, List.foldl_cons, List.foldl_map]
    rfl
  · intro key
    rw [ContactEnrichmentInput.keys, List.map_cons, List.map_cons, List.map_map]
    have hkeys : input.aliases.map (Prod.fst ∘ fun jid =>
        (jid, { (enrich_contact_inner inner input).1 with id := jid })) = input.aliases := List.map_id _
    rw [hkeys, List.mem_cons, List.mem_cons]
    exact or_self_left
  · intro write hwrite
    rcases List.mem_cons.mp hwrite with rfl | hwrite
    · exact hupserted
    · rcases List.mem_cons.mp hwrite with rfl | hwrite
      · exact henriched
      · obtain ⟨jid, -, rfl⟩ := List.mem_map.mp hwrite
        exact henriched

theorem upsert_contact_with_alt_inner_claimed (input : ContactUpsertWithAltInput) :
    Claimed input.contact.project_id input.contact.company_id input.keys inner.contacts
      (upsert_contact_with_alt_inner inner input).2.contacts := by
  unfold upsert_contact_with_alt_inner ContactUpsertWithAltInput.keys
  cases contact_profile_from_alt input.contact.contact_id input.alt_jid with
  | none => exact upsert_contact_inner_claimed inner input.contact
  | some profile => exact enrich_contact_inner_claimed inner (input.enrichment profile)

/-- The upsert of a contact of a WhatsApp message. -/
def WhatsappMessageInput.upsert_input (input : WhatsappMessageInput) (now : OffsetDateTime)
    (push_name alt_jid : Option String) (contact_id : String) : ContactUpsertWithAltInput where
  contact :=
    { project_id := input.project_id, company_id := input.company_id, channel_id := some input.channel_id,
      contact_id, push_name, profile_picture_url := none, now }
  alt_jid := alt_jid

/-- The keys of a message's contact and, in a group, of its sender. -/
def WhatsappMessageInput.keys (input : WhatsappMessageInput) (now : OffsetDateTime) : List String :=
  (input.contact_key.toList.flatMap fun contact_id =>
    (input.upsert_input now input.contact_name input.contact_alt_jid contact_id).keys) ++
  ((if input.is_inbound_group then input.sender_contact_id else none).toList.flatMap fun contact_id =>
    (input.upsert_input now input.sender_name input.sender_alt_jid contact_id).keys)

theorem WhatsappMessageInput.upsert_contact_claimed (input : WhatsappMessageInput) (now : OffsetDateTime)
    (contact_id push_name alt_jid : Option String) :
    Claimed input.project_id input.company_id
      (contact_id.toList.flatMap fun contact_id => (input.upsert_input now push_name alt_jid contact_id).keys)
      inner.contacts (input.upsert_contact now inner contact_id push_name alt_jid).2.contacts := by
  cases contact_id with
  | none => exact .refl _
  | some contact_id =>
    rw [Option.toList_some, List.flatMap_singleton]
    exact upsert_contact_with_alt_inner_claimed inner (input.upsert_input now push_name alt_jid contact_id)

theorem WhatsappMessageInput.people_claimed (input : WhatsappMessageInput) (now : OffsetDateTime) :
    Claimed input.project_id input.company_id (input.keys now) inner.contacts
      (input.people now inner).inner.contacts := by
  have hcontact := input.upsert_contact_claimed inner now input.contact_key input.contact_name
    input.contact_alt_jid
  have hsender := input.upsert_contact_claimed (input.upsert_contact now inner input.contact_key
    input.contact_name input.contact_alt_jid).2 now
    (if input.is_inbound_group then input.sender_contact_id else none) input.sender_name input.sender_alt_jid
  unfold WhatsappMessageInput.people
  dsimp only
  split <;> exact hcontact.trans hsender

theorem RecordMessageInput.people_claimed (input : RecordMessageInput) (now : OffsetDateTime) :
    Claimed input.project_id input.company_id input.contact_id.toList inner.contacts
      (input.people now inner).2.contacts := by
  unfold RecordMessageInput.people
  cases input.contact_id with
  | none =>
    dsimp only
    split <;> exact .refl _
  | some contact_id =>
    dsimp only
    split <;> exact upsert_contact_inner_claimed inner _

/-- The upsert of a participant whose phone is known. -/
def participant_upsert (now : OffsetDateTime) (project_id company_id channel_id : String)
    (participant : GroupParticipantProfile) (phone_jid : String) : ContactUpsertWithAltInput where
  contact :=
    { project_id, company_id, channel_id := some channel_id, contact_id := participant.contact_id,
      push_name := none, profile_picture_url := none, now }
  alt_jid := some phone_jid

def participant_keys (now : OffsetDateTime) (project_id company_id channel_id : String)
    (participant : GroupParticipantProfile) : List String :=
  participant.phone_jid.toList.flatMap fun phone_jid =>
    (participant_upsert now project_id company_id channel_id participant phone_jid).keys

theorem apply_group_participant_claimed (ctx : Ctx) (project_id company_id channel_id group_id : String)
    (owner_jid : Option String) (participant : GroupParticipantProfile) :
    Claimed project_id company_id (participant_keys ctx.now project_id company_id channel_id participant)
      inner.contacts (apply_group_participant ctx project_id company_id channel_id group_id owner_jid inner
        participant).contacts := by
  -- the member's place in the group is no contact
  have hmember : ∀ mid contact_id phone_jid display_name is_admin,
    (upsert_group_member_metadata_inner mid group_id contact_id phone_jid display_name owner_jid is_admin
      ctx.now).contacts = mid.contacts := fun _ _ _ _ _ => rfl
  unfold apply_group_participant
  dsimp only
  rw [hmember, participant_keys]
  cases participant.phone_jid with
  | none => exact .refl _
  | some phone_jid =>
    rw [Option.toList_some, List.flatMap_singleton]
    exact upsert_contact_with_alt_inner_claimed inner
      (participant_upsert ctx.now project_id company_id channel_id participant phone_jid)

theorem apply_group_participants_claimed (ctx : Ctx) (project_id company_id channel_id group_id : String)
    (owner_jid : Option String) (participants : List GroupParticipantProfile) :
    ∀ inner : StoreInner, Claimed project_id company_id
      (participants.flatMap (participant_keys ctx.now project_id company_id channel_id)) inner.contacts
      (participants.foldl (apply_group_participant ctx project_id company_id channel_id group_id owner_jid)
        inner).contacts := by
  induction participants with
  | nil => exact fun inner => .refl _
  | cons participant participants ih =>
    intro inner
    exact (apply_group_participant_claimed inner ..).trans (ih _)

end Writes

/-- What is done on behalf of a company that talks to somebody. -/
inductive TenantOp where
  | record_message_inner (input : RecordMessageInput)
  | record_whatsapp_message (input : WhatsappMessageInput)
  | apply_group_profile (project_id company_id channel_id group_id : String) (profile : GroupProfile)
  | ensure_conversation_inner (project_id company_id conversation_id channel_id control_mode : String)
  | enrich_contact_inner (input : ContactEnrichmentInput)

namespace TenantOp

def project_id : TenantOp → String
  | .record_message_inner input => input.project_id
  | .record_whatsapp_message input => input.project_id
  | .apply_group_profile project_id _ _ _ _ => project_id
  | .ensure_conversation_inner project_id _ _ _ _ => project_id
  | .enrich_contact_inner input => input.project_id

def company_id : TenantOp → String
  | .record_message_inner input => input.company_id
  | .record_whatsapp_message input => input.company_id
  | .apply_group_profile _ company_id _ _ _ => company_id
  | .ensure_conversation_inner _ company_id _ _ _ => company_id
  | .enrich_contact_inner input => input.company_id

def apply (self : AppState) (ctx : Ctx) (inner : StoreInner) : TenantOp → StoreInner
  | .record_message_inner input => (state.record_message_inner ctx inner input).2
  | .record_whatsapp_message input => (state.record_whatsapp_message ctx inner input).2
  | .apply_group_profile project_id company_id channel_id group_id profile =>
    state.apply_group_profile self ctx inner project_id company_id channel_id group_id profile
  | .ensure_conversation_inner project_id company_id conversation_id channel_id control_mode =>
    state.ensure_conversation_inner ctx inner project_id company_id conversation_id channel_id control_mode
  | .enrich_contact_inner input => (state.enrich_contact_inner inner input).2

/-- The ids of the contacts that an operation writes: that of the person, and with it the
person's other ids where it learns them. A message that is known writes none, and
neither does a conversation that exists or is a group's. -/
def keys (now : OffsetDateTime) (inner : StoreInner) : TenantOp → List String
  | .record_message_inner input => input.contact_id.toList
  | .record_whatsapp_message input => if (input.existing inner).isSome then [] else input.keys now
  | .apply_group_profile project_id company_id channel_id _ profile =>
    profile.participants.flatMap (participant_keys now project_id company_id channel_id)
  | .ensure_conversation_inner _ _ conversation_id _ _ =>
    if (inner.conversations.lookup conversation_id).isSome || is_group_jid conversation_id then []
    else [conversation_id]
  | .enrich_contact_inner input => input.keys

/-- Every operation writes its company's records under these ids, and nothing else. -/
theorem claimed (self : AppState) (ctx : Ctx) (inner : StoreInner) (op : TenantOp) :
    Claimed op.project_id op.company_id (op.keys ctx.now inner) inner.contacts
      (op.apply self ctx inner).contacts := by
  cases op with
  | record_message_inner input => exact input.people_claimed inner ctx.now
  | record_whatsapp_message input =>
    dsimp only [apply, keys]
    rcases record_whatsapp_message_cases ctx inner input with ⟨existing, hexisting, heq⟩ | ⟨hnone, heq⟩
    · rw [heq, hexisting]
      exact .refl _
    · rw [heq, hnone]
      exact input.people_claimed inner ctx.now
  | apply_group_profile project_id company_id channel_id group_id profile =>
    exact apply_group_participants_claimed ctx project_id company_id channel_id group_id profile.owner_jid
      profile.participants { inner with groups := _ }
  | ensure_conversation_inner project_id company_id conversation_id channel_id control_mode =>
    dsimp only [apply, keys]
    unfold state.ensure_conversation_inner
    cases (inner.conversations.lookup conversation_id).isSome with
    | true => exact .refl _
    | false =>
      cases is_group_jid conversation_id with
      | true => exact .refl _
      | false => exact upsert_contact_inner_claimed inner _
  | enrich_contact_inner input => exact enrich_contact_inner_claimed inner input

end TenantOp

/-- That no company's operation touches the contacts of another. -/
def ContactOwnership (self : AppState) : Prop :=
  ∀ labels store ctx op, Run (Store.Lives self) Store.empty labels store →
    ContactsKept (TenantOp.project_id op) op.company_id store.inner (op.apply self ctx store.inner)

theorem ContactRecord.matches_tenant_eq_true_iff {contact : ContactRecord} {project_id company_id : String} :
    contact.matches_tenant project_id company_id = true ↔
      contact.project_id = project_id ∧ contact.company_id = company_id := by
  rw [ContactRecord.matches_tenant, Bool.and_eq_true, decide_eq_true_eq, decide_eq_true_eq]

section Reads

variable {project_id company_id project company : String} {keys : List String} {inner inner' : StoreInner}

/-- A record has one owner. -/
theorem ContactRecord.matches_tenant_of_other (hother : (project, company) ≠ (project_id, company_id))
    (contact : ContactRecord) (howner : contact.matches_tenant project_id company_id = true) :
    contact.matches_tenant project company = false := by
  rw [Bool.eq_false_iff]
  intro hmatches
  obtain ⟨rfl, rfl⟩ := ContactRecord.matches_tenant_eq_true_iff.mp howner
  obtain ⟨hproject, hcompany⟩ := ContactRecord.matches_tenant_eq_true_iff.mp hmatches
  exact hother (by rw [hproject, hcompany])

/-- The other companies' contacts with a phone number. -/
theorem Claimed.filter_phone (h : Claimed project_id company_id keys inner.contacts inner'.contacts)
    (hkeys : ∀ key ∈ keys, ∀ contact, inner.contacts.lookup key = some contact →
      contact.matches_tenant project_id company_id = true)
    (hother : (project, company) ≠ (project_id, company_id)) (phone_number : String) :
    inner'.contacts.values.filter (fun contact => contact.project_id = project &&
        contact.company_id = company && contact_phone_number contact = some phone_number) =
      inner.contacts.values.filter fun contact => contact.project_id = project &&
        contact.company_id = company && contact_phone_number contact = some phone_number := by
  refine h.filter_values (fun contact howner => ?_) hkeys
  have htenant := contact.matches_tenant_of_other hother howner
  rw [ContactRecord.matches_tenant] at htenant
  rw [htenant, Bool.false_and]

theorem Claimed.same_by_phone (h : Claimed project_id company_id keys inner.contacts inner'.contacts)
    (hkeys : ∀ key ∈ keys, ∀ contact, inner.contacts.lookup key = some contact →
      contact.matches_tenant project_id company_id = true)
    (hother : (project, company) ≠ (project_id, company_id)) (phone_number : String) :
    contact_id_for_phone_number_inner inner' project company phone_number =
      contact_id_for_phone_number_inner inner project company phone_number := by
  unfold contact_id_for_phone_number_inner
  rw [h.filter_phone hkeys hother]

/-- Where a company overwrites only its own records, the others find the contacts that
they found before. -/
theorem Claimed.same_contact (h : Claimed project_id company_id keys inner.contacts inner'.contacts)
    (hkeys : ∀ key ∈ keys, ∀ contact, inner.contacts.lookup key = some contact →
      contact.matches_tenant project_id company_id = true)
    (hother : (project, company) ≠ (project_id, company_id)) (contact_id : String) :
    contact inner' project company contact_id = contact inner project company contact_id := by
  have hlookup := h.filter_lookup (ContactRecord.matches_tenant_of_other hother) hkeys
  have hresolve : resolve_contact_id_inner inner' project company contact_id =
      resolve_contact_id_inner inner project company contact_id := by
    unfold resolve_contact_id_inner
    dsimp only
    rw [← Option.isSome_filter, hlookup, Option.isSome_filter, funext (h.same_by_phone hkeys hother)]
  unfold contact
  dsimp only
  rw [hresolve, hlookup]

/-- A reference is resolved as with the contacts of before. -/
theorem Claimed.same_conversation_id (h : Claimed project_id company_id keys inner.contacts inner'.contacts)
    (hkeys : ∀ key ∈ keys, ∀ contact, inner.contacts.lookup key = some contact →
      contact.matches_tenant project_id company_id = true)
    (hother : (project, company) ≠ (project_id, company_id)) (conversation_id : String) :
    resolve_conversation_id_inner inner' project company conversation_id =
      resolve_conversation_id_inner { inner' with contacts := inner.contacts } project company
        conversation_id := by
  have hnumber : ∀ phone_number,
      conversation_id_for_phone_number_inner inner' project company phone_number =
        conversation_id_for_phone_number_inner { inner' with contacts := inner.contacts } project company
          phone_number := by
    intro phone_number
    unfold conversation_id_for_phone_number_inner
    dsimp only
    rw [h.filter_phone hkeys hother]
  unfold resolve_conversation_id_inner
  dsimp only
  split
  · rfl
  · split
    · rw [hnumber]
    · rfl

/-- Where a company overwrites only its own records, the others read what they read
before. -/
theorem Claimed.same_reads (h : Claimed project_id company_id keys inner.contacts inner'.contacts)
    (hkeys : ∀ key ∈ keys, ∀ contact, inner.contacts.lookup key = some contact →
      contact.matches_tenant project_id company_id = true)
    (hother : (project, company) ≠ (project_id, company_id)) : SameReads project company inner inner' := by
  refine ⟨fun self => ?_, h.same_contact hkeys hother, h.same_by_phone hkeys hother,
    h.same_conversation_id hkeys hother, fun contact_id => ?_⟩
  · unfold contacts
    rw [h.filter_values (ContactRecord.matches_tenant_of_other hother) hkeys]
  · have hsame : contact { inner' with contacts := inner.contacts } project company contact_id =
      contact inner project company contact_id := rfl
    unfold privacy_export_contact
    rw [hsame, h.same_contact hkeys hother]

end Reads

/-- An operation of a company keeps the contacts of all others exactly when none of the
ids it writes under is that of a record of another company. -/
theorem contacts_kept_iff (self : AppState) (ctx : Ctx) (inner : StoreInner) (op : TenantOp) :
    ContactsKept op.project_id op.company_id inner (op.apply self ctx inner) ↔
      ∀ key ∈ op.keys ctx.now inner, ∀ contact, inner.contacts.lookup key = some contact →
        contact.matches_tenant op.project_id op.company_id = true := by
  have hclaimed := op.claimed self ctx inner
  constructor
  · intro hkept key hkey contact hcontact
    by_contra hforeign
    rw [Bool.not_eq_true] at hforeign
    obtain ⟨contact', hcontact', hsame⟩ := hkept.kept key contact hcontact hforeign
    obtain ⟨taken, htaken, howner⟩ := hclaimed.mem hkey
    rw [hcontact', Option.some.injEq] at htaken
    subst htaken
    rw [ContactRecord.matches_tenant, hsame.project_id, hsame.company_id] at howner
    exact absurd (howner.symm.trans hforeign) Bool.true_eq_false.mp
  · intro hkeys
    refine ⟨?_, fun project company hother => hclaimed.same_reads hkeys hother⟩
    intro key contact hcontact hforeign
    have hkey : key ∉ op.keys ctx.now inner := by
      intro hkey
      exact Bool.false_ne_true (hforeign.symm.trans (hkeys key hkey contact hcontact))
    exact ⟨contact, (hclaimed.not_mem hkey).trans hcontact, ⟨rfl, rfl, rfl, rfl, rfl, rfl, rfl, rfl⟩⟩

/-- Both companies hear from the same person: company B's recorder takes company A's
contact. -/
theorem contact_taken_over : ¬ ContactOwnership sample.service := by
  intro hownership
  have hrun := sample.lives [(sample.received.1, .store sample.received.2)] Store.empty (by decide)
  have hkept := (hownership _ _ (sample.ctx 2 "b") (.record_whatsapp_message
    (whatsapp_message_input sample.company_b (sample.text_event "3EB0B0" 2 false))) hrun).kept
  have hfound : ((sample.live Store.empty [(sample.received.1, .store sample.received.2)]).inner.contacts.lookup
      "5511988887777@s.whatsapp.net").any (fun contact => contact.company_id = "company_a") = true := by decide
  obtain ⟨contact, hcontact, hcompany⟩ := (Option.any_eq_true _ _).mp hfound
  have hcompany : contact.company_id = "company_a" := of_decide_eq_true hcompany
  have hforeign : contact.matches_tenant "acme" "company_b" = false := by
    rw [ContactRecord.matches_tenant, hcompany]
    exact Bool.and_false _
  obtain ⟨contact', hcontact', hsame⟩ := hkept _ contact hcontact hforeign
  have htaken : ((TenantOp.apply sample.service (sample.ctx 2 "b")
      (sample.live Store.empty [(sample.received.1, .store sample.received.2)]).inner
      (.record_whatsapp_message (whatsapp_message_input sample.company_b
        (sample.text_event "3EB0B0" 2 false)))).contacts.lookup "5511988887777@s.whatsapp.net").any
      (fun contact => contact.company_id = "company_b") = true := by decide
  rw [hcontact'] at htaken
  have htaken : contact'.company_id = "company_b" := of_decide_eq_true htaken
  rw [hsame.company_id, hcompany] at htaken
  exact absurd htaken (by decide)

end rustzap.state
