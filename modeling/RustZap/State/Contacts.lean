import RustZap.State.Phone

open collections
open rustzap.models rustzap.whatsapp

namespace rustzap.state

structure ContactUpsertInput where
  project_id : String
  company_id : String
  channel_id : Option String
  contact_id : String
  push_name : Option String
  profile_picture_url : Option String
  now : OffsetDateTime

structure ContactUpsertWithAltInput where
  contact : ContactUpsertInput
  alt_jid : Option String

structure ContactEnrichmentInput where
  project_id : String
  company_id : String
  channel_id : Option String
  contact_id : String
  push_name : Option String
  profile : ContactProfile
  now : OffsetDateTime
  profile_lookup_succeeded : Bool

/-- The name a contact gets when nothing is known about it. -/
def ContactUpsertInput.display_name (input : ContactUpsertInput) : String :=
  ((filter_blank input.push_name).or (phone_from_jid input.contact_id)).getD
    (display_name_for_jid input.contact_id)

/-- The record that `upsert_contact_inner` inserts for an unknown contact. -/
def ContactUpsertInput.record (input : ContactUpsertInput) : ContactRecord where
  id := input.contact_id
  canonical_jid := if is_lid input.contact_id then none else some input.contact_id
  lid := if is_lid input.contact_id then some input.contact_id else none
  project_id := input.project_id
  company_id := input.company_id
  channel_account_id := input.channel_id
  phone_e164 := phone_from_jid input.contact_id
  push_name := input.push_name
  display_name := input.display_name
  profile_picture_media_id := none
  business_description := none
  profile_lookup_attempted_at := none
  profile_lookup_failed_at := none
  profile_lookup_failure_count := 0
  avatar_url := input.profile_picture_url
  profile_picture_url := input.profile_picture_url
  first_contact_at := input.now
  last_contact_at := input.now

/-- What an upsert makes of the stored record, or of the one it has just
inserted. The owner is rewritten in either case. -/
def ContactUpsertInput.apply (input : ContactUpsertInput) (entry : ContactRecord) : ContactRecord :=
  let entry := { entry with
    project_id := input.project_id
    company_id := input.company_id
    channel_account_id := input.channel_id.or entry.channel_account_id
    last_contact_at := input.now
    phone_e164 := (phone_from_jid input.contact_id).or entry.phone_e164 }
  let entry := match filter_blank input.push_name with
    | some push_name => { entry with push_name := some push_name, display_name := push_name }
    | none =>
      if entry.display_name = entry.id then { entry with display_name := input.display_name }
      else entry
  if input.profile_picture_url.isSome then
    { entry with avatar_url := input.profile_picture_url, profile_picture_url := input.profile_picture_url }
  else entry

def upsert_contact_inner (inner : StoreInner) (input : ContactUpsertInput) :
    ContactRecord × StoreInner :=
  let entry := input.apply ((inner.contacts.lookup input.contact_id).getD input.record)
  (entry, { inner with contacts := inner.contacts.insert input.contact_id entry })

/-- The other id of a contact, when the caller names one. -/
def usable_alt_jid (contact_id : String) (alt_jid : Option String) : Option String :=
  ((alt_jid.map str.trim).filter fun value => !str.is_empty value).filter (· ≠ contact_id)

def contact_profile_from_alt (contact_id : String) (alt_jid : Option String) : Option ContactProfile :=
  (usable_alt_jid contact_id alt_jid).bind fun alt_jid =>
    let canonical_jid := [contact_id, alt_jid].find? fun jid => (phone_from_jid jid).isSome
    let lid := [contact_id, alt_jid].find? is_lid
    let phone_e164 := (canonical_jid.bind phone_from_jid).or
      ((phone_from_jid contact_id).or (phone_from_jid alt_jid))
    if canonical_jid.isNone && lid.isNone && phone_e164.isNone then none
    else some {
      requested_jid := contact_id, resolved_jid := canonical_jid, lid, phone_e164,
      business_description := none, profile_picture_id := none, profile_picture_media_id := none,
      profile_picture_url := none }

namespace ContactEnrichmentInput

def upsert (input : ContactEnrichmentInput) : ContactUpsertInput where
  project_id := input.project_id
  company_id := input.company_id
  channel_id := input.channel_id
  contact_id := input.contact_id
  push_name := input.push_name
  profile_picture_url := input.profile.profile_picture_url
  now := input.now

def canonical_jid (input : ContactEnrichmentInput) : Option String :=
  (input.profile.resolved_jid.filter fun jid => !is_lid jid).or
    (if is_lid input.contact_id then none else some input.contact_id)

def lid (input : ContactEnrichmentInput) : Option String :=
  input.profile.lid.or (if is_lid input.contact_id then some input.contact_id else none)

def phone_e164 (input : ContactEnrichmentInput) : Option String :=
  input.profile.phone_e164.or (input.canonical_jid.bind phone_from_jid)

/-- The enrichment proper, on the record that the upsert has left. -/
def apply (input : ContactEnrichmentInput) (entry : ContactRecord) : ContactRecord :=
  let entry := { entry with
    canonical_jid := input.canonical_jid
    lid := input.lid
    phone_e164 := input.phone_e164.or entry.phone_e164
    avatar_url := input.profile.profile_picture_url.or entry.avatar_url
    profile_picture_url := input.profile.profile_picture_url.or entry.profile_picture_url
    profile_picture_media_id :=
      if input.profile.profile_picture_media_id.isSome then
        (rustzap_profile_picture_media_id input.profile.profile_picture_media_id).or
          (rustzap_profile_picture_media_id entry.profile_picture_media_id)
      else entry.profile_picture_media_id }
  let entry := if input.profile_lookup_succeeded then
      { entry with
        profile_lookup_attempted_at := some input.now
        profile_lookup_failed_at := none
        profile_lookup_failure_count := 0 }
    else entry
  let entry := { entry with
    business_description := (input.profile.business_description.bind str.non_blank).or
      entry.business_description }
  let entry := match filter_blank input.push_name with
    | some push_name => { entry with push_name := some push_name, display_name := push_name }
    | none =>
      if entry.display_name = entry.id || is_lid entry.display_name ||
          entry.display_name = display_name_for_jid input.contact_id then
        { entry with display_name := input.phone_e164.getD entry.display_name }
      else entry
  { entry with last_contact_at := input.now }

/-- The other ids under which the enriched record is stored as well. -/
def aliases (input : ContactEnrichmentInput) : List String :=
  ([input.canonical_jid, input.lid].filterMap id).filter (· ≠ input.contact_id)

end ContactEnrichmentInput

def enrich_contact_inner (inner : StoreInner) (input : ContactEnrichmentInput) :
    ContactRecord × StoreInner :=
  let (entry, inner) := upsert_contact_inner inner input.upsert
  let enriched := input.apply entry
  let contacts := input.aliases.foldl (fun contacts jid => contacts.insert jid { enriched with id := jid })
    (inner.contacts.insert input.contact_id enriched)
  (enriched, { inner with contacts })

def upsert_contact_with_alt_inner (inner : StoreInner) (input : ContactUpsertWithAltInput) :
    ContactRecord × StoreInner :=
  match contact_profile_from_alt input.contact.contact_id input.alt_jid with
  | some profile =>
    enrich_contact_inner inner
      { project_id := input.contact.project_id
        company_id := input.contact.company_id
        channel_id := input.contact.channel_id
        contact_id := input.contact.contact_id
        push_name := input.contact.push_name
        profile := { profile with
          profile_picture_url := input.contact.profile_picture_url.or profile.profile_picture_url }
        now := input.contact.now
        profile_lookup_succeeded := false }
  | none => upsert_contact_inner inner input.contact

def upsert_group_member_inner (inner : StoreInner) (group_id contact_id display_name : String)
    (now : OffsetDateTime) : StoreInner :=
  let members := (inner.group_members.lookup group_id).getD ∅
  let member : GroupMemberRecord := match members.lookup contact_id with
    | some member =>
      { member with
        wa_jid := some contact_id, phone_e164 := phone_from_jid contact_id, display_name,
        updated_at := now, last_seen_at := now }
    | none =>
      { group_id, contact_id, wa_jid := some contact_id, phone_e164 := phone_from_jid contact_id,
        display_name, role := "member", is_admin := false, joined_at := now, updated_at := now,
        last_seen_at := now }
  { inner with group_members := inner.group_members.insert group_id (members.insert contact_id member) }

section Frame

variable (inner : StoreInner)

theorem upsert_contact_inner_frame (input : ContactUpsertInput) :
    ∃ contacts, (upsert_contact_inner inner input).2 = { inner with contacts } :=
  ⟨_, rfl⟩

theorem enrich_contact_inner_frame (input : ContactEnrichmentInput) :
    ∃ contacts, (enrich_contact_inner inner input).2 = { inner with contacts } :=
  ⟨_, rfl⟩

theorem upsert_contact_with_alt_inner_frame (input : ContactUpsertWithAltInput) :
    ∃ contacts, (upsert_contact_with_alt_inner inner input).2 = { inner with contacts } := by
  unfold upsert_contact_with_alt_inner
  split
  · exact enrich_contact_inner_frame inner _
  · exact upsert_contact_inner_frame inner _

end Frame

end rustzap.state
