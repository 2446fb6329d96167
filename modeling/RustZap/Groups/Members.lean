import RustZap.State.Operations

open collections
open rustzap.models rustzap.whatsapp

namespace rustzap.whatsapp.GroupProfile

/-- The place that a profile gives a participant. -/
def role_of (profile : GroupProfile) (participant : GroupParticipantProfile) : String :=
  if profile.owner_jid = some participant.contact_id then "owner"
  else if participant.is_admin then "admin"
  else "member"

/-- The owner is an admin, whether or not he is marked as one. -/
def has_as_admin (profile : GroupProfile) (participant : GroupParticipantProfile) : Bool :=
  participant.is_admin || profile.owner_jid = some participant.contact_id

def has_participant (profile : GroupProfile) (contact_id : String) : Prop :=
  ∃ participant ∈ profile.participants, participant.contact_id = contact_id

end rustzap.whatsapp.GroupProfile

namespace rustzap.state

/-- Who is listed as a member of a group. -/
def StoreInner.members_of (inner : StoreInner) (group_id : String) : HashMap String GroupMemberRecord :=
  (inner.group_members.lookup group_id).getD ∅

/-- The member is what the profile says of the participant. -/
structure IsParticipant (profile : GroupProfile) (participant : GroupParticipantProfile)
    (member : GroupMemberRecord) : Prop where
  role : member.role = profile.role_of participant
  is_admin : member.is_admin = profile.has_as_admin participant

/-- The group's members are the participants of the profile, and as many of them are
admins as the group's record counts. -/
structure MirrorsProfile (inner : StoreInner) (group_id : String) (profile : GroupProfile) : Prop where
  members : ∀ contact_id, (∃ member, (inner.members_of group_id).lookup contact_id = some member) ↔
    profile.has_participant contact_id
  roles : ∀ participant ∈ profile.participants, ∀ member,
    (inner.members_of group_id).lookup participant.contact_id = some member →
      IsParticipant profile participant member
  admins : ∃ record, inner.groups.lookup group_id = some record ∧
    record.admins_count = some ((inner.members_of group_id).values.countP GroupMemberRecord.is_admin)

/-- Every member that is listed is still in the group. -/
def NobodyLeft (inner : StoreInner) (group_id : String) (profile : GroupProfile) : Prop :=
  ∀ contact_id member, (inner.members_of group_id).lookup contact_id = some member →
    profile.has_participant contact_id

/-- The admins fit the counter of 32 bits. -/
def AdminsCountable (profile : GroupProfile) : Prop :=
  profile.participants.countP profile.has_as_admin < 2 ^ 32

section Refresh

variable (ctx : Ctx) (project_id company_id channel_id group_id : String)

/-- A participant's place in the group is written, and no other. -/
theorem upsert_group_member_metadata_inner_members (inner : StoreInner) (profile : GroupProfile)
    (participant : GroupParticipantProfile) (phone_jid : Option String) (display_name : String) :
    ∃ member, IsParticipant profile participant member ∧
      (upsert_group_member_metadata_inner inner group_id participant.contact_id phone_jid display_name
        profile.owner_jid participant.is_admin ctx.now).members_of group_id =
          (inner.members_of group_id).insert participant.contact_id member := by
  have hrole : ∀ is_admin : Bool, (decide ((if profile.owner_jid = some participant.contact_id then "owner"
      else if is_admin then "admin" else "member") = "owner")) =
        decide (profile.owner_jid = some participant.contact_id) := by
    intro is_admin
    by_cases howner : profile.owner_jid = some participant.contact_id
    · simp [howner]
    · cases is_admin <;> simp [howner]
  unfold upsert_group_member_metadata_inner StoreInner.members_of
  simp only [AList.lookup_insert, Option.getD_some, hrole]
  cases ((inner.group_members.lookup group_id).getD ∅).lookup participant.contact_id with
  | none => exact ⟨_, ⟨rfl, rfl⟩, rfl⟩
  | some member => exact ⟨_, ⟨rfl, rfl⟩, rfl⟩

theorem apply_group_participant_members (profile : GroupProfile) (inner : StoreInner)
    (participant : GroupParticipantProfile) :
    ∃ member, IsParticipant profile participant member ∧
      (apply_group_participant ctx project_id company_id channel_id group_id profile.owner_jid inner
        participant).members_of group_id =
          (inner.members_of group_id).insert participant.contact_id member := by
  unfold apply_group_participant
  cases participant.phone_jid with
  | none => exact upsert_group_member_metadata_inner_members ctx group_id inner profile participant _ _
  | some phone_jid =>
    obtain ⟨contacts, hcontacts⟩ := upsert_contact_with_alt_inner_frame inner
      { contact :=
          { project_id, company_id, channel_id := some channel_id,
            contact_id := participant.contact_id, push_name := none, profile_picture_url := none,
            now := ctx.now }
        alt_jid := some phone_jid }
    dsimp only
    rw [hcontacts]
    exact upsert_group_member_metadata_inner_members ctx group_id { inner with contacts } profile participant
      _ _

/-- The participants get their places, each its own, and everybody else stays as listed. -/
theorem apply_group_participants_members (profile : GroupProfile)
    (participants : List GroupParticipantProfile)
    (hdistinct : (participants.map GroupParticipantProfile.contact_id).Nodup) :
    ∀ inner : StoreInner,
      let refreshed := (participants.foldl
        (apply_group_participant ctx project_id company_id channel_id group_id profile.owner_jid)
        inner).members_of group_id
      (∀ participant ∈ participants, ∃ member, IsParticipant profile participant member ∧
        refreshed.lookup participant.contact_id = some member) ∧
      ∀ contact_id, contact_id ∉ participants.map GroupParticipantProfile.contact_id →
        refreshed.lookup contact_id = (inner.members_of group_id).lookup contact_id := by
  induction participants with
  | nil => exact fun inner => ⟨fun _ h => absurd h List.not_mem_nil, fun _ _ => rfl⟩
  | cons participant rest ih =>
    intro inner
    obtain ⟨hnew, hrest⟩ := List.nodup_cons.mp hdistinct
    obtain ⟨member, hmember, hplaced⟩ := apply_group_participant_members ctx project_id company_id
      channel_id group_id profile inner participant
    obtain ⟨hothers, hkept⟩ := ih hrest (apply_group_participant ctx project_id company_id channel_id
      group_id profile.owner_jid inner participant)
    refine ⟨fun other hother => ?_, fun contact_id hleft => ?_⟩
    · rcases List.mem_cons.mp hother with rfl | hother
      · refine ⟨member, hmember, ?_⟩
        rw [List.foldl_cons, hkept _ hnew, hplaced, AList.lookup_insert]
      · exact hothers other hother
    · rw [List.map_cons, List.mem_cons, not_or] at hleft
      rw [List.foldl_cons, hkept contact_id hleft.2, hplaced, AList.lookup_insert_ne hleft.1]

/-- A refresh gives every participant its place and takes nobody's away. The record counts
the admins of the profile. -/
theorem apply_group_profile_members (self : AppState) (inner : StoreInner) {profile : GroupProfile}
    (hdistinct : (profile.participants.map GroupParticipantProfile.contact_id).Nodup) :
    let refreshed := apply_group_profile self ctx inner project_id company_id channel_id group_id profile
    (∀ participant ∈ profile.participants, ∃ member, IsParticipant profile participant member ∧
      (refreshed.members_of group_id).lookup participant.contact_id = some member) ∧
    (∀ contact_id, ¬ profile.has_participant contact_id →
      (refreshed.members_of group_id).lookup contact_id = (inner.members_of group_id).lookup contact_id) ∧
    ∃ record, refreshed.groups.lookup group_id = some record ∧
      record.admins_count = some (min (profile.participants.countP profile.has_as_admin) (2 ^ 32 - 1)) := by
  obtain ⟨hplaced, hkept⟩ := apply_group_participants_members ctx project_id company_id channel_id group_id
    profile profile.participants hdistinct
    { inner with
      groups := inner.groups.insert group_id
        (group_record_of_profile ((inner.groups.lookup group_id).getD empty_group_record) profile) }
  refine ⟨hplaced, fun contact_id hleft => hkept contact_id fun hmem => ?_, ?_⟩
  · obtain ⟨participant, hparticipant, hid⟩ := List.mem_map.mp hmem
    exact hleft ⟨participant, hparticipant, hid⟩
  · exact ⟨_, AList.lookup_insert _, rfl⟩

end Refresh

section Counted

variable {profile : GroupProfile} {members : HashMap String GroupMemberRecord}

/-- Where the members are the participants, there are as many admins among the former as
among the latter. -/
theorem admins_counted (hdistinct : (profile.participants.map GroupParticipantProfile.contact_id).Nodup)
    (hmembers : ∀ contact_id, (∃ member, members.lookup contact_id = some member) ↔
      profile.has_participant contact_id)
    (hroles : ∀ participant ∈ profile.participants, ∀ member,
      members.lookup participant.contact_id = some member → IsParticipant profile participant member) :
    members.values.countP GroupMemberRecord.is_admin = profile.participants.countP profile.has_as_admin := by
  have hkeys : members.keys.Perm (profile.participants.map GroupParticipantProfile.contact_id) := by
    refine HashMap.keys_perm hdistinct fun contact_id => ?_
    rw [hmembers, List.mem_map]
    rfl
  rw [HashMap.countP_values, hkeys.countP_eq, List.countP_map]
  refine List.countP_congr fun participant hparticipant => ?_
  obtain ⟨member, hmember⟩ := (hmembers participant.contact_id).mpr ⟨participant, hparticipant, rfl⟩
  simp only [Function.comp_apply, hmember, Option.any_some,
    (hroles participant hparticipant member hmember).is_admin]

end Counted

/-- A refresh mirrors the list of participants exactly where nobody has left: people that
are not on the list any more keep the place that they had. -/
theorem group_mirrors_profile_iff (self : AppState) (ctx : Ctx) (inner : StoreInner)
    (project_id company_id channel_id group_id : String) {profile : GroupProfile}
    (hdistinct : (profile.participants.map GroupParticipantProfile.contact_id).Nodup) :
    MirrorsProfile (apply_group_profile self ctx inner project_id company_id channel_id group_id profile)
      group_id profile ↔ NobodyLeft inner group_id profile ∧ AdminsCountable profile := by
  obtain ⟨hplaced, hkept, record, hrecord, hcount⟩ :=
    apply_group_profile_members ctx project_id company_id channel_id group_id self inner hdistinct
  have hroles : ∀ participant ∈ profile.participants, ∀ member,
      ((apply_group_profile self ctx inner project_id company_id channel_id group_id profile).members_of
        group_id).lookup participant.contact_id = some member →
      IsParticipant profile participant member := by
    intro participant hparticipant member hmember
    obtain ⟨placed, hplaced, hlookup⟩ := hplaced participant hparticipant
    rw [hlookup] at hmember
    exact Option.some.inj hmember ▸ hplaced
  constructor
  · intro hmirrors
    refine ⟨fun contact_id member hmember => ?_, ?_⟩
    · by_contra hleft
      refine hleft ((hmirrors.members contact_id).mp ⟨member, ?_⟩)
      rw [hkept contact_id hleft, hmember]
    · obtain ⟨stored, hstored, hadmins⟩ := hmirrors.admins
      rw [hrecord] at hstored
      rw [← Option.some.inj hstored, hcount, admins_counted hdistinct hmirrors.members hmirrors.roles,
        Option.some.injEq] at hadmins
      rw [AdminsCountable]
      omega
  · rintro ⟨hnobody, hcountable⟩
    have hmembers : ∀ contact_id,
        (∃ member, ((apply_group_profile self ctx inner project_id company_id channel_id group_id
          profile).members_of group_id).lookup contact_id = some member) ↔
        profile.has_participant contact_id := by
      intro contact_id
      constructor
      · rintro ⟨member, hmember⟩
        by_contra hleft
        rw [hkept contact_id hleft] at hmember
        exact hleft (hnobody contact_id member hmember)
      · rintro ⟨participant, hparticipant, rfl⟩
        obtain ⟨member, -, hmember⟩ := hplaced participant hparticipant
        exact ⟨member, hmember⟩
    refine ⟨hmembers, hroles, record, hrecord, ?_⟩
    rw [hcount, admins_counted hdistinct hmembers hroles, Option.some.injEq]
    rw [AdminsCountable] at hcountable
    omega

namespace sample

def participant (contact_id : String) (is_admin : Bool) : GroupParticipantProfile where
  contact_id
  phone_jid := none
  is_admin

/-- A group's profile with these participants. -/
def group_profile (participants : List GroupParticipantProfile) : GroupProfile where
  group_jid := "120363000000000000@g.us"
  subject := some "Equipe"
  description := none
  owner_jid := some "5511988887777@s.whatsapp.net"
  subject_owner_jid := none
  created_at_wa_unix := none
  size := some participants.length
  profile_picture_id := none
  profile_picture_media_id := none
  profile_picture_url := none
  participants

/-- The owner and another admin. -/
def two_admins : GroupProfile :=
  group_profile [participant "5511988887777@s.whatsapp.net" true, participant "200889293889773@lid" true]

/-- The other admin is a member like any other. -/
def one_demoted : GroupProfile :=
  group_profile [participant "5511988887777@s.whatsapp.net" true, participant "200889293889773@lid" false]

/-- The other admin has left. -/
def one_admin : GroupProfile :=
  group_profile [participant "5511988887777@s.whatsapp.net" true]

def refreshed_group (second : Nat) (inner : StoreInner) (profile : GroupProfile) : StoreInner :=
  apply_group_profile service (ctx second "g") inner "acme" "company_a" "channel_a" "120363000000000000@g.us"
    profile

end sample

/-- A group that is refreshed for the first time, and once more after a demotion. -/
theorem demoted_admin_mirrored :
    MirrorsProfile (sample.refreshed_group 2 (sample.refreshed_group 1 Store.empty.inner sample.two_admins)
      sample.one_demoted) "120363000000000000@g.us" sample.one_demoted := by
  have hmirrors : ∀ second inner (profile : GroupProfile),
      (profile.participants.map GroupParticipantProfile.contact_id).Nodup →
      NobodyLeft inner "120363000000000000@g.us" profile → AdminsCountable profile →
      MirrorsProfile (sample.refreshed_group second inner profile) "120363000000000000@g.us" profile :=
    fun second inner profile hdistinct hnobody hcountable =>
      (group_mirrors_profile_iff sample.service (sample.ctx second "g") inner "acme" "company_a" "channel_a"
        "120363000000000000@g.us" hdistinct).mpr ⟨hnobody, hcountable⟩
  have hfirst := hmirrors 1 Store.empty.inner sample.two_admins (by decide)
    (fun _ _ hmember => by cases hmember) (by rw [AdminsCountable]; decide)
  refine hmirrors 2 _ sample.one_demoted (by decide) (fun contact_id member hmember => ?_)
    (by rw [AdminsCountable]; decide)
  obtain ⟨participant, hparticipant, rfl⟩ := (hfirst.members contact_id).mp ⟨member, hmember⟩
  rw [sample.two_admins, sample.group_profile, List.mem_cons, List.mem_singleton] at hparticipant
  rcases hparticipant with rfl | rfl
  · exact ⟨_, List.mem_cons_self, rfl⟩
  · exact ⟨_, List.mem_cons_of_mem _ List.mem_cons_self, rfl⟩

/-- The admin who has left is still listed, as an admin. -/
theorem departed_admin_stays_listed :
    ¬ ∀ (self : AppState) (ctx : Ctx) (inner : StoreInner) (project_id company_id channel_id group_id : String)
      (profile : GroupProfile), profile.size = some profile.participants.length →
      (profile.participants.map GroupParticipantProfile.contact_id).Nodup →
      MirrorsProfile (apply_group_profile self ctx inner project_id company_id channel_id group_id profile)
        group_id profile := by
  intro hclaim
  have hmirrors := hclaim sample.service (sample.ctx 2 "g")
    (sample.refreshed_group 1 Store.empty.inner sample.two_admins) "acme" "company_a" "channel_a"
    "120363000000000000@g.us" sample.one_admin rfl (by decide)
  have hlisted : (((sample.refreshed_group 2 (sample.refreshed_group 1 Store.empty.inner sample.two_admins)
      sample.one_admin).members_of "120363000000000000@g.us").lookup "200889293889773@lid").isSome := by
    decide +kernel
  obtain ⟨participant, hparticipant, hid⟩ :=
    (hmirrors.members "200889293889773@lid").mp (Option.isSome_iff_exists.mp hlisted)
  obtain rfl := List.mem_singleton.mp hparticipant
  exact absurd hid (by decide)

end rustzap.state
