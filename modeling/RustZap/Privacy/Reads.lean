import Mathlib.Logic.Relation
import RustZap.State.ContactReads
import RustZap.State.Dispatch

open collections
open rustzap.error rustzap.models

namespace rustzap.state

/-- A contact as a read renders it. -/
structure ContactJson where
  id : String
  technical_id : String
  canonical_jid : Option String
  lid : Option String
  phone_e164 : Option String
  phone_number : Option String
  push_name : Option String
  display_name : String
  profile_picture_media_id : Option String
  business_description : Option String
  avatar_url : Option String
  profile_picture_url : Option String
  first_contact_at : String
  last_contact_at : String

def contact_json (self : AppState) (contact : ContactRecord) : ContactJson :=
  let phone_number := contact_phone_number contact
  { id := phone_number.getD contact.id
    technical_id := contact.id
    canonical_jid := contact.canonical_jid
    lid := contact.lid
    phone_e164 := contact.phone_e164
    phone_number
    push_name := contact.push_name
    display_name := contact.display_name
    profile_picture_media_id := rustzap_profile_picture_media_id contact.profile_picture_media_id
    business_description := contact.business_description
    avatar_url := contact.avatar_url
    profile_picture_url := contact.profile_picture_url
    first_contact_at := self.host.ts contact.first_contact_at
    last_contact_at := self.host.ts contact.last_contact_at }

structure GroupMemberJson where
  group_id : String
  contact_id : String
  technical_contact_id : String
  wa_jid : Option String
  phone_e164 : Option String
  phone_number : Option String
  name : String
  display_name : String
  role : String
  is_admin : Bool
  joined_at : String
  updated_at : String
  last_seen_at : String

def group_member_json (self : AppState) (member : GroupMemberRecord) : GroupMemberJson :=
  let phone_number := (member.phone_e164.bind phone_number_from_e164).or
    ((member.wa_jid.bind phone_number_from_jid).or (phone_number_from_jid member.contact_id))
  { group_id := member.group_id
    contact_id := phone_number.getD member.contact_id
    technical_contact_id := member.contact_id
    wa_jid := member.wa_jid
    phone_e164 := member.phone_e164
    phone_number
    name := member.display_name
    display_name := member.display_name
    role := member.role
    is_admin := member.is_admin
    joined_at := self.host.ts member.joined_at
    updated_at := self.host.ts member.updated_at
    last_seen_at := self.host.ts member.last_seen_at }

/-- The members of a group by name. The lower case of a text is that of the standard
library. -/
def group_member_values_for_inner (to_lowercase : String → String) (inner : StoreInner) (group_id : String) :
    List GroupMemberRecord :=
  let members := ((inner.group_members.lookup group_id).map HashMap.values).getD []
  sort_by (fun a b =>
    let a_name := to_lowercase a.display_name
    let b_name := to_lowercase b.display_name
    decide (a_name < b_name) || (a_name = b_name && decide (a.contact_id ≤ b.contact_id))) members

def group_not_found (group_id : String) : ApiError :=
  .NotFound ("group " ++ group_id ++ " not found")

def group_members_for_group (to_lowercase : String → String) (inner : StoreInner)
    (project_id company_id group_id : String) : ApiResult (List GroupMemberRecord) :=
  match (inner.conversations.lookup group_id).filter fun conversation =>
      conversation.project_id = project_id && conversation.company_id = company_id &&
        conversation.conversation_type = "group" with
  | none => .error (group_not_found group_id)
  | some _ => .ok (group_member_values_for_inner to_lowercase inner group_id)

def contact_by_phone (inner : StoreInner) (project_id company_id phone_e164 : String) :
    ApiResult ContactRecord :=
  match phone_number_from_value phone_e164 with
  | none => .error (.BadRequest "phone number is empty")
  | some phone_number =>
    match (contact_id_for_phone_number_inner inner project_id company_id phone_number).bind
        inner.contacts.lookup with
    | some contact => .ok contact
    | none => .error (.NotFound ("contact phone " ++ phone_e164 ++ " not found"))

def contact_aliases_for_inner (inner : StoreInner) (project_id company_id contact_id : String) :
    ApiResult (List String) :=
  match contact inner project_id company_id contact_id with
  | .ok contact => .ok (contact_aliases_for_record contact)
  | .error err => .error err

/-- Whether a conversation is one with the holder of the aliases, or a group of his. -/
def conversation_involves (inner : StoreInner) (aliases : List String) (conversation : Conversation) : Bool :=
  if conversation.conversation_type = "direct" then
    aliases.contains conversation.id || conversation.contact_id.any aliases.contains
  else
    (conversation.group_id.bind inner.group_members.lookup).any fun members =>
      aliases.any fun contact_id => (members.lookup contact_id).isSome

def contact_conversations (inner : StoreInner) (project_id company_id contact_id : String) :
    ApiResult (List Conversation) :=
  match contact_aliases_for_inner inner project_id company_id contact_id with
  | .error err => .error err
  | .ok aliases => .ok (sort_by (fun a b => later_or_same a.last_message_at b.last_message_at)
      (((inner.conversations.values.filter fun conversation =>
          conversation.project_id = project_id && conversation.company_id = company_id).filter
        (conversation_involves inner aliases)).map (public_conversation inner)))

def transcript_not_found (message_id : String) : ApiError :=
  .NotFound ("transcript for " ++ message_id ++ " not found")

def transcript (inner : StoreInner) (message_id : String) : ApiResult Transcript :=
  match inner.transcripts.lookup message_id with
  | some transcript => .ok transcript
  | none => .error (transcript_not_found message_id)

/-- What a company reads of its people and their messages. -/
inductive Read where
  | contacts
  | contact (contact_id : String)
  | contact_by_phone (phone_e164 : String)
  | conversations
  | conversation (conversation_id : String)
  | contact_conversations (contact_id : String)
  | group_members (group_id : String)
  | list_messages (conversation_id : String) (after_seq before_seq : Option Int) (limit : Nat)
  | list_messages_for_conversation (conversation_id : String) (after_seq before_seq : Option Int) (limit : Nat)
  | message (message_id : String)
  | transcript (message_id : String)
  | privacy_export_contact (contact_id : String)

/-- A record that a read returns. Contacts and members are rendered by `contact_json` and
`group_member_json`. -/
inductive Shown where
  | contact (contact : ContactRecord)
  | conversation (conversation : Conversation)
  | member (member : GroupMemberRecord)
  | message (message : Message)
  | transcript (transcript : Transcript)

/-- The records of a result, none if it is an error. -/
def records {A : Type} (result : ApiResult A) (render : A → List Shown) : List Shown :=
  match result with
  | .ok value => render value
  | .error _ => []

def PrivacyExport.shown (self : PrivacyExport) : List Shown :=
  .contact self.contact :: (self.conversations.map .conversation ++ self.messages.map .message ++
    self.transcripts.map .transcript)

/-- What a read returns. -/
def Read.shows (self : AppState) (to_lowercase : String → String) (inner : StoreInner)
    (project_id company_id : String) : Read → List Shown
  | .contacts => (state.contacts self inner project_id company_id).map .contact
  | .contact contact_id => records (state.contact inner project_id company_id contact_id)
      fun contact => [.contact contact]
  | .contact_by_phone phone_e164 => records (state.contact_by_phone inner project_id company_id phone_e164)
      fun contact => [.contact contact]
  | .conversations => (state.conversations inner project_id company_id).map .conversation
  | .conversation conversation_id => records (state.conversation inner project_id company_id conversation_id)
      fun conversation => [.conversation conversation]
  | .contact_conversations contact_id =>
    records (state.contact_conversations inner project_id company_id contact_id) (List.map .conversation)
  | .group_members group_id =>
    records (group_members_for_group to_lowercase inner project_id company_id group_id) (List.map .member)
  | .list_messages conversation_id after_seq before_seq limit =>
    (state.list_messages self inner conversation_id after_seq before_seq limit).messages.map .message
  | .list_messages_for_conversation conversation_id after_seq before_seq limit =>
    records (state.list_messages_for_conversation self inner project_id company_id conversation_id after_seq
      before_seq limit) fun page => page.messages.map .message
  | .message message_id => records (message_for_company inner project_id company_id message_id)
      fun message => [.message message]
  | .transcript message_id => records (state.transcript inner message_id)
      fun transcript => [.transcript transcript]
  | .privacy_export_contact contact_id =>
    records (state.privacy_export_contact inner project_id company_id contact_id) PrivacyExport.shown

/-- The message is in one of the two indexes. -/
def Stored (inner : StoreInner) (message : Message) : Prop :=
  (∃ message_id, inner.messages_by_id.lookup message_id = some message) ∨
    ∃ conversation_id messages, inner.messages_by_conversation.lookup conversation_id = some messages ∧
      message ∈ messages

/-- What all reads together can show. A message may come with another address for its
media and another name for its conversation. -/
inductive Visible (inner : StoreInner) (project_id company_id : String) : Shown → Prop
  | contact (contact_id : String) (contact : ContactRecord) :
      inner.contacts.lookup contact_id = some contact → Visible inner project_id company_id (.contact contact)
  | conversation (conversation_id : String) (conversation : Conversation) :
      inner.conversations.lookup conversation_id = some conversation →
      conversation.project_id = project_id → conversation.company_id = company_id →
      Visible inner project_id company_id (.conversation (public_conversation inner conversation))
  | stored_conversation (conversation_id : String) (conversation : Conversation) :
      inner.conversations.lookup conversation_id = some conversation →
      conversation.project_id = project_id → conversation.company_id = company_id →
      Visible inner project_id company_id (.conversation conversation)
  | member (group_id contact_id : String) (group : Conversation)
      (members : HashMap String GroupMemberRecord) (member : GroupMemberRecord) :
      inner.conversations.lookup group_id = some group → group.project_id = project_id →
      group.company_id = company_id → group.conversation_type = "group" →
      inner.group_members.lookup group_id = some members → members.lookup contact_id = some member →
      Visible inner project_id company_id (.member member)
  | message (message : Message) (media_url thumbnail_url : Option String) (conversation_id : String) :
      Stored inner message →
      Visible inner project_id company_id (.message { message with media_url, thumbnail_url, conversation_id })
  | transcript (message_id : String) (transcript : Transcript) :
      inner.transcripts.lookup message_id = some transcript →
      Visible inner project_id company_id (.transcript transcript)

section Visible

variable {self : AppState} {to_lowercase : String → String} {inner : StoreInner}
  {project_id company_id : String} {shown : Shown}

theorem mem_records_iff {A : Type} {result : ApiResult A} {render : A → List Shown} :
    shown ∈ records result render ↔ ∃ value, result = .ok value ∧ shown ∈ render value := by
  unfold records
  cases result with
  | ok value => exact ⟨fun h => ⟨value, rfl, h⟩, by rintro ⟨_, ⟨⟩, h⟩; exact h⟩
  | error err => exact iff_of_false List.not_mem_nil (by rintro ⟨_, ⟨⟩, _⟩)

theorem mem_sort_by_iff {A : Type} {before : A → A → Bool} {items : List A} {item : A} :
    item ∈ sort_by before items ↔ item ∈ items :=
  (sort_by_perm before items).mem_iff

theorem contact_eq_ok_iff {contact_id : String} {contact : ContactRecord} :
    state.contact inner project_id company_id contact_id = .ok contact ↔
      inner.contacts.lookup (resolve_contact_id_inner inner project_id company_id contact_id) = some contact ∧
        contact.matches_tenant project_id company_id = true := by
  have hfilter := @Option.filter_eq_some_iff _ contact
    (inner.contacts.lookup (resolve_contact_id_inner inner project_id company_id contact_id))
    fun contact => contact.matches_tenant project_id company_id
  refine Iff.trans ?_ hfilter
  unfold state.contact
  dsimp only
  split
  · next found hfound => rw [hfound, Except.ok.injEq, Option.some.injEq]
  · next hnone =>
    rw [hnone]
    exact iff_of_false nofun nofun

theorem normalize_message_media_urls_eq (self : AppState) (message : Message) :
    ∃ media_url thumbnail_url,
      normalize_message_media_urls self message = { message with media_url, thumbnail_url } := by
  unfold normalize_message_media_urls
  split
  · exact ⟨message.media_url, message.thumbnail_url, rfl⟩
  · split
    · exact ⟨message.media_url, message.thumbnail_url, rfl⟩
    · exact ⟨_, _, rfl⟩

theorem visible_of_page {conversation_id : String} {after_seq before_seq : Option Int} {limit : Nat}
    {message : Message}
    (h : message ∈ (state.list_messages self inner conversation_id after_seq before_seq limit).messages) :
    ∃ stored, Stored inner stored ∧ ∃ media_url thumbnail_url,
      message = { stored with media_url, thumbnail_url } := by
  unfold state.list_messages at h
  dsimp only at h
  obtain ⟨stored, hstored, rfl⟩ := List.mem_map.mp (List.mem_of_mem_take h)
  have hmem := (List.mem_filter.mp (mem_sort_by_iff.mp hstored)).1
  refine ⟨stored, ?_, ?_⟩
  · cases hlookup : inner.messages_by_conversation.lookup conversation_id with
    | none =>
      rw [hlookup] at hmem
      cases hmem
    | some messages =>
      rw [hlookup] at hmem
      exact Or.inr ⟨conversation_id, messages, hlookup, hmem⟩
  · exact normalize_message_media_urls_eq self stored

theorem exported_visible {contact_id : String} {exported : PrivacyExport}
    (hexport : privacy_export_contact inner project_id company_id contact_id = .ok exported)
    (hmem : shown ∈ exported.shown) : Visible inner project_id company_id shown := by
  unfold privacy_export_contact at hexport
  split at hexport
  · cases hexport
  · next contact hcontact =>
    cases hexport
    unfold PrivacyExport.shown at hmem
    simp only [List.mem_cons, List.mem_append, List.mem_map] at hmem
    rcases hmem with rfl | ((⟨conversation, hconversation, rfl⟩ | ⟨message, hmessage, rfl⟩) |
      ⟨transcript, htranscript, rfl⟩)
    · exact .contact _ contact (contact_eq_ok_iff.mp hcontact).1
    · obtain ⟨hvalue, howner⟩ := List.mem_filter.mp hconversation
      obtain ⟨conversation_id, hlookup⟩ := HashMap.mem_values_iff.mp hvalue
      simp only [Bool.and_eq_true, decide_eq_true_eq] at howner
      exact .stored_conversation conversation_id conversation hlookup howner.1.1 howner.1.2
    · obtain ⟨message_id, hlookup⟩ := HashMap.mem_values_iff.mp (List.mem_filter.mp hmessage).1
      exact .message message message.media_url message.thumbnail_url message.conversation_id
        (Or.inl ⟨message_id, hlookup⟩)
    · obtain ⟨message_id, hlookup⟩ := HashMap.mem_values_iff.mp (List.mem_filter.mp htranscript).1
      exact .transcript message_id transcript hlookup

/-- A read shows nothing but what is visible. -/
theorem Read.visible {read : Read} (h : shown ∈ read.shows self to_lowercase inner project_id company_id) :
    Visible inner project_id company_id shown := by
  cases read with
  | contacts =>
    obtain ⟨contact, hmem, rfl⟩ := List.mem_map.mp h
    obtain ⟨contact_id, hlookup⟩ := HashMap.mem_values_iff.mp (List.mem_filter.mp (mem_sort_by_iff.mp hmem)).1
    exact .contact contact_id contact hlookup
  | contact contact_id =>
    obtain ⟨contact, hcontact, hmem⟩ := mem_records_iff.mp h
    rw [List.mem_singleton.mp hmem]
    exact .contact _ contact (contact_eq_ok_iff.mp hcontact).1
  | contact_by_phone phone_e164 =>
    obtain ⟨contact, hcontact, hmem⟩ := mem_records_iff.mp h
    rw [List.mem_singleton.mp hmem]
    unfold state.contact_by_phone at hcontact
    split at hcontact
    · cases hcontact
    · split at hcontact
      · next found hfound =>
        cases hcontact
        obtain ⟨contact_id, -, hlookup⟩ := Option.bind_eq_some_iff.mp hfound
        exact .contact contact_id contact hlookup
      · cases hcontact
  | conversations =>
    obtain ⟨_, hmem, rfl⟩ := List.mem_map.mp h
    obtain ⟨conversation, hconversation, rfl⟩ := List.mem_map.mp (mem_sort_by_iff.mp hmem)
    obtain ⟨hvalue, howner⟩ := List.mem_filter.mp hconversation
    obtain ⟨conversation_id, hlookup⟩ := HashMap.mem_values_iff.mp hvalue
    rw [Bool.and_eq_true, decide_eq_true_eq, decide_eq_true_eq] at howner
    exact .conversation conversation_id conversation hlookup howner.1 howner.2
  | conversation conversation_id =>
    obtain ⟨_, hresult, hmem⟩ := mem_records_iff.mp h
    rw [List.mem_singleton.mp hmem]
    unfold state.conversation conversation_for_inner at hresult
    dsimp only at hresult
    split at hresult
    · next conversation hconversation =>
      cases hresult
      split at hconversation
      · next found hfound =>
        cases hconversation
        obtain ⟨hlookup, howner⟩ := Option.filter_eq_some_iff.mp hfound
        unfold conversation_matches_tenant at howner
        rw [Bool.and_eq_true, decide_eq_true_eq, decide_eq_true_eq] at howner
        exact .conversation _ conversation hlookup howner.1 howner.2
      · cases hconversation
    · cases hresult
  | contact_conversations contact_id =>
    obtain ⟨_, hresult, hmem⟩ := mem_records_iff.mp h
    obtain ⟨_, hpublic, rfl⟩ := List.mem_map.mp hmem
    unfold state.contact_conversations at hresult
    split at hresult
    · cases hresult
    · cases hresult
      obtain ⟨conversation, hconversation, rfl⟩ := List.mem_map.mp (mem_sort_by_iff.mp hpublic)
      obtain ⟨hvalue, howner⟩ := List.mem_filter.mp (List.mem_filter.mp hconversation).1
      obtain ⟨conversation_id, hlookup⟩ := HashMap.mem_values_iff.mp hvalue
      rw [Bool.and_eq_true, decide_eq_true_eq, decide_eq_true_eq] at howner
      exact .conversation conversation_id conversation hlookup howner.1 howner.2
  | group_members group_id =>
    obtain ⟨_, hresult, hmem⟩ := mem_records_iff.mp h
    obtain ⟨member, hmember, rfl⟩ := List.mem_map.mp hmem
    unfold group_members_for_group at hresult
    split at hresult
    · cases hresult
    · next group hgroup =>
      cases hresult
      obtain ⟨hlookup, howner⟩ := Option.filter_eq_some_iff.mp hgroup
      simp only [Bool.and_eq_true, decide_eq_true_eq] at howner
      have hvalue := mem_sort_by_iff.mp hmember
      cases hmembers : inner.group_members.lookup group_id with
      | none =>
        rw [hmembers] at hvalue
        cases hvalue
      | some members =>
        rw [hmembers] at hvalue
        obtain ⟨contact_id, hstored⟩ := HashMap.mem_values_iff.mp hvalue
        exact .member group_id contact_id group members member hlookup howner.1.1 howner.1.2 howner.2 hmembers
          hstored
  | list_messages conversation_id after_seq before_seq limit =>
    obtain ⟨message, hmem, rfl⟩ := List.mem_map.mp h
    obtain ⟨stored, hstored, media_url, thumbnail_url, rfl⟩ := visible_of_page hmem
    exact .message stored media_url thumbnail_url stored.conversation_id hstored
  | list_messages_for_conversation conversation_id after_seq before_seq limit =>
    obtain ⟨page, hresult, hmem⟩ := mem_records_iff.mp h
    obtain ⟨_, hmessage, rfl⟩ := List.mem_map.mp hmem
    unfold state.list_messages_for_conversation at hresult
    split at hresult
    · cases hresult
    · cases hresult
      obtain ⟨message, hpage, rfl⟩ := List.mem_map.mp hmessage
      obtain ⟨stored, hstored, media_url, thumbnail_url, rfl⟩ := visible_of_page hpage
      exact .message stored media_url thumbnail_url _ hstored
  | message message_id =>
    obtain ⟨message, hresult, hmem⟩ := mem_records_iff.mp h
    rw [List.mem_singleton.mp hmem]
    exact .message message message.media_url message.thumbnail_url message.conversation_id
      (Or.inl ⟨message_id, (message_for_company_ok hresult).1⟩)
  | transcript message_id =>
    obtain ⟨transcript, hresult, hmem⟩ := mem_records_iff.mp h
    rw [List.mem_singleton.mp hmem]
    unfold state.transcript at hresult
    split at hresult
    · next found hfound =>
      cases hresult
      exact .transcript message_id transcript hfound
    · cases hresult
  | privacy_export_contact contact_id =>
    obtain ⟨exported, hresult, hmem⟩ := mem_records_iff.mp h
    exact exported_visible hresult hmem

theorem contact_shown {contact_id : String} {contact : ContactRecord}
    (hlookup : inner.contacts.lookup contact_id = some contact)
    (hmatches : contact.matches_tenant project_id company_id = true) :
    .contact contact ∈ Read.contacts.shows self to_lowercase inner project_id company_id :=
  List.mem_map.mpr ⟨contact, mem_sort_by_iff.mpr (List.mem_filter.mpr
    ⟨HashMap.mem_values_of_lookup hlookup, hmatches⟩), rfl⟩

theorem conversation_shown {conversation_id : String} {conversation : Conversation}
    (hlookup : inner.conversations.lookup conversation_id = some conversation)
    (hproject : conversation.project_id = project_id) (hcompany : conversation.company_id = company_id) :
    .conversation (public_conversation inner conversation) ∈
      Read.conversations.shows self to_lowercase inner project_id company_id := by
  refine List.mem_map.mpr ⟨_, mem_sort_by_iff.mpr (List.mem_map.mpr ⟨conversation, ?_, rfl⟩), rfl⟩
  refine List.mem_filter.mpr ⟨HashMap.mem_values_of_lookup hlookup, ?_⟩
  rw [Bool.and_eq_true, decide_eq_true_eq, decide_eq_true_eq]
  exact ⟨hproject, hcompany⟩

theorem member_shown {group_id contact_id : String} {group : Conversation}
    {members : HashMap String GroupMemberRecord} {member : GroupMemberRecord}
    (hlookup : inner.conversations.lookup group_id = some group) (hproject : group.project_id = project_id)
    (hcompany : group.company_id = company_id) (htype : group.conversation_type = "group")
    (hmembers : inner.group_members.lookup group_id = some members)
    (hmember : members.lookup contact_id = some member) :
    .member member ∈ (Read.group_members group_id).shows self to_lowercase inner project_id company_id := by
  have hgroup : (inner.conversations.lookup group_id).filter (fun conversation =>
      conversation.project_id = project_id && conversation.company_id = company_id &&
        conversation.conversation_type = "group") = some group := by
    rw [Option.filter_eq_some_iff]
    simp only [Bool.and_eq_true, decide_eq_true_eq]
    exact ⟨hlookup, ⟨hproject, hcompany⟩, htype⟩
  refine mem_records_iff.mpr ⟨group_member_values_for_inner to_lowercase inner group_id, ?_, ?_⟩
  · unfold group_members_for_group
    rw [hgroup]
  · refine List.mem_map.mpr ⟨member, mem_sort_by_iff.mpr ?_, rfl⟩
    rw [hmembers]
    exact HashMap.mem_values_of_lookup hmember

theorem message_shown (to_lowercase : String → String) {message : Message} (hstored : Stored inner message)
    (hproject : message.project_id = project_id) (hcompany : message.company_id = company_id) :
    ∃ read media_url thumbnail_url, .message { message with media_url, thumbnail_url } ∈
      Read.shows self to_lowercase inner project_id company_id read := by
  rcases hstored with ⟨message_id, hlookup⟩ | ⟨conversation_id, messages, hlookup, hmem⟩
  · refine ⟨.message message_id, message.media_url, message.thumbnail_url, mem_records_iff.mpr
      ⟨message, ?_, List.mem_singleton_self _⟩⟩
    have hfound : (inner.messages_by_id.lookup message_id).filter (fun message =>
        message.project_id = project_id && message.company_id = company_id) = some message := by
      rw [Option.filter_eq_some_iff, Bool.and_eq_true, decide_eq_true_eq, decide_eq_true_eq]
      exact ⟨hlookup, hproject, hcompany⟩
    unfold message_for_company
    rw [hfound]
  · obtain ⟨media_url, thumbnail_url, heq⟩ := normalize_message_media_urls_eq self message
    refine ⟨.list_messages conversation_id none none messages.length, media_url, thumbnail_url,
      List.mem_map.mpr ⟨_, ?_, rfl⟩⟩
    unfold state.list_messages
    dsimp only
    rw [hlookup, Option.getD_some]
    have hall : messages.filter (fun message =>
        (none : Option Int).all (fun seq => message.conversation_seq > seq) &&
        (none : Option Int).all fun seq => message.conversation_seq < seq) = messages :=
      List.filter_eq_self.mpr fun _ _ => rfl
    rw [hall, List.take_of_length_le]
    · exact List.mem_map.mpr ⟨message, mem_sort_by_iff.mpr hmem, heq⟩
    · rw [List.length_map, (sort_by_perm _ messages).length_eq]

theorem transcript_shown {message_id : String} {transcript : Transcript}
    (hlookup : inner.transcripts.lookup message_id = some transcript) :
    .transcript transcript ∈ (Read.transcript message_id).shows self to_lowercase inner project_id company_id := by
  refine mem_records_iff.mpr ⟨transcript, ?_, List.mem_singleton_self _⟩
  unfold state.transcript
  rw [hlookup]

end Visible

end rustzap.state
