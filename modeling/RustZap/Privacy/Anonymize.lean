import RustZap.Privacy.Reads
import RustZap.Retention.Failures

open collections runs
open rustzap.error rustzap.models

namespace rustzap.state

/-- The ids that a record of the phone book gives to its person: its aliases and the JID of
its phone number. -/
def ContactRecord.Names (contact : ContactRecord) (id : String) : Prop :=
  id ∈ contact_aliases_for_record contact ∨
    ∃ phone_number, contact_phone_number contact = some phone_number ∧
      phone_number_from_jid id = some phone_number

/-- Two ids are of one person if the company's phone book links them, over any number of
records. -/
def SamePerson (inner : StoreInner) (project_id company_id : String) : String → String → Prop :=
  Relation.EqvGen fun a b => ∃ contact_id contact, inner.contacts.lookup contact_id = some contact ∧
    contact.matches_tenant project_id company_id = true ∧ contact.Names a ∧ contact.Names b

def anonymous_name (contact_id : String) : String :=
  "anonymous_" ++ String.ofList (contact_id.toList.take 8)

/-- A name that tells nothing of a person with these ids. -/
def Anonymous (ids : String → Prop) (name : String) : Prop :=
  ∃ contact_id, ids contact_id ∧ name = anonymous_name contact_id

def ContactJson.Reveals (ids : String → Prop) (contact : ContactJson) : Prop :=
  ids contact.technical_id ∧ (contact.phone_number ≠ none ∨ contact.phone_e164 ≠ none ∨
    contact.push_name ≠ none ∨ ¬ Anonymous ids contact.display_name ∨
    contact.profile_picture_media_id ≠ none ∨ contact.avatar_url ≠ none ∨
    contact.profile_picture_url ≠ none)

/-- A conversation with the person, and with nobody else. -/
def IsWith (ids : String → Prop) (conversation : Conversation) : Prop :=
  conversation.conversation_type ≠ "group" ∧
    (ids conversation.id ∨ ∃ contact_id, conversation.contact_id = some contact_id ∧ ids contact_id)

/-- What the conversation itself says of the one it is with. -/
def Identifies (ids : String → Prop) (conversation : Conversation) : Prop :=
  conversation.phone_number ≠ none ∨ conversation.display_phone ≠ none ∨
    (∃ name, conversation.display_name = some name ∧ ¬ Anonymous ids name) ∨
    conversation.avatar_url ≠ none ∨ conversation.profile_picture_url ≠ none

def Pictured (conversation : Conversation) : Prop :=
  rustzap_profile_picture_media_id conversation.profile_picture_media_id ≠ none

def GroupMemberJson.Reveals (ids : String → Prop) (member : GroupMemberJson) : Prop :=
  (ids member.technical_contact_id ∨ ∃ wa_jid, member.wa_jid = some wa_jid ∧ ids wa_jid) ∧
    (member.phone_number ≠ none ∨ member.phone_e164 ≠ none ∨ ¬ Anonymous ids member.display_name)

/-- A message of the company that the person has sent. -/
def SentBy (project_id company_id : String) (ids : String → Prop) (message : Message) : Prop :=
  message.project_id = project_id ∧ message.company_id = company_id ∧
    ∃ sender, message.sender_contact_id = some sender ∧ ids sender

/-- What a message says of its sender and in his words. -/
def Speaks (ids : String → Prop) (message : Message) : Prop :=
  message.text ≠ none ∨ ∃ name, message.sender_display_name = some name ∧ ¬ Anonymous ids name

/-- The record is about the person and gives something away: a phone number, a name, a
picture, or what the person has written or said. -/
def Reveals (self : AppState) (inner : StoreInner) (project_id company_id : String)
    (ids : String → Prop) : Shown → Prop
  | .contact contact => contact.matches_tenant project_id company_id = true ∧
      (contact_json self contact).Reveals ids
  | .conversation conversation => IsWith ids conversation ∧ (Identifies ids conversation ∨ Pictured conversation)
  | .member member => (group_member_json self member).Reveals ids
  | .message message => SentBy project_id company_id ids message ∧ Speaks ids message
  | .transcript transcript => transcript.text ≠ none ∧ ∃ message, Stored inner message ∧
      SentBy project_id company_id ids message ∧ inner.transcripts.lookup message.id = some transcript

/-- Nothing that a company reads reveals the person. -/
def Forgotten (self : AppState) (to_lowercase : String → String) (inner inner' : StoreInner)
    (project_id company_id : String) (ids : String → Prop) : Prop :=
  ∀ (read : Read), ∀ shown ∈ read.shows self to_lowercase inner' project_id company_id,
    ¬ Reveals self inner project_id company_id ids shown

/-- What an anonymization has to find for the person to be forgotten: no phone number in the
person's ids, no stored picture, nothing in what it does not look at, and nothing under an
id that the record does not name. -/
structure NothingElse (service : AppState) (inner : StoreInner) (project_id company_id key : String)
    (contact : ContactRecord) (ids : String → Prop) : Prop where
  own_jids : contact.canonical_jid.bind phone_number_from_jid = none ∧ phone_number_from_jid contact.id = none
  own_picture : rustzap_profile_picture_media_id contact.profile_picture_media_id = none
  contacts : ∀ contact_id other, inner.contacts.lookup contact_id = some other → contact_id ≠ key →
    other.matches_tenant project_id company_id = true → ¬ (contact_json service other).Reveals ids
  jids : ∀ conversation_id conversation, inner.conversations.lookup conversation_id = some conversation →
    conversation_matches_tenant conversation project_id company_id = true → IsWith ids conversation →
    phone_number_from_jid conversation.id = none ∧
      ∀ contact_id other, conversation.id = contact_id ∨ conversation.contact_id = some contact_id →
        contact_id ≠ key → inner.contacts.lookup contact_id = some other → contact_phone_number other = none
  pictures : ∀ conversation_id conversation, inner.conversations.lookup conversation_id = some conversation →
    conversation_matches_tenant conversation project_id company_id = true → IsWith ids conversation →
    ¬ Pictured conversation
  conversations : ∀ conversation_id conversation, inner.conversations.lookup conversation_id = some conversation →
    conversation_matches_tenant conversation project_id company_id = true → IsWith ids conversation →
    conversation.contact_id.any (contact_aliases_for_record contact).contains = false →
    ¬ Identifies ids conversation
  members : ∀ group_id group members contact_id member, inner.conversations.lookup group_id = some group →
    conversation_matches_tenant group project_id company_id = true → group.conversation_type = "group" →
    inner.group_members.lookup group_id = some members → members.lookup contact_id = some member →
    ¬ (group_member_json service member).Reveals ids
  messages : ∀ message, Stored inner message → SentBy project_id company_id ids message →
    message.sender_contact_id.any (contact_aliases_for_record contact).contains = false →
    ¬ Speaks ids message
  transcripts : ∀ message transcript, Stored inner message → SentBy project_id company_id ids message →
    inner.transcripts.lookup message.id = some transcript → transcript.text = none

section Forgotten

variable {self : AppState} {to_lowercase : String → String} {inner inner' : StoreInner}
  {project_id company_id : String} {ids : String → Prop}

theorem rustzap_profile_picture_media_id_idem (value : Option String) :
    rustzap_profile_picture_media_id (rustzap_profile_picture_media_id value) =
      rustzap_profile_picture_media_id value := by
  unfold rustzap_profile_picture_media_id
  cases value with
  | none => rfl
  | some value =>
    rw [Option.map_some, Option.filter_some]
    split
    · next hid => rw [Option.map_some, str.trim_trim, Option.filter_some, if_pos hid]
    · rfl

/-- What a read makes of a conversation with one person. -/
theorem public_conversation_eq {conversation : Conversation} (htype : conversation.conversation_type ≠ "group") :
    public_conversation inner conversation =
      { conversation with
        profile_picture_media_id := rustzap_profile_picture_media_id conversation.profile_picture_media_id
        display_phone := conversation.display_phone.or
          ((conversation_phone_number_for_inner inner conversation).map ("+" ++ ·))
        phone_number := conversation_phone_number_for_inner inner conversation } := by
  unfold public_conversation
  rw [if_neg htype]
  unfold apply_public_conversation_fields
  dsimp only
  rw [if_neg htype]
  have hphone : conversation_phone_number_for_inner inner { conversation with
      profile_picture_media_id := rustzap_profile_picture_media_id conversation.profile_picture_media_id } =
      conversation_phone_number_for_inner inner conversation := rfl
  rw [hphone]
  cases hnumber : conversation_phone_number_for_inner inner conversation with
  | some phone_number => rfl
  | none =>
    unfold conversation_phone_number_for_inner at hnumber
    rw [if_neg htype, Option.or_eq_none_iff] at hnumber
    dsimp only
    rw [Option.map_none, Option.or_none, ← hnumber.1]

theorem public_group_type {conversation : Conversation} (htype : conversation.conversation_type = "group") :
    (public_conversation inner conversation).conversation_type = "group" := by
  unfold public_conversation apply_public_conversation_fields
  rw [if_pos htype]
  dsimp only
  rw [if_pos (by rfl)]
  rfl

/-- A read shows of a conversation what it says itself and a phone number that its ids or
its contact give. -/
theorem public_reveals_iff {conversation : Conversation} :
    Reveals self inner' project_id company_id ids (.conversation (public_conversation inner conversation)) ↔
      IsWith ids conversation ∧ (Identifies ids conversation ∨ Pictured conversation ∨
        conversation_phone_number_for_inner inner conversation ≠ none) := by
  by_cases htype : conversation.conversation_type = "group"
  · refine iff_of_false ?_ fun h => h.1.1 htype
    exact fun h => h.1.1 (public_group_type htype)
  · dsimp only [Reveals]
    rw [public_conversation_eq htype]
    refine and_congr Iff.rfl ?_
    unfold Identifies Pictured
    dsimp only
    rw [rustzap_profile_picture_media_id_idem]
    cases hnumber : conversation_phone_number_for_inner inner conversation with
    | some phone_number => simp
    | none =>
      unfold conversation_phone_number_for_inner at hnumber
      rw [if_neg htype, Option.or_eq_none_iff] at hnumber
      rw [hnumber.1]
      simp

theorem conversation_matches_tenant_iff {conversation : Conversation} :
    conversation_matches_tenant conversation project_id company_id = true ↔
      conversation.project_id = project_id ∧ conversation.company_id = company_id := by
  unfold conversation_matches_tenant
  rw [Bool.and_eq_true, decide_eq_true_eq, decide_eq_true_eq]

/-- Nothing in the store that a read of the company shows reveals the person. -/
structure Hidden (service : AppState) (inner inner' : StoreInner) (project_id company_id : String)
    (ids : String → Prop) : Prop where
  contacts : ∀ contact_id contact, inner'.contacts.lookup contact_id = some contact →
    contact.matches_tenant project_id company_id = true → ¬ (contact_json service contact).Reveals ids
  conversations : ∀ conversation_id conversation,
    inner'.conversations.lookup conversation_id = some conversation →
    conversation_matches_tenant conversation project_id company_id = true → IsWith ids conversation →
    ¬ Identifies ids conversation ∧ ¬ Pictured conversation ∧
      conversation_phone_number_for_inner inner' conversation = none
  members : ∀ group_id group members contact_id member, inner'.conversations.lookup group_id = some group →
    conversation_matches_tenant group project_id company_id = true → group.conversation_type = "group" →
    inner'.group_members.lookup group_id = some members → members.lookup contact_id = some member →
    ¬ (group_member_json service member).Reveals ids
  messages : ∀ message, Stored inner' message → SentBy project_id company_id ids message →
    ¬ Speaks ids message
  transcripts : ∀ message_id transcript, inner'.transcripts.lookup message_id = some transcript →
    ¬ Reveals service inner project_id company_id ids (.transcript transcript)

theorem public_hidden_iff {conversation : Conversation} :
    ¬ Reveals self inner project_id company_id ids (.conversation (public_conversation inner' conversation)) ↔
      (IsWith ids conversation → ¬ Identifies ids conversation ∧ ¬ Pictured conversation ∧
        conversation_phone_number_for_inner inner' conversation = none) := by
  rw [public_reveals_iff, not_and]
  refine forall_congr' fun _ => ?_
  rw [not_or, not_or, not_not]

theorem Hidden.forgotten (h : Hidden self inner inner' project_id company_id ids) :
    Forgotten self to_lowercase inner inner' project_id company_id ids := by
  intro read shown hshown
  cases Read.visible hshown with
  | contact contact_id contact hlookup =>
    rintro ⟨hmatches, hreveals⟩
    exact h.contacts contact_id contact hlookup hmatches hreveals
  | conversation conversation_id conversation hlookup hproject hcompany =>
    exact public_hidden_iff.mpr (h.conversations conversation_id conversation hlookup
      (conversation_matches_tenant_iff.mpr ⟨hproject, hcompany⟩))
  | stored_conversation conversation_id conversation hlookup hproject hcompany =>
    rintro ⟨hwith, hreveals⟩
    obtain ⟨hidentifies, hpictured, -⟩ := h.conversations conversation_id conversation hlookup
      (conversation_matches_tenant_iff.mpr ⟨hproject, hcompany⟩) hwith
    exact hreveals.elim hidentifies hpictured
  | member group_id contact_id group members member hgroup hproject hcompany htype hmembers hmember =>
    exact h.members group_id group members contact_id member hgroup
      (conversation_matches_tenant_iff.mpr ⟨hproject, hcompany⟩) htype hmembers hmember
  | message message media_url thumbnail_url conversation_id hstored =>
    rintro ⟨hsent, hspeaks⟩
    exact h.messages message hstored hsent hspeaks
  | transcript message_id transcript hlookup => exact h.transcripts message_id transcript hlookup

/-- Everything that is stored is shown by some read. -/
theorem Forgotten.hidden (h : Forgotten self to_lowercase inner inner' project_id company_id ids) :
    Hidden self inner inner' project_id company_id ids where
  contacts contact_id contact hlookup hmatches hreveals :=
    h .contacts (.contact contact) (contact_shown hlookup hmatches) ⟨hmatches, hreveals⟩
  conversations conversation_id conversation hlookup hmatches := by
    obtain ⟨hproject, hcompany⟩ := conversation_matches_tenant_iff.mp hmatches
    exact public_hidden_iff.mp (h .conversations _ (conversation_shown hlookup hproject hcompany))
  members group_id group members contact_id member hgroup hmatches htype hmembers hmember := by
    obtain ⟨hproject, hcompany⟩ := conversation_matches_tenant_iff.mp hmatches
    exact h (.group_members group_id) (.member member)
      (member_shown hgroup hproject hcompany htype hmembers hmember)
  messages message hstored hsent hspeaks := by
    obtain ⟨read, media_url, thumbnail_url, hshown⟩ := message_shown to_lowercase hstored hsent.1 hsent.2.1
    exact h read _ hshown ⟨hsent, hspeaks⟩
  transcripts message_id transcript hlookup := h (.transcript message_id) _ (transcript_shown hlookup)

theorem forgotten_iff_hidden : Forgotten self to_lowercase inner inner' project_id company_id ids ↔
    Hidden self inner inner' project_id company_id ids :=
  ⟨Forgotten.hidden, Hidden.forgotten⟩

end Forgotten

/-- The store after the deletion of a contact's data, but for the log. -/
def anonymized (now : OffsetDateTime) (inner : StoreInner) (project_id company_id key : String)
    (contact : ContactRecord) : StoreInner :=
  { inner with
    contacts := inner.contacts.insert key (anonymous_contact now contact)
    conversations := inner.conversations.map_values fun _ conversation =>
      anonymize_conversation now project_id company_id (contact_aliases_for_record contact)
        (anonymous_name contact.id) conversation
    messages_by_conversation := inner.messages_by_conversation.map_values fun _ messages =>
      messages.map (anonymize_message now project_id company_id (contact_aliases_for_record contact)
        (anonymous_name contact.id) true)
    messages_by_id := inner.messages_by_id.map_values fun _ message =>
      anonymize_message now project_id company_id (contact_aliases_for_record contact)
        (anonymous_name contact.id) true message }

section Anonymized

variable {self : AppState} {ctx : Ctx} {inner : StoreInner} {project_id company_id key : String}
  {contact : ContactRecord} {ids : String → Prop}

theorem anonymize_contact_eq (self : AppState) (ctx : Ctx) {contact_id : String}
    (hcontact : state.contact inner project_id company_id contact_id = .ok contact) :
    ∃ entries, (anonymize_contact self ctx inner project_id company_id contact_id true).2 =
      { anonymized ctx.now inner project_id company_id
          (resolve_contact_id_inner inner project_id company_id contact_id) contact with
        audit_logs := entries } := by
  have hfound : (inner.contacts.lookup (resolve_contact_id_inner inner project_id company_id contact_id)).filter
      (fun contact => contact.matches_tenant project_id company_id) = some contact :=
    Option.filter_eq_some_iff.mpr (contact_eq_ok_iff.mp hcontact)
  unfold anonymize_contact
  dsimp only
  rw [hfound]
  exact ⟨_, rfl⟩

/-- What is left of the record itself. -/
theorem anonymous_contact_hidden_iff (now : OffsetDateTime) (hid : ids contact.id) :
    ¬ (contact_json self (anonymous_contact now contact)).Reveals ids ↔
      (contact.canonical_jid.bind phone_number_from_jid = none ∧ phone_number_from_jid contact.id = none) ∧
        rustzap_profile_picture_media_id contact.profile_picture_media_id = none := by
  have hname : Anonymous ids (anonymous_contact now contact).display_name := ⟨contact.id, hid, rfl⟩
  have hphone : contact_phone_number (anonymous_contact now contact) =
      (contact.canonical_jid.bind phone_number_from_jid).or (phone_number_from_jid contact.id) := rfl
  unfold ContactJson.Reveals contact_json
  dsimp only
  rw [hphone]
  simp only [anonymous_contact, hid, true_and, ne_eq, not_true_eq_false, false_or, or_false, not_or, not_not,
    Option.or_eq_none_iff]
  constructor
  · rintro ⟨hjids, -, hpicture⟩
    exact ⟨hjids, hpicture⟩
  · rintro ⟨hjids, hpicture⟩
    exact ⟨hjids, hname, hpicture⟩

/-- The phone numbers that the phone book gives for an id, once the record has none. -/
theorem phone_after_iff {now : OffsetDateTime} {contact_id : String}
    (hjids : contact.canonical_jid.bind phone_number_from_jid = none ∧ phone_number_from_jid contact.id = none) :
    ((anonymized now inner project_id company_id key contact).contacts.lookup contact_id).bind
        contact_phone_number = none ↔
      (contact_id ≠ key → ∀ other, inner.contacts.lookup contact_id = some other →
        contact_phone_number other = none) := by
  have hphone : contact_phone_number (anonymous_contact now contact) =
      (contact.canonical_jid.bind phone_number_from_jid).or (phone_number_from_jid contact.id) := rfl
  dsimp only [anonymized]
  rw [HashMap.lookup_insert_ite]
  split
  · next hkey =>
    rw [Option.bind_some, hphone, Option.or_eq_none_iff]
    exact iff_of_true hjids fun hne => absurd hkey hne
  · next hkey =>
    rw [Option.bind_eq_none_iff]
    exact ⟨fun h _ => h, fun h => h hkey⟩

theorem phone_number_none_iff {inner : StoreInner} {conversation : Conversation}
    (htype : conversation.conversation_type ≠ "group") :
    conversation_phone_number_for_inner inner conversation = none ↔
      conversation.phone_number = none ∧ conversation.display_phone.bind phone_number_from_e164 = none ∧
        phone_number_from_jid conversation.id = none ∧
        ∀ contact_id, conversation.id = contact_id ∨ conversation.contact_id = some contact_id →
          (inner.contacts.lookup contact_id).bind contact_phone_number = none := by
  unfold conversation_phone_number_for_inner
  rw [if_neg htype]
  simp only [Option.or_eq_none_iff]
  refine and_congr Iff.rfl (and_congr Iff.rfl (and_congr Iff.rfl ?_))
  constructor
  · rintro ⟨hcontact, hself⟩ contact_id (rfl | hid)
    · exact hself
    · rw [hid, Option.bind_some] at hcontact
      exact hcontact
  · intro h
    refine ⟨?_, h conversation.id (Or.inl rfl)⟩
    cases hid : conversation.contact_id with
    | none => rfl
    | some contact_id => exact h contact_id (Or.inr hid)

/-- What is left of a conversation with the person. -/
theorem conversation_hidden_iff {now : OffsetDateTime} {conversation : Conversation}
    (hjids : contact.canonical_jid.bind phone_number_from_jid = none ∧ phone_number_from_jid contact.id = none)
    (hid : ids contact.id) (hmatches : conversation_matches_tenant conversation project_id company_id = true)
    (hwith : IsWith ids conversation) (changed : Conversation)
    (hchanged : changed = anonymize_conversation now project_id company_id
      (contact_aliases_for_record contact) (anonymous_name contact.id) conversation) :
    (¬ Identifies ids changed ∧ ¬ Pictured changed ∧
        conversation_phone_number_for_inner (anonymized now inner project_id company_id key contact)
          changed = none) ↔
      (phone_number_from_jid conversation.id = none ∧
        ∀ contact_id other, conversation.id = contact_id ∨ conversation.contact_id = some contact_id →
          contact_id ≠ key → inner.contacts.lookup contact_id = some other →
          contact_phone_number other = none) ∧ ¬ Pictured conversation ∧
      (conversation.contact_id.any (contact_aliases_for_record contact).contains = false →
        ¬ Identifies ids conversation) := by
  obtain ⟨hproject, hcompany⟩ := conversation_matches_tenant_iff.mp hmatches
  have hderived : (∀ contact_id, conversation.id = contact_id ∨ conversation.contact_id = some contact_id →
      ((anonymized now inner project_id company_id key contact).contacts.lookup contact_id).bind
        contact_phone_number = none) ↔
      ∀ contact_id other, conversation.id = contact_id ∨ conversation.contact_id = some contact_id →
        contact_id ≠ key → inner.contacts.lookup contact_id = some other →
        contact_phone_number other = none := by
    constructor
    · exact fun h contact_id other hnamed hne hlookup =>
        (phone_after_iff hjids).mp (h contact_id hnamed) hne other hlookup
    · exact fun h contact_id hnamed => (phone_after_iff hjids).mpr fun hne other hlookup =>
        h contact_id other hnamed hne hlookup
  rw [← hderived]
  unfold anonymize_conversation at hchanged
  by_cases hnamed : conversation.contact_id.any (contact_aliases_for_record contact).contains = true
  · -- it is anonymized, and only the ids are left
    rw [if_pos (by simp [hproject, hcompany, hnamed])] at hchanged
    have htype : changed.conversation_type ≠ "group" := by
      rw [hchanged]
      exact hwith.1
    rw [phone_number_none_iff htype]
    subst hchanged
    have hidentifies : ¬ Identifies ids { conversation with
        display_name := some (anonymous_name contact.id), display_phone := none, phone_number := none,
        avatar_url := none, profile_picture_url := none, updated_at := now } := by
      rintro (h | h | ⟨name, ⟨⟩, hname⟩ | h | h)
      · exact h rfl
      · exact h rfl
      · exact hname ⟨contact.id, hid, rfl⟩
      · exact h rfl
      · exact h rfl
    constructor
    · rintro ⟨-, hpictured, -, -, hleft⟩
      refine ⟨hleft, hpictured, fun hnot => ?_⟩
      rw [hnamed] at hnot
      cases hnot
    · rintro ⟨hleft, hpictured, -⟩
      exact ⟨hidentifies, hpictured, rfl, rfl, hleft⟩
  · -- it is not looked at
    have hnot := Bool.eq_false_of_not_eq_true hnamed
    rw [if_neg (by simp [hnot])] at hchanged
    subst hchanged
    rw [phone_number_none_iff hwith.1]
    constructor
    · rintro ⟨hidentifies, hpictured, -, -, hleft⟩
      exact ⟨hleft, hpictured, fun _ => hidentifies⟩
    · rintro ⟨hleft, hpictured, hidentifies⟩
      have hnone := hidentifies hnot
      unfold Identifies at hnone
      simp only [not_or, not_not] at hnone
      refine ⟨hidentifies hnot, hpictured, hnone.1, ?_, hleft⟩
      rw [hnone.2.1]
      rfl

theorem stored_anonymized_iff {now : OffsetDateTime} {message : Message} :
    Stored (anonymized now inner project_id company_id key contact) message ↔
      ∃ old, Stored inner old ∧ message = anonymize_message now project_id company_id
        (contact_aliases_for_record contact) (anonymous_name contact.id) true old := by
  dsimp only [Stored, anonymized]
  simp only [HashMap.lookup_map_values, Option.map_eq_some_iff]
  constructor
  · rintro (⟨message_id, old, hlookup, rfl⟩ | ⟨conversation_id, _, ⟨messages, hlookup, rfl⟩, hmem⟩)
    · exact ⟨old, Or.inl ⟨message_id, hlookup⟩, rfl⟩
    · obtain ⟨old, hold, rfl⟩ := List.mem_map.mp hmem
      exact ⟨old, Or.inr ⟨conversation_id, messages, hlookup, hold⟩, rfl⟩
  · rintro ⟨old, ⟨message_id, hlookup⟩ | ⟨conversation_id, messages, hlookup, hmem⟩, rfl⟩
    · exact Or.inl ⟨message_id, old, hlookup, rfl⟩
    · exact Or.inr ⟨conversation_id, _, ⟨messages, hlookup, rfl⟩, List.mem_map.mpr ⟨old, hmem, rfl⟩⟩

theorem sent_anonymized_iff {now : OffsetDateTime} {aliases : List String} {name : String} {message : Message} :
    SentBy project_id company_id ids
        (anonymize_message now project_id company_id aliases name true message) ↔
      SentBy project_id company_id ids message := by
  unfold anonymize_message
  split <;> exact Iff.rfl

/-- What is left of a message of the person. -/
theorem message_hidden_iff {now : OffsetDateTime} {message : Message} (hid : ids contact.id)
    (hsent : SentBy project_id company_id ids message) :
    ¬ Speaks ids (anonymize_message now project_id company_id (contact_aliases_for_record contact)
        (anonymous_name contact.id) true message) ↔
      (message.sender_contact_id.any (contact_aliases_for_record contact).contains = false →
        ¬ Speaks ids message) := by
  obtain ⟨hproject, hcompany, -⟩ := hsent
  unfold anonymize_message
  by_cases hnamed : message.sender_contact_id.any (contact_aliases_for_record contact).contains = true
  · rw [if_pos (by simp [hproject, hcompany, hnamed])]
    refine iff_of_true ?_ fun hnot => ?_
    · rintro (h | ⟨name, ⟨⟩, hname⟩)
      · exact h rfl
      · exact hname ⟨contact.id, hid, rfl⟩
    · rw [hnamed] at hnot
      cases hnot
  · have hnot := Bool.eq_false_of_not_eq_true hnamed
    rw [if_neg (by simp [hnot])]
    exact ⟨fun h _ => h, fun h => h hnot⟩

theorem transcript_hidden_iff :
    (∀ message_id transcript, inner.transcripts.lookup message_id = some transcript →
        ¬ Reveals self inner project_id company_id ids (.transcript transcript)) ↔
      ∀ message transcript, Stored inner message → SentBy project_id company_id ids message →
        inner.transcripts.lookup message.id = some transcript → transcript.text = none := by
  constructor
  · intro h message transcript hstored hsent hlookup
    by_contra htext
    exact h message.id transcript hlookup ⟨htext, message, hstored, hsent, hlookup⟩
  · rintro h message_id transcript hlookup ⟨htext, message, hstored, hsent, hfound⟩
    exact htext (h message transcript hstored hsent hfound)

theorem anonymize_conversation_lookup {now : OffsetDateTime} {conversation_id : String}
    {changed : Conversation} :
    (anonymized now inner project_id company_id key contact).conversations.lookup conversation_id = some changed ↔
      ∃ conversation, inner.conversations.lookup conversation_id = some conversation ∧
        anonymize_conversation now project_id company_id (contact_aliases_for_record contact)
          (anonymous_name contact.id) conversation = changed := by
  dsimp only [anonymized]
  rw [HashMap.lookup_map_values, Option.map_eq_some_iff]

theorem anonymize_conversation_kept (project_id company_id : String) (now : OffsetDateTime)
    (aliases : List String) (name : String) (conversation : Conversation) :
    let changed := anonymize_conversation now project_id company_id aliases name conversation
    changed.id = conversation.id ∧ changed.project_id = conversation.project_id ∧
      changed.company_id = conversation.company_id ∧
      changed.conversation_type = conversation.conversation_type ∧
      changed.contact_id = conversation.contact_id := by
  unfold anonymize_conversation
  dsimp only
  split <;> exact ⟨rfl, rfl, rfl, rfl, rfl⟩

/-- The person is hidden exactly when there was nothing that the anonymization leaves. -/
theorem hidden_iff (now : OffsetDateTime)
    (hmatches : contact.matches_tenant project_id company_id = true) (hid : ids contact.id) :
    Hidden self inner (anonymized now inner project_id company_id key contact) project_id company_id ids ↔
      NothingElse self inner project_id company_id key contact ids := by
  have hnow : (anonymized now inner project_id company_id key contact).contacts.lookup key =
      some (anonymous_contact now contact) := by
    dsimp only [anonymized]
    rw [HashMap.lookup_insert_ite, if_pos rfl]
  have hother : ∀ contact_id, contact_id ≠ key →
      (anonymized now inner project_id company_id key contact).contacts.lookup contact_id =
        inner.contacts.lookup contact_id := by
    intro contact_id hne
    dsimp only [anonymized]
    rw [HashMap.lookup_insert_ite, if_neg hne]
  have hkept : ∀ conversation : Conversation, ∀ changed,
      anonymize_conversation now project_id company_id (contact_aliases_for_record contact)
        (anonymous_name contact.id) conversation = changed →
      (conversation_matches_tenant changed project_id company_id =
        conversation_matches_tenant conversation project_id company_id) ∧
      (IsWith ids changed ↔ IsWith ids conversation) ∧
      changed.conversation_type = conversation.conversation_type := by
    rintro conversation _ rfl
    obtain ⟨hid, hproject, hcompany, htype, hcontact⟩ := anonymize_conversation_kept project_id company_id now
      (contact_aliases_for_record contact) (anonymous_name contact.id) conversation
    unfold conversation_matches_tenant IsWith
    rw [hproject, hcompany, htype, hid, hcontact]
    exact ⟨rfl, Iff.rfl, rfl⟩
  constructor
  · intro h
    obtain ⟨hjids, hpicture⟩ := (anonymous_contact_hidden_iff now hid).mp (h.contacts key _ hnow hmatches)
    have hconversations : ∀ conversation_id conversation,
        inner.conversations.lookup conversation_id = some conversation →
        conversation_matches_tenant conversation project_id company_id = true → IsWith ids conversation → _ :=
      fun conversation_id conversation hstored howner hwith => by
        obtain ⟨howner', hwith', -⟩ := hkept conversation _ rfl
        exact (conversation_hidden_iff hjids hid howner hwith _ rfl).mp
          (h.conversations conversation_id _ (anonymize_conversation_lookup.mpr ⟨conversation, hstored, rfl⟩)
            (howner'.trans howner) (hwith'.mpr hwith))
    constructor
    · exact hjids
    · exact hpicture
    · intro contact_id other hstored hne hmatches
      exact h.contacts contact_id other ((hother contact_id hne).trans hstored) hmatches
    · exact fun conversation_id conversation hstored howner hwith =>
        (hconversations conversation_id conversation hstored howner hwith).1
    · exact fun conversation_id conversation hstored howner hwith =>
        (hconversations conversation_id conversation hstored howner hwith).2.1
    · exact fun conversation_id conversation hstored howner hwith =>
        (hconversations conversation_id conversation hstored howner hwith).2.2
    · intro group_id group members contact_id member hgroup howner htype hmembers hmember
      obtain ⟨howner', -, htype'⟩ := hkept group _ rfl
      exact h.members group_id _ members contact_id member
        (anonymize_conversation_lookup.mpr ⟨group, hgroup, rfl⟩) (howner'.trans howner) (htype'.trans htype)
        hmembers hmember
    · intro message hstored hsent
      exact (message_hidden_iff hid hsent).mp
        (h.messages _ (stored_anonymized_iff.mpr ⟨message, hstored, rfl⟩) (sent_anonymized_iff.mpr hsent))
    · exact transcript_hidden_iff.mp h.transcripts
  · intro h
    constructor
    · intro contact_id other hstored howner
      by_cases hkey : contact_id = key
      · rw [hkey, hnow] at hstored
        cases hstored
        exact (anonymous_contact_hidden_iff now hid).mpr ⟨h.own_jids, h.own_picture⟩
      · exact h.contacts contact_id other ((hother contact_id hkey).symm.trans hstored) hkey howner
    · intro conversation_id changed hstored howner hwith
      obtain ⟨conversation, hold, hchanged⟩ := anonymize_conversation_lookup.mp hstored
      obtain ⟨howner', hwith', -⟩ := hkept conversation changed hchanged
      have howner := howner'.symm.trans howner
      have hwith := hwith'.mp hwith
      exact (conversation_hidden_iff h.own_jids hid howner hwith changed hchanged.symm).mpr
        ⟨h.jids conversation_id conversation hold howner hwith,
          h.pictures conversation_id conversation hold howner hwith,
          h.conversations conversation_id conversation hold howner hwith⟩
    · intro group_id changed members contact_id member hgroup howner htype hmembers hmember
      obtain ⟨group, hold, hchanged⟩ := anonymize_conversation_lookup.mp hgroup
      obtain ⟨howner', -, htype'⟩ := hkept group changed hchanged
      exact h.members group_id group members contact_id member hold (howner'.symm.trans howner)
        (htype'.symm.trans htype) hmembers hmember
    · intro message hstored hsent
      obtain ⟨old, hold, rfl⟩ := stored_anonymized_iff.mp hstored
      have hsent := sent_anonymized_iff.mp hsent
      exact (message_hidden_iff hid hsent).mpr (h.messages old hold hsent)
    · exact transcript_hidden_iff.mpr h.transcripts

end Anonymized

/-- After a privacy delete no read reveals the person, whatever ids the company knows him by,
exactly when there was nothing that the delete does not look at. -/
theorem privacy_delete_forgets_iff (self : AppState) (to_lowercase : String → String) (ctx : Ctx)
    (inner : StoreInner) (project_id company_id contact_id : String) (contact : ContactRecord)
    (hcontact : state.contact inner project_id company_id contact_id = .ok contact) :
    Forgotten self to_lowercase inner
        (anonymize_contact self ctx inner project_id company_id contact_id true).2 project_id company_id
        (SamePerson inner project_id company_id contact.id) ↔
      NothingElse self inner project_id company_id
        (resolve_contact_id_inner inner project_id company_id contact_id) contact
        (SamePerson inner project_id company_id contact.id) := by
  obtain ⟨-, hmatches⟩ := contact_eq_ok_iff.mp hcontact
  obtain ⟨entries, heq⟩ := anonymize_contact_eq self ctx hcontact
  rw [forgotten_iff_hidden, heq]
  refine Iff.trans ?_ (hidden_iff ctx.now hmatches (Relation.EqvGen.refl contact.id))
  -- the log is not among what the reads show
  exact ⟨fun h => ⟨h.contacts, h.conversations, h.members, h.messages, h.transcripts⟩,
    fun h => ⟨h.contacts, h.conversations, h.members, h.messages, h.transcripts⟩⟩

namespace sample

/-- A text of somebody who hides his phone number. -/
def hidden_event : whatsapp.MessageEvent :=
  { text_event "3EB0A0" 1 false with chat_jid := "123@lid", sender_jid := "123@lid" }

def hidden_received : List (Ctx × Operation) :=
  [(ctx 1 "a", .store (.process_whatsapp_event company_a answers (.Message hidden_event)))]

/-- What the company has of him. -/
def hidden_inner : StoreInner :=
  (live Store.empty hidden_received).inner

end sample

/-- Somebody of whom the company has one text and no phone number is forgotten. -/
theorem hidden_sender_forgotten : ∃ contact,
    state.contact sample.hidden_inner "acme" "company_a" "123@lid" = .ok contact ∧
    Forgotten sample.service id sample.hidden_inner
      (anonymize_contact sample.service (sample.ctx 2 "b") sample.hidden_inner "acme" "company_a" "123@lid" true).2
      "acme" "company_a" (SamePerson sample.hidden_inner "acme" "company_a" contact.id) := by
  have hresolved : resolve_contact_id_inner sample.hidden_inner "acme" "company_a" "123@lid" = "123@lid" := by
    decide
  have hcontact : ∃ contact, sample.hidden_inner.contacts.lookup "123@lid" = some contact ∧
      contact.matches_tenant "acme" "company_a" = true ∧
      (contact.canonical_jid.bind phone_number_from_jid = none ∧ phone_number_from_jid contact.id = none) ∧
      rustzap_profile_picture_media_id contact.profile_picture_media_id = none ∧
      (contact_aliases_for_record contact).contains "123@lid" = true := by
    have hsome : ((sample.hidden_inner.contacts.lookup "123@lid").any fun contact =>
        contact.matches_tenant "acme" "company_a" &&
        (contact.canonical_jid.bind phone_number_from_jid = none && phone_number_from_jid contact.id = none) &&
        rustzap_profile_picture_media_id contact.profile_picture_media_id = none &&
        (contact_aliases_for_record contact).contains "123@lid") = true := by decide
    cases hlookup : sample.hidden_inner.contacts.lookup "123@lid" with
    | none =>
      rw [hlookup] at hsome
      cases hsome
    | some contact =>
      rw [hlookup] at hsome
      simp only [Option.any_some, Bool.and_eq_true, decide_eq_true_eq] at hsome
      exact ⟨contact, rfl, hsome.1.1.1, hsome.1.1.2, hsome.1.2, hsome.2⟩
  obtain ⟨contact, hlookup, hmatches, hjids, hpicture, halias⟩ := hcontact
  have hone : ∀ key ∈ sample.hidden_inner.contacts.keys, key = "123@lid" := by decide
  have hconversations : ∀ conversation ∈ sample.hidden_inner.conversations.values,
      conversation.id = "123@lid" ∧ conversation.contact_id = some "123@lid" ∧
        rustzap_profile_picture_media_id conversation.profile_picture_media_id = none ∧
        conversation.conversation_type ≠ "group" ∧ phone_number_from_jid conversation.id = none := by decide
  have hby_id : ∀ message ∈ sample.hidden_inner.messages_by_id.values,
      message.sender_contact_id = some "123@lid" := by decide
  have hby_conversation : ∀ messages ∈ sample.hidden_inner.messages_by_conversation.values,
      ∀ message ∈ messages, message.sender_contact_id = some "123@lid" := by decide
  have hmessages : ∀ message, Stored sample.hidden_inner message → message.sender_contact_id = some "123@lid" := by
    rintro message (⟨message_id, hstored⟩ | ⟨conversation_id, messages, hstored, hmem⟩)
    · exact hby_id message (HashMap.mem_values_of_lookup hstored)
    · exact hby_conversation messages (HashMap.mem_values_of_lookup hstored) message hmem
  have htranscripts : sample.hidden_inner.transcripts.keys = [] := by decide
  have hread : state.contact sample.hidden_inner "acme" "company_a" "123@lid" = .ok contact :=
    contact_eq_ok_iff.mpr ⟨hresolved.symm ▸ hlookup, hmatches⟩
  refine ⟨contact, hread, (privacy_delete_forgets_iff sample.service id (sample.ctx 2 "b") sample.hidden_inner
    "acme" "company_a" "123@lid" contact hread).mpr ?_⟩
  rw [hresolved]
  constructor
  · exact hjids
  · exact hpicture
  · exact fun contact_id other hstored hne => absurd (hone contact_id (HashMap.mem_keys_of_lookup hstored)) hne
  · intro conversation_id conversation hstored _ _
    obtain ⟨hid, hcontact, -, -, hjid⟩ := hconversations conversation (HashMap.mem_values_of_lookup hstored)
    refine ⟨hjid, fun contact_id other hnamed hne _ => absurd ?_ hne⟩
    rw [hid, hcontact, Option.some.injEq] at hnamed
    exact hnamed.elim Eq.symm Eq.symm
  · intro conversation_id conversation hstored _ _ hpictured
    exact hpictured (hconversations conversation (HashMap.mem_values_of_lookup hstored)).2.2.1
  · intro conversation_id conversation hstored _ _ hnot
    rw [(hconversations conversation (HashMap.mem_values_of_lookup hstored)).2.1, Option.any_some, halias] at hnot
    cases hnot
  · intro group_id group members contact_id member hgroup _ htype
    exact absurd htype (hconversations group (HashMap.mem_values_of_lookup hgroup)).2.2.2.1
  · intro message hstored _ hnot
    rw [hmessages message hstored, Option.any_some, halias] at hnot
    cases hnot
  · intro message transcript _ _ htranscript
    have hkey := HashMap.mem_keys_of_lookup htranscript
    rw [htranscripts] at hkey
    cases hkey

/-- What somebody has said in a voice message stays to be read in its transcript. -/
theorem transcript_stays :
    ¬ ∀ (labels : List (Ctx × Operation)) (store : Store) (ctx : Ctx) (contact_id : String)
        (contact : ContactRecord),
      Run (Store.Lives sample.service) Store.empty labels store →
      state.contact store.inner "acme" "company_a" contact_id = .ok contact →
      Forgotten sample.service id store.inner
        (anonymize_contact sample.service ctx store.inner "acme" "company_a" contact_id true).2 "acme" "company_a"
        (SamePerson store.inner "acme" "company_a" contact.id) := by
  intro hclaim
  have hrun := sample.lives sample.voice_heard Store.empty (by decide)
  generalize hstore : sample.live Store.empty sample.voice_heard = store at hrun
  have hcontact : ∃ contact, state.contact store.inner "acme" "company_a" "5511988887777@s.whatsapp.net" =
      .ok contact ∧ contact.id = "5511988887777@s.whatsapp.net" := by
    have hresolved : resolve_contact_id_inner store.inner "acme" "company_a" "5511988887777@s.whatsapp.net" =
        "5511988887777@s.whatsapp.net" := by
      rw [← hstore]
      decide
    have hsome : ((store.inner.contacts.lookup "5511988887777@s.whatsapp.net").any fun contact =>
        contact.matches_tenant "acme" "company_a" && contact.id = "5511988887777@s.whatsapp.net") = true := by
      rw [← hstore]
      decide
    cases hlookup : store.inner.contacts.lookup "5511988887777@s.whatsapp.net" with
    | none =>
      rw [hlookup] at hsome
      cases hsome
    | some contact =>
      rw [hlookup, Option.any_some, Bool.and_eq_true, decide_eq_true_eq] at hsome
      exact ⟨contact, contact_eq_ok_iff.mpr ⟨hresolved.symm ▸ hlookup, hsome.1⟩, hsome.2⟩
  have hsent : ∃ message, store.inner.messages_by_id.lookup "msg_a0" = some message ∧ message.id = "msg_a0" ∧
      message.project_id = "acme" ∧ message.company_id = "company_a" ∧
      message.sender_contact_id = some "5511988887777@s.whatsapp.net" := by
    have hsome : ((store.inner.messages_by_id.lookup "msg_a0").any fun message => message.id = "msg_a0" &&
        message.project_id = "acme" && message.company_id = "company_a" &&
        message.sender_contact_id = some "5511988887777@s.whatsapp.net") = true := by
      rw [← hstore]
      decide
    cases hlookup : store.inner.messages_by_id.lookup "msg_a0" with
    | none =>
      rw [hlookup] at hsome
      cases hsome
    | some message =>
      rw [hlookup] at hsome
      simp only [Option.any_some, Bool.and_eq_true, decide_eq_true_eq] at hsome
      exact ⟨message, rfl, hsome.1.1.1, hsome.1.1.2, hsome.1.2, hsome.2⟩
  have hheard : (store.inner.transcripts.lookup "msg_a0").bind Transcript.text = some "oi" := by
    rw [← hstore]
    decide
  obtain ⟨contact, hread, hid⟩ := hcontact
  obtain ⟨message, hmessage, hmessage_id, hproject, hcompany, hsender⟩ := hsent
  obtain ⟨transcript, htranscript, htext⟩ := Option.bind_eq_some_iff.mp hheard
  have hforgotten := hclaim _ _ (sample.ctx 5 "d") _ contact hrun hread
  obtain ⟨entries, heq⟩ := anonymize_contact_eq sample.service (sample.ctx 5 "d") hread
  rw [heq] at hforgotten
  refine hforgotten.hidden.transcripts "msg_a0" transcript htranscript
    ⟨fun hnone => ?_, message, Or.inl ⟨"msg_a0", hmessage⟩,
      ⟨hproject, hcompany, _, hsender, hid ▸ Relation.EqvGen.refl _⟩, hmessage_id ▸ htranscript⟩
  rw [hnone] at htext
  cases htext

end rustzap.state
