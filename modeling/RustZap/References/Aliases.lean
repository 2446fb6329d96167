import RustZap.Privacy.Reads
import RustZap.State.Operations

open collections
open rustzap.error rustzap.models rustzap.whatsapp

namespace rustzap.state

/-- What a contact can be linked with: the JID of its phone, and the LID that stands for it. -/
inductive ContactLink where
  | canonical_jid
  | lid

def ContactRecord.link (contact : ContactRecord) : ContactLink → Option String
  | .canonical_jid => contact.canonical_jid
  | .lid => contact.lid

namespace ContactEnrichmentInput

/-- The links that an enrichment comes to, from the profile and the id it is for. -/
def link (input : ContactEnrichmentInput) : ContactLink → Option String
  | .canonical_jid => input.canonical_jid
  | .lid => input.lid

/-- The ids whose records an enrichment writes. -/
def written (input : ContactEnrichmentInput) : List String :=
  input.contact_id :: input.aliases

end ContactEnrichmentInput

/-- A call that writes to the phone book. -/
inductive ContactCall where
  | upsert (input : ContactUpsertInput)
  | enrich (input : ContactEnrichmentInput)

/-- An upsert with another id of the contact is an enrichment, where the other id says
something. -/
def ContactUpsertWithAltInput.call (input : ContactUpsertWithAltInput) : ContactCall :=
  match contact_profile_from_alt input.contact.contact_id input.alt_jid with
  | some profile => .enrich
      { project_id := input.contact.project_id
        company_id := input.contact.company_id
        channel_id := input.contact.channel_id
        contact_id := input.contact.contact_id
        push_name := input.contact.push_name
        profile := { profile with
          profile_picture_url := input.contact.profile_picture_url.or profile.profile_picture_url }
        now := input.contact.now
        profile_lookup_succeeded := false }
  | none => .upsert input.contact

namespace ContactCall

def apply (inner : StoreInner) : ContactCall → StoreInner
  | .upsert input => (upsert_contact_inner inner input).2
  | .enrich input => (enrich_contact_inner inner input).2

/-- The value of a link that the call supplies for the record of an id, if it supplies one. -/
def supplies (jid : String) (link : ContactLink) : ContactCall → Option String
  | .upsert _ => none
  | .enrich input => if jid ∈ input.written then input.link link else none

/-- The call supplies another value of the link. -/
def Contradicts (call : ContactCall) (jid : String) (link : ContactLink) (value : String) : Prop :=
  ∃ other, call.supplies jid link = some other ∧ other ≠ value

/-- An enrichment that writes a linked record brings a value of that link itself. -/
def BringsKnownLinks (contacts : HashMap String ContactRecord) : ContactCall → Prop
  | .upsert _ => True
  | .enrich input => ∀ jid ∈ input.written, ∀ record, contacts.lookup jid = some record →
      ∀ link, (record.link link).isSome → (input.link link).isSome

end ContactCall

theorem upsert_contact_with_alt_inner_eq (inner : StoreInner) (input : ContactUpsertWithAltInput) :
    (upsert_contact_with_alt_inner inner input).2 = input.call.apply inner := by
  unfold upsert_contact_with_alt_inner ContactUpsertWithAltInput.call
  cases contact_profile_from_alt input.contact.contact_id input.alt_jid <;> rfl

/-- What a lookup leaves open is filled in from another id of the contact. -/
def merge_contact_profile_alt (profile : ContactProfile) (alt_jid : Option String) : ContactProfile :=
  match contact_profile_from_alt profile.requested_jid alt_jid with
  | some fallback =>
    { profile with
      resolved_jid := profile.resolved_jid.or fallback.resolved_jid
      lid := profile.lid.or fallback.lid
      phone_e164 := profile.phone_e164.or fallback.phone_e164 }
  | none => profile

/-- Whether a medium is of a chat with the holder of the aliases, or of a message he sent. -/
def media_involves (inner : StoreInner) (aliases : List String) (media : MediaObject) : Bool :=
  (((inner.conversations.lookup media.conversation_id).filter fun conversation =>
      conversation.conversation_type = "direct").any fun conversation =>
    aliases.contains conversation.id || conversation.contact_id.any aliases.contains) ||
  ((media.message_id.bind inner.messages_by_id.lookup).bind Message.sender_contact_id).any
    aliases.contains

def media_for_contact (inner : StoreInner) (project_id company_id contact_id : String) :
    ApiResult (List MediaObject) :=
  match contact_aliases_for_inner inner project_id company_id contact_id with
  | .error err => .error err
  | .ok aliases => .ok (sort_by (fun a b => b.created_at ≤ a.created_at)
      ((inner.media.values.filter fun media =>
          media.project_id = project_id && media.company_id = company_id).filter
        (media_involves inner aliases)))

/-- Whether a message was sent by the holder of the aliases. -/
def sent_by (aliases : List String) (message : Message) : Bool :=
  message.sender_contact_id.any aliases.contains

/-- What is found through some aliases is there later, and is found through others. -/
structure StillFound (inner : StoreInner) (aliases : List String) (inner' : StoreInner)
    (aliases' : List String) : Prop where
  conversations : ∀ conversation ∈ inner.conversations.values,
    conversation_involves inner aliases conversation = true →
    conversation ∈ inner'.conversations.values ∧ conversation_involves inner' aliases' conversation = true
  media : ∀ media ∈ inner.media.values, media_involves inner aliases media = true →
    media ∈ inner'.media.values ∧ media_involves inner' aliases' media = true
  messages : ∀ message ∈ inner.messages_by_id.values, sent_by aliases message = true →
    message ∈ inner'.messages_by_id.values ∧ sent_by aliases' message = true

section Aliases

variable {inner : StoreInner}

theorem StillFound.of_subset {aliases aliases' : List String} (h : aliases ⊆ aliases')
    (contacts : HashMap String ContactRecord) :
    StillFound inner aliases { inner with contacts } aliases' := by
  have hcontains : ∀ jid, aliases.contains jid = true → aliases'.contains jid = true := by
    intro jid hjid
    rw [List.contains_iff_mem] at hjid ⊢
    exact h hjid
  have hany : ∀ jid : Option String, jid.any aliases.contains = true → jid.any aliases'.contains = true := by
    intro jid hjid
    cases jid with
    | none => exact hjid
    | some jid => exact hcontains jid hjid
  refine ⟨fun conversation hmem hfound => ⟨hmem, ?_⟩, fun media hmem hfound => ⟨hmem, ?_⟩,
    fun message hmem hfound => ⟨hmem, hany _ hfound⟩⟩
  · unfold conversation_involves at hfound ⊢
    split at hfound
    · next hdirect =>
      rw [if_pos hdirect]
      rw [Bool.or_eq_true] at hfound ⊢
      exact hfound.imp (hcontains _) (hany _)
    · next hgroup =>
      rw [if_neg hgroup]
      cases hmembers : conversation.group_id.bind inner.group_members.lookup with
      | none =>
        rw [hmembers] at hfound
        cases hfound
      | some members =>
        rw [hmembers, Option.any_some, List.any_eq_true] at hfound
        obtain ⟨jid, hjid, hmember⟩ := hfound
        rw [Option.any_some, List.any_eq_true]
        exact ⟨jid, h hjid, hmember⟩
  · unfold media_involves at hfound ⊢
    rw [Bool.or_eq_true] at hfound ⊢
    refine hfound.imp (fun hchat => ?_) (hany _)
    rw [Option.any_eq_true] at hchat ⊢
    obtain ⟨conversation, hconversation, hinvolved⟩ := hchat
    refine ⟨conversation, hconversation, ?_⟩
    rw [Bool.or_eq_true] at hinvolved ⊢
    exact hinvolved.imp (hcontains _) (hany _)

theorem ContactUpsertInput.apply_link (input : ContactUpsertInput) (entry : ContactRecord)
    (link : ContactLink) : (input.apply entry).link link = entry.link link := by
  unfold ContactUpsertInput.apply ContactRecord.link
  dsimp only
  repeat' split
  all_goals rfl

theorem ContactUpsertInput.apply_id (input : ContactUpsertInput) (entry : ContactRecord) :
    (input.apply entry).id = entry.id := by
  unfold ContactUpsertInput.apply
  dsimp only
  repeat' split
  all_goals rfl

/-- An enrichment overwrites the links with its own. -/
theorem ContactEnrichmentInput.apply_link (input : ContactEnrichmentInput) (entry : ContactRecord)
    (link : ContactLink) : (input.apply entry).link link = input.link link := by
  unfold ContactEnrichmentInput.apply ContactRecord.link ContactEnrichmentInput.link
  dsimp only
  repeat' split
  all_goals rfl

theorem ContactEnrichmentInput.apply_id (input : ContactEnrichmentInput) (entry : ContactRecord) :
    (input.apply entry).id = entry.id := by
  unfold ContactEnrichmentInput.apply
  dsimp only
  repeat' split
  all_goals rfl

theorem upsert_contact_inner_lookup (inner : StoreInner) (input : ContactUpsertInput) (jid : String) :
    (upsert_contact_inner inner input).2.contacts.lookup jid =
      if jid = input.contact_id then
        some (input.apply ((inner.contacts.lookup input.contact_id).getD input.record))
      else inner.contacts.lookup jid :=
  HashMap.lookup_insert_ite ..

/-- Copies of one record are inserted under some ids. -/
theorem lookup_foldl_insert_copies {jids : List String} {record : ContactRecord} (jid : String) :
    ∀ contacts : HashMap String ContactRecord,
      (jids.foldl (fun contacts jid => contacts.insert jid { record with id := jid }) contacts).lookup jid =
        if jid ∈ jids then some { record with id := jid } else contacts.lookup jid := by
  induction jids with
  | nil => intro contacts; rfl
  | cons first rest ih =>
    intro contacts
    rw [List.foldl_cons, ih, HashMap.lookup_insert_ite]
    by_cases hrest : jid ∈ rest
    · simp [hrest]
    · by_cases hfirst : jid = first
      · simp [hfirst]
      · simp [hrest, hfirst]

theorem enrich_contact_inner_lookup (inner : StoreInner) (input : ContactEnrichmentInput) (jid : String) :
    (enrich_contact_inner inner input).2.contacts.lookup jid =
      if jid ∈ input.aliases then some { (enrich_contact_inner inner input).1 with id := jid }
      else if jid = input.contact_id then some (enrich_contact_inner inner input).1
      else inner.contacts.lookup jid := by
  refine (lookup_foldl_insert_copies jid _).trans ?_
  congr 1
  rw [HashMap.lookup_insert_ite]
  split
  · rfl
  · next hother => exact (upsert_contact_inner_lookup inner input.upsert jid).trans (if_neg hother)

/-- The record that an enrichment returns has the id that it is for. -/
theorem enrich_contact_inner_id (hkeyed : inner.contacts.Keyed ContactRecord.id)
    (input : ContactEnrichmentInput) : (enrich_contact_inner inner input).1.id = input.contact_id := by
  refine (input.apply_id _).trans ((input.upsert.apply_id _).trans ?_)
  have hcontact : input.upsert.contact_id = input.contact_id := rfl
  rw [hcontact]
  cases hstored : inner.contacts.lookup input.contact_id with
  | none => rfl
  | some stored => exact hkeyed _ _ hstored

variable (inner) in
/-- Every record that an enrichment writes ends up with the links of the enrichment. -/
theorem enrich_contact_inner_written {input : ContactEnrichmentInput} {jid : String}
    (hwritten : jid ∈ input.written) :
    ∃ record, (enrich_contact_inner inner input).2.contacts.lookup jid = some record ∧
      ∀ link, record.link link = input.link link := by
  rw [enrich_contact_inner_lookup]
  by_cases halias : jid ∈ input.aliases
  · rw [if_pos halias]
    refine ⟨_, rfl, fun link => ?_⟩
    refine Eq.trans ?_ (input.apply_link (upsert_contact_inner inner input.upsert).1 link)
    cases link <;> rfl
  · rw [if_neg halias, if_pos ((List.mem_cons.mp hwritten).resolve_right halias)]
    exact ⟨_, rfl, input.apply_link _⟩

theorem enrich_contact_inner_other (inner : StoreInner) {input : ContactEnrichmentInput} {jid : String}
    (hother : jid ∉ input.written) :
    (enrich_contact_inner inner input).2.contacts.lookup jid = inner.contacts.lookup jid := by
  obtain ⟨hself, halias⟩ := not_or.mp (mt List.mem_cons.mpr hother)
  rw [enrich_contact_inner_lookup, if_neg halias, if_neg hself]

/-- A call leaves every record under its own id. -/
theorem ContactCall.apply_keyed (call : ContactCall) (hkeyed : inner.contacts.Keyed ContactRecord.id) :
    (call.apply inner).contacts.Keyed ContactRecord.id := by
  intro jid record hrecord
  cases call with
  | upsert input =>
    dsimp only [apply] at hrecord
    rw [upsert_contact_inner_lookup] at hrecord
    split at hrecord
    · next hself =>
      cases hrecord
      rw [input.apply_id, hself]
      cases hstored : inner.contacts.lookup input.contact_id with
      | none => rfl
      | some stored => exact hkeyed _ _ hstored
    · exact hkeyed _ _ hrecord
  | enrich input =>
    dsimp only [apply] at hrecord
    rw [enrich_contact_inner_lookup] at hrecord
    split at hrecord
    · cases hrecord
      rfl
    · split at hrecord
      · next hself =>
        cases hrecord
        rw [enrich_contact_inner_id hkeyed, hself]
      · exact hkeyed _ _ hrecord

end Aliases

/-- A store whose contacts are under their own ids. -/
structure PhoneBook where
  inner : StoreInner
  keyed : inner.contacts.Keyed ContactRecord.id

namespace PhoneBook

def record (book : PhoneBook) (jid : String) : Option ContactRecord :=
  book.inner.contacts.lookup jid

def call (book : PhoneBook) (call : ContactCall) : PhoneBook where
  inner := call.apply book.inner
  keyed := call.apply_keyed book.keyed

/-- The phone book after some calls. -/
def after (book : PhoneBook) (calls : List ContactCall) : PhoneBook :=
  calls.foldl PhoneBook.call book

/-- Some calls keep the links that they do not contradict, and what was found through a
contact whose links they keep is still found through it. -/
structure KeepsLinks (book : PhoneBook) (calls : List ContactCall) : Prop where
  kept : ∀ jid record link value, book.record jid = some record → record.link link = some value →
    (∀ call ∈ calls, ¬ call.Contradicts jid link value) →
    ∃ record', (book.after calls).record jid = some record' ∧ record'.link link = some value
  found : ∀ jid record, book.record jid = some record →
    (∀ link value, record.link link = some value → ∀ call ∈ calls, ¬ call.Contradicts jid link value) →
    ∃ record', (book.after calls).record jid = some record' ∧
      StillFound book.inner (contact_aliases_for_record record) (book.after calls).inner
        (contact_aliases_for_record record')

/-- Wherever one begins to look and stops, the calls in between keep the links. -/
def Monotone (book : PhoneBook) (calls : List ContactCall) : Prop :=
  ∀ before between rest, calls = before ++ between ++ rest → (book.after before).KeepsLinks between

/-- No enrichment of the sequence writes a linked record without a value of that link. -/
def NothingOverlooked (book : PhoneBook) (calls : List ContactCall) : Prop :=
  ∀ before call rest, calls = before ++ call :: rest →
    call.BringsKnownLinks (book.after before).inner.contacts

variable {book : PhoneBook}

/-- A call that overlooks nothing keeps every link that it does not contradict. -/
theorem record_call {call : ContactCall} (hbrings : call.BringsKnownLinks book.inner.contacts)
    {jid : String} {record : ContactRecord} (hrecord : book.record jid = some record) :
    ∃ record', (book.call call).record jid = some record' ∧
      ∀ link value, record.link link = some value → ¬ call.Contradicts jid link value →
        record'.link link = some value := by
  cases call with
  | upsert input =>
    have hlookup : (book.call (.upsert input)).record jid = if jid = input.contact_id then
        some (input.apply ((book.record input.contact_id).getD input.record)) else book.record jid :=
      upsert_contact_inner_lookup ..
    rw [hlookup]
    by_cases hself : jid = input.contact_id
    · rw [if_pos hself, ← hself, hrecord]
      refine ⟨_, rfl, fun link value hlink _ => ?_⟩
      rw [input.apply_link]
      exact hlink
    · rw [if_neg hself]
      exact ⟨record, hrecord, fun link value hlink _ => hlink⟩
  | enrich input =>
    by_cases hwritten : jid ∈ input.written
    · obtain ⟨record', hrecord', hlinks⟩ := enrich_contact_inner_written book.inner hwritten
      refine ⟨record', hrecord', fun link value hlink hagrees => ?_⟩
      rw [hlinks]
      -- the record is overwritten, with a value that the call must bring
      obtain ⟨other, hother⟩ := Option.isSome_iff_exists.mp
        (hbrings jid hwritten record hrecord link (by rw [hlink]; rfl))
      rw [hother]
      by_contra hne
      refine hagrees ⟨other, ?_, fun heq => hne (congrArg some heq)⟩
      exact (if_pos hwritten).trans hother
    · refine ⟨record, ?_, fun link value hlink _ => hlink⟩
      exact (enrich_contact_inner_other book.inner hwritten).trans hrecord

theorem NothingOverlooked.head {call : ContactCall} {calls : List ContactCall}
    (h : book.NothingOverlooked (call :: calls)) : call.BringsKnownLinks book.inner.contacts :=
  h [] call calls rfl

theorem NothingOverlooked.tail {call : ContactCall} {calls : List ContactCall}
    (h : book.NothingOverlooked (call :: calls)) : (book.call call).NothingOverlooked calls := by
  intro before next rest hcalls
  exact h (call :: before) next rest (by rw [hcalls, List.cons_append])

theorem NothingOverlooked.between {before between rest : List ContactCall}
    (h : book.NothingOverlooked (before ++ between ++ rest)) :
    (book.after before).NothingOverlooked between := by
  intro before' call rest' hbetween
  have hsplit : before ++ between ++ rest = (before ++ before') ++ call :: (rest' ++ rest) := by
    rw [hbetween]
    simp
  have hbrings := h _ _ _ hsplit
  rw [after, List.foldl_append] at hbrings
  exact hbrings

/-- What one call keeps, a sequence of them keeps. -/
theorem record_after {calls : List ContactCall} {jid : String} :
    ∀ {book : PhoneBook} {record : ContactRecord}, book.NothingOverlooked calls →
      book.record jid = some record →
      ∃ record', (book.after calls).record jid = some record' ∧
        ∀ link value, record.link link = some value → (∀ call ∈ calls, ¬ call.Contradicts jid link value) →
          record'.link link = some value := by
  induction calls with
  | nil => exact fun _ hrecord => ⟨_, hrecord, fun link value hlink _ => hlink⟩
  | cons call calls ih =>
    intro book record hcalls hrecord
    obtain ⟨next, hnext, hkept⟩ := record_call hcalls.head hrecord
    obtain ⟨record', hrecord', hkept'⟩ := ih hcalls.tail hnext
    refine ⟨record', hrecord', fun link value hlink hagree => ?_⟩
    refine hkept' link value (hkept link value hlink (hagree call List.mem_cons_self)) ?_
    exact fun later hlater => hagree later (List.mem_cons_of_mem _ hlater)

/-- The calls write nothing but contacts. -/
theorem after_frame (calls : List ContactCall) :
    ∀ book : PhoneBook, ∃ contacts, (book.after calls).inner = { book.inner with contacts } := by
  induction calls with
  | nil => exact fun book => ⟨_, rfl⟩
  | cons call calls ih =>
    intro book
    obtain ⟨contacts, hafter⟩ := ih (book.call call)
    have hcall : ∃ contacts, (book.call call).inner = { book.inner with contacts } := by
      cases call with
      | upsert input => exact upsert_contact_inner_frame book.inner input
      | enrich input => exact enrich_contact_inner_frame book.inner input
    obtain ⟨contacts', hcall⟩ := hcall
    refine ⟨contacts, hafter.trans ?_⟩
    rw [hcall]

theorem mem_contact_aliases_for_record {contact : ContactRecord} {jid : String} :
    jid ∈ contact_aliases_for_record contact ↔
      jid = contact.id ∨ contact.canonical_jid = some jid ∨ contact.lid = some jid := by
  rw [contact_aliases_for_record, str.mem_sort_dedup]
  simp

theorem NothingOverlooked.keeps_links {calls : List ContactCall} (h : book.NothingOverlooked calls) :
    book.KeepsLinks calls where
  kept jid record link value hrecord hlink hagree := by
    obtain ⟨record', hrecord', hkept⟩ := record_after h hrecord
    exact ⟨record', hrecord', hkept link value hlink hagree⟩
  found jid record hrecord hagree := by
    obtain ⟨record', hrecord', hkept⟩ := record_after h hrecord
    obtain ⟨contacts, hafter⟩ := after_frame calls book
    refine ⟨record', hrecord', ?_⟩
    rw [hafter]
    refine StillFound.of_subset (fun other hother => ?_) contacts
    rw [mem_contact_aliases_for_record] at hother ⊢
    rcases hother with hid | hcanonical | hlid
    · left
      rw [hid, book.keyed _ _ hrecord, (book.after calls).keyed _ _ hrecord']
    · exact Or.inr (Or.inl (hkept .canonical_jid other hcanonical (hagree .canonical_jid other hcanonical)))
    · exact Or.inr (Or.inr (hkept .lid other hlid (hagree .lid other hlid)))

/-- An enrichment that overlooks a link loses it. -/
theorem KeepsLinks.brings {call : ContactCall} (h : book.KeepsLinks [call]) :
    call.BringsKnownLinks book.inner.contacts := by
  cases call with
  | upsert input => exact trivial
  | enrich input =>
    intro jid hwritten record hrecord link hlinked
    obtain ⟨value, hvalue⟩ := Option.isSome_iff_exists.mp hlinked
    by_contra hnone
    rw [Option.not_isSome_iff_eq_none] at hnone
    have hagree : ∀ call ∈ [ContactCall.enrich input], ¬ call.Contradicts jid link value := by
      rintro call hcall ⟨other, hother, -⟩
      rw [List.mem_singleton.mp hcall] at hother
      have hsupplied : (ContactCall.enrich input).supplies jid link = none := (if_pos hwritten).trans hnone
      rw [hsupplied] at hother
      cases hother
    obtain ⟨kept, hkept, hlink⟩ := h.kept jid record link value hrecord hvalue hagree
    obtain ⟨record', hrecord', hlinks⟩ := enrich_contact_inner_written book.inner hwritten
    have heq : some kept = some record' := hkept.symm.trans hrecord'
    cases heq
    rw [hlinks, hnone] at hlink
    cases hlink

end PhoneBook

/-- The links of the contacts only ever grow or change exactly when no enrichment writes a
record that has a canonical JID, or a LID, without bringing one itself. The enrichment
writes both links, whether its profile has them or not. -/
theorem alias_links_monotone_iff (book : PhoneBook) (calls : List ContactCall) :
    book.Monotone calls ↔ book.NothingOverlooked calls := by
  constructor
  · intro hmonotone before call rest hcalls
    exact (hmonotone before [call] rest (by rw [hcalls]; simp)).brings
  · intro hcalls before between rest hsplit
    subst hsplit
    exact hcalls.between.keeps_links

theorem not_is_lid_of_phone {jid : String} (h : (phone_from_jid jid).isSome) : is_lid jid = false := by
  have hphone : str.ends_with jid "@s.whatsapp.net" = true := by
    unfold phone_from_jid at h
    dsimp only at h
    split at h
    · next hboth => exact (Bool.and_eq_true_iff.mp hboth).1
    · cases h
  rw [Bool.eq_false_iff]
  intro hlid
  have hsuffix : "@lid".toList <:+ "@s.whatsapp.net".toList := List.suffix_of_suffix_length_le
    (List.isSuffixOf_iff_suffix.mp hlid) (List.isSuffixOf_iff_suffix.mp hphone) (by decide)
  exact absurd hsuffix (by decide)

/-- Of a LID and the phone behind it, the other id gives both links. -/
theorem contact_profile_from_alt_links {contact_id phone_jid : String} {alt_jid : Option String}
    (hlid : is_lid contact_id = true) (halt : usable_alt_jid contact_id alt_jid = some phone_jid)
    (hphone : (phone_from_jid phone_jid).isSome) :
    ∃ fallback, contact_profile_from_alt contact_id alt_jid = some fallback ∧
      fallback.resolved_jid = some phone_jid ∧ fallback.lid = some contact_id := by
  have hself : (phone_from_jid contact_id).isSome = false := by
    rw [Bool.eq_false_iff]
    intro hboth
    rw [not_is_lid_of_phone hboth] at hlid
    cases hlid
  have hcanonical : [contact_id, phone_jid].find? (fun jid => (phone_from_jid jid).isSome) =
      some phone_jid := by
    simp [hself, hphone]
  have hfound : [contact_id, phone_jid].find? is_lid = some contact_id := by
    simp [hlid]
  unfold contact_profile_from_alt
  rw [halt, Option.bind_some]
  dsimp only
  rw [hcanonical, hfound]
  exact ⟨_, rfl, rfl, rfl⟩

/-- The lookup of a LID overlooks nothing where the message names the phone behind the LID
and the lookup itself does not resolve to a LID. -/
theorem merged_lookup_brings_links {input : ContactEnrichmentInput} {profile : ContactProfile}
    {alt_jid : Option String} {phone_jid : String}
    (hprofile : input.profile = merge_contact_profile_alt profile alt_jid)
    (hrequested : profile.requested_jid = input.contact_id) (hlid : is_lid input.contact_id = true)
    (halt : usable_alt_jid input.contact_id alt_jid = some phone_jid)
    (hphone : (phone_from_jid phone_jid).isSome)
    (hresolved : ∀ jid, profile.resolved_jid = some jid → is_lid jid = false)
    (contacts : HashMap String ContactRecord) :
    (ContactCall.enrich input).BringsKnownLinks contacts := by
  obtain ⟨fallback, hfallback, hcanonical, hboth⟩ := contact_profile_from_alt_links hlid halt hphone
  have hmerged : input.profile.resolved_jid = profile.resolved_jid.or (some phone_jid) ∧
      input.profile.lid = profile.lid.or (some input.contact_id) := by
    rw [hprofile, merge_contact_profile_alt, hrequested, hfallback]
    dsimp only
    rw [hcanonical, hboth]
    exact ⟨rfl, rfl⟩
  intro jid _ record _ link _
  cases link with
  | canonical_jid =>
    simp only [ContactEnrichmentInput.link, ContactEnrichmentInput.canonical_jid, hmerged.1]
    cases hlookup : profile.resolved_jid with
    | none => simp [not_is_lid_of_phone hphone]
    | some resolved => simp [hresolved resolved hlookup]
  | lid =>
    simp only [ContactEnrichmentInput.link, ContactEnrichmentInput.lid, hmerged.2]
    cases profile.lid <;> rfl

namespace sample

/-- A lookup of the LID that finds the phone behind it. -/
def full_lookup : ContactEnrichmentInput where
  project_id := "acme"
  company_id := "company_a"
  channel_id := some "channel_a"
  contact_id := "200889293889773@lid"
  push_name := none
  profile :=
    { requested_jid := "200889293889773@lid", resolved_jid := some "5511988887777@s.whatsapp.net",
      lid := some "200889293889773@lid", phone_e164 := some "+5511988887777", business_description := none,
      profile_picture_id := none, profile_picture_media_id := none, profile_picture_url := none }
  now := Duration.seconds 2
  profile_lookup_succeeded := true

/-- A later one that times out. Its profile has the LID alone. -/
def partial_lookup : ContactEnrichmentInput :=
  { full_lookup with
    profile := { full_lookup.profile with resolved_jid := none, phone_e164 := none }
    now := Duration.seconds 3 }

/-- There is a chat with the phone, and nothing is known of contacts. -/
def no_contacts : PhoneBook where
  inner := { (run Store.empty [received]).inner with contacts := ∅ }
  keyed := HashMap.Keyed.empty

def phone_known : PhoneBook :=
  no_contacts.after [.enrich full_lookup]

def phone_forgotten : PhoneBook :=
  phone_known.after [.enrich partial_lookup]

end sample

/-- The second lookup takes the phone from the LID's record that the first one has put
there, and the chat with the phone is not found through the LID any more. -/
theorem partial_lookup_forgets_phone :
    ¬ sample.no_contacts.Monotone [.enrich sample.full_lookup, .enrich sample.partial_lookup] ∧
      (contact_conversations sample.phone_known.inner "acme" "company_a"
        "200889293889773@lid").toOption.map List.length = some 1 ∧
      (contact_conversations sample.phone_forgotten.inner "acme" "company_a"
        "200889293889773@lid").toOption.map List.length = some 0 := by
  refine ⟨fun hmonotone => ?_, by decide +kernel, by decide +kernel⟩
  have hknown : (sample.phone_known.record "200889293889773@lid").bind (·.link .canonical_jid) =
      some "5511988887777@s.whatsapp.net" := by decide +kernel
  have hforgotten : (sample.phone_forgotten.record "200889293889773@lid").bind (·.link .canonical_jid) =
      none := by decide +kernel
  have hsupplied : (ContactCall.enrich sample.partial_lookup).supplies "200889293889773@lid"
      .canonical_jid = none := by decide +kernel
  obtain ⟨record, hrecord, hlink⟩ := Option.bind_eq_some_iff.mp hknown
  have hagree : ∀ call ∈ [ContactCall.enrich sample.partial_lookup],
      ¬ call.Contradicts "200889293889773@lid" .canonical_jid "5511988887777@s.whatsapp.net" := by
    rintro call hcall ⟨other, hother, -⟩
    rw [List.mem_singleton.mp hcall, hsupplied] at hother
    cases hother
  obtain ⟨record', hrecord', hlink'⟩ :=
    (hmonotone [.enrich sample.full_lookup] [.enrich sample.partial_lookup] [] rfl).kept _ _ _ _ hrecord
      hlink hagree
  have hkept : (sample.phone_forgotten.record "200889293889773@lid").bind (·.link .canonical_jid) =
      some "5511988887777@s.whatsapp.net" :=
    Option.bind_eq_some_iff.mpr ⟨record', hrecord', hlink'⟩
  rw [hforgotten] at hkept
  cases hkept

end rustzap.state
