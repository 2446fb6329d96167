import RustZap.State.Phone

namespace rustzap.state

/-- A number without a plus sign, as contacts keep it. -/
def IsPhoneNumber (digits : String) : Prop :=
  digits ≠ "" ∧ digits.toList.all str.is_ascii_digit = true

/-- The JID is read as the grammar has it: as the number before the domain, and as nothing where
there is no such number. -/
structure ReadsPhoneJid (jid : String) : Prop where
  grammar : ∀ digits, phone_number_from_jid jid = some digits ↔
    IsPhoneNumber digits ∧ jid = digits ++ "@s.whatsapp.net"
  plus : phone_from_jid jid = (phone_number_from_jid jid).map ("+" ++ ·)
  back : ∀ digits, phone_number_from_jid jid = some digits → phone_to_jid digits = jid
  forth : ∀ digits, IsPhoneNumber digits → phone_to_jid digits = digits ++ "@s.whatsapp.net" ∧
    phone_number_from_jid (phone_to_jid digits) = some digits

/-- A JID of the domain of phone numbers in which digits only stand before the first at sign, if
any, has some of them, and no other at sign. -/
def HasOneNumber (jid : String) : Prop :=
  str.ends_with jid "@s.whatsapp.net" = true → (str.first_piece jid '@').toList.all str.is_ascii_digit = true →
    str.first_piece jid '@' ≠ "" ∧ jid.toList.count '@' = 1

section PhoneJids

variable {jid digits : String}

theorem at_sign_not_mem (h : digits.toList.all str.is_ascii_digit = true) : '@' ∉ digits.toList := by
  intro hmem
  have hdigit := List.all_eq_true.mp h '@' hmem
  exact absurd hdigit (by decide)

theorem phone_number_from_jid_iff : phone_number_from_jid jid = some digits ↔
    str.ends_with jid "@s.whatsapp.net" = true ∧ digits.toList.all str.is_ascii_digit = true ∧
      str.first_piece jid '@' = digits := by
  rw [phone_number_from_jid]
  rw [Option.ite_none_right_eq_some, Bool.and_eq_true, Option.some_inj]
  constructor
  · rintro ⟨⟨hends, hdigits⟩, rfl⟩
    exact ⟨hends, hdigits, rfl⟩
  · rintro ⟨hends, hdigits, rfl⟩
    exact ⟨⟨hends, hdigits⟩, rfl⟩

theorem phone_from_jid_eq (jid : String) :
    phone_from_jid jid = (phone_number_from_jid jid).map ("+" ++ ·) := by
  rw [phone_from_jid, phone_number_from_jid]
  split
  · rfl
  · rfl

theorem first_piece_phone_jid (h : digits.toList.all str.is_ascii_digit = true) :
    str.first_piece (digits ++ "@s.whatsapp.net") '@' = digits :=
  str.first_piece_append (at_sign_not_mem h) "s.whatsapp.net".toList

theorem count_at_sign (h : digits.toList.all str.is_ascii_digit = true) :
    (digits ++ "@s.whatsapp.net").toList.count '@' = 1 := by
  rw [String.toList_append, List.count_append, List.count_eq_zero_of_not_mem (at_sign_not_mem h)]
  rfl

/-- With a single at sign, what stands before it is all that stands before the domain. -/
theorem eq_first_piece_append (hends : str.ends_with jid "@s.whatsapp.net" = true)
    (hone : jid.toList.count '@' = 1) : jid = str.first_piece jid '@' ++ "@s.whatsapp.net" := by
  obtain ⟨rest, rfl⟩ := str.ends_with_iff.mp hends
  have hdomain : "@s.whatsapp.net".toList.count '@' = 1 := by decide
  rw [String.toList_append, List.count_append, hdomain] at hone
  have hrest : '@' ∉ rest.toList := List.count_eq_zero.mp (by omega)
  have hpiece := str.first_piece_append hrest "s.whatsapp.net".toList
  exact congrArg (· ++ "@s.whatsapp.net") hpiece.symm

theorem phone_to_jid_of_digits (h : IsPhoneNumber digits) :
    phone_to_jid digits = digits ++ "@s.whatsapp.net" := by
  obtain ⟨hne, hdigits⟩ := h
  have hkept : str.ascii_digits digits = digits := by
    rw [str.ascii_digits, List.filter_eq_self.mpr (List.all_eq_true.mp hdigits), String.ofList_toList]
  have hempty : str.is_empty digits = false := by
    rw [str.is_empty, List.isEmpty_eq_false_iff]
    exact fun hnil => hne (String.toList_eq_nil_iff.mp hnil)
  rw [phone_to_jid]
  rw [hkept, hempty, if_neg Bool.false_ne_true]

theorem phone_number_from_phone_jid (h : IsPhoneNumber digits) :
    phone_number_from_jid (digits ++ "@s.whatsapp.net") = some digits :=
  phone_number_from_jid_iff.mpr ⟨str.ends_with_iff.mpr ⟨digits, rfl⟩, h.2, first_piece_phone_jid h.2⟩

/-- JIDs of phone numbers and numbers stand for each other, but for the JIDs that have no number
before the domain, and those that have another at sign after it. -/
theorem phone_jid_read_iff (jid : String) : ReadsPhoneJid jid ↔ HasOneNumber jid := by
  constructor
  · intro hreads hends hdigits
    obtain ⟨⟨hne, -⟩, hjid⟩ := (hreads.grammar _).mp (phone_number_from_jid_iff.mpr ⟨hends, hdigits, rfl⟩)
    refine ⟨hne, ?_⟩
    rw [hjid]
    exact count_at_sign hdigits
  · intro hone
    have hgrammar : ∀ digits, phone_number_from_jid jid = some digits ↔
        IsPhoneNumber digits ∧ jid = digits ++ "@s.whatsapp.net" := by
      intro digits
      constructor
      · intro hread
        obtain ⟨hends, hdigits, rfl⟩ := phone_number_from_jid_iff.mp hread
        obtain ⟨hne, hcount⟩ := hone hends hdigits
        exact ⟨⟨hne, hdigits⟩, eq_first_piece_append hends hcount⟩
      · rintro ⟨hnumber, rfl⟩
        exact phone_number_from_phone_jid hnumber
    constructor
    case grammar => exact hgrammar
    case plus => exact phone_from_jid_eq jid
    case back =>
      intro digits hread
      obtain ⟨hnumber, rfl⟩ := (hgrammar digits).mp hread
      exact phone_to_jid_of_digits hnumber
    case forth =>
      intro digits hnumber
      rw [phone_to_jid_of_digits hnumber]
      exact ⟨rfl, phone_number_from_phone_jid hnumber⟩

/-- A domain alone is read as the empty number, and a second at sign is not looked at. -/
theorem phone_jid_misread : ¬ ReadsPhoneJid "@s.whatsapp.net" ∧
    ¬ ReadsPhoneJid "5511988887777@lid@s.whatsapp.net" := by
  constructor
  · intro hreads
    have hread : phone_number_from_jid "@s.whatsapp.net" = some "" := by decide
    exact ((hreads.grammar "").mp hread).1.1 rfl
  · intro hreads
    have hread : phone_number_from_jid "5511988887777@lid@s.whatsapp.net" = some "5511988887777" := by decide
    exact absurd ((hreads.grammar "5511988887777").mp hread).2 (by decide)

end PhoneJids

end rustzap.state
