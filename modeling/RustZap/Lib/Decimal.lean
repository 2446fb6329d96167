import RustZap.Lib.Text

namespace str

/-- `parse` of an unsigned integer with so many bits: digits, with a plus sign before them
at most, that say a number in its range. -/
def parse_unsigned (bits : Nat) (s : String) : Option Nat :=
  let digits := if s.toList.head? = some '+' then s.toList.tail else s.toList
  if digits.isEmpty || !digits.all is_ascii_digit then none
  else
    let value := Nat.ofDigitChars 10 digits 0
    if value < 2 ^ bits then some value else none

theorem is_ascii_digit_of_isDigit {c : Char} (h : c.isDigit = true) : is_ascii_digit c = true := by
  rw [Char.isDigit, Bool.and_eq_true, decide_eq_true_eq, decide_eq_true_eq] at h
  rw [is_ascii_digit, Bool.and_eq_true, decide_eq_true_eq, decide_eq_true_eq]
  exact ⟨UInt32.le_iff_toNat_le.mp h.1, UInt32.le_iff_toNat_le.mp h.2⟩

theorem is_ascii_digit_of_mem_repr {n : Nat} {c : Char} (h : c ∈ n.repr.toList) : is_ascii_digit c = true := by
  rw [Nat.toList_repr] at h
  exact is_ascii_digit_of_isDigit (Nat.isDigit_of_mem_toDigits (by decide) (by decide) h)

theorem repr_ne_empty (n : Nat) : n.repr.toList ≠ [] := by
  rw [Nat.toList_repr]
  exact Nat.toDigits_ne_nil

/-- The text of a number that fits is read as this number. -/
theorem parse_unsigned_repr {bits n : Nat} (h : n < 2 ^ bits) : parse_unsigned bits n.repr = some n := by
  have hhead : n.repr.toList.head? ≠ some '+' := by
    intro hplus
    exact absurd (is_ascii_digit_of_mem_repr (List.mem_of_mem_head? hplus)) (by decide)
  have hdigits : (n.repr.toList.isEmpty || !n.repr.toList.all is_ascii_digit) = false := by
    rw [Bool.or_eq_false_iff, Bool.not_eq_false', List.all_eq_true]
    exact ⟨List.isEmpty_eq_false_iff.mpr (repr_ne_empty n), fun c => is_ascii_digit_of_mem_repr⟩
  rw [parse_unsigned, if_neg hhead]
  dsimp only
  rw [hdigits, if_neg Bool.false_ne_true, Nat.toList_repr, Nat.ofDigitChars_ten_toDigits, if_pos h]

theorem not_is_whitespace_of_is_ascii_digit {c : Char} (h : is_ascii_digit c = true) : ¬ is_whitespace c = true := by
  rw [is_ascii_digit, Bool.and_eq_true, decide_eq_true_eq, decide_eq_true_eq] at h
  obtain ⟨hlow, hhigh⟩ : 48 ≤ c.toNat ∧ c.toNat ≤ 57 := h
  simp only [is_whitespace, Bool.or_eq_true, Bool.and_eq_true, decide_eq_true_eq]
  omega

/-- Such a text has no white space around it. -/
theorem trim_repr (n : Nat) : trim n.repr = n.repr := by
  have hnone : ∀ c ∈ n.repr.toList, ¬ is_whitespace c = true :=
    fun c hmem => not_is_whitespace_of_is_ascii_digit (is_ascii_digit_of_mem_repr hmem)
  have hdrop : n.repr.toList.dropWhile is_whitespace = n.repr.toList :=
    List.dropWhile_eq_self_iff.mpr fun hpos => hnone _ (List.getElem_mem hpos)
  have hrdrop : n.repr.toList.rdropWhile is_whitespace = n.repr.toList :=
    List.rdropWhile_eq_self_iff.mpr fun hne => hnone _ (List.getLast_mem hne)
  rw [trim, hdrop, hrdrop, String.ofList_toList]

end str
