import RustZap.Lib.Decimal

namespace net

open str

/-- `char::to_digit`. -/
def to_digit (radix : Nat) (c : Char) : Option Nat :=
  let digit :=
    if is_ascii_digit c then some (c.toNat - '0'.toNat)
    else if 'a'.toNat ≤ c.toNat ∧ c.toNat ≤ 'z'.toNat then some (c.toNat - 'a'.toNat + 10)
    else if 'A'.toNat ≤ c.toNat ∧ c.toNat ≤ 'Z'.toNat then some (c.toNat - 'A'.toNat + 10)
    else none
  digit.filter (· < radix)

def is_digit (radix : Nat) (c : Char) : Bool :=
  (to_digit radix c).isSome

def number (radix : Nat) (digits : List Char) : Nat :=
  digits.foldl (fun value c => value * radix + (to_digit radix c).getD 0) 0

/-- The parser of addresses reads from the front of a text and returns what it leaves. -/
abbrev Reader (A : Type) := List Char → Option (A × List Char)

/-- All the digits that come next, at most so many of them and with a value below the bound. -/
def read_number (radix max_digits bound : Nat) ( allow_zero_prefix : Bool) : Reader Nat := fun chars =>
  let digits := chars.takeWhile (is_digit radix)
  if digits = [] ∨ max_digits < digits.length then none
  else if ! allow_zero_prefix && digits.head? = some '0' && 1 < digits.length then none
  else if number radix digits < bound then some (number radix digits, chars.dropWhile (is_digit radix))
  else none

def read_given_char (c : Char) : Reader Unit
  | [] => none
  | next :: rest => if next = c then some ((), rest) else none

/-- A separator stands before every part but the first. -/
def read_separator {A : Type} (separator : Char) (index : Nat) (inner : Reader A) : Reader A := fun chars =>
  if index = 0 then inner chars
  else (read_given_char separator chars).bind fun read => inner read.2

def read_octet (index : Nat) : Reader UInt8 := fun chars =>
  (read_separator '.' index (read_number 10 3 256 false) chars).map fun read => (UInt8.ofNat read.1, read.2)

def read_ipv4_addr : Reader (UInt8 × UInt8 × UInt8 × UInt8) := fun chars =>
  (read_octet 0 chars).bind fun a => (read_octet 1 a.2).bind fun b => (read_octet 2 b.2).bind fun c =>
    (read_octet 3 c.2).map fun d => ((a.1, b.1, c.1, d.1), d.2)

/-- Two octets, the first one in front. -/
def from_be_bytes (high low : UInt8) : UInt16 :=
  UInt16.ofNat (high.toNat * 256 + low.toNat)

/-- At most so many groups from one index on, and whether an IPv4 address is read for the last two. -/
def read_groups (index : Nat) : Nat → List Char → List UInt16 × Bool × List Char
  | 0, chars => ([], false, chars)
  | slots + 1, chars =>
    match if 1 ≤ slots then read_separator ':' index read_ipv4_addr chars else none with
    | some ((a, b, c, d), rest) => ([from_be_bytes a b, from_be_bytes c d], true, rest)
    | none =>
      match read_separator ':' index (read_number 16 4 65536 true) chars with
      | some (group, rest) =>
        let later := read_groups (index + 1) slots rest
        (UInt16.ofNat group :: later.1, later.2)
      | none => ([], false, chars)

/-- Eight groups, of which a double colon may stand for some that are zero. -/
def read_ipv6_addr : Reader (List UInt16) := fun chars =>
  let head := read_groups 0 8 chars
  if head.1.length = 8 then some (head.1, head.2.2)
  else if head.2.1 then none
  else (read_given_char ':' head.2.2).bind fun first => (read_given_char ':' first.2).map fun second =>
    let tail := read_groups 0 (8 - (head.1.length + 1)) second.2
    (head.1 ++ List.replicate (8 - head.1.length - tail.1.length) 0 ++ tail.1, tail.2.2)

/-- The text has been read to its end. -/
def parse_with {A : Type} (inner : Reader A) (s : String) : Option A :=
  (inner s.toList).bind fun read => if read.2 = [] then some read.1 else none

/-- An IPv4 address as it is written. -/
def ipv4_text (a b c d : UInt8) : String :=
  a.toNat.repr ++ "." ++ b.toNat.repr ++ "." ++ c.toNat.repr ++ "." ++ d.toNat.repr

theorem to_digit_of_is_ascii_digit {c : Char} (h : is_ascii_digit c = true) :
    to_digit 10 c = some (c.toNat - '0'.toNat) := by
  have hbound : c.toNat - '0'.toNat < 10 := by
    rw [is_ascii_digit, Bool.and_eq_true, decide_eq_true_eq, decide_eq_true_eq] at h
    have hnine : '9'.toNat = '0'.toNat + 9 := rfl
    omega
  rw [to_digit, if_pos h]
  exact Option.filter_eq_some_iff.mpr ⟨rfl, decide_eq_true hbound⟩

theorem number_of_digits {digits : List Char} (h : ∀ c ∈ digits, is_ascii_digit c = true) :
    number 10 digits = Nat.ofDigitChars 10 digits 0 := by
  rw [number, Nat.ofDigitChars_eq_foldl]
  refine List.foldl_ext _ _ _ fun value c hc => ?_
  rw [to_digit_of_is_ascii_digit (h c hc), Option.getD_some, Nat.mul_comm]

/-- A number is written without a zero in front. -/
theorem head_toDigits_ne_zero {n : Nat} (hpos : 0 < n) : (Nat.toDigits 10 n).head? ≠ some '0' := by
  induction n using Nat.strongRecOn with
  | ind n ih =>
    rw [Nat.toDigits_eq_if (by decide)]
    split
    · next hlt =>
      have hne : ∀ m : Fin 10, 0 < m.val → m.val.digitChar ≠ '0' := by decide
      intro hhead
      exact hne ⟨n, hlt⟩ hpos (Option.some.inj hhead)
    · next hge =>
      rw [List.head?_append_of_ne_nil _ Nat.toDigits_ne_nil]
      exact ih (n / 10) (by omega) (by omega)

section Reading

variable {rest : List Char} (hrest : ∀ c, rest.head? = some c → is_digit 10 c = false)
include hrest

/-- An octet is read as far as its digits go. -/
theorem read_number_octet (octet : UInt8) :
    read_number 10 3 256 false (octet.toNat.repr.toList ++ rest) = some (octet.toNat, rest) := by
  have hdigits : ∀ c ∈ Nat.toDigits 10 octet.toNat, is_ascii_digit c = true := fun c hc =>
    is_ascii_digit_of_isDigit (Nat.isDigit_of_mem_toDigits (by decide) (by decide) hc)
  have hall : ∀ c ∈ Nat.toDigits 10 octet.toNat, is_digit 10 c = true := fun c hc => by
    rw [is_digit, to_digit_of_is_ascii_digit (hdigits c hc), Option.isSome_some]
  have hstop : rest.takeWhile (is_digit 10) = [] ∧ rest.dropWhile (is_digit 10) = rest := by
    cases rest with
    | nil => exact ⟨rfl, rfl⟩
    | cons c rest => simp [hrest c rfl]
  have htake : (Nat.toDigits 10 octet.toNat ++ rest).takeWhile (is_digit 10) = Nat.toDigits 10 octet.toNat := by
    rw [List.takeWhile_append_of_pos hall, hstop.1, List.append_nil]
  have hdrop : (Nat.toDigits 10 octet.toNat ++ rest).dropWhile (is_digit 10) = rest := by
    rw [List.dropWhile_append_of_pos hall, hstop.2]
  have hvalue : number 10 (Nat.toDigits 10 octet.toNat) = octet.toNat := by
    rw [number_of_digits hdigits, Nat.ofDigitChars_ten_toDigits]
  have hlength : (Nat.toDigits 10 octet.toNat).length ≤ 3 :=
    (Nat.length_toDigits_le_iff (by decide) (by decide)).mpr (by have := octet.toNat_lt; omega)
  have hleading : (!false && (Nat.toDigits 10 octet.toNat).head? = some '0' &&
      1 < (Nat.toDigits 10 octet.toNat).length) = false := by
    rcases Nat.eq_zero_or_pos octet.toNat with hzero | hpos
    · rw [hzero]
      rfl
    · simp [head_toDigits_ne_zero hpos]
  have hne : ¬ (Nat.toDigits 10 octet.toNat = [] ∨ 3 < (Nat.toDigits 10 octet.toNat).length) := by
    rw [not_or]
    exact ⟨Nat.toDigits_ne_nil, by omega⟩
  rw [Nat.toList_repr, read_number, htake, hdrop, if_neg hne, hleading, if_neg Bool.false_ne_true, hvalue,
    if_pos octet.toNat_lt]

end Reading

theorem read_first_octet {rest : List Char} (hrest : ∀ c, rest.head? = some c → is_digit 10 c = false)
    (octet : UInt8) : read_octet 0 (octet.toNat.repr.toList ++ rest) = some (octet, rest) := by
  rw [read_octet, read_separator, if_pos rfl, read_number_octet hrest, Option.map_some, UInt8.ofNat_toNat]

theorem read_next_octet {rest : List Char} (hrest : ∀ c, rest.head? = some c → is_digit 10 c = false)
    {index : Nat} (hindex : index ≠ 0) (octet : UInt8) :
    read_octet index ('.' :: (octet.toNat.repr.toList ++ rest)) = some (octet, rest) := by
  rw [read_octet, read_separator, if_neg hindex, read_given_char, if_pos rfl, Option.bind_some,
    read_number_octet hrest, Option.map_some, UInt8.ofNat_toNat]

/-- An address is read as the one that was written. -/
theorem read_ipv4_text (a b c d : UInt8) :
    parse_with read_ipv4_addr (ipv4_text a b c d) = some (a, b, c, d) := by
  have hdot : ∀ rest c, (('.' : Char) :: rest).head? = some c → is_digit 10 c = false := by
    intro rest c hc
    cases hc
    rfl
  have hend : ∀ c, ([] : List Char).head? = some c → is_digit 10 c = false := nofun
  have htext : (ipv4_text a b c d).toList = a.toNat.repr.toList ++ '.' :: (b.toNat.repr.toList ++
      '.' :: (c.toNat.repr.toList ++ '.' :: (d.toNat.repr.toList ++ []))) := by
    simp [ipv4_text]
  rw [parse_with, htext, read_ipv4_addr, read_first_octet (hdot _), Option.bind_some,
    read_next_octet (hdot _) (by decide), Option.bind_some, read_next_octet (hdot _) (by decide),
    Option.bind_some, read_next_octet hend (by decide)]
  rfl

/-- No address begins with a bracket. -/
theorem read_ipv4_bracket (chars : List Char) : read_ipv4_addr ('[' :: chars) = none := by
  rfl

theorem read_ipv6_bracket (chars : List Char) : read_ipv6_addr ('[' :: chars) = none := by
  rfl

end net
