import RustZap.Lib.HashMap
import Mathlib.Data.List.DropRight
import Mathlib.Data.List.Destutter
import Mathlib.Data.String.Basic

namespace str

/-- The characters that Unicode calls white space, which are the ones a Rust
`trim` removes. -/
def is_whitespace (c : Char) : Bool :=
  (0x09 ≤ c.toNat && c.toNat ≤ 0x0D) || c.toNat = 0x20 || c.toNat = 0x85 || c.toNat = 0xA0 ||
    c.toNat = 0x1680 || (0x2000 ≤ c.toNat && c.toNat ≤ 0x200A) || c.toNat = 0x2028 ||
    c.toNat = 0x2029 || c.toNat = 0x202F || c.toNat = 0x205F || c.toNat = 0x3000

def is_ascii_digit (c : Char) : Bool :=
  '0'.toNat ≤ c.toNat && c.toNat ≤ '9'.toNat

def is_ascii_hexdigit (c : Char) : Bool :=
  is_ascii_digit c || ('a'.toNat ≤ c.toNat && c.toNat ≤ 'f'.toNat) ||
    ('A'.toNat ≤ c.toNat && c.toNat ≤ 'F'.toNat)

def trim (s : String) : String :=
  String.ofList ((s.toList.dropWhile is_whitespace).rdropWhile is_whitespace)

def trim_start_matches (s : String) (c : Char) : String :=
  String.ofList (s.toList.dropWhile (· = c))

def trim_end_matches (s : String) (c : Char) : String :=
  String.ofList (s.toList.rdropWhile (· = c))

def is_empty (s : String) : Bool :=
  s.toList.isEmpty

def starts_with (s pattern : String) : Bool :=
  pattern.toList.isPrefixOf s.toList

def ends_with (s pattern : String) : Bool :=
  pattern.toList.isSuffixOf s.toList

def contains_char (s : String) (c : Char) : Bool :=
  s.toList.contains c

/-- Whether `pattern` occurs in `s`. -/
def contains (s pattern : String) : Bool :=
  s.toList.tails.any fun suffix => pattern.toList.isPrefixOf suffix

/-- The text before the first `c`, or all of it: `s.split(c).next()`. -/
def first_piece (s : String) (c : Char) : String :=
  String.ofList (s.toList.takeWhile (· ≠ c))

/-- The text after the last `c`, when there is one: `s.rsplit_once(c)`. -/
def last_piece (s : String) (c : Char) : Option String :=
  if contains_char s c then some (String.ofList (s.toList.rtakeWhile (· ≠ c))) else none

/-- The pieces between the occurrences of `c`. -/
def split (s : String) (c : Char) : List String :=
  (s.toList.splitOn c).map String.ofList

def replace (s : String) (c d : Char) : String :=
  String.ofList (s.toList.map fun x => if x = c then d else x)

def to_ascii_lowercase (s : String) : String :=
  String.ofList (s.toList.map fun c =>
    if 'A'.toNat ≤ c.toNat && c.toNat ≤ 'Z'.toNat then Char.ofNat (c.toNat + 32) else c)

theorem replace_replace (s : String) {c d : Char} (h : c ≠ d) :
    replace (replace s c d) c d = replace s c d := by
  rw [replace, replace, String.toList_ofList, List.map_map]
  congr 2
  funext x
  by_cases hx : x = c
  · simp [hx, h.symm]
  · simp [hx]

/-- The decimal digits of `s`, in order. -/
def ascii_digits (s : String) : String :=
  String.ofList (s.toList.filter is_ascii_digit)

def non_blank (s : String) : Option String :=
  if is_empty (trim s) then none else some (trim s)

/-- Sorting followed by the removal of adjacent repetitions, which on a sorted
list leaves each text once. -/
def sort_dedup (texts : List String) : List String :=
  (collections.sort_by (fun a b => decide (a ≤ b)) texts).destutter (· ≠ ·)

theorem first_piece_append {s : String} {c : Char} (hs : c ∉ s.toList) (rest : List Char) :
    first_piece (s ++ String.ofList (c :: rest)) c = s := by
  have hkept : ∀ x ∈ s.toList, (decide (x ≠ c)) = true := by
    intro x hx
    exact decide_eq_true fun heq => hs (heq ▸ hx)
  rw [first_piece, String.toList_append, String.toList_ofList, List.takeWhile_append_of_pos hkept,
    List.takeWhile_cons_of_neg (by simp), List.append_nil, String.ofList_toList]

/-- A text with the suffix is what stands before the suffix, and the suffix. -/
theorem ends_with_iff {s pattern : String} : ends_with s pattern = true ↔ ∃ rest, s = rest ++ pattern := by
  rw [ends_with, List.isSuffixOf_iff_suffix]
  constructor
  · rintro ⟨rest, hrest⟩
    refine ⟨String.ofList rest, ?_⟩
    rw [← String.toList_inj, String.toList_append, String.toList_ofList, hrest]
  · rintro ⟨rest, rfl⟩
    exact ⟨rest.toList, String.toList_append.symm⟩

theorem trim_trim (s : String) : trim (trim s) = trim s := by
  have hdrop : ∀ l : List Char, ((l.dropWhile is_whitespace).rdropWhile is_whitespace).dropWhile is_whitespace =
      (l.dropWhile is_whitespace).rdropWhile is_whitespace := by
    intro l
    rw [List.dropWhile_eq_self_iff]
    intro hlength
    have hfront := List.rdropWhile_prefix is_whitespace (l := l.dropWhile is_whitespace)
    rw [hfront.getElem hlength]
    exact List.dropWhile_get_zero_not is_whitespace l _
  unfold trim
  rw [String.toList_ofList, hdrop, List.rdropWhile_idempotent]

theorem mem_destutter'_ne {text : String} {texts : List String} :
    ∀ first, text ∈ texts.destutter' (· ≠ ·) first ↔ text ∈ first :: texts := by
  induction texts with
  | nil => exact fun first => Iff.rfl
  | cons next texts ih =>
    intro first
    by_cases hsame : first = next
    · rw [List.destutter'_cons_neg _ (not_not_intro hsame), ih, hsame]
      simp only [List.mem_cons, or_self_left]
    · rw [List.destutter'_cons_pos _ hsame, List.mem_cons, ih, List.mem_cons (b := first)]

theorem mem_sort_dedup {text : String} {texts : List String} : text ∈ sort_dedup texts ↔ text ∈ texts := by
  rw [← (collections.sort_by_perm (fun a b => decide (a ≤ b)) texts).mem_iff, sort_dedup]
  cases collections.sort_by (fun a b => decide (a ≤ b)) texts with
  | nil => exact Iff.rfl
  | cons first rest => exact mem_destutter'_ne first

theorem sort_by_sorted (texts : List String) :
    (collections.sort_by (fun a b => decide (a ≤ b)) texts).Pairwise (· ≤ ·) := by
  have htotal : Std.Total fun a b : String => decide (a ≤ b) = true :=
    ⟨fun a b => by simpa using le_total a b⟩
  have htrans : IsTrans String fun a b : String => decide (a ≤ b) = true :=
    ⟨fun a b c hab hbc => by
      simp only [decide_eq_true_eq] at hab hbc ⊢
      exact le_trans hab hbc⟩
  have hsorted : (collections.sort_by (fun a b => decide (a ≤ b)) texts).Pairwise
      fun a b => decide (a ≤ b) = true := List.pairwise_insertionSort _ texts
  exact hsorted.imp of_decide_eq_true

/-- The order in which the texts come is of no account. -/
theorem sort_dedup_perm {texts texts' : List String} (h : texts.Perm texts') :
    sort_dedup texts = sort_dedup texts' := by
  have hperm : (collections.sort_by (fun a b => decide (a ≤ b)) texts).Perm
      (collections.sort_by (fun a b => decide (a ≤ b)) texts') :=
    (collections.sort_by_perm _ texts).trans (h.trans (collections.sort_by_perm _ texts').symm)
  have heq := hperm.eq_of_pairwise (fun a b _ _ hab hba => le_antisymm hab hba) (sort_by_sorted texts)
    (sort_by_sorted texts')
  rw [sort_dedup, sort_dedup, heq]

theorem sort_dedup_sorted (texts : List String) : (sort_dedup texts).Pairwise (· ≤ ·) :=
  (sort_by_sorted texts).sublist (List.destutter_sublist _ _)

/-- The first of the sorted texts that passes a test is the least of all that pass. -/
theorem find?_sort_dedup_eq_some_iff {texts : List String} {p : String → Bool} {text : String} :
    (sort_dedup texts).find? p = some text ↔
      text ∈ texts ∧ p text = true ∧ ∀ other ∈ texts, p other = true → text ≤ other := by
  have hleast : ∀ sorted : List String, sorted.Pairwise (· ≤ ·) →
      (sorted.find? p = some text ↔
        text ∈ sorted ∧ p text = true ∧ ∀ other ∈ sorted, p other = true → text ≤ other) := by
    intro sorted hsorted
    induction sorted with
    | nil => simp
    | cons first rest ih =>
      obtain ⟨hfirst, hrest⟩ := List.pairwise_cons.mp hsorted
      by_cases hp : p first = true
      · rw [List.find?_cons_of_pos hp, Option.some.injEq]
        constructor
        · rintro rfl
          refine ⟨List.mem_cons_self, hp, fun other hother _ => ?_⟩
          rcases List.mem_cons.mp hother with rfl | hother
          · exact le_refl other
          · exact hfirst other hother
        · rintro ⟨hmem, -, hle⟩
          rcases List.mem_cons.mp hmem with rfl | hmem
          · rfl
          · exact le_antisymm (hfirst text hmem) (hle first List.mem_cons_self hp)
      · rw [List.find?_cons_of_neg hp, ih hrest, List.forall_mem_cons, List.mem_cons]
        constructor
        · rintro ⟨hmem, htext, hle⟩
          exact ⟨Or.inr hmem, htext, fun h => absurd h hp, hle⟩
        · rintro ⟨hmem, htext, -, hle⟩
          refine ⟨hmem.resolve_left fun h => hp (h ▸ htext), htext, hle⟩
  rw [hleast _ (sort_dedup_sorted texts)]
  simp only [mem_sort_dedup]

end str
