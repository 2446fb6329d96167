import RustZap.Lib.HashMap

namespace collections

namespace Grouped

variable {G K V : Type} [DecidableEq G] [DecidableEq K] (group_of : V → G) (key_of : V → K)

/-- The entries of a group's list that have the key. -/
def copies (lists : HashMap G (List V)) (group : G) (key : K) : List V :=
  ((lists.lookup group).getD []).filter fun value => key_of value = key

/-- A map of values by their keys is kept beside a map that lists them by the group
each belongs to. They agree when the lists hold what the map holds: every value once,
in the list of its group, and nothing else. -/
def Agree (lists : HashMap G (List V)) (map : HashMap K V) : Prop :=
  ∀ group key, copies key_of lists group key =
    ((map.lookup key).filter fun value => group_of value = group).toList

/-- The value is the only one with the key in any list, and it stands in the list of
its group. -/
def HeldOnce (lists : HashMap G (List V)) (key : K) (value : V) : Prop :=
  copies key_of lists (group_of value) key = [value] ∧
    ∀ group, group ≠ group_of value → copies key_of lists group key = []

theorem toList_filter_some (keep : V → Bool) (value : V) :
    ((some value).filter keep).toList = if keep value then [value] else [] := by
  cases hkeep : keep value <;> simp [Option.filter, hkeep]

variable {group_of key_of} {lists lists' : HashMap G (List V)} {map map' : HashMap K V}

theorem Agree.held_once_iff (h : Agree group_of key_of lists map) (key : K) (value : V) :
    map.lookup key = some value ↔ HeldOnce group_of key_of lists key value := by
  constructor
  · intro hvalue
    constructor
    · rw [h, hvalue, toList_filter_some]
      simp
    · intro group hgroup
      rw [h, hvalue, toList_filter_some]
      simp [hgroup.symm]
  · intro hheld
    have hcopies := hheld.1
    rw [h, Option.toList_eq_singleton_iff] at hcopies
    exact (Option.filter_eq_some_iff.mp hcopies).1

theorem Agree.copies_eq_nil (h : Agree group_of key_of lists map) {key : K} (hkey : map.lookup key = none)
    (group : G) : copies key_of lists group key = [] := by
  rw [h, hkey]
  rfl

/-- What stands in a list is what the map holds under its key. -/
theorem Agree.of_mem (h : Agree group_of key_of lists map) {group : G} {values : List V} {value : V}
    (hvalues : lists.lookup group = some values) (hmem : value ∈ values) :
    map.lookup (key_of value) = some value ∧ group_of value = group := by
  have hcopy : value ∈ copies key_of lists group (key_of value) := by
    rw [copies, hvalues]
    exact List.mem_filter.mpr ⟨hmem, by simp⟩
  rw [h, Option.mem_toList, Option.filter_eq_some_iff] at hcopy
  simpa using hcopy

theorem Agree.mem (h : Agree group_of key_of lists map) {key : K} {value : V}
    (hvalue : map.lookup key = some value) :
    ∃ values, lists.lookup (group_of value) = some values ∧ value ∈ values := by
  have hcopy : value ∈ copies key_of lists (group_of value) key := by
    rw [h, hvalue, toList_filter_some]
    simp
  rw [copies] at hcopy
  cases hlist : lists.lookup (group_of value) with
  | none =>
    rw [hlist] at hcopy
    cases hcopy
  | some values =>
    rw [hlist] at hcopy
    exact ⟨values, rfl, List.mem_of_mem_filter hcopy⟩

theorem Agree.empty : Agree group_of key_of ∅ ∅ := fun _ _ => rfl

theorem Agree.reordered (h : Agree group_of key_of lists map) (hlists : lists.Reordered lists')
    (hmap : map.Reordered map') : Agree group_of key_of lists' map' := by
  intro group key
  rw [copies, ← hlists.lookup, ← hmap.lookup]
  exact h group key

/-- A value under a new key joins the list of its group. -/
theorem Agree.append (h : Agree group_of key_of lists map) {value : V}
    (hnew : map.lookup (key_of value) = none) :
    Agree group_of key_of
      (lists.insert (group_of value) ((lists.lookup (group_of value)).getD [] ++ [value]))
      (map.insert (key_of value) value) := by
  intro group key
  rw [copies, HashMap.lookup_insert_ite, HashMap.lookup_insert_ite]
  by_cases hkey : key = key_of value
  · subst hkey
    rw [if_pos rfl]
    have hnone := h.copies_eq_nil hnew group
    rw [copies] at hnone
    by_cases hgroup : group = group_of value
    · subst hgroup
      rw [if_pos rfl, Option.getD_some, List.filter_append, hnone, toList_filter_some]
      simp
    · rw [if_neg hgroup, hnone, toList_filter_some]
      simp [Ne.symm hgroup]
  · rw [if_neg hkey, ← h group key, copies]
    by_cases hgroup : group = group_of value
    · subst hgroup
      rw [if_pos rfl, Option.getD_some, List.filter_append]
      simp [Ne.symm hkey]
    · rw [if_neg hgroup]

/-- A value is replaced by one of its key and group in the map and in the list. -/
theorem Agree.replace (h : Agree group_of key_of lists map) {key : K} {old new : V}
    {values values' : List V} (hold : map.lookup key = some old) (hgroup : group_of new = group_of old)
    (hvalues : lists.lookup (group_of new) = some values)
    (hreplaced : ∀ query, (values'.filter fun value => key_of value = query) =
      if query = key then (values.filter fun value => key_of value = query).map fun _ => new
      else values.filter fun value => key_of value = query) :
    Agree group_of key_of (lists.insert (group_of new) values') (map.insert key new) := by
  intro group query
  have hquery := h group query
  rw [copies] at hquery
  rw [copies, HashMap.lookup_insert_ite, HashMap.lookup_insert_ite]
  by_cases hkey : query = key
  · subst hkey
    rw [hold, toList_filter_some] at hquery
    by_cases hhere : group = group_of new
    · subst hhere
      rw [hvalues, Option.getD_some] at hquery
      rw [if_pos rfl, if_pos rfl, Option.getD_some, hreplaced, if_pos rfl, hquery, toList_filter_some]
      simp [hgroup]
    · have hold' : group_of old ≠ group := fun heq => hhere (heq.symm.trans hgroup.symm)
      rw [if_neg hhere, if_pos rfl, hquery, toList_filter_some]
      simp [hold', Ne.symm hhere]
  · rw [if_neg hkey, ← hquery]
    by_cases hhere : group = group_of new
    · subst hhere
      rw [if_pos rfl, Option.getD_some, hreplaced, if_neg hkey, hvalues, Option.getD_some]
    · rw [if_neg hhere]

/-- All values are changed in place, none of them its key or its group. -/
theorem Agree.map_values (h : Agree group_of key_of lists map) {f : V → V}
    (hgroup : ∀ value, group_of (f value) = group_of value)
    (hkey : ∀ value, key_of (f value) = key_of value) :
    Agree group_of key_of (lists.map_values fun _ values => values.map f)
      (map.map_values fun _ value => f value) := by
  intro group key
  have hcopies := h group key
  rw [copies] at hcopies ⊢
  rw [HashMap.lookup_map_values, HashMap.lookup_map_values]
  have hlist : ((lists.lookup group).map fun values => values.map f).getD [] =
      ((lists.lookup group).getD []).map f := by
    cases lists.lookup group <;> rfl
  rw [hlist, List.filter_map]
  have htest : ((fun value => decide (key_of value = key)) ∘ f) = fun value => decide (key_of value = key) := by
    funext value
    simp [hkey]
  rw [htest, hcopies]
  cases map.lookup key with
  | none => rfl
  | some value =>
    rw [Option.map_some, toList_filter_some, toList_filter_some, hgroup]
    split <;> rfl

/-- The same values are taken out of the lists and of the map. -/
theorem Agree.filter (h : Agree group_of key_of lists map) (keep : V → Bool)
    (hlists : ∀ group key, copies key_of lists' group key = (copies key_of lists group key).filter keep)
    (hmap : ∀ key, map'.lookup key = (map.lookup key).filter keep) :
    Agree group_of key_of lists' map' := by
  intro group key
  rw [hlists, h, hmap]
  cases map.lookup key with
  | none => rfl
  | some value =>
    cases hkeep : keep value with
    | true =>
      rw [Option.filter_some_pos hkeep, toList_filter_some]
      split
      · simp [hkeep]
      · rfl
    | false =>
      rw [Option.filter_some_neg hkeep, toList_filter_some]
      split
      · simp [hkeep]
      · rfl

end Grouped

end collections
