import RustZap.Lib.HashMap

namespace collections

namespace HashMap

variable {K V : Type} [DecidableEq K]

/-- Two maps that show an owner the same: under every key both hold the same value of
this owner, or neither holds one. What the maps hold of other owners may differ. -/
def SameFor (mine : K → V → Bool) (map map' : HashMap K V) : Prop :=
  ∀ key, (map.lookup key).filter (mine key) = (map'.lookup key).filter (mine key)

section SameFor

variable {mine : K → V → Bool} {map map' : HashMap K V}

theorem SameFor.refl (map : HashMap K V) : SameFor mine map map :=
  fun _ => rfl

theorem SameFor.symm (h : SameFor mine map map') : SameFor mine map' map :=
  fun key => (h key).symm

theorem SameFor.reordered (h : SameFor mine map map') {reordered : HashMap K V}
    (hreordered : map.Reordered reordered) : SameFor mine reordered map' := by
  intro key
  rw [← hreordered.lookup]
  exact h key

/-- Where neither map holds a value of somebody else, they agree. -/
theorem SameFor.lookup_eq (h : SameFor mine map map') {key : K}
    (hmine : ∀ value, map.lookup key = some value → mine key value = true)
    (hmine' : ∀ value, map'.lookup key = some value → mine key value = true) :
    map.lookup key = map'.lookup key := by
  have hall : (map.lookup key).filter (mine key) = map.lookup key := by
    cases hvalue : map.lookup key with
    | none => rfl
    | some value => exact Option.filter_some_pos (hmine value hvalue)
  have hall' : (map'.lookup key).filter (mine key) = map'.lookup key := by
    cases hvalue : map'.lookup key with
    | none => rfl
    | some value => exact Option.filter_some_pos (hmine' value hvalue)
  rw [← hall, ← hall']
  exact h key

/-- The owner's value is in the other map as well. -/
theorem SameFor.lookup_eq_some (h : SameFor mine map map') {key : K} {value : V}
    (hvalue : map.lookup key = some value) (hmine : mine key value = true) :
    map'.lookup key = some value := by
  have hseen := h key
  rw [hvalue, Option.filter_some_pos hmine] at hseen
  exact (Option.filter_eq_some_iff.mp hseen.symm).1

/-- The same value is written to both maps. -/
theorem SameFor.insert (h : SameFor mine map map') (key : K) (value : V) :
    SameFor mine (map.insert key value) (map'.insert key value) := by
  intro query
  rw [lookup_insert_ite, lookup_insert_ite]
  split
  · rfl
  · exact h query

theorem SameFor.trans {map'' : HashMap K V} (h : SameFor mine map map') (h' : SameFor mine map' map'') :
    SameFor mine map map'' :=
  fun key => (h key).trans (h' key)

/-- Both maps are filtered, by tests that agree on the values of the owner. -/
theorem SameFor.retained (h : SameFor mine map map') {keep keep' : K → V → Bool}
    (hkeep : ∀ key value, mine key value = true → keep key value = keep' key value) :
    SameFor mine (map.retain keep) (map'.retain keep') := by
  intro key
  have hagree (found : Option V) :
      (found.filter (mine key)).filter (keep key) = (found.filter (mine key)).filter (keep' key) := by
    rcases found with _ | value
    · rfl
    · cases hmine : mine key value with
      | true => rw [Option.filter_some_pos hmine, Option.filter_some, Option.filter_some, hkeep key value hmine]
      | false => rw [Option.filter_some_neg hmine]; rfl
  have hswap (found : Option V) (keep : V → Bool) :
      (found.filter keep).filter (mine key) = (found.filter (mine key)).filter keep := by
    rw [Option.filter_filter, Option.filter_filter]
    exact congrArg (Option.filter · found) (funext fun value => Bool.and_comm _ _)
  rw [lookup_retain, lookup_retain, hswap, hswap, h key, hagree]

/-- A test that all values of the owner pass takes nothing from the owner. -/
theorem SameFor.retained_other {keep : K → V → Bool}
    (hkeep : ∀ key value, map.lookup key = some value → mine key value = true → keep key value = true) :
    SameFor mine map (map.retain keep) := by
  intro key
  rw [lookup_retain, Option.filter_filter]
  cases hvalue : map.lookup key with
  | none => rfl
  | some value =>
    rw [Option.filter_some, Option.filter_some]
    cases hmine : mine key value with
    | true => rw [hkeep key value hvalue hmine, Bool.true_and]
    | false => rw [Bool.and_false]

/-- Both maps are rewritten in the same way, which gives no value to another owner. -/
theorem SameFor.mapped (h : SameFor mine map map') {f : K → V → V}
    (hmine : ∀ key value, mine key (f key value) = mine key value) :
    SameFor mine (map.map_values f) (map'.map_values f) := by
  intro key
  have hswap (found : Option V) : (found.map (f key)).filter (mine key) =
      (found.filter (mine key)).map (f key) := by
    rw [Option.filter_map]
    exact congrArg (fun keep => (found.filter keep).map (f key)) (funext (hmine key))
  rw [lookup_map_values, lookup_map_values, hswap, hswap, h key]

/-- What is rewritten belongs to others, and stays theirs. -/
theorem SameFor.mapped_other {f : K → V → V}
    (hmine : ∀ key value, mine key (f key value) = mine key value)
    (hsame : ∀ key value, mine key value = true → f key value = value) :
    SameFor mine map (map.map_values f) := by
  intro key
  rw [lookup_map_values]
  cases map.lookup key with
  | none => rfl
  | some value =>
    rw [Option.map_some, Option.filter_some, Option.filter_some, hmine]
    cases hvalue : mine key value with
    | true => rw [hsame key value hvalue]
    | false => rfl

/-- A value of somebody else is written over nothing, or over one of somebody else. -/
theorem SameFor.insert_other (h : SameFor mine map map') {key : K} {value : V}
    (hvalue : mine key value = false)
    (hold : ∀ old, map.lookup key = some old → mine key old = false) :
    SameFor mine (map.insert key value) map' := by
  intro query
  rw [lookup_insert_ite, ← h query]
  split
  · next heq =>
    rw [heq, Option.filter_some_neg (by simp [hvalue])]
    cases hlookup : map.lookup key with
    | none => rfl
    | some old => rw [Option.filter_some_neg (by simp [hold old hlookup])]
  · rfl

/-- The owner finds the same values when going through either map. -/
theorem SameFor.filter_values_perm {mine : V → Bool} (h : SameFor (fun _ => mine) map map') :
    (map.values.filter mine).Perm (map'.values.filter mine) := by
  have hreordered : (map.retain fun _ => mine).Reordered (map'.retain fun _ => mine) := by
    refine List.lookup_ext (map.retain _).nodupKeys (map'.retain _).nodupKeys fun key value => ?_
    change value ∈ (map.retain fun _ => mine).lookup key ↔ value ∈ (map'.retain fun _ => mine).lookup key
    rw [lookup_retain, lookup_retain, h key]
  have hvalues : ∀ map : HashMap K V, (map.retain fun _ => mine).values = map.values.filter mine := by
    intro map
    rw [values, values, retain, List.filter_map]
    rfl
  rw [← hvalues, ← hvalues]
  exact hreordered.values

/-- Values of a kind that only the owner has are as many in either map. -/
theorem SameFor.filter_values_length {mine kind : V → Bool} (h : SameFor (fun _ => mine) map map')
    (hkind : ∀ value, kind value = true → mine value = true) :
    (map.values.filter kind).length = (map'.values.filter kind).length := by
  have hmine (values : List V) : (values.filter mine).filter kind = values.filter kind := by
    rw [List.filter_filter]
    refine List.filter_congr fun value _ => ?_
    cases hvalue : kind value with
    | true => rw [hkind value hvalue]; rfl
    | false => rfl
  rw [← hmine, ← hmine map'.values]
  exact (h.filter_values_perm.filter kind).length_eq

end SameFor

end HashMap

end collections
