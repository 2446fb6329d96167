import Mathlib.Data.List.AList
import Mathlib.Data.List.Induction
import Mathlib.Data.List.Sort

namespace collections

/-- The stable sort of a vector by a comparison. -/
def sort_by {A : Type} (before : A → A → Bool) (items : List A) : List A :=
  items.insertionSort fun a b => before a b = true

theorem sort_by_perm {A : Type} (before : A → A → Bool) (items : List A) :
    (sort_by before items).Perm items :=
  List.perm_insertionSort _ items

/-- A hash map: finitely many entries and no key twice. The order of the
entries stands for the order in which the map's iterators yield them. A program
may not rely on that order, so statements about iteration are made for every
`Reordered` map. -/
abbrev HashMap (K V : Type) := AList (fun _ : K => V)

namespace HashMap

variable {K V : Type}

def values (map : HashMap K V) : List V :=
  map.entries.map Sigma.snd

/-- Keeps the entries that satisfy the test, in their order. -/
def retain (map : HashMap K V) (keep : K → V → Bool) : HashMap K V :=
  ⟨map.entries.filter fun entry => keep entry.1 entry.2,
    map.nodupKeys.sublist List.filter_sublist⟩

theorem keys_map_snd (entries : List (Sigma fun _ : K => V)) (f : K → V → V) :
    (entries.map fun entry => (⟨entry.1, f entry.1 entry.2⟩ : Sigma fun _ : K => V)).keys =
      entries.keys := by
  simp [List.keys]

theorem retain_eq_self (map : HashMap K V) {keep : K → V → Bool}
    (h : ∀ entry ∈ map.entries, keep entry.1 entry.2 = true) : map.retain keep = map :=
  AList.ext (List.filter_eq_self.mpr h)

theorem retain_all (map : HashMap K V) : (map.retain fun _ _ => true) = map :=
  retain_eq_self map fun _ _ => rfl

/-- What a weaker test would keep has all passed the stronger one. -/
theorem retain_retain (map : HashMap K V) {keep keep' : K → V → Bool}
    (h : ∀ key value, keep key value = true → keep' key value = true) :
    (map.retain keep).retain keep' = map.retain keep :=
  retain_eq_self _ fun _ hmem => h _ _ (List.mem_filter.mp hmem).2

/-- Rewrites every value in place, as a loop over `values_mut` does. -/
def map_values (map : HashMap K V) (f : K → V → V) : HashMap K V :=
  ⟨map.entries.map fun entry => ⟨entry.1, f entry.1 entry.2⟩, by
    rw [List.NodupKeys, keys_map_snd]
    exact map.nodupKeys⟩

theorem map_values_eq_self (map : HashMap K V) {f : K → V → V}
    (hf : ∀ entry ∈ map.entries, f entry.1 entry.2 = entry.2) : map.map_values f = map := by
  refine AList.ext ?_
  rw [map_values]
  refine (List.map_congr_left fun entry hmem => ?_).trans (List.map_id map.entries)
  rw [hf entry hmem]
  rfl

/-- The same entries, yielded in a possibly different order. -/
def Reordered (map map' : HashMap K V) : Prop :=
  map.entries.Perm map'.entries

theorem Reordered.refl (map : HashMap K V) : map.Reordered map :=
  List.Perm.refl _

theorem Reordered.symm {map map' : HashMap K V} (h : map.Reordered map') : map'.Reordered map :=
  List.Perm.symm h

theorem Reordered.values {map map' : HashMap K V} (h : map.Reordered map') :
    map.values.Perm map'.values :=
  List.Perm.map _ h

/-- The key-value pairs of a map, as a vector. -/
def to_pairs (map : HashMap K V) : List (K × V) :=
  map.entries.map fun entry => (entry.1, entry.2)

theorem to_pairs_keys_nodup (map : HashMap K V) : (map.to_pairs.map Prod.fst).Nodup := by
  rw [to_pairs, List.map_map]
  exact map.nodupKeys

section Lookup

variable [DecidableEq K]

/-- Collects key-value pairs, a later pair replacing an earlier one of its key. -/
def of_pairs (pairs : List (K × V)) : HashMap K V :=
  pairs.foldl (fun map pair => map.insert pair.1 pair.2) ∅

theorem lookup_insert_ite (map : HashMap K V) (key query : K) (value : V) :
    (map.insert key value).lookup query = if query = key then some value else map.lookup query := by
  split
  · next h => subst h; exact AList.lookup_insert map
  · next h => exact AList.lookup_insert_ne h

theorem lookup_erase_ite (map : HashMap K V) (key query : K) :
    (map.erase key).lookup query = if query = key then none else map.lookup query := by
  split
  · next h => subst h; exact AList.lookup_erase _ map
  · next h => exact AList.lookup_erase_ne h

theorem lookup_eq_some_iff {map : HashMap K V} {key : K} {value : V} :
    map.lookup key = some value ↔ (⟨key, value⟩ : Sigma fun _ : K => V) ∈ map.entries := by
  rw [← Option.mem_def]
  exact AList.mem_lookup_iff

/-- A key occurs once. -/
theorem entries_filter_key {map : HashMap K V} {key : K} {value : V} (h : map.lookup key = some value) :
    (map.entries.filter fun entry => entry.1 = key) = [⟨key, value⟩] := by
  have hsame : ∀ entry ∈ map.entries.filter fun entry => entry.1 = key, entry = ⟨key, value⟩ := by
    rintro ⟨stored, other⟩ hmem
    obtain ⟨hentry, hkey⟩ := List.mem_filter.mp hmem
    obtain rfl : stored = key := of_decide_eq_true hkey
    rw [← lookup_eq_some_iff, h] at hentry
    rw [Option.some.inj hentry]
  have hmem : (⟨key, value⟩ : Sigma fun _ : K => V) ∈ map.entries.filter fun entry => entry.1 = key :=
    List.mem_filter.mpr ⟨lookup_eq_some_iff.mp h, decide_eq_true rfl⟩
  have hreplicate := List.eq_replicate_of_mem hsame
  have hnodup := map.nodupKeys.nodup.filter fun entry => entry.1 = key
  rw [hreplicate, List.nodup_replicate] at hnodup
  have hpos := List.length_pos_of_mem hmem
  rw [hreplicate, le_antisymm hnodup hpos]
  rfl

theorem mem_values_iff {map : HashMap K V} {value : V} :
    value ∈ map.values ↔ ∃ key, map.lookup key = some value := by
  simp only [values, List.mem_map, lookup_eq_some_iff]
  constructor
  · rintro ⟨⟨key, stored⟩, hmem, rfl⟩
    exact ⟨key, hmem⟩
  · rintro ⟨key, hmem⟩
    exact ⟨_, hmem, rfl⟩

theorem mem_values_of_lookup {map : HashMap K V} {key : K} {value : V}
    (h : map.lookup key = some value) : value ∈ map.values :=
  mem_values_iff.mpr ⟨key, h⟩

theorem lookup_retain (map : HashMap K V) (keep : K → V → Bool) (key : K) :
    (map.retain keep).lookup key = (map.lookup key).filter (keep key) := by
  apply Option.ext
  intro value
  rw [lookup_eq_some_iff, Option.filter_eq_some_iff, lookup_eq_some_iff]
  simp [retain]

theorem lookup_retain_eq_some_iff {map : HashMap K V} {keep : K → V → Bool} {key : K} {value : V} :
    (map.retain keep).lookup key = some value ↔ map.lookup key = some value ∧ keep key value = true := by
  rw [lookup_retain, Option.filter_eq_some_iff]

theorem kerase_eq_filter (key : K) {entries : List (Sigma fun _ : K => V)} (h : entries.NodupKeys) :
    entries.kerase key = entries.filter fun entry => entry.1 ≠ key := by
  induction entries with
  | nil => rfl
  | cons entry rest ih =>
    obtain ⟨hnew, hrest⟩ := List.nodupKeys_cons.mp h
    by_cases hkey : key = entry.1
    · rw [List.kerase_cons_eq hkey, List.filter_cons_of_neg (by simpa using hkey.symm)]
      rw [List.filter_eq_self.mpr]
      intro other hother
      have hne : other.1 ≠ key := fun heq => hnew (hkey ▸ heq ▸ List.mem_keys_of_mem hother)
      simpa using hne
    · rw [List.kerase_cons_ne hkey, List.filter_cons_of_pos (by simpa using Ne.symm hkey), ih hrest]

/-- Keys taken out one after the other are taken out at once. -/
theorem foldl_erase (keys : List K) :
    ∀ map : HashMap K V, keys.foldl (fun map key => map.erase key) map =
      map.retain fun key _ => !keys.contains key := by
  induction keys with
  | nil => exact fun map => (retain_all map).symm
  | cons key keys ih =>
    intro map
    have herase : (map.erase key).entries = map.entries.filter fun entry => entry.1 ≠ key :=
      kerase_eq_filter key map.nodupKeys
    rw [List.foldl_cons, ih]
    refine AList.ext ?_
    dsimp only [retain]
    rw [herase, List.filter_filter]
    refine List.filter_congr fun entry _ => ?_
    rw [List.contains_cons, Bool.not_or, Bool.and_comm]
    by_cases hkey : entry.1 = key <;> simp [hkey]

theorem mem_keys_iff {map : HashMap K V} {key : K} :
    key ∈ map.keys ↔ ∃ value, map.lookup key = some value := by
  rw [← AList.mem_keys, ← AList.lookup_isSome, Option.isSome_iff_exists]

theorem mem_keys_of_lookup {map : HashMap K V} {key : K} {value : V} (h : map.lookup key = some value) :
    key ∈ map.keys :=
  mem_keys_iff.mpr ⟨value, h⟩

/-- The keys of a map, in any order. -/
theorem keys_perm {map : HashMap K V} {keys : List K} (hnodup : keys.Nodup)
    (hkeys : ∀ key, (∃ value, map.lookup key = some value) ↔ key ∈ keys) : map.keys.Perm keys := by
  refine (List.perm_ext_iff_of_nodup map.keys_nodup hnodup).mpr fun key => ?_
  rw [mem_keys_iff, hkeys]

/-- Values are counted by looking their keys up. -/
theorem countP_values (map : HashMap K V) (p : V → Bool) :
    map.values.countP p = map.keys.countP fun key => (map.lookup key).any p := by
  rw [values, AList.keys, List.keys, List.countP_map, List.countP_map]
  refine List.countP_congr fun entry hentry => ?_
  have hlookup : map.lookup entry.1 = some entry.2 := lookup_eq_some_iff.mpr hentry
  simp only [Function.comp_apply, hlookup, Option.any_some]

theorem lookup_map_values (map : HashMap K V) (f : K → V → V) (key : K) :
    (map.map_values f).lookup key = (map.lookup key).map (f key) := by
  apply Option.ext
  intro value
  rw [lookup_eq_some_iff, Option.map_eq_some_iff]
  simp only [lookup_eq_some_iff, map_values, List.mem_map, Sigma.mk.injEq, heq_eq_eq]
  constructor
  · rintro ⟨⟨stored, old⟩, hmem, rfl, rfl⟩
    exact ⟨old, hmem, rfl⟩
  · rintro ⟨old, hmem, rfl⟩
    exact ⟨⟨key, old⟩, hmem, rfl, rfl⟩

theorem Reordered.lookup {map map' : HashMap K V} (h : map.Reordered map') (key : K) :
    map.lookup key = map'.lookup key :=
  AList.perm_lookup h

/-- A value may be moved to the front of the iteration. -/
theorem reordered_insert {map : HashMap K V} {key : K} {value : V} (h : map.lookup key = some value) :
    map.Reordered (map.insert key value) := by
  refine List.lookup_ext map.nodupKeys (map.insert key value).nodupKeys ?_
  intro query stored
  change stored ∈ map.lookup query ↔ stored ∈ (map.insert key value).lookup query
  rw [lookup_insert_ite]
  split
  · next heq => rw [heq, h]
  · rfl

theorem filter_kerase_values {p : V → Bool} {key : K} {entries : List (Sigma fun _ : K => V)}
    (hold : ∀ old, entries.dlookup key = some old → p old = false) :
    ((entries.kerase key).map Sigma.snd).filter p = (entries.map Sigma.snd).filter p := by
  induction entries with
  | nil => rfl
  | cons entry rest ih =>
    by_cases hkey : key = entry.1
    · rw [List.kerase_cons_eq hkey]
      have hp : p entry.2 = false := by
        apply hold
        subst hkey
        exact List.dlookup_cons_eq rest entry.1 entry.2
      simp [hp]
    · rw [List.kerase_cons_ne hkey, List.map_cons, List.map_cons, List.filter_cons, List.filter_cons, ih]
      intro old h
      apply hold
      rwa [List.dlookup_cons_ne _ _ hkey]

/-- A change to a value outside a selection leaves what is selected. -/
theorem filter_values_insert {map : HashMap K V} {key : K} {value : V} {p : V → Bool}
    (hvalue : p value = false) (hold : ∀ old, map.lookup key = some old → p old = false) :
    (HashMap.values (map.insert key value)).filter p = map.values.filter p := by
  change ((List.kinsert key value map.entries).map Sigma.snd).filter p = _
  rw [List.kinsert_def, List.map_cons, List.filter_cons, hvalue]
  exact filter_kerase_values hold

theorem find?_values_insert {map : HashMap K V} {key : K} {value : V} {p : V → Bool}
    (hvalue : p value = false) (hold : ∀ old, map.lookup key = some old → p old = false) :
    (HashMap.values (map.insert key value)).find? p = map.values.find? p := by
  rw [← List.head?_filter, filter_values_insert hvalue hold, List.head?_filter]

theorem find?_values_insert_self {map : HashMap K V} {key : K} {value : V} {p : V → Bool}
    (hvalue : p value = true) : (HashMap.values (map.insert key value)).find? p = some value := by
  change ((List.kinsert key value map.entries).map Sigma.snd).find? p = _
  rw [List.kinsert_def, List.map_cons, List.find?_cons, hvalue]

/-- Every value is stored under its own key. -/
def Keyed (key_of : V → K) (map : HashMap K V) : Prop :=
  ∀ key value, map.lookup key = some value → key_of value = key

section Keyed

variable {key_of : V → K} {map : HashMap K V}

theorem Keyed.empty : (∅ : HashMap K V).Keyed key_of := by
  intro key value h
  cases h

theorem Keyed.insert (h : map.Keyed key_of) {key : K} {value : V} (hvalue : key_of value = key) :
    HashMap.Keyed key_of (map.insert key value) := by
  intro query stored hstored
  rw [lookup_insert_ite] at hstored
  split at hstored
  · next heq =>
    cases hstored
    rw [hvalue, heq]
  · exact h query stored hstored

theorem Keyed.map_values (h : map.Keyed key_of) {f : K → V → V}
    (hf : ∀ key value, key_of (f key value) = key_of value) : (map.map_values f).Keyed key_of := by
  intro query stored hstored
  rw [lookup_map_values, Option.map_eq_some_iff] at hstored
  obtain ⟨old, hold, rfl⟩ := hstored
  rw [hf]
  exact h query old hold

theorem Keyed.retain (h : map.Keyed key_of) (keep : K → V → Bool) : (map.retain keep).Keyed key_of := by
  intro query stored hstored
  exact h query stored (lookup_retain_eq_some_iff.mp hstored).1

theorem Keyed.erase (h : map.Keyed key_of) (key : K) : HashMap.Keyed key_of (map.erase key) := by
  intro query stored hstored
  rw [lookup_erase_ite] at hstored
  split at hstored
  · cases hstored
  · exact h query stored hstored

theorem Keyed.reordered {map' : HashMap K V} (h : map.Keyed key_of) (hreordered : map.Reordered map') :
    map'.Keyed key_of := by
  intro query stored hstored
  rw [← hreordered.lookup] at hstored
  exact h query stored hstored

/-- Values that know their keys are told apart by them. -/
theorem Keyed.values_nodup (h : map.Keyed key_of) : (map.values.map key_of).Nodup := by
  have hkeys : map.values.map key_of = map.entries.map Sigma.fst := by
    rw [values, List.map_map]
    refine List.map_congr_left fun entry hentry => ?_
    exact h entry.1 entry.2 (lookup_eq_some_iff.mpr hentry)
  rw [hkeys]
  exact map.nodupKeys

end Keyed

section Extend

/-- One entry after another is written. -/
def extend (map : HashMap K V) (pairs : List (K × V)) : HashMap K V :=
  pairs.foldl (fun map pair => map.insert pair.1 pair.2) map

theorem lookup_extend_of_not_mem {pairs : List (K × V)} {query : K} (h : query ∉ pairs.map Prod.fst) :
    ∀ map : HashMap K V, (map.extend pairs).lookup query = map.lookup query := by
  induction pairs with
  | nil => exact fun map => rfl
  | cons pair pairs ih =>
    intro map
    rw [List.map_cons, List.mem_cons, not_or] at h
    exact (ih h.2 _).trans ((lookup_insert_ite map pair.1 query pair.2).trans (if_neg h.1))

/-- What is found under a written key has been written. -/
theorem lookup_extend_of_mem {pairs : List (K × V)} {query : K} (h : query ∈ pairs.map Prod.fst) :
    ∀ map : HashMap K V, ∃ pair ∈ pairs, (map.extend pairs).lookup query = some pair.2 := by
  induction pairs with
  | nil => cases h
  | cons pair pairs ih =>
    intro map
    by_cases hrest : query ∈ pairs.map Prod.fst
    · obtain ⟨found, hfound, hlookup⟩ := ih hrest (map.insert pair.1 pair.2)
      exact ⟨found, List.mem_cons_of_mem _ hfound, hlookup⟩
    · have hquery : query = pair.1 := by
        rw [List.map_cons, List.mem_cons] at h
        exact h.resolve_right hrest
      refine ⟨pair, List.mem_cons_self, ?_⟩
      exact (lookup_extend_of_not_mem hrest _).trans
        ((lookup_insert_ite map pair.1 query pair.2).trans (if_pos hquery))

/-- Writing values outside a selection, over values outside it, leaves what is
selected. -/
theorem filter_values_extend {p : V → Bool} {pairs : List (K × V)} (hpairs : ∀ pair ∈ pairs, p pair.2 = false) :
    ∀ map : HashMap K V, (∀ pair ∈ pairs, ∀ old, map.lookup pair.1 = some old → p old = false) →
      (map.extend pairs).values.filter p = map.values.filter p := by
  induction pairs with
  | nil => exact fun map _ => rfl
  | cons pair pairs ih =>
    intro map hold
    have hpair := hpairs pair List.mem_cons_self
    refine (ih (fun next hnext => hpairs next (List.mem_cons_of_mem _ hnext)) _ ?_).trans
      (filter_values_insert hpair (hold pair List.mem_cons_self))
    intro next hnext old hlookup
    rw [lookup_insert_ite] at hlookup
    split at hlookup
    · cases hlookup
      exact hpair
    · exact hold next (List.mem_cons_of_mem _ hnext) old hlookup

variable {A : Type} (key : A → K) (value : A → V)

theorem lookup_foldl_insert_of_ne {xs : List A} {query : K} (h : ∀ x ∈ xs, key x ≠ query) :
    ∀ map : HashMap K V, (xs.foldl (fun map x => map.insert (key x) (value x)) map).lookup query =
      map.lookup query := by
  induction xs with
  | nil => intro map; rfl
  | cons x xs ih =>
    intro map
    rw [List.foldl_cons, ih (fun y hy => h y (List.mem_cons_of_mem _ hy)), lookup_insert_ite,
      if_neg (Ne.symm (h x List.mem_cons_self))]

theorem lookup_foldl_insert_of_mem {xs : List A} {x : A} (hkeys : (xs.map key).Nodup) (hx : x ∈ xs) :
    ∀ map : HashMap K V, (xs.foldl (fun map x => map.insert (key x) (value x)) map).lookup (key x) =
      some (value x) := by
  induction xs with
  | nil => cases hx
  | cons y xs ih =>
    intro map
    obtain ⟨hnew, hrest⟩ := List.nodup_cons.mp hkeys
    rw [List.foldl_cons]
    rcases List.mem_cons.mp hx with rfl | hmem
    · rw [lookup_foldl_insert_of_ne key value, lookup_insert_ite, if_pos rfl]
      intro z hz heq
      exact hnew (heq ▸ List.mem_map_of_mem hz)
    · exact ih hrest hmem _

/-- Insertions that respect the entries already there: the first pair of a key
counts, and only where the map had none. -/
theorem lookup_foldl_or_insert (xs : List A) (query : K) :
    ∀ map : HashMap K V, (xs.foldl (fun map x =>
        if (map.lookup (key x)).isSome then map else map.insert (key x) (value x)) map).lookup query =
      (map.lookup query).or ((xs.find? fun x => key x = query).map value) := by
  induction xs with
  | nil => intro map; simp
  | cons x xs ih =>
    intro map
    rw [List.foldl_cons, ih, List.find?_cons]
    by_cases hkey : key x = query
    · subst hkey
      cases hmap : map.lookup (key x) with
      | none => simp
      | some old => simp [hmap]
    · have hkey' : ¬ query = key x := fun h => hkey h.symm
      split <;> simp [hkey, hkey']

end Extend

section Pairs

theorem mem_to_pairs_iff {map : HashMap K V} {pair : K × V} :
    pair ∈ map.to_pairs ↔ map.lookup pair.1 = some pair.2 := by
  rw [lookup_eq_some_iff, to_pairs, List.mem_map]
  constructor
  · rintro ⟨entry, hentry, rfl⟩
    exact hentry
  · exact fun h => ⟨_, h, rfl⟩

theorem of_pairs_append_singleton (pairs : List (K × V)) (pair : K × V) :
    of_pairs (pairs ++ [pair]) = (of_pairs pairs).insert pair.1 pair.2 := by
  rw [of_pairs, List.foldl_append]
  rfl

theorem mem_of_lookup_of_pairs {pairs : List (K × V)} {key : K} {value : V}
    (h : (of_pairs pairs).lookup key = some value) : (key, value) ∈ pairs := by
  induction pairs using List.reverseRecOn with
  | nil => cases h
  | append_singleton pairs pair ih =>
    rw [of_pairs_append_singleton, lookup_insert_ite] at h
    split at h
    · next hkey =>
      cases h
      rw [hkey]
      exact List.mem_append_right _ (List.mem_singleton_self _)
    · exact List.mem_append_left _ (ih h)

/-- Collecting pairs with different keys loses none. -/
theorem lookup_of_pairs_eq_some_iff {pairs : List (K × V)} (hkeys : (pairs.map Prod.fst).Nodup) {key : K}
    {value : V} : (of_pairs pairs).lookup key = some value ↔ (key, value) ∈ pairs := by
  constructor
  · exact mem_of_lookup_of_pairs
  · intro hmem
    exact lookup_foldl_insert_of_mem Prod.fst Prod.snd hkeys hmem _

/-- A map that went through a vector from which some pairs were taken out. -/
theorem lookup_of_pairs_filter (map : HashMap K V) (keep : K × V → Bool) (key : K) :
    (of_pairs (map.to_pairs.filter keep)).lookup key =
      (map.lookup key).filter fun value => keep (key, value) := by
  apply Option.ext
  intro value
  have hkeys : ((map.to_pairs.filter keep).map Prod.fst).Nodup :=
    (to_pairs_keys_nodup map).sublist (List.filter_sublist.map _)
  rw [lookup_of_pairs_eq_some_iff hkeys, List.mem_filter, mem_to_pairs_iff, Option.filter_eq_some_iff]

theorem exists_lookup_of_pairs {pairs : List (K × V)} {key : K} {value : V} (h : (key, value) ∈ pairs) :
    ∃ value, (of_pairs pairs).lookup key = some value := by
  induction pairs using List.reverseRecOn with
  | nil => cases h
  | append_singleton pairs pair ih =>
    rw [of_pairs_append_singleton, lookup_insert_ite]
    split
    · exact ⟨_, rfl⟩
    · next hkey =>
      rcases List.mem_append.mp h with hmem | hmem
      · exact ih hmem
      · rw [← List.mem_singleton.mp hmem] at hkey
        exact absurd rfl hkey

/-- A map whose keys are renamed keeps what no other key is renamed to. -/
theorem lookup_rename {map : HashMap K V} {rename : K → K} {key : K}
    (hkey : ∀ other, other ∈ map.keys → (rename other = key ↔ other = key)) :
    (of_pairs (map.entries.map fun entry => (rename entry.1, entry.2))).lookup key = map.lookup key := by
  have hstored : ∀ value, (key, value) ∈ map.entries.map (fun entry => (rename entry.1, entry.2)) ↔
      map.lookup key = some value := by
    intro value
    rw [lookup_eq_some_iff, List.mem_map]
    constructor
    · rintro ⟨⟨other, stored⟩, hmem, heq⟩
      obtain ⟨hrenamed, rfl⟩ := Prod.mk.inj heq
      obtain rfl := (hkey other (mem_keys_of_lookup (lookup_eq_some_iff.mpr hmem))).mp hrenamed
      exact hmem
    · intro hmem
      refine ⟨⟨key, value⟩, hmem, ?_⟩
      rw [(hkey key (mem_keys_of_lookup (lookup_eq_some_iff.mpr hmem))).mpr rfl]
  apply Option.ext
  intro value
  rw [← hstored]
  constructor
  · exact mem_of_lookup_of_pairs
  · intro hmem
    obtain ⟨other, hother⟩ := exists_lookup_of_pairs hmem
    have hsame := (hstored other).mp (mem_of_lookup_of_pairs hother)
    rw [(hstored value).mp hmem] at hsame
    rwa [hsame]

end Pairs

end Lookup

end HashMap

end collections
