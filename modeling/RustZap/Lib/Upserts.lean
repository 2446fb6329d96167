import RustZap.Lib.HashMap
import Mathlib.Data.List.ReduceOption

open collections

namespace sql

variable {T K R C : Type}

/-- An `INSERT … ON CONFLICT (key) DO UPDATE` of one row: the row that goes in
under a new key, and what becomes of a row that is there already. Both may read
the clock of the database. -/
structure Upsert (T K R : Type) where
  key : K
  insert : T → R
  update : T → R → R

/-- What a list of optional values ends on, nulls aside. -/
def last_some (values : List (Option C)) : Option C :=
  values.reduceOption.getLast?

theorem last_some_append (first second : List (Option C)) :
    last_some (first ++ second) = (last_some second).or (last_some first) := by
  rw [last_some, List.reduceOption_append, List.getLast?_append]
  rfl

theorem last_some_cons (value : Option C) (values : List (Option C)) :
    last_some (value :: values) = (last_some values).or value := by
  rw [← List.singleton_append, last_some_append]
  cases value <;> rfl

theorem last_some_map_some {A : Type} (f : A → C) (items : List A) :
    last_some (items.map fun item => some (f item)) = (items.map f).getLast? := by
  rw [last_some, List.reduceOption, List.filterMap_map]
  exact congrArg List.getLast? (congrFun List.filterMap_eq_map' items)

theorem last_some_eq_none_iff {values : List (Option C)} :
    last_some values = none ↔ ∀ value ∈ values, value = none := by
  rw [last_some, List.getLast?_eq_none_iff]
  constructor
  · intro hnil value hmem
    cases value with
    | none => rfl
    | some c =>
      have hc := List.reduceOption_mem_iff.mpr hmem
      rw [hnil] at hc
      cases hc
  · intro hnone
    refine List.eq_nil_iff_forall_not_mem.mpr fun c hmem => ?_
    cases hnone _ (List.reduceOption_mem_iff.mp hmem)

namespace Upsert

def row (upsert : Upsert T K R) (now : T) : Option R → R
  | none => upsert.insert now
  | some old => upsert.update now old

/-- The column holds this value once the statement has run, whatever was there. -/
def Assigns (col : R → C) (upsert : Upsert T K R) (value : C) : Prop :=
  ∀ now old, col (upsert.row now old) = value

/-- The column takes this value unless it is null, and else keeps its own:
`COALESCE(EXCLUDED.col, col)`. -/
def Coalesces (col : R → Option C) (upsert : Upsert T K R) (value : Option C) : Prop :=
  ∀ now old, col (upsert.row now old) = value.or (old.bind col)

/-- The statement that replaces the whole row, whatever was there. -/
def put (key : K) (row : R) : Upsert T K R where
  key
  insert _ := row
  update _ _ := row

theorem put_assigns (key : K) (row : R) : Assigns id (put (T := T) key row) row := by
  intro now old
  cases old <;> rfl

section Execute

variable [DecidableEq K]

def execute (upsert : Upsert T K R) (now : T) (table : HashMap K R) : HashMap K R :=
  table.insert upsert.key (upsert.row now (table.lookup upsert.key))

theorem lookup_execute (upsert : Upsert T K R) (now : T) (table : HashMap K R) (key : K) :
    (upsert.execute now table).lookup key =
      if key = upsert.key then some (upsert.row now (table.lookup key)) else table.lookup key := by
  rw [execute, HashMap.lookup_insert_ite]
  split
  · next heq => rw [heq]
  · rfl

/-- The statements of a script, each with the reading of the clock it gets. -/
def execute_all (script : List (T × Upsert T K R)) (table : HashMap K R) : HashMap K R :=
  script.foldl (fun table entry => entry.2.execute entry.1 table) table

/-- The statements of a script that are about one row. -/
def on_key (key : K) (script : List (T × Upsert T K R)) : List (Upsert T K R) :=
  (script.map Prod.snd).filter fun upsert => upsert.key = key

theorem on_key_cons (key : K) (entry : T × Upsert T K R) (script : List (T × Upsert T K R)) :
    on_key key (entry :: script) =
      if entry.2.key = key then entry.2 :: on_key key script else on_key key script := by
  rw [on_key, List.map_cons, List.filter_cons]
  simp only [decide_eq_true_eq]
  rfl

theorem on_key_map (key : K) (value : Upsert T K R → C) (script : List (T × Upsert T K R)) :
    (on_key key script).map value =
      (((script.map Prod.snd).map fun upsert => (upsert.key, value upsert)).filter fun write =>
        write.1 = key).map Prod.snd := by
  rw [List.filter_map, List.map_map]
  rfl

/-- Rows are only ever added. -/
theorem lookup_execute_all_isSome (script : List (T × Upsert T K R)) (table : HashMap K R) (key : K) :
    ((execute_all script table).lookup key).isSome ↔
      (table.lookup key).isSome ∨ ∃ upsert ∈ script.map Prod.snd, upsert.key = key := by
  induction script generalizing table with
  | nil => simp [execute_all]
  | cons entry script ih =>
    rw [execute_all, List.foldl_cons]
    refine (ih _).trans ?_
    rw [lookup_execute, List.map_cons]
    simp only [List.mem_cons, exists_eq_or_imp]
    split
    · next heq => simp [heq]
    · next hne => simp [Ne.symm hne]

/-- A column that every statement of the row assigns ends on the last value
assigned. -/
theorem lookup_execute_all_assigns {col : R → C} {value : Upsert T K R → C}
    {script : List (T × Upsert T K R)} (h : ∀ upsert ∈ script.map Prod.snd, Assigns col upsert (value upsert))
    (table : HashMap K R) (key : K) :
    ((execute_all script table).lookup key).map col =
      ((on_key key script).map value).getLast?.or ((table.lookup key).map col) := by
  induction script generalizing table with
  | nil => rfl
  | cons entry script ih =>
    rw [List.map_cons, List.forall_mem_cons] at h
    rw [execute_all, List.foldl_cons]
    refine (ih h.2 _).trans ?_
    rw [lookup_execute, on_key_cons]
    by_cases heq : entry.2.key = key
    · rw [if_pos heq.symm, if_pos heq, Option.map_some, h.1, List.map_cons, List.getLast?_cons]
      cases ((on_key key script).map value).getLast? <;> rfl
    · rw [if_neg (Ne.symm heq), if_neg heq]

/-- A column that every statement of the row coalesces ends on the last value
that is not null, and keeps its own when there is none. -/
theorem lookup_execute_all_coalesces {col : R → Option C} {value : Upsert T K R → Option C}
    {script : List (T × Upsert T K R)}
    (h : ∀ upsert ∈ script.map Prod.snd, Coalesces col upsert (value upsert))
    (table : HashMap K R) (key : K) :
    ((execute_all script table).lookup key).bind col =
      (last_some ((on_key key script).map value)).or ((table.lookup key).bind col) := by
  induction script generalizing table with
  | nil => rfl
  | cons entry script ih =>
    rw [List.map_cons, List.forall_mem_cons] at h
    rw [execute_all, List.foldl_cons]
    refine (ih h.2 _).trans ?_
    rw [lookup_execute, on_key_cons]
    by_cases heq : entry.2.key = key
    · rw [if_pos heq.symm, if_pos heq, Option.bind_some, h.1, List.map_cons, ← List.singleton_append,
        last_some_append, Option.or_assoc]
      cases value entry.2 <;> rfl
    · rw [if_neg (Ne.symm heq), if_neg heq]

theorem execute_put (key : K) (row : R) (now : T) (table : HashMap K R) :
    (put key row).execute now table = table.insert key row := by
  rw [execute]
  cases table.lookup (put key row : Upsert T K R).key <;> rfl

/-- A list of rows that are put one after the other leaves the last one under each key. -/
theorem lookup_execute_all_put {A : Type} (key : A → K) (row : A → R) (now : T) (items : List A)
    (table : HashMap K R) (query : K) :
    (execute_all (items.map fun item => (now, put (key item) (row item))) table).lookup query =
      ((items.filter fun item => key item = query).getLast?.map row).or (table.lookup query) := by
  let script : List (T × Upsert T K R) := items.map fun item => (now, put (key item) (row item))
  have hassigns : ∀ upsert ∈ script.map Prod.snd, Assigns id upsert (upsert.insert now) := by
    intro upsert hupsert
    obtain ⟨entry, hentry, rfl⟩ := List.mem_map.mp hupsert
    obtain ⟨item, -, rfl⟩ := List.mem_map.mp hentry
    exact put_assigns (key item) (row item)
  have hrows : (on_key query script).map (fun upsert => upsert.insert now) =
      (items.filter fun item => key item = query).map row := by
    rw [on_key, List.map_map, List.filter_map, List.map_map]
    rfl
  have hfound := lookup_execute_all_assigns hassigns table query
  rw [hrows, List.getLast?_map, Option.map_id_fun, id, id] at hfound
  exact hfound

/-- The rows that were there stay if and only if each that is replaced is the last one put there. -/
theorem execute_all_put_keeps_iff {A : Type} (key : A → K) (row : A → R) (now : T) (items : List A)
    (table : HashMap K R) :
    (∀ query old, table.lookup query = some old →
      (execute_all (items.map fun item => (now, put (key item) (row item))) table).lookup query = some old) ↔
    ∀ query old, table.lookup query = some old →
      ∀ last, (items.filter fun item => key item = query).getLast? = some last → old = row last := by
  refine forall_congr' fun query => forall_congr' fun old => imp_congr_right fun hold => ?_
  rw [lookup_execute_all_put, hold]
  cases hlast : (items.filter fun item => key item = query).getLast? with
  | none =>
    refine ⟨fun _ last h => ?_, fun _ => rfl⟩
    cases h
  | some last =>
    constructor
    · intro hkept other hother
      cases hother
      exact (Option.some.inj hkept).symm
    · intro hold
      rw [hold last rfl]
      rfl

/-- Where no row is one of those that are put, they stay if and only if none of their keys is put. -/
theorem put_keeps_iff_absent {A : Type} (key : A → K) (row : A → R) {items : List A} {table : HashMap K R}
    (hother : ∀ query old, table.lookup query = some old → ∀ item ∈ items, old ≠ row item) :
    (∀ query old, table.lookup query = some old →
      ∀ last, (items.filter fun item => key item = query).getLast? = some last → old = row last) ↔
    ∀ item ∈ items, table.lookup (key item) = none := by
  constructor
  · intro hkept item hitem
    refine Option.eq_none_iff_forall_ne_some.mpr fun old hold => ?_
    have hmem : item ∈ items.filter fun other => key other = key item :=
      List.mem_filter.mpr ⟨hitem, decide_eq_true rfl⟩
    have hlast := List.getLast?_eq_some_getLast (List.ne_nil_of_mem hmem)
    have hlast_mem := (List.mem_filter.mp (List.mem_of_getLast? hlast)).1
    exact hother _ old hold _ hlast_mem (hkept _ old hold _ hlast)
  · intro habsent query old hold last hlast
    obtain ⟨hmem, hkey⟩ := List.mem_filter.mp (List.mem_of_getLast? hlast)
    rw [← of_decide_eq_true hkey, habsent last hmem] at hold
    cases hold

end Execute

end Upsert

end sql
