import Mathlib.Data.List.Forall2

namespace fallible

variable {E A B : Type}

theorem bind_eq_ok_iff {result : Except E A} {f : A → Except E B} {b : B} :
    (result >>= f) = .ok b ↔ ∃ a, result = .ok a ∧ f a = .ok b := by
  cases result with
  | error err =>
    refine iff_of_false (fun h => by cases h) ?_
    rintro ⟨a, ha, -⟩
    cases ha
  | ok a =>
    refine ⟨fun h => ⟨a, rfl, h⟩, ?_⟩
    rintro ⟨a', ha, h⟩
    cases ha
    exact h

/-- What is done to the result of a call can be done to that of the next one. -/
theorem bind_eq_map {C : Type} {result : Except E A} {f : A → Except E C} {f' : A → Except E B} {g : B → C}
    (h : ∀ a, f a = (f' a).map g) : (result >>= f) = (result >>= f').map g := by
  cases result with
  | error err => rfl
  | ok a => exact h a

/-- A list of calls succeeds with the results of the calls, one by one. -/
theorem mapM_eq_ok_iff {f : A → Except E B} {items : List A} : ∀ {results : List B},
    items.mapM f = .ok results ↔ List.Forall₂ (fun item result => f item = .ok result) items results := by
  induction items with
  | nil =>
    intro results
    rw [List.mapM_nil, List.forall₂_nil_left_iff]
    exact ⟨fun h => by cases h; rfl, fun h => by rw [h]; rfl⟩
  | cons item items ih =>
    intro results
    rw [List.mapM_cons, bind_eq_ok_iff, List.forall₂_cons_left_iff]
    constructor
    · rintro ⟨result, hresult, hrest⟩
      obtain ⟨rest, hitems, hresults⟩ := bind_eq_ok_iff.mp hrest
      cases hresults
      exact ⟨result, rest, hresult, ih.mp hitems, rfl⟩
    · rintro ⟨result, rest, hresult, hitems, rfl⟩
      exact ⟨result, hresult, bind_eq_ok_iff.mpr ⟨rest, ih.mpr hitems, rfl⟩⟩

/-- A list of calls succeeds if and only if each of them does. -/
theorem mapM_succeeds_iff {f : A → Except E B} {items : List A} :
    (∃ results, items.mapM f = .ok results) ↔ ∀ item ∈ items, ∃ result, f item = .ok result := by
  induction items with
  | nil => exact iff_of_true ⟨[], rfl⟩ fun item hitem => by cases hitem
  | cons item items ih =>
    rw [List.forall_mem_cons, ← ih]
    constructor
    · rintro ⟨results, hresults⟩
      obtain ⟨result, rest, hresult, hrest, -⟩ := List.forall₂_cons_left_iff.mp (mapM_eq_ok_iff.mp hresults)
      exact ⟨⟨result, hresult⟩, rest, mapM_eq_ok_iff.mpr hrest⟩
    · rintro ⟨⟨result, hresult⟩, rest, hrest⟩
      exact ⟨result :: rest, mapM_eq_ok_iff.mpr (.cons hresult (mapM_eq_ok_iff.mp hrest))⟩

end fallible
