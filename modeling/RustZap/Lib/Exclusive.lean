import Mathlib.Logic.Function.Basic

namespace exclusive

variable {I M : Type*}

/-- Of all parties at most one owns a resource. The marker tells whether one does, and
carries what its owner has put there. -/
structure Exclusive (owns : I → Prop) (mark : I → M) (marker : Option M) : Prop where
  marked : ∀ i, owns i → marker = some (mark i)
  owned : ∀ m, marker = some m → ∃ i, owns i
  unique : ∀ i j, owns i → owns j → i = j

namespace Exclusive

variable {owns owns' : I → Prop} {mark : I → M} {marker : Option M}

theorem of_free (hfree : ∀ i, ¬ owns i) : Exclusive owns mark none where
  marked i howns := absurd howns (hfree i)
  owned m hm := by cases hm
  unique i _ howns := absurd howns (hfree i)

theorem free (h : Exclusive owns mark none) (i : I) : ¬ owns i := by
  intro howns
  cases h.marked i howns

/-- Nobody gets or gives up the resource. -/
theorem keep (h : Exclusive owns mark marker) (hsame : ∀ i, owns' i ↔ owns i) :
    Exclusive owns' mark marker := by
  rwa [show owns' = owns from funext fun i => propext (hsame i)]

/-- A free resource is taken. -/
theorem take (h : Exclusive owns mark none) {i : I} (htaken : ∀ j, owns' j ↔ j = i ∨ owns j) :
    Exclusive owns' mark (some (mark i)) := by
  have honly : ∀ j, owns' j → j = i := fun j howns => ((htaken j).mp howns).resolve_right (h.free j)
  refine ⟨fun j howns => ?_, fun _ _ => ⟨i, (htaken i).mpr (Or.inl rfl)⟩, fun j k hj hk => ?_⟩
  · rw [honly j howns]
  · rw [honly j hj, honly k hk]

/-- The owner gives the resource up. -/
theorem release (h : Exclusive owns mark marker) {i : I} (howns : owns i)
    (hreleased : ∀ j, owns' j → owns j ∧ j ≠ i) : Exclusive owns' mark none := by
  refine of_free fun j hj => ?_
  obtain ⟨howns', hne⟩ := hreleased j hj
  exact hne (h.unique j i howns' howns)

end Exclusive

end exclusive
