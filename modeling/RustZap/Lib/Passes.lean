import Mathlib.Data.List.Nodup

namespace passes

variable {S K A R : Type*}

/-- Steps that each belong to a key, in a state of which every key has a share. `Same` says
that two states are the same to a key. A step reads no more than the share of its key, and
it leaves those of the other keys alone. -/
structure Independent (Inv : S → Prop) (Same : K → S → S → Prop) (step : K × A → S → S) : Prop where
  refl : ∀ key state, Same key state state
  trans : ∀ {key state mid state'}, Same key state mid → Same key mid state' → Same key state state'
  keeps : ∀ {state} item, Inv state → Inv (step item state)
  local_to : ∀ {state state'} item, Inv state → Inv state' → Same item.1 state state' →
    Same item.1 (step item state) (step item state')
  other : ∀ {state} key item, Inv state → item.1 ≠ key → Same key state (step item state)

/-- One step for each of the items, in their order. -/
def pass (step : K × A → S → S) (items : List (K × A)) (state : S) : S :=
  items.foldl (fun state item => step item state) state

/-- What is reported of the steps of a pass, each of the state that it is done in. -/
def reports (step : K × A → S → S) (report : K × A → S → R) : List (K × A) → S → List R
  | [], _ => []
  | item :: items, state => report item state :: reports step report items (step item state)

section Independent

variable {Inv : S → Prop} {Same : K → S → S → Prop} {step : K × A → S → S} {items : List (K × A)}
  {state : S}

theorem Independent.pass_keeps (h : Independent Inv Same step) (hinv : Inv state) :
    Inv (pass step items state) := by
  induction items generalizing state with
  | nil => exact hinv
  | cons item items ih => exact ih (h.keeps item hinv)

/-- A key that no item has is left alone by the whole pass. -/
theorem Independent.pass_other (h : Independent Inv Same step) (hinv : Inv state) {key : K}
    (hkey : key ∉ items.map Prod.fst) : Same key state (pass step items state) := by
  induction items generalizing state with
  | nil => exact h.refl key state
  | cons item items ih =>
    rw [List.map_cons, List.mem_cons, not_or] at hkey
    exact h.trans (h.other key item hinv (Ne.symm hkey.1)) (ih (h.keeps item hinv) hkey.2)

/-- To its key, a pass over different keys is the step of that key alone, wherever in the
pass it comes. -/
theorem Independent.pass_own (h : Independent Inv Same step) (hinv : Inv state)
    (hkeys : (items.map Prod.fst).Nodup) {item : K × A} (hitem : item ∈ items) :
    Same item.1 (step item state) (pass step items state) := by
  induction items generalizing state with
  | nil => cases hitem
  | cons first items ih =>
    rw [List.map_cons, List.nodup_cons] at hkeys
    rcases List.mem_cons.mp hitem with rfl | hrest
    · exact h.pass_other (h.keeps item hinv) hkeys.1
    · have hne : first.1 ≠ item.1 := fun heq => hkeys.1 (heq ▸ List.mem_map_of_mem hrest)
      exact h.trans (h.local_to item hinv (h.keeps first hinv) (h.other item.1 first hinv hne))
        (ih (h.keeps first hinv) hkeys.2 hrest)

/-- Where a report reads no more than the share of its key, a pass over different keys
reports what the first state has to report of each. -/
theorem Independent.reports_eq (h : Independent Inv Same step) {report : K × A → S → R}
    (hreport : ∀ {state state'} item, Inv state → Inv state' → Same item.1 state state' →
      report item state = report item state')
    (hinv : Inv state) (hkeys : (items.map Prod.fst).Nodup) :
    reports step report items state = items.map fun item => report item state := by
  induction items generalizing state with
  | nil => rfl
  | cons first items ih =>
    rw [List.map_cons, List.nodup_cons] at hkeys
    rw [reports, List.map_cons, ih (h.keeps first hinv) hkeys.2]
    refine congrArg _ (List.map_congr_left fun item hitem => ?_)
    have hne : first.1 ≠ item.1 := fun heq => hkeys.1 (heq ▸ List.mem_map_of_mem hitem)
    exact (hreport item hinv (h.keeps first hinv) (h.other item.1 first hinv hne)).symm

end Independent

end passes
