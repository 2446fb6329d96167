import Mathlib.Data.List.Pairwise

namespace setters

variable {S E : Type*}

/-- One assignment of a request: its input is refused, or a part of the state is set. -/
structure Setter (S E : Type*) where
  refusal : Option E
  set : S → S

namespace Setter

def accepted (setter : Setter S E) : Bool :=
  setter.refusal.isNone

/-- The state has the value already that the assignment gives it. -/
def Settled (setter : Setter S E) (s : S) : Prop :=
  setter.set s = s

/-- To set a part once is enough. -/
def Idempotent (setter : Setter S E) : Prop :=
  ∀ s, setter.Settled (setter.set s)

/-- Neither assignment touches the part of the other. -/
def Independent (setter other : Setter S E) : Prop :=
  ∀ s, other.Settled (setter.set s) ↔ other.Settled s

end Setter

/-- One assignment after another, up to the first that is refused. What the earlier ones
have set stays. -/
def in_turn : List (Setter S E) → S → Except E Unit × S
  | [], s => (.ok (), s)
  | setter :: rest, s =>
    match setter.refusal with
    | some err => (.error err, s)
    | none => in_turn rest (setter.set s)

/-- The state after all of the assignments. -/
def set_all (setters : List (Setter S E)) (s : S) : S :=
  setters.foldl (fun s setter => setter.set s) s

variable {setters : List (Setter S E)} {s : S}

theorem in_turn_snd (setters : List (Setter S E)) :
    ∀ s, (in_turn setters s).2 = set_all (setters.takeWhile Setter.accepted) s := by
  induction setters with
  | nil => exact fun s => rfl
  | cons setter rest ih =>
    intro s
    cases hrefusal : setter.refusal with
    | some err =>
      have hnot : setter.accepted = false := by rw [Setter.accepted, hrefusal]; rfl
      rw [in_turn, hrefusal, List.takeWhile_cons, hnot]
      rfl
    | none =>
      have haccepted : setter.accepted = true := by rw [Setter.accepted, hrefusal]; rfl
      rw [in_turn, hrefusal, List.takeWhile_cons, haccepted]
      exact ih (setter.set s)

/-- The request succeeds where no assignment is refused. -/
theorem in_turn_ok_iff (setters : List (Setter S E)) :
    ∀ s, (in_turn setters s).1 = .ok () ↔ ∀ setter ∈ setters, setter.accepted = true := by
  induction setters with
  | nil => exact fun s => ⟨fun _ _ h => absurd h List.not_mem_nil, fun _ => rfl⟩
  | cons setter rest ih =>
    intro s
    rw [List.forall_mem_cons, in_turn]
    cases hrefusal : setter.refusal with
    | some err => simp [Setter.accepted, hrefusal]
    | none => simpa [Setter.accepted, hrefusal] using ih (setter.set s)

/-- Independent assignments leave the state as it was only if each of them does. -/
theorem set_all_eq_iff (hidempotent : ∀ setter ∈ setters, setter.Idempotent)
    (hindependent : setters.Pairwise fun setter other => other.Independent setter) :
    set_all setters s = s ↔ ∀ setter ∈ setters, setter.Settled s := by
  induction setters generalizing s with
  | nil => exact ⟨fun _ _ h => absurd h List.not_mem_nil, fun _ => rfl⟩
  | cons setter rest ih =>
    obtain ⟨hfirst, hrest⟩ := List.forall_mem_cons.mp hidempotent
    obtain ⟨hothers, hpairwise⟩ := List.pairwise_cons.mp hindependent
    -- later assignments do not unsettle the first one
    have hstays : ∀ (later : List (Setter S E)), (∀ other ∈ later, other.Independent setter) →
        ∀ t, setter.Settled (set_all later t) ↔ setter.Settled t := by
      intro later
      induction later with
      | nil => exact fun _ _ => Iff.rfl
      | cons other later ih =>
        intro hlater t
        obtain ⟨hother, hlater⟩ := List.forall_mem_cons.mp hlater
        exact (ih hlater (other.set t)).trans (hother t)
    rw [List.forall_mem_cons]
    constructor
    · intro heq
      have hsettled : setter.Settled s := by
        have hset := (hstays rest hothers (setter.set s)).mpr (hfirst s)
        have hall : set_all rest (setter.set s) = s := heq
        rwa [hall] at hset
      refine ⟨hsettled, (ih hrest hpairwise).mp ?_⟩
      rw [set_all, List.foldl_cons, hsettled] at heq
      exact heq
    · rintro ⟨hsettled, hall⟩
      rw [set_all, List.foldl_cons, hsettled]
      exact (ih hrest hpairwise).mpr hall

end setters
