import Mathlib.Data.List.Basic

namespace runs

variable {S L : Type*}

/-- The runs of a labelled transition system: `Run step s labels t` when the
steps with these labels lead from `s` to `t`. -/
inductive Run (step : S → L → S → Prop) : S → List L → S → Prop
  | nil (s : S) : Run step s [] s
  | cons {s t u : S} {label : L} {labels : List L} :
      step s label t → Run step t labels u → Run step s (label :: labels) u

/-- Steps restricted to those that meet a condition on the state before the
step and the label. -/
def Guarded (step : S → L → S → Prop) (ok : S → L → Prop) (s : S) (label : L) (t : S) : Prop :=
  ok s label ∧ step s label t

/-- A deterministic system as a step relation. -/
def OfFun (f : S → L → S) (s : S) (label : L) (t : S) : Prop :=
  t = f s label

variable {step : S → L → S → Prop}

theorem Run.foldl (f : S → L → S) (s : S) (labels : List L) : Run (OfFun f) s labels (labels.foldl f s) := by
  induction labels generalizing s with
  | nil => exact .nil s
  | cons label labels ih => exact .cons rfl (ih (f s label))

theorem Run.unguarded {ok : S → L → Prop} {s t : S} {labels : List L}
    (hrun : Run (Guarded step ok) s labels t) : Run step s labels t := by
  induction hrun with
  | nil => exact .nil _
  | cons hstep _ ih => exact .cons hstep.2 ih

theorem Run.append {s t u : S} {first second : List L} (hfirst : Run step s first t)
    (hsecond : Run step t second u) : Run step s (first ++ second) u := by
  induction hfirst with
  | nil => exact hsecond
  | cons hstep _ ih => exact .cons hstep (ih hsecond)

theorem Run.split {s u : S} {first second : List L} (hrun : Run step s (first ++ second) u) :
    ∃ t, Run step s first t ∧ Run step t second u := by
  induction first generalizing s with
  | nil => exact ⟨s, .nil s, hrun⟩
  | cons label first ih =>
    cases hrun with
    | cons hstep hrest =>
      obtain ⟨t, hfirst, hsecond⟩ := ih hrest
      exact ⟨t, .cons hstep hfirst, hsecond⟩

/-- What one step preserves, a whole run preserves. -/
theorem Run.invariant {Inv : S → Prop} (hstep : ∀ s label t, Inv s → step s label t → Inv t)
    {s t : S} {labels : List L} (hrun : Run step s labels t) (h : Inv s) : Inv t := by
  induction hrun with
  | nil => exact h
  | cons hone _ ih => exact ih (hstep _ _ _ h hone)

/-- What the steps of a run preserve, the run preserves. -/
theorem Run.invariant_of_mem {Inv : S → Prop} {s t : S} {labels : List L} (hrun : Run step s labels t)
    (hstep : ∀ s label t, label ∈ labels → Inv s → step s label t → Inv t) (h : Inv s) : Inv t := by
  induction hrun with
  | nil => exact h
  | cons hone _ ih =>
    refine ih (fun s label t hlabel => hstep s label t (List.mem_cons_of_mem _ hlabel)) ?_
    exact hstep _ _ _ List.mem_cons_self h hone

/-- The states of two runs stay related when they start related, when a step
that is not observed keeps its state related to whatever it was related to, and
when one observed step taken on both sides leads to related states. Only the
observed steps of the two runs have to be the same. -/
theorem Run.unwinding {R : S → S → Prop} (observed : L → Prop) [DecidablePred observed]
    (hsymm : ∀ s s', R s s' → R s' s)
    (hframe : ∀ s label t s', ¬ observed label → R s s' → step s label t → R t s')
    (hsame : ∀ s s' label t t', observed label → R s s' → step s label t → step s' label t' → R t t') :
    ∀ {labels labels' : List L} {s s' t t' : S}, Run step s labels t → Run step s' labels' t' →
      labels.filter (fun label => observed label) = labels'.filter (fun label => observed label) →
      R s s' → R t t' := by
  -- the unobserved steps of a run keep its state related to a fixed other state
  have hquiet : ∀ {labels : List L} {s t s' : S}, Run step s labels t →
      labels.filter (fun label => observed label) = [] → R s s' → R t s' := by
    intro labels s t s' hrun hnone hrel
    induction hrun with
    | nil => exact hrel
    | cons hone _ ih =>
      rw [List.filter_cons] at hnone
      split at hnone
      · cases hnone
      · next hlabel => exact ih hnone (hframe _ _ _ _ (by simpa using hlabel) hrel hone)
  intro labels
  induction labels with
  | nil =>
    intro labels' s s' t t' hrun hrun' heq hrel
    cases hrun
    exact hsymm _ _ (hquiet hrun' heq.symm (hsymm _ _ hrel))
  | cons label labels ih =>
    intro labels' s s' t t' hrun hrun' heq hrel
    cases hrun with
    | cons hone hrest =>
      by_cases hlabel : observed label
      · rw [List.filter_cons_of_pos (by simpa using hlabel)] at heq
        -- the other run reaches the same observed step after unobserved ones
        obtain ⟨before, rest, rfl, hbefore, -, hrest'⟩ := List.filter_eq_cons_iff.mp heq.symm
        obtain ⟨u', hquiet', hrun'⟩ := Run.split hrun'
        have hu : R s u' := hsymm _ _ (hquiet hquiet'
          (List.filter_eq_nil_iff.mpr hbefore) (hsymm _ _ hrel))
        cases hrun' with
        | cons hone' htail' =>
          exact ih hrest htail' hrest'.symm (hsame _ _ _ _ _ hlabel hu hone hone')
      · rw [List.filter_cons_of_neg (by simpa using hlabel)] at heq
        exact ih hrest hrun' heq (hframe _ _ _ _ hlabel hrel hone)

end runs
