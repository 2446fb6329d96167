import RustZap.Lib.Runs
import Mathlib.Algebra.Order.Monoid.Unbundled.Basic

open runs

namespace throttle

/-- Something that is to be done at most once in a while for each key. The state remembers
when it was done last. Some steps set that time without waiting for it, and some make the
state forget it. -/
structure Throttle (S L K T : Type*) where
  step : S → L → S → Prop
  time : L → T
  last : S → K → Option T
  marks : L → K → Prop
  waits : L → K → Prop
  forgets : L → K → Prop

namespace Throttle

variable {S L K T : Type*}

/-- What each step has to do for that: a waiting one comes late enough, a marking one sets
the time, and the time is only ever moved to that of a step or forgotten. -/
structure Kept [LE T] [Add T] (throttle : Throttle S L K T) (wait : T) : Prop where
  waited : ∀ {state label state' key last}, throttle.step state label state' → throttle.waits label key →
    throttle.last state key = some last → last + wait ≤ throttle.time label
  marked : ∀ {state label state' key}, throttle.step state label state' → throttle.marks label key →
    throttle.last state' key = some (throttle.time label)
  remembered : ∀ {state label state' key last}, throttle.step state label state' →
    ¬ throttle.forgets label key → throttle.last state key = some last →
    throttle.last state' key = some last ∨ throttle.last state' key = some (throttle.time label)

variable [Preorder T] [Add T] {throttle : Throttle S L K T} {wait : T} {key : K}

/-- A run that does not forget about a key, and does not go back behind a time, has done it
last at that time or later. -/
theorem Kept.run (h : throttle.Kept wait) {time : T} {state state' : S} {labels : List L}
    (hrun : Run throttle.step state labels state')
    (hlabels : ∀ label ∈ labels, ¬ throttle.forgets label key ∧ time ≤ throttle.time label)
    (hlast : ∃ last, throttle.last state key = some last ∧ time ≤ last) :
    ∃ last, throttle.last state' key = some last ∧ time ≤ last := by
  have hstep : ∀ state label state', label ∈ labels →
      (∃ last, throttle.last state key = some last ∧ time ≤ last) → throttle.step state label state' →
      ∃ last, throttle.last state' key = some last ∧ time ≤ last := by
    rintro state label state' hlabel ⟨last, hlast, hle⟩ hone
    obtain ⟨hkept, htime⟩ := hlabels label hlabel
    rcases h.remembered hone hkept hlast with hlast' | hlast'
    · exact ⟨last, hlast', hle⟩
    · exact ⟨throttle.time label, hlast', htime⟩
  exact hrun.invariant_of_mem hstep hlast

/-- Between a step that marks a key and one that waits for it lies the waiting time, unless
something in between has made the state forget the key. -/
theorem Kept.spaced [AddRightMono T] (h : throttle.Kept wait) {first second : L} {between : List L}
    {state state' : S}
    (hrun : Run throttle.step state (first :: (between ++ [second])) state')
    (hmarks : throttle.marks first key) (hwaits : throttle.waits second key)
    (hbetween : ∀ label ∈ between, ¬ throttle.forgets label key ∧ throttle.time first ≤ throttle.time label) :
    throttle.time first + wait ≤ throttle.time second := by
  cases hrun with
  | cons hfirst hrest =>
    obtain ⟨mid, hmid, hsecond⟩ := hrest.split
    obtain ⟨last, hlast, hle⟩ := h.run hmid hbetween ⟨_, h.marked hfirst hmarks, le_refl _⟩
    cases hsecond with
    | cons hstep _ =>
      calc throttle.time first + wait ≤ last + wait := add_le_add_left hle wait
        _ ≤ throttle.time second := h.waited hstep hwaits hlast

end Throttle

end throttle
