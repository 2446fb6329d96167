import Mathlib.Data.List.Basic

namespace watch

/-- The sending half of a watch channel. `sent` is everything that was ever sent; the channel
keeps the last value of it, or the initial one. -/
structure Sender (T : Type*) where
  initial : T
  sent : List T

/-- A receiver knows how many values had been sent when it looked last. -/
structure Receiver where
  version : Nat
  deriving DecidableEq

variable {T : Type*}

def channel (initial : T) : Sender T where
  initial
  sent := []

namespace Sender

variable (tx : Sender T)

def send_replace (value : T) : Sender T := { tx with sent := tx.sent ++ [value] }

def borrow : T := tx.sent.getLast?.getD tx.initial

end Sender

/-- `changed` and the `borrow_and_update` that comes next. What is sent between them is
what is taken, as if the receiver had come later. -/
def Receiver.borrow_changed (rx : Receiver) (tx : Sender T) : Option (T × Receiver) :=
  if rx.version < tx.sent.length then some (tx.borrow, ⟨tx.sent.length⟩) else none

/-- What a receiver has taken: some of the values, in their order, of which the last is the
last one that it could have seen. -/
structure Follows (tx : Sender T) (rx : Receiver) (taken : List T) : Prop where
  bounded : rx.version ≤ tx.sent.length
  sublist : taken.Sublist (tx.sent.take rx.version)
  last : taken.getLast? = (tx.sent.take rx.version).getLast?

namespace Follows

variable {tx : Sender T} {rx rx' : Receiver} {taken : List T} {value : T}

theorem fresh (initial : T) : Follows (channel initial) ⟨0⟩ [] where
  bounded := Nat.le_refl _
  sublist := List.nil_sublist _
  last := rfl

theorem send_replace (h : Follows tx rx taken) (value : T) : Follows (tx.send_replace value) rx taken := by
  have htake : (tx.send_replace value).sent.take rx.version = tx.sent.take rx.version :=
    List.take_append_of_le_length h.bounded
  have hlength : tx.sent.length ≤ (tx.send_replace value).sent.length :=
    (List.prefix_append tx.sent [value]).length_le
  exact ⟨Nat.le_trans h.bounded hlength, htake ▸ h.sublist, htake ▸ h.last⟩

theorem borrow_changed (h : Follows tx rx taken) (hchanged : rx.borrow_changed tx = some (value, rx')) :
    tx.sent.getLast? = some value ∧ Follows tx rx' (taken ++ [value]) := by
  rw [Receiver.borrow_changed, Option.ite_none_right_eq_some] at hchanged
  obtain ⟨hnew, heq⟩ := hchanged
  cases heq
  -- the values that the receiver passes over end with the one that it takes
  have hsplit : tx.sent = tx.sent.take rx.version ++ tx.sent.drop rx.version := (List.take_append_drop _ _).symm
  have hdrop : tx.sent.drop rx.version ≠ [] := by
    rw [ne_eq, List.drop_eq_nil_iff, Nat.not_le]
    exact hnew
  obtain ⟨skipped, last, hskipped⟩ := List.eq_nil_or_concat (tx.sent.drop rx.version) |>.resolve_left hdrop
  rw [List.concat_eq_append] at hskipped
  have hsent : tx.sent = tx.sent.take rx.version ++ skipped ++ [last] := by
    rw [List.append_assoc, ← hskipped, List.take_append_drop]
  have hborrow : tx.sent.getLast? = some last := by
    rw [hsent, List.getLast?_concat]
  have hvalue : tx.borrow = last := by
    rw [Sender.borrow, hborrow, Option.getD_some]
  rw [hvalue]
  refine ⟨hborrow, Nat.le_refl _, ?_, ?_⟩
  · dsimp only
    rw [List.take_length, hsent]
    exact (h.sublist.trans (List.sublist_append_left _ _)).append (List.Sublist.refl _)
  · dsimp only
    rw [List.take_length, hborrow, List.getLast?_concat]

/-- A receiver for which there is nothing new has taken the last value. -/
theorem last_of_unchanged (h : Follows tx rx taken) (hunchanged : rx.borrow_changed tx = none) :
    taken.getLast? = tx.sent.getLast? := by
  rw [Receiver.borrow_changed, ite_eq_right_iff] at hunchanged
  have hseen : tx.sent.length ≤ rx.version := by
    by_contra hnew
    cases hunchanged (Nat.lt_of_not_le hnew)
  rw [h.last, List.take_of_length_le hseen]

end Follows

end watch
