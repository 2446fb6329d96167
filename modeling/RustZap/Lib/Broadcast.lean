import RustZap.Lib.Runs

namespace broadcast

/-- The sending half of a broadcast channel. `sent` is everything that was ever sent;
of it the channel keeps the last `capacity` values. -/
structure Sender (T : Type*) where
  capacity : Nat
  sent : List T

/-- A receiver knows the number of the next value that it has not seen. -/
structure Receiver where
  next : Nat
  deriving DecidableEq

inductive RecvError where
  | Lagged (skipped : Nat)
  deriving DecidableEq

/-- What one call of `recv` returns. -/
abbrev Received (T : Type*) := Except RecvError T

variable {T : Type*}

def channel (capacity : Nat) : Sender T where
  capacity
  sent := []

namespace Sender

variable (tx : Sender T)

/-- A value that no receiver waits for is counted as well. A receiver that comes later
starts behind it, so that it makes no difference. -/
def send (value : T) : Sender T := { tx with sent := tx.sent ++ [value] }

def subscribe : Receiver := ⟨tx.sent.length⟩

/-- The number of the oldest value that the channel still has. -/
def oldest : Nat := tx.sent.length - tx.capacity

end Sender

/-- A receiver that is too far behind learns how much it has missed and goes on with
the oldest value that is left. One that has seen everything waits. -/
def Receiver.recv (rx : Receiver) (tx : Sender T) : Option (Received T × Receiver) :=
  if rx.next < tx.oldest then some (.error (.Lagged (tx.oldest - rx.next)), ⟨tx.oldest⟩)
  else tx.sent[rx.next]?.map fun value => (.ok value, ⟨rx.next + 1⟩)

def values (outcomes : List (Received T)) : List T := outcomes.filterMap Except.toOption

def Received.skipped : Received T → Nat
  | .ok _ => 0
  | .error (.Lagged skipped) => skipped

def skipped : List (Received T) → Nat
  | [] => 0
  | outcome :: outcomes => outcome.skipped + skipped outcomes

/-- The outcomes account for a piece of what was sent: each value of it was either
received or is one of a number of neighbours that were reported as skipped. -/
inductive Covers : List (Received T) → List T → Prop
  | nil : Covers [] []
  | value {outcomes : List (Received T)} {piece : List T} (value : T) :
      Covers outcomes piece → Covers (outcomes ++ [.ok value]) (piece ++ [value])
  | lagged {outcomes : List (Received T)} {piece : List T} (missed : List T) :
      Covers outcomes piece →
      Covers (outcomes ++ [.error (.Lagged missed.length)]) (piece ++ missed)

namespace Covers

variable {outcomes : List (Received T)} {piece : List T}

theorem values_append (outcomes rest : List (Received T)) :
    values (outcomes ++ rest) = values outcomes ++ values rest :=
  List.filterMap_append ..

theorem skipped_append (outcomes rest : List (Received T)) :
    skipped (outcomes ++ rest) = skipped outcomes + skipped rest := by
  induction outcomes with
  | nil => exact (Nat.zero_add _).symm
  | cons outcome outcomes ih => rw [List.cons_append, skipped, skipped, ih, Nat.add_assoc]

/-- The values come in the order in which they were sent, each at most once. -/
theorem values_sublist (h : Covers outcomes piece) : (values outcomes).Sublist piece := by
  induction h with
  | nil => exact List.Sublist.refl _
  | value value _ ih =>
    rw [values_append]
    exact ih.append (List.Sublist.refl _)
  | lagged missed _ ih =>
    rw [values_append]
    exact ih.append (List.nil_sublist _)

/-- What was not received is counted. -/
theorem length_eq (h : Covers outcomes piece) :
    (values outcomes).length + skipped outcomes = piece.length := by
  induction h with
  | nil => rfl
  | value value _ ih =>
    rw [values_append, skipped_append, List.length_append, List.length_append, ← ih]
    have hone : values [(.ok value : Received T)] = [value] := rfl
    have hnone : skipped [(.ok value : Received T)] = 0 := rfl
    rw [hone, hnone, List.length_singleton]
    omega
  | lagged missed _ ih =>
    rw [values_append, skipped_append, List.length_append, List.length_append, ← ih]
    have hnone : values [(.error (.Lagged missed.length) : Received T)] = [] := rfl
    have hall : skipped [(.error (.Lagged missed.length) : Received T)] = missed.length := rfl
    rw [hnone, hall, List.length_nil]
    omega

/-- A receiver that was never told to have lagged has received everything. -/
theorem values_eq (h : Covers outcomes piece) (hnone : skipped outcomes = 0) : values outcomes = piece := by
  refine h.values_sublist.eq_of_length ?_
  rw [← h.length_eq, hnone]
  rfl

/-- Of the values of some kind, no more are missing than were skipped. -/
theorem length_filter_le (h : Covers outcomes piece) (p : T → Bool) :
    (piece.filter p).length ≤ ((values outcomes).filter p).length + skipped outcomes := by
  have hcount := h.values_sublist.le_countP p
  rw [List.countP_eq_length_filter, List.countP_eq_length_filter] at hcount
  have hlength := h.length_eq
  omega

end Covers

/-- The outcomes of a receiver account for everything that was sent from the number
`start` up to the one that it waits for. -/
structure Follows (tx : Sender T) (start : Nat) (rx : Receiver) (outcomes : List (Received T)) : Prop where
  started : start ≤ rx.next
  bounded : rx.next ≤ tx.sent.length
  covers : Covers outcomes ((tx.sent.take rx.next).drop start)

namespace Follows

variable {tx : Sender T} {start : Nat} {rx : Receiver} {outcomes : List (Received T)}

/-- A receiver that has not been asked yet. -/
theorem unasked (h : rx.next ≤ tx.sent.length) : Follows tx rx.next rx [] where
  started := Nat.le_refl _
  bounded := h
  covers := by
    rw [List.drop_eq_nil_of_le (List.length_take_le _ _)]
    exact .nil

theorem send (h : Follows tx start rx outcomes) (value : T) :
    Follows (tx.send value) start rx outcomes where
  started := h.started
  bounded := by
    have hlength : (tx.send value).sent.length = tx.sent.length + 1 := List.length_append
    have hbounded := h.bounded
    omega
  covers := by
    have hsame : (tx.send value).sent.take rx.next = tx.sent.take rx.next :=
      List.take_append_of_le_length h.bounded
    rw [hsame]
    exact h.covers

/-- What lies between the old and the new position of a receiver. -/
theorem take_drop_append {values : List T} {start next next' : Nat} (hstart : start ≤ next)
    (hnext : next ≤ values.length) (hle : next ≤ next') :
    (values.take next').drop start =
      (values.take next).drop start ++ (values.take next').drop next := by
  have hcut : values.take next = (values.take next').take next := by
    rw [List.take_take, Nat.min_eq_left hle]
  rw [hcut, ← List.drop_append_of_le_length, List.take_append_drop]
  rw [List.length_take, List.length_take]
  omega

theorem recv (h : Follows tx start rx outcomes) {outcome : Received T} {rx' : Receiver}
    (hrecv : rx.recv tx = some (outcome, rx')) :
    Follows tx start rx' (outcomes ++ [outcome]) := by
  have hstarted := h.started
  have hbounded := h.bounded
  unfold Receiver.recv at hrecv
  split at hrecv
  · next hbehind =>
    cases hrecv
    have holdest : tx.oldest ≤ tx.sent.length := Nat.sub_le _ _
    refine ⟨by dsimp only; omega, holdest, ?_⟩
    dsimp only
    rw [take_drop_append h.started h.bounded (Nat.le_of_lt hbehind)]
    have hmissed : tx.oldest - rx.next = ((tx.sent.take tx.oldest).drop rx.next).length := by
      rw [List.length_drop, List.length_take]
      omega
    rw [hmissed]
    exact .lagged _ h.covers
  · cases hvalue : tx.sent[rx.next]? with
    | none =>
      rw [hvalue] at hrecv
      cases hrecv
    | some value =>
      rw [hvalue] at hrecv
      cases hrecv
      obtain ⟨hlt, hget⟩ := List.getElem?_eq_some_iff.mp hvalue
      refine ⟨by dsimp only; omega, by dsimp only; omega, ?_⟩
      dsimp only
      rw [take_drop_append h.started h.bounded (Nat.le_succ _)]
      have hone : (tx.sent.take (rx.next + 1)).drop rx.next = [value] := by
        rw [List.take_succ_eq_append_getElem hlt, hget, List.drop_append_of_le_length, List.drop_eq_nil_of_le,
          List.nil_append]
        · exact List.length_take_le _ _
        · rw [List.length_take]
          omega
      rw [hone]
      exact .value value h.covers

/-- What was sent since the start was received, or skipped, or is still to come. -/
theorem sent_eq (h : Follows tx start rx outcomes) :
    tx.sent.drop start = (tx.sent.take rx.next).drop start ++ tx.sent.drop rx.next := by
  conv_lhs => rw [← List.take_append_drop rx.next tx.sent]
  rw [List.drop_append_of_le_length]
  rw [List.length_take]
  have hstarted := h.started
  have hbounded := h.bounded
  omega

end Follows

end broadcast
