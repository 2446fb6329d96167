import RustZap.Lib.Throttle
import RustZap.Models
import Mathlib.Algebra.Order.Group.Int
import Mathlib.Algebra.Order.Group.Unbundled.Basic

open runs throttle

namespace rustzap.state

/-- When the profile of a contact was looked up last, and when that failed. -/
structure Looked where
  attempted_at : Option OffsetDateTime := none
  failed_at : Option OffsetDateTime := none
  deriving DecidableEq

/-- Whether it is time for another look. -/
def Looked.due (looked : Looked) (now : OffsetDateTime) : Bool :=
  looked.attempted_at.all fun last =>
    last ≤ now - if looked.failed_at.isSome then Duration.minutes 30 else Duration.hours 24

/-- Since when no look was needed, if none has failed. -/
def Looked.rested_since (looked : Looked) : Option OffsetDateTime :=
  if looked.failed_at.isSome then none else looked.attempted_at

theorem Looked.rested_since_look {looked : Looked} {last : OffsetDateTime}
    (h : looked.rested_since = some last) (now : OffsetDateTime) :
    ({ looked with attempted_at := some now } : Looked).rested_since = some now := by
  unfold Looked.rested_since at h ⊢
  split at h
  · cases h
  · next hfailed => exact if_neg hfailed

theorem Looked.due_iff {looked : Looked} {now last : OffsetDateTime}
    (hlast : looked.attempted_at = some last) : looked.due now = true ↔
      last + (if looked.failed_at.isSome then Duration.minutes 30 else Duration.hours 24) ≤ now := by
  rw [Looked.due, hlast, Option.all_some, decide_eq_true_eq, le_sub_iff_add_le]

/-- What the service remembers of its looks at the profiles of contacts and groups. Nothing
has been seen yet of a contact that is not on record, and a group stands under its channel
and its own id. -/
structure ProfileBook where
  contacts : String → Looked
  groups : String → Option OffsetDateTime

/-- What happens to it: a contact is enriched (from a look at its profile or without one) and
its record copied to its other ids, a look at it begins or fails, a look at a group begins
(because it is due, or because the group has changed), and a restart loses some entries. -/
inductive ProfileOp where
  | enrich (contact_id : String) (aliases : List String) (looked_up : Bool)
  | look_up (contact_id : String)
  | fail (contact_id : String)
  | refresh (key : String) (force : Bool)
  | restart (contact_ids keys : List String)
  deriving DecidableEq

namespace ProfileOp

/-- Whether the entry of a contact is lost: it goes at a restart, or the record of another
contact of which nothing new has been seen is copied over it. -/
def loses_contact : ProfileOp → String → Prop
  | .enrich _ aliases looked_up, contact_id => looked_up = false ∧ contact_id ∈ aliases
  | .restart contact_ids _, contact_id => contact_id ∈ contact_ids
  | _, _ => False

def loses_group : ProfileOp → String → Prop
  | .restart _ keys, key => key ∈ keys
  | _, _ => False

/-- The profile of a contact has been seen, under this or another of its ids. -/
def succeeds (contact_id : String) : ProfileOp → Prop
  | .enrich id aliases looked_up => looked_up = true ∧ contact_id ∈ id :: aliases
  | _ => False

/-- The beginning or the end of a look at the profile of a contact. -/
def is_look (contact_id : String) : ProfileOp → Prop
  | .look_up id => id = contact_id
  | .fail id => id = contact_id
  | op => op.succeeds contact_id

end ProfileOp

namespace ProfileBook

variable (book : ProfileBook)

def enter (contact_ids : List String) (looked : Looked) : ProfileBook :=
  { book with contacts := fun contact_id =>
      if contact_id ∈ contact_ids then looked else book.contacts contact_id }

def enter_group (key : String) (now : OffsetDateTime) : ProfileBook :=
  { book with groups := fun group => if group = key then some now else book.groups group }

inductive Step : ProfileBook → OffsetDateTime × ProfileOp → ProfileBook → Prop
  | enrich {book : ProfileBook} {now : OffsetDateTime} (contact_id : String) (aliases : List String)
      (looked_up : Bool) :
      Step book (now, .enrich contact_id aliases looked_up) (book.enter (contact_id :: aliases)
        (if looked_up then { attempted_at := some now } else book.contacts contact_id))
  | look_up {book : ProfileBook} {now : OffsetDateTime} {contact_id : String}
      (hdue : (book.contacts contact_id).due now = true) :
      Step book (now, .look_up contact_id)
        (book.enter [contact_id] { book.contacts contact_id with attempted_at := some now })
  | fail {book : ProfileBook} {now : OffsetDateTime} (contact_id : String) :
      Step book (now, .fail contact_id)
        (book.enter [contact_id] { attempted_at := some now, failed_at := some now })
  | refresh {book : ProfileBook} {now : OffsetDateTime} {key : String} {force : Bool}
      (hdue : force = false → ∀ last, book.groups key = some last → last ≤ now - Duration.minutes 5) :
      Step book (now, .refresh key force) (book.enter_group key now)
  | restart {book book' : ProfileBook} {now : OffsetDateTime} {contact_ids keys : List String}
      (hcontacts : ∀ contact_id, contact_id ∉ contact_ids →
        book'.contacts contact_id = book.contacts contact_id)
      (hgroups : ∀ key, key ∉ keys → book'.groups key = book.groups key) :
      Step book (now, .restart contact_ids keys) book'

/-- Looks at the profile of a contact. -/
def contact_throttle : Throttle ProfileBook (OffsetDateTime × ProfileOp) String OffsetDateTime where
  step := Step
  time := Prod.fst
  last book contact_id := (book.contacts contact_id).attempted_at
  marks label contact_id := label.2.is_look contact_id
  waits label contact_id := label.2 = .look_up contact_id
  forgets label contact_id := label.2.loses_contact contact_id

/-- Looks at the profile of a contact of which no look has failed since the last one that
did not. -/
def rest_throttle : Throttle ProfileBook (OffsetDateTime × ProfileOp) String OffsetDateTime where
  step := Step
  time := Prod.fst
  last book contact_id := (book.contacts contact_id).rested_since
  marks label contact_id := label.2.succeeds contact_id
  waits label contact_id := label.2 = .look_up contact_id
  forgets label contact_id := label.2.loses_contact contact_id ∨ label.2 = .fail contact_id

/-- Looks at the profile of a group. -/
def group_throttle : Throttle ProfileBook (OffsetDateTime × ProfileOp) String OffsetDateTime where
  step := Step
  time := Prod.fst
  last book key := book.groups key
  marks label key := ∃ force, label.2 = .refresh key force
  waits label key := label.2 = .refresh key false
  forgets label key := label.2.loses_group key

section Enter

variable {book : ProfileBook} {contact_ids : List String} {contact_id : String} {looked : Looked}

theorem enter_mem (h : contact_id ∈ contact_ids) :
    (book.enter contact_ids looked).contacts contact_id = looked := if_pos h

theorem enter_not_mem (h : contact_id ∉ contact_ids) :
    (book.enter contact_ids looked).contacts contact_id = book.contacts contact_id := if_neg h

/-- What is read off an entry changes with it where it is written, and stays elsewhere. -/
theorem enter_last (read : Looked → Option OffsetDateTime) {last now : OffsetDateTime}
    (hlast : read (book.contacts contact_id) = some last)
    (hentered : contact_id ∈ contact_ids → read looked = some last ∨ read looked = some now) :
    read ((book.enter contact_ids looked).contacts contact_id) = some last ∨
      read ((book.enter contact_ids looked).contacts contact_id) = some now := by
  by_cases hmem : contact_id ∈ contact_ids
  · rw [enter_mem hmem]
    exact hentered hmem
  · rw [enter_not_mem hmem]
    exact Or.inl hlast

end Enter

/-- A look comes at least half an hour after the last one. -/
theorem contact_throttle_kept : contact_throttle.Kept (Duration.minutes 30) where
  waited := by
    rintro book ⟨now, op⟩ book' contact_id last hstep rfl hlast
    cases hstep with
    | look_up hdue =>
      have hdue := (Looked.due_iff hlast).mp hdue
      have hhours : Duration.minutes 30 ≤ Duration.hours 24 := by decide
      refine le_trans (add_le_add_right ?_ last) hdue
      split
      · exact le_refl _
      · exact hhours
  marked := by
    rintro book ⟨now, op⟩ book' contact_id hstep hmarks
    cases hstep with
    | look_up hdue =>
      obtain rfl := hmarks
      simp [contact_throttle, enter_mem]
    | fail =>
      obtain rfl := hmarks
      simp [contact_throttle, enter_mem]
    | enrich =>
      obtain ⟨rfl, hmem⟩ := hmarks
      simp [contact_throttle, enter_mem hmem]
    | refresh | restart => cases hmarks
  remembered := by
    rintro book ⟨now, op⟩ book' contact_id last hstep hkept hlast
    cases hstep with
    | enrich id aliases looked_up =>
      refine enter_last Looked.attempted_at hlast fun hmem => ?_
      cases looked_up with
      | true => exact Or.inr rfl
      | false =>
        obtain rfl := (List.mem_cons.mp hmem).resolve_right fun halias => hkept ⟨rfl, halias⟩
        exact Or.inl hlast
    | look_up hdue => exact enter_last Looked.attempted_at hlast fun _ => Or.inr rfl
    | fail id => exact enter_last Looked.attempted_at hlast fun _ => Or.inr rfl
    | refresh hdue => exact Or.inl hlast
    | restart hcontacts hgroups =>
      left
      simpa [contact_throttle, hcontacts contact_id hkept] using hlast

/-- And it comes a day after the last one that told of the profile, if none has failed since. -/
theorem rest_throttle_kept : rest_throttle.Kept (Duration.hours 24) where
  waited := by
    rintro book ⟨now, op⟩ book' contact_id last hstep rfl hlast
    cases hstep with
    | look_up hdue =>
      simp only [rest_throttle, Looked.rested_since] at hlast
      split at hlast
      · cases hlast
      · next hfailed =>
        have hdue := (Looked.due_iff hlast).mp hdue
        rwa [if_neg hfailed] at hdue
  marked := by
    rintro book ⟨now, op⟩ book' contact_id hstep hmarks
    cases hstep with
    | enrich =>
      obtain ⟨rfl, hmem⟩ := hmarks
      simp [rest_throttle, enter_mem hmem, Looked.rested_since]
    | look_up | fail | refresh | restart => cases hmarks
  remembered := by
    rintro book ⟨now, op⟩ book' contact_id last hstep hkept hlast
    obtain ⟨hkept, hnot_failed⟩ := not_or.mp hkept
    cases hstep with
    | enrich id aliases looked_up =>
      refine enter_last Looked.rested_since hlast fun hmem => ?_
      cases looked_up with
      | true => exact Or.inr rfl
      | false =>
        obtain rfl := (List.mem_cons.mp hmem).resolve_right fun halias => hkept ⟨rfl, halias⟩
        exact Or.inl hlast
    | look_up hdue =>
      refine enter_last Looked.rested_since hlast fun hmem => Or.inr ?_
      obtain rfl := List.mem_singleton.mp hmem
      exact Looked.rested_since_look hlast now
    | fail id =>
      refine enter_last Looked.rested_since hlast fun hmem => ?_
      obtain rfl := List.mem_singleton.mp hmem
      exact absurd rfl hnot_failed
    | refresh hdue => exact Or.inl hlast
    | restart hcontacts hgroups =>
      left
      simpa [rest_throttle, hcontacts contact_id hkept] using hlast

/-- A look at a group that has not changed comes at least five minutes after the last one. -/
theorem group_throttle_kept : group_throttle.Kept (Duration.minutes 5) where
  waited := by
    rintro book ⟨now, op⟩ book' key last hstep rfl hlast
    cases hstep with
    | refresh hdue => exact le_sub_iff_add_le.mp (hdue rfl last hlast)
  marked := by
    rintro book ⟨now, op⟩ book' key hstep ⟨force, rfl⟩
    cases hstep with
    | refresh hdue => exact if_pos rfl
  remembered := by
    rintro book ⟨now, op⟩ book' key last hstep hkept hlast
    cases hstep with
    | refresh hdue =>
      simp only [group_throttle, enter_group]
      split
      · exact Or.inr rfl
      · exact Or.inl hlast
    | restart hcontacts hgroups =>
      left
      simpa [group_throttle, hgroups key hkept] using hlast
    | enrich | look_up | fail => exact Or.inl hlast

end ProfileBook

end rustzap.state
