import RustZap.Kafka.Codec
import RustZap.Lib.Fallible

open fallible serde_json
open rustzap.models

namespace time

structure Date where
  year : Int
  ordinal : Int
  deriving DecidableEq

structure Time where
  hour : Int
  minute : Int
  second : Int
  nanosecond : Int
  deriving DecidableEq

structure UtcOffset where
  hours : Int
  minutes : Int
  seconds : Int
  deriving DecidableEq

/-- A date and a time of day, and the offset of the place where they are read. -/
structure OffsetDateTime where
  date : Date
  time_of_day : Time
  offset : UtcOffset
  deriving DecidableEq

/-- The days before a year, from the first one on. -/
def days_before (year : Int) : Int :=
  let past := year - 1
  365 * past + past / 4 - past / 100 + past / 400

/-- The instant, in nanoseconds since the Unix epoch. -/
def OffsetDateTime.unix_timestamp_nanos (self : OffsetDateTime) : Int :=
  let days := days_before self.date.year - days_before 1970 + (self.date.ordinal - 1)
  let minutes := (days * 24 + self.time_of_day.hour) * 60 + self.time_of_day.minute
  let seconds := minutes * 60 + self.time_of_day.second
  let offset := (self.offset.hours * 60 + self.offset.minutes) * 60 + self.offset.seconds
  (seconds - offset) * 1000000000 + self.time_of_day.nanosecond

/-- RFC 3339 has four digits for the year, and no seconds in an offset, which is below a day. -/
def OffsetDateTime.Expressible (self : OffsetDateTime) : Prop :=
  0 ≤ self.date.year ∧ self.date.year ≤ 9999 ∧ -23 ≤ self.offset.hours ∧ self.offset.hours ≤ 23 ∧
    self.offset.seconds = 0

instance (self : OffsetDateTime) : Decidable self.Expressible :=
  inferInstanceAs (Decidable (_ ∧ _ ∧ _ ∧ _ ∧ _))

/-- What is used of the crate: the constructors, which check their arguments, and the texts of
RFC 3339. -/
structure Crate where
  from_ordinal_date : (year ordinal : Int) → Except String Date
  from_hms_nano : (hour minute second nanosecond : Int) → Except String Time
  from_hms : (hours minutes seconds : Int) → Except String UtcOffset
  format : OffsetDateTime → Except String String
  parse : String → Except String OffsetDateTime

/-- What the crate documents of one date and time. A constructor keeps what it is given, but for
the sign of an offset's minutes and seconds, which follows that of the hours. -/
structure Crate.Documented (crate : Crate) (value : OffsetDateTime) : Prop where
  dates : ∀ year ordinal, crate.from_ordinal_date year ordinal = .ok value.date → value.date.year = year
  offsets : ∀ hours minutes seconds, crate.from_hms hours minutes seconds = .ok value.offset →
    value.offset.hours = hours ∧ (value.offset.seconds = 0 ↔ seconds = 0)
  formats : (∃ text, crate.format value = .ok text) ↔ value.Expressible
  inverts : ∀ text, crate.format value = .ok text → crate.parse text = .ok value
  parses : ∀ text, crate.parse text = .ok value → value.Expressible

end time

namespace rustzap.persistence

open serde_time_compat (try_from)

variable (crate : time.Crate)

def to_rfc3339 (value : time.OffsetDateTime) : Except String String :=
  crate.format value

def legacy_array_to_offset_datetime : List Int → Except String time.OffsetDateTime
  | [year, ordinal, hour, minute, second, nanos, offset_hour, offset_minute, offset_second] => do
    let year ← try_from (-2 ^ 31) (2 ^ 31) "year out of range" year
    let ordinal ← try_from 0 (2 ^ 16) "ordinal out of range" ordinal
    let hour ← try_from 0 (2 ^ 8) "hour out of range" hour
    let minute ← try_from 0 (2 ^ 8) "minute out of range" minute
    let second ← try_from 0 (2 ^ 8) "second out of range" second
    let nanos ← try_from 0 (2 ^ 32) "nanoseconds out of range" nanos
    let offset_hour ← try_from (-2 ^ 7) (2 ^ 7) "offset hour out of range" offset_hour
    let offset_minute ← try_from (-2 ^ 7) (2 ^ 7) "offset minute out of range" offset_minute
    let offset_second ← try_from (-2 ^ 7) (2 ^ 7) "offset second out of range" offset_second
    let date ← crate.from_ordinal_date year ordinal
    let time_of_day ← crate.from_hms_nano hour minute second nanos
    let offset ← crate.from_hms offset_hour offset_minute offset_second
    .ok { date, time_of_day, offset }
  | parts => .error ("legacy OffsetDateTime array must have 9 values, got " ++ toString parts.length)

/-- A number of a legacy array. -/
def legacy_part (value : Value) : Except String Int :=
  value.as_i64.elim (.error "legacy OffsetDateTime array contains non-integer") .ok

def from_json_value : Value → Except String time.OffsetDateTime
  | .string value => crate.parse value
  | .array values => do
    let parts ← values.mapM legacy_part
    legacy_array_to_offset_datetime crate parts
  | _ => .error "expected RFC3339 string or legacy OffsetDateTime array"

/-- The same as the codec of events has it, which keeps of a time the instant only. -/
def codec (format : OffsetDateTime → Except String String) : serde_time_compat.TimeCodec where
  format
  parse text := (crate.parse text).map time.OffsetDateTime.unix_timestamp_nanos
  assume_offset year ordinal hour minute second nanos offset_hour offset_minute offset_second := do
    let date ← crate.from_ordinal_date year ordinal
    let time_of_day ← crate.from_hms_nano hour minute second nanos
    let offset ← crate.from_hms offset_hour offset_minute offset_second
    .ok (time.OffsetDateTime.unix_timestamp_nanos { date, time_of_day, offset })

theorem legacy_array_instant (format : OffsetDateTime → Except String String) (parts : List Int) :
    serde_time_compat.legacy_array_to_offset_datetime (codec crate format) parts =
      (legacy_array_to_offset_datetime crate parts).map time.OffsetDateTime.unix_timestamp_nanos := by
  unfold serde_time_compat.legacy_array_to_offset_datetime
  split
  · unfold legacy_array_to_offset_datetime
    iterate 9 refine bind_eq_map fun _ => ?_
    iterate 3 refine bind_eq_map fun _ => ?_
    rfl
  · next hother =>
    have hrefused : legacy_array_to_offset_datetime crate parts =
        .error ("legacy OffsetDateTime array must have 9 values, got " ++ toString parts.length) := by
      unfold legacy_array_to_offset_datetime
      split
      · exact (hother _ _ _ _ _ _ _ _ _ rfl).elim
      · rfl
    rw [hrefused]
    rfl

/-- Both readers of a JSON value accept the same, and agree on the instant. -/
theorem from_json_value_instant (format : OffsetDateTime → Except String String) (v : Value) :
    serde_time_compat.from_json_value (codec crate format) v =
      (from_json_value crate v).map time.OffsetDateTime.unix_timestamp_nanos := by
  cases v with
  | string text => rfl
  | array values => exact bind_eq_map fun parts => legacy_array_instant crate format parts
  | _ => rfl

/-- The time can be written, and what is written is read as the same instant. -/
def WritesBack (value : time.OffsetDateTime) : Prop :=
  ∃ text, to_rfc3339 crate value = .ok text ∧
    ∃ reread, from_json_value crate (.string text) = .ok reread ∧
      reread.unix_timestamp_nanos = value.unix_timestamp_nanos

/-- A legacy array has a year of four digits, and an offset below a day and without seconds. -/
def Rewritable : Value → Prop
  | .array [.number year, _, _, _, _, _, .number offset_hour, _, .number offset_second] =>
    0 ≤ year ∧ year ≤ 9999 ∧ -23 ≤ offset_hour ∧ offset_hour ≤ 23 ∧ offset_second = 0
  | _ => True

section Accepted

variable {crate : time.Crate} {value : time.OffsetDateTime}

theorem try_from_eq_ok {low high part narrowed : Int} {complaint : String}
    (h : try_from low high complaint part = .ok narrowed) : narrowed = part := by
  rw [try_from] at h
  split at h
  · cases h
    rfl
  · cases h

/-- An accepted array has nine parts, of which the first makes the year, and the last three make
the offset. -/
theorem legacy_array_accepted {parts : List Int}
    (h : legacy_array_to_offset_datetime crate parts = .ok value) :
    ∃ year ordinal hour minute second nanos offset_hour offset_minute offset_second,
      parts = [year, ordinal, hour, minute, second, nanos, offset_hour, offset_minute, offset_second] ∧
      crate.from_ordinal_date year ordinal = .ok value.date ∧
      crate.from_hms offset_hour offset_minute offset_second = .ok value.offset := by
  unfold legacy_array_to_offset_datetime at h
  split at h
  · next year ordinal hour minute second nanos offset_hour offset_minute offset_second =>
    obtain ⟨_, hyear, h⟩ := bind_eq_ok_iff.mp h
    obtain ⟨_, hordinal, h⟩ := bind_eq_ok_iff.mp h
    obtain ⟨_, -, h⟩ := bind_eq_ok_iff.mp h
    obtain ⟨_, -, h⟩ := bind_eq_ok_iff.mp h
    obtain ⟨_, -, h⟩ := bind_eq_ok_iff.mp h
    obtain ⟨_, -, h⟩ := bind_eq_ok_iff.mp h
    obtain ⟨_, hhour, h⟩ := bind_eq_ok_iff.mp h
    obtain ⟨_, hminute, h⟩ := bind_eq_ok_iff.mp h
    obtain ⟨_, hsecond, h⟩ := bind_eq_ok_iff.mp h
    obtain ⟨date, hdate, h⟩ := bind_eq_ok_iff.mp h
    obtain ⟨_, -, h⟩ := bind_eq_ok_iff.mp h
    obtain ⟨offset, hoffset, h⟩ := bind_eq_ok_iff.mp h
    cases h
    rw [try_from_eq_ok hyear, try_from_eq_ok hordinal] at hdate
    rw [try_from_eq_ok hhour, try_from_eq_ok hminute, try_from_eq_ok hsecond] at hoffset
    exact ⟨_, _, _, _, _, _, _, _, _, rfl, hdate, hoffset⟩
  · cases h

theorem legacy_part_eq_ok {v : Value} {part : Int} (h : legacy_part v = .ok part) : v = .number part := by
  rw [legacy_part] at h
  cases hread : v.as_i64 with
  | none =>
    rw [hread] at h
    cases h
  | some n =>
    rw [hread] at h
    cases h
    cases v with
    | number n =>
      rw [Value.as_i64] at hread
      exact congrArg Value.number (Option.some.inj (Option.ite_none_right_eq_some.mp hread).2)
    | _ => cases hread

/-- A time that was accepted can be expressed in RFC 3339 if and only if what it was read from says so. -/
theorem expressible_iff_rewritable {v : Value} (hcrate : crate.Documented value)
    (h : from_json_value crate v = .ok value) : value.Expressible ↔ Rewritable v := by
  cases v with
  | string text => exact iff_of_true (hcrate.parses text h) trivial
  | array values =>
    obtain ⟨parts, hparts, hlegacy⟩ := bind_eq_ok_iff.mp h
    obtain ⟨year, ordinal, hour, minute, second, nanos, offset_hour, offset_minute, offset_second, rfl, hdate,
      hoffset⟩ := legacy_array_accepted hlegacy
    have hvalues : values = [year, ordinal, hour, minute, second, nanos, offset_hour, offset_minute,
        offset_second].map Value.number := by
      have hforall := (mapM_eq_ok_iff.mp hparts).imp fun _ _ => legacy_part_eq_ok
      exact List.forall₂_eq_eq_eq.symm ▸ (List.forall₂_map_right_iff.mpr hforall)
    obtain ⟨hhours, hseconds⟩ := hcrate.offsets _ _ _ hoffset
    rw [hvalues, time.OffsetDateTime.Expressible, hcrate.dates _ _ hdate, hhours, hseconds]
    rfl
  | _ => cases h

/-- A time that was accepted can be written, and read as the same instant, if and only if it did not
come from a legacy array with a year, an hour or a second that RFC 3339 cannot express. -/
theorem accepted_time_writes_back_iff {v : Value} (hcrate : crate.Documented value)
    (h : from_json_value crate v = .ok value) : WritesBack crate value ↔ Rewritable v := by
  rw [← expressible_iff_rewritable hcrate h, ← hcrate.formats]
  constructor
  · rintro ⟨text, hformat, -⟩
    exact ⟨text, hformat⟩
  · rintro ⟨text, hformat⟩
    exact ⟨text, hformat, value, hcrate.inverts text hformat, rfl⟩

/-- All the times of a snapshot are written, or the snapshot is not: it is if and only if each of them
was read from something that can be expressed. -/
theorem snapshot_times_written_iff {vs : List Value} {times : List time.OffsetDateTime}
    (hcrate : ∀ value ∈ times, crate.Documented value) (h : vs.mapM (from_json_value crate) = .ok times) :
    (∃ texts, times.mapM (to_rfc3339 crate) = .ok texts) ↔ ∀ v ∈ vs, Rewritable v := by
  have hloaded := mapM_eq_ok_iff.mp h
  rw [mapM_succeeds_iff]
  induction hloaded with
  | nil => exact iff_of_true (fun item hitem => by cases hitem) (fun v hv => by cases hv)
  | @cons v value vs times hvalue hrest ih =>
    rw [List.forall_mem_cons] at hcrate
    have hwritten := hcrate.1.formats.trans (expressible_iff_rewritable hcrate.1 hvalue)
    rw [List.forall_mem_cons, List.forall_mem_cons]
    exact and_congr hwritten (ih hcrate.2 (mapM_eq_ok_iff.mpr hrest))

end Accepted

namespace sample

/-- Half past twelve on a day in May, in UTC. -/
def loaded : time.OffsetDateTime where
  date := { year := 2026, ordinal := 133 }
  time_of_day := { hour := 12, minute := 30, second := 0, nanosecond := 0 }
  offset := { hours := 0, minutes := 0, seconds := 0 }

/-- The same reading of a clock, in a place that is half a minute ahead of UTC. -/
def ahead : time.OffsetDateTime :=
  { loaded with offset := { hours := 0, minutes := 0, seconds := 30 } }

def legacy_array (value : time.OffsetDateTime) : Value :=
  .array ([value.date.year, value.date.ordinal, value.time_of_day.hour, value.time_of_day.minute,
    value.time_of_day.second, value.time_of_day.nanosecond, value.offset.hours, value.offset.minutes,
    value.offset.seconds].map Value.number)

def year_length (year : Int) : Int :=
  if year % 4 = 0 ∧ (year % 100 ≠ 0 ∨ year % 400 = 0) then 366 else 365

/-- A part of an offset with the sign of the larger part. -/
def follow (sign part : Int) : Int :=
  if sign * part < 0 then -part else part

theorem follow_eq_zero_iff (sign part : Int) : follow sign part = 0 ↔ part = 0 := by
  rw [follow]
  split
  · exact Int.neg_eq_zero
  · exact Iff.rfl

/-- The crate, with the ranges of its constructors, and the text of one time. -/
def time_crate : time.Crate where
  from_ordinal_date year ordinal :=
    if -9999 ≤ year ∧ year ≤ 9999 ∧ 1 ≤ ordinal ∧ ordinal ≤ year_length year then .ok { year, ordinal }
    else .error "ordinal must be in the range of the year"
  from_hms_nano hour minute second nanosecond :=
    if 0 ≤ hour ∧ hour < 24 ∧ 0 ≤ minute ∧ minute < 60 ∧ 0 ≤ second ∧ second < 60 ∧ 0 ≤ nanosecond ∧
        nanosecond < 1000000000 then .ok { hour, minute, second, nanosecond }
    else .error "time must be in range"
  from_hms hours minutes seconds :=
    if -25 ≤ hours ∧ hours ≤ 25 ∧ -59 ≤ minutes ∧ minutes ≤ 59 ∧ -59 ≤ seconds ∧ seconds ≤ 59 then
      .ok {
        hours
        minutes := follow hours minutes
        seconds := follow (if hours = 0 then minutes else hours) seconds }
    else .error "offset must be in range"
  format value :=
    if value = loaded then .ok "2026-05-13T12:30:00Z"
    else .error "The component cannot be formatted into the requested format."
  parse text :=
    if text = "2026-05-13T12:30:00Z" then .ok loaded else .error "the component could not be parsed"

theorem time_crate_documented {value : time.OffsetDateTime} (h : value = loaded ∨ ¬ value.Expressible) :
    time_crate.Documented value := by
  have hexpressible : loaded.Expressible := by decide
  constructor
  case dates =>
    intro year ordinal hdate
    unfold time_crate at hdate
    dsimp only at hdate
    split at hdate
    · exact (congrArg time.Date.year (Except.ok.inj hdate)).symm
    · cases hdate
  case offsets =>
    intro hours minutes seconds hoffset
    unfold time_crate at hoffset
    dsimp only at hoffset
    split at hoffset
    · have hoffset := Except.ok.inj hoffset
      have hseconds := congrArg time.UtcOffset.seconds hoffset
      refine ⟨(congrArg time.UtcOffset.hours hoffset).symm, ?_⟩
      rw [← hseconds]
      exact follow_eq_zero_iff _ _
    · cases hoffset
  case formats =>
    rcases h with rfl | hnot
    · have hformat : time_crate.format loaded = .ok "2026-05-13T12:30:00Z" := by decide
      exact iff_of_true ⟨_, hformat⟩ hexpressible
    · refine iff_of_false ?_ hnot
      rintro ⟨text, hformat⟩
      unfold time_crate at hformat
      dsimp only at hformat
      split at hformat
      · next heq => exact hnot (heq ▸ hexpressible)
      · cases hformat
  case inverts =>
    intro text hformat
    unfold time_crate at hformat ⊢
    dsimp only at hformat ⊢
    split at hformat
    · next heq =>
      cases hformat
      rw [if_pos rfl, heq]
    · cases hformat
  case parses =>
    intro text hparse
    unfold time_crate at hparse
    dsimp only at hparse
    split at hparse
    · exact Except.ok.inj hparse ▸ hexpressible
    · cases hparse

end sample

/-- A time of day in UTC is loaded from its array, and written again. -/
theorem legacy_time_writes_back : WritesBack sample.time_crate sample.loaded :=
  (accepted_time_writes_back_iff (sample.time_crate_documented (Or.inl rfl))
    (show from_json_value sample.time_crate (sample.legacy_array sample.loaded) = .ok sample.loaded by
      decide)).mpr ⟨by decide, by decide, by decide, by decide, rfl⟩

/-- An array with seconds in its offset is loaded, and can never be written again. -/
theorem offset_seconds_not_written : ∃ v value, sample.time_crate.Documented value ∧
    from_json_value sample.time_crate v = .ok value ∧ ¬ WritesBack sample.time_crate value := by
  have hnot : ¬ sample.ahead.Expressible := by decide
  refine ⟨sample.legacy_array sample.ahead, sample.ahead, sample.time_crate_documented (Or.inr hnot),
    by decide, ?_⟩
  rintro ⟨text, hformat, -⟩
  exact hnot ((sample.time_crate_documented (Or.inr hnot)).formats.mp ⟨text, hformat⟩)

end rustzap.persistence
