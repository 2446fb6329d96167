import RustZap.State.Retention
import RustZap.State.Webhooks

open collections serde_json
open rustzap.error rustzap.media rustzap.state

namespace rustzap

/-- The times that the crate represents, fewer than an `i64` counts seconds. -/
structure DateRange where
  earliest : OffsetDateTime
  latest : OffsetDateTime
  bounded : latest - earliest < Duration.seconds (2 ^ 63 - 1)

namespace DateRange

variable (range : DateRange)

/-- A time that the clock can show. -/
abbrev Now : Type :=
  { now : OffsetDateTime // range.earliest ≤ now ∧ now ≤ range.latest }

/-- The result of an operation on times, which panics where it cannot be represented. -/
def checked (time : OffsetDateTime) : Option OffsetDateTime :=
  if range.earliest ≤ time ∧ time ≤ range.latest then some time else none

end DateRange

/-- `Duration::days` panics where an `i64` does not hold the seconds. -/
def Duration.checked_days (n : Nat) : Option Int :=
  if n * 86400 < 2 ^ 63 then some (Duration.days n) else none

namespace machine

/-- `retention_cutoff` with the panics of its operations. -/
def retention_cutoff (range : DateRange) (now : OffsetDateTime) : Option Nat → Option (Option OffsetDateTime)
  | none => some none
  | some days => do
    let duration ← Duration.checked_days (min days (2 ^ 63 - 1))
    let cutoff ← range.checked (now - duration)
    return some cutoff

/-- The retention of one company. A cutoff that panics takes the worker with it. -/
def apply_company_retention (range : DateRange) (now : OffsetDateTime) (inner : StoreInner)
    (project_id company_id : String) (policy : CompanyPrivacyPolicy) (deleted : String → Bool) :
    Option StoreInner := do
  let _ ← retention_cutoff range now policy.message_retention_days
  let _ ← retention_cutoff range now policy.transcript_retention_days
  let _ ← retention_cutoff range now policy.media_temp_retention_days
  return state.apply_company_retention now inner project_id company_id policy deleted

/-- The companies' retention in one pass of the worker, without the audit entries. -/
def apply_retention (range : DateRange) (now : OffsetDateTime) (deleted : String → Bool)
    (companies : List ((String × String) × Value)) (inner : StoreInner) : Option StoreInner :=
  companies.foldlM (fun inner company =>
    apply_company_retention range now inner company.1.1 company.1.2 (company_privacy_policy company.2)
      deleted) inner

/-- `classify` as a build has it that checks for overflows, and one that does not. -/
def classify (overflow_checks : Bool) (limits : MediaLimits) (size_bytes : Nat) : Option MediaDecision :=
  if overflow_checks && (2 ^ 64 ≤ limits.quick_delete_threshold_mb * 1024 * 1024 ||
      2 ^ 64 ≤ limits.reject_threshold_mb * 1024 * 1024) then none
  else some (limits.classify size_bytes)

def next_webhook_retry_at (range : DateRange) (now : OffsetDateTime)
    (attempt retry_base_seconds retry_max_seconds : Nat) : Option OffsetDateTime :=
  range.checked (state.next_webhook_retry_at now attempt retry_base_seconds retry_max_seconds)

end machine

namespace routes

def checked_mul (a b : Nat) : Option Nat :=
  if a * b < 2 ^ 64 then some (a * b) else none

/-- A `usize` has 64 bits, and holds the product if a `u64` does. -/
def media_reject_limit_bytes (limit_mb : Nat) : ApiResult Nat :=
  ((checked_mul limit_mb 1024).bind fun value => checked_mul value 1024).elim
    (.error (.Internal "media reject threshold is too large")) .ok

end routes

namespace machine

/-- The comparison with the thresholds themselves. -/
def exact_decision (limits : MediaLimits) (size_bytes : Nat) : MediaDecision :=
  if size_bytes > limits.reject_threshold_mb * 1024 * 1024 then .Rejected
  else if size_bytes > limits.quick_delete_threshold_mb * 1024 * 1024 then .Quarantine
  else .Temp

/-- The numbers of days that a company's policy sets, as the retention reads them. -/
def retention_days (policy : CompanyPrivacyPolicy) : List Nat :=
  policy.message_retention_days.toList ++ policy.transcript_retention_days.toList ++
    policy.media_temp_retention_days.toList

/-- The longest delay that the back-off asks for at an attempt. -/
def backoff (attempt retry_base_seconds : Nat) : Nat :=
  retry_base_seconds * 2 ^ min (attempt - 1) 16

/-- Nothing overflows, and what is computed is what the numbers say: a cutoff is the time of so many
days ago, or the first one that there is, sizes are compared with the thresholds, by the upload
as well, and a retry comes between now and the end of the longest delay. -/
structure ArithmeticSound (range : DateRange) (now : range.Now) (company : Value) (limits : MediaLimits)
    (attempt retry_base_seconds retry_max_seconds : Nat) : Prop where
  cutoffs : ∀ days ∈ retention_days (company_privacy_policy company),
    ∃ cutoff, retention_cutoff range now.1 (some days) = some (some cutoff) ∧ cutoff ≤ now.1 ∧
      cutoff = max range.earliest (now.1 - Duration.days days)
  classify : ∀ overflow_checks size_bytes,
    machine.classify overflow_checks limits size_bytes = some (exact_decision limits size_bytes)
  reject_limit : ∃ bytes, routes.media_reject_limit_bytes limits.reject_threshold_mb = .ok bytes ∧
    ∀ overflow_checks size_bytes,
      machine.classify overflow_checks limits size_bytes = some .Rejected ↔ size_bytes > bytes
  retry : ∃ time, next_webhook_retry_at range now.1 attempt retry_base_seconds retry_max_seconds = some time ∧
    now.1 ≤ time ∧ time ≤ now.1 + Duration.seconds retry_max_seconds

/-- The numbers are such that the times that are asked for can be represented, and the products too. -/
structure InRange (range : DateRange) (now : range.Now) (company : Value) (limits : MediaLimits)
    (attempt retry_base_seconds retry_max_seconds : Nat) : Prop where
  days : ∀ days ∈ retention_days (company_privacy_policy company), range.earliest ≤ now.1 - Duration.days days
  quick : limits.quick_delete_threshold_mb < 2 ^ 44
  reject : limits.reject_threshold_mb < 2 ^ 44
  retry : now.1 + Duration.seconds (min (backoff attempt retry_base_seconds) retry_max_seconds : Nat) ≤
    range.latest
  positive : retry_max_seconds ≠ 0 ∨ retry_base_seconds = 0

section Arithmetic

variable {range : DateRange} {now : range.Now} {limits : MediaLimits}

theorem seconds_days (n : Int) : Duration.days n = n * 86400 * 1000000000 := by
  rw [Duration.days, Duration.hours, Duration.minutes, Duration.seconds]
  omega

theorem checked_eq_some_iff {time result : OffsetDateTime} : range.checked time = some result ↔
    range.earliest ≤ time ∧ time ≤ range.latest ∧ time = result := by
  rw [DateRange.checked, Option.ite_none_right_eq_some, Option.some_inj, and_assoc]

/-- The days are counted in full, unless there are too many for the crate. -/
theorem checked_days_eq_some_iff {days : Nat} {duration : Int} :
    Duration.checked_days (min days (2 ^ 63 - 1)) = some duration ↔
      days * 86400 < 2 ^ 63 ∧ Duration.days days = duration := by
  rw [Duration.checked_days, Option.ite_none_right_eq_some, Option.some_inj]
  constructor
  · rintro ⟨hfits, hduration⟩
    have hdays : min days (2 ^ 63 - 1) = days := by omega
    rw [hdays] at hfits hduration
    exact ⟨hfits, hduration⟩
  · rintro ⟨hfits, hduration⟩
    have hdays : min days (2 ^ 63 - 1) = days := by omega
    rw [hdays]
    exact ⟨hfits, hduration⟩

theorem retention_cutoff_eq_some_iff {now : OffsetDateTime} {days : Nat} {cutoff : Option OffsetDateTime} :
    retention_cutoff range now (some days) = some cutoff ↔ days * 86400 < 2 ^ 63 ∧
      range.earliest ≤ now - Duration.days days ∧ now - Duration.days days ≤ range.latest ∧
      some (now - Duration.days days) = cutoff := by
  rw [retention_cutoff, Option.bind_eq_bind, Option.bind_eq_some_iff]
  constructor
  · rintro ⟨duration, hduration, hbind⟩
    obtain ⟨hfits, rfl⟩ := checked_days_eq_some_iff.mp hduration
    rw [Option.bind_eq_some_iff] at hbind
    obtain ⟨time, htime, hcutoff⟩ := hbind
    obtain ⟨hearliest, hlatest, rfl⟩ := checked_eq_some_iff.mp htime
    exact ⟨hfits, hearliest, hlatest, Option.some_inj.mp hcutoff⟩
  · rintro ⟨hfits, hearliest, hlatest, rfl⟩
    refine ⟨_, checked_days_eq_some_iff.mpr ⟨hfits, rfl⟩, ?_⟩
    rw [Option.bind_eq_some_iff]
    exact ⟨_, checked_eq_some_iff.mpr ⟨hearliest, hlatest, rfl⟩, rfl⟩

/-- Where so many days ago is a time, it lies before now and its seconds fit. -/
theorem days_fit {earliest latest now : Int} {days : Nat}
    (hbounded : latest - earliest < Duration.seconds (2 ^ 63 - 1)) (hnow : now ≤ latest)
    (hdays : earliest ≤ now - Duration.days days) :
    days * 86400 < 2 ^ 63 ∧ now - Duration.days days ≤ now := by
  rw [seconds_days] at hdays ⊢
  rw [Duration.seconds] at hbounded
  omega

/-- So many days ago is a time, and then it is the cutoff. -/
theorem retention_cutoff_sound_iff {days : Nat} :
    (∃ cutoff, retention_cutoff range now.1 (some days) = some (some cutoff) ∧ cutoff ≤ now.1 ∧
      cutoff = max range.earliest (now.1 - Duration.days days)) ↔
      range.earliest ≤ now.1 - Duration.days days := by
  obtain ⟨now, hearliest_now, hnow_latest⟩ := now
  constructor
  · rintro ⟨cutoff, hcutoff, -⟩
    exact (retention_cutoff_eq_some_iff.mp hcutoff).2.1
  · intro hearliest
    obtain ⟨hfits, hnow⟩ := days_fit range.bounded hnow_latest hearliest
    have hcutoff := retention_cutoff_eq_some_iff.mpr ⟨hfits, hearliest, hnow.trans hnow_latest, rfl⟩
    exact ⟨_, hcutoff, hnow, (max_eq_right hearliest).symm⟩

/-- What is returned is the cutoff of the model without panics. -/
theorem retention_cutoff_agrees {now : OffsetDateTime} {days : Option Nat} {cutoff : Option OffsetDateTime}
    (hcutoff : retention_cutoff range now days = some cutoff) : cutoff = state.retention_cutoff now days := by
  cases days with
  | none => exact (Option.some_inj.mp hcutoff).symm
  | some days =>
    obtain ⟨hfits, -, -, rfl⟩ := retention_cutoff_eq_some_iff.mp hcutoff
    have hdays : min days (2 ^ 63 - 1) = days := by omega
    rw [state.retention_cutoff, Option.map_some, hdays]

theorem retention_cutoff_returns_iff {setting : Option Nat} :
    (∃ cutoff, retention_cutoff range now.1 setting = some cutoff) ↔
      ∀ days ∈ setting.toList, range.earliest ≤ now.1 - Duration.days days := by
  cases setting with
  | none => exact ⟨fun _ _ hmem => absurd hmem List.not_mem_nil, fun _ => ⟨none, rfl⟩⟩
  | some days =>
    rw [Option.toList_some, List.forall_mem_singleton]
    constructor
    · rintro ⟨cutoff, hcutoff⟩
      obtain ⟨-, hearliest, -⟩ := retention_cutoff_eq_some_iff.mp hcutoff
      exact hearliest
    · intro hearliest
      obtain ⟨cutoff, hcutoff, -⟩ := retention_cutoff_sound_iff.mpr hearliest
      exact ⟨some cutoff, hcutoff⟩

theorem apply_company_retention_returns_iff {inner : StoreInner} {project_id company_id : String}
    {policy : CompanyPrivacyPolicy} {deleted : String → Bool} :
    (∃ inner', apply_company_retention range now.1 inner project_id company_id policy deleted = some inner') ↔
      ∀ days ∈ retention_days policy, range.earliest ≤ now.1 - Duration.days days := by
  simp only [retention_days, List.forall_mem_append, ← retention_cutoff_returns_iff,
    apply_company_retention, Option.bind_eq_bind, Option.bind_eq_some_iff]
  constructor
  · rintro ⟨inner', _, hmessage, _, htranscript, _, hmedia_temp, -⟩
    exact ⟨⟨⟨_, hmessage⟩, _, htranscript⟩, _, hmedia_temp⟩
  · rintro ⟨⟨⟨_, hmessage⟩, _, htranscript⟩, _, hmedia_temp⟩
    exact ⟨_, _, hmessage, _, htranscript, _, hmedia_temp, rfl⟩

/-- The pass gets to its end only if every company's days are within range, so one company's
stop the retention of all. -/
theorem retention_pass_iff {deleted : String → Bool} {companies : List ((String × String) × Value)}
    {inner : StoreInner} : (∃ inner', apply_retention range now.1 deleted companies inner = some inner') ↔
      ∀ company ∈ companies, ∀ days ∈ retention_days (company_privacy_policy company.2),
        range.earliest ≤ now.1 - Duration.days days := by
  induction companies generalizing inner with
  | nil => exact ⟨fun _ _ hmem => absurd hmem List.not_mem_nil, fun _ => ⟨inner, rfl⟩⟩
  | cons company companies ih =>
    rw [List.forall_mem_cons, apply_retention, List.foldlM_cons]
    constructor
    · rintro ⟨inner', hpass⟩
      obtain ⟨first, hfirst, hrest⟩ := Option.bind_eq_some_iff.mp hpass
      exact ⟨apply_company_retention_returns_iff.mp ⟨first, hfirst⟩, ih.mp ⟨inner', hrest⟩⟩
    · rintro ⟨hfirst, hrest⟩
      obtain ⟨first, hfirst⟩ := apply_company_retention_returns_iff.mpr hfirst
      obtain ⟨inner', hrest⟩ := ih.mpr hrest
      exact ⟨inner', Option.bind_eq_some_iff.mpr ⟨first, hfirst, hrest⟩⟩

theorem product_fits_iff {limit_mb : Nat} : limit_mb * 1024 * 1024 < 2 ^ 64 ↔ limit_mb < 2 ^ 44 := by
  omega

/-- A build that checks for overflows returns only if neither product is one, and then a build that
does not check agrees. -/
theorem classify_sound_iff :
    (∀ overflow_checks size_bytes,
      machine.classify overflow_checks limits size_bytes = some (exact_decision limits size_bytes)) ↔
      limits.quick_delete_threshold_mb < 2 ^ 44 ∧ limits.reject_threshold_mb < 2 ^ 44 := by
  constructor
  · intro hclassify
    have hchecked := hclassify true 0
    rw [machine.classify, Option.ite_none_left_eq_some] at hchecked
    have hfits := hchecked.1
    simp only [Bool.true_and, Bool.or_eq_true, decide_eq_true_eq, not_or, not_le] at hfits
    exact ⟨product_fits_iff.mp hfits.1, product_fits_iff.mp hfits.2⟩
  · rintro ⟨hquick, hreject⟩ overflow_checks size_bytes
    have hquick := product_fits_iff.mpr hquick
    have hreject := product_fits_iff.mpr hreject
    have hfits : ¬(overflow_checks && (2 ^ 64 ≤ limits.quick_delete_threshold_mb * 1024 * 1024 ||
        2 ^ 64 ≤ limits.reject_threshold_mb * 1024 * 1024)) = true := by
      simp only [Bool.and_eq_true, Bool.or_eq_true, decide_eq_true_eq, not_and, not_or, not_le]
      exact fun _ => ⟨hquick, hreject⟩
    rw [machine.classify, if_neg hfits, MediaLimits.classify, Nat.mod_eq_of_lt hquick,
      Nat.mod_eq_of_lt hreject, exact_decision]

theorem media_reject_limit_bytes_eq_ok_iff {limit_mb bytes : Nat} :
    routes.media_reject_limit_bytes limit_mb = .ok bytes ↔
      limit_mb < 2 ^ 44 ∧ bytes = limit_mb * 1024 * 1024 := by
  rw [routes.media_reject_limit_bytes, routes.checked_mul]
  split
  · rw [Option.bind_some, routes.checked_mul]
    split
    · rename_i hfits
      simp only [Option.elim_some, Except.ok.injEq]
      exact ⟨fun hbytes => ⟨product_fits_iff.mp hfits, hbytes.symm⟩, fun hbytes => hbytes.2.symm⟩
    · rename_i hfits
      simp only [Option.elim_none, reduceCtorEq, false_iff, not_and]
      exact fun hlimit => absurd (product_fits_iff.mpr hlimit) hfits
  · simp only [Option.bind_none, Option.elim_none, reduceCtorEq, false_iff, not_and]
    omega

theorem exact_decision_eq_rejected_iff {size_bytes : Nat} :
    exact_decision limits size_bytes = .Rejected ↔ size_bytes > limits.reject_threshold_mb * 1024 * 1024 := by
  rw [exact_decision]
  split_ifs with hreject hquick
  · simp only [hreject]
  · simp only [hreject]
  · simp only [hreject]

/-- The time of the retry as the exact product gives it. -/
theorem next_webhook_retry_at_eq {now : OffsetDateTime} {attempt retry_base_seconds retry_max_seconds : Nat} :
    state.next_webhook_retry_at now attempt retry_base_seconds retry_max_seconds =
      now + Duration.seconds (min (min (min (backoff attempt retry_base_seconds) (2 ^ 64 - 1))
        (max retry_max_seconds 1)) (2 ^ 63 - 1) : Nat) := rfl

theorem backoff_eq_zero_iff {attempt retry_base_seconds : Nat} :
    backoff attempt retry_base_seconds = 0 ↔ retry_base_seconds = 0 := by
  rw [backoff, Nat.mul_eq_zero]
  constructor
  · rintro (hbase | hpower)
    · exact hbase
    · exact absurd hpower (Nat.pow_pos (by decide)).ne'
  · exact Or.inl

/-- The retry is neither late nor unrepresentable where the maximum is not zero, which counts as one
second, or there is no delay. -/
theorem delay_in_range_iff {earliest latest now : Int} {delay retry_max_seconds : Nat}
    (hbounded : latest - earliest < Duration.seconds (2 ^ 63 - 1)) (hearliest : earliest ≤ now) :
    (now + Duration.seconds (min (min (min delay (2 ^ 64 - 1)) (max retry_max_seconds 1)) (2 ^ 63 - 1) : Nat) ≤
        latest ∧
      now + Duration.seconds (min (min (min delay (2 ^ 64 - 1)) (max retry_max_seconds 1)) (2 ^ 63 - 1) : Nat) ≤
        now + Duration.seconds retry_max_seconds) ↔
      now + Duration.seconds (min delay retry_max_seconds : Nat) ≤ latest ∧
        (retry_max_seconds ≠ 0 ∨ delay = 0) := by
  simp only [Duration.seconds] at hbounded ⊢
  omega

theorem le_add_seconds {now : Int} {delay : Nat} : now ≤ now + Duration.seconds delay := by
  rw [Duration.seconds]
  omega

theorem retry_sound_iff {attempt retry_base_seconds retry_max_seconds : Nat} :
    (∃ time, next_webhook_retry_at range now.1 attempt retry_base_seconds retry_max_seconds = some time ∧
      now.1 ≤ time ∧ time ≤ now.1 + Duration.seconds retry_max_seconds) ↔
      now.1 + Duration.seconds (min (backoff attempt retry_base_seconds) retry_max_seconds : Nat) ≤
        range.latest ∧ (retry_max_seconds ≠ 0 ∨ retry_base_seconds = 0) := by
  obtain ⟨now, hearliest, hlatest⟩ := now
  rw [← backoff_eq_zero_iff, ← delay_in_range_iff range.bounded hearliest]
  simp only [next_webhook_retry_at, next_webhook_retry_at_eq, checked_eq_some_iff]
  constructor
  · rintro ⟨time, ⟨-, hrepresented, rfl⟩, -, hmax⟩
    exact ⟨hrepresented, hmax⟩
  · rintro ⟨hrepresented, hmax⟩
    exact ⟨_, ⟨hearliest.trans le_add_seconds, hrepresented, rfl⟩, le_add_seconds, hmax⟩

/-- **The arithmetic of retention and sizes**: it is sound for the numbers whose times and products
can be represented, and panics, wraps or oversteps the maximum for all others. -/
theorem arithmetic_sound_iff (range : DateRange) (now : range.Now) (company : Value) (limits : MediaLimits)
    (attempt retry_base_seconds retry_max_seconds : Nat) :
    ArithmeticSound range now company limits attempt retry_base_seconds retry_max_seconds ↔
      InRange range now company limits attempt retry_base_seconds retry_max_seconds := by
  constructor
  · rintro ⟨hcutoffs, hclassify, hreject_limit, hretry⟩
    obtain ⟨hquick, hreject⟩ := classify_sound_iff.mp hclassify
    obtain ⟨hlatest, hpositive⟩ := retry_sound_iff.mp hretry
    have hdays := fun days hmem => retention_cutoff_sound_iff.mp (hcutoffs days hmem)
    exact ⟨hdays, hquick, hreject, hlatest, hpositive⟩
  · rintro ⟨hdays, hquick, hreject, hlatest, hpositive⟩
    have hcutoffs := fun days hmem => retention_cutoff_sound_iff.mpr (hdays days hmem)
    have hclassify := classify_sound_iff.mpr ⟨hquick, hreject⟩
    refine ⟨hcutoffs, hclassify, ?_, retry_sound_iff.mpr ⟨hlatest, hpositive⟩⟩
    refine ⟨_, media_reject_limit_bytes_eq_ok_iff.mpr ⟨hreject, rfl⟩, ?_⟩
    intro overflow_checks size_bytes
    rw [hclassify, Option.some_inj]
    exact exact_decision_eq_rejected_iff

end Arithmetic

namespace sample

/-- The years from -9999 to 9999. -/
def range : DateRange where
  earliest := Duration.seconds (-377705116800)
  latest := Duration.seconds 253402300800 - 1
  bounded := by decide

def now : range.Now := ⟨Duration.seconds 1750000000, by decide⟩

def company (message_retention_days : Nat) : Value :=
  .object [("privacy", .object [("message_retention_days", .number (.ofNat message_retention_days))])]

end sample

/-- Twelve thousand years of messages end before the first year, sixteen exbibytes are no
bytes at all, and a maximum of no seconds is one second. -/
theorem arithmetic_unsound :
    ¬ArithmeticSound sample.range sample.now (sample.company 4400000) ⟨25, 100⟩ 1 30 3600 ∧
    ¬ArithmeticSound sample.range sample.now (sample.company 365) ⟨25, 2 ^ 44⟩ 1 30 3600 ∧
    ¬ArithmeticSound sample.range sample.now (sample.company 365) ⟨25, 100⟩ 1 30 0 := by
  refine ⟨?_, ?_, ?_⟩
  · intro hsound
    have hdays : 4400000 ∈ retention_days (company_privacy_policy (sample.company 4400000)) := by decide +kernel
    exact absurd (retention_cutoff_sound_iff.mp (hsound.cutoffs _ hdays)) (by decide)
  · intro hsound
    exact absurd (classify_sound_iff.mp hsound.classify).2 (by decide)
  · intro hsound
    exact absurd (retry_sound_iff.mp hsound.retry).2 (by decide)

end machine

end rustzap
