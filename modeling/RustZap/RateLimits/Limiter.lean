import RustZap.Lib.HashMap
import RustZap.Lib.Runs
import Mathlib.Algebra.Group.Nat.Defs

open collections runs

namespace rustzap.rate_limit

structure RateLimitDecision where
  key : String
  retry_after_seconds : Nat

structure RateLimitBucket where
  window_minute : Nat
  count : Nat

structure RateLimiter where
  buckets : HashMap String RateLimitBucket := ∅

/-- What a check reads from the clock: the Unix time when it starts, and when it refuses. -/
structure Clock where
  unix_seconds : Nat
  refused_unix_seconds : Nat

def Clock.current_window_minute (clock : Clock) : Nat :=
  clock.unix_seconds / 60

def Clock.seconds_until_next_minute (clock : Clock) : Nat :=
  60 - clock.refused_unix_seconds % 60

namespace RateLimiter

/-- The first loop: the buckets of an earlier minute start anew, up to the first key that is
used up. -/
def first_used_up (window_minute max_per_minute : Nat) : List String → RateLimiter → Option String × RateLimiter
  | [], limiter => (none, limiter)
  | key :: keys, limiter =>
    match limiter.buckets.lookup key with
    | none => first_used_up window_minute max_per_minute keys limiter
    | some bucket =>
      let bucket := if bucket.window_minute ≠ window_minute then { window_minute, count := 0 } else bucket
      let limiter := { limiter with buckets := limiter.buckets.insert key bucket }
      if max_per_minute ≤ bucket.count then (some key, limiter)
      else first_used_up window_minute max_per_minute keys limiter

/-- The second loop. The counts are those of 32-bit arithmetic that stops at its end. -/
def count_all (window_minute : Nat) (keys : List String) (limiter : RateLimiter) : RateLimiter :=
  keys.foldl (fun limiter key =>
    let bucket := (limiter.buckets.lookup key).getD { window_minute, count := 0 }
    let bucket := { bucket with count := min (bucket.count + 1) (2 ^ 32 - 1) }
    { limiter with buckets := limiter.buckets.insert key bucket }) limiter

def check (limiter : RateLimiter) (clock : Clock) (keys : List String) (max_per_minute : Nat) :
    Except RateLimitDecision Unit × RateLimiter :=
  if max_per_minute = 0 then
    (.error { key := keys.head?.getD "global", retry_after_seconds := clock.seconds_until_next_minute }, limiter)
  else
    let window_minute := clock.current_window_minute
    match first_used_up window_minute max_per_minute keys limiter with
    | (some key, limiter) => (.error { key, retry_after_seconds := clock.seconds_until_next_minute }, limiter)
    | (none, limiter) => (.ok (), count_all window_minute keys limiter)

/-- How often a key has been counted in a minute. A bucket of another minute counts for nothing. -/
def counted (limiter : RateLimiter) (minute : Nat) (key : String) : Nat :=
  ((limiter.buckets.lookup key).filter fun bucket => bucket.window_minute = minute).elim 0 RateLimitBucket.count

section Loops

variable {minute max_per_minute : Nat} {limiter : RateLimiter}

theorem counted_of_lookup_none {key : String} (hnone : limiter.buckets.lookup key = none) :
    limiter.counted minute key = 0 := by
  rw [counted, hnone]
  rfl

theorem counted_of_lookup {key : String} {bucket : RateLimitBucket}
    (hbucket : limiter.buckets.lookup key = some bucket) :
    limiter.counted minute key = if bucket.window_minute = minute then bucket.count else 0 := by
  rw [counted, hbucket, Option.filter_some]
  by_cases hminute : bucket.window_minute = minute
  · rw [if_pos (decide_eq_true hminute), if_pos hminute]
    rfl
  · rw [if_neg (by simpa using hminute), if_neg hminute]
    rfl

theorem counted_insert (key query : String) (bucket : RateLimitBucket) :
    ({ limiter with buckets := limiter.buckets.insert key bucket } : RateLimiter).counted minute query =
      if query = key then (if bucket.window_minute = minute then bucket.count else 0)
      else limiter.counted minute query := by
  by_cases hquery : query = key
  · rw [if_pos hquery]
    refine counted_of_lookup ?_
    exact (HashMap.lookup_insert_ite ..).trans (if_pos hquery)
  · rw [if_neg hquery, counted, counted]
    exact congrArg (fun bucket => (Option.filter _ bucket).elim 0 _)
      ((HashMap.lookup_insert_ite ..).trans (if_neg hquery))

/-- A bucket that starts anew has counted nothing in the minute. -/
theorem counted_refreshed {key : String} {bucket : RateLimitBucket}
    (hbucket : limiter.buckets.lookup key = some bucket) :
    (if bucket.window_minute ≠ minute then { window_minute := minute, count := 0 } else bucket :
      RateLimitBucket) = ⟨minute, limiter.counted minute key⟩ := by
  rw [counted_of_lookup hbucket]
  by_cases hminute : bucket.window_minute = minute
  · rw [if_neg (not_not_intro hminute), if_pos hminute, ← hminute]
  · rw [if_pos hminute, if_neg hminute]

variable (minute max_per_minute) in
/-- The first loop changes no count of the minute. -/
theorem counted_first_used_up (keys : List String) : ∀ limiter : RateLimiter, ∀ query,
    (first_used_up minute max_per_minute keys limiter).2.counted minute query = limiter.counted minute query := by
  induction keys with
  | nil => exact fun _ _ => rfl
  | cons key keys ih =>
    intro limiter query
    rw [first_used_up]
    cases hbucket : limiter.buckets.lookup key with
    | none => exact ih limiter query
    | some bucket =>
      dsimp only
      rw [counted_refreshed hbucket]
      have hsame : ({ limiter with buckets := limiter.buckets.insert key ⟨minute, limiter.counted minute key⟩ } :
          RateLimiter).counted minute query = limiter.counted minute query := by
        rw [counted_insert]
        split
        · next hquery => rw [if_pos rfl, hquery]
        · rfl
      split
      · exact hsame
      · exact (ih _ query).trans hsame

/-- It finds nothing exactly when no key is used up. -/
theorem first_used_up_eq_none_iff (hpos : 0 < max_per_minute) (keys : List String) : ∀ limiter : RateLimiter,
    (first_used_up minute max_per_minute keys limiter).1 = none ↔
      ∀ key ∈ keys, limiter.counted minute key < max_per_minute := by
  induction keys with
  | nil => exact fun _ => iff_of_true rfl fun _ h => nomatch h
  | cons key keys ih =>
    intro limiter
    rw [first_used_up, List.forall_mem_cons]
    cases hbucket : limiter.buckets.lookup key with
    | none =>
      rw [counted_of_lookup_none hbucket, and_iff_right hpos]
      exact ih limiter
    | some bucket =>
      dsimp only
      rw [counted_refreshed hbucket]
      dsimp only
      split
      · next hused => exact iff_of_false nofun fun h => absurd h.1 (Nat.not_lt_of_le hused)
      · next hleft =>
        rw [ih, and_iff_right (Nat.lt_of_not_le hleft)]
        refine forall₂_congr fun query _ => ?_
        rw [counted_insert]
        split
        · next hquery => rw [if_pos rfl, hquery]
        · rfl

variable (minute max_per_minute) in
/-- A bucket is as it was or of this minute, and where all the keys have been gone through,
those of the keys are of this minute. -/
theorem lookup_first_used_up (keys : List String) : ∀ (limiter : RateLimiter) (query : String) bucket,
    (first_used_up minute max_per_minute keys limiter).2.buckets.lookup query = some bucket →
      bucket.window_minute = minute ∨ limiter.buckets.lookup query = some bucket ∧
        ((first_used_up minute max_per_minute keys limiter).1 = none → query ∉ keys) := by
  induction keys with
  | nil => exact fun _ _ _ hbucket => Or.inr ⟨hbucket, fun _ => List.not_mem_nil⟩
  | cons key keys ih =>
    intro limiter query bucket hlookup
    rw [first_used_up] at hlookup ⊢
    cases hold : limiter.buckets.lookup key with
    | none =>
      rw [hold] at hlookup
      refine (ih limiter query bucket hlookup).imp_right fun ⟨hkept, hkeys⟩ => ⟨hkept, fun hnone hmem => ?_⟩
      rcases List.mem_cons.mp hmem with rfl | hmem
      · rw [hold] at hkept
        cases hkept
      · exact hkeys hnone hmem
    | some old =>
      rw [hold] at hlookup
      dsimp only at hlookup ⊢
      rw [counted_refreshed hold] at hlookup ⊢
      dsimp only at hlookup ⊢
      have hinserted : ∀ bucket, (limiter.buckets.insert key ⟨minute, limiter.counted minute key⟩).lookup query =
          some bucket → bucket.window_minute = minute ∨
            limiter.buckets.lookup query = some bucket ∧ query ≠ key := by
        intro bucket hbucket
        rw [HashMap.lookup_insert_ite] at hbucket
        split at hbucket
        · cases hbucket
          exact Or.inl rfl
        · next hne => exact Or.inr ⟨hbucket, hne⟩
      split
      · next hused =>
        rw [if_pos hused] at hlookup
        exact (hinserted bucket hlookup).imp_right fun h => ⟨h.1, nofun⟩
      · next hleft =>
        rw [if_neg hleft] at hlookup
        rcases ih _ query bucket hlookup with hminute | ⟨hkept, hkeys⟩
        · exact Or.inl hminute
        · refine (hinserted bucket hkept).imp_right fun ⟨hkept, hne⟩ => ⟨hkept, fun hnone hmem => ?_⟩
          exact (List.mem_cons.mp hmem).elim hne (hkeys hnone)

theorem count_all_cons (key : String) (keys : List String) :
    count_all minute (key :: keys) limiter = count_all minute keys (count_all minute [key] limiter) :=
  rfl

/-- Counting one key whose bucket is of the minute. -/
theorem lookup_count_one {key : String}
    (hfresh : ∀ bucket, limiter.buckets.lookup key = some bucket → bucket.window_minute = minute)
    (hroom : limiter.counted minute key < 2 ^ 32 - 1) (query : String) :
    (count_all minute [key] limiter).buckets.lookup query =
      if query = key then some ⟨minute, limiter.counted minute key + 1⟩ else limiter.buckets.lookup query := by
  have hbucket : (limiter.buckets.lookup key).getD { window_minute := minute, count := 0 } =
      ⟨minute, limiter.counted minute key⟩ := by
    cases hlookup : limiter.buckets.lookup key with
    | none => rw [counted_of_lookup_none hlookup, Option.getD_none]
    | some bucket =>
      rw [counted_of_lookup hlookup, Option.getD_some, if_pos (hfresh bucket hlookup), ← hfresh bucket hlookup]
  have hmin : min (limiter.counted minute key + 1) (2 ^ 32 - 1) = limiter.counted minute key + 1 :=
    min_eq_left (by omega)
  rw [count_all, List.foldl_cons, List.foldl_nil, hbucket]
  dsimp only
  rw [hmin, HashMap.lookup_insert_ite]

/-- The second loop counts each of the keys once, where their buckets are of the minute and
have room. -/
theorem counted_count_all {keys : List String} (hnodup : keys.Nodup) : ∀ limiter : RateLimiter,
    (∀ key ∈ keys, ∀ bucket, limiter.buckets.lookup key = some bucket → bucket.window_minute = minute) →
    (∀ key ∈ keys, limiter.counted minute key < 2 ^ 32 - 1) → ∀ query,
      (count_all minute keys limiter).counted minute query =
        limiter.counted minute query + if query ∈ keys then 1 else 0 := by
  induction keys with
  | nil => exact fun _ _ _ _ => rfl
  | cons key keys ih =>
    intro limiter hfresh hroom query
    obtain ⟨hkey, hnodup⟩ := List.nodup_cons.mp hnodup
    have hone := lookup_count_one (hfresh key List.mem_cons_self) (hroom key List.mem_cons_self)
    have hcounted : ∀ query, (count_all minute [key] limiter).counted minute query =
        limiter.counted minute query + if query = key then 1 else 0 := by
      intro query
      by_cases hquery : query = key
      · rw [counted_of_lookup ((hone query).trans (if_pos hquery)), if_pos hquery, if_pos rfl, hquery]
      · rw [counted, hone, if_neg hquery, if_neg hquery]
        rfl
    have hother : ∀ other ∈ keys, other ≠ key := fun other hmem heq => hkey (heq ▸ hmem)
    rw [count_all_cons, ih hnodup, hcounted]
    · by_cases hquery : query = key
      · simp [hquery, hkey]
      · simp [hquery]
    · intro other hmem bucket hbucket
      rw [hone, if_neg (hother other hmem)] at hbucket
      exact hfresh other (List.mem_cons_of_mem _ hmem) bucket hbucket
    · intro other hmem
      rw [hcounted, if_neg (hother other hmem)]
      exact hroom other (List.mem_cons_of_mem _ hmem)

theorem window_count_all {keys : List String} : ∀ limiter : RateLimiter,
    (∀ key bucket, limiter.buckets.lookup key = some bucket → bucket.window_minute ≤ minute) →
      ∀ key bucket, (count_all minute keys limiter).buckets.lookup key = some bucket →
        bucket.window_minute ≤ minute := by
  induction keys with
  | nil => exact fun _ hwindows => hwindows
  | cons key keys ih =>
    intro limiter hwindows
    rw [count_all_cons]
    refine ih _ fun query bucket hbucket => ?_
    rw [count_all, List.foldl_cons, List.foldl_nil, HashMap.lookup_insert_ite] at hbucket
    split at hbucket
    · cases hbucket
      cases hold : limiter.buckets.lookup key with
      | none => exact Nat.le_refl minute
      | some old => exact hwindows key old hold
    · exact hwindows query bucket hbucket

end Loops

section Check

variable {limiter : RateLimiter} {clock : Clock} {keys : List String} {max_per_minute : Nat}

variable (limiter clock keys max_per_minute) in
/-- The three ways in which a check ends: a limit of zero, a key that is used up, and all
the keys counted. -/
theorem check_cases :
    max_per_minute = 0 ∧ (∃ decision, limiter.check clock keys max_per_minute = (.error decision, limiter) ∧
        decision.retry_after_seconds = clock.seconds_until_next_minute) ∨
      0 < max_per_minute ∧ (∃ key limiter',
        first_used_up clock.current_window_minute max_per_minute keys limiter = (some key, limiter') ∧
          limiter.check clock keys max_per_minute =
            (.error { key, retry_after_seconds := clock.seconds_until_next_minute }, limiter')) ∨
      0 < max_per_minute ∧ ∃ limiter',
        first_used_up clock.current_window_minute max_per_minute keys limiter = (none, limiter') ∧
          limiter.check clock keys max_per_minute =
            (.ok (), count_all clock.current_window_minute keys limiter') := by
  rw [check]
  by_cases hzero : max_per_minute = 0
  · exact Or.inl ⟨hzero, _, if_pos hzero, rfl⟩
  · rw [if_neg hzero]
    have hpos := Nat.pos_of_ne_zero hzero
    dsimp only
    rcases first_used_up clock.current_window_minute max_per_minute keys limiter with ⟨_ | key, limiter'⟩
    · exact Or.inr (Or.inr ⟨hpos, limiter', rfl, rfl⟩)
    · exact Or.inr (Or.inl ⟨hpos, key, limiter', rfl, rfl⟩)

variable (limiter clock keys max_per_minute) in
theorem check_ok_iff :
    (limiter.check clock keys max_per_minute).1.isOk = true ↔
      0 < max_per_minute ∧ ∀ key ∈ keys, limiter.counted clock.current_window_minute key < max_per_minute := by
  rcases check_cases limiter clock keys max_per_minute with
    ⟨hzero, decision, hcheck, -⟩ | ⟨hpos, key, limiter', hfound, hcheck⟩ | ⟨hpos, limiter', hfound, hcheck⟩
  · rw [hcheck]
    exact iff_of_false nofun fun h => absurd h.1 (by omega)
  · rw [hcheck, and_iff_right hpos, ← first_used_up_eq_none_iff hpos, hfound]
    exact iff_of_false nofun nofun
  · rw [hcheck, and_iff_right hpos, ← first_used_up_eq_none_iff hpos, hfound]
    exact iff_of_true rfl rfl

/-- A refusal says when the next minute begins. -/
theorem check_error {decision : RateLimitDecision}
    (herror : (limiter.check clock keys max_per_minute).1 = .error decision) :
    decision.retry_after_seconds = clock.seconds_until_next_minute := by
  rcases check_cases limiter clock keys max_per_minute with
    ⟨-, decision', hcheck, hretry⟩ | ⟨-, key, limiter', -, hcheck⟩ | ⟨-, limiter', -, hcheck⟩ <;>
    rw [hcheck] at herror <;> cases herror
  · exact hretry
  · rfl

variable (limiter clock) in
/-- A check counts once each of its keys if it accepts, and nothing if it refuses. -/
theorem counted_check (hnodup : keys.Nodup) (hfits : max_per_minute < 2 ^ 32) (query : String) :
    (limiter.check clock keys max_per_minute).2.counted clock.current_window_minute query =
      limiter.counted clock.current_window_minute query +
        if (limiter.check clock keys max_per_minute).1.isOk = true ∧ query ∈ keys then 1 else 0 := by
  have hroom : (limiter.check clock keys max_per_minute).1.isOk = true → ∀ key ∈ keys,
      limiter.counted clock.current_window_minute key < max_per_minute := fun hok => ((check_ok_iff ..).mp hok).2
  rcases check_cases limiter clock keys max_per_minute with
    ⟨-, decision, hcheck, -⟩ | ⟨-, key, limiter', hfound, hcheck⟩ | ⟨-, limiter', hfound, hcheck⟩
  · rw [hcheck, if_neg fun h => nomatch h.1]
    rfl
  · have hcounted := counted_first_used_up clock.current_window_minute max_per_minute keys limiter query
    rw [hfound] at hcounted
    rw [hcheck, if_neg fun h => nomatch h.1]
    exact hcounted
  · have hcounted := counted_first_used_up clock.current_window_minute max_per_minute keys limiter
    have hlookup := lookup_first_used_up clock.current_window_minute max_per_minute keys limiter
    rw [hfound] at hcounted hlookup
    rw [hcheck] at hroom ⊢
    dsimp only at hcounted hlookup ⊢
    rw [counted_count_all hnodup, hcounted]
    · simp [Except.isOk, Except.toBool]
    · intro key hkey bucket hbucket
      exact (hlookup key bucket hbucket).elim id fun h => absurd hkey (h.2 rfl)
    · intro key hkey
      rw [hcounted]
      exact Nat.lt_of_lt_of_le (hroom rfl key hkey) (by omega)

variable (keys max_per_minute) in
/-- No bucket is of a minute to come. -/
theorem window_check
    (hwindows : ∀ key bucket, limiter.buckets.lookup key = some bucket →
      bucket.window_minute ≤ clock.current_window_minute) :
    ∀ key bucket, (limiter.check clock keys max_per_minute).2.buckets.lookup key = some bucket →
      bucket.window_minute ≤ clock.current_window_minute := by
  have hwindows' : ∀ key bucket, (first_used_up clock.current_window_minute max_per_minute keys
      limiter).2.buckets.lookup key = some bucket → bucket.window_minute ≤ clock.current_window_minute :=
    fun key bucket hbucket => (lookup_first_used_up _ _ keys limiter key bucket hbucket).elim (fun h => h.le)
      fun h => hwindows key bucket h.1
  rcases check_cases limiter clock keys max_per_minute with
    ⟨-, decision, hcheck, -⟩ | ⟨-, key, limiter', hfound, hcheck⟩ | ⟨-, limiter', hfound, hcheck⟩
  · rw [hcheck]
    exact hwindows
  · rw [hfound] at hwindows'
    rw [hcheck]
    exact hwindows'
  · rw [hfound] at hwindows'
    rw [hcheck]
    exact window_count_all _ hwindows'

end Check

end RateLimiter

/-- A check as the code is asked for it: no key twice, and a limit of 32 bits. -/
structure Call where
  clock : Clock
  keys : List String
  max_per_minute : Nat
  nodup : keys.Nodup
  fits : max_per_minute < 2 ^ 32

def Call.minute (call : Call) : Nat :=
  call.clock.current_window_minute

/-- A check that has been made, and its verdict. -/
structure Checked where
  call : Call
  accepted : Bool

/-- A limiter with all the checks since it began. -/
structure History where
  limiter : RateLimiter := {}
  checked : List Checked := []

namespace History

def check (history : History) (call : Call) : History where
  limiter := (history.limiter.check call.clock call.keys call.max_per_minute).2
  checked := history.checked ++
    [⟨call, (history.limiter.check call.clock call.keys call.max_per_minute).1.isOk⟩]

/-- The accepted checks of a minute that had the key. -/
def accepted_in (history : History) (minute : Nat) (key : String) : Nat :=
  history.checked.countP fun checked =>
    checked.accepted && checked.call.minute = minute && checked.call.keys.contains key

/-- The clock has not been turned back. -/
def Timely (history : History) (call : Call) : Prop :=
  ∀ checked ∈ history.checked, checked.call.clock.unix_seconds ≤ call.clock.unix_seconds

def Step : History → Call → History → Prop :=
  Guarded (OfFun check) Timely

/-- From the last minute on, the buckets count the accepted checks. -/
def Accounted (history : History) : Prop :=
  ∀ minute, (∀ checked ∈ history.checked, checked.call.minute ≤ minute) →
    (∀ key bucket, history.limiter.buckets.lookup key = some bucket → bucket.window_minute ≤ minute) ∧
      ∀ key, history.limiter.counted minute key = history.accepted_in minute key

section Accounting

variable {history : History} {call : Call}

theorem Timely.minutes (htimely : Timely history call) :
    ∀ checked ∈ history.checked, checked.call.minute ≤ call.minute :=
  fun checked hmem => Nat.div_le_div_right (htimely checked hmem)

theorem accepted_in_check (minute : Nat) (key : String) :
    (history.check call).accepted_in minute key = history.accepted_in minute key +
      if (history.limiter.check call.clock call.keys call.max_per_minute).1.isOk = true ∧
        call.minute = minute ∧ key ∈ call.keys then 1 else 0 := by
  rw [accepted_in, check, List.countP_append, List.countP_singleton]
  simp [accepted_in, and_assoc]

/-- In a minute to come nothing has been counted. -/
theorem counted_of_windows {limiter : RateLimiter} {minute minute' : Nat} (hlater : minute < minute')
    (hwindows : ∀ key bucket, limiter.buckets.lookup key = some bucket → bucket.window_minute ≤ minute)
    (key : String) : limiter.counted minute' key = 0 := by
  cases hlookup : limiter.buckets.lookup key with
  | none => exact RateLimiter.counted_of_lookup_none hlookup
  | some bucket =>
    have hwindow := hwindows key bucket hlookup
    rw [RateLimiter.counted_of_lookup hlookup, if_neg (by omega)]

theorem Accounted.initial : Accounted {} :=
  fun _ _ => ⟨nofun, fun _ => rfl⟩

theorem Accounted.check (h : history.Accounted) (htimely : history.Timely call) :
    (history.check call).Accounted := by
  intro minute hlast
  have hcall : call.minute ≤ minute := hlast _ (List.mem_append_right _ List.mem_cons_self)
  obtain ⟨hwindows, hcounted⟩ := h call.minute htimely.minutes
  have hwindows' := RateLimiter.window_check call.keys call.max_per_minute hwindows
  refine ⟨fun key bucket hbucket => (hwindows' key bucket hbucket).trans hcall, fun key => ?_⟩
  rw [accepted_in_check]
  rcases Nat.eq_or_lt_of_le hcall with rfl | hlater
  · rw [← hcounted key]
    refine (RateLimiter.counted_check _ _ call.nodup call.fits key).trans ?_
    simp only [true_and]
    rfl
  · obtain ⟨-, hcounted'⟩ := h minute fun checked hmem => (htimely.minutes checked hmem).trans hcall
    rw [← hcounted' key, counted_of_windows hlater hwindows]
    rw [if_neg fun hsame => hlater.ne hsame.2.1]
    exact counted_of_windows hlater hwindows' key

theorem Accounted.run {calls : List Call} (hrun : Run Step {} calls history) : history.Accounted :=
  hrun.invariant (fun _ _ _ h ⟨htimely, heq⟩ => heq ▸ h.check htimely) Accounted.initial

end Accounting

/-- What a check is to do in the state that a history has led to. -/
structure Accounting (history : History) (call : Call) : Prop where
  counted : ∀ key, history.limiter.counted call.minute key = history.accepted_in call.minute key
  counted_after : ∀ key,
    (history.check call).limiter.counted call.minute key = (history.check call).accepted_in call.minute key
  rejected_iff : ¬ (history.limiter.check call.clock call.keys call.max_per_minute).1.isOk = true ↔
    call.max_per_minute = 0 ∨ ∃ key ∈ call.keys, call.max_per_minute ≤ history.accepted_in call.minute key
  rejected_unchanged : ¬ (history.limiter.check call.clock call.keys call.max_per_minute).1.isOk = true →
    ∀ key, (history.check call).limiter.counted call.minute key = history.limiter.counted call.minute key
  accepted_adds : (history.limiter.check call.clock call.keys call.max_per_minute).1.isOk = true →
    ∀ key, (history.check call).limiter.counted call.minute key =
      history.limiter.counted call.minute key + if key ∈ call.keys then 1 else 0
  accepted_within : (history.limiter.check call.clock call.keys call.max_per_minute).1.isOk = true →
    ∀ key ∈ call.keys, (history.check call).accepted_in call.minute key ≤ call.max_per_minute

end History

open History in
/-- The limiter keeps account of every minute, whatever the keys and limits of the checks
before: what it has counted for a key are the accepted checks with the key. -/
theorem limiter_accounting {history : History} {calls : List Call} (hrun : Run Step {} calls history)
    {call : Call} (htimely : history.Timely call) : Accounting history call := by
  have haccounted := Accounted.run hrun
  obtain ⟨hwindows, hcounted⟩ := haccounted call.minute htimely.minutes
  have hadds := RateLimiter.counted_check history.limiter call.clock call.nodup call.fits
  constructor
  case counted => exact hcounted
  case counted_after =>
    refine (haccounted.check htimely call.minute fun checked hmem => ?_).2
    rcases List.mem_append.mp hmem with hmem | hmem
    · exact htimely.minutes checked hmem
    · exact (congrArg (Call.minute ∘ Checked.call) (List.mem_singleton.mp hmem)).le
  case rejected_iff =>
    rw [RateLimiter.check_ok_iff, not_and_or, not_forall₂]
    refine or_congr (by omega) (exists_congr fun key => ?_)
    rw [exists_prop, Nat.not_lt, ← hcounted]
    rfl
  case rejected_unchanged =>
    intro hrejected key
    refine (hadds key).trans ?_
    rw [if_neg fun h => hrejected h.1]
    rfl
  case accepted_adds =>
    intro haccepted key
    refine (hadds key).trans ?_
    simp only [haccepted, true_and]
    rfl
  case accepted_within =>
    intro haccepted key hkey
    have hleft := ((RateLimiter.check_ok_iff ..).mp haccepted).2 key hkey
    rw [accepted_in_check, ← hcounted, if_pos ⟨haccepted, rfl, hkey⟩]
    exact hleft

namespace sample

/-- A call of a project with a key of its own, at a second of 1970. -/
def call (api_key : String) (second : Nat) (hne : "project:p" ≠ api_key) : Call where
  clock := { unix_seconds := second, refused_unix_seconds := second }
  keys := ["project:p", api_key]
  max_per_minute := 1
  nodup := by simpa using hne
  fits := by decide

end sample

theorem second_call_accounted :
    History.Accounting (({} : History).check (sample.call "api_key:k" 61 (by decide)))
      (sample.call "api_key:l" 119 (by decide)) := by
  refine limiter_accounting (.cons ⟨nofun, rfl⟩ (.nil _)) fun checked hmem => ?_
  rw [List.mem_singleton.mp hmem]
  exact (by decide : 61 ≤ 119)

end rustzap.rate_limit
