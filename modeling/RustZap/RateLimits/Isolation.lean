import RustZap.RateLimits.Scopes

open collections runs
open rustzap.error rustzap.rate_limit

namespace rustzap.state

/-- The verdict of a call does not depend on which of the removed calls are made before it in
the minute. -/
def Unaffected (present : RateLimitScope → Prop) (removed : RateLimitScope → Bool) (scope : RateLimitScope) :
    Prop :=
  ∀ (limiter after after' : RateLimiter) (requests requests' : List Request) (clock : Clock),
    Run (Traffic present clock.current_window_minute) limiter requests after →
    Run (Traffic present clock.current_window_minute) limiter requests' after' →
    requests.filter (fun request => !removed request.scope) =
      requests'.filter (fun request => !removed request.scope) →
      (enforce_rate_limit after clock scope).1 = (enforce_rate_limit after' clock scope).1

/-- The calls that removed ones have an influence on: those that have a bucket in common
with a removed one, and those that have one in common with such a call that stays. -/
inductive Reached (present : RateLimitScope → Prop) (removed : RateLimitScope → Bool) : RateLimitScope → Prop
  | direct {scope other : RateLimitScope} (hpresent : present other) (hremoved : removed other = true)
      (hshared : ¬ BucketsApart scope other) : Reached present removed scope
  | through {scope mid : RateLimitScope} (hreached : Reached present removed mid) (hpresent : present mid)
      (hstays : removed mid = false) (hshared : ¬ BucketsApart scope mid) : Reached present removed scope

/-- A chain of buckets in common without a shortcut, from a removed call to the one at the
head. -/
inductive Chain (present : RateLimitScope → Prop) (removed : RateLimitScope → Bool) :
    RateLimitScope → List RateLimitScope → Prop
  | start {other : RateLimitScope} (hpresent : present other) (hremoved : removed other = true) :
      Chain present removed other []
  | step {next mid : RateLimitScope} {rest : List RateLimitScope} (hchain : Chain present removed mid rest)
      (hpresent : present next) (hstays : removed next = false) (hshared : ¬ BucketsApart next mid)
      (hapart : ∀ other ∈ rest, BucketsApart next other) : Chain present removed next (mid :: rest)

/-- The fullest bucket of a call has counted this much in the minute. -/
def Fullest (limiter : RateLimiter) (minute : Nat) (scope : RateLimitScope) (count : Nat) : Prop :=
  (∀ key ∈ scope.keys, limiter.counted minute key ≤ count) ∧
    ∃ key ∈ scope.keys, limiter.counted minute key = count

section Fullest

variable {limiter : RateLimiter} {clock : Clock} {scope : RateLimitScope} {count : Nat}

theorem Fullest.room_iff {minute : Nat} (h : Fullest limiter minute scope count) {max_per_minute : Nat} :
    (0 < max_per_minute ∧ ∀ key ∈ scope.keys, limiter.counted minute key < max_per_minute) ↔
      count < max_per_minute := by
  obtain ⟨hall, key, hkey, heq⟩ := h
  constructor
  · rintro ⟨-, hroom⟩
    exact heq ▸ hroom key hkey
  · intro hcount
    exact ⟨Nat.zero_lt_of_lt hcount, fun key hkey => Nat.lt_of_le_of_lt (hall key hkey) hcount⟩

theorem Fullest.accepted_iff (h : Fullest limiter clock.current_window_minute scope count) :
    (enforce_rate_limit limiter clock scope).1 = .ok () ↔ count < scope.max_per_minute := by
  rw [enforce_rate_limit_verdict, ← h.room_iff]
  split
  · next hroom => exact iff_of_true rfl hroom
  · next hfull => exact iff_of_false nofun hfull

theorem Fullest.add {minute more : Nat} {limiter' : RateLimiter} (h : Fullest limiter minute scope count)
    (hmore : ∀ key ∈ scope.keys, limiter'.counted minute key = limiter.counted minute key + more) :
    Fullest limiter' minute scope (count + more) := by
  obtain ⟨hall, key, hkey, heq⟩ := h
  refine ⟨fun other hother => ?_, key, hkey, by rw [hmore key hkey, heq]⟩
  rw [hmore other hother]
  exact Nat.add_le_add_right (hall other hother) more

/-- A call that is repeated is accepted until its fullest bucket is full. -/
theorem Fullest.counted_repeated (h : Fullest limiter clock.current_window_minute scope count)
    (hcount : count ≤ scope.max_per_minute) (n : Nat) (key : String) :
    ((List.replicate n (Request.mk scope clock)).foldl serve limiter).counted clock.current_window_minute key =
      limiter.counted clock.current_window_minute key +
        if key ∈ scope.keys then min n (scope.max_per_minute - count) else 0 := by
  induction n generalizing key with
  | zero => simp
  | succ n ih =>
    have hfullest : Fullest ((List.replicate n (Request.mk scope clock)).foldl serve limiter)
        clock.current_window_minute scope (count + min n (scope.max_per_minute - count)) :=
      h.add fun key hkey => by rw [ih, if_pos hkey]
    rw [List.replicate_succ', List.foldl_append, List.foldl_cons, List.foldl_nil, counted_serve _ rfl, ih]
    dsimp only
    simp only [hfullest.room_iff]
    by_cases hkey : key ∈ scope.keys
    · simp only [hkey, if_true, and_true]
      split <;> omega
    · simp only [hkey, if_false, and_false]

end Fullest

section Reached

variable {rate_limits : RateLimitConfig} {present : RateLimitScope → Prop} {removed : RateLimitScope → Bool}
  {scope next mid : RateLimitScope} {rest : List RateLimitScope}

theorem BucketsApart.symm {scope other : RateLimitScope} (h : BucketsApart scope other) :
    BucketsApart other scope := by
  rcases h with hfamily | hbuckets
  · exact Or.inl hfamily.symm
  · exact Or.inr fun bucket owner hother hscope => hbuckets bucket owner hscope hother

theorem family_of_shared {scope other : RateLimitScope} (h : ¬ BucketsApart scope other) :
    scope.family = other.family :=
  not_not.mp fun hne => h (Or.inl hne)

/-- A chain that has a bucket in common with a call can be cut off at the first such
bucket. -/
theorem Chain.reach (h : Chain present removed mid rest) (hpresent : present next)
    (hstays : removed next = false) (hshared : ∃ other ∈ mid :: rest, ¬ BucketsApart next other) :
    ∃ mid rest, Chain present removed next (mid :: rest) := by
  induction h with
  | start hother hremoved =>
    obtain ⟨other, hmem, hshared⟩ := hshared
    rw [List.mem_singleton.mp hmem] at hshared
    exact ⟨_, [], .step (.start hother hremoved) hpresent hstays hshared nofun⟩
  | @step last before path hchain hlast hlast_stays hlast_shared hlast_apart ih =>
    by_cases hearlier : ∃ other ∈ before :: path, ¬ BucketsApart next other
    · exact ih hearlier
    · push Not at hearlier
      obtain ⟨other, hmem, hshared⟩ := hshared
      rcases List.mem_cons.mp hmem with rfl | hmem
      · exact ⟨_, _, .step (.step hchain hlast hlast_stays hlast_shared hlast_apart) hpresent hstays hshared
          hearlier⟩
      · exact absurd (hearlier other hmem) hshared

theorem Reached.chain (h : Reached present removed scope) (hpresent : present scope)
    (hstays : removed scope = false) : ∃ mid rest, Chain present removed scope (mid :: rest) := by
  induction h with
  | direct hother hremoved hshared =>
    exact (Chain.start hother hremoved).reach hpresent hstays ⟨_, List.mem_cons_self, hshared⟩
  | through hreached hmid hmid_stays hshared ih =>
    obtain ⟨before, rest, hchain⟩ := ih hmid hmid_stays
    exact hchain.reach hpresent hstays ⟨_, List.mem_cons_self, hshared⟩

/-- A call that no removed one gets at is not affected by them. -/
theorem unaffected_of_not_reached (hmade : ∀ scope, present scope → scope.Made rate_limits)
    (hpresent : present scope) (hstays : removed scope = false) (h : ¬ Reached present removed scope) :
    Unaffected present removed scope := by
  classical
  intro limiter after after' requests requests' clock hrun hrun' hsame
  -- those that stay and are got at count as removed, too
  let stays := fun scope => decide (¬ Reached present removed scope) && !removed scope
  have hfilter (requests : List Request) : requests.filter (fun request => stays request.scope) =
      (requests.filter fun request => !removed request.scope).filter fun request =>
        decide (¬ Reached present removed request.scope) := by
    rw [List.filter_filter]
  refine verdict_unchanged hmade ?_ hrun hrun' (by rw [hfilter, hfilter, hsame]) hpresent
    (by simp [stays, h, hstays])
  intro scope other hscope hother hkept hgone
  by_contra hshared
  simp only [stays, Bool.and_eq_true, decide_eq_true_eq, Bool.not_eq_true'] at hkept
  cases hremoved : removed other with
  | true => exact hkept.1 (.direct hother hremoved hshared)
  | false =>
    have hreached : Reached present removed other := by
      simpa only [stays, hremoved, Bool.not_false, Bool.and_true, decide_eq_false_iff_not, not_not] using hgone
    exact hkept.1 (.through hreached hother hremoved hshared)

theorem Chain.all_present (h : Chain present removed mid rest) : ∀ other ∈ mid :: rest, present other := by
  induction h with
  | start hpresent => exact List.forall_mem_singleton.mpr hpresent
  | step _ hpresent _ _ _ ih => exact List.forall_mem_cons.mpr ⟨hpresent, ih⟩

/-- What the links of a chain say of the keys. -/
theorem Chain.keys (hmade : ∀ scope, present scope → scope.Made rate_limits)
    (h : Chain present removed next (mid :: rest)) :
    (∀ other ∈ rest, ∀ key ∈ next.keys, key ∉ other.keys) ∧ (∃ key ∈ next.keys, key ∈ mid.keys) ∧
      next.max_per_minute = mid.max_per_minute := by
  cases h with
  | step hchain hpresent _ hshared hapart =>
    have hothers : ∀ other ∈ mid :: rest, other.Made rate_limits :=
      fun other hmem => hmade other (hchain.all_present other hmem)
    obtain ⟨hmid, hrest⟩ := List.forall_mem_cons.mp hothers
    have hnext := hmade next hpresent
    refine ⟨fun other hmem => (disjoint_keys_iff hnext (hrest other hmem)).mpr (hapart other hmem), ?_, ?_⟩
    · by_contra hnone
      push Not at hnone
      exact hshared ((disjoint_keys_iff hnext hmid).mp hnone)
    · rw [hnext.limit, hmid.limit, family_of_shared hshared]

theorem traffic_run {clock : Clock} {requests : List Request} : ∀ limiter : RateLimiter,
    (∀ request ∈ requests, present request.scope ∧ request.clock = clock) →
      Run (Traffic present clock.current_window_minute) limiter requests (requests.foldl serve limiter) := by
  induction requests with
  | nil => exact fun limiter _ => .nil limiter
  | cons request requests ih =>
    intro limiter hall
    obtain ⟨hfirst, hrest⟩ := List.forall_mem_cons.mp hall
    exact .cons ⟨⟨hfirst.1, congrArg _ hfirst.2⟩, rfl⟩ (ih _ hrest)

/-- Calls at one time after which so much has been counted for the keys of a call, and
nothing for other keys, but those of some calls before. -/
structure Leads (present : RateLimitScope → Prop) (clock : Clock) (scope : RateLimitScope)
    (rest : List RateLimitScope) (requests : List Request) (count : Nat) : Prop where
  made : ∀ request ∈ requests, present request.scope ∧ request.clock = clock
  bounded : count ≤ scope.max_per_minute
  counted : ∀ key, (∀ other ∈ rest, key ∉ other.keys) →
    (requests.foldl serve {}).counted clock.current_window_minute key = if key ∈ scope.keys then count else 0

section Leads

variable {clock : Clock} {requests : List Request} {count : Nat}

theorem Leads.fullest (h : Leads present clock mid rest requests count)
    (hdisjoint : ∀ other ∈ rest, ∀ key ∈ next.keys, key ∉ other.keys)
    (hshared : ∃ key ∈ next.keys, key ∈ mid.keys) :
    Fullest (requests.foldl serve {}) clock.current_window_minute next count := by
  have hkeys : ∀ key ∈ next.keys, (requests.foldl serve {}).counted clock.current_window_minute key =
      if key ∈ mid.keys then count else 0 :=
    fun key hkey => h.counted key fun other hother => hdisjoint other hother key hkey
  constructor
  · intro key hkey
    rw [hkeys key hkey]
    split
    · exact Nat.le_refl count
    · exact Nat.zero_le count
  · obtain ⟨key, hkey, hmid⟩ := hshared
    exact ⟨key, hkey, (hkeys key hkey).trans (if_pos hmid)⟩

theorem Leads.made_repeated (h : Leads present clock mid rest requests count) (hpresent : present next)
    (n : Nat) : ∀ request ∈ requests ++ List.replicate n ⟨next, clock⟩, present request.scope ∧ request.clock = clock := by
  intro request hmem
  rcases List.mem_append.mp hmem with hmem | hmem
  · exact h.made request hmem
  · rw [(List.mem_replicate.mp hmem).2]
    exact ⟨hpresent, rfl⟩

/-- The next call of the chain, repeated, has the room that is left to it. -/
theorem Leads.step (h : Leads present clock mid rest requests count) (hpresent : present next)
    (hdisjoint : ∀ other ∈ rest, ∀ key ∈ next.keys, key ∉ other.keys)
    (hshared : ∃ key ∈ next.keys, key ∈ mid.keys) (hlimit : next.max_per_minute = mid.max_per_minute) :
    Leads present clock next (mid :: rest)
      (requests ++ List.replicate next.max_per_minute ⟨next, clock⟩) (next.max_per_minute - count) where
  made := h.made_repeated hpresent _
  bounded := Nat.sub_le ..
  counted key hkey := by
    obtain ⟨hmid, hrest⟩ := List.forall_mem_cons.mp hkey
    rw [List.foldl_append, (h.fullest hdisjoint hshared).counted_repeated (hlimit ▸ h.bounded),
      h.counted key hrest, if_neg hmid, Nat.zero_add, Nat.min_eq_right (Nat.sub_le ..)]

/-- Some of its room being taken, it is accepted as long as there is some more. -/
theorem Leads.accepted_iff (h : Leads present clock mid rest requests count)
    (hdisjoint : ∀ other ∈ rest, ∀ key ∈ next.keys, key ∉ other.keys)
    (hshared : ∃ key ∈ next.keys, key ∈ mid.keys) {n : Nat} (hroom : count + n ≤ next.max_per_minute) :
    (enforce_rate_limit ((requests ++ List.replicate n (Request.mk next clock)).foldl serve {}) clock next).1 =
        .ok () ↔
      count + n < next.max_per_minute := by
  have hfullest := h.fullest hdisjoint hshared
  refine (hfullest.add fun key hkey => ?_).accepted_iff
  rw [List.foldl_append, hfullest.counted_repeated (Nat.le_of_add_right_le hroom), if_pos hkey,
    Nat.min_eq_left (Nat.le_sub_of_add_le' hroom)]

end Leads

/-- At each call of a chain, calls that differ in removed ones only can have led to
different counts. -/
theorem Chain.diverge (hmade : ∀ scope, present scope → scope.Made rate_limits)
    (h : Chain present removed mid rest) (hpos : 0 < mid.max_per_minute) (clock : Clock) :
    ∃ requests requests' count count', Leads present clock mid rest requests count ∧
      Leads present clock mid rest requests' count' ∧ count ≠ count' ∧
      requests.filter (fun request => !removed request.scope) =
        requests'.filter fun request => !removed request.scope := by
  induction h with
  | @start other hpresent hremoved =>
    have hzero (key : String) : ({} : RateLimiter).counted clock.current_window_minute key = 0 := rfl
    refine ⟨[⟨other, clock⟩], [], 1, 0, ?_, ?_, Nat.one_ne_zero, by simp [hremoved]⟩
    · refine ⟨by simp [hpresent], hpos, fun key _ => ?_⟩
      rw [List.foldl_cons, List.foldl_nil, counted_serve {} rfl]
      simp [hzero, hpos]
    · exact ⟨nofun, Nat.zero_le _, fun key _ => (hzero key).trans (ite_self 0).symm⟩
  | @step next mid rest hchain hpresent hstays hshared hapart ih =>
    obtain ⟨hdisjoint, hcommon, hlimit⟩ := (Chain.step hchain hpresent hstays hshared hapart).keys hmade
    obtain ⟨requests, requests', count, count', hleads, hleads', hne, hsame⟩ := ih (hlimit ▸ hpos)
    have hbounds : count ≤ next.max_per_minute ∧ count' ≤ next.max_per_minute :=
      ⟨hlimit ▸ hleads.bounded, hlimit ▸ hleads'.bounded⟩
    refine ⟨_, _, _, _, hleads.step hpresent hdisjoint hcommon hlimit,
      hleads'.step hpresent hdisjoint hcommon hlimit, by omega, ?_⟩
    rw [List.filter_append, List.filter_append, hsame]

/-- A call that removed ones get at is affected by them, unless its limit is zero. -/
theorem Reached.affected (hmade : ∀ scope, present scope → scope.Made rate_limits) (hpresent : present scope)
    (hstays : removed scope = false) (hpos : 0 < scope.max_per_minute) (h : Reached present removed scope) :
    ¬ Unaffected present removed scope := by
  intro hunaffected
  let clock : Clock := { unix_seconds := 0, refused_unix_seconds := 0 }
  obtain ⟨mid, rest, hchain⟩ := h.chain hpresent hstays
  obtain ⟨hdisjoint, hcommon, hlimit⟩ := hchain.keys hmade
  have hmid : Chain present removed mid rest := by
    cases hchain with
    | step hmid => exact hmid
  obtain ⟨requests, requests', count, count', hleads, hleads', hne, hsame⟩ :=
    hmid.diverge hmade (hlimit ▸ hpos) clock
  have hbounds : count ≤ scope.max_per_minute ∧ count' ≤ scope.max_per_minute :=
    ⟨hlimit ▸ hleads.bounded, hlimit ▸ hleads'.bounded⟩
  -- the call itself takes the room that is left in the fuller of the two
  obtain ⟨left, hleft⟩ : ∃ left, left + max count count' = scope.max_per_minute :=
    ⟨_, Nat.sub_add_cancel (Nat.max_le.mpr hbounds)⟩
  have hverdict := hunaffected {} _ _ _ _ clock (traffic_run {} (hleads.made_repeated hpresent left))
    (traffic_run {} (hleads'.made_repeated hpresent left))
    (by rw [List.filter_append, List.filter_append, hsame])
  have haccepted := hleads.accepted_iff hdisjoint hcommon (show count + left ≤ scope.max_per_minute by omega)
  have haccepted' := hleads'.accepted_iff hdisjoint hcommon (show count' + left ≤ scope.max_per_minute by omega)
  rw [hverdict, haccepted'] at haccepted
  omega

/-- Removed calls leave a call alone exactly when its limit is zero or they do not get at
it. -/
theorem unaffected_iff (hmade : ∀ scope, present scope → scope.Made rate_limits) (hpresent : present scope)
    (hstays : removed scope = false) :
    Unaffected present removed scope ↔ scope.max_per_minute = 0 ∨ ¬ Reached present removed scope := by
  constructor
  · intro hunaffected
    by_contra hnot
    obtain ⟨hlimit, hreached⟩ := not_or.mp hnot
    exact (not_not.mp hreached).affected hmade hpresent hstays (Nat.pos_of_ne_zero hlimit) hunaffected
  · rintro (hzero | hreached)
    · intro limiter after after' requests requests' clock _ _ _
      rw [enforce_rate_limit_verdict, enforce_rate_limit_verdict, if_neg (by omega), if_neg (by omega)]
    · exact unaffected_of_not_reached hmade hpresent hstays hreached

end Reached

/-- A call of another company, by another caller from another address. -/
def foreign (scope other : RateLimitScope) : Bool :=
  (scope.project_id ≠ other.project_id || scope.company_id ≠ other.company_id) &&
    scope.api_key_id ≠ other.api_key_id && client_ip scope.headers ≠ client_ip other.headers

/-- A send of the same company to another conversation. -/
def other_conversation (scope other : RateLimitScope) : Bool :=
  scope.family = "messages:send" && other.family = "messages:send" && scope.project_id = other.project_id &&
    scope.company_id = other.company_id && scope.resource_id ≠ other.resource_id

theorem other_conversation_same {scope other : RateLimitScope} (h : other_conversation scope other = true) :
    other.family = scope.family ∧ scope.project_id = other.project_id := by
  simp only [other_conversation, Bool.and_eq_true, decide_eq_true_eq] at h
  exact ⟨h.1.1.1.2.trans h.1.1.1.1.symm, h.1.1.2⟩

section Project

variable {rate_limits : RateLimitConfig} {present : RateLimitScope → Prop} {removed : RateLimitScope → Bool}
  {scope other : RateLimitScope}

/-- Calls of one family and one project have the bucket of the project in common. -/
theorem shared_in_project (hmade : scope.Made rate_limits) (hfamily : scope.family = other.family)
    (hproject : scope.project_id = other.project_id) : ¬ BucketsApart scope other := by
  rintro (hne | hbuckets)
  · exact hne hfamily
  · obtain ⟨project_id, hsome⟩ := Option.isSome_iff_exists.mp hmade.project
    exact hbuckets .project project_id hsome (hproject.symm.trans hsome)

theorem Reached.removed_family (h : Reached present removed scope) :
    ∃ other, present other ∧ removed other = true ∧ other.family = scope.family := by
  induction h with
  | direct hpresent hremoved hshared => exact ⟨_, hpresent, hremoved, (family_of_shared hshared).symm⟩
  | through _ _ _ hshared ih =>
    obtain ⟨other, hpresent, hremoved, hfamily⟩ := ih
    exact ⟨other, hpresent, hremoved, hfamily.trans (family_of_shared hshared).symm⟩

/-- Within one project, as all the routes have the same one, a call is got at by every
removed call of its family. -/
theorem reached_in_project_iff (hmade : scope.Made rate_limits)
    (hproject : ∀ other, present other → removed other = true → scope.project_id = other.project_id) :
    Reached present removed scope ↔
      ∃ other, present other ∧ removed other = true ∧ other.family = scope.family := by
  constructor
  · exact Reached.removed_family
  · rintro ⟨other, hpresent, hremoved, hfamily⟩
    exact .direct hpresent hremoved (shared_in_project hmade hfamily.symm (hproject other hpresent hremoved))

end Project

/-- A check of a call as the limiter has it. -/
def RateLimitScope.call (scope : RateLimitScope) (clock : Clock) : Call where
  clock
  keys := scope.keys
  max_per_minute := scope.max_per_minute
  nodup := keys_nodup scope
  fits := scope.fits

/-- The accepted checks of the minute that were counted in a call's bucket. -/
def accepted_calls (history : History) (clock : Clock) (scope : RateLimitScope) (bucket : Bucket) : Nat :=
  (bucket.owner scope).elim 0 fun owner =>
    history.accepted_in clock.current_window_minute (bucket.key scope.family owner)

/-- The verdict of a call is what the limit of its resource says: it is accepted as long as
fewer calls than the limit have been accepted for the resource. -/
def OwnVerdict (history : History) (clock : Clock) (scope : RateLimitScope) : Prop :=
  (enforce_rate_limit history.limiter clock scope).1 = .ok () ↔
    accepted_calls history clock scope .resource < scope.max_per_minute

section OwnVerdict

variable {calls : List Call} {history : History} {clock : Clock} {scope : RateLimitScope}

theorem accepted_iff_all_buckets (hrun : Run History.Step {} calls history)
    (htimely : history.Timely (scope.call clock)) :
    (enforce_rate_limit history.limiter clock scope).1 = .ok () ↔
      ∀ bucket, accepted_calls history clock scope bucket < scope.max_per_minute := by
  obtain ⟨-, hcounted⟩ := History.Accounted.run hrun clock.current_window_minute
    (History.Timely.minutes htimely)
  have hverdict : (enforce_rate_limit history.limiter clock scope).1 = .ok () ↔ 0 < scope.max_per_minute ∧
      ∀ key ∈ scope.keys, history.accepted_in clock.current_window_minute key < scope.max_per_minute := by
    rw [enforce_rate_limit_verdict]
    simp only [hcounted]
    split
    · next hroom => exact iff_of_true rfl hroom
    · next hfull => exact iff_of_false nofun hfull
  rw [hverdict]
  constructor
  · rintro ⟨hpos, hroom⟩ bucket
    unfold accepted_calls
    cases howner : bucket.owner scope with
    | none => exact hpos
    | some owner => exact hroom _ (mem_keys_iff.mpr ⟨bucket, owner, howner, rfl⟩)
  · intro hall
    refine ⟨Nat.zero_lt_of_lt (hall .api_key), fun key hkey => ?_⟩
    obtain ⟨bucket, owner, howner, rfl⟩ := mem_keys_iff.mp hkey
    have hroom := hall bucket
    rw [accepted_calls, howner] at hroom
    exact hroom

/-- That is so when the resource's calls have reached the limit, or those of the caller, the
address, the project and the company have not. -/
theorem own_verdict_iff (hrun : Run History.Step {} calls history)
    (htimely : history.Timely (scope.call clock)) :
    OwnVerdict history clock scope ↔
      scope.max_per_minute ≤ accepted_calls history clock scope .resource ∨
        ∀ bucket ≠ .resource, accepted_calls history clock scope bucket < scope.max_per_minute := by
  rw [OwnVerdict, accepted_iff_all_buckets hrun htimely]
  constructor
  · intro hown
    by_cases hroom : accepted_calls history clock scope .resource < scope.max_per_minute
    · exact Or.inr fun bucket _ => hown.mpr hroom bucket
    · exact Or.inl (Nat.le_of_not_lt hroom)
  · rintro (hfull | hothers)
    · exact iff_of_false (fun hall => Nat.not_lt_of_le hfull (hall .resource)) (Nat.not_lt_of_le hfull)
    · refine ⟨fun hall => hall .resource, fun hroom bucket => ?_⟩
      by_cases hbucket : bucket = .resource
      · exact hbucket ▸ hroom
      · exact hothers bucket hbucket

end OwnVerdict

/-- The limits isolate a call from the calls of other companies exactly when its limit is zero,
or no chain of buckets in common leads from it to one of them. They isolate a send from the
sends to the company's other conversations exactly when its limit is zero, or there are none.
And a conversation's own sends decide the verdict of a send exactly when they have used up
the limit, or those of the caller, the address, the project and the company have not. -/
theorem limits_isolated_iff (rate_limits : RateLimitConfig) {present : RateLimitScope → Prop}
    {scope : RateLimitScope} (hmade : ∀ scope, present scope → scope.Made rate_limits)
    (hpresent : present scope) :
    (Unaffected present (foreign scope) scope ↔
        scope.max_per_minute = 0 ∨ ¬ Reached present (foreign scope) scope) ∧
      (Unaffected present (other_conversation scope) scope ↔
        scope.max_per_minute = 0 ∨ ∀ other, present other → other_conversation scope other = false) ∧
      ∀ calls history clock, Run History.Step {} calls history → history.Timely (scope.call clock) →
        (OwnVerdict history clock scope ↔
          scope.max_per_minute ≤ accepted_calls history clock scope .resource ∨
            ∀ bucket ≠ .resource, accepted_calls history clock scope bucket < scope.max_per_minute) := by
  refine ⟨unaffected_iff hmade hpresent (by simp [foreign]), ?_, ?_⟩
  · have hreached : Reached present (other_conversation scope) scope ↔
        ∃ other, present other ∧ other_conversation scope other = true ∧ other.family = scope.family :=
      reached_in_project_iff (hmade scope hpresent) fun other _ hremoved => (other_conversation_same hremoved).2
    rw [unaffected_iff hmade hpresent (by simp [other_conversation]), hreached]
    refine or_congr_right ⟨fun hnone other hother => ?_, ?_⟩
    · by_contra hremoved
      rw [Bool.not_eq_false] at hremoved
      exact hnone ⟨other, hother, hremoved, (other_conversation_same hremoved).1⟩
    · rintro hnone ⟨other, hother, hremoved, -⟩
      rw [hnone other hother] at hremoved
      cases hremoved
  · exact fun calls history clock hrun htimely => own_verdict_iff hrun htimely

/-- That calls of some kind affect no call, with the limits as they are unless set. -/
def VerdictsIsolated (removed : RateLimitScope → RateLimitScope → Bool) : Prop :=
  ∀ scope, scope.Made .from_env → Unaffected (RateLimitScope.Made .from_env) (removed scope) scope

/-- While there is room for all calls, each counts for a key that all of them have. -/
theorem counted_of_room {clock : Clock} {key : String} {limit : Nat} {requests : List Request}
    (hrequests : ∀ request ∈ requests, key ∈ request.scope.keys ∧ request.scope.max_per_minute = limit ∧
      request.clock = clock) : ∀ (limiter : RateLimiter) (count : Nat),
    (∀ key, limiter.counted clock.current_window_minute key ≤ count) → count + requests.length ≤ limit →
      (requests.foldl serve limiter).counted clock.current_window_minute key =
        limiter.counted clock.current_window_minute key + requests.length := by
  induction requests with
  | nil => exact fun _ _ _ _ => rfl
  | cons request requests ih =>
    intro limiter count hcount hlength
    obtain ⟨⟨hkey, hlimit, rfl⟩, hrest⟩ := List.forall_mem_cons.mp hrequests
    rw [List.length_cons] at hlength ⊢
    have hserved (key : String) : (serve limiter request).counted request.clock.current_window_minute key =
        limiter.counted request.clock.current_window_minute key +
          if key ∈ request.scope.keys then 1 else 0 := by
      have hroom : 0 < request.scope.max_per_minute ∧ ∀ key ∈ request.scope.keys,
          limiter.counted request.clock.current_window_minute key < request.scope.max_per_minute :=
        ⟨by omega, fun key _ => Nat.lt_of_le_of_lt (hcount key) (by omega)⟩
      rw [counted_serve limiter rfl, if_congr (and_iff_right hroom) rfl rfl]
    have hnext (key : String) :
        (serve limiter request).counted request.clock.current_window_minute key ≤ count + 1 := by
      have hbefore := hcount key
      rw [hserved]
      split <;> omega
    rw [List.foldl_cons, ih hrest _ _ hnext (by omega), hserved, if_pos hkey]
    omega

/-- As many calls as the limit allows, all with a bucket that another call has, leave nothing
for it. -/
theorem refused_after {removed : RateLimitScope → RateLimitScope → Bool} {scope : RateLimitScope}
    (hmade : scope.Made .from_env) (hpos : 0 < scope.max_per_minute) (clock : Clock) (requests : List Request)
    (hlength : requests.length = scope.max_per_minute) {key : String} (hkey : key ∈ scope.keys)
    (hrequests : ∀ request ∈ requests, request.scope.Made .from_env ∧ removed scope request.scope = true ∧
      key ∈ request.scope.keys ∧ request.scope.max_per_minute = scope.max_per_minute ∧ request.clock = clock) :
    ¬ VerdictsIsolated removed := by
  intro hisolated
  have hzero (key : String) : ({} : RateLimiter).counted clock.current_window_minute key = 0 := rfl
  have hrun : Run (Traffic (RateLimitScope.Made .from_env) clock.current_window_minute) {} requests
      (requests.foldl serve {}) :=
    traffic_run {} fun request hmem => ⟨(hrequests request hmem).1, (hrequests request hmem).2.2.2.2⟩
  have hremoved : requests.filter (fun request => !removed scope request.scope) = [] :=
    List.filter_eq_nil_iff.mpr fun request hmem => by simp [(hrequests request hmem).2.1]
  have hsame := hisolated scope hmade {} _ _ requests [] clock hrun (.nil _) hremoved
  have hfull : (requests.foldl serve {}).counted clock.current_window_minute key = scope.max_per_minute := by
    rw [counted_of_room (fun request hmem => (hrequests request hmem).2.2) {} 0 (fun key => (hzero key).le)
      (by omega), hzero, hlength, Nat.zero_add]
  rw [enforce_rate_limit_verdict, enforce_rate_limit_verdict, if_neg, if_pos] at hsame
  · cases hsame
  · exact ⟨hpos, fun key _ => (hzero key).symm ▸ hpos⟩
  · rintro ⟨-, hroom⟩
    exact absurd (hroom key hkey) (hfull ▸ Nat.lt_irrefl _)

namespace sample

def first_second : Clock where
  unix_seconds := 1
  refused_unix_seconds := 1

/-- A send at the start of 1970. -/
def send (address api_key_id company_id conversation_id : String) : Request where
  scope := (send_message_scopes .from_env [("x-real-ip", media.ascii address)] api_key_id "rustzap_internal"
    company_id conversation_id).1
  clock := first_second

theorem send_made (address api_key_id company_id conversation_id : String) :
    (send address api_key_id company_id conversation_id).scope.Made .from_env :=
  (send_message_scopes_made ..).1

/-- A request of another company for a transcription. -/
def transcription : RateLimitScope where
  headers := [("x-real-ip", media.ascii "10.0.0.2")]
  api_key_id := "key_b"
  project_id := some "rustzap_internal"
  company_id := some "company_b"
  family := "stt"
  resource_id := some "5511988887777"
  max_per_minute := 120

theorem transcription_made : transcription.Made .from_env where
  project := rfl
  company := rfl
  family := by decide
  resource := iff_of_true rfl (by decide : "stt" ∈ resource_families)
  limit := by decide

def send_a : Request :=
  send "10.0.0.1" "key_a" "company_a" "5511988887777"

/-- The calls of a minute in which company A sends to one conversation. -/
def present (scope : RateLimitScope) : Prop :=
  scope = send_a.scope ∨ scope = transcription

/-- Sends to twenty conversations. -/
def twenty_sends (address api_key_id company_id : String) : List Request :=
  (List.range 20).map fun n => send address api_key_id company_id ("conversation_" ++ toString n)

/-- They leave nothing for a first send to another conversation. -/
theorem not_isolated_of_twenty_sends {removed : RateLimitScope → RateLimitScope → Bool}
    {address api_key_id company_id : String}
    (hremoved : ∀ request ∈ twenty_sends address api_key_id company_id,
      removed send_a.scope request.scope = true) : ¬ VerdictsIsolated removed := by
  have hproject (address api_key_id company_id conversation_id : String) :
      "project:rustzap_internal:family:messages:send" ∈
        (send address api_key_id company_id conversation_id).scope.keys :=
    mem_keys_iff.mpr ⟨.project, "rustzap_internal", rfl, rfl⟩
  refine refused_after (show send_a.scope.Made .from_env from send_made ..) (by decide) first_second
    (twenty_sends address api_key_id company_id) rfl (hproject ..) ?_
  intro request hmem
  have hremoved := hremoved request hmem
  obtain ⟨n, -, rfl⟩ := List.mem_map.mp hmem
  exact ⟨send_made .., hremoved, hproject .., rfl, rfl⟩

end sample

/-- A send of company A is affected neither by the transcriptions of company B, be the message's
id that of the conversation, nor by sends to other conversations, of which there are none. -/
theorem send_unaffected :
    Unaffected sample.present (foreign sample.send_a.scope) sample.send_a.scope ∧
      Unaffected sample.present (other_conversation sample.send_a.scope) sample.send_a.scope := by
  have hmade : ∀ scope, sample.present scope → scope.Made .from_env := by
    rintro scope (rfl | rfl)
    · exact sample.send_made ..
    · exact sample.transcription_made
  obtain ⟨hcompanies, hsends, -⟩ := limits_isolated_iff .from_env hmade (Or.inl rfl)
  refine ⟨hcompanies.mpr (Or.inr fun hreached => ?_), hsends.mpr (Or.inr ?_)⟩
  · obtain ⟨other, rfl | rfl, hremoved, hfamily⟩ := hreached.removed_family
    · simp [foreign] at hremoved
    · exact absurd hfamily (by decide)
  · rintro other (rfl | rfl) <;> decide

/-- With the limit of twenty, the first send of a company to a conversation is refused after
twenty sends of another company, and after twenty sends to other conversations. -/
theorem limits_not_isolated : ¬ VerdictsIsolated foreign ∧ ¬ VerdictsIsolated other_conversation := by
  have hforeign : ∀ request ∈ sample.twenty_sends "10.0.0.2" "key_b" "company_b",
      foreign sample.send_a.scope request.scope = true := by
    decide +kernel
  have hothers : ∀ request ∈ sample.twenty_sends "10.0.0.1" "key_a" "company_a",
      other_conversation sample.send_a.scope request.scope = true := by
    decide +kernel
  exact ⟨sample.not_isolated_of_twenty_sends hforeign, sample.not_isolated_of_twenty_sends hothers⟩

end rustzap.state
