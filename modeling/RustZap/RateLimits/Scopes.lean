import RustZap.Media
import RustZap.RateLimits.Limiter

open collections runs
open rustzap.error rustzap.rate_limit

namespace rustzap.state

abbrev HeaderMap := List (String × List UInt8)

/-- The first value of a header, if its bytes are visible ASCII. -/
def HeaderMap.get_str (headers : HeaderMap) (name : String) : Option String :=
  ((headers.find? fun header => header.1 = name).map Prod.snd).bind fun value =>
    if value.all fun byte => byte = 9 || (32 ≤ byte && byte < 127) then
      some (String.ofList (value.map fun byte => Char.ofNat byte.toNat))
    else none

def client_ip (headers : HeaderMap) : String :=
  let forwarded := ((HeaderMap.get_str headers "x-forwarded-for").map fun value =>
    str.trim (str.first_piece value ',')).filter fun value => !str.is_empty value
  let real := ((HeaderMap.get_str headers "x-real-ip").map str.trim).filter fun value => !str.is_empty value
  (forwarded.or real).getD "unknown"

/-- Whose call is limited, and how. The limit is a number of 32 bits. -/
structure RateLimitScope where
  headers : HeaderMap
  api_key_id : String
  project_id : Option String
  company_id : Option String
  family : String
  resource_id : Option String
  max_per_minute : Nat
  fits : max_per_minute < 2 ^ 32 := by decide

namespace RateLimitScope

/-- The project and the company in one text, for a call that names both. -/
def tenant (scope : RateLimitScope) : Option String :=
  match scope.project_id, scope.company_id with
  | some project_id, some company_id => some (project_id ++ "/" ++ company_id)
  | _, _ => none

def keys (scope : RateLimitScope) : List String :=
  ["api_key:" ++ scope.api_key_id ++ ":family:" ++ scope.family,
      "ip:" ++ client_ip scope.headers ++ ":family:" ++ scope.family] ++
    (scope.project_id.map fun project_id => "project:" ++ project_id ++ ":family:" ++ scope.family).toList ++
    (scope.tenant.map fun tenant => "company:" ++ tenant ++ ":family:" ++ scope.family).toList ++
    (scope.resource_id.map fun resource_id => "resource:" ++ scope.family ++ ":" ++ resource_id).toList

end RateLimitScope

def enforce_rate_limit (limiter : RateLimiter) (clock : Clock) (scope : RateLimitScope) :
    ApiResult Unit × RateLimiter :=
  match limiter.check clock scope.keys scope.max_per_minute with
  | (.ok (), limiter) => (.ok (), limiter)
  | (.error decision, limiter) =>
    (.error (.RateLimited ("rate limit exceeded for " ++ scope.family ++ "; retry after " ++
      toString decision.retry_after_seconds ++ " seconds")), limiter)

/-- The settings that limit calls. A sixth one, `requests_per_minute_per_project`, is read
nowhere. -/
structure RateLimitConfig where
  send_message_per_minute_per_channel : Nat
  send_message_per_minute_per_conversation : Nat
  media_downloads_per_minute_per_channel : Nat
  stt_per_minute_per_project : Nat
  admin_requests_per_minute : Nat
  fits : ∀ limit ∈ [send_message_per_minute_per_channel, send_message_per_minute_per_conversation,
    media_downloads_per_minute_per_channel, stt_per_minute_per_project, admin_requests_per_minute],
      limit < 2 ^ 32 := by decide

/-- The settings of an environment that sets none of them. -/
def RateLimitConfig.from_env : RateLimitConfig where
  send_message_per_minute_per_channel := 120
  send_message_per_minute_per_conversation := 20
  media_downloads_per_minute_per_channel := 300
  stt_per_minute_per_project := 120
  admin_requests_per_minute := 300

/-- The setting that a family of calls is limited by. -/
def RateLimitConfig.limit (rate_limits : RateLimitConfig) (family : String) : Nat :=
  if family = "messages:send" then rate_limits.send_message_per_minute_per_conversation
  else if family = "messages:send:tenant" then rate_limits.send_message_per_minute_per_channel
  else if family = "media:upload" || family = "media:download" then
    rate_limits.media_downloads_per_minute_per_channel
  else if family = "stt" then rate_limits.stt_per_minute_per_project
  else rate_limits.admin_requests_per_minute

/-- The two scopes that `send_message` goes through. -/
def send_message_scopes (rate_limits : RateLimitConfig) (headers : HeaderMap)
    (api_key_id project_id company_id conversation_id : String) : RateLimitScope × RateLimitScope :=
  ({ headers, api_key_id, project_id := some project_id, company_id := some company_id,
     family := "messages:send", resource_id := some conversation_id,
     max_per_minute := rate_limits.send_message_per_minute_per_conversation,
     fits := rate_limits.fits _ (by simp) },
   { headers, api_key_id, project_id := some project_id, company_id := some company_id,
     family := "messages:send:tenant", resource_id := none,
     max_per_minute := rate_limits.send_message_per_minute_per_channel,
     fits := rate_limits.fits _ (by simp) })

section Verdicts

variable (limiter : RateLimiter) (clock : Clock) (scope : RateLimitScope)

/-- The verdict depends on the counts of the call's keys in the minute. -/
theorem enforce_rate_limit_verdict :
    (enforce_rate_limit limiter clock scope).1 =
      if 0 < scope.max_per_minute ∧
        ∀ key ∈ scope.keys, limiter.counted clock.current_window_minute key < scope.max_per_minute then .ok ()
      else .error (.RateLimited ("rate limit exceeded for " ++ scope.family ++ "; retry after " ++
        toString clock.seconds_until_next_minute ++ " seconds")) := by
  have hok := RateLimiter.check_ok_iff limiter clock scope.keys scope.max_per_minute
  rw [enforce_rate_limit]
  rcases hcheck : limiter.check clock scope.keys scope.max_per_minute with ⟨⟨decision⟩ | ⟨⟩, limiter'⟩
  · rw [hcheck] at hok
    rw [if_neg fun h => nomatch hok.mpr h]
    dsimp only
    rw [RateLimiter.check_error (congrArg Prod.fst hcheck)]
  · rw [hcheck] at hok
    rw [if_pos (hok.mp rfl)]

theorem enforce_rate_limit_snd :
    (enforce_rate_limit limiter clock scope).2 =
      (limiter.check clock scope.keys scope.max_per_minute).2 := by
  rw [enforce_rate_limit]
  rcases limiter.check clock scope.keys scope.max_per_minute with ⟨⟨decision⟩ | ⟨⟩, limiter'⟩ <;> rfl

end Verdicts

/-- The words that the call sites give for what they limit. -/
def families : List String :=
  ["messages:send", "messages:send:tenant", "media:upload", "media:download", "stt", "admin"]

/-- Those that come with a resource. -/
def resource_families : List String :=
  ["messages:send", "media:download", "stt"]

/-- A scope as one of the call sites makes it. -/
structure RateLimitScope.Made (rate_limits : RateLimitConfig) (scope : RateLimitScope) : Prop where
  project : scope.project_id.isSome
  company : scope.company_id.isSome
  family : scope.family ∈ families
  resource : scope.resource_id.isSome ↔ scope.family ∈ resource_families
  limit : scope.max_per_minute = rate_limits.limit scope.family

theorem RateLimitScope.Made.resource_family {rate_limits : RateLimitConfig} {scope : RateLimitScope}
    (h : scope.Made rate_limits) {resource_id : String} (hresource : scope.resource_id = some resource_id) :
    scope.family ∈ resource_families :=
  h.resource.mp (hresource ▸ rfl)

section Keys

variable {rate_limits : RateLimitConfig}

theorem family_of_suffix {name name' family family' : String} (hfamily : family ∈ families)
    (hfamily' : family' ∈ families) (heq : name ++ ":family:" ++ family = name' ++ ":family:" ++ family') :
    name = name' ∧ family = family' := by
  have hsuffixes : ∀ family ∈ families, ∀ family' ∈ families,
      (":family:" ++ family).toList <:+ (":family:" ++ family').toList → family = family' := by
    decide
  have hlist : name.toList ++ (":family:" ++ family).toList = name'.toList ++ (":family:" ++ family').toList := by
    simpa only [String.toList_append, List.append_assoc] using congrArg String.toList heq
  have hsame : family = family' := by
    rcases List.suffix_or_suffix_of_suffix (List.suffix_append name.toList _)
      (hlist ▸ List.suffix_append name'.toList _) with hsuffix | hsuffix
    · exact hsuffixes _ hfamily _ hfamily' hsuffix
    · exact (hsuffixes _ hfamily' _ hfamily hsuffix).symm
  subst hsame
  exact ⟨String.toList_injective (List.append_cancel_right hlist), rfl⟩

theorem resource_of_prefix {name name' family family' : String} (hfamily : family ∈ resource_families)
    (hfamily' : family' ∈ resource_families) (heq : family ++ ":" ++ name = family' ++ ":" ++ name') :
    family = family' ∧ name = name' := by
  have hprefixes : ∀ family ∈ resource_families, ∀ family' ∈ resource_families,
      (family ++ ":").toList <+: (family' ++ ":").toList → family = family' := by
    decide
  have hlist : (family ++ ":").toList ++ name.toList = (family' ++ ":").toList ++ name'.toList := by
    simpa only [String.toList_append, List.append_assoc] using congrArg String.toList heq
  have hsame : family = family' := by
    rcases List.prefix_or_prefix_of_prefix (List.prefix_append _ name.toList)
      (hlist ▸ List.prefix_append _ name'.toList) with hprefix | hprefix
    · exact hprefixes _ hfamily _ hfamily' hprefix
    · exact (hprefixes _ hfamily' _ hfamily hprefix).symm
  subst hsame
  exact ⟨rfl, String.toList_injective (List.append_cancel_left hlist)⟩

/-- The five buckets of a call. -/
inductive Bucket where
  | api_key | ip | project | company | resource
  deriving DecidableEq

namespace Bucket

/-- Whose the bucket is: what its key says besides the family. -/
def owner (scope : RateLimitScope) : Bucket → Option String
  | api_key => some scope.api_key_id
  | ip => some (client_ip scope.headers)
  | project => scope.project_id
  | company => scope.tenant
  | resource => scope.resource_id

def key (family owner : String) : Bucket → String
  | api_key => "api_key:" ++ owner ++ ":family:" ++ family
  | ip => "ip:" ++ owner ++ ":family:" ++ family
  | project => "project:" ++ owner ++ ":family:" ++ family
  | company => "company:" ++ owner ++ ":family:" ++ family
  | resource => "resource:" ++ family ++ ":" ++ owner

def initial : Bucket → Char
  | api_key => 'a'
  | ip => 'i'
  | project => 'p'
  | company => 'c'
  | resource => 'r'

theorem key_head (family owner : String) (bucket : Bucket) :
    (bucket.key family owner).toList.head? = some bucket.initial := by
  cases bucket <;> simp [key, initial]

theorem initial_injective : Function.Injective initial := by
  intro bucket bucket'
  cases bucket <;> cases bucket' <;> decide

/-- A key says which bucket it is of, what is limited and whose it is. -/
theorem key_inj {scope scope' : RateLimitScope} (hmade : scope.Made rate_limits)
    (hmade' : scope'.Made rate_limits)
    {bucket bucket' : Bucket} {owner owner' : String} (howner : bucket.owner scope = some owner)
    (howner' : bucket'.owner scope' = some owner')
    (heq : bucket.key scope.family owner = bucket'.key scope'.family owner') :
    bucket = bucket' ∧ scope.family = scope'.family ∧ owner = owner' := by
  have hhead : some bucket.initial = some bucket'.initial := by
    rw [← key_head scope.family owner, ← key_head scope'.family owner', heq]
  have hbucket := initial_injective (Option.some.inj hhead)
  subst hbucket
  refine ⟨rfl, ?_⟩
  have hcut {front : String} (heq : front ++ owner ++ ":family:" ++ scope.family =
      front ++ owner' ++ ":family:" ++ scope'.family) : scope.family = scope'.family ∧ owner = owner' := by
    have hlist := congrArg String.toList heq
    simp only [String.toList_append, List.append_assoc, List.append_cancel_left_eq] at hlist
    have hrest : owner ++ ":family:" ++ scope.family = owner' ++ ":family:" ++ scope'.family :=
      String.toList_injective (by simpa only [String.toList_append, List.append_assoc] using hlist)
    exact (family_of_suffix hmade.family hmade'.family hrest).symm
  cases bucket with
  | resource =>
    have hlist := congrArg String.toList heq
    simp only [key, String.toList_append, List.append_assoc, List.append_cancel_left_eq] at hlist
    exact resource_of_prefix (hmade.resource_family howner) (hmade'.resource_family howner')
      (String.toList_injective (by simpa only [String.toList_append, List.append_assoc] using hlist))
  | api_key => exact hcut heq
  | ip => exact hcut heq
  | project => exact hcut heq
  | company => exact hcut heq

end Bucket

/-- The key of each bucket that the call names an owner for. -/
theorem keys_eq (scope : RateLimitScope) :
    scope.keys = [Bucket.api_key, .ip, .project, .company, .resource].filterMap fun bucket =>
      (bucket.owner scope).map fun owner => bucket.key scope.family owner := by
  rw [RateLimitScope.keys]
  cases hproject : scope.project_id <;> cases hcompany : scope.company_id <;>
    cases hresource : scope.resource_id <;>
    simp [Bucket.owner, RateLimitScope.tenant, Bucket.key, hproject, hcompany, hresource]

theorem mem_keys_iff {scope : RateLimitScope} {key : String} :
    key ∈ scope.keys ↔
      ∃ bucket owner, Bucket.owner scope bucket = some owner ∧ bucket.key scope.family owner = key := by
  have hall (bucket : Bucket) : bucket ∈ [Bucket.api_key, .ip, .project, .company, .resource] := by
    cases bucket <;> decide
  simp only [keys_eq, List.mem_filterMap, Option.map_eq_some_iff, hall, true_and]

/-- No call names a key twice. -/
theorem keys_nodup (scope : RateLimitScope) : scope.keys.Nodup := by
  rw [keys_eq]
  refine List.Nodup.filterMap (fun bucket bucket' key hkey hkey' => ?_) (by decide)
  obtain ⟨owner, -, rfl⟩ := Option.map_eq_some_iff.mp hkey
  obtain ⟨owner', -, heq⟩ := Option.map_eq_some_iff.mp hkey'
  refine Bucket.initial_injective (Option.some.inj ?_)
  rw [← Bucket.key_head scope.family owner, ← Bucket.key_head scope.family owner', heq]

/-- Calls that are limited apart: of another family, or with no owner of a bucket in common. -/
def BucketsApart (scope other : RateLimitScope) : Prop :=
  scope.family ≠ other.family ∨ ∀ bucket owner, Bucket.owner scope bucket = some owner →
    Bucket.owner other bucket ≠ some owner

theorem disjoint_keys_iff {scope other : RateLimitScope} (hmade : scope.Made rate_limits)
    (hmade' : other.Made rate_limits) :
    (∀ key ∈ scope.keys, key ∉ other.keys) ↔ BucketsApart scope other := by
  simp only [mem_keys_iff]
  constructor
  · intro hdisjoint
    by_contra hnot
    obtain ⟨hfamily, hshared⟩ := not_or.mp hnot
    push Not at hfamily hshared
    obtain ⟨bucket, owner, howner, howner'⟩ := hshared
    exact hdisjoint _ ⟨bucket, owner, howner, rfl⟩ ⟨bucket, owner, howner', by rw [hfamily]⟩
  · rintro hapart _ ⟨bucket, owner, howner, rfl⟩ ⟨bucket', owner', howner', heq⟩
    obtain ⟨rfl, hfamily, rfl⟩ := Bucket.key_inj hmade' hmade howner' howner heq
    rcases hapart with hne | hapart
    · exact hne hfamily.symm
    · exact hapart _ _ howner howner'

end Keys

structure Request where
  scope : RateLimitScope
  clock : Clock

def serve (limiter : RateLimiter) (request : Request) : RateLimiter :=
  (enforce_rate_limit limiter request.clock request.scope).2

/-- Calls within a minute, with scopes of some kind. -/
def Traffic (present : RateLimitScope → Prop) (minute : Nat) : RateLimiter → Request → RateLimiter → Prop :=
  Guarded (OfFun serve) fun _ request =>
    present request.scope ∧ request.clock.current_window_minute = minute

section Isolation

variable {rate_limits : RateLimitConfig} {limiter : RateLimiter} {request : Request} {minute : Nat}

theorem counted_serve (limiter : RateLimiter) (hminute : request.clock.current_window_minute = minute)
    (key : String) :
    (serve limiter request).counted minute key = limiter.counted minute key +
      if (0 < request.scope.max_per_minute ∧
        ∀ key ∈ request.scope.keys, limiter.counted minute key < request.scope.max_per_minute) ∧
          key ∈ request.scope.keys then 1 else 0 := by
  rw [serve, enforce_rate_limit_snd, ← hminute, RateLimiter.counted_check _ _ (keys_nodup _) request.scope.fits]
  simp only [RateLimiter.check_ok_iff]

/-- A call counts for no key but its own. -/
theorem counted_serve_of_not_mem (limiter : RateLimiter) (hminute : request.clock.current_window_minute = minute)
    {key : String} (hkey : key ∉ request.scope.keys) :
    (serve limiter request).counted minute key = limiter.counted minute key := by
  rw [counted_serve limiter hminute, if_neg fun h => hkey h.2, Nat.add_zero]

/-- Two limiters that agree on the counts of some keys. -/
def Agree (minute : Nat) (keys : String → Prop) (limiter limiter' : RateLimiter) : Prop :=
  ∀ key, keys key → limiter.counted minute key = limiter'.counted minute key

theorem Agree.verdict {keys : String → Prop} {limiter limiter' : RateLimiter} {clock : Clock}
    {scope : RateLimitScope} (h : Agree minute keys limiter limiter')
    (hminute : clock.current_window_minute = minute) (hkeys : ∀ key ∈ scope.keys, keys key) :
    (enforce_rate_limit limiter clock scope).1 = (enforce_rate_limit limiter' clock scope).1 := by
  have hsame : (∀ key ∈ scope.keys, limiter.counted minute key < scope.max_per_minute) ↔
      ∀ key ∈ scope.keys, limiter'.counted minute key < scope.max_per_minute :=
    forall₂_congr fun key hkey => by rw [h key (hkeys key hkey)]
  simp only [enforce_rate_limit_verdict, hminute, hsame]

theorem Agree.serve {keys : String → Prop} {limiter limiter' : RateLimiter}
    (h : Agree minute keys limiter limiter') (hminute : request.clock.current_window_minute = minute)
    (hkeys : ∀ key ∈ request.scope.keys, keys key) :
    Agree minute keys (serve limiter request) (serve limiter' request) := by
  intro key hkey
  have hsame : (∀ key ∈ request.scope.keys, limiter.counted minute key < request.scope.max_per_minute) ↔
      ∀ key ∈ request.scope.keys, limiter'.counted minute key < request.scope.max_per_minute :=
    forall₂_congr fun key hkey => by rw [h key (hkeys key hkey)]
  simp only [counted_serve _ hminute, h key hkey, hsame]

/-- The verdict of a call that stays is the same, whichever of the calls apart from the ones
that stay are made besides. -/
theorem verdict_unchanged {present : RateLimitScope → Prop} {stays : RateLimitScope → Bool}
    (hmade : ∀ scope, present scope → scope.Made rate_limits)
    (hapart : ∀ scope other, present scope → present other → stays scope = true → stays other = false →
      BucketsApart scope other)
    {limiter after after' : RateLimiter} {requests requests' : List Request} {clock : Clock}
    (hrun : Run (Traffic present clock.current_window_minute) limiter requests after)
    (hrun' : Run (Traffic present clock.current_window_minute) limiter requests' after')
    (hsame : requests.filter (fun request => stays request.scope) =
      requests'.filter fun request => stays request.scope)
    {scope : RateLimitScope} (hpresent : present scope) (hstays : stays scope = true) :
    (enforce_rate_limit after clock scope).1 = (enforce_rate_limit after' clock scope).1 := by
  -- the runs agree on the keys of the calls that stay
  let keys := fun key => ∃ scope, present scope ∧ stays scope = true ∧ key ∈ scope.keys
  have hagree : Agree clock.current_window_minute keys after after' := by
    refine Run.unwinding (fun request : Request => stays request.scope = true)
      (fun _ _ h key hkey => (h key hkey).symm) ?_ ?_ hrun hrun' (by simpa using hsame) (fun _ _ => rfl)
    · rintro limiter request _ limiter' hgoes h ⟨⟨hthere, hminute⟩, rfl⟩ key hkey
      obtain ⟨scope, hscope, hstay, hmem⟩ := hkey
      have hother := (disjoint_keys_iff (hmade _ hscope) (hmade _ hthere)).mpr
        (hapart _ _ hscope hthere hstay (Bool.eq_false_iff.mpr hgoes)) key hmem
      rw [counted_serve_of_not_mem limiter hminute hother]
      exact h key ⟨scope, hscope, hstay, hmem⟩
    · rintro limiter limiter' request _ _ hstay h ⟨⟨hthere, hminute⟩, rfl⟩ ⟨-, rfl⟩
      exact h.serve hminute fun key hkey => ⟨_, hthere, hstay, hkey⟩
  exact hagree.verdict rfl fun key hkey => ⟨_, hpresent, hstays, hkey⟩

end Isolation

theorem send_message_scopes_made (rate_limits : RateLimitConfig) (headers : HeaderMap)
    (api_key_id project_id company_id conversation_id : String) :
    (send_message_scopes rate_limits headers api_key_id project_id company_id conversation_id).1.Made
        rate_limits ∧
      (send_message_scopes rate_limits headers api_key_id project_id company_id conversation_id).2.Made
        rate_limits :=
  ⟨⟨rfl, rfl, List.mem_cons_self, iff_of_true rfl List.mem_cons_self, rfl⟩,
    ⟨rfl, rfl, List.mem_cons_of_mem _ List.mem_cons_self,
      iff_of_false Bool.false_ne_true (by decide : "messages:send:tenant" ∉ resource_families), rfl⟩⟩

end rustzap.state
