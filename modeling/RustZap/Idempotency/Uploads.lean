import RustZap.Lib.Exclusive
import RustZap.State.Service

open collections serde_json runs exclusive
open rustzap.error rustzap.media rustzap.models

namespace rustzap.state

/-- The hash of the fields of an upload. JSON values always serialize. -/
def outbound_media_upload_request_hash (self : AppState) (sha256_json : Value → String)
    (upload : OutboundMediaUpload) : String :=
  let bytes_sha256 := self.host.sha256_hex upload.bytes
  sha256_json (.object [("conversation_id", .string upload.conversation_id),
    ("media_type", Value.of_option upload.media_type), ("mime_type", Value.of_option upload.mime_type),
    ("filename", Value.of_option upload.filename), ("caption", Value.of_option upload.caption),
    ("bytes_sha256", .string bytes_sha256)])

section Sections

variable (self : AppState) (ctx : Ctx) (inner : StoreInner) (project_id company_id : String)
  (upload : OutboundMediaUpload)

/-- The first critical section of an upload, which reads where the medium belongs. -/
def upload_conversation : ApiResult String :=
  if upload.bytes = [] then .error (.BadRequest "upload file is empty")
  else if str.is_empty (str.trim upload.conversation_id) then
    .error (.BadRequest "conversation_id is required")
  else .ok (resolve_conversation_id_inner inner project_id company_id (str.trim upload.conversation_id))

/-- The second one, which reads the channel, with the checks and the staging before it. -/
def stage_upload (conversation_id : String) (staged : ApiResult Unit) : ApiResult (MediaObject × String) :=
  let decision := (media_limits self).classify upload.bytes.length
  let mime_type := (trimmed_or_none upload.mime_type).getD "application/octet-stream"
  if decision = .Rejected then
    .error (.PayloadTooLarge ("media upload is larger than " ++
      toString self.config.media_reject_threshold_mb ++ " MB"))
  else match (upload.media_type.map normalize_media_type).getD (.ok (infer_media_type mime_type)) with
    | .error err => .error err
    | .ok media_type =>
      match staged with
      | .error err => .error err
      | .ok _ =>
        if self.config.media_sniff_magic_bytes && !magic_matches_mime (some mime_type) upload.bytes then
          .error (.BadRequest ("upload magic bytes do not match declared MIME type " ++ mime_type))
        else
          let channel_id := (send_channel inner project_id company_id conversation_id).getD "channel_dev"
          .ok (uploaded_media self ctx project_id company_id conversation_id channel_id upload media_type
            mime_type (if decision = .Temp then "outbound-temp" else "quarantine"), channel_id)

/-- The last one, once the byte store has the bytes. -/
def store_upload (media : MediaObject) (channel_id : String) : StoreInner :=
  let inner := ensure_conversation_inner ctx inner project_id company_id media.conversation_id channel_id "manual"
  { inner with media := inner.media.insert media.id media }

theorem store_upload_frame (media : MediaObject) (channel_id : String) :
    ∃ conversations contacts, store_upload ctx inner project_id company_id media channel_id =
      { inner with conversations, contacts, media := inner.media.insert media.id media } := by
  unfold store_upload ensure_conversation_inner
  dsimp only
  split
  · exact ⟨_, _, rfl⟩
  · split <;> exact ⟨_, _, rfl⟩

/-- An upload that nothing comes in between of is its three sections, one after the other. -/
theorem upload_outbound_media_eq (answers : UploadAnswers) :
    upload_outbound_media self ctx inner project_id company_id upload answers =
      match upload_conversation inner project_id company_id upload with
      | .error err => (.error err, inner)
      | .ok conversation_id =>
        match stage_upload self ctx inner project_id company_id upload conversation_id answers.staged with
        | .error err => (.error err, inner)
        | .ok (media, channel_id) =>
          match answers.put with
          | .error err => (.error (.ProviderError err), inner)
          | .ok _ => (.ok media, store_upload ctx inner project_id company_id media channel_id) := by
  unfold upload_outbound_media upload_conversation stage_upload
  by_cases hbytes : upload.bytes = []
  · rw [if_pos hbytes, if_pos hbytes]
  rw [if_neg hbytes, if_neg hbytes]
  by_cases hempty : str.is_empty (str.trim upload.conversation_id) = true
  · rw [if_pos hempty, if_pos hempty]
  rw [if_neg hempty, if_neg hempty]
  dsimp only
  by_cases hrejected : (media_limits self).classify upload.bytes.length = .Rejected
  · rw [if_pos hrejected, if_pos hrejected]
  rw [if_neg hrejected, if_neg hrejected]
  cases (upload.media_type.map normalize_media_type).getD _ with
  | error err => rfl
  | ok media_type =>
    cases answers.staged with
    | error err => rfl
    | ok _ =>
      dsimp only
      split
      · rfl
      · cases answers.put <;> rfl

end Sections

/-- Staging fails with an internal error, for whatever reason. -/
def stage_media_bytes (written : Except String Unit) : ApiResult Unit :=
  written.mapError .Internal

/-- The drop of the guard of an upload that has not come to its end. -/
def drop_inflight_guard (inner : StoreInner) (key : String × String × String) (request_hash : String) :
    StoreInner :=
  if inner.media_upload_idempotency_inflight.lookup key = some request_hash then
    { inner with media_upload_idempotency_inflight := inner.media_upload_idempotency_inflight.erase key }
  else inner

/-- The error by which a call learns that it may not use the key. -/
def is_conflict : ApiError → Bool
  | .IdempotencyConflict _ => true
  | _ => false

/-- Where a call of `upload_outbound_media_idempotent` stands between two critical
sections: in the loop, in the upload that it makes, or behind it. From the loop on it
holds a guard, which is disarmed when it returns. -/
inductive UploadPhase where
  | looking (wait_attempts : Nat)
  | uploading
  | resolved (conversation_id : String)
  | staged (media : MediaObject) (channel_id : String)
  | uploaded (media_result : ApiResult MediaObject)
  | returned (result : ApiResult MediaObject)
  | cancelled

/-- What takes a call from one phase to the next, with what it learns there from
outside. -/
inductive UploadSection where
  | look
  | resolve
  | stage (ctx : Ctx) (written : Except String Unit)
  | put (ctx : Ctx) (answer : Except String Unit)
  | finish
  | cancel

/-- The calls under one key, each with an upload of its own. -/
structure UploadCalls (I : Type) where
  service : AppState
  sha256_json : Value → String
  project_id : String
  company_id : String
  idempotency_key : String
  upload : I → OutboundMediaUpload

/-- The store, how far each call has got, and the media objects that the calls have
created. -/
structure UploadRace (I : Type) where
  inner : StoreInner
  phase : I → UploadPhase
  created : List MediaObject

/-- Something happens in the service: a call goes on, or the store changes otherwise. -/
inductive UploadLabel (I : Type) where
  | go (call : I) (next : UploadSection)
  | other (inner : StoreInner)

/-- A change of the store that leaves alone what is noted under the key, and takes no
medium away. -/
structure Undisturbed (key : String × String × String) (inner inner' : StoreInner) : Prop where
  record : inner'.media_upload_idempotency.lookup key = inner.media_upload_idempotency.lookup key
  inflight : inner'.media_upload_idempotency_inflight.lookup key =
    inner.media_upload_idempotency_inflight.lookup key
  media : ∀ media_id media, inner.media.lookup media_id = some media →
    ∃ media', inner'.media.lookup media_id = some media' ∧ media'.id = media.id

namespace UploadPhase

/-- The call has claimed the key, and nobody else may upload under it. -/
def Claims : UploadPhase → Prop
  | .uploading | .resolved _ | .staged _ _ | .uploaded _ => True
  | _ => False

/-- The call is over. -/
def Over : UploadPhase → Prop
  | .returned _ | .cancelled => True
  | _ => False

/-- The media object that an upload has created when it comes back. -/
def created : UploadPhase → List MediaObject
  | .uploaded (.ok media) => [media]
  | _ => []

end UploadPhase

namespace UploadCalls

variable {I : Type} (calls : UploadCalls I)

def key : String × String × String :=
  (calls.project_id, calls.company_id, calls.idempotency_key)

def request_hash (call : I) : String :=
  outbound_media_upload_request_hash calls.service calls.sha256_json (calls.upload call)

/-- A round of the loop. A call that has to wait sleeps and counts the attempt. -/
def look (call : I) (inner : StoreInner) (wait_attempts : Nat) : UploadPhase × StoreInner :=
  match begin_upload inner calls.key (calls.request_hash call) with
  | (.answered result, inner) => (.returned result, inner)
  | (.upload, inner) => (.uploading, inner)
  | (.wait, inner) =>
    if wait_attempts + 1 > 12000 then
      (.returned (.error (.IdempotencyConflict "same Idempotency-Key upload is still in progress")), inner)
    else (.looking (wait_attempts + 1), inner)

/-- The critical section by which a call goes on from its phase. A call may be cancelled
while it sleeps and while the upload runs: its guard is then dropped, if it has one. -/
def go (call : I) (inner : StoreInner) : UploadSection → UploadPhase → Option (UploadPhase × StoreInner)
  | .look, .looking wait_attempts => some (calls.look call inner wait_attempts)
  | .resolve, .uploading =>
    match upload_conversation inner calls.project_id calls.company_id (calls.upload call) with
    | .error err => some (.uploaded (.error err), inner)
    | .ok conversation_id => some (.resolved conversation_id, inner)
  | .stage ctx written, .resolved conversation_id =>
    match stage_upload calls.service ctx inner calls.project_id calls.company_id (calls.upload call)
        conversation_id (stage_media_bytes written) with
    | .error err => some (.uploaded (.error err), inner)
    | .ok (media, channel_id) => some (.staged media channel_id, inner)
  | .put ctx answer, .staged media channel_id =>
    match answer with
    | .error err => some (.uploaded (.error (.ProviderError err)), inner)
    | .ok _ => some (.uploaded (.ok media),
        store_upload ctx inner calls.project_id calls.company_id media channel_id)
  | .finish, .uploaded media_result =>
    let finished := finish_upload inner calls.key (calls.request_hash call) media_result
    some (.returned finished.1, finished.2)
  | .cancel, .looking _ => some (.cancelled, inner)
  | .cancel, .uploading => some (.cancelled, drop_inflight_guard inner calls.key (calls.request_hash call))
  | .cancel, .resolved _ => some (.cancelled, drop_inflight_guard inner calls.key (calls.request_hash call))
  | .cancel, .staged _ _ => some (.cancelled, drop_inflight_guard inner calls.key (calls.request_hash call))
  | _, _ => none

/-- What is left of the store when a call lets go of the key. -/
def released (inner : StoreInner) : StoreInner :=
  { inner with media_upload_idempotency_inflight := inner.media_upload_idempotency_inflight.erase calls.key }

/-- All that a critical section of a call may come to. -/
inductive Moved (call : I) : UploadPhase → StoreInner → UploadPhase → StoreInner → Prop
  | answered {inner wait_attempts record} :
    inner.media_upload_idempotency.lookup calls.key = some record →
      Moved call (.looking wait_attempts) inner
        (.returned (replay_upload inner record (calls.request_hash call))) inner
  | refused {inner wait_attempts inflight_hash} :
    inner.media_upload_idempotency_inflight.lookup calls.key = some inflight_hash →
      inflight_hash ≠ calls.request_hash call →
        Moved call (.looking wait_attempts) inner (.returned (.error upload_conflict)) inner
  | waited {inner wait_attempts} :
    Moved call (.looking wait_attempts) inner (.looking (wait_attempts + 1)) inner
  | exhausted {inner wait_attempts} : 12000 ≤ wait_attempts →
    Moved call (.looking wait_attempts) inner (.returned (.error
      (.IdempotencyConflict "same Idempotency-Key upload is still in progress"))) inner
  | claimed {inner wait_attempts} : inner.media_upload_idempotency.lookup calls.key = none →
    inner.media_upload_idempotency_inflight.lookup calls.key = none →
      Moved call (.looking wait_attempts) inner .uploading { inner with
        media_upload_idempotency_inflight :=
          inner.media_upload_idempotency_inflight.insert calls.key (calls.request_hash call) }
  | worked {inner phase phase'} : phase.Claims → phase'.Claims → (∀ result, phase ≠ .uploaded result) →
    (∀ result, phase' = .uploaded result → ∃ err, result = .error err ∧ is_conflict err = false) →
      Moved call phase inner phase' inner
  | stored {inner media channel_id} (ctx : Ctx) :
    Moved call (.staged media channel_id) inner (.uploaded (.ok media))
      (store_upload ctx inner calls.project_id calls.company_id media channel_id)
  | failed {inner err} :
    Moved call (.uploaded (.error err)) inner (.returned (.error err)) (calls.released inner)
  | recorded {inner media} : inner.media_upload_idempotency.lookup calls.key = none →
    Moved call (.uploaded (.ok media)) inner (.returned (.ok media)) { calls.released inner with
      media_upload_idempotency := inner.media_upload_idempotency.insert calls.key
        { request_hash := calls.request_hash call, media_id := media.id } }
  | replayed {inner media record} : inner.media_upload_idempotency.lookup calls.key = some record →
    Moved call (.uploaded (.ok media)) inner
      (.returned (replay_upload (calls.released inner) record (calls.request_hash call))) (calls.released inner)
  | left {inner wait_attempts} : Moved call (.looking wait_attempts) inner .cancelled inner
  | dropped {inner phase} : phase.Claims → (∀ result, phase ≠ .uploaded result) →
    Moved call phase inner .cancelled (drop_inflight_guard inner calls.key (calls.request_hash call))

theorem look_moved (call : I) (inner : StoreInner) (wait_attempts : Nat) :
    calls.Moved call (.looking wait_attempts) inner (calls.look call inner wait_attempts).1
      (calls.look call inner wait_attempts).2 := by
  unfold look begin_upload
  cases hrecord : inner.media_upload_idempotency.lookup calls.key with
  | some record => exact .answered hrecord
  | none =>
    cases hinflight : inner.media_upload_idempotency_inflight.lookup calls.key with
    | none => exact .claimed hrecord hinflight
    | some inflight_hash =>
      dsimp only
      by_cases hhash : inflight_hash = calls.request_hash call
      · rw [if_neg (not_not.mpr hhash)]
        dsimp only
        split
        · next hattempts => exact .exhausted (by omega)
        · exact .waited
      · rw [if_pos hhash]
        exact .refused hinflight hhash

/-- An upload never fails for the sake of a key. -/
theorem upload_conversation_error {inner : StoreInner} {project_id company_id : String}
    {upload : OutboundMediaUpload} {err : ApiError}
    (herr : upload_conversation inner project_id company_id upload = .error err) : is_conflict err = false := by
  unfold upload_conversation at herr
  repeat' split at herr
  all_goals cases herr
  all_goals rfl

theorem normalize_media_type_error {value : String} {err : ApiError}
    (herr : normalize_media_type value = .error err) : is_conflict err = false := by
  unfold normalize_media_type at herr
  dsimp only at herr
  repeat' split at herr
  all_goals cases herr
  all_goals rfl

theorem stage_upload_error {self : AppState} {ctx : Ctx} {inner : StoreInner}
    {project_id company_id conversation_id : String} {upload : OutboundMediaUpload}
    {written : Except String Unit} {err : ApiError}
    (hstage : stage_upload self ctx inner project_id company_id upload conversation_id
      (stage_media_bytes written) = .error err) : is_conflict err = false := by
  unfold stage_upload at hstage
  dsimp only at hstage
  split at hstage
  · cases hstage
    rfl
  · split at hstage
    · next failure hfailure =>
      cases hstage
      cases hmedia : upload.media_type with
      | none =>
        rw [hmedia, Option.map_none, Option.getD_none] at hfailure
        cases hfailure
      | some value =>
        rw [hmedia, Option.map_some, Option.getD_some] at hfailure
        exact normalize_media_type_error hfailure
    · split at hstage
      · next failure hfailure =>
        cases hstage
        cases written with
        | ok _ => cases hfailure
        | error _ =>
          cases hfailure
          rfl
      · split at hstage
        · cases hstage
          rfl
        · cases hstage

theorem go_moved {call : I} {inner inner' : StoreInner} {phase phase' : UploadPhase} {next : UploadSection}
    (hgo : calls.go call inner next phase = some (phase', inner')) :
    calls.Moved call phase inner phase' inner' := by
  have hfailed : ∀ {err : ApiError} (result : ApiResult MediaObject), is_conflict err = false →
      UploadPhase.uploaded (.error err) = .uploaded result →
      ∃ err, result = .error err ∧ is_conflict err = false := by
    intro err result herr hresult
    exact ⟨err, (UploadPhase.uploaded.inj hresult).symm, herr⟩
  unfold go at hgo
  split at hgo
  · next wait_attempts =>
    have hlook := calls.look_moved call inner wait_attempts
    rwa [Option.some.inj hgo] at hlook
  · split at hgo
    · next err herr =>
      cases hgo
      exact .worked trivial trivial (fun _ h => by cases h)
        fun result h => hfailed result (upload_conversation_error herr) h
    · cases hgo
      exact .worked trivial trivial (fun _ h => by cases h) fun _ h => by cases h
  · split at hgo
    · next err herr =>
      cases hgo
      exact .worked trivial trivial (fun _ h => by cases h)
        fun result h => hfailed result (stage_upload_error herr) h
    · cases hgo
      exact .worked trivial trivial (fun _ h => by cases h) fun _ h => by cases h
  · split at hgo
    · cases hgo
      exact .worked trivial trivial (fun _ h => by cases h) fun result h => hfailed result rfl h
    · cases hgo
      exact .stored _
  · next media_result =>
    cases hgo
    unfold finish_upload
    cases media_result with
    | error err => exact .failed
    | ok media =>
      dsimp only
      cases hrecord : inner.media_upload_idempotency.lookup calls.key with
      | some record => exact .replayed hrecord
      | none => exact .recorded hrecord
  · cases hgo
    exact .left
  · cases hgo
    exact .dropped trivial fun _ h => by cases h
  · cases hgo
    exact .dropped trivial fun _ h => by cases h
  · cases hgo
    exact .dropped trivial fun _ h => by cases h
  · cases hgo

variable [DecidableEq I]

/-- The calls once one of them is in another phase. -/
def entered (race : UploadRace I) (call : I) (after : UploadPhase × StoreInner) : UploadRace I where
  inner := after.2
  phase := Function.update race.phase call after.1
  created := race.created ++ after.1.created

/-- One step of the service while the calls are under way. -/
def Step (race : UploadRace I) (label : UploadLabel I) (race' : UploadRace I) : Prop :=
  match label with
  | .go call next => ∃ after, calls.go call race.inner next (race.phase call) = some after ∧
      race' = entered race call after
  | .other inner => Undisturbed calls.key race.inner inner ∧ race' = { race with inner }

/-- What holds between any two sections: one call at most has claimed the key, and as long
as it has, nothing is recorded; a media object has been created only where one is recorded
or about to be; and every call that came back with a medium came back with the recorded
one. -/
structure Orderly (race : UploadRace I) : Prop where
  exclusive : Exclusive (fun call => (race.phase call).Claims) calls.request_hash
    (race.inner.media_upload_idempotency_inflight.lookup calls.key)
  unrecorded : ∀ call, (race.phase call).Claims →
    race.inner.media_upload_idempotency.lookup calls.key = none
  nothing_created : race.inner.media_upload_idempotency.lookup calls.key = none →
    (∀ call media, race.phase call ≠ .uploaded (.ok media)) → race.created = []
  created : race.created.length ≤ 1
  uploaded : ∀ call media, race.phase call = .uploaded (.ok media) →
    ∃ stored, race.inner.media.lookup media.id = some stored ∧ stored.id = media.id
  answered : ∀ call media, race.phase call = .returned (.ok media) → ∃ record stored,
    race.inner.media_upload_idempotency.lookup calls.key = some record ∧
    race.inner.media.lookup record.media_id = some stored ∧ stored.id = media.id
  failed : ∀ call err, race.phase call = .uploaded (.error err) → is_conflict err = false

section Orderly

variable {calls} {race : UploadRace I} {call : I} {phase' : UploadPhase} {inner' : StoreInner}

theorem entered_phase (other : I) :
    (entered race call (phase', inner')).phase other = if other = call then phase' else race.phase other :=
  Function.update_apply ..

theorem entered_claims_iff (hclaims : phase'.Claims ↔ (race.phase call).Claims) (other : I) :
    ((entered race call (phase', inner')).phase other).Claims ↔ (race.phase other).Claims := by
  rw [entered_phase]
  split
  · next hother =>
    rw [hother]
    exact hclaims
  · rfl

theorem entered_unclaimed (hclaims : ¬ phase'.Claims) {other : I}
    (hother : ((entered race call (phase', inner')).phase other).Claims) :
    (race.phase other).Claims ∧ other ≠ call := by
  rw [entered_phase] at hother
  split at hother
  · exact absurd hother hclaims
  · next hne => exact ⟨hother, hne⟩

theorem Orderly.release (h : calls.Orderly race) (howns : (race.phase call).Claims) (hclaims : ¬ phase'.Claims) :
    Exclusive (fun other => ((entered race call (phase', inner')).phase other).Claims) calls.request_hash none :=
  h.exclusive.release howns fun _ => entered_unclaimed hclaims

/-- A section that creates nothing and records nothing. -/
theorem Orderly.move (h : calls.Orderly race) (hold : ∀ media, race.phase call ≠ .uploaded (.ok media))
    (hnew : ∀ media, phase' ≠ .uploaded (.ok media))
    (hrecord : inner'.media_upload_idempotency = race.inner.media_upload_idempotency)
    (hmedia : inner'.media = race.inner.media)
    (hexclusive : Exclusive (fun other => ((entered race call (phase', inner')).phase other).Claims)
      calls.request_hash (inner'.media_upload_idempotency_inflight.lookup calls.key))
    (hunrecorded : phase'.Claims → race.inner.media_upload_idempotency.lookup calls.key = none)
    (hanswered : ∀ media, phase' = .returned (.ok media) → ∃ record stored,
      race.inner.media_upload_idempotency.lookup calls.key = some record ∧
      race.inner.media.lookup record.media_id = some stored ∧ stored.id = media.id)
    (hfailed : ∀ err, phase' = .uploaded (.error err) → is_conflict err = false) :
    calls.Orderly (entered race call (phase', inner')) := by
  have hcreated : phase'.created = [] := by
    cases phase' with
    | uploaded result =>
      cases result with
      | ok media => exact absurd rfl (hnew media)
      | error err => rfl
    | _ => rfl
  have hcreated : (entered race call (phase', inner')).created = race.created := by
    rw [entered, hcreated, List.append_nil]
  refine ⟨hexclusive, ?_, ?_, ?_, ?_, ?_, ?_⟩
  · intro other hclaims
    rw [entered_phase] at hclaims
    change inner'.media_upload_idempotency.lookup calls.key = none
    rw [hrecord]
    split at hclaims
    · exact hunrecorded hclaims
    · exact h.unrecorded other hclaims
  · intro hnone hnothing
    change inner'.media_upload_idempotency.lookup calls.key = none at hnone
    rw [hrecord] at hnone
    rw [hcreated]
    refine h.nothing_created hnone fun other media hother => ?_
    by_cases hsame : other = call
    · exact hold media (hsame ▸ hother)
    · have hthen := hnothing other media
      rw [entered_phase, if_neg hsame] at hthen
      exact hthen hother
  · rw [hcreated]
    exact h.created
  · intro other media hother
    change ∃ stored, inner'.media.lookup media.id = some stored ∧ stored.id = media.id
    rw [hmedia]
    rw [entered_phase] at hother
    split at hother
    · exact absurd hother (hnew media)
    · exact h.uploaded other media hother
  · intro other media hother
    change ∃ record stored, inner'.media_upload_idempotency.lookup calls.key = some record ∧
      inner'.media.lookup record.media_id = some stored ∧ stored.id = media.id
    rw [hrecord, hmedia]
    rw [entered_phase] at hother
    split at hother
    · exact hanswered media hother
    · exact h.answered other media hother
  · intro other err hother
    rw [entered_phase] at hother
    split at hother
    · exact hfailed err hother
    · exact h.failed other err hother

theorem replay_upload_ok {inner : StoreInner} {record : MediaUploadIdempotencyRecord} {request_hash : String}
    {media : MediaObject} (hreplay : replay_upload inner record request_hash = .ok media) :
    inner.media.lookup record.media_id = some media := by
  unfold replay_upload at hreplay
  split at hreplay
  · split at hreplay
    · next stored hstored =>
      cases hreplay
      exact hstored
    · cases hreplay
  · cases hreplay

/-- A call that answers or sleeps leaves the store as it is. -/
theorem Orderly.idle (h : calls.Orderly race) (hold : ¬ (race.phase call).Claims) (hnew : ¬ phase'.Claims)
    (hanswered : ∀ media, phase' = .returned (.ok media) → ∃ record stored,
      race.inner.media_upload_idempotency.lookup calls.key = some record ∧
      race.inner.media.lookup record.media_id = some stored ∧ stored.id = media.id) :
    calls.Orderly (entered race call (phase', race.inner)) := by
  refine h.move ?_ ?_ rfl rfl (h.exclusive.keep (entered_claims_iff (iff_of_false hnew hold))) ?_ hanswered ?_
  · intro media hphase
    rw [hphase] at hold
    exact hold trivial
  · intro media hphase
    rw [hphase] at hnew
    exact hnew trivial
  · exact fun hclaims => absurd hclaims hnew
  · intro err hphase
    rw [hphase] at hnew
    exact absurd trivial hnew

/-- A call that gives the key up without a medium. -/
theorem Orderly.give_up (h : calls.Orderly race) (howns : (race.phase call).Claims)
    (hold : ∀ media, race.phase call ≠ .uploaded (.ok media)) (hnew : ¬ phase'.Claims)
    (hrecord : inner'.media_upload_idempotency = race.inner.media_upload_idempotency)
    (hmedia : inner'.media = race.inner.media)
    (hfree : inner'.media_upload_idempotency_inflight.lookup calls.key = none)
    (hanswered : ∀ media, phase' ≠ .returned (.ok media)) :
    calls.Orderly (entered race call (phase', inner')) := by
  refine h.move hold ?_ hrecord hmedia (hfree ▸ h.release howns hnew) (fun hclaims => absurd hclaims hnew)
    (fun media hphase => absurd hphase (hanswered media)) ?_
  · intro media hphase
    rw [hphase] at hnew
    exact hnew trivial
  · intro err hphase
    rw [hphase] at hnew
    exact absurd trivial hnew

/-- The upload has succeeded, and the medium is stored. -/
theorem Orderly.store (h : calls.Orderly race) {media : MediaObject} {channel_id : String}
    (hphase : race.phase call = .staged media channel_id) (ctx : Ctx) :
    calls.Orderly (entered race call (.uploaded (.ok media),
      store_upload ctx race.inner calls.project_id calls.company_id media channel_id)) := by
  have howns : (race.phase call).Claims := by
    rw [hphase]
    trivial
  have honly : ∀ other result, race.phase other = .uploaded result → False := by
    intro other result hother
    have hsame := h.exclusive.unique other call (by rw [hother]; trivial) howns
    rw [hsame, hphase] at hother
    cases hother
  have hnone := h.unrecorded call howns
  have hcreated : race.created = [] := h.nothing_created hnone fun other media hother => honly other _ hother
  obtain ⟨conversations, contacts, hstore⟩ := store_upload_frame ctx race.inner calls.project_id
    calls.company_id media channel_id
  rw [hstore]
  refine ⟨h.exclusive.keep (entered_claims_iff (iff_of_true trivial howns)), fun _ _ => hnone, ?_, ?_, ?_, ?_, ?_⟩
  · intro _ hnothing
    exact absurd rfl ((entered_phase call).trans (if_pos rfl) ▸ hnothing call media)
  · rw [entered, hcreated]
    exact le_refl 1
  · intro other uploaded hother
    rw [entered_phase] at hother
    split at hother
    · cases hother
      exact ⟨media, AList.lookup_insert _, rfl⟩
    · exact (honly other _ hother).elim
  · intro other answered hother
    rw [entered_phase] at hother
    split at hother
    · cases hother
    · obtain ⟨record, -, hrecord, -⟩ := h.answered other answered hother
      cases hnone.symm.trans hrecord
  · intro other err hother
    rw [entered_phase] at hother
    split at hother
    · cases hother
    · exact (honly other _ hother).elim

/-- The medium is recorded under the key, for the calls that are to come. -/
theorem Orderly.record (h : calls.Orderly race) {media : MediaObject}
    (hphase : race.phase call = .uploaded (.ok media)) :
    calls.Orderly (entered race call (.returned (.ok media), { calls.released race.inner with
      media_upload_idempotency := race.inner.media_upload_idempotency.insert calls.key
        { request_hash := calls.request_hash call, media_id := media.id } })) := by
  have howns : (race.phase call).Claims := by
    rw [hphase]
    trivial
  have honly : ∀ other result, other ≠ call → race.phase other = .uploaded result → False := by
    intro other result hne hother
    exact hne (h.exclusive.unique other call (by rw [hother]; trivial) howns)
  have hnone := h.unrecorded call howns
  have hrecord : (race.inner.media_upload_idempotency.insert calls.key
      { request_hash := calls.request_hash call, media_id := media.id }).lookup calls.key =
      some { request_hash := calls.request_hash call, media_id := media.id } := AList.lookup_insert _
  have hfree : (calls.released race.inner).media_upload_idempotency_inflight.lookup calls.key = none :=
    AList.lookup_erase ..
  have hreleased : Exclusive
      (fun other => ((entered race call (.returned (.ok media), race.inner)).phase other).Claims)
      calls.request_hash none := h.release howns id
  refine ⟨hfree ▸ hreleased, ?_, ?_, ?_, ?_, ?_, ?_⟩
  · exact fun other hclaims => (hreleased.free other hclaims).elim
  · exact fun hnone' => by cases hnone'.symm.trans hrecord
  · rw [entered]
    exact (congrArg List.length (List.append_nil _)).le.trans h.created
  · intro other uploaded hother
    rw [entered_phase] at hother
    split at hother
    · cases hother
    · next hne => exact (honly other _ hne hother).elim
  · intro other answered hother
    rw [entered_phase] at hother
    split at hother
    · cases hother
      obtain ⟨stored, hstored, hid⟩ := h.uploaded call media hphase
      exact ⟨_, stored, hrecord, hstored, hid⟩
    · obtain ⟨record, -, hbefore, -⟩ := h.answered other answered hother
      cases hnone.symm.trans hbefore
  · intro other err hother
    rw [entered_phase] at hother
    split at hother
    · cases hother
    · exact h.failed other err hother

theorem Orderly.moved (h : calls.Orderly race)
    (hmoved : calls.Moved call (race.phase call) race.inner phase' inner') :
    calls.Orderly (entered race call (phase', inner')) := by
  obtain ⟨inner, phases, created⟩ := race
  dsimp only at hmoved
  generalize hphase : phases call = phase at hmoved
  have hclaims : ((UploadRace.phase ⟨inner, phases, created⟩) call).Claims ↔ phase.Claims :=
    iff_of_eq (congrArg UploadPhase.Claims hphase)
  cases hmoved with
  | answered hrecord =>
    refine h.idle (mt hclaims.mp id) id fun media hmedia => ?_
    exact ⟨_, media, hrecord, replay_upload_ok (UploadPhase.returned.inj hmedia), rfl⟩
  | refused hinflight hhash => exact h.idle (mt hclaims.mp id) id fun media hmedia => by cases hmedia
  | waited => exact h.idle (mt hclaims.mp id) id fun media hmedia => by cases hmedia
  | exhausted hattempts => exact h.idle (mt hclaims.mp id) id fun media hmedia => by cases hmedia
  | claimed hnone hfree =>
    refine h.move (fun media hold => by cases hphase.symm.trans hold) (fun media hnew => by cases hnew) rfl rfl ?_
      (fun _ => hnone) (fun media hnew => by cases hnew) fun err hnew => by cases hnew
    have hexclusive := h.exclusive
    dsimp only at hexclusive
    rw [hfree] at hexclusive
    dsimp only
    rw [AList.lookup_insert]
    refine hexclusive.take fun other => ?_
    rw [entered_phase]
    split
    · next hother => exact iff_of_true trivial (Or.inl hother)
    · next hother => exact (or_iff_right hother).symm
  | worked howns howns' hold hnew =>
    refine h.move (fun media hmedia => hold _ (hphase.symm.trans hmedia)) (fun media hmedia => ?_) rfl rfl
      (h.exclusive.keep (entered_claims_iff (iff_of_true howns' (hclaims.mpr howns))))
      (fun _ => h.unrecorded call (hclaims.mpr howns)) (fun media hmedia => ?_) fun err hfailed => ?_
    · obtain ⟨err, herr, -⟩ := hnew _ hmedia
      cases herr
    · rw [hmedia] at howns'
      exact howns'.elim
    · obtain ⟨_, herr, hconflict⟩ := hnew _ hfailed
      cases herr
      exact hconflict
  | stored ctx => exact h.store hphase ctx
  | failed =>
    exact h.give_up (hclaims.mpr trivial) (fun media hmedia => by cases hphase.symm.trans hmedia) id rfl rfl
      (AList.lookup_erase ..) fun media hmedia => by cases hmedia
  | recorded hnone => exact h.record hphase
  | replayed hrecord => cases (h.unrecorded call (hclaims.mpr trivial)).symm.trans hrecord
  | left => exact h.idle (mt hclaims.mp id) id fun media hmedia => by cases hmedia
  | dropped howns hold =>
    have hmarked := h.exclusive.marked call (hclaims.mpr howns)
    have hdropped : drop_inflight_guard inner calls.key (calls.request_hash call) = calls.released inner :=
      if_pos hmarked
    rw [hdropped]
    exact h.give_up (hclaims.mpr howns) (fun media hmedia => hold _ (hphase.symm.trans hmedia)) id rfl rfl
      (AList.lookup_erase ..) fun media hmedia => by cases hmedia

omit [DecidableEq I] in
theorem Orderly.other (h : calls.Orderly race) (hother : Undisturbed calls.key race.inner inner') :
    calls.Orderly { race with inner := inner' } := by
  refine ⟨?_, ?_, ?_, h.created, ?_, ?_, h.failed⟩
  · dsimp only
    rw [hother.inflight]
    exact h.exclusive
  · dsimp only
    rw [hother.record]
    exact h.unrecorded
  · dsimp only
    rw [hother.record]
    exact h.nothing_created
  · intro call media hphase
    obtain ⟨stored, hstored, hid⟩ := h.uploaded call media hphase
    obtain ⟨stored', hstored', hid'⟩ := hother.media _ stored hstored
    exact ⟨stored', hstored', hid'.trans hid⟩
  · intro call media hphase
    obtain ⟨record, stored, hrecord, hstored, hid⟩ := h.answered call media hphase
    obtain ⟨stored', hstored', hid'⟩ := hother.media _ stored hstored
    exact ⟨record, stored', hother.record.trans hrecord, hstored', hid'.trans hid⟩

theorem Orderly.step {race' : UploadRace I} {label : UploadLabel I} (h : calls.Orderly race)
    (hstep : calls.Step race label race') : calls.Orderly race' := by
  cases label with
  | go call next =>
    obtain ⟨⟨phase', inner'⟩, hgo, rfl⟩ := hstep
    exact h.moved (calls.go_moved hgo)
  | other inner' =>
    obtain ⟨hother, rfl⟩ := hstep
    exact h.other hother

end Orderly

/-- No call has begun, and nobody has claimed the key. -/
structure Begins (race : UploadRace I) : Prop where
  looking : ∀ call, race.phase call = .looking 0
  free : race.inner.media_upload_idempotency_inflight.lookup calls.key = none
  created : race.created = []

omit [DecidableEq I] in
theorem Begins.orderly {race : UploadRace I} (h : calls.Begins race) : calls.Orderly race where
  exclusive := by
    rw [h.free]
    refine .of_free fun call => ?_
    rw [h.looking]
    exact id
  unrecorded call hclaims := by
    rw [h.looking] at hclaims
    exact hclaims.elim
  nothing_created _ _ := h.created
  created := by
    rw [h.created]
    exact Nat.zero_le 1
  uploaded call media hphase := by cases (h.looking call).symm.trans hphase
  answered call media hphase := by cases (h.looking call).symm.trans hphase
  failed call err hphase := by cases (h.looking call).symm.trans hphase

/-- The reasons for which a call may be refused: the key is recorded or claimed for
another upload, or the call has waited as often as it may. -/
def Refusable (race : UploadRace I) (call : I) : Prop :=
  (∃ record, race.inner.media_upload_idempotency.lookup calls.key = some record ∧
    record.request_hash ≠ calls.request_hash call) ∨
  (∃ inflight_hash, race.inner.media_upload_idempotency_inflight.lookup calls.key = some inflight_hash ∧
    inflight_hash ≠ calls.request_hash call) ∨
  ∃ wait_attempts, race.phase call = .looking wait_attempts ∧ 12000 ≤ wait_attempts

/-- That calls under one key amount to one upload. -/
structure UploadOnce (race : UploadRace I) : Prop where
  same_medium : ∀ first second media media', race.phase first = .returned (.ok media) →
    race.phase second = .returned (.ok media') → media.id = media'.id
  one_created : race.created.length ≤ 1
  refused : ∀ label race' call text, calls.Step race label race' → ¬ (race.phase call).Over →
    race'.phase call = .returned (.error (.IdempotencyConflict text)) → calls.Refusable race call
  settled : (∀ call, (race.phase call).Over) →
    race.inner.media_upload_idempotency_inflight.lookup calls.key = none

section UploadOnce

variable {calls} {race : UploadRace I}

theorem replay_upload_conflict {inner : StoreInner} {record : MediaUploadIdempotencyRecord}
    {request_hash text : String} (hreplay : replay_upload inner record request_hash =
      .error (.IdempotencyConflict text)) : record.request_hash ≠ request_hash := by
  intro hhash
  unfold replay_upload at hreplay
  rw [if_pos hhash] at hreplay
  split at hreplay <;> cases hreplay

theorem Orderly.refused (h : calls.Orderly race) {label : UploadLabel I} {race' : UploadRace I} {call : I}
    {text : String} (hstep : calls.Step race label race') (hbefore : ¬ (race.phase call).Over)
    (hafter : race'.phase call = .returned (.error (.IdempotencyConflict text))) :
    calls.Refusable race call := by
  cases label with
  | other inner' =>
    obtain ⟨-, rfl⟩ := hstep
    rw [hafter] at hbefore
    exact absurd trivial hbefore
  | go mover next =>
    obtain ⟨⟨phase', inner'⟩, hgo, rfl⟩ := hstep
    rw [entered_phase] at hafter
    split at hafter
    · next hmover =>
      subst hmover
      subst hafter
      have hmoved := calls.go_moved hgo
      obtain ⟨inner, phases, created⟩ := race
      dsimp only at hmoved
      generalize hphase : phases call = phase at hmoved
      generalize hresult : UploadPhase.returned (.error (.IdempotencyConflict text)) = after at hmoved
      cases hmoved with
      | answered hrecord =>
        exact Or.inl ⟨_, hrecord, replay_upload_conflict (UploadPhase.returned.inj hresult).symm⟩
      | refused hinflight hhash => exact Or.inr (Or.inl ⟨_, hinflight, hhash⟩)
      | exhausted hattempts => exact Or.inr (Or.inr ⟨_, hphase, hattempts⟩)
      | worked howns howns' =>
        subst hresult
        exact howns'.elim
      | failed =>
        cases hresult
        cases h.failed call _ hphase
      | replayed hrecord =>
        have hclaims : (phases call).Claims := by
          rw [hphase]
          trivial
        cases (h.unrecorded call hclaims).symm.trans hrecord
      | waited => cases hresult
      | claimed hnone hfree => cases hresult
      | stored ctx => cases hresult
      | recorded hnone => cases hresult
      | left => cases hresult
      | dropped howns hold => cases hresult
    · rw [hafter] at hbefore
      exact absurd trivial hbefore

theorem Orderly.upload_once (h : calls.Orderly race) : calls.UploadOnce race where
  same_medium first second media media' hfirst hsecond := by
    obtain ⟨record, stored, hrecord, hstored, hid⟩ := h.answered first media hfirst
    obtain ⟨record', stored', hrecord', hstored', hid'⟩ := h.answered second media' hsecond
    cases hrecord.symm.trans hrecord'
    cases hstored.symm.trans hstored'
    exact hid.symm.trans hid'
  one_created := h.created
  refused _ _ _ _ hstep hbefore hafter := h.refused hstep hbefore hafter
  settled hover := by
    rw [Option.eq_none_iff_forall_ne_some]
    intro inflight_hash hinflight
    obtain ⟨call, hclaims⟩ := h.exclusive.owned inflight_hash hinflight
    have hcall := hover call
    cases hphase : race.phase call <;> rw [hphase] at hclaims hcall
    all_goals first | exact hclaims.elim | exact hcall.elim

end UploadOnce

end UploadCalls

open UploadCalls in
/-- Whatever the order in which the sections of the calls come, and whatever the uploads
come to, the calls under one key amount to one upload. -/
theorem concurrent_uploads_once {I : Type} [DecidableEq I] (calls : UploadCalls I) {race race' : UploadRace I}
    {labels : List (UploadLabel I)} (hbegins : calls.Begins race) (hrun : Run calls.Step race labels race') :
    calls.UploadOnce race' := by
  have horderly : calls.Orderly race' :=
    hrun.invariant (fun _ _ _ h hstep => h.step hstep) hbegins.orderly
  exact horderly.upload_once

namespace sample

/-- Two calls at once with the same upload. -/
def two_uploads : UploadCalls Bool where
  service := service
  sha256_json _ := "5c1e9bd4ef05e8fba4a2ef01ea2a1e53d6ea4b0ddf3a9cf38aa4aa1a0a0bd0c7"
  project_id := "acme"
  company_id := "company_a"
  idempotency_key := "key_1"
  upload _ :=
    { conversation_id := "5511988887777@s.whatsapp.net", media_type := some "document",
      mime_type := some "text/plain", filename := none, caption := none, bytes := [111, 105] }

/-- The second call waits for the first, and finds what it has left. -/
def two_uploads_sections : List (Bool × UploadSection) :=
  [(false, .look), (true, .look), (false, .resolve), (false, .stage (ctx 1 "a") (.ok ())), (true, .look),
    (false, .put (ctx 2 "b") (.ok ())), (false, .finish), (true, .look)]

def two_uploads_race : UploadRace Bool where
  inner := {}
  phase _ := .looking 0
  created := []

def raced (race : UploadRace Bool) : List (Bool × UploadSection) → Option (UploadRace Bool)
  | [] => some race
  | (call, next) :: sections =>
    ((two_uploads.go call race.inner next (race.phase call)).map (UploadCalls.entered race call)).bind fun race =>
      raced race sections

theorem raced_run (sections : List (Bool × UploadSection)) : ∀ race race', raced race sections = some race' →
    Run two_uploads.Step race (sections.map fun step => .go step.1 step.2) race' := by
  induction sections with
  | nil =>
    intro race race' hraced
    cases hraced
    exact .nil _
  | cons step sections ih =>
    intro race race' hraced
    obtain ⟨mid, hmid, hrest⟩ := Option.bind_eq_some_iff.mp hraced
    obtain ⟨after, hgo, hentered⟩ := Option.map_eq_some_iff.mp hmid
    exact .cons ⟨after, hgo, hentered.symm⟩ (ih mid race' hrest)

/-- Both calls have come back with a medium. -/
def both_answered (race : UploadRace Bool) : Bool :=
  match race.phase false, race.phase true with
  | .returned (.ok _), .returned (.ok _) => true
  | _, _ => false

end sample

/-- Two calls of which the second finds the first under way. -/
theorem two_uploads_once : ∃ race', Run sample.two_uploads.Step sample.two_uploads_race
    (sample.two_uploads_sections.map fun step => .go step.1 step.2) race' ∧
      sample.both_answered race' = true ∧ sample.two_uploads.UploadOnce race' := by
  have hraced : (sample.raced sample.two_uploads_race sample.two_uploads_sections).any sample.both_answered =
      true := by decide
  obtain ⟨race', hrace', hanswered⟩ := (Option.any_eq_true _ _).mp hraced
  have hrun := sample.raced_run _ _ _ hrace'
  exact ⟨race', hrun, hanswered, concurrent_uploads_once sample.two_uploads ⟨fun _ => rfl, rfl, rfl⟩ hrun⟩

end rustzap.state
