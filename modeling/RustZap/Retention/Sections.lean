import RustZap.State.Service
import RustZap.State.Sides

open collections serde_json runs
open rustzap.models

namespace rustzap.state

/-- Whether something of that time is older than a company keeps it. -/
def too_old (now : OffsetDateTime) (days : Option Nat) (time : OffsetDateTime) : Bool :=
  (retention_cutoff now days).any fun cutoff => time ≤ cutoff

/-- The media stand under their own ids, where everything that stores one puts it. -/
def MediaKeyed (inner : StoreInner) : Prop :=
  inner.media.Keyed MediaObject.id

theorem MediaKeyed.apply {self : AppState} {ctx : Ctx} {inner : StoreInner} (h : MediaKeyed inner)
    (op : Operation) : MediaKeyed (op.apply self ctx inner) := by
  by_cases hop : op.OnSides
  · cases op with
    | store op =>
      cases op with
      | prepare_send_message_with_actor project company conversation key request actor =>
        dsimp only [Operation.apply, StoreOp.apply]
        rcases prepare_send_message_with_actor_cases self ctx inner project company conversation key request
          actor (StoreOp.attaches_any self ctx inner _) with ⟨record, -, heq⟩ | ⟨-, ⟨err, heq⟩ | ⟨message, mid, hsides, -, -, -, heq⟩⟩
        · rw [heq]
          exact h
        · rw [heq]
          exact h
        · rw [heq]
          exact hsides.media_keyed h
      | _ => exact absurd hop not_false
    | finish_upload idem_key request_hash media_result =>
      dsimp only [Operation.apply, state.finish_upload]
      repeat' split
      all_goals exact h
    | remove_expired message_ids media_ids => exact HashMap.Keyed.retain h _
    | restart =>
      have hmedia : (restarted inner).media =
        (sanitize_updates_surfaces (sanitize_updates_surfaces inner.to_persisted)).media := rfl
      have hsanitized : ∀ store : PersistedStore, store.media.Keyed MediaObject.id →
          (sanitize_updates_surfaces store).media.Keyed MediaObject.id := by
        intro store hkeyed
        exact HashMap.Keyed.retain hkeyed _
      dsimp only [Operation.apply]
      rw [MediaKeyed, hmedia]
      exact hsanitized _ (hsanitized _ h)
    | _ => exact absurd hop not_false
  · exact (op.sides_kept self ctx hop (op.attaches_any self ctx inner)).media_keyed h

theorem MediaKeyed.step {self : AppState} {label : Ctx × Operation} {store store' : Store}
    (h : MediaKeyed store.inner) (hstep : Store.Lives self store label store') : MediaKeyed store'.inner := by
  obtain ⟨-, hnext⟩ := hstep
  intro media_id media hmedia
  rw [← hnext.media.lookup] at hmedia
  exact h.apply label.2 media_id media hmedia

/-- Whatever the service does, its media stand under their own ids. -/
theorem media_keyed_of_run {self : AppState} {labels : List (Ctx × Operation)} {store : Store}
    (hrun : Run (Store.Lives self) Store.empty labels store) : MediaKeyed store.inner :=
  hrun.invariant (fun _ _ _ h hstep => MediaKeyed.step h hstep) HashMap.Keyed.empty

/-- A transcript that the retention of a company removes for its age. -/
def expires (policy : CompanyPrivacyPolicy) (project_id company_id : String) (now : OffsetDateTime)
    (transcript : Transcript) : Bool :=
  transcript.project_id = project_id && transcript.company_id = company_id &&
    too_old now policy.transcript_retention_days transcript.updated_at

def redacted (now : OffsetDateTime) (transcript : Transcript) : Transcript :=
  { transcript with
    text := none
    raw_response_json := .object [("redacted", .bool true)]
    updated_at := now }

section Sections

variable {policy : CompanyPrivacyPolicy} {project_id company_id : String} {inner : StoreInner}
  {now : OffsetDateTime} {deleted : String → Bool}

theorem mem_candidate_message_ids_iff {message_id : String} :
    message_id ∈ policy.candidate_message_ids now inner project_id company_id ↔
      ∃ message, inner.messages_by_id.lookup message_id = some message ∧
        message.project_id = project_id ∧ message.company_id = company_id ∧
        too_old now policy.message_retention_days message.created_at = true := by
  unfold CompanyPrivacyPolicy.candidate_message_ids too_old
  cases retention_cutoff now policy.message_retention_days with
  | none => simp
  | some cutoff =>
    simp only [HashMap.mem_keys_iff, HashMap.lookup_retain_eq_some_iff, Bool.and_eq_true,
      decide_eq_true_eq, Option.any_some, and_assoc]

theorem mem_candidate_media_iff {media : MediaObject} :
    media ∈ policy.candidate_media now inner project_id company_id ↔
      media ∈ inner.media.values ∧
        ((∃ message_id ∈ policy.candidate_message_ids now inner project_id company_id,
            media.message_id = some message_id) ∨
          (is_temp_status media.storage_status = true ∧ media.project_id = project_id ∧
            media.company_id = company_id ∧
            too_old now policy.media_temp_retention_days media.created_at = true)) := by
  unfold CompanyPrivacyPolicy.candidate_media too_old
  rw [List.mem_filter]
  refine and_congr_right fun _ => ?_
  rw [Bool.or_eq_true]
  refine or_congr ?_ (by simp only [Bool.and_eq_true, decide_eq_true_eq, and_assoc])
  cases media.message_id with
  | none => simp
  | some message_id => simp

theorem expire_transcripts_eq {cutoff : OffsetDateTime}
    (hcutoff : retention_cutoff now policy.transcript_retention_days = some cutoff) :
    expire_transcripts inner project_id company_id cutoff =
      { inner with
        transcripts := inner.transcripts.retain fun _ transcript =>
          !expires policy project_id company_id now transcript } := by
  unfold expires too_old
  rw [hcutoff]
  rfl

theorem no_transcripts_expire (hcutoff : retention_cutoff now policy.transcript_retention_days = none) :
    (inner.transcripts.retain fun _ transcript => !expires policy project_id company_id now transcript) =
      inner.transcripts := by
  refine HashMap.retain_eq_self _ fun entry _ => ?_
  unfold expires too_old
  rw [hcutoff]
  simp

/-- What the retention makes of the transcripts: those of removed messages and the old
ones go, and the rest is redacted where the company keeps none. -/
def kept_transcripts (policy : CompanyPrivacyPolicy) (project_id company_id : String) (inner : StoreInner)
    (now : OffsetDateTime) (deleted : String → Bool) : HashMap String Transcript :=
  ((inner.transcripts.retain fun message_id _ =>
      !(policy.removable_message_ids now inner project_id company_id deleted).contains message_id).retain
    fun _ transcript => !expires policy project_id company_id now transcript).map_values
    fun _ transcript => if !policy.allow_transcript_storage && redacts project_id company_id transcript then
      redacted now transcript else transcript

/-- The retention of a company in one piece. -/
theorem retention_sections :
    apply_company_retention now inner project_id company_id policy deleted =
      { remove_expired inner (policy.removable_message_ids now inner project_id company_id deleted)
          (policy.removable_media_ids now inner project_id company_id deleted) with
        transcripts := kept_transcripts policy project_id company_id inner now deleted } := by
  have hexpired : (remove_expired inner
      (policy.removable_message_ids now inner project_id company_id deleted)
      (policy.removable_media_ids now inner project_id company_id deleted)).transcripts =
      inner.transcripts.retain fun message_id _ =>
        !(policy.removable_message_ids now inner project_id company_id deleted).contains message_id := rfl
  unfold apply_company_retention kept_transcripts
  dsimp only
  cases hcutoff : retention_cutoff now policy.transcript_retention_days with
  | none =>
    dsimp only
    rw [← hexpired, no_transcripts_expire hcutoff]
    cases policy.allow_transcript_storage with
    | true => rw [HashMap.map_values_eq_self _ fun _ _ => by simp]; rfl
    | false => rfl
  | some cutoff =>
    dsimp only
    rw [expire_transcripts_eq hcutoff, ← hexpired]
    cases policy.allow_transcript_storage with
    | true => rw [HashMap.map_values_eq_self _ fun _ _ => by simp]; rfl
    | false => rfl

theorem kept_transcripts_lookup (message_id : String) :
    (apply_company_retention now inner project_id company_id policy deleted).transcripts.lookup message_id =
      ((inner.transcripts.lookup message_id).filter fun transcript =>
        !(policy.removable_message_ids now inner project_id company_id deleted).contains message_id &&
          !expires policy project_id company_id now transcript).map fun transcript =>
        if !policy.allow_transcript_storage && redacts project_id company_id transcript then
          redacted now transcript
        else transcript := by
  rw [retention_sections]
  dsimp only [kept_transcripts]
  rw [HashMap.lookup_map_values, HashMap.lookup_retain, HashMap.lookup_retain, Option.filter_filter]

theorem kept_messages_by_id :
    (apply_company_retention now inner project_id company_id policy deleted).messages_by_id =
      inner.messages_by_id.retain fun message_id _ =>
        !(policy.removable_message_ids now inner project_id company_id deleted).contains message_id := by
  rw [retention_sections]
  rfl

theorem kept_media :
    (apply_company_retention now inner project_id company_id policy deleted).media =
      inner.media.retain fun media_id _ =>
        !(policy.removable_media_ids now inner project_id company_id deleted).contains media_id := by
  rw [retention_sections]
  rfl

end Sections

end rustzap.state
