import RustZap.Retention.Sections
import RustZap.Inbound.Redelivery

open collections serde_json runs
open rustzap.models

namespace rustzap.state

/-- The retention of a company when every deletion of bytes succeeds. -/
def retained (policy : CompanyPrivacyPolicy) (project_id company_id : String) (inner : StoreInner)
    (now : OffsetDateTime) : StoreInner :=
  apply_company_retention now inner project_id company_id policy fun _ => true

def retention_reported (policy : CompanyPrivacyPolicy) (project_id company_id : String)
    (inner : StoreInner) (now : OffsetDateTime) : RetentionSummary :=
  company_retention_summary now inner project_id company_id policy fun _ => true

section Succeeding

variable {policy : CompanyPrivacyPolicy} {project_id company_id : String} {inner : StoreInner}
  {now : OffsetDateTime}

theorem deletes_all_bytes (media : MediaObject) :
    delete_media_object_bytes_best_effort (fun _ => true) media = true := by
  unfold delete_media_object_bytes_best_effort
  cases media.object_key <;> simp

theorem no_failed_message_ids :
    policy.failed_message_ids now inner project_id company_id (fun _ => true) = [] := by
  unfold CompanyPrivacyPolicy.failed_message_ids
  simp only [deletes_all_bytes, Bool.not_true, List.filter_false, List.filterMap_nil]

theorem removable_message_ids_eq :
    policy.removable_message_ids now inner project_id company_id (fun _ => true) =
      policy.candidate_message_ids now inner project_id company_id := by
  unfold CompanyPrivacyPolicy.removable_message_ids
  rw [no_failed_message_ids]
  exact List.filter_eq_self.mpr fun _ _ => rfl

theorem removable_media_ids_eq :
    policy.removable_media_ids now inner project_id company_id (fun _ => true) =
      (policy.candidate_media now inner project_id company_id).map MediaObject.id := by
  unfold CompanyPrivacyPolicy.removable_media_ids
  rw [no_failed_message_ids]
  congr 1
  refine List.filter_eq_self.mpr fun media _ => ?_
  rw [deletes_all_bytes]
  cases media.message_id <;> rfl

theorem retained_transcripts_lookup (message_id : String) :
    (retained policy project_id company_id inner now).transcripts.lookup message_id =
      ((inner.transcripts.lookup message_id).filter fun transcript =>
        !(policy.candidate_message_ids now inner project_id company_id).contains message_id &&
          !expires policy project_id company_id now transcript).map fun transcript =>
        if !policy.allow_transcript_storage && redacts project_id company_id transcript then
          redacted now transcript
        else transcript := by
  rw [retained, kept_transcripts_lookup, removable_message_ids_eq]

theorem retained_messages_by_id :
    (retained policy project_id company_id inner now).messages_by_id =
      inner.messages_by_id.retain fun message_id _ =>
        !(policy.candidate_message_ids now inner project_id company_id).contains message_id := by
  rw [retained, kept_messages_by_id, removable_message_ids_eq]

theorem retained_media :
    (retained policy project_id company_id inner now).media = inner.media.retain fun media_id _ =>
      !((policy.candidate_media now inner project_id company_id).map MediaObject.id).contains media_id := by
  rw [retained, kept_media, removable_media_ids_eq]

/-- No message is left for a second time. -/
theorem retained_candidate_message_ids :
    policy.candidate_message_ids now (retained policy project_id company_id inner now) project_id
      company_id = [] := by
  rw [List.eq_nil_iff_forall_not_mem]
  intro message_id hmem
  obtain ⟨message, hmessage, hproject, hcompany, hold⟩ := mem_candidate_message_ids_iff.mp hmem
  rw [retained_messages_by_id, HashMap.lookup_retain_eq_some_iff] at hmessage
  have hcandidate : message_id ∈ policy.candidate_message_ids now inner project_id company_id :=
    mem_candidate_message_ids_iff.mpr ⟨message, hmessage.1, hproject, hcompany, hold⟩
  simp [hcandidate] at hmessage

theorem retained_candidate_media (hkeyed : MediaKeyed inner) :
    policy.candidate_media now (retained policy project_id company_id inner now) project_id
      company_id = [] := by
  rw [List.eq_nil_iff_forall_not_mem]
  intro media hmem
  obtain ⟨hstored, hcandidate⟩ := mem_candidate_media_iff.mp hmem
  rw [retained_candidate_message_ids] at hcandidate
  obtain ⟨media_id, hmedia⟩ := HashMap.mem_values_iff.mp hstored
  rw [retained_media, HashMap.lookup_retain_eq_some_iff] at hmedia
  obtain ⟨hbefore, hkept⟩ := hmedia
  have hold := hcandidate.resolve_left (by rintro ⟨_, hnone, -⟩; cases hnone)
  have hfirst : media ∈ policy.candidate_media now inner project_id company_id :=
    mem_candidate_media_iff.mpr ⟨HashMap.mem_values_of_lookup hbefore, Or.inr hold⟩
  have hremoved : media_id ∈ (policy.candidate_media now inner project_id company_id).map MediaObject.id := by
    rw [← hkeyed media_id media hbefore]
    exact List.mem_map_of_mem hfirst
  simp [hremoved] at hkept

theorem remove_nothing : remove_expired inner [] [] = inner := by
  have hlists : (inner.messages_by_conversation.map_values fun _ messages =>
      messages.filter fun message => !([] : List String).contains message.id) =
      inner.messages_by_conversation :=
    HashMap.map_values_eq_self _ fun _ _ => List.filter_eq_self.mpr fun _ _ => rfl
  unfold remove_expired
  rw [hlists]
  simp only [List.contains_nil, Bool.not_false, HashMap.retain_all]

theorem retention_reported_eq :
    retention_reported policy project_id company_id inner now =
      { messages_removed := (policy.candidate_message_ids now inner project_id company_id).dedup.length
        media_removed :=
          ((policy.candidate_media now inner project_id company_id).map MediaObject.id).dedup.length
        transcripts_removed :=
          (inner.transcripts.retain fun message_id _ =>
            !(policy.candidate_message_ids now inner project_id company_id).contains message_id).entries.length -
          ((inner.transcripts.retain fun message_id _ =>
            !(policy.candidate_message_ids now inner project_id company_id).contains message_id).retain
              fun _ transcript => !expires policy project_id company_id now transcript).entries.length
        transcripts_redacted := if policy.allow_transcript_storage then 0
          else (((inner.transcripts.retain fun message_id _ =>
            !(policy.candidate_message_ids now inner project_id company_id).contains message_id).retain
              fun _ transcript => !expires policy project_id company_id now transcript).values.filter
                (redacts project_id company_id)).length } := by
  have hexpired : (remove_expired inner (policy.candidate_message_ids now inner project_id company_id)
      ((policy.candidate_media now inner project_id company_id).map MediaObject.id)).transcripts =
      inner.transcripts.retain fun message_id _ =>
        !(policy.candidate_message_ids now inner project_id company_id).contains message_id := rfl
  unfold retention_reported company_retention_summary
  rw [removable_message_ids_eq, removable_media_ids_eq]
  dsimp only
  rw [← hexpired]
  cases hcutoff : retention_cutoff now policy.transcript_retention_days with
  | none => rw [no_transcripts_expire hcutoff]
  | some cutoff =>
    dsimp only
    rw [expire_transcripts_eq hcutoff]

end Succeeding

/-- A store in which the retention of the company finds nothing to do. -/
structure Settled (policy : CompanyPrivacyPolicy) (project_id company_id : String) (inner : StoreInner)
    (now : OffsetDateTime) : Prop where
  messages : policy.candidate_message_ids now inner project_id company_id = []
  media : policy.candidate_media now inner project_id company_id = []
  expired : ∀ entry ∈ inner.transcripts.entries, expires policy project_id company_id now entry.2 = false
  redacted : policy.allow_transcript_storage = true ∨
    ∀ entry ∈ inner.transcripts.entries, redacts project_id company_id entry.2 = false

section Settled

variable {policy : CompanyPrivacyPolicy} {project_id company_id : String} {inner : StoreInner}
  {now : OffsetDateTime}

theorem Settled.unchanged (h : Settled policy project_id company_id inner now) :
    retained policy project_id company_id inner now = inner := by
  have hkept : (inner.transcripts.retain fun message_id _ =>
      !([] : List String).contains message_id) = inner.transcripts :=
    HashMap.retain_all _
  have hexpired : (inner.transcripts.retain fun _ transcript =>
      !expires policy project_id company_id now transcript) = inner.transcripts :=
    HashMap.retain_eq_self _ fun entry hmem => by rw [h.expired entry hmem]; rfl
  have htranscripts : kept_transcripts policy project_id company_id inner now (fun _ => true) =
      inner.transcripts := by
    unfold kept_transcripts
    rw [removable_message_ids_eq, h.messages, hkept, hexpired]
    refine HashMap.map_values_eq_self _ fun entry hmem => ?_
    rcases h.redacted with hallowed | hnone
    · rw [hallowed]
      rfl
    · rw [hnone entry hmem, Bool.and_false]
      rfl
  rw [retained, retention_sections, htranscripts, removable_message_ids_eq, removable_media_ids_eq, h.messages,
    h.media, List.map_nil, remove_nothing]

theorem dedup_length_eq_zero {A : Type} [DecidableEq A] {items : List A} :
    items.dedup.length = 0 ↔ items = [] := by
  rw [List.length_eq_zero_iff, List.dedup_eq_nil]

/-- The report is all zero exactly when there is nothing to do. -/
theorem settled_iff_reported :
    retention_reported policy project_id company_id inner now = {} ↔
      Settled policy project_id company_id inner now := by
  rw [retention_reported_eq, RetentionSummary.mk.injEq]
  constructor
  · rintro ⟨hmessages, hexpired, hredacted, hmedia⟩
    rw [dedup_length_eq_zero] at hmessages hmedia
    have hkept : (inner.transcripts.retain fun message_id _ =>
        !([] : List String).contains message_id) = inner.transcripts :=
      HashMap.retain_all _
    rw [hmessages, hkept] at hexpired hredacted
    have hall : ∀ entry ∈ inner.transcripts.entries,
        expires policy project_id company_id now entry.2 = false := by
      have hle := Nat.sub_eq_zero_iff_le.mp hexpired
      have heq := Nat.le_antisymm (List.length_filter_le _ _) hle
      intro entry hmem
      simpa using List.length_filter_eq_length_iff.mp heq entry hmem
    have hsame : (inner.transcripts.retain fun _ transcript =>
        !expires policy project_id company_id now transcript) = inner.transcripts :=
      HashMap.retain_eq_self _ fun entry hmem => by rw [hall entry hmem]; rfl
    rw [hsame] at hredacted
    refine ⟨hmessages, List.map_eq_nil_iff.mp hmedia, hall, ?_⟩
    cases hallowed : policy.allow_transcript_storage with
    | true => exact Or.inl rfl
    | false =>
      rw [hallowed, if_neg Bool.false_ne_true, List.length_eq_zero_iff, List.filter_eq_nil_iff] at hredacted
      exact Or.inr fun entry hmem => Bool.eq_false_iff.mpr (hredacted entry.2 (List.mem_map_of_mem hmem))
  · intro h
    have hkept : (inner.transcripts.retain fun message_id _ =>
        !([] : List String).contains message_id) = inner.transcripts :=
      HashMap.retain_all _
    have hexpired : (inner.transcripts.retain fun _ transcript =>
        !expires policy project_id company_id now transcript) = inner.transcripts :=
      HashMap.retain_eq_self _ fun entry hmem => by rw [h.expired entry hmem]; rfl
    rw [h.messages, h.media, hkept, hexpired]
    refine ⟨rfl, Nat.sub_self _, ?_, rfl⟩
    rcases h.redacted with hallowed | hnone
    · rw [if_pos hallowed]
    · have hfilter : inner.transcripts.values.filter (redacts project_id company_id) = [] := by
        rw [List.filter_eq_nil_iff]
        intro transcript hmem
        obtain ⟨entry, hentry, rfl⟩ := List.mem_map.mp hmem
        rw [hnone entry hentry]
        exact Bool.false_ne_true
      rw [hfilter]
      split <;> rfl

/-- That a second run of the retention at the same time changes nothing, and reports
nothing. -/
def RetentionIdempotent (policy : CompanyPrivacyPolicy) (project_id company_id : String)
    (inner : StoreInner) (now : OffsetDateTime) : Prop :=
  retained policy project_id company_id (retained policy project_id company_id inner now) now =
      retained policy project_id company_id inner now ∧
    retention_reported policy project_id company_id (retained policy project_id company_id inner now) now = {}

/-- Either the company stores transcripts, or the retention removes all those that it
would have to redact. -/
def RedactsNoneThatStays (policy : CompanyPrivacyPolicy) (project_id company_id : String)
    (inner : StoreInner) (now : OffsetDateTime) : Prop :=
  policy.allow_transcript_storage = true ∨
    ∀ message_id transcript, inner.transcripts.lookup message_id = some transcript →
      redacts project_id company_id transcript = true →
      message_id ∈ policy.candidate_message_ids now inner project_id company_id ∨
        too_old now policy.transcript_retention_days transcript.updated_at = true

/-- What has been redacted is redacted again. -/
theorem redacts_redacted {transcript : Transcript} (h : redacts project_id company_id transcript = true) :
    redacts project_id company_id (redacted now transcript) = true := by
  unfold redacts redacted at *
  simp only [Bool.and_eq_true, decide_eq_true_eq] at h
  simp [h.1.1, h.1.2, is_null]

theorem expires_of_redacts {transcript : Transcript} (h : redacts project_id company_id transcript = true) :
    expires policy project_id company_id now transcript =
      too_old now policy.transcript_retention_days transcript.updated_at := by
  unfold redacts at h
  simp only [Bool.and_eq_true, decide_eq_true_eq] at h
  unfold expires
  simp [h.1.1, h.1.2]

/-- Where nothing that stays is redacted, what stays is as it was. -/
theorem RedactsNoneThatStays.of_retained (h : RedactsNoneThatStays policy project_id company_id inner now)
    {message_id : String} {transcript : Transcript}
    (htranscript : (retained policy project_id company_id inner now).transcripts.lookup message_id =
      some transcript) :
    expires policy project_id company_id now transcript = false ∧
      (policy.allow_transcript_storage = true ∨ redacts project_id company_id transcript = false) := by
  rw [retained_transcripts_lookup, Option.map_eq_some_iff] at htranscript
  obtain ⟨stored, hstored, himage⟩ := htranscript
  rw [Option.filter_eq_some_iff] at hstored
  obtain ⟨hlookup, hstays⟩ := hstored
  simp only [Bool.and_eq_true, Bool.not_eq_true', List.contains_eq_mem, decide_eq_false_iff_not] at hstays
  have hclean : policy.allow_transcript_storage = true ∨ redacts project_id company_id stored = false := by
    refine h.imp_right fun hgoes => Bool.eq_false_iff.mpr fun hredacts => ?_
    rcases hgoes message_id stored hlookup hredacts with hcandidate | hold
    · exact hstays.1 hcandidate
    · rw [expires_of_redacts hredacts, hold] at hstays
      exact Bool.noConfusion hstays.2
  have hsame : transcript = stored := by
    rw [← himage]
    rcases hclean with hallowed | hredacts
    · rw [hallowed]
      rfl
    · rw [hredacts, Bool.and_false]
      rfl
  rw [hsame]
  exact ⟨hstays.2, hclean⟩

theorem retained_settled_iff (hkeyed : MediaKeyed inner) :
    Settled policy project_id company_id (retained policy project_id company_id inner now) now ↔
      RedactsNoneThatStays policy project_id company_id inner now := by
  constructor
  · intro h
    rcases h.redacted with hallowed | hnone
    · exact Or.inl hallowed
    · refine Or.inr fun message_id transcript htranscript hredacts => ?_
      rw [← expires_of_redacts hredacts]
      by_contra hstays
      rw [not_or, Bool.not_eq_true] at hstays
      -- the transcript is still there, redacted, and will be redacted again
      have hkept : (retained policy project_id company_id inner now).transcripts.lookup message_id =
          some (if !policy.allow_transcript_storage && redacts project_id company_id transcript then
            redacted now transcript else transcript) := by
        rw [retained_transcripts_lookup, htranscript, Option.filter_some_pos (by simp [hstays]),
          Option.map_some]
      have hagain := hnone _ (HashMap.lookup_eq_some_iff.mp hkept)
      dsimp only at hagain
      split at hagain
      · rw [redacts_redacted hredacts] at hagain
        cases hagain
      · rw [hredacts] at hagain
        cases hagain
  · intro h
    refine ⟨retained_candidate_message_ids, retained_candidate_media hkeyed, ?_, ?_⟩
    · intro entry hmem
      exact (h.of_retained (HashMap.lookup_eq_some_iff.mpr hmem)).1
    · cases hallowed : policy.allow_transcript_storage with
      | true => exact Or.inl rfl
      | false =>
        refine Or.inr fun entry hmem => ?_
        rcases (h.of_retained (HashMap.lookup_eq_some_iff.mpr hmem)).2 with hyes | hclean
        · rw [hallowed] at hyes
          cases hyes
        · exact hclean

theorem retention_idempotent_iff_redacts_none (hkeyed : MediaKeyed inner) :
    RetentionIdempotent policy project_id company_id inner now ↔
      RedactsNoneThatStays policy project_id company_id inner now := by
  rw [← retained_settled_iff hkeyed, ← settled_iff_reported]
  exact ⟨fun h => h.2, fun h => ⟨(settled_iff_reported.mp h).unchanged, h⟩⟩

end Settled

/-- The job's runs for a company, at the given times and with nothing in between. -/
def job_runs (policy : CompanyPrivacyPolicy) (project_id company_id : String) (inner : StoreInner)
    (times : List OffsetDateTime) : StoreInner :=
  times.foldl (retained policy project_id company_id) inner

/-- The transcripts of the company that have been redacted are gone after the runs, if
one of these came when the redaction was older than the company keeps transcripts. -/
def RedactionsExpire (policy : CompanyPrivacyPolicy) (project_id company_id : String) (inner : StoreInner)
    (times : List OffsetDateTime) : Prop :=
  ∀ message_id transcript, inner.transcripts.lookup message_id = some transcript →
    transcript.project_id = project_id → transcript.company_id = company_id →
    transcript.raw_response_json = .object [("redacted", .bool true)] →
    (∃ now ∈ times, too_old now policy.transcript_retention_days transcript.updated_at = true) →
    (job_runs policy project_id company_id inner times).transcripts.lookup message_id = none

/-- No run of the job comes so late after the one before it, or after the given time,
that what that one redacted has become too old. -/
def RunsOften (policy : CompanyPrivacyPolicy) (since : OffsetDateTime) (times : List OffsetDateTime) : Prop :=
  (since :: times).IsChain fun last now => too_old now policy.transcript_retention_days last = false

/-- Every redaction that one of the runs finds too old is of a message that a run removes,
or the job has paused since. -/
def RedactionsRemovable (policy : CompanyPrivacyPolicy) (project_id company_id : String) (inner : StoreInner)
    (times : List OffsetDateTime) : Prop :=
  ∀ message_id transcript, inner.transcripts.lookup message_id = some transcript →
    transcript.project_id = project_id → transcript.company_id = company_id →
    transcript.raw_response_json = .object [("redacted", .bool true)] →
    (∃ now ∈ times, too_old now policy.transcript_retention_days transcript.updated_at = true) →
    (∃ now ∈ times, message_id ∈ policy.candidate_message_ids now inner project_id company_id) ∨
      ¬ RunsOften policy transcript.updated_at times

section JobRuns

variable {policy : CompanyPrivacyPolicy} {project_id company_id message_id : String}

theorem job_runs_gone (times : List OffsetDateTime) :
    ∀ inner, inner.transcripts.lookup message_id = none →
      (job_runs policy project_id company_id inner times).transcripts.lookup message_id = none := by
  induction times with
  | nil => exact fun inner h => h
  | cons now times ih =>
    intro inner h
    refine ih _ ?_
    rw [retained_transcripts_lookup, h]
    rfl

/-- A message that is not removed is as old as before. -/
theorem mem_candidate_message_ids_retained {inner : StoreInner} {now later : OffsetDateTime}
    (hstays : message_id ∉ policy.candidate_message_ids now inner project_id company_id) :
    message_id ∈ policy.candidate_message_ids later (retained policy project_id company_id inner now)
        project_id company_id ↔
      message_id ∈ policy.candidate_message_ids later inner project_id company_id := by
  rw [mem_candidate_message_ids_iff, mem_candidate_message_ids_iff, retained_messages_by_id,
    HashMap.lookup_retain]
  have hkeep : ((inner.messages_by_id.lookup message_id).filter fun _ =>
      !(policy.candidate_message_ids now inner project_id company_id).contains message_id) =
      inner.messages_by_id.lookup message_id := by
    cases inner.messages_by_id.lookup message_id with
    | none => rfl
    | some message => rw [Option.filter_some_pos (by simpa using hstays)]
  rw [hkeep]

/-- Every run of the job makes the redaction of a transcript new, so only a pause of the
job lets the transcript become old. -/
theorem job_runs_keep_iff (hnone : policy.allow_transcript_storage = false) (times : List OffsetDateTime) :
    ∀ inner transcript, inner.transcripts.lookup message_id = some transcript →
      redacts project_id company_id transcript = true →
      (((job_runs policy project_id company_id inner times).transcripts.lookup message_id).isSome ↔
        (∀ now ∈ times, message_id ∉ policy.candidate_message_ids now inner project_id company_id) ∧
          RunsOften policy transcript.updated_at times) := by
  induction times with
  | nil =>
    intro inner transcript htranscript _
    refine ⟨fun _ => ⟨nofun, .singleton _⟩, fun _ => ?_⟩
    rw [job_runs, List.foldl_nil, htranscript]
    rfl
  | cons now times ih =>
    intro inner transcript htranscript hredacts
    have hlookup := @retained_transcripts_lookup policy project_id company_id inner now message_id
    rw [htranscript] at hlookup
    by_cases hgoes : message_id ∈ policy.candidate_message_ids now inner project_id company_id ∨
        too_old now policy.transcript_retention_days transcript.updated_at = true
    · rw [Option.filter_some_neg (by
        rw [expires_of_redacts hredacts]
        rcases hgoes with h | h <;> simp [h]), Option.map_none] at hlookup
      rw [job_runs, List.foldl_cons]
      have hgone := @job_runs_gone policy project_id company_id message_id times _ hlookup
      rw [job_runs] at hgone
      rw [hgone]
      refine ⟨fun h => Bool.noConfusion h, fun ⟨hstays, hoften⟩ => ?_⟩
      rcases hgoes with h | h
      · exact absurd h (hstays now List.mem_cons_self)
      · rw [RunsOften, List.isChain_cons_cons, h] at hoften
        exact Bool.noConfusion hoften.1
    · rw [not_or, Bool.not_eq_true] at hgoes
      rw [Option.filter_some_pos (by rw [expires_of_redacts hredacts]; simp [hgoes]), Option.map_some, hnone,
        hredacts] at hlookup
      have hrest := ih _ _ hlookup (redacts_redacted hredacts)
      rw [job_runs, List.foldl_cons]
      rw [job_runs] at hrest
      rw [hrest, List.forall_mem_cons, RunsOften, RunsOften, List.isChain_cons_cons]
      simp only [mem_candidate_message_ids_retained hgoes.1, hgoes.1, hgoes.2, not_false_eq_true, true_and]
      rfl

/-- Of a redacted transcript that has become old, what removes it is a pause of the job,
or the removal of its message. -/
theorem redactions_expire_iff (hnone : policy.allow_transcript_storage = false) (inner : StoreInner)
    (times : List OffsetDateTime) :
    RedactionsExpire policy project_id company_id inner times ↔
      RedactionsRemovable policy project_id company_id inner times := by
  refine forall₂_congr fun message_id transcript => forall₅_congr fun hlookup hproject hcompany hraw _ => ?_
  have hredacts : redacts project_id company_id transcript = true := by
    simp [redacts, hproject, hcompany, hraw, is_null]
  have hkeep := job_runs_keep_iff hnone times inner transcript hlookup hredacts
  rw [← not_iff_not, ← ne_eq, Option.ne_none_iff_isSome, hkeep, not_or, not_not]
  simp only [not_exists, not_and]

end JobRuns

/-- Running the retention of a company a second time does nothing exactly when the company
stores transcripts, or none that it would redact stays. And what is redacted in a company
that stores none goes, once its redaction is old, exactly when its message is removed or
the job has paused for longer than transcripts are kept. -/
theorem retention_idempotent_iff (policy : CompanyPrivacyPolicy) (project_id company_id : String)
    {inner : StoreInner} (hkeyed : MediaKeyed inner) :
    (∀ now, RetentionIdempotent policy project_id company_id inner now ↔
      RedactsNoneThatStays policy project_id company_id inner now) ∧
    (policy.allow_transcript_storage = false → ∀ times,
      (RedactionsExpire policy project_id company_id inner times ↔
        RedactionsRemovable policy project_id company_id inner times)) :=
  ⟨fun _ => retention_idempotent_iff_redacts_none hkeyed,
    fun hnone times => redactions_expire_iff hnone inner times⟩

namespace sample

/-- Transcripts are not stored, and kept for a day. -/
def no_transcripts : CompanyPrivacyPolicy where
  message_retention_days := some 365
  media_temp_retention_days := some 30
  transcript_retention_days := some 1
  allow_transcript_storage := false

/-- The hours of two days. -/
def hourly : List OffsetDateTime :=
  (List.range 48).map fun hour => Duration.hours (hour + 2)

end sample

/-- The transcript of the voice message is redacted again by a second run, and two days
of hourly runs do not remove it. -/
theorem redacted_transcript_stays :
    ¬ RetentionIdempotent sample.no_transcripts "acme" "company_a" sample.heard.inner (Duration.hours 1) ∧
    ¬ RedactionsExpire sample.no_transcripts "acme" "company_a"
      (retained sample.no_transcripts "acme" "company_a" sample.heard.inner (Duration.hours 1))
      sample.hourly := by
  constructor
  · intro h
    exact absurd (congrArg RetentionSummary.transcripts_redacted h.2) (by decide)
  · intro h
    have hsome : ((retained sample.no_transcripts "acme" "company_a" sample.heard.inner
        (Duration.hours 1)).transcripts.lookup "msg_a0").isSome = true := by decide
    have hredacted : ((retained sample.no_transcripts "acme" "company_a" sample.heard.inner
        (Duration.hours 1)).transcripts.lookup "msg_a0").all (fun transcript =>
          transcript.project_id = "acme" ∧ transcript.company_id = "company_a" ∧
          too_old (Duration.hours 49) (some 1) transcript.updated_at = true) = true := by decide
    have hmarked : ((retained sample.no_transcripts "acme" "company_a" sample.heard.inner
        (Duration.hours 1)).transcripts.lookup "msg_a0").map Transcript.raw_response_json =
          some (.object [("redacted", .bool true)]) := rfl
    obtain ⟨transcript, htranscript⟩ := Option.isSome_iff_exists.mp hsome
    rw [htranscript, Option.all_some, decide_eq_true_eq] at hredacted
    rw [htranscript, Option.map_some, Option.some.injEq] at hmarked
    obtain ⟨hproject, hcompany, hold⟩ := hredacted
    have hgone := h "msg_a0" transcript htranscript hproject hcompany hmarked
      ⟨Duration.hours 49, by decide, hold⟩
    have hstays : ((job_runs sample.no_transcripts "acme" "company_a"
        (retained sample.no_transcripts "acme" "company_a" sample.heard.inner (Duration.hours 1))
        sample.hourly).transcripts.lookup "msg_a0").isSome = true := by decide
    rw [hgone] at hstays
    cases hstays

/-- Where transcripts are stored, a second run finds nothing. -/
theorem stored_transcript_stays :
    RetentionIdempotent { sample.no_transcripts with allow_transcript_storage := true } "acme" "company_a"
      sample.heard.inner (Duration.hours 1) := by
  have hkeyed : MediaKeyed sample.heard.inner := by
    intro media_id media hmedia
    have hall : ∀ entry ∈ sample.heard.inner.media.entries, entry.2.id = entry.1 := by decide
    exact hall ⟨media_id, media⟩ (HashMap.lookup_eq_some_iff.mp hmedia)
  exact ((retention_idempotent_iff _ "acme" "company_a" hkeyed).1 _).mpr (Or.inl rfl)

end rustzap.state
