import RustZap.Lib.Passes
import RustZap.Lib.Views
import RustZap.Retention.Failures

open collections passes serde_json
open rustzap.models

namespace rustzap.state

namespace RetentionSummary

def removes_any (summary : RetentionSummary) : Bool :=
  summary.messages_removed + summary.transcripts_removed + summary.transcripts_redacted +
    summary.media_removed > 0

def add (summary company_summary : RetentionSummary) : RetentionSummary where
  messages_removed := summary.messages_removed + company_summary.messages_removed
  transcripts_removed := summary.transcripts_removed + company_summary.transcripts_removed
  transcripts_redacted := summary.transcripts_redacted + company_summary.transcripts_redacted
  media_removed := summary.media_removed + company_summary.media_removed

def to_json (summary : RetentionSummary) : Value :=
  .object [("messages_removed", .number summary.messages_removed),
    ("transcripts_removed", .number summary.transcripts_removed),
    ("transcripts_redacted", .number summary.transcripts_redacted),
    ("media_removed", .number summary.media_removed)]

end RetentionSummary

/-- What a pass learns from outside: the readings of each audit entry, which bytes the byte
store deletes for each company, and for the cleanup at the end the time and the bytes. -/
structure RetentionAnswers where
  audit : String × String → Ctx
  deleted : String × String → String → Bool
  cleanup_now : OffsetDateTime
  expired : String → Bool

section Pass

variable (self : AppState) (now : OffsetDateTime) (answers : RetentionAnswers)

/-- The companies in the order of the map, with their policies. -/
def retention_companies (inner : StoreInner) : List ((String × String) × CompanyPrivacyPolicy) :=
  inner.companies.to_pairs.map fun company => (company.1, company_privacy_policy company.2)

def company_summary (company : (String × String) × CompanyPrivacyPolicy) (inner : StoreInner) :
    RetentionSummary :=
  company_retention_summary now inner company.1.1 company.1.2 company.2 (answers.deleted company.1)

/-- The turn of one company. -/
def retain_company (company : (String × String) × CompanyPrivacyPolicy) (inner : StoreInner) : StoreInner :=
  let retained := apply_company_retention now inner company.1.1 company.1.2 company.2
    (answers.deleted company.1)
  if (company_summary now answers company inner).removes_any then
    audit_log self (answers.audit company.1) 0 retained company.1.1 company.1.2 "retention.apply" "company"
      (some company.1.2) (company_summary now answers company inner).to_json
  else retained

/-- One pass of the retention worker, with nothing in between. -/
def apply_retention_once (inner : StoreInner) : RetentionSummary × StoreInner :=
  let passed := (retention_companies inner).foldl
    (fun passed company => (passed.1.add (company_summary now answers company passed.2),
      retain_company self now answers company passed.2))
    (({} : RetentionSummary), inner)
  let expired_ids := (expired_media_ids answers.cleanup_now passed.2 answers.expired).dedup
  ({ passed.1 with media_removed := passed.1.media_removed + expired_ids.length },
    cleanup_expired_temp_media answers.cleanup_now passed.2 answers.expired)

/-- The store that the retention of one company alone and the cleanup would leave. A company
that is not on record has no retention. -/
def retained_alone (inner : StoreInner) (company : String × String) : StoreInner :=
  cleanup_expired_temp_media answers.cleanup_now
    (match inner.companies.lookup company with
      | some value => apply_company_retention now inner company.1 company.2 (company_privacy_policy value)
        (answers.deleted company)
      | none => inner)
    answers.expired

end Pass

def owned_by (company : String × String) (project_id company_id : String) : Bool :=
  (project_id, company_id) = company

theorem owned_by_iff {company : String × String} {project_id company_id : String} :
    owned_by company project_id company_id = true ↔ project_id = company.1 ∧ company_id = company.2 := by
  rw [owned_by, decide_eq_true_eq, Prod.ext_iff]

/-- Two stores hold the same of a company: its messages, its part of the conversations'
lists, its media and its transcripts. -/
structure SameRecords (company : String × String) (inner inner' : StoreInner) : Prop where
  messages : HashMap.SameFor (fun _ (message : Message) =>
    owned_by company message.project_id message.company_id) inner.messages_by_id inner'.messages_by_id
  listed : ∀ conversation_id,
    ((inner.messages_by_conversation.lookup conversation_id).getD []).filter
      (fun message => owned_by company message.project_id message.company_id) =
    ((inner'.messages_by_conversation.lookup conversation_id).getD []).filter
      fun message => owned_by company message.project_id message.company_id
  media : HashMap.SameFor (fun _ (media : MediaObject) =>
    owned_by company media.project_id media.company_id) inner.media inner'.media
  transcripts : HashMap.SameFor (fun _ (transcript : Transcript) =>
    owned_by company transcript.project_id transcript.company_id) inner.transcripts inner'.transcripts

namespace SameRecords

variable {company : String × String} {inner mid inner' : StoreInner}

theorem refl (company : String × String) (inner : StoreInner) : SameRecords company inner inner :=
  ⟨.refl _, fun _ => rfl, .refl _, .refl _⟩

theorem symm (h : SameRecords company inner inner') : SameRecords company inner' inner :=
  ⟨h.messages.symm, fun conversation_id => (h.listed conversation_id).symm, h.media.symm, h.transcripts.symm⟩

theorem trans (h : SameRecords company inner mid) (h' : SameRecords company mid inner') :
    SameRecords company inner inner' :=
  ⟨h.messages.trans h'.messages,
    fun conversation_id => (h.listed conversation_id).trans (h'.listed conversation_id),
    h.media.trans h'.media, h.transcripts.trans h'.transcripts⟩

section Selected

variable {policy : CompanyPrivacyPolicy} {now : OffsetDateTime} {deleted : String → Bool}

theorem media_mem (h : SameRecords company inner inner') {media : MediaObject}
    (hmem : media ∈ inner.media.values) (howned : media.project_id = company.1 ∧ media.company_id = company.2) :
    media ∈ inner'.media.values := by
  obtain ⟨media_id, hmedia⟩ := HashMap.mem_values_iff.mp hmem
  exact HashMap.mem_values_of_lookup (h.media.lookup_eq_some hmedia (owned_by_iff.mpr howned))

theorem candidate_message (h : SameRecords company inner inner') {message_id : String}
    (hcandidate : message_id ∈ policy.candidate_message_ids now inner company.1 company.2) :
    message_id ∈ policy.candidate_message_ids now inner' company.1 company.2 := by
  obtain ⟨message, hmessage, hproject, hcompany, hold⟩ := mem_candidate_message_ids_iff.mp hcandidate
  exact mem_candidate_message_ids_iff.mpr
    ⟨message, h.messages.lookup_eq_some hmessage (owned_by_iff.mpr ⟨hproject, hcompany⟩), hproject, hcompany,
      hold⟩

theorem candidate_media (h : SameRecords company inner inner') (hattached : AttachedToOwn inner)
    {media : MediaObject} (hcandidate : media ∈ policy.candidate_media now inner company.1 company.2) :
    media ∈ policy.candidate_media now inner' company.1 company.2 := by
  obtain ⟨hmem, hcase⟩ := mem_candidate_media_iff.mp hcandidate
  refine mem_candidate_media_iff.mpr
    ⟨h.media_mem hmem (candidate_media_owner hattached hcandidate), hcase.imp_left ?_⟩
  rintro ⟨message_id, hold, hmessage⟩
  exact ⟨message_id, h.candidate_message hold, hmessage⟩

theorem failed_message (h : SameRecords company inner inner') (hattached : AttachedToOwn inner)
    {message_id : String}
    (hfailed : message_id ∈ policy.failed_message_ids now inner company.1 company.2 deleted) :
    message_id ∈ policy.failed_message_ids now inner' company.1 company.2 deleted := by
  obtain ⟨media, hcandidate, hmessage, hkept⟩ := mem_failed_message_ids_iff.mp hfailed
  exact mem_failed_message_ids_iff.mpr ⟨media, h.candidate_media hattached hcandidate, hmessage, hkept⟩

/-- The media of a message that goes are the company's own, so another store that holds the
same of the company has no more of them. -/
theorem removable_message (h : SameRecords company inner inner') (hattached' : AttachedToOwn inner')
    {message_id : String}
    (hremovable : message_id ∈ policy.removable_message_ids now inner company.1 company.2 deleted) :
    message_id ∈ policy.removable_message_ids now inner' company.1 company.2 deleted := by
  obtain ⟨hcandidate, hall⟩ := mem_removable_message_ids_iff.mp hremovable
  have hcandidate' := h.candidate_message hcandidate
  refine mem_removable_message_ids_iff.mpr ⟨hcandidate', fun media hmem hmessage => hall media ?_ hmessage⟩
  obtain ⟨message, hstored, hproject, hcompany, -⟩ := mem_candidate_message_ids_iff.mp hcandidate'
  obtain ⟨hsame_project, hsame_company⟩ := hattached'.media media hmem message_id message hmessage hstored
  exact h.symm.media_mem hmem ⟨hsame_project ▸ hproject, hsame_company ▸ hcompany⟩

theorem removable_media (h : SameRecords company inner inner') (hattached : AttachedToOwn inner)
    (hattached' : AttachedToOwn inner') {media_id : String}
    (hremovable : media_id ∈ policy.removable_media_ids now inner company.1 company.2 deleted) :
    media_id ∈ policy.removable_media_ids now inner' company.1 company.2 deleted := by
  obtain ⟨media, hcandidate, ⟨hdeleted, hnone⟩, hid⟩ := mem_removable_media_ids_iff.mp hremovable
  refine mem_removable_media_ids_iff.mpr ⟨media, h.candidate_media hattached hcandidate, ⟨hdeleted, ?_⟩, hid⟩
  exact fun message_id hmessage hfailed => hnone message_id hmessage (h.symm.failed_message hattached' hfailed)

theorem mem_removable_message_iff (h : SameRecords company inner inner') (hattached : AttachedToOwn inner)
    (hattached' : AttachedToOwn inner') (message_id : String) :
    message_id ∈ policy.removable_message_ids now inner company.1 company.2 deleted ↔
      message_id ∈ policy.removable_message_ids now inner' company.1 company.2 deleted :=
  ⟨h.removable_message hattached', h.symm.removable_message hattached⟩

theorem mem_removable_media_iff (h : SameRecords company inner inner') (hattached : AttachedToOwn inner)
    (hattached' : AttachedToOwn inner') (media_id : String) :
    media_id ∈ policy.removable_media_ids now inner company.1 company.2 deleted ↔
      media_id ∈ policy.removable_media_ids now inner' company.1 company.2 deleted :=
  ⟨h.removable_media hattached hattached', h.symm.removable_media hattached' hattached⟩

end Selected

end SameRecords

theorem contains_congr {ids ids' : List String} (h : ∀ id, id ∈ ids ↔ id ∈ ids') (id : String) :
    ids.contains id = ids'.contains id := by
  rw [List.contains_eq_mem, List.contains_eq_mem, decide_eq_decide]
  exact h id

theorem dedup_length_congr {ids ids' : List String} (h : ∀ id, id ∈ ids ↔ id ∈ ids') :
    ids.dedup.length = ids'.dedup.length := by
  refine ((List.perm_ext_iff_of_nodup ids.nodup_dedup ids'.nodup_dedup).mpr fun id => ?_).length_eq
  rw [List.mem_dedup, List.mem_dedup]
  exact h id

section Turn

variable {company : String × String} {inner inner' : StoreInner} {policy : CompanyPrivacyPolicy}
  {now : OffsetDateTime} {deleted : String → Bool}

theorem retained_list {project_id company_id : String} (conversation_id : String) :
    ((apply_company_retention now inner project_id company_id policy
      deleted).messages_by_conversation.lookup conversation_id).getD [] =
      ((inner.messages_by_conversation.lookup conversation_id).getD []).filter fun message =>
        !(policy.removable_message_ids now inner project_id company_id deleted).contains message.id := by
  have hlists : (apply_company_retention now inner project_id company_id policy
      deleted).messages_by_conversation = inner.messages_by_conversation.map_values fun _ messages =>
        messages.filter fun message => !(policy.removable_message_ids now inner project_id company_id
          deleted).contains message.id := by
    rw [retention_sections]
    rfl
  rw [hlists, HashMap.lookup_map_values]
  cases inner.messages_by_conversation.lookup conversation_id <;> rfl

theorem kept_transcripts_eq {project_id company_id : String} :
    (apply_company_retention now inner project_id company_id policy deleted).transcripts =
      kept_transcripts policy project_id company_id inner now deleted := by
  rw [retention_sections]

theorem owned_by_redacted (transcript : Transcript) (redacted_at : OffsetDateTime) (redact : Bool) :
    owned_by company (if redact then redacted redacted_at transcript else transcript).project_id
      (if redact then redacted redacted_at transcript else transcript).company_id =
      owned_by company transcript.project_id transcript.company_id := by
  cases redact <;> rfl

/-- The retention of a company reads nothing of the other companies. -/
theorem SameRecords.retention (h : SameRecords company inner inner') (hattached : AttachedToOwn inner)
    (hattached' : AttachedToOwn inner') :
    SameRecords company (apply_company_retention now inner company.1 company.2 policy deleted)
      (apply_company_retention now inner' company.1 company.2 policy deleted) := by
  have hmessages : ∀ message_id, (policy.removable_message_ids now inner company.1 company.2 deleted).contains
      message_id = (policy.removable_message_ids now inner' company.1 company.2 deleted).contains message_id :=
    contains_congr (h.mem_removable_message_iff hattached hattached')
  have hmedia : ∀ media_id, (policy.removable_media_ids now inner company.1 company.2 deleted).contains
      media_id = (policy.removable_media_ids now inner' company.1 company.2 deleted).contains media_id :=
    contains_congr (h.mem_removable_media_iff hattached hattached')
  constructor
  · rw [kept_messages_by_id, kept_messages_by_id]
    exact h.messages.retained fun message_id _ _ => congrArg _ (hmessages message_id)
  · intro conversation_id
    rw [retained_list, retained_list, List.filter_comm, h.listed, List.filter_comm]
    simp only [hmessages]
  · rw [kept_media, kept_media]
    exact h.media.retained fun media_id _ _ => congrArg _ (hmedia media_id)
  · rw [kept_transcripts_eq, kept_transcripts_eq]
    refine ((h.transcripts.retained fun message_id _ _ => congrArg _ (hmessages message_id)).retained
      fun _ _ _ => rfl).mapped fun _ transcript => ?_
    exact owned_by_redacted transcript now _

/-- And it changes nothing of theirs. -/
theorem SameRecords.retention_other {other : String × String} (hattached : AttachedToOwn inner)
    (hother : other ≠ company) :
    SameRecords company inner (apply_company_retention now inner other.1 other.2 policy deleted) := by
  have hforeign {project_id company_id : String} (howned : owned_by company project_id company_id = true) :
      ¬ (project_id = other.1 ∧ company_id = other.2) := by
    intro howner
    obtain ⟨hproject, hcompany⟩ := owned_by_iff.mp howned
    exact hother (Prod.ext (howner.1.symm.trans hproject) (howner.2.symm.trans hcompany))
  have hmessages {message_id : String} {message : Message}
      (hmessage : inner.messages_by_id.lookup message_id = some message)
      (howned : owned_by company message.project_id message.company_id = true) :
      (policy.removable_message_ids now inner other.1 other.2 deleted).contains message_id = false := by
    rw [List.contains_eq_mem, decide_eq_false_iff_not]
    exact fun hremovable => hforeign howned (removable_message_owner hremovable hmessage)
  constructor
  · rw [kept_messages_by_id]
    exact .retained_other fun message_id message hmessage howned => by rw [hmessages hmessage howned]; rfl
  · intro conversation_id
    rw [retained_list, List.filter_filter]
    refine List.filter_congr fun message hmem => ?_
    cases hlist : inner.messages_by_conversation.lookup conversation_id with
    | none =>
      rw [hlist] at hmem
      cases hmem
    | some messages =>
      rw [hlist] at hmem
      cases howned : owned_by company message.project_id message.company_id with
      | false => rfl
      | true =>
        rw [hmessages (Grouped.Agree.of_mem hattached.indexes hlist hmem).1 howned]
        rfl
  · rw [kept_media]
    refine .retained_other fun media_id media hmedia howned => ?_
    rw [Bool.not_eq_true', List.contains_eq_mem, decide_eq_false_iff_not]
    intro hremovable
    exact hforeign howned (candidate_media_owner hattached (state.removable_media hattached hremovable hmedia).1)
  · have howner {transcript : Transcript}
        (howned : owned_by company transcript.project_id transcript.company_id = true) :
        (decide (transcript.project_id = other.1) && decide (transcript.company_id = other.2)) = false := by
      rw [Bool.and_eq_false_iff, decide_eq_false_iff_not, decide_eq_false_iff_not, ← not_and_or]
      exact hforeign howned
    rw [kept_transcripts_eq]
    refine .trans (.trans (.retained_other fun message_id transcript htranscript howned => ?_)
      (.retained_other fun _ transcript _ howned => ?_)) (.mapped_other (fun _ transcript => ?_)
      fun _ transcript howned => ?_)
    · rw [Bool.not_eq_true', List.contains_eq_mem, decide_eq_false_iff_not]
      intro hremovable
      obtain ⟨message, hmessage, hproject, hcompany, -⟩ :=
        mem_candidate_message_ids_iff.mp (mem_removable_message_ids_iff.mp hremovable).1
      obtain ⟨hsame_project, hsame_company⟩ :=
        hattached.transcripts message_id transcript message htranscript hmessage
      exact hforeign howned ⟨hsame_project ▸ hproject, hsame_company ▸ hcompany⟩
    · rw [expires, howner howned]
      rfl
    · exact owned_by_redacted transcript now _
    · rw [redacts, howner howned, Bool.false_and, Bool.and_false]
      rfl

theorem AttachedToOwn.retention {project_id company_id : String} (hkeyed : inner.WellKeyed)
    (h : AttachedToOwn inner) :
    AttachedToOwn (apply_company_retention now inner project_id company_id policy deleted) where
  indexes := by
    have hremoved := indexes_agree_preserved.removed inner
      (policy.removable_message_ids now inner project_id company_id deleted)
      (policy.removable_media_ids now inner project_id company_id deleted) hkeyed h.indexes
    rw [retention_sections]
    exact hremoved
  keyed := by
    rw [MediaKeyed, kept_media]
    exact h.keyed.retain _
  media media hmem message_id message hattached hmessage := by
    obtain ⟨media_id, hmedia⟩ := HashMap.mem_values_iff.mp hmem
    rw [kept_media, HashMap.lookup_retain_eq_some_iff] at hmedia
    rw [kept_messages_by_id, HashMap.lookup_retain_eq_some_iff] at hmessage
    exact h.media media (HashMap.mem_values_of_lookup hmedia.1) message_id message hattached hmessage.1
  transcripts message_id transcript message htranscript hmessage := by
    rw [kept_messages_by_id, HashMap.lookup_retain_eq_some_iff] at hmessage
    rw [kept_transcripts_lookup] at htranscript
    obtain ⟨old, hold, rfl⟩ := Option.map_eq_some_iff.mp htranscript
    have howner := h.transcripts message_id old message (Option.filter_eq_some_iff.mp hold).1 hmessage.1
    split <;> exact howner

theorem well_keyed_retention {project_id company_id : String} (h : inner.WellKeyed) :
    (apply_company_retention now inner project_id company_id policy deleted).WellKeyed := by
  have hremoved := remove_expired_well_keyed h
    (policy.removable_message_ids now inner project_id company_id deleted)
    (policy.removable_media_ids now inner project_id company_id deleted)
  rw [retention_sections]
  exact ⟨hremoved.conversations, hremoved.messages, hremoved.dirty⟩

/-- What is left of the transcripts before the redaction. -/
def unexpired_transcripts (policy : CompanyPrivacyPolicy) (project_id company_id : String)
    (inner : StoreInner) (now : OffsetDateTime) (deleted : String → Bool) : HashMap String Transcript :=
  inner.transcripts.retain fun message_id _ =>
    !(policy.removable_message_ids now inner project_id company_id deleted).contains message_id

theorem retain_length (transcripts : HashMap String Transcript) (p : Transcript → Bool) :
    transcripts.entries.length - (transcripts.retain fun _ transcript => !p transcript).entries.length =
      (transcripts.values.filter p).length := by
  have hsum := List.length_eq_length_filter_add (l := transcripts.entries) fun entry => p entry.2
  have hvalues : (transcripts.values.filter p).length =
      (transcripts.entries.filter fun entry => p entry.2).length := by
    rw [HashMap.values, List.filter_map, List.length_map]
    rfl
  rw [hvalues, hsum, HashMap.retain]
  exact Nat.add_sub_cancel ..

/-- The counts of a company's retention are those of the ids and transcripts that go. -/
theorem company_retention_summary_eq {project_id company_id : String} :
    company_retention_summary now inner project_id company_id policy deleted =
      { messages_removed :=
          (policy.removable_message_ids now inner project_id company_id deleted).dedup.length
        media_removed := (policy.removable_media_ids now inner project_id company_id deleted).dedup.length
        transcripts_removed :=
          ((unexpired_transcripts policy project_id company_id inner now deleted).values.filter
            (expires policy project_id company_id now)).length
        transcripts_redacted := if policy.allow_transcript_storage then 0
          else (((unexpired_transcripts policy project_id company_id inner now deleted).retain
            fun _ transcript => !expires policy project_id company_id now transcript).values.filter
              (redacts project_id company_id)).length } := by
  have hexpired : (remove_expired inner
      (policy.removable_message_ids now inner project_id company_id deleted)
      (policy.removable_media_ids now inner project_id company_id deleted)).transcripts =
      unexpired_transcripts policy project_id company_id inner now deleted := rfl
  unfold company_retention_summary
  dsimp only
  rw [← retain_length _ (expires policy project_id company_id now), ← hexpired]
  cases hcutoff : retention_cutoff now policy.transcript_retention_days with
  | none =>
    rw [no_transcripts_expire hcutoff]
  | some cutoff =>
    dsimp only
    rw [expire_transcripts_eq hcutoff]

/-- Nor does the report of a company's retention depend on the others. -/
theorem SameRecords.summary (h : SameRecords company inner inner') (hattached : AttachedToOwn inner)
    (hattached' : AttachedToOwn inner') :
    company_retention_summary now inner company.1 company.2 policy deleted =
      company_retention_summary now inner' company.1 company.2 policy deleted := by
  have hmessages : ∀ message_id,
      message_id ∈ policy.removable_message_ids now inner company.1 company.2 deleted ↔
      message_id ∈ policy.removable_message_ids now inner' company.1 company.2 deleted :=
    h.mem_removable_message_iff hattached hattached'
  have hmedia : ∀ media_id, media_id ∈ policy.removable_media_ids now inner company.1 company.2 deleted ↔
      media_id ∈ policy.removable_media_ids now inner' company.1 company.2 deleted :=
    h.mem_removable_media_iff hattached hattached'
  have hunexpired : HashMap.SameFor (fun _ (transcript : Transcript) =>
      owned_by company transcript.project_id transcript.company_id)
      (unexpired_transcripts policy company.1 company.2 inner now deleted)
      (unexpired_transcripts policy company.1 company.2 inner' now deleted) :=
    h.transcripts.retained fun message_id _ _ => congrArg _ (contains_congr hmessages message_id)
  have hexpires (transcript : Transcript)
      (hexpires : expires policy company.1 company.2 now transcript = true) :
      owned_by company transcript.project_id transcript.company_id = true := by
    rw [expires, Bool.and_eq_true, Bool.and_eq_true, decide_eq_true_eq, decide_eq_true_eq] at hexpires
    exact owned_by_iff.mpr hexpires.1
  have hredacts (transcript : Transcript) (hredacts : redacts company.1 company.2 transcript = true) :
      owned_by company transcript.project_id transcript.company_id = true := by
    rw [redacts, Bool.and_eq_true, Bool.and_eq_true, decide_eq_true_eq, decide_eq_true_eq] at hredacts
    exact owned_by_iff.mpr hredacts.1
  rw [company_retention_summary_eq, company_retention_summary_eq, dedup_length_congr hmessages,
    dedup_length_congr hmedia, hunexpired.filter_values_length hexpires,
    (hunexpired.retained fun _ _ _ => rfl).filter_values_length hredacts]

end Turn

section Cleanup

variable {company : String × String} {inner inner' : StoreInner} {now : OffsetDateTime}
  {deleted : String → Bool}

/-- The cleanup looks at each medium for itself, where media stand under their own ids. -/
theorem cleaned_media (hkeyed : MediaKeyed inner) :
    (cleanup_expired_temp_media now inner deleted).media = inner.media.retain fun _ media =>
      !(is_temp_status media.storage_status && (media.expires_at.any fun expires_at => expires_at ≤ now) &&
        delete_media_object_bytes_best_effort deleted media) := by
  rw [cleanup_expired_temp_media, HashMap.foldl_erase]
  refine AList.ext (List.filter_congr fun entry hentry => congrArg not ?_)
  have hlookup : inner.media.lookup entry.1 = some entry.2 := HashMap.lookup_eq_some_iff.mpr hentry
  rw [List.contains_eq_mem, Bool.eq_iff_iff, decide_eq_true_eq, expired_media_ids, List.mem_map]
  constructor
  · rintro ⟨media, hmem, hid⟩
    obtain ⟨hvalue, hexpired⟩ := List.mem_filter.mp hmem
    obtain ⟨media_id, hmedia⟩ := HashMap.mem_values_iff.mp hvalue
    rw [← hkeyed media_id media hmedia, hid, hlookup, Option.some.injEq] at hmedia
    rw [hmedia]
    exact hexpired
  · intro hexpired
    exact ⟨entry.2, List.mem_filter.mpr ⟨HashMap.mem_values_of_lookup hlookup, hexpired⟩,
      hkeyed entry.1 entry.2 hlookup⟩

theorem SameRecords.cleanup (h : SameRecords company inner inner') (hkeyed : MediaKeyed inner)
    (hkeyed' : MediaKeyed inner') :
    SameRecords company (cleanup_expired_temp_media now inner deleted)
      (cleanup_expired_temp_media now inner' deleted) := by
  refine ⟨h.messages, h.listed, ?_, h.transcripts⟩
  rw [cleaned_media hkeyed, cleaned_media hkeyed']
  exact h.media.retained fun _ _ _ => rfl

end Cleanup

section Pass

variable (self : AppState) (now : OffsetDateTime) (answers : RetentionAnswers)

/-- The audit entry of a company whose retention has removed something. -/
def audited (company : String × String) (summary : RetentionSummary) : List Value :=
  if summary.removes_any then
    (audit_log self (answers.audit company) 0 {} company.1 company.2 "retention.apply" "company"
      (some company.2) summary.to_json).audit_logs
  else []

theorem retain_company_eq (company : (String × String) × CompanyPrivacyPolicy) (inner : StoreInner) :
    retain_company self now answers company inner =
      { apply_company_retention now inner company.1.1 company.1.2 company.2 (answers.deleted company.1) with
        audit_logs := inner.audit_logs ++
          audited self answers company.1 (company_summary now answers company inner) } := by
  have hlogs : (apply_company_retention now inner company.1.1 company.1.2 company.2
      (answers.deleted company.1)).audit_logs = inner.audit_logs := by
    rw [retention_sections]
    rfl
  unfold retain_company audited
  dsimp only
  split
  · rw [audit_log, hlogs]
    rfl
  · rw [List.append_nil, ← hlogs]

theorem retain_company_records (company : (String × String) × CompanyPrivacyPolicy) (inner : StoreInner)
    (other : String × String) :
    SameRecords other
      (apply_company_retention now inner company.1.1 company.1.2 company.2 (answers.deleted company.1))
      (retain_company self now answers company inner) := by
  rw [retain_company_eq]
  exact ⟨.refl _, fun _ => rfl, .refl _, .refl _⟩

/-- The turns of different companies have nothing to do with each other. -/
theorem retention_independent :
    Independent (fun inner => inner.WellKeyed ∧ AttachedToOwn inner) SameRecords
      (retain_company self now answers) where
  refl := SameRecords.refl
  trans := SameRecords.trans
  keeps {inner} company := by
    rintro ⟨hkeyed, hattached⟩
    have hkeyed' : (apply_company_retention now inner company.1.1 company.1.2 company.2
      (answers.deleted company.1)).WellKeyed := well_keyed_retention hkeyed
    have hattached' : AttachedToOwn (apply_company_retention now inner company.1.1 company.1.2 company.2
      (answers.deleted company.1)) := hattached.retention hkeyed
    rw [retain_company_eq]
    exact ⟨⟨hkeyed'.conversations, hkeyed'.messages, hkeyed'.dirty⟩,
      ⟨hattached'.indexes, hattached'.keyed, hattached'.media, hattached'.transcripts⟩⟩
  local_to company := by
    rintro ⟨-, hattached⟩ ⟨-, hattached'⟩ hsame
    exact (retain_company_records self now answers company _ _).symm.trans
      ((hsame.retention hattached hattached').trans (retain_company_records self now answers company _ _))
  other company item := by
    rintro ⟨-, hattached⟩ hne
    exact (SameRecords.retention_other hattached hne).trans (retain_company_records self now answers item _ _)

theorem apply_companies_eq (companies : List ((String × String) × CompanyPrivacyPolicy))
    (summary : RetentionSummary) (inner : StoreInner) :
    companies.foldl (fun passed company => (passed.1.add (company_summary now answers company passed.2),
        retain_company self now answers company passed.2)) (summary, inner) =
      ((reports (retain_company self now answers) (company_summary now answers) companies inner).foldl
        RetentionSummary.add summary, pass (retain_company self now answers) companies inner) := by
  induction companies generalizing summary inner with
  | nil => rfl
  | cons company companies ih => exact ih _ _

theorem pass_audit_logs (companies : List ((String × String) × CompanyPrivacyPolicy)) (inner : StoreInner) :
    (pass (retain_company self now answers) companies inner).audit_logs = inner.audit_logs ++
      (reports (retain_company self now answers) (fun company inner =>
        audited self answers company.1 (company_summary now answers company inner)) companies inner).flatten := by
  induction companies generalizing inner with
  | nil => exact (List.append_nil _).symm
  | cons company companies ih =>
    have hturn : (retain_company self now answers company inner).audit_logs = inner.audit_logs ++
        audited self answers company.1 (company_summary now answers company inner) := by
      rw [retain_company_eq]
    rw [reports, List.flatten_cons, ← List.append_assoc, ← hturn]
    exact ih _

theorem retention_companies_nodup (inner : StoreInner) :
    ((retention_companies inner).map Prod.fst).Nodup := by
  rw [retention_companies, List.map_map]
  exact inner.companies.to_pairs_keys_nodup

/-- A pass of the retention is to each company what its own retention and the cleanup are
alone: the companies, whatever their number, their policies and their order, have no effect
on each other, nor on what is reported and entered into the audit log for each. -/
theorem retention_pass_per_company (store : Store) (h : AttachedToOwn store.inner) :
    let companies := retention_companies store.inner
    let alone := fun company => company_summary now answers company store.inner
    let passed := apply_retention_once self now answers store.inner
    let turned := pass (retain_company self now answers) companies store.inner
    (∀ company, SameRecords company (retained_alone now answers store.inner company) passed.2) ∧
    passed.2.audit_logs = store.inner.audit_logs ++
      companies.flatMap (fun company => audited self answers company.1 (alone company)) ∧
    passed.1 = ((companies.map alone).foldl RetentionSummary.add {}).add
      { media_removed := (expired_media_ids answers.cleanup_now turned answers.expired).dedup.length } := by
  intro companies alone passed turned
  have hindependent := retention_independent self now answers
  have hinv : store.inner.WellKeyed ∧ AttachedToOwn store.inner := ⟨store.keyed, h⟩
  have hnodup : (companies.map Prod.fst).Nodup := retention_companies_nodup store.inner
  have hturned : MediaKeyed turned := (hindependent.pass_keeps hinv).2.keyed
  have hpassed := apply_companies_eq self now answers companies {} store.inner
  have hstore : passed.2 = cleanup_expired_temp_media answers.cleanup_now turned answers.expired :=
    congrArg (fun turns : RetentionSummary × StoreInner =>
      cleanup_expired_temp_media answers.cleanup_now turns.2 answers.expired) hpassed
  have halone {inner inner' : StoreInner} (company : (String × String) × CompanyPrivacyPolicy)
      (hinner : inner.WellKeyed ∧ AttachedToOwn inner) (hinner' : inner'.WellKeyed ∧ AttachedToOwn inner')
      (hsame : SameRecords company.1 inner inner') :
      company_summary now answers company inner = company_summary now answers company inner' :=
    hsame.summary hinner.2 hinner'.2
  refine ⟨fun company => ?_, ?_, ?_⟩
  · rw [hstore, retained_alone]
    cases hcompany : store.inner.companies.lookup company with
    | none =>
      refine SameRecords.cleanup (hindependent.pass_other hinv fun hmem => ?_) h.keyed hturned
      obtain ⟨⟨key, policy⟩, hitem, rfl⟩ := List.mem_map.mp hmem
      obtain ⟨pair, hpair, heq⟩ := List.mem_map.mp hitem
      cases heq
      cases hcompany.symm.trans (HashMap.mem_to_pairs_iff.mp hpair)
    | some value =>
      have hitem : (company, company_privacy_policy value) ∈ companies :=
        List.mem_map.mpr ⟨(company, value), HashMap.mem_to_pairs_iff.mpr hcompany, rfl⟩
      have hown := hindependent.pass_own hinv hnodup hitem
      exact SameRecords.cleanup ((retain_company_records self now answers _ _ _).trans hown)
        (h.retention store.keyed).keyed hturned
  · have hlogs := pass_audit_logs self now answers companies store.inner
    rw [hindependent.reports_eq (fun company hinner hinner' hsame =>
      congrArg (audited self answers company.1) (halone company hinner hinner' hsame)) hinv hnodup] at hlogs
    rw [hstore, List.flatMap_def]
    exact hlogs
  · have hreports := hindependent.reports_eq halone hinv hnodup
    have htotal : ((reports (retain_company self now answers) (company_summary now answers) companies
        store.inner).foldl RetentionSummary.add {}) = (companies.map alone).foldl RetentionSummary.add {} :=
      congrArg (List.foldl RetentionSummary.add {}) hreports
    rw [← htotal]
    exact congrArg (fun turns : RetentionSummary × StoreInner => turns.1.add
      { media_removed := (expired_media_ids answers.cleanup_now turns.2 answers.expired).dedup.length }) hpassed

end Pass

namespace sample

/-- The company of the voice message keeps its messages for a day, the other one for a year. -/
def two_companies : Store where
  inner :=
    { (live Store.empty voice_heard).inner with
      companies := ((∅ : HashMap (String × String) Value).insert ("acme", "company_a")
        (.object [("privacy", .object [("message_retention_days", .number 1)])])).insert
          ("acme", "company_b") (.object []) }
  keyed :=
    let keyed := (live Store.empty voice_heard).keyed
    ⟨keyed.conversations, keyed.messages, keyed.dirty⟩

theorem two_companies_attached : AttachedToOwn two_companies.inner := by
  have hrun := lives voice_heard Store.empty (by decide)
  have hmedia : two_companies.inner.media.values.all (fun media => media.message_id.all fun message_id =>
      (two_companies.inner.messages_by_id.lookup message_id).all fun message =>
        message.project_id = media.project_id && message.company_id = media.company_id) = true := by decide
  have htranscripts : two_companies.inner.transcripts.entries.all (fun entry =>
      (two_companies.inner.messages_by_id.lookup entry.1).all fun message =>
        message.project_id = entry.2.project_id && message.company_id = entry.2.company_id) = true := by decide
  have hindexes : IndexesAgree (live Store.empty voice_heard).inner :=
    indexes_agree_preserved.run hrun Grouped.Agree.empty
  have hkeyed : MediaKeyed (live Store.empty voice_heard).inner := media_keyed_of_run hrun
  refine ⟨hindexes, hkeyed, fun media hmem message_id message hnamed hmessage => ?_,
    fun message_id transcript message htranscript hmessage => ?_⟩
  · have hown := List.all_eq_true.mp hmedia media hmem
    rw [hnamed, Option.all_some, hmessage, Option.all_some, Bool.and_eq_true, decide_eq_true_eq,
      decide_eq_true_eq] at hown
    exact hown
  · have hown := List.all_eq_true.mp htranscripts ⟨message_id, transcript⟩
      (HashMap.lookup_eq_some_iff.mp htranscript)
    rw [hmessage, Option.all_some, Bool.and_eq_true, decide_eq_true_eq, decide_eq_true_eq] at hown
    exact hown

/-- The bytes of the other company cannot be deleted. -/
def pass_answers : RetentionAnswers where
  audit company := ctx 3 company.2
  deleted company _ := company = ("acme", "company_a")
  cleanup_now := Duration.days 3
  expired _ := true

def passed : RetentionSummary × StoreInner :=
  apply_retention_once service (Duration.days 3) pass_answers two_companies.inner

end sample

open sample in
/-- The voice message goes with its medium and its transcript. -/
theorem retention_pass_per_company_heard :
    (∀ company, SameRecords company
      (retained_alone (Duration.days 3) pass_answers two_companies.inner company) passed.2) ∧
    passed.2.audit_logs = [] ++ (retention_companies two_companies.inner).flatMap (fun company =>
      audited service pass_answers company.1
        (company_summary (Duration.days 3) pass_answers company two_companies.inner)) ∧
    passed.1 = { messages_removed := 1, transcripts_removed := 0, media_removed := 1 } :=
  have hpass := retention_pass_per_company service (Duration.days 3) pass_answers two_companies
    two_companies_attached
  ⟨hpass.1, hpass.2.1, by decide⟩

end rustzap.state
