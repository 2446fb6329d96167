import RustZap.Retention.Ownership
import RustZap.Consistency.Indexes
import RustZap.Inbound.Redelivery

open collections serde_json runs
open rustzap.models

namespace rustzap.state

/-- Whether the byte store deletes everything that it has of a medium. -/
def AllBytesDeleted (deleted : String → Bool) (media : MediaObject) : Prop :=
  (∀ object_key, media.object_key = some object_key → deleted object_key = true) ∧
    ∀ object_key, media.permanent_object_key = some object_key → deleted object_key = true

/-- A store whose media and transcripts belong to the companies of their messages. Any
number of media may name a message, and a medium may name none. -/
structure AttachedToOwn (inner : StoreInner) : Prop where
  indexes : IndexesAgree inner
  keyed : MediaKeyed inner
  media : ∀ media ∈ inner.media.values, ∀ message_id message, media.message_id = some message_id →
    inner.messages_by_id.lookup message_id = some message →
    message.project_id = media.project_id ∧ message.company_id = media.company_id
  transcripts : ∀ message_id transcript message, inner.transcripts.lookup message_id = some transcript →
    inner.messages_by_id.lookup message_id = some message →
    message.project_id = transcript.project_id ∧ message.company_id = transcript.company_id

/-- Throughout a run whose steps attach what comes in to the company's own messages, the
store is of that kind. -/
theorem attached_to_own_of_run {self : AppState} {labels : List (Ctx × Operation)} {store : Store}
    (hrun : Run (Guarded (Store.Lives self) AttachesToOwn) Store.empty labels store) :
    AttachedToOwn store.inner := by
  have hown := own_attachments_of_run hrun
  exact {
    indexes := indexes_agree_preserved.run hrun.unguarded Grouped.Agree.empty
    keyed := media_keyed_of_run hrun.unguarded
    media := fun media hmem message_id message hnamed hmessage => by
      obtain ⟨media_id, hmedia⟩ := HashMap.mem_values_iff.mp hmem
      exact hown message_id media.project_id media.company_id message
        (Or.inl ⟨media_id, media, hmedia, hnamed, rfl, rfl⟩) hmessage
    transcripts := fun message_id transcript message htranscript hmessage =>
      hown message_id transcript.project_id transcript.company_id message
        (Or.inr ⟨transcript, htranscript, rfl, rfl⟩) hmessage }

/-- What the retention of a company may do to a store, `deleted` telling which object keys
the byte store deletes. -/
structure LeavesNoOrphans (project_id company_id : String) (deleted : String → Bool)
    (inner inner' : StoreInner) : Prop where
  /-- A medium is forgotten only with all its bytes. -/
  media_removed : ∀ media_id media, inner.media.lookup media_id = some media →
    inner'.media.lookup media_id = none → AllBytesDeleted deleted media
  /-- A message goes only after all its media. -/
  message_removed : ∀ message_id, (inner.messages_by_id.lookup message_id).isSome →
    inner'.messages_by_id.lookup message_id = none →
    ∀ media_id media, inner.media.lookup media_id = some media → media.message_id = some message_id →
      AllBytesDeleted deleted media ∧ inner'.media.lookup media_id = none
  transcript_removed : ∀ message_id, (inner.messages_by_id.lookup message_id).isSome →
    inner'.messages_by_id.lookup message_id = none → inner'.transcripts.lookup message_id = none
  media_named : ∀ media ∈ inner'.media.values, ∀ message_id, media.message_id = some message_id →
    (inner.messages_by_id.lookup message_id).isSome → (inner'.messages_by_id.lookup message_id).isSome
  indexes : IndexesAgree inner'
  other_messages : ∀ message_id message, inner.messages_by_id.lookup message_id = some message →
    ¬ (message.project_id = project_id ∧ message.company_id = company_id) →
    inner'.messages_by_id.lookup message_id = some message
  other_listed : ∀ conversation_id,
    ((inner'.messages_by_conversation.lookup conversation_id).getD []).filter (fun message =>
        ¬ (message.project_id = project_id ∧ message.company_id = company_id)) =
      ((inner.messages_by_conversation.lookup conversation_id).getD []).filter fun message =>
        ¬ (message.project_id = project_id ∧ message.company_id = company_id)
  other_media : ∀ media_id media, inner.media.lookup media_id = some media →
    ¬ (media.project_id = project_id ∧ media.company_id = company_id) →
    inner'.media.lookup media_id = some media
  other_transcripts : ∀ message_id transcript, inner.transcripts.lookup message_id = some transcript →
    ¬ (transcript.project_id = project_id ∧ transcript.company_id = company_id) →
    inner'.transcripts.lookup message_id = some transcript

section Failures

variable {policy : CompanyPrivacyPolicy} {project_id company_id : String} {inner : StoreInner}
  {now : OffsetDateTime} {deleted : String → Bool}

theorem delete_media_object_bytes_best_effort_iff {media : MediaObject} :
    delete_media_object_bytes_best_effort deleted media = true ↔ AllBytesDeleted deleted media := by
  unfold delete_media_object_bytes_best_effort AllBytesDeleted
  cases hkey : media.object_key with
  | none => cases hpermanent : media.permanent_object_key <;> simp [Option.filter]
  | some object_key =>
    cases hpermanent : media.permanent_object_key with
    | none => simp [Option.filter]
    | some permanent_object_key =>
      by_cases hsame : object_key = permanent_object_key
      · subst hsame
        simp [Option.filter]
      · simp [Option.filter, hsame]

theorem mem_failed_message_ids_iff {message_id : String} :
    message_id ∈ policy.failed_message_ids now inner project_id company_id deleted ↔
      ∃ media ∈ policy.candidate_media now inner project_id company_id,
        media.message_id = some message_id ∧ ¬ AllBytesDeleted deleted media := by
  unfold CompanyPrivacyPolicy.failed_message_ids
  simp only [List.mem_filterMap, List.mem_filter, Bool.not_eq_true', ← Bool.not_eq_true,
    delete_media_object_bytes_best_effort_iff, and_assoc]
  exact exists_congr fun media => and_congr_right fun _ => and_comm

/-- The messages that go are the old ones of the company whose media are all gone. -/
theorem mem_removable_message_ids_iff {message_id : String} :
    message_id ∈ policy.removable_message_ids now inner project_id company_id deleted ↔
      message_id ∈ policy.candidate_message_ids now inner project_id company_id ∧
        ∀ media ∈ inner.media.values, media.message_id = some message_id →
          AllBytesDeleted deleted media := by
  unfold CompanyPrivacyPolicy.removable_message_ids
  rw [List.mem_filter, Bool.not_eq_true', List.contains_eq_mem, decide_eq_false_iff_not]
  refine and_congr_right fun hcandidate => ?_
  rw [mem_failed_message_ids_iff]
  constructor
  · intro hnone media hmem hmessage
    by_contra hfailed
    have hattached : media ∈ policy.candidate_media now inner project_id company_id :=
      mem_candidate_media_iff.mpr ⟨hmem, Or.inl ⟨message_id, hcandidate, hmessage⟩⟩
    exact hnone ⟨media, hattached, hmessage, hfailed⟩
  · rintro hall ⟨media, hcandidate, hmessage, hfailed⟩
    exact hfailed (hall media (mem_candidate_media_iff.mp hcandidate).1 hmessage)

theorem mem_removable_media_ids_iff {media_id : String} :
    media_id ∈ policy.removable_media_ids now inner project_id company_id deleted ↔
      ∃ media ∈ policy.candidate_media now inner project_id company_id,
        (AllBytesDeleted deleted media ∧ ∀ message_id, media.message_id = some message_id →
          message_id ∉ policy.failed_message_ids now inner project_id company_id deleted) ∧
        media.id = media_id := by
  unfold CompanyPrivacyPolicy.removable_media_ids
  rw [List.mem_map]
  refine exists_congr fun media => ?_
  rw [List.mem_filter, Bool.and_eq_true, delete_media_object_bytes_best_effort_iff, and_assoc]
  refine and_congr_right fun _ => and_congr_left fun _ => and_congr_right fun _ => ?_
  cases media.message_id <;> simp

/-- The messages that one step of the retention removes are the company's. -/
theorem removable_message_owner {message_id : String} {message : Message}
    (hremovable : message_id ∈ policy.removable_message_ids now inner project_id company_id deleted)
    (hmessage : inner.messages_by_id.lookup message_id = some message) :
    message.project_id = project_id ∧ message.company_id = company_id := by
  obtain ⟨found, hfound, hproject, hcompany, -⟩ :=
    mem_candidate_message_ids_iff.mp (mem_removable_message_ids_iff.mp hremovable).1
  rw [hmessage, Option.some.injEq] at hfound
  rw [hfound]
  exact ⟨hproject, hcompany⟩

/-- So are the media whose bytes it deletes. -/
theorem candidate_media_owner (h : AttachedToOwn inner) {media : MediaObject}
    (hcandidate : media ∈ policy.candidate_media now inner project_id company_id) :
    media.project_id = project_id ∧ media.company_id = company_id := by
  obtain ⟨hmem, ⟨message_id, hold, hmessage⟩ | ⟨-, hproject, hcompany, -⟩⟩ :=
    mem_candidate_media_iff.mp hcandidate
  · obtain ⟨message, hlookup, hproject, hcompany, -⟩ := mem_candidate_message_ids_iff.mp hold
    obtain ⟨hsame_project, hsame_company⟩ := h.media media hmem message_id message hmessage hlookup
    exact ⟨hsame_project ▸ hproject, hsame_company ▸ hcompany⟩
  · exact ⟨hproject, hcompany⟩

theorem removed_message (message_id : String) (hstored : (inner.messages_by_id.lookup message_id).isSome)
    (hgone : (apply_company_retention now inner project_id company_id policy deleted).messages_by_id.lookup
      message_id = none) :
    message_id ∈ policy.removable_message_ids now inner project_id company_id deleted := by
  obtain ⟨message, hmessage⟩ := Option.isSome_iff_exists.mp hstored
  rw [kept_messages_by_id, HashMap.lookup_retain, hmessage] at hgone
  by_contra hkept
  rw [Option.filter_some_pos (by simpa using hkept)] at hgone
  cases hgone

/-- A medium of a message that goes goes with it. -/
theorem media_of_removed_message (h : AttachedToOwn inner) {message_id media_id : String}
    {media : MediaObject}
    (hremovable : message_id ∈ policy.removable_message_ids now inner project_id company_id deleted)
    (hmedia : inner.media.lookup media_id = some media) (hmessage : media.message_id = some message_id) :
    AllBytesDeleted deleted media ∧
      media_id ∈ policy.removable_media_ids now inner project_id company_id deleted := by
  obtain ⟨hcandidate, hall⟩ := mem_removable_message_ids_iff.mp hremovable
  have hmem := HashMap.mem_values_of_lookup hmedia
  refine ⟨hall media hmem hmessage, mem_removable_media_ids_iff.mpr ⟨media, ?_, ⟨hall media hmem hmessage, ?_⟩,
    h.keyed media_id media hmedia⟩⟩
  · exact mem_candidate_media_iff.mpr ⟨hmem, Or.inl ⟨message_id, hcandidate, hmessage⟩⟩
  · intro attached hattached hfailed
    rw [hmessage, Option.some.injEq] at hattached
    subst hattached
    obtain ⟨other, hother, hother_message, hother_failed⟩ := mem_failed_message_ids_iff.mp hfailed
    exact hother_failed (hall other (mem_candidate_media_iff.mp hother).1 hother_message)

/-- The medium behind a removable id, where media stand under their own ids. -/
theorem removable_media (h : AttachedToOwn inner) {media_id : String} {media : MediaObject}
    (hremovable : media_id ∈ policy.removable_media_ids now inner project_id company_id deleted)
    (hmedia : inner.media.lookup media_id = some media) :
    media ∈ policy.candidate_media now inner project_id company_id ∧ AllBytesDeleted deleted media := by
  obtain ⟨found, hcandidate, ⟨hdeleted, -⟩, hid⟩ := mem_removable_media_ids_iff.mp hremovable
  obtain ⟨key, hkey⟩ := HashMap.mem_values_iff.mp (mem_candidate_media_iff.mp hcandidate).1
  rw [← h.keyed key found hkey, hid, hmedia, Option.some.injEq] at hkey
  rw [hkey]
  exact ⟨hcandidate, hdeleted⟩

theorem kept_media_lookup {media_id : String} :
    (apply_company_retention now inner project_id company_id policy deleted).media.lookup media_id =
      if media_id ∈ policy.removable_media_ids now inner project_id company_id deleted then none
      else inner.media.lookup media_id := by
  rw [kept_media, HashMap.lookup_retain]
  cases inner.media.lookup media_id with
  | none => simp
  | some media => split <;> simp [Option.filter, *]

theorem kept_messages_lookup {message_id : String} :
    (apply_company_retention now inner project_id company_id policy deleted).messages_by_id.lookup message_id =
      if message_id ∈ policy.removable_message_ids now inner project_id company_id deleted then none
      else inner.messages_by_id.lookup message_id := by
  rw [kept_messages_by_id, HashMap.lookup_retain]
  cases inner.messages_by_id.lookup message_id with
  | none => simp
  | some message => split <;> simp [Option.filter, *]

end Failures

/-- One step of the retention of a company leaves no orphans, whichever deletions of bytes
fail, and leaves the other companies alone. -/
theorem retention_leaves_no_orphans (policy : CompanyPrivacyPolicy) (now : OffsetDateTime)
    (project_id company_id : String) (deleted : String → Bool) (store : Store)
    (h : AttachedToOwn store.inner) :
    LeavesNoOrphans project_id company_id deleted store.inner
      (apply_company_retention now store.inner project_id company_id policy deleted) where
  media_removed media_id media hmedia hgone := by
    rw [kept_media_lookup] at hgone
    split at hgone
    · next hremovable => exact (removable_media h hremovable hmedia).2
    · rw [hmedia] at hgone
      cases hgone
  message_removed message_id hstored hgone media_id media hmedia hmessage := by
    obtain ⟨hdeleted, hremovable⟩ :=
      media_of_removed_message h (removed_message message_id hstored hgone) hmedia hmessage
    rw [kept_media_lookup, if_pos hremovable]
    exact ⟨hdeleted, rfl⟩
  transcript_removed message_id hstored hgone := by
    rw [kept_transcripts_lookup, Option.map_eq_none_iff, Option.filter_eq_none_iff]
    intro transcript _
    simp [removed_message message_id hstored hgone]
  media_named media hmem message_id hmessage hstored := by
    by_contra hgone
    rw [← Option.ne_none_iff_isSome, not_not] at hgone
    obtain ⟨media_id, hmedia⟩ := HashMap.mem_values_iff.mp hmem
    rw [kept_media_lookup] at hmedia
    split at hmedia
    · cases hmedia
    · next hkept =>
      exact hkept (media_of_removed_message h (removed_message message_id hstored hgone) hmedia hmessage).2
  indexes := by
    have hremoved := indexes_agree_preserved.removed store.inner
      (policy.removable_message_ids now store.inner project_id company_id deleted)
      (policy.removable_media_ids now store.inner project_id company_id deleted) store.keyed h.indexes
    rw [retention_sections]
    exact hremoved
  other_messages message_id message hmessage hother := by
    rw [kept_messages_lookup, if_neg, hmessage]
    exact fun hremovable => hother (removable_message_owner hremovable hmessage)
  other_listed conversation_id := by
    have hlists : (apply_company_retention now store.inner project_id company_id policy
        deleted).messages_by_conversation = store.inner.messages_by_conversation.map_values fun _ messages =>
          messages.filter fun message => !(policy.removable_message_ids now store.inner project_id company_id
            deleted).contains message.id := by
      rw [retention_sections]
      rfl
    rw [hlists, HashMap.lookup_map_values]
    cases hmessages : store.inner.messages_by_conversation.lookup conversation_id with
    | none => rfl
    | some messages =>
      rw [Option.map_some, Option.getD_some, Option.getD_some, List.filter_filter]
      refine List.filter_congr fun message hmem => ?_
      by_cases hremovable : message.id ∈
          policy.removable_message_ids now store.inner project_id company_id deleted
      · have hindexed := (Grouped.Agree.of_mem h.indexes hmessages hmem).1
        simp [removable_message_owner hremovable hindexed]
      · simp [hremovable]
  other_media media_id media hmedia hother := by
    rw [kept_media_lookup, if_neg, hmedia]
    exact fun hremovable => hother (candidate_media_owner h (removable_media h hremovable hmedia).1)
  other_transcripts message_id transcript htranscript hother := by
    have hstays : message_id ∉
        policy.removable_message_ids now store.inner project_id company_id deleted := by
      intro hremovable
      obtain ⟨message, hmessage, hproject, hcompany, -⟩ :=
        mem_candidate_message_ids_iff.mp (mem_removable_message_ids_iff.mp hremovable).1
      obtain ⟨hsame_project, hsame_company⟩ := h.transcripts message_id transcript message htranscript hmessage
      exact hother ⟨hsame_project ▸ hproject, hsame_company ▸ hcompany⟩
    have hexpires : expires policy project_id company_id now transcript = false := by
      rw [expires, Bool.and_eq_false_iff, Bool.and_eq_false_iff, decide_eq_false_iff_not,
        decide_eq_false_iff_not, ← not_and_or]
      exact Or.inl hother
    have hredacts : redacts project_id company_id transcript = false := by
      rw [redacts, Bool.and_eq_false_iff, Bool.and_eq_false_iff, decide_eq_false_iff_not,
        decide_eq_false_iff_not, ← not_and_or]
      exact Or.inl hother
    rw [kept_transcripts_lookup, htranscript, Option.filter_some_pos (by simp [hstays, hexpires]),
      Option.map_some, hredacts, Bool.and_false]
    rfl

namespace sample

/-- A voice message, received and transcribed. -/
def voice_heard : List (Ctx × Operation) :=
  [(ctx 1 "a", .store (.process_whatsapp_event company_a (stored_media 2 "m") (.Message voice_event))),
    (transcribed.1, .store transcribed.2)]

/-- Everything is kept for a day. -/
def days_of_one : CompanyPrivacyPolicy where
  message_retention_days := some 1
  media_temp_retention_days := some 1
  transcript_retention_days := some 1
  allow_transcript_storage := true

/-- A voice message comes in, whose medium is refused when it is very long. -/
def voice_arrives (wa_message_id : String) (file_length : Nat) (answers : EventAnswers) : Operation :=
  .store (.process_whatsapp_event company_a answers
    (.Message { voice_event with wa_message_id, media := some { voice with file_length } }))

/-- A long voice message, and another one that is delivered twice. -/
def voices_heard : List (Ctx × Operation) :=
  [(ctx 1 "a", voice_arrives "3EB0A0" (2 ^ 28) (stored_media 2 "m")),
    (ctx 3 "t", .request_transcript "acme" "company_a" "msg_a0"),
    (ctx 5 "b", voice_arrives "3EB0B0" 6 (stored_media 6 "n")),
    (ctx 7 "c", voice_arrives "3EB0B0" (2 ^ 28) (stored_media 8 "p"))]

/-- The store when the voice messages are old and no bytes can be deleted. -/
def voices_old : StoreInner :=
  apply_company_retention (Duration.days 2) (live Store.empty voices_heard).inner "acme" "company_a"
    days_of_one fun _ => false

end sample

/-- The bytes of one medium cannot be deleted: its message stays, with both of its media,
and the message whose medium left no bytes goes with it. -/
theorem voice_message_stays :
    LeavesNoOrphans "acme" "company_a" (fun _ => false) (sample.live Store.empty sample.voices_heard).inner
        sample.voices_old ∧
      sample.voices_old.messages_by_id.keys = ["msg_b0"] ∧
      sample.voices_old.media.keys = ["media_p0", "media_n1"] := by
  have hrun := sample.lives_attached sample.voices_heard (by decide) (by decide)
  exact ⟨retention_leaves_no_orphans _ _ _ _ _ _ (attached_to_own_of_run hrun), by decide, by decide⟩

end rustzap.state
