import RustZap.Idempotency.Records
import RustZap.Retention.Failures

open collections runs
open rustzap.models

namespace rustzap.state

/-- A job that removes what has expired. -/
inductive Removal where
  | apply_company_retention (project_id company_id : String) (policy : CompanyPrivacyPolicy)
  | cleanup_expired_temp_media

/-- A job between its first section and its removal: when it has looked, and at what. -/
structure Look where
  removal : Removal
  now : OffsetDateTime
  inner : StoreInner

/-- A message that the retention of a company finds old enough to go. -/
def MessageDue (policy : CompanyPrivacyPolicy) (project_id company_id : String) (now : OffsetDateTime)
    (message : Message) : Prop :=
  message.project_id = project_id ∧ message.company_id = company_id ∧
    too_old now policy.message_retention_days message.created_at = true

/-- A medium that the retention of a company finds old enough to go: one of a message
that is, or a temporary one of its own age. -/
def MediaDue (policy : CompanyPrivacyPolicy) (project_id company_id : String) (now : OffsetDateTime)
    (inner : StoreInner) (media : MediaObject) : Prop :=
  (∃ message_id message, media.message_id = some message_id ∧
      inner.messages_by_id.lookup message_id = some message ∧
      MessageDue policy project_id company_id now message) ∨
    is_temp_status media.storage_status = true ∧ media.project_id = project_id ∧
      media.company_id = company_id ∧ too_old now policy.media_temp_retention_days media.created_at = true

section Look

variable (look : Look) (deleted : String → Bool)

/-- The messages that the job removes, `deleted` being the answers of the byte store. -/
def Look.message_ids : List String :=
  match look.removal with
  | .apply_company_retention project_id company_id policy =>
    policy.removable_message_ids look.now look.inner project_id company_id deleted
  | .cleanup_expired_temp_media => []

def Look.media_ids : List String :=
  match look.removal with
  | .apply_company_retention project_id company_id policy =>
    policy.removable_media_ids look.now look.inner project_id company_id deleted
  | .cleanup_expired_temp_media => expired_media_ids look.now look.inner deleted

/-- The message was too young when the job looked, another company's, or has a medium
whose bytes are not deleted. -/
def Look.SparesMessage (message_id : String) : Prop :=
  match look.removal with
  | .apply_company_retention project_id company_id policy =>
    ∀ message, look.inner.messages_by_id.lookup message_id = some message →
      MessageDue policy project_id company_id look.now message →
      ∃ media ∈ look.inner.media.values, media.message_id = some message_id ∧
        ¬ AllBytesDeleted deleted media
  | .cleanup_expired_temp_media => True

/-- The medium was too young when the job looked, or its bytes are not deleted, or those of
another medium of its message are not. -/
def Look.SparesMedia (media_id : String) : Prop :=
  match look.removal with
  | .apply_company_retention project_id company_id policy =>
    ∀ media ∈ look.inner.media.values, media.id = media_id →
      MediaDue policy project_id company_id look.now look.inner media → AllBytesDeleted deleted media →
      ∃ other ∈ look.inner.media.values, ∃ message_id, media.message_id = some message_id ∧
        other.message_id = some message_id ∧ MediaDue policy project_id company_id look.now look.inner other ∧
        ¬ AllBytesDeleted deleted other
  | .cleanup_expired_temp_media =>
    ∀ media ∈ look.inner.media.values, media.id = media_id → is_temp_status media.storage_status = true →
      ∀ expires_at, media.expires_at = some expires_at → expires_at ≤ look.now →
        ¬ AllBytesDeleted deleted media

/-- No record names what the job removes. -/
structure Look.Spares (inner : StoreInner) : Prop where
  messages : ∀ key record, inner.idempotency.lookup key = some record →
    look.SparesMessage deleted record.message_id
  media : ∀ key record, inner.media_upload_idempotency.lookup key = some record →
    look.SparesMedia deleted record.media_id

variable {look deleted}

theorem MediaDue.candidate_iff {policy : CompanyPrivacyPolicy} {project_id company_id : String}
    {now : OffsetDateTime} {inner : StoreInner} {media : MediaObject} :
    media ∈ policy.candidate_media now inner project_id company_id ↔
      media ∈ inner.media.values ∧ MediaDue policy project_id company_id now inner media := by
  rw [mem_candidate_media_iff]
  refine and_congr_right fun _ => or_congr_left ?_
  simp only [mem_candidate_message_ids_iff, MessageDue]
  constructor
  · rintro ⟨message_id, ⟨message, hmessage, hdue⟩, hnamed⟩
    exact ⟨message_id, message, hnamed, hmessage, hdue⟩
  · rintro ⟨message_id, message, hnamed, hmessage, hdue⟩
    exact ⟨message_id, ⟨message, hmessage, hdue⟩, hnamed⟩

theorem Look.not_mem_message_ids_iff {message_id : String} :
    message_id ∉ look.message_ids deleted ↔ look.SparesMessage deleted message_id := by
  unfold Look.message_ids Look.SparesMessage
  cases look.removal with
  | cleanup_expired_temp_media => exact iff_of_true List.not_mem_nil trivial
  | apply_company_retention project_id company_id policy =>
    dsimp only
    rw [mem_removable_message_ids_iff, mem_candidate_message_ids_iff]
    constructor
    · intro hkept message hmessage hdue
      by_contra hnone
      refine hkept ⟨⟨message, hmessage, hdue⟩, fun media hmem hnamed => ?_⟩
      by_contra hfailed
      exact hnone ⟨media, hmem, hnamed, hfailed⟩
    · rintro hspares ⟨⟨message, hmessage, hdue⟩, hall⟩
      obtain ⟨media, hmem, hnamed, hfailed⟩ := hspares message hmessage hdue
      exact hfailed (hall media hmem hnamed)

theorem Look.not_mem_media_ids_iff {media_id : String} :
    media_id ∉ look.media_ids deleted ↔ look.SparesMedia deleted media_id := by
  unfold Look.media_ids Look.SparesMedia
  cases look.removal with
  | cleanup_expired_temp_media =>
    simp only [expired_media_ids, List.mem_map, List.mem_filter, Bool.and_eq_true, Option.any_eq_true,
      decide_eq_true_eq, delete_media_object_bytes_best_effort_iff]
    constructor
    · intro hkept media hmem hid htemp expires_at hexpires hpast hdeleted
      exact hkept ⟨media, ⟨hmem, ⟨htemp, expires_at, hexpires, hpast⟩, hdeleted⟩, hid⟩
    · rintro hspares ⟨media, ⟨hmem, ⟨htemp, expires_at, hexpires, hpast⟩, hdeleted⟩, hid⟩
      exact hspares media hmem hid htemp expires_at hexpires hpast hdeleted
  | apply_company_retention project_id company_id policy =>
    dsimp only
    simp only [mem_removable_media_ids_iff, mem_failed_message_ids_iff, MediaDue.candidate_iff]
    constructor
    · intro hkept media hmem hid hdue hdeleted
      by_contra hnone
      refine hkept ⟨media, ⟨hmem, hdue⟩, ⟨hdeleted, fun message_id hnamed hfailed => ?_⟩, hid⟩
      obtain ⟨other, ⟨hother, hother_due⟩, hother_named, hother_failed⟩ := hfailed
      exact hnone ⟨other, hother, message_id, hnamed, hother_named, hother_due, hother_failed⟩
    · rintro hspares ⟨media, ⟨hmem, hdue⟩, ⟨hdeleted, hno_failure⟩, hid⟩
      obtain ⟨other, hother, message_id, hnamed, hother_named, hother_due, hother_failed⟩ :=
        hspares media hmem hid hdue hdeleted
      exact hno_failure message_id hnamed ⟨other, ⟨hother, hother_due⟩, hother_named, hother_failed⟩

theorem RecordsNamed.removed_iff {inner : StoreInner} (h : RecordsNamed inner) :
    RecordsNamed (remove_expired inner (look.message_ids deleted) (look.media_ids deleted)) ↔
      look.Spares deleted inner := by
  rw [remove_expired_named_iff h]
  simp only [Look.not_mem_message_ids_iff, Look.not_mem_media_ids_iff]
  exact ⟨fun hspares => ⟨hspares.1, hspares.2⟩, fun hspares => ⟨hspares.messages, hspares.media⟩⟩

end Look

section Connected

variable (self : AppState) (ctx : Ctx) (inner : StoreInner) (deleted : String → Bool)

/-- Looking and removing at once is what the retention of a company begins with. -/
theorem apply_company_retention_look (project_id company_id : String) (policy : CompanyPrivacyPolicy) :
    let look : Look := ⟨.apply_company_retention project_id company_id policy, ctx.now, inner⟩
    ∃ ops, apply_company_retention ctx.now inner project_id company_id policy deleted =
        perform_all self ctx inner
          (.remove_expired (look.message_ids deleted) (look.media_ids deleted) :: ops) ∧
      ∀ message_ids media_ids, .remove_expired message_ids media_ids ∉ ops := by
  refine ⟨_, apply_company_retention_eq self ctx inner project_id company_id policy deleted, ?_⟩
  intro message_ids media_ids
  cases retention_cutoff ctx.now policy.transcript_retention_days <;>
    cases policy.allow_transcript_storage <;> simp

/-- It is all that the cleanup does. -/
theorem cleanup_expired_temp_media_look :
    let look : Look := ⟨.cleanup_expired_temp_media, ctx.now, inner⟩
    cleanup_expired_temp_media ctx.now inner deleted =
      perform_all self ctx inner [.remove_expired (look.message_ids deleted) (look.media_ids deleted)] :=
  cleanup_expired_temp_media_eq self ctx inner deleted

end Connected

/-- A service at work: its store, and the jobs that have looked and not yet removed. -/
structure Serving where
  store : Store
  looks : List Look

def Serving.empty : Serving where
  store := Store.empty
  looks := []

inductive ServingOp where
  | operation (op : Operation)
  | restart
  | look (removal : Removal)
  | remove (n : Nat) (deleted : String → Bool)

/-- Whether an operation is neither a removal nor a restart. -/
def Operation.Served : Operation → Prop
  | .remove_expired _ _ | .restart => False
  | _ => True

theorem Operation.Served.ne_remove_expired {op : Operation} (h : op.Served)
    (message_ids media_ids : List String) : op ≠ .remove_expired message_ids media_ids := by
  rintro rfl
  exact h

/-- What a service does. Anything may come between the look of a job and its removal, also
other jobs; a restart ends the jobs under way. -/
inductive Serving.Step (self : AppState) : Serving → Ctx × ServingOp → Serving → Prop
  | operation {s : Serving} {ctx : Ctx} {op : Operation} {store : Store} (hop : op.Served)
      (hstep : Store.Lives self s.store (ctx, op) store) :
      Step self s (ctx, .operation op) { s with store }
  | restart {s : Serving} {ctx : Ctx} {store : Store}
      (hstep : Store.Lives self s.store (ctx, .restart) store) :
      Step self s (ctx, .restart) { store, looks := [] }
  | look (s : Serving) (ctx : Ctx) (removal : Removal) :
      Step self s (ctx, .look removal) { s with looks := s.looks ++ [⟨removal, ctx.now, s.store.inner⟩] }
  | remove {s : Serving} {ctx : Ctx} {n : Nat} {look : Look} {deleted : String → Bool} {store : Store}
      (hlook : s.looks[n]? = some look)
      (hstep : Store.Lives self s.store
        (ctx, .remove_expired (look.message_ids deleted) (look.media_ids deleted)) store) :
      Step self s (ctx, .remove n deleted) { store, looks := s.looks.eraseIdx n }

/-- That records are never left without what they name. -/
def RecordsNeverDangle (self : AppState) : Prop :=
  ∀ labels s, Run (Serving.Step self) Serving.empty labels s →
    RecordsNamed s.store.inner ∧ RepliesFound self s.store.inner

/-- What a step must find: no record of something that a job is about to remove, and the
medium of an upload whose record it writes. -/
def ServingOp.KeepsNamed (s : Serving) : ServingOp → Prop
  | .operation op => op.FindsMedium s.store.inner
  | .remove n deleted => ∀ look, s.looks[n]? = some look → look.Spares deleted s.store.inner
  | _ => True

theorem RecordsNamed.serving_iff {self : AppState} {s s' : Serving} {label : Ctx × ServingOp}
    (h : RecordsNamed s.store.inner) (hstep : Serving.Step self s label s') :
    RecordsNamed s'.store.inner ↔ label.2.KeepsNamed s := by
  cases hstep with
  | operation hop hstep =>
    rw [← RecordsNamed.reordered hstep.2]
    exact h.apply_iff s.store.keyed hstep.1 _ hop.ne_remove_expired
  | restart hstep =>
    rw [← RecordsNamed.reordered hstep.2]
    exact iff_of_true h.restarted trivial
  | look => exact iff_of_true h trivial
  | remove hlook hstep =>
    rw [← RecordsNamed.reordered hstep.2]
    refine h.removed_iff.trans ⟨fun hspares look hfound => ?_, fun hspares => hspares _ hlook⟩
    rw [hlook, Option.some.injEq] at hfound
    exact hfound ▸ hspares

/-- As long as no job removes what is named by a record, and the medium of an upload is
still there when its record is written, no record dangles and no replay meets the internal
error. A step that does otherwise leaves one dangling. -/
theorem idempotency_records_named (self : AppState) {labels : List (Ctx × ServingOp)} {s : Serving}
    (hrun : Run (Guarded (Serving.Step self) fun s label => label.2.KeepsNamed s) Serving.empty labels s) :
    RecordsNamed s.store.inner ∧ RepliesFound self s.store.inner ∧
      ∀ label s', Serving.Step self s label s' → (RecordsNamed s'.store.inner ↔ label.2.KeepsNamed s) := by
  have hkept : ∀ s label t, RecordsNamed s.store.inner →
      Guarded (Serving.Step self) (fun s label => label.2.KeepsNamed s) s label t →
      RecordsNamed t.store.inner :=
    fun s label t hs hstep => (hs.serving_iff hstep.2).mpr hstep.1
  have hnamed : RecordsNamed s.store.inner := hrun.invariant hkept ⟨nofun, nofun⟩
  exact ⟨hnamed, hnamed.replies_found self, fun label s' hstep => hnamed.serving_iff hstep⟩

namespace sample

/-- A company that keeps its messages for a day. -/
def one_day : CompanyPrivacyPolicy where
  message_retention_days := some 1
  media_temp_retention_days := none
  transcript_retention_days := none
  allow_transcript_storage := true

def expiry : Removal :=
  .apply_company_retention "acme" "company_a" one_day

/-- A look of the retention of company A, all bytes being deleted afterwards. -/
def look_at (store : Store) (second : Nat) : Look where
  removal := expiry
  now := Duration.seconds second
  inner := store.inner

def after_expiry (store : Store) (second : Nat) : Store :=
  store.perform service (ctx second "c") (.remove_expired ((look_at store second).message_ids fun _ => true)
    ((look_at store second).media_ids fun _ => true))

def text_sent : Store :=
  Store.empty.perform service prepared.1 (.store prepared.2)

/-- One text is received before another one is sent. -/
def received_and_sent : Store :=
  (Store.empty.perform service received.1 (.store received.2)).perform service prepared.1 (.store prepared.2)

theorem text_sends {store : Store} {looks : List Look}
    (hnew : store.inner.messages_by_id.lookup ("msg_" ++ prepared.1.uuid 0) = none) :
    Serving.Step service ⟨store, looks⟩ (prepared.1, .operation (.store prepared.2))
      ⟨store.perform service prepared.1 (.store prepared.2), looks⟩ :=
  .operation trivial ⟨hnew, .refl _⟩

theorem expiry_removes {store : Store} {second : Nat}
    (hnew : store.inner.messages_by_id.lookup ("msg_" ++ (ctx second "c").uuid 0) = none) :
    Serving.Step service ⟨store, [look_at store second]⟩ (ctx second "c", .remove 0 fun _ => true)
      ⟨after_expiry store second, []⟩ :=
  .remove rfl ⟨hnew, .refl _⟩

/-- The record there is names the second text, which is too young a day after the first. -/
theorem second_text_spared :
    (look_at received_and_sent 86401).Spares (fun _ => true) received_and_sent.inner := by
  have hnames : ∀ entry ∈ received_and_sent.inner.idempotency.entries, entry.2.message_id = "msg_b0" := by decide
  have hyoung : ∀ entry ∈ received_and_sent.inner.messages_by_id.entries, entry.1 = "msg_b0" →
      too_old (Duration.seconds 86401) one_day.message_retention_days entry.2.created_at = false := by decide
  constructor
  · rintro key record hrecord message hmessage ⟨-, -, hold⟩
    have hname : record.message_id = "msg_b0" := hnames ⟨key, record⟩ (HashMap.lookup_eq_some_iff.mp hrecord)
    rw [hname] at hmessage
    have hkept := hyoung ⟨"msg_b0", message⟩ (HashMap.lookup_eq_some_iff.mp hmessage) rfl
    exact absurd hold (Bool.eq_false_iff.mp hkept)
  · intro key record hrecord
    cases hrecord

end sample

/-- The retention removes the message three days after it was sent, its record stays, and a
repetition of the send meets the internal error. -/
theorem record_left_dangling : ¬ RecordsNeverDangle sample.service := by
  intro hnever
  have hrun : Run (Serving.Step sample.service) Serving.empty
      [(sample.prepared.1, .operation (.store sample.prepared.2)), (sample.ctx 259200 "c", .look sample.expiry),
        (sample.ctx 259200 "c", .remove 0 fun _ => true)]
      ⟨sample.after_expiry sample.text_sent 259200, []⟩ :=
    .cons (sample.text_sends (by decide)) (.cons (.look _ _ _)
      (.cons (sample.expiry_removes (by decide)) (.nil _)))
  have hmissing : (prepare_send_message_with_actor sample.service (sample.ctx 259201 "d")
      (sample.after_expiry sample.text_sent 259200).inner "acme" "company_a" "5511988887777@s.whatsapp.net"
      "key_1" sample.text_request none).1 = .error (.Internal "cached idempotency message msg_b0 missing") := by
    rfl
  exact (hnever _ _ hrun).2.send _ _ _ _ _ _ _ _ hmissing

/-- A day and a second after the first text the retention removes it. The second text is
younger, and its record keeps what it names. -/
theorem sent_message_named :
    (sample.after_expiry sample.received_and_sent 86401).inner.messages_by_id.lookup "msg_a0" = none ∧
      (sample.after_expiry sample.received_and_sent 86401).inner.idempotency.lookup
        ("acme", "company_a", "key_1") ≠ none ∧
      RepliesFound sample.service (sample.after_expiry sample.received_and_sent 86401).inner := by
  have hrun : Run (Guarded (Serving.Step sample.service) fun s label => label.2.KeepsNamed s) Serving.empty
      [(sample.received.1, .operation (.store sample.received.2)),
        (sample.prepared.1, .operation (.store sample.prepared.2)), (sample.ctx 86401 "c", .look sample.expiry),
        (sample.ctx 86401 "c", .remove 0 fun _ => true)]
      ⟨sample.after_expiry sample.received_and_sent 86401, []⟩ := by
    refine .cons ⟨trivial, .operation trivial ⟨Option.isNone_iff_eq_none.mp (by decide), .refl _⟩⟩
      (.cons ⟨trivial, sample.text_sends (by decide)⟩ (.cons ⟨trivial, .look _ _ _⟩
        (.cons ⟨?_, sample.expiry_removes (by decide)⟩ (.nil _))))
    rintro look hlook
    cases hlook
    exact sample.second_text_spared
  exact ⟨by decide, by decide, (idempotency_records_named sample.service hrun).2.1⟩

end rustzap.state
