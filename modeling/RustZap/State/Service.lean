import RustZap.State.Restart

open collections serde_json runs
open rustzap.error rustzap.models rustzap.whatsapp

namespace rustzap.state

theorem StoreInner.WellKeyed.recorded {ctx : Ctx} {message : Message} {inner inner' : StoreInner}
    (h : inner.WellKeyed) (hrecorded : Recorded ctx inner message inner')
    (hnew : NewMessage ctx inner message) : inner'.WellKeyed := by
  have hchange : Change ctx ⟨fun _ _ => False, False, False⟩ inner inner' :=
    .record hrecorded hnew fun _ _ h => h
  exact h.change hchange

theorem Recording.well_keyed {ctx : Ctx} {on_queue : Prop} {inner inner' : StoreInner}
    (h : Recording ctx on_queue inner inner') (hkeyed : inner.WellKeyed) : inner'.WellKeyed := by
  obtain ⟨mid, hmid, hchanges⟩ := h
  have hkeyed' : mid.WellKeyed := by
    rcases hmid with rfl | ⟨message, hrecorded, hnew⟩
    · exact hkeyed
    · exact hkeyed.recorded hrecorded hnew
  exact hchanges.invariant (fun _ _ h => h.change) hkeyed'

/-- An operation that records keeps what is stored, as the id that it draws is new. -/
theorem Recording.messages_kept {ctx : Ctx} {on_queue : Prop} {inner inner' : StoreInner}
    (h : Recording ctx on_queue inner inner')
    (hfresh : inner.messages_by_id.lookup ("msg_" ++ ctx.uuid 0) = none) :
    MessagesKept inner.messages_by_id inner'.messages_by_id := by
  obtain ⟨mid, hmid, hchanges⟩ := h
  have hfirst : MessagesKept inner.messages_by_id mid.messages_by_id := by
    rcases hmid with rfl | ⟨message, hrecorded, hnew⟩
    · exact .refl _
    · have hchange : Change ctx ⟨fun _ _ => False, False, False⟩ inner mid :=
        .record hrecorded hnew fun _ _ h => h
      exact Changes.messages_kept (.single hchange) hfresh
  refine hfirst.trans fun id message hmessage => ?_
  exact hchanges.message_kept (fun hquiet => absurd trivial (hquiet "" "")) hmessage

/-- An operation that records brings in no message but the one whose id it draws. -/
theorem Recording.message_from {ctx : Ctx} {on_queue : Prop} {inner inner' : StoreInner}
    (h : Recording ctx on_queue inner inner') {id : String} (hid : id ≠ "msg_" ++ ctx.uuid 0)
    {message : Message} (hmessage : inner'.messages_by_id.lookup id = some message) :
    ∃ old, inner.messages_by_id.lookup id = some old ∧ SameMessage old message := by
  obtain ⟨mid, hmid, hchanges⟩ := h
  obtain ⟨old, hold, hsame⟩ := hchanges.message_from hid hmessage
  rcases hmid with rfl | ⟨recorded, hrecorded, hnew⟩
  · exact ⟨old, hold, hsame⟩
  · have hchange : Change ctx ⟨fun _ _ => False, False, False⟩ inner mid :=
      .record hrecorded hnew fun _ _ h => h
    obtain ⟨first, hfirst, hsame'⟩ := hchange.message_from hid hold
    exact ⟨first, hfirst, hsame'.trans hsame⟩

/-- No operation brings in a message but under the id that it draws. -/
theorem Operation.message_from (self : AppState) {ctx : Ctx} {inner : StoreInner} (hkeyed : inner.WellKeyed)
    (op : Operation) {id : String} (hid : id ≠ "msg_" ++ ctx.uuid 0) {message : Message}
    (hmessage : (op.apply self ctx inner).messages_by_id.lookup id = some message) :
    ∃ old, inner.messages_by_id.lookup id = some old ∧ SameMessage old message := by
  rcases op.apply_cases self ctx hkeyed.messages with
    hrecording | ⟨message_ids, media_ids, -, heq⟩ | ⟨-, heq⟩
  · exact hrecording.message_from hid hmessage
  · rw [heq] at hmessage
    exact ⟨message, (HashMap.lookup_retain_eq_some_iff.mp hmessage).1, .refl message⟩
  · rw [heq, restarted_messages_by_id_lookup] at hmessage
    split at hmessage
    · cases hmessage
    · exact ⟨message, hmessage, .refl message⟩

/-- An operation that is no removal and no restart keeps all messages. -/
theorem Operation.messages_kept (self : AppState) {ctx : Ctx} {inner : StoreInner} (hkeyed : inner.WellKeyed)
    (hfresh : inner.messages_by_id.lookup ("msg_" ++ ctx.uuid 0) = none) (op : Operation)
    (hremoves : ∀ message_ids media_ids, op ≠ .remove_expired message_ids media_ids)
    (hrestart : op ≠ .restart) :
    MessagesKept inner.messages_by_id (op.apply self ctx inner).messages_by_id := by
  rcases op.apply_cases self ctx hkeyed.messages with
    hrecording | ⟨message_ids, media_ids, heq, -⟩ | ⟨heq, -⟩
  · exact hrecording.messages_kept hfresh
  · exact absurd heq (hremoves message_ids media_ids)
  · exact absurd heq hrestart

theorem Operation.apply_well_keyed (self : AppState) (ctx : Ctx) {inner : StoreInner}
    (h : inner.WellKeyed) (op : Operation) : (op.apply self ctx inner).WellKeyed := by
  rcases op.apply_cases self ctx h.messages with
    hrecording | ⟨message_ids, media_ids, -, heq⟩ | ⟨-, heq⟩
  · exact hrecording.well_keyed h
  · rw [heq]
    exact remove_expired_well_keyed h message_ids media_ids
  · rw [heq]
    exact restarted_well_keyed h

def Store.perform (self : AppState) (ctx : Ctx) (store : Store) (op : Operation) : Store where
  inner := op.apply self ctx store.inner
  keyed := op.apply_well_keyed self ctx store.keyed

/-- One step of the service's life. As before, the maps may yield their entries in
another order afterwards. -/
def Store.Next (self : AppState) (store : Store) (label : Ctx × Operation) (store' : Store) : Prop :=
  (store.perform self label.1 label.2).inner.Reordered store'.inner

/-- The UUID that the step draws for a message is a new one. -/
def DrawsNewId (store : Store) (label : Ctx × Operation) : Prop :=
  store.inner.messages_by_id.lookup ("msg_" ++ label.1.uuid 0) = none

/-- The steps of a service whose UUIDs are new when they are drawn. -/
abbrev Store.Lives (self : AppState) : Store → Ctx × Operation → Store → Prop :=
  Guarded (Store.Next self) DrawsNewId

section Sections

variable (self : AppState) (ctx : Ctx) (inner : StoreInner) (project_id company_id : String)

/-- Operations one after the other, with nothing in between. -/
def perform_all (ops : List Operation) : StoreInner :=
  ops.foldl (fun inner op => op.apply self ctx inner) inner

/-- The sections of a company's retention, with what its first look selects. -/
def CompanyPrivacyPolicy.sections (policy : CompanyPrivacyPolicy) (deleted : String → Bool) :
    List Operation :=
  [.remove_expired (policy.removable_message_ids ctx.now inner project_id company_id deleted)
    (policy.removable_media_ids ctx.now inner project_id company_id deleted)] ++
  ((retention_cutoff ctx.now policy.transcript_retention_days).map
    (Operation.expire_transcripts project_id company_id)).toList ++
  (if !policy.allow_transcript_storage then [.redact_transcripts project_id company_id] else [])

theorem apply_company_retention_eq (policy : CompanyPrivacyPolicy) (deleted : String → Bool) :
    apply_company_retention ctx.now inner project_id company_id policy deleted =
      perform_all self ctx inner (policy.sections ctx inner project_id company_id deleted) := by
  unfold apply_company_retention CompanyPrivacyPolicy.sections perform_all
  cases retention_cutoff ctx.now policy.transcript_retention_days <;>
    cases policy.allow_transcript_storage <;> rfl

/-- The cleanup of the temporary media removes media and no message. -/
theorem cleanup_expired_temp_media_eq (deleted : String → Bool) :
    cleanup_expired_temp_media ctx.now inner deleted =
      perform_all self ctx inner [.remove_expired [] (expired_media_ids ctx.now inner deleted)] := by
  have hids : ∀ id : String, (!([] : List String).contains id) = true := fun _ => rfl
  have hlists : (inner.messages_by_conversation.map_values fun _ messages =>
      messages.filter fun message => !([] : List String).contains message.id) =
      inner.messages_by_conversation :=
    HashMap.map_values_eq_self _ fun _ _ => List.filter_eq_self.mpr fun message _ => hids message.id
  have hremoved : perform_all self ctx inner [.remove_expired [] (expired_media_ids ctx.now inner deleted)] =
      remove_expired inner [] (expired_media_ids ctx.now inner deleted) := rfl
  rw [hremoved, cleanup_expired_temp_media, HashMap.foldl_erase, remove_expired, hlists]
  simp only [hids, HashMap.retain_all]

/-- An upload under a key looks at the key, and stops there or uploads and stores the
result. -/
theorem upload_outbound_media_idempotent_eq (idempotency_key request_hash : String)
    (upload : OutboundMediaUpload) (answers : UploadAnswers) :
    ∃ rest, (upload_outbound_media_idempotent self ctx inner project_id company_id idempotency_key
        request_hash upload answers).2 =
      perform_all self ctx inner
        (.begin_upload (project_id, company_id, idempotency_key) request_hash :: rest) ∧
      (rest = [] ∨ ∃ media_result, rest = [.store (.upload_outbound_media project_id company_id upload answers),
        .finish_upload (project_id, company_id, idempotency_key) request_hash media_result]) := by
  unfold upload_outbound_media_idempotent perform_all
  dsimp only [List.foldl_cons, Operation.apply]
  rcases hbegin : begin_upload inner (project_id, company_id, idempotency_key) request_hash with
    ⟨start, begun⟩
  cases start with
  | answered result => exact ⟨[], rfl, Or.inl rfl⟩
  | wait => exact ⟨[], rfl, Or.inl rfl⟩
  | upload =>
    exact ⟨[.store (.upload_outbound_media project_id company_id upload answers), .finish_upload _ _
      (upload_outbound_media self ctx begun project_id company_id upload answers).1], rfl,
      Or.inr ⟨_, rfl⟩⟩

end Sections

/-- What a property of the store has to survive to hold throughout: the recording of
a message under a new id, the changes that record nothing, a removal, a restart, and
another order of the maps. -/
structure Preserved (Inv : StoreInner → Prop) : Prop where
  reordered : ∀ s t, s.Reordered t → Inv s → Inv t
  recorded : ∀ ctx s message t, s.WellKeyed → Recorded ctx s message t →
    s.messages_by_id.lookup message.id = none → Inv s → Inv t
  changed : ∀ ctx on_queue s t, s.WellKeyed → Change ctx (.quiet on_queue) s t → Inv s → Inv t
  removed : ∀ s message_ids media_ids, s.WellKeyed → Inv s → Inv (remove_expired s message_ids media_ids)
  restarted : ∀ s, s.WellKeyed → Inv s → Inv (restarted s)

section Preserved

variable {Inv : StoreInner → Prop} {self : AppState}

theorem Preserved.changes (h : Preserved Inv) {ctx : Ctx} {on_queue : Prop} {inner inner' : StoreInner}
    (hkeyed : inner.WellKeyed) (hchanges : Changes ctx (.quiet on_queue) inner inner') (hinv : Inv inner) :
    Inv inner' := by
  have hstep : ∀ s t, s.WellKeyed ∧ Inv s → Change ctx (.quiet on_queue) s t → t.WellKeyed ∧ Inv t :=
    fun s t hs hchange => ⟨hs.1.change hchange, h.changed ctx on_queue s t hs.1 hchange hs.2⟩
  exact (hchanges.invariant hstep ⟨hkeyed, hinv⟩).2

theorem Preserved.recording (h : Preserved Inv) {ctx : Ctx} {on_queue : Prop} {inner inner' : StoreInner}
    (hkeyed : inner.WellKeyed) (hfresh : inner.messages_by_id.lookup ("msg_" ++ ctx.uuid 0) = none)
    (hrecording : Recording ctx on_queue inner inner') (hinv : Inv inner) : Inv inner' := by
  obtain ⟨mid, hmid, hchanges⟩ := hrecording
  rcases hmid with rfl | ⟨message, hrecorded, hnew⟩
  · exact h.changes hkeyed hchanges hinv
  · refine h.changes (hkeyed.recorded hrecorded hnew) hchanges ?_
    refine h.recorded ctx inner message mid hkeyed hrecorded ?_ hinv
    rw [hnew.id]
    exact hfresh

theorem Preserved.apply (h : Preserved Inv) {ctx : Ctx} {inner : StoreInner} (hkeyed : inner.WellKeyed)
    (hfresh : inner.messages_by_id.lookup ("msg_" ++ ctx.uuid 0) = none) (op : Operation)
    (hinv : Inv inner) : Inv (op.apply self ctx inner) := by
  rcases op.apply_cases self ctx hkeyed.messages with
    hrecording | ⟨message_ids, media_ids, -, heq⟩ | ⟨-, heq⟩
  · exact h.recording hkeyed hfresh hrecording hinv
  · rw [heq]
    exact h.removed _ _ _ hkeyed hinv
  · rw [heq]
    exact h.restarted _ hkeyed hinv

theorem Preserved.step (h : Preserved Inv) {store store' : Store} {label : Ctx × Operation}
    (hstep : Store.Lives self store label store') (hinv : Inv store.inner) : Inv store'.inner :=
  h.reordered _ _ hstep.2 (h.apply store.keyed hstep.1 label.2 hinv)

/-- What one step preserves, the whole life of a service does. -/
theorem Preserved.run (h : Preserved Inv) {store store' : Store} {labels : List (Ctx × Operation)}
    (hrun : Run (Store.Lives self) store labels store') (hinv : Inv store.inner) : Inv store'.inner :=
  hrun.invariant (fun _ _ _ hinv hstep => h.step hstep hinv) hinv

end Preserved

namespace sample

/-- The store after some steps, the maps yielding their entries as they are stored. -/
def live (store : Store) (labels : List (Ctx × Operation)) : Store :=
  labels.foldl (fun store label => store.perform service label.1 label.2) store

/-- Whether every step draws a new id. -/
def draws_new_ids (store : Store) : List (Ctx × Operation) → Bool
  | [] => true
  | label :: labels => (store.inner.messages_by_id.lookup ("msg_" ++ label.1.uuid 0)).isNone &&
      draws_new_ids (store.perform service label.1 label.2) labels

theorem lives (labels : List (Ctx × Operation)) : ∀ store, draws_new_ids store labels = true →
    Run (Store.Lives service) store labels (live store labels) := by
  induction labels with
  | nil => exact fun store _ => .nil store
  | cons label labels ih =>
    intro store hnew
    obtain ⟨hfirst, hrest⟩ := Bool.and_eq_true_iff.mp hnew
    exact .cons ⟨Option.isNone_iff_eq_none.mp hfirst, StoreInner.Reordered.refl _⟩ (ih _ hrest)

/-- Whether every step passes a test. -/
def all_pass (ok : Store → Ctx × Operation → Bool) (store : Store) : List (Ctx × Operation) → Bool
  | [] => true
  | label :: labels => ok store label && all_pass ok (store.perform service label.1 label.2) labels

theorem lives_guarded {ok : Store → Ctx × Operation → Bool} {Ok : Store → Ctx × Operation → Prop}
    (hok : ∀ store label, ok store label = true → Ok store label) (labels : List (Ctx × Operation)) :
    ∀ store, draws_new_ids store labels = true → all_pass ok store labels = true →
      Run (Guarded (Store.Lives service) Ok) store labels (live store labels) := by
  induction labels with
  | nil => exact fun store _ _ => .nil store
  | cons label labels ih =>
    intro store hnew hpass
    obtain ⟨hfirst, hrest⟩ := Bool.and_eq_true_iff.mp hnew
    obtain ⟨hlabel, hlabels⟩ := Bool.and_eq_true_iff.mp hpass
    exact .cons ⟨hok store label hlabel, Option.isNone_iff_eq_none.mp hfirst, StoreInner.Reordered.refl _⟩
      (ih _ hrest hlabels)

end sample

end rustzap.state
