import RustZap.State.Service
import RustZap.State.Sides

open collections serde_json runs
open rustzap.error rustzap.models rustzap.whatsapp

namespace rustzap.state

/-- Every idempotency record names a message, every record of an upload a medium, that
is in the store. -/
structure RecordsNamed (inner : StoreInner) : Prop where
  messages : ∀ key record, inner.idempotency.lookup key = some record →
    (inner.messages_by_id.lookup record.message_id).isSome
  media : ∀ key record, inner.media_upload_idempotency.lookup key = some record →
    (inner.media.lookup record.media_id).isSome

/-- No send and no upload is answered with an internal error, which is what a record
that names nothing is answered with. -/
structure RepliesFound (service : AppState) (inner : StoreInner) : Prop where
  send : ∀ ctx project_id company_id conversation_id idempotency_key request actor text,
    (prepare_send_message_with_actor service ctx inner project_id company_id conversation_id idempotency_key
      request actor).1 ≠ .error (.Internal text)
  upload : ∀ idem_key request_hash text,
    (begin_upload inner idem_key request_hash).1 ≠ .answered (.error (.Internal text))

/-- Where an operation writes the record of an upload, the medium has not gone in the
meantime. -/
def Operation.FindsMedium (inner : StoreInner) : Operation → Prop
  | .finish_upload idem_key _ (.ok media) =>
    inner.media_upload_idempotency.lookup idem_key = none → (inner.media.lookup media.id).isSome
  | _ => True

theorem Operation.finds_medium {inner : StoreInner} {op : Operation} (hop : ¬ op.OnSides) :
    op.FindsMedium inner := by
  cases op with
  | finish_upload idem_key request_hash media_result => exact absurd trivial hop
  | _ => trivial

section Named

variable {self : AppState} {ctx : Ctx} {inner : StoreInner}

theorem MessagesKept.isSome {old new : HashMap String Message} (h : MessagesKept old new)
    {message_id : String} (hold : (old.lookup message_id).isSome) : (new.lookup message_id).isSome := by
  obtain ⟨message, hmessage⟩ := Option.isSome_iff_exists.mp hold
  obtain ⟨message', hmessage', -⟩ := h message_id message hmessage
  rw [hmessage']
  rfl

theorem RecordsNamed.reordered {s t : StoreInner} (hreordered : s.Reordered t) :
    RecordsNamed s ↔ RecordsNamed t := by
  have hentries := hreordered.idempotency.lookup
  have hmessages := hreordered.messages_by_id.lookup
  have huploads := hreordered.media_upload_idempotency.lookup
  have hmedia := hreordered.media.lookup
  constructor
  · intro h
    exact ⟨fun key record hrecord => hmessages _ ▸ h.messages key record (hentries key ▸ hrecord),
      fun key record hrecord => hmedia _ ▸ h.media key record (huploads key ▸ hrecord)⟩
  · intro h
    exact ⟨fun key record hrecord => (hmessages _).symm ▸ h.messages key record ((hentries key).symm ▸ hrecord),
      fun key record hrecord => (hmedia _).symm ▸ h.media key record ((huploads key).symm ▸ hrecord)⟩

/-- A new entry under a key leaves those of the other keys alone. -/
theorem forall_lookup_insert {V : Type} {entries : HashMap (String × String × String) V}
    {key : String × String × String} {value : V} {P : V → Prop} (hvalue : P value)
    (hentries : ∀ key value, entries.lookup key = some value → P value) :
    ∀ query found, (entries.insert key value).lookup query = some found → P found := by
  intro query found hfound
  rw [HashMap.lookup_insert_ite] at hfound
  split at hfound
  · cases hfound
    exact hvalue
  · exact hentries query found hfound

theorem RecordsNamed.send (h : RecordsNamed inner) (hkeyed : inner.WellKeyed)
    (hfresh : inner.messages_by_id.lookup ("msg_" ++ ctx.uuid 0) = none)
    (project_id company_id conversation_id idempotency_key : String) (request : SendMessageRequest)
    (actor : Option String) :
    RecordsNamed (prepare_send_message_with_actor self ctx inner project_id company_id conversation_id
      idempotency_key request actor).2 := by
  have hkept : MessagesKept inner.messages_by_id (prepare_send_message_with_actor self ctx inner project_id
      company_id conversation_id idempotency_key request actor).2.messages_by_id :=
    Operation.messages_kept self hkeyed hfresh (.store (.prepare_send_message_with_actor project_id company_id
      conversation_id idempotency_key request actor)) nofun nofun
  rcases prepare_send_message_with_actor_cases self ctx inner project_id company_id conversation_id
    idempotency_key request actor (StoreOp.attaches_any self ctx inner _) with
    ⟨record, -, heq⟩ | ⟨-, ⟨err, heq⟩ | ⟨message, mid, hsides, -, -, hmessage, heq⟩⟩
  · rw [heq]
    exact h
  · rw [heq]
    exact h
  · rw [heq] at hkept ⊢
    constructor
    · refine forall_lookup_insert (P := fun record : IdempotencyRecord =>
        (mid.messages_by_id.lookup record.message_id).isSome) ?_ ?_
      · rw [hmessage]
        rfl
      · intro key record hrecord
        rw [hsides.idempotency] at hrecord
        exact hkept.isSome (h.messages key record hrecord)
    · intro key record hrecord
      have hold : inner.media_upload_idempotency.lookup key = some record :=
        hsides.media_upload_idempotency ▸ hrecord
      exact hsides.media _ (h.media key record hold)

theorem finish_upload_named_iff (h : RecordsNamed inner) (idem_key : String × String × String)
    (request_hash : String) (media_result : ApiResult MediaObject) :
    RecordsNamed (finish_upload inner idem_key request_hash media_result).2 ↔
      Operation.FindsMedium inner (.finish_upload idem_key request_hash media_result) := by
  unfold finish_upload
  cases media_result with
  | error err => exact iff_of_true ⟨h.messages, h.media⟩ trivial
  | ok media =>
    dsimp only [Operation.FindsMedium]
    cases hrecord : inner.media_upload_idempotency.lookup idem_key with
    | some record => exact iff_of_true ⟨h.messages, h.media⟩ nofun
    | none =>
      constructor
      · exact fun hnamed _ => hnamed.media idem_key _ (AList.lookup_insert _)
      · exact fun hmedia => ⟨h.messages, forall_lookup_insert (hmedia rfl) h.media⟩

theorem lookup_retain_isSome_iff {V : Type} {map : HashMap String V} {ids : List String} {id : String}
    (h : (map.lookup id).isSome) :
    ((map.retain fun key _ => !ids.contains key).lookup id).isSome ↔ id ∉ ids := by
  obtain ⟨value, hvalue⟩ := Option.isSome_iff_exists.mp h
  rw [HashMap.lookup_retain, hvalue]
  by_cases hid : id ∈ ids <;> simp [hid]

theorem remove_expired_named_iff (h : RecordsNamed inner) (message_ids media_ids : List String) :
    RecordsNamed (remove_expired inner message_ids media_ids) ↔
      (∀ key record, inner.idempotency.lookup key = some record → record.message_id ∉ message_ids) ∧
        ∀ key record, inner.media_upload_idempotency.lookup key = some record →
          record.media_id ∉ media_ids := by
  constructor
  · intro hnamed
    exact ⟨fun key record hrecord =>
        (lookup_retain_isSome_iff (h.messages key record hrecord)).mp (hnamed.messages key record hrecord),
      fun key record hrecord =>
        (lookup_retain_isSome_iff (h.media key record hrecord)).mp (hnamed.media key record hrecord)⟩
  · rintro ⟨hmessages, hmedia⟩
    exact ⟨fun key record hrecord =>
        (lookup_retain_isSome_iff (h.messages key record hrecord)).mpr (hmessages key record hrecord),
      fun key record hrecord =>
        (lookup_retain_isSome_iff (h.media key record hrecord)).mpr (hmedia key record hrecord)⟩

/-- A snapshot drops the records together with what they name. -/
theorem RecordsNamed.restarted (h : RecordsNamed inner) : RecordsNamed (restarted inner) where
  messages key record hrecord := by
    rw [restarted_idempotency_lookup, Option.filter_eq_some_iff] at hrecord
    obtain ⟨hrecord, hkept⟩ := hrecord
    simp only [Bool.and_eq_true, Bool.not_eq_true', List.contains_eq_mem, decide_eq_false_iff_not] at hkept
    rw [restarted_messages_by_id_lookup, if_neg hkept.2]
    exact h.messages key record hrecord
  media _ _ hrecord := restarted_media_upload_named inner hrecord

/-- An operation other than a removal leaves every record with what it names exactly
when it records no missing medium. -/
theorem RecordsNamed.apply_iff (h : RecordsNamed inner) (hkeyed : inner.WellKeyed)
    (hfresh : inner.messages_by_id.lookup ("msg_" ++ ctx.uuid 0) = none) (op : Operation)
    (hremoves : ∀ message_ids media_ids, op ≠ .remove_expired message_ids media_ids) :
    RecordsNamed (op.apply self ctx inner) ↔ op.FindsMedium inner := by
  by_cases hop : op.OnSides
  · cases op with
    | store op =>
      cases op with
      | prepare_send_message_with_actor project company conversation key request actor =>
        exact iff_of_true (h.send hkeyed hfresh ..) trivial
      | _ => exact absurd hop not_false
    | finish_upload idem_key request_hash media_result => exact finish_upload_named_iff h ..
    | remove_expired message_ids media_ids => exact absurd rfl (hremoves message_ids media_ids)
    | restart => exact iff_of_true h.restarted trivial
    | _ => exact absurd hop not_false
  · have hsides : SidesKept anyone inner (op.apply self ctx inner) :=
      op.sides_kept self ctx hop (op.attaches_any self ctx inner)
    refine iff_of_true ?_ (Operation.finds_medium hop)
    have hmessages := op.messages_kept self hkeyed hfresh hremoves (fun heq => hop (heq ▸ trivial))
    constructor
    · intro key record hrecord
      rw [hsides.idempotency] at hrecord
      exact hmessages.isSome (h.messages key record hrecord)
    · intro key record hrecord
      rw [hsides.media_upload_idempotency] at hrecord
      exact hsides.media _ (h.media key record hrecord)

/-- Where every record names something, nothing is answered with an internal error. -/
theorem RecordsNamed.replies_found (h : RecordsNamed inner) (self : AppState) : RepliesFound self inner where
  send ctx project_id company_id conversation_id idempotency_key request actor text := by
    unfold prepare_send_message_with_actor
    dsimp only
    split
    · next record hrecord =>
      obtain ⟨message, hmessage⟩ := Option.isSome_iff_exists.mp (h.messages _ record hrecord)
      unfold replay_send
      rw [hmessage]
      split <;> nofun
    · split
      · next err herr =>
        unfold media_for_send at herr
        repeat' split at herr
        all_goals cases herr
        all_goals nofun
      · nofun
  upload idem_key request_hash text := by
    unfold begin_upload
    split
    · next record hrecord =>
      obtain ⟨media, hmedia⟩ := Option.isSome_iff_exists.mp (h.media _ record hrecord)
      unfold replay_upload
      rw [hmedia]
      split <;> nofun
    · split
      · split <;> nofun
      · nofun

end Named

end rustzap.state
