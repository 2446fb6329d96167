import RustZap.State.Service

open collections serde_json runs
open rustzap.error rustzap.models rustzap.whatsapp

namespace rustzap.state

/-- After a restart the entry of an idempotency key is still there as it was, and a
repetition of the request under the key finds the original message and changes
nothing. -/
def ReplaySurvives (self : AppState) (inner : StoreInner) (project_id company_id idempotency_key : String)
    (record : IdempotencyRecord) : Prop :=
  (restarted inner).idempotency.lookup (project_id, company_id, idempotency_key) = some record ∧
    ∀ ctx conversation_id request actor, self.host.sha256_json request = record.request_hash →
      ∃ message, inner.messages_by_id.lookup record.message_id = some message ∧
        prepare_send_message_with_actor self ctx (restarted inner) project_id company_id conversation_id
          idempotency_key request actor = (.ok { message, should_dispatch := false }, restarted inner)

/-- That the entries of all keys survive a restart whose messages do. -/
def RestartKeepsReplays (self : AppState) : Prop :=
  ∀ labels store project_id company_id idempotency_key record message,
    Run (Store.Lives self) Store.empty labels store →
    store.inner.idempotency.lookup (project_id, company_id, idempotency_key) = some record →
    (restarted store.inner).messages_by_id.lookup record.message_id = some message →
    ReplaySurvives self store.inner project_id company_id idempotency_key record

section Replays

variable {inner : StoreInner} {project_id company_id idempotency_key : String} {record : IdempotencyRecord}
  {message : Message}

theorem of_restarted_messages_by_id_lookup
    (hmessage : (restarted inner).messages_by_id.lookup record.message_id = some message) :
    record.message_id ∉ dropped_message_ids inner ∧
      inner.messages_by_id.lookup record.message_id = some message := by
  rw [restarted_messages_by_id_lookup] at hmessage
  split at hmessage
  · cases hmessage
  · next hkept => exact ⟨hkept, hmessage⟩

/-- The entry of a message that survives is dropped for its key alone. -/
theorem restarted_entry_iff
    (hentry : inner.idempotency.lookup (project_id, company_id, idempotency_key) = some record)
    (hmessage : (restarted inner).messages_by_id.lookup record.message_id = some message) :
    (restarted inner).idempotency.lookup (project_id, company_id, idempotency_key) = some record ↔
      is_updates_surface_jid idempotency_key = false ∧ idempotency_key ∉ dropped_conversations inner := by
  have hkept := (of_restarted_messages_by_id_lookup hmessage).1
  rw [restarted_idempotency_lookup, hentry, Option.filter_some_eq_some]
  simp only [Bool.and_eq_true, Bool.not_eq_true', List.contains_eq_mem, decide_eq_false_iff_not]
  exact ⟨fun h => ⟨h.1.2, h.1.1⟩, fun h => ⟨⟨h.2, h.1⟩, hkept⟩⟩

/-- The key of a surviving message survives with it exactly when the client has chosen
a key that looks like no updates surface and is no id of a conversation that the
snapshot drops. -/
theorem replay_survives_iff (self : AppState)
    (hentry : inner.idempotency.lookup (project_id, company_id, idempotency_key) = some record)
    (hmessage : (restarted inner).messages_by_id.lookup record.message_id = some message) :
    ReplaySurvives self inner project_id company_id idempotency_key record ↔
      is_updates_surface_jid idempotency_key = false ∧ idempotency_key ∉ dropped_conversations inner := by
  rw [← restarted_entry_iff hentry hmessage]
  constructor
  · exact fun h => h.1
  · intro hsurvives
    refine ⟨hsurvives, ?_⟩
    intro ctx conversation_id request actor hhash
    refine ⟨message, (of_restarted_messages_by_id_lookup hmessage).2, ?_⟩
    unfold prepare_send_message_with_actor
    dsimp only
    rw [hsurvives]
    dsimp only [replay_send]
    rw [if_pos hhash.symm, hmessage]

end Replays

/-- A message is sent under a key that ends like the id of a broadcast list. -/
def sample.sent_under_broadcast_key : List (Ctx × Operation) :=
  [(ctx 2 "b", .store (.prepare_send_message_with_actor "acme" "company_a" "5511988887777@s.whatsapp.net"
    "promo@broadcast" text_request none))]

/-- The entry is dropped, although the message it names is kept. -/
theorem replay_lost_at_restart : ¬ RestartKeepsReplays sample.service := by
  intro hkeeps
  have hrun := sample.lives sample.sent_under_broadcast_key Store.empty (by decide)
  have hentry : ((sample.live Store.empty sample.sent_under_broadcast_key).inner.idempotency.lookup
      ("acme", "company_a", "promo@broadcast")).any (fun record =>
        ((restarted (sample.live Store.empty sample.sent_under_broadcast_key).inner).messages_by_id.lookup
          record.message_id).isSome) = true := by decide
  obtain ⟨record, hrecord, hmessage⟩ := (Option.any_eq_true _ _).mp hentry
  obtain ⟨message, hmessage⟩ := Option.isSome_iff_exists.mp hmessage
  have hlost : (restarted (sample.live Store.empty sample.sent_under_broadcast_key).inner).idempotency.lookup
    ("acme", "company_a", "promo@broadcast") = none := Option.isNone_iff_eq_none.mp (by decide)
  have hsurvives := (hkeeps _ _ _ _ _ record message hrun hrecord hmessage).1
  rw [hlost] at hsurvives
  cases hsurvives

theorem plain_key_survives :
    ∃ record, sample.queued.inner.idempotency.lookup ("acme", "company_a", "key_1") = some record ∧
      ReplaySurvives sample.service sample.queued.inner "acme" "company_a" "key_1" record := by
  have hentry : (sample.queued.inner.idempotency.lookup ("acme", "company_a", "key_1")).any
      (fun record => ((restarted sample.queued.inner).messages_by_id.lookup record.message_id).isSome) =
        true := by decide
  obtain ⟨record, hrecord, hmessage⟩ := (Option.any_eq_true _ _).mp hentry
  obtain ⟨message, hmessage⟩ := Option.isSome_iff_exists.mp hmessage
  exact ⟨record, hrecord, (replay_survives_iff sample.service hrecord hmessage).mpr (by decide)⟩

end rustzap.state
