import RustZap.Queue.Leases
import RustZap.Queue.Work

open collections serde_json runs
open rustzap.error rustzap.models

namespace rustzap.state

/-- The consumer was handed a lease that it names, has not used it up, and is in
time. -/
def HoldsOutstanding (ledger : Ledger) (ctx : Ctx) (project_id company_id conversation_id : String)
    (request : DirtyAckRequest) : Prop :=
  ∃ item, ledger.outstanding (project_id, company_id, request.consumer_id, conversation_id) = some item ∧
    item.lease_token = request.lease_token ∧ ctx.now ≤ item.locked_until

/-- Every consumer that was ever handed the conversation has processed it up to there. -/
def CaughtUp (ledger : Ledger) (inner : StoreInner) (project_id company_id conversation_id : String)
    (max_seq : Int) : Prop :=
  ∀ consumer_id, ledger.leasers (project_id, company_id, consumer_id, conversation_id) →
    max_seq ≤ processed_until inner project_id company_id consumer_id conversation_id

section Acks

variable {ledger : Ledger} {inner : StoreInner}

theorem Ledger.Tracks.holds_lease_iff (h : ledger.Tracks inner) (ctx : Ctx)
    (project_id company_id conversation_id : String) (request : DirtyAckRequest) :
    HoldsLease ctx inner project_id company_id conversation_id request ↔
      HoldsOutstanding ledger ctx project_id company_id conversation_id request := by
  unfold HoldsLease HoldsOutstanding
  rw [h.leases]
  constructor
  · rintro ⟨lease, hlease, htoken, htime⟩
    obtain ⟨item, hitem, rfl⟩ := Option.map_eq_some_iff.mp hlease
    exact ⟨item, hitem, htoken, htime⟩
  · rintro ⟨item, hitem, htoken, htime⟩
    exact ⟨_, by rw [hitem]; rfl, htoken, htime⟩

/-- An entry that an ack removes is its own, and all cursors registered for it have
reached it. -/
theorem acked_removes {project_id company_id conversation_id : String} {request : DirtyAckRequest}
    {dirty removed : DirtyRecord} {key : String × String × String}
    (hdirty : inner.dirty.lookup (project_id, company_id, conversation_id) = some dirty)
    (hbefore : inner.dirty.lookup key = some removed)
    (hafter : (acked inner project_id company_id conversation_id request dirty).dirty.lookup key = none) :
    key = (project_id, company_id, conversation_id) ∧ removed = dirty ∧
      all_registered_consumers_done
        (acked inner project_id company_id conversation_id request dirty).consumer_state project_id
        company_id conversation_id dirty.max_seq = true := by
  rw [acked_consumer_state]
  unfold acked at hafter
  dsimp only at hafter
  split at hafter
  · next hdone =>
    rw [Bool.and_eq_true] at hdone
    rw [HashMap.lookup_erase_ite] at hafter
    split at hafter
    · next heq =>
      rw [heq, hdirty] at hbefore
      cases hbefore
      exact ⟨heq, rfl, hdone.2⟩
    · rw [hbefore] at hafter
      cases hafter
  · dsimp only at hafter
    rw [hbefore] at hafter
    cases hafter

theorem Ledger.Tracks.caught_up (h : ledger.Tracks inner) {project_id company_id conversation_id : String}
    {max_seq : Int} (hdone : all_registered_consumers_done inner.consumer_state project_id company_id
      conversation_id max_seq = true) :
    CaughtUp ledger inner project_id company_id conversation_id max_seq := by
  intro consumer_id hleaser
  obtain ⟨cursor, hcursor⟩ := Option.isSome_iff_exists.mp (h.registered _ hleaser)
  rw [processed_until, hcursor]
  exact all_registered_consumers_done_iff.mp hdone consumer_id cursor hcursor

/-- An ack removes no entry that a consumer, once handed it, has not reached. -/
theorem ack_dirty_removes (h : ledger.Tracks inner) (ctx : Ctx)
    {project_id company_id conversation_id : String} {request : DirtyAckRequest}
    {project company conversation : String} {removed : DirtyRecord}
    (hbefore : inner.dirty.lookup (project, company, conversation) = some removed)
    (hafter : (ack_dirty ctx inner project_id company_id conversation_id request).2.dirty.lookup
      (project, company, conversation) = none) :
    CaughtUp ledger (ack_dirty ctx inner project_id company_id conversation_id request).2 project company
      conversation removed.max_seq := by
  have hleasers : (ledger.note ctx inner (.store (.ack_dirty project_id company_id conversation_id
      request))).leasers = ledger.leasers := by
    dsimp only [Ledger.note]
    split <;> rfl
  have htracks := h.ack_dirty ctx project_id company_id conversation_id request
  rcases ack_dirty_answers ctx inner project_id company_id conversation_id request with
    ⟨dirty, hdirty, -, heq⟩ | ⟨-, -, heq⟩
  · rw [heq] at hafter htracks ⊢
    obtain ⟨hkey, rfl, hdone⟩ := acked_removes hdirty hbefore hafter
    cases hkey
    intro consumer_id hleaser
    exact htracks.caught_up hdone consumer_id (hleasers ▸ hleaser)
  · rw [heq, hbefore] at hafter
    cases hafter

end Acks

/-- Whether a response tells its consumer that the conversation is not dirty any
more. -/
def reads_not_dirty (response : ApiResult Value) : Bool :=
  match response with
  | .ok value => ((value.get "remaining_dirty").bind Value.as_bool) = some false
  | .error _ => false

theorem reads_not_dirty_iff (inner : StoreInner) (project_id company_id conversation_id : String)
    (dirty : DirtyRecord) :
    reads_not_dirty (.ok (ack_response inner project_id company_id conversation_id dirty)) = true ↔
      inner.dirty.lookup (project_id, company_id, conversation_id) = none := by
  unfold reads_not_dirty ack_response
  dsimp only
  split
  · next hnone => exact iff_of_true (by decide) (Option.isNone_iff_eq_none.mp hnone)
  · next hsome =>
    refine iff_of_false ?_ fun hnone => hsome (Option.isNone_iff_eq_none.mpr hnone)
    exact Bool.false_ne_true

/-- In every state that the service can reach, an ack is taken exactly when there is a
dirty entry and the consumer names the last lease it was handed, which no ack has used
up and which has not run out. An ack that is not taken changes nothing. An entry that
an ack removes has been reached by every consumer that was ever handed the
conversation, and that is what an answer without remaining work tells. -/
theorem ack_contract (self : AppState) {labels : List (Ctx × Operation)} {store : Store} {ledger : Ledger}
    (hrun : Run (Tracked self) (Store.empty, Ledger.empty) labels (store, ledger)) (ctx : Ctx)
    (project_id company_id conversation_id : String) (request : DirtyAckRequest) :
    ((ack_dirty ctx store.inner project_id company_id conversation_id request).1.isOk = true ↔
      (∃ dirty, store.inner.dirty.lookup (project_id, company_id, conversation_id) = some dirty) ∧
        HoldsOutstanding ledger ctx project_id company_id conversation_id request) ∧
    ((ack_dirty ctx store.inner project_id company_id conversation_id request).1.isOk = false →
      (ack_dirty ctx store.inner project_id company_id conversation_id request).2 = store.inner) ∧
    (∀ project company conversation removed,
      store.inner.dirty.lookup (project, company, conversation) = some removed →
      (ack_dirty ctx store.inner project_id company_id conversation_id request).2.dirty.lookup
        (project, company, conversation) = none →
      CaughtUp ledger (ack_dirty ctx store.inner project_id company_id conversation_id request).2 project
        company conversation removed.max_seq) ∧
    (reads_not_dirty (ack_dirty ctx store.inner project_id company_id conversation_id request).1 = true →
      ∃ dirty, store.inner.dirty.lookup (project_id, company_id, conversation_id) = some dirty ∧
        CaughtUp ledger (ack_dirty ctx store.inner project_id company_id conversation_id request).2 project_id
          company_id conversation_id dirty.max_seq) := by
  have htracks := Tracked.run_tracks hrun
  have hremoves : ∀ project company conversation removed,
      store.inner.dirty.lookup (project, company, conversation) = some removed →
      (ack_dirty ctx store.inner project_id company_id conversation_id request).2.dirty.lookup
        (project, company, conversation) = none →
      CaughtUp ledger (ack_dirty ctx store.inner project_id company_id conversation_id request).2 project
        company conversation removed.max_seq :=
    fun project company conversation removed => ack_dirty_removes htracks ctx
  rw [← htracks.holds_lease_iff]
  rcases ack_dirty_answers ctx store.inner project_id company_id conversation_id request with
    ⟨dirty, hdirty, hlease, heq⟩ | ⟨hrefused, herror, heq⟩
  · have hok : (ack_dirty ctx store.inner project_id company_id conversation_id request).1.isOk = true := by
      rw [heq]
      rfl
    refine ⟨iff_of_true hok ⟨⟨dirty, hdirty⟩, hlease⟩, ?_, hremoves, ?_⟩
    · intro herror
      rw [hok] at herror
      cases herror
    · intro hreads
      refine ⟨dirty, hdirty, hremoves _ _ _ dirty hdirty ?_⟩
      rw [heq] at hreads ⊢
      exact (reads_not_dirty_iff ..).mp hreads
  · refine ⟨iff_of_false ?_ hrefused, fun _ => heq, hremoves, ?_⟩
    · rw [herror]
      exact Bool.false_ne_true
    · intro hreads
      cases hanswer : (ack_dirty ctx store.inner project_id company_id conversation_id request).1 with
      | ok value =>
        rw [hanswer] at herror
        cases herror
      | error err =>
        rw [hanswer] at hreads
        cases hreads

/-- A text has come in, and the bot has leased its conversation. -/
def sample.leased_by_bot : List (Ctx × Operation) :=
  [(received.1, .store received.2), ((polled "bot" 2).1, .store (polled "bot" 2).2)]

def sample.bot_ack : DirtyAckRequest where
  consumer_id := "bot"
  lease_token := "lease_bot0"
  processed_until_seq := 1

theorem ack_of_handed_lease :
    (ack_dirty (sample.ctx 3 "bot")
        (sample.tracked (Store.empty, Ledger.empty) sample.leased_by_bot).1.inner "acme" "company_a"
        "5511988887777@s.whatsapp.net" sample.bot_ack).1.isOk = true ∧
      ∃ dirty, (sample.tracked (Store.empty, Ledger.empty) sample.leased_by_bot).1.inner.dirty.lookup
          ("acme", "company_a", "5511988887777@s.whatsapp.net") = some dirty ∧
        CaughtUp (sample.tracked (Store.empty, Ledger.empty) sample.leased_by_bot).2
          (ack_dirty (sample.ctx 3 "bot")
            (sample.tracked (Store.empty, Ledger.empty) sample.leased_by_bot).1.inner "acme" "company_a"
            "5511988887777@s.whatsapp.net" sample.bot_ack).2
          "acme" "company_a" "5511988887777@s.whatsapp.net" dirty.max_seq := by
  have hrun := sample.tracked_run sample.leased_by_bot (Store.empty, Ledger.empty)
  exact ⟨by decide, (ack_contract _ hrun (sample.ctx 3 "bot") "acme" "company_a"
    "5511988887777@s.whatsapp.net" sample.bot_ack).2.2.2 (by decide)⟩

/-- An ack under a reference does what the ack under the conversation's own id does. -/
structure AcksAlike (inner : StoreInner) (project_id company_id reference : String) : Prop where
  same : ∀ ctx request, ack_dirty ctx inner project_id company_id reference request =
    ack_dirty ctx inner project_id company_id
      (resolve_conversation_id_inner inner project_id company_id reference) request

section References

variable {inner : StoreInner} {project_id company_id conversation_id reference : String} {request : DirtyAckRequest}

theorem ack_dirty_keeps_other_leases (ctx : Ctx) {key : LeaseKey} (hne : key.2.2.2 ≠ conversation_id) :
    (ack_dirty ctx inner project_id company_id conversation_id request).2.dirty_leases.lookup key =
      inner.dirty_leases.lookup key := by
  rcases ack_dirty_answers ctx inner project_id company_id conversation_id request with
    ⟨dirty, -, -, heq⟩ | ⟨-, -, heq⟩
  · rw [heq]
    dsimp only
    rw [acked_dirty_leases, AList.lookup_erase_ne]
    rintro rfl
    exact hne rfl
  · rw [heq]

theorem ack_dirty_uses_lease {ctx : Ctx} {dirty : DirtyRecord}
    (hdirty : inner.dirty.lookup (project_id, company_id, conversation_id) = some dirty)
    (hlease : HoldsLease ctx inner project_id company_id conversation_id request) :
    (ack_dirty ctx inner project_id company_id conversation_id request).2.dirty_leases.lookup
      (project_id, company_id, request.consumer_id, conversation_id) = none := by
  rw [ack_dirty_of_lease hdirty hlease, acked_dirty_leases, AList.lookup_erase]

/-- A conversation that someone has leased is acked under no other reference than its own id:
the dirty maps are searched for the reference as it is. -/
theorem ack_by_reference_iff {consumer_id : String} {dirty : DirtyRecord} {lease : DirtyLeaseRecord}
    (hdirty : inner.dirty.lookup (project_id, company_id,
      resolve_conversation_id_inner inner project_id company_id reference) = some dirty)
    (hlease : inner.dirty_leases.lookup (project_id, company_id, consumer_id,
      resolve_conversation_id_inner inner project_id company_id reference) = some lease) :
    AcksAlike inner project_id company_id reference ↔
      resolve_conversation_id_inner inner project_id company_id reference = reference := by
  constructor
  · intro hsame
    by_contra hne
    -- the holder of the lease acks in time
    obtain ⟨ctx, hctx⟩ : ∃ ctx : Ctx, ctx.now = lease.locked_until :=
      ⟨{ now := lease.locked_until, uuid := fun _ => "" }, rfl⟩
    obtain ⟨request, rfl, htoken⟩ : ∃ request : DirtyAckRequest, request.consumer_id = consumer_id ∧
        lease.lease_token = request.lease_token :=
      ⟨{ consumer_id, lease_token := lease.lease_token, processed_until_seq := 0 }, rfl, rfl⟩
    have hused := ack_dirty_uses_lease hdirty ⟨lease, hlease, htoken, le_of_eq hctx⟩
    rw [← hsame.same ctx request, ack_dirty_keeps_other_leases ctx hne, hlease] at hused
    cases hused
  · intro hself
    exact ⟨fun ctx request => by rw [hself]⟩

end References

/-- The store in which the bot has leased the conversation. -/
def sample.leased_inner : StoreInner :=
  (sample.tracked (Store.empty, Ledger.empty) sample.leased_by_bot).1.inner

/-- The bot acks the conversation under the phone number that its messages show. -/
theorem leased_chat_not_acked_by_number :
    resolve_conversation_id_inner sample.leased_inner "acme" "company_a" "5511988887777" =
        "5511988887777@s.whatsapp.net" ∧
      ¬ AcksAlike sample.leased_inner "acme" "company_a" "5511988887777" := by
  refine ⟨by decide, fun hsame => ?_⟩
  have hanswer := congrArg (fun answer => answer.1.isOk) (hsame.same (sample.ctx 3 "bot") sample.bot_ack)
  exact absurd hanswer (by decide)

theorem leased_chat_acked_by_own_id :
    AcksAlike sample.leased_inner "acme" "company_a" "5511988887777@s.whatsapp.net" := by
  obtain ⟨dirty, hdirty⟩ := Option.isSome_iff_exists.mp
    (show (sample.leased_inner.dirty.lookup ("acme", "company_a", "5511988887777@s.whatsapp.net")).isSome = true
      by decide)
  obtain ⟨lease, hlease⟩ := Option.isSome_iff_exists.mp
    (show (sample.leased_inner.dirty_leases.lookup
      ("acme", "company_a", "bot", "5511988887777@s.whatsapp.net")).isSome = true by decide)
  have hself : resolve_conversation_id_inner sample.leased_inner "acme" "company_a" "5511988887777@s.whatsapp.net" =
      "5511988887777@s.whatsapp.net" := by decide
  exact (ack_by_reference_iff (by rw [hself, hdirty]) (by rw [hself, hlease])).mpr hself

end rustzap.state
