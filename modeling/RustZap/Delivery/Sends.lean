import RustZap.Delivery.Receipts

open collections runs
open rustzap.eventbus rustzap.models

namespace rustzap.state

/-- What can happen to a message once its send request is out: the request is
delivered, with what the dispatch learns from outside, or a receipt comes in. -/
inductive SendOp where
  | deliver (answers : DispatchAnswers)
  | receipt (wa_message_id receipt_type : String) (created_at_wa : Option OffsetDateTime)

/-- The statuses with which a message counts as dispatched. -/
def Answered (status : String) : Prop :=
  status = "sent_to_whatsapp" ∨ status = "failed"

instance (status : String) : Decidable (Answered status) :=
  inferInstanceAs (Decidable (_ ∨ _))

/-- The store, with what has happened to the message of one send request: the
WhatsApp ids that the provider has answered its sends with, and whether a receipt
has overwritten the status that the last of them left. -/
structure SendState where
  store : Store
  sent : List String
  overwritten : Bool

def SendAnswer.accepted : SendAnswer → List String
  | .sent wa_message_id => [wa_message_id]
  | .refused _ => []
  | .timed_out => []

def Store.receive (self : AppState) (ctx : Ctx) (store : Store) (wa_message_id receipt_type : String)
    (created_at_wa : Option OffsetDateTime) : Store where
  inner := (update_receipt_by_wa_id_with_context self ctx store.inner wa_message_id receipt_type
    created_at_wa).2
  keyed :=
    have hchanges : Changes ctx ⟨fun _ _ => False, False, False⟩ store.inner _ :=
      update_receipt_by_wa_id_with_context_changes self ctx wa_message_id receipt_type created_at_wa
    hchanges.invariant (fun _ _ h => h.change) store.keyed

namespace SendState

/-- A send is counted when the provider was called and accepted it. A receipt
overwrites the status when the message is the one it finds. -/
def apply (self : AppState) (event : CommonEvent) (ctx : Ctx) (state : SendState) : SendOp → SendState
  | .deliver answers =>
    let dispatched := process_outbound_send_request ctx state.store.inner event answers
    let accepted := if dispatched.send.isSome then answers.send.accepted else []
    { store := state.store.apply self ctx (.process_outbound_send_request event answers)
      sent := state.sent ++ accepted
      overwritten := state.overwritten && accepted.isEmpty }
  | .receipt wa_message_id receipt_type created_at_wa =>
    { state with
      store := state.store.receive self ctx wa_message_id receipt_type created_at_wa
      overwritten := match find_by_wa_id state.store.inner wa_message_id with
        | some message_id =>
          if outbound_message_id event = some message_id then !decide (Answered receipt_type)
          else state.overwritten
        | none => state.overwritten }

/-- One step. The maps may yield their entries in another order afterwards. -/
def Step (self : AppState) (event : CommonEvent) (state : SendState) (label : Ctx × SendOp)
    (state' : SendState) : Prop :=
  let next := state.apply self event label.1 label.2
  next.store.inner.Reordered state'.store.inner ∧ state'.sent = next.sent ∧
    state'.overwritten = next.overwritten

/-- A delivery after a send comes while the status is still the one that the
send left: no receipt has put another in its place. -/
def Undisturbed (state : SendState) (label : Ctx × SendOp) : Prop :=
  ∀ answers, label.2 = .deliver answers → state.sent = [] ∨ state.overwritten = false

/-- The message of the send request counts as dispatched. -/
def IsAnswered (event : CommonEvent) (inner : StoreInner) : Prop :=
  ∃ message_id message, outbound_message_id event = some message_id ∧
    inner.messages_by_id.lookup message_id = some message ∧ Answered message.status

/-- At most one send, and once there was one the message counts as dispatched
until a receipt says otherwise. -/
structure SentOnce (event : CommonEvent) (state : SendState) : Prop where
  once : state.sent.length ≤ 1
  answered : state.sent ≠ [] → state.overwritten = false → IsAnswered event state.store.inner

variable {self : AppState} {event : CommonEvent} {ctx : Ctx} {state : SendState}

/-- A message that counts as dispatched is not sent again. -/
theorem IsAnswered.deliver {inner : StoreInner} (h : IsAnswered event inner) (ctx : Ctx)
    (answers : DispatchAnswers) :
    (process_outbound_send_request ctx inner event answers).send = none ∧
      (process_outbound_send_request ctx inner event answers).inner = inner := by
  obtain ⟨message_id, message, hid, hmessage, hanswered⟩ := h
  rcases process_outbound_send_request_cases ctx inner event answers with
    hskipped | ⟨message_id', message', hid', hmessage', -, -, hstatus, -⟩
  · exact hskipped
  · rw [hid] at hid'
    cases hid'
    rw [hmessage] at hmessage'
    cases hmessage'
    exact absurd hanswered hstatus

/-- An accepted send leaves its message with the status of a dispatched one. -/
theorem isAnswered_of_accepted {store : Store} {answers : DispatchAnswers}
    (hsend : (process_outbound_send_request ctx store.inner event answers).send.isSome = true)
    (haccepted : answers.send.accepted ≠ []) :
    IsAnswered event (process_outbound_send_request ctx store.inner event answers).inner := by
  rcases process_outbound_send_request_cases ctx store.inner event answers with
    ⟨hnone, -⟩ | ⟨message_id, message, hid, hmessage, -, -, -, heq⟩
  · rw [hnone] at hsend
    cases hsend
  · rw [heq] at hsend ⊢
    have hkey : message.id = message_id := store.keyed.messages message_id message hmessage
    obtain ⟨inner', hcore, hend⟩ := dispatch_prepared_message_end ctx store.inner
      { message, should_dispatch := true } (((event.payload.get "text").bind _).or message.text) answers
    cases hend with
    | unanswered hnone hinner =>
      rw [hnone] at hsend
      cases hsend
    | failed error hfailed hinner =>
      rcases hfailed with hnone | hrefused
      · rw [hnone] at hsend
        cases hsend
      · cases hanswer : answers.send with
        | sent wa => exact absurd hanswer (hrefused wa)
        | refused error =>
          rw [hanswer] at haccepted
          exact absurd rfl haccepted
        | timed_out =>
          rw [hanswer] at haccepted
          exact absurd rfl haccepted
    | sent wa hanswer hcalled hinner =>
      rw [hinner]
      have hstored : inner'.messages_by_id.lookup message.id = some message := by
        rw [hcore.messages_by_id, hkey]
        exact hmessage
      rcases update_outbound_after_dispatch_cases ctx inner' message.id (some wa) "sent_to_whatsapp" none
        with ⟨hnone, -⟩ | ⟨stored, inner'', hstored', ⟨events, rfl⟩, hupdate⟩
      · rw [hstored] at hnone
        cases hnone
      · rw [hupdate]
        exact ⟨message.id, _, hid.trans (congrArg some hkey.symm),
          (HashMap.lookup_insert_ite ..).trans (if_pos rfl), Or.inl rfl⟩

theorem SentOnce.deliver (h : SentOnce event state) (answers : DispatchAnswers)
    (hok : state.sent = [] ∨ state.overwritten = false) :
    SentOnce event (state.apply self event ctx (.deliver answers)) := by
  by_cases hsent : state.sent = []
  · by_cases hcalled : (process_outbound_send_request ctx state.store.inner event answers).send.isSome
    · constructor
      · simp only [apply, hsent, hcalled, if_true, List.nil_append]
        cases answers.send <;> simp [SendAnswer.accepted]
      · intro hnonempty _
        simp only [apply, hsent, hcalled, if_true, List.nil_append] at hnonempty
        exact isAnswered_of_accepted hcalled hnonempty
    · constructor
      · simp [apply, hsent, hcalled]
      · intro hnonempty
        simp [apply, hsent, hcalled] at hnonempty
  · have hquiet := hok.resolve_left hsent
    have hanswered := h.answered hsent hquiet
    obtain ⟨hnone, hinner⟩ := hanswered.deliver ctx answers
    have happly : (state.apply self event ctx (.deliver answers)).sent = state.sent := by
      simp [apply, hnone]
    refine ⟨happly ▸ h.once, fun _ _ => ?_⟩
    change IsAnswered event (process_outbound_send_request ctx state.store.inner event answers).inner
    rw [hinner]
    exact hanswered

theorem SentOnce.receipt (h : SentOnce event state) (wa_message_id receipt_type : String)
    (created_at_wa : Option OffsetDateTime) :
    SentOnce event (state.apply self event ctx (.receipt wa_message_id receipt_type created_at_wa)) := by
  refine ⟨h.once, fun hsent hquiet => ?_⟩
  simp only [apply] at hsent hquiet ⊢
  have hmessages := update_receipt_by_wa_id_messages self ctx state.store.keyed.messages wa_message_id
    receipt_type created_at_wa
  simp only [Store.receive]
  generalize (update_receipt_by_wa_id_with_context self ctx state.store.inner wa_message_id receipt_type
    created_at_wa).2 = next at hmessages ⊢
  rcases hmessages with ⟨hsame, hnone⟩ | ⟨found, hfind, -, -, hinsert⟩
  · rw [hnone] at hquiet
    obtain ⟨message_id, message, hid, hmessage, hanswered⟩ := h.answered hsent hquiet
    exact ⟨message_id, message, hid, hsame ▸ hmessage, hanswered⟩
  · rw [hfind] at hquiet
    dsimp only at hquiet
    split at hquiet
    · next hid =>
      -- the receipt found the message, with a status that still counts as dispatched
      refine ⟨found.id, _, hid, by rw [hinsert, HashMap.lookup_insert_ite, if_pos rfl], ?_⟩
      have hkept : Answered receipt_type := by simpa using hquiet
      exact hkept
    · next hid =>
      obtain ⟨message_id, message, hid', hmessage, hanswered⟩ := h.answered hsent hquiet
      refine ⟨message_id, message, hid', ?_, hanswered⟩
      rw [hinsert, HashMap.lookup_insert_ite, if_neg]
      · exact hmessage
      · rintro rfl
        exact hid hid'

theorem SentOnce.step {state' : SendState} {label : Ctx × SendOp} (h : SentOnce event state)
    (hok : Undisturbed state label) (hstep : Step self event state label state') :
    SentOnce event state' := by
  obtain ⟨hreordered, hsent, hoverwritten⟩ := hstep
  have hnext : SentOnce event (state.apply self event label.1 label.2) := by
    obtain ⟨ctx, op⟩ := label
    cases op with
    | deliver answers => exact h.deliver answers (hok answers rfl)
    | receipt wa_message_id receipt_type created_at_wa => exact h.receipt ..
  refine ⟨hsent ▸ hnext.once, fun hnonempty hquiet => ?_⟩
  obtain ⟨message_id, message, hid, hmessage, hanswered⟩ :=
    hnext.answered (hsent ▸ hnonempty) (hoverwritten ▸ hquiet)
  exact ⟨message_id, message, hid, (hreordered.messages_by_id.lookup message_id).symm.trans hmessage,
    hanswered⟩

end SendState

/-- In every run in which no delivery after a send comes when a receipt has
overwritten the status, the provider accepts the message at most once. -/
theorem provider_accepts_once (self : AppState) (event : CommonEvent) {store : Store}
    {labels : List (Ctx × SendOp)} {state : SendState}
    (hrun : Run (Guarded (SendState.Step self event) SendState.Undisturbed)
      { store, sent := [], overwritten := false } labels state) : state.sent.length ≤ 1 := by
  have hstep : ∀ s label t, SendState.SentOnce event s →
      Guarded (SendState.Step self event) SendState.Undisturbed s label t →
      SendState.SentOnce event t :=
    fun s label t h hguarded => h.step hguarded.1 hguarded.2
  exact (Run.invariant hstep hrun ⟨Nat.zero_le 1, fun h => absurd rfl h⟩).once

/-- The send request of "msg_b0". -/
def sample.send_request : CommonEvent :=
  new_event sample.prepared.1 8 "outbound.send.requested" "acme" "company_a" (some "channel_a")
    (some "5511988887777@s.whatsapp.net") (some "msg_b0") (some 2)
    (.object [("message_id", .string "msg_b0"), ("media_id", .null), ("message_type", .string "text")])

/-- The channel of the queued message is connected. -/
def sample.online : SendState where
  store := sample.run sample.queued
    [(sample.ctx 3 "c", .create_channel "acme" "company_a" (some "channel_a") none none),
      (sample.ctx 4 "d", .process_whatsapp_event sample.company_a sample.answers .Connected)]
  sent := []
  overwritten := false

def sample.delivered (second : Nat) (wa_message_id : String) : Ctx × SendOp :=
  (sample.ctx second "e", .deliver
    { reconciled := true, connected := true, bytes := .ok [], send := .sent wa_message_id })

def sample.receipt_for (second : Nat) (wa_message_id receipt_type : String) : Ctx × SendOp :=
  (sample.ctx second "r", .receipt wa_message_id receipt_type (some (Duration.seconds second)))

def sample.send_step (state : SendState) (label : Ctx × SendOp) : SendState :=
  state.apply sample.service sample.send_request label.1 label.2

/-- The request is delivered again after the message has reached the phone: the
message is sent twice. -/
theorem delivered_message_sent_again :
    ¬ ∀ labels state, Run (SendState.Step sample.service sample.send_request) sample.online labels state →
      state.sent.length ≤ 1 := by
  intro honce
  have hrun : Run (SendState.Step sample.service sample.send_request) sample.online
      [sample.delivered 5 "3EB0A1", sample.receipt_for 6 "3EB0A1" "delivered", sample.delivered 7 "3EB0A2"]
      (sample.send_step (sample.send_step (sample.send_step sample.online
        (sample.delivered 5 "3EB0A1")) (sample.receipt_for 6 "3EB0A1" "delivered"))
        (sample.delivered 7 "3EB0A2")) :=
    .cons ⟨StoreInner.Reordered.refl _, rfl, rfl⟩ (.cons ⟨StoreInner.Reordered.refl _, rfl, rfl⟩
      (.cons ⟨StoreInner.Reordered.refl _, rfl, rfl⟩ (.nil _)))
  exact absurd (honce _ _ hrun) (by decide)

/-- Delivered again before the receipt comes in, the message is sent once. -/
theorem sent_message_not_sent_again :
    (sample.send_step (sample.send_step (sample.send_step sample.online
      (sample.delivered 5 "3EB0A1")) (sample.delivered 6 "3EB0A2"))
      (sample.receipt_for 7 "3EB0A1" "delivered")).sent.length ≤ 1 := by
  refine provider_accepts_once sample.service sample.send_request
    (.cons ⟨fun _ _ => Or.inl rfl, StoreInner.Reordered.refl _, rfl, rfl⟩
      (.cons ⟨fun _ _ => Or.inr ?_, StoreInner.Reordered.refl _, rfl, rfl⟩
        (.cons ⟨fun _ h => (by cases h), StoreInner.Reordered.refl _, rfl, rfl⟩ (.nil _))))
  rfl

end rustzap.state
