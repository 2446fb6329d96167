import RustZap.Idempotency.Records

open collections serde_json runs
open rustzap.error rustzap.models rustzap.whatsapp

namespace rustzap.state

/-- The first send that succeeds under a key: its request, the conversation that its
target resolves to, and the message that it queues. -/
structure FirstSend where
  project_id : String
  company_id : String
  idempotency_key : String
  request : SendMessageRequest
  conversation_id : String
  message : Message

namespace FirstSend

variable (first : FirstSend)

def key : String × String × String :=
  (first.project_id, first.company_id, first.idempotency_key)

/-- The conversation that a later call under the key would send to. -/
def target (inner : StoreInner) (conversation_id : String) : String :=
  resolve_conversation_id_inner inner first.project_id first.company_id conversation_id

/-- A later call under the key. -/
def again (self : AppState) (ctx : Ctx) (inner : StoreInner) (conversation_id : String)
    (request : SendMessageRequest) (actor : Option String) : ApiResult SendMessageOutcome × StoreInner :=
  prepare_send_message_with_actor self ctx inner first.project_id first.company_id conversation_id
    first.idempotency_key request actor

/-- How a later call under the key has to be answered: the same request to the same
conversation with the message of the first call, any other with a conflict. The store
stays as it is. -/
structure AnswersAgain (service : AppState) (inner : StoreInner) (conversation_id : String)
    (request : SendMessageRequest) : Prop where
  unchanged : ∀ ctx actor, (first.again service ctx inner conversation_id request actor).2 = inner
  same : request = first.request → first.target inner conversation_id = first.conversation_id →
    ∃ message, inner.messages_by_id.lookup first.message.id = some message ∧
      SameMessage first.message message ∧
      ∀ ctx actor, (first.again service ctx inner conversation_id request actor).1 =
        .ok { message, should_dispatch := false }
  conflict : request ≠ first.request ∨ first.target inner conversation_id ≠ first.conversation_id →
    ∃ text, ∀ ctx actor, (first.again service ctx inner conversation_id request actor).1 =
      .error (.IdempotencyConflict text)

/-- The send has happened once: its message is there, and exactly one event asks for
its sending. -/
structure Once (inner : StoreInner) : Prop where
  message : ∃ message, inner.messages_by_id.lookup first.message.id = some message ∧
    SameMessage first.message message
  requested : inner.events.countP (requests_send first.message.id) = 1

/-- The step queues the message of the first send. It finds no record of the key, and
the UUID that it draws is that of no message yet, not even of one that an event
remembers. -/
structure Queued (service : AppState) (store : Store) (label : Ctx × Operation) (store' : Store) : Prop where
  step : Store.Lives service store label store'
  unused : ∀ event ∈ store.inner.events, event.message_id ≠ some ("msg_" ++ label.1.uuid 0)
  unrecorded : store.inner.idempotency.lookup first.key = none
  send : ∃ conversation_id actor, label.2 = .store (.prepare_send_message_with_actor first.project_id
      first.company_id conversation_id first.idempotency_key first.request actor) ∧
    first.conversation_id = first.target store.inner conversation_id ∧
    (first.again service label.1 store.inner conversation_id first.request actor).1 =
      .ok { message := first.message, should_dispatch := true }

end FirstSend

/-- That every send happens once, whatever comes after it. -/
def SendIdempotency (self : AppState) : Prop :=
  ∀ labels store first label store' labels' store'', Run (Store.Lives self) Store.empty labels store →
    FirstSend.Queued first self store label store' → Run (Store.Lives self) store' labels' store'' →
    first.Once store''.inner ∧ ∀ conversation_id request,
      first.AnswersAgain self store''.inner conversation_id request

/-- What must not happen to a send afterwards: that the retention removes its message,
or that a restart drops the message or the record of the key. -/
def FirstSend.Spared (first : FirstSend) (store : Store) (label : Ctx × Operation) : Prop :=
  match label.2 with
  | .remove_expired message_ids _ => first.message.id ∉ message_ids
  | .restart => first.message.id ∉ dropped_message_ids store.inner ∧
    is_updates_surface_jid first.idempotency_key = false ∧
    first.idempotency_key ∉ dropped_conversations store.inner
  | _ => True

/-- A call under the key is the first one again if it has the same hash: the hash is of
the body alone, and says nothing about the conversation. -/
def FirstSend.SameCommand (first : FirstSend) (self : AppState) (inner : StoreInner)
    (conversation_id : String) (request : SendMessageRequest) : Prop :=
  self.host.sha256_json request = self.host.sha256_json first.request →
    request = first.request ∧ first.target inner conversation_id = first.conversation_id

/-- What every state after the first send keeps of it. -/
structure FirstSend.Kept (first : FirstSend) (service : AppState) (inner : StoreInner) : Prop where
  message : ∃ message, inner.messages_by_id.lookup first.message.id = some message ∧
    SameMessage first.message message
  requested : ∃ event, inner.events.filter (requests_send first.message.id) = [event] ∧
    event.conversation_id = some first.message.conversation_id
  record : inner.idempotency.lookup first.key =
    some { request_hash := service.host.sha256_json first.request, message_id := first.message.id }

section Kept

variable {self : AppState} {first : FirstSend} {inner inner' : StoreInner}

theorem FirstSend.Kept.once (h : first.Kept self inner) : first.Once inner where
  message := h.message
  requested := by
    obtain ⟨event, heq, -⟩ := h.requested
    rw [List.countP_eq_length_filter, heq]
    rfl

theorem requests_send_eq_false {message_id : String} {event : CommonEvent}
    (h : event.message_id ≠ some message_id) : requests_send message_id event = false := by
  rw [requests_send, decide_eq_false h, Bool.and_false]

theorem SidesKept.filter_requests_send {owns : String → String → String → Prop}
    (h : SidesKept owns inner inner') (message_id : String) :
    inner'.events.filter (requests_send message_id) = inner.events.filter (requests_send message_id) := by
  obtain ⟨added, heq, hadded⟩ := h.events
  have hnone : added.filter (requests_send message_id) = [] := by
    rw [List.filter_eq_nil_iff]
    intro event hevent
    rw [hadded event hevent message_id]
    exact Bool.false_ne_true
  rw [heq, List.filter_append, hnone, List.append_nil]

theorem FirstSend.Kept.message_kept (h : first.Kept self inner)
    (hkept : MessagesKept inner.messages_by_id inner'.messages_by_id) :
    ∃ message, inner'.messages_by_id.lookup first.message.id = some message ∧
      SameMessage first.message message := by
  obtain ⟨message, hmessage, hsame⟩ := h.message
  obtain ⟨message', hmessage', hsame'⟩ := hkept _ message hmessage
  exact ⟨message', hmessage', hsame.trans hsame'⟩

/-- A send under another key asks for the sending of another message. -/
theorem FirstSend.Kept.send (h : first.Kept self inner) {ctx : Ctx} (hkeyed : inner.WellKeyed)
    (hfresh : inner.messages_by_id.lookup ("msg_" ++ ctx.uuid 0) = none)
    (project_id company_id conversation_id idempotency_key : String) (request : SendMessageRequest)
    (actor : Option String) :
    first.Kept self (prepare_send_message_with_actor self ctx inner project_id company_id conversation_id
      idempotency_key request actor).2 := by
  have hkept : MessagesKept inner.messages_by_id (prepare_send_message_with_actor self ctx inner project_id
      company_id conversation_id idempotency_key request actor).2.messages_by_id :=
    Operation.messages_kept self hkeyed hfresh (.store (.prepare_send_message_with_actor project_id company_id
      conversation_id idempotency_key request actor)) nofun nofun
  have hmessage := h.message_kept hkept
  rcases prepare_send_message_with_actor_cases self ctx inner project_id company_id conversation_id
    idempotency_key request actor (StoreOp.attaches_any self ctx inner _) with
    ⟨record, -, heq⟩ | ⟨hnone, ⟨err, heq⟩ | ⟨message, mid, hsides, hid, -, -, heq⟩⟩
  · rw [heq]
    exact h
  · rw [heq]
    exact h
  · rw [heq] at hmessage ⊢
    have hother : message.id ≠ first.message.id := by
      obtain ⟨stored, hstored, -⟩ := h.message
      rintro heq
      rw [← heq, hid, hfresh] at hstored
      cases hstored
    have hkey : first.key ≠ (project_id, company_id, idempotency_key) := by
      intro hkey
      have hrecord := h.record
      rw [hkey, hnone] at hrecord
      cases hrecord
    refine ⟨hmessage, ?_, ?_⟩
    · have hevent : requests_send first.message.id (send_requested ctx project_id company_id
          (resolve_conversation_id_inner inner project_id company_id conversation_id) message) = false :=
        requests_send_eq_false fun heq => hother (Option.some.inj heq)
      dsimp only [push_event_inner]
      rw [List.filter_append, List.filter_cons_of_neg (by rw [hevent]; exact Bool.false_ne_true),
        List.filter_nil, List.append_nil, hsides.filter_requests_send]
      exact h.requested
    · dsimp only [push_event_inner]
      rw [HashMap.lookup_insert_ite, if_neg hkey, hsides.idempotency]
      exact h.record

/-- A message that a snapshot keeps is on no updates surface. -/
theorem not_surface_of_kept {message_id : String} {message : Message}
    (hmessage : inner.messages_by_id.lookup message_id = some message)
    (hkept : message_id ∉ dropped_message_ids inner) :
    is_updates_surface_jid message.conversation_id = false := by
  have hremoved : removed inner.to_persisted message = false := by
    rw [Bool.eq_false_iff]
    intro hremoved
    exact hkept (List.mem_append_left _ (HashMap.mem_keys_of_lookup
      (HashMap.lookup_retain_eq_some_iff.mpr ⟨hmessage, hremoved⟩)))
  rw [removed, message_updates_surface, Bool.or_eq_false_iff, Bool.or_eq_false_iff] at hremoved
  exact hremoved.2.1

theorem FirstSend.Kept.restarted (h : first.Kept self inner)
    (hmessage : first.message.id ∉ dropped_message_ids inner)
    (hsurface : is_updates_surface_jid first.idempotency_key = false)
    (hconversation : first.idempotency_key ∉ dropped_conversations inner) :
    first.Kept self (restarted inner) := by
  obtain ⟨stored, hstored, hsame⟩ := h.message
  obtain ⟨event, hevents, habout⟩ := h.requested
  have hoff : is_updates_surface_jid first.message.conversation_id = false :=
    hsame.conversation_id ▸ not_surface_of_kept hstored hmessage
  have hid : event.message_id = some first.message.id := by
    have hrequests := (List.mem_filter.mp (hevents ▸ List.mem_singleton_self event)).2
    rw [requests_send, Bool.and_eq_true, decide_eq_true_eq, decide_eq_true_eq] at hrequests
    exact hrequests.2
  refine ⟨⟨stored, ?_, hsame⟩, ⟨event, ?_, habout⟩, ?_⟩
  · rw [restarted_messages_by_id_lookup, if_neg hmessage]
    exact hstored
  · rw [restarted_events, List.filter_filter]
    -- the event of the first send passes both tests of the snapshot
    have hcomm : (fun event => requests_send first.message.id event &&
        (!event.conversation_id.any is_updates_surface_jid &&
          !event.message_id.any (dropped_message_ids inner).contains)) =
        fun event => (!event.conversation_id.any is_updates_surface_jid &&
          !event.message_id.any (dropped_message_ids inner).contains) &&
            requests_send first.message.id event := funext fun event => Bool.and_comm _ _
    rw [hcomm, ← List.filter_filter, hevents]
    simp [habout, hid, hoff, hmessage]
  · rw [restarted_idempotency_lookup, h.record, Option.filter_some_eq_some]
    simp only [FirstSend.key, hsurface, hconversation, hmessage, List.contains_eq_mem, decide_false,
      Bool.not_false, Bool.and_self]

theorem FirstSend.Kept.reordered (h : first.Kept self inner) (hreordered : inner.Reordered inner') :
    first.Kept self inner' where
  message := hreordered.messages_by_id.lookup first.message.id ▸ h.message
  requested := hreordered.events ▸ h.requested
  record := hreordered.idempotency.lookup first.key ▸ h.record

/-- Every step that spares the send keeps it. -/
theorem FirstSend.Kept.apply {store : Store} {ctx : Ctx} {op : Operation} (h : first.Kept self store.inner)
    (hspared : first.Spared store (ctx, op)) (hfresh : DrawsNewId store (ctx, op)) :
    first.Kept self (op.apply self ctx store.inner) := by
  by_cases hop : op.OnSides
  · cases op with
    | store op =>
      cases op with
      | prepare_send_message_with_actor project company conversation key request actor =>
        exact h.send store.keyed hfresh ..
      | _ => exact absurd hop not_false
    | finish_upload idem_key request_hash media_result =>
      unfold Operation.apply state.finish_upload
      dsimp only
      repeat' split
      all_goals exact ⟨h.message, h.requested, h.record⟩
    | remove_expired message_ids media_ids =>
      have hspared : first.message.id ∉ message_ids := hspared
      obtain ⟨message, hmessage, hsame⟩ := h.message
      refine ⟨⟨message, ?_, hsame⟩, h.requested, h.record⟩
      exact HashMap.lookup_retain_eq_some_iff.mpr ⟨hmessage, by simpa using hspared⟩
    | restart => exact h.restarted hspared.1 hspared.2.1 hspared.2.2
    | _ => exact absurd hop not_false
  · have hsides : SidesKept anyone store.inner (op.apply self ctx store.inner) :=
      op.sides_kept self ctx hop (op.attaches_any self ctx store.inner)
    refine ⟨h.message_kept (op.messages_kept self store.keyed hfresh (fun _ _ heq => hop (heq ▸ trivial))
      (fun heq => hop (heq ▸ trivial))), ?_, ?_⟩
    · rw [hsides.filter_requests_send]
      exact h.requested
    · rw [hsides.idempotency]
      exact h.record

theorem FirstSend.Kept.run {store store' : Store} {labels : List (Ctx × Operation)}
    (h : first.Kept self store.inner)
    (hrun : Run (Guarded (Store.Lives self) first.Spared) store labels store') :
    first.Kept self store'.inner := by
  have hstep : ∀ s label t, first.Kept self s.inner →
      Guarded (Store.Lives self) first.Spared s label t → first.Kept self t.inner := by
    rintro s ⟨ctx, op⟩ t hs ⟨hspared, hfresh, hnext⟩
    exact (hs.apply hspared hfresh).reordered hnext
  exact hrun.invariant hstep h

/-- The first send is there once it has been made. -/
theorem FirstSend.Queued.kept {store store' : Store} {label : Ctx × Operation}
    (h : first.Queued self store label store') : first.Kept self store'.inner := by
  obtain ⟨ctx, op⟩ := label
  obtain ⟨conversation_id, actor, rfl, htarget, hanswer⟩ := h.send
  have hnone := h.unrecorded
  have happly : first.Kept self (first.again self ctx store.inner conversation_id first.request actor).2 := by
    rcases prepare_send_message_with_actor_cases self ctx store.inner first.project_id first.company_id
      conversation_id first.idempotency_key first.request actor (StoreOp.attaches_any self ctx store.inner _) with
      ⟨record, hrecord, -⟩ | ⟨-, ⟨err, heq⟩ | ⟨message, mid, hsides, hid, hconversation, hlookup, heq⟩⟩
    · exact absurd (hrecord.symm.trans hnone) nofun
    · rw [FirstSend.again, heq] at hanswer
      cases hanswer
    · rw [FirstSend.again, heq] at hanswer ⊢
      obtain rfl : message = first.message := by
        cases hanswer
        rfl
      refine ⟨⟨first.message, hlookup, .refl _⟩, ⟨send_requested ctx first.project_id first.company_id
        (resolve_conversation_id_inner store.inner first.project_id first.company_id conversation_id)
        first.message, ?_, congrArg some hconversation.symm⟩, AList.lookup_insert _⟩
      have hold : store.inner.events.filter (requests_send first.message.id) = [] := by
        rw [List.filter_eq_nil_iff]
        intro event hevent
        rw [requests_send_eq_false (hid ▸ h.unused event hevent)]
        exact Bool.false_ne_true
      dsimp only [push_event_inner]
      rw [List.filter_append, hsides.filter_requests_send, hold, List.nil_append]
      exact List.filter_cons_of_pos (by simp [requests_send, send_requested, eventbus.new_event])
  exact happly.reordered h.step.2

/-- Once a send is recorded, the calls under its key are answered as they have to be
exactly when the hash tells them apart. -/
theorem FirstSend.Kept.answers_again_iff (h : first.Kept self inner) (conversation_id : String)
    (request : SendMessageRequest) :
    first.AnswersAgain self inner conversation_id request ↔
      first.SameCommand self inner conversation_id request := by
  obtain ⟨message, hmessage, hsame⟩ := h.message
  have hagain : ∀ ctx actor, first.again self ctx inner conversation_id request actor =
      (if self.host.sha256_json first.request = self.host.sha256_json request then
        .ok { message, should_dispatch := false }
      else .error (.IdempotencyConflict "same Idempotency-Key used with different request body"), inner) := by
    intro ctx actor
    have hrecord : inner.idempotency.lookup (first.project_id, first.company_id, first.idempotency_key) =
      some { request_hash := self.host.sha256_json first.request, message_id := first.message.id } := h.record
    unfold FirstSend.again prepare_send_message_with_actor
    dsimp only
    rw [hrecord]
    dsimp only [replay_send]
    rw [hmessage]
  constructor
  · intro hanswers hhash
    by_contra hdifferent
    obtain ⟨text, hconflict⟩ := hanswers.conflict (not_and_or.mp hdifferent)
    have herror := hconflict { now := 0, uuid := fun _ => "" } none
    rw [hagain, if_pos hhash.symm] at herror
    cases herror
  · intro hcommand
    refine ⟨fun ctx actor => by rw [hagain], ?_, ?_⟩
    · rintro rfl htarget
      refine ⟨message, hmessage, hsame, fun ctx actor => ?_⟩
      rw [hagain, if_pos rfl]
    · intro hdifferent
      refine ⟨"same Idempotency-Key used with different request body", fun ctx actor => ?_⟩
      rw [hagain, if_neg fun hhash => not_and_or.mpr hdifferent (hcommand hhash.symm)]

end Kept

/-- A send happens once in every state that is reached without losing its message or
its record. A later call under the key is answered as it has to be exactly when, having
the hash of the first call, it is that call: the same body to the same conversation. -/
theorem send_happens_once (self : AppState) {first : FirstSend} {store store' store'' : Store}
    {label : Ctx × Operation} {labels : List (Ctx × Operation)}
    (hqueued : first.Queued self store label store')
    (hrun : Run (Guarded (Store.Lives self) first.Spared) store' labels store'') :
    first.Once store''.inner ∧ ∀ conversation_id request,
      (first.AnswersAgain self store''.inner conversation_id request ↔
        first.SameCommand self store''.inner conversation_id request) := by
  have hkept := hqueued.kept.run hrun
  exact ⟨hkept.once, hkept.answers_again_iff⟩

namespace sample

/-- The text of company A, sent with nothing in the store yet. -/
def first : FirstSend where
  project_id := "acme"
  company_id := "company_a"
  idempotency_key := "key_1"
  request := text_request
  conversation_id := "5511988887777@s.whatsapp.net"
  message := (queue_outbound (ctx 2 "b") Store.empty.inner "acme" "company_a" "5511988887777@s.whatsapp.net"
    text_request none none).1

theorem first_queued : first.Queued service Store.empty (prepared.1, .store prepared.2)
    (live Store.empty [(prepared.1, .store prepared.2)]) where
  step := ⟨rfl, .refl _⟩
  unused := List.forall_mem_nil _
  unrecorded := rfl
  send := ⟨"5511988887777@s.whatsapp.net", none, rfl, by decide, rfl⟩

end sample

/-- The same body under the same key, sent to somebody else, is answered with success. -/
theorem send_to_another_reported : ¬ SendIdempotency sample.service := by
  intro hsends
  have hanswers := (hsends [] Store.empty sample.first _ _ [] _ (.nil _) sample.first_queued (.nil _)).2
    "5511977776666@s.whatsapp.net" sample.text_request
  obtain ⟨text, hconflict⟩ := hanswers.conflict (Or.inr (by decide))
  have hanswer : (sample.first.again sample.service (sample.ctx 3 "c")
      (sample.live Store.empty [(sample.prepared.1, .store sample.prepared.2)]).inner
      "5511977776666@s.whatsapp.net" sample.text_request none).1 =
      .ok { message := sample.first.message, should_dispatch := false } := rfl
  rw [hconflict] at hanswer
  cases hanswer

/-- A repetition after a restart is answered with the message that was sent. -/
theorem repetition_answered :
    sample.first.Once (sample.live Store.empty [(sample.prepared.1, .store sample.prepared.2),
        (sample.ctx 3 "c", .restart)]).inner ∧
      sample.first.AnswersAgain sample.service (sample.live Store.empty
        [(sample.prepared.1, .store sample.prepared.2), (sample.ctx 3 "c", .restart)]).inner
        "5511988887777@s.whatsapp.net" sample.text_request := by
  have hrun : Run (Guarded (Store.Lives sample.service) sample.first.Spared)
      (sample.live Store.empty [(sample.prepared.1, .store sample.prepared.2)])
      [(sample.ctx 3 "c", .restart)]
      (sample.live Store.empty [(sample.prepared.1, .store sample.prepared.2),
        (sample.ctx 3 "c", .restart)]) := by
    refine .cons ⟨⟨by decide, by decide, by decide⟩, Option.isNone_iff_eq_none.mp (by decide), .refl _⟩ (.nil _)
  obtain ⟨honce, hanswers⟩ := send_happens_once sample.service sample.first_queued hrun
  exact ⟨honce, (hanswers _ _).mpr fun _ => ⟨rfl, by decide⟩⟩

end rustzap.state
