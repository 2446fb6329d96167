import RustZap.Delivery.Sends

open collections serde_json
open rustzap.models

namespace rustzap.state

/-- The store and the session agree that the channel is connected, whenever the dispatch
asks. -/
structure ChannelUp (inner : StoreInner) (channel_id : String) (answers : DispatchAnswers) : Prop where
  status : (inner.channels.lookup channel_id).map ChannelRecord.status = some "connected"
  reconciled : answers.reconciled = true
  connected : answers.connected = true

/-- The bytes of the message's medium cannot be had. -/
def NoBytes (inner : StoreInner) (message : Message) (answers : DispatchAnswers) : Prop :=
  ∃ media_id, message.media_id = some media_id ∧
    ∀ blob, media_blob inner media_id answers.bytes ≠ .ok (some blob)

/-- The dispatch of a message fails: its channel is not connected, the bytes of its medium
cannot be had, or the provider is called and does not accept it. -/
inductive FailurePath (inner : StoreInner) (message : Message) (request_text : Option String)
    (answers : DispatchAnswers) : Prop
  | not_connected (h : ¬ ChannelUp inner (dispatch_channel inner message) answers)
  | no_bytes (h : NoBytes inner message answers)
  | not_sent (hcontent : message.media_id ≠ none ∨ request_text ≠ none)
      (h : ∀ wa_message_id, answers.send ≠ .sent wa_message_id)

/-- The text that a send request has its message sent with. -/
def request_text (event : CommonEvent) (message : Message) : Option String :=
  ((event.payload.get "text").bind Value.as_str).or message.text

/-- What a handled send request leaves behind: where it returns its message, the message is
not queued any more, and wherever a dispatch fails, its message is failed and says why. -/
structure SettlesSends (ctx : Ctx) (inner : StoreInner) (event : CommonEvent) (answers : DispatchAnswers) :
    Prop where
  settled : ∀ returned, (process_outbound_send_request ctx inner event answers).result = .ok returned →
    ∃ message_id stored, outbound_message_id event = some message_id ∧
      (process_outbound_send_request ctx inner event answers).inner.messages_by_id.lookup message_id =
        some stored ∧ stored.status ≠ "queued"
  failed : ∀ message text, (inner.messages_by_id.lookup message.id).isSome →
    FailurePath inner message text answers →
    ∃ stored error, (dispatch_prepared_message ctx inner { message, should_dispatch := true } text
        answers).inner.messages_by_id.lookup message.id = some stored ∧
      stored.status = "failed" ∧ stored.error_message = some error

/-- The request is about a queued message of its company that has neither a medium nor a
text, and no text comes with the request either. The channel is connected. -/
def NothingToSend (inner : StoreInner) (event : CommonEvent) (answers : DispatchAnswers) : Prop :=
  ∃ message_id message, outbound_message_id event = some message_id ∧
    message_for_company inner event.project_id event.company_id message_id = .ok message ∧
    message.status = "queued" ∧ message.media_id = none ∧ request_text event message = none ∧
    ChannelUp inner (dispatch_channel inner message) answers

section Settled

variable {ctx : Ctx} {inner : StoreInner} {message : Message} {text : Option String}
  {answers : DispatchAnswers}

theorem reconciled_connected_iff (channel_id : String) :
    ((reconcile_channel_runtime_status ctx inner channel_id answers.reconciled).channels.lookup
        channel_id).map ChannelRecord.status = some "connected" ↔
      (inner.channels.lookup channel_id).map ChannelRecord.status = some "connected" ∧
        answers.reconciled = true := by
  unfold reconcile_channel_runtime_status
  cases answers.reconciled with
  | true => simp
  | false =>
    cases hchannel : inner.channels.lookup channel_id with
    | none => simp [hchannel]
    | some channel =>
      dsimp only
      by_cases hstatus : channel.status = "connected"
      · simp [hstatus, push_event_inner]
      · simp [hstatus, hchannel]

theorem reconcile_up (h : answers.reconciled = true) (channel_id : String) :
    reconcile_channel_runtime_status ctx inner channel_id answers.reconciled = inner := by
  rw [h]
  rfl

variable (ctx) in
/-- A stored result of a dispatch is the message's new status. -/
theorem Dispatched.store_lookup {s : StoreInner} {message_id : String}
    (hmessage : (s.messages_by_id.lookup message_id).isSome) (wa_message_id : Option String)
    (status : String) (error_message : Option String) (send : Option ProviderSend) :
    ∃ stored, (Dispatched.store ctx s message_id wa_message_id status error_message
        send).inner.messages_by_id.lookup message_id = some stored ∧ stored.status = status ∧
      stored.error_message = error_message := by
  rcases update_outbound_after_dispatch_cases ctx s message_id wa_message_id status error_message with
    ⟨hnone, -⟩ | ⟨old, inner', -, ⟨events, rfl⟩, hupdate⟩
  · rw [hnone] at hmessage
    cases hmessage
  · refine ⟨Message.dispatched old ctx.now wa_message_id status error_message, ?_, rfl, rfl⟩
    unfold Dispatched.store
    dsimp only
    rw [hupdate]
    exact (HashMap.lookup_insert_ite ..).trans (if_pos rfl)

variable (ctx) in
/-- The message is stored as failed, with a text that says why. -/
theorem Dispatched.store_failed {s : StoreInner} {message_id : String}
    (hmessage : (s.messages_by_id.lookup message_id).isSome) (error : String)
    (send : Option ProviderSend) :
    ∃ stored error', (Dispatched.store ctx s message_id none "failed" (some error)
        send).inner.messages_by_id.lookup message_id = some stored ∧
      stored.status = "failed" ∧ stored.error_message = some error' := by
  obtain ⟨stored, hstored, hstatus, herror⟩ :=
    Dispatched.store_lookup ctx hmessage none "failed" (some error) send
  exact ⟨stored, error, hstored, hstatus, herror⟩

theorem mark_channel_disconnected_messages (channel_id : String) (s : StoreInner) :
    (mark_channel_disconnected ctx s channel_id).messages_by_id = s.messages_by_id :=
  rfl

/-- A dispatch through a channel that is not connected fails. -/
theorem dispatch_not_connected (hmessage : (inner.messages_by_id.lookup message.id).isSome)
    (hdown : ¬ ChannelUp inner (dispatch_channel inner message) answers) :
    ∃ stored error, (dispatch_prepared_message ctx inner { message, should_dispatch := true } text
        answers).inner.messages_by_id.lookup message.id = some stored ∧
      stored.status = "failed" ∧ stored.error_message = some error := by
  have hreconciled : ((reconcile_channel_runtime_status ctx inner (dispatch_channel inner message)
      answers.reconciled).messages_by_id.lookup message.id).isSome := by
    rw [(reconcile_channel_runtime_status_core ctx inner _ _).messages_by_id]
    exact hmessage
  unfold dispatch_prepared_message
  rw [if_neg (by simp)]
  dsimp only
  split
  · exact Dispatched.store_failed ctx hreconciled _ _
  · next hstatus =>
    obtain ⟨hstatus, hanswer⟩ := (reconciled_connected_iff _).mp (not_not.mp hstatus)
    have hgone : answers.connected = false :=
      Bool.eq_false_iff.mpr fun hconnected => hdown ⟨hstatus, hanswer, hconnected⟩
    rw [if_pos (by simp [hgone])]
    exact Dispatched.store_failed ctx (by rw [mark_channel_disconnected_messages]; exact hreconciled) _ _

/-- A dispatch through a connected channel comes down to what there is to send. -/
theorem dispatch_connected (hup : ChannelUp inner (dispatch_channel inner message) answers) :
    dispatch_prepared_message ctx inner { message, should_dispatch := true } text answers =
      (outbound_send ctx inner message (dispatch_channel inner message) text answers.bytes).elim id
        fun send =>
          store_send_result ctx inner message.id (dispatch_channel inner message) send answers.send := by
  unfold dispatch_prepared_message
  rw [if_neg (by simp)]
  dsimp only
  rw [reconcile_up hup.reconciled, if_neg (not_not.mpr hup.status), if_neg (by simp [hup.connected])]
  cases outbound_send ctx inner message (dispatch_channel inner message) text answers.bytes <;> rfl

variable (ctx answers) in
/-- A call of the provider leaves the message sent, or failed with a reason. -/
theorem store_send_result_settles (hmessage : (inner.messages_by_id.lookup message.id).isSome)
    (channel_id : String) (send : ProviderSend) :
    ∃ stored, (store_send_result ctx inner message.id channel_id send
        answers.send).inner.messages_by_id.lookup message.id = some stored ∧
      ((∃ wa_message_id, answers.send = .sent wa_message_id) ∧ stored.status = "sent_to_whatsapp" ∨
        stored.status = "failed" ∧ ∃ error, stored.error_message = some error) := by
  cases hanswer : answers.send with
  | sent wa_message_id =>
    obtain ⟨stored, hstored, hstatus, -⟩ := Dispatched.store_lookup ctx hmessage
      (some wa_message_id) "sent_to_whatsapp" none (some send)
    exact ⟨stored, hstored, Or.inl ⟨⟨wa_message_id, rfl⟩, hstatus⟩⟩
  | refused error =>
    have hkept : ((if str.contains error "is not connected" then
        mark_channel_disconnected ctx inner channel_id else inner).messages_by_id.lookup message.id).isSome := by
      split
      · rw [mark_channel_disconnected_messages]
        exact hmessage
      · exact hmessage
    obtain ⟨stored, error', hstored, hstatus, herror⟩ :=
      Dispatched.store_failed ctx hkept error (some send)
    exact ⟨stored, hstored, Or.inr ⟨hstatus, error', herror⟩⟩
  | timed_out =>
    obtain ⟨stored, error', hstored, hstatus, herror⟩ :=
      Dispatched.store_failed ctx hmessage "WhatsApp send timed out" (some send)
    exact ⟨stored, hstored, Or.inr ⟨hstatus, error', herror⟩⟩

variable (ctx inner message text answers) in
/-- What there is to send through a connected channel: a medium whose bytes cannot be had,
a call of the provider, or nothing at all. -/
theorem outbound_send_cases (channel_id : String) :
    (∃ error, outbound_send ctx inner message channel_id text answers.bytes =
        .inl (.store ctx inner message.id none "failed" (some error) none)) ∧
      NoBytes inner message answers ∨
    (∃ send, outbound_send ctx inner message channel_id text answers.bytes = .inr send) ∧
      ¬ NoBytes inner message answers ∧ (message.media_id ≠ none ∨ text ≠ none) ∨
    outbound_send ctx inner message channel_id text answers.bytes =
        .inl { result := .ok message, inner, send := none } ∧
      message.media_id = none ∧ text = none := by
  unfold outbound_send
  dsimp only
  cases hmedia : message.media_id with
  | none =>
    have hbytes : ¬ NoBytes inner message answers := by
      rintro ⟨media_id, hsome, -⟩
      rw [hmedia] at hsome
      cases hsome
    cases text with
    | none => exact Or.inr (Or.inr ⟨rfl, rfl, rfl⟩)
    | some text => exact Or.inr (Or.inl ⟨⟨_, rfl⟩, hbytes, Or.inr (by simp)⟩)
  | some media_id =>
    dsimp only
    have hbytes : NoBytes inner message answers ↔
        ∀ blob, media_blob inner media_id answers.bytes ≠ .ok (some blob) := by
      simp [NoBytes, hmedia]
    rw [hbytes]
    cases media_blob inner media_id answers.bytes with
    | error err => exact Or.inl ⟨⟨_, rfl⟩, fun blob h => by cases h⟩
    | ok blob =>
      cases blob with
      | none => exact Or.inl ⟨⟨_, rfl⟩, fun blob h => by cases h⟩
      | some blob => exact Or.inr (Or.inl ⟨⟨_, rfl⟩, fun h => h blob rfl, Or.inl (by simp)⟩)

theorem outbound_send_nothing {channel_id : String} (hmedia : message.media_id = none)
    (htext : text = none) : outbound_send ctx inner message channel_id text answers.bytes =
      .inl { result := .ok message, inner, send := none } := by
  unfold outbound_send
  rw [hmedia, htext]

variable (ctx text answers) in
/-- A dispatch fails as it should, sends its message, or has nothing to send and leaves it
as it is. -/
theorem dispatch_cases (hmessage : (inner.messages_by_id.lookup message.id).isSome) :
    (∃ stored, (dispatch_prepared_message ctx inner { message, should_dispatch := true } text
        answers).inner.messages_by_id.lookup message.id = some stored ∧
      (stored.status = "failed" ∧ (∃ error, stored.error_message = some error) ∨
        stored.status = "sent_to_whatsapp" ∧ ¬ FailurePath inner message text answers)) ∨
    dispatch_prepared_message ctx inner { message, should_dispatch := true } text answers =
        { result := .ok message, inner, send := none } ∧
      message.media_id = none ∧ text = none ∧ ChannelUp inner (dispatch_channel inner message) answers := by
  by_cases hup : ChannelUp inner (dispatch_channel inner message) answers
  · rw [dispatch_connected hup]
    rcases outbound_send_cases ctx inner message text answers (dispatch_channel inner message) with
      ⟨⟨error, heq⟩, -⟩ | ⟨⟨send, heq⟩, hbytes, hcontent⟩ | ⟨heq, hmedia, htext⟩
    · left
      rw [heq]
      obtain ⟨stored, error', hstored, hstatus, herror⟩ :=
        Dispatched.store_failed ctx hmessage error none
      exact ⟨stored, hstored, Or.inl ⟨hstatus, error', herror⟩⟩
    · left
      rw [heq]
      obtain ⟨stored, hstored, ⟨⟨wa_message_id, hsent⟩, hstatus⟩ | hfailed⟩ :=
        store_send_result_settles ctx answers hmessage
          (dispatch_channel inner message) send
      · refine ⟨stored, hstored, Or.inr ⟨hstatus, ?_⟩⟩
        rintro (hdown | hnone | ⟨-, hunsent⟩)
        · exact hdown hup
        · exact hbytes hnone
        · exact hunsent wa_message_id hsent
      · exact ⟨stored, hstored, Or.inl hfailed⟩
    · right
      rw [heq]
      exact ⟨rfl, hmedia, htext, hup⟩
  · left
    obtain ⟨stored, error, hstored, hstatus, herror⟩ := dispatch_not_connected hmessage hup
    exact ⟨stored, hstored, Or.inl ⟨hstatus, error, herror⟩⟩

/-- Wherever a dispatch fails, the message is failed and says why. -/
theorem dispatch_failed (hmessage : (inner.messages_by_id.lookup message.id).isSome)
    (hfails : FailurePath inner message text answers) :
    ∃ stored error, (dispatch_prepared_message ctx inner { message, should_dispatch := true } text
        answers).inner.messages_by_id.lookup message.id = some stored ∧
      stored.status = "failed" ∧ stored.error_message = some error := by
  rcases dispatch_cases ctx text answers hmessage with
    ⟨stored, hstored, ⟨hstatus, error, herror⟩ | ⟨-, hsent⟩⟩ | ⟨-, hmedia, htext, hup⟩
  · exact ⟨stored, error, hstored, hstatus, herror⟩
  · exact absurd hfails hsent
  · rcases hfails with hdown | ⟨media_id, hsome, -⟩ | ⟨hcontent, -⟩
    · exact absurd hup hdown
    · rw [hmedia] at hsome
      cases hsome
    · rcases hcontent with hcontent | hcontent
      · exact absurd hmedia hcontent
      · exact absurd htext hcontent

/-- The request dispatches the message that it finds, unless it counts as dispatched. -/
theorem process_outbound_send_request_eq {event : CommonEvent} {message_id : String}
    (hid : outbound_message_id event = some message_id)
    (hmessage : message_for_company inner event.project_id event.company_id message_id = .ok message) :
    process_outbound_send_request ctx inner event answers =
      if Answered message.status then { result := .ok message, inner, send := none }
      else dispatch_prepared_message ctx inner { message, should_dispatch := true }
        (request_text event message) answers := by
  unfold process_outbound_send_request
  rw [hid]
  dsimp only
  rw [hmessage]
  rfl

/-- A request without a text, a caption and a medium is accepted like any other, and its
message is queued. -/
theorem request_without_content_accepted (self : AppState) (ctx : Ctx) {inner : StoreInner}
    {project_id company_id idempotency_key : String} {request : SendMessageRequest}
    (hnew : inner.idempotency.lookup (project_id, company_id, idempotency_key) = none)
    (hmedia : request.media_id = none) (htext : request.text.or request.caption = none)
    (conversation_id : String) (actor : Option String) :
    ∃ message, (prepare_send_message_with_actor self ctx inner project_id company_id conversation_id
        idempotency_key request actor).1 = .ok { message, should_dispatch := true } ∧
      (prepare_send_message_with_actor self ctx inner project_id company_id conversation_id
        idempotency_key request actor).2.messages_by_id.lookup message.id = some message ∧
      message.status = "queued" ∧ message.media_id = none ∧ message.text = none := by
  unfold prepare_send_message_with_actor
  dsimp only
  rw [hnew]
  dsimp only
  rw [hmedia]
  refine ⟨_, rfl, ?_, rfl, rfl, htext⟩
  exact AList.lookup_insert _

end Settled

/-- A handled send request settles its message exactly when it does not find a queued
message with nothing to send and a channel that is connected. That one it returns as it is,
and the message stays queued. -/
theorem settles_sends_iff (ctx : Ctx) (store : Store) (event : CommonEvent) (answers : DispatchAnswers) :
    SettlesSends ctx store.inner event answers ↔ ¬ NothingToSend store.inner event answers := by
  constructor
  · rintro h ⟨message_id, message, hid, hmessage, hqueued, hmedia, htext, hup⟩
    have hanswered : ¬ Answered message.status := by
      rw [hqueued]
      decide
    have hlookup := (message_for_company_ok hmessage).1
    have hreturned : process_outbound_send_request ctx store.inner event answers =
        { result := .ok message, inner := store.inner, send := none } := by
      rw [process_outbound_send_request_eq hid hmessage, if_neg hanswered, dispatch_connected hup,
        outbound_send_nothing hmedia htext]
      rfl
    obtain ⟨message_id', stored, hid', hstored, hstatus⟩ := h.settled message (by rw [hreturned])
    rw [hid] at hid'
    cases hid'
    rw [hreturned, hlookup] at hstored
    cases hstored
    exact hstatus hqueued
  · intro hsomething
    refine ⟨fun returned hreturned => ?_, fun message text hmessage hfails => dispatch_failed hmessage hfails⟩
    cases hid : outbound_message_id event with
    | none =>
      unfold process_outbound_send_request at hreturned
      rw [hid] at hreturned
      cases hreturned
    | some message_id =>
      cases hmessage : message_for_company store.inner event.project_id event.company_id message_id with
      | error err =>
        unfold process_outbound_send_request at hreturned
        rw [hid] at hreturned
        dsimp only at hreturned
        rw [hmessage] at hreturned
        cases hreturned
      | ok message =>
        have hlookup := (message_for_company_ok hmessage).1
        have hkey : message.id = message_id := store.keyed.messages message_id message hlookup
        refine ⟨message_id, ?_⟩
        rw [process_outbound_send_request_eq hid hmessage]
        split
        · next hanswered =>
          refine ⟨message, rfl, hlookup, ?_⟩
          rcases hanswered with hsent | hfailed
          · rw [hsent]
            decide
          · rw [hfailed]
            decide
        · have hthere : (store.inner.messages_by_id.lookup message.id).isSome := by
            rw [hkey, hlookup]
            rfl
          rcases dispatch_cases ctx (request_text event message) answers hthere with ⟨stored, hstored, hsettled⟩ | ⟨heq, hmedia, htext, hup⟩
          · rw [hkey] at hstored
            refine ⟨stored, rfl, hstored, ?_⟩
            rcases hsettled with ⟨hfailed, -⟩ | ⟨hsent, -⟩
            · rw [hfailed]
              decide
            · rw [hsent]
              decide
          · rw [heq]
            exact ⟨message, rfl, hlookup, fun hqueued =>
              hsomething ⟨message_id, message, hid, hmessage, hqueued, hmedia, htext, hup⟩⟩

/-- A text message without a text. -/
def sample.empty_request : SendMessageRequest :=
  { text_request with text := none }

/-- The message of the request waits to be sent, and its channel is connected. -/
def sample.empty_queued : Store :=
  run Store.empty
    [received,
      (ctx 2 "b", .prepare_send_message_with_actor "acme" "company_a" "5511988887777@s.whatsapp.net" "key_1"
        empty_request none),
      (ctx 3 "c", .create_channel "acme" "company_a" (some "channel_a") none none),
      (ctx 4 "d", .process_whatsapp_event company_a answers .Connected)]

/-- The send request of an accepted message without a text is handled without an error, and
the message is still queued. -/
theorem message_without_text_stays_queued :
    ¬ SettlesSends (sample.ctx 5 "e") sample.empty_queued.inner sample.send_request
      { reconciled := true, connected := true, bytes := .ok [], send := .sent "3EB0A1" } := by
  intro h
  generalize hhandled : process_outbound_send_request (sample.ctx 5 "e") sample.empty_queued.inner
    sample.send_request { reconciled := true, connected := true, bytes := .ok [], send := .sent "3EB0A1" } =
    handled
  have hreturned : handled.result.isOk = true := by
    rw [← hhandled]
    decide +kernel
  have hqueued : (handled.inner.messages_by_id.lookup "msg_b0").map Message.status = some "queued" := by
    rw [← hhandled]
    decide +kernel
  cases hresult : handled.result with
  | error err =>
    rw [hresult] at hreturned
    cases hreturned
  | ok returned =>
    obtain ⟨message_id, stored, hid, hstored, hstatus⟩ := h.settled returned (by rw [hhandled, hresult])
    cases hid
    rw [hhandled] at hstored
    rw [hstored] at hqueued
    exact hstatus (Option.some.inj hqueued)

end rustzap.state
