import RustZap.Channels.Connections
import RustZap.Delivery.Identity

open collections runs
open rustzap.models rustzap.whatsapp

namespace rustzap.state

/-- The whole seconds of an instant, which is all that the provider reports of when a
message was sent. -/
def whole_seconds (sent : OffsetDateTime) : OffsetDateTime :=
  Duration.seconds (sent / 1000000000)

/-- The event is of a kind that is recorded: it belongs to no updates surface and is no
empty system message. -/
structure Recordable (event : MessageEvent) : Prop where
  surface : is_updates_event_surface event = false
  content : ¬ (event.message_type = "system" ∧ str.is_empty (event.text.getD ""))

/-- The message of the event is in the store. -/
def HoldsMessage (inner : StoreInner) (runtime : ChannelRuntime) (event : MessageEvent) : Prop :=
  ∃ message_id, identity_at inner message_id =
    some (runtime.channel_id, event.wa_message_id, if event.is_from_me then "outbound" else "inbound")

/-- A message that was sent at this instant is held if that was after the connection had
been handled, and is missing only if it was before the connection was established. -/
structure OnlyOlderMissing (handled_at established sent : OffsetDateTime) (held : Prop) : Prop where
  later_held : handled_at ≤ sent → held
  missing_older : ¬ held → sent < established

/-- The changes of an operation that may give every message but one a WhatsApp id. -/
def Effects.elsewhere (message_id : String) : Effects where
  gives id _ := id ≠ message_id
  acks := False
  polls := False

section OldMessages

variable {ctx : Ctx} {effects : Effects} {inner inner' : StoreInner}

/-- No message is recorded, and this one keeps what tells it apart. -/
theorem Change.identity_kept {message_id : String} {identity : String × String × String}
    (hchange : Change ctx (.elsewhere message_id) inner inner')
    (h : identity_at inner message_id = some identity) : identity_at inner' message_id = some identity := by
  have hother : (Effects.elsewhere message_id).gives (message_id ++ "_") "" := by
    intro heq
    have hlength := congrArg String.length heq
    simp at hlength
  cases hchange.messages with
  | none heq =>
    rw [identity_at, heq]
    exact h
  | record hnew hquiet heq => exact absurd hother (hquiet _ _)
  | @rewrite rewritten old new hold hsame hwa heq =>
    rw [identity_at_insert heq]
    split
    · next hkey =>
      subst hkey
      rw [identity_at, hold, Option.bind_some] at h
      rcases hwa with hkept | ⟨wa', hgives, -⟩
      · rw [external_identity_of_same hsame hkept]
        exact h
      · exact absurd rfl hgives
    · exact h
  | rewrite_all f hsame hwa heq =>
    obtain ⟨message, hmessage, hidentity⟩ := Option.bind_eq_some_iff.mp h
    rw [identity_at, heq, HashMap.lookup_map_values, hmessage, Option.map_some, Option.bind_some,
      external_identity_of_same (hsame message) (hwa message)]
    exact hidentity

/-- Whichever way it came to be recorded, the message of an event has the event's identity. -/
theorem record_whatsapp_message_identity (ctx : Ctx) (inner : StoreInner) (runtime : ChannelRuntime)
    (event : MessageEvent) :
    external_identity (record_whatsapp_message ctx inner (whatsapp_message_input runtime event)).1 =
      some (runtime.channel_id, event.wa_message_id,
        if event.is_from_me then "outbound" else "inbound") := by
  rcases record_whatsapp_message_cases ctx inner (whatsapp_message_input runtime event) with
    ⟨existing, hexisting, heq⟩ | ⟨-, heq⟩
  · obtain ⟨wa, hwa, hfind⟩ := Option.bind_eq_some_iff.mp hexisting
    cases hwa
    have hfound := List.find?_some hfind
    simp only [has_external_identity, Bool.and_eq_true, decide_eq_true_eq] at hfound
    obtain ⟨⟨hchannel, hwa⟩, hdirection⟩ := hfound
    rw [heq, external_identity, hwa, hchannel, hdirection]
    rfl
  · rw [heq]
    rfl

theorem ignored_message_event_eq_none_iff (self : AppState) (ctx : Ctx) (inner : StoreInner)
    (runtime : ChannelRuntime) {event : MessageEvent} (hrecordable : Recordable event) :
    ignored_message_event self ctx inner runtime event = none ↔
      ∀ connected_at, channel_connected_at inner runtime.channel_id = some connected_at →
        connected_at ≤ event.created_at_wa := by
  rw [ignored_message_event, if_neg (by simp [hrecordable.surface]), if_neg hrecordable.content]
  cases channel_connected_at inner runtime.channel_id with
  | none => simp
  | some connected_at =>
    dsimp only
    split
    · next hold => simp [not_le.mpr hold]
    · next hnew => simp [not_lt.mp hnew]

/-- A message that is not ignored is held once its event has been handled. -/
theorem process_message_event_holds (self : AppState) (runtime : ChannelRuntime) (event : MessageEvent)
    (answers : InboundMediaAnswers) (hkeyed : inner.messages_by_id.Keyed Message.id)
    (hkept : ignored_message_event self ctx inner runtime event = none) :
    HoldsMessage (process_message_event self ctx inner runtime event answers).2 runtime event := by
  have hrecorded := record_whatsapp_message_stored ctx hkeyed (whatsapp_message_input runtime event)
  have hidentity := record_whatsapp_message_identity ctx inner runtime event
  generalize hmessage : (record_whatsapp_message ctx inner (whatsapp_message_input runtime event)).1 =
    message at hrecorded hidentity
  -- what follows the recording is free to change every other message
  have hlater : Changes ctx (.elsewhere message.id)
      (record_whatsapp_message ctx inner (whatsapp_message_input runtime event)).2
      (process_message_event self ctx inner runtime event answers).2 := by
    unfold process_message_event
    rw [hkept]
    refine .trans ?_ (spawn_enrichment_changes ..)
    split
    · exact process_message_media_changes ..
    · exact .refl
  refine ⟨message.id, hlater.invariant (fun _ _ hs hchange => hchange.identity_kept hs) ?_⟩
  rw [identity_at, hrecorded, Option.bind_some]
  exact hidentity

/-- Handling the event holds the message exactly when the message is not older than the
connection noted for the channel, by what the event says of it, or is held already. -/
theorem process_message_event_holds_iff (self : AppState) (runtime : ChannelRuntime)
    {event : MessageEvent} (answers : InboundMediaAnswers)
    (hkeyed : inner.messages_by_id.Keyed Message.id) (hrecordable : Recordable event) :
    HoldsMessage (process_message_event self ctx inner runtime event answers).2 runtime event ↔
      (∀ connected_at, channel_connected_at inner runtime.channel_id = some connected_at →
        connected_at ≤ event.created_at_wa) ∨ HoldsMessage inner runtime event := by
  rw [← ignored_message_event_eq_none_iff self ctx inner runtime hrecordable]
  cases hignored : ignored_message_event self ctx inner runtime event with
  | none => simp [process_message_event_holds self runtime event answers hkeyed hignored]
  | some ignored =>
    have hmessages : (process_message_event self ctx inner runtime event
        answers).2.messages_by_id = inner.messages_by_id := by
      unfold process_message_event
      rw [hignored]
      rfl
    simp [HoldsMessage, identity_at, hmessages]

end OldMessages

/-- After a connection of a channel has been handled, and before another one is, a
message of the channel is recorded as it should be exactly when it is older than the
connection, when the channel has been noted as disconnected in between, when the seconds
of its date are past the instant at which the connection was handled, or when it has been
recorded before. Some messages that were sent on the connection are none of these. -/
theorem sent_message_recorded_iff (self : AppState) {start handled current : Store} {ctx ctx' : Ctx}
    {runtime : ChannelRuntime} {answers answers' : EventAnswers} {labels : List (Ctx × Operation)}
    {event : MessageEvent} {established sent : OffsetDateTime}
    (hconnected : Store.Next self start
      (ctx, .store (.process_whatsapp_event runtime answers .Connected)) handled)
    (hlater : Run (Guarded (Store.Next self) (NoNewConnection runtime.channel_id)) handled labels current)
    (hestablished : established ≤ ctx.now) (hrecordable : Recordable event)
    (hcreated : event.created_at_wa = whole_seconds sent) :
    OnlyOlderMissing ctx.now established sent (HoldsMessage
        (process_whatsapp_event self ctx' current.inner runtime answers' (.Message event)).2 runtime event) ↔
      sent < established ∨ channel_connected_at current.inner runtime.channel_id = none ∨
        ctx.now ≤ whole_seconds sent ∨ HoldsMessage current.inner runtime event := by
  have hnoted : channel_connected_at handled.inner runtime.channel_id = some ctx.now := by
    rw [channel_connected_at_reordered hconnected]
    exact connected_noted self ctx start.inner runtime answers
  have hstays := connection_stays_in_run hlater
  rw [ConnectionStays, hnoted] at hstays
  have hheld : HoldsMessage (process_whatsapp_event self ctx' current.inner runtime answers'
      (.Message event)).2 runtime event ↔ channel_connected_at current.inner runtime.channel_id = none ∨
        ctx.now ≤ whole_seconds sent ∨ HoldsMessage current.inner runtime event := by
    simp only [process_whatsapp_event]
    rw [process_message_event_holds_iff self runtime answers'.media current.keyed.messages hrecordable]
    rcases hstays with hconnection | hconnection
    · simp [hconnection, hcreated]
    · simp [hconnection]
  have hfilter : ∀ held : Prop, OnlyOlderMissing ctx.now established sent held ↔
      sent < established ∨ held := by
    intro held
    constructor
    · intro h
      by_cases hthere : held
      · exact Or.inr hthere
      · exact Or.inl (h.missing_older hthere)
    · rintro (holder | hthere)
      · exact ⟨fun hsent => absurd (le_trans hestablished hsent) (not_le.mpr holder), fun _ => holder⟩
      · exact ⟨fun _ => hthere, fun hmissing => absurd hthere hmissing⟩
  rw [hfilter, hheld]

namespace sample

/-- The connection of the channel is handled. -/
def connection (now : OffsetDateTime) : Ctx × Operation :=
  ({ ctx 0 "a" with now }, .store (.process_whatsapp_event company_a answers .Connected))

/-- The channel is connected, and a text waits to be sent in a chat. -/
def on_connection (now : OffsetDateTime) : Store :=
  live Store.empty [connection now, (ctx 30 "b", .store prepared.2)]

/-- The store once a text with this date has come in. -/
def with_text (now : OffsetDateTime) (second : Nat) : StoreInner :=
  (process_whatsapp_event service (ctx 31 "c") (on_connection now).inner company_a answers
    (.Message (text_event "3EB0A0" second false))).2

end sample

/-- A message that is sent within the second in which the connection is established and
handled, 0.2 s after it, is not recorded. Neither is one that is sent ten seconds after the
connection was established where the connection is handled twenty seconds late. -/
theorem sent_messages_missing :
    ¬ OnlyOlderMissing 10500000000 10500000000 10700000000
        (HoldsMessage (sample.with_text 10500000000 10) sample.company_a
          (sample.text_event "3EB0A0" 10 false)) ∧
      ¬ OnlyOlderMissing 30500000000 10500000000 20500000000
        (HoldsMessage (sample.with_text 30500000000 20) sample.company_a
          (sample.text_event "3EB0A0" 20 false)) := by
  have hmissing : ∀ inner : StoreInner, inner.messages_by_id.values.all (fun message =>
      message.direction = "outbound") = true → ∀ second,
      ¬ HoldsMessage inner sample.company_a (sample.text_event "3EB0A0" second false) := by
    rintro inner hall second ⟨message_id, hidentity⟩
    obtain ⟨message, hmessage, hidentity⟩ := Option.bind_eq_some_iff.mp hidentity
    obtain ⟨wa, -, heq⟩ := Option.map_eq_some_iff.mp hidentity
    obtain ⟨-, -, hinbound⟩ : _ ∧ _ ∧ message.direction = "inbound" := by simpa [sample.text_event] using heq
    have houtbound := of_decide_eq_true (List.all_eq_true.mp hall message
      (HashMap.mem_values_of_lookup hmessage))
    rw [hinbound] at houtbound
    exact absurd houtbound (by decide)
  refine ⟨fun h => ?_, fun h => ?_⟩
  · exact absurd (h.missing_older (hmissing _ (by decide +kernel) 10)) (by decide)
  · exact absurd (h.missing_older (hmissing _ (by decide +kernel) 20)) (by decide)

/-- A message that is sent in the second after the one of the connection is recorded. -/
theorem next_second_recorded :
    OnlyOlderMissing 10500000000 10500000000 11200000000
      (HoldsMessage (sample.with_text 10500000000 11) sample.company_a
        (sample.text_event "3EB0A0" 11 false)) := by
  have hconnected : Store.Next sample.service Store.empty (sample.connection 10500000000)
      (sample.live Store.empty [sample.connection 10500000000]) := StoreInner.Reordered.refl _
  have hlater : Run (Guarded (Store.Next sample.service) (NoNewConnection "channel_a"))
      (sample.live Store.empty [sample.connection 10500000000]) [(sample.ctx 30 "b", .store sample.prepared.2)]
      (sample.on_connection 10500000000) :=
    .cons ⟨fun hconnects => hconnects, StoreInner.Reordered.refl _⟩ (.nil _)
  have hrecordable : Recordable (sample.text_event "3EB0A0" 11 false) := ⟨by decide, by decide⟩
  exact (sent_message_recorded_iff sample.service hconnected hlater (le_refl _) hrecordable rfl).mpr
    (Or.inr (Or.inr (Or.inl (by decide))))

end rustzap.state
