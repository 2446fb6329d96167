import RustZap.Kafka.Codec
import RustZap.Kafka.Topics
import RustZap.Lib.Fallible

open fallible serde_json
open rustzap.models

namespace rustzap.eventbus

/-- A record that the broker has acknowledged. -/
structure Record where
  topic : String
  key : String
  payload : List UInt8
  deriving DecidableEq

structure EventBusRuntimeMetrics where
  publish_attempts : Nat := 0
  publish_successes : Nat := 0
  publish_failures : Nat := 0
  deadletter_attempts : Nat := 0
  deadletter_successes : Nat := 0
  last_topic : Option String := none
  last_error : Option String := none
  recent_deadletters : List DeadLetterEnvelope := []

/-- The event bus that publishes to Kafka without an outbox: the queue of its channel, whether
the task that empties it is there, and what the broker has taken. -/
structure Publisher where
  queue : List CommonEvent := []
  running : Bool := true
  records : List Record := []
  metrics : EventBusRuntimeMetrics := {}

/-- What one turn of the task learns from outside: the answers of the broker to the event and
to its dead letter, and the time in between. -/
structure TurnAnswers where
  publish : Option String
  now : String
  publish_deadletter : Option String

def deadletter_envelope (now : String) (event : CommonEvent) (retry_count : Nat) (error_code : String) :
    DeadLetterEnvelope where
  event
  retry_count
  first_failed_at := now
  last_failed_at := now
  error_code

section Publishing

variable (codec : EventCodec) (kafka : config.TopicSettings)

def publish_payload (topic key : String) (payload : List UInt8) (answer : Option String) :
    Except String Record :=
  match answer with
  | some err => .error ("Kafka error: " ++ err)
  | none => .ok { topic, key, payload }

def publish (event : CommonEvent) (answer : Option String) : Except String Record := do
  let payload ← encode_event_for_kafka (codec.bus kafka.toKafkaConfig) event
  publish_payload (topic_for_event kafka.toKafkaConfig event.event_type) (partition_key event) payload answer

def publish_deadletter (envelope : DeadLetterEnvelope) (answer : Option String) : Except String Record := do
  let payload ← encode_deadletter_for_kafka codec kafka.toKafkaConfig envelope
  publish_payload (deadletter_topic kafka) (partition_key envelope.event) payload answer

/-- The last twenty dead letters are kept to be looked at. -/
def keep_recent (recent_deadletters : List DeadLetterEnvelope) (envelope : DeadLetterEnvelope) :
    List DeadLetterEnvelope :=
  (if recent_deadletters.length ≥ 20 then recent_deadletters.drop 1 else recent_deadletters) ++ [envelope]

namespace Publisher

def publish_background (bus : Publisher) (event : CommonEvent) : Publisher :=
  if bus.running then { bus with queue := bus.queue ++ [event] }
  else { bus with metrics := { bus.metrics with
    publish_failures := bus.metrics.publish_failures + 1
    last_error := some "event bus publisher task is not running" } }

/-- One turn of the task that `spawn_kafka_publisher` starts. It waits while the queue is empty. -/
def turn (bus : Publisher) (answers : TurnAnswers) : Publisher :=
  match bus.running, bus.queue with
  | true, event :: queue =>
    let metrics := { bus.metrics with
      publish_attempts := bus.metrics.publish_attempts + 1
      last_topic := some (topic_for_event kafka.toKafkaConfig event.event_type) }
    match publish codec kafka event answers.publish with
    | .ok record => { bus with
        queue
        records := bus.records ++ [record]
        metrics := { metrics with
          publish_successes := metrics.publish_successes + 1
          last_error := none } }
    | .error error =>
      let envelope := deadletter_envelope answers.now event 1 error
      let metrics := { metrics with
        publish_failures := metrics.publish_failures + 1
        last_error := some error
        deadletter_attempts := metrics.deadletter_attempts + 1
        recent_deadletters := keep_recent metrics.recent_deadletters envelope }
      match publish_deadletter codec kafka envelope answers.publish_deadletter with
      | .ok record => { bus with
          queue
          records := bus.records ++ [record]
          metrics := { metrics with deadletter_successes := metrics.deadletter_successes + 1 } }
      | .error _ => { bus with queue, metrics }
  | _, _ => bus

end Publisher

/-- What happens to the bus. A panic ends the task, and with it the queue. -/
inductive PublisherOp where
  | publish_background (event : CommonEvent)
  | turn (answers : TurnAnswers)
  | stop

/-- The event that a step gives to the bus. -/
def PublisherOp.given : PublisherOp → List CommonEvent
  | .publish_background event => [event]
  | .turn _ => []
  | .stop => []

def Publisher.apply (bus : Publisher) : PublisherOp → Publisher
  | .publish_background event => bus.publish_background event
  | .turn answers => bus.turn codec kafka answers
  | .stop => { bus with running := false }

end Publishing

/-- What becomes of an event that the task takes from its queue. -/
inductive Outcome where
  | Published (event : CommonEvent) (record : Record)
  | DeadLettered (envelope : DeadLetterEnvelope) (record : Record)
  | Lost (envelope : DeadLetterEnvelope)

namespace Outcome

def event : Outcome → CommonEvent
  | .Published event _ => event
  | .DeadLettered envelope _ => envelope.event
  | .Lost envelope => envelope.event

def records : Outcome → List Record
  | .Published _ record => [record]
  | .DeadLettered _ record => [record]
  | .Lost _ => []

/-- The dead letter of an event that was not published. -/
def envelope : Outcome → Option DeadLetterEnvelope
  | .Published _ _ => none
  | .DeadLettered envelope _ => some envelope
  | .Lost envelope => some envelope

def is_published : Outcome → Bool
  | .Published _ _ => true
  | _ => false

def is_deadlettered : Outcome → Bool
  | .DeadLettered _ _ => true
  | _ => false

end Outcome

section Turn

variable (codec : EventCodec) (kafka : config.TopicSettings)

/-- What a turn comes to for the event that it takes. -/
def outcome_of (answers : TurnAnswers) (event : CommonEvent) : Outcome :=
  match publish codec kafka event answers.publish with
  | .ok record => .Published event record
  | .error error =>
    let envelope := deadletter_envelope answers.now event 1 error
    match publish_deadletter codec kafka envelope answers.publish_deadletter with
    | .ok record => .DeadLettered envelope record
    | .error _ => .Lost envelope

end Turn

/-- How a turn leaves the bus that has come to an outcome. -/
structure Settles (bus : Publisher) (outcome : Outcome) (bus' : Publisher) : Prop where
  queue : bus.queue = outcome.event :: bus'.queue
  running : bus'.running = bus.running
  records : bus'.records = bus.records ++ outcome.records
  attempts : bus'.metrics.publish_attempts = bus.metrics.publish_attempts + 1
  successes : bus'.metrics.publish_successes = bus.metrics.publish_successes + outcome.is_published.toNat
  failures : bus'.metrics.publish_failures = bus.metrics.publish_failures + (!outcome.is_published).toNat
  deadletter_attempts :
    bus'.metrics.deadletter_attempts = bus.metrics.deadletter_attempts + (!outcome.is_published).toNat
  deadletter_successes :
    bus'.metrics.deadletter_successes = bus.metrics.deadletter_successes + outcome.is_deadlettered.toNat
  recent : bus'.metrics.recent_deadletters =
    outcome.envelope.elim bus.metrics.recent_deadletters (keep_recent bus.metrics.recent_deadletters)

section Account

variable {codec : EventCodec} {kafka : config.TopicSettings} {bus : Publisher}

theorem turn_settles {event : CommonEvent} {queue : List CommonEvent} (hrunning : bus.running = true)
    (hqueue : bus.queue = event :: queue) (answers : TurnAnswers) :
    Settles bus (outcome_of codec kafka answers event) (bus.turn codec kafka answers) := by
  unfold Publisher.turn outcome_of
  rw [hrunning, hqueue]
  dsimp only
  cases publish codec kafka event answers.publish with
  | ok record => exact ⟨hqueue, hrunning.symm, rfl, rfl, rfl, rfl, rfl, rfl, rfl⟩
  | error error =>
    dsimp only
    cases publish_deadletter codec kafka (deadletter_envelope answers.now event 1 error)
        answers.publish_deadletter with
    | ok record => exact ⟨hqueue, hrunning.symm, rfl, rfl, rfl, rfl, rfl, rfl, rfl⟩
    | error err => exact ⟨hqueue, hrunning.symm, (List.append_nil _).symm, rfl, rfl, rfl, rfl, rfl, rfl⟩

theorem turn_waits (hwaits : bus.running = false ∨ bus.queue = []) (answers : TurnAnswers) :
    bus.turn codec kafka answers = bus := by
  unfold Publisher.turn
  split
  · next hrunning hqueue =>
    rcases hwaits with hstopped | hempty
    · rw [hrunning] at hstopped
      cases hstopped
    · rw [hqueue] at hempty
      cases hempty
  · rfl

/-- An event that is written anew with more around it does not get shorter. -/
def EventCodec.Grows (codec : EventCodec) : Prop :=
  ∀ (envelope : DeadLetterEnvelope) event doc, envelope.event.serialize codec.toTimeCodec = .ok event →
    envelope.serialize codec = .ok doc → (codec.to_vec event).length ≤ (codec.to_vec doc).length

/-- What the bus refuses to encode it refuses to encode within a dead letter. -/
theorem encode_deadletter_refused (hgrows : codec.Grows) (kafka : config.KafkaConfig)
    (envelope : DeadLetterEnvelope) {payload : List UInt8}
    (hencoded : encode_deadletter_for_kafka codec kafka envelope = .ok payload) :
    ∃ bytes, encode_event_for_kafka (codec.bus kafka) envelope.event = .ok bytes := by
  rw [encode_deadletter_eq, encode_event_ok_iff] at hencoded
  obtain ⟨hmedia, hwritten, hshort⟩ := hencoded
  cases hevent : envelope.event.serialize codec.toTimeCodec with
  | error err =>
    rw [DeadLetterEnvelope.serialize, hevent] at hwritten
    cases hwritten
  | ok event =>
    refine ⟨codec.to_vec event, (encode_event_ok_iff ..).mpr ⟨hmedia, ?_, ?_⟩⟩
    · rw [EventCodec.bus]
      dsimp only
      rw [hevent]
      rfl
    · cases hdoc : envelope.serialize codec with
      | error err =>
        dsimp only at hwritten
        rw [hdoc] at hwritten
        cases hwritten
      | ok doc =>
        dsimp only at hwritten
        rw [hdoc] at hwritten
        cases hwritten
        exact (hgrows envelope event doc hevent hdoc).trans hshort

/-- What a record is to the event that it was made of. -/
inductive Outcome.Right (codec : EventCodec) (kafka : config.TopicSettings) : Outcome → Prop
  | Published {event : CommonEvent} {payload : List UInt8}
      (hencoded : encode_event_for_kafka (codec.bus kafka.toKafkaConfig) event = .ok payload) :
      Right codec kafka (.Published event {
        topic := topic_for_event kafka.toKafkaConfig event.event_type, key := partition_key event, payload })
  | DeadLettered {envelope : DeadLetterEnvelope} {bytes payload : List UInt8}
      (hevent : encode_event_for_kafka (codec.bus kafka.toKafkaConfig) envelope.event = .ok bytes)
      (hencoded : encode_deadletter_for_kafka codec kafka.toKafkaConfig envelope = .ok payload) :
      Right codec kafka (.DeadLettered envelope {
        topic := deadletter_topic kafka, key := partition_key envelope.event, payload })
  | Lost {envelope : DeadLetterEnvelope} : Right codec kafka (.Lost envelope)

theorem publish_payload_eq_ok {topic key : String} {payload : List UInt8} {answer : Option String}
    {record : Record} (h : publish_payload topic key payload answer = .ok record) :
    record = { topic, key, payload } := by
  cases answer with
  | some err => cases h
  | none => exact (Except.ok.inj h).symm

theorem outcome_right (hgrows : codec.Grows) (answers : TurnAnswers) (event : CommonEvent) :
    (outcome_of codec kafka answers event).Right codec kafka := by
  unfold outcome_of
  cases hpublish : publish codec kafka event answers.publish with
  | ok record =>
    obtain ⟨payload, hencoded, hpayload⟩ := bind_eq_ok_iff.mp hpublish
    rw [publish_payload_eq_ok hpayload]
    exact .Published hencoded
  | error error =>
    dsimp only
    cases hdeadletter : publish_deadletter codec kafka (deadletter_envelope answers.now event 1 error)
        answers.publish_deadletter with
    | ok record =>
      obtain ⟨payload, hencoded, hpayload⟩ := bind_eq_ok_iff.mp hdeadletter
      obtain ⟨bytes, hevent⟩ := encode_deadletter_refused hgrows kafka.toKafkaConfig _ hencoded
      rw [publish_payload_eq_ok hpayload]
      exact .DeadLettered hevent hencoded
    | error err => exact .Lost

/-- The last twenty of the dead letters so far. -/
def last_twenty (envelopes : List DeadLetterEnvelope) : List DeadLetterEnvelope :=
  envelopes.drop (envelopes.length - 20)

theorem keep_recent_last_twenty (envelopes : List DeadLetterEnvelope) (envelope : DeadLetterEnvelope) :
    keep_recent (last_twenty envelopes) envelope = last_twenty (envelopes ++ [envelope]) := by
  have hkept : (last_twenty envelopes).length = envelopes.length - (envelopes.length - 20) := List.length_drop ..
  have hlength : (envelopes ++ [envelope]).length = envelopes.length + 1 := List.length_append ..
  unfold keep_recent
  by_cases hfull : 20 ≤ envelopes.length
  · rw [if_pos (by omega), last_twenty, last_twenty, List.drop_drop, hlength,
      List.drop_append_of_le_length (by omega)]
    congr 2
    omega
  · rw [if_neg (by omega), last_twenty, last_twenty, hlength]
    have hnone : envelopes.length - 20 = 0 := by omega
    have hnone' : envelopes.length + 1 - 20 = 0 := by omega
    rw [hnone, hnone', List.drop_zero, List.drop_zero]

/-- The books of the bus after `events` were given to it. What it took from the queue it
took in their order, each has come to one outcome, and the records and the figures are those
of the outcomes. Events come too late once the task has ended. -/
structure Accounted (codec : EventCodec) (kafka : config.TopicSettings) (events rejected : List CommonEvent)
    (outcomes : List Outcome) (bus : Publisher) : Prop where
  given : events = outcomes.map Outcome.event ++ bus.queue ++ rejected
  too_late : bus.running = true → rejected = []
  right : ∀ outcome ∈ outcomes, outcome.Right codec kafka
  records : bus.records = outcomes.flatMap Outcome.records
  attempts : bus.metrics.publish_attempts = outcomes.length
  successes : bus.metrics.publish_successes = outcomes.countP Outcome.is_published
  failures : bus.metrics.publish_failures = outcomes.countP (fun outcome => !outcome.is_published) + rejected.length
  deadletter_attempts : bus.metrics.deadletter_attempts = outcomes.countP fun outcome => !outcome.is_published
  deadletter_successes : bus.metrics.deadletter_successes = outcomes.countP Outcome.is_deadlettered
  recent : bus.metrics.recent_deadletters = last_twenty (outcomes.filterMap Outcome.envelope)

variable {events rejected : List CommonEvent} {outcomes : List Outcome}

theorem Accounted.settle (h : Accounted codec kafka events rejected outcomes bus) {outcome : Outcome}
    {bus' : Publisher} (hright : outcome.Right codec kafka) (hsettles : Settles bus outcome bus') :
    Accounted codec kafka events rejected (outcomes ++ [outcome]) bus' := by
  have hcount (p : Outcome → Bool) : (outcomes ++ [outcome]).countP p = outcomes.countP p + (p outcome).toNat := by
    rw [List.countP_append, List.countP_singleton]
    cases p outcome <;> rfl
  constructor
  case given =>
    rw [h.given, hsettles.queue, List.map_append, List.append_assoc, List.append_assoc, List.append_assoc]
    rfl
  case too_late => exact fun hrunning => h.too_late (hsettles.running ▸ hrunning)
  case right =>
    intro outcome' hmem
    rcases List.mem_append.mp hmem with hold | hnew
    · exact h.right outcome' hold
    · rw [List.mem_singleton.mp hnew]
      exact hright
  case records => rw [hsettles.records, h.records, List.flatMap_append, List.flatMap_singleton]
  case attempts => rw [hsettles.attempts, h.attempts, List.length_append, List.length_singleton]
  case successes => rw [hsettles.successes, h.successes, hcount]
  case failures => rw [hsettles.failures, h.failures, hcount, Nat.add_right_comm]
  case deadletter_attempts => rw [hsettles.deadletter_attempts, h.deadletter_attempts, hcount]
  case deadletter_successes => rw [hsettles.deadletter_successes, h.deadletter_successes, hcount]
  case recent =>
    rw [hsettles.recent, h.recent, List.filterMap_append]
    cases henvelope : outcome.envelope with
    | none => rw [List.filterMap_cons_none henvelope, List.filterMap_nil, List.append_nil]; rfl
    | some envelope =>
      rw [List.filterMap_cons_some henvelope, List.filterMap_nil, ← keep_recent_last_twenty]
      rfl

theorem Accounted.publish_background (h : Accounted codec kafka events rejected outcomes bus)
    (event : CommonEvent) :
    ∃ rejected', Accounted codec kafka (events ++ [event]) rejected' outcomes (bus.publish_background event) := by
  unfold Publisher.publish_background
  by_cases hrunning : bus.running = true
  · rw [if_pos hrunning]
    have hnone := h.too_late hrunning
    refine ⟨[], ⟨?_, fun _ => rfl, h.right, h.records, h.attempts, h.successes, ?_, h.deadletter_attempts,
      h.deadletter_successes, h.recent⟩⟩
    · rw [h.given, hnone, List.append_nil, List.append_nil, List.append_assoc]
    · rw [h.failures, hnone]
  · rw [if_neg hrunning]
    refine ⟨rejected ++ [event], ⟨?_, fun h => absurd h hrunning, h.right, h.records, h.attempts, h.successes, ?_,
      h.deadletter_attempts, h.deadletter_successes, h.recent⟩⟩
    · rw [h.given, List.append_assoc]
    · rw [List.length_append, ← Nat.add_assoc, ← h.failures]
      rfl

theorem Accounted.apply (hgrows : codec.Grows) (h : Accounted codec kafka events rejected outcomes bus)
    (op : PublisherOp) :
    ∃ rejected outcomes, Accounted codec kafka (events ++ op.given) rejected outcomes
      (bus.apply codec kafka op) := by
  cases op with
  | publish_background event =>
    obtain ⟨rejected', h'⟩ := h.publish_background event
    exact ⟨rejected', outcomes, h'⟩
  | stop =>
    refine ⟨rejected, outcomes, ?_⟩
    rw [PublisherOp.given, List.append_nil]
    exact ⟨h.given, nofun, h.right, h.records, h.attempts, h.successes, h.failures, h.deadletter_attempts,
      h.deadletter_successes, h.recent⟩
  | turn answers =>
    rw [PublisherOp.given, List.append_nil]
    cases hrunning : bus.running with
    | false =>
      refine ⟨rejected, outcomes, ?_⟩
      rw [Publisher.apply, turn_waits (Or.inl hrunning)]
      exact h
    | true =>
      cases hqueue : bus.queue with
      | nil =>
        refine ⟨rejected, outcomes, ?_⟩
        rw [Publisher.apply, turn_waits (Or.inr hqueue)]
        exact h
      | cons event queue =>
        exact ⟨rejected, _, h.settle (outcome_right hgrows answers event) (turn_settles hrunning hqueue answers)⟩

/-- Whatever the broker answers and whenever the task of the bus ends, its books are in
order: nothing that was given to it is published out of turn, twice, or under another topic
or key than its own, an event is dead-lettered only if it could be encoded, and the figures
count what has become of the events. -/
theorem publisher_account (hgrows : codec.Grows) (ops : List PublisherOp) :
    ∃ rejected outcomes, Accounted codec kafka (ops.flatMap PublisherOp.given) rejected outcomes
      (ops.foldl (Publisher.apply codec kafka) {}) := by
  induction ops using List.reverseRecOn with
  | nil =>
    exact ⟨[], [], rfl, fun _ => rfl, List.forall_mem_nil _, rfl, rfl, rfl, rfl, rfl, rfl, rfl⟩
  | append_singleton ops op ih =>
    obtain ⟨rejected, outcomes, h⟩ := ih
    rw [List.foldl_append, List.flatMap_append, List.flatMap_singleton]
    exact h.apply hgrows op

end Account

namespace sample

/-- The text of a dead letter holds the text of its event. -/
theorem codec_grows (docs : List Value) : (codec docs).Grows := by
  intro envelope event doc hevent hdoc
  rw [DeadLetterEnvelope.serialize, hevent] at hdoc
  cases hdoc
  rw [to_vec_codec, to_vec_codec, media.ascii, media.ascii, List.length_map, List.length_map, to_json,
    to_json.fields_to_json, to_json.fields_to_json, String.intercalate_cons_cons]
  simp only [String.toList_append, List.length_append]
  omega

def bus_ops : List PublisherOp := [
  .publish_background (event_of renamed),
  .publish_background (event_of .null),
  .turn { publish := some "Local: Message timed out", now := "1970-01-01T00:00:02Z", publish_deadletter := none },
  .stop,
  .publish_background (event_of renamed)]

end sample

open sample in
theorem publisher_account_stopped :
    ∃ rejected outcomes, Accounted (codec []) settings [event_of renamed, event_of .null, event_of renamed] rejected
      outcomes (bus_ops.foldl (Publisher.apply (codec []) settings) {}) :=
  publisher_account (codec_grows []) bus_ops

end rustzap.eventbus
