import RustZap.Database.Retries

open collections runs
open rustzap.models

namespace rustzap.workers

open rustzap.eventbus rustzap.state rustzap.db

section Records

variable {W : Type} (partition : Partition) (consumer_group : String)
  (handler : KafkaConsumerMessage → W → Except EventBusError ConsumerHandlerStatus × W)

def inbox_row (message : KafkaConsumerMessage) : InboxRow where
  event_id := message.event.event_id
  consumer_group
  source := message.source

/-- A step enters a message that is new to the inbox: the handler has an answer for
it, and the database takes the row. -/
structure Records (answers : ConsumerAnswers) (consumer : Consumer W) (message : KafkaConsumerMessage) :
    Prop where
  recv : answers.recv = none
  taken : partition.message consumer.position = .ok message
  inbox_read : answers.inbox_read = none
  fresh : event_inbox_processed consumer.inbox consumer_group message.event message.source = false
  answered : ∃ status, (handler message consumer.world).1 = .ok status
  inbox_write : answers.inbox_write = none

variable {partition consumer_group handler} {answers : ConsumerAnswers} {consumer : Consumer W}
  {message : KafkaConsumerMessage}

theorem event_inbox_processed_iff {inbox : List InboxRow} {event : CommonEvent} {source : EventSourceOffset} :
    event_inbox_processed inbox consumer_group event source = true ↔
      ∃ row ∈ inbox, row.consumer_group = consumer_group ∧
        (row.event_id = event.event_id ∨ row.source = source) := by
  simp only [event_inbox_processed, List.any_eq_true, Bool.and_eq_true, Bool.or_eq_true, decide_eq_true_eq]

/-- A new message gets a row beside those that are there. -/
theorem marked_inbox_fresh {inbox : List InboxRow}
    (hfresh : event_inbox_processed inbox consumer_group message.event message.source = false) :
    marked_inbox consumer_group inbox message none =
      .ok (inbox ++ [inbox_row consumer_group message]) := by
  have hall : ∀ row ∈ inbox, row.consumer_group = consumer_group →
      row.event_id ≠ message.event.event_id ∧ row.source ≠ message.source := by
    intro row hmem hgroup
    have hnot : ¬ event_inbox_processed inbox consumer_group message.event message.source = true := by
      rw [hfresh]
      decide
    exact ⟨fun h => hnot (event_inbox_processed_iff.mpr ⟨row, hmem, hgroup, Or.inl h⟩),
      fun h => hnot (event_inbox_processed_iff.mpr ⟨row, hmem, hgroup, Or.inr h⟩)⟩
  have hothers : (inbox.filter fun row =>
      !(row.consumer_group = consumer_group && row.event_id = message.event.event_id)) = inbox := by
    refine List.filter_eq_self.mpr fun row hmem => ?_
    by_cases hgroup : row.consumer_group = consumer_group
    · rw [decide_eq_false (hall row hmem hgroup).1, Bool.and_false]
      rfl
    · rw [decide_eq_false hgroup]
      rfl
  have hindex : (inbox.any fun row => row.consumer_group = consumer_group && row.source = message.source) =
      false := by
    refine List.any_eq_false.mpr fun row hmem h => ?_
    rw [Bool.and_eq_true, decide_eq_true_eq, decide_eq_true_eq] at h
    exact (hall row hmem h.1).2 h.2
  rw [marked_inbox, hfresh]
  simp only [mark_event_inbox_processed, hothers, hindex]
  rfl

theorem Records.consume_inbox (h : Records partition consumer_group handler answers consumer message) :
    (consume_one_message_with_inbox partition consumer_group handler answers consumer).2.inbox =
      consumer.inbox ++ [inbox_row consumer_group message] := by
  obtain ⟨status, hstatus⟩ := h.answered
  have hhandled : handled consumer_group handler consumer.inbox message consumer.world =
      handler message consumer.world := by
    rw [handled, h.fresh]
    rfl
  have hcommit : ConsumerCommitDecision.from_handler_result (handler message consumer.world).1 = .Commit :=
    from_handler_result_eq_commit_iff.mpr ⟨status, hstatus⟩
  rw [consume_one_message_with_inbox, h.recv]
  dsimp only
  rw [h.taken]
  dsimp only
  rw [h.inbox_read]
  dsimp only
  rw [hhandled, hcommit, h.inbox_write, marked_inbox_fresh h.fresh]
  dsimp only
  cases answers.commit <;> rfl

/-- Every other step leaves the inbox alone. -/
theorem consume_inbox_eq (h : ∀ message, ¬ Records partition consumer_group handler answers consumer message) :
    (consume_one_message_with_inbox partition consumer_group handler answers consumer).2.inbox =
      consumer.inbox := by
  unfold consume_one_message_with_inbox
  cases hrecv : answers.recv with
  | some err => rfl
  | none =>
    dsimp only
    cases hmessage : partition.message consumer.position with
    | error err => rfl
    | ok message =>
      dsimp only
      cases hread : answers.inbox_read with
      | some err => rfl
      | none =>
        dsimp only
        cases hprocessed : event_inbox_processed consumer.inbox consumer_group message.event message.source with
        | true =>
          have hmarked : marked_inbox consumer_group consumer.inbox message answers.inbox_write =
              .ok consumer.inbox := if_pos hprocessed
          rw [handled, if_pos hprocessed, hmarked]
          dsimp only [ConsumerCommitDecision.from_handler_result]
          cases answers.commit <;> rfl
        | false =>
          have hhandled : handled consumer_group handler consumer.inbox message consumer.world =
              handler message consumer.world := by
            rw [handled, hprocessed]
            rfl
          rw [hhandled]
          cases hdecision : ConsumerCommitDecision.from_handler_result (handler message consumer.world).1 with
          | DoNotCommit => rfl
          | Commit =>
            dsimp only
            cases hwrite : answers.inbox_write with
            | some err =>
              rw [marked_inbox, hprocessed]
              rfl
            | none =>
              exact absurd ⟨hrecv, hmessage, hread, hprocessed,
                from_handler_result_eq_commit_iff.mp hdecision, hwrite⟩ (h message)

end Records

/-- When a deadletter was replayed, and by whom. Its place in the table stands for
the id that the database draws. -/
structure Replay where
  deadletter_id : Nat
  replayed_at : OffsetDateTime
  replayed_by : String

/-- A worker with its partition, and the publisher that fills the partition from
the outbox. -/
structure Cluster where
  service : AppState
  consumer_group : String
  topic : String
  partition : Int
  decode_event_from_kafka : List UInt8 → Except String CommonEvent
  kafka : KafkaEventBus
  publisher_id : String

/-- The log of the partition, the worker's consumer with the inbox and the
deadletters, the outbox, and which deadletters were replayed. -/
structure ClusterState where
  log : List (List UInt8) := []
  consumer : Consumer WorkerWorld
  event_outbox : Outbox := ∅
  replayed : List Replay := []

def ClusterState.start (inner : StoreInner) : ClusterState where
  consumer := { position := 0, committed := 0, inbox := [], world := { inner, deadletters := [] } }

def ClusterState.world (self : ClusterState) : DrainWorld where
  inner := self.consumer.world.inner
  tables := { event_outbox := self.event_outbox, kafka_deadletters := self.consumer.world.deadletters }

inductive ClusterOp where
  /-- Another producer writes to the partition. -/
  | append (payload : List UInt8)
  /-- The snapshot of a store with this event is persisted. -/
  | enqueue (now : OffsetDateTime) (event : CommonEvent)
  | drain (round : DrainRound PublishAnswers)
  | consume (answers : ConsumerAnswers) (handler : HandlerAnswers)
  | restart
  | replay (now : OffsetDateTime) (deadletter_id : Nat) (replayed_by : String) (refused : Option String)

namespace Cluster

variable (cluster : Cluster)

def partition_of (log : List (List UInt8)) : Partition where
  topic := cluster.topic
  partition := cluster.partition
  log offset := log[offset]?
  decode_event_from_kafka := cluster.decode_event_from_kafka

/-- The message that publishing a record adds to the partition. -/
def delivered (round : DrainRound PublishAnswers) (record : OutboxRecord) : Option (List UInt8) :=
  match record.payload_json, (round.answers record.event_id).publish with
  | .ok event, .ok ack =>
    if record.topic = cluster.topic ∧ ack.1 = cluster.partition then
      (encode_event_for_kafka cluster.kafka event).toOption
    else none
  | _, _ => none

def publisher : Drainer PublishAnswers :=
  outbox_publisher cluster.kafka cluster.publisher_id

/-- A deadletter that was not replayed yet goes back to the outbox. -/
def replay_kafka_deadletter (now : OffsetDateTime) (deadletter_id : Nat) (replayed_by : String)
    (refused : Option String) (state : ClusterState) : Except String (Option String) × ClusterState :=
  match refused with
  | some err => (.error err, state)
  | none =>
    if state.replayed.any fun replay => replay.deadletter_id = deadletter_id then (.ok none, state)
    else match state.consumer.world.deadletters[deadletter_id]? with
      | none => (.ok none, state)
      | some row => (.ok (some row.event.event_id), { state with
          event_outbox :=
            (enqueue_replayed_event cluster.kafka.config row.event).execute now state.event_outbox
          replayed := state.replayed ++ [{ deadletter_id, replayed_at := now, replayed_by }] })

def apply (state : ClusterState) : ClusterOp → ClusterState
  | .append payload => { state with log := state.log ++ [payload] }
  | .enqueue now event => { state with
      event_outbox := (enqueue_outbox_event cluster.kafka.config event).execute now state.event_outbox }
  | .drain round =>
    let tables := (cluster.publisher.round state.world round).tables
    { state with
      log := state.log ++
        (cluster.publisher.claim state.world round).1.filterMap (cluster.delivered round)
      event_outbox := tables.event_outbox
      consumer := { state.consumer with
        world := { state.consumer.world with deadletters := tables.kafka_deadletters } } }
  | .consume answers handler => { state with
      consumer := (consume_one_message_with_inbox (cluster.partition_of state.log) cluster.consumer_group
        (handle_message cluster.service handler) answers state.consumer).2 }
  | .restart => { state with consumer := { state.consumer with position := state.consumer.committed } }
  | .replay now deadletter_id replayed_by refused =>
    (cluster.replay_kafka_deadletter now deadletter_id replayed_by refused state).2

def run (ops : List ClusterOp) (state : ClusterState) : ClusterState :=
  ops.foldl cluster.apply state

/-- The inbox of the worker knows the event. -/
def Known (event_id : String) (state : ClusterState) : Prop :=
  ∃ row ∈ state.consumer.inbox, row.consumer_group = cluster.consumer_group ∧ row.event_id = event_id

/-- A step enters the event in the inbox of the worker. -/
def RecordsEvent (event_id : String) (state : ClusterState) (op : ClusterOp) : Prop :=
  ∃ answers handler message, op = .consume answers handler ∧ message.event.event_id = event_id ∧
    Records (cluster.partition_of state.log) cluster.consumer_group (handle_message cluster.service handler)
      answers state.consumer message

variable {cluster} {state : ClusterState} {op : ClusterOp} {event_id : String}

theorem apply_inbox_eq (h : ∀ answers handler, op ≠ .consume answers handler) :
    (cluster.apply state op).consumer.inbox = state.consumer.inbox := by
  cases op with
  | append payload => rfl
  | enqueue now event => rfl
  | drain round => rfl
  | consume answers handler => exact absurd rfl (h answers handler)
  | restart => rfl
  | replay now deadletter_id replayed_by refused =>
    simp only [apply, replay_kafka_deadletter]
    split
    · rfl
    · split
      · rfl
      · split <;> rfl

theorem known_apply_iff : cluster.Known event_id (cluster.apply state op) ↔
    cluster.Known event_id state ∨ cluster.RecordsEvent event_id state op := by
  by_cases hconsume : ∃ answers handler, op = .consume answers handler
  · obtain ⟨answers, handler, rfl⟩ := hconsume
    by_cases hrecords : ∃ message, Records (cluster.partition_of state.log) cluster.consumer_group
        (handle_message cluster.service handler) answers state.consumer message
    · obtain ⟨message, hrecords⟩ := hrecords
      have hinbox : (cluster.apply state (.consume answers handler)).consumer.inbox =
          state.consumer.inbox ++ [inbox_row cluster.consumer_group message] := hrecords.consume_inbox
      constructor
      · rintro ⟨row, hrow, hgroup, hid⟩
        rw [hinbox] at hrow
        rcases List.mem_append.mp hrow with hold | hnew
        · exact Or.inl ⟨row, hold, hgroup, hid⟩
        · rw [List.mem_singleton.mp hnew] at hid
          exact Or.inr ⟨answers, handler, message, rfl, hid, hrecords⟩
      · rintro (⟨row, hrow, hgroup, hid⟩ | ⟨_, _, message', heq, hid, hrecords'⟩)
        · exact ⟨row, hinbox ▸ List.mem_append_left _ hrow, hgroup, hid⟩
        · cases heq
          cases hrecords.taken.symm.trans hrecords'.taken
          exact ⟨_, hinbox ▸ List.mem_append_right _ List.mem_cons_self, rfl, hid⟩
    · have hsame : (cluster.apply state (.consume answers handler)).consumer.inbox = state.consumer.inbox :=
        consume_inbox_eq fun message hmessage => hrecords ⟨message, hmessage⟩
      rw [Known, hsame]
      refine (or_iff_left ?_).symm
      rintro ⟨_, _, message, heq, -, hmessage⟩
      cases heq
      exact hrecords ⟨message, hmessage⟩
  · have hnot : ∀ answers handler, op ≠ .consume answers handler :=
      fun answers handler heq => hconsume ⟨answers, handler, heq⟩
    rw [Known, apply_inbox_eq hnot]
    refine (or_iff_left ?_).symm
    rintro ⟨answers, handler, -, heq, -⟩
    exact hnot answers handler heq

/-- The inbox knows what it knew, and what a step on the way entered. -/
theorem known_run_iff (ops : List ClusterOp) : cluster.Known event_id (cluster.run ops state) ↔
    cluster.Known event_id state ∨
      ∃ before op after, ops = before ++ op :: after ∧
        cluster.RecordsEvent event_id (cluster.run before state) op := by
  induction ops generalizing state with
  | nil =>
    refine (or_iff_left ?_).symm
    rintro ⟨before, op, after, heq, -⟩
    exact absurd heq.symm (List.append_ne_nil_of_right_ne_nil _ (List.cons_ne_nil _ _))
  | cons first ops ih =>
    refine ih.trans ?_
    rw [known_apply_iff, or_assoc]
    refine or_congr_right ?_
    constructor
    · rintro (hfirst | ⟨before, op, after, rfl, hrecords⟩)
      · exact ⟨[], first, ops, rfl, hfirst⟩
      · exact ⟨first :: before, op, after, rfl, hrecords⟩
    · rintro ⟨before, op, after, heq, hrecords⟩
      cases before with
      | nil =>
        obtain ⟨rfl, rfl⟩ := List.cons.inj heq
        exact Or.inl hrecords
      | cons _ before =>
        obtain ⟨rfl, rfl⟩ := List.cons.inj heq
        exact Or.inr ⟨before, op, after, rfl, hrecords⟩

/-- The log only grows. -/
theorem apply_log (state : ClusterState) (op : ClusterOp) :
    ∃ added, (cluster.apply state op).log = state.log ++ added := by
  cases op with
  | append payload => exact ⟨[payload], rfl⟩
  | drain round => exact ⟨_, rfl⟩
  | replay now deadletter_id replayed_by refused =>
    refine ⟨[], (List.append_nil _).symm ▸ ?_⟩
    simp only [apply, replay_kafka_deadletter]
    split
    · rfl
    · split
      · rfl
      · split <;> rfl
  | enqueue now event => exact ⟨[], (List.append_nil _).symm⟩
  | consume answers handler => exact ⟨[], (List.append_nil _).symm⟩
  | restart => exact ⟨[], (List.append_nil _).symm⟩

/-- Each row of the inbox is of the event that the log has at its offset. -/
def Sourced (cluster : Cluster) (state : ClusterState) : Prop :=
  ∀ row ∈ state.consumer.inbox, ∃ message,
    (cluster.partition_of state.log).message row.source.offset = .ok message ∧
      message.event.event_id = row.event_id

theorem message_mono {log added : List (List UInt8)} {offset : Nat} {message : KafkaConsumerMessage}
    (h : (cluster.partition_of log).message offset = .ok message) :
    (cluster.partition_of (log ++ added)).message offset = .ok message := by
  have hpayload : (cluster.partition_of (log ++ added)).log offset = (cluster.partition_of log).log offset := by
    refine List.getElem?_append_left ?_
    by_contra hnone
    have hlog : (cluster.partition_of log).log offset = none := List.getElem?_eq_none (not_lt.mp hnone)
    rw [Partition.message, hlog] at h
    cases h
  rw [Partition.message, hpayload]
  exact h

theorem Sourced.apply (h : cluster.Sourced state) (op : ClusterOp) : cluster.Sourced (cluster.apply state op) := by
  have hold : ∀ row ∈ state.consumer.inbox, ∃ message,
      (cluster.partition_of (cluster.apply state op).log).message row.source.offset = .ok message ∧
        message.event.event_id = row.event_id := by
    intro row hrow
    obtain ⟨message, hmessage, hid⟩ := h row hrow
    obtain ⟨added, hlog⟩ := cluster.apply_log state op
    exact ⟨message, hlog ▸ message_mono hmessage, hid⟩
  intro row hrow
  by_cases hconsume : ∃ answers handler, op = .consume answers handler
  · obtain ⟨answers, handler, rfl⟩ := hconsume
    by_cases hrecords : ∃ message, Records (cluster.partition_of state.log) cluster.consumer_group
        (handle_message cluster.service handler) answers state.consumer message
    · obtain ⟨message, hrecords⟩ := hrecords
      have hinbox : (cluster.apply state (.consume answers handler)).consumer.inbox =
          state.consumer.inbox ++ [inbox_row cluster.consumer_group message] := hrecords.consume_inbox
      rw [hinbox] at hrow
      rcases List.mem_append.mp hrow with hmem | hnew
      · exact hold row hmem
      · rw [List.mem_singleton.mp hnew]
        refine ⟨message, ?_, rfl⟩
        change (cluster.partition_of state.log).message message.source.offset = .ok message
        rw [Partition.message_offset _ hrecords.taken]
        exact hrecords.taken
    · have hsame : (cluster.apply state (.consume answers handler)).consumer.inbox = state.consumer.inbox :=
        consume_inbox_eq fun message hmessage => hrecords ⟨message, hmessage⟩
      exact hold row (hsame ▸ hrow)
  · rw [apply_inbox_eq fun answers handler heq => hconsume ⟨answers, handler, heq⟩] at hrow
    exact hold row hrow

theorem Sourced.run (h : cluster.Sourced state) (ops : List ClusterOp) :
    cluster.Sourced (cluster.run ops state) := by
  induction ops generalizing state with
  | nil => exact h
  | cons op ops ih => exact ih (h.apply op)

/-- For a message of the log, the inbox has to know its event: an offset is entered
with the event that is there. -/
theorem processed_iff_known (h : cluster.Sourced state) {offset : Nat} {message : KafkaConsumerMessage}
    (hmessage : (cluster.partition_of state.log).message offset = .ok message) :
    event_inbox_processed state.consumer.inbox cluster.consumer_group message.event message.source = true ↔
      cluster.Known message.event.event_id state := by
  refine event_inbox_processed_iff.trans ?_
  constructor
  · rintro ⟨row, hrow, hgroup, hid | hsource⟩
    · exact ⟨row, hrow, hgroup, hid⟩
    · obtain ⟨stored, hstored, hid⟩ := h row hrow
      rw [hsource, Partition.message_offset _ hmessage, hmessage] at hstored
      cases hstored
      exact ⟨row, hrow, hgroup, hid.symm⟩
  · rintro ⟨row, hrow, hgroup, hid⟩
    exact ⟨row, hrow, hgroup, Or.inl hid⟩

end Cluster

/-- A deadletter that is replayed: the worker stores the event as a deadletter
because its handler fails, some time later the deadletter is replayed, the publisher
publishes the row of the event, and the worker comes to the new message. -/
structure ReplayHistory (cluster : Cluster) (inner : StoreInner) where
  before : List ClusterOp
  answers : ConsumerAnswers
  handler : HandlerAnswers
  between : List ClusterOp
  replayed_at : OffsetDateTime
  deadletter_id : Nat
  replayed_by : String
  waiting : List ClusterOp
  round : DrainRound PublishAnswers
  after : List ClusterOp
  event : CommonEvent
  bytes : List UInt8

namespace ReplayHistory

variable {cluster : Cluster} {inner : StoreInner} (history : ReplayHistory cluster inner)

/-- The state in which the worker takes the event for the first time. -/
def at_failure : ClusterState :=
  cluster.run history.before (.start inner)

def failure : ClusterOp :=
  .consume history.answers history.handler

def replay : ClusterOp :=
  .replay history.replayed_at history.deadletter_id history.replayed_by none

def at_replay : ClusterState :=
  cluster.run (history.failure :: history.between) history.at_failure

def replayed : ClusterState :=
  cluster.apply history.at_replay history.replay

def at_publish : ClusterState :=
  cluster.run history.waiting history.replayed

/-- What happens from the failure up to the second time. -/
def ops : List ClusterOp :=
  history.failure :: history.between ++ history.replay :: history.waiting ++ .drain history.round :: history.after

def at_return : ClusterState :=
  cluster.run history.ops history.at_failure

/-- The steps do what the history says of them. -/
structure Happens : Prop where
  deadlettered : ∃ source,
    (cluster.partition_of history.at_failure.log).message history.at_failure.consumer.position =
      .ok { event := history.event, source } ∧
    outcome (cluster.partition_of history.at_failure.log) cluster.consumer_group
      (handle_message cluster.service history.handler) history.answers history.at_failure.consumer =
        some .DeadLettered
  replayed : (cluster.replay_kafka_deadletter history.replayed_at history.deadletter_id history.replayed_by none
    history.at_replay).1 = .ok (some history.event.event_id)
  deadletter : ∃ row, history.at_replay.consumer.world.deadletters[history.deadletter_id]? = some row ∧
    row.event = history.event
  encoded : encode_event_for_kafka cluster.kafka history.event = .ok history.bytes
  decoded : cluster.decode_event_from_kafka history.bytes = .ok history.event
  published : ∃ record ∈ (cluster.publisher.claim history.at_publish.world history.round).1,
    record.payload_json = .ok history.event ∧ cluster.delivered history.round record = some history.bytes
  returned : history.at_publish.log.length ≤ history.at_return.consumer.position ∧
    history.at_return.log[history.at_return.consumer.position]? = some history.bytes

/-- The message of the event where the worker comes to it for the second time. -/
def message : KafkaConsumerMessage where
  event := history.event
  source := { topic := cluster.topic, partition := cluster.partition, offset := history.at_return.consumer.position }

/-- The outbox of an event that is new. -/
def fresh : DrainWorld where
  tables := { event_outbox :=
    (enqueue_outbox_event cluster.kafka.config history.event).execute history.replayed_at ∅ }

/-- The replay takes effect: the worker hands the event to its handler, and where
the broker refuses it, it is tried as often as a new one. -/
structure TakesEffect : Prop where
  handled : event_inbox_processed history.at_return.consumer.inbox cluster.consumer_group history.message.event
    history.message.source = false
  retried : ∀ attempts,
    DeadletteredWith cluster.kafka cluster.publisher_id history.event.event_id attempts history.replayed.world ↔
    DeadletteredWith cluster.kafka cluster.publisher_id history.event.event_id attempts history.fresh

/-- No step from the failure on enters the event in the inbox. -/
def Unrecorded : Prop :=
  ∀ before op after, history.ops = before ++ op :: after →
    ¬ cluster.RecordsEvent history.event.event_id (cluster.run before history.at_failure) op

/-- The attempts that the event had cost when it was replayed. -/
def attempts_made : Nat :=
  ((history.at_replay.event_outbox.lookup history.event.event_id).map OutboxRow.attempt_count).getD 0

variable {history}

/-- When the handler fails for it, the inbox does not know the event. -/
theorem Happens.unknown (h : history.Happens) : ¬ cluster.Known history.event.event_id history.at_failure := by
  rintro ⟨row, hrow, hgroup, hid⟩
  obtain ⟨source, hmessage, houtcome⟩ := h.deadlettered
  have hprocessed : event_inbox_processed history.at_failure.consumer.inbox cluster.consumer_group history.event
      source = true := event_inbox_processed_iff.mpr ⟨row, hrow, hgroup, Or.inl hid⟩
  unfold outcome at houtcome
  split at houtcome
  · next message _ hmessage' _ =>
    cases hmessage.symm.trans hmessage'
    rw [handled, if_pos hprocessed] at houtcome
    cases houtcome
  · cases houtcome

theorem Happens.returned_message (h : history.Happens) :
    (cluster.partition_of history.at_return.log).message history.at_return.consumer.position =
      .ok history.message := by
  have hlog : (cluster.partition_of history.at_return.log).log history.at_return.consumer.position =
      some history.bytes := h.returned.2
  have hdecoded : (cluster.partition_of history.at_return.log).decode_event_from_kafka history.bytes =
      .ok history.event := h.decoded
  rw [Partition.message, hlog]
  dsimp only
  rw [hdecoded]
  rfl

/-- The worker hands the event to its handler again exactly if nothing entered it
in the inbox before. -/
theorem Happens.handled_iff (h : history.Happens) :
    event_inbox_processed history.at_return.consumer.inbox cluster.consumer_group history.message.event
      history.message.source = false ↔ history.Unrecorded := by
  have hstart : cluster.Sourced (.start inner) := fun row hrow => nomatch hrow
  have hsourced : cluster.Sourced history.at_return := (hstart.run history.before).run history.ops
  rw [← Bool.not_eq_true, Cluster.processed_iff_known hsourced h.returned_message]
  have hknown : cluster.Known history.event.event_id history.at_return ↔ _ :=
    Cluster.known_run_iff history.ops
  rw [or_iff_right h.unknown] at hknown
  refine (not_congr hknown).trans ?_
  constructor
  · intro hnone before op after heq hrecords
    exact hnone ⟨before, op, after, heq, hrecords⟩
  · rintro hunrecorded ⟨before, op, after, heq, hrecords⟩
    exact hunrecorded before op after heq hrecords

/-- The replay queues the event with the counter that its row had. -/
theorem Happens.replayed_row (h : history.Happens) :
    ∃ row, history.replayed.event_outbox.lookup history.event.event_id = some row ∧
      row.payload_json = .ok history.event ∧ row.status = .queued ∧ row.attempt_count = history.attempts_made := by
  obtain ⟨row, hrow, hevent⟩ := h.deadletter
  have hreplayed := h.replayed
  have hstate : history.replayed.event_outbox =
      (enqueue_replayed_event cluster.kafka.config history.event).execute history.replayed_at
        history.at_replay.event_outbox := by
    change (cluster.replay_kafka_deadletter history.replayed_at history.deadletter_id history.replayed_by none
      history.at_replay).2.event_outbox = _
    unfold Cluster.replay_kafka_deadletter at hreplayed ⊢
    dsimp only at hreplayed ⊢
    split at hreplayed
    · cases hreplayed
    · next hnew =>
      rw [if_neg hnew, hrow, ← hevent]
  refine ⟨(enqueue_replayed_event cluster.kafka.config history.event).row history.replayed_at
    (history.at_replay.event_outbox.lookup history.event.event_id), ?_, ?_, ?_, ?_⟩
  · rw [hstate, sql.Upsert.lookup_execute]
    exact if_pos rfl
  · cases history.at_replay.event_outbox.lookup history.event.event_id <;> rfl
  · cases history.at_replay.event_outbox.lookup history.event.event_id <;> rfl
  · unfold attempts_made
    cases history.at_replay.event_outbox.lookup history.event.event_id <;> rfl

/-- The replayed event is tried as often as a new one exactly if it had not cost an
attempt, or if there is only one in any case. -/
theorem Happens.retried_iff (h : history.Happens) :
    (∀ attempts,
      DeadletteredWith cluster.kafka cluster.publisher_id history.event.event_id attempts history.replayed.world ↔
      DeadletteredWith cluster.kafka cluster.publisher_id history.event.event_id attempts history.fresh) ↔
    history.attempts_made = 0 ∨ cluster.kafka.config.retry_max_attempts ≤ 1 := by
  obtain ⟨row, hrow, hpayload, hstatus, hcount⟩ := h.replayed_row
  have hterminal : row.terminal = false := by
    rw [OutboxRow.terminal, hstatus]
    rfl
  have hlocked : row.Locked := by
    intro hpublishing
    rw [hstatus] at hpublishing
    cases hpublishing
  have hfresh : history.fresh.tables.event_outbox.lookup history.event.event_id =
      some (queued_row history.event (topic_for_event cluster.kafka.config history.event.event_type)
        (partition_key history.event) history.replayed_at) := by
    change ((enqueue_outbox_event cluster.kafka.config history.event).execute history.replayed_at ∅).lookup _ = _
    rw [sql.Upsert.lookup_execute]
    exact if_pos rfl
  have hleft : attempts_left cluster.kafka row = attempts_left cluster.kafka
      (queued_row history.event (topic_for_event cluster.kafka.config history.event.event_type)
        (partition_key history.event) history.replayed_at) ↔
      history.attempts_made = 0 ∨ cluster.kafka.config.retry_max_attempts ≤ 1 := by
    unfold attempts_left
    rw [hcount]
    change max 1 _ = max 1 (_ - 0) ↔ _
    omega
  rw [← hleft]
  have hreplayed : ∀ attempts, DeadletteredWith cluster.kafka cluster.publisher_id history.event.event_id
      attempts history.replayed.world ↔ _ :=
    deadlettered_with_iff hrow hpayload h.encoded hterminal hlocked
  have hnew : ∀ attempts, DeadletteredWith cluster.kafka cluster.publisher_id history.event.event_id attempts
      history.fresh ↔ _ := deadlettered_with_iff hfresh rfl h.encoded rfl fun hpublishing => by cases hpublishing
  constructor
  · intro hsame
    exact (hnew _).mp ((hsame _).mp ((hreplayed _).mpr rfl))
  · intro heq attempts
    rw [hreplayed, hnew, heq]

end ReplayHistory

/-- A replay takes effect exactly if the failure was not entered in the inbox and the
event starts with a counter of zero, or has one attempt only. -/
theorem replay_takes_effect_iff (cluster : Cluster) (inner : StoreInner) (history : ReplayHistory cluster inner)
    (h : history.Happens) :
    history.TakesEffect ↔
      history.Unrecorded ∧ (history.attempts_made = 0 ∨ cluster.kafka.config.retry_max_attempts ≤ 1) := by
  constructor
  · intro heffect
    exact ⟨h.handled_iff.mp heffect.handled, h.retried_iff.mp heffect.retried⟩
  · rintro ⟨hunrecorded, hattempts⟩
    exact ⟨h.handled_iff.mpr hunrecorded, h.retried_iff.mpr hattempts⟩

namespace sample

open rustzap.state.sample rustzap.db.sample

def cluster : Cluster where
  service
  consumer_group := "rustzap-main.raw-inbound"
  topic := "rustzap.raw.inbound"
  partition := 0
  decode_event_from_kafka _ := .ok raw_event
  kafka := db.sample.kafka
  publisher_id := "rustzap-outbox-a"

/-- The publisher's round in which the broker answers with this offset. -/
def published (second offset : Int) : DrainRound PublishAnswers where
  claimed_at := Duration.seconds second
  row_locked _ := false
  answers _ :=
    { now := Duration.seconds second, publish := .ok (0, offset), mark := none, insert_deadletter := none }

/-- The handler cannot read the payload of the raw event. -/
def unreadable : HandlerAnswers where
  ctx := ctx 2 "w"
  raw_envelope := .error "missing field runtime"
  event := answers
  dispatch := { reconciled := false, connected := false, bytes := .ok [], send := .timed_out }
  transcription := { bytes := .ok [], result := .error "", ctx := ctx 2 "t" }
  insert_deadletter := none

/-- The event comes from the outbox, fails, and is replayed. -/
def history : ReplayHistory cluster {} where
  before := [.enqueue 0 raw_event, .drain (published 1 0)]
  answers := { recv := none, inbox_read := none, inbox_write := none, commit := none }
  handler := unreadable
  between := []
  replayed_at := Duration.seconds 60
  deadletter_id := 0
  replayed_by := "key_admin"
  waiting := []
  round := published 61 1
  after := []
  event := raw_event
  bytes := written raw_event

/-- The event comes from elsewhere, and the database does not take the row of the
inbox. -/
def unrecorded_history : ReplayHistory cluster {} where
  before := [.append (written raw_event)]
  answers := { recv := none, inbox_read := none, inbox_write := some "connection reset", commit := none }
  handler := unreadable
  between := []
  replayed_at := Duration.seconds 60
  deadletter_id := 0
  replayed_by := "key_admin"
  waiting := []
  round := published 61 1
  after := []
  event := raw_event
  bytes := written raw_event

theorem history_happens : history.Happens where
  deadlettered := ⟨_, rfl, by decide⟩
  replayed := rfl
  deadletter := ⟨_, rfl, rfl⟩
  encoded := rfl
  decoded := rfl
  published := ⟨_, List.mem_singleton.mpr rfl, rfl, rfl⟩
  returned := ⟨by decide, rfl⟩

theorem unrecorded_history_happens : unrecorded_history.Happens where
  deadlettered := ⟨_, rfl, by decide⟩
  replayed := rfl
  deadletter := ⟨_, rfl, rfl⟩
  encoded := rfl
  decoded := rfl
  published := ⟨_, List.mem_singleton.mpr rfl, rfl, rfl⟩
  returned := ⟨by decide, rfl⟩

end sample

/-- Where the row of the inbox got lost, the replay reaches the handler. -/
theorem unrecorded_failure_replayed : sample.unrecorded_history.TakesEffect := by
  refine (replay_takes_effect_iff sample.cluster {} sample.unrecorded_history
    sample.unrecorded_history_happens).mpr ⟨?_, Or.inl (by decide)⟩
  rintro before op after heq ⟨answers, handler, message, rfl, -, hrecords⟩
  have hmem : ClusterOp.consume answers handler ∈ sample.unrecorded_history.ops := by
    rw [heq]
    exact List.mem_append_right _ List.mem_cons_self
  have hops : sample.unrecorded_history.ops =
      [sample.unrecorded_history.failure, sample.unrecorded_history.replay,
        .drain sample.unrecorded_history.round] := rfl
  rw [hops, List.mem_cons, List.mem_cons, List.mem_singleton] at hmem
  rcases hmem with hfailure | hreplay | hdrain
  · cases hfailure
    cases hrecords.inbox_write
  · cases hreplay
  · cases hdrain

/-- The inbox knows an event that was deadlettered, so its replay is skipped. -/
theorem replayed_event_skipped :
    ¬ ∀ (cluster : Cluster) (inner : StoreInner) (history : ReplayHistory cluster inner),
      history.Happens → history.TakesEffect := by
  intro hclaim
  have heffect := hclaim sample.cluster {} sample.history sample.history_happens
  have hprocessed : event_inbox_processed sample.history.at_return.consumer.inbox sample.cluster.consumer_group
      sample.history.message.event sample.history.message.source = true := by decide
  exact absurd (heffect.handled.symm.trans hprocessed) (by decide)

end rustzap.workers
