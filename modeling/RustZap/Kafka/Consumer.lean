import RustZap.Models

open rustzap.models

namespace rustzap.eventbus

/-- The errors that a consumer can run into, out of those of the event bus. -/
inductive EventBusError where
  | Codec (message : String)
  | Kafka (message : String)
  deriving DecidableEq

structure EventSourceOffset where
  topic : String
  partition : Int
  offset : Nat
  deriving DecidableEq

structure KafkaConsumerMessage where
  event : CommonEvent
  source : EventSourceOffset

inductive ConsumerHandlerStatus where
  | Processed
  | Duplicate
  | Retried
  | DeadLettered
  deriving DecidableEq

inductive ConsumerCommitDecision where
  | Commit
  | DoNotCommit
  deriving DecidableEq

def ConsumerCommitDecision.from_handler_result :
    Except EventBusError ConsumerHandlerStatus → ConsumerCommitDecision
  | .ok .Processed | .ok .Duplicate | .ok .Retried | .ok .DeadLettered => .Commit
  | .error _ => .DoNotCommit

theorem from_handler_result_eq_commit_iff {result : Except EventBusError ConsumerHandlerStatus} :
    ConsumerCommitDecision.from_handler_result result = .Commit ↔ ∃ status, result = .ok status := by
  cases result with
  | error err => simp [ConsumerCommitDecision.from_handler_result]
  | ok status => cases status <;> simp [ConsumerCommitDecision.from_handler_result]

def partition_key (event : CommonEvent) : String :=
  match event.conversation_id, event.channel_id with
  | some conversation_id, _ => event.project_id ++ ":" ++ event.company_id ++ ":" ++ conversation_id
  | none, some channel_id => event.project_id ++ ":" ++ event.company_id ++ ":" ++ channel_id
  | none, none => event.project_id ++ ":" ++ event.company_id

/-- A row of the table `event_inbox`. -/
structure InboxRow where
  event_id : String
  consumer_group : String
  source : EventSourceOffset
  deriving DecidableEq

def event_inbox_processed (inbox : List InboxRow) (consumer_group : String) (event : CommonEvent)
    (source : EventSourceOffset) : Bool :=
  inbox.any fun row =>
    row.consumer_group = consumer_group && (row.event_id = event.event_id || row.source = source)

/-- The insertion of a row. A row of the same event is replaced; the other unique
index, on the offsets, refuses a second event for one offset. -/
def mark_event_inbox_processed (inbox : List InboxRow) (consumer_group : String) (event : CommonEvent)
    (source : EventSourceOffset) : Except String (List InboxRow) :=
  let others := inbox.filter fun row =>
    !(row.consumer_group = consumer_group && row.event_id = event.event_id)
  if others.any fun row => row.consumer_group = consumer_group && row.source = source then
    .error "failed to mark Kafka inbox event processed"
  else .ok (others ++ [{ event_id := event.event_id, consumer_group, source }])

/-- A partition of a topic. `serde_json` reads its records. -/
structure Partition where
  topic : String
  partition : Int
  log : Nat → Option (List UInt8)
  decode_event_from_kafka : List UInt8 → Except String CommonEvent

/-- How the calls to the broker and to the database come back. `none` is a
success. -/
structure ConsumerAnswers where
  recv : Option String
  inbox_read : Option String
  inbox_write : Option String
  commit : Option String
  deriving DecidableEq

/-- A consumer of a partition, with the inbox and whatever its handler works
on. -/
structure Consumer (W : Type) where
  position : Nat
  committed : Nat
  inbox : List InboxRow
  world : W

section Consume

variable {W : Type} (partition : Partition) (consumer_group : String)
  (handler : KafkaConsumerMessage → W → Except EventBusError ConsumerHandlerStatus × W)

/-- The record at an offset, decoded. -/
def Partition.message (offset : Nat) : Except EventBusError KafkaConsumerMessage :=
  match partition.log offset with
  | none => .error (.Kafka "Kafka message payload missing")
  | some payload =>
    match partition.decode_event_from_kafka payload with
    | .error err => .error (.Codec err)
    | .ok event =>
      .ok { event, source := { topic := partition.topic, partition := partition.partition, offset } }

theorem Partition.message_offset {offset : Nat} {message : KafkaConsumerMessage}
    (h : partition.message offset = .ok message) : message.source.offset = offset := by
  unfold Partition.message at h
  cases hlog : partition.log offset with
  | none =>
    rw [hlog] at h
    cases h
  | some payload =>
    rw [hlog] at h
    dsimp only at h
    cases hdecode : partition.decode_event_from_kafka payload with
    | error err =>
      rw [hdecode] at h
      cases h
    | ok event =>
      rw [hdecode] at h
      cases h
      rfl

/-- The handler's result, or `Duplicate` for what the inbox knows already. -/
def handled (inbox : List InboxRow) (message : KafkaConsumerMessage) (world : W) :
    Except EventBusError ConsumerHandlerStatus × W :=
  if event_inbox_processed inbox consumer_group message.event message.source then
    (.ok .Duplicate, world)
  else handler message world

/-- The inbox once the message counts as processed. -/
def marked_inbox (inbox : List InboxRow) (message : KafkaConsumerMessage) (inbox_write : Option String) :
    Except String (List InboxRow) :=
  if event_inbox_processed inbox consumer_group message.event message.source then .ok inbox
  else match inbox_write with
    | some err => .error err
    | none => mark_event_inbox_processed inbox consumer_group message.event message.source

/-- The only row that can be new is that of the message. -/
theorem mem_of_mem_marked_inbox {inbox inbox' : List InboxRow} {message : KafkaConsumerMessage}
    {inbox_write : Option String}
    (h : marked_inbox consumer_group inbox message inbox_write = .ok inbox') {row : InboxRow}
    (hrow : row ∈ inbox') :
    row ∈ inbox ∨ inbox_write = none ∧ row.event_id = message.event.event_id := by
  unfold marked_inbox at h
  split at h
  · cases h
    exact Or.inl hrow
  · cases inbox_write with
    | some err => cases h
    | none =>
      simp only [mark_event_inbox_processed] at h
      split at h
      · cases h
      · cases h
        rcases List.mem_append.mp hrow with hold | hnew
        · exact Or.inl (List.mem_of_mem_filter hold)
        · rw [List.mem_singleton.mp hnew]
          exact Or.inr ⟨rfl, rfl⟩

def consume_one_message_with_inbox (answers : ConsumerAnswers) (self : Consumer W) :
    Except EventBusError ConsumerCommitDecision × Consumer W :=
  match answers.recv with
  | some err => (.error (.Kafka err), self)
  | none =>
    let offset := self.position
    let self := { self with position := offset + 1 }
    match partition.message offset with
    | .error err => (.error err, self)
    | .ok message =>
      match answers.inbox_read with
      | some err => (.error (.Kafka err), self)
      | none =>
        let result := handled consumer_group handler self.inbox message self.world
        let self := { self with world := result.2 }
        match ConsumerCommitDecision.from_handler_result result.1 with
        | .DoNotCommit => (.ok .DoNotCommit, self)
        | .Commit =>
          match marked_inbox consumer_group self.inbox message answers.inbox_write with
          | .error err => (.error (.Kafka err), self)
          | .ok inbox =>
            let self := { self with inbox }
            match answers.commit with
            | some err => (.error (.Kafka err), self)
            | none => (.ok .Commit, { self with committed := offset + 1 })

/-- What became of the message at the consumer's position, where the step came
as far as the handler or the inbox and these had an answer. -/
def outcome (answers : ConsumerAnswers) (self : Consumer W) : Option ConsumerHandlerStatus :=
  match answers.recv, partition.message self.position, answers.inbox_read with
  | none, .ok message, none => (handled consumer_group handler self.inbox message self.world).1.toOption
  | _, _, _ => none

/-- The message at the position is one that the step commits: it is decoded, the
inbox can be read, the handler has an answer or the inbox knows the message, and
both the row and the offset can be written. -/
structure Commits (answers : ConsumerAnswers) (consumer : Consumer W) : Prop where
  recv : answers.recv = none
  inbox_read : answers.inbox_read = none
  answered : ∃ message status inbox, partition.message consumer.position = .ok message ∧
    (handled consumer_group handler consumer.inbox message consumer.world).1 = .ok status ∧
    marked_inbox consumer_group consumer.inbox message answers.inbox_write = .ok inbox
  commit : answers.commit = none

/-- A step either leaves the committed offset alone or commits the message at
its position, which then has an outcome. -/
theorem consume_committed (answers : ConsumerAnswers) (self : Consumer W) :
    (consume_one_message_with_inbox partition consumer_group handler answers self).2.committed =
      self.committed ∨
    Commits partition consumer_group handler answers self ∧
      (consume_one_message_with_inbox partition consumer_group handler answers self).2.committed =
        self.position + 1 := by
  unfold consume_one_message_with_inbox
  cases hrecv : answers.recv with
  | some err => exact Or.inl rfl
  | none =>
    dsimp only
    cases hmessage : partition.message self.position with
    | error err => exact Or.inl rfl
    | ok message =>
      dsimp only
      cases hread : answers.inbox_read with
      | some err => exact Or.inl rfl
      | none =>
        dsimp only
        cases hdecision : ConsumerCommitDecision.from_handler_result
            (handled consumer_group handler self.inbox message self.world).1 with
        | DoNotCommit => exact Or.inl rfl
        | Commit =>
          dsimp only
          cases hmarked : marked_inbox consumer_group self.inbox message answers.inbox_write with
          | error err => exact Or.inl rfl
          | ok inbox =>
            dsimp only
            cases hcommit : answers.commit with
            | some err => exact Or.inl rfl
            | none =>
              obtain ⟨status, hstatus⟩ := from_handler_result_eq_commit_iff.mp hdecision
              exact Or.inr ⟨⟨hrecv, hread, ⟨message, status, inbox, hmessage, hstatus, hmarked⟩, hcommit⟩,
                rfl⟩

/-- A step that reports a commit has committed all that has been taken. -/
theorem consume_commit {answers : ConsumerAnswers} {self : Consumer W}
    (h : (consume_one_message_with_inbox partition consumer_group handler answers self).1 = .ok .Commit) :
    (consume_one_message_with_inbox partition consumer_group handler answers self).2.position =
      (consume_one_message_with_inbox partition consumer_group handler answers self).2.committed := by
  unfold consume_one_message_with_inbox at h ⊢
  dsimp only at h ⊢
  -- every branch but the last one has something else to report
  repeat' split at h
  all_goals cases h
  rfl

/-- A step either comes as far as the handler or the inbox, and then leaves what
these made of the world, or it leaves the world alone. -/
theorem consume_world (answers : ConsumerAnswers) (self : Consumer W) :
    (∃ message, partition.message self.position = .ok message ∧
      outcome partition consumer_group handler answers self =
        (handled consumer_group handler self.inbox message self.world).1.toOption ∧
      (consume_one_message_with_inbox partition consumer_group handler answers self).2.world =
        (handled consumer_group handler self.inbox message self.world).2) ∨
    outcome partition consumer_group handler answers self = none ∧
      (consume_one_message_with_inbox partition consumer_group handler answers self).2.world =
        self.world := by
  unfold consume_one_message_with_inbox outcome
  cases hrecv : answers.recv with
  | some err => exact Or.inr ⟨rfl, rfl⟩
  | none =>
    dsimp only
    cases hmessage : partition.message self.position with
    | error err => exact Or.inr ⟨rfl, rfl⟩
    | ok message =>
      dsimp only
      cases hread : answers.inbox_read with
      | some err => exact Or.inr ⟨rfl, rfl⟩
      | none =>
        refine Or.inl ⟨message, rfl, rfl, ?_⟩
        dsimp only
        cases ConsumerCommitDecision.from_handler_result
            (handled consumer_group handler self.inbox message self.world).1 with
        | DoNotCommit => rfl
        | Commit =>
          dsimp only
          cases marked_inbox consumer_group self.inbox message answers.inbox_write with
          | error err => rfl
          | ok inbox => cases answers.commit <;> rfl

variable {partition consumer_group handler}

theorem Commits.outcome {answers : ConsumerAnswers} {self : Consumer W}
    (h : Commits partition consumer_group handler answers self) :
    ∃ status, outcome partition consumer_group handler answers self = some status := by
  obtain ⟨message, status, inbox, hmessage, hstatus, -⟩ := h.answered
  refine ⟨status, ?_⟩
  rw [eventbus.outcome, h.recv, hmessage, h.inbox_read]
  dsimp only
  rw [hstatus]
  rfl

end Consume

end rustzap.eventbus
