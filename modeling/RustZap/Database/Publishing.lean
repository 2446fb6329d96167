import RustZap.Database.Outbox
import RustZap.Kafka.Workers

open collections serde_json
open rustzap.error rustzap.models

namespace rustzap

namespace eventbus

namespace raw_media_field

mutual

/-- The path of the first field, depth first, that goes by a name of raw media. -/
def find (path : String) : Value → Option String
  | .object fields => find_field path fields
  | .array items => find_item path 0 items
  | _ => none

def find_field (path : String) : List (String × Value) → Option String
  | [] => none
  | (key, value) :: fields =>
    let child_path := if path = "" then key else path ++ "." ++ key
    if key = "bytes" || key = "file_bytes" || key = "raw_media" || key = "body" then some child_path
    else (find child_path value).or (find_field path fields)

def find_item (path : String) (index : Nat) : List Value → Option String
  | [] => none
  | value :: items =>
    (find (path ++ "[" ++ toString index ++ "]") value).or (find_item path (index + 1) items)

end

end raw_media_field

def raw_media_field (value : Value) : Option String :=
  raw_media_field.find "" value

/-- The broker's settings and the way `serde_json` writes an event. -/
structure KafkaEventBus where
  config : config.KafkaConfig
  to_vec : CommonEvent → Except String (List UInt8)

def encode_event_for_kafka (self : KafkaEventBus) (event : CommonEvent) : Except String (List UInt8) :=
  match raw_media_field event.payload with
  | some field =>
    .error ("event " ++ event.event_id ++ " contains raw media bytes in payload field " ++ field)
  | none =>
    match self.to_vec event with
    | .error err => .error ("event codec failed: " ++ err)
    | .ok bytes =>
      if self.config.message_max_bytes < bytes.length then
        .error ("event " ++ event.event_id ++ " encoded payload is " ++ toString bytes.length ++
          " bytes, above limit " ++ toString self.config.message_max_bytes)
      else .ok bytes

end eventbus

namespace db

open eventbus state workers

/-- What a worker says of a row in the end. -/
inductive Mark where
  | published (partition offset : Int)
  | failed (error : String) (retry_after_seconds : Int)
  | deadlettered (error : String)

namespace Mark

/-- The statement that says it. -/
def execute (now : OffsetDateTime) (event_id : String) : Mark → Outbox → Outbox
  | .published partition offset => mark_event_outbox_published now event_id partition offset
  | .failed error retry_after_seconds => mark_event_outbox_failed now event_id error retry_after_seconds
  | .deadlettered error => mark_event_outbox_deadlettered event_id error

/-- What it makes of the row. -/
def row (now : OffsetDateTime) : Mark → OutboxRow → OutboxRow
  | .published partition offset, row => { row with
      status := .published
      attempt_count := row.attempt_count + 1
      kafka_partition := some partition
      kafka_offset := some offset
      last_error := none
      published_at := some now }
  | .failed error retry_after_seconds, row => { row with
      status := .failed
      attempt_count := row.attempt_count + 1
      last_error := some error
      locked_by := none
      locked_until := none
      next_attempt_at := now + Duration.seconds (max retry_after_seconds 1) }
  | .deadlettered error, row => { row with
      status := .deadlettered
      attempt_count := row.attempt_count + 1
      last_error := some error
      locked_by := none
      locked_until := none }

theorem lookup_execute (now : OffsetDateTime) (event_id query : String) (mark : Mark) (outbox : Outbox) :
    (mark.execute now event_id outbox).lookup query =
      if query = event_id then (outbox.lookup query).map (mark.row now) else outbox.lookup query := by
  cases mark <;> exact lookup_update_row ..

@[simp] theorem row_attempt_count (now : OffsetDateTime) (mark : Mark) (row : OutboxRow) :
    (mark.row now row).attempt_count = row.attempt_count + 1 := by
  cases mark <;> rfl

@[simp] theorem row_payload_json (now : OffsetDateTime) (mark : Mark) (row : OutboxRow) :
    (mark.row now row).payload_json = row.payload_json := by
  cases mark <;> rfl

/-- The waiting time after a number of attempts. -/
def backoff (attempts : Nat) : Int :=
  5 * 2 ^ min attempts 6

/-- What becomes of a row whose work fails: both drainers count the attempts in the
same way. -/
def of_failure (kafka : config.KafkaConfig) (record : OutboxRecord) (error : String) : Mark :=
  let attempts := record.attempt_count + 1
  if kafka.retry_max_attempts ≤ attempts then .deadlettered error
  else .failed error (backoff attempts)

end Mark

/-- The tables that the event bus works on. -/
structure EventTables where
  event_outbox : Outbox := ∅
  kafka_deadletters : List DeadLetterRow := []

namespace EventTables

variable (tables : EventTables)

/-- A mark that the database takes or refuses. -/
def mark (refused : Option String) (now : OffsetDateTime) (event_id : String) (mark : Mark) : EventTables :=
  match refused with
  | some _ => tables
  | none => { tables with event_outbox := mark.execute now event_id tables.event_outbox }

def insert_kafka_deadletter (refused : Option String) (row : DeadLetterRow) : EventTables :=
  match refused with
  | some _ => tables
  | none => { tables with kafka_deadletters := tables.kafka_deadletters ++ [row] }

variable (refused : Option String)

theorem mark_event_outbox (now : OffsetDateTime) (event_id : String) (mark : Mark) :
    (tables.mark refused now event_id mark).event_outbox =
      if refused.isSome then tables.event_outbox else mark.execute now event_id tables.event_outbox := by
  cases refused <;> rfl

@[simp] theorem mark_kafka_deadletters (now : OffsetDateTime) (event_id : String) (mark : Mark) :
    (tables.mark refused now event_id mark).kafka_deadletters = tables.kafka_deadletters := by
  cases refused <;> rfl

@[simp] theorem insert_event_outbox (row : DeadLetterRow) :
    (tables.insert_kafka_deadletter refused row).event_outbox = tables.event_outbox := by
  cases refused <;> rfl

theorem subset_insert (row : DeadLetterRow) :
    tables.kafka_deadletters ⊆ (tables.insert_kafka_deadletter refused row).kafka_deadletters := by
  cases refused with
  | some _ => exact List.Subset.refl _
  | none => exact List.subset_append_left _ _

theorem mem_insert (row : DeadLetterRow) :
    row ∈ (tables.insert_kafka_deadletter none row).kafka_deadletters :=
  List.mem_append_right _ List.mem_cons_self

end EventTables

/-- What publishing one record learns from outside: the clock of the database, the
acknowledgement of the broker, and which statements the database refuses. -/
structure PublishAnswers where
  now : OffsetDateTime
  publish : Except String (Int × Int)
  mark : Option String
  insert_deadletter : Option String

section Publish

variable (kafka : KafkaEventBus) (answers : PublishAnswers) (record : OutboxRecord)

def outbox_deadletter (event : CommonEvent) (error : String) : DeadLetterRow where
  event
  error_code := error
  source_topic := record.topic
  partition_key := record.partition_key
  retry_count := record.attempt_count + 1

def publish_outbox_record (tables : EventTables) : EventTables :=
  match record.payload_json with
  | .error err => tables.mark answers.mark answers.now record.event_id (.failed err 60)
  | .ok event =>
    match encode_event_for_kafka kafka event with
    | .error error =>
      (tables.mark answers.mark answers.now record.event_id (.deadlettered error)).insert_kafka_deadletter
        answers.insert_deadletter (outbox_deadletter record event error)
    | .ok _ =>
      match answers.publish with
      | .ok (partition, offset) =>
        tables.mark answers.mark answers.now record.event_id (.published partition offset)
      | .error error =>
        let attempts := record.attempt_count + 1
        if kafka.config.retry_max_attempts ≤ attempts then
          (tables.insert_kafka_deadletter answers.insert_deadletter
            (outbox_deadletter record event error)).mark
            answers.mark answers.now record.event_id (.deadlettered error)
        else
          tables.mark answers.mark answers.now record.event_id (.failed error (Mark.backoff attempts))

/-- The mark that `publish_outbox_record` comes to. -/
def publish_mark : Mark :=
  match record.payload_json with
  | .error err => .failed err 60
  | .ok event =>
    match encode_event_for_kafka kafka event with
    | .error error => .deadlettered error
    | .ok _ =>
      match answers.publish with
      | .ok (partition, offset) => .published partition offset
      | .error error => Mark.of_failure kafka.config record error

/-- Of the outbox, publishing changes the row of the record, by one mark. -/
theorem publish_outbox_record_outbox (tables : EventTables) :
    (publish_outbox_record kafka answers record tables).event_outbox =
      (tables.mark answers.mark answers.now record.event_id
        (publish_mark kafka answers record)).event_outbox := by
  unfold publish_outbox_record publish_mark
  cases record.payload_json with
  | error err => rfl
  | ok event =>
    dsimp only
    cases encode_event_for_kafka kafka event with
    | error error => exact EventTables.insert_event_outbox ..
    | ok bytes =>
      dsimp only
      cases answers.publish with
      | ok ack => rfl
      | error error =>
        dsimp only [Mark.of_failure]
        split
        · rw [EventTables.mark_event_outbox, EventTables.insert_event_outbox, EventTables.mark_event_outbox]
        · rfl

/-- A deadletter that is stored stays. -/
theorem publish_outbox_record_deadletters (tables : EventTables) :
    tables.kafka_deadletters ⊆ (publish_outbox_record kafka answers record tables).kafka_deadletters := by
  unfold publish_outbox_record
  cases record.payload_json with
  | error err => exact (EventTables.mark_kafka_deadletters ..).symm ▸ List.Subset.refl _
  | ok event =>
    dsimp only
    cases encode_event_for_kafka kafka event with
    | error error =>
      have hinsert := (tables.mark answers.mark answers.now record.event_id
        (.deadlettered error)).subset_insert answers.insert_deadletter (outbox_deadletter record event error)
      rwa [EventTables.mark_kafka_deadletters] at hinsert
    | ok bytes =>
      dsimp only
      cases answers.publish with
      | ok ack => exact (EventTables.mark_kafka_deadletters ..).symm ▸ List.Subset.refl _
      | error error =>
        dsimp only
        split
        · rw [EventTables.mark_kafka_deadletters]
          exact tables.subset_insert ..
        · exact (EventTables.mark_kafka_deadletters ..).symm ▸ List.Subset.refl _

/-- An event that is given up is stored as a deadletter, if the database takes it. -/
theorem publish_outbox_record_deadletter {event : CommonEvent} {error : String}
    (hpayload : record.payload_json = .ok event) (hinsert : answers.insert_deadletter = none)
    (hmark : publish_mark kafka answers record = .deadlettered error) (tables : EventTables) :
    outbox_deadletter record event error ∈
      (publish_outbox_record kafka answers record tables).kafka_deadletters := by
  rw [publish_mark, hpayload] at hmark
  rw [publish_outbox_record, hpayload, hinsert]
  dsimp only at hmark ⊢
  cases hencode : encode_event_for_kafka kafka event with
  | error encode_error =>
    rw [hencode] at hmark
    cases hmark
    exact EventTables.mem_insert ..
  | ok bytes =>
    rw [hencode] at hmark
    dsimp only at hmark ⊢
    cases hpublish : answers.publish with
    | ok ack =>
      rw [hpublish] at hmark
      cases hmark
    | error publish_error =>
      rw [hpublish] at hmark
      dsimp only [Mark.of_failure] at hmark ⊢
      split at hmark
      · next hlast =>
        cases hmark
        rw [if_pos hlast, EventTables.mark_kafka_deadletters]
        exact EventTables.mem_insert ..
      · cases hmark

end Publish

/-- What handling one record in the service learns from outside. -/
structure DrainAnswers where
  now : OffsetDateTime
  handler : HandlerAnswers
  mark : Option String

/-- The store and the tables beside it. -/
structure DrainWorld where
  inner : StoreInner := {}
  tables : EventTables := {}

section Drain

variable (self : AppState) (kafka : config.KafkaConfig)

def internal_work_event_type (event_type : String) : Bool :=
  event_type = "outbound.send.requested" || event_type = "audio.transcription.requested"

def handle_internal_work_event (inner : StoreInner) (answers : HandlerAnswers) (event : CommonEvent) :
    ApiResult Unit × StoreInner :=
  if event.event_type = "outbound.send.requested" then
    let dispatched := process_outbound_send_request answers.ctx inner event answers.dispatch
    (dispatched.result.map fun _ => (), dispatched.inner)
  else if event.event_type = "audio.transcription.requested" then
    let transcribed := process_transcription_request self answers.ctx inner event answers.transcription
    (transcribed.1.map fun _ => (), transcribed.2)
  else (.ok (), inner)

def process_postgres_outbox_record (answers : DrainAnswers) (record : OutboxRecord) (world : DrainWorld) :
    DrainWorld :=
  match record.payload_json with
  | .error err => { world with
      tables := world.tables.mark answers.mark answers.now record.event_id (.deadlettered err) }
  | .ok event =>
    if !internal_work_event_type event.event_type then { world with
      tables := world.tables.mark answers.mark answers.now record.event_id (.published (-1) (-1)) }
    else
      let (result, inner) := handle_internal_work_event self world.inner answers.handler event
      match result with
      | .ok _ =>
        { inner, tables := world.tables.mark answers.mark answers.now record.event_id
            (.published (-1) (-1)) }
      | .error err =>
        let error := err.to_string
        let attempts := record.attempt_count + 1
        if kafka.retry_max_attempts ≤ attempts then
          { inner, tables := world.tables.mark answers.mark answers.now record.event_id
              (.deadlettered error) }
        else
          { inner, tables := world.tables.mark answers.mark answers.now record.event_id
              (.failed error (Mark.backoff attempts)) }

/-- The mark that `process_postgres_outbox_record` comes to. -/
def drain_mark (answers : DrainAnswers) (record : OutboxRecord) (inner : StoreInner) : Mark :=
  match record.payload_json with
  | .error err => .deadlettered err
  | .ok event =>
    if !internal_work_event_type event.event_type then .published (-1) (-1)
    else match (handle_internal_work_event self inner answers.handler event).1 with
      | .ok _ => .published (-1) (-1)
      | .error err => Mark.of_failure kafka record err.to_string

theorem process_postgres_outbox_record_tables (answers : DrainAnswers) (record : OutboxRecord)
    (world : DrainWorld) :
    (process_postgres_outbox_record self kafka answers record world).tables =
      world.tables.mark answers.mark answers.now record.event_id
        (drain_mark self kafka answers record world.inner) := by
  unfold process_postgres_outbox_record drain_mark
  cases record.payload_json with
  | error err => rfl
  | ok event =>
    dsimp only
    split
    · rfl
    · cases (handle_internal_work_event self world.inner answers.handler event).1 with
      | ok _ => rfl
      | error err =>
        dsimp only [Mark.of_failure]
        split <;> rfl

end Drain

end db

end rustzap
