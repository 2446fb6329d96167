import RustZap.Kafka.Consumer
import RustZap.Lib.Upserts

open collections
open rustzap.models

namespace rustzap

namespace config

/-- The settings of the broker that the outbox reads. -/
structure KafkaConfig where
  topic_prefix : String
  message_max_bytes : Nat
  retry_max_attempts : Nat

/-- What an empty environment gives. -/
def KafkaConfig.from_env : KafkaConfig where
  topic_prefix := "rustzap"
  message_max_bytes := 1048576
  retry_max_attempts := 8

end config

namespace eventbus

def topic_for_event (kafka : config.KafkaConfig) (event_type : String) : String :=
  let topic_suffix := match event_type with
    | "whatsapp.raw.inbound" => "raw.inbound"
    | "outbound.send.requested" => "outbound.send.requested"
    | "message.queued" | "message.received" | "message.sent" | "message.failed" | "message.updated"
    | "message.persisted" | "message.reaction" => "message.persisted"
    | "media.download.requested" => "media.download.requested"
    | "media.stored" => "media.stored"
    | "audio.transcription.requested" => "audio.transcription.requested"
    | "audio.transcribed" | "transcript.completed" => "audio.transcribed"
    | "conversation.dirty" => "conversation.dirty"
    | "conversation.read" | "conversation.updated" => "conversation.event"
    | "message.receipt" => "delivery.receipt"
    | "channel.connected" | "channel.disconnected" | "channel.qr" | "channel.logged_out" =>
      "channel.status"
    | "contact.updated" => "contact.updated"
    | event =>
      if str.starts_with event "group." then "group.event"
      else if str.starts_with event "websocket." then "websocket.event"
      else if str.ends_with event ".ignored" || str.starts_with event "whatsapp_updates." ||
          str.starts_with event "history_sync." || event = "ignored_old_message" then "system.event"
      else "raw.inbound"
  kafka.topic_prefix ++ "." ++ topic_suffix

end eventbus

namespace db

open eventbus

inductive OutboxStatus where
  | queued
  | publishing
  | published
  | failed
  | deadlettered
  deriving DecidableEq

/-- A row of the table `event_outbox`, without its key, the event's id. Of the
column `payload_json` it keeps what `serde_json` reads from it as an event, which
for a payload that was written from an event is the event. Attempts are seconds
apart, so their counter never comes near the end of its 32 bits. -/
structure OutboxRow where
  event_type : String
  topic : String
  partition_key : String
  payload_json : Except String CommonEvent
  status : OutboxStatus := .queued
  attempt_count : Nat := 0
  kafka_partition : Option Int := none
  kafka_offset : Option Int := none
  locked_by : Option String := none
  locked_until : Option OffsetDateTime := none
  next_attempt_at : OffsetDateTime
  last_error : Option String := none
  available_at : OffsetDateTime
  published_at : Option OffsetDateTime := none
  created_at : OffsetDateTime

abbrev Outbox := HashMap String OutboxRow

/-- What a worker gets of the rows it claims. -/
structure OutboxRecord where
  event_id : String
  topic : String
  partition_key : String
  payload_json : Except String CommonEvent
  attempt_count : Nat

def queued_row (event : CommonEvent) (topic partition_key : String) (now : OffsetDateTime) : OutboxRow where
  event_type := event.event_type
  topic
  partition_key
  payload_json := .ok event
  next_attempt_at := now
  available_at := now
  created_at := now

/-- Enters an event, or brings its row up to date. A row that is published keeps
its status. -/
def insert_event_outbox (event : CommonEvent) (topic partition_key : String) :
    sql.Upsert OffsetDateTime String OutboxRow where
  key := event.event_id
  insert := queued_row event topic partition_key
  update _ row := { row with
    event_type := event.event_type
    topic
    partition_key
    payload_json := .ok event
    status := if row.status = .published then row.status else .queued }

/-- The insertion that goes with a snapshot leaves a row that is there alone. -/
def enqueue_outbox_event (kafka : config.KafkaConfig) (event : CommonEvent) :
    sql.Upsert OffsetDateTime String OutboxRow where
  key := event.event_id
  insert := queued_row event (topic_for_event kafka event.event_type) (partition_key event)
  update _ row := row

/-- The insertion of a replay queues the row again. -/
def enqueue_replayed_event (kafka : config.KafkaConfig) (event : CommonEvent) :
    sql.Upsert OffsetDateTime String OutboxRow where
  key := event.event_id
  insert := queued_row event (topic_for_event kafka event.event_type) (partition_key event)
  update now row := { row with
    status := .queued
    topic := topic_for_event kafka event.event_type
    partition_key := partition_key event
    payload_json := .ok event
    next_attempt_at := now
    locked_by := none
    locked_until := none }

/-- Whether a row is up for a claim. A comparison with a column that is null does
not hold. -/
def OutboxRow.claimable (self : OutboxRow) (now : OffsetDateTime) : Bool :=
  ((self.status = .queued || self.status = .failed) && self.next_attempt_at ≤ now ||
    self.status = .publishing && self.locked_until.any fun until_ => until_ < now) &&
  self.locked_until.all fun until_ => until_ < now

/-- The rows that a claim takes: the oldest ones, without those that another
transaction holds at that moment. -/
def next_events (now : OffsetDateTime) (limit : Nat) (row_locked : String → Bool) (outbox : Outbox) :
    List (Sigma fun _ : String => OutboxRow) :=
  (sort_by (fun a b => a.2.available_at < b.2.available_at ||
      a.2.available_at = b.2.available_at && a.2.created_at ≤ b.2.created_at)
    (outbox.entries.filter fun entry => entry.2.claimable now && !row_locked entry.1)).take limit

def OutboxRow.claimed (self : OutboxRow) (now : OffsetDateTime) (worker_id : String) (lock_seconds : Int) :
    OutboxRow :=
  { self with
    status := .publishing
    locked_by := some worker_id
    locked_until := some (now + Duration.seconds (max lock_seconds 1)) }

def claim_event_outbox_batch (now : OffsetDateTime) (worker_id : String) (limit : Nat)
    (lock_seconds : Int) (row_locked : String → Bool) (outbox : Outbox) : List OutboxRecord × Outbox :=
  let next_events := next_events now limit row_locked outbox
  (next_events.map fun entry =>
    { event_id := entry.1
      topic := entry.2.topic
      partition_key := entry.2.partition_key
      payload_json := entry.2.payload_json
      attempt_count := entry.2.attempt_count },
   outbox.map_values fun event_id row =>
    if next_events.keys.contains event_id then row.claimed now worker_id lock_seconds else row)

/-- An `UPDATE` of the row of one event. -/
def update_row (outbox : Outbox) (event_id : String) (change : OutboxRow → OutboxRow) : Outbox :=
  outbox.map_values fun id row => if id = event_id then change row else row

def mark_event_outbox_published (now : OffsetDateTime) (event_id : String) (partition offset : Int)
    (outbox : Outbox) : Outbox :=
  update_row outbox event_id fun row => { row with
    status := .published
    attempt_count := row.attempt_count + 1
    kafka_partition := some partition
    kafka_offset := some offset
    last_error := none
    published_at := some now }

def mark_event_outbox_failed (now : OffsetDateTime) (event_id error : String) (retry_after_seconds : Int)
    (outbox : Outbox) : Outbox :=
  update_row outbox event_id fun row => { row with
    status := .failed
    attempt_count := row.attempt_count + 1
    last_error := some error
    locked_by := none
    locked_until := none
    next_attempt_at := now + Duration.seconds (max retry_after_seconds 1) }

def mark_event_outbox_deadlettered (event_id error : String) (outbox : Outbox) : Outbox :=
  update_row outbox event_id fun row => { row with
    status := .deadlettered
    attempt_count := row.attempt_count + 1
    last_error := some error
    locked_by := none
    locked_until := none }

theorem lookup_update_row (outbox : Outbox) (event_id query : String) (change : OutboxRow → OutboxRow) :
    (update_row outbox event_id change).lookup query =
      if query = event_id then (outbox.lookup query).map change else outbox.lookup query := by
  rw [update_row, HashMap.lookup_map_values]
  split
  · rfl
  · exact Option.map_id'

theorem lookup_claimed (now : OffsetDateTime) (worker_id : String) (limit : Nat) (lock_seconds : Int)
    (row_locked : String → Bool) (outbox : Outbox) (query : String) :
    (claim_event_outbox_batch now worker_id limit lock_seconds row_locked outbox).2.lookup query =
      if query ∈ (next_events now limit row_locked outbox).keys then
        (outbox.lookup query).map fun row => row.claimed now worker_id lock_seconds
      else outbox.lookup query := by
  rw [claim_event_outbox_batch, HashMap.lookup_map_values]
  simp only [List.contains_iff_mem]
  split
  · rfl
  · exact Option.map_id'

/-- Only claimable rows are taken. -/
theorem claimable_of_mem_next_events {now : OffsetDateTime} {limit : Nat} {row_locked : String → Bool}
    {outbox : Outbox} {entry : Sigma fun _ : String => OutboxRow}
    (h : entry ∈ next_events now limit row_locked outbox) :
    outbox.lookup entry.1 = some entry.2 ∧ entry.2.claimable now = true := by
  have hsorted := (sort_by_perm _ _).mem_iff.mp (List.mem_of_mem_take h)
  obtain ⟨hmem, hclaimable⟩ := List.mem_filter.mp hsorted
  rw [Bool.and_eq_true] at hclaimable
  exact ⟨HashMap.lookup_eq_some_iff.mpr hmem, hclaimable.1⟩

/-- A claim takes no row twice. -/
theorem next_events_keys_nodup (now : OffsetDateTime) (limit : Nat) (row_locked : String → Bool)
    (outbox : Outbox) : (next_events now limit row_locked outbox).keys.Nodup := by
  have hfiltered : (outbox.entries.filter fun entry =>
      entry.2.claimable now && !row_locked entry.1).keys.Nodup :=
    outbox.nodupKeys.sublist List.filter_sublist
  have hsorted := ((sort_by_perm (fun a b : Sigma fun _ : String => OutboxRow =>
    a.2.available_at < b.2.available_at ||
      a.2.available_at = b.2.available_at && a.2.created_at ≤ b.2.created_at) _).map Sigma.fst).nodup_iff.mpr
    hfiltered
  exact hsorted.sublist ((List.take_sublist _ _).map Sigma.fst)

end db

end rustzap
