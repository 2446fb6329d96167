import RustZap.Kafka.Consumer
import RustZap.State.Operations

open serde_json runs
open rustzap.error rustzap.models rustzap.whatsapp

namespace rustzap.workers

open rustzap.eventbus rustzap.state

/-- A row of the table `kafka_deadletters`. -/
structure DeadLetterRow where
  event : CommonEvent
  error_code : String
  source_topic : String
  partition_key : String
  retry_count : Nat

/-- What the handlers of the workers work on. -/
structure WorkerWorld where
  inner : StoreInner
  deadletters : List DeadLetterRow

/-- What one call of the handler learns from outside. `raw_envelope` is what
`serde_json` makes of the payload of a raw WhatsApp event. -/
structure HandlerAnswers where
  ctx : Ctx
  raw_envelope : Except String (ChannelRuntime × WhatsappEvent)
  event : EventAnswers
  dispatch : DispatchAnswers
  transcription : TranscriptionAnswers
  insert_deadletter : Option String

def process_whatsapp_raw_event (self : AppState) (inner : StoreInner) (answers : HandlerAnswers) :
    ApiResult Unit × StoreInner :=
  match answers.raw_envelope with
  | .error err => (.error (.BadRequest ("invalid WhatsApp raw event: " ++ err)), inner)
  | .ok (runtime, event) =>
    (.ok (), (process_whatsapp_event self answers.ctx inner runtime answers.event event).2)

def process_event (self : AppState) (inner : StoreInner) (answers : HandlerAnswers)
    (event : CommonEvent) : ApiResult Unit × StoreInner :=
  if event.event_type = "whatsapp.raw.inbound" then process_whatsapp_raw_event self inner answers
  else if event.event_type = "outbound.send.requested" then
    let dispatched := process_outbound_send_request answers.ctx inner event answers.dispatch
    (dispatched.result.map fun _ => (), dispatched.inner)
  else if event.event_type = "audio.transcription.requested" then
    let transcribed := process_transcription_request self answers.ctx inner event answers.transcription
    (transcribed.1.map fun _ => (), transcribed.2)
  else (.ok (), inner)

def handle_message (self : AppState) (answers : HandlerAnswers) (message : KafkaConsumerMessage)
    (world : WorkerWorld) : Except EventBusError ConsumerHandlerStatus × WorkerWorld :=
  let processed := process_event self world.inner answers message.event
  let world := { world with inner := processed.2 }
  match processed.1 with
  | .ok _ => (.ok .Processed, world)
  | .error err =>
    match answers.insert_deadletter with
    | some insert_err => (.error (.Kafka insert_err), world)
    | none =>
      (.ok .DeadLettered, { world with
        deadletters := world.deadletters ++
          [{ event := message.event
             error_code := err.to_string
             source_topic := message.source.topic
             partition_key := partition_key message.event
             retry_count := 1 }] })

/-- The handler processes a message, or stores it as a deadletter, or fails. Rows
once stored stay. -/
theorem handle_message_cases (self : AppState) (answers : HandlerAnswers)
    (message : KafkaConsumerMessage) (world : WorkerWorld) :
    world.deadletters ⊆ (handle_message self answers message world).2.deadletters ∧
    ((handle_message self answers message world).1 = .ok .Processed ∨
      ((handle_message self answers message world).1 = .ok .DeadLettered ∧
        ∃ row ∈ (handle_message self answers message world).2.deadletters, row.event = message.event) ∨
      ∃ err, (handle_message self answers message world).1 = .error err) := by
  unfold handle_message
  dsimp only
  cases (process_event self world.inner answers message.event).1 with
  | ok _ => exact ⟨List.Subset.refl _, Or.inl rfl⟩
  | error err =>
    cases answers.insert_deadletter with
    | some insert_err => exact ⟨List.Subset.refl _, Or.inr (Or.inr ⟨_, rfl⟩)⟩
    | none =>
      exact ⟨List.subset_append_left _ _, Or.inr (Or.inl ⟨rfl, _,
        List.mem_append_right _ List.mem_cons_self, rfl⟩)⟩

/-- One partition and the worker of the service that consumes it. -/
structure Worker where
  service : AppState
  consumer_group : String
  partition : Partition

/-- What happens to a worker: it takes a step of its loop, or it starts again from
the committed offset. -/
inductive WorkerOp where
  | consume (answers : ConsumerAnswers) (handler : HandlerAnswers)
  | restart

/-- The consumer, with what became of the messages it has taken. -/
structure WorkerState where
  consumer : Consumer WorkerWorld
  outcomes : List (Nat × ConsumerHandlerStatus)

namespace Worker

variable (worker : Worker)

def handler (answers : HandlerAnswers) :
    KafkaConsumerMessage → WorkerWorld → Except EventBusError ConsumerHandlerStatus × WorkerWorld :=
  handle_message worker.service answers

def apply (state : WorkerState) : WorkerOp → WorkerState
  | .consume answers handler =>
    { consumer := (consume_one_message_with_inbox worker.partition worker.consumer_group
        (worker.handler handler) answers state.consumer).2
      outcomes := state.outcomes ++
        ((outcome worker.partition worker.consumer_group (worker.handler handler) answers
          state.consumer).map fun status => (state.consumer.position, status)).toList }
  | .restart => { state with
      consumer := { state.consumer with position := state.consumer.committed } }

/-- The message at the offset was decoded, and handled, or recognised as a
duplicate, or stored as a deadletter. -/
def Settled (state : WorkerState) (offset : Nat) : Prop :=
  ∃ message, worker.partition.message offset = .ok message ∧
    ((offset, .Processed) ∈ state.outcomes ∨ (offset, .Duplicate) ∈ state.outcomes ∨
      (offset, .DeadLettered) ∈ state.outcomes ∧
        ∃ row ∈ state.consumer.world.deadletters, row.event = message.event)

/-- A step that commits comes when every message taken since the last commit is
settled. -/
def NothingSkipped (state : WorkerState) (op : WorkerOp) : Prop :=
  ∀ answers handler, op = .consume answers handler →
    Commits worker.partition worker.consumer_group (worker.handler handler) answers state.consumer →
    ∀ offset, state.consumer.committed ≤ offset → offset < state.consumer.position →
      worker.Settled state offset

/-- A step that ends otherwise than with a commit. -/
def Fails (state : WorkerState) : WorkerOp → Prop
  | .consume answers handler => (consume_one_message_with_inbox worker.partition worker.consumer_group
      (worker.handler handler) answers state.consumer).1 ≠ .ok .Commit
  | .restart => False

/-- After each step that fails the worker starts again. -/
def RestartsAfterFailures (state : WorkerState) : List WorkerOp → Prop
  | [] => True
  | op :: ops => (worker.Fails state op → ∀ next ∈ ops.head?, next = .restart) ∧
      RestartsAfterFailures (worker.apply state op) ops

theorem handler_eq (answers : HandlerAnswers) (message : KafkaConsumerMessage) (world : WorkerWorld) :
    worker.handler answers message world = handle_message worker.service answers message world := rfl

variable {worker} {state : WorkerState}

/-- What a settled message needs is kept by every step. -/
theorem Settled.mono {state' : WorkerState} {offset : Nat} (h : worker.Settled state offset)
    (houtcomes : state.outcomes ⊆ state'.outcomes)
    (hrows : state.consumer.world.deadletters ⊆ state'.consumer.world.deadletters) :
    worker.Settled state' offset := by
  obtain ⟨message, hmessage, houtcome⟩ := h
  refine ⟨message, hmessage, ?_⟩
  rcases houtcome with hprocessed | hduplicate | ⟨hdead, row, hrow, hevent⟩
  · exact Or.inl (houtcomes hprocessed)
  · exact Or.inr (Or.inl (houtcomes hduplicate))
  · exact Or.inr (Or.inr ⟨houtcomes hdead, row, hrows hrow, hevent⟩)

theorem apply_outcomes (state : WorkerState) (op : WorkerOp) :
    state.outcomes ⊆ (worker.apply state op).outcomes := by
  cases op with
  | consume answers handler => exact List.subset_append_left _ _
  | restart => exact List.Subset.refl _

theorem handled_deadletters (handler : HandlerAnswers) (inbox : List InboxRow)
    (message : KafkaConsumerMessage) (world : WorkerWorld) :
    world.deadletters ⊆
      (handled worker.consumer_group (worker.handler handler) inbox message world).2.deadletters := by
  unfold handled
  split
  · exact List.Subset.refl _
  · exact (handle_message_cases ..).1

theorem apply_deadletters (state : WorkerState) (op : WorkerOp) :
    state.consumer.world.deadletters ⊆ (worker.apply state op).consumer.world.deadletters := by
  cases op with
  | consume answers handler =>
    simp only [apply]
    rcases consume_world worker.partition worker.consumer_group (worker.handler handler) answers
      state.consumer with ⟨message, -, -, hworld⟩ | ⟨-, hworld⟩
    · rw [hworld]
      exact handled_deadletters ..
    · rw [hworld]
      exact List.Subset.refl _
  | restart => exact List.Subset.refl _

/-- A message with an outcome is settled. -/
theorem settled_of_outcome {answers : ConsumerAnswers} {handler : HandlerAnswers}
    {status : ConsumerHandlerStatus}
    (houtcome : outcome worker.partition worker.consumer_group (worker.handler handler) answers
      state.consumer = some status) :
    worker.Settled (worker.apply state (.consume answers handler)) state.consumer.position := by
  have hmem : (state.consumer.position, status) ∈
      (worker.apply state (.consume answers handler)).outcomes := by
    simp only [apply, houtcome]
    exact List.mem_append_right _ List.mem_cons_self
  rcases consume_world worker.partition worker.consumer_group (worker.handler handler) answers
    state.consumer with ⟨message, hmessage, hhandled, hworld⟩ | ⟨hnone, -⟩
  · refine ⟨message, hmessage, ?_⟩
    rw [houtcome] at hhandled
    unfold handled at hhandled hworld
    split at hhandled
    · -- the inbox knew the message
      cases hhandled
      exact Or.inr (Or.inl hmem)
    · next hfresh =>
      rw [if_neg hfresh] at hworld
      obtain ⟨-, hprocessed | ⟨hdead, row, hrow, hevent⟩ | ⟨err, hfailed⟩⟩ :=
        handle_message_cases worker.service handler message state.consumer.world
      · rw [handler_eq, hprocessed] at hhandled
        cases hhandled
        exact Or.inl hmem
      · rw [handler_eq, hdead] at hhandled
        cases hhandled
        refine Or.inr (Or.inr ⟨hmem, row, ?_, hevent⟩)
        simp only [apply]
        rw [hworld]
        exact hrow
      · rw [handler_eq, hfailed] at hhandled
        cases hhandled
  · rw [houtcome] at hnone
    cases hnone

/-- Every message below the committed offset is settled. -/
def CommittedSettled (worker : Worker) (state : WorkerState) : Prop :=
  ∀ offset < state.consumer.committed, worker.Settled state offset

theorem CommittedSettled.step {op : WorkerOp} (h : worker.CommittedSettled state)
    (hok : worker.NothingSkipped state op) : worker.CommittedSettled (worker.apply state op) := by
  have hkept : ∀ offset, worker.Settled state offset → worker.Settled (worker.apply state op) offset :=
    fun offset hsettled => hsettled.mono (apply_outcomes state op) (apply_deadletters state op)
  intro offset hoffset
  cases op with
  | restart => exact hkept offset (h offset hoffset)
  | consume answers handler =>
    rcases consume_committed worker.partition worker.consumer_group (worker.handler handler) answers
      state.consumer with hsame | ⟨hcommits, hnext⟩
    · simp only [apply] at hoffset
      rw [hsame] at hoffset
      exact hkept offset (h offset hoffset)
    · simp only [apply] at hoffset
      rw [hnext] at hoffset
      rcases Nat.lt_succ_iff_lt_or_eq.mp hoffset with hbefore | rfl
      · by_cases hcommitted : offset < state.consumer.committed
        · exact hkept offset (h offset hcommitted)
        · exact hkept offset (hok answers handler rfl hcommits offset (not_lt.mp hcommitted) hbefore)
      · obtain ⟨status, hstatus⟩ := hcommits.outcome
        exact settled_of_outcome hstatus

/-- What has been taken is committed, or the worker is about to start again. -/
def CaughtUp (state : WorkerState) (ops : List WorkerOp) : Prop :=
  state.consumer.position = state.consumer.committed ∨ ∀ next ∈ ops.head?, next = .restart

theorem CaughtUp.nothing_skipped {op : WorkerOp} {ops : List WorkerOp} (h : CaughtUp state (op :: ops)) :
    worker.NothingSkipped state op := by
  intro answers handler hop _ offset hcommitted hoffset
  rcases h with hsame | hrestart
  · omega
  · rw [hrestart op rfl] at hop
    cases hop

/-- A worker that starts again after each failing record skips nothing. -/
theorem restarting_run {ops : List WorkerOp} : ∀ {state : WorkerState}, CaughtUp state ops →
    worker.RestartsAfterFailures state ops →
    Run (Guarded (OfFun worker.apply) worker.NothingSkipped) state ops (ops.foldl worker.apply state) := by
  induction ops with
  | nil => exact fun {state} _ _ => .nil state
  | cons op ops ih =>
    rintro state hcaught ⟨hrestarts, hrest⟩
    refine .cons ⟨hcaught.nothing_skipped, rfl⟩ (ih ?_ hrest)
    cases op with
    | restart => exact Or.inl rfl
    | consume answers handler =>
      by_cases hcommit : (consume_one_message_with_inbox worker.partition worker.consumer_group
          (worker.handler handler) answers state.consumer).1 = .ok .Commit
      · exact Or.inl (consume_commit _ _ _ hcommit)
      · exact Or.inr (hrestarts hcommit)

end Worker

/-- A worker that has not taken anything yet. -/
def WorkerState.start (inner : StoreInner) : WorkerState where
  consumer :=
    { position := 0, committed := 0, inbox := [], world := { inner, deadletters := [] } }
  outcomes := []

/-- In every run in which no message is committed over one that is not settled,
every message below the committed offset is settled. -/
theorem committed_offsets_settled (worker : Worker) {inner : StoreInner} {ops : List WorkerOp}
    {state : WorkerState}
    (hrun : Run (Guarded (OfFun worker.apply) worker.NothingSkipped) (.start inner) ops state) :
    worker.CommittedSettled state := by
  have hstep : ∀ s op t, worker.CommittedSettled s →
      Guarded (OfFun worker.apply) worker.NothingSkipped s op t → worker.CommittedSettled t := by
    rintro s op t h ⟨hok, rfl⟩
    exact h.step hok
  refine Run.invariant hstep hrun ?_
  intro offset hoffset
  exact absurd hoffset (Nat.not_lt_zero offset)

namespace sample

open rustzap.state.sample

/-- The connection of the channel, as it comes in from the session. -/
def raw_event : CommonEvent :=
  new_event (ctx 1 "k") 0 "whatsapp.raw.inbound" "acme" "company_a" (some "channel_a") none none none
    (.object [("runtime", .object [("project_id", .string "acme"), ("company_id", .string "company_a"),
      ("channel_id", .string "channel_a")]), ("event", .string "Connected")])

def raw_event_json : String :=
  "\x7b\"event_id\":\"evt_k0\",\"event_type\":\"whatsapp.raw.inbound\",\"project_id\":\"acme\"" ++
    ",\"company_id\":\"company_a\",\"channel_id\":\"channel_a\",\"conversation_id\":null" ++
    ",\"message_id\":null,\"conversation_seq\":null,\"trace_id\":\"trace_k1\"" ++
    ",\"causation_id\":null,\"correlation_id\":\"corr_k2\"" ++
    ",\"occurred_at\":\"1970-01-01T00:00:01Z\",\"produced_at\":\"1970-01-01T00:00:01Z\"" ++
    ",\"payload\":\x7b\"runtime\":\x7b\"project_id\":\"acme\",\"company_id\":\"company_a\"" ++
    ",\"channel_id\":\"channel_a\"\x7d,\"event\":\"Connected\"\x7d\x7d"

/-- A partition that the event has been published to twice. -/
def partition : Partition where
  topic := "rustzap.raw.inbound"
  partition := 0
  log offset := if offset < 2 then some (media.ascii raw_event_json) else none
  decode_event_from_kafka _ := .ok raw_event

def raw_inbound : Worker where
  service
  consumer_group := "rustzap-main.raw-inbound"
  partition

/-- A step of the worker in which every other call to the outside succeeds. -/
def consumed (inbox_read : Option String) : WorkerOp :=
  .consume { recv := none, inbox_read, inbox_write := none, commit := none }
    { ctx := ctx 2 "w"
      raw_envelope := .ok (company_a, .Connected)
      event := answers
      dispatch := { reconciled := false, connected := false, bytes := .ok [], send := .timed_out }
      transcription := { bytes := .ok [], result := .error "", ctx := ctx 2 "t" }
      insert_deadletter := none }

end sample

/-- The database cannot be read for the first record. The second is committed,
and the first with it. -/
theorem skipped_record_committed :
    ¬ ∀ ops state, Run (OfFun sample.raw_inbound.apply) (.start {}) ops state →
      sample.raw_inbound.CommittedSettled state := by
  intro hsettled
  obtain ⟨message, -, houtcome⟩ := hsettled
    [sample.consumed (some "failed to check Kafka inbox event"), sample.consumed none] _
    (.cons rfl (.cons rfl (.nil _))) 0 (by decide)
  have hnone : ((sample.raw_inbound.apply (sample.raw_inbound.apply (.start {})
      (sample.consumed (some "failed to check Kafka inbox event"))) (sample.consumed none)).outcomes.all
      fun outcome => outcome.1 ≠ 0) = true := by decide
  rw [List.all_eq_true] at hnone
  rcases houtcome with hprocessed | hduplicate | ⟨hdead, -⟩
  · exact absurd (hnone _ hprocessed) (by decide)
  · exact absurd (hnone _ hduplicate) (by decide)
  · exact absurd (hnone _ hdead) (by decide)

/-- The failing step, a restart, and a step for each of the two records. -/
def sample.restarted : List WorkerOp :=
  [sample.consumed (some "failed to check Kafka inbox event"), .restart, sample.consumed none,
    sample.consumed none]

/-- The worker that starts again after the failure settles the first record
before it commits the second. -/
theorem record_settled_after_restart :
    sample.raw_inbound.CommittedSettled
      (sample.restarted.foldl sample.raw_inbound.apply (.start {})) := by
  have hrun : Run (Guarded (OfFun sample.raw_inbound.apply) sample.raw_inbound.NothingSkipped)
      (.start {}) sample.restarted (sample.restarted.foldl sample.raw_inbound.apply (.start {})) := by
    refine Worker.restarting_run (Or.inl rfl) ⟨?_, ?_, ?_, ?_, trivial⟩
    · rintro - next hnext
      exact (Option.some.inj hnext).symm
    · exact False.elim
    · exact fun hfails => absurd rfl hfails
    · exact fun hfails => absurd rfl hfails
  exact committed_offsets_settled sample.raw_inbound hrun

end rustzap.workers
