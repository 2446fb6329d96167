import RustZap.Kafka.Workers
import RustZap.State.Snapshot

open collections serde_json runs
open rustzap.error rustzap.models rustzap.whatsapp

namespace rustzap.workers

open rustzap.eventbus rustzap.state

/-- The store that a service starts with. -/
def load_store (snapshot : Option PersistedStore) : StoreInner :=
  (snapshot.map PersistedStore.into_inner).getD {}

/-- Where the worker stands with the message it has taken: what it has handled is
to be entered in the inbox, and then to be committed. -/
inductive WorkerPhase where
  | idle
  | handled (message : KafkaConsumerMessage)
  | marked (offset : Nat)

/-- The service with its consumer of raw events, the task that writes the
metadata, and the database.

The watch channel shows as `watch`, the value that its receiver has not seen yet,
and `persisting` is the one the task is writing. Of all this the snapshot, the
rows and the committed offset outlive a crash. `recorded` is nothing the service
has: it keeps, for each event, the message that the last handling of the event
recorded. -/
structure ServiceState where
  consumer : Consumer WorkerWorld
  phase : WorkerPhase
  watch : Option PersistedStore
  persisting : Option PersistedStore
  snapshot : Option PersistedStore
  recorded : HashMap String Message

/-- What can happen next. The worker's step is in three parts, between which the
other tasks run; `serve` is an operation of one of them. Every operation calls
`persist_locked` before it ends, and some call it more than once. The last three
are the persisting task, which takes the value of the channel and writes it, and
a crash with the start after it. -/
inductive ServiceOp where
  | receive (recv inbox_read : Option String) (handler : HandlerAnswers)
  | mark (inbox_write : Option String)
  | commit (answer : Option String)
  | serve (ctx : Ctx) (op : StoreOp)
  | persist_locked
  | borrow_and_update
  | persist_store (failure : Option String)
  | restart

/-- The message that a handling of a raw event records, if it does. -/
def recorded_message (self : AppState) (inner : StoreInner) (answers : HandlerAnswers)
    (event : CommonEvent) : Option Message :=
  match answers.raw_envelope with
  | .ok (runtime, .Message message) =>
    if event.event_type = "whatsapp.raw.inbound" ∧
        ignored_message_event self answers.ctx inner runtime message = none then
      some (record_whatsapp_message answers.ctx inner (whatsapp_message_input runtime message)).1
    else none
  | _ => none

namespace Worker

variable (worker : Worker)

def receive (state : ServiceState) (handler : HandlerAnswers) (inbox_read : Option String) :
    ServiceState :=
  let consumer := { state.consumer with position := state.consumer.position + 1 }
  match worker.partition.message state.consumer.position, inbox_read with
  | .ok message, none =>
    let result := eventbus.handled worker.consumer_group (worker.handler handler) consumer.inbox message
      consumer.world
    { state with
      consumer := { consumer with world := result.2 }
      phase := match ConsumerCommitDecision.from_handler_result result.1 with
        | .Commit => .handled message
        | .DoNotCommit => .idle
      recorded :=
        if event_inbox_processed consumer.inbox worker.consumer_group message.event message.source then
          state.recorded
        else match recorded_message worker.service consumer.world.inner handler message.event with
          | some recorded => state.recorded.insert message.event.event_id recorded
          | none => state.recorded }
  | _, _ => { state with consumer }

def mark (state : ServiceState) (message : KafkaConsumerMessage) (inbox_write : Option String) :
    ServiceState :=
  match marked_inbox worker.consumer_group state.consumer.inbox message inbox_write with
  | .ok inbox => { state with
      consumer := { state.consumer with inbox }
      phase := .marked message.source.offset }
  | .error _ => { state with phase := .idle }

def step (state : ServiceState) : ServiceOp → ServiceState
  | .receive recv inbox_read handler =>
    match state.phase, recv with
    | .idle, none => worker.receive state handler inbox_read
    | _, _ => state
  | .mark inbox_write =>
    match state.phase with
    | .handled message => worker.mark state message inbox_write
    | _ => state
  | .commit answer =>
    match state.phase, answer with
    | .marked offset, none => { state with
        consumer := { state.consumer with committed := offset + 1 }
        phase := .idle }
    | .marked _, some _ => { state with phase := .idle }
    | _, _ => state
  | .serve ctx op => { state with
      consumer := { state.consumer with
        world := { state.consumer.world with
          inner := op.apply worker.service ctx state.consumer.world.inner } } }
  | .persist_locked => { state with
      watch := some (PersistedStore.from_inner state.consumer.world.inner) }
  | .borrow_and_update =>
    match state.watch, state.persisting with
    | some snapshot, none => { state with watch := none, persisting := some snapshot }
    | _, _ => state
  | .persist_store failure =>
    match failure with
    | none => { state with
        snapshot := state.persisting.or state.snapshot
        persisting := none }
    | some _ => { state with persisting := none }
  | .restart => { state with
      consumer := { state.consumer with
        position := state.consumer.committed
        world := { state.consumer.world with inner := load_store state.snapshot } }
      phase := .idle
      watch := none
      persisting := none }

/-- The three parts of the worker's step, with nothing in between, are the step
of the consumer. -/
theorem step_eq_consume {state : ServiceState} (hidle : state.phase = .idle) (answers : ConsumerAnswers)
    (handler : HandlerAnswers) :
    (worker.step (worker.step (worker.step state (.receive answers.recv answers.inbox_read handler))
      (.mark answers.inbox_write)) (.commit answers.commit)).consumer =
    (consume_one_message_with_inbox worker.partition worker.consumer_group (worker.handler handler) answers
      state.consumer).2 := by
  unfold consume_one_message_with_inbox
  cases hrecv : answers.recv with
  | some err => simp [step, hidle]
  | none =>
    dsimp only
    cases hmessage : worker.partition.message state.consumer.position with
    | error err => simp [step, receive, hidle, hmessage]
    | ok message =>
      cases hread : answers.inbox_read with
      | some err => simp [step, receive, hidle, hmessage]
      | none =>
        have hoffset := worker.partition.message_offset hmessage
        dsimp only
        cases hdecision : ConsumerCommitDecision.from_handler_result (eventbus.handled
            worker.consumer_group (worker.handler handler) state.consumer.inbox message
            state.consumer.world).1 with
        | DoNotCommit => simp [step, receive, hidle, hmessage, hdecision]
        | Commit =>
          dsimp only
          cases hmarked : marked_inbox worker.consumer_group state.consumer.inbox message
              answers.inbox_write with
          | error err => simp [step, receive, mark, hidle, hmessage, hdecision, hmarked]
          | ok inbox =>
            cases hcommit : answers.commit with
            | some err => simp [step, receive, mark, hidle, hmessage, hdecision, hmarked]
            | none => simp [step, receive, mark, hidle, hmessage, hdecision, hmarked, hoffset]

end Worker

/-- The store holds the message, with whatever updates it has seen since. -/
def Holds (inner : StoreInner) (message : Message) : Prop :=
  ∃ stored, inner.messages_by_id.lookup message.id = some stored ∧ SameMessage message stored

/-- The handling of an event is an operation of the store, or it leaves the store
alone. -/
theorem process_event_op (self : AppState) (inner : StoreInner) (answers : HandlerAnswers)
    (event : CommonEvent) :
    (process_event self inner answers event).2 = inner ∨
      ∃ op : StoreOp, (process_event self inner answers event).2 = op.apply self answers.ctx inner := by
  unfold process_event
  split
  · unfold process_whatsapp_raw_event
    split
    · exact Or.inl rfl
    · next runtime message _ => exact Or.inr ⟨.process_whatsapp_event runtime answers.event message, rfl⟩
  · split
    · exact Or.inr ⟨.process_outbound_send_request event answers.dispatch, rfl⟩
    · split
      · exact Or.inr ⟨.process_transcription_request event answers.transcription, rfl⟩
      · exact Or.inl rfl

/-- What a handling records is in memory when it is over. -/
theorem recorded_message_held {self : AppState} {inner : StoreInner} {answers : HandlerAnswers}
    {event : CommonEvent} {message : Message} (hkeyed : inner.messages_by_id.Keyed Message.id)
    (h : recorded_message self inner answers event = some message) :
    Holds (process_event self inner answers event).2 message := by
  unfold recorded_message at h
  split at h
  · next runtime raw henvelope =>
    split at h
    · next hraw =>
      have hinner : (process_event self inner answers event).2 =
          (process_message_event self answers.ctx inner runtime raw answers.event.media).2 := by
        rw [process_event, if_pos hraw.1, process_whatsapp_raw_event, henvelope]
        dsimp only [process_whatsapp_event]
      rw [Holds, hinner, ← Option.some.inj h]
      exact process_message_event_stored self runtime raw answers.event.media hkeyed hraw.2
    · cases h
  · cases h

theorem handle_message_inner (self : AppState) (answers : HandlerAnswers) (message : KafkaConsumerMessage)
    (world : WorkerWorld) :
    (handle_message self answers message world).2.inner =
      (process_event self world.inner answers message.event).2 := by
  unfold handle_message
  dsimp only
  cases (process_event self world.inner answers message.event).1 with
  | ok _ => rfl
  | error err => cases answers.insert_deadletter <;> rfl

namespace ServiceState

variable (state : ServiceState)

/-- The messages in memory. -/
def messages : HashMap String Message :=
  state.consumer.world.inner.messages_by_id

/-- The snapshots that are written or on their way, the oldest first. -/
def snapshots : List PersistedStore :=
  state.snapshot.toList ++ state.persisting.toList ++ state.watch.toList

/-- What a start would find of the messages, from the snapshot in the database and
from the one that is being written. -/
def taken_stages : List (HashMap String Message) :=
  (load_store state.snapshot).messages_by_id ::
    state.persisting.toList.map fun snapshot => snapshot.into_inner.messages_by_id

/-- And from the one that waits, after these. -/
def stages : List (HashMap String Message) :=
  state.taken_stages ++ state.watch.toList.map fun snapshot => snapshot.into_inner.messages_by_id

/-- The messages are stored under their ids, in memory and in every snapshot, and
every stage has the messages of the stages before it. -/
structure Sound : Prop where
  keyed : state.messages.Keyed Message.id
  snapshots_keyed : ∀ snapshot ∈ state.snapshots, snapshot.messages_by_id.Keyed Message.id
  kept : state.stages.Pairwise MessagesKept
  kept_messages : ∀ stage ∈ state.stages, MessagesKept stage state.messages

end ServiceState

namespace Worker

variable (worker : Worker)

/-- For every event that has its row, the snapshot that a start loads holds the
message that the event has recorded. -/
def DurableRows (state : ServiceState) : Prop :=
  ∀ row ∈ state.consumer.inbox, row.consumer_group = worker.consumer_group →
    ∀ message, state.recorded.lookup row.event_id = some message →
      Holds (load_store state.snapshot) message

/-- A row is written when the snapshot in the database holds the message already,
and no snapshot drops, as one of an updates surface, a message that an earlier one
has. The ids that are drawn are new. -/
def WrittenFirst (state : ServiceState) : ServiceOp → Prop
  | .mark none => ∀ message, state.phase = .handled message →
      ∀ recorded, state.recorded.lookup message.event.event_id = some recorded →
        Holds (load_store state.snapshot) recorded
  | .persist_locked => ∀ stage ∈ state.stages, ∀ id message, stage.lookup id = some message →
      id ∉ removed_message_ids state.consumer.world.inner.to_persisted
  | .receive _ _ handler => state.messages.lookup ("msg_" ++ handler.ctx.uuid 0) = none
  | .serve ctx _ => state.messages.lookup ("msg_" ++ ctx.uuid 0) = none
  | _ => True

section Receive

variable (state : ServiceState)

/-- Taking a message touches neither the rows nor the snapshots. -/
theorem receive_frame (handler : HandlerAnswers) (inbox_read : Option String) :
    (worker.receive state handler inbox_read).consumer.inbox = state.consumer.inbox ∧
    (worker.receive state handler inbox_read).snapshot = state.snapshot ∧
    (worker.receive state handler inbox_read).persisting = state.persisting ∧
    (worker.receive state handler inbox_read).watch = state.watch := by
  unfold receive
  dsimp only
  split <;> exact ⟨rfl, rfl, rfl, rfl⟩

/-- In memory it is an operation of the store. -/
theorem receive_op (handler : HandlerAnswers) (inbox_read : Option String) :
    (worker.receive state handler inbox_read).consumer.world.inner = state.consumer.world.inner ∨
    ∃ op : StoreOp, (worker.receive state handler inbox_read).consumer.world.inner =
      op.apply worker.service handler.ctx state.consumer.world.inner := by
  unfold receive
  dsimp only
  split
  · dsimp only
    unfold eventbus.handled
    split
    · exact Or.inl rfl
    · rw [handler_eq, handle_message_inner]
      exact process_event_op ..
  · exact Or.inl rfl

variable {state}

/-- An event that has its row is not handled again. -/
theorem receive_recorded (handler : HandlerAnswers) (inbox_read : Option String) {row : InboxRow}
    (hrow : row ∈ state.consumer.inbox) (hgroup : row.consumer_group = worker.consumer_group) :
    (worker.receive state handler inbox_read).recorded.lookup row.event_id =
      state.recorded.lookup row.event_id := by
  unfold receive
  dsimp only
  split
  · next _ _ message _ =>
    dsimp only
    split
    · rfl
    · next hfresh =>
      have hother : row.event_id ≠ message.event.event_id := by
        intro heq
        apply hfresh
        rw [event_inbox_processed, List.any_eq_true]
        exact ⟨row, hrow, by simp [hgroup, heq]⟩
      split
      · rw [HashMap.lookup_insert_ite, if_neg hother]
      · rfl
  · rfl

/-- The handling of an event that the inbox does not know, and that records a message. -/
theorem receive_handled (handler : HandlerAnswers) {message : KafkaConsumerMessage} {recorded : Message}
    (hmessage : worker.partition.message state.consumer.position = .ok message)
    (hunknown : event_inbox_processed state.consumer.inbox worker.consumer_group message.event
      message.source = false)
    (hrecorded : recorded_message worker.service state.consumer.world.inner handler message.event =
      some recorded) :
    (worker.receive state handler none).consumer.world.inner =
        (process_event worker.service state.consumer.world.inner handler message.event).2 ∧
      (worker.receive state handler none).recorded.lookup message.event.event_id = some recorded ∧
      ∀ handled, (worker.receive state handler none).phase = .handled handled → handled = message := by
  unfold receive
  dsimp only
  rw [hmessage]
  dsimp only
  rw [if_neg (Bool.eq_false_iff.mp hunknown), hrecorded]
  refine ⟨?_, AList.lookup_insert _, ?_⟩
  · rw [eventbus.handled, if_neg (Bool.eq_false_iff.mp hunknown), handler_eq, handle_message_inner]
  · intro handled hphase
    split at hphase
    · cases hphase
      rfl
    · cases hphase

end Receive

end Worker

/-- An operation in memory keeps what the snapshots have. -/
theorem ServiceState.Sound.of_op {state state' : ServiceState} (h : state.Sound) {self : AppState}
    {ctx : Ctx}
    (hframe : state'.snapshot = state.snapshot ∧ state'.persisting = state.persisting ∧
      state'.watch = state.watch)
    (hfresh : state.messages.lookup ("msg_" ++ ctx.uuid 0) = none)
    (hop : state'.consumer.world.inner = state.consumer.world.inner ∨
      ∃ op : StoreOp, state'.consumer.world.inner = op.apply self ctx state.consumer.world.inner) :
    state'.Sound := by
  have hstages : state'.stages = state.stages := by
    rw [stages, stages, taken_stages, taken_stages, hframe.1, hframe.2.1, hframe.2.2]
  have hsnapshots : state'.snapshots = state.snapshots := by
    rw [snapshots, snapshots, hframe.1, hframe.2.1, hframe.2.2]
  have hmessages : state'.messages.Keyed Message.id ∧ MessagesKept state.messages state'.messages := by
    rcases hop with hsame | ⟨op, happly⟩
    · rw [messages, messages, hsame]
      exact ⟨h.keyed, .refl _⟩
    · have hchanges := op.apply_changes self ctx h.keyed
      rw [← happly] at hchanges
      exact ⟨hchanges.messages_keyed h.keyed, hchanges.messages_kept hfresh⟩
  refine ⟨hmessages.1, ?_, ?_, ?_⟩
  · rw [hsnapshots]
    exact h.snapshots_keyed
  · rw [hstages]
    exact h.kept
  · rw [hstages]
    exact fun stage hstage => (h.kept_messages stage hstage).trans hmessages.2

/-- A snapshot that drops none of the messages on the way continues it. -/
theorem ServiceState.Sound.persist_locked {state : ServiceState} (h : state.Sound)
    (hkept : ∀ stage ∈ state.stages, ∀ id message, stage.lookup id = some message →
      id ∉ removed_message_ids state.consumer.world.inner.to_persisted) :
    { state with watch := some (PersistedStore.from_inner state.consumer.world.inner) }.Sound := by
  have hnew : ∀ stage ∈ state.stages, MessagesKept stage
      (PersistedStore.from_inner state.consumer.world.inner).into_inner.messages_by_id := by
    intro stage hstage id message hmessage
    obtain ⟨message', hmessage', hsame⟩ := h.kept_messages stage hstage id message hmessage
    refine ⟨message', ?_, hsame⟩
    rw [into_inner_from_inner_messages_lookup, if_neg (hkept stage hstage id message hmessage)]
    exact hmessage'
  have hmemory : MessagesKept (PersistedStore.from_inner
      state.consumer.world.inner).into_inner.messages_by_id state.messages := by
    intro id message hmessage
    rw [into_inner_from_inner_messages_lookup] at hmessage
    split at hmessage
    · cases hmessage
    · exact ⟨message, hmessage, .refl message⟩
  refine ⟨h.keyed, ?_, ?_, ?_⟩
  · intro snapshot hsnapshot
    rcases List.mem_append.mp hsnapshot with hold | hwatch
    · exact h.snapshots_keyed snapshot (List.mem_append_left _ hold)
    · rw [List.mem_singleton.mp hwatch]
      exact sanitized_messages_keyed h.keyed
  · refine List.pairwise_append.mpr ⟨(List.pairwise_append.mp h.kept).1, List.pairwise_singleton _ _, ?_⟩
    intro stage hstage stage' hstage'
    rw [List.mem_singleton.mp hstage']
    exact hnew stage (List.mem_append_left _ hstage)
  · intro stage hstage
    rcases List.mem_append.mp hstage with hold | hwatch
    · exact h.kept_messages stage (List.mem_append_left _ hold)
    · rw [List.mem_singleton.mp hwatch]
      exact hmemory

/-- Fewer snapshots are on their way. -/
theorem ServiceState.Sound.sublist {state state' : ServiceState} (h : state.Sound)
    (hmessages : state'.messages = state.messages) (hsnapshots : state'.snapshots.Sublist state.snapshots)
    (hstages : state'.stages.Sublist state.stages) : state'.Sound := by
  refine ⟨?_, fun snapshot hmem => h.snapshots_keyed snapshot (hsnapshots.subset hmem),
    h.kept.sublist hstages, ?_⟩
  · rw [hmessages]
    exact h.keyed
  · rw [hmessages]
    exact fun stage hmem => h.kept_messages stage (hstages.subset hmem)

namespace Worker

variable {worker : Worker} {state : ServiceState}

variable (worker) in
/-- The persisting task replaces the snapshot by one that has all its messages. -/
theorem persist_store_snapshot (h : state.Sound) (failure : Option String) :
    MessagesKept (load_store state.snapshot).messages_by_id
      (load_store (worker.step state (.persist_store failure)).snapshot).messages_by_id := by
  cases failure with
  | some err => exact .refl _
  | none =>
    simp only [step]
    cases hpersisting : state.persisting with
    | none => exact .refl _
    | some snapshot =>
      have htaken := (List.pairwise_append.mp h.kept).1
      rw [ServiceState.taken_stages, hpersisting] at htaken
      exact (List.pairwise_cons.mp htaken).1 _ List.mem_cons_self

theorem load_store_keyed (h : state.Sound) :
    (load_store state.snapshot).messages_by_id.Keyed Message.id := by
  have hsnapshots := h.snapshots_keyed
  rw [ServiceState.snapshots] at hsnapshots
  cases hsnapshot : state.snapshot with
  | none => exact HashMap.Keyed.empty
  | some snapshot =>
    rw [hsnapshot] at hsnapshots
    exact sanitized_messages_keyed (hsnapshots snapshot List.mem_cons_self)

theorem sound_step (h : state.Sound) {op : ServiceOp} (hok : WrittenFirst state op) :
    (worker.step state op).Sound := by
  cases op with
  | receive recv inbox_read handler =>
    simp only [step]
    split
    · obtain ⟨-, hframe⟩ := worker.receive_frame state handler inbox_read
      exact h.of_op hframe hok (receive_op ..)
    · exact h
  | mark inbox_write =>
    simp only [step]
    split
    · unfold mark
      split <;> exact h.sublist rfl (.refl _) (.refl _)
    · exact h
  | commit answer =>
    simp only [step]
    split
    · exact h.sublist rfl (.refl _) (.refl _)
    · exact h.sublist rfl (.refl _) (.refl _)
    · exact h
  | serve ctx op => exact h.of_op ⟨rfl, rfl, rfl⟩ hok (Or.inr ⟨op, rfl⟩)
  | persist_locked => exact h.persist_locked hok
  | borrow_and_update =>
    simp only [step]
    split
    · next snapshot hwatch hpersisting =>
      -- the list of the snapshots stays as it is, the last one is no longer waiting
      refine h.sublist rfl ?_ ?_
      · simp [ServiceState.snapshots, hwatch, hpersisting]
      · simp [ServiceState.stages, ServiceState.taken_stages, hwatch, hpersisting]
    · exact h
  | persist_store failure =>
    cases failure with
    | some err =>
      refine h.sublist rfl ?_ ?_
      · exact List.Sublist.append_right (List.Sublist.append_left (List.nil_sublist _) _) _
      · exact List.Sublist.append_right (List.Sublist.cons_cons _ (List.nil_sublist _)) _
    | none =>
      cases hpersisting : state.persisting with
      | none =>
        refine h.sublist rfl ?_ ?_
        · simp [step, ServiceState.snapshots, hpersisting]
        · simp [step, ServiceState.stages, ServiceState.taken_stages, hpersisting]
      | some snapshot =>
        refine h.sublist rfl ?_ ?_
        · simp [step, ServiceState.snapshots, hpersisting]
        · simp [step, ServiceState.stages, ServiceState.taken_stages, load_store, hpersisting]
  | restart =>
    refine ⟨load_store_keyed h, ?_, List.pairwise_singleton _ _, ?_⟩
    · intro snapshot hmem
      have hold : state.snapshot = some snapshot := by simpa [step, ServiceState.snapshots] using hmem
      exact h.snapshots_keyed snapshot (by simp [ServiceState.snapshots, hold])
    · intro stage hmem
      rw [List.mem_singleton.mp hmem]
      exact .refl _

theorem DurableRows.step (h : worker.DurableRows state) (hsound : state.Sound) {op : ServiceOp}
    (hok : WrittenFirst state op) : worker.DurableRows (worker.step state op) := by
  cases op with
  | receive recv inbox_read handler =>
    simp only [Worker.step]
    split
    · obtain ⟨hinbox, hsnapshot, -⟩ := worker.receive_frame state handler inbox_read
      intro row hrow hgroup message hrecorded
      rw [hinbox] at hrow
      rw [worker.receive_recorded handler inbox_read hrow hgroup] at hrecorded
      rw [hsnapshot]
      exact h row hrow hgroup message hrecorded
    · exact h
  | mark inbox_write =>
    simp only [Worker.step]
    split
    · next message hphase =>
      unfold Worker.mark
      split
      · next inbox hmarked =>
        intro row hrow hgroup recorded hrecorded
        rcases mem_of_mem_marked_inbox _ hmarked hrow with hold | ⟨rfl, hnew⟩
        · exact h row hold hgroup recorded hrecorded
        · rw [hnew] at hrecorded
          exact hok message hphase recorded hrecorded
      · exact h
    · exact h
  | commit answer =>
    simp only [Worker.step]
    split <;> exact h
  | serve ctx op => exact h
  | persist_locked => exact h
  | borrow_and_update =>
    simp only [Worker.step]
    split <;> exact h
  | persist_store failure =>
    intro row hrow hgroup message hrecorded
    have hrow' : row ∈ state.consumer.inbox := by cases failure <;> exact hrow
    have hrecorded' : state.recorded.lookup row.event_id = some message := by
      cases failure <;> exact hrecorded
    obtain ⟨stored, hstored, hsame⟩ := h row hrow' hgroup message hrecorded'
    obtain ⟨stored', hstored', hsame'⟩ := worker.persist_store_snapshot hsound failure _ stored hstored
    exact ⟨stored', hstored', hsame.trans hsame'⟩
  | restart => exact h

end Worker

/-- The handling of an event, a write of the store by the persisting task, and then the row:
so the row comes after the message. -/
theorem Worker.written_first_of_persisted {worker : Worker} {state : ServiceState} {handler : HandlerAnswers}
    {message : KafkaConsumerMessage} {recorded : Message} (hkeyed : state.messages.Keyed Message.id)
    (hidle : state.phase = .idle) (hpersisting : state.persisting = none)
    (hmessage : worker.partition.message state.consumer.position = .ok message)
    (hunknown : event_inbox_processed state.consumer.inbox worker.consumer_group message.event
      message.source = false)
    (hrecorded : recorded_message worker.service state.consumer.world.inner handler message.event =
      some recorded)
    (hkept : recorded.id ∉ removed_message_ids
      (worker.receive state handler none).consumer.world.inner.to_persisted) :
    WrittenFirst ([.receive none none handler, .persist_locked, .borrow_and_update, .persist_store none].foldl
      worker.step state) (.mark none) := by
  obtain ⟨hworld, hentered, hphase⟩ := worker.receive_handled handler hmessage hunknown hrecorded
  have hwritten : [.receive none none handler, .persist_locked, .borrow_and_update, .persist_store none].foldl
      worker.step state =
      { worker.receive state handler none with
        watch := none
        snapshot := some (PersistedStore.from_inner (worker.receive state handler none).consumer.world.inner)
        persisting := none } := by
    have hfree := (worker.receive_frame state handler none).2.2.1.trans hpersisting
    simp [step, hidle, hfree]
  rw [hwritten]
  intro handled hhandled found hfound
  rw [hphase handled hhandled] at hfound
  rw [hentered, Option.some.injEq] at hfound
  rw [← hfound]
  obtain ⟨stored, hstored, hsame⟩ := recorded_message_held hkeyed hrecorded
  refine ⟨stored, ?_, hsame⟩
  rw [← hworld] at hstored
  exact (into_inner_from_inner_messages_lookup ..).trans ((if_neg hkept).trans hstored)

/-- A service on an empty database, before its worker has taken anything. -/
def ServiceState.start : ServiceState where
  consumer := { position := 0, committed := 0, inbox := [], world := { inner := {}, deadletters := [] } }
  phase := .idle
  watch := none
  persisting := none
  snapshot := none
  recorded := ∅

theorem ServiceState.start_sound : ServiceState.start.Sound := by
  refine ⟨HashMap.Keyed.empty, ?_, List.pairwise_singleton _ _, ?_⟩
  · intro snapshot hmem
    cases hmem
  · intro stage hmem
    rw [List.mem_singleton.mp hmem]
    exact .refl _

/-- Wherever a run stops in which a message is in the database before the row of
its event is, a start finds the messages of all the rows. -/
theorem recorded_messages_durable (worker : Worker) {ops : List ServiceOp} {state : ServiceState}
    (hrun : Run (Guarded (OfFun worker.step) Worker.WrittenFirst) .start ops state) :
    worker.DurableRows state := by
  have hstep : ∀ s op t, s.Sound ∧ worker.DurableRows s →
      Guarded (OfFun worker.step) Worker.WrittenFirst s op t → t.Sound ∧ worker.DurableRows t := by
    rintro s op t ⟨hsound, hrows⟩ ⟨hok, rfl⟩
    exact ⟨Worker.sound_step hsound hok, hrows.step hsound hok⟩
  refine (Run.invariant hstep hrun ⟨ServiceState.start_sound, ?_⟩).2
  intro row hrow
  cases hrow

namespace sample

open rustzap.state.sample

/-- A text, as it comes in from the session. -/
def raw_text_event : CommonEvent :=
  new_event (ctx 1 "k") 0 "whatsapp.raw.inbound" "acme" "company_a" (some "channel_a") none none none
    (.object [("event", .object [("Message", .object [
        ("chat_jid", .string "5511988887777@s.whatsapp.net"),
        ("created_at_wa", .array ([1970, 1, 0, 0, 1, 0, 0, 0, 0].map .number)),
        ("is_from_me", .bool false), ("media", .null), ("message_type", .string "text"),
        ("push_name", .null), ("recipient_alt_jid", .null), ("recipient_jid", .null),
        ("sender_alt_jid", .null), ("sender_jid", .string "5511988887777@s.whatsapp.net"),
        ("text", .string "oi"), ("wa_message_id", .string "3EB0A0")])]),
      ("runtime", .object [("channel_id", .string "channel_a"), ("company_id", .string "company_a"),
        ("project_id", .string "acme")])])

def raw_text_json : String :=
  "\x7b\"event_id\":\"evt_k0\",\"event_type\":\"whatsapp.raw.inbound\",\"project_id\":\"acme\"" ++
    ",\"company_id\":\"company_a\",\"channel_id\":\"channel_a\",\"conversation_id\":null" ++
    ",\"message_id\":null,\"conversation_seq\":null,\"trace_id\":\"trace_k1\"" ++
    ",\"causation_id\":null,\"correlation_id\":\"corr_k2\"" ++
    ",\"occurred_at\":\"1970-01-01T00:00:01Z\",\"produced_at\":\"1970-01-01T00:00:01Z\"" ++
    ",\"payload\":\x7b\"event\":\x7b\"Message\":\x7b\"chat_jid\":\"5511988887777@s.whatsapp.net\"" ++
    ",\"created_at_wa\":[1970,1,0,0,1,0,0,0,0],\"is_from_me\":false,\"media\":null" ++
    ",\"message_type\":\"text\",\"push_name\":null,\"recipient_alt_jid\":null" ++
    ",\"recipient_jid\":null,\"sender_alt_jid\":null" ++
    ",\"sender_jid\":\"5511988887777@s.whatsapp.net\",\"text\":\"oi\"" ++
    ",\"wa_message_id\":\"3EB0A0\"\x7d\x7d,\"runtime\":\x7b\"channel_id\":\"channel_a\"" ++
    ",\"company_id\":\"company_a\",\"project_id\":\"acme\"\x7d\x7d\x7d"

/-- The worker of a partition that holds the one text. -/
def raw_text : Worker where
  service
  consumer_group := "rustzap-main.raw-inbound"
  partition :=
    { topic := "rustzap.raw.inbound"
      partition := 0
      log offset := if offset = 0 then some (media.ascii raw_text_json) else none
      decode_event_from_kafka _ := .ok raw_text_event }

def text_handler : HandlerAnswers where
  ctx := ctx 2 "a"
  raw_envelope := .ok (company_a, .Message (text_event "3EB0A0" 1 false))
  event := answers
  dispatch := { reconciled := false, connected := false, bytes := .ok [], send := .timed_out }
  transcription := { bytes := .ok [], result := .error "", ctx := ctx 2 "t" }
  insert_deadletter := none

/-- The text is taken and recorded, its row written and its offset committed
before the persisting task comes to run, and the service crashes. -/
def crashed : List ServiceOp :=
  [.receive none none text_handler, .persist_locked, .mark none, .commit none, .restart]

/-- The persisting task writes the store before the row is written. -/
def persisted : List ServiceOp :=
  [.receive none none text_handler, .persist_locked, .borrow_and_update, .persist_store none,
    .mark none, .commit none, .restart]

end sample

/-- The row of the text is there, a start finds no message at all. -/
theorem recorded_message_lost :
    ¬ ∀ ops state, Run (OfFun sample.raw_text.step) .start ops state →
      sample.raw_text.DurableRows state := by
  intro hdurable
  have hrun : Run (OfFun sample.raw_text.step) .start sample.crashed
      (sample.crashed.foldl sample.raw_text.step .start) :=
    .cons rfl (.cons rfl (.cons rfl (.cons rfl (.cons rfl (.nil _)))))
  have hrows := hdurable _ _ hrun
  obtain ⟨message, hmessage⟩ : ∃ message,
      (sample.crashed.foldl sample.raw_text.step .start).recorded.lookup "evt_k0" = some message := by
    rw [← Option.isSome_iff_exists]
    decide
  obtain ⟨stored, hstored, -⟩ := hrows
    { event_id := "evt_k0", consumer_group := "rustzap-main.raw-inbound",
      source := { topic := "rustzap.raw.inbound", partition := 0, offset := 0 } } (by decide) rfl
    message hmessage
  have hnone : (load_store (sample.crashed.foldl sample.raw_text.step .start).snapshot).messages_by_id =
    ∅ := rfl
  rw [hnone] at hstored
  cases hstored

/-- With the snapshot written before the row, a start finds the text. -/
theorem persisted_text_durable :
    sample.raw_text.DurableRows (sample.persisted.foldl sample.raw_text.step .start) := by
  have hheld : ∀ state : ServiceState, (state.recorded.lookup "evt_k0").all (fun message =>
      (load_store state.snapshot).messages_by_id.lookup message.id = some message) = true →
      ∀ recorded, state.recorded.lookup "evt_k0" = some recorded →
        Holds (load_store state.snapshot) recorded := by
    intro state hall recorded hrecorded
    rw [hrecorded] at hall
    exact ⟨recorded, of_decide_eq_true hall, .refl recorded⟩
  have hrun : Run (Guarded (OfFun sample.raw_text.step) Worker.WrittenFirst) .start sample.persisted
      (sample.persisted.foldl sample.raw_text.step .start) := by
    refine .cons ⟨rfl, rfl⟩ (.cons ⟨?_, rfl⟩ (.cons ⟨trivial, rfl⟩ (.cons ⟨trivial, rfl⟩
      (.cons ⟨?_, rfl⟩ (.cons ⟨trivial, rfl⟩ (.cons ⟨trivial, rfl⟩ (.nil _)))))))
    · intro stage hstage id message hmessage
      rw [List.mem_singleton.mp hstage] at hmessage
      cases hmessage
    · intro message hphase
      have hevent : message.event.event_id = "evt_k0" := by
        cases hphase
        rfl
      rw [hevent]
      exact hheld _ (by decide)
  exact recorded_messages_durable sample.raw_text hrun

end rustzap.workers
