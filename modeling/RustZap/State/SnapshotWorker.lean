import RustZap.Database.Leases
import RustZap.Lib.Watch

open collections runs watch
open rustzap.db rustzap.models

namespace rustzap.state

/-- The service that keeps its metadata in a database, with the task that writes it. Of the
database there are the snapshot, the outbox with the workers that drain it, and the tables. -/
structure SnapshotWorker where
  inner : StoreInner := {}
  metadata_persist_tx : Sender PersistedStore := channel {}
  metadata_persist_rx : Receiver := ⟨0⟩
  persisting : Option PersistedStore := none
  metadata_snapshot : Option PersistedStore := none
  event_outbox : LeaseState := {}
  tables : Tables := {}

inductive SnapshotOp where
  | update (inner : StoreInner)
  | persist_locked (snapshot : PersistedStore)
  | borrow_changed
  | persist_store (snapshot : PersistedStore) (stored : Bool)
  | outbox (op : LeaseOp)
  | restart

namespace SnapshotWorker

def database (self : SnapshotWorker) : Database where
  metadata_snapshot := self.metadata_snapshot
  event_outbox := self.event_outbox.outbox
  tables := self.tables

def set_database (self : SnapshotWorker) (database : Database) : SnapshotWorker :=
  { self with
    metadata_snapshot := database.metadata_snapshot
    event_outbox := self.event_outbox.set_outbox database.event_outbox
    tables := database.tables }

/-- The service starts anew from what the database has. The workers that held events are gone. -/
def restarted (self : SnapshotWorker) : SnapshotWorker where
  inner := (self.metadata_snapshot.map PersistedStore.into_inner).getD {}
  metadata_snapshot := self.metadata_snapshot
  event_outbox := { self.event_outbox with held := [] }
  tables := self.tables

/-- The steps of the service, whatever its operations do to the store, of the task, and of the
workers of the outbox. The task goes on whatever it is told, and a restart may come at any time. -/
inductive Step : SnapshotWorker → SnapshotOp → SnapshotWorker → Prop
  | update {worker : SnapshotWorker} (inner : StoreInner) : Step worker (.update inner) { worker with inner }
  | persist_locked {worker : SnapshotWorker} :
      Step worker (.persist_locked (PersistedStore.from_inner worker.inner)) { worker with
        metadata_persist_tx :=
          worker.metadata_persist_tx.send_replace (PersistedStore.from_inner worker.inner) }
  | borrow_changed {worker : SnapshotWorker} {snapshot : PersistedStore} {rx : Receiver}
      (hidle : worker.persisting = none)
      (hchanged : worker.metadata_persist_rx.borrow_changed worker.metadata_persist_tx = some (snapshot, rx)) :
      Step worker .borrow_changed { worker with metadata_persist_rx := rx, persisting := some snapshot }
  | persist_store {worker : SnapshotWorker} {snapshot : PersistedStore} (metadata_db : MetadataDb)
      (answers : PersistAnswers) (hpersisting : worker.persisting = some snapshot) :
      Step worker (.persist_store snapshot answers.transaction.isNone) (set_database
        { worker with persisting := none } (metadata_db.persist_store answers snapshot worker.database).2)
  | outbox {worker : SnapshotWorker} (op : LeaseOp) (hother : ∀ db answers store, op ≠ .persist db answers store) :
      Step worker (.outbox op) { worker with event_outbox := worker.event_outbox.apply op }
  | restart {worker : SnapshotWorker} : Step worker .restart worker.restarted

/-- What a call of `persist_store` does to the snapshot and the outbox is decided by its
transaction. The relational tables come after it. -/
theorem persist_store_cases (metadata_db : MetadataDb) (answers : PersistAnswers) (store : PersistedStore)
    (database : Database) :
    (answers.transaction.isNone = false ∧ (metadata_db.persist_store answers store database).2 = database) ∨
    answers.transaction.isNone = true ∧
      (metadata_db.persist_store answers store database).2.metadata_snapshot = some store ∧
      (metadata_db.persist_store answers store database).2.event_outbox =
        store.events.foldl (fun outbox event =>
          (enqueue_outbox_event metadata_db.kafka event).execute answers.transaction_at outbox)
          database.event_outbox := by
  rw [MetadataDb.persist_store, MetadataDb.persist_snapshot_and_outbox]
  cases answers.transaction with
  | some err => exact Or.inl ⟨rfl, rfl⟩
  | none => exact Or.inr ⟨rfl, rfl, rfl⟩

end SnapshotWorker

namespace SnapshotOp

def sent : SnapshotOp → Option PersistedStore
  | persist_locked snapshot => some snapshot
  | _ => none

def attempted : SnapshotOp → Option (PersistedStore × Bool)
  | persist_store snapshot stored => some (snapshot, stored)
  | _ => none

def stored : SnapshotOp → Option PersistedStore
  | persist_store snapshot true => some snapshot
  | _ => none

end SnapshotOp

namespace SnapshotWorker

/-- The task has nothing to do. -/
def Idle (worker : SnapshotWorker) : Prop :=
  worker.persisting = none ∧ worker.metadata_persist_rx.borrow_changed worker.metadata_persist_tx = none

/-- What the operations so far have come to. `past` was sent before the last restart, and
`taken` is what the task has taken since. -/
structure Account (first : Option PersistedStore) (ops : List SnapshotOp) (past taken : List PersistedStore)
    (worker : SnapshotWorker) : Prop where
  sent : ops.filterMap SnapshotOp.sent = past ++ worker.metadata_persist_tx.sent
  follows : Follows worker.metadata_persist_tx worker.metadata_persist_rx taken
  stored : ∃ done, taken = done ++ worker.persisting.toList ∧
    (ops.filterMap SnapshotOp.stored).Sublist (past ++ done)
  database : worker.metadata_snapshot = (ops.filterMap SnapshotOp.stored).getLast?.or first
  last : worker.persisting = none → ∀ snapshot, taken.getLast? = some snapshot →
    ∃ stored, (ops.filterMap SnapshotOp.attempted).getLast? = some (snapshot, stored) ∧
      (stored = true → worker.metadata_snapshot = some snapshot)

variable {worker worker' : SnapshotWorker} {first : Option PersistedStore} {ops : List SnapshotOp}
  {past taken : List PersistedStore} {op : SnapshotOp}

theorem Account.start (first : SnapshotWorker) : Account first.metadata_snapshot [] [] [] first.restarted where
  sent := rfl
  follows := .fresh _
  stored := ⟨[], rfl, List.Sublist.refl _⟩
  database := rfl
  last _ _ h := nomatch h

/-- What is neither sent nor written changes nothing of the account. -/
theorem Account.quiet (h : Account first ops past taken worker) (op : SnapshotOp) (hsent : op.sent = none)
    (hattempted : op.attempted = none) (hstored : op.stored = none) (inner : StoreInner)
    (event_outbox : LeaseState) : Account first (ops ++ [op]) past taken { worker with inner, event_outbox } := by
  refine ⟨?_, h.follows, ?_, ?_, fun hidle snapshot hlast => ?_⟩
  · rw [List.filterMap_append, List.filterMap_cons_none hsent, List.filterMap_nil, List.append_nil]
    exact h.sent
  · rw [List.filterMap_append, List.filterMap_cons_none hstored, List.filterMap_nil, List.append_nil]
    exact h.stored
  · rw [List.filterMap_append, List.filterMap_cons_none hstored, List.filterMap_nil, List.append_nil]
    exact h.database
  · rw [List.filterMap_append, List.filterMap_cons_none hattempted, List.filterMap_nil, List.append_nil]
    exact h.last hidle snapshot hlast

theorem Account.step (h : Account first ops past taken worker) (hstep : Step worker op worker') :
    ∃ past taken, Account first (ops ++ [op]) past taken worker' := by
  cases hstep with
  | update inner => exact ⟨past, taken, h.quiet (.update inner) rfl rfl rfl inner worker.event_outbox⟩
  | persist_locked =>
    have hquiet : (ops ++ [SnapshotOp.persist_locked (PersistedStore.from_inner worker.inner)]).filterMap
        SnapshotOp.stored = ops.filterMap SnapshotOp.stored := by
      rw [List.filterMap_append, List.filterMap_cons_none rfl, List.filterMap_nil, List.append_nil]
    refine ⟨past, taken, ?_, h.follows.send_replace _, ?_, ?_, fun hidle snapshot hlast => ?_⟩
    · rw [List.filterMap_append, h.sent, List.append_assoc]
      rfl
    · rw [hquiet]
      exact h.stored
    · rw [hquiet]
      exact h.database
    · rw [List.filterMap_append, List.filterMap_cons_none rfl, List.filterMap_nil, List.append_nil]
      exact h.last hidle snapshot hlast
  | @borrow_changed snapshot rx hidle hchanged =>
    obtain ⟨done, htaken, hstored⟩ := h.stored
    rw [hidle, Option.toList_none, List.append_nil] at htaken
    subst htaken
    have hquiet := h.quiet .borrow_changed rfl rfl rfl worker.inner worker.event_outbox
    refine ⟨past, taken ++ [snapshot], hquiet.sent, (h.follows.borrow_changed hchanged).2,
      ⟨taken, rfl, ?_⟩, hquiet.database, nofun⟩
    rw [List.filterMap_append, List.filterMap_cons_none rfl, List.filterMap_nil, List.append_nil]
    exact hstored
  | outbox op hother =>
    exact ⟨past, taken, h.quiet (.outbox op) rfl rfl rfl worker.inner (worker.event_outbox.apply op)⟩
  | @persist_store snapshot metadata_db answers hpersisting =>
    obtain ⟨done, htaken, hstored⟩ := h.stored
    rw [hpersisting, Option.toList_some] at htaken
    have hsnapshot : (metadata_db.persist_store answers snapshot worker.database).2.metadata_snapshot =
        if answers.transaction.isNone then some snapshot else worker.metadata_snapshot := by
      rcases persist_store_cases metadata_db answers snapshot worker.database with
        ⟨hfailed, hsame⟩ | ⟨hdone, hsnapshot, -⟩
      · rw [hfailed, hsame]
        rfl
      · rw [hdone, hsnapshot]
        rfl
    refine ⟨past, taken, ?_, h.follows, ⟨taken, (List.append_nil _).symm, ?_⟩, ?_, fun _ last hlast => ?_⟩
    · rw [List.filterMap_append, List.filterMap_cons_none rfl, List.filterMap_nil, List.append_nil]
      exact h.sent
    · -- what the task had taken last is written last
      rw [List.filterMap_append, htaken, ← List.append_assoc]
      cases answers.transaction with
      | none => exact hstored.append (List.Sublist.refl _)
      | some err => exact hstored.append (List.nil_sublist _)
    · rw [List.filterMap_append]
      refine hsnapshot.trans ?_
      cases answers.transaction with
      | none =>
        change _ = (List.filterMap SnapshotOp.stored ops ++ [snapshot]).getLast?.or first
        rw [List.getLast?_concat, Option.some_or]
        rfl
      | some err =>
        change _ = (List.filterMap SnapshotOp.stored ops ++ []).getLast?.or first
        rw [List.append_nil]
        exact h.database
    · rw [htaken, List.getLast?_concat] at hlast
      cases hlast
      refine ⟨answers.transaction.isNone, ?_, fun htrue => hsnapshot.trans (if_pos htrue)⟩
      rw [List.filterMap_append]
      exact List.getLast?_concat
  | restart =>
    obtain ⟨done, htaken, hstored⟩ := h.stored
    have hquiet := h.quiet .restart rfl rfl rfl worker.inner worker.event_outbox
    refine ⟨past ++ worker.metadata_persist_tx.sent, [], ?_, .fresh _, ⟨[], rfl, ?_⟩, hquiet.database,
      fun _ _ hlast => nomatch hlast⟩
    · exact hquiet.sent.trans (List.append_nil _).symm
    · rw [List.filterMap_append, List.filterMap_cons_none rfl, List.filterMap_nil, List.append_nil,
        List.append_nil]
      have hdone : done.Sublist worker.metadata_persist_tx.sent := by
        refine List.Sublist.trans ?_ (h.follows.sublist.trans (List.take_sublist _ _))
        rw [htaken]
        exact List.sublist_append_left _ _
      exact hstored.trans (hdone.append_left past)

theorem Account.run {more : List SnapshotOp} (h : Account first ops past taken worker)
    (hrun : Run Step worker more worker') : ∃ past taken, Account first (ops ++ more) past taken worker' := by
  induction hrun generalizing ops past taken with
  | nil => exact ⟨past, taken, (List.append_nil ops).symm ▸ h⟩
  | @cons _ _ _ op more hstep _ ih =>
    obtain ⟨past, taken, hnext⟩ := h.step hstep
    rw [List.append_cons]
    exact ih hnext

/-- Whenever the service is restarted and whichever writes fail, the database never goes back: the
snapshots come into it in the order in which they were made, with some of them left out. Where
the task has nothing to do, the one that it wrote or tried to write last is the last one that was
made since the start. -/
theorem database_never_goes_back {first : SnapshotWorker} (hrun : Run Step first.restarted ops worker) :
    (ops.filterMap SnapshotOp.stored).Sublist (ops.filterMap SnapshotOp.sent) ∧
    worker.metadata_snapshot = (ops.filterMap SnapshotOp.stored).getLast?.or first.metadata_snapshot ∧
    (worker.Idle → ∀ snapshot, worker.metadata_persist_tx.sent.getLast? = some snapshot →
      ∃ stored, (ops.filterMap SnapshotOp.attempted).getLast? = some (snapshot, stored) ∧
        (stored = true → worker.metadata_snapshot = some snapshot)) := by
  obtain ⟨past, taken, h⟩ := (Account.start first).run hrun
  rw [List.nil_append] at h
  obtain ⟨done, htaken, hstored⟩ := h.stored
  refine ⟨?_, h.database, fun ⟨hidle, hunchanged⟩ snapshot hlast => h.last hidle snapshot ?_⟩
  · rw [h.sent]
    refine hstored.trans (List.Sublist.append_left ?_ past)
    refine List.Sublist.trans ?_ (h.follows.sublist.trans (List.take_sublist _ _))
    rw [htaken]
    exact List.sublist_append_left _ _
  · rw [h.follows.last_of_unchanged hunchanged, hlast]

/-- Every event of the snapshot in the database has a row in the outbox. -/
def Enqueued (worker : SnapshotWorker) : Prop :=
  ∀ store, worker.metadata_snapshot = some store → ∀ event ∈ store.events,
    (worker.event_outbox.outbox.lookup event.event_id).isSome

theorem isSome_finish {state : LeaseState} {work : OutboxRecord → DrainWorld → DrainWorld}
    (hwork : OnlyItsRow work) (worker_id id : String) {event_id : String}
    (h : (state.outbox.lookup event_id).isSome) :
    ((state.finish worker_id id work).outbox.lookup event_id).isSome := by
  rcases finish_cases state worker_id id work with ⟨hsame, -⟩ | ⟨held, -, -, hfinish⟩
  · rw [hsame]
    exact h
  · obtain ⟨change, hchange⟩ := hwork held.record state.world
    rw [hfinish]
    refine (congrArg Option.isSome (hchange event_id)).trans ?_
    split
    · rw [Option.isSome_map]
      exact h
    · exact h

/-- The workers change rows, and never remove one. -/
theorem isSome_apply {state : LeaseState} (op : LeaseOp) {event_id : String}
    (h : (state.outbox.lookup event_id).isSome) : ((state.apply op).outbox.lookup event_id).isSome := by
  cases op with
  | wait nanoseconds => exact h
  | claim worker_id limit lock_seconds row_locked =>
    rcases claim_cases state worker_id limit lock_seconds row_locked with hsame | ⟨-, _, -, -, houtbox, -⟩
    · exact (congrArg (fun s => (s.outbox.lookup event_id).isSome) hsame).trans h
    · refine (congrArg (fun outbox => (outbox.lookup event_id).isSome) houtbox).trans ?_
      rw [lookup_claimed]
      split
      · rw [Option.isSome_map]
        exact h
      · exact h
  | publish worker_id id kafka answers =>
    exact isSome_finish ((outbox_publisher kafka worker_id).only_its_row _) worker_id id h
  | process worker_id id app kafka answers =>
    exact isSome_finish ((postgres_event_drainer app kafka worker_id).only_its_row _) worker_id id h
  | stop worker_id => exact h
  | insert event topic partition_key =>
    obtain ⟨row, hrow⟩ := Option.isSome_iff_exists.mp h
    obtain ⟨row', hrow', -⟩ := lookup_insert_event_outbox hrow
    exact Option.isSome_iff_exists.mpr ⟨row', hrow'⟩
  | persist db answers store =>
    obtain ⟨row, hrow⟩ := Option.isSome_iff_exists.mp h
    exact Option.isSome_iff_exists.mpr ⟨row, lookup_persist_snapshot_and_outbox hrow⟩
  | replay kafka event =>
    refine (congrArg Option.isSome (sql.Upsert.lookup_execute ..)).trans ?_
    split
    · rfl
    · exact h

/-- After a transaction the outbox has the rows that it had, and one for each event. -/
theorem isSome_enqueued (kafka : config.KafkaConfig) (now : OffsetDateTime) (events : List CommonEvent)
    (outbox : Outbox) (event_id : String) :
    ((events.foldl (fun outbox event => (enqueue_outbox_event kafka event).execute now outbox) outbox).lookup
      event_id).isSome ↔
      (outbox.lookup event_id).isSome ∨ ∃ event ∈ events, event.event_id = event_id := by
  have hscript := sql.Upsert.lookup_execute_all_isSome
    (events.map fun event => (now, enqueue_outbox_event kafka event)) outbox event_id
  rw [sql.Upsert.execute_all, List.foldl_map, List.map_map] at hscript
  rw [hscript]
  refine or_congr Iff.rfl ⟨?_, ?_⟩
  · rintro ⟨upsert, hmem, rfl⟩
    obtain ⟨event, hevent, rfl⟩ := List.mem_map.mp hmem
    exact ⟨event, hevent, rfl⟩
  · rintro ⟨event, hevent, rfl⟩
    exact ⟨_, List.mem_map_of_mem hevent, rfl⟩

theorem Enqueued.step (h : worker.Enqueued) (hstep : Step worker op worker') : worker'.Enqueued ∧
    ∀ event_id, (worker.event_outbox.outbox.lookup event_id).isSome →
      (worker'.event_outbox.outbox.lookup event_id).isSome := by
  cases hstep with
  | update inner => exact ⟨h, fun _ hrow => hrow⟩
  | persist_locked => exact ⟨h, fun _ hrow => hrow⟩
  | borrow_changed hidle hchanged => exact ⟨h, fun _ hrow => hrow⟩
  | restart => exact ⟨h, fun _ hrow => hrow⟩
  | outbox op hother =>
    exact ⟨fun store hstore event hevent => isSome_apply op (h store hstore event hevent),
      fun _ hrow => isSome_apply op hrow⟩
  | @persist_store snapshot metadata_db answers hpersisting =>
    rcases persist_store_cases metadata_db answers snapshot worker.database with
      ⟨-, hsame⟩ | ⟨-, hsnapshot, houtbox⟩
    · rw [hsame]
      exact ⟨h, fun _ hrow => hrow⟩
    · have hrows (event_id : String) := isSome_enqueued metadata_db.kafka answers.transaction_at snapshot.events
        worker.database.event_outbox event_id
      rw [← houtbox] at hrows
      refine ⟨fun store hstore event hevent => (hrows _).mpr (Or.inr ⟨event, ?_, rfl⟩),
        fun event_id hrow => (hrows event_id).mpr (Or.inl hrow)⟩
      cases hsnapshot.symm.trans hstore
      exact hevent

/-- Whatever writes fail, whenever the service is restarted and whatever the workers do, the
events of the snapshot in the database are all in the outbox, and nothing ever leaves it: a state
does not become durable without the events that announce it. -/
theorem snapshot_events_enqueued {first : SnapshotWorker} (hfirst : first.Enqueued)
    (hrun : Run Step first ops worker) : worker.Enqueued ∧
      ∀ event_id, (first.event_outbox.outbox.lookup event_id).isSome →
        (worker.event_outbox.outbox.lookup event_id).isSome := by
  induction hrun with
  | nil => exact ⟨hfirst, fun _ hrow => hrow⟩
  | cons hstep _ ih =>
    obtain ⟨hnext, hrows⟩ := hfirst.step hstep
    obtain ⟨hlast, hrest⟩ := ih hnext
    exact ⟨hlast, fun event_id hrow => hrest event_id (hrows event_id hrow)⟩

end SnapshotWorker

namespace sample

open rustzap.workers.sample

def told : StoreInner := { events := [raw_event] }

def told_store : PersistedStore := PersistedStore.from_inner told

def refusing : MetadataDb where
  kafka := .from_env
  refuses _ _ _ := some "connection closed"

def committed : PersistAnswers where
  transaction_at := 0
  transaction := none
  statement_at _ := 0
  now_utc := 0

/-- The transaction goes through, and what comes after it does not. -/
def snapshot_ops : List SnapshotOp :=
  [.update told, .persist_locked told_store, .borrow_changed, .persist_store told_store true]

def written : SnapshotWorker :=
  SnapshotWorker.set_database {
      inner := told
      metadata_persist_tx := ⟨{}, [told_store]⟩
      metadata_persist_rx := ⟨1⟩ }
    (refusing.persist_store committed told_store {}).2

theorem storing : Run SnapshotWorker.Step (SnapshotWorker.restarted {}) snapshot_ops written :=
  .cons (.update told) <|
  .cons .persist_locked <|
  .cons (.borrow_changed rfl rfl) <|
  .cons (.persist_store refusing committed rfl) (.nil _)

end sample

open sample in
theorem database_never_goes_back_stored :
    [told_store].Sublist [told_store] ∧
    written.metadata_snapshot = some told_store ∧
    (written.Idle → ∀ snapshot, written.metadata_persist_tx.sent.getLast? = some snapshot →
      ∃ stored, (snapshot_ops.filterMap SnapshotOp.attempted).getLast? = some (snapshot, stored) ∧
        (stored = true → written.metadata_snapshot = some snapshot)) :=
  SnapshotWorker.database_never_goes_back (show Run _ (SnapshotWorker.restarted {}) _ _ from storing)

open sample in
theorem snapshot_events_enqueued_stored : written.Enqueued ∧
    ∀ event_id, ((SnapshotWorker.restarted {}).event_outbox.outbox.lookup event_id).isSome →
      (written.event_outbox.outbox.lookup event_id).isSome :=
  SnapshotWorker.snapshot_events_enqueued nofun storing

end rustzap.state
