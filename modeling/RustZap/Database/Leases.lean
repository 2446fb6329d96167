import RustZap.Database.Drainers
import RustZap.Database.Projection

open collections runs
open rustzap.models

namespace rustzap.db

open rustzap.eventbus rustzap.state

/-- A record that a worker has claimed and is not done with. -/
structure Held where
  worker_id : String
  record : OutboxRecord
  locked_until : OffsetDateTime

/-- The clock of the database, its tables, and what the workers have in hand. -/
structure LeaseState where
  now : OffsetDateTime := 0
  world : DrainWorld := {}
  held : List Held := []

/-- What happens around the outbox. A worker that publishes or processes a record
does so with the statements at the end, however long it was busy before. -/
inductive LeaseOp where
  | wait (nanoseconds : Nat)
  | claim (worker_id : String) (limit : Nat) (lock_seconds : Int) (row_locked : String → Bool)
  | publish (worker_id event_id : String) (kafka : KafkaEventBus) (answers : PublishAnswers)
  | process (worker_id event_id : String) (app : AppState) (kafka : config.KafkaConfig) (answers : DrainAnswers)
  | stop (worker_id : String)
  | insert (event : CommonEvent) (topic partition_key : String)
  | persist (db : MetadataDb) (answers : PersistAnswers) (store : PersistedStore)
  | replay (kafka : config.KafkaConfig) (event : CommonEvent)

def Held.of (worker_id event_id : String) (held : Held) : Bool :=
  held.worker_id = worker_id && held.record.event_id = event_id

namespace LeaseState

variable (self : LeaseState)

def outbox : Outbox :=
  self.world.tables.event_outbox

def set_outbox (outbox : Outbox) : LeaseState :=
  { self with world := { self.world with tables := { self.world.tables with event_outbox := outbox } } }

/-- A worker claims when it is done with the batch before. -/
def claim (worker_id : String) (limit : Nat) (lock_seconds : Int) (row_locked : String → Bool) : LeaseState :=
  if self.held.any fun held => held.worker_id = worker_id then self
  else
    let claimed := claim_event_outbox_batch self.now worker_id limit lock_seconds row_locked self.outbox
    { self.set_outbox claimed.2 with
      held := self.held ++ claimed.1.map fun record =>
        { worker_id, record, locked_until := self.now + Duration.seconds (max lock_seconds 1) } }

/-- A worker finishes with a record that it holds. -/
def finish (worker_id event_id : String) (work : OutboxRecord → DrainWorld → DrainWorld) : LeaseState :=
  match self.held.find? (Held.of worker_id event_id) with
  | none => self
  | some held => { self with
      world := work held.record self.world
      held := self.held.filter fun held => !held.of worker_id event_id }

def apply : LeaseOp → LeaseState
  | .wait nanoseconds => { self with now := self.now + nanoseconds }
  | .claim worker_id limit lock_seconds row_locked => self.claim worker_id limit lock_seconds row_locked
  | .publish worker_id event_id kafka answers =>
    self.finish worker_id event_id fun record world => { world with
      tables := publish_outbox_record kafka { answers with now := self.now } record world.tables }
  | .process worker_id event_id app kafka answers =>
    self.finish worker_id event_id fun record world =>
      process_postgres_outbox_record app kafka { answers with now := self.now } record world
  | .stop worker_id => { self with held := self.held.filter fun held => held.worker_id ≠ worker_id }
  | .insert event topic partition_key =>
    self.set_outbox ((insert_event_outbox event topic partition_key).execute self.now self.outbox)
  | .persist db answers store =>
    self.set_outbox (db.persist_snapshot_and_outbox { answers with transaction_at := self.now } store
      { event_outbox := self.outbox }).2.event_outbox
  | .replay kafka event =>
    self.set_outbox ((enqueue_replayed_event kafka event).execute self.now self.outbox)

end LeaseState

/-- The record that a step is the end of. -/
def LeaseOp.finishes : LeaseOp → Option (String × String)
  | .publish worker_id event_id _ _ | .process worker_id event_id _ _ _ => some (worker_id, event_id)
  | _ => none

/-- Workers finish before their lock runs out, and no event is replayed while a
worker is busy with it. -/
def InTime (state : LeaseState) (op : LeaseOp) : Prop :=
  (∀ worker_id event_id, op.finishes = some (worker_id, event_id) →
    ∀ held ∈ state.held, held.of worker_id event_id → state.now ≤ held.locked_until) ∧
  ∀ kafka event, op = .replay kafka event →
    ∀ held ∈ state.held, held.record.event_id = event.event_id → held.locked_until < state.now

/-- Somebody else has the lock of the row by now, or nobody. -/
def TakenOver (state : LeaseState) (held : Held) : Prop :=
  ∀ row, state.outbox.lookup held.record.event_id = some row → row.locked_by ≠ some held.worker_id

/-- A step keeps what is published, nobody claims it again, and a worker whose row
was taken over changes nothing about it. -/
structure KeepsPublished (before : LeaseState) (op : LeaseOp) (after : LeaseState) : Prop where
  published : ∀ event_id row, before.outbox.lookup event_id = some row → row.status = .published →
    (∀ kafka event, op = .replay kafka event → event.event_id ≠ event_id) →
    ∃ row', after.outbox.lookup event_id = some row' ∧ row'.status = .published
  unclaimed : ∀ held ∈ after.held, held ∈ before.held ∨
    ∀ row, before.outbox.lookup held.record.event_id = some row → row.status ≠ .published
  taken_over : ∀ worker_id event_id, op.finishes = some (worker_id, event_id) →
    ∀ held ∈ before.held, held.of worker_id event_id → TakenOver before held →
    after.outbox.lookup event_id = before.outbox.lookup event_id

/-- A worker whose lock has not run out has the lock of its row, and the row is not
published. -/
structure Leased (state : LeaseState) : Prop where
  live : ∀ held ∈ state.held, state.now ≤ held.locked_until →
    ∃ row, state.outbox.lookup held.record.event_id = some row ∧ row.locked_by = some held.worker_id ∧
      row.locked_until = some held.locked_until ∧ row.status ≠ .published
  distinct : (state.held.map fun held => (held.worker_id, held.record.event_id)).Nodup

/-- Work on a record changes the row of the record only. -/
def OnlyItsRow (work : OutboxRecord → DrainWorld → DrainWorld) : Prop :=
  ∀ record world, ∃ change : OutboxRow → OutboxRow, ∀ query,
    (work record world).tables.event_outbox.lookup query =
      if query = record.event_id then (world.tables.event_outbox.lookup query).map change
      else world.tables.event_outbox.lookup query

theorem Drainer.only_its_row {A : Type} (drainer : Drainer A) (answers : A) :
    OnlyItsRow (drainer.process answers) := by
  intro record world
  rw [drainer.process_marks]
  cases drainer.refused answers with
  | none => exact ⟨_, fun query => Mark.lookup_execute ..⟩
  | some err =>
    refine ⟨id, fun query => ?_⟩
    rw [Option.map_id, id, ite_self]
    rfl

section Steps

variable {state : LeaseState}

/-- Of the workers only one is in time with a row. -/
theorem Leased.unique (h : Leased state) {first second : Held} (hfirst : first ∈ state.held)
    (hsecond : second ∈ state.held) (hlive : state.now ≤ first.locked_until)
    (hlive' : state.now ≤ second.locked_until)
    (hevent : first.record.event_id = second.record.event_id) : first = second := by
  obtain ⟨row, hrow, howner, -, -⟩ := h.live first hfirst hlive
  obtain ⟨row', hrow', howner', -, -⟩ := h.live second hsecond hlive'
  rw [hevent, hrow'] at hrow
  cases hrow
  have hworker : first.worker_id = second.worker_id := Option.some.inj (howner.symm.trans howner')
  exact List.inj_on_of_nodup_map h.distinct hfirst hsecond (Prod.ext hworker hevent)

theorem finish_cases (state : LeaseState) (worker_id event_id : String)
    (work : OutboxRecord → DrainWorld → DrainWorld) :
    (state.finish worker_id event_id work = state ∧ ∀ held ∈ state.held, held.of worker_id event_id = false) ∨
    ∃ held ∈ state.held, held.of worker_id event_id = true ∧
      state.finish worker_id event_id work = { state with
        world := work held.record state.world
        held := state.held.filter fun held => !held.of worker_id event_id } := by
  unfold LeaseState.finish
  cases hfound : state.held.find? (Held.of worker_id event_id) with
  | none => exact Or.inl ⟨rfl, fun held hmem => Bool.eq_false_iff.mpr (List.find?_eq_none.mp hfound held hmem)⟩
  | some held => exact Or.inr ⟨held, List.mem_of_find?_eq_some hfound, List.find?_some hfound, rfl⟩

theorem not_mem_next_events {event_id : String} {limit : Nat} {row_locked : String → Bool} {row : OutboxRow}
    (hrow : state.outbox.lookup event_id = some row) (hfree : row.claimable state.now = false) :
    event_id ∉ (next_events state.now limit row_locked state.outbox).keys := by
  intro hmem
  obtain ⟨⟨id, stored⟩, hentry, rfl⟩ := List.mem_map.mp hmem
  obtain ⟨hlookup, hclaimable⟩ := claimable_of_mem_next_events hentry
  cases hlookup.symm.trans hrow
  exact absurd (hclaimable.symm.trans hfree) (by decide)

/-- A row that is not up for a claim stays as it is. -/
theorem lookup_not_claimed {worker_id event_id : String} {limit : Nat} {lock_seconds : Int}
    {row_locked : String → Bool} {row : OutboxRow} (hrow : state.outbox.lookup event_id = some row)
    (hfree : row.claimable state.now = false) :
    (claim_event_outbox_batch state.now worker_id limit lock_seconds row_locked state.outbox).2.lookup
      event_id = some row := by
  rw [lookup_claimed, if_neg (not_mem_next_events hrow hfree)]
  exact hrow

theorem OutboxRow.not_claimable_of_locked {row : OutboxRow} {now until_ : OffsetDateTime}
    (huntil : row.locked_until = some until_) (hlive : now ≤ until_) : row.claimable now = false := by
  have hlocked : (row.locked_until.all fun until_ => until_ < now) = false := by
    rw [huntil]
    exact decide_eq_false (not_lt.mpr hlive)
  rw [OutboxRow.claimable, hlocked, Bool.and_false]

theorem OutboxRow.not_claimable_of_published {row : OutboxRow} (now : OffsetDateTime)
    (hstatus : row.status = .published) : row.claimable now = false := by
  rw [OutboxRow.claimable, hstatus]
  rfl

/-- A claim either does nothing or hands out rows that are not published, under a
lock of its own. -/
theorem claim_cases (state : LeaseState) (worker_id : String) (limit : Nat) (lock_seconds : Int)
    (row_locked : String → Bool) :
    state.claim worker_id limit lock_seconds row_locked = state ∨
    (∀ held ∈ state.held, held.worker_id ≠ worker_id) ∧
    ∃ batch : List Held,
      (state.claim worker_id limit lock_seconds row_locked).held = state.held ++ batch ∧
      (state.claim worker_id limit lock_seconds row_locked).now = state.now ∧
      (state.claim worker_id limit lock_seconds row_locked).outbox =
        (claim_event_outbox_batch state.now worker_id limit lock_seconds row_locked state.outbox).2 ∧
      (batch.map fun held => held.record.event_id) =
        (next_events state.now limit row_locked state.outbox).keys ∧
      ∀ held ∈ batch, held.worker_id = worker_id ∧
        held.locked_until = state.now + Duration.seconds (max lock_seconds 1) := by
  unfold LeaseState.claim
  split
  · exact Or.inl rfl
  · next hfree =>
    refine Or.inr ⟨fun held hmem heq => hfree (List.any_eq_true.mpr ⟨held, hmem, decide_eq_true heq⟩), _,
      rfl, rfl, rfl, ?_, ?_⟩
    · rw [claim_event_outbox_batch, List.map_map, List.map_map]
      rfl
    · intro held hmem
      obtain ⟨record, -, rfl⟩ := List.mem_map.mp hmem
      exact ⟨rfl, rfl⟩

theorem Leased.claim (h : Leased state) (worker_id : String) (limit : Nat) (lock_seconds : Int)
    (row_locked : String → Bool) : Leased (state.claim worker_id limit lock_seconds row_locked) := by
  rcases claim_cases state worker_id limit lock_seconds row_locked with
    hsame | ⟨hfree, batch, hheld, hnow, houtbox, hids, hbatch⟩
  · rw [hsame]
    exact h
  constructor
  case live =>
    intro held hmem hlive
    rw [hheld] at hmem
    rw [hnow] at hlive
    rw [houtbox]
    rcases List.mem_append.mp hmem with hold | hnew
    · obtain ⟨row, hrow, howner, huntil, hstatus⟩ := h.live held hold hlive
      have hlocked := OutboxRow.not_claimable_of_locked huntil hlive
      exact ⟨row, lookup_not_claimed hrow hlocked, howner, huntil, hstatus⟩
    · obtain ⟨hworker, huntil⟩ := hbatch held hnew
      have hclaimed : held.record.event_id ∈ (next_events state.now limit row_locked state.outbox).keys :=
        hids ▸ List.mem_map_of_mem hnew
      obtain ⟨⟨id, row⟩, hentry, hid⟩ := List.mem_map.mp hclaimed
      have hrow := (claimable_of_mem_next_events hentry).1
      rw [lookup_claimed, if_pos hclaimed, ← hid, hrow]
      refine ⟨_, rfl, ?_, ?_, nofun⟩
      · rw [hworker]
        rfl
      · rw [huntil]
        rfl
  case distinct =>
    rw [hheld, List.map_append]
    refine List.Nodup.append h.distinct ?_ ?_
    · refine List.Nodup.of_map Prod.snd ?_
      rw [List.map_map]
      change (batch.map fun held => held.record.event_id).Nodup
      rw [hids]
      exact next_events_keys_nodup ..
    · intro pair hold hnew
      obtain ⟨first, hfirst, rfl⟩ := List.mem_map.mp hold
      obtain ⟨second, hsecond, heq⟩ := List.mem_map.mp hnew
      have hworker : second.worker_id = first.worker_id := congrArg Prod.fst heq
      exact hfree first hfirst (hworker.symm.trans (hbatch second hsecond).1)

/-- Who drops records keeps the leases of the others. -/
theorem Leased.filter (h : Leased state) (keep : Held → Bool) :
    Leased { state with held := state.held.filter keep } where
  live held hmem hlive := h.live held (List.mem_of_mem_filter hmem) hlive
  distinct := h.distinct.sublist (List.filter_sublist.map _)

theorem Leased.finish (h : Leased state) {worker_id event_id : String}
    {work : OutboxRecord → DrainWorld → DrainWorld} (hwork : OnlyItsRow work)
    (hintime : ∀ held ∈ state.held, held.of worker_id event_id → state.now ≤ held.locked_until) :
    Leased (state.finish worker_id event_id work) := by
  rcases finish_cases state worker_id event_id work with ⟨hsame, -⟩ | ⟨held, hmem, hof, hfinish⟩
  · rw [hsame]
    exact h
  rw [hfinish]
  constructor
  case live =>
    intro other hother hlive
    obtain ⟨hstill, hnot⟩ := List.mem_filter.mp hother
    obtain ⟨row, hrow, howner, huntil, hstatus⟩ := h.live other hstill hlive
    obtain ⟨change, hchange⟩ := hwork held.record state.world
    refine ⟨row, ?_, howner, huntil, hstatus⟩
    refine (hchange _).trans ?_
    rw [if_neg]
    · exact hrow
    · intro hevent
      -- the other worker would have the same lock
      rw [h.unique hstill hmem hlive (hintime held hmem hof) hevent, hof] at hnot
      cases hnot
  case distinct => exact h.distinct.sublist (List.filter_sublist.map _)

/-- The statements that enter events leave the locks alone. -/
theorem Leased.set_outbox (h : Leased state) {outbox : Outbox}
    (hkept : ∀ held ∈ state.held, state.now ≤ held.locked_until →
      ∀ row, state.outbox.lookup held.record.event_id = some row →
      ∃ row', outbox.lookup held.record.event_id = some row' ∧ row'.locked_by = row.locked_by ∧
        row'.locked_until = row.locked_until ∧ (row'.status = .published → row.status = .published)) :
    Leased (state.set_outbox outbox) where
  live held hmem hlive := by
    obtain ⟨row, hrow, howner, huntil, hstatus⟩ := h.live held hmem hlive
    obtain ⟨row', hrow', howner', huntil', hstatus'⟩ := hkept held hmem hlive row hrow
    exact ⟨row', hrow', howner'.trans howner, huntil'.trans huntil, fun hpublished => hstatus (hstatus' hpublished)⟩
  distinct := h.distinct

theorem lookup_insert_event_outbox {event : CommonEvent} {topic partition_key event_id : String}
    {now : OffsetDateTime} {outbox : Outbox} {row : OutboxRow} (hrow : outbox.lookup event_id = some row) :
    ∃ row', ((insert_event_outbox event topic partition_key).execute now outbox).lookup event_id = some row' ∧
      row'.locked_by = row.locked_by ∧ row'.locked_until = row.locked_until ∧
      (row'.status = .published ↔ row.status = .published) := by
  rw [sql.Upsert.lookup_execute, hrow]
  split
  · refine ⟨_, rfl, rfl, rfl, ?_⟩
    change (if row.status = .published then row.status else .queued) = .published ↔ _
    split
    · exact Iff.rfl
    · next hnot => exact iff_of_false nofun hnot
  · exact ⟨row, rfl, rfl, rfl, Iff.rfl⟩

theorem lookup_persist_snapshot_and_outbox {db : MetadataDb} {answers : PersistAnswers}
    {store : PersistedStore} {outbox : Outbox} {event_id : String} {row : OutboxRow}
    (hrow : outbox.lookup event_id = some row) :
    (db.persist_snapshot_and_outbox answers store { event_outbox := outbox }).2.event_outbox.lookup event_id =
      some row := by
  unfold MetadataDb.persist_snapshot_and_outbox
  cases answers.transaction with
  | some err => exact hrow
  | none =>
    change (store.events.foldl _ outbox).lookup event_id = some row
    induction store.events generalizing outbox with
    | nil => exact hrow
    | cons event events ih =>
      refine ih ?_
      rw [sql.Upsert.lookup_execute, hrow]
      split <;> rfl

theorem lookup_replayed {kafka : config.KafkaConfig} {event : CommonEvent} {event_id : String}
    (hother : event.event_id ≠ event_id) (now : OffsetDateTime) (outbox : Outbox) :
    ((enqueue_replayed_event kafka event).execute now outbox).lookup event_id = outbox.lookup event_id := by
  rw [sql.Upsert.lookup_execute]
  exact if_neg hother.symm

theorem Leased.apply (h : Leased state) {op : LeaseOp} (hok : InTime state op) : Leased (state.apply op) := by
  cases op with
  | wait nanoseconds =>
    refine ⟨fun held hmem hlive => h.live held hmem (le_trans ?_ hlive), h.distinct⟩
    exact Int.le_add_of_nonneg_right (Int.natCast_nonneg nanoseconds)
  | claim worker_id limit lock_seconds row_locked => exact h.claim worker_id limit lock_seconds row_locked
  | publish worker_id event_id kafka answers =>
    exact h.finish ((outbox_publisher kafka worker_id).only_its_row { answers with now := state.now })
      (hok.1 worker_id event_id rfl)
  | process worker_id event_id app kafka answers =>
    exact h.finish ((postgres_event_drainer app kafka worker_id).only_its_row { answers with now := state.now })
      (hok.1 worker_id event_id rfl)
  | stop worker_id => exact h.filter _
  | insert event topic partition_key =>
    refine h.set_outbox fun held _ _ row hrow => ?_
    obtain ⟨row', hrow', howner, huntil, hstatus⟩ := lookup_insert_event_outbox hrow
    exact ⟨row', hrow', howner, huntil, hstatus.mp⟩
  | persist db answers store =>
    exact h.set_outbox fun held _ _ row hrow =>
      ⟨row, lookup_persist_snapshot_and_outbox hrow, rfl, rfl, id⟩
  | replay kafka event =>
    refine h.set_outbox fun held hmem hlive row hrow => ⟨row, ?_, rfl, rfl, id⟩
    rw [lookup_replayed]
    · exact hrow
    · exact fun hevent => absurd hlive (not_le.mpr (hok.2 kafka event rfl held hmem hevent.symm))

/-- Finishing in time touches no published row, and no row that was taken over. -/
theorem Leased.finish_keeps (h : Leased state) {worker_id event_id : String}
    {work : OutboxRecord → DrainWorld → DrainWorld} (hwork : OnlyItsRow work)
    (hintime : ∀ held ∈ state.held, held.of worker_id event_id → state.now ≤ held.locked_until) :
    (∀ id row, state.outbox.lookup id = some row → row.status = .published →
      (state.finish worker_id event_id work).outbox.lookup id = some row) ∧
    (∀ held ∈ (state.finish worker_id event_id work).held, held ∈ state.held) ∧
    ∀ held ∈ state.held, held.of worker_id event_id → ¬ TakenOver state held := by
  refine ⟨fun id row hrow hpublished => ?_, fun held hmem => ?_, fun held hmem hof htaken => ?_⟩
  · rcases finish_cases state worker_id event_id work with ⟨hsame, -⟩ | ⟨held, hmem, hof, hfinish⟩
    · rw [hsame]
      exact hrow
    · obtain ⟨change, hchange⟩ := hwork held.record state.world
      rw [hfinish]
      refine (hchange id).trans ?_
      rw [if_neg]
      · exact hrow
      · rintro rfl
        obtain ⟨_, hrow', -, -, hstatus⟩ := h.live held hmem (hintime held hmem hof)
        cases hrow.symm.trans hrow'
        exact hstatus hpublished
  · rcases finish_cases state worker_id event_id work with ⟨hsame, -⟩ | ⟨_, -, -, hfinish⟩
    · rwa [hsame] at hmem
    · rw [hfinish] at hmem
      exact List.mem_of_mem_filter hmem
  · obtain ⟨row, hrow, howner, -, -⟩ := h.live held hmem (hintime held hmem hof)
    exact htaken row hrow howner

theorem Leased.keeps (h : Leased state) {op : LeaseOp} (hok : InTime state op) :
    KeepsPublished state op (state.apply op) := by
  constructor
  case published =>
    intro event_id row hrow hpublished hreplay
    cases op with
    | wait nanoseconds => exact ⟨row, hrow, hpublished⟩
    | claim worker_id limit lock_seconds row_locked =>
      rcases claim_cases state worker_id limit lock_seconds row_locked with hsame | ⟨-, _, -, -, houtbox, -⟩
      · exact ⟨row, (congrArg (fun s => s.outbox.lookup event_id) hsame).trans hrow, hpublished⟩
      · refine ⟨row, (congrArg (fun outbox => outbox.lookup event_id) houtbox).trans ?_, hpublished⟩
        exact lookup_not_claimed hrow (OutboxRow.not_claimable_of_published state.now hpublished)
    | publish worker_id id kafka answers =>
      exact ⟨row, (h.finish_keeps ((outbox_publisher kafka worker_id).only_its_row _)
        (hok.1 worker_id id rfl)).1 event_id row hrow hpublished, hpublished⟩
    | process worker_id id app kafka answers =>
      exact ⟨row, (h.finish_keeps ((postgres_event_drainer app kafka worker_id).only_its_row _)
        (hok.1 worker_id id rfl)).1 event_id row hrow hpublished, hpublished⟩
    | stop worker_id => exact ⟨row, hrow, hpublished⟩
    | insert event topic partition_key =>
      obtain ⟨row', hrow', -, -, hstatus⟩ := lookup_insert_event_outbox hrow
      exact ⟨row', hrow', hstatus.mpr hpublished⟩
    | persist db answers store => exact ⟨row, lookup_persist_snapshot_and_outbox hrow, hpublished⟩
    | replay kafka event => exact ⟨row, (lookup_replayed (hreplay kafka event rfl) _ _).trans hrow, hpublished⟩
  case unclaimed =>
    intro held hmem
    cases op with
    | claim worker_id limit lock_seconds row_locked =>
      rcases claim_cases state worker_id limit lock_seconds row_locked with
        hsame | ⟨-, batch, hheld, -, -, hids, -⟩
      · exact Or.inl (hsame ▸ hmem)
      · have hmem' : held ∈ state.held ++ batch := hheld ▸ hmem
        rcases List.mem_append.mp hmem' with hold | hnew
        · exact Or.inl hold
        · refine Or.inr fun row hrow hpublished => ?_
          have hclaimed := List.mem_map_of_mem (f := fun held : Held => held.record.event_id) hnew
          rw [hids] at hclaimed
          exact not_mem_next_events hrow (OutboxRow.not_claimable_of_published state.now hpublished) hclaimed
    | publish worker_id id kafka answers =>
      exact Or.inl ((h.finish_keeps ((outbox_publisher kafka worker_id).only_its_row _)
        (hok.1 worker_id id rfl)).2.1 held hmem)
    | process worker_id id app kafka answers =>
      exact Or.inl ((h.finish_keeps ((postgres_event_drainer app kafka worker_id).only_its_row _)
        (hok.1 worker_id id rfl)).2.1 held hmem)
    | stop worker_id => exact Or.inl (List.mem_of_mem_filter hmem)
    | wait nanoseconds => exact Or.inl hmem
    | insert event topic partition_key => exact Or.inl hmem
    | persist db answers store => exact Or.inl hmem
    | replay kafka event => exact Or.inl hmem
  case taken_over =>
    intro worker_id event_id hfinishes held hmem hof htaken
    obtain ⟨row, hrow, howner, -, -⟩ := h.live held hmem (hok.1 worker_id event_id hfinishes held hmem hof)
    exact absurd howner (htaken row hrow)

end Steps

/-- In a run in which every worker finishes before its lock runs out, and no event
is replayed while a worker is busy with it, every step keeps what is published. -/
theorem published_stays_published {start state : LeaseState} {ops : List LeaseOp} {op : LeaseOp}
    (hstart : start.held = []) (hrun : Run (Guarded (OfFun LeaseState.apply) InTime) start ops state)
    (hok : InTime state op) : KeepsPublished state op (state.apply op) := by
  have hstep : ∀ s op t, Leased s → Guarded (OfFun LeaseState.apply) InTime s op t → Leased t := by
    rintro s op t h ⟨hok, rfl⟩
    exact h.apply hok
  have hleased : Leased state := by
    refine Run.invariant hstep hrun ⟨fun held hmem => ?_, ?_⟩
    · rw [hstart] at hmem
      cases hmem
    · rw [hstart]
      exact List.nodup_nil
  exact hleased.keeps hok

namespace sample

open rustzap.workers.sample

/-- An event is enqueued, and a worker claims it. -/
def claimed : List LeaseOp :=
  [.insert raw_event "rustzap.raw.inbound" "acme:company_a:channel_a", .claim "outbox-a" 100 30 fun _ => false]

/-- The worker publishes it in time. -/
def published : List LeaseOp :=
  claimed ++ [.publish "outbox-a" "evt_k0" kafka acknowledged]

/-- The broker keeps the worker waiting. Another one claims the event meanwhile, and
publishes it. -/
def overtaken : List LeaseOp :=
  claimed ++ [.wait (31 * 1000000000), .claim "outbox-b" 100 30 fun _ => false,
    .publish "outbox-b" "evt_k0" kafka acknowledged]

def timed_out : LeaseOp :=
  .publish "outbox-a" "evt_k0" kafka { acknowledged with publish := .error "Kafka error: Local: Message timed out" }

def leases (ops : List LeaseOp) : LeaseState :=
  ops.foldl LeaseState.apply {}

theorem run_leases (ops : List LeaseOp) : Run (OfFun LeaseState.apply) {} ops (leases ops) :=
  .foldl _ _ ops

end sample

/-- What was published in time is not claimed again. -/
theorem published_in_time_stays :
    KeepsPublished (sample.leases sample.published) (.claim "outbox-b" 100 30 fun _ => false)
      ((sample.leases sample.published).apply (.claim "outbox-b" 100 30 fun _ => false)) := by
  have hintime : ∀ state op, op.finishes = none → (∀ kafka event, op ≠ .replay kafka event) →
      InTime state op := by
    intro state op hfinishes hreplay
    refine ⟨fun worker_id event_id h => ?_, fun kafka event h => absurd h (hreplay kafka event)⟩
    rw [hfinishes] at h
    cases h
  have hpublish : InTime (sample.leases sample.claimed)
      (.publish "outbox-a" "evt_k0" sample.kafka sample.acknowledged) := by
    have hall : ((sample.leases sample.claimed).held.all fun held =>
        (sample.leases sample.claimed).now ≤ held.locked_until) = true := by decide
    constructor
    · intro worker_id event_id _ held hmem _
      exact of_decide_eq_true (List.all_eq_true.mp hall held hmem)
    · intro kafka event h
      cases h
  have hinsert : ∀ state event topic partition_key, InTime state (.insert event topic partition_key) := by
    intro state event topic partition_key
    exact hintime _ _ rfl fun _ _ h => by cases h
  have hclaim : ∀ state worker_id limit lock_seconds row_locked,
      InTime state (.claim worker_id limit lock_seconds row_locked) := by
    intro state worker_id limit lock_seconds row_locked
    exact hintime _ _ rfl fun _ _ h => by cases h
  have hrun : Run (Guarded (OfFun LeaseState.apply) InTime) {} sample.published
      (sample.leases sample.published) :=
    .cons ⟨hinsert _ _ _ _, rfl⟩ (.cons ⟨hclaim _ _ _ _ _, rfl⟩ (.cons ⟨hpublish, rfl⟩ (.nil _)))
  exact published_stays_published rfl hrun (hclaim _ _ _ _ _)

/-- A worker that was overtaken marks the published event as failed. -/
theorem overtaken_worker_unpublishes :
    ¬ ∀ (start state : LeaseState) (ops : List LeaseOp) (op : LeaseOp), start.held = [] →
      Run (OfFun LeaseState.apply) start ops state → KeepsPublished state op (state.apply op) := by
  intro hclaim
  have hkeeps := hclaim {} (sample.leases sample.overtaken) sample.overtaken sample.timed_out rfl
    (sample.run_leases _)
  have hbefore : ((sample.leases sample.overtaken).outbox.lookup "evt_k0").map OutboxRow.status =
      some .published := by decide
  have hafter : (((sample.leases sample.overtaken).apply sample.timed_out).outbox.lookup "evt_k0").map
      OutboxRow.status = some .failed := by decide
  obtain ⟨row, hrow, hpublished⟩ := Option.map_eq_some_iff.mp hbefore
  have hreplay : ∀ kafka event, sample.timed_out = .replay kafka event → event.event_id ≠ "evt_k0" := by
    intro kafka event h
    rw [sample.timed_out] at h
    cases h
  obtain ⟨row', hrow', hpublished'⟩ := hkeeps.published "evt_k0" row hrow hpublished hreplay
  rw [hrow', Option.map_some, hpublished'] at hafter
  exact absurd hafter (by decide)

end rustzap.db
