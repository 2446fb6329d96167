import RustZap.Database.Publishing

open collections runs
open rustzap.error rustzap.models

namespace rustzap.db

open rustzap.eventbus rustzap.state rustzap.workers

/-- A worker that drains the outbox. Whatever else it does with a record, it ends
with one mark on its row. -/
structure Drainer (A : Type) where
  worker_id : String
  limit : Nat
  lock_seconds : Int
  process : A → OutboxRecord → DrainWorld → DrainWorld
  now : A → OffsetDateTime
  refused : A → Option String
  verdict : A → OutboxRecord → StoreInner → Mark
  process_marks : ∀ answers record world, (process answers record world).tables.event_outbox =
    (world.tables.mark (refused answers) (now answers) record.event_id
      (verdict answers record world.inner)).event_outbox

/-- The worker of `spawn_outbox_publisher`. -/
def outbox_publisher (kafka : KafkaEventBus) (worker_id : String) : Drainer PublishAnswers where
  worker_id
  limit := 100
  lock_seconds := 30
  process answers record world :=
    { world with tables := publish_outbox_record kafka answers record world.tables }
  now answers := answers.now
  refused answers := answers.mark
  verdict answers record _ := publish_mark kafka answers record
  process_marks answers record world := publish_outbox_record_outbox kafka answers record world.tables

/-- The worker of `spawn_postgres_event_drainer`. -/
def postgres_event_drainer (self : AppState) (kafka : config.KafkaConfig) (worker_id : String) :
    Drainer DrainAnswers where
  worker_id
  limit := 50
  lock_seconds := 30
  process := process_postgres_outbox_record self kafka
  now answers := answers.now
  refused answers := answers.mark
  verdict := drain_mark self kafka
  process_marks answers record world :=
    congrArg EventTables.event_outbox (process_postgres_outbox_record_tables self kafka answers record world)

def OutboxRow.record (self : OutboxRow) (event_id : String) : OutboxRecord where
  event_id
  topic := self.topic
  partition_key := self.partition_key
  payload_json := self.payload_json
  attempt_count := self.attempt_count

/-- One turn of the loop of a drainer: the clock at the claim, the rows that other
transactions hold then, and what each record meets. -/
structure DrainRound (A : Type) where
  claimed_at : OffsetDateTime
  row_locked : String → Bool
  answers : String → A

namespace Drainer

variable {A : Type} (self : Drainer A)

def next_events (world : DrainWorld) (round : DrainRound A) : List (Sigma fun _ : String => OutboxRow) :=
  db.next_events round.claimed_at self.limit round.row_locked world.tables.event_outbox

def process_all (answers : String → A) (records : List OutboxRecord) (world : DrainWorld) : DrainWorld :=
  records.foldl (fun world record => self.process (answers record.event_id) record world) world

def claim (world : DrainWorld) (round : DrainRound A) : List OutboxRecord × Outbox :=
  claim_event_outbox_batch round.claimed_at self.worker_id self.limit self.lock_seconds round.row_locked
    world.tables.event_outbox

def round (world : DrainWorld) (round : DrainRound A) : DrainWorld :=
  self.process_all round.answers (self.claim world round).1
    { world with tables := { world.tables with event_outbox := (self.claim world round).2 } }

variable {self} {answers : String → A} {event_id : String}

theorem lookup_process (a : A) (record : OutboxRecord) (world : DrainWorld)
    (htaken : self.refused a = none) (query : String) :
    (self.process a record world).tables.event_outbox.lookup query =
      if query = record.event_id then
        (world.tables.event_outbox.lookup query).map
          ((self.verdict a record world.inner).row (self.now a))
      else world.tables.event_outbox.lookup query := by
  rw [self.process_marks, EventTables.mark_event_outbox, htaken]
  exact Mark.lookup_execute ..

/-- A batch leaves alone the rows that are not in it. -/
theorem process_all_other {records : List OutboxRecord} (htaken : ∀ id, self.refused (answers id) = none)
    (h : ∀ record ∈ records, record.event_id ≠ event_id) (world : DrainWorld) :
    (self.process_all answers records world).tables.event_outbox.lookup event_id =
      world.tables.event_outbox.lookup event_id := by
  induction records generalizing world with
  | nil => rfl
  | cons record records ih =>
    refine (ih (fun other hother => h other (List.mem_cons_of_mem _ hother)) _).trans ?_
    rw [lookup_process _ _ _ (htaken _), if_neg (h record List.mem_cons_self).symm]

/-- A row of a batch is marked once. -/
theorem process_all_own {records : List OutboxRecord} (htaken : ∀ id, self.refused (answers id) = none)
    (hdistinct : (records.map OutboxRecord.event_id).Nodup) {record : OutboxRecord}
    (hmem : record ∈ records) (world : DrainWorld) :
    ∃ inner, (self.process_all answers records world).tables.event_outbox.lookup record.event_id =
      (world.tables.event_outbox.lookup record.event_id).map
        ((self.verdict (answers record.event_id) record inner).row (self.now (answers record.event_id))) := by
  induction records generalizing world with
  | nil => cases hmem
  | cons first records ih =>
    obtain ⟨hfirst, hrest⟩ := List.nodup_cons.mp hdistinct
    rcases List.mem_cons.mp hmem with rfl | hmem
    · refine ⟨world.inner, ?_⟩
      have hothers : ∀ other ∈ records, other.event_id ≠ record.event_id :=
        fun other hother heq => hfirst (List.mem_map.mpr ⟨other, hother, heq⟩)
      refine (process_all_other htaken hothers _).trans ?_
      rw [lookup_process _ _ _ (htaken _), if_pos rfl]
    · obtain ⟨inner, hinner⟩ := ih hrest hmem (self.process (answers first.event_id) first world)
      refine ⟨inner, hinner.trans ?_⟩
      have hne : record.event_id ≠ first.event_id := by
        intro heq
        exact hfirst (List.mem_map.mpr ⟨record, hmem, heq⟩)
      rw [lookup_process _ _ _ (htaken _), if_neg hne]

theorem claim_event_ids (world : DrainWorld) (round : DrainRound A) :
    ((self.claim world round).1.map OutboxRecord.event_id) = (self.next_events world round).keys := by
  rw [claim, claim_event_outbox_batch, List.map_map]
  rfl

/-- A row that is claimed was up for the claim, and its record is handed out. -/
theorem record_mem_claim {world : DrainWorld} {round : DrainRound A}
    (hmem : event_id ∈ (self.next_events world round).keys) {row : OutboxRow}
    (h : world.tables.event_outbox.lookup event_id = some row) :
    row.claimable round.claimed_at = true ∧ row.record event_id ∈ (self.claim world round).1 := by
  obtain ⟨⟨id, stored⟩, hentry, rfl⟩ := List.mem_map.mp hmem
  obtain ⟨hlookup, hclaimable⟩ := claimable_of_mem_next_events hentry
  obtain rfl : stored = row := Option.some.inj (hlookup.symm.trans h)
  exact ⟨hclaimable, List.mem_map.mpr ⟨⟨id, stored⟩, hentry, rfl⟩⟩

/-- A round marks a row that it claims, and leaves the others alone. -/
theorem lookup_round {world : DrainWorld} {round : DrainRound A}
    (htaken : ∀ id, self.refused (round.answers id) = none) {row : OutboxRow}
    (h : world.tables.event_outbox.lookup event_id = some row) :
    if event_id ∈ (self.next_events world round).keys then
      ∃ inner, (self.round world round).tables.event_outbox.lookup event_id =
        some ((self.verdict (round.answers event_id) (row.record event_id) inner).row
          (self.now (round.answers event_id))
          (row.claimed round.claimed_at self.worker_id self.lock_seconds))
    else (self.round world round).tables.event_outbox.lookup event_id = some row := by
  have hclaimed : (self.claim world round).2.lookup event_id =
      if event_id ∈ (self.next_events world round).keys then
        (world.tables.event_outbox.lookup event_id).map fun row =>
          row.claimed round.claimed_at self.worker_id self.lock_seconds
      else world.tables.event_outbox.lookup event_id := lookup_claimed ..
  rw [h] at hclaimed
  split
  · next hmem =>
    rw [if_pos hmem] at hclaimed
    obtain ⟨inner, hinner⟩ := process_all_own htaken (claim_event_ids world round ▸ next_events_keys_nodup ..)
      (record_mem_claim hmem h).2
      { world with tables := { world.tables with event_outbox := (self.claim world round).2 } }
    exact ⟨inner, hinner.trans (congrArg _ hclaimed)⟩
  · next hnot =>
    rw [if_neg hnot] at hclaimed
    refine (process_all_other htaken (fun record hrecord heq => hnot ?_) _).trans hclaimed
    exact claim_event_ids world round ▸ List.mem_map.mpr ⟨record, hrecord, heq⟩

end Drainer

/-- Whether a row is done with. -/
def OutboxRow.terminal (self : OutboxRow) : Bool :=
  self.status = .published || self.status = .deadlettered

def Mark.terminal : Mark → Bool
  | .failed _ _ => false
  | .published _ _ | .deadlettered _ => true

@[simp] theorem Mark.terminal_row (now : OffsetDateTime) (mark : Mark) (row : OutboxRow) :
    (mark.row now row).terminal = mark.terminal := by
  cases mark <;> rfl

/-- The row is up for a claim from some time on. -/
def OutboxRow.Due (self : OutboxRow) : Prop :=
  ∃ since, ∀ now, since ≤ now → self.claimable now = true

/-- A row that is claimed carries the lock of its claim. -/
def OutboxRow.Locked (self : OutboxRow) : Prop :=
  self.status = .publishing → self.locked_until.isSome = true

theorem OutboxRow.due {row : OutboxRow} (hterminal : row.terminal = false) (hlocked : row.Locked) : row.Due := by
  have hstatus : row.status = .queued ∨ row.status = .failed ∨ row.status = .publishing := by
    unfold terminal at hterminal
    cases hrow : row.status <;> simp_all
  refine ⟨max row.next_attempt_at ((row.locked_until.getD 0) + 1), fun now hnow => ?_⟩
  have hattempt : row.next_attempt_at ≤ now := le_trans (le_max_left _ _) hnow
  have huntil : row.locked_until.getD 0 < now :=
    lt_of_lt_of_le (Int.lt_succ _) (le_trans (le_max_right _ _) hnow)
  have hfree : (row.locked_until.all fun until_ => until_ < now) = true := by
    cases hrow : row.locked_until with
    | none => rfl
    | some until_ =>
      rw [hrow] at huntil
      exact decide_eq_true huntil
  rw [claimable, hfree, Bool.and_true, Bool.or_eq_true]
  rcases hstatus with h | h | h
  · exact Or.inl (by rw [h, decide_eq_true hattempt]; rfl)
  · exact Or.inl (by rw [h, decide_eq_true hattempt]; rfl)
  · refine Or.inr ?_
    obtain ⟨until_, hrow⟩ := Option.isSome_iff_exists.mp (hlocked h)
    rw [hrow] at huntil
    rw [h, hrow]
    exact decide_eq_true huntil

theorem OutboxRow.terminal_of_claimable {row : OutboxRow} {now : OffsetDateTime}
    (h : row.claimable now = true) : row.terminal = false := by
  unfold claimable at h
  unfold terminal
  cases hrow : row.status <;> simp_all

/-- A world, and how often the row of one event has been claimed. -/
structure Watched where
  world : DrainWorld
  attempts : Nat := 0

namespace Drainer

variable {A : Type} (self : Drainer A) (event_id : String)

def watch (watched : Watched) (round : DrainRound A) : Watched where
  world := self.round watched.world round
  attempts := watched.attempts + if event_id ∈ (self.next_events watched.world round).keys then 1 else 0

/-- The database takes the marks. -/
def Taken (_ : Watched) (round : DrainRound A) : Prop :=
  ∀ id, self.refused (round.answers id) = none

/-- However the attempts come out, the last one that is allowed finishes with the
row, and before that the row comes up for a claim again. -/
def Bounded (max_attempts : Nat) (world : DrainWorld) : Prop :=
  ∀ rounds watched, Run (Guarded (OfFun (self.watch event_id)) self.Taken) { world } rounds watched →
    ∃ row, watched.world.tables.event_outbox.lookup event_id = some row ∧
      watched.attempts ≤ max 1 max_attempts ∧
      (row.terminal = true ∨ watched.attempts < max 1 max_attempts ∧ row.Due)

/-- A failure is repeated only while the attempts are fewer than what is allowed. -/
def GivesUp (max_attempts : Nat) (payload_json : Except String CommonEvent) : Prop :=
  ∀ answers record inner error retry_after_seconds, record.payload_json = payload_json →
    self.verdict answers record inner = .failed error retry_after_seconds →
    record.attempt_count + 1 < max_attempts

/-- What holds of a row between two rounds. Its counter also has the attempts that
were made before it was watched. -/
structure Waits (max_attempts : Nat) (payload_json : Except String CommonEvent) (attempts : Nat)
    (row : OutboxRow) : Prop where
  payload_json : row.payload_json = payload_json
  attempts_le : attempts ≤ max 1 max_attempts
  pending : row.terminal = false →
    attempts ≤ row.attempt_count ∧ (attempts = 0 ∨ row.attempt_count < max_attempts) ∧ row.Locked

variable {self event_id} {max_attempts attempts : Nat} {payload_json : Except String CommonEvent}

theorem Waits.attempts_lt {row : OutboxRow} (h : Waits max_attempts payload_json attempts row)
    (hterminal : row.terminal = false) : attempts < max 1 max_attempts := by
  obtain ⟨hcounted, hfew, -⟩ := h.pending hterminal
  rcases hfew with rfl | hfew
  · exact lt_max_of_lt_left Nat.zero_lt_one
  · exact lt_max_of_lt_right (lt_of_le_of_lt hcounted hfew)

/-- A claim and the mark that follows it. -/
theorem Waits.attempt {row : OutboxRow} (h : Waits max_attempts payload_json attempts row)
    (hgives : self.GivesUp max_attempts payload_json) {round : DrainRound A}
    (hclaimable : row.claimable round.claimed_at = true) (inner : StoreInner) :
    Waits max_attempts payload_json (attempts + 1)
      ((self.verdict (round.answers event_id) (row.record event_id) inner).row
        (self.now (round.answers event_id))
        (row.claimed round.claimed_at self.worker_id self.lock_seconds)) := by
  have hterminal := OutboxRow.terminal_of_claimable hclaimable
  obtain ⟨hcounted, -, -⟩ := h.pending hterminal
  constructor
  case payload_json => exact (Mark.row_payload_json ..).trans h.payload_json
  case attempts_le => exact h.attempts_lt hterminal
  case pending =>
    intro hpending
    rw [Mark.terminal_row] at hpending
    cases hverdict : self.verdict (round.answers event_id) (row.record event_id) inner with
    | published partition offset =>
      rw [hverdict] at hpending
      cases hpending
    | deadlettered error =>
      rw [hverdict] at hpending
      cases hpending
    | failed error retry_after_seconds =>
      have hfew : row.attempt_count + 1 < max_attempts := hgives _ _ _ _ _ h.payload_json hverdict
      exact ⟨Nat.succ_le_succ hcounted, Or.inr hfew, nofun⟩

theorem Waits.step (hgives : self.GivesUp max_attempts payload_json) {watched : Watched}
    {round : DrainRound A} (htaken : self.Taken watched round)
    (h : ∃ row, watched.world.tables.event_outbox.lookup event_id = some row ∧
      Waits max_attempts payload_json watched.attempts row) :
    ∃ row, (self.watch event_id watched round).world.tables.event_outbox.lookup event_id = some row ∧
      Waits max_attempts payload_json (self.watch event_id watched round).attempts row := by
  obtain ⟨row, hrow, hwaits⟩ := h
  have hround := lookup_round htaken hrow
  unfold watch
  split at hround
  · next hmem =>
    obtain ⟨inner, hmarked⟩ := hround
    rw [if_pos hmem]
    exact ⟨_, hmarked, hwaits.attempt hgives (record_mem_claim hmem hrow).1 inner⟩
  · next hnot =>
    rw [if_neg hnot]
    exact ⟨row, hround, hwaits⟩

/-- A drainer that gives up is bounded. -/
theorem GivesUp.bounded (hgives : self.GivesUp max_attempts payload_json) {world : DrainWorld}
    {row : OutboxRow} (hrow : world.tables.event_outbox.lookup event_id = some row)
    (hpayload : row.payload_json = payload_json) (hlocked : row.Locked) :
    self.Bounded event_id max_attempts world := by
  intro rounds watched hrun
  have hstep : ∀ s round t, (∃ row, s.world.tables.event_outbox.lookup event_id = some row ∧
      Waits max_attempts payload_json s.attempts row) →
      Guarded (OfFun (self.watch event_id)) self.Taken s round t →
      ∃ row, t.world.tables.event_outbox.lookup event_id = some row ∧
        Waits max_attempts payload_json t.attempts row := by
    rintro s round t h ⟨htaken, rfl⟩
    exact Waits.step hgives htaken h
  obtain ⟨after, hafter, hwaits⟩ := Run.invariant hstep hrun
    ⟨row, hrow, hpayload, Nat.zero_le _, fun _ => ⟨Nat.zero_le _, Or.inl rfl, hlocked⟩⟩
  refine ⟨after, hafter, hwaits.attempts_le, ?_⟩
  cases hterminal : after.terminal with
  | true => exact Or.inl rfl
  | false => exact Or.inr ⟨hwaits.attempts_lt hterminal, OutboxRow.due hterminal (hwaits.pending hterminal).2.2⟩

end Drainer

theorem Mark.of_failure_failed {kafka : config.KafkaConfig} {record : OutboxRecord} {error error' : String}
    {retry_after_seconds : Int} (h : Mark.of_failure kafka record error = .failed error' retry_after_seconds) :
    record.attempt_count + 1 < kafka.retry_max_attempts := by
  dsimp only [of_failure] at h
  split at h
  · cases h
  · next hfew => exact not_le.mp hfew

section Bounds

variable (app : AppState) (kafka : KafkaEventBus) (worker_id : String)

/-- The publisher gives up an event, as long as it can decode it. -/
theorem outbox_publisher_gives_up (event : CommonEvent) :
    (outbox_publisher kafka worker_id).GivesUp kafka.config.retry_max_attempts (.ok event) := by
  intro answers record _ error retry_after_seconds hpayload hverdict
  change publish_mark kafka answers record = _ at hverdict
  rw [publish_mark, hpayload] at hverdict
  dsimp only at hverdict
  split at hverdict
  · cases hverdict
  · split at hverdict
    · cases hverdict
    · exact Mark.of_failure_failed hverdict

theorem postgres_event_drainer_gives_up (kafka : config.KafkaConfig)
    (payload_json : Except String CommonEvent) :
    (postgres_event_drainer app kafka worker_id).GivesUp kafka.retry_max_attempts payload_json := by
  intro answers record inner error retry_after_seconds _ hverdict
  change drain_mark app kafka answers record inner = _ at hverdict
  unfold drain_mark at hverdict
  split at hverdict
  · cases hverdict
  · split at hverdict
    · cases hverdict
    · split at hverdict
      · cases hverdict
      · exact Mark.of_failure_failed hverdict

section Deadletters

variable {kafka worker_id} {answers : String → PublishAnswers}

theorem process_all_deadletters (records : List OutboxRecord) (world : DrainWorld) :
    world.tables.kafka_deadletters ⊆
      ((outbox_publisher kafka worker_id).process_all answers records world).tables.kafka_deadletters := by
  induction records generalizing world with
  | nil => exact List.Subset.refl _
  | cons record records ih =>
    exact List.Subset.trans (publish_outbox_record_deadletters kafka (answers record.event_id) record
      world.tables) (ih ((outbox_publisher kafka worker_id).process (answers record.event_id) record world))

/-- What a batch gives up it stores. -/
theorem process_all_stores {records : List OutboxRecord} {record : OutboxRecord} {event : CommonEvent}
    {error : String} (hmem : record ∈ records) (hpayload : record.payload_json = .ok event)
    (hinsert : ∀ id, (answers id).insert_deadletter = none)
    (hmark : publish_mark kafka (answers record.event_id) record = .deadlettered error) (world : DrainWorld) :
    outbox_deadletter record event error ∈
      ((outbox_publisher kafka worker_id).process_all answers records world).tables.kafka_deadletters := by
  induction records generalizing world with
  | nil => cases hmem
  | cons first records ih =>
    rcases List.mem_cons.mp hmem with rfl | hmem
    · exact process_all_deadletters records _ (publish_outbox_record_deadletter kafka _ record hpayload
        (hinsert _) hmark world.tables)
    · exact ih hmem _

/-- An event whose payload cannot be decoded is not given up. -/
theorem decoded_of_deadlettered {answers : PublishAnswers} {record : OutboxRecord} {error : String}
    (h : publish_mark kafka answers record = .deadlettered error) :
    ∃ event, record.payload_json = .ok event := by
  rw [publish_mark] at h
  cases hpayload : record.payload_json with
  | ok event => exact ⟨event, rfl⟩
  | error err =>
    rw [hpayload] at h
    cases h

end Deadletters

/-- The database takes the marks and the deadletters. -/
def Stores (_ : Watched) (round : DrainRound PublishAnswers) : Prop :=
  ∀ id, (round.answers id).mark = none ∧ (round.answers id).insert_deadletter = none

/-- A row that the publisher gives up has a record among the deadletters. -/
def DeadlettersStored (event_id : String) (world : DrainWorld) : Prop :=
  ∀ rounds watched,
    Run (Guarded (OfFun ((outbox_publisher kafka worker_id).watch event_id)) Stores) { world } rounds
      watched →
    (∀ row, world.tables.event_outbox.lookup event_id = some row → row.terminal = false) →
    ∀ row, watched.world.tables.event_outbox.lookup event_id = some row → row.status = .deadlettered →
    ∃ stored ∈ watched.world.tables.kafka_deadletters, row.payload_json = .ok stored.event

/-- The row is not given up, or has its record. -/
def Accounted (event_id : String) (watched : Watched) : Prop :=
  ∃ row, watched.world.tables.event_outbox.lookup event_id = some row ∧
    (row.status = .deadlettered →
      ∃ stored ∈ watched.world.tables.kafka_deadletters, row.payload_json = .ok stored.event)

theorem Accounted.step {event_id : String} {watched : Watched} {round : DrainRound PublishAnswers}
    (hstores : Stores watched round) (h : Accounted event_id watched) :
    Accounted event_id ((outbox_publisher kafka worker_id).watch event_id watched round) := by
  obtain ⟨row, hrow, hstored⟩ := h
  have htaken : ∀ id, (outbox_publisher kafka worker_id).refused (round.answers id) = none :=
    fun id => (hstores id).1
  have hround := Drainer.lookup_round htaken hrow
  split at hround
  · next hmem =>
    obtain ⟨inner, hmarked⟩ := hround
    refine ⟨_, hmarked, fun hgiven => ?_⟩
    have hmark : ∃ error, publish_mark kafka (round.answers event_id) (row.record event_id) =
        .deadlettered error := by
      change ((publish_mark kafka (round.answers event_id) (row.record event_id)).row _ _).status = _ at hgiven
      cases hverdict : publish_mark kafka (round.answers event_id) (row.record event_id) with
      | deadlettered error => exact ⟨error, rfl⟩
      | published partition offset =>
        rw [hverdict] at hgiven
        cases hgiven
      | failed error retry_after_seconds =>
        rw [hverdict] at hgiven
        cases hgiven
    obtain ⟨error, herror⟩ := hmark
    obtain ⟨event, hevent⟩ := decoded_of_deadlettered herror
    refine ⟨outbox_deadletter (row.record event_id) event error, ?_, ?_⟩
    · exact process_all_stores (Drainer.record_mem_claim hmem hrow).2 hevent (fun id => (hstores id).2) herror _
    · exact (Mark.row_payload_json ..).trans hevent
  · next hnot =>
    refine ⟨row, hround, fun hgiven => ?_⟩
    obtain ⟨stored, hmem, hevent⟩ := hstored hgiven
    exact ⟨stored, process_all_deadletters _ _ hmem, hevent⟩

theorem deadletters_stored (event_id : String) {world : DrainWorld} {row : OutboxRow}
    (hrow : world.tables.event_outbox.lookup event_id = some row) :
    DeadlettersStored kafka worker_id event_id world := by
  intro rounds watched hrun hpending after hafter hgiven
  have hstep : ∀ s round t, Accounted event_id s →
      Guarded (OfFun ((outbox_publisher kafka worker_id).watch event_id)) Stores s round t →
      Accounted event_id t := by
    rintro s round t h ⟨hstores, rfl⟩
    exact h.step kafka worker_id hstores
  have hstart : Accounted event_id { world } := by
    refine ⟨row, hrow, fun hdead => ?_⟩
    have hterminal := hpending row hrow
    rw [OutboxRow.terminal, hdead] at hterminal
    cases hterminal
  obtain ⟨found, hfound, hstored⟩ := Run.invariant hstep hrun hstart
  cases hfound.symm.trans hafter
  exact hstored hgiven

namespace sample

/-- The broker takes the message. -/
def acknowledged : PublishAnswers where
  now := 0
  publish := .ok (0, 0)
  mark := none
  insert_deadletter := none

open rustzap.state.sample in
def handled : DrainAnswers where
  now := 0
  handler :=
    { ctx := ctx 2 "w"
      raw_envelope := .error ""
      event := answers
      dispatch := { reconciled := false, connected := false, bytes := .ok [], send := .timed_out }
      transcription := { bytes := .ok [], result := .error "", ctx := ctx 2 "t" }
      insert_deadletter := none }
  mark := none

end sample

section Agreement

/-- The publisher fails: it cannot decode the payload, or the broker does not take
the message. An event that cannot be encoded, which it deadletters at once, is left out:
the other drainer encodes nothing. -/
def PublishFails (answers : PublishAnswers) (record : OutboxRecord) : Prop :=
  (∃ err, record.payload_json = .error err) ∨
  ∃ event bytes error, record.payload_json = .ok event ∧ encode_event_for_kafka kafka event = .ok bytes ∧
    answers.publish = .error error

/-- The other drainer fails: it cannot decode the payload, or the handler does not
accept the event. -/
def DrainFails (answers : DrainAnswers) (record : OutboxRecord) (inner : StoreInner) : Prop :=
  (∃ err, record.payload_json = .error err) ∨
  ∃ event err, record.payload_json = .ok event ∧ internal_work_event_type event.event_type = true ∧
    (handle_internal_work_event app inner answers.handler event).1 = .error err

/-- A failure is final for the one drainer where it is for the other. -/
def DrainersAgree (payload_json : Except String CommonEvent) : Prop :=
  ∀ publish drain record inner, record.payload_json = payload_json →
    PublishFails kafka publish record → DrainFails app drain record inner →
    (publish_mark kafka publish record).terminal =
      (drain_mark app kafka.config drain record inner).terminal

theorem Mark.terminal_of_failure (kafka : config.KafkaConfig) (record : OutboxRecord) (error : String) :
    (Mark.of_failure kafka record error).terminal =
      decide (kafka.retry_max_attempts ≤ record.attempt_count + 1) := by
  dsimp only [of_failure]
  split
  · next h => exact (decide_eq_true h).symm
  · next h => exact (decide_eq_false h).symm

theorem drainers_agree_iff (payload_json : Except String CommonEvent) :
    DrainersAgree app kafka payload_json ↔ ∃ event, payload_json = .ok event := by
  constructor
  · intro h
    cases payload_json with
    | ok event => exact ⟨event, rfl⟩
    | error err =>
      have hsame := h sample.acknowledged sample.handled
        { event_id := "", topic := "", partition_key := "", payload_json := .error err, attempt_count := 0 }
        {} rfl (Or.inl ⟨err, rfl⟩) (Or.inl ⟨err, rfl⟩)
      cases hsame
  · rintro ⟨event, rfl⟩ publish drain record inner hpayload hpublish hdrain
    rcases hpublish with ⟨err, herr⟩ | ⟨event', bytes, error, hevent, hencode, hpublish⟩
    · rw [hpayload] at herr
      cases herr
    rcases hdrain with ⟨err, herr⟩ | ⟨event'', err, hevent', hinternal, hhandle⟩
    · rw [hpayload] at herr
      cases herr
    cases hevent.symm.trans hevent'
    have hfirst : publish_mark kafka publish record = Mark.of_failure kafka.config record error := by
      rw [publish_mark, hevent]
      dsimp only
      rw [hencode, hpublish]
    have hsecond : drain_mark app kafka.config drain record inner =
        Mark.of_failure kafka.config record err.to_string := by
      rw [drain_mark, hevent]
      dsimp only
      rw [hinternal, hhandle]
      rfl
    rw [hfirst, hsecond, Mark.terminal_of_failure, Mark.terminal_of_failure]

end Agreement

/-- The two drainers finish with the row of an event in time, and in the same way. -/
structure BoundedPublishing (event_id : String) (world : DrainWorld)
    (payload_json : Except String CommonEvent) : Prop where
  published : (outbox_publisher kafka worker_id).Bounded event_id kafka.config.retry_max_attempts world
  drained : (postgres_event_drainer app kafka.config worker_id).Bounded event_id
    kafka.config.retry_max_attempts world
  stored : DeadlettersStored kafka worker_id event_id world
  agree : DrainersAgree app kafka payload_json

/-- Publishing is bounded exactly for the rows whose payload can be decoded, a claim
without a lock aside, which no worker leaves behind. -/
theorem publishing_bounded_iff (event_id : String) (world : DrainWorld) (row : OutboxRow)
    (hrow : world.tables.event_outbox.lookup event_id = some row) :
    BoundedPublishing app kafka worker_id event_id world row.payload_json ↔
      (∃ event, row.payload_json = .ok event) ∧ row.Locked := by
  constructor
  · intro h
    refine ⟨(drainers_agree_iff app kafka row.payload_json).mp h.agree, fun hpublishing => ?_⟩
    obtain ⟨_, hsame, -, hend⟩ := h.published [] { world } (.nil _)
    cases hrow.symm.trans hsame
    rcases hend with hterminal | ⟨-, since, hdue⟩
    · rw [OutboxRow.terminal, hpublishing] at hterminal
      cases hterminal
    · have hclaimable := hdue since le_rfl
      rw [OutboxRow.claimable, hpublishing] at hclaimable
      cases huntil : row.locked_until with
      | some until_ => rfl
      | none =>
        rw [huntil] at hclaimable
        cases hclaimable
  · rintro ⟨⟨event, hevent⟩, hlocked⟩
    constructor
    case published =>
      exact (outbox_publisher_gives_up kafka worker_id event).bounded hrow hevent hlocked
    case drained =>
      exact (postgres_event_drainer_gives_up app worker_id kafka.config _).bounded hrow hevent hlocked
    case stored => exact deadletters_stored kafka worker_id event_id hrow
    case agree => exact (drainers_agree_iff app kafka row.payload_json).mpr ⟨event, hevent⟩

end Bounds

namespace sample

/-- What is written of an event, abridged. -/
def written (event : CommonEvent) : List UInt8 :=
  media.ascii ("\x7b\"event_id\":\"" ++ event.event_id ++ "\"\x7d")

def kafka : KafkaEventBus where
  config := config.KafkaConfig.from_env
  to_vec event := .ok (written event)

def queued (payload_json : Except String CommonEvent) : OutboxRow where
  event_type := "whatsapp.raw.inbound"
  topic := "rustzap.raw.inbound"
  partition_key := "acme:company_a:channel_a"
  payload_json
  next_attempt_at := 0
  available_at := 0
  created_at := 0

def outbox_of (payload_json : Except String CommonEvent) : DrainWorld where
  tables := { event_outbox := .of_pairs [("evt_k0", queued payload_json)] }

/-- Rounds of the publisher in which everything goes well. -/
def rounds : List (DrainRound PublishAnswers) :=
  (List.range 8).map fun n : Nat =>
    { claimed_at := Duration.seconds (100 * n)
      row_locked _ := false
      answers _ := { acknowledged with now := Duration.seconds (100 * n) } }

def watched : Watched :=
  rounds.foldl ((outbox_publisher kafka "rustzap-outbox-a").watch "evt_k0")
    { world := outbox_of (.error "missing field event_type") }

theorem run_watched : Run (Guarded (OfFun ((outbox_publisher kafka "rustzap-outbox-a").watch "evt_k0"))
    (outbox_publisher kafka "rustzap-outbox-a").Taken)
    { world := outbox_of (.error "missing field event_type") } rounds watched := by
  have hrun : ∀ (rounds : List (DrainRound PublishAnswers)) watched,
      (∀ round ∈ rounds, ∀ id, (round.answers id).mark = none) →
      Run (Guarded (OfFun ((outbox_publisher kafka "rustzap-outbox-a").watch "evt_k0"))
        (outbox_publisher kafka "rustzap-outbox-a").Taken) watched rounds
        (rounds.foldl ((outbox_publisher kafka "rustzap-outbox-a").watch "evt_k0") watched) := by
    intro rounds
    induction rounds with
    | nil => exact fun watched _ => .nil watched
    | cons round rounds ih =>
      intro watched htaken
      exact .cons ⟨htaken round List.mem_cons_self, rfl⟩
        (ih _ fun other hother => htaken other (List.mem_cons_of_mem _ hother))
  refine hrun rounds _ fun round hmem id => ?_
  obtain ⟨n, -, rfl⟩ := List.mem_map.mp hmem
  rfl

end sample

theorem event_published_in_time :
    BoundedPublishing state.sample.service sample.kafka "rustzap-outbox-a" "evt_k0"
      (sample.outbox_of (.ok workers.sample.raw_event)) (.ok workers.sample.raw_event) :=
  (publishing_bounded_iff state.sample.service sample.kafka "rustzap-outbox-a" "evt_k0"
    (sample.outbox_of (.ok workers.sample.raw_event)) (sample.queued (.ok workers.sample.raw_event)) rfl).mpr
    ⟨⟨_, rfl⟩, nofun⟩

/-- A payload that cannot be decoded is tried again and again. -/
theorem undecodable_never_settled :
    ¬ ∀ (app : AppState) (kafka : KafkaEventBus) (worker_id event_id : String) (world : DrainWorld)
      (row : OutboxRow), world.tables.event_outbox.lookup event_id = some row →
      BoundedPublishing app kafka worker_id event_id world row.payload_json := by
  intro hclaim
  have hbounded := (hclaim state.sample.service sample.kafka "rustzap-outbox-a" "evt_k0"
    (sample.outbox_of (.error "missing field event_type")) _ rfl).published
  obtain ⟨row, hrow, -, hend⟩ := hbounded sample.rounds sample.watched sample.run_watched
  have hpending : (sample.watched.world.tables.event_outbox.lookup "evt_k0").map OutboxRow.terminal =
      some false := by decide
  have hattempts : sample.watched.attempts = 8 := by decide
  rw [hrow] at hpending
  rcases hend with hterminal | ⟨hfew, -⟩
  · exact absurd (hterminal.symm.trans (Option.some.inj hpending)) (by decide)
  · rw [hattempts] at hfew
    exact absurd hfew (by decide)

end rustzap.db
