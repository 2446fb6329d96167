import RustZap.Database.Drainers

open collections runs
open rustzap.models

namespace rustzap.db

open rustzap.eventbus rustzap.state

variable (kafka : KafkaEventBus) (worker_id event_id : String)

/-- The database takes the marks, and the broker takes no message. -/
def BrokerRefuses (_ : Watched) (round : DrainRound PublishAnswers) : Prop :=
  ∀ id, (round.answers id).mark = none ∧ ∃ error, (round.answers id).publish = .error error

/-- As long as the broker refuses it, the event is deadlettered with this attempt,
and not before. -/
def DeadletteredWith (attempts : Nat) (world : DrainWorld) : Prop :=
  ∀ rounds watched,
    Run (Guarded (OfFun ((outbox_publisher kafka worker_id).watch event_id)) BrokerRefuses) { world } rounds
      watched →
    ∃ row, watched.world.tables.event_outbox.lookup event_id = some row ∧
      (row.status = .deadlettered ↔ attempts ≤ watched.attempts)

/-- The attempts that are left to a row. -/
def attempts_left (row : OutboxRow) : Nat :=
  max 1 (kafka.config.retry_max_attempts - row.attempt_count)

/-- What holds while the broker refuses an event that had so many attempts left. -/
structure Refused (event : CommonEvent) (left counted attempts : Nat) (row : OutboxRow) : Prop where
  payload_json : row.payload_json = .ok event
  ends : row.terminal = true → row.status = .deadlettered ∧ attempts = left
  goes_on : row.terminal = false →
    row.attempt_count = counted + attempts ∧ attempts < left ∧ row.Locked

variable {kafka worker_id event_id} {event : CommonEvent} {bytes : List UInt8} {left counted : Nat}

theorem publish_mark_refused {answers : PublishAnswers} (record : OutboxRecord) {error : String}
    (hpayload : record.payload_json = .ok event) (hencode : encode_event_for_kafka kafka event = .ok bytes)
    (hpublish : answers.publish = .error error) :
    publish_mark kafka answers record = Mark.of_failure kafka.config record error := by
  rw [publish_mark, hpayload]
  dsimp only
  rw [hencode, hpublish]

/-- An attempt that the broker refuses. -/
theorem Refused.attempt {attempts : Nat} {row : OutboxRow} (h : Refused event left counted attempts row)
    (hencode : encode_event_for_kafka kafka event = .ok bytes)
    (hleft : left = max 1 (kafka.config.retry_max_attempts - counted)) {answers : PublishAnswers}
    {error : String} (hpublish : answers.publish = .error error) {now : OffsetDateTime}
    (hclaimable : row.claimable now = true) (lock_seconds : Int) :
    Refused event left counted (attempts + 1)
      ((publish_mark kafka answers (row.record event_id)).row answers.now
        (row.claimed now worker_id lock_seconds)) := by
  have hterminal := OutboxRow.terminal_of_claimable hclaimable
  obtain ⟨hcount, hfew, -⟩ := h.goes_on hterminal
  rw [publish_mark_refused (row.record event_id) h.payload_json hencode hpublish]
  dsimp only [Mark.of_failure]
  have hrecord : (row.record event_id).attempt_count = row.attempt_count := rfl
  split
  · next hlast =>
    rw [hrecord, hcount] at hlast
    constructor
    case payload_json => exact h.payload_json
    case ends => exact fun _ => ⟨rfl, by omega⟩
    case goes_on => exact nofun
  · next hmore =>
    rw [hrecord, hcount] at hmore
    constructor
    case payload_json => exact h.payload_json
    case ends => exact nofun
    case goes_on =>
      refine fun _ => ⟨?_, by omega, nofun⟩
      change row.attempt_count + 1 = _
      omega

/-- What is known of a row while it is watched. -/
def RefusedRow (event_id : String) (event : CommonEvent) (left counted : Nat) (watched : Watched) : Prop :=
  ∃ row, watched.world.tables.event_outbox.lookup event_id = some row ∧
    Refused event left counted watched.attempts row

theorem RefusedRow.step {watched : Watched} {round : DrainRound PublishAnswers}
    (hencode : encode_event_for_kafka kafka event = .ok bytes)
    (hleft : left = max 1 (kafka.config.retry_max_attempts - counted))
    (hrefuses : BrokerRefuses watched round) (h : RefusedRow event_id event left counted watched) :
    RefusedRow event_id event left counted ((outbox_publisher kafka worker_id).watch event_id watched round) := by
  obtain ⟨row, hrow, hrefused⟩ := h
  have htaken : ∀ id, (outbox_publisher kafka worker_id).refused (round.answers id) = none :=
    fun id => (hrefuses id).1
  have hround := Drainer.lookup_round htaken hrow
  unfold Drainer.watch
  split at hround
  · next hmem =>
    obtain ⟨_, hmarked⟩ := hround
    obtain ⟨error, herror⟩ := (hrefuses event_id).2
    refine ⟨_, hmarked, ?_⟩
    rw [if_pos hmem]
    exact hrefused.attempt hencode hleft herror (Drainer.record_mem_claim hmem hrow).1 _
  · next hnot =>
    refine ⟨row, hround, ?_⟩
    rw [if_neg hnot]
    exact hrefused

theorem RefusedRow.run {world : DrainWorld} {rounds : List (DrainRound PublishAnswers)} {watched : Watched}
    (hencode : encode_event_for_kafka kafka event = .ok bytes)
    (hleft : left = max 1 (kafka.config.retry_max_attempts - counted))
    (h : RefusedRow event_id event left counted { world })
    (hrun : Run (Guarded (OfFun ((outbox_publisher kafka worker_id).watch event_id)) BrokerRefuses) { world }
      rounds watched) : RefusedRow event_id event left counted watched := by
  refine Run.invariant ?_ hrun h
  rintro s round t hrow ⟨hrefuses, rfl⟩
  exact hrow.step hencode hleft hrefuses

/-- A row that is up for a claim is claimed when other transactions hold all the
other rows. -/
theorem mem_next_events_alone {outbox : Outbox} {row : OutboxRow} {now : OffsetDateTime} {limit : Nat}
    (hrow : outbox.lookup event_id = some row) (hclaimable : row.claimable now = true) :
    event_id ∈ (next_events now (limit + 1) (fun id => id ≠ event_id) outbox).keys := by
  have hfiltered : (outbox.entries.filter fun entry =>
      entry.2.claimable now && !decide (entry.1 ≠ event_id)) = [⟨event_id, row⟩] := by
    have hand : (outbox.entries.filter fun entry =>
        entry.2.claimable now && !decide (entry.1 ≠ event_id)) =
        (outbox.entries.filter fun entry => entry.1 = event_id).filter fun entry => entry.2.claimable now := by
      rw [List.filter_filter]
      refine List.filter_congr fun entry _ => ?_
      by_cases h : entry.1 = event_id
      · rw [decide_eq_true h, decide_eq_false (not_not.mpr h)]
        rfl
      · rw [decide_eq_false h, decide_eq_true h]
        rfl
    rw [hand, HashMap.entries_filter_key hrow]
    exact List.filter_cons_of_pos hclaimable
  rw [next_events, hfiltered]
  exact List.mem_cons_self

/-- The broker may refuse the event as often as there are attempts left. -/
theorem exists_refused_run (worker_id : String) {world : DrainWorld}
    (hencode : encode_event_for_kafka kafka event = .ok bytes)
    (hleft : left = max 1 (kafka.config.retry_max_attempts - counted))
    (h : RefusedRow event_id event left counted { world }) (attempts : Nat) (hattempts : attempts ≤ left) :
    ∃ rounds watched,
      Run (Guarded (OfFun ((outbox_publisher kafka worker_id).watch event_id)) BrokerRefuses) { world } rounds
        watched ∧ watched.attempts = attempts := by
  induction attempts with
  | zero => exact ⟨[], { world }, .nil _, rfl⟩
  | succ attempts ih =>
    obtain ⟨rounds, watched, hrun, hwatched⟩ := ih (Nat.le_of_succ_le hattempts)
    obtain ⟨row, hrow, hrefused⟩ := h.run hencode hleft hrun
    have hpending : row.terminal = false := by
      refine Bool.eq_false_iff.mpr fun hterminal => ?_
      have hend := (hrefused.ends hterminal).2
      omega
    obtain ⟨since, hdue⟩ := OutboxRow.due hpending (hrefused.goes_on hpending).2.2
    let round : DrainRound PublishAnswers :=
      { claimed_at := since
        row_locked id := id ≠ event_id
        answers _ := { now := since, publish := .error "", mark := none, insert_deadletter := none } }
    refine ⟨rounds ++ [round], (outbox_publisher kafka worker_id).watch event_id watched round,
      hrun.append (.cons ⟨fun _ => ⟨rfl, "", rfl⟩, rfl⟩ (.nil _)), ?_⟩
    have hmem : event_id ∈ ((outbox_publisher kafka worker_id).next_events watched.world round).keys :=
      mem_next_events_alone hrow (hdue since le_rfl)
    unfold Drainer.watch
    rw [if_pos hmem, hwatched]

/-- An event that waits in its row is deadlettered with the last of the attempts
that its counter leaves. -/
theorem deadlettered_with_iff {world : DrainWorld} {row : OutboxRow}
    (hrow : world.tables.event_outbox.lookup event_id = some row) (hpayload : row.payload_json = .ok event)
    (hencode : encode_event_for_kafka kafka event = .ok bytes) (hterminal : row.terminal = false)
    (hlocked : row.Locked) (attempts : Nat) :
    DeadletteredWith kafka worker_id event_id attempts world ↔ attempts = attempts_left kafka row := by
  have hstart : RefusedRow event_id event (attempts_left kafka row) row.attempt_count { world } := by
    refine ⟨row, hrow, hpayload, fun h => ?_, fun _ => ⟨rfl, ?_, hlocked⟩⟩
    · rw [hterminal] at h
      cases h
    · exact lt_max_of_lt_left Nat.zero_lt_one
  have hends : ∀ rounds watched,
      Run (Guarded (OfFun ((outbox_publisher kafka worker_id).watch event_id)) BrokerRefuses) { world } rounds
        watched →
      ∃ after, watched.world.tables.event_outbox.lookup event_id = some after ∧
        (after.status = .deadlettered ↔ attempts_left kafka row ≤ watched.attempts) := by
    intro rounds watched hrun
    obtain ⟨after, hafter, hrefused⟩ := hstart.run hencode rfl hrun
    refine ⟨after, hafter, ?_⟩
    constructor
    · intro hdead
      refine (hrefused.ends ?_).2.ge
      rw [OutboxRow.terminal, hdead]
      rfl
    · intro hall
      cases hafter_terminal : after.terminal with
      | true => exact (hrefused.ends hafter_terminal).1
      | false => exact absurd hall (not_le.mpr (hrefused.goes_on hafter_terminal).2.1)
  constructor
  · intro h
    have hsame : ∀ m ≤ attempts_left kafka row, attempts ≤ m ↔ attempts_left kafka row ≤ m := by
      intro m hm
      obtain ⟨rounds, watched, hrun, rfl⟩ := exists_refused_run worker_id hencode rfl hstart m hm
      obtain ⟨after, hafter, hdead⟩ := h rounds watched hrun
      obtain ⟨_, hafter', hdead'⟩ := hends rounds watched hrun
      cases hafter.symm.trans hafter'
      exact hdead.symm.trans hdead'
    have hle : attempts ≤ attempts_left kafka row := (hsame _ le_rfl).mpr le_rfl
    exact le_antisymm hle ((hsame attempts hle).mp le_rfl)
  · rintro rfl
    exact hends

end rustzap.db
