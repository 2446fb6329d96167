import RustZap.Lib.Broadcast
import RustZap.State.Sides

open broadcast runs
open rustzap.eventbus rustzap.models

namespace rustzap.state

/-- What the publishing of events works on: the events of the store, whether somebody
holds its lock, the events that were sent before the lock was asked for and wait to be
stored, and the broadcast. -/
structure EventStream where
  events : List CommonEvent
  locked : Bool
  in_flight : List CommonEvent
  events_tx : Sender CommonEvent

/-- The steps of the tasks that publish. `send_event` and `store_event` are the two
halves of `AppState::push_event`. -/
inductive StreamOp where
  | lock
  | push_event_inner (event : CommonEvent)
  | unlock
  | send_event (event : CommonEvent)
  | store_event (event : CommonEvent)
  | reset_dev

namespace EventStream

/-- The channel of `AppState::new`. -/
def new (events : List CommonEvent) : EventStream where
  events
  locked := false
  in_flight := []
  events_tx := broadcast.channel 1024

def push (stream : EventStream) (event : CommonEvent) : EventStream :=
  { stream with events := stream.events ++ [event], events_tx := stream.events_tx.send event }

/-- A function that holds the lock sends and stores in one go; `push_event` sends
first and stores when it gets the lock. Who holds the lock may push several events. -/
inductive Step : EventStream → StreamOp → EventStream → Prop
  | lock {stream : EventStream} (hfree : stream.locked = false) :
      Step stream .lock { stream with locked := true }
  | push_event_inner {stream : EventStream} (event : CommonEvent) (hheld : stream.locked = true) :
      Step stream (.push_event_inner event) (stream.push event)
  | unlock {stream : EventStream} (hheld : stream.locked = true) :
      Step stream .unlock { stream with locked := false }
  | send_event {stream : EventStream} (event : CommonEvent) :
      Step stream (.send_event event) { stream with
        in_flight := stream.in_flight ++ [event], events_tx := stream.events_tx.send event }
  | store_event {stream : EventStream} {before after : List CommonEvent} (event : CommonEvent)
      (hfree : stream.locked = false) (hsent : stream.in_flight = before ++ event :: after) :
      Step stream (.store_event event) { stream with
        in_flight := before ++ after, events := stream.events ++ [event] }
  | reset_dev {stream : EventStream} (hfree : stream.locked = false) :
      Step stream .reset_dev { stream with events := [] }

/-- What was sent from the number `start` on. -/
def sent_since (stream : EventStream) (start : Nat) : List CommonEvent := stream.events_tx.sent.drop start

/-- How a stream has gone on since an earlier time. Whatever is stored or waits to be was
there before or was sent since, at most as often as both together, and what waits now and
did not wait then was sent since. -/
structure Since (old stream : EventStream) : Prop where
  sent : old.events_tx.sent <+: stream.events_tx.sent
  in_flight : stream.in_flight.Subperm (old.in_flight ++ stream.sent_since old.events_tx.sent.length)
  accounted : (stream.events ++ stream.in_flight).Subperm
    (old.events ++ old.in_flight ++ stream.sent_since old.events_tx.sent.length)

variable {old stream stream' : EventStream}

theorem sent_since_send (hsent : old.events_tx.sent <+: stream.events_tx.sent) (event : CommonEvent) :
    (stream.events_tx.send event).sent.drop old.events_tx.sent.length =
      stream.sent_since old.events_tx.sent.length ++ [event] :=
  List.drop_append_of_le_length hsent.length_le

namespace Since

theorem refl (stream : EventStream) : Since stream stream where
  sent := List.prefix_rfl
  in_flight := by
    rw [sent_since, List.drop_length, List.append_nil]
  accounted := by
    rw [sent_since, List.drop_length, List.append_nil]

/-- What is sent joins both sides of an account. -/
theorem subperm_send (h : Since old stream) (event : CommonEvent) {had held held' : List CommonEvent}
    (hsub : held.Subperm (had ++ stream.sent_since old.events_tx.sent.length))
    (hheld : held'.Subperm (held ++ [event])) :
    held'.Subperm (had ++ (stream.events_tx.send event).sent.drop old.events_tx.sent.length) := by
  rw [sent_since_send h.sent, ← List.append_assoc]
  exact hheld.trans ((List.subperm_append_right [event]).mpr hsub)

theorem step {op : StreamOp} (h : Since old stream) (hstep : Step stream op stream') : Since old stream' := by
  cases hstep with
  | lock hfree => exact ⟨h.sent, h.in_flight, h.accounted⟩
  | unlock hheld => exact ⟨h.sent, h.in_flight, h.accounted⟩
  | push_event_inner event hheld =>
    refine ⟨h.sent.trans (List.prefix_append _ _), ?_, ?_⟩
    · exact h.subperm_send event h.in_flight (List.sublist_append_left _ _).subperm
    · -- the new event stands behind the stored ones
      refine h.subperm_send event h.accounted (List.Perm.subperm ?_)
      change (stream.events ++ [event] ++ stream.in_flight).Perm _
      rw [List.append_assoc, List.append_assoc]
      exact List.perm_append_comm.append_left _
  | send_event event =>
    refine ⟨h.sent.trans (List.prefix_append _ _), h.subperm_send event h.in_flight (List.Subperm.refl _), ?_⟩
    exact h.subperm_send event h.accounted (List.Perm.of_eq (List.append_assoc ..).symm).subperm
  | @store_event before after event hfree hsent =>
    have hwaiting : stream.in_flight.Perm (event :: (before ++ after)) := by
      rw [hsent]
      exact List.perm_middle
    refine ⟨h.sent, ?_, ?_⟩
    · exact ((List.sublist_cons_self event _).subperm.trans hwaiting.symm.subperm).trans h.in_flight
    · -- the event has gone from the waiting ones to the stored ones
      refine List.Subperm.trans (List.Perm.subperm ?_) h.accounted
      change (stream.events ++ [event] ++ (before ++ after)).Perm (stream.events ++ stream.in_flight)
      rw [List.append_assoc, List.singleton_append]
      exact hwaiting.symm.append_left stream.events
  | reset_dev hfree =>
    refine ⟨h.sent, h.in_flight, List.Subperm.trans ?_ h.accounted⟩
    exact (List.sublist_append_right stream.events stream.in_flight).subperm

/-- What is stored was there before, or it was sent since. -/
theorem mem_events (h : Since old stream) {event : CommonEvent} (hstored : event ∈ stream.events) :
    event ∈ old.events ∨ event ∈ old.in_flight ∨ event ∈ stream.sent_since old.events_tx.sent.length := by
  have hmem := h.accounted.subset (List.mem_append_left _ hstored)
  rcases List.mem_append.mp hmem with hold | hsent
  · exact (List.mem_append.mp hold).imp_right Or.inl
  · exact Or.inr (Or.inr hsent)

theorem mem_in_flight (h : Since old stream) {event : CommonEvent} (hwaits : event ∈ stream.in_flight) :
    event ∈ old.in_flight ∨ event ∈ stream.sent_since old.events_tx.sent.length :=
  List.mem_append.mp (h.in_flight.subset hwaits)

/-- What was sent since a later time was sent since an earlier one. -/
theorem sent_since_subset (h : Since old stream) :
    stream'.sent_since stream.events_tx.sent.length ⊆ stream'.sent_since old.events_tx.sent.length :=
  List.drop_subset_drop_left _ h.sent.length_le

/-- What has been sent stays among the events sent. -/
theorem subset_sent_since (h : Since stream stream') (start : Nat) :
    stream.sent_since start ⊆ stream'.sent_since start :=
  (h.sent.sublist.drop start).subset

end Since

/-- To a receiver, the tasks that publish do nothing but send. -/
theorem follows_step {op : StreamOp} {start : Nat} {rx : Receiver} {outcomes : List (Received CommonEvent)}
    (hstep : Step stream op stream') (h : Follows stream.events_tx start rx outcomes) :
    Follows stream'.events_tx start rx outcomes := by
  cases hstep with
  | lock hfree => exact h
  | unlock hheld => exact h
  | reset_dev hfree => exact h
  | store_event event hfree hsent => exact h
  | push_event_inner event hheld => exact h.send event
  | send_event event => exact h.send event

/-- The steps of a task that holds the lock for one section. -/
def section_ops (added : List CommonEvent) : List StreamOp :=
  .lock :: added.map .push_event_inner ++ [.unlock]

theorem pushes (added : List CommonEvent) (stream : EventStream) (hheld : stream.locked = true) :
    Run Step stream (added.map .push_event_inner) { stream with
      events := stream.events ++ added
      events_tx := { stream.events_tx with sent := stream.events_tx.sent ++ added } } := by
  induction added generalizing stream with
  | nil =>
    rw [List.append_nil, List.append_nil]
    exact .nil _
  | cons event added ih =>
    have hrest := ih (stream.push event) hheld
    rw [push, Sender.send] at hrest
    dsimp only at hrest
    rw [List.append_assoc, List.append_assoc] at hrest
    exact .cons (.push_event_inner event hheld) hrest

end EventStream

theorem SidesKept.events_grow {inner inner' : StoreInner} {owns : String → String → String → Prop}
    (h : SidesKept owns inner inner') :
    inner.events <+: inner'.events := by
  obtain ⟨added, heq, -⟩ := h.events
  rw [heq]
  exact List.prefix_append _ _

theorem finish_upload_events (inner : StoreInner) (idem_key : String × String × String)
    (request_hash : String) (media_result : error.ApiResult MediaObject) :
    (finish_upload inner idem_key request_hash media_result).2.events = inner.events := by
  unfold finish_upload
  cases media_result with
  | error err => rfl
  | ok media =>
    dsimp only
    split <;> rfl

theorem StoreOp.events_grow (self : AppState) (ctx : Ctx) (inner : StoreInner) (op : StoreOp) :
    inner.events <+: (op.apply self ctx inner).events := by
  by_cases hsend : op.IsSend
  · cases op with
    | prepare_send_message_with_actor project company conversation key request actor =>
      rw [StoreOp.apply]
      rcases prepare_send_message_with_actor_cases self ctx inner project company conversation key request
        actor (StoreOp.attaches_any self ctx inner _) with ⟨record, -, hanswer⟩ | ⟨-, ⟨err, hanswer⟩ | ⟨message, mid, hmid, -, -, -, hanswer⟩⟩
      · simp only [hanswer, List.prefix_rfl]
      · simp only [hanswer, List.prefix_rfl]
      · rw [hanswer]
        exact hmid.events_grow.trans (List.prefix_append _ _)
    | _ => exact absurd hsend id
  · exact (op.sides_kept self ctx hsend (op.attaches_any self ctx inner)).events_grow

/-- Every operation only adds to the events; a restart, which ends the broadcast as
well, reads them anew. -/
theorem Operation.events_grow (self : AppState) (ctx : Ctx) (inner : StoreInner) {op : Operation}
    (hop : op ≠ .restart) : inner.events <+: (op.apply self ctx inner).events := by
  by_cases hsides : op.OnSides
  · cases op with
    | store op => exact op.events_grow self ctx inner
    | finish_upload idem_key request_hash media_result =>
      simp only [Operation.apply, finish_upload_events, List.prefix_rfl]
    | remove_expired message_ids media_ids => exact List.prefix_rfl
    | restart => exact absurd rfl hop
    | _ => exact absurd hsides id
  · exact (op.sides_kept self ctx hsides (op.attaches_any self ctx inner)).events_grow

/-- To the broadcast, an operation is a task that holds the lock and pushes what it adds,
one event after the other. -/
theorem Operation.streamed (self : AppState) (ctx : Ctx) {op : Operation} (hop : op ≠ .restart)
    {inner : StoreInner} {stream : EventStream} (hevents : stream.events = inner.events)
    (hfree : stream.locked = false) :
    ∃ added, Run EventStream.Step stream (EventStream.section_ops added) { stream with
      events := (op.apply self ctx inner).events
      events_tx := { stream.events_tx with sent := stream.events_tx.sent ++ added } } := by
  obtain ⟨added, hadded⟩ := op.events_grow self ctx inner hop
  refine ⟨added, ?_⟩
  rw [← hadded, ← hevents]
  have hpushes := EventStream.pushes added { stream with locked := true } rfl
  refine .cons (.lock hfree) (hpushes.append (.cons (.unlock rfl) ?_))
  obtain ⟨events, locked, in_flight, events_tx⟩ := stream
  cases hfree
  exact .nil _

end rustzap.state
