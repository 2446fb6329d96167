import RustZap.Database.Publishing
import RustZap.State.EventStream

open broadcast runs
open rustzap.db rustzap.models

namespace rustzap.state

/-- The service that keeps its events in memory, as its internal dispatcher meets it.
`handled` are the events that were given to `handle_internal_work_event`, in their order,
and `skipped` is how many events the warnings of the dispatcher add up to. -/
structure Dispatching where
  stream : EventStream
  internal_processed_event_ids : List String
  rx : Receiver
  handled : List CommonEvent
  skipped : Nat

namespace Dispatching

/-- The dispatcher subscribes when the service starts. The ids of earlier events are not
kept over a restart. -/
def start (stream : EventStream) : Dispatching where
  stream
  internal_processed_event_ids := []
  rx := stream.events_tx.subscribe
  handled := []
  skipped := 0

variable (state : Dispatching)

/-- A set is told whether an element is new to it. -/
def claim_internal_event (event : CommonEvent) : Bool × List String :=
  if event.event_id ∈ state.internal_processed_event_ids then (false, state.internal_processed_event_ids)
  else (true, state.internal_processed_event_ids ++ [event.event_id])

def process_internal_work_event (event : CommonEvent) : Dispatching :=
  if !internal_work_event_type event.event_type then state
  else
    let (claimed, internal_processed_event_ids) := state.claim_internal_event event
    if !claimed then state
    else { state with internal_processed_event_ids, handled := state.handled ++ [event] }

/-- One turn of the dispatcher's loop, with what it receives. -/
def turn (received : Received CommonEvent) (rx : Receiver) : Dispatching :=
  match received with
  | .ok event => { state.process_internal_work_event event with rx }
  | .error (.Lagged skipped) => { state with rx, skipped := state.skipped + skipped }

end Dispatching

inductive DispatchingOp where
  | service (op : StreamOp)
  | turn

/-- A reset of the development store forgets what was processed. What a handler does to
the store are steps of the service, and that a turn waits for the lock only makes it later. -/
inductive Dispatching.Step : Dispatching → DispatchingOp → Dispatching → Prop
  | service {state : Dispatching} {op : StreamOp} {stream : EventStream}
      (hstep : EventStream.Step state.stream op stream) :
      Dispatching.Step state (.service op) { state with
        stream
        internal_processed_event_ids :=
          match op with
          | .reset_dev => []
          | _ => state.internal_processed_event_ids }
  | turn {state : Dispatching} {received : Received CommonEvent} {rx : Receiver}
      (hrecv : state.rx.recv state.stream.events_tx = some (received, rx)) :
      Dispatching.Step state .turn (state.turn received rx)

namespace Dispatching

def is_work (event : CommonEvent) : Bool := internal_work_event_type event.event_type

variable {state state' : Dispatching} {event : CommonEvent}

/-- An event is handled and noted, or it is no work, or its id is one that was noted. -/
theorem process_internal_work_event_cases (state : Dispatching) (event : CommonEvent) :
    (is_work event = true ∧ event.event_id ∉ state.internal_processed_event_ids ∧
      state.process_internal_work_event event = { state with
        internal_processed_event_ids := state.internal_processed_event_ids ++ [event.event_id]
        handled := state.handled ++ [event] }) ∨
    (is_work event = true → event.event_id ∈ state.internal_processed_event_ids) ∧
      state.process_internal_work_event event = state := by
  unfold process_internal_work_event claim_internal_event
  by_cases hwork : is_work event = true
  · have htype : internal_work_event_type event.event_type = true := hwork
    by_cases hnoted : event.event_id ∈ state.internal_processed_event_ids
    · refine Or.inr ⟨fun _ => hnoted, ?_⟩
      rw [htype, if_pos hnoted]
      rfl
    · refine Or.inl ⟨hwork, hnoted, ?_⟩
      rw [htype, if_neg hnoted]
      rfl
  · refine Or.inr ⟨fun h => absurd h hwork, ?_⟩
    have htype : internal_work_event_type event.event_type = false := Bool.eq_false_iff.mpr hwork
    rw [htype]
    rfl

/-- What the dispatcher has done since it stood at the number `start`: it followed the
broadcast, what it handled is work that it received, in that order, and the warnings tell
how much it did not receive. -/
structure Account (start : Nat) (outcomes : List (Received CommonEvent)) (state : Dispatching) : Prop where
  follows : Follows state.stream.events_tx start state.rx outcomes
  handled : state.handled.Sublist ((values outcomes).filter is_work)
  skipped : state.skipped = broadcast.skipped outcomes

variable {start : Nat} {outcomes : List (Received CommonEvent)}

theorem Account.service (h : Account start outcomes state) {op : StreamOp} {stream : EventStream}
    (hstep : EventStream.Step state.stream op stream) (internal_processed_event_ids : List String) :
    Account start outcomes { state with stream, internal_processed_event_ids } :=
  ⟨EventStream.follows_step hstep h.follows, h.handled, h.skipped⟩

theorem Account.turn (h : Account start outcomes state) {received : Received CommonEvent} {rx : Receiver}
    (hrecv : state.rx.recv state.stream.events_tx = some (received, rx)) :
    Account start (outcomes ++ [received]) (state.turn received rx) := by
  have hfollows := h.follows.recv hrecv
  rcases received with ⟨⟨missed⟩⟩ | event
  · refine ⟨hfollows, ?_, ?_⟩
    · rw [Covers.values_append]
      exact h.handled.trans ((List.sublist_append_left _ _).filter _)
    · rw [Covers.skipped_append]
      exact congrArg (· + missed) h.skipped
  · have hvalues : (values (outcomes ++ [.ok event])).filter is_work =
        (values outcomes).filter is_work ++ [event].filter is_work := by
      rw [Covers.values_append, List.filter_append]
      rfl
    have hskipped : state.skipped = broadcast.skipped (outcomes ++ [.ok event]) := by
      rw [Covers.skipped_append]
      exact h.skipped
    rw [Dispatching.turn]
    rcases state.process_internal_work_event_cases event with ⟨hwork, -, hprocess⟩ | ⟨-, hprocess⟩
    · rw [hprocess]
      refine ⟨hfollows, ?_, hskipped⟩
      rw [hvalues, List.filter_cons_of_pos hwork]
      exact h.handled.append (List.Sublist.refl _)
    · rw [hprocess]
      refine ⟨hfollows, ?_, hskipped⟩
      rw [hvalues]
      exact h.handled.trans (List.sublist_append_left _ _)

/-- Whether an event of this id was handled. -/
def Handled (state : Dispatching) (event_id : String) : Prop :=
  event_id ∈ state.handled.map CommonEvent.event_id

/-- Nothing is left out: what counts as processed was handled, and so was all work that
was received. -/
structure Complete (outcomes : List (Received CommonEvent)) (state : Dispatching) : Prop where
  noted : ∀ event_id ∈ state.internal_processed_event_ids, state.Handled event_id
  received : ∀ event ∈ values outcomes, is_work event = true → state.Handled event.event_id

theorem Complete.turn (h : Complete outcomes state) (received : Received CommonEvent) (rx : Receiver) :
    Complete (outcomes ++ [received]) (state.turn received rx) := by
  rcases received with ⟨⟨missed⟩⟩ | event
  · refine ⟨h.noted, fun event hevent => h.received event ?_⟩
    rw [Covers.values_append] at hevent
    exact (List.mem_append.mp hevent).resolve_right (List.not_mem_nil)
  · rw [Dispatching.turn]
    -- an event that was received is an earlier one or the new one
    have hsplit : ∀ earlier ∈ values (outcomes ++ [.ok event]), earlier ∈ values outcomes ∨ earlier = event := by
      intro earlier hearlier
      rw [Covers.values_append] at hearlier
      exact (List.mem_append.mp hearlier).imp_right List.mem_singleton.mp
    rcases state.process_internal_work_event_cases event with ⟨hwork, -, hprocess⟩ | ⟨hnoted, hprocess⟩
    · rw [hprocess]
      have hgrown : ∀ event_id, state.Handled event_id ∨ event_id = event.event_id →
          event_id ∈ (state.handled ++ [event]).map CommonEvent.event_id := by
        intro event_id hor
        rw [List.map_append, List.mem_append]
        exact hor.imp_right List.mem_singleton.mpr
      refine ⟨fun event_id hmem => ?_, fun earlier hearlier hearlier_work => ?_⟩
      · rcases List.mem_append.mp hmem with hold | hnew
        · exact hgrown event_id (Or.inl (h.noted event_id hold))
        · exact hgrown event_id (Or.inr (List.mem_singleton.mp hnew))
      · rcases hsplit earlier hearlier with hold | rfl
        · exact hgrown _ (Or.inl (h.received earlier hold hearlier_work))
        · exact hgrown _ (Or.inr rfl)
    · rw [hprocess]
      refine ⟨h.noted, fun earlier hearlier hearlier_work => ?_⟩
      rcases hsplit earlier hearlier with hold | rfl
      · exact h.received earlier hold hearlier_work
      · exact h.noted _ (hnoted hearlier_work)

/-- No id is handled twice while what was processed is remembered. -/
structure Once (state : Dispatching) : Prop where
  noted : ∀ event_id, state.Handled event_id → event_id ∈ state.internal_processed_event_ids
  nodup : (state.handled.map CommonEvent.event_id).Nodup

theorem Once.turn (h : Once state) (received : Received CommonEvent) (rx : Receiver) :
    Once (state.turn received rx) := by
  rcases received with ⟨⟨missed⟩⟩ | event
  · exact ⟨h.noted, h.nodup⟩
  · rw [Dispatching.turn]
    rcases state.process_internal_work_event_cases event with ⟨-, hfresh, hprocess⟩ | ⟨-, hprocess⟩
    · rw [hprocess]
      refine ⟨fun event_id hhandled => ?_, ?_⟩
      · rw [Handled, List.map_append] at hhandled
        rcases List.mem_append.mp hhandled with hold | hnew
        · exact List.mem_append_left _ (h.noted event_id hold)
        · exact List.mem_append_right _ hnew
      · rw [List.map_append]
        refine List.nodup_append.mpr ⟨h.nodup, List.nodup_singleton _, fun event_id hold new hnew heq => ?_⟩
        rw [List.mem_singleton.mp hnew] at heq
        exact hfresh (heq ▸ h.noted event_id hold)
    · rw [hprocess]
      exact ⟨h.noted, h.nodup⟩

section Runs

variable {stream : EventStream} {ops : List DispatchingOp}

theorem account_run (hrun : Run Dispatching.Step (.start stream) ops state) :
    ∃ outcomes, Account stream.events_tx.sent.length outcomes state ∧ Complete outcomes state := by
  refine hrun.invariant (fun state op state' (haccounts : ∃ outcomes,
    Account stream.events_tx.sent.length outcomes state ∧ Complete outcomes state) hstep => ?_)
    ⟨[], ⟨.unasked (Nat.le_refl _), List.nil_sublist _, rfl⟩, ?_⟩
  · obtain ⟨outcomes, haccount, hcomplete⟩ := haccounts
    cases hstep with
    | @service op _ hstep =>
      refine ⟨outcomes, haccount.service hstep _, ?_, hcomplete.received⟩
      cases op with
      | reset_dev => exact List.forall_mem_nil _
      | _ => exact hcomplete.noted
    | turn hrecv => exact ⟨_, haccount.turn hrecv, hcomplete.turn ..⟩
  · exact ⟨List.forall_mem_nil _, List.forall_mem_nil _⟩

theorem once_run (hrun : Run Dispatching.Step (.start stream) ops state)
    (hkept : .service .reset_dev ∉ ops) : Once state := by
  have hstart : Once (.start stream) := ⟨fun _ hhandled => hhandled, List.nodup_nil⟩
  refine hrun.invariant_of_mem ?_ hstart
  intro state op state' hmem h hstep
  cases hstep with
  | @service op _ hstep =>
    cases op with
    | reset_dev => exact absurd hmem hkept
    | _ => exact ⟨h.noted, h.nodup⟩
  | turn hrecv => exact h.turn ..

/-- The dispatcher handles the work among the events that were sent since the service has
started, in the order in which it was sent and no event oftener than it was sent. It
handles none of an id twice, unless the store was reset, and if it was never told that it
lagged, then it leaves no id out. -/
theorem dispatcher_account (hrun : Run Dispatching.Step (.start stream) ops state) :
    let taken := (state.stream.events_tx.sent.take state.rx.next).drop stream.events_tx.sent.length
    state.handled.Sublist (taken.filter is_work) ∧
    (.service .reset_dev ∉ ops → (state.handled.map CommonEvent.event_id).Nodup) ∧
    (state.skipped = 0 → ∀ event ∈ taken, is_work event = true → state.Handled event.event_id) := by
  intro taken
  obtain ⟨outcomes, haccount, hcomplete⟩ := account_run hrun
  have hcovers : Covers outcomes taken := haccount.follows.covers
  refine ⟨haccount.handled.trans (hcovers.values_sublist.filter is_work),
    fun hkept => (once_run hrun hkept).nodup, ?_⟩
  intro hnone event hevent hwork
  rw [← hcovers.values_eq (haccount.skipped ▸ hnone)] at hevent
  exact hcomplete.received event hevent hwork

end Runs

end Dispatching

namespace sample

/-- A request to send, and a note about a conversation. -/
def event (event_type : String) : CommonEvent :=
  eventbus.new_event (ctx 1 event_type) 0 event_type "acme" "company_a" none none (some "msg_a0") none .null

def request : CommonEvent := event "outbound.send.requested"

def note : CommonEvent := event "conversation.dirty"

def dispatching_ops : List DispatchingOp :=
  [.service .lock, .service (.push_event_inner note), .service (.push_event_inner request),
    .service .unlock, .turn, .turn]

/-- The dispatcher after it has taken some events and handled some. -/
def dispatched (taken : Nat) (handled : List CommonEvent) : Dispatching where
  stream := {
    events := [note, request]
    locked := false
    in_flight := []
    events_tx := { capacity := 1024, sent := [note, request] } }
  internal_processed_event_ids := handled.map CommonEvent.event_id
  rx := ⟨taken⟩
  handled
  skipped := 0

theorem turn_note : (dispatched 0 []).turn (.ok note) ⟨1⟩ = dispatched 1 [] := by
  have hother : internal_work_event_type note.event_type = false := by decide
  rw [Dispatching.turn, Dispatching.process_internal_work_event, hother]
  rfl

theorem turn_request : (dispatched 1 []).turn (.ok request) ⟨2⟩ = dispatched 2 [request] := by
  have hwork : internal_work_event_type request.event_type = true := by decide
  rw [Dispatching.turn, Dispatching.process_internal_work_event, hwork]
  rfl

theorem takes_note : Dispatching.Step (dispatched 0 []) .turn (dispatched 1 []) := turn_note ▸ .turn rfl

theorem takes_request : Dispatching.Step (dispatched 1 []) .turn (dispatched 2 [request]) :=
  turn_request ▸ .turn rfl

theorem dispatching : Run Dispatching.Step (.start (.new [])) dispatching_ops (dispatched 2 [request]) :=
  .cons (.service (.lock rfl)) <|
  .cons (.service (.push_event_inner _ rfl)) <|
  .cons (.service (.push_event_inner _ rfl)) <|
  .cons (t := dispatched 0 []) (.service (.unlock rfl)) <|
  .cons takes_note (.cons takes_request (.nil _))

end sample

open sample in
theorem dispatcher_account_dispatched :
    [request].Sublist ([note, request].filter Dispatching.is_work) ∧
    (.service .reset_dev ∉ dispatching_ops → ([request].map CommonEvent.event_id).Nodup) ∧
    (0 = 0 → ∀ event ∈ [note, request], Dispatching.is_work event = true →
      (dispatched 2 [request]).Handled event.event_id) :=
  Dispatching.dispatcher_account dispatching

end rustzap.state
