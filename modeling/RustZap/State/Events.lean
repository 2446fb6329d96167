import RustZap.State.Store

open collections serde_json
open rustzap.models

namespace rustzap.eventbus

/-- A new event draws three UUIDs, the ones numbered from `draw` on. -/
def new_event (ctx : Ctx) (draw : Nat) (event_type project_id company_id : String)
    (channel_id conversation_id message_id : Option String) (conversation_seq : Option Int)
    (payload : Value) : CommonEvent where
  event_id := "evt_" ++ ctx.uuid draw
  trace_id := "trace_" ++ ctx.uuid (draw + 1)
  correlation_id := "corr_" ++ ctx.uuid (draw + 2)
  event_type
  project_id
  company_id
  channel_id
  conversation_id
  message_id
  conversation_seq
  causation_id := none
  occurred_at := ctx.now
  produced_at := ctx.now
  payload

def dirty_signal (ctx : Ctx) (draw : Nat) (project_id company_id channel_id conversation_id : String)
    (to_seq : Int) (reason : String) (priority : Int) : CommonEvent :=
  new_event ctx draw "conversation.dirty" project_id company_id (some channel_id)
    (some conversation_id) none (some to_seq)
    (.object [("to_seq", .number to_seq), ("reason", .string reason), ("priority", .number priority)])

end rustzap.eventbus

namespace rustzap.state

open rustzap.eventbus

/-- The broadcast and the event bus receive a copy of the event as well; they
are outside the store. -/
def push_event_inner (inner : StoreInner) (event : CommonEvent) : StoreInner :=
  { inner with events := inner.events ++ [event] }

def DirtyRecord.updated (self : DirtyRecord) (now : OffsetDateTime) : DirtyRecord :=
  { self with available_at := min self.available_at now }

/-- The dirty entry that marking leaves behind. -/
def marked_dirty (now : OffsetDateTime) (conversation_id : String) (max_seq : Int) :
    Option DirtyRecord → DirtyRecord
  | some dirty => { dirty with max_seq := max dirty.max_seq max_seq }.updated now
  | none =>
    { conversation_id, max_seq, reason := "new_message", priority := 100, available_at := now,
      lease_token := none, locked_until := none }

def mark_dirty_inner (ctx : Ctx) (draw : Nat) (inner : StoreInner)
    (project_id company_id conversation_id : String) (max_seq : Int) (channel_id : String) :
    StoreInner :=
  let key := (project_id, company_id, conversation_id)
  let dirty := marked_dirty ctx.now conversation_id max_seq (inner.dirty.lookup key)
  push_event_inner { inner with dirty := inner.dirty.insert key dirty }
    (dirty_signal ctx draw project_id company_id channel_id conversation_id max_seq "new_message" 100)

theorem marked_dirty_conversation_id (now : OffsetDateTime) (conversation_id : String) (max_seq : Int)
    (stored : Option DirtyRecord) :
    (marked_dirty now conversation_id max_seq stored).conversation_id =
      stored.elim conversation_id DirtyRecord.conversation_id := by
  cases stored <;> rfl

theorem marked_dirty_max_seq (now : OffsetDateTime) (conversation_id : String) (max_seq : Int)
    (stored : Option DirtyRecord) :
    (marked_dirty now conversation_id max_seq stored).max_seq =
      stored.elim max_seq fun dirty => max dirty.max_seq max_seq := by
  cases stored <;> rfl

end rustzap.state
