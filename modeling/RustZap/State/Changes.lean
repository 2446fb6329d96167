import RustZap.State.Conversations
import RustZap.State.Dirty
import RustZap.State.WhatsappEvents
import Mathlib.Logic.Relation

open collections serde_json
open rustzap.error rustzap.eventbus rustzap.models rustzap.transcription rustzap.whatsapp

namespace rustzap.state

/-- What no update of a message touches. -/
structure SameMessage (old new : Message) : Prop where
  id : new.id = old.id
  project_id : new.project_id = old.project_id
  company_id : new.company_id = old.company_id
  conversation_id : new.conversation_id = old.conversation_id
  channel_account_id : new.channel_account_id = old.channel_account_id
  conversation_seq : new.conversation_seq = old.conversation_seq
  direction : new.direction = old.direction
  message_type : new.message_type = old.message_type

theorem SameMessage.refl (message : Message) : SameMessage message message :=
  ⟨rfl, rfl, rfl, rfl, rfl, rfl, rfl, rfl⟩

theorem SameMessage.trans {old mid new : Message} (h : SameMessage old mid) (h' : SameMessage mid new) :
    SameMessage old new :=
  ⟨h'.id.trans h.id, h'.project_id.trans h.project_id, h'.company_id.trans h.company_id,
    h'.conversation_id.trans h.conversation_id, h'.channel_account_id.trans h.channel_account_id,
    h'.conversation_seq.trans h.conversation_seq, h'.direction.trans h.direction,
    h'.message_type.trans h.message_type⟩

/-- A conversation that is stored under `key` where `stored` was: a changed
version of it that counts no message, or a new one. -/
structure SameConversation (key : String) (stored : Option Conversation) (conversation : Conversation) :
    Prop where
  id : conversation.id = stored.elim key Conversation.id
  last_seq : conversation.last_seq = stored.elim 0 Conversation.last_seq
  owner : ∀ old, stored = some old →
    conversation.project_id = old.project_id ∧ conversation.company_id = old.company_id

/-- The maps that conversations, messages and the dirty queue are made of. -/
structure SameCore (inner inner' : StoreInner) : Prop where
  conversations : inner'.conversations = inner.conversations
  messages_by_conversation : inner'.messages_by_conversation = inner.messages_by_conversation
  messages_by_id : inner'.messages_by_id = inner.messages_by_id
  dirty : inner'.dirty = inner.dirty
  dirty_leases : inner'.dirty_leases = inner.dirty_leases
  consumer_state : inner'.consumer_state = inner.consumer_state

theorem SameCore.trans {inner inner' inner'' : StoreInner} (h : SameCore inner inner')
    (h' : SameCore inner' inner'') : SameCore inner inner'' :=
  ⟨h'.conversations.trans h.conversations, h'.messages_by_conversation.trans h.messages_by_conversation,
    h'.messages_by_id.trans h.messages_by_id, h'.dirty.trans h.dirty,
    h'.dirty_leases.trans h.dirty_leases, h'.consumer_state.trans h.consumer_state⟩

/-- Where a recorded message comes from. Its id is a new UUID, and so is its
WhatsApp id unless it came in with one that no message of its channel and
direction had. -/
structure NewMessage (ctx : Ctx) (inner : StoreInner) (message : Message) : Prop where
  id : message.id = "msg_" ++ ctx.uuid 0
  identity : ∀ wa_message_id, message.wa_message_id = some wa_message_id →
    wa_message_id = "wa_" ++ ctx.uuid 1 ∨
    ∀ stored ∈ inner.messages_by_id.values,
      has_external_identity message.channel_account_id wa_message_id message.direction stored = false

/-- What not every operation does: which messages it gives which WhatsApp id, and
whether it takes an ack or gives out leases. -/
structure Effects where
  gives : String → String → Prop
  acks : Prop
  polls : Prop

/-- Where the sequence number comes from that a conversation is marked at: from a
stored message of the conversation, or from the conversation's own count. -/
def Markable (inner : StoreInner) (conversation_id : String) (seq : Int) : Prop :=
  (∃ message_id message, inner.messages_by_id.lookup message_id = some message ∧
    message.conversation_id = conversation_id ∧ message.conversation_seq = seq) ∨
  ∃ key conversation, inner.conversations.lookup key = some conversation ∧
    conversation.id = conversation_id ∧ conversation.last_seq = seq

/-- The elementary changes of the store's core. Every operation is a sequence of
them. An operation that gives a WhatsApp id records no message. -/
inductive Change (ctx : Ctx) (effects : Effects) (inner : StoreInner) :
    StoreInner → Prop
  | aside {inner' : StoreInner} (hsame : SameCore inner inner') : Change ctx effects inner inner'
  | record {message : Message} {inner' : StoreInner} (hrecorded : Recorded ctx inner message inner')
      (hnew : NewMessage ctx inner message) (hquiet : ∀ id wa, ¬ effects.gives id wa) :
      Change ctx effects inner inner'
  | rewrite {message_id : String} {old new : Message}
      (hold : inner.messages_by_id.lookup message_id = some old) (hsame : SameMessage old new)
      (hwa : new.wa_message_id = old.wa_message_id ∨
        ∃ wa, effects.gives message_id wa ∧ new.wa_message_id = some wa) :
      Change ctx effects inner (store_message inner message_id new)
  | rewrite_all (f : Message → Message) (hsame : ∀ message, SameMessage message (f message))
      (hwa : ∀ message, (f message).wa_message_id = message.wa_message_id) :
      Change ctx effects inner { inner with
        messages_by_conversation := inner.messages_by_conversation.map_values fun _ ms => ms.map f
        messages_by_id := inner.messages_by_id.map_values fun _ message => f message }
  | converse {key : String} {conversation : Conversation}
      (hsame : SameConversation key (inner.conversations.lookup key) conversation) :
      Change ctx effects inner { inner with
        conversations := inner.conversations.insert key conversation }
  | converse_all (f : Conversation → Conversation)
      (hsame : ∀ conversation, SameConversation conversation.id (some conversation) (f conversation)) :
      Change ctx effects inner { inner with
        conversations := inner.conversations.map_values fun _ conversation => f conversation }
  | mark (now : OffsetDateTime) (project_id company_id conversation_id : String) (seq : Int)
      (hseq : Markable inner conversation_id seq) :
      Change ctx effects inner { inner with
        dirty := inner.dirty.insert (project_id, company_id, conversation_id)
          (marked_dirty now conversation_id seq
            (inner.dirty.lookup (project_id, company_id, conversation_id))) }
  | poll (now : Ctx) (project_id company_id consumer_id : String) (limit : Nat)
      (hpolls : effects.polls) :
      Change ctx effects inner (list_dirty now inner project_id company_id consumer_id limit).2
  | ack {project_id company_id conversation_id : String} (request : DirtyAckRequest) {dirty : DirtyRecord}
      (hdirty : inner.dirty.lookup (project_id, company_id, conversation_id) = some dirty)
      (hacks : effects.acks) :
      Change ctx effects inner (acked inner project_id company_id conversation_id request dirty)

/-- A sequence of elementary changes. -/
abbrev Changes (ctx : Ctx) (effects : Effects) : StoreInner → StoreInner → Prop :=
  Relation.ReflTransGen (Change ctx effects)

/-- What every elementary change preserves, an operation preserves. -/
theorem Changes.invariant {ctx : Ctx} {effects : Effects} {Inv : StoreInner → Prop}
    (hstep : ∀ s t, Inv s → Change ctx effects s t → Inv t) {inner inner' : StoreInner}
    (h : Changes ctx effects inner inner') (hinv : Inv inner) : Inv inner' := by
  induction h with
  | refl => exact hinv
  | tail _ hone ih => exact hstep _ _ ih hone

/-- What an elementary change does to the messages: nothing, the recording of a
new one, or a rewriting that keeps what no update touches. -/
inductive MessagesChange (ctx : Ctx) (effects : Effects) (inner inner' : StoreInner) : Prop
  | none (h : inner'.messages_by_id = inner.messages_by_id)
  | record {message : Message} (hnew : NewMessage ctx inner message)
      (hquiet : ∀ id wa, ¬ effects.gives id wa)
      (h : inner'.messages_by_id = inner.messages_by_id.insert message.id message)
  | rewrite {message_id : String} {old new : Message}
      (hold : inner.messages_by_id.lookup message_id = some old) (hsame : SameMessage old new)
      (hwa : new.wa_message_id = old.wa_message_id ∨
        ∃ wa, effects.gives message_id wa ∧ new.wa_message_id = some wa)
      (h : inner'.messages_by_id = inner.messages_by_id.insert message_id new)
  | rewrite_all (f : Message → Message) (hsame : ∀ message, SameMessage message (f message))
      (hwa : ∀ message, (f message).wa_message_id = message.wa_message_id)
      (h : inner'.messages_by_id = inner.messages_by_id.map_values fun _ message => f message)

theorem acked_messages_by_id (inner : StoreInner) (project_id company_id conversation_id : String)
    (request : DirtyAckRequest) (dirty : DirtyRecord) :
    (acked inner project_id company_id conversation_id request dirty).messages_by_id =
      inner.messages_by_id := by
  unfold acked
  dsimp only
  split <;> rfl

theorem Change.messages {ctx : Ctx} {effects : Effects} {inner inner' : StoreInner}
    (h : Change ctx effects inner inner') : MessagesChange ctx effects inner inner' := by
  cases h with
  | aside hsame => exact .none hsame.messages_by_id
  | record hrecorded hnew hquiet =>
    obtain ⟨conversation, contacts, group_members, events, -, rfl⟩ := hrecorded
    exact .record hnew hquiet rfl
  | rewrite hold hsame hwa => exact .rewrite hold hsame hwa rfl
  | rewrite_all f hsame hwa => exact .rewrite_all f hsame hwa rfl
  | converse hsame => exact .none rfl
  | converse_all f hsame => exact .none rfl
  | mark now project_id company_id conversation_id seq hseq => exact .none rfl
  | poll now project_id company_id consumer_id limit => exact .none rfl
  | ack request hdirty hacks => exact .none (acked_messages_by_id ..)

/-- Messages stay under their own ids. -/
theorem Change.messages_keyed {ctx : Ctx} {effects : Effects} {inner inner' : StoreInner}
    (h : Change ctx effects inner inner') (hkeyed : inner.messages_by_id.Keyed Message.id) :
    inner'.messages_by_id.Keyed Message.id := by
  cases h.messages with
  | none heq =>
    rw [heq]
    exact hkeyed
  | record hnew hquiet heq =>
    rw [heq]
    exact hkeyed.insert rfl
  | rewrite hold hsame hwa heq =>
    rw [heq]
    exact hkeyed.insert (hsame.id.trans (hkeyed _ _ hold))
  | rewrite_all f hsame hwa heq =>
    rw [heq]
    exact hkeyed.map_values fun _ message => (hsame message).id

theorem Changes.messages_keyed {ctx : Ctx} {effects : Effects} {inner inner' : StoreInner}
    (h : Changes ctx effects inner inner') (hkeyed : inner.messages_by_id.Keyed Message.id) :
    inner'.messages_by_id.Keyed Message.id :=
  h.invariant (fun _ _ hkeyed hchange => hchange.messages_keyed hkeyed) hkeyed

/-- An elementary change brings in no message but under the id that it draws for a new
one. -/
theorem Change.message_from {ctx : Ctx} {effects : Effects} {inner inner' : StoreInner}
    (h : Change ctx effects inner inner') {id : String} (hid : id ≠ "msg_" ++ ctx.uuid 0) {message : Message}
    (hmessage : inner'.messages_by_id.lookup id = some message) :
    ∃ old, inner.messages_by_id.lookup id = some old ∧ SameMessage old message := by
  cases h.messages with
  | none heq => exact ⟨message, heq ▸ hmessage, .refl message⟩
  | record hnew hquiet heq =>
    rw [heq, HashMap.lookup_insert_ite, hnew.id, if_neg hid] at hmessage
    exact ⟨message, hmessage, .refl message⟩
  | @rewrite message_id old new hold hsame hwa heq =>
    rw [heq, HashMap.lookup_insert_ite] at hmessage
    split at hmessage
    · next hkey =>
      cases hmessage
      exact ⟨old, hkey ▸ hold, hsame⟩
    · exact ⟨message, hmessage, .refl message⟩
  | rewrite_all f hsame hwa heq =>
    rw [heq, HashMap.lookup_map_values, Option.map_eq_some_iff] at hmessage
    obtain ⟨old, hold, rfl⟩ := hmessage
    exact ⟨old, hold, hsame old⟩

theorem Changes.message_from {ctx : Ctx} {effects : Effects} {inner inner' : StoreInner}
    (h : Changes ctx effects inner inner') {id : String} (hid : id ≠ "msg_" ++ ctx.uuid 0)
    {message : Message} (hmessage : inner'.messages_by_id.lookup id = some message) :
    ∃ old, inner.messages_by_id.lookup id = some old ∧ SameMessage old message := by
  induction h generalizing message with
  | refl => exact ⟨message, hmessage, .refl message⟩
  | tail _ hone ih =>
    obtain ⟨mid, hmid, hsame⟩ := hone.message_from hid hmessage
    obtain ⟨old, hold, hsame'⟩ := ih hmid
    exact ⟨old, hold, hsame'.trans hsame⟩

/-- Whatever message is in the first map is in the second, perhaps updated. -/
def MessagesKept (old new : HashMap String Message) : Prop :=
  ∀ id message, old.lookup id = some message → ∃ message', new.lookup id = some message' ∧
    SameMessage message message'

theorem MessagesKept.refl (messages : HashMap String Message) : MessagesKept messages messages :=
  fun _ message h => ⟨message, h, SameMessage.refl message⟩

theorem MessagesKept.trans {old mid new : HashMap String Message} (h : MessagesKept old mid)
    (h' : MessagesKept mid new) : MessagesKept old new := by
  intro id message hold
  obtain ⟨message', hmid, hsame⟩ := h id message hold
  obtain ⟨message'', hnew, hsame'⟩ := h' id message' hmid
  exact ⟨message'', hnew, hsame.trans hsame'⟩

/-- An elementary change keeps every message but one under the id that it draws
for a new one, where it can record one at all. -/
theorem Change.message_kept {ctx : Ctx} {effects : Effects} {inner inner' : StoreInner}
    (h : Change ctx effects inner inner') {id : String}
    (hid : (∀ id wa, ¬ effects.gives id wa) → id ≠ "msg_" ++ ctx.uuid 0) {message : Message}
    (hmessage : inner.messages_by_id.lookup id = some message) :
    ∃ message', inner'.messages_by_id.lookup id = some message' ∧ SameMessage message message' := by
  cases h.messages with
  | none heq => exact ⟨message, by rw [heq, hmessage], .refl message⟩
  | record hnew hquiet heq =>
    rw [heq, HashMap.lookup_insert_ite, hnew.id, if_neg (hid hquiet)]
    exact ⟨message, hmessage, .refl message⟩
  | @rewrite message_id old new hold hsame hwa heq =>
    rw [heq, HashMap.lookup_insert_ite]
    split
    · next hkey =>
      rw [hkey, hold] at hmessage
      cases hmessage
      exact ⟨new, rfl, hsame⟩
    · exact ⟨message, hmessage, .refl message⟩
  | rewrite_all f hsame hwa heq =>
    rw [heq, HashMap.lookup_map_values, hmessage]
    exact ⟨f message, rfl, hsame message⟩

theorem Changes.message_kept {ctx : Ctx} {effects : Effects} {inner inner' : StoreInner}
    (h : Changes ctx effects inner inner') {id : String}
    (hid : (∀ id wa, ¬ effects.gives id wa) → id ≠ "msg_" ++ ctx.uuid 0) {message : Message}
    (hmessage : inner.messages_by_id.lookup id = some message) :
    ∃ message', inner'.messages_by_id.lookup id = some message' ∧ SameMessage message message' := by
  have hstep : ∀ s t, (∃ message', s.messages_by_id.lookup id = some message' ∧
        SameMessage message message') → Change ctx effects s t →
      ∃ message', t.messages_by_id.lookup id = some message' ∧ SameMessage message message' := by
    rintro s t ⟨message', hlookup, hsame⟩ hchange
    obtain ⟨message'', hlookup', hsame'⟩ := hchange.message_kept hid hlookup
    exact ⟨message'', hlookup', hsame.trans hsame'⟩
  exact h.invariant hstep ⟨message, hmessage, .refl message⟩

/-- An operation whose drawn id is new keeps all messages. -/
theorem Changes.messages_kept {ctx : Ctx} {effects : Effects} {inner inner' : StoreInner}
    (h : Changes ctx effects inner inner')
    (hfresh : inner.messages_by_id.lookup ("msg_" ++ ctx.uuid 0) = none) :
    MessagesKept inner.messages_by_id inner'.messages_by_id := by
  intro id message hmessage
  refine h.message_kept (fun _ => ?_) hmessage
  rintro rfl
  rw [hfresh] at hmessage
  cases hmessage

section Decompose

variable {ctx : Ctx} {effects : Effects} {inner : StoreInner}

theorem Changes.aside {inner' : StoreInner} (h : SameCore inner inner') :
    Changes ctx effects inner inner' :=
  .single (.aside h)

theorem Changes.then_aside {inner' inner'' : StoreInner} (h : Changes ctx effects inner inner')
    (hsame : SameCore inner' inner'') : Changes ctx effects inner inner'' :=
  h.tail (.aside hsame)

theorem Changes.after_aside {inner' inner'' : StoreInner} (hsame : SameCore inner inner')
    (h : Changes ctx effects inner' inner'') : Changes ctx effects inner inner'' :=
  h.head (.aside hsame)

theorem Changes.converse {key : String} {conversation : Conversation} {inner' : StoreInner}
    (hsame : SameConversation key (inner.conversations.lookup key) conversation)
    (hinner' : SameCore { inner with conversations := inner.conversations.insert key conversation }
      inner') : Changes ctx effects inner inner' :=
  .then_aside (.single (.converse hsame)) hinner'

theorem push_event_inner_changes (event : CommonEvent) :
    Changes ctx effects inner (push_event_inner inner event) :=
  .aside ⟨rfl, rfl, rfl, rfl, rfl, rfl⟩

theorem mark_dirty_inner_changes (ctx' : Ctx) (draw : Nat)
    (project_id company_id conversation_id : String) (max_seq : Int) (channel_id : String)
    (hseq : Markable inner conversation_id max_seq) :
    Changes ctx effects inner
      (mark_dirty_inner ctx' draw inner project_id company_id conversation_id max_seq channel_id) :=
  .tail (.single (.mark ctx'.now project_id company_id conversation_id max_seq hseq))
    (.aside ⟨rfl, rfl, rfl, rfl, rfl, rfl⟩)

theorem store_message_changes {message_id : String} {old new : Message}
    (hold : inner.messages_by_id.lookup message_id = some old) (hsame : SameMessage old new)
    (hwa : new.wa_message_id = old.wa_message_id ∨
      ∃ wa, effects.gives message_id wa ∧ new.wa_message_id = some wa) :
    Changes ctx effects inner (store_message inner message_id new) :=
  .single (.rewrite hold hsame hwa)

theorem attach_media_to_message_inner_changes (now : OffsetDateTime) (message_id : String)
    (media : MediaObject) :
    Changes ctx effects inner (attach_media_to_message_inner now inner message_id media).2 := by
  unfold attach_media_to_message_inner
  cases hold : inner.messages_by_id.lookup message_id with
  | none => exact .refl
  | some message =>
    exact store_message_changes hold ⟨rfl, rfl, rfl, rfl, rfl, rfl, rfl, rfl⟩ (Or.inl rfl)

theorem publish_update_changes {ctx' : Ctx} {message_id event_type : String} {old updated : Message}
    {payload : Value} (hold : inner.messages_by_id.lookup message_id = some old)
    (hsame : SameMessage old updated)
    (hwa : updated.wa_message_id = old.wa_message_id ∨
      ∃ wa, effects.gives message_id wa ∧ updated.wa_message_id = some wa) :
    Changes ctx effects inner (publish_update ctx' inner message_id updated event_type payload) := by
  have hstored : (store_message inner message_id updated).messages_by_id.lookup message_id = some updated :=
    AList.lookup_insert _
  exact ((store_message_changes hold hsame hwa).trans
    (mark_dirty_inner_changes _ _ _ _ _ _ _ (Or.inl ⟨message_id, updated, hstored, rfl, rfl⟩))).trans
    (push_event_inner_changes _)

theorem update_outbound_after_dispatch_changes (ctx' : Ctx) (message_id : String)
    (wa_message_id : Option String) (status : String) (error_message : Option String)
    (hgives : ∀ wa, wa_message_id = some wa → effects.gives message_id wa) :
    Changes ctx effects inner
      (update_outbound_after_dispatch ctx' inner message_id wa_message_id status error_message).2 := by
  unfold update_outbound_after_dispatch
  cases hold : inner.messages_by_id.lookup message_id with
  | none => exact .refl
  | some message =>
    refine publish_update_changes hold ⟨rfl, rfl, rfl, rfl, rfl, rfl, rfl, rfl⟩ ?_
    cases wa_message_id with
    | none => exact Or.inl rfl
    | some wa => exact Or.inr ⟨wa, hgives wa rfl, rfl⟩

theorem update_receipt_with_context_changes (self : AppState) (ctx' : Ctx)
    (message_id receipt_type : String) (created_at_wa : Option OffsetDateTime) :
    Changes ctx effects inner
      (update_receipt_with_context self ctx' inner message_id receipt_type created_at_wa).2 := by
  unfold update_receipt_with_context
  cases hold : inner.messages_by_id.lookup message_id with
  | none => exact .refl
  | some message =>
    exact publish_update_changes hold ⟨rfl, rfl, rfl, rfl, rfl, rfl, rfl, rfl⟩ (Or.inl rfl)

theorem update_receipt_by_wa_id_with_context_changes (self : AppState) (ctx' : Ctx)
    (wa_message_id receipt_type : String) (created_at_wa : Option OffsetDateTime) :
    Changes ctx effects inner
      (update_receipt_by_wa_id_with_context self ctx' inner wa_message_id receipt_type
        created_at_wa).2 := by
  unfold update_receipt_by_wa_id_with_context
  cases find_by_wa_id inner wa_message_id with
  | none => exact .refl
  | some internal_id => exact update_receipt_with_context_changes ..

theorem record_message_inner_new_message (ctx : Ctx) (inner : StoreInner) (input : RecordMessageInput) :
    NewMessage ctx inner (record_message_inner ctx inner input).1 := by
  refine ⟨rfl, ?_⟩
  intro wa hwa
  cases hwa
  exact Or.inl rfl

theorem record_message_inner_changes (hquiet : ∀ id wa, ¬ effects.gives id wa)
    (input : RecordMessageInput) :
    Changes ctx effects inner (record_message_inner ctx inner input).2 :=
  .single (.record (record_message_inner_recorded ctx inner input)
    (record_message_inner_new_message ctx inner input) hquiet)

theorem WhatsappMessageInput.record_new_message (ctx : Ctx) {input : WhatsappMessageInput}
    (hnone : input.existing inner = none) : NewMessage ctx inner (input.record ctx inner).1 := by
  refine ⟨rfl, ?_⟩
  intro wa hwa
  right
  intro stored hstored
  have hinput : input.wa_message_id = some wa := hwa
  rw [WhatsappMessageInput.existing, hinput, Option.bind_some, List.find?_eq_none] at hnone
  exact Bool.eq_false_iff.mpr (hnone stored hstored)

theorem record_whatsapp_message_stored (ctx : Ctx) (hkeyed : inner.messages_by_id.Keyed Message.id)
    (input : WhatsappMessageInput) :
    (record_whatsapp_message ctx inner input).2.messages_by_id.lookup
      (record_whatsapp_message ctx inner input).1.id = some (record_whatsapp_message ctx inner input).1 := by
  rcases record_whatsapp_message_cases ctx inner input with ⟨existing, hexisting, heq⟩ | ⟨-, heq⟩
  · rw [heq]
    obtain ⟨wa, -, hfind⟩ := Option.bind_eq_some_iff.mp hexisting
    obtain ⟨key, hkey⟩ := HashMap.mem_values_iff.mp (List.mem_of_find?_eq_some hfind)
    rw [hkeyed key existing hkey]
    exact hkey
  · rw [heq]
    obtain ⟨conversation, contacts, group_members, events, -, hinner⟩ := input.record_recorded ctx inner
    rw [hinner]
    exact AList.lookup_insert _

theorem record_whatsapp_message_changes (hquiet : ∀ id wa, ¬ effects.gives id wa)
    (input : WhatsappMessageInput) :
    Changes ctx effects inner (record_whatsapp_message ctx inner input).2 := by
  rcases record_whatsapp_message_cases ctx inner input with ⟨existing, -, heq⟩ | ⟨hnone, heq⟩
  · rw [heq]
  · rw [heq]
    exact .single (.record (input.record_recorded ctx inner)
      (WhatsappMessageInput.record_new_message ctx hnone) hquiet)

theorem link_media_changes (ctx' : Ctx) (message : Message) (media : MediaObject) :
    Changes ctx effects inner (link_media ctx' inner message media).2 := by
  unfold link_media
  cases inner.media.lookup media.id with
  | none => exact attach_media_to_message_inner_changes ..
  | some stored =>
    dsimp only
    exact Changes.after_aside (by constructor <;> rfl) (attach_media_to_message_inner_changes ..)

theorem queue_outbound_changes (hquiet : ∀ id wa, ¬ effects.gives id wa)
    (project_id company_id conversation_id : String) (request : SendMessageRequest)
    (actor : Option String) (media : Option MediaObject) :
    Changes ctx effects inner
      (queue_outbound ctx inner project_id company_id conversation_id request actor media).2 := by
  unfold queue_outbound
  cases media with
  | none => exact record_message_inner_changes hquiet _
  | some media => exact (record_message_inner_changes hquiet _).trans (link_media_changes ..)

theorem prepare_send_message_with_actor_changes (hquiet : ∀ id wa, ¬ effects.gives id wa) (self : AppState)
    (project_id company_id conversation_id idempotency_key : String) (request : SendMessageRequest)
    (actor : Option String) :
    Changes ctx effects inner (prepare_send_message_with_actor self ctx inner project_id company_id
      conversation_id idempotency_key request actor).2 := by
  unfold prepare_send_message_with_actor
  dsimp only
  split
  · exact .refl
  · split
    · exact .refl
    · exact Changes.then_aside (queue_outbound_changes hquiet ..) (by constructor <;> rfl)

theorem receive_inbound_text_changes (hquiet : ∀ id wa, ¬ effects.gives id wa)
    (project_id company_id : String) (request : SimulateInboundTextRequest) :
    Changes ctx effects inner (receive_inbound_text ctx inner project_id company_id request).2 :=
  record_message_inner_changes hquiet _

theorem ensure_conversation_inner_changes (ctx' : Ctx)
    (project_id company_id conversation_id channel_id control_mode : String) :
    Changes ctx effects inner
      (ensure_conversation_inner ctx' inner project_id company_id conversation_id channel_id
        control_mode) := by
  unfold ensure_conversation_inner
  split
  · exact .refl
  · next hnone =>
    rw [Option.not_isSome_iff_eq_none] at hnone
    have hnew : ∀ profile phone, SameConversation conversation_id
        (inner.conversations.lookup conversation_id)
        (new_conversation project_id company_id conversation_id channel_id (some conversation_id)
          profile phone control_mode ctx'.now) := by
      intro profile phone
      rw [hnone]
      exact ⟨rfl, rfl, fun old h => by cases h⟩
    dsimp only
    split
    · exact Changes.converse (hnew _ _) (by constructor <;> rfl)
    · exact Changes.converse (hnew _ _) (by constructor <;> rfl)

theorem upload_outbound_media_changes (self : AppState) (ctx' : Ctx) (project_id company_id : String)
    (upload : OutboundMediaUpload) (answers : UploadAnswers) :
    Changes ctx effects inner
      (upload_outbound_media self ctx' inner project_id company_id upload answers).2 := by
  unfold upload_outbound_media
  dsimp only
  repeat' split
  all_goals first
    | exact .refl
    | exact Changes.then_aside (ensure_conversation_inner_changes ..) (by constructor <;> rfl)

theorem mark_read_changes (ctx' : Ctx) (project_id company_id conversation_id : String) :
    Changes ctx effects inner (mark_read ctx' inner project_id company_id conversation_id).2 := by
  unfold mark_read
  dsimp only
  split
  · exact .refl
  · next conversation hfound =>
    have hstored := (Option.filter_eq_some_iff.mp hfound).1
    refine Changes.converse ?_ (by constructor <;> rfl)
    rw [hstored]
    exact ⟨rfl, rfl, fun old h => by cases h; exact ⟨rfl, rfl⟩⟩

/-- What a patch may change of a conversation. -/
def PatchKeeps (old new : Conversation) : Prop :=
  new.id = old.id ∧ new.project_id = old.project_id ∧ new.company_id = old.company_id ∧
    new.channel_account_id = old.channel_account_id ∧ new.last_seq = old.last_seq

theorem patch_field_keeps {A : Type} (body : Value) (key : String) (read : Value → ApiResult A)
    {set : Conversation → A → Conversation} (hset : ∀ c a, PatchKeeps c (set c a))
    (conversation : Conversation) :
    PatchKeeps conversation (patch_field body key read set conversation).2 := by
  unfold patch_field
  repeat' split
  · exact ⟨rfl, rfl, rfl, rfl, rfl⟩
  · exact hset _ _
  · exact ⟨rfl, rfl, rfl, rfl, rfl⟩

theorem patch_in_turn_keeps {steps : List (Conversation → ApiResult Unit × Conversation)}
    (hsteps : ∀ step ∈ steps, ∀ c, PatchKeeps c (step c).2) :
    ∀ conversation, PatchKeeps conversation (patch_in_turn steps conversation).2 := by
  induction steps with
  | nil => intro conversation; exact ⟨rfl, rfl, rfl, rfl, rfl⟩
  | cons step rest ih =>
    intro conversation
    have hfirst := hsteps step List.mem_cons_self conversation
    rw [patch_in_turn]
    split
    · next next hnext =>
      rw [hnext] at hfirst
      obtain ⟨hid, hproject, hcompany, hchannel, hseq⟩ :=
        ih (fun s hs => hsteps s (List.mem_cons_of_mem _ hs)) next
      exact ⟨hid.trans hfirst.1, hproject.trans hfirst.2.1, hcompany.trans hfirst.2.2.1,
        hchannel.trans hfirst.2.2.2.1, hseq.trans hfirst.2.2.2.2⟩
    · next err next hnext =>
      rw [hnext] at hfirst
      exact hfirst

theorem patch_conversation_keeps (body : Value) (conversation : Conversation) :
    PatchKeeps conversation (patch_conversation body conversation).2 := by
  apply patch_in_turn_keeps
  intro step hstep c
  simp only [List.mem_cons, List.not_mem_nil, or_false] at hstep
  rcases hstep with rfl | rfl | rfl | rfl
  all_goals
    apply patch_field_keeps
    exact fun _ _ => ⟨rfl, rfl, rfl, rfl, rfl⟩

theorem patch_conversation_metadata_changes (ctx' : Ctx)
    (project_id company_id conversation_id : String) (body : Value) :
    Changes ctx effects inner
      (patch_conversation_metadata ctx' inner project_id company_id conversation_id body).2 := by
  unfold patch_conversation_metadata
  split
  · split
    · exact .refl
    · split
      · exact .refl
      · dsimp only
        split
        · exact .refl
        · next conversation hfound =>
          have hstored := (Option.filter_eq_some_iff.mp hfound).1
          obtain ⟨hid, hproject, hcompany, -, hseq⟩ := patch_conversation_keeps (.object _) conversation
          split
          · next err patched hpatch =>
            rw [hpatch] at hid hproject hcompany hseq
            refine Changes.converse ?_ (by constructor <;> rfl)
            rw [hstored]
            exact ⟨hid, hseq, fun old h => by cases h; exact ⟨hproject, hcompany⟩⟩
          · next _ patched hpatch =>
            rw [hpatch] at hid hproject hcompany hseq
            refine .trans (Changes.converse ?_ (by constructor <;> rfl)) (mark_dirty_inner_changes _ _ _ _ _ _
              _ (Or.inr ⟨_, _, AList.lookup_insert _, rfl, rfl⟩))
            rw [hstored]
            exact ⟨hid, hseq, fun old h => by cases h; exact ⟨hproject, hcompany⟩⟩
  · exact .refl

theorem reconcile_channel_runtime_status_core (ctx' : Ctx) (inner : StoreInner) (channel_id : String)
    (connected : Bool) :
    SameCore inner (reconcile_channel_runtime_status ctx' inner channel_id connected) := by
  unfold reconcile_channel_runtime_status
  repeat' split
  all_goals exact ⟨rfl, rfl, rfl, rfl, rfl, rfl⟩

/-- How a dispatch ends that came to the channel's session, or did not: without
a result, with a failure, or with the provider's id after a successful call. -/
inductive DispatchEnd (ctx : Ctx) (message_id : String) (answers : DispatchAnswers) (inner : StoreInner)
    (dispatched : Dispatched) : Prop
  | unanswered (hsend : dispatched.send = none) (hinner : dispatched.inner = inner)
  | failed (error_message : Option String)
      (hsend : dispatched.send = none ∨ ∀ wa, answers.send ≠ .sent wa)
      (hinner : dispatched.inner =
        (update_outbound_after_dispatch ctx inner message_id none "failed" error_message).2)
  | sent (wa_message_id : String) (hanswer : answers.send = .sent wa_message_id)
      (hsend : dispatched.send.isSome)
      (hinner : dispatched.inner = (update_outbound_after_dispatch ctx inner message_id
        (some wa_message_id) "sent_to_whatsapp" none).2)

theorem store_send_result_end (ctx' : Ctx) (inner : StoreInner) (message_id channel_id : String)
    (send : ProviderSend) (answers : DispatchAnswers) :
    ∃ inner', SameCore inner inner' ∧ DispatchEnd ctx' message_id answers inner'
      (store_send_result ctx' inner message_id channel_id send answers.send) := by
  cases hanswer : answers.send with
  | sent wa_message_id =>
    exact ⟨inner, ⟨rfl, rfl, rfl, rfl, rfl, rfl⟩, .sent wa_message_id hanswer rfl rfl⟩
  | refused error =>
    refine ⟨if str.contains error "is not connected" then
      mark_channel_disconnected ctx' inner channel_id else inner, ?_, .failed (some error) (Or.inr ?_) rfl⟩
    · split <;> exact ⟨rfl, rfl, rfl, rfl, rfl, rfl⟩
    · intro wa
      rw [hanswer]
      exact SendAnswer.noConfusion
  | timed_out =>
    refine ⟨inner, ⟨rfl, rfl, rfl, rfl, rfl, rfl⟩, .failed _ (Or.inr ?_) rfl⟩
    intro wa
    rw [hanswer]
    exact SendAnswer.noConfusion

theorem outbound_send_end {ctx' : Ctx} {inner : StoreInner} {message : Message} {channel_id : String}
    {request_text : Option String} {bytes : Except String (List UInt8)} {dispatched : Dispatched}
    (answers : DispatchAnswers)
    (h : outbound_send ctx' inner message channel_id request_text bytes = .inl dispatched) :
    DispatchEnd ctx' message.id answers inner dispatched := by
  unfold outbound_send at h
  dsimp only at h
  repeat' split at h
  all_goals cases h
  · exact .failed _ (Or.inl rfl) rfl
  · exact .failed _ (Or.inl rfl) rfl
  · exact .unanswered rfl rfl

theorem dispatch_prepared_message_end (ctx' : Ctx) (inner : StoreInner) (outcome : SendMessageOutcome)
    (request_text : Option String) (answers : DispatchAnswers) :
    ∃ inner', SameCore inner inner' ∧ DispatchEnd ctx' outcome.message.id answers inner'
      (dispatch_prepared_message ctx' inner outcome request_text answers) := by
  unfold dispatch_prepared_message
  split
  · exact ⟨inner, ⟨rfl, rfl, rfl, rfl, rfl, rfl⟩, .unanswered rfl rfl⟩
  · dsimp only
    have hreconciled := reconcile_channel_runtime_status_core ctx' inner
      (dispatch_channel inner outcome.message) answers.reconciled
    split
    · exact ⟨_, hreconciled, .failed _ (Or.inl rfl) rfl⟩
    · split
      · exact ⟨mark_channel_disconnected ctx' _ (dispatch_channel inner outcome.message), ⟨
          hreconciled.conversations, hreconciled.messages_by_conversation, hreconciled.messages_by_id,
          hreconciled.dirty, hreconciled.dirty_leases, hreconciled.consumer_state⟩,
          .failed _ (Or.inl rfl) rfl⟩
      · split
        · next dispatched hsend => exact ⟨_, hreconciled, outbound_send_end answers hsend⟩
        · obtain ⟨inner', hcore, hend⟩ := store_send_result_end ctx'
            (reconcile_channel_runtime_status ctx' inner (dispatch_channel inner outcome.message)
              answers.reconciled) outcome.message.id (dispatch_channel inner outcome.message) _ answers
          exact ⟨inner', hreconciled.trans hcore, hend⟩

/-- A delivery of a send request is answered without a dispatch, or dispatches
the message it names. -/
theorem process_outbound_send_request_cases (ctx' : Ctx) (inner : StoreInner) (event : CommonEvent)
    (answers : DispatchAnswers) :
    ((process_outbound_send_request ctx' inner event answers).send = none ∧
      (process_outbound_send_request ctx' inner event answers).inner = inner) ∨
    ∃ message_id message, outbound_message_id event = some message_id ∧
      inner.messages_by_id.lookup message_id = some message ∧
      message.project_id = event.project_id ∧ message.company_id = event.company_id ∧
      ¬ (message.status = "sent_to_whatsapp" ∨ message.status = "failed") ∧
      process_outbound_send_request ctx' inner event answers =
        dispatch_prepared_message ctx' inner { message, should_dispatch := true }
          (((event.payload.get "text").bind Value.as_str).or message.text) answers := by
  unfold process_outbound_send_request
  cases hid : outbound_message_id event with
  | none => exact Or.inl ⟨rfl, rfl⟩
  | some message_id =>
    dsimp only
    cases hmessage : message_for_company inner event.project_id event.company_id message_id with
    | error err => exact Or.inl ⟨rfl, rfl⟩
    | ok message =>
      dsimp only
      split
      · exact Or.inl ⟨rfl, rfl⟩
      · next hstatus =>
        obtain ⟨hlookup, hproject, hcompany⟩ := message_for_company_ok hmessage
        exact Or.inr ⟨message_id, message, rfl, hlookup, hproject, hcompany, hstatus, rfl⟩

theorem process_outbound_send_request_changes (ctx' : Ctx) (event : CommonEvent)
    (answers : DispatchAnswers) (hkeyed : inner.messages_by_id.Keyed Message.id)
    (hgives : ∀ id wa, outbound_message_id event = some id → answers.send = .sent wa →
      (process_outbound_send_request ctx' inner event answers).send.isSome → effects.gives id wa) :
    Changes ctx effects inner (process_outbound_send_request ctx' inner event answers).inner := by
  rcases process_outbound_send_request_cases ctx' inner event answers with
    ⟨-, hinner⟩ | ⟨message_id, message, hid, hlookup, -, -, -, heq⟩
  · rw [hinner]
  · rw [heq] at hgives ⊢
    have hmessage : message.id = message_id := hkeyed message_id message hlookup
    obtain ⟨inner', hcore, hend⟩ := dispatch_prepared_message_end ctx' inner
      { message, should_dispatch := true } (((event.payload.get "text").bind Value.as_str).or message.text)
      answers
    refine Changes.after_aside hcore ?_
    cases hend with
    | unanswered hsend hinner => rw [hinner]
    | failed error hsend hinner =>
      rw [hinner]
      exact update_outbound_after_dispatch_changes _ _ _ _ _ (fun wa h => by cases h)
    | sent wa hanswer hsend hinner =>
      rw [hinner]
      refine update_outbound_after_dispatch_changes _ _ _ _ _ ?_
      intro wa' hwa
      cases hwa
      exact hgives _ _ (hid.trans (congrArg some hmessage.symm)) hanswer hsend

section Transcription

variable {message_id : String} {message : Message}

theorem set_transcript_lifecycle_changes (hmessage : inner.messages_by_id.lookup message_id = some message)
    (ctx' : Ctx) (media : MediaObject) (lifecycle : TranscriptLifecycle) (text : Option String) :
    Changes ctx effects inner (set_transcript_lifecycle ctx' inner message media lifecycle text).2 := by
  unfold set_transcript_lifecycle
  dsimp only
  split
  · exact Changes.after_aside (by constructor <;> rfl) (mark_dirty_inner_changes _ _ _ _ _ _ _
      (Or.inl ⟨message_id, message, hmessage, rfl, rfl⟩))
  · exact Changes.aside (by constructor <;> rfl)

theorem set_completed_groq_transcript_changes
    (hmessage : inner.messages_by_id.lookup message_id = some message) (ctx' : Ctx) (media : MediaObject)
    (result : GroqTranscription) :
    Changes ctx effects inner (set_completed_groq_transcript ctx' inner message media result).2 := by
  unfold set_completed_groq_transcript
  dsimp only
  exact Changes.after_aside (by constructor <;> rfl) (mark_dirty_inner_changes _ _ _ _ _ _ _
    (Or.inl ⟨message_id, message, hmessage, rfl, rfl⟩))

theorem set_transcript_lifecycle_messages_by_id (ctx : Ctx) (inner : StoreInner) (message : Message)
    (media : MediaObject) (lifecycle : TranscriptLifecycle) (text : Option String) :
    (set_transcript_lifecycle ctx inner message media lifecycle text).2.messages_by_id =
      inner.messages_by_id := by
  unfold set_transcript_lifecycle
  dsimp only
  split <;> rfl

theorem transcribe_changes (hmessage : inner.messages_by_id.lookup message_id = some message)
    (self : AppState) (ctx' : Ctx) (media_id : String) (media : MediaObject)
    (answers : TranscriptionAnswers) :
    Changes ctx effects inner (transcribe self ctx' inner message media_id media answers).2 := by
  unfold transcribe
  split
  · exact set_transcript_lifecycle_changes hmessage ..
  · split
    · exact set_transcript_lifecycle_changes hmessage ..
    · refine .trans (set_transcript_lifecycle_changes hmessage ctx' media .Processing none) ?_
      have hstill : (set_transcript_lifecycle ctx' inner message media .Processing
          none).2.messages_by_id.lookup message_id = some message := by
        rw [set_transcript_lifecycle_messages_by_id]
        exact hmessage
      dsimp only
      repeat' split
      all_goals first
        | exact set_transcript_lifecycle_changes hstill ..
        | exact set_completed_groq_transcript_changes hstill ..

end Transcription

theorem process_transcription_request_changes (self : AppState) (ctx' : Ctx) (event : CommonEvent)
    (answers : TranscriptionAnswers) :
    Changes ctx effects inner (process_transcription_request self ctx' inner event answers).2 := by
  unfold process_transcription_request
  split
  · exact .refl
  · split
    · exact .refl
    · next message hfound =>
      have hmessage := (message_for_company_ok hfound).1
      repeat' split
      all_goals first
        | exact .refl
        | exact transcribe_changes hmessage ..

theorem publish_media_stored_core (ctx' : Ctx) (inner : StoreInner) (input : InboundMediaRecordInput)
    (message : Message) (media : MediaObject) :
    SameCore inner (publish_media_stored ctx' inner input message media) := by
  unfold publish_media_stored
  split <;> exact ⟨rfl, rfl, rfl, rfl, rfl, rfl⟩

theorem request_inbound_transcript_core (ctx' : Ctx) (inner : StoreInner)
    (input : InboundMediaRecordInput) (message : Message) (media : MediaObject) :
    SameCore inner (request_inbound_transcript ctx' inner input message media) := by
  unfold request_inbound_transcript
  split <;> exact ⟨rfl, rfl, rfl, rfl, rfl, rfl⟩

theorem record_inbound_media_object_changes (self : AppState) (ctx' : Ctx)
    (input : InboundMediaRecordInput) :
    Changes ctx effects inner (record_inbound_media_object self ctx' inner input).2 := by
  unfold record_inbound_media_object
  dsimp only
  refine Changes.then_aside (Changes.then_aside (Changes.after_aside ?_
    (attach_media_to_message_inner_changes ..)) (publish_media_stored_core ..))
    (request_inbound_transcript_core ..)
  constructor <;> rfl

theorem store_downloaded_inbound_media_changes (self : AppState) (runtime : ChannelRuntime)
    (message : Message) (conversation_id : String) (descriptor : InboundMediaDescriptor)
    (bytes : List UInt8) (answers : InboundMediaAnswers) :
    Changes ctx effects inner (store_downloaded_inbound_media self inner runtime message conversation_id
      descriptor bytes answers).2 := by
  unfold store_downloaded_inbound_media
  split
  · exact .refl
  · dsimp only
    split
    · dsimp only
      exact record_inbound_media_object_changes ..
    · split
      · exact .refl
      · split
        · exact .refl
        · split
          · exact push_event_inner_changes _
          · dsimp only
            exact record_inbound_media_object_changes ..

theorem download_and_store_inbound_media_changes (self : AppState) (runtime : ChannelRuntime)
    (message : Message) (conversation_id : String) (descriptor : InboundMediaDescriptor)
    (answers : InboundMediaAnswers) :
    Changes ctx effects inner (download_and_store_inbound_media self inner runtime message conversation_id
      descriptor answers).2 := by
  unfold download_and_store_inbound_media
  split
  · dsimp only
    exact record_inbound_media_object_changes ..
  · split
    · exact .refl
    · exact store_downloaded_inbound_media_changes ..

theorem process_message_media_changes (self : AppState) (ctx' : Ctx) (runtime : ChannelRuntime)
    (event : MessageEvent) (message : Message) (descriptor : InboundMediaDescriptor)
    (answers : InboundMediaAnswers) :
    Changes ctx effects inner
      (process_message_media self ctx' inner runtime event message descriptor answers) := by
  unfold process_message_media
  dsimp only
  split
  · exact .trans (push_event_inner_changes _) (download_and_store_inbound_media_changes ..)
  · exact .trans (.trans (push_event_inner_changes _) (download_and_store_inbound_media_changes ..))
      (push_event_inner_changes _)

theorem spawn_enrichment_changes (ctx' : Ctx) (runtime : ChannelRuntime) (event : MessageEvent) :
    Changes ctx effects inner (spawn_enrichment ctx' inner runtime event).2 := by
  obtain ⟨contacts, refreshes, heq⟩ := spawn_enrichment_frame ctx' inner runtime event
  rw [heq]
  exact Changes.aside ⟨rfl, rfl, rfl, rfl, rfl, rfl⟩

theorem spawn_group_enrichment_changes (ctx' : Ctx) (runtime : ChannelRuntime) (group_id : String)
    (force : Bool) :
    Changes ctx effects inner (spawn_group_enrichment ctx' inner runtime group_id force).2 := by
  obtain ⟨refreshes, heq⟩ := spawn_group_enrichment_frame ctx' inner runtime group_id force
  rw [heq]
  exact Changes.aside ⟨rfl, rfl, rfl, rfl, rfl, rfl⟩

/-- What an event does after its message has been recorded. -/
theorem heeded_message_event_changes (self : AppState) (runtime : ChannelRuntime) (event : MessageEvent)
    (answers : InboundMediaAnswers) (hheeded : ignored_message_event self ctx inner runtime event = none) :
    Changes ctx effects (record_whatsapp_message ctx inner (whatsapp_message_input runtime event)).2
      (process_message_event self ctx inner runtime event answers).2 := by
  unfold process_message_event
  rw [hheeded]
  refine .trans ?_ (spawn_enrichment_changes ..)
  split
  · exact process_message_media_changes ..
  · exact .refl

theorem process_message_event_changes (hquiet : ∀ id wa, ¬ effects.gives id wa) (self : AppState)
    (runtime : ChannelRuntime) (event : MessageEvent) (answers : InboundMediaAnswers) :
    Changes ctx effects inner (process_message_event self ctx inner runtime event answers).2 := by
  cases hignored : ignored_message_event self ctx inner runtime event with
  | some ignored =>
    unfold process_message_event
    rw [hignored]
    exact push_event_inner_changes _
  | none =>
    exact (record_whatsapp_message_changes hquiet _).trans
      (heeded_message_event_changes self runtime event answers hignored)

/-- The message of an event that is not ignored is in the store when the event has
been handled. -/
theorem process_message_event_stored (self : AppState) (runtime : ChannelRuntime) (event : MessageEvent)
    (answers : InboundMediaAnswers) (hkeyed : inner.messages_by_id.Keyed Message.id)
    (hkept : ignored_message_event self ctx inner runtime event = none) :
    ∃ stored, (process_message_event self ctx inner runtime event answers).2.messages_by_id.lookup
        (record_whatsapp_message ctx inner (whatsapp_message_input runtime event)).1.id = some stored ∧
      SameMessage (record_whatsapp_message ctx inner (whatsapp_message_input runtime event)).1 stored := by
  have hrecorded := record_whatsapp_message_stored ctx hkeyed (whatsapp_message_input runtime event)
  -- nothing after the recording records a message
  have hlater : Changes ctx { gives := fun _ _ => True, acks := False, polls := False }
      (record_whatsapp_message ctx inner (whatsapp_message_input runtime event)).2
      (process_message_event self ctx inner runtime event answers).2 :=
    heeded_message_event_changes self runtime event answers hkept
  exact hlater.message_kept (fun hquiet => absurd trivial (hquiet "" "")) hrecorded

theorem apply_receipts_changes (self : AppState) (receipt_type : String) (created_at_wa : OffsetDateTime)
    (wa_message_ids : List String) :
    ∀ (ctx' : Ctx) (inner : StoreInner), Changes ctx effects inner
      (apply_receipts self receipt_type created_at_wa ctx' inner wa_message_ids) := by
  induction wa_message_ids with
  | nil => intro ctx' inner; exact .refl
  | cons wa_message_id rest ih =>
    intro ctx' inner
    exact .trans (update_receipt_by_wa_id_with_context_changes ..) (ih _ _)

theorem process_receipt_event_changes (self : AppState) (ctx' : Ctx) (runtime : ChannelRuntime)
    (event : ReceiptEvent) :
    Changes ctx effects inner (process_receipt_event self ctx' inner runtime event) := by
  unfold process_receipt_event
  split
  · exact push_event_inner_changes _
  · exact apply_receipts_changes ..

theorem apply_group_record_same (key : String) (stored : Option Conversation) (now : OffsetDateTime)
    (project_id company_id channel_id : String) (record : GroupRecord) :
    SameConversation key stored
      { apply_group_record_to_conversation
          (stored.getD (group_conversation now project_id company_id channel_id key)) key (some record) with
        updated_at := now } := by
  cases stored with
  | none => exact ⟨rfl, rfl, fun old h => by cases h⟩
  | some old => exact ⟨rfl, rfl, fun _ h => by cases h; exact ⟨rfl, rfl⟩⟩

theorem store_group_record_changes (now : OffsetDateTime)
    (project_id company_id channel_id group_id : String) (record : GroupRecord) :
    Changes ctx effects inner
      (store_group_record now inner project_id company_id channel_id group_id record) :=
  Changes.converse (apply_group_record_same ..) (by constructor <;> rfl)

theorem apply_group_subject_changes (self : AppState) (ctx' : Ctx)
    (project_id company_id channel_id group_id subject : String) (created_at_wa : OffsetDateTime) :
    Changes ctx effects inner (apply_group_subject self ctx' inner project_id company_id channel_id
      group_id subject created_at_wa) := by
  unfold apply_group_subject
  split
  · exact .refl
  · exact .trans (store_group_record_changes ..) (push_event_inner_changes _)

theorem apply_group_participant_core (ctx' : Ctx) (project_id company_id channel_id group_id : String)
    (owner_jid : Option String) (inner : StoreInner) (participant : GroupParticipantProfile) :
    SameCore inner (apply_group_participant ctx' project_id company_id channel_id group_id owner_jid inner
      participant) := by
  unfold apply_group_participant upsert_group_member_metadata_inner
  cases participant.phone_jid with
  | none => exact ⟨rfl, rfl, rfl, rfl, rfl, rfl⟩
  | some phone_jid =>
    obtain ⟨contacts, hcontacts⟩ := upsert_contact_with_alt_inner_frame inner
      { contact :=
          { project_id, company_id, channel_id := some channel_id,
            contact_id := participant.contact_id, push_name := none, profile_picture_url := none,
            now := ctx'.now }
        alt_jid := some phone_jid }
    dsimp only
    rw [hcontacts]
    exact ⟨rfl, rfl, rfl, rfl, rfl, rfl⟩

theorem apply_group_participants_changes (ctx' : Ctx) (project_id company_id channel_id group_id : String)
    (owner_jid : Option String) (participants : List GroupParticipantProfile) :
    ∀ inner, Changes ctx effects inner (participants.foldl
      (apply_group_participant ctx' project_id company_id channel_id group_id owner_jid) inner) := by
  induction participants with
  | nil => intro inner; exact .refl
  | cons participant rest ih =>
    intro inner
    exact Changes.after_aside (apply_group_participant_core ..) (ih _)

theorem apply_group_profile_changes (self : AppState) (ctx' : Ctx)
    (project_id company_id channel_id group_id : String) (profile : GroupProfile) :
    Changes ctx effects inner
      (apply_group_profile self ctx' inner project_id company_id channel_id group_id profile) := by
  unfold apply_group_profile
  dsimp only
  refine .trans (.trans (.trans (Changes.aside ?_) (apply_group_participants_changes ..))
    (store_group_record_changes ..)) (push_event_inner_changes _)
  constructor <;> rfl

theorem process_group_update_changes (self : AppState) (ctx' : Ctx) (runtime : ChannelRuntime)
    (group_jid : String) (subject : Option String) (created_at_wa : OffsetDateTime) :
    Changes ctx effects inner
      (process_group_update self ctx' inner runtime group_jid subject created_at_wa).2 := by
  unfold process_group_update
  split
  · exact push_event_inner_changes _
  · refine .trans ?_ (spawn_group_enrichment_changes ..)
    split
    · exact apply_group_subject_changes ..
    · exact .refl

theorem process_diagnostic_core (ctx' : Ctx) (inner : StoreInner) (runtime : ChannelRuntime)
    (event_type : String) (payload : Value) (answers : EventAnswers) :
    SameCore inner (process_diagnostic ctx' inner runtime event_type payload answers) := by
  unfold process_diagnostic
  dsimp only
  split <;> split <;> exact ⟨rfl, rfl, rfl, rfl, rfl, rfl⟩

/-- An event that is not a message records none. -/
theorem process_other_event_changes (self : AppState) (runtime : ChannelRuntime) (answers : EventAnswers)
    {event : WhatsappEvent} (hevent : ∀ message, event ≠ .Message message) :
    Changes ctx effects inner (process_whatsapp_event self ctx inner runtime answers event).2 := by
  unfold process_whatsapp_event
  cases event with
  | Message event => exact absurd rfl (hevent event)
  | Receipt event =>
    dsimp only
    exact process_receipt_event_changes ..
  | GroupUpdate group_jid subject created_at_wa => exact process_group_update_changes ..
  | Diagnostic event_type payload =>
    dsimp only
    exact Changes.aside (process_diagnostic_core ..)
  | Disconnected =>
    dsimp only
    split <;> exact Changes.aside (by constructor <;> rfl)
  | Connected => exact Changes.aside (by constructor <;> rfl)
  | LoggedOut reason => exact Changes.aside (by constructor <;> rfl)
  | PairingQrCode code timeout_secs => exact Changes.aside (by constructor <;> rfl)
  | HistorySyncIgnored => exact Changes.aside (by constructor <;> rfl)

theorem process_whatsapp_event_changes (hquiet : ∀ id wa, ¬ effects.gives id wa) (self : AppState)
    (runtime : ChannelRuntime) (answers : EventAnswers) (event : WhatsappEvent) :
    Changes ctx effects inner (process_whatsapp_event self ctx inner runtime answers event).2 := by
  by_cases hevent : ∃ message, event = .Message message
  · obtain ⟨message, rfl⟩ := hevent
    dsimp only [process_whatsapp_event]
    exact process_message_event_changes hquiet ..
  · exact process_other_event_changes _ _ _ fun message heq => hevent ⟨message, heq⟩

theorem rename_sender_same (aliases : List String) (contact : ContactRecord) (now : OffsetDateTime)
    (message : Message) : SameMessage message (rename_sender aliases contact now message) := by
  unfold rename_sender
  split <;> exact ⟨rfl, rfl, rfl, rfl, rfl, rfl, rfl, rfl⟩

theorem rename_sender_wa_message_id (aliases : List String) (contact : ContactRecord)
    (now : OffsetDateTime) (message : Message) :
    (rename_sender aliases contact now message).wa_message_id = message.wa_message_id := by
  unfold rename_sender
  split <;> rfl

theorem apply_contact_profile_changes (ctx' : Ctx) (input : ContactProfileApplyInput) :
    Changes ctx effects inner (apply_contact_profile ctx' inner input) := by
  unfold apply_contact_profile
  extract_lets enriched contact inner₁ aliases conversations inner₂
  have hconversations : Changes ctx effects inner { inner with conversations } := by
    simp only [conversations]
    split
    · next conversation hstored =>
      have hstored : inner.conversations.lookup input.conversation_id = some conversation := hstored
      split
      · refine Changes.converse ?_ (by constructor <;> rfl)
        rw [hstored]
        exact ⟨rfl, rfl, fun old h => by cases h; exact ⟨rfl, rfl⟩⟩
      · exact .refl
    · exact .refl
  refine Changes.then_aside ((hconversations.tail (.converse_all (fun conversation =>
    if conversation.company_id = input.company_id && conversation.project_id = input.project_id &&
        conversation.conversation_type = "direct" &&
        aliases.any fun jid => conversation.id = jid || conversation.contact_id = some jid then
      apply_contact_to_conversation conversation contact ctx'.now
    else conversation) ?_)).tail (.rewrite_all (rename_sender aliases contact ctx'.now)
      (rename_sender_same _ _ _) (rename_sender_wa_message_id _ _ _))) (by constructor <;> rfl)
  intro conversation
  split <;> exact ⟨rfl, rfl, fun old h => by cases h; exact ⟨rfl, rfl⟩⟩

theorem record_contact_profile_lookup_failure_core (ctx' : Ctx) (inner : StoreInner)
    (project_id company_id contact_id : String) :
    SameCore inner (record_contact_profile_lookup_failure ctx' inner project_id company_id contact_id) := by
  unfold record_contact_profile_lookup_failure
  dsimp only
  split <;> exact ⟨rfl, rfl, rfl, rfl, rfl, rfl⟩

theorem ack_dirty_changes (hacks : effects.acks) (ctx' : Ctx) (project_id company_id conversation_id : String)
    (request : DirtyAckRequest) :
    Changes ctx effects inner (ack_dirty ctx' inner project_id company_id conversation_id request).2 := by
  rcases ack_dirty_cases ctx' inner project_id company_id conversation_id request with
    heq | ⟨dirty, hdirty, -, heq⟩
  · rw [heq]
  · rw [heq]
    exact .single (.ack request hdirty hacks)

end Decompose

end rustzap.state
