import RustZap.State.Changes
import RustZap.Lib.Runs

open collections serde_json runs
open rustzap.error rustzap.models rustzap.whatsapp

namespace rustzap.state

/-- An operation of the service on its store, with the readings it takes from
outside. The last three are the ends of the enrichment tasks that events spawn. -/
inductive StoreOp where
  | create_channel (project_id company_id : String) (id label phone_e164 : Option String)
  | receive_inbound_text (project_id company_id : String) (request : SimulateInboundTextRequest)
  | prepare_send_message_with_actor
      (project_id company_id conversation_id idempotency_key : String) (request : SendMessageRequest)
      (sent_by_external_user_id : Option String)
  | upload_outbound_media (project_id company_id : String) (upload : OutboundMediaUpload)
      (answers : UploadAnswers)
  | mark_read (project_id company_id conversation_id : String)
  | patch_conversation_metadata (project_id company_id conversation_id : String) (body : Value)
  | update_receipt (message_id receipt_type : String)
  | update_outbound_after_dispatch (message_id : String) (wa_message_id : Option String)
      (status : String) (error_message : Option String)
  | process_outbound_send_request (event : CommonEvent) (answers : DispatchAnswers)
  | process_transcription_request (event : CommonEvent) (answers : TranscriptionAnswers)
  | process_whatsapp_event (runtime : ChannelRuntime) (answers : EventAnswers) (event : WhatsappEvent)
  | list_dirty (project_id company_id consumer_id : String) (limit : Nat)
  | ack_dirty (project_id company_id conversation_id : String) (request : DirtyAckRequest)
  | apply_contact_profile (input : ContactProfileApplyInput)
  | record_contact_profile_lookup_failure (project_id company_id contact_id : String)
  | apply_group_profile (project_id company_id channel_id group_id : String) (profile : GroupProfile)

/-- The store after an operation. -/
def StoreOp.apply (self : AppState) (ctx : Ctx) (inner : StoreInner) : StoreOp → StoreInner
  | .create_channel project company id label phone =>
    (state.create_channel ctx inner project company id label phone).2
  | .receive_inbound_text project company request =>
    (state.receive_inbound_text ctx inner project company request).2
  | .prepare_send_message_with_actor project company conversation key request actor =>
    (state.prepare_send_message_with_actor self ctx inner project company conversation key request
      actor).2
  | .upload_outbound_media project company upload answers =>
    (state.upload_outbound_media self ctx inner project company upload answers).2
  | .mark_read project company conversation =>
    (state.mark_read ctx inner project company conversation).2
  | .patch_conversation_metadata project company conversation body =>
    (state.patch_conversation_metadata ctx inner project company conversation body).2
  | .update_receipt message receipt_type =>
    (update_receipt_with_context self ctx inner message receipt_type none).2
  | .update_outbound_after_dispatch message wa_message_id status error_message =>
    (state.update_outbound_after_dispatch ctx inner message wa_message_id status error_message).2
  | .process_outbound_send_request event answers =>
    (state.process_outbound_send_request ctx inner event answers).inner
  | .process_transcription_request event answers =>
    (state.process_transcription_request self ctx inner event answers).2
  | .process_whatsapp_event runtime answers event =>
    (state.process_whatsapp_event self ctx inner runtime answers event).2
  | .list_dirty project company consumer limit =>
    (state.list_dirty ctx inner project company consumer limit).2
  | .ack_dirty project company conversation request =>
    (state.ack_dirty ctx inner project company conversation request).2
  | .apply_contact_profile input => state.apply_contact_profile ctx inner input
  | .record_contact_profile_lookup_failure project company contact =>
    state.record_contact_profile_lookup_failure ctx inner project company contact
  | .apply_group_profile project company channel group profile =>
    state.apply_group_profile self ctx inner project company channel group profile

/-- Whether an operation gives the WhatsApp id `wa` to the message `id`: a
dispatch result with it is stored, or a dispatch calls the provider, which
answers with it. -/
def StoreOp.gives (ctx : Ctx) (inner : StoreInner) : StoreOp → String → String → Prop
  | .update_outbound_after_dispatch message (some wa_message_id) _ _, id, wa =>
    message = id ∧ wa_message_id = wa
  | .process_outbound_send_request event answers, id, wa =>
    outbound_message_id event = some id ∧ answers.send = .sent wa ∧
      (state.process_outbound_send_request ctx inner event answers).send.isSome
  | _, _, _ => False

def StoreOp.IsAck : StoreOp → Prop
  | .ack_dirty _ _ _ _ => True
  | _ => False

def StoreOp.IsPoll : StoreOp → Prop
  | .list_dirty _ _ _ _ => True
  | _ => False

def StoreOp.effects (ctx : Ctx) (inner : StoreInner) (op : StoreOp) : Effects where
  gives := op.gives ctx inner
  acks := op.IsAck
  polls := op.IsPoll

/-- Every operation is a sequence of elementary changes. -/
theorem StoreOp.apply_changes (self : AppState) (ctx : Ctx) {inner : StoreInner}
    (hkeyed : inner.messages_by_id.Keyed Message.id) (op : StoreOp) :
    Changes ctx (op.effects ctx inner) inner (op.apply self ctx inner) := by
  have hquiet : ∀ id wa : String, ¬ False := fun _ _ h => h
  cases op with
  | create_channel project company id label phone =>
    unfold StoreOp.apply state.create_channel
    dsimp only
    repeat' split
    all_goals exact Changes.aside ⟨rfl, rfl, rfl, rfl, rfl, rfl⟩
  | receive_inbound_text project company request => exact receive_inbound_text_changes hquiet ..
  | prepare_send_message_with_actor project company conversation key request actor =>
    exact prepare_send_message_with_actor_changes hquiet ..
  | upload_outbound_media project company upload answers => exact upload_outbound_media_changes ..
  | mark_read project company conversation => exact mark_read_changes ..
  | patch_conversation_metadata project company conversation body =>
    exact patch_conversation_metadata_changes ..
  | update_receipt message receipt_type => exact update_receipt_with_context_changes ..
  | update_outbound_after_dispatch message wa_message_id status error_message =>
    refine update_outbound_after_dispatch_changes _ _ _ _ _ ?_
    rintro wa rfl
    exact ⟨rfl, rfl⟩
  | process_outbound_send_request event answers =>
    exact process_outbound_send_request_changes _ _ _ hkeyed
      (fun _ _ hid hanswer hsend => ⟨hid, hanswer, hsend⟩)
  | process_transcription_request event answers => exact process_transcription_request_changes ..
  | process_whatsapp_event runtime answers event => exact process_whatsapp_event_changes hquiet ..
  | list_dirty project company consumer limit => exact .single (.poll _ _ _ _ _ trivial)
  | ack_dirty project company conversation request => exact ack_dirty_changes trivial ..
  | apply_contact_profile input => exact apply_contact_profile_changes ..
  | record_contact_profile_lookup_failure project company contact =>
    exact Changes.aside (record_contact_profile_lookup_failure_core ..)
  | apply_group_profile project company channel group profile => exact apply_group_profile_changes ..

/-- A dirty entry names the conversation that it is stored under. -/
def DirtyKeyed (dirty : HashMap (String × String × String) DirtyRecord) : Prop :=
  ∀ key record, dirty.lookup key = some record → record.conversation_id = key.2.2

/-- Conversations and messages are stored under their own ids, dirty entries
under the id of their conversation. -/
structure StoreInner.WellKeyed (inner : StoreInner) : Prop where
  conversations : inner.conversations.Keyed Conversation.id
  messages : inner.messages_by_id.Keyed Message.id
  dirty : DirtyKeyed inner.dirty

theorem DirtyKeyed.mark {dirty : HashMap (String × String × String) DirtyRecord} (h : DirtyKeyed dirty)
    (now : OffsetDateTime) (project_id company_id conversation_id : String) (seq : Int) :
    DirtyKeyed (dirty.insert (project_id, company_id, conversation_id)
      (marked_dirty now conversation_id seq (dirty.lookup (project_id, company_id, conversation_id)))) := by
  intro key record hrecord
  rw [HashMap.lookup_insert_ite] at hrecord
  split at hrecord
  · next heq =>
    subst heq
    cases hrecord
    rw [marked_dirty_conversation_id]
    cases hstored : dirty.lookup (project_id, company_id, conversation_id) with
    | none => rfl
    | some stored => exact h _ stored hstored
  · exact h key record hrecord

theorem acked_dirty_lookup {inner : StoreInner} {project_id company_id conversation_id : String}
    {request : DirtyAckRequest} {dirty dirty' : DirtyRecord} {key : String × String × String}
    (h : (acked inner project_id company_id conversation_id request dirty).dirty.lookup key =
      some dirty') : inner.dirty.lookup key = some dirty' := by
  unfold acked at h
  dsimp only at h
  split at h
  · rw [HashMap.lookup_erase_ite] at h
    split at h
    · cases h
    · exact h
  · exact h

/-- What is stored under its own id stays so under every elementary change. -/
theorem StoreInner.WellKeyed.change {ctx : Ctx} {effects : Effects}
    {inner inner' : StoreInner} (h : inner.WellKeyed) (hchange : Change ctx effects inner inner') :
    inner'.WellKeyed := by
  have hmessages := hchange.messages_keyed h.messages
  cases hchange with
  | aside hsame =>
    refine ⟨?_, hmessages, ?_⟩
    · rw [hsame.conversations]
      exact h.conversations
    · rw [hsame.dirty]
      exact h.dirty
  | record hrecorded hnew hquiet =>
    obtain ⟨conversation, contacts, group_members, events, hcounted, rfl⟩ := hrecorded
    refine ⟨h.conversations.insert ?_, hmessages, h.dirty.mark _ _ _ _ _⟩
    rw [hcounted.id]
    cases hstored : inner.conversations.lookup _ with
    | none => rfl
    | some stored => exact h.conversations _ stored hstored
  | rewrite hold hsame hwa => exact ⟨h.conversations, hmessages, h.dirty⟩
  | rewrite_all f hsame hwa => exact ⟨h.conversations, hmessages, h.dirty⟩
  | @converse key conversation hsame =>
    refine ⟨h.conversations.insert ?_, hmessages, h.dirty⟩
    rw [hsame.id]
    cases hstored : inner.conversations.lookup key with
    | none => rfl
    | some stored => exact h.conversations _ stored hstored
  | converse_all f hsame =>
    exact ⟨h.conversations.map_values fun _ conversation => (hsame conversation).id, hmessages, h.dirty⟩
  | mark now project_id company_id conversation_id seq hseq =>
    exact ⟨h.conversations, hmessages, h.dirty.mark _ _ _ _ _⟩
  | poll now project_id company_id consumer_id limit => exact ⟨h.conversations, hmessages, h.dirty⟩
  | ack request hdirty hacks =>
    refine ⟨?_, hmessages, fun key dirty hlookup => h.dirty key dirty (acked_dirty_lookup hlookup)⟩
    unfold acked
    dsimp only
    split <;> exact h.conversations

/-- A store of the running service. That its values are stored under their own
ids is part of it; every operation keeps it so. -/
structure Store where
  inner : StoreInner
  keyed : inner.WellKeyed

/-- The store of a service that has just been set up. -/
def Store.empty : Store where
  inner := {}
  keyed := ⟨HashMap.Keyed.empty, HashMap.Keyed.empty, fun _ _ h => by cases h⟩

def Store.apply (self : AppState) (ctx : Ctx) (store : Store) (op : StoreOp) : Store where
  inner := op.apply self ctx store.inner
  keyed := (op.apply_changes self ctx store.keyed.messages).invariant (fun _ _ h => h.change) store.keyed

/-- One step of the service. The maps may yield their entries in another order
from one operation to the next. -/
def Store.Step (self : AppState) (store : Store) (label : Ctx × StoreOp) (store' : Store) : Prop :=
  (store.apply self label.1 label.2).inner.Reordered store'.inner

namespace sample

/-- A request to send the text "oi". -/
def text_request : SendMessageRequest where
  message_type := "text"
  text := some "oi"
  media_id := none
  caption := none
  filename := none
  quoted_message_id := none
  metadata := none

def hashes : List (List UInt8 × String) :=
  [("channel_a".toUTF8.data.toList,
      "12e564211a9a25ef24eb2c5e91e9acf577c71612ccafb631926f6e3e9b25597d"),
    ("5511988887777@s.whatsapp.net".toUTF8.data.toList,
      "dc607f3e47cd7bb03c12654b6b225adeb1deb59b6f1c024e13c62deb1d44f4a6"),
    (media.ascii "OggS" ++ [0, 2], "5a2dcb25056e4bcec4700acf3af6291e0ee6377ba3f6562a637a50cf6b2eecdb")]

/-- The crates' answers on the inputs that the sample runs use: three digests,
the digest of `text_request`, and instants that are whole seconds of the first
minute of 1970. -/
def host : Host where
  sha256_hex bytes := (hashes.lookup bytes).getD ""
  sha256_json _ := "96dda65349a924fbc79de99af672239ace755799310d3da6666c3a02c5fa047e"
  base64_to_hex _ := none
  format_date _ := "1970-01-01"
  ts t := "1970-01-01T00:00:" ++ toString (t / 10000000000) ++ toString (t / 1000000000 % 10) ++ "Z"

def service : AppState where
  config := config.AppConfig.from_env
  host

/-- The readings of a call made at a full second, with UUIDs named after it. -/
def ctx (second : Nat) (tag : String) : Ctx where
  now := Duration.seconds second
  uuid n := tag ++ toString n

def company_a : ChannelRuntime where
  project_id := "acme"
  company_id := "company_a"
  channel_id := "channel_a"

def company_b : ChannelRuntime where
  project_id := "acme"
  company_id := "company_b"
  channel_id := "channel_b"

/-- A media download that fails, and no session to start again. -/
def answers : EventAnswers where
  media := { ctx := ctx 0 "media_", download := .error "not connected", staged := .ok (), put := .ok () }
  should_reconnect := false
  delay_secs := 0

/-- A text in a chat with one phone number. -/
def text_event (wa_message_id : String) (second : Nat) (is_from_me : Bool) : MessageEvent where
  wa_message_id
  chat_jid := "5511988887777@s.whatsapp.net"
  sender_jid := "5511988887777@s.whatsapp.net"
  sender_alt_jid := none
  recipient_jid := none
  recipient_alt_jid := none
  push_name := none
  text := some "oi"
  message_type := "text"
  media := none
  created_at_wa := Duration.seconds second
  is_from_me

/-- The store after some operations, the maps yielding their entries as they
are stored. -/
def run (store : Store) (labels : List (Ctx × StoreOp)) : Store :=
  labels.foldl (fun store label => store.apply service label.1 label.2) store

theorem steps (labels : List (Ctx × StoreOp)) :
    ∀ store, Run (Store.Step service) store labels (run store labels) := by
  induction labels with
  | nil => exact fun store => .nil store
  | cons label labels ih => exact fun store => .cons (StoreInner.Reordered.refl _) (ih _)

def received : Ctx × StoreOp :=
  (ctx 1 "a", .process_whatsapp_event company_a answers (.Message (text_event "3EB0A0" 1 false)))

def prepared : Ctx × StoreOp :=
  (ctx 2 "b", .prepare_send_message_with_actor "acme" "company_a" "5511988887777@s.whatsapp.net" "key_1"
    text_request none)

/-- A store that has received one text, and in which one message, "msg_b0", waits
to be sent. -/
def queued : Store :=
  run Store.empty [received, prepared]

end sample

end rustzap.state
