import RustZap.State.Operations

open collections
open rustzap.models rustzap.whatsapp

namespace rustzap.state

/-- The message that a receipt for a WhatsApp id finds, and how it leaves the
message map: that message alone is rewritten. -/
theorem update_receipt_by_wa_id_messages (self : AppState) (ctx : Ctx) {inner : StoreInner}
    (hkeyed : inner.messages_by_id.Keyed Message.id) (wa_message_id receipt_type : String)
    (created_at_wa : Option OffsetDateTime) :
    (update_receipt_by_wa_id_with_context self ctx inner wa_message_id receipt_type
        created_at_wa).2.messages_by_id = inner.messages_by_id ∧ find_by_wa_id inner wa_message_id = none ∨
    ∃ message, find_by_wa_id inner wa_message_id = some message.id ∧
      message.wa_message_id = some wa_message_id ∧
      inner.messages_by_id.lookup message.id = some message ∧
      (update_receipt_by_wa_id_with_context self ctx inner wa_message_id receipt_type
        created_at_wa).2.messages_by_id =
        inner.messages_by_id.insert message.id (Message.receipted message ctx.now receipt_type) := by
  unfold update_receipt_by_wa_id_with_context
  cases hfind : find_by_wa_id inner wa_message_id with
  | none => exact Or.inl ⟨rfl, rfl⟩
  | some internal_id =>
    right
    obtain ⟨message, hmessage, rfl⟩ := Option.map_eq_some_iff.mp hfind
    have hwa : message.wa_message_id = some wa_message_id := by
      simpa using List.find?_some hmessage
    obtain ⟨key, hkey⟩ := HashMap.mem_values_iff.mp (List.mem_of_find?_eq_some hmessage)
    have hid : inner.messages_by_id.lookup message.id = some message := by
      rw [hkeyed key message hkey]
      exact hkey
    refine ⟨message, rfl, hwa, hid, ?_⟩
    dsimp only
    rcases update_receipt_with_context_cases self ctx inner message.id receipt_type created_at_wa with
      ⟨hnone, -⟩ | ⟨stored, inner', hstored, hupdated, heq⟩
    · rw [hid] at hnone
      cases hnone
    · rw [hid] at hstored
      cases hstored
      obtain ⟨events, rfl⟩ := hupdated
      rw [heq]
      rfl

/-- The message carries one of the listed WhatsApp ids. -/
def Listed (wa_message_ids : List String) (message : Message) : Prop :=
  ∃ wa_message_id ∈ wa_message_ids, message.wa_message_id = some wa_message_id

/-- What a list of receipts does to a stored message: it is left alone, or it
has the receipt's status and time and is one of the listed ones. -/
theorem apply_receipts_lookup (self : AppState) (receipt_type : String) (created_at_wa : OffsetDateTime)
    (wa_message_ids : List String) :
    ∀ (ctx : Ctx) (inner : StoreInner), inner.messages_by_id.Keyed Message.id →
      ∀ key message, inner.messages_by_id.lookup key = some message →
      ∃ message', (apply_receipts self receipt_type created_at_wa ctx inner
          wa_message_ids).messages_by_id.lookup key = some message' ∧
        (message' = message ∨
          message' = Message.receipted message ctx.now receipt_type ∧ Listed wa_message_ids message) := by
  induction wa_message_ids with
  | nil =>
    intro ctx inner hkeyed key message hmessage
    exact ⟨message, hmessage, Or.inl rfl⟩
  | cons wa_message_id rest ih =>
    intro ctx inner hkeyed key message hmessage
    have hstep := update_receipt_by_wa_id_messages self ctx hkeyed wa_message_id receipt_type
      (some created_at_wa)
    rw [apply_receipts]
    generalize (update_receipt_by_wa_id_with_context self ctx inner wa_message_id receipt_type
      (some created_at_wa)).2 = next at hstep ⊢
    have hlisted : ∀ m : Message, Listed rest m → Listed (wa_message_id :: rest) m :=
      fun m ⟨wa, hwa, hm⟩ => ⟨wa, List.mem_cons_of_mem _ hwa, hm⟩
    rcases hstep with ⟨hsame, -⟩ | ⟨found, -, hfoundwa, hfound, hinsert⟩
    · obtain ⟨message', hlookup, hmessage'⟩ := ih (ctx.skip 6) next (hsame ▸ hkeyed) key message
        (hsame ▸ hmessage)
      exact ⟨message', hlookup, hmessage'.imp_right fun h => ⟨h.1, hlisted _ h.2⟩⟩
    · have hnext : next.messages_by_id.Keyed Message.id := by
        rw [hinsert]
        exact hkeyed.insert rfl
      by_cases hkey : key = found.id
      · -- the message of this key is the one that was found
        have heq : message = found := by
          rw [hkey, hfound] at hmessage
          exact (Option.some.inj hmessage).symm
        subst heq
        obtain ⟨message', hlookup, hmessage'⟩ := ih (ctx.skip 6) next hnext key
          (Message.receipted message ctx.now receipt_type) (by
            rw [hinsert, HashMap.lookup_insert_ite, if_pos hkey])
        refine ⟨message', hlookup, Or.inr ⟨?_, wa_message_id, List.mem_cons_self, hfoundwa⟩⟩
        rcases hmessage' with rfl | ⟨rfl, -⟩
        · rfl
        · rfl
      · obtain ⟨message', hlookup, hmessage'⟩ := ih (ctx.skip 6) next hnext key message (by
          rw [hinsert, HashMap.lookup_insert_ite, if_neg hkey]
          exact hmessage)
        exact ⟨message', hlookup, hmessage'.imp_right fun h => ⟨h.1, hlisted _ h.2⟩⟩

/-- The message that the lookup of a listed WhatsApp id finds in the beginning
has the receipt's status and time in the end: the receipts before it move only
messages of other WhatsApp ids. -/
theorem apply_receipts_found (self : AppState) (receipt_type : String) (created_at_wa : OffsetDateTime)
    {message : Message} {wa_message_id : String} (hwa : message.wa_message_id = some wa_message_id)
    (wa_message_ids : List String) :
    ∀ (ctx : Ctx) (inner : StoreInner), inner.messages_by_id.Keyed Message.id →
      inner.messages_by_id.lookup message.id = some message →
      find_by_wa_id inner wa_message_id = some message.id → wa_message_id ∈ wa_message_ids →
      (apply_receipts self receipt_type created_at_wa ctx inner
        wa_message_ids).messages_by_id.lookup message.id =
        some (Message.receipted message ctx.now receipt_type) := by
  induction wa_message_ids with
  | nil =>
    intro ctx inner _ _ _ hmem
    cases hmem
  | cons first rest ih =>
    intro ctx inner hkeyed hmessage hfind hmem
    have hstep := update_receipt_by_wa_id_messages self ctx hkeyed first receipt_type
      (some created_at_wa)
    rw [apply_receipts]
    generalize (update_receipt_by_wa_id_with_context self ctx inner first receipt_type
      (some created_at_wa)).2 = next at hstep ⊢
    by_cases hfirst : first = wa_message_id
    · subst hfirst
      rcases hstep with ⟨-, hnone⟩ | ⟨found, hfound, -, hlookup, hinsert⟩
      · rw [hfind] at hnone
        cases hnone
      · have hid : found.id = message.id := by
          rw [hfind] at hfound
          exact (Option.some.inj hfound).symm
        rw [hid, hmessage] at hlookup
        cases hlookup
        have hkeyed' : next.messages_by_id.Keyed Message.id := by
          rw [hinsert]
          exact hkeyed.insert rfl
        obtain ⟨message', hlookup', hmessage'⟩ := apply_receipts_lookup self receipt_type created_at_wa
          rest (ctx.skip 6) next hkeyed' message.id (Message.receipted message ctx.now receipt_type) (by
            rw [hinsert, HashMap.lookup_insert_ite, if_pos rfl])
        rw [hlookup']
        rcases hmessage' with rfl | ⟨rfl, -⟩
        · rfl
        · rfl
    · have hrest : wa_message_id ∈ rest := (List.mem_cons.mp hmem).resolve_left (Ne.symm hfirst)
      rcases hstep with ⟨hsame, -⟩ | ⟨found, -, hfoundwa, hlookup, hinsert⟩
      · refine ih (ctx.skip 6) next (hsame ▸ hkeyed) (hsame ▸ hmessage) ?_ hrest
        rw [find_by_wa_id, hsame]
        exact hfind
      · have hother : found.wa_message_id ≠ some wa_message_id := by
          rw [hfoundwa]
          intro h
          exact hfirst (Option.some.inj h)
        have hne : message.id ≠ found.id := by
          intro heq
          rw [heq, hlookup] at hmessage
          cases hmessage
          exact hother hwa
        have hkeyed' : next.messages_by_id.Keyed Message.id := by
          rw [hinsert]
          exact hkeyed.insert rfl
        refine ih (ctx.skip 6) next hkeyed' ?_ ?_ hrest
        · rw [hinsert, HashMap.lookup_insert_ite, if_neg hne]
          exact hmessage
        · rw [find_by_wa_id, hinsert, HashMap.find?_values_insert]
          · exact hfind
          · exact decide_eq_false hother
          · intro old hold
            rw [hlookup] at hold
            cases hold
            exact decide_eq_false hother

/-- A message of the company and the channel that a session serves. -/
def OfChannel (runtime : ChannelRuntime) (message : Message) : Prop :=
  message.project_id = runtime.project_id ∧ message.company_id = runtime.company_id ∧
    message.channel_account_id = runtime.channel_id

/-- Between two stores, status and time have changed for listed messages of the
session's own company and channel only. -/
def ReceiptConfined (runtime : ChannelRuntime) (event : ReceiptEvent) (inner inner' : StoreInner) : Prop :=
  ∀ key message message', inner.messages_by_id.lookup key = some message →
    inner'.messages_by_id.lookup key = some message' →
    message'.status ≠ message.status ∨ message'.updated_at ≠ message.updated_at →
    OfChannel runtime message ∧ Listed event.wa_message_ids message

/-- A store whose message map yields one chosen message first. -/
def StoreInner.moved_first (inner : StoreInner) (key : String) (message : Message) : StoreInner :=
  { inner with messages_by_id := inner.messages_by_id.insert key message }

theorem StoreInner.moved_first_reordered {inner : StoreInner} {key : String} {message : Message}
    (h : inner.messages_by_id.lookup key = some message) :
    inner.Reordered (inner.moved_first key message) :=
  { StoreInner.Reordered.refl inner with messages_by_id := HashMap.reordered_insert h }

/-- Receipts stay in their channel exactly when every stored message that
carries a listed id belongs to it. The lookup takes the first carrier of an id
in an order that the map does not promise, so a carrier elsewhere is rewritten
in some order, unless it already has the receipt's status and time. A receipt on
an updates surface is dropped. -/
theorem receipts_confined_iff (self : AppState) (ctx : Ctx) (store : Store) (runtime : ChannelRuntime)
    (answers : EventAnswers) (event : ReceiptEvent) :
    (∀ inner, store.inner.Reordered inner → ReceiptConfined runtime event inner
      (process_whatsapp_event self ctx inner runtime answers (.Receipt event)).2) ↔
    is_updates_surface_jid event.chat_jid = true ∨
      ∀ message ∈ store.inner.messages_by_id.values, Listed event.wa_message_ids message →
        OfChannel runtime message ∨
          message.status = event.receipt_type ∧ message.updated_at = ctx.now := by
  simp only [process_whatsapp_event, process_receipt_event]
  by_cases hsurface : is_updates_surface_jid event.chat_jid = true
  · refine iff_of_true ?_ (Or.inl hsurface)
    intro inner hreordered key message message' hmessage hmessage' hchanged
    rw [if_pos hsurface] at hmessage'
    have heq : message' = message := Option.some.inj (hmessage'.symm.trans hmessage)
    subst heq
    simp at hchanged
  · simp only [hsurface, Bool.false_eq_true, if_false, false_or]
    constructor
    · -- a carrier elsewhere, put first, is the one that the lookup finds
      intro hconfined message hmem hlisted
      obtain ⟨wa_message_id, hwamem, hwa⟩ := hlisted
      obtain ⟨key, hkey⟩ := HashMap.mem_values_iff.mp hmem
      have hid : message.id = key := store.keyed.messages key message hkey
      subst hid
      have hfound : find_by_wa_id (store.inner.moved_first message.id message) wa_message_id =
          some message.id := by
        rw [find_by_wa_id]
        simp only [StoreInner.moved_first]
        rw [HashMap.find?_values_insert_self (by simpa using hwa), Option.map_some]
      have hfirst : (store.inner.moved_first message.id message).messages_by_id.lookup message.id =
          some message := by
        simp only [StoreInner.moved_first]
        rw [HashMap.lookup_insert_ite, if_pos rfl]
      have hafter := apply_receipts_found self event.receipt_type event.created_at_wa hwa
        event.wa_message_ids ctx (store.inner.moved_first message.id message)
        (store.keyed.messages.insert rfl) hfirst hfound hwamem
      by_cases hsame : message.status = event.receipt_type ∧ message.updated_at = ctx.now
      · exact Or.inr hsame
      · left
        refine (hconfined _ (StoreInner.moved_first_reordered hkey) message.id message _ hfirst hafter
          ?_).1
        by_contra hunchanged
        rw [not_or, not_not, not_not] at hunchanged
        exact hsame ⟨hunchanged.1.symm, hunchanged.2.symm⟩
    · intro hcondition inner hreordered key message message' hmessage hmessage' hchanged
      have hkeyed : inner.messages_by_id.Keyed Message.id := by
        intro k m hm
        rw [← hreordered.messages_by_id.lookup] at hm
        exact store.keyed.messages k m hm
      obtain ⟨after, hafter, hcases⟩ := apply_receipts_lookup self event.receipt_type
        event.created_at_wa event.wa_message_ids ctx inner hkeyed key message hmessage
      rw [hafter] at hmessage'
      cases hmessage'
      rcases hcases with rfl | ⟨rfl, hlisted⟩
      · simp at hchanged
      · refine ⟨?_, hlisted⟩
        have hmem : message ∈ store.inner.messages_by_id.values := by
          rw [← hreordered.messages_by_id.lookup] at hmessage
          exact HashMap.mem_values_of_lookup hmessage
        rcases hcondition message hmem hlisted with hown | ⟨hstatus, htime⟩
        · exact hown
        · exfalso
          rcases hchanged with h | h
          · exact h hstatus.symm
          · exact h htime.symm

/-- One text of a group that both companies' numbers are in. Its WhatsApp id is
the same for both. -/
def sample.group_event : MessageEvent :=
  { sample.text_event "3EB0A1" 1 false with chat_jid := "120363000000000000@g.us" }

/-- Both channels have received the group's text, the second company's last. -/
def sample.shared_group : Store :=
  sample.run Store.empty
    [(sample.ctx 1 "a",
        .process_whatsapp_event sample.company_a sample.answers (.Message sample.group_event)),
      (sample.ctx 2 "b",
        .process_whatsapp_event sample.company_b sample.answers (.Message sample.group_event))]

def sample.group_receipt : ReceiptEvent where
  wa_message_ids := ["3EB0A1"]
  receipt_type := "read"
  chat_jid := "120363000000000000@g.us"
  created_at_wa := Duration.seconds 3

/-- The read receipt of the first company marks the second company's message. -/
theorem receipt_crosses_companies :
    ¬ ReceiptConfined sample.company_a sample.group_receipt sample.shared_group.inner
      (process_whatsapp_event sample.service (sample.ctx 3 "c") sample.shared_group.inner
        sample.company_a sample.answers (.Receipt sample.group_receipt)).2 := by
  intro hconfined
  have hstored : (sample.shared_group.inner.messages_by_id.lookup "msg_b0").any (fun message =>
      message.status = "received" && message.company_id = "company_b") = true := by decide
  have hafter : ((process_whatsapp_event sample.service (sample.ctx 3 "c") sample.shared_group.inner
      sample.company_a sample.answers (.Receipt sample.group_receipt)).2.messages_by_id.lookup
        "msg_b0").any (fun message => message.status = "read") = true := by decide
  obtain ⟨message, hmessage, hbefore⟩ := (Option.any_eq_true _ _).mp hstored
  obtain ⟨message', hmessage', hread⟩ := (Option.any_eq_true _ _).mp hafter
  simp only [Bool.and_eq_true, decide_eq_true_eq] at hbefore hread
  have hchanged : message'.status ≠ message.status := by
    rw [hread, hbefore.1]
    decide
  obtain ⟨⟨-, hcompany, -⟩, -⟩ := hconfined _ message message' hmessage hmessage' (Or.inl hchanged)
  rw [hbefore.2] at hcompany
  exact absurd hcompany (by decide)

end rustzap.state
