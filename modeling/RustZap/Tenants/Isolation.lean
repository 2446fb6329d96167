import RustZap.Tenants.Chats

open collections serde_json runs
open rustzap.error rustzap.eventbus rustzap.models

namespace rustzap.state

section Reads

variable {project_id company_id : String} {inner inner' : StoreInner}

theorem public_conversation_keeps_id (inner : StoreInner) (chat : Conversation) :
    (public_conversation inner chat).id = chat.id := by
  unfold public_conversation apply_public_conversation_fields
  dsimp only
  repeat' split
  all_goals rfl

/-- A conversation of the tenant looks the same in both stores. Its public fields are
read from contacts, which are the tenant's as well. -/
theorem Indistinct.public_conversation_eq (h : Indistinct (project_id, company_id) inner inner')
    {chat : Conversation} (hstored : inner.conversations.lookup chat.id = some chat)
    (howner : chat.tenant = (project_id, company_id)) :
    public_conversation inner chat = public_conversation inner' chat := by
  have hstored' := h.view.conversations.lookup_eq_some hstored (decide_eq_true howner)
  have hown : inner.contacts.lookup chat.id = inner'.contacts.lookup chat.id := by
    refine h.view.contacts.lookup_eq (fun contact hcontact => ?_) fun contact hcontact => ?_
    · exact decide_eq_true ((h.separated.own _ chat contact hstored hcontact).trans howner)
    · exact decide_eq_true ((h.separated'.own _ chat contact hstored' hcontact).trans howner)
  have hlinked : chat.contact_id.bind inner.contacts.lookup = chat.contact_id.bind inner'.contacts.lookup := by
    cases hid : chat.contact_id with
    | none => rfl
    | some contact_id =>
      obtain ⟨contact, hcontact, htenant⟩ := h.separated.contact _ chat contact_id hstored hid
      have hcontact' := h.view.contacts.lookup_eq_some hcontact (decide_eq_true (htenant.trans howner))
      rw [Option.bind_some, Option.bind_some, hcontact, hcontact']
  unfold public_conversation
  dsimp only
  rw [h.view.groups]
  split
  · rfl
  · unfold apply_public_conversation_fields conversation_phone_number_for_inner
    dsimp only
    rw [hlinked, hown]

/-- A conversation that a tenant reads is stored, and is the tenant's. -/
theorem conversation_ok {conversation_id : String} {chat : Conversation} (hkeyed : inner.WellKeyed)
    (h : conversation inner project_id company_id conversation_id = .ok chat) :
    ∃ stored, inner.conversations.lookup stored.id = some stored ∧
      stored.tenant = (project_id, company_id) ∧ chat = public_conversation inner stored := by
  unfold conversation conversation_for_inner at h
  dsimp only at h
  cases hfound : (inner.conversations.lookup (resolve_conversation_id_inner inner project_id company_id
      conversation_id)).filter fun chat => conversation_matches_tenant chat project_id company_id with
  | none =>
    rw [hfound] at h
    cases h
  | some stored =>
    rw [hfound] at h
    obtain ⟨hstored, hmatches⟩ := Option.filter_eq_some_iff.mp hfound
    rw [conversation_matches_tenant_eq, decide_eq_true_eq] at hmatches
    refine ⟨stored, ?_, hmatches, (Except.ok.inj h).symm⟩
    rw [hkeyed.conversations _ stored hstored]
    exact hstored

theorem Indistinct.conversation_read_eq (h : Indistinct (project_id, company_id) inner inner')
    (hkeyed : inner.WellKeyed) (conversation_id : String) :
    conversation inner project_id company_id conversation_id =
      conversation inner' project_id company_id conversation_id := by
  unfold conversation conversation_for_inner
  dsimp only
  rw [← h.view.resolve_eq, ← h.view.conversation_filter]
  cases hfound : (inner.conversations.lookup (resolve_conversation_id_inner inner project_id company_id
      conversation_id)).filter fun chat => conversation_matches_tenant chat project_id company_id with
  | none => rfl
  | some stored =>
    obtain ⟨hstored, hmatches⟩ := Option.filter_eq_some_iff.mp hfound
    rw [conversation_matches_tenant_eq, decide_eq_true_eq] at hmatches
    have hid := hkeyed.conversations _ stored hstored
    rw [← hid] at hstored
    exact congrArg Except.ok (h.public_conversation_eq hstored hmatches)

/-- The tenant's messages of a conversation of its own. -/
theorem Indistinct.list_messages_eq (h : Indistinct (project_id, company_id) inner inner') (self : AppState)
    {stored : Conversation} (hstored : inner.conversations.lookup stored.id = some stored)
    (howner : stored.tenant = (project_id, company_id)) (after_seq before_seq : Option Int) (limit : Nat) :
    list_messages self inner stored.id after_seq before_seq limit =
      list_messages self inner' stored.id after_seq before_seq limit := by
  have hstored' := h.view.conversations.lookup_eq_some hstored (decide_eq_true howner)
  unfold list_messages
  rw [h.view.list_eq h.separated h.separated' ⟨stored, hstored, howner⟩ ⟨stored, hstored', howner⟩]

theorem Indistinct.list_messages_for_conversation_eq (h : Indistinct (project_id, company_id) inner inner')
    (hkeyed : inner.WellKeyed) (self : AppState) (conversation_id : String)
    (after_seq before_seq : Option Int) (limit : Nat) :
    list_messages_for_conversation self inner project_id company_id conversation_id after_seq before_seq limit =
      list_messages_for_conversation self inner' project_id company_id conversation_id after_seq before_seq
        limit := by
  unfold list_messages_for_conversation
  rw [← h.conversation_read_eq hkeyed]
  cases hread : conversation inner project_id company_id conversation_id with
  | error err => rfl
  | ok chat =>
    obtain ⟨stored, hstored, howner, rfl⟩ := conversation_ok hkeyed hread
    dsimp only
    rw [public_conversation_keeps_id, h.list_messages_eq self hstored howner]

/-- The tenant's conversations, in whatever order the maps yield those of one time. -/
theorem Indistinct.conversations_perm (h : Indistinct (project_id, company_id) inner inner')
    (hkeyed : inner.WellKeyed) :
    (conversations inner project_id company_id).Perm (conversations inner' project_id company_id) := by
  have hmine : ∀ chat : Conversation, (chat.project_id = project_id && chat.company_id = company_id) =
      decide (chat.tenant = (project_id, company_id)) :=
    fun chat => conversation_matches_tenant_eq chat project_id company_id
  have hpublic : ((inner.conversations.values.filter fun chat =>
        decide (chat.tenant = (project_id, company_id))).map (public_conversation inner)) =
      (inner.conversations.values.filter fun chat =>
        decide (chat.tenant = (project_id, company_id))).map (public_conversation inner') := by
    refine List.map_congr_left fun chat hmem => ?_
    obtain ⟨hvalue, howner⟩ := List.mem_filter.mp hmem
    obtain ⟨jid, hstored⟩ := HashMap.mem_values_iff.mp hvalue
    have hid := hkeyed.conversations jid chat hstored
    rw [← hid] at hstored
    exact h.public_conversation_eq hstored (of_decide_eq_true howner)
  unfold conversations
  simp only [hmine]
  refine (sort_by_perm _ _).trans (.trans ?_ (sort_by_perm _ _).symm)
  rw [hpublic]
  exact h.view.conversations.filter_values_perm.map _

end Reads

section Messages

variable {inner : StoreInner}

theorem normalize_message_media_urls_keeps (self : AppState) (message : Message) :
    (normalize_message_media_urls self message).id = message.id ∧
      (normalize_message_media_urls self message).tenant = message.tenant := by
  unfold normalize_message_media_urls
  repeat' split
  all_goals exact ⟨rfl, rfl⟩

/-- What a page shows is on the conversation's list. -/
theorem of_mem_list_messages {self : AppState} {conversation_id : String} {after_seq before_seq : Option Int}
    {limit : Nat} {shown : Message}
    (h : shown ∈ (list_messages self inner conversation_id after_seq before_seq limit).messages) :
    ∃ message ∈ (inner.messages_by_conversation.lookup conversation_id).getD [],
      shown = normalize_message_media_urls self message := by
  obtain ⟨message, hmem, rfl⟩ := List.mem_map.mp (List.mem_of_mem_take h)
  have hlisted := (sort_by_perm _ _).mem_iff.mp hmem
  exact ⟨message, (List.mem_filter.mp hlisted).1, rfl⟩

/-- No tenant is shown a message of another. -/
theorem Separated.listed_messages (h : Separated inner) (hkeyed : inner.WellKeyed) {self : AppState}
    {project_id company_id conversation_id : String} {after_seq before_seq : Option Int} {limit : Nat}
    {page : MessagesPage}
    (hpage : list_messages_for_conversation self inner project_id company_id conversation_id after_seq
      before_seq limit = .ok page) :
    ∀ message ∈ page.messages, message.tenant = (project_id, company_id) := by
  intro shown hshown
  unfold list_messages_for_conversation at hpage
  cases hread : conversation inner project_id company_id conversation_id with
  | error err =>
    rw [hread] at hpage
    cases hpage
  | ok chat =>
    rw [hread] at hpage
    obtain ⟨stored, hstored, howner, rfl⟩ := conversation_ok hkeyed hread
    cases hpage
    dsimp only at hshown
    rw [public_conversation_keeps_id] at hshown
    obtain ⟨listed, hlisted, rfl⟩ := List.mem_map.mp hshown
    obtain ⟨message, hmessage, rfl⟩ := of_mem_list_messages hlisted
    have htenant : message.tenant = (project_id, company_id) := by
      cases hmessages : inner.messages_by_conversation.lookup stored.id with
      | none =>
        rw [hmessages] at hmessage
        cases hmessage
      | some messages =>
        rw [hmessages] at hmessage
        exact h.listed_of_tenant ⟨stored, hstored, howner⟩ hmessages message hmessage
    exact (normalize_message_media_urls_keeps self message).2.trans htenant

/-- In a list whose numbers go up, the page after the number before a message starts
with that message. -/
theorem list_messages_from (self : AppState) {conversation_id : String} {messages : List Message}
    {message : Message} {limit : Nat}
    (hmessages : inner.messages_by_conversation.lookup conversation_id = some messages)
    (hordered : (messages.map Message.conversation_seq).Pairwise (· < ·)) (hmem : message ∈ messages)
    (hlimit : 0 < limit) :
    normalize_message_media_urls self message ∈
      (list_messages self inner conversation_id (some (message.conversation_seq - 1)) none limit).messages := by
  obtain ⟨earlier, later, rfl⟩ := List.append_of_mem hmem
  rw [List.pairwise_map, List.pairwise_append] at hordered
  obtain ⟨-, hlater, hearlier⟩ := hordered
  -- the messages before it are left out, and what remains is in order already
  have hfiltered : ((earlier ++ message :: later).filter fun other =>
      ((some (message.conversation_seq - 1)).all fun seq => other.conversation_seq > seq) &&
        (none : Option Int).all fun seq => other.conversation_seq < seq) = message :: later := by
    have hbefore : ∀ other ∈ earlier, other.conversation_seq < message.conversation_seq :=
      fun other hother => hearlier other hother message List.mem_cons_self
    have hafter : ∀ other ∈ message :: later, message.conversation_seq ≤ other.conversation_seq := by
      intro other hother
      rcases List.mem_cons.mp hother with rfl | hother
      · exact le_rfl
      · exact ((List.pairwise_cons.mp hlater).1 other hother).le
    rw [List.filter_append, List.filter_eq_nil_iff.mpr, List.filter_eq_self.mpr, List.nil_append]
    · intro other hother
      have := hafter other hother
      simp only [Option.all_some, Option.all_none, Bool.and_true, decide_eq_true_eq]
      omega
    · intro other hother
      have := hbefore other hother
      simp only [Option.all_some, Option.all_none, Bool.and_true, decide_eq_true_eq]
      omega
  have hsorted : sort_by (fun a b => decide (a.conversation_seq ≤ b.conversation_seq)) (message :: later) =
      message :: later := by
    refine List.Pairwise.insertionSort_eq (hlater.imp fun {a b} hlt => ?_)
    exact decide_eq_true hlt.le
  unfold list_messages
  dsimp only
  rw [hmessages, Option.getD_some, hfiltered, hsorted]
  obtain ⟨limit, rfl⟩ := Nat.exists_eq_succ_of_ne_zero hlimit.ne'
  exact List.mem_cons_self

/-- A tenant finds a conversation of its own under its id. -/
theorem Separated.conversation_of_id (h : Separated inner) {jid : String} {chat : Conversation}
    (hstored : inner.conversations.lookup jid = some chat) :
    conversation inner chat.project_id chat.company_id jid = .ok (public_conversation inner chat) := by
  have hmatches : conversation_matches_tenant chat chat.project_id chat.company_id = true := by
    rw [conversation_matches_tenant_eq]
    exact decide_eq_true rfl
  have hresolved : resolve_conversation_id_inner inner chat.project_id chat.company_id jid = jid := by
    unfold resolve_conversation_id_inner
    dsimp only
    rw [h.trimmed jid chat hstored, hstored, Option.any_some, if_pos hmatches]
  have hfound : ((some chat).filter fun other => conversation_matches_tenant other chat.project_id
      chat.company_id) = some chat := Option.filter_some_pos hmatches
  unfold conversation conversation_for_inner
  dsimp only
  rw [hresolved, hstored, hfound]

/-- A stored message is readable by its tenant, under its conversation. -/
theorem Separated.message_readable (h : Separated inner) (hkeyed : inner.WellKeyed)
    (hagree : IndexesAgree inner) (hordered : SequencesInOrder inner) (self : AppState) {message_id : String}
    {message : Message} (hmessage : inner.messages_by_id.lookup message_id = some message) {limit : Nat}
    (hlimit : 0 < limit) :
    ∃ page, list_messages_for_conversation self inner message.project_id message.company_id
        message.conversation_id (some (message.conversation_seq - 1)) none limit = .ok page ∧
      message.id ∈ page.messages.map Message.id := by
  obtain ⟨messages, hmessages, hmem⟩ := Grouped.Agree.mem hagree hmessage
  obtain ⟨chat, hchat, howner⟩ := h.listed _ messages hmessages message hmem
  obtain ⟨hproject, hcompany⟩ := Prod.mk.inj howner
  have hread := h.conversation_of_id hchat
  rw [hproject, hcompany] at hread
  have hlisted := list_messages_from self hmessages (hordered.listed _ messages hmessages).1 hmem hlimit
  unfold list_messages_for_conversation
  rw [hread]
  refine ⟨_, rfl, ?_⟩
  rw [public_conversation_keeps_id, hkeyed.conversations _ chat hchat]
  dsimp only
  rw [List.map_map, List.mem_map]
  exact ⟨_, hlisted, (normalize_message_media_urls_keeps self message).1⟩

end Messages

/-- The operations that a tenant's conversations and messages come from. -/
inductive ChatOp where
  | receive_inbound_text (project_id company_id : String) (request : SimulateInboundTextRequest)
  | record_whatsapp_message (input : WhatsappMessageInput)
  | prepare_send_message_with_actor
      (project_id company_id conversation_id idempotency_key : String) (request : SendMessageRequest)
      (sent_by_external_user_id : Option String)
  | upload_outbound_media (project_id company_id : String) (upload : OutboundMediaUpload)
      (answers : UploadAnswers)
  | mark_read (project_id company_id conversation_id : String)

namespace ChatOp

/-- The tenant that an operation is issued for. -/
def tenant : ChatOp → String × String
  | .receive_inbound_text project company _ => (project, company)
  | .record_whatsapp_message input => (input.project_id, input.company_id)
  | .prepare_send_message_with_actor project company _ _ _ _ => (project, company)
  | .upload_outbound_media project company _ _ => (project, company)
  | .mark_read project company _ => (project, company)

def apply (self : AppState) (ctx : Ctx) (inner : StoreInner) : ChatOp → StoreInner
  | .receive_inbound_text project company request =>
    (state.receive_inbound_text ctx inner project company request).2
  | .record_whatsapp_message input => (state.record_whatsapp_message ctx inner input).2
  | .prepare_send_message_with_actor project company conversation key request actor =>
    (state.prepare_send_message_with_actor self ctx inner project company conversation key request actor).2
  | .upload_outbound_media project company upload answers =>
    (state.upload_outbound_media self ctx inner project company upload answers).2
  | .mark_read project company conversation => (state.mark_read ctx inner project company conversation).2

/-- The stored message that an incoming one turns out to be. -/
def known (inner : StoreInner) : ChatOp → Option Message
  | .record_whatsapp_message input => input.existing inner
  | _ => none

/-- The id of the chat that an operation writes to, unless it finds that there is
nothing to write. Only what is the tenant's is marked as read. -/
def chat (inner : StoreInner) : ChatOp → Option String
  | .receive_inbound_text _ _ request => some (inbound_conversation_id request)
  | .record_whatsapp_message input =>
    if (input.existing inner).isSome then none else some input.conversation_id
  | .prepare_send_message_with_actor project company conversation key _ _ =>
    if (inner.idempotency.lookup (project, company, key)).isSome then none
    else some (resolve_conversation_id_inner inner project company conversation)
  | .upload_outbound_media project company upload _ =>
    some (resolve_conversation_id_inner inner project company (str.trim upload.conversation_id))
  | .mark_read _ _ _ => none

/-- The ids of the contacts that a recording writes: the sender's, and those that it
learns to be the same person's. -/
def people (now : OffsetDateTime) (inner : StoreInner) : ChatOp → List String
  | .receive_inbound_text _ _ request => [inbound_sender_id request]
  | .record_whatsapp_message input => if (input.existing inner).isSome then [] else input.keys now
  | _ => []

end ChatOp

/-- An operation that stays with what is its tenant's: the chat that it writes to and the
contacts that it writes carry nothing of another tenant, and a WhatsApp message that is
known already is known as the tenant's. The chat's id is one that a request can name,
without blanks around it. -/
structure OnOwnChats (ctx : Ctx) (inner : StoreInner) (op : ChatOp) : Prop where
  chat : ∀ jid, op.chat inner = some jid → str.trim jid = jid ∧ OwnOrFree op.tenant inner jid
  people : ∀ jid ∈ op.people ctx.now inner, OwnOrFree op.tenant inner jid
  known : ∀ message, op.known inner = some message → message.tenant = op.tenant

/-- The UUID that the step draws is that of no message and of no medium. -/
def NewUuid (ctx : Ctx) (inner : StoreInner) : Prop :=
  inner.messages_by_id.lookup ("msg_" ++ ctx.uuid 0) = none ∧
    inner.media.lookup ("media_" ++ ctx.uuid 0) = none

section Decidable

variable (tenant : String × String) (ctx : Ctx) (inner : StoreInner)

instance (jid : String) : Decidable (OwnOrFree tenant inner jid) :=
  decidable_of_iff ((∀ chat ∈ inner.conversations.lookup jid, chat.tenant = tenant) ∧
      ∀ contact ∈ inner.contacts.lookup jid, contact.tenant = tenant)
    ⟨fun h => ⟨h.1, h.2⟩, fun h => ⟨h.conversation, h.contact⟩⟩

instance (op : ChatOp) : Decidable (OnOwnChats ctx inner op) :=
  decidable_of_iff ((∀ jid ∈ op.chat inner, str.trim jid = jid ∧ OwnOrFree op.tenant inner jid) ∧
      (∀ jid ∈ op.people ctx.now inner, OwnOrFree op.tenant inner jid) ∧
      ∀ message ∈ op.known inner, message.tenant = op.tenant)
    ⟨fun h => ⟨h.1, h.2.1, h.2.2⟩, fun h => ⟨h.chat, h.people, h.known⟩⟩

instance : Decidable (NewUuid ctx inner) :=
  inferInstanceAs (Decidable (_ ∧ _))

end Decidable

section Operations

variable (self : AppState) {ctx : Ctx} {inner inner' : StoreInner}

theorem ChatOp.apply_records (op : ChatOp) : Recording ctx False inner (op.apply self ctx inner) := by
  cases op with
  | receive_inbound_text project company request => exact ⟨_, record_message_inner_records_first _, .refl⟩
  | record_whatsapp_message input => exact ⟨_, record_whatsapp_message_records_first _, .refl⟩
  | prepare_send_message_with_actor project company conversation key request actor =>
    exact prepare_send_message_with_actor_records ..
  | upload_outbound_media project company upload answers =>
    exact .of_changes (upload_outbound_media_changes ..)
  | mark_read project company conversation => exact .of_changes (mark_read_changes ..)

/-- An operation that stays with what is its tenant's writes the same to stores that the
tenant cannot tell apart. -/
theorem ChatOp.writes_alike {op : ChatOp} (hrel : Indistinct op.tenant inner inner')
    (hown : OnOwnChats ctx inner op) (hown' : OnOwnChats ctx inner' op) (hnew : NewUuid ctx inner)
    (hnew' : NewUuid ctx inner') :
    WritesAlike op.tenant inner (op.apply self ctx inner) inner' (op.apply self ctx inner') := by
  cases op with
  | receive_inbound_text project company request =>
    obtain ⟨htrimmed, hfree⟩ := hown.chat _ rfl
    obtain ⟨-, hfree'⟩ := hown'.chat _ rfl
    exact receive_inbound_text_alike hrel ctx request htrimmed ⟨hfree, hfree'⟩
      ⟨hown.people _ List.mem_cons_self, hown'.people _ List.mem_cons_self⟩ hnew.1 hnew'.1
  | record_whatsapp_message input =>
    refine record_whatsapp_message_alike hrel ctx input hown.known hown'.known fun hnone hnone' => ?_
    have hwrites : ∀ {inner : StoreInner}, OnOwnChats ctx inner (.record_whatsapp_message input) →
        input.existing inner = none → (str.trim input.conversation_id = input.conversation_id ∧
          OwnOrFree (input.project_id, input.company_id) inner input.conversation_id) ∧
          ∀ key ∈ input.keys ctx.now, OwnOrFree (input.project_id, input.company_id) inner key := by
      intro inner hown hnone
      refine ⟨hown.chat input.conversation_id ?_, fun key hkey => hown.people key ?_⟩
      · simp [ChatOp.chat, hnone]
      · simpa [ChatOp.people, hnone] using hkey
    obtain ⟨⟨htrimmed, hfree⟩, hpeople⟩ := hwrites hown hnone
    obtain ⟨⟨-, hfree'⟩, hpeople'⟩ := hwrites hown' hnone'
    exact input.record_alike hrel ctx rfl htrimmed ⟨hfree, hfree'⟩
      (fun key hkey => ⟨hpeople key hkey, hpeople' key hkey⟩) hnew.1 hnew'.1
  | prepare_send_message_with_actor project company conversation key request actor =>
    refine prepare_send_message_with_actor_alike hrel self ctx conversation key request actor
      (fun hnone => ?_) hnew.1 hnew'.1
    have hkey : inner.idempotency.lookup (project, company, key) =
        inner'.idempotency.lookup (project, company, key) :=
      hrel.view.idempotency.lookup_eq (fun _ _ => decide_eq_true rfl) fun _ _ => decide_eq_true rfl
    have hchat : (ChatOp.prepare_send_message_with_actor project company conversation key request actor).chat
        inner = some (resolve_conversation_id_inner inner project company conversation) := by
      simp [ChatOp.chat, hnone]
    have hchat' : (ChatOp.prepare_send_message_with_actor project company conversation key request actor).chat
        inner' = some (resolve_conversation_id_inner inner project company conversation) := by
      simp [ChatOp.chat, ← hkey, hnone, hrel.view.resolve_eq]
    obtain ⟨htrimmed, hfree⟩ := hown.chat _ hchat
    exact ⟨htrimmed, hfree, (hown'.chat _ hchat').2⟩
  | upload_outbound_media project company upload answers =>
    obtain ⟨htrimmed, hfree⟩ := hown.chat _ rfl
    obtain ⟨-, hfree'⟩ := hown'.chat _ rfl
    rw [← hrel.view.resolve_eq] at hfree'
    exact upload_outbound_media_alike hrel self ctx upload answers rfl htrimmed ⟨hfree, hfree'⟩ hnew.2 hnew'.2
  | mark_read project company conversation => exact mark_read_alike hrel ctx conversation

/-- What a tenant's writes store is the tenant's. -/
theorem messages_written_by_tenant {tenant : String × String} {writes : List TenantWrite}
    (hrun : Run (TenantStep tenant) inner writes inner') {message_id : String} {message : Message}
    (hmessage : inner'.messages_by_id.lookup message_id = some message) :
    message.tenant = tenant ∨ inner.messages_by_id.lookup message_id = some message := by
  have hstep : ∀ s write t,
      (∀ message, s.messages_by_id.lookup message_id = some message →
        message.tenant = tenant ∨ inner.messages_by_id.lookup message_id = some message) →
      TenantStep tenant s write t →
      ∀ message, t.messages_by_id.lookup message_id = some message →
        message.tenant = tenant ∨ inner.messages_by_id.lookup message_id = some message := by
    intro s write t hs hstep message hmessage
    rw [← hstep.2.messages.lookup] at hmessage
    -- only two of the writes put a message into the map
    have hinsert : ∀ new : Message, new.tenant = tenant →
        AList.lookup message_id (s.messages_by_id.insert new.id new) = some message →
        message.tenant = tenant ∨ inner.messages_by_id.lookup message_id = some message := by
      intro new hnew hlookup
      rw [HashMap.lookup_insert_ite] at hlookup
      split at hlookup
      · cases hlookup
        exact Or.inl hnew
      · exact hs message hlookup
    cases write with
    | append new => exact hinsert new hstep.1.1 hmessage
    | rewrite new => exact hinsert new hstep.1.1 hmessage
    | aside => exact hs message hmessage
    | contact jid person => exact hs message hmessage
    | conversation jid chat => exact hs message hmessage
    | media object => exact hs message hmessage
    | idempotency key record => exact hs message hmessage
  exact hrun.invariant hstep (fun message hmessage => Or.inr hmessage) message hmessage

end Operations

/-- A service that has been set up: it knows its channels and groups, and nobody has
talked yet. -/
def Store.set_up (channels : HashMap String ChannelRecord) (groups : HashMap String GroupRecord) : Store where
  inner := { channels, groups }
  keyed := ⟨HashMap.Keyed.empty, HashMap.Keyed.empty, fun _ _ h => by cases h⟩

def Store.converse (self : AppState) (ctx : Ctx) (store : Store) (op : ChatOp) : Store where
  inner := op.apply self ctx store.inner
  keyed := (op.apply_records self).well_keyed store.keyed

/-- One operation of a tenant. The maps that it may write can yield their entries in
another order afterwards; the channels are not written and stay in their order. -/
def Store.Converses (self : AppState) (store : Store) (label : Ctx × ChatOp) (store' : Store) : Prop :=
  (store.converse self label.1 label.2).inner.Reordered store'.inner ∧
    (store.converse self label.1 label.2).inner.channels = store'.inner.channels

/-- What a tenant reads of conversations and messages, in two stores. -/
structure SameChats (service : AppState) (project_id company_id : String) (inner inner' : StoreInner) :
    Prop where
  conversations : (conversations inner project_id company_id).Perm (conversations inner' project_id company_id)
  conversation : ∀ conversation_id, conversation inner project_id company_id conversation_id =
    conversation inner' project_id company_id conversation_id
  listed : ∀ conversation_id after_seq before_seq limit,
    list_messages_for_conversation service inner project_id company_id conversation_id after_seq before_seq
        limit =
      list_messages_for_conversation service inner' project_id company_id conversation_id after_seq before_seq
        limit

/-- A step of the run has recorded the message for the tenant. -/
def RecordedFor (step : Store → Ctx × ChatOp → Store → Prop) (start : Store) (labels : List (Ctx × ChatOp))
    (store : Store) (tenant : String × String) (message : Message) : Prop :=
  ∃ before label after mid next, labels = before ++ label :: after ∧ Run step start before mid ∧
    step mid label next ∧ Run step next after store ∧ label.2.tenant = tenant ∧
    NewlyRecorded mid next message

/-- Nobody is shown messages of another tenant, and a message that has been recorded for
a tenant can be read by it, under the conversation it was recorded in. -/
structure OwnMessages (service : AppState) (step : Store → Ctx × ChatOp → Store → Prop) (start : Store)
    (labels : List (Ctx × ChatOp)) (store : Store) : Prop where
  listed : ∀ project_id company_id conversation_id after_seq before_seq limit page,
    list_messages_for_conversation service store.inner project_id company_id conversation_id after_seq
      before_seq limit = .ok page →
    ∀ message ∈ page.messages, message.tenant = (project_id, company_id)
  readable : ∀ project_id company_id message,
    RecordedFor step start labels store (project_id, company_id) message → ∀ limit, 0 < limit →
    ∃ page, list_messages_for_conversation service store.inner project_id company_id message.conversation_id
        (some (message.conversation_seq - 1)) none limit = .ok page ∧
      message.id ∈ page.messages.map Message.id

/-- That no tenant's operations interfere with the conversations and messages of another,
in runs whose steps meet a condition. The operations of a tenant take the same readings
from outside in both runs, so that its ids and times are the same as well. -/
def Noninterference (self : AppState) (ok : Store → Ctx × ChatOp → Prop) : Prop :=
  ∀ channels groups project_id company_id labels labels' store store',
    Run (Guarded (Store.Converses self) ok) (Store.set_up channels groups) labels store →
    Run (Guarded (Store.Converses self) ok) (Store.set_up channels groups) labels' store' →
    labels.filter (fun label => label.2.tenant = (project_id, company_id)) =
      labels'.filter (fun label => label.2.tenant = (project_id, company_id)) →
    SameChats self project_id company_id store.inner store'.inner ∧
      OwnMessages self (Guarded (Store.Converses self) ok) (Store.set_up channels groups) labels store

def DrawsNewUuid (store : Store) (label : Ctx × ChatOp) : Prop :=
  NewUuid label.1 store.inner

/-- The step draws a new UUID and stays with what is its tenant's. -/
def StaysApart (store : Store) (label : Ctx × ChatOp) : Prop :=
  DrawsNewUuid store label ∧ OnOwnChats label.1 store.inner label.2

instance (store : Store) (label : Ctx × ChatOp) : Decidable (DrawsNewUuid store label) :=
  inferInstanceAs (Decidable (NewUuid label.1 store.inner))

instance (store : Store) (label : Ctx × ChatOp) : Decidable (StaysApart store label) :=
  inferInstanceAs (Decidable (_ ∧ _))

section Runs

variable {self : AppState} {store store' next next' : Store} {label : Ctx × ChatOp}
  {labels : List (Ctx × ChatOp)}

theorem Store.Converses.same_maps (h : Store.Converses self store label next) :
    SameMaps (label.2.apply self label.1 store.inner) next.inner :=
  .of_reordered h.1 h.2

/-- The writes that a step of a tenant consists of. -/
theorem StaysApart.writes (self : AppState) (h : StaysApart store label) (hseparated : Separated store.inner) :
    ∃ writes, Run (TenantStep label.2.tenant) store.inner writes
      (label.2.apply self label.1 store.inner) := by
  have hrel : Indistinct label.2.tenant store.inner store.inner :=
    ⟨SameView.refl _ _, hseparated, hseparated⟩
  obtain ⟨writes, hrun, -⟩ := ChatOp.writes_alike self hrel h.2 h.2 h.1 h.1
  exact ⟨writes, hrun⟩

/-- A step of another tenant. -/
theorem Indistinct.converse_other {tenant : String × String} (h : Indistinct tenant store.inner store'.inner)
    (hother : label.2.tenant ≠ tenant)
    (hstep : Guarded (Store.Converses self) StaysApart store label next) :
    Indistinct tenant next.inner store'.inner := by
  obtain ⟨writes, hrun⟩ := hstep.1.writes self h.separated
  exact (h.run_other hother hrun).reordered hstep.2.same_maps

/-- A step of the tenant, in both runs. -/
theorem Indistinct.converse {tenant : String × String} (h : Indistinct tenant store.inner store'.inner)
    (htenant : label.2.tenant = tenant)
    (hstep : Guarded (Store.Converses self) StaysApart store label next)
    (hstep' : Guarded (Store.Converses self) StaysApart store' label next') :
    Indistinct tenant next.inner next'.inner := by
  subst htenant
  have halike := ChatOp.writes_alike self h hstep.1.2 hstep'.1.2 hstep.1.1 hstep'.1.1
  have hrel := (halike.indistinct h).reordered hstep.2.same_maps
  exact (hrel.symm.reordered hstep'.2.same_maps).symm

theorem set_up_separated (channels : HashMap String ChannelRecord) (groups : HashMap String GroupRecord) :
    Separated (Store.set_up channels groups).inner := by
  have hlist : ∀ jid, (Store.set_up channels groups).inner.messages_by_conversation.lookup jid = none :=
    fun _ => rfl
  have hchat : ∀ jid, (Store.set_up channels groups).inner.conversations.lookup jid = none := fun _ => rfl
  refine ⟨fun jid messages h => ?_, fun jid chat h => ?_, fun jid chat contact_id h => ?_,
    fun jid chat contact h => ?_, HashMap.Keyed.empty⟩
  · cases (hlist jid).symm.trans h
  · cases (hchat jid).symm.trans h
  · cases (hchat jid).symm.trans h
  · cases (hchat jid).symm.trans h

theorem Separated.converses (hrun : Run (Guarded (Store.Converses self) StaysApart) store labels store')
    (h : Separated store.inner) : Separated store'.inner := by
  have hstep : ∀ s label t, Separated (Store.inner s) →
      Guarded (Store.Converses self) StaysApart s label t → Separated t.inner := by
    intro s label t hs hstep
    obtain ⟨writes, hwrites⟩ := hstep.1.writes self hs
    have hwrite : ∀ s write t, Separated s → TenantStep label.2.tenant s write t → Separated t :=
      fun _ _ _ hs hwrite => (hs.apply hwrite.1).reordered hwrite.2
    exact (hwrites.invariant hwrite hs).reordered hstep.2.same_maps
  exact hrun.invariant hstep h

/-- What holds of the indexes and the numbers throughout holds here as well. -/
theorem Preserved.converses {Inv : StoreInner → Prop} (h : Preserved Inv)
    (hrun : Run (Guarded (Store.Converses self) StaysApart) store labels store') (hinv : Inv store.inner) :
    Inv store'.inner := by
  have hstep : ∀ s label t, Inv (Store.inner s) → Guarded (Store.Converses self) StaysApart s label t →
      Inv t.inner := by
    intro s label t hs hstep
    exact h.reordered _ _ hstep.2.1 (h.recording s.keyed hstep.1.1.1 (label.2.apply_records self) hs)
  exact hrun.invariant hstep hinv

theorem MessagesKept.converses (hrun : Run (Guarded (Store.Converses self) StaysApart) store labels store') :
    MessagesKept store.inner.messages_by_id store'.inner.messages_by_id := by
  have hstep : ∀ s label t, MessagesKept store.inner.messages_by_id (Store.inner s).messages_by_id →
      Guarded (Store.Converses self) StaysApart s label t →
      MessagesKept store.inner.messages_by_id t.inner.messages_by_id := by
    intro s label t hs hstep
    have hkept := hs.trans ((label.2.apply_records self).messages_kept hstep.1.1.1)
    intro id message hmessage
    obtain ⟨message', hlookup, hsame⟩ := hkept id message hmessage
    exact ⟨message', (hstep.2.1.messages_by_id.lookup id).symm.trans hlookup, hsame⟩
  exact hrun.invariant hstep (.refl _)

/-- What a step records is its tenant's. -/
theorem NewlyRecorded.tenant_eq {message : Message} (h : NewlyRecorded store next message)
    (hseparated : Separated store.inner)
    (hstep : Guarded (Store.Converses self) StaysApart store label next) :
    message.tenant = label.2.tenant := by
  obtain ⟨writes, hwrites⟩ := hstep.1.writes self hseparated
  have hstored : (label.2.apply self label.1 store.inner).messages_by_id.lookup message.id = some message :=
    (hstep.2.1.messages_by_id.lookup message.id).trans h.2
  rcases messages_written_by_tenant hwrites hstored with htenant | hold
  · exact htenant
  · rw [h.1] at hold
    cases hold

theorem own_messages_of_run {channels : HashMap String ChannelRecord} {groups : HashMap String GroupRecord}
    (hrun : Run (Guarded (Store.Converses self) StaysApart) (Store.set_up channels groups) labels store) :
    OwnMessages self (Guarded (Store.Converses self) StaysApart) (Store.set_up channels groups) labels
      store := by
  have hstart := set_up_separated channels groups
  have hempty : SequencesInOrder (Store.set_up channels groups).inner := ⟨fun _ => le_rfl, nofun, nofun⟩
  have hseparated := hstart.converses hrun
  obtain ⟨hagree, hordered⟩ := sequences_in_order_preserved.converses hrun ⟨Grouped.Agree.empty, hempty⟩
  constructor
  · intro project_id company_id conversation_id after_seq before_seq limit page hpage
    exact hseparated.listed_messages store.keyed hpage
  · rintro project_id company_id message
      ⟨before, label, after, mid, next, -, hbefore, hstep, hafter, htenant, hrecorded⟩ limit hlimit
    have howner := (hrecorded.tenant_eq (hstart.converses hbefore) hstep).trans htenant
    obtain ⟨hproject, hcompany⟩ := Prod.mk.inj howner
    -- later steps may have changed its status, but neither its tenant nor its place
    obtain ⟨message', hmessage', hsame⟩ := MessagesKept.converses hafter message.id message hrecorded.2
    have hreadable := hseparated.message_readable store.keyed hagree hordered self hmessage' hlimit
    rw [hsame.project_id, hsame.company_id, hsame.conversation_id, hsame.conversation_seq, hsame.id, hproject,
      hcompany] at hreadable
    exact hreadable

end Runs

/-- Two runs in which every operation stays with what is its tenant's, and in which a
tenant does the same: whatever the others do, the tenant reads the same conversations
and messages. Nobody is shown a message of another tenant, and everybody can read the
messages recorded for it. -/
theorem tenants_do_not_interfere (self : AppState) {channels : HashMap String ChannelRecord}
    {groups : HashMap String GroupRecord} {project_id company_id : String}
    {labels labels' : List (Ctx × ChatOp)} {store store' : Store}
    (hrun : Run (Guarded (Store.Converses self) StaysApart) (Store.set_up channels groups) labels store)
    (hrun' : Run (Guarded (Store.Converses self) StaysApart) (Store.set_up channels groups) labels' store')
    (hsame : labels.filter (fun label => label.2.tenant = (project_id, company_id)) =
      labels'.filter (fun label => label.2.tenant = (project_id, company_id))) :
    SameChats self project_id company_id store.inner store'.inner ∧
      OwnMessages self (Guarded (Store.Converses self) StaysApart) (Store.set_up channels groups) labels
        store := by
  have hstart : Indistinct (project_id, company_id) (Store.set_up channels groups).inner
      (Store.set_up channels groups).inner :=
    ⟨SameView.refl _ _, set_up_separated channels groups, set_up_separated channels groups⟩
  have hsymm : ∀ s s' : Store, Indistinct (project_id, company_id) s.inner s'.inner →
      Indistinct (project_id, company_id) s'.inner s.inner := fun _ _ => Indistinct.symm
  have hrel : Indistinct (project_id, company_id) store.inner store'.inner := by
    refine Run.unwinding (fun label => label.2.tenant = (project_id, company_id)) hsymm ?_ ?_ hrun hrun' hsame
      hstart
    · exact fun _ _ _ _ hother hrel hstep => hrel.converse_other hother hstep
    · exact fun _ _ _ _ _ hown hrel hstep hstep' => hrel.converse hown hstep hstep'
  refine ⟨⟨hrel.conversations_perm store.keyed, fun conversation_id => ?_, fun conversation_id after_seq
    before_seq limit => ?_⟩, own_messages_of_run hrun⟩
  · exact hrel.conversation_read_eq store.keyed conversation_id
  · exact hrel.list_messages_for_conversation_eq store.keyed self conversation_id after_seq before_seq limit

namespace sample

def set_up : Store :=
  Store.set_up ∅ ∅

/-- The store after some operations, the maps yielding their entries as they are
stored. -/
def conversed (labels : List (Ctx × ChatOp)) (store : Store) : Store :=
  labels.foldl (fun store label => store.converse service label.1 label.2) store

/-- Whether every step meets a condition. -/
def all_meet (ok : Store → Ctx × ChatOp → Bool) (store : Store) : List (Ctx × ChatOp) → Bool
  | [] => true
  | label :: labels => ok store label && all_meet ok (store.converse service label.1 label.2) labels

theorem converses {ok : Store → Ctx × ChatOp → Prop} [∀ store label, Decidable (ok store label)]
    (labels : List (Ctx × ChatOp)) : ∀ store,
    all_meet (fun store label => decide (ok store label)) store labels = true →
    Run (Guarded (Store.Converses service) ok) store labels (conversed labels store) := by
  induction labels with
  | nil => exact fun store _ => .nil store
  | cons label labels ih =>
    intro store hmeet
    obtain ⟨hfirst, hrest⟩ := Bool.and_eq_true_iff.mp hmeet
    exact .cons ⟨of_decide_eq_true hfirst, StoreInner.Reordered.refl _, rfl⟩ (ih _ hrest)

/-- Company A hears from a person. -/
def heard_by_a : Ctx × ChatOp :=
  (ctx 1 "a", .record_whatsapp_message (whatsapp_message_input company_a (text_event "3EB0A0" 1 false)))

/-- Company B hears from the same person. -/
def heard_by_b : Ctx × ChatOp :=
  (ctx 2 "b", .record_whatsapp_message (whatsapp_message_input company_b (text_event "3EB0B0" 2 false)))

/-- Company B hears from somebody else. -/
def heard_elsewhere : Ctx × ChatOp :=
  (ctx 2 "b", .receive_inbound_text "acme" "company_b"
    { channel_id := some "channel_b", conversation_id := none, from_phone_e164 := some "+5521977776666"
      sender_name := none, profile_picture_url := none, text := "oi" })

/-- Company A answers its person. -/
def answered_by_a : Ctx × ChatOp :=
  (ctx 3 "c", .prepare_send_message_with_actor "acme" "company_a" "5511988887777" "key_1" text_request none)

end sample

/-- Both companies hear from the same person: the conversation that company A reads has
counted company B's message. -/
theorem chat_shared_by_companies : ¬ Noninterference sample.service DrawsNewUuid := by
  intro hapart
  have hrun := sample.converses [sample.heard_by_a] sample.set_up
    (by decide : sample.all_meet (fun store label => decide (DrawsNewUuid store label)) _ _ = true)
  have hrun' := sample.converses [sample.heard_by_a, sample.heard_by_b] sample.set_up
    (by decide : sample.all_meet (fun store label => decide (DrawsNewUuid store label)) _ _ = true)
  obtain ⟨hsame, -⟩ := hapart ∅ ∅ "acme" "company_a" _ _ _ _ hrun hrun' rfl
  have hread := congrArg (fun result => (Except.toOption result).map Conversation.last_seq)
    (hsame.conversation "5511988887777@s.whatsapp.net")
  exact absurd hread (by decide)

/-- Two companies that talk to two persons. -/
theorem separate_chats_undisturbed :
    SameChats sample.service "acme" "company_a"
        (sample.conversed [sample.heard_by_a, sample.heard_elsewhere, sample.answered_by_a] sample.set_up).inner
        (sample.conversed [sample.heard_by_a, sample.answered_by_a] sample.set_up).inner ∧
      OwnMessages sample.service (Guarded (Store.Converses sample.service) StaysApart) sample.set_up
        [sample.heard_by_a, sample.heard_elsewhere, sample.answered_by_a]
        (sample.conversed [sample.heard_by_a, sample.heard_elsewhere, sample.answered_by_a] sample.set_up) :=
  tenants_do_not_interfere sample.service
    (sample.converses [sample.heard_by_a, sample.heard_elsewhere, sample.answered_by_a] sample.set_up
      (by decide))
    (sample.converses [sample.heard_by_a, sample.answered_by_a] sample.set_up (by decide)) rfl

end rustzap.state
