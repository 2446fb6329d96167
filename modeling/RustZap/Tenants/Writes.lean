import RustZap.Lib.Views
import RustZap.Consistency.Sequences
import RustZap.Tenants.Contacts

open collections serde_json runs
open rustzap.error rustzap.models

namespace rustzap.models

/-- The tenant that something belongs to: its project and its company. -/
def Conversation.tenant (conversation : Conversation) : String × String :=
  (conversation.project_id, conversation.company_id)

def Message.tenant (message : Message) : String × String :=
  (message.project_id, message.company_id)

def MediaObject.tenant (media : MediaObject) : String × String :=
  (media.project_id, media.company_id)

end rustzap.models

namespace rustzap.state

def ContactRecord.tenant (contact : ContactRecord) : String × String :=
  (contact.project_id, contact.company_id)

/-- Nothing of another tenant is stored under a chat's id: no conversation, and no
contact. -/
structure OwnOrFree (tenant : String × String) (inner : StoreInner) (jid : String) : Prop where
  conversation : ∀ conversation, inner.conversations.lookup jid = some conversation →
    conversation.tenant = tenant
  contact : ∀ contact, inner.contacts.lookup jid = some contact → contact.tenant = tenant

/-- The tenants' conversations are kept apart: a conversation lists messages of its own
tenant only, it is stored under an id that a request can name, and the contacts that
its public fields are taken from are its tenant's. -/
structure Separated (inner : StoreInner) : Prop where
  listed : ∀ jid messages, inner.messages_by_conversation.lookup jid = some messages →
    ∀ message ∈ messages, ∃ conversation, inner.conversations.lookup jid = some conversation ∧
      conversation.tenant = message.tenant
  trimmed : ∀ jid conversation, inner.conversations.lookup jid = some conversation → str.trim jid = jid
  contact : ∀ jid conversation contact_id, inner.conversations.lookup jid = some conversation →
    conversation.contact_id = some contact_id →
    ∃ contact, inner.contacts.lookup contact_id = some contact ∧ contact.tenant = conversation.tenant
  own : ∀ jid conversation contact, inner.conversations.lookup jid = some conversation →
    inner.contacts.lookup jid = some contact → contact.tenant = conversation.tenant
  media : inner.media.Keyed MediaObject.id

/-- What a tenant's operations and reads go through, of two stores: everything of the
tenant's own is the same. -/
structure SameView (tenant : String × String) (inner inner' : StoreInner) : Prop where
  conversations : HashMap.SameFor (fun _ conversation => decide (conversation.tenant = tenant))
    inner.conversations inner'.conversations
  lists : HashMap.SameFor (fun _ messages => messages.any fun message => message.tenant = tenant)
    inner.messages_by_conversation inner'.messages_by_conversation
  messages : HashMap.SameFor (fun _ message => decide (message.tenant = tenant))
    inner.messages_by_id inner'.messages_by_id
  contacts : HashMap.SameFor (fun _ contact => decide (contact.tenant = tenant))
    inner.contacts inner'.contacts
  media : HashMap.SameFor (fun _ media => decide (media.tenant = tenant)) inner.media inner'.media
  idempotency : HashMap.SameFor (fun key _ => decide ((key.1, key.2.1) = tenant))
    inner.idempotency inner'.idempotency
  channels : inner.channels = inner'.channels
  groups : ∀ group_id, inner.groups.lookup group_id = inner'.groups.lookup group_id

/-- The maps of a view, as they are or in another order. The channels are written by
none of the operations that the view is for, so they stay in their order. -/
structure SameMaps (inner inner' : StoreInner) : Prop where
  conversations : inner.conversations.Reordered inner'.conversations
  lists : inner.messages_by_conversation.Reordered inner'.messages_by_conversation
  messages : inner.messages_by_id.Reordered inner'.messages_by_id
  contacts : inner.contacts.Reordered inner'.contacts
  media : inner.media.Reordered inner'.media
  idempotency : inner.idempotency.Reordered inner'.idempotency
  channels : inner.channels = inner'.channels
  groups : inner.groups.Reordered inner'.groups

/-- One write of a tenant's operation into these maps. -/
inductive TenantWrite where
  | aside
  | contact (jid : String) (contact : ContactRecord)
  | conversation (jid : String) (conversation : Conversation)
  | append (message : Message)
  | rewrite (message : Message)
  | media (media : MediaObject)
  | idempotency (key : String) (record : IdempotencyRecord)

def TenantWrite.apply (tenant : String × String) (inner : StoreInner) : TenantWrite → StoreInner
  | .aside => inner
  | .contact jid person => { inner with contacts := inner.contacts.insert jid person }
  | .conversation jid chat => { inner with conversations := inner.conversations.insert jid chat }
  | .append message =>
    { inner with
      messages_by_conversation := inner.messages_by_conversation.insert message.conversation_id
        ((inner.messages_by_conversation.lookup message.conversation_id).getD [] ++ [message])
      messages_by_id := inner.messages_by_id.insert message.id message }
  | .rewrite message => store_message inner message.id message
  | .media object => { inner with media := inner.media.insert object.id object }
  | .idempotency key record =>
    { inner with idempotency := inner.idempotency.insert (tenant.1, tenant.2, key) record }

/-- A conversation of the tenant is stored under the id. -/
def HasConversation (tenant : String × String) (inner : StoreInner) (jid : String) : Prop :=
  ∃ conversation, inner.conversations.lookup jid = some conversation ∧ conversation.tenant = tenant

/-- A write that concerns nobody but the tenant. -/
def TenantWrite.Permitted (tenant : String × String) (inner : StoreInner) : TenantWrite → Prop
  | .aside => True
  | .contact jid person => person.tenant = tenant ∧ OwnOrFree tenant inner jid
  | .conversation jid chat =>
    chat.tenant = tenant ∧ str.trim jid = jid ∧ OwnOrFree tenant inner jid ∧
      ∀ contact_id, chat.contact_id = some contact_id →
        ∃ person, inner.contacts.lookup contact_id = some person ∧ person.tenant = tenant
  | .append message =>
    message.tenant = tenant ∧ HasConversation tenant inner message.conversation_id ∧
      inner.messages_by_id.lookup message.id = none
  | .rewrite message =>
    message.tenant = tenant ∧ HasConversation tenant inner message.conversation_id ∧
      (∀ old, inner.messages_by_id.lookup message.id = some old → old.tenant = tenant) ∧
      ∃ messages, inner.messages_by_conversation.lookup message.conversation_id = some messages
  | .media object =>
    object.tenant = tenant ∧ ∀ old, inner.media.lookup object.id = some old → old.tenant = tenant
  | .idempotency _ _ => True

/-- A step of a tenant's operation. What it does besides writing is no part of the
view. -/
def TenantStep (tenant : String × String) (inner : StoreInner) (write : TenantWrite)
    (inner' : StoreInner) : Prop :=
  write.Permitted tenant inner ∧ SameMaps (write.apply tenant inner) inner'

section SameMaps

variable {tenant : String × String} {inner mid inner' : StoreInner}

theorem SameMaps.of_reordered (h : inner.Reordered mid) (hchannels : inner.channels = mid.channels) :
    SameMaps inner mid :=
  ⟨h.conversations, h.messages_by_conversation, h.messages_by_id, h.contacts, h.media, h.idempotency,
    hchannels, h.groups⟩

theorem SameMaps.refl (inner : StoreInner) : SameMaps inner inner :=
  .of_reordered (.refl inner) rfl

theorem Separated.reordered (h : Separated inner) (hsame : SameMaps inner mid) :
    Separated mid := by
  have hconversations := hsame.conversations.lookup
  have hcontacts := hsame.contacts.lookup
  constructor
  · intro jid messages hmessages
    rw [← hsame.lists.lookup] at hmessages
    simpa only [← hconversations] using h.listed jid messages hmessages
  · intro jid conversation hconversation
    rw [← hconversations] at hconversation
    exact h.trimmed jid conversation hconversation
  · intro jid conversation contact_id hconversation hcontact
    rw [← hconversations] at hconversation
    simpa only [← hcontacts] using h.contact jid conversation contact_id hconversation hcontact
  · intro jid conversation contact hconversation hcontact
    rw [← hconversations] at hconversation
    rw [← hcontacts] at hcontact
    exact h.own jid conversation contact hconversation hcontact
  · intro media_id media hmedia
    rw [← hsame.media.lookup] at hmedia
    exact h.media media_id media hmedia

theorem SameView.refl (tenant : String × String) (inner : StoreInner) : SameView tenant inner inner :=
  ⟨.refl _, .refl _, .refl _, .refl _, .refl _, .refl _, rfl, fun _ => rfl⟩

theorem SameView.symm (h : SameView tenant inner inner') : SameView tenant inner' inner :=
  ⟨h.conversations.symm, h.lists.symm, h.messages.symm, h.contacts.symm, h.media.symm,
    h.idempotency.symm, h.channels.symm, fun group_id => (h.groups group_id).symm⟩

theorem SameView.reordered (h : SameView tenant inner inner') (hsame : SameMaps inner mid) :
    SameView tenant mid inner' where
  conversations := h.conversations.reordered hsame.conversations
  lists := h.lists.reordered hsame.lists
  messages := h.messages.reordered hsame.messages
  contacts := h.contacts.reordered hsame.contacts
  media := h.media.reordered hsame.media
  idempotency := h.idempotency.reordered hsame.idempotency
  channels := hsame.channels.symm.trans h.channels
  groups group_id := (hsame.groups.lookup group_id).symm.trans (h.groups group_id)

theorem OwnOrFree.reordered {jid : String} (h : OwnOrFree tenant inner jid) (hsame : SameMaps inner mid) :
    OwnOrFree tenant mid jid := by
  refine ⟨fun conversation hconversation => ?_, fun contact hcontact => ?_⟩
  · rw [← hsame.conversations.lookup] at hconversation
    exact h.conversation conversation hconversation
  · rw [← hsame.contacts.lookup] at hcontact
    exact h.contact contact hcontact

end SameMaps

theorem mem_of_mem_replace_message {message other : Message} {messages : List Message}
    (h : other ∈ replace_message messages message) : other = message ∨ other ∈ messages := by
  induction messages with
  | nil => cases h
  | cons stored rest ih =>
    rw [replace_message] at h
    split at h
    · rcases List.mem_cons.mp h with rfl | hrest
      · exact Or.inl rfl
      · exact Or.inr (List.mem_cons_of_mem _ hrest)
    · rcases List.mem_cons.mp h with rfl | hrest
      · exact Or.inr List.mem_cons_self
      · rcases ih hrest with heq | hmem
        · exact Or.inl heq
        · exact Or.inr (List.mem_cons_of_mem _ hmem)

section Writes

variable {tenant : String × String} {inner inner' : StoreInner} {write : TenantWrite}

/-- What a rewriting makes of the lists. -/
theorem TenantWrite.rewrite_lists (tenant : String × String) {message : Message} {messages : List Message}
    (hmessages : inner.messages_by_conversation.lookup message.conversation_id = some messages) :
    ((TenantWrite.rewrite message).apply tenant inner).messages_by_conversation =
      inner.messages_by_conversation.insert message.conversation_id (replace_message messages message) := by
  dsimp only [apply, store_message]
  rw [hmessages]

/-- An id that is free for a tenant or its own remains so under the tenant's writes. -/
theorem OwnOrFree.apply {jid : String} (h : OwnOrFree tenant inner jid)
    (hpermitted : write.Permitted tenant inner) : OwnOrFree tenant (write.apply tenant inner) jid := by
  cases write with
  | contact key person =>
    refine ⟨h.conversation, fun contact hcontact => ?_⟩
    dsimp only [TenantWrite.apply] at hcontact
    rw [HashMap.lookup_insert_ite] at hcontact
    split at hcontact
    · cases hcontact
      exact hpermitted.1
    · exact h.contact contact hcontact
  | conversation key chat =>
    refine ⟨fun conversation hconversation => ?_, h.contact⟩
    dsimp only [TenantWrite.apply] at hconversation
    rw [HashMap.lookup_insert_ite] at hconversation
    split at hconversation
    · cases hconversation
      exact hpermitted.1
    · exact h.conversation conversation hconversation
  | aside => exact h
  | append message => exact ⟨h.conversation, h.contact⟩
  | rewrite message => exact ⟨h.conversation, h.contact⟩
  | media object => exact ⟨h.conversation, h.contact⟩
  | idempotency key record => exact ⟨h.conversation, h.contact⟩

/-- A conversation of the tenant lists messages of the tenant. -/
theorem Separated.listed_of_tenant (h : Separated inner) {jid : String}
    (hconversation : HasConversation tenant inner jid) {messages : List Message}
    (hmessages : inner.messages_by_conversation.lookup jid = some messages) :
    ∀ message ∈ messages, message.tenant = tenant := by
  intro message hmem
  obtain ⟨conversation, hlookup, htenant⟩ := hconversation
  obtain ⟨conversation', hlookup', htenant'⟩ := h.listed jid messages hmessages message hmem
  rw [hlookup, Option.some.injEq] at hlookup'
  rw [← htenant', ← hlookup', htenant]

theorem Separated.contact_written (h : Separated inner) {jid : String} {person : ContactRecord}
    (hpermitted : (TenantWrite.contact jid person).Permitted tenant inner) :
    Separated ((TenantWrite.contact jid person).apply tenant inner) := by
  obtain ⟨hperson, hfree⟩ := hpermitted
  refine ⟨h.listed, h.trimmed, ?_, ?_, h.media⟩
  · intro key conversation contact_id hconversation hcontact
    obtain ⟨old, hold, htenant⟩ := h.contact key conversation contact_id hconversation hcontact
    dsimp only [TenantWrite.apply]
    rw [HashMap.lookup_insert_ite]
    split
    · next heq =>
      rw [heq] at hold
      exact ⟨person, rfl, by rw [hperson, ← htenant, hfree.contact old hold]⟩
    · exact ⟨old, hold, htenant⟩
  · intro key conversation contact hconversation hcontact
    dsimp only [TenantWrite.apply] at hconversation hcontact
    rw [HashMap.lookup_insert_ite] at hcontact
    split at hcontact
    · next heq =>
      cases hcontact
      rw [heq] at hconversation
      rw [hperson, hfree.conversation conversation hconversation]
    · exact h.own key conversation contact hconversation hcontact

theorem Separated.conversation_written (h : Separated inner) {jid : String} {chat : Conversation}
    (hpermitted : (TenantWrite.conversation jid chat).Permitted tenant inner) :
    Separated ((TenantWrite.conversation jid chat).apply tenant inner) := by
  obtain ⟨hchat, htrimmed, hfree, hcontact⟩ := hpermitted
  have hlookup : ∀ key, ((TenantWrite.conversation jid chat).apply tenant inner).conversations.lookup key =
      if key = jid then some chat else inner.conversations.lookup key :=
    fun key => HashMap.lookup_insert_ite inner.conversations jid key chat
  refine ⟨?_, ?_, ?_, ?_, h.media⟩
  · intro key messages hmessages message hmem
    obtain ⟨old, hold, htenant⟩ := h.listed key messages hmessages message hmem
    rw [hlookup]
    split
    · next heq =>
      rw [heq] at hold
      exact ⟨chat, rfl, by rw [hchat, ← htenant, hfree.conversation old hold]⟩
    · exact ⟨old, hold, htenant⟩
  · intro key conversation hconversation
    rw [hlookup] at hconversation
    split at hconversation
    · next heq => rw [heq, htrimmed]
    · exact h.trimmed key conversation hconversation
  · intro key conversation contact_id hconversation hid
    rw [hlookup] at hconversation
    split at hconversation
    · cases hconversation
      rw [hchat]
      exact hcontact contact_id hid
    · exact h.contact key conversation contact_id hconversation hid
  · intro key conversation contact hconversation hstored
    rw [hlookup] at hconversation
    split at hconversation
    · next heq =>
      cases hconversation
      rw [heq] at hstored
      rw [hchat, hfree.contact contact hstored]
    · exact h.own key conversation contact hconversation hstored

/-- A list of the tenant's messages is put in place of one. -/
theorem Separated.list_written (h : Separated inner) {jid : String} {messages : List Message}
    (hconversation : HasConversation tenant inner jid)
    (hmessages : ∀ message ∈ messages, message.tenant = tenant)
    (messages_by_id : HashMap String Message) :
    Separated { inner with
      messages_by_conversation := inner.messages_by_conversation.insert jid messages, messages_by_id } := by
  refine ⟨?_, h.trimmed, h.contact, h.own, h.media⟩
  intro key stored hstored message hmem
  dsimp only at hstored ⊢
  rw [HashMap.lookup_insert_ite] at hstored
  split at hstored
  · next heq =>
    cases hstored
    obtain ⟨conversation, hlookup, htenant⟩ := hconversation
    exact ⟨conversation, by rw [heq, hlookup], by rw [htenant, hmessages message hmem]⟩
  · exact h.listed key stored hstored message hmem

/-- The list that a conversation of the tenant gets with one more message. -/
theorem Separated.appended_of_tenant (h : Separated inner) {message : Message}
    (hconversation : HasConversation tenant inner message.conversation_id)
    (hmessage : message.tenant = tenant) :
    ∀ other ∈ (inner.messages_by_conversation.lookup message.conversation_id).getD [] ++ [message],
      other.tenant = tenant := by
  intro other hother
  rcases List.mem_append.mp hother with hold | hnew
  · cases hmessages : inner.messages_by_conversation.lookup message.conversation_id with
    | none =>
      rw [hmessages] at hold
      cases hold
    | some messages =>
      rw [hmessages] at hold
      exact h.listed_of_tenant hconversation hmessages other hold
  · rw [List.mem_singleton.mp hnew, hmessage]

/-- The list that a conversation of the tenant gets with one message replaced. -/
theorem Separated.replaced_of_tenant (h : Separated inner) {message : Message} {messages : List Message}
    (hconversation : HasConversation tenant inner message.conversation_id)
    (hmessages : inner.messages_by_conversation.lookup message.conversation_id = some messages)
    (hmessage : message.tenant = tenant) :
    ∀ other ∈ replace_message messages message, other.tenant = tenant := by
  intro other hother
  rcases mem_of_mem_replace_message hother with rfl | hmem
  · exact hmessage
  · exact h.listed_of_tenant hconversation hmessages other hmem

/-- A tenant's writes keep the tenants apart. -/
theorem Separated.apply (h : Separated inner) (hpermitted : write.Permitted tenant inner) :
    Separated (write.apply tenant inner) := by
  cases write with
  | aside => exact h
  | contact jid person => exact h.contact_written hpermitted
  | conversation jid chat => exact h.conversation_written hpermitted
  | append message =>
    obtain ⟨hmessage, hconversation, -⟩ := hpermitted
    exact h.list_written hconversation (h.appended_of_tenant hconversation hmessage) _
  | rewrite message =>
    obtain ⟨hmessage, hconversation, -, messages, hmessages⟩ := hpermitted
    have hlists := TenantWrite.rewrite_lists tenant hmessages
    have hseparated := h.list_written hconversation
      (h.replaced_of_tenant hconversation hmessages hmessage) (inner.messages_by_id.insert message.id message)
    refine ⟨?_, hseparated.trimmed, hseparated.contact, hseparated.own, hseparated.media⟩
    rw [hlists]
    exact hseparated.listed
  | media object =>
    refine ⟨h.listed, h.trimmed, h.contact, h.own, h.media.insert rfl⟩
  | idempotency key record => exact ⟨h.listed, h.trimmed, h.contact, h.own, h.media⟩

/-- What a tenant writes, another one does not see. -/
theorem SameView.apply_other {other : String × String} (h : SameView other inner inner')
    (hseparated : Separated inner) (hother : tenant ≠ other) (hpermitted : write.Permitted tenant inner) :
    SameView other (write.apply tenant inner) inner' := by
  have hforeign : ∀ owner : String × String, owner = tenant → decide (owner = other) = false :=
    fun owner howner => decide_eq_false (howner ▸ hother)
  have hlist : ∀ messages : List Message, (∀ message ∈ messages, message.tenant = tenant) →
      (messages.any fun message => message.tenant = other) = false := by
    intro messages hmessages
    rw [List.any_eq_false]
    intro message hmem
    rw [hforeign _ (hmessages message hmem)]
    exact Bool.false_ne_true
  cases write with
  | aside => exact h
  | contact jid person =>
    obtain ⟨hperson, hfree⟩ := hpermitted
    exact ⟨h.conversations, h.lists, h.messages,
      h.contacts.insert_other (hforeign _ hperson) fun old hold => hforeign _ (hfree.contact old hold),
      h.media, h.idempotency, h.channels, h.groups⟩
  | conversation jid chat =>
    obtain ⟨hchat, -, hfree, -⟩ := hpermitted
    exact ⟨h.conversations.insert_other (hforeign _ hchat) fun old hold =>
        hforeign _ (hfree.conversation old hold),
      h.lists, h.messages, h.contacts, h.media, h.idempotency, h.channels, h.groups⟩
  | append message =>
    obtain ⟨hmessage, hconversation, hnew⟩ := hpermitted
    refine ⟨h.conversations, ?_, ?_, h.contacts, h.media, h.idempotency, h.channels, h.groups⟩
    · exact h.lists.insert_other (hlist _ (hseparated.appended_of_tenant hconversation hmessage))
        fun old hold => hlist _ (hseparated.listed_of_tenant hconversation hold)
    · exact h.messages.insert_other (hforeign _ hmessage) fun old hold => by
        rw [hnew] at hold
        cases hold
  | rewrite message =>
    obtain ⟨hmessage, hconversation, hold, messages, hmessages⟩ := hpermitted
    refine ⟨h.conversations, ?_, ?_, h.contacts, h.media, h.idempotency, h.channels, h.groups⟩
    · rw [TenantWrite.rewrite_lists tenant hmessages]
      exact h.lists.insert_other
        (hlist _ (hseparated.replaced_of_tenant hconversation hmessages hmessage))
        fun old hold => hlist _ (hseparated.listed_of_tenant hconversation hold)
    · exact h.messages.insert_other (hforeign _ hmessage) fun old hlookup => hforeign _ (hold old hlookup)
  | media object =>
    obtain ⟨hobject, hold⟩ := hpermitted
    exact ⟨h.conversations, h.lists, h.messages, h.contacts,
      h.media.insert_other (hforeign _ hobject) fun old hlookup => hforeign _ (hold old hlookup),
      h.idempotency, h.channels, h.groups⟩
  | idempotency key record =>
    exact ⟨h.conversations, h.lists, h.messages, h.contacts, h.media,
      h.idempotency.insert_other (hforeign _ rfl) fun _ _ => hforeign _ rfl, h.channels, h.groups⟩

/-- The lists of the tenant's conversations are the same. -/
theorem SameView.list_eq (h : SameView tenant inner inner') (hseparated : Separated inner)
    (hseparated' : Separated inner') {jid : String} (hconversation : HasConversation tenant inner jid)
    (hconversation' : HasConversation tenant inner' jid) :
    (inner.messages_by_conversation.lookup jid).getD [] =
      (inner'.messages_by_conversation.lookup jid).getD [] := by
  -- a list without a message of the tenant is empty, as all its messages are the tenant's
  have hseen : ∀ {inner : StoreInner}, Separated inner → HasConversation tenant inner jid →
      ((inner.messages_by_conversation.lookup jid).filter fun messages =>
        messages.any fun message => message.tenant = tenant).getD [] =
      (inner.messages_by_conversation.lookup jid).getD [] := by
    intro inner hseparated hconversation
    cases hmessages : inner.messages_by_conversation.lookup jid with
    | none => rfl
    | some messages =>
      cases messages with
      | nil => rfl
      | cons message rest =>
        rw [Option.filter_some_pos]
        have htenant := hseparated.listed_of_tenant hconversation hmessages message List.mem_cons_self
        simp [htenant]
  rw [← hseen hseparated hconversation, ← hseen hseparated' hconversation', h.lists jid]

/-- What a tenant writes to two stores that it could not tell apart, it cannot tell
apart afterwards. -/
theorem SameView.apply (h : SameView tenant inner inner') (hseparated : Separated inner)
    (hseparated' : Separated inner') (hpermitted : write.Permitted tenant inner)
    (hpermitted' : write.Permitted tenant inner') :
    SameView tenant (write.apply tenant inner) (write.apply tenant inner') := by
  cases write with
  | aside => exact h
  | contact jid person =>
    exact ⟨h.conversations, h.lists, h.messages, h.contacts.insert _ _, h.media, h.idempotency, h.channels,
      h.groups⟩
  | conversation jid chat =>
    exact ⟨h.conversations.insert _ _, h.lists, h.messages, h.contacts, h.media, h.idempotency, h.channels,
      h.groups⟩
  | append message =>
    refine ⟨h.conversations, ?_, h.messages.insert _ _, h.contacts, h.media, h.idempotency, h.channels,
      h.groups⟩
    dsimp only [TenantWrite.apply]
    rw [h.list_eq hseparated hseparated' hpermitted.2.1 hpermitted'.2.1]
    exact h.lists.insert _ _
  | rewrite message =>
    obtain ⟨-, hconversation, -, messages, hmessages⟩ := hpermitted
    obtain ⟨-, hconversation', -, messages', hmessages'⟩ := hpermitted'
    have hlist := h.list_eq hseparated hseparated' hconversation hconversation'
    rw [hmessages, hmessages', Option.getD_some, Option.getD_some] at hlist
    refine ⟨h.conversations, ?_, h.messages.insert _ _, h.contacts, h.media, h.idempotency, h.channels,
      h.groups⟩
    rw [TenantWrite.rewrite_lists tenant hmessages, TenantWrite.rewrite_lists tenant hmessages', hlist]
    exact h.lists.insert _ _
  | media object =>
    exact ⟨h.conversations, h.lists, h.messages, h.contacts, h.media.insert _ _, h.idempotency, h.channels,
      h.groups⟩
  | idempotency key record =>
    exact ⟨h.conversations, h.lists, h.messages, h.contacts, h.media, h.idempotency.insert _ _, h.channels,
      h.groups⟩

end Writes

/-- Two stores that a tenant cannot tell apart, both with their tenants kept apart. -/
structure Indistinct (tenant : String × String) (inner inner' : StoreInner) : Prop where
  view : SameView tenant inner inner'
  separated : Separated inner
  separated' : Separated inner'

section Indistinct

variable {tenant : String × String} {inner mid inner' mid' : StoreInner}

theorem Indistinct.symm (h : Indistinct tenant inner inner') : Indistinct tenant inner' inner :=
  ⟨h.view.symm, h.separated', h.separated⟩

theorem Indistinct.reordered (h : Indistinct tenant inner inner') (hsame : SameMaps inner mid) :
    Indistinct tenant mid inner' :=
  ⟨h.view.reordered hsame, h.separated.reordered hsame, h.separated'⟩

theorem Indistinct.step {write : TenantWrite} (h : Indistinct tenant inner inner')
    (hstep : TenantStep tenant inner write mid) (hstep' : TenantStep tenant inner' write mid') :
    Indistinct tenant mid mid' := by
  have happlied : Indistinct tenant (write.apply tenant inner) (write.apply tenant inner') :=
    ⟨h.view.apply h.separated h.separated' hstep.1 hstep'.1, h.separated.apply hstep.1,
      h.separated'.apply hstep'.1⟩
  exact ((happlied.reordered hstep.2).symm.reordered hstep'.2).symm

/-- Two runs of the same writes. -/
theorem Indistinct.run {writes : List TenantWrite} (h : Indistinct tenant inner inner')
    (hrun : Run (TenantStep tenant) inner writes mid) (hrun' : Run (TenantStep tenant) inner' writes mid') :
    Indistinct tenant mid mid' := by
  have hsymm : ∀ s s', Indistinct tenant s s' → Indistinct tenant s' s := fun _ _ => Indistinct.symm
  refine Run.unwinding (fun _ => True) hsymm ?_ ?_ hrun hrun' rfl h
  · exact fun _ _ _ _ hnot => absurd trivial hnot
  · exact fun _ _ _ _ _ _ hrel hstep hstep' => hrel.step hstep hstep'

/-- The writes of another tenant, on one side only. -/
theorem Indistinct.run_other {other : String × String} {writes : List TenantWrite}
    (h : Indistinct other inner inner') (hother : tenant ≠ other)
    (hrun : Run (TenantStep tenant) inner writes mid) : Indistinct other mid inner' := by
  have hwrite : ∀ s write t, Indistinct other s inner' → TenantStep tenant s write t →
      Indistinct other t inner' := by
    intro s write t hrel hstep
    have happlied : Indistinct other (write.apply tenant s) inner' :=
      ⟨hrel.view.apply_other hrel.separated hother hstep.1, hrel.separated.apply hstep.1, hrel.separated'⟩
    exact happlied.reordered hstep.2
  exact hrun.invariant hwrite h

theorem OwnOrFree.run {jid : String} {writes : List TenantWrite} (h : OwnOrFree tenant inner jid)
    (hrun : Run (TenantStep tenant) inner writes mid) : OwnOrFree tenant mid jid := by
  have hwrite : ∀ s write t, OwnOrFree tenant s jid → TenantStep tenant s write t →
      OwnOrFree tenant t jid := fun _ _ _ hfree hstep => (hfree.apply hstep.1).reordered hstep.2
  exact hrun.invariant hwrite h

/-- Neither store has anything of another tenant under the id. -/
structure BothFree (tenant : String × String) (inner inner' : StoreInner) (jid : String) : Prop where
  left : OwnOrFree tenant inner jid
  right : OwnOrFree tenant inner' jid

theorem Indistinct.contact_eq (h : Indistinct tenant inner inner') {jid : String}
    (hfree : BothFree tenant inner inner' jid) : inner.contacts.lookup jid = inner'.contacts.lookup jid :=
  h.view.contacts.lookup_eq (fun contact hcontact => decide_eq_true (hfree.left.contact contact hcontact))
    fun contact hcontact => decide_eq_true (hfree.right.contact contact hcontact)

theorem Indistinct.conversation_eq (h : Indistinct tenant inner inner') {jid : String}
    (hfree : BothFree tenant inner inner' jid) :
    inner.conversations.lookup jid = inner'.conversations.lookup jid :=
  h.view.conversations.lookup_eq
    (fun conversation hlookup => decide_eq_true (hfree.left.conversation conversation hlookup))
    fun conversation hlookup => decide_eq_true (hfree.right.conversation conversation hlookup)

/-- The same writes of a tenant lead from two stores to two others. -/
def WritesAlike (tenant : String × String) (inner mid inner' mid' : StoreInner) : Prop :=
  ∃ writes, Run (TenantStep tenant) inner writes mid ∧ Run (TenantStep tenant) inner' writes mid'

theorem WritesAlike.refl (inner inner' : StoreInner) : WritesAlike tenant inner inner inner' inner' :=
  ⟨[], .nil _, .nil _⟩

theorem WritesAlike.trans {last last' : StoreInner} (h : WritesAlike tenant inner mid inner' mid')
    (hnext : WritesAlike tenant mid last mid' last') : WritesAlike tenant inner last inner' last' := by
  obtain ⟨writes, hrun, hrun'⟩ := h
  obtain ⟨writes', hnext, hnext'⟩ := hnext
  exact ⟨writes ++ writes', hrun.append hnext, hrun'.append hnext'⟩

theorem WritesAlike.single (write : TenantWrite) (hstep : TenantStep tenant inner write mid)
    (hstep' : TenantStep tenant inner' write mid') : WritesAlike tenant inner mid inner' mid' :=
  ⟨[write], .cons hstep (.nil _), .cons hstep' (.nil _)⟩

/-- What is no part of the view may change on both sides. -/
theorem WritesAlike.aside (hsame : SameMaps inner mid) (hsame' : SameMaps inner' mid') :
    WritesAlike tenant inner mid inner' mid' :=
  .single .aside ⟨trivial, hsame⟩ ⟨trivial, hsame'⟩

theorem WritesAlike.indistinct (h : WritesAlike tenant inner mid inner' mid')
    (hrel : Indistinct tenant inner inner') : Indistinct tenant mid mid' := by
  obtain ⟨writes, hrun, hrun'⟩ := h
  exact hrel.run hrun hrun'

theorem WritesAlike.both_free (h : WritesAlike tenant inner mid inner' mid') {jid : String}
    (hfree : BothFree tenant inner inner' jid) : BothFree tenant mid mid' jid := by
  obtain ⟨writes, hrun, hrun'⟩ := h
  exact ⟨hfree.left.run hrun, hfree.right.run hrun'⟩

end Indistinct

end rustzap.state
