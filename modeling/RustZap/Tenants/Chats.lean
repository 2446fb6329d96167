import RustZap.Tenants.Writes

open collections serde_json runs
open rustzap.error rustzap.eventbus rustzap.media rustzap.models

namespace rustzap.state

section People

variable {tenant : String × String} {inner inner' : StoreInner}

theorem ContactRecord.tenant_of_matches {contact : ContactRecord} {project_id company_id : String}
    (h : contact.matches_tenant project_id company_id = true) : contact.tenant = (project_id, company_id) := by
  obtain ⟨hproject, hcompany⟩ := ContactRecord.matches_tenant_eq_true_iff.mp h
  rw [ContactRecord.tenant, hproject, hcompany]

/-- A tenant that upserts a contact of its own reads and writes the same record in
stores that it cannot tell apart. -/
theorem upsert_contact_inner_alike (hrel : Indistinct tenant inner inner') (input : ContactUpsertInput)
    (htenant : (input.project_id, input.company_id) = tenant)
    (hfree : BothFree tenant inner inner' input.contact_id) :
    (upsert_contact_inner inner input).1 = (upsert_contact_inner inner' input).1 ∧
      WritesAlike tenant inner (upsert_contact_inner inner input).2 inner'
        (upsert_contact_inner inner' input).2 := by
  have hentry : (upsert_contact_inner inner input).1 = (upsert_contact_inner inner' input).1 := by
    unfold upsert_contact_inner
    rw [hrel.contact_eq hfree]
  have howner : (upsert_contact_inner inner input).1.tenant = tenant :=
    (ContactRecord.tenant_of_matches (input.apply_owner _)).trans htenant
  have hwritten : ∀ inner : StoreInner, (upsert_contact_inner inner input).2 =
    { inner with contacts := inner.contacts.insert input.contact_id (upsert_contact_inner inner input).1 } :=
    fun _ => rfl
  refine ⟨hentry, .single (.contact input.contact_id (upsert_contact_inner inner input).1) ?_ ?_⟩
  · exact ⟨⟨howner, hfree.left⟩, SameMaps.refl _⟩
  · rw [hwritten inner', ← hentry]
    exact ⟨⟨howner, hfree.right⟩, SameMaps.refl _⟩

/-- The copies of a record under other ids. -/
theorem aliases_written_alike {enriched : ContactRecord} (howner : enriched.tenant = tenant)
    (aliases : List String) : ∀ inner inner' : StoreInner,
    (∀ jid ∈ aliases, BothFree tenant inner inner' jid) →
    WritesAlike tenant inner { inner with
        contacts := aliases.foldl (fun contacts jid => contacts.insert jid { enriched with id := jid })
          inner.contacts }
      inner' { inner' with
        contacts := aliases.foldl (fun contacts jid => contacts.insert jid { enriched with id := jid })
          inner'.contacts } := by
  induction aliases with
  | nil => exact fun inner inner' _ => .refl inner inner'
  | cons jid aliases ih =>
    intro inner inner' hfree
    have hfirst := hfree jid List.mem_cons_self
    have hwrite : WritesAlike tenant inner
        { inner with contacts := inner.contacts.insert jid { enriched with id := jid } } inner'
        { inner' with contacts := inner'.contacts.insert jid { enriched with id := jid } } :=
      .single (.contact jid { enriched with id := jid }) ⟨⟨howner, hfirst.left⟩, SameMaps.refl _⟩
        ⟨⟨howner, hfirst.right⟩, SameMaps.refl _⟩
    refine hwrite.trans (ih _ _ fun other hother => ?_)
    exact hwrite.both_free (hfree other (List.mem_cons_of_mem _ hother))

theorem enrich_contact_inner_alike (hrel : Indistinct tenant inner inner') (input : ContactEnrichmentInput)
    (htenant : (input.project_id, input.company_id) = tenant)
    (hfree : ∀ key ∈ input.keys, BothFree tenant inner inner' key) :
    (enrich_contact_inner inner input).1 = (enrich_contact_inner inner' input).1 ∧
      WritesAlike tenant inner (enrich_contact_inner inner input).2 inner'
        (enrich_contact_inner inner' input).2 := by
  have hfirst := hfree input.contact_id List.mem_cons_self
  obtain ⟨hentry, hupserted⟩ := upsert_contact_inner_alike hrel input.upsert htenant hfirst
  have hresult : ∀ inner : StoreInner, (enrich_contact_inner inner input).1 =
    input.apply (upsert_contact_inner inner input.upsert).1 := fun _ => rfl
  have henriched : (enrich_contact_inner inner input).1 = (enrich_contact_inner inner' input).1 := by
    rw [hresult, hresult, hentry]
  have howner : (enrich_contact_inner inner input).1.tenant = tenant := by
    have hmatches := (input.apply_owner (upsert_contact_inner inner input.upsert).1 input.project_id
      input.company_id).trans (input.upsert.apply_owner _)
    exact (ContactRecord.tenant_of_matches hmatches).trans htenant
  refine ⟨henriched, hupserted.trans ?_⟩
  -- the enriched record, once under the contact's id and then under its aliases
  have hwritten : ∀ inner : StoreInner, (enrich_contact_inner inner input).2 =
    { (upsert_contact_inner inner input.upsert).2 with
      contacts := input.aliases.foldl
        (fun contacts jid => contacts.insert jid { (enrich_contact_inner inner input).1 with id := jid })
        ((upsert_contact_inner inner input.upsert).2.contacts.insert input.contact_id
          (enrich_contact_inner inner input).1) } := fun _ => rfl
  rw [hwritten inner, hwritten inner', ← henriched]
  have hagain := hupserted.both_free hfirst
  have hrecord : WritesAlike tenant (upsert_contact_inner inner input.upsert).2
      { (upsert_contact_inner inner input.upsert).2 with
        contacts := (upsert_contact_inner inner input.upsert).2.contacts.insert input.contact_id
          (enrich_contact_inner inner input).1 }
      (upsert_contact_inner inner' input.upsert).2
      { (upsert_contact_inner inner' input.upsert).2 with
        contacts := (upsert_contact_inner inner' input.upsert).2.contacts.insert input.contact_id
          (enrich_contact_inner inner input).1 } :=
    .single (.contact input.contact_id (enrich_contact_inner inner input).1)
      ⟨⟨howner, hagain.left⟩, SameMaps.refl _⟩ ⟨⟨howner, hagain.right⟩, SameMaps.refl _⟩
  refine hrecord.trans (aliases_written_alike howner input.aliases _ _ fun jid hjid => ?_)
  exact hrecord.both_free (hupserted.both_free (hfree jid (List.mem_cons_of_mem _ hjid)))

theorem upsert_contact_with_alt_inner_alike (hrel : Indistinct tenant inner inner')
    (input : ContactUpsertWithAltInput)
    (htenant : (input.contact.project_id, input.contact.company_id) = tenant)
    (hfree : ∀ key ∈ input.keys, BothFree tenant inner inner' key) :
    (upsert_contact_with_alt_inner inner input).1 = (upsert_contact_with_alt_inner inner' input).1 ∧
      WritesAlike tenant inner (upsert_contact_with_alt_inner inner input).2 inner'
        (upsert_contact_with_alt_inner inner' input).2 := by
  unfold upsert_contact_with_alt_inner
  unfold ContactUpsertWithAltInput.keys at hfree
  cases hprofile : contact_profile_from_alt input.contact.contact_id input.alt_jid with
  | none =>
    rw [hprofile] at hfree
    exact upsert_contact_inner_alike hrel input.contact htenant (hfree _ List.mem_cons_self)
  | some profile =>
    rw [hprofile] at hfree
    exact enrich_contact_inner_alike hrel (input.enrichment profile) htenant hfree

/-- Group members are no part of a view. -/
theorem upsert_group_member_inner_same_maps (inner : StoreInner)
    (group_id contact_id display_name : String) (now : OffsetDateTime) :
    SameMaps inner (upsert_group_member_inner inner group_id contact_id display_name now) :=
  ⟨.refl _, .refl _, .refl _, .refl _, .refl _, .refl _, rfl, .refl _⟩

theorem RecordMessageInput.people_alike (hrel : Indistinct tenant inner inner') (input : RecordMessageInput)
    (now : OffsetDateTime) (htenant : (input.project_id, input.company_id) = tenant)
    (hfree : ∀ key ∈ input.contact_id.toList, BothFree tenant inner inner' key) :
    (input.people now inner).1 = (input.people now inner').1 ∧
      WritesAlike tenant inner (input.people now inner).2 inner' (input.people now inner').2 := by
  unfold RecordMessageInput.people
  cases hcontact : input.contact_id with
  | none =>
    dsimp only
    cases is_group_jid input.conversation_id <;> cases input.sender_contact_id
    · exact ⟨rfl, .refl _ _⟩
    · exact ⟨rfl, .refl _ _⟩
    · exact ⟨rfl, .refl _ _⟩
    · exact ⟨rfl, .aside (upsert_group_member_inner_same_maps ..) (upsert_group_member_inner_same_maps ..)⟩
  | some contact_id =>
    have hown := hfree contact_id (by rw [hcontact]; exact List.mem_singleton_self _)
    obtain ⟨hentry, hwrites⟩ := upsert_contact_inner_alike hrel
      { project_id := input.project_id, company_id := input.company_id, channel_id := some input.channel_id,
        contact_id, push_name := input.sender_display_name,
        profile_picture_url := input.sender_profile_picture_url, now } htenant hown
    dsimp only
    cases is_group_jid input.conversation_id <;> cases input.sender_contact_id
    · exact ⟨congrArg some hentry, hwrites⟩
    · exact ⟨congrArg some hentry, hwrites⟩
    · exact ⟨congrArg some hentry, hwrites⟩
    · exact ⟨congrArg some hentry, hwrites.trans
        (.aside (upsert_group_member_inner_same_maps ..) (upsert_group_member_inner_same_maps ..))⟩

theorem WhatsappMessageInput.upsert_contact_alike (hrel : Indistinct tenant inner inner')
    (input : WhatsappMessageInput) (now : OffsetDateTime)
    (htenant : (input.project_id, input.company_id) = tenant) (contact_id push_name alt_jid : Option String)
    (hfree : ∀ key ∈ contact_id.toList.flatMap fun contact_id =>
      (input.upsert_input now push_name alt_jid contact_id).keys, BothFree tenant inner inner' key) :
    (input.upsert_contact now inner contact_id push_name alt_jid).1 =
        (input.upsert_contact now inner' contact_id push_name alt_jid).1 ∧
      WritesAlike tenant inner (input.upsert_contact now inner contact_id push_name alt_jid).2 inner'
        (input.upsert_contact now inner' contact_id push_name alt_jid).2 := by
  cases contact_id with
  | none => exact ⟨rfl, .refl _ _⟩
  | some contact_id =>
    rw [Option.toList_some, List.flatMap_singleton] at hfree
    obtain ⟨hentry, hwrites⟩ := upsert_contact_with_alt_inner_alike hrel
      (input.upsert_input now push_name alt_jid contact_id) htenant hfree
    exact ⟨congrArg some hentry, hwrites⟩

theorem WhatsappMessageInput.people_alike (hrel : Indistinct tenant inner inner')
    (input : WhatsappMessageInput) (now : OffsetDateTime)
    (htenant : (input.project_id, input.company_id) = tenant)
    (hfree : ∀ key ∈ input.keys now, BothFree tenant inner inner' key) :
    (input.people now inner).contact = (input.people now inner').contact ∧
      (input.people now inner).sender_contact = (input.people now inner').sender_contact ∧
      WritesAlike tenant inner (input.people now inner).inner inner' (input.people now inner').inner := by
  obtain ⟨hcontact, hwrites⟩ := input.upsert_contact_alike hrel now htenant input.contact_key
    input.contact_name input.contact_alt_jid fun key hkey => hfree key (List.mem_append_left _ hkey)
  obtain ⟨hsender, hwrites'⟩ := input.upsert_contact_alike (hwrites.indistinct hrel) now htenant
    (if input.is_inbound_group then input.sender_contact_id else none) input.sender_name
    input.sender_alt_jid fun key hkey => hwrites.both_free (hfree key (List.mem_append_right _ hkey))
  refine ⟨hcontact, hsender, (hwrites.trans hwrites').trans ?_⟩
  unfold WhatsappMessageInput.people
  dsimp only
  cases is_group_jid input.conversation_id <;> cases input.sender_contact_id
  · exact .refl _ _
  · exact .refl _ _
  · exact .refl _ _
  · exact .aside (upsert_group_member_inner_same_maps ..) (upsert_group_member_inner_same_maps ..)

end People

section Record

variable {tenant : String × String} {inner mid inner' mid' : StoreInner}

theorem Counted.tenant_eq {stored : Option Conversation} {message : Message} {chat : Conversation}
    (h : Counted stored message chat) : chat.tenant = stored.elim message.tenant Conversation.tenant := by
  rw [Conversation.tenant, h.project_id, h.company_id]
  cases stored <;> rfl

/-- A tenant may write a conversation that is the stored one or a new one of its own,
with the contact that is stored or has been upserted. -/
theorem conversation_permitted {jid : String} {chat : Conversation} {contact_id : Option String}
    (howner : chat.tenant = (mid.conversations.lookup jid).elim tenant Conversation.tenant)
    (hseparated : Separated mid) (htrimmed : str.trim jid = jid) (hfree : OwnOrFree tenant mid jid)
    (hid : ∀ id, chat.contact_id = some id →
      (mid.conversations.lookup jid).elim contact_id Conversation.contact_id = some id)
    (hcontact : ∀ id, contact_id = some id →
      ∃ contact, mid.contacts.lookup id = some contact ∧ contact.tenant = tenant) :
    (TenantWrite.conversation jid chat).Permitted tenant mid := by
  cases hstored : mid.conversations.lookup jid with
  | none =>
    rw [hstored] at howner hid
    exact ⟨howner, htrimmed, hfree, fun id heq => hcontact id (hid id heq)⟩
  | some stored =>
    rw [hstored] at howner hid
    have htenant := hfree.conversation stored hstored
    refine ⟨howner.trans htenant, htrimmed, hfree, fun id heq => ?_⟩
    rw [← htenant]
    exact hseparated.contact jid stored id hstored (hid id heq)

/-- The end of both recorders. -/
theorem append_message_alike (ctx : Ctx) (message : Message) {chat : Conversation} (event_type : String)
    (payload : Value) (hmessage : message.tenant = tenant)
    (hpermitted : (TenantWrite.conversation message.conversation_id chat).Permitted tenant mid)
    (hpermitted' : (TenantWrite.conversation message.conversation_id chat).Permitted tenant mid')
    (hnew : mid.messages_by_id.lookup message.id = none)
    (hnew' : mid'.messages_by_id.lookup message.id = none) :
    WritesAlike tenant mid
      (append_message ctx
        { mid with conversations := mid.conversations.insert message.conversation_id chat } message event_type
        payload)
      mid'
      (append_message ctx
        { mid' with conversations := mid'.conversations.insert message.conversation_id chat } message event_type
        payload) := by
  have hchat : WritesAlike tenant mid
      { mid with conversations := mid.conversations.insert message.conversation_id chat } mid'
      { mid' with conversations := mid'.conversations.insert message.conversation_id chat } :=
    .single (.conversation message.conversation_id chat) ⟨hpermitted, SameMaps.refl _⟩
      ⟨hpermitted', SameMaps.refl _⟩
  have hstored : ∀ conversations : HashMap String Conversation,
      AList.lookup message.conversation_id (conversations.insert message.conversation_id chat) = some chat :=
    fun conversations => AList.lookup_insert conversations
  have hsame : ∀ inner : StoreInner, SameMaps ((TenantWrite.append message).apply tenant inner)
      (append_message ctx inner message event_type payload) :=
    fun _ => ⟨.refl _, .refl _, .refl _, .refl _, .refl _, .refl _, rfl, .refl _⟩
  refine hchat.trans (.single (.append message) ⟨?_, hsame _⟩ ⟨?_, hsame _⟩)
  · exact ⟨hmessage, ⟨chat, hstored _, hpermitted.1⟩, hnew⟩
  · exact ⟨hmessage, ⟨chat, hstored _, hpermitted.1⟩, hnew'⟩

theorem RecordMessageInput.conversation_eq (input : RecordMessageInput) (now : OffsetDateTime)
    (hcontact : (input.people now inner).1 = (input.people now inner').1)
    (hstored : inner.conversations.lookup input.conversation_id =
      inner'.conversations.lookup input.conversation_id)
    (hgroups : ∀ group_id, inner.groups.lookup group_id = inner'.groups.lookup group_id) :
    input.conversation now inner = input.conversation now inner' := by
  obtain ⟨contacts, group_members, hpeople⟩ := input.people_frame now inner
  obtain ⟨contacts', group_members', hpeople'⟩ := input.people_frame now inner'
  simp only [RecordMessageInput.conversation, group_record_for, hcontact, hpeople, hpeople', hstored, hgroups]

/-- A conversation keeps the contact it has; a new one has the message's. -/
theorem RecordMessageInput.conversation_contact_id (input : RecordMessageInput) (now : OffsetDateTime)
    (inner : StoreInner) (id : String) (h : (input.conversation now inner).contact_id = some id) :
    (inner.conversations.lookup input.conversation_id).elim input.contact_id Conversation.contact_id =
      some id := by
  obtain ⟨contacts, group_members, hpeople⟩ := input.people_frame now inner
  simp only [RecordMessageInput.conversation, count_message, RecordMessageInput.refresh, hpeople] at h
  cases hgroup : is_group_jid input.conversation_id with
  | true =>
    rw [hgroup] at h
    cases h
  | false =>
    rw [hgroup] at h
    cases hstored : inner.conversations.lookup input.conversation_id with
    | none =>
      rw [hstored] at h
      simpa [RecordMessageInput.new_conversation, state.new_conversation, hgroup] using h
    | some stored =>
      rw [hstored] at h
      exact h

theorem RecordMessageInput.conversation_write_permitted (input : RecordMessageInput) (ctx : Ctx)
    (htenant : (input.project_id, input.company_id) = tenant)
    (hseparated : Separated (input.people ctx.now inner).2)
    (htrimmed : str.trim input.conversation_id = input.conversation_id)
    (hfree : OwnOrFree tenant (input.people ctx.now inner).2 input.conversation_id) :
    (TenantWrite.conversation input.conversation_id (input.conversation ctx.now inner)).Permitted tenant
      (input.people ctx.now inner).2 := by
  obtain ⟨contacts, group_members, hframe⟩ := input.people_frame ctx.now inner
  have hconversations : (input.people ctx.now inner).2.conversations = inner.conversations := by rw [hframe]
  have howner : (input.conversation ctx.now inner).tenant =
      (inner.conversations.lookup input.conversation_id).elim (input.project_id, input.company_id)
        Conversation.tenant := (input.conversation_counted ctx inner none).tenant_eq
  have hid := input.conversation_contact_id ctx.now inner
  rw [← hconversations] at howner hid
  rw [htenant] at howner
  refine conversation_permitted howner hseparated htrimmed hfree hid fun id heq => ?_
  have hmem : id ∈ input.contact_id.toList := by rw [heq]; exact List.mem_singleton_self _
  obtain ⟨contact, hlookup, hmatches⟩ := (input.people_claimed inner ctx.now).mem hmem
  exact ⟨contact, hlookup, (ContactRecord.tenant_of_matches hmatches).trans htenant⟩

/-- A message recorded in a chat that is the tenant's, in stores that the tenant cannot
tell apart. -/
theorem record_message_inner_alike (hrel : Indistinct tenant inner inner') (ctx : Ctx)
    (input : RecordMessageInput) (htenant : (input.project_id, input.company_id) = tenant)
    (htrimmed : str.trim input.conversation_id = input.conversation_id)
    (hchat : BothFree tenant inner inner' input.conversation_id)
    (hpeople : ∀ key ∈ input.contact_id.toList, BothFree tenant inner inner' key)
    (hnew : inner.messages_by_id.lookup ("msg_" ++ ctx.uuid 0) = none)
    (hnew' : inner'.messages_by_id.lookup ("msg_" ++ ctx.uuid 0) = none) :
    (record_message_inner ctx inner input).1 = (record_message_inner ctx inner' input).1 ∧
      WritesAlike tenant inner (record_message_inner ctx inner input).2 inner'
        (record_message_inner ctx inner' input).2 := by
  obtain ⟨hcontact, hwrites⟩ := input.people_alike hrel ctx.now htenant hpeople
  have hrel' := hwrites.indistinct hrel
  have hchat' := hwrites.both_free hchat
  have hconversation := input.conversation_eq ctx.now hcontact (hrel.conversation_eq hchat) hrel.view.groups
  have hmessage : (record_message_inner ctx inner input).1 = (record_message_inner ctx inner' input).1 := by
    simp only [record_message_inner, hcontact, hconversation]
  have hfirst := input.conversation_write_permitted ctx htenant hrel'.separated htrimmed hchat'.left
  have hsecond := input.conversation_write_permitted ctx htenant hrel'.separated' htrimmed hchat'.right
  rw [← hconversation] at hsecond
  refine ⟨hmessage, hwrites.trans ?_⟩
  obtain ⟨contacts, group_members, hframe⟩ := input.people_frame ctx.now inner
  obtain ⟨contacts', group_members', hframe'⟩ := input.people_frame ctx.now inner'
  have hfresh : (input.people ctx.now inner).2.messages_by_id.lookup ("msg_" ++ ctx.uuid 0) = none := by
    rw [hframe]
    exact hnew
  have hfresh' : (input.people ctx.now inner').2.messages_by_id.lookup ("msg_" ++ ctx.uuid 0) = none := by
    rw [hframe']
    exact hnew'
  unfold record_message_inner
  dsimp only
  rw [← hconversation, ← hcontact]
  exact append_message_alike ctx (input.message ctx (input.people ctx.now inner).1
    (input.conversation ctx.now inner).last_seq) _ _ htenant hfirst hsecond hfresh hfresh'

theorem WhatsappMessageInput.conversation_eq (input : WhatsappMessageInput) (now : OffsetDateTime)
    (hcontact : (input.people now inner).contact = (input.people now inner').contact)
    (hstored : inner.conversations.lookup input.conversation_id =
      inner'.conversations.lookup input.conversation_id)
    (hgroups : ∀ group_id, inner.groups.lookup group_id = inner'.groups.lookup group_id) :
    input.conversation now inner = input.conversation now inner' := by
  obtain ⟨contacts, group_members, hpeople⟩ := input.people_frame now inner
  obtain ⟨contacts', group_members', hpeople'⟩ := input.people_frame now inner'
  simp only [WhatsappMessageInput.conversation, group_record_for, hcontact, hpeople, hpeople', hstored, hgroups]

theorem WhatsappMessageInput.conversation_contact_id (input : WhatsappMessageInput) (now : OffsetDateTime)
    (inner : StoreInner) (id : String) (h : (input.conversation now inner).contact_id = some id) :
    (inner.conversations.lookup input.conversation_id).elim input.contact_key Conversation.contact_id =
      some id := by
  obtain ⟨contacts, group_members, hpeople⟩ := input.people_frame now inner
  simp only [WhatsappMessageInput.conversation, count_message, WhatsappMessageInput.refresh, hpeople] at h
  cases hgroup : is_group_jid input.conversation_id with
  | true =>
    rw [hgroup] at h
    cases h
  | false =>
    rw [hgroup] at h
    cases hstored : inner.conversations.lookup input.conversation_id with
    | none =>
      rw [hstored] at h
      simpa [WhatsappMessageInput.new_conversation, state.new_conversation, hgroup] using h
    | some stored =>
      rw [hstored] at h
      exact h

theorem ContactUpsertWithAltInput.contact_id_mem_keys (input : ContactUpsertWithAltInput) :
    input.contact.contact_id ∈ input.keys := by
  unfold ContactUpsertWithAltInput.keys
  split
  · exact List.mem_cons_self
  · exact List.mem_singleton_self _

theorem WhatsappMessageInput.conversation_write_permitted (input : WhatsappMessageInput) (ctx : Ctx)
    (htenant : (input.project_id, input.company_id) = tenant)
    (hseparated : Separated (input.people ctx.now inner).inner)
    (htrimmed : str.trim input.conversation_id = input.conversation_id)
    (hfree : OwnOrFree tenant (input.people ctx.now inner).inner input.conversation_id) :
    (TenantWrite.conversation input.conversation_id (input.conversation ctx.now inner)).Permitted tenant
      (input.people ctx.now inner).inner := by
  obtain ⟨contacts, group_members, hframe⟩ := input.people_frame ctx.now inner
  have hconversations : (input.people ctx.now inner).inner.conversations = inner.conversations := by
    rw [hframe]
  have howner : (input.conversation ctx.now inner).tenant =
      (inner.conversations.lookup input.conversation_id).elim (input.project_id, input.company_id)
        Conversation.tenant :=
    (input.conversation_counted ctx inner (input.people ctx.now inner)).tenant_eq
  have hid := input.conversation_contact_id ctx.now inner
  rw [← hconversations] at howner hid
  rw [htenant] at howner
  refine conversation_permitted howner hseparated htrimmed hfree hid fun id heq => ?_
  have hmem : id ∈ input.keys ctx.now := by
    rw [WhatsappMessageInput.keys, heq, Option.toList_some, List.flatMap_singleton]
    exact List.mem_append_left _ (ContactUpsertWithAltInput.contact_id_mem_keys _)
  obtain ⟨contact, hlookup, hmatches⟩ := (input.people_claimed inner ctx.now).mem hmem
  exact ⟨contact, hlookup, (ContactRecord.tenant_of_matches hmatches).trans htenant⟩

theorem WhatsappMessageInput.record_alike (hrel : Indistinct tenant inner inner') (ctx : Ctx)
    (input : WhatsappMessageInput) (htenant : (input.project_id, input.company_id) = tenant)
    (htrimmed : str.trim input.conversation_id = input.conversation_id)
    (hchat : BothFree tenant inner inner' input.conversation_id)
    (hpeople : ∀ key ∈ input.keys ctx.now, BothFree tenant inner inner' key)
    (hnew : inner.messages_by_id.lookup ("msg_" ++ ctx.uuid 0) = none)
    (hnew' : inner'.messages_by_id.lookup ("msg_" ++ ctx.uuid 0) = none) :
    WritesAlike tenant inner (input.record ctx inner).2 inner' (input.record ctx inner').2 := by
  obtain ⟨hcontact, hsender, hwrites⟩ := input.people_alike hrel ctx.now htenant hpeople
  have hrel' := hwrites.indistinct hrel
  have hchat' := hwrites.both_free hchat
  have hconversation := input.conversation_eq ctx.now hcontact (hrel.conversation_eq hchat) hrel.view.groups
  have hmessage : ∀ seq, input.message ctx (input.people ctx.now inner) seq =
      input.message ctx (input.people ctx.now inner') seq := by
    intro seq
    simp only [WhatsappMessageInput.message, hcontact, hsender]
  have hfirst := input.conversation_write_permitted ctx htenant hrel'.separated htrimmed hchat'.left
  have hsecond := input.conversation_write_permitted ctx htenant hrel'.separated' htrimmed hchat'.right
  rw [← hconversation] at hsecond
  obtain ⟨contacts, group_members, hframe⟩ := input.people_frame ctx.now inner
  obtain ⟨contacts', group_members', hframe'⟩ := input.people_frame ctx.now inner'
  have hfresh : (input.people ctx.now inner).inner.messages_by_id.lookup ("msg_" ++ ctx.uuid 0) = none := by
    rw [hframe]
    exact hnew
  have hfresh' : (input.people ctx.now inner').inner.messages_by_id.lookup ("msg_" ++ ctx.uuid 0) = none := by
    rw [hframe']
    exact hnew'
  refine hwrites.trans ?_
  unfold WhatsappMessageInput.record
  dsimp only
  rw [← hconversation, ← hmessage]
  exact append_message_alike ctx (input.message ctx (input.people ctx.now inner)
    (input.conversation ctx.now inner).last_seq) _ _ htenant hfirst hsecond hfresh hfresh'

/-- A WhatsApp message that no other tenant has under its external identity. -/
theorem record_whatsapp_message_alike (hrel : Indistinct tenant inner inner') (ctx : Ctx)
    (input : WhatsappMessageInput)
    (hidentity : ∀ message, input.existing inner = some message → message.tenant = tenant)
    (hidentity' : ∀ message, input.existing inner' = some message → message.tenant = tenant)
    (hunknown : input.existing inner = none → input.existing inner' = none →
      WritesAlike tenant inner (input.record ctx inner).2 inner' (input.record ctx inner').2) :
    WritesAlike tenant inner (record_whatsapp_message ctx inner input).2 inner'
      (record_whatsapp_message ctx inner' input).2 := by
  -- who finds the message in one store finds one in the other
  have hfound : ∀ {inner inner' : StoreInner} {message : Message}, Indistinct tenant inner inner' →
      message.tenant = tenant → input.existing inner = some message → input.existing inner' ≠ none := by
    intro inner inner' message hrel hmessage hexisting hnone
    unfold WhatsappMessageInput.existing at hexisting hnone
    obtain ⟨wa_message_id, hwa, hfind⟩ := Option.bind_eq_some_iff.mp hexisting
    rw [hwa, Option.bind_some, List.find?_eq_none] at hnone
    obtain ⟨key, hkey⟩ := HashMap.mem_values_iff.mp (List.mem_of_find?_eq_some hfind)
    have hstored := hrel.view.messages.lookup_eq_some hkey (decide_eq_true hmessage)
    exact hnone message (HashMap.mem_values_of_lookup hstored) (List.find?_some hfind)
  rcases record_whatsapp_message_cases ctx inner input with ⟨existing, hexisting, heq⟩ | ⟨hnone, heq⟩ <;>
    rcases record_whatsapp_message_cases ctx inner' input with ⟨existing', hexisting', heq'⟩ | ⟨hnone', heq'⟩
  · rw [heq, heq']
    exact .refl _ _
  · exact absurd hnone' (hfound hrel (hidentity _ hexisting) hexisting)
  · exact absurd hnone (hfound hrel.symm (hidentity' _ hexisting') hexisting')
  · rw [heq, heq']
    exact hunknown hnone hnone'

end Record

theorem conversation_matches_tenant_eq (conversation : Conversation) (project_id company_id : String) :
    conversation_matches_tenant conversation project_id company_id =
      decide (conversation.tenant = (project_id, company_id)) := by
  rw [Bool.eq_iff_iff]
  simp [conversation_matches_tenant, Conversation.tenant]

section Resolve

variable {project_id company_id : String} {inner inner' : StoreInner}

theorem SameView.conversation_filter (h : SameView (project_id, company_id) inner inner') (jid : String) :
    ((inner.conversations.lookup jid).filter fun conversation =>
        conversation_matches_tenant conversation project_id company_id) =
      (inner'.conversations.lookup jid).filter fun conversation =>
        conversation_matches_tenant conversation project_id company_id := by
  simp only [conversation_matches_tenant_eq]
  exact h.conversations jid

theorem SameView.conversation_any (h : SameView (project_id, company_id) inner inner') (jid : String) :
    ((inner.conversations.lookup jid).any fun conversation =>
        conversation_matches_tenant conversation project_id company_id) =
      (inner'.conversations.lookup jid).any fun conversation =>
        conversation_matches_tenant conversation project_id company_id := by
  rw [← Option.isSome_filter, h.conversation_filter, Option.isSome_filter]

/-- The contacts of a phone number, in whatever order the maps yield them. -/
theorem SameView.phone_contacts_perm (h : SameView (project_id, company_id) inner inner')
    (phone_number : String) :
    (inner.contacts.values.filter fun contact => contact.project_id = project_id &&
        contact.company_id = company_id && contact_phone_number contact = some phone_number).Perm
      (inner'.contacts.values.filter fun contact => contact.project_id = project_id &&
        contact.company_id = company_id && contact_phone_number contact = some phone_number) := by
  have hsplit : ∀ contacts : List ContactRecord,
      (contacts.filter fun contact => contact.project_id = project_id &&
        contact.company_id = company_id && contact_phone_number contact = some phone_number) =
      (contacts.filter fun contact => decide (contact.tenant = (project_id, company_id))).filter
        fun contact => contact_phone_number contact = some phone_number := by
    intro contacts
    rw [List.filter_filter]
    refine List.filter_congr fun contact _ => ?_
    rw [Bool.eq_iff_iff]
    simp [ContactRecord.tenant, and_comm]
  rw [hsplit, hsplit]
  exact h.contacts.filter_values_perm.filter _

/-- A reference means the same conversation to the tenant in both stores. -/
theorem SameView.resolve_eq (h : SameView (project_id, company_id) inner inner') (conversation_id : String) :
    resolve_conversation_id_inner inner project_id company_id conversation_id =
      resolve_conversation_id_inner inner' project_id company_id conversation_id := by
  have hnumber : ∀ phone_number,
      conversation_id_for_phone_number_inner inner project_id company_id phone_number =
        conversation_id_for_phone_number_inner inner' project_id company_id phone_number := by
    intro phone_number
    unfold conversation_id_for_phone_number_inner
    have haliases := ((h.phone_contacts_perm phone_number).flatMap_right contact_conversation_ids).append_right
      [phone_to_jid phone_number]
    dsimp only
    rw [str.sort_dedup_perm haliases]
    simp only [h.conversation_any]
  unfold resolve_conversation_id_inner
  dsimp only
  rw [h.conversation_any]
  simp only [hnumber]

theorem Indistinct.send_channel_eq (h : Indistinct (project_id, company_id) inner inner') {jid : String}
    (hfree : BothFree (project_id, company_id) inner inner' jid) :
    send_channel inner project_id company_id jid = send_channel inner' project_id company_id jid := by
  unfold send_channel connected_channel_for_project_company
  rw [h.conversation_eq hfree, h.view.channels]

end Resolve

section Requests

variable {project_id company_id : String} {inner inner' : StoreInner}

/-- The recording that an inbound text amounts to. -/
def inbound_input (project_id company_id : String) (request : SimulateInboundTextRequest) :
    RecordMessageInput where
  project_id
  company_id
  conversation_id := inbound_conversation_id request
  direction := "inbound"
  message_type := "text"
  text := some request.text
  status := "received"
  quoted_message_id := none
  channel_account_id := request.channel_id
  sender_contact_id := some (inbound_sender_id request)
  sender_display_name := request.sender_name
  sender_profile_picture_url := request.profile_picture_url
  sent_by_external_user_id := none

theorem receive_inbound_text_eq (ctx : Ctx) (inner : StoreInner) (project_id company_id : String)
    (request : SimulateInboundTextRequest) :
    receive_inbound_text ctx inner project_id company_id request =
      record_message_inner ctx inner (inbound_input project_id company_id request) := rfl

theorem receive_inbound_text_alike (hrel : Indistinct (project_id, company_id) inner inner') (ctx : Ctx)
    (request : SimulateInboundTextRequest)
    (htrimmed : str.trim (inbound_conversation_id request) = inbound_conversation_id request)
    (hchat : BothFree (project_id, company_id) inner inner' (inbound_conversation_id request))
    (hsender : BothFree (project_id, company_id) inner inner' (inbound_sender_id request))
    (hnew : inner.messages_by_id.lookup ("msg_" ++ ctx.uuid 0) = none)
    (hnew' : inner'.messages_by_id.lookup ("msg_" ++ ctx.uuid 0) = none) :
    WritesAlike (project_id, company_id) inner
      (receive_inbound_text ctx inner project_id company_id request).2 inner'
      (receive_inbound_text ctx inner' project_id company_id request).2 := by
  have hcontact : (inbound_input project_id company_id request).contact_id = some (inbound_sender_id request) :=
    rfl
  have hpeople : ∀ key ∈ (inbound_input project_id company_id request).contact_id.toList,
      BothFree (project_id, company_id) inner inner' key := by
    intro key hkey
    rw [hcontact, Option.toList_some, List.mem_singleton] at hkey
    rw [hkey]
    exact hsender
  rw [receive_inbound_text_eq, receive_inbound_text_eq]
  exact (record_message_inner_alike hrel ctx (inbound_input project_id company_id request) rfl htrimmed hchat
    hpeople hnew hnew').2

/-- What an upsert leaves under its contact's id. -/
theorem upsert_contact_inner_stored (inner : StoreInner) (input : ContactUpsertInput) :
    ∃ contact, (upsert_contact_inner inner input).2.contacts.lookup input.contact_id = some contact ∧
      contact.tenant = (input.project_id, input.company_id) :=
  ⟨_, AList.lookup_insert inner.contacts, ContactRecord.tenant_of_matches (input.apply_owner _)⟩

/-- A chat that is the tenant's is there, or made, alike. -/
theorem ensure_conversation_inner_alike (hrel : Indistinct (project_id, company_id) inner inner') (ctx : Ctx)
    {jid : String} (channel_id control_mode : String) (htrimmed : str.trim jid = jid)
    (hfree : BothFree (project_id, company_id) inner inner' jid) :
    WritesAlike (project_id, company_id) inner
      (ensure_conversation_inner ctx inner project_id company_id jid channel_id control_mode) inner'
      (ensure_conversation_inner ctx inner' project_id company_id jid channel_id control_mode) := by
  have hgroup : group_record_for inner' jid = group_record_for inner jid := by
    unfold group_record_for
    rw [hrel.view.groups]
  unfold ensure_conversation_inner
  rw [hrel.conversation_eq hfree]
  cases hstored : (inner'.conversations.lookup jid).isSome with
  | true => exact .refl _ _
  | false =>
    simp only [Bool.false_eq_true, if_false]
    cases hjid : is_group_jid jid with
    | true =>
      simp only [if_true, hgroup]
      refine .single (.conversation jid _) ⟨⟨rfl, htrimmed, hfree.left, ?_⟩, SameMaps.refl _⟩
        ⟨⟨rfl, htrimmed, hfree.right, ?_⟩, SameMaps.refl _⟩
      · intro contact_id hcontact
        simp [new_conversation, hjid] at hcontact
      · intro contact_id hcontact
        simp [new_conversation, hjid] at hcontact
    | false =>
      simp only [Bool.false_eq_true, if_false]
      obtain ⟨hentry, hwrites⟩ := upsert_contact_inner_alike hrel
        { project_id, company_id, channel_id := some channel_id, contact_id := jid, push_name := none,
          profile_picture_url := none, now := ctx.now } rfl hfree
      have hagain := hwrites.both_free hfree
      simp only [← hentry, group_record_for, hjid, Bool.false_eq_true, if_false]
      refine hwrites.trans (.single (.conversation jid _) ⟨⟨rfl, htrimmed, hagain.left, ?_⟩, SameMaps.refl _⟩
        ⟨⟨rfl, htrimmed, hagain.right, ?_⟩, SameMaps.refl _⟩)
      · intro contact_id hcontact
        simp only [new_conversation, hjid, Bool.false_eq_true, if_false, Option.some.injEq] at hcontact
        subst hcontact
        exact upsert_contact_inner_stored inner _
      · intro contact_id hcontact
        simp only [new_conversation, hjid, Bool.false_eq_true, if_false, Option.some.injEq] at hcontact
        subst hcontact
        exact upsert_contact_inner_stored inner' _

theorem upload_outbound_media_alike (hrel : Indistinct (project_id, company_id) inner inner')
    (self : AppState) (ctx : Ctx) (upload : OutboundMediaUpload) (answers : UploadAnswers) {jid : String}
    (hjid : resolve_conversation_id_inner inner project_id company_id (str.trim upload.conversation_id) = jid)
    (htrimmed : str.trim jid = jid) (hfree : BothFree (project_id, company_id) inner inner' jid)
    (hnew : inner.media.lookup ("media_" ++ ctx.uuid 0) = none)
    (hnew' : inner'.media.lookup ("media_" ++ ctx.uuid 0) = none) :
    WritesAlike (project_id, company_id) inner
      (upload_outbound_media self ctx inner project_id company_id upload answers).2 inner'
      (upload_outbound_media self ctx inner' project_id company_id upload answers).2 := by
  have hstored : ∀ (inner : StoreInner) (channel_id : String), (ensure_conversation_inner ctx inner project_id
      company_id jid channel_id "manual").media = inner.media := by
    intro inner channel_id
    unfold ensure_conversation_inner
    split
    · rfl
    · cases is_group_jid jid <;> rfl
  unfold upload_outbound_media
  dsimp only
  rw [← hrel.view.resolve_eq, hjid, ← hrel.send_channel_eq hfree]
  split
  · exact .refl _ _
  · split
    · exact .refl _ _
    · split
      · exact .refl _ _
      · split
        · exact .refl _ _
        · split
          · exact .refl _ _
          · split
            · exact .refl _ _
            · split
              · exact .refl _ _
              · refine (ensure_conversation_inner_alike hrel ctx _ "manual" htrimmed hfree).trans
                  (.single (.media _) ⟨⟨rfl, fun old hold => ?_⟩, SameMaps.refl _⟩
                    ⟨⟨rfl, fun old hold => ?_⟩, SameMaps.refl _⟩)
                · rw [hstored] at hold
                  exact absurd (hnew.symm.trans hold) nofun
                · rw [hstored] at hold
                  exact absurd (hnew'.symm.trans hold) nofun

/-- Another tenant's media are as good as none. -/
theorem SameView.media_for_send_eq (h : SameView (project_id, company_id) inner inner')
    (conversation_id : String) (media_id : Option String) :
    media_for_send inner project_id company_id conversation_id media_id =
      media_for_send inner' project_id company_id conversation_id media_id := by
  cases media_id with
  | none => rfl
  | some media_id =>
    -- without media of the tenant's the request is refused
    have hrefused : ∀ inner : StoreInner, ((inner.media.lookup media_id).filter fun media =>
          decide (media.tenant = (project_id, company_id))) = none →
        media_for_send inner project_id company_id conversation_id (some media_id) =
          .error (.NotFound ("media " ++ media_id ++ " not found")) := by
      intro inner hnone
      dsimp only [media_for_send]
      cases hmedia : inner.media.lookup media_id with
      | none => rfl
      | some media =>
        rw [hmedia, Option.filter_eq_none_iff] at hnone
        have hforeign := hnone media rfl
        rw [decide_eq_true_eq, MediaObject.tenant, Prod.mk.injEq, not_and_or] at hforeign
        exact if_pos hforeign
    have hseen := h.media media_id
    cases hmedia : (inner.media.lookup media_id).filter fun media =>
        decide (media.tenant = (project_id, company_id)) with
    | none => rw [hrefused inner hmedia, hrefused inner' (hseen.symm.trans hmedia)]
    | some media =>
      have hstored := (Option.filter_eq_some_iff.mp hmedia).1
      have hstored' := (Option.filter_eq_some_iff.mp (hseen.symm.trans hmedia)).1
      dsimp only [media_for_send]
      rw [hstored, hstored']

/-- The media of a send are stored, and the tenant's. -/
theorem media_for_send_stored {conversation_id : String} {media_id : Option String} {media : MediaObject}
    (hseparated : Separated inner)
    (h : media_for_send inner project_id company_id conversation_id media_id = .ok (some media)) :
    inner.media.lookup media.id = some media ∧ media.tenant = (project_id, company_id) := by
  cases media_id with
  | none => cases h
  | some media_id =>
    dsimp only [media_for_send] at h
    cases hmedia : inner.media.lookup media_id with
    | none =>
      rw [hmedia] at h
      cases h
    | some stored =>
      rw [hmedia] at h
      dsimp only at h
      repeat' split at h
      all_goals cases h
      next hown _ _ =>
      rw [not_or, not_not, not_not] at hown
      refine ⟨?_, by rw [MediaObject.tenant, hown.1, hown.2]⟩
      rw [hseparated.media media_id media hmedia]
      exact hmedia

/-- A message of the tenant that has just been recorded, and media of the tenant's that
are to be linked with it. -/
structure Linkable (tenant : String × String) (inner : StoreInner) (message : Message) (media : MediaObject) :
    Prop where
  message_tenant : message.tenant = tenant
  media_tenant : media.tenant = tenant
  stored : inner.messages_by_id.lookup message.id = some message
  listed : ∃ messages, inner.messages_by_conversation.lookup message.conversation_id = some messages
  conversation : HasConversation tenant inner message.conversation_id
  media : inner.media.lookup media.id = some media

theorem link_media_alike {tenant : String × String} (ctx : Ctx) {message : Message} {media : MediaObject}
    (h : Linkable tenant inner message media) (h' : Linkable tenant inner' message media) :
    (link_media ctx inner message media).1 = (link_media ctx inner' message media).1 ∧
      WritesAlike tenant inner (link_media ctx inner message media).2 inner'
        (link_media ctx inner' message media).2 := by
  have hmedia : ∀ {inner : StoreInner}, Linkable tenant inner message media →
      (TenantWrite.media { media with message_id := some message.id, updated_at := ctx.now }).Permitted tenant
        inner := by
    intro inner h
    refine ⟨h.media_tenant, fun old hold => ?_⟩
    dsimp only at hold
    rw [h.media, Option.some.injEq] at hold
    rw [← hold, h.media_tenant]
  have hold : ∀ {inner : StoreInner}, Linkable tenant inner message media → ∀ old,
      inner.messages_by_id.lookup message.id = some old → old.tenant = tenant := by
    intro inner h old hold
    rw [h.stored, Option.some.injEq] at hold
    rw [← hold, h.message_tenant]
  have hstored : ∀ old, inner.messages_by_id.lookup message.id = some old → old.tenant = tenant := hold h
  have hstored' : ∀ old, inner'.messages_by_id.lookup message.id = some old → old.tenant = tenant := hold h'
  unfold link_media attach_media_to_message_inner
  rw [h.media, h'.media]
  dsimp only
  rw [h.stored, h'.stored]
  refine ⟨rfl, .trans (.single (.media { media with message_id := some message.id, updated_at := ctx.now })
    ⟨hmedia h, SameMaps.refl _⟩ ⟨hmedia h', SameMaps.refl _⟩) ?_⟩
  exact .single (.rewrite { message with
      media_id := some media.id, media_url := media.public_url, thumbnail_url := media.thumbnail_url,
      mime_type := some media.mime_type, file_name := media.original_filename, updated_at := ctx.now })
    ⟨⟨h.message_tenant, h.conversation, hstored, h.listed⟩, SameMaps.refl _⟩
    ⟨⟨h'.message_tenant, h'.conversation, hstored', h'.listed⟩, SameMaps.refl _⟩

/-- A message that has just been recorded in the tenant's chat can be linked. -/
theorem Recorded.linkable {tenant : String × String} {mid : StoreInner} {ctx : Ctx} {message : Message}
    {media : MediaObject} (h : Recorded ctx inner message mid) (hmessage : message.tenant = tenant)
    (hfree : OwnOrFree tenant inner message.conversation_id) (hmedia : media.tenant = tenant)
    (hstored : inner.media.lookup media.id = some media) : Linkable tenant mid message media := by
  obtain ⟨conversation, contacts, group_members, events, hcounted, rfl⟩ := h
  refine ⟨hmessage, hmedia, AList.lookup_insert _, ⟨_, AList.lookup_insert _⟩,
    ⟨conversation, AList.lookup_insert _, ?_⟩, hstored⟩
  rw [hcounted.tenant_eq]
  cases hlookup : inner.conversations.lookup message.conversation_id with
  | none => exact hmessage
  | some chat => exact hfree.conversation chat hlookup

/-- The recording that a send amounts to. -/
def outbound_input (project_id company_id jid : String) (request : SendMessageRequest) (actor : Option String)
    (media : Option MediaObject) (channel_account_id : Option String) : RecordMessageInput where
  project_id
  company_id
  conversation_id := jid
  direction := "outbound"
  message_type := (media.map MediaObject.media_type).getD request.message_type
  text := request.text.or request.caption
  status := "queued"
  quoted_message_id := request.quoted_message_id
  channel_account_id
  sender_contact_id := none
  sender_display_name := none
  sender_profile_picture_url := none
  sent_by_external_user_id := actor

theorem queue_outbound_eq (ctx : Ctx) (inner : StoreInner) (project_id company_id jid : String)
    (request : SendMessageRequest) (actor : Option String) (media : Option MediaObject) :
    queue_outbound ctx inner project_id company_id jid request actor media =
      let recorded := record_message_inner ctx inner (outbound_input project_id company_id jid request actor
        media (send_channel inner project_id company_id jid))
      match media with
      | some media => link_media ctx recorded.2 recorded.1 media
      | none => recorded := rfl

/-- A message queued in a chat that is the tenant's. -/
theorem queue_outbound_alike (hrel : Indistinct (project_id, company_id) inner inner') (ctx : Ctx)
    {jid : String} (request : SendMessageRequest) (actor : Option String) {media : Option MediaObject}
    (htrimmed : str.trim jid = jid) (hfree : BothFree (project_id, company_id) inner inner' jid)
    (hmedia : ∀ object, media = some object →
      inner.media.lookup object.id = some object ∧ object.tenant = (project_id, company_id))
    (hnew : inner.messages_by_id.lookup ("msg_" ++ ctx.uuid 0) = none)
    (hnew' : inner'.messages_by_id.lookup ("msg_" ++ ctx.uuid 0) = none) :
    (queue_outbound ctx inner project_id company_id jid request actor media).1 =
        (queue_outbound ctx inner' project_id company_id jid request actor media).1 ∧
      WritesAlike (project_id, company_id) inner
        (queue_outbound ctx inner project_id company_id jid request actor media).2 inner'
        (queue_outbound ctx inner' project_id company_id jid request actor media).2 := by
  rw [queue_outbound_eq, queue_outbound_eq, ← hrel.send_channel_eq hfree]
  generalize hinput : outbound_input project_id company_id jid request actor media
    (send_channel inner project_id company_id jid) = input
  have htenant : (input.project_id, input.company_id) = (project_id, company_id) := by rw [← hinput]; rfl
  have hjid : input.conversation_id = jid := by rw [← hinput]; rfl
  have hpeople : ∀ key ∈ input.contact_id.toList, BothFree (project_id, company_id) inner inner' key := by
    intro key hkey
    rw [← hinput] at hkey
    dsimp only [outbound_input, RecordMessageInput.contact_id] at hkey
    cases hgroup : is_group_jid jid with
    | true => simp [hgroup] at hkey
    | false =>
      have hkey : key = jid := by simpa [hgroup] using hkey
      rw [hkey]
      exact hfree
  rw [← hjid] at htrimmed hfree
  obtain ⟨hmessage, hwrites⟩ := record_message_inner_alike hrel ctx input htenant htrimmed hfree hpeople
    hnew hnew'
  cases media with
  | none => exact ⟨hmessage, hwrites⟩
  | some object =>
    obtain ⟨hstored, howner⟩ := hmedia object rfl
    have hstored' := hrel.view.media.lookup_eq_some hstored (decide_eq_true howner)
    have hlinkable := (record_message_inner_recorded ctx inner input).linkable htenant hfree.left howner hstored
    have hlinkable' := (record_message_inner_recorded ctx inner' input).linkable htenant hfree.right howner
      hstored'
    dsimp only
    rw [← hmessage] at hlinkable' ⊢
    obtain ⟨hlinked, hwrites'⟩ := link_media_alike ctx hlinkable hlinkable'
    exact ⟨hlinked, hwrites.trans hwrites'⟩

theorem prepare_send_message_with_actor_alike (hrel : Indistinct (project_id, company_id) inner inner')
    (self : AppState) (ctx : Ctx) (conversation_id idempotency_key : String) (request : SendMessageRequest)
    (actor : Option String)
    (hchat : inner.idempotency.lookup (project_id, company_id, idempotency_key) = none →
      str.trim (resolve_conversation_id_inner inner project_id company_id conversation_id) =
          resolve_conversation_id_inner inner project_id company_id conversation_id ∧
        BothFree (project_id, company_id) inner inner'
          (resolve_conversation_id_inner inner project_id company_id conversation_id))
    (hnew : inner.messages_by_id.lookup ("msg_" ++ ctx.uuid 0) = none)
    (hnew' : inner'.messages_by_id.lookup ("msg_" ++ ctx.uuid 0) = none) :
    WritesAlike (project_id, company_id) inner
      (prepare_send_message_with_actor self ctx inner project_id company_id conversation_id idempotency_key
        request actor).2 inner'
      (prepare_send_message_with_actor self ctx inner' project_id company_id conversation_id idempotency_key
        request actor).2 := by
  have hkey : inner.idempotency.lookup (project_id, company_id, idempotency_key) =
      inner'.idempotency.lookup (project_id, company_id, idempotency_key) :=
    hrel.view.idempotency.lookup_eq (fun _ _ => decide_eq_true rfl) fun _ _ => decide_eq_true rfl
  unfold prepare_send_message_with_actor
  dsimp only
  rw [← hkey, ← hrel.view.resolve_eq, ← hrel.view.media_for_send_eq]
  cases hknown : inner.idempotency.lookup (project_id, company_id, idempotency_key) with
  | some record => exact .refl _ _
  | none =>
    obtain ⟨htrimmed, hfree⟩ := hchat hknown
    generalize resolve_conversation_id_inner inner project_id company_id conversation_id = jid at htrimmed hfree
    dsimp only
    cases hmedia : media_for_send inner project_id company_id jid request.media_id with
    | error err => exact .refl _ _
    | ok media =>
      have hstored : ∀ object, media = some object →
          inner.media.lookup object.id = some object ∧ object.tenant = (project_id, company_id) := by
        intro object hobject
        rw [hobject] at hmedia
        exact media_for_send_stored hrel.separated hmedia
      obtain ⟨hmessage, hwrites⟩ := queue_outbound_alike hrel ctx request actor htrimmed hfree hstored hnew hnew'
      dsimp only
      rw [← hmessage]
      exact hwrites.trans (.single (.idempotency idempotency_key _)
        ⟨trivial, .refl _, .refl _, .refl _, .refl _, .refl _, .refl _, rfl, .refl _⟩
        ⟨trivial, .refl _, .refl _, .refl _, .refl _, .refl _, .refl _, rfl, .refl _⟩)

/-- A tenant marks a conversation of its own as read, or nothing happens. -/
theorem mark_read_alike (hrel : Indistinct (project_id, company_id) inner inner') (ctx : Ctx)
    (conversation_id : String) :
    WritesAlike (project_id, company_id) inner (mark_read ctx inner project_id company_id conversation_id).2
      inner' (mark_read ctx inner' project_id company_id conversation_id).2 := by
  unfold mark_read
  dsimp only
  rw [← hrel.view.resolve_eq, ← hrel.view.conversation_filter]
  generalize resolve_conversation_id_inner inner project_id company_id conversation_id = jid
  cases hfound : (inner.conversations.lookup jid).filter fun conversation =>
      conversation_matches_tenant conversation project_id company_id with
  | none => exact .refl _ _
  | some conversation =>
    have hpermitted : ∀ {inner : StoreInner}, Separated inner →
        ((inner.conversations.lookup jid).filter fun conversation =>
          conversation_matches_tenant conversation project_id company_id) = some conversation →
        (TenantWrite.conversation jid { conversation with unread_count := 0, updated_at := ctx.now }).Permitted
          (project_id, company_id) inner := by
      intro inner hseparated hfound
      obtain ⟨hstored, hmatches⟩ := Option.filter_eq_some_iff.mp hfound
      rw [conversation_matches_tenant_eq, decide_eq_true_eq] at hmatches
      refine ⟨hmatches, hseparated.trimmed jid conversation hstored, ⟨?_, ?_⟩, ?_⟩
      · intro other hother
        rw [hstored, Option.some.injEq] at hother
        rw [← hother, hmatches]
      · intro contact hcontact
        rw [hseparated.own jid conversation contact hstored hcontact, hmatches]
      · intro contact_id hcontact
        rw [← hmatches]
        exact hseparated.contact jid conversation contact_id hstored hcontact
    have hfound' := (hrel.view.conversation_filter jid).symm.trans hfound
    exact .single (.conversation jid { conversation with unread_count := 0, updated_at := ctx.now })
      ⟨hpermitted hrel.separated hfound, .refl _, .refl _, .refl _, .refl _, .refl _, .refl _, rfl, .refl _⟩
      ⟨hpermitted hrel.separated' hfound', .refl _, .refl _, .refl _, .refl _, .refl _, .refl _, rfl, .refl _⟩

end Requests

end rustzap.state
