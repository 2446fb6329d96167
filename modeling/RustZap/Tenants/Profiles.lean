import RustZap.State.Service

open collections serde_json runs
open rustzap.error rustzap.models rustzap.whatsapp

namespace rustzap.state

def message_matches_tenant (message : Message) (project_id company_id : String) : Bool :=
  message.project_id = project_id && message.company_id = company_id

namespace ContactProfileApplyInput

variable (input : ContactProfileApplyInput)

/-- The enrichment that a profile starts with. -/
def enrichment (now : OffsetDateTime) : ContactEnrichmentInput where
  project_id := input.project_id
  company_id := input.company_id
  channel_id := some input.channel_id
  contact_id := input.contact_id
  push_name := input.push_name
  profile := input.profile
  now := now
  profile_lookup_succeeded := input.profile_lookup_succeeded

/-- The contact that the enrichment leaves. -/
def contact (now : OffsetDateTime) (inner : StoreInner) : ContactRecord :=
  (enrich_contact_inner inner (input.enrichment now)).1

/-- The ids that a profile links: that of the stored contact, those of the profile, and
the phone and LID of the two. -/
def ids (inner : StoreInner) : List String :=
  [((inner.contacts.lookup input.contact_id).map ContactRecord.id).getD input.contact_id,
    input.profile.requested_jid] ++
  ((input.profile.resolved_jid.filter fun jid => !is_lid jid).or
    (if is_lid input.contact_id then none else some input.contact_id)).toList ++
  (input.profile.lid.or (if is_lid input.contact_id then some input.contact_id else none)).toList ++
  input.profile.resolved_jid.toList

/-- A conversation, a message or a group of the company whose profile it is. -/
def owns_conversation (conversation : Conversation) : Bool :=
  conversation_matches_tenant conversation input.project_id input.company_id

def owns_message (message : Message) : Bool :=
  message_matches_tenant message input.project_id input.company_id

/-- Nothing of another company has changed: no conversation, no message in either map,
and no member of a group whose conversation is another company's. -/
structure Framed (inner inner' : StoreInner) : Prop where
  conversations : ∀ key conversation, inner.conversations.lookup key = some conversation →
    input.owns_conversation conversation = false → inner'.conversations.lookup key = some conversation
  messages_by_id : ∀ key message, inner.messages_by_id.lookup key = some message →
    input.owns_message message = false → inner'.messages_by_id.lookup key = some message
  messages_by_conversation : ∀ key messages, inner.messages_by_conversation.lookup key = some messages →
    ∃ messages', inner'.messages_by_conversation.lookup key = some messages' ∧
      List.Forall₂ (fun old new => input.owns_message old = false → new = old) messages messages'
  group_members : ∀ group_id members conversation, inner.group_members.lookup group_id = some members →
    inner.conversations.lookup group_id = some conversation → input.owns_conversation conversation = false →
    ∃ members', inner'.group_members.lookup group_id = some members' ∧
      ∀ key member, members.lookup key = some member → members'.lookup key = some member

/-- What the profile of a contact reaches is the company's own: the conversation it
names, where it is direct, the messages from the linked ids, and the groups of which one
of these is a member. -/
structure Confined (inner : StoreInner) : Prop where
  conversation : ∀ conversation, inner.conversations.lookup input.conversation_id = some conversation →
    conversation.conversation_type = "direct" → input.owns_conversation conversation = true
  messages_by_id : ∀ key message sender, inner.messages_by_id.lookup key = some message →
    message.sender_contact_id = some sender → sender ∈ input.ids inner → input.owns_message message = true
  messages_by_conversation : ∀ key messages message sender,
    inner.messages_by_conversation.lookup key = some messages → message ∈ messages →
    message.sender_contact_id = some sender → sender ∈ input.ids inner → input.owns_message message = true
  group_members : ∀ group_id members conversation key member,
    inner.group_members.lookup group_id = some members →
    inner.conversations.lookup group_id = some conversation → members.lookup key = some member →
    member.contact_id ∈ input.ids inner → input.owns_conversation conversation = true

theorem contact_id_eq (now : OffsetDateTime) (inner : StoreInner) :
    (input.contact now inner).id =
      ((inner.contacts.lookup input.contact_id).map ContactRecord.id).getD input.contact_id := by
  have henriched : ∀ entry : ContactRecord, ((input.enrichment now).apply entry).id = entry.id := by
    intro entry
    unfold ContactEnrichmentInput.apply
    dsimp only
    repeat' split
    all_goals rfl
  have hupserted : ∀ entry : ContactRecord, ((input.enrichment now).upsert.apply entry).id = entry.id := by
    intro entry
    unfold ContactUpsertInput.apply
    dsimp only
    repeat' split
    all_goals rfl
  refine (henriched _).trans ((hupserted _).trans ?_)
  have hid : (input.enrichment now).upsert.contact_id = input.contact_id := rfl
  rw [hid]
  cases inner.contacts.lookup input.contact_id <;> rfl

/-- The enriched contact is linked with these ids, and with no others. -/
theorem mem_contact_aliases (now : OffsetDateTime) (inner : StoreInner) (jid : String) :
    jid ∈ contact_aliases (input.contact now inner) input.profile ↔ jid ∈ input.ids inner := by
  have hlinks : ∀ entry : ContactRecord,
      ((input.enrichment now).apply entry).canonical_jid = (input.enrichment now).canonical_jid ∧
        ((input.enrichment now).apply entry).lid = (input.enrichment now).lid := by
    intro entry
    unfold ContactEnrichmentInput.apply
    dsimp only
    repeat' split
    all_goals exact ⟨rfl, rfl⟩
  have hcanonical : (input.contact now inner).canonical_jid = (input.enrichment now).canonical_jid :=
    (hlinks _).1
  have hlid : (input.contact now inner).lid = (input.enrichment now).lid := (hlinks _).2
  rw [contact_aliases, str.mem_sort_dedup, contact_id_eq, hcanonical, hlid]
  rfl

/-- What is done to the conversations after the one that the input names. -/
def refresh_conversation (now : OffsetDateTime) (inner : StoreInner) (conversation : Conversation) :
    Conversation :=
  if conversation.company_id = input.company_id && conversation.project_id = input.project_id &&
      conversation.conversation_type = "direct" &&
      (contact_aliases (input.contact now inner) input.profile).any fun jid =>
        conversation.id = jid || conversation.contact_id = some jid then
    apply_contact_to_conversation conversation (input.contact now inner) now
  else conversation

theorem refresh_conversation_of_foreign (now : OffsetDateTime) (inner : StoreInner)
    {conversation : Conversation} (hforeign : input.owns_conversation conversation = false) :
    input.refresh_conversation now inner conversation = conversation := by
  have hother : (decide (conversation.company_id = input.company_id) &&
      decide (conversation.project_id = input.project_id)) = false := by
    rw [Bool.and_comm]
    exact hforeign
  rw [refresh_conversation, hother, Bool.false_and, Bool.false_and, if_neg Bool.false_ne_true]

/-- The conversations once the one that the input names has been refreshed. -/
def named_refreshed (now : OffsetDateTime) (inner : StoreInner) : HashMap String Conversation :=
  match inner.conversations.lookup input.conversation_id with
  | some conversation =>
    if conversation.conversation_type = "direct" then
      inner.conversations.insert input.conversation_id
        (apply_contact_to_conversation conversation (input.contact now inner) now)
    else inner.conversations
  | none => inner.conversations

theorem named_refreshed_lookup (now : OffsetDateTime) (inner : StoreInner) (key : String) :
    (input.named_refreshed now inner).lookup key =
      (inner.conversations.lookup key).map fun conversation =>
        if key = input.conversation_id ∧ conversation.conversation_type = "direct" then
          apply_contact_to_conversation conversation (input.contact now inner) now
        else conversation := by
  unfold named_refreshed
  by_cases hkey : key = input.conversation_id
  · subst hkey
    cases hnamed : inner.conversations.lookup input.conversation_id with
    | none => exact hnamed
    | some named =>
      dsimp only
      split
      · next hdirect => simp only [AList.lookup_insert, hdirect, and_self, if_true, Option.map_some]
      · next hgroup => simp only [hnamed, hgroup, and_false, if_false, Option.map_some]
  · simp only [hkey, false_and, if_false, Option.map_id']
    split
    · split
      · rw [HashMap.lookup_insert_ite, if_neg hkey]
      · rfl
    · rfl

theorem applied_conversation (ctx : Ctx) (inner : StoreInner) (key : String) :
    (apply_contact_profile ctx inner input).conversations.lookup key =
      ((inner.conversations.lookup key).map fun conversation =>
        if key = input.conversation_id ∧ conversation.conversation_type = "direct" then
          apply_contact_to_conversation conversation (input.contact ctx.now inner) ctx.now
        else conversation).map (input.refresh_conversation ctx.now inner) := by
  have hconversations : (apply_contact_profile ctx inner input).conversations =
    (input.named_refreshed ctx.now inner).map_values fun _ conversation =>
      input.refresh_conversation ctx.now inner conversation := rfl
  rw [hconversations, HashMap.lookup_map_values, named_refreshed_lookup]

theorem applied_message (ctx : Ctx) (inner : StoreInner) (key : String) :
    (apply_contact_profile ctx inner input).messages_by_id.lookup key =
      (inner.messages_by_id.lookup key).map (rename_sender
        (contact_aliases (input.contact ctx.now inner) input.profile) (input.contact ctx.now inner) ctx.now) :=
  HashMap.lookup_map_values inner.messages_by_id _ key

theorem applied_messages (ctx : Ctx) (inner : StoreInner) (key : String) :
    (apply_contact_profile ctx inner input).messages_by_conversation.lookup key =
      (inner.messages_by_conversation.lookup key).map fun messages => messages.map (rename_sender
        (contact_aliases (input.contact ctx.now inner) input.profile) (input.contact ctx.now inner) ctx.now) :=
  HashMap.lookup_map_values inner.messages_by_conversation _ key

/-- A group member whose id is linked takes the name. -/
def rename_member (now : OffsetDateTime) (inner : StoreInner) (member : GroupMemberRecord) :
    GroupMemberRecord :=
  if (contact_aliases (input.contact now inner) input.profile).contains member.contact_id then
    { member with display_name := (input.contact now inner).display_name, last_seen_at := now }
  else member

theorem applied_members (ctx : Ctx) (inner : StoreInner) (group_id : String) :
    (apply_contact_profile ctx inner input).group_members.lookup group_id =
      (inner.group_members.lookup group_id).map fun members =>
        members.map_values fun _ member => input.rename_member ctx.now inner member :=
  HashMap.lookup_map_values inner.group_members _ group_id

theorem apply_contact_owner (conversation : Conversation) (contact : ContactRecord) (now : OffsetDateTime) :
    input.owns_conversation (apply_contact_to_conversation conversation contact now) =
      input.owns_conversation conversation :=
  rfl

variable {input}

theorem rename_sender_eq_self {now : OffsetDateTime} {inner : StoreInner} {message : Message}
    (h : ∀ sender, message.sender_contact_id = some sender → sender ∉ input.ids inner) :
    rename_sender (contact_aliases (input.contact now inner) input.profile) (input.contact now inner) now
      message = message := by
  unfold rename_sender
  rw [if_neg]
  rw [Bool.not_eq_true, Option.any_eq_false]
  intro sender hsender
  rw [List.contains_eq_mem, decide_eq_false_iff_not, mem_contact_aliases]
  exact h sender hsender

/-- A message from a linked id takes the instant, whatever its name was. -/
theorem rename_sender_updated_at {now : OffsetDateTime} {inner : StoreInner} {message : Message}
    {sender : String} (hsender : message.sender_contact_id = some sender)
    (hlinked : sender ∈ input.ids inner) :
    (rename_sender (contact_aliases (input.contact now inner) input.profile) (input.contact now inner) now
      message).updated_at = now := by
  have hany : (message.sender_contact_id.any fun sender =>
      (contact_aliases (input.contact now inner) input.profile).contains sender) = true := by
    rw [hsender, Option.any_some, List.contains_eq_mem, decide_eq_true_eq, mem_contact_aliases]
    exact hlinked
  rw [rename_sender, if_pos hany]

theorem rename_member_eq_self {now : OffsetDateTime} {inner : StoreInner} {member : GroupMemberRecord}
    (h : member.contact_id ∉ input.ids inner) : input.rename_member now inner member = member := by
  unfold rename_member
  rw [if_neg]
  rw [List.contains_eq_mem, decide_eq_true_eq, mem_contact_aliases]
  exact h

theorem rename_member_last_seen_at {now : OffsetDateTime} {inner : StoreInner} {member : GroupMemberRecord}
    (h : member.contact_id ∈ input.ids inner) : (input.rename_member now inner member).last_seen_at = now := by
  unfold rename_member
  rw [if_pos]
  rw [List.contains_eq_mem, decide_eq_true_eq, mem_contact_aliases]
  exact h

theorem Confined.framed {inner : StoreInner} (h : input.Confined inner) (ctx : Ctx) :
    input.Framed inner (apply_contact_profile ctx inner input) where
  conversations key conversation hconversation hforeign := by
    rw [applied_conversation, hconversation, Option.map_some, Option.map_some, if_neg,
      refresh_conversation_of_foreign input _ _ hforeign]
    rintro ⟨rfl, hdirect⟩
    exact Bool.false_ne_true (hforeign.symm.trans (h.conversation conversation hconversation hdirect))
  messages_by_id key message hmessage hforeign := by
    rw [applied_message, hmessage, Option.map_some, rename_sender_eq_self]
    intro sender hsender hlinked
    exact Bool.false_ne_true (hforeign.symm.trans (h.messages_by_id key message sender hmessage hsender hlinked))
  messages_by_conversation key messages hmessages := by
    refine ⟨_, by rw [applied_messages, hmessages, Option.map_some], ?_⟩
    rw [List.forall₂_map_right_iff, List.forall₂_same]
    intro message hmem hforeign
    refine rename_sender_eq_self fun sender hsender hlinked => ?_
    exact Bool.false_ne_true (hforeign.symm.trans
      (h.messages_by_conversation key messages message sender hmessages hmem hsender hlinked))
  group_members group_id members conversation hmembers hconversation hforeign := by
    refine ⟨_, by rw [applied_members, hmembers, Option.map_some], ?_⟩
    intro key member hmember
    rw [HashMap.lookup_map_values, hmember, Option.map_some, rename_member_eq_self]
    intro hlinked
    exact Bool.false_ne_true (hforeign.symm.trans
      (h.group_members group_id members conversation key member hmembers hconversation hmember hlinked))

theorem exists_other_instant (instant : OffsetDateTime) : ∃ ctx : Ctx, ctx.now ≠ instant :=
  ⟨{ now := instant + 1, uuid := fun _ => "" }, (Int.lt_succ instant).ne'⟩

/-- A profile that is applied at another instant than a record was last written leaves a
trace on the record if it reaches it. -/
theorem Confined.of_framed {inner : StoreInner}
    (h : ∀ ctx, input.Framed inner (apply_contact_profile ctx inner input)) : input.Confined inner where
  conversation conversation hconversation hdirect := by
    by_contra hforeign
    rw [Bool.not_eq_true] at hforeign
    obtain ⟨ctx, hnow⟩ := exists_other_instant conversation.updated_at
    have hkept := (h ctx).conversations _ _ hconversation hforeign
    rw [applied_conversation, hconversation, Option.map_some, Option.map_some, if_pos ⟨rfl, hdirect⟩,
      refresh_conversation_of_foreign input _ _ ((apply_contact_owner input _ _ _).trans hforeign),
      Option.some.injEq] at hkept
    exact hnow (congrArg Conversation.updated_at hkept)
  messages_by_id key message sender hmessage hsender hlinked := by
    by_contra hforeign
    rw [Bool.not_eq_true] at hforeign
    obtain ⟨ctx, hnow⟩ := exists_other_instant message.updated_at
    have hkept := (h ctx).messages_by_id _ _ hmessage hforeign
    rw [applied_message, hmessage, Option.map_some, Option.some.injEq] at hkept
    exact hnow ((rename_sender_updated_at hsender hlinked).symm.trans (congrArg Message.updated_at hkept))
  messages_by_conversation key messages message sender hmessages hmem hsender hlinked := by
    by_contra hforeign
    rw [Bool.not_eq_true] at hforeign
    obtain ⟨ctx, hnow⟩ := exists_other_instant message.updated_at
    obtain ⟨messages', hmessages', hkept⟩ := (h ctx).messages_by_conversation _ _ hmessages
    rw [applied_messages, hmessages, Option.map_some, Option.some.injEq] at hmessages'
    subst hmessages'
    rw [List.forall₂_map_right_iff, List.forall₂_same] at hkept
    exact hnow ((rename_sender_updated_at hsender hlinked).symm.trans
      (congrArg Message.updated_at (hkept message hmem hforeign)))
  group_members group_id members conversation key member hmembers hconversation hmember hlinked := by
    by_contra hforeign
    rw [Bool.not_eq_true] at hforeign
    obtain ⟨ctx, hnow⟩ := exists_other_instant member.last_seen_at
    obtain ⟨members', hmembers', hkept⟩ := (h ctx).group_members _ _ _ hmembers hconversation hforeign
    rw [applied_members, hmembers, Option.map_some, Option.some.injEq] at hmembers'
    subst hmembers'
    have hsame := hkept key member hmember
    rw [HashMap.lookup_map_values, hmember, Option.map_some, Option.some.injEq] at hsame
    exact hnow ((rename_member_last_seen_at hlinked).symm.trans
      (congrArg GroupMemberRecord.last_seen_at hsame))

end ContactProfileApplyInput

/-- That a profile never changes anything of another company. -/
def ProfilesFramed : Prop :=
  ∀ inner input ctx, ContactProfileApplyInput.Framed input inner (apply_contact_profile ctx inner input)

/-- Whenever a profile is applied it leaves the other companies alone exactly when all
that it reaches belongs to its own. -/
theorem profile_framed_iff (inner : StoreInner) (input : ContactProfileApplyInput) :
    (∀ ctx, input.Framed inner (apply_contact_profile ctx inner input)) ↔ input.Confined inner :=
  ⟨ContactProfileApplyInput.Confined.of_framed, fun h ctx => h.framed ctx⟩

/-- What company B learns about the person whose text company A has received. -/
def sample.profile_of_company_b : ContactProfileApplyInput where
  project_id := "acme"
  company_id := "company_b"
  channel_id := "channel_b"
  conversation_id := "5511988887777@s.whatsapp.net"
  contact_id := "5511988887777@s.whatsapp.net"
  push_name := some "Ana"
  profile :=
    { requested_jid := "5511988887777@s.whatsapp.net", resolved_jid := none, lid := none,
      phone_e164 := none, business_description := none, profile_picture_id := none,
      profile_picture_media_id := none, profile_picture_url := none }
  profile_lookup_succeeded := true

/-- The sender of company A's message takes the name that company B has learnt. -/
theorem foreign_message_renamed : ¬ ProfilesFramed := by
  intro hframed
  have hkept := (hframed (sample.live Store.empty [(sample.received.1, .store sample.received.2)]).inner
    sample.profile_of_company_b (sample.ctx 5 "c")).messages_by_id "msg_a0"
  have hfound : ((sample.live Store.empty
      [(sample.received.1, .store sample.received.2)]).inner.messages_by_id.lookup "msg_a0").any
        (fun message => !sample.profile_of_company_b.owns_message message &&
          message.sender_display_name ≠ some "Ana") = true := by decide
  obtain ⟨message, hmessage, htests⟩ := (Option.any_eq_true _ _).mp hfound
  rw [Bool.and_eq_true, Bool.not_eq_true', decide_eq_true_eq] at htests
  have hrenamed : ((apply_contact_profile (sample.ctx 5 "c")
      (sample.live Store.empty [(sample.received.1, .store sample.received.2)]).inner
      sample.profile_of_company_b).messages_by_id.lookup "msg_a0").any (fun message =>
        message.sender_display_name = some "Ana") = true := by decide
  rw [hkept message hmessage htests.1, Option.any_some, decide_eq_true_eq] at hrenamed
  exact htests.2 hrenamed

end rustzap.state
