import RustZap.Consistency.Sequences

open collections serde_json runs
open rustzap.models rustzap.whatsapp

namespace rustzap.state

/-- Nothing in a snapshot is on an updates surface: no conversation, no message and no
list of messages, no contact and no group. -/
structure NoUpdatesSurfaces (store : PersistedStore) : Prop where
  conversations : ∀ conversation ∈ store.conversations.values,
    conversation_updates_surface conversation = false
  messages : ∀ message ∈ store.messages_by_id.values, message_updates_surface message = false
  listed : ∀ messages ∈ store.messages_by_conversation.values, ∀ message ∈ messages,
    message_updates_surface message = false
  lists : ∀ conversation_id ∈ store.messages_by_conversation.keys,
    is_updates_surface_jid conversation_id = false
  contacts : ∀ contact ∈ store.contacts.values, contact_updates_surface contact = false
  groups : ∀ group_id group, store.groups.lookup group_id = some group →
    group_updates_surface group_id group = false

/-- A medium that names a conversation which is not there. One that names an updates
surface is not kept and counts for nothing. -/
def Orphan (store : PersistedStore) (media : MediaObject) : Prop :=
  media ∈ store.media.values ∧ str.is_empty (str.trim media.conversation_id) = false ∧
    is_updates_surface_jid media.conversation_id = false ∧
    store.conversations.lookup media.conversation_id = none

section Sanitized

variable {store : PersistedStore}

theorem NoUpdatesSurfaces.disallowed (h : NoUpdatesSurfaces store) : disallowed_conversations store = [] := by
  rw [disallowed_conversations, List.append_eq_nil_iff, List.map_eq_nil_iff, List.filter_eq_nil_iff,
    List.filter_eq_nil_iff]
  constructor
  · intro conversation hmem
    exact Bool.eq_false_iff.mp (h.conversations conversation hmem)
  · intro conversation_id hmem
    exact Bool.eq_false_iff.mp (h.lists conversation_id hmem)

theorem NoUpdatesSurfaces.removed_ids (h : NoUpdatesSurfaces store) : removed_message_ids store = [] := by
  have hremoved : ∀ message, removed store message = message_updates_surface message := by
    intro message
    rw [removed, h.disallowed, List.contains_nil, Bool.false_or]
  rw [removed_message_ids, List.append_eq_nil_iff, List.map_eq_nil_iff, List.filter_eq_nil_iff,
    List.eq_nil_iff_forall_not_mem]
  constructor
  · intro message_id hmem
    obtain ⟨message, hmessage⟩ := HashMap.mem_keys_iff.mp hmem
    obtain ⟨hstored, hgone⟩ := HashMap.lookup_retain_eq_some_iff.mp hmessage
    rw [hremoved, h.messages message (HashMap.mem_values_of_lookup hstored)] at hgone
    cases hgone
  · intro message hmem
    obtain ⟨messages, hmessages, hmessage⟩ := List.mem_flatten.mp hmem
    rw [hremoved, h.listed messages hmessages message hmessage]
    exact Bool.false_ne_true

theorem NoUpdatesSurfaces.kept_conversations (h : NoUpdatesSurfaces store) :
    (without_updates_surfaces store).conversations = store.conversations := by
  have hconversations : (without_updates_surfaces store).conversations =
    store.conversations.retain fun _ conversation => !conversation_updates_surface conversation := rfl
  rw [hconversations]
  refine HashMap.retain_eq_self _ fun entry hmem => ?_
  rw [h.conversations entry.2 (List.mem_map_of_mem hmem)]
  rfl

theorem NoUpdatesSurfaces.kept_contacts (h : NoUpdatesSurfaces store) :
    (sanitize_updates_surfaces store).contacts = store.contacts := by
  have hcontacts : (sanitize_updates_surfaces store).contacts =
    store.contacts.retain fun _ contact => !contact_updates_surface contact := rfl
  rw [hcontacts]
  refine HashMap.retain_eq_self _ fun entry hmem => ?_
  rw [h.contacts entry.2 (List.mem_map_of_mem hmem)]
  rfl

theorem NoUpdatesSurfaces.kept_groups (h : NoUpdatesSurfaces store) :
    (sanitize_updates_surfaces store).groups = store.groups := by
  have hgroups : (sanitize_updates_surfaces store).groups =
    store.groups.retain fun group_id group => !group_updates_surface group_id group := rfl
  rw [hgroups]
  refine HashMap.retain_eq_self _ fun entry hmem => ?_
  rw [h.groups entry.1 entry.2 (HashMap.lookup_eq_some_iff.mpr hmem)]
  rfl

theorem NoUpdatesSurfaces.kept_media_lookup (h : NoUpdatesSurfaces store) (media_id : String) :
    (without_updates_surfaces store).media.lookup media_id =
      (store.media.lookup media_id).filter fun media => !is_updates_surface_jid media.conversation_id := by
  have hmedia : (without_updates_surfaces store).media = store.media.retain fun _ media =>
    !(disallowed_conversations store).contains media.conversation_id &&
      !is_updates_surface_jid media.conversation_id &&
      !media.message_id.any fun message_id => (removed_message_ids store).contains message_id := rfl
  rw [hmedia, HashMap.lookup_retain, h.disallowed, h.removed_ids]
  refine congrArg (Option.filter · _) (funext fun media => ?_)
  cases media.message_id <;> simp

/-- The list of a conversation that comes through with all its messages. -/
theorem NoUpdatesSurfaces.kept_list (h : NoUpdatesSurfaces store) (conversation_id : String) :
    ((sanitize_updates_surfaces store).messages_by_conversation.lookup conversation_id).getD [] =
      (store.messages_by_conversation.lookup conversation_id).getD [] := by
  rw [sanitized_messages_by_conversation_lookup, h.disallowed, h.removed_ids]
  cases hmessages : store.messages_by_conversation.lookup conversation_id with
  | none => rfl
  | some messages =>
    have hall : (messages.filter fun message =>
        !([] : List String).contains message.id && !message_updates_surface message) = messages := by
      rw [List.filter_eq_self]
      intro message hmem
      rw [h.listed messages (HashMap.mem_values_of_lookup hmessages) message hmem]
      rfl
    rw [Option.map_some, hall, h.lists conversation_id (HashMap.mem_keys_of_lookup hmessages)]
    cases messages <;> rfl

/-- Without an orphan no placeholder is made. -/
theorem NoUpdatesSurfaces.sanitized_conversations (h : NoUpdatesSurfaces store)
    (horphans : ¬ ∃ media, Orphan store media) :
    (sanitize_updates_surfaces store).conversations = store.conversations := by
  have hnone : ((without_updates_surfaces store).media.values.filter fun media =>
      !str.is_empty (str.trim media.conversation_id) &&
        ((without_updates_surfaces store).conversations.lookup media.conversation_id).isNone) = [] := by
    rw [List.filter_eq_nil_iff, h.kept_conversations]
    intro media hmem horphan
    obtain ⟨media_id, hmedia⟩ := HashMap.mem_values_iff.mp hmem
    rw [h.kept_media_lookup, Option.filter_eq_some_iff, Bool.not_eq_true'] at hmedia
    rw [Bool.and_eq_true, Bool.not_eq_true', Option.isNone_iff_eq_none] at horphan
    exact horphans ⟨media, HashMap.mem_values_of_lookup hmedia.1, horphan.1, hmedia.2, horphan.2⟩
  rw [sanitize_updates_surfaces, ensure_media_conversation_placeholders, hnone]
  exact h.kept_conversations

/-- What has been sanitized once is on no updates surface. -/
theorem sanitized_no_updates_surfaces (store : PersistedStore) :
    NoUpdatesSurfaces (sanitize_updates_surfaces store) where
  conversations conversation hmem := by
    have hnone := (List.append_eq_nil_iff.mp (disallowed_conversations_sanitized store)).1
    rw [List.map_eq_nil_iff, List.filter_eq_nil_iff] at hnone
    exact Bool.eq_false_iff.mpr (hnone conversation hmem)
  messages message hmem := by
    obtain ⟨message_id, hmessage⟩ := HashMap.mem_values_iff.mp hmem
    exact (lookup_sanitized_messages_by_id_eq_some_iff.mp hmessage).2.2.2
  listed messages hmem := by
    obtain ⟨conversation_id, hmessages⟩ := HashMap.mem_values_iff.mp hmem
    exact (lookup_sanitized_messages_by_conversation hmessages).2
  lists conversation_id hmem := by
    obtain ⟨messages, hmessages⟩ := HashMap.mem_keys_iff.mp hmem
    exact (lookup_sanitized_messages_by_conversation hmessages).1
  contacts contact hmem := by
    obtain ⟨contact_id, hcontact⟩ := HashMap.mem_values_iff.mp hmem
    have hcontacts : (sanitize_updates_surfaces store).contacts =
      store.contacts.retain fun _ contact => !contact_updates_surface contact := rfl
    rw [hcontacts] at hcontact
    simpa using (HashMap.lookup_retain_eq_some_iff.mp hcontact).2
  groups group_id group hgroup := by
    have hgroups : (sanitize_updates_surfaces store).groups =
      store.groups.retain fun group_id group => !group_updates_surface group_id group := rfl
    rw [hgroups] at hgroup
    simpa using (HashMap.lookup_retain_eq_some_iff.mp hgroup).2

/-- A sanitized store has a conversation for each of its media. -/
theorem sanitized_no_orphan (store : PersistedStore) :
    ¬ ∃ media, Orphan (sanitize_updates_surfaces store) media := by
  rintro ⟨media, hmem, hblank, -, hnone⟩
  rw [sanitized_conversations_lookup, Option.or_eq_none_iff] at hnone
  obtain ⟨hgone, hplaced⟩ := hnone
  have hconversations : (without_updates_surfaces store).conversations =
    store.conversations.retain fun _ conversation => !conversation_updates_surface conversation := rfl
  rw [Option.map_eq_none_iff, List.find?_eq_none] at hplaced
  refine hplaced media hmem ?_
  rw [hconversations, HashMap.lookup_retain, hgone, hblank]
  simp

/-- A medium without its conversation brings one into the snapshot. -/
theorem Orphan.placed (h : NoUpdatesSurfaces store) {media : MediaObject} (horphan : Orphan store media) :
    ∃ conversation, (sanitize_updates_surfaces store).conversations.lookup media.conversation_id =
      some conversation := by
  obtain ⟨hmem, hblank, hsurface, hnone⟩ := horphan
  cases hplaced : (sanitize_updates_surfaces store).conversations.lookup media.conversation_id with
  | some conversation => exact ⟨conversation, rfl⟩
  | none =>
    refine absurd ⟨media, ?_, hblank, hsurface, hplaced⟩ (sanitized_no_orphan store)
    obtain ⟨media_id, hmedia⟩ := HashMap.mem_values_iff.mp hmem
    have hkept : (sanitize_updates_surfaces store).media.lookup media_id =
        (store.media.lookup media_id).filter fun media => !is_updates_surface_jid media.conversation_id :=
      h.kept_media_lookup media_id
    rw [hmedia, Option.filter_some_pos (by simp [hsurface])] at hkept
    exact HashMap.mem_values_of_lookup hkept

end Sanitized

/-- Nothing in the store is on an updates surface: no conversation, message, contact or
group. -/
structure OffUpdatesSurfaces (inner : StoreInner) : Prop where
  conversations : ∀ conversation ∈ inner.conversations.values,
    conversation_updates_surface conversation = false
  messages : ∀ message ∈ inner.messages_by_id.values, message_updates_surface message = false
  contacts : ∀ contact ∈ inner.contacts.values, contact_updates_surface contact = false
  groups : ∀ group_id group, inner.groups.lookup group_id = some group →
    group_updates_surface group_id group = false

/-- Every list of messages has its conversation. -/
def ListsHaveConversations (inner : StoreInner) : Prop :=
  ∀ conversation_id, (inner.messages_by_conversation.lookup conversation_id).isSome →
    (inner.conversations.lookup conversation_id).isSome

theorem ListsHaveConversations.change {ctx : Ctx} {on_queue : Prop} {inner inner' : StoreInner}
    (hchange : Change ctx (.quiet on_queue) inner inner') (h : ListsHaveConversations inner) :
    ListsHaveConversations inner' := by
  cases hchange with
  | aside hsame =>
    unfold ListsHaveConversations
    rw [hsame.messages_by_conversation, hsame.conversations]
    exact h
  | record hrecorded hnew hquiet => exact absurd trivial (hquiet "" "")
  | rewrite hold hsame hwa =>
    intro conversation_id hlist
    refine h conversation_id ?_
    unfold store_message at hlist
    dsimp only at hlist
    split at hlist
    · next messages hmessages =>
      rw [HashMap.lookup_insert_ite] at hlist
      split at hlist
      · next heq =>
        rw [heq, hmessages]
        rfl
      · exact hlist
    · exact hlist
  | rewrite_all f hsame hwa =>
    intro conversation_id hlist
    dsimp only at hlist
    rw [HashMap.lookup_map_values, Option.isSome_map] at hlist
    exact h conversation_id hlist
  | converse hsame =>
    intro conversation_id hlist
    dsimp only
    rw [HashMap.lookup_insert_ite]
    split
    · rfl
    · exact h conversation_id hlist
  | converse_all f hsame =>
    intro conversation_id hlist
    dsimp only
    rw [HashMap.lookup_map_values, Option.isSome_map]
    exact h conversation_id hlist
  | mark now project_id company_id conversation_id seq hseq => exact h
  | poll now project_id company_id consumer_id limit hpolls => exact h
  | ack request hdirty hacks =>
    unfold ListsHaveConversations acked
    dsimp only
    split <;> exact h

theorem sanitized_conversations_kept {store : PersistedStore} {conversation_id : String}
    (hsome : (store.conversations.lookup conversation_id).isSome)
    (hsurface : on_updates_surface store.conversations conversation_id = false) :
    ((sanitize_updates_surfaces store).conversations.lookup conversation_id).isSome := by
  obtain ⟨conversation, hconversation⟩ := Option.isSome_iff_exists.mp hsome
  rw [on_updates_surface, hconversation, Option.any_some] at hsurface
  rw [sanitized_conversations_lookup, hconversation, Option.filter_some_pos (by simp [hsurface])]
  rfl

theorem ListsHaveConversations.restarted {inner : StoreInner} (hkeyed : inner.WellKeyed)
    (h : ListsHaveConversations inner) : ListsHaveConversations (restarted inner) := by
  intro conversation_id hlist
  obtain ⟨messages, hmessages⟩ := Option.isSome_iff_exists.mp hlist
  obtain ⟨hallowed, stored, hstored, -⟩ := of_restarted_messages_by_conversation_lookup hmessages
  have hsurface : on_updates_surface inner.to_persisted.conversations conversation_id = false :=
    not_on_updates_surface hkeyed.conversations hallowed
  have hsome : (inner.to_persisted.conversations.lookup conversation_id).isSome :=
    h conversation_id (by rw [hstored]; rfl)
  rw [restarted_conversations]
  exact sanitized_conversations_kept (sanitized_conversations_kept hsome hsurface)
    (sanitized_not_on_updates_surface conversation_id)

theorem lists_have_conversations_preserved : Preserved ListsHaveConversations where
  reordered s t hreordered h conversation_id hlist := by
    rw [← hreordered.messages_by_conversation.lookup] at hlist
    rw [← hreordered.conversations.lookup]
    exact h conversation_id hlist
  recorded _ _ _ _ _ hrecorded _ h := by
    obtain ⟨conversation, contacts, group_members, events, -, rfl⟩ := hrecorded
    intro conversation_id hlist
    dsimp only at hlist ⊢
    rw [HashMap.lookup_insert_ite] at hlist ⊢
    split
    · rfl
    · next hne =>
      rw [if_neg hne] at hlist
      exact h conversation_id hlist
  changed _ _ _ _ _ hchange h := h.change hchange
  removed s message_ids media_ids _ h conversation_id hlist := by
    dsimp only [state.remove_expired] at hlist ⊢
    rw [HashMap.lookup_map_values, Option.isSome_map] at hlist
    exact h conversation_id hlist
  restarted _ hkeyed h := h.restarted hkeyed

/-- Reads find the same conversations in two stores: the lists of the companies show
the same ones, each is of the same type with the same count, and has the same
messages. -/
structure SameConversations (inner inner' : StoreInner) : Prop where
  listed : ∀ project_id company_id,
    (conversations inner' project_id company_id).Perm (conversations inner project_id company_id)
  conversation_type : ∀ conversation_id,
    (inner'.conversations.lookup conversation_id).map Conversation.conversation_type =
      (inner.conversations.lookup conversation_id).map Conversation.conversation_type
  last_seq : ∀ conversation_id, (inner'.conversations.lookup conversation_id).map Conversation.last_seq =
    (inner.conversations.lookup conversation_id).map Conversation.last_seq
  messages : ∀ conversation_id, (inner'.messages_by_conversation.lookup conversation_id).getD [] =
    (inner.messages_by_conversation.lookup conversation_id).getD []

section Restarted

variable {inner : StoreInner}

theorem OffUpdatesSurfaces.persisted (h : OffUpdatesSurfaces inner) (hkeyed : inner.WellKeyed)
    (hagree : IndexesAgree inner) (hlists : ListsHaveConversations inner) :
    NoUpdatesSurfaces inner.to_persisted where
  conversations := h.conversations
  messages := h.messages
  listed messages hmem message hmessage := by
    obtain ⟨conversation_id, hmessages⟩ := HashMap.mem_values_iff.mp hmem
    exact h.messages message
      (HashMap.mem_values_of_lookup (Grouped.Agree.of_mem hagree hmessages hmessage).1)
  lists conversation_id hmem := by
    -- the list's conversation would be on the surface itself
    obtain ⟨messages, hmessages⟩ := HashMap.mem_keys_iff.mp hmem
    have hsome : (inner.messages_by_conversation.lookup conversation_id).isSome :=
      Option.isSome_iff_exists.mpr ⟨messages, hmessages⟩
    obtain ⟨conversation, hconversation⟩ := Option.isSome_iff_exists.mp (hlists conversation_id hsome)
    have hoff := h.conversations conversation (HashMap.mem_values_of_lookup hconversation)
    rw [conversation_updates_surface, Bool.or_eq_false_iff, Bool.or_eq_false_iff,
      hkeyed.conversations _ _ hconversation] at hoff
    exact hoff.1.1
  contacts := h.contacts
  groups := h.groups

theorem public_conversation_congr {inner' : StoreInner} (hcontacts : inner'.contacts = inner.contacts)
    (hgroups : inner'.groups = inner.groups) : public_conversation inner' = public_conversation inner := by
  funext conversation
  unfold public_conversation apply_public_conversation_fields conversation_phone_number_for_inner
  rw [hcontacts, hgroups]

theorem restarted_conversations_eq (inner : StoreInner) : (restarted inner).conversations =
    (sanitize_updates_surfaces inner.to_persisted).conversations :=
  (sanitized_no_updates_surfaces inner.to_persisted).sanitized_conversations
    (sanitized_no_orphan inner.to_persisted)

theorem NoUpdatesSurfaces.same_conversations (h : NoUpdatesSurfaces inner.to_persisted)
    (horphans : ¬ ∃ media, Orphan inner.to_persisted media) : SameConversations inner (restarted inner) := by
  have hagain := sanitized_no_updates_surfaces inner.to_persisted
  have hconversations : (restarted inner).conversations = inner.conversations :=
    (restarted_conversations_eq inner).trans (h.sanitized_conversations horphans)
  have hcontacts : (restarted inner).contacts = inner.contacts := hagain.kept_contacts.trans h.kept_contacts
  have hgroups : (restarted inner).groups = inner.groups := hagain.kept_groups.trans h.kept_groups
  constructor
  · intro project_id company_id
    unfold state.conversations
    rw [hconversations, public_conversation_congr hcontacts hgroups]
  · intro conversation_id
    rw [hconversations]
  · intro conversation_id
    rw [hconversations]
  · intro conversation_id
    exact (hagain.kept_list conversation_id).trans (h.kept_list conversation_id)

theorem public_conversation_id_eq (inner : StoreInner) (conversation : Conversation) :
    (public_conversation inner conversation).id = conversation.id := by
  unfold public_conversation apply_public_conversation_fields
  dsimp only
  repeat' split
  all_goals rfl

/-- The conversations that a company's list shows are the stored ones. -/
theorem mem_conversations_ids {project_id company_id conversation_id : String} :
    conversation_id ∈ (conversations inner project_id company_id).map Conversation.id ↔
      ∃ conversation ∈ inner.conversations.values, conversation.id = conversation_id ∧
        conversation.project_id = project_id ∧ conversation.company_id = company_id := by
  rw [conversations, List.mem_map]
  constructor
  · rintro ⟨shown, hshown, rfl⟩
    obtain ⟨conversation, hmem, rfl⟩ := List.mem_map.mp ((sort_by_perm _ _).mem_iff.mp hshown)
    obtain ⟨hmem, htenant⟩ := List.mem_filter.mp hmem
    rw [Bool.and_eq_true, decide_eq_true_eq, decide_eq_true_eq] at htenant
    exact ⟨conversation, hmem, (public_conversation_id_eq inner conversation).symm, htenant⟩
  · rintro ⟨conversation, hmem, rfl, rfl, rfl⟩
    refine ⟨_, (sort_by_perm _ _).mem_iff.mpr (List.mem_map_of_mem (List.mem_filter.mpr ⟨hmem, ?_⟩)),
      public_conversation_id_eq inner conversation⟩
    simp

/-- Where the company's lists are as they were, no medium was without its
conversation. -/
theorem SameConversations.no_orphan (hsame : SameConversations inner (restarted inner))
    (hkeyed : inner.WellKeyed) (h : NoUpdatesSurfaces inner.to_persisted) :
    ¬ ∃ media, Orphan inner.to_persisted media := by
  rintro ⟨media, horphan⟩
  obtain ⟨conversation, hplaced⟩ := horphan.placed h
  have hkeyed' : inner.to_persisted.conversations.Keyed Conversation.id := hkeyed.conversations
  have hid := sanitized_conversations_keyed hkeyed' _ _ hplaced
  have hshown := mem_conversations_ids.mpr ⟨conversation, HashMap.mem_values_of_lookup
    ((congrArg (AList.lookup _) (restarted_conversations_eq inner)).trans hplaced), hid, rfl, rfl⟩
  rw [((hsame.listed _ _).map _).mem_iff, mem_conversations_ids] at hshown
  obtain ⟨stored, hmem, hstored, -⟩ := hshown
  obtain ⟨key, hkey⟩ := HashMap.mem_values_iff.mp hmem
  have hnone : inner.conversations.lookup media.conversation_id = none := horphan.2.2.2
  rw [← hstored, hkeyed.conversations key stored hkey, hkey] at hnone
  cases hnone

end Restarted

/-- That a restart neither invents nor drops conversations of a service that has
nothing on an updates surface. -/
def RestartKeepsConversations (self : AppState) : Prop :=
  ∀ labels store, Run (Store.Lives self) Store.empty labels store → OffUpdatesSurfaces store.inner →
    SameConversations store.inner (restarted store.inner)

/-- In every state that the service can reach with nothing on an updates surface, a
restart keeps the conversations exactly when every stored medium that names a
conversation, and no updates surface, names one that is there. -/
theorem restart_keeps_conversations_iff (self : AppState) {labels : List (Ctx × Operation)} {store : Store}
    (hrun : Run (Store.Lives self) Store.empty labels store) (hoff : OffUpdatesSurfaces store.inner) :
    SameConversations store.inner (restarted store.inner) ↔
      ∀ media ∈ store.inner.media.values, str.is_empty (str.trim media.conversation_id) = false →
        is_updates_surface_jid media.conversation_id = false →
        ∃ conversation, store.inner.conversations.lookup media.conversation_id = some conversation := by
  have hagree : IndexesAgree store.inner := indexes_agree_preserved.run hrun Grouped.Agree.empty
  have hlists : ListsHaveConversations store.inner := lists_have_conversations_preserved.run hrun nofun
  have hclean := hoff.persisted store.keyed hagree hlists
  constructor
  · intro hsame media hmem hblank hsurface
    rw [← Option.ne_none_iff_exists']
    intro hnone
    exact hsame.no_orphan store.keyed hclean ⟨media, hmem, hblank, hsurface, hnone⟩
  · intro hnamed
    refine hclean.same_conversations ?_
    rintro ⟨media, hmem, hblank, hsurface, hnone⟩
    obtain ⟨conversation, hconversation⟩ := hnamed media hmem hblank hsurface
    exact absurd (hconversation.symm.trans hnone) (Option.some_ne_none conversation)

namespace sample

def off_updates_surfaces (inner : StoreInner) : Bool :=
  inner.conversations.values.all (fun conversation => !conversation_updates_surface conversation) &&
    inner.messages_by_id.values.all (fun message => !message_updates_surface message) &&
    inner.contacts.values.all (fun contact => !contact_updates_surface contact) &&
    inner.groups.entries.all (fun entry => !group_updates_surface entry.1 entry.2)

theorem off_of_check {inner : StoreInner} (h : off_updates_surfaces inner = true) :
    OffUpdatesSurfaces inner := by
  simp only [off_updates_surfaces, Bool.and_eq_true, List.all_eq_true, Bool.not_eq_true'] at h
  exact ⟨h.1.1.1, h.1.1.2, h.1.2, fun group_id group hgroup =>
    h.2 ⟨group_id, group⟩ (HashMap.lookup_eq_some_iff.mp hgroup)⟩

/-- The picture of a contact is stored, who may be no more than the member of a group. -/
def picture_stored (contact_id : String) : Ctx × Operation :=
  (ctx 2 "p", .store_profile_picture_media_bytes "acme" "company_a" "channel_a" "contact" contact_id
    [0x89, 0x50, 0x4E, 0x47, 0x0D, 0x0A, 0x1A, 0x0A] (.ok ()))

end sample

/-- The picture of a contact without a conversation becomes a conversation with it. -/
theorem picture_becomes_conversation : ¬ RestartKeepsConversations sample.service := by
  intro hkeeps
  have hrun := sample.lives [sample.picture_stored "5511977776666@s.whatsapp.net"] Store.empty (by decide)
  have hsame := hkeeps _ _ hrun (sample.off_of_check (by decide))
  have hlength := (hsame.listed "acme" "company_a").length_eq
  exact absurd hlength (by decide)

/-- With the conversation there, nothing is invented. -/
theorem picture_of_known_contact_kept :
    SameConversations
      (sample.live Store.empty [(sample.received.1, .store sample.received.2),
        sample.picture_stored "5511988887777@s.whatsapp.net"]).inner
      (restarted (sample.live Store.empty [(sample.received.1, .store sample.received.2),
        sample.picture_stored "5511988887777@s.whatsapp.net"]).inner) := by
  have hrun := sample.lives [(sample.received.1, .store sample.received.2),
    sample.picture_stored "5511988887777@s.whatsapp.net"] Store.empty (by decide)
  refine (restart_keeps_conversations_iff _ hrun (sample.off_of_check (by decide))).mpr ?_
  have hnamed : (sample.live Store.empty [(sample.received.1, .store sample.received.2),
      sample.picture_stored "5511988887777@s.whatsapp.net"]).inner.media.values.all (fun media =>
        ((sample.live Store.empty [(sample.received.1, .store sample.received.2),
          sample.picture_stored "5511988887777@s.whatsapp.net"]).inner.conversations.lookup
            media.conversation_id).isSome) = true := by decide
  intro media hmem _ _
  exact Option.isSome_iff_exists.mp (List.all_eq_true.mp hnamed media hmem)

end rustzap.state
