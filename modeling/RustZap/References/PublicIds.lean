import RustZap.Tenants.Isolation

open collections runs
open rustzap.models rustzap.whatsapp

namespace rustzap.state

/-- A conversation id that a phone number leads to: the number's own JID, or an id of a
contact of the tenant that has the number. -/
def Linked (tenant : String × String) (contacts : HashMap String ContactRecord)
    (phone_number jid : String) : Prop :=
  jid = phone_to_jid phone_number ∨ ∃ contact ∈ contacts.values, contact.tenant = tenant ∧
    contact_phone_number contact = some phone_number ∧ jid ∈ contact_conversation_ids contact

/-- Of the tenant's conversations that a phone number leads to, this has the least id. -/
structure FirstLinked (tenant : String × String) (inner : StoreInner) (phone_number jid : String) : Prop where
  linked : Linked tenant inner.contacts phone_number jid
  conversation : HasConversation tenant inner jid
  least : ∀ other, Linked tenant inner.contacts phone_number other → HasConversation tenant inner other →
    jid ≤ other

section Resolve

variable {inner : StoreInner} {project_id company_id : String}

theorem has_conversation_iff {jid : String} :
    ((inner.conversations.lookup jid).any fun conversation =>
        conversation_matches_tenant conversation project_id company_id) = true ↔
      HasConversation (project_id, company_id) inner jid := by
  rw [HasConversation]
  cases inner.conversations.lookup jid with
  | none => exact ⟨fun h => absurd h Bool.false_ne_true, fun ⟨_, h, _⟩ => by cases h⟩
  | some conversation =>
    rw [Option.any_some, conversation_matches_tenant_eq, decide_eq_true_eq]
    exact ⟨fun h => ⟨conversation, rfl, h⟩, fun ⟨_, h, howner⟩ => Option.some.inj h ▸ howner⟩

/-- The ids that a phone number leads to, as the lookup goes through them. -/
def linked_ids (project_id company_id : String) (contacts : HashMap String ContactRecord)
    (phone_number : String) : List String :=
  (contacts.values.filter fun contact => contact.project_id = project_id && contact.company_id = company_id &&
    contact_phone_number contact = some phone_number).flatMap contact_conversation_ids ++
      [phone_to_jid phone_number]

theorem mem_linked_ids {contacts : HashMap String ContactRecord} {phone_number jid : String} :
    jid ∈ linked_ids project_id company_id contacts phone_number ↔
      Linked (project_id, company_id) contacts phone_number jid := by
  rw [linked_ids, List.mem_append, List.mem_singleton, or_comm, Linked, List.mem_flatMap]
  refine or_congr_right (exists_congr fun contact => ?_)
  simp only [List.mem_filter, Bool.and_eq_true, decide_eq_true_eq, ContactRecord.tenant, Prod.mk.injEq, and_assoc]

theorem conversation_id_for_phone_number_iff {phone_number jid : String} :
    conversation_id_for_phone_number_inner inner project_id company_id phone_number = some jid ↔
      FirstLinked (project_id, company_id) inner phone_number jid := by
  rw [conversation_id_for_phone_number_inner, ← linked_ids, str.find?_sort_dedup_eq_some_iff]
  simp only [mem_linked_ids, has_conversation_iff]
  exact ⟨fun ⟨hlinked, hconversation, hleast⟩ => ⟨hlinked, hconversation, hleast⟩,
    fun h => ⟨h.linked, h.conversation, h.least⟩⟩

/-- A reference is resolved to a conversation of the tenant where it is the
conversation's own id, or else a phone number that leads there first. -/
theorem resolve_conversation_id_iff {reference jid : String}
    (hjid : HasConversation (project_id, company_id) inner jid) :
    resolve_conversation_id_inner inner project_id company_id reference = jid ↔
      str.trim reference = jid ∨
        ¬ HasConversation (project_id, company_id) inner (str.trim reference) ∧
          ∃ phone_number, reference_phone_number (str.trim reference) = some phone_number ∧
            FirstLinked (project_id, company_id) inner phone_number jid := by
  unfold resolve_conversation_id_inner
  dsimp only
  split
  · next hown =>
    rw [has_conversation_iff] at hown
    exact ⟨Or.inl, fun h => h.resolve_right fun h => h.1 hown⟩
  · next hother =>
    rw [has_conversation_iff] at hother
    have htrim : str.trim reference ≠ jid := fun h => hother (h ▸ hjid)
    rw [or_iff_right htrim, and_iff_right hother]
    cases hnumber : reference_phone_number (str.trim reference) with
    | none =>
      exact ⟨fun h => absurd h htrim, fun ⟨_, h, _⟩ => by cases h⟩
    | some phone_number =>
      dsimp only
      simp only [Option.some.injEq, exists_eq_left']
      rw [← conversation_id_for_phone_number_iff]
      cases hfound : conversation_id_for_phone_number_inner inner project_id company_id phone_number with
      | some found => rw [Option.getD_some, Option.some.injEq]
      | none =>
        refine ⟨fun h => ?_, fun h => by cases h⟩
        -- the number's own conversation would have been found
        rw [conversation_id_for_phone_number_inner, List.find?_eq_none] at hfound
        exact absurd (has_conversation_iff.mpr hjid)
          (hfound jid (str.mem_sort_dedup.mpr (mem_linked_ids.mpr (Or.inl h.symm))))

end Resolve

/-- The id under which a conversation is shown, as a later request passes it on. -/
def shown_id (inner : StoreInner) (stored : Conversation) : String :=
  public_conversation_id (public_conversation inner stored)

/-- A request of the company that names a conversation by the id under which it is shown
finds the conversation. -/
structure RoundTrips (inner : StoreInner) (stored : Conversation) : Prop where
  resolved : resolve_conversation_id_inner inner stored.project_id stored.company_id (shown_id inner stored) =
    stored.id
  found : conversation_for_inner inner stored.project_id stored.company_id (shown_id inner stored) = .ok stored

/-- The shown id is the conversation's own, or it is no conversation's own and the phone
number in it leads to this conversation first. -/
def ShownIdLeadsBack (inner : StoreInner) (stored : Conversation) : Prop :=
  str.trim (shown_id inner stored) = stored.id ∨
    ¬ HasConversation stored.tenant inner (str.trim (shown_id inner stored)) ∧
      ∃ phone_number, reference_phone_number (str.trim (shown_id inner stored)) = some phone_number ∧
        FirstLinked stored.tenant inner phone_number stored.id

theorem shown_id_resolved_iff {inner : StoreInner} {stored : Conversation}
    (hstored : inner.conversations.lookup stored.id = some stored) :
    resolve_conversation_id_inner inner stored.project_id stored.company_id (shown_id inner stored) = stored.id ↔
      ShownIdLeadsBack inner stored :=
  resolve_conversation_id_iff ⟨stored, hstored, rfl⟩

/-- A conversation is found again under the id that responses show for it exactly when
that id is its own or its phone number leads to it first. -/
theorem public_id_round_trips_iff (store : Store) {stored : Conversation}
    (hstored : store.inner.conversations.lookup stored.id = some stored) :
    RoundTrips store.inner stored ↔ ShownIdLeadsBack store.inner stored := by
  constructor
  · intro h
    exact (shown_id_resolved_iff hstored).mp h.resolved
  · intro h
    have hresolved := (shown_id_resolved_iff hstored).mpr h
    refine ⟨hresolved, ?_⟩
    have howner : conversation_matches_tenant stored stored.project_id stored.company_id = true := by
      rw [conversation_matches_tenant_eq]
      exact decide_eq_true rfl
    rw [conversation_for_inner, hresolved, hstored, Option.filter_some, if_pos howner]

namespace sample

/-- A text of a person whose chat has another id than the phone number that comes with
it. -/
def lid_event (wa_message_id : String) (second : Nat) : MessageEvent :=
  { text_event wa_message_id second false with
    chat_jid := "200889293889773@lid"
    sender_jid := "200889293889773@lid"
    sender_alt_jid := some "5511988887777@s.whatsapp.net" }

/-- The person writes under the LID, and then under the phone number. -/
def two_chats : List (Ctx × Operation) :=
  [(ctx 1 "a", .store (.process_whatsapp_event company_a answers (.Message (lid_event "3EB0A0" 1)))),
    (ctx 2 "b", .store (.process_whatsapp_event company_a answers (.Message (text_event "3EB0B0" 2 false))))]

end sample

/-- Of the person's two chats, the phone number finds the one under the LID. -/
theorem lid_chat_round_trips :
    ∃ stored, (sample.live Store.empty sample.two_chats).inner.conversations.lookup stored.id = some stored ∧
      stored.id = "200889293889773@lid" ∧ RoundTrips (sample.live Store.empty sample.two_chats).inner stored := by
  have hany : ((sample.live Store.empty sample.two_chats).inner.conversations.lookup
      "200889293889773@lid").any (fun stored => stored.id = "200889293889773@lid" &&
        stored.tenant = ("acme", "company_a") &&
        shown_id (sample.live Store.empty sample.two_chats).inner stored = "5511988887777") = true := by decide
  have hfree : (sample.live Store.empty sample.two_chats).inner.conversations.lookup "5511988887777" = none := by
    decide
  -- the number is that of two contacts, which know each other's id
  have hlinked : "200889293889773@lid" ∈ linked_ids "acme" "company_a"
      (sample.live Store.empty sample.two_chats).inner.contacts "5511988887777" := by decide
  have hleast : ∀ other ∈ linked_ids "acme" "company_a"
      (sample.live Store.empty sample.two_chats).inner.contacts "5511988887777",
      "200889293889773@lid" ≤ other := by decide
  have hnumber : reference_phone_number (str.trim "5511988887777") = some "5511988887777" := by decide
  have htrim : str.trim "5511988887777" = "5511988887777" := by decide
  obtain ⟨stored, hstored, htest⟩ := (Option.any_eq_true _ _).mp hany
  rw [Bool.and_eq_true, Bool.and_eq_true, decide_eq_true_eq, decide_eq_true_eq, decide_eq_true_eq] at htest
  obtain ⟨⟨hid, htenant⟩, hshown⟩ := htest
  rw [← hid] at hstored
  have hback : ShownIdLeadsBack (sample.live Store.empty sample.two_chats).inner stored := by
    rw [ShownIdLeadsBack, hshown, htenant]
    refine Or.inr ⟨?_, "5511988887777", hnumber, ?_, ⟨stored, hstored, htenant⟩, fun other hother _ => ?_⟩
    · rintro ⟨conversation, hlookup, -⟩
      rw [htrim, hfree] at hlookup
      cases hlookup
    · rw [hid]
      exact mem_linked_ids.mp hlinked
    · rw [hid]
      exact hleast other (mem_linked_ids.mpr hother)
  exact ⟨stored, hstored, hid, (public_id_round_trips_iff _ hstored).mpr hback⟩

/-- The one under the phone number is shown under an id that leads to the other. -/
theorem phone_chat_does_not_round_trip :
    ¬ ∀ (self : AppState) (labels : List (Ctx × Operation)) (store : Store) (stored : Conversation),
      Run (Store.Lives self) Store.empty labels store →
        store.inner.conversations.lookup stored.id = some stored → RoundTrips store.inner stored := by
  intro hclaim
  have hrun := sample.lives sample.two_chats Store.empty (by decide)
  have hany : ((sample.live Store.empty sample.two_chats).inner.conversations.lookup
      "5511988887777@s.whatsapp.net").any (fun stored => stored.id = "5511988887777@s.whatsapp.net" &&
        resolve_conversation_id_inner (sample.live Store.empty sample.two_chats).inner stored.project_id
          stored.company_id (shown_id (sample.live Store.empty sample.two_chats).inner stored) =
            "200889293889773@lid") = true := by decide
  obtain ⟨stored, hstored, hresolved⟩ := (Option.any_eq_true _ _).mp hany
  rw [Bool.and_eq_true, decide_eq_true_eq, decide_eq_true_eq] at hresolved
  rw [← hresolved.1] at hstored
  have hback := (hclaim _ _ _ stored hrun hstored).resolved
  rw [hresolved.2, hresolved.1] at hback
  exact absurd hback (by decide)

end rustzap.state
