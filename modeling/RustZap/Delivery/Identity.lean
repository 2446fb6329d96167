import RustZap.State.Operations

open collections runs
open rustzap.models

namespace rustzap.state

/-- What tells a message apart outside of the service: channel, WhatsApp id and
direction. The index `idx_messages_external_dedupe` of the relational schema is
on these three. -/
def external_identity (message : Message) : Option (String × String × String) :=
  message.wa_message_id.map fun wa_message_id =>
    (message.channel_account_id, wa_message_id, message.direction)

def identity_at (inner : StoreInner) (message_id : String) : Option (String × String × String) :=
  (inner.messages_by_id.lookup message_id).bind external_identity

/-- No two messages share their external identity. -/
def UniqueIdentity (inner : StoreInner) : Prop :=
  ∀ id id' identity, identity_at inner id = some identity → identity_at inner id' = some identity →
    id = id'

/-- The message is one of this channel and direction. -/
def Belongs (inner : StoreInner) (message_id channel_id direction : String) : Prop :=
  ∃ message, inner.messages_by_id.lookup message_id = some message ∧
    message.channel_account_id = channel_id ∧ message.direction = direction

/-- The operation brings no external identity into the store that a message has
already. The placeholder that it may draw for a new message is new, and a
WhatsApp id that it gives to a message belongs to no other message of the same
channel and direction: the echo of a send has not been recorded while its
dispatch is under way. -/
structure KeepsApart (store : Store) (label : Ctx × StoreOp) : Prop where
  fresh : ∀ message ∈ store.inner.messages_by_id.values,
    message.wa_message_id ≠ some ("wa_" ++ label.1.uuid 1)
  alone : ∀ id wa, label.2.gives label.1 store.inner id wa →
    ∀ channel direction, Belongs store.inner id channel direction →
      ∀ other, identity_at store.inner other = some (channel, wa, direction) → other = id

/-- An echo that comes in after the result of the dispatch does no harm: when the operation
gives out a WhatsApp id, no message has it yet, and an event gives none. -/
theorem KeepsApart.of_unseen {store : Store} {label : Ctx × StoreOp}
    (hfresh : ∀ message ∈ store.inner.messages_by_id.values,
      message.wa_message_id ≠ some ("wa_" ++ label.1.uuid 1))
    (hunseen : ∀ id wa, label.2.gives label.1 store.inner id wa →
      ∀ message ∈ store.inner.messages_by_id.values, message.wa_message_id ≠ some wa) :
    KeepsApart store label where
  fresh := hfresh
  alone id wa hgives channel direction _ other hother := by
    obtain ⟨message, hmessage, hidentity⟩ := Option.bind_eq_some_iff.mp hother
    obtain ⟨wa', hwa, heq⟩ := Option.map_eq_some_iff.mp hidentity
    obtain ⟨-, rfl, -⟩ : _ ∧ wa' = wa ∧ _ := by simpa using heq
    exact absurd hwa (hunseen id wa' hgives message (HashMap.mem_values_of_lookup hmessage))

/-- How the external identities stand in the course of an operation. The first
message that takes the placeholder keeps it to itself. -/
structure Apart (ctx : Ctx) (effects : Effects) (inner : StoreInner) : Prop where
  unique : UniqueIdentity inner
  fresh : (∀ id wa, ¬ effects.gives id wa) → ∀ id channel direction,
    identity_at inner id = some (channel, "wa_" ++ ctx.uuid 1, direction) → id = "msg_" ++ ctx.uuid 0
  alone : ∀ id wa, effects.gives id wa → ∀ channel direction, Belongs inner id channel direction →
    ∀ other, identity_at inner other = some (channel, wa, direction) → other = id

section Identity

variable {ctx : Ctx} {effects : Effects} {inner inner' : StoreInner}

theorem external_identity_of_same {old new : Message} (hsame : SameMessage old new)
    (hwa : new.wa_message_id = old.wa_message_id) : external_identity new = external_identity old := by
  rw [external_identity, external_identity, hwa, hsame.channel_account_id, hsame.direction]

theorem identity_at_insert {message_id : String} {message : Message}
    (h : inner'.messages_by_id = inner.messages_by_id.insert message_id message) (id : String) :
    identity_at inner' id =
      if id = message_id then external_identity message else identity_at inner id := by
  rw [identity_at, h, HashMap.lookup_insert_ite]
  split
  · rfl
  · rfl

/-- An identity that no other message has can be given to a message. -/
theorem UniqueIdentity.insert (hunique : UniqueIdentity inner) {message_id : String} {message : Message}
    (h : inner'.messages_by_id = inner.messages_by_id.insert message_id message)
    (hfree : ∀ identity, external_identity message = some identity →
      ∀ other, identity_at inner other = some identity → other = message_id) :
    UniqueIdentity inner' := by
  intro id id' identity hid hid'
  rw [identity_at_insert h] at hid hid'
  split at hid <;> split at hid'
  · next heq heq' => rw [heq, heq']
  · next heq hne => exact absurd (hfree identity hid id' hid') hne
  · next hne heq' => exact absurd (hfree identity hid' id hid) hne
  · exact hunique id id' identity hid hid'

theorem Apart.of_same_identities (h : Apart ctx effects inner)
    (hidentity : ∀ id, identity_at inner' id = identity_at inner id)
    (hbelongs : ∀ id channel direction, Belongs inner' id channel direction →
      Belongs inner id channel direction) : Apart ctx effects inner' where
  unique id id' identity hid hid' :=
    h.unique id id' identity ((hidentity id).symm.trans hid) ((hidentity id').symm.trans hid')
  fresh hquiet id channel direction hid :=
    h.fresh hquiet id channel direction ((hidentity id).symm.trans hid)
  alone id wa hgives channel direction hhome other hother :=
    h.alone id wa hgives channel direction (hbelongs id channel direction hhome) other
      ((hidentity other).symm.trans hother)

/-- A rewritten message stays in its channel and direction. -/
theorem Belongs.of_rewrite {message_id : String} {old new : Message}
    (hold : inner.messages_by_id.lookup message_id = some old) (hsame : SameMessage old new)
    (h : inner'.messages_by_id = inner.messages_by_id.insert message_id new) {id channel direction : String}
    (hbelongs : Belongs inner' id channel direction) : Belongs inner id channel direction := by
  obtain ⟨message, hmessage, hchannel, hdirection⟩ := hbelongs
  rw [h, HashMap.lookup_insert_ite] at hmessage
  split at hmessage
  · next heq =>
    cases hmessage
    exact ⟨old, heq ▸ hold, hsame.channel_account_id.symm.trans hchannel,
      hsame.direction.symm.trans hdirection⟩
  · exact ⟨message, hmessage, hchannel, hdirection⟩

theorem Apart.record (h : Apart ctx effects inner) {message : Message} (hnew : NewMessage ctx inner message)
    (hquiet : ∀ id wa, ¬ effects.gives id wa)
    (heq : inner'.messages_by_id = inner.messages_by_id.insert message.id message) :
    Apart ctx effects inner' := by
  refine ⟨h.unique.insert heq ?_, ?_, fun id wa hgives => absurd hgives (hquiet id wa)⟩
  · intro identity hidentity other hother
    obtain ⟨wa, hwa, rfl⟩ := Option.map_eq_some_iff.mp hidentity
    rcases hnew.identity wa hwa with rfl | hfree
    · rw [hnew.id]
      exact h.fresh hquiet other _ _ hother
    · -- the identity came in from outside, and the store was searched for it
      obtain ⟨stored, hstored, hsame⟩ := Option.bind_eq_some_iff.mp hother
      obtain ⟨wa', hwa', hsame⟩ := Option.map_eq_some_iff.mp hsame
      obtain ⟨hchannel, rfl, hdirection⟩ : stored.channel_account_id = message.channel_account_id ∧
          wa' = wa ∧ stored.direction = message.direction := by simpa using hsame
      have hnone := hfree stored (HashMap.mem_values_of_lookup hstored)
      simp [has_external_identity, hchannel, hwa', hdirection] at hnone
  · intro _ id channel direction hid
    rw [identity_at_insert heq] at hid
    split at hid
    · next hmessage => rw [hmessage, hnew.id]
    · exact h.fresh hquiet id channel direction hid

theorem Apart.rewrite (h : Apart ctx effects inner)
    (honce : ∀ id id' wa wa', effects.gives id wa → effects.gives id' wa' → id = id') {message_id : String}
    {old new : Message} (hold : inner.messages_by_id.lookup message_id = some old)
    (hsame : SameMessage old new)
    (hwa : new.wa_message_id = old.wa_message_id ∨
      ∃ wa, effects.gives message_id wa ∧ new.wa_message_id = some wa)
    (heq : inner'.messages_by_id = inner.messages_by_id.insert message_id new) :
    Apart ctx effects inner' := by
  rcases hwa with hkept | ⟨wa, hgives, hgiven⟩
  · refine h.of_same_identities (fun id => ?_) (fun _ _ _ => Belongs.of_rewrite hold hsame heq)
    rw [identity_at_insert heq]
    split
    · next hid => rw [hid, external_identity_of_same hsame hkept, identity_at, hold, Option.bind_some]
    · rfl
  · refine ⟨h.unique.insert heq ?_, fun hquiet => absurd hgives (hquiet _ _), ?_⟩
    · intro identity hidentity other hother
      rw [external_identity, hgiven, hsame.channel_account_id, hsame.direction, Option.map_some] at hidentity
      cases hidentity
      exact h.alone message_id wa hgives _ _ ⟨old, hold, rfl, rfl⟩ other hother
    · intro id wa' hgives' channel direction hbelongs other hother
      rw [identity_at_insert heq] at hother
      split at hother
      · next hmessage => exact hmessage.trans (honce _ _ _ _ hgives hgives')
      · exact h.alone id wa' hgives' channel direction (hbelongs.of_rewrite hold hsame heq) other hother

theorem Apart.change (honce : ∀ id id' wa wa', effects.gives id wa → effects.gives id' wa' → id = id')
    (h : Apart ctx effects inner) (hchange : Change ctx effects inner inner') : Apart ctx effects inner' := by
  cases hchange.messages with
  | none heq =>
    refine h.of_same_identities (fun id => ?_) (fun id channel direction hbelongs => ?_)
    · rw [identity_at, heq, identity_at]
    · rw [Belongs, heq] at hbelongs
      exact hbelongs
  | record hnew hquiet heq => exact h.record hnew hquiet heq
  | rewrite hold hsame hwa heq => exact h.rewrite honce hold hsame hwa heq
  | rewrite_all f hsame hwa heq =>
    refine h.of_same_identities (fun id => ?_) (fun id channel direction hbelongs => ?_)
    · rw [identity_at, heq, HashMap.lookup_map_values, identity_at]
      cases inner.messages_by_id.lookup id with
      | none => rfl
      | some message => exact external_identity_of_same (hsame message) (hwa message)
    · obtain ⟨message, hmessage, hchannel, hdirection⟩ := hbelongs
      rw [heq, HashMap.lookup_map_values, Option.map_eq_some_iff] at hmessage
      obtain ⟨stored, hstored, rfl⟩ := hmessage
      exact ⟨stored, hstored, (hsame stored).channel_account_id.symm.trans hchannel,
        (hsame stored).direction.symm.trans hdirection⟩

end Identity

/-- An operation gives a WhatsApp id to one message at most. -/
theorem StoreOp.gives_once {ctx : Ctx} {inner : StoreInner} {op : StoreOp} {id id' wa wa' : String}
    (h : op.gives ctx inner id wa) (h' : op.gives ctx inner id' wa') : id = id' := by
  cases op with
  | update_outbound_after_dispatch message wa_message_id status error_message =>
    cases wa_message_id with
    | none => exact h.elim
    | some wa_message_id => exact h.1.symm.trans h'.1
  | process_outbound_send_request event answers => exact Option.some.inj (h.1.symm.trans h'.1)
  | _ => exact h.elim

theorem UniqueIdentity.reordered {inner inner' : StoreInner} (h : UniqueIdentity inner)
    (hreordered : inner.Reordered inner') : UniqueIdentity inner' := by
  have hidentity : ∀ id, identity_at inner' id = identity_at inner id := fun id => by
    rw [identity_at, ← hreordered.messages_by_id.lookup, identity_at]
  intro id id' identity hid hid'
  exact h id id' identity ((hidentity id).symm.trans hid) ((hidentity id').symm.trans hid')

theorem UniqueIdentity.step {self : AppState} {store store' : Store} {label : Ctx × StoreOp}
    (h : UniqueIdentity store.inner) (hok : KeepsApart store label)
    (hstep : Store.Step self store label store') : UniqueIdentity store'.inner := by
  refine UniqueIdentity.reordered ?_ hstep
  have hapart : Apart label.1 (label.2.effects label.1 store.inner) store.inner := by
    refine ⟨h, fun _ id channel direction hid => ?_, hok.alone⟩
    obtain ⟨message, hmessage, hidentity⟩ := Option.bind_eq_some_iff.mp hid
    obtain ⟨wa, hwa, heq⟩ := Option.map_eq_some_iff.mp hidentity
    obtain ⟨-, rfl, -⟩ : _ ∧ wa = "wa_" ++ label.1.uuid 1 ∧ _ := by simpa using heq
    exact absurd hwa (hok.fresh message (HashMap.mem_values_of_lookup hmessage))
  exact ((label.2.apply_changes self label.1 store.keyed.messages).invariant
    (fun _ _ hinv hchange => hinv.change (fun _ _ _ _ => StoreOp.gives_once) hchange) hapart).unique

/-- In every run in which no operation brings in an external identity that a
message has already, the external identities are unique in every state. -/
theorem external_identity_unique (self : AppState) {labels : List (Ctx × StoreOp)} {store : Store}
    (hrun : Run (Guarded (Store.Step self) KeepsApart) Store.empty labels store) :
    UniqueIdentity store.inner := by
  have hstep : ∀ (s : Store) label (t : Store), UniqueIdentity s.inner →
      Guarded (Store.Step self) KeepsApart s label t → UniqueIdentity t.inner :=
    fun s label t h hguarded => h.step hguarded.1 hguarded.2
  refine Run.invariant hstep hrun ?_
  intro id id' identity hid
  cases hid

/-- The result of the dispatch of "msg_b0" is stored. -/
def sample.stored : Ctx × StoreOp :=
  (sample.ctx 4 "d", .update_outbound_after_dispatch "msg_b0" (some "3EB0A1") "sent_to_whatsapp" none)

/-- The echo of the same send comes in. -/
def sample.echoed : Ctx × StoreOp :=
  (sample.ctx 3 "c", .process_whatsapp_event sample.company_a sample.answers
    (.Message (sample.text_event "3EB0A1" 3 true)))

/-- The echo overtakes the result of the dispatch: both messages end up with the
same identity. -/
theorem echo_duplicates_identity :
    ¬ ∀ labels store, Run (Store.Step sample.service) Store.empty labels store →
      UniqueIdentity store.inner := by
  intro hunique
  have hsame := hunique _ _ (sample.steps [sample.received, sample.prepared, sample.echoed, sample.stored]
    Store.empty) "msg_b0" "msg_c0" ("channel_a", "3EB0A1", "outbound") (by decide)
    (by decide)
  exact absurd hsame (by decide)

/-- Stored before the echo comes in, the result of the dispatch keeps the
identities unique. -/
theorem echo_after_dispatch :
    UniqueIdentity (sample.run Store.empty [sample.received, sample.prepared, sample.stored,
      sample.echoed]).inner := by
  have hquiet : ∀ (store : Store) (ctx : Ctx) (op : StoreOp),
      (∀ id wa, ¬ op.gives ctx store.inner id wa) →
      store.inner.messages_by_id.values.all (fun message =>
        message.wa_message_id ≠ some ("wa_" ++ ctx.uuid 1)) = true → KeepsApart store (ctx, op) := by
    intro store ctx op hquiet hfresh
    exact .of_unseen (fun message hmessage => of_decide_eq_true (List.all_eq_true.mp hfresh message hmessage))
      fun id wa hgives => absurd hgives (hquiet id wa)
  refine external_identity_unique sample.service
    (.cons ⟨hquiet _ sample.received.1 sample.received.2 (fun _ _ h => h) (by decide),
      StoreInner.Reordered.refl _⟩
    (.cons ⟨hquiet _ sample.prepared.1 sample.prepared.2 (fun _ _ h => h) (by decide),
      StoreInner.Reordered.refl _⟩
    (.cons ⟨.of_unseen (by decide) ?_, StoreInner.Reordered.refl _⟩
    (.cons ⟨hquiet _ sample.echoed.1 sample.echoed.2 (fun _ _ h => h) (by decide),
      StoreInner.Reordered.refl _⟩ (.nil _)))))
  rintro id wa ⟨rfl, rfl⟩ message hmessage
  have hnone : sample.queued.inner.messages_by_id.values.all (fun message =>
      message.wa_message_id ≠ some "3EB0A1") = true := by decide
  exact of_decide_eq_true (List.all_eq_true.mp hnone message hmessage)

end rustzap.state
