import RustZap.Consistency.Sequences
import RustZap.Queue.Acks

open collections serde_json runs
open rustzap.error rustzap.models

namespace rustzap.state

section Cursors

variable (project_id company_id consumer_id conversation_id : String)

/-- The number up to which the consumer's last ack was allowed to go: that of the lease
it was taken under. -/
def leased_until (ledger : Ledger) : Int :=
  (ledger.acked (project_id, company_id, consumer_id, conversation_id)).elim 0 DirtyConversationItem.max_seq

/-- A step does not take the consumer's cursor back, and leaves it within the lease. -/
def KeepsCursor (state state' : Store × Ledger) : Prop :=
  processed_until state.1.inner project_id company_id consumer_id conversation_id ≤
      processed_until state'.1.inner project_id company_id consumer_id conversation_id ∧
    processed_until state'.1.inner project_id company_id consumer_id conversation_id ≤
      leased_until project_id company_id consumer_id conversation_id state'.2

/-- The step is no restart that drops the conversation. -/
def SparesConversation (state : Store × Ledger) (label : Ctx × Operation) : Prop :=
  label.2 = .restart → conversation_id ∉ dropped_conversations state.1.inner

/-- An ack of the consumer that is taken names a number between its cursor and the one
it was told with its lease. -/
def AcksWithinLease (state : Store × Ledger) (label : Ctx × Operation) : Prop :=
  ∀ request item, label.2 = .store (.ack_dirty project_id company_id conversation_id request) →
    request.consumer_id = consumer_id →
    state.2.outstanding (project_id, company_id, consumer_id, conversation_id) = some item →
    HoldsOutstanding state.2 label.1 project_id company_id conversation_id request →
    processed_until state.1.inner project_id company_id consumer_id conversation_id ≤
        request.processed_until_seq ∧
      request.processed_until_seq ≤ item.max_seq

/-- What holds of a consumer's cursor and of its leases in every state. -/
structure CursorInOrder (state : Store × Ledger) : Prop where
  tracks : state.2.Tracks state.1.inner
  indexes : IndexesAgree state.1.inner
  sequences : SequencesInOrder state.1.inner
  within : processed_until state.1.inner project_id company_id consumer_id conversation_id ≤
    leased_until project_id company_id consumer_id conversation_id state.2
  counted : processed_until state.1.inner project_id company_id consumer_id conversation_id ≤
    last_seq state.1.inner.conversations conversation_id
  leased : ∀ item, state.2.outstanding (project_id, company_id, consumer_id, conversation_id) = some item →
    item.max_seq ≤ last_seq state.1.inner.conversations conversation_id

/-- What an operation that spares the conversation can do to a consumer's cursor and to
what the ledger says of it: leave them, but for a lease on the dirty entry, or take
the consumer's ack. -/
inductive CursorStep (ctx : Ctx) (inner inner' : StoreInner) (ledger ledger' : Ledger) (op : Operation) :
    Prop
  | kept
      (hcursor : processed_until inner' project_id company_id consumer_id conversation_id =
        processed_until inner project_id company_id consumer_id conversation_id)
      (hacked : ledger'.acked (project_id, company_id, consumer_id, conversation_id) =
        ledger.acked (project_id, company_id, consumer_id, conversation_id))
      (houtstanding : ∀ item,
        ledger'.outstanding (project_id, company_id, consumer_id, conversation_id) = some item →
        ledger.outstanding (project_id, company_id, consumer_id, conversation_id) = some item ∨
          ∃ dirty, inner.dirty.lookup (project_id, company_id, conversation_id) = some dirty ∧
            item.max_seq = dirty.max_seq)
  | acked (request : DirtyAckRequest) (item : DirtyConversationItem)
      (hop : op = .store (.ack_dirty project_id company_id conversation_id request))
      (hconsumer : request.consumer_id = consumer_id)
      (hitem : ledger.outstanding (project_id, company_id, consumer_id, conversation_id) = some item)
      (hholds : HoldsOutstanding ledger ctx project_id company_id conversation_id request)
      (hcursor : processed_until inner' project_id company_id consumer_id conversation_id =
        request.processed_until_seq)
      (hacked : ledger'.acked (project_id, company_id, consumer_id, conversation_id) = some item)
      (houtstanding : ledger'.outstanding (project_id, company_id, consumer_id, conversation_id) = none)

variable {project_id company_id consumer_id conversation_id}

theorem CursorStep.of_state_kept {ctx : Ctx} {inner inner' : StoreInner} {ledger : Ledger} {op : Operation}
    (h : inner'.consumer_state = inner.consumer_state) :
    CursorStep project_id company_id consumer_id conversation_id ctx inner inner' ledger ledger op := by
  refine .kept ?_ rfl fun item hitem => Or.inl hitem
  rw [processed_until, h, processed_until]

theorem list_dirty_cursor_step (ctx : Ctx) {inner : StoreInner} (hkeyed : inner.WellKeyed) (ledger : Ledger)
    (project company consumer : String) (limit : Nat) :
    CursorStep project_id company_id consumer_id conversation_id ctx inner
      (list_dirty ctx inner project company consumer limit).2 ledger
      (ledger.note ctx inner (.store (.list_dirty project company consumer limit)))
      (.store (.list_dirty project company consumer limit)) := by
  refine .kept (processed_until_list_dirty ..) rfl ?_
  intro item hitem
  rcases Option.or_eq_some_iff.mp hitem with hhanded | ⟨-, hold⟩
  · right
    have hkey := List.find?_some hhanded
    rw [decide_eq_true_eq] at hkey
    obtain ⟨conversation, dirty, position, hdirty, -, rfl, -⟩ :=
      of_mem_list_dirty (List.mem_of_find?_eq_some hhanded)
    have hconversation : dirty.conversation_id = conversation := hkeyed.dirty _ dirty hdirty
    dsimp only [dirty_item] at hkey
    simp only [Prod.mk.injEq] at hkey
    obtain ⟨rfl, rfl, -, rfl⟩ := hkey
    rw [hconversation]
    exact ⟨dirty, hdirty, rfl⟩
  · exact Or.inl hold

theorem ack_dirty_cursor_step (ctx : Ctx) {inner : StoreInner} {ledger : Ledger}
    (htracks : ledger.Tracks inner) (project company conversation : String) (request : DirtyAckRequest) :
    CursorStep project_id company_id consumer_id conversation_id ctx inner
      (ack_dirty ctx inner project company conversation request).2 ledger
      (ledger.note ctx inner (.store (.ack_dirty project company conversation request)))
      (.store (.ack_dirty project company conversation request)) := by
  dsimp only [Ledger.note]
  rcases ack_dirty_answers ctx inner project company conversation request with
    ⟨dirty, hdirty, hlease, heq⟩ | ⟨-, herror, heq⟩
  · have hok : (ack_dirty ctx inner project company conversation request).1.isOk = true := by
      rw [heq]
      rfl
    have hholds := (htracks.holds_lease_iff ..).mp hlease
    rw [if_pos hok, heq]
    by_cases hkey : (project_id, company_id, consumer_id, conversation_id) =
        (project, company, request.consumer_id, conversation)
    · have hkey' := hkey
      simp only [Prod.mk.injEq] at hkey'
      obtain ⟨rfl, rfl, rfl, rfl⟩ := hkey'
      obtain ⟨item, hitem, -⟩ := id hholds
      refine .acked request item rfl rfl hitem hholds ?_ ?_ ?_
      · rw [processed_until, acked_consumer_state, AList.lookup_insert]
        rfl
      · exact (if_pos rfl).trans hitem
      · exact if_pos rfl
    · refine .kept ?_ (if_neg hkey) ?_
      · rw [processed_until, acked_consumer_state, HashMap.lookup_insert_ite, if_neg hkey, processed_until]
      · intro item hitem
        dsimp only at hitem
        rw [if_neg hkey] at hitem
        exact Or.inl hitem
  · rw [heq, herror, if_neg Bool.false_ne_true]
    exact .of_state_kept rfl

theorem restarted_cursor_step (ctx : Ctx) (inner : StoreInner) (ledger : Ledger)
    (hspared : conversation_id ∉ dropped_conversations inner) :
    CursorStep project_id company_id consumer_id conversation_id ctx inner (restarted inner) ledger
      (ledger.note ctx inner .restart) .restart := by
  have hkept : (!(dropped_conversations inner).contains conversation_id) = true := by simpa using hspared
  have hfilter : ∀ {A : Type} (value : Option A),
      (value.filter fun _ => !(dropped_conversations inner).contains conversation_id) = value := by
    intro A value
    cases value with
    | none => rfl
    | some value => exact Option.filter_some_pos (p := fun _ => _) hkept
  refine .kept ?_ (hfilter _) ?_
  · rw [processed_until, restarted_consumer_state_lookup, hfilter, processed_until]
  · intro item hitem
    exact Or.inl (Option.filter_eq_some_iff.mp hitem).1

theorem Operation.cursor_step (self : AppState) (ctx : Ctx) {inner : StoreInner} (hkeyed : inner.WellKeyed)
    {ledger : Ledger} (htracks : ledger.Tracks inner) (op : Operation)
    (hspares : op = .restart → conversation_id ∉ dropped_conversations inner) :
    CursorStep project_id company_id consumer_id conversation_id ctx inner (op.apply self ctx inner) ledger
      (ledger.note ctx inner op) op := by
  have hother : ∀ op : Operation, ¬ op.OnQueue → op ≠ .restart →
      CursorStep project_id company_id consumer_id conversation_id ctx inner (op.apply self ctx inner) ledger
        ledger op :=
    fun op hop hrestart => .of_state_kept (op.queue_kept self ctx hkeyed hop hrestart).2
  cases op with
  | store op =>
    cases op with
    | list_dirty project company consumer limit => exact list_dirty_cursor_step ctx hkeyed ..
    | ack_dirty project company conversation request => exact ack_dirty_cursor_step ctx htracks ..
    | _ => exact hother _ (by rintro (hack | hpoll) <;> assumption) nofun
  | restart => exact restarted_cursor_step ctx inner ledger (hspares rfl)
  | _ => exact hother _ not_false nofun

/-- A step that meets the conditions moves the consumer's cursor up or leaves it, and
never past the lease. -/
theorem CursorInOrder.step {self : AppState} {state state' : Store × Ledger} {label : Ctx × Operation}
    (h : CursorInOrder project_id company_id consumer_id conversation_id state)
    (hfresh : DrawsNewId state.1 label) (hspares : SparesConversation conversation_id state label)
    (hacks : AcksWithinLease project_id company_id consumer_id conversation_id state label)
    (hstep : Tracked self state label state') :
    CursorInOrder project_id company_id consumer_id conversation_id state' ∧
      KeepsCursor project_id company_id consumer_id conversation_id state state' := by
  obtain ⟨hindexes, hsequences⟩ :=
    sequences_in_order_preserved.step ⟨hfresh, hstep.1⟩ ⟨h.indexes, h.sequences⟩
  have hlast : last_seq state.1.inner.conversations conversation_id ≤
      last_seq state'.1.inner.conversations conversation_id := by
    rw [last_seq_reordered hstep.1.conversations]
    refine label.2.last_seq_le self label.1 state.1.keyed fun hrestart => ?_
    have hsurface : on_updates_surface state.1.inner.to_persisted.conversations conversation_id = false :=
      not_on_updates_surface state.1.keyed.conversations (hspares hrestart)
    exact hsurface
  have hreordered : processed_until state'.1.inner project_id company_id consumer_id conversation_id =
      processed_until (label.2.apply self label.1 state.1.inner) project_id company_id consumer_id
        conversation_id := by
    rw [processed_until, ← hstep.1.consumer_state.lookup]
    rfl
  have hcursor : CursorStep project_id company_id consumer_id conversation_id label.1 state.1.inner
      (label.2.apply self label.1 state.1.inner) state.2 (state.2.note label.1 state.1.inner label.2)
      label.2 := label.2.cursor_step self label.1 state.1.keyed h.tracks hspares
  rw [← hstep.2] at hcursor
  cases hcursor with
  | kept hkept hacked houtstanding =>
    rw [hkept] at hreordered
    have hwithin : processed_until state'.1.inner project_id company_id consumer_id conversation_id ≤
        leased_until project_id company_id consumer_id conversation_id state'.2 := by
      rw [hreordered, leased_until, hacked]
      exact h.within
    refine ⟨⟨hstep.tracks h.tracks, hindexes, hsequences, hwithin, ?_, ?_⟩, hreordered.ge, hwithin⟩
    · rw [hreordered]
      exact h.counted.trans hlast
    · intro item hitem
      rcases houtstanding item hitem with hold | ⟨dirty, hdirty, hseq⟩
      · exact (h.leased item hold).trans hlast
      · rw [hseq]
        exact (h.sequences.dirty _ dirty hdirty).trans hlast
  | acked request item hop hconsumer hitem hholds hmoved hacked houtstanding =>
    rw [hmoved] at hreordered
    obtain ⟨hforward, hlease⟩ := hacks request item hop hconsumer hitem hholds
    have hwithin : processed_until state'.1.inner project_id company_id consumer_id conversation_id ≤
        leased_until project_id company_id consumer_id conversation_id state'.2 := by
      rw [hreordered, leased_until, hacked]
      exact hlease
    refine ⟨⟨hstep.tracks h.tracks, hindexes, hsequences, hwithin, ?_, ?_⟩, hforward.trans hreordered.ge,
      hwithin⟩
    · rw [hreordered]
      exact (hlease.trans (h.leased item hitem)).trans hlast
    · intro other hother
      rw [houtstanding] at hother
      cases hother

end Cursors

/-- The conditions that a step has to meet for the consumer's cursor. -/
def KeepsDiscipline (project_id company_id consumer_id conversation_id : String) (state : Store × Ledger)
    (label : Ctx × Operation) : Prop :=
  DrawsNewId state.1 label ∧ SparesConversation conversation_id state label ∧
    AcksWithinLease project_id company_id consumer_id conversation_id state label

theorem spares_of_store {state : Store × Ledger} {ctx : Ctx} {op : StoreOp} {conversation_id : String} :
    SparesConversation conversation_id state (ctx, .store op) := by
  intro h
  cases h

section Runs

variable {self : AppState} {project_id company_id consumer_id conversation_id : String}
  {state state' : Store × Ledger} {labels : List (Ctx × Operation)}

theorem cursor_in_order_empty : CursorInOrder project_id company_id consumer_id conversation_id
    (Store.empty, Ledger.empty) where
  tracks := ⟨fun _ => rfl, nofun⟩
  indexes := Grouped.Agree.empty
  sequences := ⟨fun _ => le_rfl, nofun, nofun⟩
  within := le_rfl
  counted := le_rfl
  leased := nofun

theorem CursorInOrder.run (h : CursorInOrder project_id company_id consumer_id conversation_id state)
    (hrun : Run (Guarded (Tracked self) (KeepsDiscipline project_id company_id consumer_id conversation_id))
      state labels state') :
    CursorInOrder project_id company_id consumer_id conversation_id state' ∧
      processed_until state.1.inner project_id company_id consumer_id conversation_id ≤
        processed_until state'.1.inner project_id company_id consumer_id conversation_id := by
  induction hrun with
  | nil => exact ⟨h, le_rfl⟩
  | cons hstep _ ih =>
    obtain ⟨⟨hfresh, hspares, hacks⟩, htracked⟩ := hstep
    obtain ⟨hnext, hkeeps⟩ := h.step hfresh hspares hacks htracked
    obtain ⟨hlast, hle⟩ := ih hnext
    exact ⟨hlast, hkeeps.1.trans hle⟩

end Runs

/-- That no step of any run takes a cursor back or past the lease it was acked under,
where the step is no restart that drops the conversation. -/
def CursorsDisciplined (self : AppState) : Prop :=
  ∀ project_id company_id consumer_id conversation_id labels state label state',
    Run (Tracked self) (Store.empty, Ledger.empty) labels state → Tracked self state label state' →
    SparesConversation conversation_id state label →
    KeepsCursor project_id company_id consumer_id conversation_id state state'

/-- In every run whose acks stay within what was leased, a consumer's cursor never goes
back, and it never passes the number of the lease it was acked under. What is recorded
has a number above the cursor and above every lease that the consumer still holds, so
no ack marks it as processed before the consumer is told of it. -/
theorem cursors_within_leases (self : AppState) {project_id company_id consumer_id conversation_id : String}
    {labels labels' : List (Ctx × Operation)} {state state' : Store × Ledger}
    (hrun : Run (Guarded (Tracked self) (KeepsDiscipline project_id company_id consumer_id conversation_id))
      (Store.empty, Ledger.empty) labels state)
    (hrun' : Run (Guarded (Tracked self) (KeepsDiscipline project_id company_id consumer_id conversation_id))
      state labels' state') :
    processed_until state.1.inner project_id company_id consumer_id conversation_id ≤
        processed_until state'.1.inner project_id company_id consumer_id conversation_id ∧
      processed_until state'.1.inner project_id company_id consumer_id conversation_id ≤
        leased_until project_id company_id consumer_id conversation_id state'.2 ∧
      ∀ label next message, Tracked self state' label next → NewlyRecorded state'.1 next.1 message →
        message.conversation_id = conversation_id →
        processed_until state'.1.inner project_id company_id consumer_id conversation_id <
            message.conversation_seq ∧
          ∀ item, state'.2.outstanding (project_id, company_id, consumer_id, conversation_id) = some item →
            item.max_seq < message.conversation_seq := by
  obtain ⟨hmid, -⟩ := cursor_in_order_empty.run hrun
  obtain ⟨hlast, hle⟩ := hmid.run hrun'
  refine ⟨hle, hlast.within, ?_⟩
  intro label next message hstep hrecorded hconversation
  have hseq := (hrecorded.conversation_seq hstep.1).1
  rw [hconversation] at hseq
  have hcounted := hlast.counted
  refine ⟨by omega, fun item hitem => ?_⟩
  have hleased := hlast.leased item hitem
  omega

/-- The bot acks the only message of the conversation, but names the number 100. -/
def sample.ack_ahead : Ctx × Operation :=
  (ctx 3 "bot", .store (.ack_dirty "acme" "company_a" "5511988887777@s.whatsapp.net"
    { bot_ack with processed_until_seq := 100 }))

/-- An ack stores whatever number the consumer names. -/
theorem cursor_past_lease : ¬ CursorsDisciplined sample.service := by
  intro hdisciplined
  have hkeeps := hdisciplined "acme" "company_a" "bot" "5511988887777@s.whatsapp.net" _ _ sample.ack_ahead
    (sample.tracked (Store.empty, Ledger.empty) (sample.leased_by_bot ++ [sample.ack_ahead]))
    (sample.tracked_run sample.leased_by_bot (Store.empty, Ledger.empty))
    ⟨StoreInner.Reordered.refl _, rfl⟩ spares_of_store
  exact absurd hkeeps.2 (by decide)

theorem ack_of_leased_number :
    processed_until (sample.tracked (Store.empty, Ledger.empty) (sample.leased_by_bot ++
        [(sample.ctx 3 "bot", .store (sample.acked "bot" 3).2)])).1.inner "acme" "company_a" "bot"
        "5511988887777@s.whatsapp.net" ≤
      leased_until "acme" "company_a" "bot" "5511988887777@s.whatsapp.net"
        (sample.tracked (Store.empty, Ledger.empty) (sample.leased_by_bot ++
          [(sample.ctx 3 "bot", .store (sample.acked "bot" 3).2)])).2 := by
  have hleased : Run (Guarded (Tracked sample.service)
      (KeepsDiscipline "acme" "company_a" "bot" "5511988887777@s.whatsapp.net"))
      (Store.empty, Ledger.empty) sample.leased_by_bot
      (sample.tracked (Store.empty, Ledger.empty) sample.leased_by_bot) :=
    .cons ⟨⟨rfl, spares_of_store, fun _ _ h => by cases h⟩, sample.tracked_step _ _⟩
      (.cons ⟨⟨Option.isNone_iff_eq_none.mp (by decide), spares_of_store, fun _ _ h => by cases h⟩,
        sample.tracked_step _ _⟩ (.nil _))
  have hacks : AcksWithinLease "acme" "company_a" "bot" "5511988887777@s.whatsapp.net"
      (sample.tracked (Store.empty, Ledger.empty) sample.leased_by_bot)
      (sample.ctx 3 "bot", .store (sample.acked "bot" 3).2) := by
    intro request item hop _ hitem _
    cases hop
    have hnumber : ((sample.tracked (Store.empty, Ledger.empty) sample.leased_by_bot).2.outstanding
      ("acme", "company_a", "bot", "5511988887777@s.whatsapp.net")).all fun item => 1 ≤ item.max_seq := by
      decide
    rw [hitem, Option.all_some, decide_eq_true_eq] at hnumber
    exact ⟨by decide, hnumber⟩
  exact (cursors_within_leases sample.service hleased (.cons
    ⟨⟨Option.isNone_iff_eq_none.mp (by decide), spares_of_store, hacks⟩, sample.tracked_step _ _⟩ (.nil _))).2.1

end rustzap.state
