import RustZap.State.Service

open collections serde_json runs
open rustzap.error rustzap.models

namespace rustzap.state

/-- Project, company, consumer and conversation. -/
abbrev LeaseKey := String × String × String × String

/-- What the consumers have been told, kept beside the store: for each of them and each
conversation the last item it was handed that no ack has used up, the item that its
last ack was taken under, and whether it was ever handed one. -/
structure Ledger where
  outstanding : LeaseKey → Option DirtyConversationItem
  acked : LeaseKey → Option DirtyConversationItem
  leasers : LeaseKey → Prop

def Ledger.empty : Ledger where
  outstanding _ := none
  acked _ := none
  leasers _ := False

/-- The item of a poll's answer that is for this consumer and conversation. -/
def handed_item (project_id company_id consumer_id : String) (items : List DirtyConversationItem)
    (key : LeaseKey) : Option DirtyConversationItem :=
  items.find? fun item => (project_id, company_id, consumer_id, item.conversation_id) = key

/-- The ledger goes by the answers of the calls alone, except that it forgets the
conversations that a restart drops with all that belongs to them. -/
def Ledger.note (ledger : Ledger) (ctx : Ctx) (inner : StoreInner) : Operation → Ledger
  | .store (.list_dirty project company consumer limit) =>
    let items := (list_dirty ctx inner project company consumer limit).1
    { ledger with
      outstanding := fun key => (handed_item project company consumer items key).or (ledger.outstanding key)
      leasers := fun key => (handed_item project company consumer items key).isSome ∨ ledger.leasers key }
  | .store (.ack_dirty project company conversation request) =>
    if (ack_dirty ctx inner project company conversation request).1.isOk then
      { ledger with
        outstanding := fun key => if key = (project, company, request.consumer_id, conversation) then none
          else ledger.outstanding key
        acked := fun key => if key = (project, company, request.consumer_id, conversation) then
            ledger.outstanding key
          else ledger.acked key }
    else ledger
  | .restart =>
    { outstanding := fun key => (ledger.outstanding key).filter fun _ =>
        !(dropped_conversations inner).contains key.2.2.2
      acked := fun key => (ledger.acked key).filter fun _ =>
        !(dropped_conversations inner).contains key.2.2.2
      leasers := fun key => key.2.2.2 ∉ dropped_conversations inner ∧ ledger.leasers key }
  | _ => ledger

/-- A step of the service with the ledger kept beside it. -/
def Tracked (self : AppState) (state : Store × Ledger) (label : Ctx × Operation)
    (state' : Store × Ledger) : Prop :=
  Store.Next self state.1 label state'.1 ∧ state'.2 = state.2.note label.1 state.1.inner label.2

def DirtyConversationItem.lease (item : DirtyConversationItem) : DirtyLeaseRecord where
  lease_token := item.lease_token
  locked_until := item.locked_until
  max_seq := item.max_seq

/-- The stored leases are the outstanding ones, and whoever was handed an item has a
cursor. -/
structure Ledger.Tracks (ledger : Ledger) (inner : StoreInner) : Prop where
  leases : ∀ key, inner.dirty_leases.lookup key = (ledger.outstanding key).map DirtyConversationItem.lease
  registered : ∀ key, ledger.leasers key → (inner.consumer_state.lookup key).isSome

section Poll

variable {ctx : Ctx} {inner : StoreInner} {project_id company_id consumer_id : String} {limit : Nat}

theorem mem_leased_of_entry {entry : DirtyEntry}
    (h : entry ∈ leased inner project_id company_id consumer_id limit) :
    inner.dirty.lookup entry.1 = some entry.2 :=
  HashMap.lookup_eq_some_iff.mpr (mem_of_mem_leased_entries h).1

/-- A poll stores the lease of every item it hands out, and no other. -/
theorem list_dirty_leases_lookup (hkeyed : DirtyKeyed inner.dirty) (key : LeaseKey) :
    (list_dirty ctx inner project_id company_id consumer_id limit).2.dirty_leases.lookup key =
      ((handed_item project_id company_id consumer_id
        (list_dirty ctx inner project_id company_id consumer_id limit).1 key).map
          DirtyConversationItem.lease).or (inner.dirty_leases.lookup key) := by
  cases hhanded : handed_item project_id company_id consumer_id
      (list_dirty ctx inner project_id company_id consumer_id limit).1 key with
  | some item =>
    have hkey := List.find?_some hhanded
    rw [decide_eq_true_eq] at hkey
    obtain ⟨conversation_id, dirty, position, hdirty, -, rfl, hlease⟩ :=
      of_mem_list_dirty (List.mem_of_find?_eq_some hhanded)
    have hconversation : dirty.conversation_id = conversation_id := hkeyed _ dirty hdirty
    dsimp only [dirty_item] at hkey
    rw [← hkey, hconversation, hlease]
    rfl
  | none =>
    rw [Option.map_none, Option.none_or]
    rw [handed_item, List.find?_eq_none] at hhanded
    refine HashMap.lookup_foldl_insert_of_ne
      (fun entry : DirtyEntry × Nat => (project_id, company_id, consumer_id, entry.1.1.2.2))
      (fun entry => dirty_lease ctx entry.1 entry.2) ?_ inner.dirty_leases
    intro entry hentry heq
    -- an entry under this key would have been handed out
    have hitem := (sort_by_perm item_before _).mem_iff.mpr
      (List.mem_map_of_mem (f := fun entry : DirtyEntry × Nat => dirty_item ctx entry.1 entry.2) hentry)
    refine hhanded _ hitem ?_
    have hstored := mem_leased_of_entry (List.fst_mem_of_mem_zipIdx hentry)
    rw [decide_eq_true_eq, ← heq]
    dsimp only [dirty_item]
    rw [hkeyed _ _ hstored]

/-- A poll leaves every cursor in place. -/
theorem list_dirty_keeps_cursor {key : LeaseKey} (h : (inner.consumer_state.lookup key).isSome) :
    ((list_dirty ctx inner project_id company_id consumer_id limit).2.consumer_state.lookup key).isSome := by
  rcases list_dirty_cursor inner project_id company_id consumer_id ctx limit key with heq | ⟨-, -, heq⟩
  · rw [heq]
    exact h
  · rw [heq]
    rfl

/-- Whoever is handed an item has a cursor from then on. -/
theorem list_dirty_registers (hkeyed : DirtyKeyed inner.dirty) {key : LeaseKey}
    (hhanded : (handed_item project_id company_id consumer_id
      (list_dirty ctx inner project_id company_id consumer_id limit).1 key).isSome) :
    ((list_dirty ctx inner project_id company_id consumer_id limit).2.consumer_state.lookup key).isSome := by
  obtain ⟨item, hitem⟩ := Option.isSome_iff_exists.mp hhanded
  have hkey := List.find?_some hitem
  rw [decide_eq_true_eq] at hkey
  obtain ⟨entry, hentry, rfl⟩ :=
    List.mem_map.mp ((sort_by_perm _ _).mem_iff.mp (List.mem_of_find?_eq_some hitem))
  have hstored := mem_leased_of_entry (List.fst_mem_of_mem_zipIdx hentry)
  dsimp only [dirty_item] at hkey
  rw [hkeyed _ _ hstored] at hkey
  have hfold := HashMap.lookup_foldl_or_insert
    (fun entry : DirtyEntry × Nat => (project_id, company_id, consumer_id, entry.1.1.2.2))
    (fun entry => processed_until inner project_id company_id consumer_id entry.1.1.2.2)
    (leased inner project_id company_id consumer_id limit).zipIdx key inner.consumer_state
  change (list_dirty ctx inner project_id company_id consumer_id limit).2.consumer_state.lookup key = _
    at hfold
  have hfind : ((leased inner project_id company_id consumer_id limit).zipIdx.find? fun entry =>
      (project_id, company_id, consumer_id, entry.1.1.2.2) = key).isSome :=
    List.find?_isSome.mpr ⟨entry, hentry, decide_eq_true hkey⟩
  rw [hfold, Option.isSome_or, Option.isSome_map, hfind, Bool.or_true]

end Poll

section Ack

variable {ctx : Ctx} {inner : StoreInner} {project_id company_id conversation_id : String}
  {request : DirtyAckRequest}

/-- What an ack comes to: with a dirty entry and a lease that the consumer holds it is
taken, and otherwise it is refused and changes nothing. -/
theorem ack_dirty_answers (ctx : Ctx) (inner : StoreInner) (project_id company_id conversation_id : String)
    (request : DirtyAckRequest) :
    (∃ dirty, inner.dirty.lookup (project_id, company_id, conversation_id) = some dirty ∧
      HoldsLease ctx inner project_id company_id conversation_id request ∧
      ack_dirty ctx inner project_id company_id conversation_id request =
        (.ok (ack_response (acked inner project_id company_id conversation_id request dirty) project_id
            company_id conversation_id dirty),
          acked inner project_id company_id conversation_id request dirty)) ∨
    (¬ ((∃ dirty, inner.dirty.lookup (project_id, company_id, conversation_id) = some dirty) ∧
        HoldsLease ctx inner project_id company_id conversation_id request) ∧
      (ack_dirty ctx inner project_id company_id conversation_id request).1.isOk = false ∧
      (ack_dirty ctx inner project_id company_id conversation_id request).2 = inner) := by
  unfold ack_dirty
  cases hdirty : inner.dirty.lookup (project_id, company_id, conversation_id) with
  | none =>
    refine Or.inr ⟨?_, rfl, rfl⟩
    rintro ⟨⟨dirty, hsome⟩, -⟩
    cases hsome
  | some dirty =>
    dsimp only
    cases hlease : inner.dirty_leases.lookup
        (project_id, company_id, request.consumer_id, conversation_id) with
    | none =>
      refine Or.inr ⟨?_, rfl, rfl⟩
      rintro ⟨-, lease, hlookup, -⟩
      rw [hlease] at hlookup
      cases hlookup
    | some lease =>
      dsimp only
      by_cases htoken : lease.lease_token = request.lease_token
      · rw [if_neg (not_not.mpr htoken)]
        by_cases htime : lease.locked_until < ctx.now
        · rw [if_pos htime]
          refine Or.inr ⟨?_, rfl, rfl⟩
          rintro ⟨-, held, hlookup, -, hheld⟩
          rw [hlease] at hlookup
          cases hlookup
          exact absurd hheld (not_le.mpr htime)
        · rw [if_neg htime]
          exact Or.inl ⟨dirty, rfl, ⟨lease, hlease, htoken, not_lt.mp htime⟩, rfl⟩
      · rw [if_pos htoken]
        refine Or.inr ⟨?_, rfl, rfl⟩
        rintro ⟨-, held, hlookup, hheld, -⟩
        rw [hlease] at hlookup
        cases hlookup
        exact htoken hheld

theorem acked_dirty_leases (inner : StoreInner) (project_id company_id conversation_id : String)
    (request : DirtyAckRequest) (dirty : DirtyRecord) :
    (acked inner project_id company_id conversation_id request dirty).dirty_leases =
      inner.dirty_leases.erase (project_id, company_id, request.consumer_id, conversation_id) := by
  unfold acked
  dsimp only
  split <;> rfl

end Ack

/-- The leases and the cursors change in the queue's own operations only. -/
theorem Change.queue_kept {ctx : Ctx} {inner inner' : StoreInner}
    (h : Change ctx (.quiet False) inner inner') :
    inner'.dirty_leases = inner.dirty_leases ∧ inner'.consumer_state = inner.consumer_state := by
  cases h with
  | aside hsame => exact ⟨hsame.dirty_leases, hsame.consumer_state⟩
  | record hrecorded hnew hquiet => exact absurd trivial (hquiet "" "")
  | poll now project_id company_id consumer_id limit hpolls => exact absurd hpolls not_false
  | ack request hdirty hacks => exact absurd hacks not_false
  | _ => exact ⟨rfl, rfl⟩

theorem Changes.queue_kept {ctx : Ctx} {inner inner' : StoreInner}
    (h : Changes ctx (.quiet False) inner inner') :
    inner'.dirty_leases = inner.dirty_leases ∧ inner'.consumer_state = inner.consumer_state := by
  have hstep : ∀ s t, s.dirty_leases = inner.dirty_leases ∧ s.consumer_state = inner.consumer_state →
      Change ctx (.quiet False) s t →
      t.dirty_leases = inner.dirty_leases ∧ t.consumer_state = inner.consumer_state :=
    fun s t hs hchange => ⟨hchange.queue_kept.1.trans hs.1, hchange.queue_kept.2.trans hs.2⟩
  exact h.invariant hstep ⟨rfl, rfl⟩

/-- An operation that is none of the queue's, and no restart, leaves the leases and the
cursors alone. -/
theorem Operation.queue_kept (self : AppState) (ctx : Ctx) {inner : StoreInner} (hkeyed : inner.WellKeyed)
    {op : Operation} (hop : ¬ op.OnQueue) (hrestart : op ≠ .restart) :
    (op.apply self ctx inner).dirty_leases = inner.dirty_leases ∧
      (op.apply self ctx inner).consumer_state = inner.consumer_state := by
  rcases op.apply_cases self ctx hkeyed.messages with
    ⟨mid, hmid, hchanges⟩ | ⟨message_ids, media_ids, -, heq⟩ | ⟨hop', -⟩
  · have hquiet : op.OnQueue = False := eq_false hop
    rw [hquiet] at hchanges
    obtain ⟨hleases, hstate⟩ := hchanges.queue_kept
    rcases hmid with rfl | ⟨message, hrecorded, -⟩
    · exact ⟨hleases, hstate⟩
    · obtain ⟨conversation, contacts, group_members, events, -, rfl⟩ := hrecorded
      exact ⟨hleases, hstate⟩
  · rw [heq]
    exact ⟨rfl, rfl⟩
  · exact absurd hop' hrestart

namespace Ledger.Tracks

variable {ledger : Ledger} {inner inner' : StoreInner}

theorem of_kept (h : ledger.Tracks inner)
    (hkept : inner'.dirty_leases = inner.dirty_leases ∧ inner'.consumer_state = inner.consumer_state) :
    ledger.Tracks inner' := by
  constructor
  · rw [hkept.1]
    exact h.leases
  · rw [hkept.2]
    exact h.registered

theorem reordered (h : ledger.Tracks inner) (hreordered : inner.Reordered inner') :
    ledger.Tracks inner' := by
  constructor
  · intro key
    rw [← hreordered.dirty_leases.lookup]
    exact h.leases key
  · intro key hleaser
    rw [← hreordered.consumer_state.lookup]
    exact h.registered key hleaser

theorem list_dirty (h : ledger.Tracks inner) (hkeyed : DirtyKeyed inner.dirty) (ctx : Ctx)
    (project_id company_id consumer_id : String) (limit : Nat) :
    (ledger.note ctx inner (.store (.list_dirty project_id company_id consumer_id limit))).Tracks
      (list_dirty ctx inner project_id company_id consumer_id limit).2 := by
  constructor
  · intro key
    rw [list_dirty_leases_lookup hkeyed, h.leases]
    dsimp only [Ledger.note]
    cases handed_item project_id company_id consumer_id
      (state.list_dirty ctx inner project_id company_id consumer_id limit).1 key <;> rfl
  · rintro key (hhanded | hleaser)
    · exact list_dirty_registers hkeyed hhanded
    · exact list_dirty_keeps_cursor (h.registered key hleaser)

theorem ack_dirty (h : ledger.Tracks inner) (ctx : Ctx) (project_id company_id conversation_id : String)
    (request : DirtyAckRequest) :
    (ledger.note ctx inner (.store (.ack_dirty project_id company_id conversation_id request))).Tracks
      (ack_dirty ctx inner project_id company_id conversation_id request).2 := by
  dsimp only [Ledger.note]
  rcases ack_dirty_answers ctx inner project_id company_id conversation_id request with
    ⟨dirty, hdirty, hlease, heq⟩ | ⟨-, herror, heq⟩
  · have hok : (state.ack_dirty ctx inner project_id company_id conversation_id request).1.isOk = true := by
      rw [heq]
      rfl
    rw [if_pos hok, heq]
    constructor
    · intro key
      dsimp only
      rw [acked_dirty_leases, HashMap.lookup_erase_ite, h.leases]
      split <;> rfl
    · intro key hleaser
      dsimp only
      rw [acked_consumer_state, HashMap.lookup_insert_ite]
      split
      · rfl
      · exact h.registered key hleaser
  · rw [heq, herror, if_neg Bool.false_ne_true]
    exact h

theorem restarted (h : ledger.Tracks inner) (ctx : Ctx) :
    (ledger.note ctx inner .restart).Tracks (restarted inner) := by
  dsimp only [Ledger.note]
  constructor
  · intro key
    rw [restarted_dirty_leases_lookup, h.leases]
    dsimp only
    cases ledger.outstanding key with
    | none => rfl
    | some item =>
      dsimp only [Option.map_some, Option.filter_some]
      split <;> rfl
  · rintro key ⟨hkept, hleaser⟩
    obtain ⟨cursor, hcursor⟩ := Option.isSome_iff_exists.mp (h.registered key hleaser)
    rw [restarted_consumer_state_lookup, hcursor, Option.filter_some_pos]
    · rfl
    · simpa using hkept

/-- The ledger stays true to the store in every operation. -/
theorem note (h : ledger.Tracks inner) (hkeyed : inner.WellKeyed) (self : AppState) (ctx : Ctx)
    (op : Operation) : (ledger.note ctx inner op).Tracks (op.apply self ctx inner) := by
  have hother : ∀ op : Operation, ¬ op.OnQueue → op ≠ .restart → ledger.Tracks (op.apply self ctx inner) :=
    fun op hop hrestart => h.of_kept (op.queue_kept self ctx hkeyed hop hrestart)
  cases op with
  | store op =>
    cases op with
    | list_dirty project company consumer limit => exact h.list_dirty hkeyed.dirty ..
    | ack_dirty project company conversation request => exact h.ack_dirty ..
    | _ => exact hother _ (by rintro (hack | hpoll) <;> assumption) nofun
  | restart => exact h.restarted ctx
  | _ => exact hother _ not_false nofun

end Ledger.Tracks

theorem Tracked.tracks {self : AppState} {state state' : Store × Ledger} {label : Ctx × Operation}
    (hstep : Tracked self state label state') (h : state.2.Tracks state.1.inner) :
    state'.2.Tracks state'.1.inner := by
  rw [hstep.2]
  exact (h.note state.1.keyed self label.1 label.2).reordered hstep.1

theorem Tracked.run_tracks {self : AppState} {labels : List (Ctx × Operation)} {state : Store × Ledger}
    (hrun : Run (Tracked self) (Store.empty, Ledger.empty) labels state) :
    state.2.Tracks state.1.inner :=
  hrun.invariant (fun _ _ _ h hstep => hstep.tracks h) ⟨fun _ => rfl, nofun⟩

namespace sample

/-- The store and the ledger after some steps, the maps yielding their entries as they
are stored. -/
def tracked (state : Store × Ledger) (labels : List (Ctx × Operation)) : Store × Ledger :=
  labels.foldl (fun state label => (state.1.perform service label.1 label.2,
    state.2.note label.1 state.1.inner label.2)) state

theorem tracked_step (state : Store × Ledger) (label : Ctx × Operation) :
    Tracked service state label (tracked state [label]) :=
  ⟨StoreInner.Reordered.refl _, rfl⟩

theorem tracked_run (labels : List (Ctx × Operation)) :
    ∀ state, Run (Tracked service) state labels (tracked state labels) := by
  induction labels with
  | nil => exact fun state => .nil state
  | cons label labels ih => exact fun state => .cons (tracked_step state label) (ih _)

end sample

end rustzap.state
