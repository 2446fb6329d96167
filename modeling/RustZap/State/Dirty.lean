import RustZap.State.Record

open collections serde_json
open rustzap.error rustzap.models

namespace rustzap.state

/-- An entry of the dirty map as its iterator yields it. -/
abbrev DirtyEntry := Sigma fun _ : String × String × String => DirtyRecord

/-- The cursor up to which a consumer has processed a conversation. -/
def processed_until (inner : StoreInner) (project_id company_id consumer_id conversation_id : String) :
    Int :=
  (inner.consumer_state.lookup (project_id, company_id, consumer_id, conversation_id)).getD 0

/-- Whether `list_dirty` leases an entry to the consumer. -/
def leasable (inner : StoreInner) (project_id company_id consumer_id : String) (entry : DirtyEntry) :
    Bool :=
  entry.1.1 = project_id && entry.1.2.1 = company_id &&
    !(processed_until inner project_id company_id consumer_id entry.1.2.2 ≥ entry.2.max_seq)

/-- The loop over the dirty map. It looks at the limit after an entry has been
taken, so that a limit of zero still yields one. -/
def leased_entries (wanted : DirtyEntry → Bool) (limit : Nat) : Nat → List DirtyEntry → List DirtyEntry
  | _, [] => []
  | taken, entry :: rest =>
    if wanted entry then
      if taken + 1 ≥ limit then [entry] else entry :: leased_entries wanted limit (taken + 1) rest
    else leased_entries wanted limit taken rest

/-- The entries that a call leases, in the map's order. -/
def leased (inner : StoreInner) (project_id company_id consumer_id : String) (limit : Nat) :
    List DirtyEntry :=
  leased_entries (leasable inner project_id company_id consumer_id) limit 0 inner.dirty.entries

/-- The lease given out for the `position`-th leased entry. -/
def dirty_lease (ctx : Ctx) (entry : DirtyEntry) (position : Nat) : DirtyLeaseRecord where
  lease_token := "lease_" ++ ctx.uuid position
  locked_until := ctx.now + Duration.seconds 60
  max_seq := entry.2.max_seq

def dirty_item (ctx : Ctx) (entry : DirtyEntry) (position : Nat) : DirtyConversationItem where
  conversation_id := entry.2.conversation_id
  max_seq := entry.2.max_seq
  reason := entry.2.reason
  priority := entry.2.priority
  available_at := entry.2.available_at
  lease_token := (dirty_lease ctx entry position).lease_token
  locked_until := (dirty_lease ctx entry position).locked_until

/-- Higher priorities first, and among equal ones the longest available. -/
def item_before (a b : DirtyConversationItem) : Bool :=
  b.priority < a.priority || (a.priority = b.priority && a.available_at ≤ b.available_at)

def list_dirty (ctx : Ctx) (inner : StoreInner) (project_id company_id consumer_id : String)
    (limit : Nat) : List DirtyConversationItem × StoreInner :=
  let leased := (leased inner project_id company_id consumer_id limit).zipIdx
  let dirty_leases := leased.foldl (fun leases entry =>
    leases.insert (project_id, company_id, consumer_id, entry.1.1.2.2) (dirty_lease ctx entry.1 entry.2))
    inner.dirty_leases
  let consumer_state := leased.foldl (fun state entry =>
    let key := (project_id, company_id, consumer_id, entry.1.1.2.2)
    if (state.lookup key).isSome then state
    else state.insert key (processed_until inner project_id company_id consumer_id entry.1.1.2.2))
    inner.consumer_state
  (sort_by item_before (leased.map fun entry => dirty_item ctx entry.1 entry.2),
    { inner with dirty_leases, consumer_state })

/-- Whether every cursor registered for the conversation has reached `max_seq`. -/
def all_registered_consumers_done
    (consumer_state : HashMap (String × String × String × String) Int)
    (project_id company_id conversation_id : String) (max_seq : Int) : Bool :=
  (consumer_state.entries.filter fun entry =>
      entry.1.1 = project_id && entry.1.2.1 = company_id && entry.1.2.2.2 = conversation_id).all
    fun entry => entry.2 ≥ max_seq

/-- The store once a valid ack of the consumer has been taken. -/
def acked (inner : StoreInner) (project_id company_id conversation_id : String)
    (request : DirtyAckRequest) (dirty : DirtyRecord) : StoreInner :=
  let lease_key := (project_id, company_id, request.consumer_id, conversation_id)
  let inner := { inner with
    consumer_state := inner.consumer_state.insert lease_key request.processed_until_seq
    dirty_leases := inner.dirty_leases.erase lease_key }
  if request.processed_until_seq ≥ dirty.max_seq &&
      all_registered_consumers_done inner.consumer_state project_id company_id conversation_id
        dirty.max_seq then
    { inner with dirty := inner.dirty.erase (project_id, company_id, conversation_id) }
  else inner

def ack_response (inner : StoreInner) (project_id company_id conversation_id : String)
    (dirty : DirtyRecord) : Value :=
  if (inner.dirty.lookup (project_id, company_id, conversation_id)).isNone then
    .object [("acked", .bool true), ("remaining_dirty", .bool false)]
  else
    .object [("acked", .bool true), ("remaining_dirty", .bool true),
      ("current_max_seq", .number dirty.max_seq)]

def ack_dirty (ctx : Ctx) (inner : StoreInner) (project_id company_id conversation_id : String)
    (request : DirtyAckRequest) : ApiResult Value × StoreInner :=
  match inner.dirty.lookup (project_id, company_id, conversation_id) with
  | none => (.error (.NotFound "dirty conversation not found"), inner)
  | some dirty =>
    match inner.dirty_leases.lookup (project_id, company_id, request.consumer_id, conversation_id) with
    | none => (.error (.Conflict "lease_token missing"), inner)
    | some lease =>
      if lease.lease_token ≠ request.lease_token then
        (.error (.Conflict "lease_token mismatch"), inner)
      else if lease.locked_until < ctx.now then (.error (.Conflict "lease_token expired"), inner)
      else
        let inner := acked inner project_id company_id conversation_id request dirty
        (.ok (ack_response inner project_id company_id conversation_id dirty), inner)

theorem mem_of_mem_leased_entries {wanted : DirtyEntry → Bool} {limit : Nat} {entry : DirtyEntry}
    {entries : List DirtyEntry} :
    ∀ {taken : Nat}, entry ∈ leased_entries wanted limit taken entries →
      entry ∈ entries ∧ wanted entry := by
  induction entries with
  | nil => intro taken h; cases h
  | cons first rest ih =>
    intro taken h
    rw [leased_entries] at h
    by_cases hfirst : wanted first
    · rw [if_pos hfirst] at h
      split at h
      · rw [List.mem_singleton] at h
        subst h
        exact ⟨List.mem_cons_self, hfirst⟩
      · rcases List.mem_cons.mp h with rfl | htail
        · exact ⟨List.mem_cons_self, hfirst⟩
        · exact ⟨List.mem_cons_of_mem _ (ih htail).1, (ih htail).2⟩
    · rw [if_neg hfirst] at h
      exact ⟨List.mem_cons_of_mem _ (ih h).1, (ih h).2⟩

/-- Under a limit that covers them, the loop leases every entry it wants. -/
theorem mem_leased_entries {wanted : DirtyEntry → Bool} {limit : Nat} {entry : DirtyEntry}
    {entries : List DirtyEntry} (hmem : entry ∈ entries) (hwanted : wanted entry) :
    ∀ {taken : Nat}, taken + entries.countP wanted ≤ limit →
      entry ∈ leased_entries wanted limit taken entries := by
  induction entries with
  | nil => cases hmem
  | cons first rest ih =>
    intro taken hlimit
    rw [leased_entries]
    by_cases hfirst : wanted first
    · rw [List.countP_cons_of_pos hfirst] at hlimit
      rw [if_pos hfirst]
      rcases List.mem_cons.mp hmem with rfl | hrest
      · split <;> exact List.mem_cons_self
      · have hpos : 0 < rest.countP wanted := List.countP_pos_iff.mpr ⟨entry, hrest, hwanted⟩
        rw [if_neg (by omega)]
        exact List.mem_cons_of_mem _ (ih hrest (by omega))
    · rw [List.countP_cons_of_neg hfirst] at hlimit
      rw [if_neg hfirst]
      rcases List.mem_cons.mp hmem with rfl | hrest
      · exact absurd hwanted hfirst
      · exact ih hrest hlimit

theorem leased_entries_sublist (wanted : DirtyEntry → Bool) (limit : Nat) (entries : List DirtyEntry) :
    ∀ taken : Nat, (leased_entries wanted limit taken entries).Sublist entries := by
  induction entries with
  | nil => intro taken; exact List.Sublist.refl _
  | cons first rest ih =>
    intro taken
    rw [leased_entries]
    split
    · split
      · exact List.Sublist.cons_cons _ (List.nil_sublist _)
      · exact List.Sublist.cons_cons _ (ih _)
    · exact List.Sublist.cons _ (ih _)

section Queue

variable (inner : StoreInner) (project_id company_id consumer_id : String)

theorem leasable_iff (conversation_id : String) (dirty : DirtyRecord) :
    leasable inner project_id company_id consumer_id
        ⟨(project_id, company_id, conversation_id), dirty⟩ = true ↔
      processed_until inner project_id company_id consumer_id conversation_id < dirty.max_seq := by
  simp [leasable]

/-- The number of the company's dirty entries, which bounds what one call can
return. -/
def dirty_count : Nat :=
  inner.dirty.entries.countP fun entry => entry.1.1 = project_id && entry.1.2.1 = company_id

theorem countP_leasable_le :
    inner.dirty.entries.countP (leasable inner project_id company_id consumer_id) ≤
      dirty_count inner project_id company_id := by
  apply List.countP_mono_left
  intro entry _ h
  simp only [leasable, Bool.and_eq_true] at h ⊢
  exact h.1

theorem leased_keys_nodup (limit : Nat) :
    ((leased inner project_id company_id consumer_id limit).zipIdx.map fun entry =>
      (project_id, company_id, consumer_id, entry.1.1.2.2)).Nodup := by
  have hkeys : ((leased inner project_id company_id consumer_id limit).map Sigma.fst).Nodup :=
    inner.dirty.nodupKeys.sublist (leased_entries_sublist _ _ _ _)
  have hmap : ((leased inner project_id company_id consumer_id limit).zipIdx.map fun entry =>
      (project_id, company_id, consumer_id, entry.1.1.2.2)) =
      ((leased inner project_id company_id consumer_id limit).map Sigma.fst).map
        fun key => (project_id, company_id, consumer_id, key.2.2) := by
    rw [List.map_map, ← List.zipIdx_map_fst 0 (leased inner project_id company_id consumer_id limit),
      List.map_map]
    simp [Function.comp_def]
  rw [hmap]
  refine hkeys.map_on ?_
  intro x hx y hy heq
  obtain ⟨entry, hentry, rfl⟩ := List.mem_map.mp hx
  obtain ⟨entry', hentry', rfl⟩ := List.mem_map.mp hy
  have hmine := (mem_of_mem_leased_entries hentry).2
  have hmine' := (mem_of_mem_leased_entries hentry').2
  simp only [leasable, Bool.and_eq_true, decide_eq_true_eq] at hmine hmine'
  simp only [Prod.mk.injEq, true_and] at heq
  apply Prod.ext (hmine.1.1.trans hmine'.1.1.symm)
  exact Prod.ext (hmine.1.2.trans hmine'.1.2.symm) heq

variable {inner project_id company_id consumer_id}

/-- With a limit that covers the company's dirty entries, a call returns and
leases every entry whose `max_seq` the consumer has not reached. -/
theorem mem_list_dirty (ctx : Ctx) {limit : Nat} {conversation_id : String} {dirty : DirtyRecord}
    (hlimit : dirty_count inner project_id company_id ≤ limit)
    (hdirty : inner.dirty.lookup (project_id, company_id, conversation_id) = some dirty)
    (hcursor : processed_until inner project_id company_id consumer_id conversation_id < dirty.max_seq) :
    ∃ position, dirty_item ctx ⟨(project_id, company_id, conversation_id), dirty⟩ position ∈
        (list_dirty ctx inner project_id company_id consumer_id limit).1 ∧
      (list_dirty ctx inner project_id company_id consumer_id limit).2.dirty_leases.lookup
        (project_id, company_id, consumer_id, conversation_id) =
        some (dirty_lease ctx ⟨(project_id, company_id, conversation_id), dirty⟩ position) := by
  have hleased : (⟨(project_id, company_id, conversation_id), dirty⟩ : DirtyEntry) ∈
      leased inner project_id company_id consumer_id limit := by
    apply mem_leased_entries (HashMap.lookup_eq_some_iff.mp hdirty)
    · exact (leasable_iff ..).mpr hcursor
    · have := countP_leasable_le inner project_id company_id consumer_id
      omega
  obtain ⟨position, hposition⟩ := List.mem_iff_getElem?.mp hleased
  have hmem := List.mk_mem_zipIdx_iff_getElem?.mpr hposition
  refine ⟨position, ?_, ?_⟩
  · exact (sort_by_perm _ _).mem_iff.mpr (List.mem_map_of_mem hmem)
  · exact HashMap.lookup_foldl_insert_of_mem
      (fun entry : DirtyEntry × Nat => (project_id, company_id, consumer_id, entry.1.1.2.2))
      (fun entry => dirty_lease ctx entry.1 entry.2)
      (leased_keys_nodup inner project_id company_id consumer_id limit) hmem _

/-- Every returned item stands for a dirty entry of the company that is ahead of
the consumer's cursor, and comes with a lease on it. -/
theorem of_mem_list_dirty {ctx : Ctx} {limit : Nat} {item : DirtyConversationItem}
    (hitem : item ∈ (list_dirty ctx inner project_id company_id consumer_id limit).1) :
    ∃ conversation_id dirty position,
      inner.dirty.lookup (project_id, company_id, conversation_id) = some dirty ∧
      processed_until inner project_id company_id consumer_id conversation_id < dirty.max_seq ∧
      item = dirty_item ctx ⟨(project_id, company_id, conversation_id), dirty⟩ position ∧
      (list_dirty ctx inner project_id company_id consumer_id limit).2.dirty_leases.lookup
        (project_id, company_id, consumer_id, conversation_id) =
        some (dirty_lease ctx ⟨(project_id, company_id, conversation_id), dirty⟩ position) := by
  obtain ⟨⟨⟨⟨project, company, conversation_id⟩, dirty⟩, position⟩, hmem, rfl⟩ :=
    List.mem_map.mp ((sort_by_perm _ _).mem_iff.mp hitem)
  obtain ⟨hentry, hwanted⟩ := mem_of_mem_leased_entries (List.fst_mem_of_mem_zipIdx hmem)
  simp only [leasable, Bool.and_eq_true, decide_eq_true_eq] at hwanted
  obtain ⟨⟨rfl, rfl⟩, hcursor⟩ := hwanted
  refine ⟨conversation_id, dirty, position, HashMap.lookup_eq_some_iff.mpr hentry, by simpa using hcursor,
    rfl, ?_⟩
  exact HashMap.lookup_foldl_insert_of_mem
    (fun entry : DirtyEntry × Nat => (project, company, consumer_id, entry.1.1.2.2))
    (fun entry => dirty_lease ctx entry.1 entry.2)
    (leased_keys_nodup inner project company consumer_id limit) hmem _

variable (inner project_id company_id consumer_id)

/-- A call leaves every cursor as it was, except that it registers its consumer
at zero where it had none. -/
theorem list_dirty_cursor (ctx : Ctx) (limit : Nat) (key : String × String × String × String) :
    (list_dirty ctx inner project_id company_id consumer_id limit).2.consumer_state.lookup key =
        inner.consumer_state.lookup key ∨
      key.2.2.1 = consumer_id ∧ inner.consumer_state.lookup key = none ∧
      (list_dirty ctx inner project_id company_id consumer_id limit).2.consumer_state.lookup key =
        some 0 := by
  have hfold := HashMap.lookup_foldl_or_insert
    (fun entry : DirtyEntry × Nat => (project_id, company_id, consumer_id, entry.1.1.2.2))
    (fun entry => processed_until inner project_id company_id consumer_id entry.1.1.2.2)
    (leased inner project_id company_id consumer_id limit).zipIdx key inner.consumer_state
  change (list_dirty ctx inner project_id company_id consumer_id limit).2.consumer_state.lookup key = _
    at hfold
  rw [hfold]
  cases hkey : inner.consumer_state.lookup key with
  | some cursor => exact Or.inl rfl
  | none =>
    cases hfind : (leased inner project_id company_id consumer_id limit).zipIdx.find? fun entry =>
        (project_id, company_id, consumer_id, entry.1.1.2.2) = key with
    | none => exact Or.inl rfl
    | some entry =>
      right
      have hsome := List.find?_some hfind
      rw [decide_eq_true_eq] at hsome
      subst hsome
      exact ⟨rfl, rfl, by simp [processed_until, hkey]⟩

theorem processed_until_list_dirty (ctx : Ctx) (limit : Nat)
    (project company consumer conversation : String) :
    processed_until (list_dirty ctx inner project_id company_id consumer_id limit).2
      project company consumer conversation =
    processed_until inner project company consumer conversation := by
  rcases list_dirty_cursor inner project_id company_id consumer_id ctx limit
    (project, company, consumer, conversation) with h | ⟨-, h, h'⟩
  · rw [processed_until, h, processed_until]
  · rw [processed_until, h', processed_until, h]
    rfl

end Queue

/-- The consumer of the request holds the lease that it names. -/
def HoldsLease (ctx : Ctx) (inner : StoreInner) (project_id company_id conversation_id : String)
    (request : DirtyAckRequest) : Prop :=
  ∃ lease, inner.dirty_leases.lookup (project_id, company_id, request.consumer_id, conversation_id) =
      some lease ∧ lease.lease_token = request.lease_token ∧ ctx.now ≤ lease.locked_until

/-- Everything an ack can do: nothing at all, or, for a valid lease on a dirty
entry, move the consumer's cursor and possibly delete the entry. -/
theorem ack_dirty_cases (ctx : Ctx) (inner : StoreInner)
    (project_id company_id conversation_id : String) (request : DirtyAckRequest) :
    (ack_dirty ctx inner project_id company_id conversation_id request).2 = inner ∨
      ∃ dirty, inner.dirty.lookup (project_id, company_id, conversation_id) = some dirty ∧
        HoldsLease ctx inner project_id company_id conversation_id request ∧
        (ack_dirty ctx inner project_id company_id conversation_id request).2 =
          acked inner project_id company_id conversation_id request dirty := by
  unfold ack_dirty
  cases hdirty : inner.dirty.lookup (project_id, company_id, conversation_id) with
  | none => exact Or.inl rfl
  | some dirty =>
    cases hlease : inner.dirty_leases.lookup
        (project_id, company_id, request.consumer_id, conversation_id) with
    | none => exact Or.inl rfl
    | some lease =>
      dsimp only
      split
      · exact Or.inl rfl
      · next htoken =>
        split
        · exact Or.inl rfl
        · next htime =>
          exact Or.inr ⟨dirty, rfl, ⟨lease, hlease, not_not.mp htoken, not_lt.mp htime⟩, rfl⟩

/-- With a valid lease the ack of a dirty entry is taken. -/
theorem ack_dirty_of_lease {ctx : Ctx} {inner : StoreInner}
    {project_id company_id conversation_id : String} {request : DirtyAckRequest} {dirty : DirtyRecord}
    (hdirty : inner.dirty.lookup (project_id, company_id, conversation_id) = some dirty)
    (hlease : HoldsLease ctx inner project_id company_id conversation_id request) :
    (ack_dirty ctx inner project_id company_id conversation_id request).2 =
      acked inner project_id company_id conversation_id request dirty := by
  obtain ⟨lease, hlookup, htoken, htime⟩ := hlease
  unfold ack_dirty
  rw [hdirty]
  dsimp only
  rw [hlookup]
  dsimp only
  rw [if_neg (not_not.mpr htoken), if_neg (not_lt.mpr htime)]

/-- The ack would delete the entry: it reaches the entry's `max_seq`, and so does
every other registered cursor of the conversation. -/
def AckCompletes (inner : StoreInner) (project_id company_id conversation_id : String)
    (request : DirtyAckRequest) (max_seq : Int) : Prop :=
  max_seq ≤ request.processed_until_seq ∧
    ∀ consumer_id cursor, consumer_id ≠ request.consumer_id →
      inner.consumer_state.lookup (project_id, company_id, consumer_id, conversation_id) = some cursor →
      max_seq ≤ cursor

theorem all_registered_consumers_done_iff
    {consumer_state : HashMap (String × String × String × String) Int}
    {project_id company_id conversation_id : String} {max_seq : Int} :
    all_registered_consumers_done consumer_state project_id company_id conversation_id max_seq = true ↔
      ∀ consumer_id cursor,
        consumer_state.lookup (project_id, company_id, consumer_id, conversation_id) = some cursor →
        max_seq ≤ cursor := by
  simp only [all_registered_consumers_done, List.all_eq_true, List.mem_filter, Bool.and_eq_true,
    decide_eq_true_eq, ge_iff_le]
  constructor
  · intro h consumer_id cursor hcursor
    exact h ⟨_, cursor⟩ ⟨HashMap.lookup_eq_some_iff.mp hcursor, ⟨rfl, rfl⟩, rfl⟩
  · rintro h ⟨⟨project, company, consumer, conversation⟩, cursor⟩
      ⟨hmem, ⟨hproject, hcompany⟩, hconversation⟩
    simp only at hproject hcompany hconversation
    subst hproject hcompany hconversation
    exact h consumer cursor (HashMap.lookup_eq_some_iff.mpr hmem)

section Acked

variable (inner : StoreInner) (project_id company_id conversation_id : String) (request : DirtyAckRequest)
  (dirty : DirtyRecord)

/-- An ack deletes the entry it completes. -/
theorem acked_dirty_of_completes
    (h : AckCompletes inner project_id company_id conversation_id request dirty.max_seq) :
    (acked inner project_id company_id conversation_id request dirty).dirty =
      inner.dirty.erase (project_id, company_id, conversation_id) := by
  have hdone : all_registered_consumers_done
      (inner.consumer_state.insert (project_id, company_id, request.consumer_id, conversation_id)
        request.processed_until_seq) project_id company_id conversation_id dirty.max_seq = true := by
    rw [all_registered_consumers_done_iff]
    intro consumer_id cursor hcursor
    rw [HashMap.lookup_insert_ite] at hcursor
    split at hcursor
    · cases hcursor
      exact h.1
    · next hne => exact h.2 consumer_id cursor (fun heq => hne (by rw [heq])) hcursor
  unfold acked
  dsimp only
  rw [hdone, if_pos]
  simpa using h.1

/-- Any other ack leaves the dirty entries alone. -/
theorem acked_dirty_of_not_completes
    (h : ¬ AckCompletes inner project_id company_id conversation_id request dirty.max_seq) :
    (acked inner project_id company_id conversation_id request dirty).dirty = inner.dirty := by
  unfold acked
  dsimp only
  split
  · next hdone =>
    rw [Bool.and_eq_true, decide_eq_true_eq, all_registered_consumers_done_iff] at hdone
    refine absurd ⟨hdone.1, fun consumer_id cursor hne hcursor => hdone.2 consumer_id cursor ?_⟩ h
    rw [HashMap.lookup_insert_ite, if_neg]
    · exact hcursor
    · intro heq
      simp only [Prod.mk.injEq, true_and, and_true] at heq
      exact hne heq
  · rfl

theorem acked_consumer_state :
    (acked inner project_id company_id conversation_id request dirty).consumer_state =
      inner.consumer_state.insert (project_id, company_id, request.consumer_id, conversation_id)
        request.processed_until_seq := by
  unfold acked
  dsimp only
  split <;> rfl

end Acked

end rustzap.state
