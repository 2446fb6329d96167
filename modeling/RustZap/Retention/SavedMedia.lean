import RustZap.Routes.Media

open collections runs
open rustzap.error rustzap.models rustzap.state

namespace rustzap.routes

/-- The record of the medium says that it is permanent, and the bytes are where it says. -/
def PermanentAt (world : World) (media_id object_key : String) : Prop :=
  ∃ media, world.inner.media.lookup media_id = some media ∧ media.storage_status = "permanent" ∧
    media.permanent_object_key = some object_key ∧ (world.objects.lookup object_key).isSome = true

/-- A step that does not get between a save and what it saves. -/
structure Undisturbed (world : World) (label : Ctx × MediaOp) : Prop where
  /-- What is to be saved has an object. -/
  backed : ∀ task request before, label.2 = .save_media task request →
    media_for_company world.inner request.path.project_id request.path.company_id
      request.path.media_id = .ok before → before.object_key ≠ none
  /-- The bytes that a save has copied are not deleted before it writes its record. -/
  unrecorded : ∀ object_key, world.erases label.2 = some object_key → ¬ Copied world object_key
  /-- The record is written while no job has selected the medium. -/
  unselected : ∀ task stored request destination, label.2 = .resume task stored →
    world.tasks.lookup task = some (.record request destination) →
    ∀ other state, world.tasks.lookup other = some state → state.holds request.path.media_id = false
  /-- The retention finds no permanent medium of a message that is too old. -/
  recent : ∀ task project_id company_id policy,
    label.2 = .apply_company_retention task project_id company_id policy →
    ∀ media_id media message_id, world.inner.media.lookup media_id = some media →
      media.storage_status = "permanent" → media.message_id = some message_id →
      message_id ∉ policy.candidate_message_ids label.1.now world.inner project_id company_id

def Task.saves : Task → Bool
  | .copy .. | .record .. => true
  | _ => false

/-- While only saves are in progress and no retention starts, a save is undisturbed if it has
an object. -/
theorem Undisturbed.of_saves {world : World} {ctx : Ctx} {op : MediaOp}
    (hbacked : ∀ task request before, op = .save_media task request →
      media_for_company world.inner request.path.project_id request.path.company_id
        request.path.media_id = .ok before → before.object_key ≠ none)
    (htasks : world.tasks.values.all Task.saves = true)
    (hop : ∀ task project_id company_id policy,
      op ≠ .apply_company_retention task project_id company_id policy) :
    Undisturbed world (ctx, op) where
  backed := hbacked
  unrecorded object_key herases := by
    cases op with
    | resume task stored =>
      cases stored with
      | false => cases herases
      | true =>
        cases hlookup : world.tasks.lookup task with
        | none =>
          dsimp only [World.erases] at herases
          rw [hlookup] at herases
          cases herases
        | some state =>
          have hsaves := List.all_eq_true.mp htasks state (HashMap.mem_values_of_lookup hlookup)
          dsimp only [World.erases] at herases
          rw [hlookup] at herases
          cases state with
          | copy | record => cases herases
          | delete | job => cases hsaves
    | _ => cases herases
  unselected task stored request destination hresume hrecord other state hlookup := by
    have hsaves := List.all_eq_true.mp htasks state (HashMap.mem_values_of_lookup hlookup)
    cases state with
    | copy | record => rfl
    | delete | job => cases hsaves
  recent task project_id company_id policy heq := absurd heq (hop task project_id company_id policy)

/-- No task is about to take away what the medium has. -/
def Spared (task : Task) (media_id : String) : Prop :=
  task.deletes media_id = false ∧ task.holds media_id = false

/-- The bytes of a save that has copied them are there, and whatever is saved is there, with
no task left that could take it away. -/
structure SavesKept (service : AppState) (world : World) : Prop where
  keys : KeysOwned service world
  copied : ∀ task request destination, world.tasks.lookup task = some (.record request destination) →
    ∃ object_key, destination = some object_key ∧ (world.objects.lookup object_key).isSome = true
  saved : ∀ media_id ∈ world.saved, ∃ object_key, PermanentAt world media_id object_key ∧
    PermanentKey service media_id object_key
  spared : ∀ media_id ∈ world.saved, ∀ task state, world.tasks.lookup task = some state →
    Spared state media_id

section SavesKept

variable {self : AppState} {ctx : Ctx} {world world' : World}

/-- What a step leaves of the invariant: it deletes bytes that no save needs, it changes no
record of a saved medium but by saving it, and it starts no task against one. -/
theorem SavesKept.of_step (h : SavesKept self world) (hkeys : KeysOwned self world')
    (hobjects : ∀ object_key, (world.objects.lookup object_key).isSome = true →
      (world'.objects.lookup object_key).isSome = true ∨
        ¬ Copied world object_key ∧ ∃ media_id ∉ world'.saved, Owns self media_id object_key)
    (htasks : ∀ task state, world'.tasks.lookup task = some state → world.tasks.lookup task = some state ∨
      (∀ request destination, state = .record request destination →
        ∃ object_key, destination = some object_key ∧ (world'.objects.lookup object_key).isSome = true) ∧
      ∀ media_id ∈ world'.saved, Spared state media_id)
    (hsaved : ∀ media_id ∈ world'.saved,
      media_id ∈ world.saved ∧ (world'.inner.media.lookup media_id).map storage =
        (world.inner.media.lookup media_id).map storage ∨
      (∃ object_key, PermanentAt world' media_id object_key ∧ PermanentKey self media_id object_key) ∧
        ∀ task state, world.tasks.lookup task = some state → Spared state media_id) :
    SavesKept self world' where
  keys := hkeys
  copied task request destination htask := by
    rcases htasks task _ htask with hold | ⟨hnew, -⟩
    · obtain ⟨object_key, rfl, hbytes⟩ := h.copied task request destination hold
      refine ⟨object_key, rfl, (hobjects object_key hbytes).resolve_right ?_⟩
      rintro ⟨hcopied, -⟩
      exact hcopied ⟨task, request, hold⟩
    · exact hnew request destination rfl
  saved media_id hmem := by
    rcases hsaved media_id hmem with ⟨hold, hstorage⟩ | ⟨hnew, -⟩
    · obtain ⟨object_key, ⟨media, hmedia, hstatus, hpermanent, hbytes⟩, hkey⟩ := h.saved media_id hold
      rw [hmedia, Option.map_some, Option.map_eq_some_iff] at hstorage
      obtain ⟨media', hmedia', hstorage⟩ := hstorage
      obtain ⟨-, -, -, hstatus', -, hpermanent'⟩ := storage_eq_iff.mp hstorage
      refine ⟨object_key, ⟨media', hmedia', hstatus'.trans hstatus, hpermanent'.trans hpermanent, ?_⟩, hkey⟩
      refine (hobjects object_key hbytes).resolve_right ?_
      rintro ⟨-, other, hother, howns⟩
      exact hkey.ne howns (fun heq => hother (heq ▸ hmem)) rfl
    · exact hnew
  spared media_id hmem task state htask := by
    rcases htasks task state htask with hold | ⟨-, hnew⟩
    · rcases hsaved media_id hmem with ⟨hsaved, -⟩ | ⟨-, hspared⟩
      · exact h.spared media_id hsaved task state hold
      · exact hspared task state hold
    · exact hnew media_id hmem

theorem SavesKept.store (h : SavesKept self world) {media : MediaObject} {bytes : List UInt8}
    (hallowed : Storable self world media) : SavesKept self (world.step self ctx (.store media bytes)) := by
  refine h.of_step (h.keys.store hallowed bytes) (fun object_key hbytes => Or.inl ?_)
    (fun task state htask => Or.inl htask) (fun media_id hsaved => Or.inl ⟨hsaved, ?_⟩)
  · dsimp only [World.step]
    split
    · exact isSome_lookup_insert hbytes _ bytes
    · exact hbytes
  · obtain ⟨object_key, ⟨old, hold, -⟩, -⟩ := h.saved media_id hsaved
    have hne : media_id ≠ media.id := by
      rintro rfl
      rw [hallowed.new] at hold
      cases hold
    dsimp only [World.step]
    rw [HashMap.lookup_insert_ite, if_neg hne]

theorem SavesKept.other (h : SavesKept self world) {inner : StoreInner} (hsame : SameStorage world.inner inner) :
    SavesKept self (world.step self ctx (.other inner)) :=
  h.of_step (h.keys.other hsame) (fun _ hbytes => Or.inl hbytes) (fun _ _ htask => Or.inl htask)
    fun media_id hsaved => Or.inl ⟨hsaved, hsame media_id⟩

/-- A task is started that is no record of a save and against no saved medium. -/
theorem SavesKept.start (h : SavesKept self world) {task : Nat} {state : Task}
    (hkeys : KeysOwned self world') (htasks : world'.tasks = (world.set_task task state).tasks)
    (hinner : world'.inner = world.inner) (hobjects : world'.objects = world.objects)
    (hsaved : world'.saved ⊆ world.saved) (hrecord : ∀ request destination, state ≠ .record request destination)
    (hspared : ∀ media_id ∈ world'.saved, Spared state media_id) : SavesKept self world' := by
  refine h.of_step hkeys (fun object_key hbytes => Or.inl (hobjects ▸ hbytes)) (fun query found hfound => ?_)
    (fun media_id hmem => Or.inl ⟨hsaved hmem, by rw [hinner]⟩)
  rw [htasks] at hfound
  rcases World.lookup_set_task hfound with hold | rfl
  · exact Or.inl hold
  · exact Or.inr ⟨fun request destination heq => absurd heq (hrecord request destination), hspared⟩

theorem SavesKept.save_media (h : SavesKept self world) {task : Nat} {request : SaveMedia}
    (hundisturbed : Undisturbed world (ctx, .save_media task request)) :
    SavesKept self (world.save_media self ctx task request) := by
  have hkeys := h.keys.save_media ctx task request
  unfold World.save_media at hkeys ⊢
  cases hbefore : media_for_company world.inner request.path.project_id request.path.company_id
      request.path.media_id with
  | error err => exact h
  | ok before =>
    rw [hbefore] at hkeys
    obtain ⟨source, hsource⟩ := Option.ne_none_iff_exists'.mp
      (hundisturbed.backed task request before rfl hbefore)
    dsimp only at hkeys ⊢
    rw [hsource] at hkeys ⊢
    exact h.start hkeys rfl rfl rfl (List.Subset.refl _) nofun fun _ _ => ⟨rfl, rfl⟩

theorem SavesKept.delete_media (h : SavesKept self world) (task : Nat) (path : ProjectCompanyMediaPath) :
    SavesKept self (world.delete_media task path) := by
  have hkeys := h.keys.delete_media task path
  unfold World.delete_media at hkeys ⊢
  cases hbefore : media_for_company world.inner path.project_id path.company_id path.media_id with
  | error err => exact h
  | ok before =>
    rw [hbefore] at hkeys
    refine h.start hkeys rfl rfl rfl (List.filter_subset_self _) nofun fun media_id hmem => ⟨?_, rfl⟩
    have hne : media_id ≠ path.media_id := of_decide_eq_true (List.mem_filter.mp hmem).2
    exact decide_eq_false hne.symm

/-- A job starts that has selected no saved medium. -/
theorem SavesKept.select (h : SavesKept self world) (task : Nat) (job : Job) {selected : List MediaObject}
    (hstored : ∀ media ∈ selected, media ∈ world.inner.media.values)
    (hsaved : ∀ media_id ∈ world.saved, ∀ media, world.inner.media.lookup media_id = some media →
      media.storage_status = "permanent" → media ∉ selected) :
    SavesKept self (world.set_task task (.job job (selected.map .of_media) [] [])) := by
  refine h.start (h.keys.set_task task _ (h.keys.selected hstored job)) rfl rfl rfl (List.Subset.refl _)
    nofun fun media_id hmem => ⟨rfl, ?_⟩
  dsimp only [Task.holds]
  rw [List.append_nil, List.any_eq_false]
  intro media hselected
  rw [List.map_map] at hselected
  obtain ⟨media', hmedia', rfl⟩ := List.mem_map.mp hselected
  obtain ⟨object_key, ⟨stored, hlookup, hstatus, -⟩, -⟩ := h.saved media_id hmem
  obtain ⟨query, hquery⟩ := HashMap.mem_values_iff.mp (hstored media' hmedia')
  have hid : media'.id = query := h.keys.keyed query media' hquery
  rw [decide_eq_true_eq]
  rintro heq
  have hsame : query = media_id := hid.symm.trans heq
  rw [hsame, hlookup] at hquery
  cases hquery
  exact hsaved media_id hmem media' hlookup hstatus hmedia'

theorem SavesKept.copy_bytes (h : SavesKept self world) {task : Nat} {request : SaveMedia}
    {source destination : String} (hdestination : PermanentKey self request.path.media_id destination)
    (stored : Bool) : SavesKept self (world.copy_bytes task request source destination stored) := by
  have hkeys := h.keys.copy_bytes task source hdestination stored
  unfold World.copy_bytes at hkeys ⊢
  split
  · next bytes hbytes =>
    rw [hbytes] at hkeys
    refine h.of_step hkeys (fun object_key hkey => Or.inl (isSome_lookup_insert hkey _ _))
      (fun query found hfound => ?_) (fun media_id hmem => Or.inl ⟨hmem, rfl⟩)
    rcases World.lookup_set_task hfound with hold | rfl
    · exact Or.inl hold
    · refine Or.inr ⟨?_, fun _ _ => ⟨rfl, rfl⟩⟩
      rintro _ _ ⟨⟩
      refine ⟨destination, rfl, ?_⟩
      dsimp only
      rw [HashMap.lookup_insert_ite, if_pos rfl]
      rfl
  · exact h.of_step (h.keys.end_task task) (fun _ hkey => Or.inl hkey)
      (fun _ _ hfound => Or.inl (World.lookup_end_task hfound)) fun _ hmem => Or.inl ⟨hmem, rfl⟩

/-- A save is answered: its bytes are there, and nobody is going to take them away. -/
theorem SavesKept.record_saved (h : SavesKept self world) {task : Nat} {stored : Bool} {request : SaveMedia}
    {destination : Option String} (htask : world.tasks.lookup task = some (.record request destination))
    (hundisturbed : Undisturbed world (ctx, .resume task stored)) :
    SavesKept self (world.record_saved self ctx task request destination) := by
  have hkeys := h.keys.record_saved ctx task (h.keys.tasks task _ htask)
  unfold World.record_saved at hkeys ⊢
  cases hbefore : media_for_company world.inner request.path.project_id request.path.company_id
      request.path.media_id with
  | error err =>
    rw [hbefore] at hkeys
    exact h.of_step hkeys (fun _ hkey => Or.inl hkey)
      (fun _ _ hfound => Or.inl (World.lookup_end_task hfound)) fun _ hmem => Or.inl ⟨hmem, rfl⟩
  | ok before =>
    rw [hbefore] at hkeys
    have hlookup := media_for_company_eq_ok hbefore
    obtain ⟨object_key, rfl, hbytes⟩ := h.copied task request destination htask
    obtain ⟨change, heq, hchange⟩ := save_media_spec self ctx world.inner request.entity_type
      request.entity_id (h.keys.plain _ before hlookup) (h.keys.tasks task _ htask)
    obtain ⟨-, -, -, hstatus, -, key, hpermanent, howned, hgiven⟩ := hchange before
    obtain rfl : key = object_key := hgiven object_key rfl
    rw [heq, update_media_of_lookup hlookup] at hkeys ⊢
    refine h.of_step hkeys (fun _ hkey => Or.inl hkey)
      (fun _ _ hfound => Or.inl (World.lookup_end_task hfound)) fun media_id hmem => ?_
    by_cases hid : media_id = request.path.media_id
    · subst hid
      refine Or.inr ⟨⟨key, ⟨change before, ?_, hstatus, hpermanent, hbytes⟩, howned⟩, fun query found hfound =>
        ⟨?_, hundisturbed.unselected task stored request _ rfl htask query found hfound⟩⟩
      · dsimp only
        rw [HashMap.lookup_insert_ite, if_pos rfl]
      · dsimp only at hmem
        split at hmem
        · exact (h.spared _ hmem query found hfound).1
        · next hnone =>
          rw [Bool.not_eq_true, List.any_eq_false] at hnone
          exact Bool.eq_false_of_not_eq_true (hnone found (HashMap.mem_values_of_lookup hfound))
    · refine Or.inl ⟨?_, ?_⟩
      · dsimp only at hmem
        split at hmem
        · exact hmem
        · exact (List.mem_cons.mp hmem).resolve_left hid
      · dsimp only
        rw [HashMap.lookup_insert_ite, if_neg hid]

/-- Bytes of a medium that is not saved are deleted, and no save waits for them. -/
theorem SavesKept.erase (h : SavesKept self world) {task : Nat} {state : Task} {object_key media_id : String}
    (hkeys : KeysOwned self world') (hinner : world'.inner = world.inner)
    (htasks : world'.tasks = (world.set_task task state).tasks)
    (hobjects : ∀ key, (world.objects.lookup key).isSome = true →
      (world'.objects.lookup key).isSome = true ∨ key = object_key)
    (hsaved : world'.saved = world.saved) (hrecord : ∀ request destination, state ≠ .record request destination)
    (hspared : ∀ media_id ∈ world.saved, Spared state media_id) (hcopied : ¬ Copied world object_key)
    (howns : Owns self media_id object_key) (hmedia : media_id ∉ world.saved) : SavesKept self world' := by
  refine h.of_step hkeys (fun key hkey => (hobjects key hkey).imp_right ?_) (fun query found hfound => ?_)
    (fun media_id hmem => Or.inl ⟨hsaved ▸ hmem, by rw [hinner]⟩)
  · rintro rfl
    exact ⟨hcopied, media_id, hsaved ▸ hmedia, howns⟩
  · rw [htasks] at hfound
    rcases World.lookup_set_task hfound with hold | rfl
    · exact Or.inl hold
    · exact Or.inr ⟨fun request destination heq => absurd heq (hrecord request destination),
        hsaved ▸ hspared⟩

theorem SavesKept.end_task (h : SavesKept self world) (task : Nat) : SavesKept self (world.end_task task) :=
  h.of_step (h.keys.end_task task) (fun _ hkey => Or.inl hkey)
    (fun _ _ hfound => Or.inl (World.lookup_end_task hfound)) fun _ hmem => Or.inl ⟨hmem, rfl⟩

theorem SavesKept.not_deleted (h : SavesKept self world) {task : Nat} {path : ProjectCompanyMediaPath}
    {object_keys : List String} (htask : world.tasks.lookup task = some (.delete path object_keys)) :
    path.media_id ∉ world.saved := by
  intro hmem
  have hdeletes := (h.spared _ hmem task _ htask).1
  exact of_decide_eq_false hdeletes rfl

theorem SavesKept.delete_bytes (h : SavesKept self world) {task : Nat} {path : ProjectCompanyMediaPath}
    {object_keys : List String} (htask : world.tasks.lookup task = some (.delete path object_keys))
    {stored : Bool} (hundisturbed : Undisturbed world (ctx, .resume task stored)) :
    SavesKept self (world.delete_bytes ctx task path object_keys stored) := by
  have hkeys := h.keys.delete_bytes ctx task (h.keys.tasks task _ htask) stored
  have hnot := h.not_deleted htask
  unfold World.delete_bytes at hkeys ⊢
  cases object_keys with
  | cons object_key rest =>
    cases stored with
    | false => exact h.end_task task
    | true =>
      have herases : world.erases (.resume task true) = some object_key := by
        dsimp only [World.erases]
        rw [htask]
      exact h.erase hkeys rfl rfl (fun key hkey => isSome_lookup_erase hkey object_key) rfl nofun
        (fun media_id hmem => ⟨(h.spared media_id hmem task _ htask).1, rfl⟩)
        (hundisturbed.unrecorded object_key herases)
        (h.keys.tasks task _ htask object_key List.mem_cons_self) hnot
  | nil =>
    rcases delete_media_spec ctx world.inner path with ⟨err, heq⟩ | ⟨before, change, hlookup, heq, -⟩
    · rw [heq] at hkeys ⊢
      exact h.end_task task
    · rw [heq, update_media_of_lookup hlookup] at hkeys ⊢
      refine h.of_step hkeys (fun _ hkey => Or.inl hkey)
        (fun _ _ hfound => Or.inl (World.lookup_end_task hfound)) fun media_id hmem => Or.inl ⟨hmem, ?_⟩
      have hne : media_id ≠ path.media_id := by
        rintro rfl
        exact hnot hmem
      dsimp only
      rw [HashMap.lookup_insert_ite, if_neg hne]

theorem holds_eq_false_iff {media_id : String} {job : Job} {todo : List Deletion}
    {deleted failed : List MediaObject} :
    (Task.job job todo deleted failed).holds media_id = false ↔
      (∀ deletion ∈ todo, deletion.media.id ≠ media_id) ∧ ∀ media ∈ deleted, media.id ≠ media_id := by
  dsimp only [Task.holds]
  simp only [List.any_append, Bool.or_eq_false_iff, List.any_eq_false, decide_eq_true_eq,
    List.forall_mem_map, ne_eq]

theorem SavesKept.resume_job (h : SavesKept self world) {task : Nat} {job : Job} {todo : List Deletion}
    {deleted failed : List MediaObject} (htask : world.tasks.lookup task = some (.job job todo deleted failed))
    {stored : Bool} (hundisturbed : Undisturbed world (ctx, .resume task stored)) :
    SavesKept self (world.resume_job task job todo deleted failed stored) := by
  have hkeys := h.keys.resume_job task (h.keys.tasks task _ htask) stored
  have hfree : ∀ media_id ∈ world.saved,
      (∀ deletion ∈ todo, deletion.media.id ≠ media_id) ∧ ∀ media ∈ deleted, media.id ≠ media_id :=
    fun media_id hmem => holds_eq_false_iff.mp (h.spared media_id hmem task _ htask).2
  unfold World.resume_job at hkeys ⊢
  cases todo with
  | nil =>
    obtain ⟨media_ids, hsubset, hmedia⟩ := remove_deleted_media world.inner job deleted failed
    refine h.of_step hkeys (fun _ hkey => Or.inl hkey)
      (fun _ _ hfound => Or.inl (World.lookup_end_task hfound)) fun media_id hmem => Or.inl ⟨hmem, ?_⟩
    have hnot : media_id ∉ media_ids := by
      intro hremoved
      obtain ⟨media, hdeleted, hid⟩ := List.mem_map.mp (hsubset hremoved)
      exact (hfree media_id hmem).2 media hdeleted hid
    dsimp only
    rw [hmedia, HashMap.lookup_retain]
    cases world.inner.media.lookup media_id with
    | none => rfl
    | some media => rw [Option.filter_some, if_pos (by simpa using hnot)]
  | cons deletion todo =>
    obtain ⟨media, object_keys, ok⟩ := deletion
    have hmedia : media.id ∉ world.saved :=
      fun hmem => (hfree media.id hmem).1 _ List.mem_cons_self rfl
    cases object_keys with
    | cons object_key rest =>
      have hspared : ∀ media_id ∈ world.saved,
          Spared (.job job (⟨media, rest, ok && stored⟩ :: todo) deleted failed) media_id := by
        intro media_id hmem
        obtain ⟨htodo, hdeleted⟩ := hfree media_id hmem
        refine ⟨rfl, holds_eq_false_iff.mpr ⟨?_, hdeleted⟩⟩
        intro query hquery
        rcases List.mem_cons.mp hquery with rfl | hrest
        · exact htodo ⟨media, object_key :: rest, ok⟩ List.mem_cons_self
        · exact htodo query (List.mem_cons_of_mem _ hrest)
      cases stored with
      | false => exact h.start hkeys rfl rfl rfl (List.Subset.refl _) nofun hspared
      | true =>
        have herases : world.erases (.resume task true) = some object_key := by
          dsimp only [World.erases]
          rw [htask]
        exact h.erase hkeys rfl rfl (fun key hkey => isSome_lookup_erase hkey object_key) rfl nofun hspared
          (hundisturbed.unrecorded object_key herases)
          (h.keys.tasks task _ htask _ List.mem_cons_self object_key List.mem_cons_self) hmedia
    | nil =>
      have hspared : ∀ deleted', (∀ media' ∈ deleted', media' ∈ deleted ∨ media' = media) → ∀ failed',
          ∀ media_id ∈ world.saved, Spared (.job job todo deleted' failed') media_id := by
        intro deleted' hdeleted' failed' media_id hmem
        obtain ⟨htodo, hdeleted⟩ := hfree media_id hmem
        refine ⟨rfl, holds_eq_false_iff.mpr
          ⟨fun query hquery => htodo query (List.mem_cons_of_mem _ hquery), fun media' hmem' => ?_⟩⟩
        rcases hdeleted' media' hmem' with hold | rfl
        · exact hdeleted media' hold
        · exact htodo _ List.mem_cons_self
      cases ok with
      | true =>
        refine h.start hkeys rfl rfl rfl (List.Subset.refl _) nofun (hspared _ ?_ _)
        intro media' hmem
        exact (List.mem_append.mp hmem).imp_right List.mem_singleton.mp
      | false =>
        exact h.start hkeys rfl rfl rfl (List.Subset.refl _) nofun (hspared _ (fun _ hmem => Or.inl hmem) _)

theorem SavesKept.next {label : Ctx × MediaOp} (h : SavesKept self world)
    (hnext : Guarded (World.Next self) Undisturbed world label world') : SavesKept self world' := by
  obtain ⟨ctx, op⟩ := label
  obtain ⟨hundisturbed, hallowed, rfl⟩ := hnext
  cases op with
  | store media bytes => exact h.store hallowed
  | other inner => exact h.other hallowed
  | save_media task request => exact h.save_media hundisturbed
  | delete_media task path => exact h.delete_media task path
  | cleanup_expired_temp_media task =>
    refine h.select task .cleanup_expired_temp_media (fun media hmem => (List.mem_filter.mp hmem).1) ?_
    intro media_id _ media _ hstatus hmem
    have htemp := (List.mem_filter.mp hmem).2
    rw [hstatus, show is_temp_status "permanent" = false from rfl, Bool.false_and] at htemp
    cases htemp
  | apply_company_retention task project_id company_id policy =>
    refine h.select task _ (fun media hmem => (mem_candidate_media_iff.mp hmem).1) ?_
    intro media_id _ media hmedia hstatus hmem
    rcases (mem_candidate_media_iff.mp hmem).2 with ⟨message_id, hcandidate, hmessage⟩ | ⟨htemp, -⟩
    · exact hundisturbed.recent task project_id company_id policy rfl media_id media message_id hmedia hstatus
        hmessage hcandidate
    · rw [hstatus] at htemp
      cases htemp
  | resume task stored =>
    dsimp only [World.step]
    cases hlookup : world.tasks.lookup task with
    | none => exact h
    | some state =>
      cases state with
      | copy request source destination => exact h.copy_bytes (h.keys.tasks task _ hlookup) stored
      | record request destination => exact h.record_saved hlookup hundisturbed
      | delete path object_keys => exact h.delete_bytes hlookup hundisturbed
      | job job todo deleted failed => exact h.resume_job hlookup hundisturbed

theorem SavesKept.empty : SavesKept self {} where
  keys := .empty
  copied task request destination htask := by
    rw [AList.lookup_empty] at htask
    cases htask
  saved := nofun
  spared := nofun

end SavesKept

/-- Whatever happens, what has been saved stays saved until somebody asks for its deletion,
as long as no job selects it and nothing gets between its copy and its record. -/
theorem saved_media_survives (self : AppState) (labels : List (Ctx × MediaOp)) (world : World)
    (hrun : Run (Guarded (World.Next self) Undisturbed) {} labels world) :
    ∀ media_id ∈ world.saved, ∃ object_key, PermanentAt world media_id object_key := by
  have hkept : SavesKept self world := hrun.invariant (fun _ _ _ h hstep => h.next hstep) .empty
  intro media_id hmem
  obtain ⟨object_key, hpermanent, -⟩ := hkept.saved media_id hmem
  exact ⟨object_key, hpermanent⟩

namespace sample

open rustzap.state.sample

/-- A picture of the message "msg_a0". -/
def picture : MediaObject where
  id := "media_1"
  project_id := "acme"
  company_id := "company_a"
  conversation_id := "5511988887777@s.whatsapp.net"
  message_id := some "msg_a0"
  media_type := "image"
  mime_type := "image/png"
  original_filename := none
  size_bytes := 1
  sha256 := ""
  storage_status := "temp"
  bucket := none
  object_key := some "rustyzap/temp/media=media_1.png"
  permanent_object_key := none
  public_url := none
  thumbnail_url := none
  width := none
  height := none
  duration_seconds := none
  expires_at := none
  saved_at := none
  created_at := Duration.seconds 1
  updated_at := Duration.seconds 1

def save_picture (entity_type : String) : SaveMedia where
  path := { project_id := "acme", company_id := "company_a", media_id := "media_1" }
  entity_type
  entity_id := "1"

def stored : Ctx × MediaOp :=
  (ctx 1 "a", .store picture [0])

/-- The picture is saved: the request comes in, copies the bytes and writes the record. -/
def saves (task : Nat) (entity_type : String) : List (Ctx × MediaOp) :=
  [(ctx 2 "b", .save_media task (save_picture entity_type)), (ctx 3 "c", .resume task true),
    (ctx 4 "d", .resume task true)]

/-- The message of the picture arrives. -/
def message_arrives : Ctx × MediaOp :=
  (ctx 1 "a", .other { (run Store.empty [received]).inner with
    media := (∅ : HashMap String MediaObject).insert "media_1" picture })

/-- Two days later the retention of a company that keeps messages for a day selects the
picture, deletes its bytes under both keys, and removes it. -/
def expires : List (Ctx × MediaOp) :=
  [(ctx 172800 "e", .apply_company_retention 1 "acme" "company_a"
      { message_retention_days := some 1, media_temp_retention_days := none,
        transcript_retention_days := none, allow_transcript_storage := true }),
    (ctx 172801 "f", .resume 1 true), (ctx 172802 "g", .resume 1 true), (ctx 172803 "h", .resume 1 true),
    (ctx 172804 "i", .resume 1 true)]

def world_after (labels : List (Ctx × MediaOp)) : World :=
  labels.foldl (fun world label => world.step service label.1 label.2) {}

theorem storable : Storable service {} picture where
  new := AList.lookup_empty _
  plain := by
    unfold PlainId
    decide
  unused object_key hkey := by
    cases hkey
    refine ⟨fun hroot => ?_, AList.lookup_empty _, fun _ => List.not_mem_nil⟩
    have hother : str.starts_with "rustyzap/temp/media=media_1.png" (permanent_root service) = false := by
      decide
    rw [hother] at hroot
    cases hroot
  permanent := Or.inl ⟨rfl, by decide⟩

end sample

/-- While no job runs and no delete, nothing gets in the way of the save of the picture. -/
theorem saved_picture_stays :
    ∃ object_key, PermanentAt (sample.world_after (sample.stored :: sample.saves 0 "order")) "media_1"
      object_key := by
  have hcopying : (sample.world_after (sample.stored :: (sample.saves 0 "order").take 1)).tasks.values.all
      Task.saves = true := by decide
  have hrecording : (sample.world_after (sample.stored :: (sample.saves 0 "order").take 2)).tasks.values.all
      Task.saves = true := by decide
  have hpicture : ∀ before, media_for_company (sample.world_after [sample.stored]).inner "acme" "company_a"
      "media_1" = .ok before → before.object_key ≠ none := by
    intro before hbefore
    have hobject : ((sample.world_after [sample.stored]).inner.media.lookup "media_1").map
        MediaObject.object_key = some (some "rustyzap/temp/media=media_1.png") := by decide
    rw [media_for_company_eq_ok hbefore, Option.map_some, Option.some.injEq] at hobject
    rw [hobject]
    exact Option.some_ne_none _
  have hstored : Undisturbed {} sample.stored := .of_saves (fun _ _ _ heq _ => nomatch heq) (by decide) nofun
  have hidle : (sample.world_after [sample.stored]).tasks.values.all Task.saves = true := by decide
  have hnew : (sample.world_after [sample.stored]).tasks.lookup 0 = none := by decide
  have hsaved : Undisturbed (sample.world_after [sample.stored])
      (sample.ctx 2 "b", .save_media 0 (sample.save_picture "order")) := by
    refine .of_saves ?_ hidle nofun
    rintro task request before ⟨⟩ hbefore
    exact hpicture before hbefore
  have hrun : Run (Guarded (World.Next sample.service) Undisturbed) {}
      (sample.stored :: sample.saves 0 "order")
      (sample.world_after (sample.stored :: sample.saves 0 "order")) :=
    .cons ⟨hstored, sample.storable, rfl⟩ <| .cons ⟨hsaved, hnew, rfl⟩ <|
      .cons ⟨.of_saves (fun _ _ _ heq _ => nomatch heq) hcopying nofun, trivial, rfl⟩ <|
      .cons ⟨.of_saves (fun _ _ _ heq _ => nomatch heq) hrecording nofun, trivial, rfl⟩ <| .nil _
  exact saved_media_survives sample.service _ _ hrun "media_1" (by decide)

/-- The retention removes a saved picture with its message. -/
theorem saved_picture_removed :
    ¬ ∀ (labels : List (Ctx × MediaOp)) (world : World), Run (World.Next sample.service) {} labels world →
      ∀ media_id ∈ world.saved, ∃ object_key, PermanentAt world media_id object_key := by
  intro hclaim
  have hbefore : (sample.world_after [sample.stored, sample.message_arrives]).tasks.lookup 0 = none := by
    decide
  have hafter : (sample.world_after (sample.stored :: sample.message_arrives ::
      sample.saves 0 "order")).tasks.lookup 1 = none := by decide
  have hrun : Run (World.Next sample.service) {}
      (sample.stored :: sample.message_arrives :: (sample.saves 0 "order" ++ sample.expires))
      (sample.world_after (sample.stored :: sample.message_arrives ::
        (sample.saves 0 "order" ++ sample.expires))) :=
    .cons ⟨sample.storable, rfl⟩ <| .cons ⟨fun _ => rfl, rfl⟩ <| .cons ⟨hbefore, rfl⟩ <|
      .cons ⟨trivial, rfl⟩ <| .cons ⟨trivial, rfl⟩ <| .cons ⟨hafter, rfl⟩ <| .cons ⟨trivial, rfl⟩ <|
      .cons ⟨trivial, rfl⟩ <| .cons ⟨trivial, rfl⟩ <| .cons ⟨trivial, rfl⟩ <| .nil _
  obtain ⟨object_key, media, hmedia, -⟩ := hclaim _ _ hrun "media_1" (by decide)
  have hgone : (sample.world_after (sample.stored :: sample.message_arrives ::
      (sample.saves 0 "order" ++ sample.expires))).inner.media.lookup "media_1" = none := by decide
  rw [hgone] at hmedia
  cases hmedia

end rustzap.routes
