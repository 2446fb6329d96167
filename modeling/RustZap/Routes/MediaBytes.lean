import RustZap.Retention.SavedMedia

open collections runs
open rustzap.error rustzap.models rustzap.state

namespace rustzap.routes

/-- The media that are stored and the handlers of the requests, with a byte store that does
not fail. -/
def MediaOp.Handled : MediaOp → Prop
  | .store .. | .other _ | .save_media .. | .delete_media .. => True
  | .resume _ stored => stored = true
  | .cleanup_expired_temp_media _ | .apply_company_retention .. => False

/-- The steps of the handlers, in any interleaving. -/
def World.Handles (self : AppState) (world : World) (label : Ctx × MediaOp) (world' : World) : Prop :=
  label.2.Handled ∧ world.Next self label world'

/-- A step that keeps saves and deletes of one medium from losing track of an object. -/
structure Orderly (world : World) (label : Ctx × MediaOp) : Prop where
  /-- What is to be saved has an object. -/
  backed : ∀ task request before, label.2 = .save_media task request →
    media_for_company world.inner request.path.project_id request.path.company_id
      request.path.media_id = .ok before → before.object_key ≠ none
  /-- The bytes that a save has copied are not deleted before it writes its record. -/
  unrecorded : ∀ object_key, world.erases label.2 = some object_key → ¬ Copied world object_key
  /-- A save does not put another permanent key in the place of one. -/
  single : ∀ task stored request destination media, label.2 = .resume task stored →
    world.tasks.lookup task = some (.record request destination) →
    world.inner.media.lookup request.path.media_id = some media → ∀ object_key,
      media.permanent_object_key = some object_key →
        media.object_key = some object_key ∨ destination = some object_key
  /-- A delete that is in progress when the record is written still has the new key to go. -/
  awaited : ∀ task stored request destination, label.2 = .resume task stored →
    world.tasks.lookup task = some (.record request (some destination)) →
    ∀ other path object_keys, world.tasks.lookup other = some (.delete path object_keys) →
      path.media_id = request.path.media_id → destination ∈ object_keys

/-- The medium that a request is about. -/
def Task.path : Task → Option ProjectCompanyMediaPath
  | .copy request .. | .record request _ => some request.path
  | .delete path _ => some path
  | .job .. => none

def Task.About (media_id : String) (task : Task) : Prop :=
  ∃ path, task.path = some path ∧ path.media_id = media_id

def HasKey (media : MediaObject) (object_key : String) : Prop :=
  media.object_key = some object_key ∨ media.permanent_object_key = some object_key

/-- A save of the medium has copied to the key and not written its record. -/
def Recording (world : World) (media_id object_key : String) : Prop :=
  ∃ task request, world.tasks.lookup task = some (.record request (some object_key)) ∧
    request.path.media_id = media_id

def Deleting (world : World) (media_id : String) : Prop :=
  ∃ task path object_keys, world.tasks.lookup task = some (.delete path object_keys) ∧ path.media_id = media_id

/-- What a delete has done so far. Until the object is deleted, all keys are still to go;
after that nothing can be copied from it any more. -/
def Progress (world : World) (media : MediaObject) (object_keys : List String) : Prop :=
  (∃ object_key rest, media.object_key = some object_key ∧ object_keys = object_key :: rest ∧
    ∀ key, HasKey media key → key ∈ object_keys) ∨
  (∀ key, media.object_key = some key → world.objects.lookup key = none) ∧
    ∀ key, media.permanent_object_key = some key → key ∈ object_keys ∨ world.objects.lookup key = none

/-- The records, the tasks and the byte store agree about one medium. -/
structure Tracked (world : World) (media_id : String) : Prop where
  known : ∀ object_key, (media_id, object_key) ∈ world.written →
    ∃ media, world.inner.media.lookup media_id = some media
  path : ∀ task state path, world.tasks.lookup task = some state → state.path = some path →
    path.media_id = media_id → ∃ media, world.inner.media.lookup media_id = some media ∧
      media.project_id = path.project_id ∧ media.company_id = path.company_id
  source : ∀ task request source destination media,
    world.tasks.lookup task = some (.copy request source destination) → request.path.media_id = media_id →
    world.inner.media.lookup media_id = some media → media.object_key = some source
  copied : ∀ task request destination, world.tasks.lookup task = some (.record request destination) →
    request.path.media_id = media_id → ∃ object_key, destination = some object_key ∧
      (media_id, object_key) ∈ world.written ∧ (world.objects.lookup object_key).isSome = true
  removing : ∀ task path object_keys, world.tasks.lookup task = some (.delete path object_keys) →
    path.media_id = media_id → ∀ object_key ∈ object_keys, (media_id, object_key) ∈ world.written
  progress : ∀ task path object_keys media, world.tasks.lookup task = some (.delete path object_keys) →
    path.media_id = media_id → world.inner.media.lookup media_id = some media →
    Progress world media object_keys
  recorded : ∀ media object_key, world.inner.media.lookup media_id = some media → HasKey media object_key →
    (media_id, object_key) ∈ world.written
  permanent : ∀ media, world.inner.media.lookup media_id = some media → media.storage_status = "permanent" →
    ∃ object_key, media.permanent_object_key = some object_key ∧
      ((world.objects.lookup object_key).isSome = true ∨ Deleting world media_id)
  traced : ∀ object_key, (media_id, object_key) ∈ world.written →
    world.objects.lookup object_key = none ∨
      (∀ media, world.inner.media.lookup media_id = some media → HasKey media object_key) ∨
      Recording world media_id object_key
  deleted : media_id ∈ world.deleted → ∃ media, world.inner.media.lookup media_id = some media ∧
    media.storage_status = "deleted" ∧
      ∀ object_key, HasKey media object_key → world.objects.lookup object_key = none

/-- The records, the tasks and the byte store agree, and no object is of two media. -/
structure InStep (service : AppState) (world : World) : Prop where
  keys : KeysOwned service world
  owned : ∀ media_id object_key, (media_id, object_key) ∈ world.written → Owns service media_id object_key
  unique : ∀ media_id media_id' object_key, (media_id, object_key) ∈ world.written →
    (media_id', object_key) ∈ world.written → media_id = media_id'
  tracked : ∀ media_id, Tracked world media_id

section InStep

variable {self : AppState} {ctx : Ctx} {world world' : World} {media_id : String}

theorem hasKey_congr {media media' : MediaObject} (h : storage media' = storage media) (object_key : String) :
    HasKey media' object_key ↔ HasKey media object_key := by
  obtain ⟨-, -, -, -, hobject, hpermanent⟩ := storage_eq_iff.mp h
  unfold HasKey
  rw [hobject, hpermanent]

/-- What a step leaves of a medium that it is not about. -/
structure Untouched (world world' : World) (media_id : String) : Prop where
  media : (world'.inner.media.lookup media_id).map storage = (world.inner.media.lookup media_id).map storage
  objects : ∀ object_key, (media_id, object_key) ∈ world.written →
    world'.objects.lookup object_key = world.objects.lookup object_key
  tasks : ∀ task state, state.About media_id →
    (world'.tasks.lookup task = some state ↔ world.tasks.lookup task = some state)
  written : ∀ object_key, (media_id, object_key) ∈ world'.written ↔ (media_id, object_key) ∈ world.written
  deleted : media_id ∈ world'.deleted → media_id ∈ world.deleted

theorem Untouched.lookup (h : Untouched world world' media_id) {media' : MediaObject}
    (hmedia : world'.inner.media.lookup media_id = some media') :
    ∃ media, world.inner.media.lookup media_id = some media ∧ storage media' = storage media := by
  have hsame := h.media
  rw [hmedia, Option.map_some, eq_comm, Option.map_eq_some_iff] at hsame
  obtain ⟨media, hlookup, hstorage⟩ := hsame
  exact ⟨media, hlookup, hstorage.symm⟩

theorem Untouched.lookup' (h : Untouched world world' media_id) {media : MediaObject}
    (hmedia : world.inner.media.lookup media_id = some media) :
    ∃ media', world'.inner.media.lookup media_id = some media' ∧ storage media' = storage media := by
  have hsame := h.media
  rw [hmedia, Option.map_some, Option.map_eq_some_iff] at hsame
  exact hsame

/-- A medium that a step is not about is tracked as before. -/
theorem Tracked.untouched (h : Tracked world media_id) (huntouched : Untouched world world' media_id) :
    Tracked world' media_id where
  known object_key hwritten := by
    obtain ⟨media, hmedia⟩ := h.known object_key ((huntouched.written object_key).mp hwritten)
    obtain ⟨media', hmedia', -⟩ := huntouched.lookup' hmedia
    exact ⟨media', hmedia'⟩
  path task state path htask hpath hid := by
    have hold := (huntouched.tasks task state ⟨path, hpath, hid⟩).mp htask
    obtain ⟨media, hmedia, hproject, hcompany⟩ := h.path task state path hold hpath hid
    obtain ⟨media', hmedia', hstorage⟩ := huntouched.lookup' hmedia
    obtain ⟨-, hproject', hcompany', -⟩ := storage_eq_iff.mp hstorage
    exact ⟨media', hmedia', hproject'.trans hproject, hcompany'.trans hcompany⟩
  source task request source destination media htask hid hmedia := by
    have hold := (huntouched.tasks task _ ⟨request.path, rfl, hid⟩).mp htask
    obtain ⟨old, hlookup, hstorage⟩ := huntouched.lookup hmedia
    rw [(storage_eq_iff.mp hstorage).2.2.2.2.1]
    exact h.source task request source destination old hold hid hlookup
  copied task request destination htask hid := by
    have hold := (huntouched.tasks task _ ⟨request.path, rfl, hid⟩).mp htask
    obtain ⟨object_key, heq, hwritten, hbytes⟩ := h.copied task request destination hold hid
    refine ⟨object_key, heq, (huntouched.written object_key).mpr hwritten, ?_⟩
    rw [huntouched.objects object_key hwritten]
    exact hbytes
  removing task path object_keys htask hid object_key hmem := by
    have hold := (huntouched.tasks task _ ⟨path, rfl, hid⟩).mp htask
    exact (huntouched.written object_key).mpr (h.removing task path object_keys hold hid object_key hmem)
  progress task path object_keys media htask hid hmedia := by
    have hold := (huntouched.tasks task _ ⟨path, rfl, hid⟩).mp htask
    obtain ⟨old, hlookup, hstorage⟩ := huntouched.lookup hmedia
    obtain ⟨-, -, -, -, hobject, hpermanent⟩ := storage_eq_iff.mp hstorage
    have hsame : ∀ key, HasKey old key → world'.objects.lookup key = world.objects.lookup key :=
      fun key hkey => huntouched.objects key (h.recorded old key hlookup hkey)
    unfold Progress
    simp only [hasKey_congr hstorage, hobject, hpermanent]
    refine (h.progress task path object_keys old hold hid hlookup).imp id (And.imp ?_ ?_)
    · intro hgone key hkey
      rw [hsame key (Or.inl hkey)]
      exact hgone key hkey
    · intro hgone key hkey
      rw [hsame key (Or.inr hkey)]
      exact hgone key hkey
  recorded media object_key hmedia hkey := by
    obtain ⟨old, hlookup, hstorage⟩ := huntouched.lookup hmedia
    exact (huntouched.written object_key).mpr
      (h.recorded old object_key hlookup ((hasKey_congr hstorage object_key).mp hkey))
  permanent media hmedia hstatus := by
    obtain ⟨old, hlookup, hstorage⟩ := huntouched.lookup hmedia
    obtain ⟨-, -, -, hstatus', -, hpermanent⟩ := storage_eq_iff.mp hstorage
    obtain ⟨object_key, hkey, hbytes⟩ := h.permanent old hlookup (hstatus'.symm.trans hstatus)
    refine ⟨object_key, hpermanent.trans hkey, hbytes.imp ?_ ?_⟩
    · intro hbytes
      rw [huntouched.objects object_key (h.recorded old object_key hlookup (Or.inr hkey))]
      exact hbytes
    · rintro ⟨task, path, object_keys, htask, hid⟩
      exact ⟨task, path, object_keys, (huntouched.tasks task _ ⟨path, rfl, hid⟩).mpr htask, hid⟩
  traced object_key hwritten := by
    have hold := (huntouched.written object_key).mp hwritten
    rw [huntouched.objects object_key hold]
    refine (h.traced object_key hold).imp id (Or.imp ?_ ?_)
    · intro hkey media hmedia
      obtain ⟨old, hlookup, hstorage⟩ := huntouched.lookup hmedia
      exact (hasKey_congr hstorage object_key).mpr (hkey old hlookup)
    · rintro ⟨task, request, htask, hid⟩
      exact ⟨task, request, (huntouched.tasks task _ ⟨request.path, rfl, hid⟩).mpr htask, hid⟩
  deleted hmem := by
    obtain ⟨old, hlookup, hstatus, hgone⟩ := h.deleted (huntouched.deleted hmem)
    obtain ⟨media, hmedia, hstorage⟩ := huntouched.lookup' hlookup
    refine ⟨media, hmedia, (storage_eq_iff.mp hstorage).2.2.2.1.trans hstatus, fun object_key hkey => ?_⟩
    have hold := (hasKey_congr hstorage object_key).mp hkey
    rw [huntouched.objects object_key (h.recorded old object_key hlookup hold)]
    exact hgone object_key hold

/-- Two tasks that are about different media are different. -/
theorem Task.About.ne {state state' : Task} {other : String} (h : state.About media_id)
    (h' : state'.path.map ProjectCompanyMediaPath.media_id = some other) (hne : media_id ≠ other) :
    state ≠ state' := by
  rintro rfl
  obtain ⟨path, hpath, hid⟩ := h
  rw [hpath, Option.map_some, Option.some.injEq] at h'
  exact hne (hid.symm.trans h')

theorem World.lookup_set_task_kept {task query : Nat} {state found : Task}
    (hold : world.tasks.lookup task ≠ some found) (h : world.tasks.lookup query = some found) :
    (world.set_task task state).tasks.lookup query = some found := by
  unfold World.set_task
  rw [HashMap.lookup_insert_ite, if_neg]
  · exact h
  · rintro rfl
    exact hold h

theorem World.lookup_end_task_kept {task query : Nat} {found : Task}
    (hold : world.tasks.lookup task ≠ some found) (h : world.tasks.lookup query = some found) :
    (world.end_task task).tasks.lookup query = some found := by
  unfold World.end_task
  rw [HashMap.lookup_erase_ite, if_neg]
  · exact h
  · rintro rfl
    exact hold h

/-- The tasks about other media go on as they are. -/
theorem World.set_task_other {task : Nat} {old state : Task} {other : String}
    (hold : world.tasks.lookup task = some old)
    (hpath : old.path.map ProjectCompanyMediaPath.media_id = some media_id)
    (hpath' : state.path.map ProjectCompanyMediaPath.media_id = some media_id) (hne : other ≠ media_id)
    (query : Nat) (found : Task) (habout : found.About other) :
    (world.set_task task state).tasks.lookup query = some found ↔ world.tasks.lookup query = some found := by
  constructor
  · exact fun hfound => (World.lookup_set_task hfound).resolve_right (habout.ne hpath' hne)
  · refine World.lookup_set_task_kept ?_
    rw [hold]
    exact fun heq => habout.ne hpath hne (Option.some.inj heq).symm

theorem World.end_task_other {task : Nat} {old : Task} {other : String}
    (hold : world.tasks.lookup task = some old)
    (hpath : old.path.map ProjectCompanyMediaPath.media_id = some media_id) (hne : other ≠ media_id)
    (query : Nat) (found : Task) (habout : found.About other) :
    (world.end_task task).tasks.lookup query = some found ↔ world.tasks.lookup query = some found := by
  constructor
  · exact World.lookup_end_task
  · refine World.lookup_end_task_kept ?_
    rw [hold]
    exact fun heq => habout.ne hpath hne (Option.some.inj heq).symm

/-- A step about one medium keeps all media tracked if it keeps this one so, leaves the
others, and writes no object of theirs. -/
theorem InStep.of_step (h : InStep self world) (media_id : String) (hkeys : KeysOwned self world')
    (hwritten : ∀ other object_key, (other, object_key) ∈ world'.written →
      (other, object_key) ∈ world.written ∨ other = media_id ∧ Owns self media_id object_key ∧
        ∀ owner, (owner, object_key) ∈ world.written → owner = media_id)
    (htracked : Tracked world' media_id)
    (huntouched : ∀ other, other ≠ media_id → Untouched world world' other) : InStep self world' where
  keys := hkeys
  owned other object_key hmem := by
    rcases hwritten other object_key hmem with hold | ⟨rfl, howns, -⟩
    · exact h.owned other object_key hold
    · exact howns
  unique first second object_key hfirst hsecond := by
    rcases hwritten first object_key hfirst with hold | ⟨rfl, -, hfirst'⟩
    · rcases hwritten second object_key hsecond with hold' | ⟨rfl, -, hsecond'⟩
      · exact h.unique first second object_key hold hold'
      · exact hsecond' first hold
    · rcases hwritten second object_key hsecond with hold' | ⟨heq, -⟩
      · exact (hfirst' second hold').symm
      · exact heq.symm
  tracked other := by
    by_cases hother : other = media_id
    · exact hother ▸ htracked
    · exact (h.tracked other).untouched (huntouched other hother)

theorem InStep.other (h : InStep self world) {inner : StoreInner} (hsame : SameStorage world.inner inner) :
    InStep self (world.step self ctx (.other inner)) where
  keys := h.keys.other hsame
  owned := h.owned
  unique := h.unique
  tracked media_id := (h.tracked media_id).untouched
    { media := hsame media_id
      objects := fun _ _ => rfl
      tasks := fun _ _ _ => Iff.rfl
      written := fun _ => Iff.rfl
      deleted := id }

/-- A new medium has no history. -/
theorem Tracked.store (h : Tracked world media_id) {media : MediaObject} {bytes : List UInt8}
    (hallowed : Storable self world media) (hid : media.id = media_id) :
    Tracked (world.step self ctx (.store media bytes)) media_id := by
  subst hid
  have hlookup : (world.step self ctx (.store media bytes)).inner.media.lookup media.id = some media := by
    dsimp only [World.step]
    rw [HashMap.lookup_insert_ite, if_pos rfl]
  have hquiet : ∀ task state path, world.tasks.lookup task = some state → state.path = some path →
      path.media_id ≠ media.id := by
    intro task state path htask hpath hid
    obtain ⟨old, hold, -⟩ := h.path task state path htask hpath hid
    rw [hallowed.new] at hold
    cases hold
  have hfresh : ∀ object_key, (media.id, object_key) ∉ world.written := by
    intro object_key hmem
    obtain ⟨old, hold⟩ := h.known object_key hmem
    rw [hallowed.new] at hold
    cases hold
  have hkey : ∀ object_key, HasKey media object_key → media.object_key = some object_key := by
    rintro object_key (hobject | hpermanent)
    · exact hobject
    · rcases hallowed.permanent with ⟨hnone, -⟩ | ⟨hsame, -⟩
      · rw [hnone] at hpermanent
        cases hpermanent
      · exact hsame.symm.trans hpermanent
  have hwritten : ∀ object_key,
      (media.id, object_key) ∈ (world.step self ctx (.store media bytes)).written ↔
        media.object_key = some object_key := by
    intro object_key
    dsimp only [World.step]
    rw [List.mem_append, List.mem_map]
    constructor
    · rintro (⟨key, hmem, heq⟩ | hold)
      · cases heq
        exact Option.mem_toList.mp hmem
      · exact absurd hold (hfresh object_key)
    · exact fun hobject => Or.inl ⟨object_key, Option.mem_toList.mpr hobject, rfl⟩
  constructor
  · exact fun _ _ => ⟨media, hlookup⟩
  · exact fun task state path htask hpath hid => absurd hid (hquiet task state path htask hpath)
  · exact fun task request source destination _ htask hid => absurd hid (hquiet task _ _ htask rfl)
  · exact fun task request destination htask hid => absurd hid (hquiet task _ _ htask rfl)
  · exact fun task path object_keys htask hid => absurd hid (hquiet task _ _ htask rfl)
  · exact fun task path object_keys _ htask hid => absurd hid (hquiet task _ _ htask rfl)
  · intro found object_key hfound hhas
    rw [hlookup] at hfound
    cases hfound
    exact (hwritten object_key).mpr (hkey object_key hhas)
  · intro found hfound hstatus
    rw [hlookup] at hfound
    cases hfound
    rcases hallowed.permanent with ⟨-, hnot⟩ | ⟨hsame, hsome⟩
    · exact absurd hstatus hnot
    · obtain ⟨object_key, hobject⟩ := Option.isSome_iff_exists.mp hsome
      refine ⟨object_key, hsame.trans hobject, Or.inl ?_⟩
      dsimp only [World.step]
      rw [hobject]
      dsimp only
      rw [HashMap.lookup_insert_ite, if_pos rfl]
      rfl
  · intro object_key hmem
    refine Or.inr (Or.inl fun found hfound => ?_)
    rw [hlookup] at hfound
    cases hfound
    exact Or.inl ((hwritten object_key).mp hmem)
  · intro hmem
    obtain ⟨old, hold, -⟩ := h.deleted hmem
    rw [hallowed.new] at hold
    cases hold

theorem InStep.store (h : InStep self world) {media : MediaObject} {bytes : List UInt8}
    (hallowed : Storable self world media) : InStep self (world.step self ctx (.store media bytes)) := by
  refine h.of_step media.id (h.keys.store hallowed bytes) ?_
    ((h.tracked media.id).store hallowed rfl) ?_
  · intro other object_key hmem
    dsimp only [World.step] at hmem
    rcases List.mem_append.mp hmem with hnew | hold
    · obtain ⟨key, hkey, heq⟩ := List.mem_map.mp hnew
      cases heq
      obtain ⟨howns, -, hunused⟩ := hallowed.unused object_key (Option.mem_toList.mp hkey)
      exact Or.inr ⟨rfl, howns, fun owner howner => absurd howner (hunused owner)⟩
    · exact Or.inl hold
  · intro other hne
    constructor
    · dsimp only [World.step]
      rw [HashMap.lookup_insert_ite, if_neg hne]
    · intro object_key hmem
      dsimp only [World.step]
      cases hobject : media.object_key with
      | none => rfl
      | some key =>
        have hkey : object_key ≠ key := by
          rintro rfl
          exact (hallowed.unused object_key hobject).2.2 other hmem
        dsimp only
        rw [HashMap.lookup_insert_ite, if_neg hkey]
    · exact fun _ _ _ => Iff.rfl
    · intro object_key
      dsimp only [World.step]
      rw [List.mem_append, List.mem_map]
      refine ⟨fun hmem => hmem.resolve_left ?_, Or.inr⟩
      rintro ⟨key, -, heq⟩
      exact hne (congrArg Prod.fst heq).symm
    · exact id

/-- A request comes in and reads the record. -/
structure Starts (world world' : World) (task : Nat) (state : Task) (path : ProjectCompanyMediaPath)
    (before : MediaObject) : Prop where
  new : world.tasks.lookup task = none
  about : state.path = some path
  read : media_for_company world.inner path.project_id path.company_id path.media_id = .ok before
  tasks : world'.tasks = (world.set_task task state).tasks
  inner : world'.inner = world.inner
  objects : world'.objects = world.objects
  written : world'.written = world.written
  deleted : world'.deleted ⊆ world.deleted

theorem media_for_company_ok_iff {inner : StoreInner} {project_id company_id media_id : String}
    {media : MediaObject} :
    media_for_company inner project_id company_id media_id = .ok media ↔
      inner.media.lookup media_id = some media ∧ media.project_id = project_id ∧
        media.company_id = company_id := by
  unfold media_for_company
  split
  · next found hfound =>
    rw [Option.filter_eq_some_iff, Bool.and_eq_true, decide_eq_true_eq, decide_eq_true_eq] at hfound
    constructor
    · rintro ⟨⟩
      exact hfound
    · rintro ⟨hlookup, -⟩
      rw [Option.some.inj (hfound.1.symm.trans hlookup)]
  · next hnone =>
    refine iff_of_false nofun ?_
    rintro ⟨hlookup, hproject, hcompany⟩
    rw [hlookup, Option.filter_some, if_pos (by simp [hproject, hcompany])] at hnone
    cases hnone

/-- When a delete starts, everything is still to go. -/
theorem Progress.start (world : World) (media : MediaObject) :
    Progress world media (media.object_key.toList ++ media.permanent_object_key.toList) := by
  cases hobject : media.object_key with
  | none =>
    refine Or.inr ⟨fun key hkey => ?_, fun key hkey => Or.inl ?_⟩
    · rw [hobject] at hkey
      cases hkey
    · rw [hkey]
      exact List.mem_singleton_self key
  | some object_key =>
    refine Or.inl ⟨object_key, media.permanent_object_key.toList, hobject, rfl, fun key hkey => ?_⟩
    rcases hkey with hkey | hkey
    · rw [hobject] at hkey
      cases hkey
      exact List.mem_cons_self
    · rw [hkey]
      exact List.mem_cons_of_mem _ (List.mem_singleton_self key)

section Starts

variable {task : Nat} {state : Task} {path : ProjectCompanyMediaPath} {before : MediaObject}

theorem Starts.lookup (hstart : Starts world world' task state path before) {query : Nat} {found : Task}
    (h : world'.tasks.lookup query = some found) : world.tasks.lookup query = some found ∨ found = state := by
  rw [hstart.tasks] at h
  exact World.lookup_set_task h

theorem Starts.kept (hstart : Starts world world' task state path before) {query : Nat} {found : Task}
    (h : world.tasks.lookup query = some found) : world'.tasks.lookup query = some found := by
  rw [hstart.tasks]
  refine World.lookup_set_task_kept ?_ h
  rw [hstart.new]
  nofun

/-- The medium of the request is still tracked. -/
theorem Tracked.start (h : Tracked world path.media_id)
    (hstart : Starts world world' task state path before)
    (hsource : ∀ request source destination, state = .copy request source destination →
      before.object_key = some source)
    (hrecord : ∀ request destination, state ≠ .record request destination)
    (hdelete : ∀ path object_keys, state = .delete path object_keys →
      object_keys = before.object_key.toList ++ before.permanent_object_key.toList) :
    Tracked world' path.media_id := by
  obtain ⟨hlookup, hproject, hcompany⟩ := media_for_company_ok_iff.mp hstart.read
  constructor
  · intro object_key hmem
    rw [hstart.written] at hmem
    rw [hstart.inner]
    exact h.known object_key hmem
  · intro query found found_path hfound hpath hid
    rw [hstart.inner]
    rcases hstart.lookup hfound with hold | rfl
    · exact h.path query found found_path hold hpath hid
    · rw [hstart.about, Option.some.injEq] at hpath
      subst hpath
      exact ⟨before, hlookup, hproject, hcompany⟩
  · intro query request source destination media hfound hid hmedia
    rw [hstart.inner] at hmedia
    rcases hstart.lookup hfound with hold | hstate
    · exact h.source query request source destination media hold hid hmedia
    · rw [hlookup, Option.some.injEq] at hmedia
      exact hmedia ▸ hsource request source destination hstate.symm
  · intro query request destination hfound hid
    rw [hstart.written, hstart.objects]
    exact h.copied query request destination
      ((hstart.lookup hfound).resolve_right fun heq => hrecord request destination heq.symm) hid
  · intro query found_path object_keys hfound hid object_key hmem
    rw [hstart.written]
    rcases hstart.lookup hfound with hold | hstate
    · exact h.removing query found_path object_keys hold hid object_key hmem
    · rw [hdelete found_path object_keys hstate.symm, List.mem_append, Option.mem_toList,
        Option.mem_toList] at hmem
      exact h.recorded before object_key hlookup hmem
  · intro query found_path object_keys media hfound hid hmedia
    rw [hstart.inner] at hmedia
    unfold Progress
    rw [hstart.objects]
    rcases hstart.lookup hfound with hold | hstate
    · exact h.progress query found_path object_keys media hold hid hmedia
    · rw [hlookup, Option.some.injEq] at hmedia
      subst hmedia
      rw [hdelete found_path object_keys hstate.symm]
      exact Progress.start world before
  · intro media object_key hmedia hkey
    rw [hstart.inner] at hmedia
    rw [hstart.written]
    exact h.recorded media object_key hmedia hkey
  · intro media hmedia hstatus
    rw [hstart.inner] at hmedia
    obtain ⟨object_key, hkey, hbytes⟩ := h.permanent media hmedia hstatus
    refine ⟨object_key, hkey, hbytes.imp (hstart.objects ▸ id) ?_⟩
    rintro ⟨query, found_path, object_keys, hfound, hid⟩
    exact ⟨query, found_path, object_keys, hstart.kept hfound, hid⟩
  · intro object_key hmem
    rw [hstart.written] at hmem
    rw [hstart.inner, hstart.objects]
    refine (h.traced object_key hmem).imp id (Or.imp id ?_)
    rintro ⟨query, request, hfound, hid⟩
    exact ⟨query, request, hstart.kept hfound, hid⟩
  · intro hmem
    rw [hstart.inner, hstart.objects]
    exact h.deleted (hstart.deleted hmem)

theorem InStep.start (h : InStep self world) (hkeys : KeysOwned self world')
    (hstart : Starts world world' task state path before)
    (hsource : ∀ request source destination, state = .copy request source destination →
      before.object_key = some source)
    (hrecord : ∀ request destination, state ≠ .record request destination)
    (hdelete : ∀ path object_keys, state = .delete path object_keys →
      object_keys = before.object_key.toList ++ before.permanent_object_key.toList) : InStep self world' := by
  refine h.of_step path.media_id hkeys ?_
    ((h.tracked path.media_id).start hstart hsource hrecord hdelete) ?_
  · intro other object_key hmem
    exact Or.inl (hstart.written ▸ hmem)
  · intro other hne
    constructor
    · rw [hstart.inner]
    · rw [hstart.objects]
      exact fun _ _ => rfl
    · intro query found habout
      refine ⟨fun hfound => (hstart.lookup hfound).resolve_right ?_, hstart.kept⟩
      refine habout.ne ?_ hne
      rw [hstart.about, Option.map_some]
    · rw [hstart.written]
      exact fun _ => Iff.rfl
    · exact fun hmem => hstart.deleted hmem

end Starts

theorem InStep.save_media (h : InStep self world) {task : Nat} {request : SaveMedia}
    (hnew : world.tasks.lookup task = none)
    (horderly : Orderly world (ctx, .save_media task request)) :
    InStep self (world.save_media self ctx task request) := by
  have hkeys := h.keys.save_media ctx task request
  unfold World.save_media at hkeys ⊢
  cases hbefore : media_for_company world.inner request.path.project_id request.path.company_id
      request.path.media_id with
  | error err => exact h
  | ok before =>
    rw [hbefore] at hkeys
    obtain ⟨source, hsource⟩ := Option.ne_none_iff_exists'.mp
      (horderly.backed task request before rfl hbefore)
    dsimp only at hkeys ⊢
    rw [hsource] at hkeys ⊢
    refine h.start hkeys ⟨hnew, rfl, hbefore, rfl, rfl, rfl, rfl, List.filter_subset_self _⟩ ?_ nofun nofun
    rintro _ _ _ ⟨⟩
    exact hsource

theorem InStep.delete_media (h : InStep self world) {task : Nat} (path : ProjectCompanyMediaPath)
    (hnew : world.tasks.lookup task = none) : InStep self (world.delete_media task path) := by
  have hkeys := h.keys.delete_media task path
  unfold World.delete_media at hkeys ⊢
  cases hbefore : media_for_company world.inner path.project_id path.company_id path.media_id with
  | error err => exact h
  | ok before =>
    rw [hbefore] at hkeys
    refine h.start hkeys ⟨hnew, rfl, hbefore, rfl, rfl, rfl, rfl, List.Subset.refl _⟩ nofun nofun ?_
    rintro _ _ ⟨⟩
    rfl

/-- A save has copied the bytes of its medium. -/
theorem Tracked.copy_bytes {task : Nat} {request : SaveMedia} {source destination : String}
    {bytes : List UInt8} (h : Tracked world request.path.media_id)
    (htask : world.tasks.lookup task = some (.copy request source destination))
    (hbytes : world.objects.lookup source = some bytes) :
    Tracked { world.set_task task (.record request (some destination)) with
      objects := world.objects.insert destination bytes
      written := (request.path.media_id, destination) :: world.written } request.path.media_id := by
  obtain ⟨before, hlookup, hproject, hcompany⟩ := h.path task _ request.path htask rfl rfl
  have hsource : before.object_key = some source := h.source task request source destination before htask rfl hlookup
  have hkept : ∀ {query : Nat} {found : Task}, (∀ request source destination,
      found ≠ .copy request source destination) → world.tasks.lookup query = some found →
      (world.set_task task (.record request (some destination))).tasks.lookup query = some found := by
    intro query found hfound
    refine World.lookup_set_task_kept ?_
    rw [htask]
    exact fun heq => hfound _ _ _ (Option.some.inj heq).symm
  constructor
  · exact fun _ _ => ⟨before, hlookup⟩
  · intro query found path hfound hpath hid
    rcases World.lookup_set_task hfound with hold | rfl
    · exact h.path query found path hold hpath hid
    · cases hpath
      exact ⟨before, hlookup, hproject, hcompany⟩
  · intro query found_request found_source found_destination media hfound
    exact h.source query found_request found_source found_destination media
      ((World.lookup_set_task hfound).resolve_right nofun)
  · intro query found_request found_destination hfound hid
    rcases World.lookup_set_task hfound with hold | heq
    · obtain ⟨object_key, rfl, hmem, hstored⟩ := h.copied query found_request found_destination hold hid
      exact ⟨object_key, rfl, List.mem_cons_of_mem _ hmem, isSome_lookup_insert hstored _ _⟩
    · cases heq
      refine ⟨destination, rfl, List.mem_cons_self, ?_⟩
      dsimp only
      rw [HashMap.lookup_insert_ite, if_pos rfl]
      rfl
  · intro query path object_keys hfound hid object_key hmem
    exact List.mem_cons_of_mem _ (h.removing query path object_keys
      ((World.lookup_set_task hfound).resolve_right nofun) hid object_key hmem)
  · intro query path object_keys media hfound hid hmedia
    -- the object is there, so that a delete has not deleted anything yet
    rcases h.progress query path object_keys media ((World.lookup_set_task hfound).resolve_right nofun) hid
      hmedia with hbefore | ⟨hgone, -⟩
    · exact Or.inl hbefore
    · obtain rfl : before = media := Option.some.inj (hlookup.symm.trans hmedia)
      rw [hgone source hsource] at hbytes
      cases hbytes
  · exact fun media object_key hmedia hkey => List.mem_cons_of_mem _ (h.recorded media object_key hmedia hkey)
  · intro media hmedia hstatus
    obtain ⟨object_key, hkey, hstored⟩ := h.permanent media hmedia hstatus
    refine ⟨object_key, hkey, hstored.imp (fun hstored => isSome_lookup_insert hstored _ _) ?_⟩
    rintro ⟨query, path, object_keys, hfound, hid⟩
    exact ⟨query, path, object_keys, hkept nofun hfound, hid⟩
  · intro object_key hmem
    by_cases hnew : object_key = destination
    · refine Or.inr (Or.inr ⟨task, request, ?_, rfl⟩)
      rw [hnew]
      dsimp only [World.set_task]
      rw [HashMap.lookup_insert_ite, if_pos rfl]
    · have hold := (List.mem_cons.mp hmem).resolve_left fun heq => hnew (congrArg Prod.snd heq)
      refine (h.traced object_key hold).imp ?_ (Or.imp id ?_)
      · intro hgone
        dsimp only
        rw [HashMap.lookup_insert_ite, if_neg hnew]
        exact hgone
      · rintro ⟨query, found_request, hfound, hid⟩
        exact ⟨query, found_request, hkept nofun hfound, hid⟩
  · intro hmem
    obtain ⟨media, hmedia, -, hgone⟩ := h.deleted hmem
    obtain rfl : before = media := Option.some.inj (hlookup.symm.trans hmedia)
    rw [hgone source (Or.inl hsource)] at hbytes
    cases hbytes

/-- A save that fails has done nothing. -/
theorem Tracked.end_copy {task : Nat} {request : SaveMedia} {source destination : String}
    (h : Tracked world media_id)
    (htask : world.tasks.lookup task = some (.copy request source destination)) :
    Tracked (world.end_task task) media_id := by
  have hkept : ∀ {query : Nat} {found : Task}, (∀ request source destination,
      found ≠ .copy request source destination) → world.tasks.lookup query = some found →
      (world.end_task task).tasks.lookup query = some found := by
    intro query found hfound
    refine World.lookup_end_task_kept ?_
    rw [htask]
    exact fun heq => hfound _ _ _ (Option.some.inj heq).symm
  constructor
  · exact h.known
  · exact fun query found path hfound => h.path query found path (World.lookup_end_task hfound)
  · exact fun query found source destination media hfound =>
      h.source query found source destination media (World.lookup_end_task hfound)
  · exact fun query found destination hfound => h.copied query found destination (World.lookup_end_task hfound)
  · exact fun query path object_keys hfound =>
      h.removing query path object_keys (World.lookup_end_task hfound)
  · exact fun query path object_keys media hfound =>
      h.progress query path object_keys media (World.lookup_end_task hfound)
  · exact h.recorded
  · intro media hmedia hstatus
    obtain ⟨object_key, hkey, hstored⟩ := h.permanent media hmedia hstatus
    refine ⟨object_key, hkey, hstored.imp id ?_⟩
    rintro ⟨query, path, object_keys, hfound, hid⟩
    exact ⟨query, path, object_keys, hkept nofun hfound, hid⟩
  · intro object_key hmem
    refine (h.traced object_key hmem).imp id (Or.imp id ?_)
    rintro ⟨query, found_request, hfound, hid⟩
    exact ⟨query, found_request, hkept nofun hfound, hid⟩
  · exact h.deleted

theorem InStep.copy_bytes (h : InStep self world) {task : Nat} {request : SaveMedia}
    {source destination : String} (htask : world.tasks.lookup task = some (.copy request source destination))
    (stored : Bool) : InStep self (world.copy_bytes task request source destination stored) := by
  have hdestination : PermanentKey self request.path.media_id destination := h.keys.tasks task _ htask
  have hkeys := h.keys.copy_bytes task source hdestination stored
  unfold World.copy_bytes at hkeys ⊢
  split
  · next bytes hbytes =>
    rw [hbytes] at hkeys
    refine h.of_step request.path.media_id hkeys ?_ ((h.tracked request.path.media_id).copy_bytes htask hbytes) ?_
    · intro other object_key hmem
      rcases List.mem_cons.mp hmem with heq | hold
      · cases heq
        refine Or.inr ⟨rfl, hdestination.owns, fun owner howner => ?_⟩
        by_contra hne
        exact hdestination.ne (h.owned owner destination howner) (Ne.symm hne) rfl
      · exact Or.inl hold
    · intro other hne
      constructor
      · rfl
      · intro object_key hmem
        dsimp only
        rw [HashMap.lookup_insert_ite, if_neg]
        rintro rfl
        exact hdestination.ne (h.owned other object_key hmem) hne.symm rfl
      · exact World.set_task_other htask rfl rfl hne
      · intro object_key
        refine ⟨fun hmem => (List.mem_cons.mp hmem).resolve_left ?_, List.mem_cons_of_mem _⟩
        exact fun heq => hne (congrArg Prod.fst heq)
      · exact id
  · exact {
      keys := h.keys.end_task task
      owned := h.owned
      unique := h.unique
      tracked := fun media_id => (h.tracked media_id).end_copy htask }

/-- A save has written the record: what it copied is under the permanent key now. -/
theorem Tracked.record_saved {task : Nat} {stored : Bool} {request : SaveMedia} {object_key : String}
    {before : MediaObject} {change : MediaObject → MediaObject} {saved : List String}
    (h : Tracked world request.path.media_id)
    (htask : world.tasks.lookup task = some (.record request (some object_key)))
    (horderly : Orderly world (ctx, .resume task stored))
    (hlookup : world.inner.media.lookup request.path.media_id = some before)
    (hproject : (change before).project_id = before.project_id)
    (hcompany : (change before).company_id = before.company_id)
    (hobject : (change before).object_key = before.object_key)
    (hpermanent : (change before).permanent_object_key = some object_key) :
    Tracked { world.end_task task with
      inner := { world.inner with
        media := world.inner.media.insert request.path.media_id (change before) }
      saved
      deleted := world.deleted.filter fun media_id => media_id ≠ request.path.media_id }
      request.path.media_id := by
  have hnow : (world.inner.media.insert request.path.media_id (change before)).lookup request.path.media_id =
      some (change before) := by
    rw [HashMap.lookup_insert_ite, if_pos rfl]
  have hafter : ∀ {media : MediaObject},
      (world.inner.media.insert request.path.media_id (change before)).lookup request.path.media_id =
        some media → media = change before :=
    fun hmedia => Option.some.inj (hmedia.symm.trans hnow)
  obtain ⟨_, ⟨⟩, hwritten, hstored⟩ := h.copied task request _ htask rfl
  have hkeys : ∀ key, HasKey before key → HasKey (change before) key := by
    rintro key (hkey | hkey)
    · exact Or.inl (hobject.trans hkey)
    · rcases horderly.single task stored request _ before rfl htask hlookup key hkey with hsame | hsame
      · exact Or.inl (hobject.trans hsame)
      · exact Or.inr (hpermanent.trans hsame)
  constructor
  · exact fun _ _ => ⟨change before, hnow⟩
  · intro query found path hfound hpath hid
    obtain ⟨media, hmedia, hproject', hcompany'⟩ :=
      h.path query found path (World.lookup_end_task hfound) hpath hid
    obtain rfl : before = media := Option.some.inj (hlookup.symm.trans hmedia)
    exact ⟨change before, hnow, hproject.trans hproject', hcompany.trans hcompany'⟩
  · intro query found source destination media hfound hid hmedia
    obtain rfl := hafter hmedia
    rw [hobject]
    exact h.source query found source destination before (World.lookup_end_task hfound) hid hlookup
  · exact fun query found destination hfound => h.copied query found destination (World.lookup_end_task hfound)
  · exact fun query path object_keys hfound =>
      h.removing query path object_keys (World.lookup_end_task hfound)
  · intro query path object_keys media hfound hid hmedia
    obtain rfl := hafter hmedia
    have hold := World.lookup_end_task hfound
    have hawaited := horderly.awaited task stored request object_key rfl htask query path object_keys hold hid
    unfold Progress
    rw [hobject, hpermanent]
    rcases h.progress query path object_keys before hold hid hlookup with
      ⟨first, rest, hfirst, heq, hall⟩ | ⟨hgone, -⟩
    · refine Or.inl ⟨first, rest, hfirst, heq, ?_⟩
      rintro key (hkey | hkey)
      · exact hall key (Or.inl (hobject.symm.trans hkey))
      · rw [hpermanent] at hkey
        cases hkey
        exact hawaited
    · refine Or.inr ⟨hgone, ?_⟩
      rintro key ⟨⟩
      exact Or.inl hawaited
  · intro media key hmedia hkey
    obtain rfl := hafter hmedia
    rcases hkey with hkey | hkey
    · exact h.recorded before key hlookup (Or.inl (hobject.symm.trans hkey))
    · rw [hpermanent] at hkey
      cases hkey
      exact hwritten
  · intro media hmedia _
    obtain rfl := hafter hmedia
    exact ⟨object_key, hpermanent, Or.inl hstored⟩
  · intro key hmem
    rcases h.traced key hmem with hgone | hkey | ⟨query, found, hfound, hid⟩
    · exact Or.inl hgone
    · refine Or.inr (Or.inl fun media hmedia => ?_)
      rw [hafter hmedia]
      exact hkeys key (hkey before hlookup)
    · by_cases hsame : query = task
      · subst hsame
        rw [htask] at hfound
        cases hfound
        refine Or.inr (Or.inl fun media hmedia => ?_)
        rw [hafter hmedia]
        exact Or.inr hpermanent
      · refine Or.inr (Or.inr ⟨query, found, ?_, hid⟩)
        dsimp only [World.end_task]
        rw [HashMap.lookup_erase_ite, if_neg hsame]
        exact hfound
  · intro hmem
    exact absurd rfl (of_decide_eq_true (List.mem_filter.mp hmem).2)

theorem InStep.record_saved (h : InStep self world) {task : Nat} {stored : Bool} {request : SaveMedia}
    {destination : Option String} (htask : world.tasks.lookup task = some (.record request destination))
    (horderly : Orderly world (ctx, .resume task stored)) :
    InStep self (world.record_saved self ctx task request destination) := by
  have htracked := h.tracked request.path.media_id
  have hkeys := h.keys.record_saved ctx task (h.keys.tasks task _ htask)
  obtain ⟨before, hlookup, hfor⟩ := htracked.path task _ request.path htask rfl rfl
  obtain ⟨object_key, rfl, -⟩ := htracked.copied task request destination htask rfl
  obtain ⟨change, heq, hchange⟩ := save_media_spec self ctx world.inner request.entity_type
    request.entity_id (h.keys.plain _ before hlookup) (h.keys.tasks task _ htask)
  obtain ⟨-, hproject, hcompany, -, hobject, key, hpermanent, -, hgiven⟩ := hchange before
  obtain rfl : key = object_key := hgiven object_key rfl
  unfold World.record_saved at hkeys ⊢
  rw [media_for_company_ok_iff.mpr ⟨hlookup, hfor⟩, heq, update_media_of_lookup hlookup] at hkeys ⊢
  refine h.of_step request.path.media_id hkeys (fun _ _ hmem => Or.inl hmem)
    (htracked.record_saved htask horderly hlookup hproject hcompany hobject hpermanent) fun other hne => ?_
  constructor
  · dsimp only
    rw [HashMap.lookup_insert_ite, if_neg hne]
  · exact fun _ _ => rfl
  · exact World.end_task_other htask rfl hne
  · exact fun _ => Iff.rfl
  · exact fun hmem => (List.mem_filter.mp hmem).1

theorem lookup_erase_none {objects : HashMap String (List UInt8)} {object_key : String}
    (h : objects.lookup object_key = none) (erased : String) :
    (objects.erase erased).lookup object_key = none := by
  rw [HashMap.lookup_erase_ite]
  split
  · rfl
  · exact h

/-- A delete goes on: what it deletes stays deleted. -/
theorem Progress.erase {media : MediaObject} {object_keys : List String} (h : Progress world media object_keys)
    {object_key : String} (hobjects : world'.objects = world.objects.erase object_key) :
    Progress world' media object_keys := by
  unfold Progress
  rw [hobjects]
  refine h.imp id (And.imp ?_ ?_)
  · exact fun hgone key hkey => lookup_erase_none (hgone key hkey) object_key
  · exact fun hgone key hkey => (hgone key hkey).imp id fun hnone => lookup_erase_none hnone object_key

theorem Progress.next {media : MediaObject} {object_key : String} {rest : List String}
    (h : Progress world media (object_key :: rest))
    (hobjects : world'.objects = world.objects.erase object_key) : Progress world' media rest := by
  have hself : world'.objects.lookup object_key = none := by
    rw [hobjects, HashMap.lookup_erase_ite, if_pos rfl]
  have hnext : ∀ key, key ∈ object_key :: rest → key ∈ rest ∨ world'.objects.lookup key = none := by
    intro key hmem
    rcases List.mem_cons.mp hmem with rfl | hrest
    · exact Or.inr hself
    · exact Or.inl hrest
  rcases h with ⟨first, tail, hfirst, heq, hall⟩ | ⟨hgone, hpermanent⟩
  · cases heq
    refine Or.inr ⟨fun key hkey => ?_, fun key hkey => hnext key (hall key (Or.inr hkey))⟩
    rw [hfirst] at hkey
    cases hkey
    exact hself
  · refine Or.inr ⟨fun key hkey => ?_, fun key hkey => ?_⟩
    · rw [hobjects]
      exact lookup_erase_none (hgone key hkey) object_key
    · rcases hpermanent key hkey with hmem | hnone
      · exact hnext key hmem
      · rw [hobjects]
        exact Or.inr (lookup_erase_none hnone object_key)

/-- A delete has deleted the bytes under one more key. -/
theorem Tracked.delete_bytes {task : Nat} {path : ProjectCompanyMediaPath} {object_key : String}
    {rest : List String} (h : Tracked world path.media_id)
    (htask : world.tasks.lookup task = some (.delete path (object_key :: rest)))
    (hcopied : ¬ Copied world object_key) :
    Tracked { world.set_task task (.delete path rest) with
      objects := world.objects.erase object_key } path.media_id := by
  have hdeleting : (world.set_task task (.delete path rest)).tasks.lookup task = some (.delete path rest) := by
    dsimp only [World.set_task]
    rw [HashMap.lookup_insert_ite, if_pos rfl]
  have hrecords : ∀ {query : Nat} {request : SaveMedia} {destination : Option String},
      (world.set_task task (.delete path rest)).tasks.lookup query = some (.record request destination) ↔
        world.tasks.lookup query = some (.record request destination) := by
    intro query request destination
    refine ⟨fun hfound => (World.lookup_set_task hfound).resolve_right nofun, World.lookup_set_task_kept ?_⟩
    rw [htask]
    nofun
  constructor
  · exact h.known
  · intro query found found_path hfound hpath hid
    rcases World.lookup_set_task hfound with hold | rfl
    · exact h.path query found found_path hold hpath hid
    · cases hpath
      exact h.path task _ path htask rfl rfl
  · exact fun query request source destination media hfound =>
      h.source query request source destination media ((World.lookup_set_task hfound).resolve_right nofun)
  · intro query request destination hfound hid
    have hold := hrecords.mp hfound
    obtain ⟨key, rfl, hmem, hstored⟩ := h.copied query request destination hold hid
    refine ⟨key, rfl, hmem, (isSome_lookup_erase hstored object_key).resolve_right ?_⟩
    rintro rfl
    exact hcopied ⟨query, request, hold⟩
  · intro query found_path object_keys hfound hid key hmem
    rcases World.lookup_set_task hfound with hold | heq
    · exact h.removing query found_path object_keys hold hid key hmem
    · cases heq
      exact h.removing task path _ htask rfl key (List.mem_cons_of_mem _ hmem)
  · intro query found_path object_keys media hfound hid hmedia
    rcases World.lookup_set_task hfound with hold | heq
    · exact (h.progress query found_path object_keys media hold hid hmedia).erase rfl
    · cases heq
      exact (h.progress task path _ media htask rfl hmedia).next rfl
  · exact h.recorded
  · intro media hmedia hstatus
    obtain ⟨key, hkey, -⟩ := h.permanent media hmedia hstatus
    exact ⟨key, hkey, Or.inr ⟨task, path, rest, hdeleting, rfl⟩⟩
  · intro key hmem
    refine (h.traced key hmem).imp (fun hgone => lookup_erase_none hgone object_key) (Or.imp id ?_)
    rintro ⟨query, request, hfound, hid⟩
    exact ⟨query, request, hrecords.mpr hfound, hid⟩
  · intro hmem
    obtain ⟨media, hmedia, hstatus, hgone⟩ := h.deleted hmem
    exact ⟨media, hmedia, hstatus, fun key hkey => lookup_erase_none (hgone key hkey) object_key⟩

/-- A delete is done: nothing is left of the medium but its record. -/
theorem Tracked.end_delete {task : Nat} {path : ProjectCompanyMediaPath} {before : MediaObject}
    {change : MediaObject → MediaObject} (h : Tracked world path.media_id)
    (htask : world.tasks.lookup task = some (.delete path []))
    (hlookup : world.inner.media.lookup path.media_id = some before)
    (hproject : (change before).project_id = before.project_id)
    (hcompany : (change before).company_id = before.company_id)
    (hstatus : (change before).storage_status = "deleted")
    (hobject : (change before).object_key = before.object_key)
    (hpermanent : (change before).permanent_object_key = before.permanent_object_key) :
    Tracked { world.end_task task with
      inner := { world.inner with media := world.inner.media.insert path.media_id (change before) }
      deleted := path.media_id :: world.deleted } path.media_id := by
  have hnow : (world.inner.media.insert path.media_id (change before)).lookup path.media_id =
      some (change before) := by
    rw [HashMap.lookup_insert_ite, if_pos rfl]
  have hafter : ∀ {media : MediaObject},
      (world.inner.media.insert path.media_id (change before)).lookup path.media_id = some media →
        media = change before :=
    fun hmedia => Option.some.inj (hmedia.symm.trans hnow)
  have hkeys : ∀ key, HasKey (change before) key ↔ HasKey before key := by
    intro key
    unfold HasKey
    rw [hobject, hpermanent]
  constructor
  · exact fun _ _ => ⟨change before, hnow⟩
  · intro query found found_path hfound hpath hid
    obtain ⟨media, hmedia, hproject', hcompany'⟩ :=
      h.path query found found_path (World.lookup_end_task hfound) hpath hid
    obtain rfl : before = media := Option.some.inj (hlookup.symm.trans hmedia)
    exact ⟨change before, hnow, hproject.trans hproject', hcompany.trans hcompany'⟩
  · intro query found source destination media hfound hid hmedia
    obtain rfl := hafter hmedia
    rw [hobject]
    exact h.source query found source destination before (World.lookup_end_task hfound) hid hlookup
  · exact fun query found destination hfound => h.copied query found destination (World.lookup_end_task hfound)
  · exact fun query found_path object_keys hfound =>
      h.removing query found_path object_keys (World.lookup_end_task hfound)
  · intro query found_path object_keys media hfound hid hmedia
    obtain rfl := hafter hmedia
    unfold Progress
    simp only [hkeys, hobject, hpermanent]
    exact h.progress query found_path object_keys before (World.lookup_end_task hfound) hid hlookup
  · intro media key hmedia hkey
    obtain rfl := hafter hmedia
    exact h.recorded before key hlookup ((hkeys key).mp hkey)
  · intro media hmedia hsaved
    obtain rfl := hafter hmedia
    rw [hstatus] at hsaved
    exact absurd hsaved (by decide)
  · intro key hmem
    refine (h.traced key hmem).imp id (Or.imp ?_ ?_)
    · intro hkey media hmedia
      rw [hafter hmedia]
      exact (hkeys key).mpr (hkey before hlookup)
    · rintro ⟨query, request, hfound, hid⟩
      refine ⟨query, request, World.lookup_end_task_kept ?_ hfound, hid⟩
      rw [htask]
      nofun
  · intro _
    refine ⟨change before, hnow, hstatus, fun key hkey => ?_⟩
    rcases h.progress task path [] before htask rfl hlookup with ⟨_, _, _, heq, _⟩ | ⟨hgone, hpermanent'⟩
    · cases heq
    · rcases (hkeys key).mp hkey with hkey | hkey
      · exact hgone key hkey
      · exact (hpermanent' key hkey).resolve_left List.not_mem_nil

theorem InStep.delete_bytes (h : InStep self world) {task : Nat} {path : ProjectCompanyMediaPath}
    {object_keys : List String} (htask : world.tasks.lookup task = some (.delete path object_keys))
    (horderly : Orderly world (ctx, .resume task true)) :
    InStep self (world.delete_bytes ctx task path object_keys true) := by
  have htracked := h.tracked path.media_id
  have hkeys := h.keys.delete_bytes ctx task (h.keys.tasks task _ htask) true
  unfold World.delete_bytes at hkeys ⊢
  cases object_keys with
  | cons object_key rest =>
    have herases : world.erases (.resume task true) = some object_key := by
      dsimp only [World.erases]
      rw [htask]
    have hmem : (path.media_id, object_key) ∈ world.written :=
      htracked.removing task path _ htask rfl object_key List.mem_cons_self
    refine h.of_step path.media_id hkeys (fun _ _ hmem => Or.inl hmem)
      (htracked.delete_bytes htask (horderly.unrecorded object_key herases)) fun other hne => ?_
    constructor
    · rfl
    · intro key hkey
      change (world.objects.erase object_key).lookup key = world.objects.lookup key
      rw [HashMap.lookup_erase_ite, if_neg]
      rintro rfl
      exact hne (h.unique other path.media_id key hkey hmem)
    · exact World.set_task_other htask rfl rfl hne
    · exact fun _ => Iff.rfl
    · exact id
  | nil =>
    obtain ⟨before, hlookup, hfor⟩ := htracked.path task _ path htask rfl rfl
    rcases delete_media_spec ctx world.inner path with ⟨err, heq⟩ | ⟨media, change, hmedia, heq, hchange⟩
    · unfold delete_media_for_company at heq
      rw [media_for_company_ok_iff.mpr ⟨hlookup, hfor⟩, update_media_of_lookup hlookup] at heq
      cases heq
    · obtain ⟨-, hproject, hcompany, hstatus, hobject, hpermanent⟩ := hchange media
      rw [heq, update_media_of_lookup hmedia] at hkeys ⊢
      refine h.of_step path.media_id hkeys (fun _ _ hmem => Or.inl hmem)
        (htracked.end_delete htask hmedia hproject hcompany hstatus hobject hpermanent) fun other hne => ?_
      constructor
      · dsimp only
        rw [HashMap.lookup_insert_ite, if_neg hne]
      · exact fun _ _ => rfl
      · exact World.end_task_other htask rfl hne
      · exact fun _ => Iff.rfl
      · exact fun hmem => (List.mem_cons.mp hmem).resolve_left hne

/-- No job is in progress. -/
def Quiet (world : World) : Prop :=
  ∀ task state, world.tasks.lookup task = some state → state.path ≠ none

theorem Quiet.set_task (h : Quiet world) (task : Nat) {state : Task} (hstate : state.path ≠ none) :
    Quiet (world.set_task task state) := by
  intro query found hfound
  rcases World.lookup_set_task hfound with hold | rfl
  · exact h query found hold
  · exact hstate

theorem Quiet.end_task (h : Quiet world) (task : Nat) : Quiet (world.end_task task) :=
  fun query found hfound => h query found (World.lookup_end_task hfound)

theorem Quiet.next {label : Ctx × MediaOp} (h : Quiet world) (hnext : World.Handles self world label world') :
    Quiet world' := by
  obtain ⟨ctx, op⟩ := label
  obtain ⟨hhandled, -, rfl⟩ := hnext
  cases op with
  | store media bytes => exact h
  | other inner => exact h
  | save_media task request =>
    dsimp only [World.step]
    unfold World.save_media
    split
    · exact h
    · next before _ =>
      refine Quiet.set_task h task ?_
      cases before.object_key <;> exact Option.some_ne_none _
  | delete_media task path =>
    dsimp only [World.step]
    unfold World.delete_media
    split
    · exact h
    · exact Quiet.set_task h task (Option.some_ne_none _)
  | cleanup_expired_temp_media | apply_company_retention => exact hhandled.elim
  | resume task stored =>
    dsimp only [World.step]
    cases hlookup : world.tasks.lookup task with
    | none => exact h
    | some state =>
      cases state with
      | copy request source destination =>
        dsimp only
        unfold World.copy_bytes
        split
        · exact Quiet.set_task h task (Option.some_ne_none _)
        · exact h.end_task task
      | record request destination =>
        dsimp only
        unfold World.record_saved
        split <;> exact h.end_task task
      | delete path object_keys =>
        dsimp only
        unfold World.delete_bytes
        split
        · split
          · exact Quiet.set_task h task (Option.some_ne_none _)
          · exact h.end_task task
        · split <;> exact h.end_task task
      | job job todo deleted failed => exact absurd rfl (h task _ hlookup)

theorem InStep.next {label : Ctx × MediaOp} (h : InStep self world) (hquiet : Quiet world)
    (hnext : Guarded (World.Handles self) Orderly world label world') : InStep self world' := by
  obtain ⟨ctx, op⟩ := label
  obtain ⟨horderly, hhandled, hallowed, rfl⟩ := hnext
  cases op with
  | store media bytes => exact h.store hallowed
  | other inner => exact h.other hallowed
  | save_media task request => exact h.save_media hallowed horderly
  | delete_media task path => exact h.delete_media path hallowed
  | cleanup_expired_temp_media | apply_company_retention => exact hhandled.elim
  | resume task stored =>
    obtain rfl : stored = true := hhandled
    dsimp only [World.step]
    cases hlookup : world.tasks.lookup task with
    | none => exact h
    | some state =>
      cases state with
      | copy request source destination => exact h.copy_bytes hlookup true
      | record request destination => exact h.record_saved hlookup horderly
      | delete path object_keys => exact h.delete_bytes hlookup horderly
      | job job todo deleted failed => exact absurd rfl (hquiet task _ hlookup)

theorem InStep.empty : InStep self {} where
  keys := .empty
  owned := nofun
  unique := nofun
  tracked media_id := {
    known := nofun
    path := fun task state path htask => by
      rw [AList.lookup_empty] at htask
      cases htask
    source := fun task request source destination media htask => by
      rw [AList.lookup_empty] at htask
      cases htask
    copied := fun task request destination htask => by
      rw [AList.lookup_empty] at htask
      cases htask
    removing := fun task path object_keys htask => by
      rw [AList.lookup_empty] at htask
      cases htask
    progress := fun task path object_keys media htask => by
      rw [AList.lookup_empty] at htask
      cases htask
    recorded := fun media object_key hmedia => by
      rw [AList.lookup_empty] at hmedia
      cases hmedia
    permanent := fun media hmedia => by
      rw [AList.lookup_empty] at hmedia
      cases hmedia
    traced := nofun
    deleted := nofun }

theorem in_step_of_run {labels : List (Ctx × MediaOp)}
    (hrun : Run (Guarded (World.Handles self) Orderly) {} labels world) : InStep self world := by
  have hstep : ∀ s label t, Quiet s ∧ InStep self s → Guarded (World.Handles self) Orderly s label t →
      Quiet t ∧ InStep self t :=
    fun s label t h hnext => ⟨h.1.next hnext.2, h.2.next h.1 hnext⟩
  have hquiet : Quiet ({} : World) := by
    intro task state htask
    rw [AList.lookup_empty] at htask
    cases htask
  exact (hrun.invariant hstep ⟨hquiet, .empty⟩).2

end InStep

/-- What a reader of the records may believe when nothing is in progress: the bytes of the
permanent media are there, and of the deleted ones nothing is. -/
structure StatusMatches (world : World) : Prop where
  permanent : ∀ media_id media, world.inner.media.lookup media_id = some media →
    media.storage_status = "permanent" → ∃ object_key, media.permanent_object_key = some object_key ∧
      (world.objects.lookup object_key).isSome = true
  deleted : ∀ media_id ∈ world.deleted, (∀ object_key, (media_id, object_key) ∈ world.written →
      world.objects.lookup object_key = none) ∧
    ∀ media, world.inner.media.lookup media_id = some media → media.storage_status ≠ "permanent"

/-- In whatever order the saves and deletes go on, the records match the byte store in the
end, as long as they do not disturb each other. -/
theorem status_matches_bytes (self : AppState) (labels : List (Ctx × MediaOp)) (world : World)
    (hrun : Run (Guarded (World.Handles self) Orderly) {} labels world)
    (hidle : ∀ task, world.tasks.lookup task = none) : StatusMatches world := by
  have hinstep := in_step_of_run hrun
  constructor
  · intro media_id media hmedia hstatus
    obtain ⟨object_key, hkey, hstored | ⟨task, path, object_keys, htask, -⟩⟩ :=
      (hinstep.tracked media_id).permanent media hmedia hstatus
    · exact ⟨object_key, hkey, hstored⟩
    · rw [hidle task] at htask
      cases htask
  · intro media_id hmem
    obtain ⟨media, hmedia, hstatus, hgone⟩ := (hinstep.tracked media_id).deleted hmem
    refine ⟨fun object_key hwritten => ?_, fun found hfound => ?_⟩
    · rcases (hinstep.tracked media_id).traced object_key hwritten with hnone | hkey | ⟨task, request, htask, -⟩
      · exact hnone
      · exact hgone object_key (hkey media hmedia)
      · rw [hidle task] at htask
        cases htask
    · rw [hmedia] at hfound
      cases hfound
      rw [hstatus]
      decide

/-- While only saves are in progress, a save is in order if it has an object and finds no
permanent key. -/
theorem Orderly.of_saves {world : World} {ctx : Ctx} {op : MediaOp} (hundisturbed : Undisturbed world (ctx, op))
    (htasks : world.tasks.values.all Task.saves = true)
    (hsingle : ∀ media ∈ world.inner.media.values, media.permanent_object_key = none) :
    Orderly world (ctx, op) where
  backed := hundisturbed.backed
  unrecorded := hundisturbed.unrecorded
  single task stored request destination media _ _ hlookup object_key hkey := by
    rw [hsingle media (HashMap.mem_values_of_lookup hlookup)] at hkey
    cases hkey
  awaited task stored request destination _ _ other path object_keys hdelete := by
    have hsaves := List.all_eq_true.mp htasks _ (HashMap.mem_values_of_lookup hdelete)
    cases hsaves

/-- While only deletes are in progress, whatever is no save is in order. -/
theorem Orderly.of_deletes {world : World} {ctx : Ctx} {op : MediaOp} {media_id : String}
    (hop : ∀ task request, op ≠ .save_media task request)
    (htasks : world.tasks.values.all (Task.deletes media_id) = true) : Orderly world (ctx, op) := by
  have hnone : ∀ task request destination,
      world.tasks.lookup task ≠ some (.record request destination) := by
    intro task request destination hlookup
    have hdeletes := List.all_eq_true.mp htasks _ (HashMap.mem_values_of_lookup hlookup)
    cases hdeletes
  exact {
    backed := fun task request _ heq => absurd heq (hop task request)
    unrecorded := fun object_key _ ⟨task, request, hcopied⟩ => hnone task request (some object_key) hcopied
    single := fun task _ request destination _ _ hrecord => absurd hrecord (hnone task request destination)
    awaited := fun task _ request destination _ hrecord =>
      absurd hrecord (hnone task request (some destination)) }

namespace sample

open rustzap.state.sample

def deletes (task : Nat) : List (Ctx × MediaOp) :=
  [(ctx 5 "e", .delete_media task { project_id := "acme", company_id := "company_a", media_id := "media_1" }),
    (ctx 6 "f", .resume task true), (ctx 7 "g", .resume task true), (ctx 8 "h", .resume task true)]

/-- The picture is saved for an order and for an invoice, and then deleted. -/
def saved_twice : List (Ctx × MediaOp) :=
  stored :: (saves 0 "order" ++ saves 0 "invoice" ++ deletes 0)

theorem picture_stored : ∀ before, media_for_company (world_after [stored]).inner "acme" "company_a" "media_1" =
    .ok before → before.object_key ≠ none := by
  intro before hbefore
  have hobject : ∀ media ∈ (world_after [stored]).inner.media.values, media.object_key ≠ none := by decide
  exact hobject before (HashMap.mem_values_of_lookup (media_for_company_eq_ok hbefore))

theorem picture_saved : Run (Guarded (World.Handles service) Orderly) {} (stored :: saves 0 "order")
    (world_after (stored :: saves 0 "order")) := by
  have hsaving : ∀ n < 3, (world_after (stored :: (saves 0 "order").take n)).tasks.values.all Task.saves =
      true := by decide
  have hsingle : ∀ n < 3, ∀ media ∈ (world_after (stored :: (saves 0 "order").take n)).inner.media.values,
      media.permanent_object_key = none := by decide
  have hnew : (world_after [stored]).tasks.lookup 0 = none := by decide
  have hstored : Undisturbed {} stored := .of_saves (fun _ _ _ heq _ => nomatch heq) (by decide) nofun
  have hsaved : Undisturbed (world_after [stored]) (ctx 2 "b", .save_media 0 (save_picture "order")) := by
    refine .of_saves ?_ (hsaving 0 (by decide)) nofun
    rintro task request before ⟨⟩ hbefore
    exact picture_stored before hbefore
  have hcopying := hsaving 1 (by decide)
  have hrecording := hsaving 2 (by decide)
  exact .cons ⟨.of_saves hstored (by decide) (by decide), trivial, storable, rfl⟩ <|
    .cons ⟨.of_saves hsaved (hsaving 0 (by decide)) (hsingle 0 (by decide)), trivial, hnew, rfl⟩ <|
    .cons ⟨.of_saves (.of_saves (fun _ _ _ heq _ => nomatch heq) hcopying nofun) hcopying
      (hsingle 1 (by decide)), rfl, trivial, rfl⟩ <|
    .cons ⟨.of_saves (.of_saves (fun _ _ _ heq _ => nomatch heq) hrecording nofun) hrecording
      (hsingle 2 (by decide)), rfl, trivial, rfl⟩ <| .nil _

theorem picture_deleted : Run (Guarded (World.Handles service) Orderly) (world_after (stored :: saves 0 "order"))
    (deletes 0) (world_after ((stored :: saves 0 "order") ++ deletes 0)) := by
  have hdeleting : ∀ n < 4, (world_after ((stored :: saves 0 "order") ++ (deletes 0).take n)).tasks.values.all
      (Task.deletes "media_1") = true := by decide
  have hidle : (world_after (stored :: saves 0 "order")).tasks.lookup 0 = none := by decide
  exact .cons ⟨.of_deletes nofun (hdeleting 0 (by decide)), trivial, hidle, rfl⟩ <|
    .cons ⟨.of_deletes nofun (hdeleting 1 (by decide)), rfl, trivial, rfl⟩ <|
    .cons ⟨.of_deletes nofun (hdeleting 2 (by decide)), rfl, trivial, rfl⟩ <|
    .cons ⟨.of_deletes nofun (hdeleting 3 (by decide)), rfl, trivial, rfl⟩ <| .nil _

end sample

/-- A picture that is saved once and then deleted leaves no bytes. -/
theorem picture_matches_bytes :
    StatusMatches (sample.world_after ((sample.stored :: sample.saves 0 "order") ++ sample.deletes 0)) ∧
      (sample.world_after ((sample.stored :: sample.saves 0 "order") ++ sample.deletes 0)).deleted =
        ["media_1"] := by
  have hidle : (sample.world_after ((sample.stored :: sample.saves 0 "order") ++ sample.deletes 0)).tasks.keys =
      [] := by decide
  refine ⟨status_matches_bytes sample.service _ _ (sample.picture_saved.append sample.picture_deleted)
    fun task => ?_, by decide⟩
  rw [← Option.not_isSome_iff_eq_none, AList.lookup_isSome, AList.mem_keys, hidle]
  exact List.not_mem_nil

/-- A delete leaves the copy that was made for the order. -/
theorem first_copy_stays :
    ¬ ∀ (labels : List (Ctx × MediaOp)) (world : World),
      Run (World.Handles sample.service) {} labels world →
      (∀ task, world.tasks.lookup task = none) → StatusMatches world := by
  intro hclaim
  have hnew : (sample.world_after [sample.stored]).tasks.lookup 0 = none := by decide
  have hagain : (sample.world_after (sample.stored :: sample.saves 0 "order")).tasks.lookup 0 = none := by
    decide
  have hsaved : (sample.world_after (sample.stored ::
      (sample.saves 0 "order" ++ sample.saves 0 "invoice"))).tasks.lookup 0 = none := by decide
  have hidle : (sample.world_after sample.saved_twice).tasks.keys = [] := by decide
  have hrun : Run (World.Handles sample.service) {} sample.saved_twice
      (sample.world_after sample.saved_twice) :=
    .cons ⟨trivial, sample.storable, rfl⟩ <| .cons ⟨trivial, hnew, rfl⟩ <| .cons ⟨rfl, trivial, rfl⟩ <|
      .cons ⟨rfl, trivial, rfl⟩ <| .cons ⟨trivial, hagain, rfl⟩ <| .cons ⟨rfl, trivial, rfl⟩ <|
      .cons ⟨rfl, trivial, rfl⟩ <| .cons ⟨trivial, hsaved, rfl⟩ <| .cons ⟨rfl, trivial, rfl⟩ <|
      .cons ⟨rfl, trivial, rfl⟩ <| .cons ⟨rfl, trivial, rfl⟩ <| .nil _
  have hmatches := hclaim _ _ hrun fun task => by
    rw [← Option.not_isSome_iff_eq_none, AList.lookup_isSome, AList.mem_keys, hidle]
    exact List.not_mem_nil
  have hleft : ∃ entry ∈ (sample.world_after sample.saved_twice).written, entry.1 = "media_1" ∧
      ((sample.world_after sample.saved_twice).objects.lookup entry.2).isSome = true := by decide
  obtain ⟨⟨media_id, object_key⟩, hwritten, rfl, hstored⟩ := hleft
  rw [(hmatches.deleted "media_1" (by decide)).1 object_key hwritten] at hstored
  cases hstored

end rustzap.routes
