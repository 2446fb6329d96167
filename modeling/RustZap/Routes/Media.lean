import RustZap.Retention.Sections

open collections serde_json runs
open rustzap.error rustzap.media rustzap.models rustzap.state

namespace rustzap.routes

structure ProjectCompanyMediaPath where
  project_id : String
  company_id : String
  media_id : String
  deriving DecidableEq

/-- A request to save a medium for an entity, once it is authorized. -/
structure SaveMedia where
  path : ProjectCompanyMediaPath
  entity_type : String
  entity_id : String
  deriving DecidableEq

def SaveMedia.of_body (path : ProjectCompanyMediaPath) (body : Value) : SaveMedia where
  path
  entity_type := ((body.get "entity_type").bind Value.as_str).getD "unknown"
  entity_id := ((body.get "entity_id").bind Value.as_str).getD "unknown"

/-- Where a save puts the bytes of the medium that it has read. -/
def SaveMedia.destination (request : SaveMedia) (self : AppState) (ctx : Ctx) (before : MediaObject) :
    String :=
  r2_object_key self.host
    { base_prefix := self.config.r2.base_prefix, storage_class := "permanent",
      project_id := before.project_id, company_id := before.company_id, channel_id := "channel_dev",
      conversation_id := some before.conversation_id, entity_type := some request.entity_type,
      entity_id := some request.entity_id, date := self.host.format_date ctx.now,
      media_id := request.path.media_id, ext := "bin" }

/-- The bytes of a medium that a job deletes, key by key. -/
structure Deletion where
  media : MediaObject
  object_keys : List String
  ok : Bool
  deriving DecidableEq

/-- The keys that `delete_media_object_bytes_best_effort` goes through. -/
def Deletion.of_media (media : MediaObject) : Deletion where
  media
  object_keys := media.object_key.toList ++
    (media.permanent_object_key.filter fun object_key => media.object_key ≠ some object_key).toList
  ok := true

inductive Job where
  | cleanup_expired_temp_media
  | apply_company_retention (message_ids : List String)
  deriving DecidableEq

/-- What a request or a job holds between two of its sections: a save before it copies and
before it writes the record, a delete with the keys that are left, a job with the media
that it has selected. -/
inductive Task where
  | copy (request : SaveMedia) (source destination : String)
  | record (request : SaveMedia) (destination : Option String)
  | delete (path : ProjectCompanyMediaPath) (object_keys : List String)
  | job (job : Job) (todo : List Deletion) (deleted failed : List MediaObject)
  deriving DecidableEq

/-- Whether the task is a delete of the medium. -/
def Task.deletes (media_id : String) : Task → Bool
  | .delete path _ => path.media_id = media_id
  | _ => false

/-- Whether the task is a job that has selected the medium and may still remove it. -/
def Task.holds (media_id : String) : Task → Bool
  | .job _ todo deleted _ => (todo.map Deletion.media ++ deleted).any fun media => media.id = media_id
  | _ => false

/-- The service with its byte store and what is in progress. The last three fields record
history: the media whose save has been answered with success and whose deletion nobody has
requested since, the media that have been deleted and not saved or requested to be saved
since, and the objects that were written for each medium. Only these fields are computed
from them. -/
structure World where
  inner : StoreInner := {}
  objects : HashMap String (List UInt8) := ∅
  tasks : HashMap Nat Task := ∅
  saved : List String := []
  deleted : List String := []
  written : List (String × String) := []

/-- What happens to media: one is stored with its bytes, a request comes in, a job selects
its media, a task goes on, or something else happens to the store. -/
inductive MediaOp where
  | store (media : MediaObject) (bytes : List UInt8)
  | other (inner : StoreInner)
  | save_media (task : Nat) (request : SaveMedia)
  | delete_media (task : Nat) (path : ProjectCompanyMediaPath)
  | cleanup_expired_temp_media (task : Nat)
  | apply_company_retention (task : Nat) (project_id company_id : String) (policy : CompanyPrivacyPolicy)
  | resume (task : Nat) (stored : Bool)

def expired_temp_media (now : OffsetDateTime) (inner : StoreInner) : List MediaObject :=
  inner.media.values.filter fun media =>
    is_temp_status media.storage_status && media.expires_at.any fun expires_at => expires_at ≤ now

namespace World

def set_task (world : World) (task : Nat) (state : Task) : World :=
  { world with tasks := world.tasks.insert task state }

def end_task (world : World) (task : Nat) : World :=
  { world with tasks := world.tasks.erase task }

/-- The first section of a save reads the record. -/
def save_media (self : AppState) (ctx : Ctx) (world : World) (task : Nat) (request : SaveMedia) : World :=
  match media_for_company world.inner request.path.project_id request.path.company_id
      request.path.media_id with
  | .error _ => world
  | .ok before =>
    let state := match before.object_key with
      | some source => .copy request source (request.destination self ctx before)
      | none => .record request none
    { world.set_task task state with
      deleted := world.deleted.filter fun media_id => media_id ≠ request.path.media_id }

def delete_media (world : World) (task : Nat) (path : ProjectCompanyMediaPath) : World :=
  match media_for_company world.inner path.project_id path.company_id path.media_id with
  | .error _ => world
  | .ok before =>
    { world.set_task task (.delete path (before.object_key.toList ++ before.permanent_object_key.toList)) with
      saved := world.saved.filter fun media_id => media_id ≠ path.media_id }

/-- The copy of a save, which fails when the byte store does and when there is nothing to
copy. -/
def copy_bytes (world : World) (task : Nat) (request : SaveMedia) (source destination : String)
    (stored : Bool) : World :=
  match world.objects.lookup source, stored with
  | some bytes, true =>
    { world.set_task task (.record request (some destination)) with
      objects := world.objects.insert destination bytes
      written := (request.path.media_id, destination) :: world.written }
  | _, _ => world.end_task task

/-- The last section of a save writes the record. -/
def record_saved (self : AppState) (ctx : Ctx) (world : World) (task : Nat) (request : SaveMedia)
    (destination : Option String) : World :=
  match media_for_company world.inner request.path.project_id request.path.company_id
      request.path.media_id with
  | .error _ => world.end_task task
  | .ok _ =>
    { world.end_task task with
      inner := (save_media_with_permanent_object_key self ctx world.inner request.path.media_id
        request.entity_type request.entity_id destination).2
      saved := if world.tasks.values.any (Task.deletes request.path.media_id) then world.saved
        else request.path.media_id :: world.saved
      deleted := world.deleted.filter fun media_id => media_id ≠ request.path.media_id }

/-- A delete goes on with the next key, and stops when the byte store fails. -/
def delete_bytes (ctx : Ctx) (world : World) (task : Nat) (path : ProjectCompanyMediaPath)
    (object_keys : List String) (stored : Bool) : World :=
  match object_keys with
  | object_key :: rest =>
    if stored then
      { world.set_task task (.delete path rest) with objects := world.objects.erase object_key }
    else world.end_task task
  | [] =>
    match delete_media_for_company ctx world.inner path.project_id path.company_id path.media_id with
    | (.error _, _) => world.end_task task
    | (.ok _, inner) => { world.end_task task with inner, deleted := path.media_id :: world.deleted }

/-- What a job removes at its end. -/
def remove_deleted (inner : StoreInner) (job : Job) (deleted failed : List MediaObject) : StoreInner :=
  match job with
  | .cleanup_expired_temp_media =>
    { inner with media := (deleted.map MediaObject.id).foldl (fun media media_id =>
        media.erase media_id) inner.media }
  | .apply_company_retention message_ids =>
    let failed_ids := failed.filterMap MediaObject.message_id
    remove_expired inner (message_ids.filter fun message_id => !failed_ids.contains message_id)
      ((deleted.filter fun media => !media.message_id.any failed_ids.contains).map MediaObject.id)

def resume_job (world : World) (task : Nat) (job : Job) (todo : List Deletion)
    (deleted failed : List MediaObject) (stored : Bool) : World :=
  match todo with
  | [] => { world.end_task task with inner := remove_deleted world.inner job deleted failed }
  | deletion :: todo =>
    match deletion.object_keys with
    | object_key :: rest =>
      { world.set_task task (.job job ({ deletion with object_keys := rest, ok := deletion.ok && stored } ::
          todo) deleted failed) with
        objects := if stored then world.objects.erase object_key else world.objects }
    | [] =>
      if deletion.ok then world.set_task task (.job job todo (deleted ++ [deletion.media]) failed)
      else world.set_task task (.job job todo deleted (failed ++ [deletion.media]))

def step (self : AppState) (ctx : Ctx) (world : World) : MediaOp → World
  | .store media bytes =>
    { world with
      inner := { world.inner with media := world.inner.media.insert media.id media }
      objects := match media.object_key with
        | some object_key => world.objects.insert object_key bytes
        | none => world.objects
      written := media.object_key.toList.map (fun object_key => (media.id, object_key)) ++ world.written }
  | .other inner => { world with inner }
  | .save_media task request => world.save_media self ctx task request
  | .delete_media task path => world.delete_media task path
  | .cleanup_expired_temp_media task =>
    world.set_task task (.job .cleanup_expired_temp_media
      ((expired_temp_media ctx.now world.inner).map .of_media) [] [])
  | .apply_company_retention task project_id company_id policy =>
    world.set_task task (.job
      (.apply_company_retention (policy.candidate_message_ids ctx.now world.inner project_id company_id))
      ((policy.candidate_media ctx.now world.inner project_id company_id).map .of_media) [] [])
  | .resume task stored =>
    match world.tasks.lookup task with
    | none => world
    | some (.copy request source destination) => world.copy_bytes task request source destination stored
    | some (.record request destination) => world.record_saved self ctx task request destination
    | some (.delete path object_keys) => world.delete_bytes ctx task path object_keys stored
    | some (.job job todo deleted failed) => world.resume_job task job todo deleted failed stored

/-- The key whose bytes a step deletes. -/
def erases (world : World) : MediaOp → Option String
  | .resume task true =>
    match world.tasks.lookup task with
    | some (.delete _ (object_key :: _)) => some object_key
    | some (.job _ ({ object_keys := object_key :: _, .. } :: _) _ _) => some object_key
    | _ => none
  | _ => none

end World

/-- A save has copied to the key and not written its record. -/
def Copied (world : World) (object_key : String) : Prop :=
  ∃ task request, world.tasks.lookup task = some (.record request (some object_key))

/-- The text that a key gives for the media id, between its last `=` and the dot. -/
def key_media_id (object_key : String) : List Char :=
  (object_key.toList.rtakeWhile (· ≠ '=')).takeWhile (· ≠ '.')

def permanent_root (self : AppState) : String :=
  self.config.r2.base_prefix ++ "/permanent/"

/-- The keys of permanent objects name their medium. -/
def PermanentKey (self : AppState) (media_id object_key : String) : Prop :=
  str.starts_with object_key (permanent_root self) = true ∧ key_media_id object_key = media_id.toList

def Owns (self : AppState) (media_id object_key : String) : Prop :=
  str.starts_with object_key (permanent_root self) = true → key_media_id object_key = media_id.toList

/-- Media ids are made of a prefix and hexadecimal digits. Of that only this is used. -/
def PlainId (media_id : String) : Prop :=
  '=' ∉ media_id.toList ∧ '.' ∉ media_id.toList

/-- How a medium comes into the store: under a new id and a key of its own, in a
permanent object if it is the picture of a profile, and without any object if it has been
rejected. -/
structure Storable (service : AppState) (world : World) (media : MediaObject) : Prop where
  new : world.inner.media.lookup media.id = none
  plain : PlainId media.id
  unused : ∀ object_key, media.object_key = some object_key →
    Owns service media.id object_key ∧ world.objects.lookup object_key = none ∧
      ∀ media_id, (media_id, object_key) ∉ world.written
  permanent : media.permanent_object_key = none ∧ media.storage_status ≠ "permanent" ∨
    media.permanent_object_key = media.object_key ∧ media.object_key.isSome

/-- What the sections above read of a medium. -/
def storage (media : MediaObject) : (String × String × String) × String × Option String × Option String :=
  ((media.id, media.project_id, media.company_id), media.storage_status, media.object_key,
    media.permanent_object_key)

/-- Whatever else happens to the store, the media stay where they are stored. -/
def SameStorage (inner inner' : StoreInner) : Prop :=
  ∀ media_id, (inner'.media.lookup media_id).map storage = (inner.media.lookup media_id).map storage

def MediaOp.Allowed (self : AppState) (world : World) : MediaOp → Prop
  | .store media _ => Storable self world media
  | .other inner => SameStorage world.inner inner
  | .save_media task _ => world.tasks.lookup task = none
  | .delete_media task _ => world.tasks.lookup task = none
  | .cleanup_expired_temp_media task => world.tasks.lookup task = none
  | .apply_company_retention task _ _ _ => world.tasks.lookup task = none
  | .resume _ _ => True

/-- The steps of the service and its byte store, in any interleaving. -/
def World.Next (self : AppState) (world : World) (label : Ctx × MediaOp) (world' : World) : Prop :=
  label.2.Allowed self world ∧ world' = world.step self label.1 label.2

section Keys

variable {self : AppState} {media_id media_id' object_key object_key' : String}

theorem key_media_id_of_suffix (front rest : List Char) (hplain : PlainId media_id) (hrest : '=' ∉ rest)
    (hkey : object_key.toList = front ++ '=' :: (media_id.toList ++ '.' :: rest)) :
    key_media_id object_key = media_id.toList := by
  have hlast : object_key.toList.rtakeWhile (· ≠ '=') = media_id.toList ++ '.' :: rest := by
    have htail : ∀ c ∈ (media_id.toList ++ '.' :: rest).reverse, decide (c ≠ '=') = true := by
      intro c hmem
      rw [decide_eq_true_eq]
      rintro rfl
      simp only [List.mem_reverse, List.mem_append, List.mem_cons] at hmem
      rcases hmem with hid | hdot | hext
      · exact hplain.1 hid
      · exact absurd hdot (by decide)
      · exact hrest hext
    rw [hkey, List.rtakeWhile, List.reverse_append, List.reverse_cons, List.append_assoc,
      List.takeWhile_append_of_pos htail]
    simp
  have hid : ∀ c ∈ media_id.toList, decide (c ≠ '.') = true := by
    intro c hmem
    rw [decide_eq_true_eq]
    rintro rfl
    exact hplain.2 hmem
  rw [key_media_id, hlast, List.takeWhile_append_of_pos hid]
  simp

theorem permanent_key {project_id company_id entity entity_id_hash date : String}
    (hplain : PlainId media_id) :
    PermanentKey self media_id (self.config.r2.base_prefix ++ "/permanent/project=" ++ project_id ++
      "/company=" ++ company_id ++ "/entity=" ++ entity ++ "/entity_id_hash=" ++ entity_id_hash ++ "/date=" ++
      date ++ "/media=" ++ media_id ++ "." ++ "bin") := by
  constructor
  · have hroot : "/permanent/project=".toList = "/permanent/".toList ++ "project=".toList := by decide
    rw [str.starts_with, List.isPrefixOf_iff_prefix]
    simp only [permanent_root, String.toList_append, List.append_assoc, hroot]
    exact List.prefix_append_right_inj _ |>.mpr (List.prefix_append _ _)
  · refine key_media_id_of_suffix (self.config.r2.base_prefix ++ "/permanent/project=" ++ project_id ++
      "/company=" ++ company_id ++ "/entity=" ++ entity ++ "/entity_id_hash=" ++ entity_id_hash ++ "/date=" ++
      date ++ "/media").toList "bin".toList hplain (by decide) ?_
    have hmedia : "/media=".toList = "/media".toList ++ ['='] := by decide
    have hdot : ".".toList = ['.'] := by decide
    simp only [String.toList_append, List.append_assoc, hmedia, hdot, List.cons_append, List.nil_append]

theorem permanent_object_key_owned {input : R2ObjectKeyInput} (hclass : input.storage_class = "permanent")
    (hbase : input.base_prefix = self.config.r2.base_prefix) (hext : input.ext = "bin")
    (hplain : PlainId input.media_id) :
    PermanentKey self input.media_id (r2_object_key self.host input) := by
  have htrim : str.trim_start_matches "bin" '.' = "bin" := by decide
  rw [r2_object_key, if_pos hclass, hbase, hext, htrim]
  exact permanent_key hplain

theorem SaveMedia.destination_permanent {request : SaveMedia} {ctx : Ctx} {before : MediaObject}
    (hplain : PlainId request.path.media_id) :
    PermanentKey self request.path.media_id (request.destination self ctx before) :=
  permanent_object_key_owned rfl rfl rfl hplain

theorem PermanentKey.owns (h : PermanentKey self media_id object_key) : Owns self media_id object_key :=
  fun _ => h.2

/-- What one medium has is no permanent object of another. -/
theorem PermanentKey.ne (h : PermanentKey self media_id object_key) (howns : Owns self media_id' object_key')
    (hne : media_id ≠ media_id') : object_key ≠ object_key' := by
  rintro rfl
  exact hne (String.toList_inj.mp (h.2.symm.trans (howns h.1)))

end Keys

/-- The keys that a task deletes or writes belong to the medium that it is about. -/
def TaskKeys (self : AppState) : Task → Prop
  | .copy request _ destination => PermanentKey self request.path.media_id destination
  | .record request destination => ∀ object_key, destination = some object_key →
      PermanentKey self request.path.media_id object_key
  | .delete path object_keys => ∀ object_key ∈ object_keys, Owns self path.media_id object_key
  | .job _ todo _ _ => ∀ deletion ∈ todo, ∀ object_key ∈ deletion.object_keys,
      Owns self deletion.media.id object_key

/-- Every key in the store and in the tasks belongs to one medium. -/
structure KeysOwned (service : AppState) (world : World) : Prop where
  keyed : MediaKeyed world.inner
  plain : ∀ media_id media, world.inner.media.lookup media_id = some media → PlainId media_id
  media : ∀ media_id media object_key, world.inner.media.lookup media_id = some media →
    media.object_key = some object_key ∨ media.permanent_object_key = some object_key →
    Owns service media_id object_key
  tasks : ∀ task state, world.tasks.lookup task = some state → TaskKeys service state

section KeysOwned

variable {self : AppState} {ctx : Ctx} {world : World}

theorem media_for_company_eq_ok {inner : StoreInner} {project_id company_id media_id : String}
    {media : MediaObject} (h : media_for_company inner project_id company_id media_id = .ok media) :
    inner.media.lookup media_id = some media := by
  unfold media_for_company at h
  split at h
  · next found hfound =>
    cases h
    exact (Option.filter_eq_some_iff.mp hfound).1
  · cases h

theorem SameStorage.lookup {inner inner' : StoreInner} (h : SameStorage inner inner') {media_id : String}
    {media : MediaObject} (hmedia : inner.media.lookup media_id = some media) :
    ∃ media', inner'.media.lookup media_id = some media' ∧ storage media' = storage media := by
  have hsame := h media_id
  rw [hmedia, Option.map_some, Option.map_eq_some_iff] at hsame
  exact hsame

theorem SameStorage.symm {inner inner' : StoreInner} (h : SameStorage inner inner') :
    SameStorage inner' inner :=
  fun media_id => (h media_id).symm

theorem storage_eq_iff {media media' : MediaObject} :
    storage media' = storage media ↔ media'.id = media.id ∧ media'.project_id = media.project_id ∧
      media'.company_id = media.company_id ∧ media'.storage_status = media.storage_status ∧
      media'.object_key = media.object_key ∧ media'.permanent_object_key = media.permanent_object_key := by
  simp only [storage, Prod.mk.injEq, and_assoc]

theorem World.lookup_set_task {task query : Nat} {state found : Task}
    (h : (world.set_task task state).tasks.lookup query = some found) :
    world.tasks.lookup query = some found ∨ found = state := by
  unfold World.set_task at h
  rw [HashMap.lookup_insert_ite] at h
  split at h
  · exact Or.inr (Option.some.inj h).symm
  · exact Or.inl h

theorem World.lookup_end_task {task query : Nat} {found : Task}
    (h : (world.end_task task).tasks.lookup query = some found) : world.tasks.lookup query = some found := by
  unfold World.end_task at h
  rw [HashMap.lookup_erase_ite] at h
  split at h
  · cases h
  · exact h

theorem isSome_lookup_insert {objects : HashMap String (List UInt8)} {object_key : String}
    (h : (objects.lookup object_key).isSome = true) (written : String) (bytes : List UInt8) :
    ((objects.insert written bytes).lookup object_key).isSome = true := by
  rw [HashMap.lookup_insert_ite]
  split
  · rfl
  · exact h

theorem isSome_lookup_erase {objects : HashMap String (List UInt8)} {object_key : String}
    (h : (objects.lookup object_key).isSome = true) (erased : String) :
    ((objects.erase erased).lookup object_key).isSome = true ∨ object_key = erased := by
  rw [HashMap.lookup_erase_ite]
  split
  · next heq => exact Or.inr heq
  · exact Or.inl h

/-- What a job deletes of a medium are keys of the medium. -/
theorem of_media_object_keys {media : MediaObject} {object_key : String}
    (h : object_key ∈ (Deletion.of_media media).object_keys) :
    media.object_key = some object_key ∨ media.permanent_object_key = some object_key := by
  unfold Deletion.of_media at h
  rw [List.mem_append, Option.mem_toList, Option.mem_toList, Option.filter_eq_some_iff] at h
  exact h.imp id And.left

theorem KeysOwned.selected (h : KeysOwned self world) {selected : List MediaObject}
    (hstored : ∀ media ∈ selected, media ∈ world.inner.media.values) (job : Job) :
    TaskKeys self (.job job (selected.map .of_media) [] []) := by
  intro deletion hmem object_key hkey
  obtain ⟨media, hselected, rfl⟩ := List.mem_map.mp hmem
  obtain ⟨media_id, hmedia⟩ := HashMap.mem_values_iff.mp (hstored media hselected)
  have hid : (Deletion.of_media media).media.id = media_id := h.keyed media_id media hmedia
  rw [hid]
  exact h.media media_id media object_key hmedia (of_media_object_keys hkey)

theorem KeysOwned.set_task (h : KeysOwned self world) (task : Nat) (state : Task)
    (hstate : TaskKeys self state) : KeysOwned self (world.set_task task state) where
  keyed := h.keyed
  plain := h.plain
  media := h.media
  tasks query found hfound := by
    unfold World.set_task at hfound
    rw [HashMap.lookup_insert_ite] at hfound
    split at hfound
    · cases hfound
      exact hstate
    · exact h.tasks query found hfound

theorem KeysOwned.end_task (h : KeysOwned self world) (task : Nat) : KeysOwned self (world.end_task task) where
  keyed := h.keyed
  plain := h.plain
  media := h.media
  tasks query found hfound := by
    unfold World.end_task at hfound
    rw [HashMap.lookup_erase_ite] at hfound
    split at hfound
    · cases hfound
    · exact h.tasks query found hfound

/-- Only the records and the tasks matter. -/
theorem KeysOwned.of_eq {world' : World} (h : KeysOwned self world)
    (hmedia : world'.inner.media = world.inner.media) (htasks : world'.tasks = world.tasks) :
    KeysOwned self world' where
  keyed := by
    unfold MediaKeyed
    rw [hmedia]
    exact h.keyed
  plain := by
    rw [hmedia]
    exact h.plain
  media := by
    rw [hmedia]
    exact h.media
  tasks := by
    rw [htasks]
    exact h.tasks

/-- A record that is written keeps its id, and its keys are the old ones or the medium's
own. -/
theorem KeysOwned.update_media (h : KeysOwned self world) (media_id : String)
    (change : MediaObject → MediaObject) (hid : ∀ media, (change media).id = media.id)
    (hkeys : ∀ media object_key, world.inner.media.lookup media_id = some media →
      (change media).object_key = some object_key ∨ (change media).permanent_object_key = some object_key →
      Owns self media_id object_key) :
    KeysOwned self { world with inner := (update_media world.inner media_id change).2 } := by
  unfold state.update_media
  cases hmedia : world.inner.media.lookup media_id with
  | none => exact h.of_eq rfl rfl
  | some media =>
    constructor
    · exact HashMap.Keyed.insert h.keyed ((hid media).trans (h.keyed media_id media hmedia))
    · intro query found hfound
      dsimp only at hfound
      rw [HashMap.lookup_insert_ite] at hfound
      split at hfound
      · next heq => exact heq ▸ h.plain media_id media hmedia
      · exact h.plain query found hfound
    · intro query found object_key hfound hkey
      dsimp only at hfound
      rw [HashMap.lookup_insert_ite] at hfound
      split at hfound
      · next heq =>
        cases hfound
        exact heq ▸ hkeys media object_key hmedia hkey
      · exact h.media query found object_key hfound hkey
    · exact h.tasks

theorem KeysOwned.store (h : KeysOwned self world) {media : MediaObject} (hstorable : Storable self world media)
    (bytes : List UInt8) : KeysOwned self (world.step self ctx (.store media bytes)) where
  keyed := HashMap.Keyed.insert h.keyed rfl
  plain query found hfound := by
    dsimp only [World.step] at hfound
    rw [HashMap.lookup_insert_ite] at hfound
    split at hfound
    · next heq => exact heq ▸ hstorable.plain
    · exact h.plain query found hfound
  media query found object_key hfound hkey := by
    dsimp only [World.step] at hfound
    rw [HashMap.lookup_insert_ite] at hfound
    split at hfound
    · next heq =>
      cases hfound
      rw [heq]
      have hobject : media.object_key = some object_key := by
        rcases hkey with hobject | hpermanent
        · exact hobject
        · rcases hstorable.permanent with ⟨hnone, -⟩ | ⟨hsame, -⟩
          · rw [hnone] at hpermanent
            cases hpermanent
          · exact hsame.symm.trans hpermanent
      exact (hstorable.unused object_key hobject).1
    · exact h.media query found object_key hfound hkey
  tasks := h.tasks

theorem KeysOwned.other (h : KeysOwned self world) {inner : StoreInner} (hsame : SameStorage world.inner inner) :
    KeysOwned self (world.step self ctx (.other inner)) where
  keyed media_id media hmedia := by
    obtain ⟨old, hold, hstorage⟩ := hsame.symm.lookup hmedia
    exact (storage_eq_iff.mp hstorage).1.symm.trans (h.keyed media_id old hold)
  plain media_id media hmedia := by
    obtain ⟨old, hold, -⟩ := hsame.symm.lookup hmedia
    exact h.plain media_id old hold
  media media_id media object_key hmedia hkey := by
    obtain ⟨old, hold, hstorage⟩ := hsame.symm.lookup hmedia
    obtain ⟨-, -, -, -, hobject, hpermanent⟩ := storage_eq_iff.mp hstorage
    rw [← hobject, ← hpermanent] at hkey
    exact h.media media_id old object_key hold hkey
  tasks := h.tasks

theorem KeysOwned.save_media (h : KeysOwned self world) (ctx : Ctx) (task : Nat) (request : SaveMedia) :
    KeysOwned self (world.save_media self ctx task request) := by
  unfold World.save_media
  split
  · exact h
  · next before hbefore =>
    have hplain := h.plain _ before (media_for_company_eq_ok hbefore)
    refine (h.set_task task _ ?_).of_eq rfl rfl
    cases before.object_key with
    | none => exact nofun
    | some source => exact request.destination_permanent hplain

theorem KeysOwned.delete_media (h : KeysOwned self world) (task : Nat) (path : ProjectCompanyMediaPath) :
    KeysOwned self (world.delete_media task path) := by
  unfold World.delete_media
  split
  · exact h
  · next before hbefore =>
    refine (h.set_task task (.delete path _) fun object_key hkey => ?_).of_eq rfl rfl
    rw [List.mem_append, Option.mem_toList, Option.mem_toList] at hkey
    exact h.media path.media_id before object_key (media_for_company_eq_ok hbefore) hkey

theorem KeysOwned.copy_bytes (h : KeysOwned self world) (task : Nat) {request : SaveMedia} (source : String)
    {destination : String} (hdestination : PermanentKey self request.path.media_id destination)
    (stored : Bool) : KeysOwned self (world.copy_bytes task request source destination stored) := by
  unfold World.copy_bytes
  split
  · refine (h.set_task task (.record request (some destination)) ?_).of_eq rfl rfl
    rintro object_key ⟨⟩
    exact hdestination
  · exact h.end_task task

/-- What a save writes into the record: its status and a permanent key of the medium. -/
theorem save_media_spec (self : AppState) (ctx : Ctx) (inner : StoreInner) {media_id : String}
    (entity_type entity_id : String) {destination : Option String} (hplain : PlainId media_id)
    (hdestination : ∀ object_key, destination = some object_key → PermanentKey self media_id object_key) :
    ∃ change : MediaObject → MediaObject,
      save_media_with_permanent_object_key self ctx inner media_id entity_type entity_id destination =
        update_media inner media_id change ∧
      ∀ media, (change media).id = media.id ∧ (change media).project_id = media.project_id ∧
        (change media).company_id = media.company_id ∧ (change media).storage_status = "permanent" ∧
        (change media).object_key = media.object_key ∧
        ∃ object_key, (change media).permanent_object_key = some object_key ∧
          PermanentKey self media_id object_key ∧ ∀ given, destination = some given → object_key = given := by
  unfold save_media_with_permanent_object_key
  refine ⟨_, rfl, fun media => ⟨rfl, rfl, rfl, rfl, rfl, _, rfl, ?_, fun given hgiven => ?_⟩⟩
  · cases destination with
    | none =>
      rw [Option.getD_none]
      exact permanent_object_key_owned rfl rfl rfl hplain
    | some given =>
      rw [Option.getD_some]
      exact hdestination given rfl
  · rw [hgiven, Option.getD_some]

theorem KeysOwned.record_saved (h : KeysOwned self world) (ctx : Ctx) (task : Nat) {request : SaveMedia}
    {destination : Option String} (hdestination : ∀ object_key, destination = some object_key →
      PermanentKey self request.path.media_id object_key) :
    KeysOwned self (world.record_saved self ctx task request destination) := by
  unfold World.record_saved
  split
  · exact h.end_task task
  · next before hbefore =>
    have hplain := h.plain _ before (media_for_company_eq_ok hbefore)
    obtain ⟨change, heq, hchange⟩ := save_media_spec self ctx world.inner request.entity_type
      request.entity_id hplain hdestination
    rw [heq]
    refine ((h.update_media request.path.media_id change (fun media => (hchange media).1) ?_).end_task
      task).of_eq rfl rfl
    intro media object_key hmedia hkey
    obtain ⟨-, -, -, -, hobject, permanent, hpermanent, howned, -⟩ := hchange media
    rcases hkey with hkey | hkey
    · exact h.media _ media object_key hmedia (Or.inl (hobject ▸ hkey))
    · rw [hpermanent, Option.some.injEq] at hkey
      exact hkey ▸ howned.owns

/-- What a delete writes into the record: its status. -/
theorem delete_media_spec (ctx : Ctx) (inner : StoreInner) (path : ProjectCompanyMediaPath) :
    (∃ err, delete_media_for_company ctx inner path.project_id path.company_id path.media_id =
      (.error err, inner)) ∨
    ∃ (media : MediaObject) (change : MediaObject → MediaObject),
      inner.media.lookup path.media_id = some media ∧
      delete_media_for_company ctx inner path.project_id path.company_id path.media_id =
        update_media inner path.media_id change ∧
      ∀ media, (change media).id = media.id ∧ (change media).project_id = media.project_id ∧
        (change media).company_id = media.company_id ∧ (change media).storage_status = "deleted" ∧
        (change media).object_key = media.object_key ∧
        (change media).permanent_object_key = media.permanent_object_key := by
  unfold delete_media_for_company
  cases hmedia : media_for_company inner path.project_id path.company_id path.media_id with
  | error err => exact Or.inl ⟨err, rfl⟩
  | ok media => exact Or.inr ⟨media, _, media_for_company_eq_ok hmedia, rfl,
      fun _ => ⟨rfl, rfl, rfl, rfl, rfl, rfl⟩⟩

theorem update_media_of_lookup {inner : StoreInner} {media_id : String} {media : MediaObject}
    (hmedia : inner.media.lookup media_id = some media) (change : MediaObject → MediaObject) :
    update_media inner media_id change =
      (.ok (change media), { inner with media := inner.media.insert media_id (change media) }) := by
  unfold update_media
  rw [hmedia]

theorem KeysOwned.delete_bytes (h : KeysOwned self world) (ctx : Ctx) (task : Nat) {path : ProjectCompanyMediaPath}
    {object_keys : List String} (hkeys : ∀ object_key ∈ object_keys, Owns self path.media_id object_key)
    (stored : Bool) : KeysOwned self (world.delete_bytes ctx task path object_keys stored) := by
  unfold World.delete_bytes
  split
  · split
    · exact (h.set_task task (.delete path _)
        fun object_key hmem => hkeys object_key (List.mem_cons_of_mem _ hmem)).of_eq rfl rfl
    · exact h.end_task task
  · rcases delete_media_spec ctx world.inner path with ⟨err, heq⟩ | ⟨media, change, hlookup, heq, hchange⟩
    · rw [heq]
      exact h.end_task task
    · rw [heq, update_media_of_lookup hlookup]
      have hwritten := h.update_media path.media_id change (fun media => (hchange media).1)
        fun media object_key hmedia hkey => by
          obtain ⟨-, -, -, -, hobject, hpermanent⟩ := hchange media
          rw [hobject, hpermanent] at hkey
          exact h.media _ media object_key hmedia hkey
      rw [update_media_of_lookup hlookup] at hwritten
      exact (hwritten.end_task task).of_eq rfl rfl

/-- The media that a job removes are among those whose bytes it has deleted. -/
theorem remove_deleted_media (inner : StoreInner) (job : Job) (deleted failed : List MediaObject) :
    ∃ media_ids : List String, media_ids ⊆ deleted.map MediaObject.id ∧
      (World.remove_deleted inner job deleted failed).media =
        inner.media.retain fun media_id _ => !media_ids.contains media_id := by
  cases job with
  | cleanup_expired_temp_media =>
    exact ⟨deleted.map MediaObject.id, List.Subset.refl _, HashMap.foldl_erase _ inner.media⟩
  | apply_company_retention message_ids =>
    exact ⟨_, List.map_subset _ (List.filter_subset_self _), rfl⟩

theorem KeysOwned.resume_job (h : KeysOwned self world) (task : Nat) {job : Job} {todo : List Deletion}
    {deleted failed : List MediaObject} (hkeys : TaskKeys self (.job job todo deleted failed)) (stored : Bool) :
    KeysOwned self (world.resume_job task job todo deleted failed stored) := by
  unfold World.resume_job
  split
  · obtain ⟨media_ids, -, hmedia⟩ := remove_deleted_media world.inner job deleted failed
    have hstored : ∀ {media_id : String} {media : MediaObject},
        (World.remove_deleted world.inner job deleted failed).media.lookup media_id = some media →
          world.inner.media.lookup media_id = some media := by
      intro media_id media hlookup
      rw [hmedia, HashMap.lookup_retain_eq_some_iff] at hlookup
      exact hlookup.1
    constructor
    · exact fun media_id media hlookup => h.keyed media_id media (hstored hlookup)
    · exact fun media_id media hlookup => h.plain media_id media (hstored hlookup)
    · exact fun media_id media object_key hlookup => h.media media_id media object_key (hstored hlookup)
    · exact (h.end_task task).tasks
  · next deletion todo =>
    split
    · next object_key rest hobject =>
      refine (h.set_task task (.job job _ deleted failed) ?_).of_eq rfl rfl
      intro query hquery query_key hkey
      rcases List.mem_cons.mp hquery with rfl | hrest
      · exact hkeys deletion List.mem_cons_self query_key (hobject ▸ List.mem_cons_of_mem _ hkey)
      · exact hkeys query (List.mem_cons_of_mem _ hrest) query_key hkey
    · have htodo : ∀ deleted failed, TaskKeys self (.job job todo deleted failed) :=
        fun _ _ query hquery => hkeys query (List.mem_cons_of_mem _ hquery)
      split
      · exact h.set_task task _ (htodo _ _)
      · exact h.set_task task _ (htodo _ _)

/-- Every step keeps the keys apart. -/
theorem KeysOwned.next {label : Ctx × MediaOp} {world' : World} (h : KeysOwned self world)
    (hnext : world.Next self label world') : KeysOwned self world' := by
  obtain ⟨ctx, op⟩ := label
  obtain ⟨hallowed, rfl⟩ := hnext
  cases op with
  | store media bytes => exact h.store hallowed bytes
  | other inner => exact h.other hallowed
  | save_media task request => exact h.save_media ctx task request
  | delete_media task path => exact h.delete_media task path
  | cleanup_expired_temp_media task =>
    exact h.set_task task _ (h.selected (fun media hmem => (List.mem_filter.mp hmem).1) _)
  | apply_company_retention task project_id company_id policy =>
    exact h.set_task task _ (h.selected (fun media hmem => (mem_candidate_media_iff.mp hmem).1) _)
  | resume task stored =>
    dsimp only [World.step]
    cases hlookup : world.tasks.lookup task with
    | none => exact h
    | some state =>
      have hkeys := h.tasks task state hlookup
      cases state with
      | copy request source destination => exact h.copy_bytes task source hkeys stored
      | record request destination => exact h.record_saved ctx task hkeys
      | delete path object_keys => exact h.delete_bytes ctx task hkeys stored
      | job job todo deleted failed => exact h.resume_job task hkeys stored

theorem KeysOwned.empty : KeysOwned self {} where
  keyed := HashMap.Keyed.empty
  plain media_id media hmedia := by
    rw [AList.lookup_empty] at hmedia
    cases hmedia
  media media_id media object_key hmedia := by
    rw [AList.lookup_empty] at hmedia
    cases hmedia
  tasks task state htask := by
    rw [AList.lookup_empty] at htask
    cases htask

end KeysOwned

end rustzap.routes
