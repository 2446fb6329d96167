import RustZap.Channels.Sessions
import RustZap.Lib.Disk

open files
open rustzap.whatsapp

namespace rustzap.storage

/-- The byte store of the local provider. -/
structure MediaByteStore where
  local_dir : String

/-- The loop over the components of a key. -/
def push_components (relative : String) : List Component → Option String
  | [] => some relative
  | .Normal part :: rest => push_components (join_path relative part) rest
  | _ :: _ => none

namespace MediaByteStore

variable (self : MediaByteStore) (cwd : List String) (answers : Answers) (disk : Disk)

def local_object_path (object_key : String) : Except String String :=
  if str.trim object_key = "" then .error "object key is empty"
  else match push_components "" (components object_key) with
    | some relative => .ok (join_path self.local_dir relative)
    | none => .error "object key contains unsafe path components"

/-- The path ends with a name, so its parent is the path of the parts before. -/
def put_local (object_key : String) (bytes : List UInt8) : Except String Unit × Disk :=
  match self.local_object_path object_key with
  | .error err => (.error err, disk)
  | .ok path =>
    match disk.create_dir_all answers (start cwd path) (parts path).dropLast with
    | (.error err, disk) => (.error ("local media directory create failed: " ++ err), disk)
    | (.ok _, disk) =>
      match disk.write answers cwd path bytes with
      | (.error err, disk) => (.error ("local media write failed: " ++ err), disk)
      | (.ok _, disk) => (.ok (), disk)

def get_local (object_key : String) : Except String (List UInt8) :=
  match self.local_object_path object_key with
  | .error err => .error err
  | .ok path => (disk.read answers cwd path).mapError ("local media read failed: " ++ ·)

def delete (object_key : String) : Except String Unit × Disk :=
  match self.local_object_path object_key with
  | .error err => (.error err, disk)
  | .ok path =>
    if disk.path_exists answers cwd path then
      match disk.remove_file answers cwd path with
      | (.error err, disk) => (.error ("local media delete failed: " ++ err), disk)
      | (.ok _, disk) => (.ok (), disk)
    else (.ok (), disk)

def delete_blocking (object_key : String) : Except String Unit × Disk :=
  self.delete cwd answers disk object_key

def copy (source_object_key destination_object_key : String) : Except String Unit × Disk :=
  match self.get_local cwd answers disk source_object_key with
  | .error err => (.error err, disk)
  | .ok bytes => self.put_local cwd answers disk destination_object_key bytes

end MediaByteStore

inductive Operation where
  | put (object_key : String) (bytes : List UInt8)
  | get (object_key : String)
  | copy (source_object_key destination_object_key : String)
  | delete (object_key : String)

/-- The key that an operation writes or deletes. -/
def Operation.written : Operation → Option String
  | put object_key _ => some object_key
  | get _ => none
  | copy _ destination_object_key => some destination_object_key
  | delete object_key => some object_key

/-- An operation, as far as the system lets it. -/
def MediaByteStore.perform (self : MediaByteStore) (cwd : List String) (disk : Disk) :
    Answers × Operation → Disk
  | (answers, .put object_key bytes) => (self.put_local cwd answers disk object_key bytes).2
  | (_, .get _) => disk
  | (answers, .copy source_object_key destination_object_key) =>
    (self.copy cwd answers disk source_object_key destination_object_key).2
  | (answers, .delete object_key) => (self.delete cwd answers disk object_key).2

/-- The objects of a local store lie below its directory, each at a place of its own, where all of the
operations find it. -/
structure LocalObjects (store : MediaByteStore) : Prop where
  confined : ∀ object_key path, store.local_object_path object_key = .ok path →
    ∃ names, names ≠ [] ∧ (∀ name ∈ names, is_normal name = true) ∧
      components object_key = names.map .Normal ∧
      path = join_path store.local_dir (names.foldl join_path "") ∧
      ∀ cwd, resolve cwd path = resolve cwd store.local_dir ++ names
  refused : ∀ object_key, ".." ∈ str.split object_key '/' ∨ str.starts_with object_key "/" = true ∨
    (∀ c ∈ object_key.toList, str.is_whitespace c = true) →
    ∃ err, store.local_object_path object_key = .error err
  put : ∀ cwd answers disk object_key bytes disk',
    store.put_local cwd answers disk object_key bytes = (.ok (), disk') →
    ∃ path, store.local_object_path object_key = .ok path ∧ disk'.Holds cwd path bytes
  get : ∀ cwd answers disk object_key bytes,
    store.get_local cwd answers disk object_key = .ok bytes →
    ∃ path, store.local_object_path object_key = .ok path ∧ disk.Holds cwd path bytes
  delete : ∀ cwd answers disk object_key disk', answers.seen = true →
    store.delete cwd answers disk object_key = (.ok (), disk') →
    ∃ path, store.local_object_path object_key = .ok path ∧ ∀ bytes, ¬disk'.Holds cwd path bytes
  copy : ∀ cwd answers disk source destination disk',
    store.copy cwd answers disk source destination = (.ok (), disk') →
    ∃ path path' bytes, store.local_object_path source = .ok path ∧
      store.local_object_path destination = .ok path' ∧ disk.Holds cwd path bytes ∧ disk'.Holds cwd path' bytes
  others : ∀ cwd disk operation place,
    (∀ object_key path, operation.2.written = some object_key →
      store.local_object_path object_key = .ok path → place ≠ resolve cwd path) →
    Disk.Keeps disk (store.perform cwd disk operation) place
  get_after_put : ∀ cwd answers disk object_key bytes disk',
    store.put_local cwd answers disk object_key bytes = (.ok (), disk') →
    ∀ operations : List (Answers × Operation),
      (∀ operation ∈ operations, ∀ other, operation.2.written = some other →
        components other ≠ components object_key) →
      ∀ answers', store.get_local cwd answers' (operations.foldl (store.perform cwd) disk') object_key =
        if answers'.readable then .ok bytes else .error ("local media read failed: " ++ answers'.text)

section LocalObjects

variable {store : MediaByteStore} {cwd : List String} {answers : Answers} {disk disk' : Disk}

theorem push_components_eq_some {components : List Component} {path : String} :
    ∀ {relative}, push_components relative components = some path →
      ∃ names : List String, components = names.map .Normal ∧ path = names.foldl join_path relative := by
  induction components with
  | nil =>
    intro relative h
    cases h
    exact ⟨[], rfl, rfl⟩
  | cons component components ih =>
    intro relative h
    cases component with
    | Normal name =>
      obtain ⟨names, rfl, rfl⟩ := ih h
      exact ⟨name :: names, rfl, rfl⟩
    | RootDir => cases h
    | CurDir => cases h
    | ParentDir => cases h

/-- Names that are put together make a path that is not absolute, and these are its parts. -/
theorem relative_names {names : List String} (hnames : ∀ name ∈ names, is_normal name = true) :
    ∀ {relative}, is_absolute relative = false →
      is_absolute (names.foldl join_path relative) = false ∧
        parts (names.foldl join_path relative) = parts relative ++ names := by
  induction names with
  | nil => exact fun {relative} hrelative => ⟨hrelative, (List.append_nil _).symm⟩
  | cons name names ih =>
    intro relative hrelative
    obtain ⟨hname, hrest⟩ := List.forall_mem_cons.mp hnames
    obtain ⟨hempty, -, -, hslash⟩ := is_normal_iff.mp hname
    have hname_relative := is_absolute_of_not_mem hslash
    have hjoin : is_absolute (join_path relative name) = false := by
      rcases join_path_cases hname_relative relative with ⟨rfl, hjoin⟩ | ⟨hne, ⟨dir, -, hjoin⟩ | hjoin⟩
      · rw [hjoin, hname_relative]
      · rw [hjoin, is_absolute_append hne, hrelative]
      · rw [hjoin, String.append_assoc, is_absolute_append hne, hrelative]
    obtain ⟨habsolute, hparts⟩ := ih hrest hjoin
    refine ⟨habsolute, ?_⟩
    rw [List.foldl_cons, hparts, parts_join_path hname_relative, parts_of_not_mem hempty hslash,
      List.append_assoc, List.singleton_append]

theorem resolve_names {names : List String} (hnames : ∀ name ∈ names, is_normal name = true) (dir : String)
    (cwd : List String) :
    resolve cwd (join_path dir (names.foldl join_path "")) = resolve cwd dir ++ names := by
  have hempty : is_absolute "" = false := by decide
  obtain ⟨hrelative, hparts⟩ := relative_names hnames hempty
  rw [resolve_join_path hrelative, hparts, parts_empty, List.nil_append, foldl_step_of_is_normal hnames]

theorem local_object_path_eq_ok {object_key path : String} (h : store.local_object_path object_key = .ok path) :
    ∃ names : List String, names ≠ [] ∧ (∀ name ∈ names, is_normal name = true) ∧
      components object_key = names.map .Normal ∧
      path = join_path store.local_dir (names.foldl join_path "") ∧
      ∀ cwd, resolve cwd path = resolve cwd store.local_dir ++ names := by
  rw [MediaByteStore.local_object_path] at h
  split at h
  · cases h
  · next hblank =>
    split at h
    · next relative hpush =>
      cases h
      obtain ⟨names, hcomponents, rfl⟩ := push_components_eq_some hpush
      have hnames : ∀ name ∈ names, is_normal name = true := by
        intro name hname
        have hmem : Component.Normal name ∈ components object_key := by
          rw [hcomponents]
          exact List.mem_map_of_mem hname
        exact is_normal_of_mem_components hmem
      have hne : object_key ≠ "" := by
        rintro rfl
        exact hblank (by decide)
      refine ⟨names, ?_, hnames, hcomponents, rfl, resolve_names hnames store.local_dir⟩
      rintro rfl
      exact components_ne_nil hne hcomponents
    · cases h

/-- A key with a component that is no name is refused. -/
theorem refused_of_mem_components {object_key : String} {component : Component}
    (hmem : component ∈ components object_key) (hnormal : ∀ name, component ≠ .Normal name) :
    ∃ err, store.local_object_path object_key = .error err := by
  cases hpath : store.local_object_path object_key with
  | error err => exact ⟨err, rfl⟩
  | ok path =>
    obtain ⟨names, -, -, hcomponents, -⟩ := local_object_path_eq_ok hpath
    rw [hcomponents] at hmem
    obtain ⟨name, -, hname⟩ := List.mem_map.mp hmem
    exact absurd hname.symm (hnormal name)

theorem trim_of_blank {object_key : String} (hblank : ∀ c ∈ object_key.toList, str.is_whitespace c = true) :
    str.trim object_key = "" := by
  rw [str.trim, List.dropWhile_eq_nil_iff.mpr hblank]
  rfl

/-- Keys with different components are different places. -/
theorem components_eq_of_resolve_eq {object_key other path path' : String}
    (hpath : store.local_object_path object_key = .ok path) (hpath' : store.local_object_path other = .ok path')
    (hresolve : resolve cwd path = resolve cwd path') : components other = components object_key := by
  obtain ⟨names, -, -, hcomponents, -, hplace⟩ := local_object_path_eq_ok hpath
  obtain ⟨names', -, -, hcomponents', -, hplace'⟩ := local_object_path_eq_ok hpath'
  rw [hplace, hplace'] at hresolve
  rw [hcomponents, hcomponents', List.append_cancel_left hresolve]

theorem put_local_holds {object_key : String} {bytes : List UInt8}
    (h : store.put_local cwd answers disk object_key bytes = (.ok (), disk')) :
    ∃ path, store.local_object_path object_key = .ok path ∧ disk'.Holds cwd path bytes := by
  rw [MediaByteStore.put_local] at h
  split at h
  · cases h
  · next path hpath =>
    split at h
    · cases h
    · split at h
      · cases h
      · next hwrite =>
        cases h
        exact ⟨path, hpath, Disk.holds_write hwrite⟩

theorem get_local_holds {object_key : String} {bytes : List UInt8}
    (h : store.get_local cwd answers disk object_key = .ok bytes) :
    ∃ path, store.local_object_path object_key = .ok path ∧ disk.Holds cwd path bytes := by
  rw [MediaByteStore.get_local] at h
  split at h
  · cases h
  · next path hpath =>
    cases hread : disk.read answers cwd path with
    | error err =>
      rw [hread] at h
      cases h
    | ok found =>
      rw [hread] at h
      cases h
      exact ⟨path, hpath, Disk.holds_of_read hread⟩

theorem get_local_of_holds {object_key path : String} {bytes : List UInt8}
    (hpath : store.local_object_path object_key = .ok path) (hholds : disk.Holds cwd path bytes) :
    store.get_local cwd answers disk object_key =
      if answers.readable then .ok bytes else .error ("local media read failed: " ++ answers.text) := by
  rw [MediaByteStore.get_local, hpath]
  dsimp only
  rw [hholds.read]
  cases answers.readable
  · rfl
  · rfl

theorem delete_not_holds {object_key : String} (hseen : answers.seen = true)
    (h : store.delete cwd answers disk object_key = (.ok (), disk')) :
    ∃ path, store.local_object_path object_key = .ok path ∧ ∀ bytes, ¬disk'.Holds cwd path bytes := by
  rw [MediaByteStore.delete] at h
  split at h
  · cases h
  · next path hpath =>
    refine ⟨path, hpath, fun bytes hholds => ?_⟩
    split at h
    · split at h
      · cases h
      · next hremove =>
        cases h
        cases (Disk.file_remove_file hremove).symm.trans hholds.file
    · next hexists =>
      cases h
      refine hexists ?_
      rw [Disk.path_exists, hseen, Disk.find_eq_some_iff.mpr ⟨hholds.passes, rfl⟩, Bool.true_and,
        Option.any_some, FileSystem.path_exists, (Disk.file_eq_some_iff.mp hholds.file).1, Option.isSome_some,
        Bool.or_true]

theorem copy_eq_ok {source destination : String}
    (h : store.copy cwd answers disk source destination = (.ok (), disk')) : ∃ bytes,
      store.get_local cwd answers disk source = .ok bytes ∧
      store.put_local cwd answers disk destination bytes = (.ok (), disk') := by
  rw [MediaByteStore.copy] at h
  split at h
  · cases h
  · next bytes hget => exact ⟨bytes, hget, h⟩

theorem keeps_put_local {object_key : String} {bytes : List UInt8} {place : List String}
    (hother : ∀ path, store.local_object_path object_key = .ok path → place ≠ resolve cwd path) :
    Disk.Keeps disk (store.put_local cwd answers disk object_key bytes).2 place := by
  rw [MediaByteStore.put_local]
  split
  · exact .refl disk place
  · next path hpath =>
    have hcreate : Disk.Keeps disk
        (disk.create_dir_all answers (start cwd path) (parts path).dropLast).2 place :=
      Disk.keeps_create_dir_all _ _ place
    split
    · next hcreated =>
      rw [hcreated] at hcreate
      exact hcreate
    · next made hcreated =>
      rw [hcreated] at hcreate
      have hwrite : Disk.Keeps made (made.write answers cwd path bytes).2 place :=
        Disk.keeps_write (hother path hpath)
      split
      · next hwritten =>
        rw [hwritten] at hwrite
        exact hcreate.trans hwrite
      · next hwritten =>
        rw [hwritten] at hwrite
        exact hcreate.trans hwrite

theorem keeps_delete {object_key : String} {place : List String}
    (hother : ∀ path, store.local_object_path object_key = .ok path → place ≠ resolve cwd path) :
    Disk.Keeps disk (store.delete cwd answers disk object_key).2 place := by
  rw [MediaByteStore.delete]
  split
  · exact .refl disk place
  · next path hpath =>
    split
    · have hremove : Disk.Keeps disk (disk.remove_file answers cwd path).2 place :=
        Disk.keeps_remove_file (hother path hpath)
      split
      · next hremoved =>
        rw [hremoved] at hremove
        exact hremove
      · next hremoved =>
        rw [hremoved] at hremove
        exact hremove
    · exact .refl disk place

/-- An operation leaves alone every file but the one of the key that it writes or deletes. -/
theorem keeps_perform {operation : Answers × Operation} {place : List String}
    (hother : ∀ object_key path, operation.2.written = some object_key →
      store.local_object_path object_key = .ok path → place ≠ resolve cwd path) :
    Disk.Keeps disk (store.perform cwd disk operation) place := by
  obtain ⟨answers, operation⟩ := operation
  cases operation with
  | put object_key bytes => exact keeps_put_local fun path hpath => hother object_key path rfl hpath
  | get object_key => exact .refl disk place
  | copy source destination =>
    rw [MediaByteStore.perform, MediaByteStore.copy]
    split
    · exact .refl disk place
    · exact keeps_put_local fun path hpath => hother destination path rfl hpath
  | delete object_key => exact keeps_delete fun path hpath => hother object_key path rfl hpath

/-- Over a run of operations on other keys, a file stays as it is. -/
theorem keeps_run {operations : List (Answers × Operation)} {place : List String} : ∀ {disk},
    (∀ operation ∈ operations, ∀ object_key path, operation.2.written = some object_key →
      store.local_object_path object_key = .ok path → place ≠ resolve cwd path) →
    Disk.Keeps disk (operations.foldl (store.perform cwd) disk) place := by
  induction operations with
  | nil => exact fun {disk} _ => .refl disk place
  | cons operation operations ih =>
    intro disk hother
    obtain ⟨hfirst, hrest⟩ := List.forall_mem_cons.mp hother
    exact (keeps_perform hfirst).trans (ih hrest)

/-- **Local objects**: whatever the key, the bytes lie below the directory of the store or nowhere, and
they stay there until the key itself is written or deleted. -/
theorem local_objects (store : MediaByteStore) : LocalObjects store where
  confined object_key path hpath := local_object_path_eq_ok hpath
  refused object_key hrefused := by
    rcases hrefused with hdots | hroot | hblank
    · exact refused_of_mem_components (mem_components_of_mem_split hdots rfl) fun name => by simp
    · exact refused_of_mem_components (root_dir_mem_components hroot) fun name => by simp
    · exact ⟨_, if_pos (trim_of_blank hblank)⟩
  put cwd answers disk object_key bytes disk' hput := put_local_holds hput
  get cwd answers disk object_key bytes hget := get_local_holds hget
  delete cwd answers disk object_key disk' hseen hdelete := delete_not_holds hseen hdelete
  copy cwd answers disk source destination disk' hcopy := by
    obtain ⟨bytes, hget, hput⟩ := copy_eq_ok hcopy
    obtain ⟨path, hpath, hholds⟩ := get_local_holds hget
    obtain ⟨path', hpath', hholds'⟩ := put_local_holds hput
    exact ⟨path, path', bytes, hpath, hpath', hholds, hholds'⟩
  others cwd disk operation place hother := keeps_perform hother
  get_after_put cwd answers disk object_key bytes disk' hput operations hother answers' := by
    obtain ⟨path, hpath, hholds⟩ := put_local_holds hput
    refine get_local_of_holds hpath (Disk.Keeps.holds (keeps_run ?_) hholds)
    intro operation hoperation other path' hwritten hpath' hresolve
    exact hother operation hoperation other hwritten (components_eq_of_resolve_eq hpath hpath' hresolve)

end LocalObjects

def sample.store : MediaByteStore := ⟨"/media"⟩

def sample.disk : Disk where
  fs := { entries := ∅, named := no_file_named, closed := no_file_inside }
  contents := ∅

def sample.put_picture : Except String Unit × Disk :=
  sample.store.put_local [] {} sample.disk "temp/picture" [255, 216]

/-- Another object comes and goes, and a copy of the picture is cut short. -/
def sample.operations : List (Answers × Operation) :=
  [({}, .put "temp/voice" [79]), ({}, .get "temp/voice"),
    ({ written := some 1 }, .copy "temp/picture" "saved/picture"), ({}, .delete "temp/voice")]

/-- A picture is read as it was put, after operations on other keys. -/
theorem picture_read_after_put :
    sample.put_picture.1 = .ok () ∧
      sample.store.get_local [] {} (sample.operations.foldl (sample.store.perform []) sample.put_picture.2)
        "temp/picture" = .ok [255, 216] := by
  have hput : sample.put_picture = (.ok (), sample.put_picture.2) := Prod.ext (by decide) rfl
  have hother : ∀ operation ∈ sample.operations, ∀ other, operation.2.written = some other →
      components other ≠ components "temp/picture" := by decide
  exact ⟨congrArg Prod.fst hput, (local_objects sample.store).get_after_put [] {} sample.disk "temp/picture"
    [255, 216] sample.put_picture.2 hput sample.operations hother {}⟩

end rustzap.storage
