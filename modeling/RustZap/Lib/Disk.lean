import RustZap.Lib.Files

open collections

namespace files

/-- What a path is made up of. -/
inductive Component where
  | RootDir
  | CurDir
  | ParentDir
  | Normal (name : String)
  deriving DecidableEq

/-- The component that a name between two separators is. A dot is none. -/
def Component.parse (name : String) : Option Component :=
  if name = "" || name = "." then none
  else if name = ".." then some .ParentDir
  else some (.Normal name)

/-- The components of a path. A dot counts where the path starts with it. -/
def components (path : String) : List Component :=
  let names := str.split path '/'
  let first := if is_absolute path then [.RootDir] else if names.head? = some "." then [.CurDir] else []
  first ++ names.filterMap Component.parse

/-- A name that leads one directory down, if it can be the name of anything. -/
def is_normal (name : String) : Bool :=
  name ≠ "" && name ≠ "." && name ≠ ".." && !str.contains_char name '/'

/-- How far the system lets the calls of an operation get, and what it says where one of
them fails. -/
structure Answers where
  made : Option Nat := none
  opened : Bool := true
  written : Option Nat := none
  readable : Bool := true
  seen : Bool := true
  removable : Bool := true
  text : String := ""

/-- The files with what is in them. -/
structure Disk where
  fs : FileSystem
  contents : HashMap (List String) (List UInt8)

namespace Disk

variable (self : Disk) (answers : Answers) (cwd : List String) (path : String)

/-- The place of a path, if the directories that it passes through are there. -/
def find : Option (List String) :=
  if self.fs.passes (start cwd path) (parts path).dropLast then some (resolve cwd path) else none

/-- The bytes of a file. -/
def file (place : List String) : Option (List UInt8) :=
  if self.fs.entries.lookup place = some .file then some ((self.contents.lookup place).getD []) else none

/-- A creation that fails leaves the directories that were made before. -/
def create_dir_all (dir names : List String) : Except String Unit × Disk :=
  match answers.made with
  | some made =>
    (.error answers.text, { self with fs := (self.fs.create_dir_all dir (names.take made)).getD self.fs })
  | none =>
    match self.fs.create_dir_all dir names with
    | some fs => (.ok (), { self with fs })
    | none => (.error answers.text, self)

def open_file (place : List String) : Option (List String × FileSystem) :=
  place.getLast?.bind fun name => (self.fs.open_file place.dropLast name).map fun fs => (place, fs)

/-- The file is emptied when it is opened, and may stay cut off. -/
def write (bytes : List UInt8) : Except String Unit × Disk :=
  if !answers.opened then (.error answers.text, self)
  else match (self.find cwd path).bind self.open_file with
    | none => (.error answers.text, self)
    | some (place, fs) =>
      match answers.written with
      | some written => (.error answers.text, ⟨fs, self.contents.insert place (bytes.take written)⟩)
      | none => (.ok (), ⟨fs, self.contents.insert place bytes⟩)

def read : Except String (List UInt8) :=
  if !answers.readable then .error answers.text
  else ((self.find cwd path).bind self.file).elim (.error answers.text) .ok

/-- What cannot be looked at does not exist. -/
def path_exists : Bool :=
  answers.seen && (self.find cwd path).any self.fs.path_exists

def remove_file : Except String Unit × Disk :=
  if !answers.removable then (.error answers.text, self)
  else match (self.find cwd path).filter fun place => (self.file place).isSome with
    | none => (.error answers.text, self)
    | some place => (.ok (), ⟨self.fs.remove_file place, self.contents.erase place⟩)

end Disk

/-- A file with these bytes is found under the path. -/
structure Disk.Holds (disk : Disk) (cwd : List String) (path : String) (bytes : List UInt8) : Prop where
  passes : disk.fs.passes (start cwd path) (parts path).dropLast = true
  file : disk.file (resolve cwd path) = some bytes

section Components

theorem is_normal_iff {name : String} : is_normal name = true ↔
    name ≠ "" ∧ name ≠ "." ∧ name ≠ ".." ∧ '/' ∉ name.toList := by
  simp only [is_normal, str.contains_char, Bool.and_eq_true, decide_eq_true_eq, Bool.not_eq_true',
    List.contains_eq_mem, decide_eq_false_iff_not, and_assoc]

theorem step_of_is_normal (dir : List String) {name : String} (hname : is_normal name = true) :
    step dir name = dir ++ [name] := by
  obtain ⟨-, hdot, hdots, -⟩ := is_normal_iff.mp hname
  rw [step, if_neg hdot, if_neg hdots]

theorem foldl_step_of_is_normal {names : List String} (hnames : ∀ name ∈ names, is_normal name = true) :
    ∀ dir, names.foldl step dir = dir ++ names := by
  induction names with
  | nil => exact fun dir => (List.append_nil dir).symm
  | cons name names ih =>
    intro dir
    obtain ⟨hname, hrest⟩ := List.forall_mem_cons.mp hnames
    rw [List.foldl_cons, step_of_is_normal dir hname, ih hrest, List.append_assoc, List.singleton_append]

theorem not_mem_of_mem_splitOn {chars : List Char} {separator : Char} :
    ∀ piece ∈ chars.splitOn separator, separator ∉ piece := by
  induction chars with
  | nil =>
    intro piece hpiece
    rw [List.splitOn_eq_singleton List.not_mem_nil, List.mem_singleton] at hpiece
    rw [hpiece]
    exact List.not_mem_nil
  | cons c chars ih =>
    intro piece hpiece
    rw [List.splitOn_cons_eq_if_modifyHead] at hpiece
    split at hpiece
    · rcases List.mem_cons.mp hpiece with rfl | hpiece
      · exact List.not_mem_nil
      · exact ih piece hpiece
    · next hother =>
      rw [beq_iff_eq] at hother
      cases hpieces : chars.splitOn separator with
      | nil => exact absurd hpieces (List.splitOn_ne_nil _ _)
      | cons head tail =>
        rw [hpieces] at hpiece ih
        rcases List.mem_cons.mp hpiece with rfl | htail
        · rw [List.mem_cons, not_or]
          exact ⟨Ne.symm hother, ih head List.mem_cons_self⟩
        · exact ih piece (List.mem_cons_of_mem head htail)

/-- A piece of a path has no separator in it. -/
theorem not_mem_of_mem_split {path name : String} (hname : name ∈ str.split path '/') : '/' ∉ name.toList := by
  obtain ⟨chars, hchars, rfl⟩ := List.mem_map.mp hname
  rw [String.toList_ofList]
  exact not_mem_of_mem_splitOn chars hchars

theorem parse_eq_normal_iff {piece name : String} :
    Component.parse piece = some (.Normal name) ↔ piece ≠ "" ∧ piece ≠ "." ∧ piece ≠ ".." ∧ piece = name := by
  rw [Component.parse]
  split
  · next hskip =>
    rw [Bool.or_eq_true, decide_eq_true_eq, decide_eq_true_eq] at hskip
    exact iff_of_false (by simp) fun h => hskip.elim h.1 h.2.1
  · next hskip =>
    rw [Bool.or_eq_true, decide_eq_true_eq, decide_eq_true_eq, not_or] at hskip
    split
    · next hdots => exact iff_of_false (by simp) fun h => h.2.2.1 hdots
    · next hdots =>
      rw [Option.some_inj, Component.Normal.injEq]
      exact ⟨fun h => ⟨hskip.1, hskip.2, hdots, h⟩, fun h => h.2.2.2⟩

theorem mem_components_of_mem_split {path name : String} {component : Component}
    (hname : name ∈ str.split path '/') (hparse : Component.parse name = some component) :
    component ∈ components path :=
  List.mem_append_right _ (List.mem_filterMap.mpr ⟨name, hname, hparse⟩)

theorem is_normal_of_mem_components {path name : String} (hname : Component.Normal name ∈ components path) :
    is_normal name = true := by
  rcases List.mem_append.mp hname with hfirst | hrest
  · split_ifs at hfirst
    · cases List.mem_singleton.mp hfirst
    · cases List.mem_singleton.mp hfirst
    · cases hfirst
  · obtain ⟨piece, hpiece, hparse⟩ := List.mem_filterMap.mp hrest
    obtain ⟨hempty, hdot, hdots, rfl⟩ := parse_eq_normal_iff.mp hparse
    exact is_normal_iff.mpr ⟨hempty, hdot, hdots, not_mem_of_mem_split hpiece⟩

theorem root_dir_mem_components {path : String} (habsolute : is_absolute path = true) :
    Component.RootDir ∈ components path := by
  rw [components, if_pos habsolute]
  exact List.mem_cons_self

/-- Every path but the empty one has a component. -/
theorem components_ne_nil {path : String} (hne : path ≠ "") : components path ≠ [] := by
  intro hnil
  obtain ⟨hfirst, hrest⟩ := List.append_eq_nil_iff.mp hnil
  have hskipped := List.filterMap_eq_nil_iff.mp hrest
  cases hchars : path.toList with
  | nil => exact hne (String.toList_eq_nil_iff.mp hchars)
  | cons c chars =>
    have habsolute : ¬is_absolute path = true := by
      intro habsolute
      rw [if_pos habsolute] at hfirst
      cases hfirst
    have hc : ¬(c == '/') = true := by
      intro hc
      refine habsolute ?_
      rw [is_absolute, str.starts_with, hchars, beq_iff_eq.mp hc]
      rfl
    have hpieces : ∃ head tail, str.split path '/' = String.ofList (c :: head) :: tail := by
      rw [str.split, hchars, List.splitOn_cons_eq_if_modifyHead, if_neg hc]
      cases hsplit : chars.splitOn '/' with
      | nil => exact absurd hsplit (List.splitOn_ne_nil _ _)
      | cons head tail => exact ⟨head, tail.map String.ofList, rfl⟩
    obtain ⟨head, tail, hpieces⟩ := hpieces
    rw [if_neg habsolute, hpieces] at hfirst
    rw [hpieces] at hskipped
    have hhead := hskipped _ List.mem_cons_self
    rw [Component.parse] at hhead
    have hempty : String.ofList (c :: head) ≠ "" := by
      intro h
      cases String.ofList_inj.mp (h.trans String.ofList_nil.symm)
    split at hhead
    · next hskip =>
      rw [Bool.or_eq_true, decide_eq_true_eq, decide_eq_true_eq] at hskip
      rw [List.head?_cons, if_pos (congrArg some (hskip.resolve_left hempty))] at hfirst
      cases hfirst
    · split at hhead
      · cases hhead
      · cases hhead

end Components

namespace Disk

variable {disk : Disk} {answers : Answers} {cwd : List String} {path : String} {bytes : List UInt8}

theorem file_eq_some_iff {place : List String} : disk.file place = some bytes ↔
    disk.fs.entries.lookup place = some .file ∧ (disk.contents.lookup place).getD [] = bytes := by
  rw [file, Option.ite_none_right_eq_some, Option.some_inj]

theorem find_eq_some_iff {place : List String} : disk.find cwd path = some place ↔
    disk.fs.passes (start cwd path) (parts path).dropLast = true ∧ resolve cwd path = place := by
  rw [find, Option.ite_none_right_eq_some, Option.some_inj]

theorem Holds.read (h : disk.Holds cwd path bytes) :
    disk.read answers cwd path = if answers.readable then .ok bytes else .error answers.text := by
  have hfind : (disk.find cwd path).bind disk.file = some bytes := by
    rw [find_eq_some_iff.mpr ⟨h.passes, rfl⟩, Option.bind_some, h.file]
  rw [Disk.read, hfind]
  cases answers.readable
  · rfl
  · rfl

theorem holds_of_read (h : disk.read answers cwd path = .ok bytes) : disk.Holds cwd path bytes := by
  rw [read] at h
  split at h
  · cases h
  · cases hfind : (disk.find cwd path).bind disk.file with
    | none =>
      rw [hfind] at h
      cases h
    | some found =>
      rw [hfind] at h
      cases h
      obtain ⟨place, hplace, hfile⟩ := Option.bind_eq_some_iff.mp hfind
      obtain ⟨hpasses, rfl⟩ := find_eq_some_iff.mp hplace
      exact ⟨hpasses, hfile⟩

/-- What an operation leaves alone: the directories stay, and so does the file at a place. -/
structure Keeps (disk disk' : Disk) (place : List String) : Prop where
  dirs : ∀ dir, disk.fs.is_dir dir = true → disk'.fs.is_dir dir = true
  file : ∀ bytes, disk.file place = some bytes → disk'.file place = some bytes

theorem Keeps.refl (disk : Disk) (place : List String) : Keeps disk disk place :=
  ⟨fun _ hdir => hdir, fun _ hfile => hfile⟩

theorem Keeps.trans {disk' disk'' : Disk} {place : List String} (h : Keeps disk disk' place)
    (h' : Keeps disk' disk'' place) : Keeps disk disk'' place :=
  ⟨fun dir hdir => h'.dirs dir (h.dirs dir hdir), fun bytes hfile => h'.file bytes (h.file bytes hfile)⟩

theorem Keeps.holds {disk' : Disk} (h : Keeps disk disk' (resolve cwd path))
    (hholds : disk.Holds cwd path bytes) : disk'.Holds cwd path bytes :=
  ⟨FileSystem.passes_mono h.dirs hholds.passes, h.file bytes hholds.file⟩

theorem keeps_of_grown {fs : FileSystem} {new : List String → Prop} (h : FileSystem.Grown disk.fs fs new)
    {contents : HashMap (List String) (List UInt8)} {place : List String}
    (hcontents : contents.lookup place = disk.contents.lookup place) : Keeps disk ⟨fs, contents⟩ place where
  dirs dir hdir := h.is_dir hdir
  file bytes hfile := by
    obtain ⟨hentry, hbytes⟩ := file_eq_some_iff.mp hfile
    exact file_eq_some_iff.mpr ⟨h.kept place .file hentry, hcontents ▸ hbytes⟩

theorem keeps_create_dir_all (dir names place : List String) :
    Keeps disk (disk.create_dir_all answers dir names).2 place := by
  rw [create_dir_all]
  split
  · next made _ =>
    cases hfs : disk.fs.create_dir_all dir (names.take made) with
    | none => exact .refl disk place
    | some fs => exact keeps_of_grown (FileSystem.grown_create_dir_all hfs) rfl
  · split
    · next fs hfs => exact keeps_of_grown (FileSystem.grown_create_dir_all hfs) rfl
    · exact .refl disk place

theorem open_file_eq_some {place opened : List String} {fs : FileSystem}
    (h : disk.open_file place = some (opened, fs)) : opened = place ∧
      FileSystem.Grown disk.fs fs (· = place) ∧ fs.entries.lookup place = some .file := by
  obtain ⟨name, hname, hopen⟩ := Option.bind_eq_some_iff.mp h
  obtain ⟨created, hcreated, hresult⟩ := Option.map_eq_some_iff.mp hopen
  cases hresult
  have hplace : place.dropLast ++ [name] = place := List.dropLast_append_getLast? name hname
  have hgrown := FileSystem.grown_open_file hcreated
  rw [hplace] at hgrown
  exact ⟨rfl, hgrown⟩

/-- What is opened is the place of the path. -/
theorem opened_of_find {place : List String} {fs : FileSystem}
    (h : (disk.find cwd path).bind disk.open_file = some (place, fs)) : resolve cwd path = place ∧
      disk.fs.passes (start cwd path) (parts path).dropLast = true ∧
      FileSystem.Grown disk.fs fs (· = place) ∧ fs.entries.lookup place = some .file := by
  obtain ⟨found, hfound, hopen⟩ := Option.bind_eq_some_iff.mp h
  obtain ⟨hpasses, rfl⟩ := find_eq_some_iff.mp hfound
  obtain ⟨rfl, hgrown, hentry⟩ := open_file_eq_some hopen
  exact ⟨rfl, hpasses, hgrown, hentry⟩

theorem keeps_write {place : List String} (hother : place ≠ resolve cwd path) :
    Keeps disk (disk.write answers cwd path bytes).2 place := by
  rw [write]
  split
  · exact .refl disk place
  · split
    · exact .refl disk place
    · next hopen =>
      obtain ⟨rfl, -, hgrown, -⟩ := opened_of_find hopen
      split
      · exact keeps_of_grown hgrown (AList.lookup_insert_ne hother)
      · exact keeps_of_grown hgrown (AList.lookup_insert_ne hother)

theorem holds_write {disk' : Disk} (h : disk.write answers cwd path bytes = (.ok (), disk')) :
    disk'.Holds cwd path bytes := by
  rw [write] at h
  split at h
  · cases h
  · split at h
    · cases h
    · next hopen =>
      obtain ⟨rfl, hpasses, hgrown, hentry⟩ := opened_of_find hopen
      split at h
      · cases h
      · cases h
        refine ⟨hgrown.passes hpasses, file_eq_some_iff.mpr ⟨hentry, ?_⟩⟩
        rw [AList.lookup_insert, Option.getD_some]

theorem keeps_remove_file {place : List String} (hother : place ≠ resolve cwd path) :
    Keeps disk (disk.remove_file answers cwd path).2 place := by
  rw [remove_file]
  split
  · exact .refl disk place
  · split
    · exact .refl disk place
    · next removed hfound =>
      obtain ⟨hfind, hfile⟩ := Option.filter_eq_some_iff.mp hfound
      obtain ⟨-, rfl⟩ := find_eq_some_iff.mp hfind
      obtain ⟨old, hold⟩ := Option.isSome_iff_exists.mp hfile
      refine ⟨fun dir hdir => ?_, fun bytes hbytes => ?_⟩
      · refine FileSystem.is_dir_iff _ |>.mpr ((FileSystem.is_dir_iff _ |>.mp hdir).imp id fun hentry => ?_)
        rw [FileSystem.lookup_remove_file, hentry]
        rintro rfl
        cases hentry.symm.trans (file_eq_some_iff.mp hold).1
      · obtain ⟨hentry, hcontents⟩ := file_eq_some_iff.mp hbytes
        refine file_eq_some_iff.mpr ⟨?_, ?_⟩
        · rw [FileSystem.lookup_remove_file hother, hentry]
        · rw [AList.lookup_erase_ne hother, hcontents]

/-- A file that has been removed is not there any more. -/
theorem file_remove_file {disk' : Disk} (h : disk.remove_file answers cwd path = (.ok (), disk')) :
    disk'.file (resolve cwd path) = none := by
  rw [remove_file] at h
  split at h
  · cases h
  · split at h
    · cases h
    · next removed hfound =>
      obtain ⟨hfind, hfile⟩ := Option.filter_eq_some_iff.mp hfound
      obtain ⟨-, rfl⟩ := find_eq_some_iff.mp hfind
      obtain ⟨old, hold⟩ := Option.isSome_iff_exists.mp hfile
      cases h
      rw [file, FileSystem.remove_file, dif_pos (file_eq_some_iff.mp hold).1, AList.lookup_erase]
      rfl

end Disk

end files
