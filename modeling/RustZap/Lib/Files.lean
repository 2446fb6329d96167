import RustZap.Lib.HashMap
import RustZap.Lib.Text

open collections

namespace files

/-- What may be the name of a file or of a directory. -/
def is_file_name (name : String) : Bool :=
  name ≠ "" && name ≠ "." && name ≠ ".." && !str.contains_char name '/' && !str.contains_char name (Char.ofNat 0)

/-- The parts of a path between its separators, several of which are as good as one. -/
def parts (path : String) : List String :=
  (str.split path '/').filter fun name => name ≠ ""

def is_absolute (path : String) : Bool :=
  str.starts_with path "/"

/-- Where a path starts: at the root, or in the directory of the process. -/
def start (cwd : List String) (path : String) : List String :=
  if is_absolute path then [] else cwd

/-- One part further. -/
def step (dir : List String) (name : String) : List String :=
  if name = "." then dir else if name = ".." then dir.dropLast else dir ++ [name]

/-- The place that a path names, counted from the root, where there are no links. -/
def resolve (cwd : List String) (path : String) : List String :=
  (parts path).foldl step (start cwd path)

section Paths

theorem parts_append (path rest : String) : parts (path ++ "/" ++ rest) = parts path ++ parts rest := by
  have hchars : (path ++ "/" ++ rest).toList = path.toList ++ '/' :: rest.toList := by
    rw [String.toList_append, String.toList_append, List.append_assoc]
    rfl
  rw [parts, str.split, hchars, List.splitOn_append_cons_self, List.map_append, List.filter_append]
  rfl

theorem parts_empty : parts "" = [] := by
  decide

theorem is_file_name_iff {name : String} : is_file_name name = true ↔
    name ≠ "" ∧ name ≠ "." ∧ name ≠ ".." ∧ '/' ∉ name.toList ∧ Char.ofNat 0 ∉ name.toList := by
  simp only [is_file_name, str.contains_char, Bool.and_eq_true, decide_eq_true_eq, Bool.not_eq_true',
    List.contains_eq_mem, decide_eq_false_iff_not, and_assoc]

/-- A name without a separator is one part. -/
theorem parts_of_not_mem {name : String} (hempty : name ≠ "") (hslash : '/' ∉ name.toList) :
    parts name = [name] := by
  rw [parts, str.split, List.splitOn_eq_singleton hslash, List.map_singleton, String.ofList_toList]
  exact List.filter_cons_of_pos (decide_eq_true hempty)

theorem is_absolute_of_not_mem {name : String} (hslash : '/' ∉ name.toList) : is_absolute name = false := by
  rw [is_absolute, str.starts_with, Bool.eq_false_iff, ne_eq, List.isPrefixOf_iff_prefix]
  rintro ⟨rest, hrest⟩
  refine hslash ?_
  rw [← hrest]
  exact List.mem_append_left _ (by decide)

/-- Whether a path is absolute is decided by its first character. -/
theorem is_absolute_append {path : String} (hne : path ≠ "") (rest : String) :
    is_absolute (path ++ rest) = is_absolute path := by
  rw [is_absolute, is_absolute, str.starts_with, str.starts_with, String.toList_append]
  cases hchars : path.toList with
  | nil => exact absurd (String.toList_eq_nil_iff.mp hchars) hne
  | cons c chars => rfl

theorem start_append (cwd : List String) {path : String} (hne : path ≠ "") (rest : String) :
    start cwd (path ++ rest) = start cwd path := by
  rw [start, start, is_absolute_append hne]

theorem step_of_is_file_name (dir : List String) {name : String} (hname : is_file_name name = true) :
    step dir name = dir ++ [name] := by
  obtain ⟨-, hdot, hdots, -⟩ := is_file_name_iff.mp hname
  rw [step, if_neg hdot, if_neg hdots]

end Paths

inductive Entry where
  | file
  | directory
  deriving DecidableEq

/-- The files and directories by their place. What they are in is a directory, and their
names are names of files. -/
structure FileSystem where
  entries : HashMap (List String) Entry
  named : ∀ place ∈ entries, ∀ name ∈ place, is_file_name name = true
  closed : ∀ dir name, dir ++ [name] ∈ entries → dir = [] ∨ entries.lookup dir = some .directory

theorem no_file_named : ∀ place ∈ (∅ : HashMap (List String) Entry), ∀ name ∈ place,
    is_file_name name = true :=
  fun place hplace => absurd hplace (AList.notMem_empty place)

theorem no_file_inside : ∀ dir name, dir ++ [name] ∈ (∅ : HashMap (List String) Entry) →
    dir = [] ∨ (∅ : HashMap (List String) Entry).lookup dir = some .directory :=
  fun dir name hinside => absurd hinside (AList.notMem_empty (dir ++ [name]))

namespace FileSystem

variable (fs : FileSystem)

def is_dir (place : List String) : Bool :=
  place = [] || fs.entries.lookup place = some .directory

theorem is_dir_iff {place : List String} :
    fs.is_dir place = true ↔ place = [] ∨ fs.entries.lookup place = some .directory := by
  rw [is_dir, Bool.or_eq_true, decide_eq_true_eq, decide_eq_true_eq]

def path_exists (place : List String) : Bool :=
  place = [] || (fs.entries.lookup place).isSome

/-- A new file or directory. -/
def add (dir : List String) (name : String) (entry : Entry) (hname : is_file_name name = true)
    (hdir : fs.is_dir dir = true) (hnew : fs.entries.lookup (dir ++ [name]) = none) : FileSystem where
  entries := fs.entries.insert (dir ++ [name]) entry
  named place hplace part hpart := by
    rcases (AList.mem_insert _).mp hplace with rfl | hold
    · rcases List.mem_append.mp hpart with hmem | hmem
      · rcases fs.is_dir_iff.mp hdir with rfl | hlookup
        · cases hmem
        · exact fs.named dir (AList.lookup_isSome.mp (hlookup ▸ rfl)) part hmem
      · rw [List.mem_singleton.mp hmem]
        exact hname
    · exact fs.named place hold part hpart
  closed parent part hpart := by
    have hparent : parent = [] ∨ fs.entries.lookup parent = some .directory := by
      rcases (AList.mem_insert _).mp hpart with heq | hold
      · rw [(List.append_inj' heq rfl).1]
        exact fs.is_dir_iff.mp hdir
      · exact fs.closed parent part hold
    refine hparent.imp id fun hlookup => ?_
    rw [AList.lookup_insert_ne, hlookup]
    rintro rfl
    cases hlookup.symm.trans hnew

/-- `mkdir`, which is content with a directory that is there. -/
def create_dir (dir : List String) (name : String) : Option FileSystem :=
  if h : is_file_name name = true ∧ fs.is_dir dir = true then
    match hlookup : fs.entries.lookup (dir ++ [name]) with
    | some .directory => some fs
    | some .file => none
    | none => some (fs.add dir name .directory h.1 h.2 hlookup)
  else none

/-- Opens a file, which is created if it is not there. -/
def open_file (dir : List String) (name : String) : Option FileSystem :=
  if h : is_file_name name = true ∧ fs.is_dir dir = true then
    match hlookup : fs.entries.lookup (dir ++ [name]) with
    | some .file => some fs
    | some .directory => none
    | none => some (fs.add dir name .file h.1 h.2 hlookup)
  else none

/-- The names in a directory, in the order of the entries. -/
def read_dir (dir : List String) : List String :=
  if fs.is_dir dir then
    fs.entries.keys.filterMap fun place => if place.dropLast = dir then place.getLast? else none
  else []

def remove_file (place : List String) : FileSystem :=
  if hfile : fs.entries.lookup place = some .file then {
    entries := fs.entries.erase place
    named := fun other hother => fs.named other (AList.mem_erase.mp hother).2
    closed := fun dir name hname => by
      refine (fs.closed dir name (AList.mem_erase.mp hname).2).imp id fun hlookup => ?_
      rw [AList.lookup_erase_ne, hlookup]
      rintro rfl
      cases hlookup.symm.trans hfile }
  else fs

end FileSystem

/-- Creates the directories that a path passes through, as far as they are missing. -/
def FileSystem.create_dir_all (fs : FileSystem) (dir : List String) : List String → Option FileSystem
  | [] => some fs
  | name :: names =>
    if name = "." then fs.create_dir_all dir names
    else if name = ".." then fs.create_dir_all dir.dropLast names
    else (fs.create_dir dir name).bind fun fs => fs.create_dir_all (dir ++ [name]) names

/-- The directories that a path passes through are there. -/
def FileSystem.passes (fs : FileSystem) (dir : List String) : List String → Bool
  | [] => fs.is_dir dir
  | name :: names => fs.is_dir dir && fs.passes (step dir name) names

namespace FileSystem

variable {fs fs' : FileSystem} {dir : List String} {name : String}

theorem mem_read_dir : name ∈ fs.read_dir dir ↔ dir ++ [name] ∈ fs.entries := by
  have hmem : ∀ place : List String, place ∈ fs.entries.keys ∧
      (if place.dropLast = dir then place.getLast? else none) = some name ↔
        place = dir ++ [name] ∧ dir ++ [name] ∈ fs.entries := by
    intro place
    rw [← AList.mem_keys]
    constructor
    · rintro ⟨hplace, hin⟩
      obtain ⟨rfl, hlast⟩ := Option.ite_none_right_eq_some.mp hin
      have heq : place = place.dropLast ++ [name] := (List.dropLast_append_getLast? name hlast).symm
      exact ⟨heq, heq ▸ hplace⟩
    · rintro ⟨rfl, hplace⟩
      exact ⟨hplace, by rw [List.dropLast_concat, if_pos rfl, List.getLast?_concat]⟩
  rw [read_dir]
  split
  · rw [List.mem_filterMap]
    constructor
    · rintro ⟨place, hplace⟩
      exact ((hmem place).mp hplace).2
    · intro hplace
      exact ⟨_, (hmem _).mpr ⟨rfl, hplace⟩⟩
  · next hdir =>
    refine iff_of_false List.not_mem_nil fun hplace => hdir ?_
    exact fs.is_dir_iff.mpr (fs.closed dir name hplace)

theorem lookup_remove_file {place other : List String} (hne : other ≠ place) :
    (fs.remove_file place).entries.lookup other = fs.entries.lookup other := by
  rw [remove_file]
  split
  · exact AList.lookup_erase_ne hne
  · rfl

/-- Everything that was there still is, and what is new is of a certain kind. -/
structure Grown (fs fs' : FileSystem) (new : List String → Prop) : Prop where
  kept : ∀ place entry, fs.entries.lookup place = some entry → fs'.entries.lookup place = some entry
  only : ∀ place ∈ fs'.entries, place ∈ fs.entries ∨ new place

theorem Grown.refl (fs : FileSystem) (new : List String → Prop) : Grown fs fs new :=
  ⟨fun _ _ h => h, fun _ h => Or.inl h⟩

theorem Grown.trans {fs'' : FileSystem} {new new' : List String → Prop} (h : Grown fs fs' new)
    (h' : Grown fs' fs'' new') : Grown fs fs'' fun place => new place ∨ new' place where
  kept place entry hlookup := h'.kept place entry (h.kept place entry hlookup)
  only place hplace := by
    rcases h'.only place hplace with hplace | hnew
    · exact (h.only place hplace).imp id Or.inl
    · exact Or.inr (Or.inr hnew)

theorem Grown.mono {new new' : List String → Prop} (h : Grown fs fs' new) (himp : ∀ place, new place → new' place) :
    Grown fs fs' new' :=
  ⟨h.kept, fun place hplace => (h.only place hplace).imp id (himp place)⟩

theorem Grown.is_dir {new : List String → Prop} (h : Grown fs fs' new) (hdir : fs.is_dir dir = true) :
    fs'.is_dir dir = true :=
  fs'.is_dir_iff.mpr ((fs.is_dir_iff.mp hdir).imp id (h.kept dir .directory))

theorem grown_add {entry : Entry} (hname : is_file_name name = true) (hdir : fs.is_dir dir = true)
    (hnew : fs.entries.lookup (dir ++ [name]) = none) :
    Grown fs (fs.add dir name entry hname hdir hnew) (· = dir ++ [name]) where
  kept place entry hlookup := by
    rw [add, AList.lookup_insert_ne, hlookup]
    rintro rfl
    cases hlookup.symm.trans hnew
  only place hplace := ((AList.mem_insert _).mp hplace).symm

theorem grown_create_dir (h : fs.create_dir dir name = some fs') : Grown fs fs' (· = dir ++ [name]) := by
  unfold create_dir at h
  split at h
  · split at h
    · cases h
      exact .refl _ _
    · cases h
    · cases h
      exact grown_add ..
  · cases h

theorem grown_open_file (h : fs.open_file dir name = some fs') :
    Grown fs fs' (· = dir ++ [name]) ∧ fs'.entries.lookup (dir ++ [name]) = some .file := by
  unfold open_file at h
  split at h
  · split at h
    · next hlookup =>
      cases h
      exact ⟨.refl _ _, hlookup⟩
    · cases h
    · cases h
      exact ⟨grown_add .., AList.lookup_insert _⟩
  · cases h

/-- The directories that are created lie no deeper than the path goes. -/
theorem grown_create_dir_all {names : List String} : ∀ {fs dir}, create_dir_all fs dir names = some fs' →
    Grown fs fs' fun place => place.length ≤ dir.length + names.length := by
  induction names with
  | nil =>
    intro fs dir h
    cases h
    exact .refl _ _
  | cons name names ih =>
    intro fs dir h
    rw [create_dir_all] at h
    rw [List.length_cons]
    split at h
    · exact (ih h).mono fun place hplace => by omega
    · split at h
      · refine (ih h).mono fun place hplace => ?_
        rw [List.length_dropLast] at hplace
        omega
      · obtain ⟨created, hcreated, hrest⟩ := Option.bind_eq_some_iff.mp h
        refine ((grown_create_dir hcreated).trans (ih hrest)).mono fun place hplace => ?_
        rcases hplace with rfl | hplace
        · rw [List.length_append, List.length_singleton]
          omega
        · rw [List.length_append, List.length_singleton] at hplace
          omega

/-- Where the directories of one system are directories of another one, the same paths pass. -/
theorem passes_mono (h : ∀ dir, fs.is_dir dir = true → fs'.is_dir dir = true) {names : List String} :
    ∀ {dir}, fs.passes dir names = true → fs'.passes dir names = true := by
  induction names with
  | nil => exact fun {dir} hpasses => h dir hpasses
  | cons name names ih =>
    intro dir hpasses
    obtain ⟨hdir, hrest⟩ := Bool.and_eq_true_iff.mp hpasses
    exact Bool.and_eq_true_iff.mpr ⟨h dir hdir, ih hrest⟩

theorem Grown.passes {new : List String → Prop} (h : Grown fs fs' new) {names : List String} :
    ∀ {dir}, fs.passes dir names = true → fs'.passes dir names = true :=
  passes_mono fun _ => h.is_dir

theorem passes_is_dir {names : List String} (h : fs.passes dir names = true) : fs.is_dir dir = true := by
  cases names with
  | nil => exact h
  | cons name names => exact (Bool.and_eq_true_iff.mp h).1

/-- Where a path passes through directories that are there, none is created. -/
theorem create_dir_all_passes {names : List String} : ∀ {dir}, fs.passes dir names = true →
    fs.create_dir_all dir names = some fs := by
  induction names with
  | nil => exact fun _ => rfl
  | cons name names ih =>
    intro dir hpasses
    obtain ⟨hdir, hrest⟩ := Bool.and_eq_true_iff.mp hpasses
    rw [create_dir_all]
    have hnames := ih hrest
    have hstep := passes_is_dir hrest
    unfold step at hnames hstep
    split
    · next hdot => rwa [if_pos hdot] at hnames
    · next hdot =>
      rw [if_neg hdot] at hnames hstep
      split
      · next hdots => rwa [if_pos hdots] at hnames
      · next hdots =>
        rw [if_neg hdots] at hnames hstep
        have hlookup : fs.entries.lookup (dir ++ [name]) = some .directory :=
          (fs.is_dir_iff.mp hstep).resolve_left (List.append_ne_nil_of_right_ne_nil _ (List.cons_ne_nil _ _))
        have hname : is_file_name name = true :=
          fs.named _ (AList.lookup_isSome.mp (by rw [hlookup]; rfl)) name
            (List.mem_append_right _ List.mem_cons_self)
        have hcreated : fs.create_dir dir name = some fs := by
          rw [create_dir, dif_pos ⟨hname, hdir⟩]
          split
          · rfl
          · next hfile => cases hlookup.symm.trans hfile
          · next hnone => cases hlookup.symm.trans hnone
        rw [hcreated, Option.bind_some, hnames]

theorem create_dir_all_append {names rest : List String} : ∀ {fs dir}, create_dir_all fs dir (names ++ rest) =
    (create_dir_all fs dir names).bind fun fs => fs.create_dir_all (names.foldl step dir) rest := by
  induction names with
  | nil => exact fun {_ _} => rfl
  | cons name names ih =>
    intro fs dir
    rw [List.cons_append, create_dir_all, create_dir_all, List.foldl_cons, step]
    split
    · exact ih
    · split
      · exact ih
      · rw [Option.bind_assoc]
        exact congrArg _ (funext fun _ => ih)

/-- A path that climbs nowhere creates nothing beside the places that it passes through. -/
theorem grown_create_dir_all_down {names : List String} (hdown : ".." ∉ names) : ∀ {fs dir},
    create_dir_all fs dir names = some fs' →
    dir <+: names.foldl step dir ∧ Grown fs fs' (· <+: names.foldl step dir) := by
  induction names with
  | nil =>
    intro fs dir h
    cases h
    exact ⟨List.prefix_refl dir, .refl _ _⟩
  | cons name names ih =>
    intro fs dir h
    obtain ⟨hname, hnames⟩ := not_or.mp fun hmem => hdown (List.mem_cons.mpr hmem)
    rw [create_dir_all, if_neg (Ne.symm hname)] at h
    rw [List.foldl_cons, step, if_neg (Ne.symm hname)]
    split at h
    · next hdot =>
      rw [if_pos hdot]
      exact ih hnames h
    · next hdot =>
      rw [if_neg hdot]
      obtain ⟨created, hcreated, hrest⟩ := Option.bind_eq_some_iff.mp h
      obtain ⟨hbelow, hgrown⟩ := ih hnames hrest
      refine ⟨(List.prefix_append dir [name]).trans hbelow, ?_⟩
      refine ((grown_create_dir hcreated).trans hgrown).mono fun place hplace => ?_
      rcases hplace with rfl | hplace
      · exact hbelow
      · exact hplace

/-- A directory is there already, or is reached by a path that climbs nowhere. -/
def Reachable (fs : FileSystem) (dir : List String) (names : List String) : Prop :=
  fs.passes dir names = true ∨ ".." ∉ names

theorem Reachable.grown {new : List String → Prop} {names : List String} (hreachable : fs.Reachable dir names)
    (h : Grown fs fs' new) : fs'.Reachable dir names :=
  hreachable.imp h.passes id

/-- What is created below such a directory is the directory itself, as far as it is missing,
and what lies below. -/
theorem Reachable.create_dir_all {names rest : List String} (hreachable : fs.Reachable dir names)
    (h : fs.create_dir_all dir (names ++ rest) = some fs') :
    Grown fs fs' fun place => place.length ≤ (names.foldl step dir).length + rest.length := by
  rw [create_dir_all_append] at h
  rcases hreachable with hpasses | hdown
  · rw [create_dir_all_passes hpasses, Option.bind_some] at h
    exact grown_create_dir_all h
  · obtain ⟨created, hcreated, hrest⟩ := Option.bind_eq_some_iff.mp h
    have hgrown := (grown_create_dir_all_down hdown hcreated).2
    refine (hgrown.trans (grown_create_dir_all hrest)).mono fun place hplace => ?_
    rcases hplace with hplace | hplace
    · exact Nat.le_add_right_of_le hplace.length_le
    · exact hplace

end FileSystem

end files
