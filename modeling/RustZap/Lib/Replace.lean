import RustZap.Lib.Disk
import Mathlib.Data.List.DropRight

open collections

namespace files

/-- The name up to its last dot. A dot that a name starts with does not count. -/
def file_stem (name : String) : String :=
  let before := (name.toList.rdropWhile fun c => c ≠ '.').dropLast
  if before = [] then name else String.ofList before

/-- The name with another extension in the place of its own. -/
def with_extension (name extension : String) : String := file_stem name ++ "." ++ extension

namespace Disk

variable (self : Disk) (renamable : Bool) (text : String) (cwd : List String)

/-- A file gets another place, in one step, and what was there is gone. -/
def rename (source target : String) : Except String Unit × Disk :=
  if !renamable then (.error text, self)
  else match (self.find cwd source).filter fun place => (self.file place).isSome with
    | none => (.error text, self)
    | some place =>
      let moved : Disk := ⟨self.fs.remove_file place, self.contents.erase place⟩
      match (moved.find cwd target).bind moved.open_file with
      | none => (.error text, self)
      | some (place', fs) => (.ok (), ⟨fs, moved.contents.insert place' ((self.file place).getD [])⟩)

end Disk

/-- A call of the file system. -/
abbrev Call := Disk → Except String Unit × Disk

/-- Calls one after the other, until one of them fails. Whether none has failed is told as well. -/
def attempt : List Call → Disk → Bool × Disk
  | [], disk => (true, disk)
  | call :: calls, disk =>
    match call disk with
    | (.ok _, disk) => attempt calls disk
    | (.error _, disk) => (false, disk)

section Names

variable {name extension : String}

/-- An extension with a dot of its own never is the one that the name has already. -/
theorem with_extension_ne (hdot : '.' ∈ extension.toList) : with_extension name extension ≠ name := by
  intro heq
  have hchars : (file_stem name).toList ++ '.' :: extension.toList = name.toList := by
    conv_rhs => rw [← heq]
    rw [with_extension, String.toList_append, String.toList_append, List.append_assoc]
    rfl
  have hlength := congrArg List.length hchars
  rw [List.length_append, List.length_cons] at hlength
  by_cases hbefore : (name.toList.rdropWhile fun c => c ≠ '.').dropLast = []
  · rw [file_stem, if_pos hbefore] at hlength
    omega
  · have hstem : (file_stem name).toList = (name.toList.rdropWhile fun c => c ≠ '.').dropLast := by
      rw [file_stem, if_neg hbefore, String.toList_ofList]
    rw [hstem, List.length_dropLast] at hlength
    have hsplit : _ = name.toList.length := congrArg List.length
      (List.rdropWhile_append_rtakeWhile (p := fun c => decide (c ≠ '.')) (l := name.toList))
    rw [List.length_append] at hsplit
    have hpositive : 0 < (name.toList.rdropWhile fun c => c ≠ '.').length := by
      rw [List.length_pos_iff]
      rintro hnil
      exact hbefore (by rw [hnil]; rfl)
    -- the extension is what stands behind the last dot
    have hafter : extension.toList = name.toList.rtakeWhile fun c => c ≠ '.' := by
      have hsuffix : extension.toList <:+ name.toList := by
        rw [← hchars]
        exact (List.suffix_cons '.' _).trans (List.suffix_append _ _)
      have hsuffix' : (name.toList.rtakeWhile fun c => c ≠ '.') <:+ name.toList := List.rtakeWhile_suffix _ _
      refine (List.suffix_of_suffix_length_le hsuffix hsuffix' ?_).eq_of_length ?_
      all_goals omega
    rw [hafter] at hdot
    exact absurd (List.mem_rtakeWhile_imp hdot) (by decide)

theorem is_normal_with_extension (hname : is_normal name = true) (hslash : '/' ∉ extension.toList)
    (hlong : 2 ≤ extension.toList.length) : is_normal (with_extension name extension) = true := by
  obtain ⟨-, -, -, hname_slash⟩ := is_normal_iff.mp hname
  have hchars : (with_extension name extension).toList = (file_stem name).toList ++ '.' :: extension.toList := by
    rw [with_extension, String.toList_append, String.toList_append, List.append_assoc]
    rfl
  have hlength := congrArg List.length hchars
  rw [List.length_append, List.length_cons] at hlength
  have hshort (short : String) (hshort : short.toList.length ≤ 2) : with_extension name extension ≠ short := by
    intro heq
    rw [heq] at hlength
    omega
  refine is_normal_iff.mpr ⟨hshort "" (by decide), hshort "." (by decide), hshort ".." (by decide), ?_⟩
  rw [hchars, List.mem_append, List.mem_cons, not_or, not_or]
  refine ⟨fun hmem => hname_slash ?_, by decide, hslash⟩
  rw [file_stem] at hmem
  split at hmem
  · exact hmem
  · rw [String.toList_ofList] at hmem
    exact (List.rdropWhile_prefix _ _).subset (List.dropLast_subset _ hmem)

end Names

namespace Disk

/-- What calls that are about other files do: the directories stay, and at the place there is
afterwards what there was before. -/
structure Spares (disk disk' : Disk) (place : List String) : Prop where
  dirs : ∀ dir, disk.fs.is_dir dir = true → disk'.fs.is_dir dir = true
  file : disk'.file place = disk.file place

variable {disk disk' : Disk} {answers : Answers} {renamable : Bool} {text : String} {cwd : List String}
  {place : List String} {source target path : String} {bytes : List UInt8} {call : Call} {calls : List Call}

theorem Spares.refl (disk : Disk) (place : List String) : Spares disk disk place := ⟨fun _ hdir => hdir, rfl⟩

theorem Spares.trans {disk'' : Disk} (h : Spares disk disk' place) (h' : Spares disk' disk'' place) :
    Spares disk disk'' place :=
  ⟨fun dir hdir => h'.dirs dir (h.dirs dir hdir), h'.file.trans h.file⟩

theorem Spares.holds (h : Spares disk disk' (resolve cwd path)) (hholds : disk.Holds cwd path bytes) :
    disk'.Holds cwd path bytes :=
  ⟨FileSystem.passes_mono h.dirs hholds.passes, h.file.trans hholds.file⟩

/-- What an operation keeps is spared if nothing appears at the place. -/
theorem Keeps.spares (h : Keeps disk disk' place)
    (hnew : disk.file place = none → disk'.file place = none) : Spares disk disk' place where
  dirs := h.dirs
  file := by
    cases hfile : disk.file place with
    | none => exact hnew hfile
    | some bytes => exact h.file bytes hfile

theorem file_eq_none_iff : disk.file place = none ↔ disk.fs.entries.lookup place ≠ some .file := by
  rw [file, ite_eq_right_iff]
  exact ⟨fun h hentry => Option.some_ne_none _ (h hentry), fun h hentry => absurd hentry h⟩

end Disk

namespace FileSystem

/-- Directories are all that is created for a path. -/
theorem lookup_create_dir_all_file {place : List String} {names : List String} : ∀ {fs fs' dir},
    create_dir_all fs dir names = some fs' → fs'.entries.lookup place = some .file →
    fs.entries.lookup place = some .file := by
  induction names with
  | nil =>
    intro fs fs' dir h hfile
    cases h
    exact hfile
  | cons name names ih =>
    intro fs fs' dir h hfile
    rw [create_dir_all] at h
    split at h
    · exact ih h hfile
    · split at h
      · exact ih h hfile
      · obtain ⟨created, hcreated, hrest⟩ := Option.bind_eq_some_iff.mp h
        have hfile := ih hrest hfile
        unfold create_dir at hcreated
        split at hcreated
        · split at hcreated
          · cases hcreated
            exact hfile
          · cases hcreated
          · cases hcreated
            rw [add] at hfile
            by_cases hplace : place = dir ++ [name]
            · rw [hplace, AList.lookup_insert] at hfile
              cases hfile
            · rwa [AList.lookup_insert_ne hplace] at hfile
        · cases hcreated

end FileSystem

namespace Disk

variable {disk disk' : Disk} {answers : Answers} {renamable : Bool} {text : String} {cwd : List String}
  {place : List String} {source target path : String} {bytes : List UInt8} {call : Call} {calls : List Call}

theorem spares_create_dir_all (dir names : List String) :
    Spares disk (disk.create_dir_all answers dir names).2 place := by
  refine (keeps_create_dir_all dir names place).spares fun hnone => ?_
  have hnew {names : List String} {fs : FileSystem} (hfs : disk.fs.create_dir_all dir names = some fs) :
      file ⟨fs, disk.contents⟩ place = none :=
    file_eq_none_iff.mpr fun hfile =>
      file_eq_none_iff.mp hnone (FileSystem.lookup_create_dir_all_file hfs hfile)
  rw [create_dir_all]
  split
  · next made _ =>
    cases hfs : disk.fs.create_dir_all dir (names.take made) with
    | none => exact hnone
    | some fs => exact hnew hfs
  · split
    · next fs hfs => exact hnew hfs
    · exact hnone

theorem spares_write (hother : place ≠ resolve cwd path) :
    Spares disk (disk.write answers cwd path bytes).2 place := by
  refine (keeps_write hother).spares fun hnone => ?_
  rw [write]
  split
  · exact hnone
  · split
    · exact hnone
    · next opened fs hopen =>
      obtain ⟨rfl, -, hgrown, -⟩ := opened_of_find hopen
      -- the only entry that is new is the one that is written
      have hentry : fs.entries.lookup place ≠ some .file := by
        intro hfile
        rcases hgrown.only place (AList.lookup_isSome.mp (hfile ▸ rfl)) with hold | hplace
        · obtain ⟨entry, hlookup⟩ := Option.isSome_iff_exists.mp (AList.lookup_isSome.mpr hold)
          have heq := (hgrown.kept place entry hlookup).symm.trans hfile
          exact file_eq_none_iff.mp hnone (hlookup.trans heq)
        · exact hother hplace
      split
      · exact file_eq_none_iff.mpr hentry
      · exact file_eq_none_iff.mpr hentry

/-- After a rename the file is under the new path. -/
theorem holds_rename (hsource : disk.Holds cwd source bytes)
    (h : disk.rename renamable text cwd source target = (.ok (), disk')) : disk'.Holds cwd target bytes := by
  rw [rename] at h
  split at h
  · cases h
  · split at h
    · cases h
    · next place hfound =>
      obtain ⟨hfind, -⟩ := Option.filter_eq_some_iff.mp hfound
      obtain ⟨-, rfl⟩ := find_eq_some_iff.mp hfind
      dsimp only at h
      split at h
      · cases h
      · next place' fs hopen =>
        obtain ⟨rfl, hpasses, hgrown, hentry⟩ := opened_of_find hopen
        cases h
        refine ⟨hgrown.passes hpasses, file_eq_some_iff.mpr ⟨hentry, ?_⟩⟩
        dsimp only
        rw [AList.lookup_insert, Option.getD_some, hsource.file, Option.getD_some]

/-- A rename that fails changes nothing. -/
theorem rename_error {err : String} (h : disk.rename renamable text cwd source target = (.error err, disk')) :
    disk' = disk := by
  rw [rename] at h
  split at h
  · cases h
    rfl
  · split at h
    · cases h
      rfl
    · dsimp only at h
      split at h
      · cases h
        rfl
      · cases h

theorem remove_file_error {err : String} (h : disk.remove_file answers cwd path = (.error err, disk')) :
    disk' = disk := by
  rw [remove_file] at h
  split at h
  · cases h
    rfl
  · split at h
    · cases h
      rfl
    · cases h

/-- What every one of the calls spares, they spare together. -/
theorem spares_attempt (hcalls : ∀ call ∈ calls, ∀ disk : Disk, Spares disk (call disk).2 place) :
    ∀ disk, Spares disk (attempt calls disk).2 place := by
  induction calls with
  | nil => exact fun disk => .refl disk place
  | cons call calls ih =>
    intro disk
    obtain ⟨hcall, hrest⟩ := List.forall_mem_cons.mp hcalls
    have hfirst := hcall disk
    rw [attempt]
    split
    · next heq =>
      rw [heq] at hfirst
      exact hfirst.trans (ih hrest _)
    · next heq =>
      rw [heq] at hfirst
      exact hfirst

theorem attempt_concat_true (h : attempt (calls ++ [call]) disk = (true, disk')) :
    ∃ between, attempt calls disk = (true, between) ∧ call between = (.ok (), disk') := by
  induction calls generalizing disk with
  | nil =>
    rw [List.nil_append, attempt] at h
    split at h
    · next heq =>
      cases h
      exact ⟨disk, rfl, heq⟩
    · cases h
  | cons first calls ih =>
    rw [List.cons_append, attempt] at h
    split at h
    · next heq =>
      obtain ⟨between, hbetween, hcall⟩ := ih h
      refine ⟨between, ?_, hcall⟩
      rw [attempt, heq]
      exact hbetween
    · cases h

/-- Where the last call spares a file if it fails, and the others do so anyway, the calls that
fail have spared it. -/
theorem attempt_concat_false (hcalls : ∀ call ∈ calls, ∀ disk : Disk, Spares disk (call disk).2 place)
    (hlast : ∀ {disk disk' err}, call disk = (.error err, disk') → Spares disk disk' place)
    (h : attempt (calls ++ [call]) disk = (false, disk')) : Spares disk disk' place := by
  induction calls generalizing disk with
  | nil =>
    rw [List.nil_append, attempt] at h
    split at h
    · cases h
    · next heq =>
      cases h
      exact hlast heq
  | cons first calls ih =>
    obtain ⟨hfirst, hrest⟩ := List.forall_mem_cons.mp hcalls
    have hspared := hfirst disk
    rw [List.cons_append, attempt] at h
    split at h
    · next heq =>
      rw [heq] at hspared
      exact hspared.trans (ih hrest h)
    · next heq =>
      rw [heq] at hspared
      cases h
      exact hspared

end Disk

end files
