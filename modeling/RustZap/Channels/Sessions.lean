import RustZap.Channels.Manager
import RustZap.Lib.Files
import RustZap.State.Dispatch
import RustZap.State.Operations
import RustZap.State.Snapshot

open collections files
open rustzap.whatsapp

namespace rustzap.whatsapp

section Paths

variable {component : String} (hrelative : is_absolute component = false)
include hrelative

/-- A relative component is appended behind a separator, of which there is one more where
the base ends with one, and none where it is empty. -/
theorem join_path_cases (base : String) :
    base = "" ∧ join_path base component = component ∨
      base ≠ "" ∧ ((∃ dir, base = dir ++ "/" ∧ join_path base component = base ++ component) ∨
        join_path base component = base ++ "/" ++ component) := by
  have hnot : ¬ str.starts_with component "/" = true := Bool.eq_false_iff.mp hrelative
  rw [join_path, if_neg hnot]
  by_cases hempty : base = ""
  · subst hempty
    exact Or.inl ⟨rfl, String.empty_append⟩
  · refine Or.inr ⟨hempty, ?_⟩
    rw [decide_eq_false hempty, Bool.false_or]
    split
    · next hends =>
      rw [str.ends_with, List.isSuffixOf_iff_suffix] at hends
      obtain ⟨dir, hdir⟩ := hends
      refine Or.inl ⟨String.ofList dir, ?_, rfl⟩
      rw [← String.toList_inj, String.toList_append, String.toList_ofList, hdir]
    · exact Or.inr rfl

theorem parts_join_path (base : String) : parts (join_path base component) = parts base ++ parts component := by
  rcases join_path_cases hrelative base with ⟨rfl, hjoin⟩ | ⟨-, ⟨dir, rfl, hjoin⟩ | hjoin⟩
  · rw [hjoin, parts_empty, List.nil_append]
  · have hdir : parts (dir ++ "/") = parts dir ++ parts "" := by
      rw [← parts_append, String.append_empty]
    rw [hjoin, parts_append, hdir, parts_empty, List.append_nil]
  · rw [hjoin, parts_append]

theorem start_join_path (cwd : List String) (base : String) :
    start cwd (join_path base component) = start cwd base := by
  rcases join_path_cases hrelative base with ⟨rfl, hjoin⟩ | ⟨hne, ⟨dir, -, hjoin⟩ | hjoin⟩
  · rw [start, start, hjoin, hrelative]
    rfl
  · rw [hjoin, start_append cwd hne]
  · rw [hjoin, String.append_assoc, start_append cwd hne]

theorem join_path_append (base : String) (hne : component ≠ "") (suffix : String) :
    join_path base component ++ suffix = join_path base (component ++ suffix) := by
  have hnot : ¬ str.starts_with component "/" = true := Bool.eq_false_iff.mp hrelative
  have hnot' : ¬ str.starts_with (component ++ suffix) "/" = true := by
    rw [← is_absolute, is_absolute_append hne]
    exact hnot
  rw [join_path, join_path, if_neg hnot, if_neg hnot']
  split
  · exact String.append_assoc
  · exact String.append_assoc

theorem resolve_join_path (cwd : List String) (base : String) :
    resolve cwd (join_path base component) = (parts component).foldl step (resolve cwd base) := by
  rw [resolve, start_join_path hrelative, parts_join_path hrelative, List.foldl_append, resolve]

end Paths

/-- The ids of a channel can be names of directories. -/
def ChannelRuntime.Plain (runtime : ChannelRuntime) : Prop :=
  is_file_name runtime.project_id = true ∧ is_file_name runtime.company_id = true ∧
    is_file_name runtime.channel_id = true

instance (runtime : ChannelRuntime) : Decidable runtime.Plain :=
  inferInstanceAs (Decidable (_ ∧ _ ∧ _))

/-- Where the session of a channel with such ids is, below the base directory. -/
def ChannelRuntime.place (runtime : ChannelRuntime) : List String :=
  [runtime.project_id, runtime.company_id, runtime.channel_id, "session.sqlite"]

theorem session_sqlite_path_parts {runtime : ChannelRuntime} (hplain : runtime.Plain) (base_dir : String) :
    parts (session_sqlite_path base_dir runtime) = parts base_dir ++ runtime.place := by
  obtain ⟨hproject, hcompany, hchannel⟩ := hplain
  have hname : ∀ {name : String}, is_file_name name = true → ∀ base,
      parts (join_path base name) = parts base ++ [name] := by
    intro name hname base
    obtain ⟨hempty, -, -, hslash, -⟩ := is_file_name_iff.mp hname
    rw [parts_join_path (is_absolute_of_not_mem hslash), parts_of_not_mem hempty hslash]
  rw [session_sqlite_path, hname (by decide), hname hchannel, hname hcompany, hname hproject]
  simp only [List.append_assoc, List.cons_append, List.nil_append, ChannelRuntime.place]

end rustzap.whatsapp

namespace rustzap.state

/-- The session files that a start of the service finds. -/
def discover_session_channels (cwd : List String) (fs : FileSystem) (base : String) : List ChannelRuntime :=
  (fs.read_dir (resolve cwd base)).flatMap fun project_id =>
    let project_path := join_path base project_id
    if !fs.is_dir (resolve cwd project_path) then []
    else (fs.read_dir (resolve cwd project_path)).flatMap fun company_id =>
      let company_path := join_path project_path company_id
      if !fs.is_dir (resolve cwd company_path) then []
      else (fs.read_dir (resolve cwd company_path)).filterMap fun channel_id =>
        if fs.path_exists (resolve cwd (join_path (join_path company_path channel_id) "session.sqlite")) then
          some { project_id, company_id, channel_id }
        else none

/-- The start of a channel creates the directory of its session, and opens the file. -/
def open_session_file (cwd : List String) (fs : FileSystem) (session_path : String) : Option FileSystem :=
  let parent := (parts session_path).dropLast
  (fs.create_dir_all (start cwd session_path) parent).bind fun fs =>
    (parts session_path).getLast?.bind fun name =>
      fs.open_file (parent.foldl step (start cwd session_path)) name

/-- The sessions of several channels, one after the other. -/
def open_session_files (cwd : List String) (base : String) (fs : FileSystem) (runtimes : List ChannelRuntime) :
    Option FileSystem :=
  runtimes.foldlM (fun fs runtime => open_session_file cwd fs (session_sqlite_path base runtime)) fs

/-- What `wipe_session_files` does to the file system: the sidecar files go with the session. -/
def remove_session_files (cwd : List String) (fs : FileSystem) (session_path : String) : FileSystem :=
  ["", "-shm", "-wal"].foldl (fun fs suffix => fs.remove_file (resolve cwd (session_path ++ suffix))) fs

/-- The sessions of the channels are separate: each is inside the base directory, at a place
of its own, a start finds all of them and no others, and a wipe leaves the others. -/
structure SessionsSeparate (cwd : List String) (base : String) (fs : FileSystem)
    (runtimes : List ChannelRuntime) : Prop where
  inside : ∀ runtime ∈ runtimes, resolve cwd base <+: resolve cwd (session_sqlite_path base runtime)
  distinct : ∀ runtime ∈ runtimes, ∀ other ∈ runtimes,
    resolve cwd (session_sqlite_path base runtime) = resolve cwd (session_sqlite_path base other) → runtime = other
  discovered : ∀ runtime, runtime ∈ discover_session_channels cwd fs base ↔ runtime ∈ runtimes
  spared : ∀ runtime ∈ runtimes, ∀ other ∈ runtimes, runtime ≠ other →
    (remove_session_files cwd fs (session_sqlite_path base runtime)).entries.lookup
      (resolve cwd (session_sqlite_path base other)) = some .file

section Sessions

variable {cwd : List String} {base : String} {fs fs' : FileSystem}

theorem resolve_join_name {path name : String} (hname : is_file_name name = true) :
    resolve cwd (join_path path name) = resolve cwd path ++ [name] := by
  obtain ⟨hempty, -, -, hslash, -⟩ := is_file_name_iff.mp hname
  rw [resolve_join_path (is_absolute_of_not_mem hslash), parts_of_not_mem hempty hslash, List.foldl_cons,
    List.foldl_nil, step_of_is_file_name _ hname]

theorem resolve_session {runtime : ChannelRuntime} (hplain : runtime.Plain) :
    resolve cwd (session_sqlite_path base runtime) = resolve cwd base ++ runtime.place := by
  rw [session_sqlite_path, resolve_join_name (by decide), resolve_join_name hplain.2.2,
    resolve_join_name hplain.2.1, resolve_join_name hplain.1]
  simp only [List.append_assoc, List.cons_append, List.nil_append, ChannelRuntime.place]

theorem is_file_name_of_mem {dir : List String} {name : String} (hmem : dir ++ [name] ∈ fs.entries) :
    is_file_name name = true :=
  fs.named _ hmem name (List.mem_append_right _ List.mem_cons_self)

theorem parent_is_dir {dir : List String} {name : String} (hmem : dir ++ [name] ∈ fs.entries) :
    fs.is_dir dir = true :=
  fs.is_dir_iff.mpr (fs.closed dir name hmem)

theorem parent_mem {dir : List String} {parent name : String} (hmem : dir ++ [parent] ++ [name] ∈ fs.entries) :
    dir ++ [parent] ∈ fs.entries := by
  rcases fs.closed _ _ hmem with hnil | hlookup
  · exact absurd hnil (List.append_ne_nil_of_right_ne_nil _ (List.cons_ne_nil _ _))
  · exact AList.lookup_isSome.mp (by rw [hlookup]; rfl)

theorem place_eq (runtime : ChannelRuntime) : resolve cwd base ++ runtime.place =
    resolve cwd base ++ [runtime.project_id] ++ [runtime.company_id] ++ [runtime.channel_id] ++
      ["session.sqlite"] := by
  simp only [List.append_assoc, List.cons_append, List.nil_append, ChannelRuntime.place]

/-- A start finds the channels that have an entry where a session should be. -/
theorem mem_discover_iff {runtime : ChannelRuntime} : runtime ∈ discover_session_channels cwd fs base ↔
    resolve cwd base ++ runtime.place ∈ fs.entries := by
  have hsession : is_file_name "session.sqlite" = true := by decide
  rw [place_eq, discover_session_channels, List.mem_flatMap]
  constructor
  · rintro ⟨project_id, hproject, hruntime⟩
    have hproject_name := is_file_name_of_mem (FileSystem.mem_read_dir.mp hproject)
    dsimp only at hruntime
    split at hruntime
    · cases hruntime
    · obtain ⟨company_id, hcompany, hruntime⟩ := List.mem_flatMap.mp hruntime
      have hcompany_name := is_file_name_of_mem (FileSystem.mem_read_dir.mp hcompany)
      split at hruntime
      · cases hruntime
      · obtain ⟨channel_id, hchannel, hfound⟩ := List.mem_filterMap.mp hruntime
        have hchannel_name := is_file_name_of_mem (FileSystem.mem_read_dir.mp hchannel)
        obtain ⟨hexists, hruntime⟩ := Option.ite_none_right_eq_some.mp hfound
        cases hruntime
        rw [resolve_join_name hsession, resolve_join_name hchannel_name, resolve_join_name hcompany_name,
          resolve_join_name hproject_name, FileSystem.path_exists, Bool.or_eq_true, decide_eq_true_eq] at hexists
        refine AList.lookup_isSome.mp (hexists.resolve_left ?_)
        exact List.append_ne_nil_of_right_ne_nil _ (List.cons_ne_nil _ _)
  · intro hmem
    have hchannel := parent_mem hmem
    have hcompany := parent_mem hchannel
    have hproject := parent_mem hcompany
    have hproject_name := is_file_name_of_mem hproject
    have hcompany_name := is_file_name_of_mem hcompany
    have hchannel_name := is_file_name_of_mem hchannel
    refine ⟨runtime.project_id, FileSystem.mem_read_dir.mpr hproject, ?_⟩
    dsimp only
    rw [resolve_join_name hproject_name, parent_is_dir hcompany, Bool.not_true,
      if_neg Bool.false_ne_true, List.mem_flatMap]
    refine ⟨runtime.company_id, FileSystem.mem_read_dir.mpr hcompany, ?_⟩
    rw [resolve_join_name hcompany_name, resolve_join_name hproject_name, parent_is_dir hchannel,
      Bool.not_true, if_neg Bool.false_ne_true, List.mem_filterMap]
    refine ⟨runtime.channel_id, FileSystem.mem_read_dir.mpr hchannel, ?_⟩
    rw [resolve_join_name hsession, resolve_join_name hchannel_name, resolve_join_name hcompany_name,
      resolve_join_name hproject_name, FileSystem.path_exists, AList.lookup_isSome.mpr hmem,
      Bool.or_true, if_pos rfl]

theorem plain_of_discovered {runtime : ChannelRuntime} (h : runtime ∈ discover_session_channels cwd fs base) :
    runtime.Plain := by
  have hmem := mem_discover_iff.mp h
  have hname : ∀ name ∈ runtime.place, is_file_name name = true :=
    fun name hname => fs.named _ hmem name (List.mem_append_right _ hname)
  exact ⟨hname _ (by simp [ChannelRuntime.place]), hname _ (by simp [ChannelRuntime.place]),
    hname _ (by simp [ChannelRuntime.place])⟩

/-- Opening the session of a channel with plain ids adds nothing as deep as a session below the
base directory but this one. -/
theorem open_session_file_grown {runtime : ChannelRuntime} (hplain : runtime.Plain)
    (hbase : fs.Reachable (start cwd base) (parts base))
    (hopened : open_session_file cwd fs (session_sqlite_path base runtime) = some fs') :
    fs.Grown fs' (fun place => place.length ≤ (resolve cwd base).length + 3 ∨
      place = resolve cwd base ++ runtime.place) ∧
      fs'.entries.lookup (resolve cwd base ++ runtime.place) = some .file := by
  have hstart : start cwd (session_sqlite_path base runtime) = start cwd base := by
    have hrelative : ∀ {name : String}, is_file_name name = true → is_absolute name = false :=
      fun hname => is_absolute_of_not_mem (is_file_name_iff.mp hname).2.2.2.1
    rw [session_sqlite_path, start_join_path (hrelative (by decide)), start_join_path (hrelative hplain.2.2),
      start_join_path (hrelative hplain.2.1), start_join_path (hrelative hplain.1)]
  have hparts : parts (session_sqlite_path base runtime) =
      parts base ++ [runtime.project_id, runtime.company_id, runtime.channel_id] ++ ["session.sqlite"] := by
    rw [session_sqlite_path_parts hplain, ChannelRuntime.place, List.append_assoc]
    rfl
  rw [open_session_file, hstart, hparts] at hopened
  rw [List.dropLast_concat, List.getLast?_concat] at hopened
  obtain ⟨created, hcreated, hfile⟩ := Option.bind_eq_some_iff.mp hopened
  rw [Option.bind_some, List.foldl_append] at hfile
  have hdir : [runtime.project_id, runtime.company_id, runtime.channel_id].foldl step
      ((parts base).foldl step (start cwd base)) =
        resolve cwd base ++ [runtime.project_id] ++ [runtime.company_id] ++ [runtime.channel_id] := by
    rw [List.foldl_cons, List.foldl_cons, List.foldl_cons, List.foldl_nil, step_of_is_file_name _ hplain.1,
      step_of_is_file_name _ hplain.2.1, step_of_is_file_name _ hplain.2.2, resolve]
  rw [hdir] at hfile
  obtain ⟨hgrown, hlookup⟩ := FileSystem.grown_open_file hfile
  rw [← place_eq] at hlookup hgrown
  exact ⟨(hbase.create_dir_all hcreated).trans hgrown, hlookup⟩

/-- So it is of the sessions of several channels. -/
theorem open_session_files_grown {runtimes : List ChannelRuntime} (hplain : ∀ runtime ∈ runtimes, runtime.Plain) :
    ∀ {fs}, fs.Reachable (start cwd base) (parts base) → open_session_files cwd base fs runtimes = some fs' →
      fs.Grown fs' (fun place => place.length ≤ (resolve cwd base).length + 3 ∨
        ∃ runtime ∈ runtimes, place = resolve cwd base ++ runtime.place) ∧
      ∀ runtime ∈ runtimes, fs'.entries.lookup (resolve cwd base ++ runtime.place) = some .file := by
  induction runtimes with
  | nil =>
    intro fs hbase h
    cases h
    exact ⟨.refl _ _, fun _ hmem => absurd hmem List.not_mem_nil⟩
  | cons runtime runtimes ih =>
    intro fs hbase h
    rw [open_session_files, List.foldlM_cons] at h
    obtain ⟨opened, hopened, hrest⟩ := Option.bind_eq_some_iff.mp h
    obtain ⟨hone, hfile⟩ := open_session_file_grown (hplain runtime List.mem_cons_self) hbase hopened
    obtain ⟨hmany, hfiles⟩ := ih (fun other hother => hplain other (List.mem_cons_of_mem _ hother))
      (hbase.grown hone) hrest
    constructor
    · refine (hone.trans hmany).mono fun place hplace => ?_
      rcases hplace with (hlength | hplace) | (hlength | ⟨other, hother, hplace⟩)
      · exact Or.inl hlength
      · exact Or.inr ⟨runtime, List.mem_cons_self, hplace⟩
      · exact Or.inl hlength
      · exact Or.inr ⟨other, List.mem_cons_of_mem _ hother, hplace⟩
    · intro other hother
      rcases List.mem_cons.mp hother with rfl | hother
      · exact hmany.kept _ _ hfile
      · exact hfiles other hother

theorem place_inj {runtime other : ChannelRuntime}
    (h : resolve cwd base ++ runtime.place = resolve cwd base ++ other.place) : runtime = other := by
  obtain ⟨project_id, company_id, channel_id⟩ := runtime
  cases List.append_cancel_left h
  rfl

/-- A sidecar file lies beside the session that it belongs to. -/
theorem resolve_sidecar {runtime : ChannelRuntime} (hplain : runtime.Plain) {suffix : String}
    (hname : is_file_name ("session.sqlite" ++ suffix) = true) :
    resolve cwd (session_sqlite_path base runtime ++ suffix) = resolve cwd base ++ [runtime.project_id] ++
      [runtime.company_id] ++ [runtime.channel_id] ++ ["session.sqlite" ++ suffix] := by
  rw [session_sqlite_path, join_path_append (by decide) _ (by decide), resolve_join_name hname,
    resolve_join_name hplain.2.2, resolve_join_name hplain.2.1, resolve_join_name hplain.1]

theorem lookup_remove_session_files {runtime other : ChannelRuntime} (hplain : runtime.Plain)
    (hne : runtime ≠ other) :
    (remove_session_files cwd fs (session_sqlite_path base runtime)).entries.lookup
        (resolve cwd base ++ other.place) =
      fs.entries.lookup (resolve cwd base ++ other.place) := by
  have hother : ∀ suffix ∈ ["", "-shm", "-wal"], ∀ fs : FileSystem,
      (fs.remove_file (resolve cwd (session_sqlite_path base runtime ++ suffix))).entries.lookup
        (resolve cwd base ++ other.place) = fs.entries.lookup (resolve cwd base ++ other.place) := by
    intro suffix hsuffix fs
    refine FileSystem.lookup_remove_file fun heq => hne ?_
    have hname : is_file_name ("session.sqlite" ++ suffix) = true := by
      clear heq
      revert suffix
      decide
    rw [resolve_sidecar hplain hname, place_eq] at heq
    obtain ⟨hdirs, -⟩ := List.append_inj' heq rfl
    refine @place_inj cwd base _ _ ?_
    rw [place_eq, place_eq, hdirs]
  rw [remove_session_files, List.foldl_cons, List.foldl_cons, List.foldl_cons, List.foldl_nil,
    hother "-wal" (by simp), hother "-shm" (by simp), hother "" (by simp)]

/-- In a base directory without sessions, the sessions of any channels are separate if and only
if the ids of all of them can be names of directories. Nothing checks that of an id. -/
theorem sessions_separate_iff {runtimes : List ChannelRuntime} (hbase : fs.Reachable (start cwd base) (parts base))
    (hempty : discover_session_channels cwd fs base = [])
    (hopened : open_session_files cwd base fs runtimes = some fs') :
    SessionsSeparate cwd base fs' runtimes ↔ ∀ runtime ∈ runtimes, runtime.Plain := by
  constructor
  · intro hseparate runtime hmem
    exact plain_of_discovered ((hseparate.discovered runtime).mpr hmem)
  · intro hplain
    obtain ⟨hgrown, hfiles⟩ := open_session_files_grown hplain hbase hopened
    constructor
    case inside =>
      intro runtime hmem
      rw [resolve_session (hplain runtime hmem)]
      exact List.prefix_append _ _
    case distinct =>
      intro runtime hmem other hother heq
      rw [resolve_session (hplain runtime hmem), resolve_session (hplain other hother)] at heq
      exact place_inj heq
    case discovered =>
      intro runtime
      rw [mem_discover_iff]
      constructor
      · intro hentry
        rcases hgrown.only _ hentry with hold | hlength | ⟨other, hother, hplace⟩
        · have hfound := mem_discover_iff.mpr hold
          rw [hempty] at hfound
          cases hfound
        · rw [List.length_append] at hlength
          have hdepth : runtime.place.length = 4 := rfl
          omega
        · rw [place_inj hplace]
          exact hother
      · intro hmem
        exact AList.lookup_isSome.mp (by rw [hfiles runtime hmem]; rfl)
    case spared =>
      intro runtime hmem other hother hne
      rw [resolve_session (hplain other hother), lookup_remove_session_files (hplain runtime hmem) hne,
        hfiles other hother]

end Sessions

section Sample

namespace sample

/-- A file system with an empty directory for the sessions. -/
def session_files : Option FileSystem :=
  FileSystem.create_dir_all { entries := ∅, named := nofun, closed := nofun } [] ["srv", "wa_sessions"]

/-- A channel of the second company that climbs into the directory of the first. -/
def climbing : ChannelRuntime :=
  { company_b with channel_id := "../company_a/channel_a" }

/-- The store after channels with these ids were created. -/
def channels_created (runtimes : List ChannelRuntime) : Option StoreInner :=
  runtimes.foldlM (fun inner runtime =>
    match create_channel (ctx 0 "channel") inner runtime.project_id runtime.company_id (some runtime.channel_id)
      none none with
    | (.ok _, inner) => some inner
    | (.error _, _) => none) {}

/-- Whether a channel may be connected. -/
def connects_to (inner : StoreInner) (runtime : ChannelRuntime) : Bool :=
  (inner.channels.lookup runtime.channel_id).any fun channel =>
    channel_belongs_to_company channel runtime.project_id runtime.company_id

/-- The session files of two channels that were created. -/
def sessions_of (first second : ChannelRuntime) : Option FileSystem :=
  ((channels_created [first, second]).filter fun inner =>
    connects_to inner first && connects_to inner second).bind fun _ =>
    session_files.bind fun fs => open_session_files ["srv"] "wa_sessions" fs [first, second]

end sample

open sample

/-- Two channels of two companies share a session, which a reset of one of them wipes. -/
theorem climbing_channel_shares_session : ∃ fs, sessions_of company_a climbing = some fs ∧
    ¬ SessionsSeparate ["srv"] "wa_sessions" fs [company_a, climbing] := by
  obtain ⟨fs, hopened⟩ := Option.isSome_iff_exists.mp
    (show (sessions_of company_a climbing).isSome = true by decide +kernel)
  refine ⟨fs, hopened, fun hseparate => ?_⟩
  have hsame := hseparate.distinct company_a (by decide) climbing (by decide) (by decide +kernel)
  exact absurd hsame (by decide)

/-- Two channels with plain ids have a session each. -/
theorem plain_channels_separate : ∃ fs, sessions_of company_a company_b = some fs ∧
    SessionsSeparate ["srv"] "wa_sessions" fs [company_a, company_b] := by
  obtain ⟨fs, hfs⟩ := Option.isSome_iff_exists.mp
    (show (sessions_of company_a company_b).isSome = true by decide +kernel)
  obtain ⟨-, -, hsessions⟩ := Option.bind_eq_some_iff.mp hfs
  obtain ⟨empty, hempty, hopened⟩ := Option.bind_eq_some_iff.mp hsessions
  have hnone : session_files.map (discover_session_channels ["srv"] · "wa_sessions") = some [] := by decide +kernel
  rw [hempty, Option.map_some] at hnone
  exact ⟨fs, hfs, (sessions_separate_iff (Or.inr (by decide)) (Option.some.inj hnone) hopened).mpr (by decide)⟩

end Sample

end rustzap.state
