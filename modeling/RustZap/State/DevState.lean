import RustZap.Channels.Sessions
import RustZap.Lib.Replace
import RustZap.Lib.Runs

open collections files files.Disk runs
open rustzap.whatsapp

namespace rustzap.state

/-- A path that ends with a name. -/
structure FilePath where
  parent : String
  name : String
  normal : is_normal name = true

namespace FilePath

variable (self : FilePath)

def path : String := join_path self.parent self.name

/-- The path beside it with another extension. -/
def with_extension (extension : String) : String :=
  join_path self.parent (files.with_extension self.name extension)

end FilePath

/-- The service that keeps its metadata in a file, and how the file is written and read. -/
structure DevService where
  cwd : List String
  dev_state_path : FilePath
  to_vec_pretty : PersistedStore → Except String (List UInt8)
  from_slice : List UInt8 → Except String PersistedStore

/-- The file that is used where the environment names no other. -/
def default_dev_state_path (wa_session_sqlite_dir : String) : FilePath where
  parent := wa_session_sqlite_dir
  name := "dev-metadata.json"
  normal := by decide

namespace DevService

variable (self : DevService) (answers : Answers) (renamable : Bool)

def load_dev_state (disk : Disk) : Option StoreInner :=
  match disk.read answers self.cwd self.dev_state_path.path with
  | .error _ => none
  | .ok bytes =>
    match self.from_slice bytes with
    | .ok store => some store.into_inner
    | .error _ => none

/-- The store that the service starts with. The upgrade of the secrets that comes next is an
update like others. -/
def new (disk : Disk) : StoreInner := (self.load_dev_state answers disk).getD {}

/-- The directory comes first, and what cannot be serialized has got it too. -/
def persist_calls (snapshot : PersistedStore) : List Call :=
  let parent := self.dev_state_path.parent
  let tmp_path := self.dev_state_path.with_extension "json.tmp"
  let written := match self.to_vec_pretty snapshot with
    | .error err => [fun disk => (.error err, disk)]
    | .ok bytes => [
      fun disk => disk.write answers self.cwd tmp_path bytes,
      fun disk => disk.rename renamable answers.text self.cwd tmp_path self.dev_state_path.path]
  (fun disk => disk.create_dir_all answers (start self.cwd parent) (parts parent)) :: written

/-- Whether the file has been replaced is in the log only. -/
def persist_locked (inner : StoreInner) (disk : Disk) : Bool × Disk :=
  attempt (self.persist_calls answers renamable (PersistedStore.from_inner inner)) disk

end DevService

/-- The memory of the service, while it runs, and the disk. `resetting` are the resets that
have emptied the store and have not come to the file. -/
structure DevState where
  inner : Option StoreInner
  resetting : Nat
  disk : Disk

inductive DevOp where
  | update (inner : StoreInner)
  | other
  | persisted (snapshot : PersistedStore)
  | persist_failed
  | killed
  | start
  | reset_dev
  | remove_file (removed : Bool)

/-- What the file has after an operation. -/
def DevOp.kept : Option PersistedStore → DevOp → Option PersistedStore
  | _, .persisted snapshot => some snapshot
  | _, .remove_file true => none
  | kept, _ => kept

/-- The steps of the service, whatever its operations do to the store and however far the
system lets them get. A kill comes before the last call of a `persist_locked`, or while
there is none; the call before may have been cut off. `reset_dev` removes the file when it
has let go of the lock. Other files are written all the time. -/
inductive DevService.Step (self : DevService) : DevState → DevOp → DevState → Prop
  | update {state : DevState} {old : StoreInner} (inner : StoreInner) (hrunning : state.inner = some old) :
      Step self state (.update inner) { state with inner := some inner }
  | other {state : DevState} {disk : Disk}
      (hspares : Spares state.disk disk (resolve self.cwd self.dev_state_path.path)) :
      Step self state .other { state with disk }
  | persisted {state : DevState} {inner : StoreInner} {disk : Disk} (answers : Answers) (renamable : Bool)
      (hrunning : state.inner = some inner)
      (hpersist : self.persist_locked answers renamable inner state.disk = (true, disk)) :
      Step self state (.persisted (PersistedStore.from_inner inner)) { state with disk }
  | persist_failed {state : DevState} {inner : StoreInner} {disk : Disk} (answers : Answers) (renamable : Bool)
      (hrunning : state.inner = some inner)
      (hpersist : self.persist_locked answers renamable inner state.disk = (false, disk)) :
      Step self state .persist_failed { state with disk }
  | killed {state : DevState} {inner : StoreInner} (answers : Answers) (renamable : Bool) (calls : Nat)
      (hrunning : state.inner = some inner)
      (hcalls : calls < (self.persist_calls answers renamable (PersistedStore.from_inner inner)).length) :
      Step self state .killed {
        inner := none
        resetting := 0
        disk := (attempt ((self.persist_calls answers renamable
          (PersistedStore.from_inner inner)).take calls) state.disk).2 }
  | start {state : DevState} (answers : Answers) (hdown : state.inner = none) :
      Step self state .start { state with inner := some (self.new answers state.disk) }
  | reset_dev {state : DevState} {old : StoreInner} (hrunning : state.inner = some old) :
      Step self state .reset_dev { state with inner := some {}, resetting := state.resetting + 1 }
  | remove_file {state : DevState} {resetting : Nat} {result : Except String Unit} {disk : Disk}
      (answers : Answers) (hresetting : state.resetting = resetting + 1)
      (hremove : state.disk.remove_file answers self.cwd self.dev_state_path.path = (result, disk)) :
      Step self state (.remove_file result.isOk) { state with resetting, disk }

namespace DevService

/-- The file is this snapshot, from the first byte to the last, or there is none. -/
def Stored (self : DevService) (disk : Disk) : Option PersistedStore → Prop
  | none => disk.file (resolve self.cwd self.dev_state_path.path) = none
  | some snapshot => ∃ bytes, self.to_vec_pretty snapshot = .ok bytes ∧
    disk.Holds self.cwd self.dev_state_path.path bytes

variable {self : DevService} {answers : Answers} {renamable : Bool} {state state' : DevState}
  {kept : Option PersistedStore} {disk disk' : Disk}

theorem resolve_named (cwd : List String) (parent : String) {name : String} (hname : is_normal name = true) :
    resolve cwd (join_path parent name) = resolve cwd parent ++ [name] := by
  obtain ⟨hempty, -, -, hslash⟩ := is_normal_iff.mp hname
  rw [resolve_join_path (is_absolute_of_not_mem hslash), parts_of_not_mem hempty hslash, List.foldl_cons,
    step_of_is_normal _ hname, List.foldl_nil]

/-- What is written first is another file. -/
theorem tmp_path_ne (file : FilePath) (cwd : List String) :
    resolve cwd file.path ≠ resolve cwd (file.with_extension "json.tmp") := by
  rw [FilePath.path, FilePath.with_extension, resolve_named cwd _ file.normal,
    resolve_named cwd _ (is_normal_with_extension file.normal (by decide) (by decide))]
  intro heq
  exact with_extension_ne (by decide) (List.singleton_inj.mp (List.append_cancel_left heq)).symm

/-- All calls but the last leave the file alone, and so does the last if it fails. -/
theorem persist_calls_cases (snapshot : PersistedStore) : ∃ calls call,
    self.persist_calls answers renamable snapshot = calls ++ [call] ∧
    (∀ call ∈ calls, ∀ disk : Disk,
      Spares disk (call disk).2 (resolve self.cwd self.dev_state_path.path)) ∧
    (∀ {disk disk' err}, call disk = (.error err, disk') →
      Spares disk disk' (resolve self.cwd self.dev_state_path.path)) ∧
    ∀ {disk disk'}, attempt (calls ++ [call]) disk = (true, disk') →
      self.Stored disk' (some snapshot) := by
  have hcreate (dir names : List String) (disk : Disk) : Spares disk (disk.create_dir_all answers dir names).2
      (resolve self.cwd self.dev_state_path.path) := spares_create_dir_all dir names
  unfold persist_calls
  split
  · next err herr =>
    refine ⟨[_], _, rfl, List.forall_mem_singleton.mpr (hcreate _ _), ?_, ?_⟩
    · intro disk disk' err h
      cases h
      exact .refl disk _
    · intro disk disk' h
      obtain ⟨between, -, hlast⟩ := attempt_concat_true h
      cases hlast
  · next bytes hbytes =>
    refine ⟨[_, _], _, rfl, List.forall_mem_cons.mpr ⟨hcreate _ _, List.forall_mem_singleton.mpr ?_⟩, ?_, ?_⟩
    · exact fun disk => spares_write (tmp_path_ne self.dev_state_path self.cwd)
    · intro disk disk' err h
      rw [rename_error h]
      exact .refl disk _
    · intro disk disk' h
      obtain ⟨between, hwritten, hrename⟩ := attempt_concat_true h
      obtain ⟨created, -, hwrite⟩ := attempt_concat_true (show attempt ([_] ++ [_]) _ = _ from hwritten)
      exact ⟨bytes, hbytes, holds_rename (holds_write hwrite) hrename⟩

theorem Stored.spares (h : self.Stored disk kept)
    (hspares : Spares disk disk' (resolve self.cwd self.dev_state_path.path)) : self.Stored disk' kept := by
  cases kept with
  | none => exact hspares.file.trans h
  | some snapshot =>
    obtain ⟨bytes, hbytes, hholds⟩ := h
    exact ⟨bytes, hbytes, hspares.holds hholds⟩

theorem stored_persisted {snapshot : PersistedStore}
    (hpersist : attempt (self.persist_calls answers renamable snapshot) disk = (true, disk')) :
    self.Stored disk' (some snapshot) := by
  obtain ⟨calls, call, heq, -, -, hstored⟩ := persist_calls_cases snapshot
  rw [heq] at hpersist
  exact hstored hpersist

theorem spares_failed {snapshot : PersistedStore}
    (hpersist : attempt (self.persist_calls answers renamable snapshot) disk = (false, disk')) :
    Spares disk disk' (resolve self.cwd self.dev_state_path.path) := by
  obtain ⟨calls, call, heq, hcalls, hlast, -⟩ := persist_calls_cases snapshot
  rw [heq] at hpersist
  exact attempt_concat_false hcalls hlast hpersist

theorem spares_killed {snapshot : PersistedStore} {done : Nat}
    (hdone : done < (self.persist_calls answers renamable snapshot).length) (disk : Disk) :
    Spares disk (attempt ((self.persist_calls answers renamable snapshot).take done) disk).2
      (resolve self.cwd self.dev_state_path.path) := by
  obtain ⟨calls, call, heq, hcalls, -, -⟩ := persist_calls_cases snapshot
  rw [heq, List.length_append, List.length_singleton] at hdone
  rw [heq, List.take_append_of_le_length (Nat.le_of_lt_succ hdone)]
  exact spares_attempt (fun call hcall => hcalls call (List.mem_of_mem_take hcall)) disk

theorem stored_removed {result : Except String Unit} (h : self.Stored disk kept)
    (hremove : disk.remove_file answers self.cwd self.dev_state_path.path = (result, disk')) :
    self.Stored disk' (DevOp.kept kept (.remove_file result.isOk)) := by
  cases result with
  | ok done => exact file_remove_file hremove
  | error err =>
    cases remove_file_error hremove
    exact h

theorem Stored.step {op : DevOp} (h : self.Stored state.disk kept) (hstep : self.Step state op state') :
    self.Stored state'.disk (op.kept kept) := by
  cases hstep with
  | update inner hrunning => exact h
  | other hspares => exact h.spares hspares
  | persisted answers renamable hrunning hpersist => exact stored_persisted hpersist
  | persist_failed answers renamable hrunning hpersist => exact h.spares (spares_failed hpersist)
  | killed answers renamable calls hrunning hcalls => exact h.spares (spares_killed hcalls _)
  | start answers hdown => exact h
  | reset_dev hrunning => exact h
  | remove_file answers hresetting hremove => exact stored_removed h hremove

theorem Stored.run {ops : List DevOp} (h : self.Stored state.disk kept) (hrun : Run self.Step state ops state') :
    self.Stored state'.disk (ops.foldl DevOp.kept kept) := by
  induction hrun generalizing kept with
  | nil => exact h
  | cons hstep _ ih => exact ih (h.step hstep)

/-- In the run the store was persisted as this snapshot. -/
def Persisted (self : DevService) (state : DevState) (ops : List DevOp) (snapshot : PersistedStore) : Prop :=
  ∃ before after between inner, ops = before ++ .persisted snapshot :: after ∧
    Run self.Step state before between ∧ between.inner = some inner ∧ PersistedStore.from_inner inner = snapshot

theorem Persisted.cons {op : DevOp} {between : DevState} {ops : List DevOp} {snapshot : PersistedStore}
    (hstep : self.Step state op between) (h : self.Persisted between ops snapshot) :
    self.Persisted state (op :: ops) snapshot := by
  obtain ⟨before, after, reached, inner, rfl, hrun, hrunning, hsnapshot⟩ := h
  exact ⟨op :: before, after, reached, inner, rfl, .cons hstep hrun, hrunning, hsnapshot⟩

theorem persisted_of_kept {ops : List DevOp} {snapshot : PersistedStore} (hrun : Run self.Step state ops state')
    (hkept : ops.foldl DevOp.kept kept = some snapshot) :
    kept = some snapshot ∨ self.Persisted state ops snapshot := by
  induction hrun generalizing kept with
  | nil => exact Or.inl hkept
  | @cons state between _ op ops hstep hrest ih =>
    rcases ih hkept with hop | hlater
    · cases hstep with
      | @persisted inner disk answers renamable hrunning hpersist =>
        cases hop
        exact Or.inr ⟨[], ops, state, inner, rfl, .nil state, hrunning, rfl⟩
      | @remove_file resetting result disk answers hresetting hremove =>
        cases result with
        | ok done => cases hop
        | error err => exact Or.inl hop
      | _ => exact Or.inl hop
    · exact Or.inr (hlater.cons hstep)

/-- A file that is read is the snapshot, if its bytes are understood. -/
theorem Stored.load (h : self.Stored disk kept) (hreadable : answers.readable = true) :
    self.load_dev_state answers disk = kept.bind fun snapshot =>
      ((self.to_vec_pretty snapshot).toOption.bind fun bytes => (self.from_slice bytes).toOption).map
        PersistedStore.into_inner := by
  rw [load_dev_state]
  cases kept with
  | none =>
    cases hread : disk.read answers self.cwd self.dev_state_path.path with
    | error err => rfl
    | ok bytes => cases (holds_of_read hread).file.symm.trans h
  | some snapshot =>
    obtain ⟨bytes, hbytes, hholds⟩ := h
    rw [hholds.read, if_pos hreadable, Option.bind_some, hbytes]
    change (match self.from_slice bytes with
      | .ok store => some store.into_inner
      | .error _ => none) = ((self.from_slice bytes).toOption).map PersistedStore.into_inner
    cases self.from_slice bytes with
    | error err => rfl
    | ok store => rfl

/-- Whatever fails and wherever the service is killed, its file is whole: it is the snapshot
that was persisted last, of the store as it was then, or it is gone since a reset. That is
what a start reads. -/
theorem dev_state_survives {ops : List DevOp} (hstored : self.Stored state.disk kept)
    (hrun : Run self.Step state ops state') :
    self.Stored state'.disk (ops.foldl DevOp.kept kept) ∧
    (∀ snapshot, ops.foldl DevOp.kept kept = some snapshot →
      kept = some snapshot ∨ self.Persisted state ops snapshot) ∧
    ∀ answers : Answers, answers.readable = true →
      self.load_dev_state answers state'.disk = (ops.foldl DevOp.kept kept).bind fun snapshot =>
        ((self.to_vec_pretty snapshot).toOption.bind fun bytes => (self.from_slice bytes).toOption).map
          PersistedStore.into_inner :=
  have hstored' := hstored.run hrun
  ⟨hstored', fun _ hkept => persisted_of_kept hrun hkept, fun _ hreadable => hstored'.load hreadable⟩

end DevService

namespace sample

/-- What the serializer makes of the snapshot of an empty store. -/
def empty_store_json : String :=
  let maps := ["projects", "api_keys", "channels", "conversations", "messages_by_conversation", "messages_by_id",
    "contacts", "groups", "group_members", "group_profile_refreshes", "media", "transcripts", "qr", "callbacks"]
  let fields := ["projects", "companies", "api_keys", "channels", "conversations", "messages_by_conversation",
    "messages_by_id", "idempotency", "media_upload_idempotency", "dirty", "dirty_leases", "consumer_state",
    "contacts", "groups", "group_members", "group_profile_refreshes", "media", "transcripts", "qr", "events",
    "callbacks", "webhook_delivery_attempts", "audit_logs"]
  let lines := fields.map fun field =>
    "  \"" ++ field ++ "\": " ++ if maps.contains field then "\x7b\x7d" else "[]"
  "\x7b\n" ++ ",\n".intercalate lines ++ "\n\x7d"

def dev_service : DevService where
  cwd := []
  dev_state_path := default_dev_state_path "data"
  to_vec_pretty _ := .ok empty_store_json.toUTF8.toList
  from_slice bytes := if bytes = empty_store_json.toUTF8.toList then .ok {} else .error "expected value"

/-- The disk before the first start. -/
def empty_disk : Disk where
  fs := { entries := ∅, named := no_file_named, closed := no_file_inside }
  contents := ∅

def empty_snapshot : PersistedStore := PersistedStore.from_inner {}

/-- The store is persisted, and the next time the service is killed while it writes. -/
def dev_ops : List DevOp := [.start, .persisted empty_snapshot, .killed, .start]

def persisted_disk : Disk := (dev_service.persist_locked {} true {} empty_disk).2

def torn_disk : Disk :=
  (attempt ((dev_service.persist_calls { written := some 100 } true empty_snapshot).take 2) persisted_disk).2

theorem nothing_stored : dev_service.Stored empty_disk none := by
  rfl

theorem persists : dev_service.persist_locked {} true {} empty_disk = (true, persisted_disk) := by
  rfl

theorem started : dev_service.Step ⟨none, 0, empty_disk⟩ .start ⟨some {}, 0, empty_disk⟩ :=
  .start {} rfl

theorem survived : Run dev_service.Step ⟨none, 0, empty_disk⟩ dev_ops
    ⟨some (dev_service.new {} torn_disk), 0, torn_disk⟩ :=
  .cons started <|
  .cons (.persisted {} true rfl persists) <|
  .cons (t := ⟨none, 0, torn_disk⟩) (.killed { written := some 100 } true 2 rfl (by decide)) <|
  .cons (.start {} rfl) (.nil _)

end sample

open sample in
theorem dev_state_survives_torn :
    dev_service.Stored torn_disk (some empty_snapshot) ∧
    (∀ snapshot, some empty_snapshot = some snapshot → none = some snapshot ∨
      dev_service.Persisted ⟨none, 0, empty_disk⟩ dev_ops snapshot) ∧
    ∀ answers : Answers, answers.readable = true →
      dev_service.load_dev_state answers torn_disk = (some empty_snapshot).bind fun snapshot =>
        ((dev_service.to_vec_pretty snapshot).toOption.bind fun bytes =>
          (dev_service.from_slice bytes).toOption).map PersistedStore.into_inner :=
  DevService.dev_state_survives nothing_stored survived

end rustzap.state
