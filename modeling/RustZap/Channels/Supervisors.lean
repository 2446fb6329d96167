import RustZap.Channels.Manager
import RustZap.Lib.Runs

open collections runs

namespace rustzap.whatsapp

inductive TaskStatus where
  | running
  | aborting
  | finished
  deriving DecidableEq

/-- A task that runs the client of a channel. Where it is aborted it ends when it waits next. -/
structure ClientTask where
  channel_id : String
  status : TaskStatus
  deriving DecidableEq

def ClientTask.is_finished (task : ClientTask) : Bool := task.status = .finished

/-- What is asked of a task that has ended is lost. -/
def ClientTask.abort (task : ClientTask) : ClientTask :=
  match task.status with
  | .running => { task with status := .aborting }
  | _ => task

def ClientTask.finish (task : ClientTask) : ClientTask := { task with status := .finished }

/-- How far the start has come that holds the lock. -/
inductive StartPhase where
  | locked
  | building
  | spawned (task : Nat)
  deriving DecidableEq

/-- The supervisors by their channels, each with the number of its task, all the tasks that
were ever spawned, and the start that is under way. -/
structure Supervisors where
  supervisors : HashMap String Nat := ∅
  tasks : List ClientTask := []
  starting : Option (String × StartPhase) := none

inductive SupervisorsOp where
  | lock (channel_id : String)
  | check
  | give_up
  | spawn (channel_id : String)
  | register
  | stop_channel (channel_id : String)
  | finish (task : Nat)

namespace Supervisors

variable (self : Supervisors) (channel_id : String)

def is_channel_active : Bool :=
  (self.supervisors.lookup channel_id).any fun task => self.tasks[task]?.any fun task => !task.is_finished

def stop_channel : Supervisors :=
  match self.supervisors.lookup channel_id with
  | none => self
  | some task => { self with
      supervisors := self.supervisors.erase channel_id
      tasks := self.tasks.modify task ClientTask.abort }

def check : Supervisors :=
  if self.is_channel_active channel_id then { self with starting := none }
  else { self with
    supervisors := self.supervisors.erase channel_id
    starting := some (channel_id, .building) }

/-- The parts of `start_channel`, of which one at a time is under way, and what other threads
do between them. The client is built where the start waits, and there it may fail or be
dropped; between the spawn of the task and its entry it does not wait, but others go on. -/
inductive Step : Supervisors → SupervisorsOp → Supervisors → Prop
  | lock {self : Supervisors} (channel_id : String) (hfree : self.starting = none) :
      Step self (.lock channel_id) { self with starting := some (channel_id, .locked) }
  | check {self : Supervisors} {channel_id : String} (hlocked : self.starting = some (channel_id, .locked)) :
      Step self .check (self.check channel_id)
  | give_up {self : Supervisors} {channel_id : String} (hbuilding : self.starting = some (channel_id, .building)) :
      Step self .give_up { self with starting := none }
  | spawn {self : Supervisors} {channel_id : String} (hbuilding : self.starting = some (channel_id, .building)) :
      Step self (.spawn channel_id) { self with
        tasks := self.tasks ++ [⟨channel_id, .running⟩]
        starting := some (channel_id, .spawned self.tasks.length) }
  | register {self : Supervisors} {channel_id : String} {task : Nat}
      (hspawned : self.starting = some (channel_id, .spawned task)) :
      Step self .register { self with
        supervisors := self.supervisors.insert channel_id task
        starting := none }
  | stop_channel {self : Supervisors} (channel_id : String) :
      Step self (.stop_channel channel_id) (self.stop_channel channel_id)
  | finish {self : Supervisors} {task : Nat} (htask : task < self.tasks.length) :
      Step self (.finish task) { self with tasks := self.tasks.modify task ClientTask.finish }

/-- The task is the client of the channel, and nobody has asked it to end. -/
def Runs (self : Supervisors) (channel_id : String) (task : Nat) : Prop :=
  self.tasks[task]? = some ⟨channel_id, .running⟩

/-- The task is of the channel and has not been aborted. -/
def Owned (self : Supervisors) (channel_id : String) (task : Nat) : Prop :=
  ∃ status, self.tasks[task]? = some ⟨channel_id, status⟩ ∧ status ≠ .aborting

/-- What holds all the time. The entry of a channel leads to a task of its own, a task that
runs has an entry or is about to get one, and a start that has looked finds no entry. -/
structure Kept (state : Supervisors) : Prop where
  entries : ∀ channel_id task, state.supervisors.lookup channel_id = some task → state.Owned channel_id task
  running : ∀ channel_id task, state.Runs channel_id task →
    state.supervisors.lookup channel_id = some task ∨ state.starting = some (channel_id, .spawned task)
  building : ∀ channel_id, state.starting = some (channel_id, .building) →
    state.supervisors.lookup channel_id = none
  spawned : ∀ channel_id task, state.starting = some (channel_id, .spawned task) →
    state.supervisors.lookup channel_id = none ∧ state.Owned channel_id task

variable {self : Supervisors} {self' : Supervisors} {channel_id : String} {op : SupervisorsOp}

theorem kept_default : Kept {} where
  entries _ _ h := nomatch h
  running _ _ h := nomatch h
  building _ h := nomatch h
  spawned _ _ h := nomatch h

/-- A task of one channel is no task of another. -/
theorem Owned.channel_eq {task : Nat} {other : String} (h : self.Owned channel_id task)
    (h' : self.Owned other task) : channel_id = other := by
  obtain ⟨status, htask, -⟩ := h
  obtain ⟨status', htask', -⟩ := h'
  rw [htask] at htask'
  cases htask'
  rfl

section Tasks

variable {tasks : List ClientTask} {task changed : Nat} {f : ClientTask → ClientTask}

/-- Where a task is stopped in one way or another, those that run are the others. -/
theorem runs_modify (hf : ∀ task, (f task).status ≠ .running)
    (h : (tasks.modify changed f)[task]? = some ⟨channel_id, .running⟩) :
    task ≠ changed ∧ tasks[task]? = some ⟨channel_id, .running⟩ := by
  by_cases hsame : changed = task
  · subst hsame
    rw [List.getElem?_modify_eq, Option.map_eq_map, Option.map_eq_some_iff] at h
    obtain ⟨old, -, heq⟩ := h
    exact absurd (congrArg ClientTask.status heq) (hf old)
  · rw [List.getElem?_modify_ne _ _ hsame] at h
    exact ⟨Ne.symm hsame, h⟩

theorem abort_not_running (task : ClientTask) : task.abort.status ≠ .running := by
  obtain ⟨channel_id, status⟩ := task
  cases status <;> exact nofun

theorem finish_not_running (task : ClientTask) : task.finish.status ≠ .running := nofun

end Tasks

theorem Owned.finish {task finished : Nat} (h : self.Owned channel_id task) :
    Owned { self with tasks := self.tasks.modify finished ClientTask.finish } channel_id task := by
  obtain ⟨status, htask, hstatus⟩ := h
  by_cases hsame : finished = task
  · subst hsame
    refine ⟨.finished, ?_, nofun⟩
    rw [List.getElem?_modify_eq, htask]
    rfl
  · exact ⟨status, (List.getElem?_modify_ne _ _ hsame).trans htask, hstatus⟩

/-- Nothing is stopped, or the task of the entry is. -/
theorem stop_channel_cases (self : Supervisors) (channel_id : String) :
    self.supervisors.lookup channel_id = none ∧ self.stop_channel channel_id = self ∨
    ∃ task, self.supervisors.lookup channel_id = some task ∧ self.stop_channel channel_id = { self with
      supervisors := self.supervisors.erase channel_id
      tasks := self.tasks.modify task ClientTask.abort } := by
  rw [stop_channel]
  cases self.supervisors.lookup channel_id with
  | none => exact Or.inl ⟨rfl, rfl⟩
  | some task => exact Or.inr ⟨task, rfl, rfl⟩

/-- An entry is active if and only if its task runs: an aborted task has none. -/
theorem Kept.is_channel_active_iff (h : self.Kept) :
    self.is_channel_active channel_id = true ↔
      ∃ task, self.supervisors.lookup channel_id = some task ∧ self.Runs channel_id task := by
  rw [is_channel_active]
  cases hentry : self.supervisors.lookup channel_id with
  | none => exact iff_of_false Bool.false_ne_true (by rintro ⟨task, hnone, -⟩; cases hnone)
  | some task =>
    obtain ⟨status, htask, hstatus⟩ := h.entries channel_id task hentry
    rw [Option.any_some, htask, Option.any_some]
    cases status with
    | running => exact iff_of_true rfl ⟨task, rfl, htask⟩
    | aborting => exact absurd rfl hstatus
    | finished =>
      refine iff_of_false Bool.false_ne_true ?_
      rintro ⟨_, hsame, hruns⟩
      cases hsame
      cases htask.symm.trans hruns

theorem Kept.check (h : self.Kept) (hlocked : self.starting = some (channel_id, .locked)) :
    (self.check channel_id).Kept := by
  have hidle {other : String} {task : Nat} : self.starting ≠ some (other, .spawned task) := by
    rw [hlocked]
    exact nofun
  rw [Supervisors.check]
  split
  · exact ⟨h.entries, fun other task hruns => Or.inl ((h.running other task hruns).resolve_right hidle),
      nofun, nofun⟩
  · next hinactive =>
    rw [h.is_channel_active_iff] at hinactive
    refine ⟨fun other task hentry => ?_, fun other task hruns => ?_, fun other hbuilding => ?_, nofun⟩
    · dsimp only at hentry
      rw [HashMap.lookup_erase_ite] at hentry
      split at hentry
      · cases hentry
      · exact h.entries other task hentry
    · have hentry := (h.running other task hruns).resolve_right hidle
      dsimp only
      rw [HashMap.lookup_erase_ite, if_neg]
      · exact Or.inl hentry
      · rintro rfl
        exact hinactive ⟨task, hentry, hruns⟩
    · cases hbuilding
      exact AList.lookup_erase _ _

theorem Kept.spawn (h : self.Kept) (hbuilding : self.starting = some (channel_id, .building)) :
    Kept { self with
      tasks := self.tasks ++ [⟨channel_id, .running⟩]
      starting := some (channel_id, .spawned self.tasks.length) } := by
  have howned {other : String} {task : Nat} (howned : self.Owned other task) :
      Owned { self with
        tasks := self.tasks ++ [⟨channel_id, .running⟩]
        starting := some (channel_id, .spawned self.tasks.length) } other task := by
    obtain ⟨status, htask, hstatus⟩ := howned
    refine ⟨status, ?_, hstatus⟩
    rw [List.getElem?_append_left (List.getElem?_eq_some_iff.mp htask).1, htask]
  refine ⟨fun other task hentry => howned (h.entries other task hentry), fun other task hruns => ?_, nofun,
    fun other task hspawned => ?_⟩
  · rcases Nat.lt_or_ge task self.tasks.length with hold | hnew
    · rw [Runs, List.getElem?_append_left hold] at hruns
      refine Or.inl ((h.running other task hruns).resolve_right ?_)
      rw [hbuilding]
      exact nofun
    · -- the only task that is new is the one that is spawned
      obtain ⟨hlt, htask⟩ := List.getElem?_eq_some_iff.mp hruns
      rw [List.length_append, List.length_singleton] at hlt
      obtain rfl : task = self.tasks.length := by omega
      rw [Runs, List.getElem?_concat_length] at hruns
      cases hruns
      exact Or.inr rfl
  · cases hspawned
    exact ⟨h.building channel_id hbuilding, .running, List.getElem?_concat_length, nofun⟩

theorem Kept.register {task : Nat} (h : self.Kept)
    (hspawned : self.starting = some (channel_id, .spawned task)) :
    Kept { self with supervisors := self.supervisors.insert channel_id task, starting := none } := by
  obtain ⟨hnone, howned⟩ := h.spawned channel_id task hspawned
  refine ⟨fun other entered hentry => ?_, fun other running hruns => Or.inl ?_, nofun, nofun⟩
  · dsimp only at hentry
    rw [HashMap.lookup_insert_ite] at hentry
    split at hentry
    · next hsame =>
      cases hentry
      rw [hsame]
      exact howned
    · exact h.entries other entered hentry
  · dsimp only
    rw [HashMap.lookup_insert_ite]
    rcases h.running other running hruns with hentry | hstarting
    · rw [if_neg]
      · exact hentry
      · rintro rfl
        cases hnone.symm.trans hentry
    · cases hspawned.symm.trans hstarting
      exact if_pos rfl

theorem Kept.finish (h : self.Kept) (finished : Nat) :
    Kept { self with tasks := self.tasks.modify finished ClientTask.finish } where
  entries other task hentry := (h.entries other task hentry).finish
  running other task hruns := h.running other task (runs_modify finish_not_running hruns).2
  building := h.building
  spawned other task hspawned := (h.spawned other task hspawned).imp id Owned.finish

theorem Kept.stop_channel (h : self.Kept) (channel_id : String) : (self.stop_channel channel_id).Kept := by
  rcases self.stop_channel_cases channel_id with ⟨-, hstop⟩ | ⟨stopped, hentry, hstop⟩
  · rw [hstop]
    exact h
  · have hstopped := h.entries channel_id stopped hentry
    -- the tasks of the other channels are other tasks
    have howned {other : String} {task : Nat} (hother : other ≠ channel_id) (howned : self.Owned other task) :
        (self.stop_channel channel_id).Owned other task := by
      obtain ⟨status, htask, hstatus⟩ := howned
      refine ⟨status, ?_, hstatus⟩
      rw [hstop]
      dsimp only
      refine (List.getElem?_modify_ne _ _ ?_).trans htask
      rintro rfl
      exact hother (Owned.channel_eq ⟨status, htask, hstatus⟩ hstopped)
    have hlookup (other : String) : (self.stop_channel channel_id).supervisors.lookup other =
        if other = channel_id then none else self.supervisors.lookup other := by
      rw [hstop]
      exact HashMap.lookup_erase_ite ..
    have hstarting : (self.stop_channel channel_id).starting = self.starting := by
      rw [hstop]
    refine ⟨fun other task hold => ?_, fun other task hruns => ?_, fun other hbuilding => ?_,
      fun other task hspawned => ?_⟩
    · rw [hlookup] at hold
      split at hold
      · cases hold
      · next hother => exact howned hother (h.entries other task hold)
    · rw [Runs, hstop] at hruns
      obtain ⟨hne, hruns⟩ := runs_modify abort_not_running hruns
      rw [hlookup, hstarting]
      refine (h.running other task hruns).imp (fun hold => ?_) id
      rw [if_neg]
      · exact hold
      · rintro rfl
        rw [hentry] at hold
        exact hne (Option.some.inj hold).symm
    · rw [hstarting] at hbuilding
      rw [hlookup, h.building other hbuilding, ite_self]
    · rw [hstarting] at hspawned
      obtain ⟨hnone, hspawned⟩ := h.spawned other task hspawned
      rw [hlookup, hnone, ite_self]
      refine ⟨rfl, howned ?_ hspawned⟩
      rintro rfl
      cases hnone.symm.trans hentry

theorem Kept.step (h : self.Kept) (hstep : Step self op self') : self'.Kept := by
  cases hstep with
  | lock channel_id hfree =>
    refine ⟨h.entries, fun other task hruns => Or.inl ((h.running other task hruns).resolve_right ?_), nofun, nofun⟩
    rw [hfree]
    exact nofun
  | check hlocked => exact h.check hlocked
  | give_up hbuilding =>
    refine ⟨h.entries, fun other task hruns => Or.inl ((h.running other task hruns).resolve_right ?_), nofun, nofun⟩
    rw [hbuilding]
    exact nofun
  | spawn hbuilding => exact h.spawn hbuilding
  | register hspawned => exact h.register hspawned
  | stop_channel channel_id => exact h.stop_channel channel_id
  | finish htask => exact h.finish _

theorem Kept.run {ops : List SupervisorsOp} (hrun : Run Step {} ops self) : self.Kept :=
  hrun.invariant (fun _ _ _ h hstep => h.step hstep) kept_default

/-- The channel has no client, and no start has just spawned one. -/
def Silent (channel_id : String) (state : Supervisors) : Prop :=
  ∀ task, ¬ state.Runs channel_id task ∧ state.starting ≠ some (channel_id, .spawned task)

theorem Silent.of_tasks (h : Silent channel_id self) (htasks : self'.tasks = self.tasks)
    (hstarting : ∀ task, self'.starting ≠ some (channel_id, .spawned task)) : Silent channel_id self' := by
  intro task
  refine ⟨fun hruns => (h task).1 ?_, hstarting task⟩
  rwa [Runs, htasks] at hruns

theorem Silent.step (h : Silent channel_id self) (hop : op ≠ .spawn channel_id) (hstep : Step self op self') :
    Silent channel_id self' := by
  cases hstep with
  | lock other hfree => exact h.of_tasks rfl (fun _ => nofun)
  | @check other hlocked =>
    rw [Supervisors.check]
    split
    · exact h.of_tasks rfl (fun _ => nofun)
    · exact h.of_tasks rfl (fun _ => nofun)
  | give_up hbuilding => exact h.of_tasks rfl (fun _ => nofun)
  | @spawn other hbuilding =>
    intro task
    refine ⟨fun hruns => (h task).1 ?_, ?_⟩
    · rw [Runs] at hruns
      dsimp only at hruns
      rw [List.getElem?_append] at hruns
      split at hruns
      · exact hruns
      · obtain ⟨hnew, -⟩ := List.mem_singleton.mp (List.mem_of_getElem? hruns)
        exact absurd rfl hop
    · rintro ⟨rfl, -⟩
      exact hop rfl
  | register hspawned => exact h.of_tasks rfl (fun _ => nofun)
  | stop_channel other =>
    rcases self.stop_channel_cases other with ⟨-, hstop⟩ | ⟨stopped, -, hstop⟩
    · rw [hstop]
      exact h
    · rw [hstop]
      exact fun task => ⟨fun hruns => (h task).1 (runs_modify abort_not_running hruns).2, (h task).2⟩
  | finish htask => exact fun task => ⟨fun hruns => (h task).1 (runs_modify finish_not_running hruns).2, (h task).2⟩

/-- However starts, stops and the ends of tasks come between each other, a channel never has
two clients that nobody has asked to end, and the one it has is the active one as soon as it
is entered. A stop leaves the channel without a client until one is spawned again, unless it
comes between the spawn and the entry. -/
theorem one_client {ops : List SupervisorsOp} (hrun : Run Step {} ops self) :
    (∀ channel_id task task', self.Runs channel_id task → self.Runs channel_id task' → task = task') ∧
    (∀ channel_id, self.is_channel_active channel_id = true ↔
      ∃ task, self.Runs channel_id task ∧ self.starting ≠ some (channel_id, .spawned task)) ∧
    ∀ channel_id, (∀ task, self.starting ≠ some (channel_id, .spawned task)) →
      ∀ ops later, Run Step (self.stop_channel channel_id) ops later → .spawn channel_id ∉ ops →
        ∀ task, ¬ later.Runs channel_id task := by
  have hkept := Kept.run hrun
  refine ⟨fun channel_id task task' hruns hruns' => ?_, fun channel_id => ?_,
    fun channel_id hspawned ops later hlater hops task => ?_⟩
  · rcases hkept.running channel_id task hruns with hentry | hstarting
    · rcases hkept.running channel_id task' hruns' with hentry' | hstarting'
      · exact Option.some.inj (hentry.symm.trans hentry')
      · cases (hkept.spawned channel_id task' hstarting').1.symm.trans hentry
    · rcases hkept.running channel_id task' hruns' with hentry' | hstarting'
      · cases (hkept.spawned channel_id task hstarting).1.symm.trans hentry'
      · cases hstarting.symm.trans hstarting'
        rfl
  · rw [hkept.is_channel_active_iff]
    refine exists_congr fun task => ⟨fun ⟨hentry, hruns⟩ => ⟨hruns, fun hstarting => ?_⟩,
      fun ⟨hruns, hstarting⟩ => ⟨(hkept.running channel_id task hruns).resolve_right hstarting, hruns⟩⟩
    cases (hkept.spawned channel_id task hstarting).1.symm.trans hentry
  · -- what runs after the stop would have the entry that the stop took away
    have hstopped : Silent channel_id (self.stop_channel channel_id) := by
      intro task
      have hstarting : (self.stop_channel channel_id).starting ≠ some (channel_id, .spawned task) := by
        rcases self.stop_channel_cases channel_id with ⟨-, hstop⟩ | ⟨stopped, -, hstop⟩
        · rw [hstop]
          exact hspawned task
        · rw [hstop]
          exact hspawned task
      refine ⟨fun hruns => ?_, hstarting⟩
      have hentry := ((hkept.stop_channel channel_id).running channel_id task hruns).resolve_right hstarting
      rcases self.stop_channel_cases channel_id with ⟨hnone, hstop⟩ | ⟨stopped, -, hstop⟩
      · rw [hstop, hnone] at hentry
        cases hentry
      · rw [hstop] at hentry
        cases (AList.lookup_erase _ _).symm.trans hentry
    have hsilent : Silent channel_id later :=
      hlater.invariant_of_mem (fun _ op _ hmem h hstep => h.step (fun hop => hops (hop ▸ hmem)) hstep) hstopped
    exact (hsilent task).1

namespace sample

/-- A stop comes when the task is spawned and not entered yet. -/
def overtaken_ops : List SupervisorsOp :=
  [.lock "channel_a", .check, .spawn "channel_a", .stop_channel "channel_a", .register]

def overtaken : Supervisors where
  supervisors := AList.insert "channel_a" 0 ∅
  tasks := [⟨"channel_a", .running⟩]

theorem overtaking : Run Step {} overtaken_ops overtaken :=
  .cons (.lock "channel_a" rfl) <|
  .cons (.check rfl) <|
  .cons (.spawn rfl) <|
  .cons (.stop_channel "channel_a") <|
  .cons (.register rfl) (.nil _)

end sample

open sample in
theorem one_client_overtaken :
    (∀ channel_id task task', overtaken.Runs channel_id task → overtaken.Runs channel_id task' → task = task') ∧
    (∀ channel_id, overtaken.is_channel_active channel_id = true ↔
      ∃ task, overtaken.Runs channel_id task ∧ overtaken.starting ≠ some (channel_id, .spawned task)) ∧
    ∀ channel_id, (∀ task, overtaken.starting ≠ some (channel_id, .spawned task)) →
      ∀ ops later, Run Step (overtaken.stop_channel channel_id) ops later → .spawn channel_id ∉ ops →
        ∀ task, ¬ later.Runs channel_id task :=
  one_client overtaking

section Uninterrupted

/-- The manager has the same channels. -/
def Shown (self : Supervisors) (manager : WhatsappManager) : Prop :=
  ∀ channel_id, (manager.supervisors.lookup channel_id).isSome = (self.supervisors.lookup channel_id).isSome

/-- What the task of a channel says of itself. -/
def supervisor (self : Supervisors) (channel_id : String) (is_connected : Bool) : Supervisor where
  is_finished := !self.is_channel_active channel_id
  is_connected

variable {manager : WhatsappManager}

theorem Shown.is_channel_active (h : self.Shown manager) (channel_id : String) (is_connected : Bool) :
    manager.is_channel_active channel_id (self.supervisor channel_id is_connected) =
      self.is_channel_active channel_id := by
  have hchannel := h channel_id
  rw [WhatsappManager.is_channel_active, supervisor, Bool.not_not, Supervisors.is_channel_active]
  cases hentry : self.supervisors.lookup channel_id with
  | none =>
    rw [hentry, Option.isSome_none, Option.isSome_eq_false_iff, Option.isNone_iff_eq_none] at hchannel
    rw [hchannel]
    rfl
  | some task =>
    rw [hentry, Option.isSome_some, Option.isSome_iff_exists] at hchannel
    obtain ⟨entry, hentry'⟩ := hchannel
    rw [hentry']
    rfl

theorem Shown.stop_channel (h : self.Shown manager) (channel_id : String) :
    (self.stop_channel channel_id).Shown (manager.stop_channel channel_id) := by
  intro other
  rw [WhatsappManager.stop_channel, HashMap.lookup_erase_ite]
  rcases self.stop_channel_cases channel_id with ⟨hnone, hstop⟩ | ⟨stopped, -, hstop⟩
  · rw [hstop]
    split
    · next hsame =>
      rw [hsame, hnone]
      rfl
    · exact h other
  · rw [hstop, HashMap.lookup_erase_ite]
    split
    · rfl
    · exact h other

/-- With nothing in between, the parts of a start do what the function does. -/
theorem Shown.start_channel (h : self.Shown manager) (hfree : self.starting = none) (files : SessionFiles)
    (channel_id session_path : String) (is_connected : Bool) (answer : StartAnswer) :
    ∃ ops started, Run Step self ops started ∧ started.starting = none ∧
      started.Shown (start_channel manager files channel_id session_path
        (self.supervisor channel_id is_connected) answer).manager := by
  have hlock : Step self (.lock channel_id) { self with starting := some (channel_id, .locked) } :=
    .lock channel_id hfree
  have hcheck : Step { self with starting := some (channel_id, .locked) } .check
      (Supervisors.check { self with starting := some (channel_id, .locked) } channel_id) := .check rfl
  have hsame : ∀ starting, Supervisors.is_channel_active { self with starting } channel_id =
      self.is_channel_active channel_id := fun _ => rfl
  unfold whatsapp.start_channel
  rw [h.is_channel_active]
  rw [Supervisors.check, hsame] at hcheck
  split
  · next hactive =>
    rw [if_pos hactive] at hcheck
    exact ⟨_, _, .cons hlock (.cons hcheck (.nil _)), rfl, h⟩
  · next hinactive =>
    rw [if_neg hinactive] at hcheck
    have herased : ∀ other, ((manager.stop_channel channel_id).supervisors.lookup other).isSome =
        ((self.supervisors.erase channel_id).lookup other).isSome := by
      intro other
      rw [WhatsappManager.stop_channel, HashMap.lookup_erase_ite, HashMap.lookup_erase_ite]
      split
      · rfl
      · exact h other
    cases answer with
    | not_opened err => exact ⟨_, _, .cons hlock (.cons hcheck (.cons (.give_up rfl) (.nil _))), rfl, herased⟩
    | not_built err => exact ⟨_, _, .cons hlock (.cons hcheck (.cons (.give_up rfl) (.nil _))), rfl, herased⟩
    | running =>
      refine ⟨_, _, .cons hlock (.cons hcheck (.cons (.spawn rfl) (.cons (.register rfl) (.nil _)))), rfl,
        fun other => ?_⟩
      dsimp only
      rw [HashMap.lookup_insert_ite, HashMap.lookup_insert_ite]
      split
      · rfl
      · exact herased other

end Uninterrupted

end Supervisors

end rustzap.whatsapp
