import DBClaw.Library.Registry
import DBClaw.Library.Runs
import DBClaw.Library.Text
import DBClaw.Library.WaitFor
import Mathlib.Logic.Function.Basic

/-! # Background tasks
`BackgroundTaskManager` keeps tasks by name behind one lock. Only `register_task` keeps the lock while it
waits: it cancels the task that it replaces and awaits it, and that one needs the lock in its wrapper, to write
its status. `manager_sound_iff` says when nobody waits for ever; the statuses are always those of the registered
tasks. -/

namespace DBClaw.Tasks

open Registries Runs WaitFor

/-! ## Tasks -/

/-- What `_task_wrapper` writes as the status of the task. -/
inductive Outcome
  | completed | failed | cancelled
  deriving DecidableEq

/-- Where `_task_wrapper` stands: before its first step, in the coroutine, at the lock to write the status, or at
its end. -/
inductive Stage
  | created | running | writing (outcome : Outcome) | done
  deriving DecidableEq

/-- A task; a cancellation is thrown into it at its next step. -/
structure Task where
  name : Text
  stage : Stage := .created
  mustCancel : Bool := false
  deriving DecidableEq

/-- What happens to a task. -/
inductive TaskEvent
  | cancel
  /-- Its first step. -/
  | begin
  /-- The coroutine runs to its next `await` or to its end. -/
  | run (outcome : Option Outcome)
  /-- The cancellation is thrown while it is at the lock. -/
  | interrupt

/-- A task goes on. -/
def Task.next (task : Task) : TaskEvent → Option Task
  | .cancel => if task.stage = .done then none else some { task with mustCancel := true }
  -- a task that is cancelled before its first step never enters the wrapper
  | .begin =>
    if task.stage = .created then
      some { task with stage := if task.mustCancel then .done else .running, mustCancel := false }
    else none
  | .run outcome =>
    if task.stage = .running ∧ (task.mustCancel ∨ outcome.isSome) then
      some { task with stage := outcome.elim .running .writing, mustCancel := false }
    else none
  | .interrupt =>
    match task.stage with
    | .writing outcome =>
      if task.mustCancel then
        -- `except CancelledError` is left to those that are in no handler yet
        some { task with stage := if outcome = .completed then .writing .cancelled else .done, mustCancel := false }
      else none
    | .created | .running | .done => none

/-! ## The manager -/

/-- `TaskInfo`, with the task that has written the status. -/
structure TaskInfo where
  task : ℕ
  status : Option Outcome := none
  writer : Option ℕ := none

/-- What is called of the manager; `cancel_all` and `wait_all` read the tasks under the lock. -/
inductive Call
  | registerTask (name : Text) (replaceExisting : Bool)
  | cancelTask (name : Text)
  | runningTasks
  | cleanupCompleted

/-- `register_task` with the lock, while it awaits the old task. -/
structure Hold where
  call : ℕ
  name : Text
  old : ℕ

/-- The manager with its tasks, the calls that wait for the lock and the one that has it; and for the record,
the last task that was registered under each name. -/
structure State where
  entries : Text → Option TaskInfo := fun _ => none
  tasks : ℕ → Option Task := fun _ => none
  started : ℕ := 0
  calls : ℕ → Option Call := fun _ => none
  lock : Option Hold := none
  latest : Text → Option ℕ := fun _ => none

namespace State

variable (s : State)

/-- `task.done()`. -/
def isDone (i : ℕ) : Bool := (s.tasks i).all (·.stage = .done)

/-- A task is created and registered. -/
def register (name : Text) : State :=
  { s with
    entries := Function.update s.entries name (some { task := s.started })
    tasks := Function.update s.tasks s.started (some { name := name })
    started := s.started + 1
    latest := Function.update s.latest name (some s.started) }

/-- The task is replaced by what it has become. -/
def setTask (i : ℕ) (task : Task) : State := { s with tasks := Function.update s.tasks i (some task) }

/-- `task.cancel()`. -/
def cancel (i : ℕ) : State := ((s.tasks i).bind (·.next .cancel)).elim s (s.setTask i)

/-- The status is written under the name of the task. -/
def writeStatus (i : ℕ) (name : Text) (outcome : Outcome) : State :=
  { s with
    entries := Function.update s.entries name
      ((s.entries name).map fun info => { info with status := some outcome, writer := some i }) }

/-- What a call does once it has the lock; where it awaits an old task, it keeps the lock. -/
def perform (c : ℕ) : Call → State
  | .registerTask name replaceExisting =>
    match s.entries name with
    | some info =>
      if replaceExisting then
        if s.isDone info.task then s.register name
        else { s.cancel info.task with lock := some ⟨c, name, info.task⟩ }
      else s
    | none => s.register name
  | .cancelTask name =>
    match s.entries name with
    | some info => s.cancel info.task
    | none => s
  | .runningTasks => s
  | .cleanupCompleted =>
    { s with entries := fun name => (s.entries name).filter fun info => ! s.isDone info.task }

end State

/-- What happens. -/
inductive Label
  | call (c : ℕ) (call : Call)
  /-- The caller is cancelled while it waits for the lock. -/
  | leave (c : ℕ)
  /-- A call gets the lock. -/
  | enter (c : ℕ)
  /-- The old task is done, and its `register_task` goes on. -/
  | resume
  | task (i : ℕ) (event : TaskEvent)
  /-- A task gets the lock and writes its status. -/
  | write (i : ℕ)

/-- A step. Those who wait for the lock may get it in any order. -/
def step (s : State) : Label → Option State
  | .call c call =>
    if (s.calls c).isNone ∧ s.lock.all (·.call ≠ c) then
      some { s with calls := Function.update s.calls c (some call) }
    else none
  | .leave c => (s.calls c).map fun _ => { s with calls := Function.update s.calls c none }
  | .enter c =>
    if s.lock.isNone then
      (s.calls c).map fun call => State.perform { s with calls := Function.update s.calls c none } c call
    else none
  | .resume => s.lock.bind fun hold =>
    if s.isDone hold.old then some (State.register { s with lock := none } hold.name) else none
  | .task i event => (s.tasks i).bind fun task => (task.next event).map (s.setTask i)
  | .write i => (s.tasks i).bind fun task =>
    match task.stage with
    | .writing outcome =>
      if s.lock.isNone ∧ task.mustCancel = false then
        some ((s.writeStatus i task.name outcome).setTask i { task with stage := .done })
      else none
    | .created | .running | .done => none

/-! ## Waiting -/

/-- The task waits for the lock. A cancellation ends this. -/
def Task.waitsForLock (task : Task) : Bool :=
  match task.stage with
  | .writing _ => ! task.mustCancel
  | .created | .running | .done => false

/-- Who may wait. -/
inductive Party
  | call (c : ℕ)
  | task (i : ℕ)

/-- **Who waits for whom.** -/
inductive State.Waits (s : State) : Party → Party → Prop
  | call {c : ℕ} {call : Call} {hold : Hold} : s.calls c = some call → s.lock = some hold →
      s.Waits (.call c) (.call hold.call)
  | task {i : ℕ} {task : Task} {hold : Hold} : s.tasks i = some task → task.waitsForLock = true →
      s.lock = some hold → s.Waits (.task i) (.call hold.call)
  | old {hold : Hold} : s.lock = some hold → s.isDone hold.old = false →
      s.Waits (.call hold.call) (.task hold.old)

/-- A step after which nobody waits for himself, through any number of others. -/
abbrev Unblocked (s : State) (label : Label) : Prop := ∃ t ∈ step s label, Acyclic t.Waits

/-- **The manager is sound**: nobody waits for himself, the call with the lock can come to its end without that,
and the status under a name is of the last task that was registered there. -/
structure State.Sound (s : State) : Prop where
  acyclic : Acyclic s.Waits
  ends : s.lock.isSome = true → ∃ labels t, Run step Unblocked s labels t ∧ t.lock = none
  statuses : ∀ name info, s.entries name = some info →
    s.latest name = some info.task ∧ ∀ i, info.writer = some i → i = info.task

/-- A task in this stage can be replaced: it is done, it has not begun, or it is in a handler of its wrapper. -/
def Stage.replaceable : Stage → Bool
  | .created | .done | .writing .failed | .writing .cancelled => true
  | .running | .writing .completed => false

/-- **The condition on a step**: `register_task` replaces a task that can be replaced. -/
def Replaces (s : State) : Label → Prop
  | .enter c => ∀ name info task, s.calls c = some (.registerTask name true) → s.entries name = some info →
      s.tasks info.task = some task → task.stage.replaceable = true
  | _ => True

/-! ## What becomes of a task -/

section Tasks

variable {task task' : Task} {event : TaskEvent}

/-- **What is left of the way to its end** ends without the lock: the task is done, or it is cancelled where it
has not begun or is in a handler. -/
def Task.Releasing (task : Task) : Prop :=
  task.stage.replaceable = true ∧ (task.stage ≠ .done → task.mustCancel = true)

/-- What a task can become. -/
theorem Task.next_cases (h : task.next event = some task') : task'.name = task.name ∧ task.stage ≠ .done ∧
    (task'.stage = .created → task.stage = .created ∧ (task.mustCancel = true → task'.mustCancel = true)) ∧
    (task.Releasing → task'.Releasing) ∧
    (task.stage.replaceable = false → task'.stage.replaceable = false ∨ task'.waitsForLock = true) := by
  obtain ⟨name, stage, mustCancel⟩ := task
  cases event with
  | cancel =>
    simp only [Task.next, Option.ite_none_left_eq_some, Option.some.injEq] at h
    obtain ⟨hstage, rfl⟩ := h
    exact ⟨rfl, hstage, fun hcreated => ⟨hcreated, fun _ => rfl⟩,
      fun hreleasing => ⟨hreleasing.1, fun _ => rfl⟩, .inl⟩
  | begin =>
    simp only [Task.next, Option.ite_none_right_eq_some, Option.some.injEq] at h
    obtain ⟨rfl, rfl⟩ := h
    cases mustCancel <;> simp [Task.Releasing, Stage.replaceable]
  | run outcome =>
    simp only [Task.next, Option.ite_none_right_eq_some, Option.some.injEq] at h
    obtain ⟨⟨rfl, -⟩, rfl⟩ := h
    cases outcome <;> simp [Task.Releasing, Stage.replaceable, Task.waitsForLock]
  | interrupt =>
    cases stage with
    | writing outcome =>
      simp only [Task.next, Option.ite_none_right_eq_some, Option.some.injEq] at h
      obtain ⟨rfl, rfl⟩ := h
      cases outcome <;> simp [Task.Releasing, Stage.replaceable, Task.waitsForLock]
    | created | running | done => simp [Task.next] at h

end Tasks

/-! ## Invariants -/

variable {s t : State} {i : ℕ} {task task' : Task} {name : Text}

theorem isDone_eq (htask : s.tasks i = some task) : s.isDone i = decide (task.stage = .done) := by
  rw [State.isDone, htask, Option.all_some]

/-- The name of a task that is not done. -/
def State.unfinished (s : State) (i : ℕ) : Option Text :=
  (s.tasks i).bind fun task => if task.stage = .done then none else some task.name

/-- The task that is registered under a name. -/
def State.taskOf (s : State) (name : Text) : Option ℕ := (s.entries name).map TaskInfo.task

/-- **What always holds**: a task that is not done is registered, so that none but the registered one can write
its status. -/
structure State.Sane (s : State) : Prop where
  numbers : ∀ i task, s.tasks i = some task → i < s.started
  registered : Registered s.taskOf s.unfinished
  statuses : ∀ name info, s.entries name = some info →
    s.latest name = some info.task ∧ ∀ i, info.writer = some i → i = info.task
  holder : ∀ hold, s.lock = some hold → s.calls hold.call = none
  old : ∀ hold, s.lock = some hold → s.taskOf hold.name = some hold.old ∧
    ∃ task, s.tasks hold.old = some task ∧ (task.stage = .created → task.mustCancel = true)

theorem State.Sane.setTask (h : s.Sane) (htask : s.tasks i = some task) (hname : task'.name = task.name)
    (hdone : task.stage = .done → task'.stage = .done)
    (hcreated : task'.stage = .created →
      task.stage = .created ∧ (task.mustCancel = true → task'.mustCancel = true)) :
    (s.setTask i task').Sane where
  numbers j task'' hj := by
    obtain ⟨rfl, -⟩ | ⟨-, hj⟩ := update_eq_some hj
    · exact h.numbers j task htask
    · exact h.numbers j task'' hj
  registered := h.registered.mono fun j name hj => by
    obtain ⟨task'', htask'', hif⟩ := Option.bind_eq_some_iff.mp hj
    rw [Option.ite_none_left_eq_some] at hif
    obtain ⟨rfl, heq⟩ | ⟨-, htask''⟩ := update_eq_some htask''
    · obtain rfl := Option.some.inj heq
      rw [State.unfinished, htask, Option.bind_some, if_neg fun hstage => hif.1 (hdone hstage), ← hname, hif.2]
    · rw [State.unfinished, htask'', Option.bind_some, if_neg hif.1, hif.2]
  statuses := h.statuses
  holder := h.holder
  old hold hlock := by
    obtain ⟨hentry, old, hold', hstage⟩ := h.old hold hlock
    refine ⟨hentry, ?_⟩
    by_cases hi : hold.old = i
    · subst hi
      obtain rfl : task = old := Option.some.inj (htask.symm.trans hold')
      exact ⟨task', Function.update_self .., fun hc => (hcreated hc).2 (hstage (hcreated hc).1)⟩
    · exact ⟨old, (Function.update_of_ne hi ..).trans hold', hstage⟩

/-- A task goes on. -/
theorem State.Sane.next (h : s.Sane) {event : TaskEvent} (htask : s.tasks i = some task)
    (hnext : task.next event = some task') : (s.setTask i task').Sane := by
  obtain ⟨hname, hstage, hcreated, -, -⟩ := Task.next_cases hnext
  exact h.setTask htask hname (fun hdone => absurd hdone hstage) hcreated

theorem cancel_cases (s : State) (i : ℕ) : s.isDone i = true ∧ s.cancel i = s ∨
    ∃ task, s.tasks i = some task ∧ task.stage ≠ .done ∧
      s.cancel i = s.setTask i { task with mustCancel := true } := by
  unfold State.isDone State.cancel
  cases htask : s.tasks i with
  | none => exact .inl ⟨rfl, rfl⟩
  | some task =>
    by_cases hdone : task.stage = .done
    · simp [Task.next, hdone]
    · refine .inr ⟨task, rfl, hdone, ?_⟩
      simp [Task.next, hdone]

theorem State.Sane.cancel (h : s.Sane) (i : ℕ) : (s.cancel i).Sane := by
  obtain ⟨-, hsame⟩ | ⟨task, htask, hstage, hset⟩ := cancel_cases s i
  · rwa [hsame]
  · rw [hset]
    exact h.setTask htask rfl id fun hcreated => ⟨hcreated, fun _ => rfl⟩

/-- **A task is registered** where the name is free or its task is done. -/
theorem State.Sane.register (h : s.Sane) (hlock : s.lock = none)
    (hfree : ∀ i, s.taskOf name = some i → s.isDone i = true) : (s.register name).Sane where
  numbers i task hi := by
    obtain ⟨rfl, -⟩ | ⟨-, hi⟩ := update_eq_some hi
    · exact Nat.lt_succ_self _
    · exact Nat.lt_succ_of_lt (h.numbers i task hi)
  registered := by
    have hentries : (s.register name).taskOf = Function.update s.taskOf name (some s.started) := by
      funext name'
      simp only [State.taskOf, State.register, Function.update_apply]
      split <;> rfl
    have hunfinished : (s.register name).unfinished = Function.update s.unfinished s.started (some name) := by
      funext i
      simp only [State.unfinished, State.register, Function.update_apply]
      split <;> rfl
    have hnew : s.unfinished s.started = none := by
      rw [State.unfinished, Option.bind_eq_none_iff]
      exact fun task htask => absurd (h.numbers _ _ htask) (Nat.lt_irrefl _)
    rw [hentries, hunfinished, h.registered.enter_iff hnew]
    intro i hi
    obtain ⟨task, htask, hif⟩ := Option.bind_eq_some_iff.mp hi
    rw [Option.ite_none_left_eq_some] at hif
    have hdone := hfree i (h.registered i name hi)
    rw [isDone_eq htask, decide_eq_true_iff] at hdone
    exact hif.1 hdone
  statuses name' info hinfo := by
    simp only [State.register, Function.update_apply] at hinfo ⊢
    split at hinfo
    · obtain rfl := Option.some.inj hinfo
      rw [if_pos ‹_›]
      exact ⟨rfl, by simp⟩
    · rw [if_neg ‹_›]
      exact h.statuses name' info hinfo
  holder hold hheld := by
    rw [State.register, hlock] at hheld
    cases hheld
  old hold hheld := by
    rw [State.register, hlock] at hheld
    cases hheld

/-- A status is written by the registered task. -/
theorem State.Sane.writeStatus (h : s.Sane) {outcome : Outcome} (htask : s.tasks i = some task)
    (hstage : task.stage ≠ .done) : (s.writeStatus i task.name outcome).Sane := by
  have hentries : (s.writeStatus i task.name outcome).taskOf = s.taskOf := by
    funext name'
    simp only [State.taskOf, State.writeStatus, Function.update_apply]
    split
    · rename_i heq
      rw [heq, Option.map_map]
      rfl
    · rfl
  have hown : s.taskOf task.name = some i := by
    refine h.registered i task.name ?_
    rw [State.unfinished, htask, Option.bind_some, if_neg hstage]
  refine ⟨h.numbers, by rw [hentries]; exact h.registered, fun name' info hinfo => ?_, h.holder,
    by rw [hentries]; exact h.old⟩
  simp only [State.writeStatus, Function.update_apply] at hinfo ⊢
  split at hinfo
  · rename_i heq
    obtain ⟨old, hold, rfl⟩ := Option.map_eq_some_iff.mp hinfo
    refine ⟨heq ▸ (h.statuses _ old hold).1, fun j hj => ?_⟩
    rw [State.taskOf, hold, Option.map_some, Option.some_inj] at hown
    rw [← Option.some.inj hj, hown]
  · exact h.statuses name' info hinfo

/-- The entries of tasks that are done are deleted. -/
theorem State.Sane.cleanup (h : s.Sane) (hlock : s.lock = none) (c : ℕ) :
    (s.perform c .cleanupCompleted).Sane where
  numbers := h.numbers
  registered i name hi := by
    have hentry := h.registered i name hi
    obtain ⟨info, hinfo, rfl⟩ := Option.map_eq_some_iff.mp hentry
    obtain ⟨task, htask, hif⟩ := Option.bind_eq_some_iff.mp hi
    rw [Option.ite_none_left_eq_some] at hif
    have hkeep : s.isDone info.task = false := by
      rw [isDone_eq (s := s) htask, decide_eq_false hif.1]
    show ((s.entries name).filter fun info => ! s.isDone info.task).map TaskInfo.task = some info.task
    rw [hinfo, Option.filter_some_pos (by simpa using hkeep), Option.map_some]
  statuses name info hinfo := h.statuses name info (Option.eq_some_of_filter_eq_some hinfo)
  holder hold hheld := by
    rw [State.perform, hlock] at hheld
    cases hheld
  old hold hheld := by
    rw [State.perform, hlock] at hheld
    cases hheld

/-! ## Steps -/

/-- **What a step is**, by its label. -/
inductive Steps (s : State) : Label → State → Prop
  | call {c : ℕ} {call : Call} : s.calls c = none → (∀ hold, s.lock = some hold → hold.call ≠ c) →
      Steps s (.call c call) { s with calls := Function.update s.calls c (some call) }
  | leave {c : ℕ} {call : Call} : s.calls c = some call →
      Steps s (.leave c) { s with calls := Function.update s.calls c none }
  | enter {c : ℕ} {call : Call} : s.lock = none → s.calls c = some call →
      Steps s (.enter c) (State.perform { s with calls := Function.update s.calls c none } c call)
  | resume {hold : Hold} : s.lock = some hold → s.isDone hold.old = true →
      Steps s .resume (State.register { s with lock := none } hold.name)
  | task {i : ℕ} {event : TaskEvent} {task task' : Task} : s.tasks i = some task → task.next event = some task' →
      Steps s (.task i event) (s.setTask i task')
  | write {i : ℕ} {task : Task} {outcome : Outcome} : s.tasks i = some task → task.stage = .writing outcome →
      s.lock = none → task.mustCancel = false →
        Steps s (.write i) ((s.writeStatus i task.name outcome).setTask i { task with stage := .done })

/-- A step is one of these. -/
theorem steps_of_step {label : Label} (h : step s label = some t) : Steps s label t := by
  cases label with
  | call c call =>
    simp only [step, Option.ite_none_right_eq_some, Option.some.injEq, Option.isNone_iff_eq_none] at h
    obtain ⟨⟨hfree, hother⟩, rfl⟩ := h
    refine .call hfree fun hold hlock => ?_
    rw [hlock, Option.all_some, decide_eq_true_iff] at hother
    exact hother
  | leave c =>
    obtain ⟨call, hcall, rfl⟩ := Option.map_eq_some_iff.mp h
    exact .leave hcall
  | enter c =>
    simp only [step, Option.ite_none_right_eq_some, Option.isNone_iff_eq_none] at h
    obtain ⟨hlock, h⟩ := h
    obtain ⟨call, hcall, rfl⟩ := Option.map_eq_some_iff.mp h
    exact .enter hlock hcall
  | resume =>
    obtain ⟨hold, hlock, h⟩ := Option.bind_eq_some_iff.mp h
    rw [Option.ite_none_right_eq_some, Option.some_inj] at h
    obtain ⟨hdone, rfl⟩ := h
    exact .resume hlock hdone
  | task i event =>
    obtain ⟨task, htask, h⟩ := Option.bind_eq_some_iff.mp h
    obtain ⟨task', hnext, rfl⟩ := Option.map_eq_some_iff.mp h
    exact .task htask hnext
  | write i =>
    obtain ⟨task, htask, h⟩ := Option.bind_eq_some_iff.mp h
    split at h
    · rename_i outcome hstage
      rw [Option.ite_none_right_eq_some, Option.some_inj, Option.isNone_iff_eq_none] at h
      obtain ⟨⟨hlock, hcancel⟩, rfl⟩ := h
      exact .write htask hstage hlock hcancel
    all_goals cases h

/-- A call that waits, or does not wait any more. -/
theorem State.Sane.calls (h : s.Sane) {calls : ℕ → Option Call}
    (hcalls : ∀ hold, s.lock = some hold → calls hold.call = none) : State.Sane { s with calls := calls } :=
  ⟨h.numbers, h.registered, h.statuses, hcalls, h.old⟩

/-- A registered task that is not done is there. -/
theorem exists_of_isDone (h : s.isDone i = false) : ∃ task, s.tasks i = some task ∧ task.stage ≠ .done := by
  unfold State.isDone at h
  cases htask : s.tasks i with
  | none =>
    rw [htask] at h
    cases h
  | some task =>
    rw [htask, Option.all_some, decide_eq_false_iff_not] at h
    exact ⟨task, rfl, h⟩

/-- **What a call does keeps the invariants.** -/
theorem State.Sane.perform (h : s.Sane) (hlock : s.lock = none) {c : ℕ} (hcall : s.calls c = none)
    (call : Call) : (s.perform c call).Sane := by
  cases call with
  | registerTask name replaceExisting =>
    simp only [State.perform]
    split
    · rename_i info hinfo
      have hentry : s.taskOf name = some info.task := by rw [State.taskOf, hinfo, Option.map_some]
      split
      · split
        · rename_i hdone
          refine h.register hlock fun i hi => ?_
          rw [hentry, Option.some_inj] at hi
          rwa [← hi]
        · -- the old task is cancelled and awaited
          rename_i hdone
          rw [Bool.not_eq_true] at hdone
          obtain ⟨task, htask, hstage⟩ := exists_of_isDone hdone
          obtain ⟨hdone', -⟩ | ⟨task', htask', -, hset⟩ := cancel_cases s info.task
          · rw [hdone] at hdone'
            cases hdone'
          · have hcancel := h.cancel info.task
            rw [hset] at hcancel ⊢
            refine ⟨hcancel.numbers, hcancel.registered, hcancel.statuses, ?_, ?_⟩
            · rintro hold ⟨⟩
              exact hcall
            · rintro hold ⟨⟩
              exact ⟨hentry, _, Function.update_self .., fun _ => rfl⟩
      · exact h
    · rename_i hfree
      refine h.register hlock fun i hi => ?_
      rw [State.taskOf, hfree] at hi
      cases hi
  | cancelTask name =>
    simp only [State.perform]
    split
    · exact h.cancel _
    · exact h
  | runningTasks => exact h
  | cleanupCompleted => exact h.cleanup hlock c

/-- **Every step keeps the invariants.** -/
theorem State.Sane.step (h : s.Sane) {label : Label} (hstep : Steps s label t) : t.Sane := by
  cases hstep with
  | @call c call hfree hother =>
    exact h.calls fun hold hlock => (Function.update_of_ne (hother hold hlock) ..).trans (h.holder hold hlock)
  | @leave c call hcall =>
    refine h.calls fun hold hlock => ?_
    rw [Function.update_apply, h.holder hold hlock, ite_self]
  | @enter c call hlock hcall =>
    have hwithout : State.Sane { s with calls := Function.update s.calls c none } := by
      refine h.calls fun hold hheld => ?_
      rw [hlock] at hheld
      cases hheld
    exact hwithout.perform hlock (Function.update_self ..) call
  | @resume hold hlock hdone =>
    have hwithout : State.Sane { s with lock := none } := by
      refine ⟨h.numbers, h.registered, h.statuses, fun hold hheld => ?_, fun hold hheld => ?_⟩ <;> cases hheld
    refine hwithout.register rfl fun i hi => ?_
    obtain rfl := Option.some.inj ((h.old hold hlock).1.symm.trans hi)
    exact hdone
  | task htask hnext => exact h.next htask hnext
  | @write i task outcome htask hstage hlock hcancel =>
    refine (h.writeStatus htask (by simp [hstage])).setTask htask rfl (fun _ => rfl) ?_
    rintro ⟨⟩

/-! ## Waiting for the lock -/

/-- **Nobody waits for himself** iff the old task that is awaited does not wait for the lock. -/
theorem State.Sane.acyclic_iff (h : s.Sane) : Acyclic s.Waits ↔
    ∀ hold task, s.lock = some hold → s.tasks hold.old = some task → task.waitsForLock = false := by
  constructor
  · intro hacyclic hold task hlock htask
    by_contra hwaits
    rw [Bool.not_eq_false] at hwaits
    have hdone : s.isDone hold.old = false := by
      rw [isDone_eq htask, decide_eq_false_iff_not]
      intro hstage
      rw [Task.waitsForLock, hstage] at hwaits
      cases hwaits
    exact hacyclic (.call hold.call) (.tail (.single (.old hlock hdone)) (.task htask hwaits hlock))
  · intro hfree
    cases hlock : s.lock with
    | none =>
      intro a hcycle
      obtain ⟨b, hab, -⟩ := Relation.TransGen.head'_iff.mp hcycle
      cases hab <;> simp_all
    | some hold =>
      -- those who wait for the lock, then the call that has it, and then the old task
      refine Acyclic.of_rank (fun
        | .call c => if c = hold.call then 1 else 2
        | .task i => if i = hold.old then 0 else 2) ?_
      rintro a b (⟨hcall, hheld⟩ | ⟨htask, hwaits, hheld⟩ | ⟨hheld, hdone⟩)
      · rename_i c call hold'
        obtain rfl := Option.some.inj (hlock.symm.trans hheld)
        have hc : c ≠ hold.call := by
          rintro rfl
          rw [h.holder hold hlock] at hcall
          cases hcall
        simp [hc]
      · rename_i i task hold'
        obtain rfl := Option.some.inj (hlock.symm.trans hheld)
        have hi : i ≠ hold.old := by
          rintro rfl
          rw [hfree hold task hlock htask] at hwaits
          cases hwaits
        simp [hi]
      · obtain rfl := Option.some.inj (hlock.symm.trans hheld)
        simp

/-- The old task that is awaited needs no lock any more. -/
def State.Releasing (s : State) : Prop :=
  ∀ hold task, s.lock = some hold → s.tasks hold.old = some task → task.Releasing

/-- The old task that is awaited comes to the lock at last. -/
def State.Doomed (s : State) : Prop :=
  ∃ hold task, s.lock = some hold ∧ s.tasks hold.old = some task ∧ task.stage.replaceable = false

theorem State.Releasing.acyclic (h : s.Releasing) (hsane : s.Sane) : Acyclic s.Waits := by
  refine hsane.acyclic_iff.mpr fun hold task hlock htask => ?_
  obtain ⟨hstage, hcancel⟩ := h hold task hlock htask
  unfold Task.waitsForLock
  split
  · rename_i outcome heq
    rw [hcancel (by simp [heq]), Bool.not_true]
  all_goals rfl

/-- A task goes on. -/
theorem State.Releasing.setTask (h : s.Releasing) (htask : s.tasks i = some task)
    (hreleasing : task.Releasing → task'.Releasing) : (s.setTask i task').Releasing := by
  intro hold old hlock hold'
  obtain ⟨rfl, heq⟩ | ⟨-, hold'⟩ := update_eq_some hold'
  · obtain rfl := Option.some.inj heq
    exact hreleasing (h hold task hlock htask)
  · exact h hold old hlock hold'

/-- **`register_task` awaits a task that it has cancelled**: that one needs no lock iff it can be replaced. -/
theorem releasing_hold_iff {c : ℕ} :
    State.Releasing { s.setTask i { task with mustCancel := true } with lock := some ⟨c, name, i⟩ } ↔
      task.stage.replaceable = true := by
  have hset : (s.setTask i { task with mustCancel := true }).tasks i = some { task with mustCancel := true } :=
    Function.update_self ..
  constructor
  · exact fun h => (h ⟨c, name, i⟩ _ rfl hset).1
  · intro hreplaceable hold old hlock hold'
    obtain rfl := Option.some.inj hlock
    obtain rfl := Option.some.inj (hset.symm.trans hold')
    exact ⟨hreplaceable, fun _ => rfl⟩

/-- **A call that gets the lock** keeps it for a task that needs none iff it meets the condition. -/
theorem perform_releasing_iff {c : ℕ} {call : Call} (hlock : s.lock = none) (hcall : s.calls c = some call) :
    (State.perform { s with calls := Function.update s.calls c none } c call).Releasing ↔
      Replaces s (.enter c) := by
  have hfree {u : State} (hlock : u.lock = none) : u.Releasing := fun hold task hheld => by
    rw [hlock] at hheld
    cases hheld
  have hother (hne : ∀ name, call ≠ .registerTask name true) : Replaces s (.enter c) := by
    intro name info task heq
    rw [hcall] at heq
    exact absurd (Option.some.inj heq) (hne name)
  cases call with
  | registerTask name replaceExisting =>
    simp only [State.perform]
    split
    · rename_i info hinfo
      cases replaceExisting with
      | false => exact iff_of_true (hfree hlock) (hother (by simp))
      | true =>
        -- the condition is about this entry
        have hreplaces : Replaces s (.enter c) ↔
            ∀ task, s.tasks info.task = some task → task.stage.replaceable = true := by
          constructor
          · exact fun h task htask => h name info task hcall hinfo htask
          · intro h name' info' task hcall' hinfo' htask
            rw [hcall, Option.some_inj, Call.registerTask.injEq] at hcall'
            obtain ⟨rfl, -⟩ := hcall'
            obtain rfl := Option.some.inj (hinfo.symm.trans hinfo')
            exact h task htask
        rw [if_pos rfl, hreplaces]
        obtain ⟨hdone, -⟩ | ⟨task, htask, hstage, hset⟩ :=
          cancel_cases { s with calls := Function.update s.calls c none } info.task
        · rw [if_pos hdone]
          refine iff_of_true (hfree hlock) fun task htask => ?_
          have hstage : s.isDone info.task = true := hdone
          rw [isDone_eq htask, decide_eq_true_iff] at hstage
          rw [hstage]
          rfl
        · have hdone : State.isDone { s with calls := Function.update s.calls c none } info.task = false := by
            rw [isDone_eq htask, decide_eq_false hstage]
          rw [hdone, if_neg Bool.false_ne_true, hset, releasing_hold_iff]
          constructor
          · intro hreplaceable task' htask'
            obtain rfl := Option.some.inj (htask.symm.trans htask')
            exact hreplaceable
          · exact fun h => h task htask
    · rename_i hnone
      refine iff_of_true (hfree hlock) fun name' info task hcall' hinfo => ?_
      rw [hcall, Option.some_inj, Call.registerTask.injEq] at hcall'
      obtain ⟨rfl, -⟩ := hcall'
      cases hnone.symm.trans hinfo
  | cancelTask name =>
    refine iff_of_true (hfree ?_) (hother (by simp))
    simp only [State.perform]
    split
    · rename_i info hinfo
      obtain ⟨-, hsame⟩ | ⟨task, -, -, hset⟩ :=
        cancel_cases { s with calls := Function.update s.calls c none } info.task
      · rw [hsame, hlock]
      · rw [hset, State.setTask, hlock]
    · exact hlock
  | runningTasks | cleanupCompleted => exact iff_of_true (hfree hlock) (hother (by simp))

/-- **A step lets the old task release the lock** iff it meets the condition. -/
theorem State.Releasing.step_iff (h : s.Releasing) {label : Label} (hstep : Steps s label t) :
    t.Releasing ↔ Replaces s label := by
  have hfree {u : State} (hlock : u.lock = none) : u.Releasing := fun hold task hheld => by
    rw [hlock] at hheld
    cases hheld
  cases hstep with
  | call | leave => exact iff_of_true h trivial
  | enter hlock hcall => exact perform_releasing_iff hlock hcall
  | resume => exact iff_of_true (hfree rfl) trivial
  | task htask hnext => exact iff_of_true (h.setTask htask (Task.next_cases hnext).2.2.2.1) trivial
  | write _ _ hlock _ => exact iff_of_true (hfree hlock) trivial

/-- **What is doomed stays so**, as long as nobody waits for himself. -/
theorem State.Doomed.step (h : s.Doomed) {label : Label} (hstep : Steps s label t) (hsane : t.Sane)
    (hacyclic : Acyclic t.Waits) : t.Doomed := by
  obtain ⟨hold, task, hlock, htask, hstage⟩ := h
  have hdone : s.isDone hold.old = false := by
    rw [isDone_eq htask, decide_eq_false_iff_not]
    intro hdone
    rw [hdone] at hstage
    cases hstage
  cases hstep with
  | call | leave => exact ⟨hold, task, hlock, htask, hstage⟩
  | enter hnone _ | write _ _ hnone _ =>
    rw [hlock] at hnone
    cases hnone
  | @resume hold' hlock' hdone' =>
    obtain rfl := Option.some.inj (hlock.symm.trans hlock')
    rw [hdone] at hdone'
    cases hdone'
  | @task i event old next htask' hnext =>
    by_cases hi : hold.old = i
    · subst hi
      obtain rfl : task = old := Option.some.inj (htask.symm.trans htask')
      have hset : (s.setTask hold.old next).tasks hold.old = some next := Function.update_self ..
      obtain hstage' | hwaits := (Task.next_cases hnext).2.2.2.2 hstage
      · exact ⟨hold, next, hlock, hset, hstage'⟩
      · rw [hsane.acyclic_iff.mp hacyclic hold next hlock hset] at hwaits
        cases hwaits
    · exact ⟨hold, task, hlock, (Function.update_of_ne hi ..).trans htask, hstage⟩

/-- A task that needs no lock any more comes to its end. -/
theorem Task.Releasing.ends (h : task.Releasing) (hstage : task.stage ≠ .done) :
    ∃ event task', task.next event = some task' ∧ task'.stage = .done := by
  obtain ⟨name, stage, mustCancel⟩ := task
  obtain ⟨hreplaceable, hcancel⟩ := h
  obtain rfl : mustCancel = true := hcancel hstage
  cases stage with
  | created => exact ⟨.begin, ⟨name, .done, false⟩, rfl, rfl⟩
  | running => cases hreplaceable
  | writing outcome =>
    cases outcome with
    | completed => cases hreplaceable
    | failed | cancelled => exact ⟨.interrupt, ⟨name, .done, false⟩, rfl, rfl⟩
  | done => exact absurd rfl hstage

/-- What is doomed keeps the lock on every run on which nobody waits for himself. -/
theorem State.Doomed.lock_of_run (h : s.Doomed) (hsane : s.Sane) {labels : List Label}
    (hrun : Run Tasks.step Unblocked s labels t) : t.lock ≠ none := by
  have hkeeps (s : State) (label : Label) (u : State) (hI : s.Sane ∧ s.Doomed) (ha : Unblocked s label)
      (hs : Tasks.step s label = some u) : u.Sane ∧ u.Doomed := by
    obtain ⟨v, hv, hacyclic⟩ := ha
    obtain rfl := Option.some.inj (hs.symm.trans hv)
    have hsane' := hI.1.step (steps_of_step hs)
    exact ⟨hsane', hI.2.step (steps_of_step hs) hsane' hacyclic⟩
  obtain ⟨-, hold, -, hlock, -⟩ := hrun.invariant hkeeps ⟨hsane, h⟩
  rw [hlock]
  exact Option.some_ne_none hold

/-- Where the old task needs no lock, its end and then the end of the call are such a run. -/
theorem State.Releasing.ends (h : s.Releasing) (hsane : s.Sane) {hold : Hold} (hlock : s.lock = some hold) :
    ∃ labels t, Run Tasks.step Unblocked s labels t ∧ t.lock = none := by
  have hresume {u : State} (hu : u.Sane) (hreleasing : u.Releasing) (hheld : u.lock = some hold)
      (hdone : u.isDone hold.old = true) : ∃ labels t, Run Tasks.step Unblocked u labels t ∧ t.lock = none := by
    have hstep : Tasks.step u .resume = some (State.register { u with lock := none } hold.name) := by
      rw [Tasks.step, hheld, Option.bind_some, if_pos hdone]
    have hsteps := steps_of_step hstep
    have hacyclic := State.Releasing.acyclic ((hreleasing.step_iff hsteps).mpr trivial) (hu.step hsteps)
    exact ⟨[.resume], _, .cons ⟨_, hstep, hacyclic⟩ hstep (.nil _), rfl⟩
  obtain ⟨-, task, htask, -⟩ := hsane.old hold hlock
  by_cases hstage : task.stage = .done
  · exact hresume hsane h hlock (by rw [isDone_eq htask, decide_eq_true hstage])
  · -- the old task ends first
    obtain ⟨event, task', hevent, hend⟩ := (h hold task hlock htask).ends hstage
    have hstep : Tasks.step s (.task hold.old event) = some (s.setTask hold.old task') := by
      rw [Tasks.step, htask, Option.bind_some, hevent, Option.map_some]
    have hsteps := steps_of_step hstep
    have hsane' := hsane.step hsteps
    have hreleasing' := (h.step_iff hsteps).mpr trivial
    have htask' : (s.setTask hold.old task').tasks hold.old = some task' := Function.update_self ..
    obtain ⟨labels, t, hrun, hnone⟩ :=
      hresume hsane' hreleasing' hlock (by rw [isDone_eq htask', decide_eq_true hend])
    exact ⟨_, t, .cons ⟨_, hstep, hreleasing'.acyclic hsane'⟩ hstep hrun, hnone⟩

/-- **The manager is sound** iff the old task that is awaited needs no lock any more. -/
theorem State.Sane.sound_iff_releasing (hsane : s.Sane) : s.Sound ↔ s.Releasing := by
  constructor
  · rintro ⟨hacyclic, hends, -⟩ hold task hlock htask
    have hreplaceable : task.stage.replaceable = true := by
      by_contra hstage
      rw [Bool.not_eq_true] at hstage
      obtain ⟨labels, t, hrun, hnone⟩ := hends (by rw [hlock]; rfl)
      exact State.Doomed.lock_of_run ⟨hold, task, hlock, htask, hstage⟩ hsane hrun hnone
    refine ⟨hreplaceable, fun hdone => ?_⟩
    cases hstage : task.stage with
    | created =>
      obtain ⟨-, task', htask', hcreated⟩ := hsane.old hold hlock
      obtain rfl := Option.some.inj (htask.symm.trans htask')
      exact hcreated hstage
    | running =>
      rw [hstage] at hreplaceable
      cases hreplaceable
    | writing outcome =>
      -- it would wait for the lock
      have hwaits := hsane.acyclic_iff.mp hacyclic hold task hlock htask
      rw [Task.waitsForLock, hstage] at hwaits
      simpa using hwaits
    | done => exact absurd hstage hdone
  · intro h
    refine ⟨h.acyclic hsane, fun hlock => ?_, hsane.statuses⟩
    obtain ⟨hold, hlock⟩ := Option.isSome_iff_exists.mp hlock
    exact h.ends hsane hlock

theorem sane_start : State.Sane {} := by
  refine ⟨fun i task h => ?_, fun i name h => ?_, fun name info h => ?_, fun hold h => ?_, fun hold h => ?_⟩ <;>
    cases h

/-- **The manager is sound** along a run iff all its steps meet the condition. -/
theorem manager_sound_iff (labels : List Label) (t : State) :
    Run step (fun s label => ∃ t ∈ step s label, t.Sound) {} labels t ↔ Run step Replaces {} labels t := by
  refine Run.leadsTo_iff (I := fun s => s.Sane ∧ s.Releasing) (fun s label t h hs => ?_)
    (fun s label t h hs hsound => ?_) ⟨sane_start, fun hold task h => by cases h⟩
  · rw [(h.1.step (steps_of_step hs)).sound_iff_releasing]
    exact h.2.step_iff (steps_of_step hs)
  · have hsane := h.1.step (steps_of_step hs)
    exact ⟨hsane, hsane.sound_iff_releasing.mp hsound⟩

/-- A running task is replaced, and comes to the handler of its cancellation. -/
def replacedRunning : List Label := [
  .call 0 (.registerTask [] false), .enter 0, .task 0 .begin,
  .call 1 (.registerTask [] true), .enter 1, .task 0 (.run (some .cancelled))]

/-- The manager after it. -/
def deadlockedState : State := (exec step Always {} replacedRunning).getD {}

/-- **The new registration and the old task wait for each other.** -/
theorem replacedRunning_deadlocks :
    Run step Always {} replacedRunning deadlockedState ∧ ¬ deadlockedState.Sound := by
  refine ⟨.of_isSome (by decide), fun hsound => hsound.acyclic (.call 1) ?_⟩
  have hlock : deadlockedState.lock = some ⟨1, [], 0⟩ := by rfl
  have htask : deadlockedState.tasks 0 = some ⟨[], .writing .cancelled, false⟩ := by rfl
  exact .tail (.single (.old hlock (by decide))) (.task htask rfl hlock)

end DBClaw.Tasks
