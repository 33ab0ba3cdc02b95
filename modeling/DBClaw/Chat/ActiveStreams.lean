import DBClaw.Library.Registry
import DBClaw.Library.Runs
import Mathlib.Logic.Function.Basic

/-! # The running stream of a session
`ACTIVE_STREAM_TASKS` has the task that answers in a session. A message of a client is refused while there is
one; a request to resolve an approval writes its own task over it, and whatever ends removes the entry of the
session, whoever it belongs to. `exclusive_iff` says which steps leave one stream a session, which a cancel
reaches. -/

namespace DBClaw.Chat.ActiveStreams

open Registries Runs

abbrev SessionId := ℕ

/-- A task of the registry: `_run_stream`, or a request in `resolve_chat_approval`, which streams where the
approval is pending and is approved. -/
structure Task where
  session : SessionId
  streams : Bool
  begun : Bool
  cancelled : Bool := false
  deriving DecidableEq

/-- `ACTIVE_STREAM_TASKS` and the tasks that are not done, by number; and for the record, every clean-up with
the entry that it removed. -/
structure State where
  activeStreamTasks : SessionId → Option ℕ := fun _ => none
  tasks : ℕ → Option Task := fun _ => none
  started : ℕ := 0
  removals : List (ℕ × ℕ) := []

namespace State

variable (s : State)

/-- A task is created and written to the registry. -/
def register (task : Task) : State :=
  { s with
    activeStreamTasks := Function.update s.activeStreamTasks task.session (some s.started)
    tasks := Function.update s.tasks s.started (some task)
    started := s.started + 1 }

/-- The session's entry, where `task and not task.done()`. -/
def activeTask (session : SessionId) : Option (ℕ × Task) :=
  (s.activeStreamTasks session).bind fun i => (s.tasks i).map fun task => (i, task)

/-- A task goes on, or is done. -/
def setTask (i : ℕ) (task : Option Task) : State := { s with tasks := Function.update s.tasks i task }

/-- The `finally` of both handlers, with the end of the task. -/
def cleanUp (i : ℕ) (session : SessionId) : State :=
  { s with
    activeStreamTasks := Function.update s.activeStreamTasks session none
    tasks := Function.update s.tasks i none
    removals := s.removals ++ ((s.activeStreamTasks session).map fun j => (i, j)).toList }

end State

/-- What happens in the router. -/
inductive Label
  /-- A client sends a user message. -/
  | message (session : SessionId)
  /-- A client resolves an approval. -/
  | resolve (session : SessionId) (streams : Bool)
  | cancel (session : SessionId)
  /-- A client connects again. -/
  | connect (session : SessionId)
  /-- The event loop comes to a new task. -/
  | begin (i : ℕ)
  /-- A task has come to its end, by itself or by a cancellation. -/
  | close (i : ℕ)

/-- A step of the router. -/
def step (s : State) : Label → Option State
  | .message session =>
    match s.activeTask session with
    | some _ => some s
    | none => some (s.register ⟨session, true, false, false⟩)
  -- no check here
  | .resolve session streams => some (s.register ⟨session, streams, true, false⟩)
  | .cancel session =>
    match s.activeTask session with
    | some (i, task) => some (s.setTask i (some { task with cancelled := true }))
    | none => some s
  | .connect _ => some s
  | .begin i =>
    match s.tasks i with
    | some task =>
      if task.begun then none
      -- a task that is cancelled before it has begun never comes to its `finally`
      else if task.cancelled then some (s.setTask i none)
      else some (s.setTask i (some { task with begun := true }))
    | none => none
  | .close i =>
    match s.tasks i with
    | some task => if task.begun then some (s.cleanUp i task.session) else none
    | none => none

/-! ## One stream -/

/-- The session in which a task streams. -/
def Task.streamsIn (task : Task) : Option SessionId := if task.streams then some task.session else none

/-- The session in which the task with this number streams. -/
def State.streamsIn (s : State) (i : ℕ) : Option SessionId := (s.tasks i).bind Task.streamsIn

/-- **One active stream per session**: no two stream in one session, the one that does is the entry of the
session, a cancel reaches it, and no clean-up has removed the entry of a later task. -/
structure State.Exclusive (s : State) : Prop where
  alone : ∀ session i j, s.streamsIn i = some session → s.streamsIn j = some session → i = j
  registered : ∀ session i, s.streamsIn i = some session → s.activeStreamTasks session = some i
  reached : ∀ session i, s.streamsIn i = some session → ∃ t ∈ step s (.cancel session),
    ∃ task, t.tasks i = some task ∧ task.cancelled = true
  removals : ∀ removal ∈ s.removals, removal.2 ≤ removal.1

/-- **The condition on a step**: an approval is resolved while nothing streams in the session, and what ends
finds no entry but its own. -/
def Undisturbed (s : State) : Label → Prop
  | .resolve session _ => ∀ i, s.streamsIn i ≠ some session
  | .close i => ∀ task j, s.tasks i = some task → s.activeStreamTasks task.session = some j → j = i
  | _ => True

variable {s t : State} {i : ℕ} {session : SessionId}

/-- It is all a matter of the registry. -/
theorem exclusive_iff_registered : s.Exclusive ↔
    Registered s.activeStreamTasks s.streamsIn ∧ ∀ removal ∈ s.removals, removal.2 ≤ removal.1 := by
  constructor
  · exact fun h => ⟨fun i session => h.registered session i, h.removals⟩
  · rintro ⟨hregistered, hremovals⟩
    refine ⟨fun session i j => hregistered.unique, fun session i => hregistered i session, ?_, hremovals⟩
    intro session i hi
    obtain ⟨task, htask, -⟩ := Option.bind_eq_some_iff.mp hi
    have hactive : s.activeTask session = some (i, task) := by
      rw [State.activeTask, hregistered i session hi, Option.bind_some, htask, Option.map_some]
    refine ⟨s.setTask i (some { task with cancelled := true }), ?_, _, Function.update_self .., rfl⟩
    rw [step, hactive, Option.mem_def]

/-- Where a task goes on or ends, what streams changes there only. -/
theorem streamsIn_update {task : Option Task} (htasks : t.tasks = Function.update s.tasks i task) :
    t.streamsIn = Function.update s.streamsIn i (task.bind Task.streamsIn) := by
  funext j
  by_cases hj : j = i
  · rw [hj, State.streamsIn, htasks, Function.update_self, Function.update_self]
  · rw [State.streamsIn, htasks, Function.update_of_ne hj, Function.update_of_ne hj, State.streamsIn]

/-! ## Steps -/

/-- The tasks are of those started so far, and no task is later than the entry of its session. -/
structure State.Sane (s : State) : Prop where
  tasks : ∀ i task, s.tasks i = some task → i < s.started
  newest : ∀ i task j, s.tasks i = some task → s.activeStreamTasks task.session = some j → i ≤ j

theorem sane_start : State.Sane {} where
  tasks i task h := by cases h
  newest i task j h := by cases h

theorem State.Sane.register (h : s.Sane) (task : Task) : (s.register task).Sane where
  tasks i task' hi := by
    obtain ⟨rfl, -⟩ | ⟨-, hi⟩ := update_eq_some hi
    · exact Nat.lt_succ_self _
    · exact Nat.lt_succ_of_lt (h.tasks i task' hi)
  newest i task' j hi hj := by
    simp only [State.register, Function.update_apply] at hj
    obtain ⟨rfl, htask⟩ | ⟨-, hi⟩ := update_eq_some hi
    · obtain rfl := Option.some.inj htask
      rw [if_pos rfl] at hj
      exact Nat.le_of_eq (Option.some.inj hj)
    · split at hj
      · obtain rfl := Option.some.inj hj
        exact Nat.le_of_lt (h.tasks i task' hi)
      · exact h.newest i task' j hi hj

/-- A task that goes on in its session, or ends. -/
theorem State.Sane.setTask (h : s.Sane) {task : Task} (htask : s.tasks i = some task) {next : Option Task}
    (hnext : ∀ task' ∈ next, task'.session = task.session) : (s.setTask i next).Sane where
  tasks j task' hj := by
    obtain ⟨rfl, -⟩ | ⟨-, hj⟩ := update_eq_some hj
    · exact h.tasks j task htask
    · exact h.tasks j task' hj
  newest j task' k hj hk := by
    obtain ⟨rfl, hnext'⟩ | ⟨-, hj⟩ := update_eq_some hj
    · rw [hnext task' hnext'] at hk
      exact h.newest j task k htask hk
    · exact h.newest j task' k hj hk

theorem State.Sane.cleanUp (h : s.Sane) : (s.cleanUp i session).Sane where
  tasks j task hj := by
    obtain ⟨-, hnone⟩ | ⟨-, hj⟩ := update_eq_some hj
    · cases hnone
    · exact h.tasks j task hj
  newest j task k hj hk := by
    obtain ⟨-, hnone⟩ | ⟨-, hj⟩ := update_eq_some hj
    · cases hnone
    · obtain ⟨-, hnone⟩ | ⟨-, hk⟩ := update_eq_some hk
      · cases hnone
      · exact h.newest j task k hj hk

/-- **A task is registered**: this is right iff nothing streams in its session. -/
theorem State.Exclusive.register_iff (h : s.Exclusive) (hsane : s.Sane) (task : Task) :
    (s.register task).Exclusive ↔ ∀ i, s.streamsIn i ≠ some task.session := by
  obtain ⟨hregistered, hremovals⟩ := exclusive_iff_registered.mp h
  have hnew : s.streamsIn s.started = none := by
    rw [State.streamsIn, Option.bind_eq_none_iff]
    exact fun task' htask' => absurd (hsane.tasks _ _ htask') (Nat.lt_irrefl _)
  have hafter : (s.register task).streamsIn = Function.update s.streamsIn s.started task.streamsIn :=
    @streamsIn_update s (s.register task) s.started (some task) rfl
  rw [exclusive_iff_registered, hafter]
  show Registered (Function.update s.activeStreamTasks task.session (some s.started)) _ ∧
    (∀ removal ∈ s.removals, removal.2 ≤ removal.1) ↔ _
  rw [and_iff_left hremovals]
  by_cases hstreams : task.streams = true
  · rw [Task.streamsIn, if_pos hstreams]
    exact hregistered.enter_iff hnew
  · -- its entry is written all the same
    have hsame : Function.update s.streamsIn s.started task.streamsIn = s.streamsIn := by
      rw [Function.update_eq_self_iff, Task.streamsIn, if_neg hstreams, hnew]
    rw [hsame, hregistered.write_iff]
    constructor
    · intro hentry j hj
      obtain rfl := Option.some.inj (hentry j hj)
      rw [hnew] at hj
      cases hj
    · exact fun hfree j hj => absurd hj (hfree j)

/-- A task that goes on where it streams, or ends. -/
theorem State.Exclusive.setTask (h : s.Exclusive) {task : Task} (htask : s.tasks i = some task)
    {next : Option Task} (hnext : ∀ task' ∈ next, task'.streamsIn = task.streamsIn) :
    (s.setTask i next).Exclusive := by
  obtain ⟨hregistered, hremovals⟩ := exclusive_iff_registered.mp h
  refine exclusive_iff_registered.mpr ⟨hregistered.mono fun j session hj => ?_, hremovals⟩
  obtain ⟨task', htask', hstreams⟩ := Option.bind_eq_some_iff.mp hj
  obtain ⟨rfl, hnext'⟩ | ⟨-, htask'⟩ := update_eq_some htask'
  · rw [State.streamsIn, htask, Option.bind_some, ← hnext task' hnext', hstreams]
  · rw [State.streamsIn, htask', Option.bind_some, hstreams]

/-- **A task cleans up**: this is right iff it finds no entry but its own. -/
theorem State.Exclusive.cleanUp_iff (h : s.Exclusive) (hsane : s.Sane) {task : Task}
    (htask : s.tasks i = some task) : (s.cleanUp i task.session).Exclusive ↔
      ∀ j, s.activeStreamTasks task.session = some j → j = i := by
  obtain ⟨hregistered, hremovals⟩ := exclusive_iff_registered.mp h
  have hafter : (s.cleanUp i task.session).streamsIn = Function.update s.streamsIn i none :=
    @streamsIn_update s (s.cleanUp i task.session) i none rfl
  rw [exclusive_iff_registered, hafter]
  constructor
  · rintro ⟨-, hremovals'⟩ j hj
    have hrecord : (i, j) ∈ (s.cleanUp i task.session).removals :=
      List.mem_append_right _ (by rw [hj]; exact List.mem_singleton_self _)
    exact Nat.le_antisymm (hremovals' _ hrecord) (hsane.newest i task j htask hj)
  · intro hown
    constructor
    · -- nothing else streams in the session
      show Registered (Function.update s.activeStreamTasks task.session none) _
      have hless : Registered s.activeStreamTasks (Function.update s.streamsIn i none) :=
        hregistered.mono fun j session hj => by
          obtain ⟨-, hnone⟩ | ⟨-, hj⟩ := update_eq_some hj
          · cases hnone
          · exact hj
      refine hless.write_iff.mpr fun j hj => ?_
      obtain ⟨-, hnone⟩ | ⟨hne, hj⟩ := update_eq_some hj
      · cases hnone
      · exact absurd (hown j (hregistered j _ hj)) hne
    · intro removal hremoval
      obtain hremoval | hremoval := List.mem_append.mp hremoval
      · exact hremovals removal hremoval
      · obtain ⟨j, hj, rfl⟩ := Option.map_eq_some_iff.mp (Option.mem_toList.mp hremoval)
        exact Nat.le_of_eq (hown j hj)

/-- What a cancellation or a beginning leaves as it is. -/
theorem State.Exclusive.goOn (h : s.Exclusive) (hsane : s.Sane) {task : Task} (htask : s.tasks i = some task)
    (task' : Task) (hsession : task'.session = task.session) (hstreams : task'.streams = task.streams) :
    (s.setTask i (some task')).Exclusive ∧ (s.setTask i (some task')).Sane := by
  refine ⟨h.setTask htask fun next hnext => ?_, hsane.setTask htask fun next hnext => ?_⟩
  · obtain rfl := Option.some.inj hnext
    rw [Task.streamsIn, hsession, hstreams, Task.streamsIn]
  · obtain rfl := Option.some.inj hnext
    exact hsession

/-- The session's task is registered and not done. -/
theorem State.activeTask_eq_some {task : Task} (h : s.activeTask session = some (i, task)) :
    s.activeStreamTasks session = some i ∧ s.tasks i = some task := by
  obtain ⟨j, hj, hmap⟩ := Option.bind_eq_some_iff.mp h
  obtain ⟨task', htask, heq⟩ := Option.map_eq_some_iff.mp hmap
  obtain ⟨rfl, rfl⟩ := Prod.mk.inj heq
  exact ⟨hj, htask⟩

/-- Where there is none, nothing streams in the session. -/
theorem State.Exclusive.free (h : s.Exclusive) (hactive : s.activeTask session = none) (i : ℕ) :
    s.streamsIn i ≠ some session := by
  intro hi
  obtain ⟨task, htask, -⟩ := Option.bind_eq_some_iff.mp hi
  rw [State.activeTask, h.registered session i hi, Option.bind_some, htask] at hactive
  cases hactive

/-- **A step is right** iff it meets the condition, and the numbers stay in order. -/
theorem State.Exclusive.step_iff (h : s.Exclusive) (hsane : s.Sane) {label : Label}
    (hstep : step s label = some t) : (t.Exclusive ↔ Undisturbed s label) ∧ t.Sane := by
  cases label with
  | message session =>
    simp only [step] at hstep
    split at hstep
    · obtain rfl := Option.some.inj hstep
      exact ⟨iff_of_true h trivial, hsane⟩
    · rename_i hactive
      obtain rfl := Option.some.inj hstep
      exact ⟨iff_of_true ((h.register_iff hsane _).mpr (h.free hactive)) trivial, hsane.register _⟩
  | resolve session streams =>
    obtain rfl := Option.some.inj hstep
    exact ⟨h.register_iff hsane _, hsane.register _⟩
  | cancel session =>
    simp only [step] at hstep
    split at hstep
    · rename_i i task hactive
      obtain rfl := Option.some.inj hstep
      have htask := (State.activeTask_eq_some hactive).2
      obtain ⟨hexclusive, hsane'⟩ := h.goOn hsane htask { task with cancelled := true } rfl rfl
      exact ⟨iff_of_true hexclusive trivial, hsane'⟩
    · obtain rfl := Option.some.inj hstep
      exact ⟨iff_of_true h trivial, hsane⟩
  | connect session =>
    obtain rfl := Option.some.inj hstep
    exact ⟨iff_of_true h trivial, hsane⟩
  | begin i =>
    simp only [step] at hstep
    split at hstep
    · rename_i task htask
      split at hstep
      · cases hstep
      · split at hstep
        · -- cancelled before it has begun
          obtain rfl := Option.some.inj hstep
          exact ⟨iff_of_true (h.setTask htask (by simp)) trivial, hsane.setTask htask (by simp)⟩
        · obtain rfl := Option.some.inj hstep
          obtain ⟨hexclusive, hsane'⟩ := h.goOn hsane htask { task with begun := true } rfl rfl
          exact ⟨iff_of_true hexclusive trivial, hsane'⟩
    · cases hstep
  | close i =>
    simp only [step] at hstep
    split at hstep
    · rename_i task htask
      split at hstep
      · obtain rfl := Option.some.inj hstep
        refine ⟨(h.cleanUp_iff hsane htask).trans ⟨fun hown task' j htask' => ?_, fun hown j => ?_⟩,
          hsane.cleanUp⟩
        · obtain rfl : task = task' := Option.some.inj (htask.symm.trans htask')
          exact hown j
        · exact hown task j htask
      · cases hstep
    · cases hstep

/-- Nothing runs at the start. -/
theorem exclusive_start : State.Exclusive {} := by
  refine exclusive_iff_registered.mpr ⟨fun i session hi => ?_, by simp⟩
  cases hi

/-- **There is one active stream per session** along a run iff all its steps meet the condition. -/
theorem exclusive_iff (labels : List Label) (t : State) :
    Run step (fun s label => ∃ t ∈ step s label, t.Exclusive) {} labels t ↔ Run step Undisturbed {} labels t :=
  Run.leadsTo_iff (I := fun s => s.Exclusive ∧ s.Sane) (fun _ _ _ h hs => (h.1.step_iff h.2 hs).1)
    (fun _ _ _ h hs hexclusive => ⟨hexclusive, (h.1.step_iff h.2 hs).2⟩) ⟨exclusive_start, sane_start⟩

/-- A client approves a call while another message is answered, and cancels. -/
def approvedMeanwhile : List Label := [.message 1, .begin 0, .resolve 1 true, .cancel 1]

/-- The router after it. -/
def disturbedState : State := (exec step Always {} approvedMeanwhile).getD {}

/-- **Two tasks stream in the session**, and the cancel has reached the later one only. -/
theorem approvedMeanwhile_disturbs :
    Run step Always {} approvedMeanwhile disturbedState ∧ ¬ disturbedState.Exclusive := by
  refine ⟨.of_isSome (by decide), fun hexclusive => ?_⟩
  have hfirst : disturbedState.streamsIn 0 = some 1 := by decide
  have hsecond : disturbedState.streamsIn 1 = some 1 := by decide
  exact absurd (hexclusive.alone 1 0 1 hfirst hsecond) (by decide)

end DBClaw.Chat.ActiveStreams
