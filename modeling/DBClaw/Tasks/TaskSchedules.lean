import DBClaw.Library.Runs
import Mathlib.Data.Int.Order.Basic
import Mathlib.Data.List.AList

/-! # Task schedules
An edit of a scheduled task commits its row and then starts `sync_task_schedule`, which reads the row
again, replaces or removes the task's job, and commits when it runs next. Each wait is a point where
another edit or sync can go on. `jobs_agree` says when the jobs agree with the rows all the same, once
everything has returned. -/

namespace DBClaw.TaskSchedules

open Runs

/-- The functions of a schedule: `normalize_schedule_config` and `build_trigger`, `none` where they
raise, and the trigger's next fire time from now on, which APScheduler computes when it adds a job. -/
structure Schedules (Config Trigger : Type) where
  normalizeScheduleConfig : String → Config → Option Config
  buildTrigger : String → Config → Option Trigger
  nextFireTime : Trigger → ℤ → Option ℤ

/-! ## Rows and jobs -/

variable {Config Trigger : Type}

/-- **`ScheduledTask`**, as far as scheduling reads and writes it. -/
structure ScheduledTask (Config : Type) where
  scheduleType : String
  scheduleConfig : Config
  enabled : Bool
  maxConcurrentRuns : ℤ
  nextRunAt : Option ℤ := none
  isDeleted : Bool := false

/-- A job of the scheduler; its id is the task's. -/
structure Job (Trigger : Type) where
  trigger : Trigger
  maxInstances : ℤ

/-- The fields of `ScheduledTaskCreate` that scheduling reads. -/
structure ScheduledTaskCreate (Config : Type) where
  scheduleConfig : Config
  enabled : Bool
  maxConcurrentRuns : ℤ

/-- Those of `ScheduledTaskUpdate`. -/
structure ScheduledTaskUpdate (Config : Type) where
  scheduleType : Option String := none
  scheduleConfig : Option Config := none
  enabled : Option Bool := none
  maxConcurrentRuns : Option ℤ := none

/-- What an operation that has loaded a row is to do with it. -/
inductive Edit (Config : Type)
  | update (data : ScheduledTaskUpdate Config)
  | delete

/-- Where an operation stands; a sync is followed by syncs of the tasks in `rest`. -/
inductive Stage (Config : Type)
  | done
  /-- `update_task` or `delete_task` has loaded the row. -/
  | loaded (i : ℕ) (row : ScheduledTask Config) (edit : Edit Config)
  /-- `refresh_all_scheduled_tasks` has listed the jobs, and has then read the enabled tasks. -/
  | listed (existing : List ℕ)
  | selected (existing enabled : List ℕ)
  /-- `sync_task_schedule` is to read the row, and has read it. -/
  | syncing (i : ℕ) (rest : List ℕ)
  | read (i : ℕ) (row : Option (ScheduledTask Config)) (rest : List ℕ)
  /-- It is to commit `next_run_at`, which was `before` when it read it. -/
  | committing (i : ℕ) (before after : Option ℤ) (rest : List ℕ)

/-- The rows, the row of a task at its id; the jobs by the ids of their tasks; and the operations. -/
structure State (Config Trigger : Type) where
  rows : List (ScheduledTask Config) := []
  jobs : AList fun _ : ℕ => Job Trigger := ∅
  stages : ℕ → Stage Config := fun _ => .done

/-- `alive_filter`. -/
def alive (row : Option (ScheduledTask Config)) : Option (ScheduledTask Config) :=
  row.filter fun task => !task.isDeleted

/-- A commit writes the columns that differ from what was loaded. -/
def column {α : Type} [DecidableEq α] (loaded new current : α) : α :=
  if new = loaded then current else new

/-- The columns of a row after a commit of an object. -/
def ScheduledTask.commit [DecidableEq Config] (loaded new current : ScheduledTask Config) : ScheduledTask Config where
  scheduleType := column loaded.scheduleType new.scheduleType current.scheduleType
  scheduleConfig := column loaded.scheduleConfig new.scheduleConfig current.scheduleConfig
  enabled := column loaded.enabled new.enabled current.enabled
  maxConcurrentRuns := column loaded.maxConcurrentRuns new.maxConcurrentRuns current.maxConcurrentRuns
  nextRunAt := column loaded.nextRunAt new.nextRunAt current.nextRunAt
  isDeleted := column loaded.isDeleted new.isDeleted current.isDeleted

variable (schedules : Schedules Config Trigger)

/-- The row that `create_task` adds. -/
def ScheduledTaskCreate.row (data : ScheduledTaskCreate Config) : Option (ScheduledTask Config) :=
  (schedules.normalizeScheduleConfig "cron" data.scheduleConfig).map fun normalizedConfig =>
    { scheduleType := "cron"
      scheduleConfig := normalizedConfig
      enabled := data.enabled
      maxConcurrentRuns := data.maxConcurrentRuns }

/-- What `update_task` makes of the object that it has loaded. -/
def ScheduledTask.update (task : ScheduledTask Config) (data : ScheduledTaskUpdate Config) :
    Option (ScheduledTask Config) :=
  let nextScheduleType := if data.scheduleConfig.isSome then "cron" else data.scheduleType.getD task.scheduleType
  (schedules.normalizeScheduleConfig nextScheduleType (data.scheduleConfig.getD task.scheduleConfig)).map
    fun normalizedConfig =>
      { task with
        scheduleType := nextScheduleType
        scheduleConfig :=
          if data.scheduleConfig.isSome || data.scheduleType.isSome then normalizedConfig
          else task.scheduleConfig
        enabled := data.enabled.getD task.enabled
        maxConcurrentRuns := data.maxConcurrentRuns.getD task.maxConcurrentRuns }

/-- What an edit makes of the object that it has loaded. -/
def ScheduledTask.edit (task : ScheduledTask Config) : Edit Config → Option (ScheduledTask Config)
  | .update data => task.update schedules data
  | .delete => some { task with isDeleted := true, enabled := false }

/-- `max(1, int(task.max_concurrent_runs or 1))`. -/
def ScheduledTask.maxInstances (task : ScheduledTask Config) : ℤ :=
  max 1 (if task.maxConcurrentRuns = 0 then 1 else task.maxConcurrentRuns)

/-- The job of a task that is enabled, where its configuration is accepted. -/
def ScheduledTask.job (task : ScheduledTask Config) : Option (Job Trigger) :=
  if task.enabled then
    (schedules.buildTrigger task.scheduleType task.scheduleConfig).map fun trigger =>
      { trigger := trigger, maxInstances := task.maxInstances }
  else none

/-! ## Steps -/

/-- An operation goes on with the next sync, if there is one. -/
def Stage.next : List ℕ → Stage Config
  | [] => .done
  | i :: rest => .syncing i rest

namespace State

variable (s : State Config Trigger)

/-- The operation goes on. -/
def goOn (k : ℕ) (stage : Stage Config) : State Config Trigger :=
  { s with stages := Function.update s.stages k stage }

/-- The commit of an edit, which starts a sync; an edit that is refused ends. -/
def commitEdit [DecidableEq Config] (k i : ℕ) (loaded : ScheduledTask Config) (edit : Edit Config) : State Config Trigger :=
  match loaded.edit schedules edit with
  | none => s.goOn k .done
  | some new =>
    { s.goOn k (.syncing i []) with
      rows := s.rows.modify i fun current => loaded.commit new current }

/-- **`sync_task_schedule`** with the row that it has read, up to its commit. -/
def sync (k i : ℕ) (row : Option (ScheduledTask Config)) (rest : List ℕ) (now : ℤ) :
    State Config Trigger :=
  match row with
  | none => { s.goOn k (.next rest) with jobs := s.jobs.erase i }
  | some task =>
    if !task.enabled then
      { s.goOn k (.committing i task.nextRunAt none rest) with jobs := s.jobs.erase i }
    else match task.job schedules with
      | some job =>
        { s.goOn k (.committing i task.nextRunAt (schedules.nextFireTime job.trigger now) rest) with
          jobs := s.jobs.insert i job }
      | none => s.goOn k (.committing i task.nextRunAt none rest)

/-- The ids of the tasks that are enabled and not deleted. -/
def enabledTaskIds : List ℕ :=
  (List.range s.rows.length).filter fun i => (alive s.rows[i]?).any (·.enabled)

end State

/-- Jobs are removed one after another, until one of them is not there. -/
def removeJobs (jobs : AList fun _ : ℕ => Job Trigger) : List ℕ → (AList fun _ : ℕ => Job Trigger) × Bool
  | [] => (jobs, true)
  | i :: stale => if i ∈ jobs then removeJobs (jobs.erase i) stale else (jobs, false)

/-- What happens. The lists are in the order in which the code goes through a set. -/
inductive Label (Config : Type)
  | create (k : ℕ) (data : ScheduledTaskCreate Config)
  | load (k i : ℕ) (edit : Edit Config)
  | commitEdit (k : ℕ)
  | list (k : ℕ)
  | select (k : ℕ) (enabled : List ℕ)
  | removeStale (k : ℕ) (stale : List ℕ)
  /-- A sync that is not part of another operation. -/
  | start (k i : ℕ)
  | readRow (k : ℕ)
  | sync (k : ℕ) (now : ℤ)
  | commit (k : ℕ)

/-- **One step.** -/
def step [DecidableEq Config] (s : State Config Trigger) : Label Config → Option (State Config Trigger)
  | .create k data =>
    match s.stages k with
    | .done =>
      match data.row schedules with
      | some row => some { s.goOn k (.syncing s.rows.length []) with rows := s.rows ++ [row] }
      | none => some s
    | _ => none
  | .load k i edit =>
    match s.stages k with
    | .done => (alive s.rows[i]?).map fun row => s.goOn k (.loaded i row edit)
    | _ => none
  | .commitEdit k =>
    match s.stages k with
    | .loaded i row edit => some (s.commitEdit schedules k i row edit)
    | _ => none
  | .list k =>
    match s.stages k with
    | .done => some (s.goOn k (.listed s.jobs.keys))
    | _ => none
  | .select k enabled =>
    match s.stages k with
    | .listed existing =>
      if enabled.Perm s.enabledTaskIds then some (s.goOn k (.selected existing enabled)) else none
    | _ => none
  | .removeStale k stale =>
    match s.stages k with
    | .selected existing enabled =>
      if stale.Perm (existing.filter (· ∉ enabled)) then
        some { s.goOn k (if (removeJobs s.jobs stale).2 then .next enabled else .done) with
          jobs := (removeJobs s.jobs stale).1 }
      else none
    | _ => none
  | .start k i =>
    match s.stages k with
    | .done => some (s.goOn k (.syncing i []))
    | _ => none
  | .readRow k =>
    match s.stages k with
    | .syncing i rest => some (s.goOn k (.read i (alive s.rows[i]?) rest))
    | _ => none
  | .sync k now =>
    match s.stages k with
    | .read i row rest => some (s.sync schedules k i row rest now)
    | _ => none
  | .commit k =>
    match s.stages k with
    | .committing i before after rest =>
      some { s.goOn k (.next rest) with
        rows := s.rows.modify i fun row => { row with nextRunAt := column before after row.nextRunAt } }
    | _ => none

/-! ## The property and the condition -/

/-- The job that the task should have. -/
def wanted (row : Option (ScheduledTask Config)) : Option (Job Trigger) :=
  (alive row).bind fun task => task.job schedules

/-- The task has the job that it should have, and no other. -/
def State.JobAgrees (s : State Config Trigger) (i : ℕ) : Prop :=
  s.jobs.lookup i = wanted schedules s.rows[i]?

/-- `next_run_at` of the task is null exactly when it has no job. -/
def State.NextRunAgrees (s : State Config Trigger) (i : ℕ) : Prop :=
  ∀ row ∈ s.rows[i]?, row.nextRunAt = none ↔ s.jobs.lookup i = none

/-- **The scheduler agrees with the tasks.** -/
def State.Agrees (s : State Config Trigger) : Prop :=
  ∀ i, s.JobAgrees schedules i ∧ s.NextRunAgrees i

/-- All operations have returned. -/
def State.Quiet (s : State Config Trigger) : Prop := ∀ k, s.stages k = .done

/-- **The condition on a step.** A sync acts on a row only while the job that the row asks for is still
the one to have; one that finds the task deleted finds no next run in it either, and one whose
configuration is rejected finds no job. When it commits, the job is as it left it: there if there is a next
run, and not there otherwise; and if it does not change `next_run_at`, nobody else has meanwhile. And
`refresh_all_scheduled_tasks` removes no job that its task should have, and none of a task with a next
run. -/
def Fresh (s : State Config Trigger) : Label Config → Prop
  | .sync k _ =>
    match s.stages k with
    | .read i row _ =>
      row.bind (·.job schedules) = wanted schedules s.rows[i]? ∧
        (row = none → ∀ current ∈ s.rows[i]?, current.nextRunAt = none) ∧
        ∀ task ∈ row, task.enabled = true → task.job schedules = none → s.jobs.lookup i = none
    | _ => True
  | .commit k =>
    match s.stages k with
    | .committing i before after _ =>
      (after = none ↔ s.jobs.lookup i = none) ∧
        (after = before → ∀ current ∈ s.rows[i]?, current.nextRunAt = none ↔ after = none)
    | _ => True
  | .removeStale _ stale =>
    ∀ i ∈ stale, wanted schedules s.rows[i]? = none ∧ ∀ current ∈ s.rows[i]?, current.nextRunAt = none
  | _ => True

/-! ## The invariant -/

/-- The tasks that the operation is still to act on. -/
def Stage.toAct : Stage Config → List ℕ
  | .syncing i rest | .read i _ rest => i :: rest
  | .committing _ _ _ rest => rest
  | .done | .loaded _ _ _ | .listed _ | .selected _ _ => []

/-- The tasks whose next run the operation is still to commit. -/
def Stage.toCommit : Stage Config → List ℕ
  | .syncing i rest | .read i _ rest | .committing i _ _ rest => i :: rest
  | .done | .loaded _ _ _ | .listed _ | .selected _ _ => []

/-- **What does not agree is going to be mended**: some operation is still to act on the task, or to commit
its next run. -/
structure State.Mended (s : State Config Trigger) (i : ℕ) : Prop where
  job : s.JobAgrees schedules i ∨ ∃ k, i ∈ (s.stages k).toAct
  nextRun : s.NextRunAgrees i ∨ ∃ k, i ∈ (s.stages k).toCommit

@[simp] theorem Stage.toAct_next (rest : List ℕ) : (Stage.next rest : Stage Config).toAct = rest := by
  cases rest <;> rfl

@[simp] theorem Stage.toCommit_next (rest : List ℕ) : (Stage.next rest : Stage Config).toCommit = rest := by
  cases rest <;> rfl

variable {schedules} {s t : State Config Trigger} {i k : ℕ}

/-- An operation that still has to do with the task has still to do with it after another one went on. -/
theorem exists_update {todo : Stage Config → List ℕ} {stages : ℕ → Stage Config} {stage : Stage Config}
    (h : ∃ l, i ∈ todo (stages l)) (hk : i ∈ todo (stages k) → i ∈ todo stage) :
    ∃ l, i ∈ todo (Function.update stages k stage l) := by
  obtain ⟨l, hl⟩ := h
  by_cases hlk : l = k
  · subst hlk
    exact ⟨l, by rw [Function.update_self]; exact hk hl⟩
  · exact ⟨l, by rw [Function.update_of_ne hlk]; exact hl⟩

theorem exists_updated {todo : Stage Config → List ℕ} {stages : ℕ → Stage Config} {stage : Stage Config}
    (h : i ∈ todo stage) : ∃ l, i ∈ todo (Function.update stages k stage l) :=
  ⟨k, by rwa [Function.update_self]⟩

/-- **A task that a step does not touch** stays as it was. -/
theorem State.Mended.untouched {stage : Stage Config} (h : s.Mended schedules i)
    (hstages : t.stages = Function.update s.stages k stage) (hrow : t.rows[i]? = s.rows[i]?)
    (hjob : t.jobs.lookup i = s.jobs.lookup i)
    (hact : i ∈ (s.stages k).toAct → i ∈ stage.toAct)
    (hcommit : i ∈ (s.stages k).toCommit → i ∈ stage.toCommit) : t.Mended schedules i := by
  refine ⟨?_, ?_⟩
  · rw [State.JobAgrees, hrow, hjob, hstages]
    exact h.job.imp_right fun hsome => exists_update hsome hact
  · rw [State.NextRunAgrees, hrow, hjob, hstages]
    exact h.nextRun.imp_right fun hsome => exists_update hsome hcommit

/-- An operation that has nothing to do with tasks goes on. -/
theorem State.Mended.beside {before stage : Stage Config} (h : s.Mended schedules i)
    (hk : s.stages k = before) (hact : before.toAct = []) (hcommit : before.toCommit = [])
    (hstages : t.stages = Function.update s.stages k stage) (hrow : t.rows[i]? = s.rows[i]?)
    (hjob : t.jobs.lookup i = s.jobs.lookup i) : t.Mended schedules i := by
  refine h.untouched hstages hrow hjob ?_ ?_
  · rw [hk, hact]
    intro hmem
    cases hmem
  · rw [hk, hcommit]
    intro hmem
    cases hmem

/-- A task with a sync that is still to act on it. -/
theorem State.Mended.of_syncing (k : ℕ) (rest : List ℕ) (hk : t.stages k = .syncing i rest) :
    t.Mended schedules i :=
  ⟨.inr ⟨k, by rw [hk]; exact List.mem_cons_self⟩, .inr ⟨k, by rw [hk]; exact List.mem_cons_self⟩⟩

/-- What is left of the jobs after a removal. -/
theorem lookup_removeJobs (stale : List ℕ) (jobs : AList fun _ : ℕ => Job Trigger) :
    (removeJobs jobs stale).1.lookup i = jobs.lookup i ∨
      i ∈ stale ∧ (removeJobs jobs stale).1.lookup i = none := by
  induction stale generalizing jobs with
  | nil => exact .inl rfl
  | cons j stale ih =>
    rw [removeJobs]
    split
    · by_cases hij : i = j
      · subst hij
        right
        refine ⟨List.mem_cons_self, ?_⟩
        obtain hsame | ⟨-, hnone⟩ := ih (jobs.erase i)
        · rw [hsame, AList.lookup_erase]
        · exact hnone
      · obtain hsame | ⟨hmem, hnone⟩ := ih (jobs.erase j)
        · rw [hsame, AList.lookup_erase_ne hij]
          exact .inl rfl
        · exact .inr ⟨List.mem_cons_of_mem _ hmem, hnone⟩
    · exact .inl rfl

/-- The job of a task does not depend on its next run. -/
theorem wanted_modify (rows : List (ScheduledTask Config)) (before after : Option ℤ) :
    wanted schedules (rows.modify i fun row =>
      { row with nextRunAt := column before after row.nextRunAt })[i]? = wanted schedules rows[i]? := by
  rw [List.getElem?_modify_eq]
  cases rows[i]? with
  | none => rfl
  | some row =>
    unfold wanted alive
    cases hdeleted : row.isDeleted <;> simp [Option.filter, hdeleted, ScheduledTask.job, ScheduledTask.maxInstances]

/-- **What a sync does**: the operation goes on to `stage`, the rows are as before, and so are the jobs of
the other tasks. Its own task gets the job that the row asks for, unless the configuration is rejected. -/
theorem State.sync_spec (s : State Config Trigger) (k j : ℕ) (row : Option (ScheduledTask Config))
    (rest : List ℕ) (now : ℤ) :
    ∃ stage : Stage Config, (s.sync schedules k j row rest now).stages = Function.update s.stages k stage ∧
      stage.toAct = rest ∧ (stage.toCommit = j :: rest ∨ row = none ∧ stage.toCommit = rest) ∧
      (s.sync schedules k j row rest now).rows = s.rows ∧
      (∀ i, i ≠ j → (s.sync schedules k j row rest now).jobs.lookup i = s.jobs.lookup i) ∧
      ((s.sync schedules k j row rest now).jobs.lookup j = row.bind (·.job schedules) ∨
        (∃ task ∈ row, task.enabled = true ∧ task.job schedules = none) ∧
          (s.sync schedules k j row rest now).jobs = s.jobs) := by
  unfold State.sync
  split
  · refine ⟨.next rest, rfl, by simp, .inr ⟨rfl, by simp⟩, rfl, fun i hi => AList.lookup_erase_ne hi, .inl ?_⟩
    exact AList.lookup_erase j s.jobs
  · rename_i task
    split
    · rename_i hdisabled
      rw [Bool.not_eq_true'] at hdisabled
      refine ⟨_, rfl, rfl, .inl rfl, rfl, fun i hi => AList.lookup_erase_ne hi, .inl ?_⟩
      rw [AList.lookup_erase, Option.bind_some, ScheduledTask.job, hdisabled, if_neg Bool.false_ne_true]
    · rename_i henabled
      rw [Bool.not_eq_true', Bool.not_eq_false] at henabled
      split
      · rename_i job hjob
        refine ⟨_, rfl, rfl, .inl rfl, rfl, fun i hi => AList.lookup_insert_ne hi, .inl ?_⟩
        rw [AList.lookup_insert, Option.bind_some, hjob]
      · rename_i hnone
        exact ⟨_, rfl, rfl, .inl rfl, rfl, fun i _ => rfl, .inr ⟨⟨task, rfl, henabled, hnone⟩, rfl⟩⟩

/-- **A sync** gives its task the job that it should have, and leaves its commit to do. -/
theorem State.Mended.sync {row : Option (ScheduledTask Config)} {rest : List ℕ} {j : ℕ} (now : ℤ)
    (h : s.Mended schedules i) (hk : s.stages k = .read j row rest)
    (hfresh : Fresh schedules s (.sync k now)) : (s.sync schedules k j row rest now).Mended schedules i := by
  rw [Fresh, hk] at hfresh
  dsimp only at hfresh
  obtain ⟨hwanted, hdeleted, hrejected⟩ := hfresh
  obtain ⟨stage, hstages, hact, hcommit, hrows, hothers, hjob⟩ := @State.sync_spec _ _ schedules s k j row rest now
  by_cases hij : i = j
  · subst hij
    have hagrees : (s.sync schedules k i row rest now).JobAgrees schedules i := by
      rw [State.JobAgrees, hrows, ← hwanted]
      obtain hjob | ⟨⟨task, htask, henabled, hnone⟩, hjobs⟩ := hjob
      · exact hjob
      · rw [Option.mem_def] at htask
        rw [hjobs, hrejected task htask henabled hnone, htask, Option.bind_some, hnone]
    refine ⟨.inl hagrees, ?_⟩
    obtain hcommit | ⟨hnone, -⟩ := hcommit
    · right
      rw [hstages]
      exact exists_updated (by rw [hcommit]; exact List.mem_cons_self)
    · -- the task is deleted, and has no next run
      left
      intro current hcurrent
      rw [hrows] at hcurrent
      subst hnone
      rw [State.JobAgrees, hrows, ← hwanted] at hagrees
      exact iff_of_true (hdeleted rfl current hcurrent) hagrees
  · refine h.untouched hstages (by rw [hrows]) (hothers i hij) ?_ ?_
    · rw [hk, hact]
      exact fun hmem => (List.mem_cons.mp hmem).resolve_left hij
    · rw [hk]
      intro hmem
      obtain hcommit | ⟨-, hcommit⟩ := hcommit
      · rw [hcommit]
        exact hmem
      · rw [hcommit]
        exact (List.mem_cons.mp hmem).resolve_left hij

/-- **A commit** writes a next run that agrees with the job. -/
theorem State.Mended.commit {before after : Option ℤ} {rest : List ℕ} {j : ℕ} (h : s.Mended schedules i)
    (hk : s.stages k = .committing j before after rest) (hfresh : Fresh schedules s (.commit k))
    (hstages : t.stages = Function.update s.stages k (.next rest)) (hjobs : t.jobs = s.jobs)
    (hrows : t.rows = s.rows.modify j fun row =>
      { row with nextRunAt := column before after row.nextRunAt }) : t.Mended schedules i := by
  rw [Fresh, hk] at hfresh
  dsimp only at hfresh
  obtain ⟨hjob, hsame⟩ := hfresh
  by_cases hij : i = j
  · subst hij
    constructor
    · rw [State.JobAgrees, hrows, hjobs, wanted_modify, hstages]
      refine h.job.imp_right fun hsome => exists_update hsome ?_
      rw [hk, Stage.toAct_next]
      exact id
    · left
      intro row hrow
      rw [hrows, List.getElem?_modify_eq, Option.mem_def, Option.map_eq_map, Option.map_eq_some_iff] at hrow
      obtain ⟨current, hcurrent, rfl⟩ := hrow
      rw [hjobs, ← hjob]
      change column before after current.nextRunAt = none ↔ after = none
      rw [column]
      split
      · rename_i heq
        exact hsame heq current hcurrent
      · exact Iff.rfl
  · refine h.untouched hstages ?_ (by rw [hjobs]) ?_ ?_
    · rw [hrows, List.getElem?_modify_ne _ _ (Ne.symm hij)]
    · rw [hk, Stage.toAct_next]
      exact id
    · rw [hk, Stage.toCommit_next]
      exact fun hmem => (List.mem_cons.mp hmem).resolve_left hij

/-- **A removal of stale jobs** removes those of tasks that should have none. -/
theorem State.Mended.removeStale {existing enabled stale : List ℕ} {stage : Stage Config}
    (h : s.Mended schedules i) (hk : s.stages k = .selected existing enabled)
    (hfresh : Fresh schedules s (.removeStale k stale))
    (hstages : t.stages = Function.update s.stages k stage) (hrows : t.rows = s.rows)
    (hjobs : t.jobs = (removeJobs s.jobs stale).1) : t.Mended schedules i := by
  obtain hsame | ⟨hstale, hnone⟩ := lookup_removeJobs (i := i) stale s.jobs
  · exact h.beside hk rfl rfl hstages (by rw [hrows]) (by rw [hjobs, hsame])
  · obtain ⟨hwanted, hnext⟩ := hfresh i hstale
    refine ⟨.inl ?_, .inl fun current hcurrent => ?_⟩
    · rw [State.JobAgrees, hrows, hjobs, hnone, hwanted]
    · rw [hrows] at hcurrent
      rw [hjobs, hnone]
      exact iff_of_true (hnext current hcurrent) rfl

variable [DecidableEq Config]

/-- **One step**: what does not agree is still going to be mended. -/
theorem State.Mended.step {label : Label Config} (h : ∀ i, s.Mended schedules i)
    (hfresh : Fresh schedules s label) (hstep : step schedules s label = some t) (i : ℕ) :
    t.Mended schedules i := by
  cases label with
  | create k data =>
    rw [TaskSchedules.step] at hstep
    split at hstep
    · rename_i hk
      split at hstep
      · rw [← Option.some.inj hstep]
        by_cases hi : i = s.rows.length
        · subst hi
          exact .of_syncing k [] (Function.update_self ..)
        · refine (h i).beside hk rfl rfl rfl ?_ rfl
          change (s.rows ++ _)[i]? = s.rows[i]?
          rw [List.getElem?_append]
          split
          · rfl
          · rename_i hge
            rw [List.getElem?_singleton, if_neg (by omega), List.getElem?_eq_none (by omega)]
      · rw [← Option.some.inj hstep]
        exact h i
    · cases hstep
  | load k j edit =>
    rw [TaskSchedules.step] at hstep
    split at hstep
    · rename_i hk
      obtain ⟨row, -, rfl⟩ := Option.map_eq_some_iff.mp hstep
      exact (h i).beside hk rfl rfl rfl rfl rfl
    · cases hstep
  | commitEdit k =>
    rw [TaskSchedules.step] at hstep
    split at hstep
    · rename_i j row edit hk
      rw [← Option.some.inj hstep, State.commitEdit]
      split
      · exact (h i).beside hk rfl rfl rfl rfl rfl
      · by_cases hij : i = j
        · subst hij
          exact .of_syncing k [] (Function.update_self ..)
        · refine (h i).beside hk rfl rfl rfl ?_ rfl
          exact List.getElem?_modify_ne _ _ (Ne.symm hij)
    · cases hstep
  | list k =>
    rw [TaskSchedules.step] at hstep
    split at hstep
    · rename_i hk
      rw [← Option.some.inj hstep]
      exact (h i).beside hk rfl rfl rfl rfl rfl
    · cases hstep
  | select k enabled =>
    rw [TaskSchedules.step] at hstep
    split at hstep
    · rename_i existing hk
      split at hstep
      · rw [← Option.some.inj hstep]
        exact (h i).beside hk rfl rfl rfl rfl rfl
      · cases hstep
    · cases hstep
  | removeStale k stale =>
    rw [TaskSchedules.step] at hstep
    split at hstep
    · rename_i existing enabled hk
      split at hstep
      · rw [← Option.some.inj hstep]
        exact (h i).removeStale hk hfresh rfl rfl rfl
      · cases hstep
    · cases hstep
  | start k j =>
    rw [TaskSchedules.step] at hstep
    split at hstep
    · rename_i hk
      rw [← Option.some.inj hstep]
      exact (h i).beside hk rfl rfl rfl rfl rfl
    · cases hstep
  | readRow k =>
    rw [TaskSchedules.step] at hstep
    split at hstep
    · rename_i j rest hk
      rw [← Option.some.inj hstep]
      exact (h i).untouched rfl rfl rfl (by rw [hk]; exact id) (by rw [hk]; exact id)
    · cases hstep
  | sync k now =>
    rw [TaskSchedules.step] at hstep
    split at hstep
    · rename_i j row rest hk
      rw [← Option.some.inj hstep]
      exact (h i).sync now hk hfresh
    · cases hstep
  | commit k =>
    rw [TaskSchedules.step] at hstep
    split at hstep
    · rename_i j before after rest hk
      rw [← Option.some.inj hstep]
      exact (h i).commit hk hfresh rfl rfl rfl
    · cases hstep

variable (schedules)

/-- **The scheduler agrees with the tasks once everything has returned**, in every run of steps that meet
the condition, from a state in which it agreed. -/
theorem jobs_agree (s t : State Config Trigger) (labels : List (Label Config)) (hs : s.Agrees schedules)
    (h : Run (step schedules) (Fresh schedules) s labels t) (hquiet : t.Quiet) : t.Agrees schedules := by
  have hmended : ∀ i, t.Mended schedules i := by
    refine h.invariant (I := fun s => ∀ i, s.Mended schedules i) ?_ fun i => ⟨.inl (hs i).1, .inl (hs i).2⟩
    intro s label u hs hfresh hstep
    exact State.Mended.step hs hfresh hstep
  intro i
  constructor
  · obtain hagrees | ⟨k, hk⟩ := (hmended i).job
    · exact hagrees
    · rw [hquiet k] at hk
      cases hk
  · obtain hagrees | ⟨k, hk⟩ := (hmended i).nextRun
    · exact hagrees
    · rw [hquiet k] at hk
      cases hk

/-! ## Two updates -/

/-- Daily schedules at an hour. -/
def daily : Schedules ℕ ℕ where
  normalizeScheduleConfig scheduleType hour := if scheduleType = "cron" ∧ hour < 24 then some hour else none
  buildTrigger scheduleType hour := if scheduleType = "cron" ∧ hour < 24 then some hour else none
  nextFireTime hour now :=
    let today := now / 86400 * 86400 + 3600 * hour
    some (if now ≤ today then today else today + 86400)

/-- A new task at eight. -/
def atEight : List (Label ℕ) := [
  .create 0 { scheduleConfig := 8, enabled := true, maxConcurrentRuns := 1 },
  .readRow 0, .sync 0 0, .commit 0]

/-- It is moved to nine and then to ten, and the first sync goes on after the second one. -/
def toNineAndTen : List (Label ℕ) := [
  .load 1 0 (.update { scheduleConfig := some 9 }), .commitEdit 1, .readRow 1,
  .load 2 0 (.update { scheduleConfig := some 10 }), .commitEdit 2, .readRow 2, .sync 2 60, .commit 2,
  .sync 1 61, .commit 1]

/-- **A sync that has read an older version replaces the newer job**: the task is to run at ten, and its
job runs at nine. -/
theorem older_sync_wins :
    ¬ ∀ (schedules : Schedules ℕ ℕ) (t : State ℕ ℕ) (labels : List (Label ℕ)),
      Run (step schedules) Always {} labels t → t.Quiet → t.Agrees schedules := by
  intro hclaim
  have hagrees := hclaim daily _ (atEight ++ toNineAndTen)
    (.cons trivial rfl (.cons trivial rfl (.cons trivial rfl (.cons trivial rfl (.cons trivial rfl
      (.cons trivial rfl (.cons trivial rfl (.cons trivial rfl (.cons trivial rfl (.cons trivial rfl
        (.cons trivial rfl (.cons trivial rfl (.cons trivial rfl (.cons trivial rfl (.nil _)))))))))))))))
    (by rintro (_ | _ | _ | k) <;> rfl)
  have hjob : some (Job.mk 9 1) = some (Job.mk 10 1) := (hagrees 0).1
  cases hjob

/-- The scheduler agrees with a new task. -/
theorem jobs_agree_atEight : ∃ t, Run (step daily) Always {} atEight t ∧ t.Agrees daily := by
  refine ⟨_, .cons trivial rfl (.cons trivial rfl (.cons trivial rfl (.cons trivial rfl (.nil _)))), ?_⟩
  refine jobs_agree daily {} _ atEight (fun i => ⟨rfl, fun row hrow => by cases hrow⟩) ?_ ?_
  · refine .cons trivial rfl (.cons trivial rfl (.cons ⟨rfl, ?_, ?_⟩ rfl (.cons ⟨?_, ?_⟩ rfl (.nil _))))
    · intro hnone
      cases hnone
    · intro task htask _ hnone
      cases htask
      cases hnone
    · exact iff_of_false (by simp [daily]) (by decide)
    · intro hsame
      cases hsame
  · rintro (_ | k) <;> rfl

end DBClaw.TaskSchedules
