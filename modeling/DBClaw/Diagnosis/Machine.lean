import DBClaw.Alerts.OpenEvents

/-! # The diagnoses of alert events
An alert event is diagnosed by `run_sync_diagnosis`, before its alerts are sent, and in the background by
`trigger_auto_diagnosis`. Both load the event, look for a diagnosis of the same problem that can be reused or
waited for, and otherwise start one of their own, which runs for minutes. Meanwhile alerts are added to the
event and the event recovers. Each of them changes a row that it has loaded earlier, and writes the columns
that it has changed. -/

namespace DBClaw.Diagnosis

open Runs
open Alerts (Severity Time writtenColumn)

/-! ## Events -/

/-- The id of an event is its place in the table. -/
abbrev EventId := ℕ

/-- `diagnosis_status`. -/
inductive DiagnosisStatus
  | pending | inProgress | completed | failed
  deriving DecidableEq, Repr

/-- For the record: how often a refresh has been requested so far, and how often it had been when the last
diagnosis to be started loaded the event; the severity that the diagnosis saw with which the flag was cleared
last, and the one that the event has. -/
structure Record where
  requests : ℕ := 1
  scheduled : ℕ := 0
  clearedWith : Option Severity := none
  diagnosed : Option Severity := none

/-- A row of `alert_event`, with the columns of diagnoses. -/
structure Event where
  datasourceId : ℕ
  alertType : Option Text
  metricName : Option Text
  severity : Severity
  refreshNeeded : Bool := true
  lastDiagnosedSeverity : Option Severity := none
  summary : Option Text := none
  status : Option DiagnosisStatus := none
  startedAt : Option Time := none
  completedAt : Option Time := none
  sourceEventId : Option EventId := none
  record : Record := {}

/-- `_build_diagnosis_identity_filters`. -/
def Event.identityFilters (current e : Event) : Bool :=
  decide (e.datasourceId = current.datasourceId) && decide (e.alertType = current.alertType) &&
    if (current.metricName.getD []).isEmpty then e.metricName.isNone
    else decide (e.metricName = current.metricName)

/-- The diagnosis is there, and no refresh is pending. -/
def Event.isCached (e : Event) : Bool :=
  decide (e.status = some .completed) && ! (e.summary.getD []).isEmpty && ! e.refreshNeeded

/-! ## Writes
Each takes the row as it was loaded and as it is now. -/

/-- `_add_alert_to_event`. -/
def Event.addAlert (severity : Severity) (loaded row : Event) : Event :=
  if loaded.severity.order < severity.order then
    -- the flag is written only where the loaded row had it cleared
    { row with
      severity := writtenColumn loaded.severity severity row.severity
      refreshNeeded := writtenColumn loaded.refreshNeeded true row.refreshNeeded
      record.requests := row.record.requests + 1 }
  else row

/-- `apply_event_diagnosis_lifecycle` of an event that is resolved. -/
def Event.recover (loaded row : Event) : Event :=
  { row with
    refreshNeeded := writtenColumn loaded.refreshNeeded true row.refreshNeeded
    record.requests := row.record.requests + 1 }

/-- `mark_event_diagnosis_completed`, with a diagnosis that saw some severity. -/
def Event.markCompleted (loaded : Event) (saw : Option Severity) (row : Event) : Event :=
  { row with
    refreshNeeded := writtenColumn loaded.refreshNeeded false row.refreshNeeded
    lastDiagnosedSeverity :=
      writtenColumn loaded.lastDiagnosedSeverity (some loaded.severity) row.lastDiagnosedSeverity
    record.clearedWith := if loaded.refreshNeeded then saw else row.record.clearedWith
    record.diagnosed := saw }

/-- For the record, a diagnosis of the loaded row is under way. -/
def Event.schedule (loaded row : Event) : Event :=
  { row with record.scheduled := max row.record.scheduled loaded.record.requests }

/-- `diagnosis_status`, `diagnosis_completed_at` and `ai_diagnosis_summary` of a completed diagnosis. -/
def Event.writeResult (summary : Option Text) (completedAt : Option Time) (loaded row : Event) : Event :=
  { row with
    summary := writtenColumn loaded.summary summary row.summary
    status := writtenColumn loaded.status (some .completed) row.status
    completedAt := writtenColumn loaded.completedAt completedAt row.completedAt }

/-- **`_reuse_diagnosis_from_event`**, with the summary that is made of the source's. -/
def Event.reuse (loaded : Event) (source : EventId) (found : Event) (now : Time) (summary : Option Text)
    (row : Event) : Event :=
  let row := loaded.writeResult summary (found.completedAt <|> some now) (loaded.schedule row)
  let row := { row with sourceEventId := writtenColumn loaded.sourceEventId (some source) row.sourceEventId }
  loaded.markCompleted found.record.diagnosed row

/-- Another event's diagnosis is waited for. -/
def Event.wait (source : EventId) (loaded row : Event) : Event :=
  { row with
    status := writtenColumn loaded.status (some .pending) row.status
    sourceEventId := writtenColumn loaded.sourceEventId (some source) row.sourceEventId }

/-- A diagnosis starts. -/
def Event.start (now : Time) (loaded row : Event) : Event :=
  { loaded.schedule row with
    status := writtenColumn loaded.status (some .inProgress) row.status
    startedAt := writtenColumn loaded.startedAt (some now) row.startedAt
    completedAt := writtenColumn loaded.completedAt none row.completedAt
    sourceEventId := writtenColumn loaded.sourceEventId none row.sourceEventId }

/-- The end of `run_sync_diagnosis`. -/
def Event.completeSync (now : Time) (summary : Option Text) (loaded row : Event) : Event :=
  loaded.markCompleted (some loaded.severity) (loaded.writeResult summary (some now) row)

/-- The `UPDATE` at the end of `_run_auto_diagnosis`, after a diagnosis of the loaded row. -/
def Event.completeAuto (now : Time) (summary : Option Text) (loaded row : Event) : Event :=
  { row with
    summary := summary
    status := some .completed
    completedAt := some now
    sourceEventId := none
    refreshNeeded := false
    -- a subquery on the row as it is at the end, not as the diagnosis saw it
    lastDiagnosedSeverity := some row.severity
    record.clearedWith := some loaded.severity
    record.diagnosed := some loaded.severity }

/-! ## Tasks -/

/-- Which function diagnoses. -/
inductive Kind
  | sync | auto
  deriving DecidableEq, Repr

/-- Where a diagnosis stands: what it has found, if anything. -/
inductive Stage
  | loaded
  | reusing (source : EventId) (found : Event)
  | searched
  | waiting (source : EventId)
  | starting
  | running

/-- What a task does with the row that it has loaded. -/
inductive Work
  | adding (severity : Severity)
  | recovering
  | diagnosing (kind : Kind) (stage : Stage)

/-- A task on an event. -/
structure Task where
  event : EventId
  loaded : Event
  work : Work

/-- What a task commits, and what becomes of it. -/
def Task.commit (task : Task) (now : Time) (summary : Option Text) : Option ((Event → Event) × Option Task) :=
  match task.work with
  | .adding severity => some (task.loaded.addAlert severity, none)
  | .recovering => some (task.loaded.recover, none)
  | .diagnosing _ (.reusing source found) => some (task.loaded.reuse source found now summary, none)
  | .diagnosing _ (.waiting source) => some (task.loaded.wait source, none)
  | .diagnosing kind .starting =>
    -- the object keeps what it has committed, and is the one that the end of the diagnosis changes
    some (task.loaded.start now,
      some { task with loaded := task.loaded.start now task.loaded, work := .diagnosing kind .running })
  | .diagnosing _ _ => none

/-- How a running diagnosis ends. -/
inductive Outcome
  | completed (now : Time) (summary : Option Text)
  /-- `_run_auto_diagnosis` got an empty text. -/
  | empty
  /-- `run_sync_diagnosis` waited long enough. -/
  | timedOut
  | failed

/-- What the end of a diagnosis commits. -/
def Outcome.commit (loaded : Event) : Kind → Outcome → Option (Event → Event)
  | .sync, .completed now summary => some (loaded.completeSync now summary)
  | .auto, .completed now summary => some (loaded.completeAuto now summary)
  -- a warning is logged, and the status stays as it is
  | .auto, .empty => some id
  | .sync, .timedOut => some fun row => { row with status := writtenColumn loaded.status (some .pending) row.status }
  | .sync, .failed => some fun row => { row with status := writtenColumn loaded.status (some .failed) row.status }
  -- an `UPDATE` of its own, without a loaded row
  | .auto, .failed => some fun row => { row with status := some .failed }
  | .sync, .empty | .auto, .timedOut => none

/-! ## The machine -/

/-- The table of events, and the tasks by number. -/
structure State where
  events : List Event := []
  tasks : ℕ → Option Task := fun _ => none

/-- What is called for an event. -/
inductive Call
  | addAlert (severity : Severity)
  | recover
  | diagnose (kind : Kind)

/-- What the call has to do once the event is loaded. -/
def Call.work : Call → Work
  | .addAlert severity => .adding severity
  | .recover => .recovering
  | .diagnose kind => .diagnosing kind .loaded

/-- A diagnosis that is cached is returned at once. -/
def Call.returns (row : Event) : Call → Bool
  | .diagnose _ => row.isCached
  | .addAlert _ | .recover => false

namespace State

variable (s : State)

/-- A task goes on, or ends. -/
def setTask (i : ℕ) (task : Option Task) : State := { s with tasks := Function.update s.tasks i task }

/-- And the row of an event changes. -/
def put (i : ℕ) (task : Option Task) (e : EventId) (f : Event → Event) : State :=
  { s.setTask i task with events := s.events.modify e f }

/-- The events other than this one that are of the same problem and meet a condition; there are none where
diagnoses are not shared. -/
def matching (window : Time) (e : EventId) (current : Event) (p : Event → Bool) : List EventId :=
  if window ≤ 0 ∨ current.alertType.getD [] = [] then []
  else
    (List.range s.events.length).filter fun f =>
      decide (f ≠ e) && (s.events[f]?).any fun row => current.identityFilters row && p row

/-- `.order_by(key.desc()).limit(1)` finds this one, where several may come first. -/
def isFirst (key : Event → Option Time) (found : List EventId) : Option EventId → Bool
  | none => found.isEmpty
  | some f => found.contains f && found.all fun g => decide (((s.events[g]?).bind key).getD 0 ≤ ((s.events[f]?).bind key).getD 0)

/-- `_find_recent_diagnosis`. -/
def findRecentDiagnosis (window : Time) (e : EventId) (current : Event) (now : Time) (found : Option EventId) :
    Bool :=
  s.isFirst Event.completedAt
    (s.matching window e current fun row => decide (row.status = some .completed) && row.summary.isSome &&
      row.completedAt.any fun t => decide (now - window ≤ t)) found

/-- `_find_in_progress_diagnosis`. -/
def findInProgressDiagnosis (window : Time) (e : EventId) (current : Event) (now : Time)
    (found : Option EventId) : Bool :=
  s.isFirst Event.startedAt
    (s.matching window e current fun row =>
      (decide (row.status = some .inProgress) || decide (row.status = some .pending)) &&
        row.startedAt.any fun t => decide (now - window ≤ t)) found

end State

/-- The steps of the machine. -/
inductive Label
  /-- `_create_new_event`. -/
  | create (datasourceId : ℕ) (alertType metricName : Option Text) (severity : Severity)
  /-- A task loads an event. -/
  | load (i : ℕ) (e : EventId) (call : Call)
  /-- A diagnosis looks for one that it can reuse. -/
  | findRecent (i : ℕ) (now : Time) (found : Option EventId)
  /-- A diagnosis looks for one that it can wait for. -/
  | findInProgress (i : ℕ) (now : Time) (found : Option EventId)
  /-- A task commits what it has changed. -/
  | commit (i : ℕ) (now : Time) (summary : Option Text)
  /-- The datasource of a diagnosis is gone. -/
  | refuse (i : ℕ)
  /-- A diagnosis ends. -/
  | finish (i : ℕ) (outcome : Outcome)

/-- What a diagnosis does after it has looked for one that it can reuse. -/
def Stage.afterRecent (s : State) : Option EventId → Stage
  | some f => ((s.events[f]?).map (.reusing f)).getD .searched
  | none => .searched

/-- What a diagnosis does after it has looked for one that it can wait for. -/
def Stage.afterInProgress : Option EventId → Stage
  | some f => .waiting f
  | none => .starting

/-- A step of the machine; diagnoses of the same problem are shared within the window. -/
def step (window : Time) (s : State) : Label → Option State
  | .create datasourceId alertType metricName severity => some
    { s with
      events := s.events ++ [{
        datasourceId := datasourceId
        alertType := alertType
        metricName := metricName
        severity := severity }] }
  | .load i e call =>
    if (s.tasks i).isNone then
      (s.events[e]?).map fun row => if call.returns row then s else s.setTask i (some ⟨e, row, call.work⟩)
    else none
  | .findRecent i now found =>
    match s.tasks i with
    | some ⟨e, loaded, .diagnosing kind .loaded⟩ =>
      if s.findRecentDiagnosis window e loaded now found then
        some (s.setTask i (some ⟨e, loaded, .diagnosing kind (.afterRecent s found)⟩))
      else none
    | _ => none
  | .findInProgress i now found =>
    match s.tasks i with
    | some ⟨e, loaded, .diagnosing kind .searched⟩ =>
      if s.findInProgressDiagnosis window e loaded now found then
        some (s.setTask i (some ⟨e, loaded, .diagnosing kind (.afterInProgress found)⟩))
      else none
    | _ => none
  | .commit i now summary =>
    (s.tasks i).bind fun task =>
      (task.commit now summary).map fun (f, task') => s.put i task' task.event f
  | .refuse i =>
    match s.tasks i with
    | some ⟨_, _, .diagnosing _ .starting⟩ => some (s.setTask i none)
    | _ => none
  | .finish i outcome =>
    match s.tasks i with
    | some ⟨e, loaded, .diagnosing kind .running⟩ => (outcome.commit loaded kind).map (s.put i none e)
    | _ => none

/-- **What a step is**, by its label. -/
inductive Steps (s : State) : Label → State → Prop
  | create {datasourceId : ℕ} {alertType metricName : Option Text} {severity : Severity} :
    Steps s (.create datasourceId alertType metricName severity)
      { s with
        events := s.events ++ [{
          datasourceId := datasourceId
          alertType := alertType
          metricName := metricName
          severity := severity }] }
  | cached {i : ℕ} {e : EventId} {call : Call} : Steps s (.load i e call) s
  | load {i : ℕ} {e : EventId} {call : Call} {row : Event} :
    s.tasks i = none → s.events[e]? = some row →
      Steps s (.load i e call) (s.setTask i (some ⟨e, row, call.work⟩))
  | findRecent {i : ℕ} {now : Time} {found : Option EventId} {e : EventId} {loaded : Event} {kind : Kind} :
    s.tasks i = some ⟨e, loaded, .diagnosing kind .loaded⟩ →
      Steps s (.findRecent i now found) (s.setTask i (some ⟨e, loaded, .diagnosing kind (.afterRecent s found)⟩))
  | findInProgress {i : ℕ} {now : Time} {found : Option EventId} {e : EventId} {loaded : Event} {kind : Kind} :
    s.tasks i = some ⟨e, loaded, .diagnosing kind .searched⟩ →
      Steps s (.findInProgress i now found)
        (s.setTask i (some ⟨e, loaded, .diagnosing kind (.afterInProgress found)⟩))
  | commit {i : ℕ} {now : Time} {summary : Option Text} {task : Task} {f : Event → Event} {task' : Option Task} :
    s.tasks i = some task → task.commit now summary = some (f, task') →
      Steps s (.commit i now summary) (s.put i task' task.event f)
  | refuse {i : ℕ} {e : EventId} {loaded : Event} {kind : Kind} :
    s.tasks i = some ⟨e, loaded, .diagnosing kind .starting⟩ → Steps s (.refuse i) (s.setTask i none)
  | finish {i : ℕ} {outcome : Outcome} {e : EventId} {loaded : Event} {kind : Kind} {f : Event → Event} :
    s.tasks i = some ⟨e, loaded, .diagnosing kind .running⟩ → outcome.commit loaded kind = some f →
      Steps s (.finish i outcome) (s.put i none e f)

/-- A step is one of these. -/
theorem steps_of_step {window : Time} {s t : State} {label : Label} (h : step window s label = some t) :
    Steps s label t := by
  cases label with
  | create datasourceId alertType metricName severity =>
    obtain rfl := Option.some.inj h
    exact .create
  | load i e call =>
    simp only [step, Option.ite_none_right_eq_some, Option.isNone_iff_eq_none] at h
    obtain ⟨hfree, hload⟩ := h
    obtain ⟨row, hrow, rfl⟩ := Option.map_eq_some_iff.mp hload
    -- a diagnosis of an event whose result is cached leaves no task
    split
    · exact .cached
    · exact .load hfree hrow
  | findRecent i now found =>
    simp only [step] at h
    split at h
    · rename_i e loaded kind htask
      obtain ⟨-, h⟩ := Option.ite_none_right_eq_some.mp h
      obtain rfl := Option.some.inj h
      exact .findRecent htask
    · cases h
  | findInProgress i now found =>
    simp only [step] at h
    split at h
    · rename_i e loaded kind htask
      obtain ⟨-, h⟩ := Option.ite_none_right_eq_some.mp h
      obtain rfl := Option.some.inj h
      exact .findInProgress htask
    · cases h
  | commit i now summary =>
    obtain ⟨task, htask, h⟩ := Option.bind_eq_some_iff.mp h
    obtain ⟨⟨f, task'⟩, hcommit, rfl⟩ := Option.map_eq_some_iff.mp h
    exact .commit htask hcommit
  | refuse i =>
    simp only [step] at h
    split at h
    · rename_i e loaded kind htask
      obtain rfl := Option.some.inj h
      exact .refuse htask
    · cases h
  | finish i outcome =>
    simp only [step] at h
    split at h
    · rename_i e loaded kind htask
      obtain ⟨f, hcommit, rfl⟩ := Option.map_eq_some_iff.mp h
      exact .finish htask hcommit
    · cases h

/-! ## Rows and tasks -/

/-- The rows after a write. -/
theorem getElem?_put (s : State) (i : ℕ) (task : Option Task) (e : EventId) (f : Event → Event) (j : EventId) :
    (s.put i task e f).events[j]? = if e = j then (s.events[j]?).map f else s.events[j]? := by
  show (s.events.modify e f)[j]? = _
  rw [List.getElem?_modify]
  split <;> cases s.events[j]? <;> rfl

/-- A column that is not changed is not written. -/
theorem writtenColumn_eq_iff {α : Type*} [DecidableEq α] {loaded changed row a : α} :
    writtenColumn loaded changed row = a ↔ if changed = loaded then row = a else changed = a := by
  unfold writtenColumn
  split <;> rfl

/-- A diagnosis that looks for another one has still to start. -/
theorem Stage.afterRecent_ne_running (s : State) (found : Option EventId) : Stage.afterRecent s found ≠ .running := by
  unfold Stage.afterRecent
  split
  · rename_i f
    cases s.events[f]? <;> simp
  · simp

theorem Stage.afterInProgress_ne_running (found : Option EventId) : Stage.afterInProgress found ≠ .running := by
  unfold Stage.afterInProgress
  split <;> simp

/-- **What goes on after a commit** is a diagnosis that has just started. -/
theorem next_of_commit {task next : Task} {now : Time} {summary : Option Text} {f : Event → Event}
    (hcommit : task.commit now summary = some (f, some next)) :
    ∃ kind, task.work = .diagnosing kind .starting ∧ f = task.loaded.start now ∧
      next = ⟨task.event, task.loaded.start now task.loaded, .diagnosing kind .running⟩ := by
  obtain ⟨e, loaded, work⟩ := task
  cases work with
  | adding severity => simp [Task.commit] at hcommit
  | recovering => simp [Task.commit] at hcommit
  | diagnosing kind stage =>
    cases stage with
    | starting =>
      obtain ⟨rfl, rfl⟩ := by simpa [Task.commit] using hcommit
      exact ⟨kind, rfl, rfl, rfl⟩
    | loaded | reusing | searched | waiting | running => simp [Task.commit] at hcommit

/-- **The tasks are on events of the table**, and a diagnosis that runs has set its event in progress. -/
structure State.Sane (s : State) : Prop where
  inTable : ∀ i task, s.tasks i = some task → task.event < s.events.length
  started : ∀ i e loaded kind, s.tasks i = some ⟨e, loaded, .diagnosing kind .running⟩ →
    loaded.status = some .inProgress

theorem sane_start : State.Sane {} where
  inTable _ _ h := by simp at h
  started _ _ _ _ h := by simp at h

variable {s t : State}

/-- Another task on an event of the table. -/
theorem State.Sane.next (h : s.Sane) {i : ℕ} {next : Option Task}
    (htasks : t.tasks = Function.update s.tasks i next) (hlength : t.events.length = s.events.length)
    (hnext : ∀ task, next = some task → task.event < s.events.length ∧
      ∀ kind, task.work = .diagnosing kind .running → task.loaded.status = some .inProgress) : t.Sane := by
  constructor
  · intro j task htask
    rw [hlength]
    rw [htasks] at htask
    obtain ⟨-, hself⟩ | ⟨-, hold⟩ := update_eq_some htask
    · exact (hnext task hself).1
    · exact h.inTable j task hold
  · intro j e loaded kind htask
    rw [htasks] at htask
    obtain ⟨-, hself⟩ | ⟨-, hold⟩ := update_eq_some htask
    · exact (hnext _ hself).2 kind rfl
    · exact h.started j e loaded kind hold

/-- A diagnosis that looks for another one. -/
theorem State.Sane.searches (h : s.Sane) {i : ℕ} {e : EventId} {loaded : Event} {kind : Kind} {stage stage' : Stage}
    (htask : s.tasks i = some ⟨e, loaded, .diagnosing kind stage⟩) (hstage : stage' ≠ .running) :
    (s.setTask i (some ⟨e, loaded, .diagnosing kind stage'⟩)).Sane := by
  have hinTable := h.inTable i _ htask
  refine h.next rfl rfl fun task hnext => ?_
  obtain rfl := Option.some.inj hnext
  exact ⟨hinTable, fun kind' hwork => absurd (Work.diagnosing.inj hwork).2 hstage⟩

theorem State.Sane.step (h : s.Sane) {label : Label} (hstep : Steps s label t) : t.Sane := by
  cases hstep with
  | create =>
    refine ⟨fun i task htask => ?_, h.started⟩
    rw [List.length_append]
    exact Nat.lt_add_right _ (h.inTable i task htask)
  | cached => exact h
  | @load i e call row hfree hrow =>
    refine h.next rfl rfl fun task htask => ?_
    obtain rfl := Option.some.inj htask
    refine ⟨(List.getElem?_eq_some_iff.mp hrow).1, fun kind hwork => ?_⟩
    cases call <;> cases hwork
  | findRecent htask => exact h.searches htask (Stage.afterRecent_ne_running s _)
  | findInProgress htask => exact h.searches htask (Stage.afterInProgress_ne_running _)
  | refuse htask => exact h.next rfl rfl (by simp)
  | @commit i now summary task f next htask hcommit =>
    refine h.next rfl (List.length_modify ..) fun task' hnext => ?_
    -- only a diagnosis that starts goes on, and it has just set the status
    rw [hnext] at hcommit
    obtain ⟨kind, -, -, rfl⟩ := next_of_commit hcommit
    refine ⟨h.inTable i task htask, fun _ _ => ?_⟩
    show writtenColumn task.loaded.status (some .inProgress) task.loaded.status = some .inProgress
    rw [writtenColumn_eq_iff]
    split
    · rename_i heq
      exact heq.symm
    · rfl
  | finish htask hcommit => exact h.next rfl (List.length_modify ..) (by simp)

end DBClaw.Diagnosis
