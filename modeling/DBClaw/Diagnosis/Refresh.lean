import DBClaw.Diagnosis.Machine

/-! # Refreshing a diagnosis
A refresh of the diagnosis of an event is requested by a flag, which the next diagnosis clears. Diagnoses run
for minutes, and requests come in meanwhile: `noLostRefresh_iff` says which completions clear a flag that a
request has set behind their back, and which write a severity that the diagnosis has not seen. -/

namespace DBClaw.Diagnosis

open Runs
open Alerts (Severity Time writtenColumn)

/-! ## Kept refreshes -/

/-- **No refresh of the event is lost**: where the flag is not set, a diagnosis that loaded the event after the
last request has been scheduled, and the flag was cleared by a diagnosis that saw the severity that the event
has; and `last_diagnosed_severity` is the severity that the event's diagnosis saw. -/
structure Event.Kept (e : Event) : Prop where
  scheduled : e.refreshNeeded = false → e.record.scheduled = e.record.requests
  cleared : e.refreshNeeded = false → e.record.clearedWith = some e.severity
  seen : e.lastDiagnosedSeverity = e.record.diagnosed

/-- No refresh is lost. -/
def NoLostRefresh (s : State) : Prop := ∀ e ∈ s.events, e.Kept

/-- No refresh has been requested since the event was loaded, or a diagnosis that loaded it after the last
request has been started. -/
def Event.Current (loaded row : Event) : Prop :=
  row.record.requests ≤ loaded.record.requests ∨ row.record.scheduled = row.record.requests

/-- **The condition on `mark_event_diagnosis_completed`**, with a diagnosis that saw this severity: where the
flag was set when the event was loaded, the event still has this severity, and no refresh is newer; and
`last_diagnosed_severity` is written with what was seen, or is not written and already there. -/
structure Event.Answers (loaded : Event) (saw : Option Severity) (row : Event) : Prop where
  flag : loaded.refreshNeeded = true → loaded.Current row ∧ saw = some row.severity
  last : if some loaded.severity = loaded.lastDiagnosedSeverity then row.lastDiagnosedSeverity = saw
    else some loaded.severity = saw

/-- The condition on what a task commits: a request does not rely on a flag that was set when it loaded the
event and has been cleared since; and a diagnosis that is reused saw what the event has. -/
def Work.Answers (loaded row : Event) : Work → Prop
  | .adding severity =>
    loaded.severity.order < severity.order → loaded.refreshNeeded = true → row.refreshNeeded = true
  | .recovering => loaded.refreshNeeded = true → row.refreshNeeded = true
  | .diagnosing _ (.reusing _ found) => loaded.Answers found.record.diagnosed row
  | .diagnosing _ _ => True

/-- The condition on the end of a diagnosis; in the background the flag is cleared in any case, and the
severity is the one that the event has then. -/
def Outcome.Answers (loaded row : Event) : Kind → Outcome → Prop
  | .sync, .completed _ _ => loaded.Answers (some loaded.severity) row
  | .auto, .completed _ _ => loaded.Current row ∧ loaded.severity = row.severity
  | _, _ => True

/-- **The condition on a step.** -/
def Answered (s : State) : Label → Prop
  | .commit i _ _ => ∀ task row, s.tasks i = some task → s.events[task.event]? = some row →
      task.work.Answers task.loaded row
  | .finish i outcome => ∀ e loaded kind row, s.tasks i = some ⟨e, loaded, .diagnosing kind .running⟩ →
      s.events[e]? = some row → outcome.Answers loaded row kind
  | _ => True

/-! ## Rows -/

variable {loaded row : Event}

/-- The other columns do not matter. -/
theorem Event.Kept.congr {row' : Event} (h : row.Kept) (hseverity : row'.severity = row.severity)
    (hflag : row'.refreshNeeded = row.refreshNeeded)
    (hlast : row'.lastDiagnosedSeverity = row.lastDiagnosedSeverity) (hrecord : row'.record = row.record) :
    row'.Kept := by
  refine ⟨?_, ?_, ?_⟩
  · rw [hflag, hrecord]
    exact h.scheduled
  · rw [hflag, hrecord, hseverity]
    exact h.cleared
  · rw [hlast, hrecord, h.seen]

/-- A request leaves the flag set, or it is lost. -/
theorem kept_request_iff {row' : Event} (h : row.Kept) (hle : row.record.scheduled ≤ row.record.requests)
    (hrecord : row'.record = { row.record with requests := row.record.requests + 1 })
    (hlast : row'.lastDiagnosedSeverity = row.lastDiagnosedSeverity) :
    row'.Kept ↔ row'.refreshNeeded = true := by
  constructor
  · intro hkept
    by_contra hflag
    have hscheduled := hkept.scheduled (by simpa using hflag)
    rw [hrecord] at hscheduled
    simp only at hscheduled
    omega
  · intro hflag
    refine ⟨?_, ?_, ?_⟩
    · simp [hflag]
    · simp [hflag]
    · rw [hlast, hrecord, h.seen]

/-- The flag after a request. -/
theorem requested_flag_iff :
    writtenColumn loaded.refreshNeeded true row.refreshNeeded = true ↔
      (loaded.refreshNeeded = true → row.refreshNeeded = true) := by
  rw [writtenColumn_eq_iff]
  split
  · rename_i hset
    simp [← hset]
  · rename_i hclear
    simp [Ne.symm hclear]

/-- **An alert is added.** -/
theorem kept_addAlert_iff (severity : Severity) (h : row.Kept)
    (hle : row.record.scheduled ≤ row.record.requests) : (loaded.addAlert severity row).Kept ↔
      (loaded.severity.order < severity.order → loaded.refreshNeeded = true → row.refreshNeeded = true) := by
  unfold Event.addAlert
  split
  · rename_i hrises
    rw [forall_prop_of_true hrises]
    exact (kept_request_iff h hle (by rfl) (by rfl)).trans requested_flag_iff
  · rename_i hstays
    simp [h, hstays]

/-- **The event recovers.** -/
theorem kept_recover_iff (h : row.Kept) (hle : row.record.scheduled ≤ row.record.requests) :
    (loaded.recover row).Kept ↔ (loaded.refreshNeeded = true → row.refreshNeeded = true) :=
  (kept_request_iff h hle (by rfl) (by rfl)).trans requested_flag_iff

/-- A diagnosis is scheduled. -/
theorem Event.Kept.schedule (h : row.Kept) (hloaded : loaded.record.requests ≤ row.record.requests) :
    (loaded.schedule row).Kept := by
  refine ⟨fun hflag => ?_, h.cleared, h.seen⟩
  show max row.record.scheduled loaded.record.requests = row.record.requests
  rw [h.scheduled hflag]
  exact max_eq_left hloaded

/-- The request that was there when the event was loaded is the last one. -/
theorem Event.current_iff (hle : row.record.scheduled ≤ row.record.requests)
    (hloaded : loaded.record.requests ≤ row.record.scheduled) :
    loaded.Current row ↔ row.record.scheduled = row.record.requests := by
  unfold Event.Current
  omega

/-- **A diagnosis completes.** -/
theorem kept_markCompleted_iff (saw : Option Severity) (h : row.Kept)
    (hle : row.record.scheduled ≤ row.record.requests)
    (hloaded : loaded.record.requests ≤ row.record.scheduled) :
    (loaded.markCompleted saw row).Kept ↔ loaded.Answers saw row := by
  have hlast : (loaded.markCompleted saw row).lastDiagnosedSeverity =
      (loaded.markCompleted saw row).record.diagnosed ↔
        if some loaded.severity = loaded.lastDiagnosedSeverity then row.lastDiagnosedSeverity = saw
        else some loaded.severity = saw := writtenColumn_eq_iff
  cases hflag : loaded.refreshNeeded with
  | true =>
    have hcleared : (loaded.markCompleted saw row).refreshNeeded = false := by
      simp [Event.markCompleted, hflag, writtenColumn]
    have hwith : (loaded.markCompleted saw row).record.clearedWith = saw := by
      simp [Event.markCompleted, hflag]
    constructor
    · intro hkept
      refine ⟨fun _ => ⟨(Event.current_iff hle hloaded).mpr (hkept.scheduled hcleared), ?_⟩, hlast.mp hkept.seen⟩
      exact hwith.symm.trans (hkept.cleared hcleared)
    · rintro ⟨hanswers, hseen⟩
      obtain ⟨hcurrent, hsaw⟩ := hanswers hflag
      exact ⟨fun _ => (Event.current_iff hle hloaded).mp hcurrent, fun _ => hwith.trans hsaw, hlast.mpr hseen⟩
  | false =>
    -- the flag is not written, and keeps the diagnosis that cleared it
    have hkeeps : (loaded.markCompleted saw row).refreshNeeded = row.refreshNeeded := by
      simp [Event.markCompleted, hflag, writtenColumn]
    have hwith : (loaded.markCompleted saw row).record.clearedWith = row.record.clearedWith := by
      simp [Event.markCompleted, hflag]
    constructor
    · intro hkept
      exact ⟨by simp [hflag], hlast.mp hkept.seen⟩
    · rintro ⟨-, hseen⟩
      refine ⟨fun hclear => h.scheduled (hkeeps ▸ hclear), fun hclear => ?_, hlast.mpr hseen⟩
      exact hwith.trans (h.cleared (hkeeps ▸ hclear))

/-- The condition is about few columns. -/
theorem answers_congr {row' : Event} (saw : Option Severity) (hseverity : row'.severity = row.severity)
    (hlast : row'.lastDiagnosedSeverity = row.lastDiagnosedSeverity)
    (hcurrent : loaded.Current row' ↔ loaded.Current row) :
    loaded.Answers saw row' ↔ loaded.Answers saw row := by
  constructor
  · rintro ⟨hflag, hseen⟩
    rw [hseverity, hcurrent] at hflag
    rw [hlast] at hseen
    exact ⟨hflag, hseen⟩
  · rintro ⟨hflag, hseen⟩
    rw [← hseverity, ← hcurrent] at hflag
    rw [← hlast] at hseen
    exact ⟨hflag, hseen⟩

/-- It does not depend on what is scheduled for the loaded row. -/
theorem current_schedule_iff (hle : row.record.scheduled ≤ row.record.requests) :
    loaded.Current (loaded.schedule row) ↔ loaded.Current row := by
  simp only [Event.Current, Event.schedule]
  omega

/-- **A diagnosis is reused.** -/
theorem kept_reuse_iff (source : EventId) (found : Event) (now : Time) (summary : Option Text) (h : row.Kept)
    (hle : row.record.scheduled ≤ row.record.requests)
    (hloaded : loaded.record.requests ≤ row.record.requests) :
    (loaded.reuse source found now summary row).Kept ↔ loaded.Answers found.record.diagnosed row := by
  have hscheduled := h.schedule hloaded
  refine (kept_markCompleted_iff _ ?_ ?_ ?_).trans (answers_congr _ rfl rfl (current_schedule_iff hle))
  · exact hscheduled.congr rfl rfl rfl rfl
  · exact max_le hle hloaded
  · exact le_max_right ..

/-- **A synchronous diagnosis completes.** -/
theorem kept_completeSync_iff (now : Time) (summary : Option Text) (h : row.Kept)
    (hle : row.record.scheduled ≤ row.record.requests)
    (hloaded : loaded.record.requests ≤ row.record.scheduled) :
    (loaded.completeSync now summary row).Kept ↔ loaded.Answers (some loaded.severity) row := by
  have hrow : (loaded.writeResult summary (some now) row).Kept := h.congr rfl rfl rfl rfl
  exact (kept_markCompleted_iff (some loaded.severity) hrow hle hloaded).trans (answers_congr _ rfl rfl Iff.rfl)

/-- **A diagnosis in the background completes.** -/
theorem kept_completeAuto_iff (now : Time) (summary : Option Text)
    (hle : row.record.scheduled ≤ row.record.requests)
    (hloaded : loaded.record.requests ≤ row.record.scheduled) :
    (loaded.completeAuto now summary row).Kept ↔ loaded.Current row ∧ loaded.severity = row.severity := by
  rw [Event.current_iff hle hloaded]
  constructor
  · rintro ⟨hscheduled, hcleared, -⟩
    exact ⟨hscheduled rfl, Option.some.inj (hcleared rfl)⟩
  · rintro ⟨hscheduled, hseverity⟩
    exact ⟨fun _ => hscheduled, fun _ => congrArg some hseverity, congrArg some hseverity.symm⟩

/-! ## Steps -/

variable {s t : State}

/-- **The refreshes of a session**: none is lost, and the records are in order. -/
structure Recorded (s : State) : Prop where
  kept : NoLostRefresh s
  scheduled : ∀ e ∈ s.events, e.record.scheduled ≤ e.record.requests
  sane : s.Sane
  loaded : ∀ i task row, s.tasks i = some task → s.events[task.event]? = some row →
    task.loaded.record.requests ≤ row.record.requests
  running : ∀ i e loaded kind row, s.tasks i = some ⟨e, loaded, .diagnosing kind .running⟩ →
    s.events[e]? = some row → loaded.record.requests ≤ row.record.scheduled

theorem recorded_start : Recorded {} where
  kept _ h := absurd h List.not_mem_nil
  scheduled _ h := absurd h List.not_mem_nil
  sane := sane_start
  loaded _ _ _ h := by simp at h
  running _ _ _ _ _ h := by simp at h

/-- One row changes. -/
theorem NoLostRefresh.put_iff (h : NoLostRefresh s) (i : ℕ) (task : Option Task) (e : EventId)
    (f : Event → Event) : NoLostRefresh (s.put i task e f) ↔ ∀ row, s.events[e]? = some row → (f row).Kept := by
  constructor
  · intro hkept row hrow
    refine hkept _ (List.mem_of_getElem? (i := e) ?_)
    rw [getElem?_put, if_pos rfl, hrow, Option.map_some]
  · intro hrow row hmem
    obtain ⟨j, hj⟩ := List.getElem?_of_mem hmem
    rw [getElem?_put] at hj
    split at hj
    · rename_i heq
      subst heq
      obtain ⟨old, hold, rfl⟩ := Option.map_eq_some_iff.mp hj
      exact hrow old hold
    · exact h row (List.mem_of_getElem? hj)

/-- **What a task commits loses no refresh** iff it meets the condition. -/
theorem kept_commit_iff {task : Task} {now : Time} {summary : Option Text} {f : Event → Event}
    {next : Option Task} (hcommit : task.commit now summary = some (f, next)) (h : row.Kept)
    (hle : row.record.scheduled ≤ row.record.requests)
    (hloaded : task.loaded.record.requests ≤ row.record.requests) :
    (f row).Kept ↔ task.work.Answers task.loaded row := by
  obtain ⟨e, loaded, work⟩ := task
  cases work with
  | adding severity =>
    obtain ⟨rfl, -⟩ := by simpa [Task.commit] using hcommit
    exact kept_addAlert_iff severity h hle
  | recovering =>
    obtain ⟨rfl, -⟩ := by simpa [Task.commit] using hcommit
    exact kept_recover_iff h hle
  | diagnosing kind stage =>
    cases stage with
    | reusing source found =>
      obtain ⟨rfl, -⟩ := by simpa [Task.commit] using hcommit
      exact kept_reuse_iff source found now summary h hle hloaded
    | waiting source =>
      obtain ⟨rfl, -⟩ := by simpa [Task.commit] using hcommit
      exact iff_of_true (h.congr rfl rfl rfl rfl) trivial
    | starting =>
      obtain ⟨rfl, -⟩ := by simpa [Task.commit] using hcommit
      exact iff_of_true ((h.schedule hloaded).congr rfl rfl rfl rfl) trivial
    | loaded | searched | running => simp [Task.commit] at hcommit

/-- **The end of a diagnosis loses no refresh** iff it meets the condition. -/
theorem kept_finish_iff {kind : Kind} {outcome : Outcome} {f : Event → Event}
    (hcommit : outcome.commit loaded kind = some f) (h : row.Kept)
    (hle : row.record.scheduled ≤ row.record.requests)
    (hloaded : loaded.record.requests ≤ row.record.scheduled) :
    (f row).Kept ↔ outcome.Answers loaded row kind := by
  cases outcome with
  | completed now summary =>
    cases kind with
    | sync =>
      obtain rfl := by simpa [Outcome.commit] using hcommit
      exact kept_completeSync_iff now summary h hle hloaded
    | auto =>
      obtain rfl := by simpa [Outcome.commit] using hcommit
      exact kept_completeAuto_iff now summary hle hloaded
  | empty =>
    cases kind with
    | sync => simp [Outcome.commit] at hcommit
    | auto =>
      obtain rfl := by simpa [Outcome.commit] using hcommit
      exact iff_of_true h trivial
  | timedOut =>
    cases kind with
    | sync =>
      obtain rfl := by simpa [Outcome.commit] using hcommit
      exact iff_of_true (h.congr rfl rfl rfl rfl) trivial
    | auto => simp [Outcome.commit] at hcommit
  | failed =>
    cases kind <;> obtain rfl := by simpa [Outcome.commit] using hcommit
    · exact iff_of_true (h.congr rfl rfl rfl rfl) trivial
    · exact iff_of_true (h.congr rfl rfl rfl rfl) trivial

/-- **A step loses no refresh** iff it meets the condition. -/
theorem Recorded.kept_iff (h : Recorded s) {label : Label} (hstep : Steps s label t) :
    NoLostRefresh t ↔ Answered s label := by
  cases hstep with
  | @create datasourceId alertType metricName severity =>
    refine iff_of_true ?_ trivial
    intro e he
    obtain he | he := List.mem_append.mp he
    · exact h.kept e he
    · rw [List.mem_singleton.mp he]
      exact ⟨by simp, by simp, rfl⟩
  | cached | load _ _ | findRecent _ | findInProgress _ | refuse _ => exact iff_of_true h.kept trivial
  | @commit i now summary task f task' htask hcommit =>
    rw [h.kept.put_iff]
    have hrow (row : Event) (hrow : s.events[task.event]? = some row) :
        (f row).Kept ↔ task.work.Answers task.loaded row :=
      kept_commit_iff hcommit (h.kept row (List.mem_of_getElem? hrow)) (h.scheduled row (List.mem_of_getElem? hrow))
        (h.loaded i task row htask hrow)
    constructor
    · intro hkept task'' row htask'' hrow'
      obtain rfl : task = task'' := Option.some.inj (htask.symm.trans htask'')
      exact (hrow row hrow').mp (hkept row hrow')
    · intro hanswered row hrow'
      exact (hrow row hrow').mpr (hanswered task row htask hrow')
  | @finish i outcome e loaded kind f htask hcommit =>
    rw [h.kept.put_iff]
    have hrow (row : Event) (hrow : s.events[e]? = some row) :
        (f row).Kept ↔ outcome.Answers loaded row kind :=
      kept_finish_iff hcommit (h.kept row (List.mem_of_getElem? hrow)) (h.scheduled row (List.mem_of_getElem? hrow))
        (h.running i e loaded kind row htask hrow)
    constructor
    · intro hkept e' loaded' kind' row htask' hrow'
      obtain ⟨rfl, rfl, rfl⟩ : e = e' ∧ loaded = loaded' ∧ kind = kind' := by simpa [htask] using htask'
      exact (hrow row hrow').mp (hkept row hrow')
    · intro hanswered row hrow'
      exact (hrow row hrow').mpr (hanswered e loaded kind row htask hrow')

/-! ### The records -/

/-- The records of a row go up. -/
structure Event.Grows (row row' : Event) : Prop where
  requests : row.record.requests ≤ row'.record.requests
  scheduled : row.record.scheduled ≤ row'.record.scheduled
  le : row'.record.scheduled ≤ row'.record.requests

theorem grows_refl (hle : row.record.scheduled ≤ row.record.requests) : row.Grows row := ⟨le_rfl, le_rfl, hle⟩

theorem grows_schedule (hle : row.record.scheduled ≤ row.record.requests)
    (hloaded : loaded.record.requests ≤ row.record.requests) : row.Grows (loaded.schedule row) :=
  ⟨le_rfl, le_max_left .., max_le hle hloaded⟩

theorem grows_commit {task : Task} {now : Time} {summary : Option Text} {f : Event → Event} {next : Option Task}
    (hcommit : task.commit now summary = some (f, next)) (hle : row.record.scheduled ≤ row.record.requests)
    (hloaded : task.loaded.record.requests ≤ row.record.requests) : row.Grows (f row) := by
  have hschedule := grows_schedule hle hloaded
  have hrequest : row.Grows (task.loaded.recover row) := ⟨Nat.le_succ _, le_rfl, hle.trans (Nat.le_succ _)⟩
  obtain ⟨e, loaded, work⟩ := task
  cases work with
  | adding severity =>
    obtain ⟨rfl, -⟩ := by simpa [Task.commit] using hcommit
    unfold Event.addAlert
    split
    · exact ⟨hrequest.requests, hrequest.scheduled, hrequest.le⟩
    · exact grows_refl hle
  | recovering =>
    obtain ⟨rfl, -⟩ := by simpa [Task.commit] using hcommit
    exact hrequest
  | diagnosing kind stage =>
    cases stage with
    | reusing source found =>
      obtain ⟨rfl, -⟩ := by simpa [Task.commit] using hcommit
      exact ⟨hschedule.requests, hschedule.scheduled, hschedule.le⟩
    | waiting source =>
      obtain ⟨rfl, -⟩ := by simpa [Task.commit] using hcommit
      exact ⟨le_rfl, le_rfl, hle⟩
    | starting =>
      obtain ⟨rfl, -⟩ := by simpa [Task.commit] using hcommit
      exact ⟨hschedule.requests, hschedule.scheduled, hschedule.le⟩
    | loaded | searched | running => simp [Task.commit] at hcommit

theorem grows_finish {kind : Kind} {outcome : Outcome} {f : Event → Event}
    (hcommit : outcome.commit loaded kind = some f) (hle : row.record.scheduled ≤ row.record.requests) :
    row.Grows (f row) := by
  cases outcome <;> cases kind <;> simp only [Outcome.commit, Option.some.injEq, reduceCtorEq] at hcommit <;>
    subst hcommit <;> exact ⟨le_rfl, le_rfl, hle⟩

/-- **The records stay in order** where rows go up and a task keeps to the row that it has loaded. -/
theorem Recorded.next (h : Recorded s) (hkept : NoLostRefresh t) (hsane : t.Sane) {i : ℕ} {next : Option Task}
    (htasks : t.tasks = Function.update s.tasks i next)
    (hrows : ∀ (j : EventId) (row' : Event), t.events[j]? = some row' →
      ∃ row, s.events[j]? = some row ∧ row.Grows row')
    (hnext : ∀ task, next = some task → ∀ row', t.events[task.event]? = some row' →
      task.loaded.record.requests ≤ row'.record.requests ∧ ∀ kind, task.work = .diagnosing kind .running →
        task.loaded.record.requests ≤ row'.record.scheduled) :
    Recorded t := by
  refine ⟨hkept, ?_, hsane, ?_, ?_⟩
  · intro row' hmem
    obtain ⟨j, hj⟩ := List.getElem?_of_mem hmem
    obtain ⟨row, -, hgrows⟩ := hrows j row' hj
    exact hgrows.le
  · intro j task row' htask hrow'
    rw [htasks] at htask
    obtain ⟨-, hself⟩ | ⟨-, hold⟩ := update_eq_some htask
    · exact (hnext task hself row' hrow').1
    · obtain ⟨row, hrow, hgrows⟩ := hrows task.event row' hrow'
      exact (h.loaded j task row hold hrow).trans hgrows.requests
  · intro j e loaded kind row' htask hrow'
    rw [htasks] at htask
    obtain ⟨-, hself⟩ | ⟨-, hold⟩ := update_eq_some htask
    · exact (hnext _ hself row' hrow').2 kind rfl
    · obtain ⟨row, hrow, hgrows⟩ := hrows e row' hrow'
      exact (h.running j e loaded kind row hold hrow).trans hgrows.scheduled

/-- Where no row changes. -/
theorem Recorded.setTask (h : Recorded s) {i : ℕ} {next : Option Task} (hsane : (s.setTask i next).Sane)
    (hnext : ∀ task, next = some task → ∀ row, s.events[task.event]? = some row →
      task.loaded.record.requests ≤ row.record.requests ∧ ∀ kind, task.work = .diagnosing kind .running →
        task.loaded.record.requests ≤ row.record.scheduled) :
    Recorded (s.setTask i next) :=
  h.next h.kept hsane rfl
    (fun _ row hrow => ⟨row, hrow, grows_refl (h.scheduled row (List.mem_of_getElem? hrow))⟩) hnext

/-- A diagnosis that looks for another one keeps to its row. -/
theorem Recorded.searches (h : Recorded s) {i : ℕ} {e : EventId} {kind : Kind} {stage stage' : Stage}
    (htask : s.tasks i = some ⟨e, loaded, .diagnosing kind stage⟩) (hstage : stage' ≠ .running) :
    Recorded (s.setTask i (some ⟨e, loaded, .diagnosing kind stage'⟩)) := by
  have hloaded := fun row => h.loaded i _ row htask
  refine h.setTask (h.sane.searches htask hstage) fun task hnext row hrow => ?_
  obtain rfl := Option.some.inj hnext
  exact ⟨hloaded row hrow, fun kind' hwork => absurd (Work.diagnosing.inj hwork).2 hstage⟩

/-- A row of the table changes. -/
theorem Recorded.put (h : Recorded s) {i : ℕ} {next : Option Task} {e : EventId} {f : Event → Event}
    (hkept : NoLostRefresh (s.put i next e f)) (hsane : (s.put i next e f).Sane)
    (hgrows : ∀ row, s.events[e]? = some row → row.Grows (f row))
    (hnext : ∀ task, next = some task → task.event = e ∧
      ∀ row, s.events[e]? = some row → task.loaded.record.requests ≤ row.record.requests ∧
        task.loaded.record.requests ≤ (f row).record.scheduled) : Recorded (s.put i next e f) := by
  refine h.next hkept hsane rfl ?_ ?_
  · intro j row' hj
    rw [getElem?_put] at hj
    split at hj
    · rename_i heq
      subst heq
      obtain ⟨row, hrow, rfl⟩ := Option.map_eq_some_iff.mp hj
      exact ⟨row, hrow, hgrows row hrow⟩
    · exact ⟨row', hj, grows_refl (h.scheduled row' (List.mem_of_getElem? hj))⟩
  · intro task htask row' hrow'
    obtain ⟨rfl, hloaded⟩ := hnext task htask
    rw [getElem?_put, if_pos rfl] at hrow'
    obtain ⟨row, hrow, rfl⟩ := Option.map_eq_some_iff.mp hrow'
    exact ⟨(hloaded row hrow).1.trans (hgrows row hrow).requests, fun _ _ => (hloaded row hrow).2⟩

/-- **A step keeps the records in order**, where it loses no refresh. -/
theorem Recorded.step (h : Recorded s) {label : Label} (hstep : Steps s label t) (hkept : NoLostRefresh t) :
    Recorded t := by
  have hsane := h.sane.step hstep
  cases hstep with
  | @create datasourceId alertType metricName severity =>
    -- the tasks are on the events that were there
    have hrow {i : ℕ} {task : Task} {row : Event} {new : Event} (htask : s.tasks i = some task)
        (hrow : (s.events ++ [new])[task.event]? = some row) : s.events[task.event]? = some row := by
      rwa [List.getElem?_append_left (h.sane.inTable i task htask)] at hrow
    refine ⟨hkept, ?_, hsane, ?_, ?_⟩
    · intro row hmem
      obtain hmem | hmem := List.mem_append.mp hmem
      · exact h.scheduled row hmem
      · rw [List.mem_singleton.mp hmem]
        exact Nat.zero_le _
    · exact fun i task row htask hrow' => h.loaded i task row htask (hrow htask hrow')
    · exact fun i e loaded kind row htask hrow' => h.running i e loaded kind row htask (hrow htask hrow')
  | cached => exact h
  | @load i e call row hfree hrow =>
    refine h.setTask hsane fun task htask row' hrow' => ?_
    obtain rfl := Option.some.inj htask
    obtain rfl : row = row' := Option.some.inj (hrow.symm.trans hrow')
    refine ⟨le_rfl, fun kind hwork => ?_⟩
    cases call <;> cases hwork
  | findRecent htask => exact h.searches htask (Stage.afterRecent_ne_running s _)
  | findInProgress htask => exact h.searches htask (Stage.afterInProgress_ne_running _)
  | refuse htask => exact h.setTask hsane (by simp)
  | @commit i now summary task f next htask hcommit =>
    refine h.put hkept hsane (fun row hrow => ?_) fun task' hnext => ?_
    · exact grows_commit hcommit (h.scheduled row (List.mem_of_getElem? hrow)) (h.loaded i task row htask hrow)
    · rw [hnext] at hcommit
      obtain ⟨kind, -, rfl, rfl⟩ := next_of_commit hcommit
      exact ⟨rfl, fun row hrow => ⟨h.loaded i task row htask hrow, le_max_right ..⟩⟩
  | @finish i outcome e loaded kind f htask hcommit =>
    exact h.put hkept hsane (fun row hrow => grows_finish hcommit (h.scheduled row (List.mem_of_getElem? hrow)))
      (by simp)

/-- **No refresh is lost** along a run iff all its steps meet the condition. -/
theorem noLostRefresh_iff (window : Time) (labels : List Label) (t : State) :
    Run (Diagnosis.step window) (fun s label => ∃ t ∈ Diagnosis.step window s label, NoLostRefresh t) {} labels t ↔
      Run (Diagnosis.step window) Answered {} labels t :=
  Run.leadsTo_iff (I := Recorded) (fun _ _ _ h hs => h.kept_iff (steps_of_step hs))
    (fun _ _ _ h hs hkept => h.step (steps_of_step hs) hkept) recorded_start

/-- A diagnosis during which the severity rises. -/
def risingSeverity : List Label := [
  .create 1 (some "threshold_violation".toList) (some "cpu_usage".toList) .medium,
  .load 0 0 (.diagnose .sync),
  .findRecent 0 0 none,
  .findInProgress 0 0 none,
  .commit 0 0 none,
  .load 1 0 (.addAlert .critical),
  .commit 1 0 none,
  .finish 0 (.completed (Time.minutes 1) (some "The load is high.".toList))]

/-- The table after it. -/
def risenState : State := (exec (step (Time.minutes 60)) Always {} risingSeverity).getD {}

/-- **The refresh that the rise has requested is lost**: no diagnosis has seen that the event is critical, and
none is requested. -/
theorem risingSeverity_loses :
    Run (step (Time.minutes 60)) Always {} risingSeverity risenState ∧ ¬ NoLostRefresh risenState := by
  refine ⟨.of_isSome (by decide), fun hkept => ?_⟩
  obtain ⟨e, he⟩ : ∃ e, risenState.events = [e] := ⟨_, rfl⟩
  have hcleared := (hkept e (by simp [he])).cleared
  have hflag : risenState.events.map Event.refreshNeeded = [false] := by decide
  have hwith : risenState.events.map (fun e => (e.record.clearedWith, e.severity)) =
      [(some .medium, .critical)] := by decide
  simp only [he, List.map_cons, List.map_nil, List.cons.injEq, and_true, Prod.mk.injEq] at hflag hwith
  rw [hwith.1, hwith.2] at hcleared
  cases hcleared hflag

end DBClaw.Diagnosis
