import DBClaw.Library.Runs
import Mathlib.Data.Nat.Basic

/-! # Inspection triggers
`trigger_inspection` commits a trigger and starts a task that generates its report: it commits a report in
status `generating`, has the AI write it, and commits the outcome together with the processed trigger. An
exception of the AI is recovered from; any other failure ends the task where it stands, and nothing takes
up what it leaves. `triggersSettled_iff` says which runs settle every trigger. -/

namespace DBClaw.InspectionTriggers

open Runs

/-- `status` of a report. -/
inductive ReportStatus
  | generating | completed | partially | timedOut | awaitingConfirm | failed
  deriving DecidableEq, Repr

/-- `TERMINAL_REPORT_STATUSES`. -/
def ReportStatus.isTerminal : ReportStatus → Bool
  | .completed | .partially | .timedOut | .awaitingConfirm | .failed => true
  | .generating => false

/-- The statuses that `generate_report_with_skills` returns. -/
inductive AiStatus
  | completed | partially | timedOut | failed
  deriving DecidableEq, Repr

/-- As a status of the report. -/
def AiStatus.toReportStatus : AiStatus → ReportStatus
  | .completed => .completed
  | .partially => .partially
  | .timedOut => .timedOut
  | .failed => .failed

/-- **`InspectionTrigger`**. -/
structure InspectionTrigger where
  datasourceId : ℕ
  isProcessed : Bool := false
  reportId : Option ℕ := none
  deriving DecidableEq, Repr

/-- **`Report`**. -/
structure Report where
  triggerId : ℕ
  status : ReportStatus
  deriving DecidableEq, Repr

/-- Where the work on a trigger stands. -/
inductive Stage
  /-- Nobody works on it. -/
  | idle
  /-- `trigger_inspection` has committed it. -/
  | created
  /-- The task that generates the report has been created, and has selected the trigger. -/
  | queued
  | selected
  /-- The AI writes the report, or has raised an exception. -/
  | generating (report : ℕ)
  | recovering (report : ℕ)
  /-- The report is there, its status still to be committed if it is given here. -/
  | generated (report : ℕ) (status : Option ReportStatus)
  deriving DecidableEq, Repr

/-- The rows, triggers and reports each at its id, the datasources that are deleted, and the work on each
trigger. -/
structure State where
  isDeleted : ℕ → Bool := fun _ => false
  triggers : List InspectionTrigger := []
  reports : List Report := []
  stages : ℕ → Stage := fun _ => .idle

/-- What happens. -/
inductive Label
  /-- `trigger_inspection` commits a new trigger, whose datasource was alive when it looked. -/
  | trigger (datasourceId : ℕ)
  | createTask (i : ℕ)
  /-- `_generate_report` selects the trigger with a datasource that is alive. -/
  | select (i : ℕ)
  /-- `generate_inspection_report` commits its first report. -/
  | begin (i : ℕ)
  | generate (i : ℕ) (status : AiStatus)
  /-- The generation raises an exception. -/
  | raise (i : ℕ)
  /-- It is recovered from, with a rollback and a commit. -/
  | recover (i : ℕ)
  /-- `_generate_report` commits. -/
  | settle (i : ℕ)
  /-- A failure at any other await, or a cancellation at any. -/
  | fail (i : ℕ)
  | deleteDatasource (datasourceId : ℕ)
  | restart
  deriving DecidableEq, Repr

namespace State

variable (s : State)

/-- The work on a trigger goes on. -/
def goOn (i : ℕ) (stage : Stage) : State := { s with stages := Function.update s.stages i stage }

/-- The datasource of the trigger is deleted. -/
def lost (i : ℕ) : Bool := s.triggers[i]?.any fun trigger => s.isDeleted trigger.datasourceId

/-- A report of the trigger is committed. -/
def addReport (i : ℕ) (status : ReportStatus) : State :=
  { s with reports := s.reports ++ [{ triggerId := i, status := status }] }

/-- A report's status is committed. -/
def setStatus (report : ℕ) (status : ReportStatus) : State :=
  { s with reports := s.reports.modify report fun r => { r with status := status } }

/-- The trigger is processed. -/
def process (i report : ℕ) : State :=
  { s with triggers := s.triggers.modify i fun trigger =>
      { trigger with isProcessed := true, reportId := some report } }

end State

/-- **One step.** -/
def step (s : State) : Label → Option State
  | .trigger datasourceId =>
    some { s.goOn s.triggers.length .created with
      triggers := s.triggers ++ [{ datasourceId := datasourceId }] }
  | .createTask i =>
    match s.stages i with
    | .created => some (s.goOn i .queued)
    | _ => none
  | .select i =>
    match s.stages i with
    | .queued =>
      if s.lost i || s.triggers[i]?.any (·.isProcessed) then some (s.goOn i .idle)
      else some (s.goOn i .selected)
    | _ => none
  | .begin i =>
    match s.stages i with
    | .selected =>
      if s.lost i then some ((s.addReport i .failed).goOn i (.generated s.reports.length none))
      else some ((s.addReport i .generating).goOn i (.generating s.reports.length))
    | _ => none
  | .generate i status =>
    match s.stages i with
    | .generating report => some (s.goOn i (.generated report (some status.toReportStatus)))
    | _ => none
  | .raise i =>
    match s.stages i with
    | .generating report => some (s.goOn i (.recovering report))
    | _ => none
  | .recover i =>
    match s.stages i with
    | .recovering report => some ((s.setStatus report .failed).goOn i (.generated report none))
    | _ => none
  | .settle i =>
    match s.stages i with
    | .generated report none => some ((s.process i report).goOn i .idle)
    | .generated report (some status) => some (((s.setStatus report status).process i report).goOn i .idle)
    | _ => none
  | .fail i =>
    match s.stages i with
    | .idle => none
    | _ => some (s.goOn i .idle)
  | .deleteDatasource datasourceId =>
    some { s with isDeleted := Function.update s.isDeleted datasourceId true }
  | .restart => some { s with stages := fun _ => .idle }

/-! ## The property and the condition -/

/-- The report is the only one of the trigger, and has this status. -/
def State.OnlyReport (s : State) (i report : ℕ) (status : ReportStatus) : Prop :=
  s.reports[report]? = some { triggerId := i, status := status } ∧
    ∀ j, ∀ r ∈ s.reports[j]?, r.triggerId = i → j = report

/-- **The trigger is settled**: it is processed, and names its only report, which is in a terminal status. -/
def State.Settled (s : State) (i : ℕ) : Prop :=
  ∃ trigger ∈ s.triggers[i]?, trigger.isProcessed = true ∧
    ∃ report ∈ trigger.reportId, ∃ status, status.isTerminal = true ∧ s.OnlyReport i report status

/-- **Every trigger nobody works on is settled**, and no report is left in status `generating`. -/
structure State.AllSettled (s : State) : Prop where
  triggers : ∀ i < s.triggers.length, s.stages i = .idle → s.Settled i
  reports : ∀ report ∈ s.reports, report.status = .generating → s.stages report.triggerId ≠ .idle

/-- **The condition on a step**: no failure ends the work on a trigger, the process is restarted only while
nobody works on any, and the datasource is alive when the task selects the trigger. -/
def Undisturbed (s : State) : Label → Prop
  | .fail _ => False
  | .restart => ∀ i, s.stages i = .idle
  | .select i => s.lost i = false
  | _ => True

/-! ## The invariant -/

/-- The trigger is there, and is not processed. -/
def State.Unprocessed (s : State) (i : ℕ) : Prop :=
  ∃ trigger ∈ s.triggers[i]?, trigger.isProcessed = false

/-- What holds of a trigger and its reports while the work on it is at a stage. -/
def State.At (s : State) (i : ℕ) : Stage → Prop
  | .idle => i < s.triggers.length → s.Settled i
  | .created | .queued | .selected => s.Unprocessed i ∧ ∀ r ∈ s.reports, r.triggerId ≠ i
  | .generating report | .recovering report => s.Unprocessed i ∧ s.OnlyReport i report .generating
  | .generated report (some status) =>
    s.Unprocessed i ∧ s.OnlyReport i report .generating ∧ status.isTerminal = true
  | .generated report none => s.Unprocessed i ∧ ∃ status, s.OnlyReport i report status ∧ status.isTerminal = true

/-- **The invariant.** -/
structure State.Sound (s : State) : Prop where
  locally : ∀ i, s.At i (s.stages i)
  owned : ∀ r ∈ s.reports, r.triggerId < s.triggers.length

variable {s t : State} {i k : ℕ}

/-- Both states say the same of a trigger and its reports. -/
structure SameFor (s t : State) (i : ℕ) : Prop where
  stage : t.stages i = s.stages i
  trigger : t.triggers[i]? = s.triggers[i]?
  reports : ∀ (j : ℕ) (r : Report), r.triggerId = i → (t.reports[j]? = some r ↔ s.reports[j]? = some r)

theorem SameFor.onlyReport (h : SameFor s t i) {report : ℕ} {status : ReportStatus}
    (hs : s.OnlyReport i report status) : t.OnlyReport i report status := by
  refine ⟨(h.reports report _ rfl).mpr hs.1, fun j r hr howner => ?_⟩
  exact hs.2 j r ((h.reports j r howner).mp hr) howner

theorem SameFor.unprocessed (h : SameFor s t i) (hs : s.Unprocessed i) : t.Unprocessed i := by
  obtain ⟨trigger, htrigger, hfalse⟩ := hs
  exact ⟨trigger, h.trigger.trans htrigger, hfalse⟩

theorem SameFor.none (h : SameFor s t i) (hs : ∀ r ∈ s.reports, r.triggerId ≠ i) :
    ∀ r ∈ t.reports, r.triggerId ≠ i := by
  intro r hr howner
  obtain ⟨j, hj⟩ := List.mem_iff_getElem?.mp hr
  exact hs r (List.mem_of_getElem? ((h.reports j r howner).mp hj)) howner

/-- **A trigger that a step does not touch.** -/
theorem SameFor.at (h : SameFor s t i) {stage : Stage} (hs : s.At i stage) : t.At i stage := by
  cases stage with
  | idle =>
    intro hi
    have hi' : i < s.triggers.length := by
      rw [← not_le, ← List.getElem?_eq_none_iff, ← h.trigger, List.getElem?_eq_none_iff, not_le]
      exact hi
    obtain ⟨trigger, htrigger, hprocessed, report, hreport, status, hterminal, honly⟩ := hs hi'
    exact ⟨trigger, h.trigger.trans htrigger, hprocessed, report, hreport, status, hterminal, h.onlyReport honly⟩
  | created => exact ⟨h.unprocessed hs.1, h.none hs.2⟩
  | queued => exact ⟨h.unprocessed hs.1, h.none hs.2⟩
  | selected => exact ⟨h.unprocessed hs.1, h.none hs.2⟩
  | generating report => exact ⟨h.unprocessed hs.1, h.onlyReport hs.2⟩
  | recovering report => exact ⟨h.unprocessed hs.1, h.onlyReport hs.2⟩
  | generated report status =>
    cases status with
    | some status => exact ⟨h.unprocessed hs.1, h.onlyReport hs.2.1, hs.2.2⟩
    | none =>
      obtain ⟨hunprocessed, status, honly, hterminal⟩ := hs
      exact ⟨h.unprocessed hunprocessed, status, h.onlyReport honly, hterminal⟩

/-! ## What an operation does not touch -/

theorem sameFor_addReport (s : State) (status : ReportStatus) (hne : i ≠ k) :
    SameFor s (s.addReport k status) i := by
  refine ⟨rfl, rfl, fun j r howner => ?_⟩
  change (s.reports ++ [{ triggerId := k, status := status }])[j]? = some r ↔ _
  rw [List.getElem?_append]
  split
  · exact Iff.rfl
  · rename_i hge
    rw [List.getElem?_eq_none (not_lt.mp hge), List.getElem?_singleton]
    refine iff_of_false ?_ (by simp)
    intro hr
    split at hr
    · cases hr
      exact hne howner.symm
    · cases hr

theorem sameFor_setStatus {report : ℕ} {old status : ReportStatus} (h : s.OnlyReport k report old)
    (hne : i ≠ k) : SameFor s (s.setStatus report status) i := by
  refine ⟨rfl, rfl, fun j r howner => ?_⟩
  change (s.reports.modify report _)[j]? = some r ↔ _
  by_cases hj : report = j
  · subst hj
    rw [List.getElem?_modify_eq, h.1]
    refine iff_of_false ?_ ?_
    · rintro ⟨⟩
      exact hne howner.symm
    · rintro ⟨⟩
      exact hne howner.symm
  · rw [List.getElem?_modify_ne _ _ hj]

theorem sameFor_process (s : State) (report : ℕ) (hne : i ≠ k) : SameFor s (s.process k report) i :=
  ⟨rfl, List.getElem?_modify_ne _ _ (Ne.symm hne), fun _ _ _ => Iff.rfl⟩

/-! ## What it does -/

theorem onlyReport_addReport (hnone : ∀ r ∈ s.reports, r.triggerId ≠ i) (status : ReportStatus) :
    (s.addReport i status).OnlyReport i s.reports.length status := by
  refine ⟨?_, fun j r hr howner => ?_⟩
  · change (s.reports ++ [{ triggerId := i, status := status }])[s.reports.length]? = _
    rw [List.getElem?_append_right le_rfl, Nat.sub_self]
    rfl
  · change (s.reports ++ [{ triggerId := i, status := status }])[j]? = some r at hr
    rw [List.getElem?_append] at hr
    split at hr
    · exact absurd howner (hnone r (List.mem_of_getElem? hr))
    · rename_i hge
      rw [List.getElem?_singleton] at hr
      split at hr
      · omega
      · cases hr

theorem onlyReport_setStatus {report : ℕ} {old : ReportStatus} (h : s.OnlyReport i report old)
    (status : ReportStatus) : (s.setStatus report status).OnlyReport i report status := by
  refine ⟨?_, fun j r hr howner => ?_⟩
  · change (s.reports.modify report _)[report]? = _
    rw [List.getElem?_modify_eq, h.1]
    rfl
  · change (s.reports.modify report _)[j]? = some r at hr
    by_cases hj : report = j
    · exact hj.symm
    · rw [List.getElem?_modify_ne _ _ hj] at hr
      exact h.2 j r hr howner

/-- A trigger that is processed with its only report, in a terminal status, is settled. -/
theorem settled_process {report : ℕ} {status : ReportStatus} (h : s.Unprocessed i)
    (honly : s.OnlyReport i report status) (hterminal : status.isTerminal = true) :
    (s.process i report).Settled i := by
  obtain ⟨trigger, htrigger, -⟩ := h
  refine ⟨{ trigger with isProcessed := true, reportId := some report }, ?_, rfl, report, rfl, status,
    hterminal, honly⟩
  change (s.triggers.modify i _)[i]? = _
  rw [List.getElem?_modify_eq, htrigger]
  rfl

theorem State.Unprocessed.lt (h : s.Unprocessed i) : i < s.triggers.length := by
  obtain ⟨trigger, htrigger, -⟩ := h
  exact (List.getElem?_eq_some_iff.mp htrigger).1

theorem State.Unprocessed.not_settled (h : s.Unprocessed i) : ¬ s.Settled i := by
  rintro ⟨trigger, htrigger, hprocessed, -⟩
  obtain ⟨trigger', htrigger', hunprocessed⟩ := h
  cases Option.mem_unique htrigger htrigger'
  rw [hprocessed] at hunprocessed
  cases hunprocessed

/-- A trigger somebody works on is not processed. -/
theorem State.At.unprocessed {stage : Stage} (h : s.At i stage) (hwork : stage ≠ .idle) : s.Unprocessed i := by
  cases stage with
  | idle => exact absurd rfl hwork
  | generated report status => cases status <;> exact h.1
  | created => exact h.1
  | queued => exact h.1
  | selected => exact h.1
  | generating report => exact h.1
  | recovering report => exact h.1

/-- **The invariant says that every trigger nobody works on is settled.** -/
theorem State.Sound.allSettled (h : s.Sound) : s.AllSettled := by
  have hsettled : ∀ i < s.triggers.length, s.stages i = .idle → s.Settled i := by
    intro i hi hidle
    have hat := h.locally i
    rw [hidle] at hat
    exact hat hi
  refine ⟨hsettled, fun r hr hgenerating hidle => ?_⟩
  obtain ⟨trigger, -, -, report, -, status, hterminal, hreport, honly⟩ :=
    hsettled r.triggerId (h.owned r hr) hidle
  -- the only report of the trigger is in a terminal status
  obtain ⟨j, hj⟩ := List.mem_iff_getElem?.mp hr
  rw [honly j r hj rfl, hreport, Option.some_inj] at hj
  rw [← hj] at hgenerating
  dsimp only at hgenerating
  rw [hgenerating] at hterminal
  cases hterminal

/-! ## Steps -/

/-- **A step that goes on with one trigger**: it is enough to look at that one. -/
theorem State.Sound.of_at {stage : Stage} (h : s.Sound) (hothers : ∀ j, j ≠ i → SameFor s t j)
    (hat : t.At i stage) (howned : ∀ r ∈ t.reports, r.triggerId < t.triggers.length) :
    (t.goOn i stage).Sound := by
  refine ⟨fun j => ?_, howned⟩
  change t.At j (Function.update t.stages i stage j)
  by_cases hji : j = i
  · subst hji
    rwa [Function.update_self]
  · rw [Function.update_of_ne hji, (hothers j hji).stage]
    exact (hothers j hji).at (h.locally j)

/-- The work on a trigger goes on, and nothing is committed. -/
theorem State.Sound.goOn (h : s.Sound) (stage : Stage) (hat : s.At i stage) : (s.goOn i stage).Sound :=
  h.of_at (fun _ _ => ⟨rfl, rfl, fun _ _ _ => Iff.rfl⟩) hat h.owned

theorem owned_addReport {status : ReportStatus} (h : s.Sound) (hi : i < s.triggers.length) :
    ∀ r ∈ (s.addReport i status).reports, r.triggerId < s.triggers.length := by
  intro r hr
  rcases List.mem_append.mp hr with hr | hr
  · exact h.owned r hr
  · rw [List.mem_singleton.mp hr]
    exact hi

theorem owned_setStatus {report : ℕ} {status : ReportStatus} (h : s.Sound) :
    ∀ r ∈ (s.setStatus report status).reports, r.triggerId < s.triggers.length := by
  intro r hr
  obtain ⟨j, hj⟩ := List.mem_iff_getElem?.mp hr
  change (s.reports.modify report _)[j]? = some r at hj
  rw [List.getElem?_modify, Option.map_eq_map, Option.map_eq_some_iff] at hj
  obtain ⟨r', hr', rfl⟩ := hj
  have howner := h.owned r' (List.mem_of_getElem? hr')
  split <;> exact howner

/-- The first report of a trigger is committed. -/
theorem State.Sound.addReport (h : s.Sound) (hat : s.At i .selected) (status : ReportStatus)
    (stage : Stage) (hstage : (s.addReport i status).At i stage) : ((s.addReport i status).goOn i stage).Sound :=
  h.of_at (fun _ hj => sameFor_addReport s status hj) hstage (owned_addReport h hat.1.lt)

/-- A status is committed. -/
theorem State.Sound.setStatus {report : ℕ} {old status : ReportStatus} (h : s.Sound)
    (honly : s.OnlyReport i report old) (stage : Stage) (hstage : (s.setStatus report status).At i stage) :
    ((s.setStatus report status).goOn i stage).Sound :=
  h.of_at (fun _ hj => sameFor_setStatus honly hj) hstage (owned_setStatus h)

/-- A trigger is processed with its only report in a terminal status. -/
theorem State.Sound.process {report : ℕ} {status : ReportStatus} (h : s.Sound) (hu : s.Unprocessed i)
    (honly : s.OnlyReport i report status) (hterminal : status.isTerminal = true) :
    ((s.process i report).goOn i .idle).Sound := by
  refine h.of_at (fun _ hj => sameFor_process s report hj) ?_ ?_
  · intro _
    exact settled_process hu honly hterminal
  · intro r hr
    have hlength : (s.process i report).triggers.length = s.triggers.length := List.length_modify ..
    rw [hlength]
    exact h.owned r hr

/-- A new trigger. -/
theorem State.Sound.trigger (h : s.Sound) (datasourceId : ℕ) :
    State.Sound { s.goOn s.triggers.length .created with
      triggers := s.triggers ++ [{ datasourceId := datasourceId }] } := by
  have hothers : ∀ j, j ≠ s.triggers.length →
      SameFor s { s with triggers := s.triggers ++ [{ datasourceId := datasourceId }] } j := by
    intro j hj
    refine ⟨rfl, ?_, fun _ _ _ => Iff.rfl⟩
    change (s.triggers ++ [_])[j]? = s.triggers[j]?
    rw [List.getElem?_append]
    split
    · rfl
    · rename_i hge
      rw [List.getElem?_singleton, if_neg (by omega), List.getElem?_eq_none (not_lt.mp hge)]
  refine h.of_at hothers ⟨⟨{ datasourceId := datasourceId }, ?_, rfl⟩, fun r hr => ?_⟩ fun r hr => ?_
  · change (s.triggers ++ [_])[s.triggers.length]? = _
    rw [List.getElem?_append_right le_rfl, Nat.sub_self]
    rfl
  · exact Nat.ne_of_lt (h.owned r hr)
  · have hlength : (s.triggers ++ [InspectionTrigger.mk datasourceId false none]).length =
        s.triggers.length + 1 := List.length_append ..
    change r.triggerId < (s.triggers ++ [InspectionTrigger.mk datasourceId false none]).length
    rw [hlength]
    exact Nat.lt_succ_of_lt (h.owned r hr)

/-- A stage that a trigger is at. -/
theorem State.Sound.at_of {stage : Stage} (h : s.Sound) (hi : s.stages i = stage) : s.At i stage := by
  rw [← hi]
  exact h.locally i

/-- **An undisturbed step keeps the invariant.** -/
theorem State.Sound.step {label : Label} (h : s.Sound) (hundisturbed : Undisturbed s label)
    (hstep : step s label = some t) : t.Sound := by
  cases label with
  | trigger datasourceId =>
    rw [← Option.some.inj hstep]
    exact h.trigger datasourceId
  | createTask i =>
    rw [InspectionTriggers.step] at hstep
    split at hstep
    · rename_i hi
      have hat := h.at_of hi
      rw [← Option.some.inj hstep]
      exact h.goOn .queued hat
    · cases hstep
  | select i =>
    rw [InspectionTriggers.step] at hstep
    split at hstep
    · rename_i hi
      have hat := h.at_of hi
      obtain ⟨trigger, htrigger, hunprocessed⟩ := hat.1
      have hprocessed : s.triggers[i]?.any (·.isProcessed) = false := by
        rw [Option.mem_def.mp htrigger]
        exact hunprocessed
      rw [Undisturbed] at hundisturbed
      rw [hundisturbed, hprocessed, if_neg (by decide)] at hstep
      rw [← Option.some.inj hstep]
      exact h.goOn .selected hat
    · cases hstep
  | begin i =>
    rw [InspectionTriggers.step] at hstep
    split at hstep
    · rename_i hi
      have hat := h.at_of hi
      split at hstep
      · rw [← Option.some.inj hstep]
        exact h.addReport hat .failed _ ⟨hat.1, .failed, onlyReport_addReport hat.2 _, rfl⟩
      · rw [← Option.some.inj hstep]
        exact h.addReport hat .generating _ ⟨hat.1, onlyReport_addReport hat.2 _⟩
    · cases hstep
  | generate i status =>
    rw [InspectionTriggers.step] at hstep
    split at hstep
    · rename_i report hi
      have hat := h.at_of hi
      rw [← Option.some.inj hstep]
      refine h.goOn _ ⟨hat.1, hat.2, ?_⟩
      cases status <;> rfl
    · cases hstep
  | raise i =>
    rw [InspectionTriggers.step] at hstep
    split at hstep
    · rename_i report hi
      have hat := h.at_of hi
      rw [← Option.some.inj hstep]
      exact h.goOn _ hat
    · cases hstep
  | recover i =>
    rw [InspectionTriggers.step] at hstep
    split at hstep
    · rename_i report hi
      have hat := h.at_of hi
      rw [← Option.some.inj hstep]
      exact h.setStatus hat.2 _ ⟨hat.1, .failed, onlyReport_setStatus hat.2 _, rfl⟩
    · cases hstep
  | settle i =>
    rw [InspectionTriggers.step] at hstep
    split at hstep
    · rename_i report hi
      obtain ⟨hu, status, honly, hterminal⟩ := h.at_of hi
      rw [← Option.some.inj hstep]
      exact h.process hu honly hterminal
    · rename_i report status hi
      obtain ⟨hu, honly, hterminal⟩ := h.at_of hi
      rw [← Option.some.inj hstep]
      -- the status and the trigger are committed at once; one after the other, it comes to the same
      have hset : ((s.setStatus report status).goOn i (.generated report none)).Sound :=
        h.setStatus honly _ ⟨hu, status, onlyReport_setStatus honly status, hterminal⟩
      have hsame : (((s.setStatus report status).goOn i (.generated report none)).process i report).goOn i .idle =
          ((s.setStatus report status).process i report).goOn i .idle := by
        simp only [State.goOn, State.process, Function.update_idem]
      rw [← hsame]
      exact hset.process hu (onlyReport_setStatus honly status) hterminal
    · cases hstep
  | fail i => exact absurd hundisturbed id
  | deleteDatasource datasourceId =>
    rw [← Option.some.inj hstep]
    exact ⟨h.locally, h.owned⟩
  | restart =>
    rw [← Option.some.inj hstep]
    refine ⟨fun i => ?_, h.owned⟩
    exact h.at_of (hundisturbed i)

/-- A trigger that nobody works on any more, and that was not processed, is not settled. -/
theorem State.Sound.not_allSettled (h : s.Sound) (hwork : s.stages i ≠ .idle) (htriggers : t.triggers = s.triggers)
    (hidle : t.stages i = .idle) : ¬ t.AllSettled := by
  intro hsettled
  have hu := (h.locally i).unprocessed hwork
  have hu' : t.Unprocessed i := by
    rw [State.Unprocessed, htriggers]
    exact hu
  exact hu'.not_settled (hsettled.triggers i hu'.lt hidle)

/-- **A step leaves every trigger settled that nobody works on if and only if it is undisturbed.** -/
theorem State.Sound.allSettled_iff {label : Label} (h : s.Sound) (hstep : InspectionTriggers.step s label = some t) :
    t.AllSettled ↔ Undisturbed s label := by
  refine ⟨fun hsettled => ?_, fun hundisturbed => (h.step hundisturbed hstep).allSettled⟩
  cases label with
  | fail i =>
    rw [InspectionTriggers.step] at hstep
    split at hstep
    · cases hstep
    · rename_i hwork
      rw [← Option.some.inj hstep] at hsettled
      exact h.not_allSettled (t := s.goOn i .idle) hwork rfl (Function.update_self ..) hsettled
  | restart =>
    intro i
    by_contra hwork
    rw [← Option.some.inj hstep] at hsettled
    exact h.not_allSettled (t := { s with stages := fun _ => .idle }) hwork rfl rfl hsettled
  | select i =>
    rw [Undisturbed]
    by_contra hlost
    rw [InspectionTriggers.step] at hstep
    split at hstep
    · rename_i hi
      rw [Bool.not_eq_false] at hlost
      rw [hlost, Bool.true_or, if_pos rfl] at hstep
      rw [← Option.some.inj hstep] at hsettled
      have hwork : s.stages i ≠ .idle := by
        rw [hi]
        exact Stage.noConfusion
      exact h.not_allSettled (t := s.goOn i .idle) hwork rfl (Function.update_self ..) hsettled
    · cases hstep
  | trigger datasourceId => trivial
  | createTask i => trivial
  | begin i => trivial
  | generate i status => trivial
  | raise i => trivial
  | recover i => trivial
  | settle i => trivial
  | deleteDatasource datasourceId => trivial

/-- **The runs in which every trigger nobody works on is settled are the undisturbed ones**: no failure ends
the work on a trigger, no restart interrupts it, and no datasource is deleted before it has begun. -/
theorem triggersSettled_iff (t : State) (labels : List Label) :
    Run step (fun s label => ∃ u ∈ step s label, u.AllSettled) {} labels t ↔
      Run step Undisturbed {} labels t := by
  refine Run.leadsTo_iff (I := State.Sound) ?_ ?_ ?_
  · intro s label u hs hstep
    exact hs.allSettled_iff hstep
  · intro s label u hs hstep hsettled
    exact hs.step ((hs.allSettled_iff hstep).mp hsettled) hstep
  · refine ⟨fun i hi => absurd hi (Nat.not_lt_zero i), fun r hr => ?_⟩
    cases hr

/-! ## A restart -/

/-- **A report stays in status `generating`**: the process is restarted while the AI writes it. -/
theorem restart_not_settled :
    ¬ ∀ (labels : List Label) (t : State), Run step Always {} labels t → t.AllSettled := by
  intro hclaim
  have hsettled := hclaim [.trigger 1, .createTask 0, .select 0, .begin 0, .restart] _
    (.cons trivial rfl (.cons trivial rfl (.cons trivial rfl (.cons trivial rfl (.cons trivial rfl (.nil _))))))
  exact hsettled.reports { triggerId := 0, status := .generating } List.mem_cons_self rfl rfl

end DBClaw.InspectionTriggers
