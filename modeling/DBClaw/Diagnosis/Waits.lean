import DBClaw.Diagnosis.Machine
import DBClaw.Library.WaitFor

/-! # Waiting for a diagnosis
An event whose problem is being diagnosed for another event waits for that one. Nobody tells it how the other
diagnosis ends, and later diagnoses look at the status that an event was left with: `founded_iff` says which
steps leave events waiting for each other, or for a diagnosis that has ended without a result. -/

namespace DBClaw.Diagnosis

open Runs WaitFor Relation
open Alerts (Severity Time writtenColumn)

/-! ## Waiting -/

/-- The row waits for the diagnosis of this event. -/
def Event.WaitsFor (row : Event) (f : EventId) : Prop := row.status = some .pending ∧ row.sourceEventId = some f

namespace State

variable (s : State)

/-- **An event is pending and waits for another one.** -/
def Waits (e f : EventId) : Prop := ∃ row, s.events[e]? = some row ∧ row.WaitsFor f

/-- A task diagnoses the event. -/
def RunsAt (i : ℕ) (e : EventId) : Prop := ∃ loaded kind, s.tasks i = some ⟨e, loaded, .diagnosing kind .running⟩

/-- A diagnosis of the event is in progress. -/
def Live (e : EventId) : Prop := ∃ i, s.RunsAt i e

/-- The diagnosis of the event is done. -/
def Done (e : EventId) : Prop := ∃ row, s.events[e]? = some row ∧ row.status = some .completed

/-- **Waiting is well founded**: no events wait for each other, and the one that is waited for is diagnosed or
done. -/
structure Founded : Prop where
  acyclic : Acyclic s.Waits
  sources : ∀ e f, s.Waits e f → s.Live f ∨ s.Done f

/-- **The condition on a write** to an event that is diagnosed afterwards or not: what it then waits for does
not wait for it, through any number of others, and is diagnosed or done; and where others wait for it, it is
diagnosed or has been completed. -/
structure Supports (e : EventId) (row : Event) (live : Prop) : Prop where
  source : ∀ f, row.WaitsFor f → ¬ ReflTransGen s.Waits f e ∧ (s.Live f ∨ s.Done f)
  waiters : (∃ d, s.Waits d e) → live ∨ row.status = some .completed

end State

/-- What a task commits may make the event wait, or set it completed. -/
def Work.links : Work → Bool
  | .diagnosing _ (.reusing _ _) | .diagnosing _ (.waiting _) => true
  | _ => false

/-- The diagnosis ends with a result. -/
def Outcome.hasResult : Outcome → Bool
  | .completed _ _ => true
  | .empty | .timedOut | .failed => false

/-- **The condition on a step.** -/
def Sustained (s : State) : Label → Prop
  | .commit i now summary => ∀ task row f next, s.tasks i = some task → task.work.links = true →
      s.events[task.event]? = some row → task.commit now summary = some (f, next) →
        s.Supports task.event (f row) (s.Live task.event)
  | .finish i outcome => outcome.hasResult = false → ∀ e loaded kind row f,
      s.tasks i = some ⟨e, loaded, .diagnosing kind .running⟩ → s.events[e]? = some row →
        outcome.commit loaded kind = some f → s.Supports e (f row) (∃ j, j ≠ i ∧ s.RunsAt j e)
  | _ => True

variable {s t : State}

/-! ## A write -/

/-- The event's row after a write. -/
theorem waits_iff_of_row {e : EventId} {row' : Event} (hrow : t.events[e]? = some row') (f : EventId) :
    t.Waits e f ↔ row'.WaitsFor f := by
  constructor
  · rintro ⟨row, hrow', hwaits⟩
    obtain rfl : row' = row := Option.some.inj (hrow.symm.trans hrow')
    exact hwaits
  · exact fun hwaits => ⟨row', hrow, hwaits⟩

theorem done_iff_of_row {e : EventId} {row' : Event} (hrow : t.events[e]? = some row') :
    t.Done e ↔ row'.status = some .completed := by
  constructor
  · rintro ⟨row, hrow', hdone⟩
    obtain rfl : row' = row := Option.some.inj (hrow.symm.trans hrow')
    exact hdone
  · exact fun hdone => ⟨row', hrow, hdone⟩

/-- **A write keeps waiting well founded** iff it meets the condition. -/
theorem State.Founded.write_iff (h : s.Founded) {e : EventId} {row' : Event} (hrow : t.events[e]? = some row')
    (hothers : ∀ j, j ≠ e → t.events[j]? = s.events[j]?) (hlive : ∀ j, j ≠ e → (t.Live j ↔ s.Live j)) :
    t.Founded ↔ s.Supports e row' (t.Live e) := by
  have hsame : SameBut e s.Waits t.Waits := fun d hd f => by
    simp only [State.Waits, hothers d hd]
  have hdone (j : EventId) (hj : j ≠ e) : t.Done j ↔ s.Done j := by
    simp only [State.Done, hothers j hj]
  have hwaits := waits_iff_of_row hrow
  constructor
  · rintro ⟨hacyclic, hsources⟩
    refine ⟨fun f hf => ?_, ?_⟩
    · have hnot := (hsame.acyclic_iff h.acyclic).mp hacyclic f ((hwaits f).mpr hf)
      have hne : f ≠ e := by
        rintro rfl
        exact hnot .refl
      rw [← hlive f hne, ← hdone f hne]
      exact ⟨hnot, hsources e f ((hwaits f).mpr hf)⟩
    · rintro ⟨d, hd⟩
      have hne : d ≠ e := by
        rintro rfl
        exact h.acyclic d (.single hd)
      rw [← done_iff_of_row hrow]
      exact hsources d e ((hsame d hne e).mpr hd)
  · rintro ⟨hsource, hwaiters⟩
    refine ⟨(hsame.acyclic_iff h.acyclic).mpr fun f hf => (hsource f ((hwaits f).mp hf)).1, fun d f hdf => ?_⟩
    by_cases hd : d = e
    · subst hd
      obtain ⟨hnot, hsupported⟩ := hsource f ((hwaits f).mp hdf)
      have hne : f ≠ d := by
        rintro rfl
        exact hnot .refl
      rwa [hlive f hne, hdone f hne]
    · have hdf' := (hsame d hd f).mp hdf
      by_cases hf : f = e
      · subst hf
        rw [done_iff_of_row hrow]
        exact hwaiters ⟨d, hdf'⟩
      · rw [hlive f hf, hdone f hf]
        exact h.sources d f hdf'

/-- **A write that adds no waiting** meets it: the event waits for nothing new, and it is diagnosed or done if
it was. -/
theorem State.Founded.supports (h : s.Founded) {e : EventId} {row row' : Event} (hrow : s.events[e]? = some row)
    {live : Prop} (hkeeps : ∀ f, row'.WaitsFor f → row.WaitsFor f) (hlive : s.Live e → live)
    (hdone : row.status = some .completed → live ∨ row'.status = some .completed) : s.Supports e row' live := by
  constructor
  · intro f hf
    have hwaits : s.Waits e f := ⟨row, hrow, hkeeps f hf⟩
    exact ⟨fun hfe => h.acyclic e (.head' hwaits hfe), h.sources e f hwaits⟩
  · rintro ⟨d, hd⟩
    obtain hl | hd := h.sources d e hd
    · exact .inl (hlive hl)
    · exact hdone ((done_iff_of_row hrow).mp hd)

/-- Where neither waiting nor diagnosing is touched. -/
theorem State.Founded.congr (h : s.Founded) (hwaits : ∀ e f, t.Waits e f → s.Waits e f)
    (hlive : ∀ e, s.Live e → t.Live e) (hdone : ∀ e, s.Done e → t.Done e) : t.Founded where
  acyclic e hcycle := h.acyclic e (TransGen.mono hwaits e e hcycle)
  sources e f hef := (h.sources e f (hwaits e f hef)).imp (hlive f) (hdone f)

/-! ## The running diagnoses -/

variable {i : ℕ} {next : Option Task}

/-- The other tasks are the same. -/
theorem runsAt_iff (htasks : t.tasks = Function.update s.tasks i next) {j : ℕ} (hj : j ≠ i) (e : EventId) :
    t.RunsAt j e ↔ s.RunsAt j e := by
  simp only [State.RunsAt, htasks, Function.update_of_ne hj]

/-- What a task runs. -/
theorem runsAt_self_iff (htasks : t.tasks = Function.update s.tasks i next) (e : EventId) :
    t.RunsAt i e ↔ ∃ loaded kind, next = some ⟨e, loaded, .diagnosing kind .running⟩ := by
  simp only [State.RunsAt, htasks, Function.update_self]

/-- Where the task runs none of its event before or after, the same events are diagnosed. -/
theorem live_iff (htasks : t.tasks = Function.update s.tasks i next) {e : EventId} (hold : ¬ s.RunsAt i e)
    (hnew : ¬ t.RunsAt i e) : t.Live e ↔ s.Live e := by
  constructor
  · rintro ⟨j, hj⟩
    have hji : j ≠ i := by
      rintro rfl
      exact hnew hj
    exact ⟨j, (runsAt_iff htasks hji e).mp hj⟩
  · rintro ⟨j, hj⟩
    have hji : j ≠ i := by
      rintro rfl
      exact hold hj
    exact ⟨j, (runsAt_iff htasks hji e).mpr hj⟩

/-- A task runs the diagnosis of its own event only. -/
theorem not_runsAt {e : EventId} {task : Task} (htask : s.tasks i = some task)
    (hother : task.event ≠ e ∨ ∀ kind, task.work ≠ .diagnosing kind .running) : ¬ s.RunsAt i e := by
  rintro ⟨loaded, kind, hruns⟩
  obtain rfl : task = ⟨e, loaded, .diagnosing kind .running⟩ := Option.some.inj (htask.symm.trans hruns)
  obtain hne | hwork := hother
  · exact hne rfl
  · exact hwork kind rfl

theorem not_runsAt_none {e : EventId} (htask : s.tasks i = none) : ¬ s.RunsAt i e := by
  rintro ⟨loaded, kind, hruns⟩
  rw [htask] at hruns
  cases hruns

/-! ## Steps -/

/-- A task that is not running goes on without a commit. -/
theorem State.Founded.setTask (h : s.Founded) (hold : ∀ e, ¬ s.RunsAt i e)
    (hnew : ∀ e, ¬ (s.setTask i next).RunsAt i e) : (s.setTask i next).Founded :=
  h.congr (fun _ _ => id) (fun e => (live_iff rfl (hold e) (hnew e)).mpr) fun _ => id

/-- A diagnosis that looks for another one. -/
theorem State.Founded.searches (h : s.Founded) {e : EventId} {loaded : Event} {kind : Kind} {stage stage' : Stage}
    (htask : s.tasks i = some ⟨e, loaded, .diagnosing kind stage⟩) (hstage : stage ≠ .running)
    (hstage' : stage' ≠ .running) : (s.setTask i (some ⟨e, loaded, .diagnosing kind stage'⟩)).Founded := by
  refine h.setTask (fun d => not_runsAt htask (.inr ?_)) (fun d => not_runsAt (Function.update_self ..) (.inr ?_))
  · exact fun kind' heq => hstage (Work.diagnosing.inj heq).2
  · exact fun kind' heq => hstage' (Work.diagnosing.inj heq).2

/-- **A write of a task**, with the event that it is on. -/
theorem State.Founded.put_iff (h : s.Founded) {task : Task} {row : Event} {f : Event → Event}
    (htask : s.tasks i = some task) (hrow : s.events[task.event]? = some row)
    (hnext : ∀ task', next = some task' → task'.event = task.event) :
    (s.put i next task.event f).Founded ↔
      s.Supports task.event (f row) ((s.put i next task.event f).Live task.event) := by
  refine h.write_iff ?_ (fun j hj => ?_) fun j hj => ?_
  · rw [getElem?_put, if_pos rfl, hrow, Option.map_some]
  · rw [getElem?_put, if_neg (Ne.symm hj)]
  · refine live_iff rfl (not_runsAt htask (.inl (Ne.symm hj))) ?_
    rw [runsAt_self_iff rfl]
    rintro ⟨loaded, kind, heq⟩
    exact hj (hnext _ heq)

/-- A diagnosis that starts waits for nothing new. -/
theorem Event.waitsFor_of_start {now : Time} {loaded row : Event} {f : EventId}
    (h : (loaded.start now row).WaitsFor f) : row.WaitsFor f := by
  obtain ⟨hstatus, hsource⟩ := h
  have hstatus := writtenColumn_eq_iff.mp hstatus
  have hsource := writtenColumn_eq_iff.mp hsource
  split at hstatus
  · split at hsource
    · exact ⟨hstatus, hsource⟩
    · cases hsource
  · cases hstatus

theorem Event.waitsFor_of_addAlert {severity : Severity} {loaded row : Event} {f : EventId}
    (h : (loaded.addAlert severity row).WaitsFor f) : row.WaitsFor f := by
  unfold Event.addAlert at h
  split at h
  · exact h
  · exact h

theorem Event.addAlert_status (severity : Severity) (loaded row : Event) :
    (loaded.addAlert severity row).status = row.status := by
  unfold Event.addAlert
  split <;> rfl

/-- **What a task commits keeps waiting well founded** iff it meets the condition. -/
theorem State.Founded.commit_iff (h : s.Founded) {task : Task} {row : Event} {now : Time}
    {summary : Option Text} {f : Event → Event} (htask : s.tasks i = some task)
    (hrow : s.events[task.event]? = some row) (hcommit : task.commit now summary = some (f, next)) :
    (s.put i next task.event f).Founded ↔
      (task.work.links = true → s.Supports task.event (f row) (s.Live task.event)) := by
  have hput (hnext : ∀ task', next = some task' → task'.event = task.event) :
      (s.put i next task.event f).Founded ↔
        s.Supports task.event (f row) ((s.put i next task.event f).Live task.event) :=
    h.put_iff htask hrow hnext
  obtain ⟨e, loaded, work⟩ := task
  -- where the task ends, and did not run, the same events are diagnosed
  have hends (hnone : next = none) (hwork : ∀ kind, work ≠ .diagnosing kind .running) :
      (s.put i next e f).Live e ↔ s.Live e := by
    refine live_iff rfl (not_runsAt htask (.inr hwork)) (not_runsAt_none ?_)
    rw [hnone]
    exact Function.update_self ..
  cases work with
  | adding severity =>
    simp only [Task.commit, Option.some.injEq, Prod.mk.injEq] at hcommit
    obtain ⟨rfl, rfl⟩ := hcommit
    rw [hput (by simp), hends rfl (by simp)]
    refine iff_of_true (h.supports hrow (fun _ => Event.waitsFor_of_addAlert) id fun hdone => .inr ?_) (by simp [Work.links])
    rw [Event.addAlert_status, hdone]
  | recovering =>
    simp only [Task.commit, Option.some.injEq, Prod.mk.injEq] at hcommit
    obtain ⟨rfl, rfl⟩ := hcommit
    rw [hput (by simp), hends rfl (by simp)]
    exact iff_of_true (h.supports hrow (fun _ => id) id .inr) (by simp [Work.links])
  | diagnosing kind stage =>
    cases stage with
    | reusing source found =>
      simp only [Task.commit, Option.some.injEq, Prod.mk.injEq] at hcommit
      obtain ⟨rfl, rfl⟩ := hcommit
      rw [hput (by simp), hends rfl (by simp)]
      exact ⟨fun hsupports _ => hsupports, fun hsupports => hsupports rfl⟩
    | waiting source =>
      simp only [Task.commit, Option.some.injEq, Prod.mk.injEq] at hcommit
      obtain ⟨rfl, rfl⟩ := hcommit
      rw [hput (by simp), hends rfl (by simp)]
      exact ⟨fun hsupports _ => hsupports, fun hsupports => hsupports rfl⟩
    | starting =>
      simp only [Task.commit, Option.some.injEq, Prod.mk.injEq] at hcommit
      obtain ⟨rfl, rfl⟩ := hcommit
      have hlive : (s.put i (some ⟨e, loaded.start now loaded, .diagnosing kind .running⟩) e
          (loaded.start now)).Live e := ⟨i, (runsAt_self_iff rfl e).mpr ⟨_, kind, rfl⟩⟩
      rw [hput (by simp)]
      exact iff_of_true (h.supports hrow (fun _ => Event.waitsFor_of_start) (fun _ => hlive) fun _ => .inl hlive) (by simp [Work.links])
    | loaded | searched | running => simp [Task.commit] at hcommit

/-- After a diagnosis has ended, its event is diagnosed if another task does it. -/
theorem live_put_none_iff {e : EventId} {f : Event → Event} :
    (s.put i none e f).Live e ↔ ∃ j, j ≠ i ∧ s.RunsAt j e := by
  have hself : ¬ (s.put i none e f).RunsAt i e := not_runsAt_none (Function.update_self ..)
  constructor
  · rintro ⟨j, hj⟩
    have hji : j ≠ i := by
      rintro rfl
      exact hself hj
    exact ⟨j, hji, (runsAt_iff rfl hji e).mp hj⟩
  · rintro ⟨j, hji, hj⟩
    exact ⟨j, (runsAt_iff rfl hji e).mpr hj⟩

/-- A diagnosis that has set its event in progress sets it completed. -/
theorem status_of_completed {loaded row : Event} {kind : Kind} {outcome : Outcome} {f : Event → Event}
    (hstarted : loaded.status = some .inProgress) (hcommit : outcome.commit loaded kind = some f)
    (hresult : outcome.hasResult = true) : (f row).status = some .completed := by
  cases outcome with
  | completed now summary =>
    cases kind with
    | sync =>
      obtain rfl := by simpa [Outcome.commit] using hcommit
      show writtenColumn loaded.status (some .completed) row.status = some .completed
      rw [writtenColumn_eq_iff, hstarted, if_neg (by simp)]
    | auto =>
      obtain rfl := by simpa [Outcome.commit] using hcommit
      rfl
  | empty | timedOut | failed => simp [Outcome.hasResult] at hresult

/-- **The end of a diagnosis keeps waiting well founded** iff it meets the condition. -/
theorem State.Founded.finish_iff (h : s.Founded) {e : EventId} {loaded row : Event} {kind : Kind}
    {outcome : Outcome} {f : Event → Event} (htask : s.tasks i = some ⟨e, loaded, .diagnosing kind .running⟩)
    (hstarted : loaded.status = some .inProgress) (hrow : s.events[e]? = some row)
    (hcommit : outcome.commit loaded kind = some f) : (s.put i none e f).Founded ↔
      (outcome.hasResult = false → s.Supports e (f row) (∃ j, j ≠ i ∧ s.RunsAt j e)) := by
  have hput : (s.put i none e f).Founded ↔ s.Supports e (f row) (∃ j, j ≠ i ∧ s.RunsAt j e) := by
    rw [h.put_iff htask hrow (by simp), live_put_none_iff]
  rw [hput]
  cases hresult : outcome.hasResult with
  | false => exact ⟨fun hsupports _ => hsupports, fun hsupports => hsupports rfl⟩
  | true =>
    have hcompleted : (f row).status = some .completed := status_of_completed hstarted hcommit hresult
    refine iff_of_true ⟨fun g hwaits => ?_, fun _ => .inr hcompleted⟩ (by simp)
    rw [Event.WaitsFor, hcompleted] at hwaits
    cases hwaits.1

/-- An event that is created waits for nothing. -/
theorem State.Founded.create (h : s.Founded) {new : Event} (hnew : new.status = none) :
    State.Founded { s with events := s.events ++ [new] } := by
  refine h.congr (fun e f => ?_) (fun _ => id) fun e => ?_
  · rintro ⟨row, hrow, hwaits⟩
    by_cases hlt : e < s.events.length
    · rw [List.getElem?_append_left hlt] at hrow
      exact ⟨row, hrow, hwaits⟩
    · -- the new event
      rw [List.getElem?_append_right (not_lt.mp hlt)] at hrow
      obtain rfl : row = new := List.mem_singleton.mp (List.mem_of_getElem? hrow)
      rw [Event.WaitsFor, hnew] at hwaits
      cases hwaits.1
  · rintro ⟨row, hrow, hdone⟩
    exact ⟨row, by rw [List.getElem?_append_left (List.getElem?_eq_some_iff.mp hrow).1, hrow], hdone⟩

/-- **A step keeps waiting well founded** iff it meets the condition. -/
theorem State.Founded.step_iff (h : s.Founded) (hsane : s.Sane) {label : Label} (hstep : Steps s label t) :
    t.Founded ↔ Sustained s label := by
  cases hstep with
  | create => exact iff_of_true (h.create rfl) trivial
  | cached => exact iff_of_true h trivial
  | @load i e call row hfree hrow =>
    refine iff_of_true (h.setTask (fun d => not_runsAt_none hfree) fun d => ?_) trivial
    refine not_runsAt (Function.update_self ..) (.inr ?_)
    cases call <;> simp [Call.work]
  | findRecent htask => exact iff_of_true (h.searches htask (by simp) (Stage.afterRecent_ne_running s _)) trivial
  | findInProgress htask =>
    exact iff_of_true (h.searches htask (by simp) (Stage.afterInProgress_ne_running _)) trivial
  | refuse htask =>
    refine iff_of_true (h.setTask (fun d => not_runsAt htask (.inr (by simp))) fun d => ?_) trivial
    exact not_runsAt_none (Function.update_self ..)
  | @commit i now summary task f next htask hcommit =>
    obtain ⟨row, hrow⟩ : ∃ row, s.events[task.event]? = some row :=
      ⟨_, List.getElem?_eq_getElem (hsane.inTable i task htask)⟩
    rw [h.commit_iff htask hrow hcommit]
    constructor
    · intro hsupports task' row' f' next' htask' hlinks hrow' hcommit'
      obtain rfl : task = task' := Option.some.inj (htask.symm.trans htask')
      obtain rfl : row = row' := Option.some.inj (hrow.symm.trans hrow')
      obtain ⟨rfl, -⟩ : f = f' ∧ next = next' := by simpa [hcommit] using hcommit'
      exact hsupports hlinks
    · intro hsustained hlinks
      exact hsustained task row f next htask hlinks hrow hcommit
  | @finish i outcome e loaded kind f htask hcommit =>
    obtain ⟨row, hrow⟩ : ∃ row, s.events[e]? = some row :=
      ⟨_, List.getElem?_eq_getElem (hsane.inTable i _ htask)⟩
    rw [h.finish_iff htask (hsane.started i e loaded kind htask) hrow hcommit]
    constructor
    · intro hsupports hresult e' loaded' kind' row' f' htask' hrow' hcommit'
      obtain ⟨rfl, rfl, rfl⟩ : e = e' ∧ loaded = loaded' ∧ kind = kind' := by simpa [htask] using htask'
      obtain rfl : row = row' := Option.some.inj (hrow.symm.trans hrow')
      obtain rfl : f = f' := by simpa [hcommit] using hcommit'
      exact hsupports hresult
    · intro hsustained hresult
      exact hsustained hresult e loaded kind row f htask hrow hcommit

/-- Nobody waits at the start. -/
theorem founded_start : State.Founded {} where
  acyclic e hcycle := by
    obtain ⟨f, ⟨row, hrow, -⟩, -⟩ := TransGen.head'_iff.mp hcycle
    simp at hrow
  sources e f := by
    rintro ⟨row, hrow, -⟩
    simp at hrow

/-- **Waiting is well founded** along a run iff all its steps meet the condition. -/
theorem founded_iff (window : Time) (labels : List Label) (t : State) :
    Run (Diagnosis.step window) (fun s label => ∃ t ∈ Diagnosis.step window s label, t.Founded) {} labels t ↔
      Run (Diagnosis.step window) Sustained {} labels t :=
  Run.leadsTo_iff (I := fun s => s.Founded ∧ s.Sane)
    (fun _ _ _ h hs => h.1.step_iff h.2 (steps_of_step hs))
    (fun _ _ _ h hs hfounded => ⟨hfounded, h.2.step (steps_of_step hs)⟩) ⟨founded_start, sane_start⟩

/-- A synchronous diagnosis up to its commit, with what it finds to wait for. -/
def syncCall (i : ℕ) (e : EventId) (now : Time) (found : Option EventId) : List Label := [
  .load i e (.diagnose .sync),
  .findRecent i now none,
  .findInProgress i now found,
  .commit i now none]

/-- Two events of one problem. The first is diagnosed, the second waits for it; the diagnosis fails, the second
is diagnosed and runs out of time; then each finds the other one pending. -/
def mutualWait : List Label :=
  [.create 1 (some "threshold_violation".toList) (some "cpu_usage".toList) .medium,
    .create 1 (some "threshold_violation".toList) (some "cpu_usage".toList) .medium] ++
  syncCall 0 0 0 none ++ syncCall 1 1 (Time.minutes 1) (some 0) ++ [.finish 0 .failed] ++
  syncCall 2 1 (Time.minutes 2) none ++ [.finish 2 .timedOut] ++
  syncCall 3 0 (Time.minutes 3) (some 1) ++ syncCall 4 1 (Time.minutes 4) (some 0)

/-- The table after it. -/
def stuckState : State := (exec (step (Time.minutes 60)) Always {} mutualWait).getD {}

/-- **Two events wait for each other**, and no diagnosis runs. -/
theorem mutualWait_stuck :
    Run (step (Time.minutes 60)) Always {} mutualWait stuckState ∧ ¬ stuckState.Founded := by
  refine ⟨.of_isSome (by decide), fun hfounded => ?_⟩
  have hrow (e f : EventId) (h : (stuckState.events[e]?).map (fun row => (row.status, row.sourceEventId)) =
      some (some .pending, some f)) : stuckState.Waits e f := by
    obtain ⟨row, hrow, heq⟩ := Option.map_eq_some_iff.mp h
    exact ⟨row, hrow, Prod.mk.inj heq⟩
  have hfirst := hrow 0 1 (by decide)
  have hsecond := hrow 1 0 (by decide)
  exact hfounded.acyclic 0 (.tail (.single hfirst) hsecond)

end DBClaw.Diagnosis
