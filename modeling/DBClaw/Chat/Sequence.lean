import DBClaw.Chat.Session

/-! # The order of diagnosis events
The diagnosis events of a run are read back by their numbers. A stream counts its events from one, so the
numbers of a run are in order as long as all its events come from one stream; a run that is continued after
an approval, and a turn that starts within the second of another one, starts the count anew. -/

namespace DBClaw.Chat

open Runs

/-- **The events of a run**, in the order of emission, are of one turn and have increasing numbers. -/
def Ordered (s : State) : Prop :=
  ∀ runId, (s.rows.filter (·.runId = runId)).Pairwise fun a b => a.turn = b.turn ∧ a.sequenceNo < b.sequenceNo

/-- The stream that stores an event in this step, and its task. -/
def storing (s : State) : Label → Option (ℕ × Stream)
  | .receive i event =>
    match s.tasks i with
    | some ⟨_, .streaming stream⟩ => if event.isTracked then some (i, stream) else none
    | _ => none
  | .finish i conclusion =>
    match s.tasks i with
    | some ⟨_, .streaming stream⟩ =>
      if stream.completes && stream.fullResponse ≠ [] && conclusion then some (i, stream) else none
    | _ => none
  | _ => none

/-- **The condition on a step**: an event that is stored is not the first of its stream under a run id that
has events already. -/
def InOnePart (s : State) (label : Label) : Prop :=
  ∀ x ∈ storing s label, ∀ row ∈ s.rows, row.runId = x.2.runId → row.part = x.2.part

/-! ## What a step stores -/

variable {python : Python} {s t : State}

/-- A step stores the next event of a stream, or none. -/
theorem rows_of_steps {label : Label} (h : Steps python s label t) :
    t.rows = s.rows ++ ((storing s label).map fun x => x.2.row).toList := by
  cases h with
  | start hfree _ => simp [storing, State.openTask]
  | @receive i event web stream htask _ _ =>
    have hrows : (receive python s i web stream event).rows =
        s.rows ++ if event.isTracked then [stream.row] else [] := by
      cases event <;> rfl
    rw [hrows]
    simp only [storing, htask]
    split <;> rfl
  | emit htask _ => simp [storing, State.emit, State.setTask]
  | timeOut htask => 
    simp only [storing, timeOut, State.persistCurrent]
    split <;> simp [State.emit, State.setTask]
  | cancel htask =>
    simp only [storing, cancel]
    split <;> simp [State.closeTask, State.persistCurrent]
  | abandon htask => simp [storing, State.closeTask]
  | finish htask _ =>
    simp only [storing, htask, finish, State.closeTask, State.storeDiagnosisEvent]
    split <;> split <;> simp_all [State.persistCurrent]
  | resolve _ _ => simp [storing, State.openTask]
  | @advance i outcome web pending approved stage htask =>
    cases stage with
    | opened =>
      simp only [storing, advance]
      split <;> simp [State.resolveWith, State.emit, State.setTask, State.closeTask, State.reject]
    | confirmed => simp [storing, advance, State.resolveWith, State.emit, State.setTask]
    | called => simp [storing, advance, State.resolveWith, State.emit, State.setTask]
    | returned => simp [storing, advance, State.setTask]

/-- The stream stays the one it was, and counts the event that it stores in this step. -/
structure Follows (s : State) (label : Label) (j : ℕ) (stream stream' : Stream) : Prop where
  runId : stream'.runId = stream.runId
  turn : stream'.turn = stream.turn
  part : stream'.part = stream.part
  sequenceNo : storing s label = some (j, stream) ∧ stream'.sequenceNo = stream.sequenceNo + 1 ∨
    (∀ x ∈ storing s label, x.1 ≠ j) ∧ stream'.sequenceNo = stream.sequenceNo

/-- A task that the step is not about. -/
theorem Follows.other {label : Label} {j : ℕ} {stream : Stream} (h : ∀ x ∈ storing s label, x.1 ≠ j) :
    Follows s label j stream stream :=
  ⟨rfl, rfl, rfl, .inr ⟨h, rfl⟩⟩

/-- The stream that stores an event is the one of the task. -/
theorem task_of_storing {label : Label} {x : ℕ × Stream} (h : x ∈ storing s label) : x.1 = label.task := by
  cases label <;> simp only [storing, Option.mem_def, reduceCtorEq] at h
  all_goals
    split at h
    · split at h
      · cases h
        rfl
      · cases h
    · cases h

/-- The streams after a step: those that were there, and a new one that has counted nothing. -/
theorem streams_of_steps {label : Label} (h : Steps python s label t) {j : ℕ} {web : Bool} {stream' : Stream}
    (hj : t.tasks j = some ⟨web, .streaming stream'⟩) :
    (∃ stream, s.tasks j = some ⟨web, .streaming stream⟩ ∧ Follows s label j stream stream') ∨
    (j = label.task ∧ stream'.part = s.parts ∧ stream'.sequenceNo = 0 ∧ t.parts = s.parts + 1 ∧
      storing s label = none) := by
  by_cases hne : j = label.task
  swap
  · -- the step is not about this task, and stores nothing of its stream
    rw [tasks_of_steps h hne] at hj
    exact .inl ⟨stream', hj, .other fun x hx heq => hne (heq ▸ task_of_storing hx)⟩
  subst hne
  cases h with
  | start _ _ =>
    cases hj.symm.trans (Function.update_self ..)
    exact .inr ⟨rfl, rfl, rfl, rfl, rfl⟩
  | @receive i event web' stream htask _ _ =>
    rw [receive_tasks] at hj
    cases hj.symm.trans (Function.update_self ..)
    refine .inl ⟨stream, htask, by simp, by simp, by simp, ?_⟩
    by_cases htracked : event.isTracked = true <;> simp [storing, htask, htracked, Label.task]
  | @emit i web' stream event htask _ =>
    cases hj.symm.trans (Function.update_self ..)
    exact .inl ⟨stream, htask, rfl, rfl, rfl, .inr ⟨by simp [storing], rfl⟩⟩
  | @timeOut i note web' stream htask =>
    rw [timeOut_tasks] at hj
    cases hj.symm.trans (Function.update_self ..)
    exact .inl ⟨stream, htask, by simp, by simp, by simp, .inr ⟨by simp [storing], by simp⟩⟩
  | cancel _ =>
    rw [cancel_tasks] at hj
    cases hj.symm.trans (Function.update_self ..)
  | abandon _ => cases hj.symm.trans (Function.update_self ..)
  | finish _ _ =>
    rw [finish_tasks] at hj
    cases hj.symm.trans (Function.update_self ..)
  | resolve _ _ => cases hj.symm.trans (Function.update_self ..)
  | @advance i outcome web' pending approved stage htask =>
    rw [advance_tasks] at hj
    have heq := hj.symm.trans (Function.update_self ..)
    cases stage with
    | opened => cases approved <;> cases heq
    | confirmed => cases heq
    | called => cases heq
    | returned =>
      cases heq
      exact .inr ⟨rfl, rfl, rfl, rfl, rfl⟩

/-- Parts are numbered one after another. -/
theorem parts_of_steps {label : Label} (h : Steps python s label t) : s.parts ≤ t.parts := by
  cases h with
  | start _ _ => exact Nat.le_succ _
  | @receive i event => cases event <;> exact le_rfl
  | emit _ _ => exact le_rfl
  | timeOut htask => 
    simp only [timeOut, State.persistCurrent]
    split <;> exact le_rfl
  | cancel htask =>
    simp only [cancel, State.closeTask]
    split <;> exact le_rfl
  | abandon _ => exact le_rfl
  | finish _ _ =>
    simp only [finish, State.closeTask, State.storeDiagnosisEvent]
    split <;> exact le_rfl
  | resolve _ _ => exact le_rfl
  | @advance i outcome web pending approved stage htask =>
    cases stage <;> cases approved <;> first | exact le_rfl | exact Nat.le_succ _

/-- The stream that stores an event is a task. -/
theorem tasks_of_storing {label : Label} {i : ℕ} {stream : Stream} (h : storing s label = some (i, stream)) :
    ∃ web, s.tasks i = some ⟨web, .streaming stream⟩ := by
  cases label <;> simp only [storing, reduceCtorEq] at h
  all_goals
    split at h
    · rename_i web stream' htask
      split at h
      · cases h
        exact ⟨_, htask⟩
      · cases h
    · cases h

/-! ## The invariant -/

/-- The stream has stored as many events as its number says. -/
structure Counts (s : State) (stream : Stream) : Prop where
  part : stream.part < s.parts
  length : (s.rows.filter (·.part = stream.part)).length = stream.sequenceNo
  rows : ∀ a ∈ s.rows, a.part = stream.part →
    a.runId = stream.runId ∧ a.turn = stream.turn ∧ a.sequenceNo ≤ stream.sequenceNo

/-- **The streams count what they store**, and the events of a run are of one stream. -/
structure Counted (s : State) : Prop where
  ordered : Ordered s
  onePart : ∀ a ∈ s.rows, ∀ b ∈ s.rows, a.runId = b.runId → a.part = b.part
  rows : ∀ a ∈ s.rows, 0 < a.sequenceNo ∧ a.part < s.parts
  streams : ∀ j web stream, s.tasks j = some ⟨web, .streaming stream⟩ → Counts s stream
  apart : ∀ j k web web' stream stream', s.tasks j = some ⟨web, .streaming stream⟩ →
    s.tasks k = some ⟨web', .streaming stream'⟩ → stream.part = stream'.part → j = k

theorem counted_start : Counted {} where
  ordered _ := .nil
  onePart _ ha := absurd ha List.not_mem_nil
  rows _ ha := absurd ha List.not_mem_nil
  streams _ _ _ h := by simp at h
  apart _ _ _ _ _ _ h := by simp at h

/-- One more event of a run. -/
theorem ordered_append (rows : List DiagnosisEvent) (row : DiagnosisEvent) (hs : s.rows = rows)
    (ht : t.rows = rows ++ [row]) :
    Ordered t ↔ Ordered s ∧
      ∀ a ∈ rows, a.runId = row.runId → a.turn = row.turn ∧ a.sequenceNo < row.sequenceNo := by
  simp only [Ordered, hs, ht, List.filter_append, List.pairwise_append]
  constructor
  · intro h
    refine ⟨fun runId => (h runId).1, fun a ha hrun => ?_⟩
    exact (h row.runId).2.2 a (by simp [ha, hrun]) row (by simp)
  · rintro ⟨hs', hrow⟩ runId
    refine ⟨hs' runId, ?_, fun a ha b hb => ?_⟩
    · by_cases hrun : row.runId = runId <;> simp [hrun]
    · simp only [List.mem_filter, List.mem_singleton, decide_eq_true_eq] at ha hb
      obtain ⟨rfl, hb⟩ := hb
      exact hrow a ha.1 (ha.2.trans hb.symm)

/-- **A step keeps the events in order** iff it meets the condition. -/
theorem Counted.ordered_step_iff (h : Counted s) {label : Label} (hstep : Steps python s label t) :
    Ordered t ↔ InOnePart s label := by
  have hrows := rows_of_steps hstep
  cases hstoring : storing s label with
  | none =>
    rw [hstoring, Option.map_none, Option.toList_none, List.append_nil] at hrows
    refine iff_of_true ?_ (by simp [InOnePart, hstoring])
    intro runId
    rw [hrows]
    exact h.ordered runId
  | some x =>
    obtain ⟨i, stream⟩ := x
    obtain ⟨web, htask⟩ := tasks_of_storing hstoring
    rw [hstoring] at hrows
    rw [ordered_append s.rows stream.row rfl hrows]
    have hcond : InOnePart s label ↔ ∀ row ∈ s.rows, row.runId = stream.runId → row.part = stream.part := by
      simp [InOnePart, hstoring]
    rw [hcond]
    constructor
    · rintro ⟨-, hlt⟩ row hrow hrun
      -- otherwise the stream has stored nothing, and its first number is one
      by_contra hpart
      have hnone : s.rows.filter (·.part = stream.part) = [] := by
        refine List.filter_eq_nil_iff.mpr fun a ha => ?_
        intro hapart
        have hapart : a.part = stream.part := by simpa using hapart
        have harun := ((h.streams i web stream htask).rows a ha hapart).1
        exact hpart ((h.onePart row hrow a ha (hrun.trans harun.symm)).trans hapart)
      have hzero := (h.streams i web stream htask).length
      rw [hnone, List.length_nil] at hzero
      have hle := (hlt row hrow hrun).2
      have hpos := (h.rows row hrow).1
      simp only [Stream.row] at hle
      omega
    · intro hparts
      refine ⟨h.ordered, fun a ha hrun => ?_⟩
      obtain ⟨-, hturn, hle⟩ := (h.streams i web stream htask).rows a ha (hparts a ha hrun)
      exact ⟨hturn, Nat.lt_succ_of_le hle⟩

/-- A new stream has stored nothing. -/
theorem Counted.counts_new (h : Counted s) {stream : Stream} (hrows : t.rows = s.rows)
    (hpart : stream.part = s.parts) (hzero : stream.sequenceNo = 0) (hnext : t.parts = s.parts + 1) :
    Counts t stream := by
  have hnone : ∀ a ∈ s.rows, a.part ≠ stream.part := fun a ha heq => by
    have := (h.rows a ha).2
    omega
  refine ⟨by omega, ?_, ?_⟩
  · rw [hrows, hzero, List.length_eq_zero_iff, List.filter_eq_nil_iff]
    simpa using hnone
  · rw [hrows]
    exact fun a ha heq => absurd heq (hnone a ha)

/-- A stream that was there goes on counting. -/
theorem Counted.counts_follows (h : Counted s) {label : Label} (hstep : Steps python s label t) {j : ℕ}
    {web : Bool} {stream stream' : Stream} (htask : s.tasks j = some ⟨web, .streaming stream⟩)
    (hfollows : Follows s label j stream stream') : Counts t stream' := by
  have hcounts := h.streams j web stream htask
  have hrows := rows_of_steps hstep
  have hpart : stream'.part < t.parts := by
    rw [hfollows.part]
    exact hcounts.part.trans_le (parts_of_steps hstep)
  obtain ⟨hstoring, hnumber⟩ | ⟨hothers, hnumber⟩ := hfollows.sequenceNo
  · -- the event is its own
    rw [hstoring] at hrows
    refine ⟨hpart, ?_, ?_⟩
    · rw [hrows, hfollows.part, hnumber, ← hcounts.length]
      simp [Stream.row]
    · intro a ha hapart
      rw [hrows, Option.map_some, Option.toList_some, List.mem_append, List.mem_singleton] at ha
      rw [hfollows.runId, hfollows.turn, hnumber]
      obtain ha | rfl := ha
      · obtain ⟨hrun, hturn, hle⟩ := hcounts.rows a ha (hapart.trans hfollows.part)
        exact ⟨hrun, hturn, hle.trans (Nat.le_succ _)⟩
      · exact ⟨rfl, rfl, le_rfl⟩
  · -- it is of another stream, or there is none
    have hothers' : ∀ row ∈ ((storing s label).map fun x => x.2.row).toList, row.part ≠ stream.part := by
      intro row hrow heq
      obtain ⟨x, hx, rfl⟩ := Option.map_eq_some_iff.mp (Option.mem_toList.mp hrow)
      obtain ⟨web', htask'⟩ := @tasks_of_storing s _ x.1 x.2 hx
      exact hothers x hx (h.apart x.1 j web' web x.2 stream htask' htask heq)
    refine ⟨hpart, ?_, ?_⟩
    · have hnone : ((storing s label).map fun x => x.2.row).toList.filter (·.part = stream.part) = [] :=
        List.filter_eq_nil_iff.mpr fun row hrow => by simpa using hothers' row hrow
      rw [hrows, hfollows.part, hnumber, ← hcounts.length, List.filter_append, hnone, List.append_nil]
    · intro a ha hapart
      rw [hrows, List.mem_append] at ha
      rw [hfollows.runId, hfollows.turn, hnumber]
      obtain ha | ha := ha
      · exact hcounts.rows a ha (hapart.trans hfollows.part)
      · exact absurd (hapart.trans hfollows.part) (hothers' a ha)

/-- And the invariant, where it does. -/
theorem Counted.step (h : Counted s) {label : Label} (hstep : Steps python s label t)
    (hordered : Ordered t) : Counted t := by
  have hcond := (h.ordered_step_iff hstep).mp hordered
  have hrows := rows_of_steps hstep
  have hparts := parts_of_steps hstep
  -- the new event, if there is one, is of the part that the run is of
  have hnew : ∀ row ∈ ((storing s label).map fun x => x.2.row).toList,
      (0 < row.sequenceNo ∧ row.part < s.parts) ∧ ∀ a ∈ s.rows, a.runId = row.runId → a.part = row.part := by
    intro row hrow
    obtain ⟨x, hx, rfl⟩ := Option.map_eq_some_iff.mp (Option.mem_toList.mp hrow)
    obtain ⟨web, htask⟩ := @tasks_of_storing s _ x.1 x.2 hx
    exact ⟨⟨Nat.succ_pos _, (h.streams x.1 web x.2 htask).part⟩, hcond x hx⟩
  have hsingle : ∀ a ∈ ((storing s label).map fun x => x.2.row).toList,
      ∀ b ∈ ((storing s label).map fun x => x.2.row).toList, a = b := by
    cases storing s label <;> simp
  refine ⟨hordered, ?_, ?_, ?_, ?_⟩
  · intro a ha b hb hrun
    rw [hrows, List.mem_append] at ha hb
    obtain ha | ha := ha <;> obtain hb | hb := hb
    · exact h.onePart a ha b hb hrun
    · exact (hnew b hb).2 a ha hrun
    · exact ((hnew a ha).2 b hb hrun.symm).symm
    · rw [hsingle a ha b hb]
  · intro a ha
    rw [hrows, List.mem_append] at ha
    obtain ha | ha := ha
    · exact ⟨(h.rows a ha).1, (h.rows a ha).2.trans_le hparts⟩
    · exact ⟨(hnew a ha).1.1, (hnew a ha).1.2.trans_le hparts⟩
  · intro j web stream' hj
    obtain ⟨stream, htask, hfollows⟩ | ⟨-, hpart, hzero, hnext, hnone⟩ := streams_of_steps hstep hj
    · exact h.counts_follows hstep htask hfollows
    · refine h.counts_new ?_ hpart hzero hnext
      rw [hrows, hnone, Option.map_none, Option.toList_none, List.append_nil]
  · intro j k web web' stream stream' hj hk hpart
    obtain ⟨old, hold, hfollows⟩ | ⟨hjtask, hnew, -, -, -⟩ := streams_of_steps hstep hj <;>
      obtain ⟨old', hold', hfollows'⟩ | ⟨hktask, hnew', -, -, -⟩ := streams_of_steps hstep hk
    · exact h.apart j k web web' old old' hold hold' (by rw [← hfollows.part, hpart, hfollows'.part])
    · have := (h.streams j web old hold).part
      rw [← hfollows.part, hpart, hnew'] at this
      exact absurd this (lt_irrefl _)
    · have := (h.streams k web' old' hold').part
      rw [← hfollows'.part, ← hpart, hnew] at this
      exact absurd this (lt_irrefl _)
    · rw [hjtask, hktask]

/-- **Diagnosis events are in order** along a run iff all its steps meet the condition. -/
theorem ordered_iff (python : Python) (labels : List Label) (t : State) :
    Run (Chat.step python) (fun s label => ∃ t ∈ Chat.step python s label, Ordered t) {} labels t ↔
      Run (Chat.step python) InOnePart {} labels t :=
  Run.leadsTo_iff (I := Counted) (fun _ _ _ h hs => h.ordered_step_iff (steps_of_step hs))
    (fun _ _ _ h hs => h.step (steps_of_step hs)) counted_start

/-- The session after its first event in the continued stream. -/
def continuedState : State := (exec (step .plain) Always {} (resumedTurn.take 13)).getD {}

/-- **After an approval the count starts anew.** -/
theorem resumedTurn_disorders :
    Run (step .plain) Always {} (resumedTurn.take 13) continuedState ∧ ¬ Ordered continuedState := by
  refine ⟨.of_isSome (by decide), fun hordered => ?_⟩
  have hrun := hordered 20250101120000
  revert hrun
  decide

end DBClaw.Chat
