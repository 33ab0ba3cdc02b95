import DBClaw.Library.Runs

/-! # Runs of a scheduled task
The runs of a task take their slots from a semaphore, which `_task_semaphores` keeps with its limit. An update
or a deletion of the task drops it, whatever runs still hold slots of it, and a run that looks it up with
another limit than its own replaces it. `bounded_of_run` says when the runs keep to the limit all the same. -/

namespace DBClaw.ScheduledTasks

open Runs

/-! ## A task -/

/-- `max_concurrent_runs`: `Field(ge=1, le=10)`. -/
structure Limit where
  value : ℕ
  pos : 1 ≤ value
  le : value ≤ 10
  deriving DecidableEq

/-- How many runs were executing, and the limit in force then. -/
structure Count where
  runs : ℕ
  limit : ℕ
  deriving DecidableEq

/-- Where a run stands. It executes from the moment it is given a slot of its semaphore; one that waits for a slot,
or has not been woken up yet, keeps what it found when it tried to get one. -/
inductive Stage
  /-- The task has been loaded. -/
  | loaded (limit : Limit)
  | acquiring (semaphore : ℕ)
  | waiting (semaphore : ℕ) (found : Count)
  | granted (semaphore : ℕ) (found : Count)
  | acquired (semaphore : ℕ)
  /-- The script runs. -/
  | executing (semaphore : ℕ)
  | ended

/-- Where a call of `update_task` stands. -/
inductive Update
  | loaded (limit : Limit)
  | applied (before : Limit) (maxConcurrentRuns : Option Limit)
  | committed

/-- A task: its row, its entry of `_task_semaphores`, the free slots of its semaphores so far, its runs and its
updates; and for the record, what was found when a script was started and when a skipped run tried to start. -/
structure State where
  limit : Limit
  deleted : Bool := false
  entry : Option (ℕ × ℕ) := none
  values : List ℕ := []
  runs : List Stage := []
  updates : List Update := []
  starts : List Count := []
  skips : List Count := []

/-- The run has a slot. -/
def Stage.holds : Stage → Bool
  | .granted _ _ | .acquired _ | .executing _ => true
  | .loaded _ | .acquiring _ | .waiting _ _ | .ended => false

/-- The run waits for a slot of the semaphore. -/
def Stage.waitsFor (k : ℕ) : Stage → Bool
  | .waiting k' _ => k' = k
  | .loaded _ | .acquiring _ | .granted _ _ | .acquired _ | .executing _ | .ended => false

/-- The limit that a run will look its semaphore up with. -/
def Stage.loadedLimit : Stage → Option Limit
  | .loaded limit => some limit
  | .acquiring _ | .waiting _ _ | .granted _ _ | .acquired _ | .executing _ | .ended => none

/-- The limit that an update will write. -/
def Update.written : Update → Option Limit
  | .applied before (some limit) => if limit = before then none else some limit
  | .loaded _ | .applied _ none | .committed => none

/-- The semaphore of a run that has looked it up and has not ended. -/
def Stage.semaphore : Stage → Option ℕ
  | .acquiring k | .waiting k _ | .granted k _ | .acquired k | .executing k => some k
  | .loaded _ | .ended => none

/-- What a run found that has not got its slot at once. -/
def Stage.found : Stage → Option Count
  | .waiting _ found | .granted _ found => some found
  | .loaded _ | .acquiring _ | .acquired _ | .executing _ | .ended => none

namespace State

variable (s : State)

/-- The number of the runs that execute, and the limit in force. -/
def count : Count := ⟨s.runs.countP Stage.holds, s.limit.value⟩

/-- The run goes on. -/
def setRun (i : ℕ) (stage : Stage) : State := { s with runs := s.runs.set i stage }

/-- A semaphore is made and registered. -/
def newSemaphore (limit : ℕ) : State × ℕ :=
  ({ s with entry := some (limit, s.values.length), values := s.values ++ [limit] }, s.values.length)

/-- **`_get_task_semaphore`**. -/
def getTaskSemaphore (maxConcurrentRuns : Limit) : State × ℕ :=
  let limit := max 1 (if maxConcurrentRuns.value = 0 then 1 else maxConcurrentRuns.value)
  match s.entry with
  | some existing => if existing.1 = limit then (s, existing.2) else s.newSemaphore limit
  | none => s.newSemaphore limit

/-- `semaphore.release()`: the slot goes to one of those who wait for it. -/
def release (k : ℕ) : Option ℕ → Option State
  | some j =>
    match s.runs[j]? with
    | some (.waiting k' found) => if k' = k then some (s.setRun j (.granted k found)) else none
    | _ => none
  | none => if s.runs.any (Stage.waitsFor k) then none else some { s with values := s.values.modify k (· + 1) }

end State

/-- What happens. -/
inductive Label
  /-- A trigger loads the task. -/
  | load
  /-- `_get_task_semaphore` of a run. -/
  | lookUp (i : ℕ)
  /-- `semaphore.acquire()`. -/
  | acquire (i : ℕ)
  | wake (i : ℕ)
  /-- A run is skipped, and hands on the slot that it has been given meanwhile. -/
  | timeOut (i : ℕ) (next : Option ℕ)
  | start (i : ℕ)
  /-- A script ends, in whatever way. -/
  | finish (i : ℕ) (next : Option ℕ)
  | loadUpdate
  | applyUpdate (u : ℕ) (maxConcurrentRuns : Option Limit)
  | commitUpdate (u : ℕ)
  /-- `delete_task` commits. -/
  | delete
  /-- And then drops the semaphore. -/
  | dropDeleted

/-- A step of the task. -/
def step (s : State) : Label → Option State
  | .load => if s.deleted then none else some { s with runs := s.runs ++ [.loaded s.limit] }
  | .lookUp i =>
    match s.runs[i]? with
    | some (.loaded limit) =>
      let found := s.getTaskSemaphore limit
      some (found.1.setRun i (.acquiring found.2))
    | _ => none
  | .acquire i =>
    match s.runs[i]? with
    | some (.acquiring k) => s.values[k]?.map fun value =>
      if 0 < value ∧ ! s.runs.any (Stage.waitsFor k) then
        { s.setRun i (.acquired k) with values := s.values.set k (value - 1) }
      else s.setRun i (.waiting k s.count)
    | _ => none
  | .wake i =>
    match s.runs[i]? with
    | some (.granted k _) => some (s.setRun i (.acquired k))
    | _ => none
  | .timeOut i next =>
    match s.runs[i]? with
    | some (.waiting _ found) => some { s.setRun i .ended with skips := s.skips ++ [found] }
    | some (.granted k found) => State.release { s.setRun i .ended with skips := s.skips ++ [found] } k next
    | _ => none
  | .start i =>
    match s.runs[i]? with
    | some (.acquired k) => some { s.setRun i (.executing k) with starts := s.starts ++ [s.count] }
    | _ => none
  | .finish i next =>
    match s.runs[i]? with
    | some (.executing k) => (s.setRun i .ended).release k next
    | _ => none
  | .loadUpdate => if s.deleted then none else some { s with updates := s.updates ++ [.loaded s.limit] }
  | .applyUpdate u maxConcurrentRuns =>
    match s.updates[u]? with
    | some (.loaded limit) => some { s with
        updates := s.updates.set u (.applied limit maxConcurrentRuns)
        entry := if maxConcurrentRuns.isSome then none else s.entry }
    | _ => none
  | .commitUpdate u =>
    match s.updates[u]? with
    -- a column is written where it differs from what was loaded
    | some update => some { s with
        updates := s.updates.set u .committed
        limit := update.written.getD s.limit }
    | none => none
  | .delete => some { s with deleted := true }
  | .dropDeleted => if s.deleted then some { s with entry := none } else none

/-- **The runs keep to the limit**: as a script starts, no more runs execute than the limit in force, and a run is
skipped only if that many did. -/
structure State.Bounded (s : State) : Prop where
  starts : ∀ count ∈ s.starts, count.runs ≤ count.limit
  skips : ∀ count ∈ s.skips, count.limit ≤ count.runs

/-- No run is under way. -/
def State.Idle (s : State) : Prop := ∀ stage ∈ s.runs, stage.semaphore = none

/-- **The condition on a step**: a run takes its semaphore with the limit in force, and the semaphore is dropped,
and the limit changed, while no run is under way. -/
def Settled (s : State) : Label → Prop
  | .lookUp i => ∀ limit ∈ s.runs[i]?.bind Stage.loadedLimit, limit = s.limit
  | .applyUpdate _ maxConcurrentRuns => maxConcurrentRuns.isSome = true → s.Idle
  | .commitUpdate u => ∀ limit ∈ s.updates[u]?.bind Update.written, limit ≠ s.limit → s.Idle
  | .dropDeleted => s.Idle
  | .load | .acquire _ | .wake _ | .timeOut _ _ | .start _ | .finish _ _ | .loadUpdate | .delete => True

instance (s : State) : Decidable s.Idle :=
  inferInstanceAs (Decidable (∀ stage ∈ s.runs, stage.semaphore = none))

instance (s : State) : (label : Label) → Decidable (Settled s label)
  | .lookUp i => inferInstanceAs (Decidable (∀ limit ∈ s.runs[i]?.bind Stage.loadedLimit, limit = s.limit))
  | .applyUpdate _ maxConcurrentRuns => inferInstanceAs (Decidable (maxConcurrentRuns.isSome = true → s.Idle))
  | .commitUpdate u =>
    inferInstanceAs (Decidable (∀ limit ∈ s.updates[u]?.bind Update.written, limit ≠ s.limit → s.Idle))
  | .dropDeleted => inferInstanceAs (Decidable s.Idle)
  | .load | .acquire _ | .wake _ | .timeOut _ _ | .start _ | .finish _ _ | .loadUpdate | .delete => .isTrue trivial

/-! ## Slots -/

variable {s t : State} {i k : ℕ} {old new : Stage}

/-- **What the runs keep to**: all that are under way have the semaphore of the entry, and its limit is in force;
its slots are free or taken, and free ones are not waited for. -/
structure State.Ruled (s : State) : Prop where
  bounded : s.Bounded
  current : ∀ stage ∈ s.runs, ∀ k, stage.semaphore = some k → s.entry = some (s.limit.value, k)
  slots : ∀ limit k, s.entry = some (limit, k) →
    ∃ value, s.values[k]? = some value ∧ value + s.runs.countP Stage.holds = limit
  waited : ∀ stage ∈ s.runs, ∀ k, stage.waitsFor k = true → s.values[k]? = some 0
  found : ∀ stage ∈ s.runs, ∀ count, stage.found = some count → count.limit ≤ count.runs

/-- What is found of the runs after one of them has gone on. -/
theorem mem_setRun {stage : Stage} (h : stage ∈ (s.setRun i new).runs) : stage = new ∨ stage ∈ s.runs :=
  (List.mem_or_eq_of_mem_set h).symm

/-- **A run goes on** that keeps its slot, or has none before and after. -/
theorem State.Ruled.setRun (h : s.Ruled) (hi : s.runs[i]? = some old) (hholds : new.holds = old.holds)
    (hcurrent : ∀ k, new.semaphore = some k → s.entry = some (s.limit.value, k))
    (hwaited : ∀ k, new.waitsFor k = true → s.values[k]? = some 0)
    (hfound : ∀ count, new.found = some count → count.limit ≤ count.runs) : (s.setRun i new).Ruled where
  bounded := ⟨h.bounded.starts, h.bounded.skips⟩
  current stage hstage := by
    obtain rfl | hstage := mem_setRun hstage
    · exact hcurrent
    · exact h.current stage hstage
  slots limit k hentry := by
    obtain ⟨value, hvalue, hsum⟩ := h.slots limit k hentry
    have hcount := countP_set_add (p := Stage.holds) (b := new) hi
    rw [hholds, Nat.add_right_cancel_iff] at hcount
    exact ⟨value, hvalue, by rw [State.setRun, hcount, hsum]⟩
  waited stage hstage := by
    obtain rfl | hstage := mem_setRun hstage
    · exact hwaited
    · exact h.waited stage hstage
  found stage hstage := by
    obtain rfl | hstage := mem_setRun hstage
    · exact hfound
    · exact h.found stage hstage

/-- The limit of a run that is under way is in force for its semaphore. -/
theorem State.Ruled.slots_of_semaphore (h : s.Ruled) (hi : s.runs[i]? = some old) (hk : old.semaphore = some k) :
    ∃ value, s.values[k]? = some value ∧ value + s.runs.countP Stage.holds = s.limit.value :=
  h.slots _ k (h.current old (List.mem_of_getElem? hi) k hk)

/-- **A run takes a free slot** that nobody waits for. -/
theorem State.Ruled.take (h : s.Ruled) {value : ℕ} (hi : s.runs[i]? = some (.acquiring k))
    (hvalue : s.values[k]? = some value) (hpos : 0 < value) :
    State.Ruled { s.setRun i (.acquired k) with values := s.values.set k (value - 1) } where
  bounded := ⟨h.bounded.starts, h.bounded.skips⟩
  current stage hstage := by
    obtain rfl | hstage := mem_setRun hstage
    · exact h.current (.acquiring k) (List.mem_of_getElem? hi)
    · exact h.current stage hstage
  slots limit k' hentry := by
    have hk := h.current _ (List.mem_of_getElem? hi) k rfl
    obtain ⟨rfl, rfl⟩ := Prod.mk.inj (Option.some.inj (hk.symm.trans hentry))
    obtain ⟨value', hvalue', hsum⟩ := h.slots_of_semaphore hi rfl
    obtain rfl := Option.some.inj (hvalue.symm.trans hvalue')
    have hcount := countP_set_add (p := Stage.holds) (b := .acquired k) hi
    simp only [Stage.holds, Bool.toNat_false, Bool.toNat_true] at hcount
    have hlt : k < s.values.length := (List.getElem?_eq_some_iff.mp hvalue).1
    refine ⟨value - 1, List.getElem?_set_self hlt, ?_⟩
    simp only [State.setRun]
    omega
  waited stage hstage k' hwaits := by
    obtain rfl | hstage := mem_setRun hstage
    · cases hwaits
    · have hzero := h.waited stage hstage k' hwaits
      have hne : k ≠ k' := by
        rintro rfl
        obtain rfl := Option.some.inj (hvalue.symm.trans hzero)
        exact absurd hpos (Nat.lt_irrefl 0)
      rw [List.getElem?_set_ne hne, hzero]
  found stage hstage := by
    obtain rfl | hstage := mem_setRun hstage
    · simp [Stage.found]
    · exact h.found stage hstage

/-- **A run ends and gives its slot back**, or to one of those who wait for it. -/
theorem State.Ruled.release (h : s.Ruled) (hi : s.runs[i]? = some old) (hholds : old.holds = true)
    (hk : old.semaphore = some k) {next : Option ℕ} (hrelease : (s.setRun i .ended).release k next = some t) :
    t.Ruled := by
  have hentry := h.current old (List.mem_of_getElem? hi) k hk
  obtain ⟨value, hvalue, hsum⟩ := h.slots_of_semaphore hi hk
  have hcount := countP_set_add (p := Stage.holds) (b := .ended) hi
  rw [hholds] at hcount
  simp only [Stage.holds, Bool.toNat_false, Bool.toNat_true] at hcount
  cases next with
  | none =>
    simp only [State.release, Option.ite_none_left_eq_some, Option.some.injEq] at hrelease
    obtain ⟨hnone, rfl⟩ := hrelease
    refine ⟨⟨h.bounded.starts, h.bounded.skips⟩, fun stage hstage => ?_, fun limit k' hentry' => ?_,
      fun stage hstage k' hwaits => ?_, fun stage hstage => ?_⟩
    · obtain rfl | hstage := mem_setRun hstage
      · simp [Stage.semaphore]
      · exact h.current stage hstage
    · obtain ⟨rfl, rfl⟩ := Prod.mk.inj (Option.some.inj (hentry.symm.trans hentry'))
      refine ⟨value + 1, ?_, ?_⟩
      · show (s.values.modify k (· + 1))[k]? = some (value + 1)
        rw [List.getElem?_modify, hvalue]
        simp
      · show value + 1 + (s.runs.set i .ended).countP Stage.holds = s.limit.value
        omega
    · have hne : k ≠ k' := by
        rintro rfl
        exact hnone (List.any_eq_true.mpr ⟨stage, hstage, hwaits⟩)
      show (s.values.modify k (· + 1))[k']? = some 0
      rw [List.getElem?_modify_ne _ _ hne]
      obtain rfl | hstage := mem_setRun hstage
      · cases hwaits
      · exact h.waited stage hstage k' hwaits
    · obtain rfl | hstage := mem_setRun hstage
      · simp [Stage.found]
      · exact h.found stage hstage
  | some j =>
    simp only [State.release] at hrelease
    split at hrelease
    · rename_i k' found hj
      rw [Option.ite_none_right_eq_some, Option.some_inj] at hrelease
      obtain ⟨rfl, rfl⟩ := hrelease
      have hcount' := countP_set_add (p := Stage.holds) (b := .granted k' found) hj
      simp only [Stage.holds, Bool.toNat_false, Bool.toNat_true] at hcount'
      -- the one that gets the slot waited for it
      have hwaited : Stage.waiting k' found ∈ s.runs := by
        obtain hended | hmem := mem_setRun (List.mem_of_getElem? hj)
        · cases hended
        · exact hmem
      have hmem {stage : Stage} (hstage : stage ∈ ((s.setRun i .ended).setRun j (.granted k' found)).runs) :
          stage = .granted k' found ∨ stage = .ended ∨ stage ∈ s.runs :=
        (mem_setRun hstage).imp_right mem_setRun
      refine ⟨⟨h.bounded.starts, h.bounded.skips⟩, fun stage hstage => ?_, fun limit k hentry' => ?_,
        fun stage hstage k hwaits => ?_, fun stage hstage => ?_⟩
      · obtain rfl | rfl | hstage := hmem hstage
        · exact h.current (.waiting k' found) hwaited
        · simp [Stage.semaphore]
        · exact h.current stage hstage
      · obtain ⟨rfl, rfl⟩ := Prod.mk.inj (Option.some.inj (hentry.symm.trans hentry'))
        refine ⟨value, hvalue, ?_⟩
        simp only [State.setRun] at hcount' ⊢
        omega
      · obtain rfl | rfl | hstage := hmem hstage
        · cases hwaits
        · cases hwaits
        · exact h.waited stage hstage k hwaits
      · obtain rfl | rfl | hstage := hmem hstage
        · exact h.found (.waiting k' found) hwaited
        · simp [Stage.found]
        · exact h.found stage hstage
    · cases hrelease

/-- A skipped run is recorded. -/
theorem State.Ruled.skip (h : s.Ruled) {count : Count} (hcount : count.limit ≤ count.runs) :
    State.Ruled { s with skips := s.skips ++ [count] } := by
  refine ⟨⟨h.bounded.starts, fun count' hmem => ?_⟩, h.current, h.slots, h.waited, h.found⟩
  obtain hmem | hmem := List.mem_append.mp hmem
  · exact h.bounded.skips count' hmem
  · obtain rfl := List.mem_singleton.mp hmem
    exact hcount

/-- **A script is started** where at most the limit executes. -/
theorem State.Ruled.start (h : s.Ruled) (hi : s.runs[i]? = some (.acquired k)) :
    State.Ruled { s with starts := s.starts ++ [s.count] } := by
  refine ⟨⟨fun count hmem => ?_, h.bounded.skips⟩, h.current, h.slots, h.waited, h.found⟩
  obtain hmem | hmem := List.mem_append.mp hmem
  · exact h.bounded.starts count hmem
  · obtain rfl := List.mem_singleton.mp hmem
    obtain ⟨value, -, hsum⟩ := h.slots_of_semaphore hi rfl
    exact Nat.le.intro ((Nat.add_comm ..).trans hsum)

/-- **A run that gets no slot** has found as many runs as the limit allows. -/
theorem State.Ruled.full (h : s.Ruled) {value : ℕ} (hi : s.runs[i]? = some (.acquiring k))
    (hvalue : s.values[k]? = some value) (hfull : ¬ (0 < value ∧ (! s.runs.any (Stage.waitsFor k)) = true)) :
    s.values[k]? = some 0 ∧ s.count.limit ≤ s.count.runs := by
  obtain ⟨value', hvalue', hsum⟩ := h.slots_of_semaphore hi rfl
  obtain rfl := Option.some.inj (hvalue.symm.trans hvalue')
  have hzero : value = 0 := by
    by_contra hne
    rw [not_and, Bool.not_eq_true', Bool.not_eq_false, List.any_eq_true] at hfull
    obtain ⟨stage, hstage, hwaits⟩ := hfull (Nat.pos_of_ne_zero hne)
    exact hne (Option.some.inj (hvalue.symm.trans (h.waited stage hstage k hwaits)))
  rw [hzero, Nat.zero_add] at hsum
  exact ⟨by rw [hvalue, hzero], Nat.le_of_eq hsum.symm⟩

/-- Where no run is under way, none executes. -/
theorem State.Idle.countP_eq_zero (h : s.Idle) : s.runs.countP Stage.holds = 0 := by
  rw [List.countP_eq_zero]
  intro stage hstage hholds
  have hnone := h stage hstage
  cases stage <;> simp [Stage.holds, Stage.semaphore] at hholds hnone

/-- Where no run is under way, the semaphore may be dropped or replaced, and the limit changed. -/
theorem State.Ruled.idle (h : s.Ruled) (hidle : s.Idle) {limit : Limit} {entry : Option (ℕ × ℕ)}
    {values : List ℕ} (hslots : ∀ l k, entry = some (l, k) → values[k]? = some l) :
    State.Ruled { s with limit := limit, entry := entry, values := values } where
  bounded := ⟨h.bounded.starts, h.bounded.skips⟩
  current stage hstage k hk := by
    rw [hidle stage hstage] at hk
    cases hk
  slots l k hentry := by
    refine ⟨l, hslots l k hentry, ?_⟩
    show l + s.runs.countP Stage.holds = l
    rw [hidle.countP_eq_zero, Nat.add_zero]
  waited stage hstage k hwaits := by
    have hnone := hidle stage hstage
    cases stage <;> simp [Stage.waitsFor, Stage.semaphore] at hwaits hnone
  found := h.found

/-! ## Steps -/

/-- A run that has been loaded takes the semaphore of the limit in force. -/
theorem State.Ruled.setAcquiring (h : s.Ruled) {limit : Limit} (hi : s.runs[i]? = some (.loaded limit))
    (hentry : s.entry = some (s.limit.value, k)) : (s.setRun i (.acquiring k)).Ruled := by
  refine h.setRun hi rfl (fun k' hk => ?_) (fun k' hwaits => ?_) fun count hfound => ?_
  · obtain rfl := Option.some.inj hk
    exact hentry
  · cases hwaits
  · cases hfound

/-- And if there is none, no run is under way and one is made. -/
theorem State.Ruled.newSemaphore (h : s.Ruled) {limit : Limit} (hi : s.runs[i]? = some (.loaded limit))
    (hentry : ∀ k, s.entry ≠ some (s.limit.value, k)) :
    ((s.newSemaphore s.limit.value).1.setRun i (.acquiring (s.newSemaphore s.limit.value).2)).Ruled := by
  have hidle : s.Idle := fun stage hstage => by
    cases hk : stage.semaphore with
    | none => rfl
    | some k => exact absurd (h.current stage hstage k hk) (hentry k)
  have hnew : (s.newSemaphore s.limit.value).1.Ruled := by
    refine h.idle hidle fun l k hk => ?_
    obtain ⟨rfl, rfl⟩ := Prod.mk.inj (Option.some.inj hk)
    exact List.getElem?_concat_length
  exact hnew.setAcquiring hi rfl

theorem State.Ruled.lookUp (h : s.Ruled) (hi : s.runs[i]? = some (.loaded s.limit)) :
    ((s.getTaskSemaphore s.limit).1.setRun i (.acquiring (s.getTaskSemaphore s.limit).2)).Ruled := by
  have hlimit : max 1 (if s.limit.value = 0 then 1 else s.limit.value) = s.limit.value := by
    rw [if_neg (Nat.ne_of_gt s.limit.pos), Nat.max_eq_right s.limit.pos]
  unfold State.getTaskSemaphore
  simp only [hlimit]
  split
  · rename_i existing hentry
    split
    · rename_i hsame
      refine h.setAcquiring hi ?_
      rw [hentry, ← hsame]
    · rename_i hdiffers
      refine h.newSemaphore hi fun k hk => ?_
      rw [hentry, Option.some_inj] at hk
      exact hdiffers (congrArg Prod.fst hk)
  · rename_i hentry
    refine h.newSemaphore hi fun k hk => ?_
    rw [hentry] at hk
    cases hk

/-- A new run is under way later. -/
theorem State.Ruled.load (h : s.Ruled) : State.Ruled { s with runs := s.runs ++ [.loaded s.limit] } := by
  have hmem {stage : Stage} (hstage : stage ∈ s.runs ++ [.loaded s.limit]) :
      stage ∈ s.runs ∨ stage = .loaded s.limit :=
    (List.mem_append.mp hstage).imp_right List.mem_singleton.mp
  refine ⟨⟨h.bounded.starts, h.bounded.skips⟩, fun stage hstage => ?_, fun limit k hentry => ?_,
    fun stage hstage k hwaits => ?_, fun stage hstage => ?_⟩
  · obtain hstage | rfl := hmem hstage
    · exact h.current stage hstage
    · simp [Stage.semaphore]
  · obtain ⟨value, hvalue, hsum⟩ := h.slots limit k hentry
    refine ⟨value, hvalue, ?_⟩
    show value + (s.runs ++ [Stage.loaded s.limit]).countP Stage.holds = limit
    rw [List.countP_append, ← Nat.add_assoc, hsum]
    rfl
  · obtain hstage | rfl := hmem hstage
    · exact h.waited stage hstage k hwaits
    · cases hwaits
  · obtain hstage | rfl := hmem hstage
    · exact h.found stage hstage
    · simp [Stage.found]

/-- An update goes on that changes neither the semaphore nor the limit. -/
theorem State.Ruled.update (h : s.Ruled) (updates : List Update) : State.Ruled { s with updates := updates } :=
  ⟨⟨h.bounded.starts, h.bounded.skips⟩, h.current, h.slots, h.waited, h.found⟩

/-- **A step under the condition keeps to the limit.** -/
theorem State.Ruled.step (h : s.Ruled) {label : Label} (hsettled : Settled s label)
    (hstep : step s label = some t) : t.Ruled := by
  cases label with
  | load =>
    simp only [ScheduledTasks.step, Option.ite_none_left_eq_some, Option.some.injEq] at hstep
    obtain ⟨-, rfl⟩ := hstep
    exact h.load
  | lookUp i =>
    simp only [ScheduledTasks.step] at hstep
    split at hstep
    · rename_i limit hi
      have hlimit : limit = s.limit := hsettled limit (by rw [hi, Option.bind_some]; rfl)
      subst hlimit
      obtain rfl := Option.some.inj hstep
      exact h.lookUp hi
    · cases hstep
  | acquire i =>
    simp only [ScheduledTasks.step] at hstep
    split at hstep
    · rename_i k hi
      obtain ⟨value, hvalue, rfl⟩ := Option.map_eq_some_iff.mp hstep
      split
      · rename_i hfree
        exact h.take hi hvalue hfree.1
      · rename_i hfull
        obtain ⟨hzero, hcount⟩ := h.full hi hvalue hfull
        refine h.setRun hi rfl (fun k' hk => ?_) (fun k' hwaits => ?_) fun count hfound => ?_
        · exact h.current (.acquiring k) (List.mem_of_getElem? hi) k' hk
        · obtain rfl : k = k' := by simpa [Stage.waitsFor] using hwaits
          exact hzero
        · obtain rfl := Option.some.inj hfound
          exact hcount
    · cases hstep
  | wake i =>
    simp only [ScheduledTasks.step] at hstep
    split at hstep
    · rename_i k found hi
      obtain rfl := Option.some.inj hstep
      refine h.setRun hi rfl (h.current (.granted k found) (List.mem_of_getElem? hi)) (fun k' hwaits => ?_)
        fun count hfound => ?_
      · cases hwaits
      · cases hfound
    · cases hstep
  | timeOut i next =>
    simp only [ScheduledTasks.step] at hstep
    split at hstep
    · rename_i k found hi
      obtain rfl := Option.some.inj hstep
      have hcount := h.found (.waiting k found) (List.mem_of_getElem? hi) found rfl
      refine (h.skip hcount).setRun hi rfl (fun k' hk => ?_) (fun k' hwaits => ?_) fun count hfound => ?_
      · cases hk
      · cases hwaits
      · cases hfound
    · rename_i k found hi
      have hcount := h.found (.granted k found) (List.mem_of_getElem? hi) found rfl
      exact (h.skip hcount).release hi rfl rfl hstep
    · cases hstep
  | start i =>
    simp only [ScheduledTasks.step] at hstep
    split at hstep
    · rename_i k hi
      obtain rfl := Option.some.inj hstep
      refine (h.start hi).setRun hi rfl (h.current (.acquired k) (List.mem_of_getElem? hi)) (fun k' hwaits => ?_)
        fun count hfound => ?_
      · cases hwaits
      · cases hfound
    · cases hstep
  | finish i next =>
    simp only [ScheduledTasks.step] at hstep
    split at hstep
    · rename_i k hi
      exact h.release hi rfl rfl hstep
    · cases hstep
  | loadUpdate =>
    simp only [ScheduledTasks.step, Option.ite_none_left_eq_some, Option.some.injEq] at hstep
    obtain ⟨-, rfl⟩ := hstep
    exact h.update _
  | applyUpdate u maxConcurrentRuns =>
    simp only [ScheduledTasks.step] at hstep
    split at hstep
    · rename_i loaded hu
      obtain rfl := Option.some.inj hstep
      have hupdate := h.update (s.updates.set u (.applied loaded maxConcurrentRuns))
      cases maxConcurrentRuns with
      | none => exact hupdate
      | some limit => exact @State.Ruled.idle _ hupdate (hsettled rfl) s.limit none s.values (by simp)
    · cases hstep
  | commitUpdate u =>
    simp only [ScheduledTasks.step] at hstep
    split at hstep
    · rename_i update hu
      obtain rfl := Option.some.inj hstep
      have hupdate := h.update (s.updates.set u .committed)
      cases hwritten : update.written with
      | none => exact hupdate
      | some limit =>
        rw [Option.getD_some]
        by_cases hsame : limit = s.limit
        · rw [hsame]
          exact hupdate
        · have hidle : s.Idle := hsettled limit (by rw [hu, Option.bind_some, hwritten]; rfl) hsame
          refine @State.Ruled.idle _ hupdate hidle limit s.entry s.values fun l k hk => ?_
          obtain ⟨value, hvalue, hsum⟩ := h.slots l k hk
          rw [hvalue, ← hsum, hidle.countP_eq_zero, Nat.add_zero]
    · cases hstep
  | delete =>
    obtain rfl := Option.some.inj hstep
    exact ⟨⟨h.bounded.starts, h.bounded.skips⟩, h.current, h.slots, h.waited, h.found⟩
  | dropDeleted =>
    simp only [ScheduledTasks.step, Option.ite_none_right_eq_some, Option.some.injEq] at hstep
    obtain ⟨-, rfl⟩ := hstep
    exact h.idle hsettled fun l k hk => by cases hk

/-- The condition on a step of one of the tasks. -/
abbrev SettledTask (s : ℕ → State) (label : ℕ × Label) : Prop := Settled (s label.1) label.2

/-- **The runs of every task keep to its limit** along a run whose steps meet the condition. -/
theorem bounded_of_run {limits : ℕ → Limit} {labels : List (ℕ × Label)} {t : ℕ → State}
    (h : Run (each step) SettledTask (fun task => { limit := limits task }) labels t) (task : ℕ) :
    (t task).Bounded := by
  have hstart (task : ℕ) : State.Ruled { limit := limits task } := by
    refine ⟨⟨?_, ?_⟩, ?_, ?_, ?_, ?_⟩ <;> simp
  have hruled := h.each_invariant (I := State.Ruled)
    (fun _ _ _ hruled hsettled hstep => hruled.step hsettled hstep) hstart task
  exact hruled.bounded

/-- A limit of one. -/
def one : Limit := ⟨1, by decide, by decide⟩

/-- A second trigger comes while the first run executes. -/
def secondTrigger : List Label :=
  [.load, .lookUp 0, .acquire 0, .start 0, .load, .lookUp 1, .acquire 1, .timeOut 1 none, .finish 0 none]

/-- It is skipped. -/
theorem secondTrigger_skips :
    ∃ t : ℕ → State, (t 7).Bounded ∧ (t 7).starts = [⟨1, 1⟩] ∧ (t 7).skips = [⟨1, 1⟩] := by
  obtain ⟨t, hrun, hcheck⟩ := @Run.exists_of_any (ℕ → State) (ℕ × Label) (each step) SettledTask _
    (fun _ => { limit := one }) (secondTrigger.map fun label => (7, label))
    (fun t => (t 7).starts = [⟨1, 1⟩] ∧ (t 7).skips = [⟨1, 1⟩]) (by decide)
  exact ⟨t, bounded_of_run hrun 7, of_decide_eq_true hcheck⟩

/-- The task is updated while a run of it executes, with the limit that it has, and a second trigger comes. -/
def updatedMeanwhile : List Label :=
  [.load, .lookUp 0, .acquire 0, .start 0, .loadUpdate, .applyUpdate 0 (some one), .commitUpdate 0,
    .load, .lookUp 1, .acquire 1, .start 1]

/-- The task after it. -/
def overrunState : State := (exec step Always { limit := one } updatedMeanwhile).getD { limit := one }

/-- **Two runs of a task execute that allows one.** -/
theorem updatedMeanwhile_overruns :
    Run step Always { limit := one } updatedMeanwhile overrunState ∧ ¬ overrunState.Bounded := by
  refine ⟨.of_isSome (by decide), fun hbounded => ?_⟩
  have hstarts : overrunState.starts = [⟨1, 1⟩, ⟨2, 1⟩] := by decide
  have hsecond := hbounded.starts ⟨2, 1⟩ (by rw [hstarts]; simp)
  exact absurd hsecond (by decide)

end DBClaw.ScheduledTasks
