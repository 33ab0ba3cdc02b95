import DBClaw.Library.Runs
import DBClaw.Skills.ToolCalls
import Mathlib

/-! # The ids of skill executions
The executor of skills writes a row about an execution, if it comes so far. `execute_skill_call` looks for that row
afterwards: it takes the latest one of the skill, the session and the user. Calls run side by side, and switch where
they await the database or the code of a skill; `attributed_iff` says in which runs every call finds its own row. -/

namespace DBClaw.Skills.ExecutionIds

open Runs ToolCalls

/-! ## Calls and rows -/

/-- **`SkillExecution`**, with the call that the row is about, which is no column. -/
structure SkillExecution where
  id : ℕ
  skillId : Text
  sessionId : Option ℤ
  userId : Option ℤ
  parameters : Dict
  result : Json
  error : Option Text
  call : ℕ

/-- The arguments of `execute_skill_call`; `hasDb` tells whether there is a database session. -/
structure Request where
  skillId : Text
  arguments : Dict
  hasDb : Bool
  userId : Option ℤ
  sessionId : Option ℤ

/-- **What the calls rely on**: the readers of the skill's row, the regular expressions of the validator, `int`, which
may raise, the text of a number, and whether `build_tool_result_visualization` and `json.dumps` return for a result. -/
structure Libraries where
  py : Pydantic
  re : Regex
  int : Json → Option ℤ
  str : Json → Text
  visualizes : Text → Json → Bool
  dumps : Json → Bool

/-- The result of a skill, or the text of its error. -/
inductive Outcome
  | ok (result : Json)
  | error (message : Text)

/-- What `_log_execution` gets, and the time limit that the executor goes on with. -/
structure Log where
  timeout : Json
  outcome : Outcome

/-- **Where a call awaits**: the row of the skill, its code, the insert, the commit or the rollback of its row, or the
query for its id, which knows the result if there has been no exception. -/
inductive Stage
  | lookup
  | executing (timeout : Json)
  | inserting (log : Log)
  | committing (log : Log) (id : ℕ)
  | rollingBack (log : Log)
  | querying (result : Option Json)
  | returned (executionId : Option ℕ)
  | raised

/-- A call of `execute_skill_call`. -/
structure Call where
  request : Request
  stage : Stage

/-- An exception; that of a time limit is told apart. -/
inductive Failure
  | timeout
  | other (message : Text)

/-- **What a call gets**: the row of its skill, the result of the code, that the database is done, or an exception. -/
inductive Event
  | called (request : Request)
  | found (skill : Option Row)
  | ended (result : Json)
  | done
  | failed (failure : Failure)

/-- The rows that are committed, and the next number of their sequence. -/
structure Table where
  rows : List SkillExecution
  nextId : ℕ

/-! ## `execute_skill_call` -/

section Calls

variable (lib : Libraries)

/-- The call starts: `int` raises for a time limit that it does not read. -/
def start (request : Request) : Stage :=
  let timeout := request.arguments.get "timeout"
  if timeout.truthy && (lib.int timeout).isNone then .querying none else .lookup

/-- The time limit: that of the call, of the skill or the default; `min` raises for what is no number. -/
def timeoutOf (skill : Row) (timeout : Json) : Option Json :=
  if timeout.truthy then (lib.int timeout).map fun n => .int (min (max 30 (min n 3600)) 3600)
  else
    match timeout with
    | .null =>
      match skill.columns.get "timeout" with
      | .int n => some (.int (min (if n = 0 then 30 else n) 3600))
      | _ => some (.int 30)
    | .bool _ | .int _ | .float _ => some timeout
    | _ => none

/-- The skill has been looked up. The permissions that the executor checks are those that the call grants. -/
def afterLookup (request : Request) : Option Row → Stage
  | none => .returned none
  | some skill =>
    if skill.isEnabled && skill.isBuiltin then
      match timeoutOf lib skill (request.arguments.get "timeout") with
      | some timeout =>
        if SkillValidator.Valid lib.re (withoutTimeout request.arguments) (skill.parameters lib.py) then
          .executing timeout
        else .querying none
      | none => .querying none
    else .returned none

/-- The text of an exception while the skill is executed. -/
def Failure.text (timeout : Json) : Failure → Text
  | .timeout => "Skill execution timed out after ".toList ++ lib.str timeout ++ ['s']
  | .other message => message

/-- The row that **`_log_execution`** adds. -/
def newRow (i : ℕ) (request : Request) (log : Log) (id : ℕ) : SkillExecution where
  id := id
  skillId := request.skillId
  sessionId := request.sessionId
  userId := request.userId
  parameters := withoutTimeout request.arguments
  result := match log.outcome with
    | .ok result => result
    | .error _ => .null
  error := match log.outcome with
    | .ok _ => none
    | .error message => some message
  call := i

/-- The executor is done with the log: it returns the result, which is then visualized, or raises. -/
def afterLog (request : Request) (log : Log) : Stage :=
  match log.outcome with
  | .ok result => .querying (if lib.visualizes request.skillId result then some result else none)
  | .error _ => .querying none

/-- The rollback raises: while a result is logged, the executor handles that as an exception of the skill. -/
def afterRollback (log : Log) (failure : Failure) : Stage :=
  match log.outcome with
  | .ok _ => .inserting { log with outcome := .error (failure.text lib log.timeout) }
  | .error _ => .querying none

/-- The row is one that the query of a call looks for. -/
def Request.selects (request : Request) (row : SkillExecution) : Bool :=
  row.skillId = request.skillId && request.sessionId.all (row.sessionId = some ·) &&
    request.userId.all (row.userId = some ·)

/-- **`_get_latest_execution_id`**. -/
def getLatestExecutionId (request : Request) (rows : List SkillExecution) : Option ℕ :=
  if request.hasDb then ((rows.filter request.selects).map SkillExecution.id).max? else none

/-- The query is done: a result that `json.dumps` raises for leads to the next query. -/
def afterQuery (request : Request) (rows : List SkillExecution) (result : Option Json) : Stage :=
  if result.all lib.dumps then .returned (getLatestExecutionId request rows) else .querying none

/-- **A call goes on** to where it awaits next. -/
def advance (i : ℕ) (request : Request) (table : Table) : Stage → Event → Option (Stage × Table)
  | .lookup, .found skill => if request.hasDb then some (afterLookup lib request skill, table) else none
  | .lookup, .failed _ => some (.querying none, table)
  | .executing timeout, .ended result => some (.inserting ⟨timeout, .ok result⟩, table)
  | .executing timeout, .failed failure => some (.inserting ⟨timeout, .error (failure.text lib timeout)⟩, table)
  | .inserting log, .done => some (.committing log table.nextId, { table with nextId := table.nextId + 1 })
  | .inserting log, .failed _ => some (.rollingBack log, table)
  | .committing log id, .done =>
    some (afterLog lib request log, { table with rows := table.rows ++ [newRow i request log id] })
  | .committing log _, .failed _ => some (.rollingBack log, table)
  | .rollingBack log, .done => some (afterLog lib request log, table)
  | .rollingBack log, .failed failure => some (afterRollback lib log failure, table)
  | .querying result, .done => some (afterQuery lib request table.rows result, table)
  | .querying (some _), .failed _ => some (.querying none, table)
  | .querying none, .failed _ => some (.raised, table)
  | _, _ => none

/-- The calls, side by side, on one table. -/
structure World where
  table : Table
  calls : ℕ → Option Call

/-- A call has come to a stage. -/
def World.with (s : World) (i : ℕ) (request : Request) (table : Table) (stage : Stage) : World where
  table := table
  calls := Function.update s.calls i (some ⟨request, stage⟩)

/-- **The system**: a call is made, or goes on. -/
def step (s : World) (a : ℕ × Event) : Option World :=
  match s.calls a.1 with
  | none =>
    match a.2 with
    | .called request => some (s.with a.1 request s.table (start lib request))
    | _ => none
  | some call => (advance lib a.1 call.request s.table call.stage a.2).map fun result =>
      s.with a.1 call.request result.2 result.1

/-- The system before the first call. -/
def initial : World where
  table := { rows := [], nextId := 1 }
  calls := fun _ => none

/-- The row about a call. -/
def Table.rowOf (table : Table) (i : ℕ) : Option SkillExecution := table.rows.find? (·.call = i)

/-- **The ids are attributed correctly**: a call that has returned an id has returned that of the row about it, or null
if there is no such row. -/
def Attributed (s : World) : Prop :=
  ∀ i call, s.calls i = some call → ∀ executionId, call.stage = .returned executionId →
    executionId = (s.table.rowOf i).map SkillExecution.id

/-- **A call is not mistaken**: where it looks for its row and returns what it finds, every row of another call of the
skill, the session and the user is older than its own; and there is no such row if it has none. -/
def Unmistaken (s : World) (a : ℕ × Event) : Prop :=
  ∀ call, s.calls a.1 = some call → ∀ result, call.stage = .querying result → result.all lib.dumps = true → a.2 = .done →
    call.request.hasDb = true → ∀ row ∈ s.table.rows, row.call ≠ a.1 → call.request.selects row = true →
      ∃ own ∈ s.table.rows, own.call = a.1 ∧ row.id < own.id

end Calls

/-! ## What a step can do -/

/-- The executor is at work. -/
def Stage.isExecuting : Stage → Bool
  | .executing _ | .inserting _ | .committing _ _ | .rollingBack _ => true
  | _ => false

/-- The executor is done, or has not come to its work. -/
def Stage.isOver : Stage → Bool
  | .querying _ | .returned _ | .raised => true
  | _ => false

/-- The number of a row that is not yet committed. -/
def Stage.pending : Stage → Option ℕ
  | .committing _ id => some id
  | _ => none

variable {lib : Libraries} {s t : World} {i : ℕ} {request : Request} {table table' : Table} {stage stage' : Stage}
  {e : Event} {log : Log}

theorem start_isOver_or : start lib request = .lookup ∨ start lib request = .querying none := by
  rw [start]
  split
  · exact .inr rfl
  · exact .inl rfl

theorem afterLookup_cases (skill : Option Row) : afterLookup lib request skill = .returned none ∨
    afterLookup lib request skill = .querying none ∨ ∃ timeout, afterLookup lib request skill = .executing timeout := by
  unfold afterLookup
  cases skill with
  | none => exact .inl rfl
  | some skill =>
    dsimp only
    split
    · split
      · split
        · exact .inr (.inr ⟨_, rfl⟩)
        · exact .inr (.inl rfl)
      · exact .inr (.inl rfl)
    · exact .inl rfl

theorem afterLog_eq : ∃ result, afterLog lib request log = .querying result := by
  unfold afterLog
  split
  · exact ⟨_, rfl⟩
  · exact ⟨_, rfl⟩

theorem afterRollback_cases (failure : Failure) : (∃ log', afterRollback lib log failure = .inserting log') ∨
    afterRollback lib log failure = .querying none := by
  unfold afterRollback
  split
  · exact .inl ⟨_, rfl⟩
  · exact .inr rfl

/-- **A quiet step** leaves the table alone, and goes on with no number of a row. -/
structure Quiet (lib : Libraries) (request : Request) (table : Table) (stage : Stage) (e : Event) (stage' : Stage) :
    Prop where
  pending : stage'.pending = none
  isOver : stage.isOver = true → stage'.isOver = true
  isExecuting : stage'.isExecuting = true → stage.isExecuting = true ∨ request.hasDb = true
  returned : ∀ executionId, stage' = .returned executionId → executionId = none ∧ stage = .lookup ∨
    ∃ result, stage = .querying result ∧ result.all lib.dumps = true ∧ e = .done ∧
      executionId = getLatestExecutionId request table.rows

/-- A step to a stage that has no number of a row and returns nothing. -/
theorem Quiet.of_plain (hpending : stage'.pending = none) (hover : stage.isOver = true → stage'.isOver = true)
    (hexecuting : stage'.isExecuting = true → stage.isExecuting = true ∨ request.hasDb = true)
    (hreturned : ∀ executionId, stage' ≠ .returned executionId) : Quiet lib request table stage e stage' where
  pending := hpending
  isOver := hover
  isExecuting := hexecuting
  returned executionId h := absurd h (hreturned executionId)

/-- **What a call can do**: a quiet step, the insert of a row, or its commit. -/
theorem advance_cases (h : advance lib i request table stage e = some (stage', table')) :
    table' = table ∧ Quiet lib request table stage e stage' ∨
    (∃ log, stage = .inserting log ∧ stage' = .committing log table.nextId ∧
      table' = { table with nextId := table.nextId + 1 }) ∨
    ∃ log id, stage = .committing log id ∧ stage' = afterLog lib request log ∧
      table' = { table with rows := table.rows ++ [newRow i request log id] } := by
  unfold advance at h
  split at h
  case h_1 skill =>
    split at h
    · rename_i hdb
      cases h
      refine .inl ⟨rfl, ?_⟩
      obtain hstage | hstage | ⟨timeout, hstage⟩ := @afterLookup_cases lib request skill
      · rw [hstage]
        exact ⟨rfl, fun h => rfl, fun h => .inr hdb, fun executionId h => .inl ⟨(Stage.returned.inj h).symm, rfl⟩⟩
      · rw [hstage]
        exact .of_plain rfl (fun h => rfl) (fun h => .inr hdb) (fun executionId h => by cases h)
      · rw [hstage]
        exact .of_plain rfl (fun h => by cases h) (fun h => .inr hdb) (fun executionId h => by cases h)
    · cases h
  case h_5 log =>
    cases h
    exact .inr (.inl ⟨log, rfl, rfl, rfl⟩)
  case h_7 log id =>
    cases h
    exact .inr (.inr ⟨log, id, rfl, rfl, rfl⟩)
  case h_9 log =>
    cases h
    obtain ⟨result, hstage⟩ := @afterLog_eq lib request log
    rw [hstage]
    exact .inl ⟨rfl, .of_plain rfl (fun h => rfl) (fun h => .inl rfl) (fun executionId h => by cases h)⟩
  case h_10 log failure =>
    cases h
    refine .inl ⟨rfl, ?_⟩
    obtain ⟨log', hstage⟩ | hstage := @afterRollback_cases lib log failure
    · rw [hstage]
      exact .of_plain rfl (fun h => by cases h) (fun h => .inl rfl) (fun executionId h => by cases h)
    · rw [hstage]
      exact .of_plain rfl (fun h => rfl) (fun h => .inl rfl) (fun executionId h => by cases h)
  case h_11 result =>
    cases h
    refine .inl ⟨rfl, ?_⟩
    unfold afterQuery
    split
    · rename_i hdumps
      refine ⟨rfl, fun h => rfl, ?_, fun executionId h => .inr ⟨result, rfl, hdumps, rfl, ?_⟩⟩
      · intro h
        cases h
      · exact (Stage.returned.inj h).symm
    · exact .of_plain rfl (fun h => rfl) (fun h => by cases h) (fun executionId h => by cases h)
  case h_14 => cases h
  all_goals
    cases h
    refine .inl ⟨rfl, .of_plain rfl ?_ ?_ ?_⟩
    · intro h
      first | rfl | cases h
    · intro h
      first | exact .inl rfl | cases h
    · intro executionId h
      cases h

/-- **What the system can do**: a call is made, or one of the calls goes on. -/
theorem step_cases {a : ℕ × Event} (h : step lib s a = some t) :
    (s.calls a.1 = none ∧ ∃ request, a.2 = .called request ∧ t = s.with a.1 request s.table (start lib request)) ∨
    ∃ call stage' table', s.calls a.1 = some call ∧
      advance lib a.1 call.request s.table call.stage a.2 = some (stage', table') ∧
      t = s.with a.1 call.request table' stage' := by
  unfold step at h
  split at h
  · rename_i hnone
    split at h
    · rename_i request hcalled
      exact .inl ⟨hnone, request, hcalled, (Option.some.inj h).symm⟩
    · cases h
  · rename_i call hcall
    obtain ⟨⟨stage', table'⟩, hadvance, rfl⟩ := Option.map_eq_some_iff.mp h
    exact .inr ⟨call, stage', table', hcall, hadvance, rfl⟩

/-! ## The invariant -/

/-- **What holds of the table and the calls**: the numbers of the rows and of those that are not yet committed come from
the sequence and are used once; a row is about a call that is over, and there is one row at most about a call. -/
structure Consistent (s : World) : Prop where
  id_lt : ∀ row ∈ s.table.rows, row.id < s.table.nextId
  nodup_ids : (s.table.rows.map SkillExecution.id).Nodup
  pending : ∀ i call, s.calls i = some call → ∀ id, call.stage.pending = some id →
    id < s.table.nextId ∧ id ∉ s.table.rows.map SkillExecution.id
  pending_inj : ∀ i j call other, s.calls i = some call → s.calls j = some other →
    ∀ id, call.stage.pending = some id → other.stage.pending = some id → i = j
  hasDb : ∀ i call, s.calls i = some call → call.stage.isExecuting = true → call.request.hasDb = true
  written : ∀ row ∈ s.table.rows, ∃ call, s.calls row.call = some call ∧ call.stage.isOver = true ∧
    call.request.hasDb = true ∧ call.request.selects row = true
  once : ∀ row ∈ s.table.rows, ∀ other ∈ s.table.rows, row.call = other.call → row = other

theorem Consistent.initial : Consistent initial where
  id_lt := List.forall_mem_nil _
  nodup_ids := List.nodup_nil
  pending _ _ h := by cases h
  pending_inj _ _ _ _ h := by cases h
  hasDb _ _ h := by cases h
  written := List.forall_mem_nil _
  once := List.forall_mem_nil _

theorem calls_with {j : ℕ} {call : Call} (h : (s.with i request table stage).calls j = some call) :
    j = i ∧ call = ⟨request, stage⟩ ∨ j ≠ i ∧ s.calls j = some call := by
  rcases update_eq_some h with ⟨hj, hcall⟩ | h
  · exact .inl ⟨hj, (Option.some.inj hcall).symm⟩
  · exact .inr h

theorem calls_with_self : (s.with i request table stage).calls i = some ⟨request, stage⟩ :=
  Function.update_self ..

theorem calls_with_of_ne {j : ℕ} (h : j ≠ i) : (s.with i request table stage).calls j = s.calls j :=
  Function.update_of_ne h ..

/-- The row of a log is one that its call looks for. -/
theorem selects_newRow (id : ℕ) : request.selects (newRow i request log id) = true := by
  have hself (value : Option ℤ) : value.all (fun n => decide (value = some n)) = true := by
    cases value with
    | none => rfl
    | some n => exact decide_eq_true rfl
  rw [Request.selects, Bool.and_eq_true, Bool.and_eq_true]
  exact ⟨⟨decide_eq_true rfl, hself request.sessionId⟩, hself request.userId⟩

/-- A call that has not come to an end has no row. -/
theorem Consistent.not_mem_of_not_isOver (hs : Consistent s) {call : Call} (hcall : s.calls i = some call)
    (hover : call.stage.isOver = false) : ∀ row ∈ s.table.rows, row.call ≠ i := by
  intro row hrow hi
  obtain ⟨other, hother, hisOver, -⟩ := hs.written row hrow
  rw [hi, hcall, Option.some_inj] at hother
  rw [hother, hisOver] at hover
  cases hover

/-- A quiet step of a call, or its first one. -/
theorem Consistent.with_quiet (hs : Consistent s) (hpending : stage.pending = none)
    (hexecuting : stage.isExecuting = true → request.hasDb = true)
    (hwritten : ∀ call, s.calls i = some call →
      call.request = request ∧ (call.stage.isOver = true → stage.isOver = true)) :
    Consistent (s.with i request s.table stage) where
  id_lt := hs.id_lt
  nodup_ids := hs.nodup_ids
  pending j call hj id hid := by
    rcases calls_with hj with ⟨-, rfl⟩ | ⟨-, hj⟩
    · rw [hpending] at hid
      cases hid
    · exact hs.pending j call hj id hid
  pending_inj j k call other hj hk id hid hid' := by
    rcases calls_with hj with ⟨-, rfl⟩ | ⟨-, hj⟩
    · rw [hpending] at hid
      cases hid
    rcases calls_with hk with ⟨-, rfl⟩ | ⟨-, hk⟩
    · rw [hpending] at hid'
      cases hid'
    · exact hs.pending_inj j k call other hj hk id hid hid'
  hasDb j call hj h := by
    rcases calls_with hj with ⟨-, rfl⟩ | ⟨-, hj⟩
    · exact hexecuting h
    · exact hs.hasDb j call hj h
  written row hrow := by
    obtain ⟨call, hcall, hover, hdb, hselects⟩ := hs.written row hrow
    by_cases hi : row.call = i
    · subst hi
      obtain ⟨rfl, hkeeps⟩ := hwritten call hcall
      exact ⟨_, calls_with_self, hkeeps hover, hdb, hselects⟩
    · exact ⟨call, (calls_with_of_ne hi).trans hcall, hover, hdb, hselects⟩
  once := hs.once

/-- A row is inserted, with the next number. -/
theorem Consistent.with_insert (hs : Consistent s) {call : Call} (hcall : s.calls i = some call)
    (hover : call.stage.isOver = false) (hdb : call.request.hasDb = true) :
    Consistent (s.with i call.request { s.table with nextId := s.table.nextId + 1 }
      (.committing log s.table.nextId)) where
  id_lt row hrow := Nat.lt_succ_of_lt (hs.id_lt row hrow)
  nodup_ids := hs.nodup_ids
  pending j other hj id hid := by
    rcases calls_with hj with ⟨-, rfl⟩ | ⟨-, hj⟩
    · obtain rfl := Option.some.inj hid
      refine ⟨Nat.lt_succ_self _, fun hmem => ?_⟩
      obtain ⟨row, hrow, hrowId⟩ := List.mem_map.mp hmem
      exact (hs.id_lt row hrow).ne hrowId
    · obtain ⟨hlt, hnew⟩ := hs.pending j other hj id hid
      exact ⟨Nat.lt_succ_of_lt hlt, hnew⟩
  pending_inj j k first second hj hk id hid hid' := by
    -- the new number is larger than those in use
    rcases calls_with hj with ⟨hji, rfl⟩ | ⟨-, hfirst⟩ <;> rcases calls_with hk with ⟨hki, rfl⟩ | ⟨-, hsecond⟩
    · rw [hji, hki]
    · obtain rfl := Option.some.inj hid
      exact absurd (hs.pending k second hsecond _ hid').1 (lt_irrefl _)
    · obtain rfl := Option.some.inj hid'
      exact absurd (hs.pending j first hfirst _ hid).1 (lt_irrefl _)
    · exact hs.pending_inj j k first second hfirst hsecond id hid hid'
  hasDb j other hj h := by
    rcases calls_with hj with ⟨-, rfl⟩ | ⟨-, hj⟩
    · exact hdb
    · exact hs.hasDb j other hj h
  written row hrow := by
    obtain ⟨other, hother, h⟩ := hs.written row hrow
    have hi := hs.not_mem_of_not_isOver hcall hover row hrow
    exact ⟨other, (calls_with_of_ne hi).trans hother, h⟩
  once := hs.once

/-- A row is committed. -/
theorem Consistent.with_commit (hs : Consistent s) {call : Call} {id : ℕ} (hcall : s.calls i = some call)
    (hstage : call.stage = .committing log id) (hpending : stage.pending = none) (hover : stage.isOver = true)
    (hexecuting : stage.isExecuting = false) :
    Consistent (s.with i call.request
      { s.table with rows := s.table.rows ++ [newRow i call.request log id] } stage) := by
  have hid : call.stage.pending = some id := by rw [hstage]; rfl
  have hdb : call.request.hasDb = true := hs.hasDb i call hcall (by rw [hstage]; rfl)
  obtain ⟨hlt, hnew⟩ := hs.pending i call hcall id hid
  have hothers := hs.not_mem_of_not_isOver hcall (by rw [hstage]; rfl)
  refine ⟨?_, ?_, ?_, ?_, ?_, ?_, ?_⟩
  · intro row hrow
    rcases List.mem_append.mp hrow with hold | hadded
    · exact hs.id_lt row hold
    · rw [List.mem_singleton.mp hadded]
      exact hlt
  · change (List.map SkillExecution.id (s.table.rows ++ [newRow i call.request log id])).Nodup
    rw [List.map_append, List.map_singleton, List.nodup_append]
    refine ⟨hs.nodup_ids, List.nodup_singleton _, fun m hm m' hm' heq => hnew ?_⟩
    rw [heq, List.mem_singleton.mp hm'] at hm
    exact hm
  · intro j other hj m hm
    rcases calls_with hj with ⟨-, rfl⟩ | ⟨hne, hother⟩
    · rw [hpending] at hm
      cases hm
    · refine ⟨(hs.pending j other hother m hm).1, fun hmem => ?_⟩
      change m ∈ List.map SkillExecution.id (s.table.rows ++ [newRow i call.request log id]) at hmem
      rw [List.map_append, List.map_singleton] at hmem
      rcases List.mem_append.mp hmem with hold | hadded
      · exact (hs.pending j other hother m hm).2 hold
      · obtain rfl : m = id := List.mem_singleton.mp hadded
        exact hne (hs.pending_inj j i other call hother hcall m hm hid)
  · intro j k first second hj hk m hm hm'
    rcases calls_with hj with ⟨-, rfl⟩ | ⟨-, hj⟩
    · rw [hpending] at hm
      cases hm
    rcases calls_with hk with ⟨-, rfl⟩ | ⟨-, hk⟩
    · rw [hpending] at hm'
      cases hm'
    · exact hs.pending_inj j k first second hj hk m hm hm'
  · intro j other hj h
    rcases calls_with hj with ⟨-, rfl⟩ | ⟨-, hj⟩
    · rw [hexecuting] at h
      cases h
    · exact hs.hasDb j other hj h
  · intro row hrow
    rcases List.mem_append.mp hrow with hold | hadded
    · obtain ⟨other, hother, h⟩ := hs.written row hold
      exact ⟨other, (calls_with_of_ne (hothers row hold)).trans hother, h⟩
    · rw [List.mem_singleton.mp hadded]
      exact ⟨_, calls_with_self, hover, hdb, selects_newRow id⟩
  · intro row hrow other hother heq
    rcases List.mem_append.mp hrow with hrow | hrow <;> rcases List.mem_append.mp hother with hother | hother
    · exact hs.once row hrow other hother heq
    · rw [List.mem_singleton.mp hother] at heq
      exact absurd heq (hothers row hrow)
    · rw [List.mem_singleton.mp hrow] at heq
      exact absurd heq.symm (hothers other hother)
    · rw [List.mem_singleton.mp hrow, List.mem_singleton.mp hother]

/-- **Every step keeps the invariant.** -/
theorem Consistent.step (hs : Consistent s) {a : ℕ × Event} (h : step lib s a = some t) : Consistent t := by
  rcases step_cases h with ⟨hnone, request, -, rfl⟩ | ⟨call, stage', table', hcall, hadvance, rfl⟩
  · refine hs.with_quiet ?_ ?_ fun call hcall => ?_
    · rcases @start_isOver_or lib request with hstart | hstart <;> rw [hstart] <;> rfl
    · rcases @start_isOver_or lib request with hstart | hstart <;> rw [hstart] <;> intro hfalse <;> cases hfalse
    · rw [hnone] at hcall
      cases hcall
  rcases advance_cases hadvance with ⟨rfl, hquiet⟩ | ⟨log, hstage, rfl, rfl⟩ | ⟨log, id, hstage, rfl, rfl⟩
  · refine hs.with_quiet hquiet.pending (fun hexecuting => ?_) fun other hother => ?_
    · rcases hquiet.isExecuting hexecuting with hbefore | hdb
      · exact hs.hasDb a.1 call hcall hbefore
      · exact hdb
    · rw [hcall, Option.some_inj] at hother
      subst hother
      exact ⟨rfl, hquiet.isOver⟩
  · exact hs.with_insert hcall (by rw [hstage]; rfl) (hs.hasDb a.1 call hcall (by rw [hstage]; rfl))
  · obtain ⟨result, hafter⟩ := @afterLog_eq lib call.request log
    rw [hafter]
    exact hs.with_commit hcall hstage rfl rfl rfl

/-! ## Whose row is the latest -/

theorem mem_of_rowOf {row : SkillExecution} (h : table.rowOf i = some row) : row ∈ table.rows ∧ row.call = i := by
  rw [Table.rowOf] at h
  have hi := List.find?_some h
  exact ⟨List.mem_of_find?_eq_some h, of_decide_eq_true hi⟩

/-- The latest number, among those that a query selects. -/
theorem latest_eq_some_iff {rows : List SkillExecution} {id : ℕ} :
    ((rows.filter request.selects).map SkillExecution.id).max? = some id ↔
      (∃ row ∈ rows, request.selects row = true ∧ row.id = id) ∧
        ∀ row ∈ rows, request.selects row = true → row.id ≤ id := by
  rw [List.max?_eq_some_iff]
  simp only [List.mem_map, List.mem_filter, and_assoc, forall_exists_index, and_imp]
  constructor
  · rintro ⟨⟨row, hrow, hselects, rfl⟩, hle⟩
    exact ⟨⟨row, hrow, hselects, rfl⟩, fun other hother h => hle _ other hother h rfl⟩
  · rintro ⟨⟨row, hrow, hselects, rfl⟩, hle⟩
    refine ⟨⟨row, hrow, hselects, rfl⟩, ?_⟩
    rintro _ other hother h rfl
    exact hle other hother h

theorem latest_eq_none_iff {rows : List SkillExecution} :
    ((rows.filter request.selects).map SkillExecution.id).max? = none ↔
      ∀ row ∈ rows, ¬ request.selects row = true := by
  rw [List.max?_eq_none_iff, List.map_eq_nil_iff, List.filter_eq_nil_iff]

/-- **The query finds the call's own row** just if the rows of other calls that it selects are older. -/
theorem Consistent.latest_eq_iff (hs : Consistent s) {call : Call} (hcall : s.calls i = some call) :
    getLatestExecutionId call.request s.table.rows = (s.table.rowOf i).map SkillExecution.id ↔
      (call.request.hasDb = true → ∀ row ∈ s.table.rows, row.call ≠ i → call.request.selects row = true →
        ∃ own ∈ s.table.rows, own.call = i ∧ row.id < own.id) := by
  unfold getLatestExecutionId
  have hown : ∀ row ∈ s.table.rows, row.call = i → call.request.hasDb = true ∧ call.request.selects row = true := by
    intro row hrow hi
    obtain ⟨other, hother, -, h⟩ := hs.written row hrow
    rw [hi, hcall, Option.some_inj] at hother
    rwa [hother]
  cases hrow : s.table.rowOf i with
  | none =>
    have hnoRow : ∀ row ∈ s.table.rows, row.call ≠ i := by
      intro row hmem hi
      exact List.find?_eq_none.mp hrow row hmem (decide_eq_true hi)
    rw [Option.map_none]
    split
    · rename_i hdb
      rw [latest_eq_none_iff]
      constructor
      · intro h _ row hmem _ hselects
        exact absurd hselects (h row hmem)
      · intro h row hmem hselects
        obtain ⟨own, hownMem, hownCall, -⟩ := h hdb row hmem (hnoRow row hmem) hselects
        exact hnoRow own hownMem hownCall
    · rename_i hdb
      exact iff_of_true rfl fun h => absurd h hdb
  | some own =>
    obtain ⟨hmem, hi⟩ := mem_of_rowOf hrow
    obtain ⟨hdb, hselects⟩ := hown own hmem hi
    rw [Option.map_some, if_pos hdb, latest_eq_some_iff]
    constructor
    · rintro ⟨-, hle⟩ - row hrowMem hne hrowSelects
      refine ⟨own, hmem, hi, lt_of_le_of_ne (hle row hrowMem hrowSelects) fun hid => hne ?_⟩
      rw [List.inj_on_of_nodup_map hs.nodup_ids hrowMem hmem hid, hi]
    · intro h
      refine ⟨⟨own, hmem, hselects, rfl⟩, fun row hrowMem hrowSelects => ?_⟩
      by_cases hrowCall : row.call = i
      · rw [hs.once row hrowMem own hmem (hrowCall.trans hi.symm)]
      · obtain ⟨own', hmem', hi', hlt⟩ := h hdb row hrowMem hrowCall hrowSelects
        rw [← hs.once own' hmem' own hmem (hi'.trans hi.symm)]
        exact hlt.le

/-! ## Attribution -/

theorem rowOf_append_of_ne {row : SkillExecution} (h : row.call ≠ i) :
    Table.rowOf { table with rows := table.rows ++ [row] } i = table.rowOf i := by
  rw [Table.rowOf, Table.rowOf, List.find?_append, List.find?_singleton, if_neg (by simpa using h), Option.or_none]

/-- The other calls keep what they have returned, and the rows about them. -/
theorem attributed_with_iff (hs : Attributed s) (hrows : ∀ j ≠ i, table.rowOf j = s.table.rowOf j) :
    Attributed (s.with i request table stage) ↔
      ∀ executionId, stage = .returned executionId → executionId = (table.rowOf i).map SkillExecution.id := by
  constructor
  · exact fun h => h i _ calls_with_self
  · intro h j call hj executionId hreturned
    rcases calls_with hj with ⟨rfl, rfl⟩ | ⟨hne, hcall⟩
    · exact h executionId hreturned
    · change executionId = (table.rowOf j).map SkillExecution.id
      rw [hrows j hne]
      exact hs j call hcall executionId hreturned

/-- A call in a stage from which it cannot return with what it finds is not mistaken. -/
theorem unmistaken_of_ne {a : ℕ × Event} {call : Call} (hcall : s.calls a.1 = some call)
    (h : ∀ result, call.stage ≠ .querying result) : Unmistaken lib s a := by
  intro other hother result hstage
  rw [hcall, Option.some_inj] at hother
  exact absurd (hother ▸ hstage) (h result)

/-- **One step**: the ids stay attributed correctly just if the call is not mistaken. -/
theorem attributed_step_iff (hs : Consistent s) (hattributed : Attributed s) {a : ℕ × Event}
    (h : step lib s a = some t) : Attributed t ↔ Unmistaken lib s a := by
  rcases step_cases h with ⟨hnone, request, -, rfl⟩ | ⟨call, stage', table', hcall, hadvance, rfl⟩
  · refine iff_of_true ((attributed_with_iff hattributed fun _ _ => rfl).mpr fun executionId hstart => ?_) ?_
    · rcases @start_isOver_or lib request with hlookup | hquerying
      · rw [hlookup] at hstart
        cases hstart
      · rw [hquerying] at hstart
        cases hstart
    · intro call hcall
      rw [hnone] at hcall
      cases hcall
  rcases advance_cases hadvance with ⟨rfl, hquiet⟩ | ⟨log, hstage, rfl, rfl⟩ | ⟨log, id, hstage, rfl, rfl⟩
  · rw [attributed_with_iff hattributed fun _ _ => rfl]
    constructor
    · intro hgood other hother result hstage hdumps hdone
      rw [hcall, Option.some_inj] at hother
      subst hother
      rw [hstage, hdone, advance, Option.some_inj, Prod.mk.injEq, afterQuery, if_pos hdumps] at hadvance
      exact (hs.latest_eq_iff hcall).mp (hgood _ hadvance.1.symm)
    · intro hunmistaken executionId hreturned
      rcases hquiet.returned executionId hreturned with ⟨rfl, hlookup⟩ | ⟨result, hstage, hdumps, hdone, rfl⟩
      · have hnoRow := hs.not_mem_of_not_isOver hcall (by rw [hlookup]; rfl)
        have hnone : s.table.rowOf a.1 = none :=
          List.find?_eq_none.mpr fun row hrow hi => hnoRow row hrow (of_decide_eq_true hi)
        rw [hnone]
        rfl
      · exact (hs.latest_eq_iff hcall).mpr (hunmistaken call hcall result hstage hdumps hdone)
  · refine iff_of_true ((attributed_with_iff hattributed fun _ _ => rfl).mpr fun executionId h => by cases h) ?_
    exact unmistaken_of_ne hcall fun result h => by rw [hstage] at h; cases h
  · obtain ⟨result, hafter⟩ := @afterLog_eq lib call.request log
    have hrows : ∀ j ≠ a.1, Table.rowOf
        { s.table with rows := s.table.rows ++ [newRow a.1 call.request log id] } j = s.table.rowOf j :=
      fun j hj => rowOf_append_of_ne (Ne.symm hj)
    refine iff_of_true ((attributed_with_iff hattributed hrows).mpr fun executionId h => ?_) ?_
    · rw [hafter] at h
      cases h
    · exact unmistaken_of_ne hcall fun result h => by rw [hstage] at h; cases h

/-- **The ids of all calls are attributed correctly** just in the runs in which no call is mistaken: where a call looks
for its row, none of the same skill, session and user is newer than its own, and there is none if it has no row. -/
theorem attributed_iff {as : List (ℕ × Event)} :
    Run (step lib) (fun s a => ∃ t ∈ step lib s a, Attributed t) initial as t ↔
      Run (step lib) (Unmistaken lib) initial as t :=
  Run.leadsTo_iff (I := fun s => Consistent s ∧ Attributed s)
    (fun _ _ _ hs h => attributed_step_iff hs.1 hs.2 h)
    (fun _ _ _ hs h hgood => ⟨hs.1.step h, hgood⟩)
    ⟨.initial, fun _ _ h => by cases h⟩

/-! ## A call with an unknown parameter -/

/-- A run-time environment in which nothing raises. -/
def sampleLibraries : Libraries where
  py := sampleRuntime.py
  re := sampleRuntime.re
  int := fun _ => none
  str := fun _ => []
  visualizes := fun _ _ => true
  dumps := fun _ => true

/-- A call of the skill without parameters in a session. -/
def listRequest (arguments : Dict) : Request where
  skillId := "list_datasource".toList
  arguments := arguments
  hasDb := true
  userId := some 1
  sessionId := some 7

/-- A call is executed; a later one has a parameter that the skill does not know. -/
def unknownParameterEvents : List (ℕ × Event) := [
  (0, .called (listRequest [])), (0, .found (some noParameters)), (0, .ended (.obj [])), (0, .done), (0, .done),
  (0, .done), (1, .called (listRequest [("host", .int 1)])), (1, .found (some noParameters)), (1, .done)]

/-- The id that a call has returned. -/
def World.returnedId (s : World) (i : ℕ) : Option ℕ :=
  match s.calls i with
  | some ⟨_, .returned executionId⟩ => executionId
  | _ => none

/-- **A call that wrote no row returns the id of an earlier one.** -/
theorem unknownParameter_not_attributed :
    ∃ t, Run (step sampleLibraries) Always initial unknownParameterEvents t ∧
      t.returnedId 1 = some 1 ∧ t.table.rowOf 1 = none ∧ ¬ Attributed t := by
  have hends : (exec (step sampleLibraries) Always initial unknownParameterEvents).any
      (fun t => t.returnedId 1 = some 1 && (t.table.rowOf 1).isNone) = true := by with_unfolding_all decide
  obtain ⟨t, hrun, ht⟩ := Run.exists_of_any hends
  rw [Bool.and_eq_true, decide_eq_true_eq, Option.isNone_iff_eq_none] at ht
  obtain ⟨hreturned, hnone⟩ := ht
  refine ⟨t, hrun, hreturned, hnone, fun hattributed => ?_⟩
  unfold World.returnedId at hreturned
  split at hreturned
  · rename_i request executionId hcall
    have h := hattributed 1 _ hcall executionId rfl
    rw [hnone, hreturned] at h
    cases h
  · cases hreturned

end DBClaw.Skills.ExecutionIds
