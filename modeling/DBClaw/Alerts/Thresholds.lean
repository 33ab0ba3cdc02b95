import DBClaw.Alerts.Records
import Mathlib.Data.List.AList
import Mathlib.Data.List.Sort
import Mathlib.Data.List.SplitBy
import Mathlib.Data.Rat.Cast.Order

/-! # The threshold checker
`ThresholdChecker` for one datasource: it remembers since when each level of a metric is exceeded and
when it last triggered, and emits a violation once a level has been exceeded for its duration and the
last trigger is an hour old. What it emits starts that hour anew, whether or not the caller makes an
alert of it. -/

namespace DBClaw.Alerts

/-! ## Configuration -/

/-- An entry of a rule's `levels`. -/
structure Level where
  severity : Option Severity := none
  threshold : Option PyFloat := none
  /-- In seconds. -/
  duration : Option ℚ := none
  deriving DecidableEq, Repr

/-- A value of `threshold_rules`: a rule with levels, a rule with one threshold, or the custom
expression. -/
structure Rule where
  levels : Option (List Level) := none
  threshold : Option PyFloat := none
  expression : Option Text := none
  duration : Option ℚ := none
  deriving DecidableEq, Repr

/-- `threshold_rules`. -/
abbrev ThresholdRules := AList fun _ : String => Rule

/-- The two functions of Python that the checker calls on text: `float` (`none` where it raises
`ValueError`) and `eval` with the metrics as its variables, as far as the result is `True`. -/
structure Python where
  float : Text → Option PyFloat
  evalIsTrue : Text → List (String × PyFloat) → Bool

/-! ## State -/

/-- A violation as the checker emits it; one of the custom expression has neither a severity nor a
value nor a threshold. -/
structure Violation where
  metricName : String
  severity : Option Severity := none
  currentValue : Option PyFloat := none
  threshold : Option PyFloat := none
  duration : ℚ
  violationDuration : Time
  deriving DecidableEq, Repr

/-- The tracking data of one datasource. -/
structure Checker where
  violationStartTimes : AList fun _ : String => Time := ∅
  lastTriggerTimes : AList fun _ : String => Time := ∅
  violationCounts : AList fun _ : String => ℕ := ∅
  deriving Inhabited

/-- `_trigger_cooldown`, in seconds. -/
def triggerCooldown : Time := Time.seconds 3600

namespace Checker

/-- A key is tracked since `now` unless it is tracked already. -/
def start (c : Checker) (key : String) (now : Time) : Checker :=
  if (c.violationStartTimes.lookup key).isSome then c
  else { c with violationStartTimes := c.violationStartTimes.insert key now }

/-- A trigger is noted. -/
def trigger (c : Checker) (key : String) (now : Time) : Checker :=
  { c with
    violationCounts := c.violationCounts.insert key 0
    lastTriggerTimes := c.lastTriggerTimes.insert key now }

/-- A key is no longer tracked; its last trigger stays. -/
def drop (c : Checker) (key : String) : Checker :=
  { c with
    violationStartTimes := c.violationStartTimes.erase key
    violationCounts := c.violationCounts.insert key 0 }

/-- Everything about a key is forgotten. -/
def forget (c : Checker) (key : String) : Checker :=
  { c.drop key with lastTriggerTimes := c.lastTriggerTimes.erase key }

/-- Everything about the tracked keys of a kind is forgotten. -/
def forgetAll (c : Checker) (kind : String → Bool) : Checker :=
  (c.violationStartTimes.keys.filter kind).foldl forget c

/-- The last trigger of the key is less than an hour old. -/
def coolingDown (c : Checker) (key : String) (now : Time) : Bool :=
  match c.lastTriggerTimes.lookup key with
  | some last => now - last < triggerCooldown
  | none => false

/-- How long the key has been tracked. -/
def trackedFor (c : Checker) (key : String) (now : Time) : Time :=
  now - (c.violationStartTimes.lookup key).getD now

end Checker

/-! ## Metric values -/

/-- `_to_float`. -/
def toFloat (python : Python) : Json → Option PyFloat
  | .bool b => some (.fin (if b then 1 else 0))
  | .int n => some (.fin n)
  | .float x => some x
  | .str s => python.float (if s.getLast? = some '%' then s.dropLast else s)
  | .null | .arr _ | .obj _ => none

/-- The value at a dotted path. -/
def nestedValue (current : Json) : List String → Option Json
  | [] => some current
  | part :: parts =>
    match current with
    | .obj fields => (fields.lookup part).bind fun x => nestedValue x parts
    | _ => none

/-- `_extract_metric_value` without the alternative names. -/
def extractNamed (python : Python) (metrics : Dict) (metricName : String) : Option PyFloat :=
  match metrics.lookup metricName with
  | some value => toFloat python value
  | none =>
    if '.' ∈ metricName.toList then
      (nestedValue (.obj metrics) ((metricName.toList.splitOn '.').map String.ofList)).bind
        (toFloat python)
    else none

/-- The alternative names of a metric. -/
def metricMappings : List (String × List String) := [
  ("cpu_usage", ["cpu_usage_percent", "cpu.usage_percent", "cpu_percent"]),
  ("memory_usage", ["memory_usage_percent", "memory.usage_percent", "mem_percent"]),
  ("disk_usage", ["disk_usage_percent", "disk.usage_percent", "disk_percent"]),
  ("connections_active", ["threads_running", "active_connections", "connection_count"])]

/-- `_extract_metric_value`. -/
def extractMetricValue (python : Python) (metrics : Dict) (metricName : String) :
    Option PyFloat :=
  if (metrics.lookup metricName).isSome || '.' ∈ metricName.toList then
    extractNamed python metrics metricName
  else ((metricMappings.lookup metricName).getD []).findSome? (extractNamed python metrics)

/-- `_prepare_eval_context`. -/
def prepareEvalContext (python : Python) (metrics : Dict) : List (String × PyFloat) :=
  ["cpu_usage", "memory_usage", "disk_usage", "connections_active", "qps", "tps"].filterMap
    fun name => (extractMetricValue python metrics name).map fun value => (name, value)

/-! ## Checking -/

/-- The order by which the levels are sorted. -/
def Level.order (level : Level) : ℕ := (level.severity.getD .low).order

/-- The levels, the most severe first. -/
def sortedLevels (levels : List Level) : List Level :=
  levels.insertionSort fun a b => b.order ≤ a.order

/-- The value is above the level's threshold. -/
def Level.isViolated (level : Level) (value : PyFloat) : Bool :=
  match level.threshold with
  | some threshold => threshold.lt value
  | none => false

/-- The key under which a level of a metric is tracked. -/
def metricKey (metricName : String) (severity : Severity) : String :=
  metricName ++ ":" ++ severity.text

/-- The key belongs to a level of the metric. -/
def isLevelKey (metricName key : String) : Bool :=
  (metricName.toList ++ [':']).isPrefixOf key.toList

/-- **`_check_multi_level_threshold`.** -/
def checkMultiLevelThreshold (python : Python) (c : Checker) (metricName : String)
    (metrics : Dict) (levels : List Level) (now : Time) : Checker × List Violation :=
  match extractMetricValue python metrics metricName with
  | none => (c.forgetAll fun key => key == metricName || isLevelKey metricName key, [])
  | some value =>
    match (sortedLevels levels).find? (·.isViolated value) with
    | none => (c.forgetAll (isLevelKey metricName), [])
    | some level =>
      let severity := level.severity.getD .medium
      let key := metricKey metricName severity
      let duration := level.duration.getD 60
      let c₁ := c.start key now
      if duration * 1000000 ≤ (c₁.trackedFor key now : ℚ) then
        if c₁.coolingDown key now then (c₁, [])
        else
          let c₂ := ((sortedLevels levels).filter (· ≠ level)).foldl
            (fun c other => c.drop (metricKey metricName (other.severity.getD .low)))
            (c₁.trigger key now)
          (c₂, [{
            metricName := metricName
            severity := some severity
            currentValue := some value
            threshold := level.threshold
            duration := duration
            violationDuration := c₁.trackedFor key now }])
      else (c₁, [])

/-- The metric name of a violation of the custom expression. -/
def customExpression : String := "custom_expression"

/-- **`_check_custom_expression`.** -/
def checkCustomExpression (python : Python) (c : Checker) (metrics : Dict) (rule : Rule)
    (now : Time) : Checker × List Violation :=
  match rule.expression with
  | none | some [] => (c, [])
  | some expression =>
    if python.evalIsTrue expression (prepareEvalContext python metrics) then
      let duration := rule.duration.getD 60
      let c₁ := c.start customExpression now
      if duration * 1000000 ≤ (c₁.trackedFor customExpression now : ℚ) then
        if c₁.coolingDown customExpression now then (c₁, [])
        else (c₁.trigger customExpression now, [{
          metricName := customExpression
          duration := duration
          violationDuration := c₁.trackedFor customExpression now }])
      else (c₁, [])
    else if (c.violationStartTimes.lookup customExpression).isSome then
      (c.forget customExpression, [])
    else (c, [])

/-- The rules with levels, one after another. -/
def checkRules (python : Python) (metrics : Dict) (now : Time) :
    Checker → List (Sigma fun _ : String => Rule) → Checker × List Violation
  | c, [] => (c, [])
  | c, ⟨metricName, rule⟩ :: rules =>
    match rule.levels with
    | none => checkRules python metrics now c rules
    | some levels =>
      let (c₁, found) := checkMultiLevelThreshold python c metricName metrics levels now
      let (c₂, others) := checkRules python metrics now c₁ rules
      (c₂, found ++ others)

/-- **`check_thresholds`**: a custom expression is checked alone, the rules otherwise. -/
def checkThresholds (python : Python) (c : Checker) (metrics : Dict) (rules : ThresholdRules)
    (now : Time) : Checker × List Violation :=
  match rules.lookup customExpression with
  | some rule => checkCustomExpression python c metrics rule now
  | none => checkRules python metrics now c rules.entries

/-! ## What is emitted -/

variable (python : Python) (metrics : Dict) (now : Time)

/-- A metric emits at most one violation, of its own name and with a severity and a value. -/
theorem checkMultiLevelThreshold_emits (c : Checker) (metricName : String) (levels : List Level) :
    (checkMultiLevelThreshold python c metricName metrics levels now).2 = [] ∨
    ∃ v, (checkMultiLevelThreshold python c metricName metrics levels now).2 = [v] ∧
      v.metricName = metricName ∧ v.severity.isSome ∧ v.currentValue.isSome := by
  unfold checkMultiLevelThreshold
  split
  · exact .inl rfl
  · split
    · exact .inl rfl
    · dsimp only
      split
      · split
        · exact .inl rfl
        · exact .inr ⟨_, rfl, rfl, rfl, rfl⟩
      · exact .inl rfl

/-- The rules emit violations of their metrics, each at most once and each with a value. -/
theorem checkRules_emits (rules : List (Sigma fun _ : String => Rule)) (hkeys : rules.keys.Nodup)
    (c : Checker) :
    ((checkRules python metrics now c rules).2.map (·.metricName)).Nodup ∧
    ∀ v ∈ (checkRules python metrics now c rules).2,
      v.metricName ∈ rules.keys ∧ v.currentValue.isSome := by
  induction rules generalizing c with
  | nil => exact ⟨.nil, fun v hv => by cases hv⟩
  | cons entry rules ih =>
    obtain ⟨metricName, rule⟩ := entry
    rw [List.keys_cons, List.nodup_cons] at hkeys
    rw [checkRules]
    cases hlevels : rule.levels with
    | none =>
      obtain ⟨hnodup, hmem⟩ := ih hkeys.2 c
      exact ⟨hnodup, fun v hv => ⟨List.mem_cons_of_mem _ (hmem v hv).1, (hmem v hv).2⟩⟩
    | some levels =>
      dsimp only
      obtain ⟨hnodup, hmem⟩ :=
        ih hkeys.2 (checkMultiLevelThreshold python c metricName metrics levels now).1
      obtain hnone | ⟨v, hv, hname, -, hvalue⟩ :=
        checkMultiLevelThreshold_emits python metrics now c metricName levels
      · rw [hnone, List.nil_append]
        exact ⟨hnodup, fun v hv => ⟨List.mem_cons_of_mem _ (hmem v hv).1, (hmem v hv).2⟩⟩
      · rw [hv]
        simp only [List.singleton_append, List.map_cons, List.nodup_cons, List.mem_map,
          List.mem_cons, forall_eq_or_imp]
        refine ⟨⟨?_, hnodup⟩, ⟨?_, hvalue⟩, fun w hw => ?_⟩
        · rintro ⟨w, hw, hsame⟩
          exact hkeys.1 (by rw [← hname, ← hsame]; exact (hmem w hw).1)
        · rw [hname]
          exact List.mem_cons_self
        · exact ⟨List.mem_cons_of_mem _ (hmem w hw).1, (hmem w hw).2⟩

/-- **What is emitted names each metric at most once**, and has a value unless it is the custom
expression. -/
theorem checkThresholds_emits (c : Checker) (rules : ThresholdRules) :
    ((checkThresholds python c metrics rules now).2.map (·.metricName)).Nodup ∧
    ∀ v ∈ (checkThresholds python c metrics rules now).2,
      v.currentValue = none → v.metricName = customExpression := by
  unfold checkThresholds
  split
  · unfold checkCustomExpression
    split
    · exact ⟨.nil, fun v hv => by cases hv⟩
    · exact ⟨.nil, fun v hv => by cases hv⟩
    · dsimp only
      split
      · split
        · split
          · exact ⟨.nil, fun v hv => by cases hv⟩
          · refine ⟨List.nodup_singleton _, fun v hv _ => ?_⟩
            rw [List.mem_singleton.mp hv]
        · exact ⟨.nil, fun v hv => by cases hv⟩
      · split <;> exact ⟨.nil, fun v hv => by cases hv⟩
  · obtain ⟨hnodup, hmem⟩ := checkRules_emits python metrics now rules.entries rules.nodupKeys c
    refine ⟨hnodup, fun v hv hnone => ?_⟩
    have hvalue := (hmem v hv).2
    rw [hnone] at hvalue
    cases hvalue

end DBClaw.Alerts
