import DBClaw.Alerts.Thresholds
import DBClaw.Alerts.Events

/-! # Collection cycles
What one collection cycle of a datasource does about alerts: `_check_thresholds_and_trigger` when the
connection works, and the two functions for a failed connection otherwise. Both check the thresholds;
only the first makes alerts of what is emitted, one after another, until one of them raises. The
baseline detector is an input: its violations, and which metrics it takes to have recovered. -/

namespace DBClaw.Alerts

/-! ## Inputs -/

/-- A violation that the baseline detector emits. -/
structure BaselineViolation where
  severity : Option Severity
  currentValue : PyFloat
  upperBound : PyFloat
  deriving DecidableEq, Repr

/-- `effective_mode` of the alert engine. -/
inductive EngineMode
  | threshold | ai
  deriving DecidableEq, Repr

/-- The effective inspection configuration of the datasource, as far as alerting reads it. -/
structure InspectionConfig where
  engineMode : EngineMode := .threshold
  thresholdRules : ThresholdRules := ∅
  baselineEnabled : Bool := false

/-- **One collection cycle**: what was collected and when, the configuration, and which calls fail. -/
structure Cycle where
  now : Time
  metrics : Dict
  connectionFailed : Bool := false
  /-- The datasource is in its silence period. -/
  silenced : Bool := false
  /-- The enabled inspection configuration. -/
  config : Option InspectionConfig
  /-- What the baseline detector emits, by metric. -/
  baselineViolations : AList fun _ : String => BaselineViolation := ∅
  /-- The baseline detector takes the metric to have recovered. -/
  baselineRecovered : String → Bool := fun _ => false
  /-- Where creating the alert of this type and metric fails. -/
  failure : String → String → Failure := fun _ _ => .none

/-- A violation on its way to an alert; without a value the text of its reason cannot be built. -/
structure Candidate where
  alertType : String
  metricName : String
  severity : Severity
  value : Option PyFloat
  threshold : Option PyFloat
  deriving DecidableEq, Repr

/-- The datasource, the aggregation window in minutes, and Python. -/
structure Env where
  datasourceId : ℕ
  window : ℤ
  python : Python

/-- The alerts and events, and the checker's data of the datasource. -/
structure State where
  store : AlertStore := {}
  checker : Checker := {}
  deriving Inhabited

/-! ## Recovery -/

/-- The names under which `extract_metric_value` of the baseline service looks for a metric. -/
def metricAliases : List (String × List String) := [
  ("cpu_usage", ["cpu_usage", "cpu_usage_percent", "cpu_percent"]),
  ("disk_usage", ["disk_usage", "disk_usage_percent", "disk_percent"]),
  ("connections_active",
    ["connections_active", "threads_running", "active_connections", "connection_count"])]

/-- Python's `float(value)`, `none` where it raises. -/
def pyFloat (python : Python) : Json → Option PyFloat
  | .bool b => some (.fin (if b then 1 else 0))
  | .int n => some (.fin n)
  | .float x => some x
  | .str s => python.float s
  | .null | .arr _ | .obj _ => none

/-- `extract_metric_value` of the baseline service. -/
def baselineMetricValue (python : Python) (metrics : Dict) (metricName : String) :
    Option PyFloat :=
  ((metricAliases.lookup metricName).getD [metricName]).findSome?
    fun key => pyFloat python (metrics.get key)

/-- Python's `min` of two floats. -/
def pyMin (x y : PyFloat) : PyFloat := if y.lt x then y else x

/-- `_resolve_recovery_threshold`. -/
def resolveRecoveryThreshold (rule : Rule) : Option PyFloat :=
  match rule.threshold with
  | some threshold => some threshold
  | none =>
    match (rule.levels.getD []).filterMap Level.threshold with
    | [] => none
    | threshold :: thresholds => some (thresholds.foldl pyMin threshold)

/-- `_resolve_effective_recovery_threshold`. -/
def resolveEffectiveRecoveryThreshold (alert : AlertMessage) (rule : Rule) : Option PyFloat :=
  match resolveRecoveryThreshold rule, alert.thresholdValue with
  | none, original => original
  | configured, none => configured
  | some configured, some original => some (pyMin configured original)

/-- `_auto_resolve_recovered_alerts` resolves this alert. -/
def hasRecovered (python : Python) (metrics : Dict) (rules : ThresholdRules)
    (violations : List Violation) (alert : AlertMessage) : Bool :=
  match alert.metricName with
  | none | some "" => false
  | some metricName =>
    if violations.any (·.metricName == metricName) then false
    else
      match baselineMetricValue python metrics metricName, rules.lookup metricName with
      | some value, some rule =>
        -- an empty rule is none
        rule ≠ {} && (resolveEffectiveRecoveryThreshold alert rule).any value.lt
      | _, _ => false

/-- Alerts are resolved one after another. -/
def resolveAlerts (store : AlertStore) (now : Time) (alerts : List AlertMessage) : AlertStore :=
  alerts.foldl (fun store alert => store.resolveAlert alert now) store

/-- `_auto_resolve_connection_alerts`. -/
def autoResolveConnectionAlerts (env : Env) (store : AlertStore) (now : Time) : AlertStore :=
  resolveAlerts store now ((store.openAlerts env.datasourceId "system_error").filter
    fun a => a.metricName = some "connection_status")

/-- `_auto_resolve_recovered_alerts`. -/
def autoResolveRecoveredAlerts (env : Env) (store : AlertStore) (cycle : Cycle)
    (rules : ThresholdRules) (violations : List Violation) : AlertStore :=
  resolveAlerts store cycle.now ((store.openAlerts env.datasourceId "threshold_violation").filter
    (hasRecovered env.python cycle.metrics rules violations))

/-- `_auto_resolve_recovered_baseline_alerts`. -/
def autoResolveRecoveredBaselineAlerts (env : Env) (store : AlertStore) (cycle : Cycle)
    (config : InspectionConfig) : AlertStore :=
  if config.baselineEnabled then
    resolveAlerts store cycle.now
      ((store.openAlerts env.datasourceId "baseline_deviation").filter fun a =>
        match a.metricName with
        | none | some "" => false
        | some metricName =>
          (cycle.baselineViolations.lookup metricName).isNone && cycle.baselineRecovered metricName)
  else store

/-! ## From violations to alerts -/

/-- `AlertService.calculate_severity` is for rules without a severity, which the checker no longer
emits; a violation without one is of the custom expression and never gets so far. -/
def Violation.candidate (v : Violation) : Candidate where
  alertType := "threshold_violation"
  metricName := v.metricName
  severity := v.severity.getD .medium
  value := v.currentValue
  threshold := v.threshold

/-- A baseline violation on its way to an alert. -/
def BaselineViolation.candidate (metricName : String) (v : BaselineViolation) : Candidate where
  alertType := "baseline_deviation"
  metricName := metricName
  severity := v.severity.getD .medium
  value := some v.currentValue
  threshold := some v.upperBound

/-- The alert of `_handle_connection_failure`. -/
def connectionCandidate : Candidate where
  alertType := "system_error"
  metricName := "connection_status"
  severity := .critical
  value := some (.fin 0)
  threshold := some (.fin 1)

/-- The aggregation key of the alert that a candidate asks for. -/
def Candidate.key (env : Env) (c : Candidate) : AggregationKey where
  datasourceId := env.datasourceId
  name := if c.metricName = "" then c.alertType else c.metricName

/-- What `create_alert` is called with for a candidate. -/
def Candidate.draft (env : Env) (c : Candidate) (value : PyFloat) : AlertDraft where
  datasourceId := env.datasourceId
  alertType := c.alertType
  severity := c.severity
  metricName := c.metricName
  metricValue := value
  thresholdValue := c.threshold

/-- **One violation**: what is committed for it, and whether it raises. A violation whose alert is
still open only moves the end of its event. -/
def processCandidate (env : Env) (cycle : Cycle) (store : AlertStore) (c : Candidate) :
    AlertStore × Bool :=
  match c.value with
  | none => (store, true)
  | some value =>
    if store.hasOpenAlert env.datasourceId c.alertType c.metricName then
      (store.updateActiveEventTime (c.key env) cycle.now, false)
    else
      let failure := cycle.failure c.alertType c.metricName
      (store.createAlert env.window (c.draft env value) cycle.now failure, failure ≠ .none)

/-- **The violations in their order**, up to the first one that raises. -/
def processCandidates (env : Env) (cycle : Cycle) : AlertStore → List Candidate → AlertStore
  | store, [] => store
  | store, c :: cs =>
    let (store₁, raised) := processCandidate env cycle store c
    if raised then store₁ else processCandidates env cycle store₁ cs

/-! ## A cycle -/

/-- What a cycle comes to before alerts are made: the checker and what it emits, the store after the
recoveries, and the candidates. -/
structure Checked where
  checker : Checker
  emitted : List Violation := []
  store : AlertStore
  candidates : List Candidate := []

/-- A cycle with a failed connection: `_auto_resolve_threshold_alerts_on_connection_failure` checks
the thresholds for the recoveries alone, and the only candidate is the connection's own. -/
def checkFailedConnection (env : Env) (s : State) (cycle : Cycle) : Checked :=
  let candidates := if cycle.silenced then [] else [connectionCandidate]
  match cycle.config with
  | none => { checker := s.checker, store := s.store, candidates := candidates }
  | some config =>
    if cycle.metrics = [] ∨ config.thresholdRules.entries = [] then
      { checker := s.checker, store := s.store, candidates := candidates }
    else
      let (checker, emitted) :=
        checkThresholds env.python s.checker cycle.metrics config.thresholdRules cycle.now
      { checker := checker
        emitted := emitted
        store := autoResolveRecoveredAlerts env s.store cycle config.thresholdRules emitted
        candidates := candidates }

/-- A cycle with a working connection: the connection alerts are resolved, and
`_check_thresholds_and_trigger` checks the thresholds and the baselines unless the alert engine is
the AI one. -/
def checkConnected (env : Env) (s : State) (cycle : Cycle) : Checked :=
  let store := autoResolveConnectionAlerts env s.store cycle.now
  match cycle.config with
  | none => { checker := s.checker, store := store }
  | some config =>
    if config.engineMode = .ai ∨ cycle.silenced ∨
        (config.thresholdRules.entries = [] ∧ config.baselineEnabled = false) then
      { checker := s.checker, store := store }
    else
      let (checker, emitted) :=
        checkThresholds env.python s.checker cycle.metrics config.thresholdRules cycle.now
      let baseline := if config.baselineEnabled then cycle.baselineViolations.entries else []
      { checker := checker
        emitted := emitted
        store := autoResolveRecoveredBaselineAlerts env
          (autoResolveRecoveredAlerts env store cycle config.thresholdRules emitted) cycle config
        candidates := emitted.map Violation.candidate ++
          baseline.map fun entry => entry.2.candidate entry.1 }

/-- What a cycle comes to before alerts are made. -/
def check (env : Env) (s : State) (cycle : Cycle) : Checked :=
  if cycle.connectionFailed then checkFailedConnection env s cycle else checkConnected env s cycle

/-- **One collection cycle.** -/
def collect (env : Env) (s : State) (cycle : Cycle) : State :=
  let checked := check env s cycle
  { store := processCandidates env cycle checked.store checked.candidates
    checker := checked.checker }

/-- What can happen next. -/
inductive Label
  | cycle (c : Cycle)
  /-- Users, the dispatcher or the AI engine change alerts and events between two cycles. -/
  | other (store : AlertStore)

/-- One step of the system. -/
def step (env : Env) (s : State) : Label → Option State
  | .cycle c => some (collect env s c)
  | .other store => some { s with store := store }

end DBClaw.Alerts
