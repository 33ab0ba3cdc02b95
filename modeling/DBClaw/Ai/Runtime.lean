import DBClaw.Ai.Transition
import DBClaw.Alerts.Lifecycle

/-! # Evaluating AI policies
One pass of `_check_ai_alerts_and_trigger` over a datasource: the runtime state of the policy is found or
made, a gate decides whether the model is asked, and its verdict is applied by `apply_alert_ai_result`,
which triggers or resolves the alert. A shadow evaluation runs through the same code. What the gate and the
model say comes from outside. -/

namespace DBClaw.Ai

open Alerts Runs

/-! ## Policies and verdicts -/

/-- `ai_policy_source`. -/
inductive PolicySource
  | inline | template
  deriving DecidableEq, Repr

/-- `AlertAIPolicyBinding`, as far as an evaluation reads it. -/
structure Binding where
  policyId : Option ℕ := none
  policySource : PolicySource := .inline
  policyFingerprint : Text
  displayName : Text
  /-- `policy_severity_hint`, in the mode `explicit`. -/
  severityConstraint : Option Severity := none
  deriving DecidableEq, Repr

/-- The name under which the alerts of a policy are found. -/
def Binding.metricName (b : Binding) : String := String.ofList (b.displayName.take 100)

/-- The key of its events. -/
def Binding.aggregationKey (b : Binding) (datasourceId : ℕ) : AggregationKey where
  datasourceId := datasourceId
  name := if b.metricName = "" then "ai_policy_violation" else b.metricName

/-- `error_message` of a verdict. -/
inductive ErrorMessage
  | modelNotConfigured
  | evaluationFailed
  | severityMismatch (actual expected : Severity)
  deriving DecidableEq, Repr

/-- `AlertAIJudgeResult`. -/
structure JudgeResult where
  decision : Text
  severity : Severity
  confidence : PyFloat
  reason : Text
  evidence : List Text := []
  errorMessage : Option ErrorMessage := none
  deriving DecidableEq, Repr

/-- What asking the model comes to. -/
inductive ModelAnswer
  | notConfigured
  | failed
  | parsed (result : JudgeResult)
  deriving DecidableEq, Repr

/-- `mode` of an evaluation. -/
inductive Mode
  | formal | shadow
  deriving DecidableEq, Repr

/-- The characters beyond ASCII, the texts of errors, the configured confidence threshold, and the window
of events. -/
structure Setting where
  unicode : Unicode
  render : ErrorMessage → Text
  confidenceThreshold : PyFloat
  window : ℤ

variable (cfg : Setting)

/-- `enforce_policy_severity_constraint`. -/
def enforcePolicySeverityConstraint (judgeResult : JudgeResult) (binding : Binding) : JudgeResult :=
  match binding.severityConstraint with
  | some hint =>
    if judgeResult.severity ≠ hint then
      { judgeResult with
        errorMessage := some (.severityMismatch judgeResult.severity hint)
        reason := cfg.render (.severityMismatch judgeResult.severity hint) }
    else judgeResult
  | none => judgeResult

/-- A verdict that stands for an error. -/
def errorResult (error : ErrorMessage) : JudgeResult where
  decision := "no_alert".toList
  severity := .medium
  confidence := .fin 0
  reason := cfg.render error
  errorMessage := some error

/-- **`evaluate_alert_ai_policy`**. -/
def evaluateAlertAiPolicy (binding : Binding) : ModelAnswer → JudgeResult
  | .notConfigured => errorResult cfg .modelNotConfigured
  | .failed => errorResult cfg .evaluationFailed
  | .parsed result => enforcePolicySeverityConstraint cfg result binding

/-! ## Runtime states -/

/-- A row of `alert_ai_runtime_state`. -/
structure RuntimeState where
  datasourceId : ℕ
  policyId : Option ℕ := none
  policySource : PolicySource := .inline
  policyFingerprint : Text
  isActive : Bool := false
  consecutiveAlertCount : ℕ := 0
  consecutiveRecoverCount : ℕ := 0
  cooldownUntil : Option Time := none
  lastDecision : Option Text := none
  lastConfidence : Option PyFloat := none
  lastReason : Option Text := none
  lastEvidence : Option (List Text) := none
  lastCandidateType : Option String := none
  lastCandidateFingerprint : Option Text := none
  lastAiEvaluatedAt : Option Time := none
  lastGateReason : Option String := none
  samplesSeen : ℕ := 0
  candidateHits : ℕ := 0
  aiEvaluations : ℕ := 0
  gateSkipsByReason : List (String × ℕ) := []
  lastEvaluatedAt : Option Time := none
  lastTriggeredAt : Option Time := none
  lastRecoveredAt : Option Time := none
  alertId : Option ℕ := none
  deriving DecidableEq, Repr

/-- The tables of alerts and events, and the runtime states. -/
structure World where
  store : AlertStore := {}
  states : List RuntimeState := []

/-- The row is the one of this datasource and policy. -/
def RuntimeState.isFor (datasourceId : ℕ) (policyFingerprint : Text) (state : RuntimeState) : Bool :=
  state.datasourceId = datasourceId ∧ state.policyFingerprint = policyFingerprint

/-- The row that `get_or_create_runtime_state` adds. -/
def newState (datasourceId : ℕ) (binding : Binding) : RuntimeState where
  datasourceId := datasourceId
  policyId := binding.policyId
  policySource := binding.policySource
  policyFingerprint := binding.policyFingerprint

/-- **`get_or_create_runtime_state`**. -/
def getOrCreateRuntimeState (datasourceId : ℕ) (binding : Binding) (states : List RuntimeState) :
    RuntimeState × List RuntimeState :=
  match states.find? (·.isFor datasourceId binding.policyFingerprint) with
  | some state => (state, states)
  | none => (newState datasourceId binding, states ++ [newState datasourceId binding])

/-- The row of a state is written; the datasource and the policy stay. -/
def writeState (state : RuntimeState) (states : List RuntimeState) : List RuntimeState :=
  states.map fun old =>
    if old.isFor state.datasourceId state.policyFingerprint then state else old

/-! ## The gate -/

/-- `AlertAIGateDecision`. -/
structure GateDecision where
  shouldEvaluate : Bool
  candidateType : String := "none"
  fingerprint : Option Text := none
  gateReason : String
  deriving DecidableEq, Repr

/-- `analysis_config`, in seconds. -/
structure AnalysisConfig where
  inactiveMinEvalIntervalSeconds : ℕ := 300
  activeRecoveryMinEvalIntervalSeconds : ℕ := 180
  activeBackstopEvalSeconds : ℕ := 1800

/-- **`should_skip_candidate_due_to_interval`**. -/
def shouldSkipCandidateDueToInterval (state : RuntimeState) (gate : GateDecision) (config : AnalysisConfig)
    (now : Time) : Bool :=
  let minInterval :=
    if gate.candidateType = "recovery" then config.activeRecoveryMinEvalIntervalSeconds
    else if gate.candidateType = "backstop" then config.activeBackstopEvalSeconds
    else config.inactiveMinEvalIntervalSeconds
  gate.fingerprint.isSome && state.lastCandidateFingerprint == gate.fingerprint &&
    state.lastAiEvaluatedAt.any fun last => now - last < Time.seconds minInterval

/-- `_merge_gate_skip_reason`. -/
def mergeGateSkipReason (reason : String) : List (String × ℕ) → List (String × ℕ)
  | [] => [(reason, 1)]
  | (r, n) :: rest => if r = reason then (r, n + 1) :: rest else (r, n) :: mergeGateSkipReason reason rest

/-- A skip is counted. -/
def RuntimeState.skip (reason : String) (state : RuntimeState) : RuntimeState :=
  { state with gateSkipsByReason := mergeGateSkipReason reason state.gateSkipsByReason }

/-! ## Applying a verdict -/

/-- `compute_ai_transition` of a verdict, with its default confirmations and cooldown. -/
def transitionOf (state : RuntimeState) (judgeResult : JudgeResult) (now : Time) : AlertAITransition :=
  computeAiTransition cfg.unicode state.isActive judgeResult.decision judgeResult.confidence
    cfg.confidenceThreshold state.consecutiveAlertCount state.consecutiveRecoverCount state.cooldownUntil now
    2 900

/-- The row of the alert of a policy. -/
def alertRow (datasourceId : ℕ) (binding : Binding) (judgeResult : JudgeResult) : AlertMessage where
  id := 0
  datasourceId := datasourceId
  alertType := "ai_policy_violation"
  severity := judgeResult.severity
  metricName := some binding.metricName
  createdAt := 0

/-- `_find_active_ai_alert`: the one that was created last. -/
def findActiveAiAlert (store : AlertStore) (datasourceId : ℕ) (binding : Binding) : Option AlertMessage :=
  ((store.openAlerts datasourceId "ai_policy_violation").filter fun a =>
    a.metricName = some binding.metricName).argmax AlertMessage.createdAt

/-- The alert that a recovery resolves. -/
def recoveredAlert (store : AlertStore) (binding : Binding) (state : RuntimeState) : Option AlertMessage :=
  (state.alertId.bind fun id => store.alerts.find? (·.id = id)) <|>
    findActiveAiAlert store state.datasourceId binding

/-- What a verdict does to the alerts and to the state that goes with them, and the action it took. -/
def takeAction (store : AlertStore) (binding : Binding) (state : RuntimeState) (judgeResult : JudgeResult)
    (mode : Mode) (now : Time) : AlertStore × RuntimeState × Action :=
  if mode = .formal ∧ judgeResult.errorMessage = none then
    match (transitionOf cfg state judgeResult now).action with
    | .triggerAlert =>
      (store.create cfg.window (alertRow state.datasourceId binding judgeResult) now,
        { state with
          alertId := some store.nextAlertId
          isActive := true
          lastTriggeredAt := some now },
        .triggerAlert)
    | .recoverAlert =>
      (match recoveredAlert store binding state with
        | some alert => store.resolveAlertById alert.id now
        | none => store,
        { state with
          alertId := none
          isActive := false
          lastRecoveredAt := some now },
        .recoverAlert)
    | .noop => (store, state, .noop)
  else (store, state, .noop)

/-- The columns that are written after every evaluation. -/
def recordResult (binding : Binding) (judgeResult : JudgeResult) (transition : AlertAITransition)
    (mode : Mode) (now : Time) (state : RuntimeState) : RuntimeState :=
  { state with
    policyId := binding.policyId
    policySource := binding.policySource
    policyFingerprint := binding.policyFingerprint
    isActive := if mode = .formal then transition.active else state.isActive
    consecutiveAlertCount :=
      if mode = .formal then transition.consecutiveAlertCount else state.consecutiveAlertCount
    consecutiveRecoverCount :=
      if mode = .formal then transition.consecutiveRecoverCount else state.consecutiveRecoverCount
    cooldownUntil := if mode = .formal then transition.cooldownUntil else state.cooldownUntil
    lastDecision := some judgeResult.decision
    lastConfidence := some judgeResult.confidence
    lastReason := some judgeResult.reason
    lastEvidence := some judgeResult.evidence
    lastEvaluatedAt := some now }

/-- **`apply_alert_ai_result`**. -/
def applyAlertAiResult (store : AlertStore) (binding : Binding) (state : RuntimeState)
    (judgeResult : JudgeResult) (mode : Mode) (now : Time) : AlertStore × RuntimeState :=
  let transition := transitionOf cfg state judgeResult now
  let (store', acted, action) := takeAction cfg store binding state judgeResult mode now
  let recorded := recordResult binding judgeResult transition mode now acted
  (if action = .noop ∧ recorded.isActive ∧ recorded.alertId.isSome ∧ mode = .formal then
      store'.updateActiveEventTime (binding.aggregationKey state.datasourceId) now
    else store',
    recorded)

/-! ## One pass -/

/-- What a pass is given: the datasource, its policy, what the gate and the model say, and the time. -/
structure Pass where
  datasourceId : ℕ
  binding : Binding
  gate : GateDecision
  config : AnalysisConfig := {}
  answer : ModelAnswer
  mode : Mode
  now : Time

/-- What the gate leaves on the state, in the formal mode. -/
def Pass.gated (p : Pass) (state : RuntimeState) : RuntimeState :=
  if p.mode = .formal then
    { state with
      samplesSeen := state.samplesSeen + 1
      lastGateReason := some p.gate.gateReason }
  else state

/-- The state of a candidate, in the formal mode. -/
def Pass.hit (p : Pass) (state : RuntimeState) : RuntimeState :=
  if p.mode = .formal then { state with candidateHits := state.candidateHits + 1 } else state

/-- The state that has been evaluated, in the formal mode. -/
def Pass.evaluated (p : Pass) (state : RuntimeState) : RuntimeState :=
  if p.mode = .formal then
    { state with
      aiEvaluations := state.aiEvaluations + 1
      lastAiEvaluatedAt := some p.now
      lastCandidateType := some p.gate.candidateType
      lastCandidateFingerprint := p.gate.fingerprint
      lastGateReason := some p.gate.gateReason }
  else state

/-- **`_check_ai_alerts_and_trigger`** for a datasource with a policy. -/
def checkAiAlertsAndTrigger (p : Pass) (w : World) : World :=
  let (found, states) := getOrCreateRuntimeState p.datasourceId p.binding w.states
  let state := p.gated found
  if ! p.gate.shouldEvaluate then
    { w with states :=
        writeState (if p.mode = .formal then state.skip p.gate.gateReason else state) states }
  else
    let state := p.hit state
    if shouldSkipCandidateDueToInterval state p.gate p.config p.now then
      { w with states :=
          writeState (if p.mode = .formal then state.skip "same_candidate_throttled" else state) states }
    else
      let judgeResult := evaluateAlertAiPolicy cfg p.binding p.answer
      let (store, state) :=
        applyAlertAiResult cfg w.store p.binding (p.evaluated state) judgeResult p.mode p.now
      { store := store, states := writeState state states }

/-! ## Runs -/

/-- A pass, or an operation on the alerts from elsewhere. -/
inductive Label
  | pass (p : Pass)
  | operate (op : Operation) (now : Time)

/-- One step. -/
def step (w : World) : Label → Option World
  | .pass p => some (checkAiAlertsAndTrigger cfg p w)
  | .operate op now => some { w with store := w.store.apply cfg.window now op }

end DBClaw.Ai
