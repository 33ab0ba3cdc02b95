import DBClaw.Alerts.Baselines
import DBClaw.Library.Coercions

/-! # Template configurations
`normalize_alert_template_config` on whatever JSON a client sends: the rules are checked and kept as they are where a
check fails, and the other values are coerced one by one. It runs when a template is saved and again whenever it is
read. `escapes_normalizePayload` says for which configurations another exception than a `ValueError` comes from it. -/

namespace DBClaw.Alerts.TemplateConfigs

open Coercions

/-! ## Equality -/

mutual

/-- A value with its integers as floats: Python's `==` does not tell `60` from `60.0`. -/
def asFloats : Json → Json
  | .int n => .float (.fin n)
  | .arr xs => .arr (asFloatsItems xs)
  | .obj fields => .obj (asFloatsFields fields)
  | .null => .null
  | .bool b => .bool b
  | .float x => .float x
  | .str s => .str s

/-- The items of a list. -/
def asFloatsItems : List Json → List Json
  | [] => []
  | x :: xs => asFloats x :: asFloatsItems xs

/-- The entries of a dictionary. -/
def asFloatsFields : List (String × Json) → List (String × Json)
  | [] => []
  | (key, x) :: fields => (key, asFloats x) :: asFloatsFields fields

end

/-! ## Threshold rules -/

variable (t : Texts)

/-- `VALID_SEVERITIES`. -/
def validSeverities : List Text := ["critical".toList, "high".toList, "medium".toList, "low".toList]

/-- `severity in VALID_SEVERITIES`. -/
def isSeverity : Json → Bool
  | .str severity => severity ∈ validSeverities
  | _ => false

/-- The text of a severity. -/
def severityOf : Json → Text
  | .str severity => severity
  | _ => []

/-- An entry of `normalized_levels`. -/
structure Level where
  severity : Text
  threshold : PyFloat
  duration : ℤ
  deriving DecidableEq

/-- `Metric '{metric_name}': ` before an error. -/
def metricError (metricName : String) (error : Text) : Text :=
  "Metric '".toList ++ metricName.toList ++ "': ".toList ++ error

/-- `level {idx}` before an error. -/
def levelError (metricName : String) (idx : ℕ) (error : Text) : Text :=
  metricError metricName ("level ".toList ++ (toString idx).toList ++ error)

/-- The threshold of a level, which has to be positive. -/
def readThreshold (metricName : String) (threshold : Json) : Except PyError PyFloat :=
  catching (fun e => metricError metricName ("invalid threshold value: ".toList ++ t.error e)) (do
    let threshold ← Coercions.pyFloat t threshold
    require (! threshold.le (.fin 0)) (metricError metricName "threshold must be positive".toList)
    .ok threshold)

/-- `value is None`. -/
def isNone : Json → Bool
  | .null => true
  | _ => false

/-- A level that is a dictionary. -/
def checkFields (metricName : String) (idx : ℕ) (seenSeverities : List Text) (level : Dict) : Except PyError Level := do
  let severity := level.get "severity"
  require severity.truthy (levelError metricName idx " missing 'severity' field".toList)
  pyHash severity
  -- the set is written out in an order of its own
  require (isSeverity severity) (metricError metricName ("invalid severity '".toList ++ pyStr t severity ++
    "'. Must be one of: ".toList ++ ", ".toList.intercalate validSeverities))
  require (severityOf severity ∉ seenSeverities)
    (metricError metricName ("duplicate severity '".toList ++ severityOf severity ++ "'".toList))
  require (! isNone (level.get "threshold")) (levelError metricName idx " missing 'threshold' field".toList)
  let threshold ← readThreshold t metricName (level.get "threshold")
  let duration ← pyInt t (level.getD "duration" (.int 60))
  .ok ⟨severityOf severity, threshold, duration⟩

/-- One level in the loop of `_validate_multi_level_threshold`. -/
def checkLevel (metricName : String) (idx : ℕ) (seenSeverities : List Text) (level : Json) : Except PyError Level :=
  match level with
  | .obj level => checkFields t metricName idx seenSeverities level
  | _ => raise (levelError metricName idx " must be a dictionary".toList)

/-- The loop over the levels. -/
def checkLevels (metricName : String) (idx : ℕ) (seenSeverities : List Text) : List Json → Except PyError (List Level)
  | [] => .ok []
  | level :: levels => do
    let checked ← checkLevel t metricName idx seenSeverities level
    let rest ← checkLevels metricName (idx + 1) (checked.severity :: seenSeverities) levels
    .ok (checked :: rest)

/-- `severity_order`. -/
def severityOrder (severity : Text) : ℕ :=
  if severity = "low".toList then 1 else if severity = "medium".toList then 2
  else if severity = "high".toList then 3 else 4

/-- The first two neighbours in the order of severities whose thresholds go down. -/
def firstDescent (levels : List Level) : Option (Level × Level) :=
  let sorted := levels.insertionSort fun a b => severityOrder a.severity ≤ severityOrder b.severity
  (sorted.zip sorted.tail).find? fun (current, next) => next.threshold.lt current.threshold

/-- The level as it is stored. -/
def Level.toJson (level : Level) : Json :=
  .obj [("severity", .str level.severity), ("threshold", .float level.threshold), ("duration", .int level.duration)]

/-- The error of two neighbours. -/
def descentError (metricName : String) (levels : List Level) : Text :=
  match firstDescent levels with
  | some (current, next) => metricError metricName ("threshold for '".toList ++ current.severity ++ "' (".toList ++
      t.repr (.float current.threshold) ++ ") must be less than '".toList ++ next.severity ++ "' (".toList ++
      t.repr (.float next.threshold) ++ ")".toList)
  | none => []

/-- The list under `levels`, if there is one. -/
def levelsOf (rule : Dict) : Option (List Json) :=
  match rule.get "levels" with
  | .arr levels => some levels
  | _ => none

/-- **`_validate_multi_level_threshold`.** -/
def validateMultiLevelThreshold (metricName : String) (rule : Dict) : Except PyError Dict :=
  match levelsOf rule with
  | none => raise (metricError metricName "must have 'levels' array configuration".toList)
  | some levels => do
    require (! levels.isEmpty) (metricError metricName "levels array cannot be empty".toList)
    let normalizedLevels ← checkLevels t metricName 0 [] levels
    require (firstDescent normalizedLevels).isNone (descentError t metricName normalizedLevels)
    .ok [("levels", .arr (normalizedLevels.map Level.toJson))]

/-- A rule: where its check fails with a `ValueError`, it stays as it is. -/
def normalizeRule (metricName : String) (rule : Json) : Except PyError Json :=
  match rule with
  | .obj fields =>
    match validateMultiLevelThreshold t metricName fields with
    | .ok normalized => .ok (.obj normalized)
    | .error (.valueError _) => .ok rule
    | .error e => .error e
  | _ => .ok rule

/-- The loop over `threshold_rules`. -/
def normalizeRules : Dict → Except PyError Dict
  | [] => .ok []
  | (metricName, rule) :: rules => do
    let normalized ← normalizeRule t metricName rule
    let rest ← normalizeRules rules
    .ok ((metricName, normalized) :: rest)

/-- A rule of `DEFAULT_THRESHOLD_RULES`. -/
def defaultRule (levels : List (String × ℤ × ℤ)) : Json :=
  .obj [("levels", .arr (levels.map fun (severity, threshold, duration) =>
    .obj [("severity", .str severity.toList), ("threshold", .int threshold), ("duration", .int duration)]))]

/-- `DEFAULT_THRESHOLD_RULES`. -/
def defaultThresholdRules : Dict := [
  ("cpu_usage", defaultRule [("low", 60, 300), ("medium", 80, 60), ("high", 85, 60), ("critical", 90, 60)]),
  ("disk_usage", defaultRule [("low", 80, 0), ("medium", 85, 0), ("high", 90, 0), ("critical", 95, 0)]),
  ("connections_active", defaultRule [("low", 20, 60), ("medium", 30, 60), ("high", 40, 60), ("critical", 50, 60)])]

/-! ## Baselines -/

/-- `if value is not None: read(value)`, and the default otherwise. -/
def update {α : Type} (value : Json) (default : α) (read : Json → Except PyError α) : Except PyError α :=
  match value with
  | .null => .ok default
  | value => read value

/-- `if key in config: bool(config.get(key))`. -/
def flag (config : Dict) (key : String) (default : Bool) : Bool := (config.lookup key).elim default Json.truthy

/-- `max(low, min(high, int(value)))`. -/
def intBetween (low high : ℤ) (value : Json) : Except PyError ℤ := do
  let n ← pyInt t value
  .ok (max low (min high n))

/-- The settings of one metric. -/
structure MetricConfig where
  enabled : Bool := true
  duration : ℤ
  severity : Text
  minimum : Json

/-- `severity if severity in {..} else "medium"`. -/
def severityOrMedium (severity : Text) : Text := if severity ∈ validSeverities then severity else "medium".toList

/-- The settings of a metric with those of the configuration. -/
def MetricConfig.merge (default : MetricConfig) (current : Dict) : Except PyError MetricConfig := do
  let duration ← update (current.get "duration") default.duration fun value => do
    let n ← pyInt t value
    .ok (max 60 n)
  let severity := Text.lower t.unicode (Text.strip (pyStr t ((current.get "severity").or (.str default.severity))))
  let minimum ← update (current.get "minimum") default.minimum fun value => do
    let x ← Coercions.pyFloat t value
    .ok (.float x)
  .ok {
    enabled := flag current "enabled" default.enabled
    duration := duration
    severity := severityOrMedium severity
    minimum := minimum }

/-- What is no dictionary leaves the default. -/
def MetricConfig.mergeValue (default : MetricConfig) (current : Json) : Except PyError MetricConfig :=
  match current with
  | .obj current => default.merge t current
  | _ => .ok default

/-- The settings as they are stored. -/
def MetricConfig.toJson (config : MetricConfig) : Json :=
  .obj [("enabled", .bool config.enabled), ("duration", .int config.duration), ("severity", .str config.severity),
    ("minimum", config.minimum)]

/-- The metrics of `DEFAULT_BASELINE_CONFIG`. -/
def defaultMetrics : List (String × MetricConfig) := [
  ("cpu_usage", { duration := 300, severity := "medium".toList, minimum := .int 20 }),
  ("disk_usage", { duration := 600, severity := "high".toList, minimum := .int 70 }),
  ("connections_active", { duration := 300, severity := "medium".toList, minimum := .int 10 })]

/-- What `normalize_baseline_config` returns. -/
structure BaselineConfig where
  enabled : Bool := false
  learningDays : ℤ := 14
  minSamples : ℤ := 24
  deviationRatio : PyFloat := .fin (135 / 100)
  minAbsoluteDelta : PyFloat := .fin 10
  refreshIntervalMinutes : ℤ := 10
  metrics : List (String × MetricConfig) := defaultMetrics

/-- The loop over the metrics. -/
def updateMetrics (metricsConfig : Dict) : List (String × MetricConfig) → Except PyError (List (String × MetricConfig))
  | [] => .ok []
  | (metricName, default) :: metrics => do
    let updated ← default.mergeValue t (metricsConfig.get metricName)
    let rest ← updateMetrics metricsConfig metrics
    .ok ((metricName, updated) :: rest)

/-- `metrics`, where it is a dictionary. -/
def metricsOf (config : Dict) : Dict :=
  match config.get "metrics" with
  | .obj metrics => metrics
  | _ => []

/-- The defaults with the settings of a configuration. -/
def mergeBaseline (config : Dict) : Except PyError BaselineConfig := do
  let learningDays ← update (config.get "learning_days") 14 (intBetween t 3 60)
  let minSamples ← update (config.get "min_samples") 24 (intBetween t 6 500)
  let deviationRatio ← update (config.get "deviation_ratio") (.fin (135 / 100)) fun value => do
    let x ← Coercions.pyFloat t value
    .ok (Baselines.pyMax (.fin (105 / 100)) (pyMin (.fin 5) x))
  let minAbsoluteDelta ← update (config.get "min_absolute_delta") (.fin 10) fun value => do
    let x ← Coercions.pyFloat t value
    .ok (Baselines.pyMax (.fin 0) x)
  let refreshIntervalMinutes ← update (config.get "refresh_interval_minutes") 10 (intBetween t 1 240)
  let metrics ← updateMetrics t (metricsOf config) defaultMetrics
  .ok {
    enabled := flag config "enabled" false
    learningDays := learningDays
    minSamples := minSamples
    deviationRatio := deviationRatio
    minAbsoluteDelta := minAbsoluteDelta
    refreshIntervalMinutes := refreshIntervalMinutes
    metrics := metrics }

/-- **`normalize_baseline_config`.** -/
def normalizeBaselineConfig (config : Json) : Except PyError BaselineConfig :=
  match config with
  | .obj config => mergeBaseline t config
  | _ => .ok {}

/-- The baseline as it is stored. -/
def BaselineConfig.toJson (config : BaselineConfig) : Json :=
  .obj [("enabled", .bool config.enabled), ("learning_days", .int config.learningDays),
    ("min_samples", .int config.minSamples), ("deviation_ratio", .float config.deviationRatio),
    ("min_absolute_delta", .float config.minAbsoluteDelta),
    ("refresh_interval_minutes", .int config.refreshIntervalMinutes),
    ("metrics", .obj (config.metrics.map fun (metricName, metric) => (metricName, metric.toJson)))]

/-! ## Events -/

/-- What `normalize_event_ai_config` returns. -/
structure EventAiConfig where
  enabled : Bool := true
  triggerOnCreate : Bool := true
  triggerOnSeverityUpgrade : Bool := true
  triggerOnRecovery : Bool := false
  staleRecheckMinutes : ℤ := 30

/-- The defaults with the settings of a configuration. -/
def mergeEventAi (config : Dict) : Except PyError EventAiConfig := do
  let staleRecheckMinutes ← update (config.get "stale_recheck_minutes") 30 (intBetween t 5 1440)
  .ok {
    enabled := flag config "enabled" true
    triggerOnCreate := flag config "trigger_on_create" true
    triggerOnSeverityUpgrade := flag config "trigger_on_severity_upgrade" true
    triggerOnRecovery := flag config "trigger_on_recovery" false
    staleRecheckMinutes := staleRecheckMinutes }

/-- **`normalize_event_ai_config`.** -/
def normalizeEventAiConfig (config : Json) : Except PyError EventAiConfig :=
  match config with
  | .obj config => mergeEventAi t config
  | _ => .ok {}

/-- The settings as they are stored. -/
def EventAiConfig.toJson (config : EventAiConfig) : Json :=
  .obj [("enabled", .bool config.enabled), ("trigger_on_create", .bool config.triggerOnCreate),
    ("trigger_on_severity_upgrade", .bool config.triggerOnSeverityUpgrade),
    ("trigger_on_recovery", .bool config.triggerOnRecovery),
    ("stale_recheck_minutes", .int config.staleRecheckMinutes)]

/-! ## Templates -/

/-- **`normalize_alert_engine_mode`.** -/
def normalizeAlertEngineMode (mode : Json) : Except PyError Text := do
  let text ← textOr mode
  let normalized := Text.lower t.unicode (Text.strip text)
  .ok (if normalized ∈ ["threshold".toList, "ai".toList, "inherit".toList] then normalized else "inherit".toList)

/-- `text or None`. -/
def orNone (text : Text) : Json := if text = [] then .null else .str text

/-- `threshold_rules`, checked, or the default where it is no dictionary. -/
def thresholdRules (payload : Dict) : Except PyError Dict :=
  match payload.get "threshold_rules" with
  | .obj rules => normalizeRules t rules
  | _ => .ok defaultThresholdRules

/-- The configuration of a template as it is stored; without the AI mode, there is no policy. -/
def templateConfig (rules : Dict) (mode policy : Text) (modelId : Json) (shadow : Bool) (baseline : BaselineConfig)
    (eventAi : EventAiConfig) : Dict :=
  let ai : Bool := mode = "ai".toList
  [("alert_engine_mode", .str mode), ("threshold_rules", .obj rules), ("baseline_config", baseline.toJson),
    ("event_ai_config", eventAi.toJson), ("ai_policy_text", if ai then orNone policy else .null),
    ("alert_ai_model_id", if ai then modelId else .null), ("ai_shadow_enabled", .bool (ai && shadow))]

/-- The normal form of a dictionary. -/
def normalizePayload (payload : Dict) : Except PyError Dict := do
  let rules ← thresholdRules t payload
  let mode ← normalizeAlertEngineMode t (payload.get "alert_engine_mode")
  let policy ← textOr (payload.get "ai_policy_text")
  let baseline ← normalizeBaselineConfig t ((payload.get "baseline_config").or (BaselineConfig.toJson {}))
  let eventAi ← normalizeEventAiConfig t ((payload.get "event_ai_config").or (EventAiConfig.toJson {}))
  .ok (templateConfig rules mode (Text.strip policy) (payload.get "alert_ai_model_id")
    (payload.getD "ai_shadow_enabled" (.bool false)).truthy baseline eventAi)

/-- **`normalize_alert_template_config`.** -/
def normalizeAlertTemplateConfig (config : Json) : Except PyError Dict :=
  match config with
  | .obj payload => normalizePayload t payload
  | _ => normalizePayload t []

/-! ## Totality and idempotence -/

/-- **The normalisation is total and idempotent** on a configuration: it raises a `ValueError`, or what it returns
is returned again, up to the type of numbers. -/
def Sound (config : Json) : Prop :=
  (∃ message, normalizeAlertTemplateConfig t config = .error (.valueError message)) ∨
  ∃ stored stored', normalizeAlertTemplateConfig t config = .ok stored ∧
    normalizeAlertTemplateConfig t (.obj stored) = .ok stored' ∧ asFloatsFields stored' = asFloatsFields stored

/-- The threshold is a positive number. -/
def isPositive (threshold : Json) : Bool :=
  match Coercions.pyFloat t threshold with
  | .ok x => ! x.le (.fin 0)
  | .error _ => false

/-- What is read of a level. -/
def levelChecks (seenSeverities : List Text) (level : Json) : List Check :=
  match level with
  | .obj fields =>
    let severity := Dict.get fields "severity"
    let threshold := Dict.get fields "threshold"
    [.guard severity.truthy, .hash severity, .guard (isSeverity severity),
      .guard (severityOf severity ∉ seenSeverities), .guard (! isNone threshold), .caughtFloat threshold,
      .guard (isPositive t threshold), .int (Dict.getD fields "duration" (.int 60))]
  | _ => [.guard false]

/-- The severity of a level. -/
def severityOfLevel : Json → Text
  | .obj fields => severityOf (Dict.get fields "severity")
  | _ => []

/-- What is read of levels. -/
def levelsChecks (seenSeverities : List Text) : List Json → List Check
  | [] => []
  | level :: levels => levelChecks t seenSeverities level ++ levelsChecks (severityOfLevel level :: seenSeverities) levels

/-- **What is read of a rule.** -/
def ruleChecks : Json → List Check
  | .obj rule => (levelsOf rule).elim [] (levelsChecks t [])
  | _ => []

/-- A value is read if it is there. -/
def readIfSome (check : Json → Check) (value : Json) : List Check := if isNone value then [] else [check value]

/-- What is read for a metric. -/
def metricChecks : Json → List Check
  | .obj current =>
    readIfSome .int (Dict.get current "duration") ++ readIfSome .float (Dict.get current "minimum")
  | _ => []

/-- What is read of a baseline. -/
def baselineChecks : Json → List Check
  | .obj config =>
    readIfSome .int (Dict.get config "learning_days") ++ (readIfSome .int (Dict.get config "min_samples") ++
      (readIfSome .float (Dict.get config "deviation_ratio") ++
        (readIfSome .float (Dict.get config "min_absolute_delta") ++
          (readIfSome .int (Dict.get config "refresh_interval_minutes") ++
            defaultMetrics.flatMap fun metric => metricChecks ((metricsOf config).get metric.1)))))
  | _ => []

/-- What is read for events. -/
def eventAiChecks : Json → List Check
  | .obj config => readIfSome .int (Dict.get config "stale_recheck_minutes")
  | _ => []

/-- **What is read besides the rules.** -/
def settingsChecks (payload : Dict) : List Check :=
  .text (payload.get "alert_engine_mode") :: (.text (payload.get "ai_policy_text") ::
    (baselineChecks ((payload.get "baseline_config").or (BaselineConfig.toJson {})) ++
      eventAiChecks ((payload.get "event_ai_config").or (EventAiConfig.toJson {}))))

/-- The rules of a configuration. -/
def rulesOf (payload : Dict) : Dict :=
  match payload.get "threshold_rules" with
  | .obj rules => rules
  | _ => []

/-- **No exception but a `ValueError`** comes from a configuration. -/
def OrderlyConfig (payload : Dict) : Prop :=
  (∀ rule ∈ rulesOf payload, Coercions.Orderly t (ruleChecks t rule.2)) ∧ Coercions.Orderly t (settingsChecks payload)

variable {t}

/-! ## What escapes the rules -/

theorem follows_readThreshold (metricName : String) (threshold : Json) :
    Follows t (readThreshold t metricName threshold) [.caughtFloat threshold, .guard (isPositive t threshold)] := by
  rw [readThreshold, catching_bind]
  refine Follows.bind (follows_caughtFloat threshold) fun x hx => ?_
  rw [catching_eq_ok_iff] at hx
  rw [catching_bind, catching_require]
  have hpositive : isPositive t threshold = ! x.le (.fin 0) := by rw [isPositive, hx]
  rw [hpositive]
  exact (follows_require _ _).map _

theorem follows_checkLevel (metricName : String) (idx : ℕ) (seenSeverities : List Text) (level : Json) :
    Follows t (checkLevel t metricName idx seenSeverities level) (levelChecks t seenSeverities level) := by
  cases level with
  | obj fields =>
    exact (follows_require _ _).bind fun _ _ => (follows_pyHash _).bind fun _ _ => (follows_require _ _).bind fun _ _ =>
      (follows_require _ _).bind fun _ _ => (follows_require _ _).bind fun _ _ =>
        (follows_readThreshold _ _).bind fun _ _ => (follows_int _).map _
  | null | bool | int | float | str | arr => exact follows_raise _

/-- The severity of a level that passes. -/
theorem severity_of_checkLevel {metricName : String} {idx : ℕ} {seenSeverities : List Text} {level : Json}
    {checked : Level} (h : checkLevel t metricName idx seenSeverities level = .ok checked) :
    checked.severity = severityOfLevel level := by
  cases level with
  | obj fields =>
    obtain ⟨_, -, h⟩ := bind_eq_ok_iff.mp h
    obtain ⟨_, -, h⟩ := bind_eq_ok_iff.mp h
    obtain ⟨_, -, h⟩ := bind_eq_ok_iff.mp h
    obtain ⟨_, -, h⟩ := bind_eq_ok_iff.mp h
    obtain ⟨_, -, h⟩ := bind_eq_ok_iff.mp h
    obtain ⟨_, -, h⟩ := bind_eq_ok_iff.mp h
    obtain ⟨_, -, h⟩ := bind_eq_ok_iff.mp h
    rw [← Except.ok.inj h]
    rfl
  | null | bool | int | float | str | arr => cases h

theorem follows_checkLevels (metricName : String) (idx : ℕ) (seenSeverities : List Text) (levels : List Json) :
    Follows t (checkLevels t metricName idx seenSeverities levels) (levelsChecks t seenSeverities levels) := by
  induction levels generalizing idx seenSeverities with
  | nil => exact .pure _
  | cons level levels ih =>
    refine (follows_checkLevel metricName idx seenSeverities level).bind fun checked hchecked => ?_
    rw [← severity_of_checkLevel hchecked]
    exact (ih _ _).map _

/-- **What escapes a rule.** -/
theorem escapes_normalizeRule (metricName : String) (rule : Json) :
    Escapes (normalizeRule t metricName rule) ↔ ¬ Coercions.Orderly t (ruleChecks t rule) := by
  cases rule with
  | obj fields =>
    have hsame : Escapes (normalizeRule t metricName (.obj fields)) ↔
        Escapes (validateMultiLevelThreshold t metricName fields) := by
      rw [normalizeRule]
      cases validateMultiLevelThreshold t metricName fields with
      | ok normalized => exact iff_of_false (escapes_ok _) (escapes_ok _)
      | error e =>
        cases e with
        | valueError message => simp [escapes_ok, PyError.IsValueError]
        | typeError | overflowError | attributeError => simp [PyError.IsValueError]
    rw [hsame, validateMultiLevelThreshold, ruleChecks]
    cases levelsOf fields with
    | none => simp [raise, Coercions.Orderly, PyError.IsValueError]
    | some levels =>
      rw [Option.elim_some, escapes_bind, or_iff_right (not_escapes_require _ _)]
      cases levels with
      | nil => simp [require, raise, levelsChecks, Coercions.Orderly]
      | cons level levels =>
        have hrest : Escapes (checkLevels t metricName 0 [] (level :: levels) >>= fun normalizedLevels =>
            require (firstDescent normalizedLevels).isNone (descentError t metricName normalizedLevels) >>= fun _ =>
              .ok [("levels", Json.arr (normalizedLevels.map Level.toJson))]) ↔
            ¬ Coercions.Orderly t (levelsChecks t [] (level :: levels)) := by
          rw [escapes_bind_of_not, (follows_checkLevels _ _ _ _).escapes_iff]
          intro normalizedLevels _
          rw [escapes_bind_of_not fun _ _ => escapes_ok _]
          exact not_escapes_require _ _
        rw [← hrest]
        constructor
        · rintro ⟨-, -, h⟩
          exact h
        · intro h
          exact ⟨(), rfl, h⟩
  | null | bool | int | float | str | arr => simp [normalizeRule, ruleChecks, Coercions.Orderly, escapes_ok]

/-- A rule never raises a `ValueError`. -/
theorem returns_normalizeRule {metricName : String} {rule : Json} (h : ¬ Escapes (normalizeRule t metricName rule)) :
    Returns (normalizeRule t metricName rule) := by
  rcases returns_or_raises h with hreturns | ⟨message, hmessage⟩
  · exact hreturns
  · cases rule with
    | obj fields =>
      rw [normalizeRule] at hmessage
      cases hvalidate : validateMultiLevelThreshold t metricName fields with
      | ok normalized => simp [hvalidate] at hmessage
      | error e => cases e <;> simp [hvalidate] at hmessage
    | null | bool | int | float | str | arr => cases hmessage

/-- **What escapes the rules.** -/
theorem normalizeRules_spec (rules : Dict) :
    (Escapes (normalizeRules t rules) ↔ ∃ rule ∈ rules, ¬ Coercions.Orderly t (ruleChecks t rule.2)) ∧
      (¬ Escapes (normalizeRules t rules) → Returns (normalizeRules t rules)) := by
  induction rules with
  | nil => simp [normalizeRules, escapes_ok]
  | cons entry rules ih =>
    obtain ⟨metricName, rule⟩ := entry
    have hrest : ∀ normalized, (Escapes (normalizeRules t rules >>= fun rest => .ok ((metricName, normalized) :: rest)) ↔
        Escapes (normalizeRules t rules)) := fun normalized => escapes_bind_of_not fun _ _ => escapes_ok _
    have hescapes : Escapes (normalizeRules t ((metricName, rule) :: rules)) ↔
        ∃ entry ∈ (metricName, rule) :: rules, ¬ Coercions.Orderly t (ruleChecks t entry.2) := by
      rw [normalizeRules, escapes_bind, List.exists_mem_cons_iff, escapes_normalizeRule, ← ih.1]
      simp only [hrest, exists_and_right]
      by_cases hrule : Coercions.Orderly t (ruleChecks t rule)
      · have hreturns := returns_normalizeRule
          (mt (escapes_normalizeRule metricName rule).mp (not_not.mpr hrule))
        simp [hrule, show ∃ a, normalizeRule t metricName rule = .ok a from hreturns]
      · simp [hrule]
    refine ⟨hescapes, fun hnot => ?_⟩
    rw [hescapes, List.exists_mem_cons_iff, not_or, ← ih.1, not_not] at hnot
    obtain ⟨normalized, hnormalized⟩ := returns_normalizeRule
      (mt (escapes_normalizeRule metricName rule).mp (not_not.mpr hnot.1))
    obtain ⟨rest, hrules⟩ := ih.2 hnot.2
    exact ⟨_, by rw [normalizeRules, hnormalized, ok_bind, hrules, ok_bind]⟩

/-! ## What escapes the settings -/

theorem follows_update {α : Type} {check : Json → Check} {read : Json → Except PyError α} (value : Json) (default : α)
    (h : Follows t (read value) [check value]) : Follows t (update value default read) (readIfSome check value) := by
  cases value with
  | null => exact .pure _
  | bool | int | float | str | arr | obj => exact h

theorem follows_intBetween (low high : ℤ) (value : Json) : Follows t (intBetween t low high value) [.int value] :=
  (follows_int value).map _

theorem follows_mergeValue (default : MetricConfig) (current : Json) :
    Follows t (default.mergeValue t current) (metricChecks current) := by
  cases current with
  | obj current =>
    exact (follows_update _ _ ((follows_int _).map _)).bind fun _ _ => (follows_update _ _ ((follows_float _).map _)).map _
  | null | bool | int | float | str | arr => exact .pure _

theorem follows_updateMetrics (metricsConfig : Dict) (metrics : List (String × MetricConfig)) :
    Follows t (updateMetrics t metricsConfig metrics)
      (metrics.flatMap fun metric => metricChecks (metricsConfig.get metric.1)) := by
  induction metrics with
  | nil => exact .pure _
  | cons entry metrics ih => exact (follows_mergeValue _ _).bind fun _ _ => ih.map _

theorem follows_normalizeBaselineConfig (config : Json) :
    Follows t (normalizeBaselineConfig t config) (baselineChecks config) := by
  cases config with
  | obj config =>
    exact (follows_update _ _ (follows_intBetween _ _ _)).bind fun _ _ =>
      (follows_update _ _ (follows_intBetween _ _ _)).bind fun _ _ =>
        (follows_update _ _ ((follows_float _).map _)).bind fun _ _ =>
          (follows_update _ _ ((follows_float _).map _)).bind fun _ _ =>
            (follows_update _ _ (follows_intBetween _ _ _)).bind fun _ _ => (follows_updateMetrics _ _).map _
  | null | bool | int | float | str | arr => exact .pure _

theorem follows_normalizeEventAiConfig (config : Json) :
    Follows t (normalizeEventAiConfig t config) (eventAiChecks config) := by
  cases config with
  | obj config => exact (follows_update _ _ (follows_intBetween _ _ _)).map _
  | null | bool | int | float | str | arr => exact .pure _

/-- The settings after the rules. -/
theorem follows_settings (payload : Dict) (rules : Dict) :
    Follows t (normalizeAlertEngineMode t (payload.get "alert_engine_mode") >>= fun mode =>
      textOr (payload.get "ai_policy_text") >>= fun policy =>
      normalizeBaselineConfig t ((payload.get "baseline_config").or (BaselineConfig.toJson {})) >>= fun baseline =>
      normalizeEventAiConfig t ((payload.get "event_ai_config").or (EventAiConfig.toJson {})) >>= fun eventAi =>
      .ok (templateConfig rules mode (Text.strip policy) (payload.get "alert_ai_model_id")
        (payload.getD "ai_shadow_enabled" (.bool false)).truthy baseline eventAi)) (settingsChecks payload) :=
  ((follows_textOr _).map _).bind fun _ _ => (follows_textOr _).bind fun _ _ =>
    (follows_normalizeBaselineConfig _).bind fun _ _ => (follows_normalizeEventAiConfig _).map _

theorem thresholdRules_spec (payload : Dict) :
    (Escapes (thresholdRules t payload) ↔ ∃ rule ∈ rulesOf payload, ¬ Coercions.Orderly t (ruleChecks t rule.2)) ∧
      (¬ Escapes (thresholdRules t payload) → Returns (thresholdRules t payload)) := by
  rw [thresholdRules, rulesOf]
  cases payload.get "threshold_rules" with
  | obj rules => exact normalizeRules_spec rules
  | null | bool | int | float | str | arr => simp [escapes_ok]

/-- **What escapes the normalisation.** -/
theorem escapes_normalizePayload (payload : Dict) : Escapes (normalizePayload t payload) ↔ ¬ OrderlyConfig t payload := by
  have hsettings := fun rules => (follows_settings (t := t) payload rules).escapes_iff
  obtain ⟨hrules, hreturns⟩ := thresholdRules_spec (t := t) payload
  rw [normalizePayload, escapes_bind, OrderlyConfig, not_and_or]
  simp only [hsettings, exists_and_right]
  have hall : (¬ ∀ rule ∈ rulesOf payload, Coercions.Orderly t (ruleChecks t rule.2)) ↔ Escapes (thresholdRules t payload) := by
    rw [hrules]
    simp
  rw [hall]
  by_cases hescapes : Escapes (thresholdRules t payload)
  · simp [hescapes]
  · have hok : ∃ rules, thresholdRules t payload = .ok rules := hreturns hescapes
    simp [hescapes, hok]

end DBClaw.Alerts.TemplateConfigs
