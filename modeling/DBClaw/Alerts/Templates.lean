import DBClaw.Alerts.Thresholds

/-! # Alert templates
What a datasource is watched with comes from an alert template, or from its own inspection config where no
template is enabled. `normalize_alert_template_config` brings the config of a template into its stored form,
when it is saved and again whenever it is read; `resolve_effective_inspection_config` chooses between the
template and the datasource's own columns. -/

namespace DBClaw.Alerts.Templates

variable (u : Unicode)

/-! ## Engine modes -/

/-- `alert_engine_mode`. -/
inductive EngineMode
  | threshold | ai | inherit
  deriving DecidableEq, Repr

/-- **`normalize_alert_engine_mode`**. -/
def normalizeAlertEngineMode (mode : Option Text) : EngineMode :=
  let normalized := Text.lower u (Text.strip (mode.getD []))
  if normalized = "threshold".toList then .threshold
  else if normalized = "ai".toList then .ai
  else .inherit

/-- `get_default_alert_engine_mode`, with the value of the system config. -/
def defaultAlertEngineMode (value : Option Text) : EngineMode :=
  let value := (value.filter (· ≠ [])).getD "threshold".toList
  if Text.lower u (Text.strip value) = "ai".toList then .ai else .threshold

/-! ## Rules -/

/-- `threshold_rules`, in the order of the dictionary. -/
abbrev RuleTable := List (String × Rule)

/-- A level with its severity and its threshold. -/
structure CheckedLevel where
  severity : Severity
  threshold : PyFloat
  duration : ℚ

/-- One level of a rule, if it has all that it needs. -/
def checkLevel (level : Level) : Option CheckedLevel := do
  let severity ← level.severity
  let threshold ← level.threshold
  if threshold.le (.fin 0) then none
  else some ⟨severity, threshold, level.duration.getD 60⟩

/-- The level as it is stored. -/
def CheckedLevel.toLevel (level : CheckedLevel) : Level where
  severity := some level.severity
  threshold := some level.threshold
  duration := some level.duration

/-- No level has a higher threshold than the next higher severity. -/
def Ascending (levels : List CheckedLevel) : Bool :=
  let sorted := levels.insertionSort fun a b => a.severity.order ≤ b.severity.order
  (sorted.zip sorted.tail).all fun (current, next) => ! next.threshold.lt current.threshold

/-- **`_validate_multi_level_threshold`**; `none` stands for `ValueError`. -/
def validateMultiLevelThreshold (rule : Rule) : Option Rule := do
  let levels ← rule.levels
  if levels = [] then none
  else
    let checked ← levels.mapM checkLevel
    if (checked.map CheckedLevel.severity).Nodup ∧ Ascending checked then
      some { levels := some (checked.map CheckedLevel.toLevel) }
    else none

/-- `DEFAULT_THRESHOLD_RULES`. -/
def defaultThresholdRules : RuleTable :=
  let rule (levels : List (Severity × ℚ × ℚ)) : Rule :=
    { levels := some (levels.map fun (severity, threshold, duration) =>
        { severity := some severity, threshold := some (.fin threshold), duration := some duration }) }
  [("cpu_usage", rule [(.low, 60, 300), (.medium, 80, 60), (.high, 85, 60), (.critical, 90, 60)]),
    ("disk_usage", rule [(.low, 80, 0), (.medium, 85, 0), (.high, 90, 0), (.critical, 95, 0)]),
    ("connections_active", rule [(.low, 20, 60), (.medium, 30, 60), (.high, 40, 60), (.critical, 50, 60)])]

/-- `baseline_config`: whether it is enabled, and for which metrics. -/
structure BaselineConfig where
  enabled : Bool
  metrics : List (String × Bool)
  deriving DecidableEq, Repr

/-- A `baseline_config` as it is submitted; what is missing takes its default. -/
structure BaselinePayload where
  enabled : Option Bool := none
  metrics : List (String × Bool) := []
  deriving DecidableEq, Repr

/-- **`normalize_baseline_config`**, as far as what is enabled. -/
def normalizeBaselineConfig (config : Option BaselinePayload) : BaselineConfig :=
  let config := config.getD {}
  { enabled := config.enabled.getD false
    metrics := ["cpu_usage", "disk_usage", "connections_active"].map fun metric =>
      (metric, (config.metrics.lookup metric).getD true) }

/-- The normal form as it is stored. -/
def BaselineConfig.stored (config : BaselineConfig) : BaselinePayload where
  enabled := some config.enabled
  metrics := config.metrics

/-- The normal form of a normal form is itself. -/
@[simp] theorem normalizeBaselineConfig_stored (config : Option BaselinePayload) :
    normalizeBaselineConfig (some (normalizeBaselineConfig config).stored) =
      normalizeBaselineConfig config := by
  simp [normalizeBaselineConfig, BaselineConfig.stored, List.lookup_cons]

/-! ## Normalisation -/

/-- The config of a template as it is submitted, or as it is stored. -/
structure TemplatePayload where
  alertEngineMode : Option Text := none
  /-- `none` where it is no dictionary. -/
  thresholdRules : Option RuleTable := none
  baselineConfig : Option BaselinePayload := none
  aiPolicyText : Option Text := none
  alertAiModelId : Option ℕ := none
  aiShadowEnabled : Bool := false

/-- The config of a template in its normal form. -/
structure TemplateConfig where
  alertEngineMode : EngineMode
  thresholdRules : RuleTable
  baselineConfig : BaselineConfig
  aiPolicyText : Option Text
  alertAiModelId : Option ℕ
  aiShadowEnabled : Bool

/-- `(text or "").strip() or None`. -/
def stripOrNone (text : Option Text) : Option Text :=
  let stripped := Text.strip (text.getD [])
  if stripped = [] then none else some stripped

/-- **`normalize_alert_template_config`**. -/
def normalizeAlertTemplateConfig (payload : TemplatePayload) : TemplateConfig :=
  let thresholdRules :=
    match payload.thresholdRules with
    | some rules => rules.map fun (name, rule) => (name, (validateMultiLevelThreshold rule).getD rule)
    | none => defaultThresholdRules
  let alertEngineMode := normalizeAlertEngineMode u payload.alertEngineMode
  { alertEngineMode := alertEngineMode
    thresholdRules := thresholdRules
    baselineConfig := normalizeBaselineConfig payload.baselineConfig
    aiPolicyText := if alertEngineMode ≠ .ai then none else stripOrNone payload.aiPolicyText
    alertAiModelId := if alertEngineMode ≠ .ai then none else payload.alertAiModelId
    aiShadowEnabled := if alertEngineMode ≠ .ai then false else payload.aiShadowEnabled }

/-- The text of a mode. -/
def EngineMode.text : EngineMode → Text
  | .threshold => "threshold".toList
  | .ai => "ai".toList
  | .inherit => "inherit".toList

/-- The normal form as it is stored. -/
def TemplateConfig.stored (config : TemplateConfig) : TemplatePayload where
  alertEngineMode := some config.alertEngineMode.text
  thresholdRules := some config.thresholdRules
  baselineConfig := some config.baselineConfig.stored
  aiPolicyText := config.aiPolicyText
  alertAiModelId := config.alertAiModelId
  aiShadowEnabled := config.aiShadowEnabled

@[simp] theorem normalizeAlertEngineMode_text (mode : EngineMode) :
    normalizeAlertEngineMode u (some mode.text) = mode := by
  cases mode <;> rfl

/-- A level that has been checked passes the check again. -/
theorem checkLevel_toLevel {level : Level} {checked : CheckedLevel} (h : checkLevel level = some checked) :
    checkLevel checked.toLevel = some checked := by
  obtain ⟨severity, threshold, duration⟩ := level
  cases severity with
  | none => simp [checkLevel] at h
  | some severity =>
    cases threshold with
    | none => simp [checkLevel] at h
    | some threshold =>
      by_cases hle : threshold.le (.fin 0) = true
      · simp [checkLevel, hle] at h
      · simp only [checkLevel, Option.bind_eq_bind, Option.bind_some, hle, Bool.false_eq_true, ↓reduceIte,
          Option.some.injEq] at h
        subst h
        simp [checkLevel, CheckedLevel.toLevel, hle]

/-- So do the levels of a rule. -/
theorem mapM_checkLevel_toLevel : ∀ {levels : List Level} {checked : List CheckedLevel},
    levels.mapM checkLevel = some checked → (checked.map CheckedLevel.toLevel).mapM checkLevel = some checked := by
  intro levels
  induction levels with
  | nil =>
    intro checked h
    simp at h
    subst h
    rfl
  | cons level levels ih =>
    intro checked h
    simp only [List.mapM_cons, Option.pure_def, Option.bind_eq_bind, Option.bind_eq_some_iff,
      Option.some.injEq] at h
    obtain ⟨first, hfirst, rest, hrest, rfl⟩ := h
    simp [checkLevel_toLevel hfirst, ih hrest]

/-- A rule that is valid stays as it is when it is validated again. -/
theorem validateMultiLevelThreshold_valid {rule valid : Rule}
    (h : validateMultiLevelThreshold rule = some valid) : validateMultiLevelThreshold valid = some valid := by
  simp only [validateMultiLevelThreshold, Option.bind_eq_bind, Option.bind_eq_some_iff] at h
  obtain ⟨levels, -, h⟩ := h
  by_cases hnil : levels = []
  · simp [hnil] at h
  · simp only [hnil, ↓reduceIte, Option.bind_eq_some_iff] at h
    obtain ⟨checked, hchecked, h⟩ := h
    by_cases hok : (checked.map CheckedLevel.severity).Nodup ∧ Ascending checked = true
    · simp only [hok, and_self, ↓reduceIte, Option.some.injEq] at h
      subst h
      have hne : checked ≠ [] := by
        rintro rfl
        cases levels with
        | nil => exact hnil rfl
        | cons level levels => simp [List.mapM_cons, Option.bind_eq_some_iff] at hchecked
      simp [validateMultiLevelThreshold, hne, mapM_checkLevel_toLevel hchecked, hok]
    · simp [hok] at h

/-- Stripping twice is stripping once. -/
theorem stripOrNone_stripOrNone (text : Option Text) : stripOrNone (stripOrNone text) = stripOrNone text := by
  by_cases h : Text.strip (text.getD []) = []
  · simp only [stripOrNone, h, ↓reduceIte, Option.getD_none]
    rfl
  · simp only [stripOrNone, h, ↓reduceIte, Option.getD_some, Text.strip_strip]

/-- **The stored form is a fixed point**: what is read from the table is what was saved. -/
theorem normalizeAlertTemplateConfig_stored (payload : TemplatePayload) :
    normalizeAlertTemplateConfig u (normalizeAlertTemplateConfig u payload).stored =
      normalizeAlertTemplateConfig u payload := by
  have hrules (rules : RuleTable) :
      (rules.map fun (name, rule) => (name, (validateMultiLevelThreshold rule).getD rule)).map
          (fun (name, rule) => (name, (validateMultiLevelThreshold rule).getD rule)) =
        rules.map fun (name, rule) => (name, (validateMultiLevelThreshold rule).getD rule) := by
    rw [List.map_map]
    refine List.map_congr_left fun (name, rule) _ => ?_
    cases hvalid : validateMultiLevelThreshold rule with
    | none => simp [hvalid]
    | some valid => simp [hvalid, validateMultiLevelThreshold_valid hvalid]
  have hdefault : defaultThresholdRules.map
      (fun (name, rule) => (name, (validateMultiLevelThreshold rule).getD rule)) = defaultThresholdRules := by
    decide
  simp only [normalizeAlertTemplateConfig, TemplateConfig.stored, normalizeAlertEngineMode_text,
    normalizeBaselineConfig_stored, TemplateConfig.mk.injEq, true_and]
  refine ⟨?_, ?_, ?_, ?_⟩
  · cases payload.thresholdRules with
    | none => exact hdefault
    | some rules => exact hrules rules
  all_goals split <;> simp [stripOrNone_stripOrNone]

/-! ## The effective config -/

/-- A row of `alert_template`. -/
structure AlertTemplate where
  id : ℕ
  isEnabled : Bool := true
  isDefault : Bool := false
  templateConfig : TemplatePayload

/-- A row of `inspection_config`. -/
structure InspectionConfig where
  datasourceId : ℕ
  isEnabled : Bool := true
  alertTemplateId : Option ℕ := none
  alertEngineMode : Option Text := none
  thresholdRules : RuleTable := []
  baselineConfig : Option BaselinePayload := none
  aiPolicySource : Option Text := none
  aiPolicyText : Option Text := none
  aiPolicyId : Option ℕ := none
  alertAiModelId : Option ℕ := none
  aiShadowEnabled : Bool := false

/-- What a datasource is watched with. -/
structure EffectiveConfig where
  datasourceId : ℕ
  usesTemplate : Bool
  alertEngineMode : EngineMode
  thresholdRules : RuleTable
  baselineConfig : BaselineConfig
  aiPolicySource : Option Text
  aiPolicyText : Option Text
  aiPolicyId : Option ℕ
  alertAiModelId : Option ℕ
  aiShadowEnabled : Bool

/-- `get_default_alert_template`: of the enabled ones the default, or the oldest. -/
def defaultAlertTemplate (templates : List AlertTemplate) : Option AlertTemplate :=
  ((templates.filter AlertTemplate.isEnabled).insertionSort fun s t =>
    (s.isDefault ∧ ¬ t.isDefault) ∨ (s.isDefault = t.isDefault ∧ s.id ≤ t.id)).head?

/-- The template of a datasource: the one it is bound to, or the default. -/
def effectiveTemplate (templates : List AlertTemplate) (config : InspectionConfig) : Option AlertTemplate :=
  let bound := config.alertTemplateId.bind fun id => templates.find? (·.id = id)
  match bound.filter AlertTemplate.isEnabled with
  | some template => some template
  | none => defaultAlertTemplate templates

/-- **`resolve_effective_inspection_config`**. -/
def resolveEffectiveInspectionConfig (templates : List AlertTemplate) (config : InspectionConfig) :
    EffectiveConfig :=
  match effectiveTemplate templates config with
  | some template =>
    let templateConfig := normalizeAlertTemplateConfig u template.templateConfig
    { datasourceId := config.datasourceId
      usesTemplate := true
      alertEngineMode := templateConfig.alertEngineMode
      thresholdRules := templateConfig.thresholdRules
      baselineConfig := templateConfig.baselineConfig
      aiPolicySource := some "inline".toList
      aiPolicyText := templateConfig.aiPolicyText
      aiPolicyId := none
      alertAiModelId := templateConfig.alertAiModelId
      aiShadowEnabled := templateConfig.aiShadowEnabled }
  | none =>
    { datasourceId := config.datasourceId
      usesTemplate := false
      alertEngineMode := normalizeAlertEngineMode u config.alertEngineMode
      thresholdRules := config.thresholdRules
      baselineConfig := normalizeBaselineConfig config.baselineConfig
      aiPolicySource := some ((config.aiPolicySource.filter (· ≠ [])).getD "inline".toList)
      aiPolicyText := config.aiPolicyText
      aiPolicyId := config.aiPolicyId
      alertAiModelId := config.alertAiModelId
      aiShadowEnabled := config.aiShadowEnabled }

/-- **`resolve_effective_alert_engine_mode`**: `inherit` is the global default. -/
def EffectiveConfig.engineMode (config : EffectiveConfig) (defaultMode : Option Text) : EngineMode :=
  match config.alertEngineMode with
  | .inherit => defaultAlertEngineMode u defaultMode
  | mode => mode

end DBClaw.Alerts.Templates
