import DBClaw.Ai.Agreement
import DBClaw.Alerts.Templates

/-! # Routing a datasource to its engines
`_route_alert_engine` gives the metrics of a datasource to the AI engine or to the thresholds, by the mode
that is in force, and to the AI engine in shadow mode where the effective config says so. The thresholds
leave a datasource alone that has no rules, and the AI engine one without a policy; `watched_iff` says which
datasources are left alone by both. -/

namespace DBClaw.Ai

open Alerts (Severity Time customExpression)
open Alerts.Templates

/-! ## Policies -/

/-- A row of `alert_ai_policy`. -/
structure AlertAiPolicy where
  id : ℕ
  name : Text
  ruleText : Text
  isEnabled : Bool := true
  deriving DecidableEq, Repr

/-- The characters beyond ASCII, `sha256` of a policy's key, and `extract_policy_severity_instruction` where
its mode is `explicit`. -/
structure Router where
  unicode : Unicode
  sha256 : PolicySource → Option ℕ → Text → Text
  severityInstruction : Text → Option Severity

variable (r : Router)

/-- **`normalize_ai_policy_source`**. -/
def normalizeAiPolicySource (source : Option Text) : PolicySource :=
  if Text.lower r.unicode (Text.strip (source.getD [])) = "template".toList then .template else .inline

/-- **`resolve_alert_ai_policy_binding`**. -/
def resolveAlertAiPolicyBinding (policies : List AlertAiPolicy) (aiPolicySource aiPolicyText : Option Text)
    (aiPolicyId : Option ℕ) : Option Binding :=
  let bind (source : PolicySource) (policyId : Option ℕ) (ruleText displayName : Text) : Option Binding :=
    if ruleText = [] then none
    else some
      { policyId := policyId
        policySource := source
        policyFingerprint := r.sha256 source policyId ruleText
        displayName := displayName
        severityConstraint := r.severityInstruction ruleText }
  match normalizeAiPolicySource r aiPolicySource with
  | .template => do
    let policyId ← aiPolicyId.filter (· ≠ 0)
    let policy ← (policies.find? (·.id = policyId)).filter (·.isEnabled)
    bind .template (some policy.id) (Text.strip policy.ruleText) policy.name
  | .inline => bind .inline none (Text.strip (aiPolicyText.getD [])) "AI 智能判警".toList

/-- **`resolve_configured_alert_ai_policy_binding`**. -/
def resolveConfiguredAlertAiPolicyBinding (policies : List AlertAiPolicy) (config : EffectiveConfig) :
    Option Binding :=
  resolveAlertAiPolicyBinding r policies config.aiPolicySource config.aiPolicyText config.aiPolicyId

/-! ## Routing -/

/-- What the tables and the system config hold about a datasource. -/
structure Site where
  templates : List AlertTemplate := []
  policies : List AlertAiPolicy := []
  /-- `default_alert_engine_mode`. -/
  defaultMode : Option Text := none
  config : InspectionConfig
  silenceUntil : Option Time := none

/-- A run of an engine over the metrics of a datasource. -/
inductive Evaluation
  | thresholds (rules : RuleTable) (baseline : BaselineConfig)
  | policy (binding : Binding) (mode : Mode)

variable (site : Site)

/-- The effective config. -/
def Site.effective : EffectiveConfig :=
  resolveEffectiveInspectionConfig r.unicode site.templates site.config

/-- The datasource is silenced. -/
def Site.isSilenced (now : Time) : Bool := site.silenceUntil.any fun until_ => now < until_

/-- **`_check_thresholds_and_trigger`**, as far as what it evaluates. -/
def checkThresholdsAndTrigger (now : Time) : Option Evaluation :=
  if site.isSilenced now then none
  else if ! site.config.isEnabled then none
  else
    let thresholdRules := (site.effective r).thresholdRules
    let baselineConfig := normalizeBaselineConfig (some (site.effective r).baselineConfig.stored)
    if thresholdRules = [] ∧ ! baselineConfig.enabled then none
    else some (.thresholds thresholdRules baselineConfig)

/-- **`_check_ai_alerts_and_trigger`**, as far as which policy it evaluates. -/
def aiEvaluation (mode : Mode) : Option Evaluation :=
  (resolveConfiguredAlertAiPolicyBinding r site.policies (site.effective r)).map (.policy · mode)

/-- **`_route_alert_engine`**. -/
def routeAlertEngine (now : Time) : List Evaluation :=
  if ! site.config.isEnabled then []
  else if (site.effective r).engineMode r.unicode site.defaultMode = .ai then (aiEvaluation r site .formal).toList
  else
    (checkThresholdsAndTrigger r site now).toList ++
      if (site.effective r).aiShadowEnabled then (aiEvaluation r site .shadow).toList else []

/-! ## Which datasources are watched -/

/-- The effective config has a rule: levels, a custom expression, an enabled baseline, or the text of a
policy. -/
def HasRule (config : EffectiveConfig) : Prop :=
  (∃ x ∈ config.thresholdRules, x.2.levels.isSome ∨ x.1 = customExpression) ∨
    (config.baselineConfig.enabled ∧ ∃ metric ∈ config.baselineConfig.metrics, metric.2 = true) ∨
      ∃ text ∈ config.aiPolicyText, Text.strip text ≠ []

/-- Alerting is enabled for the datasource, which is not silenced, and there is something to evaluate. -/
def Site.Eligible (now : Time) : Prop :=
  site.config.isEnabled = true ∧ site.isSilenced now = false ∧ HasRule (site.effective r)

/-- Some engine evaluates the datasource. -/
def Site.Watched (now : Time) : Prop := routeAlertEngine r site now ≠ []

/-- The policy of an inspection config exists, is enabled and has a text. -/
def PolicyGiven (policies : List AlertAiPolicy) (config : InspectionConfig) : Prop :=
  match normalizeAiPolicySource r config.aiPolicySource with
  | .template =>
    ∃ id ∈ config.aiPolicyId, id ≠ 0 ∧ ∃ policy ∈ policies.find? (·.id = id),
      policy.isEnabled = true ∧ Text.strip policy.ruleText ≠ []
  | .inline => Text.strip (config.aiPolicyText.getD []) ≠ []

/-- A mode with the global default in place of `inherit`. -/
def modeInForce (mode defaultMode : Option Text) : EngineMode :=
  match normalizeAlertEngineMode r.unicode mode with
  | .inherit => defaultAlertEngineMode r.unicode defaultMode
  | mode => mode

/-- **The engine in charge has what it needs.** Under a template, the AI engine is given a text by a template
whose own mode is `ai`, and by no other. -/
def Site.Covered : Prop :=
  match effectiveTemplate site.templates site.config with
  | some template =>
    modeInForce r template.templateConfig.alertEngineMode site.defaultMode = .ai →
      normalizeAlertEngineMode r.unicode template.templateConfig.alertEngineMode = .ai ∧
        Text.strip (template.templateConfig.aiPolicyText.getD []) ≠ []
  | none =>
    if modeInForce r site.config.alertEngineMode site.defaultMode = .ai then
      PolicyGiven r site.policies site.config
    else
      site.config.thresholdRules ≠ [] ∨ (normalizeBaselineConfig site.config.baselineConfig).enabled = true ∨
        site.config.aiShadowEnabled = true ∧ PolicyGiven r site.policies site.config

variable {r site}

/-- There is a binding exactly where a policy is given. -/
theorem resolveAlertAiPolicyBinding_isSome (policies : List AlertAiPolicy) (config : InspectionConfig) :
    (resolveAlertAiPolicyBinding r policies config.aiPolicySource config.aiPolicyText
      config.aiPolicyId).isSome = true ↔ PolicyGiven r policies config := by
  unfold resolveAlertAiPolicyBinding PolicyGiven
  cases normalizeAiPolicySource r config.aiPolicySource with
  | inline =>
    by_cases htext : Text.strip (config.aiPolicyText.getD []) = [] <;> simp [htext]
  | template =>
    cases hid : config.aiPolicyId with
    | none => simp
    | some id =>
      by_cases hzero : id = 0
      · simp [hzero]
      · cases hpolicy : policies.find? (·.id = id) with
        | none => simp [Option.filter, hzero, hpolicy]
        | some policy =>
          by_cases henabled : policy.isEnabled = true <;> by_cases htext : Text.strip policy.ruleText = [] <;>
            simp [Option.filter, hzero, hpolicy, henabled, htext]

/-- A missing source is the default one. -/
theorem normalizeAiPolicySource_getD (source : Option Text) :
    normalizeAiPolicySource r (some ((source.filter (· ≠ [])).getD "inline".toList)) =
      normalizeAiPolicySource r source := by
  cases source with
  | none => rfl
  | some source =>
    by_cases hnil : source = []
    · subst hnil
      rfl
    · simp [Option.filter, hnil]

/-- The AI engine evaluates what has a binding. -/
theorem aiEvaluation_isSome (mode : Mode) :
    (aiEvaluation r site mode).isSome =
      (resolveConfiguredAlertAiPolicyBinding r site.policies (site.effective r)).isSome := by
  simp [aiEvaluation]

/-- **With the AI engine in charge** a datasource is watched where there is a binding. -/
theorem watched_of_ai {now : Time} (henabled : site.config.isEnabled = true)
    (hmode : (site.effective r).engineMode r.unicode site.defaultMode = .ai) :
    site.Watched r now ↔
      (resolveConfiguredAlertAiPolicyBinding r site.policies (site.effective r)).isSome = true := by
  rw [← aiEvaluation_isSome .formal]
  simp [Site.Watched, routeAlertEngine, henabled, hmode, Option.isSome_iff_ne_none]

/-- **With the thresholds in charge** a datasource is watched where there are rules, or an enabled baseline,
or a policy to run in shadow mode. -/
theorem watched_of_threshold {now : Time} (henabled : site.config.isEnabled = true)
    (hsilenced : site.isSilenced now = false)
    (hmode : (site.effective r).engineMode r.unicode site.defaultMode ≠ .ai) :
    site.Watched r now ↔
      (site.effective r).thresholdRules ≠ [] ∨
        (normalizeBaselineConfig (some (site.effective r).baselineConfig.stored)).enabled = true ∨
          (site.effective r).aiShadowEnabled = true ∧
            (resolveConfiguredAlertAiPolicyBinding r site.policies (site.effective r)).isSome = true := by
  rw [← aiEvaluation_isSome .shadow]
  simp only [Site.Watched, routeAlertEngine, henabled, hmode, checkThresholdsAndTrigger, hsilenced]
  by_cases hrules : (site.effective r).thresholdRules = [] <;>
    by_cases hbaseline :
      (normalizeBaselineConfig (some (site.effective r).baselineConfig.stored)).enabled = true <;>
    by_cases hshadow : (site.effective r).aiShadowEnabled = true <;>
    simp [hrules, hbaseline, hshadow, Option.isSome_iff_ne_none]

/-- The engine mode of an effective config that comes from a template. -/
theorem engineMode_of_template {template : AlertTemplate}
    (htemplate : effectiveTemplate site.templates site.config = some template) :
    (site.effective r).engineMode r.unicode site.defaultMode =
      modeInForce r template.templateConfig.alertEngineMode site.defaultMode := by
  simp only [Site.effective, resolveEffectiveInspectionConfig, htemplate]
  rfl

/-- And of one that does not. -/
theorem engineMode_of_config (htemplate : effectiveTemplate site.templates site.config = none) :
    (site.effective r).engineMode r.unicode site.defaultMode =
      modeInForce r site.config.alertEngineMode site.defaultMode := by
  simp only [Site.effective, resolveEffectiveInspectionConfig, htemplate]
  rfl

/-- The binding of a template: its mode has to be `ai`, whatever mode is in force. -/
theorem binding_of_template {template : AlertTemplate}
    (htemplate : effectiveTemplate site.templates site.config = some template) :
    (resolveConfiguredAlertAiPolicyBinding r site.policies (site.effective r)).isSome = true ↔
      normalizeAlertEngineMode r.unicode template.templateConfig.alertEngineMode = .ai ∧
        Text.strip (template.templateConfig.aiPolicyText.getD []) ≠ [] := by
  have hsource : normalizeAiPolicySource r (some "inline".toList) = .inline := rfl
  simp only [Site.effective, resolveEffectiveInspectionConfig, htemplate,
    resolveConfiguredAlertAiPolicyBinding, resolveAlertAiPolicyBinding, hsource,
    normalizeAlertTemplateConfig]
  by_cases hmode : normalizeAlertEngineMode r.unicode template.templateConfig.alertEngineMode = .ai
  · by_cases htext : Text.strip (template.templateConfig.aiPolicyText.getD []) = []
    · simp [hmode, htext, stripOrNone]
      rfl
    · simp [hmode, htext, stripOrNone, Text.strip_strip]
  · simp [hmode]
    rfl

/-- The binding of an inspection config. -/
theorem binding_of_config (htemplate : effectiveTemplate site.templates site.config = none) :
    (resolveConfiguredAlertAiPolicyBinding r site.policies (site.effective r)).isSome = true ↔
      PolicyGiven r site.policies site.config := by
  rw [← resolveAlertAiPolicyBinding_isSome]
  simp only [Site.effective, resolveEffectiveInspectionConfig, htemplate,
    resolveConfiguredAlertAiPolicyBinding, resolveAlertAiPolicyBinding, normalizeAiPolicySource_getD]

/-- A template that is not in mode `ai` has no text, so that its rules are levels, expressions and
baselines. -/
theorem rules_of_template {template : AlertTemplate}
    (htemplate : effectiveTemplate site.templates site.config = some template)
    (hmode : normalizeAlertEngineMode r.unicode template.templateConfig.alertEngineMode ≠ .ai)
    (hrule : HasRule (site.effective r)) :
    (site.effective r).thresholdRules ≠ [] ∨
      (normalizeBaselineConfig (some (site.effective r).baselineConfig.stored)).enabled = true := by
  rcases hrule with ⟨x, hx, -⟩ | ⟨henabled, -⟩ | ⟨text, htext, -⟩
  · exact .inl (List.ne_nil_of_mem hx)
  · simp only [Site.effective, resolveEffectiveInspectionConfig, htemplate, normalizeAlertTemplateConfig,
      normalizeBaselineConfig_stored] at henabled ⊢
    exact .inr henabled
  · simp [Site.effective, resolveEffectiveInspectionConfig, htemplate, normalizeAlertTemplateConfig,
      hmode] at htext

/-- **A datasource is watched iff the engine in charge has what it needs.** -/
theorem watched_iff (r : Router) (site : Site) (now : Time) :
    (site.Eligible r now → site.Watched r now) ↔ (site.Eligible r now → site.Covered r) := by
  refine forall_congr' fun ⟨henabled, hsilenced, hrule⟩ => ?_
  unfold Site.Covered
  cases htemplate : effectiveTemplate site.templates site.config with
  | some template =>
    have hengine := engineMode_of_template (r := r) htemplate
    by_cases hai : modeInForce r template.templateConfig.alertEngineMode site.defaultMode = .ai
    · rw [watched_of_ai henabled (hengine.trans hai), binding_of_template htemplate]
      simp [hai]
    · -- the mode of the template itself is not `ai` either
      have hmode : normalizeAlertEngineMode r.unicode template.templateConfig.alertEngineMode ≠ .ai := by
        intro hmode
        exact hai (by simp [modeInForce, hmode])
      rw [watched_of_threshold henabled hsilenced (by rwa [hengine])]
      have := rules_of_template htemplate hmode hrule
      simp only [hai, false_implies, iff_true]
      tauto
  | none =>
    have hengine := engineMode_of_config (r := r) htemplate
    by_cases hai : modeInForce r site.config.alertEngineMode site.defaultMode = .ai
    · rw [watched_of_ai henabled (hengine.trans hai), binding_of_config htemplate]
      simp [hai]
    · rw [watched_of_threshold henabled hsilenced (by rwa [hengine]), binding_of_config htemplate]
      simp [hai, Site.effective, resolveEffectiveInspectionConfig, htemplate]

/-- A router whose parameters do nothing. -/
def Router.plain : Router where
  unicode := .asciiOnly
  sha256 _ _ text := text
  severityInstruction _ := none

/-- A datasource under a template that inherits its mode, where the default mode is `ai`. -/
def inheriting : Site where
  templates := [{ id := 1, templateConfig := (normalizeAlertTemplateConfig .asciiOnly {}).stored }]
  defaultMode := some "ai".toList
  config := { datasourceId := 1 }

/-- **Nobody evaluates it**, though its template has levels for three metrics. -/
theorem not_watched : ∃ (r : Router) (site : Site) (now : Time), ¬ (site.Eligible r now → site.Watched r now) := by
  refine ⟨.plain, inheriting, 0, fun hwatched => hwatched ⟨rfl, rfl, .inl ?_⟩ ?_⟩
  · exact ⟨_, List.mem_cons_self, .inl rfl⟩
  · decide

end DBClaw.Ai
