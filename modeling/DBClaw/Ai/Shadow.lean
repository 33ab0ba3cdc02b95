import DBClaw.Ai.Routing

/-! # Shadow mode
While the thresholds are in charge, the AI engine may evaluate a policy in shadow mode, which is to leave a
trace of what it would have done and nothing else. Normalisation drops the flag of a template in every mode
but `ai`, and the router looks at it in every mode but `ai`. An evaluation in shadow mode leaves the alerts
and the transition of the runtime state alone, and writes the verdict over the last one of the formal mode. -/

namespace DBClaw.Ai

open Alerts (AlertStore Time)
open Alerts.Templates

variable {cfg : Setting}

/-! ## What is configured -/

/-- The submitted config of a template enables shadow mode, with the thresholds in charge. -/
def ShadowConfigured (r : Router) (payload : TemplatePayload) (defaultMode : Option Text) : Prop :=
  payload.aiShadowEnabled = true ∧ modeInForce r payload.alertEngineMode defaultMode = .threshold

/-- The config of a template as it is saved. -/
def saved (r : Router) (payload : TemplatePayload) : TemplatePayload :=
  (normalizeAlertTemplateConfig r.unicode payload).stored

/-- The saved config enables shadow mode, and so does every cycle of a datasource that it is for. -/
def ShadowKept (r : Router) (payload : TemplatePayload) (defaultMode : Option Text) : Prop :=
  (saved r payload).aiShadowEnabled = true ∧
    ∀ (site : Site) (now : Time), site.config.isEnabled = true → site.defaultMode = defaultMode →
      (∃ template, effectiveTemplate site.templates site.config = some template ∧
        template.templateConfig = saved r payload) →
      ∃ binding, .policy binding .shadow ∈ routeAlertEngine r site now

/-- The flag is dropped where it would be looked at. -/
theorem saved_aiShadowEnabled (r : Router) {payload : TemplatePayload} {defaultMode : Option Text}
    (hmode : modeInForce r payload.alertEngineMode defaultMode = .threshold) :
    (saved r payload).aiShadowEnabled = false := by
  have hai : normalizeAlertEngineMode r.unicode payload.alertEngineMode ≠ .ai := by
    intro hai
    simp [modeInForce, hai] at hmode
  simp [saved, TemplateConfig.stored, normalizeAlertTemplateConfig, hai]

/-! ## What an evaluation in shadow mode writes -/

/-- The row already shows this verdict as the last one. -/
def RuntimeState.Shows (binding : Binding) (judgeResult : JudgeResult) (now : Time) (state : RuntimeState) :
    Prop :=
  state.policyId = binding.policyId ∧ state.policySource = binding.policySource ∧
    state.lastDecision = some judgeResult.decision ∧ state.lastConfidence = some judgeResult.confidence ∧
      state.lastReason = some judgeResult.reason ∧ state.lastEvidence = some judgeResult.evidence ∧
        state.lastEvaluatedAt = some now

/-- **There is nothing to write**: the policy has a row, and if the model is asked, the row shows its
verdict. -/
def Pass.Recorded (cfg : Setting) (p : Pass) (w : World) : Prop :=
  ∃ state ∈ w.states, state.isFor p.datasourceId p.binding.policyFingerprint = true ∧
    (p.Asks w → state.Shows p.binding (evaluateAlertAiPolicy cfg p.binding p.answer) p.now)

/-- The unique constraint of the table. -/
def Keyed (states : List RuntimeState) : Prop :=
  (states.map fun s => (s.datasourceId, s.policyFingerprint)).Nodup

instance (states : List RuntimeState) : Decidable (Keyed states) := inferInstanceAs (Decidable (List.Nodup _))

section Shadow

variable {p : Pass} {w : World}

@[simp] theorem gated_shadow (hmode : p.mode = .shadow) (state : RuntimeState) : p.gated state = state := by
  simp [Pass.gated, hmode]

@[simp] theorem hit_shadow (hmode : p.mode = .shadow) (state : RuntimeState) : p.hit state = state := by
  simp [Pass.hit, hmode]

@[simp] theorem evaluated_shadow (hmode : p.mode = .shadow) (state : RuntimeState) :
    p.evaluated state = state := by
  simp [Pass.evaluated, hmode]

/-- A verdict in shadow mode is recorded, and that is all. -/
theorem applyAlertAiResult_shadow (store : AlertStore) (binding : Binding) (state : RuntimeState)
    (judgeResult : JudgeResult) (now : Time) :
    applyAlertAiResult cfg store binding state judgeResult .shadow now =
      (store, recordResult binding judgeResult (transitionOf cfg state judgeResult now) .shadow now state) := by
  simp [applyAlertAiResult, takeAction]

/-- The row that a pass in shadow mode writes. -/
def Pass.shadowed (cfg : Setting) (p : Pass) (w : World) : RuntimeState :=
  let judgeResult := evaluateAlertAiPolicy cfg p.binding p.answer
  if p.gate.shouldEvaluate = true ∧
      shouldSkipCandidateDueToInterval (p.state w) p.gate p.config p.now = false then
    recordResult p.binding judgeResult (transitionOf cfg (p.state w) judgeResult p.now) .shadow p.now (p.state w)
  else p.state w

/-- **A pass in shadow mode** keeps the alerts and the events, and writes one row. -/
theorem checkAiAlertsAndTrigger_shadow (hmode : p.mode = .shadow) :
    checkAiAlertsAndTrigger cfg p w =
      ⟨w.store, writeState (p.shadowed cfg w) (getOrCreateRuntimeState p.datasourceId p.binding w.states).2⟩ := by
  simp only [checkAiAlertsAndTrigger, Pass.shadowed, Pass.state, gated_shadow hmode, hit_shadow hmode,
    evaluated_shadow hmode, hmode, applyAlertAiResult_shadow, reduceCtorEq, ↓reduceIte]
  by_cases hgate : p.gate.shouldEvaluate = true
  · by_cases hskip : shouldSkipCandidateDueToInterval
        (getOrCreateRuntimeState p.datasourceId p.binding w.states).1 p.gate p.config p.now = true
    · simp [hgate, hskip]
    · simp [hgate, hskip]
  · simp [hgate]

/-- Rows with the same key are the same row. -/
theorem Keyed.eq {states : List RuntimeState} (hkeys : Keyed states) {s t : RuntimeState} (hs : s ∈ states)
    (ht : t ∈ states) {datasourceId : ℕ} {fingerprint : Text} (hsFor : s.isFor datasourceId fingerprint = true)
    (htFor : t.isFor datasourceId fingerprint = true) : s = t := by
  simp only [RuntimeState.isFor, decide_eq_true_eq] at hsFor htFor
  refine List.inj_on_of_nodup_map hkeys hs ht ?_
  rw [hsFor.1, hsFor.2, htFor.1, htFor.2]

/-- Writing a row changes nothing iff the row is there. -/
theorem writeState_eq_iff {states : List RuntimeState} (hkeys : Keyed states) {found state : RuntimeState}
    (hfound : found ∈ states) (hfor : found.isFor state.datasourceId state.policyFingerprint = true) :
    writeState state states = states ↔ state = found := by
  have hmap : writeState state states = states ↔
      ∀ old ∈ states, (if old.isFor state.datasourceId state.policyFingerprint then state else old) = old := by
    conv_lhs => rw [writeState, ← List.map_id states, List.map_map]
    exact List.map_inj_left
  rw [hmap]
  constructor
  · intro hall
    simpa [hfor] using hall found hfound
  · rintro rfl old hold
    split
    · rename_i holdFor
      exact hkeys.eq hfound hold hfor holdFor
    · rfl

/-- The row that is written has the key of the pass. -/
theorem shadowed_key (hmode : p.mode = .shadow) {found : RuntimeState}
    (hfind : w.states.find? (·.isFor p.datasourceId p.binding.policyFingerprint) = some found) :
    found.isFor (p.shadowed cfg w).datasourceId (p.shadowed cfg w).policyFingerprint = true := by
  have hfor := List.find?_some hfind
  have hstate : p.state w = found := by
    simp [Pass.state, gated_shadow hmode, getOrCreateRuntimeState, hfind]
  simp only [RuntimeState.isFor, decide_eq_true_eq] at hfor
  simp only [Pass.shadowed, hstate]
  split <;> simp [RuntimeState.isFor, recordResult, hfor]

/-- Recording a verdict changes nothing iff the row shows it. -/
theorem recordResult_eq_iff {binding : Binding} {judgeResult : JudgeResult} {transition : AlertAITransition}
    {now : Time} {state : RuntimeState} (hfor : state.policyFingerprint = binding.policyFingerprint) :
    recordResult binding judgeResult transition .shadow now state = state ↔
      state.Shows binding judgeResult now := by
  obtain ⟨⟩ := state
  simp only [recordResult, RuntimeState.Shows, RuntimeState.mk.injEq]
  simp [← hfor, eq_comm]

/-- **A pass in shadow mode leaves everything as it was** iff there is nothing to write. -/
theorem shadow_eq_iff (hmode : p.mode = .shadow) (hkeys : Keyed w.states) :
    checkAiAlertsAndTrigger cfg p w = w ↔ p.Recorded cfg w := by
  rw [checkAiAlertsAndTrigger_shadow hmode]
  cases hfind : w.states.find? (·.isFor p.datasourceId p.binding.policyFingerprint) with
  | none =>
    -- a row is added
    have hnone : ¬ p.Recorded cfg w := by
      rintro ⟨state, hstate, hfor, -⟩
      exact List.find?_eq_none.mp hfind state hstate hfor
    refine iff_of_false (fun heq => ?_) hnone
    have hlength := congrArg (fun w : World => w.states.length) heq
    simp [writeState, getOrCreateRuntimeState, hfind] at hlength
  | some found =>
    have hmem := List.mem_of_find?_eq_some hfind
    have hfor := List.find?_some hfind
    have hstate : p.state w = found := by
      simp [Pass.state, gated_shadow hmode, getOrCreateRuntimeState, hfind]
    have hrecorded : p.Recorded cfg w ↔
        (p.Asks w → found.Shows p.binding (evaluateAlertAiPolicy cfg p.binding p.answer) p.now) := by
      constructor
      · rintro ⟨state, hmem', hfor', hshows⟩
        rwa [hkeys.eq hmem hmem' hfor hfor']
      · exact fun hshows => ⟨found, hmem, hfor, hshows⟩
    have hwrite : (⟨w.store, writeState (p.shadowed cfg w)
        (getOrCreateRuntimeState p.datasourceId p.binding w.states).2⟩ : World) = w ↔
          p.shadowed cfg w = found := by
      rw [← writeState_eq_iff hkeys hmem (shadowed_key hmode hfind)]
      obtain ⟨store, states⟩ := w
      simp [getOrCreateRuntimeState, hfind]
    rw [hwrite, hrecorded]
    have hkey : found.policyFingerprint = p.binding.policyFingerprint := by
      simp only [RuntimeState.isFor, decide_eq_true_eq] at hfor
      exact hfor.2
    have hasks : p.Asks w ↔ p.gate.shouldEvaluate = true ∧
        shouldSkipCandidateDueToInterval found p.gate p.config p.now = false := by
      rw [Pass.Asks, hit_shadow hmode, hstate]
    rw [hasks, Pass.shadowed, hstate]
    split
    · rename_i hask
      rw [recordResult_eq_iff hkey]
      exact ⟨fun hshows _ => hshows, fun hshows => hshows hask⟩
    · rename_i hask
      exact iff_of_true rfl fun h => absurd h hask

/-- The alerts and the events are as before, whatever the verdict. -/
theorem store_shadow (hmode : p.mode = .shadow) : (checkAiAlertsAndTrigger cfg p w).store = w.store := by
  rw [checkAiAlertsAndTrigger_shadow hmode]

end Shadow

/-! ## Where shadow mode keeps its promise -/

/-- **Shadow mode of a template runs only where it is not configured, and leaves everything as it was only
where there is nothing to write.** -/
theorem shadow_iff (cfg : Setting) (r : Router) (payload : TemplatePayload) (defaultMode : Option Text) (p : Pass)
    (w : World) (hmode : p.mode = .shadow) (hkeys : Keyed w.states) :
    ((ShadowConfigured r payload defaultMode → ShadowKept r payload defaultMode) ↔
        ¬ ShadowConfigured r payload defaultMode) ∧
      (checkAiAlertsAndTrigger cfg p w = w ↔ p.Recorded cfg w) := by
  refine ⟨⟨fun hkept hconfigured => ?_, fun hnot hconfigured => absurd hconfigured hnot⟩,
    shadow_eq_iff hmode hkeys⟩
  have hdropped := saved_aiShadowEnabled r hconfigured.2
  rw [(hkept hconfigured).1] at hdropped
  cases hdropped

/-- A template with thresholds and a policy in shadow mode, as it is submitted. -/
def shadowTemplate : TemplatePayload where
  alertEngineMode := some "threshold".toList
  aiPolicyText := some "high load".toList
  aiShadowEnabled := true

/-- An evaluation of a policy, with a verdict. -/
def evaluation (decision : Text) (mode : Mode) (now : Time) : Pass where
  datasourceId := 1
  binding := { policyFingerprint := "inline".toList, displayName := "AI 智能判警".toList }
  gate := { shouldEvaluate := true, candidateType := "trigger", gateReason := "candidate_trigger" }
  answer := .parsed { decision := decision, severity := .high, confidence := .fin (9 / 10), reason := [] }
  mode := mode
  now := now

/-- A world in which the policy was evaluated once, in the formal mode. -/
def evaluatedOnce : World :=
  checkAiAlertsAndTrigger .default (evaluation "alert".toList .formal 0) { store := default }

theorem shadow_iff_evaluatedOnce :
    ((ShadowConfigured .plain shadowTemplate none → ShadowKept .plain shadowTemplate none) ↔
        ¬ ShadowConfigured .plain shadowTemplate none) ∧
      (checkAiAlertsAndTrigger .default (evaluation "no_alert".toList .shadow 60) evaluatedOnce = evaluatedOnce ↔
        (evaluation "no_alert".toList .shadow 60).Recorded .default evaluatedOnce) :=
  shadow_iff .default .plain shadowTemplate none _ evaluatedOnce rfl (by decide)

/-- **The template is not run in shadow mode, and a shadow evaluation overwrites the formal verdict.** -/
theorem shadow_broken :
    ¬ (ShadowConfigured .plain shadowTemplate none → ShadowKept .plain shadowTemplate none) ∧
      checkAiAlertsAndTrigger .default (evaluation "no_alert".toList .shadow 60) evaluatedOnce ≠ evaluatedOnce := by
  constructor
  · intro hkept
    have hdropped : (saved .plain shadowTemplate).aiShadowEnabled = false := by decide
    rw [(hkept ⟨rfl, by decide⟩).1] at hdropped
    cases hdropped
  · intro heq
    have hdecision := congrArg (fun w : World => w.states.map RuntimeState.lastDecision) heq
    revert hdecision
    with_unfolding_all decide

end DBClaw.Ai
