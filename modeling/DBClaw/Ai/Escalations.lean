import DBClaw.Ai.Agreement
import DBClaw.Ai.Candidates

/-! # Escalations of AI alerts
While a policy is active, a rule of a higher severity that holds is selected as an escalation, and the model is asked.
A confident verdict for an alert then changes nothing: `compute_ai_transition` knows only whether the policy is active,
and what is left of it moves the end of the event. `escalations_takeEffect_iff` says when the alert or its event has the new
severity afterwards. -/

namespace DBClaw.Ai

open Alerts Runs

/-! ## Escalations -/

/-- `_resolve_current_alert_severity`. -/
def resolveCurrentAlertSeverity (store : AlertStore) (datasourceId : ℕ) (binding : Binding) (state : RuntimeState) :
    Option Severity :=
  (((state.alertId.bind fun id => store.alerts.find? (·.id = id)).filter (·.status.isOpen)) <|>
    findActiveAiAlert store datasourceId binding).map AlertMessage.severity

/-- The candidate step is given the state and the alert that the pass has found. -/
structure Request.IsFor (r : Request) (p : Pass) (w : World) : Prop where
  active : r.isActive = (p.state w).isActive
  evaluated : r.lastAiEvaluatedAt = (p.state w).lastAiEvaluatedAt
  severity : r.currentAlertSeverity = resolveCurrentAlertSeverity w.store p.datasourceId p.binding (p.state w)
  config : r.analysisConfig.toAnalysisConfig = p.config
  time : r.collectedAt = p.now

section Passes

variable (cfg : Setting) (python : Python)
variable (fingerprint : String → List Matched → (String → Option MetricFeature) → Option Severity → Text)

/-- The gate of every pass is what the candidate step says. -/
def Gated (w : World) : Label → Prop
  | .pass p => ∃ r : Request, r.IsFor p w ∧ p.gate = (decideAlertAiCandidate python fingerprint r).toGateDecision
  | .operate _ _ => True

/-- The verdict of a pass. -/
def Pass.judgeResult (p : Pass) : JudgeResult := evaluateAlertAiPolicy cfg p.binding p.answer

/-- **An escalation was selected**, and the model has given a confident verdict for an alert of a higher severity than
the one that is linked to the active state. -/
structure Pass.Escalation (p : Pass) (w : World) (a : AlertMessage) : Prop where
  formal : p.mode = .formal
  active : (p.state w).isActive = true
  mem : a ∈ w.store.alerts
  linked : IsLinked (p.state w) a
  selected : p.gate.candidateType = "escalation"
  asks : p.Asks w
  accepted : (p.judgeResult cfg).errorMessage = none
  alerts : normalizeDecision cfg.unicode (p.judgeResult cfg).decision = "alert".toList
  confident : cfg.confidenceThreshold.le (p.judgeResult cfg).confidence = true
  higher : a.severity.order < (p.judgeResult cfg).severity.order

/-- The unresolved alert with this id or its event has the severity. -/
def HasSeverity (store : AlertStore) (id : ℕ) (severity : Severity) : Prop :=
  ∃ a ∈ store.alerts, a.id = id ∧ a.status.isOpen = true ∧
    (a.severity = severity ∨ ∃ e ∈ store.events, a.eventId = some e.id ∧ e.severity = severity)

instance (store : AlertStore) (id : ℕ) (severity : Severity) : Decidable (HasSeverity store id severity) :=
  inferInstanceAs (Decidable (∃ a ∈ store.alerts, _ ∧ _ ∧ (_ ∨ ∃ e ∈ store.events, _)))

/-- **Every escalation takes effect** in the step. -/
def TakesEffect (w : World) : Label → Prop
  | .pass p => ∀ a, p.Escalation cfg w a →
      HasSeverity (checkAiAlertsAndTrigger cfg p w).store a.id (p.judgeResult cfg).severity
  | .operate _ _ => True

/-- **The event of the alert had the severity of the verdict already**, before the step. -/
def AlreadySevere (w : World) : Label → Prop
  | .pass p => ∀ a, p.Escalation cfg w a →
      ∃ e ∈ w.store.events, a.eventId = some e.id ∧ e.severity = (p.judgeResult cfg).severity
  | .operate _ _ => True

end Passes

variable {cfg : Setting} {p : Pass} {w : World} {a : AlertMessage}

/-! ## An active policy -/

/-- **A verdict for an alert on an active policy is no transition.** -/
theorem Pass.Escalation.noop (h : p.Escalation cfg w a) :
    (transitionOf cfg (p.state w) (p.judgeResult cfg) p.now).action = .noop := by
  rw [transitionOf, computeAiTransition]
  simp only [h.alerts, h.confident, h.active, and_self, if_true]

/-- The end of the event is all that the pass touches. -/
theorem Pass.Escalation.exists_touch (h : p.Escalation cfg w a) :
    ∃ op : Option Operation, (∀ o ∈ op, ∃ key, o = .touch key) ∧
      (checkAiAlertsAndTrigger cfg p w).store = applyOption cfg.window w.store p.now op := by
  obtain ⟨hevaluate, hinterval⟩ := h.asks
  have htake : takeAction cfg w.store p.binding (p.evaluated (p.hit (p.state w))) (p.judgeResult cfg) p.mode p.now =
      (w.store, p.evaluated (p.hit (p.state w)), .noop) := by
    rw [takeAction, if_pos ⟨h.formal, h.accepted⟩, transitionOf_evaluated, h.noop]
  obtain ⟨op, hop, hresult⟩ := exists_touch_of_noop htake
  refine ⟨op, hop, ?_⟩
  rw [checkAiAlertsAndTrigger]
  rw [Pass.state] at hinterval
  simp only [hevaluate, hinterval]
  exact congrArg Prod.fst hresult

/-- Moving the end of an event changes no severity. -/
theorem hasSeverity_touch {store : AlertStore} {key : AggregationKey} {now : Time} {id : ℕ} {severity : Severity} :
    HasSeverity (store.updateActiveEventTime key now) id severity ↔ HasSeverity store id severity := by
  rw [HasSeverity, HasSeverity, updateActiveEventTime_alerts]
  rw [AlertStore.updateActiveEventTime]
  cases store.openEvent key none with
  | none => rfl
  | some event =>
    have hrow : ∀ e, (AlertStore.updatedRow event.id ({ · with eventEndedAt := now }) e).severity = e.severity := by
      intro e
      rw [AlertStore.updatedRow]
      split_ifs <;> rfl
    simp only [AlertStore.updateEvent, AlertStore.updatedEvents, List.mem_map, exists_exists_and_eq_and,
      AlertStore.updatedRow_id, hrow]

/-- **The severities after an escalation are those before it.** -/
theorem Pass.Escalation.hasSeverity_iff (h : p.Escalation cfg w a) {id : ℕ} {severity : Severity} :
    HasSeverity (checkAiAlertsAndTrigger cfg p w).store id severity ↔ HasSeverity w.store id severity := by
  obtain ⟨op, hop, hstore⟩ := h.exists_touch
  rw [hstore]
  cases op with
  | none => rfl
  | some o =>
    obtain ⟨key, rfl⟩ := hop o rfl
    exact hasSeverity_touch

/-- The alert itself is below the severity, so that it is the event that has it. -/
theorem Pass.Escalation.hasSeverity_iff_event (h : p.Escalation cfg w a) (hn : Numbered w.store) :
    HasSeverity w.store a.id (p.judgeResult cfg).severity ↔
      ∃ e ∈ w.store.events, a.eventId = some e.id ∧ e.severity = (p.judgeResult cfg).severity := by
  constructor
  · rintro ⟨b, hb, hid, -, hseverity | hevent⟩
    · rw [hn.eq_of_id_eq hb h.mem hid] at hseverity
      exact absurd (congrArg Severity.order hseverity) (Nat.ne_of_lt h.higher)
    · rwa [hn.eq_of_id_eq hb h.mem hid] at hevent
  · intro hevent
    exact ⟨a, h.mem, rfl, h.linked.2.2, .inr hevent⟩

/-! ## Runs -/

/-- **An escalation takes effect just where its event was severe enough before.** -/
theorem takesEffect_iff (hn : Numbered w.store) (label : Label) :
    TakesEffect cfg w label ↔ AlreadySevere cfg w label := by
  cases label with
  | pass p =>
    refine forall_congr' fun a => forall_congr' fun h => ?_
    rw [h.hasSeverity_iff, h.hasSeverity_iff_event hn]
  | operate op now => exact Iff.rfl

theorem numbered_step {label : Label} {w' : World} (hn : Numbered w.store) (hstep : step cfg w label = some w') :
    Numbered w'.store := by
  cases label with
  | pass p =>
    obtain ⟨op, state, -, -, hresult⟩ := checkAiAlertsAndTrigger_spec cfg p w
    rw [← Option.some.inj hstep, hresult]
    exact Numbered.applyOption hn cfg.window p.now op
  | operate op now =>
    rw [← Option.some.inj hstep]
    exact hn.apply cfg.window now op

/-- **Escalations along a run**: they take effect where, and only where, the event of the alert had the severity of
the verdict before. -/
theorem escalations_takeEffect_iff (cfg : Setting) (python : Python)
    (fingerprint : String → List Matched → (String → Option MetricFeature) → Option Severity → Text)
    (labels : List Label) (w : World) :
    Run (step cfg) (fun w label => Gated python fingerprint w label ∧ TakesEffect cfg w label) {} labels w ↔
      Run (step cfg) (fun w label => Gated python fingerprint w label ∧ AlreadySevere cfg w label) {} labels w := by
  constructor
  · refine Run.strengthen (I := fun w => Numbered w.store) ?_ (fun w label w' hn _ => numbered_step hn) numbered_empty
    rintro w label hn ⟨hgated, heffect⟩
    exact ⟨hgated, (takesEffect_iff hn label).mp heffect⟩
  · refine Run.strengthen (I := fun w => Numbered w.store) ?_ (fun w label w' hn _ => numbered_step hn) numbered_empty
    rintro w label hn ⟨hgated, hsevere⟩
    exact ⟨hgated, (takesEffect_iff hn label).mpr hsevere⟩

/-! ## An escalation from high to critical -/

/-- The processor of a datasource is at 99 percent; the policy alerts from 80 percent on, and above 95 percent the
alert is to be critical. -/
def busyRequest (isActive : Bool) (last : Option Time) (severity : Option Severity) (now : Time) : Request where
  profile := {
    focusMetrics := ["cpu_usage"]
    triggerConditions := [{ metric := "cpu_usage", threshold := .fin 80, severity := some .high }]
    recoveryConditions := [{ metric := "cpu_usage", operator := .le, threshold := .fin 80 }]
    escalationRules := [{ metric := "cpu_usage", threshold := .fin 95, severity := some .critical }] }
  isActive := isActive
  lastAiEvaluatedAt := last
  currentMetrics := [("cpu_usage", .int 99)]
  collectedAt := now
  snapshotsDesc := [⟨now, [("cpu_usage", .int 99)]⟩]
  currentAlertSeverity := severity

/-- A candidate is known by its type. -/
def typeFingerprint (candidateType : String) (_ : List Matched) (_ : String → Option MetricFeature)
    (_ : Option Severity) : Text := candidateType.toList

/-- The pass in which the model answers the candidate with an alert of a severity. -/
def busyPass (r : Request) (severity : Severity) : Pass where
  datasourceId := 1
  binding :=
    { policyFingerprint := "inline".toList
      displayName := "CPU".toList }
  gate := (decideAlertAiCandidate Baselines.numbersOnly typeFingerprint r).toGateDecision
  answer := .parsed
    { decision := "alert".toList, severity := severity, confidence := .fin (9 / 10), reason := [] }
  mode := .formal
  now := r.collectedAt

/-- Two verdicts trigger an alert of high severity. -/
def busyStart : List Label := [
  .pass (busyPass (busyRequest false none none 0) .high),
  .pass (busyPass (busyRequest false (some 0) none (Time.seconds 300)) .high)]

/-- The pass after them: the rule for a critical alert holds, and the model agrees. -/
def busyEscalation : Pass := busyPass (busyRequest true (some (Time.seconds 300)) (some .high) (Time.seconds 600)) .critical

/-- The alert that they have triggered. -/
def busyAlert : AlertMessage where
  id := 1
  datasourceId := 1
  alertType := "ai_policy_violation"
  severity := .high
  metricName := some "CPU"
  createdAt := Time.seconds 300
  eventId := some 1

/-- **The escalation is selected and confirmed, and the alert and its event stay high.** -/
theorem busyEscalation_without_effect :
    ∃ w, Run (step .default) (Gated Baselines.numbersOnly typeFingerprint) {} busyStart w ∧
      Gated Baselines.numbersOnly typeFingerprint w (.pass busyEscalation) ∧
      ¬ TakesEffect .default w (.pass busyEscalation) := by
  refine ⟨_, .cons ⟨busyRequest false none none 0, ⟨?_, ?_, ?_, rfl, rfl⟩, rfl⟩ rfl (.cons
    ⟨busyRequest false (some 0) none (Time.seconds 300), ⟨?_, ?_, ?_, rfl, rfl⟩, rfl⟩ rfl (.nil _)),
    ⟨busyRequest true (some (Time.seconds 300)) (some .high) (Time.seconds 600), ⟨?_, ?_, ?_, rfl, rfl⟩, rfl⟩,
    fun h => absurd (h busyAlert ⟨rfl, ?_, ?_, ?_, ?_, ?_, ?_, ?_, ?_, ?_⟩) ?_⟩
  all_goals with_unfolding_all decide

end DBClaw.Ai
