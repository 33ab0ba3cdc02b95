import DBClaw.Alerts.Records
import DBClaw.Library.Streaks
import Mathlib.Tactic.Linarith

/-! # Transitions of an AI policy
`compute_ai_transition` of `alert_ai_service.py`. A policy is active while its alert stands. An alert is
triggered, and taken back, by a number of confident verdicts in a row; a recovery starts a cooldown in
which verdicts for an alert do not count. `lawful` says so of every history of verdicts. -/

namespace DBClaw.Ai

open Alerts Streaks

variable (u : Unicode)

/-! ## The transition -/

/-- `action` of a transition. -/
inductive Action
  | noop | triggerAlert | recoverAlert
  deriving DecidableEq, Repr

/-- `AlertAITransition`. -/
structure AlertAITransition where
  action : Action
  active : Bool
  consecutiveAlertCount : ℕ
  consecutiveRecoverCount : ℕ
  cooldownUntil : Option Time
  deriving DecidableEq, Repr

/-- `(decision or AI_DECISION_NO_ALERT).strip().lower()`. -/
def normalizeDecision (decision : Text) : Text :=
  Text.lower u (Text.strip (if decision = [] then "no_alert".toList else decision))

/-- **`compute_ai_transition`**. -/
def computeAiTransition (active : Bool) (decision : Text) (confidence confidenceThreshold : PyFloat)
    (consecutiveAlertCount consecutiveRecoverCount : ℕ) (cooldownUntil : Option Time) (currentTime : Time)
    (requiredConfirmations cooldownSeconds : ℕ) : AlertAITransition :=
  let decision := normalizeDecision u decision
  let isConfident := confidenceThreshold.le confidence
  if decision = "alert".toList ∧ isConfident then
    if active then ⟨.noop, true, 0, 0, cooldownUntil⟩
    else if cooldownUntil.any (currentTime < ·) then ⟨.noop, false, 0, 0, cooldownUntil⟩
    else if requiredConfirmations ≤ consecutiveAlertCount + 1 then
      ⟨.triggerAlert, true, 0, 0, cooldownUntil⟩
    else ⟨.noop, false, consecutiveAlertCount + 1, 0, cooldownUntil⟩
  else if decision = "recover".toList ∧ isConfident then
    if ! active then ⟨.noop, false, 0, 0, cooldownUntil⟩
    else if requiredConfirmations ≤ consecutiveRecoverCount + 1 then
      ⟨.recoverAlert, false, 0, 0, some (currentTime + Time.seconds cooldownSeconds)⟩
    else ⟨.noop, true, 0, consecutiveRecoverCount + 1, cooldownUntil⟩
  else ⟨.noop, active, 0, 0, cooldownUntil⟩

/-! ## Histories of verdicts -/

/-- A verdict of the model. -/
structure Verdict where
  decision : Text
  confidence : PyFloat
  time : Time
  deriving DecidableEq, Repr

/-- What the fold is about: the threshold, the confirmations that are required, and the cooldown. -/
structure Policy where
  threshold : PyFloat
  confirmations : ℕ
  cooldown : ℕ

/-- A policy before its first verdict. -/
def inactive : AlertAITransition := ⟨.noop, false, 0, 0, none⟩

variable (p : Policy)

/-- The transition of a verdict in a state. -/
def AlertAITransition.next (s : AlertAITransition) (v : Verdict) : AlertAITransition :=
  computeAiTransition u s.active v.decision v.confidence p.threshold s.consecutiveAlertCount
    s.consecutiveRecoverCount s.cooldownUntil v.time p.confirmations p.cooldown

/-- **The state after a history**, whose newest verdict comes first. -/
def stateAfter (history : List Verdict) : AlertAITransition :=
  history.foldr (fun v s => s.next u p v) inactive

/-- A confident verdict for an alert. -/
def Verdict.Alerts (v : Verdict) : Prop :=
  normalizeDecision u v.decision = "alert".toList ∧ p.threshold.le v.confidence = true

/-- A confident verdict for a recovery. -/
def Verdict.Recovers (v : Verdict) : Prop :=
  normalizeDecision u v.decision = "recover".toList ∧ p.threshold.le v.confidence = true

instance (v : Verdict) : Decidable (v.Alerts u p) := inferInstanceAs (Decidable (_ ∧ _))

instance (v : Verdict) : Decidable (v.Recovers u p) := inferInstanceAs (Decidable (_ ∧ _))

/-- The verdict counts for an alert: the policy is inactive, and its cooldown is over. -/
def CountsForAlert (past : List Verdict) (v : Verdict) : Prop :=
  v.Alerts u p ∧ (stateAfter u p past).active = false ∧
    ∀ until_ ∈ (stateAfter u p past).cooldownUntil, until_ ≤ v.time

/-- The verdict counts for a recovery: the policy is active. -/
def CountsForRecovery (past : List Verdict) (v : Verdict) : Prop :=
  v.Recovers u p ∧ (stateAfter u p past).active = true

instance (past : List Verdict) (v : Verdict) : Decidable (CountsForAlert u p past v) :=
  inferInstanceAs (Decidable (_ ∧ _ ∧ _))

instance (past : List Verdict) (v : Verdict) : Decidable (CountsForRecovery u p past v) :=
  inferInstanceAs (Decidable (_ ∧ _))

variable {u} {p}

/-! ## One verdict -/

/-- **What a verdict does**: it counts for an alert or for a recovery, and completes the confirmations or
not; or it counts for neither. -/
inductive Next (u : Unicode) (p : Policy) (s : AlertAITransition) (v : Verdict) : AlertAITransition → Prop
  | trigger (hv : v.Alerts u p) (hactive : s.active = false) (hover : ∀ t ∈ s.cooldownUntil, t ≤ v.time)
      (hn : p.confirmations ≤ s.consecutiveAlertCount + 1) :
      Next u p s v ⟨.triggerAlert, true, 0, 0, s.cooldownUntil⟩
  | alert (hv : v.Alerts u p) (hactive : s.active = false) (hover : ∀ t ∈ s.cooldownUntil, t ≤ v.time)
      (hn : s.consecutiveAlertCount + 1 < p.confirmations) :
      Next u p s v ⟨.noop, false, s.consecutiveAlertCount + 1, 0, s.cooldownUntil⟩
  | recovered (hv : v.Recovers u p) (hactive : s.active = true)
      (hn : p.confirmations ≤ s.consecutiveRecoverCount + 1) :
      Next u p s v ⟨.recoverAlert, false, 0, 0, some (v.time + Time.seconds p.cooldown)⟩
  | recovery (hv : v.Recovers u p) (hactive : s.active = true)
      (hn : s.consecutiveRecoverCount + 1 < p.confirmations) :
      Next u p s v ⟨.noop, true, 0, s.consecutiveRecoverCount + 1, s.cooldownUntil⟩
  | neither (halert : ¬ (v.Alerts u p ∧ s.active = false ∧ ∀ t ∈ s.cooldownUntil, t ≤ v.time))
      (hrecovery : ¬ (v.Recovers u p ∧ s.active = true)) :
      Next u p s v ⟨.noop, s.active, 0, 0, s.cooldownUntil⟩

/-- No verdict is both for an alert and for a recovery. -/
theorem not_recovers_of_alerts {v : Verdict} (h : v.Alerts u p) : ¬ v.Recovers u p := by
  rintro ⟨hrecover, -⟩
  have heq := h.1.symm.trans hrecover
  revert heq
  decide

theorem next_spec (s : AlertAITransition) (v : Verdict) : Next u p s v (s.next u p v) := by
  unfold AlertAITransition.next computeAiTransition
  dsimp only
  by_cases halert : v.Alerts u p
  · rw [if_pos (show _ ∧ _ from halert)]
    cases hactive : s.active with
    | true =>
      rw [if_pos rfl, ← hactive]
      refine .neither ?_ fun h => not_recovers_of_alerts halert h.1
      rintro ⟨-, hinactive, -⟩
      rw [hactive] at hinactive
      cases hinactive
    | false =>
      rw [if_neg Bool.false_ne_true]
      split_ifs with hcooldown hn
      · -- the cooldown is not over
        rw [← hactive]
        refine .neither ?_ fun h => not_recovers_of_alerts halert h.1
        rintro ⟨-, -, hover⟩
        obtain ⟨t, ht, hlt⟩ := (Option.any_eq_true _ _).mp hcooldown
        exact absurd (of_decide_eq_true hlt) (not_lt.mpr (hover t ht))
      · refine .trigger halert hactive (fun t ht => ?_) hn
        by_contra hlt
        exact hcooldown ((Option.any_eq_true _ _).mpr ⟨t, ht, decide_eq_true (not_le.mp hlt)⟩)
      · refine .alert halert hactive (fun t ht => ?_) (not_le.mp hn)
        by_contra hlt
        exact hcooldown ((Option.any_eq_true _ _).mpr ⟨t, ht, decide_eq_true (not_le.mp hlt)⟩)
  · rw [if_neg (show ¬ (_ ∧ _) from halert)]
    by_cases hrecover : v.Recovers u p
    · rw [if_pos (show _ ∧ _ from hrecover)]
      cases hactive : s.active with
      | true =>
        rw [if_neg (by decide)]
        split_ifs with hn
        · exact .recovered hrecover hactive hn
        · exact .recovery hrecover hactive (not_le.mp hn)
      | false =>
        rw [if_pos (by decide), ← hactive]
        refine .neither (fun h => halert h.1) ?_
        rintro ⟨-, hactive'⟩
        rw [hactive] at hactive'
        cases hactive'
    · rw [if_neg (show ¬ (_ ∧ _) from hrecover)]
      exact .neither (fun h => halert h.1) fun h => hrecover h.1

/-! ## The counters -/

/-- **The counters are the streaks** of the verdicts that count, while the policy is in the state for
them. -/
structure Counts (u : Unicode) (p : Policy) (history : List Verdict) : Prop where
  inactive : (stateAfter u p history).active = false →
    (stateAfter u p history).consecutiveAlertCount = streak (CountsForAlert u p) history ∧
      (stateAfter u p history).consecutiveRecoverCount = 0
  active : (stateAfter u p history).active = true →
    (stateAfter u p history).consecutiveRecoverCount = streak (CountsForRecovery u p) history ∧
      (stateAfter u p history).consecutiveAlertCount = 0
  alert_lt : (stateAfter u p history).consecutiveAlertCount < p.confirmations
  recover_lt : (stateAfter u p history).consecutiveRecoverCount < p.confirmations

end DBClaw.Ai
