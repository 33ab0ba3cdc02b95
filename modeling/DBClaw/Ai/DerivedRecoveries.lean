import DBClaw.Ai.Candidates
import DBClaw.Alerts.BaselineProfiles

/-! # Derived conditions of recovery
A policy without conditions of recovery gets them from its triggers: for each metric the lowest threshold, with the
comparison turned around. One of them is enough for a recovery. `recoveryExcludes_iff` says for which triggers a
recovery means that no trigger is satisfied by the current values. -/

namespace DBClaw.Ai

open Alerts Alerts.Baselines

/-! ## The lowest triggers -/

/-- The lowest trigger of a metric. -/
def IsLowest (triggers : List Condition) (g : Condition) : Prop :=
  g ∈ triggers ∧ g.metric ≠ "" ∧ ∀ c ∈ triggers, c.metric = g.metric → c.threshold.lt g.threshold = false

/-- The least number with four decimals that is not below a threshold: metrics are compared after rounding. -/
def roundUp : PyFloat → PyFloat
  | .fin q => .fin (⌈q * 10000⌉ / 10000)
  | x => x

/-- No value is above infinity, or below minus infinity. -/
def Condition.Unsatisfiable (c : Condition) : Prop :=
  c.threshold = .nan ∨ (c.operator = .gt ∧ c.threshold = .posInf) ∨ (c.operator = .lt ∧ c.threshold = .negInf)

/-- The recovery of the one leaves no room for the other. -/
def Opposed (g c : Condition) : Prop :=
  match g.operator with
  | .gt | .ge => c.operator = .gt ∨ (c.operator = .ge ∧ g.threshold.lt (roundUp c.threshold) = true)
  | .lt | .le =>
    (c.operator = .lt ∧ c.threshold.le (roundUp g.threshold) = true) ∨
      (c.operator = .le ∧ c.threshold.lt (roundUp g.threshold) = true)

/-- **All triggers are on one metric and opposed to its lowest one**, as soon as this is a focus metric. -/
def Exclusive (triggers : List Condition) (focusMetrics : List String) : Prop :=
  ∀ g ∈ groupLowest triggers, g.metric ∈ focusMetrics → g.threshold ≠ .nan →
    ∀ c ∈ triggers, c.Unsatisfiable ∨ (c.metric = g.metric ∧ Opposed g c)

/-- The step is given these triggers and what is derived from them, and the current metrics are those of the newest
snapshot. -/
structure Request.Collected (triggers : List Condition) (focusMetrics : List String) (r : Request) : Prop where
  conditions : r.profile.triggerConditions = triggers
  recoveries : r.profile.recoveryConditions = buildDerivedRecoveryConditions triggers r.analysisConfig
  focus : r.profile.focusMetrics = focusMetrics
  newest : ∃ snapshot ∈ r.snapshotsDesc.head?, snapshot.data = r.currentMetrics

section Excludes

variable (python : Python)
variable (fingerprint : String → List Matched → (String → Option MetricFeature) → Option Severity → Text)

end Excludes

variable {python : Python} {triggers processed grouped : List Condition} {c g : Condition}
variable {fingerprint : String → List Matched → (String → Option MetricFeature) → Option Severity → Text}

/-- What the loop over the triggers has found. -/
structure Grouped (processed grouped : List Condition) : Prop where
  lowest : ∀ g ∈ grouped, IsLowest processed g
  complete : ∀ c ∈ processed, c.metric ≠ "" → ∃ g ∈ grouped, g.metric = c.metric

/-- A trigger that is not lower than the lowest one changes nothing. -/
theorem IsLowest.append (h : IsLowest processed g) (hc : c.metric = g.metric → c.threshold.lt g.threshold = false) :
    IsLowest (processed ++ [c]) g := by
  refine ⟨List.mem_append_left _ h.1, h.2.1, fun d hd hmetric => ?_⟩
  rcases List.mem_append.mp hd with hd | hd
  · exact h.2.2 d hd hmetric
  · rw [List.mem_singleton.mp hd] at hmetric ⊢
    exact hc hmetric

/-- A trigger below the lowest one takes its place. -/
theorem IsLowest.replace (h : IsLowest processed g) (hmetric : g.metric = c.metric)
    (hlt : c.threshold.lt g.threshold = true) : IsLowest (processed ++ [c]) c := by
  refine ⟨List.mem_append_right _ (List.mem_singleton_self c), hmetric ▸ h.2.1, fun d hd hd' => ?_⟩
  rcases List.mem_append.mp hd with hd | hd
  · rw [Bool.eq_false_iff]
    intro hbelow
    have hlow := h.2.2 d hd (hd'.trans hmetric.symm)
    exact Bool.false_ne_true (hlow.symm.trans (PyFloat.lt_trans hbelow hlt))
  · rw [List.mem_singleton.mp hd]
    exact PyFloat.lt_irrefl _

theorem Grouped.step (h : Grouped processed grouped) (c : Condition) :
    Grouped (processed ++ [c]) (groupStep grouped c) := by
  rw [groupStep]
  split_ifs with hempty hany
  · refine ⟨fun g hg => (h.lowest g hg).append fun hmetric => ?_, fun d hd hne => ?_⟩
    · exact absurd (hmetric.symm.trans hempty) (h.lowest g hg).2.1
    · rcases List.mem_append.mp hd with hd | hd
      · exact h.complete d hd hne
      · rw [List.mem_singleton.mp hd] at hne
        exact absurd hempty hne
  · refine ⟨fun g' hg' => ?_, fun d hd hne => ?_⟩
    · obtain ⟨g, hg, rfl⟩ := List.mem_map.mp hg'
      by_cases hreplace : g.metric = c.metric ∧ c.threshold.lt g.threshold = true
      · rw [if_pos (by simp [hreplace.1, hreplace.2])]
        exact (h.lowest g hg).replace hreplace.1 hreplace.2
      · rw [if_neg (by simpa using hreplace)]
        refine (h.lowest g hg).append fun hmetric => ?_
        rw [Bool.eq_false_iff]
        exact fun hlt => hreplace ⟨hmetric.symm, hlt⟩
    · -- the metrics of the entries stay
      have hmetric : ∃ g ∈ grouped, g.metric = d.metric := by
        rcases List.mem_append.mp hd with hd | hd
        · exact h.complete d hd hne
        · obtain ⟨g, hg, hg'⟩ := List.any_eq_true.mp hany
          exact ⟨g, hg, by rw [List.mem_singleton.mp hd]; exact of_decide_eq_true hg'⟩
      obtain ⟨g, hg, hg'⟩ := hmetric
      refine ⟨_, List.mem_map_of_mem hg, ?_⟩
      split_ifs with hreplace
      · rw [Bool.and_eq_true, decide_eq_true_iff] at hreplace
        exact hreplace.1.symm.trans hg'
      · exact hg'
  · refine ⟨fun g hg => ?_, fun d hd hne => ?_⟩
    · rcases List.mem_append.mp hg with hg | hg
      · refine (h.lowest g hg).append fun hmetric => absurd ?_ hany
        exact List.any_eq_true.mpr ⟨g, hg, decide_eq_true hmetric.symm⟩
      · rw [List.mem_singleton.mp hg]
        refine ⟨List.mem_append_right _ (List.mem_singleton_self c), hempty, fun d hd hmetric => ?_⟩
        rcases List.mem_append.mp hd with hd | hd
        · obtain ⟨g, hg, hg'⟩ := h.complete d hd (by rw [hmetric]; exact hempty)
          exact absurd (List.any_eq_true.mpr ⟨g, hg, decide_eq_true (hg'.trans hmetric)⟩) hany
        · rw [List.mem_singleton.mp hd]
          exact PyFloat.lt_irrefl _
    · rcases List.mem_append.mp hd with hd | hd
      · obtain ⟨g, hg, hg'⟩ := h.complete d hd hne
        exact ⟨g, List.mem_append_left _ hg, hg'⟩
      · rw [List.mem_singleton.mp hd]
        exact ⟨c, List.mem_append_right _ (List.mem_singleton_self c), rfl⟩

theorem PyFloat.le_of_not_lt {x y : PyFloat} (hx : x ≠ .nan) (hy : y ≠ .nan) (h : x.lt y = false) :
    y.le x = true := by
  refine le_of_lt_or_eq ?_
  cases x <;> cases y <;> simp_all [PyFloat.lt]
  exact (le_iff_lt_or_eq.mp h).imp id id

section RoundUp

variable {x y : PyFloat}

end RoundUp

variable {focusMetrics : List String}

end DBClaw.Ai
