import DBClaw.Alerts.Baselines
import DBClaw.Alerts.Recovery

/-! # Recovery of baseline alerts
`_auto_resolve_recovered_baseline_alerts` has a bound of its own: the lower one of the upper bound of the profile
and its 95th percentile. `recovers_not_deviates` says that it lies below the bound of the detector, so that no
sample resolves an alert which it also counts towards. -/

namespace DBClaw.Alerts.Baselines

section Recovery

variable (python : Python) (u : Unicode)

/-- `profile.p95_value or upper_bound`: a percentile of zero is falsy. -/
def Profile.percentileOr (profile : Profile) (upperBound : PyFloat) : PyFloat :=
  match profile.p95Value with
  | none => upperBound
  | some p95 => if p95 = 0 then upperBound else .fin p95

/-- `recovery_threshold`. -/
def recoveryThreshold (profile : Profile) (upperBound : PyFloat) : PyFloat :=
  pyMin upperBound (profile.percentileOr upperBound)

/-- `upper_bound` of the detector, at the comparison. -/
def detectionBound (profile : Profile) (config : Config) (metric : Metric) : PyFloat :=
  pyMax ((computeUpperBound profile config).getD (.fin 0)) (config.metrics metric).minimum

/-- `get_profiles_for_slot` with the names of the enabled metrics, and `profiles.get(alert.metric_name)`. -/
def Call.profileFor (call : Call) (metricName : String) : Option Profile :=
  (Metric.all.find? fun metric => (call.metricConfig u metric).enabled && metric.name = metricName).bind call.profiles

/-- The value with which an alert is resolved, if it is. -/
def resolvedValue (call : Call) (violations : List Violation) (alert : AlertMessage) : Option PyFloat :=
  match alert.metricName with
  | none => none
  | some metricName =>
    if metricName = "" || violations.any (·.metricName = metricName) then none
    else do
      let currentValue ← baselineMetricValue python call.metrics metricName
      let profile ← call.profileFor u metricName
      let upperBound ← computeUpperBound profile (normalizeBaselineConfig u call.config)
      if currentValue.le (recoveryThreshold profile upperBound) then some currentValue else none

/-- **`_auto_resolve_recovered_baseline_alerts`**: the open alerts that it resolves, and with which values. -/
def autoResolveRecoveredBaselineAlerts (call : Call) (violations : List Violation) (activeAlerts : List AlertMessage) :
    List (AlertMessage × PyFloat) :=
  if (normalizeBaselineConfig u call.config).enabled then
    activeAlerts.filterMap fun alert => (resolvedValue python u call violations alert).map fun value => (alert, value)
  else []

end Recovery

variable {python : Python} {u : Unicode} {metric : Metric} {x y z : PyFloat}

/-! ## The two bounds -/

theorem le_of_lt_or_eq (h : x.lt y = true ∨ x = y ∧ x ≠ .nan) : x.le y = true := by
  rw [PyFloat.le, Bool.or_eq_true, Bool.and_eq_true, decide_eq_true_iff, decide_eq_true_iff]
  exact h

theorem PyFloat.le_refl (hx : x ≠ .nan) : x.le x = true := le_of_lt_or_eq (.inr ⟨rfl, hx⟩)

theorem PyFloat.le_trans (h : x.le y = true) (k : y.le z = true) : x.le z = true := by
  rw [PyFloat.le, Bool.or_eq_true, Bool.and_eq_true, decide_eq_true_iff, decide_eq_true_iff] at h k
  rcases h with h | ⟨rfl, hx⟩
  · rcases k with k | ⟨rfl, -⟩
    · exact le_of_lt_or_eq (.inl (PyFloat.lt_trans h k))
    · exact le_of_lt_or_eq (.inl h)
  · exact le_of_lt_or_eq (k.imp id id)

theorem PyFloat.lt_of_lt_of_le (h : x.lt y = true) (k : y.le z = true) : x.lt z = true := by
  rw [PyFloat.le, Bool.or_eq_true, Bool.and_eq_true, decide_eq_true_iff] at k
  rcases k with k | ⟨rfl, -⟩
  · exact PyFloat.lt_trans h k
  · exact h

theorem PyFloat.lt_of_le_of_lt (h : x.le y = true) (k : y.lt z = true) : x.lt z = true := by
  rw [PyFloat.le, Bool.or_eq_true, Bool.and_eq_true, decide_eq_true_iff] at h
  rcases h with h | ⟨rfl, -⟩
  · exact PyFloat.lt_trans h k
  · exact k

/-- What is at most another number is not above it. -/
theorem PyFloat.not_lt_of_le (h : x.le y = true) : y.lt x = false := by
  rw [PyFloat.le, Bool.or_eq_true, Bool.and_eq_true, decide_eq_true_iff] at h
  rcases h with h | ⟨rfl, -⟩
  · rw [Bool.eq_false_iff]
    intro hlt
    exact Bool.false_ne_true ((PyFloat.lt_irrefl x).symm.trans (PyFloat.lt_trans h hlt))
  · exact PyFloat.lt_irrefl x

/-- The minimum is at most the first one. -/
theorem pyMin_le_left (hx : x ≠ .nan) : (pyMin x y).le x = true := by
  rw [pyMin]
  split_ifs with h
  · exact le_of_lt_or_eq (.inl h)
  · exact PyFloat.le_refl hx

/-- The maximum is at least the first one. -/
theorem le_pyMax_left (hx : x ≠ .nan) : x.le (pyMax x y) = true := by
  rw [pyMax]
  split_ifs with h
  · exact le_of_lt_or_eq (.inl h)
  · exact PyFloat.le_refl hx

theorem pyMax_ne_nan (hx : x ≠ .nan) : pyMax x y ≠ .nan := by
  rw [pyMax]
  split_ifs with h
  · rintro rfl
    cases x <;> cases h
  · exact hx

/-- The delta of a normal form is a number. -/
theorem minAbsoluteDelta_ne_nan (config : Option ConfigPayload) :
    (normalizeBaselineConfig u config).minAbsoluteDelta ≠ .nan := by
  rw [normalizeBaselineConfig]
  rcases (config.getD {}).minAbsoluteDelta with _ | delta
  · rintro ⟨⟩
  · exact pyMax_ne_nan (by rintro ⟨⟩)

/-- And so is every bound. -/
theorem computeUpperBound_ne_nan {profile : Profile} {config : Option ConfigPayload}
    (h : computeUpperBound profile (normalizeBaselineConfig u config) = some x) : x ≠ .nan := by
  obtain ⟨base, -, rfl⟩ := Option.map_eq_some_iff.mp h
  have hround : ∀ y : PyFloat, y ≠ .nan → round4 y ≠ .nan := by
    intro y hy
    cases y with
    | fin q => rintro ⟨⟩
    | nan | negInf | posInf => exact hy
  exact hround _ (pyMax_ne_nan (by rintro ⟨⟩))

/-- **The recovery bound is never above the detection bound.** -/
theorem recoveryThreshold_le {profile : Profile} {config : Option ConfigPayload}
    (h : computeUpperBound profile (normalizeBaselineConfig u config) = some x) :
    (recoveryThreshold profile x).le (detectionBound profile (normalizeBaselineConfig u config) metric) = true := by
  have hx := computeUpperBound_ne_nan h
  rw [detectionBound, h]
  exact PyFloat.le_trans (pyMin_le_left hx) (le_pyMax_left hx)

/-! ## Recovery and detection -/

/-- A resolved alert is one of an enabled metric, whose sample is at most the recovery bound. -/
theorem exists_of_resolvedValue {call : Call} {violations : List Violation} {alert : AlertMessage} {value : PyFloat}
    (h : resolvedValue python u call violations alert = some value) :
    ∃ metric profile upperBound, alert.metricName = some metric.name ∧ call.profiles metric = some profile ∧
      baselineMetricValue python call.metrics metric.name = some value ∧
      computeUpperBound profile (normalizeBaselineConfig u call.config) = some upperBound ∧
      value.le (recoveryThreshold profile upperBound) = true := by
  rw [resolvedValue] at h
  rcases hname : alert.metricName with _ | metricName
  · rw [hname] at h
    cases h
  · simp only [hname] at h
    split_ifs at h with hskip
    obtain ⟨currentValue, hvalue, h⟩ := Option.bind_eq_some_iff.mp h
    obtain ⟨profile, hfor, h⟩ := Option.bind_eq_some_iff.mp h
    obtain ⟨upperBound, hupper, h⟩ := Option.bind_eq_some_iff.mp h
    split_ifs at h with hle
    obtain rfl := Option.some.inj h
    obtain ⟨metric, hfind, hprofile⟩ := Option.bind_eq_some_iff.mp hfor
    have hmetric := List.find?_some hfind
    rw [Bool.and_eq_true, decide_eq_true_iff] at hmetric
    obtain rfl := hmetric.2
    exact ⟨metric, profile, upperBound, rfl, hprofile, hvalue, hupper, hle⟩

/-- A sample that is at most the recovery bound is no deviation. -/
theorem not_deviates_of_le {call : Call} {profile : Profile} {value upperBound : PyFloat}
    (hprofile : call.profiles metric = some profile)
    (hvalue : baselineMetricValue python call.metrics metric.name = some value)
    (hupper : computeUpperBound profile (normalizeBaselineConfig u call.config) = some upperBound)
    (hle : value.le (recoveryThreshold profile upperBound) = true) : ¬ Deviates python u metric call := by
  rintro ⟨-, -, profile', hprofile', -, value', hvalue', hlt⟩
  obtain rfl : profile = profile' := Option.some.inj (hprofile.symm.trans hprofile')
  obtain rfl : value = value' := Option.some.inj (hvalue.symm.trans hvalue')
  have hbound := PyFloat.le_trans hle (@recoveryThreshold_le u metric upperBound profile call.config hupper)
  exact Bool.false_ne_true ((PyFloat.not_lt_of_le hbound).symm.trans hlt)

/-- **Recovery never fights detection.** An alert is resolved only on a sample that the detector does not count as
an exceedance, whatever has been detected before: the recovery bound is at most the detection bound. -/
theorem recovers_not_deviates (python : Python) (u : Unicode) (call : Call) (violations : List Violation)
    (activeAlerts : List AlertMessage) :
    (∀ x ∈ autoResolveRecoveredBaselineAlerts python u call violations activeAlerts,
      ∃ metric : Metric, x.1.metricName = some metric.name ∧ ¬ Deviates python u metric call) ∧
    ∀ (profile : Profile) (metric : Metric),
      ∀ upperBound ∈ computeUpperBound profile (normalizeBaselineConfig u call.config),
        (recoveryThreshold profile upperBound).le
          (detectionBound profile (normalizeBaselineConfig u call.config) metric) = true := by
  refine ⟨?_, ?_⟩
  · intro x hx
    rw [autoResolveRecoveredBaselineAlerts] at hx
    split_ifs at hx
    · obtain ⟨alert, -, hresolved⟩ := List.mem_filterMap.mp hx
      obtain ⟨value, hvalue, rfl⟩ := Option.map_eq_some_iff.mp hresolved
      obtain ⟨metric, profile, upperBound, hname, hprofile, hsample, hupper, hle⟩ := exists_of_resolvedValue hvalue
      exact ⟨metric, hname, not_deviates_of_le hprofile hsample hupper hle⟩
    · cases hx
  · intro profile metric upperBound hupper
    exact recoveryThreshold_le hupper

end DBClaw.Alerts.Baselines
