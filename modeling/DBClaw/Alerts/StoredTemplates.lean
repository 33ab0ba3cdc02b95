import DBClaw.Alerts.TemplateConfigs

/-! # Stored templates
A configuration that was normalised is normalised to itself, up to the type of numbers: the rules by
`normalizeRules_stored` and `normalizeRules_default`, the baseline by `BaselineConfig.Normal`, the rest by small
readings. `normalization_total_iff` puts this together with the exceptions. -/

namespace DBClaw.Alerts.TemplateConfigs

open Coercions

variable {t : Texts}

/-! ## Stored rules stay -/

theorem mem_validSeverities {severity : Text} (h : severity ∈ validSeverities) :
    severity ≠ [] ∧ Text.strip severity = severity ∧ ∀ u : Unicode, Text.lower u severity = severity := by
  have hall : ∀ s ∈ validSeverities, s ≠ [] ∧ Text.strip s = s ∧ s.all (fun c => c.toNat < 128 && c.toLower == c) := by
    decide
  obtain ⟨hne, hstrip, hfixed⟩ := hall severity h
  refine ⟨hne, hstrip, fun u => Text.lower_of_fixed fun c hc => ?_⟩
  simpa using List.all_eq_true.mp hfixed c hc

/-- A threshold that was accepted is accepted as a float. -/
theorem readThreshold_float {metricName : String} {value : Json} {x : PyFloat}
    (h : readThreshold t metricName value = .ok x) : readThreshold t metricName (.float x) = .ok x := by
  rw [readThreshold, catching_eq_ok_iff] at h ⊢
  obtain ⟨y, -, h⟩ := bind_eq_ok_iff.mp h
  obtain ⟨_, hpositive, h⟩ := bind_eq_ok_iff.mp h
  obtain rfl := Except.ok.inj h
  rw [require_eq_ok_iff] at hpositive
  rw [Coercions.pyFloat, ok_bind, require_of_true hpositive, ok_bind]

/-- **What a level needs to be accepted.** -/
theorem checkFields_eq_ok {metricName : String} {idx : ℕ} {seenSeverities : List Text} {level : Dict} {severity : Text}
    {value duration : Json} {threshold : PyFloat} {seconds : ℤ} (hseverity : level.get "severity" = .str severity)
    (hmem : severity ∈ validSeverities) (hunseen : severity ∉ seenSeverities) (hvalue : level.get "threshold" = value)
    (hsome : isNone value = false) (hthreshold : readThreshold t metricName value = .ok threshold)
    (hduration : level.getD "duration" (.int 60) = duration) (hseconds : pyInt t duration = .ok seconds) :
    checkFields t metricName idx seenSeverities level = .ok ⟨severity, threshold, seconds⟩ := by
  have htruthy : (Json.str severity).truthy = true := by simpa [Json.truthy] using (mem_validSeverities hmem).1
  have hstored : isSeverity (.str severity) = true := decide_eq_true hmem
  have hhash : pyHash (.str severity) = .ok () := rfl
  have hnotNone : (! isNone value) = true := by rw [hsome]; rfl
  have hunseen' : decide (severityOf (.str severity) ∉ seenSeverities) = true := decide_eq_true hunseen
  rw [checkFields, hseverity, hvalue, hduration]
  rw [require_of_true htruthy, ok_bind, hhash, ok_bind, require_of_true hstored, ok_bind, require_of_true hunseen',
    ok_bind, require_of_true hnotNone, ok_bind, hthreshold, ok_bind, hseconds]
  rfl

/-- **A level that was accepted is accepted as it is stored.** -/
theorem checkLevel_toJson {metricName : String} {idx : ℕ} {seenSeverities : List Text} {level : Json} {checked : Level}
    (h : checkLevel t metricName idx seenSeverities level = .ok checked) :
    checkLevel t metricName idx seenSeverities checked.toJson = .ok checked := by
  cases level with
  | obj fields =>
    obtain ⟨_, -, h⟩ := bind_eq_ok_iff.mp h
    obtain ⟨_, -, h⟩ := bind_eq_ok_iff.mp h
    obtain ⟨_, hvalid, h⟩ := bind_eq_ok_iff.mp h
    obtain ⟨_, hunseen, h⟩ := bind_eq_ok_iff.mp h
    obtain ⟨_, -, h⟩ := bind_eq_ok_iff.mp h
    obtain ⟨threshold, hthreshold, h⟩ := bind_eq_ok_iff.mp h
    obtain ⟨duration, -, h⟩ := bind_eq_ok_iff.mp h
    obtain rfl := Except.ok.inj h
    rw [require_eq_ok_iff] at hvalid hunseen
    have hmem : severityOf (Dict.get fields "severity") ∈ validSeverities := by
      cases hseverity : Dict.get fields "severity" with
      | str severity =>
        rw [hseverity] at hvalid
        exact of_decide_eq_true hvalid
      | null | bool | int | float | arr | obj =>
        rw [hseverity] at hvalid
        cases hvalid
    exact checkFields_eq_ok rfl hmem (of_decide_eq_true hunseen) rfl rfl (readThreshold_float hthreshold) rfl rfl
  | null | bool | int | float | str | arr => cases h

theorem checkLevels_toJson {metricName : String} {idx : ℕ} {seenSeverities : List Text} {levels : List Json}
    {checked : List Level} (h : checkLevels t metricName idx seenSeverities levels = .ok checked) :
    checkLevels t metricName idx seenSeverities (checked.map Level.toJson) = .ok checked := by
  induction levels generalizing idx seenSeverities checked with
  | nil =>
    obtain rfl := Except.ok.inj h
    rfl
  | cons level levels ih =>
    obtain ⟨first, hfirst, h⟩ := bind_eq_ok_iff.mp h
    obtain ⟨rest, hrest, h⟩ := bind_eq_ok_iff.mp h
    obtain rfl := Except.ok.inj h
    rw [List.map_cons, checkLevels, checkLevel_toJson hfirst, ok_bind, ih hrest, ok_bind]

/-- **What a rule needs to be accepted.** -/
theorem validateMultiLevelThreshold_eq_ok {metricName : String} {rule : Dict} {levels : List Json} {checked : List Level}
    (hlevels : levelsOf rule = some levels) (hne : levels ≠ []) (hchecked : checkLevels t metricName 0 [] levels = .ok checked)
    (hascending : (firstDescent checked).isNone = true) :
    validateMultiLevelThreshold t metricName rule = .ok [("levels", .arr (checked.map Level.toJson))] := by
  have hnonempty : (! levels.isEmpty) = true := by simpa using hne
  rw [validateMultiLevelThreshold, hlevels]
  dsimp only
  rw [require_of_true hnonempty, ok_bind, hchecked, ok_bind, require_of_true hascending, ok_bind]

/-- **A rule that was normalised stays.** -/
theorem normalizeRule_stored {metricName : String} {rule stored : Json} (h : normalizeRule t metricName rule = .ok stored) :
    normalizeRule t metricName stored = .ok stored := by
  cases rule with
  | obj fields =>
    rw [normalizeRule] at h
    cases hvalidate : validateMultiLevelThreshold t metricName fields with
    | ok normalized =>
      rw [hvalidate] at h
      obtain rfl := Except.ok.inj h
      rw [validateMultiLevelThreshold] at hvalidate
      cases hlevels : levelsOf fields with
      | none =>
        rw [hlevels] at hvalidate
        cases hvalidate
      | some levels =>
        rw [hlevels] at hvalidate
        obtain ⟨_, hne, hvalidate⟩ := bind_eq_ok_iff.mp hvalidate
        obtain ⟨checked, hchecked, hvalidate⟩ := bind_eq_ok_iff.mp hvalidate
        obtain ⟨_, hascending, hvalidate⟩ := bind_eq_ok_iff.mp hvalidate
        obtain rfl := Except.ok.inj hvalidate
        rw [require_eq_ok_iff] at hne hascending
        have hnonempty : checked.map Level.toJson ≠ [] := by
          cases levels with
          | nil => cases hne
          | cons level levels =>
            obtain ⟨first, -, hrest⟩ := bind_eq_ok_iff.mp hchecked
            obtain ⟨rest, -, hrest⟩ := bind_eq_ok_iff.mp hrest
            obtain rfl := Except.ok.inj hrest
            exact List.cons_ne_nil _ _
        have hvalid := @validateMultiLevelThreshold_eq_ok t metricName [("levels", .arr (checked.map Level.toJson))] _ _ rfl
          hnonempty (checkLevels_toJson hchecked) hascending
        rw [normalizeRule, hvalid]
    | error e =>
      cases e with
      | valueError message =>
        rw [hvalidate] at h
        obtain rfl := Except.ok.inj h
        rw [normalizeRule, hvalidate]
      | typeError | overflowError | attributeError =>
        rw [hvalidate] at h
        cases h
  | null | bool | int | float | str | arr =>
    obtain rfl := Except.ok.inj h
    rfl

theorem normalizeRules_cons {metricName : String} {rule normalized : Json} {rules rest : Dict}
    (hrule : normalizeRule t metricName rule = .ok normalized) (hrules : normalizeRules t rules = .ok rest) :
    normalizeRules t ((metricName, rule) :: rules) = .ok ((metricName, normalized) :: rest) := by
  rw [normalizeRules, hrule, ok_bind, hrules, ok_bind]

/-- **Rules that were normalised stay.** -/
theorem normalizeRules_stored {rules stored : Dict} (h : normalizeRules t rules = .ok stored) :
    normalizeRules t stored = .ok stored := by
  induction rules generalizing stored with
  | nil =>
    obtain rfl := Except.ok.inj h
    rfl
  | cons entry rules ih =>
    obtain ⟨normalized, hnormalized, h⟩ := bind_eq_ok_iff.mp h
    obtain ⟨rest, hrest, h⟩ := bind_eq_ok_iff.mp h
    obtain rfl := Except.ok.inj h
    exact normalizeRules_cons (normalizeRule_stored hnormalized) (ih hrest)

/-! ## The default rules -/

/-- A level of a default rule. -/
abbrev DefaultLevel : Type := String × ℤ × ℤ

/-- The level with its threshold as a float. -/
def floatLevel (level : DefaultLevel) : Level := ⟨level.1.toList, .fin level.2.1, level.2.2⟩

theorem floatLimit_gt {n : ℕ} (h : n ≤ 1000) : n < floatLimit := by
  have hpow : ∀ k l : ℕ, k ≤ l → 2 ^ k ≤ 2 ^ l := fun k l hkl => Nat.pow_le_pow_right (by decide) hkl
  have hsucc : ∀ k l : ℕ, k < l → 2 * 2 ^ k ≤ 2 ^ l := by
    intro k l hkl
    have hle := hpow (k + 1) l hkl
    rwa [Nat.pow_succ, Nat.mul_comm] at hle
  have hsmall := hpow 10 970 (by decide)
  have hlarge := hsucc 970 1024 (by decide)
  rw [floatLimit]
  omega

theorem pyFloat_int {n : ℤ} (h : n.natAbs ≤ 1000) : Coercions.pyFloat t (.int n) = .ok (.fin n) := by
  rw [Coercions.pyFloat, if_pos (floatLimit_gt h)]

theorem readThreshold_int {metricName : String} {n : ℤ} (hpos : 0 < n) (h : n ≤ 1000) :
    readThreshold t metricName (.int n) = .ok (.fin n) := by
  have hpositive : (! (PyFloat.fin n).le (.fin 0)) = true := by
    have hcast : (0 : ℚ) < n := by exact_mod_cast hpos
    simp [PyFloat.le, PyFloat.lt, not_lt.mpr hcast.le, hcast.ne']
  rw [readThreshold, pyFloat_int (by omega), ok_bind, require_of_true hpositive, ok_bind, catching_ok]

/-- The levels of a default rule are accepted. -/
theorem checkLevels_default {metricName : String} {idx : ℕ} {seenSeverities : List Text} {levels : List DefaultLevel}
    (hvalid : ∀ level ∈ levels, level.1.toList ∈ validSeverities ∧ 0 < level.2.1 ∧ level.2.1 ≤ 1000)
    (hnodup : (seenSeverities.reverse ++ levels.map fun level => level.1.toList).Nodup) :
    checkLevels t metricName idx seenSeverities (levels.map fun (severity, threshold, duration) =>
      .obj [("severity", .str severity.toList), ("threshold", .int threshold), ("duration", .int duration)]) =
      .ok (levels.map floatLevel) := by
  induction levels generalizing idx seenSeverities with
  | nil => rfl
  | cons level levels ih =>
    obtain ⟨severity, threshold, duration⟩ := level
    obtain ⟨⟨hmem, hpos, hle⟩, hrest⟩ := List.forall_mem_cons.mp hvalid
    have hunseen : severity.toList ∉ seenSeverities := by
      intro hseen
      refine (List.nodup_append.mp hnodup).2.2 _ (List.mem_reverse.mpr hseen) _ ?_ rfl
      exact List.mem_cons_self
    have hfirst : checkLevel t metricName idx seenSeverities
        (.obj [("severity", .str severity.toList), ("threshold", .int threshold), ("duration", .int duration)]) =
        .ok (floatLevel (severity, threshold, duration)) :=
      checkFields_eq_ok rfl hmem hunseen rfl rfl (readThreshold_int hpos hle) rfl rfl
    rw [List.map_cons, checkLevels, hfirst, ok_bind, ih hrest (by simpa [floatLevel] using hnodup), ok_bind]
    rfl

/-- **A default rule** is normalised to one with floats. -/
theorem normalizeRule_default {metricName : String} {levels : List DefaultLevel}
    (hvalid : ∀ level ∈ levels, level.1.toList ∈ validSeverities ∧ 0 < level.2.1 ∧ level.2.1 ≤ 1000)
    (hnodup : (levels.map fun level => level.1.toList).Nodup) (hne : levels ≠ [])
    (hascending : (firstDescent (levels.map floatLevel)).isNone = true) :
    normalizeRule t metricName (defaultRule levels) =
      .ok (.obj [("levels", .arr ((levels.map floatLevel).map Level.toJson))]) := by
  have hchecked := @checkLevels_default t metricName 0 [] levels hvalid hnodup
  have hvalidate := @validateMultiLevelThreshold_eq_ok t metricName [("levels", .arr (levels.map
    fun (severity, threshold, duration) => .obj [("severity", .str severity.toList), ("threshold", .int threshold),
      ("duration", .int duration)]))] _ _ rfl (by simpa using hne) hchecked hascending
  rw [defaultRule, normalizeRule, hvalidate]

/-- **The default rules are equal to their normal form.** -/
theorem normalizeRules_default :
    ∃ stored, normalizeRules t defaultThresholdRules = .ok stored ∧
      asFloatsFields stored = asFloatsFields defaultThresholdRules := by
  have hcpu := @normalizeRule_default t "cpu_usage"
    [("low", 60, 300), ("medium", 80, 60), ("high", 85, 60), ("critical", 90, 60)] (by decide) (by decide)
    (by decide) (by with_unfolding_all decide)
  have hdisk := @normalizeRule_default t "disk_usage"
    [("low", 80, 0), ("medium", 85, 0), ("high", 90, 0), ("critical", 95, 0)] (by decide) (by decide)
    (by decide) (by with_unfolding_all decide)
  have hconnections := @normalizeRule_default t "connections_active"
    [("low", 20, 60), ("medium", 30, 60), ("high", 40, 60), ("critical", 50, 60)] (by decide) (by decide)
    (by decide) (by with_unfolding_all decide)
  exact ⟨_, normalizeRules_cons hcpu (normalizeRules_cons hdisk (normalizeRules_cons hconnections rfl)), rfl⟩

/-! ## Metrics -/

/-- Settings of a metric as they are stored. -/
structure MetricConfig.Normal (metric : MetricConfig) : Prop where
  duration : 60 ≤ metric.duration
  severity : metric.severity ∈ validSeverities
  minimum : (∃ x, metric.minimum = .float x) ∨ ∃ n : ℤ, metric.minimum = .int n ∧ n.natAbs ≤ 1000

/-- The settings with their minimum as a float. -/
def MetricConfig.withFloat (metric : MetricConfig) : MetricConfig := { metric with minimum := asFloats metric.minimum }

theorem asFloats_asFloats_minimum {metric : MetricConfig} (h : metric.Normal) :
    asFloats (asFloats metric.minimum) = asFloats metric.minimum := by
  rcases h.minimum with ⟨x, hx⟩ | ⟨n, hn, -⟩
  · rw [hx]
    rfl
  · rw [hn]
    rfl

theorem severityOrMedium_mem (severity : Text) : severityOrMedium severity ∈ validSeverities := by
  rw [severityOrMedium]
  split
  · assumption
  · decide

/-- **What is merged is normal.** -/
theorem MetricConfig.Normal.mergeValue {default merged : MetricConfig} (hdefault : default.Normal) {current : Json}
    (h : default.mergeValue t current = .ok merged) : merged.Normal := by
  cases current with
  | obj current =>
    obtain ⟨duration, hduration, h⟩ := bind_eq_ok_iff.mp h
    obtain ⟨minimum, hminimum, h⟩ := bind_eq_ok_iff.mp h
    obtain rfl := Except.ok.inj h
    refine ⟨?_, severityOrMedium_mem _, ?_⟩
    · show 60 ≤ duration
      cases hvalue : Dict.get current "duration" with
      | null =>
        rw [hvalue] at hduration
        exact Except.ok.inj hduration ▸ hdefault.duration
      | bool | int | float | str | arr | obj =>
        rw [hvalue] at hduration
        obtain ⟨n, -, hn⟩ := bind_eq_ok_iff.mp hduration
        exact Except.ok.inj hn ▸ le_max_left _ _
    · show (∃ x, minimum = .float x) ∨ ∃ n : ℤ, minimum = .int n ∧ n.natAbs ≤ 1000
      cases hvalue : Dict.get current "minimum" with
      | null =>
        rw [hvalue] at hminimum
        exact Except.ok.inj hminimum ▸ hdefault.minimum
      | bool | int | float | str | arr | obj =>
        rw [hvalue] at hminimum
        obtain ⟨x, -, hx⟩ := bind_eq_ok_iff.mp hminimum
        exact .inl ⟨x, (Except.ok.inj hx).symm⟩
  | null | bool | int | float | str | arr => exact Except.ok.inj h ▸ hdefault

/-- The minimum is read as it is stored. -/
theorem MetricConfig.Normal.update_minimum {metric : MetricConfig} (h : metric.Normal) (default : Json) :
    (update metric.minimum default fun value => do
      let x ← Coercions.pyFloat t value
      .ok (.float x)) = .ok (asFloats metric.minimum) := by
  rcases h.minimum with ⟨x, hx⟩ | ⟨n, hn, hsmall⟩
  · rw [hx]
    rfl
  · have hread := pyFloat_int (t := t) hsmall
    rw [hn, update]
    · rw [hread, ok_bind, asFloats]
    · intro hnull
      cases hnull

/-- **Settings of a metric stay** up to their minimum. -/
theorem MetricConfig.Normal.mergeValue_toJson {metric : MetricConfig} (h : metric.Normal) (default : MetricConfig) :
    default.mergeValue t metric.toJson = .ok metric.withFloat := by
  obtain ⟨hne, hstrip, hlower⟩ := mem_validSeverities h.severity
  have hduration : max 60 metric.duration = metric.duration := max_eq_right h.duration
  have htruthy : (Json.str metric.severity).truthy = true := by simpa [Json.truthy] using hne
  have hseverity : severityOrMedium (Text.lower t.unicode (Text.strip
      (pyStr t ((Json.str metric.severity).or (.str default.severity))))) = metric.severity := by
    rw [Json.or, if_pos htruthy, pyStr, hstrip, hlower, severityOrMedium, if_pos h.severity]
  have hminimum := h.update_minimum (t := t) default.minimum
  rw [MetricConfig.toJson, MetricConfig.mergeValue, MetricConfig.merge]
  show (do
    let duration ← Except.ok (max 60 metric.duration)
    let minimum ← update metric.minimum default.minimum fun value => do
      let x ← Coercions.pyFloat t value
      .ok (.float x)
    Except.ok (α := MetricConfig) (ε := PyError) ⟨metric.enabled, duration, severityOrMedium (Text.lower t.unicode (Text.strip
      (pyStr t ((Json.str metric.severity).or (.str default.severity))))), minimum⟩) = _
  rw [ok_bind, hminimum, ok_bind, hduration, hseverity]
  rfl

/-- The settings of the metrics are those of the three metrics of the default. -/
def NormalMetrics (metrics : List (String × MetricConfig)) : Prop :=
  ∃ cpu disk connections : MetricConfig, metrics =
    [("cpu_usage", cpu), ("disk_usage", disk), ("connections_active", connections)] ∧
    cpu.Normal ∧ disk.Normal ∧ connections.Normal

theorem normalMetrics_default : NormalMetrics defaultMetrics :=
  ⟨_, _, _, rfl, ⟨by decide, by decide, .inr ⟨20, rfl, by decide⟩⟩, ⟨by decide, by decide, .inr ⟨70, rfl, by decide⟩⟩,
    ⟨by decide, by decide, .inr ⟨10, rfl, by decide⟩⟩⟩

theorem normalMetrics_updateMetrics {metricsConfig : Dict} {metrics : List (String × MetricConfig)}
    (h : updateMetrics t metricsConfig defaultMetrics = .ok metrics) : NormalMetrics metrics := by
  obtain ⟨cpu, disk, connections, hdefault, hcpu, hdisk, hconnections⟩ := normalMetrics_default
  rw [hdefault] at h
  obtain ⟨cpu', hcpu', h⟩ := bind_eq_ok_iff.mp h
  obtain ⟨rest, hrest, h⟩ := bind_eq_ok_iff.mp h
  obtain ⟨disk', hdisk', hrest⟩ := bind_eq_ok_iff.mp hrest
  obtain ⟨rest', hrest', hrest⟩ := bind_eq_ok_iff.mp hrest
  obtain ⟨connections', hconnections', hrest'⟩ := bind_eq_ok_iff.mp hrest'
  obtain ⟨rest'', hrest'', hrest'⟩ := bind_eq_ok_iff.mp hrest'
  obtain rfl := Except.ok.inj hrest''
  obtain rfl := Except.ok.inj hrest'
  obtain rfl := Except.ok.inj hrest
  obtain rfl := Except.ok.inj h
  exact ⟨cpu', disk', connections', rfl, hcpu.mergeValue hcpu', hdisk.mergeValue hdisk',
    hconnections.mergeValue hconnections'⟩

theorem updateMetrics_cons {metricsConfig : Dict} {metricName : String} {default updated : MetricConfig}
    {metrics rest : List (String × MetricConfig)}
    (hmetric : default.mergeValue t (metricsConfig.get metricName) = .ok updated)
    (hrest : updateMetrics t metricsConfig metrics = .ok rest) :
    updateMetrics t metricsConfig ((metricName, default) :: metrics) = .ok ((metricName, updated) :: rest) := by
  rw [updateMetrics, hmetric, ok_bind, hrest, ok_bind]

/-- **The metrics stay** up to their minima. -/
theorem NormalMetrics.updateMetrics_toJson {metrics : List (String × MetricConfig)} (h : NormalMetrics metrics) :
    ∃ metrics', updateMetrics t (metrics.map fun metric => (metric.1, metric.2.toJson)) defaultMetrics = .ok metrics' ∧
      asFloatsFields (metrics'.map fun metric => (metric.1, metric.2.toJson)) =
        asFloatsFields (metrics.map fun metric => (metric.1, metric.2.toJson)) := by
  obtain ⟨cpu, disk, connections, rfl, hcpu, hdisk, hconnections⟩ := h
  obtain ⟨cpu', disk', connections', hdefault, -, -, -⟩ := normalMetrics_default
  refine ⟨[("cpu_usage", cpu.withFloat), ("disk_usage", disk.withFloat), ("connections_active", connections.withFloat)],
    ?_, ?_⟩
  · rw [hdefault]
    exact updateMetrics_cons (hcpu.mergeValue_toJson _) (updateMetrics_cons (hdisk.mergeValue_toJson _)
      (updateMetrics_cons (hconnections.mergeValue_toJson _) rfl))
  · simp only [List.map_cons, List.map_nil, MetricConfig.toJson, MetricConfig.withFloat, asFloatsFields, asFloats,
      asFloats_asFloats_minimum hcpu, asFloats_asFloats_minimum hdisk, asFloats_asFloats_minimum hconnections]

/-! ## Baselines -/

/-- A baseline as it is stored. -/
structure BaselineConfig.Normal (config : BaselineConfig) : Prop where
  learningDays : 3 ≤ config.learningDays ∧ config.learningDays ≤ 60
  minSamples : 6 ≤ config.minSamples ∧ config.minSamples ≤ 500
  deviationRatio : Baselines.pyMax (.fin (105 / 100)) (pyMin (.fin 5) config.deviationRatio) = config.deviationRatio
  minAbsoluteDelta : Baselines.pyMax (.fin 0) config.minAbsoluteDelta = config.minAbsoluteDelta
  refreshIntervalMinutes : 1 ≤ config.refreshIntervalMinutes ∧ config.refreshIntervalMinutes ≤ 240
  metrics : NormalMetrics config.metrics

theorem normal_default : BaselineConfig.Normal {} where
  learningDays := by decide
  minSamples := by decide
  deviationRatio := by with_unfolding_all decide
  minAbsoluteDelta := by with_unfolding_all decide
  refreshIntervalMinutes := by decide
  metrics := normalMetrics_default

/-- A number that is updated is between the bounds. -/
theorem update_intBetween {low high default n : ℤ} {value : Json} (hle : low ≤ high) (hdefault : low ≤ default ∧ default ≤ high)
    (h : update value default (intBetween t low high) = .ok n) : low ≤ n ∧ n ≤ high := by
  cases value with
  | null => exact Except.ok.inj h ▸ hdefault
  | bool | int | float | str | arr | obj =>
    obtain ⟨m, -, hm⟩ := bind_eq_ok_iff.mp h
    obtain rfl := Except.ok.inj hm
    omega

/-- A number between the bounds stays. -/
theorem update_intBetween_int {low high default n : ℤ} (hlow : low ≤ n) (hhigh : n ≤ high) :
    update (.int n) default (intBetween t low high) = .ok n := by
  show Except.ok (max low (min high n)) = Except.ok n
  rw [min_eq_right hhigh, max_eq_right hlow]

theorem pyMax_pyMax (x y : PyFloat) : Baselines.pyMax x (Baselines.pyMax x y) = Baselines.pyMax x y := by
  by_cases h : x.lt y = true
  · have hmax : Baselines.pyMax x y = y := if_pos h
    rw [hmax, hmax]
  · have hmax : Baselines.pyMax x y = x := if_neg h
    rw [hmax, Baselines.pyMax, ite_self]

/-- A ratio between its bounds stays. -/
theorem clamp_clamp (x : PyFloat) :
    Baselines.pyMax (.fin (105 / 100)) (pyMin (.fin 5) (Baselines.pyMax (.fin (105 / 100)) (pyMin (.fin 5) x))) =
      Baselines.pyMax (.fin (105 / 100)) (pyMin (.fin 5) x) := by
  have hbounds : (PyFloat.fin 5).lt (.fin (105 / 100)) = false := by with_unfolding_all decide
  have hirrefl : (PyFloat.fin 5).lt (.fin 5) = false := by with_unfolding_all decide
  unfold pyMin
  by_cases hx : x.lt (.fin 5) = true
  · rw [if_pos hx]
    unfold Baselines.pyMax
    by_cases hlow : (PyFloat.fin (105 / 100)).lt x = true
    · rw [if_pos hlow, if_pos hx, if_pos hlow]
    · rw [if_neg hlow]
      split <;> simp_all
  · rw [if_neg hx]
    unfold Baselines.pyMax
    split <;> simp_all

/-- A float that is updated is the default or what a reading gives. -/
theorem update_float {f : PyFloat → PyFloat} {default x : PyFloat} {value : Json} (hdefault : f default = default)
    (hidem : ∀ y, f (f y) = f y)
    (h : (update value default fun value => do
      let y ← Coercions.pyFloat t value
      .ok (f y)) = .ok x) : f x = x := by
  cases value with
  | null => exact Except.ok.inj h ▸ hdefault
  | bool | int | float | str | arr | obj =>
    obtain ⟨y, -, hy⟩ := bind_eq_ok_iff.mp h
    exact Except.ok.inj hy ▸ hidem y

/-- **What `normalize_baseline_config` returns is normal.** -/
theorem normal_normalizeBaselineConfig {config : Json} {baseline : BaselineConfig}
    (h : normalizeBaselineConfig t config = .ok baseline) : baseline.Normal := by
  cases config with
  | obj config =>
    obtain ⟨learningDays, hlearning, h⟩ := bind_eq_ok_iff.mp h
    obtain ⟨minSamples, hsamples, h⟩ := bind_eq_ok_iff.mp h
    obtain ⟨deviationRatio, hratio, h⟩ := bind_eq_ok_iff.mp h
    obtain ⟨minAbsoluteDelta, hdelta, h⟩ := bind_eq_ok_iff.mp h
    obtain ⟨refreshIntervalMinutes, hrefresh, h⟩ := bind_eq_ok_iff.mp h
    obtain ⟨metrics, hmetrics, h⟩ := bind_eq_ok_iff.mp h
    obtain rfl := Except.ok.inj h
    exact {
      learningDays := update_intBetween (by decide) (by decide) hlearning
      minSamples := update_intBetween (by decide) (by decide) hsamples
      deviationRatio := update_float (f := fun x => Baselines.pyMax (.fin (105 / 100)) (pyMin (.fin 5) x))
        normal_default.deviationRatio clamp_clamp hratio
      minAbsoluteDelta := update_float normal_default.minAbsoluteDelta (pyMax_pyMax _) hdelta
      refreshIntervalMinutes := update_intBetween (by decide) (by decide) hrefresh
      metrics := normalMetrics_updateMetrics hmetrics }
  | null | bool | int | float | str | arr => exact Except.ok.inj h ▸ normal_default

/-- **A normal baseline stays**, up to the type of numbers. -/
theorem BaselineConfig.Normal.normalize_toJson {baseline : BaselineConfig} (h : baseline.Normal) :
    ∃ baseline', normalizeBaselineConfig t (baseline.toJson.or (BaselineConfig.toJson {})) = .ok baseline' ∧
      asFloats baseline'.toJson = asFloats baseline.toJson := by
  obtain ⟨metrics', hmetrics, hsame⟩ := h.metrics.updateMetrics_toJson (t := t)
  have hlearning := @update_intBetween_int t 3 60 14 _ h.learningDays.1 h.learningDays.2
  have hsamples := @update_intBetween_int t 6 500 24 _ h.minSamples.1 h.minSamples.2
  have hrefresh := @update_intBetween_int t 1 240 10 _ h.refreshIntervalMinutes.1 h.refreshIntervalMinutes.2
  refine ⟨{ baseline with metrics := metrics' }, ?_, ?_⟩
  · show (do
      let learningDays ← update (.int baseline.learningDays) 14 (intBetween t 3 60)
      let minSamples ← update (.int baseline.minSamples) 24 (intBetween t 6 500)
      let deviationRatio ←
        Except.ok (Baselines.pyMax (.fin (105 / 100)) (pyMin (.fin 5) baseline.deviationRatio))
      let minAbsoluteDelta ← Except.ok (Baselines.pyMax (.fin 0) baseline.minAbsoluteDelta)
      let refreshIntervalMinutes ← update (.int baseline.refreshIntervalMinutes) 10 (intBetween t 1 240)
      let metrics ← updateMetrics t
        (baseline.metrics.map fun (metric : String × MetricConfig) => (metric.1, metric.2.toJson)) defaultMetrics
      Except.ok (ε := PyError) (BaselineConfig.mk baseline.enabled learningDays minSamples deviationRatio minAbsoluteDelta
        refreshIntervalMinutes metrics)) = _
    rw [hlearning, ok_bind, hsamples, ok_bind, ok_bind, ok_bind, hrefresh, ok_bind, hmetrics, ok_bind, h.deviationRatio,
      h.minAbsoluteDelta]
  · simp only [BaselineConfig.toJson, asFloats, asFloatsFields, hsame]

/-! ## Events -/

/-- What `normalize_event_ai_config` returns has its minutes between the bounds. -/
theorem staleRecheckMinutes_of_normalize {config : Json} {eventAi : EventAiConfig}
    (h : normalizeEventAiConfig t config = .ok eventAi) :
    5 ≤ eventAi.staleRecheckMinutes ∧ eventAi.staleRecheckMinutes ≤ 1440 := by
  cases config with
  | obj config =>
    obtain ⟨staleRecheckMinutes, hstale, h⟩ := bind_eq_ok_iff.mp h
    obtain rfl := Except.ok.inj h
    exact update_intBetween (by decide) (by decide) hstale
  | null | bool | int | float | str | arr =>
    obtain rfl := Except.ok.inj h
    decide

/-- **Normal settings for events stay.** -/
theorem normalizeEventAiConfig_toJson {eventAi : EventAiConfig}
    (h : 5 ≤ eventAi.staleRecheckMinutes ∧ eventAi.staleRecheckMinutes ≤ 1440) :
    normalizeEventAiConfig t (eventAi.toJson.or (EventAiConfig.toJson {})) = .ok eventAi := by
  have hstale := @update_intBetween_int t 5 1440 30 _ h.1 h.2
  show (do
    let staleRecheckMinutes ← update (.int eventAi.staleRecheckMinutes) 30 (intBetween t 5 1440)
    Except.ok (ε := PyError) (EventAiConfig.mk eventAi.enabled eventAi.triggerOnCreate eventAi.triggerOnSeverityUpgrade
      eventAi.triggerOnRecovery staleRecheckMinutes)) = _
  rw [hstale, ok_bind]

/-! ## Templates -/

/-- The engine modes. -/
def engineModes : List Text := ["threshold".toList, "ai".toList, "inherit".toList]

theorem mode_of_normalize {value : Json} {mode : Text} (h : normalizeAlertEngineMode t value = .ok mode) :
    mode ∈ engineModes := by
  obtain ⟨text, -, h⟩ := bind_eq_ok_iff.mp h
  obtain rfl := Except.ok.inj h
  split
  · assumption
  · decide

/-- **A mode stays.** -/
theorem normalizeAlertEngineMode_str {mode : Text} (h : mode ∈ engineModes) :
    normalizeAlertEngineMode t (.str mode) = .ok mode := by
  have hall : ∀ m ∈ engineModes, Text.strip m = m ∧ m.all (fun c => c.toNat < 128 && c.toLower == c) := by decide
  obtain ⟨hstrip, hfixed⟩ := hall mode h
  have hlower : Text.lower t.unicode mode = mode := by
    refine Text.lower_of_fixed fun c hc => ?_
    simpa using List.all_eq_true.mp hfixed c hc
  rw [normalizeAlertEngineMode, textOr, ok_bind]
  dsimp only
  rw [hstrip, hlower]
  exact congrArg Except.ok (if_pos h)

theorem textOr_orNone (text : Text) : textOr (orNone text) = .ok text := by
  rw [orNone]
  split
  · next hempty =>
    rw [hempty]
    rfl
  · rfl

/-- **A stored template is normalised piece by piece.** -/
theorem normalizePayload_templateConfig {rules rules' : Dict} {mode policy : Text} (modelId : Json) (shadow : Bool)
    {baseline baseline' : BaselineConfig} {eventAi : EventAiConfig} (hrules : normalizeRules t rules = .ok rules')
    (hmode : mode ∈ engineModes) (hpolicy : Text.strip policy = policy)
    (hbaseline : normalizeBaselineConfig t (baseline.toJson.or (BaselineConfig.toJson {})) = .ok baseline')
    (heventAi : normalizeEventAiConfig t (eventAi.toJson.or (EventAiConfig.toJson {})) = .ok eventAi) :
    normalizePayload t (templateConfig rules mode policy modelId shadow baseline eventAi) =
      .ok (templateConfig rules' mode policy modelId shadow baseline' eventAi) := by
  have hstored := normalizeAlertEngineMode_str (t := t) hmode
  by_cases hai : mode = "ai".toList
  · subst hai
    show (do
      let rules ← normalizeRules t rules
      let mode ← normalizeAlertEngineMode t (.str "ai".toList)
      let policy ← textOr (orNone policy)
      let baseline ← normalizeBaselineConfig t (baseline.toJson.or (BaselineConfig.toJson {}))
      let eventAi ← normalizeEventAiConfig t (eventAi.toJson.or (EventAiConfig.toJson {}))
      Except.ok (ε := PyError) (templateConfig rules mode (Text.strip policy) modelId shadow baseline eventAi)) = _
    rw [hrules, ok_bind, hstored, ok_bind, textOr_orNone, ok_bind, hbaseline, ok_bind, heventAi, ok_bind, hpolicy]
  · have hconfig : ∀ (rules : Dict) (policy : Text) (modelId : Json) (shadow : Bool) (baseline : BaselineConfig),
        templateConfig rules mode policy modelId shadow baseline eventAi = [("alert_engine_mode", .str mode),
          ("threshold_rules", .obj rules), ("baseline_config", baseline.toJson), ("event_ai_config", eventAi.toJson),
          ("ai_policy_text", .null), ("alert_ai_model_id", .null), ("ai_shadow_enabled", .bool false)] := by
      intro rules policy modelId shadow baseline
      rw [templateConfig]
      simp only [hai, decide_false, Bool.false_and, Bool.false_eq_true, if_false]
    rw [hconfig]
    show (do
      let rules ← normalizeRules t rules
      let mode ← normalizeAlertEngineMode t (.str mode)
      let policy ← Except.ok []
      let baseline ← normalizeBaselineConfig t (baseline.toJson.or (BaselineConfig.toJson {}))
      let eventAi ← normalizeEventAiConfig t (eventAi.toJson.or (EventAiConfig.toJson {}))
      Except.ok (ε := PyError) (templateConfig rules mode (Text.strip policy) .null false baseline eventAi)) = _
    rw [hrules, ok_bind, hstored, ok_bind, ok_bind, hbaseline, ok_bind, heventAi, ok_bind, hconfig, hconfig]

/-- The rules that are stored. -/
theorem thresholdRules_stored {payload rules : Dict} (h : thresholdRules t payload = .ok rules) :
    ∃ rules', normalizeRules t rules = .ok rules' ∧ asFloatsFields rules' = asFloatsFields rules := by
  rw [thresholdRules] at h
  cases hrules : payload.get "threshold_rules" with
  | obj given =>
    rw [hrules] at h
    exact ⟨rules, normalizeRules_stored h, rfl⟩
  | null | bool | int | float | str | arr =>
    rw [hrules] at h
    exact Except.ok.inj h ▸ normalizeRules_default

/-- **What was normalised stays**, up to the type of numbers. -/
theorem normalizePayload_stored {payload stored : Dict} (h : normalizePayload t payload = .ok stored) :
    ∃ stored', normalizePayload t stored = .ok stored' ∧ asFloatsFields stored' = asFloatsFields stored := by
  obtain ⟨rules, hrules, h⟩ := bind_eq_ok_iff.mp h
  obtain ⟨mode, hmode, h⟩ := bind_eq_ok_iff.mp h
  obtain ⟨policy, -, h⟩ := bind_eq_ok_iff.mp h
  obtain ⟨baseline, hbaseline, h⟩ := bind_eq_ok_iff.mp h
  obtain ⟨eventAi, heventAi, h⟩ := bind_eq_ok_iff.mp h
  obtain rfl := Except.ok.inj h
  obtain ⟨rules', hrules', hsameRules⟩ := thresholdRules_stored hrules
  obtain ⟨baseline', hbaseline', hsameBaseline⟩ := (normal_normalizeBaselineConfig hbaseline).normalize_toJson (t := t)
  refine ⟨_, normalizePayload_templateConfig _ _ hrules' (mode_of_normalize hmode) (Text.strip_strip policy) hbaseline'
    (normalizeEventAiConfig_toJson (staleRecheckMinutes_of_normalize heventAi)), ?_⟩
  simp only [templateConfig, asFloatsFields, asFloats, hsameRules, hsameBaseline]

/-! ## Totality -/

/-- **The normalisation is total and idempotent exactly on the configurations without a value that the coercions
refuse otherwise**: what it returns is always returned again. -/
theorem normalization_total_iff (payload : Dict) : Sound t (.obj payload) ↔ OrderlyConfig t payload := by
  have hescapes := escapes_normalizePayload (t := t) payload
  rw [Sound]
  constructor
  · intro hsound
    by_contra hdisorderly
    obtain ⟨e, he, hnot⟩ := hescapes.mpr hdisorderly
    rcases hsound with ⟨message, hmessage⟩ | ⟨stored, stored', hstored, -⟩
    · obtain rfl := Except.error.inj (he.symm.trans hmessage)
      exact hnot trivial
    · cases he.symm.trans hstored
  · intro horderly
    rcases returns_or_raises (mt hescapes.mp (not_not.mpr horderly)) with ⟨stored, hstored⟩ | ⟨message, hmessage⟩
    · obtain ⟨stored', hstored', hsame⟩ := normalizePayload_stored hstored
      exact .inr ⟨stored, stored', hstored, hstored', hsame⟩
    · exact .inl ⟨message, hmessage⟩

/-- Texts in ASCII. -/
def asciiTexts : Texts where
  unicode := .asciiOnly
  digit _ := 0
  float _ := none
  repr _ := []
  error _ := []

/-- A level whose duration is null. -/
def nullDuration : Json :=
  .obj [("severity", .str "low".toList), ("threshold", .float (.fin 60)), ("duration", .null)]

/-- **A null duration raises a `TypeError`.** -/
theorem nullDuration_not_sound :
    ¬ Sound asciiTexts (.obj [("threshold_rules", .obj [("cpu_usage", .obj [("levels", .arr [nullDuration])])])]) := by
  have herror : normalizeAlertTemplateConfig asciiTexts
      (.obj [("threshold_rules", .obj [("cpu_usage", .obj [("levels", .arr [nullDuration])])])]) =
      .error .typeError := by with_unfolding_all rfl
  rintro (⟨message, hmessage⟩ | ⟨stored, stored', hstored, -⟩)
  · rw [herror] at hmessage
    cases hmessage
  · rw [herror] at hstored
    cases hstored

end DBClaw.Alerts.TemplateConfigs
