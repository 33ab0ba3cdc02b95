import DBClaw.Alerts.Collector
import DBClaw.Library.Runs

/-! # The baseline detector
`BaselineSignalDetector` for one datasource: it remembers since when a metric has been above the bound
that its baseline profile gives, when it last triggered, and how many calls have confirmed the
deviation. Only a sample that is missing or within the bound clears this; a call that does not come to
a sample, because the baseline or the metric is disabled or its profile is missing or has too few
samples, leaves it as it is. -/

namespace DBClaw.Alerts.Baselines

open Runs

/-! ## Configuration -/

/-- The metrics of `DEFAULT_BASELINE_CONFIG`, which are those of every normal form. -/
inductive Metric
  | cpuUsage | diskUsage | connectionsActive
  deriving DecidableEq, Repr

/-- The name of a metric. -/
def Metric.name : Metric → String
  | .cpuUsage => "cpu_usage"
  | .diskUsage => "disk_usage"
  | .connectionsActive => "connections_active"

/-- The metrics in the order of the configuration. -/
def Metric.all : List Metric := [.cpuUsage, .diskUsage, .connectionsActive]

/-- The entry of a metric as it is submitted, its values as `bool`, `int` and `float` read them. -/
structure MetricPayload where
  enabled : Option Bool := none
  duration : Option ℤ := none
  severity : Option Text := none
  minimum : Option PyFloat := none
  deriving DecidableEq, Repr

/-- A `baseline_config` as it is submitted, as far as the detector reads it. -/
structure ConfigPayload where
  enabled : Option Bool := none
  minSamples : Option ℤ := none
  deviationRatio : Option PyFloat := none
  minAbsoluteDelta : Option PyFloat := none
  metrics : Metric → Option MetricPayload := fun _ => none

/-- The entry of a metric in the normal form. -/
structure MetricConfig where
  enabled : Bool
  /-- In seconds. -/
  duration : ℤ
  severity : Severity
  minimum : PyFloat
  deriving DecidableEq, Repr

/-- A `baseline_config` in its normal form. -/
structure Config where
  enabled : Bool
  minSamples : ℤ
  deviationRatio : ℚ
  minAbsoluteDelta : PyFloat
  metrics : Metric → MetricConfig

/-- `DEFAULT_BASELINE_CONFIG["metrics"]`. -/
def defaultMetricConfig : Metric → MetricConfig
  | .cpuUsage => { enabled := true, duration := 300, severity := .medium, minimum := .fin 20 }
  | .diskUsage => { enabled := true, duration := 600, severity := .high, minimum := .fin 70 }
  | .connectionsActive => { enabled := true, duration := 300, severity := .medium, minimum := .fin 10 }

/-- Python's `max` of two floats. -/
def pyMax (x y : PyFloat) : PyFloat := if x.lt y then y else x

/-- `max(1.05, min(5.0, x))`; the `min` with NaN is 5. -/
def clampRatio : PyFloat → ℚ
  | .fin q => max (105 / 100) (min 5 q)
  | .negInf => 105 / 100
  | .posInf | .nan => 5

/-- `severity if severity in {...} else "medium"`, for the stripped text in lower case. -/
def readSeverity (u : Unicode) (text : Text) : Severity :=
  ([.critical, .high, .medium, .low].find? fun severity : Severity =>
    severity.text.toList = Text.lower u (Text.strip text)).getD .medium

/-- The entry of a metric in the normal form, from its default. -/
def normalizeMetricConfig (u : Unicode) (default : MetricConfig) (current : MetricPayload) :
    MetricConfig where
  enabled := current.enabled.getD default.enabled
  duration := (current.duration.map (max 60)).getD default.duration
  severity :=
    match current.severity with
    | none | some [] => default.severity
    | some text => readSeverity u text
  minimum := current.minimum.getD default.minimum

/-- **`normalize_baseline_config`**, without what the detector does not read. -/
def normalizeBaselineConfig (u : Unicode) (config : Option ConfigPayload) : Config :=
  let config := config.getD {}
  { enabled := config.enabled.getD false
    minSamples := (config.minSamples.map fun n => max 6 (min 500 n)).getD 24
    deviationRatio := (config.deviationRatio.map clampRatio).getD (135 / 100)
    minAbsoluteDelta := (config.minAbsoluteDelta.map (pyMax (.fin 0))).getD (.fin 10)
    metrics := fun metric =>
      match config.metrics metric with
      | none => defaultMetricConfig metric
      | some current => normalizeMetricConfig u (defaultMetricConfig metric) current }

/-! ## The bound -/

/-- The columns of `metric_baseline_profile` that the detector reads. -/
structure Profile where
  weekday : ℤ
  hour : ℤ
  sampleCount : ℤ
  avgValue : Option ℚ := none
  p95Value : Option ℚ := none
  deriving DecidableEq, Repr

/-- `round(q, 4)`: to the nearest, and to the even one of two. -/
def roundRat (q : ℚ) : ℚ :=
  let n := (q * 10000).floor
  let rest := q * 10000 - n
  if rest < 1 / 2 ∨ (rest = 1 / 2 ∧ n % 2 = 0) then n / 10000 else (n + 1) / 10000

/-- `round(x, 4)`. -/
def round4 : PyFloat → PyFloat
  | .fin q => .fin (roundRat q)
  | x => x

/-- `q + x`. -/
def plus (q : ℚ) : PyFloat → PyFloat
  | .fin r => .fin (q + r)
  | x => x

/-- **`compute_upper_bound`.** -/
def computeUpperBound (profile : Profile) (config : Config) : Option PyFloat :=
  (profile.p95Value.or profile.avgValue).map fun base =>
    -- a delta of zero is falsy, and gives way to the default
    let absolute := if config.minAbsoluteDelta = .fin 0 then .fin 10 else config.minAbsoluteDelta
    round4 (pyMax (.fin (base * config.deviationRatio)) (plus base absolute))

/-! ## One metric -/

/-- What the detector remembers of a metric. -/
structure Track where
  /-- The entry of `_violation_start_times`. -/
  start : Option Time := none
  /-- The entry of `_last_trigger_times`. -/
  lastTrigger : Option Time := none
  /-- The entry of `_violation_counts`. -/
  count : ℕ := 0
  deriving DecidableEq, Repr

/-- `_trigger_cooldown`. -/
def cooldown : Time := Time.seconds 3600

/-- `metric_config.get("confirmations") or 2`: the normal form has no such entry. -/
def requiredConfirmations : ℕ := 2

/-- One call of `check_baselines`. -/
structure Call where
  now : Time
  metrics : Dict
  profiles : Metric → Option Profile
  config : Option ConfigPayload

/-- What a call comes to for a metric. -/
inductive Reading
  /-- It is skipped before a sample is looked for. -/
  | unchecked
  /-- There is no sample. -/
  | missing
  | measured (profile : Profile) (value bound : PyFloat)
  deriving DecidableEq, Repr

section Detector

variable (python : Python) (u : Unicode)

/-- The configuration of a metric in a call. -/
def Call.metricConfig (call : Call) (metric : Metric) : MetricConfig :=
  (normalizeBaselineConfig u call.config).metrics metric

/-- The exits of the loop in `check_baselines` up to the comparison. -/
def Call.reading (call : Call) (metric : Metric) : Reading :=
  let config := normalizeBaselineConfig u call.config
  if config.enabled && (config.metrics metric).enabled then
    match call.profiles metric with
    | none => .unchecked
    | some profile =>
      if profile.sampleCount < config.minSamples then .unchecked
      else
        match baselineMetricValue python call.metrics metric.name with
        | none => .missing
        | some value =>
          .measured profile value <| pyMax ((computeUpperBound profile config).getD (.fin 0))
            (config.metrics metric).minimum
  else .unchecked

/-- `required_duration`, in seconds. -/
def Call.requiredDuration (call : Call) (metric : Metric) : ℤ :=
  max 60 (call.metricConfig u metric).duration

/-- The last trigger is less than an hour old. -/
def Track.coolingDown (track : Track) (now : Time) : Bool :=
  track.lastTrigger.any fun last => now - last < cooldown

/-- How long the metric has been above its bound, when it is now. -/
def Track.violationDuration (track : Track) (now : Time) : Time := now - track.start.getD now

/-- A sample above the bound does not count yet: it has been so for too short a time, or the last
trigger is too recent. -/
def Track.heldBack (track : Track) (required : ℤ) (now : Time) : Bool :=
  track.violationDuration now < Time.seconds required || track.coolingDown now

/-- A sample above the bound, and for how long it has been so if a violation is emitted. -/
def Track.violated (track : Track) (required : ℤ) (now : Time) : Track × Option Time :=
  let started := { track with start := some (track.start.getD now) }
  if track.heldBack required now then (started, none)
  else if track.count + 1 < requiredConfirmations then
    ({ started with count := track.count + 1 }, none)
  else
    ({ started with count := 0, lastTrigger := some now }, some (track.violationDuration now))

/-- A violation as the detector emits it. -/
structure Violation where
  metricName : String
  currentValue : PyFloat
  baselineAvg : Option ℚ
  baselineP95 : Option ℚ
  upperBound : PyFloat
  duration : ℤ
  violationDuration : Time
  sampleCount : ℤ
  severity : Severity
  slotLabel : String
  deriving DecidableEq, Repr

/-- `f"周{profile.weekday + 1} {int(profile.hour):02d}:00"`. -/
def Profile.slotLabel (profile : Profile) : String :=
  let hour := toString profile.hour
  "周" ++ toString (profile.weekday + 1) ++ " " ++ (if hour.length < 2 then "0" ++ hour else hour) ++ ":00"

/-- **One metric of a call.** -/
def checkMetric (call : Call) (metric : Metric) (track : Track) : Track × Option Violation :=
  match call.reading python u metric with
  | .unchecked => (track, none)
  -- `_clear_metric_state`
  | .missing => ({}, none)
  | .measured profile value bound =>
    if bound.lt value then
      let (track', emitted) := track.violated (call.requiredDuration u metric) call.now
      (track', emitted.map fun duration => {
        metricName := metric.name
        currentValue := round4 value
        baselineAvg := profile.avgValue
        baselineP95 := profile.p95Value
        upperBound := bound
        duration := call.requiredDuration u metric
        violationDuration := duration
        sampleCount := profile.sampleCount
        severity := (call.metricConfig u metric).severity
        slotLabel := profile.slotLabel })
    else ({}, none)

/-! ## The detector -/

/-- The detector's data of the datasource. -/
abbrev Detector := Metric → Track

/-- **`check_baselines`**: the metrics one after another. -/
def checkBaselines (detector : Detector) (call : Call) : Detector × List Violation :=
  (fun metric => (checkMetric python u call metric (detector metric)).1,
    Metric.all.filterMap fun metric => (checkMetric python u call metric (detector metric)).2)

/-- The detector after calls, of which the newest stands first. -/
def detectorAfter : List Call → Detector
  | [] => fun _ => {}
  | call :: past => (checkBaselines python u (detectorAfter past) call).1

/-- The violations that calls emit for a metric one after another. -/
def emissions (metric : Metric) : Detector → List Call → List (List Violation)
  | _, [] => []
  | detector, call :: calls =>
    let (detector', violations) := checkBaselines python u detector call
    violations.filter (·.metricName = metric.name) :: emissions metric detector' calls

/-! ## What a violation means -/

/-- The metric is enabled in the call, its profile is sufficient, and there is a sample above the
bound. -/
def Deviates (metric : Metric) (call : Call) : Prop :=
  let config := normalizeBaselineConfig u call.config
  config.enabled = true ∧ (config.metrics metric).enabled = true ∧
    ∃ profile ∈ call.profiles metric, config.minSamples ≤ profile.sampleCount ∧
      ∃ value ∈ baselineMetricValue python call.metrics metric.name,
        (pyMax ((computeUpperBound profile config).getD (.fin 0)) (config.metrics metric).minimum).lt value = true

/-- There is a sample of the metric, and it is not above the bound. -/
def Within (metric : Metric) (call : Call) : Prop :=
  ∃ profile value bound, call.reading python u metric = .measured profile value bound ∧
    bound.lt value = false

/-- A call after others counts as a confirmation of a deviation. -/
def Counted (metric : Metric) (past : List Call) (call : Call) : Prop :=
  Deviates python u metric call ∧
    (detectorAfter python u past metric).heldBack (call.requiredDuration u metric) call.now = false

/-- **A violation of a sustained deviation**: the metric has been above its bound for the required
duration, in all calls of that time, and the newest calls are the ones that confirm it. -/
structure Sustained (metric : Metric) (past : List Call) (call : Call) (v : Violation) : Prop where
  required : Time.seconds (call.requiredDuration u metric) ≤ v.violationDuration
  deviates : ∀ c ∈ call :: past, call.now - v.violationDuration ≤ c.now → Deviates python u metric c
  confirmed : ∀ k < requiredConfirmations, ∃ c earlier,
    (call :: past).drop k = c :: earlier ∧ Counted python u metric earlier c

/-- **What the detector is for**: the violations of a call are those of sustained deviations, and after
a sample within the bound the detector goes on like a fresh one. -/
structure Sound (metric : Metric) (past : List Call) (call : Call) : Prop where
  sustained : ∀ v ∈ (checkBaselines python u (detectorAfter python u past) call).2,
    v.metricName = metric.name → Sustained python u metric past call v
  forgotten : Within python u metric call → ∀ calls,
    emissions python u metric (detectorAfter python u (call :: past)) calls =
      emissions python u metric (fun _ => {}) calls

/-- A call that leaves a deviation neither unchecked nor unconfirmed: it skips the metric only while
no deviation is tracked, it is not held back by a longer duration once another has confirmed the
deviation, and a deviation begins later than all calls before it. -/
structure Steady (metric : Metric) (past : List Call) (call : Call) : Prop where
  checked : call.reading python u metric = .unchecked → (detectorAfter python u past metric).start = none
  lasting : Deviates python u metric call → (detectorAfter python u past metric).count ≠ 0 →
    Time.seconds (call.requiredDuration u metric) ≤
      (detectorAfter python u past metric).violationDuration call.now
  begun : Deviates python u metric call → (detectorAfter python u past metric).start = none →
    ∀ c ∈ past, c.now < call.now

/-- **What the track of a metric stands for**, after steady calls: all calls since its start deviate,
and if it counts a confirmation then the newest call is that, and one trigger is not so recent. -/
structure Tracked (metric : Metric) (past : List Call) (track : Track) : Prop where
  idle : track.start = none → track.count = 0
  deviates : ∀ start ∈ track.start, ∀ c ∈ past, start ≤ c.now → Deviates python u metric c
  few : track.count < requiredConfirmations
  begun : ∀ start ∈ track.start, ∃ c ∈ past, start ≤ c.now
  confirmed : track.count ≠ 0 → ∃ c earlier, past = c :: earlier ∧
    Counted python u metric earlier c ∧ track.coolingDown c.now = false

end Detector

variable {python : Python} {u : Unicode} {metric : Metric}

/-! ## A call -/

/-- A call is one of a deviation if its reading is a sample above the bound. -/
theorem deviates_iff {call : Call} : Deviates python u metric call ↔
    ∃ profile value bound, call.reading python u metric = .measured profile value bound ∧
      bound.lt value = true := by
  unfold Deviates Call.reading
  dsimp only
  split
  · rename_i henabled
    obtain ⟨hconfig, hmetric⟩ := Bool.and_eq_true_iff.mp henabled
    cases call.profiles metric with
    | none => simp
    | some profile =>
      cases baselineMetricValue python call.metrics metric.name <;>
        by_cases hsamples : profile.sampleCount < (normalizeBaselineConfig u call.config).minSamples <;>
        simp [hconfig, hmetric, hsamples, le_of_not_gt]
  · rename_i henabled
    simp only [Bool.and_eq_true, not_and] at henabled
    simp only [reduceCtorEq, false_and, exists_false, iff_false, not_and]
    exact fun hconfig hmetric => absurd hmetric (henabled hconfig)

/-- A sample above the bound goes through `violated`. -/
theorem checkMetric_of_deviates {call : Call} (h : Deviates python u metric call) (track : Track) :
    (checkMetric python u call metric track).1 =
      (track.violated (call.requiredDuration u metric) call.now).1 := by
  obtain ⟨profile, value, bound, hreading, hlt⟩ := deviates_iff.mp h
  unfold checkMetric
  rw [hreading]
  simp only [hlt, if_true]

/-- **The exits of a call**: it leaves the track alone, or clears it, or the metric deviates. -/
theorem checkMetric_cases (call : Call) (track : Track) :
    call.reading python u metric = .unchecked ∧ checkMetric python u call metric track = (track, none) ∨
    checkMetric python u call metric track = ({}, none) ∨ Deviates python u metric call := by
  unfold checkMetric
  cases hreading : call.reading python u metric with
  | unchecked => exact .inl ⟨rfl, rfl⟩
  | missing => exact .inr (.inl rfl)
  | measured profile value bound =>
    cases hlt : bound.lt value with
    | false => exact .inr (.inl (by simp only [hlt, Bool.false_eq_true, if_false]))
    | true => exact .inr (.inr (deviates_iff.mpr ⟨profile, value, bound, hreading, hlt⟩))

/-- A sample within the bound clears the track. -/
theorem checkMetric_of_within {call : Call} (h : Within python u metric call) (track : Track) :
    (checkMetric python u call metric track).1 = {} := by
  obtain ⟨profile, value, bound, hreading, hlt⟩ := h
  unfold checkMetric
  rw [hreading]
  simp only [hlt, Bool.false_eq_true, if_false]

/-- A violation is one of a deviation that `violated` emits. -/
theorem checkMetric_emits {call : Call} {track : Track} {v : Violation}
    (h : (checkMetric python u call metric track).2 = some v) :
    Deviates python u metric call ∧ v.metricName = metric.name ∧
      (track.violated (call.requiredDuration u metric) call.now).2 = some v.violationDuration := by
  unfold checkMetric at h
  cases hreading : call.reading python u metric with
  | unchecked =>
    rw [hreading] at h
    cases h
  | missing =>
    rw [hreading] at h
    cases h
  | measured profile value bound =>
    rw [hreading] at h
    cases hlt : bound.lt value with
    | false =>
      simp only [hlt, Bool.false_eq_true, if_false, reduceCtorEq] at h
    | true =>
      simp only [hlt, if_true, Option.map_eq_some_iff] at h
      obtain ⟨duration, hduration, rfl⟩ := h
      exact ⟨deviates_iff.mpr ⟨profile, value, bound, hreading, hlt⟩, rfl, hduration⟩

/-- What `violated` emits in a deviation is emitted as a violation. -/
theorem exists_checkMetric_of_emits {call : Call} {track : Track} {duration : Time}
    (h : Deviates python u metric call)
    (hemits : (track.violated (call.requiredDuration u metric) call.now).2 = some duration) :
    ∃ v, (checkMetric python u call metric track).2 = some v ∧ v.violationDuration = duration := by
  obtain ⟨profile, value, bound, hreading, hlt⟩ := deviates_iff.mp h
  unfold checkMetric
  rw [hreading]
  simp only [hlt, if_true, hemits, Option.map_some]
  exact ⟨_, rfl, rfl⟩

/-- Metrics differ in their names. -/
theorem Metric.name_injective : Function.Injective Metric.name := by
  intro m m' h
  cases m <;> cases m' <;> first | rfl | exact absurd h (by decide)

/-- A call's violations of a metric are the metric's own. -/
theorem mem_checkBaselines_iff {detector : Detector} {call : Call} {v : Violation} :
    v ∈ (checkBaselines python u detector call).2 ∧ v.metricName = metric.name ↔
      (checkMetric python u call metric (detector metric)).2 = some v := by
  simp only [checkBaselines, List.mem_filterMap]
  constructor
  · rintro ⟨⟨m, -, hm⟩, hname⟩
    rw [(checkMetric_emits hm).2.1] at hname
    rw [← Metric.name_injective hname]
    exact hm
  · intro h
    exact ⟨⟨metric, by cases metric <;> decide, h⟩, (checkMetric_emits h).2.1⟩

/-- The violations of a call that are of the metric. -/
theorem filter_checkBaselines (detector : Detector) (call : Call) :
    ((checkBaselines python u detector call).2.filter (·.metricName = metric.name)) =
      (checkMetric python u call metric (detector metric)).2.toList := by
  have hfilter (m : Metric) : ((checkMetric python u call m (detector m)).2.filter
      (·.metricName = metric.name)) =
        if m = metric then (checkMetric python u call metric (detector metric)).2 else none := by
    by_cases heq : m = metric
    · subst heq
      rw [if_pos rfl]
      cases hm : (checkMetric python u call m (detector m)).2 with
      | none => rfl
      | some v => rw [Option.filter_some, (checkMetric_emits hm).2.1, if_pos (decide_eq_true rfl)]
    · rw [if_neg heq]
      cases hm : (checkMetric python u call m (detector m)).2 with
      | none => rfl
      | some v =>
        have hne : m.name ≠ metric.name := Metric.name_injective.ne heq
        rw [Option.filter_some, (checkMetric_emits hm).2.1, if_neg (by simpa using hne)]
  rw [checkBaselines, List.filter_filterMap]
  simp only [hfilter]
  cases metric <;> simp [Metric.all, List.filterMap_cons] <;> split <;> simp_all

/-- What calls emit for a metric depends on the metric's track alone. -/
theorem emissions_congr (calls : List Call) {d d' : Detector} (h : d metric = d' metric) :
    emissions python u metric d calls = emissions python u metric d' calls := by
  induction calls generalizing d d' with
  | nil => rfl
  | cons call calls ih =>
    simp only [emissions, filter_checkBaselines, h]
    exact congrArg _ (ih (by simp only [checkBaselines, h]))

/-! ## The track of a metric -/

/-- Violations are emitted by the call that completes the confirmations. -/
theorem Track.violated_emits {track : Track} {required : ℤ} {now duration : Time}
    (h : (track.violated required now).2 = some duration) :
    track.heldBack required now = false ∧ requiredConfirmations ≤ track.count + 1 ∧
      duration = track.violationDuration now := by
  unfold Track.violated at h
  dsimp only at h
  split at h
  · cases h
  · rename_i hheld
    split at h
    · cases h
    · rename_i hcount
      exact ⟨Bool.not_eq_true _ ▸ hheld, not_lt.mp hcount, (Option.some.inj h).symm⟩

/-- A deviation keeps its start. -/
theorem Track.violated_start (track : Track) (required : ℤ) (now : Time) :
    (track.violated required now).1.start = some (track.start.getD now) := by
  unfold Track.violated
  dsimp only
  split
  · rfl
  · split <;> rfl

/-- The confirmations stay below the required ones. -/
theorem Track.violated_few {track : Track} (h : track.count < requiredConfirmations) (required : ℤ)
    (now : Time) : (track.violated required now).1.count < requiredConfirmations := by
  unfold Track.violated
  dsimp only
  split
  · exact h
  · split
    · rename_i hcount
      exact hcount
    · exact Nat.zero_lt_two

/-- A count that is left over was there before, in a call that is held back, or is this call's. -/
theorem Track.violated_counts {track : Track} {required : ℤ} {now : Time}
    (h : (track.violated required now).1.count ≠ 0) :
    track.count ≠ 0 ∧ track.heldBack required now = true ∨
      track.heldBack required now = false ∧ (track.violated required now).1.coolingDown now = false := by
  unfold Track.violated at h ⊢
  dsimp only at h ⊢
  cases hheld : track.heldBack required now with
  | true =>
    rw [hheld] at h
    exact .inl ⟨h, rfl⟩
  | false =>
    have hcool : track.coolingDown now = false := (Bool.or_eq_false_iff.mp hheld).2
    rw [hheld] at h
    simp only [Bool.false_eq_true, if_false] at h ⊢
    split at h
    · rename_i hcount
      rw [if_pos hcount]
      exact .inr ⟨trivial, hcool⟩
    · exact absurd rfl h

/-- A trigger that is no longer recent stays so. -/
theorem Track.coolingDown_mono {track : Track} {now later : Time}
    (h : track.coolingDown now = false) (hle : now ≤ later) : track.coolingDown later = false := by
  unfold Track.coolingDown at h ⊢
  cases hlast : track.lastTrigger with
  | none => rfl
  | some last =>
    rw [hlast, Option.any_some, decide_eq_false_iff_not, not_lt] at h
    rw [Option.any_some, decide_eq_false_iff_not, not_lt]
    exact h.trans (sub_le_sub_right hle _)

/-- A track without a deviation. -/
theorem Tracked.clear (past : List Call) : Tracked python u metric past {} where
  idle _ := rfl
  deviates _ h := by cases h
  few := by decide
  begun _ h := by cases h
  confirmed h := absurd rfl h

/-- **A steady call keeps it.** -/
theorem Tracked.step {past : List Call} {call : Call}
    (h : Tracked python u metric past (detectorAfter python u past metric))
    (hsteady : Steady python u metric past call) (hnow : ∀ c ∈ past, c.now ≤ call.now) :
    Tracked python u metric (call :: past)
      (detectorAfter python u (call :: past) metric) := by
  change Tracked python u metric (call :: past)
    (checkMetric python u call metric (detectorAfter python u past metric)).1
  obtain ⟨hunchecked, hsame⟩ | hclear | hdeviates :=
    checkMetric_cases call (detectorAfter python u past metric)
  · -- an unchecked call finds no deviation
    have hstart := hsteady.checked hunchecked
    have hcount := h.idle hstart
    rw [hsame]
    refine ⟨h.idle, fun start hmem => ?_, h.few, fun start hmem => ?_, fun hne => absurd hcount hne⟩ <;>
    · rw [hstart] at hmem
      cases hmem
  · rw [hclear]
    exact .clear _
  · rw [checkMetric_of_deviates hdeviates]
    refine ⟨fun hnone => ?_, fun start hstart c hc hle => ?_, ?_, fun start hstart => ?_, fun hcount => ?_⟩
    · rw [Track.violated_start] at hnone
      cases hnone
    · obtain rfl | hc := List.mem_cons.mp hc
      · exact hdeviates
      · rw [Track.violated_start, Option.mem_some_iff] at hstart
        cases hbegun : (detectorAfter python u past metric).start with
        | none =>
          -- a deviation that begins now is younger than the earlier calls
          rw [hbegun, Option.getD_none] at hstart
          exact absurd hle (hstart ▸ not_le.mpr (hsteady.begun hdeviates hbegun c hc))
        | some s =>
          rw [hbegun, Option.getD_some] at hstart
          exact h.deviates start (hstart ▸ hbegun) c hc hle
    · exact Track.violated_few h.few _ _
    · rw [Track.violated_start, Option.mem_some_iff] at hstart
      refine ⟨call, List.mem_cons_self, hstart ▸ ?_⟩
      cases hbegun : (detectorAfter python u past metric).start with
      | none => exact le_refl _
      | some s =>
        obtain ⟨c, hc, hle⟩ := h.begun s hbegun
        exact hle.trans (hnow c hc)
    · obtain ⟨hkept, hheld⟩ | ⟨hheld, hcool⟩ := Track.violated_counts hcount
      · -- an earlier confirmation, so that the deviation lasts and no trigger is recent
        obtain ⟨c, earlier, rfl, -, hcool⟩ := h.confirmed hkept
        have hlasts := hsteady.lasting hdeviates hkept
        have hcool' := Track.coolingDown_mono hcool (hnow c List.mem_cons_self)
        rw [Track.heldBack, hcool', Bool.or_false, decide_eq_true_iff] at hheld
        exact absurd hheld (not_lt.mpr hlasts)
      · exact ⟨call, past, rfl, ⟨hdeviates, hheld⟩, hcool⟩

/-! ## Runs -/

/-- A violation after steady calls is one of a sustained deviation. -/
theorem Tracked.sustained {past : List Call} {call : Call} {v : Violation}
    (h : Tracked python u metric past (detectorAfter python u past metric))
    (hv : (checkMetric python u call metric (detectorAfter python u past metric)).2 = some v) :
    Sustained python u metric past call v := by
  obtain ⟨hdeviates, -, hemits⟩ := checkMetric_emits hv
  obtain ⟨hheld, hcount, hduration⟩ := Track.violated_emits hemits
  have hne : (detectorAfter python u past metric).count ≠ 0 := by
    intro hzero
    rw [hzero] at hcount
    exact absurd hcount (by decide)
  obtain ⟨c, earlier, rfl, hcounted, -⟩ := h.confirmed hne
  obtain ⟨start, hstart⟩ : ∃ start, (detectorAfter python u (c :: earlier) metric).start = some start :=
    Option.ne_none_iff_exists'.mp fun hnone => hne (h.idle hnone)
  refine ⟨?_, fun c' hc' hle => ?_, fun k hk => ?_⟩
  · rw [Track.heldBack, Bool.or_eq_false_iff, decide_eq_false_iff_not, not_lt] at hheld
    exact hduration ▸ hheld.1
  · obtain rfl | hc' := List.mem_cons.mp hc'
    · exact hdeviates
    · rw [hduration, Track.violationDuration, hstart, Option.getD_some, sub_sub_cancel] at hle
      exact h.deviates start hstart c' hc' hle
  · -- this call and the one before it
    match k, hk with
    | 0, _ => exact ⟨call, c :: earlier, rfl, hdeviates, hheld⟩
    | 1, _ => exact ⟨c, earlier, rfl, hcounted⟩

/-- After a sample within the bound the detector is like a fresh one. -/
theorem forgotten_of_within {past : List Call} {call : Call} (h : Within python u metric call)
    (calls : List Call) :
    emissions python u metric (detectorAfter python u (call :: past)) calls =
      emissions python u metric (fun _ => {}) calls :=
  emissions_congr calls (checkMetric_of_within h _)

variable (python u metric)

/-- A call, at a time that is not before those of the calls so far. -/
def observe (past : List Call) (call : Call) : Option (List Call) :=
  if ∀ c ∈ past, c.now ≤ call.now then some (call :: past) else none

variable {python u metric}

/-- A call that is observed is not before the others. -/
theorem observe_eq_some {past past' : List Call} {call : Call} (h : observe past call = some past') :
    (∀ c ∈ past, c.now ≤ call.now) ∧ past' = call :: past := by
  unfold observe at h
  split at h
  · rename_i hnow
    exact ⟨hnow, (Option.some.inj h).symm⟩
  · cases h

/-- The newest call of a run stands first. -/
theorem newest_of_run {allowed : List Call → Call → Prop} {calls history : List Call}
    (hrun : Run observe allowed [] calls history) (newest : Call) (earlier : List Call)
    (hsplit : history = newest :: earlier) : ∀ c ∈ history, c.now ≤ newest.now := by
  refine hrun.invariant
    (I := fun history => ∀ newest earlier, history = newest :: earlier → ∀ c ∈ history, c.now ≤ newest.now)
    (fun past call past' _ _ hstep => ?_) (fun _ _ h => by cases h) newest earlier hsplit
  obtain ⟨hnow, rfl⟩ := observe_eq_some hstep
  rintro newest earlier hsplit c hc
  obtain ⟨rfl, rfl⟩ := List.cons.inj hsplit
  obtain rfl | hc := List.mem_cons.mp hc
  · exact le_refl _
  · exact hnow c hc

/-- A steady call that is observed keeps what the track stands for. -/
theorem Tracked.observe {past past' : List Call} {call : Call}
    (h : Tracked python u metric past (detectorAfter python u past metric))
    (hsteady : Steady python u metric past call) (hstep : observe past call = some past') :
    Tracked python u metric past' (detectorAfter python u past' metric) := by
  obtain ⟨hnow, rfl⟩ := observe_eq_some hstep
  exact h.step hsteady hnow

/-- Steady calls are sound from every tracked deviation on. -/
theorem Tracked.sound {past calls history : List Call}
    (h : Tracked python u metric past (detectorAfter python u past metric))
    (hrun : Run Baselines.observe (Steady python u metric) past calls history) :
    Run Baselines.observe (Sound python u metric) past calls history := by
  refine hrun.strengthen (I := fun past => Tracked python u metric past (detectorAfter python u past metric))
    (fun past call h _ => ?_) (fun past call past' => Tracked.observe) h
  exact ⟨fun v hv hname => h.sustained (mem_checkBaselines_iff.mp ⟨hv, hname⟩), forgotten_of_within⟩

/-- Python without text. -/
def numbersOnly : Python where
  float _ := none
  evalIsTrue _ _ := false

/-- A call with a sufficient profile and a sample above every bound. -/
def probe (metric : Metric) (now : Time) : Call where
  now := now
  metrics := [(metric.name, .float .posInf)]
  profiles _ := some { weekday := 0, hour := 0, sampleCount := 24 }
  config := some { enabled := some true }

theorem deviates_probe (now : Time) : Deviates python u metric (probe metric now) := by
  refine ⟨rfl, ?_, _, rfl, ?_, .posInf, ?_, ?_⟩ <;> cases metric <;> rfl

/-- A time at which a track is no longer held back. -/
def Track.due (track : Track) (now : Time) : Time :=
  max now (track.lastTrigger.getD now) + Time.seconds 3600

theorem Track.le_due (track : Track) (now : Time) : now ≤ track.due now :=
  (le_max_left now _).trans (le_add_of_nonneg_right (by decide))

/-- By then the deviation has lasted, and the last trigger is old. -/
theorem Track.heldBack_due {track : Track} {start now : Time} (hstart : track.start = some start)
    (hle : start ≤ now) :
    track.heldBack ((probe metric (track.due now)).requiredDuration u metric) (track.due now) = false := by
  have hrequired : (probe metric (track.due now)).requiredDuration u metric ≤ 3600 := by
    change max 60 (defaultMetricConfig metric).duration ≤ 3600
    cases metric <;> decide
  have hlong : start + Time.seconds 3600 ≤ track.due now :=
    add_le_add (hle.trans (le_max_left now _)) (le_refl _)
  have hcool : track.coolingDown (track.due now) = false := by
    unfold Track.coolingDown
    cases hlast : track.lastTrigger with
    | none => rfl
    | some last =>
      have hlater : last + Time.seconds 3600 ≤ track.due now := by
        rw [Track.due, hlast, Option.getD_some]
        exact add_le_add (le_max_right now last) (le_refl _)
      rw [Option.any_some, decide_eq_false_iff_not, not_lt, cooldown]
      exact le_sub_iff_add_le'.mpr hlater
  rw [Track.heldBack, hcool, Bool.or_false, decide_eq_false_iff_not, not_lt, Track.violationDuration,
    hstart, Option.getD_some]
  have hseconds : Time.seconds ((probe metric (track.due now)).requiredDuration u metric) ≤ Time.seconds 3600 :=
    Int.mul_le_mul_of_nonneg_right hrequired (by decide)
  exact hseconds.trans (le_sub_iff_add_le'.mpr hlong)

/-- A probe of a deviation is a steady call. -/
theorem steady_probe {past : List Call} {start now : Time}
    (hstart : (detectorAfter python u past metric).start = some start) (hle : start ≤ now) :
    Steady python u metric past (probe metric ((detectorAfter python u past metric).due now)) where
  checked hunchecked := by
    have hdeviates : Deviates python u metric (probe metric ((detectorAfter python u past metric).due now)) :=
      deviates_probe _
    obtain ⟨_, _, _, hreading, -⟩ := deviates_iff.mp hdeviates
    rw [hunchecked] at hreading
    cases hreading
  lasting _ _ := by
    have hheld : (detectorAfter python u past metric).heldBack
        ((probe metric ((detectorAfter python u past metric).due now)).requiredDuration u metric)
        ((detectorAfter python u past metric).due now) = false := Track.heldBack_due hstart hle
    rw [Track.heldBack, Bool.or_eq_false_iff, decide_eq_false_iff_not, not_lt] at hheld
    exact hheld.1
  begun _ hnone := by
    rw [hstart] at hnone
    cases hnone

/-- The deviation that is tracked is a sustained one wherever all steady continuations are sound: one
more confirmation would emit it. -/
theorem deviates_of_sound {past : List Call} {start now : Time}
    (hsound : ∀ calls history, Run observe (Steady python u metric) past calls history →
      Run observe (Sound python u metric) past calls history)
    (hstart : (detectorAfter python u past metric).start = some start) (hle : start ≤ now)
    (hnow : ∀ c ∈ past, c.now ≤ now)
    (hcount : (detectorAfter python u past metric).count + 1 = requiredConfirmations) :
    (∀ c ∈ past, start ≤ c.now → Deviates python u metric c) ∧
      ∃ c earlier, past = c :: earlier ∧ Counted python u metric earlier c := by
  let track := detectorAfter python u past metric
  let call := probe metric (track.due now)
  have hheld : track.heldBack (call.requiredDuration u metric) call.now = false :=
    Track.heldBack_due hstart hle
  have hobserve : observe past call = some (call :: past) :=
    if_pos fun c hc => (hnow c hc).trans (track.le_due now)
  have hrun := hsound _ _ (.cons (steady_probe hstart hle) hobserve (.nil _))
  obtain ⟨hcall⟩ : Nonempty (Sound python u metric past call) := by
    cases hrun with
    | cons h _ _ => exact ⟨h⟩
  -- the probe emits the violation
  have hemits : (track.violated (call.requiredDuration u metric) call.now).2 = some (call.now - start) := by
    unfold Track.violated
    dsimp only
    rw [hheld, if_neg Bool.false_ne_true, if_neg (by rw [hcount]; exact lt_irrefl _),
      Track.violationDuration, hstart, Option.getD_some]
  obtain ⟨v, hv, hduration⟩ := exists_checkMetric_of_emits (deviates_probe _) hemits
  obtain ⟨hmem, hname⟩ := mem_checkBaselines_iff.mpr hv
  obtain ⟨-, hdeviates, hconfirmed⟩ := hcall.sustained v hmem hname
  refine ⟨fun c hc hlate => hdeviates c (List.mem_cons_of_mem _ hc) ?_, hconfirmed 1 (by decide)⟩
  rw [hduration, sub_sub_cancel]
  exact hlate

/-- The same of a deviation that no call has confirmed yet. -/
theorem deviates_of_sound_of_zero {past : List Call} {start now : Time}
    (hsound : ∀ calls history, Run observe (Steady python u metric) past calls history →
      Run observe (Sound python u metric) past calls history)
    (hstart : (detectorAfter python u past metric).start = some start) (hle : start ≤ now)
    (hnow : ∀ c ∈ past, c.now ≤ now) (hcount : (detectorAfter python u past metric).count = 0) :
    ∀ c ∈ past, start ≤ c.now → Deviates python u metric c := by
  let track := detectorAfter python u past metric
  let call := probe metric (track.due now)
  have hheld : track.heldBack (call.requiredDuration u metric) call.now = false :=
    Track.heldBack_due hstart hle
  have hearlier : ∀ c ∈ past, c.now ≤ call.now := fun c hc => (hnow c hc).trans (track.le_due now)
  -- a probe confirms the deviation, and another one emits it
  have hconfirmed : detectorAfter python u (call :: past) metric = { track with
      start := some (track.start.getD call.now), count := track.count + 1 } := by
    change (checkMetric python u call metric track).1 = _
    rw [checkMetric_of_deviates (deviates_probe _)]
    unfold Track.violated
    dsimp only
    rw [hheld, if_neg Bool.false_ne_true, if_pos (by rw [hcount]; decide)]
  have hcontinued : ∀ calls history, Run observe (Steady python u metric) (call :: past) calls history →
      Run observe (Sound python u metric) (call :: past) calls history := by
    intro calls history hrun
    have hlonger := hsound _ _ (.cons (steady_probe hstart hle) (if_pos hearlier) hrun)
    cases hlonger with
    | cons _ hstep h =>
      rw [observe, if_pos hearlier, Option.some_inj] at hstep
      rw [hstep]
      exact h
  have hlater : start ≤ call.now := hle.trans (track.le_due now)
  refine fun c hc => (deviates_of_sound hcontinued ?_ hlater ?_ ?_).1 c (List.mem_cons_of_mem _ hc)
  · rw [hconfirmed, hstart, Option.getD_some]
  · exact List.forall_mem_cons.mpr ⟨le_refl _, hearlier⟩
  · rw [hconfirmed, hcount]
    rfl

/-- The tracked calls deviate wherever all steady continuations are sound. -/
theorem deviates_of_sound_of_few {past : List Call} {start now : Time}
    (hsound : ∀ calls history, Run observe (Steady python u metric) past calls history →
      Run observe (Sound python u metric) past calls history)
    (hstart : (detectorAfter python u past metric).start = some start) (hle : start ≤ now)
    (hnow : ∀ c ∈ past, c.now ≤ now)
    (hfew : (detectorAfter python u past metric).count < requiredConfirmations) :
    ∀ c ∈ past, start ≤ c.now → Deviates python u metric c := by
  obtain hzero | hone : (detectorAfter python u past metric).count = 0 ∨
      (detectorAfter python u past metric).count + 1 = requiredConfirmations := by
    unfold requiredConfirmations at hfew ⊢
    omega
  · exact deviates_of_sound_of_zero hsound hstart hle hnow hzero
  · exact (deviates_of_sound hsound hstart hle hnow hone).1

/-- **Only steady calls are safe**: after steady calls, a call is steady just if all steady runs from
there on are sound. -/
theorem steady_iff {calls past : List Call} {call : Call}
    (hrun : Run observe (Steady python u metric) [] calls past) (hnow : ∀ c ∈ past, c.now ≤ call.now) :
    Steady python u metric past call ↔
      ∀ later history, Run observe (Steady python u metric) (call :: past) later history →
        Run observe (Sound python u metric) (call :: past) later history := by
  have htracked : Tracked python u metric past (detectorAfter python u past metric) :=
    hrun.invariant (I := fun past => Tracked python u metric past (detectorAfter python u past metric))
      (fun past call past' => Tracked.observe) (.clear [])
  refine ⟨fun hsteady later history => (htracked.step hsteady hnow).sound, fun hsound => ?_⟩
  have hnow' : ∀ c ∈ call :: past, c.now ≤ call.now := List.forall_mem_cons.mpr ⟨le_refl _, hnow⟩
  have hafter : detectorAfter python u (call :: past) metric =
      (checkMetric python u call metric (detectorAfter python u past metric)).1 := rfl
  refine ⟨fun hunchecked => ?_, fun hdeviates hcount => ?_, fun hdeviates hnone c hc => ?_⟩
  · -- an unchecked call within a deviation, which goes on
    by_contra hne
    obtain ⟨start, hstart⟩ := Option.ne_none_iff_exists'.mp hne
    obtain ⟨c, hc, hle⟩ := htracked.begun start hstart
    have hsame : detectorAfter python u (call :: past) metric = detectorAfter python u past metric := by
      rw [hafter, checkMetric, hunchecked]
    have hdeviates := deviates_of_sound_of_few hsound (hsame ▸ hstart) (hle.trans (hnow c hc)) hnow'
      (hsame ▸ htracked.few) call List.mem_cons_self (hle.trans (hnow c hc))
    obtain ⟨_, _, _, hreading, -⟩ := deviates_iff.mp hdeviates
    rw [hunchecked] at hreading
    cases hreading
  · -- a call that is held back after a confirmation
    by_contra hshort
    obtain ⟨start, hstart⟩ : ∃ start, (detectorAfter python u past metric).start = some start :=
      Option.ne_none_iff_exists'.mp fun hnone => hcount (htracked.idle hnone)
    obtain ⟨c, hc, hle⟩ := htracked.begun start hstart
    have hheld : (detectorAfter python u past metric).heldBack (call.requiredDuration u metric) call.now =
        true := by
      rw [Track.heldBack, decide_eq_true (not_le.mp hshort), Bool.true_or]
    have hkept : detectorAfter python u (call :: past) metric =
        { detectorAfter python u past metric with start := some start } := by
      rw [hafter, checkMetric_of_deviates hdeviates, Track.violated]
      simp only [hheld, if_true, hstart, Option.getD_some]
    have hfew := htracked.few
    have hlast : (detectorAfter python u (call :: past) metric).count + 1 = requiredConfirmations := by
      rw [hkept]
      unfold requiredConfirmations at hfew ⊢
      dsimp only
      omega
    obtain ⟨-, c', earlier, hsplit, -, hfree⟩ :=
      deviates_of_sound hsound (by rw [hkept]) (hle.trans (hnow c hc)) hnow' hlast
    obtain ⟨rfl, rfl⟩ := List.cons.inj hsplit
    rw [hheld] at hfree
    cases hfree
  · -- a deviation that begins at the time of an earlier call
    by_contra hlate
    have hstart : (detectorAfter python u (call :: past) metric).start = some call.now := by
      rw [hafter, checkMetric_of_deviates hdeviates, Track.violated_start, hnone, Option.getD_none]
    have hfew : (detectorAfter python u (call :: past) metric).count < requiredConfirmations := by
      rw [hafter, checkMetric_of_deviates hdeviates]
      exact Track.violated_few htracked.few _ _
    have hall := deviates_of_sound_of_few hsound hstart (le_refl _) hnow' hfew
    cases past with
    | nil => cases hc
    | cons newest earlier =>
      have hnewest : call.now ≤ newest.now :=
        (not_lt.mp hlate).trans (newest_of_run hrun newest earlier rfl c hc)
      have hdeviates' := hall newest (List.mem_cons_of_mem _ List.mem_cons_self) hnewest
      change (checkMetric python u newest metric _).1.start = none at hnone
      rw [checkMetric_of_deviates hdeviates', Track.violated_start] at hnone
      cases hnone

end DBClaw.Alerts.Baselines
