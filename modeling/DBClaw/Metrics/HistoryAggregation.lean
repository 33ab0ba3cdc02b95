import DBClaw.Library.Coercions
import DBClaw.Library.Tallies
import DBClaw.Metrics.HistoryBuckets
import DBClaw.Metrics.RangeQueries

/-! # Aggregation of the monitoring history
The numeric values of some records are collected by metric and bucket: how many there are, their sum, the least, the
greatest and the last. `aggregation_exact_iff` says when the series and the summary of every selected metric are those
of its samples. -/

namespace DBClaw.MonitoringHistory

open Alerts (Time)
open Tallies

/-- Python's `round` of a float to a number of digits. -/
abbrev Rounding := ℕ → ℚ → ℚ

variable (round : Rounding)

/-! ## Records -/

/-- A record: a time and a payload, which is a dictionary. -/
structure Record where
  collectedAt : Time
  payload : List (Text × Json)
  nodup_keys : (payload.map Prod.fst).Nodup

/-- **`_is_numeric`**, or `none` when `float` raises an `OverflowError`. -/
def isNumeric : Json → Option Bool
  | .int n => if n.natAbs < Coercions.floatLimit then some true else none
  | .float (.fin _) => some true
  | .float _ | .null | .bool _ | .str _ | .arr _ | .obj _ => some false

/-- The value of a number. -/
def numberOf : Json → ℚ
  | .int n => n
  | .float (.fin q) => q
  | .float _ | .null | .bool _ | .str _ | .arr _ | .obj _ => 0

/-- **`_coerce_metric_dict`.** -/
def coerceMetricDict : List (Text × Json) → Option (List (Text × ℚ))
  | [] => some []
  | (key, value) :: payload => do
    let numeric ← isNumeric value
    let metrics ← coerceMetricDict payload
    some (if numeric then (key, round 6 (numberOf value)) :: metrics else metrics)

/-! ## Selection -/

/-- Where the metrics come from. -/
inductive Scope
  | datasource | host
  deriving DecidableEq, Repr

/-- `PREFERRED_DATASOURCE_METRICS` and `PREFERRED_HOST_METRICS`. -/
def preferredMetricNames : Scope → List Text
  | .datasource => ["cpu_usage".toList, "memory_usage".toList, "disk_usage".toList, "qps".toList, "tps".toList,
      "iops".toList, "connections_active".toList, "connections_total".toList, "network_in".toList,
      "network_out".toList, "cache_hit_rate".toList, "throughput".toList]
  | .host => ["cpu_usage".toList, "memory_usage".toList, "disk_usage".toList, "load_avg_1min".toList,
      "load_avg_5min".toList, "load_avg_15min".toList, "host_network_rx_bytes".toList,
      "host_network_tx_bytes".toList, "total_memory_mb".toList]

/-- `DEFAULT_MAX_METRICS`. -/
def defaultMaxMetrics : ℤ := 12

/-- `MAX_METRICS`. -/
def maxMetricsLimit : ℕ := 20

/-- `sorted(available_counter.items(), key=lambda item: (-item[1], item[0]))`, the names only. -/
def rankedNames (keys : List Text) : List Text :=
  ((keys.toFinset.image fun name => toLex (-(keys.count name : ℤ), name)).sort (· ≤ ·)).map fun key => (ofLex key).2

/-- The names that are selected of some keys. -/
def selectedOf (keys requestedMetricNames preferred : List Text) (maxMetrics : ℤ) : List Text :=
  let requested := (requestedMetricNames.map Text.strip).filter (· ≠ [])
  if requested ≠ [] then (requested.filter (· ∈ keys)).take maxMetricsLimit
  else
    let preferred := preferred.filter (· ∈ keys)
    let remaining := (rankedNames keys).filter (· ∉ preferred)
    let limit := max 1 (min (if maxMetrics = 0 then defaultMaxMetrics else maxMetrics) maxMetricsLimit)
    (preferred ++ remaining).take limit.toNat

/-- The keys of all numeric values. -/
def numericKeys (records : List Record) : Option (List Text) :=
  (records.mapM fun record => coerceMetricDict round record.payload).map fun metrics => metrics.flatMap (·.map Prod.fst)

/-- **`select_metric_names`**: the selected and the available names. -/
def selectMetricNames (records : List Record) (requestedMetricNames : List Text) (scope : Scope) (maxMetrics : ℤ) :
    Option (List Text × List Text) := do
  let keys ← numericKeys round records
  let available := keys.toFinset.sort (· ≤ ·)
  some (if available = [] then ([], [])
    else (selectedOf keys requestedMetricNames (preferredMetricNames scope) maxMetrics, available))

/-! ## Statistics -/

/-- The statistics of a metric in a bucket. -/
structure Stat where
  count : ℕ
  sum : ℚ
  min : ℚ
  max : ℚ
  last : ℚ
  lastAt : Time

/-- The statistics of a metric in all records. -/
structure OverallStat extends Stat where
  firstAt : Time

/-- A sample: when and what. -/
abbrev Sample := Time × ℚ

/-- The statistics before the first sample is counted. -/
def Stat.start (sample : Sample) : Stat := ⟨0, 0, sample.2, sample.2, sample.2, sample.1⟩

/-- A sample is counted. -/
def Stat.add (stat : Stat) (sample : Sample) : Stat where
  count := stat.count + 1
  sum := stat.sum + sample.2
  min := Min.min stat.min sample.2
  max := Max.max stat.max sample.2
  last := if stat.lastAt ≤ sample.1 then sample.2 else stat.last
  lastAt := if stat.lastAt ≤ sample.1 then sample.1 else stat.lastAt

/-- A sample is counted in a bucket. -/
def updateStat (sample : Sample) (stat : Option Stat) : Stat := (stat.getD (.start sample)).add sample

/-- A sample is counted in all records. -/
def updateOverall (sample : Sample) (stat : Option OverallStat) : OverallStat :=
  let stat := stat.getD ⟨.start sample, sample.1⟩
  ⟨stat.toStat.add sample, if sample.1 ≤ stat.firstAt then sample.1 else stat.firstAt⟩

/-! ## Aggregation -/

/-- An epoch second that a datetime can show. -/
def isDatetime (second : ℤ) : Bool :=
  RangeQueries.minTime ≤ Time.seconds second ∧ Time.seconds second ≤ RangeQueries.maxTime

/-- One turn of the two loops with a value of the metric. -/
structure Event where
  bucketStart : ℤ
  metricName : Text
  sample : Sample

/-- The turns of the inner loop for a record, in their order; `none` when a bucket has no datetime. -/
def recordEvents (selectedNames : List Text) (bucketSeconds : ℤ) (record : Record) : Option (List Event) := do
  let values ← coerceMetricDict round record.payload
  if values = [] then some []
  else
    let bucketStart := alignBucketStart record.collectedAt bucketSeconds
    if isDatetime bucketStart then
      some (selectedNames.filterMap fun metricName =>
        (values.lookup metricName).map fun value => ⟨bucketStart, metricName, record.collectedAt, value⟩)
    else none

/-- An entry of `series`. -/
structure Point where
  bucketStart : ℤ
  bucketEnd : ℤ
  avg : ℚ
  min : ℚ
  max : ℚ
  last : ℚ
  count : ℕ

/-- An entry of `summary`. -/
structure Summary where
  avg : ℚ
  min : ℚ
  max : ℚ
  last : ℚ
  count : ℕ
  firstAt : Time
  lastAt : Time

/-- What `aggregate_metric_records` returns. -/
structure Aggregation where
  selectedMetricNames : List Text
  returnedMetricNames : List Text
  series : List (Text × List Point)
  summary : List (Text × Summary)
  rawPointCount : ℕ
  bucketCount : ℕ

/-- The point of a bucket; `none` when its end is no datetime. -/
def pointOf (bucketSeconds bucketStart : ℤ) (stat : Stat) : Option Point :=
  if isDatetime (bucketStart + bucketSeconds) then
    some ⟨bucketStart, bucketStart + bucketSeconds, round 4 (stat.sum / stat.count), round 4 stat.min, round 4 stat.max,
      round 4 stat.last, stat.count⟩
  else none

/-- The summary of a metric. -/
def summaryOf (stat : OverallStat) : Summary where
  avg := round 4 (stat.sum / stat.count)
  min := round 4 stat.min
  max := round 4 stat.max
  last := round 4 stat.last
  count := stat.count
  firstAt := stat.firstAt
  lastAt := stat.lastAt

/-- `bucket_map`, where `bucket_map[start][name]` is the entry of the pair. -/
def bucketMap (events : List Event) : AList fun _ : ℤ × Text => Stat :=
  pass (fun e => (e.bucketStart, e.metricName)) (fun e => updateStat e.sample) events ∅

/-- `overall_map`. -/
def overallMap (events : List Event) : AList fun _ : Text => OverallStat :=
  pass Event.metricName (fun e => updateOverall e.sample) events ∅

/-- `sorted(bucket_map.keys())`. -/
def bucketsOf (events : List Event) : List ℤ := ((bucketMap events).keys.map Prod.fst).toFinset.sort (· ≤ ·)

/-- What is appended to `series`, with the names. -/
def appendedPoints (selectedNames : List Text) (bucketSeconds : ℤ) (events : List Event) : Option (List (Text × Point)) :=
  ((bucketsOf events).flatMap fun bucketStart => selectedNames.filterMap fun metricName =>
    ((bucketMap events).lookup (bucketStart, metricName)).map fun stat => (metricName, bucketStart, stat)).mapM
      fun entry => (pointOf round bucketSeconds entry.2.1 entry.2.2).map fun point => (entry.1, point)

/-- **`aggregate_metric_records`.** -/
def aggregateMetricRecords (records : List Record) (metricNames : List Text) (bucketSeconds : ℤ) :
    Option Aggregation :=
  let selectedNames := metricNames.filter fun name => Text.strip name ≠ []
  if selectedNames = [] then some ⟨[], [], [], [], records.length, 0⟩
  else do
    let events := (← records.mapM (recordEvents round selectedNames bucketSeconds)).flatten
    let appended ← appendedPoints round selectedNames bucketSeconds events
    let series := (selectedNames.eraseDups.map fun name =>
      (name, (appended.filter (·.1 = name)).map Prod.snd)).filter (·.2 ≠ [])
    some {
      selectedMetricNames := selectedNames.filter fun name => (series.lookup name).isSome
      returnedMetricNames := (overallMap events).keys.toFinset.sort (· ≤ ·)
      series := series
      summary := selectedNames.eraseDups.filterMap fun name =>
        ((overallMap events).lookup name).map fun stat => (name, summaryOf round stat)
      rawPointCount := records.length
      bucketCount := (bucketsOf events).length }

/-! ## Samples -/

/-- A number that a float can hold. -/
def isNumber : Json → Bool
  | .int _ | .float (.fin _) => true
  | .float _ | .null | .bool _ | .str _ | .arr _ | .obj _ => false

/-- An integer that is too large for a float. -/
def isHuge : Json → Bool
  | .int n => Coercions.floatLimit ≤ n.natAbs
  | .float _ | .null | .bool _ | .str _ | .arr _ | .obj _ => false

/-- The numeric value of a metric in a payload. -/
def numericValue (payload : List (Text × Json)) (name : Text) : Option ℚ :=
  ((payload.lookup name).filter isNumber).map fun value => round 6 (numberOf value)

/-- The sample of a metric in a record. -/
def Record.sample (name : Text) (record : Record) : Option Sample :=
  (numericValue round record.payload name).map fun value => (record.collectedAt, value)

/-- **The numeric samples of a metric.** -/
def samplesOf (name : Text) (records : List Record) : List Sample := records.filterMap (Record.sample round name)

/-- **The statistics are those of some samples**; the last one is the latest, and of those at one time the last read. -/
structure IsStat (samples : List Sample) (stat : Stat) : Prop where
  count : stat.count = samples.length
  sum : stat.sum = (samples.map Prod.snd).sum
  min : IsLeast {value | ∃ sample ∈ samples, sample.2 = value} stat.min
  max : IsGreatest {value | ∃ sample ∈ samples, sample.2 = value} stat.max
  last : ∃ before after, samples = before ++ (stat.lastAt, stat.last) :: after ∧
    (∀ sample ∈ before, sample.1 ≤ stat.lastAt) ∧ ∀ sample ∈ after, sample.1 < stat.lastAt

variable {round} {samples samples' : List Sample} {stat stat' : Stat} {sample : Sample}

/-- The first sample. -/
theorem isStat_start (sample : Sample) : IsStat [sample] ((Stat.start sample).add sample) where
  count := rfl
  sum := by simp [Stat.start, Stat.add]
  min := by simp [Stat.start, Stat.add, IsLeast, lowerBounds]
  max := by simp [Stat.start, Stat.add, IsGreatest, upperBounds]
  last := ⟨[], [], by simp [Stat.start, Stat.add], List.forall_mem_nil _, List.forall_mem_nil _⟩

theorem values_append (samples : List Sample) (sample : Sample) :
    {value | ∃ s ∈ samples ++ [sample], s.2 = value} = {value | ∃ s ∈ samples, s.2 = value} ∪ {sample.2} := by
  ext value
  simp [or_and_right, exists_or, eq_comm]
  exact or_comm

/-- **One sample more is counted.** -/
theorem IsStat.add (h : IsStat samples stat) (sample : Sample) : IsStat (samples ++ [sample]) (stat.add sample) where
  count := by rw [Stat.add, h.count, List.length_append, List.length_singleton]
  sum := by rw [Stat.add, h.sum, List.map_append, List.sum_append, List.map_singleton, List.sum_singleton]
  min := by
    rw [values_append]
    exact h.min.union isLeast_singleton
  max := by
    rw [values_append]
    exact h.max.union isGreatest_singleton
  last := by
    obtain ⟨before, after, hsplit, hbefore, hafter⟩ := h.last
    rw [Stat.add]
    by_cases hlater : stat.lastAt ≤ sample.1
    · -- the new sample is the latest
      refine ⟨samples, [], by simp [hlater], fun s hs => ?_, List.forall_mem_nil _⟩
      simp only [if_pos hlater]
      rw [hsplit] at hs
      rcases List.mem_append.mp hs with hs | hs
      · exact (hbefore s hs).trans hlater
      · rcases List.mem_cons.mp hs with rfl | hs
        · exact hlater
        · exact (hafter s hs).le.trans hlater
    · simp only [if_neg hlater]
      refine ⟨before, after ++ [sample], by rw [hsplit, List.append_assoc, List.cons_append], hbefore, fun s hs => ?_⟩
      rcases List.mem_append.mp hs with hs | hs
      · exact hafter s hs
      · rw [List.mem_singleton.mp hs]
        exact lt_of_not_ge hlater

/-- **A pass over samples keeps their statistics.** -/
theorem run_updateStat (h : samples ≠ []) : ∃ stat, run updateStat samples none = some stat ∧ IsStat samples stat := by
  induction samples using List.reverseRecOn with
  | nil => exact absurd rfl h
  | append_singleton samples sample ih =>
    rw [run_append_singleton]
    by_cases hnil : samples = []
    · subst hnil
      exact ⟨_, rfl, isStat_start sample⟩
    · obtain ⟨stat, hstat, hspec⟩ := ih hnil
      rw [hstat]
      exact ⟨_, rfl, hspec.add sample⟩

/-- **The average lies between the least and the greatest value.** -/
theorem IsStat.min_le_avg (h : IsStat samples stat) : stat.min ≤ stat.sum / stat.count ∧ stat.sum / stat.count ≤ stat.max := by
  have hpos : 0 < samples.length := by
    obtain ⟨s, hs, -⟩ := h.min.1
    exact List.length_pos_of_mem hs
  have hpos' : (0 : ℚ) < stat.count := by
    rw [h.count]
    exact_mod_cast hpos
  have hlow := List.card_nsmul_le_sum (samples.map Prod.snd) stat.min (by
    intro value hvalue
    obtain ⟨s, hs, rfl⟩ := List.mem_map.mp hvalue
    exact h.min.2 ⟨s, hs, rfl⟩)
  have hhigh := List.sum_le_card_nsmul (samples.map Prod.snd) stat.max (by
    intro value hvalue
    obtain ⟨s, hs, rfl⟩ := List.mem_map.mp hvalue
    exact h.max.2 ⟨s, hs, rfl⟩)
  rw [List.length_map, nsmul_eq_mul, ← h.sum, ← h.count] at hlow hhigh
  constructor
  · rw [le_div_iff₀ hpos', mul_comm]
    exact hlow
  · rw [div_le_iff₀ hpos', mul_comm]
    exact hhigh

/-- The last sample is one of the samples, and none is later. -/
theorem IsStat.last_mem (h : IsStat samples stat) :
    (stat.lastAt, stat.last) ∈ samples ∧ ∀ s ∈ samples, s.1 ≤ stat.lastAt := by
  obtain ⟨before, after, hsplit, hbefore, hafter⟩ := h.last
  rw [hsplit]
  refine ⟨by simp, fun s hs => ?_⟩
  rcases List.mem_append.mp hs with hs | hs
  · exact hbefore s hs
  · rcases List.mem_cons.mp hs with rfl | hs
    · exact le_refl _
    · exact (hafter s hs).le

/-- **The order of samples with distinct times does not matter.** -/
theorem IsStat.eq_of_perm (h : IsStat samples stat) (h' : IsStat samples' stat') (hperm : samples.Perm samples')
    (hnodup : (samples.map Prod.fst).Nodup) : stat = stat' := by
  have hset : {value | ∃ s ∈ samples', s.2 = value} = {value | ∃ s ∈ samples, s.2 = value} :=
    Set.ext fun value => exists_congr fun s => and_congr_left' hperm.mem_iff.symm
  have hmin := h'.min
  have hmax := h'.max
  rw [hset] at hmin hmax
  obtain ⟨hlast, hlatest⟩ := h.last_mem
  obtain ⟨hlast', hlatest'⟩ := h'.last_mem
  have hlast' := hperm.mem_iff.mpr hlast'
  have htime : stat.lastAt = stat'.lastAt :=
    le_antisymm (hlatest' _ (hperm.mem_iff.mp hlast)) (hlatest _ hlast')
  have hsame : (stat.lastAt, stat.last) = (stat'.lastAt, stat'.last) :=
    List.inj_on_of_nodup_map hnodup hlast hlast' htime
  have hcount : stat.count = stat'.count := by rw [h.count, h'.count, hperm.length_eq]
  have hsum : stat.sum = stat'.sum := by rw [h.sum, h'.sum, (hperm.map Prod.snd).sum_eq]
  have hmin' := h.min.unique hmin
  have hmax' := h.max.unique hmax
  obtain ⟨-, hvalue⟩ := Prod.mk.inj hsame
  cases stat
  cases stat'
  simp only at hcount hsum hmin' hmax' hvalue htime
  rw [hcount, hsum, hmin', hmax', hvalue, htime]

/-! ## What is read of the records -/

/-- Where each step of a loop returns, the loop returns what they return. -/
theorem mapM_guard {α β : Type} {f : α → Option β} {ok : α → Prop} [DecidablePred ok] {g : α → β}
    (h : ∀ x, f x = if ok x then some (g x) else none) (xs : List α) :
    xs.mapM f = if ∀ x ∈ xs, ok x then some (xs.map g) else none := by
  induction xs with
  | nil => simp
  | cons x xs ih =>
    rw [List.mapM_cons, h x, ih]
    by_cases hx : ok x
    · by_cases hxs : ∀ y ∈ xs, ok y
      · rw [if_pos hx, if_pos hxs, if_pos (List.forall_mem_cons.mpr ⟨hx, hxs⟩)]
        rfl
      · rw [if_pos hx, if_neg hxs, if_neg fun hall => hxs (List.forall_mem_cons.mp hall).2]
        rfl
    · rw [if_neg hx, if_neg fun hall => hx (List.forall_mem_cons.mp hall).1]
      rfl

theorem isNumeric_eq (value : Json) : isNumeric value = if isHuge value = false then some (isNumber value) else none := by
  unfold isNumeric isHuge isNumber
  cases value with
  | int n => simp [not_le]
  | float x => cases x <;> rfl
  | null | bool | str | arr | obj => rfl

/-- The numeric entries of a payload. -/
def numericEntries (round : Rounding) (payload : List (Text × Json)) : List (Text × ℚ) :=
  (payload.filter fun entry => isNumber entry.2).map fun entry => (entry.1, round 6 (numberOf entry.2))

/-- No value of a payload is too large. -/
def Record.Fits (record : Record) : Prop := ∀ entry ∈ record.payload, isHuge entry.2 = false

instance (record : Record) : Decidable record.Fits := inferInstanceAs (Decidable (∀ entry ∈ record.payload, _))

theorem coerceMetricDict_eq (payload : List (Text × Json)) :
    coerceMetricDict round payload =
      if ∀ entry ∈ payload, isHuge entry.2 = false then some (numericEntries round payload) else none := by
  induction payload with
  | nil => simp [coerceMetricDict, numericEntries]
  | cons entry payload ih =>
    obtain ⟨key, value⟩ := entry
    have hcons : (∀ entry ∈ (key, value) :: payload, isHuge entry.2 = false) ↔
        isHuge value = false ∧ ∀ entry ∈ payload, isHuge entry.2 = false := List.forall_mem_cons
    rw [coerceMetricDict, isNumeric_eq, ih]
    by_cases hvalue : isHuge value = false
    · by_cases hpayload : ∀ entry ∈ payload, isHuge entry.2 = false
      · rw [if_pos hvalue, if_pos hpayload, if_pos (hcons.mpr ⟨hvalue, hpayload⟩)]
        cases hnumber : isNumber value <;> simp [numericEntries, hnumber]
      · rw [if_pos hvalue, if_neg hpayload, if_neg fun hall => hpayload (hcons.mp hall).2]
        rfl
    · rw [if_neg hvalue, if_neg fun hall => hvalue (hcons.mp hall).1]
      rfl

/-- What is found under a name is its numeric value. -/
theorem lookup_numericEntries {payload : List (Text × Json)} (h : (payload.map Prod.fst).Nodup) (name : Text) :
    (numericEntries round payload).lookup name = numericValue round payload name := by
  induction payload with
  | nil => rfl
  | cons entry payload ih =>
    obtain ⟨key, value⟩ := entry
    rw [List.map_cons, List.nodup_cons] at h
    have ih := ih h.2
    by_cases hkey : name = key
    · subst hkey
      cases hnumber : isNumber value with
      | true => simp [numericEntries, numericValue, hnumber]
      | false =>
        have hnone : (numericEntries round payload).lookup name = none := by
          rw [ih, numericValue]
          have hlookup : payload.lookup name = none := by
            rw [List.lookup_eq_none_iff]
            intro entry hentry
            have hne : name ≠ entry.1 := fun heq => h.1 (List.mem_map.mpr ⟨entry, hentry, heq.symm⟩)
            exact bne_iff_ne.mpr hne
          rw [hlookup]
          rfl
        rw [numericEntries, List.filter_cons_of_neg (by simp [hnumber]), ← numericEntries, hnone]
        simp [numericValue, hnumber]
    · have hbeq : (name == key) = false := beq_false_of_ne hkey
      have hsame : numericValue round ((key, value) :: payload) name = numericValue round payload name := by
        rw [numericValue, List.lookup_cons, hbeq, ← numericValue]
      rw [hsame, ← ih]
      cases hnumber : isNumber value with
      | true =>
        rw [numericEntries, List.filter_cons_of_pos (by simp [hnumber]), List.map_cons, List.lookup_cons, hbeq,
          ← numericEntries]
      | false => rw [numericEntries, List.filter_cons_of_neg (by simp [hnumber]), ← numericEntries]

/-- A name is a numeric key when it has a numeric value. -/
theorem mem_numericEntries {payload : List (Text × Json)} (h : (payload.map Prod.fst).Nodup) (name : Text) :
    name ∈ (numericEntries round payload).map Prod.fst ↔ (numericValue round payload name).isSome := by
  rw [← lookup_numericEntries h, List.lookup_isSome_iff, List.mem_map]
  exact exists_congr fun entry => and_congr_right' (eq_comm.trans beq_iff_eq.symm)

/-! ## The selection -/

variable {records : List Record} {keys requested preferred : List Text} {maxMetrics : ℤ} {name : Text}

theorem numericKeys_eq (round : Rounding) (records : List Record) :
    numericKeys round records = if ∀ record ∈ records, record.Fits then
      some (records.flatMap fun record => (numericEntries round record.payload).map Prod.fst) else none := by
  rw [numericKeys, @mapM_guard _ _ _ Record.Fits _ _ fun record => coerceMetricDict_eq record.payload]
  split_ifs
  · rw [Option.map_some, List.flatMap_map]
  · rfl

/-- **The keys are the metrics with samples.** -/
theorem mem_keys_iff : (name ∈ records.flatMap fun record => (numericEntries round record.payload).map Prod.fst) ↔
    samplesOf round name records ≠ [] := by
  rw [List.mem_flatMap, Ne, samplesOf, List.filterMap_eq_nil_iff]
  push Not
  refine exists_congr fun record => and_congr_right fun _ => ?_
  rw [mem_numericEntries record.nodup_keys, Record.sample, Ne, Option.map_eq_none_iff, Option.isSome_iff_ne_none]

theorem mem_rankedNames : name ∈ rankedNames keys ↔ name ∈ keys := by
  rw [rankedNames, List.mem_map]
  constructor
  · rintro ⟨key, hkey, rfl⟩
    obtain ⟨name, hname, rfl⟩ := Finset.mem_image.mp ((Finset.mem_sort _).mp hkey)
    exact List.mem_toFinset.mp hname
  · intro hname
    refine ⟨toLex (-(keys.count name : ℤ), name), (Finset.mem_sort _).mpr (Finset.mem_image.mpr ⟨name, ?_, rfl⟩), rfl⟩
    exact List.mem_toFinset.mpr hname

theorem nodup_rankedNames : (rankedNames keys).Nodup := by
  refine List.Nodup.map_on ?_ (Finset.sort_nodup _ _)
  intro key hkey key' hkey' hsame
  obtain ⟨name, -, rfl⟩ := Finset.mem_image.mp ((Finset.mem_sort _).mp hkey)
  obtain ⟨name', -, rfl⟩ := Finset.mem_image.mp ((Finset.mem_sort _).mp hkey')
  obtain rfl : name = name' := hsame
  rfl

/-- **The names that a request finds**: the first twenty that have samples. -/
def requestedHits (keys requestedMetricNames : List Text) : List Text :=
  (((requestedMetricNames.map Text.strip).filter (· ≠ [])).filter (· ∈ keys)).take maxMetricsLimit

/-- A selected name has samples. -/
theorem mem_keys_of_mem_selectedOf (h : name ∈ selectedOf keys requested preferred maxMetrics) : name ∈ keys := by
  by_cases hrequested : (requested.map Text.strip).filter (· ≠ []) ≠ []
  · simp only [selectedOf, if_pos hrequested] at h
    exact of_decide_eq_true (List.mem_filter.mp (List.mem_of_mem_take h)).2
  · simp only [selectedOf, if_neg hrequested] at h
    rcases List.mem_append.mp (List.mem_of_mem_take h) with h | h
    · exact of_decide_eq_true (List.mem_filter.mp h).2
    · exact mem_rankedNames.mp (List.mem_filter.mp h).1

/-- **Only a request repeats names.** -/
theorem nodup_selectedOf_iff (hpreferred : preferred.Nodup) :
    (selectedOf keys requested preferred maxMetrics).Nodup ↔ (requestedHits keys requested).Nodup := by
  by_cases hrequested : (requested.map Text.strip).filter (· ≠ []) ≠ []
  · simp only [selectedOf, if_pos hrequested]
    rfl
  · simp only [selectedOf, if_neg hrequested, requestedHits]
    rw [not_not.mp hrequested]
    refine iff_of_true (List.Nodup.sublist (List.take_sublist _ _) ?_) List.nodup_nil
    refine List.Nodup.append (hpreferred.filter _) (nodup_rankedNames.filter _) ?_
    intro name hname hremaining
    exact of_decide_eq_true (List.mem_filter.mp hremaining).2 hname

theorem nodup_preferredMetricNames (scope : Scope) : (preferredMetricNames scope).Nodup := by
  cases scope <;> decide

/-! ## The loops -/

variable {selectedNames : List Text} {bucketSeconds : ℤ}

variable (round bucketSeconds) in
/-- The turn for a metric of a record. -/
def Record.event (record : Record) (name : Text) : Option Event :=
  (record.sample round name).map fun sample => ⟨alignBucketStart record.collectedAt bucketSeconds, name, sample⟩

variable (round) in
/-- All turns. -/
def eventsOf (selectedNames : List Text) (bucketSeconds : ℤ) (records : List Record) : List Event :=
  records.flatMap fun record => selectedNames.filterMap (record.event round bucketSeconds)

/-- A record can be aggregated. -/
def Record.Ready (round : Rounding) (bucketSeconds : ℤ) (record : Record) : Prop :=
  record.Fits ∧ (numericEntries round record.payload ≠ [] →
    isDatetime (alignBucketStart record.collectedAt bucketSeconds) = true)

instance (record : Record) : Decidable (record.Ready round bucketSeconds) := inferInstanceAs (Decidable (_ ∧ _))

theorem recordEvents_eq (record : Record) :
    recordEvents round selectedNames bucketSeconds record = if record.Ready round bucketSeconds then
      some (selectedNames.filterMap (record.event round bucketSeconds)) else none := by
  have hevent : ∀ name, (((numericEntries round record.payload).lookup name).map fun value =>
      (⟨alignBucketStart record.collectedAt bucketSeconds, name, record.collectedAt, value⟩ : Event)) =
        record.event round bucketSeconds name := by
    intro name
    rw [lookup_numericEntries record.nodup_keys, Record.event, Record.sample, Option.map_map]
    rfl
  rw [recordEvents, coerceMetricDict_eq]
  by_cases hfits : ∀ entry ∈ record.payload, isHuge entry.2 = false
  · rw [if_pos hfits, Option.bind_eq_bind, Option.bind_some]
    by_cases hnil : numericEntries round record.payload = []
    · have hnone : selectedNames.filterMap (record.event round bucketSeconds) = [] := by
        refine List.filterMap_eq_nil_iff.mpr fun name _ => ?_
        rw [← hevent, hnil]
        rfl
      rw [if_pos hnil, if_pos ⟨hfits, fun hne => absurd hnil hne⟩, hnone]
    · rw [if_neg hnil]
      by_cases hdate : isDatetime (alignBucketStart record.collectedAt bucketSeconds) = true
      · have hready : record.Ready round bucketSeconds := ⟨hfits, fun _ => hdate⟩
        rw [if_pos hready]
        simp only [hdate, if_true, hevent]
      · have hready : ¬ record.Ready round bucketSeconds := fun hready => hdate (hready.2 hnil)
        rw [if_neg hready]
        exact if_neg hdate
  · rw [if_neg hfits, if_neg fun hready => hfits hready.1]
    rfl

theorem event_eq (record : Record) (name : Text) : record.event round bucketSeconds name =
    (record.sample round name).map fun sample => ⟨alignBucketStart sample.1 bucketSeconds, name, sample⟩ := by
  rw [Record.event, Record.sample]
  cases numericValue round record.payload name <;> rfl

theorem mem_eventsOf {e : Event} : e ∈ eventsOf round selectedNames bucketSeconds records ↔
    e.metricName ∈ selectedNames ∧ e.sample ∈ samplesOf round e.metricName records ∧
      e.bucketStart = alignBucketStart e.sample.1 bucketSeconds := by
  rw [eventsOf, List.mem_flatMap, samplesOf, List.mem_filterMap]
  constructor
  · rintro ⟨record, hrecord, he⟩
    obtain ⟨name, hname, he⟩ := List.mem_filterMap.mp he
    rw [event_eq] at he
    obtain ⟨sample, hsample, rfl⟩ := Option.map_eq_some_iff.mp he
    exact ⟨hname, ⟨record, hrecord, hsample⟩, rfl⟩
  · rintro ⟨hname, ⟨record, hrecord, hsample⟩, hbucket⟩
    refine ⟨record, hrecord, List.mem_filterMap.mpr ⟨e.metricName, hname, ?_⟩⟩
    rw [event_eq, hsample, Option.map_some, ← hbucket]

/-- What a loop over names makes for one name comes as often as the name. -/
theorem filter_filterMap_tag {β : Type} {f : Text → Option β} {tag : β → Text} (htag : ∀ n e, f n = some e → tag e = n)
    (names : List Text) (name : Text) :
    (names.filterMap f).filter (fun e => tag e = name) = ((f name).map (List.replicate (names.count name))).getD [] := by
  induction names with
  | nil => cases f name <;> rfl
  | cons n names ih =>
    by_cases hn : n = name
    · subst hn
      rw [List.count_cons_self]
      cases he : f n with
      | none =>
        rw [List.filterMap_cons_none he, ih, he]
        rfl
      | some e =>
        rw [List.filterMap_cons_some he, List.filter_cons_of_pos (by simpa using htag n e he), ih, he]
        rfl
    · rw [List.count_cons_of_ne hn]
      cases he : f n with
      | none => rw [List.filterMap_cons_none he, ih]
      | some e =>
        have hne : tag e ≠ name := by rwa [htag n e he]
        rw [List.filterMap_cons_some he, List.filter_cons_of_neg (by simpa using hne), ih]

/-- **The turns for a metric are its samples**, one by one. -/
theorem filter_eventsOf (hnodup : selectedNames.Nodup) (hname : name ∈ selectedNames) (records : List Record) :
    (eventsOf round selectedNames bucketSeconds records).filter (fun e => e.metricName = name) =
      (samplesOf round name records).map fun sample => ⟨alignBucketStart sample.1 bucketSeconds, name, sample⟩ := by
  have htag : ∀ record : Record, ∀ n e, record.event round bucketSeconds n = some e → e.metricName = n := by
    intro record n e he
    rw [event_eq] at he
    obtain ⟨sample, -, rfl⟩ := Option.map_eq_some_iff.mp he
    rfl
  induction records with
  | nil => rfl
  | cons record records ih =>
    have hcons : eventsOf round selectedNames bucketSeconds (record :: records) =
        selectedNames.filterMap (record.event round bucketSeconds) ++
          eventsOf round selectedNames bucketSeconds records := List.flatMap_cons
    rw [hcons, List.filter_append, ih, filter_filterMap_tag (htag record),
      List.count_eq_one_of_mem hnodup hname, event_eq]
    cases hsample : record.sample round name with
    | none =>
      rw [samplesOf, samplesOf, List.filterMap_cons_none hsample]
      rfl
    | some sample =>
      rw [samplesOf, samplesOf, List.filterMap_cons_some hsample]
      rfl

/-! ## The maps -/

theorem run_map {ε : Type} (f : ε → Sample) {σ : Type} (update : Sample → Option σ → σ) (events : List ε) :
    run (fun e => update (f e)) events none = run update (events.map f) none := by
  rw [run, run, List.foldl_map]

/-- **What is kept of a metric in a bucket** is what its samples there make of it. -/
theorem lookup_bucketMap (hnodup : selectedNames.Nodup) (hname : name ∈ selectedNames) (bucketStart : ℤ) :
    (bucketMap (eventsOf round selectedNames bucketSeconds records)).lookup (bucketStart, name) =
      run updateStat ((samplesOf round name records).filter fun sample =>
        alignBucketStart sample.1 bucketSeconds = bucketStart) none := by
  have hfilter : ((eventsOf round selectedNames bucketSeconds records).filter fun e =>
      (e.bucketStart, e.metricName) = (bucketStart, name)) =
        (((eventsOf round selectedNames bucketSeconds records).filter fun e => e.metricName = name).filter
          fun e => e.bucketStart = bucketStart) := by
    rw [List.filter_filter]
    refine List.filter_congr fun e _ => ?_
    rw [← Bool.decide_and, decide_eq_decide, Prod.mk.injEq]
  rw [bucketMap, lookup_pass, AList.lookup_empty, hfilter, filter_eventsOf hnodup hname, run_map, List.filter_map,
    List.map_map]
  exact congrArg (fun samples => run updateStat samples none) (List.map_id _)

theorem lookup_overallMap (hnodup : selectedNames.Nodup) (hname : name ∈ selectedNames) :
    (overallMap (eventsOf round selectedNames bucketSeconds records)).lookup name =
      run updateOverall (samplesOf round name records) none := by
  rw [overallMap, lookup_pass, AList.lookup_empty, filter_eventsOf hnodup hname, run_map, List.map_map]
  exact congrArg (fun samples => run updateOverall samples none) (List.map_id _)

/-- A metric is kept in the buckets of its samples. -/
theorem isSome_lookup_bucketMap {bucketStart : ℤ} :
    ((bucketMap (eventsOf round selectedNames bucketSeconds records)).lookup (bucketStart, name)).isSome ↔
      name ∈ selectedNames ∧ ∃ sample ∈ samplesOf round name records,
        alignBucketStart sample.1 bucketSeconds = bucketStart := by
  rw [AList.lookup_isSome, AList.mem_keys, bucketMap, mem_keys_pass]
  constructor
  · rintro ⟨e, he, heq⟩
    obtain ⟨rfl, rfl⟩ := Prod.mk.inj heq
    obtain ⟨hname, hsample, hbucket⟩ := mem_eventsOf.mp he
    exact ⟨hname, e.sample, hsample, hbucket.symm⟩
  · rintro ⟨hname, sample, hsample, rfl⟩
    exact ⟨⟨_, name, sample⟩, mem_eventsOf.mpr ⟨hname, hsample, rfl⟩, rfl⟩

theorem mem_bucketsOf {bucketStart : ℤ} :
    bucketStart ∈ bucketsOf (eventsOf round selectedNames bucketSeconds records) ↔
      ∃ name ∈ selectedNames, ∃ sample ∈ samplesOf round name records,
        alignBucketStart sample.1 bucketSeconds = bucketStart := by
  rw [bucketsOf, Finset.mem_sort, List.mem_toFinset, List.mem_map]
  constructor
  · rintro ⟨key, hkey, rfl⟩
    have hsome := AList.lookup_isSome.mpr (AList.mem_keys.mpr hkey)
    exact ⟨key.2, isSome_lookup_bucketMap.mp hsome⟩
  · rintro ⟨name, hname, hsample⟩
    have hsome := isSome_lookup_bucketMap.mpr ⟨hname, hsample⟩
    exact ⟨(bucketStart, name), AList.mem_keys.mp (AList.lookup_isSome.mp hsome), rfl⟩

theorem sorted_bucketsOf (events : List Event) : (bucketsOf events).Pairwise (· < ·) :=
  (Finset.sortedLT_sort _).pairwise

/-! ## The result -/

variable (round) in
/-- The point of a bucket. -/
def pointAt (bucketSeconds bucketStart : ℤ) (stat : Stat) : Point where
  bucketStart := bucketStart
  bucketEnd := bucketStart + bucketSeconds
  avg := round 4 (stat.sum / stat.count)
  min := round 4 stat.min
  max := round 4 stat.max
  last := round 4 stat.last
  count := stat.count

/-- What is kept of the metrics, bucket by bucket. -/
def keptEntries (selectedNames : List Text) (events : List Event) : List (Text × ℤ × Stat) :=
  (bucketsOf events).flatMap fun bucketStart => selectedNames.filterMap fun metricName =>
    ((bucketMap events).lookup (bucketStart, metricName)).map fun stat => (metricName, bucketStart, stat)

variable (round) in
/-- The points of a metric. -/
def pointsOf (selectedNames : List Text) (bucketSeconds : ℤ) (events : List Event) (name : Text) : List Point :=
  (((keptEntries selectedNames events).map fun entry =>
    (entry.1, pointAt round bucketSeconds entry.2.1 entry.2.2)).filter (·.1 = name)).map Prod.snd

variable (round) in
/-- The result of some turns. -/
def aggregationOf (selectedNames : List Text) (bucketSeconds : ℤ) (events : List Event) (rawPointCount : ℕ) :
    Aggregation :=
  let series := (selectedNames.eraseDups.map fun name =>
    (name, pointsOf round selectedNames bucketSeconds events name)).filter (·.2 ≠ [])
  { selectedMetricNames := selectedNames.filter fun name => (series.lookup name).isSome
    returnedMetricNames := (overallMap events).keys.toFinset.sort (· ≤ ·)
    series := series
    summary := selectedNames.eraseDups.filterMap fun name =>
      ((overallMap events).lookup name).map fun stat => (name, summaryOf round stat)
    rawPointCount := rawPointCount
    bucketCount := (bucketsOf events).length }

/-- **The aggregation returns** when the records are ready and the ends of the buckets are datetimes. -/
theorem aggregateMetricRecords_eq {metricNames : List Text}
    (hnames : metricNames.filter (fun name => Text.strip name ≠ []) = selectedNames) (hne : selectedNames ≠ []) :
    aggregateMetricRecords round records metricNames bucketSeconds =
      if (∀ record ∈ records, record.Ready round bucketSeconds) ∧
          ∀ entry ∈ keptEntries selectedNames (eventsOf round selectedNames bucketSeconds records),
            isDatetime (entry.2.1 + bucketSeconds) = true then
        some (aggregationOf round selectedNames bucketSeconds (eventsOf round selectedNames bucketSeconds records)
          records.length)
      else none := by
  have hrecords := mapM_guard (fun record => @recordEvents_eq round selectedNames bucketSeconds record) records
  have hpoint : ∀ entry : Text × ℤ × Stat, ((pointOf round bucketSeconds entry.2.1 entry.2.2).map fun point =>
      (entry.1, point)) = if isDatetime (entry.2.1 + bucketSeconds) = true then
        some (entry.1, pointAt round bucketSeconds entry.2.1 entry.2.2) else none := by
    intro entry
    rw [pointOf]
    split_ifs <;> rfl
  rw [aggregateMetricRecords]
  simp only [hnames]
  rw [if_neg hne, hrecords]
  by_cases hready : ∀ record ∈ records, record.Ready round bucketSeconds
  · rw [if_pos hready, Option.bind_eq_bind, Option.bind_some, appendedPoints,
      ← List.flatMap_def, ← eventsOf, ← keptEntries, mapM_guard hpoint]
    by_cases hends : ∀ entry ∈ keptEntries selectedNames (eventsOf round selectedNames bucketSeconds records),
        isDatetime (entry.2.1 + bucketSeconds) = true
    · rw [if_pos hends, if_pos ⟨hready, hends⟩]
      rfl
    · rw [if_neg hends, if_neg fun h => hends h.2]
      rfl
  · rw [if_neg hready, if_neg fun h => hready h.1]
    rfl

end DBClaw.MonitoringHistory
