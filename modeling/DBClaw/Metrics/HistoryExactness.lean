import DBClaw.Metrics.HistoryStatistics

/-! # Exactness of the monitoring history
When the selection and the aggregation say of every selected metric what its samples are: no integer is too large for
a float, no name is blank or repeated, and no time before the epoch is rounded into the bucket after it
(`aggregation_exact_iff`). -/

namespace DBClaw.MonitoringHistory

open Alerts (Time)
open Tallies

variable {round : Rounding} {records records' : List Record} {requested : List Text} {scope : Scope} {maxMetrics w : ℤ}
  {selectedNames : List Text} {name : Text}

/-! ## The dictionaries of the result -/

/-- What a dictionary has under a name when each name makes its own entry. -/
theorem lookup_tagged {β : Type} (f : Text → Option β) (names : List Text) (name : Text) :
    (names.filterMap fun n => (f n).map fun value => (n, value)).lookup name =
      if name ∈ names then f name else none := by
  induction names with
  | nil => rfl
  | cons n names ih =>
    by_cases hn : name = n
    · subst hn
      rw [if_pos List.mem_cons_self]
      cases hf : f name with
      | none =>
        rw [List.filterMap_cons_none (by rw [hf]; rfl), ih, hf]
        exact ite_self none
      | some value =>
        rw [List.filterMap_cons_some (by rw [hf]; rfl)]
        exact List.lookup_cons_self
    · have hmem : (name ∈ n :: names) = (name ∈ names) := propext (List.mem_cons.trans (or_iff_right hn))
      simp only [hmem]
      cases hf : f n with
      | none => rw [List.filterMap_cons_none (by rw [hf]; rfl), ih]
      | some value => rw [List.filterMap_cons_some (by rw [hf]; rfl), List.lookup_cons, beq_false_of_ne hn, ih]

/-- Entries without values are dropped. -/
theorem filter_tagged {β : Type} (f : Text → List β) (names : List Text) :
    ((names.map fun n => (n, f n)).filter fun entry => entry.2 ≠ []) =
      names.filterMap fun n => (if f n ≠ [] then some (f n) else none).map fun values => (n, values) := by
  induction names with
  | nil => rfl
  | cons n names ih =>
    rw [List.map_cons]
    by_cases hnil : f n = []
    · rw [List.filter_cons_of_neg (by simpa using hnil), List.filterMap_cons_none (by simp [hnil]), ih]
    · rw [List.filter_cons_of_pos (by simpa using hnil),
        List.filterMap_cons_some (by rw [if_pos hnil, Option.map_some]), ih]

/-- The points of a metric in the series. -/
theorem lookup_series (events : List Event) (rawPointCount : ℕ) (name : Text) :
    (aggregationOf round selectedNames w events rawPointCount).series.lookup name =
      if name ∈ selectedNames ∧ pointsOf round selectedNames w events name ≠ [] then
        some (pointsOf round selectedNames w events name) else none := by
  have hseries : (aggregationOf round selectedNames w events rawPointCount).series =
      selectedNames.eraseDups.filterMap fun n =>
        (if pointsOf round selectedNames w events n ≠ [] then some (pointsOf round selectedNames w events n)
          else none).map fun points => (n, points) := by
    rw [aggregationOf]
    exact filter_tagged _ _
  rw [hseries, lookup_tagged]
  simp only [List.mem_eraseDups]
  by_cases hname : name ∈ selectedNames <;> simp [hname]

/-- The summary of a metric. -/
theorem lookup_summary (events : List Event) (rawPointCount : ℕ) (name : Text) :
    (aggregationOf round selectedNames w events rawPointCount).summary.lookup name =
      if name ∈ selectedNames then ((overallMap events).lookup name).map (summaryOf round) else none := by
  have hsummary : (aggregationOf round selectedNames w events rawPointCount).summary =
      selectedNames.eraseDups.filterMap fun n =>
        (((overallMap events).lookup n).map (summaryOf round)).map fun summary => (n, summary) := by
    rw [aggregationOf]
    refine List.filterMap_congr fun n _ => ?_
    rw [Option.map_map]
    rfl
  rw [hsummary, lookup_tagged]
  simp only [List.mem_eraseDups]

/-! ## What is selected -/

/-- The metrics that have numeric values, once for each record. -/
def keysOf (records : List Record) : List Text :=
  records.flatMap fun record => (record.payload.filter fun entry => isNumber entry.2).map Prod.fst

/-- The names that are selected of some records. -/
def selection (records : List Record) (requestedMetricNames : List Text) (scope : Scope) (maxMetrics : ℤ) : List Text :=
  selectedOf (keysOf records) requestedMetricNames (preferredMetricNames scope) maxMetrics

theorem keysOf_eq (round : Rounding) (records : List Record) :
    (records.flatMap fun record => (numericEntries round record.payload).map Prod.fst) = keysOf records := by
  refine List.flatMap_congr fun record _ => ?_
  rw [numericEntries, List.map_map]
  rfl

/-- Where nothing is available, nothing is selected. -/
theorem selectedOf_nil (requested preferred : List Text) (maxMetrics : ℤ) :
    selectedOf [] requested preferred maxMetrics = [] := by
  refine List.eq_nil_iff_forall_not_mem.mpr fun name hname => ?_
  cases mem_keys_of_mem_selectedOf hname

/-- **The selection returns when every number is a float.** -/
theorem selectMetricNames_eq (round : Rounding) (records : List Record) (requested : List Text) (scope : Scope)
    (maxMetrics : ℤ) :
    selectMetricNames round records requested scope maxMetrics = if ∀ record ∈ records, record.Fits then
      some (selection records requested scope maxMetrics, (keysOf records).toFinset.sort (· ≤ ·)) else none := by
  rw [selectMetricNames, numericKeys_eq, keysOf_eq]
  by_cases hfits : ∀ record ∈ records, record.Fits
  · rw [if_pos hfits, if_pos hfits, Option.bind_eq_bind, Option.bind_some, selection]
    by_cases hnil : (keysOf records).toFinset.sort (· ≤ ·) = []
    · have hkeys : keysOf records = [] := by
        refine List.eq_nil_iff_forall_not_mem.mpr fun name hname => ?_
        have hsorted := (Finset.mem_sort (· ≤ ·)).mpr (List.mem_toFinset.mpr hname)
        rw [hnil] at hsorted
        cases hsorted
      rw [hkeys, selectedOf_nil]
      simp
    · exact congrArg some (if_neg hnil)
  · rw [if_neg hfits, if_neg hfits]
    rfl

/-- A selected metric has samples. -/
theorem samplesOf_ne_nil (hname : name ∈ selection records requested scope maxMetrics) :
    samplesOf round name records ≠ [] := by
  have hkeys := mem_keys_of_mem_selectedOf hname
  rw [← keysOf_eq round] at hkeys
  exact mem_keys_iff.mp hkeys

/-- **The selection is exact** of these records: every number is a float, no selected name is blank or repeated, the
buckets are datetimes, and no sample is rounded into the next bucket. -/
structure Sound (records : List Record) (requestedMetricNames : List Text) (scope : Scope)
    (maxMetrics bucketSeconds : ℤ) : Prop where
  fits : ∀ record ∈ records, record.Fits
  once : (requestedHits (keysOf records) requestedMetricNames).Nodup
  named : ∀ name ∈ selection records requestedMetricNames scope maxMetrics, Text.strip name ≠ []
  starts : selection records requestedMetricNames scope maxMetrics ≠ [] → ∀ record ∈ records,
    (∃ entry ∈ record.payload, isNumber entry.2 = true) →
      isDatetime (alignBucketStart record.collectedAt bucketSeconds) = true
  ends : ∀ name ∈ selection records requestedMetricNames scope maxMetrics, ∀ record ∈ records,
    (∃ entry ∈ record.payload, entry.1 = name ∧ isNumber entry.2 = true) →
      isDatetime (alignBucketStart record.collectedAt bucketSeconds + bucketSeconds) = true
  aligned : ∀ name ∈ selection records requestedMetricNames scope maxMetrics, ∀ record ∈ records,
    (∃ entry ∈ record.payload, entry.1 = name ∧ isNumber entry.2 = true) →
      ¬ Misaligned bucketSeconds record.collectedAt

/-! ## When the aggregation returns -/

theorem numericEntries_ne_nil (round : Rounding) (payload : List (Text × Json)) :
    numericEntries round payload ≠ [] ↔ ∃ entry ∈ payload, isNumber entry.2 = true := by
  rw [numericEntries, Ne, List.map_eq_nil_iff, List.filter_eq_nil_iff]
  push Not
  rfl

/-- What holds of the times of the samples holds of the records with a number under the name. -/
theorem forall_samplesOf (round : Rounding) (P : ℤ → Prop) (name : Text) (records : List Record) :
    (∀ sample ∈ samplesOf round name records, P sample.1) ↔ ∀ record ∈ records,
      (∃ entry ∈ record.payload, entry.1 = name ∧ isNumber entry.2 = true) → P record.collectedAt := by
  have hnumber : ∀ record : Record, (∃ entry ∈ record.payload, entry.1 = name ∧ isNumber entry.2 = true) ↔
      (numericValue round record.payload name).isSome := by
    intro record
    rw [← mem_numericEntries record.nodup_keys, numericEntries, List.map_map, List.mem_map]
    refine exists_congr fun entry => ?_
    rw [List.mem_filter, and_assoc]
    exact and_congr_right' and_comm
  constructor
  · intro h record hrecord hentry
    obtain ⟨value, hvalue⟩ := Option.isSome_iff_exists.mp ((hnumber record).mp hentry)
    refine h (record.collectedAt, value) (List.mem_filterMap.mpr ⟨record, hrecord, ?_⟩)
    rw [Record.sample, hvalue, Option.map_some]
  · intro h sample hsample
    obtain ⟨record, hrecord, hsample⟩ := List.mem_filterMap.mp hsample
    obtain ⟨value, hvalue, rfl⟩ := Option.map_eq_some_iff.mp hsample
    refine h record hrecord ((hnumber record).mpr ?_)
    rw [hvalue, Option.isSome_some]

/-- The buckets that are kept are those of the samples. -/
theorem forall_keptEntries (round : Rounding) (P : ℤ → Prop) (selectedNames : List Text) (w : ℤ) (records : List Record) :
    (∀ entry ∈ keptEntries selectedNames (eventsOf round selectedNames w records), P entry.2.1) ↔
      ∀ name ∈ selectedNames, ∀ sample ∈ samplesOf round name records, P (alignBucketStart sample.1 w) := by
  constructor
  · intro h name hname sample hsample
    obtain ⟨stat, hstat⟩ := Option.isSome_iff_exists.mp
      (isSome_lookup_bucketMap.mpr ⟨hname, sample, hsample, (rfl : _ = alignBucketStart sample.1 w)⟩)
    refine h (name, alignBucketStart sample.1 w, stat) (List.mem_flatMap.mpr
      ⟨_, mem_bucketsOf.mpr ⟨name, hname, sample, hsample, rfl⟩, List.mem_filterMap.mpr ⟨name, hname, ?_⟩⟩)
    rw [hstat, Option.map_some]
  · intro h entry hentry
    obtain ⟨b, -, hentry⟩ := List.mem_flatMap.mp hentry
    obtain ⟨name, hname, hentry⟩ := List.mem_filterMap.mp hentry
    obtain ⟨stat, hstat, rfl⟩ := Option.map_eq_some_iff.mp hentry
    obtain ⟨-, sample, hsample, rfl⟩ := isSome_lookup_bucketMap.mp (Option.isSome_of_eq_some hstat)
    exact h name hname sample hsample

/-- **The aggregation of what is selected returns** when all buckets are datetimes. -/
theorem aggregate_selected_eq (round : Rounding) (w : ℤ) (hfits : ∀ record ∈ records, record.Fits)
    (hnamed : ∀ name ∈ selectedNames, Text.strip name ≠ []) (hne : selectedNames ≠ []) :
    aggregateMetricRecords round records selectedNames w =
      if (∀ record ∈ records, (∃ entry ∈ record.payload, isNumber entry.2 = true) →
          isDatetime (alignBucketStart record.collectedAt w) = true) ∧
        ∀ name ∈ selectedNames, ∀ record ∈ records,
          (∃ entry ∈ record.payload, entry.1 = name ∧ isNumber entry.2 = true) →
            isDatetime (alignBucketStart record.collectedAt w + w) = true then
        some (aggregationOf round selectedNames w (eventsOf round selectedNames w records) records.length)
      else none := by
  have hfilter : selectedNames.filter (fun name => Text.strip name ≠ []) = selectedNames :=
    List.filter_eq_self.mpr fun name hname => decide_eq_true (hnamed name hname)
  rw [aggregateMetricRecords_eq hfilter hne]
  refine if_congr (and_congr (forall₂_congr fun record hrecord => ?_) ?_) rfl rfl
  · rw [Record.Ready, numericEntries_ne_nil]
    exact and_iff_right (hfits record hrecord)
  · rw [forall_keptEntries round fun b => isDatetime (b + w) = true]
    exact forall₂_congr fun name _ =>
      forall_samplesOf round (fun t => isDatetime (alignBucketStart t w + w) = true) name records

/-! ## The order of the records -/

variable {samples samples' : List Sample}

theorem run_updateStat_of_perm (hperm : samples.Perm samples') (htimes : (samples.map Prod.fst).Nodup) :
    run updateStat samples none = run updateStat samples' none := by
  by_cases hnil : samples = []
  · subst hnil
    rw [List.nil_perm.mp hperm]
  · have hnil' : samples' ≠ [] := fun h => hnil (List.perm_nil.mp (h ▸ hperm))
    obtain ⟨stat, hstat, hspec⟩ := run_updateStat hnil
    obtain ⟨stat', hstat', hspec'⟩ := run_updateStat hnil'
    rw [hstat, hstat', hspec.eq_of_perm hspec' hperm htimes]

theorem run_updateOverall_of_perm (hperm : samples.Perm samples') (htimes : (samples.map Prod.fst).Nodup) :
    run updateOverall samples none = run updateOverall samples' none := by
  by_cases hnil : samples = []
  · subst hnil
    rw [List.nil_perm.mp hperm]
  · have hnil' : samples' ≠ [] := fun h => hnil (List.perm_nil.mp (h ▸ hperm))
    obtain ⟨stat, hstat, hspec, hfirst⟩ := overall_spec hnil
    obtain ⟨stat', hstat', hspec', hfirst'⟩ := overall_spec hnil'
    have hset : {t | ∃ s ∈ samples', s.1 = t} = {t | ∃ s ∈ samples, s.1 = t} :=
      Set.ext fun t => exists_congr fun s => and_congr_left' hperm.mem_iff.symm
    rw [hset] at hfirst'
    have hsame := hspec.eq_of_perm hspec' hperm htimes
    have htime := hfirst.unique hfirst'
    rw [hstat, hstat']
    cases stat
    cases stat'
    simp only at hsame htime
    rw [hsame, htime]

/-- The samples of a metric have distinct times when the records have. -/
theorem nodup_times (round : Rounding) (name : Text) (h : (records.map Record.collectedAt).Nodup) :
    ((samplesOf round name records).map Prod.fst).Nodup := by
  rw [List.Nodup, List.pairwise_map, samplesOf, List.pairwise_filterMap]
  refine (List.pairwise_map.mp h).imp fun hne sample hsample sample' hsample' => ?_
  obtain ⟨value, -, rfl⟩ := Option.map_eq_some_iff.mp hsample
  obtain ⟨value', -, rfl⟩ := Option.map_eq_some_iff.mp hsample'
  exact hne

/-- **The order of records with distinct times does not matter** to the result. -/
theorem aggregationOf_eq_of_perm (hperm : records'.Perm records) (htimes : (records.map Record.collectedAt).Nodup)
    (hnodup : selectedNames.Nodup) :
    aggregationOf round selectedNames w (eventsOf round selectedNames w records') records'.length =
      aggregationOf round selectedNames w (eventsOf round selectedNames w records) records.length := by
  have hsamples : ∀ name, (samplesOf round name records).Perm (samplesOf round name records') :=
    fun name => (hperm.filterMap _).symm
  have hevents : ∀ e : Event, e ∈ eventsOf round selectedNames w records' ↔ e ∈ eventsOf round selectedNames w records := by
    intro e
    rw [mem_eventsOf, mem_eventsOf, (hsamples e.metricName).mem_iff]
  have hbuckets : bucketsOf (eventsOf round selectedNames w records') = bucketsOf (eventsOf round selectedNames w records) := by
    refine congrArg (Finset.sort · (· ≤ ·)) (Finset.ext fun b => ?_)
    rw [← Finset.mem_sort (· ≤ ·), ← Finset.mem_sort (· ≤ ·)]
    refine mem_bucketsOf.trans (Iff.trans ?_ mem_bucketsOf.symm)
    simp only [(hsamples _).mem_iff]
  have hlookup : ∀ b, ∀ name ∈ selectedNames,
      (bucketMap (eventsOf round selectedNames w records')).lookup (b, name) =
        (bucketMap (eventsOf round selectedNames w records)).lookup (b, name) := by
    intro b name hname
    rw [lookup_bucketMap hnodup hname, lookup_bucketMap hnodup hname]
    refine (run_updateStat_of_perm ((hsamples name).filter _) ?_).symm
    exact (nodup_times round name htimes).sublist (List.filter_sublist.map _)
  have hoverall : ∀ name ∈ selectedNames, (overallMap (eventsOf round selectedNames w records')).lookup name =
      (overallMap (eventsOf round selectedNames w records)).lookup name := by
    intro name hname
    rw [lookup_overallMap hnodup hname, lookup_overallMap hnodup hname]
    exact (run_updateOverall_of_perm (hsamples name) (nodup_times round name htimes)).symm
  have hkept : keptEntries selectedNames (eventsOf round selectedNames w records') =
      keptEntries selectedNames (eventsOf round selectedNames w records) := by
    rw [keptEntries, keptEntries, hbuckets]
    refine List.flatMap_congr fun b _ => List.filterMap_congr fun name hname => ?_
    rw [hlookup b name hname]
  have hkeys : (overallMap (eventsOf round selectedNames w records')).keys.toFinset =
      (overallMap (eventsOf round selectedNames w records)).keys.toFinset := by
    refine Finset.ext fun name => ?_
    rw [List.mem_toFinset, List.mem_toFinset, overallMap, overallMap, mem_keys_pass, mem_keys_pass]
    exact exists_congr fun e => and_congr_left' (hevents e)
  have hsummary : (selectedNames.eraseDups.filterMap fun name =>
      ((overallMap (eventsOf round selectedNames w records')).lookup name).map fun stat => (name, summaryOf round stat)) =
        selectedNames.eraseDups.filterMap fun name =>
          ((overallMap (eventsOf round selectedNames w records)).lookup name).map fun stat =>
            (name, summaryOf round stat) := by
    refine List.filterMap_congr fun name hname => ?_
    rw [hoverall name (List.mem_eraseDups.mp hname)]
  simp only [aggregationOf, pointsOf, hkept, hkeys, hsummary, hbuckets, hperm.length_eq]

/-- The order of the records does not matter to the selection. -/
theorem selection_eq_of_perm (hperm : records'.Perm records) (requested : List Text) (scope : Scope) (maxMetrics : ℤ) :
    selection records' requested scope maxMetrics = selection records requested scope maxMetrics ∧
      (keysOf records').toFinset = (keysOf records).toFinset := by
  have hkeys : (keysOf records').Perm (keysOf records) := hperm.flatMap_right _
  have hset : (keysOf records').toFinset = (keysOf records).toFinset :=
    Finset.ext fun name => by rw [List.mem_toFinset, List.mem_toFinset, hkeys.mem_iff]
  have hranked : rankedNames (keysOf records') = rankedNames (keysOf records) := by
    simp only [rankedNames, hset, hkeys.count_eq]
  refine ⟨?_, hset⟩
  simp only [selection, selectedOf, hranked, hkeys.mem_iff]

/-! ## The two directions -/

/-- The points of a selected metric are those of its samples. -/
theorem lookup_series_of_nodup (hnodup : selectedNames.Nodup) (hname : name ∈ selectedNames) {points : List Point}
    {rawPointCount : ℕ} (h : (aggregationOf round selectedNames w (eventsOf round selectedNames w records)
      rawPointCount).series.lookup name = some points) :
    points = pointsIn round w (samplesOf round name records) (bucketsOf (eventsOf round selectedNames w records)) := by
  rw [lookup_series] at h
  split_ifs at h
  rw [← Option.some.inj h]
  exact pointsOf_of_nodup hnodup hname w

/-- **A sound selection is exact.** -/
theorem Sound.exact (hw : 0 < w) (h : Sound records requested scope maxMetrics w) :
    Exact round records requested scope maxMetrics w := by
  set selected := selection records requested scope maxMetrics with hselected
  have hselect := selectMetricNames_eq round records requested scope maxMetrics
  rw [if_pos h.fits, ← hselected] at hselect
  have hselect' : ∀ records', records'.Perm records → selectMetricNames round records' requested scope maxMetrics =
      some (selected, (keysOf records).toFinset.sort (· ≤ ·)) := by
    intro records' hperm
    obtain ⟨hselection, hset⟩ := selection_eq_of_perm hperm requested scope maxMetrics
    rw [selectMetricNames_eq, if_pos fun record hrecord => h.fits record (hperm.mem_iff.mp hrecord), hselection, hset]
  by_cases hne : selected = []
  · -- nothing is selected
    refine ⟨selected, _, ⟨[], [], [], [], records.length, 0⟩, hselect, ?_, ?_, fun records' hperm _ =>
      ⟨hselect' records' hperm, ?_⟩⟩
    · rw [hne]
      rfl
    · rw [hne]
      exact List.forall_mem_nil _
    · rw [hne, ← hperm.length_eq]
      rfl
  · have hnodup : selected.Nodup := (nodup_selectedOf_iff (nodup_preferredMetricNames scope)).mpr h.once
    have hstarts := h.starts hne
    have haggregate : ∀ records', records'.Perm records → aggregateMetricRecords round records' selected w =
        some (aggregationOf round selected w (eventsOf round selected w records') records'.length) := by
      intro records' hperm
      rw [aggregate_selected_eq round w (fun record hrecord => h.fits record (hperm.mem_iff.mp hrecord)) h.named hne,
        if_pos]
      exact ⟨fun record hrecord => hstarts record (hperm.mem_iff.mp hrecord),
        fun name hname record hrecord => h.ends name hname record (hperm.mem_iff.mp hrecord)⟩
    refine ⟨selected, _, _, hselect, haggregate records (List.Perm.refl _), fun name hname => ?_,
      fun records' hperm htimes => ⟨hselect' records' hperm, ?_⟩⟩
    · have hsamples : samplesOf round name records ≠ [] := samplesOf_ne_nil hname
      have haligned : ∀ sample ∈ samplesOf round name records, ¬ Misaligned w sample.1 :=
        (forall_samplesOf round (fun t => ¬ Misaligned w t) name records).mpr (h.aligned name hname)
      have hbuckets : ∀ sample ∈ samplesOf round name records,
          alignBucketStart sample.1 w ∈ bucketsOf (eventsOf round selected w records) :=
        fun sample hsample => mem_bucketsOf.mpr ⟨name, hname, sample, hsample, rfl⟩
      obtain ⟨stat, hstat, -⟩ := overall_spec hsamples
      have hdescribes := @describes_pointsIn w round _ _ hw (sorted_bucketsOf _) hbuckets haligned stat hsamples hstat
      have hpoints : pointsOf round selected w (eventsOf round selected w records) name =
          pointsIn round w (samplesOf round name records) (bucketsOf (eventsOf round selected w records)) :=
        pointsOf_of_nodup hnodup hname w
      have hpointsNil : pointsOf round selected w (eventsOf round selected w records) name ≠ [] := by
        obtain ⟨sample, hsample⟩ := List.exists_mem_of_ne_nil _ hsamples
        obtain ⟨point, hpoint, -⟩ := hdescribes.covered sample hsample
        rw [hpoints]
        exact List.ne_nil_of_mem hpoint
      refine ⟨_, _, ?_, ?_, hdescribes⟩
      · rw [lookup_series, if_pos ⟨hname, hpointsNil⟩, hpoints]
      · rw [lookup_summary, if_pos hname, lookup_overallMap hnodup hname, hstat, Option.map_some]
    · rw [haggregate records' hperm, aggregationOf_eq_of_perm hperm htimes hnodup]

/-- **Points in the order of time are those of a name that is selected once.** -/
theorem count_le_one (hname : name ∈ selectedNames) (hsamples : samplesOf round name records ≠ [])
    (hincreasing : (pointsOf round selectedNames w (eventsOf round selectedNames w records) name).Pairwise
      fun p q => p.bucketStart < q.bucketStart) : selectedNames.count name ≤ 1 := by
  obtain ⟨sample, hsample⟩ := List.exists_mem_of_ne_nil _ hsamples
  obtain ⟨stat, hstat⟩ := Option.isSome_iff_exists.mp
    (isSome_lookup_bucketMap.mpr ⟨hname, sample, hsample, (rfl : _ = alignBucketStart sample.1 w)⟩)
  have hbucket := mem_bucketsOf.mpr ⟨name, hname, sample, hsample, (rfl : _ = alignBucketStart sample.1 w)⟩
  rw [pointsOf_eq, List.pairwise_flatMap] at hincreasing
  have hreplicate := hincreasing.1 _ hbucket
  rw [hstat, Option.map_some, Option.getD_some, List.pairwise_replicate] at hreplicate
  exact hreplicate.resolve_right (lt_irrefl _)

/-- **Exact points have no misaligned samples**: the earliest of them is missing in the bucket that it lies in. -/
theorem aligned_of_describes (hw : 0 < w) {samples : List Sample} {buckets : List ℤ} {summary : Summary}
    (h : Describes round w samples (pointsIn round w samples buckets) summary) :
    ∀ sample ∈ samples, ¬ Misaligned w sample.1 := by
  by_contra hnot
  push Not at hnot
  obtain ⟨early, hearly, hmis⟩ := hnot
  have hmem : early ∈ samples.toFinset.filter fun sample : Sample => Misaligned w sample.1 :=
    Finset.mem_filter.mpr ⟨List.mem_toFinset.mpr hearly, hmis⟩
  obtain ⟨first, hfirst, hleast⟩ := Finset.exists_min_image _ Prod.fst ⟨early, hmem⟩
  obtain ⟨hfirst, hmisaligned⟩ := Finset.mem_filter.mp hfirst
  have hfirst := List.mem_toFinset.mp hfirst
  -- the point of the bucket that it lies in
  obtain ⟨point, hpoint, hcontains, -⟩ := h.covered first hfirst
  obtain ⟨stat, hstat, -, -, heq⟩ := h.described point hpoint
  obtain ⟨b, -, part, hpart, rfl⟩ := mem_pointsIn.mp hpoint
  have hcount : part.count = stat.count := congrArg Point.count heq
  rw [(bucketStat_eq_some hpart).count, hstat.count] at hcount
  have hb : b = alignBucketStart first.1 w - w := by
    have hspec := hmisaligned.spec hw
    refine eq_of_contains hw (dvd_of_bucketStat hpart) (dvd_sub_self_right.mpr (dvd_alignBucketStart _ _)) hcontains ?_
    rwa [sub_add_cancel]
  have hearlier : ∀ sample ∈ samples, alignBucketStart sample.1 w = b →
      (pointAt round w b part).Contains sample.1 := by
    intro sample hsample hsame
    by_contra houtside
    have hmis : Misaligned w sample.1 := by
      by_contra haligned
      have hin := (aligned_iff hw sample.1).mpr haligned
      rw [hsame] at hin
      exact houtside hin
    have hlater := hleast sample (Finset.mem_filter.mpr ⟨List.mem_toFinset.mpr hsample, hmis⟩)
    have hbefore := hmis.spec hw
    rw [hsame] at hbefore
    have hstart : b * 1000000 ≤ first.1 := hcontains.1
    have hstop : sample.1 < b * 1000000 := hbefore.2
    exact absurd (hstart.trans hlater) (not_le.mpr hstop)
  have hsub : ((samples.filter fun sample => alignBucketStart sample.1 w = b).length) <
      ((pointAt round w b part).samples samples).length := by
    have hrefine : (samples.filter fun sample => alignBucketStart sample.1 w = b) =
        ((pointAt round w b part).samples samples).filter fun sample => alignBucketStart sample.1 w = b := by
      rw [Point.samples, List.filter_filter]
      refine List.filter_congr fun sample hsample => ?_
      rw [← Bool.decide_and, decide_eq_decide]
      exact (and_iff_left_of_imp (hearlier sample hsample)).symm
    rw [hrefine, List.length_filter_lt_length_iff_exists]
    refine ⟨first, List.mem_filter.mpr ⟨hfirst, decide_eq_true hcontains⟩, ?_⟩
    rw [decide_eq_true_eq]
    omega
  omega

/-- The series of an aggregation has no blank name. -/
theorem strip_ne_nil_of_lookup {metricNames : List Text} {result : Aggregation} {points : List Point}
    (h : aggregateMetricRecords round records metricNames w = some result)
    (hlookup : result.series.lookup name = some points) : Text.strip name ≠ [] := by
  by_cases hne : metricNames.filter (fun n => Text.strip n ≠ []) = []
  · have hresult : result = ⟨[], [], [], [], records.length, 0⟩ := by
      rw [aggregateMetricRecords] at h
      simp only [hne, if_true, Option.some.injEq] at h
      exact h.symm
    subst hresult
    cases hlookup
  · rw [aggregateMetricRecords_eq rfl hne] at h
    split_ifs at h
    obtain rfl := Option.some.inj h
    rw [lookup_series] at hlookup
    split_ifs at hlookup with hmem
    exact of_decide_eq_true (List.mem_filter.mp hmem.1).2

/-- **An exact selection is sound.** -/
theorem Exact.sound (hw : 0 < w) (h : Exact round records requested scope maxMetrics w) :
    Sound records requested scope maxMetrics w := by
  obtain ⟨selected, available, result, hselect, haggregate, hmetrics, -⟩ := h
  rw [selectMetricNames_eq] at hselect
  split_ifs at hselect with hfits
  obtain ⟨hselected, -⟩ := Prod.mk.inj (Option.some.inj hselect)
  have hnamed : ∀ name ∈ selected, Text.strip name ≠ [] := by
    intro name hname
    obtain ⟨points, summary, hpoints, -⟩ := hmetrics name hname
    exact strip_ne_nil_of_lookup haggregate hpoints
  by_cases hne : selected = []
  · -- nothing is selected
    have hnil : selection records requested scope maxMetrics = [] := hselected.trans hne
    have honce : (selection records requested scope maxMetrics).Nodup := hnil ▸ List.nodup_nil
    refine ⟨hfits, (nodup_selectedOf_iff (nodup_preferredMetricNames scope)).mp honce, ?_, fun h => absurd hnil h, ?_, ?_⟩
    all_goals
      rw [hnil]
      exact List.forall_mem_nil _
  · rw [aggregate_selected_eq round w hfits hnamed hne] at haggregate
    split_ifs at haggregate with hready
    obtain rfl := Option.some.inj haggregate
    have hsamples : ∀ name ∈ selected, samplesOf round name records ≠ [] :=
      fun name hname => samplesOf_ne_nil (hselected ▸ hname)
    have hnodup : selected.Nodup := by
      refine List.nodup_iff_count_le_one.mpr fun name => ?_
      by_cases hname : name ∈ selected
      · obtain ⟨points, summary, hpoints, -, hdescribes⟩ := hmetrics name hname
        rw [lookup_series] at hpoints
        split_ifs at hpoints
        obtain rfl := Option.some.inj hpoints
        exact count_le_one hname (hsamples name hname) hdescribes.increasing
      · rw [List.count_eq_zero.mpr hname]
        exact Nat.zero_le 1
    refine ⟨hfits, ?_, hselected ▸ hnamed, fun _ => hready.1, hselected ▸ hready.2, ?_⟩
    · have honce : (selection records requested scope maxMetrics).Nodup := hselected.symm ▸ hnodup
      exact (nodup_selectedOf_iff (nodup_preferredMetricNames scope)).mp honce
    · intro name hname
      rw [hselected] at hname
      obtain ⟨points, summary, hpoints, -, hdescribes⟩ := hmetrics name hname
      rw [lookup_series_of_nodup hnodup hname hpoints] at hdescribes
      exact (forall_samplesOf round (fun t => ¬ Misaligned w t) name records).mp (aligned_of_describes hw hdescribes)

end DBClaw.MonitoringHistory
