import DBClaw.Metrics.HistoryAggregation

/-! # Statistics of the monitoring history
What the aggregation of the history should say of a metric, and when it does: no integer is too large for a float, no
name is repeated, and no time before the epoch is rounded into the bucket after it (`aggregation_exact_iff`). -/

namespace DBClaw.MonitoringHistory

open Alerts (Time)
open Tallies

/-! ## Exact statistics -/

/-- **A time lies in a bucket** that lasts from one second to another. -/
def InBucket (start stop t : ℤ) : Prop := start * 1000000 ≤ t ∧ t < stop * 1000000

instance (start stop t : ℤ) : Decidable (InBucket start stop t) := inferInstanceAs (Decidable (_ ∧ _))

/-- A time lies in the bucket of a point. -/
def Point.Contains (point : Point) (t : ℤ) : Prop := InBucket point.bucketStart point.bucketEnd t

instance (point : Point) (t : ℤ) : Decidable (point.Contains t) := inferInstanceAs (Decidable (InBucket _ _ _))

/-- The samples in the bucket of a point. -/
def Point.samples (point : Point) (samples : List Sample) : List Sample :=
  samples.filter fun sample => point.Contains sample.1

/-- **The summary is that of some samples**, before rounding, and its extremes are those of the points. -/
structure Summarises (round : Rounding) (samples : List Sample) (points : List Point) (summary : Summary)
    (stat : OverallStat) : Prop where
  isStat : IsStat samples stat.toStat
  firstAt : IsLeast {t | ∃ sample ∈ samples, sample.1 = t} stat.firstAt
  avg : stat.min ≤ stat.sum / stat.count ∧ stat.sum / stat.count ≤ stat.max
  eq_summaryOf : summary = summaryOf round stat
  min_of_point : ∃ point ∈ points, ∃ part, IsStat (point.samples samples) part ∧ part.min = stat.min
  max_of_point : ∃ point ∈ points, ∃ part, IsStat (point.samples samples) part ∧ part.max = stat.max
  extremes : ∀ point ∈ points, ∀ part, IsStat (point.samples samples) part → stat.min ≤ part.min ∧ part.max ≤ stat.max

/-- **The points and the summary of a metric are those of its samples**: the points are the aligned buckets in the order
of time, each sample lies in one of them, and their statistics are those of the samples in them, before rounding. -/
structure Describes (round : Rounding) (bucketSeconds : ℤ) (samples : List Sample) (points : List Point)
    (summary : Summary) : Prop where
  aligned : ∀ point ∈ points, bucketSeconds ∣ point.bucketStart ∧ point.bucketEnd = point.bucketStart + bucketSeconds
  increasing : points.Pairwise fun p q => p.bucketStart < q.bucketStart
  covered : ∀ sample ∈ samples, ∃ point ∈ points, point.Contains sample.1 ∧
    ∀ other ∈ points, other.Contains sample.1 → other = point
  described : ∀ point ∈ points, ∃ stat, IsStat (point.samples samples) stat ∧
    stat.min ≤ stat.sum / stat.count ∧ stat.sum / stat.count ≤ stat.max ∧
    point = pointAt round bucketSeconds point.bucketStart stat
  summarised : ∃ stat, Summarises round samples points summary stat
  counts : (points.map Point.count).sum = summary.count

/-- **Selection and aggregation are exact**: they return, each selected metric has the points and the summary of its
samples, and the order of records with distinct times does not matter. -/
def Exact (round : Rounding) (records : List Record) (requestedMetricNames : List Text) (scope : Scope)
    (maxMetrics bucketSeconds : ℤ) : Prop :=
  ∃ selected available result,
    selectMetricNames round records requestedMetricNames scope maxMetrics = some (selected, available) ∧
    aggregateMetricRecords round records selected bucketSeconds = some result ∧
    (∀ name ∈ selected, ∃ points summary, result.series.lookup name = some points ∧
      result.summary.lookup name = some summary ∧
      Describes round bucketSeconds (samplesOf round name records) points summary) ∧
    ∀ records', records'.Perm records → (records.map Record.collectedAt).Nodup →
      selectMetricNames round records' requestedMetricNames scope maxMetrics = some (selected, available) ∧
      aggregateMetricRecords round records' selected bucketSeconds = some result

/-! ## Alignment -/

/-- **A time is rounded into the next bucket**: it is before the epoch, has a fraction, and its bucket ends with the
second that it is in. -/
def Misaligned (bucketSeconds t : ℤ) : Prop := t < 0 ∧ ¬ 1000000 ∣ t ∧ bucketSeconds ∣ wholeSeconds t

instance (bucketSeconds t : ℤ) : Decidable (Misaligned bucketSeconds t) := inferInstanceAs (Decidable (_ ∧ _))

variable {w t : ℤ}

theorem dvd_alignBucketStart (t w : ℤ) : w ∣ alignBucketStart t w := Dvd.intro_left _ rfl

theorem align_spec (hw : 0 < w) (t : ℤ) :
    alignBucketStart t w ≤ wholeSeconds t ∧ wholeSeconds t < alignBucketStart t w + w := by
  have hmod := Int.emod_nonneg (wholeSeconds t) hw.ne'
  have hlt := Int.emod_lt_of_pos (wholeSeconds t) hw
  have hdiv := Int.emod_add_ediv_mul (wholeSeconds t) w
  rw [alignBucketStart]
  omega

theorem align_eq_iff (w t : ℤ) : alignBucketStart t w = wholeSeconds t ↔ w ∣ wholeSeconds t := by
  rw [alignBucketStart]
  exact ⟨fun h => Dvd.intro_left _ h, fun h => Int.ediv_mul_cancel h⟩

/-- **A time lies in its bucket unless it is rounded into the next one.** -/
theorem aligned_iff (hw : 0 < w) (t : ℤ) :
    InBucket (alignBucketStart t w) (alignBucketStart t w + w) t ↔ ¬ Misaligned w t := by
  have hspec := align_spec hw t
  have heq := align_eq_iff w t
  have hwhole := wholeSeconds_spec t
  unfold Misaligned InBucket
  by_cases hdvd : w ∣ wholeSeconds t
  · have hsame := heq.mpr hdvd
    simp only [hdvd, and_true]
    omega
  · have hne : alignBucketStart t w ≠ wholeSeconds t := fun h => hdvd (heq.mp h)
    simp only [hdvd, and_false, not_false_eq_true, iff_true]
    omega

/-- A misaligned time lies in the bucket before. -/
theorem Misaligned.spec (hw : 0 < w) (h : Misaligned w t) :
    InBucket (alignBucketStart t w - w) (alignBucketStart t w) t := by
  obtain ⟨hneg, hfraction, hdvd⟩ := h
  have hspec := align_spec hw t
  have hsame := (align_eq_iff w t).mpr hdvd
  have hwhole := wholeSeconds_spec t
  unfold InBucket
  omega

/-- Two aligned buckets that share a time are one. -/
theorem eq_of_contains {a b : ℤ} (hw : 0 < w) (ha : w ∣ a) (hb : w ∣ b)
    (hta : InBucket a (a + w) t) (htb : InBucket b (b + w) t) : a = b := by
  obtain ⟨m, rfl⟩ := ha
  obtain ⟨n, rfl⟩ := hb
  unfold InBucket at hta htb
  have hmn : w * m < w * (n + 1) := by
    rw [Int.mul_add, mul_one]
    omega
  have hnm : w * n < w * (m + 1) := by
    rw [Int.mul_add, mul_one]
    omega
  have hmn' := lt_of_mul_lt_mul_left hmn hw.le
  have hnm' := lt_of_mul_lt_mul_left hnm hw.le
  have hsame : m = n := by omega
  rw [hsame]

/-! ## The points of a metric -/

variable {round : Rounding} {records : List Record} {selectedNames : List Text} {name : Text}

/-- **A metric has its points once for each time that its name is selected.** -/
theorem pointsOf_eq (selectedNames : List Text) (w : ℤ) (events : List Event) (name : Text) :
    pointsOf round selectedNames w events name = (bucketsOf events).flatMap fun b =>
      (((bucketMap events).lookup (b, name)).map fun stat =>
        List.replicate (selectedNames.count name) (pointAt round w b stat)).getD [] := by
  have hbucket : ∀ b : ℤ, (((selectedNames.filterMap fun metricName =>
      ((bucketMap events).lookup (b, metricName)).map fun stat => (metricName, b, stat)).map fun entry =>
        (entry.1, pointAt round w entry.2.1 entry.2.2)).filter fun entry => entry.1 = name).map Prod.snd =
      (((bucketMap events).lookup (b, name)).map fun stat =>
        List.replicate (selectedNames.count name) (pointAt round w b stat)).getD [] := by
    intro b
    rw [List.map_filterMap, @filter_filterMap_tag _ _ Prod.fst]
    · cases (bucketMap events).lookup (b, name) with
      | none => rfl
      | some stat => simp
    · intro n e he
      obtain ⟨entry, hentry, rfl⟩ := Option.map_eq_some_iff.mp he
      obtain ⟨stat, -, rfl⟩ := Option.map_eq_some_iff.mp hentry
      rfl
  rw [pointsOf, keptEntries, List.map_flatMap, List.filter_flatMap, List.map_flatMap]
  exact List.flatMap_congr fun b _ => hbucket b

/-- The statistics of the samples of a metric in a bucket, when there are any. -/
def bucketStat (w : ℤ) (samples : List Sample) (b : ℤ) : Option Stat :=
  run updateStat (samples.filter fun sample => alignBucketStart sample.1 w = b) none

/-- **The points of a metric whose name is selected once.** -/
theorem pointsOf_of_nodup (hnodup : selectedNames.Nodup) (hname : name ∈ selectedNames) (w : ℤ) :
    pointsOf round selectedNames w (eventsOf round selectedNames w records) name =
      (bucketsOf (eventsOf round selectedNames w records)).filterMap fun b =>
        (bucketStat w (samplesOf round name records) b).map (pointAt round w b) := by
  rw [pointsOf_eq, List.filterMap_eq_flatMap_toList]
  refine List.flatMap_congr fun b _ => ?_
  rw [lookup_bucketMap hnodup hname, ← bucketStat, List.count_eq_one_of_mem hnodup hname]
  cases bucketStat w (samplesOf round name records) b <;> rfl

theorem bucketStat_eq_some {samples : List Sample} {b : ℤ} {stat : Stat} (h : bucketStat w samples b = some stat) :
    IsStat (samples.filter fun sample => alignBucketStart sample.1 w = b) stat := by
  have hne : samples.filter (fun sample => alignBucketStart sample.1 w = b) ≠ [] := by
    intro hnil
    rw [bucketStat, hnil] at h
    cases h
  obtain ⟨stat', hrun, hstat'⟩ := run_updateStat hne
  rw [bucketStat, hrun, Option.some.injEq] at h
  rwa [← h]

theorem bucketStat_isSome {samples : List Sample} {sample : Sample} (h : sample ∈ samples) :
    ∃ stat, bucketStat w samples (alignBucketStart sample.1 w) = some stat := by
  have hmem : sample ∈ samples.filter fun other => alignBucketStart other.1 w = alignBucketStart sample.1 w :=
    List.mem_filter.mpr ⟨h, decide_eq_true rfl⟩
  obtain ⟨stat, hrun, -⟩ := run_updateStat (List.ne_nil_of_mem hmem)
  exact ⟨stat, hrun⟩

/-- Everything is counted in one of the groups. -/
theorem sum_length_filter {α β : Type} [DecidableEq β] (f : α → β) {groups : List β} (hnodup : groups.Nodup)
    {xs : List α} (h : ∀ x ∈ xs, f x ∈ groups) :
    (groups.map fun b => (xs.filter fun x => f x = b).length).sum = xs.length := by
  induction xs with
  | nil => simp
  | cons x xs ih =>
    have hx := h x List.mem_cons_self
    have ih := ih fun y hy => h y (List.mem_cons_of_mem x hy)
    obtain ⟨before, after, rfl⟩ := List.append_of_mem hx
    obtain ⟨-, hafter, hbefore⟩ := List.nodup_append.mp hnodup
    have hother : ∀ group : List β, f x ∉ group →
        (group.map fun b => ((x :: xs).filter fun y => f y = b).length) =
          group.map fun b => (xs.filter fun y => f y = b).length := by
      intro group hgroup
      refine List.map_congr_left fun b hb => ?_
      have hne : f x ≠ b := fun heq => hgroup (heq ▸ hb)
      rw [List.filter_cons_of_neg (by simpa using hne)]
    have hnotBefore : f x ∉ before := fun hmem => hbefore _ hmem _ List.mem_cons_self rfl
    rw [List.map_append, List.sum_append, List.map_cons, List.sum_cons] at ih ⊢
    rw [hother before hnotBefore, hother after (List.nodup_cons.mp hafter).1,
      List.filter_cons_of_pos (by simp), List.length_cons, List.length_cons]
    omega

/-- The overall statistics are those of all samples. -/
theorem overall_spec {samples : List Sample} (h : samples ≠ []) : ∃ stat, run updateOverall samples none = some stat ∧
    IsStat samples stat.toStat ∧ IsLeast {t | ∃ sample ∈ samples, sample.1 = t} stat.firstAt := by
  induction samples using List.reverseRecOn with
  | nil => exact absurd rfl h
  | append_singleton samples sample ih =>
    have htimes : {t | ∃ s ∈ samples ++ [sample], s.1 = t} = {t | ∃ s ∈ samples, s.1 = t} ∪ {sample.1} := by
      ext t
      simp [or_and_right, exists_or, eq_comm]
      exact or_comm
    rw [run_append_singleton, htimes]
    by_cases hnil : samples = []
    · subst hnil
      refine ⟨_, rfl, isStat_start sample, ?_⟩
      simp [updateOverall, IsLeast, lowerBounds]
    · obtain ⟨stat, hstat, hspec, hfirst⟩ := ih hnil
      rw [hstat]
      refine ⟨_, rfl, hspec.add sample, ?_⟩
      have hmin : (if sample.1 ≤ stat.firstAt then sample.1 else stat.firstAt) = min stat.firstAt sample.1 := by
        rw [min_comm]
        exact (min_def sample.1 stat.firstAt).symm
      change IsLeast _ (if sample.1 ≤ stat.firstAt then sample.1 else stat.firstAt)
      rw [hmin]
      exact hfirst.union isLeast_singleton

/-- The points of some samples, bucket by bucket. -/
def pointsIn (round : Rounding) (w : ℤ) (samples : List Sample) (buckets : List ℤ) : List Point :=
  buckets.filterMap fun b => (bucketStat w samples b).map (pointAt round w b)

variable {samples : List Sample} {buckets : List ℤ}

theorem mem_pointsIn {point : Point} : point ∈ pointsIn round w samples buckets ↔
    ∃ b ∈ buckets, ∃ stat, bucketStat w samples b = some stat ∧ point = pointAt round w b stat := by
  rw [pointsIn, List.mem_filterMap]
  refine exists_congr fun b => and_congr_right fun _ => ?_
  rw [Option.map_eq_some_iff]
  exact exists_congr fun stat => and_congr_right' eq_comm

/-- A bucket with a point is aligned. -/
theorem dvd_of_bucketStat {b : ℤ} {stat : Stat} (h : bucketStat w samples b = some stat) : w ∣ b := by
  obtain ⟨sample, hsample, -⟩ := (bucketStat_eq_some h).min.1
  rw [← of_decide_eq_true (List.mem_filter.mp hsample).2]
  exact dvd_alignBucketStart _ _

/-- **The samples in the bucket of a point are those that it was made of.** -/
theorem samples_pointAt (hw : 0 < w) (haligned : ∀ sample ∈ samples, ¬ Misaligned w sample.1) {b : ℤ} {stat : Stat}
    (hb : w ∣ b) : (pointAt round w b stat).samples samples = samples.filter fun sample => alignBucketStart sample.1 w = b := by
  refine List.filter_congr fun sample hsample => decide_eq_decide.mpr ?_
  have hin := (aligned_iff hw sample.1).mpr (haligned sample hsample)
  constructor
  · intro hcontains
    exact eq_of_contains hw (dvd_alignBucketStart _ _) hb hin hcontains
  · rintro rfl
    exact hin

/-- **Where no time is misaligned, the points and the summary are exact.** -/
theorem describes_pointsIn (hw : 0 < w) (hsorted : buckets.Pairwise (· < ·))
    (hbuckets : ∀ sample ∈ samples, alignBucketStart sample.1 w ∈ buckets)
    (haligned : ∀ sample ∈ samples, ¬ Misaligned w sample.1) {stat : OverallStat} (hne : samples ≠ [])
    (hstat : run updateOverall samples none = some stat) :
    Describes round w samples (pointsIn round w samples buckets) (summaryOf round stat) := by
  obtain ⟨stat', hstat', hoverall, hfirst⟩ := overall_spec hne
  obtain rfl := Option.some.inj (hstat.symm.trans hstat')
  have hdescribed : ∀ b part, bucketStat w samples b = some part →
      IsStat ((pointAt round w b part).samples samples) part := by
    intro b part hpart
    rw [samples_pointAt hw haligned (dvd_of_bucketStat hpart)]
    exact bucketStat_eq_some hpart
  have hsub : ∀ point : Point, ∀ sample ∈ point.samples samples, sample ∈ samples :=
    fun point sample h => (List.mem_filter.mp h).1
  -- the point of a sample has the extremes of all samples when the sample has
  have hpoint : ∀ sample ∈ samples, ∃ part, bucketStat w samples (alignBucketStart sample.1 w) = some part ∧
      sample ∈ (pointAt round w (alignBucketStart sample.1 w) part).samples samples ∧
      pointAt round w (alignBucketStart sample.1 w) part ∈ pointsIn round w samples buckets := by
    intro sample hsample
    obtain ⟨part, hpart⟩ := bucketStat_isSome (w := w) hsample
    refine ⟨part, hpart, ?_, mem_pointsIn.mpr ⟨_, hbuckets sample hsample, part, hpart, rfl⟩⟩
    rw [samples_pointAt hw haligned (dvd_alignBucketStart _ _)]
    exact List.mem_filter.mpr ⟨hsample, decide_eq_true rfl⟩
  have hextremes : ∀ point : Point, ∀ part, IsStat (point.samples samples) part →
      stat.min ≤ part.min ∧ part.max ≤ stat.max := by
    intro point part hpart
    obtain ⟨low, hlow, hlow'⟩ := hpart.min.1
    obtain ⟨high, hhigh, hhigh'⟩ := hpart.max.1
    exact ⟨hoverall.min.2 ⟨low, hsub point low hlow, hlow'⟩, hoverall.max.2 ⟨high, hsub point high hhigh, hhigh'⟩⟩
  refine ⟨?_, ?_, ?_, ?_, ⟨stat, hoverall, hfirst, hoverall.min_le_avg, rfl, ?_, ?_, ?_⟩, ?_⟩
  · intro point hmem
    obtain ⟨b, -, part, hpart, rfl⟩ := mem_pointsIn.mp hmem
    exact ⟨dvd_of_bucketStat hpart, rfl⟩
  · rw [pointsIn, List.pairwise_filterMap]
    refine hsorted.imp fun hlt p hp q hq => ?_
    obtain ⟨part, -, rfl⟩ := Option.map_eq_some_iff.mp hp
    obtain ⟨part', -, rfl⟩ := Option.map_eq_some_iff.mp hq
    exact hlt
  · intro sample hsample
    obtain ⟨part, hpart, hmem, hpoint⟩ := hpoint sample hsample
    refine ⟨_, hpoint, of_decide_eq_true (List.mem_filter.mp hmem).2, fun other hother hcontains => ?_⟩
    obtain ⟨b, -, part', hpart', rfl⟩ := mem_pointsIn.mp hother
    have hsame := eq_of_contains hw (dvd_alignBucketStart sample.1 w) (dvd_of_bucketStat hpart')
      ((aligned_iff hw sample.1).mpr (haligned sample hsample)) hcontains
    subst hsame
    rw [Option.some.inj (hpart.symm.trans hpart')]
  · intro point hmem
    obtain ⟨b, -, part, hpart, rfl⟩ := mem_pointsIn.mp hmem
    exact ⟨part, hdescribed b part hpart, (hdescribed b part hpart).min_le_avg.1, (hdescribed b part hpart).min_le_avg.2, rfl⟩
  · obtain ⟨sample, hsample, hmin⟩ := hoverall.min.1
    obtain ⟨part, hpart, hmem, hpoint⟩ := hpoint sample hsample
    refine ⟨_, hpoint, part, hdescribed _ part hpart, le_antisymm ?_ (hextremes _ _ (hdescribed _ part hpart)).1⟩
    rw [← hmin]
    exact (hdescribed _ part hpart).min.2 ⟨sample, hmem, rfl⟩
  · obtain ⟨sample, hsample, hmax⟩ := hoverall.max.1
    obtain ⟨part, hpart, hmem, hpoint⟩ := hpoint sample hsample
    refine ⟨_, hpoint, part, hdescribed _ part hpart, le_antisymm (hextremes _ _ (hdescribed _ part hpart)).2 ?_⟩
    rw [← hmax]
    exact (hdescribed _ part hpart).max.2 ⟨sample, hmem, rfl⟩
  · exact fun point _ => hextremes point
  · have hcounts : ((pointsIn round w samples buckets).map Point.count).sum =
        (buckets.map fun b => (samples.filter fun sample => alignBucketStart sample.1 w = b).length).sum := by
      clear hsorted hbuckets hpoint
      induction buckets with
      | nil => rfl
      | cons b buckets ih =>
        rw [List.map_cons, List.sum_cons, ← ih, pointsIn]
        cases hpart : bucketStat w samples b with
        | none =>
          have hnil : samples.filter (fun sample => alignBucketStart sample.1 w = b) = [] := by
            by_contra hne
            obtain ⟨part, hrun, -⟩ := run_updateStat hne
            rw [bucketStat, hrun] at hpart
            cases hpart
          rw [List.filterMap_cons_none (by rw [hpart]; rfl), hnil, List.length_nil, Nat.zero_add]
          rfl
        | some part =>
          rw [List.filterMap_cons_some (by rw [hpart]; rfl), List.map_cons, List.sum_cons,
            ← (bucketStat_eq_some hpart).count]
          rfl
    rw [hcounts, sum_length_filter (fun sample : Sample => alignBucketStart sample.1 w)
      (hsorted.imp fun h => ne_of_lt h) hbuckets]
    exact hoverall.count.symm

end DBClaw.MonitoringHistory
