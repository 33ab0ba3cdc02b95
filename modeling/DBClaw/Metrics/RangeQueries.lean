import DBClaw.Alerts.Records
import DBClaw.Library.OrderedQueries
import Mathlib

/-! # Metric range queries
`get_metrics` answers with the latest snapshots of a datasource in a range of time. The snapshots of the type
`db_status` are read by their ids first, limited, and only then put to the range. `rangeQuery_exact_iff` says when the answer is
what the other types get. -/

namespace DBClaw.RangeQueries

open Alerts (Time)
open OrderedQueries

/-! ## The table -/

/-- A row of `datasource_metric`. -/
structure DatasourceMetric where
  id : ℤ
  datasourceId : ℤ
  metricType : Text
  data : Json
  collectedAt : Time

/-- The order in which the database returns the rows of its two queries. -/
structure Database where
  byTime : Descending DatasourceMetric.collectedAt
  byId : Descending DatasourceMetric.id

/-- A database that keeps rows with equal keys as they stand in the table. -/
def stableDatabase : Database := ⟨Descending.stable _, Descending.stable _⟩

/-! ## The range -/

/-- `datetime.min`. -/
def minTime : Time := Time.seconds (-62135596800)

/-- `datetime.max`. -/
def maxTime : Time := Time.seconds 253402300800 - 1

/-- `now() - timedelta(minutes=minutes)`, which raises an `OverflowError` when there is no such datetime. -/
def since (now : Time) (minutes : ℤ) : Option Time :=
  let start := now - Time.minutes minutes
  if minTime ≤ start ∧ start ≤ maxTime then some start else none

/-- **The range of a request**: `minutes` come first, and no minutes are as good as none. -/
def timeRange (now : Time) (startTime endTime : Option Time) (minutes : Option ℤ) : Option (Time → Bool) :=
  match minutes.filter (· ≠ 0) with
  | some minutes => (since now minutes).map fun start t => decide (start ≤ t)
  | none => some fun t => startTime.all (· ≤ t) && endTime.all (t ≤ ·)

/-! ## The queries -/

/-- The type whose snapshots are read by their ids. -/
def dbStatus : Text := "db_status".toList

/-- The `db_status` snapshots of a datasource. -/
def statusRows (table : List DatasourceMetric) (connId : ℤ) : List DatasourceMetric :=
  table.filter fun r => r.datasourceId = connId && r.metricType = dbStatus

/-- **`_get_db_status_snapshots`.** -/
def getDbStatusSnapshots (db : Database) (table : List DatasourceMetric) (connId : ℤ) (limit : ℕ) :
    List DatasourceMetric :=
  (db.byId.sort (statusRows table connId)).take limit

/-- `not metric_type or row.metric_type == metric_type`. -/
def isOfType (metricType : Option Text) (r : DatasourceMetric) : Bool :=
  match metricType.filter (· ≠ []) with
  | some metricType => r.metricType = metricType
  | none => true

/-- The filters of the common query. -/
def commonRows (table : List DatasourceMetric) (connId : ℤ) (metricType : Option Text) (inRange : Time → Bool) :
    List DatasourceMetric :=
  table.filter fun r =>
    r.datasourceId = connId && (metricType = some dbStatus || isOfType metricType r) && inRange r.collectedAt

/-- **`get_metrics`**, where `now` and `now'` are the times of its two calls of `now()`. -/
def getMetrics (db : Database) (table : List DatasourceMetric) (connId : ℤ) (metricType : Option Text)
    (startTime endTime : Option Time) (minutes : Option ℤ) (limit : ℕ) (now now' : Time) :
    Option (List DatasourceMetric) := do
  let inRange ← timeRange now startTime endTime minutes
  let snapshots := (db.byTime.sort (commonRows table connId metricType inRange)).take limit
  if metricType = some dbStatus then
    let snapshots := getDbStatusSnapshots db table connId limit
    let inRange ← timeRange now' startTime endTime minutes
    some ((snapshots.filter fun snapshot => inRange snapshot.collectedAt).take limit)
  else
    some snapshots

/-! ## Exact answers -/

/-- The snapshots of a datasource and a type in a range. -/
def requestedRows (table : List DatasourceMetric) (connId : ℤ) (metricType : Option Text) (inRange : Time → Bool) :
    List DatasourceMetric :=
  table.filter fun r => r.datasourceId = connId && isOfType metricType r && inRange r.collectedAt

/-- The reading of the clock that the answer depends on: for `db_status` it is the second. -/
def clockOf (metricType : Option Text) (now now' : Time) : Time := if metricType = some dbStatus then now' else now

/-- **The answer has the latest snapshots in the range**, at most `limit`, newest first. -/
def Exact (db : Database) (table : List DatasourceMetric) (connId : ℤ) (metricType : Option Text)
    (startTime endTime : Option Time) (minutes : Option ℤ) (limit : ℕ) (now now' : Time) : Prop :=
  ∃ inRange answer, timeRange (clockOf metricType now now') startTime endTime minutes = some inRange ∧
    getMetrics db table connId metricType startTime endTime minutes limit now now' = some answer ∧
    Newest DatasourceMetric.collectedAt limit (requestedRows table connId metricType inRange) answer

/-- **Limiting by the ids hides nothing**: among the `limit` largest ids, the snapshots in the range stand in the order
of their times, and either no snapshot beyond these ids is in the range, or these are `limit` snapshots, all of them in
the range and none older than one in the range beyond. -/
def HidesNothing (db : Database) (table : List DatasourceMetric) (connId : ℤ) (limit : ℕ) (inRange : Time → Bool) :
    Prop :=
  let within := (db.byId.sort (statusRows table connId)).take limit
  let beyond := (db.byId.sort (statusRows table connId)).drop limit
  IsDescending DatasourceMetric.collectedAt (within.filter fun r => inRange r.collectedAt) ∧
    ((∀ r ∈ beyond, inRange r.collectedAt = false) ∨
      within.length = limit ∧ (∀ r ∈ within, inRange r.collectedAt = true) ∧
        ∀ a ∈ within, ∀ b ∈ beyond, inRange b.collectedAt = true → b.collectedAt ≤ a.collectedAt)

variable {db : Database} {table : List DatasourceMetric} {connId : ℤ} {metricType : Option Text}
  {startTime endTime : Option Time} {minutes : Option ℤ} {limit : ℕ} {now now' : Time} {inRange : Time → Bool}

theorem commonRows_of_ne (h : metricType ≠ some dbStatus) :
    commonRows table connId metricType inRange = requestedRows table connId metricType inRange := by
  simp only [commonRows, requestedRows, h, decide_false, Bool.false_or]

/-- The rows of a request for `db_status` are the `db_status` rows in the range. -/
theorem requestedRows_dbStatus :
    requestedRows table connId (some dbStatus) inRange =
      (statusRows table connId).filter fun r => inRange r.collectedAt := by
  have htype : ∀ r, isOfType (some dbStatus) r = decide (r.metricType = dbStatus) := fun r => rfl
  simp only [requestedRows, statusRows, List.filter_filter, htype]
  exact List.filter_congr fun r _ => Bool.and_comm _ _

/-- **The common path is exact** whenever it returns. -/
theorem exact_iff_of_ne (h : metricType ≠ some dbStatus) :
    Exact db table connId metricType startTime endTime minutes limit now now' ↔
      (timeRange now startTime endTime minutes).isSome := by
  rw [Exact, clockOf, if_neg h]
  constructor
  · rintro ⟨inRange, -, hrange, -⟩
    rw [hrange]
    rfl
  · intro hsome
    obtain ⟨inRange, hrange⟩ := Option.isSome_iff_exists.mp hsome
    refine ⟨inRange, _, hrange, ?_, newest_take db.byTime limit _⟩
    rw [getMetrics, hrange, ← commonRows_of_ne h]
    exact if_neg h

/-- **The path of `db_status` is exact when the limit on the ids hides nothing.** -/
theorem exact_dbStatus_iff :
    Exact db table connId (some dbStatus) startTime endTime minutes limit now now' ↔
      (timeRange now startTime endTime minutes).isSome ∧
        ∃ inRange, timeRange now' startTime endTime minutes = some inRange ∧
          HidesNothing db table connId limit inRange := by
  have hanswer : ∀ inRange inRange', timeRange now startTime endTime minutes = some inRange →
      timeRange now' startTime endTime minutes = some inRange' →
      getMetrics db table connId (some dbStatus) startTime endTime minutes limit now now' =
        some ((getDbStatusSnapshots db table connId limit).filter fun r => inRange' r.collectedAt) := by
    intro inRange inRange' hrange hrange'
    have hshort : ((getDbStatusSnapshots db table connId limit).filter fun r => inRange' r.collectedAt).length ≤
        limit := (List.length_filter_le _ _).trans (List.length_take_le limit _)
    rw [getMetrics, hrange, hrange', ← List.take_of_length_le hshort]
    simp only [Option.bind_eq_bind, Option.bind_some, if_true]
  rw [Exact, clockOf, if_pos rfl]
  constructor
  · rintro ⟨inRange', answer, hrange', hget, hnewest⟩
    cases hrange : timeRange now startTime endTime minutes with
    | none =>
      rw [getMetrics, hrange] at hget
      cases hget
    | some inRange =>
      rw [hanswer inRange inRange' hrange hrange', Option.some.injEq] at hget
      rw [← hget, requestedRows_dbStatus] at hnewest
      exact ⟨rfl, inRange', hrange', (newest_filter_take_iff db.byId _ limit _).mp hnewest⟩
  · rintro ⟨hsome, inRange', hrange', hhides⟩
    obtain ⟨inRange, hrange⟩ := Option.isSome_iff_exists.mp hsome
    refine ⟨inRange', _, hrange', hanswer inRange inRange' hrange hrange', ?_⟩
    rw [requestedRows_dbStatus]
    exact (newest_filter_take_iff db.byId _ limit _).mpr hhides

/-- **When range queries are exact**: the requested minutes must reach back to a datetime, and for `db_status` the
limit on the ids must hide nothing. -/
theorem rangeQuery_exact_iff (db : Database) (table : List DatasourceMetric) (connId : ℤ) (metricType : Option Text)
    (startTime endTime : Option Time) (minutes : Option ℤ) (limit : ℕ) (now now' : Time) :
    Exact db table connId metricType startTime endTime minutes limit now now' ↔
      (timeRange now startTime endTime minutes).isSome ∧
        (metricType = some dbStatus → ∃ inRange, timeRange now' startTime endTime minutes = some inRange ∧
          HidesNothing db table connId limit inRange) := by
  by_cases h : metricType = some dbStatus
  · rw [h, exact_dbStatus_iff]
    simp only [true_imp_iff]
  · rw [exact_iff_of_ne h]
    simp only [h, false_imp_iff, and_true]

/-- An old snapshot and a new one. -/
def twoSnapshots : List DatasourceMetric :=
  [⟨1, 1, dbStatus, .null, Time.seconds 0⟩, ⟨2, 1, dbStatus, .null, Time.seconds 100⟩]

/-- **A limit of one hides the older snapshot** from the range that only it lies in. -/
theorem twoSnapshots_not_exact :
    ¬ Exact stableDatabase twoSnapshots 1 (some dbStatus) none (some (Time.seconds 50)) none 1 0 0 := by
  have hsort : stableDatabase.byId.sort (statusRows twoSnapshots 1) = twoSnapshots.reverse := by
    have hrows : statusRows twoSnapshots 1 = twoSnapshots := rfl
    rw [hrows]
    simp [stableDatabase, Descending.stable, twoSnapshots, List.mergeSort, List.MergeSort.Internal.splitInTwo]
  rw [exact_dbStatus_iff]
  rintro ⟨-, inRange, hrange, -, hhides⟩
  obtain rfl := Option.some.inj hrange
  rw [hsort] at hhides
  revert hhides
  decide

end DBClaw.RangeQueries
