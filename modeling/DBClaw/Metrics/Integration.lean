import DBClaw.Library.Runs
import DBClaw.Library.Text
import Mathlib.Data.List.AList
import Mathlib.Data.Nat.Notation

/-! # Metrics of an integration
A datasource whose metric source is an integration gets its status snapshots from `_execute_integration`
alone: what the integration reports is merged into the newest snapshot, a few values of the database
itself are put over it, and the result is stored as the next snapshot. The merge is made for two sources
side by side. Of the keys that are not preferred it keeps what the snapshot has, and this is what an
earlier run of the same integration reported. -/

namespace DBClaw.Metrics

open Runs

variable {α : Type*}

/-! ## Merging -/

/-- The data of a snapshot. -/
abbrev Data (α : Type*) : Type _ := AList fun _ : String => α

/-- `INTEGRATION_PREFERRED_METRIC_KEYS`. -/
def integrationPreferredMetricKeys : List String := [
  "cpu_usage", "memory_usage", "disk_usage", "disk_total", "disk_data", "disk_log", "disk_temp",
  "disk_system", "iops", "throughput", "qps", "tps", "network_in", "network_out", "network_rx_bytes",
  "network_tx_bytes"]

/-- `MYSQL_OBSOLETE_CONNECTION_KEYS`. -/
def mysqlObsoleteConnectionKeys : List String := ["active_connections", "total_connections"]

/-- `dict.setdefault`. -/
def setDefault (data : Data α) (key : String) (value : α) : Data α :=
  if key ∈ data then data else data.insert key value

/-- One key of the merge. -/
def mergeKey (merged : Data α) (entry : Sigma fun _ : String => α) : Data α :=
  if entry.1 ∈ integrationPreferredMetricKeys then merged.insert entry.1 entry.2
  else setDefault merged entry.1 entry.2

/-- **`merge_integration_metric_data`.** -/
def mergeIntegrationMetricData (existing incoming : Data α) : Data α :=
  incoming.entries.foldl mergeKey existing

/-- `normalize_db_type`. -/
def normalizeDbType (u : Unicode) (dbType : Text) : Text :=
  let value := Text.lower u (Text.strip dbType)
  ([("postgres", "postgresql"), ("pg", "postgresql"), ("mssql", "sqlserver"), ("sql_server", "sqlserver"),
    ("tdsql_c_mysql", "tdsql-c-mysql"), ("oceanbase", "oceanbase-mysql"),
    ("oceanbase_mysql", "oceanbase-mysql"), ("ob_mysql", "oceanbase-mysql"),
    ("ob-mysql", "oceanbase-mysql")].find? fun entry => entry.1.toList = value).elim value (·.2.toList)

/-- `is_mysql_family`; the normal form of an empty type is none of the family. -/
def isMysqlFamily (u : Unicode) (dbType : Text) : Bool :=
  ["mysql", "tdsql-c-mysql"].any (·.toList = normalizeDbType u dbType)

/-- The keys that make the obsolete ones superfluous. -/
def canonicalConnectionKeys : List String :=
  ["connections_active", "connections_total", "threads_running", "threads_connected"]

/-- **`cleanup_obsolete_integration_keys`.** -/
def cleanupObsoleteIntegrationKeys (u : Unicode) (dbType : Text) (data : Data α) : Data α :=
  let dbKey := Text.lower u (Text.strip dbType)
  if isMysqlFamily u dbKey then
    if canonicalConnectionKeys.any (· ∈ data) then
      mysqlObsoleteConnectionKeys.foldl (fun cleaned key => cleaned.erase key) data
    else data
  else data

/-! ## Collecting -/

/-- A metric as the integration reports it; a key may be missing. -/
structure ReportedMetric (α : Type*) where
  datasourceId : Option ℕ
  metricName : Option String
  metricValue : Option α

/-- `metric_data`: the last value of each name. -/
def metricData (datasourceId : ℕ) (metrics : List (ReportedMetric α)) : Data α :=
  metrics.foldl (fun data metric =>
    if metric.datasourceId = some datasourceId then
      match metric.metricName, metric.metricValue with
      | some name, some value => data.insert name value
      | _, _ => data
    else data) ∅

/-- The fields that `_collect_direct_metrics_supplement` takes. -/
def supplementKeys : List String :=
  ["max_connections", "uptime", "cache_hit_rate", "buffer_pool_hit_rate"]

/-- **`_collect_direct_metrics_supplement`**, from the status of the database; `none` where the
connection fails. -/
def collectDirectMetricsSupplement : Option (Data α) → Data α
  | none => ∅
  | some status => supplementKeys.foldl (fun supplement key =>
      match status.lookup key with
      | some value => supplement.insert key value
      | none => supplement) ∅

/-- A row of `datasource_metric` with the type `db_status`. -/
structure Snapshot (α : Type*) where
  data : Data α
  collectedAt : ℤ

/-- The datasource. -/
structure Datasource where
  id : ℕ
  dbType : Text

/-- A collection between its two transactions: what has been reported, the data of the newest snapshot,
and the time. -/
structure Collection (α : Type*) where
  metricData : Data α
  existing : Data α
  currentTime : ℤ

/-- `merged_data` as it is stored, with the supplement put over it. -/
def Collection.mergedData (u : Unicode) (datasource : Datasource) (c : Collection α)
    (status : Option (Data α)) : Data α :=
  (collectDirectMetricsSupplement status).entries.foldl (fun merged entry => merged.insert entry.1 entry.2)
    (cleanupObsoleteIntegrationKeys u datasource.dbType
      (mergeIntegrationMetricData c.existing c.metricData))

/-- The snapshots of the datasource, and the collections that are under way. -/
structure State (α : Type*) where
  snapshots : List (Snapshot α) := []
  collections : ℕ → Option (Collection α) := fun _ => none

/-- A row that the query for the newest snapshot may return, by its position; any position where there
is none. -/
def State.isNewest (s : State α) (position : ℕ) : Bool :=
  match s.snapshots[position]? with
  | some snapshot => s.snapshots.all fun other => other.collectedAt ≤ snapshot.collectedAt
  | none => s.snapshots.isEmpty

/-- The steps of `_execute_integration` that touch the snapshots. -/
inductive Label (α : Type*)
  /-- A collection whose integration has reported its metrics reads the newest snapshot. -/
  | load (i : ℕ) (currentTime : ℤ) (metrics : List (ReportedMetric α)) (newest : ℕ)
  /-- The status of the database has come, and the snapshot is stored. -/
  | store (i : ℕ) (status : Option (Data α))

/-- **The collections of a datasource**, any number of them at a time. -/
def step (u : Unicode) (datasource : Datasource) (s : State α) : Label α → Option (State α)
  | .load i currentTime metrics newest =>
    if (s.collections i).isNone && s.isNewest newest then
      let metricData := metricData datasource.id metrics
      -- nothing is stored of an empty report
      if metricData.entries = [] then some s
      else
        some { s with
          collections := Function.update s.collections i (some {
            metricData := metricData
            existing := (s.snapshots[newest]?.map Snapshot.data).getD ∅
            currentTime := currentTime }) }
    else none
  | .store i status =>
    match s.collections i with
    | none => none
    | some c => some {
        snapshots := s.snapshots ++ [{
          data := c.mergedData u datasource status, collectedAt := c.currentTime }]
        collections := Function.update s.collections i none }

/-! ## What is merged -/

variable {data : Data α} {key : String}

theorem lookup_mergeKey (data : Data α) (k key : String) (value : α) :
    (mergeKey data ⟨k, value⟩).lookup key =
      if key ≠ k then data.lookup key
      else if key ∈ integrationPreferredMetricKeys then some value
      else (data.lookup key).or (some value) := by
  unfold mergeKey setDefault
  by_cases hkey : key = k
  · subst hkey
    rw [if_neg (not_not.mpr rfl)]
    split
    · exact AList.lookup_insert data
    · split
      · rename_i hmem
        obtain ⟨old, hold⟩ := Option.isSome_iff_exists.mp (AList.lookup_isSome.mpr hmem)
        rw [hold]
        rfl
      · rename_i hmem
        rw [AList.lookup_insert, AList.lookup_eq_none.mpr hmem, Option.none_or]
  · rw [if_pos hkey]
    split
    · exact AList.lookup_insert_ne hkey
    · split
      · rfl
      · exact AList.lookup_insert_ne hkey

/-- **The merge**, by key: of the preferred keys the incoming value is taken, of the others the existing
one, as far as there is one. -/
theorem lookup_mergeIntegrationMetricData (existing incoming : Data α) (key : String) :
    (mergeIntegrationMetricData existing incoming).lookup key =
      if key ∈ integrationPreferredMetricKeys then (incoming.lookup key).or (existing.lookup key)
      else (existing.lookup key).or (incoming.lookup key) := by
  obtain ⟨entries, hnodup⟩ := incoming
  change (entries.foldl mergeKey existing).lookup key =
    if key ∈ integrationPreferredMetricKeys then (entries.dlookup key).or (existing.lookup key)
    else (existing.lookup key).or (entries.dlookup key)
  induction entries generalizing existing with
  | nil => simp
  | cons entry entries ih =>
    obtain ⟨k, value⟩ := entry
    obtain ⟨hfirst, hrest⟩ := List.nodupKeys_cons.mp hnodup
    rw [List.foldl_cons, ih _ hrest, lookup_mergeKey]
    by_cases hkey : key = k
    · subst hkey
      rw [List.dlookup_eq_none.mpr hfirst, List.dlookup_cons_eq]
      simp
    · rw [List.dlookup_cons_ne _ _ hkey, if_pos hkey]

/-- What is put over data, by key. -/
theorem lookup_foldl_insert (data added : Data α) (key : String) :
    (added.entries.foldl (fun merged entry => merged.insert entry.1 entry.2) data).lookup key =
      (added.lookup key).or (data.lookup key) := by
  obtain ⟨entries, hnodup⟩ := added
  change (entries.foldl _ data).lookup key = (entries.dlookup key).or (data.lookup key)
  induction entries generalizing data with
  | nil => rfl
  | cons entry entries ih =>
    obtain ⟨k, value⟩ := entry
    obtain ⟨hfirst, hrest⟩ := List.nodupKeys_cons.mp hnodup
    rw [List.foldl_cons, ih _ hrest]
    by_cases hkey : key = k
    · subst hkey
      rw [List.dlookup_eq_none.mpr hfirst, List.dlookup_cons_eq, AList.lookup_insert]
      rfl
    · rw [List.dlookup_cons_ne _ _ hkey, AList.lookup_insert_ne hkey]

/-- A merge has the keys of both sides. -/
theorem mem_mergeIntegrationMetricData {existing incoming : Data α} :
    key ∈ mergeIntegrationMetricData existing incoming ↔ key ∈ existing ∨ key ∈ incoming := by
  rw [← AList.lookup_isSome, lookup_mergeIntegrationMetricData, ← AList.lookup_isSome, ← AList.lookup_isSome]
  split <;> simp [or_comm]

/-- What is left of data without some keys. -/
theorem lookup_foldl_erase (keys : List String) (data : Data α) (key : String) :
    (keys.foldl (fun cleaned k => cleaned.erase k) data).lookup key =
      if key ∈ keys then none else data.lookup key := by
  induction keys generalizing data with
  | nil => rfl
  | cons k keys ih =>
    rw [List.foldl_cons, ih]
    by_cases hkey : key = k
    · subst hkey
      rw [if_pos List.mem_cons_self, AList.lookup_erase, ite_self]
    · rw [AList.lookup_erase_ne hkey]
      simp [hkey]

/-- The obsolete keys go where there is a canonical one. -/
theorem lookup_cleanupObsoleteIntegrationKeys (u : Unicode) (dbType : Text) (data : Data α) (key : String) :
    (cleanupObsoleteIntegrationKeys u dbType data).lookup key =
      if isMysqlFamily u (Text.lower u (Text.strip dbType)) = true ∧ key ∈ mysqlObsoleteConnectionKeys ∧
          ∃ k ∈ canonicalConnectionKeys, k ∈ data then none
      else data.lookup key := by
  unfold cleanupObsoleteIntegrationKeys
  dsimp only
  split
  · rename_i hfamily
    split
    · rename_i hcanonical
      have hcanonical' : ∃ k ∈ canonicalConnectionKeys, k ∈ data := by simpa using hcanonical
      rw [lookup_foldl_erase]
      by_cases hkey : key ∈ mysqlObsoleteConnectionKeys
      · rw [if_pos hkey, if_pos ⟨hfamily, hkey, hcanonical'⟩]
      · rw [if_neg hkey, if_neg fun h => hkey h.2.1]
    · rename_i hcanonical
      rw [if_neg fun h => hcanonical (by simpa using h.2.2)]
  · rename_i hfamily
    rw [if_neg fun h => hfamily h.1]

/-- The supplement has no other keys. -/
theorem not_mem_collectDirectMetricsSupplement (hkey : key ∉ supplementKeys) (status : Option (Data α)) :
    key ∉ collectDirectMetricsSupplement status := by
  cases status with
  | none => exact AList.notMem_empty key
  | some status =>
    refine List.foldlRecOn (motive := fun supplement : Data α => key ∉ supplement) supplementKeys _
      (AList.notMem_empty key) fun supplement hsupplement k hk => ?_
    split
    · rw [AList.mem_insert, not_or]
      exact ⟨fun heq => hkey (heq ▸ hk), hsupplement⟩
    · exact hsupplement

/-! ## Freshness -/

section Freshness

variable (u : Unicode) (datasource : Datasource)

/-- A key that the collection removes as an obsolete one. -/
def Cleaned (c : Collection α) (key : String) : Prop :=
  isMysqlFamily u (Text.lower u (Text.strip datasource.dbType)) = true ∧
    key ∈ mysqlObsoleteConnectionKeys ∧
    ∃ k ∈ canonicalConnectionKeys, k ∈ c.existing ∨ k ∈ c.metricData

/-- **The snapshot of a run has the values that the run reported**, but for the keys that the direct
collector overrides, and for the obsolete ones, which it has no value of. -/
def Fresh (s : State α) : Label α → Prop
  | .load .. => True
  | .store i status => ∀ c ∈ s.collections i, ∀ key, ∀ value ∈ c.metricData.lookup key,
      key ∉ collectDirectMetricsSupplement status →
      (c.mergedData u datasource status).lookup key = some value ∨
        Cleaned u datasource c key ∧ (c.mergedData u datasource status).lookup key = none

/-- The newest snapshot has no other value of a key that the run reports, if the key is not preferred. -/
def Unhindered (s : State α) : Label α → Prop
  | .load .. => True
  | .store i status => ∀ c ∈ s.collections i, ∀ key, ∀ value ∈ c.metricData.lookup key,
      key ∉ collectDirectMetricsSupplement status → ¬ Cleaned u datasource c key →
      key ∉ integrationPreferredMetricKeys → ∀ old ∈ c.existing.lookup key, old = value

end Freshness

variable {u : Unicode} {datasource : Datasource}

/-- What is stored of a key that the direct collector leaves alone. -/
theorem Collection.lookup_mergedData (u : Unicode) (datasource : Datasource) (c : Collection α)
    {status : Option (Data α)}
    (hdirect : key ∉ collectDirectMetricsSupplement status) :
    (Cleaned u datasource c key → (c.mergedData u datasource status).lookup key = none) ∧
    (¬ Cleaned u datasource c key → (c.mergedData u datasource status).lookup key =
      (mergeIntegrationMetricData c.existing c.metricData).lookup key) := by
  rw [mergedData, lookup_foldl_insert, AList.lookup_eq_none.mpr hdirect, Option.none_or,
    lookup_cleanupObsoleteIntegrationKeys]
  simp only [mem_mergeIntegrationMetricData]
  exact ⟨fun h => if_pos h, fun h => if_neg h⟩

/-- **A collection is fresh just if no other value hinders it.** -/
theorem fresh_iff_unhindered (s : State α) (label : Label α) :
    Fresh u datasource s label ↔ Unhindered u datasource s label := by
  cases label with
  | load => exact Iff.rfl
  | store i status =>
    refine forall₂_congr fun c hc => forall₃_congr fun key value hvalue => forall_congr' fun hdirect => ?_
    obtain ⟨hcleaned, hkept⟩ := c.lookup_mergedData u datasource hdirect
    by_cases hclean : Cleaned u datasource c key
    · exact iff_of_true (.inr ⟨hclean, hcleaned hclean⟩) fun h => absurd hclean h
    · have hreported : c.metricData.lookup key = some value := hvalue
      simp only [hkept hclean, hclean, false_and, or_false, not_false_eq_true, true_implies]
      rw [lookup_mergeIntegrationMetricData, hreported]
      split
      · rename_i hpreferred
        exact iff_of_true rfl fun h => absurd hpreferred h
      · rename_i hpreferred
        cases hold : c.existing.lookup key with
        | none => simp
        | some old => simp [hpreferred]

/-- **The runs whose snapshots are fresh are the runs in which no older value hinders a collection.** -/
theorem runs_fresh_iff (s t : State α) (labels : List (Label α)) :
    Run (step u datasource) (Fresh u datasource) s labels t ↔
      Run (step u datasource) (Unhindered u datasource) s labels t :=
  ⟨Run.mono fun s label => (fresh_iff_unhindered s label).mp,
    Run.mono fun s label => (fresh_iff_unhindered s label).mpr⟩

/-! ## A value that stays -/

/-- A report of one metric. -/
def report (datasourceId : ℕ) (key : String) (value : α) : ReportedMetric α where
  datasourceId := some datasourceId
  metricName := some key
  metricValue := some value

/-- A datasource. -/
def sampleDatasource : Datasource where
  id := 1
  dbType := "mysql".toList

/-- Two runs one after another, up to the last step of the second one: 5 active connections are
reported, and then 7. -/
def twoRuns : List (Label ℤ) := [
  .load 0 0 [report 1 "connections_active" 5] 0, .store 0 none,
  .load 0 60 [report 1 "connections_active" 7] 0]

/-- A collection of 7 connections that stores 5. -/
def storesFive (c : Collection ℤ) : Bool :=
  c.metricData.lookup "connections_active" = some 7 ∧
    (c.mergedData .asciiOnly sampleDatasource none).lookup "connections_active" = some 5

/-- **The second run stores the value of the first one.** -/
theorem twoRuns_not_fresh :
    ∃ s, Run (step .asciiOnly sampleDatasource) Always {} twoRuns s ∧
      ¬ Fresh .asciiOnly sampleDatasource s (.store 0 none) := by
  have hreached : ∃ s, Run (step .asciiOnly sampleDatasource) Always {} twoRuns s ∧
      (s.collections 0).any storesFive = true := Run.exists_of_any (by decide)
  obtain ⟨s, hrun, hstale⟩ := hreached
  obtain ⟨c, hc, hvalues⟩ := (Option.any_eq_true _ _).mp hstale
  obtain ⟨hreported, hstored⟩ := of_decide_eq_true hvalues
  refine ⟨s, hrun, fun hfresh => ?_⟩
  obtain h | ⟨-, h⟩ := hfresh c hc "connections_active" 7 hreported (AList.notMem_empty _)
  · rw [hstored] at h
    cases h
  · rw [hstored] at h
    cases h

/-- A value that all snapshots have, and all collections have read. -/
structure Frozen (key : String) (value : α) (s : State α) : Prop where
  snapshots : ∀ snapshot ∈ s.snapshots, snapshot.data.lookup key = some value
  collections : ∀ i, ∀ c ∈ s.collections i, c.existing.lookup key = some value
  nonempty : s.snapshots ≠ []

/-- A step keeps it, whatever is reported. -/
theorem Frozen.step {value : α} {s t : State α} {label : Label α} (h : Frozen key value s)
    (hpreferred : key ∉ integrationPreferredMetricKeys) (hsupplement : key ∉ supplementKeys)
    (hobsolete : key ∉ mysqlObsoleteConnectionKeys) (hstep : Metrics.step u datasource s label = some t) :
    Frozen key value t := by
  cases label with
  | load i currentTime metrics newest =>
    simp only [Metrics.step] at hstep
    split at hstep
    · rename_i hguard
      split at hstep
      · cases hstep
        exact h
      · cases hstep
        refine ⟨h.snapshots, fun j c hc => ?_, h.nonempty⟩
        obtain ⟨rfl, hnew⟩ | ⟨-, hold⟩ := update_eq_some hc
        · cases hnew
          obtain ⟨snapshot, hsnapshot⟩ : ∃ snapshot, s.snapshots[newest]? = some snapshot := by
            refine Option.ne_none_iff_exists'.mp fun hnone => h.nonempty ?_
            rw [State.isNewest, hnone, Bool.and_eq_true] at hguard
            exact List.isEmpty_iff.mp hguard.2
          rw [hsnapshot]
          exact h.snapshots snapshot (List.mem_of_getElem? hsnapshot)
        · exact h.collections j c hold
    · cases hstep
  | store i status =>
    simp only [Metrics.step] at hstep
    split at hstep
    · cases hstep
    · rename_i c hc
      cases hstep
      refine ⟨fun snapshot hmem => ?_, fun j c' hc' => ?_, by simp⟩
      · obtain hold | hnew := List.mem_append.mp hmem
        · exact h.snapshots snapshot hold
        · rw [List.mem_singleton.mp hnew]
          have hkept := (c.lookup_mergedData u datasource
            (not_mem_collectDirectMetricsSupplement hsupplement status)).2 fun hclean => hobsolete hclean.2.1
          change (c.mergedData u datasource status).lookup key = some value
          rw [hkept, lookup_mergeIntegrationMetricData, if_neg hpreferred, h.collections i c hc]
          rfl
      · obtain ⟨-, hnew⟩ | ⟨-, hold⟩ := update_eq_some hc'
        · cases hnew
        · exact h.collections j c' hold

/-- **A value stays for ever**: as soon as all snapshots agree on a key that is not preferred, no later
report of it is stored. -/
theorem Frozen.run {value : α} {s t : State α} {labels : List (Label α)}
    (h : Frozen key value s) (hpreferred : key ∉ integrationPreferredMetricKeys)
    (hsupplement : key ∉ supplementKeys) (hobsolete : key ∉ mysqlObsoleteConnectionKeys)
    (hrun : Run (Metrics.step u datasource) Always s labels t) : Frozen key value t :=
  hrun.invariant (I := Frozen key value)
    (fun _ _ _ h _ hstep => h.step hpreferred hsupplement hobsolete hstep) h

end DBClaw.Metrics
