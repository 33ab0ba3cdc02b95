import DBClaw.Library.Runs
import DBClaw.Alerts.Collector

/-! # No lost trigger
What the checker emits starts an hour in which it stays silent, so `NoLostTrigger` asks that the
cycle ends with an unresolved alert for each emitted violation. A cycle with a failed connection
makes no alert of what it emits, a violation of the custom expression has no value and raises, and
the first violation that raises ends the cycle for the ones after it. `triggers_iff` says that these
are the only ways: a cycle loses no trigger if and only if each emitted violation has an unresolved
alert already or is processed (`Processed`). -/

namespace DBClaw.Alerts

open Runs

variable (env : Env) (cycle : Cycle)

/-! ## One candidate -/

/-- The candidate raises: it has no value, or its alert is new and creating it or starting its
inspection fails. -/
def raises (store : AlertStore) (c : Candidate) : Bool :=
  c.value.isNone || (! store.hasOpenAlert env.datasourceId c.alertType c.metricName &&
    cycle.failure c.alertType c.metricName ≠ .none)

/-- The candidate's alert is new and its row is committed. -/
def commits (store : AlertStore) (c : Candidate) : Bool :=
  c.value.isSome && ! store.hasOpenAlert env.datasourceId c.alertType c.metricName &&
    cycle.failure c.alertType c.metricName ≠ .beforeCommit

/-- A candidate of this kind comes in its turn: no candidate before it raises. -/
def reached (store : AlertStore) (kind : Candidate → Bool) : List Candidate → Bool
  | [] => false
  | c :: cs => kind c || (! raises env cycle store c && reached store kind cs)

/-- Moving the end of an event leaves the alerts alone. -/
@[simp] theorem updateActiveEventTime_alerts (store : AlertStore) (key : AggregationKey)
    (now : Time) : (store.updateActiveEventTime key now).alerts = store.alerts := by
  unfold AlertStore.updateActiveEventTime
  split <;> rfl

/-- **The alerts after `create_alert`**: the new one, unless its commit failed. -/
theorem createAlert_alerts (window : ℤ) (store : AlertStore) (draft : AlertDraft) (now : Time)
    (failure : Failure) :
    ∃ eventId, (store.createAlert window draft now failure).alerts =
      if failure = .beforeCommit then store.alerts
      else store.alerts ++ [{ store.newAlert draft now with eventId := eventId }] := by
  cases failure with
  | none => exact ⟨_, rfl⟩
  | beforeCommit => exact ⟨none, rfl⟩
  | afterCommit => exact ⟨none, rfl⟩
  | afterLink => exact ⟨_, rfl⟩

/-- **The alerts after one candidate**: its own is added when it commits. -/
theorem processCandidate_alerts (store : AlertStore) (c : Candidate) :
    (commits env cycle store c = false ∧
      (processCandidate env cycle store c).1.alerts = store.alerts) ∨
    (commits env cycle store c = true ∧ ∃ a : AlertMessage, a.datasourceId = env.datasourceId ∧
      a.alertType = c.alertType ∧ a.metricName = some c.metricName ∧ a.status = .active ∧
      (processCandidate env cycle store c).1.alerts = store.alerts ++ [a]) := by
  unfold processCandidate commits
  cases hvalue : c.value with
  | none => exact .inl ⟨rfl, rfl⟩
  | some value =>
    obtain ⟨eventId, hcreated⟩ := createAlert_alerts env.window store (c.draft env value) cycle.now
      (cycle.failure c.alertType c.metricName)
    cases hopen : store.hasOpenAlert env.datasourceId c.alertType c.metricName with
    | true => exact .inl ⟨by simp, by simp⟩
    | false =>
      by_cases hfail : cycle.failure c.alertType c.metricName = .beforeCommit
      · rw [if_pos hfail] at hcreated
        exact .inl ⟨by simp [hfail], hcreated⟩
      · rw [if_neg hfail] at hcreated
        exact .inr ⟨by simp [hfail], { store.newAlert (c.draft env value) cycle.now with
          eventId := eventId }, rfl, rfl, rfl, rfl, hcreated⟩

/-- Whether one candidate raises. -/
theorem processCandidate_raised (store : AlertStore) (c : Candidate) :
    (processCandidate env cycle store c).2 = raises env cycle store c := by
  unfold processCandidate raises
  cases hvalue : c.value with
  | none => rfl
  | some value =>
    cases store.hasOpenAlert env.datasourceId c.alertType c.metricName <;> simp

/-- After one candidate there is an unresolved alert for a metric if there was one, or if the
candidate's own was committed. -/
theorem processCandidate_hasUnresolved (store : AlertStore) (c : Candidate) (metricName : String) :
    (processCandidate env cycle store c).1.hasUnresolved env.datasourceId metricName =
      (store.hasUnresolved env.datasourceId metricName ||
        (commits env cycle store c && c.metricName == metricName)) := by
  obtain ⟨hcommits, halerts⟩ | ⟨hcommits, a, hds, -, hmetric, hstatus, halerts⟩ :=
    processCandidate_alerts env cycle store c
  · simp [AlertStore.hasUnresolved, halerts, hcommits]
  · rw [AlertStore.hasUnresolved, halerts, List.any_append, hcommits]
    simp [AlertStore.hasUnresolved, hds, hmetric, hstatus, Status.isOpen, Bool.beq_eq_decide_eq]

/-- One candidate does not change whether an alert of another type or metric is open. -/
theorem processCandidate_hasOpenAlert (store : AlertStore) (c : Candidate)
    (alertType metricName : String) (hne : (c.alertType, c.metricName) ≠ (alertType, metricName)) :
    (processCandidate env cycle store c).1.hasOpenAlert env.datasourceId alertType metricName =
      store.hasOpenAlert env.datasourceId alertType metricName := by
  obtain ⟨-, halerts⟩ | ⟨-, a, -, htype, hmetric, -, halerts⟩ :=
    processCandidate_alerts env cycle store c
  · simp [AlertStore.hasOpenAlert, AlertStore.openAlerts, halerts]
  · simp only [AlertStore.hasOpenAlert, AlertStore.openAlerts, halerts, List.filter_append,
      List.any_append, List.filter_cons, List.filter_nil]
    split
    · rename_i hfilter
      have htype' : c.alertType = alertType := htype ▸ (of_decide_eq_true hfilter).2.1
      have hmetric' : c.metricName ≠ metricName := fun h => hne (by rw [htype', h])
      simp [hmetric, hmetric']
    · simp

/-! ## All candidates -/

/-- The type and metric of a candidate, by which an alert of it is found to be open. -/
def Candidate.kind (c : Candidate) : String × String := (c.alertType, c.metricName)

/-- Candidates of other kinds raise after one candidate if and only if they did before. -/
theorem raises_processCandidate (store : AlertStore) {c x : Candidate} (hne : c.kind ≠ x.kind) :
    raises env cycle (processCandidate env cycle store c).1 x = raises env cycle store x := by
  rw [raises, raises, processCandidate_hasOpenAlert env cycle store c _ _ hne]

/-- Candidates of other kinds are committed after one candidate if and only if they were before. -/
theorem commits_processCandidate (store : AlertStore) {c x : Candidate} (hne : c.kind ≠ x.kind) :
    commits env cycle (processCandidate env cycle store c).1 x = commits env cycle store x := by
  rw [commits, commits, processCandidate_hasOpenAlert env cycle store c _ _ hne]

/-- **What is reached depends on the store before the first candidate alone.** -/
theorem reached_processCandidate (store : AlertStore) {c : Candidate} {cs : List Candidate}
    {f g : Candidate → Bool} (hne : ∀ x ∈ cs, c.kind ≠ x.kind)
    (hkind : ∀ x ∈ cs, f x = g x) :
    reached env cycle (processCandidate env cycle store c).1 f cs =
      reached env cycle store g cs := by
  induction cs with
  | nil => rfl
  | cons x cs ih =>
    rw [reached, reached, raises_processCandidate env cycle store (hne x List.mem_cons_self),
      hkind x List.mem_cons_self, ih (fun y hy => hne y (List.mem_cons_of_mem _ hy))
        (fun y hy => hkind y (List.mem_cons_of_mem _ hy))]

/-- **After all candidates there is an unresolved alert for a metric if and only if there was one, or
a candidate of that metric comes in its turn and is committed.** -/
theorem processCandidates_hasUnresolved (metricName : String) (cs : List Candidate)
    (hkinds : (cs.map Candidate.kind).Nodup) (store : AlertStore) :
    (processCandidates env cycle store cs).hasUnresolved env.datasourceId metricName =
      (store.hasUnresolved env.datasourceId metricName ||
        reached env cycle store (fun c => commits env cycle store c && c.metricName == metricName)
          cs) := by
  induction cs generalizing store with
  | nil => simp [processCandidates, reached]
  | cons c cs ih =>
    rw [List.map_cons, List.nodup_cons] at hkinds
    have hne : ∀ x ∈ cs, c.kind ≠ x.kind := fun x hx heq =>
      hkinds.1 (heq ▸ List.mem_map_of_mem hx)
    have hrest := reached_processCandidate env cycle store
      (f := fun x => commits env cycle (processCandidate env cycle store c).1 x &&
        x.metricName == metricName)
      (g := fun x => commits env cycle store x && x.metricName == metricName) hne
      fun x hx => by rw [commits_processCandidate env cycle store (hne x hx)]
    rw [processCandidates, reached]
    dsimp only
    rw [processCandidate_raised]
    cases hraise : raises env cycle store c with
    | true =>
      simp only [if_true, Bool.not_true, Bool.false_and, Bool.or_false]
      exact processCandidate_hasUnresolved env cycle store c metricName
    | false =>
      simp only [Bool.false_eq_true, if_false, Bool.not_false, Bool.true_and]
      rw [ih hkinds.2, processCandidate_hasUnresolved, hrest, Bool.or_assoc]

/-! ## A cycle -/

/-- The only candidate of a failed connection is its own. -/
theorem checkFailedConnection_candidates (s : State) :
    (checkFailedConnection env s cycle).candidates =
      if cycle.silenced then [] else [connectionCandidate] := by
  unfold checkFailedConnection
  dsimp only
  cases cycle.config with
  | none => rfl
  | some config =>
    dsimp only
    by_cases hempty : cycle.metrics = [] ∨ config.thresholdRules.entries = []
    · rw [if_pos hempty]
    · rw [if_neg hempty]

/-- The candidates of a working connection are the emitted violations, and then those of the
baselines. -/
theorem checkConnected_candidates (s : State) :
    ∃ baseline : List (Sigma fun _ : String => BaselineViolation), baseline.keys.Nodup ∧
      (checkConnected env s cycle).candidates =
        (checkConnected env s cycle).emitted.map Violation.candidate ++
          baseline.map fun entry => entry.2.candidate entry.1 := by
  unfold checkConnected
  dsimp only
  split
  · exact ⟨[], List.nodup_nil, rfl⟩
  · split
    · exact ⟨[], List.nodup_nil, rfl⟩
    · refine ⟨_, ?_, rfl⟩
      split
      · exact cycle.baselineViolations.nodupKeys
      · exact List.nodup_nil

/-- What a cycle emits comes from the checker, or is nothing. -/
theorem check_emitted (s : State) :
    (check env s cycle).emitted = [] ∨ ∃ rules,
      (check env s cycle).emitted =
        (checkThresholds env.python s.checker cycle.metrics rules cycle.now).2 := by
  unfold check checkFailedConnection checkConnected
  dsimp only
  split
  · split
    · exact .inl rfl
    · split
      · exact .inl rfl
      · exact .inr ⟨_, rfl⟩
  · split
    · exact .inl rfl
    · split
      · exact .inl rfl
      · exact .inr ⟨_, rfl⟩

/-- A cycle emits at most one violation for each metric. -/
theorem check_emitted_nodup (s : State) :
    ((check env s cycle).emitted.map (·.metricName)).Nodup := by
  obtain hnone | ⟨rules, hsome⟩ := check_emitted env cycle s
  · rw [hnone]
    exact List.nodup_nil
  · rw [hsome]
    exact (checkThresholds_emits env.python cycle.metrics cycle.now s.checker rules).1

/-- The candidates of a cycle are of different kinds. -/
theorem check_kinds (s : State) : ((check env s cycle).candidates.map Candidate.kind).Nodup := by
  have hemitted := check_emitted_nodup env cycle s
  unfold check at hemitted ⊢
  split
  · rw [checkFailedConnection_candidates]
    cases cycle.silenced
    · exact List.nodup_singleton _
    · exact List.nodup_nil
  · rename_i hconnected
    rw [if_neg hconnected] at hemitted
    obtain ⟨baseline, hkeys, hcandidates⟩ := checkConnected_candidates env cycle s
    rw [hcandidates, List.map_append, List.map_map, List.map_map]
    refine List.nodup_append.mpr ⟨?_, ?_, ?_⟩
    · exact List.Nodup.of_map Prod.snd (by rw [List.map_map]; exact hemitted)
    · exact List.Nodup.of_map Prod.snd (by rw [List.map_map]; exact hkeys)
    · intro x hx y hy
      obtain ⟨v, -, rfl⟩ := List.mem_map.mp hx
      obtain ⟨w, -, rfl⟩ := List.mem_map.mp hy
      have htype : "threshold_violation" ≠ "baseline_deviation" := by decide
      exact fun h => htype (Prod.mk.inj h).1

/-- **A cycle loses no trigger**: it ends with an unresolved alert for the metric of each violation
that the checker emitted in it. -/
def NoLostTrigger (s : State) : Label → Prop
  | .cycle cycle => ∀ v ∈ (check env s cycle).emitted,
    (collect env s cycle).store.hasUnresolved env.datasourceId v.metricName = true
  | .other _ => True

/-- **Each emitted violation is taken care of**: once the recoveries are made there is an unresolved
alert for its metric, or a candidate of its metric comes in its turn, has no open alert of its type
and is committed. -/
def Processed (s : State) : Label → Prop
  | .cycle cycle => ∀ v ∈ (check env s cycle).emitted,
    (check env s cycle).store.hasUnresolved env.datasourceId v.metricName = true ∨
    reached env cycle (check env s cycle).store
      (fun c => commits env cycle (check env s cycle).store c && c.metricName == v.metricName)
      (check env s cycle).candidates = true
  | .other _ => True

instance (s : State) : (label : Label) → Decidable (NoLostTrigger env s label)
  | .cycle _ => inferInstanceAs (Decidable (∀ _ ∈ _, _))
  | .other _ => .isTrue trivial

/-- **A step loses no trigger if and only if each emitted violation is taken care of.** -/
theorem noLostTrigger_iff (s : State) (label : Label) :
    NoLostTrigger env s label ↔ Processed env s label := by
  cases label with
  | other store => exact Iff.rfl
  | cycle cycle =>
    refine forall₂_congr fun v _ => ?_
    rw [collect, processCandidates_hasUnresolved env cycle v.metricName _ (check_kinds env cycle s),
      Bool.or_eq_true]

/-- **The runs without a lost trigger are the runs in which each emitted violation is taken care
of.** -/
theorem triggers_iff (s t : State) (labels : List Label) :
    Run (step env) (NoLostTrigger env) s labels t ↔ Run (step env) (Processed env) s labels t :=
  ⟨Run.mono fun s label => (noLostTrigger_iff env s label).mp,
    Run.mono fun s label => (noLostTrigger_iff env s label).mpr⟩

/-! ## Lost triggers -/

/-- Python without numbers in text, and with expressions that are always true. -/
def plainPython : Python where
  float _ := none
  evalIsTrue _ _ := true

/-- A datasource with the default aggregation window. -/
def datasourceEnv : Env where
  datasourceId := 1
  window := 5
  python := plainPython

/-- A rule that is violated at once by a value above 90. -/
def above90 : Rule where
  levels := some [{ severity := some .critical, threshold := some (.fin 90), duration := some 0 }]

/-- A cycle that collects a CPU and a disk usage of 99. -/
def busyCycle (rules : ThresholdRules) : Cycle where
  now := 0
  metrics := [("cpu_usage", .int 99), ("disk_usage", .int 99)]
  config := some { thresholdRules := rules }

/-- Rules for the CPU and the disk usage. -/
def busyRules : ThresholdRules :=
  ((∅ : ThresholdRules).insert "disk_usage" above90).insert "cpu_usage" above90

/-- The custom expression. -/
def expressionRules : ThresholdRules :=
  (∅ : ThresholdRules).insert "custom_expression"
    { expression := some "cpu_usage > 90".toList, duration := some 0 }

/-- **Triggers are lost** when the connection fails, when the custom expression is violated, and when
the alert of an earlier violation cannot be created. -/
theorem busyCycle_loses :
    ¬ NoLostTrigger datasourceEnv {}
      (.cycle { busyCycle busyRules with connectionFailed := true }) ∧
    ¬ NoLostTrigger datasourceEnv {} (.cycle (busyCycle expressionRules)) ∧
    ¬ NoLostTrigger datasourceEnv {} (.cycle { busyCycle busyRules with
      failure := fun _ metricName =>
        if metricName = "cpu_usage" then .beforeCommit else .none }) := by
  with_unfolding_all decide

end DBClaw.Alerts
