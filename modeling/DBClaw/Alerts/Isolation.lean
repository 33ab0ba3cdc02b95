import DBClaw.Alerts.Episodes
import Mathlib

/-! # Isolation of metrics
The checker keeps the clocks of all metrics of a datasource in one table, and finds those of one metric by the start
of their keys. A metric whose name goes on after the name of another one and a colon is taken for that one, and so is a
metric whose level has the other one's name for its key. `isolation_iff` says that there is no other way in which one
metric can disturb another. -/

namespace DBClaw.Alerts

open Runs

/-- A metric of a datasource, or its custom expression. -/
abbrev Pair := ℕ × String

/-- The tracking data of the datasources. -/
abbrev Trackers := ℕ → Checker

/-- A rule is checked for a sample of a datasource, or the datasource is cleared. -/
inductive TrackerEvent
  | check (pair : Pair) (metrics : Dict) (rule : Rule) (now : Time)
  | clearDatasource (datasourceId : ℕ)

/-- The event is one of the metric. -/
def TrackerEvent.Concerns (pair : Pair) : TrackerEvent → Prop
  | .check checked _ _ _ => checked = pair
  | .clearDatasource datasourceId => datasourceId = pair.1

instance (pair : Pair) : DecidablePred (TrackerEvent.Concerns pair)
  | .check checked _ _ _ => inferInstanceAs (Decidable (checked = pair))
  | .clearDatasource datasourceId => inferInstanceAs (Decidable (datasourceId = pair.1))

variable (python : Python)

/-- One rule is checked, as `check_thresholds` does it. -/
def checkRule (c : Checker) (metricName : String) (metrics : Dict) (rule : Rule) (now : Time) :
    Checker × List Violation :=
  if metricName = customExpression then checkCustomExpression python c metrics rule now
  else match rule.levels with
    | none => (c, [])
    | some levels => checkMultiLevelThreshold python c metricName metrics levels now

/-- The tracking data after an event. -/
def Trackers.after (s : Trackers) : TrackerEvent → Trackers
  | .check pair metrics rule now =>
    Function.update s pair.1 (checkRule python (s pair.1) pair.2 metrics rule now).1
  | .clearDatasource datasourceId => Function.update s datasourceId {}

/-- The violations of a metric that an event emits. -/
def Trackers.emits (pair : Pair) (s : Trackers) : TrackerEvent → List Violation
  | .check checked metrics rule now =>
    if checked.1 = pair.1 then emittedFor pair.2 (checkRule python (s checked.1) checked.2 metrics rule now).2 else []
  | .clearDatasource _ => []

/-- An event happens. -/
def Trackers.step (s : Trackers) (e : TrackerEvent) : Option Trackers := some (s.after python e)

/-- The tracking data after some events. -/
def Trackers.afterAll (s : Trackers) (es : List TrackerEvent) : Trackers := es.foldl (Trackers.after python) s

/-- The violations of a metric that the events emit, one after another. -/
def Trackers.emitsAll (pair : Pair) : Trackers → List TrackerEvent → List Violation
  | _, [] => []
  | s, e :: es => s.emits python pair e ++ Trackers.emitsAll pair (s.after python e) es

/-! ## A call of `check_thresholds` -/

/-- The events of the rules of a call. -/
def ruleEvents (datasourceId : ℕ) (metrics : Dict) (now : Time) (entries : List (Sigma fun _ : String => Rule)) :
    List TrackerEvent :=
  entries.map fun entry => .check (datasourceId, entry.1) metrics entry.2 now

/-- The events of a call. -/
def Call.events (datasourceId : ℕ) (call : Call) : List TrackerEvent :=
  match call.rules.lookup customExpression with
  | some rule => [.check (datasourceId, customExpression) call.metrics rule call.now]
  | none => ruleEvents datasourceId call.metrics call.now call.rules.entries

variable {python} {s t : Trackers} {pair : Pair} {m n : String} {c c' : Checker} {metrics : Dict} {rule : Rule} {now : Time}

theorem checkRule_of_ne (hm : m ≠ customExpression) : checkRule python c m metrics rule now =
    match rule.levels with
    | none => (c, [])
    | some levels => checkMultiLevelThreshold python c m metrics levels now := if_neg hm

theorem checkRule_custom : checkRule python c customExpression metrics rule now =
    checkCustomExpression python c metrics rule now := if_pos rfl

theorem emitsAll_rules (entries : List (Sigma fun _ : String => Rule)) (hkeys : customExpression ∉ entries.keys)
    (s : Trackers) :
    s.afterAll python (ruleEvents pair.1 metrics now entries) =
        Function.update s pair.1 (checkRules python metrics now (s pair.1) entries).1 ∧
      s.emitsAll python pair (ruleEvents pair.1 metrics now entries) =
        emittedFor pair.2 (checkRules python metrics now (s pair.1) entries).2 := by
  induction entries generalizing s with
  | nil => exact ⟨(Function.update_eq_self pair.1 s).symm, rfl⟩
  | cons entry entries ih =>
    obtain ⟨m, rule⟩ := entry
    rw [List.keys_cons, List.mem_cons, not_or] at hkeys
    obtain ⟨hafter, hemits⟩ := ih hkeys.2 (s.after python (.check (pair.1, m) metrics rule now))
    rw [ruleEvents, List.map_cons, Trackers.afterAll, List.foldl_cons, Trackers.emitsAll, ← ruleEvents, hemits,
      ← Trackers.afterAll, hafter, Trackers.emits, if_pos rfl]
    simp only [Trackers.after, Function.update_self, Function.update_idem]
    rw [checkRule_of_ne (Ne.symm hkeys.1), checkRules]
    cases rule.levels with
    | none => exact ⟨rfl, rfl⟩
    | some levels =>
      refine ⟨rfl, ?_⟩
      rw [emittedFor, emittedFor, emittedFor, ← List.filter_append]

/-- **A call is the sequence of its events.** -/
theorem events_of_call (s : Trackers) (call : Call) :
    s.afterAll python (call.events pair.1) = Function.update s pair.1 ((s pair.1).after python call) ∧
      s.emitsAll python pair (call.events pair.1) = emittedFor pair.2 ((s pair.1).emits python call) := by
  unfold Call.events Checker.after Checker.emits checkThresholds
  cases hcustom : call.rules.lookup customExpression with
  | some rule =>
    dsimp only [Trackers.afterAll, List.foldl_cons, List.foldl_nil, Trackers.emitsAll, Trackers.after, Trackers.emits]
    rw [checkRule_custom, if_pos rfl, List.append_nil]
    exact ⟨rfl, rfl⟩
  | none =>
    have hkeys : customExpression ∉ call.rules.entries.keys := AList.lookup_eq_none.mp hcustom
    exact emitsAll_rules call.rules.entries hkeys s

/-! ## Isolation -/

/-- The key is one of the metric's. -/
def Owns (m key : String) : Prop := (∃ severity, key = metricKey m severity) ∨ m = customExpression ∧ key = m

/-- **An event leaves the other metrics alone**: the start times and the last triggers of a metric that the event is
not about stay as they are. -/
def Isolates (python : Python) (s : Trackers) (e : TrackerEvent) : Prop :=
  ∀ pair, ¬ e.Concerns pair → ∀ key, Owns pair.2 key → (s.after python e pair.1).track key = (s pair.1).track key

/-- The sample violates no level of the rule. -/
def IsClear (python : Python) (m : String) (metrics : Dict) (levels : List Level) : Prop :=
  ∀ value ∈ extractMetricValue python metrics m, ∀ level ∈ levels, level.isViolated value = false

/-- **The metrics are told apart**: when a sample of a metric violates none of its levels, no clock of another metric
runs whose name goes on after that of the metric and a colon; and when there is no sample of the metric, none runs whose
key is the metric's name. -/
def ToldApart (python : Python) (s : Trackers) : TrackerEvent → Prop
  | .check (datasourceId, m) metrics rule _ =>
    m ≠ customExpression → ∀ levels ∈ rule.levels, IsClear python m metrics levels →
      ∀ n ≠ m, ∀ severity, ((s datasourceId).track (metricKey n severity)).1.isSome →
        ¬ m.toList ++ [':'] <+: n.toList ∧
          (extractMetricValue python metrics m = none → m ≠ metricKey n severity)
  | .clearDatasource _ => True

/-! ## Keys of other metrics -/

/-- **A level's key is taken for one of the metric** just if the level is one, or if the name of its metric goes on after
that of the metric and a colon. -/
theorem isLevelKey_metricKey_iff (severity : Severity) :
    isLevelKey m (metricKey n severity) = true ↔ m = n ∨ m.toList ++ [':'] <+: n.toList := by
  have hcolon : ':' ∉ severity.text.toList := by cases severity <;> decide
  have hkey : (metricKey n severity).toList = (n.toList ++ [':']) ++ severity.text.toList := by simp [metricKey]
  have heq : m.toList = n.toList ↔ m = n := String.toList_inj
  rw [isLevelKey, List.isPrefixOf_iff_prefix, hkey, ← heq]
  constructor
  · intro h
    rcases List.prefix_or_prefix_of_prefix h (List.prefix_append _ _) with hlong | hshort
    · exact (List.prefix_concat_iff.mp hlong).imp List.append_cancel_right id
    · rcases List.prefix_concat_iff.mp hshort with heq | ⟨rest, hrest⟩
      · exact .inl (List.append_cancel_right heq).symm
      · -- a severity has no colon in it
        rw [← hrest, List.append_assoc, List.prefix_append_right_inj] at h
        exact absurd (h.subset (List.mem_append_right _ List.mem_cons_self)) hcolon
  · rintro (h | h)
    · rw [h]
      exact List.prefix_append _ _
    · exact (h.trans (List.prefix_append _ _)).trans (List.prefix_append _ _)

/-- The key of the custom expression is taken for no metric's. -/
theorem isLevelKey_customExpression (m : String) : isLevelKey m customExpression = false := by
  rw [← Bool.not_eq_true, isLevelKey, List.isPrefixOf_iff_prefix]
  intro h
  exact absurd (h.subset (List.mem_append_right _ List.mem_cons_self)) (by decide)

/-! ## One rule -/

/-- The keys that are forgotten when a sample of the metric violates none of its levels. -/
def clearedKind (python : Python) (m : String) (metrics : Dict) (key : String) : Bool :=
  ((extractMetricValue python metrics m).isNone && key == m) || isLevelKey m key

theorem check_of_isClear {levels : List Level} (h : IsClear python m metrics levels) (c : Checker) (now : Time) :
    checkMultiLevelThreshold python c m metrics levels now = (c.forgetAll (clearedKind python m metrics), []) := by
  unfold checkMultiLevelThreshold clearedKind
  cases hvalue : extractMetricValue python metrics m with
  | none => rfl
  | some value =>
    have hfind : (sortedLevels levels).find? (·.isViolated value) = none := by
      rw [List.find?_eq_none]
      intro level hlevel
      rw [h value hvalue level ((List.mem_insertionSort _).mp hlevel)]
      exact Bool.false_ne_true
    dsimp only
    rw [hfind]
    rfl

theorem track_check_of_not_isClear {levels : List Level} (h : ¬ IsClear python m metrics levels) (hn : n ≠ m)
    (c : Checker) (now : Time) {key : String} (hkey : Owns n key) :
    (checkMultiLevelThreshold python c m metrics levels now).1.track key = c.track key := by
  rcases checkMultiLevelThreshold_cases python m metrics levels now with ⟨hclear, -⟩ | ⟨level, -, value, -, -, hcheck⟩
  · exact absurd hclear h
  · rw [hcheck]
    refine checkLevel_track_of_ne (fun severity heq => ?_) c levels level value now
    rcases hkey with ⟨other, rfl⟩ | ⟨rfl, rfl⟩
    · exact hn (metricKey_inj heq)
    · exact metricKey_ne_customExpression m severity heq.symm

/-- **What a sample that violates none of a metric's levels does to another metric.** -/
theorem track_check_of_isClear {levels : List Level} (h : IsClear python m metrics levels) (c : Checker) (now : Time)
    (key : String) : (checkMultiLevelThreshold python c m metrics levels now).1.track key =
      if (c.track key).1.isSome ∧ clearedKind python m metrics key then (none, none) else c.track key := by
  rw [check_of_isClear h, Checker.track_forgetAll]

theorem clearedKind_metricKey_iff (hn : n ≠ m) (severity : Severity) :
    clearedKind python m metrics (metricKey n severity) = true ↔
      m.toList ++ [':'] <+: n.toList ∨ (extractMetricValue python metrics m = none ∧ m = metricKey n severity) := by
  rw [clearedKind, Bool.or_eq_true, isLevelKey_metricKey_iff, Bool.and_eq_true, Option.isNone_iff_eq_none, beq_iff_eq]
  constructor
  · rintro (⟨hnone, heq⟩ | rfl | h)
    · exact .inr ⟨hnone, heq.symm⟩
    · exact absurd rfl hn
    · exact .inl h
  · rintro (h | ⟨hnone, heq⟩)
    · exact .inr (.inr h)
    · exact .inl ⟨hnone, heq.symm⟩

/-- The custom expression is kept. -/
theorem clearedKind_customExpression (hm : m ≠ customExpression) : clearedKind python m metrics customExpression = false := by
  rw [clearedKind, isLevelKey_customExpression, Bool.or_false, beq_eq_false_iff_ne.mpr hm.symm, Bool.and_false]

/-- **When a rule leaves the other metrics alone.** -/
theorem checkRule_track_iff (c : Checker) (rule : Rule) (now : Time) :
    (∀ n ≠ m, ∀ key, Owns n key → (checkRule python c m metrics rule now).1.track key = c.track key) ↔
      (m ≠ customExpression → ∀ levels ∈ rule.levels, IsClear python m metrics levels →
        ∀ n ≠ m, ∀ severity, (c.track (metricKey n severity)).1.isSome →
          ¬ m.toList ++ [':'] <+: n.toList ∧
            (extractMetricValue python metrics m = none → m ≠ metricKey n severity)) := by
  constructor
  · intro h hm levels hlevels hclear n hn severity hrunning
    have hkept := h n hn (metricKey n severity) (.inl ⟨severity, rfl⟩)
    rw [checkRule_of_ne hm, Option.mem_def.mp hlevels] at hkept
    dsimp only at hkept
    rw [track_check_of_isClear hclear] at hkept
    have hkind : ¬ clearedKind python m metrics (metricKey n severity) = true := by
      intro hkind
      rw [if_pos ⟨hrunning, hkind⟩] at hkept
      rw [← hkept] at hrunning
      cases hrunning
    rw [clearedKind_metricKey_iff hn, not_or] at hkind
    exact ⟨hkind.1, fun hnone heq => hkind.2 ⟨hnone, heq⟩⟩
  · intro h n hn key hkey
    by_cases hm : m = customExpression
    · subst hm
      rcases hkey with ⟨severity, rfl⟩ | ⟨heq, -⟩
      · rw [checkRule_custom]
        exact checkCustomExpression_track c metrics rule now severity
      · exact absurd heq hn
    · rw [checkRule_of_ne hm]
      cases hlevels : rule.levels with
      | none => rfl
      | some levels =>
        by_cases hclear : IsClear python m metrics levels
        · dsimp only
          rw [track_check_of_isClear hclear, if_neg]
          rintro ⟨hrunning, hkind⟩
          rcases hkey with ⟨severity, rfl⟩ | ⟨rfl, rfl⟩
          · obtain ⟨hlong, hsame⟩ := h hm levels hlevels hclear n hn severity hrunning
            rcases (clearedKind_metricKey_iff hn severity).mp hkind with hstart | ⟨hnone, heq⟩
            · exact hlong hstart
            · exact hsame hnone heq
          · rw [clearedKind_customExpression hm] at hkind
            cases hkind
        · exact track_check_of_not_isClear hclear hn c now hkey

/-- **An event leaves the other metrics alone just if the metrics are told apart.** -/
theorem isolates_iff (s : Trackers) (e : TrackerEvent) : Isolates python s e ↔ ToldApart python s e := by
  cases e with
  | clearDatasource datasourceId =>
    refine ⟨fun _ => trivial, fun _ pair hpair key _ => ?_⟩
    rw [Trackers.after, Function.update_of_ne (Ne.symm hpair)]
  | check checked metrics rule now =>
    obtain ⟨datasourceId, m⟩ := checked
    rw [ToldApart, ← checkRule_track_iff (s datasourceId) rule now]
    constructor
    · intro h n hn key hkey
      have hkept := h (datasourceId, n) (fun heq => hn (Prod.ext_iff.mp heq).2.symm) key hkey
      rwa [Trackers.after, Function.update_self] at hkept
    · intro h pair hpair key hkey
      by_cases hdatasource : pair.1 = datasourceId
      · rw [Trackers.after, hdatasource, Function.update_self]
        exact h pair.2 (fun heq => hpair (Prod.ext hdatasource.symm heq.symm)) key hkey
      · rw [Trackers.after, Function.update_of_ne hdatasource]

/-! ## What is emitted -/

/-- The metric is tracked alike in two checkers. -/
def TrackedAlike (m : String) (c c' : Checker) : Prop := ∀ key, Owns m key → c.track key = c'.track key

theorem track_start_congr {k key : String} (h : c.track k = c'.track k) (now : Time) :
    (c.start key now).track k = (c'.start key now).track k := by
  have hlookup : c.violationStartTimes.lookup k = c'.violationStartTimes.lookup k := congrArg Prod.fst h
  rw [Checker.track_start, Checker.track_start, h, hlookup]

theorem trackedFor_congr {key : String} (h : c.track key = c'.track key) (now : Time) :
    c.trackedFor key now = c'.trackedFor key now := by
  rw [Checker.trackedFor_eq, Checker.trackedFor_eq, h]

theorem coolingDown_congr {key : String} (h : c.track key = c'.track key) (now : Time) :
    c.coolingDown key now = c'.coolingDown key now := by
  have hlookup : c.lastTriggerTimes.lookup key = c'.lastTriggerTimes.lookup key := congrArg Prod.snd h
  rw [Checker.coolingDown, Checker.coolingDown, hlookup]

/-- A level is checked alike where its metric is tracked alike. -/
theorem TrackedAlike.checkLevel (h : TrackedAlike m c c') (levels : List Level) (level : Level) (value : PyFloat)
    (now : Time) :
    TrackedAlike m (checkLevel c m levels level value now).1 (checkLevel c' m levels level value now).1 ∧
      (checkLevel c m levels level value now).2 = (checkLevel c' m levels level value now).2 := by
  have hstart : TrackedAlike m (c.start (metricKey m (level.severity.getD .medium)) now)
      (c'.start (metricKey m (level.severity.getD .medium)) now) :=
    fun key hkey => track_start_congr (h key hkey) now
  have hlevel := hstart (metricKey m (level.severity.getD .medium)) (.inl ⟨_, rfl⟩)
  unfold Alerts.checkLevel
  dsimp only
  rw [trackedFor_congr hlevel, coolingDown_congr hlevel]
  split
  · split
    · exact ⟨hstart, rfl⟩
    · refine ⟨fun key hkey => ?_, rfl⟩
      rw [Checker.track_foldl_drop, Checker.track_foldl_drop, Checker.track_trigger, Checker.track_trigger,
        hstart key hkey]
  · exact ⟨hstart, rfl⟩

/-- The custom expression is checked alike where it is tracked alike. -/
theorem TrackedAlike.checkCustomExpression (h : TrackedAlike customExpression c c') (metrics : Dict) (rule : Rule)
    (now : Time) :
    TrackedAlike customExpression (checkCustomExpression python c metrics rule now).1
        (checkCustomExpression python c' metrics rule now).1 ∧
      (checkCustomExpression python c metrics rule now).2 = (checkCustomExpression python c' metrics rule now).2 := by
  have hstart : TrackedAlike customExpression (c.start customExpression now) (c'.start customExpression now) :=
    fun key hkey => track_start_congr (h key hkey) now
  have hown : Owns customExpression customExpression := .inr ⟨rfl, rfl⟩
  have hlevel := hstart customExpression hown
  have hrunning : c.violationStartTimes.lookup customExpression = c'.violationStartTimes.lookup customExpression :=
    congrArg Prod.fst (h customExpression hown)
  unfold Alerts.checkCustomExpression
  split
  · exact ⟨h, rfl⟩
  · exact ⟨h, rfl⟩
  · dsimp only
    rw [trackedFor_congr hlevel, coolingDown_congr hlevel, hrunning]
    split
    · split
      · split
        · exact ⟨hstart, rfl⟩
        · refine ⟨fun key hkey => ?_, rfl⟩
          rw [Checker.track_trigger, Checker.track_trigger, hstart key hkey]
      · exact ⟨hstart, rfl⟩
    · split
      · refine ⟨fun key hkey => ?_, rfl⟩
        rw [Checker.track_forget, Checker.track_forget, h key hkey]
      · exact ⟨h, rfl⟩

/-- A rule is checked alike where its metric is tracked alike. -/
theorem TrackedAlike.checkRule (h : TrackedAlike m c c') (metrics : Dict) (rule : Rule) (now : Time) :
    TrackedAlike m (checkRule python c m metrics rule now).1 (checkRule python c' m metrics rule now).1 ∧
      (checkRule python c m metrics rule now).2 = (checkRule python c' m metrics rule now).2 := by
  by_cases hm : m = customExpression
  · subst hm
    rw [checkRule_custom, checkRule_custom]
    exact h.checkCustomExpression metrics rule now
  · rw [checkRule_of_ne hm, checkRule_of_ne hm]
    cases rule.levels with
    | none => exact ⟨h, rfl⟩
    | some levels =>
      dsimp only
      by_cases hclear : IsClear python m metrics levels
      · rw [check_of_isClear hclear, check_of_isClear hclear]
        refine ⟨fun key hkey => ?_, rfl⟩
        rw [Checker.track_forgetAll, Checker.track_forgetAll, h key hkey]
      · rcases checkMultiLevelThreshold_cases python m metrics levels now with
          ⟨hall, -⟩ | ⟨level, -, value, -, -, hcheck⟩
        · exact absurd hall hclear
        · rw [hcheck, hcheck]
          exact h.checkLevel levels level value now

/-- The name has no colon in it. -/
def IsPlain (m : String) : Prop := ':' ∉ m.toList

/-- Every rule that is checked is one of a metric with a plain name. -/
def TrackerEvent.IsPlain : TrackerEvent → Prop
  | .check pair _ _ _ => Alerts.IsPlain pair.2
  | .clearDatasource _ => True

/-- Only metrics with plain names have clocks that run. -/
def PlainClocks (s : Trackers) : Prop :=
  ∀ datasourceId n severity, ((s datasourceId).track (metricKey n severity)).1.isSome → IsPlain n

theorem PlainClocks.toldApart (h : PlainClocks s) {e : TrackerEvent} (he : e.IsPlain) : ToldApart python s e := by
  cases e with
  | clearDatasource datasourceId => exact trivial
  | check pair metrics rule now =>
    intro _ levels _ _ n _ severity hrunning
    constructor
    · intro hstart
      exact h pair.1 n severity hrunning (hstart.subset (List.mem_append_right _ List.mem_cons_self))
    · intro _ heq
      have hcolon : ':' ∈ (metricKey n severity).toList := by simp [metricKey]
      exact he (heq ▸ hcolon)

theorem PlainClocks.after (h : PlainClocks s) {e : TrackerEvent} (he : e.IsPlain) : PlainClocks (s.after python e) := by
  intro datasourceId n severity hrunning
  have hisolates := (@isolates_iff python s e).mpr (h.toldApart he)
  by_cases hconcerns : e.Concerns (datasourceId, n)
  · cases e with
    | clearDatasource cleared =>
      obtain rfl : cleared = datasourceId := hconcerns
      rw [Trackers.after, Function.update_self] at hrunning
      cases hrunning
    | check pair metrics rule now =>
      obtain rfl : pair = (datasourceId, n) := hconcerns
      exact he
  · rw [hisolates (datasourceId, n) hconcerns (metricKey n severity) (.inl ⟨severity, rfl⟩)] at hrunning
    exact h datasourceId n severity hrunning

end DBClaw.Alerts
