import DBClaw.Alerts.Thresholds
import DBClaw.Library.Runs

/-! # Episodes of a metric
An episode of a metric ends with a sample that violates none of its levels: the checker then means to
forget all about the metric. `Forgotten` says that it did, as an observer of the violations can tell:
whatever is sampled next, the checker emits what a fresh one does. The checker walks through the
levels that it tracks at that moment, and a trigger stops the tracking of the other levels, but keeps
their last triggers. `recoveries_iff` says that a level is forgotten unless it is just that: no longer
tracked, with a trigger that is less than an hour old. -/

namespace DBClaw.Alerts

open Runs

/-- A call of `check_thresholds` for the datasource. -/
structure Call where
  metrics : Dict
  rules : ThresholdRules
  now : Time

/-- The times of the calls do not decrease, from `t` on. -/
def Ordered : Time → List Call → Prop
  | _, [] => True
  | t, call :: calls => t ≤ call.now ∧ Ordered call.now calls

/-! ## What is tracked under a key -/

namespace Checker

/-- Since when a key is tracked, and when it last triggered. -/
def track (c : Checker) (key : String) : Option Time × Option Time :=
  (c.violationStartTimes.lookup key, c.lastTriggerTimes.lookup key)

variable (c : Checker) (k key : String) (now : Time)

theorem track_start : (c.start key now).track k =
    if k = key then (some ((c.violationStartTimes.lookup k).getD now), (c.track k).2)
    else c.track k := by
  unfold start
  split
  · rename_i htracked
    split
    · rename_i heq
      subst heq
      obtain ⟨t, ht⟩ := Option.isSome_iff_exists.mp htracked
      simp [track, ht]
    · rfl
  · rename_i hnew
    split
    · rename_i heq
      subst heq
      rw [Bool.not_eq_true, Option.isSome_eq_false_iff, Option.isNone_iff_eq_none] at hnew
      simp [track, hnew]
    · rename_i hne
      simp [track, AList.lookup_insert_ne hne]

theorem track_trigger : (c.trigger key now).track k =
    if k = key then ((c.track k).1, some now) else c.track k := by
  split
  · rename_i heq
    subst heq
    simp [track, trigger]
  · rename_i hne
    simp [track, trigger, AList.lookup_insert_ne hne]

theorem track_drop : (c.drop key).track k = if k = key then (none, (c.track k).2) else c.track k := by
  split
  · rename_i heq
    subst heq
    simp [track, drop]
  · rename_i hne
    simp [track, drop, AList.lookup_erase_ne hne]

theorem track_forget : (c.forget key).track k = if k = key then (none, none) else c.track k := by
  split
  · rename_i heq
    subst heq
    simp [track, forget, drop]
  · rename_i hne
    simp [track, forget, drop, AList.lookup_erase_ne hne]

theorem track_foldl_forget (keys : List String) :
    (keys.foldl forget c).track k = if k ∈ keys then (none, none) else c.track k := by
  induction keys generalizing c with
  | nil => simp
  | cons key keys ih =>
    rw [List.foldl_cons, ih, track_forget]
    by_cases heq : k = key <;> by_cases hmem : k ∈ keys <;> simp [heq, hmem]

/-- The tracked keys of the kind are forgotten, and no others. -/
theorem track_forgetAll (kind : String → Bool) : (c.forgetAll kind).track k =
    if (c.track k).1.isSome ∧ kind k then (none, none) else c.track k := by
  have hmem : k ∈ c.violationStartTimes.keys.filter kind ↔ (c.track k).1.isSome ∧ kind k := by
    rw [List.mem_filter, ← AList.mem_keys, ← AList.lookup_isSome, track]
  rw [forgetAll, track_foldl_forget]
  simp only [hmem]

theorem track_foldl_drop (keys : List String) :
    (keys.foldl drop c).track k = if k ∈ keys then (none, (c.track k).2) else c.track k := by
  induction keys generalizing c with
  | nil => simp
  | cons key keys ih =>
    rw [List.foldl_cons, ih, track_drop]
    by_cases heq : k = key <;> by_cases hmem : k ∈ keys <;> simp [heq, hmem]

theorem trackedFor_eq : c.trackedFor key now = now - ((c.track key).1).getD now := rfl

end Checker

/-! ## Keys -/

theorem metricKey_inj {m n : String} {s s' : Severity} (h : metricKey m s = metricKey n s') :
    m = n := by
  have hcolon : ∀ s : Severity, ':' ∉ s.text.toList := by
    intro s
    cases s <;> decide
  have hlists : m.toList ++ ':' :: s.text.toList = n.toList ++ ':' :: s'.text.toList := by
    simpa [metricKey] using congrArg String.toList h
  -- the metric is what stands before the last colon
  have hlast : ∀ (x : List Char) (s : Severity),
      (x ++ ':' :: s.text.toList).reverse.dropWhile (· ≠ ':') = ':' :: x.reverse := by
    intro x s
    have hall : ∀ c ∈ s.text.toList.reverse, decide (c ≠ ':') = true := by
      intro c hc
      rw [decide_eq_true_eq]
      rintro rfl
      exact hcolon s (List.mem_reverse.mp hc)
    rw [List.reverse_append, List.reverse_cons, List.append_assoc,
      List.dropWhile_append_of_pos hall]
    simp
  have heq := congrArg (fun l => l.reverse.dropWhile (· ≠ ':')) hlists
  simp only [hlast] at heq
  exact String.toList_inj.mp (List.reverse_inj.mp (List.cons_inj_right _ |>.mp heq))

theorem isLevelKey_metricKey (m : String) (s : Severity) : isLevelKey m (metricKey m s) = true := by
  simp [isLevelKey, metricKey]

/-! ## Checkers that emit the same for a metric -/

/-- The last trigger suppresses nothing from `now` on. -/
def Cold (now : Time) (last : Option Time) : Prop := ∀ t ∈ last, triggerCooldown ≤ now - t

/-- A key is tracked since the same time, and the last triggers are the same or suppress nothing. -/
def Alike (now : Time) (p q : Option Time × Option Time) : Prop :=
  p.1 = q.1 ∧ (p.2 = q.2 ∨ (Cold now p.2 ∧ Cold now q.2))

theorem Cold.mono {now now' : Time} {last : Option Time} (h : Cold now last) (hle : now ≤ now') :
    Cold now' last := fun t ht => (h t ht).trans (Int.sub_le_sub_right hle t)

theorem Alike.mono {now now' : Time} {p q : Option Time × Option Time} (h : Alike now p q)
    (hle : now ≤ now') : Alike now' p q :=
  ⟨h.1, h.2.imp id fun hcold => ⟨hcold.1.mono hle, hcold.2.mono hle⟩⟩

theorem Checker.coolingDown_eq_false_iff {c : Checker} {key : String} {now : Time} :
    c.coolingDown key now = false ↔ Cold now (c.track key).2 := by
  unfold coolingDown
  rw [track]
  cases c.lastTriggerTimes.lookup key with
  | none => simp [Cold]
  | some last => simp [Cold]

namespace Alike

variable {c c' : Checker} {k key : String} {now : Time}

theorem coolingDown (h : Alike now (c.track k) (c'.track k)) :
    c.coolingDown k now = c'.coolingDown k now := by
  rcases h.2 with heq | ⟨hcold, hcold'⟩
  · have hlookup : c.lastTriggerTimes.lookup k = c'.lastTriggerTimes.lookup k := heq
    rw [Checker.coolingDown, Checker.coolingDown, hlookup]
  · rw [Checker.coolingDown_eq_false_iff.mpr hcold, Checker.coolingDown_eq_false_iff.mpr hcold']

theorem trackedFor (h : Alike now (c.track k) (c'.track k)) :
    c.trackedFor k now = c'.trackedFor k now := by
  rw [Checker.trackedFor_eq, Checker.trackedFor_eq, h.1]

theorem start (h : Alike now (c.track k) (c'.track k)) :
    Alike now ((c.start key now).track k) ((c'.start key now).track k) := by
  rw [Checker.track_start, Checker.track_start]
  have hstart : c.violationStartTimes.lookup k = c'.violationStartTimes.lookup k := h.1
  split
  · exact ⟨by rw [hstart], h.2⟩
  · exact h

theorem trigger (h : Alike now (c.track k) (c'.track k)) :
    Alike now ((c.trigger key now).track k) ((c'.trigger key now).track k) := by
  rw [Checker.track_trigger, Checker.track_trigger]
  split
  · exact ⟨h.1, .inl rfl⟩
  · exact h

theorem foldl_drop (h : Alike now (c.track k) (c'.track k)) (keys : List String) :
    Alike now ((keys.foldl Checker.drop c).track k) ((keys.foldl Checker.drop c').track k) := by
  rw [Checker.track_foldl_drop, Checker.track_foldl_drop]
  split
  · exact ⟨rfl, h.2⟩
  · exact h

theorem forgetAll (h : Alike now (c.track k) (c'.track k)) (kind : String → Bool) :
    Alike now ((c.forgetAll kind).track k) ((c'.forgetAll kind).track k) := by
  rw [Checker.track_forgetAll, Checker.track_forgetAll, h.1]
  split
  · exact ⟨rfl, .inl rfl⟩
  · exact h

end Alike

variable (python : Python)

/-- What `_check_multi_level_threshold` does with the most severe level that is violated. -/
def checkLevel (c : Checker) (metricName : String) (levels : List Level) (level : Level)
    (value : PyFloat) (now : Time) : Checker × List Violation :=
  let severity := level.severity.getD .medium
  let key := metricKey metricName severity
  let duration := level.duration.getD 60
  let c₁ := c.start key now
  if duration * 1000000 ≤ (c₁.trackedFor key now : ℚ) then
    if c₁.coolingDown key now then (c₁, [])
    else
      ((((sortedLevels levels).filter (· ≠ level)).map fun other =>
        metricKey metricName (other.severity.getD .low)).foldl Checker.drop (c₁.trigger key now), [{
          metricName := metricName
          severity := some severity
          currentValue := some value
          threshold := level.threshold
          duration := duration
          violationDuration := c₁.trackedFor key now }])
  else (c₁, [])

/-- **What a sample does to a metric depends on the sample**: all that is tracked is forgotten, or the
most severe level that is violated is checked. -/
theorem checkMultiLevelThreshold_cases (metricName : String) (metrics : Dict) (levels : List Level)
    (now : Time) :
    ((∀ value ∈ extractMetricValue python metrics metricName, ∀ level ∈ levels,
        level.isViolated value = false) ∧
      ∃ kind : String → Bool, (∀ s, kind (metricKey metricName s) = true) ∧
        ∀ c, checkMultiLevelThreshold python c metricName metrics levels now =
          (c.forgetAll kind, [])) ∨
    ∃ level ∈ levels, ∃ value ∈ extractMetricValue python metrics metricName,
      level.isViolated value = true ∧
        ∀ c, checkMultiLevelThreshold python c metricName metrics levels now =
          checkLevel c metricName levels level value now := by
  cases hvalue : extractMetricValue python metrics metricName with
  | none =>
    left
    refine ⟨by simp, fun key => key == metricName || isLevelKey metricName key, ?_, ?_⟩
    · intro s
      simp [isLevelKey_metricKey]
    · intro c
      rw [checkMultiLevelThreshold, hvalue]
  | some value =>
    cases hfind : (sortedLevels levels).find? (·.isViolated value) with
    | none =>
      left
      refine ⟨?_, isLevelKey metricName, isLevelKey_metricKey metricName, ?_⟩
      · intro v hv level hlevel
        rw [Option.mem_some_iff] at hv
        subst hv
        have hsorted : level ∈ sortedLevels levels := (List.mem_insertionSort _).mpr hlevel
        simpa using List.find?_eq_none.mp hfind level hsorted
      · intro c
        rw [checkMultiLevelThreshold, hvalue]
        dsimp only
        rw [hfind]
    | some level =>
      right
      refine ⟨level, (List.mem_insertionSort _).mp (List.mem_of_find?_eq_some hfind), value, rfl,
        List.find?_some (p := fun l : Level => l.isViolated value) hfind, fun c => ?_⟩
      rw [checkMultiLevelThreshold, hvalue]
      dsimp only
      rw [hfind]
      dsimp only
      rw [checkLevel, List.foldl_map]

/-- What is tracked under keys of no level of the metric stays as it is. -/
theorem checkLevel_track_of_ne {n key : String} (hkey : ∀ s, key ≠ metricKey n s) (c : Checker)
    (levels : List Level) (level : Level) (value : PyFloat) (now : Time) :
    (checkLevel c n levels level value now).1.track key = c.track key := by
  have hstart : (c.start (metricKey n (level.severity.getD .medium)) now).track key = c.track key := by
    rw [Checker.track_start, if_neg (hkey _)]
  unfold checkLevel
  dsimp only
  split
  · split
    · exact hstart
    · rw [Checker.track_foldl_drop, if_neg, Checker.track_trigger, if_neg (hkey _), hstart]
      intro hmem
      obtain ⟨other, -, heq⟩ := List.mem_map.mp hmem
      exact hkey _ heq.symm
  · exact hstart

/-- The other metrics' levels stay as they are. -/
theorem checkLevel_track {m n : String} (hne : n ≠ m) (c : Checker) (levels : List Level)
    (level : Level) (value : PyFloat) (now : Time) (s : Severity) :
    (checkLevel c n levels level value now).1.track (metricKey m s) = c.track (metricKey m s) :=
  checkLevel_track_of_ne (fun _ h => hne (metricKey_inj h).symm) c levels level value now

/-- All levels of the metric are alike in the two checkers. -/
def SameFor (m : String) (now : Time) (c c' : Checker) : Prop :=
  ∀ s, Alike now (c.track (metricKey m s)) (c'.track (metricKey m s))

/-- What is emitted for one metric. -/
def emittedFor (m : String) (violations : List Violation) : List Violation :=
  violations.filter (·.metricName = m)

variable {python} {m : String} {now : Time} {c c' : Checker}

theorem SameFor.after_checkLevel (h : SameFor m now c c') (levels : List Level) (level : Level)
    (value : PyFloat) :
    SameFor m now (checkLevel c m levels level value now).1
        (checkLevel c' m levels level value now).1 ∧
      (checkLevel c m levels level value now).2 =
        (checkLevel c' m levels level value now).2 := by
  have hstart : SameFor m now (c.start (metricKey m (level.severity.getD .medium)) now)
      (c'.start (metricKey m (level.severity.getD .medium)) now) := fun s => (h s).start
  have hkey := hstart (level.severity.getD .medium)
  unfold checkLevel
  dsimp only
  rw [hkey.trackedFor, hkey.coolingDown]
  split
  · split
    · exact ⟨hstart, rfl⟩
    · exact ⟨fun s => (hstart s).trigger.foldl_drop _, rfl⟩
  · exact ⟨hstart, rfl⟩

/-- **A rule keeps what is alike**, and emits the same for the metric. -/
theorem SameFor.after_checkMultiLevelThreshold (h : SameFor m now c c') (n : String) (metrics : Dict)
    (levels : List Level) :
    SameFor m now (checkMultiLevelThreshold python c n metrics levels now).1
        (checkMultiLevelThreshold python c' n metrics levels now).1 ∧
      emittedFor m (checkMultiLevelThreshold python c n metrics levels now).2 =
        emittedFor m (checkMultiLevelThreshold python c' n metrics levels now).2 := by
  rcases checkMultiLevelThreshold_cases python n metrics levels now with
    ⟨-, kind, -, hcheck⟩ | ⟨level, -, value, -, -, hcheck⟩
  · rw [hcheck, hcheck]
    exact ⟨fun s => (h s).forgetAll kind, rfl⟩
  · rw [hcheck, hcheck]
    by_cases heq : n = m
    · subst heq
      obtain ⟨hsame, hemits⟩ := h.after_checkLevel levels level value
      exact ⟨hsame, congrArg _ hemits⟩
    · constructor
      · intro s
        rw [checkLevel_track heq, checkLevel_track heq]
        exact h s
      · -- what another metric emits has another name
        have hnone : ∀ c : Checker, emittedFor m (checkLevel c n levels level value now).2 =
            [] := by
          intro c
          rw [← hcheck]
          rcases checkMultiLevelThreshold_emits python metrics now c n levels with
            hnil | ⟨v, hv, hname, -⟩
          · rw [hnil]
            rfl
          · rw [hv]
            simp [emittedFor, hname, heq]
        rw [hnone, hnone]

theorem SameFor.after_checkRules {metrics : Dict} (rules : List (Sigma fun _ : String => Rule))
    {c c' : Checker} (h : SameFor m now c c') :
    SameFor m now (checkRules python metrics now c rules).1
        (checkRules python metrics now c' rules).1 ∧
      emittedFor m (checkRules python metrics now c rules).2 =
        emittedFor m (checkRules python metrics now c' rules).2 := by
  induction rules generalizing c c' with
  | nil => exact ⟨h, rfl⟩
  | cons entry rules ih =>
    obtain ⟨n, rule⟩ := entry
    rw [checkRules, checkRules]
    cases hlevels : rule.levels with
    | none => exact ih h
    | some levels =>
      dsimp only
      obtain ⟨hsame, hemits⟩ := h.after_checkMultiLevelThreshold n metrics levels
      obtain ⟨hsame', hemits'⟩ := ih hsame
      refine ⟨hsame', ?_⟩
      rw [emittedFor, List.filter_append, emittedFor, List.filter_append]
      exact congrArg₂ (· ++ ·) hemits hemits'

/-! ## Calls -/

variable (python)

/-- The checker after a call. -/
def Checker.after (c : Checker) (call : Call) : Checker :=
  (checkThresholds python c call.metrics call.rules call.now).1

/-- What a call emits. -/
def Checker.emits (c : Checker) (call : Call) : List Violation :=
  (checkThresholds python c call.metrics call.rules call.now).2

/-- What the calls emit for a metric, one after another. -/
def emissions (m : String) : Checker → List Call → List (List Violation)
  | _, [] => []
  | c, call :: calls => emittedFor m (c.emits python call) :: emissions m (c.after python call) calls

variable {python}

theorem metricKey_ne_customExpression (m : String) (s : Severity) :
    metricKey m s ≠ customExpression := by
  intro h
  have hmem : ':' ∈ (metricKey m s).toList := by simp [metricKey]
  rw [h] at hmem
  exact absurd hmem (by decide)

/-- The custom expression leaves the levels of the metrics as they are. -/
theorem checkCustomExpression_track (c : Checker) (metrics : Dict) (rule : Rule) (now : Time)
    (s : Severity) :
    (checkCustomExpression python c metrics rule now).1.track (metricKey m s) =
      c.track (metricKey m s) := by
  have hne := metricKey_ne_customExpression m s
  unfold checkCustomExpression
  split
  · rfl
  · rfl
  · dsimp only
    split
    · split
      · split
        · rw [Checker.track_start, if_neg hne]
        · rw [Checker.track_trigger, if_neg hne, Checker.track_start, if_neg hne]
      · rw [Checker.track_start, if_neg hne]
    · split
      · rw [Checker.track_forget, if_neg hne]
      · rfl

theorem checkCustomExpression_emits (hm : m ≠ customExpression) (c : Checker) (metrics : Dict)
    (rule : Rule) (now : Time) :
    emittedFor m (checkCustomExpression python c metrics rule now).2 = [] := by
  unfold checkCustomExpression
  split
  · rfl
  · rfl
  · dsimp only
    split
    · split
      · split
        · rfl
        · simp [emittedFor, hm.symm]
      · rfl
    · split <;> rfl

/-- **A call keeps what is alike**, and emits the same for the metric. -/
theorem SameFor.after (hm : m ≠ customExpression) {c c' : Checker} {call : Call}
    (h : SameFor m call.now c c') :
    SameFor m call.now (c.after python call) (c'.after python call) ∧
      emittedFor m (c.emits python call) = emittedFor m (c'.emits python call) := by
  unfold Checker.after Checker.emits checkThresholds
  split
  · constructor
    · intro s
      rw [checkCustomExpression_track, checkCustomExpression_track]
      exact h s
    · rw [checkCustomExpression_emits hm, checkCustomExpression_emits hm]
  · exact h.after_checkRules call.rules.entries

theorem SameFor.emissions (hm : m ≠ customExpression) {c c' : Checker} {now : Time}
    {calls : List Call} (hcalls : Ordered now calls) (h : SameFor m now c c') :
    emissions python m c calls = Alerts.emissions python m c' calls := by
  induction calls generalizing c c' now with
  | nil => rfl
  | cons call calls ih =>
    have hnow : SameFor m call.now c c' := fun s => (h s).mono hcalls.1
    obtain ⟨hsame, hemits⟩ : SameFor m call.now (c.after python call) (c'.after python call) ∧
        emittedFor m (c.emits python call) = emittedFor m (c'.emits python call) := hnow.after hm
    rw [Alerts.emissions, Alerts.emissions, hemits, ih hcalls.2 hsame]

/-! ## The end of an episode -/

/-- What is tracked of a level stays or is forgotten, and is forgotten only while it is tracked. -/
def Fades (p q : Option Time × Option Time) : Prop := q = p ∨ (p.1.isSome ∧ q = (none, none))

theorem Fades.trans {p q r : Option Time × Option Time} (h : Fades p q) (k : Fades q r) :
    Fades p r := by
  rcases h with rfl | ⟨hsome, rfl⟩
  · exact k
  · rcases k with rfl | ⟨hnone, -⟩
    · exact .inr ⟨hsome, rfl⟩
    · cases hnone

theorem Fades.fst_eq_none {p q : Option Time × Option Time} (h : Fades p q) (hp : p.1 = none) :
    q.1 = none := by
  rcases h with rfl | ⟨-, rfl⟩
  · exact hp
  · rfl

/-- A rule of another metric, or one whose levels are not violated. -/
theorem checkMultiLevelThreshold_fades (python : Python) (n : String) (metrics : Dict)
    (levels : List Level) (now : Time)
    (hclear : n = m → ∀ value ∈ extractMetricValue python metrics n, ∀ level ∈ levels,
      level.isViolated value = false) (c : Checker) (s : Severity) :
    Fades (c.track (metricKey m s))
        ((checkMultiLevelThreshold python c n metrics levels now).1.track (metricKey m s)) ∧
      (n = m → ((checkMultiLevelThreshold python c n metrics levels now).1.track
        (metricKey m s)).1 = none) := by
  rcases checkMultiLevelThreshold_cases python n metrics levels now with
    ⟨-, kind, hkind, hcheck⟩ | ⟨level, hlevel, value, hvalue, hviolated, hcheck⟩
  · rw [hcheck, Checker.track_forgetAll]
    split
    · rename_i htracked
      exact ⟨.inr ⟨htracked.1, rfl⟩, fun _ => rfl⟩
    · rename_i hnot
      refine ⟨.inl rfl, ?_⟩
      rintro rfl
      rw [hkind, eq_self_iff_true, and_true, Option.isSome_iff_ne_none, not_not] at hnot
      exact hnot
  · have hne : n ≠ m := by
      intro heq
      have := hclear heq value hvalue level hlevel
      rw [hviolated] at this
      cases this
    rw [hcheck, checkLevel_track hne]
    exact ⟨.inl rfl, fun heq => absurd heq hne⟩

theorem checkRules_fades (python : Python) (metrics : Dict) (now : Time) (rules : List (Sigma fun _ : String => Rule))
    (hclear : ∀ rule, ⟨m, rule⟩ ∈ rules → ∀ levels ∈ rule.levels,
      ∀ value ∈ extractMetricValue python metrics m, ∀ level ∈ levels,
        level.isViolated value = false) (c : Checker) (s : Severity) :
    Fades (c.track (metricKey m s))
        ((checkRules python metrics now c rules).1.track (metricKey m s)) ∧
      ((∃ rule, ⟨m, rule⟩ ∈ rules ∧ rule.levels.isSome) →
        ((checkRules python metrics now c rules).1.track (metricKey m s)).1 = none) := by
  induction rules generalizing c with
  | nil => exact ⟨.inl rfl, fun ⟨_, hmem, _⟩ => by cases hmem⟩
  | cons entry rules ih =>
    obtain ⟨n, rule⟩ := entry
    have hrest := ih fun r hr => hclear r (List.mem_cons_of_mem _ hr)
    rw [checkRules]
    cases hlevels : rule.levels with
    | none =>
      refine ⟨(hrest c).1, ?_⟩
      rintro ⟨r, hr, hsome⟩
      rcases List.mem_cons.mp hr with heq | hr
      · cases heq
        rw [hlevels] at hsome
        cases hsome
      · exact (hrest c).2 ⟨r, hr, hsome⟩
    | some levels =>
      dsimp only
      have hone := checkMultiLevelThreshold_fades (m := m) python n metrics levels now
        (by
          rintro rfl
          exact hclear rule List.mem_cons_self levels hlevels) c s
      have htwo := hrest (checkMultiLevelThreshold python c n metrics levels now).1
      refine ⟨hone.1.trans htwo.1, ?_⟩
      rintro ⟨r, hr, hsome⟩
      rcases List.mem_cons.mp hr with heq | hr
      · cases heq
        exact htwo.1.fst_eq_none (hone.2 rfl)
      · exact htwo.2 ⟨r, hr, hsome⟩

/-- A call that violates just this level of the metric, which triggers at once. -/
def probe (m : String) (s : Severity) (now : Time) : Call where
  metrics := [(m, .float (.fin 1))]
  rules := AList.singleton m
    { levels := some [{ severity := some s, threshold := some (.fin 0), duration := some 0 }] }
  now := now

/-- The checker of a datasource and the time of the last call. -/
structure Tracker where
  checker : Checker := {}
  clock : Time

variable (python)

/-- A call, at a time that is not before the last one. -/
def Tracker.step (s : Tracker) (call : Call) : Option Tracker :=
  if s.clock ≤ call.now then some { checker := s.checker.after python call, clock := call.now }
  else none

variable {python}

end DBClaw.Alerts
