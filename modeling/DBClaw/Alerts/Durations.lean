import DBClaw.Alerts.Episodes

/-! # Durations
A level of a metric has a duration: a violation is to be emitted once the threshold has been exceeded
that long without a break. The checker keeps a clock for each level, starts it with the first sample
whose most severe violated level it is, and stops the clocks of a metric when no level at all is
violated. A sample below one level and above another leaves the clock of the first one running, so
that the violation it leads to has a break in it. `violations_continuous` says that there is no other
way. -/

namespace DBClaw.Alerts

open Runs

/-- What is measured at one moment. -/
structure Sample where
  time : Time
  metrics : Dict

/-- The check of a sample. -/
def Sample.call (rules : ThresholdRules) (x : Sample) : Call where
  metrics := x.metrics
  rules := rules
  now := x.time

/-- The checker of a datasource and the samples that it has checked, the newest first. -/
structure Monitor where
  checker : Checker := {}
  past : List Sample := []

variable (python : Python) (rules : ThresholdRules)

/-- A sample is checked, at a time that is not before the last one. -/
def Monitor.step (s : Monitor) (x : Sample) : Option Monitor :=
  if ∀ y ∈ s.past.head?, y.time ≤ x.time then
    some { checker := s.checker.after python (x.call rules), past := x :: s.past }
  else none

/-! ## Samples that exceed a level -/

/-- The sample has a value of the metric above the level's threshold. -/
def Exceeds (m : String) (level : Level) (x : Sample) : Prop :=
  ∃ value ∈ extractMetricValue python x.metrics m, level.isViolated value = true

/-- How long a level must be exceeded, in microseconds. -/
def Level.required (level : Level) : ℚ := level.duration.getD 60 * 1000000

/-- **A level is exceeded for its duration**: every sample of the last so many seconds exceeds it, and
so does every sample from one on that is at least as old. The newest sample comes first. -/
def ContinuouslyExceeded (m : String) (level : Level) (now : Time) (history : List Sample) : Prop :=
  (∀ x ∈ history, ((now - x.time : ℤ) : ℚ) ≤ level.required → Exceeds python m level x) ∧
    ∃ run, run <+: history ∧ (∀ x ∈ run, Exceeds python m level x) ∧
      ∃ x ∈ run, level.required ≤ ((now - x.time : ℤ) : ℚ)

/-- **Duration means continuously exceeded**: each violation that the sample makes the checker emit
with a severity is one of a level of that severity that is exceeded for its duration. -/
def Continuous (s : Monitor) (x : Sample) : Prop :=
  ∀ v ∈ s.checker.emits python (x.call rules), ∀ severity ∈ v.severity,
    ∃ rule ∈ rules.lookup v.metricName, ∃ levels ∈ rule.levels, ∃ level ∈ levels,
      level.severity.getD .medium = severity ∧ level.threshold = v.threshold ∧
        level.duration.getD 60 = v.duration ∧
        ContinuouslyExceeded python v.metricName level x.time (x :: s.past)

/-! ## Clocks -/

/-- The key under which the clock of a level is kept. -/
def Level.key (m : String) (level : Level) : String := metricKey m (level.severity.getD .medium)

/-- The keys whose clocks a trigger of `matched` stops. -/
def droppedKeys (m : String) (levels : List Level) (matched : Level) : List String :=
  ((sortedLevels levels).filter (· ≠ matched)).map fun other =>
    metricKey m (other.severity.getD .low)

/-- The level triggers when a sample matches it. -/
def Level.Triggers (c : Checker) (m : String) (level : Level) (now : Time) : Prop :=
  level.required ≤ ((c.start (level.key m) now).trackedFor (level.key m) now : ℚ) ∧
    (c.start (level.key m) now).coolingDown (level.key m) now = false

/-- **The clock tells the truth**: it was started by a sample from which on all samples exceed the
level, and the samples before that one are older. -/
def ExceededSince (m : String) (level : Level) (start : Time) (history : List Sample) : Prop :=
  ∃ run earlier, history = run ++ earlier ∧ (∀ x ∈ run, Exceeds python m level x) ∧
    (∃ x ∈ run, x.time = start) ∧ ∀ x ∈ earlier, x.time < start

/-- The running clocks of a metric's levels tell the truth. -/
def Truthful (history : List Sample) (c : Checker) (m : String) (levels : List Level) : Prop :=
  ∀ level ∈ levels, level.threshold.isSome → ∀ start ∈ (c.track (level.key m)).1,
    ExceededSince python m level start history

/-- **No clock runs on below its level**: a sample that violates some level of the metric, the most
severe one of which is `matched`, exceeds each level whose clock runs or is started, except where
`matched` triggers and stops that clock; and a clock is started by a sample that is newer than those
before it. -/
def SteadyRule (past : List Sample) (x : Sample) (c : Checker) (m : String) (levels : List Level) :
    Prop :=
  ∀ value ∈ extractMetricValue python x.metrics m,
    ∀ matched ∈ (sortedLevels levels).find? (·.isViolated value),
      ((c.track (matched.key m)).1 = none → ∀ y ∈ past, y.time < x.time) ∧
        ∀ level ∈ levels, level.threshold.isSome → level.isViolated value = false →
          ((c.track (level.key m)).1 = none ∧ level.key m ≠ matched.key m) ∨
            (matched.Triggers c m x.time ∧ level.key m ∈ droppedKeys m levels matched)

/-- The rules one after another, each for the checker that the rules before it leave. -/
def SteadyRules (past : List Sample) (x : Sample) :
    Checker → List (Sigma fun _ : String => Rule) → Prop
  | _, [] => True
  | c, ⟨m, rule⟩ :: rules =>
    match rule.levels with
    | none => SteadyRules past x c rules
    | some levels =>
      SteadyRule python past x c m levels ∧
        SteadyRules past x (checkMultiLevelThreshold python c m x.metrics levels x.time).1 rules

/-- No clock of the rules with levels runs on below its level; a custom expression is checked
alone. -/
def Steady (s : Monitor) (x : Sample) : Prop :=
  rules.lookup customExpression = none → SteadyRules python s.past x s.checker rules.entries

variable {python} {rules} {m : String} {level : Level} {past : List Sample} {x : Sample} {c : Checker}

/-- A clock that is right leads to violations that are: the level is exceeded for its duration once
the clock has run that long. -/
theorem ExceededSince.continuously {history : List Sample} {start now : Time}
    (h : ExceededSince python m level start history)
    (hlong : level.required ≤ ((now - start : ℤ) : ℚ)) :
    ContinuouslyExceeded python m level now history := by
  obtain ⟨run, earlier, rfl, hrun, ⟨x, hx, rfl⟩, hearlier⟩ := h
  refine ⟨?_, run, List.prefix_append run earlier, hrun, x, hx, hlong⟩
  intro y hy hlate
  rcases List.mem_append.mp hy with hy | hy
  · exact hrun y hy
  · -- a sample before the run is older than the duration
    have hlt := hearlier y hy
    have hle : ((now - y.time : ℤ) : ℚ) ≤ ((now - x.time : ℤ) : ℚ) := hlate.trans hlong
    rw [Int.cast_le] at hle
    exact absurd (Int.not_le.mpr hlt) (not_not.mpr (by omega))

/-- A sample that exceeds the level prolongs the run. -/
theorem ExceededSince.cons {start : Time} (h : ExceededSince python m level start past)
    (hx : Exceeds python m level x) : ExceededSince python m level start (x :: past) := by
  obtain ⟨run, earlier, rfl, hrun, ⟨y, hy, hstart⟩, hearlier⟩ := h
  refine ⟨x :: run, earlier, rfl, ?_, ⟨y, List.mem_cons_of_mem _ hy, hstart⟩, hearlier⟩
  exact List.forall_mem_cons.mpr ⟨hx, hrun⟩

/-- A sample that exceeds the level starts a run. -/
theorem ExceededSince.new (hx : Exceeds python m level x) (hpast : ∀ y ∈ past, y.time < x.time) :
    ExceededSince python m level x.time (x :: past) := by
  refine ⟨[x], past, rfl, ?_, ⟨x, List.mem_singleton_self x, rfl⟩, hpast⟩
  intro y hy
  rwa [List.mem_singleton.mp hy]

/-! ## One metric -/

/-- What a clock reads after a sample that matches a level. -/
theorem tracked_of_checkLevel {levels : List Level} {matched : Level} {value : PyFloat} {now start : Time}
    {key : String} (h : ((checkLevel c m levels matched value now).1.track key).1 = some start) :
    ((c.start (matched.key m) now).track key).1 = some start ∧
      ¬ (matched.Triggers c m now ∧ key ∈ droppedKeys m levels matched) := by
  unfold checkLevel at h
  dsimp only at h
  split at h
  · split at h
    · rename_i hcool
      refine ⟨h, fun htriggers => ?_⟩
      have hcold := htriggers.1.2
      rw [Level.key, hcool] at hcold
      cases hcold
    · rw [Checker.track_foldl_drop] at h
      split at h
      · cases h
      · rename_i hkept
        refine ⟨?_, fun htriggers => hkept htriggers.2⟩
        rw [Checker.track_trigger] at h
        split at h
        · exact h
        · exact h
  · rename_i hshort
    exact ⟨h, fun htriggers => hshort htriggers.1.1⟩

/-- What a sample that matches a level emits, if it does. -/
theorem emitted_of_checkLevel {levels : List Level} {matched : Level} {value : PyFloat} {now : Time}
    {v : Violation} (h : v ∈ (checkLevel c m levels matched value now).2) :
    v.metricName = m ∧ v.severity = some (matched.severity.getD .medium) ∧
      v.threshold = matched.threshold ∧ v.duration = matched.duration.getD 60 ∧
      matched.required ≤ ((c.start (matched.key m) now).trackedFor (matched.key m) now : ℚ) := by
  unfold checkLevel at h
  dsimp only at h
  split at h
  · rename_i hlong
    split at h
    · cases h
    · rw [List.mem_singleton.mp h]
      exact ⟨rfl, rfl, rfl, rfl, hlong⟩
  · cases h

/-- A sample that matches a level is checked for that level. -/
theorem checkMultiLevelThreshold_of_find {metrics : Dict} {levels : List Level} {value : PyFloat}
    {matched : Level} (hvalue : extractMetricValue python metrics m = some value)
    (hfind : (sortedLevels levels).find? (·.isViolated value) = some matched) (c : Checker) (now : Time) :
    checkMultiLevelThreshold python c m metrics levels now =
      checkLevel c m levels matched value now := by
  rw [checkMultiLevelThreshold, hvalue]
  dsimp only
  rw [hfind]
  dsimp only
  rw [checkLevel, List.foldl_map]

/-- A sample violates no level of the metric, or it matches one. -/
theorem clear_or_matches (python : Python) (m : String) (levels : List Level) (metrics : Dict) :
    (∀ value ∈ extractMetricValue python metrics m, ∀ level ∈ levels, level.isViolated value = false) ∨
      ∃ value ∈ extractMetricValue python metrics m,
        ∃ matched ∈ (sortedLevels levels).find? (·.isViolated value),
          matched ∈ levels ∧ matched.isViolated value = true := by
  by_cases hclear : ∀ value ∈ extractMetricValue python metrics m, ∀ level ∈ levels,
      level.isViolated value = false
  · exact .inl hclear
  · right
    push Not at hclear
    obtain ⟨value, hvalue, level, hlevel, hviolated⟩ := hclear
    have hsome : ((sortedLevels levels).find? (·.isViolated value)).isSome := by
      rw [List.find?_isSome]
      exact ⟨level, (List.mem_insertionSort _).mpr hlevel, by simpa using hviolated⟩
    obtain ⟨matched, hmatched⟩ := Option.isSome_iff_exists.mp hsome
    exact ⟨value, hvalue, matched, hmatched,
      (List.mem_insertionSort _).mp (List.mem_of_find?_eq_some hmatched),
      List.find?_some (p := fun l : Level => l.isViolated value) hmatched⟩

/-- The clock of the level that a sample matches is right with that sample. -/
theorem Truthful.exceededSince_start {levels : List Level} (h : Truthful python past c m levels)
    (hlevel : level ∈ levels) (hthreshold : level.threshold.isSome)
    (hx : Exceeds python m level x) (hnew : (c.track (level.key m)).1 = none → ∀ y ∈ past, y.time < x.time) :
    ExceededSince python m level (((c.track (level.key m)).1).getD x.time) (x :: past) := by
  cases hstart : (c.track (level.key m)).1 with
  | none => exact .new hx (hnew hstart)
  | some start => exact (h level hlevel hthreshold start hstart).cons hx

/-- The clock that a sample that matches a level finds or starts. -/
theorem start_getD (m : String) (level : Level) (c : Checker) (now : Time) :
    ((c.start (level.key m) now).track (level.key m)).1 =
      some (((c.track (level.key m)).1).getD now) := by
  rw [Checker.track_start, if_pos rfl]
  rfl

/-- What the property says of a violation of one metric's levels. -/
def ContinuousLevel (python : Python) (x : Sample) (past : List Sample) (m : String)
    (levels : List Level) (v : Violation) : Prop :=
  ∃ level ∈ levels, some (level.severity.getD .medium) = v.severity ∧
    level.threshold = v.threshold ∧ level.duration.getD 60 = v.duration ∧
    ContinuouslyExceeded python m level x.time (x :: past)

/-- A sample that violates no level stops the clocks of the metric. -/
theorem Truthful.of_clear {levels : List Level}
    (hclear : ∀ value ∈ extractMetricValue python x.metrics m, ∀ level ∈ levels,
      level.isViolated value = false) (history : List Sample) (c : Checker) :
    Truthful python history (checkMultiLevelThreshold python c m x.metrics levels x.time).1 m levels ∧
      (checkMultiLevelThreshold python c m x.metrics levels x.time).2 = [] := by
  constructor
  · intro level _ _ start hstart
    have hnone := (checkMultiLevelThreshold_fades python m x.metrics levels x.time (fun _ => hclear) c
      (level.severity.getD .medium)).2 rfl
    rw [Level.key, hnone] at hstart
    cases hstart
  · obtain ⟨-, kind, -, hcheck⟩ | ⟨level, hlevel, value, hvalue, hviolated, -⟩ :=
      checkMultiLevelThreshold_cases python m x.metrics levels x.time
    · rw [hcheck]
    · rw [hclear value hvalue level hlevel] at hviolated
      cases hviolated

/-- A sample that matches a level leaves the clocks right, where none runs on below its level. -/
theorem Truthful.checkLevel {levels : List Level} (h : Truthful python past c m levels)
    {value : PyFloat} (hvalue : extractMetricValue python x.metrics m = some value) {matched : Level}
    (hnew : (c.track (matched.key m)).1 = none → ∀ y ∈ past, y.time < x.time)
    (hothers : ∀ level ∈ levels, level.threshold.isSome → level.isViolated value = false →
      ((c.track (level.key m)).1 = none ∧ level.key m ≠ matched.key m) ∨
        (matched.Triggers c m x.time ∧ level.key m ∈ droppedKeys m levels matched)) :
    Truthful python (x :: past) (checkLevel c m levels matched value x.time).1 m levels := by
  intro level hlevel hsome start hstart
  obtain ⟨hstart, hkept⟩ := tracked_of_checkLevel hstart
  have hx : Exceeds python m level x := by
    refine ⟨value, hvalue, ?_⟩
    by_contra hbelow
    obtain ⟨hnone, hne⟩ | hstopped := hothers level hlevel hsome (Bool.not_eq_true _ ▸ hbelow)
    · rw [Checker.track_start, if_neg hne, hnone] at hstart
      cases hstart
    · exact hkept hstopped
  rw [Checker.track_start] at hstart
  split at hstart
  · -- the clock that the sample finds or starts
    rename_i hkey
    rw [← Option.some.inj hstart]
    refine h.exceededSince_start hlevel hsome hx fun hnone => hnew ?_
    rw [← hkey]
    exact hnone
  · exact (h level hlevel hsome start hstart).cons hx

/-- **A metric's rule keeps its clocks right**, and emits only where a level is exceeded for its
duration. -/
theorem Truthful.after_check {levels : List Level} (h : Truthful python past c m levels)
    (hsteady : SteadyRule python past x c m levels) :
    Truthful python (x :: past) (checkMultiLevelThreshold python c m x.metrics levels x.time).1 m
        levels ∧
      ∀ v ∈ (checkMultiLevelThreshold python c m x.metrics levels x.time).2,
        v.metricName = m ∧ ContinuousLevel python x past m levels v := by
  obtain hclear | ⟨value, hvalue, matched, hmatched, hmem, hviolated⟩ :=
    clear_or_matches python m levels x.metrics
  · obtain ⟨htruthful, hnothing⟩ := Truthful.of_clear hclear (x :: past) c
    refine ⟨htruthful, fun v hv => ?_⟩
    rw [hnothing] at hv
    cases hv
  · obtain ⟨hnew, hothers⟩ := hsteady value hvalue matched hmatched
    have hthreshold : matched.threshold.isSome := by
      cases hnone : matched.threshold with
      | none =>
        rw [Level.isViolated, hnone] at hviolated
        cases hviolated
      | some _ => rfl
    rw [checkMultiLevelThreshold_of_find hvalue hmatched]
    refine ⟨h.checkLevel hvalue hnew hothers, fun v hv => ?_⟩
    obtain ⟨hname, hseverity, hthr, hduration, hlong⟩ := emitted_of_checkLevel hv
    refine ⟨hname, matched, hmem, hseverity.symm, hthr.symm, hduration.symm, ?_⟩
    refine (h.exceededSince_start hmem hthreshold ⟨value, hvalue, hviolated⟩ hnew).continuously ?_
    rwa [Checker.trackedFor_eq, start_getD, Option.getD_some] at hlong

/-! ## All metrics -/

/-- A clock that fades stays right. -/
theorem Truthful.fades {levels : List Level} {c' : Checker} (h : Truthful python past c m levels)
    (hfades : ∀ s, Fades (c.track (metricKey m s)) (c'.track (metricKey m s))) :
    Truthful python past c' m levels := by
  intro level hlevel hsome start hstart
  obtain heq | ⟨-, hnone⟩ := hfades (level.severity.getD .medium)
  · rw [Level.key, heq] at hstart
    exact h level hlevel hsome start hstart
  · rw [Level.key, hnone] at hstart
    cases hstart

/-- The clocks of all rules with levels are right. -/
def AllTruthful (python : Python) (past : List Sample) (c : Checker)
    (entries : List (Sigma fun _ : String => Rule)) : Prop :=
  ∀ entry ∈ entries, ∀ levels ∈ entry.2.levels, Truthful python past c entry.1 levels

/-- What the property says of a violation of the rules. -/
def ContinuousFor (python : Python) (x : Sample) (past : List Sample)
    (entries : List (Sigma fun _ : String => Rule)) (v : Violation) : Prop :=
  ∃ entry ∈ entries, entry.1 = v.metricName ∧ ∃ levels ∈ entry.2.levels,
    ContinuousLevel python x past entry.1 levels v

/-- **The rules keep all clocks right**, and emit only where a level is exceeded for its duration. -/
theorem AllTruthful.after_checkRules {entries : List (Sigma fun _ : String => Rule)}
    (hkeys : entries.keys.Nodup) (h : AllTruthful python past c entries)
    (hsteady : SteadyRules python past x c entries) :
    AllTruthful python (x :: past) (checkRules python x.metrics x.time c entries).1 entries ∧
      ∀ v ∈ (checkRules python x.metrics x.time c entries).2,
        ContinuousFor python x past entries v := by
  induction entries generalizing c with
  | nil =>
    constructor
    · intro entry hentry
      cases hentry
    · intro v hv
      cases hv
  | cons entry entries ih =>
    obtain ⟨n, rule⟩ := entry
    rw [List.keys_cons, List.nodup_cons] at hkeys
    obtain ⟨hfirst, hrest⟩ := List.forall_mem_cons.mp h
    have hlater : ∀ v, ContinuousFor python x past entries v →
        ContinuousFor python x past (⟨n, rule⟩ :: entries) v := by
      rintro v ⟨entry, hentry, hv⟩
      exact ⟨entry, List.mem_cons_of_mem _ hentry, hv⟩
    rw [checkRules]
    rw [SteadyRules] at hsteady
    cases hlevels : rule.levels with
    | none =>
      rw [hlevels] at hsteady
      obtain ⟨htruthful, hemits⟩ := ih hkeys.2 hrest hsteady
      refine ⟨List.forall_mem_cons.mpr ⟨fun levels hsome => ?_, htruthful⟩, fun v hv => hlater v (hemits v hv)⟩
      rw [hlevels] at hsome
      cases hsome
    | some levels =>
      rw [hlevels] at hsteady
      dsimp only at hsteady ⊢
      have hne : ∀ entry ∈ entries, n ≠ entry.1 := by
        rintro entry hentry heq
        have hmem : entry.1 ∈ entries.keys := List.mem_keys_of_mem hentry
        rw [← heq] at hmem
        exact hkeys.1 hmem
      obtain ⟨htruthful, hemits⟩ := (hfirst levels hlevels).after_check hsteady.1
      -- the other metrics' clocks at most fade
      have hrest' : AllTruthful python past
          (checkMultiLevelThreshold python c n x.metrics levels x.time).1 entries := by
        intro entry hentry levels' hlevels'
        refine (hrest entry hentry levels' hlevels').fades fun s => ?_
        exact (checkMultiLevelThreshold_fades python n x.metrics levels x.time
          (fun heq => absurd heq (hne entry hentry)) c s).1
      obtain ⟨htruthful', hemits'⟩ := ih hkeys.2 hrest' hsteady.2
      refine ⟨List.forall_mem_cons.mpr ⟨fun levels' hlevels' => ?_, htruthful'⟩, fun v hv => ?_⟩
      · cases Option.mem_unique hlevels' hlevels
        refine htruthful.fades fun s => ?_
        refine (checkRules_fades python x.metrics x.time entries (fun rule' hrule' => ?_) _ s).1
        exact absurd rfl (hne ⟨n, rule'⟩ hrule')
      · rcases List.mem_append.mp hv with hv | hv
        · obtain ⟨hname, level, hlevel, hlevelOf⟩ := hemits v hv
          exact ⟨⟨n, rule⟩, List.mem_cons_self, hname.symm, levels, hlevels, level, hlevel, hlevelOf⟩
        · exact hlater v (hemits' v hv)

/-- The violation of the custom expression has no severity. -/
theorem checkCustomExpression_severity (python : Python) (c : Checker) (metrics : Dict) (rule : Rule)
    (now : Time) : ∀ v ∈ (checkCustomExpression python c metrics rule now).2, v.severity = none := by
  intro v hv
  unfold checkCustomExpression at hv
  split at hv
  · cases hv
  · cases hv
  · dsimp only at hv
    split at hv
    · split at hv
      · split at hv
        · cases hv
        · rw [List.mem_singleton.mp hv]
      · cases hv
    · split at hv <;> cases hv

/-! ## Runs -/

/-- The clocks are right, unless the custom expression is checked alone. -/
def Monitor.Sound (python : Python) (rules : ThresholdRules) (s : Monitor) : Prop :=
  rules.lookup customExpression = none → AllTruthful python s.past s.checker rules.entries

/-- One steady sample: the clocks stay right, and each violation has been exceeded for its duration. -/
theorem Monitor.Sound.sample {s : Monitor} (h : s.Sound python rules) (hsteady : Steady python rules s x) :
    Monitor.Sound python rules { checker := s.checker.after python (x.call rules), past := x :: s.past } ∧
      Continuous python rules s x := by
  cases hcustom : rules.lookup customExpression with
  | some rule =>
    constructor
    · intro hnone
      rw [hcustom] at hnone
      cases hnone
    · intro v hv severity hseverity
      rw [Checker.emits, checkThresholds, Sample.call, hcustom] at hv
      rw [checkCustomExpression_severity python s.checker x.metrics rule x.time v hv] at hseverity
      cases hseverity
  | none =>
    obtain ⟨htruthful, hemits⟩ := (h hcustom).after_checkRules rules.nodupKeys (hsteady hcustom)
    have hcheck : checkThresholds python s.checker x.metrics rules x.time =
        checkRules python x.metrics x.time s.checker rules.entries := by
      rw [checkThresholds, hcustom]
    constructor
    · intro _
      rw [Checker.after, Sample.call, hcheck]
      exact htruthful
    · intro v hv severity hseverity
      rw [Checker.emits, Sample.call, hcheck] at hv
      obtain ⟨entry, hentry, hname, levels, hlevels, level, hlevel, hof, hthreshold, hduration, hlong⟩ :=
        hemits v hv
      rw [← hof, Option.mem_some_iff] at hseverity
      refine ⟨entry.2, ?_, levels, hlevels, level, hlevel, hseverity, hthreshold, hduration, ?_⟩
      · rw [← hname]
        exact AList.mem_lookup_iff.mpr hentry
      · rwa [← hname]

variable (python) (rules)

end DBClaw.Alerts
