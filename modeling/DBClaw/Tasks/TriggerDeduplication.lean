import DBClaw.Alerts.Records
import DBClaw.Library.Runs
import DBClaw.Library.Text
import Mathlib

/-! # Deduplication of inspection triggers
`trigger_inspection` looks for a recent trigger before it creates one. The metric of a trigger is read from its reason
by a regular expression, and looked for by a `LIKE` pattern that is made of it; `deduplication_exact_iff` says in which
runs the two agree. -/

namespace DBClaw.TriggerDeduplication

open Alerts (Time)
open Runs

/-! ## Triggers -/

/-- `trigger_type`. -/
inductive TriggerType
  | scheduled | manual | anomaly | baseline | connectionFailure
  deriving DecidableEq, Repr

/-- What identifies a trigger, as it is stored. -/
structure InspectionTrigger where
  id : ℕ
  datasourceId : ℕ
  triggerType : TriggerType
  triggerReason : Option Text
  triggeredAt : Time
  deriving DecidableEq

/-- **`_extract_anomaly_metric_name`**: `re.match(r"\s*([^=\s]+)\s*=", reason)`. -/
def extractAnomalyMetricName (reason : Option Text) : Option Text :=
  let rest := Text.lstrip (reason.getD [])
  let metricName := rest.takeWhile fun c => c ≠ '=' && ! Text.isSpace c
  match Text.lstrip (rest.drop metricName.length) with
  | '=' :: _ => if metricName = [] then none else some metricName
  | _ => none

/-- The metric of a trigger. -/
def InspectionTrigger.metric (trigger : InspectionTrigger) : Option Text :=
  extractAnomalyMetricName trigger.triggerReason

/-- The table; `id` is its primary key. -/
structure Table where
  triggers : List InspectionTrigger
  nextId : ℕ
  nodup_ids : (triggers.map InspectionTrigger.id).Nodup
  id_lt : ∀ trigger ∈ triggers, trigger.id < nextId

/-- A call of `trigger_inspection`, with what it finds: whether the datasource is alive, the window of the
configuration, the time, and the time of the database. -/
structure Call where
  datasourceId : ℕ
  triggerType : TriggerType
  reason : Option Text
  isAlive : Bool
  dedupMinutes : ℤ
  now : Time
  storedAt : Time

/-! ## The query -/

variable (table : Table) (call : Call)

/-- The triggers of the datasource and the kind in the window. -/
def recentTriggers : List InspectionTrigger :=
  if 0 < call.dedupMinutes then
    table.triggers.filter fun trigger => trigger.datasourceId = call.datasourceId ∧
      trigger.triggerType = call.triggerType ∧ call.now - 60000000 * call.dedupMinutes ≤ trigger.triggeredAt
  else []

/-- `trigger_reason LIKE f"{metric_name}=%"`, which is not true of a reason that is `NULL`. -/
def fits (metricName : Text) (trigger : InspectionTrigger) : Bool :=
  trigger.triggerReason.any fun reason => Text.like (metricName ++ ['=', '%']) reason

/-- The condition on the reason. -/
def reasonMatches (trigger : InspectionTrigger) : Bool :=
  if call.triggerType = .anomaly then
    match extractAnomalyMetricName call.reason with
    | some metricName => fits metricName trigger
    | none => call.reason.getD [] = [] || trigger.triggerReason = call.reason
  else true

/-- What `_find_recent_duplicate_trigger` selects. -/
def candidates : List InspectionTrigger :=
  if call.triggerType = .anomaly ∨ call.triggerType = .connectionFailure then
    (recentTriggers table call).filter (reasonMatches call)
  else []

/-- **An answer of the database**: one of the latest rows, any of them when there are several. -/
def IsAnswer (rows : List InspectionTrigger) : Option InspectionTrigger → Prop
  | none => rows = []
  | some row => row ∈ rows ∧ ∀ other ∈ rows, other.triggeredAt ≤ row.triggeredAt

instance (rows : List InspectionTrigger) : DecidablePred (IsAnswer rows)
  | none => inferInstanceAs (Decidable (rows = []))
  | some row => inferInstanceAs (Decidable (row ∈ rows ∧ ∀ other ∈ rows, other.triggeredAt ≤ row.triggeredAt))

/-! ## Calls -/

/-- The row that is inserted. -/
def newTrigger : InspectionTrigger where
  id := table.nextId
  datasourceId := call.datasourceId
  triggerType := call.triggerType
  triggerReason := call.reason
  triggeredAt := call.storedAt

/-- The table with the new row. -/
def Table.insert : Table where
  triggers := table.triggers ++ [newTrigger table call]
  nextId := table.nextId + 1
  nodup_ids := by
    rw [List.map_append, List.map_singleton, List.nodup_append]
    refine ⟨table.nodup_ids, List.nodup_singleton _, fun id hid id' hid' => ?_⟩
    obtain ⟨trigger, htrigger, rfl⟩ := List.mem_map.mp hid
    rw [List.mem_singleton.mp hid']
    exact (table.id_lt trigger htrigger).ne
  id_lt trigger htrigger := by
    rcases List.mem_append.mp htrigger with htrigger | htrigger
    · exact (table.id_lt trigger htrigger).trans (Nat.lt_succ_self _)
    · rw [List.mem_singleton.mp htrigger]
      exact Nat.lt_succ_self _

/-- What a call ends with. -/
inductive Outcome
  | returned (id : Option ℕ)
  | raised
  deriving DecidableEq, Repr

/-- **`trigger_inspection`**, with the answer of the database; `none` when that is no answer to its query. A reason of
more than five hundred characters cannot be stored. -/
def triggerInspection (answer : Option InspectionTrigger) : Option (Outcome × Table) :=
  if call.isAlive = false then some (.returned none, table)
  else if IsAnswer (candidates table call) answer then
    match answer with
    | some trigger => some (.returned (some trigger.id), table)
    | none =>
      if (call.reason.getD []).length ≤ 500 then some (.returned (some table.nextId), table.insert call)
      else some (.raised, table)
  else none

/-- One step: a call, and the answer of the database. -/
def step (label : Call × Option InspectionTrigger) : Option Table :=
  (triggerInspection table label.1 label.2).map Prod.snd

/-! ## Exact deduplication -/

/-- **The call is deduplicated exactly**, whatever the database answers: a recent trigger of the same metric is
returned, and nothing is created; and no trigger that is returned is of another metric. -/
def Exact : Prop :=
  call.triggerType = .anomaly → ∀ metricName, extractAnomalyMetricName call.reason = some metricName →
    ∀ answer outcome table', triggerInspection table call answer = some (outcome, table') →
      ((∃ trigger ∈ recentTriggers table call, trigger.metric = some metricName) →
        ∃ trigger ∈ recentTriggers table call, trigger.metric = some metricName ∧
          outcome = .returned (some trigger.id) ∧ table' = table) ∧
      ∀ trigger ∈ table.triggers, outcome = .returned (some trigger.id) → trigger.metric = some metricName

/-- **The reasons are in order**: when a recent trigger is of the metric of the call, the datasource is alive and the
reason of a recent trigger fits the pattern; and of the recent triggers whose reasons fit, the latest are of the metric. -/
def InOrder : Prop :=
  call.triggerType = .anomaly → ∀ metricName, extractAnomalyMetricName call.reason = some metricName →
    ((∃ trigger ∈ recentTriggers table call, trigger.metric = some metricName) →
      call.isAlive = true ∧ ∃ trigger ∈ recentTriggers table call, fits metricName trigger = true) ∧
    (call.isAlive = true → ∀ trigger ∈ recentTriggers table call, fits metricName trigger = true →
      (∀ other ∈ recentTriggers table call, fits metricName other = true → other.triggeredAt ≤ trigger.triggeredAt) →
        trigger.metric = some metricName)

/-! ## The two notions agree -/

variable {table call} {metricName : Text}

/-- The candidates of a call with a metric are the recent triggers whose reasons fit. -/
theorem candidates_eq (hanomaly : call.triggerType = .anomaly)
    (hmetric : extractAnomalyMetricName call.reason = some metricName) :
    candidates table call = (recentTriggers table call).filter (fits metricName) := by
  rw [candidates, if_pos (.inl hanomaly)]
  refine List.filter_congr fun trigger _ => ?_
  simp only [reasonMatches, if_pos hanomaly, hmetric]

theorem mem_triggers_of_mem_recent {trigger : InspectionTrigger} (h : trigger ∈ recentTriggers table call) :
    trigger ∈ table.triggers := by
  rw [recentTriggers] at h
  split_ifs at h
  · exact (List.mem_filter.mp h).1
  · cases h

/-- The id of a trigger is its own. -/
theorem eq_of_id_eq {a b : InspectionTrigger} (ha : a ∈ table.triggers) (hb : b ∈ table.triggers) (h : a.id = b.id) :
    a = b := List.inj_on_of_nodup_map table.nodup_ids ha hb h

/-- A found trigger is returned, and nothing changes. -/
theorem triggerInspection_some {trigger : InspectionTrigger} (halive : call.isAlive = true)
    (hanswer : IsAnswer (candidates table call) (some trigger)) :
    triggerInspection table call (some trigger) = some (.returned (some trigger.id), table) := by
  rw [triggerInspection, if_neg (by rw [halive]; exact Bool.true_eq_false_eq_False), if_pos hanswer]

/-- Where none is found, no trigger that was there is returned. -/
theorem triggerInspection_none (halive : call.isAlive = true) (hnil : candidates table call = []) :
    ∃ outcome table', triggerInspection table call none = some (outcome, table') ∧
      (table' = table ∨ table' = table.insert call) ∧
      ∀ trigger ∈ table.triggers, outcome ≠ .returned (some trigger.id) := by
  have hanswer : IsAnswer (candidates table call) none := hnil
  rw [triggerInspection, if_neg (by rw [halive]; exact Bool.true_eq_false_eq_False), if_pos hanswer]
  by_cases hshort : (call.reason.getD []).length ≤ 500
  · refine ⟨_, _, if_pos hshort, .inr rfl, fun trigger htrigger heq => ?_⟩
    have hid : table.nextId = trigger.id := Option.some.inj (Outcome.returned.inj heq)
    exact (table.id_lt trigger htrigger).ne hid.symm
  · exact ⟨_, _, if_neg hshort, .inl rfl, fun trigger _ heq => Outcome.noConfusion heq⟩

/-- **How a call ends**: for a deleted datasource, with a found trigger, or with none found. -/
theorem triggerInspection_cases {answer : Option InspectionTrigger} {outcome : Outcome} {table' : Table}
    (h : triggerInspection table call answer = some (outcome, table')) :
    (call.isAlive = false ∧ outcome = .returned none ∧ table' = table) ∨
    (call.isAlive = true ∧ ∃ row, IsAnswer (candidates table call) (some row) ∧
      outcome = .returned (some row.id) ∧ table' = table) ∨
    (call.isAlive = true ∧ candidates table call = [] ∧ (table' = table ∨ table' = table.insert call) ∧
      ∀ trigger ∈ table.triggers, outcome ≠ .returned (some trigger.id)) := by
  cases halive : call.isAlive with
  | false =>
    have hdead : triggerInspection table call answer = some (.returned none, table) := if_pos halive
    rw [hdead] at h
    obtain ⟨rfl, rfl⟩ := Prod.mk.inj (Option.some.inj h)
    exact .inl ⟨rfl, rfl, rfl⟩
  | true =>
    have halive' : ¬ call.isAlive = false := by
      rw [halive]
      exact Bool.noConfusion
    by_cases hanswer : IsAnswer (candidates table call) answer
    · cases answer with
      | none =>
        obtain ⟨outcome', table'', hcall, htable, hnew⟩ := triggerInspection_none halive hanswer
        rw [hcall] at h
        obtain ⟨rfl, rfl⟩ := Prod.mk.inj (Option.some.inj h)
        exact .inr (.inr ⟨rfl, hanswer, htable, hnew⟩)
      | some row =>
        rw [triggerInspection_some halive hanswer] at h
        obtain ⟨rfl, rfl⟩ := Prod.mk.inj (Option.some.inj h)
        exact .inr (.inl ⟨rfl, row, hanswer, rfl, rfl⟩)
    · have hnone : triggerInspection table call answer = none := by
        unfold triggerInspection
        rw [if_neg halive', if_neg hanswer]
      rw [hnone] at h
      cases h

/-- **A call is deduplicated exactly when the reasons are in order.** -/
theorem exact_iff_inOrder : Exact table call ↔ InOrder table call := by
  unfold Exact InOrder
  refine forall_congr' fun hanomaly => forall_congr' fun metricName => forall_congr' fun hmetric => ?_
  have hcandidates := @candidates_eq table call metricName hanomaly hmetric
  have hmem : ∀ trigger, trigger ∈ candidates table call ↔
      trigger ∈ recentTriggers table call ∧ fits metricName trigger = true := by
    intro trigger
    rw [hcandidates, List.mem_filter]
  constructor
  · intro hexact
    refine ⟨fun hrecent => ?_, fun halive trigger hrecent hfits hlatest => ?_⟩
    · cases halive : call.isAlive with
      | false =>
        have hdead : triggerInspection table call none = some (.returned none, table) := if_pos halive
        obtain ⟨trigger, -, -, hreturned, -⟩ := (hexact none _ _ hdead).1 hrecent
        cases hreturned
      | true =>
        refine ⟨rfl, ?_⟩
        by_contra hnone
        have hnil : candidates table call = [] := by
          refine List.eq_nil_iff_forall_not_mem.mpr fun trigger htrigger => hnone ?_
          exact ⟨trigger, (hmem trigger).mp htrigger⟩
        obtain ⟨outcome, table', hcall, -, hnew⟩ := triggerInspection_none halive hnil
        obtain ⟨trigger, htrigger, -, hreturned, -⟩ := (hexact none _ _ hcall).1 hrecent
        exact hnew trigger (mem_triggers_of_mem_recent htrigger) hreturned
    · have hanswer : IsAnswer (candidates table call) (some trigger) :=
        ⟨(hmem trigger).mpr ⟨hrecent, hfits⟩, fun other hother =>
          hlatest other ((hmem other).mp hother).1 ((hmem other).mp hother).2⟩
      exact (hexact _ _ _ (triggerInspection_some halive hanswer)).2 trigger (mem_triggers_of_mem_recent hrecent) rfl
  · rintro ⟨hfound, hlatest⟩ answer outcome table' hcall
    rcases triggerInspection_cases hcall with
      ⟨hdead, rfl, -⟩ | ⟨halive, row, hanswer, rfl, rfl⟩ | ⟨-, hnil, -, hnew⟩
    · refine ⟨fun hrecent => ?_, fun trigger _ heq => ?_⟩
      · rw [(hfound hrecent).1] at hdead
        cases hdead
      · cases heq
    · obtain ⟨hrecent, hfits⟩ := (hmem row).mp hanswer.1
      have hmetric := hlatest halive row hrecent hfits fun other hother hotherFits =>
        hanswer.2 other ((hmem other).mpr ⟨hother, hotherFits⟩)
      refine ⟨fun _ => ⟨row, hrecent, hmetric, rfl, rfl⟩, fun trigger htrigger heq => ?_⟩
      have hid : row.id = trigger.id := Option.some.inj (Outcome.returned.inj heq)
      rw [← eq_of_id_eq (mem_triggers_of_mem_recent hrecent) htrigger hid]
      exact hmetric
    · refine ⟨fun hrecent => ?_, fun trigger htrigger heq => absurd heq (hnew trigger htrigger)⟩
      obtain ⟨-, trigger, htrigger, hfits⟩ := hfound hrecent
      have hcandidate := (hmem trigger).mpr ⟨htrigger, hfits⟩
      rw [hnil] at hcandidate
      cases hcandidate

/-- **A run deduplicates every call exactly** if and only if the reasons are in order at every call. -/
theorem deduplication_exact_iff (table table' : Table) (labels : List (Call × Option InspectionTrigger)) :
    Run step (fun table label => Exact table label.1) table labels table' ↔
      Run step (fun table label => InOrder table label.1) table labels table' :=
  ⟨Run.mono fun _ _ => exact_iff_inOrder.mp, Run.mono fun _ _ => exact_iff_inOrder.mpr⟩

/-- Two metrics whose names differ in one character. -/
def underscoreCall : Call := ⟨1, .anomaly, some ['i', 'o', '_', 'w', '=', '9'], true, 60, 0, 0⟩

@[inherit_doc underscoreCall] def dottedCall : Call := ⟨1, .anomaly, some ['i', 'o', '.', 'w', '=', '9'], true, 60, 0, 0⟩

/-- The table without triggers. -/
def emptyTable : Table := ⟨[], 0, List.nodup_nil, List.forall_mem_nil _⟩

/-- **A trigger is merged into one of another metric.** -/
theorem dotted_merged : Run step Always emptyTable [(dottedCall, none)] (emptyTable.insert dottedCall) ∧
    ¬ Exact (emptyTable.insert dottedCall) underscoreCall := by
  refine ⟨.cons trivial rfl (.nil _), fun hexact => ?_⟩
  have hanswer : IsAnswer (candidates (emptyTable.insert dottedCall) underscoreCall)
      (some (newTrigger emptyTable dottedCall)) := by
    decide
  have hcall := triggerInspection_some rfl hanswer
  have hmetric := (hexact rfl ['i', 'o', '_', 'w'] rfl _ _ _ hcall).2 _ List.mem_cons_self rfl
  revert hmetric
  decide

/-! ## Reasons that are written tightly -/

/-- **A reason is tight**: the metric that it has stands at its start, right before the `=`, and its name has no
character with a meaning in a pattern. -/
def Tight (reason : Option Text) : Prop :=
  ∀ metricName, extractAnomalyMetricName reason = some metricName →
    metricName.all (! Text.isWildcard ·) = true ∧ metricName ++ ['='] <+: reason.getD []

/-- A pattern that does not start with `%` does not match the empty text. -/
theorem like_cons_nil {c : Char} (hc : c ≠ '%') (p : Text) : Text.like (c :: p) [] = false := by
  rw [Text.like.eq_def]
  split
  · rename_i h
    cases h
  · rename_i h
    exact absurd (List.cons.inj h).1 hc
  all_goals first | rfl | contradiction

/-- **A pattern of a plain name** finds what starts with the name. -/
theorem like_plain {name : Text} (h : name.all (! Text.isWildcard ·) = true) (s : Text) :
    Text.like (name ++ ['=', '%']) s = true ↔ name ++ ['='] <+: s := by
  induction name generalizing s with
  | nil =>
    cases s with
    | nil => simp [Text.like]
    | cons d s =>
      have hany : Text.like ['%'] s = true := by
        rw [Text.like, List.any_eq_true]
        exact ⟨[], by simp, rfl⟩
      simp [Text.like, hany]
  | cons c name ih =>
    rw [List.all_cons, Bool.and_eq_true, Bool.not_eq_true', Text.isWildcard, decide_eq_false_iff_not] at h
    obtain ⟨hc, hname⟩ := h
    have hpercent : c ≠ '%' := fun heq => hc (.inl heq)
    have hunderscore : c ≠ '_' := fun heq => hc (.inr (.inl heq))
    have hbackslash : c ≠ '\\' := fun heq => hc (.inr (.inr heq))
    cases s with
    | nil =>
      rw [List.cons_append, like_cons_nil hpercent]
      simp
    | cons d s => simp [Text.like, hbackslash, ih hname, List.cons_prefix_cons]

/-- The name of a metric has neither white space nor `=`. -/
theorem extract_spec {reason : Option Text} {metricName : Text}
    (h : extractAnomalyMetricName reason = some metricName) :
    metricName ≠ [] ∧ ∀ c ∈ metricName, c ≠ '=' ∧ Text.isSpace c = false := by
  unfold extractAnomalyMetricName at h
  simp only at h
  split at h
  · split_ifs at h with hnil
    obtain rfl := Option.some.inj h
    refine ⟨hnil, fun c hc => ?_⟩
    have hkeep := List.mem_takeWhile_imp hc
    rw [Bool.and_eq_true, decide_eq_true_eq, Bool.not_eq_true'] at hkeep
    exact hkeep
  · cases h

/-- **A reason that starts with a name and `=` has the metric of that name.** -/
theorem extract_of_start {metricName : Text} (hne : metricName ≠ [])
    (hplain : ∀ c ∈ metricName, c ≠ '=' ∧ Text.isSpace c = false) {reason : Text} (h : metricName ++ ['='] <+: reason) :
    extractAnomalyMetricName (some reason) = some metricName := by
  obtain ⟨rest, rfl⟩ := h
  have hstrip : Text.lstrip (metricName ++ ['='] ++ rest) = metricName ++ ('=' :: rest) := by
    obtain ⟨c, more, rfl⟩ := List.exists_cons_of_ne_nil hne
    have hc : ¬ Text.isSpace c = true := by
      rw [(hplain c List.mem_cons_self).2]
      exact Bool.false_ne_true
    rw [Text.lstrip, List.append_assoc]
    exact List.dropWhile_cons_of_neg hc
  have htake : (metricName ++ ('=' :: rest)).takeWhile (fun c => c ≠ '=' && ! Text.isSpace c) = metricName := by
    refine Text.takeWhile_append (fun c hc => ?_) fun c hc => ?_
    · rw [(hplain c hc).2, decide_eq_true (hplain c hc).1]
      rfl
    · rw [← Option.some.inj hc]
      rfl
  have hrest : Text.lstrip ('=' :: rest) = '=' :: rest := List.dropWhile_cons_of_neg (by decide)
  rw [extractAnomalyMetricName, Option.getD_some]
  simp only [hstrip, htake, List.drop_left, hrest, if_neg hne]

/-- Tight reasons are in order. -/
theorem inOrder_of_tight (halive : call.isAlive = true) (hcall : Tight call.reason)
    (htriggers : ∀ trigger ∈ table.triggers, Tight trigger.triggerReason) : InOrder table call := by
  intro _ metricName hmetric
  obtain ⟨hplain, -⟩ := hcall metricName hmetric
  obtain ⟨hne, hchars⟩ := extract_spec hmetric
  have hfits : ∀ trigger ∈ table.triggers, fits metricName trigger = true ↔ trigger.metric = some metricName := by
    intro trigger htrigger
    rw [fits, InspectionTrigger.metric]
    cases hreason : trigger.triggerReason with
    | none => exact iff_of_false Bool.false_ne_true fun h => (extract_spec h).1 (by cases h)
    | some reason =>
      rw [Option.any_some, like_plain hplain]
      refine ⟨extract_of_start hne hchars, fun h => ?_⟩
      have htight := htriggers trigger htrigger
      rw [hreason] at htight
      exact (htight metricName h).2
  refine ⟨?_, fun _ trigger htrigger h _ => (hfits trigger (mem_triggers_of_mem_recent htrigger)).mp h⟩
  rintro ⟨trigger, htrigger, h⟩
  exact ⟨halive, trigger, htrigger, (hfits trigger (mem_triggers_of_mem_recent htrigger)).mpr h⟩

/-- The table that a call leaves has its own triggers and maybe the new one. -/
theorem mem_of_step {table' : Table} {label : Call × Option InspectionTrigger} (h : step table label = some table')
    {trigger : InspectionTrigger} (htrigger : trigger ∈ table'.triggers) :
    trigger ∈ table.triggers ∨ trigger.triggerReason = label.1.reason := by
  obtain ⟨result, hcall, rfl⟩ := Option.map_eq_some_iff.mp h
  rcases triggerInspection_cases hcall with ⟨-, -, hsame⟩ | ⟨-, row, -, -, hsame⟩ | ⟨-, -, hsame | hinsert, -⟩
  · exact .inl (hsame ▸ htrigger)
  · exact .inl (hsame ▸ htrigger)
  · exact .inl (hsame ▸ htrigger)
  · rw [hinsert] at htrigger
    rcases List.mem_append.mp htrigger with hold | hnew
    · exact .inl hold
    · rw [List.mem_singleton.mp hnew]
      exact .inr rfl

/-- **Runs with tight reasons deduplicate every call exactly.** -/
theorem exact_of_tight {table' : Table} {labels : List (Call × Option InspectionTrigger)}
    (htriggers : ∀ trigger ∈ table.triggers, Tight trigger.triggerReason)
    (h : Run step (fun _ label => label.1.isAlive = true ∧ Tight label.1.reason) table labels table') :
    Run step (fun table label => Exact table label.1) table labels table' := by
  refine Run.strengthen (I := fun table => ∀ trigger ∈ table.triggers, Tight trigger.triggerReason) ?_ ?_ htriggers h
  · rintro table label hI ⟨halive, htight⟩
    exact exact_iff_inOrder.mpr (inOrder_of_tight halive htight hI)
  · rintro table label table' hI ⟨-, htight⟩ hs trigger htrigger
    rcases mem_of_step hs htrigger with hold | hnew
    · exact hI trigger hold
    · rw [hnew]
      exact htight

end DBClaw.TriggerDeduplication
