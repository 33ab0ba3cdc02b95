import DBClaw.Alerts.Triggers
import DBClaw.Notifications.Aggregation

/-! # A severity escalation is not lost
When a metric gets worse while an alert of it is unresolved, `Escalates` asks that the cycle ends with
an unresolved event of the metric that has the new severity and with an alert in it to which the
escalation exception of the notification cooldown applies. A repeated violation only moves the end of
its event, whatever its severity, so this fails for every escalation of a threshold violation.
`escalations_iff` says when it holds: if the event is severe enough already, or a candidate of the
metric with that severity comes in its turn, has no open alert of its type and gets its alert linked. -/

namespace DBClaw.Alerts

open Runs Notifications

/-! ## The property -/

/-- The escalation exception of the cooldown applies to the alert whenever everything sent for its
event so far was less severe than `severity`. -/
def EscalationApplies (severity : Severity) (a : AlertMessage) : Prop :=
  ∀ previous : List Severity, (∀ p ∈ previous, p.order < severity.order) →
    isSeverityEscalated a.severity previous = true

/-- **The unresolved event of the pair has at least this severity**, and an active alert in it that
the escalation exception applies to. -/
def Escalated (store : AlertStore) (key : AggregationKey) (severity : Severity) : Prop :=
  ∃ e ∈ store.events, e.status.isOpen = true ∧ e.aggregationKey = key ∧
    severity.order ≤ e.severity.order ∧
    ∃ a ∈ store.alerts, a.status = .active ∧ a.eventId = some e.id ∧ EscalationApplies severity a

/-- There is an unresolved alert of the datasource and metric with a lower severity. -/
def lowerUnresolved (store : AlertStore) (datasourceId : ℕ) (metricName : String)
    (severity : Severity) : Bool :=
  store.alerts.any fun a => a.datasourceId = datasourceId ∧ a.metricName = some metricName ∧
    a.status.isOpen ∧ a.severity.order < severity.order

/-! ## The escalation exception -/

/-- The highest order of a list is below a bound that all are below. -/
theorem foldr_max_lt {severities : List Severity} {bound : ℕ} (hpos : 0 < bound)
    (h : ∀ p ∈ severities, p.order < bound) : (severities.map Severity.order).foldr max 0 < bound := by
  induction severities with
  | nil => exact hpos
  | cons p ps ih =>
    rw [List.map_cons, List.foldr_cons]
    exact max_lt (h p List.mem_cons_self) (ih fun q hq => h q (List.mem_cons_of_mem _ hq))

/-- **The exception applies to the alerts that are at least as severe.** -/
theorem escalationApplies_iff {severity : Severity} {a : AlertMessage} :
    EscalationApplies severity a ↔ severity.order ≤ a.severity.order := by
  constructor
  · intro h
    -- the most severe delivery below `severity` tells whether the alert is above it
    cases severity with
    | low => cases a.severity <;> decide
    | medium => exact of_decide_eq_true (h [.low] (by decide))
    | high => exact of_decide_eq_true (h [.medium] (by decide))
    | critical => exact of_decide_eq_true (h [.high] (by decide))
  · intro hle previous hprevious
    have hpos : 0 < a.severity.order := by cases a.severity <;> decide
    exact decide_eq_true (foldr_max_lt hpos fun p hp => lt_of_lt_of_le (hprevious p hp) hle)

instance (severity : Severity) (a : AlertMessage) : Decidable (EscalationApplies severity a) :=
  decidable_of_iff _ escalationApplies_iff.symm

instance (store : AlertStore) (key : AggregationKey) (severity : Severity) :
    Decidable (Escalated store key severity) :=
  inferInstanceAs (Decidable (∃ _ ∈ _, _))

/-- **The default rule sends it, cooldown or not**, as long as the deliveries of the event to the
subscription were less severe. -/
theorem defaultAggregationRule_of_escalationApplies {severity : Severity} {a : AlertMessage}
    (h : EscalationApplies severity a) (db : Db) (subscription : AlertSubscription) (now : Time)
    (hlower : ∀ eventId ∈ a.eventId, ∀ d ∈ eventDeliveries db subscription.id eventId,
      d.2.order < severity.order) :
    defaultAggregationRule db a subscription now = true := by
  unfold defaultAggregationRule
  split
  · rfl
  · rename_i eventId heventId
    dsimp only
    split
    · rfl
    · rw [if_pos]
      refine h _ fun p hp => ?_
      obtain ⟨d, hd, rfl⟩ := List.mem_map.mp hp
      exact hlower eventId heventId d hd

/-! ## One candidate -/

variable (env : Env) (cycle : Cycle)

/-- The candidate's alert is new and gets linked to an event. -/
def links (store : AlertStore) (c : Candidate) : Bool :=
  c.value.isSome && ! store.hasOpenAlert env.datasourceId c.alertType c.metricName &&
    (cycle.failure c.alertType c.metricName = .none ||
      cycle.failure c.alertType c.metricName = .afterLink)

variable {store : AlertStore} {key : AggregationKey} {severity : Severity}

/-- The event that is found for a key is an open event of the key. -/
theorem openEvent_eq_some {since : Option Time} {event : AlertEvent}
    (h : store.openEvent key since = some event) :
    event ∈ store.events ∧ event.aggregationKey = key ∧ event.status.isOpen = true := by
  obtain ⟨hmem, hfilter⟩ := List.mem_filter.mp (List.argmax_mem h)
  have hopen := of_decide_eq_true hfilter
  exact ⟨hmem, hopen.1, hopen.2.1⟩

/-- Moving the end of an event does not escalate anything. -/
theorem updateActiveEventTime_escalated (now : Time) (k : AggregationKey) :
    Escalated (store.updateActiveEventTime k now) key severity ↔ Escalated store key severity := by
  unfold AlertStore.updateActiveEventTime
  split
  · rename_i event _
    have hrow : ∀ e, (AlertStore.updatedRow event.id ({ · with eventEndedAt := now }) e).status
        = e.status ∧
        (AlertStore.updatedRow event.id ({ · with eventEndedAt := now }) e).aggregationKey
          = e.aggregationKey ∧
        (AlertStore.updatedRow event.id ({ · with eventEndedAt := now }) e).severity
          = e.severity := by
      intro e
      unfold AlertStore.updatedRow
      split <;> exact ⟨rfl, rfl, rfl⟩
    constructor
    · rintro ⟨x, hx, hopen, hkey, hsev, a, ha, hactive, hlink, happlies⟩
      obtain ⟨e, he, rfl⟩ := List.mem_map.mp hx
      obtain ⟨hst, hk, hs⟩ := hrow e
      rw [hst] at hopen
      rw [hk] at hkey
      rw [hs] at hsev
      rw [AlertStore.updatedRow_id] at hlink
      exact ⟨e, he, hopen, hkey, hsev, a, ha, hactive, hlink, happlies⟩
    · rintro ⟨e, he, hopen, hkey, hsev, a, ha, hactive, hlink, happlies⟩
      obtain ⟨hst, hk, hs⟩ := hrow e
      exact ⟨_, List.mem_map_of_mem he, hst ▸ hopen, hk.trans hkey, hs ▸ hsev, a, ha, hactive,
        by rw [AlertStore.updatedRow_id]; exact hlink, happlies⟩
  · rfl

/-- The severity of an event that an alert is added to is the higher of the two. -/
theorem le_addAlertToEvent_severity (alert : AlertMessage) (event : AlertEvent) (n : ℕ) :
    n ≤ (AlertStore.addAlertToEvent alert event).severity.order ↔
      n ≤ event.severity.order ∨ n ≤ alert.severity.order := by
  unfold AlertStore.addAlertToEvent
  dsimp only
  by_cases h : event.severity.order < alert.severity.order
  · rw [if_pos h]
    exact ⟨.inr, fun hor => hor.elim (fun hle => by omega) id⟩
  · rw [if_neg h]
    exact ⟨.inl, fun hor => hor.elim id fun hle => by omega⟩

/-- **Linking a new alert** escalates its key up to its severity, and nothing else. -/
theorem processNewAlert_escalated (window : ℤ) (alert : AlertMessage)
    (hactive : alert.status = .active) (nextAlertId : ℕ) :
    Escalated { (store.processNewAlert window alert).2 with
      alerts := store.alerts ++
        [{ alert with eventId := some (store.processNewAlert window alert).1 }]
      nextAlertId := nextAlertId } key severity ↔
    Escalated store key severity ∨
      (aggregationKey alert = key ∧ severity.order ≤ alert.severity.order) := by
  unfold AlertStore.processNewAlert
  split
  · rename_i event hevent
    obtain ⟨hmem, hkey, hopen⟩ := openEvent_eq_some hevent
    have hself : AlertStore.updatedRow event.id (AlertStore.addAlertToEvent alert) event
        = { AlertStore.addAlertToEvent alert event with id := event.id } := if_pos rfl
    constructor
    · rintro ⟨x, hx, hxopen, hxkey, hxsev, a, ha, haactive, hlink, happlies⟩
      obtain ⟨e, he, rfl⟩ := List.mem_map.mp hx
      rw [AlertStore.updatedRow_id] at hlink
      by_cases hid : e.id = event.id
      · have heq : e = event := List.inj_on_of_nodup_map store.eventIds he hmem hid
        subst heq
        rw [hself] at hxkey hxsev
        obtain ha | ha := List.mem_append.mp ha
        · obtain hsev | hsev := (le_addAlertToEvent_severity alert e _).mp hxsev
          · exact .inl ⟨e, he, hopen, hxkey, hsev, a, ha, haactive, hlink, happlies⟩
          · exact .inr ⟨hkey.symm.trans hxkey, hsev⟩
        · cases List.mem_singleton.mp ha
          exact .inr ⟨hkey.symm.trans hxkey, escalationApplies_iff.mp happlies⟩
      · rw [AlertStore.updatedRow, if_neg hid] at hxopen hxkey hxsev
        obtain ha | ha := List.mem_append.mp ha
        · exact .inl ⟨e, he, hxopen, hxkey, hxsev, a, ha, haactive, hlink, happlies⟩
        · cases List.mem_singleton.mp ha
          exact absurd (Option.some.inj hlink).symm hid
    · rintro (⟨e, he, heopen, hekey, hesev, a, ha, haactive, hlink, happlies⟩ | ⟨halert, hsev⟩)
      · refine ⟨_, List.mem_map_of_mem he, ?_, ?_, ?_, a, List.mem_append_left _ ha, haactive,
          by rw [AlertStore.updatedRow_id]; exact hlink, happlies⟩
        all_goals unfold AlertStore.updatedRow; split
        · simp [AlertStore.addAlertToEvent, hactive, Status.isOpen]
        · exact heopen
        · exact hekey
        · exact hekey
        · exact (le_addAlertToEvent_severity alert e _).mpr (.inl hesev)
        · exact hesev
      · refine ⟨_, List.mem_map_of_mem hmem, ?_, ?_, ?_,
          { alert with eventId := some event.id }, List.mem_append_right _ (List.mem_singleton_self _),
          hactive, by rw [AlertStore.updatedRow_id], escalationApplies_iff.mpr hsev⟩
        · rw [hself]
          simp [AlertStore.addAlertToEvent, hactive, Status.isOpen]
        · rw [hself]
          exact hkey.trans halert
        · rw [hself]
          exact (le_addAlertToEvent_severity alert event _).mpr (.inr hsev)
  · constructor
    · rintro ⟨e, he, heopen, hekey, hesev, a, ha, haactive, hlink, happlies⟩
      obtain he | he := List.mem_append.mp he
      · obtain ha | ha := List.mem_append.mp ha
        · exact .inl ⟨e, he, heopen, hekey, hesev, a, ha, haactive, hlink, happlies⟩
        · cases List.mem_singleton.mp ha
          exact absurd (Option.some.inj hlink).symm (Nat.ne_of_lt (store.eventIds_lt e he))
      · cases List.mem_singleton.mp he
        exact .inr ⟨hekey, hesev⟩
    · rintro (⟨e, he, heopen, hekey, hesev, a, ha, hrest⟩ | ⟨halert, hsev⟩)
      · exact ⟨e, List.mem_append_left _ he, heopen, hekey, hesev, a, List.mem_append_left _ ha,
          hrest⟩
      · exact ⟨_, List.mem_append_right _ (List.mem_singleton_self _),
          by simp [AlertStore.newEvent, hactive, Status.isOpen], halert, hsev, _,
          List.mem_append_right _ (List.mem_singleton_self _), hactive, rfl,
          escalationApplies_iff.mpr hsev⟩

/-- An alert that is linked to no event escalates nothing. -/
theorem append_unlinked_escalated (alert : AlertMessage) (hnone : alert.eventId = none)
    (nextAlertId : ℕ) :
    Escalated { store with alerts := store.alerts ++ [alert], nextAlertId := nextAlertId } key
      severity ↔ Escalated store key severity := by
  constructor
  · rintro ⟨e, he, hopen, hkey, hsev, a, ha, hactive, hlink, happlies⟩
    obtain ha | ha := List.mem_append.mp ha
    · exact ⟨e, he, hopen, hkey, hsev, a, ha, hactive, hlink, happlies⟩
    · rw [List.mem_singleton.mp ha, hnone] at hlink
      cases hlink
  · rintro ⟨e, he, hopen, hkey, hsev, a, ha, hrest⟩
    exact ⟨e, he, hopen, hkey, hsev, a, List.mem_append_left _ ha, hrest⟩

/-- **`create_alert`** escalates the key of its alert up to its severity if it gets as far as the
link, and nothing else. -/
theorem createAlert_escalated (window : ℤ) (draft : AlertDraft) (now : Time) (failure : Failure) :
    Escalated (store.createAlert window draft now failure) key severity ↔
      Escalated store key severity ∨ ((failure = .none ∨ failure = .afterLink) ∧
        aggregationKey (store.newAlert draft now) = key ∧
        severity.order ≤ draft.severity.order) := by
  have hlinked : Escalated (store.createAlert window draft now .none) key severity ↔
      Escalated store key severity ∨ (aggregationKey (store.newAlert draft now) = key ∧
        severity.order ≤ draft.severity.order) :=
    processNewAlert_escalated window (store.newAlert draft now) rfl (store.nextAlertId + 1)
  cases failure with
  | none => simpa using hlinked
  | beforeCommit => exact ⟨.inl, fun h => h.elim id fun h => h.1.elim nofun nofun⟩
  | afterCommit =>
    refine (append_unlinked_escalated (store.newAlert draft now) rfl _).trans ?_
    exact ⟨.inl, fun h => h.elim id fun h => h.1.elim nofun nofun⟩
  | afterLink =>
    have hsame : store.createAlert window draft now .afterLink
        = store.createAlert window draft now .none := rfl
    rw [hsame]
    simpa using hlinked

/-- **One candidate** escalates its key up to its severity if its alert gets linked, and nothing
else. -/
theorem processCandidate_escalated (c : Candidate) :
    Escalated (processCandidate env cycle store c).1 key severity ↔
      Escalated store key severity ∨
        (links env cycle store c = true ∧ c.key env = key ∧ severity.order ≤ c.severity.order) := by
  unfold processCandidate links
  cases hvalue : c.value with
  | none => simp
  | some value =>
    cases hopen : store.hasOpenAlert env.datasourceId c.alertType c.metricName with
    | true =>
      simp only [if_true, Option.isSome_some, Bool.not_true, Bool.and_false, Bool.false_and,
        Bool.false_eq_true, false_and, or_false]
      exact updateActiveEventTime_escalated cycle.now (c.key env)
    | false =>
      simp only [Bool.false_eq_true, if_false, Option.isSome_some, Bool.not_false, Bool.true_and,
        Bool.or_eq_true, decide_eq_true_eq]
      exact createAlert_escalated env.window (c.draft env value) cycle.now _

/-- Candidates of other kinds are linked after one candidate if and only if they were before. -/
theorem links_processCandidate (store : AlertStore) {c x : Candidate} (hne : c.kind ≠ x.kind) :
    links env cycle (processCandidate env cycle store c).1 x = links env cycle store x := by
  rw [links, links, processCandidate_hasOpenAlert env cycle store c _ _ hne]

/-! ## A cycle -/

/-- The candidate's alert gets linked to the event of the pair and is severe enough. -/
def escalates (store : AlertStore) (key : AggregationKey) (severity : Severity)
    (c : Candidate) : Bool :=
  links env cycle store c && c.key env = key && severity.order ≤ c.severity.order

/-- **After all candidates a pair is escalated if and only if it was, or a candidate that escalates
it comes in its turn.** -/
theorem processCandidates_escalated (cs : List Candidate) (hkinds : (cs.map Candidate.kind).Nodup)
    (store : AlertStore) :
    Escalated (processCandidates env cycle store cs) key severity ↔
      Escalated store key severity ∨
        reached env cycle store (escalates env cycle store key severity) cs = true := by
  induction cs generalizing store with
  | nil => simp [processCandidates, reached]
  | cons c cs ih =>
    rw [List.map_cons, List.nodup_cons] at hkinds
    have hne : ∀ x ∈ cs, c.kind ≠ x.kind := fun x hx heq =>
      hkinds.1 (heq ▸ List.mem_map_of_mem hx)
    have hrest := reached_processCandidate env cycle store hne
      (f := escalates env cycle (processCandidate env cycle store c).1 key severity)
      (g := escalates env cycle store key severity)
      fun x hx => by rw [escalates, escalates, links_processCandidate env cycle store (hne x hx)]
    have hone : Escalated (processCandidate env cycle store c).1 key severity ↔
        Escalated store key severity ∨ escalates env cycle store key severity c = true := by
      rw [processCandidate_escalated, escalates, Bool.and_eq_true, Bool.and_eq_true,
        decide_eq_true_eq, decide_eq_true_eq, and_assoc]
    rw [processCandidates, reached]
    dsimp only
    rw [processCandidate_raised]
    cases hraise : raises env cycle store c with
    | true =>
      simp only [if_true, Bool.not_true, Bool.false_and, Bool.or_false]
      exact hone
    | false =>
      simp only [Bool.false_eq_true, if_false, Bool.not_false, Bool.true_and, Bool.or_eq_true]
      rw [ih hkinds.2, hone, hrest, or_assoc]

/-- The store when the thresholds are checked. -/
def storeAtCheck (s : State) : AlertStore :=
  if cycle.connectionFailed then s.store else autoResolveConnectionAlerts env s.store cycle.now

/-- The aggregation key of the datasource and a metric. -/
def metricKeyOf (v : Violation) : AggregationKey := v.candidate.key env

/-- **No escalation is lost**: when a violation is emitted with a severity above that of an
unresolved alert of its metric, the cycle ends with the metric's event escalated to it. -/
def Escalates (s : State) : Label → Prop
  | .cycle cycle => ∀ v ∈ (check env s cycle).emitted, ∀ severity ∈ v.severity,
    lowerUnresolved (storeAtCheck env cycle s) env.datasourceId v.metricName severity = true →
      Escalated (collect env s cycle).store (metricKeyOf env v) severity
  | .other _ => True

instance (s : State) : (label : Label) → Decidable (Escalates env s label)
  | .cycle _ => inferInstanceAs (Decidable (∀ _ ∈ _, ∀ _ ∈ _, _ → _))
  | .other _ => .isTrue trivial

/-- **Each escalation is taken care of**: once the recoveries are made the metric's event is as
severe already, or a candidate of the metric with that severity comes in its turn, has no open alert
of its type and gets as far as the link to the event. -/
def EscalationProcessed (s : State) : Label → Prop
  | .cycle cycle => ∀ v ∈ (check env s cycle).emitted, ∀ severity ∈ v.severity,
    lowerUnresolved (storeAtCheck env cycle s) env.datasourceId v.metricName severity = true →
      Escalated (check env s cycle).store (metricKeyOf env v) severity ∨
      reached env cycle (check env s cycle).store
        (escalates env cycle (check env s cycle).store (metricKeyOf env v) severity)
        (check env s cycle).candidates = true
  | .other _ => True

/-- **A step loses no escalation if and only if each one is taken care of.** -/
theorem escalates_iff (s : State) (label : Label) :
    Escalates env s label ↔ EscalationProcessed env s label := by
  cases label with
  | other store => exact Iff.rfl
  | cycle cycle =>
    refine forall₂_congr fun v _ => forall₂_congr fun severity _ => imp_congr_right fun _ => ?_
    rw [collect]
    exact processCandidates_escalated env cycle _ (check_kinds env cycle s) _

/-- **The runs without a lost escalation are the runs in which each escalation is taken care of.** -/
theorem escalations_iff (s t : State) (labels : List Label) :
    Run (step env) (Escalates env) s labels t ↔ Run (step env) (EscalationProcessed env) s labels t :=
  ⟨Run.mono fun s label => (escalates_iff env s label).mp,
    Run.mono fun s label => (escalates_iff env s label).mpr⟩

/-! ## A lost escalation -/

/-- A rule for two severities. -/
def twoLevels : Rule where
  levels := some [
    { severity := some .low, threshold := some (.fin 50), duration := some 0 },
    { severity := some .critical, threshold := some (.fin 90), duration := some 0 }]

/-- A cycle that collects this CPU usage, at this minute. -/
def cpuCycle (minute : ℤ) (usage : ℤ) : Cycle where
  now := Time.minutes minute
  metrics := [("cpu_usage", .int usage)]
  config := some { thresholdRules := (∅ : ThresholdRules).insert "cpu_usage" twoLevels }

/-- After a cycle with a CPU usage of 60. -/
def afterWarning : State := collect datasourceEnv default (cpuCycle 0 60)

/-- **An escalation is lost**: the CPU usage rises from 60 to 99, and the event of the alert stays at
the low severity. -/
theorem cpuCycle_loses : ¬ Escalates datasourceEnv afterWarning (.cycle (cpuCycle 1 99)) := by
  with_unfolding_all decide

end DBClaw.Alerts
