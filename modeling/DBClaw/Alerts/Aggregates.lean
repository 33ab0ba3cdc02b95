import DBClaw.Alerts.Lifecycle

/-! # The aggregates of an event
An event row keeps the number of its alerts, its latest alert, the highest severity and the time
interval of the alerts, and each operation updates them in its own way. `Aggregated` is what they mean,
as functions of the alerts that are linked to the event; `aggregated_of_run` says that they always
mean it, as long as operations follow one another and the clock does not go back. -/

namespace DBClaw.Alerts

open Runs

/-- **The aggregates of an event are those of its alerts.** -/
structure Aggregated (store : AlertStore) (e : AlertEvent) : Prop where
  alertCount : e.alertCount = (store.linked e.id).length
  latestAlertId : (store.linked e.id).getLast?.map AlertMessage.id = some e.latestAlertId
  severity_mem : ∃ a ∈ store.linked e.id, a.severity = e.severity
  severity_le : ∀ a ∈ store.linked e.id, a.severity.order ≤ e.severity.order
  started_le_ended : e.eventStartedAt ≤ e.eventEndedAt
  inside : ∀ a ∈ store.linked e.id, e.eventStartedAt ≤ a.createdAt ∧ a.createdAt ≤ e.eventEndedAt

/-- The two tables and the time of the last operation. -/
structure Clocked where
  store : AlertStore := {}
  clock : Time

/-- The empty tables. -/
def Clocked.start (clock : Time) : Clocked where
  store := default
  clock := clock

/-- An operation at a time that is not before the last one. -/
def Clocked.step (window : ℤ) (s : Clocked) (label : Operation × Time) : Option Clocked :=
  if s.clock ≤ label.2 then
    some { store := s.store.apply window label.2 label.1, clock := label.2 }
  else none

/-- **The invariant**: every event has the aggregates of its alerts, and has not ended yet later than
now. -/
structure Sound (s : Clocked) : Prop where
  numbered : Numbered s.store
  aggregated : ∀ e ∈ s.store.events, Aggregated s.store e
  ended_le : ∀ e ∈ s.store.events, e.eventEndedAt ≤ s.clock

variable {window : ℤ} {store t : AlertStore} {now clock : Time}

/-- Reworked alerts have the aggregates that they had. -/
theorem Aggregated.reworked {f : AlertMessage → AlertMessage} {e e' : AlertEvent}
    (h : Aggregated store e) (hf : ∀ a, SameAlert a (f a)) (halerts : t.alerts = store.alerts.map f)
    (he : SameEvent now e e') (hended : e.eventEndedAt ≤ now) : Aggregated t e' := by
  have hlinked : t.linked e'.id = (store.linked e.id).map f := by
    rw [he.id]
    exact linked_of_map hf halerts e.id
  have hlater : e.eventEndedAt ≤ e'.eventEndedAt := by
    rcases he.eventEndedAt with hsame | hnow
    · exact le_of_eq hsame.symm
    · rw [hnow]
      exact hended
  constructor
  · rw [he.alertCount, hlinked, List.length_map]
    exact h.alertCount
  · rw [he.latestAlertId, hlinked, List.getLast?_map, Option.map_map, ← h.latestAlertId]
    congr 1
    funext a
    exact (hf a).1
  · obtain ⟨a, ha, hseverity⟩ := h.severity_mem
    refine ⟨f a, by rw [hlinked]; exact List.mem_map_of_mem ha, ?_⟩
    rw [(hf a).2.2.1, he.severity]
    exact hseverity
  · intro b hb
    rw [hlinked] at hb
    obtain ⟨a, ha, rfl⟩ := List.mem_map.mp hb
    rw [(hf a).2.2.1, he.severity]
    exact h.severity_le a ha
  · rw [he.eventStartedAt]
    exact h.started_le_ended.trans hlater
  · intro b hb
    rw [hlinked] at hb
    obtain ⟨a, ha, rfl⟩ := List.mem_map.mp hb
    rw [(hf a).2.2.2, he.eventStartedAt]
    exact ⟨(h.inside a ha).1, (h.inside a ha).2.trans hlater⟩

theorem Sound.reworked {s : Clocked} (h : Sound s) (hclock : s.clock ≤ now)
    (k : Reworked now s.store t) : Sound { store := t, clock := now } := by
  have hn := h.numbered.reworked k
  obtain ⟨⟨f, hf, halerts⟩, ⟨g, hg, hevents⟩, -⟩ := k
  refine ⟨hn, ?_, ?_⟩
  · intro e' he'
    rw [hevents] at he'
    obtain ⟨e, he, rfl⟩ := List.mem_map.mp he'
    exact (h.aggregated e he).reworked hf halerts (hg e) ((h.ended_le e he).trans hclock)
  · intro e' he'
    rw [hevents] at he'
    obtain ⟨e, he, rfl⟩ := List.mem_map.mp he'
    show (g e).eventEndedAt ≤ now
    rcases (hg e).eventEndedAt with hsame | hnow
    · rw [hsame]
      exact (h.ended_le e he).trans hclock
    · exact le_of_eq hnow

/-- The aggregates of an event depend on its own alerts alone. -/
theorem Aggregated.congr {e : AlertEvent} (h : Aggregated store e)
    (hlinked : t.linked e.id = store.linked e.id) : Aggregated t e := by
  obtain ⟨hcount, hlatest, hmem, hle, hstarted, hinside⟩ := h
  rw [← hlinked] at hcount hlatest hmem hle hinside
  exact ⟨hcount, hlatest, hmem, hle, hstarted, hinside⟩

/-- **An alert joins an event**: the aggregates are those of one alert more. -/
theorem Aggregated.addAlert {e : AlertEvent} (h : Aggregated store e) {alert linkedAlert : AlertMessage}
    (hlinked : t.linked e.id = store.linked e.id ++ [linkedAlert]) (hid : linkedAlert.id = alert.id)
    (hseverity : linkedAlert.severity = alert.severity)
    (htime : linkedAlert.createdAt = alert.createdAt) (hended : e.eventEndedAt ≤ alert.createdAt) :
    Aggregated t { AlertStore.addAlertToEvent alert e with id := e.id } := by
  constructor
  · show e.alertCount + 1 = (t.linked e.id).length
    rw [hlinked, List.length_append, List.length_singleton, h.alertCount]
  · show (t.linked e.id).getLast?.map AlertMessage.id = some alert.id
    rw [hlinked, List.getLast?_concat, Option.map_some, hid]
  · show ∃ a ∈ t.linked e.id, a.severity =
      if e.severity.order < alert.severity.order then alert.severity else e.severity
    rw [hlinked]
    split
    · exact ⟨linkedAlert, List.mem_append_right _ (List.mem_singleton_self _), hseverity⟩
    · obtain ⟨a, ha, hsame⟩ := h.severity_mem
      exact ⟨a, List.mem_append_left _ ha, hsame⟩
  · show ∀ a ∈ t.linked e.id, a.severity.order ≤
      (if e.severity.order < alert.severity.order then alert.severity else e.severity).order
    intro a ha
    rw [hlinked] at ha
    rcases List.mem_append.mp ha with hold | hnew
    · have hle := h.severity_le a hold
      split
      · omega
      · exact hle
    · rw [List.mem_singleton.mp hnew, hseverity]
      split
      · exact le_refl _
      · omega
  · show e.eventStartedAt ≤ alert.createdAt
    exact h.started_le_ended.trans hended
  · show ∀ a ∈ t.linked e.id, e.eventStartedAt ≤ a.createdAt ∧ a.createdAt ≤ alert.createdAt
    intro a ha
    rw [hlinked] at ha
    rcases List.mem_append.mp ha with hold | hnew
    · exact ⟨(h.inside a hold).1, (h.inside a hold).2.trans hended⟩
    · rw [List.mem_singleton.mp hnew, htime]
      exact ⟨h.started_le_ended.trans hended, le_refl _⟩

/-- No alert is linked to an event that does not exist. -/
theorem Numbered.linked_nextEventId (h : Numbered store) : store.linked store.nextEventId = [] := by
  rw [List.eq_nil_iff_forall_not_mem]
  intro a ha
  obtain ⟨hmem, hevent⟩ := mem_linked.mp ha
  obtain ⟨e, he, hid⟩ := h.links a hmem _ hevent
  exact absurd hid (Nat.ne_of_lt (store.eventIds_lt e he))

theorem Sound.create {s : Clocked} (h : Sound s) (hclock : s.clock ≤ now) (window : ℤ)
    (row : AlertMessage) : Sound { store := s.store.create window row now, clock := now } := by
  refine ⟨h.numbered.create window row now, ?_, ?_⟩
  · intro e' he'
    rcases create_cases h.numbered window row now with
      ⟨event, -, halerts, hevents⟩ | ⟨-, halerts, hevents⟩
    · rw [show ({ store := s.store.create window row now, clock := now } : Clocked).store.events = _
        from hevents] at he'
      obtain ⟨e, he, rfl⟩ := List.mem_map.mp he'
      have hlinked := linked_append halerts e.id
      unfold AlertStore.updatedRow
      by_cases hid : e.id = event.id
      · rw [if_pos hid]
        rw [if_pos hid] at hlinked
        exact (h.aggregated e he).addAlert hlinked rfl rfl rfl ((h.ended_le e he).trans hclock)
      · rw [if_neg hid]
        rw [if_neg hid] at hlinked
        exact (h.aggregated e he).congr hlinked
    · rw [show ({ store := s.store.create window row now, clock := now } : Clocked).store.events = _
        from hevents] at he'
      have hlinked := linked_append halerts
      rcases List.mem_append.mp he' with hold | hnew
      · refine (h.aggregated e' hold).congr ?_
        rw [hlinked, if_neg (Nat.ne_of_lt (s.store.eventIds_lt e' hold))]
      · -- the new event has the new alert
        rw [List.mem_singleton.mp hnew]
        have hone : (s.store.create window row now).linked s.store.nextEventId =
            [s.store.linkedAlert row now s.store.nextEventId] := by
          rw [hlinked, if_pos rfl, h.numbered.linked_nextEventId, List.nil_append]
        constructor
        · show 1 = ((s.store.create window row now).linked s.store.nextEventId).length
          rw [hone, List.length_singleton]
        · show ((s.store.create window row now).linked s.store.nextEventId).getLast?.map _ = _
          rw [hone]
          rfl
        · show ∃ a ∈ (s.store.create window row now).linked s.store.nextEventId, _
          rw [hone]
          exact ⟨_, List.mem_singleton_self _, rfl⟩
        · show ∀ a ∈ (s.store.create window row now).linked s.store.nextEventId, _
          rw [hone]
          intro a ha
          rw [List.mem_singleton.mp ha]
          exact le_refl _
        · exact le_refl now
        · show ∀ a ∈ (s.store.create window row now).linked s.store.nextEventId, _
          rw [hone]
          intro a ha
          rw [List.mem_singleton.mp ha]
          exact ⟨le_refl now, le_refl now⟩
  · intro e' he'
    show e'.eventEndedAt ≤ now
    rcases create_cases h.numbered window row now with
      ⟨event, -, -, hevents⟩ | ⟨-, -, hevents⟩
    · rw [show ({ store := s.store.create window row now, clock := now } : Clocked).store.events = _
        from hevents] at he'
      obtain ⟨e, he, rfl⟩ := List.mem_map.mp he'
      unfold AlertStore.updatedRow
      split
      · exact le_refl now
      · exact (h.ended_le e he).trans hclock
    · rw [show ({ store := s.store.create window row now, clock := now } : Clocked).store.events = _
        from hevents] at he'
      rcases List.mem_append.mp he' with hold | hnew
      · exact (h.ended_le e' hold).trans hclock
      · rw [List.mem_singleton.mp hnew]
        exact le_refl now

theorem Sound.commitAlert {s : Clocked} (h : Sound s) (hclock : s.clock ≤ now) (row : AlertMessage) :
    Sound { store := s.store.commitAlert row now, clock := now } := by
  refine ⟨h.numbered.commitAlert row now, fun e he => ?_, fun e he => (h.ended_le e he).trans hclock⟩
  refine (h.aggregated e he).congr ?_
  show (s.store.alerts ++ [s.store.freshAlert row now]).filter _ = _
  simp [AlertStore.linked, AlertStore.freshAlert]

/-- **An operation keeps the invariant.** -/
theorem Sound.step {s s' : Clocked} (h : Sound s) {label : Operation × Time}
    (hstep : s.step window label = some s') : Sound s' := by
  obtain ⟨op, now⟩ := label
  unfold Clocked.step at hstep
  split at hstep
  · rename_i hclock
    cases hstep
    cases hop : op.reworks with
    | true => exact h.reworked hclock (reworked_apply window s.store now hop)
    | false =>
      cases op with
      | create row => exact h.create hclock window row
      | createUnlinked row => exact h.commitAlert hclock row
      | _ => cases hop
  · cases hstep

/-- **In every run of operations every event has the aggregates of its alerts.** -/
theorem aggregated_of_run (window : ℤ) {labels : List (Operation × Time)} {s : Clocked}
    (h : Run (Clocked.step window) Always { clock := clock } labels s) :
    ∀ e ∈ s.store.events, Aggregated s.store e := by
  have hsound : Sound s := by
    refine h.invariant (fun s label s' hs _ hstep => hs.step hstep) ?_
    exact ⟨numbered_empty, fun e he => (by cases he), fun e he => (by cases he)⟩
  exact hsound.aggregated

/-- Two alerts of an event that is acknowledged and resolved. -/
def cpuOperations : List (Operation × Time) := [
  (.create cpuRow, 0), (.create { cpuRow with severity := .high }, 1), (.acknowledgeEvent 1, 2),
  (.resolveEvent 1, 3)]

/-- The tables after these operations. -/
def afterOperations : Clocked :=
  (exec (Clocked.step 30) Always (.start 0) cpuOperations).getD (.start 0)

/-- The one event has the aggregates of its two alerts. -/
theorem afterOperations_aggregated : afterOperations.store.events.length = 1 ∧
    ∀ e ∈ afterOperations.store.events, Aggregated afterOperations.store e :=
  ⟨by decide, aggregated_of_run 30 (.of_isSome (by decide))⟩

end DBClaw.Alerts
