import DBClaw.Alerts.Records
import Mathlib.Data.List.MinMax
import Mathlib.Data.List.Nodup

/-! # Creating and resolving alerts
`AlertService.create_alert` and `resolve_alert` with the event service behind them. A new alert joins
the open event of its datasource and metric when that event ended recently enough, and raises its
severity; a repeated one only moves the end of the event. Each await of `create_alert` may fail, and
what was committed before stays. -/

namespace DBClaw.Alerts

/-- The committed alerts and events; the ids of the events are their primary keys. -/
structure AlertStore where
  alerts : List AlertMessage := []
  events : List AlertEvent := []
  nextAlertId : ℕ := 1
  nextEventId : ℕ := 1
  eventIds : (events.map AlertEvent.id).Nodup := by exact List.nodup_nil
  eventIds_lt : ∀ e ∈ events, e.id < nextEventId := by exact List.forall_mem_nil _

instance : Inhabited AlertStore := ⟨{}⟩

/-- Where creating an alert and starting its inspection fails. -/
inductive Failure
  | none
  /-- Before the row of the alert is committed. -/
  | beforeCommit
  /-- With the row committed and no event linked to it. -/
  | afterCommit
  /-- With the alert linked to its event: the inspection does not start. -/
  | afterLink
  deriving DecidableEq, Repr

/-- What `create_alert` is called with. -/
structure AlertDraft where
  datasourceId : ℕ
  alertType : String
  severity : Severity
  metricName : String
  metricValue : PyFloat
  thresholdValue : Option PyFloat
  deriving DecidableEq, Repr

/-- `aggregation_key` of an alert: by metric, or by type without one. -/
def aggregationKey (alert : AlertMessage) : AggregationKey where
  datasourceId := alert.datasourceId
  name :=
    match alert.metricName with
    | some metricName => if metricName = "" then alert.alertType else metricName
    | none => alert.alertType

namespace AlertStore

/-- The open event of a key that ended last, among those that ended since `since`. -/
def openEvent (store : AlertStore) (key : AggregationKey) (since : Option Time) :
    Option AlertEvent :=
  (store.events.filter fun e => e.aggregationKey = key ∧ e.status.isOpen ∧
    ∀ t ∈ since, t ≤ e.eventEndedAt).argmax AlertEvent.eventEndedAt

/-- An event's row after a change of the row with this id; the id stays. -/
def updatedRow (id : ℕ) (f : AlertEvent → AlertEvent) (e : AlertEvent) : AlertEvent :=
  if e.id = id then { f e with id := e.id } else e

@[simp] theorem updatedRow_id (id : ℕ) (f : AlertEvent → AlertEvent) (e : AlertEvent) :
    (updatedRow id f e).id = e.id := by
  unfold updatedRow
  split <;> rfl

/-- The events after a change of the row with this id. -/
def updatedEvents (events : List AlertEvent) (id : ℕ) (f : AlertEvent → AlertEvent) :
    List AlertEvent :=
  events.map (updatedRow id f)

/-- A change of a row keeps the ids. -/
theorem updatedEvents_ids (events : List AlertEvent) (id : ℕ) (f : AlertEvent → AlertEvent) :
    (updatedEvents events id f).map AlertEvent.id = events.map AlertEvent.id := by
  rw [updatedEvents, List.map_map]
  exact List.map_congr_left fun e _ => updatedRow_id id f e

/-- An event's row changes. -/
def updateEvent (store : AlertStore) (id : ℕ) (f : AlertEvent → AlertEvent) : AlertStore :=
  { store with
    events := updatedEvents store.events id f
    eventIds := by rw [updatedEvents_ids]; exact store.eventIds
    eventIds_lt := by
      intro e he
      have hid : e.id ∈ store.events.map AlertEvent.id := by
        rw [← updatedEvents_ids store.events id f]
        exact List.mem_map_of_mem he
      obtain ⟨old, hold, hsame⟩ := List.mem_map.mp hid
      rw [← hsame]
      exact store.eventIds_lt old hold }

/-- An alert's row changes. -/
def updateAlert (store : AlertStore) (id : ℕ) (f : AlertMessage → AlertMessage) : AlertStore :=
  { store with alerts := store.alerts.map fun a => if a.id = id then f a else a }

/-- `_add_alert_to_event`, on the event's row. -/
def addAlertToEvent (alert : AlertMessage) (event : AlertEvent) : AlertEvent :=
  let escalated := event.severity.order < alert.severity.order
  { event with
    latestAlertId := alert.id
    alertCount := event.alertCount + 1
    eventEndedAt := alert.createdAt
    status := alert.status
    severity := if escalated then alert.severity else event.severity
    lifecycleStage := if escalated then "escalated" else "active"
    diagnosisTriggerReason :=
      if escalated then "severity_escalated" else event.diagnosisTriggerReason }

/-- `_create_new_event`. -/
def newEvent (store : AlertStore) (alert : AlertMessage) : AlertEvent where
  id := store.nextEventId
  datasourceId := alert.datasourceId
  aggregationKey := aggregationKey alert
  latestAlertId := alert.id
  eventStartedAt := alert.createdAt
  eventEndedAt := alert.createdAt
  status := alert.status
  severity := alert.severity
  alertType := alert.alertType
  metricName := alert.metricName

/-- An event's row is added, with the next id. -/
def addEvent (store : AlertStore) (event : AlertEvent) (hid : event.id = store.nextEventId) :
    AlertStore :=
  { store with
    events := store.events ++ [event]
    nextEventId := store.nextEventId + 1
    eventIds := by
      rw [List.map_append, List.nodup_append]
      refine ⟨store.eventIds, List.nodup_singleton _, fun x hx y hy => ?_⟩
      obtain ⟨old, hold, rfl⟩ := List.mem_map.mp hx
      rw [List.map_singleton, List.mem_singleton] at hy
      have hlt := store.eventIds_lt old hold
      omega
    eventIds_lt := by
      intro e he
      obtain hold | hnew := List.mem_append.mp he
      · exact Nat.lt_succ_of_lt (store.eventIds_lt e hold)
      · rw [List.mem_singleton.mp hnew, hid]
        exact Nat.lt_succ_self _ }

/-- **`process_new_alert`**: the event of the alert, and the store with it; `window` is
`ALERT_AGGREGATION_TIME_WINDOW_MINUTES`. -/
def processNewAlert (window : ℤ) (store : AlertStore) (alert : AlertMessage) : ℕ × AlertStore :=
  match store.openEvent (aggregationKey alert) (some (alert.createdAt - Time.minutes window)) with
  | some event => (event.id, store.updateEvent event.id (addAlertToEvent alert))
  | none => (store.nextEventId, store.addEvent (store.newEvent alert) rfl)

/-- The row that `create_alert` adds. -/
def newAlert (store : AlertStore) (draft : AlertDraft) (now : Time) : AlertMessage where
  id := store.nextAlertId
  datasourceId := draft.datasourceId
  alertType := draft.alertType
  severity := draft.severity
  metricName := some draft.metricName
  metricValue := some draft.metricValue
  thresholdValue := draft.thresholdValue
  createdAt := now

/-- **`create_alert`**, up to where it fails. -/
def createAlert (window : ℤ) (store : AlertStore) (draft : AlertDraft) (now : Time)
    (failure : Failure) : AlertStore :=
  let alert := store.newAlert draft now
  match failure with
  | .beforeCommit => store
  | .afterCommit =>
    { store with alerts := store.alerts ++ [alert], nextAlertId := store.nextAlertId + 1 }
  | .none | .afterLink =>
    let (eventId, linked) := store.processNewAlert window alert
    { linked with
      alerts := store.alerts ++ [{ alert with eventId := some eventId }]
      nextAlertId := store.nextAlertId + 1 }

/-- `update_active_event_time` of a datasource and a metric. -/
def updateActiveEventTime (store : AlertStore) (key : AggregationKey) (now : Time) : AlertStore :=
  match store.openEvent key none with
  | some event => store.updateEvent event.id ({ · with eventEndedAt := now })
  | none => store

/-- `check_and_auto_resolve_event`. -/
def checkAndAutoResolveEvent (store : AlertStore) (eventId : ℕ) (now : Time) : AlertStore :=
  let alerts := store.alerts.filter fun a => a.eventId = some eventId
  if alerts ≠ [] ∧ ∀ a ∈ alerts, a.status = .resolved then
    store.updateEvent eventId fun e =>
      if e.status = .resolved then e
      else { e with
        status := .resolved
        eventEndedAt := now
        lifecycleStage := "recovered"
        diagnosisTriggerReason := "event_recovered" }
  else store

/-- **`resolve_alert`**. -/
def resolveAlert (store : AlertStore) (alert : AlertMessage) (now : Time) : AlertStore :=
  let resolved := store.updateAlert alert.id ({ · with status := .resolved })
  match alert.eventId with
  | some eventId => resolved.checkAndAutoResolveEvent eventId now
  | none => resolved

/-- The open alerts of a datasource and a type. -/
def openAlerts (store : AlertStore) (datasourceId : ℕ) (alertType : String) :
    List AlertMessage :=
  store.alerts.filter fun a =>
    a.datasourceId = datasourceId ∧ a.alertType = alertType ∧ a.status.isOpen

/-- There is an open alert of this datasource, type and metric. -/
def hasOpenAlert (store : AlertStore) (datasourceId : ℕ) (alertType metricName : String) : Bool :=
  (store.openAlerts datasourceId alertType).any fun a => a.metricName = some metricName

/-- **There is an unresolved alert of this datasource and metric**, of whatever type. -/
def hasUnresolved (store : AlertStore) (datasourceId : ℕ) (metricName : String) : Bool :=
  store.alerts.any fun a =>
    a.datasourceId = datasourceId ∧ a.metricName = some metricName ∧ a.status.isOpen

end AlertStore

end DBClaw.Alerts
