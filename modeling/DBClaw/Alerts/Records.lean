import DBClaw.Library.Json
import Mathlib.Data.Int.Order.Basic

/-! # Alert records
The rows of `alert_message`, `alert_event`, `alert_delivery_log` and `alert_subscription`, with the
columns that alerting reads and writes, and the severity order it shares. Times are microseconds
since the epoch in UTC, which is what Python's aware datetimes compare and subtract by. -/

namespace DBClaw.Alerts

/-! ## Time -/

/-- A UTC datetime, in microseconds since the epoch. -/
abbrev Time := ℤ

/-- The order of the integers; `argmax` compares by it. -/
instance : Preorder Time := Int.instLinearOrder.toPreorder

namespace Time

/-- A number of seconds. -/
def seconds (n : ℤ) : Time := n * 1000000

/-- A number of minutes. -/
def minutes (n : ℤ) : Time := seconds (60 * n)

/-- More minutes are no shorter. -/
theorem minutes_mono {m n : ℤ} (h : m ≤ n) : minutes m ≤ minutes n :=
  Int.mul_le_mul_of_nonneg_right (Int.mul_le_mul_of_nonneg_left h (by decide)) (by decide)

/-- `datetime.hour`. -/
def hour (t : Time) : ℤ := t / minutes 60 % 24

/-- `datetime.weekday()`: Monday is 0, and the epoch was a Thursday. -/
def weekday (t : Time) : ℤ := (t / minutes (24 * 60) + 3) % 7

end Time

/-! ## Severity -/

/-- A severity. Rules with another one are refused when they are saved. -/
inductive Severity
  | low | medium | high | critical
  deriving DecidableEq, Repr

/-- `SEVERITY_ORDER`. -/
def Severity.order : Severity → ℕ
  | .low => 1
  | .medium => 2
  | .high => 3
  | .critical => 4

/-- The text of a severity. -/
def Severity.text : Severity → String
  | .low => "low"
  | .medium => "medium"
  | .high => "high"
  | .critical => "critical"

/-! ## Rows -/

/-- `status` of an alert or an event. -/
inductive Status
  | active | acknowledged | resolved
  deriving DecidableEq, Repr

/-- `status.in_(["active", "acknowledged"])`. -/
def Status.isOpen : Status → Bool
  | .active | .acknowledged => true
  | .resolved => false

/-- A row of `alert_message`. -/
structure AlertMessage where
  id : ℕ
  datasourceId : ℕ
  alertType : String
  severity : Severity
  title : Text := []
  content : Text := []
  metricName : Option String := none
  metricValue : Option PyFloat := none
  thresholdValue : Option PyFloat := none
  status : Status := .active
  eventId : Option ℕ := none
  notifiedAt : Option Time := none
  createdAt : Time
  deriving DecidableEq, Repr

/-- `aggregation_key`, the text `datasource_id:name`; the number has no colon in it, so that the text
determines both. -/
structure AggregationKey where
  datasourceId : ℕ
  name : String
  deriving DecidableEq, Repr

/-- A row of `alert_event`. -/
structure AlertEvent where
  id : ℕ
  datasourceId : ℕ
  aggregationKey : AggregationKey
  latestAlertId : ℕ
  alertCount : ℕ := 1
  eventStartedAt : Time
  eventEndedAt : Time
  status : Status := .active
  severity : Severity
  alertType : String
  metricName : Option String := none
  lifecycleStage : String := "created"
  diagnosisTriggerReason : String := "event_created"
  deriving DecidableEq, Repr

/-- `status` of a delivery. -/
inductive DeliveryStatus
  | sent | failed
  deriving DecidableEq, Repr

/-- A row of `alert_delivery_log`. -/
structure AlertDeliveryLog where
  alertId : ℕ
  subscriptionId : ℕ
  targetId : Option String := none
  channel : Text
  status : DeliveryStatus
  sentAt : Option Time
  createdAt : Time
  deriving DecidableEq, Repr

/-- When a delivery counts as made: `sent_at or created_at`. -/
def AlertDeliveryLog.time (log : AlertDeliveryLog) : Time := log.sentAt.getD log.createdAt

/-- An entry of `time_ranges`; the two bounds are in minutes of the day, `none` where reading
`HH:MM` raises. -/
structure TimeRange where
  days : List ℤ
  startMinutes : Option ℤ
  endMinutes : Option ℤ
  deriving DecidableEq, Repr

/-- An entry of `integration_targets`. -/
structure Target where
  targetId : Option String := none
  name : Option String := none
  enabled : Bool := true
  /-- `"alert" in (target.get("notify_on") or ["alert"])`. -/
  notifyOnAlert : Bool := true
  /-- `"recovery" in (target.get("notify_on") or ["alert", "recovery"])`. -/
  notifyOnRecovery : Bool := true
  integrationId : Option ℕ
  /-- The names of the parameters that have a truthy value. -/
  params : List String := []
  deriving DecidableEq, Repr

/-- A row of `alert_subscription`. -/
structure AlertSubscription where
  id : ℕ
  datasourceIds : List ℕ := []
  severityLevels : List Severity := []
  timeRanges : List TimeRange := []
  integrationTargets : List Target := []
  aggregationScript : Option Text := none
  isEnabled : Bool := true
  isDeleted : Bool := false
  deriving DecidableEq, Repr

end DBClaw.Alerts
