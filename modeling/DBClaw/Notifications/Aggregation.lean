import DBClaw.Alerts.Records
import Mathlib.Data.List.MinMax

/-! # The aggregation engine
`AggregationEngine.should_send_alert`: the default rule with its cooldown and its exception for an
escalated severity, and the custom script of a subscription. `ScriptDecides` is the documented
purpose of the script; `execute_custom_script` reads `now.hour` off the function `now` before it
runs the script, so the default rule decides instead whatever the script says. -/

namespace DBClaw.Notifications

open DBClaw.Alerts

/-- The rows that the engine queries, and the configured `notification_cooldown_minutes`. -/
structure Db where
  alerts : List AlertMessage := []
  deliveryLogs : List AlertDeliveryLog := []
  notificationCooldownMinutes : Option ℤ := some 60

/-! ## The default rule -/

/-- `_get_notification_cooldown_minutes`. -/
def Db.cooldownMinutes (db : Db) : ℤ := db.notificationCooldownMinutes.getD 0

/-- `_is_severity_escalated`; the rank of a severity is its place in `SEVERITY_ORDER`. -/
def isSeverityEscalated (current : Severity) (previous : List Severity) : Bool :=
  (previous.map Severity.order).foldr max 0 < current.order

/-- The deliveries of an event to a subscription, with the severities of the alerts they were for:
the sent ones that are not recovery notifications. -/
def eventDeliveries (db : Db) (subscriptionId eventId : ℕ) : List (AlertDeliveryLog × Severity) :=
  db.deliveryLogs.flatMap fun log =>
    if log.subscriptionId = subscriptionId ∧ log.status = .sent ∧
        Text.contains log.channel "recovery".toList = false then
      (db.alerts.filter fun a => a.id = log.alertId ∧ a.eventId = some eventId).map
        fun a => (log, a.severity)
    else []

/-- **`_default_aggregation_rule`** at a time. -/
def defaultAggregationRule (db : Db) (alert : AlertMessage) (subscription : AlertSubscription)
    (now : Time) : Bool :=
  match alert.eventId with
  | none => true
  | some eventId =>
    let deliveries := eventDeliveries db subscription.id eventId
    match (deliveries.map (·.1.time)).max? with
    | none => true
    | some latest =>
      if isSeverityEscalated alert.severity (deliveries.map (·.2)) then true
      else ! (0 < db.cooldownMinutes && now - latest < Time.minutes db.cooldownMinutes)

/-! ## The custom script -/

/-- What can be raised on the way to the script's result. -/
inductive PyError
  | attributeError (message : String)
  | valueError (message : String)
  /-- Whatever the script raises. -/
  | raised
  deriving DecidableEq, Repr

/-- `alert_info`. -/
structure AlertInfo where
  datasourceId : ℕ
  alertType : String
  severity : Severity
  metricName : Option String
  metricValue : Option PyFloat
  thresholdValue : Option PyFloat
  title : Text
  content : Text
  deriving DecidableEq, Repr

/-- An item of `delivery_history`. -/
structure HistoryItem where
  sentAt : Option Time
  channel : Text
  status : DeliveryStatus
  alertId : ℕ
  deriving DecidableEq, Repr

/-- `current_time`. -/
structure CurrentTime where
  datetime : Time
  hour : ℤ
  weekday : ℤ
  isBusinessHours : Bool
  deriving DecidableEq, Repr

/-- The arguments of `should_send`. -/
structure ScriptInput where
  alertInfo : AlertInfo
  deliveryHistory : List HistoryItem
  similarAlertsCount : ℕ
  currentTime : CurrentTime
  deriving DecidableEq, Repr

/-- **The Python interpreter** as `_execute_sandboxed` uses it on a script: `define` parses the script
and executes it, and gives the `should_send` it defines, if any; calling that may raise (or time
out), and so may taking the truth value of its result. -/
structure Interpreter (Obj : Type) where
  define : Text → Except PyError (Option (ScriptInput → Except PyError Obj))
  truth : Obj → Except PyError Bool

/-- What `should_send_alert` returns, and which of the two rules said so. -/
inductive Decision
  | byScript (send : Bool)
  | byDefaultRule (send : Bool)
  deriving DecidableEq, Repr

/-- The value that is returned. -/
def Decision.send : Decision → Bool
  | .byScript send | .byDefaultRule send => send

/-- The alert that the script is told of. -/
def alertInfo (alert : AlertMessage) : AlertInfo where
  datasourceId := alert.datasourceId
  alertType := alert.alertType
  severity := alert.severity
  metricName := alert.metricName
  metricValue := alert.metricValue
  thresholdValue := alert.thresholdValue
  title := alert.title
  content := alert.content

/-- The deliveries to the subscription in the last 24 hours. -/
def deliveryHistory (db : Db) (subscription : AlertSubscription) (now : Time) : List HistoryItem :=
  (db.deliveryLogs.filter fun log => log.subscriptionId = subscription.id ∧
    now - Time.minutes (24 * 60) ≤ log.createdAt).map fun log =>
      { sentAt := log.sentAt, channel := log.channel, status := log.status, alertId := log.alertId }

/-- The alerts of the same datasource and type in the last ten minutes. -/
def similarAlertsCount (db : Db) (alert : AlertMessage) (now : Time) : ℕ :=
  (db.alerts.filter fun a => a.datasourceId = alert.datasourceId ∧ a.alertType = alert.alertType ∧
    now - Time.minutes 10 ≤ a.createdAt).length

/-- An attribute of a function object that functions do not have. -/
def functionAttribute (name : String) : Except PyError ℤ :=
  .error (.attributeError s!"'function' object has no attribute '{name}'")

/-- `9 <= now.hour < 18 and now.weekday() < 5`, where `now` is the imported function and not the time
that calling it returned. -/
def isBusinessHours : Except PyError Bool := do
  let hour ← functionAttribute "hour"
  if 9 ≤ hour ∧ hour < 18 then
    let weekday ← functionAttribute "weekday"
    return weekday < 5
  else return false

/-- The dictionary `current_time` that `execute_custom_script` builds. -/
def currentTime (now : Time) : Except PyError CurrentTime := do
  let businessHours ← isBusinessHours
  return { datetime := now, hour := now.hour, weekday := now.weekday, isBusinessHours := businessHours }

variable {Obj : Type}

/-- `_execute_sandboxed`. -/
def executeSandboxed (interpreter : Interpreter Obj) (script : Text) (input : ScriptInput) :
    Except PyError Obj := do
  match ← interpreter.define script with
  | none => throw (.valueError "Script must define a 'should_send' function")
  | some shouldSend => shouldSend input

/-- The `try` block of `execute_custom_script`. -/
def tryCustomScript (interpreter : Interpreter Obj) (db : Db) (alert : AlertMessage)
    (subscription : AlertSubscription) (script : Text) (now : Time) : Except PyError Bool := do
  let time ← currentTime now
  let result ← executeSandboxed interpreter script {
    alertInfo := alertInfo alert
    deliveryHistory := deliveryHistory db subscription now
    similarAlertsCount := similarAlertsCount db alert now
    currentTime := time }
  interpreter.truth result

/-- `execute_custom_script`. -/
def executeCustomScript (interpreter : Interpreter Obj) (db : Db) (alert : AlertMessage)
    (subscription : AlertSubscription) (script : Text) (now : Time) : Decision :=
  match tryCustomScript interpreter db alert subscription script now with
  | .ok send => .byScript send
  | .error _ => .byDefaultRule (defaultAggregationRule db alert subscription now)

/-- **`should_send_alert`**: the custom script of the subscription, if it has one, and else the
default rule. -/
def shouldSendAlert (interpreter : Interpreter Obj) (db : Db) (alert : AlertMessage)
    (subscription : AlertSubscription) (now : Time) : Decision :=
  match subscription.aggregationScript with
  | none | some [] => .byDefaultRule (defaultAggregationRule db alert subscription now)
  | some script => executeCustomScript interpreter db alert subscription script now

/-! ## What the script is for -/

/-- **The documented input of a script**: the alert, the deliveries of the last 24 hours, the number
of similar alerts of the last ten minutes, and the current time. -/
def documentedInput (db : Db) (alert : AlertMessage) (subscription : AlertSubscription)
    (now : Time) : ScriptInput where
  alertInfo := alertInfo alert
  deliveryHistory := deliveryHistory db subscription now
  similarAlertsCount := similarAlertsCount db alert now
  currentTime := {
    datetime := now
    hour := now.hour
    weekday := now.weekday
    isBusinessHours := 9 ≤ now.hour && now.hour < 18 && now.weekday < 5 }

/-- What the subscription's script says of an input: the truth value of the result, `none` when
there is no script or it fails. -/
def scriptVerdict (interpreter : Interpreter Obj) (subscription : AlertSubscription)
    (input : ScriptInput) : Option Bool :=
  match subscription.aggregationScript with
  | none | some [] => none
  | some script => (executeSandboxed interpreter script input >>= interpreter.truth).toOption

/-- **The script decides**: what it says of the documented input is what is returned, and the default
rule is used only when it says nothing. -/
def ScriptDecides (interpreter : Interpreter Obj) (db : Db) (alert : AlertMessage)
    (subscription : AlertSubscription) (now : Time) : Prop :=
  match scriptVerdict interpreter subscription (documentedInput db alert subscription now) with
  | some send => shouldSendAlert interpreter db alert subscription now = .byScript send
  | none => shouldSendAlert interpreter db alert subscription now
      = .byDefaultRule (defaultAggregationRule db alert subscription now)

variable (interpreter : Interpreter Obj) (db : Db) (alert : AlertMessage)
  (subscription : AlertSubscription) (now : Time)

/-- No script is ever reached. -/
theorem tryCustomScript_eq_error (script : Text) :
    tryCustomScript interpreter db alert subscription script now
      = .error (.attributeError "'function' object has no attribute 'hour'") := rfl

/-- **The default rule always decides.** -/
theorem shouldSendAlert_eq_default :
    shouldSendAlert interpreter db alert subscription now
      = .byDefaultRule (defaultAggregationRule db alert subscription now) := by
  unfold shouldSendAlert
  split
  · rfl
  · rfl
  · rw [executeCustomScript, tryCustomScript_eq_error]

/-- **The script decides exactly when there is none or it fails on the documented input.** -/
theorem scriptDecides_iff :
    ScriptDecides interpreter db alert subscription now ↔
      scriptVerdict interpreter subscription (documentedInput db alert subscription now) = none := by
  rw [ScriptDecides]
  split
  · rename_i send hverdict
    rw [shouldSendAlert_eq_default, hverdict]
    exact ⟨(by intro h; cases h), (by intro h; cases h)⟩
  · rename_i hverdict
    rw [shouldSendAlert_eq_default]
    exact ⟨fun _ => hverdict, fun _ => rfl⟩

/-- Python on `def should_send(...): return False`. -/
def neverSend : Interpreter Bool where
  define _ := .ok (some fun _ => .ok false)
  truth send := .ok send

/-- A subscription that never wants to be notified. -/
def silentSubscription : AlertSubscription where
  id := 1
  aggregationScript := some "def should_send(a, h, n, t):\n    return False".toList

/-- An alert outside of any event. -/
def cpuAlert : AlertMessage where
  id := 1
  datasourceId := 1
  alertType := "threshold_violation"
  severity := .high
  metricName := some "cpu_usage"
  createdAt := 0

/-- **A script that always declines is overruled**: the alert is sent. -/
theorem silentSubscription_sends :
    scriptVerdict neverSend silentSubscription (documentedInput {} cpuAlert silentSubscription 0)
      = some false ∧
    (shouldSendAlert neverSend {} cpuAlert silentSubscription 0).send = true ∧
    ¬ ScriptDecides neverSend {} cpuAlert silentSubscription 0 := by
  refine ⟨by rfl, by rfl, fun h => ?_⟩
  cases (scriptDecides_iff neverSend {} cpuAlert silentSubscription 0).mp h

end DBClaw.Notifications
