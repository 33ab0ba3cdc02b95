import DBClaw.Library.Runs
import DBClaw.Notifications.Aggregation

/-! # The notification dispatcher
`_process_pending_alerts`: what one dispatch cycle sends for the active alerts that are due. A cycle
goes through the alerts and, for each, through the subscriptions; a subscription that is not held back
gets the alert on all of its open targets, and one target that succeeds is enough for the alert to
count as notified. What is sent is kept in the delivery logs; `Delivery` also says for which target a
log was written, which the log's own columns need not determine. -/

namespace DBClaw.Notifications

open DBClaw.Alerts

/-! ## What a cycle reads -/

/-- A row of `datasource`. -/
structure Datasource where
  id : ℕ
  isDeleted : Bool := false
  silenceUntil : Option Time := none
  deriving DecidableEq, Repr

/-- A row of `integration`; `requiredParams` is what `_get_required_integration_params` finds in its
schema. -/
structure Integration where
  id : ℕ
  integrationId : Text
  isEnabled : Bool := true
  isDeleted : Bool := false
  requiredParams : List String := []
  deriving DecidableEq, Repr

/-- The tables that the dispatcher reads and writes; the ids of alerts and subscriptions are their
primary keys. -/
structure Site where
  db : Db := {}
  datasources : List Datasource := []
  integrations : List Integration := []
  subscriptions : List AlertSubscription := []
  alertIds : (db.alerts.map AlertMessage.id).Nodup := by simp
  subscriptionIds : (subscriptions.map AlertSubscription.id).Nodup := by simp

/-- One dispatch cycle: when it is, and how a delivery of an alert to the target of a subscription at
a position ends. -/
structure Cycle where
  now : Time
  outcome : (alertId subscriptionId position : ℕ) → DeliveryStatus

/-- A delivery that was attempted, and its log. -/
structure Delivery where
  target : Target
  log : AlertDeliveryLog
  deriving DecidableEq, Repr

/-! ## Which alerts and subscriptions -/

/-- The datasource with this id that is not deleted. -/
def Site.datasource (site : Site) (id : ℕ) : Option Datasource :=
  site.datasources.find? fun d => d.id = id ∧ d.isDeleted = false

/-- `get_pending_notifications` returns this alert. -/
def isPending (site : Site) (now : Time) (alert : AlertMessage) : Bool :=
  alert.status = .active ∧
    (∀ t ∈ alert.notifiedAt, t ≤ now - Time.minutes (max site.db.cooldownMinutes 0)) ∧
    (alert.datasourceId = 0 ∨ (site.datasource alert.datasourceId).isSome)

/-- `get_pending_notifications`. -/
def pendingNotifications (site : Site) (now : Time) : List AlertMessage :=
  site.db.alerts.filter (isPending site now)

/-- `get_all_subscriptions`. -/
def allSubscriptions (site : Site) : List AlertSubscription :=
  site.subscriptions.filter fun s => s.isDeleted = false ∧ s.isEnabled

/-- `_has_active_network_probe_failure`. -/
def hasActiveNetworkProbeFailure (site : Site) : Bool :=
  site.db.alerts.any fun a =>
    a.alertType = "system_error" ∧ a.metricName = some "network_probe" ∧ a.status.isOpen

/-- `_should_skip_for_probe_failure`. -/
def shouldSkipForProbeFailure (alert : AlertMessage) (hasProbeFailure : Bool) : Bool :=
  hasProbeFailure && alert.metricName ≠ some "network_probe"

/-- `_is_datasource_silenced`, without its clearing of a silence that is over. -/
def isDatasourceSilenced (site : Site) (datasourceId : ℕ) (now : Time) : Bool :=
  ((site.datasource datasourceId).bind Datasource.silenceUntil).any (now < ·)

/-- The silence that `_is_datasource_silenced` finds to be over is cleared. -/
def Site.clearSilence (site : Site) (datasourceId : ℕ) : Site :=
  { site with
    datasources := site.datasources.map fun d =>
      if d.id = datasourceId ∧ d.isDeleted = false then { d with silenceUntil := none } else d }

/-- The alert is not sent to anyone: a probe failure, the silence or the deletion of its datasource. -/
def isHeldBack (site : Site) (now : Time) (alert : AlertMessage) : Bool :=
  shouldSkipForProbeFailure alert (hasActiveNetworkProbeFailure site) ||
    isDatasourceSilenced site alert.datasourceId now ||
    (alert.datasourceId ≠ 0 && (site.datasource alert.datasourceId).isNone)

/-- The time falls into one of the ranges, `none` where reading one of them raises before that. -/
def inTimeRanges (now : Time) : List TimeRange → Option Bool
  | [] => some false
  | range :: ranges =>
    if now.weekday ∉ range.days then inTimeRanges now ranges
    else
      match range.startMinutes, range.endMinutes with
      | some first, some last =>
        if first ≤ now / Time.minutes 1 % (24 * 60) ∧ now / Time.minutes 1 % (24 * 60) ≤ last then
          some true
        else inTimeRanges now ranges
      | _, _ => none

/-- `check_subscription_match`, `none` where it raises. -/
def checkSubscriptionMatch (alert : AlertMessage) (subscription : AlertSubscription) (now : Time) :
    Option Bool :=
  if subscription.datasourceIds ≠ [] ∧ alert.datasourceId ≠ 0 ∧
      alert.datasourceId ∉ subscription.datasourceIds then some false
  else if subscription.severityLevels ≠ [] ∧ alert.severity ∉ subscription.severityLevels then
    some false
  else if subscription.timeRanges = [] then some true
  else inTimeRanges now subscription.timeRanges

/-- `_already_delivered`. -/
def alreadyDelivered (db : Db) (alertId subscriptionId : ℕ) (now : Time) : Bool :=
  db.deliveryLogs.any fun log =>
    log.alertId = alertId ∧ log.subscriptionId = subscriptionId ∧ log.status = .sent ∧
      (0 < db.cooldownMinutes → ∃ t ∈ log.sentAt, now - Time.minutes db.cooldownMinutes ≤ t)

/-! ## Sending -/

/-- The integration that a target sends through: alerts are sent to enabled targets through enabled
integrations. -/
def openIntegration (site : Site) (target : Target) : Option Integration :=
  if target.enabled = false ∨ target.notifyOnAlert = false then none
  else
    match target.integrationId with
    | none | some 0 => none
    | some id => (site.integrations.find? fun i => i.id = id ∧ i.isDeleted = false).filter
        fun i => i.isEnabled

/-- One target of `_send_via_integration`; a missing parameter fails without a call. -/
def deliver (site : Site) (cycle : Cycle) (alert : AlertMessage) (subscription : AlertSubscription)
    (target : Target) (position : ℕ) : Option Delivery :=
  (openIntegration site target).map fun integration =>
    { target := target
      log := {
        alertId := alert.id
        subscriptionId := subscription.id
        targetId := target.targetId
        channel := "integration:".toList ++ integration.integrationId
        status :=
          if ∀ key ∈ integration.requiredParams, key ∈ target.params then
            cycle.outcome alert.id subscription.id position
          else .failed
        sentAt := some cycle.now
        createdAt := cycle.now } }

/-- **`_send_via_integration`**. -/
def sendViaIntegration (site : Site) (cycle : Cycle) (alert : AlertMessage)
    (subscription : AlertSubscription) : List Delivery :=
  if alert.datasourceId ≠ 0 ∧ (site.datasource alert.datasourceId).isNone then []
  else subscription.integrationTargets.zipIdx.filterMap fun (target, position) =>
    deliver site cycle alert subscription target position

/-- What a cycle has done so far. -/
structure Work where
  site : Site
  deliveries : List Delivery := []

/-- The row of an alert after `_mark_alert_notified`. -/
def markNotified (alertId : ℕ) (now : Time) (a : AlertMessage) : AlertMessage :=
  if a.id = alertId then { a with notifiedAt := some now } else a

@[simp] theorem markNotified_id (alertId : ℕ) (now : Time) (a : AlertMessage) :
    (markNotified alertId now a).id = a.id := by
  unfold markNotified
  split <;> rfl

@[simp] theorem markNotified_ids (alertId : ℕ) (now : Time) (alerts : List AlertMessage) :
    (alerts.map (markNotified alertId now)).map AlertMessage.id = alerts.map AlertMessage.id := by
  rw [List.map_map]
  exact List.map_congr_left fun a _ => markNotified_id alertId now a

/-- `_mark_alert_notified`. -/
def Site.markAlertNotified (site : Site) (alertId : ℕ) (now : Time) : Site :=
  { site with
    db := { site.db with alerts := site.db.alerts.map (markNotified alertId now) }
    alertIds := by
      rw [markNotified_ids]
      exact site.alertIds }

/-- The logs of deliveries are written. -/
def Site.addLogs (site : Site) (deliveries : List Delivery) : Site :=
  { site with
    db := { site.db with deliveryLogs := site.db.deliveryLogs ++ deliveries.map Delivery.log } }

/-- The deliveries of an alert are kept, and the alert is marked if one of them was successful. -/
def Work.record (work : Work) (alertId : ℕ) (now : Time) (deliveries : List Delivery) : Work where
  site :=
    if deliveries.any fun d => d.log.status = .sent then
      (work.site.addLogs deliveries).markAlertNotified alertId now
    else work.site.addLogs deliveries
  deliveries := work.deliveries ++ deliveries

variable {Obj : Type} (interpreter : Interpreter Obj)

/-- The alert goes to the subscription in its turn: it matches, neither the aggregation rules nor an
earlier delivery hold it back, and there are targets. -/
def goesTo (db : Db) (now : Time) (alert : AlertMessage) (subscription : AlertSubscription) : Bool :=
  checkSubscriptionMatch alert subscription now = some true &&
    (shouldSendAlert interpreter db alert subscription now).send &&
    subscription.integrationTargets ≠ [] &&
    ! alreadyDelivered db alert.id subscription.id now

/-- One alert and one subscription. -/
def dispatchTo (cycle : Cycle) (alert : AlertMessage) (work : Work)
    (subscription : AlertSubscription) : Work :=
  if goesTo interpreter work.site.db cycle.now alert subscription then
    work.record alert.id cycle.now (sendViaIntegration work.site cycle alert subscription)
  else work

/-- One alert and all subscriptions. -/
def dispatchAlert (hasProbeFailure : Bool) (subscriptions : List AlertSubscription) (cycle : Cycle)
    (work : Work) (alert : AlertMessage) : Work :=
  if shouldSkipForProbeFailure alert hasProbeFailure then work
  else if isDatasourceSilenced work.site alert.datasourceId cycle.now then work
  else
    let work := { work with site := work.site.clearSilence alert.datasourceId }
    if alert.datasourceId ≠ 0 ∧ (work.site.datasource alert.datasourceId).isNone then work
    else subscriptions.foldl (dispatchTo interpreter cycle alert) work

/-- **One dispatch cycle**, `_process_pending_alerts` without its recovery notifications. -/
def dispatch (site : Site) (cycle : Cycle) : Work :=
  match allSubscriptions site with
  | [] => { site := site }
  | subscriptions =>
    (pendingNotifications site cycle.now).foldl
      (dispatchAlert interpreter (hasActiveNetworkProbeFailure site) subscriptions cycle)
      { site := site }

/-! ## What a cycle keeps -/

/-- An alert's row without the column that the dispatcher writes. -/
def unmarked (a : AlertMessage) : AlertMessage := { a with notifiedAt := none }

@[simp] theorem unmarked_markNotified (alertId : ℕ) (now : Time) (a : AlertMessage) :
    unmarked (markNotified alertId now a) = unmarked a := by
  unfold markNotified
  split <;> rfl

/-- **What a cycle that started in `site` keeps**: it adds logs, marks alerts and clears silences that
are over, and nothing else. -/
structure InCycle (site : Site) (now : Time) (work : Work) : Prop where
  integrations : work.site.integrations = site.integrations
  subscriptions : work.site.subscriptions = site.subscriptions
  cooldown : work.site.db.notificationCooldownMinutes = site.db.notificationCooldownMinutes
  deleted : ∀ id, (work.site.datasource id).isNone = (site.datasource id).isNone
  silenced : ∀ id, isDatasourceSilenced work.site id now = isDatasourceSilenced site id now
  logs : work.site.db.deliveryLogs = site.db.deliveryLogs ++ work.deliveries.map Delivery.log
  rows : work.site.db.alerts.map unmarked = site.db.alerts.map unmarked

variable {site : Site} {cycle : Cycle} {now : Time} {work : Work}

theorem InCycle.start : InCycle site now { site := site } where
  integrations := rfl
  subscriptions := rfl
  cooldown := rfl
  deleted _ := rfl
  silenced _ := rfl
  logs := (List.append_nil _).symm
  rows := rfl

/-- A datasource after a silence was cleared. -/
theorem clearSilence_datasource (i j : ℕ) :
    (site.clearSilence i).datasource j =
      (site.datasource j).map fun d => if j = i then { d with silenceUntil := none } else d := by
  unfold Site.clearSilence Site.datasource
  rw [List.find?_map]
  have hsame : ((fun d : Datasource => decide (d.id = j ∧ d.isDeleted = false)) ∘ fun d =>
      if d.id = i ∧ d.isDeleted = false then { d with silenceUntil := none } else d) =
      fun d => decide (d.id = j ∧ d.isDeleted = false) := by
    funext d
    rw [Function.comp_apply]
    split <;> rfl
  rw [hsame]
  cases hfind : site.datasources.find? fun d => d.id = j ∧ d.isDeleted = false with
  | none => rfl
  | some d =>
    have hd := List.find?_some hfind
    rw [decide_eq_true_eq] at hd
    simp [hd.1, hd.2]

theorem InCycle.clearSilence (h : InCycle site now work) {i : ℕ}
    (hover : isDatasourceSilenced work.site i now = false) :
    InCycle site now { work with site := work.site.clearSilence i } where
  integrations := h.integrations
  subscriptions := h.subscriptions
  cooldown := h.cooldown
  deleted id := by
    rw [← h.deleted id]
    dsimp only
    rw [clearSilence_datasource, Option.isNone_map]
  silenced id := by
    rw [← h.silenced id]
    dsimp only [isDatasourceSilenced]
    rw [clearSilence_datasource]
    by_cases hid : id = i
    · subst hid
      rw [isDatasourceSilenced] at hover
      rw [hover]
      cases work.site.datasource id <;> simp
    · simp [hid]
  logs := h.logs
  rows := h.rows

theorem InCycle.record (h : InCycle site now work) (alertId : ℕ) (deliveries : List Delivery) :
    InCycle site now (work.record alertId now deliveries) := by
  have hlogs : work.site.db.deliveryLogs ++ deliveries.map Delivery.log =
      site.db.deliveryLogs ++ (work.deliveries ++ deliveries).map Delivery.log := by
    rw [h.logs, List.append_assoc, List.map_append]
  have hrows : (work.site.db.alerts.map (markNotified alertId now)).map unmarked
      = site.db.alerts.map unmarked := by
    rw [List.map_map, ← h.rows]
    exact List.map_congr_left fun a _ => unmarked_markNotified alertId now a
  unfold Work.record
  split
  · exact ⟨h.integrations, h.subscriptions, h.cooldown, h.deleted, h.silenced, hlogs, hrows⟩
  · exact ⟨h.integrations, h.subscriptions, h.cooldown, h.deleted, h.silenced, hlogs, h.rows⟩

/-- What is sent does not depend on what the cycle has done so far. -/
theorem InCycle.sendViaIntegration_eq (h : InCycle site now work) (alert : AlertMessage)
    (subscription : AlertSubscription) :
    sendViaIntegration work.site cycle alert subscription
      = sendViaIntegration site cycle alert subscription := by
  unfold sendViaIntegration deliver openIntegration
  rw [h.deleted, h.integrations]

/-- An alert that is held back stays so, and is skipped. -/
theorem InCycle.isHeldBack_eq (h : InCycle site now work) (alert : AlertMessage) :
    (shouldSkipForProbeFailure alert (hasActiveNetworkProbeFailure site) ||
      isDatasourceSilenced work.site alert.datasourceId now ||
      (alert.datasourceId ≠ 0 && (work.site.datasource alert.datasourceId).isNone))
      = isHeldBack site now alert := by
  rw [isHeldBack, h.silenced, h.deleted]

/-- **`dispatchAlert`** goes through the subscriptions exactly for the alerts that are not held
back. -/
theorem dispatchAlert_eq (h : InCycle site cycle.now work) (subscriptions : List AlertSubscription)
    (alert : AlertMessage) :
    (isHeldBack site cycle.now alert = false ∧
      isDatasourceSilenced work.site alert.datasourceId cycle.now = false ∧
      dispatchAlert interpreter (hasActiveNetworkProbeFailure site) subscriptions cycle work alert =
        subscriptions.foldl (dispatchTo interpreter cycle alert)
          { work with site := work.site.clearSilence alert.datasourceId }) ∨
    (isHeldBack site cycle.now alert = true ∧
      (dispatchAlert interpreter (hasActiveNetworkProbeFailure site) subscriptions cycle work alert
        = work ∨ isDatasourceSilenced work.site alert.datasourceId cycle.now = false ∧
      dispatchAlert interpreter (hasActiveNetworkProbeFailure site) subscriptions cycle work alert =
          { work with site := work.site.clearSilence alert.datasourceId })) := by
  have hheld := h.isHeldBack_eq alert
  unfold dispatchAlert
  cases hskip : shouldSkipForProbeFailure alert (hasActiveNetworkProbeFailure site) with
  | true => exact .inr ⟨by rw [← hheld, hskip]; simp, .inl rfl⟩
  | false =>
    cases hsilent : isDatasourceSilenced work.site alert.datasourceId cycle.now with
    | true => exact .inr ⟨by rw [← hheld, hsilent]; simp, .inl rfl⟩
    | false =>
      rw [hskip, hsilent, Bool.false_or, Bool.false_or] at hheld
      have hsame : ((work.site.clearSilence alert.datasourceId).datasource
          alert.datasourceId).isNone = (work.site.datasource alert.datasourceId).isNone := by
        rw [clearSilence_datasource]
        cases work.site.datasource alert.datasourceId <;> rfl
      by_cases hgone : alert.datasourceId ≠ 0 ∧ (work.site.datasource alert.datasourceId).isNone
      · refine .inr ⟨by rw [← hheld]; simpa using hgone, .inr ⟨rfl, ?_⟩⟩
        simp [hsame, hgone.1, hgone.2]
      · rw [← Bool.decide_coe (Option.isNone _), ← Bool.decide_and, decide_eq_false hgone] at hheld
        refine .inl ⟨hheld.symm, rfl, ?_⟩
        simp only [Bool.false_eq_true, if_false, hsame, hgone]

/-- What stays when a silence is cleared, and when the deliveries of a due alert are kept. -/
structure Kept (site : Site) (cycle : Cycle) (I : Work → Prop) : Prop where
  clearSilence : ∀ work id, I work → I { work with site := work.site.clearSilence id }
  record : ∀ work, ∀ alert ∈ pendingNotifications site cycle.now,
    ∀ subscription ∈ allSubscriptions site, InCycle site cycle.now work → I work →
    isHeldBack site cycle.now alert = false →
    goesTo interpreter work.site.db cycle.now alert subscription = true →
    I (work.record alert.id cycle.now (sendViaIntegration site cycle alert subscription))

variable {interpreter} {I : Work → Prop}

/-- One subscription keeps what is kept. -/
theorem Kept.after_dispatchTo (h : Kept interpreter site cycle I) {alert : AlertMessage}
    {subscription : AlertSubscription} (halert : alert ∈ pendingNotifications site cycle.now)
    (hfree : isHeldBack site cycle.now alert = false)
    (hsubscription : subscription ∈ allSubscriptions site)
    (hw : InCycle site cycle.now work ∧ I work) :
    InCycle site cycle.now (dispatchTo interpreter cycle alert work subscription) ∧
      I (dispatchTo interpreter cycle alert work subscription) := by
  unfold dispatchTo
  split
  · rename_i hgoes
    rw [hw.1.sendViaIntegration_eq]
    exact ⟨hw.1.record _ _,
      h.record work alert halert subscription hsubscription hw.1 hw.2 hfree hgoes⟩
  · exact hw

/-- One alert keeps what is kept. -/
theorem Kept.after_dispatchAlert (h : Kept interpreter site cycle I) {alert : AlertMessage}
    (halert : alert ∈ pendingNotifications site cycle.now)
    (hw : InCycle site cycle.now work ∧ I work) :
    InCycle site cycle.now (dispatchAlert interpreter (hasActiveNetworkProbeFailure site)
      (allSubscriptions site) cycle work alert) ∧
    I (dispatchAlert interpreter (hasActiveNetworkProbeFailure site) (allSubscriptions site) cycle
      work alert) := by
  obtain ⟨hfree, hsilent, heq⟩ | ⟨-, heq | ⟨hsilent, heq⟩⟩ :=
    dispatchAlert_eq interpreter hw.1 (allSubscriptions site) alert
  · rw [heq]
    exact List.foldlRecOn (motive := fun w => InCycle site cycle.now w ∧ I w) _ _
      ⟨hw.1.clearSilence hsilent, h.clearSilence work _ hw.2⟩
      fun w hw s hs => h.after_dispatchTo halert hfree hs hw
  · rw [heq]
    exact hw
  · rw [heq]
    exact ⟨hw.1.clearSilence hsilent, h.clearSilence work _ hw.2⟩

/-- A cycle is a fold, also when there are no subscriptions to go through. -/
theorem dispatch_eq (hsome : allSubscriptions site ≠ []) :
    dispatch interpreter site cycle = (pendingNotifications site cycle.now).foldl
      (dispatchAlert interpreter (hasActiveNetworkProbeFailure site) (allSubscriptions site) cycle)
      { site := site } := by
  unfold dispatch
  split
  · rename_i hnil
    exact absurd hnil hsome
  · rfl

/-- **The induction over a cycle**: what holds at its start and is kept holds at its end. -/
theorem Kept.after_dispatch (h : Kept interpreter site cycle I) (hstart : I { site := site }) :
    InCycle site cycle.now (dispatch interpreter site cycle) ∧
      I (dispatch interpreter site cycle) := by
  by_cases hsome : allSubscriptions site = []
  · unfold dispatch
    rw [hsome]
    exact ⟨.start, hstart⟩
  · rw [dispatch_eq hsome]
    exact List.foldlRecOn (motive := fun w => InCycle site cycle.now w ∧ I w) _ _ ⟨.start, hstart⟩
      fun w hw a ha => h.after_dispatchAlert ha hw

/-! ## Turns -/

/-- What is done later in a cycle adds deliveries and logs, and leaves the rows but for the marks. -/
structure Work.Extends (work later : Work) : Prop where
  deliveries : work.deliveries ⊆ later.deliveries
  logs : work.site.db.deliveryLogs ⊆ later.site.db.deliveryLogs
  rows : later.site.db.alerts.map unmarked = work.site.db.alerts.map unmarked

theorem Work.Extends.refl (work : Work) : work.Extends work := ⟨fun _ h => h, fun _ h => h, rfl⟩

theorem Work.Extends.trans {u v w : Work} (h : u.Extends v) (k : v.Extends w) : u.Extends w :=
  ⟨fun _ hd => k.deliveries (h.deliveries hd), fun _ hl => k.logs (h.logs hl), k.rows.trans h.rows⟩

theorem Work.extends_record (alertId : ℕ) (deliveries : List Delivery) :
    work.Extends (work.record alertId now deliveries) := by
  unfold Work.record
  split
  · refine ⟨fun _ h => List.mem_append_left _ h, fun _ h => List.mem_append_left _ h, ?_⟩
    dsimp only [Site.markAlertNotified, Site.addLogs]
    rw [List.map_map]
    exact List.map_congr_left fun a _ => unmarked_markNotified alertId now a
  · exact ⟨fun _ h => List.mem_append_left _ h, fun _ h => List.mem_append_left _ h, rfl⟩

theorem extends_dispatchTo (alert : AlertMessage) (subscription : AlertSubscription) :
    work.Extends (dispatchTo interpreter cycle alert work subscription) := by
  unfold dispatchTo
  split
  · exact work.extends_record _ _
  · exact .refl work

theorem extends_dispatchAlert (hasProbeFailure : Bool) (subscriptions : List AlertSubscription)
    (alert : AlertMessage) :
    work.Extends (dispatchAlert interpreter hasProbeFailure subscriptions cycle work alert) := by
  have hclear : work.Extends { work with site := work.site.clearSilence alert.datasourceId } :=
    ⟨fun _ h => h, fun _ h => h, rfl⟩
  unfold dispatchAlert
  split
  · exact .refl work
  · split
    · exact .refl work
    · dsimp only
      split
      · exact hclear
      · exact List.foldlRecOn (motive := work.Extends) _ _ hclear
          fun w hw s _ => hw.trans (extends_dispatchTo alert s)

/-- **Every alert that is due and not held back has its turn at every subscription.** -/
theorem Kept.exists_turn (h : Kept interpreter site cycle I) (hstart : I { site := site })
    {alert : AlertMessage} {subscription : AlertSubscription}
    (halert : alert ∈ pendingNotifications site cycle.now)
    (hfree : isHeldBack site cycle.now alert = false)
    (hsubscription : subscription ∈ allSubscriptions site) :
    ∃ work, InCycle site cycle.now work ∧ I work ∧
      (dispatchTo interpreter cycle alert work subscription).Extends
        (dispatch interpreter site cycle) := by
  rw [dispatch_eq (List.ne_nil_of_mem hsubscription)]
  obtain ⟨w, hw, hlater⟩ := Runs.exists_turn (R := Work.Extends)
    (I := fun w => InCycle site cycle.now w ∧ I w) (b := { site := site }) Work.Extends.refl
    (fun _ _ _ => Work.Extends.trans) halert (fun w b hb hw => h.after_dispatchAlert hb hw)
    (fun w b => extends_dispatchAlert _ _ b) ⟨.start, hstart⟩
  obtain ⟨-, hsilent, heq⟩ | ⟨hheld, -⟩ :=
    dispatchAlert_eq interpreter hw.1 (allSubscriptions site) alert
  · rw [heq] at hlater
    obtain ⟨u, hu, hend⟩ := Runs.exists_turn (R := Work.Extends)
      (I := fun w => InCycle site cycle.now w ∧ I w) Work.Extends.refl
      (fun _ _ _ => Work.Extends.trans) hsubscription
      (fun w s hs hw => h.after_dispatchTo halert hfree hs hw)
      (fun w s => extends_dispatchTo alert s)
      ⟨hw.1.clearSilence hsilent, h.clearSilence w _ hw.2⟩
    exact ⟨u, hu.1, hu.2, hend.trans hlater⟩
  · rw [hfree] at hheld
    cases hheld

end DBClaw.Notifications
