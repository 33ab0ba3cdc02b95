import DBClaw.Notifications.Retries

/-! # Recovery notifications
At the end of a cycle the dispatcher tells of the alerts that were resolved in the last hour. A
subscription is told of the recovery of an alert if it has received the alert and has not been told
yet; it finds out by the channels of the delivery logs, in which the word `recovery` marks the
recovery notifications. `Exact` is what this is for. An integration whose own id contains the word
makes a delivery of an alert look like a recovery notification; `exact_iff` says that nothing else
can go wrong. The column `channel` holds 100 characters, and the integrations are those whose logs fit
into it. -/

namespace DBClaw.Notifications

open DBClaw.Alerts Runs

variable {Obj : Type} (interpreter : Interpreter Obj)

/-! ## State -/

/-- A recovery notification that was attempted, with the position of its target in the
subscription. -/
structure RecoveryDelivery extends Delivery where
  position : ℕ
  deriving DecidableEq, Repr

/-- The tables, with the column `resolved_at` of the alerts by their ids, and what was sent so far. -/
structure Notifier where
  site : Site := {}
  resolvedAt : ℕ → Option Time := fun _ => none
  alertDeliveries : List Delivery := []
  recoveryDeliveries : List RecoveryDelivery := []

/-- A cycle with the outcomes of its recovery notifications. -/
structure NotifierCycle extends Cycle where
  recoveryOutcome : (alertId subscriptionId position : ℕ) → DeliveryStatus

/-! ## What is looked up -/

/-- The word that marks the channels of recovery notifications. -/
def recoveryWord : Text := "recovery".toList

/-- `has_alert_notification_for_subscription`. -/
def hasAlertNotification (db : Db) (alertId subscriptionId : ℕ) : Bool :=
  db.deliveryLogs.any fun log => log.alertId = alertId ∧ log.subscriptionId = subscriptionId ∧
    Text.contains log.channel recoveryWord = false ∧ log.status = .sent

/-- `has_recovery_notification_for_subscription`. -/
def hasRecoveryNotification (db : Db) (alertId subscriptionId : ℕ) : Bool :=
  db.deliveryLogs.any fun log => log.alertId = alertId ∧ log.subscriptionId = subscriptionId ∧
    Text.contains log.channel recoveryWord = true ∧ log.status = .sent

/-- `get_pending_recovery_notifications`. -/
def pendingRecoveryNotifications (s : Notifier) (now : Time) : List AlertMessage :=
  s.site.db.alerts.filter fun alert => alert.status = .resolved ∧
    (∃ t ∈ s.resolvedAt alert.id, now - Time.minutes 60 ≤ t) ∧ alert.notifiedAt.isSome ∧
    (alert.datasourceId = 0 ∨ (s.site.datasource alert.datasourceId).isSome)

/-! ## Sending -/

/-- One target of `_send_recovery_via_integration`: as for an alert, but for `notify_on`, the outcome
and the channel. -/
def deliverRecovery (site : Site) (cycle : NotifierCycle) (alert : AlertMessage)
    (subscription : AlertSubscription) (target : Target) (position : ℕ) : Option RecoveryDelivery :=
  (deliver site { cycle.toCycle with outcome := cycle.recoveryOutcome } alert subscription
    { target with notifyOnAlert := target.notifyOnRecovery } position).map fun d =>
      { target := target
        log := { d.log with channel := d.log.channel ++ ':' :: recoveryWord }
        position := position }

/-- **`_send_recovery_via_integration`**. -/
def sendRecoveryViaIntegration (site : Site) (cycle : NotifierCycle) (alert : AlertMessage)
    (subscription : AlertSubscription) : List RecoveryDelivery :=
  if alert.datasourceId ≠ 0 ∧ (site.datasource alert.datasourceId).isNone then []
  else subscription.integrationTargets.zipIdx.filterMap fun (target, position) =>
    deliverRecovery site cycle alert subscription target position

/-- The logs of recovery notifications are written. -/
def Notifier.recordRecoveries (s : Notifier) (deliveries : List RecoveryDelivery) : Notifier :=
  { s with
    site := s.site.addLogs (deliveries.map RecoveryDelivery.toDelivery)
    recoveryDeliveries := s.recoveryDeliveries ++ deliveries }

/-- The subscription is told of the recovery: it matches, has received the alert, and has not been
told yet. -/
def tellsOf (db : Db) (now : Time) (alert : AlertMessage) (subscription : AlertSubscription) : Bool :=
  checkSubscriptionMatch alert subscription now = some true &&
    hasAlertNotification db alert.id subscription.id &&
    ! hasRecoveryNotification db alert.id subscription.id

/-- One resolved alert and one subscription. -/
def recoverTo (cycle : NotifierCycle) (alert : AlertMessage) (s : Notifier)
    (subscription : AlertSubscription) : Notifier :=
  if tellsOf s.site.db cycle.now alert subscription then
    s.recordRecoveries (sendRecoveryViaIntegration s.site cycle alert subscription)
  else s

/-- One resolved alert and all subscriptions. -/
def recoverAlert (hasProbeFailure : Bool) (subscriptions : List AlertSubscription)
    (cycle : NotifierCycle) (s : Notifier) (alert : AlertMessage) : Notifier :=
  if shouldSkipForProbeFailure alert hasProbeFailure then s
  else if isDatasourceSilenced s.site alert.datasourceId cycle.now then s
  else
    let s := { s with site := s.site.clearSilence alert.datasourceId }
    if alert.datasourceId ≠ 0 ∧ (s.site.datasource alert.datasourceId).isNone then s
    else subscriptions.foldl (recoverTo cycle alert) s

/-- **`_process_recovery_notifications`**. -/
def processRecoveryNotifications (cycle : NotifierCycle) (s : Notifier) : Notifier :=
  (pendingRecoveryNotifications s cycle.now).foldl
    (recoverAlert (hasActiveNetworkProbeFailure s.site) (allSubscriptions s.site) cycle) s

/-! ## Runs -/

/-- What happens: a cycle of the dispatcher, a test notification that a user asks for, or anything else
that the system does, which leaves the delivery logs alone. -/
inductive Event
  | cycle (cycle : NotifierCycle)
  | sendNotifications (cycle : Cycle) (alert : AlertMessage) (subscription : AlertSubscription)
  | others (site : Site) (resolvedAt : ℕ → Option Time)

/-- The deliveries of alerts that an event makes. -/
def Event.sends (s : Notifier) : Event → List Delivery
  | .cycle c => (dispatch interpreter s.site c.toCycle).deliveries
  | .sendNotifications c alert subscription => sendViaIntegration s.site c alert subscription
  | .others _ _ => []

/-- The logs of all notifications fit into the column `channel`. -/
def Site.ChannelsFit (site : Site) : Prop := ∀ i ∈ site.integrations,
  ("integration:".toList ++ i.integrationId ++ ':' :: recoveryWord).length ≤ 100

instance (site : Site) : Decidable site.ChannelsFit :=
  inferInstanceAs (Decidable (∀ i ∈ site.integrations, _))

/-- **One event**, `none` where a log would not fit, and for other changes that touch the logs. -/
def Notifier.step (s : Notifier) (event : Event) : Option Notifier :=
  if s.site.ChannelsFit then
    match event with
    | .cycle c => some (processRecoveryNotifications c { s with
        site := (dispatch interpreter s.site c.toCycle).site
        alertDeliveries := s.alertDeliveries ++ event.sends interpreter s })
    | .sendNotifications _ _ _ => some { s with
        site := s.site.addLogs (event.sends interpreter s)
        alertDeliveries := s.alertDeliveries ++ event.sends interpreter s }
    | .others site resolvedAt =>
      if site.db.deliveryLogs = s.site.db.deliveryLogs then
        some { s with site := site, resolvedAt := resolvedAt }
      else none
  else none

/-! ## What the notifications are for -/

/-- The subscription has successfully received the alert. -/
def Notifier.Received (s : Notifier) (alertId subscriptionId : ℕ) : Prop :=
  ∃ d ∈ s.alertDeliveries,
    d.log.alertId = alertId ∧ d.log.subscriptionId = subscriptionId ∧ d.log.status = .sent

/-- A recovery notification of the alert to the subscription was successful. -/
def Notifier.Recovered (s : Notifier) (alertId subscriptionId : ℕ) : Prop :=
  ∃ d ∈ s.recoveryDeliveries,
    d.log.alertId = alertId ∧ d.log.subscriptionId = subscriptionId ∧ d.log.status = .sent

/-- The successful recovery notifications, by alert, subscription and target. -/
def Notifier.successes (s : Notifier) : List (ℕ × ℕ × ℕ) :=
  (s.recoveryDeliveries.filter fun d => d.log.status = .sent).map fun d =>
    (d.log.alertId, d.log.subscriptionId, d.position)

/-- **Recovery notifications are exact**: they go to subscriptions that have received the alert, at
most one to a target is successful, and who has received an alert and not been told of its recovery
counts neither as not notified nor as told. -/
structure Exact (s : Notifier) : Prop where
  received : ∀ d ∈ s.recoveryDeliveries, s.Received d.log.alertId d.log.subscriptionId
  once : s.successes.Nodup
  classified : ∀ alertId subscriptionId, s.Received alertId subscriptionId →
    ¬ s.Recovered alertId subscriptionId →
      hasAlertNotification s.site.db alertId subscriptionId = true ∧
        hasRecoveryNotification s.site.db alertId subscriptionId = false

/-- **No delivery looks like a recovery**: an event delivers an alert successfully over a channel with
the word `recovery` only to a subscription that was already told of its recovery. -/
def Plain (s : Notifier) (event : Event) : Prop :=
  ∀ d ∈ event.sends interpreter s, d.log.status = .sent →
    ¬ s.Recovered d.log.alertId d.log.subscriptionId →
      Text.contains d.log.channel recoveryWord = false

/-! ## What a cycle's recoveries keep -/

variable {interpreter} {cycle : NotifierCycle} {s : Notifier}

/-- **The induction over the recoveries of a cycle**: what the clearing of a silence and each sending
keeps holds at the end. -/
theorem processRecoveryNotifications_keeps {I : Notifier → Prop}
    (hclear : ∀ s id, I s → I { s with site := s.site.clearSilence id })
    (hrecord : ∀ s alert subscription, I s →
      tellsOf s.site.db cycle.now alert subscription = true →
      I (s.recordRecoveries (sendRecoveryViaIntegration s.site cycle alert subscription)))
    (h : I s) : I (processRecoveryNotifications cycle s) := by
  refine List.foldlRecOn (motive := I) _ _ h fun s hs alert _ => ?_
  unfold recoverAlert
  split
  · exact hs
  · split
    · exact hs
    · dsimp only
      split
      · exact hclear s _ hs
      · refine List.foldlRecOn (motive := I) _ _ (hclear s _ hs) fun s hs subscription _ => ?_
        unfold recoverTo
        split
        · rename_i htells
          exact hrecord s alert subscription hs htells
        · exact hs

/-- A recovery notification is of its alert and subscription, and its channel has the word. -/
theorem of_mem_sendRecoveryViaIntegration {site : Site} {alert : AlertMessage}
    {subscription : AlertSubscription} {d : RecoveryDelivery}
    (hd : d ∈ sendRecoveryViaIntegration site cycle alert subscription) :
    d.log.alertId = alert.id ∧ d.log.subscriptionId = subscription.id ∧
      Text.contains d.log.channel recoveryWord = true := by
  unfold sendRecoveryViaIntegration at hd
  split at hd
  · cases hd
  · obtain ⟨⟨target, position⟩, -, hdeliver⟩ := List.mem_filterMap.mp hd
    obtain ⟨e, he, rfl⟩ := Option.map_eq_some_iff.mp hdeliver
    obtain ⟨integration, -, rfl⟩ := Option.map_eq_some_iff.mp he
    exact ⟨rfl, rfl, Text.contains_append_cons _ _ _ rfl⟩

/-- The targets of a subscription are told one after another. -/
theorem sendRecoveryViaIntegration_positions (site : Site) (alert : AlertMessage)
    (subscription : AlertSubscription) :
    ((sendRecoveryViaIntegration site cycle alert subscription).map
      RecoveryDelivery.position).Nodup := by
  unfold sendRecoveryViaIntegration
  split
  · exact List.nodup_nil
  · have hsub : ∀ l : List (Target × ℕ), ((l.filterMap fun (target, position) =>
        deliverRecovery site cycle alert subscription target position).map
          RecoveryDelivery.position).Sublist (l.map Prod.snd) := by
      intro l
      induction l with
      | nil => exact .slnil
      | cons x l ih =>
        obtain ⟨target, position⟩ := x
        rw [List.filterMap_cons, List.map_cons]
        dsimp only
        cases hdeliver : deliverRecovery site cycle alert subscription target position with
        | none => exact ih.cons _
        | some d =>
          obtain ⟨e, -, rfl⟩ := Option.map_eq_some_iff.mp hdeliver
          exact ih.cons_cons _
    refine (hsub _).nodup ?_
    rw [List.zipIdx_map_snd]
    exact List.nodup_range'

/-! ## Logs and deliveries -/

/-- **The delivery logs are those of the deliveries**, and the recovery notifications have the word in
their channel. -/
structure Logged (s : Notifier) : Prop where
  logs : ∀ log, log ∈ s.site.db.deliveryLogs ↔
    (∃ d ∈ s.alertDeliveries, d.log = log) ∨ ∃ d ∈ s.recoveryDeliveries, d.log = log
  channels : ∀ d ∈ s.recoveryDeliveries, Text.contains d.log.channel recoveryWord = true

theorem hasAlertNotification_iff (h : Logged s) {alertId subscriptionId : ℕ} :
    hasAlertNotification s.site.db alertId subscriptionId = true ↔
      ∃ d ∈ s.alertDeliveries, d.log.alertId = alertId ∧ d.log.subscriptionId = subscriptionId ∧
        Text.contains d.log.channel recoveryWord = false ∧ d.log.status = .sent := by
  unfold hasAlertNotification
  simp only [List.any_eq_true, decide_eq_true_eq]
  constructor
  · rintro ⟨log, hlog, hof⟩
    rcases (h.logs log).mp hlog with ⟨d, hd, rfl⟩ | ⟨d, hd, rfl⟩
    · exact ⟨d, hd, hof⟩
    · rw [h.channels d hd] at hof
      cases hof.2.2.1
  · rintro ⟨d, hd, hof⟩
    exact ⟨d.log, (h.logs _).mpr (.inl ⟨d, hd, rfl⟩), hof⟩

theorem hasRecoveryNotification_iff (h : Logged s) {alertId subscriptionId : ℕ} :
    hasRecoveryNotification s.site.db alertId subscriptionId = true ↔
      s.Recovered alertId subscriptionId ∨
      ∃ d ∈ s.alertDeliveries, d.log.alertId = alertId ∧ d.log.subscriptionId = subscriptionId ∧
        Text.contains d.log.channel recoveryWord = true ∧ d.log.status = .sent := by
  unfold hasRecoveryNotification
  simp only [List.any_eq_true, decide_eq_true_eq]
  constructor
  · rintro ⟨log, hlog, hof⟩
    rcases (h.logs log).mp hlog with ⟨d, hd, rfl⟩ | ⟨d, hd, rfl⟩
    · exact .inr ⟨d, hd, hof⟩
    · exact .inl ⟨d, hd, hof.1, hof.2.1, hof.2.2.2⟩
  · rintro (⟨d, hd, hid, hsubscription, hsent⟩ | ⟨d, hd, hof⟩)
    · exact ⟨d.log, (h.logs _).mpr (.inr ⟨d, hd, rfl⟩), hid, hsubscription, h.channels d hd, hsent⟩
    · exact ⟨d.log, (h.logs _).mpr (.inl ⟨d, hd, rfl⟩), hof⟩

/-- **Who has received an alert is classified right exactly if no delivery of an alert looks like a
recovery**, as long as the recovery was not told. -/
theorem classified_iff (h : Logged s) :
    (∀ alertId subscriptionId, s.Received alertId subscriptionId →
      ¬ s.Recovered alertId subscriptionId →
        hasAlertNotification s.site.db alertId subscriptionId = true ∧
          hasRecoveryNotification s.site.db alertId subscriptionId = false) ↔
    ∀ d ∈ s.alertDeliveries, d.log.status = .sent →
      ¬ s.Recovered d.log.alertId d.log.subscriptionId →
        Text.contains d.log.channel recoveryWord = false := by
  constructor
  · intro hclassified d hd hsent hnot
    have hfalse := (hclassified _ _ ⟨d, hd, rfl, rfl, hsent⟩ hnot).2
    by_contra hword
    rw [Bool.not_eq_false] at hword
    have htrue := (hasRecoveryNotification_iff h).mpr (.inr ⟨d, hd, rfl, rfl, hword, hsent⟩)
    rw [hfalse] at htrue
    cases htrue
  · rintro hplain _ _ ⟨d, hd, rfl, rfl, hsent⟩ hnot
    constructor
    · exact (hasAlertNotification_iff h).mpr ⟨d, hd, rfl, rfl, hplain d hd hsent hnot, hsent⟩
    · rw [← Bool.not_eq_true, hasRecoveryNotification_iff h]
      rintro (hrecovered | ⟨e, he, hid, hsubscription, hword, hsent⟩)
      · exact hnot hrecovered
      · rw [hplain e he hsent (by rw [hid, hsubscription]; exact hnot)] at hword
        cases hword

/-! ## One event -/

/-- What holds whatever the channels are called: the logs are those of the deliveries, and the recovery
notifications go to subscriptions that have received the alert, at most one to each target. -/
structure Sound (s : Notifier) : Prop extends Logged s where
  received : ∀ d ∈ s.recoveryDeliveries, s.Received d.log.alertId d.log.subscriptionId
  once : s.successes.Nodup

theorem Notifier.Recovered.record {alertId subscriptionId : ℕ} (h : s.Recovered alertId subscriptionId)
    (deliveries : List RecoveryDelivery) :
    (s.recordRecoveries deliveries).Recovered alertId subscriptionId := by
  obtain ⟨d, hd, hof⟩ := h
  exact ⟨d, List.mem_append_left _ hd, hof⟩

/-- **A sending keeps what holds whatever the channels are called.** -/
theorem Sound.record (h : Sound s) {alert : AlertMessage} {subscription : AlertSubscription}
    (htells : tellsOf s.site.db cycle.now alert subscription = true) :
    Sound (s.recordRecoveries (sendRecoveryViaIntegration s.site cycle alert subscription)) := by
  rw [tellsOf, Bool.and_eq_true, Bool.and_eq_true, Bool.not_eq_true'] at htells
  obtain ⟨⟨-, halert⟩, hrecovery⟩ := htells
  constructor
  · constructor
    · intro log
      show log ∈ s.site.db.deliveryLogs ++ _ ↔ _ ∨ ∃ d ∈ s.recoveryDeliveries ++ _, d.log = log
      simp only [List.mem_append, h.logs, List.map_map, List.mem_map, Function.comp_apply, or_assoc,
        or_and_right, exists_or]
      rfl
    · intro d hd
      rcases List.mem_append.mp hd with hd | hd
      · exact h.channels d hd
      · exact (of_mem_sendRecoveryViaIntegration hd).2.2
  · intro d hd
    rcases List.mem_append.mp hd with hd | hd
    · exact h.received d hd
    · obtain ⟨hid, hsubscription, -⟩ := of_mem_sendRecoveryViaIntegration hd
      obtain ⟨e, he, heid, hesubscription, -, hsent⟩ :=
        (hasAlertNotification_iff h.toLogged).mp halert
      exact ⟨e, he, heid.trans hid.symm, hesubscription.trans hsubscription.symm, hsent⟩
  · show (((s.recoveryDeliveries ++ _).filter _).map _).Nodup
    rw [List.filter_append, List.map_append, List.nodup_append']
    refine ⟨h.once, ?_, ?_⟩
    · -- the targets differ in their positions
      refine List.Nodup.of_map (fun x : ℕ × ℕ × ℕ => x.2.2) ?_
      rw [List.map_map]
      exact (List.filter_sublist.map _).nodup
        (sendRecoveryViaIntegration_positions s.site alert subscription)
    · -- none was successful before
      intro x hx hnew
      obtain ⟨d, hd, rfl⟩ := List.mem_map.mp hx
      obtain ⟨e, he, heq⟩ := List.mem_map.mp hnew
      obtain ⟨hd, hsent⟩ := List.mem_filter.mp hd
      obtain ⟨hid, hsubscription, -⟩ :=
        of_mem_sendRecoveryViaIntegration (List.mem_filter.mp he).1
      rw [Prod.mk.injEq, Prod.mk.injEq] at heq
      have hrecovered : s.Recovered alert.id subscription.id :=
        ⟨d, hd, heq.1.symm.trans hid, heq.2.1.symm.trans hsubscription, of_decide_eq_true hsent⟩
      rw [(hasRecoveryNotification_iff h.toLogged).mpr (.inl hrecovered)] at hrecovery
      cases hrecovery

theorem dispatch_logs (interpreter : Interpreter Obj) (site : Site) (cycle : Cycle) :
    (dispatch interpreter site cycle).site.db.deliveryLogs =
      site.db.deliveryLogs ++ (dispatch interpreter site cycle).deliveries.map Delivery.log := by
  have hkept : Kept interpreter site cycle fun _ => True :=
    ⟨fun _ _ _ => trivial, fun _ _ _ _ _ _ _ _ _ => trivial⟩
  exact (hkept.after_dispatch trivial).1.logs

/-- Deliveries of alerts keep it too. -/
theorem Sound.send (h : Sound s) {site : Site} {deliveries : List Delivery}
    (hlogs : site.db.deliveryLogs = s.site.db.deliveryLogs ++ deliveries.map Delivery.log) :
    Sound { s with site := site, alertDeliveries := s.alertDeliveries ++ deliveries } where
  logs log := by
    rw [hlogs]
    simp only [List.mem_append, h.logs, List.mem_map, or_and_right, exists_or]
    exact or_right_comm
  channels := h.channels
  received d hd := by
    obtain ⟨e, he, hof⟩ := h.received d hd
    exact ⟨e, List.mem_append_left _ he, hof⟩
  once := h.once

/-- **What an event does**: it adds its deliveries of alerts and some recovery notifications, and none
for those who count as told already. -/
theorem step_spec {event : Event} {t : Notifier} (h : Sound s)
    (hstep : s.step interpreter event = some t) :
    Sound t ∧ t.alertDeliveries = s.alertDeliveries ++ event.sends interpreter s ∧
      (∀ alertId subscriptionId, s.Recovered alertId subscriptionId →
        t.Recovered alertId subscriptionId) ∧
      ∀ d ∈ event.sends interpreter s, d.log.status = .sent →
        Text.contains d.log.channel recoveryWord = true →
        ¬ s.Recovered d.log.alertId d.log.subscriptionId →
          ¬ t.Recovered d.log.alertId d.log.subscriptionId := by
  unfold Notifier.step at hstep
  split at hstep
  · cases event with
    | others site resolvedAt =>
      dsimp only at hstep
      split at hstep
      · rename_i hlogs
        cases hstep
        have hsound : Sound { s with site := site, alertDeliveries := s.alertDeliveries ++ [] } :=
          h.send (by rw [hlogs, List.map_nil, List.append_nil])
        rw [List.append_nil] at hsound
        refine ⟨⟨⟨hsound.logs, hsound.channels⟩, hsound.received, hsound.once⟩,
          (List.append_nil _).symm, fun _ _ hr => hr, ?_⟩
        intro d hd
        cases hd
      · cases hstep
    | sendNotifications c alert subscription =>
      cases hstep
      exact ⟨h.send rfl, rfl, fun _ _ hr => hr, fun _ _ _ _ hnot => hnot⟩
    | cycle c =>
      cases hstep
      have hsent := h.send (dispatch_logs interpreter s.site c.toCycle)
      refine ⟨?_, ?_, ?_, ?_⟩
      · exact processRecoveryNotifications_keeps (fun _ _ h => ⟨⟨h.logs, h.channels⟩, h.received, h.once⟩)
          (fun _ _ _ h htells => h.record htells) hsent
      · exact processRecoveryNotifications_keeps
          (I := fun u => u.alertDeliveries = s.alertDeliveries ++ Event.sends interpreter s (.cycle c))
          (fun _ _ h => h) (fun _ _ _ h _ => h) rfl
      · intro alertId subscriptionId hr
        exact processRecoveryNotifications_keeps (I := fun u => u.Recovered alertId subscriptionId)
          (fun _ _ h => h) (fun _ _ _ h _ => h.record _) hr
      · intro d hd hstatus hword hnot
        -- who counts as told stays so, and is not told
        refine And.right (processRecoveryNotifications_keeps (I := fun u =>
          hasRecoveryNotification u.site.db d.log.alertId d.log.subscriptionId = true ∧
            ¬ u.Recovered d.log.alertId d.log.subscriptionId) (fun _ _ h => h) ?_ ⟨?_, hnot⟩)
        · rintro u alert subscription ⟨htold, hnone⟩ htells
          constructor
          · obtain ⟨log, hlog, hof⟩ := List.any_eq_true.mp htold
            exact List.any_eq_true.mpr ⟨log, List.mem_append_left _ hlog, hof⟩
          · rintro ⟨e, he, heid, hesubscription, hesent⟩
            rcases List.mem_append.mp he with he | he
            · exact hnone ⟨e, he, heid, hesubscription, hesent⟩
            · obtain ⟨hid, hsubscription, -⟩ := of_mem_sendRecoveryViaIntegration he
              rw [tellsOf, ← hid, ← hsubscription, heid, hesubscription, htold] at htells
              simp at htells
        · exact (hasRecoveryNotification_iff hsent.toLogged).mpr
            (.inr ⟨d, List.mem_append_right _ hd, rfl, rfl, hword, hstatus⟩)
  · cases hstep

/-! ## Runs -/

/-- The event leads to a state in which the recovery notifications are exact. -/
def LeadsToExact (interpreter : Interpreter Obj) (s : Notifier) (event : Event) : Prop :=
  ∃ t ∈ s.step interpreter event, Exact t

theorem Exact.sound (h : Exact s) (hlogged : Logged s) : Sound s := ⟨hlogged, h.received, h.once⟩

/-- **An event keeps the notifications exact if and only if none of its deliveries looks like a
recovery.** -/
theorem exact_step_iff {event : Event} {t : Notifier} (h : Sound s) (hexact : Exact s)
    (hstep : s.step interpreter event = some t) : Exact t ↔ Plain interpreter s event := by
  obtain ⟨ht, hsends, hmono, hblocked⟩ := step_spec h hstep
  constructor
  · intro hexact' d hd hsent hnot
    by_contra hword
    rw [Bool.not_eq_false] at hword
    have hmem : d ∈ t.alertDeliveries := by
      rw [hsends]
      exact List.mem_append_right _ hd
    rw [(classified_iff ht.toLogged).mp hexact'.classified d hmem hsent
      (hblocked d hd hsent hword hnot)] at hword
    cases hword
  · intro hplain
    refine ⟨ht.received, ht.once, (classified_iff ht.toLogged).mpr ?_⟩
    intro d hd hsent hnot
    rw [hsends] at hd
    rcases List.mem_append.mp hd with hold | hnew
    · exact (classified_iff h.toLogged).mp hexact.classified d hold hsent
        fun hr => hnot (hmono _ _ hr)
    · exact hplain d hnew hsent fun hr => hnot (hmono _ _ hr)

theorem sound_start : Sound {} where
  logs := by simp
  channels := List.forall_mem_nil _
  received := List.forall_mem_nil _
  once := List.nodup_nil

/-- **The runs in which the recovery notifications stay exact are the runs in which no delivery of an
alert looks like a recovery.** -/
theorem exact_iff (interpreter : Interpreter Obj) (t : Notifier) (events : List Event) :
    Run (Notifier.step interpreter) (LeadsToExact interpreter) {} events t ↔
      Run (Notifier.step interpreter) (Plain interpreter) {} events t := by
  have hstart : Sound {} ∧ Exact {} :=
    ⟨sound_start, List.forall_mem_nil _, List.nodup_nil, fun _ _ hreceived => by obtain ⟨d, hd, -⟩ := hreceived; cases hd⟩
  refine Run.leadsTo_iff (I := fun s => Sound s ∧ Exact s) ?_ ?_ hstart
  · rintro s event u ⟨h, hexact⟩ hstep
    exact exact_step_iff h hexact hstep
  · rintro s event u ⟨h, -⟩ hstep hexact
    exact ⟨(step_spec h hstep).1, hexact⟩

/-! ## The ids of integrations -/

/-- An alert is sent over the channel of an integration. -/
theorem exists_integration_of_mem_send {site : Site} {cycle : Cycle} {alert : AlertMessage}
    {subscription : AlertSubscription} {d : Delivery}
    (hd : d ∈ sendViaIntegration site cycle alert subscription) :
    ∃ i ∈ site.integrations, d.log.channel = "integration:".toList ++ i.integrationId := by
  unfold sendViaIntegration at hd
  split at hd
  · cases hd
  · obtain ⟨⟨target, position⟩, -, hdeliver⟩ := List.mem_filterMap.mp hd
    obtain ⟨i, hopen, rfl⟩ := Option.map_eq_some_iff.mp hdeliver
    refine ⟨i, ?_, rfl⟩
    unfold openIntegration at hopen
    split at hopen
    · cases hopen
    · split at hopen
      · cases hopen
      · cases hopen
      · exact List.mem_of_find?_eq_some (Option.filter_eq_some_iff.mp hopen).1

/-- **No delivery looks like a recovery where no integration has the word in its id.** -/
theorem plain_of_ids {event : Event} (h : ∀ i ∈ s.site.integrations,
    Text.contains ("integration:".toList ++ i.integrationId) recoveryWord = false) :
    Plain interpreter s event := by
  have hchannels : ∀ d ∈ event.sends interpreter s,
      ∃ i ∈ s.site.integrations, d.log.channel = "integration:".toList ++ i.integrationId := by
    cases event with
    | cycle c =>
      have hkept : Kept interpreter s.site c.toCycle fun work => ∀ d ∈ work.deliveries,
          ∃ i ∈ s.site.integrations, d.log.channel = "integration:".toList ++ i.integrationId := by
        refine ⟨fun _ _ h => h, fun work alert _ subscription _ _ h _ _ d hd => ?_⟩
        rcases List.mem_append.mp hd with hold | hnew
        · exact h d hold
        · exact exists_integration_of_mem_send hnew
      exact (hkept.after_dispatch (List.forall_mem_nil _)).2
    | sendNotifications c alert subscription => exact fun d hd => exists_integration_of_mem_send hd
    | others site resolvedAt => exact List.forall_mem_nil _
  intro d hd _ _
  obtain ⟨i, hi, hchannel⟩ := hchannels d hd
  rw [hchannel]
  exact h i hi

/-! ## An integration for recoveries -/

/-- A site whose integration is called `recovery-webhook`. -/
def webhookSite : Site where
  db := { alerts := [cpuAlert] }
  datasources := [{ id := 1 }]
  integrations := [{ id := 1, integrationId := "recovery-webhook".toList }]
  subscriptions := [onCall]
  alertIds := List.nodup_singleton _
  subscriptionIds := List.nodup_singleton _

/-- A cycle in which all deliveries succeed. -/
def smoothCycle : NotifierCycle where
  now := 0
  outcome _ _ _ := .sent
  recoveryOutcome _ _ _ := .sent

/-- The site is set up, and a cycle sends its alert. -/
def webhookEvents : List Event := [.others webhookSite fun _ => none, .cycle smoothCycle]

/-- The tables after that. -/
def afterWebhook : Notifier := (exec (Notifier.step neverSend) Always {} webhookEvents).getD {}

/-- **Who has received an alert counts as not notified and as told of its recovery**, if the integration
has the word in its id. -/
theorem webhook_not_exact :
    Run (Notifier.step neverSend) Always {} webhookEvents afterWebhook ∧
      afterWebhook.Received 1 1 ∧ ¬ afterWebhook.Recovered 1 1 ∧
      hasAlertNotification afterWebhook.site.db 1 1 = false ∧
      hasRecoveryNotification afterWebhook.site.db 1 1 = true ∧ ¬ Exact afterWebhook := by
  have hreceived : afterWebhook.Received 1 1 := by
    unfold Notifier.Received
    decide
  have hnot : ¬ afterWebhook.Recovered 1 1 := by
    unfold Notifier.Recovered
    decide
  have hnone : hasAlertNotification afterWebhook.site.db 1 1 = false := by decide
  refine ⟨Run.of_isSome (by decide), hreceived, hnot, hnone, by decide, fun h => ?_⟩
  rw [(h.classified 1 1 hreceived hnot).1] at hnone
  cases hnone

end DBClaw.Notifications
