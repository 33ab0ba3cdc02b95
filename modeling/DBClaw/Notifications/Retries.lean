import DBClaw.Notifications.Dispatcher
import Mathlib.Data.List.Nodup
import Mathlib.Order.Monotone.Basic
import Mathlib.Tactic.Linarith

/-! # Failed deliveries are retried
The dispatcher goes on forever, and between two of its cycles the rest of the system changes what it
likes (`Others`). `NoLostNotification` asks that a target to which an alert could not be delivered is
tried again, as long as the alert stays due there. With a cooldown the success of another target of
the subscription only delays this; without one `_already_delivered` looks at all deliveries ever made
and the target is never tried again. `noLostNotification_of_retriable` says what suffices. -/

namespace DBClaw.Notifications

open DBClaw.Alerts

variable {Obj : Type} (interpreter : Interpreter Obj)

/-! ## Runs of the dispatcher -/

/-- What the rest of the system may do between two cycles: anything, but it neither marks an alert
that stays active nor writes deliveries of it. -/
def Others (before after : Site) : Prop :=
  ∀ a ∈ before.db.alerts, ∀ b ∈ after.db.alerts, b.id = a.id → a.status = .active →
    b.status = .active → b.notifiedAt = a.notifiedAt ∧
      ∀ log ∈ after.db.deliveryLogs, log.alertId = a.id → log ∈ before.db.deliveryLogs

/-- **A run of the dispatcher**: what each cycle finds, and what it is like. -/
structure DispatcherRun where
  site : ℕ → Site
  cycle : ℕ → Cycle
  clock : Monotone fun n => (cycle n).now
  others : ∀ n, Others (dispatch interpreter (site n) (cycle n)).site (site (n + 1))

variable {interpreter}

/-- What a cycle of the run does. -/
def DispatcherRun.work (run : DispatcherRun interpreter) (n : ℕ) : Work :=
  dispatch interpreter (run.site n) (run.cycle n)

/-- An alert and a target of a subscription that it goes to. -/
structure Notification where
  alertId : ℕ
  subscriptionId : ℕ
  target : Target
  deriving DecidableEq, Repr

/-- The log is of a delivery to the subscription of the notification. -/
def Notification.logged (x : Notification) (log : AlertDeliveryLog) : Prop :=
  log.alertId = x.alertId ∧ log.subscriptionId = x.subscriptionId

/-- The notification is attempted. -/
def Work.Attempts (work : Work) (x : Notification) : Prop :=
  ∃ d ∈ work.deliveries, x.logged d.log ∧ d.target = x.target

/-- An attempt at the notification ends with this status. -/
def Work.Ends (work : Work) (x : Notification) (status : DeliveryStatus) : Prop :=
  ∃ d ∈ work.deliveries, x.logged d.log ∧ d.target = x.target ∧ d.log.status = status

/-- The alert is active, the subscription matches it, and the target is enabled. -/
def IsDue (site : Site) (now : Time) (x : Notification) : Prop :=
  ∃ a ∈ site.db.alerts, a.id = x.alertId ∧ a.status = .active ∧
    ∃ s ∈ allSubscriptions site, s.id = x.subscriptionId ∧
      checkSubscriptionMatch a s now = some true ∧ x.target ∈ s.integrationTargets ∧
      (openIntegration site x.target).isSome

/-- **No notification is lost**: one that failed, and did not succeed so far, is attempted again in a
later cycle as long as it stays due. -/
def NoLostNotification (run : DispatcherRun interpreter) : Prop :=
  ∀ n x, (run.work n).Ends x .failed → (∀ k ≤ n, ¬ (run.work k).Ends x .sent) →
    (∀ m > n, IsDue (run.site m) (run.cycle m).now x) → ∃ m > n, (run.work m).Attempts x

/-- **A notification that failed in a cycle can be retried**: the alert is not held back forever; the
cooldown is positive whenever the alert was delivered to another target of the subscription, and
bounded; and the deliveries of other alerts of its event to the subscription come to an end. -/
structure Retriable (run : DispatcherRun interpreter) (n : ℕ) (x : Notification) : Prop where
  opportunities : ∀ T, ∃ m > n, T ≤ (run.cycle m).now ∧ ∀ a ∈ (run.site m).db.alerts,
    a.id = x.alertId → isHeldBack (run.site m) (run.cycle m).now a = false
  window : ∀ m > n, 0 < (run.site m).db.cooldownMinutes ∨
    ∀ log ∈ (run.site m).db.deliveryLogs, x.logged log → log.status ≠ .sent
  bounded : ∃ K, ∀ m > n, (run.site m).db.cooldownMinutes ≤ K
  quiet : ∃ T, ∀ m > n, ∀ a ∈ (run.site m).db.alerts, a.id = x.alertId → ∀ eventId ∈ a.eventId,
    ∀ d ∈ eventDeliveries (run.work m).site.db x.subscriptionId eventId,
      d.1.alertId ≠ x.alertId → d.1.time ≤ T

/-! ## What holds an alert back at a subscription -/

/-- The deliveries of an event. -/
theorem mem_eventDeliveries {db : Db} {subscriptionId eventId : ℕ}
    {d : AlertDeliveryLog × Severity} :
    d ∈ eventDeliveries db subscriptionId eventId ↔ d.1 ∈ db.deliveryLogs ∧
      (d.1.subscriptionId = subscriptionId ∧ d.1.status = .sent ∧
        Text.contains d.1.channel "recovery".toList = false) ∧
      ∃ a ∈ db.alerts, a.id = d.1.alertId ∧ a.eventId = some eventId ∧ a.severity = d.2 := by
  unfold eventDeliveries
  rw [List.mem_flatMap]
  constructor
  · rintro ⟨log, hlog, hd⟩
    split at hd
    · rename_i hsent
      obtain ⟨a, ha, rfl⟩ := List.mem_map.mp hd
      obtain ⟨hmem, hof⟩ := List.mem_filter.mp ha
      rw [decide_eq_true_eq] at hof
      exact ⟨hlog, hsent, a, hmem, hof.1, hof.2, rfl⟩
    · cases hd
  · rintro ⟨hlog, hsent, a, ha, hid, hevent, hseverity⟩
    refine ⟨d.1, hlog, ?_⟩
    rw [if_pos hsent, List.mem_map]
    exact ⟨a, List.mem_filter.mpr ⟨ha, decide_eq_true ⟨hid, hevent⟩⟩, by rw [hseverity]⟩

/-- The deliveries of an event stay when a cycle goes on. -/
theorem Work.Extends.eventDeliveries {work later : Work} (h : work.Extends later)
    (subscriptionId eventId : ℕ) :
    eventDeliveries work.site.db subscriptionId eventId ⊆
      eventDeliveries later.site.db subscriptionId eventId := by
  intro d hd
  obtain ⟨hlog, hsent, a, ha, hid, hevent, hseverity⟩ := mem_eventDeliveries.mp hd
  have hrow : unmarked a ∈ later.site.db.alerts.map unmarked := by
    rw [h.rows]
    exact List.mem_map_of_mem ha
  obtain ⟨b, hb, hsame⟩ := List.mem_map.mp hrow
  refine mem_eventDeliveries.mpr ⟨h.logs hlog, hsent, b, hb, ?_, ?_, ?_⟩
  · exact (congrArg AlertMessage.id hsame).trans hid
  · exact (congrArg AlertMessage.eventId hsame).trans hevent
  · exact (congrArg AlertMessage.severity hsame).trans hseverity

/-- **The default rule lets an alert through when the cooldown after each delivery of its event is
over.** -/
theorem defaultAggregationRule_of_elapsed {db : Db} {alert : AlertMessage}
    {subscription : AlertSubscription} {now : Time}
    (h : ∀ eventId ∈ alert.eventId, ∀ d ∈ eventDeliveries db subscription.id eventId,
      0 < db.cooldownMinutes → d.1.time ≤ now - Time.minutes db.cooldownMinutes) :
    defaultAggregationRule db alert subscription now = true := by
  unfold defaultAggregationRule
  split
  · rfl
  · rename_i eventId hevent
    dsimp only
    split
    · rfl
    · rename_i latest hlatest
      split
      · rfl
      · obtain ⟨d, hd, rfl⟩ := List.mem_map.mp (List.max?_mem hlatest)
        have hold := h eventId hevent d hd
        simp only [Bool.not_eq_true', Bool.and_eq_false_iff, decide_eq_false_iff_not]
        by_cases hpos : 0 < db.cooldownMinutes
        · exact .inr (not_lt.mpr (le_sub_comm.mp (hold hpos)))
        · exact .inl hpos

/-- An open target gets a delivery. -/
theorem exists_delivery {site : Site} (cycle : Cycle) {alert : AlertMessage}
    {subscription : AlertSubscription} {target : Target}
    (halive : ¬ (alert.datasourceId ≠ 0 ∧ (site.datasource alert.datasourceId).isNone))
    (htarget : target ∈ subscription.integrationTargets)
    (hopen : (openIntegration site target).isSome) :
    ∃ d ∈ sendViaIntegration site cycle alert subscription,
      d.log.alertId = alert.id ∧ d.log.subscriptionId = subscription.id ∧ d.target = target := by
  obtain ⟨integration, hintegration⟩ := Option.isSome_iff_exists.mp hopen
  obtain ⟨position, hposition⟩ := List.mem_iff_getElem?.mp htarget
  have hdeliver : ∃ d, deliver site cycle alert subscription target position = some d ∧
      d.log.alertId = alert.id ∧ d.log.subscriptionId = subscription.id ∧ d.target = target := by
    rw [deliver, hintegration]
    exact ⟨_, rfl, rfl, rfl, rfl⟩
  obtain ⟨d, hd, hof⟩ := hdeliver
  refine ⟨d, ?_, hof⟩
  rw [sendViaIntegration, if_neg halive]
  exact List.mem_filterMap.mpr ⟨(target, position), List.mem_zipIdx_iff_getElem?.mpr hposition, hd⟩

/-- The deliveries of an alert to a subscription, and whether its datasource is there. -/
theorem of_mem_sendViaIntegration {site : Site} {cycle : Cycle} {alert : AlertMessage}
    {subscription : AlertSubscription} {d : Delivery}
    (hd : d ∈ sendViaIntegration site cycle alert subscription) :
    ¬ (alert.datasourceId ≠ 0 ∧ (site.datasource alert.datasourceId).isNone) ∧
      d.log.alertId = alert.id ∧ d.log.subscriptionId = subscription.id := by
  unfold sendViaIntegration at hd
  split at hd
  · cases hd
  · rename_i halive
    obtain ⟨⟨target, position⟩, -, hdeliver⟩ := List.mem_filterMap.mp hd
    obtain ⟨integration, -, rfl⟩ := Option.map_eq_some_iff.mp hdeliver
    exact ⟨halive, rfl, rfl⟩

/-! ## One cycle -/

variable {site : Site} {cycle : Cycle} {x : Notification}

/-- A delivery to the subscription is one of the target too, in a cycle in which the target is open. -/
theorem kept_attempts (interpreter : Interpreter Obj) (cycle : Cycle)
    {subscription : AlertSubscription}
    (hsubscription : subscription ∈ allSubscriptions site)
    (hid : subscription.id = x.subscriptionId)
    (htarget : x.target ∈ subscription.integrationTargets)
    (hopen : (openIntegration site x.target).isSome) :
    Kept interpreter site cycle fun work => ∀ d ∈ work.deliveries, x.logged d.log → work.Attempts x where
  clearSilence work id h := h
  record work alert halert s hs _ h _ _ := by
    intro d hd hlogged
    obtain hold | hnew := List.mem_append.mp hd
    · obtain ⟨e, he, hof⟩ := h d hold hlogged
      exact ⟨e, List.mem_append_left _ he, hof⟩
    · obtain ⟨halive, halertId, hsubscriptionId⟩ := of_mem_sendViaIntegration hnew
      have hsame : s = subscription :=
        List.inj_on_of_nodup_map site.subscriptionIds (List.mem_of_mem_filter hs)
          (List.mem_of_mem_filter hsubscription)
          (hsubscriptionId.symm.trans (hlogged.2.trans hid.symm))
      subst hsame
      obtain ⟨e, he, hea, hes, het⟩ := exists_delivery cycle halive htarget hopen
      exact ⟨e, List.mem_append_right _ he,
        ⟨hea.trans (halertId.symm.trans hlogged.1), hes.trans hid⟩, het⟩

/-- **A cycle writes no log for the subscription of an open target without an attempt at it.** -/
theorem attempts_of_new_log (hdue : IsDue site cycle.now x) {log : AlertDeliveryLog}
    (hlog : log ∈ (dispatch interpreter site cycle).site.db.deliveryLogs) (hlogged : x.logged log)
    (hnew : log ∉ site.db.deliveryLogs) : (dispatch interpreter site cycle).Attempts x := by
  obtain ⟨-, -, -, -, s, hs, hid, -, htarget, hopen⟩ := hdue
  obtain ⟨hcycle, hattempts⟩ :=
    (kept_attempts interpreter cycle hs hid htarget hopen).after_dispatch (List.forall_mem_nil _)
  rw [hcycle.logs] at hlog
  obtain hold | hadded := List.mem_append.mp hlog
  · exact absurd hold hnew
  · obtain ⟨d, hd, rfl⟩ := List.mem_map.mp hadded
    exact hattempts d hd hlogged

/-- **A cycle leaves the rows of alerts alone that are not due or held back.** -/
theorem mem_alerts_dispatch {a : AlertMessage} (ha : a ∈ site.db.alerts)
    (hnot : isPending site cycle.now a = false ∨ isHeldBack site cycle.now a = true) :
    a ∈ (dispatch interpreter site cycle).site.db.alerts := by
  have hkept : Kept interpreter site cycle fun work => a ∈ work.site.db.alerts :=
    { clearSilence := fun _ _ h => h
      record := by
        intro work b hb s hs _ h hfree _
        obtain ⟨hbmem, hbpending⟩ := List.mem_filter.mp hb
        have hne : a.id ≠ b.id := by
          intro hsame
          have heq : a = b := List.inj_on_of_nodup_map site.alertIds ha hbmem hsame
          subst heq
          obtain hnot | hnot := hnot
          · rw [hnot] at hbpending
            cases hbpending
          · rw [hnot] at hfree
            cases hfree
        unfold Work.record
        split
        · exact List.mem_map.mpr ⟨a, h, if_neg hne⟩
        · exact h }
  exact (hkept.after_dispatch ha).2

/-- **A notification that nothing holds back is attempted**: the alert is due and not held back, the
deliveries to the other targets are longer ago than the cooldown, and so are those of the other
alerts of its event. -/
theorem attempts_of_elapsed {a : AlertMessage} (ha : a ∈ pendingNotifications site cycle.now)
    (haid : a.id = x.alertId) (hfree : isHeldBack site cycle.now a = false)
    (hdue : IsDue site cycle.now x)
    (hown : ∀ log ∈ site.db.deliveryLogs, x.logged log → log.status = .sent →
      0 < site.db.cooldownMinutes ∧ log.time ≤ cycle.now - Time.minutes site.db.cooldownMinutes ∧
      ∀ t ∈ log.sentAt, t < cycle.now - Time.minutes site.db.cooldownMinutes)
    (hothers : ∀ eventId ∈ a.eventId, ∀ d ∈ eventDeliveries
      (dispatch interpreter site cycle).site.db x.subscriptionId eventId,
      d.1.alertId ≠ x.alertId → 0 < site.db.cooldownMinutes →
      d.1.time ≤ cycle.now - Time.minutes site.db.cooldownMinutes) :
    (dispatch interpreter site cycle).Attempts x := by
  obtain ⟨b, hb, hbid, -, s, hs, hsid, hmatch, htarget, hopen⟩ := hdue
  have hsame : b = a := List.inj_on_of_nodup_map site.alertIds hb (List.mem_of_mem_filter ha)
    (hbid.trans haid.symm)
  subst hsame
  obtain ⟨w, hw, hattempts, hlater⟩ :=
    (kept_attempts interpreter cycle hs hsid htarget hopen).exists_turn (List.forall_mem_nil _) ha
      hfree hs
  by_cases hdone : w.Attempts x
  · obtain ⟨d, hd, hof⟩ := hdone
    exact ⟨d, hlater.deliveries ((extends_dispatchTo b s).deliveries hd), hof⟩
  · have hcooldown : w.site.db.cooldownMinutes = site.db.cooldownMinutes := by
      rw [Db.cooldownMinutes, hw.cooldown, Db.cooldownMinutes]
    -- nothing was sent to the subscription before its turn
    have hlogs : ∀ log ∈ w.site.db.deliveryLogs, x.logged log → log ∈ site.db.deliveryLogs := by
      intro log hlog hlogged
      rw [hw.logs] at hlog
      obtain hold | hnew := List.mem_append.mp hlog
      · exact hold
      · obtain ⟨d, hd, rfl⟩ := List.mem_map.mp hnew
        exact absurd (hattempts d hd hlogged) hdone
    have hrule : defaultAggregationRule w.site.db b s cycle.now = true := by
      refine defaultAggregationRule_of_elapsed fun eventId hevent d hd hpos => ?_
      rw [hcooldown] at hpos ⊢
      obtain ⟨hlog, ⟨hsub, hsent, -⟩, -⟩ := mem_eventDeliveries.mp hd
      by_cases hmine : d.1.alertId = x.alertId
      · have hlogged : x.logged d.1 := ⟨hmine, hsub.trans hsid⟩
        exact (hown d.1 (hlogs d.1 hlog hlogged) hlogged hsent).2.1
      · refine hothers eventId hevent d ?_ hmine hpos
        rw [← hsid]
        exact ((extends_dispatchTo b s).trans hlater).eventDeliveries _ _ hd
    have hnotyet : alreadyDelivered w.site.db b.id s.id cycle.now = false := by
      rw [alreadyDelivered, List.any_eq_false]
      intro log hlog hdelivered
      obtain ⟨halert, hsub, hsent, hwindow⟩ := of_decide_eq_true hdelivered
      have hlogged : x.logged log := ⟨halert.trans haid, hsub.trans hsid⟩
      obtain ⟨hpos, -, hold⟩ := hown log (hlogs log hlog hlogged) hlogged hsent
      rw [hcooldown] at hwindow
      obtain ⟨t, ht, hrecent⟩ := hwindow hpos
      exact absurd (hold t ht) (not_lt.mpr hrecent)
    have hgoes : goesTo interpreter w.site.db cycle.now b s = true := by
      rw [goesTo, shouldSendAlert_eq_default, Decision.send, hrule, hmatch, hnotyet]
      simp [List.ne_nil_of_mem htarget]
    have halive : ¬ (b.datasourceId ≠ 0 ∧ (site.datasource b.datasourceId).isNone) := by
      unfold isHeldBack at hfree
      simp only [Bool.or_eq_false_iff] at hfree
      simpa [Option.isSome_iff_ne_none] using hfree.2
    obtain ⟨d, hd, hda, hds, hdt⟩ := exists_delivery cycle halive htarget hopen
    refine ⟨d, hlater.deliveries ?_, ⟨hda.trans haid, hds.trans hsid⟩, hdt⟩
    rw [dispatchTo, if_pos hgoes, hw.sendViaIntegration_eq]
    exact List.mem_append_right _ hd

/-! ## All cycles -/

/-- A cycle keeps the row of an alert, but for its mark. -/
theorem exists_row_dispatch (interpreter : Interpreter Obj) (cycle : Cycle) {a : AlertMessage}
    (ha : a ∈ site.db.alerts) :
    ∃ b ∈ (dispatch interpreter site cycle).site.db.alerts, b.id = a.id ∧ b.status = a.status := by
  have hkept : Kept interpreter site cycle fun _ => True :=
    ⟨fun _ _ h => h, fun _ _ _ _ _ _ h _ _ => h⟩
  have hrow : unmarked a ∈ (dispatch interpreter site cycle).site.db.alerts.map unmarked := by
    rw [(hkept.after_dispatch trivial).1.rows]
    exact List.mem_map_of_mem ha
  obtain ⟨b, hb, hsame⟩ := List.mem_map.mp hrow
  have hid : (unmarked b).id = (unmarked a).id := congrArg AlertMessage.id hsame
  have hstatus : (unmarked b).status = (unmarked a).status := congrArg AlertMessage.status hsame
  exact ⟨b, hb, hid, hstatus⟩

/-- The times of finitely many logs are bounded. -/
theorem exists_le_time (logs : List AlertDeliveryLog) : ∃ L, ∀ log ∈ logs, log.time ≤ L := by
  induction logs with
  | nil => exact ⟨0, List.forall_mem_nil _⟩
  | cons log logs ih =>
    obtain ⟨L, hL⟩ := ih
    refine ⟨max log.time L, fun other hother => ?_⟩
    obtain rfl | hother := List.mem_cons.mp hother
    · exact le_max_left _ _
    · exact (hL other hother).trans (le_max_right _ _)

variable (run : DispatcherRun interpreter) {n : ℕ}

/-- **Without attempts at a target that stays due there are no new deliveries to its subscription.** -/
theorem DispatcherRun.logs_stay (hdue : ∀ m > n, IsDue (run.site m) (run.cycle m).now x)
    (hnone : ∀ m > n, ¬ (run.work m).Attempts x) (m : ℕ) (hm : n + 1 ≤ m) :
    ∀ log ∈ (run.site m).db.deliveryLogs, x.logged log →
      log ∈ (run.site (n + 1)).db.deliveryLogs := by
  induction m, hm using Nat.le_induction with
  | base => exact fun log hlog _ => hlog
  | succ m hm ih =>
    intro log hlog hlogged
    obtain ⟨a, ha, haid, hactive, -⟩ := hdue m hm
    obtain ⟨b, hb, hbid, hbactive, -⟩ := hdue (m + 1) (Nat.lt_succ_of_lt hm)
    obtain ⟨c, hc, hcid, hcstatus⟩ := exists_row_dispatch interpreter (run.cycle m) ha
    have hold : log ∈ (run.work m).site.db.deliveryLogs :=
      (run.others m c hc b hb (hbid.trans (haid.symm.trans hcid.symm)) (hcstatus.trans hactive)
        hbactive).2 log hlog (hlogged.1.trans (haid.symm.trans hcid.symm))
    refine ih log ?_ hlogged
    by_contra hnew
    exact hnone m hm (attempts_of_new_log (hdue m hm) hold hlogged hnew)

/-- **An alert that is never both due and free is not marked.** -/
theorem DispatcherRun.notifiedAt_stays (hdue : ∀ m ≥ n, IsDue (run.site m) (run.cycle m).now x)
    (hidle : ∀ m ≥ n, ∀ a ∈ (run.site m).db.alerts, a.id = x.alertId →
      isPending (run.site m) (run.cycle m).now a = false ∨
        isHeldBack (run.site m) (run.cycle m).now a = true)
    {a : AlertMessage} (ha : a ∈ (run.site n).db.alerts) (haid : a.id = x.alertId) (m : ℕ)
    (hm : n ≤ m) :
    ∃ b ∈ (run.site m).db.alerts, b.id = x.alertId ∧ b.status = .active ∧
      b.notifiedAt = a.notifiedAt := by
  induction m, hm using Nat.le_induction with
  | base =>
    obtain ⟨b, hb, hbid, hactive, -⟩ := hdue n le_rfl
    have hsame : b = a :=
      List.inj_on_of_nodup_map (run.site n).alertIds hb ha (hbid.trans haid.symm)
    exact ⟨b, hb, hbid, hactive, by rw [hsame]⟩
  | succ m hm ih =>
    obtain ⟨b, hb, hbid, hactive, hmark⟩ := ih
    obtain ⟨c, hc, hcid, hcactive, -⟩ := hdue (m + 1) (Nat.le_succ_of_le hm)
    have hkept : b ∈ (run.work m).site.db.alerts := mem_alerts_dispatch hb (hidle m hm b hb hbid)
    exact ⟨c, hc, hcid, hcactive, (run.others m b hkept c hc (hcid.trans hbid.symm) hactive
      hcactive).1.trans hmark⟩

/-- **No notification is lost in a run in which each one that fails can be retried.** -/
theorem noLostNotification_of_retriable
    (h : ∀ n x, (run.work n).Ends x .failed → Retriable run n x) : NoLostNotification run := by
  intro n x hfailed _ hdue
  obtain ⟨hopportunities, hwindow, ⟨K, hK⟩, ⟨T, hT⟩⟩ := h n x hfailed
  by_contra hnever
  have hnone : ∀ m > n, ¬ (run.work m).Attempts x := fun m hm hattempts => hnever ⟨m, hm, hattempts⟩
  obtain ⟨L, hL⟩ := exists_le_time (run.site (n + 1)).db.deliveryLogs
  -- late enough for every cooldown to be over
  have hidle : ∀ m > n, max L T + Time.minutes (max K 0) < (run.cycle m).now →
      ∀ a ∈ (run.site m).db.alerts, a.id = x.alertId →
        isPending (run.site m) (run.cycle m).now a = false ∨
          isHeldBack (run.site m) (run.cycle m).now a = true := by
    intro m hm hlate a ha haid
    have hwait : Time.minutes (run.site m).db.cooldownMinutes ≤ Time.minutes (max K 0) :=
      Time.minutes_mono ((hK m hm).trans (le_max_left _ _))
    have hLT := le_max_left L T
    have hTL := le_max_right L T
    by_contra hdo
    rw [not_or, Bool.not_eq_false, Bool.not_eq_true] at hdo
    refine hnone m hm (attempts_of_elapsed (List.mem_filter.mpr ⟨ha, hdo.1⟩) haid hdo.2 (hdue m hm)
      ?_ ?_)
    · intro log hlog hlogged hsent
      have hold := hL log (run.logs_stay hdue hnone m hm log hlog hlogged)
      have hpos := (hwindow m hm).resolve_right fun hclean => hclean log hlog hlogged hsent
      refine ⟨hpos, by linarith, fun t ht => ?_⟩
      have htime : log.time = t := by
        rw [AlertDeliveryLog.time, Option.mem_def.mp ht, Option.getD_some]
      linarith
    · intro eventId hevent d hd hother _
      have hold := hT m hm a ha haid eventId hevent d hd hother
      linarith
  obtain ⟨k, hk, hklate, -⟩ := hopportunities (max L T + Time.minutes (max K 0) + 1)
  obtain ⟨a, ha, haid, -⟩ := hdue k hk
  have hlater : ∀ m ≥ k, max L T + Time.minutes (max K 0) < (run.cycle m).now := by
    intro m hm
    have hclock : (run.cycle k).now ≤ (run.cycle m).now := run.clock hm
    linarith
  have hstays := run.notifiedAt_stays (fun m hm => hdue m (lt_of_lt_of_le hk hm))
    (fun m hm => hidle m (lt_of_lt_of_le hk hm) (hlater m hm)) ha haid
  -- the alert's mark stays, and the cooldown after it is over at last
  obtain ⟨m, hm, hmlate, hfree⟩ := hopportunities
    (max ((run.cycle k).now + 1) (a.notifiedAt.getD 0 + Time.minutes (max K 0)))
  have hkm : k ≤ m := by
    by_contra hlt
    have hclock : (run.cycle m).now ≤ (run.cycle k).now := run.clock (Nat.le_of_lt (not_le.mp hlt))
    have := le_max_left ((run.cycle k).now + 1) (a.notifiedAt.getD 0 + Time.minutes (max K 0))
    linarith
  obtain ⟨b, hb, hbid, hactive, hmark⟩ := hstays m hkm
  have hbfree := hfree b hb hbid
  have hpending : isPending (run.site m) (run.cycle m).now b = true := by
    refine decide_eq_true ⟨hactive, fun t ht => ?_, ?_⟩
    · have hwait : Time.minutes (max (run.site m).db.cooldownMinutes 0) ≤ Time.minutes (max K 0) :=
        Time.minutes_mono (max_le_max (hK m hm) le_rfl)
      have htime : a.notifiedAt.getD 0 = t := by
        rw [← hmark, Option.mem_def.mp ht, Option.getD_some]
      have := le_max_right ((run.cycle k).now + 1) (a.notifiedAt.getD 0 + Time.minutes (max K 0))
      linarith
    · unfold isHeldBack at hbfree
      simp only [Bool.or_eq_false_iff] at hbfree
      simpa [Option.isSome_iff_ne_none, or_iff_not_imp_left] using hbfree.2
  obtain hno | hheld := hidle m hm (hlater m hkm) b hb hbid
  · rw [hpending] at hno
    cases hno
  · rw [hbfree] at hheld
    cases hheld

/-! ## Lost notifications -/

/-- **Without a cooldown one delivery is enough**: no target of the subscription is attempted again. -/
theorem not_attempts_of_delivered (hcooldown : site.db.cooldownMinutes ≤ 0)
    (hsent : ∃ log ∈ site.db.deliveryLogs, x.logged log ∧ log.status = .sent) :
    ¬ (dispatch interpreter site cycle).Attempts x := by
  obtain ⟨log, hlog, hlogged, hstatus⟩ := hsent
  have hkept : Kept interpreter site cycle fun work => ∀ d ∈ work.deliveries, ¬ x.logged d.log :=
    { clearSilence := fun _ _ h => h
      record := by
        intro w a ha s hs hw h hfree hgoes d hd hdlogged
        obtain hold | hnew := List.mem_append.mp hd
        · exact h d hold hdlogged
        · obtain ⟨-, halert, hsub⟩ := of_mem_sendViaIntegration hnew
          have hdelivered : alreadyDelivered w.site.db a.id s.id cycle.now = true := by
            rw [alreadyDelivered, List.any_eq_true]
            refine ⟨log, by rw [hw.logs]; exact List.mem_append_left _ hlog, decide_eq_true
              ⟨hlogged.1.trans (hdlogged.1.symm.trans halert),
                hlogged.2.trans (hdlogged.2.symm.trans hsub), hstatus, fun hpos => ?_⟩⟩
            rw [Db.cooldownMinutes, hw.cooldown, ← Db.cooldownMinutes] at hpos
            exact absurd hpos (not_lt.mpr hcooldown)
          rw [goesTo, hdelivered] at hgoes
          simp at hgoes }
  rintro ⟨d, hd, hdlogged, -⟩
  exact (hkept.after_dispatch (List.forall_mem_nil _)).2 d hd hdlogged

/-- A target of an integration. -/
def pager (targetId : String) : Target where
  targetId := some targetId
  integrationId := some 1

/-- A subscription with two targets. -/
def onCall : AlertSubscription where
  id := 1
  integrationTargets := [pager "first", pager "second"]

/-- An active alert of a subscription with two targets, with this cooldown. -/
def onCallSite (cooldown : ℤ) : Site where
  db := {
    alerts := [cpuAlert]
    notificationCooldownMinutes := some cooldown }
  datasources := [{ id := 1 }]
  integrations := [{ id := 1, integrationId := "pager".toList }]
  subscriptions := [onCall]

/-- A cycle, every half a minute, in which only the deliveries to the first target succeed if they
do. -/
def onCallCycle (first : DeliveryStatus) (n : ℕ) : Cycle where
  now := Time.seconds (30 * n)
  outcome _ _ position := if position = 0 then first else .failed

/-- The notification to the second target. -/
def secondPager : Notification where
  alertId := 1
  subscriptionId := 1
  target := pager "second"

/-- The sites of a run in which nothing but the dispatcher acts. -/
def undisturbed (interpreter : Interpreter Obj) (site : Site) (cycle : ℕ → Cycle) : ℕ → Site
  | 0 => site
  | n + 1 => (dispatch interpreter (undisturbed interpreter site cycle n) (cycle n)).site

/-- The rest of the system may do nothing. -/
theorem Others.refl (site : Site) : Others site site := by
  intro a ha b hb hid _ _
  rw [List.inj_on_of_nodup_map site.alertIds hb ha hid]
  exact ⟨rfl, fun log hlog _ => hlog⟩

/-- A run in which nothing but the dispatcher acts. -/
def undisturbedRun (interpreter : Interpreter Obj) (site : Site) (cycle : ℕ → Cycle)
    (clock : Monotone fun n => (cycle n).now) : DispatcherRun interpreter where
  site := undisturbed interpreter site cycle
  cycle := cycle
  clock := clock
  others _ := .refl _

variable (interpreter) in
/-- What such a run keeps. -/
theorem undisturbed_keeps (site : Site) (cycle : ℕ → Cycle) (n : ℕ) :
    (undisturbed interpreter site cycle n).integrations = site.integrations ∧
    (undisturbed interpreter site cycle n).subscriptions = site.subscriptions ∧
    (undisturbed interpreter site cycle n).db.notificationCooldownMinutes
      = site.db.notificationCooldownMinutes ∧
    (undisturbed interpreter site cycle n).db.alerts.map unmarked = site.db.alerts.map unmarked ∧
    (undisturbed interpreter site cycle n).db.deliveryLogs ⊆
      (undisturbed interpreter site cycle (n + 1)).db.deliveryLogs := by
  have hkept : ∀ n, InCycle (undisturbed interpreter site cycle n) (cycle n).now
      (dispatch interpreter (undisturbed interpreter site cycle n) (cycle n)) := fun n =>
    (Kept.after_dispatch (I := fun _ => True)
      ⟨fun _ _ h => h, fun _ _ _ _ _ _ h _ _ => h⟩ trivial).1
  have hlogs : ∀ n, (undisturbed interpreter site cycle n).db.deliveryLogs ⊆
      (undisturbed interpreter site cycle (n + 1)).db.deliveryLogs := by
    intro n
    rw [undisturbed, (hkept n).logs]
    exact List.subset_append_left _ _
  induction n with
  | zero => exact ⟨rfl, rfl, rfl, rfl, hlogs 0⟩
  | succ n ih =>
    obtain ⟨hi, hs, hc, hr, -⟩ := ih
    exact ⟨(hkept n).integrations.trans hi, (hkept n).subscriptions.trans hs,
      (hkept n).cooldown.trans hc, (hkept n).rows.trans hr, hlogs (n + 1)⟩

/-- The half minutes pass. -/
theorem onCallCycle_clock (first : DeliveryStatus) :
    Monotone fun n => (onCallCycle first n).now := by
  intro m n h
  exact Int.mul_le_mul_of_nonneg_right (Int.mul_le_mul_of_nonneg_left (Int.ofNat_le.mpr h)
    (by decide)) (by decide)

/-- A run with this cooldown in which every delivery to the first target succeeds and every delivery
to the second one fails. -/
def onCallRun (cooldown : ℤ) : DispatcherRun neverSend :=
  undisturbedRun neverSend (onCallSite cooldown) (onCallCycle .sent) (onCallCycle_clock .sent)

/-- The alert of such a run, but for its mark. -/
theorem onCallRun_alerts (cooldown : ℤ) (n : ℕ) :
    ∃ notifiedAt, ((onCallRun cooldown).site n).db.alerts
      = [{ cpuAlert with notifiedAt := notifiedAt }] := by
  obtain ⟨-, -, -, hrows, -⟩ := undisturbed_keeps neverSend (onCallSite cooldown)
    (onCallCycle .sent) n
  obtain ⟨a, ha, hsame⟩ := List.map_eq_singleton_iff.mp hrows
  refine ⟨a.notifiedAt, ha.trans ?_⟩
  have hrow : a = { unmarked a with notifiedAt := a.notifiedAt } := rfl
  rw [hrow, hsame]
  rfl

/-- The notification to the second target stays due. -/
theorem onCallRun_isDue (cooldown : ℤ) (n : ℕ) :
    IsDue ((onCallRun cooldown).site n) ((onCallRun cooldown).cycle n).now secondPager := by
  obtain ⟨hintegrations, hsubscriptions, -⟩ := undisturbed_keeps neverSend (onCallSite cooldown)
    (onCallCycle .sent) n
  obtain ⟨notifiedAt, halerts⟩ := onCallRun_alerts cooldown n
  refine ⟨{ cpuAlert with notifiedAt := notifiedAt }, ?_, rfl, rfl, onCall, ?_, rfl, rfl, ?_, ?_⟩
  · rw [halerts]
    exact List.mem_singleton_self _
  · rw [allSubscriptions, onCallRun, undisturbedRun, hsubscriptions]
    exact List.mem_filter.mpr ⟨List.mem_singleton_self _, rfl⟩
  · decide
  · rw [openIntegration, onCallRun, undisturbedRun, hintegrations]
    rfl

instance (x : Notification) (log : AlertDeliveryLog) : Decidable (x.logged log) :=
  inferInstanceAs (Decidable (_ ∧ _))

instance (work : Work) (x : Notification) (status : DeliveryStatus) :
    Decidable (work.Ends x status) :=
  inferInstanceAs (Decidable (∃ _ ∈ _, _))

/-- **A notification is lost** without a cooldown: the delivery to the first target succeeds, and the
one to the second, which failed, is never attempted again. -/
theorem onCallRun_loses : ¬ NoLostNotification (onCallRun 0) := by
  intro h
  have hfailed : ((onCallRun 0).work 0).Ends secondPager .failed := by decide
  have hnever : ∀ k ≤ 0, ¬ ((onCallRun 0).work k).Ends secondPager .sent := by decide
  have hdelivered : ∀ m > 0, ∃ log ∈ ((onCallRun 0).site m).db.deliveryLogs,
      secondPager.logged log ∧ log.status = .sent := by
    intro m hm
    induction m, hm using Nat.le_induction with
    | base => decide
    | succ m hm ih =>
      obtain ⟨log, hlog, hof⟩ := ih
      exact ⟨log, (undisturbed_keeps neverSend (onCallSite 0) (onCallCycle .sent) m).2.2.2.2 hlog, hof⟩
  obtain ⟨m, hm, hattempts⟩ := h 0 secondPager hfailed hnever fun m _ => onCallRun_isDue 0 m
  refine not_attempts_of_delivered (le_of_eq ?_) (hdelivered m hm) hattempts
  rw [Db.cooldownMinutes, onCallRun, undisturbedRun,
    (undisturbed_keeps neverSend (onCallSite 0) (onCallCycle .sent) m).2.2.1]
  rfl

/-- With a cooldown of an hour the second target of the same run is retried. -/
theorem onCallRun_retries : NoLostNotification (onCallRun 60) := by
  refine noLostNotification_of_retriable (onCallRun 60) fun n x _ => ?_
  have hcooldown : ∀ m, ((onCallRun 60).site m).db.cooldownMinutes = 60 := by
    intro m
    rw [Db.cooldownMinutes, onCallRun, undisturbedRun,
      (undisturbed_keeps neverSend (onCallSite 60) (onCallCycle .sent) m).2.2.1]
    rfl
  have hdatasources : ∀ m, ((onCallRun 60).site m).datasources = [{ id := 1 }] := by
    intro m
    induction m with
    | zero => rfl
    | succ m ih =>
      refine (Kept.after_dispatch (I := fun work => work.site.datasources = [{ id := 1 }])
        ⟨fun work id h => ?_, fun work a _ s _ _ h _ _ => ?_⟩ ih).2
      · dsimp only [Site.clearSilence]
        rw [h, List.map_singleton]
        split <;> rfl
      · unfold Work.record
        split <;> exact h
  have hfree : ∀ m, ∀ a ∈ ((onCallRun 60).site m).db.alerts,
      isHeldBack ((onCallRun 60).site m) ((onCallRun 60).cycle m).now a = false := by
    intro m a ha
    obtain ⟨notifiedAt, halerts⟩ := onCallRun_alerts 60 m
    rw [isHeldBack, hasActiveNetworkProbeFailure, isDatasourceSilenced, Site.datasource,
      hdatasources, halerts]
    rw [halerts, List.mem_singleton] at ha
    subst ha
    rfl
  refine ⟨fun T => ?_, fun m _ => .inl (by rw [hcooldown]; decide), ⟨60, fun m _ => (hcooldown m).le⟩,
    ⟨0, fun m _ a ha _ eventId hevent => ?_⟩⟩
  · refine ⟨max (n + 1) T.toNat, lt_of_lt_of_le (Nat.lt_succ_self n) (le_max_left _ _), ?_,
      fun a ha _ => hfree _ a ha⟩
    have hT : T ≤ (max (n + 1) T.toNat : ℕ) :=
      (Int.self_le_toNat T).trans (Int.ofNat_le.mpr (le_max_right _ _))
    have hnow : ((onCallRun 60).cycle (max (n + 1) T.toNat)).now
        = 30 * (max (n + 1) T.toNat : ℕ) * 1000000 := rfl
    rw [hnow]
    linarith
  · obtain ⟨notifiedAt, halerts⟩ := onCallRun_alerts 60 m
    rw [halerts, List.mem_singleton] at ha
    subst ha
    cases hevent

end DBClaw.Notifications
