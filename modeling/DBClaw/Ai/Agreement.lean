import DBClaw.Ai.Runtime

/-! # Runtime states and their alerts
The runtime state of a policy is active while an unresolved alert is linked to it. The two are written by
different code: the flag follows the transition of every verdict, also of one that counts as an error and
leaves the alerts alone, and alerts are resolved by other services that know nothing of the flag. `agree_iff`
says that there is no other way for the two to part. -/

namespace DBClaw.Ai

open Alerts Runs

variable {cfg : Setting}

/-! ## Agreement -/

/-- The alert is an unresolved one of an AI policy, linked to the state. -/
def IsLinked (state : RuntimeState) (a : AlertMessage) : Prop :=
  state.alertId = some a.id ∧ a.alertType = "ai_policy_violation" ∧ a.status.isOpen = true

/-- The flag of a state is set exactly while an unresolved alert is linked to it. -/
def Agrees (store : AlertStore) (state : RuntimeState) : Prop :=
  state.isActive = true ↔ ∃ a ∈ store.alerts, IsLinked state a

/-- **All runtime states agree with their alerts.** -/
def Agree (w : World) : Prop := ∀ state ∈ w.states, Agrees w.store state

/-- The state that a pass is about. -/
def Pass.state (p : Pass) (w : World) : RuntimeState :=
  p.gated (getOrCreateRuntimeState p.datasourceId p.binding w.states).1

/-- The pass asks the model. -/
def Pass.Asks (p : Pass) (w : World) : Prop :=
  p.gate.shouldEvaluate = true ∧
    shouldSkipCandidateDueToInterval (p.hit (p.state w)) p.gate p.config p.now = false

/-- A verdict that counts as an error would trigger or resolve an alert. -/
def Pass.Errs (cfg : Setting) (p : Pass) (w : World) : Prop :=
  p.mode = .formal ∧ p.Asks w ∧ (evaluateAlertAiPolicy cfg p.binding p.answer).errorMessage ≠ none ∧
    (transitionOf cfg (p.state w) (evaluateAlertAiPolicy cfg p.binding p.answer) p.now).action ≠ .noop

/-- An operation resolves the alert. -/
def Resolves (a : AlertMessage) : Operation → Prop
  | .resolveAlert id => a.id = id
  | .resolveEvent id => a.eventId = some id
  | _ => False

/-- **The condition on a step**: no error would act, and no other service resolves the alert of an active
state. -/
def Proper (cfg : Setting) (w : World) : Label → Prop
  | .pass p => ¬ p.Errs cfg w
  | .operate op _ => ∀ state ∈ w.states, ∀ a ∈ w.store.alerts, IsLinked state a → ¬ Resolves a op

instance (store : AlertStore) (state : RuntimeState) : Decidable (Agrees store state) :=
  inferInstanceAs (Decidable (_ ↔ ∃ a ∈ store.alerts, state.alertId = some a.id ∧
    a.alertType = "ai_policy_violation" ∧ a.status.isOpen = true))

instance (w : World) : Decidable (Agree w) :=
  inferInstanceAs (Decidable (∀ state ∈ w.states, Agrees w.store state))

instance (p : Pass) (w : World) : Decidable (p.Asks w) := inferInstanceAs (Decidable (_ ∧ _))

instance (p : Pass) (w : World) : Decidable (p.Errs cfg w) := inferInstanceAs (Decidable (_ ∧ _ ∧ _ ∧ _))

instance (state : RuntimeState) (a : AlertMessage) : Decidable (IsLinked state a) :=
  inferInstanceAs (Decidable (_ ∧ _ ∧ _))

instance (a : AlertMessage) : (op : Operation) → Decidable (Resolves a op)
  | .resolveAlert id => inferInstanceAs (Decidable (a.id = id))
  | .resolveEvent id => inferInstanceAs (Decidable (a.eventId = some id))
  | .create _ | .createUnlinked _ | .acknowledgeAlert _ | .acknowledgeEvent _ | .touch _ =>
    .isFalse id

instance (w : World) : (label : Label) → Decidable (Proper cfg w label)
  | .pass p => inferInstanceAs (Decidable (¬ p.Errs cfg w))
  | .operate op _ => inferInstanceAs (Decidable
      (∀ state ∈ w.states, ∀ a ∈ w.store.alerts, IsLinked state a → ¬ Resolves a op))

/-! ## What operations do to alerts -/

/-- The status of an alert after an operation. -/
def statusAfter (store : AlertStore) (a : AlertMessage) : Operation → Status
  | .acknowledgeAlert id => if a.id = id then .acknowledged else a.status
  | .resolveAlert id => if a.id = id then .resolved else a.status
  | .acknowledgeEvent id =>
    if store.events.any (·.id = id) ∧ a.eventId = some id ∧ a.status = .active then .acknowledged
    else a.status
  | .resolveEvent id =>
    if store.events.any (·.id = id) ∧ a.eventId = some id then .resolved else a.status
  | .create _ | .createUnlinked _ | .touch _ => a.status

theorem updateActiveEventTime_alerts (store : AlertStore) (key : AggregationKey) (now : Time) :
    (store.updateActiveEventTime key now).alerts = store.alerts := by
  unfold AlertStore.updateActiveEventTime
  split <;> rfl

/-- **Operations other than creations only change statuses.** -/
theorem apply_alerts (window : ℤ) (store : AlertStore) (now : Time) {op : Operation}
    (hop : op.reworks = true) : (store.apply window now op).alerts =
      store.alerts.map fun a => { a with status := statusAfter store a op } := by
  cases op with
  | create | createUnlinked => cases hop
  | acknowledgeAlert id =>
    refine List.map_congr_left fun a _ => ?_
    by_cases hid : a.id = id <;> simp [statusAfter, hid]
  | resolveAlert id =>
    show (store.resolveAlertById id now).alerts = _
    unfold AlertStore.resolveAlertById
    cases hfind : store.alerts.find? (·.id = id) with
    | some alert =>
      have hsame : alert.id = id := by simpa using List.find?_some hfind
      have hresolve : (store.resolveAlert alert now).alerts =
          (store.updateAlert alert.id ({ · with status := .resolved })).alerts := by
        unfold AlertStore.resolveAlert AlertStore.checkAndAutoResolveEvent
        dsimp only
        split
        · split <;> rfl
        · rfl
      refine hresolve.trans (List.map_congr_left fun a _ => ?_)
      by_cases hid : a.id = id <;> simp [statusAfter, hsame, hid]
    | none =>
      -- no alert has the id
      refine (List.map_id _).symm.trans (List.map_congr_left fun a ha => ?_)
      have hid : a.id ≠ id := by simpa using List.find?_eq_none.mp hfind a ha
      simp [statusAfter, hid]
  | acknowledgeEvent id =>
    show (store.acknowledgeEvent id).alerts = _
    unfold AlertStore.acknowledgeEvent
    split
    · rename_i hany
      refine List.map_congr_left fun a _ => ?_
      by_cases hevent : a.eventId = some id
      · rw [if_pos hevent]
        show (if a.status = .active then { a with status := .acknowledged } else a) = _
        by_cases hactive : a.status = .active
        · rw [if_pos hactive, statusAfter, if_pos ⟨hany, hevent, hactive⟩]
        · rw [if_neg hactive, statusAfter, if_neg fun h => hactive h.2.2]
      · rw [if_neg hevent, statusAfter, if_neg fun h => hevent h.2.1]
    · rename_i hany
      simp [statusAfter, hany]
  | resolveEvent id =>
    show (store.resolveEvent id now).alerts = _
    unfold AlertStore.resolveEvent
    split
    · rename_i hany
      refine List.map_congr_left fun a _ => ?_
      by_cases hevent : a.eventId = some id
      · rw [if_pos hevent, statusAfter, if_pos ⟨hany, hevent⟩]
      · rw [if_neg hevent, statusAfter, if_neg fun h => hevent h.2]
    · rename_i hany
      simp [statusAfter, hany]
  | touch key =>
    refine (updateActiveEventTime_alerts store key now).trans ?_
    simp [statusAfter]

/-- **What an operation does to the rows it finds**: the id, the type and the event stay, and the status is
the one after it. -/
theorem exists_mem_apply {store : AlertStore} (hn : Numbered store) (window : ℤ) (now : Time)
    (op : Operation) {a : AlertMessage} (ha : a ∈ store.alerts) :
    { a with status := statusAfter store a op } ∈ (store.apply window now op).alerts := by
  cases hop : op.reworks with
  | true =>
    rw [apply_alerts window store now hop]
    exact List.mem_map_of_mem ha
  | false =>
    cases op with
    | create row =>
      show a ∈ (store.create window row now).alerts
      obtain ⟨event, -, halerts, -⟩ | ⟨-, halerts, -⟩ := create_cases hn window row now
      · rw [halerts]
        exact List.mem_append_left _ ha
      · rw [halerts]
        exact List.mem_append_left _ ha
    | createUnlinked row => exact List.mem_append_left _ ha
    | acknowledgeAlert | resolveAlert | acknowledgeEvent | resolveEvent | touch => cases hop

/-! ## What a pass does -/

section

variable {p : Pass} {w : World}

/-- The action of a transition and the flag. -/
theorem transitionOf_cases (state : RuntimeState) (judgeResult : JudgeResult) (now : Time) :
    ((transitionOf cfg state judgeResult now).action = .triggerAlert ∧ state.isActive = false ∧
      (transitionOf cfg state judgeResult now).active = true) ∨
    ((transitionOf cfg state judgeResult now).action = .recoverAlert ∧ state.isActive = true ∧
      (transitionOf cfg state judgeResult now).active = false) ∨
    ((transitionOf cfg state judgeResult now).action = .noop ∧
      (transitionOf cfg state judgeResult now).active = state.isActive) := by
  have hspec := next_spec (u := cfg.unicode) (p := ⟨cfg.confidenceThreshold, 2, 900⟩)
    ⟨.noop, state.isActive, state.consecutiveAlertCount, state.consecutiveRecoverCount,
      state.cooldownUntil⟩ ⟨judgeResult.decision, judgeResult.confidence, now⟩
  have hsame : transitionOf cfg state judgeResult now = AlertAITransition.next cfg.unicode
      ⟨cfg.confidenceThreshold, 2, 900⟩ ⟨.noop, state.isActive, state.consecutiveAlertCount,
        state.consecutiveRecoverCount, state.cooldownUntil⟩
      ⟨judgeResult.decision, judgeResult.confidence, now⟩ := rfl
  rw [hsame]
  generalize AlertAITransition.next _ _ _ _ = transition at hspec ⊢
  cases hspec with
  | trigger _ hactive => exact .inl ⟨rfl, hactive, rfl⟩
  | recovered _ hactive => exact .inr (.inl ⟨rfl, hactive, rfl⟩)
  | alert _ hactive | recovery _ hactive => exact .inr (.inr ⟨rfl, hactive.symm⟩)
  | neither => exact .inr (.inr ⟨rfl, rfl⟩)

/-- What the gate writes does not count for the transition. -/
theorem transitionOf_evaluated (state : RuntimeState) (judgeResult : JudgeResult) (now : Time) :
    transitionOf cfg (p.evaluated (p.hit state)) judgeResult now = transitionOf cfg state judgeResult now := by
  unfold Pass.evaluated Pass.hit
  split <;> rfl

/-- The store after an operation, if there is one. -/
def applyOption (window : ℤ) (store : AlertStore) (now : Time) : Option Operation → AlertStore
  | some op => store.apply window now op
  | none => store

/-- **What a pass does**, to the state that it has found and to the alerts. -/
inductive PassSpec (cfg : Setting) (p : Pass) (w : World) (found : RuntimeState) :
    Option Operation → RuntimeState → Prop
  | quiet {op : Option Operation} {state : RuntimeState} (herr : ¬ p.Errs cfg w)
      (hop : ∀ o ∈ op, ∃ key, o = .touch key) (hactive : state.isActive = found.isActive)
      (halert : state.alertId = found.alertId) : PassSpec cfg p w found op state
  | trigger {row : AlertMessage} {state : RuntimeState} (herr : ¬ p.Errs cfg w)
      (hrow : row.alertType = "ai_policy_violation") (hfound : found.isActive = false)
      (hactive : state.isActive = true) (halert : state.alertId = some w.store.nextAlertId) :
      PassSpec cfg p w found (some (.create row)) state
  | recover {op : Option Operation} {state : RuntimeState} (herr : ¬ p.Errs cfg w)
      (hop : op = (recoveredAlert w.store p.binding found).map fun a => .resolveAlert a.id)
      (hfound : found.isActive = true) (hactive : state.isActive = false) (halert : state.alertId = none) :
      PassSpec cfg p w found op state
  | error {op : Option Operation} {state : RuntimeState} (herr : p.Errs cfg w)
      (hop : ∀ o ∈ op, ∃ key, o = .touch key) (hactive : state.isActive = ! found.isActive)
      (halert : state.alertId = found.alertId) : PassSpec cfg p w found op state

/-- What the gate writes keeps the row, the flag and the link. -/
def Kept (s t : RuntimeState) : Prop :=
  t.isActive = s.isActive ∧ t.alertId = s.alertId ∧ t.datasourceId = s.datasourceId ∧
    t.policyFingerprint = s.policyFingerprint

theorem Kept.trans {s t r : RuntimeState} (h : Kept s t) (k : Kept t r) : Kept s r :=
  ⟨k.1.trans h.1, k.2.1.trans h.2.1, k.2.2.1.trans h.2.2.1, k.2.2.2.trans h.2.2.2⟩

theorem kept_gated (p : Pass) (s : RuntimeState) : Kept s (p.gated s) := by
  unfold Pass.gated
  split <;> exact ⟨rfl, rfl, rfl, rfl⟩

theorem kept_hit (p : Pass) (s : RuntimeState) : Kept s (p.hit s) := by
  unfold Pass.hit
  split <;> exact ⟨rfl, rfl, rfl, rfl⟩

theorem kept_evaluated (p : Pass) (s : RuntimeState) : Kept s (p.evaluated s) := by
  unfold Pass.evaluated
  split <;> exact ⟨rfl, rfl, rfl, rfl⟩

theorem kept_skip (p : Pass) (reason : String) (s : RuntimeState) :
    Kept s (if p.mode = .formal then s.skip reason else s) := by
  split <;> exact ⟨rfl, rfl, rfl, rfl⟩

theorem isFor_getOrCreate (datasourceId : ℕ) (binding : Binding) (states : List RuntimeState) :
    (getOrCreateRuntimeState datasourceId binding states).1.isFor datasourceId binding.policyFingerprint =
      true := by
  unfold getOrCreateRuntimeState
  split
  · rename_i hfind
    exact List.find?_some hfind
  · simp [RuntimeState.isFor, newState]

/-- The time of an active event is all that an evaluation without an action touches. -/
theorem exists_touch_of_noop {store : AlertStore} {binding : Binding} {state : RuntimeState}
    {judgeResult : JudgeResult} {mode : Mode} {now : Time}
    (h : takeAction cfg store binding state judgeResult mode now = (store, state, .noop)) :
    ∃ op : Option Operation, (∀ o ∈ op, ∃ key, o = .touch key) ∧
      applyAlertAiResult cfg store binding state judgeResult mode now =
        (applyOption cfg.window store now op,
          recordResult binding judgeResult (transitionOf cfg state judgeResult now) mode now state) := by
  unfold applyAlertAiResult
  rw [h]
  dsimp only
  split
  · refine ⟨some (.touch (binding.aggregationKey state.datasourceId)), ?_, rfl⟩
    rintro o ⟨⟩
    exact ⟨_, rfl⟩
  · exact ⟨none, by simp, rfl⟩

/-- **What applying a verdict does**, where the pass asks the model. -/
theorem applyAlertAiResult_spec (hasks : p.Asks w) {found state : RuntimeState}
    (hfound : found = (getOrCreateRuntimeState p.datasourceId p.binding w.states).1)
    (hstate : state = p.evaluated (p.hit (p.state w))) :
    ∃ op state', PassSpec cfg p w found op state' ∧ state'.datasourceId = found.datasourceId ∧
      state'.policyFingerprint = p.binding.policyFingerprint ∧
      applyAlertAiResult cfg w.store p.binding state (evaluateAlertAiPolicy cfg p.binding p.answer) p.mode
        p.now = (applyOption cfg.window w.store p.now op, state') := by
  obtain ⟨hactive, halert, hdatasource, -⟩ : Kept found state := by
    rw [hstate, hfound]
    exact ((kept_gated p _).trans (kept_hit p _)).trans (kept_evaluated p _)
  have htransition : transitionOf cfg state (evaluateAlertAiPolicy cfg p.binding p.answer) p.now =
      transitionOf cfg (p.state w) (evaluateAlertAiPolicy cfg p.binding p.answer) p.now := by
    rw [hstate, transitionOf_evaluated]
  have herr (hformal : p.mode = .formal)
      (hok : (evaluateAlertAiPolicy cfg p.binding p.answer).errorMessage = none) : ¬ p.Errs cfg w :=
    fun h => h.2.2.1 hok
  have hcases := @transitionOf_cases cfg state (evaluateAlertAiPolicy cfg p.binding p.answer) p.now
  generalize hjudge : evaluateAlertAiPolicy cfg p.binding p.answer = judgeResult at *
  have hrecorded : (recordResult p.binding judgeResult (transitionOf cfg state judgeResult p.now) p.mode p.now
      state).isActive =
        if p.mode = .formal then (transitionOf cfg state judgeResult p.now).active else found.isActive := by
    rw [← hactive]
    rfl
  by_cases hformal : p.mode = .formal ∧ judgeResult.errorMessage = none
  · -- a verdict without an error acts
    obtain ⟨haction, hinactive, hnext⟩ | ⟨haction, hwas, hnext⟩ | ⟨haction, hnext⟩ := hcases
    · unfold applyAlertAiResult takeAction
      simp only [if_pos hformal, haction]
      rw [if_neg fun h => nomatch h.1]
      refine ⟨some (.create _), _, ?_, ?_, ?_, rfl⟩
      · refine .trigger (herr hformal.1 hformal.2) rfl (hactive ▸ hinactive) ?_ rfl
        simp only [recordResult, if_pos hformal.1, hnext]
      · exact hdatasource
      · rfl
    · unfold applyAlertAiResult takeAction
      simp only [if_pos hformal, haction]
      rw [if_neg fun h => nomatch h.1]
      refine ⟨(recoveredAlert w.store p.binding state).map fun a => .resolveAlert a.id, _, ?_, ?_, ?_,
        Prod.ext ?_ rfl⟩
      · refine .recover (herr hformal.1 hformal.2) ?_ (hactive ▸ hwas) ?_ rfl
        · unfold recoveredAlert
          rw [halert, hdatasource]
        · simp only [recordResult, if_pos hformal.1, hnext]
      · exact hdatasource
      · rfl
      · cases recoveredAlert w.store p.binding state <;> rfl
    · have htake : takeAction cfg w.store p.binding state judgeResult p.mode p.now =
          (w.store, state, .noop) := by
        unfold takeAction
        simp only [if_pos hformal, haction]
      obtain ⟨op, hop, hresult⟩ := exists_touch_of_noop htake
      rw [hresult]
      refine ⟨op, recordResult p.binding judgeResult (transitionOf cfg state judgeResult p.now) p.mode p.now state,
        .quiet (herr hformal.1 hformal.2) hop ?_ halert, hdatasource, rfl, rfl⟩
      rw [hrecorded, if_pos hformal.1, hnext, hactive]
  · have htake : takeAction cfg w.store p.binding state judgeResult p.mode p.now =
        (w.store, state, .noop) := by
      unfold takeAction
      rw [if_neg hformal]
    obtain ⟨op, hop, hresult⟩ := exists_touch_of_noop htake
    rw [hresult]
    by_cases herrs : p.Errs cfg w
    · -- an error leaves the alerts alone, and the flag is turned over
      refine ⟨op, recordResult p.binding judgeResult (transitionOf cfg state judgeResult p.now) p.mode p.now state,
        .error herrs hop ?_ halert, hdatasource, rfl, rfl⟩
      obtain ⟨hmode, -, -, hact⟩ := herrs
      rw [hjudge, ← htransition] at hact
      rw [hrecorded, if_pos hmode, ← hactive]
      obtain ⟨-, hinactive, hnext⟩ | ⟨-, hwas, hnext⟩ | ⟨haction, -⟩ := hcases
      · rw [hnext, hinactive]
        rfl
      · rw [hnext, hwas]
        rfl
      · exact absurd haction hact
    · refine ⟨op, recordResult p.binding judgeResult (transitionOf cfg state judgeResult p.now) p.mode p.now state,
        .quiet herrs hop ?_ halert, hdatasource, rfl, rfl⟩
      rw [hrecorded]
      by_cases hmode : p.mode = .formal
      · have hnoop : (transitionOf cfg state judgeResult p.now).action = .noop := by
          by_contra hact
          rw [htransition] at hact
          exact herrs ⟨hmode, hasks, fun hok => hformal ⟨hmode, hjudge ▸ hok⟩, hjudge ▸ hact⟩
        rw [if_pos hmode, ← hactive]
        obtain ⟨haction, -⟩ | ⟨haction, -⟩ | ⟨-, hnext⟩ := hcases
        · rw [hnoop] at haction
          cases haction
        · rw [hnoop] at haction
          cases haction
        · exact hnext
      · rw [if_neg hmode]

/-- **What a pass does**: the row of its policy is written, and the alerts see one operation at most. -/
theorem checkAiAlertsAndTrigger_spec (cfg : Setting) (p : Pass) (w : World) :
    ∃ op state, PassSpec cfg p w (getOrCreateRuntimeState p.datasourceId p.binding w.states).1 op state ∧
      state.isFor p.datasourceId p.binding.policyFingerprint = true ∧
      checkAiAlertsAndTrigger cfg p w =
        { store := applyOption cfg.window w.store p.now op
          states := writeState state
            (getOrCreateRuntimeState p.datasourceId p.binding w.states).2 } := by
  have hisFor := isFor_getOrCreate p.datasourceId p.binding w.states
  -- what the gate writes keeps the row, the flag and the link
  have hquiet {state : RuntimeState} (hasks : ¬ p.Asks w)
      (hkept : Kept (getOrCreateRuntimeState p.datasourceId p.binding w.states).1 state) :
      PassSpec cfg p w (getOrCreateRuntimeState p.datasourceId p.binding w.states).1 none state ∧
        state.isFor p.datasourceId p.binding.policyFingerprint = true := by
    obtain ⟨hactive, halert, hdatasource, hfingerprint⟩ := hkept
    refine ⟨.quiet (fun h => hasks h.2.1) (by simp) hactive halert, ?_⟩
    unfold RuntimeState.isFor at hisFor ⊢
    rw [hdatasource, hfingerprint]
    exact hisFor
  unfold checkAiAlertsAndTrigger
  cases hgate : p.gate.shouldEvaluate with
  | false =>
    have hasks : ¬ p.Asks w := by
      rintro ⟨hevaluate, -⟩
      rw [hgate] at hevaluate
      cases hevaluate
    obtain ⟨hspec, hfor⟩ := hquiet hasks ((kept_gated p _).trans (kept_skip p p.gate.gateReason _))
    exact ⟨none, _, hspec, hfor, rfl⟩
  | true =>
    cases hskip : shouldSkipCandidateDueToInterval (p.hit (p.state w)) p.gate p.config p.now with
    | true =>
      have hasks : ¬ p.Asks w := by
        rintro ⟨-, hevaluate⟩
        rw [hskip] at hevaluate
        cases hevaluate
      obtain ⟨hspec, hfor⟩ := hquiet hasks
        (((kept_gated p _).trans (kept_hit p _)).trans (kept_skip p "same_candidate_throttled" _))
      refine ⟨none, _, hspec, hfor, ?_⟩
      rw [Pass.state] at hskip
      simp only [hskip]
      rfl
    | false =>
      obtain ⟨op, state, hspec, hdatasource, hfingerprint, hresult⟩ :=
        @applyAlertAiResult_spec cfg p w ⟨hgate, hskip⟩ _ _ rfl rfl
      refine ⟨op, state, hspec, ?_, ?_⟩
      · unfold RuntimeState.isFor at hisFor ⊢
        rw [decide_eq_true_eq] at hisFor ⊢
        exact ⟨hdatasource.trans hisFor.1, hfingerprint⟩
      · rw [Pass.state] at hskip hresult
        simp only [hskip, hresult]
        rfl

end

/-! ## The invariant -/

/-- **Active states have their own unresolved alerts**, and inactive ones have none. -/
structure Linked (w : World) : Prop where
  numbered : Numbered w.store
  keys : (w.states.map fun s => (s.datasourceId, s.policyFingerprint)).Nodup
  active : ∀ s ∈ w.states, s.isActive = true → ∃ a ∈ w.store.alerts, IsLinked s a
  inactive : ∀ s ∈ w.states, s.isActive = false → s.alertId = none
  apart : ∀ s ∈ w.states, ∀ t ∈ w.states, s.alertId ≠ none → s.alertId = t.alertId → s = t

variable {w : World}

theorem linked_start : Linked {} :=
  ⟨numbered_empty, List.nodup_nil, List.forall_mem_nil _, List.forall_mem_nil _, List.forall_mem_nil _⟩

theorem Linked.agree (h : Linked w) : Agree w := by
  intro s hs
  refine ⟨h.active s hs, ?_⟩
  rintro ⟨a, -, hlink, -⟩
  by_contra hinactive
  rw [h.inactive s hs (Bool.eq_false_iff.mpr hinactive)] at hlink
  cases hlink

/-- A state with a linked alert is active. -/
theorem Linked.isActive (h : Linked w) {s : RuntimeState} (hs : s ∈ w.states) {a : AlertMessage}
    (ha : IsLinked s a) : s.isActive = true := by
  by_contra hinactive
  have hnone := h.inactive s hs (Bool.eq_false_iff.mpr hinactive)
  rw [ha.1] at hnone
  cases hnone

/-- The row of a new policy is inactive. -/
theorem Linked.getOrCreate (h : Linked w) (datasourceId : ℕ) (binding : Binding) :
    Linked { w with states := (getOrCreateRuntimeState datasourceId binding w.states).2 } ∧
      (getOrCreateRuntimeState datasourceId binding w.states).1 ∈
        (getOrCreateRuntimeState datasourceId binding w.states).2 := by
  unfold getOrCreateRuntimeState
  cases hfind : w.states.find? (·.isFor datasourceId binding.policyFingerprint) with
  | some state => exact ⟨h, List.mem_of_find?_eq_some hfind⟩
  | none =>
    have hnew {s : RuntimeState} (hs : s ∈ w.states) :
        ¬ (s.datasourceId = datasourceId ∧ s.policyFingerprint = binding.policyFingerprint) := by
      simpa [RuntimeState.isFor] using List.find?_eq_none.mp hfind s hs
    refine ⟨⟨h.numbered, ?_, ?_, ?_, ?_⟩, List.mem_append_right _ (List.mem_singleton_self _)⟩
    · rw [List.map_append, List.nodup_append]
      refine ⟨h.keys, List.nodup_singleton _, ?_⟩
      intro key hkey key' hkey' heq
      obtain ⟨s, hs, rfl⟩ := List.mem_map.mp hkey
      rw [List.map_singleton, List.mem_singleton] at hkey'
      rw [hkey'] at heq
      exact hnew hs (Prod.mk.inj heq)
    · intro s hs hactive
      obtain hold | hadded := List.mem_append.mp hs
      · exact h.active s hold hactive
      · rw [List.mem_singleton.mp hadded] at hactive
        cases hactive
    · intro s hs hinactive
      obtain hold | hadded := List.mem_append.mp hs
      · exact h.inactive s hold hinactive
      · rw [List.mem_singleton.mp hadded]
        rfl
    · intro s hs t ht hlink heq
      obtain hold | hadded := List.mem_append.mp hs
      · obtain hold' | hadded' := List.mem_append.mp ht
        · exact h.apart s hold t hold' hlink heq
        · rw [List.mem_singleton.mp hadded'] at heq
          exact absurd heq hlink
      · rw [List.mem_singleton.mp hadded] at hlink
        exact absurd rfl hlink

/-- The rows after one of them is written. -/
theorem mem_writeState {states : List RuntimeState} {state s : RuntimeState}
    (hs : s ∈ writeState state states) :
    s = state ∨ s ∈ states ∧ s.isFor state.datasourceId state.policyFingerprint = false := by
  obtain ⟨old, hold, rfl⟩ := List.mem_map.mp hs
  split
  · exact .inl rfl
  · rename_i hfor
    exact .inr ⟨hold, Bool.eq_false_iff.mpr hfor⟩

/-- **Writing a row keeps the invariant**, where the others keep their alerts and it has its own. -/
theorem Linked.write (h : Linked w) {store : AlertStore} (hn : Numbered store) {state found : RuntimeState}
    (hfound : found ∈ w.states) (hfor : found.isFor state.datasourceId state.policyFingerprint = true)
    (halerts : ∀ s ∈ w.states, s ≠ found → ∀ a ∈ w.store.alerts, IsLinked s a →
      ∃ b ∈ store.alerts, IsLinked s b)
    (hactive : state.isActive = true → ∃ a ∈ store.alerts, IsLinked state a)
    (hinactive : state.isActive = false → state.alertId = none)
    (hapart : ∀ s ∈ w.states, s ≠ found → state.alertId ≠ none → state.alertId ≠ s.alertId) :
    Linked { store := store, states := writeState state w.states } := by
  have hother {s : RuntimeState} (hs : s ∈ writeState state w.states) :
      s = state ∨ s ∈ w.states ∧ s ≠ found := by
    obtain hsame | ⟨hold, hnot⟩ := mem_writeState hs
    · exact .inl hsame
    · refine .inr ⟨hold, ?_⟩
      rintro rfl
      rw [hfor] at hnot
      cases hnot
  refine ⟨hn, ?_, ?_, ?_, ?_⟩
  · -- the keys are the same
    have hkeys : (writeState state w.states).map (fun s => (s.datasourceId, s.policyFingerprint)) =
        w.states.map fun s => (s.datasourceId, s.policyFingerprint) := by
      unfold writeState
      rw [List.map_map]
      refine List.map_congr_left fun s _ => ?_
      rw [Function.comp_apply]
      split
      · rename_i hsame
        obtain ⟨hdatasource, hfingerprint⟩ := of_decide_eq_true hsame
        rw [hdatasource, hfingerprint]
      · rfl
    rw [hkeys]
    exact h.keys
  · intro s hs hs'
    obtain rfl | ⟨hold, hne⟩ := hother hs
    · exact hactive hs'
    · obtain ⟨a, ha, hlink⟩ := h.active s hold hs'
      exact halerts s hold hne a ha hlink
  · intro s hs hs'
    obtain rfl | ⟨hold, -⟩ := hother hs
    · exact hinactive hs'
    · exact h.inactive s hold hs'
  · intro s hs t ht hlink heq
    obtain rfl | ⟨hold, hne⟩ := hother hs
    · obtain rfl | ⟨hold', hne'⟩ := hother ht
      · rfl
      · exact absurd heq (hapart t hold' hne' hlink)
    · obtain rfl | ⟨hold', -⟩ := hother ht
      · exact absurd heq.symm (hapart s hold hne (heq ▸ hlink))
      · exact h.apart s hold t hold' hlink heq

/-! ## One step -/

/-- **An operation that does not resolve an alert leaves it unresolved.** -/
theorem isOpen_statusAfter {store : AlertStore} {a : AlertMessage} {op : Operation}
    (hopen : a.status.isOpen = true) (h : ¬ Resolves a op) : (statusAfter store a op).isOpen = true := by
  cases op with
  | acknowledgeAlert | acknowledgeEvent =>
    rw [statusAfter]
    split
    · rfl
    · exact hopen
  | resolveAlert id =>
    rw [statusAfter, if_neg (show ¬ a.id = id from h)]
    exact hopen
  | resolveEvent id =>
    rw [statusAfter, if_neg fun hboth => h hboth.2]
    exact hopen
  | create | createUnlinked | touch => exact hopen

/-- An alert that is linked stays so where it is not resolved. -/
theorem exists_linked_apply {store : AlertStore} (hn : Numbered store) (window : ℤ) (now : Time)
    {op : Operation} {s : RuntimeState} {a : AlertMessage} (ha : a ∈ store.alerts) (hlink : IsLinked s a)
    (h : ¬ Resolves a op) : ∃ b ∈ (store.apply window now op).alerts, IsLinked s b :=
  ⟨_, exists_mem_apply hn window now op ha, hlink.1, hlink.2.1, isOpen_statusAfter hlink.2.2 h⟩

theorem Numbered.applyOption {store : AlertStore} (h : Numbered store) (window : ℤ) (now : Time)
    (op : Option Operation) : Numbered (Ai.applyOption window store now op) := by
  cases op with
  | none => exact h
  | some op => exact h.apply window now op

/-- Moving the time of an event resolves no alert. -/
theorem not_resolves_of_touch {op : Option Operation} (hop : ∀ o ∈ op, ∃ key, o = .touch key)
    (a : AlertMessage) : ∀ o ∈ op, ¬ Resolves a o := by
  intro o ho
  obtain ⟨key, rfl⟩ := hop o ho
  exact id

/-- Alerts stay linked where the pass resolves none of them. -/
theorem exists_linked_applyOption {store : AlertStore} (hn : Numbered store) (window : ℤ) (now : Time)
    {op : Option Operation} {s : RuntimeState} {a : AlertMessage} (ha : a ∈ store.alerts)
    (hlink : IsLinked s a) (h : ∀ o ∈ op, ¬ Resolves a o) :
    ∃ b ∈ (applyOption window store now op).alerts, IsLinked s b := by
  cases op with
  | none => exact ⟨a, ha, hlink⟩
  | some op => exact exists_linked_apply hn window now ha hlink (h op rfl)

/-- The alert that a creation adds. -/
theorem exists_created {store : AlertStore} (hn : Numbered store) (window : ℤ) (row : AlertMessage)
    (now : Time) : ∃ a ∈ (store.apply window now (.create row)).alerts,
      a.id = store.nextAlertId ∧ a.alertType = row.alertType ∧ a.status.isOpen = true := by
  show ∃ a ∈ (store.create window row now).alerts, _
  obtain ⟨event, -, halerts, -⟩ | ⟨-, halerts, -⟩ := create_cases hn window row now
  · rw [halerts]
    exact ⟨_, List.mem_append_right _ (List.mem_singleton_self _), rfl, rfl, rfl⟩
  · rw [halerts]
    exact ⟨_, List.mem_append_right _ (List.mem_singleton_self _), rfl, rfl, rfl⟩

/-- **A recovery resolves the alert of its state.** -/
theorem Linked.recoveredAlert_eq (h : Linked w) {s : RuntimeState} (hs : s ∈ w.states)
    (hactive : s.isActive = true) (binding : Binding) :
    ∃ a ∈ w.store.alerts, IsLinked s a ∧ recoveredAlert w.store binding s = some a := by
  obtain ⟨a, ha, hlink⟩ := h.active s hs hactive
  refine ⟨a, ha, hlink, ?_⟩
  have hfind : w.store.alerts.find? (·.id = a.id) = some a := by
    obtain ⟨b, hb⟩ : ∃ b, w.store.alerts.find? (·.id = a.id) = some b := by
      rw [← Option.isSome_iff_exists, List.find?_isSome]
      exact ⟨a, ha, decide_eq_true rfl⟩
    have hid : b.id = a.id := by simpa using List.find?_some hb
    rw [hb, h.numbered.eq_of_id_eq (List.mem_of_find?_eq_some hb) ha hid]
  unfold recoveredAlert
  rw [hlink.1]
  show (w.store.alerts.find? (·.id = a.id) <|> _) = _
  rw [hfind]
  rfl

/-- **A pass without an error that acts keeps the invariant.** -/
theorem Linked.pass (h : Linked w) {p : Pass} (hproper : ¬ p.Errs cfg w) :
    Linked (checkAiAlertsAndTrigger cfg p w) := by
  obtain ⟨op, state, hspec, hfor, hresult⟩ := checkAiAlertsAndTrigger_spec cfg p w
  obtain ⟨h', hfound⟩ := h.getOrCreate p.datasourceId p.binding
  have hfoundFor := isFor_getOrCreate p.datasourceId p.binding w.states
  obtain ⟨hdatasource, hfingerprint⟩ := of_decide_eq_true hfor
  rw [hresult]
  generalize (getOrCreateRuntimeState p.datasourceId p.binding w.states).1 = found at *
  generalize (getOrCreateRuntimeState p.datasourceId p.binding w.states).2 = states at *
  have hn := Numbered.applyOption h.numbered cfg.window p.now op
  rw [← hdatasource, ← hfingerprint] at hfoundFor
  cases hspec with
  | quiet _ hop hactive halert =>
    refine h'.write hn hfound hfoundFor ?_ ?_ ?_ ?_
    · intro s hs _ a ha hlink
      exact exists_linked_applyOption h.numbered _ _ ha hlink (not_resolves_of_touch hop a)
    · intro hstate
      obtain ⟨a, ha, hlink⟩ := h'.active found hfound (hactive ▸ hstate)
      refine exists_linked_applyOption h.numbered _ _ ha ?_ (not_resolves_of_touch hop a)
      unfold IsLinked
      rw [halert]
      exact hlink
    · intro hstate
      rw [halert]
      exact h'.inactive found hfound (hactive ▸ hstate)
    · intro s hs hne hlink heq
      rw [halert] at hlink heq
      exact hne (h'.apart found hfound s hs hlink heq).symm
  | @trigger row state _ hrow _ hactive halert =>
    refine h'.write hn hfound hfoundFor ?_ ?_ ?_ ?_
    · intro s hs _ a ha hlink
      exact exists_linked_apply h.numbered _ _ ha hlink id
    · intro _
      obtain ⟨a, ha, hid, htype, hopen⟩ := exists_created h.numbered cfg.window row p.now
      exact ⟨a, ha, by rw [halert, hid], htype.trans hrow, hopen⟩
    · intro hstate
      rw [hactive] at hstate
      cases hstate
    · -- no state is linked to an alert yet to come
      intro s hs _ _ heq
      rw [halert] at heq
      have hs' : s.isActive = true := by
        by_contra hinactive
        rw [h'.inactive s hs (Bool.eq_false_iff.mpr hinactive)] at heq
        cases heq
      obtain ⟨a, ha, hlink⟩ := h'.active s hs hs'
      rw [hlink.1, Option.some_inj] at heq
      have hlt := h.numbered.alertIds_lt a ha
      omega
  | recover _ hop hfound' hactive halert =>
    obtain ⟨a, ha, hlink, hrecovered⟩ := h'.recoveredAlert_eq hfound hfound' p.binding
    rw [hrecovered, Option.map_some] at hop
    subst hop
    refine h'.write hn hfound hfoundFor ?_ ?_ ?_ ?_
    · intro s hs hne b hb hlink'
      refine exists_linked_apply h.numbered _ _ hb hlink' fun hid => hne ?_
      -- the alert of another state is another alert
      refine h'.apart s hs found hfound (by rw [hlink'.1]; exact Option.some_ne_none _) ?_
      rw [hlink'.1, hlink.1]
      exact congrArg some hid
    · intro hstate
      rw [hactive] at hstate
      cases hstate
    · exact fun _ => halert
    · exact fun _ _ _ hsome => absurd halert hsome
  | error herr => exact absurd herr hproper

/-- **An operation that resolves no alert of a state keeps the invariant.** -/
theorem Linked.operate (h : Linked w) {op : Operation} {now : Time} (hproper : Proper cfg w (.operate op now)) :
    Linked { w with store := w.store.apply cfg.window now op } := by
  refine ⟨h.numbered.apply cfg.window now op, h.keys, ?_, h.inactive, h.apart⟩
  intro s hs hactive
  obtain ⟨a, ha, hlink⟩ := h.active s hs hactive
  exact exists_linked_apply h.numbered _ _ ha hlink (hproper s hs a ha hlink)

/-- **An error that acts parts a state from its alert.** -/
theorem Linked.not_agree_of_errs (h : Linked w) {p : Pass} (herr : p.Errs cfg w) :
    ¬ Agree (checkAiAlertsAndTrigger cfg p w) := by
  obtain ⟨op, state, hspec, hfor, hresult⟩ := checkAiAlertsAndTrigger_spec cfg p w
  obtain ⟨h', hfound⟩ := h.getOrCreate p.datasourceId p.binding
  have hfoundFor := isFor_getOrCreate p.datasourceId p.binding w.states
  obtain ⟨hdatasource, hfingerprint⟩ := of_decide_eq_true hfor
  rw [hresult]
  generalize (getOrCreateRuntimeState p.datasourceId p.binding w.states).1 = found at *
  generalize (getOrCreateRuntimeState p.datasourceId p.binding w.states).2 = states at *
  rw [← hdatasource, ← hfingerprint] at hfoundFor
  have hmem : state ∈ writeState state states := by
    refine List.mem_map.mpr ⟨found, hfound, ?_⟩
    rw [if_pos hfoundFor]
  intro hagree
  have hstate := hagree state hmem
  cases hspec with
  | quiet hproper | trigger hproper | recover hproper => exact hproper herr
  | error _ hop hactive halert =>
    cases hwas : found.isActive with
    | true =>
      -- the alert stays, and the flag is gone
      obtain ⟨a, ha, hlink⟩ := h'.active found hfound hwas
      have hlinked : ∃ b ∈ (applyOption cfg.window w.store p.now op).alerts, IsLinked state b := by
        refine exists_linked_applyOption h.numbered _ _ ha ?_ (not_resolves_of_touch hop a)
        unfold IsLinked
        rw [halert]
        exact hlink
      have hset := hstate.mpr hlinked
      rw [hactive, hwas] at hset
      cases hset
    | false =>
      -- the flag is set, and there is no alert
      rw [hwas] at hactive
      obtain ⟨a, -, hlink, -⟩ := hstate.mp hactive
      rw [halert, h'.inactive found hfound hwas] at hlink
      cases hlink

/-- **A resolution from elsewhere parts a state from its alert.** -/
theorem Linked.not_agree_of_resolves (h : Linked w) {s : RuntimeState} (hs : s ∈ w.states)
    {a : AlertMessage} (ha : a ∈ w.store.alerts) (hlink : IsLinked s a) {op : Operation} {now : Time}
    (hresolves : Resolves a op) : ¬ Agree { w with store := w.store.apply cfg.window now op } := by
  intro hagree
  obtain ⟨b, hb, hlink', -, hopen⟩ := (hagree s hs).mp (h.isActive hs hlink)
  have hmem := exists_mem_apply h.numbered cfg.window now op ha
  have hid : b.id = a.id := Option.some.inj (hlink'.symm.trans hlink.1)
  have hsame := (h.numbered.apply cfg.window now op).eq_of_id_eq hb hmem hid
  have hresolved : statusAfter w.store a op = .resolved := by
    cases op with
    | resolveAlert id => rw [statusAfter, if_pos (show a.id = id from hresolves)]
    | resolveEvent id =>
      obtain ⟨e, he, heid⟩ := h.numbered.links a ha id hresolves
      rw [statusAfter, if_pos ⟨List.any_eq_true.mpr ⟨e, he, decide_eq_true heid⟩, hresolves⟩]
    | create | createUnlinked | acknowledgeAlert | acknowledgeEvent | touch => cases hresolves
  rw [hsame] at hopen
  rw [show _ = Status.resolved from hresolved] at hopen
  cases hopen

/-- **One step keeps the agreement just under the condition.** -/
theorem agree_step_iff (h : Linked w) {label : Label} {w' : World} (hstep : step cfg w label = some w') :
    Agree w' ↔ Proper cfg w label := by
  cases label with
  | pass p =>
    cases hstep
    exact ⟨fun hagree herr => h.not_agree_of_errs herr hagree, fun hproper => (h.pass hproper).agree⟩
  | operate op now =>
    cases hstep
    exact ⟨fun hagree s hs a ha hlink hresolves =>
      h.not_agree_of_resolves hs ha hlink hresolves hagree, fun hproper => (h.operate hproper).agree⟩

theorem Linked.step (h : Linked w) {label : Label} {w' : World} (hstep : Ai.step cfg w label = some w')
    (hproper : Proper cfg w label) : Linked w' := by
  cases label with
  | pass p =>
    cases hstep
    exact h.pass hproper
  | operate op now =>
    cases hstep
    exact h.operate hproper

variable (cfg) in
/-- **Runs in agreement**: the states agree with their alerts all along a run just where no error acts and no
other service resolves the alert of a state. -/
theorem agree_iff (labels : List Label) (w : World) :
    Run (step cfg) (fun w label => ∃ w' ∈ step cfg w label, Agree w') {} labels w ↔
      Run (step cfg) (Proper cfg) {} labels w :=
  Run.leadsTo_iff (fun _ _ _ h hstep => agree_step_iff h hstep)
    (fun _ _ _ h hstep hagree => h.step hstep ((agree_step_iff h hstep).mp hagree)) linked_start

/-! ## A severity that the policy does not allow -/

/-- ASCII, texts without words, and the defaults. -/
def Setting.default : Setting where
  unicode := .asciiOnly
  render _ := []
  confidenceThreshold := .fin (7 / 10)
  window := 5

/-- A verdict for an alert, of another severity than the policy demands. -/
def mismatch (now : Time) : Pass where
  datasourceId := 1
  binding :=
    { policyFingerprint := "inline".toList
      displayName := "AI 智能判警".toList
      severityConstraint := some .critical }
  gate := { shouldEvaluate := true, candidateType := "trigger", gateReason := "candidate_trigger" }
  answer := .parsed
    { decision := "alert".toList, severity := .high, confidence := .fin (9 / 10), reason := [] }
  mode := .formal
  now := now

/-- **Two of them set the flag, and there is no alert.** -/
theorem mismatch_parts : ∃ w, Run (step .default) Always {}
    [.pass (mismatch 0), .pass (mismatch (Time.seconds 60))] w ∧ ¬ Agree w := by
  refine ⟨_, .cons trivial rfl (.cons trivial rfl (.nil _)), ?_⟩
  with_unfolding_all decide

end DBClaw.Ai
