import DBClaw.Alerts.Events
import DBClaw.Library.Runs

/-! # The life cycle of alerts and events
The operations of `AlertService` and `AlertEventService` on the two tables, one after another: an
alert is created and joins an event, and alerts and events are acknowledged and resolved, each passing
its status on to the other table. `LifeCycle` is what the statuses are for: resolved is final, and an
event is resolved together with its alerts. Acknowledging checks no status, and `lifeCycle_iff` says
that this is the only way to leave the life cycle. -/

namespace DBClaw.Alerts

open Runs

namespace AlertStore

/-! ## Operations -/

/-- The alerts that are linked to an event. -/
def linked (store : AlertStore) (eventId : ℕ) : List AlertMessage :=
  store.alerts.filter fun a => a.eventId = some eventId

/-- The row of a new alert. -/
def freshAlert (store : AlertStore) (row : AlertMessage) (now : Time) : AlertMessage :=
  { row with
    id := store.nextAlertId
    status := .active
    eventId := none
    notifiedAt := none
    createdAt := now }

/-- The first transaction of `create_alert`: the row is committed, and not linked yet. -/
def commitAlert (store : AlertStore) (row : AlertMessage) (now : Time) : AlertStore :=
  { store with
    alerts := store.alerts ++ [store.freshAlert row now]
    nextAlertId := store.nextAlertId + 1 }

/-- The second transaction of `create_alert`: the alert joins an event and is linked to it. -/
def linkAlert (window : ℤ) (store : AlertStore) (alert : AlertMessage) : AlertStore :=
  (store.processNewAlert window alert).2.updateAlert alert.id
    ({ · with eventId := some (store.processNewAlert window alert).1 })

/-- **`create_alert`** for any arguments, which are the row's. -/
def create (window : ℤ) (store : AlertStore) (row : AlertMessage) (now : Time) : AlertStore :=
  (store.commitAlert row now).linkAlert window (store.freshAlert row now)

/-- **`acknowledge_alert`**; a missing row changes nothing. -/
def acknowledgeAlert (store : AlertStore) (id : ℕ) : AlertStore :=
  store.updateAlert id ({ · with status := .acknowledged })

/-- **`resolve_alert`** by id. -/
def resolveAlertById (store : AlertStore) (id : ℕ) (now : Time) : AlertStore :=
  match store.alerts.find? (·.id = id) with
  | some alert => store.resolveAlert alert now
  | none => store

/-- The alerts of an event change. -/
def updateLinked (store : AlertStore) (eventId : ℕ) (f : AlertMessage → AlertMessage) : AlertStore :=
  { store with alerts := store.alerts.map fun a => if a.eventId = some eventId then f a else a }

/-- **`acknowledge_event`**; a missing row is an error. -/
def acknowledgeEvent (store : AlertStore) (id : ℕ) : AlertStore :=
  if store.events.any (·.id = id) then
    (store.updateEvent id ({ · with status := .acknowledged })).updateLinked id fun a =>
      if a.status = .active then { a with status := .acknowledged } else a
  else store

/-- **`resolve_event`**; a missing row is an error. -/
def resolveEvent (store : AlertStore) (id : ℕ) (now : Time) : AlertStore :=
  if store.events.any (·.id = id) then
    (store.updateEvent id ({ · with
      status := .resolved
      eventEndedAt := now
      lifecycleStage := "recovered"
      diagnosisTriggerReason := "event_recovered" })).updateLinked id ({ · with status := .resolved })
  else store

end AlertStore

/-- An operation on the two tables. -/
inductive Operation
  | create (row : AlertMessage)
  /-- `create_alert` fails after its first transaction. -/
  | createUnlinked (row : AlertMessage)
  | acknowledgeAlert (id : ℕ)
  | resolveAlert (id : ℕ)
  | acknowledgeEvent (id : ℕ)
  | resolveEvent (id : ℕ)
  /-- `update_active_event_time`, for an alert that is raised again. -/
  | touch (key : AggregationKey)

/-- The store after an operation at a time. -/
def AlertStore.apply (window : ℤ) (store : AlertStore) (now : Time) : Operation → AlertStore
  | .create row => store.create window row now
  | .createUnlinked row => store.commitAlert row now
  | .acknowledgeAlert id => store.acknowledgeAlert id
  | .resolveAlert id => store.resolveAlertById id now
  | .acknowledgeEvent id => store.acknowledgeEvent id
  | .resolveEvent id => store.resolveEvent id now
  | .touch key => store.updateActiveEventTime key now

/-! ## Rows after a change -/

namespace AlertStore

variable {store : AlertStore} {id : ℕ}

@[simp] theorem updateEvent_alerts (f : AlertEvent → AlertEvent) :
    (store.updateEvent id f).alerts = store.alerts := rfl

@[simp] theorem updateEvent_events (f : AlertEvent → AlertEvent) :
    (store.updateEvent id f).events = store.events.map (updatedRow id f) := rfl

@[simp] theorem updateEvent_nextAlertId (f : AlertEvent → AlertEvent) :
    (store.updateEvent id f).nextAlertId = store.nextAlertId := rfl

@[simp] theorem updateAlert_alerts (f : AlertMessage → AlertMessage) :
    (store.updateAlert id f).alerts = store.alerts.map fun a => if a.id = id then f a else a := rfl

@[simp] theorem updateAlert_events (f : AlertMessage → AlertMessage) :
    (store.updateAlert id f).events = store.events := rfl

@[simp] theorem updateAlert_nextAlertId (f : AlertMessage → AlertMessage) :
    (store.updateAlert id f).nextAlertId = store.nextAlertId := rfl

@[simp] theorem updateLinked_alerts (f : AlertMessage → AlertMessage) :
    (store.updateLinked id f).alerts =
      store.alerts.map fun a => if a.eventId = some id then f a else a := rfl

@[simp] theorem updateLinked_events (f : AlertMessage → AlertMessage) :
    (store.updateLinked id f).events = store.events := rfl

@[simp] theorem updateLinked_nextAlertId (f : AlertMessage → AlertMessage) :
    (store.updateLinked id f).nextAlertId = store.nextAlertId := rfl

theorem eq_of_id_eq (store : AlertStore) {e f : AlertEvent} (he : e ∈ store.events)
    (hf : f ∈ store.events) (h : e.id = f.id) : e = f :=
  List.inj_on_of_nodup_map store.eventIds he hf h

/-- The open event of a key is an open event of the key, and ended since the bound. -/
theorem openEvent_mem {key : AggregationKey} {since : Option Time} {event : AlertEvent}
    (h : store.openEvent key since = some event) :
    event ∈ store.events ∧ event.aggregationKey = key ∧ event.status.isOpen = true ∧
      ∀ t ∈ since, t ≤ event.eventEndedAt := by
  obtain ⟨hmem, hfilter⟩ := List.mem_filter.mp (List.argmax_mem h)
  rw [decide_eq_true_eq] at hfilter
  exact ⟨hmem, hfilter⟩

end AlertStore

/-- What an operation other than a creation keeps of an alert. -/
def SameAlert (a b : AlertMessage) : Prop :=
  b.id = a.id ∧ b.eventId = a.eventId ∧ b.severity = a.severity ∧ b.createdAt = a.createdAt

/-- What an operation other than a creation keeps of an event. -/
structure SameEvent (now : Time) (e e' : AlertEvent) : Prop where
  id : e'.id = e.id
  aggregationKey : e'.aggregationKey = e.aggregationKey
  latestAlertId : e'.latestAlertId = e.latestAlertId
  alertCount : e'.alertCount = e.alertCount
  severity : e'.severity = e.severity
  eventStartedAt : e'.eventStartedAt = e.eventStartedAt
  eventEndedAt : e'.eventEndedAt = e.eventEndedAt ∨ e'.eventEndedAt = now

theorem SameEvent.refl (now : Time) (e : AlertEvent) : SameEvent now e e :=
  ⟨rfl, rfl, rfl, rfl, rfl, rfl, .inl rfl⟩

/-- **An operation reworks the rows**: each alert and each event stays, in its place and with what
identifies it. -/
structure Reworked (now : Time) (s t : AlertStore) : Prop where
  alerts : ∃ f : AlertMessage → AlertMessage, (∀ a, SameAlert a (f a)) ∧ t.alerts = s.alerts.map f
  events : ∃ g : AlertEvent → AlertEvent, (∀ e, SameEvent now e (g e)) ∧ t.events = s.events.map g
  nextAlertId : t.nextAlertId = s.nextAlertId

section Rework

variable (now : Time) (store : AlertStore)

theorem reworked_refl : Reworked now store store :=
  ⟨⟨id, fun _ => ⟨rfl, rfl, rfl, rfl⟩, (List.map_id _).symm⟩,
    ⟨id, fun e => .refl now e, (List.map_id _).symm⟩, rfl⟩

theorem reworked_updateAlert (id : ℕ) {f : AlertMessage → AlertMessage}
    (hf : ∀ a, SameAlert a (f a)) : Reworked now store (store.updateAlert id f) := by
  refine ⟨⟨_, fun a => ?_, rfl⟩, (reworked_refl now store).events, rfl⟩
  split
  · exact hf a
  · exact ⟨rfl, rfl, rfl, rfl⟩

theorem reworked_updateEvent (id : ℕ) {f : AlertEvent → AlertEvent}
    (hf : ∀ e, SameEvent now e (f e)) : Reworked now store (store.updateEvent id f) := by
  refine ⟨(reworked_refl now store).alerts, ⟨_, fun e => ?_, rfl⟩, rfl⟩
  unfold AlertStore.updatedRow
  split
  · obtain ⟨-, hkey, hlatest, hcount, hseverity, hstarted, hended⟩ := hf e
    exact ⟨rfl, hkey, hlatest, hcount, hseverity, hstarted, hended⟩
  · exact .refl now e

theorem reworked_updateLinked (id : ℕ) {f : AlertMessage → AlertMessage}
    (hf : ∀ a, SameAlert a (f a)) : Reworked now store (store.updateLinked id f) := by
  refine ⟨⟨_, fun a => ?_, rfl⟩, (reworked_refl now store).events, rfl⟩
  split
  · exact hf a
  · exact ⟨rfl, rfl, rfl, rfl⟩

theorem Reworked.trans {now : Time} {s t u : AlertStore} (h : Reworked now s t)
    (k : Reworked now t u) : Reworked now s u := by
  obtain ⟨⟨f, hf, hfa⟩, ⟨g, hg, hge⟩, hid⟩ := h
  obtain ⟨⟨f', hf', hfa'⟩, ⟨g', hg', hge'⟩, hid'⟩ := k
  refine ⟨⟨f' ∘ f, fun a => ?_, by rw [hfa', hfa, List.map_map]⟩,
    ⟨g' ∘ g, fun e => ?_, by rw [hge', hge, List.map_map]⟩, hid'.trans hid⟩
  · obtain ⟨h1, h2, h3, h4⟩ := hf a
    obtain ⟨k1, k2, k3, k4⟩ := hf' (f a)
    exact ⟨k1.trans h1, k2.trans h2, k3.trans h3, k4.trans h4⟩
  · have h := hg e
    have k := hg' (g e)
    refine ⟨k.id.trans h.id, k.aggregationKey.trans h.aggregationKey,
      k.latestAlertId.trans h.latestAlertId, k.alertCount.trans h.alertCount,
      k.severity.trans h.severity, k.eventStartedAt.trans h.eventStartedAt, ?_⟩
    rcases k.eventEndedAt with hsame | hnow
    · rw [Function.comp_apply, hsame]
      exact h.eventEndedAt
    · exact .inr hnow

end Rework

/-- The operation is no creation. -/
def Operation.reworks : Operation → Bool
  | .create _ | .createUnlinked _ => false
  | _ => true

/-- **All operations other than creations rework the rows.** -/
theorem reworked_apply (window : ℤ) (store : AlertStore) (now : Time) {op : Operation}
    (hop : op.reworks = true) : Reworked now store (store.apply window now op) := by
  cases op with
  | create row => cases hop
  | createUnlinked row => cases hop
  | acknowledgeAlert id => exact reworked_updateAlert now store id fun a => ⟨rfl, rfl, rfl, rfl⟩
  | resolveAlert id =>
    show Reworked now store (store.resolveAlertById id now)
    unfold AlertStore.resolveAlertById
    split
    · rename_i alert _
      have hresolved := reworked_updateAlert now store alert.id
        (f := ({ · with status := .resolved })) fun a => ⟨rfl, rfl, rfl, rfl⟩
      unfold AlertStore.resolveAlert
      dsimp only
      split
      · refine hresolved.trans ?_
        unfold AlertStore.checkAndAutoResolveEvent
        dsimp only
        split
        · refine reworked_updateEvent now _ _ fun e => ?_
          split
          · exact .refl now e
          · exact ⟨rfl, rfl, rfl, rfl, rfl, rfl, .inr rfl⟩
        · exact reworked_refl now _
      · exact hresolved
    · exact reworked_refl now store
  | acknowledgeEvent id =>
    show Reworked now store (store.acknowledgeEvent id)
    unfold AlertStore.acknowledgeEvent
    split
    · refine (reworked_updateEvent now store id fun e => ?_).trans
        (reworked_updateLinked now _ id fun a => ?_)
      · exact ⟨rfl, rfl, rfl, rfl, rfl, rfl, .inl rfl⟩
      · split <;> exact ⟨rfl, rfl, rfl, rfl⟩
    · exact reworked_refl now store
  | resolveEvent id =>
    show Reworked now store (store.resolveEvent id now)
    unfold AlertStore.resolveEvent
    split
    · refine (reworked_updateEvent now store id fun e => ?_).trans
        (reworked_updateLinked now _ id fun a => ?_)
      · exact ⟨rfl, rfl, rfl, rfl, rfl, rfl, .inr rfl⟩
      · exact ⟨rfl, rfl, rfl, rfl⟩
    · exact reworked_refl now store
  | touch key =>
    show Reworked now store (store.updateActiveEventTime key now)
    unfold AlertStore.updateActiveEventTime
    split
    · exact reworked_updateEvent now store _ fun e => ⟨rfl, rfl, rfl, rfl, rfl, rfl, .inr rfl⟩
    · exact reworked_refl now store

/-! ## Ids and links -/

/-- The ids of the alerts are their primary keys, and alerts are linked to existing events. -/
structure Numbered (store : AlertStore) : Prop where
  alertIds : (store.alerts.map AlertMessage.id).Nodup
  alertIds_lt : ∀ a ∈ store.alerts, a.id < store.nextAlertId
  links : ∀ a ∈ store.alerts, ∀ i ∈ a.eventId, ∃ e ∈ store.events, e.id = i

theorem numbered_empty : Numbered {} := by
  constructor <;> simp

theorem Numbered.eq_of_id_eq {store : AlertStore} (h : Numbered store) {a b : AlertMessage}
    (ha : a ∈ store.alerts) (hb : b ∈ store.alerts) (hid : a.id = b.id) : a = b :=
  List.inj_on_of_nodup_map h.alertIds ha hb hid

theorem Numbered.reworked {now : Time} {s t : AlertStore} (h : Numbered s) (k : Reworked now s t) :
    Numbered t := by
  obtain ⟨⟨f, hf, hfa⟩, ⟨g, hg, hge⟩, hid⟩ := k
  constructor
  · have hids : (t.alerts.map AlertMessage.id) = s.alerts.map AlertMessage.id := by
      rw [hfa, List.map_map]
      exact List.map_congr_left fun a _ => (hf a).1
    rw [hids]
    exact h.alertIds
  · intro b hb
    rw [hfa] at hb
    obtain ⟨a, ha, rfl⟩ := List.mem_map.mp hb
    rw [(hf a).1, hid]
    exact h.alertIds_lt a ha
  · intro b hb i hi
    rw [hfa] at hb
    obtain ⟨a, ha, rfl⟩ := List.mem_map.mp hb
    rw [(hf a).2.1] at hi
    obtain ⟨e, he, heid⟩ := h.links a ha i hi
    exact ⟨g e, by rw [hge]; exact List.mem_map_of_mem he, (hg e).id.trans heid⟩

theorem Numbered.commitAlert {store : AlertStore} (h : Numbered store) (row : AlertMessage)
    (now : Time) : Numbered (store.commitAlert row now) := by
  constructor
  · show ((store.alerts ++ [store.freshAlert row now]).map AlertMessage.id).Nodup
    rw [List.map_append, List.nodup_append]
    refine ⟨h.alertIds, List.nodup_singleton _, ?_⟩
    intro i hi j hj
    obtain ⟨a, ha, rfl⟩ := List.mem_map.mp hi
    rw [List.map_singleton, List.mem_singleton] at hj
    rw [hj]
    exact Nat.ne_of_lt (h.alertIds_lt a ha)
  · intro a ha
    rcases List.mem_append.mp ha with hold | hnew
    · exact Nat.lt_succ_of_lt (h.alertIds_lt a hold)
    · rw [List.mem_singleton.mp hnew]
      exact Nat.lt_succ_self _
  · intro a ha i hi
    rcases List.mem_append.mp ha with hold | hnew
    · exact h.links a hold i hi
    · rw [List.mem_singleton.mp hnew] at hi
      cases hi

/-- The alert that is being created, once it is linked. -/
def AlertStore.linkedAlert (store : AlertStore) (row : AlertMessage) (now : Time) (eventId : ℕ) :
    AlertMessage :=
  { store.freshAlert row now with eventId := some eventId }

/-- **What a creation does**: the alert is added and joins the event that is found, or a new one. -/
theorem create_cases {store : AlertStore} (h : Numbered store) (window : ℤ) (row : AlertMessage)
    (now : Time) :
    (∃ event, store.openEvent (aggregationKey (store.freshAlert row now))
          (some (now - Time.minutes window)) = some event ∧
        (store.create window row now).alerts =
          store.alerts ++ [store.linkedAlert row now event.id] ∧
        (store.create window row now).events = store.events.map
          (AlertStore.updatedRow event.id (AlertStore.addAlertToEvent (store.freshAlert row now)))) ∨
    (store.openEvent (aggregationKey (store.freshAlert row now))
          (some (now - Time.minutes window)) = none ∧
        (store.create window row now).alerts =
          store.alerts ++ [store.linkedAlert row now store.nextEventId] ∧
        (store.create window row now).events =
          store.events ++ [store.newEvent (store.freshAlert row now)]) := by
  -- only the new row has the new id
  have hrows : ∀ i, ((store.alerts ++ [store.freshAlert row now]).map fun a =>
      if a.id = store.nextAlertId then { a with eventId := some i } else a) =
        store.alerts ++ [store.linkedAlert row now i] := by
    intro i
    have hnew : (store.freshAlert row now).id = store.nextAlertId := rfl
    have hold : (store.alerts.map fun a =>
        if a.id = store.nextAlertId then { a with eventId := some i } else a) = store.alerts :=
      (List.map_congr_left fun a ha => if_neg (Nat.ne_of_lt (h.alertIds_lt a ha))).trans
        (List.map_id _)
    rw [List.map_append, List.map_singleton, hold, if_pos hnew]
    rfl
  have hsame : (store.commitAlert row now).openEvent
      (aggregationKey (store.freshAlert row now)) (some (now - Time.minutes window)) =
        store.openEvent (aggregationKey (store.freshAlert row now))
          (some (now - Time.minutes window)) := rfl
  cases hopen : store.openEvent (aggregationKey (store.freshAlert row now))
      (some (now - Time.minutes window)) with
  | some event =>
    have hprocess : (store.commitAlert row now).processNewAlert window (store.freshAlert row now) =
        (event.id, (store.commitAlert row now).updateEvent event.id
          (AlertStore.addAlertToEvent (store.freshAlert row now))) := by
      unfold AlertStore.processNewAlert
      rw [show (store.freshAlert row now).createdAt = now from rfl, hsame, hopen]
    refine .inl ⟨event, rfl, ?_, ?_⟩
    · unfold AlertStore.create AlertStore.linkAlert
      rw [hprocess]
      exact hrows event.id
    · unfold AlertStore.create AlertStore.linkAlert
      rw [hprocess]
      rfl
  | none =>
    have hprocess : (store.commitAlert row now).processNewAlert window (store.freshAlert row now) =
        (store.nextEventId, (store.commitAlert row now).addEvent
          ((store.commitAlert row now).newEvent (store.freshAlert row now)) rfl) := by
      unfold AlertStore.processNewAlert
      rw [show (store.freshAlert row now).createdAt = now from rfl, hsame, hopen]
      rfl
    refine .inr ⟨rfl, ?_, ?_⟩
    · unfold AlertStore.create AlertStore.linkAlert
      rw [hprocess]
      exact hrows store.nextEventId
    · unfold AlertStore.create AlertStore.linkAlert
      rw [hprocess]
      rfl

theorem create_nextAlertId (window : ℤ) (store : AlertStore) (row : AlertMessage) (now : Time) :
    (store.create window row now).nextAlertId = store.nextAlertId + 1 := by
  unfold AlertStore.create AlertStore.linkAlert AlertStore.processNewAlert
  split <;> rfl

theorem Numbered.create {store : AlertStore} (h : Numbered store) (window : ℤ) (row : AlertMessage)
    (now : Time) : Numbered (store.create window row now) := by
  have hnext := create_nextAlertId window store row now
  -- whatever event the alert joins, ids are as after the first transaction
  have hids : ∀ i, (store.create window row now).alerts =
      store.alerts ++ [store.linkedAlert row now i] →
        ((store.create window row now).alerts.map AlertMessage.id).Nodup ∧
          ∀ a ∈ (store.create window row now).alerts, a.id < store.nextAlertId + 1 := by
    intro i halerts
    have hcommit := h.commitAlert row now
    have hmap : (store.create window row now).alerts.map AlertMessage.id =
        (store.commitAlert row now).alerts.map AlertMessage.id := by
      rw [halerts]
      simp [AlertStore.commitAlert, AlertStore.linkedAlert]
    refine ⟨hmap ▸ hcommit.alertIds, fun a ha => ?_⟩
    have hid : a.id ∈ (store.commitAlert row now).alerts.map AlertMessage.id :=
      hmap ▸ List.mem_map_of_mem ha
    obtain ⟨b, hb, hba⟩ := List.mem_map.mp hid
    rw [← hba]
    exact hcommit.alertIds_lt b hb
  rcases create_cases h window row now with
    ⟨event, hopen, halerts, hevents⟩ | ⟨-, halerts, hevents⟩
  · refine ⟨(hids _ halerts).1, by rw [hnext]; exact (hids _ halerts).2, ?_⟩
    rw [halerts, hevents]
    intro a ha i hi
    have hexists : ∃ e ∈ store.events, e.id = i := by
      rcases List.mem_append.mp ha with hold | hnew
      · exact h.links a hold i hi
      · rw [List.mem_singleton.mp hnew] at hi
        cases hi
        exact ⟨event, (AlertStore.openEvent_mem hopen).1, rfl⟩
    obtain ⟨e, he, rfl⟩ := hexists
    exact ⟨_, List.mem_map_of_mem he, AlertStore.updatedRow_id _ _ e⟩
  · refine ⟨(hids _ halerts).1, by rw [hnext]; exact (hids _ halerts).2, ?_⟩
    rw [halerts, hevents]
    intro a ha i hi
    rcases List.mem_append.mp ha with hold | hnew
    · obtain ⟨e, he, heid⟩ := h.links a hold i hi
      exact ⟨e, List.mem_append_left _ he, heid⟩
    · rw [List.mem_singleton.mp hnew] at hi
      cases hi
      exact ⟨_, List.mem_append_right _ (List.mem_singleton_self _), rfl⟩

/-- **Ids and links stay in order.** -/
theorem Numbered.apply {store : AlertStore} (h : Numbered store) (window : ℤ) (now : Time)
    (op : Operation) : Numbered (store.apply window now op) := by
  cases hop : op.reworks with
  | true => exact h.reworked (reworked_apply window store now hop)
  | false =>
    cases op with
    | create row => exact h.create window row now
    | createUnlinked row => exact h.commitAlert row now
    | _ => cases hop

/-! ## The life cycle -/

/-- An event with an alert is resolved exactly when all its alerts are. -/
def Consistent (store : AlertStore) : Prop :=
  ∀ e ∈ store.events, store.linked e.id ≠ [] →
    (e.status = .resolved ↔ ∀ a ∈ store.linked e.id, a.status = .resolved)

/-- What is resolved before is resolved afterwards. -/
structure StaysResolved (s t : AlertStore) : Prop where
  alerts : ∀ a ∈ s.alerts, a.status = .resolved → ∀ b ∈ t.alerts, b.id = a.id → b.status = .resolved
  events : ∀ e ∈ s.events, e.status = .resolved → ∀ f ∈ t.events, f.id = e.id → f.status = .resolved

/-- One of the operations, at any time. -/
def operate (window : ℤ) (store : AlertStore) (label : Operation × Time) : Option AlertStore :=
  some (store.apply window label.2 label.1)

/-- **The life cycle**: resolved is final, and an event is resolved together with its alerts. -/
def LifeCycle (window : ℤ) (store : AlertStore) (label : Operation × Time) : Prop :=
  StaysResolved store (store.apply window label.2 label.1) ∧
    Consistent (store.apply window label.2 label.1)

/-- What is acknowledged is not resolved. -/
def AcknowledgesUnresolved (store : AlertStore) (label : Operation × Time) : Prop :=
  match label.1 with
  | .acknowledgeAlert id => ∀ a ∈ store.alerts, a.id = id → a.status ≠ .resolved
  | .acknowledgeEvent id => ∀ e ∈ store.events, e.id = id → e.status ≠ .resolved
  | _ => True

instance (store : AlertStore) :
    (label : Operation × Time) → Decidable (AcknowledgesUnresolved store label)
  | (.acknowledgeAlert id, _) =>
    inferInstanceAs (Decidable (∀ a ∈ store.alerts, a.id = id → a.status ≠ .resolved))
  | (.acknowledgeEvent id, _) =>
    inferInstanceAs (Decidable (∀ e ∈ store.events, e.id = id → e.status ≠ .resolved))
  | (.create _, _) | (.createUnlinked _, _) | (.resolveAlert _, _) | (.resolveEvent _, _)
  | (.touch _, _) => .isTrue trivial

variable {window : ℤ} {store : AlertStore} {now : Time}

theorem mem_linked {i : ℕ} {a : AlertMessage} :
    a ∈ store.linked i ↔ a ∈ store.alerts ∧ a.eventId = some i := by
  simp [AlertStore.linked]

/-- The alerts of an event after the rows are reworked. -/
theorem linked_of_map {t : AlertStore} {f : AlertMessage → AlertMessage}
    (hf : ∀ a, SameAlert a (f a)) (halerts : t.alerts = store.alerts.map f) (i : ℕ) :
    t.linked i = (store.linked i).map f := by
  unfold AlertStore.linked
  rw [halerts, List.filter_map]
  congr 1
  exact List.filter_congr fun a _ => by simp [(hf a).2.1]

/-- **Reworked rows keep the life cycle** if no row stops being resolved and each event goes with its
alerts. -/
theorem lifeCycle_of_map {t : AlertStore} {f : AlertMessage → AlertMessage}
    {g : AlertEvent → AlertEvent} (hn : Numbered store) (hf : ∀ a, SameAlert a (f a))
    (halerts : t.alerts = store.alerts.map f) (hg : ∀ e, (g e).id = e.id)
    (hevents : t.events = store.events.map g)
    (hstay : ∀ a ∈ store.alerts, a.status = .resolved → (f a).status = .resolved)
    (hstay' : ∀ e ∈ store.events, e.status = .resolved → (g e).status = .resolved)
    (hboth : ∀ e ∈ store.events, store.linked e.id ≠ [] →
      ((g e).status = .resolved ↔ ∀ a ∈ store.linked e.id, (f a).status = .resolved)) :
    StaysResolved store t ∧ Consistent t := by
  refine ⟨⟨?_, ?_⟩, ?_⟩
  · intro a ha hresolved b hb hid
    rw [halerts] at hb
    obtain ⟨a', ha', rfl⟩ := List.mem_map.mp hb
    rw [(hf a').1] at hid
    rw [hn.eq_of_id_eq ha' ha hid]
    exact hstay a ha hresolved
  · intro e he hresolved b hb hid
    rw [hevents] at hb
    obtain ⟨e', he', rfl⟩ := List.mem_map.mp hb
    rw [hg] at hid
    rw [store.eq_of_id_eq he' he hid]
    exact hstay' e he hresolved
  · intro b hb hlinked
    rw [hevents] at hb
    obtain ⟨e, he, rfl⟩ := List.mem_map.mp hb
    rw [hg, linked_of_map hf halerts] at hlinked ⊢
    rw [hboth e he (List.map_eq_nil_iff.not.mp hlinked)]
    simp

/-- Where resolved rows are the same rows as before, an event goes with its alerts as before. -/
theorem lifeCycle_of_same {t : AlertStore} {f : AlertMessage → AlertMessage}
    {g : AlertEvent → AlertEvent} (hn : Numbered store) (hcons : Consistent store)
    (hf : ∀ a, SameAlert a (f a)) (halerts : t.alerts = store.alerts.map f)
    (hg : ∀ e, (g e).id = e.id) (hevents : t.events = store.events.map g)
    (hsame : ∀ a ∈ store.alerts, (f a).status = .resolved ↔ a.status = .resolved)
    (hsame' : ∀ e ∈ store.events, (g e).status = .resolved ↔ e.status = .resolved) :
    StaysResolved store t ∧ Consistent t := by
  refine lifeCycle_of_map hn hf halerts hg hevents (fun a ha => (hsame a ha).mpr)
    (fun e he => (hsame' e he).mpr) fun e he hlinked => ?_
  rw [hsame' e he, hcons e he hlinked]
  exact forall₂_congr fun a ha => (hsame a (mem_linked.mp ha).1).symm

/-- Nothing happens. -/
theorem lifeCycle_refl (hn : Numbered store) (hcons : Consistent store) :
    StaysResolved store store ∧ Consistent store :=
  lifeCycle_of_same hn hcons (f := fun a => a) (g := fun e => e) (fun _ => ⟨rfl, rfl, rfl, rfl⟩)
    (List.map_id _).symm (fun _ => rfl) (List.map_id _).symm (fun _ _ => Iff.rfl)
    (fun _ _ => Iff.rfl)

theorem updatedRow_status {id : ℕ} {f : AlertEvent → AlertEvent} (e : AlertEvent) :
    (AlertStore.updatedRow id f e).status = if e.id = id then (f e).status else e.status := by
  unfold AlertStore.updatedRow
  split <;> rfl

/-- Acknowledging an alert that is not resolved. -/
theorem lifeCycle_acknowledgeAlert (hn : Numbered store) (hcons : Consistent store) {id : ℕ}
    (hack : ∀ a ∈ store.alerts, a.id = id → a.status ≠ .resolved) :
    StaysResolved store (store.acknowledgeAlert id) ∧ Consistent (store.acknowledgeAlert id) := by
  refine lifeCycle_of_same hn hcons (g := fun e => e) (fun a => ?_) rfl (fun _ => rfl)
    (List.map_id _).symm (fun a ha => ?_) (fun _ _ => Iff.rfl)
  · split <;> exact ⟨rfl, rfl, rfl, rfl⟩
  · split
    · rename_i hid
      simp [hack a ha hid]
    · exact Iff.rfl

/-- Acknowledging an event that is not resolved. -/
theorem lifeCycle_acknowledgeEvent (hn : Numbered store) (hcons : Consistent store) {id : ℕ}
    (hack : ∀ e ∈ store.events, e.id = id → e.status ≠ .resolved) :
    StaysResolved store (store.acknowledgeEvent id) ∧ Consistent (store.acknowledgeEvent id) := by
  unfold AlertStore.acknowledgeEvent
  split
  · refine lifeCycle_of_same hn hcons (fun a => ?_) rfl (AlertStore.updatedRow_id _ _) rfl
      (fun a _ => ?_) (fun e he => ?_)
    · dsimp only
      split
      · split <;> exact ⟨rfl, rfl, rfl, rfl⟩
      · exact ⟨rfl, rfl, rfl, rfl⟩
    · dsimp only
      split
      · split
        · rename_i hactive
          simp [hactive]
        · exact Iff.rfl
      · exact Iff.rfl
    · rw [updatedRow_status]
      split
      · rename_i hid
        simp [hack e he hid]
      · exact Iff.rfl
  · exact lifeCycle_refl hn hcons

/-- An alert that is raised again moves the end of an event only. -/
theorem lifeCycle_touch (hn : Numbered store) (hcons : Consistent store) (key : AggregationKey)
    (now : Time) :
    StaysResolved store (store.updateActiveEventTime key now) ∧
      Consistent (store.updateActiveEventTime key now) := by
  unfold AlertStore.updateActiveEventTime
  split
  · refine lifeCycle_of_same hn hcons (f := fun a => a) (fun _ => ⟨rfl, rfl, rfl, rfl⟩)
      (List.map_id _).symm (AlertStore.updatedRow_id _ _) rfl (fun _ _ => Iff.rfl) (fun e _ => ?_)
    rw [updatedRow_status]
    split <;> exact Iff.rfl
  · exact lifeCycle_refl hn hcons

/-- Resolving an event resolves its alerts. -/
theorem lifeCycle_resolveEvent (hn : Numbered store) (hcons : Consistent store) (id : ℕ)
    (now : Time) :
    StaysResolved store (store.resolveEvent id now) ∧ Consistent (store.resolveEvent id now) := by
  unfold AlertStore.resolveEvent
  split
  · refine lifeCycle_of_map hn (fun a => ?_) rfl (AlertStore.updatedRow_id _ _) rfl (fun a _ h => ?_)
      (fun e _ h => ?_) (fun e he hlinked => ?_)
    · split <;> exact ⟨rfl, rfl, rfl, rfl⟩
    · split
      · rfl
      · exact h
    · rw [updatedRow_status]
      split
      · rfl
      · exact h
    · rw [updatedRow_status]
      by_cases hid : e.id = id
      · rw [if_pos hid]
        refine iff_of_true rfl fun a ha => ?_
        rw [if_pos (hid ▸ (mem_linked.mp ha).2)]
      · rw [if_neg hid, hcons e he hlinked]
        refine forall₂_congr fun a ha => ?_
        rw [if_neg]
        rw [(mem_linked.mp ha).2, Option.some_inj]
        exact hid
  · exact lifeCycle_refl hn hcons

/-- The event of resolved alerts is resolved. -/
theorem AlertStore.checkAndAutoResolveEvent_of_all {i : ℕ}
    (h : store.linked i ≠ [] ∧ ∀ a ∈ store.linked i, a.status = .resolved) :
    store.checkAndAutoResolveEvent i now = store.updateEvent i fun e =>
      if e.status = .resolved then e
      else { e with
        status := .resolved
        eventEndedAt := now
        lifecycleStage := "recovered"
        diagnosisTriggerReason := "event_recovered" } :=
  if_pos h

theorem AlertStore.checkAndAutoResolveEvent_of_not {i : ℕ}
    (h : ¬ (store.linked i ≠ [] ∧ ∀ a ∈ store.linked i, a.status = .resolved)) :
    store.checkAndAutoResolveEvent i now = store :=
  if_neg h

/-- Resolving an alert resolves its event with the last of its alerts. -/
theorem lifeCycle_resolveAlert (hn : Numbered store) (hcons : Consistent store) (id : ℕ)
    (now : Time) :
    StaysResolved store (store.resolveAlertById id now) ∧
      Consistent (store.resolveAlertById id now) := by
  unfold AlertStore.resolveAlertById
  split
  · rename_i alert hfind
    have halert : alert ∈ store.alerts := List.mem_of_find?_eq_some hfind
    have hf : ∀ a : AlertMessage,
        SameAlert a (if a.id = alert.id then { a with status := .resolved } else a) := by
      intro a
      split <;> exact ⟨rfl, rfl, rfl, rfl⟩
    have hstay : ∀ a ∈ store.alerts, a.status = .resolved →
        (if a.id = alert.id then { a with status := .resolved } else a).status = .resolved := by
      intro a _ hresolved
      split
      · rfl
      · exact hresolved
    -- the events that the alert is not linked to go with their alerts as before
    have hother : ∀ e ∈ store.events, alert.eventId ≠ some e.id → store.linked e.id ≠ [] →
        (e.status = .resolved ↔ ∀ a ∈ store.linked e.id,
          (if a.id = alert.id then { a with status := .resolved } else a).status = .resolved) := by
      intro e he hne hlinked
      rw [hcons e he hlinked]
      refine forall₂_congr fun a ha => ?_
      obtain ⟨hmem, heventId⟩ := mem_linked.mp ha
      rw [if_neg]
      intro hid
      rw [hn.eq_of_id_eq hmem halert hid] at heventId
      exact hne heventId
    unfold AlertStore.resolveAlert
    dsimp only
    cases hevent : alert.eventId with
    | none =>
      refine lifeCycle_of_map hn (g := fun e => e) hf rfl (fun _ => rfl) (List.map_id _).symm hstay
        (fun _ _ h => h) fun e he => hother e he ?_
      rw [hevent]
      exact Option.some_ne_none _ |>.symm
    | some i =>
      have hlinked : (store.updateAlert alert.id ({ · with status := .resolved })).linked i =
          (store.linked i).map _ := linked_of_map hf rfl i
      dsimp only
      by_cases hall : (store.updateAlert alert.id ({ · with status := .resolved })).linked i ≠ [] ∧
          ∀ a ∈ (store.updateAlert alert.id ({ · with status := .resolved })).linked i,
            a.status = .resolved
      · rw [AlertStore.checkAndAutoResolveEvent_of_all hall]
        rw [hlinked] at hall
        refine lifeCycle_of_map hn hf rfl (AlertStore.updatedRow_id _ _) rfl hstay
          (fun e _ hresolved => ?_) fun e he hne => ?_
        · rw [updatedRow_status]
          rw [if_pos hresolved, ite_self]
          exact hresolved
        · rw [updatedRow_status]
          by_cases hid : e.id = i
          · rw [if_pos hid]
            refine iff_of_true ?_ fun a ha => hall.2 _ (List.mem_map_of_mem (hid ▸ ha))
            by_cases hdone : e.status = .resolved
            · rw [if_pos hdone]
              exact hdone
            · rw [if_neg hdone]
          · rw [if_neg hid]
            refine hother e he ?_ hne
            rw [hevent, ne_eq, Option.some_inj]
            exact Ne.symm hid
      · rw [AlertStore.checkAndAutoResolveEvent_of_not hall]
        rw [hlinked] at hall
        refine lifeCycle_of_map hn (g := fun e => e) hf rfl (fun _ => rfl) (List.map_id _).symm hstay
          (fun _ _ h => h) fun e he hne => ?_
        by_cases hid : e.id = i
        · constructor
          · intro hresolved a ha
            exact hstay a (mem_linked.mp ha).1 ((hcons e he hne).mp hresolved a ha)
          · intro hresolved
            refine absurd ⟨?_, ?_⟩ hall
            · rw [ne_eq, List.map_eq_nil_iff, ← hid]
              exact hne
            · intro b hb
              obtain ⟨a, ha, rfl⟩ := List.mem_map.mp hb
              exact hresolved a (hid ▸ ha)
        · refine hother e he ?_ hne
          rw [hevent, ne_eq, Option.some_inj]
          exact Ne.symm hid
  · exact lifeCycle_refl hn hcons

/-- A row without an event changes nothing about events. -/
theorem lifeCycle_commitAlert (hn : Numbered store) (hcons : Consistent store) (row : AlertMessage)
    (now : Time) :
    StaysResolved store (store.commitAlert row now) ∧ Consistent (store.commitAlert row now) := by
  have hlinked : ∀ i, (store.commitAlert row now).linked i = store.linked i := by
    intro i
    show (store.alerts ++ [store.freshAlert row now]).filter _ = _
    simp [AlertStore.linked, AlertStore.freshAlert]
  refine ⟨⟨?_, ?_⟩, ?_⟩
  · intro a ha hresolved b hb hid
    rcases List.mem_append.mp hb with hold | hnew
    · rw [hn.eq_of_id_eq hold ha hid]
      exact hresolved
    · rw [List.mem_singleton.mp hnew] at hid
      exact absurd hid.symm (Nat.ne_of_lt (hn.alertIds_lt a ha))
  · intro e he hresolved f hf hid
    rw [store.eq_of_id_eq hf he hid]
    exact hresolved
  · intro e he
    rw [hlinked]
    exact hcons e he

/-- The alerts that are linked after a creation. -/
theorem linked_append {t : AlertStore} {row : AlertMessage} {eventId : ℕ}
    (halerts : t.alerts = store.alerts ++ [store.linkedAlert row now eventId]) (i : ℕ) :
    t.linked i = if i = eventId then store.linked i ++ [store.linkedAlert row now eventId]
      else store.linked i := by
  unfold AlertStore.linked
  rw [halerts, List.filter_append]
  split
  · rename_i heq
    subst heq
    simp [AlertStore.linkedAlert]
  · rename_i hne
    simp [AlertStore.linkedAlert, Ne.symm hne]

/-- A new alert joins an open event, which is active then, or a new one. -/
theorem lifeCycle_create (hn : Numbered store) (hcons : Consistent store) (window : ℤ)
    (row : AlertMessage) (now : Time) :
    StaysResolved store (store.create window row now) ∧ Consistent (store.create window row now) := by
  have hactive : ∀ i, (store.linkedAlert row now i).status ≠ .resolved := fun _ => nofun
  have hnew : ∀ i, (store.create window row now).alerts =
      store.alerts ++ [store.linkedAlert row now i] → ∀ a ∈ store.alerts, a.status = .resolved →
        ∀ b ∈ (store.create window row now).alerts, b.id = a.id → b.status = .resolved := by
    intro i halerts a ha hresolved b hb hid
    rw [halerts] at hb
    rcases List.mem_append.mp hb with hold | hlast
    · rw [hn.eq_of_id_eq hold ha hid]
      exact hresolved
    · rw [List.mem_singleton.mp hlast] at hid
      exact absurd hid.symm (Nat.ne_of_lt (hn.alertIds_lt a ha))
  rcases create_cases hn window row now with ⟨event, hopen, halerts, hevents⟩ | ⟨-, halerts, hevents⟩
  · obtain ⟨hevent, -, hisOpen, -⟩ := AlertStore.openEvent_mem hopen
    have hunresolved : event.status ≠ .resolved := by
      intro hresolved
      rw [hresolved] at hisOpen
      cases hisOpen
    refine ⟨⟨hnew _ halerts, ?_⟩, ?_⟩
    · intro e he hresolved f hf hid
      rw [hevents] at hf
      obtain ⟨f', hf', rfl⟩ := List.mem_map.mp hf
      rw [AlertStore.updatedRow_id] at hid
      obtain rfl := store.eq_of_id_eq hf' he hid
      rw [updatedRow_status, if_neg]
      · exact hresolved
      · intro heq
        rw [store.eq_of_id_eq hf' hevent heq] at hresolved
        exact hunresolved hresolved
    · intro f hf hlinked
      rw [hevents] at hf
      obtain ⟨e, he, rfl⟩ := List.mem_map.mp hf
      rw [AlertStore.updatedRow_id, linked_append halerts] at hlinked ⊢
      rw [updatedRow_status]
      by_cases hid : e.id = event.id
      · rw [if_pos hid, if_pos hid]
        refine iff_of_false nofun fun hall => ?_
        exact hactive _ (hall _ (List.mem_append_right _ (List.mem_singleton_self _)))
      · rw [if_neg hid] at hlinked
        rw [if_neg hid, if_neg hid]
        exact hcons e he hlinked
  · refine ⟨⟨hnew _ halerts, ?_⟩, ?_⟩
    · intro e he hresolved f hf hid
      rw [hevents] at hf
      rcases List.mem_append.mp hf with hold | hlast
      · rw [store.eq_of_id_eq hold he hid]
        exact hresolved
      · rw [List.mem_singleton.mp hlast] at hid
        exact absurd hid.symm (Nat.ne_of_lt (store.eventIds_lt e he))
    · intro f hf hlinked
      rw [hevents] at hf
      rw [linked_append halerts] at hlinked ⊢
      rcases List.mem_append.mp hf with hold | hlast
      · rw [if_neg (Nat.ne_of_lt (store.eventIds_lt f hold))] at hlinked ⊢
        exact hcons f hold hlinked
      · have hid : (store.newEvent (store.freshAlert row now)).id = store.nextEventId := rfl
        rw [List.mem_singleton.mp hlast, if_pos hid]
        refine iff_of_false nofun fun hall => ?_
        exact hactive _ (hall _ (List.mem_append_right _ (List.mem_singleton_self _)))

/-- **An operation that acknowledges nothing resolved keeps the life cycle.** -/
theorem lifeCycle_of_acknowledgesUnresolved (hn : Numbered store) (hcons : Consistent store)
    {label : Operation × Time} (h : AcknowledgesUnresolved store label) :
    LifeCycle window store label := by
  obtain ⟨op, now⟩ := label
  cases op with
  | create row => exact lifeCycle_create hn hcons window row now
  | createUnlinked row => exact lifeCycle_commitAlert hn hcons row now
  | acknowledgeAlert id => exact lifeCycle_acknowledgeAlert hn hcons h
  | resolveAlert id => exact lifeCycle_resolveAlert hn hcons id now
  | acknowledgeEvent id => exact lifeCycle_acknowledgeEvent hn hcons h
  | resolveEvent id => exact lifeCycle_resolveEvent hn hcons id now
  | touch key => exact lifeCycle_touch hn hcons key now

/-- Acknowledging what is resolved leaves the life cycle. -/
theorem acknowledgesUnresolved_of_lifeCycle {label : Operation × Time}
    (h : LifeCycle window store label) : AcknowledgesUnresolved store label := by
  obtain ⟨op, now⟩ := label
  obtain ⟨⟨halerts, hevents⟩, -⟩ := h
  cases op with
  | acknowledgeAlert id =>
    rintro a ha rfl hresolved
    have hmem : ({ a with status := .acknowledged } : AlertMessage) ∈
        (store.acknowledgeAlert a.id).alerts :=
      List.mem_map.mpr ⟨a, ha, if_pos rfl⟩
    have := halerts a ha hresolved _ hmem rfl
    cases this
  | acknowledgeEvent id =>
    rintro e he rfl hresolved
    have hany : (store.events.any (·.id = e.id)) = true :=
      List.any_eq_true.mpr ⟨e, he, decide_eq_true rfl⟩
    have hmem : ({ e with status := .acknowledged } : AlertEvent) ∈
        (store.acknowledgeEvent e.id).events := by
      unfold AlertStore.acknowledgeEvent
      rw [if_pos hany]
      exact List.mem_map.mpr ⟨e, he, if_pos rfl⟩
    have := hevents e he hresolved _ hmem rfl
    cases this
  | _ => trivial

/-- **The runs that keep the life cycle are the runs that acknowledge nothing resolved.** -/
theorem lifeCycle_iff (window : ℤ) (labels : List (Operation × Time)) (t : AlertStore) :
    Run (operate window) (LifeCycle window) {} labels t ↔
      Run (operate window) AcknowledgesUnresolved {} labels t := by
  constructor
  · exact Run.mono fun s label => acknowledgesUnresolved_of_lifeCycle
  · refine Run.strengthen (I := fun s => Numbered s ∧ Consistent s) ?_ ?_ ?_
    · rintro s label ⟨hn, hcons⟩ hack
      exact lifeCycle_of_acknowledgesUnresolved hn hcons hack
    · rintro s label t ⟨hn, hcons⟩ hack hstep
      cases hstep
      exact ⟨hn.apply window label.2 label.1, (lifeCycle_of_acknowledgesUnresolved hn hcons hack).2⟩
    · exact ⟨numbered_empty, fun e he => by cases he⟩

/-- The arguments of a threshold alert. -/
def cpuRow : AlertMessage where
  id := 0
  datasourceId := 1
  alertType := "threshold_violation"
  metricName := some "cpu_usage"
  severity := .low
  createdAt := 0

/-- **A resolved alert becomes acknowledged, and so does a resolved event.** -/
theorem acknowledgeResolved_not_lifeCycle :
    ∃ t, Run (operate 30) Always {} [(.create cpuRow, 0), (.resolveAlert 1, 1)] t ∧
      ¬ LifeCycle 30 t (.acknowledgeAlert 1, 2) ∧ ¬ LifeCycle 30 t (.acknowledgeEvent 1, 2) := by
  refine ⟨_, .cons trivial rfl (.cons trivial rfl (.nil _)), fun h => ?_, fun h => ?_⟩
  · exact absurd (acknowledgesUnresolved_of_lifeCycle h) (by decide)
  · exact absurd (acknowledgesUnresolved_of_lifeCycle h) (by decide)

end DBClaw.Alerts
