import DBClaw.Alerts.Lifecycle
import Mathlib.Tactic.Linarith
import Mathlib.Tactic.Positivity

/-! # The unresolved events of a problem
`create_alert` runs in three steps with awaits between them: it commits the row of the alert, looks for
an unresolved event of the same key that ended within the time window, and adds the alert to that
event or to a new one. Other creations, acknowledgements and resolutions run in between. Two unresolved
events of a key are not the same problem if the older one had been quiet for the window when the newer
one began; `spaced_of_run` says that all of them are so far apart, as long as the creations for one key
follow one another and no resolved event is acknowledged. -/

namespace DBClaw.Alerts

open Runs

/-! ## Interleaved creations -/

/-- A `create_alert` that has committed its row, and what it has found since then. -/
structure Creator where
  alert : AlertMessage
  found : Option (Option AlertEvent) := none
  deriving DecidableEq

/-- The two tables, the time, and the creations that are under way. -/
structure Board where
  store : AlertStore := {}
  clock : Time
  creators : List Creator := []

/-- The empty tables. -/
def Board.start (clock : Time) : Board where
  store := default
  clock := clock

/-- A column that is changed in a loaded row is written, and one that is not keeps its value in the
table. -/
def writtenColumn {α : Type*} [DecidableEq α] (loaded changed row : α) : α :=
  if changed = loaded then row else changed

/-- `_add_alert_to_event` on a row that was loaded earlier. -/
def joinLoaded (alert : AlertMessage) (loaded row : AlertEvent) : AlertEvent :=
  let changed := AlertStore.addAlertToEvent alert loaded
  { row with
    latestAlertId := writtenColumn loaded.latestAlertId changed.latestAlertId row.latestAlertId
    alertCount := writtenColumn loaded.alertCount changed.alertCount row.alertCount
    eventEndedAt := writtenColumn loaded.eventEndedAt changed.eventEndedAt row.eventEndedAt
    status := writtenColumn loaded.status changed.status row.status
    severity := writtenColumn loaded.severity changed.severity row.severity
    lifecycleStage := writtenColumn loaded.lifecycleStage changed.lifecycleStage row.lifecycleStage
    diagnosisTriggerReason := writtenColumn loaded.diagnosisTriggerReason
      changed.diagnosisTriggerReason row.diagnosisTriggerReason }

theorem AlertStore.newEvent_id (store : AlertStore) (alert : AlertMessage) :
    (store.newEvent alert).id = store.nextEventId := rfl

/-- The alert is added to the event that was found, or to a new one, and linked to it. -/
def AlertStore.linkFound (store : AlertStore) (alert : AlertMessage) :
    Option AlertEvent → AlertStore
  | some loaded => (store.updateEvent loaded.id (joinLoaded alert loaded)).updateAlert alert.id
      ({ · with eventId := some loaded.id })
  | none => (store.addEvent (store.newEvent alert) (store.newEvent_id alert)).updateAlert alert.id
      ({ · with eventId := some store.nextEventId })

/-- The operations that acknowledge and resolve. -/
def Operation.changesStatus : Operation → Bool
  | .acknowledgeAlert _ | .resolveAlert _ | .acknowledgeEvent _ | .resolveEvent _ => true
  | .create _ | .createUnlinked _ | .touch _ => false

/-- A step of a creation, or an acknowledgement or resolution. -/
inductive BoardLabel
  | commit (row : AlertMessage) (now : Time)
  | find (creator : Creator)
  | link (creator : Creator)
  | fail (creator : Creator)
  | operate (op : Operation) (now : Time)

/-- The row of an alert is committed. -/
def Board.commit (b : Board) (row : AlertMessage) (now : Time) : Board where
  store := b.store.commitAlert row now
  clock := now
  creators := { alert := b.store.freshAlert row now } :: b.creators

/-- A creation looks for an event. -/
def Board.find (window : ℕ) (b : Board) (creator : Creator) : Board :=
  let found := b.store.openEvent (aggregationKey creator.alert)
    (some (creator.alert.createdAt - Time.minutes window))
  { b with creators := { creator with found := some found } :: b.creators.erase creator }

/-- A creation adds its alert to what it has found. -/
def Board.link (b : Board) (creator : Creator) (found : Option AlertEvent) : Board :=
  { b with
    store := b.store.linkFound creator.alert found
    creators := b.creators.erase creator }

/-- One step. -/
def Board.step (window : ℕ) (b : Board) : BoardLabel → Option Board
  | .commit row now => if b.clock ≤ now then some (b.commit row now) else none
  | .find creator =>
    if creator ∈ b.creators ∧ creator.found = none then some (b.find window creator) else none
  | .link creator =>
    if creator ∈ b.creators then creator.found.map (b.link creator) else none
  | .fail creator => some { b with creators := b.creators.erase creator }
  | .operate op now =>
    if b.clock ≤ now ∧ op.changesStatus = true then
      some { b with store := b.store.apply window now op, clock := now }
    else none

/-- **Creations of alerts for one key follow one another, and no resolved event is acknowledged.** -/
def Orderly (b : Board) : BoardLabel → Prop
  | .commit row now => ∀ creator ∈ b.creators,
      aggregationKey creator.alert ≠ aggregationKey (b.store.freshAlert row now)
  | .operate (.acknowledgeEvent id) _ =>
      ∀ e ∈ b.store.events, e.id = id → e.status ≠ .resolved
  | _ => True

instance (b : Board) : (label : BoardLabel) → Decidable (Orderly b label)
  | .commit row now => inferInstanceAs (Decidable (∀ creator ∈ b.creators,
      aggregationKey creator.alert ≠ aggregationKey (b.store.freshAlert row now)))
  | .operate (.acknowledgeEvent id) _ =>
    inferInstanceAs (Decidable (∀ e ∈ b.store.events, e.id = id → e.status ≠ .resolved))
  | .operate (.create _) _ | .operate (.createUnlinked _) _ | .operate (.acknowledgeAlert _) _
  | .operate (.resolveAlert _) _ | .operate (.resolveEvent _) _ | .operate (.touch _) _
  | .find _ | .link _ | .fail _ => .isTrue trivial

/-! ## What acknowledging and resolving does to events -/

variable {store : AlertStore} {now : Time}

/-- The found event is the one that ended last. -/
theorem AlertStore.le_openEvent {key : AggregationKey} {since : Time} {event e : AlertEvent}
    (h : store.openEvent key (some since) = some event) (he : e ∈ store.events)
    (hkey : e.aggregationKey = key) (hopen : e.status.isOpen = true) (hsince : since ≤ e.eventEndedAt) :
    e.eventEndedAt ≤ event.eventEndedAt := by
  refine List.le_of_mem_argmax (List.mem_filter.mpr ⟨he, decide_eq_true ⟨hkey, hopen, ?_⟩⟩) h
  rintro t ⟨⟩
  exact hsince

/-- Where no event is found, the open events of the key ended before the window. -/
theorem AlertStore.openEvent_eq_none {key : AggregationKey} {since : Time}
    (h : store.openEvent key (some since) = none) {e : AlertEvent} (he : e ∈ store.events)
    (hkey : e.aggregationKey = key) (hopen : e.status.isOpen = true) : e.eventEndedAt < since := by
  by_contra hnot
  have hmem : e ∈ store.events.filter fun e => e.aggregationKey = key ∧ e.status.isOpen ∧
      ∀ t ∈ some since, t ≤ e.eventEndedAt := by
    refine List.mem_filter.mpr ⟨he, decide_eq_true ⟨hkey, hopen, ?_⟩⟩
    rintro t ⟨⟩
    exact not_lt.mp hnot
  rw [List.argmax_eq_none.mp h] at hmem
  cases hmem

/-- What stays open or becomes acknowledged has not moved. -/
def Closes (e e' : AlertEvent) : Prop :=
  e'.status.isOpen = true → e.status.isOpen = true ∧ e'.eventEndedAt = e.eventEndedAt

/-- **Acknowledging what is unresolved, and resolving, opens no event.** -/
theorem closes_apply (now : Time) {op : Operation} (hop : op.changesStatus = true)
    (hack : ∀ id, op = .acknowledgeEvent id → ∀ e ∈ store.events, e.id = id → e.status ≠ .resolved)
    (window : ℤ) :
    ∃ g : AlertEvent → AlertEvent, (store.apply window now op).events = store.events.map g ∧
      ∀ e ∈ store.events, SameEvent now e (g e) ∧ Closes e (g e) := by
  have hrefl : ∃ g : AlertEvent → AlertEvent, store.events = store.events.map g ∧
      ∀ e ∈ store.events, SameEvent now e (g e) ∧ Closes e (g e) :=
    ⟨fun e => e, (List.map_id _).symm, fun e _ => ⟨.refl now e, fun h => ⟨h, rfl⟩⟩⟩
  -- an event that is resolved is not open afterwards
  have hresolve : ∀ (id : ℕ) (f : AlertEvent → AlertEvent), (∀ e, SameEvent now e (f e)) →
      (∀ e, Closes e (f e)) → ∀ e, SameEvent now e (AlertStore.updatedRow id f e) ∧
        Closes e (AlertStore.updatedRow id f e) := by
    intro id f hf hcloses e
    unfold AlertStore.updatedRow
    split
    · obtain ⟨-, hkey, hlatest, hcount, hseverity, hstarted, hended⟩ := hf e
      exact ⟨⟨rfl, hkey, hlatest, hcount, hseverity, hstarted, hended⟩, hcloses e⟩
    · exact ⟨.refl now e, fun h => ⟨h, rfl⟩⟩
  cases op with
  | create row => cases hop
  | createUnlinked row => cases hop
  | touch key => cases hop
  | acknowledgeAlert id => exact hrefl
  | resolveAlert id =>
    show ∃ g : AlertEvent → AlertEvent, (store.resolveAlertById id now).events = _ ∧ _
    unfold AlertStore.resolveAlertById AlertStore.resolveAlert AlertStore.checkAndAutoResolveEvent
    split
    · dsimp only
      split
      · split
        · refine ⟨_, rfl, fun e _ => hresolve _ _ (fun e => ?_) (fun e => ?_) e⟩
          · split
            · exact .refl now e
            · exact ⟨rfl, rfl, rfl, rfl, rfl, rfl, .inr rfl⟩
          · intro hopen
            by_cases hresolved : e.status = .resolved
            · rw [if_pos hresolved, hresolved] at hopen
              cases hopen
            · rw [if_neg hresolved] at hopen
              cases hopen
        · exact hrefl
      · exact hrefl
    · exact hrefl
  | acknowledgeEvent id =>
    show ∃ g : AlertEvent → AlertEvent, (store.acknowledgeEvent id).events = _ ∧ _
    unfold AlertStore.acknowledgeEvent
    split
    · refine ⟨_, rfl, fun e he => ?_⟩
      have hunresolved := hack id rfl e he
      unfold AlertStore.updatedRow
      split
      · rename_i hid
        refine ⟨⟨rfl, rfl, rfl, rfl, rfl, rfl, .inl rfl⟩, fun _ => ⟨?_, rfl⟩⟩
        have := hunresolved hid
        cases hstatus : e.status with
        | resolved => exact absurd hstatus this
        | active => rfl
        | acknowledged => rfl
      · exact ⟨.refl now e, fun h => ⟨h, rfl⟩⟩
    · exact hrefl
  | resolveEvent id =>
    show ∃ g : AlertEvent → AlertEvent, (store.resolveEvent id now).events = _ ∧ _
    unfold AlertStore.resolveEvent
    split
    · refine ⟨_, rfl, fun e _ => hresolve _ _ (fun e => ?_) (fun e => ?_) e⟩
      · exact ⟨rfl, rfl, rfl, rfl, rfl, rfl, .inr rfl⟩
      · intro hopen
        cases hopen
    · exact hrefl

/-! ## The invariant -/

/-- The event is open, or a creation that is under way has found it open. -/
def Live (b : Board) (e : AlertEvent) : Prop :=
  e.status.isOpen = true ∨
    ∃ creator ∈ b.creators, ∃ loaded, creator.found = some (some loaded) ∧ loaded.id = e.id

/-- **Unresolved events of a key are not the same problem**: each had been quiet for the window when a
newer one began. -/
def Spaced (window : ℕ) (store : AlertStore) : Prop :=
  ∀ e ∈ store.events, ∀ f ∈ store.events, e.aggregationKey = f.aggregationKey →
    e.status.isOpen = true → f.status.isOpen = true → e.id < f.id →
      e.eventEndedAt + Time.minutes window < f.eventStartedAt

/-- The key of a creation. -/
def Creator.key (creator : Creator) : AggregationKey := aggregationKey creator.alert

/-- **The invariant** of orderly runs. -/
structure Kept (window : ℕ) (b : Board) : Prop where
  intervals : ∀ e ∈ b.store.events, e.eventStartedAt ≤ e.eventEndedAt ∧ e.eventEndedAt ≤ b.clock
  /-- The creations under way have different keys. -/
  keys : (b.creators.map Creator.key).Nodup
  /-- A creation comes after the beginning of all events of its key. -/
  after : ∀ creator ∈ b.creators, creator.alert.createdAt ≤ b.clock ∧
    ∀ e ∈ b.store.events, e.aggregationKey = creator.key → e.eventStartedAt ≤ creator.alert.createdAt
  /-- A creation that has found no event is out of the window of all open events of its key. -/
  foundNone : ∀ creator ∈ b.creators, creator.found = some none →
    ∀ e ∈ b.store.events, e.aggregationKey = creator.key → e.status.isOpen = true →
      e.eventEndedAt + Time.minutes window < creator.alert.createdAt
  /-- A creation that has found an event has found the newest of the open events of its key. -/
  foundSome : ∀ creator ∈ b.creators, ∀ loaded, creator.found = some (some loaded) →
    (∃ e ∈ b.store.events, e.id = loaded.id ∧ e.aggregationKey = creator.key) ∧
      ∀ e ∈ b.store.events, e.aggregationKey = creator.key → e.status.isOpen = true →
        e.id ≤ loaded.id
  spaced : ∀ e ∈ b.store.events, ∀ f ∈ b.store.events, e.aggregationKey = f.aggregationKey →
    Live b e → Live b f → e.id < f.id → e.eventEndedAt + Time.minutes window < f.eventStartedAt

variable {window : ℕ} {b b' : Board}

theorem Kept.spaced_store (h : Kept window b) : Spaced window b.store :=
  fun e he f hf hkey hopen hopen' => h.spaced e he f hf hkey (.inl hopen) (.inl hopen')

/-- The creation of a key is unique. -/
theorem Kept.creator_unique (h : Kept window b) {c d : Creator} (hc : c ∈ b.creators)
    (hd : d ∈ b.creators) (hkey : c.key = d.key) : c = d :=
  List.inj_on_of_nodup_map h.keys hc hd hkey

/-- What a creation has found is an event of its key. -/
theorem Kept.key_of_found (h : Kept window b) {creator : Creator} (hcreator : creator ∈ b.creators)
    {loaded e : AlertEvent} (hfound : creator.found = some (some loaded)) (he : e ∈ b.store.events)
    (hid : e.id = loaded.id) : e.aggregationKey = creator.key := by
  obtain ⟨⟨row, hrow, hrowid, hkey⟩, -⟩ := h.foundSome creator hcreator loaded hfound
  rw [b.store.eq_of_id_eq he hrow (hid.trans hrowid.symm)]
  exact hkey

/-- So a live event is open, or a creation of its key has found it. -/
theorem Kept.live_iff (h : Kept window b) {e : AlertEvent} (he : e ∈ b.store.events) :
    Live b e ↔ e.status.isOpen = true ∨ ∃ creator ∈ b.creators, creator.key = e.aggregationKey ∧
      ∃ loaded, creator.found = some (some loaded) ∧ loaded.id = e.id := by
  refine or_congr Iff.rfl ⟨?_, ?_⟩
  · rintro ⟨creator, hcreator, loaded, hfound, hid⟩
    exact ⟨creator, hcreator, (h.key_of_found hcreator hfound he hid.symm).symm, loaded, hfound, hid⟩
  · rintro ⟨creator, hcreator, -, hfound⟩
    exact ⟨creator, hcreator, hfound⟩

/-- Fewer creations are under way. -/
theorem Kept.fewer (h : Kept window b) {creators : List Creator}
    (hsub : creators.Sublist b.creators) : Kept window { b with creators := creators } := by
  have hmem : ∀ {c}, c ∈ creators → c ∈ b.creators := fun hc => hsub.subset hc
  refine ⟨h.intervals, h.keys.sublist (hsub.map _), fun c hc => h.after c (hmem hc),
    fun c hc => h.foundNone c (hmem hc), fun c hc => h.foundSome c (hmem hc), ?_⟩
  have hlive : ∀ {e}, Live { b with creators := creators } e → Live b e := by
    rintro e (hopen | ⟨c, hc, hfound⟩)
    · exact .inl hopen
    · exact .inr ⟨c, hmem hc, hfound⟩
  exact fun e he f hf hkey hle hlf => h.spaced e he f hf hkey (hlive hle) (hlive hlf)

/-- **A creation begins.** -/
theorem Kept.commit (h : Kept window b) {row : AlertMessage} (hclock : b.clock ≤ now)
    (horderly : ∀ creator ∈ b.creators,
      aggregationKey creator.alert ≠ aggregationKey (b.store.freshAlert row now)) :
    Kept window (b.commit row now) := by
  constructor
  · exact fun e he => ⟨(h.intervals e he).1, (h.intervals e he).2.trans hclock⟩
  · refine List.nodup_cons.mpr ⟨?_, h.keys⟩
    intro hmem
    obtain ⟨c, hc, hkey⟩ := List.mem_map.mp hmem
    exact horderly c hc hkey
  · intro c hc
    rcases List.mem_cons.mp hc with rfl | hold
    · refine ⟨le_refl now, fun e he _ => ?_⟩
      exact ((h.intervals e he).1.trans (h.intervals e he).2).trans hclock
    · exact ⟨(h.after c hold).1.trans hclock, (h.after c hold).2⟩
  · intro c hc hfound
    rcases List.mem_cons.mp hc with rfl | hold
    · cases hfound
    · exact h.foundNone c hold hfound
  · intro c hc loaded hfound
    rcases List.mem_cons.mp hc with rfl | hold
    · cases hfound
    · exact h.foundSome c hold loaded hfound
  · intro e he f hf hkey hle hlf
    -- the new creation has found nothing yet
    have hlive : ∀ {e}, Live (b.commit row now) e → Live b e := by
      rintro e (hopen | ⟨c, hc, loaded, hfound, hid⟩)
      · exact .inl hopen
      · rcases List.mem_cons.mp hc with rfl | hold
        · cases hfound
        · exact .inr ⟨c, hold, loaded, hfound, hid⟩
    exact h.spaced e he f hf hkey (hlive hle) (hlive hlf)

/-- **A creation looks for an event.** -/
theorem Kept.find (h : Kept window b) {creator : Creator} (hcreator : creator ∈ b.creators) :
    Kept window (b.find window creator) := by
  have hmem : ∀ {c}, c ∈ b.creators.erase creator → c ∈ b.creators := fun hc =>
    List.mem_of_mem_erase hc
  have hwindow : 0 ≤ Time.minutes window := by
    unfold Time.minutes Time.seconds
    positivity
  constructor
  · exact h.intervals
  · have hperm : ((creator :: b.creators.erase creator).map Creator.key).Nodup :=
      ((List.perm_cons_erase hcreator).map Creator.key).nodup_iff.mp h.keys
    exact hperm
  · intro c hc
    rcases List.mem_cons.mp hc with rfl | hold
    · exact h.after creator hcreator
    · exact h.after c (hmem hold)
  · intro c hc hfound e he hkey hopen
    rcases List.mem_cons.mp hc with rfl | hold
    · have hnone := AlertStore.openEvent_eq_none (Option.some_inj.mp hfound) he hkey hopen
      exact Int.lt_sub_right_iff_add_lt.mp hnone
    · exact h.foundNone c (hmem hold) hfound e he hkey hopen
  · intro c hc loaded hfound
    rcases List.mem_cons.mp hc with rfl | hold
    · have hfind := Option.some_inj.mp hfound
      obtain ⟨hloaded, hkey, hopen, hsince⟩ := AlertStore.openEvent_mem hfind
      refine ⟨⟨loaded, hloaded, rfl, hkey⟩, fun e he hkey' hopen' => ?_⟩
      by_contra hlt
      -- a newer open event would have ended later, and would have been found
      have hgap := h.spaced loaded hloaded e he (hkey.trans hkey'.symm) (.inl hopen) (.inl hopen')
        (not_le.mp hlt)
      have hinterval := (h.intervals e he).1
      have hsince' := hsince _ rfl
      have hle := AlertStore.le_openEvent hfind he hkey' hopen' (by linarith)
      linarith
    · exact h.foundSome c (hmem hold) loaded hfound
  · intro e he f hf hkey hle hlf
    have hlive : ∀ {e}, e ∈ b.store.events → Live (b.find window creator) e → Live b e := by
      rintro e he (hopen | ⟨c, hc, loaded, hfound, hid⟩)
      · exact .inl hopen
      · rcases List.mem_cons.mp hc with rfl | hold
        · obtain ⟨hloaded, -, hopen, -⟩ := AlertStore.openEvent_mem (Option.some_inj.mp hfound)
          rw [b.store.eq_of_id_eq hloaded he hid] at hopen
          exact .inl hopen
        · exact .inr ⟨c, hmem hold, loaded, hfound, hid⟩
    exact h.spaced e he f hf hkey (hlive he hle) (hlive hf hlf)

/-- What a creation has found is the newest live event of its key. -/
theorem Kept.le_found (h : Kept window b) {creator : Creator} (hcreator : creator ∈ b.creators)
    {loaded : AlertEvent} (hfound : creator.found = some (some loaded)) {f : AlertEvent}
    (hf : f ∈ b.store.events) (hkey : f.aggregationKey = creator.key) (hlive : Live b f) :
    f.id ≤ loaded.id := by
  rcases (h.live_iff hf).mp hlive with hopen | ⟨c, hc, hckey, loaded', hfound', hid⟩
  · exact (h.foundSome creator hcreator loaded hfound).2 f hf hkey hopen
  · obtain rfl := h.creator_unique hc hcreator (hckey.trans hkey)
    rw [hfound] at hfound'
    cases hfound'
    exact le_of_eq hid.symm

/-- The other creations have other keys. -/
theorem Kept.mem_erase (h : Kept window b) {creator c : Creator} (hcreator : creator ∈ b.creators)
    (hc : c ∈ b.creators.erase creator) : c ∈ b.creators ∧ c.key ≠ creator.key := by
  have hnodup : b.creators.Nodup := List.Nodup.of_map _ h.keys
  obtain ⟨hne, hmem⟩ := hnodup.mem_erase_iff.mp hc
  exact ⟨hmem, fun hkey => hne (h.creator_unique hmem hcreator hkey)⟩

/-- **A creation that has found no event makes a new one.** -/
theorem Kept.link_none (h : Kept window b) {creator : Creator} (hcreator : creator ∈ b.creators)
    (hfound : creator.found = some none) : Kept window (b.link creator none) := by
  have hevents : (b.link creator none).store.events =
      b.store.events ++ [b.store.newEvent creator.alert] := rfl
  have hold : ∀ {c}, c ∈ (b.link creator none).creators → c ∈ b.creators ∧ c.key ≠ creator.key :=
    fun hc => h.mem_erase hcreator hc
  obtain ⟨hclock, hafter⟩ := h.after creator hcreator
  constructor
  · intro e he
    rcases List.mem_append.mp (hevents ▸ he) with hmem | hnew
    · exact h.intervals e hmem
    · rw [List.mem_singleton.mp hnew]
      exact ⟨le_refl _, hclock⟩
  · exact h.keys.sublist (List.erase_sublist.map _)
  · intro c hc
    refine ⟨(h.after c (hold hc).1).1, fun e he hkey => ?_⟩
    rcases List.mem_append.mp (hevents ▸ he) with hmem | hnew
    · exact (h.after c (hold hc).1).2 e hmem hkey
    · rw [List.mem_singleton.mp hnew] at hkey
      exact absurd hkey.symm (hold hc).2
  · intro c hc hcfound e he hkey hopen
    rcases List.mem_append.mp (hevents ▸ he) with hmem | hnew
    · exact h.foundNone c (hold hc).1 hcfound e hmem hkey hopen
    · rw [List.mem_singleton.mp hnew] at hkey
      exact absurd hkey.symm (hold hc).2
  · intro c hc loaded hcfound
    obtain ⟨⟨e, he, hid, hkey⟩, hnewest⟩ := h.foundSome c (hold hc).1 loaded hcfound
    refine ⟨⟨e, by rw [hevents]; exact List.mem_append_left _ he, hid, hkey⟩, ?_⟩
    intro f hf hfkey hopen
    rcases List.mem_append.mp (hevents ▸ hf) with hmem | hnew
    · exact hnewest f hmem hfkey hopen
    · rw [List.mem_singleton.mp hnew] at hfkey
      exact absurd hfkey.symm (hold hc).2
  · intro e he f hf hkey hle hlf hlt
    have hlive : ∀ {e}, Live (b.link creator none) e → Live b e := by
      rintro e (hopen | ⟨c, hc, hcfound⟩)
      · exact .inl hopen
      · exact .inr ⟨c, (hold hc).1, hcfound⟩
    rcases List.mem_append.mp (hevents ▸ he) with hmem | hnew
    · rcases List.mem_append.mp (hevents ▸ hf) with hmem' | hnew'
      · exact h.spaced e hmem f hmem' hkey (hlive hle) (hlive hlf) hlt
      · rw [List.mem_singleton.mp hnew'] at hkey ⊢
        rcases (h.live_iff hmem).mp (hlive hle) with hopen | ⟨c, hc, hckey, loaded, hcfound, -⟩
        · exact h.foundNone creator hcreator hfound e hmem hkey hopen
        · -- no other creation of the key is under way
          have heq := h.creator_unique hc hcreator (hckey.trans hkey)
          rw [heq, hfound] at hcfound
          cases hcfound
    · have hid : e.id = b.store.nextEventId := by rw [List.mem_singleton.mp hnew]; rfl
      have hle' : f.id ≤ b.store.nextEventId := by
        rcases List.mem_append.mp (hevents ▸ hf) with hmem' | hnew'
        · exact le_of_lt (b.store.eventIds_lt f hmem')
        · rw [List.mem_singleton.mp hnew']
          exact le_refl _
      omega

/-- **A change of the rows of events**, after which at most the creations that were under way still are: an
event that ends later is the newest live one of its key, and no event of a creation under way is opened. -/
structure Revised (b b' : Board) (g : AlertEvent → AlertEvent) : Prop where
  events : b'.store.events = b.store.events.map g
  creators : b'.creators.Sublist b.creators
  clock : b.clock ≤ b'.clock
  id : ∀ e ∈ b.store.events, (g e).id = e.id
  aggregationKey : ∀ e ∈ b.store.events, (g e).aggregationKey = e.aggregationKey
  eventStartedAt : ∀ e ∈ b.store.events, (g e).eventStartedAt = e.eventStartedAt
  ended : ∀ e ∈ b.store.events, e.eventStartedAt ≤ (g e).eventEndedAt ∧ (g e).eventEndedAt ≤ b'.clock
  closes : ∀ c ∈ b'.creators, ∀ e ∈ b.store.events, e.aggregationKey = c.key → Closes e (g e)
  opened : ∀ e ∈ b.store.events, (g e).status.isOpen = true → Live b e
  newest : ∀ e ∈ b.store.events, Live b' (g e) → (g e).eventEndedAt = e.eventEndedAt ∨
    ∀ f ∈ b.store.events, f.aggregationKey = e.aggregationKey → Live b f → f.id ≤ e.id

/-- **Such a change keeps the invariant.** -/
theorem Kept.revise (h : Kept window b) {g : AlertEvent → AlertEvent} (hg : Revised b b' g) :
    Kept window b' := by
  have hold : ∀ {e'}, e' ∈ b'.store.events → ∃ e ∈ b.store.events, g e = e' := fun he' =>
    List.mem_map.mp (hg.events ▸ he')
  have hmem : ∀ {c}, c ∈ b'.creators → c ∈ b.creators := fun hc => hg.creators.subset hc
  constructor
  · intro e' he'
    obtain ⟨e, he, rfl⟩ := hold he'
    rw [hg.eventStartedAt e he]
    exact hg.ended e he
  · exact h.keys.sublist (hg.creators.map _)
  · intro c hc
    refine ⟨(h.after c (hmem hc)).1.trans hg.clock, fun e' he' hkey => ?_⟩
    obtain ⟨e, he, rfl⟩ := hold he'
    rw [hg.aggregationKey e he] at hkey
    rw [hg.eventStartedAt e he]
    exact (h.after c (hmem hc)).2 e he hkey
  · intro c hc hfound e' he' hkey hopen
    obtain ⟨e, he, rfl⟩ := hold he'
    rw [hg.aggregationKey e he] at hkey
    obtain ⟨hopen', hsame⟩ := hg.closes c hc e he hkey hopen
    rw [hsame]
    exact h.foundNone c (hmem hc) hfound e he hkey hopen'
  · intro c hc loaded hfound
    obtain ⟨⟨e, he, hid, hkey⟩, hnewest⟩ := h.foundSome c (hmem hc) loaded hfound
    refine ⟨⟨g e, by rw [hg.events]; exact List.mem_map_of_mem he, (hg.id e he).trans hid,
      (hg.aggregationKey e he).trans hkey⟩, ?_⟩
    intro f' hf' hfkey hopen
    obtain ⟨f, hf, rfl⟩ := hold hf'
    rw [hg.aggregationKey f hf] at hfkey
    rw [hg.id f hf]
    exact hnewest f hf hfkey (hg.closes c hc f hf hfkey hopen).1
  · intro e' he' f' hf' hkey hle hlf hlt
    obtain ⟨e, he, rfl⟩ := hold he'
    obtain ⟨f, hf, rfl⟩ := hold hf'
    rw [hg.aggregationKey e he, hg.aggregationKey f hf] at hkey
    rw [hg.id e he, hg.id f hf] at hlt
    rw [hg.eventStartedAt f hf]
    have hlive : ∀ {e}, e ∈ b.store.events → Live b' (g e) → Live b e := by
      rintro e he (hopen | ⟨c, hc, loaded, hfound, hid⟩)
      · exact hg.opened e he hopen
      · exact .inr ⟨c, hmem hc, loaded, hfound, hid.trans (hg.id e he)⟩
    rcases hg.newest e he hle with hsame | hnewest
    · rw [hsame]
      exact h.spaced e he f hf hkey (hlive he hle) (hlive hf hlf) hlt
    · have hle' := hnewest f hf hkey.symm (hlive hf hlf)
      omega

/-- The end of an event that an alert joins stays or becomes the time of the alert. -/
theorem joinLoaded_eventEndedAt (alert : AlertMessage) (loaded row : AlertEvent) :
    (joinLoaded alert loaded row).eventEndedAt = row.eventEndedAt ∨
      (joinLoaded alert loaded row).eventEndedAt = alert.createdAt := by
  show writtenColumn loaded.eventEndedAt alert.createdAt row.eventEndedAt = _ ∨
    writtenColumn loaded.eventEndedAt alert.createdAt row.eventEndedAt = _
  unfold writtenColumn
  split
  · exact .inl rfl
  · exact .inr rfl

/-- **A creation that has found an event adds its alert to it.** -/
theorem Kept.link_some (h : Kept window b) {creator : Creator} (hcreator : creator ∈ b.creators)
    {loaded : AlertEvent} (hfound : creator.found = some (some loaded)) :
    Kept window (b.link creator (some loaded)) := by
  obtain ⟨hclock, hafter⟩ := h.after creator hcreator
  have hjoined : ∀ e ∈ b.store.events, e.id = loaded.id → e.aggregationKey = creator.key :=
    fun e he => h.key_of_found hcreator hfound he
  -- the events that the alert does not join stay
  have hothers : ∀ e : AlertEvent, e.id ≠ loaded.id →
      AlertStore.updatedRow loaded.id (joinLoaded creator.alert loaded) e = e := fun e hne => if_neg hne
  refine h.revise (g := AlertStore.updatedRow loaded.id (joinLoaded creator.alert loaded))
    { events := rfl
      creators := List.erase_sublist
      clock := le_refl b.clock
      id := fun e _ => AlertStore.updatedRow_id _ _ e
      aggregationKey := fun e _ => ?_
      eventStartedAt := fun e _ => ?_
      ended := fun e he => ?_
      closes := fun c hc e he hkey => ?_
      opened := fun e he hopen => ?_
      newest := fun e he _ => ?_ }
  · unfold AlertStore.updatedRow
    split <;> rfl
  · unfold AlertStore.updatedRow
    split <;> rfl
  · by_cases hid : e.id = loaded.id
    · rw [AlertStore.updatedRow, if_pos hid]
      show e.eventStartedAt ≤ (joinLoaded creator.alert loaded e).eventEndedAt ∧
        (joinLoaded creator.alert loaded e).eventEndedAt ≤ b.clock
      rcases joinLoaded_eventEndedAt creator.alert loaded e with heq | heq
      · rw [heq]
        exact h.intervals e he
      · rw [heq]
        exact ⟨hafter e he (hjoined e he hid), hclock⟩
    · rw [hothers e hid]
      exact h.intervals e he
  · rw [hothers e fun hid => (h.mem_erase hcreator hc).2 (hkey.symm.trans (hjoined e he hid))]
    exact fun hopen => ⟨hopen, rfl⟩
  · by_cases hid : e.id = loaded.id
    · exact .inr ⟨creator, hcreator, loaded, hfound, hid.symm⟩
    · rw [hothers e hid] at hopen
      exact .inl hopen
  · by_cases hid : e.id = loaded.id
    · refine .inr fun f hf hkey hlive => ?_
      rw [hid]
      exact h.le_found hcreator hfound hf (hkey.trans (hjoined e he hid)) hlive
    · rw [hothers e hid]
      exact .inl rfl

/-- **Alerts and events are acknowledged and resolved.** -/
theorem Kept.operate (h : Kept window b) {store : AlertStore} (hclock : b.clock ≤ now)
    {g : AlertEvent → AlertEvent} (hevents : store.events = b.store.events.map g)
    (hg : ∀ e ∈ b.store.events, SameEvent now e (g e) ∧ Closes e (g e)) :
    Kept window { b with store := store, clock := now } := by
  refine h.revise (g := g)
    { events := hevents
      creators := .refl _
      clock := hclock
      id := fun e he => (hg e he).1.id
      aggregationKey := fun e he => (hg e he).1.aggregationKey
      eventStartedAt := fun e he => (hg e he).1.eventStartedAt
      ended := fun e he => ?_
      closes := fun _ _ e he _ => (hg e he).2
      opened := fun e he hopen => .inl ((hg e he).2 hopen).1
      newest := fun e he hlive => ?_ }
  · obtain ⟨hstarted, hended⟩ := h.intervals e he
    rcases (hg e he).1.eventEndedAt with hsame | hnow
    · rw [hsame]
      exact ⟨hstarted, hended.trans hclock⟩
    · rw [hnow]
      exact ⟨(hstarted.trans hended).trans hclock, le_refl now⟩
  · rcases hlive with hopen | ⟨c, hc, loaded, hfound, hid⟩
    · exact .inl ((hg e he).2 hopen).2
    · -- an event that was found and resolved since then is the newest one
      rw [(hg e he).1.id] at hid
      refine .inr fun f hf hkey hlive => ?_
      rw [← hid]
      exact h.le_found hc hfound hf (hkey.trans (h.key_of_found hc hfound he hid.symm)) hlive

/-- **An orderly step keeps the invariant.** -/
theorem Kept.step (h : Kept window b) {label : BoardLabel} (horderly : Orderly b label)
    (hstep : b.step window label = some b') : Kept window b' := by
  cases label with
  | commit row now =>
    rw [Board.step] at hstep
    split at hstep
    · rename_i hclock
      cases hstep
      exact h.commit hclock horderly
    · cases hstep
  | find creator =>
    rw [Board.step] at hstep
    split at hstep
    · rename_i hcreator
      cases hstep
      exact h.find hcreator.1
    · cases hstep
  | link creator =>
    rw [Board.step] at hstep
    split at hstep
    · rename_i hcreator
      obtain ⟨found, hfound, rfl⟩ := Option.map_eq_some_iff.mp hstep
      cases found with
      | none => exact h.link_none hcreator hfound
      | some loaded => exact h.link_some hcreator hfound
    · cases hstep
  | fail creator =>
    cases hstep
    exact h.fewer List.erase_sublist
  | operate op now =>
    rw [Board.step] at hstep
    split at hstep
    · rename_i hop
      cases hstep
      obtain ⟨g, hevents, hg⟩ := closes_apply now hop.2 (by
        rintro id rfl
        exact horderly) window
      exact h.operate hop.1 hevents hg
    · cases hstep

/-- **In every orderly run the unresolved events of a key are apart by more than the window.** -/
theorem spaced_of_run (window : ℕ) {clock : Time} {labels : List BoardLabel} {b : Board}
    (h : Run (Board.step window) Orderly { clock := clock } labels b) : Spaced window b.store := by
  have hkept : Kept window b := by
    refine h.invariant (fun b label b' hb horderly hstep => hb.step horderly hstep) ?_
    constructor
    · exact fun e he => by cases he
    · exact List.nodup_nil
    · exact fun c hc => by cases hc
    · exact fun c hc => by cases hc
    · exact fun c hc => by cases hc
    · exact fun e he => by cases he
  exact hkept.spaced_store

/-! ## Runs with one and with two events -/

/-- The alert of a creation from `cpuRow` with this id and time. -/
def cpuAlert (id : ℕ) (now : Time) : AlertMessage := { cpuRow with id := id, createdAt := now }

/-- The labels of one creation, with what it finds. -/
def creation (id : ℕ) (now : Time) (found : Option AlertEvent) : List BoardLabel := [
  .commit cpuRow now, .find { alert := cpuAlert id now },
  .link { alert := cpuAlert id now, found := some found }]

/-- The event of the first alert. -/
def firstEvent : AlertEvent where
  id := 1
  datasourceId := 1
  aggregationKey := { datasourceId := 1, name := "cpu_usage" }
  latestAlertId := 1
  eventStartedAt := 0
  eventEndedAt := 0
  severity := .low
  alertType := "threshold_violation"
  metricName := some "cpu_usage"

/-- Two alerts within the default window of five minutes, and a third one after it. -/
def orderlyLabels : List BoardLabel :=
  creation 1 0 none ++ creation 2 (Time.minutes 5) (some firstEvent) ++
    creation 3 (Time.minutes 11) none

/-- The tables after these creations. -/
def afterOrderly : Board :=
  (exec (Board.step 5) Orderly (.start 0) orderlyLabels).getD (.start 0)

/-- The third alert is another problem than the first two. -/
theorem afterOrderly_spaced : afterOrderly.store.events.length = 2 ∧ Spaced 5 afterOrderly.store :=
  ⟨by decide, spaced_of_run 5 (.of_isSome (by decide))⟩

/-- At most one unresolved event for each key. -/
def OneOpenEvent (store : AlertStore) : Prop :=
  ∀ e ∈ store.events, ∀ f ∈ store.events, e.aggregationKey = f.aggregationKey →
    e.status.isOpen = true → f.status.isOpen = true → e.id = f.id

instance (store : AlertStore) : Decidable (OneOpenEvent store) :=
  inferInstanceAs (Decidable (∀ e ∈ store.events, ∀ f ∈ store.events,
    e.aggregationKey = f.aggregationKey → e.status.isOpen = true → f.status.isOpen = true →
      e.id = f.id))

/-- Two creations for one key that both look for an event before either makes one. -/
def racingLabels : List BoardLabel := [
  .commit cpuRow 0, .commit cpuRow 0,
  .find { alert := cpuAlert 1 0 }, .find { alert := cpuAlert 2 0 },
  .link { alert := cpuAlert 1 0, found := some none },
  .link { alert := cpuAlert 2 0, found := some none }]

/-- The tables after these creations. -/
def afterRacing : Board :=
  (exec (Board.step 5) Always (.start 0) racingLabels).getD (.start 0)

/-- **A key has two unresolved events**, after a quiet window and after two creations at once. -/
theorem not_oneOpenEvent :
    (Run (Board.step 5) Always { clock := 0 } orderlyLabels afterOrderly ∧
      ¬ OneOpenEvent afterOrderly.store) ∧
    (Run (Board.step 5) Always { clock := 0 } racingLabels afterRacing ∧
      ¬ OneOpenEvent afterRacing.store) := by
  have horderly : Run (Board.step 5) Orderly { clock := 0 } orderlyLabels afterOrderly :=
    .of_isSome (by decide)
  exact ⟨⟨horderly.mono fun _ _ _ => trivial, by decide⟩,
    ⟨.of_isSome (by decide), by decide⟩⟩

end DBClaw.Alerts
