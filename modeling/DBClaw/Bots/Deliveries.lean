import DBClaw.Bots.Messages
import DBClaw.Library.Runs

/-! # Deliveries of a message
A platform delivers a message again until it is told that the message has arrived, and each delivery
is handled by a coroutine of its own: `handle_message` asks `chat_event_dedup` whether the message is
known, starts a turn, and adds the row only when the turn is over. A label runs one coroutine from one
of these points to the next, so that a sequence of labels is an interleaving of deliveries.
`exactlyOnce_iff` says that each message starts at most one turn, and no message is taken for another
one, as long as whatever turn of a message came before was recorded when the delivery was checked, and
messages that are recorded share no id with it. -/

namespace DBClaw.Bots

open Runs

/-! ## State -/

/-- A row of `chat_event_dedup` of one channel, with the message that it was added for. -/
structure Row where
  eventId : Text
  messageId : Text
  eventType : Text
  message : ℕ

/-- Where the coroutine of a delivery stands: it has not been checked, was checked against the first
`seen` rows, is in its turn, has recorded it and is replying, or has returned or raised. -/
inductive Phase
  | received
  | checked (seen : ℕ)
  | inTurn
  | replying
  | over
  deriving DecidableEq, Repr

/-- A delivery of a message. -/
structure Delivery where
  message : ℕ
  phase : Phase
  deriving DecidableEq, Repr

/-- What a message started. -/
structure Turn where
  message : ℕ
  start : Start
  deriving DecidableEq, Repr

/-- A delivery that was taken for a duplicate, with the messages of the rows that were found. -/
structure Duplicate where
  message : ℕ
  foundMessages : List ℕ
  deriving DecidableEq, Repr

/-- The deliveries of a channel, its rows of `chat_event_dedup`, and the logs of what was started and
of what was taken for a duplicate. -/
structure State where
  deliveries : List Delivery := []
  rows : List Row := []
  turns : List Turn := []
  duplicates : List Duplicate := []

/-- A coroutine gets to another point. -/
def State.setPhase (s : State) (i message : ℕ) (phase : Phase) : State :=
  { s with deliveries := s.deliveries.set i ⟨message, phase⟩ }

/-! ## Steps -/

/-- What happens next: a message is delivered, or the coroutine of a delivery makes its check, starts a
turn, records it, or is over (it returns, raises or is cancelled). -/
inductive Action
  | deliver (message : ℕ)
  | check (i : ℕ)
  | start (i : ℕ)
  | mark (i : ℕ)
  | stop (i : ℕ)
  deriving Repr

/-- A row that the query of `is_duplicate_event` finds. -/
def Row.found (row : Row) (e : Event) : Bool :=
  row.eventType == e.eventType &&
    ((e.eventId != [] && row.eventId == e.eventId) ||
      (e.messageId != [] && row.messageId == e.messageId))

/-- **`is_duplicate_event`**. -/
def isDuplicateEvent (rows : List Row) (e : Event) : Bool :=
  if e.eventId = [] ∧ e.messageId = [] then false else rows.any (·.found e)

/-- **`mark_event_processed`**. -/
def markEventProcessed (rows : List Row) (message : ℕ) (e : Event) : List Row :=
  if isDuplicateEvent rows e then rows
  else rows ++ [⟨e.eventId, e.messageId, e.eventType, message⟩]

/-- The Weixin messages come through a queue with one consumer. -/
def Channel.isQueued : Channel → Bool
  | .weixin => true
  | .feishu | .dingtalk => false

/-- The turns of a DingTalk conversation take a lock. -/
def Channel.isLocked : Channel → Bool
  | .dingtalk => true
  | .feishu | .weixin => false

/-- The coroutine is inside the part that takes the lock. -/
def Phase.holdsLock : Phase → Bool
  | .inTurn | .replying => true
  | .received | .checked _ | .over => false

section

variable (py : Python) (ch : Channel) (sent : ℕ → Json)

/-- The event that the handler reads from a message, if it is to be answered. -/
def eventOf (message : ℕ) : Option Event := (ch.event? py (sent message)).join

/-- All earlier deliveries are over, so that the consumer of the queue comes to this one. -/
def atHead (s : State) (i : ℕ) : Bool :=
  ! ch.isQueued || (s.deliveries.take i).all (·.phase = .over)

/-- No other coroutine is inside the lock of the event. -/
def lockFree (s : State) (e : Event) : Bool :=
  ! ch.isLocked || s.deliveries.all fun d =>
    ! (d.phase.holdsLock && (eventOf py ch sent d.message).any (·.lockKey == e.lockKey))

/-- **One step** of one of the coroutines of a channel. -/
def step (s : State) : Action → Option State
  | .deliver message => some { s with deliveries := s.deliveries ++ [⟨message, .received⟩] }
  | .check i =>
    match s.deliveries[i]? with
    | some ⟨message, .received⟩ =>
      if atHead ch s i then
        match eventOf py ch sent message with
        | some e =>
          if isDuplicateEvent s.rows e then
            let found := (s.rows.filter (·.found e)).map (·.message)
            some { s.setPhase i message .over with
              duplicates := s.duplicates ++ [⟨message, found⟩] }
          else some (s.setPhase i message (.checked s.rows.length))
        | none => some (s.setPhase i message .over)
      else none
    | _ => none
  | .start i =>
    match s.deliveries[i]? with
    | some ⟨message, .checked _⟩ =>
      match eventOf py ch sent message with
      | some e =>
        if lockFree py ch sent s e then
          some { s.setPhase i message .inTurn with turns := s.turns ++ [⟨message, e.start⟩] }
        else none
      | none => none
    | _ => none
  | .mark i =>
    match s.deliveries[i]? with
    | some ⟨message, .inTurn⟩ =>
      match eventOf py ch sent message with
      | some e =>
        some { s.setPhase i message .replying with rows := markEventProcessed s.rows message e }
      | none => none
    | _ => none
  | .stop i =>
    match s.deliveries[i]? with
    | some ⟨message, _⟩ => some (s.setPhase i message .over)
    | none => none

/-! ## Exactly once -/

/-- What makes messages different: their ids, or, without an id, that they were sent separately. -/
inductive Identity
  | id (messageId : Text)
  | sent (message : ℕ)
  deriving DecidableEq, Repr

/-- The identity of a message. -/
def identity (message : ℕ) : Identity :=
  match eventOf py ch sent message with
  | some e => if e.messageId = [] then .sent message else .id e.messageId
  | none => .sent message

/-- **Exactly once**: no message has started two turns, and what was taken for a duplicate of a message
is that message. -/
structure ExactlyOnce (s : State) : Prop where
  once : (s.turns.map (identity py ch sent ·.message)).Nodup
  own : ∀ d ∈ s.duplicates, ∀ message ∈ d.foundMessages,
    identity py ch sent message = identity py ch sent d.message

/-- The row is of the message and carries an id. -/
def Row.records (row : Row) (message : ℕ) : Prop :=
  identity py ch sent row.message = identity py ch sent message ∧
    (row.eventId ≠ [] ∨ row.messageId ≠ [])

/-- **The condition on a step**: a delivery is checked when no other message is recorded under one of
its ids, and it starts a turn when each earlier turn of its message was recorded under an id at the
time of the check. -/
def Clear (s : State) : Action → Prop
  | .check i => ∀ d ∈ s.deliveries[i]?, ∀ e ∈ eventOf py ch sent d.message,
    ∀ row ∈ s.rows, row.found e → identity py ch sent row.message = identity py ch sent d.message
  | .start i => ∀ d ∈ s.deliveries[i]?, ∀ seen, d.phase = .checked seen →
    ∀ turn ∈ s.turns, identity py ch sent turn.message = identity py ch sent d.message →
      ∃ row ∈ s.rows.take seen, row.records py ch sent d.message
  | .deliver _ | .mark _ | .stop _ => True

end

variable {py : Python} {ch : Channel} {sent : ℕ → Json} {s t : State} {i : ℕ}

/-! ## What a step does -/

/-- The query finds a duplicate just if there is a row that it finds. -/
theorem isDuplicateEvent_eq (rows : List Row) (e : Event) :
    isDuplicateEvent rows e = rows.any (·.found e) := by
  unfold isDuplicateEvent
  split
  · rename_i hids
    have hfound : ∀ row : Row, row.found e = false := by
      intro row
      simp [Row.found, hids.1, hids.2]
    simp [hfound]
  · rfl

theorem check_spec (h : step py ch sent s (.check i) = some t) :
    ∃ message, s.deliveries[i]? = some ⟨message, .received⟩ ∧
      ((eventOf py ch sent message = none ∧ t = s.setPhase i message .over) ∨
      ∃ e, eventOf py ch sent message = some e ∧
        ((s.rows.any (·.found e) = true ∧
          t = { s.setPhase i message .over with
            duplicates :=
              s.duplicates ++ [⟨message, (s.rows.filter (·.found e)).map (·.message)⟩] }) ∨
        (s.rows.any (·.found e) = false ∧
          t = s.setPhase i message (.checked s.rows.length)))) := by
  rw [step] at h
  split at h
  · rename_i message hi
    refine ⟨message, hi, ?_⟩
    split at h
    · split at h
      · rename_i e he
        refine .inr ⟨e, he, ?_⟩
        rw [isDuplicateEvent_eq] at h
        split at h
        · rename_i hdup
          exact .inl ⟨hdup, (Option.some.inj h).symm⟩
        · rename_i hdup
          exact .inr ⟨Bool.not_eq_true _ ▸ hdup, (Option.some.inj h).symm⟩
      · rename_i he
        exact .inl ⟨he, (Option.some.inj h).symm⟩
    · cases h
  · cases h

theorem start_spec (h : step py ch sent s (.start i) = some t) :
    ∃ message seen e, s.deliveries[i]? = some ⟨message, .checked seen⟩ ∧
      eventOf py ch sent message = some e ∧
      t = { s.setPhase i message .inTurn with turns := s.turns ++ [⟨message, e.start⟩] } := by
  rw [step] at h
  split at h
  · rename_i message seen hi
    split at h
    · rename_i e he
      split at h
      · exact ⟨message, seen, e, hi, he, (Option.some.inj h).symm⟩
      · cases h
    · cases h
  · cases h

theorem mark_spec (h : step py ch sent s (.mark i) = some t) :
    ∃ message e, s.deliveries[i]? = some ⟨message, .inTurn⟩ ∧
      eventOf py ch sent message = some e ∧
      t = { s.setPhase i message .replying with rows := markEventProcessed s.rows message e } := by
  rw [step] at h
  split at h
  · rename_i message hi
    split at h
    · rename_i e he
      exact ⟨message, e, hi, he, (Option.some.inj h).symm⟩
    · cases h
  · cases h

theorem stop_spec (h : step py ch sent s (.stop i) = some t) :
    ∃ message, t = s.setPhase i message .over := by
  rw [step] at h
  split at h
  · rename_i message _ _
    exact ⟨message, (Option.some.inj h).symm⟩
  · cases h

/-! ## The invariant -/

/-- What a row says of its message. -/
def Row.Honest (py : Python) (ch : Channel) (sent : ℕ → Json) (row : Row) : Prop :=
  ∃ e, eventOf py ch sent row.message = some e ∧
    row.eventId = e.eventId ∧ row.messageId = e.messageId ∧ row.eventType = e.eventType

/-- A delivery that was checked: the first rows, those at the time of the check, have none of its ids. -/
def Delivery.Unknown (py : Python) (ch : Channel) (sent : ℕ → Json) (rows : List Row)
    (d : Delivery) : Prop :=
  ∀ seen, d.phase = .checked seen → seen ≤ rows.length ∧
    ∀ e, eventOf py ch sent d.message = some e → (rows.take seen).any (·.found e) = false

/-- **The invariant**: exactly once so far, the rows tell of their messages, and the deliveries on their
way were checked. -/
structure Consistent (py : Python) (ch : Channel) (sent : ℕ → Json) (s : State) : Prop where
  exactlyOnce : ExactlyOnce py ch sent s
  honest : ∀ row ∈ s.rows, row.Honest py ch sent
  unknown : ∀ d ∈ s.deliveries, d.Unknown py ch sent s.rows

theorem eventType_of_eventOf {message : ℕ} {e : Event} (h : eventOf py ch sent message = some e) :
    e.eventType = ch.eventType :=
  Channel.eventType_of (Option.join_eq_some_iff.mp h)

/-- **A recorded message is found**: a row of a message with an id is found for every delivery of it. -/
theorem found_of_records {row : Row} {message : ℕ} {e : Event} (hrow : row.Honest py ch sent)
    (he : eventOf py ch sent message = some e) (h : row.records py ch sent message) :
    row.found e = true := by
  obtain ⟨e', he', heventId, hmessageId, heventType⟩ := hrow
  obtain ⟨hidentity, hids⟩ := h
  have htype : row.eventType = e.eventType := by
    rw [heventType, eventType_of_eventOf he', eventType_of_eventOf he]
  simp only [identity, he, he'] at hidentity
  by_cases hid : e.messageId = []
  · -- without an id, the row is of the very same message
    rw [if_pos hid] at hidentity
    split at hidentity
    · cases hidentity
      rename_i hid'
      rw [he, Option.some_inj] at he'
      subst he'
      have heventIdNe : e.eventId ≠ [] := by
        rw [← heventId]
        exact hids.resolve_right (not_not.mpr (hmessageId.trans hid))
      simp [Row.found, htype, heventId, heventIdNe]
    · cases hidentity
  · rw [if_neg hid] at hidentity
    split at hidentity
    · cases hidentity
    · rw [Identity.id.injEq] at hidentity
      simp [Row.found, htype, hmessageId, hidentity, hid]

namespace Delivery

/-- A coroutine that is not between its check and its turn. -/
theorem unknown_of_ne {rows : List Row} {d : Delivery} (h : ∀ seen, d.phase ≠ .checked seen) :
    d.Unknown py ch sent rows :=
  fun seen hseen => absurd hseen (h seen)

/-- The check of a delivery stands when rows are added. -/
theorem Unknown.append {rows : List Row} {d : Delivery} (h : d.Unknown py ch sent rows)
    (more : List Row) : d.Unknown py ch sent (rows ++ more) := by
  intro seen hseen
  obtain ⟨hle, hnone⟩ := h seen hseen
  rw [List.length_append, List.take_append_of_le_length hle]
  exact ⟨hle.trans (Nat.le_add_right _ _), hnone⟩

end Delivery

/-- Moving one coroutine on keeps what is known of the others. -/
theorem unknown_setPhase {message : ℕ} {phase : Phase}
    (h : ∀ d ∈ s.deliveries, d.Unknown py ch sent s.rows)
    (hnew : Delivery.Unknown py ch sent s.rows ⟨message, phase⟩) :
    ∀ d ∈ (s.setPhase i message phase).deliveries, d.Unknown py ch sent s.rows := by
  intro d hd
  obtain hold | rfl := List.mem_or_eq_of_mem_set hd
  · exact h d hold
  · exact hnew

/-- What `mark_event_processed` adds. -/
theorem markEventProcessed_eq (rows : List Row) (message : ℕ) (e : Event) :
    ∃ more, markEventProcessed rows message e = rows ++ more ∧
      ∀ row ∈ more, row = ⟨e.eventId, e.messageId, e.eventType, message⟩ := by
  unfold markEventProcessed
  split
  · exact ⟨[], (List.append_nil _).symm, List.forall_mem_nil _⟩
  · exact ⟨_, rfl, fun row hrow => List.mem_singleton.mp hrow⟩

/-- **A step that leads to a good state keeps the invariant.** -/
theorem consistent_step {a : Action} (hI : Consistent py ch sent s)
    (h : step py ch sent s a = some t) (hgood : ExactlyOnce py ch sent t) :
    Consistent py ch sent t := by
  cases a with
  | deliver message =>
    cases h
    refine ⟨hgood, hI.honest, ?_⟩
    intro d hd
    obtain hold | hnew := List.mem_append.mp hd
    · exact hI.unknown d hold
    · rw [List.mem_singleton.mp hnew]
      exact Delivery.unknown_of_ne (by simp)
  | check i =>
    obtain ⟨message, -, ⟨-, rfl⟩ | ⟨e, he, ⟨-, rfl⟩ | ⟨hnone, rfl⟩⟩⟩ := check_spec h
    · exact ⟨hgood, hI.honest, unknown_setPhase hI.unknown (Delivery.unknown_of_ne (by simp))⟩
    · exact ⟨hgood, hI.honest, unknown_setPhase hI.unknown (Delivery.unknown_of_ne (by simp))⟩
    · refine ⟨hgood, hI.honest, unknown_setPhase hI.unknown ?_⟩
      -- the query has gone through all rows that there are
      rintro seen ⟨⟩
      refine ⟨le_rfl, fun e' he' => ?_⟩
      rw [he, Option.some_inj] at he'
      rw [List.take_length, ← he']
      exact hnone
  | start i =>
    obtain ⟨message, seen, e, -, -, rfl⟩ := start_spec h
    exact ⟨hgood, hI.honest, unknown_setPhase hI.unknown (Delivery.unknown_of_ne (by simp))⟩
  | mark i =>
    obtain ⟨message, e, -, he, rfl⟩ := mark_spec h
    obtain ⟨more, hrows, hmore⟩ := markEventProcessed_eq s.rows message e
    rw [hrows] at hgood ⊢
    refine ⟨hgood, ?_, ?_⟩
    · intro row hrow
      obtain hold | hnew := List.mem_append.mp hrow
      · exact hI.honest row hold
      · rw [hmore row hnew]
        exact ⟨e, he, rfl, rfl, rfl⟩
    · intro d hd
      have hkeep : ∀ d ∈ (s.setPhase i message .replying).deliveries, d.Unknown py ch sent s.rows :=
        unknown_setPhase hI.unknown (Delivery.unknown_of_ne (by simp))
      exact (hkeep d hd).append more
  | stop i =>
    obtain ⟨message, rfl⟩ := stop_spec h
    exact ⟨hgood, hI.honest, unknown_setPhase hI.unknown (Delivery.unknown_of_ne (by simp))⟩

/-! ## The condition is exact -/

/-- **A check is right** just if what it finds is the message itself. -/
theorem exactlyOnce_check_iff (hI : Consistent py ch sent s)
    (h : step py ch sent s (.check i) = some t) :
    ExactlyOnce py ch sent t ↔ Clear py ch sent s (.check i) := by
  obtain ⟨message, hi, hcases⟩ := check_spec h
  have hclear : Clear py ch sent s (.check i) ↔ ∀ e, eventOf py ch sent message = some e →
      ∀ row ∈ s.rows, row.found e → identity py ch sent row.message = identity py ch sent message := by
    simp [Clear, hi]
  rw [hclear]
  obtain ⟨he, rfl⟩ | ⟨e, he, ⟨-, rfl⟩ | ⟨hnone, rfl⟩⟩ := hcases
  · refine ⟨fun _ e he' => ?_, fun _ => ⟨hI.exactlyOnce.once, hI.exactlyOnce.own⟩⟩
    rw [he] at he'
    cases he'
  · constructor
    · intro hgood e' he' row hrow hfound
      rw [he, Option.some_inj] at he'
      subst he'
      refine hgood.own _ (List.mem_append_right _ List.mem_cons_self) row.message ?_
      exact List.mem_map_of_mem (List.mem_filter.mpr ⟨hrow, hfound⟩)
    · intro hown
      refine ⟨hI.exactlyOnce.once, fun d hd => ?_⟩
      obtain hold | hnew := List.mem_append.mp hd
      · exact hI.exactlyOnce.own d hold
      · rw [List.mem_singleton.mp hnew]
        intro found hfound
        obtain ⟨row, hrow, rfl⟩ := List.mem_map.mp hfound
        obtain ⟨hmem, hfound⟩ := List.mem_filter.mp hrow
        exact hown e he row hmem hfound
  · refine ⟨fun _ e' he' row hrow hfound => ?_, fun _ => ⟨hI.exactlyOnce.once, hI.exactlyOnce.own⟩⟩
    rw [he, Option.some_inj] at he'
    subst he'
    exact absurd hfound (List.any_eq_false.mp hnone row hrow)

/-- **A start is right** just if the earlier turns of the message had been recorded when the delivery was
checked: the check would have found them, so that there are none. -/
theorem exactlyOnce_start_iff (hI : Consistent py ch sent s)
    (h : step py ch sent s (.start i) = some t) :
    ExactlyOnce py ch sent t ↔ Clear py ch sent s (.start i) := by
  obtain ⟨message, seen, e, hi, he, rfl⟩ := start_spec h
  have hfresh : ExactlyOnce py ch sent
      { s.setPhase i message .inTurn with turns := s.turns ++ [⟨message, e.start⟩] } ↔
      ∀ turn ∈ s.turns, identity py ch sent turn.message ≠ identity py ch sent message := by
    constructor
    · intro hgood turn hturn heq
      have hnodup := hgood.once
      rw [List.map_append, List.nodup_append] at hnodup
      exact hnodup.2.2 _ (List.mem_map_of_mem hturn) _ (List.mem_singleton_self _) heq
    · intro hne
      refine ⟨?_, hI.exactlyOnce.own⟩
      rw [List.map_append, List.nodup_append]
      refine ⟨hI.exactlyOnce.once, List.nodup_singleton _, ?_⟩
      intro x hx y hy
      obtain ⟨turn, hturn, rfl⟩ := List.mem_map.mp hx
      rw [List.mem_singleton.mp hy]
      exact hne turn hturn
  have hclear : Clear py ch sent s (.start i) ↔ ∀ turn ∈ s.turns,
      identity py ch sent turn.message = identity py ch sent message →
        ∃ row ∈ s.rows.take seen, row.records py ch sent message := by
    simp [Clear, hi]
  rw [hfresh, hclear]
  refine ⟨fun hne turn hturn heq => absurd heq (hne turn hturn), fun hrecorded turn hturn heq => ?_⟩
  obtain ⟨row, hrow, hrecords⟩ := hrecorded turn hturn heq
  obtain ⟨-, hnone⟩ := hI.unknown _ (List.mem_of_getElem? hi) seen rfl
  have hfound := found_of_records (hI.honest row (List.mem_of_mem_take hrow)) he hrecords
  exact List.any_eq_false.mp (hnone e he) row hrow hfound

/-- **A step is right** just if the condition holds. -/
theorem exactlyOnce_step_iff {a : Action} (hI : Consistent py ch sent s)
    (h : step py ch sent s a = some t) : ExactlyOnce py ch sent t ↔ Clear py ch sent s a := by
  cases a with
  | deliver message =>
    cases h
    exact ⟨fun _ => trivial, fun _ => ⟨hI.exactlyOnce.once, hI.exactlyOnce.own⟩⟩
  | check i => exact exactlyOnce_check_iff hI h
  | start i => exact exactlyOnce_start_iff hI h
  | mark i =>
    obtain ⟨message, e, -, -, rfl⟩ := mark_spec h
    exact ⟨fun _ => trivial, fun _ => ⟨hI.exactlyOnce.once, hI.exactlyOnce.own⟩⟩
  | stop i =>
    obtain ⟨message, rfl⟩ := stop_spec h
    exact ⟨fun _ => trivial, fun _ => ⟨hI.exactlyOnce.once, hI.exactlyOnce.own⟩⟩

/-- **Messages are handled exactly once** in a run of the deliveries of a channel just if each turn
starts when the earlier ones of its message were recorded at the time of its check, and each check is
made when no other message is recorded under an id of the one that it is made for. -/
theorem exactlyOnce_iff (py : Python) (ch : Channel) (sent : ℕ → Json) {actions : List Action} :
    Run (step py ch sent) (fun s a => ∃ t ∈ step py ch sent s a, ExactlyOnce py ch sent t) {}
        actions t ↔
      Run (step py ch sent) (Clear py ch sent) {} actions t := by
  refine Run.leadsTo_iff (I := Consistent py ch sent)
    (fun s a t hI h => exactlyOnce_step_iff hI h)
    (fun s a t hI h hgood => consistent_step hI h hgood) ?_
  exact ⟨⟨List.nodup_nil, List.forall_mem_nil _⟩, List.forall_mem_nil _, List.forall_mem_nil _⟩

/-! ## What goes wrong -/

/-- A message that is delivered again while its turn goes on. -/
def redelivered : List Action := [.deliver 0, .check 0, .start 0, .deliver 0, .check 1, .start 1]

/-- A message that is delivered again while its turn goes on, and then waits for the lock of the turn. -/
def redeliveredAtLock : List Action :=
  [.deliver 0, .check 0, .start 0, .deliver 0, .check 1, .mark 0, .stop 0, .start 1]

/-- Two messages, one handled after the other. -/
def oneAfterTheOther : List Action :=
  [.deliver 0, .check 0, .start 0, .mark 0, .stop 0, .deliver 1, .check 1]

/-- The messages of a channel are handled exactly once in every run. -/
def AlwaysExactlyOnce (py : Python) (ch : Channel) : Prop :=
  ∀ (sent : ℕ → Json) (actions : List Action) (t : State),
    Run (step py ch sent) Always {} actions t → ExactlyOnce py ch sent t

/-- The deliveries of copies of one message after some steps. -/
def after (ch : Channel) (message : Json) (actions : List Action) : State :=
  (exec (step messagesPython ch fun _ => message) Always {} actions).getD {}

/-- **No channel handles its messages exactly once.** A Feishu message that is delivered again while its
turn goes on starts a second turn, and so does a DingTalk message that waits for the lock of its first
turn; two Weixin messages without an id are taken for one where they say the same. -/
theorem not_alwaysExactlyOnce :
    ¬ AlwaysExactlyOnce messagesPython .feishu ∧ ¬ AlwaysExactlyOnce messagesPython .dingtalk ∧
      ¬ AlwaysExactlyOnce messagesPython .weixin := by
  refine ⟨fun h => ?_, fun h => ?_, fun h => ?_⟩
  · have hgood := h (fun _ => feishuMessage) redelivered (after .feishu feishuMessage redelivered)
      (.of_isSome (by decide))
    exact absurd hgood.once (by decide)
  · have hgood := h (fun _ => dingtalkMessage) redeliveredAtLock
      (after .dingtalk dingtalkMessage redeliveredAtLock) (.of_isSome (by decide))
    exact absurd hgood.once (by decide)
  · have hgood := h (fun _ => weixinMessage) oneAfterTheOther
      (after .weixin weixinMessage oneAfterTheOther) (.of_isSome (by decide))
    have hdropped : (⟨1, [0]⟩ : Duplicate) ∈
        (after .weixin weixinMessage oneAfterTheOther).duplicates := by decide
    have hsame := hgood.own _ hdropped 0 (by decide)
    exact absurd hsame (by decide)

end DBClaw.Bots
