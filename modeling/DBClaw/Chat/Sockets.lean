import DBClaw.Library.Runs
import Mathlib

/-! # Sockets of a page
`WSManager` keeps one WebSocket for a page and connects again when it closes, five times at most and after a delay that
doubles. Timers and old sockets go on when the page has disconnected or has connected again. `managed_of_run` says that
no run has two live sockets, and how often it connects by itself. -/

namespace DBClaw.WebSockets

open Runs

/-- `readyState`. -/
inductive ReadyState
  | connecting | open | closing | closed
  deriving DecidableEq, Repr

/-- The socket is connecting or open. -/
def ReadyState.isLive : ReadyState → Bool
  | .connecting | .open => true
  | .closing | .closed => false

/-- `maxReconnectAttempts`. -/
def maxReconnectAttempts : ℕ := 5

/-- `reconnectDelay`, in milliseconds. -/
def reconnectDelay : ℕ := 2000

/-- `Math.min(this.reconnectDelay * Math.pow(2, this.reconnectAttempts - 1), 32000)`. -/
def delay (reconnectAttempts : ℕ) : ℕ := min (reconnectDelay * 2 ^ (reconnectAttempts - 1)) 32000

/-- The manager, its sockets by number, the delays of its timers that are not over, and how many it has set. -/
structure State where
  ws : Option ℕ := none
  reconnectAttempts : ℕ := 0
  shouldReconnect : Bool := true
  sockets : ℕ → ReadyState := fun _ => .closed
  created : ℕ := 0
  timers : List ℕ := []
  timersSet : ℕ := 0

namespace State

variable (s : State)

/-- The state of the current socket. -/
def current : Option ReadyState := s.ws.map s.sockets

/-- **`connect`.** -/
def connect : State :=
  if s.current.any ReadyState.isLive then s
  else
    { s with
      ws := some s.created
      sockets := Function.update s.sockets s.created .connecting
      created := s.created + 1 }

/-- `ws.close()`. -/
def close (i : ℕ) : State :=
  if (s.sockets i).isLive then { s with sockets := Function.update s.sockets i .closing } else s

/-- **`disconnect`.** -/
def disconnect : State :=
  match s.ws with
  | some i => { ({ s with shouldReconnect := false } : State).close i with ws := none }
  | none => { s with shouldReconnect := false }

/-- What the listeners of an event may do. -/
inductive Call
  | connect | disconnect
  deriving DecidableEq, Repr

/-- A call of the manager. -/
def call (s : State) : Call → State
  | .connect => s.connect
  | .disconnect => s.disconnect

/-- `_emit`. -/
def emit (calls : List Call) : State := calls.foldl call s

/-- A timer is set. -/
def reconnectLater : State :=
  if s.shouldReconnect ∧ s.reconnectAttempts < maxReconnectAttempts then
    { s with
      reconnectAttempts := s.reconnectAttempts + 1
      timers := s.timers ++ [delay (s.reconnectAttempts + 1)]
      timersSet := s.timersSet + 1 }
  else s

end State

/-- What happens: the page calls the manager, a socket opens or closes while listeners call the manager, or a timer is
over. -/
inductive Label
  | call (call : State.Call)
  | opened (i : ℕ) (calls : List State.Call)
  | closed (i : ℕ) (calls : List State.Call)
  | timer (i : ℕ)
  deriving DecidableEq, Repr

/-- A step. A socket opens once, while it is connecting, and closes once. -/
def step (s : State) : Label → Option State
  | .call call => some (s.call call)
  | .opened i calls =>
    if s.sockets i = .connecting then
      some (({ s with sockets := Function.update s.sockets i .open, reconnectAttempts := 0 } : State).emit calls)
    else none
  | .closed i calls =>
    if s.sockets i = .closed then none
    else some ((({ s with sockets := Function.update s.sockets i .closed } : State).emit calls).reconnectLater)
  | .timer i =>
    if i < s.timers.length then some ({ s with timers := s.timers.eraseIdx i } : State).connect else none

/-- **What a manager keeps**: a live socket is the current one, there is no socket that has not been made, and every
timer is one of the five. -/
structure Managed (s : State) : Prop where
  live : ∀ i, (s.sockets i).isLive = true → s.ws = some i
  fresh : ∀ i, s.created ≤ i → s.sockets i = .closed
  attempts : s.reconnectAttempts ≤ maxReconnectAttempts
  timers : ∀ d ∈ s.timers, ∃ n, 1 ≤ n ∧ n ≤ maxReconnectAttempts ∧ d = delay n

namespace Managed

variable {s t : State}

theorem connect (h : Managed s) : Managed s.connect := by
  unfold State.connect
  split_ifs with hlive
  · exact h
  · refine ⟨fun i hi => ?_, fun i hi => ?_, h.attempts, h.timers⟩
    · by_cases hnew : i = s.created
      · rw [hnew]
      · -- a live socket would be the current one
        dsimp only at hi
        rw [Function.update_of_ne hnew] at hi
        rw [State.current, h.live i hi] at hlive
        exact absurd hi hlive
    · have hne : i ≠ s.created := Nat.ne_of_gt hi
      dsimp only
      rw [Function.update_of_ne hne]
      exact h.fresh i ((Nat.le_succ _).trans hi)

/-- A socket that leaves the live ones. -/
theorem update (h : Managed s) {i : ℕ} {r : ReadyState} (hr : r.isLive = false) (hi : i < s.created) :
    Managed { s with sockets := Function.update s.sockets i r } := by
  refine ⟨fun j hj => ?_, fun j hj => ?_, h.attempts, h.timers⟩
  · by_cases hji : j = i
    · dsimp only at hj
      rw [hji, Function.update_self, hr] at hj
      cases hj
    · dsimp only at hj
      rw [Function.update_of_ne hji] at hj
      exact h.live j hj
  · have hne : j ≠ i := Nat.ne_of_gt (hi.trans_le hj)
    dsimp only
    rw [Function.update_of_ne hne]
    exact h.fresh j hj

/-- A socket that is not closed has been made. -/
theorem lt_created (h : Managed s) {i : ℕ} (hi : s.sockets i ≠ .closed) : i < s.created := by
  by_contra hle
  exact hi (h.fresh i (not_lt.mp hle))

theorem disconnect (h : Managed s) : Managed s.disconnect := by
  unfold State.disconnect
  split
  next i hws =>
    -- no socket is live once the current one closes
    unfold State.close
    dsimp only
    split_ifs with hlive
    · have hclosing := h.update (i := i) (r := .closing) rfl
        (h.lt_created fun hclosed => by rw [hclosed] at hlive; cases hlive)
      refine ⟨fun j hj => ?_, hclosing.fresh, h.attempts, h.timers⟩
      have hji : i = j := Option.some.inj (hws.symm.trans (hclosing.live j hj))
      dsimp only at hj
      rw [hji, Function.update_self] at hj
      cases hj
    · refine ⟨fun j hj => ?_, h.fresh, h.attempts, h.timers⟩
      have hji : i = j := Option.some.inj (hws.symm.trans (h.live j hj))
      exact absurd (hji ▸ hj) hlive
  next => exact ⟨h.live, h.fresh, h.attempts, h.timers⟩

theorem call (h : Managed s) (call : State.Call) : Managed (s.call call) := by
  cases call with
  | connect => exact h.connect
  | disconnect => exact h.disconnect

theorem emit (h : Managed s) (calls : List State.Call) : Managed (s.emit calls) := by
  induction calls generalizing s with
  | nil => exact h
  | cons call calls ih => exact ih (h.call call)

theorem reconnectLater (h : Managed s) : Managed s.reconnectLater := by
  unfold State.reconnectLater
  split_ifs with hlater
  · refine ⟨h.live, h.fresh, hlater.2, fun d hd => ?_⟩
    rcases List.mem_append.mp hd with hd | hd
    · exact h.timers d hd
    · exact ⟨s.reconnectAttempts + 1, Nat.le_add_left _ _, hlater.2, List.mem_singleton.mp hd⟩
  · exact h

theorem step {label : Label} (h : Managed s) (hstep : WebSockets.step s label = some t) : Managed t := by
  cases label with
  | call call =>
    cases hstep
    exact h.call call
  | opened i calls =>
    rw [WebSockets.step] at hstep
    split_ifs at hstep with hconnecting
    cases hstep
    have hlive : (s.sockets i).isLive = true := by
      rw [hconnecting]
      rfl
    refine Managed.emit (s := { s with sockets := Function.update s.sockets i .open, reconnectAttempts := 0 })
      ⟨fun j hj => ?_, fun j hj => ?_, Nat.zero_le _, h.timers⟩ calls
    · by_cases hji : j = i
      · rw [hji]
        exact h.live i hlive
      · dsimp only at hj
        rw [Function.update_of_ne hji] at hj
        exact h.live j hj
    · have hlt : i < s.created := h.lt_created fun hclosed => by
        rw [hclosed] at hconnecting
        cases hconnecting
      have hne : j ≠ i := Nat.ne_of_gt (hlt.trans_le hj)
      dsimp only
      rw [Function.update_of_ne hne]
      exact h.fresh j hj
  | closed i calls =>
    rw [WebSockets.step] at hstep
    split_ifs at hstep with hclosed
    cases hstep
    exact ((h.update (r := .closed) rfl (h.lt_created hclosed)).emit calls).reconnectLater
  | timer i =>
    rw [WebSockets.step] at hstep
    split_ifs at hstep
    cases hstep
    refine Managed.connect ⟨h.live, h.fresh, h.attempts, fun d hd => ?_⟩
    exact h.timers d (List.mem_of_mem_eraseIdx hd)

end Managed

/-! ## Timers -/

variable {s t : State}

/-- Calls of the manager set no timers, and once it has disconnected it stays so. -/
structure Quiet (s t : State) : Prop where
  timersSet : t.timersSet = s.timersSet
  attempts : t.reconnectAttempts = s.reconnectAttempts
  off : s.shouldReconnect = false → t.shouldReconnect = false

theorem Quiet.connect (s : State) : Quiet s s.connect := by
  unfold State.connect
  split_ifs
  · exact ⟨rfl, rfl, id⟩
  · exact ⟨rfl, rfl, id⟩

theorem Quiet.disconnect (s : State) : Quiet s s.disconnect := by
  unfold State.disconnect State.close
  split
  · dsimp only
    split_ifs
    · exact ⟨rfl, rfl, fun _ => rfl⟩
    · exact ⟨rfl, rfl, fun _ => rfl⟩
  · exact ⟨rfl, rfl, fun _ => rfl⟩

theorem Quiet.emit (s : State) (calls : List State.Call) : Quiet s (s.emit calls) := by
  induction calls generalizing s with
  | nil => exact ⟨rfl, rfl, id⟩
  | cons call calls ih =>
    have hcall : Quiet s (s.call call) := by
      cases call with
      | connect => exact .connect s
      | disconnect => exact .disconnect s
    have hrest := ih (s.call call)
    exact ⟨hrest.timersSet.trans hcall.timersSet, hrest.attempts.trans hcall.attempts, fun h => hrest.off (hcall.off h)⟩

/-- No socket opens. -/
def Label.KeepsShut : Label → Prop
  | .opened .. => False
  | _ => True

/-- **While no socket opens** every timer that is set is an attempt. -/
theorem timersSet_step {label : Label} (hlabel : label.KeepsShut) (hstep : step s label = some t) :
    t.timersSet + s.reconnectAttempts = s.timersSet + t.reconnectAttempts := by
  have hquiet {t : State} (h : Quiet s t) : t.timersSet + s.reconnectAttempts = s.timersSet + t.reconnectAttempts := by
    rw [h.timersSet, h.attempts]
  cases label with
  | call call =>
    cases hstep
    exact hquiet (.emit s [call])
  | opened i calls => exact hlabel.elim
  | closed i calls =>
    rw [step] at hstep
    split_ifs at hstep
    cases hstep
    -- the listeners are called before the timer is set
    have h := Quiet.emit ({ s with sockets := Function.update s.sockets i .closed } : State) calls
    have hsame := hquiet ⟨h.timersSet, h.attempts, h.off⟩
    unfold State.reconnectLater
    split_ifs
    · dsimp only
      omega
    · exact hsame
  | timer i =>
    rw [step] at hstep
    split_ifs at hstep
    cases hstep
    have h := Quiet.connect ({ s with timers := s.timers.eraseIdx i } : State)
    exact hquiet ⟨h.timersSet, h.attempts, h.off⟩

/-- **After the page has disconnected** no timer is set. -/
theorem off_step {label : Label} (hoff : s.shouldReconnect = false) (hstep : step s label = some t) :
    t.shouldReconnect = false ∧ t.timersSet = s.timersSet := by
  cases label with
  | call call =>
    cases hstep
    have h := Quiet.emit s [call]
    exact ⟨h.off hoff, h.timersSet⟩
  | opened i calls =>
    rw [step] at hstep
    split_ifs at hstep
    cases hstep
    have h := Quiet.emit ({ s with
      sockets := Function.update s.sockets i .open, reconnectAttempts := 0 } : State) calls
    exact ⟨h.off hoff, h.timersSet⟩
  | closed i calls =>
    rw [step] at hstep
    split_ifs at hstep
    cases hstep
    have h := Quiet.emit ({ s with sockets := Function.update s.sockets i .closed } : State) calls
    have hlater : State.reconnectLater (State.emit { s with sockets := Function.update s.sockets i .closed } calls) =
        State.emit { s with sockets := Function.update s.sockets i .closed } calls :=
      if_neg fun hand => by
        rw [h.off hoff] at hand
        cases hand.1
    rw [hlater]
    exact ⟨h.off hoff, h.timersSet⟩
  | timer i =>
    rw [step] at hstep
    split_ifs at hstep
    cases hstep
    have h := Quiet.connect ({ s with timers := s.timers.eraseIdx i } : State)
    exact ⟨h.off hoff, h.timersSet⟩

/-! ## Runs -/

theorem managed_start : Managed {} where
  live i hi := by cases hi
  fresh i _ := rfl
  attempts := Nat.zero_le _
  timers d hd := by cases hd

theorem timersSet_run {labels : List Label} (hrun : Run step (fun _ label => label.KeepsShut) s labels t) :
    t.timersSet + s.reconnectAttempts = s.timersSet + t.reconnectAttempts := by
  induction hrun with
  | nil => rfl
  | cons hlabel hstep _ ih =>
    have hfirst := timersSet_step hlabel hstep
    omega

theorem off_run {labels : List Label} (hoff : s.shouldReconnect = false) (hrun : Run step Always s labels t) :
    t.timersSet = s.timersSet := by
  induction hrun with
  | nil => rfl
  | cons _ hstep _ ih =>
    obtain ⟨hoff', htimers⟩ := off_step hoff hstep
    exact (ih hoff').trans htimers

/-- **A page has one socket**: in every run, whatever the order of calls of the manager, also by the listeners of its
events, of sockets that open and close, and of timers, at most one socket is live; it connects by itself at most five
times until a socket opens, each time after at most 32 seconds; and it sets no timer any more once the page has
disconnected. -/
theorem managed_of_run {labels : List Label} (hrun : Run step Always {} labels s) :
    (∀ i j, (s.sockets i).isLive = true → (s.sockets j).isLive = true → i = j) ∧ (∀ d ∈ s.timers, d ≤ 32000) ∧
      (∀ labels' t, Run step (fun _ label => label.KeepsShut) s labels' t → t.timersSet ≤ s.timersSet + 5) ∧
      (s.shouldReconnect = false → ∀ labels' t, Run step Always s labels' t → t.timersSet = s.timersSet) := by
  have hmanaged {t : State} {labels : List Label} {allowed : State → Label → Prop} (h : Managed s)
      (hrun : Run step allowed s labels t) : Managed t := hrun.invariant (fun _ _ _ h _ hstep => h.step hstep) h
  have hs : Managed s := hrun.invariant (fun _ _ _ h _ hstep => h.step hstep) managed_start
  refine ⟨fun i j hi hj => ?_, fun d hd => ?_, fun labels' t hrun' => ?_, fun hoff labels' t hrun' => off_run hoff hrun'⟩
  · exact Option.some.inj ((hs.live i hi).symm.trans (hs.live j hj))
  · obtain ⟨n, -, -, rfl⟩ := hs.timers d hd
    exact min_le_right _ _
  · have hattempts : t.reconnectAttempts ≤ 5 := (hmanaged hs hrun').attempts
    have hcount := timersSet_run hrun'
    omega

/-- A page that connects, is cut off and disconnects. -/
theorem cutOff_managed :
    ((({ (({} : State).connect) with sockets := Function.update ({} : State).connect.sockets 0 .closed } :
      State).reconnectLater).disconnect).shouldReconnect = false ∧
      ∀ d ∈ ((({ (({} : State).connect) with sockets := Function.update ({} : State).connect.sockets 0 .closed } :
        State).reconnectLater).disconnect).timers, d ≤ 32000 :=
  have hrun : Run step Always {} [.call .connect, .closed 0 [], .call .disconnect] _ :=
    .cons trivial rfl (.cons trivial rfl (.cons trivial rfl (.nil _)))
  ⟨rfl, (managed_of_run hrun).2.1⟩

end DBClaw.WebSockets
