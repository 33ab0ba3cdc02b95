import DBClaw.Library.Registry
import DBClaw.Library.Runs
import Mathlib.Algebra.Order.Group.Unbundled.Basic
import Mathlib.Algebra.Order.Ring.Rat
import Mathlib.Data.Rat.Defs

/-! # The pool of SSH connections
`SSHConnectionPool` keeps one connection a host. The health loop goes through a snapshot of the table; it tests
whether a connection is idle before it waits for the lock of the host, and with the lock it closes what the
snapshot has and deletes what the table has. `safe_of_run` says when this is the same, and nobody uses it. -/

namespace DBClaw.Hosts

open Registries Runs

/-! ## The pool -/

abbrev HostId := ℕ

/-- `SSHConnection`, with whether its client has been closed. -/
structure Connection where
  hostId : HostId
  lastUsed : ℚ
  isHealthy : Bool := true
  closed : Bool := false
  deriving DecidableEq

/-- A user: at the lock of a host in `_acquire_connection`, with the lock while a connection is created, inside
`get_connection` or `get_collector_connection`, or gone. -/
inductive User
  | waiting (host : HostId)
  | creating (host : HostId)
  | inside (conn : ℕ)
  | gone
  deriving DecidableEq

/-- `_health_check_loop`, with what is left of its pass. -/
inductive Loop
  | sleeping
  | passing (items : List (HostId × ℕ))
  /-- At the lock of a host whose connection is expired. -/
  | waiting (host : HostId) (conn : ℕ) (items : List (HostId × ℕ))
  | checking (conn : ℕ) (items : List (HostId × ℕ))
  deriving DecidableEq

/-- The idle clean-up of a connection: for how long it has not been acquired, whether somebody is inside with it, and
the entry that is deleted. -/
structure CleanUp where
  conn : ℕ
  idle : ℚ
  inUse : Bool
  deleted : Option ℕ
  deriving DecidableEq

/-- The pool: its table, the connections that it has created and its users, by number, the health loop and the time;
and for the record, the idle clean-ups. -/
structure State where
  connections : HostId → Option ℕ := fun _ => none
  conns : List Connection := []
  users : List User := []
  loop : Loop := .sleeping
  now : ℚ := 0
  cleanUps : List CleanUp := []

namespace State

variable (s : State)

def setConn (i : ℕ) (conn : Connection) : State := { s with conns := s.conns.set i conn }

def setUser (u : ℕ) (user : User) : State := { s with users := s.users.set u user }

/-- Somebody creates a connection to the host, and so has its lock. -/
def isLocked (host : HostId) : Bool := s.users.any (· = .creating host)

/-- Somebody is inside with the connection. -/
def inUse (conn : ℕ) : Bool := s.users.any (· = .inside conn)

/-- The health loop waits for the lock of the host. -/
def loopWaits (host : HostId) : Bool :=
  match s.loop with
  | .waiting host' _ _ => host' = host
  | .sleeping | .passing _ | .checking _ _ => false

/-- Nobody has the lock of the host or waits for it. -/
def isFree (host : HostId) : Bool :=
  ! s.isLocked host && ! s.users.any (· = .waiting host) && ! s.loopWaits host

/-- **`_acquire_connection`** with the lock, up to the creation of a connection; the backoff may refuse that. -/
def acquire (u : ℕ) (host : HostId) (backoff : Bool) : State :=
  let creating := if backoff then User.gone else .creating host
  match (s.connections host).bind fun i => s.conns[i]?.map fun conn => (i, conn) with
  | some (i, conn) =>
    if conn.isHealthy then (s.setConn i { conn with lastUsed := s.now }).setUser u (.inside i)
    else (s.setConn i { conn with closed := true }).setUser u creating
  | none => s.setUser u creating

/-- A new connection is registered. -/
def register (u : ℕ) (host : HostId) : State :=
  { s with
    connections := Function.update s.connections host (some s.conns.length)
    conns := s.conns ++ [{ hostId := host, lastUsed := s.now }]
    users := s.users.set u (.inside s.conns.length) }

/-- The idle clean-up with the lock. Where there is nothing to delete, `del` raises and the pass is over. -/
def cleanUp (host : HostId) (i : ℕ) (conn : Connection) (items : List (HostId × ℕ)) : State :=
  { s with
    connections := Function.update s.connections host none
    conns := s.conns.set i { conn with closed := true }
    loop := if (s.connections host).isSome then .passing items else .sleeping
    cleanUps := s.cleanUps ++ [⟨i, s.now - conn.lastUsed, s.inUse i, s.connections host⟩] }

/-- `stop`, as far as the connections. -/
def stop : State :=
  { s with
    connections := fun _ => none
    conns := s.conns.mapIdx fun i conn =>
      if s.connections conn.hostId = some i then { conn with closed := true } else conn }

end State

/-- What happens. -/
inductive Label
  | tick (now : ℚ)
  /-- A new user asks for a connection. -/
  | ask (host : HostId) (backoff : Bool)
  /-- A user that has waited gets the lock. -/
  | enter (u : ℕ) (backoff : Bool)
  /-- The creator returns a connection or `None`. -/
  | created (u : ℕ) (succeeds : Bool)
  /-- A use ends, with an exception or without. -/
  | leave (u : ℕ) (raises : Bool)
  | markUnhealthy (host : HostId)
  /-- The health loop takes its snapshot, in whatever order. -/
  | wakeUp (items : List (HostId × ℕ))
  /-- It comes to its next item. -/
  | examine
  /-- It gets the lock that it has waited for. -/
  | close
  | checked (isHealthy : Bool)

variable (maxIdle : ℚ)

/-- `is_expired`. -/
def Connection.isExpired (conn : Connection) (now : ℚ) : Bool := maxIdle < now - conn.lastUsed

/-- A step of the pool. Those who wait for a lock may get it in any order. -/
def step (s : State) : Label → Option State
  | .tick now => if s.now ≤ now then some { s with now := now } else none
  | .ask host backoff =>
    let asked := { s with users := s.users ++ [.waiting host] }
    if s.isFree host then some (asked.acquire s.users.length host backoff) else some asked
  | .enter u backoff =>
    match s.users[u]? with
    | some (.waiting host) => if s.isLocked host then none else some (s.acquire u host backoff)
    | _ => none
  | .created u succeeds =>
    match s.users[u]? with
    | some (.creating host) => some (if succeeds then s.register u host else s.setUser u .gone)
    | _ => none
  | .leave u raises =>
    match s.users[u]? with
    | some (.inside i) => s.conns[i]?.map fun conn =>
      (s.setConn i { conn with isHealthy := conn.isHealthy && ! raises }).setUser u .gone
    | _ => none
  | .markUnhealthy host => ((s.connections host).bind fun i => s.conns[i]?.map fun conn =>
    s.setConn i { conn with isHealthy := false }).or (some s)
  | .wakeUp items =>
    if s.loop = .sleeping ∧ items.all fun item => s.connections item.1 = some item.2 then
      some { s with loop := .passing items }
    else none
  | .examine =>
    match s.loop with
    | .passing [] => some { s with loop := .sleeping }
    | .passing ((host, i) :: items) => s.conns[i]?.map fun conn =>
      if conn.isExpired maxIdle s.now then
        if s.isFree host then s.cleanUp host i conn items else { s with loop := .waiting host i items }
      else { s with loop := .checking i items }
    | _ => none
  | .close =>
    match s.loop with
    | .waiting host i items =>
      if s.isLocked host then none else s.conns[i]?.map fun conn => s.cleanUp host i conn items
    | _ => none
  | .checked isHealthy =>
    match s.loop with
    | .checking i items => s.conns[i]?.map fun conn =>
      { s.setConn i { conn with isHealthy := conn.isHealthy && isHealthy } with loop := .passing items }
    | _ => none

/-! ## Safety -/

/-- **The pool is safe**: the idle clean-up has closed no connection that was acquired less than the idle time ago
or that somebody used, and has deleted the entry of the connection that it closed; and every connection that is
open is in the table, so that `stop` closes it. -/
structure State.Safe (s : State) : Prop where
  cleanUps : ∀ cleanUp ∈ s.cleanUps,
    maxIdle ≤ cleanUp.idle ∧ cleanUp.inUse = false ∧ cleanUp.deleted = some cleanUp.conn
  tabled : ∀ i conn, s.conns[i]? = some conn → conn.closed = false → s.connections conn.hostId = some i
  stops : ∀ conn ∈ s.stop.conns, conn.closed = true

/-- **The condition on a step**: an expired connection that the health loop comes to is still in the table, one that
it closes is not in use, and while it waits for the lock of a host, no connection of the host is acquired or
created. -/
def Attended (s : State) : Label → Prop
  | .enter u _ => ∀ host i conn, s.users[u]? = some (.waiting host) → s.connections host = some i →
      s.conns[i]? = some conn → conn.isHealthy = true → s.loopWaits host = false
  | .created u succeeds => ∀ host, s.users[u]? = some (.creating host) → succeeds = true →
      s.loopWaits host = false
  | .examine => ∀ host i items conn, s.loop = .passing ((host, i) :: items) → s.conns[i]? = some conn →
      conn.isExpired maxIdle s.now = true →
        s.connections host = some i ∧ (s.isFree host = true → s.inUse i = false)
  | .close => ∀ host i items, s.loop = .waiting host i items → s.inUse i = false
  | _ => True

/-! ## Invariants -/

variable {maxIdle} {s t : State} {i u : ℕ} {host : HostId} {conn conn' : Connection}

/-- The host of a connection that is open. -/
def Connection.openAt (conn : Connection) : Option HostId := if conn.closed then none else some conn.hostId

/-- The host of the connection with this number, where it is open. -/
def State.openAt (s : State) (i : ℕ) : Option HostId := s.conns[i]?.bind Connection.openAt

/-- **What the condition keeps**: every open connection is in the table, and none is open to a host that somebody
creates one for, alone; and what the health loop waits to close is in the table and expired. -/
structure State.Kept (maxIdle : ℚ) (s : State) : Prop where
  cleanUps : ∀ cleanUp ∈ s.cleanUps,
    maxIdle ≤ cleanUp.idle ∧ cleanUp.inUse = false ∧ cleanUp.deleted = some cleanUp.conn
  registered : Registered s.connections s.openAt
  hosts : ∀ host i, s.connections host = some i → ∃ conn, s.conns[i]? = some conn ∧ conn.hostId = host
  creating : ∀ (u : ℕ) (host : HostId), s.users[u]? = some (.creating host) → ∀ i, s.openAt i ≠ some host
  alone : ∀ (u v : ℕ) (host : HostId), s.users[u]? = some (.creating host) →
    s.users[v]? = some (.creating host) → u = v
  waiting : ∀ host i items, s.loop = .waiting host i items →
    s.connections host = some i ∧ ∃ conn, s.conns[i]? = some conn ∧ conn.isExpired maxIdle s.now = true

theorem State.Kept.safe (h : s.Kept maxIdle) : s.Safe maxIdle := by
  have htabled (i : ℕ) (conn : Connection) (hi : s.conns[i]? = some conn) (hopen : conn.closed = false) :
      s.connections conn.hostId = some i := by
    refine h.registered i conn.hostId ?_
    rw [State.openAt, hi, Option.bind_some, Connection.openAt, hopen, if_neg Bool.false_ne_true]
  refine ⟨h.cleanUps, htabled, fun conn hconn => ?_⟩
  obtain ⟨i, hi, rfl⟩ := List.mem_mapIdx.mp hconn
  split
  · rfl
  · rename_i hout
    -- what is not in the table is closed already
    by_contra hopen
    exact hout (htabled i _ (List.getElem?_eq_getElem hi) (Bool.eq_false_of_not_eq_true hopen))

/-- Somebody creates a connection to the host. -/
theorem isLocked_eq_true_iff : s.isLocked host = true ↔ ∃ u : ℕ, s.users[u]? = some (.creating host) := by
  simp only [State.isLocked, List.any_eq_true, decide_eq_true_eq, exists_eq_right, List.mem_iff_getElem?]

/-- A user that goes on otherwise than to create a connection. -/
theorem State.Kept.setUser (h : s.Kept maxIdle) {user : User} (hother : ∀ host, user ≠ .creating host) :
    (s.setUser u user).Kept maxIdle where
  cleanUps := h.cleanUps
  registered := h.registered
  hosts := h.hosts
  creating v host hv := by
    obtain ⟨-, heq⟩ | ⟨-, hv⟩ := set_eq_some hv
    · exact absurd heq (hother host)
    · exact h.creating v host hv
  alone v w host hv hw := by
    obtain ⟨-, heq⟩ | ⟨-, hv⟩ := set_eq_some hv
    · exact absurd heq (hother host)
    · obtain ⟨-, heq⟩ | ⟨-, hw⟩ := set_eq_some hw
      · exact absurd heq (hother host)
      · exact h.alone v w host hv hw
  waiting := h.waiting

/-- A user starts to create a connection, with the lock and while none is open. -/
theorem State.Kept.setCreating (h : s.Kept maxIdle) (hfree : s.isLocked host = false)
    (hnone : ∀ i, s.openAt i ≠ some host) : (s.setUser u (.creating host)).Kept maxIdle := by
  have hnobody (v : ℕ) : s.users[v]? ≠ some (.creating host) := fun hv => by
    rw [isLocked_eq_true_iff.mpr ⟨v, hv⟩] at hfree
    cases hfree
  refine ⟨h.cleanUps, h.registered, h.hosts, fun v host' hv => ?_, fun v w host' hv hw => ?_, h.waiting⟩
  · obtain ⟨-, heq⟩ | ⟨-, hv⟩ := set_eq_some hv
    · obtain rfl := User.creating.inj heq
      exact hnone
    · exact h.creating v host' hv
  · obtain ⟨rfl, heq⟩ | ⟨-, hvold⟩ := set_eq_some hv
    · obtain rfl := User.creating.inj heq
      obtain ⟨rfl, -⟩ | ⟨-, hwold⟩ := set_eq_some hw
      · rfl
      · exact absurd hwold (hnobody w)
    · obtain ⟨-, heq⟩ | ⟨-, hwold⟩ := set_eq_some hw
      · obtain rfl := User.creating.inj heq
        exact absurd hvold (hnobody v)
      · exact h.alone v w host' hvold hwold

/-- What is open changes with one connection only. -/
theorem openAt_setConn (hconn : s.conns[i]? = some conn) :
    (s.setConn i conn').openAt = Function.update s.openAt i conn'.openAt := by
  funext j
  have hi : i < s.conns.length := (List.getElem?_eq_some_iff.mp hconn).1
  by_cases hj : j = i
  · subst hj
    rw [Function.update_self, State.openAt, State.setConn, List.getElem?_set_self hi, Option.bind_some]
  · rw [Function.update_of_ne hj, State.openAt, State.setConn, List.getElem?_set_ne (Ne.symm hj), State.openAt]

/-- A connection is used, or closed, or found unhealthy. -/
theorem State.Kept.setConn (h : s.Kept maxIdle) (hconn : s.conns[i]? = some conn)
    (hhost : conn'.hostId = conn.hostId) (hclosed : conn'.closed = false → conn.closed = false)
    (hexpired : ∀ host items, s.loop = .waiting host i items → conn'.isExpired maxIdle s.now = true) :
    (s.setConn i conn').Kept maxIdle := by
  -- nothing is opened
  have hless (j : ℕ) (host : HostId) (hj : (s.setConn i conn').openAt j = some host) : s.openAt j = some host := by
    rw [openAt_setConn hconn, Function.update_apply] at hj
    split at hj
    · rename_i hji
      rw [Connection.openAt, Option.ite_none_left_eq_some, Bool.not_eq_true] at hj
      rw [hji, State.openAt, hconn, Option.bind_some, Connection.openAt, hclosed hj.1, if_neg Bool.false_ne_true,
        ← hhost, hj.2]
    · exact hj
  have hi : i < s.conns.length := (List.getElem?_eq_some_iff.mp hconn).1
  refine ⟨h.cleanUps, h.registered.mono hless, fun host j hj => ?_, fun v host hv j hj => ?_, h.alone,
    fun host j items hloop => ?_⟩
  · obtain ⟨old, hold, hat⟩ := h.hosts host j hj
    by_cases hji : j = i
    · subst hji
      obtain rfl := Option.some.inj (hconn.symm.trans hold)
      exact ⟨conn', List.getElem?_set_self hi, hhost.trans hat⟩
    · exact ⟨old, (List.getElem?_set_ne (Ne.symm hji)).trans hold, hat⟩
  · exact h.creating v host hv j (hless j host hj)
  · obtain ⟨hentry, old, hold, hexp⟩ := h.waiting host j items hloop
    refine ⟨hentry, ?_⟩
    by_cases hji : j = i
    · subst hji
      exact ⟨conn', List.getElem?_set_self hi, hexpired host items hloop⟩
    · exact ⟨old, (List.getElem?_set_ne (Ne.symm hji)).trans hold, hexp⟩

/-! ## Operations -/

theorem loopWaits_eq_false (h : s.loopWaits host = false) {j : ℕ} {items : List (HostId × ℕ)} :
    s.loop ≠ .waiting host j items := by
  intro hloop
  rw [State.loopWaits, hloop, decide_eq_false_iff_not] at h
  exact h rfl

/-- **A connection is acquired**, or one is going to be created. -/
theorem State.Kept.acquire (h : s.Kept maxIdle) (hfree : s.isLocked host = false) {backoff : Bool}
    (hwaits : ∀ i conn, s.connections host = some i → s.conns[i]? = some conn → conn.isHealthy = true →
      s.loopWaits host = false) : (s.acquire u host backoff).Kept maxIdle := by
  have hcreating {s : State} (h : s.Kept maxIdle) (hfree : s.isLocked host = false)
      (hnone : ∀ i, s.openAt i ≠ some host) :
      (s.setUser u (if backoff then User.gone else .creating host)).Kept maxIdle := by
    cases backoff with
    | true => exact h.setUser (by simp)
    | false => exact h.setCreating hfree hnone
  unfold State.acquire
  generalize (if backoff then User.gone else .creating host) = creating at hcreating ⊢
  simp only
  split
  · rename_i i conn hfound
    obtain ⟨j, hentry, hmap⟩ := Option.bind_eq_some_iff.mp hfound
    obtain ⟨conn', hconn, heq⟩ := Option.map_eq_some_iff.mp hmap
    obtain ⟨rfl, rfl⟩ := Prod.mk.inj heq
    split
    · rename_i hhealthy
      have hused : (s.setConn j { conn' with lastUsed := s.now }).Kept maxIdle :=
        h.setConn hconn rfl id fun host' items hloop => by
          -- the loop waits for no connection of the host
          obtain ⟨hentry', -, -⟩ := h.waiting host' j items hloop
          obtain ⟨old, hold, hat⟩ := h.hosts host' j hentry'
          obtain ⟨old', hold', hat'⟩ := h.hosts host j hentry
          obtain rfl := Option.some.inj (hold.symm.trans hold')
          rw [← hat, hat'] at hloop
          exact absurd hloop (loopWaits_eq_false (hwaits j conn' hentry hconn hhealthy))
      exact hused.setUser fun _ => User.noConfusion
    · have hclosed : (s.setConn j { conn' with closed := true }).Kept maxIdle :=
        h.setConn hconn rfl (by simp) fun host' items hloop => by
          obtain ⟨-, old, hold, hexp⟩ := h.waiting host' j items hloop
          obtain rfl := Option.some.inj (hconn.symm.trans hold)
          exact hexp
      refine hcreating hclosed hfree fun k hk => ?_
      rw [openAt_setConn hconn, Function.update_apply] at hk
      split at hk
      · simp [Connection.openAt] at hk
      · rename_i hne
        exact hne (Option.some.inj ((h.registered k host hk).symm.trans hentry))
  · rename_i hnone
    refine hcreating h hfree fun k hk => ?_
    obtain ⟨conn, hconn, -⟩ := Option.bind_eq_some_iff.mp hk
    rw [h.registered k host hk, Option.bind_some, hconn, Option.map_some] at hnone
    cases hnone

/-- **A connection is created**, while the loop does not wait for the host. -/
theorem State.Kept.register (h : s.Kept maxIdle) (hu : s.users[u]? = some (.creating host))
    (hwaits : s.loopWaits host = false) : (s.register u host).Kept maxIdle := by
  have hopen : (s.register u host).openAt = Function.update s.openAt s.conns.length (some host) := by
    funext j
    by_cases hj : j = s.conns.length
    · subst hj
      rw [Function.update_self, State.openAt, State.register, List.getElem?_concat_length]
      rfl
    · rw [Function.update_of_ne hj, State.openAt, State.register, List.getElem?_append]
      split
      · rfl
      · rename_i hlt
        have hnone : s.conns[j]? = none := List.getElem?_eq_none (Nat.le_of_not_lt hlt)
        rw [State.openAt, hnone, List.getElem?_eq_none (by simp; omega)]
  have hnew : s.openAt s.conns.length = none := by
    rw [State.openAt, List.getElem?_eq_none (Nat.le_refl _), Option.bind_none]
  have hkept {j : ℕ} {conn : Connection} (hj : s.conns[j]? = some conn) :
      (s.register u host).conns[j]? = some conn := by
    rw [State.register, List.getElem?_append_left (List.getElem?_eq_some_iff.mp hj).1, hj]
  have hstays {v : ℕ} {host' : HostId} (hv : (s.register u host).users[v]? = some (.creating host')) :
      v ≠ u ∧ s.users[v]? = some (.creating host') := by
    obtain ⟨-, heq⟩ | hv := set_eq_some hv
    · cases heq
    · exact hv
  refine ⟨h.cleanUps, ?_, fun host' j hj => ?_, fun v host' hv j hj => ?_, fun v w host' hv hw => ?_,
    fun host' j items hloop => ?_⟩
  · rw [hopen]
    exact (h.registered.enter_iff hnew).mpr (h.creating u host hu)
  · simp only [State.register, Function.update_apply] at hj
    split at hj
    · rename_i hhost
      obtain rfl := Option.some.inj hj
      exact ⟨_, List.getElem?_concat_length, hhost.symm⟩
    · obtain ⟨conn, hconn, hat⟩ := h.hosts host' j hj
      exact ⟨conn, hkept hconn, hat⟩
  · obtain ⟨hne, hv⟩ := hstays hv
    rw [hopen, Function.update_apply] at hj
    split at hj
    · -- nobody else creates a connection to this host
      obtain rfl := Option.some.inj hj
      exact hne (h.alone v u host hv hu)
    · exact h.creating v host' hv j hj
  · exact h.alone v w host' (hstays hv).2 (hstays hw).2
  · obtain ⟨hentry, conn, hconn, hexp⟩ := h.waiting host' j items hloop
    have hne : host' ≠ host := by
      rintro rfl
      exact loopWaits_eq_false hwaits hloop
    exact ⟨(Function.update_of_ne hne ..).trans hentry, conn, hkept hconn, hexp⟩

/-- **The idle clean-up** of an expired connection that is in the table and not in use. -/
theorem State.Kept.cleanUp (h : s.Kept maxIdle) (hconn : s.conns[i]? = some conn)
    (hentry : s.connections host = some i) (hexpired : conn.isExpired maxIdle s.now = true)
    (hunused : s.inUse i = false) (items : List (HostId × ℕ)) : (s.cleanUp host i conn items).Kept maxIdle := by
  have hopen : (s.cleanUp host i conn items).openAt = Function.update s.openAt i none :=
    @openAt_setConn s i conn { conn with closed := true } hconn
  have hi : i < s.conns.length := (List.getElem?_eq_some_iff.mp hconn).1
  have hless (j : ℕ) (host' : HostId) (hj : (s.cleanUp host i conn items).openAt j = some host') :
      j ≠ i ∧ s.openAt j = some host' := by
    rw [hopen] at hj
    obtain ⟨-, hnone⟩ | hj := update_eq_some hj
    · cases hnone
    · exact hj
  refine ⟨fun cleanUp hcleanUp => ?_, ?_, fun host' j hj => ?_, fun v host' hv j hj => ?_, h.alone,
    fun host' j items' hloop => ?_⟩
  · obtain hcleanUp | hcleanUp := List.mem_append.mp hcleanUp
    · exact h.cleanUps cleanUp hcleanUp
    · obtain rfl := List.mem_singleton.mp hcleanUp
      exact ⟨le_of_lt (of_decide_eq_true hexpired), hunused, hentry⟩
  · have hrest := h.registered.mono fun j host' hj => (hless j host' hj).2
    refine hrest.write_iff.mpr fun j hj => ?_
    obtain ⟨hne, hj⟩ := hless j host hj
    exact absurd (Option.some.inj ((h.registered j host hj).symm.trans hentry)) hne
  · obtain ⟨-, hnone⟩ | ⟨hhost, hj⟩ := update_eq_some hj
    · cases hnone
    · obtain ⟨old, hold, hat⟩ := h.hosts host' j hj
      have hne : i ≠ j := by
        rintro rfl
        obtain ⟨old', hold', hat'⟩ := h.hosts host i hentry
        obtain rfl := Option.some.inj (hold.symm.trans hold')
        exact hhost (hat.symm.trans hat')
      exact ⟨old, (List.getElem?_set_ne hne).trans hold, hat⟩
  · exact h.creating v host' hv j (hless j host' hj).2
  · simp only [State.cleanUp, hentry, Option.isSome_some, if_true] at hloop
    cases hloop

/-! ## Steps -/

/-- A new user waits for the lock. -/
theorem State.Kept.ask (h : s.Kept maxIdle) (host : HostId) :
    State.Kept maxIdle { s with users := s.users ++ [.waiting host] } := by
  have hold {v : ℕ} {host' : HostId} (hv : (s.users ++ [.waiting host])[v]? = some (.creating host')) :
      s.users[v]? = some (.creating host') := by
    rw [List.getElem?_append] at hv
    split at hv
    · exact hv
    · have hmem := List.mem_singleton.mp (List.mem_of_getElem? hv)
      cases hmem
  exact ⟨h.cleanUps, h.registered, h.hosts, fun v host' hv => h.creating v host' (hold hv),
    fun v w host' hv hw => h.alone v w host' (hold hv) (hold hw), h.waiting⟩

/-- The loop goes on, and waits for no lock. -/
theorem State.Kept.setLoop (h : s.Kept maxIdle) {loop : Loop}
    (hloop : ∀ host i items, loop ≠ .waiting host i items) :
    State.Kept maxIdle { s with loop := loop } :=
  ⟨h.cleanUps, h.registered, h.hosts, h.creating, h.alone, fun host i items heq => absurd heq (hloop host i items)⟩

/-- A connection is found unhealthy, or not. -/
theorem State.Kept.setHealthy (h : s.Kept maxIdle) (hconn : s.conns[i]? = some conn) (isHealthy : Bool) :
    (s.setConn i { conn with isHealthy := isHealthy }).Kept maxIdle := by
  refine h.setConn hconn rfl id fun host items hloop => ?_
  obtain ⟨-, old, hold, hexp⟩ := h.waiting host i items hloop
  obtain rfl := Option.some.inj (hconn.symm.trans hold)
  exact hexp

/-- **A step under the condition keeps the pool safe.** -/
theorem State.Kept.step (h : s.Kept maxIdle) {label : Label} (hattended : Attended maxIdle s label)
    (hstep : step maxIdle s label = some t) : t.Kept maxIdle := by
  cases label with
  | tick now =>
    simp only [Hosts.step, Option.ite_none_right_eq_some, Option.some.injEq] at hstep
    obtain ⟨hle, rfl⟩ := hstep
    refine ⟨h.cleanUps, h.registered, h.hosts, h.creating, h.alone, fun host i items hloop => ?_⟩
    obtain ⟨hentry, conn, hconn, hexp⟩ := h.waiting host i items hloop
    have hidle := of_decide_eq_true hexp
    exact ⟨hentry, conn, hconn, decide_eq_true (hidle.trans_le (sub_le_sub_right hle _))⟩
  | ask host backoff =>
    simp only [Hosts.step] at hstep
    split at hstep
    · rename_i hfree
      obtain rfl := Option.some.inj hstep
      simp only [State.isFree, Bool.and_eq_true, Bool.not_eq_true'] at hfree
      have hunlocked : State.isLocked { s with users := s.users ++ [.waiting host] } host = false := by
        rw [State.isLocked, List.any_append, ← State.isLocked, hfree.1.1]
        rfl
      exact (h.ask host).acquire hunlocked fun i conn _ _ _ => hfree.2
    · obtain rfl := Option.some.inj hstep
      exact h.ask host
  | enter u backoff =>
    simp only [Hosts.step] at hstep
    split at hstep
    · rename_i host hu
      rw [Option.ite_none_left_eq_some, Bool.not_eq_true, Option.some_inj] at hstep
      obtain ⟨hfree, rfl⟩ := hstep
      exact h.acquire hfree fun i conn => hattended host i conn hu
    · cases hstep
  | created u succeeds =>
    simp only [Hosts.step] at hstep
    split at hstep
    · rename_i host hu
      obtain rfl := Option.some.inj hstep
      cases succeeds with
      | true => exact h.register hu (hattended host hu rfl)
      | false => exact h.setUser fun _ => User.noConfusion
    · cases hstep
  | leave u raises =>
    simp only [Hosts.step] at hstep
    split at hstep
    · rename_i i hu
      obtain ⟨conn, hconn, rfl⟩ := Option.map_eq_some_iff.mp hstep
      exact (h.setHealthy hconn _).setUser fun _ => User.noConfusion
    · cases hstep
  | markUnhealthy host =>
    simp only [Hosts.step] at hstep
    cases hfound : s.connections host with
    | none =>
      rw [hfound] at hstep
      obtain rfl := Option.some.inj hstep
      exact h
    | some i =>
      obtain ⟨conn, hconn, -⟩ := h.hosts host i hfound
      rw [hfound, Option.bind_some, hconn] at hstep
      obtain rfl := Option.some.inj hstep
      exact h.setHealthy hconn false
  | wakeUp items =>
    simp only [Hosts.step, Option.ite_none_right_eq_some, Option.some.injEq] at hstep
    obtain ⟨-, rfl⟩ := hstep
    exact h.setLoop fun _ _ _ => Loop.noConfusion
  | examine =>
    simp only [Hosts.step] at hstep
    split at hstep
    · obtain rfl := Option.some.inj hstep
      exact h.setLoop fun _ _ _ => Loop.noConfusion
    · rename_i host i items hloop
      obtain ⟨conn, hconn, rfl⟩ := Option.map_eq_some_iff.mp hstep
      split
      · rename_i hexpired
        obtain ⟨hentry, hunused⟩ := hattended host i items conn hloop hconn hexpired
        split
        · rename_i hfree
          exact h.cleanUp hconn hentry hexpired (hunused hfree) items
        · refine ⟨h.cleanUps, h.registered, h.hosts, h.creating, h.alone, fun host' j items' heq => ?_⟩
          obtain ⟨rfl, rfl, -⟩ := Loop.waiting.inj heq
          exact ⟨hentry, conn, hconn, hexpired⟩
      · exact h.setLoop fun _ _ _ => Loop.noConfusion
    · cases hstep
  | close =>
    simp only [Hosts.step] at hstep
    split at hstep
    · rename_i host i items hloop
      rw [Option.ite_none_left_eq_some] at hstep
      obtain ⟨conn, hconn, rfl⟩ := Option.map_eq_some_iff.mp hstep.2
      obtain ⟨hentry, old, hold, hexpired⟩ := h.waiting host i items hloop
      obtain rfl := Option.some.inj (hconn.symm.trans hold)
      exact h.cleanUp hconn hentry hexpired (hattended host i items hloop) items
    · cases hstep
  | checked isHealthy =>
    simp only [Hosts.step] at hstep
    split at hstep
    · rename_i i items hloop
      obtain ⟨conn, hconn, rfl⟩ := Option.map_eq_some_iff.mp hstep
      exact (h.setHealthy hconn _).setLoop fun _ _ _ => Loop.noConfusion
    · cases hstep

/-- **The pool is safe** along a run whose steps meet the condition. -/
theorem safe_of_run {labels : List Label} (h : Run (step maxIdle) (Attended maxIdle) {} labels t) :
    t.Safe maxIdle := by
  have hstart : State.Kept maxIdle {} := by
    refine ⟨?_, fun i host hi => ?_, ?_, ?_, ?_, ?_⟩
    · simp
    · cases hi
    all_goals simp
  exact (h.invariant (fun _ _ _ hkept hattended hstep => hkept.step hattended hstep) hstart).safe

/-- A connection is used, and idle for five minutes, and the health loop comes to it. -/
def idleLabels : List Label :=
  [.ask 1 false, .created 0 true, .leave 0 false, .tick 301, .wakeUp [(1, 0)], .examine]

/-- The pool after it. -/
def idleState : State := (exec (step 300) Always {} idleLabels).getD {}

/-- It is closed. -/
theorem idleLabels_closes : idleState.Safe 300 ∧ idleState.cleanUps = [⟨0, 301, false, some 0⟩] := by
  refine ⟨@safe_of_run 300 idleState idleLabels ?_, by with_unfolding_all decide⟩
  refine .cons trivial rfl (.cons (fun _ _ _ => rfl) rfl (.cons trivial rfl (.cons trivial rfl
    (.cons trivial rfl (.cons ?_ rfl (.nil _))))))
  intro host i items conn hloop hconn hexpired
  obtain ⟨hitem, -⟩ := List.cons.inj (Loop.passing.inj hloop)
  obtain ⟨rfl, rfl⟩ := Prod.mk.inj hitem
  exact ⟨rfl, fun _ => rfl⟩

/-- A connection is used for longer than five minutes. -/
def longUse : List Label := [.ask 1 false, .created 0 true, .tick 301, .wakeUp [(1, 0)], .examine]

/-- The pool after it. -/
def longUseState : State := (exec (step 300) Always {} longUse).getD {}

/-- **The connection is closed under its user.** -/
theorem longUse_closes : Run (step 300) Always {} longUse longUseState ∧ ¬ longUseState.Safe 300 := by
  refine ⟨.of_isSome (by decide), fun hsafe => ?_⟩
  have hcleanUps : longUseState.cleanUps = [⟨0, 301, true, some 0⟩] := by with_unfolding_all decide
  have hrecord := hsafe.cleanUps ⟨0, 301, true, some 0⟩ (by rw [hcleanUps]; simp)
  exact absurd hrecord.2.1 (by decide)

end DBClaw.Hosts
