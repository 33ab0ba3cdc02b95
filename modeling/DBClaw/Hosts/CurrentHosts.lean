import DBClaw.Config.Store
import DBClaw.Hosts.ConnectionPool

/-! # Current hosts
The pool keeps connections by the id of the host, and the rows of the hosts change elsewhere: neither `update_host`
nor `delete_host` touches the pool, collectors bring detached copies of rows, and a session that has loaded a row
gives it again as it was. -/

namespace DBClaw.Hosts

open Runs

/-! ## Rows -/

/-- **`SSHHostConfig`**. -/
structure SSHHostConfig where
  name : Text
  host : Text
  port : Option ℤ
  username : Text
  authType : Option Text
  passwordEncrypted : Option Text
  privateKeyEncrypted : Option Text
deriving DecidableEq

/-- **A row** of `host`; the structure that it extends is its `from_host`. -/
structure Host extends SSHHostConfig where
  isDeleted : Bool := false
deriving DecidableEq

/-- What a client authenticates with. -/
inductive Credentials
  | agent
  | password (password : Option Text)
  | key (privateKey : Text)
deriving DecidableEq

/-- What a client is opened with. -/
structure ConnectArgs where
  hostname : Text
  port : Option ℤ
  username : Text
  credentials : Credentials
deriving DecidableEq

section

variable (c : Cipher)

/-- The credentials that `_create_connection_from_config` takes; without a key there is no connection. -/
def SSHHostConfig.credentials (config : SSHHostConfig) : Option Credentials :=
  if config.authType = some "agent".toList then some .agent
  else if config.authType = some "password".toList then
    match config.passwordEncrypted.filter (! ·.isEmpty) with
    | some encrypted => (Config.decryptValue c encrypted).map (Credentials.password ∘ some)
    | none => some (.password none)
  else
    (config.privateKeyEncrypted.filter (! ·.isEmpty)).bind fun encrypted =>
      ((Config.decryptValue c encrypted).filter (! ·.isEmpty)).map .key

/-- **`_create_connection_from_config`**: what it calls `connect` with, if it comes to that. -/
def SSHHostConfig.connectArgs (config : SSHHostConfig) : Option ConnectArgs :=
  (config.credentials c).map fun credentials =>
    { hostname := config.host, port := config.port, username := config.username, credentials := credentials }

/-- **`HostUpdate`**: a field may be left out, and most may be null. -/
structure HostUpdate where
  name : Option (Option Text) := none
  host : Option (Option Text) := none
  port : Option (Option ℤ) := none
  username : Option (Option Text) := none
  authType : Option (Option Text) := none
  password : Option Text := none
  privateKey : Option Text := none

/-- What an update makes of the object that it has loaded; a null in a column that takes none fails. -/
def Host.apply (data : HostUpdate) (nonces : ℕ × ℕ) (row : Host) : Option Host := do
  let name ← data.name.getD (some row.name)
  let host ← data.host.getD (some row.host)
  let username ← data.username.getD (some row.username)
  pure { row with
    name := name
    host := host
    port := data.port.getD row.port
    username := username
    authType := data.authType.getD row.authType
    passwordEncrypted := (data.password.map (Config.encryptValue c nonces.1)).or row.passwordEncrypted
    privateKeyEncrypted := (data.privateKey.map (Config.encryptValue c nonces.2)).or row.privateKeyEncrypted }

/-- A commit writes the columns that differ from what was loaded. -/
def column {α : Type} [DecidableEq α] (loaded new current : α) : α := if new = loaded then current else new

/-- The row after the commit of an object. -/
def Host.commit (loaded new current : Host) : Host where
  name := column loaded.name new.name current.name
  host := column loaded.host new.host current.host
  port := column loaded.port new.port current.port
  username := column loaded.username new.username current.username
  authType := column loaded.authType new.authType current.authType
  passwordEncrypted := column loaded.passwordEncrypted new.passwordEncrypted current.passwordEncrypted
  privateKeyEncrypted := column loaded.privateKeyEncrypted new.privateKeyEncrypted current.privateKeyEncrypted
  isDeleted := column loaded.isDeleted new.isDeleted current.isDeleted

end

/-! ## Events -/

/-- A client is handed out: what it was opened with, and what the row says, unless the host is deleted. -/
structure HandOut where
  opened : Option ConnectArgs
  current : Option ConnectArgs
deriving DecidableEq

/-- The pool and the rows: the committed versions of each row, the latest first; the copy that each user creates a
connection from, and what each connection was opened with; and for the record, the clients handed out, and whether
the host was alive at each command. -/
structure World where
  pool : State := {}
  versions : HostId → List Host
  copies : ℕ → Option SSHHostConfig := fun _ => none
  opened : ℕ → Option ConnectArgs := fun _ => none
  handOuts : List HandOut := []
  commands : List Bool := []

/-- What happens to it. -/
inductive Event
  /-- `get_connection` or `get_collector_connection` is called, maybe with a copy of the row. -/
  | ask (host : HostId) (copy : Option SSHHostConfig) (backoff : Bool)
  | enter (u : ℕ) (backoff : Bool)
  /-- `_create_connection` selects the row. -/
  | load (u : ℕ)
  | created (u : ℕ) (succeeds : Bool)
  /-- A command is executed with the client. -/
  | execute (u : ℕ)
  /-- A step of the pool that hands out nothing. -/
  | quiet (label : Label)
  /-- `update_host` commits what it has made of the version that it has loaded. -/
  | update (host : HostId) (loaded : Host) (data : HostUpdate) (nonces : ℕ × ℕ)
  /-- `delete_host` commits. -/
  | delete (host : HostId)

/-- The step of the pool hands out nothing. -/
def Label.isQuiet : Label → Bool
  | .ask _ _ | .enter _ _ | .created _ _ => false
  | .tick _ | .leave _ _ | .markUnhealthy _ | .wakeUp _ | .examine | .close | .checked _ => true

/-- The healthy connection of a host in the table. -/
def State.healthyAt (s : State) (host : HostId) : Option ℕ :=
  (s.connections host).filter fun i => s.conns[i]?.any Connection.isHealthy

namespace World

variable (c : Cipher) (s : World)

def row (host : HostId) : Option Host := (s.versions host).head?

def isAlive (host : HostId) : Bool := (s.row host).any (! ·.isDeleted)

/-- What a client of the host is to be opened with. -/
def current (host : HostId) : Option ConnectArgs :=
  ((s.row host).filter (! ·.isDeleted)).bind fun row => row.connectArgs c

/-- What a connection would be opened with, from a copy or from the row as it is; `_create_connection` does not look
whether the row is deleted. -/
def source (host : HostId) (copy : Option SSHHostConfig) : Option ConnectArgs :=
  (copy.or ((s.row host).map Host.toSSHHostConfig)).bind fun config => config.connectArgs c

/-- What the healthy connection in the table was opened with. -/
def pooled (host : HostId) : Option ConnectArgs := (s.pool.healthyAt host).bind s.opened

/-- A version of the row is committed. -/
def write (host : HostId) (row : Host) : World :=
  { s with versions := Function.update s.versions host (row :: s.versions host) }

/-- The pool has taken a step, and the user may have got a client. -/
def serve (u : ℕ) (host : HostId) (pool : State) : World :=
  { s with
    pool := pool
    handOuts := match pool.users[u]? with
      | some (.inside i) => s.handOuts ++ [⟨s.opened i, s.current c host⟩]
      | _ => s.handOuts }

/-- The row that an update commits. The request has found some version of it alive. -/
def updated (host : HostId) (loaded : Host) (data : HostUpdate) (nonces : ℕ × ℕ) : Option Host :=
  if loaded ∈ s.versions host ∧ loaded.isDeleted = false then
    (loaded.apply c data nonces).bind fun new => (s.row host).map (loaded.commit new)
  else none

/-- The row that a deletion commits. -/
def deleted (host : HostId) : Option Host :=
  if (s.versions host).any (! ·.isDeleted) then (s.row host).map fun row => { row with isDeleted := true } else none

end World

variable (c : Cipher) (maxIdle : ℚ)

/-- **One step**. A user creates a connection from its copy, or loads the row first. -/
def World.step (s : World) : Event → Option World
  | .ask host copy backoff =>
    if copy.all fun copy => (s.versions host).any (·.toSSHHostConfig = copy) then
      (Hosts.step maxIdle s.pool (.ask host backoff)).map fun pool =>
        World.serve c { s with copies := Function.update s.copies s.pool.users.length copy }
          s.pool.users.length host pool
    else none
  | .enter u backoff =>
    match s.pool.users[u]? with
    | some (.waiting host) => (Hosts.step maxIdle s.pool (.enter u backoff)).map (s.serve c u host)
    | _ => none
  | .load u =>
    match s.pool.users[u]?, s.copies u with
    | some (.creating host), none => (s.row host).map fun row =>
      { s with copies := Function.update s.copies u (some row.toSSHHostConfig) }
    | _, _ => none
  | .created u true =>
    match s.pool.users[u]? with
    | some (.creating host) => ((s.copies u).bind fun copy => copy.connectArgs c).bind fun args =>
      (Hosts.step maxIdle s.pool (.created u true)).map fun pool =>
        World.serve c { s with opened := Function.update s.opened s.pool.conns.length (some args) } u host pool
    | _ => none
  | .created u false => (Hosts.step maxIdle s.pool (.created u false)).map fun pool => { s with pool := pool }
  | .execute u =>
    match s.pool.users[u]? with
    | some (.inside i) => s.pool.conns[i]?.map fun conn => { s with commands := s.commands ++ [s.isAlive conn.hostId] }
    | _ => none
  | .quiet label =>
    if label.isQuiet then (Hosts.step maxIdle s.pool label).map fun pool => { s with pool := pool } else none
  | .update host loaded data nonces => (s.updated c host loaded data nonces).map (s.write host)
  | .delete host => (s.deleted host).map (s.write host)

/-! ## Conditions -/

/-- **Only current hosts are served**: every client handed out was opened with what the row said, no client was
handed out for a deleted host, and no command was executed on one. -/
structure World.Current (s : World) : Prop where
  handOuts : ∀ handOut ∈ s.handOuts, handOut.opened.isSome = true ∧ handOut.opened = handOut.current
  commands : ∀ isAlive ∈ s.commands, isAlive = true

/-- **A user cannot get** a client that is not current, where the connection in the table is, and has none of a
deleted host. -/
def World.Safe (s : World) (copy : Option SSHHostConfig) : User → Prop
  | .waiting host => (∀ args ∈ s.source c host copy, args ∈ s.current c host) ∧
      ((s.pooled host).isSome = true → s.isAlive host = true)
  | .creating host => ∀ args ∈ s.source c host copy, args ∈ s.current c host
  | .inside i => ∀ conn ∈ s.pool.conns[i]?, s.isAlive conn.hostId = true
  | .gone => True

/-- The connections in the table fit the rows of the hosts that are alive, and the users are safe. -/
structure World.Fits (s : World) : Prop where
  pooled : ∀ host, s.isAlive host = true → ∀ args ∈ s.pooled host, args ∈ s.current c host
  users : ∀ (u : ℕ) (user : User), s.pool.users[u]? = some user → s.Safe c (s.copies u) user

/-- What becomes of a user with the lock: it gets the healthy connection in the table, or is refused, or creates a
connection. -/
def State.entering (s : State) (host : HostId) (backoff : Bool) : User :=
  match s.healthyAt host with
  | some i => .inside i
  | none => if backoff then .gone else .creating host

/-- What becomes of a user that asks; it may have to wait for the lock. -/
def State.asked (s : State) (host : HostId) (backoff : Bool) : User :=
  if s.isFree host then s.entering host backoff else .waiting host

/-- **The condition on an event**: a user that asks is safe, and the rows that an update or a deletion commits leave
the users safe and fit the connections in the table. -/
def Settled (s : World) : Event → Prop
  | .ask host copy backoff => s.Safe c copy (s.pool.asked host backoff)
  | .update host loaded data nonces => ∀ row ∈ s.updated c host loaded data nonces, (s.write host row).Fits c
  | .delete host => ∀ row ∈ s.deleted host, (s.write host row).Fits c
  | _ => True

/-! ## The pool -/

variable {c} {maxIdle} {p q r : State} {host : HostId} {i u : ℕ} {conn : Connection}
  {user : User} {backoff : Bool}

theorem healthyAt_eq_some_iff : p.healthyAt host = some i ↔
    p.connections host = some i ∧ ∃ conn, p.conns[i]? = some conn ∧ conn.isHealthy = true := by
  rw [State.healthyAt, Option.filter_eq_some_iff, Option.any_eq_true]

/-- **A move** of a user to where it is next: connections only become unhealthy or leave the table. -/
structure Moves (p q : State) (u : ℕ) (user : User) : Prop where
  users : ∀ (v : ℕ) (user' : User), q.users[v]? = some user' → v = u ∧ user' = user ∨ p.users[v]? = some user'
  conns : ∀ (i : ℕ) (conn : Connection), q.conns[i]? = some conn → ∃ old, p.conns[i]? = some old ∧
    old.hostId = conn.hostId ∧ (conn.isHealthy = true → old.isHealthy = true)
  length : q.conns.length = p.conns.length
  entries : ∀ host i, q.connections host = some i → p.connections host = some i

/-- Nobody moves, and the connections stay as they are. -/
theorem Moves.of_eq (husers : q.users = p.users) (hconns : q.conns = p.conns)
    (hconnections : q.connections = p.connections) : Moves p q u user where
  users _ _ hv := .inr (husers ▸ hv)
  conns _ conn hi := ⟨conn, hconns ▸ hi, rfl, id⟩
  length := congrArg List.length hconns
  entries _ _ hi := hconnections ▸ hi

theorem Moves.setUser (h : Moves p q u user) : Moves p (q.setUser u user) u user where
  users v user' hv := by
    obtain ⟨hv, heq⟩ | ⟨-, hv⟩ := set_eq_some hv
    · exact .inl ⟨hv, heq.symm⟩
    · exact h.users v user' hv
  conns := h.conns
  length := h.length
  entries := h.entries

theorem Moves.healthyAt (h : Moves p q u user) (hq : q.healthyAt host = some i) : p.healthyAt host = some i := by
  rw [healthyAt_eq_some_iff] at hq ⊢
  obtain ⟨hentry, conn, hi, hhealthy⟩ := hq
  obtain ⟨old, hold, -, hless⟩ := h.conns i conn hi
  exact ⟨h.entries host i hentry, old, hold, hless hhealthy⟩

/-- A connection is written again, for the same host, and not healthier. -/
theorem moves_setConn (conn' : Connection) (hconn : p.conns[i]? = some conn) (hhost : conn'.hostId = conn.hostId)
    (hhealthy : conn'.isHealthy = true → conn.isHealthy = true) : Moves p (p.setConn i conn') u user where
  users _ _ := .inr
  conns j new hj := by
    obtain ⟨rfl, rfl⟩ | ⟨-, hj⟩ := set_eq_some hj
    · exact ⟨conn, hconn, hhost.symm, hhealthy⟩
    · exact ⟨new, hj, rfl, id⟩
  length := List.length_set
  entries _ _ := id

theorem moves_cleanUp (hconn : p.conns[i]? = some conn) (items : List (HostId × ℕ)) :
    Moves p (p.cleanUp host i conn items) u user := by
  have hclosed : Moves p (p.setConn i { conn with closed := true }) u user := moves_setConn _ hconn rfl id
  refine ⟨hclosed.users, hclosed.conns, hclosed.length, fun host' j hj => ?_⟩
  obtain ⟨-, hnone⟩ | ⟨-, hj⟩ := update_eq_some hj
  · cases hnone
  · exact hj

/-- **A quiet step** of the pool: at most, a user goes. -/
theorem moves_of_isQuiet {label : Label} (hquiet : label.isQuiet = true) (hstep : step maxIdle p label = some q) :
    ∃ u, Moves p q u .gone := by
  cases label with
  | ask | enter | created => cases hquiet
  | tick now =>
    obtain ⟨-, hq⟩ := Option.ite_none_right_eq_some.mp hstep
    obtain rfl := Option.some.inj hq
    exact ⟨0, .of_eq rfl rfl rfl⟩
  | leave u raises =>
    simp only [step] at hstep
    split at hstep
    · rename_i i hu
      obtain ⟨conn, hconn, rfl⟩ := Option.map_eq_some_iff.mp hstep
      have hused : Moves p (p.setConn i { conn with isHealthy := conn.isHealthy && ! raises }) u .gone :=
        moves_setConn _ hconn rfl fun hhealthy => (Bool.and_eq_true_iff.mp hhealthy).1
      exact ⟨u, hused.setUser⟩
    · cases hstep
  | markUnhealthy host =>
    obtain hfound | ⟨-, hsame⟩ := Option.or_eq_some_iff.mp hstep
    · obtain ⟨i, -, hi⟩ := Option.bind_eq_some_iff.mp hfound
      obtain ⟨conn, hconn, rfl⟩ := Option.map_eq_some_iff.mp hi
      exact ⟨0, moves_setConn _ hconn rfl fun h => by cases h⟩
    · obtain rfl := Option.some.inj hsame
      exact ⟨0, .of_eq rfl rfl rfl⟩
  | wakeUp items =>
    obtain ⟨-, hq⟩ := Option.ite_none_right_eq_some.mp hstep
    obtain rfl := Option.some.inj hq
    exact ⟨0, .of_eq rfl rfl rfl⟩
  | examine =>
    simp only [step] at hstep
    split at hstep
    · obtain rfl := Option.some.inj hstep
      exact ⟨0, .of_eq rfl rfl rfl⟩
    · obtain ⟨conn, hconn, rfl⟩ := Option.map_eq_some_iff.mp hstep
      refine ⟨0, ?_⟩
      split
      · split
        · exact moves_cleanUp hconn _
        · exact .of_eq rfl rfl rfl
      · exact .of_eq rfl rfl rfl
    · cases hstep
  | close =>
    simp only [step] at hstep
    split at hstep
    · obtain ⟨-, hclosed⟩ := Option.ite_none_left_eq_some.mp hstep
      obtain ⟨conn, hconn, rfl⟩ := Option.map_eq_some_iff.mp hclosed
      exact ⟨0, moves_cleanUp hconn _⟩
    · cases hstep
  | checked isHealthy =>
    simp only [step] at hstep
    split at hstep
    · rename_i i items hloop
      obtain ⟨conn, hconn, rfl⟩ := Option.map_eq_some_iff.mp hstep
      have hchecked : Moves p (p.setConn i { conn with isHealthy := conn.isHealthy && isHealthy }) 0 .gone :=
        moves_setConn _ hconn rfl fun hhealthy => (Bool.and_eq_true_iff.mp hhealthy).1
      exact ⟨0, hchecked.users, hchecked.conns, hchecked.length, hchecked.entries⟩
    · cases hstep

/-- **What `_acquire_connection` does** with the lock: a user gets the healthy connection in the table; or what is
there is closed, and the user is refused or goes on to create a connection. -/
theorem acquire_eq (p : State) (u : ℕ) (host : HostId) (backoff : Bool) :
    ∃ q, p.acquire u host backoff = q.setUser u (p.entering host backoff) ∧ q.users = p.users ∧
      ∀ user, Moves p q u user := by
  unfold State.acquire State.entering State.healthyAt
  cases hentry : p.connections host with
  | none => exact ⟨p, rfl, rfl, fun _ => .of_eq rfl rfl rfl⟩
  | some i =>
    simp only [Option.bind_some, Option.filter_some]
    cases hconn : p.conns[i]? with
    | none => exact ⟨p, rfl, rfl, fun _ => .of_eq rfl rfl rfl⟩
    | some conn =>
      simp only [Option.map_some, Option.any_some]
      split
      · rename_i hhealthy
        exact ⟨_, rfl, rfl, fun _ => moves_setConn _ hconn rfl fun _ => hhealthy⟩
      · exact ⟨_, rfl, rfl, fun _ => moves_setConn _ hconn rfl id⟩

/-- A user that has waited enters. -/
theorem acquire_moves (hu : p.users[u]? = some user) (host : HostId) (backoff : Bool) :
    Moves p (p.acquire u host backoff) u (p.entering host backoff) ∧
      (p.acquire u host backoff).users[u]? = some (p.entering host backoff) := by
  obtain ⟨q, heq, husers, hmoves⟩ := acquire_eq p u host backoff
  rw [heq]
  refine ⟨(hmoves _).setUser, List.getElem?_set_self ?_⟩
  rw [husers]
  exact (List.getElem?_eq_some_iff.mp hu).1

/-- A user that asks. -/
theorem ask_moves (hstep : step maxIdle p (.ask host backoff) = some q) :
    Moves p q p.users.length (p.asked host backoff) ∧ q.users[p.users.length]? = some (p.asked host backoff) := by
  have happend : Moves p { p with users := p.users ++ [.waiting host] } p.users.length (.waiting host) := by
    refine ⟨fun v user hv => ?_, fun _ conn hi => ⟨conn, hi, rfl, id⟩, rfl, fun _ _ => id⟩
    rw [List.getElem?_append] at hv
    split at hv
    · exact .inr hv
    · have hlt := (List.getElem?_eq_some_iff.mp hv).1
      rw [List.length_singleton] at hlt
      exact .inl ⟨by omega, List.mem_singleton.mp (List.mem_of_getElem? hv)⟩
  simp only [step] at hstep
  unfold State.asked
  split at hstep
  · rename_i hfree
    obtain rfl := Option.some.inj hstep
    rw [if_pos hfree]
    obtain ⟨hmoves, hat⟩ := @acquire_moves { p with users := p.users ++ [.waiting host] } p.users.length
      (.waiting host) List.getElem?_concat_length host backoff
    refine ⟨⟨fun v user hv => ?_, hmoves.conns, hmoves.length, hmoves.entries⟩, hat⟩
    obtain hnew | hold := hmoves.users v user hv
    · exact .inl hnew
    · obtain ⟨rfl, -⟩ | hold := happend.users v user hold
      · exact .inl ⟨rfl, Option.some.inj (hv.symm.trans hat)⟩
      · exact .inr hold
  · rename_i hfree
    obtain rfl := Option.some.inj hstep
    rw [if_neg hfree]
    exact ⟨happend, List.getElem?_concat_length⟩

/-- **What holds of the pool** whatever happens: what the table has is of its host, at most one user creates a
connection to a host, and none while the table has a healthy one. -/
structure State.Sound (p : State) : Prop where
  hosts : ∀ host i, p.connections host = some i → ∃ conn, p.conns[i]? = some conn ∧ conn.hostId = host
  alone : ∀ (u v : ℕ) (host : HostId), p.users[u]? = some (.creating host) →
    p.users[v]? = some (.creating host) → u = v
  unlocked : ∀ (u : ℕ) (host : HostId), p.users[u]? = some (.creating host) → p.healthyAt host = none

/-- **A move** keeps the pool sound, if who starts to create a connection has the lock and there is none. -/
theorem State.Sound.moves (h : p.Sound) (hmoves : Moves p q u user)
    (hcreating : ∀ host, user = .creating host → p.isLocked host = false ∧ p.healthyAt host = none) : q.Sound := by
  have hless {host : HostId} (hnone : p.healthyAt host = none) : q.healthyAt host = none := by
    rw [Option.eq_none_iff_forall_ne_some] at hnone ⊢
    intro i hi
    exact hnone i (hmoves.healthyAt hi)
  have hnobody {host : HostId} (hfree : p.isLocked host = false) (v : ℕ) :
      p.users[v]? ≠ some (.creating host) := by
    intro hv
    rw [isLocked_eq_true_iff.mpr ⟨v, hv⟩] at hfree
    cases hfree
  refine ⟨fun host i hi => ?_, fun v w host hv hw => ?_, fun v host hv => ?_⟩
  · obtain ⟨conn, hconn, hhost⟩ := h.hosts host i (hmoves.entries host i hi)
    have hlt : i < q.conns.length := by
      rw [hmoves.length]
      exact (List.getElem?_eq_some_iff.mp hconn).1
    obtain ⟨old, hold, hsame, -⟩ := hmoves.conns i _ (List.getElem?_eq_getElem hlt)
    obtain rfl := Option.some.inj (hold.symm.trans hconn)
    exact ⟨_, List.getElem?_eq_getElem hlt, hsame.symm.trans hhost⟩
  · obtain ⟨rfl, heq⟩ | hv := hmoves.users v _ hv
    · obtain ⟨hfree, -⟩ := hcreating host heq.symm
      obtain ⟨rfl, -⟩ | hw := hmoves.users w _ hw
      · rfl
      · exact absurd hw (hnobody hfree w)
    · obtain ⟨-, heq⟩ | hw := hmoves.users w _ hw
      · obtain ⟨hfree, -⟩ := hcreating host heq.symm
        exact absurd hv (hnobody hfree v)
      · exact h.alone v w host hv hw
  · obtain ⟨-, heq⟩ | hv := hmoves.users v _ hv
    · exact hless (hcreating host heq.symm).2
    · exact hless (h.unlocked v host hv)

/-- Who enters creates a connection only if there is no healthy one. -/
theorem entering_eq_creating {host' : HostId} (h : p.entering host backoff = .creating host') :
    host' = host ∧ p.healthyAt host = none := by
  unfold State.entering at h
  split at h
  · cases h
  · rename_i hnone
    split at h
    · cases h
    · exact ⟨(User.creating.inj h).symm, hnone⟩

/-- Who asks creates a connection only with the lock, if there is no healthy one. -/
theorem asked_eq_creating {host' : HostId} (h : p.asked host backoff = .creating host') :
    p.isLocked host' = false ∧ p.healthyAt host' = none := by
  unfold State.asked at h
  split at h
  · rename_i hfree
    obtain ⟨rfl, hnone⟩ := entering_eq_creating h
    simp only [State.isFree, Bool.and_eq_true, Bool.not_eq_true'] at hfree
    exact ⟨hfree.1.1, hnone⟩
  · cases h

/-- What is healthy in the table after a connection has been registered. -/
theorem healthyAt_register (p : State) (u : ℕ) (host : HostId) (hsound : p.Sound) :
    (p.register u host).healthyAt = Function.update p.healthyAt host (some p.conns.length) := by
  funext host'
  rw [Function.update_apply]
  split
  · rename_i hhost
    rw [healthyAt_eq_some_iff]
    exact ⟨by rw [hhost]; exact Function.update_self .., _, List.getElem?_concat_length, rfl⟩
  · rename_i hhost
    have hentry : (p.register u host).connections host' = p.connections host' := Function.update_of_ne hhost ..
    unfold State.healthyAt
    rw [hentry]
    cases hfound : p.connections host' with
    | none => rfl
    | some i =>
      obtain ⟨conn, hconn, -⟩ := hsound.hosts host' i hfound
      have hkept : (p.register u host).conns[i]? = p.conns[i]? :=
        List.getElem?_append_left (List.getElem?_eq_some_iff.mp hconn).1
      rw [Option.filter_some, Option.filter_some, hkept]

/-- **A connection is registered** by who has created it. -/
theorem State.Sound.register (h : p.Sound) (hu : p.users[u]? = some (.creating host)) : (p.register u host).Sound := by
  have hstays {v : ℕ} {host' : HostId} (hv : (p.register u host).users[v]? = some (.creating host')) :
      v ≠ u ∧ p.users[v]? = some (.creating host') := by
    obtain ⟨-, heq⟩ | hv := set_eq_some hv
    · cases heq
    · exact hv
  refine ⟨fun host' i hi => ?_, fun v w host' hv hw => h.alone v w host' (hstays hv).2 (hstays hw).2,
    fun v host' hv => ?_⟩
  · obtain ⟨rfl, heq⟩ | ⟨-, hi⟩ := update_eq_some hi
    · obtain rfl := Option.some.inj heq
      exact ⟨_, List.getElem?_concat_length, rfl⟩
    · obtain ⟨conn, hconn, hhost⟩ := h.hosts host' i hi
      exact ⟨conn, (List.getElem?_append_left (List.getElem?_eq_some_iff.mp hconn).1).trans hconn, hhost⟩
  · obtain ⟨hne, hold⟩ := hstays hv
    have hother : host' ≠ host := by
      intro heq
      exact hne (h.alone v u host (heq ▸ hold) hu)
    rw [healthyAt_register p u host h, Function.update_of_ne hother]
    exact h.unlocked v host' hold

/-! ## What the condition keeps -/

variable {s t : World} {args : ConnectArgs} {copies : ℕ → Option SSHHostConfig} {handOuts : List HandOut}
  {commands : List Bool}

/-- **What the condition keeps.** -/
structure World.Kept (c : Cipher) (s : World) : Prop where
  sound : s.pool.Sound
  opened : ∀ (i : ℕ) (conn : Connection), s.pool.conns[i]? = some conn → (s.opened i).isSome = true
  fits : s.Fits c
  current : s.Current

/-- What is current is of a host that is alive. -/
theorem isAlive_of_mem_current (h : args ∈ s.current c host) : s.isAlive host = true := by
  obtain ⟨row, hrow, -⟩ := Option.bind_eq_some_iff.mp h
  rw [Option.filter_eq_some_iff] at hrow
  rw [World.isAlive, hrow.1, Option.any_some, hrow.2]

/-- The row of a host that is alive is current. -/
theorem source_none (h : s.isAlive host = true) : s.source c host none = s.current c host := by
  obtain ⟨row, hrow, halive⟩ := (Option.any_eq_true _ _).mp h
  rw [World.source, World.current, hrow, Option.filter_some, if_pos halive]
  rfl

/-- Who is safe stays safe when somebody moves. -/
theorem safe_moves (hmoves : Moves s.pool q u user) {copy : Option SSHHostConfig} {user' : User}
    (h : s.Safe c copy user') :
    World.Safe c { s with pool := q, copies := copies, handOuts := handOuts, commands := commands } copy user' := by
  cases user' with
  | waiting host =>
    refine ⟨h.1, fun hpooled => h.2 ?_⟩
    obtain ⟨args, hargs⟩ := Option.isSome_iff_exists.mp hpooled
    obtain ⟨i, hi, hopened⟩ := Option.bind_eq_some_iff.mp hargs
    rw [World.pooled, hmoves.healthyAt hi]
    exact Option.isSome_of_mem hopened
  | creating host => exact h
  | inside i =>
    intro conn hconn
    obtain ⟨old, hold, hhost, -⟩ := hmoves.conns i conn hconn
    rw [← hhost]
    exact h old hold
  | gone => trivial

/-- **A user moves** to where it is safe. -/
theorem World.Fits.moves (h : s.Fits c) (hmoves : Moves s.pool q u user)
    (hcopies : ∀ v user, s.pool.users[v]? = some user → copies v = s.copies v)
    (hsafe : s.Safe c (copies u) user) :
    World.Fits c { s with pool := q, copies := copies, handOuts := handOuts, commands := commands } where
  pooled host halive args hargs := by
    obtain ⟨i, hi, hopened⟩ := Option.bind_eq_some_iff.mp hargs
    refine h.pooled host halive args ?_
    rw [World.pooled, hmoves.healthyAt hi]
    exact hopened
  users v user' hv := by
    obtain ⟨rfl, rfl⟩ | hv := hmoves.users v user' hv
    · exact safe_moves hmoves hsafe
    · have hold := h.users v user' hv
      rw [← hcopies v user' hv] at hold
      exact safe_moves hmoves hold

/-- What is opened stays so. -/
theorem opened_moves (h : ∀ (i : ℕ) (conn : Connection), s.pool.conns[i]? = some conn → (s.opened i).isSome = true)
    (hmoves : Moves s.pool q u user) (i : ℕ) (conn : Connection) (hi : q.conns[i]? = some conn) :
    (s.opened i).isSome = true := by
  obtain ⟨old, hold, -⟩ := hmoves.conns i conn hi
  exact h i old hold

/-- **A client is handed out**, or none. -/
theorem World.Current.serve (h : s.Current)
    (hout : ∀ i, q.users[u]? = some (.inside i) → (s.opened i).isSome = true ∧ s.opened i = s.current c host) :
    (s.serve c u host q).Current := by
  refine ⟨fun handOut hmem => ?_, h.commands⟩
  unfold World.serve at hmem
  simp only at hmem
  split at hmem
  · rename_i i hi
    obtain hmem | hmem := List.mem_append.mp hmem
    · exact h.handOuts handOut hmem
    · rw [List.mem_singleton.mp hmem]
      exact hout i hi
  · exact h.handOuts handOut hmem

/-- The client in the table is current, where the host is alive. -/
theorem World.Kept.opened_eq (h : s.Kept c) (hi : s.pool.healthyAt host = some i) (halive : s.isAlive host = true) :
    (s.opened i).isSome = true ∧ s.opened i = s.current c host := by
  obtain ⟨-, conn, hconn, -⟩ := healthyAt_eq_some_iff.mp hi
  have hsome := h.opened i conn hconn
  obtain ⟨args, hargs⟩ := Option.isSome_iff_exists.mp hsome
  have hpooled : s.pooled host = some args := by rw [World.pooled, hi, Option.bind_some, hargs]
  exact ⟨hsome, hargs.trans (h.fits.pooled host halive args hpooled).symm⟩

/-- **A user that is safe moves** on, with the client in the table or without one. -/
theorem World.Kept.serve (h : s.Kept c) (hmoves : Moves s.pool q u user) (hat : q.users[u]? = some user)
    (hcopies : ∀ v user, s.pool.users[v]? = some user → copies v = s.copies v)
    (hcreating : ∀ host, user = .creating host → s.pool.isLocked host = false ∧ s.pool.healthyAt host = none)
    (hsafe : s.Safe c (copies u) user)
    (hinside : ∀ i, user = .inside i → s.pool.healthyAt host = some i) :
    (World.serve c { s with copies := copies } u host q).Kept c where
  sound := h.sound.moves hmoves hcreating
  opened i conn hi := opened_moves h.opened hmoves i conn hi
  fits := h.fits.moves hmoves hcopies hsafe
  current := by
    refine World.Current.serve ⟨h.current.handOuts, h.current.commands⟩ fun i hi => ?_
    obtain rfl := Option.some.inj (hat.symm.trans hi)
    have hhealthy := hinside i rfl
    refine h.opened_eq hhealthy ?_
    obtain ⟨hentry, -⟩ := healthyAt_eq_some_iff.mp hhealthy
    obtain ⟨conn, hconn, hhost⟩ := h.sound.hosts host i hentry
    rw [← hhost]
    exact hsafe conn hconn

/-- Somebody goes, at most. -/
theorem World.Kept.quiet (h : s.Kept c) (hmoves : Moves s.pool q u .gone) : World.Kept c { s with pool := q } where
  sound := h.sound.moves hmoves fun _ => User.noConfusion
  opened i conn hi := opened_moves h.opened hmoves i conn hi
  fits := h.fits.moves hmoves (fun _ _ _ => rfl) trivial
  current := ⟨h.current.handOuts, h.current.commands⟩

/-- Who is given the connection in the table asks for the host of it. -/
theorem entering_eq_inside (h : p.entering host backoff = .inside i) : p.healthyAt host = some i := by
  unfold State.entering at h
  split at h
  · rename_i j hj
    rw [hj, User.inside.inj h]
  · split at h <;> cases h

theorem asked_eq_inside (h : p.asked host backoff = .inside i) : p.healthyAt host = some i := by
  unfold State.asked at h
  split at h
  · exact entering_eq_inside h
  · cases h

/-- Who waits safely enters safely. -/
theorem World.Kept.safe_entering (h : s.Kept c) {copy : Option SSHHostConfig} (hsafe : s.Safe c copy (.waiting host)) :
    s.Safe c copy (s.pool.entering host backoff) := by
  obtain ⟨hsource, hpooled⟩ := hsafe
  unfold State.entering
  split
  · rename_i i hi
    obtain ⟨hentry, conn', hconn', -⟩ := healthyAt_eq_some_iff.mp hi
    have halive : s.isAlive host = true := by
      refine hpooled ?_
      rw [World.pooled, hi]
      exact h.opened i conn' hconn'
    obtain ⟨conn, hconn, hhost⟩ := h.sound.hosts host i hentry
    intro old hold
    obtain rfl := Option.some.inj (hconn.symm.trans hold)
    rw [hhost]
    exact halive
  · split
    · trivial
    · exact hsource

/-- **The row is loaded** by who creates a connection. -/
theorem World.Fits.load (h : s.Fits c) (hu : s.pool.users[u]? = some (.creating host)) (hcopies : s.copies u = none)
    {row : Host} (hrow : s.row host = some row) :
    World.Fits c { s with copies := Function.update s.copies u (some row.toSSHHostConfig) } := by
  refine ⟨h.pooled, fun v user hv => ?_⟩
  have hsafe := h.users v user hv
  refine @safe_moves c s.pool 0 .gone s _ s.handOuts s.commands (.of_eq rfl rfl rfl) _ user ?_
  change s.Safe c (Function.update s.copies u (some row.toSSHHostConfig) v) user
  by_cases hvu : v = u
  · subst hvu
    obtain rfl := Option.some.inj (hu.symm.trans hv)
    -- what it has loaded is what it would have loaded
    rw [Function.update_self]
    intro args hargs
    refine hsafe args ?_
    rw [World.source, hcopies, hrow]
    exact hargs
  · rw [Function.update_of_ne hvu]
    exact hsafe

/-- The world once a connection has been registered. -/
def World.register (s : World) (u : ℕ) (host : HostId) (args : ConnectArgs) : World :=
  { s with
    pool := s.pool.register u host
    opened := Function.update s.opened s.pool.conns.length (some args) }

@[simp] theorem World.register_opened_length :
    (s.register u host args).opened s.pool.conns.length = some args := Function.update_self ..

theorem World.register_opened (hi : i < s.pool.conns.length) : (s.register u host args).opened i = s.opened i :=
  Function.update_of_ne (Nat.ne_of_lt hi) ..

/-- The connections after a registration. -/
theorem getElem?_register_conns (hi : (p.register u host).conns[i]? = some conn) :
    i = p.conns.length ∧ conn.hostId = host ∨ p.conns[i]? = some conn := by
  unfold State.register at hi
  simp only at hi
  rw [List.getElem?_append] at hi
  split at hi
  · exact .inr hi
  · have hlt := (List.getElem?_eq_some_iff.mp hi).1
    rw [List.length_singleton] at hlt
    exact .inl ⟨by omega, by rw [List.mem_singleton.mp (List.mem_of_getElem? hi)]⟩

/-- The table has the new connection, and is as before otherwise. -/
theorem World.register_pooled (hsound : s.pool.Sound) :
    (s.register u host args).pooled = Function.update s.pooled host (some args) := by
  funext host'
  unfold World.pooled
  rw [World.register, healthyAt_register _ _ _ hsound, Function.update_apply, Function.update_apply]
  split
  · exact Function.update_self ..
  · cases hi : s.pool.healthyAt host' with
    | none => rfl
    | some i =>
      obtain ⟨-, conn, hconn, -⟩ := healthyAt_eq_some_iff.mp hi
      exact World.register_opened (List.getElem?_eq_some_iff.mp hconn).1

/-- **A registration** of what is current leaves the users safe. -/
theorem World.Fits.register (h : s.Fits c) (hsound : s.pool.Sound) (hargs : args ∈ s.current c host) :
    (s.register u host args).Fits c := by
  have halive := isAlive_of_mem_current hargs
  refine ⟨fun host' halive' args' hargs' => ?_, fun v user hv => ?_⟩
  · rw [World.register_pooled hsound] at hargs'
    obtain ⟨rfl, hsome⟩ | ⟨-, hold⟩ := update_eq_some hargs'
    · obtain rfl := Option.some.inj hsome
      exact hargs
    · exact h.pooled host' halive' args' hold
  · have hinside {i : ℕ} (hold : ∀ conn ∈ s.pool.conns[i]?, s.isAlive conn.hostId = true) (conn : Connection)
        (hconn : conn ∈ (s.pool.register u host).conns[i]?) : s.isAlive conn.hostId = true := by
      obtain ⟨-, hhost⟩ | hconn := getElem?_register_conns hconn
      · rw [hhost]
        exact halive
      · exact hold conn hconn
    obtain ⟨-, rfl⟩ | ⟨-, hv⟩ := set_eq_some hv
    · refine hinside fun conn hconn => ?_
      exact absurd (List.getElem?_eq_some_iff.mp hconn).1 (Nat.lt_irrefl _)
    · have hold := h.users v user hv
      cases user with
      | waiting host' =>
        refine ⟨hold.1, fun hsome => ?_⟩
        rw [World.register_pooled hsound, Function.update_apply] at hsome
        split at hsome
        · rename_i hhost
          rw [hhost]
          exact halive
        · exact hold.2 hsome
      | creating host' => exact hold
      | inside i => exact hinside hold
      | gone => trivial

/-- **A connection is created** from what is current. -/
theorem World.Kept.register (h : s.Kept c) (hu : s.pool.users[u]? = some (.creating host))
    (hargs : args ∈ s.current c host) :
    (World.serve c (s.register u host args) u host (s.pool.register u host)).Kept c where
  sound := h.sound.register hu
  opened i conn hi := by
    obtain ⟨rfl, -⟩ | hi := getElem?_register_conns hi
    · rw [World.serve, World.register_opened_length]
      rfl
    · rw [World.serve, World.register_opened (List.getElem?_eq_some_iff.mp hi).1]
      exact h.opened i conn hi
  fits := ⟨(h.fits.register h.sound hargs).pooled, (h.fits.register h.sound hargs).users⟩
  current := by
    refine World.Current.serve ⟨h.current.handOuts, h.current.commands⟩ fun i hi => ?_
    have hat : (s.pool.register u host).users[u]? = some (.inside s.pool.conns.length) :=
      List.getElem?_set_self (List.getElem?_eq_some_iff.mp hu).1
    obtain rfl := User.inside.inj (Option.some.inj (hat.symm.trans hi))
    rw [World.register_opened_length]
    exact ⟨rfl, hargs.symm⟩

/-! ## Steps under the condition -/

/-- **A step under the condition** serves current hosts only. -/
theorem World.Kept.step {event : Event} (h : s.Kept c) (hsettled : Settled c s event)
    (hstep : World.step c maxIdle s event = some t) : t.Kept c := by
  cases event with
  | ask host copy backoff =>
    simp only [World.step] at hstep
    obtain ⟨-, hstep⟩ := Option.ite_none_right_eq_some.mp hstep
    obtain ⟨q, hq, rfl⟩ := Option.map_eq_some_iff.mp hstep
    obtain ⟨hmoves, hat⟩ := ask_moves hq
    refine h.serve hmoves hat (fun v user hv => ?_) (fun host' => asked_eq_creating) ?_ fun i => asked_eq_inside
    · exact Function.update_of_ne (Nat.ne_of_lt (List.getElem?_eq_some_iff.mp hv).1) ..
    · rw [Function.update_self]
      exact hsettled
  | enter u backoff =>
    simp only [World.step] at hstep
    split at hstep
    · rename_i host hu
      obtain ⟨q, hq, rfl⟩ := Option.map_eq_some_iff.mp hstep
      simp only [Hosts.step, hu] at hq
      obtain ⟨hfree, hq⟩ := Option.ite_none_left_eq_some.mp hq
      obtain rfl := Option.some.inj hq
      obtain ⟨hmoves, hat⟩ := acquire_moves hu host backoff
      refine h.serve hmoves hat (fun _ _ _ => rfl) (fun host' hcreating => ?_) ?_ fun i => entering_eq_inside
      · obtain ⟨rfl, hnone⟩ := entering_eq_creating hcreating
        exact ⟨Bool.eq_false_of_not_eq_true hfree, hnone⟩
      · exact h.safe_entering (h.fits.users u _ hu)
    · cases hstep
  | load u =>
    simp only [World.step] at hstep
    split at hstep
    · rename_i host hu hcopies
      obtain ⟨row, hrow, rfl⟩ := Option.map_eq_some_iff.mp hstep
      exact ⟨h.sound, h.opened, h.fits.load hu hcopies hrow, h.current.handOuts, h.current.commands⟩
    · cases hstep
  | created u succeeds =>
    cases succeeds with
    | true =>
      simp only [World.step] at hstep
      split at hstep
      · rename_i host hu
        obtain ⟨args, hargs, hstep⟩ := Option.bind_eq_some_iff.mp hstep
        obtain ⟨q, hq, rfl⟩ := Option.map_eq_some_iff.mp hstep
        simp only [Hosts.step, hu] at hq
        obtain rfl := Option.some.inj hq
        refine h.register hu (h.fits.users u _ hu args ?_)
        obtain ⟨copy, hcopy, hargs⟩ := Option.bind_eq_some_iff.mp hargs
        rw [World.source, hcopy]
        exact hargs
      · cases hstep
    | false =>
      obtain ⟨q, hq, rfl⟩ := Option.map_eq_some_iff.mp hstep
      simp only [Hosts.step] at hq
      split at hq
      · obtain rfl := Option.some.inj hq
        have hmoves : Moves s.pool (s.pool.setUser u .gone) u .gone := Moves.setUser (.of_eq rfl rfl rfl)
        exact h.quiet hmoves
      · cases hq
  | execute u =>
    simp only [World.step] at hstep
    split at hstep
    · rename_i i hu
      obtain ⟨conn, hconn, rfl⟩ := Option.map_eq_some_iff.mp hstep
      have hmoves : Moves s.pool s.pool 0 .gone := .of_eq rfl rfl rfl
      refine ⟨h.sound, h.opened, h.fits.moves hmoves (fun _ _ _ => rfl) trivial, h.current.handOuts,
        fun isAlive hmem => ?_⟩
      obtain hmem | hmem := List.mem_append.mp hmem
      · exact h.current.commands isAlive hmem
      · rw [List.mem_singleton.mp hmem]
        exact h.fits.users u _ hu conn hconn
    · cases hstep
  | quiet label =>
    obtain ⟨hquiet, hstep⟩ := Option.ite_none_right_eq_some.mp hstep
    obtain ⟨q, hq, rfl⟩ := Option.map_eq_some_iff.mp hstep
    obtain ⟨u, hmoves⟩ := moves_of_isQuiet hquiet hq
    exact h.quiet hmoves
  | update host loaded data nonces =>
    obtain ⟨row, hrow, rfl⟩ := Option.map_eq_some_iff.mp hstep
    exact ⟨h.sound, h.opened, hsettled row hrow, h.current.handOuts, h.current.commands⟩
  | delete host =>
    obtain ⟨row, hrow, rfl⟩ := Option.map_eq_some_iff.mp hstep
    exact ⟨h.sound, h.opened, hsettled row hrow, h.current.handOuts, h.current.commands⟩

/-! ## What breaks -/

/-- Some events that meet the condition lead to a client or a command that is not current. -/
def Breaks (c : Cipher) (maxIdle : ℚ) (s : World) : Prop :=
  ∃ events t, Run (World.step c maxIdle) (Settled c) s events t ∧ ¬ t.Current

theorem breaks_of_step {event : Event} (hstep : World.step c maxIdle s event = some t)
    (hsettled : Settled c s event) (h : Breaks c maxIdle t) : Breaks c maxIdle s := by
  obtain ⟨events, v, hrun, hnot⟩ := h
  exact ⟨event :: events, v, .cons hsettled hstep hrun, hnot⟩

theorem breaks_of_not_current (h : ¬ s.Current) : Breaks c maxIdle s := ⟨[], s, .nil s, h⟩

/-- A client is handed out that is not current. -/
theorem not_current_serve (hat : q.users[u]? = some (.inside i)) (hnot : s.opened i ≠ s.current c host) :
    ¬ (s.serve c u host q).Current := by
  intro h
  refine hnot (h.handOuts ⟨s.opened i, s.current c host⟩ ?_).2
  unfold World.serve
  rw [hat]
  exact List.mem_concat_self

/-- **Who is inside** with a client of a deleted host may execute a command. -/
theorem breaks_inside (hu : s.pool.users[u]? = some (.inside i)) (hconn : s.pool.conns[i]? = some conn)
    (hdeleted : s.isAlive conn.hostId ≠ true) : Breaks c maxIdle s := by
  have hstep : World.step c maxIdle s (.execute u) =
      some { s with commands := s.commands ++ [s.isAlive conn.hostId] } := by
    simp only [World.step, hu, hconn, Option.map_some]
  refine breaks_of_step hstep trivial (breaks_of_not_current fun h => hdeleted ?_)
  exact h.commands _ List.mem_concat_self

/-- **Who creates a connection** from what is not current may succeed. -/
theorem breaks_creating (hu : s.pool.users[u]? = some (.creating host))
    (hargs : args ∈ s.source c host (s.copies u)) (hnot : args ∉ s.current c host) : Breaks c maxIdle s := by
  -- with the row in hand
  have hloaded {s : World} {copy : SSHHostConfig} (hu : s.pool.users[u]? = some (.creating host))
      (hcopy : s.copies u = some copy) (hargs : copy.connectArgs c = some args) (hnot : args ∉ s.current c host) :
      Breaks c maxIdle s := by
    have hstep : World.step c maxIdle s (.created u true) =
        some (World.serve c (s.register u host args) u host (s.pool.register u host)) := by
      simp only [World.step, Hosts.step, hu, hcopy, Option.bind_some, hargs, if_true, Option.map_some]
      rfl
    have hat : (s.pool.register u host).users[u]? = some (.inside s.pool.conns.length) :=
      List.getElem?_set_self (List.getElem?_eq_some_iff.mp hu).1
    refine breaks_of_step hstep trivial (breaks_of_not_current (not_current_serve hat ?_))
    rw [World.register_opened_length]
    exact fun h => hnot h.symm
  cases hcopies : s.copies u with
  | some copy =>
    rw [World.source, hcopies] at hargs
    exact hloaded hu hcopies hargs hnot
  | none =>
    rw [World.source, hcopies] at hargs
    obtain ⟨config, hconfig, hargs⟩ := Option.bind_eq_some_iff.mp hargs
    obtain ⟨row, hrow, rfl⟩ := Option.map_eq_some_iff.mp hconfig
    have hstep : World.step c maxIdle s (.load u) =
        some { s with copies := Function.update s.copies u (some row.toSSHHostConfig) } := by
      simp only [World.step, hu, hcopies, hrow, Option.map_some]
    exact breaks_of_step hstep trivial (hloaded hu (Function.update_self ..) hargs hnot)

/-- The step of a user that enters. -/
theorem step_enter (hu : s.pool.users[u]? = some (.waiting host)) (hfree : s.pool.isLocked host = false) :
    World.step c maxIdle s (.enter u backoff) = some (s.serve c u host (s.pool.acquire u host backoff)) := by
  simp only [World.step, Hosts.step, hu, hfree, Bool.false_eq_true, if_false, Option.map_some]

/-- **Who waits** may be given what the table has. -/
theorem breaks_pooled (hsound : s.pool.Sound) (hu : s.pool.users[u]? = some (.waiting host))
    (hhealthy : s.pool.healthyAt host = some i) (hnot : s.opened i ≠ s.current c host) : Breaks c maxIdle s := by
  have hfree : s.pool.isLocked host = false := by
    rw [← Bool.not_eq_true, isLocked_eq_true_iff]
    rintro ⟨v, hv⟩
    rw [hsound.unlocked v host hv] at hhealthy
    cases hhealthy
  have hat := (acquire_moves hu host false).2
  rw [State.entering, hhealthy] at hat
  exact breaks_of_step (step_enter hu hfree) trivial (breaks_of_not_current (not_current_serve hat hnot))

/-- A connection is found unhealthy. -/
theorem markUnhealthy_eq (p : State) (host : HostId) : ∃ q, step maxIdle p (.markUnhealthy host) = some q ∧
    q.users = p.users ∧ q.healthyAt host = none := by
  cases hentry : p.connections host with
  | none =>
    refine ⟨p, by simp only [step, hentry, Option.bind_none, Option.none_or], rfl, ?_⟩
    rw [State.healthyAt, hentry, Option.filter_none]
  | some i =>
    cases hconn : p.conns[i]? with
    | none =>
      refine ⟨p, by simp only [step, hentry, hconn, Option.bind_some, Option.map_none, Option.none_or], rfl, ?_⟩
      rw [State.healthyAt, hentry, Option.filter_some, hconn]
      rfl
    | some conn =>
      refine ⟨p.setConn i { conn with isHealthy := false },
        by simp only [step, hentry, hconn, Option.bind_some, Option.map_some, Option.some_or], rfl, ?_⟩
      have hset : (p.setConn i { conn with isHealthy := false }).conns[i]? = some { conn with isHealthy := false } :=
        List.getElem?_set_self (List.getElem?_eq_some_iff.mp hconn).1
      have hsame : (p.setConn i { conn with isHealthy := false }).connections host = some i := hentry
      rw [State.healthyAt, hsame, Option.filter_some, hset]
      rfl

/-- **Who waits** with what is not current may create a connection from it: who has the lock may fail, and the
connection in the table may break. -/
theorem breaks_waiting (hsound : s.pool.Sound) (hu : s.pool.users[u]? = some (.waiting host))
    (hargs : args ∈ s.source c host (s.copies u)) (hnot : args ∉ s.current c host) : Breaks c maxIdle s := by
  -- with the lock free
  have hunlocked {s : World} (hu : s.pool.users[u]? = some (.waiting host)) (hfree : s.pool.isLocked host = false)
      (hargs : args ∈ s.source c host (s.copies u)) (hnot : args ∉ s.current c host) : Breaks c maxIdle s := by
    obtain ⟨q, hq, husers, hnone⟩ := @markUnhealthy_eq maxIdle s.pool host
    have hmark : World.step c maxIdle s (.quiet (.markUnhealthy host)) = some { s with pool := q } := by
      simp only [World.step, Label.isQuiet, if_true, hq, Option.map_some]
    refine breaks_of_step hmark trivial ?_
    have hq : q.users[u]? = some (.waiting host) := by rw [husers, hu]
    have hfree : q.isLocked host = false := by rw [State.isLocked, husers, ← State.isLocked, hfree]
    have hat := (acquire_moves hq host false).2
    rw [State.entering, hnone, if_neg Bool.false_ne_true] at hat
    exact breaks_of_step (@step_enter c maxIdle host u false { s with pool := q } hq hfree) trivial
      (breaks_creating hat hargs hnot)
  by_cases hlocked : s.pool.isLocked host = true
  · obtain ⟨v, hv⟩ := isLocked_eq_true_iff.mp hlocked
    have hstep : World.step c maxIdle s (.created v false) = some { s with pool := s.pool.setUser v .gone } := by
      simp only [World.step, Hosts.step, hv, Bool.false_eq_true, if_false, Option.map_some]
    refine breaks_of_step hstep trivial (hunlocked ?_ ?_ hargs hnot)
    · have hne : v ≠ u := by
        rintro rfl
        rw [hu] at hv
        cases hv
      exact (List.getElem?_set_ne hne).trans hu
    · rw [← Bool.not_eq_true, isLocked_eq_true_iff]
      rintro ⟨w, hw⟩
      obtain ⟨-, heq⟩ | ⟨hne, hw⟩ := set_eq_some hw
      · cases heq
      · exact hne (hsound.alone w v host hw hv)
  · exact hunlocked hu (Bool.eq_false_of_not_eq_true hlocked) hargs hnot

/-- **Who asks** is given what the table has, at once or after it has waited for the lock. -/
theorem breaks_asking (hsound : s.pool.Sound) (halive : s.isAlive host = true)
    (hhealthy : s.pool.healthyAt host = some i) (hnot : s.opened i ≠ s.current c host) : Breaks c maxIdle s := by
  obtain ⟨hentry, -⟩ := healthyAt_eq_some_iff.mp hhealthy
  obtain ⟨conn, hconn, hhost⟩ := hsound.hosts host i hentry
  obtain ⟨q, hq⟩ : ∃ q, step maxIdle s.pool (.ask host false) = some q := by
    simp only [step]
    split <;> exact ⟨_, rfl⟩
  obtain ⟨hmoves, hat⟩ := ask_moves hq
  have hstep : World.step c maxIdle s (.ask host none false) = some
      (World.serve c { s with copies := Function.update s.copies s.pool.users.length none }
        s.pool.users.length host q) := by
    simp only [World.step, Option.all_none, if_true, hq, Option.map_some]
  by_cases hfree : s.pool.isFree host = true
  · have hasked : s.pool.asked host false = .inside i := by
      rw [State.asked, if_pos hfree, State.entering, hhealthy]
    rw [hasked] at hat
    have hsettled : Settled c s (.ask host none false) := by
      rw [Settled, hasked]
      intro old hold
      obtain rfl := Option.some.inj (hconn.symm.trans hold)
      rw [hhost]
      exact halive
    exact breaks_of_step hstep hsettled (breaks_of_not_current (not_current_serve hat hnot))
  · have hasked : s.pool.asked host false = .waiting host := if_neg hfree
    have hsettled : Settled c s (.ask host none false) := by
      rw [Settled, hasked]
      exact ⟨fun args hargs => source_none halive ▸ hargs, fun _ => halive⟩
    rw [hasked] at hat hmoves
    -- it waits behind others, and the table has what it had
    have hsame : q.healthyAt host = some i := by
      simp only [step, if_neg hfree] at hq
      obtain rfl := Option.some.inj hq
      exact hhealthy
    exact breaks_of_step hstep hsettled
      (breaks_pooled (hsound.moves hmoves fun _ => User.noConfusion) hat hsame hnot)

/-- **A world that nothing breaks** fits: its users are safe, and its table has what is current. -/
theorem fits_of_not_breaks (hsound : s.pool.Sound) (h : ¬ Breaks c maxIdle s) : s.Fits c := by
  refine ⟨fun host halive args hargs => ?_, fun u user hu => ?_⟩
  · obtain ⟨i, hi, hsome⟩ := Option.bind_eq_some_iff.mp hargs
    by_contra hnot
    refine h (breaks_asking hsound halive hi fun heq => hnot ?_)
    rw [Option.mem_def, ← heq, hsome]
  · cases user with
    | waiting host =>
      refine ⟨fun args hargs => ?_, fun hpooled => ?_⟩
      · by_contra hnot
        exact h (breaks_waiting hsound hu hargs hnot)
      · obtain ⟨args, hargs⟩ := Option.isSome_iff_exists.mp hpooled
        obtain ⟨i, hi, hsome⟩ := Option.bind_eq_some_iff.mp hargs
        by_contra hdeleted
        refine h (breaks_pooled hsound hu hi fun heq => hdeleted ?_)
        rw [hsome] at heq
        exact isAlive_of_mem_current heq.symm
    | creating host =>
      intro args hargs
      by_contra hnot
      exact h (breaks_creating hu hargs hnot)
    | inside i =>
      intro conn hconn
      by_contra hdeleted
      exact h (breaks_inside hu hconn hdeleted)
    | gone => trivial

/-- **The condition is exact**: what nothing breaks has been reached under it. -/
theorem World.Kept.settled {event : Event} (h : s.Kept c) (hstep : World.step c maxIdle s event = some t)
    (hnot : ¬ Breaks c maxIdle t) : Settled c s event := by
  cases event with
  | ask host copy backoff =>
    simp only [World.step] at hstep
    obtain ⟨-, hstep⟩ := Option.ite_none_right_eq_some.mp hstep
    obtain ⟨q, hq, rfl⟩ := Option.map_eq_some_iff.mp hstep
    obtain ⟨hmoves, hat⟩ := ask_moves hq
    have hfits := fits_of_not_breaks (h.sound.moves hmoves fun host' => asked_eq_creating) hnot
    have hsafe := hfits.users s.pool.users.length _ hat
    change World.Safe c _ (Function.update s.copies s.pool.users.length copy s.pool.users.length) _ at hsafe
    rw [Function.update_self] at hsafe
    rw [Settled]
    cases hasked : s.pool.asked host backoff with
    | waiting host' =>
      rw [hasked] at hsafe
      refine ⟨hsafe.1, fun hpooled => hsafe.2 ?_⟩
      have hfree : ¬ s.pool.isFree host = true := by
        intro hfree
        rw [State.asked, if_pos hfree, State.entering] at hasked
        split at hasked
        · cases hasked
        · split at hasked <;> cases hasked
      simp only [Hosts.step, if_neg hfree] at hq
      obtain rfl := Option.some.inj hq
      exact hpooled
    | creating host' =>
      rw [hasked] at hsafe
      exact hsafe
    | inside i =>
      rw [hasked] at hsafe
      intro conn hconn
      have hlt : i < q.conns.length := by
        rw [hmoves.length]
        exact (List.getElem?_eq_some_iff.mp hconn).1
      obtain ⟨old, hold, hhost, -⟩ := hmoves.conns i _ (List.getElem?_eq_getElem hlt)
      obtain rfl := Option.some.inj (hold.symm.trans hconn)
      rw [hhost]
      exact hsafe _ (List.getElem?_eq_getElem hlt)
    | gone => trivial
  | update host loaded data nonces =>
    obtain ⟨row, hrow, rfl⟩ := Option.map_eq_some_iff.mp hstep
    intro row' hrow'
    obtain rfl := Option.some.inj (hrow.symm.trans hrow')
    exact fits_of_not_breaks h.sound hnot
  | delete host =>
    obtain ⟨row, hrow, rfl⟩ := Option.map_eq_some_iff.mp hstep
    intro row' hrow'
    obtain rfl := Option.some.inj (hrow.symm.trans hrow')
    exact fits_of_not_breaks h.sound hnot
  | enter | load | created | execute | quiet => trivial

/-! ## Runs -/

/-- A pool without connections, and whatever hosts there are; one that is created later is one that nobody asks
for before. -/
def World.start (rows : HostId → Option Host) : World := { versions := fun host => (rows host).toList }

theorem World.Kept.start (rows : HostId → Option Host) : (World.start rows).Kept c := by
  refine ⟨⟨?_, ?_, ?_⟩, ?_, ⟨?_, ?_⟩, List.forall_mem_nil _, List.forall_mem_nil _⟩
  · intro host i hi
    cases hi
  · intro u v host hu
    cases hu
  · intro u host hu
    cases hu
  · intro i conn hi
    cases hi
  · intro host _ args hargs
    cases hargs
  · intro u user hu
    cases hu

/-- **Along a run under the condition** the pool serves current hosts only; and the condition is exact: an event
meets it just if everything that can follow under the condition serves current hosts only. -/
theorem current_run_iff {rows : HostId → Option Host} {events : List Event}
    (h : Run (World.step c maxIdle) (Settled c) (World.start rows) events s) :
    s.Current ∧ ∀ event t, World.step c maxIdle s event = some t →
      ((∀ events u, Run (World.step c maxIdle) (Settled c) t events u → u.Current) ↔ Settled c s event) := by
  have hstep (s : World) (event : Event) (t : World) (hs : s.Kept c) (hsettled : Settled c s event)
      (hst : World.step c maxIdle s event = some t) : t.Kept c := hs.step hsettled hst
  have hkept : s.Kept c := h.invariant hstep (.start rows)
  refine ⟨hkept.current, fun event t hst => ⟨fun hall => ?_, fun hsettled events u hrun => ?_⟩⟩
  · refine hkept.settled hst ?_
    rintro ⟨events, u, hrun, hnot⟩
    exact hnot (hall events u hrun)
  · exact (hrun.invariant hstep (hkept.step hsettled hst)).current

/-! ## A host that moves -/

/-- A host. -/
def web : Host where
  name := "web".toList
  host := "10.0.0.1".toList
  port := some 22
  username := "root".toList
  authType := some "agent".toList
  passwordEncrypted := none
  privateKeyEncrypted := none

/-- It is the only one. -/
def webOnly (host : HostId) : Option Host := if host = 1 then some web else none

/-- A connection is created, and used. -/
def used : List Event := [.ask 1 none false, .load 0, .created 0 true, .quiet (.leave 0 false)]

/-- The host moves. -/
def moves : Event := .update 1 web { host := some (some "10.0.0.2".toList) } (0, 0)

/-- The world after some events. -/
def World.after (events : List Event) : World :=
  (exec (World.step markingCipher 300) Always (World.start webOnly) events).getD (World.start webOnly)

/-- What is handed out before and after the move. -/
def webArgs (hostname : String) : ConnectArgs where
  hostname := hostname.toList
  port := some 22
  username := "root".toList
  credentials := .agent

/-- The connection breaks before the host moves. -/
def brokenBefore : List Event := used ++ [.quiet (.markUnhealthy 1), moves, .ask 1 none false, .load 1, .created 1 true]

/-- **The host is served where it is.** -/
theorem brokenBefore_current : (World.after brokenBefore).Current ∧
    (World.after brokenBefore).handOuts.map HandOut.opened = [webArgs "10.0.0.1", webArgs "10.0.0.2"] := by
  refine ⟨(@current_run_iff markingCipher 300 _ webOnly brokenBefore ?_).1, by decide⟩
  refine .cons ?_ rfl (.cons trivial rfl (.cons trivial rfl (.cons trivial rfl (.cons trivial rfl
    (.cons ?_ rfl (.cons ?_ rfl (.cons trivial rfl (.cons trivial rfl (.nil _)))))))))
  · exact fun args hargs => hargs
  · intro row hrow
    refine ⟨fun host _ args hargs => ?_, fun u user hu => ?_⟩
    · obtain ⟨i, hi, -⟩ := Option.bind_eq_some_iff.mp hargs
      obtain ⟨-, conn, hconn, hhealthy⟩ := healthyAt_eq_some_iff.mp hi
      -- the only connection is not healthy
      obtain rfl := List.mem_singleton.mp (List.mem_of_getElem? hconn)
      cases hhealthy
    · obtain rfl := List.mem_singleton.mp (List.mem_of_getElem? hu)
      trivial
  · exact fun args hargs => hargs

/-- **The host is served where it was**, and after it has been deleted. -/
theorem moves_not_current :
    (Run (World.step markingCipher 300) Always (World.start webOnly) (used ++ [moves, .ask 1 none false])
      (World.after (used ++ [moves, .ask 1 none false])) ∧
        ¬ (World.after (used ++ [moves, .ask 1 none false])).Current) ∧
    (Run (World.step markingCipher 300) Always (World.start webOnly)
      (used ++ [.delete 1, .ask 1 none false, .execute 1])
      (World.after (used ++ [.delete 1, .ask 1 none false, .execute 1])) ∧
        ¬ (World.after (used ++ [.delete 1, .ask 1 none false, .execute 1])).Current) := by
  refine ⟨⟨.of_isSome (by decide), fun h => ?_⟩, .of_isSome (by decide), fun h => ?_⟩
  · have hout : (World.after (used ++ [moves, .ask 1 none false])).handOuts =
        [⟨webArgs "10.0.0.1", webArgs "10.0.0.1"⟩, ⟨webArgs "10.0.0.1", webArgs "10.0.0.2"⟩] := by decide
    have hcurrent := h.handOuts ⟨webArgs "10.0.0.1", webArgs "10.0.0.2"⟩ (by rw [hout]; simp)
    exact absurd hcurrent.2 (by decide)
  · have hcommands : (World.after (used ++ [.delete 1, .ask 1 none false, .execute 1])).commands = [false] := by
      decide
    exact absurd (h.commands false (by rw [hcommands]; simp)) Bool.false_ne_true

end DBClaw.Hosts
