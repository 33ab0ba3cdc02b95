import DBClaw.Library.Runs
import Mathlib.Logic.Function.Basic

/-! # Sessions and their revocation
Logins, the two authentication paths (`get_current_user` for requests and
`_authenticate_websocket_session` for websocket connects and messages) and the handlers that revoke
sessions, over the committed rows of `app_user` and `user_session`. A handler is a task that runs
from one database await to the next; what it has read and not yet used stands in its stage, and what
it has written becomes visible at the step that commits it. A revoking handler reads
`session_version`, adds one, updates the sessions that are active when its bulk `UPDATE` runs, and
commits all of it later. -/

namespace DBClaw.Auth

abbrev UserId := ℕ
abbrev SessionId := ℕ

/-! ## Rows -/

/-- A row of `app_user`, as far as authentication reads it. -/
structure User where
  username : String
  isActive : Bool := true
  isAdmin : Bool := false
  isDeleted : Bool := false
  sessionVersion : ℕ := 1
  deriving DecidableEq, Repr, Inhabited

/-- `UserSession.status`. -/
inductive Status
  | active | expired | revoked
  deriving DecidableEq, Repr

/-- A row of `user_session`. -/
structure UserSession where
  userId : UserId
  sessionVersion : ℕ
  status : Status := .active
  expiresAt : ℕ
  deriving DecidableEq, Repr

/-- What a request asks for once it is authenticated, as far as sessions are concerned. -/
inductive Op
  /-- Any other endpoint. -/
  | plain
  | logout
  | logoutAll
  /-- `change_password`, with what `verify_password` says of the old one. -/
  | changePassword (oldMatches : Bool)
  | deleteUser (target : UserId)
  | resetPassword (target : UserId)
  | toggleStatus (target : UserId)
  deriving DecidableEq, Repr

/-- What a revoking handler writes to the user's row. -/
structure UserChange where
  sessionVersion : ℕ
  deactivate : Bool := false
  delete : Bool := false
  deriving DecidableEq, Repr

/-- **A running handler**, with the await it stands at and what it holds. -/
inductive Task
  /-- `login`: waits for the user's row. -/
  | loginRead (userId : UserId) (passwordMatches : Bool)
  /-- `login`: waits for the commit of the new session. -/
  | loginCommit (userId : UserId) (sessionVersion expiresAt : ℕ)
  /-- `get_current_user`: waits for the session's row. -/
  | httpReadSession (op : Op) (cookie : Option SessionId)
  /-- `get_current_user`: waits for the user's row. -/
  | httpReadUser (op : Op) (sid : SessionId) (session : UserSession)
  /-- `get_current_user`: waits for the commit of the refusal. -/
  | httpReject (sid : SessionId)
  /-- `get_current_user`: waits for the commit of `touch_session`, after which it returns the user. -/
  | httpTouch (op : Op) (sid : SessionId) (session : UserSession) (user : User) (expiresAt : ℕ)
  /-- `get_active_session`: waits for the commit of the expiry. -/
  | expire (sid : SessionId)
  /-- `logout`: waits for the session's row. -/
  | logoutRead (sid : SessionId)
  /-- `logout`: waits for its commit. -/
  | logoutCommit (sid : SessionId)
  /-- The user administration: waits for the row of the target; `actor` is the administrator. -/
  | readTarget (op : Op) (target actorId : UserId) (actor : User)
  /-- A revoking handler: waits for the bulk `UPDATE` of the sessions. -/
  | revokeStatement (userId : UserId) (change : UserChange)
  /-- A revoking handler: the sessions in `updated` are updated; waits for the commit. -/
  | revokeCommit (userId : UserId) (change : UserChange) (updated : SessionId → Bool)
  /-- `toggle_status` of a disabled user: waits for the commit. -/
  | enableCommit (userId : UserId)
  /-- `_authenticate_websocket_session`: waits for the session's row. -/
  | wsReadSession (cookie : Option SessionId)
  /-- `_authenticate_websocket_session`: waits for the user's row. -/
  | wsReadUser (sid : SessionId) (session : UserSession)
  /-- `_authenticate_websocket_session`: waits for the row of the chat session. -/
  | wsReadChat (sid : SessionId) (session : UserSession)
  /-- `_authenticate_websocket_session`: waits for the commit of `touch_session`, after which it
  returns the user. -/
  | wsTouch (sid : SessionId) (session : UserSession) (expiresAt : ℕ)

/-- What happened, in the order of the commits and returns. -/
inductive Event
  /-- An authentication returned the user for this session. -/
  | accepted (sid : SessionId) (userId : UserId) (sessionVersion : ℕ)
  /-- A revocation of all sessions of a user was committed: the version it wrote, and the sessions
  that were active when it was. -/
  | revoked (userId : UserId) (sessionVersion : ℕ) (active : SessionId → Bool)
  /-- A logout of one session was committed. -/
  | loggedOut (sid : SessionId)

/-- The committed rows, the running handlers and what happened. -/
structure State where
  users : UserId → Option User := fun _ => none
  sessions : SessionId → Option UserSession := fun _ => none
  nextSession : ℕ := 0
  tasks : ℕ → Option Task := fun _ => none
  nextTask : ℕ := 0
  history : List Event := []
  deriving Inhabited

namespace State

/-- Task `i` is suspended at `task`. -/
def suspend (s : State) (i : ℕ) (task : Task) : State :=
  { s with tasks := Function.update s.tasks i (some task) }

/-- Task `i` ends. -/
def finish (s : State) (i : ℕ) : State := { s with tasks := Function.update s.tasks i none }

/-- An event is recorded. -/
def log (s : State) (e : Event) : State := { s with history := s.history ++ [e] }

/-- A session's row changes. -/
def updateSession (s : State) (sid : SessionId) (f : UserSession → UserSession) : State :=
  { s with sessions := Function.update s.sessions sid ((s.sessions sid).map f) }

/-- A user's row changes. -/
def updateUser (s : State) (userId : UserId) (f : User → User) : State :=
  { s with users := Function.update s.users userId ((s.users userId).map f) }

/-- A new session row. -/
def addSession (s : State) (session : UserSession) : State :=
  { s with
    sessions := Function.update s.sessions s.nextSession (some session)
    nextSession := s.nextSession + 1 }

/-- `select(User).where(User.id == userId, alive_filter(User))`. -/
def aliveUser (s : State) (userId : UserId) : Option User :=
  (s.users userId).filter fun u => ! u.isDeleted

/-- The session is an active one of the user. -/
def isActiveOf (s : State) (userId : UserId) (sid : SessionId) : Bool :=
  match s.sessions sid with
  | some session => session.userId == userId && session.status == .active
  | none => false

end State

/-! ## The two authentication paths -/

/-- What `get_active_session` finds. -/
inductive Lookup
  | none
  | expired (sid : SessionId)
  | found (sid : SessionId) (session : UserSession)

/-- **`get_active_session`**, with its clock. -/
def getActiveSession (s : State) (now : ℕ) : Option SessionId → Lookup
  | none => .none
  | some sid =>
    match s.sessions sid with
    | some session =>
      if session.status ≠ .active then .none
      else if session.expiresAt ≤ now then .expired sid
      else .found sid session
    | none => .none

/-- The user that `get_current_user` admits for a session, when it reads the user's row. -/
def httpUser (s : State) (session : UserSession) : Option User :=
  (s.aliveUser session.userId).filter fun u =>
    u.isActive && session.sessionVersion == u.sessionVersion

/-- The user that `_authenticate_websocket_session` admits for a session, when it reads the user's
row. -/
def wsUser (s : State) (session : UserSession) : Option User :=
  (s.aliveUser session.userId).filter fun u => u.isActive

/-- `get_current_user` run without interruption. -/
def httpAccepts (s : State) (now : ℕ) (sid : SessionId) : Bool :=
  match getActiveSession s now (some sid) with
  | .found _ session => (httpUser s session).isSome
  | _ => false

/-- `_authenticate_websocket_session` run without interruption, for a chat session of the user. -/
def wsAccepts (s : State) (now : ℕ) (sid : SessionId) : Bool :=
  match getActiveSession s now (some sid) with
  | .found _ session => (wsUser s session).isSome
  | _ => false

/-! ## Handlers -/

/-- The handler that `op` names, once `get_current_user` returned `user`. -/
def handle (s : State) (i : ℕ) (sid : SessionId) (userId : UserId) (user : User) : Op → State
  | .plain => s.finish i
  | .logout => s.suspend i (.logoutRead sid)
  | .logoutAll =>
    s.suspend i (.revokeStatement userId { sessionVersion := user.sessionVersion + 1 })
  | .changePassword oldMatches =>
    if oldMatches then
      s.suspend i (.revokeStatement userId { sessionVersion := user.sessionVersion + 1 })
    else s.finish i
  | .deleteUser target =>
    if user.isAdmin && userId != target then
      s.suspend i (.readTarget (.deleteUser target) target userId user)
    else s.finish i
  | .resetPassword target =>
    if user.isAdmin then s.suspend i (.readTarget (.resetPassword target) target userId user)
    else s.finish i
  | .toggleStatus target =>
    if user.isAdmin && userId != target then
      s.suspend i (.readTarget (.toggleStatus target) target userId user)
    else s.finish i

/-- The rest of an administrative handler, once it has the target's row. -/
def handleTarget (s : State) (i : ℕ) (target actorId : UserId) (user : User) : Op → State
  | .deleteUser _ =>
    s.suspend i (.revokeStatement target
      { sessionVersion := user.sessionVersion + 1, delete := true })
  | .resetPassword _ =>
    if user.username == "admin" && actorId != target then s.finish i
    else s.suspend i (.revokeStatement target { sessionVersion := user.sessionVersion + 1 })
  | .toggleStatus _ =>
    if user.isActive then
      s.suspend i (.revokeStatement target
        { sessionVersion := user.sessionVersion + 1, deactivate := true })
    else s.suspend i (.enableCommit target)
  | _ => s.finish i

/-- What a revoking handler makes of the user's row. -/
def UserChange.apply (change : UserChange) (user : User) : User :=
  { user with
    sessionVersion := change.sessionVersion
    isActive := user.isActive && ! change.deactivate
    isDeleted := user.isDeleted || change.delete }

/-- The commit of a revoking handler. -/
def commitRevoke (s : State) (userId : UserId) (change : UserChange)
    (updated : SessionId → Bool) : State :=
  { s with
    users := Function.update s.users userId ((s.users userId).map change.apply)
    sessions := fun sid => (s.sessions sid).map fun session =>
      if updated sid then { session with status := .revoked } else session
    history := s.history ++ [.revoked userId change.sessionVersion (s.isActiveOf userId)] }

/-- **A handler runs from its await to the next one.** `idle` is the idle timeout, `now` the clock and
`chatFound` says whether the chat session of a websocket is there. -/
def resume (idle : ℕ) (s : State) (i now : ℕ) (chatFound : Bool) : Task → State
  | .loginRead userId passwordMatches =>
    match s.aliveUser userId with
    | some user =>
      if passwordMatches && user.isActive then
        s.suspend i (.loginCommit userId user.sessionVersion (now + idle))
      else s.finish i
    | none => s.finish i
  | .loginCommit userId sessionVersion expiresAt =>
    (s.addSession { userId, sessionVersion, expiresAt }).finish i
  | .httpReadSession op cookie =>
    match getActiveSession s now cookie with
    | .none => s.finish i
    | .expired sid => s.suspend i (.expire sid)
    | .found sid session => s.suspend i (.httpReadUser op sid session)
  | .httpReadUser op sid session =>
    match httpUser s session with
    | some user => s.suspend i (.httpTouch op sid session user (now + idle))
    | none => s.suspend i (.httpReject sid)
  | .httpReject sid => (s.updateSession sid ({ · with status := .revoked })).finish i
  | .httpTouch op sid session user expiresAt =>
    handle ((s.updateSession sid ({ · with expiresAt := expiresAt })).log
      (.accepted sid session.userId session.sessionVersion)) i sid session.userId user op
  | .expire sid => (s.updateSession sid ({ · with status := .expired })).finish i
  | .logoutRead sid =>
    match getActiveSession s now (some sid) with
    | .none => s.finish i
    | .expired sid => s.suspend i (.expire sid)
    | .found sid _ => s.suspend i (.logoutCommit sid)
  | .logoutCommit sid =>
    ((s.updateSession sid ({ · with status := .revoked })).log (.loggedOut sid)).finish i
  | .readTarget op target actorId actor =>
    match s.aliveUser target with
    -- the administrator's own row is an object that the request holds already
    | some row => handleTarget s i target actorId (if target = actorId then actor else row) op
    | none => s.finish i
  | .revokeStatement userId change =>
    s.suspend i (.revokeCommit userId change (s.isActiveOf userId))
  | .revokeCommit userId change updated => (commitRevoke s userId change updated).finish i
  | .enableCommit userId => (s.updateUser userId ({ · with isActive := true })).finish i
  | .wsReadSession cookie =>
    match getActiveSession s now cookie with
    | .none => s.finish i
    | .expired sid => s.suspend i (.expire sid)
    | .found sid session => s.suspend i (.wsReadUser sid session)
  | .wsReadUser sid session =>
    match wsUser s session with
    | some _ => s.suspend i (.wsReadChat sid session)
    | none => s.finish i
  | .wsReadChat sid session =>
    if chatFound then s.suspend i (.wsTouch sid session (now + idle)) else s.finish i
  | .wsTouch sid session expiresAt =>
    ((s.updateSession sid ({ · with expiresAt := expiresAt })).log
      (.accepted sid session.userId session.sessionVersion)).finish i

/-- What can happen next. -/
inductive Label
  /-- A login with the username of this user; `passwordMatches` is what `verify_password` says. -/
  | login (userId : UserId) (passwordMatches : Bool)
  /-- A request with this cookie. -/
  | http (op : Op) (cookie : Option SessionId)
  /-- A websocket connects, or a message arrives on one. -/
  | websocket (cookie : Option SessionId)
  /-- Task `i` runs to its next await. -/
  | resume (i now : ℕ) (chatFound : Bool)
  /-- Task `i` ends by an exception or a cancellation at its await. -/
  | cancel (i : ℕ)

/-- A new handler waits for its first row. -/
def spawn (s : State) (task : Task) : State :=
  { s with
    tasks := Function.update s.tasks s.nextTask (some task)
    nextTask := s.nextTask + 1 }

/-- **One step of the system.** -/
def step (idle : ℕ) (s : State) : Label → Option State
  | .login userId passwordMatches => some (spawn s (.loginRead userId passwordMatches))
  | .http op cookie => some (spawn s (.httpReadSession op cookie))
  | .websocket cookie => some (spawn s (.wsReadSession cookie))
  | .resume i now chatFound => (s.tasks i).map (resume idle s i now chatFound)
  | .cancel i => some (s.finish i)

end DBClaw.Auth
