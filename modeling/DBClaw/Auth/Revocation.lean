import DBClaw.Auth.Sessions

/-! # Revoked sessions stay revoked
`RevokedStay` says that no authentication returns a user for a session that an earlier committed
revocation or logout covers, and `SamePaths` that the two authentication paths agree. The request
path compares the session's version with the user's and the websocket path does not, so both fail
once a login that read the old version commits after the bulk update. They hold in every run in
which the commits of revocations, logins and logouts of one user do not fall into each other's reads
(`Calm`); the invariant `Sound` is that an active session carries its user's current version. -/

namespace DBClaw.Auth

open Runs

variable {idle : ℕ} {s t : State} {label : Label}

/-! ## The property -/

/-- A later acceptance that an earlier event rules out: of a session with an older version than the
one the revocation wrote, or of one that was active before it. -/
def Event.Forbids : Event → Event → Prop
  | .revoked userId version active, .accepted sid userId' version' =>
    userId' = userId ∧ (version' < version ∨ active sid = true)
  | .loggedOut sid, .accepted sid' _ _ => sid' = sid
  | _, _ => False

instance : ∀ e a : Event, Decidable (e.Forbids a)
  | .revoked _ _ _, .accepted _ _ _ => inferInstanceAs (Decidable (_ ∧ _))
  | .loggedOut _, .accepted _ _ _ => inferInstanceAs (Decidable (_ = _))
  | .accepted _ _ _, _ | .revoked _ _ _, .revoked _ _ _ | .revoked _ _ _, .loggedOut _
  | .loggedOut _, .revoked _ _ _ | .loggedOut _, .loggedOut _ => .isFalse id

/-- **Revoked sessions stay revoked.** -/
def RevokedStay (s : State) : Prop := s.history.Pairwise fun e a => ¬ e.Forbids a

instance (s : State) : Decidable (RevokedStay s) := inferInstanceAs (Decidable (List.Pairwise _ _))

/-- **The two authentication paths accept the same sessions**, at any time. -/
def SamePaths (s : State) : Prop := ∀ now sid, httpAccepts s now sid = wsAccepts s now sid

/-- Nobody has logged in yet. -/
structure Start (s : State) : Prop where
  sessions : ∀ sid, s.sessions sid = none
  tasks : ∀ i, s.tasks i = none
  history : s.history = []

/-! ## The condition -/

namespace Task

/-- The task goes on to use what it has read of the user: an older version in a login or another
revocation, or a decision that an authentication has not returned yet. -/
def carries (userId : UserId) : Task → Bool
  | .loginCommit u _ _ | .revokeStatement u _ | .revokeCommit u _ _ => u == userId
  | .readTarget _ target actorId _ => target == userId && actorId == userId
  | .httpTouch _ _ session _ _ | .wsReadUser _ session | .wsReadChat _ session
  | .wsTouch _ session _ => session.userId == userId
  | _ => false

/-- The task has updated the sessions of the user and not committed yet. -/
def committing (userId : UserId) : Task → Bool
  | .revokeCommit u _ _ => u == userId
  | _ => false

/-- The task authenticates the session and has read its row. -/
def uses (sid : SessionId) : Task → Bool
  | .httpReadUser _ x _ | .httpTouch _ x _ _ _ | .wsReadUser x _ | .wsReadChat x _
  | .wsTouch x _ _ => x == sid
  | _ => false

end Task

/-- Some task other than `i` is of this kind. -/
def State.others (s : State) (i : ℕ) (kind : Task → Bool) : Bool :=
  (List.range s.nextTask).any fun j =>
    j != i && match s.tasks j with
      | some task => kind task
      | none => false

/-- **When a step is calm.** A revocation of a user is committed while nothing else goes on with what
it has read of the user, a login while no revocation of the user stands between its update and its
commit, a logout while no authentication of the session has read its row. -/
def calm (s : State) : Label → Bool
  | .resume i _ _ =>
    match s.tasks i with
    | some (.revokeCommit userId _ _) => ! s.others i (Task.carries userId)
    | some (.loginCommit userId _ _) => ! s.others i (Task.committing userId)
    | some (.logoutCommit sid) => ! s.others i (Task.uses sid)
    | _ => true
  | _ => true

/-- `calm` as a condition on runs. -/
def Calm (s : State) (label : Label) : Prop := calm s label = true

instance (s : State) (label : Label) : Decidable (Calm s label) :=
  inferInstanceAs (Decidable (_ = _))

/-! ## The invariant -/

/-- The user's current version. -/
def Version (s : State) (userId : UserId) (version : ℕ) : Prop :=
  ∃ user, s.users userId = some user ∧ user.sessionVersion = version

/-- The session's row belongs to the user and carries the version that a task has read. -/
def Row (s : State) (sid : SessionId) (session : UserSession) : Prop :=
  ∃ row, s.sessions sid = some row ∧ row.userId = session.userId ∧
    row.sessionVersion = session.sessionVersion

/-- No logout of the session was committed. -/
def NotLoggedOut (s : State) (sid : SessionId) : Prop := ∀ e ∈ s.history, e ≠ .loggedOut sid

/-- A session that may be accepted. -/
structure Acceptable (s : State) (sid : SessionId) (session : UserSession) : Prop where
  row : Row s sid session
  notLoggedOut : NotLoggedOut s sid
  version : Version s session.userId session.sessionVersion

/-- **What a task holds is still right.** -/
def TaskOk (s : State) : Task → Prop
  | .loginCommit userId version _ => Version s userId version
  | .httpReadUser _ sid session => Row s sid session ∧ NotLoggedOut s sid
  | .httpTouch _ sid session user _ =>
    Acceptable s sid session ∧ user.sessionVersion = session.sessionVersion
  | .readTarget _ target actorId actor => target = actorId → Version s target actor.sessionVersion
  | .revokeStatement userId change => ∃ v, Version s userId v ∧ change.sessionVersion = v + 1
  | .revokeCommit userId change updated =>
    (∃ v, Version s userId v ∧ change.sessionVersion = v + 1) ∧
      ∀ sid, s.isActiveOf userId sid = true → updated sid = true
  | .logoutCommit sid => ∃ session, Row s sid session
  | .wsReadUser sid session | .wsReadChat sid session | .wsTouch sid session _ =>
    Acceptable s sid session
  | _ => True

/-- **The invariant of calm runs.** -/
structure Sound (s : State) : Prop where
  tasks : ∀ i task, s.tasks i = some task → TaskOk s task
  taskLt : ∀ i task, s.tasks i = some task → i < s.nextTask
  sessionLt : ∀ sid, s.nextSession ≤ sid → s.sessions sid = none
  current : ∀ sid session, s.sessions sid = some session → session.status = .active →
    Version s session.userId session.sessionVersion
  revoked : ∀ userId version active, .revoked userId version active ∈ s.history →
    (∃ w, Version s userId w ∧ version ≤ w) ∧
      ∀ sid, active sid = true → ∃ session, s.sessions sid = some session ∧
        session.userId = userId ∧ session.sessionVersion < version
  loggedOut : ∀ sid, .loggedOut sid ∈ s.history →
    ∃ session, s.sessions sid = some session ∧ session.status ≠ .active
  stay : RevokedStay s

/-- A start is sound. -/
theorem Start.sound (h : Start s) : Sound s where
  tasks i task hi := by rw [h.tasks i] at hi; cases hi
  taskLt i task hi := by rw [h.tasks i] at hi; cases hi
  sessionLt sid _ := h.sessions sid
  current sid session hs := by rw [h.sessions sid] at hs; cases hs
  revoked userId version active he := by rw [h.history] at he; cases he
  loggedOut sid he := by rw [h.history] at he; cases he
  stay := by rw [RevokedStay, h.history]; exact .nil

theorem isActiveOf_iff {userId : UserId} {sid : SessionId} : s.isActiveOf userId sid = true ↔
    ∃ session, s.sessions sid = some session ∧ session.userId = userId ∧ session.status = .active := by
  unfold State.isActiveOf
  split
  · rename_i session hsession
    simp [hsession]
  · rename_i hnone
    simp [hnone]

/-- The user's version is unique. -/
theorem Version.unique {userId : UserId} {v w : ℕ} (hv : Version s userId v)
    (hw : Version s userId w) : v = w := by
  obtain ⟨x, hx, rfl⟩ := hv
  obtain ⟨y, hy, rfl⟩ := hw
  rw [hx] at hy
  cases hy
  rfl

/-- **An acceptable session is ruled out by nothing that happened.** -/
theorem Acceptable.not_forbids {sid : SessionId} {session : UserSession}
    (ha : Acceptable s sid session) (h : Sound s) {e : Event} (he : e ∈ s.history) :
    ¬ e.Forbids (.accepted sid session.userId session.sessionVersion) := by
  cases e with
  | accepted sid' userId version => exact id
  | loggedOut sid' =>
    rintro rfl
    exact ha.notLoggedOut _ he rfl
  | revoked userId version active =>
    rintro ⟨rfl, hforbid⟩
    obtain ⟨⟨w, hw, hle⟩, hactive⟩ := h.revoked _ _ _ he
    have hcurrent := ha.version.unique hw
    obtain hold | hwas := hforbid
    · omega
    · obtain ⟨row, hrow, -, hlt⟩ := hactive sid hwas
      obtain ⟨row', hrow', -, hversion⟩ := ha.row
      rw [hrow] at hrow'
      cases hrow'
      omega

/-- One more event is in place if no earlier one rules it out. -/
theorem RevokedStay.append (h : RevokedStay s) {e : Event} (hh : t.history = s.history ++ [e])
    (he : ∀ old ∈ s.history, ¬ old.Forbids e) : RevokedStay t := by
  rw [RevokedStay, hh]
  refine List.pairwise_append.mpr ⟨h, List.pairwise_singleton .., fun old hold a ha => ?_⟩
  rw [List.mem_singleton.mp ha]
  exact he old hold

theorem NotLoggedOut.append {sid : SessionId} (h : NotLoggedOut s sid) {e : Event}
    (hh : t.history = s.history ++ [e]) (hne : e ≠ .loggedOut sid) : NotLoggedOut t sid := by
  intro old hold
  rw [hh] at hold
  obtain hold | hold := List.mem_append.mp hold
  · exact h old hold
  · rwa [List.mem_singleton.mp hold]

/-! ## What a write keeps -/

/-- **A write that a task holding rows and versions does not notice.** -/
structure Keeps (s t : State) : Prop where
  version : ∀ userId v, Version s userId v → Version t userId v
  row : ∀ sid session, Row s sid session → Row t sid session
  active : ∀ userId sid, t.isActiveOf userId sid = true → s.isActiveOf userId sid = true
  notLoggedOut : ∀ sid, NotLoggedOut s sid → NotLoggedOut t sid

/-- An acceptable session stays acceptable. -/
theorem Acceptable.keeps {sid : SessionId} {session : UserSession} (h : Acceptable s sid session)
    (hk : Keeps s t) : Acceptable t sid session :=
  ⟨hk.row _ _ h.row, hk.notLoggedOut _ h.notLoggedOut, hk.version _ _ h.version⟩

/-- **What a task holds stays right** through a write that keeps the rows of the sessions, the versions that
the task goes on with, the sessions that its revocation has updated, and the session that it authenticates. -/
theorem TaskOk.transfer {task : Task} (h : TaskOk s task)
    (hversion : ∀ userId v, task.carries userId = true → Version s userId v → Version t userId v)
    (hrow : ∀ sid session, Row s sid session → Row t sid session)
    (hactive : ∀ userId sid, task.committing userId = true → t.isActiveOf userId sid = true →
      s.isActiveOf userId sid = true)
    (hout : ∀ sid, task.uses sid = true → NotLoggedOut s sid → NotLoggedOut t sid) : TaskOk t task := by
  have hacc : ∀ sid session, task.uses sid = true → task.carries session.userId = true →
      Acceptable s sid session → Acceptable t sid session := fun sid session huses hcarries ha =>
    ⟨hrow _ _ ha.row, hout _ huses ha.notLoggedOut, hversion _ _ hcarries ha.version⟩
  cases task with
  | loginCommit userId version expiresAt => exact hversion _ _ (by simp [Task.carries]) h
  | httpReadUser op sid session => exact ⟨hrow _ _ h.1, hout _ (by simp [Task.uses]) h.2⟩
  | httpTouch op sid session user expiresAt =>
    exact ⟨hacc _ _ (by simp [Task.uses]) (by simp [Task.carries]) h.1, h.2⟩
  | readTarget op target actorId actor =>
    exact fun heq => hversion _ _ (by simp [Task.carries, heq]) (h heq)
  | revokeStatement userId change =>
    obtain ⟨v, hv, hchange⟩ := h
    exact ⟨v, hversion _ _ (by simp [Task.carries]) hv, hchange⟩
  | revokeCommit userId change updated =>
    obtain ⟨⟨v, hv, hchange⟩, hupdated⟩ := h
    exact ⟨⟨v, hversion _ _ (by simp [Task.carries]) hv, hchange⟩,
      fun sid hsid => hupdated sid (hactive _ _ (by simp [Task.committing]) hsid)⟩
  | logoutCommit sid =>
    obtain ⟨session, hsession⟩ := h
    exact ⟨session, hrow _ _ hsession⟩
  | wsReadUser sid session | wsReadChat sid session | wsTouch sid session expiresAt =>
    exact hacc _ _ (by simp [Task.uses]) (by simp [Task.carries]) h
  | loginRead | httpReadSession | httpReject | expire | logoutRead | enableCommit
  | wsReadSession => trivial

/-- Through a write that no task notices. -/
theorem TaskOk.keeps {task : Task} (h : TaskOk s task) (hk : Keeps s t) : TaskOk t task :=
  h.transfer (fun userId v _ => hk.version userId v) hk.row (fun userId sid _ => hk.active userId sid)
    fun sid _ => hk.notLoggedOut sid

/-- The rows are the same, and so is what happened. -/
theorem Keeps.of_eq (hu : t.users = s.users) (hs : t.sessions = s.sessions)
    (hh : t.history = s.history) : Keeps s t where
  version userId v h := by rw [Version, hu]; exact h
  row sid session h := by rw [Row, hs]; exact h
  active userId sid h := by rw [State.isActiveOf, hs] at h; exact h
  notLoggedOut sid h := by rw [NotLoggedOut, hh]; exact h

/-- The rows of a sound state, with other tasks. -/
theorem Sound.of_tasks (h : Sound s) (hu : t.users = s.users) (hs : t.sessions = s.sessions)
    (hn : t.nextSession = s.nextSession) (hh : t.history = s.history)
    (tasks : ∀ i task, t.tasks i = some task → TaskOk s task)
    (taskLt : ∀ i task, t.tasks i = some task → i < t.nextTask) : Sound t where
  tasks i task hi := (tasks i task hi).keeps (.of_eq hu hs hh)
  taskLt := taskLt
  sessionLt := by rw [hn, hs]; exact h.sessionLt
  current := by
    rw [hs]
    exact fun sid session hsid ha => (Keeps.of_eq hu hs hh).version _ _ (h.current sid session hsid ha)
  revoked userId version active he := by
    rw [hh] at he
    obtain ⟨⟨w, hw, hle⟩, hactive⟩ := h.revoked userId version active he
    rw [hs]
    exact ⟨⟨w, (Keeps.of_eq hu hs hh).version _ _ hw, hle⟩, hactive⟩
  loggedOut := by rw [hh, hs]; exact h.loggedOut
  stay := by rw [RevokedStay, hh]; exact h.stay

/-- A task ends. -/
theorem Sound.finish (h : Sound s) (i : ℕ) : Sound (s.finish i) := by
  have hold : ∀ j task, (s.finish i).tasks j = some task → s.tasks j = some task := by
    intro j task hj
    obtain ⟨-, hnone⟩ | ⟨-, hj⟩ := update_eq_some hj
    · cases hnone
    · exact hj
  exact h.of_tasks rfl rfl rfl rfl (fun j task hj => h.tasks j task (hold j task hj))
    fun j task hj => h.taskLt j task (hold j task hj)

/-- A task is suspended with something right. -/
theorem Sound.suspend (h : Sound s) {i : ℕ} {old task : Task} (hi : s.tasks i = some old)
    (ht : TaskOk s task) : Sound (s.suspend i task) := by
  refine h.of_tasks rfl rfl rfl rfl (fun j task' hj => ?_) fun j task' hj => ?_
  · obtain ⟨-, hnew⟩ | ⟨-, hj⟩ := update_eq_some hj
    · rwa [← Option.some.inj hnew]
    · exact h.tasks j task' hj
  · obtain ⟨rfl, -⟩ | ⟨-, hj⟩ := update_eq_some hj
    · exact h.taskLt _ _ hi
    · exact h.taskLt j task' hj

/-- A new handler that holds nothing yet. -/
theorem Sound.spawn (h : Sound s) {task : Task} (ht : TaskOk s task) : Sound (spawn s task) := by
  refine h.of_tasks rfl rfl rfl rfl (fun j task' hj => ?_) fun j task' hj => ?_
  · obtain ⟨-, hnew⟩ | ⟨-, hj⟩ := update_eq_some hj
    · rwa [← Option.some.inj hnew]
    · exact h.tasks j task' hj
  · obtain ⟨rfl, -⟩ | ⟨-, hj⟩ := update_eq_some hj
    · exact Nat.lt_succ_self _
    · exact Nat.lt_succ_of_lt (h.taskLt j task' hj)

/-! ## The writes -/

/-- Sessions of the updated table are old ones, up to what `f` does. -/
theorem updateSession_eq_some {sid : SessionId} {f : UserSession → UserSession} {x : SessionId}
    {session : UserSession} (h : (s.updateSession sid f).sessions x = some session) :
    ∃ old, s.sessions x = some old ∧ (session = old ∨ session = f old) := by
  by_cases hx : x = sid
  · simp only [State.updateSession, hx, Function.update_self, Option.map_eq_some_iff] at h
    obtain ⟨old, hold, rfl⟩ := h
    exact ⟨old, by rw [hx]; exact hold, .inr rfl⟩
  · simp only [State.updateSession, Function.update_of_ne hx] at h
    exact ⟨session, h, .inl rfl⟩

/-- A session is still there in the updated table. -/
theorem updateSession_of_some (sid : SessionId) (f : UserSession → UserSession) {x : SessionId}
    {old : UserSession} (h : s.sessions x = some old) :
    ∃ session, (s.updateSession sid f).sessions x = some session ∧
      (session = old ∨ session = f old) := by
  by_cases hx : x = sid
  · subst hx
    exact ⟨f old, by simp [State.updateSession, h], .inr rfl⟩
  · exact ⟨old, by simpa [State.updateSession, hx] using h, .inl rfl⟩

/-- **A write to a session's row** that does not make it active keeps everything. -/
theorem Sound.updateSession (h : Sound s) (sid : SessionId) {f : UserSession → UserSession}
    (hf : ∀ x, (f x).userId = x.userId ∧ (f x).sessionVersion = x.sessionVersion ∧
      ((f x).status = .active → x.status = .active)) :
    Sound (s.updateSession sid f) ∧ Keeps s (s.updateSession sid f) := by
  have hkeeps : Keeps s (s.updateSession sid f) := by
    refine ⟨fun _ _ hv => hv, fun x session ⟨row, hrow, hu, hv⟩ => ?_, fun userId x hx => ?_,
      fun _ hn => hn⟩
    · obtain ⟨row', hrow', rfl | rfl⟩ := updateSession_of_some sid f hrow
      · exact ⟨_, hrow', hu, hv⟩
      · exact ⟨_, hrow', (hf row).1.trans hu, (hf row).2.1.trans hv⟩
    · obtain ⟨session, hsession, hu, ha⟩ := isActiveOf_iff.mp hx
      obtain ⟨old, hold, rfl | rfl⟩ := updateSession_eq_some hsession
      · exact isActiveOf_iff.mpr ⟨session, hold, hu, ha⟩
      · exact isActiveOf_iff.mpr ⟨old, hold, (hf old).1.symm.trans hu, (hf old).2.2 ha⟩
  refine ⟨⟨fun i task hi => (h.tasks i task hi).keeps hkeeps, h.taskLt, fun x hx => ?_,
    fun x session hsession hactive => ?_, fun userId version active he => ?_, fun x he => ?_,
    h.stay⟩, hkeeps⟩
  · by_cases hxs : x = sid
    · subst hxs
      simp [State.updateSession, h.sessionLt x hx]
    · simpa [State.updateSession, hxs] using h.sessionLt x hx
  · obtain ⟨old, hold, rfl | rfl⟩ := updateSession_eq_some hsession
    · exact h.current x _ hold hactive
    · rw [(hf old).1, (hf old).2.1]
      exact h.current x old hold ((hf old).2.2 hactive)
  · obtain ⟨hw, hact⟩ := h.revoked userId version active he
    refine ⟨hw, fun x hx => ?_⟩
    obtain ⟨old, hold, hu, hlt⟩ := hact x hx
    obtain ⟨session, hsession, rfl | rfl⟩ := updateSession_of_some sid f hold
    · exact ⟨_, hsession, hu, hlt⟩
    · exact ⟨_, hsession, (hf old).1.trans hu, by rw [(hf old).2.1]; exact hlt⟩
  · obtain ⟨old, hold, hne⟩ := h.loggedOut x he
    obtain ⟨session, hsession, rfl | rfl⟩ := updateSession_of_some sid f hold
    · exact ⟨_, hsession, hne⟩
    · exact ⟨_, hsession, fun ha => hne ((hf old).2.2 ha)⟩

/-- Writing a status other than active. -/
theorem setStatus_ne_active {status : Status} (hne : status ≠ .active) (x : UserSession) :
    ({ x with status := status } : UserSession).userId = x.userId ∧
      ({ x with status := status } : UserSession).sessionVersion = x.sessionVersion ∧
      (({ x with status := status } : UserSession).status = .active → x.status = .active) :=
  ⟨rfl, rfl, fun h => absurd h hne⟩

/-- **An acceptable session is accepted.** -/
theorem Sound.accept (h : Sound s) {sid : SessionId} {session : UserSession}
    (ha : Acceptable s sid session) :
    Sound (s.log (.accepted sid session.userId session.sessionVersion)) := by
  have hkeeps : Keeps s (s.log (.accepted sid session.userId session.sessionVersion)) := by
    exact ⟨fun _ _ hv => hv, fun _ _ hr => hr, fun _ _ hx => hx, fun x hn => hn.append rfl (by simp)⟩
  refine ⟨fun i task hi => (h.tasks i task hi).keeps hkeeps, h.taskLt, h.sessionLt, h.current,
    fun userId version active he => ?_, fun x he => ?_, h.stay.append rfl fun e he => ha.not_forbids h he⟩
  · obtain he | he := List.mem_append.mp he
    · exact h.revoked userId version active he
    · cases List.mem_singleton.mp he
  · obtain he | he := List.mem_append.mp he
    · exact h.loggedOut x he
    · cases List.mem_singleton.mp he

/-- **A login commits its session** while no revocation of the user waits for its commit. -/
theorem Sound.addSession (h : Sound s) (session : UserSession)
    (hv : Version s session.userId session.sessionVersion)
    (hcalm : ∀ i task, s.tasks i = some task → task.committing session.userId = false) :
    Sound (s.addSession session) := by
  have hfresh : s.sessions s.nextSession = none := h.sessionLt _ (Nat.le_refl _)
  have hold : ∀ x old, s.sessions x = some old → (s.addSession session).sessions x = some old := by
    intro x old hx
    have hne : x ≠ s.nextSession := by
      rintro rfl
      rw [hfresh] at hx
      cases hx
    simpa [State.addSession, hne] using hx
  refine ⟨fun i task hi => ?_, h.taskLt, fun x hx => ?_, fun x row hrow hactive => ?_,
    fun userId version active he => ?_, fun x he => ?_, h.stay⟩
  · refine (h.tasks i task hi).transfer (fun u v _ hv => hv) ?_ (fun u x hcommits hx => ?_) fun x _ hx => hx
    · rintro x r ⟨row, hrow, hr⟩
      exact ⟨row, hold x row hrow, hr⟩
    · -- the new session belongs to another user
      have hne : u ≠ session.userId := by
        rintro rfl
        rw [hcalm i task hi] at hcommits
        cases hcommits
      by_cases hxn : x = s.nextSession
      · simp [State.isActiveOf, State.addSession, hxn, hne.symm] at hx
      · simpa [State.isActiveOf, State.addSession, hxn] using hx
  · have hx' : s.nextSession + 1 ≤ x := hx
    have hne : x ≠ s.nextSession := by omega
    simpa [State.addSession, hne] using h.sessionLt x (by omega)
  · by_cases hxn : x = s.nextSession
    · simp only [State.addSession, hxn, Function.update_self, Option.some.injEq] at hrow
      subst hrow
      exact hv
    · simp only [State.addSession, Function.update_of_ne hxn] at hrow
      exact h.current x row hrow hactive
  · obtain ⟨hw, hact⟩ := h.revoked userId version active he
    refine ⟨hw, fun x hx => ?_⟩
    obtain ⟨old, hx', hr⟩ := hact x hx
    exact ⟨old, hold x old hx', hr⟩
  · obtain ⟨old, hx', hr⟩ := h.loggedOut x he
    exact ⟨old, hold x old hx', hr⟩

/-- What the bulk update makes of a session's row. -/
structure Bulk (updated : SessionId → Bool) (sid : SessionId) (old session : UserSession) : Prop where
  userId : session.userId = old.userId
  sessionVersion : session.sessionVersion = old.sessionVersion
  active : session.status = .active → old.status = .active ∧ updated sid = false

theorem commitRevoke_of_some {userId : UserId} {change : UserChange} {updated : SessionId → Bool}
    {sid : SessionId} {old : UserSession} (h : s.sessions sid = some old) :
    ∃ session, (commitRevoke s userId change updated).sessions sid = some session ∧
      Bulk updated sid old session := by
  refine ⟨if updated sid then { old with status := .revoked } else old, by simp [commitRevoke, h], ?_⟩
  cases hupdated : updated sid with
  | true => exact ⟨rfl, rfl, fun h => absurd h (by simp)⟩
  | false => exact ⟨rfl, rfl, fun h => ⟨h, hupdated⟩⟩

theorem commitRevoke_eq_some {userId : UserId} {change : UserChange} {updated : SessionId → Bool}
    {sid : SessionId} {session : UserSession}
    (h : (commitRevoke s userId change updated).sessions sid = some session) :
    ∃ old, s.sessions sid = some old ∧ Bulk updated sid old session := by
  obtain ⟨old, hold, -⟩ := Option.map_eq_some_iff.mp h
  obtain ⟨session', hsession', hbulk⟩ := @commitRevoke_of_some s userId change updated sid old hold
  rw [h] at hsession'
  cases hsession'
  exact ⟨old, hold, hbulk⟩

/-- **A revocation of all sessions of a user is committed**, while no task goes on with what it has
read of the user: the versions stay current because all active sessions of the user are revoked. -/
theorem Sound.commitRevoke (h : Sound s) {userId : UserId} {change : UserChange}
    {updated : SessionId → Bool} {v : ℕ} (hv : Version s userId v)
    (hchange : change.sessionVersion = v + 1)
    (hupdated : ∀ sid, s.isActiveOf userId sid = true → updated sid = true)
    (hcalm : ∀ i task, s.tasks i = some task → task.carries userId = false) :
    Sound (commitRevoke s userId change updated) := by
  -- versions of other users stay, the one of this user grows
  have hother : ∀ u w, u ≠ userId → Version s u w →
      Version (DBClaw.Auth.commitRevoke s userId change updated) u w := by
    rintro u w hne ⟨x, hx, hxw⟩
    exact ⟨x, by simpa [DBClaw.Auth.commitRevoke, hne] using hx, hxw⟩
  have hnew : Version (DBClaw.Auth.commitRevoke s userId change updated) userId (v + 1) := by
    obtain ⟨user, huser, -⟩ := hv
    exact ⟨change.apply user, by simp [DBClaw.Auth.commitRevoke, huser], hchange⟩
  have hrow : ∀ x r, Row s x r → Row (DBClaw.Auth.commitRevoke s userId change updated) x r := by
    rintro x r ⟨old, hold, hu, hw⟩
    obtain ⟨session, hsession, hbulk⟩ := commitRevoke_of_some hold
    exact ⟨session, hsession, hbulk.userId.trans hu, hbulk.sessionVersion.trans hw⟩
  have hactive : ∀ u x, (DBClaw.Auth.commitRevoke s userId change updated).isActiveOf u x = true →
      s.isActiveOf u x = true := by
    intro u x hx
    obtain ⟨session, hsession, hu, ha⟩ := isActiveOf_iff.mp hx
    obtain ⟨old, hold, hbulk⟩ := commitRevoke_eq_some hsession
    exact isActiveOf_iff.mpr ⟨old, hold, hbulk.userId.symm.trans hu, (hbulk.active ha).1⟩
  refine ⟨fun i task hi => ?_, h.taskLt, fun x hx => ?_, fun x session hsession ha => ?_,
    fun u w active he => ?_, fun x he => ?_, h.stay.append rfl fun e _ => ?_⟩
  · refine (h.tasks i task hi).transfer (fun u w hcarries hw => hother u w ?_ hw) hrow
      (fun u x _ => hactive u x) fun x _ hn => hn.append rfl (by simp)
    rintro rfl
    rw [hcalm i task hi] at hcarries
    cases hcarries
  · simp [DBClaw.Auth.commitRevoke, h.sessionLt x hx]
  · obtain ⟨old, hold, hbulk⟩ := commitRevoke_eq_some hsession
    obtain ⟨hwas, hnot⟩ := hbulk.active ha
    rw [hbulk.userId, hbulk.sessionVersion]
    refine hother _ _ ?_ (h.current x old hold hwas)
    -- a session of the user that is still active was not updated
    intro hsame
    rw [hupdated x (isActiveOf_iff.mpr ⟨old, hold, hsame, hwas⟩)] at hnot
    cases hnot
  · obtain he | he := List.mem_append.mp he
    · -- an earlier revocation
      obtain ⟨⟨w', hw', hle⟩, hact⟩ := h.revoked u w active he
      refine ⟨?_, fun x hx => ?_⟩
      · by_cases hu : u = userId
        · subst hu
          have hsame : w' = v := hw'.unique hv
          exact ⟨v + 1, hnew, by omega⟩
        · exact ⟨w', hother u w' hu hw', hle⟩
      · obtain ⟨old, hold, hu, hlt⟩ := hact x hx
        obtain ⟨session, hsession, hbulk⟩ := commitRevoke_of_some hold
        exact ⟨session, hsession, hbulk.userId.trans hu, hbulk.sessionVersion ▸ hlt⟩
    · -- this one
      cases List.mem_singleton.mp he
      refine ⟨⟨v + 1, hnew, by omega⟩, fun x hx => ?_⟩
      obtain ⟨old, hold, hu, ha⟩ := isActiveOf_iff.mp hx
      have hcurrent : old.sessionVersion = v := by
        have hversion := h.current x old hold ha
        rw [hu] at hversion
        exact hversion.unique hv
      obtain ⟨session, hsession, hbulk⟩ := commitRevoke_of_some hold
      refine ⟨session, hsession, hbulk.userId.trans hu, ?_⟩
      rw [hbulk.sessionVersion]
      omega
  · obtain he | he := List.mem_append.mp he
    · obtain ⟨old, hold, hne⟩ := h.loggedOut x he
      obtain ⟨session, hsession, hbulk⟩ := commitRevoke_of_some hold
      exact ⟨session, hsession, fun ha => hne (hbulk.active ha).1⟩
    · cases List.mem_singleton.mp he
  · cases e <;> exact id

/-- **A logout is committed** while no authentication holds the session's row. -/
theorem Sound.logout (h : Sound s) {sid : SessionId}
    (hrow : ∃ row, s.sessions sid = some row ∧ row.status ≠ .active)
    (hcalm : ∀ i task, s.tasks i = some task → task.uses sid = false) :
    Sound (s.log (.loggedOut sid)) := by
  refine ⟨fun i task hi => ?_, h.taskLt, h.sessionLt, h.current, fun userId version active he => ?_,
    fun x he => ?_, h.stay.append rfl fun e _ => ?_⟩
  · refine (h.tasks i task hi).transfer (fun _ _ _ hv => hv) (fun _ _ hr => hr) (fun _ _ _ hx => hx)
      fun x huses hn => hn.append rfl ?_
    rintro ⟨⟩
    rw [hcalm i task hi] at huses
    cases huses
  · obtain he | he := List.mem_append.mp he
    · exact h.revoked userId version active he
    · cases List.mem_singleton.mp he
  · obtain he | he := List.mem_append.mp he
    · exact h.loggedOut x he
    · cases List.mem_singleton.mp he
      exact hrow
  · cases e <;> exact id

/-- Enabling a user keeps everything. -/
theorem Sound.enable (h : Sound s) (userId : UserId) :
    Sound (s.updateUser userId ({ · with isActive := true })) := by
  have hkeeps : Keeps s (s.updateUser userId ({ · with isActive := true })) := by
    refine ⟨fun u v ⟨user, huser, hv⟩ => ?_, fun _ _ hr => hr, fun _ _ hx => hx, fun _ hn => hn⟩
    by_cases hu : u = userId
    · subst hu
      exact ⟨{ user with isActive := true }, by simp [State.updateUser, huser], hv⟩
    · exact ⟨user, by simpa [State.updateUser, hu] using huser, hv⟩
  refine ⟨fun i task hi => (h.tasks i task hi).keeps hkeeps, h.taskLt, h.sessionLt,
    fun sid session hs ha => hkeeps.version _ _ (h.current sid session hs ha),
    fun u v active he => ?_, h.loggedOut, h.stay⟩
  obtain ⟨⟨w, hw, hle⟩, hact⟩ := h.revoked u v active he
  exact ⟨⟨w, hkeeps.version _ _ hw, hle⟩, hact⟩

/-! ## One step -/

/-- What `others` sees, once task `i` has ended. -/
theorem others_eq_false (h : Sound s) {i : ℕ} {kind : Task → Bool} (hnone : s.others i kind = false)
    (j : ℕ) (task : Task) (hj : (s.finish i).tasks j = some task) : kind task = false := by
  by_cases hji : j = i
  · simp [State.finish, hji] at hj
  · have hj' : s.tasks j = some task := by simpa [State.finish, hji] using hj
    have hlt := h.taskLt j task hj'
    simpa [hji, hj'] using List.any_eq_false.mp hnone j (List.mem_range.mpr hlt)

/-- The row that `get_active_session` finds. -/
theorem getActiveSession_found {now : ℕ} {cookie : Option SessionId} {sid : SessionId}
    {session : UserSession} (h : getActiveSession s now cookie = .found sid session) :
    s.sessions sid = some session ∧ session.status = .active := by
  unfold getActiveSession at h
  split at h
  · cases h
  · split at h
    · rename_i hsession
      split at h
      · cases h
      · rename_i hactive
        split at h
        · cases h
        · cases h
          exact ⟨hsession, not_not.mp hactive⟩
    · cases h

/-- **An active session's row is acceptable.** -/
theorem Sound.acceptable (h : Sound s) {sid : SessionId} {session : UserSession}
    (hs : s.sessions sid = some session) (ha : session.status = .active) :
    Acceptable s sid session where
  row := ⟨session, hs, rfl, rfl⟩
  notLoggedOut e he := by
    rintro rfl
    obtain ⟨row, hrow, hne⟩ := h.loggedOut sid he
    rw [hs] at hrow
    cases hrow
    exact hne ha
  version := h.current sid session hs ha

/-- A live user's row carries the user's version. -/
theorem version_of_aliveUser {userId : UserId} {user : User} (h : s.aliveUser userId = some user) :
    Version s userId user.sessionVersion :=
  ⟨user, (Option.filter_eq_some_iff.mp h).1, rfl⟩

/-- The handler that follows an authentication starts with the user's current version. -/
theorem Sound.handle (h : Sound s) {i : ℕ} {old : Task} (hi : s.tasks i = some old)
    {sid : SessionId} {userId : UserId} {user : User} (hv : Version s userId user.sessionVersion)
    (op : Op) : Sound (handle s i sid userId user op) := by
  have hrevoke : TaskOk s (.revokeStatement userId { sessionVersion := user.sessionVersion + 1 }) :=
    ⟨_, hv, rfl⟩
  have htarget : ∀ op target, TaskOk s (.readTarget op target userId user) := by
    rintro op target rfl
    exact hv
  cases op with
  | plain => exact h.finish i
  | logout => exact h.suspend hi trivial
  | logoutAll => exact h.suspend hi hrevoke
  | changePassword oldMatches =>
    cases oldMatches
    · exact h.finish i
    · exact h.suspend hi hrevoke
  | deleteUser target =>
    simp only [DBClaw.Auth.handle]
    split
    · exact h.suspend hi (htarget _ _)
    · exact h.finish i
  | resetPassword target =>
    simp only [DBClaw.Auth.handle]
    split
    · exact h.suspend hi (htarget _ _)
    · exact h.finish i
  | toggleStatus target =>
    simp only [DBClaw.Auth.handle]
    split
    · exact h.suspend hi (htarget _ _)
    · exact h.finish i

/-- The administrative handlers go on with the target's current version. -/
theorem Sound.handleTarget (h : Sound s) {i : ℕ} {old : Task} (hi : s.tasks i = some old)
    {target actorId : UserId} {user : User} (hv : Version s target user.sessionVersion) (op : Op) :
    Sound (handleTarget s i target actorId user op) := by
  cases op with
  | deleteUser _ => exact h.suspend hi ⟨_, hv, rfl⟩
  | resetPassword _ =>
    simp only [DBClaw.Auth.handleTarget]
    split
    · exact h.finish i
    · exact h.suspend hi ⟨_, hv, rfl⟩
  | toggleStatus _ =>
    simp only [DBClaw.Auth.handleTarget]
    split
    · exact h.suspend hi ⟨_, hv, rfl⟩
    · exact h.suspend hi trivial
  | plain | logout | logoutAll | changePassword => exact h.finish i

/-- **A calm resumption keeps the invariant**, await by await. -/
theorem Sound.resume (h : Sound s) {i now : ℕ} {chatFound : Bool} {task : Task}
    (hi : s.tasks i = some task) (hcalm : Calm s (.resume i now chatFound)) :
    Sound (resume idle s i now chatFound task) := by
  have hok := h.tasks i task hi
  cases task with
  | loginRead userId passwordMatches =>
    simp only [DBClaw.Auth.resume]
    split
    · rename_i user huser
      split
      · exact h.suspend hi (version_of_aliveUser huser)
      · exact h.finish i
    · exact h.finish i
  | loginCommit userId version expiresAt =>
    have hnone : s.others i (Task.committing userId) = false := by
      simpa [Calm, calm, hi] using hcalm
    exact (h.finish i).addSession { userId, sessionVersion := version, expiresAt } hok
      (others_eq_false h hnone)
  | httpReadSession op cookie =>
    simp only [DBClaw.Auth.resume]
    split
    · exact h.finish i
    · exact h.suspend hi trivial
    · rename_i sid session hfound
      obtain ⟨hs, ha⟩ := getActiveSession_found hfound
      have hacc := h.acceptable hs ha
      exact h.suspend hi ⟨hacc.row, hacc.notLoggedOut⟩
  | httpReadUser op sid session =>
    simp only [DBClaw.Auth.resume]
    split
    · rename_i user huser
      obtain ⟨halive, hadmit⟩ := Option.filter_eq_some_iff.mp huser
      simp only [Bool.and_eq_true, beq_iff_eq] at hadmit
      have hv := version_of_aliveUser halive
      rw [← hadmit.2] at hv
      exact h.suspend hi ⟨⟨hok.1, hok.2, hv⟩, hadmit.2.symm⟩
    · exact h.suspend hi trivial
  | httpReject sid => exact (h.updateSession sid (setStatus_ne_active (by decide))).1.finish i
  | httpTouch op sid session user expiresAt =>
    obtain ⟨hs, hk⟩ := h.updateSession sid (f := ({ · with expiresAt := expiresAt }))
      fun x => ⟨rfl, rfl, id⟩
    have hacc := hok.1.keeps hk
    refine (hs.accept hacc).handle hi ?_ op
    rw [hok.2]
    exact hacc.version
  | expire sid => exact (h.updateSession sid (setStatus_ne_active (by decide))).1.finish i
  | logoutRead sid =>
    simp only [DBClaw.Auth.resume]
    split
    · exact h.finish i
    · exact h.suspend hi trivial
    · rename_i x session hfound
      obtain ⟨hs, ha⟩ := getActiveSession_found hfound
      exact h.suspend hi ⟨session, (h.acceptable hs ha).row⟩
  | logoutCommit sid =>
    have hnone : s.others i (Task.uses sid) = false := by simpa [Calm, calm, hi] using hcalm
    obtain ⟨_, row, hrow, -⟩ := hok
    have hs : Sound ((s.finish i).updateSession sid ({ · with status := .revoked })) :=
      ((h.finish i).updateSession sid (setStatus_ne_active (by decide))).1
    refine hs.logout ⟨{ row with status := .revoked }, ?_, (by rintro ⟨⟩)⟩
      (others_eq_false h hnone)
    simp [State.finish, State.updateSession, hrow]
  | readTarget op target actorId actor =>
    simp only [DBClaw.Auth.resume]
    split
    · rename_i row hrow
      refine h.handleTarget hi ?_ op
      split
      · rename_i heq
        exact hok heq
      · exact version_of_aliveUser hrow
    · exact h.finish i
  | revokeStatement userId change =>
    obtain ⟨v, hv, hchange⟩ := hok
    exact h.suspend hi ⟨⟨v, hv, hchange⟩, fun sid hsid => hsid⟩
  | revokeCommit userId change updated =>
    have hnone : s.others i (Task.carries userId) = false := by
      simpa [Calm, calm, hi] using hcalm
    obtain ⟨⟨v, hv, hchange⟩, hupdated⟩ := hok
    exact (h.finish i).commitRevoke hv hchange hupdated (others_eq_false h hnone)
  | enableCommit userId => exact (h.enable userId).finish i
  | wsReadSession cookie =>
    simp only [DBClaw.Auth.resume]
    split
    · exact h.finish i
    · exact h.suspend hi trivial
    · rename_i sid session hfound
      obtain ⟨hs, ha⟩ := getActiveSession_found hfound
      exact h.suspend hi (h.acceptable hs ha)
  | wsReadUser sid session =>
    simp only [DBClaw.Auth.resume]
    split
    · exact h.suspend hi hok
    · exact h.finish i
  | wsReadChat sid session =>
    simp only [DBClaw.Auth.resume]
    split
    · exact h.suspend hi hok
    · exact h.finish i
  | wsTouch sid session expiresAt =>
    obtain ⟨hs, hk⟩ := h.updateSession sid (f := ({ · with expiresAt := expiresAt }))
      fun x => ⟨rfl, rfl, id⟩
    exact (hs.accept (Acceptable.keeps hok hk)).finish i

/-- **A calm step keeps the invariant.** -/
theorem Sound.of_step (h : Sound s) (hcalm : Calm s label) (hs : step idle s label = some t) :
    Sound t := by
  cases label with
  | login userId passwordMatches => cases hs; exact h.spawn trivial
  | http op cookie => cases hs; exact h.spawn trivial
  | websocket cookie => cases hs; exact h.spawn trivial
  | resume i now chatFound =>
    obtain ⟨task, hi, rfl⟩ := Option.map_eq_some_iff.mp hs
    exact h.resume hi hcalm
  | cancel i => cases hs; exact h.finish i

/-! ## The result -/

/-- In a sound state the version check of the request path refuses nothing that the websocket path
accepts. -/
theorem Sound.samePaths (h : Sound s) : SamePaths s := by
  intro now sid
  unfold httpAccepts wsAccepts
  split
  · rename_i sid' session hfound
    obtain ⟨hs, ha⟩ := getActiveSession_found hfound
    obtain ⟨user, huser, hv⟩ := h.current sid' session hs ha
    simp only [httpUser, wsUser, State.aliveUser, huser]
    cases hd : user.isDeleted <;> cases hact : user.isActive <;> simp [hd, hact, hv]
  · rfl

/-- **In every calm run revoked sessions stay revoked, and the two authentication paths accept the
same sessions.** -/
theorem revokedStay_of_calm {labels : List Label} (hs : Start s)
    (hr : Run (step idle) Calm s labels t) : RevokedStay t ∧ SamePaths t := by
  have hsound : Sound t :=
    hr.invariant (fun _ _ _ h hcalm hstep => h.of_step hcalm hstep) hs.sound
  exact ⟨hsound.stay, hsound.samePaths⟩

/-! ## Runs -/

/-- One user, and nobody logged in. -/
def oneUser : State where
  users userId := if userId = 0 then some { username := "dba" } else none

/-- Task `i` runs through `n` awaits. -/
def resumeTimes (n i : ℕ) : List Label := List.replicate n (.resume i 0 true)

/-- A login is still waiting for its commit while the user revokes all sessions; its session is then
used on a websocket. -/
def loginDuringRevocation : List Label :=
  .login 0 true :: resumeTimes 2 0 ++ .login 0 true :: resumeTimes 1 1 ++
    .http .logoutAll (some 0) :: resumeTimes 5 2 ++ resumeTimes 1 1 ++
    .websocket (some 1) :: resumeTimes 4 3

/-- **The websocket path accepts a session with an older version**, and the request path does
not. -/
theorem loginDuringRevocation_accepted :
    Start oneUser ∧ ∃ t, Run (step 30) Always oneUser loginDuringRevocation t ∧
      ¬ RevokedStay t ∧ ¬ SamePaths t := by
  have hr : Run (step 30) Always oneUser loginDuringRevocation _ := .of_isSome (by decide)
  refine ⟨⟨fun _ => rfl, fun _ => rfl, rfl⟩, _, hr, by decide, fun h => ?_⟩
  have hpaths := h 0 1
  revert hpaths
  decide

/-- The user logs in, revokes all sessions, logs in again and uses both sessions on both paths. -/
def loginAfterRevocation : List Label :=
  .login 0 true :: resumeTimes 2 0 ++ .http .logoutAll (some 0) :: resumeTimes 5 1 ++
    .login 0 true :: resumeTimes 2 2 ++ .websocket (some 0) :: resumeTimes 1 3 ++
    .websocket (some 1) :: resumeTimes 4 4 ++ .http .logout (some 1) :: resumeTimes 5 5

/-- `revokedStay_of_calm` on a run with a revocation, a logout and four accepted uses. -/
theorem loginAfterRevocation_revokedStay :
    ∃ t, Run (step 30) Calm oneUser loginAfterRevocation t ∧
      t.history.length = 5 ∧ RevokedStay t ∧ SamePaths t := by
  have hr : Run (step 30) Calm oneUser loginAfterRevocation _ := .of_isSome (by decide)
  exact ⟨_, hr, by decide, revokedStay_of_calm ⟨fun _ => rfl, fun _ => rfl, rfl⟩ hr⟩

end DBClaw.Auth
