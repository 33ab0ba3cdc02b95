import DBClaw.Library.Runs
import Mathlib.Data.Nat.Basic

/-! # Session switching
The diagnosis page keeps the current session, its websocket and what is shown of it. Selecting a session and
loading the session list take several requests, and what they write when the responses arrive is written for
the session they were made for. `lastWins_of_run` says when the session that was chosen last wins. -/

namespace DBClaw.SessionSwitching

open Runs

/-- What the message area shows. -/
inductive Shown
  | nothing
  | loaded (session : ℕ)
  /-- The error of a session's messages. -/
  | failed (session : ℕ)
  deriving DecidableEq, Repr

/-- The session whose messages, or whose error, the message area shows. -/
def Shown.session? : Shown → Option ℕ
  | .nothing => none
  | .loaded session | .failed session => some session

/-- What the user has chosen last: a session, or the one that a request creates. Where he has chosen none, or
has deleted it, it is the one that a list reload has chosen. -/
inductive Choice
  | nothing
  | session (session : ℕ)
  | creation (request : ℕ)
  deriving DecidableEq, Repr

/-- The choice of the current session. -/
def Choice.of : Option ℕ → Choice
  | none => .nothing
  | some current => .session current

/-- A request that awaits its response. `after` are the created sessions that are switched to, one inside the
other, once what made it returns. -/
inductive Request
  /-- `createChatSession` of `_createSession`, whose `reloadList` and `switchSession` are given. -/
  | create (reload : Bool) (after : List ℕ)
  /-- `getChatSessions` of `_loadSessions`, with its `pinnedSessionId`. -/
  | list (pinned : Option ℕ) (after : List ℕ)
  /-- `getSessionMessages` and `getSessionInsights` of `_switchSession`: whether the messages have arrived,
  and whether the insights have, with any or with `null`. -/
  | load (session : ℕ) (messages : Bool) (insights : Option Bool) (after : List ℕ)
  /-- `deleteChatSession` of `_deleteSessionById`. -/
  | delete (session : ℕ)
  deriving DecidableEq, Repr

/-- A message, with the session of the websocket it was sent on and what was shown. -/
structure Sent where
  session : ℕ
  shown : Shown
  deriving DecidableEq, Repr

/-- **The page**, with the requests it has made (`none` where the response has arrived), and what the
properties speak of: what the user has chosen, the sessions that are deleted and the messages sent. -/
structure State where
  currentSessionId : Option ℕ := none
  /-- The session of the open websocket. -/
  ws : Option ℕ := none
  messages : Shown := .nothing
  /-- The session whose insights are shown, and the one whose token totals are. -/
  insights : Option ℕ := none
  tokens : Option ℕ := none
  streaming : ℕ → Bool := fun _ => false
  requests : List (Option Request) := []
  choice : Choice := .nothing
  deleted : ℕ → Bool := fun _ => false
  sent : List Sent := []

/-- What happens. -/
inductive Label
  /-- The user selects a session, creates one or deletes one. -/
  | select (session : ℕ)
  | create
  | delete (session : ℕ)
  /-- `_sendMessage`, and the events of the websocket. -/
  | send
  | usage
  | done
  /-- Any other event that marks the current session as streaming, or clears the mark. -/
  | mark (streaming : Bool)
  /-- The response to a request. -/
  | created (i session : ℕ)
  | listed (i : ℕ) (sessions : List ℕ)
  | messages (i : ℕ)
  | insights (i : ℕ) (found : Bool)
  | deleted (i : ℕ)
  | fail (i : ℕ)
  deriving DecidableEq, Repr

namespace State

variable (s : State)

/-- `_markSessionStreaming` and `_clearSessionStreaming` of the current session. -/
def mark (streaming : Bool) : State :=
  { s with streaming := match s.currentSessionId with
      | some current => Function.update s.streaming current streaming
      | none => s.streaming }

/-- A request is made. -/
def request (r : Request) : State := { s with requests := s.requests ++ [some r] }

/-- A response arrives. -/
def answer (i : ℕ) : State := { s with requests := s.requests.set i none }

/-- **`_switchSession`**, until it awaits the messages and the insights. -/
def switchSession (session : ℕ) (after : List ℕ) : State :=
  { s with currentSessionId := some session, ws := some session, messages := .nothing, insights := none }.request
    (.load session false none after)

/-- What awaits the return of `_loadSessions` or `_switchSession`. -/
def resume : List ℕ → State
  | [] => s
  | session :: after => s.switchSession session after

/-- **`_loadSessions`**, until it awaits the list, or the session that `preferFreshSession` has it create. -/
def loadSessions (preferFreshSession : Bool) : State :=
  if preferFreshSession && s.currentSessionId.isNone then s.request (.create false [])
  else s.request (.list s.currentSessionId [])

/-- `_createSession`, once its session is created. -/
def created (i session : ℕ) (reload : Bool) (after : List ℕ) : State :=
  { s.answer i with
    currentSessionId := some session
    deleted := Function.update s.deleted session false
    choice := match s.choice with
      | .creation j => if j = i then .session session else .creation j
      | _ => .session session }.request
    (.list (some session) (if reload then session :: after else after))

/-- A list reload chooses the first session. -/
def switchFirst (session : ℕ) (after : List ℕ) : State :=
  { s with choice := if s.choice = Choice.nothing then .session session else s.choice }.switchSession session after

/-- **`_loadSessions`**, once the list has arrived. -/
def listed (sessions : List ℕ) (pinned : Option ℕ) (after : List ℕ) : State :=
  match sessions with
  | [] => s.request (.create true after)
  | first :: _ =>
    match pinned.filter (· ∈ sessions) with
    | some session => s.switchSession session after
    | none => if s.currentSessionId.isNone then s.switchFirst first after else s.resume after

/-- **`_switchSession`**, once the messages and the insights have arrived. -/
def loaded (session : ℕ) (found : Bool) (after : List ℕ) : State :=
  { s with
    tokens := some session
    messages := .loaded session
    insights := if found then some session else none }.resume after

/-- A session is deleted. -/
def deleteSession (session : ℕ) : State :=
  { s with
    deleted := Function.update s.deleted session true
    currentSessionId := if s.currentSessionId = some session then none else s.currentSessionId
    choice := if s.choice = Choice.session session then .nothing else s.choice }

/-- A creation has failed: the user stays where he is. -/
def abandon (i : ℕ) : State :=
  { s with choice := if s.choice = Choice.creation i then .of s.currentSessionId else s.choice }

/-- **The `catch` of what made a request.** -/
def failed (i : ℕ) : Request → State
  | .create reload after =>
    if reload then ((s.answer i).abandon i).resume after else ((s.answer i).abandon i).request (.list none after)
  | .list _ after => (s.answer i).resume after
  | .load session _ _ after =>
    { s.answer i with messages := .failed session, insights := none }.resume after
  | .delete _ => s.answer i

end State

/-- **One step** of the page with a session list. -/
def step (preferFreshSession : Bool) (s : State) : Label → Option State
  | .select session => some { s.switchSession session [] with choice := .session session }
  | .create => some { s.request (.create true []) with choice := .creation s.requests.length }
  | .delete session => some (s.request (.delete session))
  | .send =>
    match s.ws, s.currentSessionId with
    | some session, some current =>
      if s.streaming current then none
      else some { s.mark true with
        sent := s.sent ++ [{ session := session, shown := s.messages }] }
    | _, _ => none
  | .usage =>
    -- the usage of the websocket's session is added to the totals shown
    match s.ws with
    | some session => some { s with tokens := if s.tokens = some session then s.tokens else none }
    | none => none
  | .done =>
    match s.ws with
    | some _ => some ((s.mark false).loadSessions preferFreshSession)
    | none => none
  | .mark streaming =>
    match s.ws with
    | some _ => some (s.mark streaming)
    | none => none
  | .created i session =>
    match s.requests[i]? with
    | some (some (.create reload after)) => some (s.created i session reload after)
    | _ => none
  | .listed i sessions =>
    match s.requests[i]? with
    | some (some (.list pinned after)) => some ((s.answer i).listed sessions pinned after)
    | _ => none
  | .messages i =>
    match s.requests[i]? with
    | some (some (.load session false none after)) =>
      some { s with requests := s.requests.set i (some (.load session true none after)) }
    | some (some (.load session false (some found) after)) => some ((s.answer i).loaded session found after)
    | _ => none
  | .insights i found =>
    match s.requests[i]? with
    | some (some (.load session false none after)) =>
      some { s with requests := s.requests.set i (some (.load session false (some found) after)) }
    | some (some (.load session true none after)) => some ((s.answer i).loaded session found after)
    | _ => none
  | .deleted i =>
    match s.requests[i]? with
    | some (some (.delete session)) => some (((s.answer i).deleteSession session).loadSessions preferFreshSession)
    | _ => none
  | .fail i =>
    match s.requests[i]? with
    | some (some (.load _ true _ _)) => none
    | some (some r) => some (s.failed i r)
    | _ => none

/-- The page as it is rendered. -/
def initial (preferFreshSession : Bool) : State := State.loadSessions {} preferFreshSession

/-! ## The property and the condition -/

/-- A request awaits its response. -/
def State.Pending (s : State) (i : ℕ) (r : Request) : Prop := s.requests[i]? = some (some r)

/-- No request is pending. -/
def State.Quiet (s : State) : Prop := ∀ i r, ¬ s.Pending i r

/-- **The last choice wins.** Once no request is pending, the current session is the one chosen last, and what
is open and shown is its; and at any time, the current session is not deleted and none that was left, and no
message has been sent to a session while the messages of another were shown. -/
structure State.LastWins (s : State) : Prop where
  chosen : s.Quiet → s.choice = .of s.currentSessionId
  shown : s.Quiet → ∀ c ∈ s.currentSessionId,
    s.ws = some c ∧ s.messages.session? = some c ∧ s.tokens = some c ∧ (s.insights = none ∨ s.insights = some c)
  alive : ∀ c ∈ s.currentSessionId, s.deleted c = false
  stays : ∀ c ∈ s.currentSessionId, s.choice = .session c ∨ ∃ i, s.choice = .creation i
  sent : ∀ m ∈ s.sent, ∀ c ∈ m.shown.session?, c = m.session

/-- The created session that is switched to next is the current one. -/
def State.Resumable (s : State) (after : List ℕ) : Prop :=
  ∀ session ∈ after.head?, s.currentSessionId = some session

/-- A list reload without the pinned session is not all that has to open the current session. -/
def State.Opens (s : State) (pinned : Option ℕ) (after : List ℕ) : Prop :=
  ∀ c ∈ s.currentSessionId, pinned = some c → s.ws = some c ∨ c ∈ after

/-- What is expected of a list: the pinned session in it is the current one, a first session that is chosen is
not deleted. -/
def State.Listable (s : State) (sessions : List ℕ) (pinned : Option ℕ) (after : List ℕ) : Prop :=
  match sessions with
  | [] => s.Opens pinned after
  | first :: _ =>
    match pinned.filter (· ∈ sessions) with
    | some session => s.currentSessionId = some session
    | none =>
      if s.currentSessionId.isNone then s.deleted first = false else s.Resumable after ∧ s.Opens pinned after

/-- What is expected where a request fails: the error of a session's messages is of the open session, whose
token totals are shown. -/
def State.Failable (s : State) : Request → Prop
  | .create true after => s.Resumable after
  | .create false _ => True
  | .list pinned after => s.Resumable after ∧ s.Opens pinned after
  | .load session _ _ after => s.ws = some session ∧ s.tokens = some session ∧ s.Resumable after
  | .delete _ => True

/-- **The condition on a step**: the user selects a session that is not deleted, and a response arrives before
another choice has made it late. -/
def Timely (s : State) : Label → Prop
  | .select session => s.deleted session = false
  | .created _ _ => ∀ c, s.choice ≠ .session c
  | .listed i sessions => ∀ pinned after, s.Pending i (.list pinned after) → s.Listable sessions pinned after
  | .messages i => ∀ session found after, s.Pending i (.load session false (some found) after) →
      s.ws = some session ∧ s.Resumable after
  | .insights i _ => ∀ session after, s.Pending i (.load session true none after) →
      s.ws = some session ∧ s.Resumable after
  | .fail i => ∀ r, s.Pending i r → s.Failable r
  | _ => True

/-! ## The invariant -/

/-- The messages, or their error, and the token totals shown are the session's. -/
def State.Arrived (s : State) (c : ℕ) : Prop := s.messages.session? = some c ∧ s.tokens = some c

/-- The messages and insights of a session are awaited. -/
def State.Loading (s : State) (c : ℕ) : Prop :=
  ∃ i messages insights after, s.Pending i (.load c messages insights after)

/-- Once the request is answered, the session is switched to, unless something else is. -/
def Request.HeadsFor (c : ℕ) : Request → Prop
  | .create _ after => c ∈ after
  | .list pinned after => pinned = some c ∨ c ∈ after
  | .load _ _ _ after => c ∈ after
  | .delete _ => False

/-- A request heads for the session. -/
def State.Heading (s : State) (c : ℕ) : Prop := ∃ i r, s.Pending i r ∧ r.HeadsFor c

/-- The session that was chosen last is being created. -/
def State.Creating (s : State) : Prop :=
  ∃ i reload after, s.choice = .creation i ∧ s.Pending i (.create reload after)

/-- What does not depend on what is open and shown. -/
structure State.Kept (s : State) : Prop where
  chosen : s.choice = .of s.currentSessionId ∨ s.Creating
  alive : ∀ c ∈ s.currentSessionId, s.deleted c = false
  sent : ∀ m ∈ s.sent, ∀ c ∈ m.shown.session?, c = m.session

/-- **The invariant.** -/
structure State.Sound (s : State) : Prop extends s.Kept where
  messages : ∀ c ∈ s.messages.session?, s.ws = some c
  insights : ∀ c ∈ s.insights, s.ws = some c
  opened : ∀ c ∈ s.ws, s.Arrived c ∨ s.Loading c
  reached : ∀ c ∈ s.currentSessionId, s.ws = some c ∨ s.Heading c

variable {preferFreshSession : Bool} {s t : State} {r q : Request} {i j c : ℕ} {after : List ℕ}

/-- **The invariant says that the last choice wins.** -/
theorem State.Sound.lastWins (h : s.Sound) : s.LastWins where
  chosen hquiet := by
    rcases h.chosen with hchosen | ⟨i, reload, after, -, hi⟩
    · exact hchosen
    · exact absurd hi (hquiet i _)
  shown hquiet c hc := by
    have hws : s.ws = some c := by
      rcases h.reached c hc with hws | ⟨i, r, hi, -⟩
      · exact hws
      · exact absurd hi (hquiet i r)
    rcases h.opened c hws with ⟨hmessages, htokens⟩ | ⟨i, m, ins, after, hi⟩
    · refine ⟨hws, hmessages, htokens, ?_⟩
      cases hins : s.insights with
      | none => exact .inl rfl
      | some d =>
        rw [h.insights d hins] at hws
        exact .inr hws
    · exact absurd hi (hquiet i _)
  alive := h.alive
  stays c hc := by
    rcases h.chosen with hchosen | ⟨i, -, -, hi, -⟩
    · rw [Option.mem_def.mp hc] at hchosen
      exact .inl hchosen
    · exact .inr ⟨i, hi⟩
  sent := h.sent

/-! ## Requests -/

theorem State.Pending.request (h : s.Pending i r) (q : Request) : (s.request q).Pending i r := by
  have hi : i < s.requests.length := (List.getElem?_eq_some_iff.mp h).1
  change (s.requests ++ [some q])[i]? = _
  rw [List.getElem?_append_left hi]
  exact h

theorem pending_request (s : State) (r : Request) : (s.request r).Pending s.requests.length r := by
  change (s.requests ++ [some r])[s.requests.length]? = _
  rw [List.getElem?_append_right le_rfl, Nat.sub_self]
  rfl

theorem State.Pending.answer (h : s.Pending j r) (hne : j ≠ i) : (s.answer i).Pending j r := by
  change (s.requests.set i none)[j]? = _
  rw [List.getElem?_set_ne (Ne.symm hne)]
  exact h

/-- Of two requests at one place, there is one. -/
theorem State.Pending.unique (h : s.Pending i r) (h' : s.Pending i q) : r = q := by
  rw [State.Pending, h, Option.some_inj, Option.some_inj] at h'
  exact h'

theorem State.Creating.request (h : s.Creating) (r : Request) : (s.request r).Creating := by
  obtain ⟨i, reload, after, hi, hpending⟩ := h
  exact ⟨i, reload, after, hi, hpending.request r⟩

theorem State.Heading.request (h : s.Heading c) (r : Request) : (s.request r).Heading c := by
  obtain ⟨i, q, hpending, hq⟩ := h
  exact ⟨i, q, hpending.request r, hq⟩

theorem State.Loading.request (h : s.Loading c) (r : Request) : (s.request r).Loading c := by
  obtain ⟨i, messages, insights, after, hpending⟩ := h
  exact ⟨i, messages, insights, after, hpending.request r⟩

/-- **A request is made.** -/
theorem State.Sound.request (h : s.Sound) (r : Request) : (s.request r).Sound where
  chosen := h.chosen.imp id fun hcreating => hcreating.request r
  alive := h.alive
  sent := h.sent
  messages := h.messages
  insights := h.insights
  opened c hc := (h.opened c hc).imp id fun hloading => hloading.request r
  reached c hc := (h.reached c hc).imp id fun hheading => hheading.request r

/-- A response arrives, and it is not the one to the creation of the session chosen last. -/
theorem State.Kept.answer (h : s.Kept) (hr : s.Pending i r)
    (hcreate : ∀ reload after, r = .create reload after → s.choice ≠ .creation i) : (s.answer i).Kept := by
  refine ⟨?_, h.alive, h.sent⟩
  rcases h.chosen with hchosen | ⟨j, reload, after, hj, hpending⟩
  · exact .inl hchosen
  · refine .inr ⟨j, reload, after, hj, hpending.answer fun hji => ?_⟩
    subst hji
    exact hcreate reload after (hr.unique hpending) hj

/-- **A response arrives** that nothing waited for. -/
theorem State.Sound.answer (h : s.Sound) (hr : s.Pending i r)
    (hcreate : ∀ reload after, r = .create reload after → s.choice ≠ .creation i)
    (hload : ∀ c ∈ s.ws, ∀ messages insights after, r = .load c messages insights after → s.Arrived c)
    (hheads : ∀ c ∈ s.currentSessionId, r.HeadsFor c → s.ws = some c) : (s.answer i).Sound where
  toKept := h.toKept.answer hr hcreate
  messages := h.messages
  insights := h.insights
  opened c hc := by
    rcases h.opened c hc with harrived | ⟨j, messages, insights, after, hpending⟩
    · exact .inl harrived
    · by_cases hji : j = i
      · subst hji
        exact .inl (hload c hc messages insights after (hr.unique hpending))
      · exact .inr ⟨j, messages, insights, after, hpending.answer hji⟩
  reached c hc := by
    rcases h.reached c hc with hws | ⟨j, q, hpending, hq⟩
    · exact .inl hws
    · by_cases hji : j = i
      · subst hji
        rw [← hr.unique hpending] at hq
        exact .inl (hheads c hc hq)
      · exact .inr ⟨j, q, hpending.answer hji, hq⟩

theorem State.Loading.answer (h : s.Loading c) (hr : s.Pending i r)
    (hload : ∀ messages insights after, r ≠ .load c messages insights after) : (s.answer i).Loading c := by
  obtain ⟨j, messages, insights, after, hpending⟩ := h
  refine ⟨j, messages, insights, after, hpending.answer fun hji => ?_⟩
  subst hji
  exact hload messages insights after (hr.unique hpending)

/-- A request is made on the arrival of a response to another, and heads for what that one did. -/
theorem State.Sound.replace (h : s.Sound) (hr : s.Pending i r)
    (hcreate : ∀ reload after, r = .create reload after → s.choice ≠ .creation i)
    (hload : ∀ c messages insights after, r ≠ .load c messages insights after)
    (hheads : ∀ c ∈ s.currentSessionId, r.HeadsFor c → s.ws = some c ∨ q.HeadsFor c) :
    ((s.answer i).request q).Sound where
  chosen := (h.toKept.answer hr hcreate).chosen.imp id fun hcreating => hcreating.request q
  alive := h.alive
  sent := h.sent
  messages := h.messages
  insights := h.insights
  opened c hc := (h.opened c hc).imp id fun hloading => (hloading.answer hr (hload c)).request q
  reached c hc := by
    rcases h.reached c hc with hws | ⟨j, p, hpending, hp⟩
    · exact .inl hws
    · by_cases hji : j = i
      · subst hji
        rw [← hr.unique hpending] at hp
        exact (hheads c hc hp).imp id fun hq => ⟨_, q, pending_request _ q, hq⟩
      · exact .inr ⟨j, p, (hpending.answer hji).request q, hp⟩

/-! ## Switching -/

/-- **A session is switched to** that is chosen, or where another one is being created. -/
theorem sound_switchSession (after : List ℕ) (hchosen : s.choice = .session c ∨ s.Creating)
    (halive : s.deleted c = false) (hsent : ∀ m ∈ s.sent, ∀ c ∈ m.shown.session?, c = m.session) :
    (s.switchSession c after).Sound where
  chosen := hchosen.imp id fun hcreating => State.Creating.request hcreating _
  alive d hd := by
    cases hd
    exact halive
  sent := hsent
  messages d hd := by cases hd
  insights d hd := by cases hd
  opened d hd := by
    cases hd
    exact .inr ⟨_, _, _, _, pending_request _ _⟩
  reached d hd := .inl hd

/-- The current session is switched to. -/
theorem State.Kept.switchSession (h : s.Kept) (hc : s.currentSessionId = some c) (after : List ℕ) :
    (s.switchSession c after).Sound := by
  refine sound_switchSession after ?_ (h.alive c hc) h.sent
  have hchosen := h.chosen
  rwa [hc] at hchosen

/-- What awaited the return goes on. -/
theorem State.Kept.resume (h : s.Kept) (hresumable : s.Resumable after) (hnil : after = [] → s.Sound) :
    (s.resume after).Sound := by
  cases after with
  | nil => exact hnil rfl
  | cons session after => exact h.switchSession (hresumable session rfl) after

/-- A list reload begins. -/
theorem State.Sound.loadSessions (h : s.Sound) : (s.loadSessions preferFreshSession).Sound := by
  rw [State.loadSessions]
  split
  · exact h.request _
  · exact h.request _

theorem State.Sound.mark (h : s.Sound) (streaming : Bool) : (s.mark streaming).Sound :=
  ⟨⟨h.chosen, h.alive, h.sent⟩, h.messages, h.insights, h.opened, h.reached⟩

/-! ## Responses -/

/-- A session is created, and none has been chosen since. -/
theorem State.Sound.created {reload : Bool} (h : s.Sound) (hr : s.Pending i (.create reload after))
    (hchoice : ∀ c, s.choice ≠ .session c) (session : ℕ) : (s.created i session reload after).Sound where
  chosen := by
    rcases h.chosen with hchosen | ⟨j, reload', after', hj, hpending⟩
    · -- nothing is chosen yet
      left
      cases hcurrent : s.currentSessionId with
      | none =>
        rw [hcurrent] at hchosen
        simp only [State.created, State.request, hchosen, Choice.of]
      | some c =>
        rw [hcurrent] at hchosen
        exact absurd hchosen (hchoice c)
    · by_cases hji : j = i
      · left
        simp only [State.created, State.request, hj, if_pos hji, Choice.of]
      · refine .inr ⟨j, reload', after', ?_, State.Pending.request (State.Pending.answer hpending hji) _⟩
        simp only [State.created, State.request, hj, if_neg hji]
  alive d hd := by
    cases hd
    exact Function.update_self ..
  sent := h.sent
  messages := h.messages
  insights := h.insights
  opened c hc := by
    refine (h.opened c hc).imp id fun hloading => ?_
    exact State.Loading.request (hloading.answer hr fun _ _ _ => Request.noConfusion) _
  reached d hd := by
    cases hd
    exact .inr ⟨_, _, pending_request _ _, .inl rfl⟩

/-- A list reload switches to no session. -/
theorem State.Sound.answer_list {pinned : Option ℕ} (h : s.Sound) (hr : s.Pending i (.list pinned after))
    (hopens : s.Opens pinned after) (hnil : after = []) : (s.answer i).Sound := by
  refine h.answer hr (fun _ _ => Request.noConfusion) (fun _ _ _ _ _ => Request.noConfusion) ?_
  subst hnil
  rintro c hc (hc' | hc')
  · exact (hopens c hc hc').resolve_right List.not_mem_nil
  · cases hc'

/-- **A list arrives.** -/
theorem State.Sound.listed {pinned : Option ℕ} {sessions : List ℕ} (h : s.Sound)
    (hr : s.Pending i (.list pinned after)) (hlistable : s.Listable sessions pinned after) :
    ((s.answer i).listed sessions pinned after).Sound := by
  have hkept : (s.answer i).Kept := h.toKept.answer hr fun _ _ => Request.noConfusion
  cases sessions with
  | nil =>
    refine h.replace hr (fun _ _ => Request.noConfusion) (fun _ _ _ _ => Request.noConfusion) ?_
    rintro c hc (hc' | hc')
    · exact hlistable c hc hc'
    · exact .inr hc'
  | cons first rest =>
    rw [State.listed]
    rw [State.Listable] at hlistable
    cases hpinned : pinned.filter (· ∈ first :: rest) with
    | some session =>
      rw [hpinned] at hlistable
      exact hkept.switchSession hlistable after
    | none =>
      rw [hpinned] at hlistable
      dsimp only at hlistable ⊢
      change (if s.currentSessionId.isNone then _ else _ : State).Sound
      split
      · rename_i hnone
        rw [if_pos hnone] at hlistable
        refine sound_switchSession after ?_ hlistable h.sent
        -- nothing is chosen, or a session is being created
        rcases hkept.chosen with hchosen | ⟨j, reload, after', hj, hpending⟩
        · left
          change (if s.choice = Choice.nothing then Choice.session first else s.choice) = _
          refine if_pos (hchosen.trans ?_)
          change Choice.of s.currentSessionId = _
          rw [Option.isNone_iff_eq_none.mp hnone]
          rfl
        · refine .inr ⟨j, reload, after', ?_, hpending⟩
          change (if s.choice = Choice.nothing then Choice.session first else s.choice) = _
          have hj' : s.choice = .creation j := hj
          rw [hj', if_neg Choice.noConfusion]
      · rename_i hsome
        rw [if_neg hsome] at hlistable
        exact hkept.resume hlistable.1 fun hnil => h.answer_list hr hlistable.2 hnil

/-- What a session has shown, or its error, goes with its token totals. -/
theorem State.Sound.arrived {session : ℕ} {messages : Bool} {insights : Option Bool} (h : s.Sound)
    (hr : s.Pending i (.load session messages insights after)) (harrived : s.Arrived session)
    (hresumable : s.Resumable after) : ((s.answer i).resume after).Sound := by
  have hkept : (s.answer i).Kept := h.toKept.answer hr fun _ _ => Request.noConfusion
  refine hkept.resume hresumable fun hnil => ?_
  refine h.answer hr (fun _ _ => Request.noConfusion) ?_ ?_
  · rintro c - _ _ _ ⟨⟩
    exact harrived
  · intro c _ hc
    rw [hnil] at hc
    cases hc

/-- **The messages and the insights of the open session arrive.** -/
theorem State.Sound.loaded {session : ℕ} {messages : Bool} {insights : Option Bool} (h : s.Sound)
    (hr : s.Pending i (.load session messages insights after)) (hws : s.ws = some session)
    (hresumable : s.Resumable after) (found : Bool) : ((s.answer i).loaded session found after).Sound := by
  have hshown : State.Sound { s with
      tokens := some session
      messages := .loaded session
      insights := if found then some session else none } := by
    refine ⟨⟨h.chosen, h.alive, h.sent⟩, ?_, ?_, ?_, h.reached⟩
    · rintro c ⟨⟩
      exact hws
    · intro c hc
      dsimp only at hc
      split at hc
      · cases hc
        exact hws
      · cases hc
    · intro c hc
      rw [Option.mem_unique hc hws]
      exact .inl ⟨rfl, rfl⟩
  exact hshown.arrived hr ⟨rfl, rfl⟩ hresumable

/-- The messages of the open session fail, whose token totals are shown. -/
theorem State.Sound.loadFailed {session : ℕ} {messages : Bool} {insights : Option Bool} (h : s.Sound)
    (hr : s.Pending i (.load session messages insights after)) (hws : s.ws = some session)
    (htokens : s.tokens = some session) (hresumable : s.Resumable after) :
    (State.resume { s.answer i with messages := .failed session, insights := none } after).Sound := by
  have hshown : State.Sound { s with messages := .failed session, insights := none } := by
    refine ⟨⟨h.chosen, h.alive, h.sent⟩, ?_, fun c hc => ?_, fun c hc => ?_, h.reached⟩
    · rintro c ⟨⟩
      exact hws
    · cases hc
    · rw [Option.mem_unique hc hws]
      exact .inl ⟨rfl, htokens⟩
  exact hshown.arrived hr ⟨rfl, htokens⟩ hresumable

/-- A session is deleted: where it is the current one, none is. -/
theorem State.Sound.deleteSession (h : s.Sound) (session : ℕ) : (s.deleteSession session).Sound where
  chosen := by
    rcases h.chosen with hchosen | ⟨j, reload, after, hj, hpending⟩
    · left
      simp only [State.deleteSession, hchosen]
      cases s.currentSessionId with
      | none => rfl
      | some c =>
        simp only [Choice.of, Choice.session.injEq, Option.some_inj]
        split
        · rfl
        · rfl
    · refine .inr ⟨j, reload, after, ?_, hpending⟩
      simp only [State.deleteSession, hj, reduceCtorEq, if_false]
  alive c hc := by
    simp only [State.deleteSession] at hc ⊢
    split at hc
    · cases hc
    · rename_i hne
      rw [Function.update_of_ne]
      · exact h.alive c hc
      · rintro rfl
        exact hne hc
  sent := h.sent
  messages := h.messages
  insights := h.insights
  opened := h.opened
  reached c hc := by
    simp only [State.deleteSession] at hc
    split at hc
    · cases hc
    · exact h.reached c hc

/-- A creation fails: the user stays where he is. -/
theorem State.Sound.abandon (h : s.Sound) (i : ℕ) : (s.abandon i).Sound := by
  refine ⟨⟨?_, h.alive, h.sent⟩, h.messages, h.insights, h.opened, h.reached⟩
  simp only [State.abandon]
  split
  · exact .inl rfl
  · exact h.chosen

theorem abandon_choice (s : State) (i : ℕ) : (s.abandon i).choice ≠ .creation i := by
  simp only [State.abandon]
  split
  · cases s.currentSessionId <;> exact Choice.noConfusion
  · assumption

/-- **A request fails.** -/
theorem State.Sound.failed (h : s.Sound) (hr : s.Pending i r) (hfailable : s.Failable r) :
    (s.failed i r).Sound := by
  cases r with
  | create reload after =>
    have habandon : (s.abandon i).Sound := h.abandon i
    have hcreate : ∀ reload' after', Request.create reload after = .create reload' after' →
        (s.abandon i).choice ≠ .creation i := fun _ _ _ => abandon_choice s i
    rw [State.failed]
    cases reload with
    | false =>
      refine habandon.replace hr hcreate (fun _ _ _ _ => Request.noConfusion) fun c _ hc => ?_
      exact .inr (.inr hc)
    | true =>
      refine (habandon.toKept.answer hr hcreate).resume hfailable fun hnil => ?_
      refine habandon.answer hr hcreate (fun _ _ _ _ _ => Request.noConfusion) fun c _ hc => ?_
      rw [hnil] at hc
      cases hc
  | list pinned after =>
    have hkept : (s.answer i).Kept := h.toKept.answer hr fun _ _ => Request.noConfusion
    exact hkept.resume hfailable.1 fun hnil => h.answer_list hr hfailable.2 hnil
  | load session messages insights after => exact h.loadFailed hr hfailable.1 hfailable.2.1 hfailable.2.2
  | delete session =>
    exact h.answer hr (fun _ _ => Request.noConfusion) (fun _ _ _ _ _ => Request.noConfusion) fun _ _ => False.elim

/-- One of the two responses of a switch arrives. -/
theorem State.Sound.await {session : ℕ} {messages : Bool} {insights : Option Bool} (h : s.Sound)
    (hr : s.Pending i (.load session messages insights after)) (messages' : Bool) (insights' : Option Bool) :
    State.Sound { s with
      requests := s.requests.set i (some (.load session messages' insights' after)) } := by
  have hnew : (s.requests.set i (some (.load session messages' insights' after)))[i]? =
      some (some (.load session messages' insights' after)) :=
    List.getElem?_set_self (List.getElem?_eq_some_iff.mp hr).1
  have hold : ∀ j r, j ≠ i → s.Pending j r →
      (s.requests.set i (some (.load session messages' insights' after)))[j]? = some (some r) := by
    intro j r hji hpending
    rw [List.getElem?_set_ne (Ne.symm hji)]
    exact hpending
  refine ⟨⟨?_, h.alive, h.sent⟩, h.messages, h.insights, fun c hc => ?_, fun c hc => ?_⟩
  · refine h.chosen.imp id ?_
    rintro ⟨j, reload, after', hj, hpending⟩
    refine ⟨j, reload, after', hj, hold j _ (fun hji => ?_) hpending⟩
    subst hji
    cases hr.unique hpending
  · refine (h.opened c hc).imp id ?_
    rintro ⟨j, m, ins, after', hpending⟩
    by_cases hji : j = i
    · subst hji
      cases hr.unique hpending
      exact ⟨_, _, _, _, hnew⟩
    · exact ⟨j, m, ins, after', hold j _ hji hpending⟩
  · refine (h.reached c hc).imp id ?_
    rintro ⟨j, q, hpending, hq⟩
    by_cases hji : j = i
    · subst hji
      cases hr.unique hpending
      exact ⟨_, _, hnew, hq⟩
    · exact ⟨j, q, hold j _ hji hpending, hq⟩

/-! ## Runs -/

/-- A message is sent to the session whose messages are shown. -/
theorem State.Sound.send {session : ℕ} (h : s.Sound) (hws : s.ws = some session) :
    State.Sound { s.mark true with sent := s.sent ++ [{ session := session, shown := s.messages }] } := by
  refine ⟨⟨h.chosen, h.alive, fun m hm c hc => ?_⟩, h.messages, h.insights, h.opened, h.reached⟩
  rcases List.mem_append.mp hm with hm | hm
  · exact h.sent m hm c hc
  · rw [List.mem_singleton.mp hm] at hc ⊢
    exact Option.some.inj ((h.messages c hc).symm.trans hws)

/-- **A timely step keeps the invariant.** -/
theorem State.Sound.step {label : Label} (h : s.Sound) (htimely : Timely s label)
    (hstep : step preferFreshSession s label = some t) : t.Sound := by
  cases label with
  | select session =>
    rw [← Option.some.inj hstep]
    have hchosen : { s with choice := Choice.session session }.choice = .session session := rfl
    exact sound_switchSession (s := { s with choice := Choice.session session }) [] (.inl hchosen) htimely h.sent
  | create =>
    rw [← Option.some.inj hstep]
    have hrequest := h.request (.create true [])
    exact ⟨⟨.inr ⟨_, _, _, rfl, pending_request s _⟩, h.alive, h.sent⟩, h.messages, h.insights,
      hrequest.opened, hrequest.reached⟩
  | delete session =>
    rw [← Option.some.inj hstep]
    exact h.request _
  | send =>
    rw [SessionSwitching.step] at hstep
    split at hstep
    · rename_i session current hws hcurrent
      split at hstep
      · cases hstep
      · rw [← Option.some.inj hstep]
        exact h.send hws
    · cases hstep
  | usage =>
    rw [SessionSwitching.step] at hstep
    split at hstep
    · rename_i session hws
      rw [← Option.some.inj hstep]
      refine ⟨⟨h.chosen, h.alive, h.sent⟩, h.messages, h.insights, fun c hc => ?_, h.reached⟩
      refine (h.opened c hc).imp ?_ id
      rintro ⟨hmessages, htokens⟩
      refine ⟨hmessages, ?_⟩
      rw [← Option.mem_unique hc hws, ← htokens]
      exact if_pos rfl
    · cases hstep
  | done =>
    rw [SessionSwitching.step] at hstep
    split at hstep
    · rw [← Option.some.inj hstep]
      exact (h.mark false).loadSessions
    · cases hstep
  | mark streaming =>
    rw [SessionSwitching.step] at hstep
    split at hstep
    · rw [← Option.some.inj hstep]
      exact h.mark streaming
    · cases hstep
  | created i session =>
    rw [SessionSwitching.step] at hstep
    split at hstep
    · rename_i hr
      rw [← Option.some.inj hstep]
      exact h.created hr htimely session
    · cases hstep
  | listed i sessions =>
    rw [SessionSwitching.step] at hstep
    split at hstep
    · rename_i pinned after hr
      rw [← Option.some.inj hstep]
      exact h.listed hr (htimely pinned after hr)
    · cases hstep
  | messages i =>
    rw [SessionSwitching.step] at hstep
    split at hstep
    · rename_i hr
      rw [← Option.some.inj hstep]
      exact h.await hr true none
    · rename_i session found after hr
      obtain ⟨hws, hresumable⟩ := htimely session found after hr
      rw [← Option.some.inj hstep]
      exact h.loaded hr hws hresumable found
    · cases hstep
  | insights i found =>
    rw [SessionSwitching.step] at hstep
    split at hstep
    · rename_i hr
      rw [← Option.some.inj hstep]
      exact h.await hr false (some found)
    · rename_i session after hr
      obtain ⟨hws, hresumable⟩ := htimely session after hr
      rw [← Option.some.inj hstep]
      exact h.loaded hr hws hresumable found
    · cases hstep
  | deleted i =>
    rw [SessionSwitching.step] at hstep
    split at hstep
    · rename_i session hr
      rw [← Option.some.inj hstep]
      have hanswer : (s.answer i).Sound :=
        h.answer hr (fun _ _ => Request.noConfusion) (fun _ _ _ _ _ => Request.noConfusion) fun _ _ => False.elim
      exact (hanswer.deleteSession session).loadSessions
    · cases hstep
  | fail i =>
    rw [SessionSwitching.step] at hstep
    split at hstep
    · cases hstep
    · rename_i r _ hr
      rw [← Option.some.inj hstep]
      exact h.failed hr (htimely r hr)
    · cases hstep

theorem sound_initial : (initial preferFreshSession).Sound := by
  refine State.Sound.loadSessions ⟨⟨.inl rfl, fun c hc => ?_, fun m hm => ?_⟩, ?_, ?_, ?_, ?_⟩
  · cases hc
  · cases hm
  all_goals
    intro c hc
    cases hc

/-- **The last choice wins in every timely run**: where every response arrives before another choice has made
it late, the page comes to rest at the session that was chosen last. -/
theorem lastWins_of_run {labels : List Label}
    (h : Run (step preferFreshSession) Timely (initial preferFreshSession) labels t) : t.LastWins :=
  (h.invariant (I := State.Sound) (fun _ _ _ hs htimely hstep => hs.step htimely hstep) sound_initial).lastWins

/-- The list opens session 1; once it has arrived, the user selects session 2 and sends a message. -/
theorem lastWins_select : ∃ t, Run (step false) Timely (initial false)
    [.listed 0 [1, 2], .messages 1, .insights 1 true, .select 2, .send] t ∧
    t.currentSessionId = some 2 ∧ t.LastWins := by
  have hrun : ∃ t, Run (step false) Timely (initial false)
      [.listed 0 [1, 2], .messages 1, .insights 1 true, .select 2, .send] t ∧ t.currentSessionId = some 2 := by
    refine ⟨_, .cons ?_ rfl (.cons ?_ rfl (.cons ?_ rfl (.cons ?_ rfl (.cons trivial rfl (.nil _))))), rfl⟩
    · rintro pinned after ⟨⟩
      rfl
    · rintro session found after ⟨⟩
    · rintro session after ⟨⟩
      refine ⟨rfl, fun session hsession => ?_⟩
      cases hsession
    · rfl
  obtain ⟨t, hrun, hcurrent⟩ := hrun
  exact ⟨t, hrun, hcurrent, lastWins_of_run hrun⟩

/-! ## A late response -/

/-- **A late response wins**: the user selects session 2 while the messages of session 1 are awaited, which
then arrive after those of session 2 and are shown. -/
theorem late_messages_shown :
    ¬ ∀ (labels : List Label) (t : State), Run (step false) Always (initial false) labels t → t.LastWins := by
  intro hclaim
  have hwins := hclaim
    [.listed 0 [1, 2], .select 2, .messages 2, .insights 2 false, .messages 1, .insights 1 false] _
    (.cons trivial rfl (.cons trivial rfl (.cons trivial rfl (.cons trivial rfl
      (.cons trivial rfl (.cons trivial rfl (.nil _)))))))
  have hquiet : ∀ (i : ℕ) (r : Request), ([none, none, none] : List (Option Request))[i]? ≠ some (some r) := by
    rintro (_ | _ | _ | i) r h
    all_goals cases h
  obtain ⟨-, hmessages, -⟩ := hwins.shown hquiet 2 rfl
  cases hmessages

end DBClaw.SessionSwitching
