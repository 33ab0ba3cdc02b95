import DBClaw.Approvals.Orchestration

/-! # Which request an approval id resolves
`Identified` is the purpose of the id: what a call resolves and executes under an id is the request
that its session recorded under exactly this id (`OnRecord`). The dictionary is keyed by the id, but
the stored rows are searched by `LIKE '%id%'`, which a fragment of the row or a wildcard satisfies
too. The property holds in every run in which the row found that way records the id that was asked
for (`Exact`), and a lookup that breaks this condition resolves a foreign request
(`inexact_passes`). -/

namespace DBClaw.Approvals

open Runs

variable {codec : JsonCodec} {s t : State} {label : Label}

/-! ## The property -/

/-- **The session recorded this tool and these arguments under this id**: in a row of its history,
or in a request stored since the start. A row without arguments stands for the empty ones. -/
inductive OnRecord (codec : JsonCodec) (s : State) (sessionId : SessionId) (approvalId : Text)
    (toolName toolArgs : Json) : Prop
  | row (m : ChatMessage) (data : Dict) : m ∈ s.messages → m.sessionId = sessionId →
      m.role = .approvalRequest → codec.loads m.content = some (.obj data) →
      Dict.get data "approval_id" = .str approvalId → toolName = Dict.get data "tool_name" →
      toolArgs = (Dict.get data "tool_args").or (.obj []) →
      OnRecord codec s sessionId approvalId toolName toolArgs
  | request (r : Request) : r ∈ s.requested → r.sessionId = sessionId →
      r.event.approvalId = approvalId → toolName = r.event.toolName →
      toolArgs = r.event.toolArgs → OnRecord codec s sessionId approvalId toolName toolArgs

/-- **An id resolves the request recorded under it, and nothing else.** -/
structure Identified (codec : JsonCodec) (s : State) : Prop where
  passed : ∀ p ∈ s.passed, OnRecord codec s p.call.sessionId p.call.approvalId p.pending.toolName
    p.pending.toolArgs
  executed : ∀ x ∈ s.executed, OnRecord codec s x.call.sessionId x.call.approvalId x.toolName
    (.obj x.toolArgs)

/-- The process has just started on some history. -/
structure Boot (s : State) : Prop where
  map : ∀ sessionId, s.pendingApprovals sessionId = none
  calls : ∀ i, s.calls i = none
  passed : s.passed = []
  executed : s.executed = []

/-! ## The condition -/

/-- The stored request records this id. -/
def recordsId (data : Dict) (approvalId : Text) : Bool :=
  match Dict.get data "approval_id" with
  | .str recorded => recorded == approvalId
  | _ => false

/-- **When a lookup in the history is exact**: if the newest live row that the `LIKE` matches is
still pending, it records the id of the call. -/
def exactRow (codec : JsonCodec) (s : State) (call : Call) : Bool :=
  match findRequest s.messages call.sessionId call.approvalId with
  | some row =>
    match codec.loads row.content with
    | some (.obj data) =>
      ! statusIsPending (Dict.get data "status") || recordsId data call.approvalId
    | _ => true
  | none => true

/-- A step is exact when the query of the rows that it answers, if any, is. -/
def exact (codec : JsonCodec) (s : State) : Label → Bool
  | .resume i _ _ =>
    match s.calls i with
    | some (call, .queryRow) => exactRow codec s call
    | _ => true
  | _ => true

/-- `exact` as a condition on runs. -/
def Exact (codec : JsonCodec) (s : State) (label : Label) : Prop := exact codec s label = true

instance (codec : JsonCodec) (s : State) (label : Label) : Decidable (Exact codec s label) :=
  inferInstanceAs (Decidable (_ = _))

/-! ## Provenance -/

/-- The pending request that a call carries. -/
def Stage.pending : Stage → Option Pending
  | .lookup | .queryRow => none
  | .querySession p | .commitResponse _ p | .emitResolved _ p | .commitToolCall p
  | .emitToolCall p | .executeSkill p | .commitToolResult p _ => some p

/-- A relation between a session, an id and a pending request holds of every entry of the
dictionaries that `PENDING_APPROVALS` refers to, each of which belongs to one session. -/
def MapHolds (Q : SessionId → Text → Pending → Prop) (s : State) : Prop :=
  ∀ sessionId d, s.pendingApprovals sessionId = some d → d < s.nextDict ∧
    (s.dicts d).sessionId = sessionId ∧
    ∀ k p, (s.dicts d).entries.lookup k = some p → Q sessionId k p

/-- **The relation holds of everything a state keeps of pending requests.** -/
structure Holds (Q : SessionId → Text → Pending → Prop) (s : State) : Prop where
  map : MapHolds Q s
  calls : ∀ i call stage p, s.calls i = some (call, stage) → stage.pending = some p →
    Q call.sessionId call.approvalId p
  passed : ∀ x ∈ s.passed, Q x.call.sessionId x.call.approvalId x.pending
  executed : ∀ x ∈ s.executed, ∃ p, Q x.call.sessionId x.call.approvalId p ∧
    p.toolName = x.toolName ∧ p.toolArgs = .obj x.toolArgs

/-- The pending requests that are on record. -/
def Known (codec : JsonCodec) (s : State) (sessionId : SessionId) (approvalId : Text)
    (p : Pending) : Prop :=
  OnRecord codec s sessionId approvalId p.toolName p.toolArgs

variable {Q Q' : SessionId → Text → Pending → Prop}

/-- A weaker relation holds too. -/
theorem Holds.mono (hle : ∀ sessionId k p, Q sessionId k p → Q' sessionId k p) (h : Holds Q s) :
    Holds Q' s where
  map sessionId d hd := by
    obtain ⟨hlt, hown, hent⟩ := h.map sessionId d hd
    exact ⟨hlt, hown, fun k p hp => hle _ _ _ (hent k p hp)⟩
  calls i call stage p hi hp := hle _ _ _ (h.calls i call stage p hi hp)
  passed x hx := hle _ _ _ (h.passed x hx)
  executed x hx := by
    obtain ⟨p, hp, hname, hargs⟩ := h.executed x hx
    exact ⟨p, hle _ _ _ hp, hname, hargs⟩

/-- A freshly started process holds nothing. -/
theorem Boot.holds (h : Boot s) : Holds Q s where
  map sessionId d hd := by rw [h.map sessionId] at hd; cases hd
  calls i call stage p hi := by rw [h.calls i] at hi; cases hi
  passed x hx := by rw [h.passed] at hx; cases hx
  executed x hx := by rw [h.executed] at hx; cases hx

/-- What a state knows of is what it has on record. -/
theorem Holds.identified (h : Holds (Known codec s) s) : Identified codec s where
  passed := h.passed
  executed x hx := by
    obtain ⟨p, hp, hname, hargs⟩ := h.executed x hx
    rw [Known, hname, hargs] at hp
    exact hp

/-! ## The dictionaries -/

/-- The session's dictionary belongs to it, and `setdefault` adds no entry. -/
theorem MapHolds.setdefault (h : MapHolds Q s) (sessionId : SessionId) :
    MapHolds Q (s.setdefault sessionId).2 ∧
      (s.setdefault sessionId).2.pendingApprovals sessionId = some (s.setdefault sessionId).1 := by
  unfold State.setdefault
  split
  · rename_i d hd
    exact ⟨h, hd⟩
  · rename_i hnone
    refine ⟨fun sid d hd => ?_, Function.update_self ..⟩
    by_cases hsid : sid = sessionId
    · subst hsid
      have hd' : s.nextDict = d := by simpa using hd
      subst hd'
      refine ⟨Nat.lt_succ_self _, by simp, fun k p hp => ?_⟩
      simp at hp
    · have hd' : s.pendingApprovals sid = some d := by simpa [hsid] using hd
      obtain ⟨hlt, hown, hent⟩ := h sid d hd'
      have hne : d ≠ s.nextDict := Nat.ne_of_lt hlt
      refine ⟨Nat.lt_succ_of_lt hlt, ?_, ?_⟩
      · simpa [hne] using hown
      · simpa [hne] using hent

/-- Writing an entry for which the relation holds into the session's own dictionary. -/
theorem MapHolds.setEntry (h : MapHolds Q s) {sessionId : SessionId} {d : ℕ} {k : Text}
    {p : Pending} (hd : s.pendingApprovals sessionId = some d) (hp : Q sessionId k p) :
    MapHolds Q (s.setEntry d k p) := by
  intro sid d' hd'
  obtain ⟨hlt, hown, hent⟩ := h sid d' hd'
  by_cases hdd : d' = d
  · subst hdd
    have hsid : sid = sessionId := by
      rw [← hown, (h sessionId d' hd).2.1]
    subst hsid
    refine ⟨hlt, by simpa [State.setEntry] using hown, fun k' p' hp' => ?_⟩
    simp only [State.setEntry, Function.update_self] at hp'
    by_cases hk : k' = k
    · subst hk
      rw [AList.lookup_insert] at hp'
      cases hp'
      exact hp
    · rw [AList.lookup_insert_ne hk] at hp'
      exact hent k' p' hp'
  · refine ⟨hlt, ?_, ?_⟩
    · simpa [State.setEntry, hdd] using hown
    · simpa [State.setEntry, hdd] using hent

/-- Dropping an entry, and with it perhaps a session. -/
theorem MapHolds.popEntry (h : MapHolds Q s) (d : ℕ) (sessionId : SessionId) (k : Text) :
    MapHolds Q (s.popEntry d sessionId k) := by
  intro sid d' hd'
  have hd'' : s.pendingApprovals sid = some d' := by
    simp only [State.popEntry] at hd'
    split at hd'
    · by_cases hsid : sid = sessionId
      · rw [hsid, Function.update_self] at hd'
        cases hd'
      · rwa [Function.update_of_ne hsid] at hd'
    · exact hd'
  obtain ⟨hlt, hown, hent⟩ := h sid d' hd''
  by_cases hdd : d' = d
  · subst hdd
    refine ⟨hlt, by simpa [State.popEntry] using hown, fun k' p hp => ?_⟩
    simp only [State.popEntry, Function.update_self] at hp
    by_cases hk : k' = k
    · subst hk
      rw [AList.lookup_erase] at hp
      cases hp
    · rw [AList.lookup_erase_ne hk] at hp
      exact hent k' p hp
  · refine ⟨hlt, ?_, ?_⟩
    · simpa [State.popEntry, hdd] using hown
    · simpa [State.popEntry, hdd] using hent

/-! ## One step -/

/-- A call is replaced by one whose pending request the relation holds of. -/
theorem Holds.suspend (h : Holds Q s) {i : ℕ} {call : Call} {stage : Stage}
    (hp : ∀ p, stage.pending = some p → Q call.sessionId call.approvalId p) :
    Holds Q (s.suspend i call stage) where
  map := h.map
  calls j c st p hj hst := by
    by_cases hji : j = i
    · subst hji
      simp only [State.suspend, Function.update_self, Option.some.injEq, Prod.mk.injEq] at hj
      obtain ⟨rfl, rfl⟩ := hj
      exact hp p hst
    · simp only [State.suspend, Function.update_of_ne hji] at hj
      exact h.calls j c st p hj hst
  passed := h.passed
  executed := h.executed

/-- A call ends. -/
theorem Holds.finish (h : Holds Q s) (i : ℕ) : Holds Q (s.finish i) where
  map := h.map
  calls j c st p hj hst := by
    by_cases hji : j = i
    · subst hji
      simp [State.finish] at hj
    · simp only [State.finish, Function.update_of_ne hji] at hj
      exact h.calls j c st p hj hst
  passed := h.passed
  executed := h.executed

/-- A call passes the lookup with a request that the relation holds of. -/
theorem Holds.logPass (h : Holds Q s) {i : ℕ} {call : Call} {p : Pending}
    (hp : Q call.sessionId call.approvalId p) : Holds Q (s.logPass i call p) where
  map := h.map
  calls := h.calls
  passed x hx := by
    rw [State.logPass, List.mem_append, List.mem_singleton] at hx
    obtain hx | rfl := hx
    · exact h.passed x hx
    · exact hp
  executed := h.executed

/-- A call starts the tool of a request that the relation holds of. -/
theorem Holds.logExecution (h : Holds Q s) {x : Execution} {p : Pending}
    (hp : Q x.call.sessionId x.call.approvalId p) (hname : p.toolName = x.toolName)
    (hargs : p.toolArgs = .obj x.toolArgs) : Holds Q (s.logExecution x) where
  map := h.map
  calls := h.calls
  passed := h.passed
  executed y hy := by
    rw [State.logExecution, List.mem_append, List.mem_singleton] at hy
    obtain hy | rfl := hy
    · exact h.executed y hy
    · exact ⟨p, hp, hname, hargs⟩

/-- Only the dictionaries change, and the relation still holds of them. -/
theorem Holds.of_map (h : Holds Q s) (hm : MapHolds Q t) (hc : t.calls = s.calls)
    (hp : t.passed = s.passed) (he : t.executed = s.executed) : Holds Q t where
  map := hm
  calls := by rw [hc]; exact h.calls
  passed := by rw [hp]; exact h.passed
  executed := by rw [he]; exact h.executed

/-- A row is committed. -/
theorem Holds.commit (h : Holds Q s) (m : ChatMessage) : Holds Q (s.commit m) :=
  h.of_map h.map rfl rfl rfl

/-- The session's dictionary gets an entry that the relation holds of. -/
theorem Holds.setEntry (h : Holds Q s) {sessionId : SessionId} {k : Text} {p : Pending}
    (hp : Q sessionId k p) :
    Holds Q ((s.setdefault sessionId).2.setEntry (s.setdefault sessionId).1 k p) := by
  obtain ⟨hmap, hd⟩ := h.map.setdefault sessionId
  refine h.of_map (hmap.setEntry hd hp) ?_ ?_ ?_ <;>
    · unfold State.setdefault
      split <;> rfl

/-- The entry that the lookup finds in the map. -/
theorem Holds.memoryEntry (h : Holds Q s) {call : Call} {d : ℕ} {p : Pending}
    (hm : memoryEntry s call = some (d, p)) : Q call.sessionId call.approvalId p := by
  obtain ⟨d', hd', hp⟩ := Option.bind_eq_some_iff.mp hm
  obtain ⟨p', hlookup, heq⟩ := Option.map_eq_some_iff.mp hp
  cases heq
  exact (h.map call.sessionId d hd').2.2 _ _ hlookup

/-- **What one resumed call keeps**, stage by stage: only the answer to the query of the rows brings
a request in. -/
theorem Holds.resume (h : Holds Q s) {i : ℕ} {call : Call} {stage : Stage} {createdAt : ℕ}
    {result : Json} (hi : s.calls i = some (call, stage))
    (hrow : stage = .queryRow → ∀ row pending,
      findRequest s.messages call.sessionId call.approvalId = some row →
      pendingOfRow codec row call.approvalId call.userId = some pending →
      Q call.sessionId call.approvalId pending) :
    Holds Q (resolvePendingApproval codec s i call createdAt result stage) := by
  have hcall := fun p => h.calls i call stage p hi
  cases stage with
  | lookup =>
    simp only [resolvePendingApproval]
    cases hm : DBClaw.Approvals.memoryEntry s call with
    | none => exact h.suspend (by intro p hp; cases hp)
    | some entry =>
      obtain ⟨d, pending⟩ := entry
      have hp := h.memoryEntry hm
      dsimp only
      split
      · exact h.finish i
      · exact (h.logPass hp).suspend (by rintro p ⟨⟩; exact hp)
  | queryRow =>
    simp only [resolvePendingApproval]
    split
    · rename_i pending hfound
      obtain ⟨row, hrow', hp⟩ := Option.bind_eq_some_iff.mp hfound
      exact h.suspend (by rintro p ⟨⟩; exact hrow rfl row pending hrow' hp)
    · exact h.finish i
  | querySession pending =>
    have hp := hcall pending rfl
    simp only [resolvePendingApproval]
    split
    · exact (h.setEntry hp).finish i
    · exact ((h.setEntry hp).logPass hp).suspend (by rintro p ⟨⟩; exact hp)
  | commitResponse d pending =>
    exact (h.commit _).suspend (by rintro p ⟨⟩; exact hcall pending rfl)
  | emitResolved d pending =>
    have hpop := h.of_map (h.map.popEntry d call.sessionId call.approvalId) rfl rfl rfl
    simp only [resolvePendingApproval]
    split
    · exact hpop.finish i
    · exact hpop.suspend (by rintro p ⟨⟩; exact hcall pending rfl)
  | commitToolCall pending =>
    exact (h.commit _).suspend (by rintro p ⟨⟩; exact hcall pending rfl)
  | emitToolCall pending =>
    have hp := hcall pending rfl
    simp only [resolvePendingApproval]
    split
    · rename_i args hargs
      exact (h.logExecution hp rfl hargs).suspend (by rintro p ⟨⟩; exact hp)
    · exact h.finish i
  | executeSkill pending => exact h.suspend (by rintro p ⟨⟩; exact hcall pending rfl)
  | commitToolResult pending res => exact (h.commit _).finish i

/-- **The record only grows**: a step keeps every row up to its deletion mark, and every request. -/
structure Grows (s t : State) : Prop where
  messages : ∀ m ∈ s.messages, ∃ m' ∈ t.messages,
    m'.sessionId = m.sessionId ∧ m'.role = m.role ∧ m'.content = m.content
  requested : ∀ r ∈ s.requested, r ∈ t.requested

/-- The same rows and requests. -/
theorem Grows.of_eq (hm : t.messages = s.messages) (hr : t.requested = s.requested) :
    Grows s t where
  messages m h := ⟨m, by rw [hm]; exact h, rfl, rfl, rfl⟩
  requested r h := by rw [hr]; exact h

/-- A row is added. -/
theorem Grows.of_append {ms : List ChatMessage} (hm : t.messages = s.messages ++ ms)
    (hr : t.requested = s.requested) : Grows s t where
  messages m h := ⟨m, by rw [hm]; exact List.mem_append_left _ h, rfl, rfl, rfl⟩
  requested r h := by rw [hr]; exact h

/-- What is on record stays on record. -/
theorem OnRecord.grows (hg : Grows s t) {sessionId : SessionId} {approvalId : Text}
    {toolName toolArgs : Json} (h : OnRecord codec s sessionId approvalId toolName toolArgs) :
    OnRecord codec t sessionId approvalId toolName toolArgs := by
  cases h with
  | row m data hm hsession hrole hload hid hname hargs =>
    obtain ⟨m', hm', hsession', hrole', hcontent'⟩ := hg.messages m hm
    exact .row m' data hm' (hsession'.trans hsession) (hrole'.trans hrole)
      (by rw [hcontent']; exact hload) hid hname hargs
  | request r hr hsession hid hname hargs =>
    exact .request r (hg.requested r hr) hsession hid hname hargs

/-- A resumed call adds a row or none. -/
theorem resolvePendingApproval_grows (codec : JsonCodec) (s : State) (i : ℕ) (call : Call)
    (createdAt : ℕ) (result : Json) (stage : Stage) :
    Grows s (resolvePendingApproval codec s i call createdAt result stage) := by
  have hsetdefault : (s.setdefault call.sessionId).2.messages = s.messages ∧
      (s.setdefault call.sessionId).2.requested = s.requested := by
    unfold State.setdefault
    split <;> exact ⟨rfl, rfl⟩
  cases stage with
  | lookup =>
    simp only [resolvePendingApproval]
    split
    · split <;> exact .of_eq rfl rfl
    · exact .of_eq rfl rfl
  | queryRow =>
    simp only [resolvePendingApproval]
    split <;> exact .of_eq rfl rfl
  | querySession pending =>
    simp only [resolvePendingApproval]
    split <;> exact .of_eq hsetdefault.1 hsetdefault.2
  | commitResponse d pending => exact .of_append rfl rfl
  | emitResolved d pending =>
    simp only [resolvePendingApproval]
    split <;> exact .of_eq rfl rfl
  | commitToolCall pending => exact .of_append rfl rfl
  | emitToolCall pending =>
    simp only [resolvePendingApproval]
    split <;> exact .of_eq rfl rfl
  | executeSkill pending => exact .of_eq rfl rfl
  | commitToolResult pending res => exact .of_append rfl rfl

/-- The record grows along every step. -/
theorem step_grows (h : step codec s label = some t) : Grows s t := by
  cases label with
  | store sessionId event userId historyWindowHours locale =>
    cases h
    simp only [storeApprovalRequest]
    unfold State.setdefault
    split <;> exact ⟨fun m hm => ⟨m, hm, rfl, rfl, rfl⟩, fun r hr => List.mem_append_left _ hr⟩
  | commitStore k createdAt =>
    obtain ⟨m, -, rfl⟩ := Option.map_eq_some_iff.mp h
    exact .of_append rfl rfl
  | abortStore k => cases h; exact .of_eq rfl rfl
  | call call => cases h; exact .of_eq rfl rfl
  | resume i createdAt result =>
    obtain ⟨⟨call, stage⟩, -, rfl⟩ := Option.map_eq_some_iff.mp h
    exact resolvePendingApproval_grows ..
  | cancel i => cases h; exact .of_eq rfl rfl
  | clear sessionId =>
    cases h
    refine ⟨fun m hm => ⟨_, List.mem_map_of_mem hm, ?_⟩, fun r hr => hr⟩
    split <;> exact ⟨rfl, rfl, rfl⟩
  | restart => cases h; exact .of_eq rfl rfl

/-- A stored request that records the id has it in its `approval_id`. -/
theorem recordsId_iff {data : Dict} {approvalId : Text} :
    recordsId data approvalId = true ↔ Dict.get data "approval_id" = .str approvalId := by
  unfold recordsId
  split
  · rename_i recorded hrecorded
    rw [hrecorded, beq_iff_eq, Json.str.injEq]
  · rename_i hother
    exact ⟨(by intro h; cases h), fun h => absurd h (hother approvalId)⟩

/-- A row that the query returns is a request of the session. -/
theorem findRequest_eq_some {messages : List ChatMessage} {sessionId : SessionId}
    {approvalId : Text} {row : ChatMessage} (h : findRequest messages sessionId approvalId = some row) :
    row ∈ messages ∧ row.sessionId = sessionId ∧ row.role = .approvalRequest := by
  obtain ⟨hm, hmatch⟩ := List.mem_filter.mp (List.argmax_mem h)
  simp only [matchesRequest, Bool.and_eq_true, beq_iff_eq] at hmatch
  exact ⟨hm, hmatch.1.1.2, hmatch.1.2⟩

/-- What an exact lookup in the history finds is on record under the id. -/
theorem known_of_exactRow {call : Call} (h : exactRow codec s call = true) {row : ChatMessage}
    {pending : Pending} (hrow : findRequest s.messages call.sessionId call.approvalId = some row)
    (hp : pendingOfRow codec row call.approvalId call.userId = some pending) :
    Known codec s call.sessionId call.approvalId pending := by
  obtain ⟨hm, hsession, hrole⟩ := findRequest_eq_some hrow
  obtain ⟨data, hdata, hstatus, rfl⟩ := pendingOfRow_eq_some.mp hp
  have hid : recordsId data call.approvalId = true := by
    simpa [exactRow, hrow, hdata, hstatus] using h
  exact .row row data hm hsession hrole hdata (recordsId_iff.mp hid) rfl rfl

/-- **An exact step keeps provenance.** -/
theorem Holds.of_step (h : Holds (Known codec s) s) (hx : Exact codec s label)
    (hs : step codec s label = some t) : Holds (Known codec t) t := by
  have hgrow := step_grows hs
  have hknown : Holds (Known codec t) s := h.mono fun _ _ _ => OnRecord.grows hgrow
  cases label with
  | store sessionId event userId historyWindowHours locale =>
    cases hs
    have hrequest : Known codec
        (storeApprovalRequest codec s sessionId event userId historyWindowHours locale) sessionId
        event.approvalId (pendingOfEvent event userId) :=
      .request ⟨sessionId, event⟩ (List.mem_append_right _ (List.mem_singleton_self _)) rfl rfl rfl
        rfl
    have hset := hknown.setEntry hrequest
    exact hset.of_map hset.map rfl rfl rfl
  | commitStore k createdAt =>
    obtain ⟨m, -, rfl⟩ := Option.map_eq_some_iff.mp hs
    exact hknown.of_map hknown.map rfl rfl rfl
  | abortStore k => cases hs; exact hknown.of_map hknown.map rfl rfl rfl
  | call call =>
    cases hs
    have hcount : Holds _ { s with nextCall := s.nextCall + 1 } :=
      hknown.of_map hknown.map rfl rfl rfl
    exact hcount.suspend (by intro p hp; cases hp)
  | resume i createdAt result =>
    obtain ⟨⟨call, stage⟩, hi, rfl⟩ := Option.map_eq_some_iff.mp hs
    refine hknown.resume hi fun hstage row pending hrow hp => ?_
    subst hstage
    have hexact : exactRow codec s call = true := by simpa [Exact, exact, hi] using hx
    exact (known_of_exactRow hexact hrow hp).grows hgrow
  | cancel i => cases hs; exact hknown.finish i
  | clear sessionId =>
    cases hs
    refine hknown.of_map (fun sid d hd => ?_) rfl rfl rfl
    by_cases hsid : sid = sessionId
    · simp [hsid] at hd
    · simp only [Function.update_of_ne hsid] at hd
      exact hknown.map sid d hd
  | restart =>
    cases hs
    exact ⟨(by intro sid d hd; cases hd), (by intro i c st p hi; cases hi), hknown.passed,
      hknown.executed⟩

/-- Provenance holds all along a run of exact steps. -/
theorem Holds.run {labels : List Label} (h : Holds (Known codec s) s)
    (hr : Run (step codec) (Exact codec) s labels t) : Holds (Known codec t) t :=
  Run.invariant (I := fun s => Holds (Known codec s) s) hr
    (fun _ _ _ hs hx hstep => hs.of_step hx hstep) h

/-! ## The result -/

/-- **In every run of exact steps an id resolves the request recorded under it.** -/
theorem identified_of_exact {labels : List Label} (hs : Boot s)
    (hr : Run (step codec) (Exact codec) s labels t) : Identified codec t :=
  (hs.holds.run hr).identified

/-- An inexact lookup meets a pending row that records another id. -/
theorem exactRow_eq_false {call : Call} (h : exactRow codec s call = false) :
    ∃ row data, findRequest s.messages call.sessionId call.approvalId = some row ∧
      codec.loads row.content = some (.obj data) ∧
      statusIsPending (Dict.get data "status") = true ∧
      Dict.get data "approval_id" ≠ .str call.approvalId := by
  unfold exactRow at h
  split at h
  · rename_i row hrow
    split at h
    · rename_i data hdata
      rw [Bool.or_eq_false_iff, Bool.not_eq_false'] at h
      obtain ⟨hstatus, hid⟩ := h
      refine ⟨row, data, hrow, hdata, hstatus, fun hrecorded => ?_⟩
      rw [recordsId_iff.mpr hrecorded] at hid
      cases hid
    · cases h
  · cases h

/-- A row that was read for the user of the call gets the call past the lookup. -/
theorem resolvePendingApproval_querySession (codec : JsonCodec) (s : State) (i : ℕ) (call : Call)
    (createdAt : ℕ) (result : Json) (pending : Pending) (h : pending.userId = call.userId) :
    ⟨i, call, pending⟩ ∈
      (resolvePendingApproval codec s i call createdAt result (.querySession pending)).passed := by
  simp only [resolvePendingApproval, ne_eq, h, not_true_eq_false, if_false]
  exact List.mem_append_right _ (List.mem_singleton_self _)

/-- **An inexact lookup resolves a foreign request**: left to itself, the call gets past the lookup
with the tool and the arguments of a row that records another id. -/
theorem inexact_passes {i : ℕ} {call : Call} (hi : s.calls i = some (call, .queryRow))
    (hx : exactRow codec s call = false) :
    ∃ row data t, findRequest s.messages call.sessionId call.approvalId = some row ∧
      codec.loads row.content = some (.obj data) ∧
      Dict.get data "approval_id" ≠ .str call.approvalId ∧
      Run (step codec) Always s [.resume i 0 .null, .resume i 0 .null] t ∧
      ⟨i, call, pendingOfData data call.approvalId call.userId⟩ ∈ t.passed := by
  obtain ⟨row, data, hrow, hdata, hstatus, hid⟩ := exactRow_eq_false hx
  have hp : pendingOfRow codec row call.approvalId call.userId
      = some (pendingOfData data call.approvalId call.userId) :=
    pendingOfRow_eq_some.mpr ⟨data, hdata, hstatus, rfl⟩
  have hfind : step codec s (.resume i 0 .null) = some
      (s.suspend i call (.querySession (pendingOfData data call.approvalId call.userId))) := by
    simp [step, hi, resolvePendingApproval, hrow, hp]
  have htake : step codec
      (s.suspend i call (.querySession (pendingOfData data call.approvalId call.userId)))
      (.resume i 0 .null) = some (resolvePendingApproval codec
        (s.suspend i call (.querySession (pendingOfData data call.approvalId call.userId))) i call 0
        .null (.querySession (pendingOfData data call.approvalId call.userId))) := by
    simp [step, State.suspend]
  exact ⟨row, data, _, hrow, hdata, hid, .cons trivial hfind (.cons trivial htake (.nil _)),
    resolvePendingApproval_querySession codec _ i call 0 .null _ rfl⟩

/-- **An id resolves the request recorded under it in every run of exact steps, and each inexact
lookup breaks this.** -/
theorem approval_identity (codec : JsonCodec) :
    (∀ s t labels, Boot s → Run (step codec) (Exact codec) s labels t → Identified codec t) ∧
    ∀ s i call, s.calls i = some (call, .queryRow) → exactRow codec s call = false →
      ∃ row data t, findRequest s.messages call.sessionId call.approvalId = some row ∧
        codec.loads row.content = some (.obj data) ∧
        Dict.get data "approval_id" ≠ .str call.approvalId ∧
        Run (step codec) Always s [.resume i 0 .null, .resume i 0 .null] t ∧
        ⟨i, call, pendingOfData data call.approvalId call.userId⟩ ∈ t.passed :=
  ⟨fun _ _ _ hs hr => identified_of_exact hs hr, fun _ _ _ hi hx => inexact_passes hi hx⟩

/-! ## Runs -/

/-- Some row or some request records the id. -/
def anyRecords (codec : JsonCodec) (s : State) (approvalId : Text) : Bool :=
  (s.messages.any fun m =>
    match codec.loads m.content with
    | some (.obj data) => recordsId data approvalId
    | _ => false) ||
  s.requested.any fun r => r.event.approvalId == approvalId

/-- What is on record under an id is recorded somewhere. -/
theorem OnRecord.anyRecords {sessionId : SessionId} {approvalId : Text} {toolName toolArgs : Json}
    (h : OnRecord codec s sessionId approvalId toolName toolArgs) :
    anyRecords codec s approvalId = true := by
  rw [DBClaw.Approvals.anyRecords, Bool.or_eq_true, List.any_eq_true, List.any_eq_true]
  cases h with
  | row m data hm _ _ hload hid _ _ =>
    refine .inl ⟨m, hm, ?_⟩
    rw [hload]
    exact recordsId_iff.mpr hid
  | request r hr _ hid _ _ => exact .inr ⟨r, hr, beq_iff_eq.mpr hid⟩

/-- The process is restarted, and a user resolves what `approvalId` names. -/
def restartThenApprove (approvalId : Text) : List Label :=
  storeDropTable ++ .restart ::
    .call { resolveDropTable .approved with approvalId := approvalId } ::
    List.replicate 7 (.resume 0 3 .null)

/-- **The chat message `approve %` executes a stored request**, although no request records the
id `%`. -/
theorem approvePercent_executes :
    approvalCommand "approve %".toList = some (.approved, "%".toList) ∧ Boot {} ∧
    ∃ t, Run (step dropTableCodec) Always {} (restartThenApprove "%".toList) t ∧
      t.executed.length = 1 ∧ ¬ Identified dropTableCodec t := by
  -- the run has one execution, under an id that nothing records
  have hend : (exec (step dropTableCodec) Always {} (restartThenApprove "%".toList)).any (fun t =>
      t.executed.length = 1 &&
        t.executed.any fun x => ! anyRecords dropTableCodec t x.call.approvalId) = true := by
    decide +kernel
  obtain ⟨t, hrun, hforeign⟩ := Run.exists_of_any hend
  obtain ⟨hlength, hforeign⟩ := Bool.and_eq_true_iff.mp hforeign
  refine ⟨by decide, ⟨fun _ => rfl, fun _ => rfl, rfl, rfl⟩, t, hrun, of_decide_eq_true hlength, fun h => ?_⟩
  obtain ⟨x, hx, hnone⟩ := List.any_eq_true.mp hforeign
  rw [(h.executed x hx).anyRecords] at hnone
  cases hnone

/-- `approval_identity` on the run that names the id in full. -/
theorem approveDropTable_identified :
    ∃ t, Run (step dropTableCodec) (Exact dropTableCodec) {} (restartThenApprove dropTableId) t ∧
      t.executed.length = 1 ∧ Identified dropTableCodec t := by
  have hend : (exec (step dropTableCodec) (Exact dropTableCodec) {} (restartThenApprove dropTableId)).any
      (fun t => t.executed.length = 1) = true := by decide +kernel
  obtain ⟨t, hrun, hlength⟩ := Run.exists_of_any hend
  exact ⟨t, hrun, of_decide_eq_true hlength, (approval_identity dropTableCodec).1 _ _ _
    ⟨fun _ => rfl, fun _ => rfl, rfl, rfl⟩ hrun⟩

end DBClaw.Approvals
