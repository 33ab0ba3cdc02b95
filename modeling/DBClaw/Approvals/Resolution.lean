import DBClaw.Approvals.Orchestration

/-! # An approval is resolved at most once
`ResolvedOnce` is the purpose of the lookup: for one approval of one session at most one call gets
past it, so that a rejected tool is not executed and an approved one is executed once. The stored
`approval_request` row keeps its status after a resolution and the dictionary entry is dropped only
some awaits later, so the bare system does not have the property; it has it in every run in which
the lookups of one approval do not overlap and find nothing once it is resolved (`Orderly`).
The proof classifies what one step does to the running calls and the logs (`Effect`) and carries the
invariant `Consistent` along it. -/

namespace DBClaw.Approvals

open Runs

/-! ## The property -/

/-- The session and the approval id that a call is about. -/
def Call.key (c : Call) : SessionId × Text := (c.sessionId, c.approvalId)

/-- **At most one resolution for each approval.** No two calls with one session and approval id get
past the lookup, no two of them execute a tool, and none does once one of them rejected it. -/
structure ResolvedOnce (s : State) : Prop where
  passed : s.passed.Pairwise fun p q => p.call.key ≠ q.call.key
  executed : s.executed.Pairwise fun x y => x.call.key ≠ y.call.key
  rejected : ∀ p ∈ s.passed, p.call.action = .rejected → ∀ x ∈ s.executed, x.call.key ≠ p.call.key

/-- A start of the observation: any history and any dictionaries, with no call running and nothing
resolved yet. -/
structure Start (s : State) : Prop where
  calls : ∀ i, s.calls i = none
  passed : s.passed = []
  executed : s.executed = []

/-! ## The condition -/

/-- The part of a call a stage belongs to. -/
inductive Phase
  /-- Before the row is found. -/
  | searching
  /-- The row is found and not yet taken. -/
  | found
  /-- Past the lookup. -/
  | passed
  /-- Approved, before the tool starts. -/
  | approved
  /-- The tool was started. -/
  | executed
  deriving DecidableEq

/-- The part of a call a stage belongs to. -/
def Stage.phase : Stage → Phase
  | .lookup | .queryRow => .searching
  | .querySession _ => .found
  | .commitResponse _ _ | .emitResolved _ _ => .passed
  | .commitToolCall _ | .emitToolCall _ => .approved
  | .executeSkill _ | .commitToolResult _ _ => .executed

/-- Before or past the lookup. -/
def Phase.inLookup : Phase → Bool
  | .searching | .found => true
  | .passed | .approved | .executed => false

namespace State

/-- A call for the approval is past the lookup, or was. -/
def resolved (s : State) (key : SessionId × Text) : Bool := s.passed.any (·.call.key == key)

/-- A running call for the approval is still in its lookup. -/
def lookingUp (s : State) (key : SessionId × Text) : Bool :=
  (List.range s.nextCall).any fun j =>
    match s.calls j with
    | some (c, stage) => stage.phase.inLookup && c.key == key
    | none => false

end State

/-- The session's dictionary holds an entry for the id that was stored for the user of the call. -/
def entryForUser (s : State) (call : Call) : Bool :=
  match memoryEntry s call with
  | some (_, pending) => pending.userId == call.userId
  | none => false

/-- The newest live row that the `LIKE` matches is a request whose stored status is still pending. -/
def rowPending (codec : JsonCodec) (s : State) (call : Call) : Bool :=
  match findRequest s.messages call.sessionId call.approvalId with
  | some row =>
    match codec.loads row.content with
    | some (.obj data) => statusIsPending (Dict.get data "status")
    | _ => false
  | none => false

/-- **When a step is orderly.** A call for an approval comes when no other call is looking it up,
and a lookup that runs after the approval was resolved meets neither an entry nor a live row that
still says it is pending. -/
def orderly (codec : JsonCodec) (s : State) : Label → Bool
  | .call call => ! s.lookingUp call.key
  | .resume i _ _ =>
    match s.calls i with
    | some (call, .lookup) => ! (s.resolved call.key && entryForUser s call)
    | some (call, .queryRow) => ! (s.resolved call.key && rowPending codec s call)
    | _ => true
  | _ => true

/-- `orderly` as a condition on runs. -/
def Orderly (codec : JsonCodec) (s : State) (label : Label) : Prop := orderly codec s label = true

instance (codec : JsonCodec) (s : State) (label : Label) : Decidable (Orderly codec s label) :=
  inferInstanceAs (Decidable (_ = _))

/-! ## What one step does -/

variable {codec : JsonCodec} {s t : State} {label : Label}

/-- The logs and the call counter stay. -/
structure SameLogs (s t : State) : Prop where
  nextCall : t.nextCall = s.nextCall
  passed : t.passed = s.passed
  executed : t.executed = s.executed

/-- How a call moves without passing the lookup or starting its tool. -/
inductive Moves (call : Call) : Phase → Phase → Prop
  | stay (p : Phase) : Moves call p p
  | find : Moves call .searching .found
  | approve : call.action = .approved → Moves call .passed .approved

/-- **What an orderly step does to the running calls and the logs.** -/
inductive Effect (s t : State) : Prop
  /-- Calls go on standing where they stand, or end. -/
  | drop : (∀ j, t.calls j = none ∨ t.calls j = s.calls j) → SameLogs s t → Effect s t
  /-- A call arrives while no other one looks the same approval up. -/
  | arrive (call : Call) : s.lookingUp call.key = false →
      t.calls = Function.update s.calls s.nextCall (some (call, .lookup)) →
      t.nextCall = s.nextCall + 1 → t.passed = s.passed → t.executed = s.executed → Effect s t
  /-- A call moves on; it finds a row only when the approval is unresolved. -/
  | move (i : ℕ) (call : Call) (stage stage' : Stage) : s.calls i = some (call, stage) →
      Moves call stage.phase stage'.phase →
      (stage.phase = .searching → stage'.phase = .found → s.resolved call.key = false) →
      t.calls = Function.update s.calls i (some (call, stage')) → SameLogs s t → Effect s t
  /-- A call gets past the lookup. -/
  | pass (i : ℕ) (call : Call) (pending : Pending) (stage stage' : Stage) :
      s.calls i = some (call, stage) → stage.phase.inLookup = true →
      (stage.phase = .searching → s.resolved call.key = false) → stage'.phase = .passed →
      t.calls = Function.update s.calls i (some (call, stage')) → t.nextCall = s.nextCall →
      t.passed = s.passed ++ [⟨i, call, pending⟩] → t.executed = s.executed → Effect s t
  /-- A call starts its tool. -/
  | execute (x : Execution) (stage stage' : Stage) : s.calls x.index = some (x.call, stage) →
      stage.phase = .approved → stage'.phase = .executed →
      t.calls = Function.update s.calls x.index (some (x.call, stage')) →
      t.nextCall = s.nextCall → t.passed = s.passed → t.executed = s.executed ++ [x] → Effect s t

/-- Ending one call is a drop. -/
theorem Effect.finish {i : ℕ} (hc : t.calls = Function.update s.calls i none) (hl : SameLogs s t) :
    Effect s t := by
  refine .drop (fun j => ?_) hl
  rw [hc]
  by_cases hj : j = i
  · exact .inl (by rw [hj, Function.update_self])
  · exact .inr (Function.update_of_ne hj ..)

/-- The dictionary operations leave the calls and the logs as they are. -/
theorem setdefault_frame (s : State) (sessionId : SessionId) :
    (s.setdefault sessionId).2.calls = s.calls ∧ SameLogs s (s.setdefault sessionId).2 := by
  unfold State.setdefault
  split <;> exact ⟨rfl, rfl, rfl, rfl⟩

/-- A row that `pendingOfRow` accepts is one that `rowPending` sees. -/
theorem rowPending_of_some {call : Call} {pending : Pending}
    (h : ((findRequest s.messages call.sessionId call.approvalId).bind fun row =>
      pendingOfRow codec row call.approvalId call.userId) = some pending) :
    rowPending codec s call = true := by
  obtain ⟨row, hrow, hp⟩ := Option.bind_eq_some_iff.mp h
  obtain ⟨data, hdata, hstatus, -⟩ := pendingOfRow_eq_some.mp hp
  simpa only [rowPending, hrow, hdata] using hstatus

/-- **What one resumed call does**, stage by stage. -/
theorem resolvePendingApproval_effect {i : ℕ} {call : Call} {stage : Stage} {createdAt : ℕ}
    {result : Json} (hi : s.calls i = some (call, stage))
    (ho : Orderly codec s (.resume i createdAt result)) :
    Effect s (resolvePendingApproval codec s i call createdAt result stage) := by
  cases stage with
  | lookup =>
    simp only [Orderly, orderly, hi] at ho
    simp only [resolvePendingApproval]
    cases hm : memoryEntry s call with
    | none =>
      exact .move i call .lookup .queryRow hi (.stay _) (fun _ h => by cases h) rfl ⟨rfl, rfl, rfl⟩
    | some entry =>
      obtain ⟨d, pending⟩ := entry
      by_cases hu : pending.userId = call.userId
      · have hfree : s.resolved call.key = false := by
          simpa [entryForUser, hm, hu] using ho
        simp only [hu, ne_eq, not_true_eq_false, if_false]
        exact .pass i call pending .lookup (.commitResponse d pending) hi rfl (fun _ => hfree) rfl
          rfl rfl rfl rfl
      · simp only [ne_eq, hu, not_false_eq_true, if_true]
        exact .finish rfl ⟨rfl, rfl, rfl⟩
  | queryRow =>
    simp only [Orderly, orderly, hi] at ho
    simp only [resolvePendingApproval]
    split
    · rename_i pending hrow
      have hfree : s.resolved call.key = false := by
        simpa [rowPending_of_some hrow] using ho
      exact .move i call .queryRow (.querySession pending) hi .find (fun _ _ => hfree) rfl
        ⟨rfl, rfl, rfl⟩
    · exact .finish rfl ⟨rfl, rfl, rfl⟩
  | querySession pending =>
    simp only [resolvePendingApproval]
    obtain ⟨hc, hn, hp, he⟩ := setdefault_frame s call.sessionId
    split
    · exact .finish (by rw [← hc]; rfl) ⟨hn, hp, he⟩
    · refine .pass i call pending (.querySession pending)
        (.commitResponse (s.setdefault call.sessionId).1 pending) hi rfl (fun h => by cases h) rfl
        ?_ hn ?_ he
      · rw [← hc]; rfl
      · rw [← hp]; rfl
  | commitResponse d pending =>
    exact .move i call (.commitResponse d pending) (.emitResolved d pending) hi (.stay _)
      (fun h => by cases h) rfl ⟨rfl, rfl, rfl⟩
  | emitResolved d pending =>
    simp only [resolvePendingApproval]
    cases ha : call.action with
    | rejected => exact .finish rfl ⟨rfl, rfl, rfl⟩
    | approved =>
      exact .move i call (.emitResolved d pending) (.commitToolCall pending) hi (.approve ha)
        (fun h => by cases h) rfl ⟨rfl, rfl, rfl⟩
  | commitToolCall pending =>
    exact .move i call (.commitToolCall pending) (.emitToolCall pending) hi (.stay _)
      (fun h => by cases h) rfl ⟨rfl, rfl, rfl⟩
  | emitToolCall pending =>
    simp only [resolvePendingApproval]
    split
    · rename_i args _
      exact .execute ⟨i, call, pending.toolName, args⟩ (.emitToolCall pending)
        (.executeSkill pending) hi rfl rfl rfl rfl rfl rfl
    · exact .finish rfl ⟨rfl, rfl, rfl⟩
  | executeSkill pending =>
    exact .move i call (.executeSkill pending) (.commitToolResult pending result) hi (.stay _)
      (fun h => by cases h) rfl ⟨rfl, rfl, rfl⟩
  | commitToolResult pending res =>
    exact .finish rfl ⟨rfl, rfl, rfl⟩

/-- **What one orderly step does.** -/
theorem step_effect (h : step codec s label = some t) (ho : Orderly codec s label) :
    Effect s t := by
  cases label with
  | store sessionId event userId historyWindowHours locale =>
    cases h
    obtain ⟨hc, hn, hp, he⟩ := setdefault_frame s sessionId
    exact .drop (fun j => .inr (congrFun hc j)) ⟨hn, hp, he⟩
  | commitStore k createdAt =>
    obtain ⟨m, -, rfl⟩ := Option.map_eq_some_iff.mp h
    exact .drop (fun _ => .inr rfl) ⟨rfl, rfl, rfl⟩
  | abortStore k => cases h; exact .drop (fun _ => .inr rfl) ⟨rfl, rfl, rfl⟩
  | call call =>
    cases h
    exact .arrive call (by simpa [Orderly, orderly] using ho) rfl rfl rfl rfl
  | resume i createdAt result =>
    obtain ⟨⟨call, stage⟩, hi, rfl⟩ := Option.map_eq_some_iff.mp h
    exact resolvePendingApproval_effect hi ho
  | cancel i => cases h; exact .finish rfl ⟨rfl, rfl, rfl⟩
  | clear sessionId => cases h; exact .drop (fun _ => .inr rfl) ⟨rfl, rfl, rfl⟩
  | restart => cases h; exact .drop (fun _ => .inl rfl) ⟨rfl, rfl, rfl⟩

/-! ## The invariant -/

/-- What holds of a running call. -/
structure CallConsistent (s : State) (i : ℕ) (call : Call) (phase : Phase) : Prop where
  lt : i < s.nextCall
  found : phase = .found → s.resolved call.key = false
  passed : phase.inLookup = false → ∃ p ∈ s.passed, p.index = i ∧ p.call = call
  approved : phase = .approved ∨ phase = .executed → call.action = .approved
  unexecuted : phase ≠ .executed → ∀ x ∈ s.executed, x.index ≠ i

/-- **The invariant of orderly runs.** -/
structure Consistent (s : State) : Prop where
  calls : ∀ i call stage, s.calls i = some (call, stage) → CallConsistent s i call stage.phase
  single : ∀ i j call call' stage stage', s.calls i = some (call, stage) →
    s.calls j = some (call', stage') → stage.phase.inLookup → stage'.phase.inLookup →
    call.key = call'.key → i = j
  passedLt : ∀ p ∈ s.passed, p.index < s.nextCall
  passedKeys : s.passed.Pairwise fun p q => p.call.key ≠ q.call.key
  executed : ∀ x ∈ s.executed,
    x.call.action = .approved ∧ ∃ p ∈ s.passed, p.index = x.index ∧ p.call = x.call
  executedOnce : s.executed.Pairwise fun x y => x.index ≠ y.index

/-- `resolved` is about membership in the log. -/
theorem resolved_eq_false {key : SessionId × Text} :
    s.resolved key = false ↔ ∀ p ∈ s.passed, p.call.key ≠ key := by
  simp [State.resolved]

/-- `lookingUp` sees every running lookup of a consistent state. -/
theorem lookingUp_eq_false {key : SessionId × Text} (h : Consistent s)
    (hfree : s.lookingUp key = false) {i : ℕ} {call : Call} {stage : Stage}
    (hi : s.calls i = some (call, stage)) (hin : stage.phase.inLookup = true) :
    call.key ≠ key := by
  have hlt := (h.calls i call stage hi).lt
  have hnot := List.any_eq_false.mp hfree i (List.mem_range.mpr hlt)
  simpa [hi, hin] using hnot

/-- One passed call belongs to one key. -/
theorem Consistent.pass_unique (h : Consistent s) {p q : Pass} (hp : p ∈ s.passed)
    (hq : q ∈ s.passed) (hkey : p.call.key = q.call.key) : p = q := by
  by_contra hne
  have : Std.Symm fun p q : Pass => p.call.key ≠ q.call.key := ⟨fun _ _ hxy => hxy.symm⟩
  exact h.passedKeys.forall hp hq hne hkey

/-- **The invariant gives the property.** -/
theorem Consistent.resolvedOnce (h : Consistent s) : ResolvedOnce s where
  passed := h.passedKeys
  executed := by
    refine h.executedOnce.imp_of_mem fun {x y} hx hy hne hkey => hne ?_
    obtain ⟨-, p, hp, hpi, hpc⟩ := h.executed x hx
    obtain ⟨-, q, hq, hqi, hqc⟩ := h.executed y hy
    have hpq : p = q := h.pass_unique hp hq (by rw [hpc, hqc, hkey])
    rw [← hpi, ← hqi, hpq]
  rejected := by
    intro p hp hrejected x hx hkey
    obtain ⟨happroved, q, hq, -, hqc⟩ := h.executed x hx
    have hpq : p = q := h.pass_unique hp hq (by rw [hqc, hkey])
    rw [hpq, hqc, happroved] at hrejected
    cases hrejected

/-- A start is consistent. -/
theorem Start.consistent (h : Start s) : Consistent s where
  calls i call stage hi := by rw [h.calls i] at hi; cases hi
  single i j call call' stage stage' hi := by rw [h.calls i] at hi; cases hi
  passedLt p hp := by rw [h.passed] at hp; cases hp
  passedKeys := by rw [h.passed]; exact .nil
  executed x hx := by rw [h.executed] at hx; cases hx
  executedOnce := by rw [h.executed]; exact .nil

/-! ## Each effect keeps the invariant -/

/-- A call in a state with the same logs. -/
theorem CallConsistent.frame {i : ℕ} {call : Call} {phase : Phase}
    (h : CallConsistent s i call phase) (hl : SameLogs s t) : CallConsistent t i call phase where
  lt := by rw [hl.nextCall]; exact h.lt
  found hf := by rw [State.resolved, hl.passed]; exact h.found hf
  passed hp := by rw [hl.passed]; exact h.passed hp
  approved := h.approved
  unexecuted hne := by rw [hl.executed]; exact h.unexecuted hne

/-- The logs of a consistent state, with other calls. -/
theorem Consistent.of_sameLogs (h : Consistent s) (hl : SameLogs s t)
    (calls : ∀ i call stage, t.calls i = some (call, stage) → CallConsistent t i call stage.phase)
    (single : ∀ i j call call' stage stage', t.calls i = some (call, stage) →
      t.calls j = some (call', stage') → stage.phase.inLookup → stage'.phase.inLookup →
      call.key = call'.key → i = j) : Consistent t where
  calls := calls
  single := single
  passedLt := by rw [hl.passed, hl.nextCall]; exact h.passedLt
  passedKeys := by rw [hl.passed]; exact h.passedKeys
  executed := by rw [hl.executed, hl.passed]; exact h.executed
  executedOnce := by rw [hl.executed]; exact h.executedOnce

/-- Replacing a call by one that is in its lookup only if the old one was keeps lookups apart. -/
theorem Consistent.single_update (h : Consistent s) {i : ℕ} {call : Call} {stage stage' : Stage}
    (hi : s.calls i = some (call, stage))
    (hin : stage'.phase.inLookup = true → stage.phase.inLookup = true)
    (hc : t.calls = Function.update s.calls i (some (call, stage'))) :
    ∀ j k c c' st st', t.calls j = some (c, st) → t.calls k = some (c', st') →
      st.phase.inLookup → st'.phase.inLookup → c.key = c'.key → j = k := by
  intro j k c c' st st' hj hk hst hst' hkey
  rw [hc] at hj hk
  obtain ⟨rfl, heq⟩ | ⟨-, hj'⟩ := update_eq_some hj <;>
    obtain ⟨rfl, heq⟩ | ⟨-, hk'⟩ := update_eq_some hk
  · rfl
  · cases heq
    exact h.single j k call c' stage st' hi hk' (hin hst) hst' hkey
  · cases heq
    exact h.single j k c call st stage hj' hi hst (hin hst') hkey
  · exact h.single j k c c' st st' hj' hk' hst hst' hkey

/-- Dropping calls keeps the invariant. -/
theorem Consistent.drop (h : Consistent s) (hc : ∀ j, t.calls j = none ∨ t.calls j = s.calls j)
    (hl : SameLogs s t) : Consistent t := by
  have hold : ∀ {j c}, t.calls j = some c → s.calls j = some c := by
    intro j c hj
    obtain hnone | hsame := hc j
    · rw [hnone] at hj; cases hj
    · rw [← hsame, hj]
  exact h.of_sameLogs hl (fun i call stage hi => (h.calls i call stage (hold hi)).frame hl)
    (fun i j call call' stage stage' hi hj => h.single i j call call' stage stage' (hold hi) (hold hj))

/-- A call that arrives while no other looks its approval up keeps the invariant. -/
theorem Consistent.arrive (h : Consistent s) {call : Call} (hfree : s.lookingUp call.key = false)
    (hc : t.calls = Function.update s.calls s.nextCall (some (call, .lookup)))
    (hn : t.nextCall = s.nextCall + 1) (hp : t.passed = s.passed) (he : t.executed = s.executed) :
    Consistent t where
  calls i c st hi := by
    rw [hc] at hi
    obtain ⟨rfl, heq⟩ | ⟨-, hi⟩ := update_eq_some hi
    · cases heq
      refine ⟨by omega, (by intro hf; cases hf), (by intro hf; cases hf),
        (by rintro (hf | hf) <;> cases hf), fun _ x hx hxi => ?_⟩
      rw [he] at hx
      obtain ⟨-, p, hp', hpi, -⟩ := h.executed x hx
      have := h.passedLt p hp'
      omega
    · obtain ⟨hlt, hfound, hpassed, happroved, hunexecuted⟩ := h.calls i c st hi
      refine ⟨by omega, ?_, ?_, happroved, ?_⟩
      · rwa [State.resolved, hp]
      · rwa [hp]
      · rwa [he]
  single i j c c' st st' hi hj hst hst' hkey := by
    rw [hc] at hi hj
    obtain ⟨rfl, heq⟩ | ⟨-, hi⟩ := update_eq_some hi <;> obtain ⟨rfl, heq⟩ | ⟨-, hj⟩ := update_eq_some hj
    · rfl
    · cases heq
      exact absurd hkey.symm (lookingUp_eq_false h hfree hj hst')
    · cases heq
      exact absurd hkey (lookingUp_eq_false h hfree hi hst)
    · exact h.single i j c c' st st' hi hj hst hst' hkey
  passedLt p hpp := by
    rw [hp] at hpp
    have := h.passedLt p hpp
    omega
  passedKeys := by rw [hp]; exact h.passedKeys
  executed := by rw [he, hp]; exact h.executed
  executedOnce := by rw [he]; exact h.executedOnce

/-- A call that moves on keeps the invariant. -/
theorem Consistent.move (h : Consistent s) {i : ℕ} {call : Call} {stage stage' : Stage}
    (hi : s.calls i = some (call, stage)) (hm : Moves call stage.phase stage'.phase)
    (hfree : stage.phase = .searching → stage'.phase = .found → s.resolved call.key = false)
    (hc : t.calls = Function.update s.calls i (some (call, stage'))) (hl : SameLogs s t) :
    Consistent t := by
  refine h.of_sameLogs hl (fun j c st hj => ?_) (h.single_update hi ?_ hc)
  · rw [hc] at hj
    obtain ⟨rfl, heq⟩ | ⟨-, hj⟩ := update_eq_some hj
    · cases heq
      have hold := (h.calls j call stage hi).frame hl
      generalize stage.phase = p at hm hold hfree
      generalize stage'.phase = p' at hm hfree ⊢
      cases hm with
      | stay => exact hold
      | find =>
        refine ⟨hold.lt, fun _ => ?_, (by intro hf; cases hf), (by rintro (hf | hf) <;> cases hf),
          fun _ => hold.unexecuted (by decide)⟩
        rw [State.resolved, hl.passed]
        exact hfree rfl rfl
      | approve ha =>
        exact ⟨hold.lt, (by intro hf; cases hf), fun _ => hold.passed rfl, fun _ => ha,
          fun _ => hold.unexecuted (by decide)⟩
    · exact (h.calls j c st hj).frame hl
  · generalize stage.phase = p at hm
    generalize stage'.phase = p' at hm
    intro hin
    cases hm with
    | stay => exact hin
    | find => rfl
    | approve _ => cases hin

/-- **A call that gets past the lookup keeps the invariant**: the approval was unresolved, and no
other call stands in a lookup of it. -/
theorem Consistent.pass (h : Consistent s) {i : ℕ} {call : Call} {pending : Pending}
    {stage stage' : Stage} (hi : s.calls i = some (call, stage))
    (hin : stage.phase.inLookup = true)
    (hfree : stage.phase = .searching → s.resolved call.key = false)
    (hs' : stage'.phase = .passed)
    (hc : t.calls = Function.update s.calls i (some (call, stage'))) (hn : t.nextCall = s.nextCall)
    (hp : t.passed = s.passed ++ [⟨i, call, pending⟩]) (he : t.executed = s.executed) :
    Consistent t := by
  have hunresolved : ∀ p ∈ s.passed, p.call.key ≠ call.key := by
    refine resolved_eq_false.mp ?_
    cases hph : stage.phase with
    | searching => exact hfree hph
    | found => exact (h.calls i call stage hi).found hph
    | passed => rw [hph] at hin; cases hin
    | approved => rw [hph] at hin; cases hin
    | executed => rw [hph] at hin; cases hin
  refine ⟨fun j c st hj => ?_, h.single_update hi (fun _ => hin) hc, ?_, ?_, ?_, ?_⟩
  · rw [hc] at hj
    obtain ⟨rfl, heq⟩ | ⟨hne, hj⟩ := update_eq_some hj
    · cases heq
      have hold := h.calls j call stage hi
      rw [hs']
      refine ⟨by rw [hn]; exact hold.lt, (by intro hf; cases hf),
        fun _ => ⟨⟨j, call, pending⟩, ?_, rfl, rfl⟩, (by rintro (hf | hf) <;> cases hf), fun _ => ?_⟩
      · rw [hp]; exact List.mem_append_right _ (List.mem_singleton_self _)
      · rw [he]
        refine hold.unexecuted fun hf => ?_
        rw [hf] at hin
        cases hin
    · have hold := h.calls j c st hj
      refine ⟨by rw [hn]; exact hold.lt, fun hf => resolved_eq_false.mpr fun p hpp => ?_,
        fun hf => ?_, hold.approved, by rw [he]; exact hold.unexecuted⟩
      · rw [hp, List.mem_append, List.mem_singleton] at hpp
        obtain hpp | rfl := hpp
        · exact resolved_eq_false.mp (hold.found hf) p hpp
        · -- two lookups of one approval would be running
          intro hkey
          exact hne (h.single j i c call st stage hj hi (by rw [hf]; rfl) hin hkey.symm)
      · obtain ⟨p, hpp, hpi, hpc⟩ := hold.passed hf
        exact ⟨p, by rw [hp]; exact List.mem_append_left _ hpp, hpi, hpc⟩
  · intro p hpp
    rw [hp, List.mem_append, List.mem_singleton] at hpp
    rw [hn]
    obtain hpp | rfl := hpp
    · exact h.passedLt p hpp
    · exact (h.calls i call stage hi).lt
  · rw [hp, List.pairwise_append]
    refine ⟨h.passedKeys, List.pairwise_singleton .., fun p hpp q hq => ?_⟩
    rw [List.mem_singleton.mp hq]
    exact hunresolved p hpp
  · intro x hx
    rw [he] at hx
    obtain ⟨ha, p, hpp, hpi, hpc⟩ := h.executed x hx
    exact ⟨ha, p, by rw [hp]; exact List.mem_append_left _ hpp, hpi, hpc⟩
  · rw [he]; exact h.executedOnce

/-- **A call that starts its tool keeps the invariant**: it was approved and had started none. -/
theorem Consistent.execute (h : Consistent s) {x : Execution} {stage stage' : Stage}
    (hi : s.calls x.index = some (x.call, stage)) (hs : stage.phase = .approved)
    (hs' : stage'.phase = .executed)
    (hc : t.calls = Function.update s.calls x.index (some (x.call, stage')))
    (hn : t.nextCall = s.nextCall) (hp : t.passed = s.passed)
    (he : t.executed = s.executed ++ [x]) : Consistent t := by
  have hx := h.calls x.index x.call stage hi
  rw [hs] at hx
  refine ⟨fun j c st hj => ?_, h.single_update hi ?_ hc, by rw [hp, hn]; exact h.passedLt,
    by rw [hp]; exact h.passedKeys, ?_, ?_⟩
  · rw [hc] at hj
    obtain ⟨rfl, heq⟩ | ⟨hne, hj⟩ := update_eq_some hj
    · cases heq
      rw [hs']
      exact ⟨by rw [hn]; exact hx.lt, (by intro hf; cases hf), fun _ => by rw [hp]; exact hx.passed rfl,
        fun _ => hx.approved (.inl rfl), fun hf => absurd rfl hf⟩
    · have hold := h.calls j c st hj
      refine ⟨by rw [hn]; exact hold.lt, ?_, by rw [hp]; exact hold.passed, hold.approved,
        fun hf y hy => ?_⟩
      · rw [State.resolved, hp]; exact hold.found
      · rw [he, List.mem_append, List.mem_singleton] at hy
        obtain hy | rfl := hy
        · exact hold.unexecuted hf y hy
        · exact hne.symm
  · rw [hs']; intro hf; cases hf
  · intro y hy
    rw [he, List.mem_append, List.mem_singleton] at hy
    rw [hp]
    obtain hy | rfl := hy
    · exact h.executed y hy
    · exact ⟨hx.approved (.inl rfl), hx.passed rfl⟩
  · rw [he, List.pairwise_append]
    refine ⟨h.executedOnce, List.pairwise_singleton .., fun y hy z hz => ?_⟩
    rw [List.mem_singleton.mp hz]
    exact hx.unexecuted (by decide) y hy

/-- Every effect keeps the invariant. -/
theorem Consistent.effect (h : Consistent s) (he : Effect s t) : Consistent t := by
  cases he with
  | drop hc hl => exact h.drop hc hl
  | arrive call hfree hc hn hp hx => exact h.arrive hfree hc hn hp hx
  | move i call stage stage' hi hm hfree hc hl => exact h.move hi hm hfree hc hl
  | pass i call pending stage stage' hi hin hfree hs' hc hn hp hx =>
    exact h.pass hi hin hfree hs' hc hn hp hx
  | execute x stage stage' hi hs hs' hc hn hp hx => exact h.execute hi hs hs' hc hn hp hx

/-- The invariant holds all along an orderly run. -/
theorem Consistent.run {labels : List Label} (h : Consistent s)
    (hr : Run (step codec) (Orderly codec) s labels t) : Consistent t :=
  hr.invariant (fun _ _ _ hs ho hstep => hs.effect (step_effect hstep ho)) h

/-! ## The result -/

/-- **In every orderly run each approval is resolved at most once**, whatever the history, the
dictionaries and the order of the awaits. -/
theorem resolvedOnce_of_orderly {labels : List Label} (hs : Start s)
    (hr : Run (step codec) (Orderly codec) s labels t) : ResolvedOnce t :=
  (hs.consistent.run hr).resolvedOnce

/-! ## Runs -/

/-- The user rejects the request, and later approves it. -/
def rejectThenApprove : List Label :=
  storeDropTable ++
    .call (resolveDropTable .rejected) :: List.replicate 3 (.resume 0 2 .null) ++
    .call (resolveDropTable .approved) :: List.replicate 7 (.resume 1 3 .null)

/-- **A rejected tool is executed.** The stored row still says pending, so the later approval finds
it again. -/
theorem rejectThenApprove_executes :
    Start {} ∧ ∃ t, Run (step dropTableCodec) Always {} rejectThenApprove t ∧ ¬ ResolvedOnce t := by
  have hend : (exec (step dropTableCodec) Always {} rejectThenApprove).any (fun t => t.passed.any fun p =>
      p.call.action = .rejected && t.executed.any fun x => x.call.key = p.call.key) = true := by
    decide +kernel
  obtain ⟨t, hrun, hboth⟩ := Run.exists_of_any hend
  refine ⟨⟨fun _ => rfl, rfl, rfl⟩, t, hrun, fun h => ?_⟩
  obtain ⟨p, hp, hboth⟩ := List.any_eq_true.mp hboth
  obtain ⟨hrejected, hexecuted⟩ := Bool.and_eq_true_iff.mp hboth
  obtain ⟨x, hx, hkey⟩ := List.any_eq_true.mp hexecuted
  exact h.rejected p hp (of_decide_eq_true hrejected) x hx (of_decide_eq_true hkey)

/-- The user approves the request, clears the session and asks once more. -/
def approveClearApprove : List Label :=
  storeDropTable ++
    .call (resolveDropTable .approved) :: List.replicate 7 (.resume 0 2 .null) ++
    .clear 1 :: .call (resolveDropTable .approved) :: List.replicate 2 (.resume 1 3 .null)

/-- `resolvedOnce_of_orderly` on the run in which the second call finds nothing. -/
theorem approveClearApprove_resolvedOnce :
    ∃ t, Run (step dropTableCodec) (Orderly dropTableCodec) {} approveClearApprove t ∧
      t.executed.length = 1 ∧ ResolvedOnce t := by
  have hend : (exec (step dropTableCodec) (Orderly dropTableCodec) {} approveClearApprove).any
      (fun t => t.executed.length = 1) = true := by decide
  obtain ⟨t, hrun, hlength⟩ := Run.exists_of_any hend
  exact ⟨t, hrun, of_decide_eq_true hlength, resolvedOnce_of_orderly ⟨fun _ => rfl, rfl, rfl⟩ hrun⟩

end DBClaw.Approvals
