import DBClaw.Library.Registry
import DBClaw.Library.Runs
import DBClaw.Library.Text
import Mathlib.Logic.Function.Basic

/-! # Running queries
A query registers itself under the id that its client has chosen, less the blanks around it, and removes what
stands under the id when it ends; a cancellation looks the id up as it is. `cancellable_iff` says which steps
leave every running query in the registry and in reach of its owner. -/

namespace DBClaw.Queries

open Registries Runs Text

abbrev UserId := ℕ
abbrev DatasourceId := ℕ

/-- `request_id` of a request: `Field(..., min_length=1, max_length=128)`. -/
structure RequestId where
  text : Text
  nonempty : text ≠ []
  short : text.length ≤ 128

/-- `QueryExecutionState`, with the id that the client has supplied, and whether the query has ended. -/
structure QueryExecutionState where
  requestId : Text
  datasourceId : DatasourceId
  userId : UserId
  cancelRequested : Bool := false
  supplied : Option RequestId
  ended : Bool := false

/-- `_active_queries_by_request_id` and the queries so far, by number. -/
structure State where
  activeQueriesByRequestId : Text → Option ℕ := fun _ => none
  queries : ℕ → Option QueryExecutionState := fun _ => none
  started : ℕ := 0

/-- `(req.request_id or str(uuid4())).strip()`. -/
def requestKey (requestId : Option RequestId) (uuid : Text) : Text :=
  strip ((requestId.map RequestId.text).getD uuid)

namespace State

variable (s : State)

/-- `_register_active_query`. -/
def registerActiveQuery (query : QueryExecutionState) : State where
  activeQueriesByRequestId := Function.update s.activeQueriesByRequestId query.requestId (some s.started)
  queries := Function.update s.queries s.started (some query)
  started := s.started + 1

/-- `_get_active_query`. -/
def getActiveQuery (requestId : Text) (userId : UserId) : Option (ℕ × QueryExecutionState) :=
  (s.activeQueriesByRequestId requestId).bind fun i =>
    (s.queries i).bind fun query => if query.userId = userId then some (i, query) else none

/-- The query is marked as cancelled. -/
def mark (i : ℕ) (query : QueryExecutionState) : State :=
  { s with queries := Function.update s.queries i (some { query with cancelRequested := true }) }

/-- `_remove_active_query` at the end of a query. -/
def removeActiveQuery (i : ℕ) (query : QueryExecutionState) : State :=
  { s with
    activeQueriesByRequestId := Function.update s.activeQueriesByRequestId query.requestId none
    queries := Function.update s.queries i (some { query with ended := true }) }

/-- `cancel_query`, as far as the registry. -/
def cancelQuery (requestId : RequestId) (userId : UserId) (datasourceId : DatasourceId) : State :=
  match s.getActiveQuery requestId.text userId with
  | some (i, query) => if query.datasourceId = datasourceId then s.mark i query else s
  | none => s

end State

/-- What happens in the router. -/
inductive Label
  | execute (requestId : Option RequestId) (uuid : Text) (userId : UserId) (datasourceId : DatasourceId)
  | cancel (requestId : RequestId) (userId : UserId) (datasourceId : DatasourceId)
  /-- A query returns or raises. -/
  | finish (i : ℕ)

/-- A step of the router. -/
def step (s : State) : Label → Option State
  | .execute requestId uuid userId datasourceId => some <| s.registerActiveQuery
      { requestId := requestKey requestId uuid
        datasourceId := datasourceId
        userId := userId
        supplied := requestId }
  | .cancel requestId userId datasourceId => some (s.cancelQuery requestId userId datasourceId)
  | .finish i =>
    match s.queries i with
    | some query => if query.ended then none else some (s.removeActiveQuery i query)
    | none => none

/-! ## The registry -/

/-- The id under which a query runs. -/
def QueryExecutionState.runsUnder (query : QueryExecutionState) : Option Text :=
  if query.ended then none else some query.requestId

/-- The id under which the query with this number runs. -/
def State.runsUnder (s : State) (i : ℕ) : Option Text := (s.queries i).bind QueryExecutionState.runsUnder

/-- **Running queries can be cancelled**: each of them has its entry, no entry is left of one that has ended,
and its owner marks the query, and nothing else, with the id that he has supplied. -/
structure State.Cancellable (s : State) : Prop where
  registered : Registered s.activeQueriesByRequestId s.runsUnder
  removed : ∀ requestId i, s.activeQueriesByRequestId requestId = some i → s.runsUnder i = some requestId
  marks : ∀ i query requestId, s.queries i = some query → query.ended = false →
    query.supplied = some requestId →
      s.cancelQuery requestId query.userId query.datasourceId = s.mark i query

/-- **The condition on a step**: a query is started under an id without blanks around it, and no query runs
under the id. -/
def Distinct (s : State) : Label → Prop
  | .execute requestId uuid _ _ =>
    (∀ id ∈ requestId, strip id.text = id.text) ∧ ∀ i, s.runsUnder i ≠ some (requestKey requestId uuid)
  | .cancel .. | .finish _ => True

variable {s t : State} {i : ℕ} {query : QueryExecutionState}

/-- Where a query is marked or ends, what runs changes there only. -/
theorem runsUnder_update (hqueries : t.queries = Function.update s.queries i (some query)) :
    t.runsUnder = Function.update s.runsUnder i query.runsUnder := by
  funext j
  by_cases hj : j = i
  · rw [hj, State.runsUnder, hqueries, Function.update_self, Function.update_self, Option.bind_some]
  · rw [State.runsUnder, hqueries, Function.update_of_ne hj, Function.update_of_ne hj, State.runsUnder]

/-- What a running query runs under. -/
theorem runsUnder_eq (hquery : s.queries i = some query) (hended : query.ended = false) :
    s.runsUnder i = some query.requestId := by
  rw [State.runsUnder, hquery, Option.bind_some, QueryExecutionState.runsUnder, hended, if_neg Bool.false_ne_true]

/-- A query that has its entry is found by its owner. -/
theorem cancelQuery_eq {requestId : RequestId} (hentry : s.activeQueriesByRequestId requestId.text = some i)
    (hquery : s.queries i = some query) :
    s.cancelQuery requestId query.userId query.datasourceId = s.mark i query := by
  rw [State.cancelQuery, State.getActiveQuery, hentry, Option.bind_some, hquery, Option.bind_some, if_pos rfl]
  exact if_pos rfl

/-- A cancellation leaves the registry alone, and what it marks goes on. -/
theorem cancelQuery_cases (requestId : RequestId) (userId : UserId) (datasourceId : DatasourceId) :
    s.cancelQuery requestId userId datasourceId = s ∨
      ∃ i query, s.activeQueriesByRequestId requestId.text = some i ∧ s.queries i = some query ∧
        s.cancelQuery requestId userId datasourceId = s.mark i query := by
  unfold State.cancelQuery
  split
  · rename_i i query hget
    obtain ⟨j, hj, hbind⟩ := Option.bind_eq_some_iff.mp hget
    obtain ⟨query', hquery, hif⟩ := Option.bind_eq_some_iff.mp hbind
    split at hif
    · obtain ⟨rfl, rfl⟩ := Prod.mk.inj (Option.some.inj hif)
      split
      · exact .inr ⟨j, query', hj, hquery, rfl⟩
      · exact .inl rfl
    · cases hif
  · exact .inl rfl

/-! ## Steps -/

/-- The queries are of those started so far. -/
def State.Sane (s : State) : Prop := ∀ i query, s.queries i = some query → i < s.started

/-- **What running queries have to meet**: the registry is right, and who has supplied an id knows the key. -/
structure State.Known (s : State) : Prop where
  registered : Registered s.activeQueriesByRequestId s.runsUnder
  removed : ∀ requestId i, s.activeQueriesByRequestId requestId = some i → s.runsUnder i = some requestId
  known : ∀ i query requestId, s.queries i = some query → query.ended = false →
    query.supplied = some requestId → query.requestId = requestId.text

theorem State.Known.cancellable (h : s.Known) : s.Cancellable := by
  refine ⟨h.registered, h.removed, fun i query requestId hquery hended hsupplied => cancelQuery_eq ?_ hquery⟩
  rw [← h.known i query requestId hquery hended hsupplied]
  exact h.registered i query.requestId (runsUnder_eq hquery hended)

/-- The number of a new query is free. -/
theorem State.Sane.runsUnder_started (hsane : s.Sane) : s.runsUnder s.started = none := by
  rw [State.runsUnder, Option.bind_eq_none_iff]
  exact fun query hquery => absurd (hsane _ _ hquery) (Nat.lt_irrefl _)

theorem State.Sane.register (hsane : s.Sane) (query : QueryExecutionState) :
    (s.registerActiveQuery query).Sane := by
  intro j query' hj
  obtain ⟨rfl, -⟩ | ⟨-, hj⟩ := update_eq_some hj
  · exact Nat.lt_succ_self _
  · exact Nat.lt_succ_of_lt (hsane j query' hj)

/-- A query that goes on or ends keeps its number. -/
theorem State.Sane.update (hsane : s.Sane) (hquery : s.queries i = some query) {query' : QueryExecutionState}
    (hstarted : t.started = s.started) (hqueries : t.queries = Function.update s.queries i (some query')) :
    t.Sane := by
  intro j query'' hj
  rw [hqueries] at hj
  rw [hstarted]
  obtain ⟨rfl, -⟩ | ⟨-, hj⟩ := update_eq_some hj
  · exact hsane j query hquery
  · exact hsane j query'' hj

/-- **A query is started**: this is right iff nothing runs under its key, and its owner knows the key. -/
theorem State.Known.register_iff (h : s.Known) (hsane : s.Sane) (hended : query.ended = false) :
    (s.registerActiveQuery query).Known ↔
      (∀ requestId, query.supplied = some requestId → query.requestId = requestId.text) ∧
        ∀ j, s.runsUnder j ≠ some query.requestId := by
  have hruns : query.runsUnder = some query.requestId := by
    rw [QueryExecutionState.runsUnder, hended, if_neg Bool.false_ne_true]
  have hafter : (s.registerActiveQuery query).runsUnder =
      Function.update s.runsUnder s.started (some query.requestId) := by
    rw [@runsUnder_update s (s.registerActiveQuery query) s.started query rfl, hruns]
  have hentries : Registered (s.registerActiveQuery query).activeQueriesByRequestId
      (s.registerActiveQuery query).runsUnder ↔ ∀ j, s.runsUnder j ≠ some query.requestId := by
    rw [hafter]
    exact h.registered.enter_iff hsane.runsUnder_started
  constructor
  · intro h'
    exact ⟨fun requestId => h'.known s.started query requestId (Function.update_self ..) hended,
      hentries.mp h'.registered⟩
  · rintro ⟨hknown, hfree⟩
    refine ⟨hentries.mpr hfree, fun requestId j hj => ?_, fun j query' requestId hj => ?_⟩
    · rw [hafter]
      simp only [State.registerActiveQuery, Function.update_apply] at hj
      split at hj
      · rename_i hid
        obtain rfl := Option.some.inj hj
        rw [Function.update_self, hid]
      · have hold := h.removed requestId j hj
        have hne : j ≠ s.started := by
          rintro rfl
          rw [hsane.runsUnder_started] at hold
          cases hold
        rw [Function.update_of_ne hne, hold]
    · obtain ⟨-, heq⟩ | ⟨-, hj⟩ := update_eq_some hj
      · obtain rfl := Option.some.inj heq
        exact fun _ => hknown requestId
      · exact h.known j query' requestId hj

/-- Where the new query can be cancelled, its owner knows the key. -/
theorem known_of_cancellable {requestId : RequestId} (h : (s.registerActiveQuery query).Cancellable)
    (hended : query.ended = false) (hfresh : query.cancelRequested = false)
    (hsupplied : query.supplied = some requestId) : query.requestId = requestId.text := by
  have hquery : (s.registerActiveQuery query).queries s.started = some query := Function.update_self ..
  have hmark := congrArg (fun u => u.queries s.started) (h.marks s.started query requestId hquery hended hsupplied)
  simp only [State.mark, Function.update_self] at hmark
  have hdiffers : (some query : Option QueryExecutionState) ≠ some { query with cancelRequested := true } := by
    intro heq
    rw [Option.some.inj heq] at hfresh
    cases hfresh
  obtain hsame | ⟨j, query', hentry, -, hmarks⟩ := @cancelQuery_cases (s.registerActiveQuery query) requestId
    query.userId query.datasourceId
  · -- the id is not found
    rw [hsame, hquery] at hmark
    exact absurd hmark hdiffers
  · by_cases hj : j = s.started
    · subst hj
      have hruns := h.removed requestId.text s.started hentry
      rw [runsUnder_eq hquery hended] at hruns
      exact Option.some.inj hruns
    · -- another query is found
      rw [hmarks] at hmark
      simp only [State.mark, Function.update_of_ne (Ne.symm hj)] at hmark
      exact absurd (hquery.symm.trans hmark) hdiffers

/-- So the new query meets what running queries have to meet. -/
theorem State.Known.of_cancellable (h : s.Known) (hended : query.ended = false)
    (hfresh : query.cancelRequested = false) (h' : (s.registerActiveQuery query).Cancellable) :
    (s.registerActiveQuery query).Known := by
  refine ⟨h'.registered, h'.removed, fun j query' requestId hj hrunning hsupplied => ?_⟩
  obtain ⟨-, heq⟩ | ⟨-, hj⟩ := update_eq_some hj
  · obtain rfl := Option.some.inj heq
    exact known_of_cancellable h' hended hfresh hsupplied
  · exact h.known j query' requestId hj hrunning hsupplied

/-- A query that is marked goes on. -/
theorem State.Known.mark (h : s.Known) (hquery : s.queries i = some query) : (s.mark i query).Known := by
  have hafter : (s.mark i query).runsUnder = s.runsUnder := by
    rw [@runsUnder_update s (s.mark i query) i { query with cancelRequested := true } rfl,
      Function.update_eq_self_iff, State.runsUnder, hquery, Option.bind_some]
    rfl
  refine ⟨by rw [hafter]; exact h.registered, by rw [hafter]; exact h.removed, fun j query' requestId hj => ?_⟩
  obtain ⟨-, heq⟩ | ⟨-, hj⟩ := update_eq_some hj
  · obtain rfl := Option.some.inj heq
    exact h.known i query requestId hquery
  · exact h.known j query' requestId hj

/-- A query that ends removes its own entry. -/
theorem State.Known.remove (h : s.Known) (hquery : s.queries i = some query) (hended : query.ended = false) :
    (s.removeActiveQuery i query).Known := by
  have hruns := runsUnder_eq hquery hended
  have hafter : (s.removeActiveQuery i query).runsUnder = Function.update s.runsUnder i none :=
    @runsUnder_update s (s.removeActiveQuery i query) i { query with ended := true } rfl
  refine ⟨by rw [hafter]; exact h.registered.leave hruns, fun requestId j hj => ?_, fun j query' requestId hj => ?_⟩
  · simp only [State.removeActiveQuery, Function.update_apply] at hj
    split at hj
    · cases hj
    · rename_i hid
      have hold := h.removed requestId j hj
      have hne : j ≠ i := by
        rintro rfl
        exact hid (Option.some.inj (hold.symm.trans hruns))
      rw [hafter, Function.update_of_ne hne, hold]
  · obtain ⟨-, heq⟩ | ⟨-, hj⟩ := update_eq_some hj
    · obtain rfl := Option.some.inj heq
      intro hended'
      cases hended'
    · exact h.known j query' requestId hj

/-- **A step is right** iff it meets the condition. -/
theorem State.Known.step_iff (h : s.Known) (hsane : s.Sane) {label : Label} (hstep : step s label = some t) :
    (t.Cancellable ↔ Distinct s label) ∧ (t.Cancellable → t.Known) ∧ t.Sane := by
  have hkeeps (hknown : t.Known) (hsane' : t.Sane) (hdistinct : Distinct s label) :
      (t.Cancellable ↔ Distinct s label) ∧ (t.Cancellable → t.Known) ∧ t.Sane :=
    ⟨iff_of_true hknown.cancellable hdistinct, fun _ => hknown, hsane'⟩
  cases label with
  | execute requestId uuid userId datasourceId =>
    obtain rfl := Option.some.inj hstep
    have hiff := @State.Known.register_iff s
      ⟨requestKey requestId uuid, datasourceId, userId, false, requestId, false⟩ h hsane rfl
    -- the key is the id, where the client has supplied one, less the blanks
    have hkey (id : RequestId) (hid : requestId = some id) : requestKey requestId uuid = strip id.text := by
      rw [hid]
      rfl
    have hknown : (∀ id, requestId = some id → requestKey requestId uuid = id.text) ↔
        ∀ id ∈ requestId, strip id.text = id.text :=
      forall₂_congr fun id hid => by rw [hkey id hid]
    rw [hknown] at hiff
    have hcancellable := @State.Known.of_cancellable s
      ⟨requestKey requestId uuid, datasourceId, userId, false, requestId, false⟩ h rfl rfl
    exact ⟨⟨fun h' => hiff.mp (hcancellable h'), fun hdistinct => (hiff.mpr hdistinct).cancellable⟩,
      hcancellable, hsane.register _⟩
  | cancel requestId userId datasourceId =>
    obtain rfl := Option.some.inj hstep
    obtain hsame | ⟨i, query, -, hquery, hmarks⟩ := @cancelQuery_cases s requestId userId datasourceId
    · rw [hsame] at hkeeps ⊢
      exact hkeeps h hsane trivial
    · rw [hmarks] at hkeeps ⊢
      exact hkeeps (h.mark hquery) (hsane.update hquery rfl rfl) trivial
  | finish i =>
    simp only [step] at hstep
    split at hstep
    · rename_i query hquery
      split at hstep
      · cases hstep
      · rename_i hended
        obtain rfl := Option.some.inj hstep
        refine hkeeps (h.remove hquery (by simpa using hended)) ?_ trivial
        exact hsane.update hquery rfl rfl
    · cases hstep

theorem known_start : State.Known {} where
  registered i requestId hi := by cases hi
  removed requestId i hi := by cases hi
  known i query requestId hi := by cases hi

theorem sane_start : State.Sane {} := by
  intro i query hi
  cases hi

/-- **Running queries can be cancelled** along a run iff all its steps meet the condition. -/
theorem cancellable_iff (labels : List Label) (t : State) :
    Run step (fun s label => ∃ t ∈ step s label, t.Cancellable) {} labels t ↔ Run step Distinct {} labels t :=
  Run.leadsTo_iff (I := fun s => s.Known ∧ s.Sane) (fun _ _ _ h hs => (h.1.step_iff h.2 hs).1)
    (fun _ _ _ h hs hcancellable =>
      ⟨(h.1.step_iff h.2 hs).2.1 hcancellable, (h.1.step_iff h.2 hs).2.2⟩) ⟨known_start, sane_start⟩

/-- The id `"1"`. -/
def firstId : RequestId := ⟨"1".toList, by decide, by decide⟩

/-- Two users run queries under the same id, on two datasources, and the second query ends. -/
def sameId : List Label := [.execute (some firstId) [] 1 1, .execute (some firstId) [] 2 2, .finish 1]

/-- The router after it. -/
def unregisteredState : State := (exec step Always {} sameId).getD {}

/-- **The first query runs on without an entry.** -/
theorem sameId_unregisters : Run step Always {} sameId unregisteredState ∧ ¬ unregisteredState.Cancellable := by
  refine ⟨.of_isSome rfl, fun hcancellable => ?_⟩
  have hruns : unregisteredState.runsUnder 0 = some "1".toList := by decide
  have hnone : unregisteredState.activeQueriesByRequestId "1".toList = none := by decide
  rw [hcancellable.registered 0 _ hruns] at hnone
  cases hnone

end DBClaw.Queries
