import DBClaw.Library.Runs
import DBClaw.Library.Text
import Mathlib

/-! # The schema cache of the console
`SchemaCache` keeps the answers of the schema endpoints for five minutes, in a map whose keys are texts put together
from the datasource, the kind of the answer and the parameters. Requests overlap: an answer is stored when it comes,
under the time at which it comes. `replies_refine` says that the map of texts answers as a map of queries would, and
`hit_fresh` where an answer from it comes from. -/

namespace DBClaw.SchemaCache

open Runs

/-! ## Keys -/

/-- The kinds of answers. -/
inductive Kind
  | schemas | tables | columns
  deriving DecidableEq, Repr

/-- The name of a kind in the keys. -/
def Kind.name : Kind → Text
  | .schemas => "schemas".toList
  | .tables => "tables".toList
  | .columns => "columns".toList

/-- What is asked: the parameters are known by their JSON text, for columns with the table among them. -/
structure Query where
  datasourceId : ℕ
  kind : Kind
  params : Text
  deriving DecidableEq, Repr

/-- `${datasourceId}:` -/
def keyStart (datasourceId : ℕ) : Text := Nat.toDigits 10 datasourceId ++ [':']

/-- **`_getCacheKey`.** -/
def getCacheKey (query : Query) : Text := keyStart query.datasourceId ++ (query.kind.name ++ ':' :: query.params)

/-- `TTL` in milliseconds. -/
def ttl : ℤ := 5 * 60 * 1000

theorem colon_not_mem_toDigits (n : ℕ) : ':' ∉ Nat.toDigits 10 n := by
  intro hmem
  have hdigit := Nat.isDigit_of_mem_toDigits (by decide) (by decide) hmem
  revert hdigit
  decide

theorem colon_not_mem_name (kind : Kind) : ':' ∉ kind.name := by
  cases kind <;> decide

theorem name_injective {kind kind' : Kind} (h : kind.name = kind'.name) : kind = kind' := by
  revert h
  cases kind <;> cases kind' <;> decide

theorem toDigits_injective {m n : ℕ} (h : Nat.toDigits 10 m = Nat.toDigits 10 n) : m = n := by
  calc
    m = Nat.ofDigitChars 10 (Nat.toDigits 10 m) 0 := Nat.ofDigitChars_ten_toDigits.symm
    _ = Nat.ofDigitChars 10 (Nat.toDigits 10 n) 0 := by rw [h]
    _ = n := Nat.ofDigitChars_ten_toDigits

/-- A text is cut at its first colon in one way. -/
theorem cut_injective {x y s t : Text} (hx : ':' ∉ x) (hy : ':' ∉ y) (h : x ++ ':' :: s = y ++ ':' :: t) :
    x = y ∧ s = t := by
  induction x generalizing y with
  | nil =>
    cases y with
    | nil => exact ⟨rfl, (List.cons.inj h).2⟩
    | cons c y => exact absurd (List.mem_cons.mpr (.inl (List.cons.inj h).1)) hy
  | cons c x ih =>
    cases y with
    | nil => exact absurd (List.mem_cons.mpr (.inl (List.cons.inj h).1.symm)) hx
    | cons d y =>
      obtain ⟨hcd, hrest⟩ := List.cons.inj h
      obtain ⟨hxy, hst⟩ := ih (fun hmem => hx (List.mem_cons_of_mem _ hmem)) (fun hmem => hy (List.mem_cons_of_mem _ hmem))
        hrest
      exact ⟨by rw [hcd, hxy], hst⟩

/-- **Two queries never share a key.** -/
theorem getCacheKey_injective {query query' : Query} (h : getCacheKey query = getCacheKey query') : query = query' := by
  rw [getCacheKey, getCacheKey, keyStart, keyStart, List.append_assoc, List.append_assoc] at h
  obtain ⟨hdatasource, hrest⟩ := cut_injective (colon_not_mem_toDigits _) (colon_not_mem_toDigits _) h
  obtain ⟨hname, hparams⟩ := cut_injective (colon_not_mem_name _) (colon_not_mem_name _) hrest
  cases query
  cases query'
  dsimp only at hdatasource hname hparams
  rw [toDigits_injective hdatasource, name_injective hname, hparams]

/-- **The keys of a datasource** are those that begin with it. -/
theorem keyStart_prefix_iff (datasourceId : ℕ) (query : Query) :
    (keyStart datasourceId).isPrefixOf (getCacheKey query) = true ↔ query.datasourceId = datasourceId := by
  rw [List.isPrefixOf_iff_prefix]
  constructor
  · rintro ⟨rest, hrest⟩
    rw [getCacheKey, keyStart, keyStart, List.append_assoc, List.append_assoc] at hrest
    exact (toDigits_injective (cut_injective (colon_not_mem_toDigits _) (colon_not_mem_toDigits _) hrest).1).symm
  · rintro rfl
    exact List.prefix_append _ _

/-! ## The cache -/

/-- An entry. -/
structure Entry (δ : Type) where
  data : List δ
  timestamp : ℤ

variable {δ : Type}

/-- `cache`, and the requests that are not answered yet. -/
structure State (δ : Type) where
  cache : AList (fun _ : Text => Entry δ) := ∅
  fetches : ℕ → Option Query := fun _ => none
  started : ℕ := 0

/-- **`_isExpired`.** -/
def Entry.isExpired (entry : Entry δ) (now : ℤ) : Bool := ttl < now - entry.timestamp

/-- What happens: a query is asked, a request is answered or fails, entries are thrown away. -/
inductive Label (δ : Type)
  | get (query : Query) (now : ℤ)
  | respond (i : ℕ) (data : List δ) (now : ℤ)
  | fail (i : ℕ)
  | invalidate (datasourceId : ℕ)
  | clear

namespace State

variable (s : State δ)

/-- A request begins. -/
def fetch (query : Query) : State δ :=
  { s with fetches := Function.update s.fetches s.started (some query), started := s.started + 1 }

/-- A request ends. -/
def settle (i : ℕ) : State δ := { s with fetches := Function.update s.fetches i none }

/-- **`invalidate`.** -/
def invalidate (datasourceId : ℕ) : State δ :=
  { s with cache := (s.cache.keys.filter (keyStart datasourceId).isPrefixOf).foldl (fun cache key => cache.erase key) s.cache }

end State

/-- **A step** of `getSchemas`, `getTables`, `getColumns`, `invalidate` and `clear`, with what is returned by it. -/
def step (s : State δ) : Label δ → Option (Option (List δ) × State δ)
  | .get query now =>
    match s.cache.lookup (getCacheKey query) with
    | some entry => some (if entry.isExpired now then (none, s.fetch query) else (some entry.data, s))
    | none => some (none, s.fetch query)
  | .respond i data now =>
    (s.fetches i).map fun query =>
      (some data, { s.settle i with cache := s.cache.insert (getCacheKey query) ⟨data, now⟩ })
  | .fail i => (s.fetches i).map fun _ => (some [], s.settle i)
  | .invalidate datasourceId => some (none, s.invalidate datasourceId)
  | .clear => some (none, { s with cache := ∅ })

/-! ## The map of queries -/

/-- What a cache of queries keeps. -/
structure Answers (δ : Type) where
  answers : Query → Option (Entry δ) := fun _ => none
  fetches : ℕ → Option Query := fun _ => none
  started : ℕ := 0

/-- A request begins. -/
def Answers.fetch (a : Answers δ) (query : Query) : Answers δ :=
  { a with fetches := Function.update a.fetches a.started (some query), started := a.started + 1 }

/-- A request ends. -/
def Answers.settle (a : Answers δ) (i : ℕ) : Answers δ := { a with fetches := Function.update a.fetches i none }

/-- A step of a cache of queries. -/
def Answers.step (a : Answers δ) : Label δ → Option (Option (List δ) × Answers δ)
  | .get query now =>
    match a.answers query with
    | some entry => some (if entry.isExpired now then (none, a.fetch query) else (some entry.data, a))
    | none => some (none, a.fetch query)
  | .respond i data now =>
    (a.fetches i).map fun query =>
      (some data, { a.settle i with answers := Function.update a.answers query (some ⟨data, now⟩) })
  | .fail i => (a.fetches i).map fun _ => (some [], a.settle i)
  | .invalidate datasourceId =>
    some (none, { a with answers := fun query => if query.datasourceId = datasourceId then none else a.answers query })
  | .clear => some (none, { a with answers := fun _ => none })

/-- The cache keeps under its keys what the map of queries keeps. -/
structure Refines (s : State δ) (a : Answers δ) : Prop where
  answers : ∀ query, s.cache.lookup (getCacheKey query) = a.answers query
  fetches : s.fetches = a.fetches
  started : s.started = a.started

theorem lookup_foldl_erase (keys : List Text) (cache : AList fun _ : Text => Entry δ) (key : Text) :
    (keys.foldl (fun cache key => cache.erase key) cache).lookup key = if key ∈ keys then none else cache.lookup key := by
  induction keys generalizing cache with
  | nil => rfl
  | cons k keys ih =>
    rw [List.foldl_cons, ih]
    by_cases hk : key = k
    · rw [hk, AList.lookup_erase, ite_self, if_pos List.mem_cons_self]
    · rw [AList.lookup_erase_ne hk]
      simp only [List.mem_cons, hk, false_or]

theorem lookup_invalidate (s : State δ) (datasourceId : ℕ) (query : Query) :
    (s.invalidate datasourceId).cache.lookup (getCacheKey query) =
      if query.datasourceId = datasourceId then none else s.cache.lookup (getCacheKey query) := by
  rw [State.invalidate]
  dsimp only
  rw [lookup_foldl_erase]
  by_cases hkey : getCacheKey query ∈ s.cache
  · simp only [List.mem_filter, AList.mem_keys.mp hkey, true_and, keyStart_prefix_iff]
  · rw [AList.lookup_eq_none.mpr hkey, ite_self, ite_self]

variable {s : State δ} {a : Answers δ}

/-- **A step of the map of texts** returns what the step of the map of queries does. -/
theorem Refines.step (h : Refines s a) (label : Label δ) :
    (SchemaCache.step s label = none ∧ a.step label = none) ∨
      ∃ reply s' a', SchemaCache.step s label = some (reply, s') ∧ a.step label = some (reply, a') ∧ Refines s' a' := by
  have hsettle (i : ℕ) : (s.settle i).fetches = (a.settle i).fetches := by
    rw [State.settle, Answers.settle, h.fetches]
  cases label with
  | get query now =>
    have hfetch : Refines (s.fetch query) (a.fetch query) := by
      refine ⟨h.answers, ?_, ?_⟩
      · rw [State.fetch, Answers.fetch, h.fetches, h.started]
      · exact congrArg (· + 1) h.started
    rw [SchemaCache.step, Answers.step, h.answers query]
    rcases a.answers query with _ | entry
    · exact .inr ⟨none, _, _, rfl, rfl, hfetch⟩
    · dsimp only
      split_ifs
      · exact .inr ⟨none, _, _, rfl, rfl, hfetch⟩
      · exact .inr ⟨some entry.data, _, _, rfl, rfl, h⟩
  | respond i data now =>
    rw [SchemaCache.step, Answers.step, h.fetches]
    rcases a.fetches i with _ | query
    · exact .inl ⟨rfl, rfl⟩
    · refine .inr ⟨some data, _, _, rfl, rfl, fun query' => ?_, hsettle i, h.started⟩
      dsimp only
      by_cases hquery : query' = query
      · rw [hquery, AList.lookup_insert, Function.update_self]
      · rw [AList.lookup_insert_ne fun hkey => hquery (getCacheKey_injective hkey), Function.update_of_ne hquery]
        exact h.answers query'
  | fail i =>
    rw [SchemaCache.step, Answers.step, h.fetches]
    rcases a.fetches i with _ | query
    · exact .inl ⟨rfl, rfl⟩
    · exact .inr ⟨some [], _, _, rfl, rfl, h.answers, hsettle i, h.started⟩
  | invalidate datasourceId =>
    refine .inr ⟨none, _, _, rfl, rfl, fun query => ?_, h.fetches, h.started⟩
    rw [lookup_invalidate, h.answers]
  | clear => exact .inr ⟨none, _, _, rfl, rfl, fun query => AList.lookup_empty _, h.fetches, h.started⟩

/-- What a run returns, step by step. -/
def replies {σ α ρ : Type} (step : σ → α → Option (ρ × σ)) : σ → List α → Option (List ρ)
  | _, [] => some []
  | s, label :: labels => (step s label).bind fun next => (replies step next.2 labels).map (next.1 :: ·)

theorem Refines.replies (h : Refines s a) (labels : List (Label δ)) :
    SchemaCache.replies SchemaCache.step s labels = SchemaCache.replies Answers.step a labels := by
  induction labels generalizing s a with
  | nil => rfl
  | cons label labels ih =>
    rw [SchemaCache.replies, SchemaCache.replies]
    rcases h.step label with ⟨hs, ha⟩ | ⟨reply, s', a', hs, ha, hnext⟩
    · rw [hs, ha]
      rfl
    · rw [hs, ha, Option.bind_some, Option.bind_some, ih hnext]

/-- **The cache answers as a map of queries**: in every run of overlapping requests, answers that come in any order,
failures and invalidations, whatever the datasources and the parameters, it returns what a cache would that is keyed
by the queries themselves, so no query is ever answered with what belongs to another one. -/
theorem replies_refine (labels : List (Label δ)) :
    replies step ({} : State δ) labels = replies Answers.step {} labels :=
  Refines.replies ⟨fun _ => AList.lookup_empty _, rfl, rfl⟩ labels

/-! ## Where answers come from -/

/-- The state after a step. -/
def next (s : State δ) (label : Label δ) : Option (State δ) := (step s label).map Prod.snd

/-- The label takes the entry of a query away. -/
def Label.Drops (query : Query) : Label δ → Prop
  | .invalidate datasourceId => query.datasourceId = datasourceId
  | .clear => True
  | _ => False

/-- An entry is the answer to a request for the query, and has not been taken away since. -/
structure Answered (labels : List (Label δ)) (query : Query) (entry : Entry δ) (before after : List (Label δ)) (i : ℕ)
    (s : State δ) : Prop where
  labels_eq : labels = before ++ .respond i entry.data entry.timestamp :: after
  reached : Run next Always {} before s
  asked : s.fetches i = some query
  kept : ∀ label ∈ after, ¬ label.Drops query

/-- All entries are such answers. -/
def Sourced (labels : List (Label δ)) (s : State δ) : Prop :=
  ∀ query entry, s.cache.lookup (getCacheKey query) = some entry →
    ∃ before after i s₀, Answered labels query entry before after i s₀

theorem Answered.concat {labels : List (Label δ)} {query : Query} {entry : Entry δ} {before after : List (Label δ)}
    {i : ℕ} {s₀ : State δ} (h : Answered labels query entry before after i s₀) {label : Label δ}
    (hlabel : ¬ label.Drops query) :
    Answered (labels ++ [label]) query entry before (after ++ [label]) i s₀ where
  labels_eq := by
    rw [h.labels_eq, List.append_assoc]
    rfl
  reached := h.reached
  asked := h.asked
  kept l hl := by
    rcases List.mem_append.mp hl with hl | hl
    · exact h.kept l hl
    · rwa [List.mem_singleton.mp hl]

/-- A query does not change what is cached. -/
theorem cache_get {query : Query} {now : ℤ} {reply : Option (List δ)} {s' : State δ}
    (hget : SchemaCache.step s (.get query now) = some (reply, s')) : s'.cache = s.cache := by
  rw [SchemaCache.step] at hget
  split at hget
  · split_ifs at hget
    · cases hget
      rfl
    · cases hget
      rfl
  · cases hget
    rfl

theorem Sourced.step {labels : List (Label δ)} {s' : State δ} {label : Label δ} (h : Sourced labels s)
    (hrun : Run next Always {} labels s) (hstep : next s label = some s') : Sourced (labels ++ [label]) s' := by
  -- an entry that was there is still the same answer
  have hkeep {query : Query} {entry : Entry δ} (hlookup : s.cache.lookup (getCacheKey query) = some entry)
      (hlabel : ¬ label.Drops query) :
      ∃ before after i s₀, Answered (labels ++ [label]) query entry before after i s₀ := by
    obtain ⟨before, after, i, s₀, hanswered⟩ := h query entry hlookup
    exact ⟨before, after ++ [label], i, s₀, hanswered.concat hlabel⟩
  obtain ⟨⟨reply, s''⟩, hsome, rfl⟩ := Option.map_eq_some_iff.mp hstep
  clear hstep
  intro query entry hlookup
  cases label with
  | get query' now =>
    exact hkeep (cache_get hsome ▸ hlookup) id
  | respond i data now =>
    obtain ⟨query', hfetch, heq⟩ := Option.map_eq_some_iff.mp hsome
    cases heq
    dsimp only at hlookup
    by_cases hquery : query = query'
    · subst hquery
      rw [AList.lookup_insert] at hlookup
      cases hlookup
      refine ⟨labels, [], i, s, rfl, hrun, hfetch, fun l hl => ?_⟩
      cases hl
    · rw [AList.lookup_insert_ne fun hkey => hquery (getCacheKey_injective hkey)] at hlookup
      exact hkeep hlookup id
  | fail i =>
    obtain ⟨query', -, heq⟩ := Option.map_eq_some_iff.mp hsome
    cases heq
    exact hkeep hlookup id
  | invalidate datasourceId =>
    cases hsome
    have hlookup := (lookup_invalidate s datasourceId query).symm.trans hlookup
    split_ifs at hlookup with hquery
    exact hkeep hlookup hquery
  | clear =>
    cases hsome
    dsimp only at hlookup
    rw [AList.lookup_empty] at hlookup
    cases hlookup

theorem Sourced.run {before labels : List (Label δ)} {s t : State δ} (h : Sourced before s)
    (hbefore : Run next Always {} before s) (hrun : Run next Always s labels t) : Sourced (before ++ labels) t := by
  induction hrun generalizing before with
  | nil s => rwa [List.append_nil]
  | cons _ hstep _ ih =>
    have hrest := ih (h.step hbefore hstep) (hbefore.concat trivial hstep)
    rwa [List.append_assoc] at hrest

theorem sourced_of_run {labels : List (Label δ)} (hrun : Run next Always {} labels s) : Sourced labels s := by
  have hstart : Sourced [] ({} : State δ) := fun query entry hlookup => by
    rw [AList.lookup_empty] at hlookup
    cases hlookup
  exact hstart.run (.nil _) hrun

/-- **An answer from the cache is fresh**: in every run, a query that is answered at once is answered with what a
request for the same query brought at most five minutes ago, and its datasource has not been invalidated since. -/
theorem hit_fresh {labels : List (Label δ)} (hrun : Run next Always {} labels s) {query : Query} {now : ℤ}
    {data : List δ} {s' : State δ} (hget : step s (.get query now) = some (some data, s')) :
    ∃ timestamp before after i s₀, Answered labels query ⟨data, timestamp⟩ before after i s₀ ∧ now - timestamp ≤ ttl := by
  rw [step] at hget
  split at hget
  · rename_i entry hlookup
    split_ifs at hget with hexpired
    · cases hget
    · cases hget
      obtain ⟨before, after, i, s₀, hanswered⟩ := sourced_of_run hrun query entry hlookup
      rw [Entry.isExpired, decide_eq_true_eq, not_lt] at hexpired
      exact ⟨entry.timestamp, before, after, i, s₀, hanswered, hexpired⟩
  · cases hget

/-- Tables that are asked for twice. -/
theorem tables_fresh :
    let query : Query := ⟨1, .tables, []⟩
    let labels : List (Label Char) := [.get query 0, .respond 0 ['t'] 5]
    ∃ timestamp before after i s₀, Answered labels query ⟨['t'], timestamp⟩ before after i s₀ ∧ 6 - timestamp ≤ ttl :=
  hit_fresh (.cons trivial rfl (.cons trivial rfl (.nil _))) rfl

end DBClaw.SchemaCache
