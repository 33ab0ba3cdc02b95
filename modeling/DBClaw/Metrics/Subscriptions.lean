import DBClaw.Library.Runs
import Mathlib

/-! # Subscribers of metrics
A page that watches a datasource subscribes a queue of at most a hundred messages, and every collection pushes its
snapshot to the queues of the datasource. A queue that is full is taken off the list. `served_of_run` says what a
subscriber gets: everything since its subscription while it is on the list, and never a message after one that it has
missed. -/

namespace DBClaw.MetricSubscriptions

open Runs

abbrev DatasourceId := ℤ

/-! ## Queues -/

/-- `maxsize` of a queue. -/
def maxsize : ℕ := 100

/-- `asyncio.Queue(maxsize=100)`. -/
structure Queue (μ : Type) where
  items : List μ
  bounded : items.length ≤ maxsize

variable {μ : Type}

/-- An empty queue. -/
def Queue.empty : Queue μ := ⟨[], Nat.zero_le _⟩

/-- `put_nowait`, or `QueueFull`. -/
def Queue.putNowait (queue : Queue μ) (data : μ) : Option (Queue μ) :=
  if h : queue.items.length < maxsize then
    some ⟨queue.items ++ [data], List.length_append ▸ h⟩
  else none

/-- `get`, when there is something. -/
def Queue.get (queue : Queue μ) : Option (μ × Queue μ) :=
  match queue with
  | ⟨[], _⟩ => none
  | ⟨data :: items, h⟩ => some (data, ⟨items, (Nat.le_succ _).trans h⟩)

/-! ## The subscribers -/

/-- `_metric_subscribers` with the queues so far, by number, and what has been taken from each of them. -/
structure State (μ : Type) where
  subscribers : AList (fun _ : DatasourceId => List ℕ) := ∅
  queues : ℕ → Queue μ := fun _ => .empty
  taken : ℕ → List μ := fun _ => []
  created : ℕ := 0

/-- The list of a datasource after some of its queues are removed: an empty one goes. -/
def store (subscribers : AList (fun _ : DatasourceId => List ℕ)) (datasourceId : DatasourceId) (queues : List ℕ) :
    AList fun _ : DatasourceId => List ℕ :=
  if queues = [] then subscribers.erase datasourceId else subscribers.insert datasourceId queues

/-- `put_nowait` on each queue of a list, with the queues that are full. -/
def putAll (data : μ) : List ℕ → (ℕ → Queue μ) → (ℕ → Queue μ) × List ℕ
  | [], queues => (queues, [])
  | q :: qs, queues =>
    match (queues q).putNowait data with
    | some queue => putAll data qs (Function.update queues q queue)
    | none => ((putAll data qs queues).1, q :: (putAll data qs queues).2)

namespace State

variable (s : State μ)

/-- The queues that are listed for a datasource. -/
def listed (datasourceId : DatasourceId) : List ℕ := (s.subscribers.lookup datasourceId).getD []

/-- **`subscribe`.** -/
def subscribe (datasourceId : DatasourceId) : State μ :=
  { s with
    subscribers := s.subscribers.insert datasourceId (s.listed datasourceId ++ [s.created])
    created := s.created + 1 }

/-- **`unsubscribe`.** -/
def unsubscribe (datasourceId : DatasourceId) (q : ℕ) : State μ :=
  match s.subscribers.lookup datasourceId with
  | some queues => { s with subscribers := store s.subscribers datasourceId (queues.erase q) }
  | none => s

/-- **`_push_to_subscribers`.** -/
def pushToSubscribers (datasourceId : DatasourceId) (data : μ) : State μ :=
  match s.subscribers.lookup datasourceId with
  | some (q :: qs) =>
    { s with
      queues := (putAll data (q :: qs) s.queues).1
      subscribers := store s.subscribers datasourceId ((q :: qs).diff (putAll data (q :: qs) s.queues).2) }
  | _ => s

end State

/-- What happens: none of it is interrupted. -/
inductive Label (μ : Type)
  | subscribe (datasourceId : DatasourceId)
  | unsubscribe (datasourceId : DatasourceId) (q : ℕ)
  | push (datasourceId : DatasourceId) (data : μ)
  /-- A client takes a message from its queue. -/
  | get (q : ℕ)

/-- A step. Only queues that there are can be used. -/
def step (s : State μ) : Label μ → Option (State μ)
  | .subscribe datasourceId => some (s.subscribe datasourceId)
  | .unsubscribe datasourceId q => if q < s.created then some (s.unsubscribe datasourceId q) else none
  | .push datasourceId data => some (s.pushToSubscribers datasourceId data)
  | .get q =>
    if q < s.created then
      (s.queues q).get.map fun (data, queue) =>
        { s with queues := Function.update s.queues q queue, taken := Function.update s.taken q (s.taken q ++ [data]) }
    else none

/-! ## What there is to see -/

/-- The datasource of each subscription, all that has been pushed for it since, and whether it has been ended. -/
structure Feeds (μ : Type) where
  owner : ℕ → DatasourceId := fun _ => 0
  feed : ℕ → List μ := fun _ => []
  left : ℕ → Bool := fun _ => false
  created : ℕ := 0

/-- What a step adds to the feeds. -/
def Feeds.step (f : Feeds μ) : Label μ → Feeds μ
  | .subscribe datasourceId =>
    { f with owner := Function.update f.owner f.created datasourceId, created := f.created + 1 }
  | .unsubscribe datasourceId q =>
    { f with left := Function.update f.left q (f.left q || decide (f.owner q = datasourceId)) }
  | .push datasourceId data =>
    { f with feed := fun q => if q < f.created ∧ f.owner q = datasourceId then f.feed q ++ [data] else f.feed q }
  | .get _ => f

/-- The feeds after a run. -/
def feedsAfter (f : Feeds μ) (labels : List (Label μ)) : Feeds μ := labels.foldl Feeds.step f

/-- What a subscriber has got: what it has taken and what waits for it. -/
def State.received (s : State μ) (q : ℕ) : List μ := s.taken q ++ (s.queues q).items

/-- **A subscriber is served**: it has got its feed up to some message; all of it while it is on the list; and if it is
not, then it has unsubscribed, or it has missed a message when a full queue was waiting. -/
structure Served (f : Feeds μ) (s : State μ) (q : ℕ) : Prop where
  gapless : s.received q <+: f.feed q
  complete : q ∈ s.listed (f.owner q) → s.received q = f.feed q
  dropped : q ∉ s.listed (f.owner q) → f.left q = false →
    maxsize ≤ (s.received q).length ∧ (s.received q).length < (f.feed q).length

/-- **The invariant of a run.** -/
structure Consistent (f : Feeds μ) (s : State μ) : Prop where
  created : f.created = s.created
  entries : ∀ datasourceId queues, s.subscribers.lookup datasourceId = some queues →
    queues ≠ [] ∧ queues.Nodup ∧ ∀ q ∈ queues, q < s.created ∧ f.owner q = datasourceId
  fresh : ∀ q, s.created ≤ q → s.queues q = .empty ∧ s.taken q = [] ∧ f.feed q = [] ∧ f.left q = false
  served : ∀ q < s.created, Served f s q

/-! ## Pushing -/

/-- What a push makes of a queue: a full one is left alone. -/
def Queue.push (queue : Queue μ) (data : μ) : Queue μ := (queue.putNowait data).getD queue

/-- **What `put_nowait` on each queue of a list does.** -/
theorem putAll_spec (data : μ) {qs : List ℕ} (hqs : qs.Nodup) (queues : ℕ → Queue μ) :
    (∀ q, (putAll data qs queues).1 q = if q ∈ qs then (queues q).push data else queues q) ∧
      (putAll data qs queues).2 = qs.filter fun q => ((queues q).putNowait data).isNone := by
  induction qs generalizing queues with
  | nil => exact ⟨fun q => rfl, rfl⟩
  | cons p qs ih =>
    obtain ⟨hp, hqs⟩ := List.nodup_cons.mp hqs
    rcases hput : (queues p).putNowait data with _ | queue
    · -- the queue is full
      obtain ⟨hqueues, hdead⟩ := ih hqs queues
      have hputAll : putAll data (p :: qs) queues = ((putAll data qs queues).1, p :: (putAll data qs queues).2) := by
        rw [putAll, hput]
      rw [hputAll]
      refine ⟨fun q => ?_, ?_⟩
      · dsimp only
        rw [hqueues]
        by_cases hq : q = p
        · rw [hq, if_neg hp, if_pos List.mem_cons_self, Queue.push, hput]
          rfl
        · simp only [List.mem_cons, hq, false_or]
      · rw [List.filter_cons_of_pos (by rw [hput]; rfl), hdead]
    · obtain ⟨hqueues, hdead⟩ := ih hqs (Function.update queues p queue)
      have hputAll : putAll data (p :: qs) queues = putAll data qs (Function.update queues p queue) := by
        rw [putAll, hput]
      rw [hputAll]
      refine ⟨fun q => ?_, ?_⟩
      · rw [hqueues]
        by_cases hq : q = p
        · rw [hq, if_neg hp, if_pos List.mem_cons_self, Function.update_self, Queue.push, hput]
          rfl
        · simp only [List.mem_cons, hq, false_or, Function.update_of_ne hq]
      · rw [List.filter_cons_of_neg (by rw [hput]; exact Bool.false_ne_true), hdead]
        refine List.filter_congr fun q hq => ?_
        rw [Function.update_of_ne (ne_of_mem_of_not_mem hq hp)]

/-- A queue takes a message or is full. -/
theorem Queue.putNowait_cases (queue : Queue μ) (data : μ) :
    ((queue.putNowait data).isNone = false ∧ (queue.push data).items = queue.items ++ [data]) ∨
      ((queue.putNowait data).isNone = true ∧ queue.push data = queue ∧ queue.items.length = maxsize) := by
  by_cases h : queue.items.length < maxsize
  · rw [Queue.push, Queue.putNowait, dif_pos h]
    exact .inl ⟨rfl, rfl⟩
  · rw [Queue.push, Queue.putNowait, dif_neg h]
    exact .inr ⟨rfl, rfl, le_antisymm queue.bounded (not_lt.mp h)⟩

/-! ## The lists -/

variable {f : Feeds μ} {s t : State μ} {q : ℕ} {datasourceId : DatasourceId}

/-- What is listed after a list has been stored. -/
theorem lookup_store (subscribers : AList (fun _ : DatasourceId => List ℕ)) (datasourceId : DatasourceId)
    (queues : List ℕ) (other : DatasourceId) :
    (store subscribers datasourceId queues).lookup other =
      if other = datasourceId then (if queues = [] then none else some queues) else subscribers.lookup other := by
  unfold store
  split_ifs with hqueues hother hother
  · rw [hother, AList.lookup_erase]
  · rw [AList.lookup_erase_ne hother]
  · rw [hother, AList.lookup_insert]
  · rw [AList.lookup_insert_ne hother]

theorem getD_store (queues : List ℕ) : (if queues = [] then none else some queues).getD [] = queues := by
  split_ifs with hqueues
  · exact hqueues.symm
  · rfl

/-- The entries of the table are kept when a list is replaced by one with fewer queues. -/
theorem Consistent.entries_store (h : Consistent f s) {queues : List ℕ}
    (hqueues : s.subscribers.lookup datasourceId = some queues) {remaining : List ℕ} (hsub : remaining.Sublist queues) :
    ∀ other queues, (store s.subscribers datasourceId remaining).lookup other = some queues →
      queues ≠ [] ∧ queues.Nodup ∧ ∀ q ∈ queues, q < s.created ∧ f.owner q = other := by
  intro other queues' hlookup
  rw [lookup_store] at hlookup
  split_ifs at hlookup with hother hnil
  · cases hlookup
    obtain ⟨-, hnodup, hmem⟩ := h.entries _ _ hqueues
    exact ⟨hnil, hnodup.sublist hsub, fun q hq => hother ▸ hmem q (hsub.subset hq)⟩
  · exact h.entries _ _ hlookup

/-- A queue is only listed for its own datasource. -/
theorem Consistent.mem_listed (h : Consistent f s) (hq : q ∈ s.listed datasourceId) :
    q < s.created ∧ f.owner q = datasourceId := by
  rw [State.listed] at hq
  rcases hlookup : s.subscribers.lookup datasourceId with _ | queues
  · rw [hlookup] at hq
    cases hq
  · rw [hlookup] at hq
    exact (h.entries _ _ hlookup).2.2 q hq

theorem Consistent.nodup_listed (h : Consistent f s) (datasourceId : DatasourceId) : (s.listed datasourceId).Nodup := by
  rw [State.listed]
  rcases hlookup : s.subscribers.lookup datasourceId with _ | queues
  · exact List.nodup_nil
  · exact (h.entries _ _ hlookup).2.1

/-- A subscriber is served on as long as what it has got and what there is for it stay, and it stays on the list or
leaves. -/
theorem Served.of_eq {f' : Feeds μ} (h : Served f s q) (hreceived : t.received q = s.received q)
    (hfeed : f'.feed q = f.feed q) (hlisted : q ∈ t.listed (f'.owner q) → q ∈ s.listed (f.owner q))
    (hleft : q ∈ s.listed (f.owner q) → q ∉ t.listed (f'.owner q) → f'.left q = true)
    (hstays : f.left q = true → f'.left q = true) : Served f' t q where
  gapless := by
    rw [hreceived, hfeed]
    exact h.gapless
  complete hq := by
    rw [hreceived, hfeed]
    exact h.complete (hlisted hq)
  dropped hq hfalse := by
    rw [hreceived, hfeed]
    refine h.dropped (fun hmem => ?_) ?_
    · rw [hleft hmem hq] at hfalse
      cases hfalse
    · rw [← Bool.not_eq_true]
      intro htrue
      rw [hstays htrue] at hfalse
      cases hfalse

/-! ## The steps -/

/-- The lists after a subscription. -/
theorem State.listed_subscribe (datasourceId other : DatasourceId) : (s.subscribe datasourceId).listed other =
    if other = datasourceId then s.listed datasourceId ++ [s.created] else s.listed other := by
  rw [State.listed, State.subscribe]
  dsimp only
  split_ifs with hother
  · rw [hother, AList.lookup_insert, Option.getD_some]
  · rw [AList.lookup_insert_ne hother, State.listed]

/-- The owners of the old queues stay. -/
theorem Consistent.owner_subscribe (h : Consistent f s) (datasourceId : DatasourceId) (hq : q < s.created) :
    (f.step (.subscribe datasourceId)).owner q = f.owner q := by
  show Function.update f.owner f.created datasourceId q = f.owner q
  rw [h.created, Function.update_of_ne (Nat.ne_of_lt hq)]

/-- The new queue is of the datasource. -/
theorem Consistent.owner_created (h : Consistent f s) (datasourceId : DatasourceId) :
    (f.step (.subscribe datasourceId)).owner s.created = datasourceId := by
  show Function.update f.owner f.created datasourceId s.created = datasourceId
  rw [h.created, Function.update_self]

theorem Consistent.entries_subscribe (h : Consistent f s) (datasourceId : DatasourceId) :
    ∀ other queues, (s.subscribe datasourceId).subscribers.lookup other = some queues →
      queues ≠ [] ∧ queues.Nodup ∧
        ∀ q ∈ queues, q < s.created + 1 ∧ (f.step (.subscribe datasourceId)).owner q = other := by
  intro other queues hlookup
  rw [State.subscribe] at hlookup
  dsimp only at hlookup
  by_cases hother : other = datasourceId
  · subst hother
    rw [AList.lookup_insert] at hlookup
    cases hlookup
    refine ⟨List.append_ne_nil_of_right_ne_nil _ (List.cons_ne_nil _ _), ?_, fun q hq => ?_⟩
    · refine List.nodup_append.mpr ⟨h.nodup_listed other, List.nodup_singleton _, fun a ha b hb => ?_⟩
      rw [List.mem_singleton.mp hb]
      exact Nat.ne_of_lt (h.mem_listed ha).1
    · rcases List.mem_append.mp hq with hq | hq
      · obtain ⟨hlt, hown⟩ := h.mem_listed hq
        exact ⟨Nat.lt_succ_of_lt hlt, (h.owner_subscribe other hlt).trans hown⟩
      · rw [List.mem_singleton.mp hq]
        exact ⟨Nat.lt_succ_self _, h.owner_created other⟩
  · rw [AList.lookup_insert_ne hother] at hlookup
    obtain ⟨hne, hnodup, hmem⟩ := h.entries _ _ hlookup
    refine ⟨hne, hnodup, fun q hq => ?_⟩
    obtain ⟨hlt, hown⟩ := hmem q hq
    exact ⟨Nat.lt_succ_of_lt hlt, (h.owner_subscribe datasourceId hlt).trans hown⟩

theorem Consistent.subscribe (h : Consistent f s) (datasourceId : DatasourceId) :
    Consistent (f.step (.subscribe datasourceId)) (s.subscribe datasourceId) := by
  refine ⟨congrArg (· + 1) h.created, h.entries_subscribe datasourceId,
    fun q hq => h.fresh q ((Nat.le_succ _).trans hq), fun q hq => ?_⟩
  rcases Nat.lt_succ_iff_lt_or_eq.mp hq with hq | rfl
  · have hmem : q ∈ (s.subscribe datasourceId).listed ((f.step (.subscribe datasourceId)).owner q) ↔
        q ∈ s.listed (f.owner q) := by
      rw [h.owner_subscribe datasourceId hq, State.listed_subscribe]
      split_ifs with hother
      · rw [hother, List.mem_append, List.mem_singleton, or_iff_left (Nat.ne_of_lt hq)]
      · rfl
    exact (h.served q hq).of_eq rfl rfl hmem.mp (fun hin hout => absurd (hmem.mpr hin) hout) id
  · -- a new queue, and an empty feed
    obtain ⟨hqueue, htaken, hfeed, -⟩ := h.fresh s.created le_rfl
    have hreceived : (s.subscribe datasourceId).received s.created = [] := by
      show s.taken s.created ++ (s.queues s.created).items = []
      rw [htaken, hqueue]
      rfl
    refine ⟨hreceived ▸ List.nil_prefix, fun _ => hreceived.trans hfeed.symm, fun hout => ?_⟩
    rw [h.owner_created, State.listed_subscribe, if_pos rfl] at hout
    exact absurd (List.mem_append_right _ (List.mem_singleton_self _)) hout

theorem Consistent.unsubscribe (h : Consistent f s) (datasourceId : DatasourceId) {p : ℕ} (hp : p < s.created) :
    Consistent (f.step (.unsubscribe datasourceId p)) (s.unsubscribe datasourceId p) := by
  have hstays (q : ℕ) (hq : f.left q = true) : (f.step (.unsubscribe datasourceId p)).left q = true := by
    show Function.update f.left p _ q = true
    by_cases hqp : q = p
    · rw [hqp, Function.update_self, ← hqp, hq]
      rfl
    · rwa [Function.update_of_ne hqp]
  have hfresh (q : ℕ) (hq : s.created ≤ q) : (f.step (.unsubscribe datasourceId p)).left q = false := by
    show Function.update f.left p _ q = false
    rw [Function.update_of_ne (Nat.ne_of_gt (hp.trans_le hq)), (h.fresh q hq).2.2.2]
  rcases hlookup : s.subscribers.lookup datasourceId with _ | queues
  · -- there is no list
    have heq : s.unsubscribe datasourceId p = s := by rw [State.unsubscribe, hlookup]
    rw [heq]
    exact ⟨h.created, h.entries, fun q hq => ⟨(h.fresh q hq).1, (h.fresh q hq).2.1, (h.fresh q hq).2.2.1, hfresh q hq⟩,
      fun q hq => (h.served q hq).of_eq rfl rfl id (fun hin hout => absurd hin hout) (hstays q)⟩
  · have heq : s.unsubscribe datasourceId p =
        { s with subscribers := store s.subscribers datasourceId (queues.erase p) } := by
      rw [State.unsubscribe, hlookup]
    have hlisted (q : ℕ) : q ∈ (s.unsubscribe datasourceId p).listed (f.owner q) ↔
        q ∈ s.listed (f.owner q) ∧ ¬ (f.owner q = datasourceId ∧ q = p) := by
      rw [heq, State.listed, lookup_store]
      by_cases hother : f.owner q = datasourceId
      · rw [if_pos hother, getD_store, (h.entries _ _ hlookup).2.1.mem_erase_iff, State.listed, hother, hlookup,
          Option.getD_some]
        tauto
      · rw [if_neg hother, State.listed]
        tauto
    refine ⟨by rw [heq]; exact h.created, ?_, ?_, ?_⟩
    · rw [heq]
      exact h.entries_store hlookup List.erase_sublist
    · rw [heq]
      exact fun q hq => ⟨(h.fresh q hq).1, (h.fresh q hq).2.1, (h.fresh q hq).2.2.1, hfresh q hq⟩
    · intro q hq
      have hcreated : q < s.created := by
        rw [heq] at hq
        exact hq
      refine (h.served q hcreated).of_eq (by rw [heq]; rfl) rfl (fun hmem => ((hlisted q).mp hmem).1)
        (fun hin hout => ?_) (hstays q)
      -- it is off the list because it has left
      obtain ⟨hown, rfl⟩ : f.owner q = datasourceId ∧ q = p := by
        by_contra hne
        exact hout ((hlisted q).mpr ⟨hin, hne⟩)
      show Function.update f.left q (f.left q || decide (f.owner q = datasourceId)) q = true
      rw [Function.update_self, decide_eq_true hown, Bool.or_true]

/-- **What a push does**: it goes to the queues of the datasource, and takes those that are full off the list. -/
structure Pushed (datasourceId : DatasourceId) (data : μ) (s t : State μ) : Prop where
  created : t.created = s.created
  taken : t.taken = s.taken
  queues : ∀ q, t.queues q = if q ∈ s.listed datasourceId then (s.queues q).push data else s.queues q
  listed : ∀ q, q ∈ t.listed datasourceId ↔
    q ∈ s.listed datasourceId ∧ ((s.queues q).putNowait data).isNone = false
  others : ∀ other, other ≠ datasourceId → t.listed other = s.listed other

theorem Consistent.pushToSubscribers (h : Consistent f s) (datasourceId : DatasourceId) (data : μ) :
    Pushed datasourceId data s (s.pushToSubscribers datasourceId data) ∧
      ∀ other queues, (s.pushToSubscribers datasourceId data).subscribers.lookup other = some queues →
        queues ≠ [] ∧ queues.Nodup ∧ ∀ q ∈ queues, q < s.created ∧ f.owner q = other := by
  rcases hlookup : s.subscribers.lookup datasourceId with _ | queues
  · -- nobody listens
    have heq : s.pushToSubscribers datasourceId data = s := by rw [State.pushToSubscribers, hlookup]
    have hnil : s.listed datasourceId = [] := by rw [State.listed, hlookup]; rfl
    rw [heq]
    refine ⟨⟨rfl, rfl, fun q => ?_, fun q => ?_, fun other _ => rfl⟩, h.entries⟩
    · rw [hnil, if_neg List.not_mem_nil]
    · rw [hnil]
      exact ⟨fun hq => absurd hq List.not_mem_nil, fun hq => absurd hq.1 List.not_mem_nil⟩
  · obtain ⟨hne, hnodup, -⟩ := h.entries _ _ hlookup
    obtain ⟨hqueues, hdead⟩ := putAll_spec data hnodup s.queues
    have heq : s.pushToSubscribers datasourceId data = { s with
        queues := (putAll data queues s.queues).1
        subscribers := store s.subscribers datasourceId (queues.diff (putAll data queues s.queues).2) } := by
      rw [State.pushToSubscribers, hlookup]
      cases queues with
      | nil => exact absurd rfl hne
      | cons q qs => rfl
    have hlist : s.listed datasourceId = queues := by rw [State.listed, hlookup]; rfl
    rw [heq]
    refine ⟨⟨rfl, rfl, fun q => ?_, fun q => ?_, fun other hother => ?_⟩, h.entries_store hlookup (List.diff_sublist _ _)⟩
    · rw [hlist]
      exact hqueues q
    · rw [hlist, State.listed, lookup_store, if_pos rfl, getD_store, hnodup.mem_sdiff_iff, hdead, List.mem_filter]
      simp only [Bool.not_eq_true, not_and]
      tauto
    · rw [State.listed, lookup_store, if_neg hother, State.listed]

/-- A subscriber that is off the list misses a message. -/
theorem Served.miss {f' : Feeds μ} {data : μ} (h : Served f s q) (hreceived : t.received q = s.received q)
    (hfeed : f'.feed q = f.feed q ++ [data]) (hout : q ∉ s.listed (f.owner q)) (hout' : q ∉ t.listed (f'.owner q))
    (hleft : f'.left q = f.left q) : Served f' t q := by
  refine ⟨?_, fun hin => absurd hin hout', fun _ hstays => ?_⟩
  · rw [hreceived, hfeed]
    exact h.gapless.trans (List.prefix_append _ _)
  · obtain ⟨hlong, hless⟩ := h.dropped hout (hleft ▸ hstays)
    rw [hreceived, hfeed, List.length_append]
    exact ⟨hlong, Nat.lt_succ_of_lt hless⟩

/-- A subscriber on the list gets a message, or its queue is full and it is taken off. -/
theorem Served.push {f' : Feeds μ} {data : μ} (h : Served f s q) (hpushed : Pushed (f.owner q) data s t)
    (hfeed : f'.feed q = f.feed q ++ [data]) (howner : f'.owner q = f.owner q) (hin : q ∈ s.listed (f.owner q)) :
    Served f' t q := by
  have hcomplete := h.complete hin
  have hreceived : t.received q = s.taken q ++ ((s.queues q).push data).items := by
    rw [State.received, hpushed.taken, hpushed.queues, if_pos hin]
  rcases (s.queues q).putNowait_cases data with ⟨hnone, hitems⟩ | ⟨hnone, hsame, hfull⟩
  · have hall : t.received q = f'.feed q := by
      rw [hreceived, hitems, ← List.append_assoc, hfeed, ← hcomplete]
      rfl
    refine ⟨hall ▸ List.prefix_rfl, fun _ => hall, fun hout => ?_⟩
    exact absurd ((hpushed.listed q).mpr ⟨hin, hnone⟩) (howner ▸ hout)
  · have hold : t.received q = f.feed q := by
      rw [hreceived, hsame]
      exact hcomplete
    refine ⟨?_, fun hstill => ?_, fun _ _ => ?_⟩
    · rw [hold, hfeed]
      exact List.prefix_append _ _
    · have hstill' := ((hpushed.listed q).mp (howner ▸ hstill)).2
      rw [hnone] at hstill'
      cases hstill'
    · rw [hold, hfeed, List.length_append, ← hcomplete, State.received, List.length_append, hfull]
      exact ⟨Nat.le_add_left _ _, Nat.lt_succ_self _⟩

theorem Consistent.push (h : Consistent f s) (datasourceId : DatasourceId) (data : μ) :
    Consistent (f.step (.push datasourceId data)) (s.pushToSubscribers datasourceId data) := by
  obtain ⟨hpushed, hentries⟩ := h.pushToSubscribers datasourceId data
  have huntouched (q : ℕ) (hq : q ∉ s.listed datasourceId) :
      (s.pushToSubscribers datasourceId data).queues q = s.queues q := by rw [hpushed.queues, if_neg hq]
  have hreceived (q : ℕ) (hq : q ∉ s.listed datasourceId) :
      (s.pushToSubscribers datasourceId data).received q = s.received q := by
    rw [State.received, hpushed.taken, huntouched q hq, State.received]
  refine ⟨h.created.trans hpushed.created.symm, fun other queues hlookup => ?_, fun q hq => ?_, fun q hq => ?_⟩
  · rw [hpushed.created]
    exact hentries other queues hlookup
  · rw [hpushed.created] at hq
    have hout : q ∉ s.listed datasourceId := fun hin => absurd (h.mem_listed hin).1 (Nat.not_lt.mpr hq)
    have hfeed : (f.step (.push datasourceId data)).feed q = f.feed q := if_neg fun hand => by
      rw [h.created] at hand
      exact absurd hand.1 (Nat.not_lt.mpr hq)
    rw [huntouched q hout, hpushed.taken, hfeed]
    exact h.fresh q hq
  · rw [hpushed.created] at hq
    have hserved := h.served q hq
    by_cases hown : f.owner q = datasourceId
    · have hfeed : (f.step (.push datasourceId data)).feed q = f.feed q ++ [data] :=
        if_pos ⟨h.created.symm ▸ hq, hown⟩
      subst hown
      by_cases hin : q ∈ s.listed (f.owner q)
      · exact hserved.push hpushed hfeed rfl hin
      · exact hserved.miss (hreceived q hin) hfeed hin (fun hstill => hin ((hpushed.listed q).mp hstill).1) rfl
    · have hout : q ∉ s.listed datasourceId := fun hin => hown (h.mem_listed hin).2
      have hfeed : (f.step (.push datasourceId data)).feed q = f.feed q := if_neg fun hand => hown hand.2
      have hlisted := hpushed.others (f.owner q) hown
      exact hserved.of_eq (hreceived q hout) hfeed (fun hin => hlisted ▸ hin)
        (fun hin hout => absurd (hlisted.symm ▸ hin) hout) id

/-- What is taken from a queue was in it first. -/
theorem Queue.get_eq {queue queue' : Queue μ} {data : μ} (h : queue.get = some (data, queue')) :
    queue.items = data :: queue'.items := by
  obtain ⟨_ | ⟨d, items⟩, hbounded⟩ := queue
  · cases h
  · cases h
    rfl

theorem Consistent.get (h : Consistent f s) {p : ℕ} (hp : p < s.created) {data : μ} {queue : Queue μ}
    (hget : (s.queues p).get = some (data, queue)) :
    Consistent f { s with
      queues := Function.update s.queues p queue
      taken := Function.update s.taken p (s.taken p ++ [data]) } := by
  refine ⟨h.created, h.entries, fun q hq => ?_, fun q hq => ?_⟩
  · have hne : q ≠ p := Nat.ne_of_gt (hp.trans_le hq)
    dsimp only
    rw [Function.update_of_ne hne, Function.update_of_ne hne]
    exact h.fresh q hq
  · refine (h.served q hq).of_eq ?_ rfl id (fun hin hout => absurd hin hout) id
    rw [State.received]
    dsimp only
    by_cases hqp : q = p
    · rw [hqp, Function.update_self, Function.update_self, State.received, Queue.get_eq hget, List.append_assoc]
      rfl
    · rw [Function.update_of_ne hqp, Function.update_of_ne hqp, State.received]

theorem Consistent.step {label : Label μ} (h : Consistent f s)
    (hstep : MetricSubscriptions.step s label = some t) : Consistent (f.step label) t := by
  cases label with
  | subscribe datasourceId =>
    cases hstep
    exact h.subscribe datasourceId
  | unsubscribe datasourceId q =>
    rw [MetricSubscriptions.step] at hstep
    split_ifs at hstep with hq
    cases hstep
    exact h.unsubscribe datasourceId hq
  | push datasourceId data =>
    cases hstep
    exact h.push datasourceId data
  | get q =>
    rw [MetricSubscriptions.step] at hstep
    split_ifs at hstep with hq
    obtain ⟨⟨data, queue⟩, hget, rfl⟩ := Option.map_eq_some_iff.mp hstep
    exact h.get hq hget

/-! ## Runs -/

theorem consistent_start : Consistent ({} : Feeds μ) {} where
  created := rfl
  entries datasourceId queues hlookup := by
    rw [AList.lookup_empty] at hlookup
    cases hlookup
  fresh q _ := ⟨rfl, rfl, rfl, rfl⟩
  served q hq := absurd hq (Nat.not_lt_zero q)

theorem Consistent.run {labels : List (Label μ)} (h : Consistent f s)
    (hrun : Run MetricSubscriptions.step Always s labels t) : Consistent (feedsAfter f labels) t := by
  induction hrun generalizing f with
  | nil => exact h
  | cons _ hstep _ ih => exact ih (h.step hstep)

/-- **Every subscriber is served**, in every run of subscriptions, pushes and clients that take their messages or do
not: what it has got is its feed up to some message, all of it while it is listed, and a subscriber is only dropped
when it has missed a message because its queue was full; and no datasource keeps an empty list. -/
theorem served_of_run {labels : List (Label μ)} (hrun : Run MetricSubscriptions.step Always {} labels t) :
    (∀ q < t.created, Served (feedsAfter {} labels) t q) ∧
      ∀ datasourceId, t.subscribers.lookup datasourceId ≠ some [] := by
  have hconsistent := consistent_start.run hrun
  exact ⟨hconsistent.served, fun datasourceId hlookup => (hconsistent.entries _ _ hlookup).1 rfl⟩

/-- A run with a message. -/
theorem served_message : Served (feedsAfter {} [.subscribe 1, .push 1 'a'])
    (State.pushToSubscribers (State.subscribe {} 1) 1 'a') 0 :=
  (served_of_run (.cons trivial rfl (.cons trivial rfl (.nil _)))).1 0 Nat.zero_lt_one

end DBClaw.MetricSubscriptions
