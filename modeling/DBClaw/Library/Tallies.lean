import Mathlib

/-! # Tallies
One pass over a list of events keeps, for each key, what has come of the events with that key. What is kept of a key
depends on its own events only (`lookup_foldl_modify`). -/

namespace DBClaw.Tallies

variable {ε κ σ : Type} [DecidableEq κ]

/-- `m[k] = f(m.get(k))`. -/
def modify (m : AList fun _ : κ => σ) (k : κ) (f : Option σ → σ) : AList fun _ : κ => σ := m.insert k (f (m.lookup k))

theorem lookup_modify (m : AList fun _ : κ => σ) (k : κ) (f : Option σ → σ) (k' : κ) :
    (modify m k f).lookup k' = if k' = k then some (f (m.lookup k)) else m.lookup k' := by
  rw [modify]
  split_ifs with h
  · rw [h, AList.lookup_insert]
  · rw [AList.lookup_insert_ne h]

/-- What the events with one key make of a value. -/
def run (update : ε → Option σ → σ) (events : List ε) (start : Option σ) : Option σ :=
  events.foldl (fun value e => some (update e value)) start

@[simp] theorem run_nil (update : ε → Option σ → σ) (start : Option σ) : run update [] start = start := rfl

@[simp] theorem run_cons (update : ε → Option σ → σ) (e : ε) (events : List ε) (start : Option σ) :
    run update (e :: events) start = run update events (some (update e start)) := rfl

theorem run_append_singleton (update : ε → Option σ → σ) (events : List ε) (e : ε) (start : Option σ) :
    run update (events ++ [e]) start = some (update e (run update events start)) := by
  rw [run, List.foldl_append]
  rfl

/-- A pass over the events. -/
def pass (key : ε → κ) (update : ε → Option σ → σ) (events : List ε) (m : AList fun _ : κ => σ) : AList fun _ : κ => σ :=
  events.foldl (fun m e => modify m (key e) (update e)) m

/-- **What a pass keeps of a key** is what its own events make of it. -/
theorem lookup_pass (key : ε → κ) (update : ε → Option σ → σ) (events : List ε) (m : AList fun _ : κ => σ) (k : κ) :
    (pass key update events m).lookup k = run update (events.filter fun e => key e = k) (m.lookup k) := by
  induction events generalizing m with
  | nil => rfl
  | cons e events ih =>
    rw [pass, List.foldl_cons, ← pass, ih, lookup_modify]
    by_cases h : key e = k
    · rw [if_pos h.symm, List.filter_cons_of_pos (by simpa using h), run_cons, h]
    · rw [if_neg (Ne.symm h), List.filter_cons_of_neg (by simpa using h)]

/-- A value is kept as soon as there is an event. -/
theorem run_isSome (update : ε → Option σ → σ) {events : List ε} (h : events ≠ []) (start : Option σ) :
    (run update events start).isSome := by
  cases events using List.reverseRecOn with
  | nil => exact absurd rfl h
  | append_singleton events e =>
    rw [run_append_singleton]
    rfl

/-- The keys that are kept after a pass are those of the events. -/
theorem mem_keys_pass (key : ε → κ) (update : ε → Option σ → σ) (events : List ε) (k : κ) :
    k ∈ (pass key update events ∅).keys ↔ ∃ e ∈ events, key e = k := by
  have hlookup := lookup_pass key update events ∅ k
  rw [← AList.mem_keys, ← AList.lookup_isSome, hlookup, AList.lookup_empty]
  constructor
  · intro hsome
    by_contra hnone
    have hnil : events.filter (fun e => decide (key e = k)) = [] := by
      rw [List.filter_eq_nil_iff]
      intro e he hk
      exact hnone ⟨e, he, of_decide_eq_true hk⟩
    rw [hnil] at hsome
    cases hsome
  · rintro ⟨e, he, hk⟩
    exact run_isSome update (List.ne_nil_of_mem (List.mem_filter.mpr ⟨he, decide_eq_true hk⟩)) none

/-! ## Values in the order of the keys -/

section KeyOrder

variable {κ σ : Type} [LinearOrder κ]

/-- `[m[k] for k in sorted(m.keys())]`. -/
def inKeyOrder (m : AList fun _ : κ => σ) : List σ := (m.keys.mergeSort (· ≤ ·)).filterMap fun k => m.lookup k

/-- **The values in the order of the keys** are those of any list with the entries of the table in that order. -/
theorem inKeyOrder_eq {m : AList fun _ : κ => σ} {entries : List (κ × σ)}
    (hsorted : (entries.map Prod.fst).Pairwise (· < ·)) (h : ∀ k v, m.lookup k = some v ↔ (k, v) ∈ entries) :
    inKeyOrder m = entries.map Prod.snd := by
  have hmem (k : κ) : k ∈ m.keys ↔ k ∈ entries.map Prod.fst := by
    rw [← AList.mem_keys, ← AList.lookup_isSome, Option.isSome_iff_exists, List.mem_map]
    constructor
    · rintro ⟨v, hv⟩
      exact ⟨(k, v), (h k v).mp hv, rfl⟩
    · rintro ⟨⟨k', v⟩, hv, rfl⟩
      exact ⟨v, (h k' v).mpr hv⟩
  have hperm : (m.keys.mergeSort (· ≤ ·)).Perm (entries.map Prod.fst) :=
    (List.mergeSort_perm _ _).trans
      ((List.perm_ext_iff_of_nodup m.keys_nodup (hsorted.imp fun hlt => ne_of_lt hlt)).mpr hmem)
  have hkeys : m.keys.mergeSort (· ≤ ·) = entries.map Prod.fst :=
    hperm.eq_of_sortedLE (List.sortedLE_mergeSort) (hsorted.imp fun hlt => le_of_lt hlt).sortedLE
  rw [inKeyOrder, hkeys, List.filterMap_map]
  exact (List.filterMap_congr fun entry hentry => (h entry.1 entry.2).mpr hentry).trans
    (congrFun List.filterMap_eq_map' entries)

/-- The values in the order of the keys depend on what is found under them. -/
theorem inKeyOrder_congr {m m' : AList fun _ : κ => σ} (h : ∀ k, m.lookup k = m'.lookup k) :
    inKeyOrder m = inKeyOrder m' := by
  have hmem (k : κ) : k ∈ m.keys ↔ k ∈ m'.keys := by
    rw [← AList.mem_keys, ← AList.mem_keys, ← AList.lookup_isSome, ← AList.lookup_isSome, h]
  have hperm : (m.keys.mergeSort (· ≤ ·)).Perm (m'.keys.mergeSort (· ≤ ·)) :=
    (List.mergeSort_perm _ _).trans
      (((List.perm_ext_iff_of_nodup m.keys_nodup m'.keys_nodup).mpr hmem).trans (List.mergeSort_perm _ _).symm)
  rw [inKeyOrder, inKeyOrder, hperm.eq_of_sortedLE List.sortedLE_mergeSort List.sortedLE_mergeSort]
  exact List.filterMap_congr fun k _ => h k

end KeyOrder

end DBClaw.Tallies
