import Mathlib.Data.List.Nodup

/-! # Updating the item of a key
Some items of a list have a key. To upsert a key is to update the first item that has it, in its place, and
to add a fresh item at the end where there is none. So the keys of a list stay in the order in which they
came. -/

namespace DBClaw.Upserts

variable {α κ : Type*} [DecidableEq κ]

/-- The first item with the key is updated, or else an updated fresh item is added. -/
def upsert (key : α → Option κ) (k : κ) (f : α → α) (fresh : α) : List α → List α
  | [] => [f fresh]
  | a :: l => if key a = some k then f a :: l else a :: upsert key k f fresh l

variable {key : α → Option κ} {k : κ} {f : α → α} {fresh : α}

omit [DecidableEq κ] in
/-- The keys of a list. -/
theorem mem_keys_cons {a : α} {l : List α} :
    k ∈ (a :: l).filterMap key ↔ key a = some k ∨ k ∈ l.filterMap key := by
  simp [List.mem_filterMap]

/-- A new key comes last. -/
theorem upsert_of_not_mem {l : List α} (h : k ∉ l.filterMap key) :
    upsert key k f fresh l = l ++ [f fresh] := by
  induction l with
  | nil => rfl
  | cons a l ih =>
    rw [mem_keys_cons, not_or] at h
    rw [upsert, if_neg h.1, ih h.2, List.cons_append]

/-- The first item with the key is the one that is updated. -/
theorem upsert_append {before after : List α} {a : α} (hbefore : k ∉ before.filterMap key)
    (ha : key a = some k) : upsert key k f fresh (before ++ a :: after) = before ++ f a :: after := by
  induction before with
  | nil => rw [List.nil_append, upsert, if_pos ha, List.nil_append]
  | cons b before ih =>
    rw [mem_keys_cons, not_or] at hbefore
    rw [List.cons_append, upsert, if_neg hbefore.1, ih hbefore.2, List.cons_append]

/-- A key that is there has a first item. -/
theorem exists_first {l : List α} (h : k ∈ l.filterMap key) :
    ∃ before a after, l = before ++ a :: after ∧ k ∉ before.filterMap key ∧ key a = some k := by
  induction l with
  | nil => simp at h
  | cons b l ih =>
    by_cases hb : key b = some k
    · exact ⟨[], b, l, rfl, by simp, hb⟩
    · obtain ⟨before, a, after, rfl, hbefore, ha⟩ := ih ((mem_keys_cons.mp h).resolve_left hb)
      exact ⟨b :: before, a, after, rfl, fun hmem => (mem_keys_cons.mp hmem).elim hb hbefore, ha⟩

/-- **What an upsert does**: it adds an item at the end, or updates the one that is there. -/
theorem upsert_cases (key : α → Option κ) (k : κ) (f : α → α) (fresh : α) (l : List α) :
    (k ∉ l.filterMap key ∧ upsert key k f fresh l = l ++ [f fresh]) ∨
      ∃ before a after, l = before ++ a :: after ∧ k ∉ before.filterMap key ∧ key a = some k ∧
        upsert key k f fresh l = before ++ f a :: after := by
  by_cases h : k ∈ l.filterMap key
  · obtain ⟨before, a, after, rfl, hbefore, ha⟩ := exists_first h
    exact .inr ⟨before, a, after, rfl, hbefore, ha, upsert_append hbefore ha⟩
  · exact .inl ⟨h, upsert_of_not_mem h⟩

/-- **The keys after an upsert**, if updating an item keeps its key: a new one comes last. -/
theorem keys_upsert (hf : ∀ a, key (f a) = key a) (hfresh : key fresh = some k) (l : List α) :
    (upsert key k f fresh l).filterMap key = l.filterMap key ∨
      k ∉ l.filterMap key ∧ (upsert key k f fresh l).filterMap key = l.filterMap key ++ [k] := by
  obtain ⟨hnew, heq⟩ | ⟨before, a, after, rfl, -, -, heq⟩ := upsert_cases key k f fresh l
  · refine .inr ⟨hnew, ?_⟩
    rw [heq, List.filterMap_append, List.filterMap_cons, hf, hfresh, List.filterMap_nil]
  · refine .inl ?_
    rw [heq, List.filterMap_append, List.filterMap_append, List.filterMap_cons, List.filterMap_cons, hf]

/-- **What is found after an upsert**: the updated item under its key, and the others as before. -/
theorem find?_upsert (hf : ∀ a, key (f a) = key a) (hfresh : key fresh = some k) (l : List α) (k' : κ) :
    (upsert key k f fresh l).find? (fun a => key a = some k') =
      if k' = k then some (f ((l.find? fun a => key a = some k).getD fresh))
      else l.find? fun a => key a = some k' := by
  induction l with
  | nil =>
    by_cases hk : k' = k
    · simp [upsert, hf, hfresh, hk]
    · simp [upsert, hf, hfresh, hk, Ne.symm hk]
  | cons a l ih =>
    by_cases ha : key a = some k
    · by_cases hk : k' = k
      · subst hk
        simp [upsert, ha, hf]
      · simp [upsert, ha, hf, hk, Ne.symm hk]
    · rw [upsert, if_neg ha, List.find?_cons, ih]
      by_cases hk : k' = k
      · subst hk
        simp [ha]
      · by_cases ha' : key a = some k' <;> simp [ha', hk]

/-- No key comes twice. -/
theorem nodup_upsert (hf : ∀ a, key (f a) = key a) (hfresh : key fresh = some k) {l : List α}
    (h : (l.filterMap key).Nodup) : ((upsert key k f fresh l).filterMap key).Nodup := by
  obtain hsame | ⟨hnew, hlast⟩ := keys_upsert hf hfresh l
  · rwa [hsame]
  · rw [hlast]
    exact h.append (List.nodup_singleton k) (by simpa using hnew)

section Dictionaries

variable {α : Type*} {d : List (String × α)} {key name : String} {value : α}

/-- `d[key] = value`, which keeps the place of a key that is there. -/
def setItem (d : List (String × α)) (key : String) (value : α) : List (String × α) :=
  upsert (fun entry => some entry.1) key (fun entry => (entry.1, value)) (key, value) d

/-- What a dictionary holds after a key is set. -/
theorem lookup_setItem :
    (setItem d key value).lookup name = if name = key then some value else d.lookup name := by
  unfold setItem
  induction d with
  | nil =>
    rw [upsert, List.lookup_cons, List.lookup_nil]
    by_cases h : name = key
    · simp [h]
    · rw [if_neg h, beq_false_of_ne h]
  | cons entry d ih =>
    obtain ⟨other, x⟩ := entry
    by_cases hother : other = key
    · subst hother
      rw [upsert, if_pos rfl, List.lookup_cons, List.lookup_cons]
      by_cases h : name = other
      · simp [h]
      · rw [if_neg h, beq_false_of_ne h]
    · rw [upsert, if_neg (by simpa using hother), List.lookup_cons, List.lookup_cons, ih]
      by_cases h : name = other
      · simp [h, hother]
      · rw [beq_false_of_ne h]

/-- Setting a key does not make one come twice. -/
theorem nodup_setItem (h : (d.map Prod.fst).Nodup) : ((setItem d key value).map Prod.fst).Nodup := by
  have hkeys (d : List (String × α)) : d.filterMap (fun entry => some entry.1) = d.map Prod.fst :=
    congrFun List.filterMap_eq_map d
  rw [← hkeys] at h ⊢
  exact @nodup_upsert (String × α) String _ (fun entry => some entry.1) key
    (fun entry => (entry.1, value)) (key, value) (fun _ => rfl) rfl d h

/-- Setting a key commutes with a change of all values. -/
theorem map_setItem {β : Type*} {f : α → β} :
    (setItem d key value).map (fun entry => (entry.1, f entry.2)) =
      setItem (d.map fun entry => (entry.1, f entry.2)) key (f value) := by
  unfold setItem
  induction d with
  | nil => rfl
  | cons entry d ih =>
    by_cases h : entry.1 = key
    · simp [upsert, h]
    · simp [upsert, h, ih]

/-- Where no key comes twice, an entry is what is found under its key. -/
theorem mem_iff_lookup (h : (d.map Prod.fst).Nodup) : (key, value) ∈ d ↔ d.lookup key = some value := by
  induction d with
  | nil => simp
  | cons entry d ih =>
    obtain ⟨other, x⟩ := entry
    rw [List.map_cons, List.nodup_cons] at h
    rw [List.mem_cons, List.lookup_cons, ih h.2]
    by_cases hkey : key = other
    · subst hkey
      have hnone : d.lookup key ≠ some value := fun hsome =>
        h.1 (List.mem_map.mpr ⟨(key, value), (ih h.2).mpr hsome, rfl⟩)
      simp [hnone, eq_comm]
    · simp [hkey, beq_false_of_ne hkey]

end Dictionaries

end DBClaw.Upserts
