import Mathlib

/-! # Queries with an order and a limit
A query with an order and a limit returns the first rows of a descending list. Ties may come in any order, so the
answer is a relation (`Newest`), and a database is one choice of it (`Descending`). Limiting by one key and selecting
afterwards is not the same as selecting first and limiting by another key: `newest_filter_take_iff` says when it is. -/

namespace DBClaw.OrderedQueries

variable {α κ : Type} [LinearOrder κ]

/-- No row is followed by one with a greater key. -/
def IsDescending (key : α → κ) (rows : List α) : Prop := rows.Pairwise fun a b => key b ≤ key a

/-- **`ORDER BY key DESC`**, in some order among equal keys. -/
structure Descending (key : α → κ) where
  sort : List α → List α
  perm : ∀ rows, (sort rows).Perm rows
  descending : ∀ rows, IsDescending key (sort rows)

/-- Equal keys in the order of the rows. -/
def Descending.stable (key : α → κ) : Descending key where
  sort rows := rows.mergeSort fun a b => decide (key b ≤ key a)
  perm rows := List.mergeSort_perm rows _
  descending rows := by
    have hsorted := @List.pairwise_mergeSort _ (fun a b => decide (key b ≤ key a))
      (fun a b c hab hbc => decide_eq_true ((of_decide_eq_true hbc).trans (of_decide_eq_true hab)))
      (fun a b => by simpa [Bool.or_eq_true] using (le_total (key b) (key a))) rows
    exact hsorted.imp fun h => of_decide_eq_true h

/-- **The answer has the `limit` rows with the greatest keys, in descending order.** -/
def Newest (key : α → κ) (limit : ℕ) (rows answer : List α) : Prop :=
  ∃ sorted : List α, sorted.Perm rows ∧ IsDescending key sorted ∧ answer = sorted.take limit

variable {key : α → κ} {limit : ℕ} {rows answer rest : List α}

theorem isDescending_append {xs ys : List α} :
    IsDescending key (xs ++ ys) ↔
      IsDescending key xs ∧ IsDescending key ys ∧ ∀ x ∈ xs, ∀ y ∈ ys, key y ≤ key x :=
  List.pairwise_append

/-- A database returns the newest rows. -/
theorem newest_take (d : Descending key) (limit : ℕ) (rows : List α) :
    Newest key limit rows ((d.sort rows).take limit) :=
  ⟨d.sort rows, d.perm rows, d.descending rows, rfl⟩

/-- **Some rows are the newest when** they are in order, the others are no newer, and there are `limit` of them or
no others. -/
theorem newest_iff_of_perm (hperm : (answer ++ rest).Perm rows) (hlength : answer.length ≤ limit) :
    Newest key limit rows answer ↔
      IsDescending key answer ∧ (rest = [] ∨ answer.length = limit ∧ ∀ a ∈ answer, ∀ b ∈ rest, key b ≤ key a) := by
  constructor
  · rintro ⟨sorted, hsorted, hdescending, rfl⟩
    rw [← List.take_append_drop limit sorted, isDescending_append] at hdescending
    obtain ⟨htake, -, hcross⟩ := hdescending
    have hrest : rest.Perm (sorted.drop limit) := by
      refine (List.perm_append_left_iff (sorted.take limit)).mp ?_
      rw [List.take_append_drop]
      exact hperm.trans hsorted.symm
    refine ⟨htake, ?_⟩
    by_cases hshort : sorted.length ≤ limit
    · rw [List.drop_eq_nil_of_le hshort] at hrest
      exact .inl hrest.eq_nil
    · refine .inr ⟨List.length_take_of_le (by omega), fun a ha b hb => ?_⟩
      exact hcross a ha b (hrest.mem_iff.mp hb)
  · rintro ⟨hdescending, rfl | ⟨hfull, hcross⟩⟩
    · refine ⟨answer, by rwa [List.append_nil] at hperm, hdescending, ?_⟩
      rw [List.take_of_length_le hlength]
    · -- the other rows follow in an order of their own
      have hsort := Descending.stable key
      refine ⟨answer ++ hsort.sort rest, ((hsort.perm rest).append_left answer).trans hperm, ?_, ?_⟩
      · refine isDescending_append.mpr ⟨hdescending, hsort.descending rest, fun a ha b hb => ?_⟩
        exact hcross a ha b ((hsort.perm rest).mem_iff.mp hb)
      · rw [List.take_left' hfull]

/-- **Selecting after the limit is right when** the selected rows are in order, and either no selected row is beyond
the limit, or the rows within it are `limit` selected ones and no selected one beyond it is newer. -/
theorem newest_filter_take_iff {β : Type} [LinearOrder β] {other : α → β} (d : Descending other) (select : α → Bool)
    (limit : ℕ) (rows : List α) :
    let within := (d.sort rows).take limit
    let beyond := (d.sort rows).drop limit
    Newest key limit (rows.filter select) (within.filter select) ↔
      IsDescending key (within.filter select) ∧
        ((∀ r ∈ beyond, select r = false) ∨
          within.length = limit ∧ (∀ r ∈ within, select r = true) ∧
            ∀ a ∈ within, ∀ b ∈ beyond, select b = true → key b ≤ key a) := by
  intro within beyond
  have hperm : (within.filter select ++ beyond.filter select).Perm (rows.filter select) := by
    rw [← List.filter_append, List.take_append_drop]
    exact (d.perm rows).filter select
  have hwithin : within.length ≤ limit := List.length_take_le limit _
  have hselected : (within.filter select).length ≤ within.length := List.length_filter_le select within
  rw [newest_iff_of_perm hperm (hselected.trans hwithin)]
  refine and_congr_right fun _ => or_congr ?_ ?_
  · rw [List.filter_eq_nil_iff]
    simp only [Bool.not_eq_true]
  · constructor
    · rintro ⟨hfull, hcross⟩
      have hall : ∀ r ∈ within, select r = true :=
        List.length_filter_eq_length_iff.mp (le_antisymm hselected (hwithin.trans hfull.ge))
      rw [List.filter_eq_self.mpr hall] at hfull hcross
      exact ⟨hfull, hall, fun a ha b hb hselect => hcross a ha b (List.mem_filter.mpr ⟨hb, hselect⟩)⟩
    · rintro ⟨hfull, hall, hcross⟩
      rw [List.filter_eq_self.mpr hall]
      refine ⟨hfull, fun a ha b hb => ?_⟩
      obtain ⟨hbeyond, hselect⟩ := List.mem_filter.mp hb
      exact hcross a ha b hbeyond hselect

end DBClaw.OrderedQueries
