import Mathlib.Algebra.BigOperators.Group.Finset.Basic

/-! # Ledgers
A ledger is a list of entries, each an amount for an account. The balance of an account is the sum of its
entries, and the sum of all entries is the sum of the balances. -/

namespace DBClaw.Ledgers

open Finset

variable {κ M : Type*} [DecidableEq κ] [AddCommMonoid M]

/-- The sum of the entries of an account. -/
def balance (entries : List (κ × M)) (k : κ) : M := ((entries.filter (·.1 = k)).map Prod.snd).sum

/-- The sum of all entries. -/
def total (entries : List (κ × M)) : M := (entries.map Prod.snd).sum

@[simp] theorem balance_nil (k : κ) : balance ([] : List (κ × M)) k = 0 := rfl

omit [DecidableEq κ] in
@[simp] theorem total_nil : total ([] : List (κ × M)) = 0 := rfl

theorem balance_append (entries more : List (κ × M)) (k : κ) :
    balance (entries ++ more) k = balance entries k + balance more k := by
  simp [balance]

/-- An entry counts for its account. -/
@[simp] theorem balance_append_self (entries : List (κ × M)) (k : κ) (m : M) :
    balance (entries ++ [(k, m)]) k = balance entries k + m := by
  simp [balance]

/-- And for no other. -/
theorem balance_append_of_ne (entries : List (κ × M)) {k k' : κ} (h : k' ≠ k) (m : M) :
    balance (entries ++ [(k, m)]) k' = balance entries k' := by
  simp [balance, h.symm]

omit [DecidableEq κ] in
@[simp] theorem total_append_singleton (entries : List (κ × M)) (x : κ × M) :
    total (entries ++ [x]) = total entries + x.2 := by
  simp [total]

/-- The balances of all accounts that occur add up to the total. -/
theorem sum_balance {entries : List (κ × M)} {accounts : Finset κ} (h : ∀ x ∈ entries, x.1 ∈ accounts) :
    ∑ k ∈ accounts, balance entries k = total entries := by
  induction entries using List.reverseRecOn with
  | nil => simp
  | append_singleton entries x ih =>
    have hx : x.1 ∈ accounts := h x (by simp)
    have hsum : ∑ k ∈ accounts, balance [x] k = x.2 := by
      rw [sum_eq_single x.1]
      · simp [balance]
      · intro k _ hk
        simp [balance, hk.symm]
      · exact fun hnot => absurd hx hnot
    simp only [balance_append, sum_add_distrib, hsum, total_append_singleton]
    rw [ih fun y hy => h y (by simp [hy])]

/-- **The balances of all accounts that are not empty add up to the total.** -/
theorem sum_balance_eq_total {entries : List (κ × M)} {accounts : Finset κ}
    (h : ∀ k, balance entries k ≠ 0 → k ∈ accounts) :
    ∑ k ∈ accounts, balance entries k = total entries := by
  rw [← @sum_balance κ M _ _ entries (accounts ∪ (entries.map Prod.fst).toFinset)]
  · refine sum_subset subset_union_left fun k _ hk => ?_
    by_contra hne
    exact hk (h k hne)
  · intro x hx
    exact mem_union_right _ (by simpa using ⟨x.2, hx⟩)

end DBClaw.Ledgers
