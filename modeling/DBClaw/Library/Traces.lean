import DBClaw.Library.Runs
import Mathlib.Order.WellFounded

/-! # Infinite traces of a labelled transition system
A trace goes on for ever: a state for each number, and the label that leads to the next one. What
happens again and again in it, and what happens at last, are statements about its tails. The rule for
the latter is `Trace.leadsTo`: a goal is reached where the moves of one party bring it nearer, no other
step takes it farther away, and the party is scheduled fairly. -/

namespace DBClaw.Runs

variable {σ α : Type*} {step : σ → α → Option σ} {s : σ}

/-- **Traces** from a state. -/
structure Trace (step : σ → α → Option σ) (s : σ) where
  state : ℕ → σ
  label : ℕ → α
  start : state 0 = s
  next : ∀ n, step (state n) (label n) = some (state (n + 1))

namespace Trace

/-- The trace that stays in one state. -/
def idle {a : α} (h : step s a = some s) : Trace step s where
  state _ := s
  label _ := a
  start := rfl
  next _ := h

/-- One step, and then a trace. -/
def cons {t : σ} {a : α} (h : step s a = some t) (ρ : Trace step t) : Trace step s where
  state
    | 0 => s
    | n + 1 => ρ.state n
  label
    | 0 => a
    | n + 1 => ρ.label n
  start := rfl
  next
    | 0 => h.trans (congrArg some ρ.start.symm)
    | n + 1 => ρ.next n

variable (ρ : Trace step s)

/-- A condition holds again and again. -/
def Again (p : ℕ → Prop) : Prop := ∀ n, ∃ m, n ≤ m ∧ p m

/-- **Strong fairness**: labels of a kind that are enabled again and again are taken again and again. -/
def Fair (moves : α → Prop) : Prop :=
  Again (fun n => ∃ a, moves a ∧ (step (ρ.state n) a).isSome) → Again fun n => moves (ρ.label n)

variable {ρ}

/-- **The invariant rule** for traces. -/
theorem invariant {I : σ → Prop} {allowed : σ → α → Prop}
    (hstep : ∀ s a t, I s → allowed s a → step s a = some t → I t) (h0 : I s)
    (hallowed : ∀ n, allowed (ρ.state n) (ρ.label n)) (n : ℕ) : I (ρ.state n) := by
  induction n with
  | zero => rw [ρ.start]; exact h0
  | succ n ih => exact hstep _ _ _ ih (hallowed n) (ρ.next n)

/-- What every step keeps goes on holding. -/
theorem persists {P : σ → Prop} (hstep : ∀ s a t, P s → step s a = some t → P t) {n m : ℕ}
    (hnm : n ≤ m) (h : P (ρ.state n)) : P (ρ.state m) := by
  induction m, hnm using Nat.le_induction with
  | base => exact h
  | succ m _ ih => exact hstep _ _ _ ih (ρ.next m)

/-- A sequence that never rises from one place on does not fall again and again. -/
theorem not_again_of_antitone {f : ℕ → ℕ} {p : ℕ → Prop} {n : ℕ}
    (hle : ∀ m, n ≤ m → f (m + 1) ≤ f m) (hlt : ∀ m, n ≤ m → p m → f (m + 1) < f m) :
    ¬ Again p := by
  intro hagain
  -- the least value of the tail is not left any more
  obtain ⟨v, ⟨m, hnm, rfl⟩, hmin⟩ :=
    WellFounded.has_min wellFounded_lt {v | ∃ m, n ≤ m ∧ f m = v} ⟨f n, n, le_rfl, rfl⟩
  have hbelow : ∀ k, m ≤ k → f k ≤ f m := by
    intro k hmk
    induction k, hmk using Nat.le_induction with
    | base => exact le_rfl
    | succ k hmk ih => exact (hle k (hnm.trans hmk)).trans ih
  obtain ⟨k, hmk, hk⟩ := hagain m
  have hfall := (hlt k (hnm.trans hmk) hk).trans_le (hbelow k hmk)
  exact hmin (f (k + 1)) ⟨k + 1, by omega, rfl⟩ hfall

/-- **The ranking rule**: from a state in which `P` holds, `Q` holds at last where `P` goes on holding
until then, no step raises the rank, each move lowers it, and moves are enabled again and again as long
as `P` holds. -/
theorem leadsTo {P Q : σ → Prop} {moves : α → Prop} {n : ℕ} (rank : σ → ℕ) (hfair : ρ.Fair moves)
    (hkeep : ∀ m, P (ρ.state m) → P (ρ.state (m + 1)) ∨ Q (ρ.state (m + 1)))
    (hle : ∀ m, P (ρ.state m) → P (ρ.state (m + 1)) → rank (ρ.state (m + 1)) ≤ rank (ρ.state m))
    (hlt : ∀ m, P (ρ.state m) → P (ρ.state (m + 1)) → moves (ρ.label m) →
      rank (ρ.state (m + 1)) < rank (ρ.state m))
    (henabled : (∀ m, n ≤ m → P (ρ.state m)) →
      Again fun m => ∃ a, moves a ∧ (step (ρ.state m) a).isSome)
    (h : P (ρ.state n)) : ∃ m, Q (ρ.state m) := by
  by_contra hnever
  have hP : ∀ m, n ≤ m → P (ρ.state m) := by
    intro m hnm
    induction m, hnm using Nat.le_induction with
    | base => exact h
    | succ m _ ih => exact (hkeep m ih).resolve_right fun hQ => hnever ⟨m + 1, hQ⟩
  refine not_again_of_antitone (n := n) (f := fun m => rank (ρ.state m)) ?_ ?_ (hfair (henabled hP))
  · intro m hnm
    exact hle m (hP m hnm) (hP (m + 1) (by omega))
  · intro m hnm hmove
    exact hlt m (hP m hnm) (hP (m + 1) (by omega)) hmove

end Trace

end DBClaw.Runs
