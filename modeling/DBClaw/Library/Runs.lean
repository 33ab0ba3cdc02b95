import Mathlib.Data.List.Basic
import Mathlib.Logic.Function.Basic

/-! # Runs of a labelled transition system
A system is a partial step function `step : σ → α → Option σ`: in a state, a label either is not
enabled (`none`) or leads to one next state, so that every choice of the environment (which party
moves, what a call to the outside returns, what time it is) is in the label. `Run step allowed` is
the relation "these labels lead from here to there, each taken in a state that `allowed` admits".
`Run.invariant` is the one induction over runs: what an admitted step preserves, a run preserves. -/

namespace DBClaw.Runs

variable {σ α : Type*} {step : σ → α → Option σ} {allowed allowed' : σ → α → Prop}

/-- **Runs**: `Run step allowed s as t` holds when the labels `as` lead from `s` to `t`, each of them
taken in a state in which `allowed` admits it. -/
inductive Run (step : σ → α → Option σ) (allowed : σ → α → Prop) : σ → List α → σ → Prop
  | nil (s : σ) : Run step allowed s [] s
  | cons {s t u : σ} {a : α} {as : List α} :
      allowed s a → step s a = some t → Run step allowed t as u → Run step allowed s (a :: as) u

/-- The condition under which every label is admitted: a `Run` with it is a run of the bare system. -/
def Always (_ : σ) (_ : α) : Prop := True

/-- A run under a condition is a run under every weaker one. -/
theorem Run.mono {s t : σ} {as : List α} (hle : ∀ s a, allowed s a → allowed' s a)
    (h : Run step allowed s as t) : Run step allowed' s as t := by
  induction h with
  | nil s => exact .nil s
  | cons ha hs _ ih => exact .cons (hle _ _ ha) hs ih

/-- One more step at the end of a run. -/
theorem Run.concat {s t u : σ} {a : α} {as : List α} (h : Run step allowed s as t) (ha : allowed t a)
    (hs : step t a = some u) : Run step allowed s (as ++ [a]) u := by
  induction h with
  | nil s => exact .cons ha hs (.nil u)
  | cons ha' hs' _ ih => exact .cons ha' hs' (ih ha hs)

/-- **The invariant rule**: what one admitted step preserves, a whole run preserves. -/
theorem Run.invariant {I : σ → Prop} {s t : σ} {as : List α} (h : Run step allowed s as t)
    (hstep : ∀ s a t, I s → allowed s a → step s a = some t → I t) (h0 : I s) : I t := by
  induction h with
  | nil => exact h0
  | cons ha hs _ ih => exact ih (hstep _ _ _ h0 ha hs)

/-- **Strengthening the condition of a run** by an invariant of it. -/
theorem Run.strengthen {I : σ → Prop} {s t : σ} {as : List α}
    (hle : ∀ s a, I s → allowed s a → allowed' s a)
    (hstep : ∀ s a t, I s → allowed s a → step s a = some t → I t) (h0 : I s)
    (h : Run step allowed s as t) : Run step allowed' s as t := by
  induction h with
  | nil s => exact .nil s
  | cons ha hs _ ih => exact .cons (hle _ _ h0 ha) hs (ih (hstep _ _ _ h0 ha hs))

/-- **Runs through good states**: where an invariant holds, a possible step leads to a good state just under a
condition on it, and a good state keeps the invariant. Then the runs of possible steps through good states are
the runs of possible steps under the condition. -/
theorem Run.leadsTo_iff_of_possible {I good : σ → Prop} {possible : σ → α → Prop} {s t : σ} {as : List α}
    (hstep : ∀ s a t, I s → possible s a → step s a = some t → (good t ↔ allowed s a))
    (hkeeps : ∀ s a t, I s → possible s a → step s a = some t → good t → I t) (h0 : I s) :
    Run step (fun s a => possible s a ∧ ∃ t ∈ step s a, good t) s as t ↔
      Run step (fun s a => possible s a ∧ allowed s a) s as t := by
  constructor
  · refine Run.strengthen (I := I) ?_ ?_ h0
    · rintro s a hI ⟨hpossible, t, ht, hgood⟩
      exact ⟨hpossible, (hstep s a t hI hpossible ht).mp hgood⟩
    · rintro s a t hI ⟨hpossible, u, hu, hgood⟩ hs
      rw [Option.mem_def, hs, Option.some_inj] at hu
      subst hu
      exact hkeeps s a t hI hpossible hs hgood
  · intro h
    induction h with
    | nil s => exact .nil s
    | cons ha hs _ ih =>
      have hgood := (hstep _ _ _ h0 ha.1 hs).mpr ha.2
      exact .cons ⟨ha.1, _, hs, hgood⟩ hs (ih (hkeeps _ _ _ h0 ha.1 hs hgood))

/-- The same, where every step is possible. -/
theorem Run.leadsTo_iff {I good : σ → Prop} {s t : σ} {as : List α}
    (hstep : ∀ s a t, I s → step s a = some t → (good t ↔ allowed s a))
    (hkeeps : ∀ s a t, I s → step s a = some t → good t → I t) (h0 : I s) :
    Run step (fun s a => ∃ t ∈ step s a, good t) s as t ↔ Run step allowed s as t := by
  have h := @Run.leadsTo_iff_of_possible σ α step allowed I good Always s t as
    (fun s a t hI _ => hstep s a t hI) (fun s a t hI _ => hkeeps s a t hI) h0
  simpa only [Always, true_and] using h

/-- **Systems side by side**: a step of one of them leaves the others alone. -/
def each {ι : Type*} [DecidableEq ι] (step : σ → α → Option σ) (s : ι → σ) (a : ι × α) : Option (ι → σ) :=
  (step (s a.1) a.2).map (Function.update s a.1)

/-- What an admitted step of one system preserves, holds of all of them along a run. -/
theorem Run.each_invariant {ι : Type*} [DecidableEq ι] {I : σ → Prop} {s t : ι → σ} {as : List (ι × α)}
    (h : Run (each step) (fun s a => allowed (s a.1) a.2) s as t)
    (hstep : ∀ s a t, I s → allowed s a → step s a = some t → I t) (h0 : ∀ i, I (s i)) (i : ι) : I (t i) := by
  refine h.invariant (I := fun s => ∀ i, I (s i)) (fun s a u hs ha hu j => ?_) h0 i
  obtain ⟨v, hv, rfl⟩ := Option.map_eq_some_iff.mp hu
  by_cases hj : j = a.1
  · rw [hj, Function.update_self]
    exact hstep _ _ _ (hs a.1) ha hv
  · rw [Function.update_of_ne hj]
    exact hs j

/-- The state reached by running the labels one after another, `none` when one is not enabled or not
admitted. -/
def exec (step : σ → α → Option σ) (allowed : σ → α → Prop) [∀ s a, Decidable (allowed s a)] :
    σ → List α → Option σ
  | s, [] => some s
  | s, a :: as => if allowed s a then (step s a).bind fun t => exec step allowed t as else none

instance : ∀ (s : σ) (a : α), Decidable (Always s a) := fun _ _ => .isTrue trivial

/-- What `exec` computes is a run. -/
theorem Run.of_exec [∀ s a, Decidable (allowed s a)] {s t : σ} {as : List α}
    (h : exec step allowed s as = some t) : Run step allowed s as t := by
  induction as generalizing s with
  | nil => cases h; exact .nil _
  | cons a as ih =>
    rw [exec] at h
    split at h
    · rename_i ha
      obtain ⟨u, hs, hu⟩ := Option.bind_eq_some_iff.mp h
      exact .cons ha hs (ih hu)
    · cases h

/-- A run that `exec` completes. -/
theorem Run.of_isSome [∀ s a, Decidable (allowed s a)] {s : σ} {as : List α}
    (h : (exec step allowed s as).isSome) :
    Run step allowed s as ((exec step allowed s as).getD s) := by
  obtain ⟨t, ht⟩ := Option.isSome_iff_exists.mp h
  rw [ht]
  exact .of_exec ht

/-- A computed run to a state that passes a test. -/
theorem Run.exists_of_any [∀ s a, Decidable (allowed s a)] {s : σ} {as : List α} {p : σ → Bool}
    (h : (exec step allowed s as).any p = true) : ∃ t, Run step allowed s as t ∧ p t = true := by
  obtain ⟨t, ht, hp⟩ := (Option.any_eq_true p _).mp h
  exact ⟨t, .of_exec ht, hp⟩

/-- What stands in a table of tasks, once one of them has been replaced. -/
theorem update_eq_some {τ : Type*} {tasks : ℕ → Option τ} {i j : ℕ} {task : Option τ} {task' : τ}
    (h : Function.update tasks i task j = some task') :
    j = i ∧ task = some task' ∨ j ≠ i ∧ tasks j = some task' := by
  by_cases hj : j = i
  · rw [hj, Function.update_self] at h
    exact .inl ⟨hj, h⟩
  · rw [Function.update_of_ne hj] at h
    exact .inr ⟨hj, h⟩

/-- What stands in a list of tasks, once one of them has been replaced. -/
theorem set_eq_some {τ : Type*} {l : List τ} {i j : ℕ} {a b : τ} (h : (l.set i a)[j]? = some b) :
    j = i ∧ a = b ∨ j ≠ i ∧ l[j]? = some b := by
  rw [List.getElem?_set] at h
  by_cases hj : i = j
  · rw [if_pos hj] at h
    split at h
    · exact .inl ⟨hj.symm, Option.some.inj h⟩
    · cases h
  · rw [if_neg hj] at h
    exact .inr ⟨Ne.symm hj, h⟩

/-- How many tasks of a list pass a test, once one of them has been replaced. -/
theorem countP_set_add {p : α → Bool} {l : List α} {i : ℕ} {a b : α} (h : l[i]? = some a) :
    (l.set i b).countP p + (p a).toNat = l.countP p + (p b).toNat := by
  obtain ⟨hi, rfl⟩ := List.getElem?_eq_some_iff.mp h
  have hle : (if p l[i] then 1 else 0) ≤ l.countP p := List.boole_getElem_le_countP hi
  have htoNat (c : Bool) : (if c then 1 else 0) = c.toNat := by cases c <;> rfl
  rw [htoNat] at hle
  rw [List.countP_set hi, htoNat, htoNat]
  omega

/-- **Every item of a fold has its turn**: the fold comes to it in a state in which what all items keep
holds, and the result is reached from there. -/
theorem exists_turn {β : Type*} {f : β → α → β} {I : β → Prop} {R : β → β → Prop} {l : List α} {b : β}
    {x : α} (hrefl : ∀ b, R b b) (htrans : ∀ b c d, R b c → R c d → R b d) (hx : x ∈ l)
    (hI : ∀ b, ∀ y ∈ l, I b → I (f b y)) (hR : ∀ b y, R b (f b y)) (hb : I b) :
    ∃ c, I c ∧ R (f c x) (l.foldl f b) := by
  induction l generalizing b with
  | nil => cases hx
  | cons y ys ih =>
    obtain rfl | hys := List.mem_cons.mp hx
    · exact ⟨b, hb, List.foldlRecOn (motive := R (f b x)) ys f (hrefl _)
        fun c hc z _ => htrans _ _ _ hc (hR c z)⟩
    · exact ih hys (fun c z hz => hI c z (List.mem_cons_of_mem _ hz)) (hI b y List.mem_cons_self hb)

end DBClaw.Runs
