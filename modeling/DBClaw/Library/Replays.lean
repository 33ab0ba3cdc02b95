import Mathlib.Data.List.Induction

/-! # Replays of inputs
A machine takes inputs one by one. `Met` says that an input has met a state of a kind on the way. What only inputs
bring about, and what no input takes back, holds after a replay if it did before or such an input was met
(`holds_iff_met`). -/

namespace DBClaw.Replays

variable {σ α : Type*} {step : σ → α → σ}

/-- The state after some inputs. -/
def after (step : σ → α → σ) (s : σ) (inputs : List α) : σ := inputs.foldl step s

@[simp] theorem after_nil (s : σ) : after step s [] = s := rfl

theorem after_concat (s : σ) (inputs : List α) (a : α) : after step s (inputs ++ [a]) = step (after step s inputs) a :=
  List.foldl_append

/-- **An input has met a state** so that a condition held. -/
def Met (step : σ → α → σ) (s : σ) (inputs : List α) (P : σ → α → Prop) : Prop :=
  ∃ before a behind, inputs = before ++ a :: behind ∧ P (after step s before) a

variable {s : σ} {inputs : List α} {a : α} {P : σ → α → Prop}

theorem met_iff_exists {P : α → Prop} : Met step s inputs (fun _ a => P a) ↔ ∃ a ∈ inputs, P a := by
  constructor
  · rintro ⟨before, a, behind, rfl, hP⟩
    exact ⟨a, List.mem_append_right before List.mem_cons_self, hP⟩
  · rintro ⟨a, hmem, hP⟩
    obtain ⟨before, behind, rfl⟩ := List.append_of_mem hmem
    exact ⟨before, a, behind, rfl, hP⟩

theorem not_met_nil : ¬ Met step s [] P := by
  rintro ⟨before, a, behind, heq, -⟩
  exact List.append_ne_nil_of_right_ne_nil before (List.cons_ne_nil a behind) heq.symm

/-- The last input, or one before it. -/
theorem met_concat : Met step s (inputs ++ [a]) P ↔ Met step s inputs P ∨ P (after step s inputs) a := by
  constructor
  · rintro ⟨before, b, behind, heq, hP⟩
    rcases List.eq_nil_or_concat behind with rfl | ⟨behind, c, rfl⟩
    · obtain ⟨rfl, hlast⟩ := List.append_inj' heq rfl
      cases hlast
      exact .inr hP
    · rw [List.concat_eq_append, ← List.cons_append, ← List.append_assoc] at heq
      exact .inl ⟨before, b, behind, (List.append_inj' heq rfl).1, hP⟩
  · rintro (⟨before, b, behind, rfl, hP⟩ | hP)
    · exact ⟨before, b, behind ++ [a], by rw [List.append_assoc, List.cons_append], hP⟩
    · exact ⟨inputs, a, [], rfl, hP⟩

/-- **The rule for what stays**: where each input leaves a condition alone or brings it about, it holds after a replay
if it did before or an input that brings it about was met. -/
theorem holds_iff_met {Q : σ → Prop} (hstep : ∀ s a, Q (step s a) ↔ Q s ∨ P s a) (s : σ) (inputs : List α) :
    Q (after step s inputs) ↔ Q s ∨ Met step s inputs P := by
  induction inputs using List.reverseRecOn with
  | nil => exact (or_iff_left not_met_nil).symm
  | append_singleton inputs a ih => rw [after_concat, hstep, ih, met_concat, or_assoc]

/-- **The invariant rule.** -/
theorem after_invariant {I : σ → Prop} (hstep : ∀ s a, I s → I (step s a)) (hs : I s) (inputs : List α) :
    I (after step s inputs) := by
  induction inputs using List.reverseRecOn with
  | nil => exact hs
  | append_singleton inputs a ih =>
    rw [after_concat]
    exact hstep _ a ih

end DBClaw.Replays
