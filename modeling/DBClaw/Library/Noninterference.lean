import Mathlib.Data.List.Basic

/-! # Noninterference
A machine answers each input from its state and goes on to the next one. An observer sees a part of the
state. Where the inputs that do not concern it leave this part alone, and the others are answered and taken
up by this part alone, the observer is told the same in a run as in the run of its own inputs. -/

namespace DBClaw.Noninterference

variable {σ τ α β : Type*} {step : σ → α → β × σ} {view : σ → τ} {concerns : α → Bool}

/-- The inputs of a run with their answers. -/
def trace (step : σ → α → β × σ) : σ → List α → List (α × β)
  | _, [] => []
  | s, a :: as => (a, (step s a).1) :: trace step (step s a).2 as

/-- The state after a run. -/
def after (step : σ → α → β × σ) (s : σ) (as : List α) : σ := as.foldl (fun s a => (step s a).2) s

@[simp] theorem trace_nil (s : σ) : trace step s [] = [] := rfl

@[simp] theorem trace_cons (s : σ) (a : α) (as : List α) :
    trace step s (a :: as) = (a, (step s a).1) :: trace step (step s a).2 as := rfl

@[simp] theorem after_nil (s : σ) : after step s [] = s := rfl

@[simp] theorem after_cons (s : σ) (a : α) (as : List α) :
    after step s (a :: as) = after step (step s a).2 as := rfl

theorem after_append (s : σ) (as bs : List α) : after step s (as ++ bs) = after step (after step s as) bs :=
  List.foldl_append

/-- What holds of every answer to an input holds throughout a run. -/
theorem forall_mem_trace {P : α → β → Prop} (h : ∀ s a, P a (step s a).1) (s : σ) (as : List α) :
    ∀ x ∈ trace step s as, P x.1 x.2 := by
  induction as generalizing s with
  | nil => simp
  | cons a as ih =>
    intro x hx
    rcases List.mem_cons.mp hx with rfl | hx
    · exact h s a
    · exact ih (step s a).2 x hx

/-- **A part of the state and the inputs that concern it**: no other input changes it, and the inputs that
concern it see nothing else. -/
structure Separate (step : σ → α → β × σ) (view : σ → τ) (concerns : α → Bool) : Prop where
  unconcerned : ∀ s a, concerns a = false → view (step s a).2 = view s
  answer : ∀ s s' a, concerns a = true → view s = view s' → (step s a).1 = (step s' a).1
  next : ∀ s s' a, concerns a = true → view s = view s' → view (step s a).2 = view (step s' a).2

/-- **The answers to the inputs that concern a part of the state are those of the run of these inputs alone.** -/
theorem Separate.filter_trace (h : Separate step view concerns) {s s' : σ} (hview : view s = view s')
    (as : List α) :
    (trace step s as).filter (fun x => concerns x.1) = trace step s' (as.filter concerns) := by
  induction as generalizing s s' with
  | nil => rfl
  | cons a as ih =>
    cases ha : concerns a with
    | false =>
      -- the input is in neither run of the observer, and what it sees stays
      rw [trace_cons, List.filter_cons_of_neg (by simp [ha]), List.filter_cons_of_neg (by simp [ha])]
      exact ih ((h.unconcerned s a ha).trans hview)
    | true =>
      rw [trace_cons, List.filter_cons_of_pos (by simp [ha]), List.filter_cons_of_pos ha, trace_cons,
        h.answer s s' a ha hview, ih (h.next s s' a ha hview)]

end DBClaw.Noninterference
