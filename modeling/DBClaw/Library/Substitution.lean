import DBClaw.Library.Text

/-! # Substitution of matches
`re.sub` goes through a text from the left; where the pattern matches, it writes the replacement and goes
on behind the match. A pattern is given by the length of the match that starts at the head of a text, if
there is one. Patterns here match no empty text. -/

namespace DBClaw.Substitution

variable {α : Type*} (m : List α → Option ℕ) (r : List α)

/-- `re.sub`, with a number of items of the last match still to be skipped. -/
def sub : ℕ → List α → List α
  | _, [] => []
  | 0, c :: s =>
    match m (c :: s) with
    | some n => r ++ sub (n - 1) s
    | none => c :: sub 0 s
  | k + 1, _ :: s => sub k s

variable {m r}

@[simp] theorem sub_nil (k : ℕ) : sub m r k [] = [] := by cases k <;> rfl

theorem sub_cons_of_none {c : α} {s : List α} (h : m (c :: s) = none) :
    sub m r 0 (c :: s) = c :: sub m r 0 s := by
  simp only [sub, h]

/-- Skipping drops items. -/
theorem sub_skip (k : ℕ) (s : List α) : sub m r k s = sub m r 0 (s.drop k) := by
  induction k generalizing s with
  | zero => rfl
  | succ k ih =>
    cases s with
    | nil => simp
    | cons c s => exact ih s

/-- A match is replaced, and the text behind it is gone through. -/
theorem sub_cons_of_some {c : α} {s : List α} {n : ℕ} (h : m (c :: s) = some (n + 1)) :
    sub m r 0 (c :: s) = r ++ sub m r 0 (s.drop n) := by
  simp only [sub, h, Nat.add_sub_cancel]
  rw [sub_skip]

/-- What a part of a text becomes, with what stands behind it: no match starts in it, or it is one. -/
inductive Rewrites (m : List α → Option ℕ) (r : List α) : List α → List α → List α → Prop
  | kept {w s : List α} (h : ∀ a c b, w = a ++ c :: b → m (c :: (b ++ s)) = none) : Rewrites m r w w s
  | replaced {c : α} {w s : List α} (h : m (c :: (w ++ s)) = some (w.length + 1)) :
      Rewrites m r (c :: w) r s

/-- **Part after part is rewritten.** -/
theorem sub_of_rewrites {w w' s : List α} (h : Rewrites m r w w' s) :
    sub m r 0 (w ++ s) = w' ++ sub m r 0 s := by
  cases h with
  | kept h =>
    induction w with
    | nil => rfl
    | cons c w ih =>
      rw [List.cons_append, sub_cons_of_none (h [] c w rfl), List.cons_append,
        ih fun a d b hw => h (c :: a) d b (congrArg (c :: ·) hw)]
  | replaced h => rw [List.cons_append, sub_cons_of_some h, List.drop_left]

/-- **A prefix in which no match starts is kept.** -/
theorem sub_append {w : List α} (h : ∀ c ∈ w, ∀ s, m (c :: s) = none) (s : List α) :
    sub m r 0 (w ++ s) = w ++ sub m r 0 s := by
  refine sub_of_rewrites (.kept fun a c b hw => h c ?_ _)
  rw [hw]
  exact List.mem_append_right a List.mem_cons_self

end DBClaw.Substitution
