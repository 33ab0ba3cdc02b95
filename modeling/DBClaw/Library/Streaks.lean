import Mathlib.Data.List.Infix

/-! # Streaks at the end of a history
A history lists what happened, the newest first. An item may count in view of what happened before it;
the streak of a history is the number of its newest items that all count, and the item before them does
not. -/

namespace DBClaw.Streaks

variable {α : Type*} {p : List α → α → Prop} [∀ past v, Decidable (p past v)]

/-- The number of items that count, up to the newest one. -/
def streak (p : List α → α → Prop) [∀ past v, Decidable (p past v)] : List α → ℕ
  | [] => 0
  | v :: past => if p past v then streak p past + 1 else 0

@[simp] theorem streak_nil : streak p [] = 0 := rfl

end DBClaw.Streaks
