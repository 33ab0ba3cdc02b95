import DBClaw.Sql.Gate
import DBClaw.Library.SqlLexer
import Mathlib.Algebra.Group.Nat.Even
import Mathlib.Algebra.Ring.Parity

/-! # What the patterns leave of a query
The gate replaces one kind of comments and quoted texts after another, where lexing takes whichever starts
first. In a tidy query every comment and quoted text is closed, and no opener that a pass looks for stands
in one that a later pass takes out; of it the patterns leave what lexing leaves. -/

namespace DBClaw.Sql

open SqlLexer Substitution

/-! ## Tidy queries -/

/-- No pass finds an opener inside of the segment, and it is closed. -/
def TidySegment : Segment → Prop
  | .plain _ => True
  | .comment text =>
    ['/', '*'] <+: text ∧ ['*', '/'] <:+ text.drop 2 ∨ ['-', '-'] <+: text ∧ ¬ ['/', '*'] <:+: text
  | .str text => Even (text.count '\'') ∧ ¬ ['/', '*'] <:+: text ∧ ¬ ['-', '-'] <:+: text
  | .ident text =>
    Even (text.count '"') ∧ ¬ ['/', '*'] <:+: text ∧ ¬ ['-', '-'] <:+: text ∧ '\'' ∉ text

instance (b : Segment) : Decidable (TidySegment b) := by
  unfold TidySegment
  split <;> infer_instance

/-- **A tidy query.** -/
def Tidy (q : Text) : Prop := ∀ b ∈ segments 0 q, TidySegment b

instance (q : Text) : Decidable (Tidy q) := inferInstanceAs (Decidable (∀ b ∈ segments 0 q, _))

variable {c quote : Char} {s t : Text}

end DBClaw.Sql
