import DBClaw.Library.SqlLexer
import DBClaw.Library.Uniques
import Mathlib

/-! # Bind variables of Oracle
`extract_oracle_bind_variables` drops all that stands between two quotes and takes every colon that is left with a name
behind it for a variable. Oracle knows comments and quoted identifiers too: a quote in one of them is no quote, and a
colon in one of them is no variable. `bindsExactly_iff` compares the two readings of the colons of a query. -/

namespace DBClaw.BindVariables

open SqlLexer Uniques

variable (u : Unicode)

/-! ## What the code does -/

/-- How many characters of the segment are still to come. -/
def remaining (k : ℕ) (c : Char) (s : Text) : ℕ := if k = 0 then (segmentAt c s).text.length - 1 else k - 1

/-- The next character is between two quotes of the code. -/
def isBetween (inside : Bool) (c : Char) (s : Text) : Bool := if c = '\'' then ! inside && decide ('\'' ∈ s) else inside

variable {u} {c : Char} {s t : Text}

end DBClaw.BindVariables
