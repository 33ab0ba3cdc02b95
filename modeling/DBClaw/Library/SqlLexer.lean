import DBClaw.Library.Text

/-! # Lexing SQL
A query is cut into comments, quoted texts and single characters, whichever starts first. What is left of
it when comments are taken for spaces and quoted texts for their quotes is read as words and symbols. The
verbs of a statement are its first word and, behind `EXPLAIN` and in the parts of a `WITH`, the first
words of the statements inside. -/

namespace DBClaw.SqlLexer

/-! ## Segments -/

/-- What a query is made of, with the text of each part. -/
inductive Segment
  | plain (c : Char)
  | comment (text : Text)
  | str (text : Text)
  | ident (text : Text)
  deriving DecidableEq, Repr

/-- The text of a segment. -/
def Segment.text : Segment → Text
  | .plain c => [c]
  | .comment text | .str text | .ident text => text

/-- The number of characters up to the end of a block comment, or of the text. -/
def commentEnd : Text → ℕ
  | '*' :: '/' :: _ => 2
  | _ :: s => commentEnd s + 1
  | [] => 0

/-- The number of characters up to the closing quote, or to the end of the text; a doubled quote stands
for itself. -/
def quoteEnd (quote : Char) : Text → ℕ
  | [] => 0
  | [_] => 1
  | c :: d :: s =>
    if c = quote then
      if d = quote then quoteEnd quote s + 2 else 1
    else quoteEnd quote (d :: s) + 1

/-- The segment that starts with a character. -/
def segmentAt (c : Char) (s : Text) : Segment :=
  if c = '/' ∧ s.head? = some '*' then .comment (c :: s.take (commentEnd s.tail + 1))
  else if c = '-' ∧ s.head? = some '-' then .comment (c :: s.takeWhile (· ≠ '\n'))
  else if c = '\'' then .str (c :: s.take (quoteEnd '\'' s))
  else if c = '"' then .ident (c :: s.take (quoteEnd '"' s))
  else .plain c

/-- **The segments of a query**, with a number of characters of the last one still to be skipped. -/
def segments : ℕ → Text → List Segment
  | _, [] => []
  | 0, c :: s => segmentAt c s :: segments ((segmentAt c s).text.length - 1) s
  | k + 1, _ :: s => segments k s

/-- What is left of a segment. -/
def Segment.blank : Segment → Text
  | .plain c => [c]
  | .comment _ => [' ']
  | .str _ => ['\'', '\'']
  | .ident _ => ['"', '"']

/-- **What is left of a query** without its comments and the insides of its quotes. -/
def blank (s : Text) : Text := (segments 0 s).flatMap Segment.blank

/-! ## Tokens -/

/-- A token; the two quotes of a quoted text are symbols. -/
inductive Token
  | word (w : Text)
  | symbol (c : Char)
  deriving DecidableEq, Repr

/-- A character of a word; beyond ASCII all but spaces are. -/
def isWord (c : Char) : Bool :=
  c.isAlphanum || c == '_' || (128 ≤ c.toNat && ! Text.isSpace c)

/-- The word that has been read so far. -/
def flush (w : Text) : List Token := if w = [] then [] else [.word w]

/-- A character that is in no word. -/
def symbolOf (c : Char) : List Token := if Text.isSpace c then [] else [.symbol c]

/-- **The words and symbols of a text**, with the word that has been read so far. -/
def tokenize : Text → Text → List Token
  | w, [] => flush w
  | w, c :: s => if isWord c then tokenize (w ++ [c]) s else flush w ++ symbolOf c ++ tokenize [] s

/-- **The tokens of a query.** -/
def tokens (s : Text) : List Token := tokenize [] (blank s)

/-! ## Statements -/

/-- There is one statement: no semicolon with something behind it. -/
def OneStatement (ts : List Token) : Prop :=
  ∀ before after, ts = before ++ .symbol ';' :: after → after = []

/-- A token as a word. -/
def Token.word? : Token → Option Text
  | .word w => some w
  | .symbol _ => none

/-- The words of a query. -/
def wordsOf (ts : List Token) : List Text := ts.filterMap Token.word?

/-- The statements that read. -/
def readVerbs : List String := ["SELECT", "SHOW", "EXPLAIN", "DESCRIBE", "DESC", "WITH"]

/-- The statements that change data. -/
def dataVerbs : List String := ["INSERT", "UPDATE", "DELETE", "MERGE"]

/-- The statements that change what there is, and who may do what. -/
def definitionVerbs : List String := ["DROP", "ALTER", "CREATE", "TRUNCATE", "GRANT", "REVOKE"]

variable (u : Unicode)

/-- The word is one of a list, in whatever case. -/
def isKeyword (keywords : List String) (w : Text) : Bool :=
  keywords.any (·.toList = Text.upper u w)

/-- A token that starts a statement. -/
def startsStatement : Token → Bool
  | .word w => isKeyword u (readVerbs ++ "VALUES" :: dataVerbs ++ definitionVerbs) w
  | .symbol _ => false

/-- What stands in a group of parentheses, and what behind it; `depth` groups inside are open. -/
def group : ℕ → List Token → List Token × List Token
  | _, [] => ([], [])
  | 0, .symbol ')' :: ts => ([], ts)
  | depth + 1, .symbol ')' :: ts => (.symbol ')' :: (group depth ts).1, (group depth ts).2)
  | depth, .symbol '(' :: ts => (.symbol '(' :: (group (depth + 1) ts).1, (group (depth + 1) ts).2)
  | depth, t :: ts => (t :: (group depth ts).1, (group depth ts).2)

mutual

/-- **The verbs of a statement**: its first word, and those of the statements inside. -/
def verbs : ℕ → List Token → List Text
  | 0, _ => []
  | n + 1, .word w :: ts =>
    w :: if isKeyword u ["EXPLAIN"] w then verbs n (ts.dropWhile (! startsStatement u ·))
      else if isKeyword u ["WITH"] w then bodies n false false ts
      else []
  | n + 1, .symbol c :: ts => if c = '(' then verbs n ts else []
  | _ + 1, [] => []

/-- The verbs behind `WITH`: of what stands in parentheses behind `AS`, and of the statement behind the
last of these; `as` says that `AS` has just been read, and `ended` that such a group has just ended. -/
def bodies : ℕ → Bool → Bool → List Token → List Text
  | 0, _, _, _ => []
  | _ + 1, _, _, [] => []
  | n + 1, as, ended, t :: ts =>
    if ended && t ≠ .symbol ',' then verbs n (t :: ts)
    else
      match t with
      | .word w => bodies n (isKeyword u ["AS", "MATERIALIZED"] w) false ts
      | .symbol c =>
        if c = '(' then
          (if as then verbs n (group 0 ts).1 else []) ++ bodies n false as (group 0 ts).2
        else bodies n false false ts

end

/-- The verbs of all tokens of a query; a statement has no more verbs than tokens. -/
def statementVerbs (ts : List Token) : List Text := verbs u (2 * ts.length) ts

example : (statementVerbs .asciiOnly (tokens
      "WITH x(a) AS (DELETE FROM t RETURNING a), y AS (SELECT 1) UPDATE u SET b = 'AS ('".toList)) =
    ["WITH".toList, "DELETE".toList, "SELECT".toList, "UPDATE".toList] := by
  decide

variable {u} {c : Char} {v w s t : Text} {ts : List Token}

/-! ## Cutting into segments -/

/-- A token in upper case. -/
def Token.upper (u : Unicode) : Token → Token
  | .word w => .word (Text.upper u w)
  | .symbol c => .symbol c

end DBClaw.SqlLexer
