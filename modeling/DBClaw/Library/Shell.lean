import DBClaw.Library.Text

/-! # Shell commands
The simple commands that a POSIX shell runs for a text, as far as quoting, the separators `;`,
newline, `&`, `&&`, `||` and `|`, the substitutions `$(...)` and backticks, and output redirection
go; every other character is taken literally. `Scan` reads a text from the left and keeps, for each
command, its command word after quote removal and whether it redirects its output to a file. The
texts of substitutions are kept to be read in turn (`Runs`). What the text leaves open at its end
counts as closed there. -/

namespace DBClaw.Shell

/-- A simple command. -/
structure SimpleCommand where
  /-- The text from where the command begins. -/
  start : Text
  /-- The command word; a substitution in it leaves its first character. -/
  word : Option Text := none
  /-- A redirection stands before the command word. -/
  redirected : Bool := false
  /-- Output is redirected to a file. -/
  toFile : Bool := false
  deriving DecidableEq, Repr

/-- What is being read: nothing between two words, the command word, another word, the operator of a
redirection, and the word that the redirection goes to. -/
inductive Slot
  | gap | word | argument | operator | wanted | target
  deriving DecidableEq, Repr

/-- The open quotes. -/
inductive Quote
  | unquoted | single | double
  deriving DecidableEq, Repr

/-- What is open inside a substitution. -/
inductive Nesting
  | paren | backtick | single | double
  deriving DecidableEq, Repr

/-- Where the reading of a text has got to. -/
structure Scan where
  command : SimpleCommand
  slot : Slot := .gap
  quote : Quote := .unquoted
  /-- The last character was an escaping backslash. -/
  escaped : Bool := false
  /-- Something in the command word is quoted. -/
  quotedWord : Bool := false
  /-- The next character is the parenthesis of a substitution. -/
  opening : Bool := false
  /-- What is open in the substitution that is being read. -/
  nesting : List Nesting := []
  body : Text := []
  commands : List SimpleCommand := []
  substitutions : List Text := []
  deriving DecidableEq, Repr

/-- The blanks that separate words. -/
def isBlank (c : Char) : Bool := c = ' ' || c = '\t'

/-- The characters that end a command. -/
def isControl (c : Char) : Bool := c = ';' || c = '\n' || c = '&' || c = '|'

/-- The text after a `>` makes it the duplication of a file descriptor: `>&` with digits or `-`. -/
def isDuplication : Text → Bool
  | '&' :: t =>
    let word := (t.dropWhile isBlank).takeWhile fun c => c.isDigit || c = '-'
    let rest := (t.dropWhile isBlank).dropWhile fun c => c.isDigit || c = '-'
    word ≠ [] && (word.all Char.isDigit || word = ['-']) &&
      rest.head?.all fun c => isBlank c || isControl c || c = '>'
  | _ => false

/-- Backslashes escape `$`, backticks and backslashes in the text between backticks. -/
def unescape : Text → Text
  | [] => []
  | [c] => [c]
  | c :: d :: t =>
    if c = '\\' ∧ (d = '$' ∨ d = '`' ∨ d = '\\') then d :: unescape t else c :: unescape (d :: t)

namespace Scan

/-- A word begins here unless one has begun. -/
def touch (s : Scan) : Scan :=
  match s.slot with
  | .gap =>
    if s.command.word = none then
      { s with slot := .word, command := { s.command with word := some [] } }
    else { s with slot := .argument }
  | .operator | .wanted => { s with slot := .target }
  | .word | .argument | .target => s

/-- A character is added to the current word. -/
def push (s : Scan) (c : Char) : Scan :=
  if s.touch.slot = .word then
    { s.touch with
      command := { s.touch.command with word := s.touch.command.word.map (· ++ [c]) } }
  else s.touch

/-- Something of the current word is quoted. -/
def quoting (s : Scan) : Scan := { s with quotedWord := s.quotedWord || s.slot = .word }

/-- The current word ends. -/
def endWord (s : Scan) : Scan :=
  { s with
    slot :=
      match s.slot with
      | .gap | .word | .argument | .target => .gap
      | .operator | .wanted => .wanted }

/-- The current command ends, and the next one begins with the rest of the text. -/
def endCommand (s : Scan) (rest : Text) : Scan :=
  { s with
    commands :=
      if s.command.word.isSome ∨ s.command.redirected ∨ s.command.toFile then
        s.commands ++ [s.command]
      else s.commands
    command := { start := rest }
    quotedWord := false
    slot := .gap }

/-- A redirection; digits just before it are the number of a file descriptor and not a word. -/
def redirect (s : Scan) (rest : Text) : Scan :=
  let word :=
    if s.slot = .word ∧ s.quotedWord = false ∧ s.command.word.all fun w => w.all Char.isDigit then none
    else s.command.word
  { s with
    command := {
      start := s.command.start
      word := word
      redirected := s.command.redirected || word.isNone
      toFile := s.command.toFile || ! isDuplication rest }
    slot := .operator }

/-- A character outside of quotes and substitutions. -/
def unquoted (s : Scan) (c : Char) (rest : Text) : Scan :=
  if c = '\'' then { s.touch.quoting with quote := .single }
  else if c = '"' then { s.touch.quoting with quote := .double }
  else if c = '\\' then { s with escaped := true }
  else if c = '$' ∧ rest.head? = some '(' then { (s.push c).quoting with opening := true }
  else if c = '`' then { (s.push c).quoting with nesting := [.backtick], body := [] }
  else if isBlank c then s.endWord
  else if isControl c then
    if s.slot = .operator ∧ (c = '&' ∨ c = '|') then { s with slot := .wanted }
    else s.endCommand rest
  else if c = '>' then
    if s.slot = .operator then { s with slot := .wanted } else s.redirect rest
  else s.push c

/-- A character between double quotes. -/
def doubleQuoted (s : Scan) (c : Char) (rest : Text) : Scan :=
  if c = '"' then { s with quote := .unquoted }
  else if c = '\\' then { s with escaped := true }
  else if c = '$' ∧ rest.head? = some '(' then { s.push c with opening := true }
  else if c = '`' then { s.push c with nesting := [.backtick], body := [] }
  else s.push c

/-- A character after a backslash: between double quotes only some can be escaped. -/
def afterBackslash (s : Scan) (c : Char) : Scan :=
  if c = '\n' then { s with escaped := false }
  else if s.quote = .double ∧ ¬ (c = '$' ∨ c = '`' ∨ c = '"' ∨ c = '\\') then
    { ((s.push '\\').push c).quoting with escaped := false }
  else { (s.push c).quoting with escaped := false }

/-- The innermost thing that is open in a substitution closes. -/
def close (s : Scan) (c : Char) : Scan :=
  match s.nesting with
  | [.backtick] =>
    { s with nesting := [], substitutions := s.substitutions ++ [unescape s.body], body := [] }
  | [_] => { s with nesting := [], substitutions := s.substitutions ++ [s.body], body := [] }
  | _ => { s with nesting := s.nesting.tail, body := s.body ++ [c] }

/-- Something opens inside a substitution. -/
def nest (s : Scan) (n : Nesting) (c : Char) : Scan :=
  { s with nesting := n :: s.nesting, body := s.body ++ [c] }

/-- A character inside a substitution. -/
def inside (s : Scan) (c : Char) (rest : Text) : Scan :=
  if s.opening then { s.nest .paren c with opening := false }
  else if s.escaped then { s with escaped := false, body := s.body ++ [c] }
  else
    match s.nesting.head? with
    | some .single => if c = '\'' then s.close c else { s with body := s.body ++ [c] }
    | some .backtick =>
      if c = '`' then s.close c
      else { s with escaped := c = '\\', body := s.body ++ [c] }
    | some .double =>
      if c = '"' then s.close c
      else if c = '`' then s.nest .backtick c
      else { s with
        escaped := c = '\\'
        opening := c = '$' ∧ rest.head? = some '('
        body := s.body ++ [c] }
    | _ =>
      if c = ')' then s.close c
      else if c = '\'' then s.nest .single c
      else if c = '"' then s.nest .double c
      else if c = '`' then s.nest .backtick c
      else { s with
        escaped := c = '\\'
        opening := c = '$' ∧ rest.head? = some '('
        body := s.body ++ [c] }

/-- **One character**, with the text after it. -/
def step (s : Scan) (c : Char) (rest : Text) : Scan :=
  if s.nesting ≠ [] then s.inside c rest
  else if s.opening then { s with opening := false, nesting := [.paren], body := [] }
  else if s.escaped then s.afterBackslash c
  else
    match s.quote with
    | .unquoted => s.unquoted c rest
    | .single => if c = '\'' then { s with quote := .unquoted } else s.push c
    | .double => s.doubleQuoted c rest

/-- The whole text. -/
def run : Scan → Text → Scan
  | s, [] =>
    let s := if s.nesting ≠ [] then { s with substitutions := s.substitutions ++ [s.body] } else s
    s.endCommand []
  | s, c :: t => run (s.step c t) t

end Scan

/-- What a shell reads in a text. -/
def read (text : Text) : Scan := Scan.run { command := { start := text } } text

/-- **The simple commands that a shell runs for a text**: its own, and those of its substitutions. -/
inductive Runs : Text → SimpleCommand → Prop
  | own {text : Text} {command : SimpleCommand} : command ∈ (read text).commands → Runs text command
  | substituted {text body : Text} {command : SimpleCommand} :
      body ∈ (read text).substitutions → Runs body command → Runs text command

/-- What holds of all commands is what holds of the own ones and in all substitutions. -/
theorem forall_runs_iff {P : SimpleCommand → Prop} {text : Text} :
    (∀ command, Runs text command → P command) ↔
      (∀ command ∈ (read text).commands, P command) ∧
        ∀ body ∈ (read text).substitutions, ∀ command, Runs body command → P command := by
  constructor
  · intro h
    exact ⟨fun command hown => h command (.own hown),
      fun body hbody command hruns => h command (.substituted hbody hruns)⟩
  · rintro ⟨hown, hsubstituted⟩ command hruns
    cases hruns with
    | own h => exact hown command h
    | substituted hbody h => exact hsubstituted _ hbody command h

/-- **The induction over a text**: an invariant of the reading that says of each command that ends
what is to be shown holds of all of them. -/
theorem commands_run {P : SimpleCommand → Prop} {I : Scan → Text → Prop}
    (hstep : ∀ s c t, I s (c :: t) → I (s.step c t) t)
    (hend : ∀ s, I s [] → ∀ command ∈ (s.run []).commands, P command) {s : Scan} {t : Text}
    (h : I s t) : ∀ command ∈ (s.run t).commands, P command := by
  induction t generalizing s with
  | nil => exact hend s h
  | cons c t ih => exact ih (hstep s c t h)

example : (read "df -h 2>&1 & echo \"$(cp a b; df)\" >x".toList).commands.map
      (fun c => (c.word, c.toFile)) =
      [(some "df".toList, false), (some "echo".toList, true)] ∧
    (read "df -h 2>&1 & echo \"$(cp a b; df)\" >x".toList).substitutions = ["cp a b; df".toList] := by
  decide

end DBClaw.Shell
