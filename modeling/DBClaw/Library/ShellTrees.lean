import DBClaw.Library.Shell

/-! # The trees of shell commands
What the grammar of a POSIX shell makes of a text: words with their quotes, the operators `;`, newline, `&`, `|`,
`&&` and `||`, subshells, redirections, the substitutions `$(...)` and backticks, and comments. Assignments, reserved
words and here-documents are left out. A word knows of each of its characters whether it is quoted, and has none
unquoted that would have ended it. -/

namespace DBClaw.ShellTrees

open Shell (Nesting isBlank unescape)

/-! ## Words -/

/-- A character that is part of a word where it is not quoted. -/
def isOrdinary (c : Char) : Bool :=
  ! [' ', '\t', '\n', ';', '&', '|', '<', '>', '(', ')', '\'', '"', '\\', '`'].contains c

/-- A part of a word: a character, unquoted or quoted, a quotation mark, or a substitution with its text. -/
inductive Part
  | char (c : Char)
  | quoted (c : Char)
  | mark (c : Char)
  | substitution (body : Text)
  deriving DecidableEq, Repr

/-- The part may be in a word. -/
def Part.Regular : Part → Prop
  | .char c => isOrdinary c = true
  | _ => True

/-- **A word.** -/
structure Word where
  parts : List Part
  regular : ∀ part ∈ parts, part.Regular
  /-- A `#` would begin a comment. -/
  starts : parts ≠ [] ∧ parts.head? ≠ some (.char '#')
  deriving DecidableEq

/-- The word is the text as it stands, with nothing quoted. -/
def Word.Spells (w : Word) (s : Text) : Prop := w.parts = s.map .char

/-- The word is the text in single quotes. -/
def Word.Quotes (w : Word) (s : Text) : Prop := w.parts = .mark '\'' :: s.map .quoted ++ [.mark '\'']

/-- The text is a word as it stands. -/
structure Plain (s : Text) : Prop where
  ordinary : ∀ c ∈ s, isOrdinary c = true
  nonempty : s ≠ []
  noComment : s.head? ≠ some '#'

theorem plain_iff {s : Text} : (s.all isOrdinary = true ∧ s ≠ [] ∧ s.head? ≠ some '#') ↔ Plain s := by
  rw [List.all_eq_true]
  exact ⟨fun h => ⟨h.1, h.2.1, h.2.2⟩, fun h => ⟨h.ordinary, h.nonempty, h.noComment⟩⟩

instance (s : Text) : Decidable (Plain s) := decidable_of_iff _ plain_iff

/-- A word of such a text. -/
def Plain.word {s : Text} (h : Plain s) : Word where
  parts := s.map .char
  regular part hpart := by
    obtain ⟨c, hc, rfl⟩ := List.mem_map.mp hpart
    exact h.ordinary c hc
  starts := by
    refine ⟨fun hnil => h.nonempty (List.map_eq_nil_iff.mp hnil), fun hhead => ?_⟩
    rw [List.head?_map, Option.map_eq_some_iff] at hhead
    obtain ⟨c, hc, hchar⟩ := hhead
    cases hchar
    exact h.noComment hc

/-- **A text stands in a word as it is if and only if it is plain.** -/
theorem exists_spells_iff (s : Text) : (∃ w : Word, w.Spells s) ↔ Plain s := by
  constructor
  · rintro ⟨w, hw⟩
    refine ⟨fun c hc => ?_, fun hnil => ?_, fun hhead => ?_⟩
    · exact w.regular (.char c) (hw ▸ List.mem_map_of_mem hc)
    · rw [hnil] at hw
      exact w.starts.1 hw
    · refine w.starts.2 ?_
      rw [hw, List.head?_map, hhead]
      rfl
  · intro h
    exact ⟨h.word, rfl⟩

/-- A part may begin a word. -/
def Part.Starts (part : Part) : Prop := part ≠ .char '#'

/-- A part is added to a word, or begins one. -/
def Word.add (w : Option Word) (part : Part) (h : part.Regular) (hstart : w = none → part.Starts) : Word where
  parts := w.elim [] Word.parts ++ [part]
  regular p hp := by
    rcases List.mem_append.mp hp with hp | hp
    · cases w with
      | none => cases hp
      | some w => exact w.regular p hp
    · rwa [List.mem_singleton.mp hp]
  starts := by
    refine ⟨List.append_ne_nil_of_right_ne_nil _ (List.cons_ne_nil _ _), ?_⟩
    cases w with
    | none => exact fun h => hstart rfl (Option.some.inj h)
    | some w =>
      rw [Option.elim_some, List.head?_append_of_ne_nil _ w.starts.1]
      exact w.starts.2

/-- The last part of the word was the beginning of a substitution. -/
def Word.substitute (w : Word) (body : Text) : Word where
  parts := w.parts.dropLast ++ [.substitution body]
  regular p hp := by
    rcases List.mem_append.mp hp with hp | hp
    · exact w.regular p (List.mem_of_mem_dropLast hp)
    · rw [List.mem_singleton.mp hp]
      trivial
  starts := by
    refine ⟨List.append_ne_nil_of_right_ne_nil _ (List.cons_ne_nil _ _), ?_⟩
    rcases hparts : w.parts with _ | ⟨p, _ | ⟨q, parts⟩⟩
    · exact absurd hparts w.starts.1
    · exact fun h => Part.noConfusion (Option.some.inj h)
    · have hstart := w.starts.2
      rw [hparts] at hstart
      exact hstart

/-! ## Tokens -/

/-- What a redirection does. -/
inductive Redirect
  | less | great | append | lessAnd | greatAnd | lessGreat | clobber
  deriving DecidableEq, Repr

inductive Operator
  | semicolon | ampersand | pipe | and | or | newline | opening | closing
  deriving DecidableEq, Repr

/-- A token: a redirection has the digits before it, the number of a file descriptor. -/
inductive Token
  | word (w : Word)
  | operator (o : Operator)
  | redirect (number : Text) (r : Redirect)
  deriving DecidableEq

/-- An operator that the next character may go on with. -/
inductive Begun
  | ampersand | pipe
  | less (number : Text)
  | great (number : Text)
  deriving DecidableEq, Repr

/-- The operator where nothing goes on with it. -/
def Begun.token : Begun → Token
  | .ampersand => .operator .ampersand
  | .pipe => .operator .pipe
  | .less number => .redirect number .less
  | .great number => .redirect number .great

/-- The operator that a character makes of it. -/
def Begun.goOn : Begun → Char → Option Token
  | .ampersand, '&' => some (.operator .and)
  | .pipe, '|' => some (.operator .or)
  | .less number, '&' => some (.redirect number .lessAnd)
  | .less number, '>' => some (.redirect number .lessGreat)
  | .great number, '>' => some (.redirect number .append)
  | .great number, '&' => some (.redirect number .greatAnd)
  | .great number, '|' => some (.redirect number .clobber)
  | _, _ => none

/-- Where the reading has got to; `double` is whether it is inside double quotes. -/
inductive Mode
  | unquoted
  /-- After an unquoted `$`, and after one inside double quotes. -/
  | dollar (double : Bool)
  | operator (begun : Begun)
  | comment
  | single
  | double
  | escaped (double : Bool)
  | inside (double : Bool) (nesting : List Nesting) (escaped : Bool) (body : Text)
  | failed
  deriving DecidableEq, Repr

/-- The state of the reading: the word that has begun, and the mode. -/
structure State where
  word : Option Word := none
  mode : Mode := .unquoted
  deriving DecidableEq

namespace State

/-- The word ends. -/
def ended (s : State) : List Token := s.word.toList.map .word

/-- A part that is not an unquoted character. -/
def push (s : State) (part : Part) (h : part.Regular) (hstart : part.Starts) (mode : Mode) : State where
  word := some (Word.add s.word part h fun _ => hstart)
  mode := mode

def quoted (s : State) (c : Char) (mode : Mode) : State :=
  s.push (.quoted c) trivial Part.noConfusion mode

def mark (s : State) (c : Char) (mode : Mode) : State := s.push (.mark c) trivial Part.noConfusion mode

/-- The digits that are the number of a file descriptor. -/
def number (s : State) : Option Text :=
  s.word.bind fun w => w.parts.mapM fun
    | .char c => if c.isDigit then some c else none
    | _ => none

/-- A redirection begins: digits before it are not a word. -/
def redirect (s : State) (begun : Text → Begun) : List Token × State :=
  match s.number with
  | some number => ([], { mode := .operator (begun number) })
  | none => (s.ended, { mode := .operator (begun []) })

/-- A character outside of quotes. -/
def unquoted (s : State) (c : Char) : List Token × State :=
  if h : isOrdinary c = true then
    if hstart : s.word = none ∧ c = '#' then ([], { s with mode := .comment })
    else
      ([], {
        word := some (Word.add s.word (.char c) h fun hnone hc => hstart ⟨hnone, Part.char.inj hc⟩)
        mode := if c = '$' then .dollar false else .unquoted })
  else if c = '\'' then ([], s.mark c .single)
  else if c = '"' then ([], s.mark c .double)
  else if c = '\\' then ([], { s with mode := .escaped false })
  else if c = '`' then ([], s.mark c (.inside false [.backtick] false []))
  else if c = ';' then (s.ended ++ [.operator .semicolon], {})
  else if c = '\n' then (s.ended ++ [.operator .newline], {})
  else if c = '(' then (s.ended ++ [.operator .opening], {})
  else if c = ')' then (s.ended ++ [.operator .closing], {})
  else if c = '&' then (s.ended, { mode := .operator .ampersand })
  else if c = '|' then (s.ended, { mode := .operator .pipe })
  else if c = '<' then s.redirect .less
  else if c = '>' then s.redirect .great
  else (s.ended, {})

/-- A character after one that an operator may begin with. -/
def afterOperator (begun : Begun) (c : Char) : List Token × State :=
  match begun.goOn c, begun, c with
  | some token, _, _ => ([token], {})
  -- a here-document
  | none, .less _, '<' => ([], { mode := .failed })
  | none, _, _ => ([begun.token] ++ (unquoted {} c).1, (unquoted {} c).2)

/-- A character inside double quotes. -/
def doubleQuoted (s : State) (c : Char) : State :=
  if c = '"' then s.mark c .unquoted
  else if c = '\\' then { s with mode := .escaped true }
  else if c = '`' then s.mark c (.inside true [.backtick] false [])
  else s.quoted c (if c = '$' then .dollar true else .double)

/-- A character after a backslash: inside double quotes only some can be escaped. -/
def afterBackslash (s : State) (isDouble : Bool) (c : Char) : State :=
  let mode : Mode := if isDouble then .double else .unquoted
  if c = '\n' then { s with mode := mode }
  else if isDouble ∧ ¬ (c = '$' ∨ c = '`' ∨ c = '"' ∨ c = '\\') then (s.quoted '\\' mode).quoted c mode
  else s.quoted c mode

/-- The innermost thing that is open in a substitution closes. -/
def close (s : State) (isDouble : Bool) (nesting : List Nesting) (body : Text) (c : Char) : State :=
  match nesting with
  | [.backtick] =>
    { word := s.word.map (Word.substitute · (unescape body)), mode := if isDouble then .double else .unquoted }
  | [_] => { word := s.word.map (Word.substitute · body), mode := if isDouble then .double else .unquoted }
  | _ => { s with mode := .inside isDouble nesting.tail false (body ++ [c]) }

/-- A character inside a substitution. -/
def inSubstitution (s : State) (isDouble : Bool) (nesting : List Nesting) (escaped : Bool) (body : Text) (c : Char) :
    State :=
  let goOn (nesting : List Nesting) (escaped : Bool) : State :=
    { s with mode := .inside isDouble nesting escaped (body ++ [c]) }
  if escaped then goOn nesting false
  else
    match nesting.head? with
    | some .single => if c = '\'' then s.close isDouble nesting body c else goOn nesting false
    | some .backtick => if c = '`' then s.close isDouble nesting body c else goOn nesting (c = '\\')
    | some .double =>
      if c = '"' then s.close isDouble nesting body c
      else if c = '`' then goOn (.backtick :: nesting) false
      else if c = '(' ∧ body.getLast? = some '$' then goOn (.paren :: nesting) false
      else goOn nesting (c = '\\')
    | _ =>
      if c = ')' then s.close isDouble nesting body c
      else if c = '(' then goOn (.paren :: nesting) false
      else if c = '\'' then goOn (.single :: nesting) false
      else if c = '"' then goOn (.double :: nesting) false
      else if c = '`' then goOn (.backtick :: nesting) false
      else goOn nesting (c = '\\')

/-- **One character**: the tokens that it ends. -/
def step (s : State) (c : Char) : List Token × State :=
  match s.mode with
  | .unquoted => s.unquoted c
  | .dollar isDouble =>
    if c = '(' then ([], { s with mode := .inside isDouble [.paren] false [] })
    else if isDouble then ([], s.doubleQuoted c)
    else s.unquoted c
  | .operator begun => afterOperator begun c
  | .comment => if c = '\n' then unquoted {} c else ([], s)
  | .single => ([], if c = '\'' then s.mark c .unquoted else s.quoted c .single)
  | .double => ([], s.doubleQuoted c)
  | .escaped isDouble => ([], s.afterBackslash isDouble c)
  | .inside isDouble nesting escaped body => ([], s.inSubstitution isDouble nesting escaped body c)
  | .failed => ([], s)

/-- A text, character by character. -/
def run : State → Text → List Token × State
  | s, [] => ([], s)
  | s, c :: t => ((s.step c).1 ++ ((s.step c).2.run t).1, ((s.step c).2.run t).2)

/-- The tokens at the end of the text; nothing may be left open. -/
def atEnd (s : State) : Option (List Token) :=
  match s.mode with
  | .unquoted | .dollar false | .comment => some s.ended
  | .operator begun => some [begun.token]
  | _ => none

end State

/-- **The tokens of a text.** -/
def tokens (text : Text) : Option (List Token) :=
  let read := State.run {} text
  read.2.atEnd.map fun last => read.1 ++ last

/-! ## Trees -/

/-- A redirection with the word that it goes to. -/
structure Redirection where
  number : Text
  operator : Redirect
  target : Word
  deriving DecidableEq

/-- **The tree of a text**, of simple commands and subshells. -/
inductive Tree
  | simple (words : List Word) (redirections : List Redirection)
  | subshell (body : Tree) (redirections : List Redirection)
  | pipe (left right : Tree)
  | and (left right : Tree)
  | or (left right : Tree)
  | sequence (left right : Tree)
  | background (tree : Tree)
  deriving DecidableEq

/-- The words and the redirections that come first. -/
def simpleCommand : List Token → Option (List Word × List Redirection × List Token)
  | .word w :: ts => (simpleCommand ts).map fun (words, redirections, rest) => (w :: words, redirections, rest)
  | .redirect number r :: .word w :: ts =>
    (simpleCommand ts).map fun (words, redirections, rest) => (words, ⟨number, r, w⟩ :: redirections, rest)
  | .redirect _ _ :: _ => none
  | ts => some ([], [], ts)

def skipNewlines (ts : List Token) : List Token := ts.dropWhile (· = .operator .newline)

/-- Nothing of a list comes any more. -/
def ends : List Token → Bool
  | [] | .operator .closing :: _ => true
  | _ => false

mutual

/-- A simple command or a subshell. -/
def command : ℕ → List Token → Option (Tree × List Token)
  | 0, _ => none
  | n + 1, .operator .opening :: ts =>
    match commandList n (skipNewlines ts) with
    | some (body, .operator .closing :: rest) =>
      match simpleCommand rest with
      | some ([], redirections, rest) => some (.subshell body redirections, rest)
      | _ => none
    | _ => none
  | _ + 1, ts =>
    match simpleCommand ts with
    | none | some ([], [], _) => none
    | some (words, redirections, rest) => some (.simple words redirections, rest)

/-- A pipeline, and what goes on with one. -/
def pipeline : ℕ → List Token → Option (Tree × List Token)
  | 0, _ => none
  | n + 1, ts => (command n ts).bind fun (left, rest) => pipelineRest n left rest

def pipelineRest : ℕ → Tree → List Token → Option (Tree × List Token)
  | 0, _, _ => none
  | n + 1, left, .operator .pipe :: ts =>
    (command n (skipNewlines ts)).bind fun (right, rest) => pipelineRest n (.pipe left right) rest
  | _ + 1, left, ts => some (left, ts)

/-- Pipelines with `&&` and `||` between them. -/
def andOr : ℕ → List Token → Option (Tree × List Token)
  | 0, _ => none
  | n + 1, ts => (pipeline n ts).bind fun (left, rest) => andOrRest n left rest

def andOrRest : ℕ → Tree → List Token → Option (Tree × List Token)
  | 0, _, _ => none
  | n + 1, left, .operator .and :: ts =>
    (pipeline n (skipNewlines ts)).bind fun (right, rest) => andOrRest n (.and left right) rest
  | n + 1, left, .operator .or :: ts =>
    (pipeline n (skipNewlines ts)).bind fun (right, rest) => andOrRest n (.or left right) rest
  | _ + 1, left, ts => some (left, ts)

/-- A list of them. -/
def commandList : ℕ → List Token → Option (Tree × List Token)
  | 0, _ => none
  | n + 1, ts =>
    (andOr n ts).bind fun (first, rest) =>
      match rest with
      | .operator .semicolon :: ts | .operator .newline :: ts => listRest n first (skipNewlines ts)
      | .operator .ampersand :: ts => listRest n (.background first) (skipNewlines ts)
      | ts => some (first, ts)

def listRest : ℕ → Tree → List Token → Option (Tree × List Token)
  | 0, _, _ => none
  | n + 1, first, ts =>
    if ends ts then some (first, ts)
    else (commandList n ts).map fun (others, rest) => (.sequence first others, rest)

end

/-- The tree of tokens; no token takes more than eight calls. -/
def parseTokens (ts : List Token) : Option Tree :=
  match commandList (8 * (ts.length + 1)) (skipNewlines ts) with
  | some (tree, []) => some tree
  | _ => none

/-- **The tree of a text**, where it has one. -/
def parse (text : Text) : Option Tree := (tokens text).bind parseTokens

/-! ## Reading a plain text -/

namespace State

variable {s s' s'' : State} {t t' : Text} {ts ts' : List Token}

/-- **The text leads from a state to another one** and ends the tokens. -/
def Reads (s : State) (t : Text) (ts : List Token) (s' : State) : Prop := s.run t = (ts, s')

theorem Reads.append (h : s.Reads t ts s') (h' : s'.Reads t' ts' s'') : s.Reads (t ++ t') (ts ++ ts') s'' := by
  rw [Reads] at h h' ⊢
  induction t generalizing s ts with
  | nil =>
    rw [run, Prod.mk.injEq] at h
    obtain ⟨rfl, rfl⟩ := h
    exact h'
  | cons c t ih =>
    rw [run, Prod.mk.injEq] at h
    obtain ⟨rfl, hs⟩ := h
    have hrun : (s.step c).2.run t = (((s.step c).2.run t).1, s') := Prod.ext rfl hs
    have hrest := ih hrun
    rw [List.cons_append, run, hrest, List.append_assoc]

theorem step_dollar (w : Option Word) {c : Char} (hc : c ≠ '(') :
    State.step ⟨w, .dollar false⟩ c = State.step ⟨w, .unquoted⟩ c :=
  (if_neg hc).trans (if_neg Bool.false_ne_true)

theorem step_single (w : Option Word) {c : Char} (hc : c ≠ '\'') :
    State.step ⟨w, .single⟩ c = ([], State.quoted ⟨w, .single⟩ c .single) :=
  congrArg (Prod.mk []) (if_neg hc)

/-- A character of a word, also after a `$`. -/
theorem step_ordinary {w : Option Word} {c : Char} (hc : isOrdinary c = true) (hstart : w = none → c ≠ '#')
    {m : Mode} (hm : m = .unquoted ∨ m = .dollar false) :
    State.step ⟨w, m⟩ c = ([], ⟨some (Word.add w (.char c) hc fun hnone hchar => hstart hnone (Part.char.inj hchar)),
      if c = '$' then .dollar false else .unquoted⟩) := by
  have hunquoted : State.step ⟨w, .unquoted⟩ c = ([], ⟨some (Word.add w (.char c) hc
      fun hnone hchar => hstart hnone (Part.char.inj hchar)), if c = '$' then .dollar false else .unquoted⟩) :=
    (dif_pos hc).trans (dif_neg fun h => hstart h.1 h.2)
  rcases hm with rfl | rfl
  · exact hunquoted
  · have hparen : c ≠ '(' := fun h => absurd (h ▸ hc) (by decide)
    exact (step_dollar w hparen).trans hunquoted

/-- A word goes on with ordinary characters. -/
theorem reads_ordinary {t : Text} (ht : ∀ c ∈ t, isOrdinary c = true) (w : Word) {m : Mode}
    (hm : m = .unquoted ∨ m = .dollar false) :
    ∃ (w' : Word) (m' : Mode), (m' = .unquoted ∨ m' = .dollar false) ∧ w'.parts = w.parts ++ t.map .char ∧
      State.Reads ⟨some w, m⟩ t [] ⟨some w', m'⟩ := by
  induction t generalizing w m with
  | nil => exact ⟨w, m, hm, (List.append_nil _).symm, rfl⟩
  | cons c t ih =>
    have hstart : some w = none → c ≠ '#' := fun h => absurd h (Option.some_ne_none w)
    have hstep := step_ordinary (w := some w) (ht c List.mem_cons_self) hstart hm
    obtain ⟨w', m', hm', hparts, hreads⟩ := ih (fun d hd => ht d (List.mem_cons_of_mem _ hd))
      (Word.add (some w) (.char c) (ht c List.mem_cons_self) fun h => absurd h (Option.some_ne_none w))
      (m := if c = '$' then .dollar false else .unquoted) (by split <;> simp)
    refine ⟨w', m', hm', hparts.trans (List.append_assoc _ _ _), ?_⟩
    rw [Reads] at hreads ⊢
    rw [run, hstep, hreads]
    rfl

/-- **A plain text is read as a word.** -/
theorem reads_plain {t : Text} (h : Plain t) :
    ∃ (w : Word) (m : Mode), (m = .unquoted ∨ m = .dollar false) ∧ w.Spells t ∧ State.Reads {} t [] ⟨some w, m⟩ := by
  rcases t with _ | ⟨c, t⟩
  · exact absurd rfl h.nonempty
  · have hc := h.ordinary c List.mem_cons_self
    have hstart : (none : Option Word) = none → c ≠ '#' := fun _ hc => h.noComment (congrArg some hc)
    have hstep := step_ordinary (w := none) hc hstart (.inl rfl)
    obtain ⟨w, m, hm, hparts, hreads⟩ := reads_ordinary (fun d hd => h.ordinary d (List.mem_cons_of_mem _ hd))
      (Word.add none (.char c) hc fun hnone hchar => hstart hnone (Part.char.inj hchar))
      (m := if c = '$' then .dollar false else .unquoted) (by split <;> simp)
    refine ⟨w, m, hm, hparts, ?_⟩
    rw [Reads] at hreads ⊢
    rw [run, hstep, hreads]
    rfl

/-- After a `$` the next character is read as any other one, unless it makes a substitution of it. -/
theorem Reads.of_unquoted {w : Option Word} {c : Char} {t : Text} (h : State.Reads ⟨w, .unquoted⟩ (c :: t) ts s')
    (hc : c ≠ '(') {m : Mode} (hm : m = .unquoted ∨ m = .dollar false) : State.Reads ⟨w, m⟩ (c :: t) ts s' := by
  rcases hm with rfl | rfl
  · exact h
  · rw [Reads, run] at h ⊢
    rwa [step_dollar w hc]

/-- A character that does not go on with an operator. -/
theorem afterOperator_eq {begun : Begun} {c : Char} (hgoOn : begun.goOn c = none) (hc : c ≠ '<') :
    afterOperator begun c = (begun.token :: (State.step {} c).1, (State.step {} c).2) := by
  unfold afterOperator
  split
  · rename_i hgo
    rw [hgo] at hgoOn
    cases hgoOn
  · exact absurd rfl hc
  · rfl

theorem Reads.afterOperator {begun : Begun} {c : Char} {t : Text} (h : State.Reads {} (c :: t) ts s')
    (hgoOn : begun.goOn c = none) (hc : c ≠ '<') :
    State.Reads ⟨none, .operator begun⟩ (c :: t) (begun.token :: ts) s' := by
  have hstep : State.step ⟨none, .operator begun⟩ c = (begun.token :: (State.step {} c).1, (State.step {} c).2) :=
    afterOperator_eq hgoOn hc
  rw [Reads, run, Prod.mk.injEq] at h ⊢
  rw [hstep]
  exact ⟨congrArg (begun.token :: ·) h.1, h.2⟩

/-- Characters in single quotes. -/
theorem reads_single {t : Text} (ht : '\'' ∉ t) (w : Word) :
    ∃ w' : Word, w'.parts = w.parts ++ t.map .quoted ∧ State.Reads ⟨some w, .single⟩ t [] ⟨some w', .single⟩ := by
  induction t generalizing w with
  | nil => exact ⟨w, (List.append_nil _).symm, rfl⟩
  | cons c t ih =>
    rw [List.mem_cons, not_or] at ht
    have hstep := step_single (some w) (Ne.symm ht.1)
    obtain ⟨w', hparts, hreads⟩ := ih ht.2 (Word.add (some w) (.quoted c) trivial fun _ => Part.noConfusion)
    refine ⟨w', hparts.trans (List.append_assoc _ _ _), ?_⟩
    rw [Reads] at hreads ⊢
    rw [run, hstep]
    exact Prod.ext (congrArg Prod.fst hreads) (congrArg Prod.snd hreads)

/-- A single quote begins a word. -/
def quoteBegun : Word := Word.add none (.mark '\'') trivial fun _ => Part.noConfusion

/-- **A text in single quotes is read as one word**, which the second quote ends. -/
theorem reads_quoted {t : Text} (ht : '\'' ∉ t) :
    ∃ w w' : Word, w'.Quotes t ∧ State.Reads ⟨some quoteBegun, .single⟩ t [] ⟨some w, .single⟩ ∧
      State.Reads ⟨some w, .single⟩ ['\''] [] ⟨some w', .unquoted⟩ := by
  obtain ⟨w, hparts, hreads⟩ := reads_single ht quoteBegun
  exact ⟨w, Word.add (some w) (.mark '\'') trivial fun _ => Part.noConfusion,
    congrArg (· ++ [Part.mark '\'']) hparts, hreads, rfl⟩

/-- The text of a literal is its list of characters. -/
theorem reads_lit {l : List Char} (h : s.Reads l ts s') : s.Reads (String.ofList l).toList ts s' := by
  rwa [String.toList_ofList]

theorem tokens_of_reads (h : State.Reads {} t ts s') (hend : s'.atEnd = some ts') : tokens t = some (ts ++ ts') := by
  rw [Reads] at h
  rw [tokens, h, hend]
  rfl

end State

end DBClaw.ShellTrees
