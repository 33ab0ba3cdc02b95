import DBClaw.Library.ShellTrees
import Mathlib

/-! # Where commands stand in a text
The places of a text at which a shell runs a command: the command word with the text before it and the text after it,
for the commands of the text itself and of its substitutions, however they are nested (`RunsAt`). Before a command word
stands a character that separates commands or words, or that opens a substitution; after it stands one that ends a word
(`RunsAt.neighbours`). The reserved words `{` and `}` group commands; whether each group is closed is not asked. -/

namespace DBClaw.ShellTrees

open Shell (Nesting unescape)

/-! ## Places -/

/-- What the next word is: the command word of a command unless it is the word that a redirection goes to. -/
structure Place where
  command : Bool
  target : Bool
  deriving DecidableEq, Repr

/-- At the beginning of a command. -/
def Place.start : Place := ⟨true, false⟩

/-- The reserved word `{`. -/
def isBrace (w : Word) : Bool := w.parts = [.char '\x7b']

/-- The place after a token. -/
def Place.next (p : Place) : Token → Place
  | .operator .closing => ⟨false, false⟩
  | .operator _ => .start
  | .redirect _ _ => ⟨p.command, true⟩
  | .word w => if p.target then ⟨p.command, false⟩ else ⟨p.command && isBrace w, false⟩

/-- The place after some tokens. -/
def placeAfter (ts : List Token) : Place := ts.foldl Place.next .start

/-- The tokens that are read so far, with an operator that may still go on. -/
def State.tokensSoFar (read : List Token × State) : List Token :=
  match read.2.mode with
  | .operator begun => read.1 ++ [begun.token]
  | _ => read.1

/-- No word has begun, and one may begin. -/
def State.isBetween (s : State) : Bool :=
  s.word = none &&
    match s.mode with
    | .unquoted | .operator _ => true
    | _ => false

/-- **After the text a shell expects a command.** -/
def Expects (pre : Text) : Prop :=
  (State.run {} pre).2.isBetween = true ∧ placeAfter (State.tokensSoFar (State.run {} pre)) = .start

instance (pre : Text) : Decidable (Expects pre) := inferInstanceAs (Decidable (_ ∧ _))

/-- The characters that end a word. -/
def wordEnds : List Char := [' ', '\t', '\n', ';', '&', '|', '(', ')', '<', '>']

/-- Nothing more of a word comes. -/
def EndsWord (post : Text) : Prop := ∀ c ∈ post.head?, c ∈ wordEnds

instance (post : Text) : Decidable (EndsWord post) := inferInstanceAs (Decidable (∀ c ∈ post.head?, c ∈ wordEnds))

/-- The last character of what opens a substitution. -/
def openingOf : Nesting → Char
  | .backtick => '`'
  | _ => '('

/-- What closes a substitution. -/
def closingOf : Nesting → Char
  | .backtick => '`'
  | _ => ')'

/-- The text of a substitution as it is read: between backticks a backslash may escape a character. -/
def readIn : Nesting → Text → Text
  | .backtick, t => unescape t
  | _, t => t

/-- **The text is that of a substitution**: it is opened by the text before it and closed by the text after it. -/
def Substituted (n : Nesting) (before body after : Text) : Prop :=
  ∃ isDouble, (State.run {} before).2.mode = .inside isDouble [n] false [] ∧
    ((State.run {} before).2.run body).2.mode = .inside isDouble [n] false body ∧ after.head? = some (closingOf n)

/-- **The text is read as commands** up to the end of a line after the part of it that comes first: a shell runs the
lines of a text before it reads on. -/
def Complete (part after : Text) : Prop :=
  ∃ lines rest, after = lines ++ rest ∧ (∀ c ∈ rest.head?, c = '\n') ∧ (parse (part ++ lines)).isSome

/-- **A shell runs a command** whose command word stands between two texts: it is one of the text itself, or one of the
text of a substitution. -/
inductive RunsAt : Text → Text → Text → Prop
  | own {pre word post : Text} : Complete (pre ++ word) post → Expects pre → Plain word → EndsWord post →
      RunsAt pre word post
  | substituted {n : Nesting} {before pre word post after : Text} : Complete (before ++ (pre ++ (word ++ post))) after →
      Substituted n before (pre ++ (word ++ post)) after →
      readIn n (pre ++ (word ++ post)) = readIn n pre ++ (word ++ readIn n post) →
      RunsAt (readIn n pre) word (readIn n post) → RunsAt (before ++ pre) word (post ++ after)

/-! ## What stands beside a command word -/

namespace State

variable {s : State} {c : Char} {t : Text} {ts : List Token}

theorem run_append (s : State) (t t' : Text) :
    s.run (t ++ t') = ((s.run t).1 ++ ((s.run t).2.run t').1, ((s.run t).2.run t').2) :=
  have hfirst : s.Reads t (s.run t).1 (s.run t).2 := rfl
  hfirst.append rfl

theorem run_concat (s : State) (t : Text) (c : Char) :
    s.run (t ++ [c]) = ((s.run t).1 ++ ((s.run t).2.step c).1, ((s.run t).2.step c).2) := by
  rw [run_append]
  exact Prod.ext (congrArg ((s.run t).1 ++ ·) (List.append_nil _)) rfl

/-- The characters that separate commands and words. -/
def separators : List Char := [' ', '\t', '\n', ';', '&', '|', '(', ')']

/-- Where a redirection has just been read, its word comes next. -/
def EndsWithRedirect (ts : List Token) : Prop := ∃ n r, ts.getLast? = some (.redirect n r)

theorem EndsWithRedirect.append (h : EndsWithRedirect ts) (ts' : List Token) : EndsWithRedirect (ts' ++ ts) := by
  obtain ⟨n, r, hlast⟩ := h
  refine ⟨n, r, ?_⟩
  rw [List.getLast?_append, hlast]
  rfl

theorem endsWithRedirect_concat (ts : List Token) (n : Text) (r : Redirect) : EndsWithRedirect (ts ++ [.redirect n r]) :=
  ⟨n, r, List.getLast?_concat⟩

theorem tokensSoFar_append (ts : List Token) (read : List Token × State) :
    tokensSoFar (ts ++ read.1, read.2) = ts ++ tokensSoFar read := by
  rw [tokensSoFar, tokensSoFar]
  dsimp only
  split
  · exact List.append_assoc _ _ _
  · rfl

/-- A state in which a word has begun is not between words. -/
theorem isBetween_eq_false {s : State} (h : s.word ≠ none) : s.isBetween = false := by
  rw [isBetween, decide_eq_false h]
  rfl

/-- The word goes on while something in it is open. -/
def HasWord (s : State) : Prop :=
  match s.mode with
  | .dollar _ | .inside .. | .single | .double | .escaped true => s.word ≠ none
  | _ => True

theorem hasWord_of_ne_none (h : s.word ≠ none) : s.HasWord := by
  unfold HasWord
  split
  all_goals first
    | exact h
    | trivial

/-- **What a character leads to**: where it has opened a substitution it is the last one of what opens it, and where it
leaves no word it separates words, or is that of a redirection. -/
structure Reached (c : Char) (read : List Token × State) : Prop where
  hasWord : read.2.HasWord
  opens : ∀ isDouble n escaped, read.2.mode = .inside isDouble [n] escaped [] → c = openingOf n
  between : read.2.isBetween = true → c ∈ separators ∨ EndsWithRedirect (tokensSoFar read)

/-- A word has begun, and no substitution. -/
theorem Reached.of_word {read : List Token × State} (hword : read.2.word ≠ none)
    (hmode : ∀ isDouble n escaped, read.2.mode ≠ .inside isDouble [n] escaped []) : Reached c read where
  hasWord := hasWord_of_ne_none hword
  opens isDouble n escaped h := absurd h (hmode isDouble n escaped)
  between h := by
    rw [isBetween_eq_false hword] at h
    cases h

theorem Reached.append {read : List Token × State} (h : Reached c read) (ts : List Token) :
    Reached c (ts ++ read.1, read.2) where
  hasWord := h.hasWord
  opens := h.opens
  between hbetween := by
    rw [tokensSoFar_append]
    exact (h.between hbetween).imp_right fun hredirect => hredirect.append ts

theorem redirect_reached (s : State) (begun : Text → Begun) (hbegun : ∀ n, ∃ r, (begun n).token = .redirect n r) :
    Reached c (s.redirect begun) := by
  have hends (ts : List Token) (n : Text) :
      EndsWithRedirect (tokensSoFar (ts, ({ mode := .operator (begun n) } : State))) := by
    obtain ⟨r, hr⟩ := hbegun n
    show EndsWithRedirect (ts ++ [(begun n).token])
    rw [hr]
    exact endsWithRedirect_concat _ _ _
  unfold redirect
  split
  · exact ⟨trivial, fun _ _ _ h => Mode.noConfusion h, fun _ => .inr (hends _ _)⟩
  · exact ⟨trivial, fun _ _ _ h => Mode.noConfusion h, fun _ => .inr (hends _ _)⟩

/-- A character that is not part of a word as it stands. -/
theorem mem_of_not_isOrdinary {c : Char} (h : ¬ isOrdinary c = true) :
    c ∈ [' ', '\t', '\n', ';', '&', '|', '<', '>', '(', ')', '\'', '"', '\\', '`'] := by
  rwa [isOrdinary, Bool.not_eq_true', Bool.not_eq_false, List.contains_iff_mem] at h

theorem unquoted_reached (s : State) (c : Char) : Reached c (s.unquoted c) := by
  by_cases hord : isOrdinary c = true
  · -- a word or a comment
    rw [unquoted, dif_pos hord]
    split
    · refine ⟨trivial, fun _ _ _ h => Mode.noConfusion h, fun h => ?_⟩
      rw [isBetween, Bool.and_false] at h
      cases h
    · refine Reached.of_word (Option.some_ne_none _) fun _ _ _ => ?_
      dsimp only
      split
      · exact Mode.noConfusion
      · exact Mode.noConfusion
  · have hmem := mem_of_not_isOrdinary hord
    have hgap {c : Char} (hc : c ∈ separators) (ts : List Token) (m : Mode)
        (hm : m = .unquoted ∨ ∃ begun, m = .operator begun) : Reached c (ts, ({ mode := m } : State)) := by
      rcases hm with rfl | ⟨begun, rfl⟩
      · exact ⟨trivial, fun _ _ _ h => Mode.noConfusion h, fun _ => .inl hc⟩
      · exact ⟨trivial, fun _ _ _ h => Mode.noConfusion h, fun _ => .inl hc⟩
    simp only [List.mem_cons, List.not_mem_nil, or_false] at hmem
    rcases hmem with rfl | rfl | rfl | rfl | rfl | rfl | rfl | rfl | rfl | rfl | rfl | rfl | rfl | rfl
    · exact hgap (by decide) _ _ (.inl rfl)
    · exact hgap (by decide) _ _ (.inl rfl)
    · exact hgap (by decide) _ _ (.inl rfl)
    · exact hgap (by decide) _ _ (.inl rfl)
    · exact hgap (by decide) _ _ (.inr ⟨_, rfl⟩)
    · exact hgap (by decide) _ _ (.inr ⟨_, rfl⟩)
    · exact redirect_reached s .less fun n => ⟨_, rfl⟩
    · exact redirect_reached s .great fun n => ⟨_, rfl⟩
    · exact hgap (by decide) _ _ (.inl rfl)
    · exact hgap (by decide) _ _ (.inl rfl)
    · exact Reached.of_word (Option.some_ne_none _) fun _ _ _ => Mode.noConfusion
    · exact Reached.of_word (Option.some_ne_none _) fun _ _ _ => Mode.noConfusion
    · refine ⟨trivial, fun _ _ _ h => Mode.noConfusion h, fun h => ?_⟩
      have hfalse : (s.unquoted '\\').2.isBetween = false := Bool.and_false _
      rw [hfalse] at h
      cases h
    · refine ⟨hasWord_of_ne_none (Option.some_ne_none _), fun _ _ _ h => ?_, fun h => ?_⟩
      · cases h
        rfl
      · rw [isBetween_eq_false (Option.some_ne_none _)] at h
        cases h

/-- What goes on with an operator separates commands, or makes another redirection of it. -/
theorem goOn_some {begun : Begun} {token : Token} (h : begun.goOn c = some token) :
    c ∈ separators ∨ ∃ n r, token = .redirect n r := by
  unfold Begun.goOn at h
  split at h
  · exact .inl (by decide)
  · exact .inl (by decide)
  · exact .inr ⟨_, _, (Option.some.inj h).symm⟩
  · exact .inr ⟨_, _, (Option.some.inj h).symm⟩
  · exact .inr ⟨_, _, (Option.some.inj h).symm⟩
  · exact .inr ⟨_, _, (Option.some.inj h).symm⟩
  · exact .inr ⟨_, _, (Option.some.inj h).symm⟩
  · cases h

theorem afterOperator_reached (begun : Begun) (c : Char) : Reached c (afterOperator begun c) := by
  unfold afterOperator
  split
  · rename_i token hgoOn
    refine ⟨trivial, fun _ _ _ h => Mode.noConfusion h, fun _ => (goOn_some hgoOn).imp_right ?_⟩
    rintro ⟨n, r, rfl⟩
    exact endsWithRedirect_concat [] n r
  · -- a here-document is not read
    refine ⟨trivial, fun _ _ _ h => Mode.noConfusion h, fun h => ?_⟩
    cases h
  · exact (unquoted_reached {} _).append _

theorem doubleQuoted_reached (hs : s.word ≠ none) (c : Char) (ts : List Token) : Reached c (ts, s.doubleQuoted c) := by
  unfold doubleQuoted
  split_ifs with hmark hbackslash htick hdollar
  · exact Reached.of_word (Option.some_ne_none _) fun _ _ _ => Mode.noConfusion
  · exact Reached.of_word hs fun _ _ _ => Mode.noConfusion
  · refine ⟨hasWord_of_ne_none (Option.some_ne_none _), fun _ _ _ h => ?_, fun h => ?_⟩
    · cases h
      exact htick
    · rw [isBetween_eq_false (Option.some_ne_none _)] at h
      cases h
  · exact Reached.of_word (Option.some_ne_none _) fun _ _ _ => Mode.noConfusion
  · exact Reached.of_word (Option.some_ne_none _) fun _ _ _ => Mode.noConfusion

theorem afterBackslash_reached (hs : s.mode = .escaped true → s.word ≠ none) {isDouble : Bool}
    (hmode : s.mode = .escaped isDouble) (c : Char) (ts : List Token) : Reached c (ts, s.afterBackslash isDouble c) := by
  have hquoted (s : State) (d : Char) : Reached c (ts, s.quoted d (if isDouble then .double else .unquoted)) := by
    refine Reached.of_word (Option.some_ne_none _) fun _ _ _ => ?_
    cases isDouble with
    | false => exact Mode.noConfusion
    | true => exact Mode.noConfusion
  unfold afterBackslash
  dsimp only
  split
  · -- the line goes on
    rename_i hnewline
    cases isDouble with
    | false => exact ⟨trivial, fun _ _ _ h => Mode.noConfusion h, fun _ => .inl (hnewline ▸ by decide)⟩
    | true => exact Reached.of_word (hs hmode) fun _ _ _ => Mode.noConfusion
  · split
    · exact hquoted _ c
    · exact hquoted _ c

/-- The mode is that of a word in which nothing is open, or of a substitution whose text has gone on. -/
def GoesOn (isDouble : Bool) (body : Text) (m : Mode) : Prop :=
  m = .unquoted ∨ m = .double ∨ ∃ nesting escaped, m = .inside isDouble nesting escaped body

theorem close_spec (hs : s.word ≠ none) (isDouble : Bool) (nesting : List Nesting) (body : Text) (c : Char) :
    (s.close isDouble nesting body c).word ≠ none ∧
      GoesOn isDouble (body ++ [c]) (s.close isDouble nesting body c).mode := by
  have hmap (f : Word → Word) : s.word.map f ≠ none := fun hnone => hs (Option.map_eq_none_iff.mp hnone)
  have hmode : GoesOn isDouble (body ++ [c]) (if isDouble then .double else .unquoted) := by
    split
    · exact .inr (.inl rfl)
    · exact .inl rfl
  unfold close
  split
  · exact ⟨hmap _, hmode⟩
  · exact ⟨hmap _, hmode⟩
  · exact ⟨hs, .inr (.inr ⟨_, _, rfl⟩)⟩

/-- **A character inside a substitution** closes something or goes on with the text. -/
theorem inSubstitution_spec (hs : s.word ≠ none) (isDouble : Bool) (nesting : List Nesting) (escaped : Bool)
    (body : Text) (c : Char) :
    (s.inSubstitution isDouble nesting escaped body c).word ≠ none ∧
      GoesOn isDouble (body ++ [c]) (s.inSubstitution isDouble nesting escaped body c).mode := by
  have hclose := close_spec hs isDouble nesting body c
  have hgoOn (nesting' : List Nesting) (escaped' : Bool) :
      ({ s with mode := .inside isDouble nesting' escaped' (body ++ [c]) } : State).word ≠ none ∧
        GoesOn isDouble (body ++ [c]) (.inside isDouble nesting' escaped' (body ++ [c])) :=
    ⟨hs, .inr (.inr ⟨_, _, rfl⟩)⟩
  unfold inSubstitution
  dsimp only
  repeat' split
  all_goals first
    | exact hclose
    | exact hgoOn _ _

/-- **What every character leads to**, with a case for each mode. -/
theorem step_reached (hs : s.HasWord) (c : Char) : Reached c (s.step c) := by
  obtain ⟨w, m⟩ := s
  unfold step
  cases m with
  | unquoted => exact unquoted_reached _ c
  | dollar isDouble =>
    dsimp only
    split_ifs with hparen hdouble
    · refine ⟨hasWord_of_ne_none hs, fun _ _ _ h => ?_, fun h => ?_⟩
      · cases h
        exact hparen
      · rw [isBetween, Bool.and_false] at h
        cases h
    · exact doubleQuoted_reached hs c []
    · exact unquoted_reached _ c
  | operator begun => exact afterOperator_reached begun c
  | comment =>
    dsimp only
    split
    · exact unquoted_reached _ c
    · refine ⟨trivial, fun _ _ _ h => Mode.noConfusion h, fun h => ?_⟩
      rw [isBetween, Bool.and_false] at h
      cases h
  | single =>
    dsimp only
    split
    · exact Reached.of_word (Option.some_ne_none _) fun _ _ _ => Mode.noConfusion
    · exact Reached.of_word (Option.some_ne_none _) fun _ _ _ => Mode.noConfusion
  | double => exact doubleQuoted_reached hs c []
  | escaped isDouble =>
    refine afterBackslash_reached (fun hmode => ?_) rfl c []
    cases hmode
    exact hs
  | inside isDouble nesting escaped body =>
    obtain ⟨hword, hmode⟩ := inSubstitution_spec (s := ⟨w, .inside isDouble nesting escaped body⟩) hs isDouble nesting
      escaped body c
    refine Reached.of_word hword fun d n e h => ?_
    dsimp only at h
    rw [h] at hmode
    rcases hmode with hmode | hmode | ⟨nesting', escaped', hmode⟩
    · cases hmode
    · cases hmode
    · injection hmode with _ _ _ hbody
      exact List.append_ne_nil_of_right_ne_nil _ (List.cons_ne_nil _ _) hbody.symm
  | failed =>
    refine ⟨trivial, fun _ _ _ h => Mode.noConfusion h, fun h => ?_⟩
    rw [isBetween, Bool.and_false] at h
    cases h

theorem hasWord_run (t : Text) : (State.run {} t).2.HasWord := by
  induction t using List.reverseRecOn with
  | nil => trivial
  | append_singleton t c ih =>
    rw [run_concat]
    exact (step_reached ih c).hasWord

/-- What the last character of a text leads to. -/
theorem run_reached (t : Text) (c : Char) : Reached c (State.run {} (t ++ [c])) := by
  rw [run_concat]
  exact (step_reached (hasWord_run t) c).append _

end State

open State

variable {pre word post before body after : Text} {n : Nesting}

/-- After the operator of a redirection comes its word. -/
theorem placeAfter_ne_start {ts : List Token} (h : EndsWithRedirect ts) : placeAfter ts ≠ .start := by
  obtain ⟨n, r, hlast⟩ := h
  obtain ⟨ts, rfl⟩ := List.getLast?_eq_some_iff.mp hlast
  rw [placeAfter, List.foldl_append]
  intro hstart
  have htarget := congrArg Place.target hstart
  cases htarget

/-- **A command is expected** at the beginning of a text, and after characters that separate commands or words. -/
theorem Expects.getLast? (h : Expects pre) : ∀ c ∈ pre.getLast?, c ∈ separators := by
  intro c hc
  obtain ⟨t, rfl⟩ := List.getLast?_eq_some_iff.mp hc
  rcases (run_reached t c).between h.1 with hsep | hredirect
  · exact hsep
  · exact absurd h.2 (placeAfter_ne_start hredirect)

theorem Substituted.getLast? (h : Substituted n before body after) : before.getLast? = some (openingOf n) := by
  obtain ⟨isDouble, hmode, -, -⟩ := h
  rcases List.eq_nil_or_concat before with rfl | ⟨t, c, rfl⟩
  · cases hmode
  · rw [List.concat_eq_append] at hmode ⊢
    rw [List.getLast?_concat, (run_reached t c).opens isDouble n false hmode]

end DBClaw.ShellTrees
