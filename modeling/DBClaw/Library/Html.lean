import DBClaw.Library.Text

/-! # HTML with text from elsewhere
A page is put together from the texts of its template and texts that are stored somewhere. `tokens` reads it as
a browser does, as tags, comments and text; in each character it keeps where it comes from. A page is free of
injections if nothing but text, and the values of the template's attributes, comes from stored text. The rules
`Leads` say when that is so, piece by piece. -/

namespace DBClaw.Html

/-- A character of a page, and whether it comes from stored text. -/
structure Marked where
  char : Char
  stored : Bool
  deriving DecidableEq, Repr

/-- A text of the template. -/
def fixed (s : Text) : List Marked := s.map fun c => ⟨c, false⟩

/-- A stored text. -/
def stored (s : Text) : List Marked := s.map fun c => ⟨c, true⟩

/-- The character reference of a character that has one. -/
def entity (c : Char) : Text :=
  if c = '&' then "&amp;".toList
  else if c = '<' then "&lt;".toList
  else if c = '>' then "&gt;".toList
  else if c = '"' then "&quot;".toList
  else if c = '\'' then "&#x27;".toList
  else if c = '\u00a0' then "&nbsp;".toList
  else [c]

/-- The text with character references for some special characters. -/
def escapeOnly (special : List Char) (s : Text) : Text := s.flatMap fun c => if c ∈ special then entity c else [c]

/-- Python's `html.escape`. -/
def escape (s : Text) : Text := escapeOnly ['&', '<', '>', '"', '\''] s

/-- A text node as `innerHTML` writes it. -/
def escapeText (s : Text) : Text := escapeOnly ['&', '<', '>', '\u00a0'] s

/-! ## Tokens -/

/-- The characters that end a name. -/
def isSpace (c : Char) : Bool := c = ' ' || c = '\t' || c = '\n' || c = '\r' || c = '\x0c'

/-- The elements with nothing but text in them, up to their end tag. -/
def isTextOnly : Text → Bool
  | ['t', 'i', 't', 'l', 'e'] | ['t', 'e', 'x', 't', 'a', 'r', 'e', 'a'] | ['s', 't', 'y', 'l', 'e'] => true
  | ['s', 'c', 'r', 'i', 'p', 't'] | ['x', 'm', 'p'] | ['i', 'f', 'r', 'a', 'm', 'e'] => true
  | ['n', 'o', 'e', 'm', 'b', 'e', 'd'] | ['n', 'o', 'f', 'r', 'a', 'm', 'e', 's'] => true
  | _ => false

/-- Where the reading of a page has got to. A tag is read with the element that it opens, `[]` for none. -/
inductive Mode
  | data
  /-- After `<` and after `</`. -/
  | opened
  | closing
  | tagName (isStart : Bool) (name : Text)
  | attributes (element : Text)
  | attributeName (element : Text)
  | afterName (element : Text)
  | beforeValue (element : Text)
  | quoted (quote : Char) (element : Text)
  | unquoted (element : Text)
  /-- After `<!` and after `<!-`; then a declaration, or a comment. -/
  | declaring
  | dash
  | declaration
  | commentStart
  | commentStartDash
  | comment (dashes : ℕ)
  | commentBang
  /-- The text in an element, a `<` in it, and what may become its end tag. -/
  | text (element : Text)
  | textOpened (element : Text)
  | textClosing (element name : Text)
  deriving DecidableEq, Repr

/-- What is done with a character. -/
inductive Act
  /-- It is text. -/
  | text
  /-- It belongs to the unfinished token, or to an attribute's value in it, or it finishes the token. -/
  | markup
  | value
  | finish
  /-- The unfinished token is text after all, and the character is text, or begins a new one. -/
  | giveUp
  | restart
  deriving DecidableEq, Repr

/-- How the content of an element is read. -/
def contentMode (element : Text) : Mode := if isTextOnly element then .text element else .data

/-- Between two tags. -/
def Mode.between (base next : Mode) (c : Char) : Act × Mode :=
  if c = '<' then (.markup, next) else (.text, base)

/-- No token begins where one seemed to. -/
def Mode.giveUp (base next : Mode) (c : Char) : Act × Mode :=
  if c = '<' then (.restart, next) else (.giveUp, base)

/-- **The reading of a character**, as in the tokenization of the HTML standard. -/
def Mode.step : Mode → Char → Act × Mode
  | .data, c => Mode.between .data .opened c
  | .opened, c =>
    if c.isAlpha then (.markup, .tagName true [c.toLower])
    else if c = '/' then (.markup, .closing)
    else if c = '!' then (.markup, .declaring)
    else if c = '?' then (.markup, .declaration)
    else Mode.giveUp .data .opened c
  | .closing, c =>
    if c.isAlpha then (.markup, .tagName false [c.toLower])
    else if c = '>' then (.finish, .data)
    else (.markup, .declaration)
  | .tagName isStart name, c =>
    if isSpace c || c = '/' then (.markup, .attributes (if isStart then name else []))
    else if c = '>' then (.finish, contentMode (if isStart then name else []))
    else (.markup, .tagName isStart (name ++ [c.toLower]))
  | .attributes element, c =>
    if isSpace c || c = '/' then (.markup, .attributes element)
    else if c = '>' then (.finish, contentMode element)
    else (.markup, .attributeName element)
  | .attributeName element, c =>
    if isSpace c then (.markup, .afterName element)
    else if c = '/' then (.markup, .attributes element)
    else if c = '>' then (.finish, contentMode element)
    else if c = '=' then (.markup, .beforeValue element)
    else (.markup, .attributeName element)
  | .afterName element, c =>
    if isSpace c then (.markup, .afterName element)
    else if c = '/' then (.markup, .attributes element)
    else if c = '>' then (.finish, contentMode element)
    else if c = '=' then (.markup, .beforeValue element)
    else (.markup, .attributeName element)
  | .beforeValue element, c =>
    if isSpace c then (.markup, .beforeValue element)
    else if c = '"' || c = '\'' then (.markup, .quoted c element)
    else if c = '>' then (.finish, contentMode element)
    else (.value, .unquoted element)
  | .quoted quote element, c => if c = quote then (.markup, .attributes element) else (.value, .quoted quote element)
  | .unquoted element, c =>
    if isSpace c then (.markup, .attributes element)
    else if c = '>' then (.finish, contentMode element)
    else (.value, .unquoted element)
  | .declaring, c =>
    if c = '-' then (.markup, .dash) else if c = '>' then (.finish, .data) else (.markup, .declaration)
  | .dash, c =>
    if c = '-' then (.markup, .commentStart) else if c = '>' then (.finish, .data) else (.markup, .declaration)
  | .declaration, c => if c = '>' then (.finish, .data) else (.markup, .declaration)
  | .commentStart, c =>
    if c = '-' then (.markup, .commentStartDash) else if c = '>' then (.finish, .data) else (.markup, .comment 0)
  | .commentStartDash, c =>
    if c = '-' then (.markup, .comment 2) else if c = '>' then (.finish, .data) else (.markup, .comment 0)
  | .comment dashes, c =>
    if c = '-' then (.markup, .comment (dashes + 1))
    else if c = '>' && 2 ≤ dashes then (.finish, .data)
    else if c = '!' && 2 ≤ dashes then (.markup, .commentBang)
    else (.markup, .comment 0)
  | .commentBang, c =>
    if c = '-' then (.markup, .comment 1) else if c = '>' then (.finish, .data) else (.markup, .comment 0)
  | .text element, c => Mode.between (.text element) (.textOpened element) c
  | .textOpened element, c =>
    if c = '/' then (.markup, .textClosing element []) else Mode.giveUp (.text element) (.textOpened element) c
  | .textClosing element name, c =>
    if c.isAlpha then (.markup, .textClosing element (name ++ [c.toLower]))
    else if name = element && (isSpace c || c = '/') then (.markup, .attributes [])
    else if name = element && c = '>' then (.finish, .data)
    else Mode.giveUp (.text element) (.textOpened element) c

/-- **A token**: a character of text, or a tag, a comment or a declaration, with the characters that are in no
attribute's value and those that are. -/
inductive Token
  | text (x : Marked)
  | markup (names values : List Marked)
  deriving DecidableEq, Repr

/-- The state of a reader: the characters of the unfinished token, and the tokens read. -/
structure Reader where
  mode : Mode := .data
  names : List Marked := []
  values : List Marked := []
  tokens : List Token := []
  deriving DecidableEq, Repr

/-- A character is read. -/
def Reader.read (s : Reader) (x : Marked) : Reader :=
  let mode := (s.mode.step x.char).2
  match (s.mode.step x.char).1 with
  | .text => { s with mode := mode, tokens := s.tokens ++ [.text x] }
  | .markup => { s with mode := mode, names := s.names ++ [x] }
  | .value => { s with mode := mode, values := s.values ++ [x] }
  | .finish => { mode := mode, tokens := s.tokens ++ [.markup (s.names ++ [x]) s.values] }
  | .giveUp => { mode := mode, tokens := s.tokens ++ s.names.map .text ++ [.text x] }
  | .restart => { mode := mode, names := [x], tokens := s.tokens ++ s.names.map .text }

/-- Whether no token is unfinished, one that may prove to be text, or another one. -/
inductive Kind
  | base | pending | inside
  deriving DecidableEq, Repr

/-- The kind of a mode. -/
def Mode.kind : Mode → Kind
  | .data | .text _ => .base
  | .opened | .textOpened _ | .textClosing _ _ => .pending
  | _ => .inside

/-- The unfinished token, at the end. -/
def Reader.rest (s : Reader) : List Token :=
  match s.mode.kind with
  | .base => []
  | .pending => s.names.map .text
  | .inside => [.markup s.names s.values]

/-- **The tokens of a page.** -/
def tokens (page : List Marked) : List Token :=
  let s := page.foldl Reader.read {}
  s.tokens ++ s.rest

/-- A tag, an attribute or a comment has characters of a stored text. -/
def Token.Copies : Token → Prop
  | .text _ => False
  | .markup names _ => ∃ x ∈ names, x.stored = true

/-- **No tag and no attribute of the page is copied from stored text.** -/
def InjectionFree (page : List Marked) : Prop := ∀ token ∈ tokens page, ¬ token.Copies

/-! ## A watch over the reading -/

/-- The state of a watch: where the reading has got to, and whether the token that may prove to be text has
characters of a stored text; `none` once a token that does not has one. -/
abbrev Watch : Type := Option (Mode × Bool)

/-- Whether the unfinished token has characters of a stored text, once `x` has been read. -/
def Act.carry (held : Bool) (x : Marked) : Act → Bool
  | .text | .giveUp => false
  | .markup | .finish => held || x.stored
  | .value => held
  | .restart => x.stored

/-- **The watch.** -/
def watch (w : Watch) (x : Marked) : Watch :=
  w.bind fun (mode, held) =>
    let (act, next) := mode.step x.char
    if act.carry held x = true ∧ next.kind ≠ .pending then none else some (next, act.carry held x)

/-- What is done where, and where it leads. -/
def Act.moves : Kind → Act → Kind → Bool
  | .base, .text, .base | .base, .markup, .pending => true
  | .pending, .markup, .pending | .pending, .markup, .inside | .pending, .finish, .base => true
  | .pending, .giveUp, .base | .pending, .restart, .pending => true
  | .inside, .markup, .inside | .inside, .value, .inside | .inside, .finish, .base => true
  | _, _, _ => false

theorem kind_contentMode (element : Text) : (contentMode element).kind = .base := by
  rw [contentMode]
  split <;> rfl

theorem moves_step (m : Mode) (c : Char) : (m.step c).1.moves m.kind (m.step c).2.kind = true := by
  cases m <;> simp only [Mode.step, Mode.between, Mode.giveUp] <;> split_ifs <;> first
    | rfl
    | rw [kind_contentMode]; rfl

/-- The watch tells what the reader holds. -/
def Agrees (s : Reader) : Watch → Prop
  | none => (∃ t ∈ s.tokens, t.Copies) ∨ s.mode.kind = .inside ∧ ∃ x ∈ s.names, x.stored = true
  | some (mode, held) =>
    s.mode = mode ∧ (∀ t ∈ s.tokens, ¬ t.Copies) ∧ (held = true ↔ ∃ x ∈ s.names, x.stored = true) ∧
      (held = true → mode.kind = .pending)

theorem copies_text {l : List Marked} {t : Token} (h : t ∈ l.map .text) : ¬ t.Copies := by
  obtain ⟨x, -, rfl⟩ := List.mem_map.mp h
  exact id

theorem agrees_none {s : Reader} (h : Agrees s none) (x : Marked) : Agrees (s.read x) none := by
  have hmoves := moves_step s.mode x.char
  rcases h with ⟨t, ht, hcopies⟩ | ⟨hkind, y, hy, hstored⟩
  · refine .inl ⟨t, ?_, hcopies⟩
    rw [Reader.read]
    split
    all_goals simp only [List.mem_append, ht, true_or]
  · -- a token that cannot prove to be text goes on, or is finished
    rw [hkind] at hmoves
    rw [Reader.read]
    cases hact : (s.mode.step x.char).1 with
    | markup =>
      rw [hact] at hmoves
      refine .inr ⟨?_, y, List.mem_append_left _ hy, hstored⟩
      cases hnext : (s.mode.step x.char).2.kind <;> rw [hnext] at hmoves <;> first | rfl | cases hmoves
    | value =>
      rw [hact] at hmoves
      refine .inr ⟨?_, y, hy, hstored⟩
      cases hnext : (s.mode.step x.char).2.kind <;> rw [hnext] at hmoves <;> first | rfl | cases hmoves
    | finish => exact .inl ⟨_, List.mem_append_right _ (List.mem_singleton_self _), y, List.mem_append_left _ hy, hstored⟩
    | text => rw [hact] at hmoves; cases hmoves
    | giveUp => rw [hact] at hmoves; cases hmoves
    | restart => rw [hact] at hmoves; cases hmoves

theorem stored_append {names : List Marked} {held : Bool} (x : Marked)
    (h : held = true ↔ ∃ y ∈ names, y.stored = true) :
    (held || x.stored) = true ↔ ∃ y ∈ names ++ [x], y.stored = true := by
  rw [Bool.or_eq_true, h]
  simp only [List.mem_append, List.mem_singleton, or_and_right, exists_or, exists_eq_left]

/-- The watch, step by step. -/
theorem watch_some {m next : Mode} {act : Act} {x : Marked} (held : Bool) (h : m.step x.char = (act, next)) :
    watch (some (m, held)) x =
      if act.carry held x = true ∧ next.kind ≠ .pending then none else some (next, act.carry held x) := by
  rw [watch, Option.bind_some]
  dsimp only
  rw [h]

theorem agrees_some {s : Reader} {mode : Mode} {held : Bool} (h : Agrees s (some (mode, held))) (x : Marked) :
    Agrees (s.read x) (watch (some (mode, held)) x) := by
  obtain ⟨rfl, htokens, hheld, hpending⟩ := h
  have hmoves := moves_step s.mode x.char
  rw [Reader.read]
  rcases hstep : s.mode.step x.char with ⟨act, next⟩
  rw [watch_some held hstep]
  rw [hstep] at hmoves
  dsimp only at hmoves ⊢
  have hnone : s.mode.kind ≠ .pending → held = false := fun hkind =>
    Bool.of_not_eq_true fun htrue => hkind (hpending htrue)
  cases act with
  | text =>
    have hfalse : held = false := hnone fun hkind => by
      rw [hkind] at hmoves
      cases hmoves
    refine ⟨rfl, fun t ht => ?_, ?_, fun hcarry => by cases hcarry⟩
    · rcases List.mem_append.mp ht with ht | ht
      · exact htokens t ht
      · rw [List.mem_singleton.mp ht]
        exact id
    · rw [← hheld, hfalse]
      rfl
  | markup =>
    have hnames := stored_append x hheld
    change Agrees { s with mode := next, names := s.names ++ [x] }
      (if (held || x.stored) = true ∧ next.kind ≠ .pending then none else some (next, held || x.stored))
    split
    · rename_i hcarry
      refine .inr ⟨?_, hnames.mp hcarry.1⟩
      cases hkind : s.mode.kind <;> cases hnext : next.kind <;> rw [hkind, hnext] at hmoves <;> first
        | exact hnext
        | exact absurd hnext hcarry.2
        | cases hmoves
    · rename_i hcarry
      exact ⟨rfl, htokens, hnames, fun htrue => not_not.mp fun hnext => hcarry ⟨htrue, hnext⟩⟩
  | value =>
    have hfalse : held = false := hnone fun hkind => by
      rw [hkind] at hmoves
      cases hmoves
    subst hfalse
    exact ⟨rfl, htokens, hheld, fun hcarry => by cases hcarry⟩
  | finish =>
    have hnames := stored_append x hheld
    change Agrees { mode := next, tokens := s.tokens ++ [.markup (s.names ++ [x]) s.values] }
      (if (held || x.stored) = true ∧ next.kind ≠ .pending then none else some (next, held || x.stored))
    split
    · rename_i hcarry
      exact .inl ⟨_, List.mem_append_right _ (List.mem_singleton_self _), hnames.mp hcarry.1⟩
    · rename_i hcarry
      have hfalse : (held || x.stored) = false := by
        refine Bool.of_not_eq_true fun htrue => hcarry ⟨htrue, fun hnext => ?_⟩
        cases hkind : s.mode.kind <;> rw [hkind, hnext] at hmoves <;> cases hmoves
      rw [hfalse] at hnames ⊢
      refine ⟨rfl, fun t ht => ?_, ?_, fun hcarry => by cases hcarry⟩
      · rcases List.mem_append.mp ht with ht | ht
        · exact htokens t ht
        · rw [List.mem_singleton.mp ht]
          intro hcopies
          cases hnames.mpr hcopies
      · simp only [Bool.false_eq_true, List.not_mem_nil, false_and, exists_false]
  | giveUp =>
    refine ⟨rfl, fun t ht => ?_, ?_, fun hcarry => by cases hcarry⟩
    · rcases List.mem_append.mp ht with ht | ht
      · rcases List.mem_append.mp ht with ht | ht
        · exact htokens t ht
        · exact copies_text ht
      · rw [List.mem_singleton.mp ht]
        exact id
    · simp only [Act.carry, Bool.false_eq_true, List.not_mem_nil, false_and, exists_false]
  | restart =>
    have hnext : next.kind = .pending := by
      cases hkind : s.mode.kind <;> cases hnext : next.kind <;> rw [hkind, hnext] at hmoves <;> first
        | rfl
        | cases hmoves
    rw [if_neg fun hcarry => hcarry.2 hnext]
    refine ⟨rfl, fun t ht => ?_, ?_, fun _ => hnext⟩
    · rcases List.mem_append.mp ht with ht | ht
      · exact htokens t ht
      · exact copies_text ht
    · simp only [Act.carry, List.mem_singleton, exists_eq_left]

theorem agrees_read {s : Reader} {w : Watch} (h : Agrees s w) (x : Marked) : Agrees (s.read x) (watch w x) := by
  cases w with
  | none => exact agrees_none h x
  | some w => exact agrees_some h x

theorem agrees_foldl (page : List Marked) {s : Reader} {w : Watch} (h : Agrees s w) :
    Agrees (page.foldl Reader.read s) (page.foldl watch w) := by
  induction page generalizing s w with
  | nil => exact h
  | cons x page ih => exact ih (agrees_read h x)

/-- **A page is free of injections if and only if the watch goes on to its end.** -/
theorem injectionFree_iff_watch (page : List Marked) :
    InjectionFree page ↔ page.foldl watch (some (.data, false)) ≠ none := by
  have h : Agrees (page.foldl Reader.read {}) (page.foldl watch (some (.data, false))) := by
    refine agrees_foldl page ⟨rfl, fun t ht => ?_, ?_, fun hheld => by cases hheld⟩
    · cases ht
    · simp only [Bool.false_eq_true, List.not_mem_nil, false_and, exists_false]
  rw [InjectionFree, tokens]
  cases hw : page.foldl watch (some (.data, false)) with
  | none =>
    rw [hw] at h
    refine iff_of_false (fun hfree => ?_) fun hne => hne rfl
    rcases h with ⟨t, ht, hcopies⟩ | ⟨hkind, hnames⟩
    · exact hfree t (List.mem_append_left _ ht) hcopies
    · rw [Reader.rest, hkind] at hfree
      exact hfree _ (List.mem_append_right _ (List.mem_singleton_self _)) hnames
  | some w =>
    rw [hw] at h
    obtain ⟨hmode, htokens, hheld, hpending⟩ := h
    refine iff_of_true (fun t ht => ?_) (Option.some_ne_none w)
    rcases List.mem_append.mp ht with ht | ht
    · exact htokens t ht
    · rw [Reader.rest] at ht
      cases hkind : (page.foldl Reader.read {}).mode.kind with
      | base => rw [hkind] at ht; cases ht
      | pending => rw [hkind] at ht; exact copies_text ht
      | inside =>
        rw [hkind] at ht
        rw [List.mem_singleton.mp ht]
        intro hcopies
        have hpend := hpending (hheld.mpr hcopies)
        rw [← hmode, hkind] at hpend
        cases hpend

/-! ## Rules -/

variable {P Q : Prop} {m n k : Mode} {xs ys : List Marked} {s f : Text} {c : Char} {element : Text}

/-- Where the reading of a template's text leads. -/
def Mode.after (m : Mode) (s : Text) : Mode := s.foldl (fun m c => (m.step c).2) m

/-- **`xs` leads from a mode to another one** where `P` holds, and where it does not to an injection. -/
structure Leads (P : Prop) (m : Mode) (xs : List Marked) (n : Mode) : Prop where
  free : P → xs.foldl watch (some (m, false)) = some (n, false)
  copied : ¬ P → xs.foldl watch (some (m, false)) = none

theorem foldl_watch_none (xs : List Marked) : xs.foldl watch none = none := by
  induction xs with
  | nil => rfl
  | cons x xs ih => exact ih

theorem Leads.injectionFree_iff (h : Leads P .data xs n) : InjectionFree xs ↔ P := by
  rw [injectionFree_iff_watch]
  constructor
  · intro hne
    by_contra hP
    exact hne (h.copied hP)
  · intro hP
    rw [h.free hP]
    exact Option.some_ne_none _

/-- One piece after the other. -/
theorem Leads.append (h : Leads P m xs n) (h' : Leads Q n ys k) : Leads (P ∧ Q) m (xs ++ ys) k where
  free hPQ := by rw [List.foldl_append, h.free hPQ.1, h'.free hPQ.2]
  copied hPQ := by
    rw [List.foldl_append]
    by_cases hP : P
    · rw [h.free hP]
      exact h'.copied fun hQ => hPQ ⟨hP, hQ⟩
    · rw [h.copied hP]
      exact foldl_watch_none ys

theorem Leads.congr (h : Leads P m xs n) (hPQ : P ↔ Q) : Leads Q m xs n := by rwa [← hPQ]

theorem Leads.append_true (h : Leads P m xs n) (h' : Leads True n ys k) : Leads P m (xs ++ ys) k :=
  (h.append h').congr (Iff.of_eq (and_true P))

theorem Leads.true_append (h : Leads True m xs n) (h' : Leads Q n ys k) : Leads Q m (xs ++ ys) k :=
  (h.append h').congr (Iff.of_eq (true_and Q))

theorem leads_nil (m : Mode) : Leads True m [] m := ⟨fun _ => rfl, fun h => absurd trivial h⟩

/-- Pieces one after the other, each with a condition of its own. -/
theorem leads_flatMap {α : Type} {p : α → Prop} {f : α → List Marked} (l : List α)
    (h : ∀ a ∈ l, Leads (p a) m (f a) m) : Leads (∀ a ∈ l, p a) m (l.flatMap f) m := by
  induction l with
  | nil => exact (leads_nil m).congr (iff_of_true trivial (List.forall_mem_nil p))
  | cons a l ih =>
    rw [List.flatMap_cons]
    refine ((h a List.mem_cons_self).append (ih fun b hb => h b (List.mem_cons_of_mem a hb))).congr ?_
    exact List.forall_mem_cons.symm

/-- A piece that stands only under a condition. -/
theorem Leads.ite {b : Prop} [Decidable b] (h : Leads P m xs m) : Leads (b → P) m (if b then xs else []) m := by
  split
  · rename_i hb
    exact h.congr ⟨fun hP _ => hP, fun hP => hP hb⟩
  · rename_i hb
    exact (leads_nil m).congr ⟨fun _ hb' => absurd hb' hb, fun _ => trivial⟩

theorem watch_fixed (m : Mode) (c : Char) :
    watch (some (m, false)) ⟨c, false⟩ = some ((m.step c).2, false) := by
  rcases hstep : m.step c with ⟨act, next⟩
  rw [watch_some (x := ⟨c, false⟩) false hstep]
  cases act <;> rfl

/-- **A text of the template.** -/
theorem leads_fixed (h : m.after s = n) : Leads True m (fixed s) n := by
  subst h
  refine ⟨fun _ => ?_, fun hP => absurd trivial hP⟩
  induction s generalizing m with
  | nil => rfl
  | cons c s ih =>
    rw [fixed, List.map_cons, List.foldl_cons, watch_fixed]
    exact ih

/-- A stored text that is read character by character as what it stands in. -/
theorem leads_stored (h : ∀ c ∈ s, m.step c = (.text, m) ∨ m.step c = (.value, m)) :
    Leads True m (stored s) m := by
  refine ⟨fun _ => ?_, fun hP => absurd trivial hP⟩
  induction s with
  | nil => rfl
  | cons c s ih =>
    have hc : watch (some (m, false)) ⟨c, true⟩ = some (m, false) := by
      rcases h c List.mem_cons_self with hstep | hstep
      · rw [watch_some (x := ⟨c, true⟩) false hstep]
        rfl
      · rw [watch_some (x := ⟨c, true⟩) false hstep]
        rfl
    rw [stored, List.map_cons, List.foldl_cons, hc]
    exact ih fun d hd => h d (List.mem_cons_of_mem _ hd)

theorem leads_stored_data (h : '<' ∉ s) : Leads True .data (stored s) .data := by
  refine leads_stored fun c hc => .inl ?_
  rw [Mode.step, Mode.between, if_neg]
  rintro rfl
  exact h hc

theorem leads_stored_text (h : '<' ∉ s) : Leads True (.text element) (stored s) (.text element) := by
  refine leads_stored fun c hc => .inl ?_
  rw [Mode.step, Mode.between, if_neg]
  rintro rfl
  exact h hc

/-- **A stored text in a quoted value** is free of the quote. -/
theorem leads_quoted (quote : Char) (s element : Text) :
    Leads (quote ∉ s) (.quoted quote element) (stored s) (.quoted quote element) := by
  refine ⟨fun hquote => (leads_stored fun c hc => .inr ?_).free trivial, fun hquote => ?_⟩
  · rw [Mode.step, if_neg]
    rintro rfl
    exact hquote hc
  · rw [not_not] at hquote
    induction s with
    | nil => cases hquote
    | cons c s ih =>
      rw [stored, List.map_cons, List.foldl_cons]
      by_cases hc : c = quote
      · have hstep : (Mode.quoted quote element).step c = (.markup, .attributes element) := if_pos hc
        rw [watch_some (x := ⟨c, true⟩) false hstep]
        exact foldl_watch_none _
      · have hstep : (Mode.quoted quote element).step c = (.value, .quoted quote element) := if_neg hc
        rw [watch_some (x := ⟨c, true⟩) false hstep]
        exact ih ((List.mem_cons.mp hquote).resolve_left fun hquote => hc hquote.symm)

/-! ### Escaped text -/

/-- The special characters that no character reference has in it. -/
theorem not_mem_entity {d : Char} (hd : d = '<' ∨ d = '>' ∨ d = '"' ∨ d = '\'') (c : Char) : d ∉ entity c := by
  intro hc
  rw [entity] at hc
  split_ifs at hc
  all_goals try rcases hd with rfl | rfl | rfl | rfl <;> exact absurd hc (by decide)
  rw [List.mem_singleton] at hc
  subst hc
  rcases hd with rfl | rfl | rfl | rfl <;> contradiction

theorem not_mem_escapeOnly {d : Char} {special : List Char} (hd : d = '<' ∨ d = '>' ∨ d = '"' ∨ d = '\'')
    (hspecial : d ∈ special) (s : Text) : d ∉ escapeOnly special s := by
  intro hmem
  obtain ⟨c, -, hc⟩ := List.mem_flatMap.mp hmem
  split at hc
  · exact not_mem_entity hd c hc
  · rename_i hc'
    rw [List.mem_singleton] at hc
    subst hc
    exact hc' hspecial

/-- What is not escaped stays. -/
theorem mem_escapeOnly {d : Char} {special : List Char} (hd : d = '<' ∨ d = '>' ∨ d = '"' ∨ d = '\'')
    (hspecial : d ∉ special) (s : Text) : d ∈ escapeOnly special s ↔ d ∈ s := by
  rw [escapeOnly, List.mem_flatMap]
  constructor
  · rintro ⟨c, hc, hmem⟩
    split at hmem
    · exact absurd hmem (not_mem_entity hd c)
    · rw [List.mem_singleton] at hmem
      rwa [hmem]
  · intro hmem
    refine ⟨d, hmem, ?_⟩
    rw [if_neg hspecial]
    exact List.mem_singleton_self d

/-- **Escaped text is read as text.** -/
theorem leads_escapeOnly {special : List Char} (h : '<' ∈ special) (s : Text) :
    Leads True .data (stored (escapeOnly special s)) .data :=
  leads_stored_data (not_mem_escapeOnly (.inl rfl) h s)

/-- Escaped text in a quoted value is read as the value, where the quote is escaped. -/
theorem leads_escapeOnly_quoted {special : List Char} (h : '"' ∈ special) (s element : Text) :
    Leads True (.quoted '"' element) (stored (escapeOnly special s)) (.quoted '"' element) :=
  (leads_quoted '"' _ element).congr
    ⟨fun _ => trivial, fun _ => not_mem_escapeOnly (.inr (.inr (.inl rfl))) h s⟩

/-- Where the quote is not escaped, a text in a quoted value is free of it. -/
theorem leads_escapeText_quoted (s element : Text) :
    Leads ('"' ∉ s) (.quoted '"' element) (stored (escapeText s)) (.quoted '"' element) :=
  (leads_quoted '"' _ element).congr (not_congr (mem_escapeOnly (.inr (.inr (.inl rfl))) (by decide) s))

theorem leads_escapeText (s : Text) : Leads True .data (stored (escapeText s)) .data :=
  leads_escapeOnly (by decide) s

theorem leads_escape (s : Text) : Leads True .data (stored (escape s)) .data := leads_escapeOnly (by decide) s

theorem leads_escape_text (s element : Text) : Leads True (.text element) (stored (escape s)) (.text element) :=
  leads_stored_text (not_mem_escapeOnly (.inl rfl) (by decide) s)

/-! ### Stored text as it is -/

/-- After `<`, the character begins a tag, a comment or a declaration. -/
def opensMarkup (c : Char) : Bool := c.isAlpha || c = '/' || c = '!' || c = '?'

/-- A tag, a comment or a declaration begins in the text. -/
def hasMarkup : Text → Bool
  | c :: d :: s => c = '<' && opensMarkup d || hasMarkup (d :: s)
  | _ => false

/-- Where the watch is after a text without markup. -/
def endOf (s : Text) : Mode × Bool := if s.getLast? = some '<' then (.opened, true) else (.data, false)

theorem watch_data (c : Char) :
    watch (some (.data, false)) ⟨c, true⟩ = some (if c = '<' then (.opened, true) else (.data, false)) := by
  by_cases hc : c = '<'
  · subst hc
    rfl
  · have hstep : Mode.data.step c = (.text, .data) := if_neg hc
    rw [watch_some (x := ⟨c, true⟩) false hstep, if_neg hc]
    rfl

theorem step_opened (hc : opensMarkup c = false) : Mode.opened.step c = Mode.giveUp .data .opened c := by
  simp only [opensMarkup, Bool.or_eq_false_iff, decide_eq_false_iff_not] at hc
  obtain ⟨⟨⟨halpha, hslash⟩, hbang⟩, hquestion⟩ := hc
  simp only [Mode.step, halpha, hslash, hbang, hquestion, Bool.false_eq_true, if_false]

theorem watch_opened (c : Char) (isStored : Bool) :
    watch (some (.opened, true)) ⟨c, isStored⟩ =
      if opensMarkup c then none else watch (some (.data, false)) ⟨c, isStored⟩ := by
  cases hc : opensMarkup c with
  | false =>
    have hstep := step_opened hc
    rw [if_neg Bool.false_ne_true]
    by_cases hlt : c = '<'
    · subst hlt
      cases isStored <;> rfl
    · rw [Mode.giveUp, if_neg hlt] at hstep
      have hdata : Mode.data.step c = (.text, .data) := if_neg hlt
      rw [watch_some (x := ⟨c, isStored⟩) true hstep, watch_some (x := ⟨c, isStored⟩) false hdata]
      rfl
  | true =>
    rw [if_pos rfl]
    rcases hstep : Mode.opened.step c with ⟨act, next⟩
    rw [watch_some (x := ⟨c, isStored⟩) true hstep]
    have hmarkup : act = .markup ∧ next.kind = .inside := by
      simp only [Mode.step] at hstep
      split_ifs at hstep with h₁ h₂ h₃ h₄
      · cases hstep; exact ⟨rfl, rfl⟩
      · cases hstep; exact ⟨rfl, rfl⟩
      · cases hstep; exact ⟨rfl, rfl⟩
      · cases hstep; exact ⟨rfl, rfl⟩
      · simp only [opensMarkup, h₁, h₂, h₃, h₄, decide_false, Bool.or_self, Bool.false_eq_true] at hc
    obtain ⟨rfl, hnext⟩ := hmarkup
    rw [hnext]
    rfl

theorem hasMarkup_cons (hc : c ≠ '<') (s : Text) : hasMarkup (c :: s) = hasMarkup s := by
  cases s with
  | nil => rfl
  | cons d s => rw [hasMarkup, decide_eq_false hc, Bool.false_and, Bool.false_or]

theorem hasMarkup_lt (c : Char) (s : Text) : hasMarkup ('<' :: c :: s) = (opensMarkup c || hasMarkup (c :: s)) := by
  rw [hasMarkup, decide_eq_true rfl, Bool.true_and]

theorem endOf_cons (hc : c ≠ '<') (s : Text) : endOf (c :: s) = endOf s := by
  cases s with
  | nil => exact if_neg fun h => hc (Option.some.inj h)
  | cons d s => rw [endOf, endOf, List.getLast?_cons_cons]

theorem foldl_watch_stored (s : Text) :
    (stored s).foldl watch (some (.data, false)) = (if hasMarkup s then none else some (endOf s)) ∧
      (stored s).foldl watch (some (.opened, true)) =
        if hasMarkup ('<' :: s) then none else some (endOf ('<' :: s)) := by
  induction s with
  | nil => exact ⟨rfl, rfl⟩
  | cons c s ih =>
    have hdata : (stored (c :: s)).foldl watch (some (.data, false)) =
        if hasMarkup (c :: s) then none else some (endOf (c :: s)) := by
      rw [stored, List.map_cons, List.foldl_cons, watch_data]
      by_cases hc : c = '<'
      · subst hc
        exact ih.2
      · rw [if_neg hc, hasMarkup_cons hc, endOf_cons hc]
        exact ih.1
    refine ⟨hdata, ?_⟩
    rw [stored, List.map_cons, List.foldl_cons, watch_opened, hasMarkup_lt]
    cases hopens : opensMarkup c with
    | true => exact foldl_watch_none _
    | false =>
      rw [if_neg Bool.false_ne_true, Bool.false_or]
      exact hdata

/-- The text begins with no character that would make markup of a `<` before it. -/
def goesOn : Text → Bool
  | c :: _ => !opensMarkup c
  | [] => false

/-- **A stored text between two tags of the template** has no markup. -/
theorem leads_hole (s : Text) (hf : goesOn f = true) (hn : Mode.data.after f = n) :
    Leads (hasMarkup s = false) .data (stored s ++ fixed f) n := by
  have hs := (foldl_watch_stored s).1
  refine ⟨fun hmarkup => ?_, fun hmarkup => ?_⟩
  · rw [hmarkup, if_neg Bool.false_ne_true] at hs
    rw [List.foldl_append, hs, ← (leads_fixed hn).free trivial, endOf]
    split
    · -- what the text leaves open is closed by the next character
      cases f with
      | nil => cases hf
      | cons c f =>
        rw [goesOn, Bool.not_eq_true'] at hf
        rw [fixed, List.map_cons, List.foldl_cons, List.foldl_cons, watch_opened, hf, if_neg Bool.false_ne_true]
    · rfl
  · rw [Bool.not_eq_false] at hmarkup
    rw [hmarkup, if_pos rfl] at hs
    rw [List.foldl_append, hs]
    exact foldl_watch_none _

/-- A stored text that has markup, whatever comes next. -/
theorem leads_markup (s : Text) (h : hasMarkup s = true) : Leads False .data (stored s) n :=
  ⟨False.elim, fun _ => by rw [(foldl_watch_stored s).1, if_pos h]⟩

/-! ### Stored text in an element that has nothing but text -/

/-- The text, read in such an element, leaves it open. -/
def Stays (element : Text) (xs : List Marked) : Prop := xs.foldl watch (some (.text element, false)) ≠ none

/-- Where the watch may be in the element. -/
def InElement (element : Text) (w : Watch) : Prop :=
  w = none ∨ w = some (.text element, false) ∨ w = some (.textOpened element, true) ∨
    ∃ name, w = some (.textClosing element name, true)

variable {x : Marked}

/-- What seemed to end the element does not. -/
theorem inElement_giveUp (hx : x.char = '<' → x.stored = true)
    (hstep : m.step x.char = Mode.giveUp (.text element) (.textOpened element) x.char) :
    InElement element (watch (some (m, true)) x) := by
  rw [Mode.giveUp] at hstep
  split at hstep
  · rename_i hlt
    rw [watch_some true hstep, Act.carry, hx hlt]
    exact .inr (.inr (.inl rfl))
  · rw [watch_some true hstep]
    exact .inr (.inl rfl)

/-- What may end the element goes on, ends it, or gives up. -/
theorem step_textClosing (element name : Text) (c : Char) :
    (Mode.textClosing element name).step c = (.markup, .textClosing element (name ++ [c.toLower])) ∨
      (Mode.textClosing element name).step c = (.markup, .attributes []) ∨
      (Mode.textClosing element name).step c = (.finish, .data) ∨
      (Mode.textClosing element name).step c = Mode.giveUp (.text element) (.textOpened element) c := by
  rw [Mode.step]
  split_ifs
  · exact .inl rfl
  · exact .inr (.inl rfl)
  · exact .inr (.inr (.inl rfl))
  · exact .inr (.inr (.inr rfl))

theorem inElement_watch {w : Watch} (h : InElement element w) (hx : x.char = '<' → x.stored = true) :
    InElement element (watch w x) := by
  rcases h with rfl | rfl | rfl | ⟨name, rfl⟩
  · exact .inl rfl
  · by_cases hc : x.char = '<'
    · have hstep : (Mode.text element).step x.char = (.markup, .textOpened element) := if_pos hc
      rw [watch_some false hstep, Act.carry, hx hc]
      exact .inr (.inr (.inl rfl))
    · have hstep : (Mode.text element).step x.char = (.text, .text element) := if_neg hc
      rw [watch_some false hstep]
      exact .inr (.inl rfl)
  · by_cases hc : x.char = '/'
    · have hstep : (Mode.textOpened element).step x.char = (.markup, .textClosing element []) := if_pos hc
      rw [watch_some true hstep]
      exact .inr (.inr (.inr ⟨[], rfl⟩))
    · exact inElement_giveUp hx (if_neg hc)
  · rcases step_textClosing element name x.char with hstep | hstep | hstep | hstep
    · rw [watch_some true hstep]
      exact .inr (.inr (.inr ⟨_, rfl⟩))
    · rw [watch_some true hstep]
      exact .inl rfl
    · rw [watch_some true hstep]
      exact .inl rfl
    · exact inElement_giveUp hx hstep

theorem inElement_foldl {w : Watch} (h : InElement element w) (hxs : ∀ x ∈ xs, x.char = '<' → x.stored = true) :
    InElement element (xs.foldl watch w) := by
  induction xs generalizing w with
  | nil => exact h
  | cons x xs ih =>
    exact ih (inElement_watch h (hxs x List.mem_cons_self)) fun y hy => hxs y (List.mem_cons_of_mem _ hy)

/-- The next tag of the template begins, whatever the text seemed to end. -/
theorem watch_lt {w : Watch} (h : InElement element w) (hw : w ≠ none) :
    watch w ⟨'<', false⟩ = some (.textOpened element, false) := by
  rcases h with rfl | rfl | rfl | ⟨name, rfl⟩
  · exact absurd rfl hw
  · rfl
  · rfl
  · have hstep : (Mode.textClosing element name).step '<' = (.restart, .textOpened element) := by
      have hspace : (isSpace '<' || decide ('<' = '/')) = false := by decide
      rw [Mode.step, hspace, Bool.and_false]
      simp [Mode.giveUp]
    rw [watch_some (x := ⟨'<', false⟩) true hstep]
    rfl

/-- **A text in the element**, all of whose `<` are stored, does not end it. -/
theorem leads_element (hxs : ∀ x ∈ xs, x.char = '<' → x.stored = true) (hf : f.head? = some '<')
    (hn : (Mode.text element).after f = n) : Leads (Stays element xs) (.text element) (xs ++ fixed f) n := by
  refine ⟨fun hstays => ?_, fun hstays => ?_⟩
  · have hin : InElement element (xs.foldl watch (some (.text element, false))) :=
      inElement_foldl (.inr (.inl rfl)) hxs
    rw [List.foldl_append, ← (leads_fixed hn).free trivial]
    cases f with
    | nil => cases hf
    | cons c f =>
      rw [List.head?_cons, Option.some_inj] at hf
      rw [hf, fixed, List.map_cons, List.foldl_cons, List.foldl_cons, watch_lt hin hstays]
      rfl
  · rw [Stays, not_not] at hstays
    rw [List.foldl_append, hstays]
    exact foldl_watch_none _

/-! ### Templates -/

/-- A template goes on with a text of its own, -/
theorem Leads.fixed (h : Leads P m xs k) (hn : k.after s = n) : Leads P m (xs ++ fixed s) n :=
  h.append_true (leads_fixed hn)

/-- with an escaped text, -/
theorem Leads.escape (h : Leads P m xs .data) (s : Text) : Leads P m (xs ++ stored (Html.escape s)) .data :=
  h.append_true (leads_escape s)

theorem Leads.escape_text (h : Leads P m xs (.text element)) (s : Text) :
    Leads P m (xs ++ stored (Html.escape s)) (.text element) :=
  h.append_true (leads_escape_text s element)

theorem Leads.escapeText (h : Leads P m xs .data) (s : Text) : Leads P m (xs ++ stored (Html.escapeText s)) .data :=
  h.append_true (leads_escapeText s)

theorem Leads.escapeText_quoted (h : Leads P m xs (.quoted '"' element)) (s : Text) :
    Leads (P ∧ '"' ∉ s) m (xs ++ stored (Html.escapeText s)) (.quoted '"' element) :=
  h.append (leads_escapeText_quoted s element)

/-- or with a stored text, and then one of its own. -/
theorem Leads.hole (h : Leads P m xs .data) (s : Text) (hf : goesOn f = true) (hn : Mode.data.after f = n) :
    Leads (P ∧ hasMarkup s = false) m (xs ++ stored s ++ Html.fixed f) n := by
  rw [List.append_assoc]
  exact h.append (leads_hole s hf hn)

/-- The text of a literal is its list of characters. -/
theorem after_lit {l : List Char} (h : m.after l = n) : m.after (String.ofList l).toList = n := by
  rwa [String.toList_ofList]

theorem goesOn_lit {l : List Char} (h : goesOn l = true) : goesOn (String.ofList l).toList = true := by
  rwa [String.toList_ofList]

theorem after_data (h : '<' ∉ s) : Mode.data.after s = .data := by
  induction s with
  | nil => rfl
  | cons c s ih =>
    rw [List.mem_cons, not_or] at h
    have hstep : (Mode.data.step c).2 = .data := by
      rw [Mode.step, Mode.between, if_neg (Ne.symm h.1)]
    rw [Mode.after, List.foldl_cons, hstep]
    exact ih h.2

theorem after_text (h : '<' ∉ s) : (Mode.text element).after s = .text element := by
  induction s with
  | nil => rfl
  | cons c s ih =>
    rw [List.mem_cons, not_or] at h
    have hstep : ((Mode.text element).step c).2 = .text element := by
      rw [Mode.step, Mode.between, if_neg (Ne.symm h.1)]
    rw [Mode.after, List.foldl_cons, hstep]
    exact ih h.2

theorem after_quoted {quote : Char} (h : quote ∉ s) :
    (Mode.quoted quote element).after s = .quoted quote element := by
  induction s with
  | nil => rfl
  | cons c s ih =>
    rw [List.mem_cons, not_or] at h
    have hstep : ((Mode.quoted quote element).step c).2 = .quoted quote element := by
      rw [Mode.step, if_neg (Ne.symm h.1)]
    rw [Mode.after, List.foldl_cons, hstep]
    exact ih h.2

end DBClaw.Html
