import DBClaw.Library.Substitution

/-! # The read-only gate
`_is_read_only_query` of `db_connector.py`, which the query API applies before it executes anything. It
takes comments and quoted texts out of the query, one kind after another, and then looks at how the rest
starts. -/

namespace DBClaw.Sql

open Substitution

variable (u : Unicode)

/-! ## The patterns -/

/-- The number of characters up to and with the first `*/`. -/
def closingLength : Text → Option ℕ
  | '*' :: '/' :: _ => some 2
  | _ :: s => (closingLength s).map (· + 1)
  | [] => none

/-- `/\*.*?\*/` with `DOTALL`. -/
def blockComment : Text → Option ℕ
  | '/' :: '*' :: s => (closingLength s).map (· + 2)
  | _ => none

/-- `--.*?$` with `MULTILINE`. -/
def lineComment : Text → Option ℕ
  | '-' :: '-' :: s => some ((s.takeWhile (· ≠ '\n')).length + 2)
  | _ => none

/-- The number of characters up to the closing quote, where a doubled quote does not close. Where there is
no closing quote, the last doubled one is split up; `last` is the place of the first half of it. -/
def quotedLength (quote : Char) (n : ℕ) (last : Option ℕ) : Text → Option ℕ
  | [] => last
  | [c] => if c = quote then some (n + 1) else last
  | c :: d :: s =>
    if c = quote then
      if d = quote then quotedLength quote (n + 2) (some (n + 1)) s else some (n + 1)
    else quotedLength quote (n + 1) last (d :: s)

/-- `'(?:''|[^'])*'`, for both kinds of quotes. -/
def quoted (quote : Char) : Text → Option ℕ
  | c :: s => if c = quote then quotedLength quote 1 none s else none
  | [] => none

/-! ## Normalisation -/

/-- `re.sub` of all matches. -/
def replaceAll (m : Text → Option ℕ) (r : Text) (s : Text) : Text := sub m r 0 s

/-- The query without its comments and quoted texts. -/
def withoutQuoted (query : Text) : Text :=
  let normalized := replaceAll blockComment [' '] query
  let normalized := replaceAll lineComment [' '] normalized
  let normalized := replaceAll (quoted '\'') ['\'', '\''] normalized
  replaceAll (quoted '"') ['"', '"'] normalized

/-- `s.strip().rstrip(";").strip()`. -/
def stripTerminator (s : Text) : Text :=
  Text.strip ((Text.strip s).rdropWhile (· = ';'))

/-- **`_normalize_sql_for_readonly_check`**. -/
def normalizeSqlForReadonlyCheck (query : Text) : Text :=
  Text.upper u (stripTerminator (withoutQuoted query))

/-! ## Keywords -/

/-- `query_upper.startswith(keyword)`. -/
def startsWith (queryUpper : Text) (keyword : String) : Bool := keyword.toList.isPrefixOf queryUpper

/-- `re.match(r"^(...)\b", s)`: one of the keywords stands here as a whole word. -/
def keywordAt (keywords : List String) (s : Text) : Bool :=
  keywords.any fun keyword =>
    startsWith s keyword && ((s.drop keyword.length).head?.all fun c => ! u.isWordChar c)

/-- `re.search(r"\b(...)\b", s)`; `before` says whether the character before is one of a word. -/
def keywordIn (keywords : List String) (before : Bool) : Text → Bool
  | [] => false
  | c :: s => (! before && keywordAt u keywords (c :: s)) || keywordIn keywords (u.isWordChar c) s

/-- The keywords of the data-changing statements that the gate looks for. -/
def writeKeywords : List String := ["INSERT", "UPDATE", "DELETE", "MERGE"]

/-! ## EXPLAIN -/

/-- What follows `(?:[^()]|\([^()]*\))*\)`: the rest of a group in parentheses, with one more level of
them inside. -/
def afterGroup (inner : Bool) : Text → Option Text
  | [] => none
  | ')' :: s => if inner then afterGroup false s else some s
  | '(' :: s => if inner then none else afterGroup true s
  | _ :: s => afterGroup inner s

/-- What follows `(?:\(...\)\s*)*`; a text has no more groups than characters. -/
def dropGroups : ℕ → Text → Text
  | n + 1, '(' :: s =>
    match afterGroup false s with
    | some rest => dropGroups n (Text.lstrip rest)
    | none => '(' :: s
  | _, s => s

/-- What follows `(?:ANALYZE\s+)?`. -/
def dropAnalyze (s : Text) : Text :=
  if startsWith s "ANALYZE" && ((s.drop 7).head?.any Text.isSpace) then Text.lstrip (s.drop 7) else s

/-- The statement that an `EXPLAIN` is about. -/
def explainBody (queryUpper : Text) : Text :=
  let rest := Text.lstrip (queryUpper.drop 7)
  Text.lstrip (dropAnalyze (dropGroups rest.length rest))

/-- **`_is_explain_write_query`**. -/
def isExplainWriteQuery (queryUpper : Text) : Bool :=
  startsWith queryUpper "EXPLAIN" && keywordAt u ["UPDATE", "DELETE", "INSERT", "MERGE"] (explainBody queryUpper)

/-! ## The gate -/

/-- `simple_allowed_keywords`. -/
def simpleAllowedKeywords : List String := ["SELECT", "SHOW", "EXPLAIN", "DESCRIBE", "DESC"]

/-- The gate on a normalised query. -/
def allows (queryUpper : Text) : Bool :=
  if startsWith queryUpper "EXPLAIN" then ! isExplainWriteQuery u queryUpper
  else if startsWith queryUpper "WITH" then ! keywordIn u writeKeywords false queryUpper
  else simpleAllowedKeywords.any (startsWith queryUpper) && ! queryUpper.any (· = ';')

/-- **`_is_read_only_query`**. -/
def isReadOnlyQuery (query : Text) : Bool := allows u (normalizeSqlForReadonlyCheck u query)

example : isReadOnlyQuery .asciiOnly "SELECT name FROM t WHERE x = 'a;b' -- all".toList = true ∧
    isReadOnlyQuery .asciiOnly "select 1; drop table t".toList = false ∧
    isReadOnlyQuery .asciiOnly "EXPLAIN (ANALYZE, FORMAT JSON) delete from t".toList = false ∧
    isReadOnlyQuery .asciiOnly "with x as (select 1) select * from x;".toList = true := by
  decide

/-! ## How a normalised query starts -/

/-- A character at which no pattern starts and that is not stripped. -/
def isPlain (c : Char) : Bool :=
  ! Text.isSpace c && c ≠ '/' && c ≠ '-' && c ≠ '\'' && c ≠ '"' && c ≠ ';'

section

variable {c : Char}

theorem blockComment_eq_none (h : c ≠ '/') (s : Text) : blockComment (c :: s) = none := by
  unfold blockComment
  split
  · rename_i heq
    cases heq
    exact absurd rfl h
  · rfl

theorem lineComment_eq_none (h : c ≠ '-') (s : Text) : lineComment (c :: s) = none := by
  unfold lineComment
  split
  · rename_i heq
    cases heq
    exact absurd rfl h
  · rfl

theorem quoted_eq_none {quote : Char} (h : c ≠ quote) (s : Text) : quoted quote (c :: s) = none := by
  rw [quoted, if_neg h]

end

/-- **What no pattern touches stays at the start**: spaces and plain characters. -/
theorem withoutQuoted_append {w : Text} (hw : ∀ c ∈ w, Text.isSpace c = true ∨ isPlain c = true)
    (s : Text) : ∃ t, withoutQuoted (w ++ s) = w ++ t := by
  have hne : ∀ d ∈ ['/', '-', '\'', '"'], ∀ c ∈ w, c ≠ d := by
    rintro d hd c hc rfl
    obtain hspace | hplain := hw c hc
    · -- none of the four is a space
      have hnone : ['/', '-', '\'', '"'].all (! Text.isSpace ·) = true := rfl
      have hnot := List.all_eq_true.mp hnone c hd
      simp [hspace] at hnot
    · simp only [isPlain, Bool.and_eq_true, decide_eq_true_eq] at hplain
      simp only [List.mem_cons, List.not_mem_nil, or_false] at hd
      tauto
  simp only [withoutQuoted, replaceAll]
  rw [sub_append fun c hc => blockComment_eq_none (hne '/' (by decide) c hc),
    sub_append fun c hc => lineComment_eq_none (hne '-' (by decide) c hc),
    sub_append fun c hc => quoted_eq_none (hne '\'' (by decide) c hc),
    sub_append fun c hc => quoted_eq_none (hne '"' (by decide) c hc)]
  exact ⟨_, rfl⟩

/-- Stripping at the end keeps what is not stripped. -/
theorem rdropWhile_append {p : Char → Bool} {w : Text} (hw : ∀ c ∈ w, p c = false) (s : Text) :
    ∃ t, (w ++ s).rdropWhile p = w ++ t := by
  induction s using List.reverseRecOn with
  | nil =>
    refine ⟨[], ?_⟩
    rw [List.append_nil, List.rdropWhile_eq_self_iff]
    intro hne
    rw [hw _ (List.getLast_mem hne)]
    exact Bool.false_ne_true
  | append_singleton s c ih =>
    rw [← List.append_assoc]
    by_cases hc : p c = true
    · rw [List.rdropWhile_concat_pos _ _ _ hc]
      exact ih
    · rw [List.rdropWhile_concat_neg _ _ _ hc]
      exact ⟨s ++ [c], List.append_assoc _ _ _⟩

/-- Stripping keeps plain characters at the start, behind spaces. -/
theorem strip_append {sp w : Text} (hsp : ∀ c ∈ sp, Text.isSpace c = true) (hne : w ≠ [])
    (hw : ∀ c ∈ w, Text.isSpace c = false) (s : Text) :
    ∃ t, Text.strip (sp ++ (w ++ s)) = w ++ t := by
  have hleft : Text.lstrip (sp ++ (w ++ s)) = w ++ s := by
    unfold Text.lstrip
    rw [List.dropWhile_append_of_pos hsp]
    obtain ⟨c, w, rfl⟩ := List.exists_cons_of_ne_nil hne
    rw [List.cons_append, List.dropWhile_cons_of_neg]
    rw [hw c List.mem_cons_self]
    exact Bool.false_ne_true
  unfold Text.strip
  rw [hleft]
  exact rdropWhile_append hw s

/-- **A normalised query starts as the query does**, as long as that is plain. -/
theorem normalize_eq_append {w : Text} (hne : w ≠ []) (hw : ∀ c ∈ w, isPlain c = true) {q s : Text}
    (hq : Text.strip q = w ++ s) :
    ∃ t, normalizeSqlForReadonlyCheck u q = Text.upper u w ++ t := by
  have hspace : ∀ c ∈ w, Text.isSpace c = false := by
    intro c hc
    have hplain := hw c hc
    simp only [isPlain, Bool.and_eq_true, Bool.not_eq_true'] at hplain
    exact hplain.1.1.1.1.1
  have hsemi : ∀ c ∈ w, decide (c = ';') = false := by
    intro c hc
    have hplain := hw c hc
    simp only [isPlain, Bool.and_eq_true, decide_eq_true_eq] at hplain
    exact decide_eq_false hplain.2
  have hsp : ∀ c ∈ q.takeWhile Text.isSpace, Text.isSpace c = true := fun c hc =>
    List.mem_takeWhile_imp hc
  -- what was stripped from the query stands around the plain start
  obtain ⟨tail, htail⟩ : Text.strip q <+: Text.lstrip q := List.rdropWhile_prefix _ _
  have hquery : q = (q.takeWhile Text.isSpace ++ w) ++ (s ++ tail) := by
    rw [hq, List.append_assoc] at htail
    rw [List.append_assoc, htail]
    exact (List.takeWhile_append_dropWhile).symm
  obtain ⟨t₁, h₁⟩ := withoutQuoted_append (w := q.takeWhile Text.isSpace ++ w) (fun c hc =>
    (List.mem_append.mp hc).imp (hsp c) (hw c)) (s ++ tail)
  rw [← hquery, List.append_assoc] at h₁
  obtain ⟨t₂, h₂⟩ := strip_append hsp hne hspace t₁
  obtain ⟨t₃, h₃⟩ := rdropWhile_append hsemi t₂
  obtain ⟨t₄, h₄⟩ : ∃ t, Text.strip ([] ++ (w ++ t₃)) = w ++ t :=
    strip_append (List.forall_mem_nil _) hne hspace t₃
  refine ⟨Text.upper u t₄, ?_⟩
  unfold normalizeSqlForReadonlyCheck stripTerminator
  rw [h₁, h₂, h₃]
  rw [List.nil_append] at h₄
  rw [h₄, Text.upper, List.flatMap_append]
  rfl

end DBClaw.Sql
