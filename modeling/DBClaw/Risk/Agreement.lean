import DBClaw.Risk.Assessment
import DBClaw.Sql.Gate

/-! # The two judgements of SQL
The query API executes what `_is_read_only_query` accepts, and the assistant runs at once what
`assess_tool_risk` finds safe by its rules. `gates_agree_iff` says which calls with SQL the second lets through
only if the first accepts the SQL: the rules look at the first word, behind parentheses, and at a command
in place of the SQL. -/

namespace DBClaw.Risk

open Commands Sql

variable (u : Unicode) (repr : Json → Text)

/-! ## Agreement -/

/-- **Agreement on the safe side**: what the rules find safe, without a verdict of the model, the gate of
the query API accepts. -/
def Agrees (call : Call) (client : Option (Option Verdict)) (q : Text) : Prop :=
  (assessToolRisk u repr call client).2 = none → (assessToolRisk u repr call client).1.level = .safe →
    isReadOnlyQuery u q = true

/-- The call is judged by an action on alert settings or by a command, and not by its SQL. -/
def judgedByOther (call : Call) : Bool :=
  call.alertAction u repr alertSettingsReadActions ||
    call.alertAction u repr alertSettingsWriteActions || getCommandArg repr call.arguments ≠ []

/-- The action reads settings, or the command matches no dangerous pattern and looks read-only or is not
permitted to be another one. -/
def safeByOther (call : Call) : Bool :=
  let command := getCommandArg repr call.arguments
  call.alertAction u repr alertSettingsReadActions ||
    (! call.alertAction u repr alertSettingsWriteActions &&
      (firstMatchingCommandPattern u command dangerousCommandPatterns).isNone &&
      (looksClearlyReadOnlyCommand u command || "execute_any_os_command" ∉ call.permissions))

/-- There is something to ask the model about: neither does the command look read-only nor is the first
word of the SQL one of `READ_ONLY_SQL_KEYWORDS`. -/
def asksModel (call : Call) : Bool :=
  let command := getCommandArg repr call.arguments
  let sql := getSql repr call.arguments
  (sql ≠ [] || command ≠ []) && ! ((command ≠ [] && looksClearlyReadOnlyCommand u command) ||
    (sql ≠ [] && isOneOf (normalizeSqlKeyword u sql) readOnlySqlKeywords))

/-- What the gate makes of SQL that starts with one of `READ_ONLY_SQL_KEYWORDS`: it has no parenthesis
before it, an `EXPLAIN` explains no write, a `WITH` has no word for a write, nothing is executed, and no
semicolon is left inside the others. -/
def passesAlone (q : Text) : Bool :=
  let keyword := normalizeSqlKeyword u q
  let normalized := normalizeSqlForReadonlyCheck u q
  (Text.strip q).head? ≠ some '(' &&
    if isOneOf keyword ["EXPLAIN"] then ! isExplainWriteQuery u normalized
    else if isOneOf keyword ["WITH"] then ! keywordIn u writeKeywords false normalized
    else ! isOneOf keyword ["EXEC", "EXECUTE"] && ! normalized.any (· = ';')

/-- **The condition**: a call that is judged by something else than its SQL is not safe by that alone, or
the gate accepts the SQL; other SQL that starts with a read-only word passes alone. -/
def Covered (call : Call) (client : Option (Option Verdict)) (q : Text) : Prop :=
  if judgedByOther u repr call then
    safeByOther u repr call → asksModel u repr call = false ∨ client.join = none →
      isReadOnlyQuery u q = true
  else isOneOf (normalizeSqlKeyword u q) readOnlySqlKeywords → passesAlone u q

variable {u repr} {call : Call} {client : Option (Option Verdict)} {q : Text}

/-! ## The gate on SQL that starts with a read-only word -/

theorem isPlain_of_isAlpha {c : Char} (h : c.isAlpha = true) : isPlain c = true := by
  have hspace : Text.isSpace c = false := by
    rw [Unicode.isAlpha_iff] at h
    simp only [Text.isSpace, Bool.or_eq_false_iff, Bool.and_eq_false_iff, decide_eq_false_iff_not,
      beq_eq_false_iff_ne]
    omega
  have hne : ∀ d ∈ ['/', '-', '\'', '"', ';'], c ≠ d := by
    rintro d hd rfl
    have hnone : ['/', '-', '\'', '"', ';'].all (! Char.isAlpha ·) = true := rfl
    have hnot := List.all_eq_true.mp hnone c hd
    simp [h] at hnot
  simp only [List.mem_cons, List.not_mem_nil, or_false, forall_eq_or_imp, forall_eq] at hne
  simp [isPlain, hspace, hne]

/-- A word that is one of a list. -/
theorem isOneOf_iff {word : Text} {words : List String} :
    isOneOf word words = true ↔ ∃ w ∈ words, w.toList = word := by
  simp [isOneOf]

theorem normalizeSqlKeyword_strip (q : Text) :
    normalizeSqlKeyword u (Text.strip q) = normalizeSqlKeyword u q := by
  unfold normalizeSqlKeyword
  rw [Text.strip_strip]

/-- `DESC` is a word of its own as well as the start of `DESCRIBE`. -/
theorem allows_desc (t : Text) :
    allows u ("DESC".toList ++ t) = ! ("DESC".toList ++ t).any (· = ';') := by
  have hallowed : simpleAllowedKeywords.any (startsWith ("DESC".toList ++ t)) = true :=
    List.any_eq_true.mpr ⟨"DESC", by decide, rfl⟩
  have hunfold : allows u ("DESC".toList ++ t) =
      (simpleAllowedKeywords.any (startsWith ("DESC".toList ++ t)) &&
        ! ("DESC".toList ++ t).any (· = ';')) := rfl
  rw [hunfold, hallowed, Bool.true_and]

/-- **The gate reads the first word as the rules do**, unless there is a parenthesis before it. -/
theorem allows_iff_passesAlone (h : isOneOf (normalizeSqlKeyword u q) readOnlySqlKeywords = true) :
    isReadOnlyQuery u q = passesAlone u q := by
  unfold isReadOnlyQuery
  by_cases hparen : (Text.strip q).head? = some '('
  · -- the gate has no keyword that starts with a parenthesis
    obtain ⟨s, hs⟩ := List.head?_eq_some_iff.mp hparen
    obtain ⟨t, ht⟩ := normalize_eq_append u (w := ['(']) (List.cons_ne_nil _ _) (List.all_eq_true.mp rfl) hs
    have hpasses : passesAlone u q = false := by simp [passesAlone, hparen]
    rw [hpasses, ht]
    rfl
  · have hdrop : (Text.strip q).dropWhile (· = '(') = Text.strip q := by
      cases hq : Text.strip q with
      | nil => rfl
      | cons c s =>
        rw [hq] at hparen
        rw [List.dropWhile_cons_of_neg]
        simpa using hparen
    have hkeyword : normalizeSqlKeyword u q = Text.upper u ((Text.strip q).takeWhile Char.isAlpha) := by
      unfold normalizeSqlKeyword
      rw [hdrop]
    have hne : (Text.strip q).takeWhile Char.isAlpha ≠ [] := by
      intro hnil
      rw [hkeyword, hnil] at h
      exact Bool.false_ne_true h
    obtain ⟨t, ht⟩ := normalize_eq_append u hne
      (fun c hc => isPlain_of_isAlpha (List.mem_takeWhile_imp hc))
      (List.takeWhile_append_dropWhile).symm
    rw [← hkeyword] at ht
    unfold passesAlone
    rw [ht]
    obtain ⟨word, hword, heq⟩ := isOneOf_iff.mp h
    rw [← heq]
    rw [decide_eq_true hparen, Bool.true_and]
    simp only [readOnlySqlKeywords, List.mem_cons, List.not_mem_nil, or_false] at hword
    obtain rfl | rfl | rfl | rfl | rfl | rfl | rfl | rfl := hword <;> first | rfl | exact allows_desc t

/-! ## What the rules find safe -/

/-- **The assistant runs a call without a verdict** where the rules find it safe and do not ask, or ask in
vain. -/
theorem assessToolRisk_safe_iff :
    ((assessToolRisk u repr call client).2 = none ∧
        (assessToolRisk u repr call client).1.level = .safe) ↔
      (keywordAssessRisk u repr call).level = .safe ∧
        (asksModel u repr call = false ∨ client.join = none) := by
  unfold assessToolRisk
  dsimp only
  split
  · rename_i hclear
    have hsafe : (keywordAssessRisk u repr call).level = .safe := by
      simp only [clearlyReadOnly, Bool.and_eq_true, decide_eq_true_eq] at hclear
      exact hclear.1
    have hasks : asksModel u repr call = false := by
      simp only [clearlyReadOnly, Bool.and_eq_true] at hclear
      simp only [asksModel, hclear.2, Bool.not_true, Bool.and_false]
    exact ⟨fun h => ⟨h.2, .inl hasks⟩, fun h => ⟨rfl, h.1⟩⟩
  · rename_i hclear
    split
    · rename_i hsome
      cases hverdict : client.join with
      | some verdict =>
        -- what is safe and not clearly read-only is asked about
        constructor
        · rintro ⟨⟨⟩, -⟩
        rintro ⟨hsafe, hasked⟩
        simp only [clearlyReadOnly, hsafe, decide_true, Bool.true_and] at hclear
        have hasks : asksModel u repr call = true := by
          simp only [asksModel, Bool.and_eq_true, Bool.or_eq_true, decide_eq_true_eq,
            Bool.not_eq_true']
          exact ⟨hsome, Bool.not_eq_true _ ▸ hclear⟩
        rw [hasks] at hasked
        simp at hasked
      | none => simp
    · rename_i hnone
      have hasks : asksModel u repr call = false := by
        rw [not_or, not_not, not_not] at hnone
        simp [asksModel, hnone]
      simp [hasks]

/-- The rules on a call that is judged by something else than its SQL. -/
theorem keywordAssessRisk_safe_iff (h : judgedByOther u repr call = true) :
    (keywordAssessRisk u repr call).level = .safe ↔ safeByOther u repr call = true := by
  unfold judgedByOther at h
  unfold keywordAssessRisk safeByOther
  dsimp only
  split
  · rename_i hread
    simp [hread, Call.toConfirm]
  · rename_i hread
    rw [Bool.not_eq_true] at hread
    split
    · rename_i hwrite
      simp [hread, hwrite, Call.toConfirm]
    · rename_i hwrite
      rw [Bool.not_eq_true] at hwrite
      rw [hread, hwrite, Bool.false_or, Bool.false_or, decide_eq_true_eq] at h
      rw [if_pos h, hread, hwrite]
      unfold assessCommand
      split
      · rename_i pattern hpattern
        split <;> simp [hpattern, Call.toConfirm]
      · rename_i hpattern
        split
        · rename_i hok
          simpa [hpattern, Call.readOnly] using hok
        · rename_i hok
          simpa [hpattern, Call.toConfirm] using hok

/-- The rules on SQL. -/
theorem keywordAssessRisk_safe_iff_of_sql (h : judgedByOther u repr call = false)
    (hperm : "execute_any_sql" ∈ call.permissions) :
    (keywordAssessRisk u repr call).level = .safe ↔
      isOneOf (normalizeSqlKeyword u (getSql repr call.arguments)) readOnlySqlKeywords = true := by
  simp only [judgedByOther, Bool.or_eq_false_iff, decide_eq_false_iff_not, not_not] at h
  obtain ⟨⟨hread, hwrite⟩, hcommand⟩ := h
  unfold keywordAssessRisk
  simp only [hread, hwrite, hcommand, Bool.false_eq_true, if_false, ne_eq, not_true_eq_false]
  split
  · unfold assessSql
    split
    · rename_i hdangerous
      have hnot : isOneOf (normalizeSqlKeyword u (getSql repr call.arguments)) readOnlySqlKeywords =
          false := by
        have hdisjoint : ∀ w ∈ dangerousSqlKeywords,
            isOneOf w.toList readOnlySqlKeywords = false := by decide
        obtain ⟨w, hw, heq⟩ := isOneOf_iff.mp hdangerous
        rw [← heq]
        exact hdisjoint w hw
      split <;> simp [hnot, Call.toConfirm]
    · split
      · rename_i hok
        simpa [Call.readOnly, hperm] using hok
      · rename_i hok
        simpa [Call.toConfirm, hperm] using hok
  · rename_i hsql
    rw [not_not] at hsql
    rw [hsql]
    unfold assessPermissions
    rw [if_pos hperm]
    exact iff_of_false (by simp [Call.toConfirm]) Bool.false_ne_true

/-! ## The condition is exact -/

/-- The SQL of a call whose `sql` is a text. -/
theorem getSql_of_str (hq : call.arguments.get "sql" = .str q) :
    getSql repr call.arguments = Text.strip q := by
  unfold getSql strip
  rw [hq]
  cases q with
  | nil => rfl
  | cons c q => rfl

/-- **The judgements of SQL agree on the safe side** just for the covered calls. -/
theorem gates_agree_iff (u : Unicode) (repr : Json → Text) (call : Call) (client : Option (Option Verdict))
    (q : Text) (hq : call.arguments.get "sql" = .str q)
    (hperm : "execute_any_sql" ∈ call.permissions) :
    Agrees u repr call client q ↔ Covered u repr call client q := by
  have hagrees : Agrees u repr call client q ↔
      ((keywordAssessRisk u repr call).level = .safe ∧
        (asksModel u repr call = false ∨ client.join = none) → isReadOnlyQuery u q = true) := by
    rw [← assessToolRisk_safe_iff, and_imp]
    exact Iff.rfl
  rw [hagrees, Covered]
  split
  · rename_i hother
    rw [keywordAssessRisk_safe_iff hother, and_imp]
  · rename_i hother
    rw [Bool.not_eq_true] at hother
    rw [keywordAssessRisk_safe_iff_of_sql hother hperm, getSql_of_str hq, normalizeSqlKeyword_strip]
    constructor
    · intro h hkeyword
      have hsql : Text.strip q ≠ [] := by
        intro hnil
        rw [← normalizeSqlKeyword_strip, hnil] at hkeyword
        exact Bool.false_ne_true hkeyword
      have hasks : asksModel u repr call = false := by
        simp [asksModel, getSql_of_str hq, normalizeSqlKeyword_strip, hsql, hkeyword]
      rw [← allows_iff_passesAlone hkeyword]
      exact h ⟨hkeyword, .inl hasks⟩
    · rintro h ⟨hkeyword, -⟩
      rw [allows_iff_passesAlone hkeyword]
      exact h hkeyword

/-- A call of the tool that executes any SQL. -/
def sqlCall (sql : String) : Call where
  toolName := "execute_any_sql"
  arguments := [("sql", .str sql.toList)]
  permissions := ["execute_any_sql"]

/-- The same with a command beside the SQL. -/
def commandCall (command sql : String) : Call where
  toolName := "execute_any_sql"
  arguments := [("sql", .str sql.toList), ("command", .str command.toList)]
  permissions := ["execute_any_sql"]

theorem agrees_select :
    Agrees .asciiOnly (fun _ => []) (sqlCall "SELECT name FROM t") none "SELECT name FROM t".toList ↔
      Covered .asciiOnly (fun _ => []) (sqlCall "SELECT name FROM t") none
        "SELECT name FROM t".toList :=
  gates_agree_iff .asciiOnly (fun _ => []) (sqlCall "SELECT name FROM t") none "SELECT name FROM t".toList
    rfl (by decide)

/-- **The judgements of SQL disagree**: what the gate rejects is found safe where another statement
follows, for a procedure, behind a parenthesis, where a write is explained or stands in a `WITH`, and
beside a harmless command. -/
theorem gates_disagree :
    (∀ sql ∈ ["SELECT 1; DROP TABLE t", "EXEC sp_who", "(SELECT 1)", "EXPLAIN ANALYZE DELETE FROM t",
        "WITH x AS (DELETE FROM t RETURNING id) SELECT id FROM x"],
      ¬ Agrees .asciiOnly (fun _ => []) (sqlCall sql) none sql.toList) ∧
    ¬ Agrees .asciiOnly (fun _ => []) (commandCall "df -h" "DROP TABLE t") none
      "DROP TABLE t".toList := by
  constructor
  · intro sql hsql h
    have hrules : ∀ sql ∈ ["SELECT 1; DROP TABLE t", "EXEC sp_who", "(SELECT 1)",
        "EXPLAIN ANALYZE DELETE FROM t", "WITH x AS (DELETE FROM t RETURNING id) SELECT id FROM x"],
        (assessToolRisk .asciiOnly (fun _ => []) (sqlCall sql) none).2 = none ∧
          (assessToolRisk .asciiOnly (fun _ => []) (sqlCall sql) none).1.level = .safe ∧
          isReadOnlyQuery .asciiOnly sql.toList = false := by decide
    obtain ⟨hnone, hsafe, hgate⟩ := hrules sql hsql
    have haccepts := h hnone hsafe
    rw [hgate] at haccepts
    cases haccepts
  · intro h
    exact absurd (h (by decide) (by decide)) (by decide)

end DBClaw.Risk
