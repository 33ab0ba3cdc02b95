import DBClaw.Risk.Assessment

/-! # The prompt of a judgement
`_llm_assess_risk` shows the model the first 500 characters of the SQL and of the command of a call, each
on a line of its own. The skill gets the arguments as they are. `judged_iff` says for which calls the model
has seen what is executed: the texts are shorter than that, and no other call reads the same. -/

namespace DBClaw.Risk

open Commands

/-! ## The model -/

/-- A message to the model. -/
structure Message where
  role : String
  content : Text
  deriving DecidableEq, Repr

variable (u : Unicode) (repr : Json → Text)

/-- What stands before the SQL. -/
def sqlLabel : Text := "SQL 语句：".toList

/-- What stands before the command. -/
def commandLabel : Text := "OS 命令：".toList

/-- `content_parts`. -/
def contentParts (sql command : Text) : List Text :=
  (if sql ≠ [] then [sqlLabel ++ sql.take 500] else []) ++
    if command ≠ [] then [commandLabel ++ command.take 500] else []

/-- The messages of `_llm_assess_risk`; `systemPrompt` is `_RISK_ASSESS_SYSTEM_PROMPT` in the language of
the call. -/
def messages (systemPrompt : Bool → Text) (call : Call) : List Message := [
  { role := "system", content := systemPrompt call.english },
  { role := "user", content := List.intercalate ['\n']
      (contentParts (getSql repr call.arguments) (getCommandArg repr call.arguments)) }]

/-- The verdict in a response: the JSON between the first and the last brace, if it has one of the levels.
`loads` is `json.loads`. -/
def parseVerdict (loads : Text → Option Json) (response : Text) : Option Verdict := do
  let text := Text.strip response
  let start ← text.findIdx? (· = '{')
  let fromEnd ← text.reverse.findIdx? (· = '}')
  match loads ((text.drop start).take (text.length - fromEnd - start)) with
  | some (.obj fields) =>
    match Dict.getD fields "level" (.str []) with
    | .str level =>
      let level ← [("safe", Level.safe), ("high", .high), ("destructive", .destructive)].find?
        fun entry => entry.1.toList = Text.lower u level
      some { level := level.2, reason := Dict.getD fields "reason" (.str []) }
    | _ => none
  | _ => none

/-- **`_llm_assess_risk`**; `llm` is `none` where the request fails. -/
def llmAssessRisk (loads : Text → Option Json) (systemPrompt : Bool → Text)
    (llm : List Message → Option Text) (call : Call) : Option Verdict :=
  if contentParts (getSql repr call.arguments) (getCommandArg repr call.arguments) = [] then none
  else (llm (messages repr systemPrompt call)).bind (parseVerdict u loads)

/-- The model is asked about a call, when there is one. -/
def isAsked (call : Call) : Bool :=
  ! clearlyReadOnly u repr call &&
    (getSql repr call.arguments ≠ [] || getCommandArg repr call.arguments ≠ [])

/-! ## Execution -/

/-- A built-in skill that executes the text of an argument, as it is or behind an `EXPLAIN` of its own. -/
structure TextSkill where
  id : String
  key : String
  parameters : List String

/-- The built-in skills with such an argument. -/
def textSkills : List TextSkill :=
  ["execute_any_sql", "execute_diagnostic_query", "mysql_explain_query", "oceanbase_mysql_explain_query",
    "hana_explain_query", "oracle_explain_query"].map (TextSkill.mk · "sql" ["datasource_id", "sql"]) ++
  [{ id := "query_system_metadata", key := "sql", parameters := ["query_type", "sql", "table"] }] ++
  ["execute_os_command", "execute_any_os_command"].map (TextSkill.mk · "command" ["host_id", "command"])

/-- What `execute_skill_call` executes of a call, and the argument that it is: a text, if the call passes
`validate_parameters`, which knows no other parameters than those of the skill. -/
def executedText (call : Call) : Option (String × Text) := do
  let skill ← textSkills.find? (·.id = call.toolName)
  if call.arguments.all fun entry => entry.1 = "timeout" || skill.parameters.contains entry.1 then
    match call.arguments.get skill.key with
    | .str text => some (skill.key, text)
    | _ => none
  else none

/-! ## Judged and executed -/

/-- **What is judged is what is executed**: a call that runs because the model finds it safe executes the
text that it was asked about, up to whitespace around it, and no call of the tool with other texts has the
same prompt. -/
structure Judged (systemPrompt : Bool → Text) (call : Call) : Prop where
  executed : ∀ loads llm verdict,
    (assessToolRisk u repr call (some (llmAssessRisk u repr loads systemPrompt llm call))).2 = some verdict →
    verdict.level = .safe → ∀ key text, executedText call = some (key, text) →
    contentParts (getSql repr call.arguments) (getCommandArg repr call.arguments) =
      [(if key = "sql" then sqlLabel else commandLabel) ++ Text.strip text]
  identified : isAsked u repr call = true → ∀ other : Call, other.toolName = call.toolName →
    other.permissions = call.permissions → isAsked u repr other = true →
    messages repr systemPrompt other = messages repr systemPrompt call →
    getSql repr other.arguments = getSql repr call.arguments ∧
      getCommandArg repr other.arguments = getCommandArg repr call.arguments

/-- Both texts are shorter than what is shown of them. -/
def Short (call : Call) : Prop :=
  (getSql repr call.arguments).length < 500 ∧ (getCommandArg repr call.arguments).length < 500

/-- No other call has the same prompt with its SQL ending elsewhere. -/
def Unmistakable (systemPrompt : Bool → Text) (call : Call) : Prop :=
  ∀ other : Call, other.toolName = call.toolName → other.permissions = call.permissions →
    isAsked u repr other = true → messages repr systemPrompt other = messages repr systemPrompt call →
    (getSql repr other.arguments).take 500 = (getSql repr call.arguments).take 500

variable {u repr} {systemPrompt : Bool → Text} {call other : Call}

/-! ## What is asked about -/

/-- A verdict is one about a call that the model is asked about. -/
theorem isAsked_of_verdict {client : Option (Option Verdict)} {verdict : Verdict}
    (h : (assessToolRisk u repr call client).2 = some verdict) : isAsked u repr call = true := by
  unfold assessToolRisk at h
  dsimp only at h
  split at h
  · cases h
  · rename_i hclear
    split at h
    · rename_i htexts
      simpa [isAsked, hclear] using htexts
    · cases h

/-- The content of the prompt. -/
theorem intercalate_eq_of_messages (h : messages repr systemPrompt other = messages repr systemPrompt call) :
    List.intercalate ['\n'] (contentParts (getSql repr other.arguments) (getCommandArg repr other.arguments)) =
      List.intercalate ['\n']
        (contentParts (getSql repr call.arguments) (getCommandArg repr call.arguments)) := by
  simp only [messages, List.cons.injEq, Message.mk.injEq] at h
  exact h.2.1.2

/-- A prompt with SQL. -/
theorem intercalate_contentParts {sql : Text} (hsql : sql ≠ []) (command : Text) :
    List.intercalate ['\n'] (contentParts sql command) =
      sqlLabel ++ sql.take 500 ++
        if command ≠ [] then '\n' :: commandLabel ++ command.take 500 else [] := by
  unfold contentParts
  rw [if_pos hsql]
  split <;> simp [List.intercalate]

/-- A prompt without SQL. -/
theorem intercalate_contentParts_nil (command : Text) :
    List.intercalate ['\n'] (contentParts [] command) =
      if command ≠ [] then commandLabel ++ command.take 500 else [] := by
  unfold contentParts
  rw [if_neg (not_not.mpr rfl), List.nil_append]
  split <;> simp [List.intercalate]

/-- A text behind a label that is left out where there is none. -/
theorem take_eq_of_label {label s t : Text} (hlabel : label ≠ [])
    (h : (if s ≠ [] then label ++ s.take 500 else []) = if t ≠ [] then label ++ t.take 500 else []) :
    s.take 500 = t.take 500 := by
  by_cases hs : s = [] <;> by_cases ht : t = []
  · rw [hs, ht]
  · simp [hs, ht, hlabel] at h
  · simp [hs, ht, hlabel] at h
  · simpa [hs, ht] using h

/-- **Where the SQL ends in the same place, the prompt determines short texts.** -/
theorem texts_eq_of_take_eq {sql sql' command command' : Text} (hsql : sql.length < 500)
    (hcommand : command.length < 500)
    (hcontent : List.intercalate ['\n'] (contentParts sql' command') =
      List.intercalate ['\n'] (contentParts sql command))
    (htake : sql'.take 500 = sql.take 500) : sql' = sql ∧ command' = command := by
  have hshort (s t : Text) (ht : t.length < 500) (h : s.take 500 = t.take 500) : s = t := by
    rw [List.take_of_length_le ht.le] at h
    have hlength : s.length < 500 := by
      have hmin : min 500 s.length = t.length := by rw [← h, List.length_take]
      omega
    rw [← h, List.take_of_length_le hlength.le]
  obtain rfl := hshort sql' sql hsql htake
  refine ⟨rfl, hshort command' command hcommand ?_⟩
  by_cases hnil : sql' = []
  · rw [hnil, intercalate_contentParts_nil, intercalate_contentParts_nil] at hcontent
    exact take_eq_of_label (by decide) hcontent
  · rw [intercalate_contentParts hnil, intercalate_contentParts hnil, List.append_cancel_left_eq] at hcontent
    exact take_eq_of_label (List.cons_ne_nil '\n' commandLabel) hcontent

/-! ## What is executed -/

/-- The arguments that a skill does not know are missing in what it executes. -/
theorem get_eq_null {arguments : Dict} {parameters : List String} {key : String}
    (h : arguments.all (fun entry => entry.1 = "timeout" || parameters.contains entry.1) = true)
    (htimeout : key ≠ "timeout") (hkey : key ∉ parameters) : arguments.get key = .null := by
  have hlookup : arguments.lookup key = none := by
    rw [List.lookup_eq_none_iff]
    intro entry hentry
    have hknown := List.all_eq_true.mp h entry hentry
    rw [bne_iff_ne]
    rintro rfl
    simp [htimeout, hkey] at hknown
  rw [Dict.get, hlookup]
  rfl

/-- An argument that is a text. -/
theorem strip_str (repr : Json → Text) (text : Text) : strip repr (.str text) = Text.strip text := by
  unfold strip
  cases text <;> rfl

/-- A skill has one of the arguments that are judged, and not the other ones. -/
theorem textSkills_arguments {skill : TextSkill} (h : skill ∈ textSkills) :
    (skill.key = "sql" ∧ ∀ key ∈ ["command", "cmd", "shell_command"], key ∉ skill.parameters) ∨
      (skill.key = "command" ∧ ∀ key ∈ ["sql", "cmd", "shell_command"], key ∉ skill.parameters) := by
  have hall : (textSkills.all fun skill =>
      (skill.key = "sql" && ["command", "cmd", "shell_command"].all (! skill.parameters.contains ·)) ||
        (skill.key = "command" && ["sql", "cmd", "shell_command"].all (! skill.parameters.contains ·))) =
      true := by decide
  simpa using List.all_eq_true.mp hall skill h

/-- **A skill executes the one text that the model is asked about**: its parameters allow no other. -/
theorem texts_of_executedText (repr : Json → Text) {key : String} {text : Text} (h : executedText call = some (key, text)) :
    (key = "sql" ∧ getSql repr call.arguments = Text.strip text ∧ getCommandArg repr call.arguments = []) ∨
      (key = "command" ∧ getSql repr call.arguments = [] ∧
        getCommandArg repr call.arguments = Text.strip text) := by
  unfold executedText at h
  obtain ⟨skill, hskill, h⟩ := Option.bind_eq_some_iff.mp h
  split at h
  · rename_i hknown
    have hnull {key : String} (htimeout : key ≠ "timeout") (hkey : key ∉ skill.parameters) :
        call.arguments.get key = .null := get_eq_null hknown htimeout hkey
    split at h
    · rename_i text' htext
      obtain ⟨rfl, rfl⟩ : skill.key = key ∧ text' = text := by simpa using h
      unfold getSql getCommandArg
      obtain ⟨hkey, hothers⟩ | ⟨hkey, hothers⟩ := textSkills_arguments (List.mem_of_find?_eq_some hskill)
      · simp only [List.mem_cons, List.not_mem_nil, or_false, forall_eq_or_imp, forall_eq] at hothers
        rw [hkey] at htext
        rw [htext, hnull (by decide) hothers.1, hnull (by decide) hothers.2.1, hnull (by decide) hothers.2.2]
        exact .inl ⟨hkey, strip_str _ _, rfl⟩
      · simp only [List.mem_cons, List.not_mem_nil, or_false, forall_eq_or_imp, forall_eq] at hothers
        rw [hkey] at htext
        rw [htext, hnull (by decide) hothers.1, hnull (by decide) hothers.2.1, hnull (by decide) hothers.2.2]
        refine .inr ⟨hkey, rfl, ?_⟩
        rw [← strip_str repr]
        cases text' <;> rfl
    · cases h
  · cases h

/-! ## Longer texts -/

/-- An argument is replaced. -/
def setArgument (arguments : Dict) (key : String) (value : Json) : Dict :=
  arguments.filter (·.1 ≠ key) ++ [(key, value)]

theorem get_setArgument (arguments : Dict) (key : String) (value : Json) :
    Dict.get (setArgument arguments key value) key = value := by
  have hnone : (arguments.filter (·.1 ≠ key)).lookup key = none := by
    rw [List.lookup_eq_none_iff]
    intro entry hentry
    have hne := of_decide_eq_true (List.mem_filter.mp hentry).2
    exact bne_iff_ne.mpr (Ne.symm hne)
  rw [Dict.get, setArgument, List.lookup_append, hnone, List.lookup_cons, beq_self_eq_true]
  rfl

theorem get_setArgument_of_ne {key key' : String} (h : key' ≠ key) (arguments : Dict) (value : Json) :
    Dict.get (setArgument arguments key value) key' = Dict.get arguments key' := by
  have hfilter : (arguments.filter (·.1 ≠ key)).lookup key' = arguments.lookup key' := by
    induction arguments with
    | nil => rfl
    | cons entry arguments ih =>
      obtain ⟨k, v⟩ := entry
      by_cases hk : k = key
      · rw [List.filter_cons_of_neg (by simpa using hk), ih, List.lookup_cons, hk, beq_false_of_ne h]
      · rw [List.filter_cons_of_pos (by simpa using hk), List.lookup_cons, List.lookup_cons, ih]
  rw [Dict.get, setArgument, List.lookup_append, hfilter, Dict.get]
  cases arguments.lookup key' with
  | some v => rfl
  | none =>
    rw [List.lookup_cons, beq_false_of_ne h]
    rfl

/-- What `strip` returns is stripped. -/
theorem strip_eq_self (value : Json) : Text.strip (strip repr value) = strip repr value := by
  unfold strip
  split
  · split <;> exact Text.strip_strip _
  · rfl

/-- The level of the rules depends on the action, the permissions and the command, and on the first word
of the SQL where there is no command. -/
theorem keywordAssessRisk_level_congr (hpermissions : other.permissions = call.permissions)
    (halert : ∀ actions, other.alertAction u repr actions = call.alertAction u repr actions)
    (hcommand : getCommandArg repr other.arguments = getCommandArg repr call.arguments)
    (hsql : getSql repr other.arguments ≠ []) (hsql' : getSql repr call.arguments ≠ [])
    (hkeyword : getCommandArg repr call.arguments = [] →
      normalizeSqlKeyword u (getSql repr other.arguments) = normalizeSqlKeyword u (getSql repr call.arguments)) :
    (keywordAssessRisk u repr other).level = (keywordAssessRisk u repr call).level := by
  unfold keywordAssessRisk
  simp only [halert, hcommand]
  split
  · rfl
  · split
    · rfl
    · split
      · unfold assessCommand
        rw [hpermissions]
        split
        · split <;> rfl
        · split <;> rfl
      · rename_i hnone
        rw [hkeyword (not_not.mp hnone)]
        unfold assessSql
        rw [hpermissions]
        split
        · split <;> rfl
        · split <;> rfl

/-- Stripped text starts with no whitespace. -/
theorem lstrip_append {s : Text} (hs : Text.strip s = s) (hne : s ≠ []) (t : Text) :
    Text.lstrip (s ++ t) = s ++ t := by
  obtain ⟨c, r, rfl⟩ := List.exists_cons_of_ne_nil hne
  have hc : Text.isSpace c = false := by
    by_contra hspace
    have hshorter : (Text.strip (c :: r)).length ≤ r.length := by
      unfold Text.strip Text.lstrip
      rw [List.dropWhile_cons_of_pos (by simpa using hspace)]
      exact (List.rdropWhile_prefix _ _).length_le.trans (List.dropWhile_suffix _).length_le
    rw [hs, List.length_cons] at hshorter
    omega
  exact List.dropWhile_cons_of_neg (by simp [hc])

/-- Text between stripped text and a character stays. -/
theorem strip_append {s : Text} (hs : Text.strip s = s) (hne : s ≠ []) (t : Text) {c : Char}
    (hc : Text.isSpace c = false) : Text.strip (s ++ (t ++ [c])) = s ++ (t ++ [c]) := by
  rw [Text.strip, lstrip_append hs hne, ← List.append_assoc]
  exact List.rdropWhile_concat_neg _ _ _ (by simp [hc])

/-- The first word of longer SQL is the same, or it ends with what has been added. -/
theorem normalizeSqlKeyword_append {sql : Text} (hstrip : Text.strip sql = sql) (hne : sql ≠ []) :
    normalizeSqlKeyword u (sql ++ ['x']) = normalizeSqlKeyword u sql ∨
      ∃ w, normalizeSqlKeyword u (sql ++ ['x']) = w ++ ['X'] := by
  have hlonger : Text.strip (sql ++ ['x']) = sql ++ ['x'] := strip_append hstrip hne [] rfl
  unfold normalizeSqlKeyword
  rw [hlonger, hstrip, List.dropWhile_append]
  split
  · exact .inr ⟨[], rfl⟩
  · rw [List.takeWhile_append]
    split
    · refine .inr ⟨Text.upper u (sql.dropWhile (· = '(')), ?_⟩
      unfold Text.upper
      rw [List.flatMap_append]
      rfl
    · exact .inl rfl

/-- No read-only word ends so. -/
theorem not_isOneOf_of_append (w : Text) : isOneOf (w ++ ['X']) readOnlySqlKeywords = false := by
  rw [← Bool.not_eq_true]
  intro h
  obtain ⟨word, hword, heq⟩ := List.any_eq_true.mp h
  have hlast : (readOnlySqlKeywords.all fun word => word.toList.getLast? ≠ some 'X') = true := by decide
  have hne := of_decide_eq_true (List.all_eq_true.mp hlast word hword)
  rw [of_decide_eq_true heq, List.getLast?_concat] at hne
  exact hne rfl

/-- **SQL that is too long shares its prompt** with longer SQL. -/
theorem exists_longer_sql (systemPrompt : Bool → Text) (hasked : isAsked u repr call = true)
    (hlong : 500 ≤ (getSql repr call.arguments).length) :
    ∃ other : Call, other.toolName = call.toolName ∧ other.permissions = call.permissions ∧
      isAsked u repr other = true ∧ messages repr systemPrompt other = messages repr systemPrompt call ∧
      getSql repr other.arguments ≠ getSql repr call.arguments := by
  have hne : getSql repr call.arguments ≠ [] := fun hnil => by
    rw [hnil] at hlong
    exact absurd hlong (by decide)
  have hstrip : Text.strip (getSql repr call.arguments) = getSql repr call.arguments := strip_eq_self _
  let other : Call := { call with
    arguments := setArgument call.arguments "sql" (.str (getSql repr call.arguments ++ ['x'])) }
  have hsql : getSql repr other.arguments = getSql repr call.arguments ++ ['x'] := by
    unfold getSql
    rw [get_setArgument, strip_str]
    exact strip_append hstrip hne [] rfl
  have hcommand : getCommandArg repr other.arguments = getCommandArg repr call.arguments := by
    unfold getCommandArg
    rw [get_setArgument_of_ne (by decide), get_setArgument_of_ne (by decide),
      get_setArgument_of_ne (by decide)]
  have halert (actions) : other.alertAction u repr actions = call.alertAction u repr actions := by
    unfold Call.alertAction
    rw [get_setArgument_of_ne (by decide)]
  have hne' : getSql repr other.arguments ≠ [] := by
    rw [hsql]
    exact List.append_ne_nil_of_left_ne_nil hne _
  refine ⟨other, rfl, rfl, ?_, ?_, ?_⟩
  · rw [isAsked, Bool.and_eq_true, Bool.not_eq_true'] at hasked ⊢
    refine ⟨?_, by simp [hne']⟩
    rw [← Bool.not_eq_true]
    intro hclear
    -- the longer SQL is clearly read-only only if the shorter is
    refine absurd hasked.1 (Bool.not_eq_false _ ▸ ?_)
    simp only [clearlyReadOnly, hcommand, Bool.and_eq_true, decide_eq_true_eq, Bool.or_eq_true] at hclear ⊢
    obtain ⟨hsafe, hreads⟩ := hclear
    have hlevel (hkeyword : getCommandArg repr call.arguments = [] →
        normalizeSqlKeyword u (getSql repr other.arguments) =
          normalizeSqlKeyword u (getSql repr call.arguments)) :
        (keywordAssessRisk u repr other).level = (keywordAssessRisk u repr call).level :=
      keywordAssessRisk_level_congr rfl halert hcommand hne' hne hkeyword
    rcases normalizeSqlKeyword_append (u := u) hstrip hne with hsame | ⟨w, hlonger⟩
    · rw [hsql, hsame] at hreads
      rw [hlevel fun _ => by rw [hsql, hsame]] at hsafe
      exact ⟨hsafe, hreads.imp_right fun h => ⟨hne, h.2⟩⟩
    · rw [hsql, hlonger, not_isOneOf_of_append] at hreads
      obtain hreads | hreads := hreads
      · rw [hlevel fun h => absurd h hreads.1] at hsafe
        exact ⟨hsafe, .inl hreads⟩
      · cases hreads.2
  · unfold messages contentParts
    rw [hcommand, hsql, List.take_append_of_le_length hlong, if_pos hne,
      if_pos (List.append_ne_nil_of_left_ne_nil hne _)]
  · rw [hsql]
    exact fun h => by simpa using congrArg List.length h

/-- **A command that ends by removing something** is neither clearly read-only nor without a dangerous
pattern. -/
theorem judge_append_rm (command : Text) :
    looksClearlyReadOnlyCommand u (command ++ ";rm".toList) = false ∧
      firstMatchingCommandPattern u (command ++ ";rm".toList) dangerousCommandPatterns ≠ none := by
  have hlower : Text.lower u (command ++ ";rm".toList) = Text.lower u command ++ ";rm".toList := by
    unfold Text.lower
    rw [List.flatMap_append]
    rfl
  constructor
  · rw [← Bool.not_eq_true]
    intro hreads
    simp only [looksClearlyReadOnlyCommand, hlower, Bool.and_eq_true] at hreads
    have hmem : "rm".toList ∈ splitCommandSegments (Text.lower u command ++ ";rm".toList) := by
      refine List.mem_filter.mpr ⟨List.mem_map.mpr ⟨"rm".toList, ?_, rfl⟩, rfl⟩
      exact splitPieces_append_cons (Text.lower u command) "rm".toList ▸ List.mem_append_right _ (by decide)
    have hbase := List.all_eq_true.mp hreads.2 _ hmem
    have hnot : allowedCommands.contains "rm".toList = false := by decide
    have hrm : extractBaseCommand u "rm".toList = "rm".toList := rfl
    rw [hrm, hnot, Bool.and_false] at hbase
    cases hbase
  · rw [firstMatchingCommandPattern, hlower, ← Option.isSome_iff_ne_none, List.find?_isSome]
    refine ⟨"rm", by decide, ?_⟩
    have hnormalized : Text.lower u (Text.strip "rm".toList) = "rm".toList := rfl
    unfold commandPatternMatches
    dsimp only
    rw [hnormalized, if_neg (by decide), if_neg (by decide)]
    -- the semicolon is the boundary before the word
    exact Bool.or_eq_true_iff.mpr (.inr (List.any_eq_true.mpr
      ⟨";rm".toList, (List.mem_tails _ _).mpr (List.suffix_append _ _), rfl⟩))

/-- **A command that is too long shares its prompt** with a longer command. -/
theorem exists_longer_command (systemPrompt : Bool → Text) (hasked : isAsked u repr call = true)
    (hlong : 500 ≤ (getCommandArg repr call.arguments).length) :
    ∃ other : Call, other.toolName = call.toolName ∧ other.permissions = call.permissions ∧
      isAsked u repr other = true ∧ messages repr systemPrompt other = messages repr systemPrompt call ∧
      getCommandArg repr other.arguments ≠ getCommandArg repr call.arguments := by
  have hne : getCommandArg repr call.arguments ≠ [] := fun hnil => by
    rw [hnil] at hlong
    exact absurd hlong (by decide)
  have hstrip : Text.strip (getCommandArg repr call.arguments) = getCommandArg repr call.arguments :=
    strip_eq_self _
  let other : Call := { call with
    arguments := setArgument call.arguments "command"
      (.str (getCommandArg repr call.arguments ++ ";rm".toList)) }
  have hne' : getCommandArg repr call.arguments ++ ";rm".toList ≠ [] :=
    List.append_ne_nil_of_left_ne_nil hne _
  have hcommand : getCommandArg repr other.arguments = getCommandArg repr call.arguments ++ ";rm".toList := by
    have htruthy : (Json.str (getCommandArg repr call.arguments ++ ";rm".toList)).truthy = true := by
      simp [Json.truthy, hne]
    rw [getCommandArg, get_setArgument, Json.or, if_pos htruthy, strip_str]
    exact strip_append hstrip hne [';', 'r'] rfl
  have hsql : getSql repr other.arguments = getSql repr call.arguments := by
    unfold getSql
    rw [get_setArgument_of_ne (by decide)]
  have halert (actions) : other.alertAction u repr actions = call.alertAction u repr actions := by
    unfold Call.alertAction
    rw [get_setArgument_of_ne (by decide)]
  obtain ⟨hnotReads, hdangerous⟩ := judge_append_rm (u := u) (getCommandArg repr call.arguments)
  refine ⟨other, rfl, rfl, ?_, ?_, ?_⟩
  · rw [isAsked, Bool.and_eq_true, Bool.not_eq_true'] at hasked ⊢
    refine ⟨?_, by simp [hcommand, hne]⟩
    rw [← Bool.not_eq_true]
    intro hclear
    refine absurd hasked.1 (Bool.not_eq_false _ ▸ ?_)
    simp only [clearlyReadOnly, hcommand, hsql, hnotReads, Bool.and_eq_true, decide_eq_true_eq,
      Bool.or_eq_true, Bool.false_eq_true, and_false, false_or] at hclear ⊢
    refine ⟨?_, .inr hclear.2⟩
    -- only an action that reads alert settings is safe with such a command
    have hsafe := hclear.1
    unfold keywordAssessRisk at hsafe ⊢
    simp only [halert, hcommand, hne', ne_eq, not_false_eq_true, if_true] at hsafe
    split at hsafe
    · rename_i hread
      rw [if_pos hread]
      rfl
    · split at hsafe
      · cases hsafe
      · unfold assessCommand at hsafe
        split at hsafe
        · split at hsafe <;> cases hsafe
        · rename_i hnone
          exact absurd hnone hdangerous
  · unfold messages contentParts
    rw [hcommand, hsql, List.take_append_of_le_length hlong, if_pos hne, if_pos hne']
  · rw [hcommand]
    exact fun h => by simpa using congrArg List.length h

/-! ## The condition is exact -/

/-- **The model judges what is executed** just where both texts are shorter than what it is shown, and no
other call has the same prompt with its SQL ending elsewhere; or it is not asked. -/
theorem judged_iff (u : Unicode) (repr : Json → Text) (systemPrompt : Bool → Text) (call : Call) :
    Judged u repr systemPrompt call ↔
      (isAsked u repr call = true → Short repr call ∧ Unmistakable u repr systemPrompt call) := by
  constructor
  · intro hjudged hasked
    refine ⟨⟨?_, ?_⟩, fun other hname hpermissions hasked' hmessages => ?_⟩
    · by_contra hlong
      obtain ⟨other, hname, hpermissions, hasked', hmessages, hne⟩ :=
        exists_longer_sql systemPrompt hasked (not_lt.mp hlong)
      exact hne (hjudged.identified hasked other hname hpermissions hasked' hmessages).1
    · by_contra hlong
      obtain ⟨other, hname, hpermissions, hasked', hmessages, hne⟩ :=
        exists_longer_command systemPrompt hasked (not_lt.mp hlong)
      exact hne (hjudged.identified hasked other hname hpermissions hasked' hmessages).2
    · rw [(hjudged.identified hasked other hname hpermissions hasked' hmessages).1]
  · intro hcondition
    refine ⟨fun loads llm verdict hverdict _ key text hexecuted => ?_,
      fun hasked other hname hpermissions hasked' hmessages => ?_⟩
    · have hasked := isAsked_of_verdict hverdict
      obtain ⟨⟨hsql, hcommand⟩, -⟩ := hcondition hasked
      rw [isAsked, Bool.and_eq_true] at hasked
      obtain ⟨hkey, hsql', hcommand'⟩ | ⟨hkey, hsql', hcommand'⟩ := texts_of_executedText repr hexecuted
      · rw [hsql', hcommand'] at hasked
        rw [hsql'] at hsql
        have hne : Text.strip text ≠ [] := by simpa using hasked.2
        rw [hsql', hcommand', contentParts, if_pos hne, if_neg (not_not.mpr rfl), List.append_nil, if_pos hkey,
          List.take_of_length_le hsql.le]
      · rw [hsql', hcommand'] at hasked
        rw [hcommand'] at hcommand
        have hne : Text.strip text ≠ [] := by simpa using hasked.2
        rw [hsql', hcommand', contentParts, if_neg (not_not.mpr rfl), if_pos hne, List.nil_append,
          if_neg (by rw [hkey]; decide), List.take_of_length_le hcommand.le]
    · obtain ⟨⟨hsql, hcommand⟩, hunmistakable⟩ := hcondition hasked
      exact texts_eq_of_take_eq hsql hcommand (intercalate_eq_of_messages hmessages)
        (hunmistakable other hname hpermissions hasked' hmessages)

/-! ## When a prompt is unmistakable -/

/-- What stands between SQL and a command. -/
def separator : Text := '\n' :: commandLabel

/-- **A call with one text is unmistakable**, unless it has SQL with a line that looks like a command. -/
theorem unmistakable_of_alone (hasked : isAsked u repr call = true)
    (halone : getSql repr call.arguments = [] ∨
      getCommandArg repr call.arguments = [] ∧ ¬ separator <:+: getSql repr call.arguments) :
    Unmistakable u repr systemPrompt call := by
  intro other _ _ hasked' hmessages
  have hcontent := intercalate_eq_of_messages hmessages
  have hsome (c : Call) (h : isAsked u repr c = true) (hnil : getSql repr c.arguments = []) :
      getCommandArg repr c.arguments ≠ [] := by
    rw [isAsked, Bool.and_eq_true, hnil] at h
    simpa using h.2
  by_cases hsql : getSql repr call.arguments = [] <;> by_cases hsql' : getSql repr other.arguments = []
  · rw [hsql, hsql']
  · -- a prompt starts with SQL or with a command
    rw [intercalate_contentParts hsql', hsql, intercalate_contentParts_nil, if_pos (hsome call hasked hsql)]
      at hcontent
    have hhead : some 'S' = some 'O' := congrArg List.head? hcontent
    exact absurd hhead (by decide)
  · rw [intercalate_contentParts hsql, hsql', intercalate_contentParts_nil, if_pos (hsome other hasked' hsql')]
      at hcontent
    have hhead : some 'O' = some 'S' := congrArg List.head? hcontent
    exact absurd hhead (by decide)
  · obtain ⟨hcommand, hseparator⟩ := halone.resolve_left hsql
    rw [intercalate_contentParts hsql, intercalate_contentParts hsql', hcommand, if_neg (not_not.mpr rfl),
      List.append_nil, List.append_assoc, List.append_cancel_left_eq] at hcontent
    split at hcontent
    · refine absurd ?_ hseparator
      refine List.IsInfix.trans ⟨(getSql repr other.arguments).take 500,
        (getCommandArg repr other.arguments).take 500, ?_⟩ (List.take_prefix 500 _).isInfix
      rw [← hcontent, List.append_assoc]
      rfl
    · rw [← hcontent, List.append_nil]

/-! ## A harmless beginning -/

/-- A call of the tool that executes any SQL: an update, and what stands behind 500 blanks. -/
def updateCall (tail : String) : Call where
  toolName := "execute_any_sql"
  arguments := [("datasource_id", .int 1),
    ("sql", .str ("UPDATE t SET a = 1 WHERE id = 7".toList ++ List.replicate 500 ' ' ++ tail.toList))]
  permissions := ["execute_any_sql", "admin"]

/-- **The tail is not judged**: the model is asked with one prompt about an update of one row and about an
update of all rows. -/
theorem updateCall_not_judged :
    ¬ Judged .asciiOnly (fun _ => []) (fun _ => []) (updateCall "-- done") := by
  intro hjudged
  have hasked : isAsked .asciiOnly (fun _ => []) (updateCall "-- done") = true ∧
      isAsked .asciiOnly (fun _ => []) (updateCall "OR id > 0") = true := by decide +kernel
  have hmessages : messages (fun _ => []) (fun _ => []) (updateCall "OR id > 0") =
      messages (fun _ => []) (fun _ => []) (updateCall "-- done") := by decide +kernel
  have hsame := (hjudged.identified hasked.1 (updateCall "OR id > 0") rfl rfl hasked.2 hmessages).1
  exact absurd hsame (by decide +kernel)

end DBClaw.Risk
