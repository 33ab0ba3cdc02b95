import DBClaw.Commands.Safety
import DBClaw.Library.Json

/-! # The risk of a tool call
`_keyword_assess_risk` judges a call by the words of its arguments, and `assess_tool_risk` asks the model
about what these rules do not find clearly read-only. A call that is judged safe runs at once, all others
wait for an approval. -/

namespace DBClaw.Risk

open Commands

/-! ## Data -/

/-- `level` of an assessment. -/
inductive Level
  | safe | high | destructive
  deriving DecidableEq, Repr

/-- The dictionary that `assess_tool_risk` returns. -/
structure Assessment where
  level : Level
  requiresConfirmation : Bool := false
  riskReason : Json
  suppressible : Bool
  confirmationKey : String

/-- What `_llm_assess_risk` returns. -/
structure Verdict where
  level : Level
  reason : Json

/-- The arguments of `assess_tool_risk`; `english` is `_response_locale(locale) == "en-US"`. -/
structure Call where
  toolName : String
  arguments : Dict
  permissions : List String := []
  english : Bool := false

/-- `READ_ONLY_SQL_KEYWORDS`. -/
def readOnlySqlKeywords : List String :=
  ["SELECT", "SHOW", "EXPLAIN", "EXEC", "EXECUTE", "DESCRIBE", "DESC", "WITH"]

/-- `DANGEROUS_SQL_KEYWORDS`. -/
def dangerousSqlKeywords : List String :=
  ["INSERT", "UPDATE", "DELETE", "DROP", "ALTER", "TRUNCATE", "CREATE", "GRANT", "REVOKE", "CALL"]

/-- `ALERT_SETTINGS_READ_ACTIONS`. -/
def alertSettingsReadActions : List String := ["list", "get"]

/-- `ALERT_SETTINGS_WRITE_ACTIONS`. -/
def alertSettingsWriteActions : List String :=
  ["create", "update", "delete", "test", "toggle", "set_default", "set", "cancel"]

/-- A word of a text is one of a list. -/
def isOneOf (word : Text) (words : List String) : Bool := words.any (·.toList = word)

variable (u : Unicode) (repr : Json → Text)

/-! ## Arguments -/

/-- `str(value or "").strip()`; `repr` is what `str` makes of a value that is no text. -/
def strip (value : Json) : Text :=
  if value.truthy then
    match value with
    | .str text => Text.strip text
    | _ => Text.strip (repr value)
  else []

/-- **`_get_command_arg`**. -/
def getCommandArg (arguments : Dict) : Text :=
  strip repr ((arguments.get "command").or
    ((arguments.get "cmd").or (arguments.get "shell_command")))

/-- The SQL of a call, `str(arguments.get("sql") or "").strip()`. -/
def getSql (arguments : Dict) : Text := strip repr (arguments.get "sql")

/-- **`_normalize_sql_keyword`**; `Char.isAlpha` is `[A-Za-z]`. -/
def normalizeSqlKeyword (sql : Text) : Text :=
  Text.upper u (((Text.strip sql).dropWhile (· = '(')).takeWhile Char.isAlpha)

/-! ## Reasons -/

/-- `_localized`. -/
def Call.localized (call : Call) (zhCn enUs : Text) : Text := if call.english then enUs else zhCn

/-- An argument, or a word for it where it is empty. -/
def argumentOr (arguments : Dict) (key : String) (default : String) : Text :=
  let text := strip repr (arguments.get key)
  if text = [] then default.toList else text

/-- A text between backticks. -/
def quote (before : String) (text : Text) (after : String) : Text :=
  before.toList ++ text ++ after.toList

/-- **`build_confirmation_reason`**. -/
def buildConfirmationReason (call : Call) (level : Level) : Text :=
  let command := getCommandArg repr call.arguments
  let sql := getSql repr call.arguments
  if call.toolName = "manage_alert_settings" then
    let setting := argumentOr repr call.arguments "target" "settings" ++ '.' ::
      argumentOr repr call.arguments "action" "update"
    if level = .safe then
      call.localized (quote "这是只读告警设置查询：`" setting "`")
        (quote "This is a read-only alert settings query: `" setting "`")
    else
      call.localized (quote "该操作会修改告警配置，需要确认后再执行：`" setting "`")
        (quote "This operation changes alert settings and requires confirmation: `" setting "`")
  else if command ≠ [] then
    if level = .destructive then
      call.localized (quote "该命令可能直接修改主机状态或中断服务：`" command "`")
        (quote "This command may directly change host state or interrupt a service: `" command "`")
    else
      call.localized (quote "该命令具备修改主机状态的风险，需要确认后再执行：`" command "`")
        (quote "This command may change host state and requires confirmation: `" command "`")
  else if sql ≠ [] then
    if level = .destructive then
      call.localized (quote "该 SQL 可能直接修改或破坏数据库对象/数据：`" (sql.take 120) "`")
        (quote "This SQL may directly modify or destroy database objects/data: `" (sql.take 120) "`")
    else
      call.localized (quote "该 SQL 可能修改数据库状态，需要确认后再执行：`" (sql.take 120) "`")
        (quote "This SQL may change database state and requires confirmation: `" (sql.take 120) "`")
  else
    call.localized (quote "技能 `" call.toolName.toList "` 具备潜在变更能力，需要确认后再执行。")
      (quote "Skill `" call.toolName.toList "` can potentially change state and requires confirmation.")

/-! ## Assessment by rules -/

/-- An assessment that gives `build_confirmation_reason` as its reason. -/
def Call.toConfirm (call : Call) (level : Level) (key : String) : Assessment where
  level := level
  riskReason := .str (buildConfirmationReason repr call level)
  suppressible := level = .high
  confirmationKey := key

/-- A safe assessment with a reason of its own. -/
def Call.readOnly (call : Call) (zhCn enUs : String) (key : String) : Assessment where
  level := .safe
  riskReason := .str (call.localized zhCn.toList enUs.toList)
  suppressible := false
  confirmationKey := key

/-- The rules for a command. -/
def assessCommand (call : Call) (command : Text) : Assessment :=
  match firstMatchingCommandPattern u command dangerousCommandPatterns with
  | some pattern =>
    if destructiveCommandPatterns.contains pattern then
      call.toConfirm repr .destructive "os_destructive"
    else call.toConfirm repr .high "os_write"
  | none =>
    if looksClearlyReadOnlyCommand u command ∨ "execute_any_os_command" ∉ call.permissions then
      call.readOnly "这是只读 OS 诊断命令，不会修改主机状态。"
        "This is a read-only OS diagnostic command and will not change host state." "os_readonly"
    else call.toConfirm repr .high "os_write"

/-- The rules for SQL. -/
def assessSql (call : Call) (keyword : Text) : Assessment :=
  if isOneOf keyword dangerousSqlKeywords then
    if isOneOf keyword ["DROP", "TRUNCATE"] then call.toConfirm repr .destructive "sql_destructive"
    else call.toConfirm repr .high "sql_write"
  else if isOneOf keyword readOnlySqlKeywords ∨ "execute_any_sql" ∉ call.permissions then
    call.readOnly "这是只读 SQL 诊断查询，不会修改数据库状态。"
      "This is a read-only SQL diagnostic query and will not change database state." "sql_readonly"
  else call.toConfirm repr .high "sql_write"

/-- The rules for a call with neither. -/
def assessPermissions (call : Call) : Assessment :=
  if "execute_any_sql" ∈ call.permissions then call.toConfirm repr .high "sql_write"
  else if "execute_any_os_command" ∈ call.permissions then call.toConfirm repr .high "os_write"
  else
    call.readOnly "这是只读诊断步骤。" "This is a read-only diagnostic step." "generic_readonly"

/-- The action of a call of `manage_alert_settings` is one of a list. -/
def Call.alertAction (call : Call) (actions : List String) : Bool :=
  call.toolName = "manage_alert_settings" &&
    isOneOf (Text.lower u (strip repr (call.arguments.get "action"))) actions

/-- **`_keyword_assess_risk`**. -/
def keywordAssessRisk (call : Call) : Assessment :=
  let command := getCommandArg repr call.arguments
  let sql := getSql repr call.arguments
  if call.alertAction u repr alertSettingsReadActions then
    call.toConfirm repr .safe "generic_readonly"
  else if call.alertAction u repr alertSettingsWriteActions then
    call.toConfirm repr .high "generic_write"
  else if command ≠ [] then assessCommand u repr call command
  else if sql ≠ [] then assessSql repr call (normalizeSqlKeyword u sql)
  else assessPermissions repr call

/-! ## Assessment with the model -/

/-- **`_build_risk_dict_from_llm`**. -/
def buildRiskDictFromLlm (verdict : Verdict) (call : Call) : Assessment where
  level := verdict.level
  riskReason :=
    if verdict.reason.truthy then verdict.reason
    else .str (buildConfirmationReason repr call verdict.level)
  suppressible := verdict.level = .high
  confirmationKey :=
    let key (safe high destructive : String) :=
      match verdict.level with
      | .safe => safe
      | .high => high
      | .destructive => destructive
    if getCommandArg repr call.arguments ≠ [] then key "os_readonly" "os_write" "os_destructive"
    else if getSql repr call.arguments ≠ [] then key "sql_readonly" "sql_write" "sql_destructive"
    else "generic_readonly"

/-- The rules find the command or the SQL read-only, so that the model is not asked. -/
def clearlyReadOnly (call : Call) : Bool :=
  let command := getCommandArg repr call.arguments
  let sql := getSql repr call.arguments
  (keywordAssessRisk u repr call).level = .safe &&
    ((command ≠ [] && looksClearlyReadOnlyCommand u command) ||
      (sql ≠ [] && isOneOf (normalizeSqlKeyword u sql) readOnlySqlKeywords))

/-- **`assess_tool_risk`**, with the verdict of the model that the assessment rests on. `client` is
`none` without a client, and else what `_llm_assess_risk` returns. -/
def assessToolRisk (call : Call) (client : Option (Option Verdict)) : Assessment × Option Verdict :=
  let rules := keywordAssessRisk u repr call
  if clearlyReadOnly u repr call then (rules, none)
  else if getSql repr call.arguments ≠ [] ∨ getCommandArg repr call.arguments ≠ [] then
    match client.join with
    | some verdict => (buildRiskDictFromLlm repr verdict call, some verdict)
    | none => (rules, none)
  else (rules, none)

end DBClaw.Risk
