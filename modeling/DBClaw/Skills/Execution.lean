import DBClaw.Library.Json

/-! # Skills on the platform's own tables
`execute_skill_call` runs a built-in skill whose arguments pass `validate_parameters`. Four of the built-in
skills write the tables of datasources, hosts, skills, alert templates and alert subscriptions; they are
modelled here, with all their actions. -/

namespace DBClaw.Skills

/-! ## The tables -/

/-- A primary key. -/
inductive Key
  | int (n : ℤ)
  | text (s : Text)
  deriving DecidableEq, Repr

/-- A row of one of the tables; `columns` are those that no other field holds. -/
structure Row where
  id : Key
  isDeleted : Bool := false
  isBuiltin : Bool := false
  silenceUntil : Option ℚ := none
  columns : Dict

/-- The rows that the platform keeps of itself. -/
structure Platform where
  datasources : List Row
  hosts : List Row
  skills : List Row
  templates : List Row
  subscriptions : List Row

/-- The row with other values in some columns. -/
def Row.write (columns : Dict) (row : Row) : Row :=
  { row with columns := columns ++ row.columns.filter fun entry => ! columns.any (·.1 = entry.1) }

/-- The row with a key and a property is changed. -/
def updateRow (key : Option Key) (admits : Row → Bool) (change : Row → Row) (rows : List Row) : List Row :=
  rows.map fun row => if some row.id = key ∧ admits row then change row else row

/-- `alive_filter`. -/
def Row.alive (row : Row) : Bool := ! row.isDeleted

/-- A row that is not built-in. -/
def Row.isCustom (row : Row) : Bool := ! row.isBuiltin

/-- There is a row with a key and a property. -/
def hasRow (key : Option Key) (admits : Row → Bool) (rows : List Row) : Bool :=
  rows.any fun row => some row.id = key && admits row

/-- **What the skills rely on**: `encrypt_value`, what `int` reads, the values that the database takes for
the columns of a table, and the checks of Pydantic and of Python's parser on a new skill. -/
structure Env where
  encrypt : Text → Text
  readsInt : Text → Bool
  accepts : String → Dict → Bool
  parameterOk : Json → Bool
  validateCode : Text → Bool
  /-- The configuration of a default template, as `normalize_alert_template_config` makes it. -/
  templateConfig : String → Json

/-- **What one execution finds**: the time, the next key, whether the user exists and the transaction
commits, and what the alert actions that change settings do. -/
structure World where
  now : ℚ
  newId : ℤ
  userExists : Bool
  commits : Bool
  changeAlertSettings : Dict → Platform → Platform

/-- The tables after a transaction, which fails where the database does not take its values. -/
def World.commit (world : World) (accepted : Bool) (before after : Platform) : Platform :=
  if world.commits && accepted then after else before

/-! ## Parameters -/

/-- `type` of a parameter. -/
inductive ParameterType
  | string | integer | number | boolean | array | object
  deriving DecidableEq, Repr

/-- A parameter of a skill. -/
structure Parameter where
  name : String
  type : ParameterType
  required : Bool := false
  enum : Option (List String) := none
  items : Option ParameterType := none

/-- **`_check_type`**; `True` and `False` are integers. -/
def checkType : Json → ParameterType → Bool
  | .str _, .string => true
  | .int _, .integer | .bool _, .integer => true
  | .int _, .number | .float _, .number => true
  | .bool _, .boolean => true
  | .arr _, .array => true
  | .obj _, .object => true
  | _, _ => false

/-- **`_validate_extended`** for what the parameters below use of it. -/
def validateExtended (value : Json) (parameter : Parameter) : Bool :=
  match value with
  | .str text => parameter.enum.all fun words => words.any (·.toList = text)
  | .arr values => parameter.items.all fun type => values.all (checkType · type)
  | _ => true

/-- **`validate_parameters`**. -/
def validateParameters (params : Dict) (parameters : List Parameter) : Bool :=
  (parameters.all fun parameter => ! parameter.required || params.any (·.1 = parameter.name)) &&
    params.all fun entry =>
      match parameters.find? (·.name = entry.1) with
      | some parameter => checkType entry.2 parameter.type && validateExtended entry.2 parameter
      | none => false

/-- A text parameter has a value. -/
def isText (params : Dict) (name value : String) : Bool :=
  match params.get name with
  | .str text => text = value.toList
  | _ => false

/-- A text parameter has one of some values. -/
def isAnyOf (params : Dict) (name : String) (values : List String) : Bool := values.any (isText params name)

/-- An integer as a key; the database refuses what is no 32-bit integer. -/
def keyOf (n : ℤ) : Option Key := if -2147483648 ≤ n ∧ n ≤ 2147483647 then some (.int n) else none

/-- The row that an integer parameter names; the database compares no key with a truth value. -/
def integerKey (params : Dict) (name : String) : Option Key :=
  match params.get name with
  | .int n => if n = 0 then none else keyOf n
  | _ => none

/-- `int` of an integer parameter. -/
def toInt (params : Dict) (name : String) : Option ℤ :=
  match params.get name with
  | .int n => some n
  | .bool b => some (if b then 1 else 0)
  | _ => none

/-- A column that an update writes if the parameter is given. -/
structure Field where
  parameter : String
  column : String
  encrypted : Bool := false

/-- The fields whose column has the parameter's name. -/
def plain (names : List String) : List Field := names.map fun name => { parameter := name, column := name }

/-- `encrypt_value` of a text. -/
def Env.encryptValue (env : Env) : Json → Json
  | .str text => .str (env.encrypt text)
  | value => value

/-- The columns that an update writes. -/
def written (env : Env) (fields : List Field) (params : Dict) : Dict :=
  fields.filterMap fun field => (params.lookup field.parameter).map fun value =>
    (field.column, if field.encrypted then env.encryptValue value else value)

/-- A secret of a new row, if it is given. -/
def newSecret (env : Env) (params : Dict) (name : String) : Json :=
  if (params.get name).truthy then env.encryptValue (params.get name) else .null

/-- The parameters that must not be empty. -/
def hasAll (params : Dict) (names : List String) : Bool := names.all fun name => (params.get name).truthy

variable (env : Env) (world : World) (params : Dict) (platform : Platform)

/-! ## `manage_datasource` -/

/-- The types of a datasource. -/
def dbTypes : List String :=
  ["mysql", "postgresql", "oracle", "sqlserver", "tdsql-c-mysql", "oceanbase-mysql", "opengauss", "hana"]

/-- The parameters of `manage_datasource`. -/
def manageDatasourceParameters : List Parameter := [
  { name := "action", type := .string, required := true,
    enum := some ["list", "get", "create", "update", "delete", "test"] },
  { name := "datasource_id", type := .integer },
  { name := "name", type := .string },
  { name := "db_type", type := .string, enum := some dbTypes },
  { name := "host", type := .string },
  { name := "port", type := .integer },
  { name := "username", type := .string },
  { name := "password", type := .string },
  { name := "database", type := .string },
  { name := "host_id", type := .integer },
  { name := "extra_params", type := .object },
  { name := "tags", type := .array },
  { name := "remark", type := .string },
  { name := "metric_source", type := .string, enum := some ["system", "integration"] },
  { name := "external_instance_id", type := .string },
  { name := "inbound_source", type := .object },
  { name := "silence_until", type := .string },
  { name := "silence_reason", type := .string },
  { name := "is_active", type := .boolean }]

/-- What `manage_datasource` updates. -/
def datasourceFields : List Field :=
  plain ["name", "db_type", "host", "port", "username"] ++
  [{ parameter := "password", column := "password_encrypted", encrypted := true }] ++
  plain ["database", "host_id", "tags", "is_active", "remark", "metric_source", "external_instance_id",
    "inbound_source", "silence_until", "silence_reason", "extra_params"]

/-- The columns of a new datasource. -/
def newDatasource : Dict := [
  ("name", params.get "name"),
  ("db_type", params.get "db_type"),
  ("host", params.get "host"),
  ("port", params.get "port"),
  ("username", params.get "username"),
  ("password_encrypted", newSecret env params "password"),
  ("database", params.get "database"),
  ("host_id", params.get "host_id"),
  ("tags", params.getD "tags" (.arr [])),
  ("is_active", params.getD "is_active" (.bool true)),
  ("remark", params.get "remark"),
  ("metric_source", params.getD "metric_source" (.str "system".toList)),
  ("external_instance_id", params.get "external_instance_id"),
  ("inbound_source", params.get "inbound_source"),
  ("silence_until", params.get "silence_until"),
  ("silence_reason", params.get "silence_reason"),
  ("extra_params", params.get "extra_params")]

/-- **`manage_datasource`**; `list`, `get` and `test` write nothing. -/
def manageDatasource : Platform :=
  let key := integerKey params "datasource_id"
  if isText params "action" "create" then
    if hasAll params ["name", "db_type", "host", "port"] then
      world.commit (env.accepts "datasource" (newDatasource env params)) platform
        { platform with datasources := platform.datasources ++
            [{ id := .int world.newId, columns := newDatasource env params }] }
    else platform
  else if isText params "action" "update" then
    let columns := written env datasourceFields params
    world.commit (env.accepts "datasource" columns) platform
      { platform with datasources := updateRow key Row.alive (·.write columns) platform.datasources }
  else if isText params "action" "delete" then
    -- `soft_delete`
    let datasources := updateRow key Row.alive (fun row => { row with isDeleted := true }) platform.datasources
    world.commit true platform { platform with datasources := datasources }
  else platform

/-! ## `manage_host` -/

/-- The parameters of `manage_host`. -/
def manageHostParameters : List Parameter := [
  { name := "action", type := .string, required := true,
    enum := some ["list", "get", "create", "update", "delete", "test"] },
  { name := "host_id", type := .integer },
  { name := "name", type := .string },
  { name := "host", type := .string },
  { name := "port", type := .integer },
  { name := "username", type := .string },
  { name := "auth_type", type := .string, enum := some ["password", "key"] },
  { name := "password", type := .string },
  { name := "private_key", type := .string },
  { name := "os_version", type := .string },
  { name := "config_data", type := .object }]

/-- What `manage_host` updates. -/
def hostFields : List Field :=
  plain ["name", "host", "port", "username", "auth_type"] ++
  [{ parameter := "password", column := "password_encrypted", encrypted := true },
    { parameter := "private_key", column := "private_key_encrypted", encrypted := true }] ++
  plain ["os_version", "config_data"]

/-- The columns of a new host. -/
def newHost : Dict := [
  ("name", params.get "name"),
  ("host", params.get "host"),
  ("port", params.getD "port" (.int 22)),
  ("username", params.get "username"),
  ("auth_type", params.getD "auth_type" (.str "password".toList)),
  ("password_encrypted", newSecret env params "password"),
  ("private_key_encrypted", newSecret env params "private_key"),
  ("os_version", params.get "os_version"),
  ("config_data", params.get "config_data")]

/-- The credentials that the kind of authentication asks for are given. -/
def hasCredentials : Bool :=
  match params.getD "auth_type" (.str "password".toList) with
  | .str kind =>
    (kind ≠ "password".toList || (params.get "password").truthy) &&
      (kind ≠ "key".toList || (params.get "private_key").truthy)
  | _ => true

/-- **`manage_host`**; `list`, `get` and `test` write nothing, and `delete` removes the row. -/
def manageHost : Platform :=
  let key := integerKey params "host_id"
  if isText params "action" "create" then
    if hasAll params ["name", "host", "username"] && hasCredentials params then
      world.commit (env.accepts "host" (newHost env params)) platform
        { platform with hosts := platform.hosts ++
            [{ id := .int world.newId, columns := newHost env params }] }
    else platform
  else if isText params "action" "update" then
    let columns := written env hostFields params
    world.commit (env.accepts "host" columns) platform
      { platform with hosts := updateRow key (fun _ => true) (·.write columns) platform.hosts }
  else if isText params "action" "delete" then
    world.commit true platform
      { platform with hosts := platform.hosts.filter fun row => some row.id ≠ key }
  else platform

/-! ## `manage_skill` -/

/-- The parameters of `manage_skill`. -/
def manageSkillParameters : List Parameter := [
  { name := "action", type := .string, required := true,
    enum := some ["list", "get", "create", "update", "enable", "disable"] },
  { name := "skill_id", type := .string },
  { name := "name", type := .string },
  { name := "version", type := .string },
  { name := "category", type := .string },
  { name := "description", type := .string },
  { name := "tags", type := .array, items := some .string },
  { name := "parameters", type := .array },
  { name := "permissions", type := .array, items := some .string },
  { name := "timeout", type := .integer },
  { name := "code", type := .string }]

/-- What `manage_skill` updates. -/
def skillFields : List Field :=
  plain ["name", "version", "category", "description", "tags", "parameters", "permissions", "timeout"]

/-- The permissions that a skill can have. -/
def validPermissions : List String :=
  ["execute_query", "execute_command", "read_logs", "modify_config", "access_kb", "read_datasource",
    "execute_any_sql", "execute_any_os_command", "access_external_api", "admin"]

/-- The skill that `skill_id` names; a text with a NUL character is refused by the database. -/
def skillKey : Option Key :=
  match params.get "skill_id" with
  | .str id => if id = [] ∨ '\x00' ∈ id then none else some (.text id)
  | _ => none

/-- `SkillDefinition` and `validate_code` take a new skill; the patterns are `^[a-z0-9_]+$` and
`^\d+\.\d+\.\d+$`. -/
def skillDefinitionOk (u : Unicode) : Bool :=
  (match params.get "skill_id" with
    | .str id => id ≠ [] && id.all fun c => c.isLower || c.isDigit || c = '_'
    | _ => false) &&
  (match params.getD "version" (.str "1.0.0".toList) with
    | .str version =>
      (version.splitOn '.').length = 3 &&
        (version.splitOn '.').all fun part => part ≠ [] && part.all u.isDecimalChar
    | _ => false) &&
  (match params.getD "parameters" (.arr []) with
    | .arr parameters => parameters.all env.parameterOk
    | _ => false) &&
  (match params.getD "permissions" (.arr []) with
    | .arr permissions => permissions.all fun
      | .str permission => validPermissions.any (·.toList = permission)
      | _ => false
    | _ => false) &&
  match params.get "code" with
  | .str code => env.validateCode code
  | _ => false

/-- The columns of a new skill. -/
def newSkill : Dict := [
  ("name", params.get "name"),
  ("version", params.getD "version" (.str "1.0.0".toList)),
  ("category", params.getD "category" (.str "custom".toList)),
  ("description", params.get "description"),
  ("tags", params.get "tags"),
  ("parameters", params.get "parameters"),
  ("permissions", params.get "permissions"),
  ("timeout", params.get "timeout"),
  ("code", params.get "code"),
  ("is_enabled", .bool true)]

/-- Columns of a skill are written, unless it is built-in. -/
def changeSkill (columns : Dict) : Platform :=
  let skills := updateRow (skillKey params) Row.isCustom (·.write columns) platform.skills
  world.commit (env.accepts "skill" columns) platform { platform with skills := skills }

/-- **`manage_skill`**; `list` and `get` write nothing. -/
def manageSkill (u : Unicode) : Platform :=
  let key := skillKey params
  if isText params "action" "create" then
    match key with
    | some id =>
      if hasAll params ["skill_id", "name", "code"] && ! hasRow key (fun _ => true) platform.skills &&
          skillDefinitionOk env params u then
        world.commit (env.accepts "skill" (newSkill params)) platform
          { platform with skills := platform.skills ++ [{ id := id, columns := newSkill params }] }
      else platform
    | none => platform
  else if isText params "action" "update" then
    changeSkill env world params platform (written env skillFields params)
  else if isText params "action" "enable" then
    changeSkill env world params platform [("is_enabled", .bool true)]
  else if isText params "action" "disable" then
    changeSkill env world params platform [("is_enabled", .bool false)]
  else platform

/-! ## `manage_alert_settings` -/

/-- The parameters of `manage_alert_settings`. -/
def manageAlertSettingsParameters : List Parameter := [
  { name := "target", type := .string, required := true,
    enum := some ["subscription", "template", "datasource_config", "silence"] },
  { name := "action", type := .string, required := true,
    enum := some ["list", "get", "create", "update", "delete", "test", "toggle", "set_default", "set",
      "cancel"] },
  { name := "subscription_id", type := .integer },
  { name := "template_id", type := .integer },
  { name := "datasource_id", type := .integer },
  { name := "user_id", type := .integer },
  { name := "enabled", type := .boolean },
  { name := "name", type := .string },
  { name := "description", type := .string },
  { name := "is_default", type := .boolean },
  { name := "template_config", type := .object },
  { name := "datasource_ids", type := .array, items := some .integer },
  { name := "severity_levels", type := .array, items := some .string },
  { name := "integration_targets", type := .array, items := some .object },
  { name := "time_ranges", type := .array, items := some .object },
  { name := "aggregation_script", type := .string },
  { name := "schedule_interval", type := .integer },
  { name := "use_ai_analysis", type := .boolean },
  { name := "alert_template_id", type := .integer },
  { name := "hours", type := .number },
  { name := "reason", type := .string }]

/-- A row of `DEFAULT_ALERT_TEMPLATES`. -/
structure DefaultTemplate where
  name : String
  description : String
  isDefault : Bool := false

/-- **`DEFAULT_ALERT_TEMPLATES`**; they are all enabled. -/
def defaultAlertTemplates : List DefaultTemplate := [
  { name := "标准生产告警", isDefault := true,
    description := "适合大多数生产库，启用阈值告警、实例基线和事件级 AI 诊断。" },
  { name := "AI 智能判警",
    description := "适合希望减少硬编码阈值的场景，由 AI 结合趋势与上下文做最终判警。" },
  { name := "轻量开发告警",
    description := "适合测试/开发环境，阈值更宽松，默认关闭基线。" }]

/-- A template with the name exists. -/
def hasTemplate (rows : List Row) (name : String) : Bool :=
  rows.any fun row =>
    match row.columns.get "name" with
    | .str text => text = name.toList
    | _ => false

/-- A new row for a default template. -/
def newTemplate (id : ℤ) (template : DefaultTemplate) : Row where
  id := .int id
  columns := [
    ("name", .str template.name.toList),
    ("description", .str template.description.toList),
    ("is_enabled", .bool true),
    ("is_default", .bool template.isDefault),
    ("template_config", env.templateConfig template.name)]

/-- **`ensure_default_alert_template`**: the default templates that do not exist are added. -/
def ensureDefaultAlertTemplate : Platform :=
  let missing := defaultAlertTemplates.filter fun template => ! hasTemplate platform.templates template.name
  world.commit true platform
    { platform with templates :=
        platform.templates ++ missing.mapIdx fun i template => newTemplate env (world.newId + i) template }

/-- The alive datasource that `datasource_id` names. -/
def datasourceKey : Option Key := (toInt params "datasource_id").bind keyOf

/-- **`execute_manage_alert_settings`**. Looking at one template, or at the settings of a datasource, adds
the default templates, and looking at a silence ends one that is over. -/
def manageAlertSettings : Platform :=
  if ! world.userExists then platform
  else if ! isAnyOf params "action" ["list", "get"] then world.changeAlertSettings params platform
  else if ! isText params "action" "get" then platform
  else if isText params "target" "template" then
    -- `get_alert_template_by_id` does nothing for the key 0
    if (toInt params "template_id").any (· ≠ 0) then ensureDefaultAlertTemplate env world platform
    else platform
  else if isText params "target" "datasource_config" then
    if hasRow (datasourceKey params) Row.alive platform.datasources then
      ensureDefaultAlertTemplate env world platform
    else platform
  else if isText params "target" "silence" then
    let datasources := updateRow (datasourceKey params)
      (fun row => row.alive && row.silenceUntil.any (· ≤ world.now))
      (fun row => { row.write [("silence_reason", .null)] with silenceUntil := none })
      platform.datasources
    world.commit true platform { platform with datasources := datasources }
  else platform

/-! ## Execution -/

/-- The built-in skills that write the tables. -/
inductive ManageSkill
  | datasource | host | skill | alertSettings
  deriving DecidableEq, Repr

namespace ManageSkill

/-- `id`. -/
def id : ManageSkill → String
  | datasource => "manage_datasource"
  | host => "manage_host"
  | skill => "manage_skill"
  | alertSettings => "manage_alert_settings"

/-- `permissions`, as `normalize_builtin_permissions` makes them. -/
def permissions : ManageSkill → List String
  | datasource => ["admin", "execute_command"]
  | host | skill => ["admin"]
  | alertSettings => []

/-- `parameters`. -/
def parameters : ManageSkill → List Parameter
  | datasource => manageDatasourceParameters
  | host => manageHostParameters
  | skill => manageSkillParameters
  | alertSettings => manageAlertSettingsParameters

/-- The skill with an id. -/
def ofId (id : String) : Option ManageSkill :=
  [datasource, host, skill, alertSettings].find? (·.id = id)

/-- `execute` of the skill's code. -/
def execute (u : Unicode) : ManageSkill → Platform
  | datasource => manageDatasource env world params platform
  | host => manageHost env world params platform
  | skill => manageSkill env world params platform u
  | alertSettings => manageAlertSettings env world params platform

end ManageSkill

/-- The skill is in the registry, enabled and built-in. -/
def isRegistered (id : String) : Bool :=
  platform.skills.any fun row =>
    row.id = .text id.toList && row.isBuiltin && (row.columns.get "is_enabled").truthy

/-- The execution starts: `timeout` is no value that `int` or `min` raises for, and no time of zero, for
which `asyncio.wait_for` does not start. -/
def startsWith (timeout : Json) : Bool :=
  match timeout with
  | .null => true
  | .bool b => b
  | .int n => n ≠ 0
  | .float (.fin q) => q ≠ 0
  | .str text => text ≠ [] && env.readsInt text
  | _ => false

/-- The arguments without `timeout`, which `execute_skill_call` takes out of them. -/
def withoutTimeout (arguments : Dict) : Dict := arguments.filter (·.1 ≠ "timeout")

/-- **`execute_skill_call`**, as far as the tables go. -/
def executeSkillCall (u : Unicode) (toolName : String) (arguments : Dict) : Platform :=
  match ManageSkill.ofId toolName with
  | some manage =>
    if startsWith env (arguments.get "timeout") && isRegistered platform toolName &&
        validateParameters (withoutTimeout arguments) manage.parameters then
      manage.execute env world (withoutTimeout arguments) platform u
    else platform
  | none => platform

/-! ## What passes the checks -/

variable {arguments params : Dict} {parameters : List Parameter} {name : String}

theorem get_withoutTimeout (hname : name ≠ "timeout") :
    (withoutTimeout arguments).get name = arguments.get name := by
  unfold Dict.get withoutTimeout
  congr 1
  induction arguments with
  | nil => rfl
  | cons entry rest ih =>
    obtain ⟨key, value⟩ := entry
    by_cases hkey : name = key
    · subst hkey
      simp [hname]
    · have hlookup : (name == key) = false := by simpa using hkey
      by_cases htimeout : key = "timeout"
      · rw [List.lookup_cons, hlookup]
        simpa [htimeout] using ih
      · simpa [htimeout, List.lookup_cons, hlookup] using ih

/-- A skill gets no argument that is none of its parameters. -/
theorem get_eq_null_of_valid (hvalid : validateParameters (withoutTimeout arguments) parameters = true)
    (hname : name ≠ "timeout") (hnone : parameters.find? (·.name = name) = none) :
    arguments.get name = .null := by
  rw [validateParameters, Bool.and_eq_true, List.all_eq_true, List.all_eq_true] at hvalid
  rw [← get_withoutTimeout hname, Dict.get]
  have hlookup : (withoutTimeout arguments).lookup name = none := by
    rw [List.lookup_eq_none_iff]
    intro entry hentry
    have hknown := hvalid.2 entry hentry
    rw [bne_iff_ne]
    rintro rfl
    simp [hnone] at hknown
  rw [hlookup]
  rfl

/-- A required text with a list of values has one of them. -/
theorem isAnyOf_of_valid {parameter : Parameter} {words : List String}
    (hvalid : validateParameters params parameters = true) (hmem : parameter ∈ parameters)
    (hfind : parameters.find? (·.name = parameter.name) = some parameter)
    (hrequired : parameter.required = true) (htype : parameter.type = .string)
    (henum : parameter.enum = some words) : isAnyOf params parameter.name words = true := by
  rw [validateParameters, Bool.and_eq_true, List.all_eq_true, List.all_eq_true] at hvalid
  have hgiven := hvalid.1 parameter hmem
  rw [hrequired, Bool.not_true, Bool.false_or, List.any_eq_true] at hgiven
  obtain ⟨entry, hentry, hname⟩ := hgiven
  -- the first value under the name is the one that is read
  obtain ⟨value, hvalue⟩ : ∃ value, params.lookup parameter.name = some value := by
    rw [← Option.isSome_iff_exists, List.lookup_isSome_iff]
    exact ⟨entry, hentry, by simpa using (of_decide_eq_true hname).symm⟩
  obtain ⟨before, after, hsplit, -⟩ := List.lookup_eq_some_iff.mp hvalue
  have hchecked := hvalid.2 (parameter.name, value) (by simp [hsplit])
  simp only [hfind, Bool.and_eq_true, htype] at hchecked
  cases value with
  | str text =>
    have hword : words.any (·.toList = text) = true := by simpa [validateExtended, henum] using hchecked.2
    rw [isAnyOf, List.any_eq_true]
    obtain ⟨word, hmemWord, heq⟩ := List.any_eq_true.mp hword
    exact ⟨word, hmemWord, by simpa [isText, Dict.get, hvalue] using (of_decide_eq_true heq).symm⟩
  | _ => cases hchecked.1

end DBClaw.Skills
