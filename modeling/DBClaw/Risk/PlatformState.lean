import DBClaw.Risk.Prompts
import DBClaw.Skills.Execution
import Mathlib.Data.List.Nodup

/-! # The gate and the platform's own tables
The rules look at `sql` and `command` arguments, at two permissions, and at the actions of
`manage_alert_settings`. The other skills that write the platform's own tables have none of these, so that
their calls run at once. `covered_iff` says which calls leave the tables as they are. -/

namespace DBClaw.Risk

open Skills

variable (u : Unicode) (repr : Json → Text) (env : Env)

/-! ## The gate -/

/-- **One tool call of `run_conversation_with_skills`**: the tables after its execution, `none` where it
waits for an approval. -/
def runToolCall (world : World) (call : Call) (client : Option (Option Verdict)) (skipApproval : Bool)
    (platform : Platform) : Option Platform :=
  let level := (assessToolRisk u repr call client).1.level
  if (level = .high ∨ level = .destructive) ∧ ! skipApproval then none
  else some (executeSkillCall env world platform u call.toolName call.arguments)

/-- The primary keys of the tables. -/
structure Keyed (platform : Platform) : Prop where
  datasources : (platform.datasources.map Row.id).Nodup
  hosts : (platform.hosts.map Row.id).Nodup
  skills : (platform.skills.map Row.id).Nodup
  templates : (platform.templates.map Row.id).Nodup
  subscriptions : (platform.subscriptions.map Row.id).Nodup

/-- **The gate covers a call**: when it runs without an approval and without asking the model, it leaves the
tables as they are. -/
def GateCovers (call : Call) : Prop :=
  ∀ client world platform platform', Keyed platform →
    (client.isSome && isAsked u repr call) = false →
    runToolCall u repr env world call client false platform = some platform' → platform' = platform

/-! ## What a call can change -/

section Changes

variable (params : Dict)

/-- `manage_datasource` changes a row, if the row exists. -/
def changesDatasource : Bool :=
  let columns := written env datasourceFields params
  if isText params "action" "create" then
    hasAll params ["name", "db_type", "host", "port"] &&
      env.accepts "datasource" (newDatasource env params)
  else if isText params "action" "update" then
    (integerKey params "datasource_id").isSome && ! columns.isEmpty && env.accepts "datasource" columns
  else if isText params "action" "delete" then (integerKey params "datasource_id").isSome
  else false

/-- `manage_host` changes a row, if the row exists. -/
def changesHost : Bool :=
  let columns := written env hostFields params
  if isText params "action" "create" then
    hasAll params ["name", "host", "username"] && hasCredentials params &&
      env.accepts "host" (newHost env params)
  else if isText params "action" "update" then
    (integerKey params "host_id").isSome && ! columns.isEmpty && env.accepts "host" columns
  else if isText params "action" "delete" then (integerKey params "host_id").isSome
  else false

/-- `manage_skill` changes a row other than its own, if the row exists. -/
def changesSkill : Bool :=
  let change (columns : Dict) : Bool := ! columns.isEmpty && env.accepts "skill" columns
  (skillKey params).any (· ≠ .text "manage_skill".toList) &&
    if isText params "action" "create" then
      hasAll params ["skill_id", "name", "code"] && skillDefinitionOk env params u &&
        env.accepts "skill" (newSkill params)
    else if isText params "action" "update" then change (written env skillFields params)
    else if isText params "action" "enable" then change [("is_enabled", .bool true)]
    else if isText params "action" "disable" then change [("is_enabled", .bool false)]
    else false

/-- `manage_alert_settings` changes a row although it only reads: default templates are missing, or a
silence is over. -/
def changesAlertSettings : Bool :=
  isText params "action" "get" &&
    if isText params "target" "template" then (toInt params "template_id").any (· ≠ 0)
    else if isText params "target" "datasource_config" then (datasourceKey params).isSome
    else if isText params "target" "silence" then (datasourceKey params).isSome
    else false

end Changes

/-- The execution of a skill can change a row, without an approval. -/
def changes (params : Dict) : ManageSkill → Bool
  | .datasource => changesDatasource env params
  | .host => changesHost env params
  | .skill => changesSkill u env params
  | .alertSettings => changesAlertSettings params

/-- **A call can change a row** without an approval. -/
def canChange (call : Call) : Bool :=
  match ManageSkill.ofId call.toolName with
  | some manage =>
    startsWith env (call.arguments.get "timeout") &&
      validateParameters (withoutTimeout call.arguments) manage.parameters &&
      changes u env (withoutTimeout call.arguments) manage
  | none => false

variable {u repr env} {world : World} {params : Dict} {platform : Platform} {call : Call}

/-! ## Tables -/

theorem updateRow_none (admits : Row → Bool) (change : Row → Row) (rows : List Row) :
    updateRow none admits change rows = rows := by
  simp [updateRow]

/-- An update that names no row or writes no column. -/
theorem updateRow_write_eq_self {key : Option Key} {columns : Dict}
    (h : (key.isSome && ! columns.isEmpty) = false) (admits : Row → Bool) (rows : List Row) :
    updateRow key admits (·.write columns) rows = rows := by
  cases key with
  | none => exact updateRow_none admits _ rows
  | some key =>
    have hcolumns : columns = [] := by simpa using h
    subst hcolumns
    simp [updateRow, Row.write]

/-- A transaction that the database does not take, or that writes what is there. -/
theorem commit_eq_self {accepted : Bool} {after : Platform} (h : accepted = true → after = platform) :
    world.commit accepted platform after = platform := by
  unfold World.commit
  split
  · rename_i hcommit
    rw [Bool.and_eq_true] at hcommit
    exact h hcommit.2
  · rfl

/-! ## Calls that change nothing -/

theorem manageDatasource_eq_self (h : changesDatasource env params = false) :
    manageDatasource env world params platform = platform := by
  simp only [changesDatasource] at h
  simp only [manageDatasource]
  split_ifs at h ⊢ with hcreate hall hupdate hdelete
  · exact commit_eq_self fun haccepted => by simp [hall, haccepted] at h
  · rfl
  · refine commit_eq_self fun haccepted => ?_
    rw [haccepted, Bool.and_true] at h
    rw [updateRow_write_eq_self h]
  · rw [Option.isSome_eq_false_iff, Option.isNone_iff_eq_none] at h
    exact commit_eq_self fun _ => by rw [h, updateRow_none]
  · rfl

theorem manageHost_eq_self (h : changesHost env params = false) :
    manageHost env world params platform = platform := by
  simp only [changesHost] at h
  simp only [manageHost]
  split_ifs at h ⊢ with hcreate hall hupdate hdelete
  · exact commit_eq_self fun haccepted => by simp [hall, haccepted] at h
  · rfl
  · refine commit_eq_self fun haccepted => ?_
    rw [haccepted, Bool.and_true] at h
    rw [updateRow_write_eq_self h]
  · rw [Option.isSome_eq_false_iff, Option.isNone_iff_eq_none] at h
    exact commit_eq_self fun _ => by simp [h]
  · rfl

/-- The skill's own row is built-in, and no other row has its id. -/
theorem updateRow_own {name : String} (hkeyed : (platform.skills.map Row.id).Nodup)
    (hregistered : isRegistered platform name = true) (change : Row → Row) :
    updateRow (some (.text name.toList)) Row.isCustom change platform.skills = platform.skills := by
  obtain ⟨own, hown, hself⟩ := List.any_eq_true.mp hregistered
  simp only [Bool.and_eq_true, decide_eq_true_eq] at hself
  obtain ⟨⟨hid, hbuiltin⟩, -⟩ := hself
  unfold updateRow
  conv_rhs => rw [← List.map_id platform.skills]
  refine List.map_congr_left fun row hrow => if_neg ?_
  rintro ⟨hkey, hcustom⟩
  have hsame : row = own := List.inj_on_of_nodup_map hkeyed hrow hown (by
    rw [hid]
    exact Option.some.inj hkey)
  rw [hsame, Row.isCustom, hbuiltin] at hcustom
  cases hcustom

theorem hasRow_own {name : String} (hregistered : isRegistered platform name = true) :
    hasRow (some (.text name.toList)) (fun _ => true) platform.skills = true := by
  obtain ⟨own, hown, hself⟩ := List.any_eq_true.mp hregistered
  simp only [Bool.and_eq_true, decide_eq_true_eq] at hself
  rw [hasRow, List.any_eq_true]
  exact ⟨own, hown, by simp [hself.1.1]⟩

/-- Columns are written to no row, or none are. -/
theorem changeSkill_eq_self {columns : Dict}
    (h : ((skillKey params).isSome && ! columns.isEmpty && env.accepts "skill" columns) = false) :
    changeSkill env world params platform columns = platform := by
  refine commit_eq_self fun haccepted => ?_
  rw [haccepted, Bool.and_true] at h
  rw [updateRow_write_eq_self h]

theorem manageSkill_eq_self (hkeyed : (platform.skills.map Row.id).Nodup)
    (hregistered : isRegistered platform "manage_skill" = true) (h : changesSkill u env params = false) :
    manageSkill env world params platform u = platform := by
  simp only [changesSkill] at h
  simp only [manageSkill]
  obtain hnone | ⟨id, hid⟩ := (skillKey params).eq_none_or_eq_some
  · have hchange (columns : Dict) : changeSkill env world params platform columns = platform :=
      changeSkill_eq_self (by simp [hnone])
    simp [hnone, hchange]
  · by_cases hown : id = .text "manage_skill".toList
    · -- the skill can neither be made again nor be changed
      subst hown
      have hchange (columns : Dict) : changeSkill env world params platform columns = platform :=
        commit_eq_self fun _ => by rw [hid, updateRow_own hkeyed hregistered]
      simp only [hid, hasRow_own hregistered]
      simp [hchange]
    · have hchange {columns : Dict} (hno : (! columns.isEmpty && env.accepts "skill" columns) = false) :
          changeSkill env world params platform columns = platform :=
        changeSkill_eq_self (by simpa [hid] using hno)
      simp only [hid, Option.any_some, ne_eq, hown, not_false_eq_true, decide_true, Bool.true_and] at h ⊢
      split_ifs at h ⊢ with hcreate hall hupdate henable hdisable
      · simp only [Bool.and_eq_true] at hall
        exact commit_eq_self fun haccepted => by simp [hall, haccepted] at h
      · rfl
      · exact hchange h
      · exact hchange h
      · exact hchange h
      · rfl

theorem hasRow_none (admits : Row → Bool) (rows : List Row) : hasRow none admits rows = false := by
  simp [hasRow]

/-- What only reads changes nothing, but for the default templates and a silence that is over. -/
theorem manageAlertSettings_eq_self (hread : isAnyOf params "action" ["list", "get"] = true)
    (h : changesAlertSettings params = false) :
    manageAlertSettings env world params platform = platform := by
  simp only [changesAlertSettings] at h
  simp only [manageAlertSettings, hread, Bool.not_true, Bool.false_eq_true, if_false]
  by_cases huser : world.userExists = true
  swap
  · simp [huser]
  by_cases hget : isText params "action" "get" = true
  swap
  · simp [hget]
  simp only [hget, Bool.true_and] at h
  simp only [hget, huser, Bool.not_true, Bool.false_eq_true, if_false]
  split_ifs at h with htemplate hconfig hsilence
  · rw [if_pos htemplate, h]
    rfl
  · rw [Option.isSome_eq_false_iff, Option.isNone_iff_eq_none] at h
    rw [if_neg htemplate, if_pos hconfig, h, hasRow_none]
    rfl
  · rw [Option.isSome_eq_false_iff, Option.isNone_iff_eq_none] at h
    rw [if_neg htemplate, if_neg hconfig, if_pos hsilence, h, updateRow_none]
    exact commit_eq_self fun _ => rfl
  · rw [if_neg htemplate, if_neg hconfig, if_neg hsilence]

/-! ## Calls that change a row -/

/-- An execution whose transactions commit. -/
def committing : World where
  now := 0
  newId := 1
  userExists := true
  commits := true
  changeAlertSettings := fun _ platform => platform

/-- A row without columns, with a silence that is over. -/
def bare (key : Key) : Row where
  id := key
  silenceUntil := some 0
  columns := []

/-- Tables with the row of a skill and one other row. -/
def holding (name : String) (key : Key) (custom : List Row) : Platform where
  datasources := [bare key]
  hosts := [bare key]
  skills := { id := .text name.toList, isBuiltin := true, columns := [("is_enabled", .bool true)] } :: custom
  templates := []
  subscriptions := []

@[simp] theorem commit_committing (accepted : Bool) (before after : Platform) :
    committing.commit accepted before after = if accepted then after else before := by
  simp [World.commit, committing]

theorem isRegistered_holding (name : String) (key : Key) (custom : List Row) :
    isRegistered (holding name key custom) name = true := by
  simp [isRegistered, holding, Dict.get, Json.truthy]

theorem updateRow_bare {key : Key} {admits : Row → Bool} (hadmits : admits (bare key) = true)
    (change : Row → Row) : updateRow (some key) admits change [bare key] = [change (bare key)] := by
  simp [updateRow, hadmits, show (bare key).id = key from rfl]

/-- A column more than none. -/
theorem write_bare_ne {key : Key} {columns : Dict} (hcolumns : columns ≠ []) :
    (bare key).write columns ≠ bare key := by
  intro h
  have hempty := congrArg Row.columns h
  simp [Row.write, bare, hcolumns] at hempty

theorem exists_manageDatasource_ne (h : changesDatasource env params = true) :
    ∃ key, manageDatasource env committing params (holding "manage_datasource" key []) ≠
      holding "manage_datasource" key [] := by
  simp only [changesDatasource] at h
  simp only [manageDatasource, commit_committing]
  split_ifs at h with hcreate hupdate hdelete
  · rw [Bool.and_eq_true] at h
    refine ⟨.int 0, fun hsame => ?_⟩
    rw [if_pos hcreate, if_pos h.1, if_pos h.2] at hsame
    simpa [holding] using congrArg Platform.datasources hsame
  · simp only [Bool.and_eq_true, Bool.not_eq_true', List.isEmpty_eq_false_iff] at h
    obtain ⟨key, hkey⟩ := Option.isSome_iff_exists.mp h.1.1
    refine ⟨key, fun hsame => write_bare_ne h.1.2 (?_ : (bare key).write _ = bare key)⟩
    rw [if_neg hcreate, if_pos hupdate, if_pos h.2, hkey, holding, updateRow_bare rfl] at hsame
    simpa using congrArg Platform.datasources hsame
  · obtain ⟨key, hkey⟩ := Option.isSome_iff_exists.mp h
    refine ⟨key, fun hsame => ?_⟩
    rw [if_neg hcreate, if_neg hupdate, if_pos hdelete, if_true, hkey, holding, updateRow_bare rfl] at hsame
    simpa [bare] using congrArg Platform.datasources hsame

theorem exists_manageHost_ne (h : changesHost env params = true) :
    ∃ key, manageHost env committing params (holding "manage_host" key []) ≠
      holding "manage_host" key [] := by
  simp only [changesHost] at h
  simp only [manageHost, commit_committing]
  split_ifs at h with hcreate hupdate hdelete
  · rw [Bool.and_eq_true] at h
    refine ⟨.int 0, fun hsame => ?_⟩
    rw [if_pos hcreate, if_pos h.1, if_pos h.2] at hsame
    simpa [holding] using congrArg Platform.hosts hsame
  · simp only [Bool.and_eq_true, Bool.not_eq_true', List.isEmpty_eq_false_iff] at h
    obtain ⟨key, hkey⟩ := Option.isSome_iff_exists.mp h.1.1
    refine ⟨key, fun hsame => write_bare_ne h.1.2 (?_ : (bare key).write _ = bare key)⟩
    rw [if_neg hcreate, if_pos hupdate, if_pos h.2, hkey, holding, updateRow_bare rfl] at hsame
    simpa using congrArg Platform.hosts hsame
  · obtain ⟨key, hkey⟩ := Option.isSome_iff_exists.mp h
    refine ⟨key, fun hsame => ?_⟩
    rw [if_neg hcreate, if_neg hupdate, if_pos hdelete, if_true, hkey] at hsame
    simpa [holding, bare] using congrArg Platform.hosts hsame

/-- The row of another skill is changed. -/
theorem changeSkill_ne {key : Key} {columns : Dict} (hkey : skillKey params = some key)
    (h : (! columns.isEmpty && env.accepts "skill" columns) = true) :
    changeSkill env committing params (holding "manage_skill" key [bare key]) columns ≠
      holding "manage_skill" key [bare key] := by
  simp only [Bool.and_eq_true, Bool.not_eq_true', List.isEmpty_eq_false_iff] at h
  intro hsame
  rw [changeSkill, commit_committing, if_pos h.2, hkey, holding] at hsame
  have hrows := congrArg (fun platform => platform.skills.getLast?) hsame
  simp only [updateRow, List.map_cons, List.map_nil, List.getLast?_cons_cons, List.getLast?_singleton,
    Option.some.injEq] at hrows
  rw [if_pos ⟨rfl, rfl⟩] at hrows
  exact write_bare_ne h.1 hrows

theorem exists_manageSkill_ne (h : changesSkill u env params = true) :
    ∃ key custom, key ≠ .text "manage_skill".toList ∧ (custom = [] ∨ custom = [bare key]) ∧
      manageSkill env committing params (holding "manage_skill" key custom) u ≠
        holding "manage_skill" key custom := by
  simp only [changesSkill, Bool.and_eq_true, Option.any_eq_true, decide_eq_true_eq] at h
  obtain ⟨⟨key, hkey, hother⟩, h⟩ := h
  simp only [manageSkill, hkey]
  split_ifs at h ⊢ with hcreate hupdate henable hdisable
  · simp only [Bool.and_eq_true] at h
    refine ⟨key, [], hother, .inl rfl, fun hsame => ?_⟩
    have hnew : hasRow (some key) (fun _ => true) (holding "manage_skill" key []).skills = false := by
      simpa [hasRow, holding] using Ne.symm hother
    rw [if_pos (by simp [h.1, hnew]), commit_committing, if_pos h.2] at hsame
    simpa [holding] using congrArg Platform.skills hsame
  · exact ⟨key, [bare key], hother, .inr rfl, changeSkill_ne hkey h⟩
  · exact ⟨key, [bare key], hother, .inr rfl, changeSkill_ne hkey h⟩
  · exact ⟨key, [bare key], hother, .inr rfl, changeSkill_ne hkey h⟩

theorem ensureDefaultAlertTemplate_ne {name : String} {key : Key} {custom : List Row} :
    ensureDefaultAlertTemplate env committing (holding name key custom) ≠ holding name key custom := by
  intro hsame
  rw [ensureDefaultAlertTemplate, commit_committing] at hsame
  simpa [holding, hasTemplate, defaultAlertTemplates] using congrArg Platform.templates hsame

theorem exists_manageAlertSettings_ne (h : changesAlertSettings params = true) :
    ∃ key, manageAlertSettings env committing params (holding "manage_alert_settings" key []) ≠
      holding "manage_alert_settings" key [] := by
  simp only [changesAlertSettings, Bool.and_eq_true] at h
  obtain ⟨hget, h⟩ := h
  have hread : isAnyOf params "action" ["list", "get"] = true := by simp [isAnyOf, hget]
  have huser : committing.userExists = true := rfl
  simp only [manageAlertSettings, hread, hget, huser, Bool.not_true, Bool.false_eq_true, if_false]
  split_ifs at h with htemplate hconfig hsilence
  · refine ⟨.int 0, ?_⟩
    rw [if_pos htemplate, if_pos h]
    exact ensureDefaultAlertTemplate_ne
  · obtain ⟨key, hkey⟩ := Option.isSome_iff_exists.mp h
    have hrow : hasRow (datasourceKey params) Row.alive
        (holding "manage_alert_settings" key []).datasources = true := by
      simp [hkey, hasRow, holding, bare, Row.alive]
    refine ⟨key, ?_⟩
    rw [if_neg htemplate, if_pos hconfig, if_pos hrow]
    exact ensureDefaultAlertTemplate_ne
  · obtain ⟨key, hkey⟩ := Option.isSome_iff_exists.mp h
    refine ⟨key, fun hsame => ?_⟩
    rw [if_neg htemplate, if_neg hconfig, if_pos hsilence, commit_committing, if_pos rfl, hkey, holding,
      updateRow_bare (by simp [bare, Row.alive, committing])] at hsame
    have hsilenced := congrArg (fun platform => platform.datasources.map Row.silenceUntil) hsame
    simp [bare] at hsilenced

/-! ## The gate on such calls -/

/-- A call of one of the skills has neither a command nor SQL. -/
theorem texts_eq_nil {manage : ManageSkill}
    (hvalid : validateParameters (withoutTimeout call.arguments) manage.parameters = true) :
    getCommandArg repr call.arguments = [] ∧ getSql repr call.arguments = [] := by
  have hcommand : call.arguments.get "command" = .null :=
    get_eq_null_of_valid hvalid (by decide) (by cases manage <;> decide)
  have hcmd : call.arguments.get "cmd" = .null :=
    get_eq_null_of_valid hvalid (by decide) (by cases manage <;> decide)
  have hshell : call.arguments.get "shell_command" = .null :=
    get_eq_null_of_valid hvalid (by decide) (by cases manage <;> decide)
  have hsql : call.arguments.get "sql" = .null :=
    get_eq_null_of_valid hvalid (by decide) (by cases manage <;> decide)
  constructor
  · rw [getCommandArg, hcommand, hcmd, hshell]
    rfl
  · rw [getSql, hsql]
    rfl

/-- The model is not asked about a call without texts, and the rules judge it. -/
theorem assessToolRisk_of_texts {client : Option (Option Verdict)}
    (htexts : getCommandArg repr call.arguments = [] ∧ getSql repr call.arguments = []) :
    (assessToolRisk u repr call client).1 = keywordAssessRisk u repr call ∧ isAsked u repr call = false := by
  simp [assessToolRisk, isAsked, htexts.1, htexts.2]

/-- A word that `str`, `strip` and `lower` leave as it is. -/
def plainWord (word : String) : Bool :=
  word.toList ≠ [] && Text.strip word.toList = word.toList &&
    word.toList.all fun c => c.toNat < 128 && c.toLower = c

/-- The action of a call is the one that the rules see. -/
theorem alertAction_eq {word : String} (htool : call.toolName = "manage_alert_settings")
    (haction : isText (withoutTimeout call.arguments) "action" word = true)
    (hplain : plainWord word = true) (words : List String) :
    call.alertAction u repr words = isOneOf word.toList words := by
  have hget : call.arguments.get "action" = .str word.toList := by
    rw [isText, get_withoutTimeout (by decide)] at haction
    split at haction
    · rename_i text heq
      rw [heq, of_decide_eq_true haction]
    · cases haction
  simp only [plainWord, Bool.and_eq_true, decide_eq_true_eq, List.all_eq_true] at hplain
  obtain ⟨⟨hne, hstrip⟩, hfixed⟩ := hplain
  have hsame : Text.lower u (strip repr (call.arguments.get "action")) = word.toList := by
    rw [hget, strip, if_pos (by simpa [Json.truthy] using hne)]
    simp only [hstrip]
    exact Text.lower_of_fixed hfixed
  rw [Call.alertAction, hsame, htool]
  rfl

/-- What `manage_alert_settings` writes waits for an approval. -/
theorem level_eq_high_of_write {word : String} {client : Option (Option Verdict)}
    (htool : call.toolName = "manage_alert_settings")
    (htexts : getCommandArg repr call.arguments = [] ∧ getSql repr call.arguments = [])
    (haction : isText (withoutTimeout call.arguments) "action" word = true)
    (hword : word ∈ alertSettingsWriteActions) : (assessToolRisk u repr call client).1.level = .high := by
  have hwords : alertSettingsWriteActions.all (fun word => plainWord word &&
      ! isOneOf word.toList alertSettingsReadActions && isOneOf word.toList alertSettingsWriteActions) =
        true := by decide
  have hwrite := List.all_eq_true.mp hwords word hword
  simp only [Bool.and_eq_true, Bool.not_eq_true'] at hwrite
  rw [(assessToolRisk_of_texts htexts).1, keywordAssessRisk]
  simp only [alertAction_eq htool haction hwrite.1.1, hwrite.1.2, hwrite.2]
  rfl

/-- What `manage_alert_settings` reads runs at once. -/
theorem level_eq_safe_of_get {client : Option (Option Verdict)}
    (htool : call.toolName = "manage_alert_settings")
    (htexts : getCommandArg repr call.arguments = [] ∧ getSql repr call.arguments = [])
    (haction : isText (withoutTimeout call.arguments) "action" "get" = true) :
    (assessToolRisk u repr call client).1.level = .safe := by
  rw [(assessToolRisk_of_texts htexts).1, keywordAssessRisk]
  simp only [alertAction_eq htool haction (by decide)]
  rfl

/-- What the other skills do runs at once. -/
theorem level_eq_safe_of_permissions {client : Option (Option Verdict)}
    (htool : call.toolName ≠ "manage_alert_settings")
    (htexts : getCommandArg repr call.arguments = [] ∧ getSql repr call.arguments = [])
    (hsql : "execute_any_sql" ∉ call.permissions) (hcommand : "execute_any_os_command" ∉ call.permissions) :
    (assessToolRisk u repr call client).1.level = .safe := by
  rw [(assessToolRisk_of_texts htexts).1]
  simp [keywordAssessRisk, Call.alertAction, htool, htexts.1, htexts.2, assessPermissions, hsql, hcommand,
    Call.readOnly]

theorem toolName_of_ofId {name : String} {manage : ManageSkill} (h : ManageSkill.ofId name = some manage) :
    name = manage.id := by
  have hid := List.find?_some h
  exact (of_decide_eq_true hid).symm

/-- **The skills that change a row unasked are rated safe.** -/
theorem level_eq_safe_of_changes {manage : ManageSkill} {client : Option (Option Verdict)}
    (htool : ManageSkill.ofId call.toolName = some manage) (hpermissions : call.permissions = manage.permissions)
    (hvalid : validateParameters (withoutTimeout call.arguments) manage.parameters = true)
    (hchanges : changes u env (withoutTimeout call.arguments) manage = true) :
    (assessToolRisk u repr call client).1.level = .safe := by
  have hname := toolName_of_ofId htool
  have htexts : getCommandArg repr call.arguments = [] ∧ getSql repr call.arguments = [] :=
    texts_eq_nil hvalid
  cases manage with
  | alertSettings =>
    rw [changes, changesAlertSettings, Bool.and_eq_true] at hchanges
    exact level_eq_safe_of_get hname htexts hchanges.1
  | datasource =>
    exact level_eq_safe_of_permissions (by rw [hname]; decide) htexts (by rw [hpermissions]; decide)
      (by rw [hpermissions]; decide)
  | host =>
    exact level_eq_safe_of_permissions (by rw [hname]; decide) htexts (by rw [hpermissions]; decide)
      (by rw [hpermissions]; decide)
  | skill =>
    exact level_eq_safe_of_permissions (by rw [hname]; decide) htexts (by rw [hpermissions]; decide)
      (by rw [hpermissions]; decide)

/-! ## Covered calls -/

/-- The tables of a row with a key and perhaps the same row among the skills. -/
theorem keyed_holding {name : String} {key : Key} {custom : List Row}
    (hcustom : custom = [] ∨ (custom = [bare key] ∧ key ≠ .text name.toList)) :
    Keyed (holding name key custom) := by
  obtain rfl | ⟨rfl, hother⟩ := hcustom
  · constructor <;> simp [holding]
  · constructor <;> simp [holding, bare, Ne.symm hother]

/-- An execution that changes a row, of a skill that can. -/
theorem exists_execute_ne {manage : ManageSkill} (h : changes u env params manage = true) :
    ∃ platform, Keyed platform ∧ isRegistered platform manage.id = true ∧
      manage.execute env committing params platform u ≠ platform := by
  cases manage with
  | datasource =>
    obtain ⟨key, hne⟩ := exists_manageDatasource_ne h
    exact ⟨_, keyed_holding (.inl rfl), isRegistered_holding _ _ _, hne⟩
  | host =>
    obtain ⟨key, hne⟩ := exists_manageHost_ne h
    exact ⟨_, keyed_holding (.inl rfl), isRegistered_holding _ _ _, hne⟩
  | skill =>
    obtain ⟨key, custom, hother, hcustom, hne⟩ := exists_manageSkill_ne h
    exact ⟨_, keyed_holding (hcustom.imp id fun hrow => ⟨hrow, hother⟩), isRegistered_holding _ _ _, hne⟩
  | alertSettings =>
    obtain ⟨key, hne⟩ := exists_manageAlertSettings_ne h
    exact ⟨_, keyed_holding (.inl rfl), isRegistered_holding _ _ _, hne⟩

/-- A skill that can change no row changes none, if the gate lets its call through. -/
theorem execute_eq_self {manage : ManageSkill} {client : Option (Option Verdict)} (hkeyed : Keyed platform)
    (htool : ManageSkill.ofId call.toolName = some manage)
    (hregistered : isRegistered platform call.toolName = true)
    (hvalid : validateParameters (withoutTimeout call.arguments) manage.parameters = true)
    (hlevel : (assessToolRisk u repr call client).1.level = .safe)
    (h : changes u env (withoutTimeout call.arguments) manage = false) :
    manage.execute env world (withoutTimeout call.arguments) platform u = platform := by
  have hname := toolName_of_ofId htool
  cases manage with
  | datasource => exact manageDatasource_eq_self h
  | host => exact manageHost_eq_self h
  | skill =>
    rw [hname] at hregistered
    exact manageSkill_eq_self hkeyed.skills hregistered h
  | alertSettings =>
    have hknown : validateParameters (withoutTimeout call.arguments) manageAlertSettingsParameters = true :=
      hvalid
    have haction : isAnyOf (withoutTimeout call.arguments) "action"
        (alertSettingsReadActions ++ alertSettingsWriteActions) = true :=
      isAnyOf_of_valid hknown (List.mem_cons_of_mem _ List.mem_cons_self) rfl rfl rfl rfl
    rw [isAnyOf, List.any_append, Bool.or_eq_true] at haction
    obtain hread | hwrite := haction
    · exact manageAlertSettings_eq_self hread h
    · obtain ⟨word, hword, htext⟩ := List.any_eq_true.mp hwrite
      rw [level_eq_high_of_write hname (texts_eq_nil hvalid) htext hword] at hlevel
      cases hlevel

/-- **The gate covers exactly the calls that can change no row.** A call of one of the skills runs at once
with its create, update and delete actions, but for those of the alert settings. -/
theorem covered_iff (hpermissions : ∀ manage, ManageSkill.ofId call.toolName = some manage →
      call.permissions = manage.permissions) :
    GateCovers u repr env call ↔ canChange u env call = false := by
  unfold canChange
  cases htool : ManageSkill.ofId call.toolName with
  | none =>
    refine ⟨fun _ => rfl, fun _ client world platform platform' _ _ hrun => ?_⟩
    simp only [runToolCall, executeSkillCall, htool] at hrun
    split at hrun
    · cases hrun
    · exact (Option.some.inj hrun).symm
  | some manage =>
    dsimp only
    constructor
    · intro hcovered
      by_contra hcan
      simp only [Bool.not_eq_false, Bool.and_eq_true] at hcan
      obtain ⟨⟨hstarts, hvalid⟩, hchanges⟩ := hcan
      obtain ⟨platform, hkeyed, hregistered, hne⟩ := exists_execute_ne hchanges
      refine hne (hcovered none committing platform _ hkeyed rfl ?_)
      have hlevel : (assessToolRisk u repr call none).1.level = .safe :=
        level_eq_safe_of_changes htool (hpermissions manage htool) hvalid hchanges
      rw [← toolName_of_ofId htool] at hregistered
      simp [runToolCall, hlevel, executeSkillCall, htool, hstarts, hvalid, hregistered]
    · intro hcan client world platform platform' hkeyed _ hrun
      simp only [runToolCall, executeSkillCall, htool] at hrun
      split at hrun
      · cases hrun
      · rename_i hlevel
        rw [← Option.some.inj hrun]
        split
        · rename_i hstart
          simp only [Bool.and_eq_true] at hstart
          have hsafe : (assessToolRisk u repr call client).1.level = .safe := by
            cases hlev : (assessToolRisk u repr call client).1.level <;> simp [hlev] at hlevel ⊢
          exact execute_eq_self hkeyed htool hstart.1.2 hstart.2 hsafe (by simpa [hstart] using hcan)
        · rfl

/-- An environment whose database takes every value. -/
def lenient : Env where
  encrypt text := text
  readsInt _ := false
  accepts _ _ := true
  parameterOk _ := true
  validateCode _ := true
  templateConfig _ := .obj []

/-- A call of `manage_host` on the host 1. -/
def hostCall (action : String) : Call where
  toolName := "manage_host"
  arguments := [("action", .str action.toList), ("host_id", .int 1)]
  permissions := ["admin"]

theorem getHost_covered : GateCovers Unicode.asciiOnly (fun _ => []) lenient (hostCall "get") :=
  (covered_iff (by
    intro manage htool
    have hid := toolName_of_ofId htool
    cases manage
    case host => rfl
    all_goals exact absurd hid (by decide))).mpr (by decide)

/-- A host is deleted unasked. -/
theorem deleteHost_not_covered :
    ¬ GateCovers Unicode.asciiOnly (fun _ => []) lenient (hostCall "delete") := by
  intro hcovered
  have hrun : runToolCall Unicode.asciiOnly (fun _ => []) lenient committing (hostCall "delete") none false
      (holding "manage_host" (.int 1) []) = some { holding "manage_host" (.int 1) [] with hosts := [] } := rfl
  have hsame := hcovered none committing _ _ (keyed_holding (.inl rfl)) rfl hrun
  simpa [holding] using congrArg Platform.hosts hsame

end DBClaw.Risk
