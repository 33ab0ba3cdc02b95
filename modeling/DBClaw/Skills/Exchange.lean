import DBClaw.Skills.Definitions

/-! # Exporting and importing skills
`export_skill` reads a definition from a row and dumps it to YAML, and `import_skill` loads a definition from
YAML and registers it. Dumping YAML and loading it again is the identity on plain data, so that YAML is left
out here: `dump_to_yaml` gives the data, and `load_from_yaml` takes it. -/

namespace DBClaw.Skills

/-! ## `SkillLoader` -/

/-- A parameter in `dump_to_yaml`. -/
def dumpParameter (parameter : SkillParameter) : Dict := [
  ("name", .str parameter.name.toList),
  ("type", .str parameter.type),
  ("required", .bool parameter.required),
  ("default", parameter.default),
  ("description", .str parameter.description)]

/-- **`dump_to_yaml`**. -/
def dumpToYaml (fields : SkillFields) : Json := .obj [
  ("id", .str fields.id),
  ("name", .str fields.name),
  ("version", .str fields.version),
  ("author", ofOptional .str fields.author),
  ("category", ofOptional .str fields.category),
  ("description", .str fields.description),
  ("tags", ofList fields.tags),
  ("parameters", .arr (fields.parameters.map fun parameter => .obj (dumpParameter parameter))),
  ("dependencies", ofList fields.dependencies),
  ("permissions", ofList fields.permissions),
  ("timeout", ofOptional .int fields.timeout),
  ("code", .str fields.code),
  ("i18n", ofI18n fields.i18n)]

/-- What a loop over `data.get("parameters", [])` runs over, if it does not raise. -/
def parameterItems : Json → Option (List Json)
  | .arr items => some items
  | .str [] | .obj [] => some []
  | _ => none

/-- The fields that `load_from_yaml` reads. -/
def loadFields (py : Pydantic) (data : Dict) : Option SkillFields := do
  let parameters ← (← parameterItems (data.getD "parameters" (.arr []))).mapM (readParameter py)
  some {
    id := ← readField data "id" readText none
    name := ← readField data "name" readText none
    version := ← readField data "version" readText none
    author := ← readOptional readText (data.get "author")
    category := ← readOptional readText (data.get "category")
    description := ← readField data "description" readText none
    tags := ← readList readText (data.getD "tags" (.arr []))
    parameters := parameters
    dependencies := ← readList readText (data.getD "dependencies" (.arr []))
    permissions := ← readList readText (data.getD "permissions" (.arr []))
    timeout := ← readOptional py.readInt (data.get "timeout")
    code := ← readField data "code" readText none
    i18n := ← readDict readTranslation (data.getD "i18n" (.obj [])) }

/-- **`load_from_yaml`**, `none` where it raises. -/
def loadFromYaml (py : Pydantic) (u : Unicode) : Json → Option (SkillDefinition u)
  | .obj data => (loadFields py data).bind (·.validate u)
  | _ => none

/-! ## `export_skill` and `import_skill` -/

/-- The fields that `export_skill` reads from a row: there is neither an author nor a timeout. -/
def exportFields (py : Pydantic) (row : Row) : Option SkillFields := do
  let .text id := row.id | none
  some {
    id := id
    name := ← readText (row.columns.get "name")
    version := ← readText (row.columns.get "version")
    category := ← readOptional readText (row.columns.get "category")
    description := ← readText (row.columns.get "description")
    tags := ← readList readText ((row.columns.get "tags").or (.arr []))
    parameters := ← readList (readParameter py) ((row.columns.get "parameters").or (.arr []))
    dependencies := ← readList readText ((row.columns.get "dependencies").or (.arr []))
    permissions := ← readList readText ((row.columns.get "permissions").or (.arr []))
    code := ← readText (row.columns.get "code")
    i18n := ← readDict readTranslation ((row.columns.get "i18n").or (.obj [])) }

/-- **`export_skill`**. -/
def exportSkill (py : Pydantic) (u : Unicode) (row : Row) : Option Json :=
  ((exportFields py row).bind (·.validate u)).map fun definition => dumpToYaml definition.1

/-- **`import_skill`** by a user. -/
def importSkill (py : Pydantic) (u : Unicode) (env : Env) (userId : ℤ) (yaml : Json) (rows : List Row) :
    Option (List Row) := do
  let definition ← loadFromYaml py u yaml
  registerSkill env (some userId) false definition.1 rows

/-! ## Loading what was dumped -/

variable {py : Pydantic} {u : Unicode}

/-- A parameter without the fields that `dump_to_yaml` leaves out. -/
def SkillParameter.stripped (parameter : SkillParameter) : SkillParameter :=
  { parameter with min := none, max := none, pattern := none, enum := none, items := none }

/-- A definition without them. -/
def SkillFields.stripped (fields : SkillFields) : SkillFields :=
  { fields with parameters := fields.parameters.map SkillParameter.stripped }

/-- A parameter has none of the fields that `dump_to_yaml` leaves out. -/
def SkillParameter.IsPlain (parameter : SkillParameter) : Prop :=
  parameter.min = none ∧ parameter.max = none ∧ parameter.pattern = none ∧ parameter.enum = none ∧
    parameter.items = none

theorem readParameter_dumpParameter (parameter : SkillParameter) :
    readParameter py (.obj (dumpParameter parameter)) = some parameter.stripped := by
  simp [readParameter, SkillParameter.ofDict, dumpParameter, SkillParameter.stripped, readField, Dict.get,
    List.lookup_cons, readText, Pydantic.readBool]

theorem accepted_stripped {fields : SkillFields} : fields.stripped.accepted u = fields.accepted u := rfl

theorem parameterItems_arr (items : List Json) : parameterItems (.arr items) = some items := rfl

/-- **What is loaded** is what was dumped, without the fields that `dump_to_yaml` leaves out. -/
theorem loadFields_dumpToYaml {fields : SkillFields} {data : Dict} (h : dumpToYaml fields = .obj data) :
    loadFields py data = some fields.stripped := by
  cases h
  have htext (x : Option Text) : readOptional readText (ofOptional .str x) = some x :=
    @readOptional_ofOptional Text readText .str (fun _ => ⟨by simp, rfl⟩) x
  have hint (x : Option ℤ) : readOptional py.readInt (ofOptional .int x) = some x :=
    @readOptional_ofOptional ℤ py.readInt .int (fun _ => ⟨by simp, rfl⟩) x
  have hparameters (parameters : List SkillParameter) :
      (parameters.map fun parameter => Json.obj (dumpParameter parameter)).mapM (readParameter py) =
        some (parameters.map SkillParameter.stripped) :=
    mapM_map_eq_some readParameter_dumpParameter
  simp [loadFields, readField, Dict.get, Dict.getD, List.lookup_cons, readText, htext, hint, hparameters,
    readList_ofList, readDict_ofI18n, parameterItems_arr, SkillFields.stripped]

theorem loadFromYaml_dumpToYaml (definition : SkillDefinition u) :
    loadFromYaml py u (dumpToYaml definition.1) =
      some ⟨definition.1.stripped, accepted_stripped.trans definition.2⟩ := by
  rw [dumpToYaml, loadFromYaml, loadFields_dumpToYaml rfl, Option.bind_some, SkillFields.validate,
    dif_pos (accepted_stripped.trans definition.2)]

theorem stripped_eq_self_iff {parameter : SkillParameter} : parameter.stripped = parameter ↔ parameter.IsPlain := by
  obtain ⟨name, type, required, default, description, min, max, pattern, enum, items⟩ := parameter
  simp only [SkillParameter.stripped, SkillParameter.IsPlain, SkillParameter.mk.injEq, true_and, eq_comm]

/-- Nothing is left out of a list of parameters just if there is nothing to leave out. -/
theorem map_stripped_eq_self_iff {parameters : List SkillParameter} :
    parameters.map SkillParameter.stripped = parameters ↔ ∀ parameter ∈ parameters, parameter.IsPlain := by
  nth_rewrite 2 [← List.map_id parameters]
  rw [List.map_inj_left]
  exact forall₂_congr fun parameter _ => stripped_eq_self_iff

/-! ## Exporting and importing -/

/-- The columns that a skill takes with it. -/
def exchangedColumns : List String :=
  ["name", "version", "category", "description", "tags", "parameters", "dependencies", "permissions", "timeout",
    "code", "i18n"]

/-- **A row survives the exchange**: its export is imported as a row with the same columns. -/
def Exchanged (py : Pydantic) (u : Unicode) (env : Env) (userId : ℤ) (row : Row) (rows : List Row) : Prop :=
  ∃ yaml, exportSkill py u row = some yaml ∧ ∃ imported, importSkill py u env userId yaml rows = some imported ∧
    (∃ row' ∈ imported, row'.id = row.id) ∧
      ∀ row' ∈ imported, row'.id = row.id →
        ∀ key ∈ exchangedColumns, row'.columns.get key = row.columns.get key

/-- What `export_skill` leaves of a definition. -/
def SkillFields.exported (fields : SkillFields) : SkillFields := { fields with author := none, timeout := none }

variable {env : Env} {authorId : Option ℤ} {userId : ℤ} {isBuiltin : Bool} {row : Row} {rows before after : List Row}

/-- A row holds the columns of a definition that `register_skill` accepts. -/
structure Stored (env : Env) (fields : SkillFields) (row : Row) : Prop where
  id : row.id = .text fields.id
  columns : ∀ key value, fields.columns.lookup key = some value → row.columns.get key = value
  accepted : (env.validateCode fields.code && env.accepts "skill" fields.columns) = true

/-- What `register_skill` accepts is stored. -/
theorem stored_of_register {fields : SkillFields}
    (hregister : registerSkill env authorId isBuiltin fields before = some after) (hrow : row ∈ after)
    (hid : row.id = .text fields.id) : Stored env fields row where
  id := hid
  columns := fun _ _ => get_of_mem_registerSkill hregister hrow hid
  accepted := registerSkill_eq_some hregister

/-- What is exported of a stored definition. -/
theorem exportFields_of_stored {fields : SkillFields} (hstored : Stored env fields row) :
    exportFields py row = some fields.exported := by
  have htext (x : Option Text) : readOptional readText (ofOptional .str x) = some x :=
    @readOptional_ofOptional Text readText .str (fun _ => ⟨by simp, rfl⟩) x
  have hlist (texts : List Text) : readList readText ((ofList texts).or (.arr [])) = some texts := by
    cases texts with
    | nil => rfl
    | cons text texts => exact readList_ofList (text :: texts)
  have hi18n (i18n : List (String × SkillTranslation)) :
      readDict readTranslation ((ofI18n i18n).or (.obj [])) = some i18n := by
    cases i18n with
    | nil => rfl
    | cons entry i18n => exact readDict_ofI18n (entry :: i18n)
  have hparameters (parameters : List SkillParameter) : readList (readParameter py)
      ((Json.arr (parameters.map fun parameter => .obj parameter.modelDump)).or (.arr [])) =
        some parameters := by
    cases parameters with
    | nil => rfl
    | cons parameter parameters => exact readParameters_columns (parameter :: parameters)
  have hcolumn := hstored.columns
  rw [exportFields, hstored.id, hcolumn "name" _ rfl, hcolumn "version" _ rfl, hcolumn "category" _ rfl,
    hcolumn "description" _ rfl, hcolumn "tags" _ rfl, hcolumn "parameters" _ rfl,
    hcolumn "dependencies" _ rfl, hcolumn "permissions" _ rfl, hcolumn "code" _ rfl, hcolumn "i18n" _ rfl,
    hlist, hlist, hlist, htext, hi18n, hparameters]
  rfl

/-- Dumped parameters are the same just if the parameters are. -/
theorem map_modelDump_inj {parameters parameters' : List SkillParameter}
    (h : (parameters.map fun parameter => Json.obj parameter.modelDump) =
      parameters'.map fun parameter => .obj parameter.modelDump) : parameters = parameters' := by
  have py : Pydantic := ⟨fun _ => none, fun _ => none, fun _ => none⟩
  have hread := @readParameters_columns py parameters
  rw [h, readParameters_columns, Option.some_inj] at hread
  exact hread.symm

/-- **What survives an exchange**: a definition without a timeout whose parameters have none of the fields that
`dump_to_yaml` leaves out. -/
theorem exchanged_iff {definition : SkillDefinition u} (hstored : Stored env definition.1 row) :
    Exchanged py u env userId row rows ↔
      (∀ parameter ∈ definition.1.parameters, parameter.IsPlain) ∧ definition.1.timeout = none := by
  have hid := hstored.id
  have hexport : exportSkill py u row = some (dumpToYaml definition.1.exported) := by
    have haccepted : definition.1.exported.accepted u = true := definition.2
    rw [exportSkill, exportFields_of_stored hstored, Option.bind_some, SkillFields.validate,
      dif_pos haccepted]
    rfl
  have himport : importSkill py u env userId (dumpToYaml definition.1.exported) rows =
      registerSkill env (some userId) false definition.1.exported.stripped rows := by
    have hload := @loadFromYaml_dumpToYaml py u ⟨definition.1.exported, definition.2⟩
    rw [importSkill, hload]
    rfl
  rw [Exchanged, hexport]
  simp only [Option.some_inj, exists_eq_left', himport]
  constructor
  · rintro ⟨imported, himported, ⟨row', hmem, hsame⟩, hkeys⟩
    have hget (key : String) (value : Json) (h : definition.1.exported.stripped.columns.lookup key = some value) :
        row'.columns.get key = value := get_of_mem_registerSkill himported hmem (hsame.trans hid) h
    constructor
    · have hparameters := hkeys row' hmem hsame "parameters" (by decide)
      rw [hget "parameters" _ rfl, hstored.columns "parameters" _ rfl] at hparameters
      exact map_stripped_eq_self_iff.mp (map_modelDump_inj (Json.arr.inj hparameters))
    · have htimeout := hkeys row' hmem hsame "timeout" (by decide)
      rw [hget "timeout" _ rfl, hstored.columns "timeout" _ rfl] at htimeout
      cases hnone : definition.1.timeout with
      | none => rfl
      | some n => rw [hnone] at htimeout; cases htimeout
  · rintro ⟨hplain, htimeout⟩
    -- nothing is left out, so that the same columns are registered again
    have hsame : definition.1.exported.stripped.columns = definition.1.columns := by
      rw [SkillFields.columns, SkillFields.columns, SkillFields.stripped, SkillFields.exported]
      simp only [map_stripped_eq_self_iff.mpr hplain, htimeout]
    have haccepted := hstored.accepted
    rw [← hsame] at haccepted
    obtain ⟨imported, himported, row', hmem, hid'⟩ := @exists_mem_registerSkill env (some userId) false
      definition.1.exported.stripped rows haccepted
    refine ⟨imported, himported, ⟨row', hmem, hid'.trans hid.symm⟩, fun row' hmem hsameId key hkey => ?_⟩
    obtain ⟨value, hvalue⟩ : ∃ value, definition.1.columns.lookup key = some value := by
      obtain ⟨entry, hentry, rfl⟩ : ∃ entry ∈ definition.1.columns, entry.1 = key := List.mem_map.mp hkey
      rw [← Option.isSome_iff_exists, List.lookup_isSome_iff]
      exact ⟨entry, hentry, beq_self_eq_true entry.1⟩
    rw [hstored.columns key value hvalue]
    rw [← hsame] at hvalue
    exact get_of_mem_registerSkill himported hmem (hsameId.trans hid) hvalue

/-- A definition is loaded from what was dumped of it just if nothing is left out. -/
theorem loadFromYaml_eq_some_iff {definition : SkillDefinition u} :
    loadFromYaml py u (dumpToYaml definition.1) = some definition ↔
      ∀ parameter ∈ definition.1.parameters, parameter.IsPlain := by
  rw [loadFromYaml_dumpToYaml, Option.some_inj, Subtype.ext_iff, ← map_stripped_eq_self_iff]
  constructor
  · exact fun h => congrArg SkillFields.parameters h
  · intro h
    show ({ definition.1 with parameters := definition.1.parameters.map SkillParameter.stripped } : SkillFields) =
      definition.1
    rw [h]

/-- **Export and import, dump and load** are inverse to each other just where no parameter has a `min`, `max`,
`pattern`, `enum` or `items`, and, for the export, where there is no timeout. -/
theorem roundTrip_iff {definition other : SkillDefinition u} (hstored : Stored env definition.1 row) :
    (Exchanged py u env userId row rows ↔
        (∀ parameter ∈ definition.1.parameters, parameter.IsPlain) ∧ definition.1.timeout = none) ∧
      (loadFromYaml py u (dumpToYaml other.1) = some other ↔
        ∀ parameter ∈ other.1.parameters, parameter.IsPlain) :=
  ⟨exchanged_iff hstored, loadFromYaml_eq_some_iff⟩

/-- Pydantic without conversions. -/
def strict : Pydantic := ⟨fun _ => none, fun _ => none, fun _ => none⟩

/-- A database and a parser that accept everything. -/
def permissive : Env where
  encrypt text := text
  readsInt _ := false
  accepts _ _ := true
  parameterOk _ := true
  validateCode _ := true
  templateConfig _ := .obj []

/-- A skill that counts rows, for one parameter. -/
def countRows (parameter : SkillParameter) : SkillDefinition Unicode.asciiOnly where
  val := {
    id := "count_rows".toList
    name := "Count rows".toList
    version := "1.0.0".toList
    description := "Counts rows".toList
    parameters := [parameter]
    code := "async def execute(context, params): ...".toList }
  property := by
    -- the parameters are not looked at
    show SkillFields.accepted Unicode.asciiOnly {
      id := "count_rows".toList, name := [], version := "1.0.0".toList, description := [], code := [] } = true
    decide

/-- A parameter without bounds. -/
def table : SkillParameter where
  name := "table"
  type := "string".toList
  description := "The table".toList

/-- A number of rows that has a least value. -/
def limit : SkillParameter where
  name := "limit"
  type := "integer".toList
  description := "The number of rows".toList
  min := some (.fin 1)

theorem countRows_roundTrip :
    Exchanged strict Unicode.asciiOnly permissive 1 (newRow (some 1) false (countRows table).1) [] ∧
      loadFromYaml strict Unicode.asciiOnly (dumpToYaml (countRows table).1) = some (countRows table) := by
  have hstored : Stored permissive (countRows table).1 (newRow (some 1) false (countRows table).1) :=
    @stored_of_register permissive (some 1) false _ [] _ _ rfl (List.mem_singleton_self _) rfl
  have hplain : ∀ parameter ∈ (countRows table).1.parameters, parameter.IsPlain := by
    intro parameter hmem
    cases List.mem_singleton.mp hmem
    exact ⟨rfl, rfl, rfl, rfl, rfl⟩
  obtain ⟨hexchange, hload⟩ := @roundTrip_iff strict Unicode.asciiOnly permissive 1 _ [] _ (countRows table) hstored
  exact ⟨hexchange.mpr ⟨hplain, rfl⟩, hload.mpr hplain⟩

/-- The least value is lost. -/
theorem limit_lost :
    loadFromYaml strict Unicode.asciiOnly (dumpToYaml (countRows limit).1) ≠ some (countRows limit) := by
  intro h
  rw [loadFromYaml_dumpToYaml, Option.some_inj, Subtype.ext_iff] at h
  have hparameters := congrArg (fun fields : SkillFields => fields.parameters.map SkillParameter.min) h
  cases hparameters

end DBClaw.Skills
