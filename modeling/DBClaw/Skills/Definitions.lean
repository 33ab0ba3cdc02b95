import DBClaw.Skills.Execution
import DBClaw.Skills.Validator

/-! # Skill definitions
A skill is defined by a `SkillDefinition`, which Pydantic reads from a dictionary. `register_skill` writes one
into the table of skills: into the row that has its id, or else into a new row. -/

namespace DBClaw.Skills

/-! ## What Pydantic reads -/

/-- **What Pydantic makes** of values that are not of the type of their field. -/
structure Pydantic where
  toBool : Json → Option Bool
  toFloat : Json → Option PyFloat
  toInt : Json → Option ℤ

section Readers

variable {α : Type} (py : Pydantic)

/-- A field of type `str`. -/
def readText : Json → Option Text
  | .str text => some text
  | _ => none

/-- A field of type `bool`. -/
def Pydantic.readBool : Json → Option Bool
  | .bool b => some b
  | value => py.toBool value

/-- A field of type `float`. -/
def Pydantic.readFloat : Json → Option PyFloat
  | .float x => some x
  | .int n => some (.fin n)
  | value => py.toFloat value

/-- A field of type `int`. -/
def Pydantic.readInt : Json → Option ℤ
  | .int n => some n
  | value => py.toInt value

/-- A field of type `Optional`. -/
def readOptional (read : Json → Option α) : Json → Option (Option α)
  | .null => some none
  | value => (read value).map some

/-- A field of type `List`. -/
def readList (read : Json → Option α) : Json → Option (List α)
  | .arr items => items.mapM read
  | _ => none

/-- An entry of a field of type `Dict`. -/
def readEntry (read : Json → Option α) (entry : String × Json) : Option (String × α) :=
  (read entry.2).map fun value => (entry.1, value)

/-- A field of type `Dict[str, …]`. -/
def readDict (read : Json → Option α) : Json → Option (List (String × α))
  | .obj fields => fields.mapM (readEntry read)
  | _ => none

/-- A field, with its default if it has one. -/
def readField (d : Dict) (key : String) (read : Json → Option α) (default : Option α) : Option α :=
  match d.lookup key with
  | some value => read value
  | none => default

/-- The value of an optional field. -/
def ofOptional (dump : α → Json) : Option α → Json
  | none => .null
  | some value => dump value

end Readers

/-- **`SkillParameter(**d)`**. -/
def SkillParameter.ofDict (py : Pydantic) (d : Dict) : Option SkillParameter := do
  some {
    name := String.ofList (← readField d "name" readText none)
    type := ← readField d "type" readText none
    required := ← readField d "required" py.readBool (some true)
    default := d.get "default"
    description := ← readField d "description" readText none
    min := ← readField d "min" (readOptional py.readFloat) (some none)
    max := ← readField d "max" (readOptional py.readFloat) (some none)
    pattern := ← readField d "pattern" (readOptional readText) (some none)
    enum := ← readField d "enum" (readOptional (readList some)) (some none)
    items := ← readField d "items" (readOptional (readDict some)) (some none) }

/-- `model_dump` of a parameter. -/
def SkillParameter.modelDump (parameter : SkillParameter) : Dict := [
  ("name", .str parameter.name.toList),
  ("type", .str parameter.type),
  ("required", .bool parameter.required),
  ("default", parameter.default),
  ("description", .str parameter.description),
  ("min", ofOptional .float parameter.min),
  ("max", ofOptional .float parameter.max),
  ("pattern", ofOptional .str parameter.pattern),
  ("enum", ofOptional .arr parameter.enum),
  ("items", ofOptional .obj parameter.items)]

/-- **`SkillTranslation`**. -/
structure SkillTranslation where
  name : Text
  description : Text
  parameterDescriptions : List (String × Text) := []
  permissionDescriptions : List (String × Text) := []

/-- A dictionary of texts. -/
def ofTexts (texts : List (String × Text)) : Json := .obj (texts.map fun entry => (entry.1, .str entry.2))

/-- `model_dump` of a translation. -/
def SkillTranslation.modelDump (translation : SkillTranslation) : Json := .obj [
  ("name", .str translation.name),
  ("description", .str translation.description),
  ("parameter_descriptions", ofTexts translation.parameterDescriptions),
  ("permission_descriptions", ofTexts translation.permissionDescriptions)]

/-- `SkillTranslation(**d)`. -/
def readTranslation : Json → Option SkillTranslation
  | .obj d => do
    some {
      name := ← readField d "name" readText none
      description := ← readField d "description" readText none
      parameterDescriptions := ← readField d "parameter_descriptions" (readDict readText) (some [])
      permissionDescriptions := ← readField d "permission_descriptions" (readDict readText) (some []) }
  | _ => none

/-! ## Definitions -/

/-- The fields of a skill's definition. -/
structure SkillFields where
  id : Text
  name : Text
  version : Text
  author : Option Text := none
  category : Option Text := none
  description : Text
  tags : List Text := []
  parameters : List SkillParameter := []
  dependencies : List Text := []
  permissions : List Text := []
  timeout : Option ℤ := none
  code : Text
  i18n : List (String × SkillTranslation) := []

/-- The patterns `^[a-z0-9_]+$` and `^\d+\.\d+\.\d+$` match, and all permissions are valid ones. -/
def SkillFields.accepted (u : Unicode) (fields : SkillFields) : Bool :=
  fields.id ≠ [] && (fields.id.all fun c => c.isLower || c.isDigit || c = '_') &&
    (fields.version.splitOn '.').length = 3 &&
    ((fields.version.splitOn '.').all fun part => part ≠ [] && part.all u.isDecimalChar) &&
    fields.permissions.all fun permission => validPermissions.any (·.toList = permission)

/-- **`SkillDefinition`**: fields that Pydantic accepts. -/
abbrev SkillDefinition (u : Unicode) : Type := { fields : SkillFields // fields.accepted u = true }

/-- The definition with some fields, if they are accepted. -/
def SkillFields.validate (u : Unicode) (fields : SkillFields) : Option (SkillDefinition u) :=
  if h : fields.accepted u = true then some ⟨fields, h⟩ else none

/-- A list of texts. -/
def ofList (texts : List Text) : Json := .arr (texts.map .str)

/-- The translations of a skill. -/
def ofI18n (i18n : List (String × SkillTranslation)) : Json :=
  .obj (i18n.map fun entry => (entry.1, entry.2.modelDump))

/-- The columns that `register_skill` writes. -/
def SkillFields.columns (fields : SkillFields) : Dict := [
  ("name", .str fields.name),
  ("version", .str fields.version),
  ("category", ofOptional .str fields.category),
  ("description", .str fields.description),
  ("tags", ofList fields.tags),
  ("parameters", .arr (fields.parameters.map fun parameter => .obj parameter.modelDump)),
  ("dependencies", ofList fields.dependencies),
  ("permissions", ofList fields.permissions),
  ("timeout", ofOptional .int fields.timeout),
  ("code", .str fields.code),
  ("i18n", ofI18n fields.i18n)]

/-- A row that `register_skill` adds. -/
def newRow (authorId : Option ℤ) (isBuiltin : Bool) (fields : SkillFields) : Row where
  id := .text fields.id
  isBuiltin := isBuiltin
  columns := fields.columns ++ [
    ("author_id", ofOptional .int authorId),
    ("content_locale", .str (if isBuiltin then "en-US" else "und").toList),
    ("is_enabled", .bool true)]

/-- **`register_skill`**, `none` where it raises; whether the skill is built-in is set for a new row only. -/
def registerSkill (env : Env) (authorId : Option ℤ) (isBuiltin : Bool) (fields : SkillFields)
    (rows : List Row) : Option (List Row) :=
  if env.validateCode fields.code && env.accepts "skill" fields.columns then
    if hasRow (some (.text fields.id)) (fun _ => true) rows then
      let locale := if isBuiltin then [("content_locale", .str "en-US".toList)] else []
      some (updateRow (some (.text fields.id)) (fun _ => true) (·.write (fields.columns ++ locale)) rows)
    else some (rows ++ [newRow authorId isBuiltin fields])
  else none

/-- What Python reads of a parameter of a row. -/
def readParameter (py : Pydantic) : Json → Option SkillParameter
  | .obj d => SkillParameter.ofDict py d
  | _ => none

/-! ## Reading what was written -/

variable {py : Pydantic}

/-- What reads every item reads them all. -/
theorem mapM_map_eq_some {α β γ : Type} {f : α → Option γ} {g : β → α} {h : β → γ} {l : List β}
    (hread : ∀ b, f (g b) = some (h b)) : (l.map g).mapM f = some (l.map h) := by
  rw [List.mapM_map]
  exact mapM_eq_some_map fun b _ => hread b

theorem mapM_map_eq_self {α β : Type} {f : α → Option β} {g : β → α} {l : List β}
    (hread : ∀ b, f (g b) = some b) : (l.map g).mapM f = some l := by
  have h := @mapM_map_eq_some α β β f g id l hread
  rwa [List.map_id] at h

@[simp] theorem readOptional_ofOptional {α : Type} {read : Json → Option α} {dump : α → Json}
    (h : ∀ a, dump a ≠ .null ∧ read (dump a) = some a) (value : Option α) :
    readOptional read (ofOptional dump value) = some value := by
  cases value with
  | none => rfl
  | some a =>
    obtain ⟨hnull, hread⟩ := h a
    rw [ofOptional]
    cases hdump : dump a <;> simp_all [readOptional]

theorem readList_ofList (texts : List Text) : readList readText (ofList texts) = some texts :=
  mapM_map_eq_self fun _ => rfl

theorem readDict_ofTexts (texts : List (String × Text)) : readDict readText (ofTexts texts) = some texts :=
  mapM_map_eq_self fun _ => rfl

theorem readList_some (items : List Json) : readList some (.arr items) = some items := by
  have h := @mapM_map_eq_self Json Json some id items fun _ => rfl
  rwa [List.map_id] at h

theorem readDict_some (fields : Dict) : readDict some (.obj fields) = some fields := by
  have h := @mapM_map_eq_self (String × Json) _ (readEntry some) id fields fun _ => rfl
  rwa [List.map_id] at h

/-- **A dumped parameter is read back**. -/
theorem ofDict_modelDump (parameter : SkillParameter) :
    SkillParameter.ofDict py parameter.modelDump = some parameter := by
  have hfloat (x : Option PyFloat) : readOptional py.readFloat (ofOptional .float x) = some x :=
    @readOptional_ofOptional PyFloat py.readFloat .float (fun _ => ⟨by simp, rfl⟩) x
  have htext (x : Option Text) : readOptional readText (ofOptional .str x) = some x :=
    @readOptional_ofOptional Text readText .str (fun _ => ⟨by simp, rfl⟩) x
  have henum (x : Option (List Json)) : readOptional (readList some) (ofOptional .arr x) = some x :=
    readOptional_ofOptional (fun items => ⟨by simp, readList_some items⟩) x
  have hitems (x : Option Dict) : readOptional (readDict some) (ofOptional .obj x) = some x :=
    readOptional_ofOptional (fun fields => ⟨by simp, readDict_some fields⟩) x
  simp [SkillParameter.ofDict, SkillParameter.modelDump, readField, Dict.get, List.lookup_cons, readText,
    Pydantic.readBool, hfloat, htext, henum, hitems]

theorem readTranslation_modelDump (translation : SkillTranslation) :
    readTranslation translation.modelDump = some translation := by
  simp [readTranslation, SkillTranslation.modelDump, readField, List.lookup_cons, readText, readDict_ofTexts]

theorem readDict_ofI18n (i18n : List (String × SkillTranslation)) :
    readDict readTranslation (ofI18n i18n) = some i18n :=
  mapM_map_eq_self fun entry => by rw [readEntry, readTranslation_modelDump]; rfl

theorem readParameters_columns (parameters : List SkillParameter) :
    readList (readParameter py) (.arr (parameters.map fun parameter => .obj parameter.modelDump)) =
      some parameters :=
  mapM_map_eq_self fun parameter => ofDict_modelDump parameter

/-! ## The rows after a registration -/

variable {row : Row} {columns : Dict} {key : String}

/-- A written column is read back. -/
theorem get_write_of_some {value : Json} (h : columns.lookup key = some value) :
    (row.write columns).columns.get key = value := by
  rw [Row.write, Dict.get, List.lookup_append, h]
  rfl

/-- A column that is not written stays as it was. -/
theorem get_write_of_none (h : columns.lookup key = none) :
    (row.write columns).columns.get key = row.columns.get key := by
  have hkey : columns.any (·.1 = key) = false := by
    rw [List.any_eq_false]
    intro entry hentry
    rw [decide_eq_true_eq]
    rintro rfl
    exact absurd (List.lookup_eq_none_iff.mp h entry hentry) (by simp)
  rw [Row.write, Dict.get, Dict.get, List.lookup_append, h, Option.none_or]
  congr 1
  induction row.columns with
  | nil => rfl
  | cons entry rest ih =>
    obtain ⟨other, value⟩ := entry
    by_cases hother : key = other
    · subst hother
      rw [List.filter_cons_of_pos (by simpa using hkey), List.lookup_cons, List.lookup_cons, beq_self_eq_true]
    · rw [List.lookup_cons, beq_false_of_ne hother, List.filter_cons]
      split
      · rw [List.lookup_cons, beq_false_of_ne hother]
        exact ih
      · exact ih

/-- Where `register_skill` raises, the code or a column is refused. -/
theorem registerSkill_eq_some {env : Env} {authorId : Option ℤ} {isBuiltin : Bool} {fields : SkillFields}
    {rows after : List Row} (h : registerSkill env authorId isBuiltin fields rows = some after) :
    (env.validateCode fields.code && env.accepts "skill" fields.columns) = true := by
  rw [registerSkill] at h
  split at h
  · assumption
  · cases h

/-- The columns of a definition, in a row that `register_skill` has written. -/
theorem get_of_mem_registerSkill {env : Env} {authorId : Option ℤ} {isBuiltin : Bool} {fields : SkillFields}
    {rows after : List Row} (h : registerSkill env authorId isBuiltin fields rows = some after)
    (hrow : row ∈ after) (hid : row.id = .text fields.id) {value : Json}
    (hcolumn : fields.columns.lookup key = some value) : row.columns.get key = value := by
  rw [registerSkill] at h
  split at h
  · split at h
    · cases h
      obtain ⟨before, -, rfl⟩ := List.mem_map.mp hrow
      split at hid
      · next hsame =>
        rw [if_pos hsame]
        refine get_write_of_some ?_
        rw [List.lookup_append, hcolumn]
        rfl
      · next hsame => exact absurd ⟨congrArg some hid, rfl⟩ hsame
    · next hnone =>
      cases h
      obtain hrow | hrow := List.mem_append.mp hrow
      · -- no row had the id
        refine absurd ?_ hnone
        rw [hasRow, List.any_eq_true]
        exact ⟨row, hrow, by simp [hid]⟩
      · cases List.mem_singleton.mp hrow
        rw [newRow, Dict.get, List.lookup_append, hcolumn]
        rfl
  · cases h

/-- A registered definition has its row. -/
theorem exists_mem_registerSkill {env : Env} {authorId : Option ℤ} {isBuiltin : Bool} {fields : SkillFields}
    {rows : List Row} (haccepted : (env.validateCode fields.code && env.accepts "skill" fields.columns) = true) :
    ∃ after, registerSkill env authorId isBuiltin fields rows = some after ∧
      ∃ row ∈ after, row.id = .text fields.id := by
  rw [registerSkill, if_pos haccepted]
  split
  · next hrow =>
    refine ⟨_, rfl, ?_⟩
    rw [hasRow, List.any_eq_true] at hrow
    obtain ⟨row, hmem, hid⟩ := hrow
    refine ⟨_, List.mem_map_of_mem hmem, ?_⟩
    have hid : row.id = .text fields.id := by simpa using hid
    split <;> exact hid
  · exact ⟨_, rfl, newRow authorId isBuiltin fields, by simp, rfl⟩

end DBClaw.Skills
