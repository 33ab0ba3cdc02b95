import DBClaw.Library.JsonSchema
import DBClaw.Library.Upsert

/-! # The validator of skill parameters
`SkillValidator.validate_parameters` checks the arguments of a skill against the parameters that the skill
declares, and lists what is wrong with them. Where the type of an array's items is a list or an object, it
raises instead. -/

namespace DBClaw.Skills

open Upserts

/-- **`SkillParameter`**. -/
structure SkillParameter where
  name : String
  type : Text
  required : Bool := true
  default : Json := .null
  description : Text
  min : Option PyFloat := none
  max : Option PyFloat := none
  pattern : Option Text := none
  enum : Option (List Json) := none
  items : Option Dict := none

/-- The regular expressions: `re.match`, which looks at the start of a text, and `re.search`. -/
structure Regex where
  matchStart : Text → Text → Bool
  search : Text → Text → Bool

/-- The types that are documented for a parameter. -/
def documentedTypes : List String := ["string", "integer", "number", "boolean", "array", "object"]

/-- A type is one of a list. -/
def typeIn (type : Text) (types : List String) : Bool := types.any fun name => type = name.toList

/-! ## Collecting results -/

section MapM

variable {α β : Type*}

/-- Collecting succeeds if it succeeds for every item. -/
theorem mapM_isSome_iff {f : α → Option β} {l : List α} : (l.mapM f).isSome ↔ ∀ a ∈ l, (f a).isSome := by
  induction l with
  | nil => simp
  | cons a l ih =>
    rw [List.forall_mem_cons, ← ih, List.mapM_cons]
    cases f a <;> cases l.mapM f <;> simp

theorem mapM_eq_some_map {f : α → Option β} {g : α → β} {l : List α} (h : ∀ a ∈ l, f a = some (g a)) :
    l.mapM f = some (l.map g) := by
  induction l with
  | nil => rfl
  | cons a l ih =>
    rw [List.forall_mem_cons] at h
    rw [List.mapM_cons, h.1, ih h.2]
    rfl

/-- Lists are collected without an item if every one of them is empty. -/
theorem mapM_flatten_isEmpty {f : α → Option (List β)} {l : List α} :
    ((l.mapM f).any fun errors => errors.flatten.isEmpty) = true ↔ ∀ a ∈ l, f a = some [] := by
  induction l with
  | nil => simp
  | cons a l ih =>
    rw [List.forall_mem_cons, ← ih, List.mapM_cons]
    cases f a with
    | none => simp
    | some errors => cases l.mapM f <;> simp

end MapM

namespace SkillValidator

/-! ## The checks -/

/-- An error of `validate_parameters`. -/
inductive ValidationError
  | missing (name : String)
  | unknown (name : String)
  | wrongType (name : String) (expected value : Json)
  | belowMinimum (name : String) (value : Json) (minimum : PyFloat)
  | exceedsMaximum (name : String) (value : Json) (maximum : PyFloat)
  | noMatch (name : String) (pattern : Text)
  | notInEnum (name : String) (words : List Json)
  | wrongItemType (name : String) (index : ℕ) (expected item : Json)

/-- `isinstance` with the class of a type; every value is of a type that is not known. -/
def isInstance (type : Text) (value : Json) : Bool :=
  ! typeIn type documentedTypes ||
    match value with
    | .null => false
    | .bool _ => typeIn type ["boolean", "integer"]
    | .int _ => typeIn type ["integer", "number"]
    | .float _ => typeIn type ["number"]
    | .str _ => typeIn type ["string"]
    | .arr _ => typeIn type ["array"]
    | .obj _ => typeIn type ["object"]

/-- **`_check_type`**; it raises for a type that cannot be hashed. -/
def checkType (value expected : Json) : Option Bool :=
  match expected with
  | .arr _ | .obj _ => none
  | .str type => some (isInstance type value)
  | _ => some true

/-- The errors of a check that fails with one error. -/
def errorUnless (ok : Bool) (error : ValidationError) : List ValidationError := if ok then [] else [error]

/-- The errors of the items of an array. -/
def itemErrors (name : String) (expected : Json) : ℕ → List Json → Option (List ValidationError)
  | _, [] => some []
  | i, item :: items => do
    let ok ← checkType item expected
    let errors ← itemErrors name expected (i + 1) items
    some (errorUnless ok (.wrongItemType name i expected item) ++ errors)

section Extended

variable (re : Regex) (parameter : SkillParameter) (value : Json)

/-- Range validation. -/
def rangeErrors : List ValidationError :=
  if typeIn parameter.type ["integer", "float", "number"] then
    match value.toPyNumber with
    | some x =>
      (parameter.min.elim [] fun min => errorUnless (! x.lt min) (.belowMinimum parameter.name value min)) ++
        parameter.max.elim [] fun max => errorUnless (! max.lt x) (.exceedsMaximum parameter.name value max)
    | none => []
  else []

/-- Pattern validation. -/
def patternErrors : List ValidationError :=
  if typeIn parameter.type ["string"] then
    match value with
    | .str text =>
      parameter.pattern.elim [] fun pattern =>
        errorUnless (re.matchStart pattern text) (.noMatch parameter.name pattern)
    | _ => []
  else []

/-- Enum validation. -/
def enumErrors : List ValidationError :=
  parameter.enum.elim [] fun words => errorUnless (words.any value.pyEq) (.notInEnum parameter.name words)

/-- Array item validation. -/
def arrayErrors : Option (List ValidationError) :=
  if typeIn parameter.type ["array"] then
    match parameter.items.bind (·.lookup "type") with
    | some expected => itemErrors parameter.name expected 0 value.items
    | none => some []
  else some []

/-- **`_validate_extended`**. -/
def validateExtended : Option (List ValidationError) := do
  let items ← arrayErrors parameter value
  some (rangeErrors parameter value ++ patternErrors re parameter value ++ enumErrors parameter value ++ items)

/-- The errors of one argument. -/
def argumentErrors : Option (List ValidationError) := do
  if ← checkType value (.str parameter.type) then validateExtended re parameter value
  else some [.wrongType parameter.name (.str parameter.type) value]

end Extended

/-- `param_defs`: of two definitions of a name, the later one counts. -/
def paramDefs (parameters : List SkillParameter) : List (String × SkillParameter) :=
  parameters.foldl (fun defs parameter => setItem defs parameter.name parameter) []

/-- The required parameters that are missing. -/
def missingErrors (params : Dict) (parameters : List SkillParameter) : List ValidationError :=
  parameters.flatMap fun parameter =>
    errorUnless (! parameter.required || params.any (·.1 = parameter.name)) (.missing parameter.name)

/-- The errors of an entry of the arguments. -/
def entryErrors (re : Regex) (parameters : List SkillParameter) (entry : String × Json) :
    Option (List ValidationError) :=
  match (paramDefs parameters).lookup entry.1 with
  | some parameter => argumentErrors re parameter entry.2
  | none => some [.unknown entry.1]

/-- **`validate_parameters`**: the errors, `none` where it raises. -/
def validateParameters (re : Regex) (params : Dict) (parameters : List SkillParameter) :
    Option (List ValidationError) := do
  let errors ← params.mapM (entryErrors re parameters)
  some (missingErrors params parameters ++ errors.flatten)

/-- The arguments pass the check. -/
def Valid (re : Regex) (params : Dict) (parameters : List SkillParameter) : Prop :=
  (validateParameters re params parameters).any (·.isEmpty) = true

instance {re : Regex} {params : Dict} {parameters : List SkillParameter} :
    Decidable (Valid re params parameters) := inferInstanceAs (Decidable (_ = true))

/-- The definition that counts for a name is one of that name. -/
theorem of_lookup_paramDefs {parameters : List SkillParameter} {name : String} {parameter : SkillParameter}
    (h : (paramDefs parameters).lookup name = some parameter) :
    parameter ∈ parameters ∧ parameter.name = name := by
  suffices hfold : ∀ (before : List SkillParameter) (defs : List (String × SkillParameter)),
      (∀ name parameter, defs.lookup name = some parameter →
        parameter ∈ parameters ∧ parameter.name = name) → before ⊆ parameters →
      (before.foldl (fun defs parameter => setItem defs parameter.name parameter) defs).lookup name =
        some parameter → parameter ∈ parameters ∧ parameter.name = name from
    hfold parameters [] (fun _ _ hnil => by simp at hnil) (List.Subset.refl _) h
  intro before
  induction before with
  | nil => exact fun defs hdefs _ => hdefs name parameter
  | cons first before ih =>
    intro defs hdefs hsub
    refine ih _ (fun name' parameter' hlookup => ?_) (List.subset_of_cons_subset hsub)
    rw [lookup_setItem] at hlookup
    split at hlookup
    · next hname =>
      cases hlookup
      exact ⟨hsub List.mem_cons_self, hname.symm⟩
    · exact hdefs name' parameter' hlookup

/-- Every declared name has a definition that counts. -/
theorem lookup_paramDefs_isSome {parameters : List SkillParameter} {parameter : SkillParameter}
    (hmem : parameter ∈ parameters) : ((paramDefs parameters).lookup parameter.name).isSome := by
  suffices hfold : ∀ (after : List SkillParameter) (defs : List (String × SkillParameter)),
      parameter ∈ after ∨ (defs.lookup parameter.name).isSome →
      ((after.foldl (fun defs parameter => setItem defs parameter.name parameter) defs).lookup
        parameter.name).isSome from hfold parameters [] (.inl hmem)
  intro after
  induction after with
  | nil => exact fun defs h => h.resolve_left (by simp)
  | cons first after ih =>
    intro defs h
    refine ih _ ?_
    rw [lookup_setItem]
    obtain h | h := h
    · obtain rfl | h := List.mem_cons.mp h
      · exact .inr (by simp)
      · exact .inl h
    · refine .inr ?_
      split
      · rfl
      · exact h

theorem nodup_paramDefs (parameters : List SkillParameter) :
    ((paramDefs parameters).map Prod.fst).Nodup :=
  List.foldlRecOn (motive := fun defs : List (String × SkillParameter) => (defs.map Prod.fst).Nodup)
    parameters _ List.nodup_nil fun _ hdefs _ _ => nodup_setItem hdefs

/-! ## What passes -/

variable {re : Regex} {params : Dict} {parameters : List SkillParameter} {parameter : SkillParameter}
variable {value : Json}

/-- Every required parameter is given. -/
def Complete (params : Dict) (parameters : List SkillParameter) : Prop :=
  ∀ parameter ∈ parameters, parameter.required = true → params.any (·.1 = parameter.name) = true

instance : Decidable (Complete params parameters) := inferInstanceAs (Decidable (∀ _ ∈ _, _))

/-- An argument passes the check. -/
def Passes (re : Regex) (parameter : SkillParameter) (value : Json) : Prop :=
  argumentErrors re parameter value = some []

@[simp] theorem errorUnless_eq_nil {ok : Bool} {error : ValidationError} : errorUnless ok error = [] ↔ ok = true := by
  cases ok <;> simp [errorUnless]

theorem itemErrors_eq_nil {name : String} {expected : Json} {i : ℕ} {items : List Json} :
    itemErrors name expected i items = some [] ↔ ∀ item ∈ items, checkType item expected = some true := by
  induction items generalizing i with
  | nil => simp [itemErrors]
  | cons item items ih =>
    rw [itemErrors, List.forall_mem_cons, ← @ih (i + 1)]
    cases checkType item expected with
    | none => simp
    | some ok => cases ok <;> simp [errorUnless, Option.bind_eq_some_iff]

theorem arrayErrors_eq_nil :
    arrayErrors parameter value = some [] ↔
      typeIn parameter.type ["array"] = true → ∀ expected ∈ parameter.items.bind (·.lookup "type"),
        ∀ item ∈ value.items, checkType item expected = some true := by
  unfold arrayErrors
  split
  · next htype =>
    split
    · next expected hexpected => simp [itemErrors_eq_nil, hexpected, htype]
    · next hnone => simp [hnone]
  · next htype => simp [htype]

theorem missingErrors_eq_nil : missingErrors params parameters = [] ↔ Complete params parameters := by
  rw [missingErrors, List.flatMap_eq_nil_iff, Complete]
  refine forall₂_congr fun parameter _ => ?_
  rw [errorUnless_eq_nil]
  cases parameter.required <;> simp

/-- **What passes the validator**: everything required is given, and every argument is that of a declared
parameter and passes its check. -/
theorem valid_iff :
    Valid re params parameters ↔ Complete params parameters ∧
      ∀ entry ∈ params, ∃ parameter, (paramDefs parameters).lookup entry.1 = some parameter ∧
        Passes re parameter entry.2 := by
  have hentry (entry : String × Json) : entryErrors re parameters entry = some [] ↔ ∃ parameter,
      (paramDefs parameters).lookup entry.1 = some parameter ∧ Passes re parameter entry.2 := by
    unfold entryErrors
    cases (paramDefs parameters).lookup entry.1 <;> simp [Passes]
  rw [Valid, validateParameters, ← missingErrors_eq_nil]
  simp only [← hentry]
  rw [← mapM_flatten_isEmpty]
  cases params.mapM (entryErrors re parameters) <;> simp

end SkillValidator

end DBClaw.Skills
