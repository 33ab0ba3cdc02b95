import DBClaw.Skills.Validator
import Mathlib.Data.Rat.Floor

/-! # The advertised schema of a skill
`skill_to_openai_function` describes the parameters of a skill to the model in JSON Schema, and
`validate_parameters` checks what the model sends. Both read the same definitions, but not in the same way:
each makes checks that the other does not make. -/

namespace DBClaw.Skills

open SkillValidator Upserts

/-! ## `skill_to_openai_function` -/

/-- `int` of a float, which raises for NaN and the infinities. -/
def toInteger : PyFloat → Option ℤ
  | .fin q => some (q.num.tdiv q.den)
  | _ => none

/-- A key that is set if there is a value for it. -/
def keyFor (key : String) (value : Option Json) : Dict := value.elim [] fun value => [(key, value)]

/-- The keyword for a bound: for numbers the bound itself, for the length of a text or an array its integral
part. -/
def boundKeyword (type : Text) (ofNumber ofText ofArray : String) : Option PyFloat → Option Dict
  | none => some []
  | some bound =>
    if typeIn type ["integer", "number"] then some [(ofNumber, .float bound)]
    else if typeIn type ["string"] then do some [(ofText, .int (← toInteger bound))]
    else if typeIn type ["array"] then do some [(ofArray, .int (← toInteger bound))]
    else some []

/-- The schema of the items of an array: `param.get("items") or {"type": "string"}`. -/
def itemsSchema (items : Option Dict) : Json :=
  match items with
  | none | some [] => .obj [("type", .str "string".toList)]
  | some items => .obj items

/-- `param_def`. -/
def paramDef (parameter : SkillParameter) : Option Dict := do
  let min ← boundKeyword parameter.type "minimum" "minLength" "minItems" parameter.min
  let max ← boundKeyword parameter.type "maximum" "maxLength" "maxItems" parameter.max
  let items := if typeIn parameter.type ["array"] then [("items", itemsSchema parameter.items)] else []
  some ([("type", .str parameter.type), ("description", .str parameter.description)] ++
    keyFor "default" (match parameter.default with
      | .null => none
      | default => some default) ++
    keyFor "enum" (parameter.enum.map .arr) ++ keyFor "pattern" (parameter.pattern.map .str) ++
    min ++ max ++ items)

/-- A function that the model may call. -/
structure FunctionTool where
  name : String
  description : Text
  parameters : Json

/-- The entry of a parameter in `properties`. -/
def property (parameter : SkillParameter) : Option (String × Dict) :=
  (paramDef parameter).map fun keywords => (parameter.name, keywords)

/-- The schema of the arguments, with its properties. -/
def argumentsSchema (properties : Dict) (parameters : List SkillParameter) : Json := .obj [
  ("type", .str "object".toList),
  ("properties", .obj properties),
  ("required", .arr ((parameters.filter (·.required)).map fun parameter => .str parameter.name.toList))]

/-- **`skill_to_openai_function`**; it raises where a bound of a length is not finite. -/
def skillToOpenaiFunction (id : String) (description : Text) (parameters : List SkillParameter) :
    Option FunctionTool := do
  let properties ← parameters.mapM property
  some {
    name := id
    description := description
    parameters := argumentsSchema
      (properties.foldl (fun d property => setItem d property.1 (.obj property.2)) []) parameters }

/-! ## What each side asks -/

/-- A value is of a type, where a truth value and an integral float are integers. -/
def ofKind (type : Text) : Json → Bool
  | .null => false
  | .bool _ => typeIn type ["boolean", "integer"]
  | .int _ => typeIn type ["integer", "number"]
  | .float x => typeIn type ["number"] || (typeIn type ["integer"] && Json.isIntegral x)
  | .str _ => typeIn type ["string"]
  | .arr _ => typeIn type ["array"]
  | .obj _ => typeIn type ["object"]

section Asks

variable (re : Regex) (k : Json.Keywords) (parameter : SkillParameter) (value : Json)

/-- A number is within the bounds. -/
def withinBounds : Bool :=
  ! typeIn parameter.type ["integer", "number"] ||
    value.toPyNumber.all fun x => (parameter.min.all (! x.lt ·)) && parameter.max.all (! PyFloat.lt · x)

/-- **What both ask** of a value: its type in the wide sense, the bounds of a number, and to be one of the
listed values, where `True` is 1. -/
def bothAsk : Bool :=
  ofKind parameter.type value && withinBounds parameter value &&
    parameter.enum.all (·.any value.pyEq)

/-- **What only the validator asks**: an integer is no float, the pattern matches at the start of a text, and
the items of an array are of their type as `_check_type` sees it. -/
def validatorAsks : Bool :=
  match value with
  | .float _ => ! typeIn parameter.type ["integer"]
  | .str text => parameter.pattern.all (re.matchStart · text)
  | .arr items =>
    (parameter.items.bind (·.lookup "type")).all fun expected =>
      items.all fun item => SkillValidator.checkType item expected = some true
  | _ => true

/-- The length of a text or an array. -/
def lengthOf : Json → Option ℕ
  | .str text => some text.length
  | .arr items => some items.length
  | _ => none

/-- A length is within the bounds. -/
def lengthWithin : Bool :=
  (lengthOf value).all fun (n : ℕ) =>
    ((parameter.min.bind toInteger).all fun (min : ℤ) => min ≤ n) &&
      (parameter.max.bind toInteger).all fun (max : ℤ) => n ≤ max

/-- **What only the schema asks**: an integer is no truth value, the pattern is found in a text, the length of
a text or an array is within the bounds, the items of an array satisfy their schema, and a value is one of
those listed, where `True` is not 1. -/
def schemaAsks : Bool :=
  (match value with
    | .bool _ => ! typeIn parameter.type ["integer"]
    | .str text => parameter.pattern.all (k.search · text)
    | .arr items => items.all (Json.satisfies k (itemsSchema parameter.items))
    | _ => true) &&
  lengthWithin parameter value && parameter.enum.all (·.any value.same)

end Asks

variable {re : Regex} {k : Json.Keywords} {parameter : SkillParameter} {value : Json}

/-- A documented type is one of the six. -/
theorem documented_cases {type : Text} (htype : typeIn type documentedTypes = true) :
    type = "string".toList ∨ type = "integer".toList ∨ type = "number".toList ∨ type = "boolean".toList ∨
      type = "array".toList ∨ type = "object".toList := by
  simpa only [typeIn, documentedTypes, List.any_cons, List.any_nil, Bool.or_false, Bool.or_eq_true,
    decide_eq_true_eq] using htype

theorem typeIn_singleton {type : Text} {name : String} : typeIn type [name] = decide (type = name.toList) := by
  rw [typeIn, List.any_cons, List.any_nil, Bool.or_false]

theorem isInstance_eq {type : Text} (htype : typeIn type documentedTypes = true) :
    isInstance type value =
      (ofKind type value && match value with
        | .float _ => ! typeIn type ["integer"]
        | _ => true) := by
  unfold isInstance
  rw [htype, Bool.not_true, Bool.false_or]
  cases value with
  | float x =>
    -- a number is no integer
    by_cases hinteger : type = "integer".toList
    · have hnumber : typeIn type ["number"] = false := by
        rw [hinteger]
        rfl
      have hyes : typeIn type ["integer"] = true := by rw [typeIn_singleton, decide_eq_true hinteger]
      simp only [hnumber, hyes, Bool.not_true, Bool.and_false]
    · have hnot : typeIn type ["integer"] = false := by rw [typeIn_singleton, decide_eq_false hinteger]
      rw [ofKind, hnot, Bool.false_and, Bool.or_false, Bool.not_false, Bool.and_true]
  | _ => simp only [ofKind, Bool.and_true]

theorem hasType_eq {type : Text} (htype : typeIn type documentedTypes = true) :
    Json.hasType type value =
      (ofKind type value && match value with
        | .bool _ => ! typeIn type ["integer"]
        | _ => true) := by
  cases value with
  | null => obtain rfl | rfl | rfl | rfl | rfl | rfl := documented_cases htype <;> rfl
  | bool b =>
    -- a truth value is no integer
    by_cases hinteger : type = "integer".toList
    · rw [hinteger]
      rfl
    · have hnot : typeIn type ["integer"] = false := by rw [typeIn_singleton, decide_eq_false hinteger]
      have hkind : typeIn type ["boolean", "integer"] = decide (type = "boolean".toList) := by
        simp only [typeIn, List.any_cons, List.any_nil, Bool.or_false, decide_eq_false hinteger]
      rw [ofKind, hnot, hkind, Bool.not_false, Bool.and_true, Json.hasType]
  | _ => simp only [Json.hasType, ofKind, typeIn, List.any_cons, List.any_nil, Bool.or_false, Bool.and_true]

/-! ## The validator -/

theorem rangeErrors_eq_nil (htype : typeIn parameter.type documentedTypes = true) :
    rangeErrors parameter value = [] ↔ withinBounds parameter value = true := by
  -- `float` is none of the documented types
  have hfloat : typeIn parameter.type ["integer", "float", "number"] =
      typeIn parameter.type ["integer", "number"] := by
    obtain h | h | h | h | h | h := documented_cases htype <;> rw [h] <;> rfl
  rw [rangeErrors, hfloat, withinBounds]
  cases typeIn parameter.type ["integer", "number"] with
  | false => simp
  | true =>
    cases value.toPyNumber with
    | none => simp
    | some x => cases parameter.min <;> cases parameter.max <;> simp

theorem patternErrors_eq_nil :
    patternErrors re parameter value = [] ↔ typeIn parameter.type ["string"] = true → ∀ text, value = .str text →
      parameter.pattern.all (re.matchStart · text) = true := by
  unfold patternErrors
  cases typeIn parameter.type ["string"] with
  | false => simp
  | true =>
    cases value with
    | str text => cases parameter.pattern <;> simp
    | _ => simp

theorem enumErrors_eq_nil :
    enumErrors parameter value = [] ↔ parameter.enum.all (·.any value.pyEq) = true := by
  rw [enumErrors]
  cases parameter.enum <;> simp

/-- **What passes the validator** is what both ask and what only the validator asks. -/
theorem passes_iff (htype : typeIn parameter.type documentedTypes = true) :
    Passes re parameter value ↔ bothAsk parameter value = true ∧ validatorAsks re parameter value = true := by
  have hextended : SkillValidator.validateExtended re parameter value = some [] ↔
      (rangeErrors parameter value = [] ∧ enumErrors parameter value = []) ∧
        patternErrors re parameter value = [] ∧ arrayErrors parameter value = some [] := by
    unfold SkillValidator.validateExtended
    cases arrayErrors parameter value with
    | none => simp
    | some errors => simp [and_assoc, and_left_comm]
  have hpasses : Passes re parameter value ↔
      isInstance parameter.type value = true ∧ SkillValidator.validateExtended re parameter value = some [] := by
    rw [Passes, argumentErrors, SkillValidator.checkType]
    cases isInstance parameter.type value <;> simp
  rw [hpasses, hextended, rangeErrors_eq_nil htype, enumErrors_eq_nil, patternErrors_eq_nil,
    arrayErrors_eq_nil, isInstance_eq htype]
  unfold bothAsk validatorAsks
  simp only [Bool.and_eq_true]
  generalize withinBounds parameter value = within, parameter.enum.all (·.any value.pyEq) = listed
  cases value with
  | str text =>
    rw [ofKind]
    cases typeIn parameter.type ["string"] <;> simp [Json.items]
  | arr items =>
    rw [ofKind]
    cases typeIn parameter.type ["array"] <;> cases parameter.items.bind (·.lookup "type") <;> simp [Json.items]
  | float x => cases typeIn parameter.type ["integer"] <;> simp [Json.items, and_assoc]
  | _ => simp [Json.items, and_assoc]

/-! ## The schema -/

theorem satisfiesAll_keyFor {key : String} {argument : Option Json} (hitems : key ≠ "items")
    (hproperties : key ≠ "properties") :
    Json.satisfiesAll k (keyFor key argument) value = argument.all (k.asks key · value) := by
  cases argument with
  | none => simp [keyFor, Json.satisfiesAll]
  | some argument => simp [keyFor, Json.satisfiesAll, hitems, hproperties]

theorem atLeast_int {n : ℤ} {size : ℕ} : Json.atLeast (.int n) size = decide (n ≤ size) := by
  simp only [Json.atLeast, Json.toNumber, Option.all_some, PyFloat.lt, decide_eq_false_iff_not, not_lt]
  norm_cast

theorem atMost_int {n : ℤ} {size : ℕ} : Json.atMost (.int n) size = decide ((size : ℤ) ≤ n) := by
  simp only [Json.atMost, Json.toNumber, Option.all_some, PyFloat.lt, decide_eq_false_iff_not, not_lt]
  norm_cast

/-- A bound of a parameter as a keyword, for what the three keywords ask of a value. -/
theorem satisfiesAll_bound {type : Text} {ofNumber ofText ofArray : String} {bound : Option PyFloat}
    {keywords : Dict} {test : PyFloat → PyFloat → Bool} {size : ℤ → ℕ → Bool}
    (hnumber : ofNumber ≠ "items" ∧ ofNumber ≠ "properties") (htext : ofText ≠ "items" ∧ ofText ≠ "properties")
    (harray : ofArray ≠ "items" ∧ ofArray ≠ "properties")
    (asksNumber : ∀ b v, k.asks ofNumber (.float b) v = v.toNumber.all (test b))
    (asksText : ∀ n text, k.asks ofText (.int n) (.str text) = size n text.length)
    (asksArray : ∀ n items, k.asks ofArray (.int n) (.arr items) = size n items.length)
    (htype : typeIn type documentedTypes = true) (hkind : ofKind type value = true)
    (hsome : boundKeyword type ofNumber ofText ofArray bound = some keywords) :
    Json.satisfiesAll k keywords value =
      ((! typeIn type ["integer", "number"] || value.toNumber.all fun x => bound.all (test · x)) &&
        (lengthOf value).all fun n => (bound.bind toInteger).all (size · n)) := by
  cases bound with
  | none =>
    cases hsome
    cases value <;> simp [Json.satisfiesAll, lengthOf]
  | some b =>
    obtain rfl | rfl | rfl | rfl | rfl | rfl := documented_cases htype
    -- the bound of a length is its integral part
    case inl =>
      obtain ⟨n, hn, rfl⟩ : ∃ n, toInteger b = some n ∧ [(ofText, Json.int n)] = keywords := by
        simpa [boundKeyword, typeIn, Option.bind_eq_some_iff] using hsome
      cases value <;> simp [ofKind, typeIn] at hkind
      simp [Json.satisfiesAll, htext, asksText, hn, typeIn, lengthOf]
    case inr.inr.inr.inr.inl =>
      obtain ⟨n, hn, rfl⟩ : ∃ n, toInteger b = some n ∧ [(ofArray, Json.int n)] = keywords := by
        simpa [boundKeyword, typeIn, Option.bind_eq_some_iff] using hsome
      cases value <;> simp [ofKind, typeIn] at hkind
      simp [Json.satisfiesAll, harray, asksArray, hn, typeIn, lengthOf]
    all_goals
      simp [boundKeyword, typeIn] at hsome
      subst hsome
      cases value <;> simp [ofKind, typeIn] at hkind <;>
        simp [Json.satisfiesAll, hnumber, asksNumber, typeIn, lengthOf]

/-- The schema of the items of an array, as a keyword. -/
theorem satisfiesAll_items {type : Text} {schema : Json} (hkind : ofKind type value = true) :
    Json.satisfiesAll k (if typeIn type ["array"] then [("items", schema)] else []) value =
      value.items.all (Json.satisfies k schema) := by
  split
  · simp [Json.satisfiesAll]
  · next harray =>
    cases value with
    | arr items => exact absurd hkind harray
    | _ => simp [Json.satisfiesAll, Json.items]

/-- **What satisfies the schema of a parameter** is what both ask and what only the schema asks. -/
theorem satisfies_paramDef (htype : typeIn parameter.type documentedTypes = true) {keywords : Dict}
    (hsome : paramDef parameter = some keywords) :
    Json.satisfies k (.obj keywords) value = (bothAsk parameter value && schemaAsks k parameter value) := by
  rw [paramDef, Option.bind_eq_bind, Option.bind_eq_some_iff] at hsome
  obtain ⟨min, hmin, hsome⟩ := hsome
  rw [Option.bind_eq_some_iff] at hsome
  obtain ⟨max, hmax, hsome⟩ := hsome
  rw [Option.some_inj] at hsome
  subst hsome
  have htypes : Json.satisfiesAll k
      [("type", .str parameter.type), ("description", .str parameter.description)] value =
        value.hasType parameter.type := by
    simp [Json.satisfiesAll, Json.Keywords.asks, Json.hasTypeOf]
  rw [Json.satisfies]
  simp only [Json.satisfiesAll_append, htypes, hasType_eq htype]
  rw [satisfiesAll_keyFor (by decide) (by decide), satisfiesAll_keyFor (by decide) (by decide),
    satisfiesAll_keyFor (by decide) (by decide)]
  cases hkind : ofKind parameter.type value with
  | false => simp [bothAsk, hkind]
  | true =>
    rw [@satisfiesAll_bound k value parameter.type "minimum" "minLength" "minItems" parameter.min min
        (fun b x => ! x.lt b) (fun n m => n ≤ m) (by decide) (by decide) (by decide)
        (fun _ _ => rfl) (fun n text => atLeast_int) (fun n items => atLeast_int) htype hkind hmin,
      @satisfiesAll_bound k value parameter.type "maximum" "maxLength" "maxItems" parameter.max max
        (fun b x => ! b.lt x) (fun n m => m ≤ n) (by decide) (by decide) (by decide)
        (fun _ _ => rfl) (fun n text => atMost_int) (fun n items => atMost_int) htype hkind hmax]
    have henum : (parameter.enum.map Json.arr).all (k.asks "enum" · value) =
        parameter.enum.all (·.any value.same) := by
      cases parameter.enum <;> simp [Json.Keywords.asks]
    have hlisted : parameter.enum.all (·.any value.same) = true →
        parameter.enum.all (·.any value.pyEq) = true := by
      cases parameter.enum with
      | none => simp
      | some words => simpa using fun word hword hsame => ⟨word, hword, Json.pyEq_of_same hsame⟩
    have hdefault (argument : Option Json) : argument.all (k.asks "default" · value) = true := by
      cases argument <;> simp [Json.Keywords.asks]
    rw [henum, hdefault, satisfiesAll_items hkind, Bool.eq_iff_iff]
    unfold bothAsk schemaAsks withinBounds lengthWithin
    rw [hkind]
    generalize parameter.enum.all (·.any value.same) = listed at hlisted ⊢
    generalize parameter.enum.all (·.any value.pyEq) = pyListed at hlisted ⊢
    -- what is listed for the schema is listed for the validator
    cases listed with
    | false => simp
    | true =>
      obtain rfl := hlisted rfl
      cases value with
      | bool b =>
        -- a truth value that is no integer is that of a `boolean`, which has no bounds
        have hinteger : typeIn parameter.type ["integer", "number"] = typeIn parameter.type ["integer"] := by
          obtain h | h | h | h | h | h := documented_cases htype <;> rw [h] at hkind ⊢ <;>
            first | rfl | cases hkind
        rw [hinteger]
        cases typeIn parameter.type ["integer"] <;> cases parameter.pattern <;>
          simp [Json.Keywords.asks, Json.items, lengthOf]
      | int n | float x =>
        cases parameter.pattern <;>
          simp [Json.Keywords.asks, Json.toNumber, Json.toPyNumber, Json.items, lengthOf, or_and_left]
      | str text | arr items | null | obj fields =>
        cases parameter.pattern <;>
          simp [Json.Keywords.asks, Json.toNumber, Json.toPyNumber, Json.items, lengthOf, and_assoc, and_comm]

/-! ## Agreement -/

/-- The keywords of JSON Schema, for what those that are not modelled ask. -/
def Regex.keywords (re : Regex) (other : String → Json → Json → Bool) : Json.Keywords where
  search := re.search
  other := other

section Agreement

variable (re : Regex) (other : String → Json → Json → Bool) (params : Dict)
variable (parameters : List SkillParameter)

/-- The arguments, with the parameters that they are values of. -/
def arguments : List (SkillParameter × Json) :=
  params.filterMap fun entry => ((paramDefs parameters).lookup entry.1).map fun parameter => (parameter, entry.2)

/-- The bounds of the lengths of texts and arrays are finite. -/
def FiniteLengths : Prop :=
  ∀ parameter ∈ parameters, typeIn parameter.type ["string", "array"] = true →
    ∀ bound ∈ parameter.min.toList ++ parameter.max.toList, (toInteger bound).isSome

/-- **The schema and the validator agree** on an object: there is a schema, and the object satisfies it just
if it passes the validator. -/
def Agree (id : String) (description : Text) : Prop :=
  ∃ tool, skillToOpenaiFunction id description parameters = some tool ∧
    (Valid re params parameters ↔
      Json.satisfies (re.keywords other) tool.parameters (.obj params) = true)

/-- **When they agree**: the lengths have finite bounds, and a required parameter is missing, or a value fails
what both ask, or values that fail what only the validator asks and values that fail what only the schema asks
come together or not at all. -/
def NoDrift : Prop :=
  FiniteLengths parameters ∧
    (¬ Complete params parameters ∨
      (∃ argument ∈ arguments params parameters, bothAsk argument.1 argument.2 = false) ∨
      ((∃ argument ∈ arguments params parameters, validatorAsks re argument.1 argument.2 = false) ↔
        ∃ argument ∈ arguments params parameters,
          schemaAsks (re.keywords other) argument.1 argument.2 = false))

instance : Decidable (FiniteLengths parameters) :=
  inferInstanceAs (Decidable (∀ _ ∈ _, _))

instance : Decidable (NoDrift re other params parameters) :=
  inferInstanceAs (Decidable (_ ∧ _))

end Agreement

variable {params : Dict} {parameters : List SkillParameter}

theorem mem_arguments :
    (parameter, value) ∈ arguments params parameters ↔
      ∃ name, (name, value) ∈ params ∧ (paramDefs parameters).lookup name = some parameter := by
  simp only [arguments, List.mem_filterMap, Option.map_eq_some_iff, Prod.mk.injEq]
  constructor
  · rintro ⟨⟨name, value⟩, hmem, _, hlookup, rfl, rfl⟩
    exact ⟨name, hmem, hlookup⟩
  · rintro ⟨name, hmem, hlookup⟩
    exact ⟨(name, value), hmem, parameter, hlookup, rfl, rfl⟩

theorem boundKeyword_isSome_iff {type : Text} (htype : typeIn type documentedTypes = true)
    {ofNumber ofText ofArray : String} {bound : Option PyFloat} :
    (boundKeyword type ofNumber ofText ofArray bound).isSome ↔
      (typeIn type ["string", "array"] = true → ∀ x ∈ bound, (toInteger x).isSome) := by
  cases bound with
  | none => simp [boundKeyword]
  | some x =>
    obtain rfl | rfl | rfl | rfl | rfl | rfl := documented_cases htype <;>
      cases h : toInteger x <;> simp [boundKeyword, typeIn, h]

/-- There is a schema of a parameter just if its lengths have finite bounds. -/
theorem paramDef_isSome_iff (htype : typeIn parameter.type documentedTypes = true) :
    (paramDef parameter).isSome ↔
      (typeIn parameter.type ["string", "array"] = true →
        ∀ bound ∈ parameter.min.toList ++ parameter.max.toList, (toInteger bound).isSome) := by
  have hmin := @boundKeyword_isSome_iff parameter.type htype "minimum" "minLength" "minItems" parameter.min
  have hmax := @boundKeyword_isSome_iff parameter.type htype "maximum" "maxLength" "maxItems" parameter.max
  have hdef : (paramDef parameter).isSome ↔
      (boundKeyword parameter.type "minimum" "minLength" "minItems" parameter.min).isSome ∧
        (boundKeyword parameter.type "maximum" "maxLength" "maxItems" parameter.max).isSome := by
    unfold paramDef
    cases boundKeyword parameter.type "minimum" "minLength" "minItems" parameter.min <;>
      cases boundKeyword parameter.type "maximum" "maxLength" "maxItems" parameter.max <;> simp
  rw [hdef, hmin, hmax, ← forall_and]
  refine forall_congr' fun _ => ?_
  rw [List.forall_mem_append]
  simp

/-- The schema of a parameter as a value. -/
def propertySchema (parameter : SkillParameter) : Json := .obj ((paramDef parameter).getD [])

/-- The properties of the schema are the schemas of the parameters that count. -/
theorem foldl_setItem_eq (defs : List (String × SkillParameter)) :
    parameters.foldl (fun d parameter => setItem d parameter.name (propertySchema parameter))
        (defs.map fun entry => (entry.1, propertySchema entry.2)) =
      (parameters.foldl (fun defs parameter => setItem defs parameter.name parameter) defs).map
        fun entry => (entry.1, propertySchema entry.2) := by
  induction parameters generalizing defs with
  | nil => rfl
  | cons parameter parameters ih => rw [List.foldl_cons, List.foldl_cons, ← map_setItem, ih]

section Tool

variable {id : String} {description : Text}

/-- There is a schema of a skill just if its lengths have finite bounds. -/
theorem skillToOpenaiFunction_isSome_iff
    (htypes : ∀ parameter ∈ parameters, typeIn parameter.type documentedTypes = true) :
    (skillToOpenaiFunction id description parameters).isSome ↔ FiniteLengths parameters := by
  have hall : (skillToOpenaiFunction id description parameters).isSome ↔
      ∀ parameter ∈ parameters, (property parameter).isSome := by
    rw [← mapM_isSome_iff, skillToOpenaiFunction]
    cases parameters.mapM property <;> simp
  rw [hall]
  refine forall₂_congr fun parameter hmem => ?_
  rw [property, Option.isSome_map, paramDef_isSome_iff (htypes parameter hmem)]

/-- **The schema of a skill**. -/
theorem parameters_of_some {tool : FunctionTool}
    (hsome : skillToOpenaiFunction id description parameters = some tool)
    (hall : ∀ parameter ∈ parameters, (paramDef parameter).isSome) :
    tool.parameters = argumentsSchema
      ((paramDefs parameters).map fun entry => (entry.1, propertySchema entry.2)) parameters := by
  have hmapM : parameters.mapM property =
      some (parameters.map fun parameter => (parameter.name, (paramDef parameter).getD [])) := by
    refine mapM_eq_some_map fun parameter hmem => ?_
    obtain ⟨keywords, hkeywords⟩ := Option.isSome_iff_exists.mp (hall parameter hmem)
    simp [property, hkeywords]
  rw [skillToOpenaiFunction, hmapM] at hsome
  cases hsome
  rw [List.foldl_map]
  exact congrArg (argumentsSchema · parameters) (foldl_setItem_eq [])

/-- **What satisfies the schema of a skill**: everything required is given, and every argument passes what
both ask and what only the schema asks. -/
theorem satisfies_tool_iff {tool : FunctionTool}
    (htypes : ∀ parameter ∈ parameters, typeIn parameter.type documentedTypes = true)
    (hkeys : (params.map Prod.fst).Nodup)
    (hsome : skillToOpenaiFunction id description parameters = some tool) :
    Json.satisfies k tool.parameters (.obj params) = true ↔ Complete params parameters ∧
      ∀ parameter value, (parameter, value) ∈ arguments params parameters →
        bothAsk parameter value = true ∧ schemaAsks k parameter value = true := by
  have hall : ∀ parameter ∈ parameters, (paramDef parameter).isSome := by
    intro parameter hmem
    have hfinite := (skillToOpenaiFunction_isSome_iff htypes).mp (Option.isSome_iff_exists.mpr ⟨tool, hsome⟩)
    exact (paramDef_isSome_iff (htypes parameter hmem)).mpr (hfinite parameter hmem)
  rw [parameters_of_some hsome hall]
  have hobject : Json.satisfies k (argumentsSchema
      ((paramDefs parameters).map fun entry => (entry.1, propertySchema entry.2)) parameters) (.obj params) =
        true ↔
      (∀ entry ∈ paramDefs parameters, (params.lookup entry.1).all
        (Json.satisfies k (propertySchema entry.2)) = true) ∧ Complete params parameters := by
    simp only [argumentsSchema, Json.satisfies, Json.satisfiesAll, Json.satisfiesProperties,
      Json.satisfiesNamed_eq_all, Json.Keywords.asks, Json.hasTypeOf, Json.hasType, Complete]
    simp only [String.reduceEq, ↓reduceIte, decide_true, Bool.true_and, Bool.and_true, Bool.and_eq_true,
      List.all_map, List.all_eq_true, Function.comp_apply, List.mem_filter, and_imp, String.toList_inj]
  rw [hobject, and_comm]
  refine and_congr_right fun _ => ⟨fun h parameter value => ?_, fun h entry hentry => ?_⟩
  · intro hargument
    obtain ⟨name, hmem, hlookup⟩ := mem_arguments.mp hargument
    have hentry := h (name, parameter) ((mem_iff_lookup (nodup_paramDefs parameters)).mpr hlookup)
    rw [(mem_iff_lookup hkeys).mp hmem] at hentry
    obtain ⟨hparameter, -⟩ := of_lookup_paramDefs hlookup
    obtain ⟨keywords, hkeywords⟩ := Option.isSome_iff_exists.mp (hall parameter hparameter)
    rw [Option.all_some, propertySchema, hkeywords, Option.getD_some,
      satisfies_paramDef (htypes parameter hparameter) hkeywords, Bool.and_eq_true] at hentry
    exact hentry
  · obtain ⟨name, parameter⟩ := entry
    have hlookup := (mem_iff_lookup (nodup_paramDefs parameters)).mp hentry
    obtain ⟨hparameter, -⟩ := of_lookup_paramDefs hlookup
    obtain ⟨keywords, hkeywords⟩ := Option.isSome_iff_exists.mp (hall parameter hparameter)
    cases hvalue : params.lookup name with
    | none => rfl
    | some value =>
      rw [Option.all_some, propertySchema, hkeywords, Option.getD_some,
        satisfies_paramDef (htypes parameter hparameter) hkeywords, Bool.and_eq_true]
      exact h parameter value (mem_arguments.mpr ⟨name, (mem_iff_lookup hkeys).mpr hvalue, hlookup⟩)

end Tool

/-- What passes the validator, if all arguments are those of declared parameters. -/
theorem valid_iff_arguments
    (htypes : ∀ parameter ∈ parameters, typeIn parameter.type documentedTypes = true)
    (hdeclared : ∀ entry ∈ params, ∃ parameter ∈ parameters, parameter.name = entry.1) :
    Valid re params parameters ↔ Complete params parameters ∧
      ∀ parameter value, (parameter, value) ∈ arguments params parameters →
        bothAsk parameter value = true ∧ validatorAsks re parameter value = true := by
  rw [valid_iff]
  refine and_congr_right fun _ => ⟨fun h parameter value => ?_, fun h entry hentry => ?_⟩
  · intro hargument
    obtain ⟨name, hmem, hlookup⟩ := mem_arguments.mp hargument
    obtain ⟨parameter', hlookup', hpasses⟩ := h (name, value) hmem
    obtain rfl : parameter = parameter' := Option.some.inj (hlookup.symm.trans hlookup')
    exact (passes_iff (htypes parameter (of_lookup_paramDefs hlookup).1)).mp hpasses
  · obtain ⟨parameter', hmem, hname⟩ := hdeclared entry hentry
    obtain ⟨parameter, hlookup⟩ := Option.isSome_iff_exists.mp (lookup_paramDefs_isSome hmem)
    rw [hname] at hlookup
    exact ⟨parameter, hlookup, (passes_iff (htypes parameter (of_lookup_paramDefs hlookup).1)).mpr
      (h parameter entry.2 (mem_arguments.mpr ⟨entry.1, hentry, hlookup⟩))⟩

/-- **The advertised schema and the validator** agree on an object of declared parameters just if no value is
treated by one of them in its own way. -/
theorem agree_iff_noDrift {other : String → Json → Json → Bool} {id : String} {description : Text}
    (htypes : ∀ parameter ∈ parameters, typeIn parameter.type documentedTypes = true)
    (hkeys : (params.map Prod.fst).Nodup)
    (hdeclared : ∀ entry ∈ params, ∃ parameter ∈ parameters, parameter.name = entry.1) :
    Agree re other params parameters id description ↔ NoDrift re other params parameters := by
  rw [Agree, NoDrift, ← @skillToOpenaiFunction_isSome_iff parameters id description htypes,
    Option.isSome_iff_exists, ← exists_and_right]
  refine exists_congr fun tool => and_congr_right fun hsome => ?_
  rw [valid_iff_arguments htypes hdeclared, satisfies_tool_iff htypes hkeys hsome]
  by_cases hcomplete : Complete params parameters
  · have hfails (asks : SkillParameter → Json → Bool) :
        (∀ parameter value, (parameter, value) ∈ arguments params parameters →
          bothAsk parameter value = true ∧ asks parameter value = true) ↔
        ¬ (∃ argument ∈ arguments params parameters, bothAsk argument.1 argument.2 = false) ∧
          ¬ ∃ argument ∈ arguments params parameters, asks argument.1 argument.2 = false := by
      simp only [not_exists, not_and, Bool.not_eq_false, Prod.forall, ← forall_and]
    rw [hfails, hfails]
    generalize (∃ argument ∈ arguments params parameters, bothAsk argument.1 argument.2 = false) = shared
    by_cases hshared : shared
    · simp [hshared]
    · simp only [hcomplete, hshared, not_false_eq_true, true_and, not_true_eq_false, false_or]
      exact not_iff_not
  · simp [hcomplete]

/-- Regular expressions without special characters. -/
def literal : Regex where
  matchStart pattern text := pattern.isPrefixOf text
  search pattern text := text.tails.any pattern.isPrefixOf

/-- The parameters of a skill that takes a number of rows and a name with a prefix. -/
def rowsAndName : List SkillParameter := [
  { name := "rows", type := "integer".toList, description := [], min := some (.fin 0), max := some (.fin 10) },
  { name := "name", type := "string".toList, required := false, description := [],
    max := some (.fin 5), pattern := some "db".toList }]

theorem number_agree :
    Agree literal (fun _ _ _ => true) [("rows", .int 3), ("name", .str "db1".toList)] rowsAndName "skill" [] :=
  (agree_iff_noDrift (by decide) (by decide) (by decide)).mpr (by decide)

/-- A truth value passes the validator as an integer, and does not satisfy the schema. -/
theorem boolean_not_agree :
    ¬ Agree literal (fun _ _ _ => true) [("rows", .bool true)] rowsAndName "skill" [] := by
  rintro ⟨tool, hsome, hiff⟩
  cases hsome
  exact absurd (hiff.mp (by decide)) (by with_unfolding_all decide)

end DBClaw.Skills
