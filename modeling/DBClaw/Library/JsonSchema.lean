import DBClaw.Library.Json

/-! # JSON Schema
Whether a value satisfies a schema, for the keywords that describe the parameters of a function. How a
pattern is searched for, and the keywords beyond these, are parameters. -/

namespace DBClaw

/-- Python's `x == y` on floats. -/
def PyFloat.eq (x y : PyFloat) : Bool := x = y && x ≠ .nan

namespace Json

/-! ## Equality -/

section EqualBy

variable (scalar : Json → Json → Bool)

mutual

/-- Two values are equal, where an equality is given for what is neither an array nor an object. The order
of the fields of an object does not count. -/
def equalBy : Json → Json → Bool
  | .arr xs, .arr ys => equalItems xs ys
  | .obj fields, .obj others => fields.length = others.length && equalFields fields others
  | x, y => scalar x y

/-- Arrays are equal item by item. -/
def equalItems : List Json → List Json → Bool
  | [], [] => true
  | x :: xs, y :: ys => equalBy x y && equalItems xs ys
  | _, _ => false

/-- Every field of an object has an equal one in the other. -/
def equalFields : List (String × Json) → Dict → Bool
  | [], _ => true
  | (key, x) :: fields, others =>
    (match others.lookup key with
      | some y => equalBy x y
      | none => false) && equalFields fields others

end

end EqualBy

/-- The number that a value is; a truth value is none. -/
def toNumber : Json → Option PyFloat
  | .int n => some (.fin n)
  | .float x => some x
  | _ => none

/-- The number that a value is in Python, where `True` is 1. -/
def toPyNumber : Json → Option PyFloat
  | .bool b => some (.fin (if b then 1 else 0))
  | value => value.toNumber

/-- Two values are the same number, for a reading of values as numbers. -/
def sameNumber (number : Json → Option PyFloat) (x y : Json) : Bool :=
  (number x).any fun p => (number y).any p.eq

/-- The equality of JSON Schema on what is neither an array nor an object. -/
def sameScalar : Json → Json → Bool
  | .null, .null => true
  | .bool a, .bool b => a = b
  | .str s, .str t => s = t
  | x, y => sameNumber toNumber x y

/-- Python's `==` on what is neither a list nor a dictionary. -/
def pyScalar : Json → Json → Bool
  | .null, .null => true
  | .str s, .str t => s = t
  | x, y => sameNumber toPyNumber x y

/-- **Equality in JSON Schema**. -/
def same : Json → Json → Bool := equalBy sameScalar

/-- **Python's `==`**. -/
def pyEq : Json → Json → Bool := equalBy pyScalar

section Mono

variable {scalar scalar' : Json → Json → Bool}

mutual

/-- A weaker equality of scalars gives a weaker equality of values. -/
theorem equalBy_mono (hle : ∀ x y, scalar x y = true → scalar' x y = true) : ∀ x y, equalBy scalar x y = true → equalBy scalar' x y = true
  | .arr xs, .arr ys, h => by
    rw [equalBy] at h ⊢
    exact equalItems_mono hle xs ys h
  | .obj fields, .obj others, h => by
    rw [equalBy, Bool.and_eq_true] at h ⊢
    exact ⟨h.1, equalFields_mono hle fields others h.2⟩
  | .null, y, h | .bool _, y, h | .int _, y, h | .float _, y, h | .str _, y, h => by
    simp only [equalBy] at h ⊢
    exact hle _ _ h
  | .arr _, .null, h | .arr _, .bool _, h | .arr _, .int _, h | .arr _, .float _, h
  | .arr _, .str _, h | .arr _, .obj _, h => by
    simp only [equalBy] at h ⊢
    exact hle _ _ h
  | .obj _, .null, h | .obj _, .bool _, h | .obj _, .int _, h | .obj _, .float _, h
  | .obj _, .str _, h | .obj _, .arr _, h => by
    simp only [equalBy] at h ⊢
    exact hle _ _ h

theorem equalItems_mono (hle : ∀ x y, scalar x y = true → scalar' x y = true) : ∀ xs ys, equalItems scalar xs ys = true → equalItems scalar' xs ys = true
  | [], [], _ => by rw [equalItems]
  | x :: xs, y :: ys, h => by
    rw [equalItems, Bool.and_eq_true] at h ⊢
    exact ⟨equalBy_mono hle x y h.1, equalItems_mono hle xs ys h.2⟩
  | [], _ :: _, h => by simp [equalItems] at h
  | _ :: _, [], h => by simp [equalItems] at h

theorem equalFields_mono (hle : ∀ x y, scalar x y = true → scalar' x y = true) :
    ∀ fields others, equalFields scalar fields others = true →
      equalFields scalar' fields others = true
  | [], _, _ => by rw [equalFields]
  | (key, x) :: fields, others, h => by
    rw [equalFields, Bool.and_eq_true] at h ⊢
    refine ⟨?_, equalFields_mono hle fields others h.2⟩
    have hfield := h.1
    split at hfield
    · exact equalBy_mono hle x _ hfield
    · cases hfield

end

end Mono

/-- What is equal in JSON Schema is equal in Python. -/
theorem pyEq_of_same {x y : Json} (h : same x y = true) : pyEq x y = true := by
  refine equalBy_mono (fun x y hxy => ?_) x y h
  cases x <;> cases y <;>
    simp only [sameScalar, pyScalar, sameNumber, toNumber, toPyNumber, Option.any_some, Option.any_none,
      Bool.false_eq_true, decide_eq_true_eq] at hxy ⊢
  case bool.bool => simp [hxy, PyFloat.eq]
  all_goals simpa [PyFloat.eq] using hxy

/-! ## Types -/

/-- A float without a fractional part. -/
def isIntegral : PyFloat → Bool
  | .fin q => q.den = 1
  | _ => false

/-- The value is of a type of JSON Schema; an integral float is an integer, a truth value is none. -/
def hasType (type : Text) : Json → Bool
  | .null => type = "null".toList
  | .bool _ => type = "boolean".toList
  | .int _ => type = "integer".toList || type = "number".toList
  | .float x => type = "number".toList || (type = "integer".toList && isIntegral x)
  | .str _ => type = "string".toList
  | .arr _ => type = "array".toList
  | .obj _ => type = "object".toList

/-- The value is of the type that the argument of `type` names, or of one of them. -/
def hasTypeOf (types value : Json) : Bool :=
  match types with
  | .str type => value.hasType type
  | .arr types => types.any fun
    | .str type => value.hasType type
    | _ => false
  | _ => false

/-! ## Satisfaction -/

/-- What a schema's meaning rests on: whether a pattern is found in a text, and what the other keywords ask
of a value. -/
structure Keywords where
  search : Text → Text → Bool
  other : String → Json → Json → Bool

/-- The items of an array. -/
def items : Json → List Json
  | .arr items => items
  | _ => []

/-- A size is at least the argument of a keyword. -/
def atLeast (argument : Json) (size : ℕ) : Bool := argument.toNumber.all fun n => (PyFloat.fin size).lt n = false

/-- A size is at most the argument of a keyword. -/
def atMost (argument : Json) (size : ℕ) : Bool := argument.toNumber.all fun n => n.lt (.fin size) = false

/-- What a keyword whose argument is no schema asks of a value. -/
def Keywords.asks (k : Keywords) (keyword : String) (argument value : Json) : Bool :=
  match keyword with
  | "type" => hasTypeOf argument value
  | "enum" =>
    match argument with
    | .arr words => words.any value.same
    | _ => true
  | "pattern" =>
    match argument, value with
    | .str pattern, .str text => k.search pattern text
    | _, _ => true
  | "minimum" => argument.toNumber.all fun n => value.toNumber.all fun x => ! x.lt n
  | "maximum" => argument.toNumber.all fun n => value.toNumber.all fun x => ! n.lt x
  | "minLength" =>
    match value with
    | .str text => atLeast argument text.length
    | _ => true
  | "maxLength" =>
    match value with
    | .str text => atMost argument text.length
    | _ => true
  | "minItems" =>
    match value with
    | .arr items => atLeast argument items.length
    | _ => true
  | "maxItems" =>
    match value with
    | .arr items => atMost argument items.length
    | _ => true
  | "required" =>
    match argument, value with
    | .arr names, .obj fields => names.all fun
      | .str name => fields.any (·.1.toList = name)
      | _ => true
    | _, _ => true
  | "title" | "description" | "default" | "examples" => true
  | keyword => k.other keyword argument value

section Satisfies

variable (k : Keywords)

mutual

/-- **A value satisfies a schema**. -/
def satisfies : Json → Json → Bool
  | .bool b, _ => b
  | .obj keywords, value => satisfiesAll keywords value
  | _, _ => true

/-- A value satisfies every keyword of a schema. -/
def satisfiesAll : List (String × Json) → Json → Bool
  | [], _ => true
  | (keyword, argument) :: keywords, value =>
    (if keyword = "items" then value.items.all (satisfies argument)
    else if keyword = "properties" then satisfiesProperties argument value
    else k.asks keyword argument value) && satisfiesAll keywords value

/-- The fields of an object satisfy the schemas of `properties`. -/
def satisfiesProperties : Json → Json → Bool
  | .obj properties, .obj fields => satisfiesNamed properties fields
  | _, _ => true

/-- A field satisfies the schema of its name. -/
def satisfiesNamed : List (String × Json) → Dict → Bool
  | [], _ => true
  | (name, schema) :: properties, fields =>
    (match fields.lookup name with
      | some value => satisfies schema value
      | none => true) && satisfiesNamed properties fields

end

variable {k} {keywords more : List (String × Json)} {value : Json} {fields : Dict}

@[simp] theorem satisfiesAll_append :
    satisfiesAll k (keywords ++ more) value = (satisfiesAll k keywords value && satisfiesAll k more value) := by
  induction keywords with
  | nil => simp [satisfiesAll]
  | cons keyword keywords ih =>
    obtain ⟨name, argument⟩ := keyword
    rw [List.cons_append, satisfiesAll, satisfiesAll, ih, Bool.and_assoc]

theorem satisfiesNamed_eq_all :
    satisfiesNamed k keywords fields =
      keywords.all fun property => (fields.lookup property.1).all (satisfies k property.2) := by
  induction keywords with
  | nil => simp [satisfiesNamed]
  | cons property properties ih =>
    obtain ⟨name, schema⟩ := property
    rw [satisfiesNamed, ih, List.all_cons]
    cases fields.lookup name <;> rfl

end Satisfies

end Json

end DBClaw
