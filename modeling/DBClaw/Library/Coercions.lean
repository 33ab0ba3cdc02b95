import DBClaw.Library.Json
import Mathlib

/-! # Coercions
What Python's `int`, `float` and their like make of a JSON value, and the exceptions that they raise. Code that reads
a configuration goes from value to value; its callers expect a `ValueError`, and every other exception escapes them.
`Follows` says that a computation goes through a list of checks, and `Follows.escapes_iff` which values let another
exception escape. -/

namespace DBClaw.Coercions

/-! ## Exceptions -/

/-- An exception. -/
inductive PyError
  | valueError (message : Text)
  | typeError
  | overflowError
  | attributeError
  deriving DecidableEq, Repr

/-- A `ValueError`. -/
def PyError.IsValueError : PyError → Prop
  | .valueError _ => True
  | .typeError | .overflowError | .attributeError => False

instance : DecidablePred PyError.IsValueError
  | .valueError _ => .isTrue trivial
  | .typeError | .overflowError | .attributeError => .isFalse id

variable {α β : Type}

/-- **Another exception escapes.** -/
def Escapes (m : Except PyError α) : Prop := ∃ e, m = .error e ∧ ¬ e.IsValueError

/-- The computation returns. -/
def Returns (m : Except PyError α) : Prop := ∃ a, m = .ok a

/-- `try: m except (TypeError, ValueError) as e: raise ValueError(message(e))`. -/
def catching (message : PyError → Text) : Except PyError α → Except PyError α
  | .error (.valueError text) => .error (.valueError (message (.valueError text)))
  | .error .typeError => .error (.valueError (message .typeError))
  | m => m

/-- `raise ValueError(message)`. -/
def raise (message : Text) : Except PyError α := .error (.valueError message)

/-- `if not condition: raise ValueError(message)`. -/
def require (condition : Bool) (message : Text) : Except PyError Unit :=
  if condition then .ok () else raise message

/-! ## Values -/

/-- What Python knows of texts: the characters beyond ASCII with the values of the digits among them, the floats that
are written in texts, and the texts of values and exceptions. -/
structure Texts where
  unicode : Unicode
  digit : Char → ℕ
  float : Text → Option PyFloat
  repr : Json → Text
  error : PyError → Text

variable (t : Texts)

/-- The value of a decimal digit. -/
def Texts.digitValue (c : Char) : ℕ := if c.toNat < 128 then c.toNat - 48 else t.digit c

/-- The number that digits are. -/
def Texts.number (digits : Text) : ℕ := digits.foldl (fun n c => 10 * n + t.digitValue c) 0

/-- Digits with single underscores between them, at most 4300 of them. -/
def Texts.natural (s : Text) : Option ℕ :=
  let groups := s.splitOn '_'
  if groups.all (fun group => group ≠ [] && group.all t.unicode.isDecimalChar) && groups.flatten.length ≤ 4300 then
    some (t.number groups.flatten)
  else none

/-- `int(s)` of a text, `none` where it raises a `ValueError`. -/
def Texts.int (s : Text) : Option ℤ :=
  match Text.strip s with
  | '-' :: digits => (t.natural digits).map fun n => -(n : ℤ)
  | '+' :: digits => (t.natural digits).map fun n => (n : ℤ)
  | digits => (t.natural digits).map fun n => (n : ℤ)

/-- Towards zero. -/
def truncate (q : ℚ) : ℤ := if 0 ≤ q then q.floor else q.ceil

/-- **`int(x)`.** -/
def pyInt : Json → Except PyError ℤ
  | .int n => .ok n
  | .bool b => .ok (if b then 1 else 0)
  | .float (.fin q) => .ok (truncate q)
  | .float .nan => raise "cannot convert float NaN to integer".toList
  | .float .posInf | .float .negInf => .error .overflowError
  | .str s =>
    match t.int s with
    | some n => .ok n
    | none => raise ("invalid literal for int() with base 10: ".toList ++ t.repr (.str s))
  | .null | .arr _ | .obj _ => .error .typeError

/-- The first integer that is too large for a float. -/
def floatLimit : ℕ := 2 ^ 1024 - 2 ^ 970

/-- **`float(x)`.** -/
def pyFloat : Json → Except PyError PyFloat
  | .int n => if n.natAbs < floatLimit then .ok (.fin n) else .error .overflowError
  | .bool b => .ok (.fin (if b then 1 else 0))
  | .float x => .ok x
  | .str s =>
    match t.float s with
    | some x => .ok x
    | none => raise ("could not convert string to float: ".toList ++ t.repr (.str s))
  | .null | .arr _ | .obj _ => .error .typeError

/-- `str(x)`. -/
def pyStr : Json → Text
  | .str s => s
  | x => t.repr x

/-- A list or a dictionary, which has no hash. -/
def isContainer : Json → Bool
  | .arr _ | .obj _ => true
  | .null | .bool _ | .int _ | .float _ | .str _ => false

/-- Looking up a value in a set or a dictionary. -/
def pyHash (x : Json) : Except PyError Unit := if isContainer x then .error .typeError else .ok ()

/-- A method of `str` is called on `x or ""`. -/
def textOr (x : Json) : Except PyError Text :=
  match x with
  | .str s => .ok s
  | x => if x.truthy then .error .attributeError else .ok []

/-! ## Checks -/

/-- What a computation does with a value. -/
inductive Check
  /-- It raises a `ValueError` itself. -/
  | guard (holds : Bool)
  | hash (x : Json)
  | int (x : Json)
  | float (x : Json)
  /-- In a `try` that turns `TypeError` into `ValueError`. -/
  | caughtInt (x : Json)
  | caughtFloat (x : Json)
  | text (x : Json)

/-- The value is an infinity. -/
def isInfinite : Json → Bool
  | .float .posInf | .float .negInf => true
  | _ => false

/-- The value is an integer beyond the floats. -/
def isHuge : Json → Bool
  | .int n => floatLimit ≤ n.natAbs
  | _ => false

/-- The value is `None`, a list or a dictionary, which neither `int` nor `float` takes. -/
def isNoScalar : Json → Bool
  | .null => true
  | x => isContainer x

/-- **An exception escapes the check.** -/
def Check.escapes : Check → Bool
  | .guard _ => false
  | .hash x => isContainer x
  | .int x => isNoScalar x || isInfinite x
  | .float x => isNoScalar x || isHuge x
  | .caughtInt x => isInfinite x
  | .caughtFloat x => isHuge x
  | .text x => x.truthy && match x with | .str _ => false | _ => true

/-- The value is a number, or a text that is one. -/
def isInt : Json → Bool
  | .int _ | .bool _ | .float (.fin _) => true
  | .str s => (t.int s).isSome
  | _ => false

/-- The value is a number that is not too large, or a text that is one. -/
def isFloat : Json → Bool
  | .int n => n.natAbs < floatLimit
  | .bool _ | .float _ => true
  | .str s => (t.float s).isSome
  | _ => false

/-- **The check is passed.** -/
def Check.passes : Check → Bool
  | .guard holds => holds
  | .hash x => ! isContainer x
  | .int x | .caughtInt x => isInt t x
  | .float x | .caughtFloat x => isFloat t x
  | .text x => ! (Check.text x).escapes

/-- **No exception escapes the checks**, one after the other up to the first that is not passed. -/
def Orderly : List Check → Prop
  | [] => True
  | check :: checks => check.escapes = false ∧ (check.passes t = true → Orderly checks)

instance decidableOrderly : (checks : List Check) → Decidable (Orderly t checks)
  | [] => .isTrue trivial
  | check :: checks =>
    haveI := decidableOrderly checks
    inferInstanceAs (Decidable (check.escapes = false ∧ (check.passes t = true → Orderly t checks)))

/-- **The computation goes through the checks**: an exception escapes as from them, and it returns if they are
passed. -/
structure Follows (m : Except PyError α) (checks : List Check) : Prop where
  escapes_iff : Escapes m ↔ ¬ Orderly t checks
  returns_iff : Returns m ↔ ∀ check ∈ checks, check.passes t = true

variable {t} {checks checks' : List Check} {m : Except PyError α} {f : α → Except PyError β}

/-! ## Escapes -/

theorem escapes_ok (a : α) : ¬ Escapes (.ok a : Except PyError α) := by
  rintro ⟨e, he, -⟩
  cases he

@[simp] theorem escapes_error (e : PyError) : Escapes (.error e : Except PyError α) ↔ ¬ e.IsValueError := by
  constructor
  · rintro ⟨e', he, hescapes⟩
    rwa [Except.error.inj he]
  · exact fun h => ⟨e, rfl, h⟩

@[simp] theorem returns_ok (a : α) : Returns (.ok a : Except PyError α) := ⟨a, rfl⟩

@[simp] theorem returns_error (e : PyError) : ¬ Returns (.error e : Except PyError α) := by
  rintro ⟨a, ha⟩
  cases ha

@[simp] theorem raise_bind (message : Text) : (raise message >>= f : Except PyError β) = raise message := rfl

/-- What neither escapes nor returns is a `ValueError`. -/
theorem returns_or_raises (h : ¬ Escapes m) : Returns m ∨ ∃ message, m = .error (.valueError message) := by
  cases m with
  | ok a => exact .inl ⟨a, rfl⟩
  | error e =>
    rw [escapes_error, not_not] at h
    cases e with
    | valueError message => exact .inr ⟨message, rfl⟩
    | typeError | overflowError | attributeError => exact absurd h id

theorem escapes_bind : Escapes (m >>= f) ↔ Escapes m ∨ ∃ a, m = .ok a ∧ Escapes (f a) := by
  cases m with
  | ok a => simp [bind, Except.bind, escapes_ok]
  | error e => simp [bind, Except.bind]

theorem returns_bind : Returns (m >>= f) ↔ ∃ a, m = .ok a ∧ Returns (f a) := by
  cases m with
  | ok a => simp [bind, Except.bind]
  | error e => simp [bind, Except.bind]

theorem bind_eq_ok_iff {b : β} : m >>= f = .ok b ↔ ∃ a, m = .ok a ∧ f a = .ok b := by
  cases m with
  | ok a => simp [bind, Except.bind]
  | error e => simp [bind, Except.bind]

@[simp] theorem require_eq_ok_iff {condition : Bool} {message : Text} {u : Unit} :
    require condition message = .ok u ↔ condition = true := by
  cases condition <;> simp [require, raise]

theorem require_of_true {condition : Bool} (h : condition = true) (message : Text) :
    require condition message = .ok () := by
  rw [require, if_pos h]

@[simp] theorem ok_bind (a : α) : (.ok a >>= f : Except PyError β) = f a := rfl

/-- An end that raises nothing but a `ValueError` lets nothing escape. -/
theorem escapes_bind_of_not (h : ∀ a, m = .ok a → ¬ Escapes (f a)) : Escapes (m >>= f) ↔ Escapes m := by
  rw [escapes_bind]
  exact ⟨fun hor => hor.elim id fun ⟨a, ha, hescapes⟩ => absurd hescapes (h a ha), .inl⟩

theorem not_escapes_require (condition : Bool) (message : Text) : ¬ Escapes (require condition message) := by
  cases condition <;> simp [require, raise, escapes_ok, PyError.IsValueError]

/-! ## Going through checks -/

theorem orderly_append :
    Orderly t (checks ++ checks') ↔
      Orderly t checks ∧ ((∀ check ∈ checks, check.passes t = true) → Orderly t checks') := by
  induction checks with
  | nil => simp [Orderly]
  | cons check checks ih =>
    rw [List.cons_append, Orderly, Orderly, ih, List.forall_mem_cons]
    tauto

theorem Follows.pure (a : α) : Follows t (.ok a) [] where
  escapes_iff := by simp [escapes_ok, Orderly]
  returns_iff := by simp

/-- **One computation after the other** goes through the checks of the one and then those of the other. -/
theorem Follows.bind (h : Follows t m checks) (k : ∀ a, m = .ok a → Follows t (f a) checks') :
    Follows t (m >>= f) (checks ++ checks') where
  escapes_iff := by
    rw [escapes_bind, orderly_append, not_and_or, h.escapes_iff, Classical.not_imp, ← h.returns_iff]
    refine or_congr_right ⟨?_, ?_⟩
    · rintro ⟨a, ha, hescapes⟩
      exact ⟨⟨a, ha⟩, (k a ha).escapes_iff.mp hescapes⟩
    · rintro ⟨⟨a, ha⟩, hrest⟩
      exact ⟨a, ha, (k a ha).escapes_iff.mpr hrest⟩
  returns_iff := by
    rw [returns_bind, List.forall_mem_append, ← h.returns_iff]
    constructor
    · rintro ⟨a, ha, hreturns⟩
      exact ⟨⟨a, ha⟩, (k a ha).returns_iff.mp hreturns⟩
    · rintro ⟨⟨a, ha⟩, hrest⟩
      exact ⟨a, ha, (k a ha).returns_iff.mpr hrest⟩

/-- A computation that is followed by nothing that could fail. -/
theorem Follows.map (h : Follows t m checks) (g : α → β) : Follows t (m >>= fun a => .ok (g a)) checks := by
  have hbind := h.bind fun a _ => Follows.pure (t := t) (g a)
  rwa [List.append_nil] at hbind

theorem Follows.single {check : Check} (hescapes : Escapes m ↔ check.escapes = true)
    (hreturns : Returns m ↔ check.passes t = true) : Follows t m [check] where
  escapes_iff := by simp [Orderly, hescapes]
  returns_iff := by simp [hreturns]

theorem follows_require (condition : Bool) (message : Text) : Follows t (require condition message) [.guard condition] := by
  refine .single ?_ ?_
  · cases condition <;> simp [require, raise, escapes_ok, Check.escapes, PyError.IsValueError]
  · cases condition <;> simp [require, raise, Check.passes]

/-- A condition fails, and the `ValueError` is raised. -/
theorem follows_raise (message : Text) : Follows t (raise message : Except PyError α) [.guard false] := by
  refine .single ?_ ?_ <;> simp [raise, Check.escapes, Check.passes, PyError.IsValueError]

theorem follows_pyHash (x : Json) : Follows t (pyHash x) [.hash x] := by
  refine .single ?_ ?_ <;> cases hx : isContainer x <;>
    simp [pyHash, hx, Check.escapes, Check.passes, escapes_ok, PyError.IsValueError]

theorem follows_int (x : Json) : Follows t (pyInt t x) [.int x] := by
  refine .single ?_ ?_
  · cases x with
    | float x => cases x <;> simp [pyInt, raise, Check.escapes, isNoScalar, isContainer, isInfinite, escapes_ok,
        PyError.IsValueError]
    | str s => cases hs : t.int s <;> simp [pyInt, hs, raise, Check.escapes, isNoScalar, isContainer, isInfinite,
        escapes_ok, PyError.IsValueError]
    | null | bool | int | arr | obj => simp [pyInt, Check.escapes, isNoScalar, isContainer, isInfinite, escapes_ok,
        PyError.IsValueError]
  · cases x with
    | float x => cases x <;> simp [pyInt, raise, Check.passes, isInt]
    | str s => cases hs : t.int s <;> simp [pyInt, hs, raise, Check.passes, isInt]
    | null | bool | int | arr | obj => simp [pyInt, Check.passes, isInt]

theorem follows_float (x : Json) : Follows t (pyFloat t x) [.float x] := by
  refine .single ?_ ?_
  · cases x with
    | int n =>
      by_cases hn : n.natAbs < floatLimit
      · simp [pyFloat, hn, Check.escapes, isNoScalar, isContainer, isHuge, escapes_ok]
      · simp [pyFloat, hn, Check.escapes, isNoScalar, isContainer, isHuge, not_lt.mp hn, PyError.IsValueError]
    | str s => cases hs : t.float s <;> simp [pyFloat, hs, raise, Check.escapes, isNoScalar, isContainer, isHuge,
        escapes_ok, PyError.IsValueError]
    | null | bool | float | arr | obj => simp [pyFloat, Check.escapes, isNoScalar, isContainer, isHuge, escapes_ok,
        PyError.IsValueError]
  · cases x with
    | int n => by_cases hn : n.natAbs < floatLimit <;> simp [pyFloat, hn, Check.passes, isFloat]
    | str s => cases hs : t.float s <;> simp [pyFloat, hs, raise, Check.passes, isFloat]
    | null | bool | float | arr | obj => simp [pyFloat, Check.passes, isFloat]

theorem follows_textOr (x : Json) : Follows t (textOr x) [.text x] := by
  refine .single ?_ ?_
  · cases x with
    | str s => simp [textOr, Check.escapes, escapes_ok]
    | null | bool | int | float | arr | obj =>
      simp only [textOr]
      split_ifs with h <;> simp [Check.escapes, h, escapes_ok, PyError.IsValueError]
  · cases x with
    | str s => simp [textOr, Check.passes, Check.escapes]
    | null | bool | int | float | arr | obj =>
      simp only [textOr]
      split_ifs with h <;> simp [Check.passes, Check.escapes, h]

/-! ## Where `TypeError` is caught -/

variable {message : PyError → Text}

@[simp] theorem catching_ok (a : α) : catching message (.ok a : Except PyError α) = .ok a := rfl

/-- A `try` around two computations is one around each of them. -/
theorem catching_bind :
    catching message (m >>= f) = catching message m >>= fun a => catching message (f a) := by
  cases m with
  | ok a => rfl
  | error e => cases e <;> rfl

theorem catching_require (condition : Bool) (text : Text) :
    catching message (require condition text) = require condition (message (.valueError text)) := by
  cases condition <;> rfl

theorem catching_eq_ok_iff {a : α} : catching message m = .ok a ↔ m = .ok a := by
  cases m with
  | ok b => rfl
  | error e => cases e <;> simp [catching]

theorem returns_catching : Returns (catching message m) ↔ Returns m := by
  cases m with
  | ok a => simp
  | error e => cases e <;> simp [catching]

theorem follows_caughtInt (x : Json) : Follows t (catching message (pyInt t x)) [.caughtInt x] := by
  refine .single ?_ ?_
  · cases x with
    | float x => cases x <;> simp [pyInt, raise, catching, Check.escapes, isInfinite, escapes_ok,
        PyError.IsValueError]
    | str s => cases hs : t.int s <;> simp [pyInt, hs, raise, catching, Check.escapes, isInfinite, escapes_ok,
        PyError.IsValueError]
    | null | bool | int | arr | obj => simp [pyInt, catching, Check.escapes, isInfinite, escapes_ok,
        PyError.IsValueError]
  · rw [returns_catching, (follows_int x).returns_iff, List.forall_mem_singleton]
    rfl

theorem follows_caughtFloat (x : Json) : Follows t (catching message (pyFloat t x)) [.caughtFloat x] := by
  refine .single ?_ ?_
  · cases x with
    | int n =>
      by_cases hn : n.natAbs < floatLimit
      · simp [pyFloat, hn, Check.escapes, isHuge, escapes_ok]
      · simp [pyFloat, hn, catching, Check.escapes, isHuge, not_lt.mp hn, PyError.IsValueError]
    | str s => cases hs : t.float s <;> simp [pyFloat, hs, raise, catching, Check.escapes, isHuge, escapes_ok,
        PyError.IsValueError]
    | null | bool | float | arr | obj => simp [pyFloat, catching, Check.escapes, isHuge, escapes_ok,
        PyError.IsValueError]
  · rw [returns_catching, (follows_float x).returns_iff, List.forall_mem_singleton]
    rfl

end DBClaw.Coercions
