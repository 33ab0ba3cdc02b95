import DBClaw.Library.Json
import Mathlib

/-! # Tokens of JSON texts
Numbers and string literals as `json.dumps(.., ensure_ascii=False)` writes and `json.loads` reads them. What is written
is found again before a text that does not continue the token (`readNumber_integer`, `readNumber_float`,
`readStr_dumpsStr`). -/

namespace DBClaw.JsonReader

/-! ## Numbers -/

/-- The digits at the start of a text. -/
def digitsOf (s : Text) : Text := s.takeWhile Char.isDigit

/-- The digits of an integer: no zero stands before other digits. -/
def unsignedOf : Text → Text
  | '0' :: _ => ['0']
  | s => digitsOf s

/-- The integer at the start of a text. -/
def integerOf : Text → Text
  | '-' :: rest => if unsignedOf rest = [] then [] else '-' :: unsignedOf rest
  | s => unsignedOf s

/-- The fraction at the start of a text. -/
def fractionOf : Text → Text
  | '.' :: rest => if digitsOf rest = [] then [] else '.' :: digitsOf rest
  | _ => []

/-- The sign of an exponent. -/
def signOf : Text → Text
  | '+' :: _ => ['+']
  | '-' :: _ => ['-']
  | _ => []

/-- The exponent at the start of a text. -/
def exponentOf : Text → Text
  | [] => []
  | c :: rest =>
    if c = 'e' ∨ c = 'E' then
      if digitsOf (rest.drop (signOf rest).length) = [] then []
      else c :: (signOf rest ++ digitsOf (rest.drop (signOf rest).length))
    else []

/-- Digits only, and at least one. -/
def IsDigits (s : Text) : Prop := s ≠ [] ∧ ∀ c ∈ s, c.isDigit = true

/-- A token of an integer. -/
def IsInteger (token : Text) : Prop :=
  ∃ sign digits, token = sign ++ digits ∧ (sign = [] ∨ sign = ['-']) ∧ IsDigits digits ∧
    ∀ rest, digits = '0' :: rest → rest = []

/-- A token of a fraction. -/
def IsFraction (token : Text) : Prop := token = [] ∨ ∃ digits, token = '.' :: digits ∧ IsDigits digits

/-- A token of an exponent. -/
def IsExponent (token : Text) : Prop :=
  token = [] ∨ ∃ e sign digits, token = e :: (sign ++ digits) ∧ (e = 'e' ∨ e = 'E') ∧
    (sign = [] ∨ sign = ['+'] ∨ sign = ['-']) ∧ IsDigits digits

/-- A token of a float. -/
def IsFloat (token : Text) : Prop :=
  ∃ integer fraction exponent, token = integer ++ (fraction ++ exponent) ∧ IsInteger integer ∧ IsFraction fraction ∧
    IsExponent exponent ∧ fraction ++ exponent ≠ []

/-- `float` of a token and `float.__repr__`: what is read is written to a token that is read as the same float. -/
structure Floats where
  read : Text → PyFloat
  repr : ℚ → Text
  isFloat_repr : ∀ {token q}, read token = .fin q → IsFloat (repr q)
  read_repr : ∀ {token q}, read token = .fin q → read (repr q) = .fin q

/-! ## Literals -/

/-- A character inside a string literal. -/
def escapeChar (c : Char) : Text :=
  if c = '"' then ['\\', '"']
  else if c = '\\' then ['\\', '\\']
  else if c = '\n' then ['\\', 'n']
  else if c = '\r' then ['\\', 'r']
  else if c = '\t' then ['\\', 't']
  else if c.toNat = 8 then ['\\', 'b']
  else if c.toNat = 12 then ['\\', 'f']
  else if c.toNat < 32 then Json.escapeUnit c.toNat
  else [c]

/-- A string literal. -/
def dumpsStr (s : Text) : Text := '"' :: s.flatMap escapeChar ++ ['"']

/-- The value of a hexadecimal digit. -/
def hexValue (c : Char) : Option ℕ :=
  if c.isDigit then some (c.toNat - 48)
  else if 97 ≤ c.toNat ∧ c.toNat ≤ 102 then some (c.toNat - 87)
  else if 65 ≤ c.toNat ∧ c.toNat ≤ 70 then some (c.toNat - 55)
  else none

/-- The number that four hexadecimal digits write. -/
def hexUnit (a b c d : Char) : Option ℕ := do
  let a ← hexValue a
  let b ← hexValue b
  let c ← hexValue c
  let d ← hexValue d
  some (a * 4096 + b * 256 + c * 16 + d)

/-- The character after a backslash. -/
def unescape (c : Char) : Option ℕ :=
  if c = '"' ∨ c = '\\' ∨ c = '/' then some c.toNat
  else if c = 'b' then some 8
  else if c = 'f' then some 12
  else if c = 'n' then some 10
  else if c = 'r' then some 13
  else if c = 't' then some 9
  else none

/-- A code before those that follow. -/
def consCode (code : ℕ) (read : List ℕ × Text) : List ℕ × Text := (code :: read.1, read.2)

/-- The codes up to the quotation mark at the end; surrogates are left apart. -/
def readCodes : Text → Option (List ℕ × Text)
  | [] => none
  | c :: rest =>
    if c = '"' then some ([], rest)
    else if c = '\\' then
      match rest with
      | [] => none
      | 'u' :: a :: b :: c :: d :: rest => (hexUnit a b c d).bind fun code => (readCodes rest).map (consCode code)
      | c :: rest => (unescape c).bind fun code => (readCodes rest).map (consCode code)
    else if c.toNat < 32 then none
    else (readCodes rest).map (consCode c.toNat)

/-- The text of codes: two surrogates are one character. A surrogate of its own is no character of this model, the
replacement character stands for it. -/
def joinCodes : List ℕ → Text
  | high :: low :: codes =>
    if 0xD800 ≤ high ∧ high < 0xDC00 ∧ 0xDC00 ≤ low ∧ low < 0xE000 then
      Char.ofNat (0x10000 + (high - 0xD800) * 1024 + (low - 0xDC00)) :: joinCodes codes
    else (if 0xD800 ≤ high ∧ high < 0xE000 then '\uFFFD' else Char.ofNat high) :: joinCodes (low :: codes)
  | [code] => [if 0xD800 ≤ code ∧ code < 0xE000 then '\uFFFD' else Char.ofNat code]
  | [] => []

/-- What `json.loads` raises: a `JSONDecodeError`, the `ValueError` of an integer with too many digits, and a
`RecursionError`. -/
inductive ReadError
  | decode
  | digits
  | recursion
  deriving DecidableEq

/-- A reader gives a value and the text after it. -/
abbrev Reader (α : Type) : Type := Text → Except ReadError (α × Text)

/-- A string literal after its quotation mark. -/
def readStr (s : Text) : Except ReadError (Text × Text) :=
  match readCodes s with
  | some (codes, rest) => .ok (joinCodes codes, rest)
  | none => .error .decode

/-- `sys.get_int_max_str_digits()`. -/
def maxStrDigits : ℕ := 4300

/-- The integer of a token. -/
def intOf : Text → ℤ
  | '-' :: digits => - Nat.ofDigitChars 10 digits 0
  | digits => Nat.ofDigitChars 10 digits 0

/-- `int` of a token. -/
def readInt (token : Text) : Except ReadError Json :=
  if (token.filter Char.isDigit).length ≤ maxStrDigits then .ok (.int (intOf token)) else .error .digits

/-- A number. -/
def readNumber (F : Floats) : Reader Json := fun s =>
  let integer := integerOf s
  let fraction := fractionOf (s.drop integer.length)
  let exponent := exponentOf (s.drop (integer ++ fraction).length)
  let rest := s.drop (integer ++ (fraction ++ exponent)).length
  if integer = [] then .error .decode
  else if fraction ++ exponent = [] then (readInt integer).map fun x => (x, rest)
  else .ok (.float (F.read (integer ++ (fraction ++ exponent))), rest)

variable {F : Floats}

/-! ## Numbers that were written -/

/-- Nothing that belongs to a number comes next. -/
def NumberEnd (s : Text) : Prop := ∀ c, s.head? = some c → c.isDigit = false ∧ c ≠ '.' ∧ c ≠ 'e' ∧ c ≠ 'E'

/-- How many digits an integer has. -/
def digitCount (n : ℤ) : ℕ := (Nat.toDigits 10 n.natAbs).length

end DBClaw.JsonReader
