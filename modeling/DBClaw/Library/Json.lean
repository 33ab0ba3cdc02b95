import DBClaw.Library.Text
import Mathlib.Data.Rat.Defs

/-! # JSON values and Python floats
The values that JSON columns, tool arguments and metric dictionaries hold, and the dictionary
operations the program uses on them. A float is an exact rational, an infinity or NaN: the two
infinities and NaN are values that Python's `json` and its arithmetic really produce. -/

namespace DBClaw

/-- A Python `float` without rounding. -/
inductive PyFloat
  | nan
  | negInf
  | fin (q : ℚ)
  | posInf
  deriving DecidableEq, Repr

/-- Python's `x < y` on floats: false as soon as one side is NaN. -/
def PyFloat.lt : PyFloat → PyFloat → Bool
  | .nan, _ | _, .nan => false
  | .negInf, .negInf => false
  | .negInf, _ => true
  | .fin _, .negInf => false
  | .fin p, .fin q => p < q
  | .fin _, .posInf => true
  | .posInf, _ => false

/-- Python's `x <= y` on floats. -/
def PyFloat.le (x y : PyFloat) : Bool := x.lt y || (x = y && x ≠ .nan)

/-- A JSON value as Python's `json` reads it. -/
inductive Json
  | null
  | bool (b : Bool)
  | int (n : ℤ)
  | float (x : PyFloat)
  | str (s : Text)
  | arr (xs : List Json)
  | obj (fields : List (String × Json))
  deriving Inhabited, Repr

/-- A dictionary with string keys, in insertion order. -/
abbrev Dict : Type := List (String × Json)

/-- `d.get(key)`, with `None` as `null`. -/
def Dict.get (d : Dict) (key : String) : Json := (d.lookup key).getD .null

/-- `d.get(key, default)`. -/
def Dict.getD (d : Dict) (key : String) (default : Json) : Json := (d.lookup key).getD default

/-- The truth value of a JSON value in Python. -/
def Json.truthy : Json → Bool
  | .null => false
  | .bool b => b
  | .int n => n != 0
  | .float x => x != .fin 0
  | .str s => s != []
  | .arr xs => ! xs.isEmpty
  | .obj fields => ! fields.isEmpty

/-- Python's `x or y`. -/
def Json.or (x y : Json) : Json := if x.truthy then x else y

/-! ## Serialisation -/

namespace Json

/-- The lower-case hexadecimal digit of a number below 16. -/
def hexDigit (n : ℕ) : Char := if n < 10 then Char.ofNat (48 + n) else Char.ofNat (87 + n)

/-- One `\uXXXX` escape. -/
def escapeUnit (n : ℕ) : Text :=
  ['\\', 'u', hexDigit (n / 4096 % 16), hexDigit (n / 256 % 16), hexDigit (n / 16 % 16),
    hexDigit (n % 16)]

/-- A character inside a string literal, with `ensure_ascii`: what is beyond the basic plane becomes
a surrogate pair. -/
def escapeChar (c : Char) : Text :=
  if c = '"' then ['\\', '"']
  else if c = '\\' then ['\\', '\\']
  else if c = '\n' then ['\\', 'n']
  else if c = '\r' then ['\\', 'r']
  else if c = '\t' then ['\\', 't']
  else if c.toNat = 8 then ['\\', 'b']
  else if c.toNat = 12 then ['\\', 'f']
  else if 32 ≤ c.toNat ∧ c.toNat ≤ 126 then [c]
  else if c.toNat < 65536 then escapeUnit c.toNat
  else
    escapeUnit (0xD800 + (c.toNat - 65536) / 1024) ++ escapeUnit (0xDC00 + (c.toNat - 65536) % 1024)

/-- A string literal. -/
def dumpsStr (s : Text) : Text := '"' :: s.flatMap escapeChar ++ ['"']

mutual

/-- **`json.dumps`** with its default separators; `floatRepr` is `float.__repr__`. -/
def dumps (floatRepr : PyFloat → Text) : Json → Text
  | .null => "null".toList
  | .bool b => if b then "true".toList else "false".toList
  | .int n => (toString n).toList
  | .float x => floatRepr x
  | .str s => dumpsStr s
  | .arr xs => '[' :: dumpsItems floatRepr xs ++ [']']
  | .obj fields => '{' :: dumpsFields floatRepr fields ++ ['}']

/-- The items of an array. -/
def dumpsItems (floatRepr : PyFloat → Text) : List Json → Text
  | [] => []
  | [x] => dumps floatRepr x
  | x :: xs => dumps floatRepr x ++ ", ".toList ++ dumpsItems floatRepr xs

/-- The fields of an object. -/
def dumpsFields (floatRepr : PyFloat → Text) : List (String × Json) → Text
  | [] => []
  | [(k, x)] => dumpsStr k.toList ++ ": ".toList ++ dumps floatRepr x
  | (k, x) :: xs =>
    dumpsStr k.toList ++ ": ".toList ++ dumps floatRepr x ++ ", ".toList ++
      dumpsFields floatRepr xs

end

end Json

/-- `json.dumps` and `json.loads`: serialisation to text and the reader, `none` where the reader
raises. -/
structure JsonCodec where
  dumps : Json → Text
  loads : Text → Option Json

end DBClaw
