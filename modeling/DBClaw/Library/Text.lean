import Mathlib.Data.List.DropRight
import Mathlib.Data.List.Infix

/-! # Python text
A Python `str` is a sequence of code points, `Text := List Char`. The operations below follow the
documented behaviour of the `str` methods and of SQL `LIKE`; the whitespace they know is the one
`str.isspace` and `\s` know. -/

namespace DBClaw

/-- A Python `str`. -/
abbrev Text : Type := List Char

/-- Texts are compared by their characters. -/
instance : LawfulBEq Text := inferInstance

namespace Text

/-- `str.isspace` of one character, which is also `\s` of the `re` module. -/
def isSpace (c : Char) : Bool :=
  let n := c.toNat
  (9 ≤ n && n ≤ 13) || (28 ≤ n && n ≤ 32) || n == 0x85 || n == 0xA0 || n == 0x1680 ||
    (0x2000 ≤ n && n ≤ 0x200A) || n == 0x2028 || n == 0x2029 || n == 0x202F || n == 0x205F ||
    n == 0x3000

/-- `str.lstrip()`. -/
def lstrip (s : Text) : Text := s.dropWhile isSpace

/-- `str.rstrip()`. -/
def rstrip (s : Text) : Text := s.rdropWhile isSpace

/-- `str.strip()`. -/
def strip (s : Text) : Text := rstrip (lstrip s)

/-- Stripped text has nothing more to strip. -/
theorem strip_strip (s : Text) : strip (strip s) = strip s := by
  have hleft : lstrip (strip s) = strip s := by
    unfold lstrip
    rw [List.dropWhile_eq_self_iff]
    intro hpos
    -- the first character of the stripped text is the first one that is left on the left
    have hprefix : strip s <+: lstrip s := List.rdropWhile_prefix _ _
    have hpos' : 0 < (lstrip s).length := hpos.trans_le hprefix.length_le
    rw [List.IsPrefix.getElem hprefix hpos]
    exact List.dropWhile_get_zero_not _ _ hpos'
  calc strip (strip s) = rstrip (strip s) := congrArg rstrip hleft
    _ = strip s := List.rdropWhile_idempotent _ _

/-- The characters of a kind at the head of a text, up to one of another kind. -/
theorem takeWhile_append {p : Char → Bool} {w s : Text} (hw : ∀ c ∈ w, p c = true)
    (hs : ∀ c ∈ s.head?, p c = false) : (w ++ s).takeWhile p = w := by
  rw [List.takeWhile_append_of_pos hw]
  cases s with
  | nil => simp
  | cons c s =>
    have hc : p c = false := hs c rfl
    simp [hc]

/-- `str.split(maxsplit=1)`: the words around the first run of whitespace. -/
def splitOnce (s : Text) : List Text :=
  match lstrip s with
  | [] => []
  | c :: t =>
    let head := (c :: t).takeWhile (! isSpace ·)
    match lstrip ((c :: t).dropWhile (! isSpace ·)) with
    | [] => [head]
    | rest => [head, rest]

/-- **SQL `LIKE`** with the default escape character: `%` matches any text, `_` any one character,
and a backslash takes the next pattern character literally. -/
def like : Text → Text → Bool
  | [], s => s.isEmpty
  | '%' :: p, s => s.tails.any (like p)
  | '_' :: _, [] => false
  | '_' :: p, _ :: s => like p s
  | '\\' :: _ :: _, [] => false
  | '\\' :: c :: p, d :: s => c == d && like p s
  | _ :: _, [] => false
  | c :: p, d :: s => c == d && like p s

/-- `column.contains(x)` of SQLAlchemy without `autoescape`: `column LIKE '%' || x || '%'`. -/
def contains (s x : Text) : Bool := like ('%' :: x ++ ['%']) s

/-- The character has a meaning of its own in a pattern. -/
def isWildcard (c : Char) : Bool := c = '%' ∨ c = '_' ∨ c = '\\'

/-- A pattern that ends in `%` matches its own literal text. -/
theorem like_append_percent {x : Text} (hx : x.all (! isWildcard ·) = true) :
    like (x ++ ['%']) x = true := by
  induction x with
  | nil => rfl
  | cons c x ih =>
    -- the first character is none of the special ones
    rw [List.all_cons, Bool.and_eq_true, Bool.not_eq_true', isWildcard, decide_eq_false_iff_not] at hx
    obtain ⟨hc, hrest⟩ := hx
    have hpercent : c ≠ '%' := fun h => hc (.inl h)
    have hunderscore : c ≠ '_' := fun h => hc (.inr (.inl h))
    have hbackslash : c ≠ '\\' := fun h => hc (.inr (.inr h))
    simp [like, ih hrest, hbackslash]

/-- **A text that ends in a word contains it.** -/
theorem contains_append_cons (s : Text) (c : Char) (x : Text)
    (hx : x.all (! isWildcard ·) = true) : contains (s ++ c :: x) x = true := by
  unfold contains
  rw [List.cons_append, like, List.any_eq_true]
  refine ⟨x, ?_, like_append_percent hx⟩
  rw [List.mem_tails]
  exact ⟨s ++ [c], by simp⟩

end Text

/-! ## Case and character classes -/

/-- **What Python knows of the characters beyond ASCII**: their lower and upper case, which of them
are decimal digits (`\d`), and which are alphanumeric (`\w`). -/
structure Unicode where
  lower : Char → Text
  upper : Char → Text
  isDecimal : Char → Bool
  isAlnum : Char → Bool
  lower_ne_nil : ∀ c, 128 ≤ c.toNat → lower c ≠ []
  upper_ne_nil : ∀ c, 128 ≤ c.toNat → upper c ≠ []
  /-- Only letters come out as ASCII characters, such as the k of the Kelvin sign. -/
  lower_ascii : ∀ c, 128 ≤ c.toNat → ∀ d ∈ lower c, d.toNat < 128 → d.isLower
  upper_ascii : ∀ c, 128 ≤ c.toNat → ∀ d ∈ upper c, d.toNat < 128 → d.isUpper
  lower_space : ∀ c, 128 ≤ c.toNat → Text.isSpace c = true → lower c = [c]
  upper_space : ∀ c, 128 ≤ c.toNat → Text.isSpace c = true → upper c = [c]
  lower_not_space : ∀ c, 128 ≤ c.toNat → Text.isSpace c = false → ∀ d ∈ lower c, Text.isSpace d = false
  upper_not_space : ∀ c, 128 ≤ c.toNat → Text.isSpace c = false → ∀ d ∈ upper c, Text.isSpace d = false
  isAlnum_space : ∀ c, Text.isSpace c = true → isAlnum c = false

namespace Unicode

/-- Python as if only ASCII had case, digits and letters. -/
def asciiOnly : Unicode where
  lower c := [c]
  upper c := [c]
  isDecimal _ := false
  isAlnum _ := false
  lower_ne_nil := by simp
  upper_ne_nil := by simp
  lower_ascii c hc d hd hlt := by
    rw [List.mem_singleton.mp hd] at hlt
    omega
  upper_ascii c hc d hd hlt := by
    rw [List.mem_singleton.mp hd] at hlt
    omega
  lower_space _ _ _ := rfl
  upper_space _ _ _ := rfl
  lower_not_space c _ hc d hd := List.mem_singleton.mp hd ▸ hc
  upper_not_space c _ hc d hd := List.mem_singleton.mp hd ▸ hc
  isAlnum_space _ _ := rfl

variable (u : Unicode)

/-- The lower case of a character. -/
def lowerChar (c : Char) : Text := if c.toNat < 128 then [c.toLower] else u.lower c

/-- The upper case of a character. -/
def upperChar (c : Char) : Text := if c.toNat < 128 then [c.toUpper] else u.upper c

/-- `\d`. -/
def isDecimalChar (c : Char) : Bool := if c.toNat < 128 then c.isDigit else u.isDecimal c

/-- `\w`. -/
def isWordChar (c : Char) : Bool :=
  if c.toNat < 128 then c.isAlphanum || c == '_' else u.isAlnum c

theorem isLower_iff {c : Char} : c.isLower = true ↔ 97 ≤ c.toNat ∧ c.toNat ≤ 122 := by
  have hdef : c.isLower = (decide ('a'.val ≤ c.val) && decide (c.val ≤ 'z'.val)) := rfl
  rw [hdef, Bool.and_eq_true, decide_eq_true_eq, decide_eq_true_eq, UInt32.le_iff_toNat_le,
    UInt32.le_iff_toNat_le]
  exact Iff.rfl

theorem isUpper_iff {c : Char} : c.isUpper = true ↔ 65 ≤ c.toNat ∧ c.toNat ≤ 90 := by
  have hdef : c.isUpper = decide ('A'.val ≤ c.val ∧ c.val ≤ 'Z'.val) := rfl
  rw [hdef, decide_eq_true_eq, UInt32.le_iff_toNat_le, UInt32.le_iff_toNat_le]
  exact Iff.rfl

theorem isDigit_iff {c : Char} : c.isDigit = true ↔ 48 ≤ c.toNat ∧ c.toNat ≤ 57 := by
  have hdef : c.isDigit = (decide ('0'.val ≤ c.val) && decide (c.val ≤ '9'.val)) := rfl
  rw [hdef, Bool.and_eq_true, decide_eq_true_eq, decide_eq_true_eq, UInt32.le_iff_toNat_le,
    UInt32.le_iff_toNat_le]
  exact Iff.rfl

theorem isAlpha_iff {c : Char} : c.isAlpha = true ↔
    (65 ≤ c.toNat ∧ c.toNat ≤ 90) ∨ (97 ≤ c.toNat ∧ c.toNat ≤ 122) := by
  have hdef : c.isAlpha = (c.isUpper || c.isLower) := rfl
  rw [hdef, Bool.or_eq_true, isUpper_iff, isLower_iff]

theorem isAlphanum_iff {c : Char} : c.isAlphanum = true ↔
    (65 ≤ c.toNat ∧ c.toNat ≤ 90) ∨ (97 ≤ c.toNat ∧ c.toNat ≤ 122) ∨
      (48 ≤ c.toNat ∧ c.toNat ≤ 57) := by
  have hdef : c.isAlphanum = (c.isAlpha || c.isDigit) := rfl
  rw [hdef, Bool.or_eq_true, isAlpha_iff, isDigit_iff, or_assoc]

/-- ASCII lower case changes letters only. -/
theorem toLower_eq_or_isLower (c : Char) : c.toLower = c ∨ c.toLower.isLower = true := by
  unfold Char.toLower
  split
  · rename_i h
    have hlow := UInt32.le_iff_toNat_le.mp h.1
    have hhigh := UInt32.le_iff_toNat_le.mp h.2
    have hA : 'A'.val.toNat = 65 := rfl
    have hZ : 'Z'.val.toNat = 90 := rfl
    have hshift : ('a'.val - 'A'.val).toNat = 32 := rfl
    right
    rw [isLower_iff]
    simp only [Char.toNat, UInt32.toNat_add, hshift]
    omega
  · exact .inl rfl

/-- ASCII upper case changes letters only. -/
theorem toUpper_eq_or_isUpper (c : Char) : c.toUpper = c ∨ c.toUpper.isUpper = true := by
  unfold Char.toUpper
  split
  · rename_i h
    have hlow := UInt32.le_iff_toNat_le.mp h.1
    have hhigh := UInt32.le_iff_toNat_le.mp h.2
    have ha : 'a'.val.toNat = 97 := rfl
    have hz : 'z'.val.toNat = 122 := rfl
    have hshift : ('A'.val - 'a'.val).toNat = 4294967264 := rfl
    right
    rw [isUpper_iff]
    simp only [Char.toNat, UInt32.toNat_add, hshift]
    omega
  · exact .inl rfl

/-- Whitespace is not a letter. -/
theorem isSpace_of_isLower {c : Char} (h : c.isLower = true) : Text.isSpace c = false := by
  obtain ⟨hlow, hhigh⟩ := isLower_iff.mp h
  simp only [Text.isSpace, Bool.or_eq_false_iff, Bool.and_eq_false_iff, decide_eq_false_iff_not,
    beq_eq_false_iff_ne]
  omega

variable {u} {c d : Char}

/-- The ASCII characters that come out of lower case are letters or were there before. -/
theorem eq_of_mem_lowerChar (h : d ∈ u.lowerChar c) (hd : d.toNat < 128)
    (hlower : d.isLower = false) : d = c := by
  unfold lowerChar at h
  split at h
  · rw [List.mem_singleton] at h
    obtain hsame | hletter := toLower_eq_or_isLower c
    · exact h.trans hsame
    · rw [← h, hlower] at hletter
      cases hletter
  · rename_i hc
    have := u.lower_ascii c (not_lt.mp hc) d h hd
    rw [hlower] at this
    cases this

theorem lowerChar_ne_nil : u.lowerChar c ≠ [] := by
  unfold lowerChar
  split
  · exact List.cons_ne_nil _ _
  · exact u.lower_ne_nil c (by omega)

end Unicode

namespace Text

variable (u : Unicode)

/-- `str.lower()`. -/
def lower (s : Text) : Text := s.flatMap u.lowerChar

/-- `str.upper()`. -/
def upper (s : Text) : Text := s.flatMap u.upperChar

variable {u}

theorem lower_append (s t : Text) : lower u (s ++ t) = lower u s ++ lower u t :=
  List.flatMap_append

/-- Characters that are ASCII and no capitals are their own lower case. -/
theorem lower_of_fixed {s : Text} (h : ∀ c ∈ s, c.toNat < 128 ∧ c.toLower = c) :
    lower u s = s := by
  induction s with
  | nil => rfl
  | cons c t ih =>
    obtain ⟨hc, hsame⟩ := h c List.mem_cons_self
    have hchar : u.lowerChar c = [c] := by rw [Unicode.lowerChar, if_pos hc, hsame]
    have hrest := ih fun d hd => h d (List.mem_cons_of_mem _ hd)
    rw [lower] at hrest ⊢
    rw [List.flatMap_cons, hchar, hrest]
    rfl

end Text

end DBClaw
