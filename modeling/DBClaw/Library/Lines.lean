import DBClaw.Library.Text
import Mathlib

/-! # Lines of text
`str.splitlines`, and the characters of a text that can be seen. Cutting a text into lines, stripping it and joining
its lines change white space only; `visible` says so. -/

namespace DBClaw.Text

/-! ## Lines -/

/-- A character that ends a line for `str.splitlines`; all of them are white space. -/
def isLineBreak (c : Char) : Bool :=
  let n := c.toNat
  (10 ≤ n && n ≤ 13) || (28 ≤ n && n ≤ 30) || n == 0x85 || n == 0x2028 || n == 0x2029

/-- The lines of a text after some characters of its first line. -/
def linesAfter (line : Text) : Text → List Text
  | '\r' :: '\n' :: s => line :: linesAfter [] s
  | c :: s => if isLineBreak c then line :: linesAfter [] s else linesAfter (line ++ [c]) s
  | [] => if line = [] then [] else [line]

/-- **`str.splitlines()`.** -/
def splitlines (s : Text) : List Text := linesAfter [] s

/-- `s.replace("\r\n", "\n")`. -/
def joinCrLf : Text → Text
  | '\r' :: '\n' :: s => '\n' :: joinCrLf s
  | c :: s => c :: joinCrLf s
  | [] => []

/-- `s.replace("\r", "\n")`. -/
def replaceCr (s : Text) : Text := s.map fun c => if c = '\r' then '\n' else c

/-! ## Lines and their text -/

/-- The text is on one line. -/
def IsLine (s : Text) : Prop := ∀ c ∈ s, isLineBreak c = false

/-- Newlines are the only line breaks of the text. -/
def PlainBreaks (s : Text) : Prop := ∀ c ∈ s, isLineBreak c = true → c = '\n'

instance (s : Text) : Decidable (PlainBreaks s) :=
  decidable_of_iff (s.all fun c => ! isLineBreak c || c == '\n') (by
    simp only [PlainBreaks, List.all_eq_true, Bool.or_eq_true, Bool.not_eq_true', beq_iff_eq, or_iff_not_imp_left,
      Bool.not_eq_false])

theorem linesAfter_append {line l : Text} (h : IsLine l) (s : Text) :
    linesAfter line (l ++ s) = linesAfter (line ++ l) s := by
  induction l generalizing line with
  | nil => rw [List.nil_append, List.append_nil]
  | cons c l ih =>
    obtain ⟨hc, hl⟩ := List.forall_mem_cons.mp h
    rw [List.cons_append, linesAfter, if_neg (by rw [hc]; exact Bool.false_ne_true), ih hl, List.append_assoc,
      List.singleton_append]
    rintro _ rfl
    exact absurd hc (by decide)

theorem linesAfter_newline (line s : Text) : linesAfter line ('\n' :: s) = line :: linesAfter [] s := by
  rw [linesAfter]
  · rfl
  · intro _ h
    cases h

/-- **The lines of joined lines** are these; a last one that is empty does not count. -/
theorem splitlines_intercalate {lines : List Text} {last : Text} (h : ∀ l ∈ lines ++ [last], IsLine l) :
    splitlines (['\n'].intercalate (lines ++ [last])) = lines ++ if last = [] then [] else [last] := by
  induction lines with
  | nil =>
    have hlast := h last List.mem_cons_self
    rw [List.nil_append, List.intercalate_singleton, splitlines, ← List.append_nil last, linesAfter_append hlast]
    rw [List.nil_append, List.append_nil, List.nil_append]
    rfl
  | cons l lines ih =>
    obtain ⟨hl, hlines⟩ := List.forall_mem_cons.mp h
    rw [List.cons_append, List.intercalate_cons_of_ne_nil (by simp), splitlines, List.append_assoc,
      linesAfter_append hl, List.nil_append, List.singleton_append, linesAfter_newline, ← splitlines, ih hlines]
    rfl

/-- One text more is joined at the end. -/
theorem intercalate_append_singleton {parts : List Text} (h : parts ≠ []) (separator s : Text) :
    separator.intercalate (parts ++ [s]) = separator.intercalate parts ++ separator ++ s := by
  induction parts with
  | nil => exact absurd rfl h
  | cons t parts ih =>
    by_cases hparts : parts = []
    · rw [hparts, List.singleton_append, List.intercalate_cons_cons, List.intercalate_singleton,
        List.intercalate_singleton]
    · rw [List.cons_append, List.intercalate_cons_of_ne_nil (by simp), ih hparts,
        List.intercalate_cons_of_ne_nil hparts]
      simp only [List.append_assoc]

/-- A line of a text has its characters but the newlines. -/
theorem of_mem_splitOn {s l : Text} (h : l ∈ s.splitOn '\n') : '\n' ∉ l ∧ l ⊆ s := by
  induction s generalizing l with
  | nil =>
    rw [List.splitOn_nil, List.mem_singleton] at h
    rw [h]
    exact ⟨List.not_mem_nil, fun _ => id⟩
  | cons c s ih =>
    rw [List.splitOn_cons_eq_if_modifyHead] at h
    split at h
    · rcases List.mem_cons.mp h with rfl | h
      · exact ⟨List.not_mem_nil, List.nil_subset _⟩
      · exact ⟨(ih h).1, fun _ hd => List.mem_cons_of_mem c ((ih h).2 hd)⟩
    · rename_i hc
      obtain ⟨first, rest, hsplit⟩ := List.exists_cons_of_ne_nil (List.splitOn_ne_nil '\n' s)
      rw [hsplit, List.modifyHead_cons] at h
      rw [hsplit] at ih
      rcases List.mem_cons.mp h with rfl | h
      · obtain ⟨hnew, hsub⟩ := ih List.mem_cons_self
        refine ⟨fun hmem => ?_, List.cons_subset_cons c hsub⟩
        rcases List.mem_cons.mp hmem with heq | hmem
        · exact hc (by rw [← heq]; rfl)
        · exact hnew hmem
      · obtain ⟨hnew, hsub⟩ := ih (List.mem_cons_of_mem _ h)
        exact ⟨hnew, fun _ hd => List.mem_cons_of_mem c (hsub hd)⟩

theorem PlainBreaks.isLine {s l : Text} (hs : PlainBreaks s) (h : l ∈ s.splitOn '\n') : IsLine l := by
  obtain ⟨hnew, hsub⟩ := of_mem_splitOn h
  intro c hc
  refine Bool.eq_false_iff.mpr fun hbreak => hnew ?_
  rwa [← hs c (hsub hc) hbreak]

/-- The last line of a text goes on with a character. -/
theorem splitOn_concat {c : Char} (hc : c ≠ '\n') (s : Text) : ∃ lines last,
    s.splitOn '\n' = lines ++ [last] ∧ (s ++ [c]).splitOn '\n' = lines ++ [last ++ [c]] := by
  obtain ⟨lines, last, hsplit⟩ : ∃ lines last, s.splitOn '\n' = lines ++ [last] :=
    ⟨_, _, (List.dropLast_append_getLast (List.splitOn_ne_nil '\n' s)).symm⟩
  have hjoin : s ++ [c] = ['\n'].intercalate (lines ++ [last ++ [c]]) := by
    conv_lhs => rw [← @List.intercalate_splitOn Char s _ _ '\n', hsplit]
    by_cases hlines : lines = []
    · rw [hlines, List.nil_append, List.nil_append, List.intercalate_singleton, List.intercalate_singleton]
    · rw [intercalate_append_singleton hlines, intercalate_append_singleton hlines, List.append_assoc _ last]
  refine ⟨lines, last, hsplit, ?_⟩
  rw [hjoin, List.splitOn_intercalate]
  · intro l hl
    have hmem : ∀ l ∈ lines ++ [last], '\n' ∉ l := fun l hl => (of_mem_splitOn (hsplit ▸ hl)).1
    rcases List.mem_append.mp hl with hl | hl
    · exact hmem l (List.mem_append_left _ hl)
    · rw [List.mem_singleton.mp hl, List.mem_append, not_or, List.mem_singleton]
      exact ⟨hmem last (List.mem_append_right _ (List.mem_singleton_self _)), Ne.symm hc⟩
  · simp

/-! ## Visible characters -/

/-- **The text with all white space removed.** -/
def visible (s : Text) : Text := s.filter fun c => ! isSpace c

@[simp] theorem visible_nil : visible [] = [] := rfl

@[simp] theorem visible_append (s t : Text) : visible (s ++ t) = visible s ++ visible t := List.filter_append s t

theorem visible_cons (c : Char) (s : Text) : visible (c :: s) = visible [c] ++ visible s := visible_append [c] s

theorem visible_of_isSpace {c : Char} (h : isSpace c = true) : visible [c] = [] := by
  simp [visible, h]

theorem isSpace_of_isLineBreak {c : Char} (h : isLineBreak c = true) : isSpace c = true := by
  simp only [isLineBreak, isSpace, Bool.or_eq_true, Bool.and_eq_true, decide_eq_true_eq, beq_iff_eq] at h ⊢
  omega

/-- White space has nothing to see. -/
theorem visible_eq_nil_iff {s : Text} : visible s = [] ↔ ∀ c ∈ s, isSpace c = true := by
  simp [visible, List.filter_eq_nil_iff]

/-- `not s.strip()`. -/
theorem strip_eq_nil_iff {s : Text} : strip s = [] ↔ visible s = [] := by
  rw [visible_eq_nil_iff, strip, rstrip, List.rdropWhile_eq_nil_iff]
  constructor
  · intro h c hc
    rw [← List.takeWhile_append_dropWhile (p := isSpace) (l := s)] at hc
    rcases List.mem_append.mp hc with hc | hc
    · exact List.mem_takeWhile_imp hc
    · exact h c hc
  · intro h c hc
    exact h c ((List.dropWhile_suffix isSpace).mem hc)

theorem visible_rstrip (s : Text) : visible (rstrip s) = visible s := by
  induction s using List.reverseRecOn with
  | nil => rfl
  | append_singleton s c ih =>
    by_cases hc : isSpace c = true
    · rw [rstrip, List.rdropWhile_concat_pos _ _ _ hc, visible_append, visible_of_isSpace hc, List.append_nil]
      exact ih
    · rw [rstrip, List.rdropWhile_concat_neg _ _ _ hc]

theorem visible_strip (s : Text) : visible (strip s) = visible s := by
  rw [strip, visible_rstrip]
  induction s with
  | nil => rfl
  | cons c s ih =>
    rw [lstrip, List.dropWhile_cons]
    split
    · rename_i hc
      rw [visible_cons c, visible_of_isSpace hc, List.nil_append]
      exact ih
    · rfl

theorem length_rstrip_le (s : Text) : (rstrip s).length ≤ s.length := (List.rdropWhile_prefix isSpace s).length_le

theorem visible_joinCrLf (s : Text) : visible (joinCrLf s) = visible s := by
  induction s using joinCrLf.induct with
  | case1 s ih =>
    have hbreak : visible ('\r' :: '\n' :: s) = visible s := rfl
    rw [joinCrLf, visible_cons, ih, hbreak]
    rfl
  | case2 c s hc ih =>
    rw [joinCrLf, visible_cons, ih, ← visible_cons]
    exact hc
  | case3 => rfl

theorem visible_replaceCr (s : Text) : visible (replaceCr s) = visible s := by
  induction s with
  | nil => rfl
  | cons c s ih =>
    change visible ((if c = '\r' then '\n' else c) :: replaceCr s) = _
    rw [visible_cons, ih, visible_cons c]
    split_ifs with hc
    · rw [hc, visible_of_isSpace rfl, visible_of_isSpace rfl]
    · rfl

/-- The visible characters of several texts. -/
def visibleAll (parts : List Text) : Text := parts.flatMap visible

@[simp] theorem visibleAll_nil : visibleAll [] = [] := rfl

@[simp] theorem visibleAll_cons (s : Text) (parts : List Text) : visibleAll (s :: parts) = visible s ++ visibleAll parts :=
  List.flatMap_cons

@[simp] theorem visibleAll_append (parts parts' : List Text) :
    visibleAll (parts ++ parts') = visibleAll parts ++ visibleAll parts' := List.flatMap_append

theorem visibleAll_singleton (s : Text) : visibleAll [s] = visible s := List.flatMap_singleton _ _

theorem visible_flatten (parts : List Text) : visible parts.flatten = visibleAll parts := by
  induction parts with
  | nil => rfl
  | cons s parts ih => rw [List.flatten_cons, visible_append, visibleAll_cons, ih]

/-- Texts are joined by white space. -/
theorem visible_intercalate {separator : Text} (h : visible separator = []) (parts : List Text) :
    visible (separator.intercalate parts) = visibleAll parts := by
  induction parts with
  | nil => rfl
  | cons s parts ih =>
    by_cases hparts : parts = []
    · rw [hparts, List.intercalate_singleton, visibleAll_singleton]
    · rw [List.intercalate_cons_of_ne_nil hparts, visible_append, visible_append, h, List.append_nil, ih,
        visibleAll_cons]

/-- **The lines of a text have its visible characters.** -/
theorem visibleAll_linesAfter (line s : Text) : visibleAll (linesAfter line s) = visible line ++ visible s := by
  induction line, s using linesAfter.induct with
  | case1 line s ih =>
    have hbreak : visible ('\r' :: '\n' :: s) = visible s := rfl
    rw [linesAfter, visibleAll_cons, ih, hbreak, visible_nil, List.nil_append]
  | case2 line c s hc hbreak ih =>
    rw [linesAfter, if_pos hbreak, visibleAll_cons, ih, visible_cons c,
      visible_of_isSpace (isSpace_of_isLineBreak hbreak)]
    · rfl
    · exact hc
  | case3 line c s hc hbreak ih =>
    rw [linesAfter, if_neg hbreak, ih, visible_append, List.append_assoc, ← visible_cons]
    exact hc
  | case4 => rfl
  | case5 line hline => rw [linesAfter, if_neg hline, visibleAll_singleton, visible_nil, List.append_nil]

theorem visibleAll_splitlines (s : Text) : visibleAll (splitlines s) = visible s := by
  rw [splitlines, visibleAll_linesAfter, visible_nil, List.nil_append]

theorem length_le_of_mem_linesAfter (line s : Text) : ∀ l ∈ linesAfter line s, l.length ≤ line.length + s.length := by
  induction line, s using linesAfter.induct with
  | case1 line s ih =>
    rw [linesAfter]
    simp only [List.forall_mem_cons, List.length_cons]
    refine ⟨by omega, fun l hl => ?_⟩
    have := ih l hl
    simp only [List.length_nil] at this
    omega
  | case2 line c s hc hbreak ih =>
    rw [linesAfter, if_pos hbreak]
    · simp only [List.forall_mem_cons, List.length_cons]
      refine ⟨by omega, fun l hl => ?_⟩
      have := ih l hl
      simp only [List.length_nil] at this
      omega
    · exact hc
  | case3 line c s hc hbreak ih =>
    rw [linesAfter, if_neg hbreak]
    · intro l hl
      have := ih l hl
      simp only [List.length_append, List.length_singleton] at this
      rw [List.length_cons]
      omega
    · exact hc
  | case4 => exact List.forall_mem_nil _
  | case5 line hline =>
    rw [linesAfter, if_neg hline, List.forall_mem_singleton]
    exact Nat.le_add_right _ _

/-- No line is longer than its text. -/
theorem length_le_of_mem_splitlines {s l : Text} (h : l ∈ splitlines s) : l.length ≤ s.length := by
  have hle := length_le_of_mem_linesAfter [] s l h
  rwa [List.length_nil, Nat.zero_add] at hle

theorem visibleAll_dropWhile (parts : List Text) : visibleAll (parts.dropWhile (· = [])) = visibleAll parts := by
  induction parts with
  | nil => rfl
  | cons s parts ih =>
    by_cases hs : s = []
    · rw [List.dropWhile_cons_of_pos (by simpa using hs), ih, visibleAll_cons, hs]
      rfl
    · rw [List.dropWhile_cons_of_neg (by simpa using hs)]

theorem visibleAll_rdropWhile (parts : List Text) : visibleAll (parts.rdropWhile (· = [])) = visibleAll parts := by
  induction parts using List.reverseRecOn with
  | nil => rfl
  | append_singleton parts s ih =>
    by_cases hs : s = []
    · rw [List.rdropWhile_concat_pos _ _ _ (by simpa using hs), ih, visibleAll_append, hs, visibleAll_singleton,
        visible_nil, List.append_nil]
    · rw [List.rdropWhile_concat_neg _ _ _ (by simpa using hs)]

end DBClaw.Text
