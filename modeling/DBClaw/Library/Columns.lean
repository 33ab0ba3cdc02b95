import DBClaw.Library.Text
import Mathlib

/-! # Columns of text
`str.split`, and tables of lines whose columns are padded with blanks. A line that is made of columns has their words
(`words_spaced`), and a table has its lines, however it is padded at its end (`lines_table`). -/

namespace DBClaw.Text

/-! ## Words -/

/-- **`str.split()`.** -/
def words (s : Text) : List Text := (s.splitOnP isSpace).filter (· ≠ [])

@[simp] theorem words_nil : words [] = [] := by
  rw [words, List.splitOnP_nil]
  rfl

/-- A space parts the words before it from those after it. -/
theorem words_append_space {c : Char} (hc : isSpace c = true) (s t : Text) : words (s ++ c :: t) = words s ++ words t := by
  rw [words, List.splitOnP_append_cons s t hc, List.filter_append]
  rfl

theorem words_blanks (n : ℕ) (s : Text) : words (List.replicate n ' ' ++ s) = words s := by
  induction n with
  | zero => rfl
  | succ n ih =>
    have hspace := words_append_space (c := ' ') rfl [] (List.replicate n ' ' ++ s)
    rw [List.nil_append, words_nil, List.nil_append, ih] at hspace
    exact hspace

theorem words_append_blanks (s : Text) (n : ℕ) : words (s ++ List.replicate n ' ') = words s := by
  cases n with
  | zero => rw [List.replicate_zero, List.append_nil]
  | succ n =>
    have hblanks := words_blanks n []
    rw [List.append_nil, words_nil] at hblanks
    rw [List.replicate_succ, words_append_space rfl, hblanks, List.append_nil]

/-- A text without spaces is one word. -/
theorem words_word {s : Text} (hne : s ≠ []) (h : ∀ c ∈ s, isSpace c = false) : words s = [s] := by
  rw [words, List.splitOnP_eq_singleton h]
  exact List.filter_cons_of_pos (decide_eq_true hne)

/-- A text that does not start with a space starts with its first word. -/
theorem exists_words_eq_cons {c : Char} (hc : isSpace c = false) (s : Text) :
    ∃ more rest, words (c :: s) = (c :: more) :: rest := by
  obtain ⟨first, rest, hfirst⟩ := List.exists_cons_of_ne_nil (List.splitOnP_ne_nil isSpace s)
  refine ⟨first, rest.filter (· ≠ []), ?_⟩
  rw [words, List.splitOnP_cons_eq_if_modifyHead, if_neg (by rw [hc]; exact Bool.false_ne_true), hfirst,
    List.modifyHead_cons]
  exact List.filter_cons_of_pos (decide_eq_true (List.cons_ne_nil _ _))

/-! ## Padded columns -/

/-- **Columns side by side**, with one blank or more between them. -/
def spaced : List Text → (ℕ → ℕ) → Text
  | [], _ => []
  | [column], _ => column
  | column :: columns, gap => column ++ ' ' :: (List.replicate (gap 0) ' ' ++ spaced columns fun n => gap (n + 1))

theorem spaced_cons_cons (column next : Text) (columns : List Text) (gap : ℕ → ℕ) :
    spaced (column :: next :: columns) gap =
      column ++ ' ' :: (List.replicate (gap 0) ' ' ++ spaced (next :: columns) fun n => gap (n + 1)) := rfl

/-- **The words of the columns are those of the line.** -/
theorem words_spaced (columns : List Text) (gap : ℕ → ℕ) : words (spaced columns gap) = columns.flatMap words := by
  induction columns generalizing gap with
  | nil => rfl
  | cons column columns ih =>
    cases columns with
    | nil => exact (List.append_nil _).symm
    | cons next columns =>
      rw [spaced_cons_cons, words_append_space rfl, words_blanks, ih]
      exact List.flatMap_cons.symm

theorem mem_spaced {columns : List Text} {gap : ℕ → ℕ} {c : Char} (h : c ∈ spaced columns gap) :
    c = ' ' ∨ ∃ column ∈ columns, c ∈ column := by
  induction columns generalizing gap with
  | nil => cases h
  | cons column columns ih =>
    cases columns with
    | nil => exact .inr ⟨column, List.mem_cons_self, h⟩
    | cons next columns =>
      rw [spaced_cons_cons] at h
      rcases List.mem_append.mp h with hc | h
      · exact .inr ⟨column, List.mem_cons_self, hc⟩
      · rcases List.mem_cons.mp h with hc | h
        · exact .inl hc
        · rcases List.mem_append.mp h with hc | h
          · exact .inl (List.eq_of_mem_replicate hc)
          · refine (ih h).imp_right ?_
            rintro ⟨column', hcolumn, hc⟩
            exact ⟨column', List.mem_cons_of_mem _ hcolumn, hc⟩

/-- A line ends as its last column does. -/
theorem spaced_append_singleton (columns : List Text) (column : Text) (gap : ℕ → ℕ) :
    ∃ start, spaced (columns ++ [column]) gap = start ++ column := by
  induction columns generalizing gap with
  | nil => exact ⟨[], rfl⟩
  | cons first columns ih =>
    obtain ⟨start, hstart⟩ := ih fun n => gap (n + 1)
    refine ⟨first ++ ' ' :: (List.replicate (gap 0) ' ' ++ start), ?_⟩
    have hcons : ∃ next rest, columns ++ [column] = next :: rest := List.exists_cons_of_ne_nil (by simp)
    obtain ⟨next, rest, hrest⟩ := hcons
    rw [List.cons_append, hrest, spaced_cons_cons, ← hrest, hstart]
    simp

/-! ## Lines -/

/-- Lines, each with its end. -/
def table (lines : List Text) : Text := lines.flatMap fun line => line ++ ['\n']

/-- Text that does not end in a space keeps its end. -/
theorem rstrip_append {s t : Text} (ht : rstrip t ≠ []) : rstrip (s ++ t) = s ++ rstrip t := by
  induction t using List.reverseRecOn with
  | nil => exact absurd rfl ht
  | append_singleton t c ih =>
    by_cases hc : isSpace c = true
    · have hdrop : ∀ r : Text, rstrip (r ++ [c]) = rstrip r := fun r => List.rdropWhile_concat_pos _ _ _ hc
      rw [hdrop] at ht
      rw [← List.append_assoc, hdrop, hdrop, ih ht]
    · have hkeep : ∀ r : Text, rstrip (r ++ [c]) = r ++ [c] := fun r => List.rdropWhile_concat_neg _ _ _ hc
      rw [← List.append_assoc, hkeep, hkeep, List.append_assoc]

/-- Text without spaces keeps its end. -/
theorem rstrip_of_forall {s : Text} (h : ∀ c ∈ s, isSpace c = false) : rstrip s = s :=
  List.rdropWhile_eq_self_iff.mpr fun hne => by simp [h _ (List.getLast_mem hne)]

/-- Text without spaces is not stripped. -/
theorem strip_of_forall {s : Text} (h : ∀ c ∈ s, isSpace c = false) : strip s = s := by
  have hleft : lstrip s = s := List.dropWhile_eq_self_iff.mpr fun hpos => by
    simp [h _ (List.getElem_mem hpos)]
  rw [strip, hleft, rstrip_of_forall h]

theorem isSpace_of_isDigit {c : Char} (h : c.isDigit = true) : isSpace c = false := by
  obtain ⟨hlow, hhigh⟩ := Unicode.isDigit_iff.mp h
  simp only [isSpace, Bool.or_eq_false_iff, Bool.and_eq_false_iff, decide_eq_false_iff_not, beq_eq_false_iff_ne]
  omega

theorem rstrip_append_blanks (s : Text) (n : ℕ) : rstrip (s ++ List.replicate n ' ') = rstrip s := by
  induction n with
  | zero => rw [List.replicate_zero, List.append_nil]
  | succ n ih =>
    rw [List.replicate_succ', ← List.append_assoc, ← ih]
    exact List.rdropWhile_concat_pos _ _ _ rfl

theorem rstrip_append_newline (s : Text) : rstrip (s ++ ['\n']) = rstrip s := List.rdropWhile_concat_pos _ _ _ rfl

/-- **The lines of a stripped table**: only the end of its last line is changed. -/
theorem lines_table (lines : List Text) {last : Text} (hlines : ∀ line ∈ lines, '\n' ∉ line) (hlast : '\n' ∉ last)
    (hend : rstrip last ≠ []) (hstart : ∀ c ∈ (table (lines ++ [last])).head?, isSpace c = false) :
    (strip (table (lines ++ [last]))).splitOn '\n' = lines ++ [rstrip last] := by
  have hlstrip : lstrip (table (lines ++ [last])) = table (lines ++ [last]) := by
    cases hs : table (lines ++ [last]) with
    | nil => rfl
    | cons c s =>
      have hc := hstart c (by rw [hs]; rfl)
      rw [lstrip, List.dropWhile_cons_of_neg (by rw [hc]; exact Bool.false_ne_true)]
  have htable : table (lines ++ [last]) = table lines ++ last ++ ['\n'] := by
    rw [table, List.flatMap_append, List.flatMap_singleton, List.append_assoc]
    rfl
  rw [strip, hlstrip, htable, rstrip_append_newline, rstrip_append hend]
  clear hstart hlstrip htable
  induction lines with
  | nil =>
    have hnot : ∀ c ∈ rstrip last, (c == '\n') = false := fun c hc =>
      beq_false_of_ne fun heq => hlast (heq ▸ (List.rdropWhile_prefix _ _).mem hc)
    exact List.splitOnP_eq_singleton hnot
  | cons line lines ih =>
    have hline : '\n' ∉ line := hlines line List.mem_cons_self
    have hcons : table (line :: lines) ++ rstrip last = line ++ '\n' :: (table lines ++ rstrip last) := by
      simp [table]
    have hnot : ∀ c ∈ line, (c == '\n') = false := fun c hc => beq_false_of_ne fun heq => hline (heq ▸ hc)
    have ih := ih fun other hother => hlines other (List.mem_cons_of_mem _ hother)
    rw [List.splitOn] at ih ⊢
    rw [hcons, List.splitOnP_append_cons (p := (· == '\n')) _ _ (beq_self_eq_true _), ih,
      List.splitOnP_eq_singleton (p := (· == '\n')) hnot]
    rfl

end DBClaw.Text
