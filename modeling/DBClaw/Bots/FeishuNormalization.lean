import DBClaw.Bots.FeishuChunks
import DBClaw.Library.Fences
import Mathlib

/-! # What normalisation does to code blocks
`_normalize_markdown_text` puts an empty line before every fence that does not follow one, also before a fence that
closes a block, and drops the empty lines at the end. `fencedBlocks_normalLines` says what that makes of the blocks of
a text; a normalised text is not changed any more (`normalizeMarkdownText_idem`). -/

namespace DBClaw.FeishuChunks

open Text Fences

/-! ## Fences -/

/-- A line that is empty. -/
def isEmptyLine (line : Text) : Bool := line = []

theorem isEmptyLine_nil : isEmptyLine [] = true := rfl

theorem isFence_cons₃ (a b c : Char) (l : Text) :
    isFence (a :: b :: c :: l) = (a == '`' && (b == '`' && c == '`')) := by
  simp [isFence, List.isPrefixOf, Bool.beq_comm]

/-- A line does not become a fence by what is no backtick. -/
theorem isFence_concat {c : Char} (hc : c ≠ '`') (l : Text) : isFence (l ++ [c]) = isFence l := by
  have hne : ('`' == c) = false := beq_eq_false_iff_ne.mpr (Ne.symm hc)
  match l with
  | [] => simp [isFence, List.isPrefixOf, hne]
  | [a] => simp [isFence, List.isPrefixOf, hne]
  | [a, b] => simp [isFence, List.isPrefixOf, hne]
  | a :: b :: d :: l => rw [List.cons_append, List.cons_append, List.cons_append, isFence_cons₃, isFence_cons₃]

theorem isFence_rstrip (l : Text) : isFence (rstrip l) = isFence l := by
  induction l using List.reverseRecOn with
  | nil => rfl
  | append_singleton l c ih =>
    by_cases hc : isSpace c = true
    · have hne : c ≠ '`' := by
        rintro rfl
        exact absurd hc (by decide)
      rw [rstrip, List.rdropWhile_concat_pos _ _ _ hc, isFence_concat hne]
      exact ih
    · rw [rstrip, List.rdropWhile_concat_neg _ _ _ hc]

theorem not_isFence_of_isEmptyLine {line : Text} (h : isEmptyLine line = true) : isFence line = false := by
  rw [of_decide_eq_true h]
  rfl

/-- A start of a line is no fence if the line is none. -/
theorem not_isFence_of_append {s t : Text} (h : isFence (s ++ t) = false) : isFence s = false := by
  refine Bool.eq_false_iff.mpr fun hs => ?_
  rw [isFence, List.isPrefixOf_iff_prefix] at hs
  rw [isFence, Bool.eq_false_iff, ne_eq, List.isPrefixOf_iff_prefix] at h
  exact h (hs.trans (List.prefix_append s t))

theorem rstrip_rstrip (s : Text) : rstrip (rstrip s) = rstrip s := List.rdropWhile_idempotent _ _

/-- A stripped line is blank just if it is empty. -/
theorem strip_rstrip_eq_nil_iff {s : Text} : strip (rstrip s) = [] ↔ rstrip s = [] := by
  rw [strip_eq_nil_iff, visible_rstrip, ← strip_eq_nil_iff]
  constructor
  · intro h
    rw [strip_eq_nil_iff, visible_eq_nil_iff] at h
    rw [rstrip, List.rdropWhile_eq_nil_iff]
    exact h
  · intro h
    rw [rstrip, List.rdropWhile_eq_nil_iff] at h
    rw [strip_eq_nil_iff, visible_eq_nil_iff]
    exact h

/-! ## What the loop appends -/

/-- The lines that the loop appends: `ends` tells whether the last line so far is empty or there is none. -/
def emit (ends : Bool) (blankCount : ℕ) (inCodeBlock : Bool) : List Text → List Text
  | [] => []
  | rawLine :: rest =>
    let line := rstrip rawLine
    if isFence line then (if ends then [] else [[]]) ++ line :: emit false 0 (! inCodeBlock) rest
    else if inCodeBlock then line :: emit (isEmptyLine line) blankCount inCodeBlock rest
    else if isEmptyLine line then
      if blankCount = 0 ∧ ends = false then [] :: emit true (blankCount + 1) inCodeBlock rest
      else emit ends (blankCount + 1) inCodeBlock rest
    else line :: emit false 0 inCodeBlock rest

/-- The last line so far is empty, or there is none. -/
def Compaction.endsEmpty (st : Compaction) : Bool := st.compacted.getLast?.all isEmptyLine

variable {ends inCodeBlock : Bool} {blankCount : ℕ} {line rawLine : Text} {rest raw lines : List Text}

theorem endsEmpty_concat (compacted : List Text) (line : Text) (n : ℕ) (code : Bool) :
    Compaction.endsEmpty ⟨compacted ++ [line], n, code⟩ = isEmptyLine line := by
  rw [Compaction.endsEmpty, List.getLast?_concat]
  rfl

/-- **The loop appends lines** to those that it has. -/
theorem foldl_step (raw : List Text) (st : Compaction) : (raw.foldl Compaction.step st).compacted =
    st.compacted ++ emit st.endsEmpty st.blankCount st.inCodeBlock raw := by
  induction raw generalizing st with
  | nil => exact (List.append_nil _).symm
  | cons rawLine rest ih =>
    obtain ⟨compacted, blankCount, inCodeBlock⟩ := st
    have hends : (List.getLast? compacted).all (fun l => decide (l = [])) =
        Compaction.endsEmpty ⟨compacted, blankCount, inCodeBlock⟩ := rfl
    rw [List.foldl_cons, ih, emit]
    dsimp only [Compaction.step]
    rw [hends]
    generalize hemptyEnd : Compaction.endsEmpty ⟨compacted, blankCount, inCodeBlock⟩ = ends
    by_cases hfence : isFence (rstrip rawLine) = true
    · have hline : isEmptyLine (rstrip rawLine) = false := by
        refine Bool.eq_false_iff.mpr fun hempty => ?_
        rw [not_isFence_of_isEmptyLine hempty] at hfence
        cases hfence
      rw [if_pos hfence, if_pos hfence, endsEmpty_concat, hline]
      cases ends with
      | true => rw [if_pos rfl, if_pos rfl, List.nil_append, List.append_assoc, List.singleton_append]
      | false =>
        rw [if_neg Bool.false_ne_true, if_neg Bool.false_ne_true, List.append_assoc, List.append_assoc]
        rfl
    rw [if_neg hfence, if_neg hfence]
    cases inCodeBlock with
    | true => rw [if_pos rfl, if_pos rfl, endsEmpty_concat, List.append_assoc, List.singleton_append]
    | false =>
      rw [if_neg Bool.false_ne_true, if_neg Bool.false_ne_true]
      by_cases hempty : isEmptyLine (rstrip rawLine) = true
      · rw [if_pos (strip_rstrip_eq_nil_iff.mpr (of_decide_eq_true hempty)), if_pos hempty]
        by_cases hfirst : blankCount = 0 ∧ ends = false
        · have hcond : blankCount + 1 = 1 ∧ ¬ ends = true := by
            rw [hfirst.1, hfirst.2]
            exact ⟨rfl, Bool.false_ne_true⟩
          rw [if_pos hfirst, if_pos hcond, endsEmpty_concat, List.append_assoc, List.singleton_append]
          rfl
        · have hcond : ¬ (blankCount + 1 = 1 ∧ ¬ ends = true) := by
            rintro ⟨hzero, hends⟩
            exact hfirst ⟨Nat.succ.inj hzero, Bool.eq_false_iff.mpr hends⟩
          rw [if_neg hfirst, if_neg hcond]
          congr 1
          rw [← hemptyEnd]
          rfl
      · have hline : isEmptyLine (rstrip rawLine) = false := Bool.eq_false_iff.mpr hempty
        rw [if_neg fun h => hempty (decide_eq_true (strip_rstrip_eq_nil_iff.mp h)), if_neg hempty, endsEmpty_concat,
          hline, List.append_assoc, List.singleton_append]

/-! ## Normalised lines -/

/-- **The lines are as the loop leaves them**: no white space at their ends, an empty line before every fence, and never
two of them outside of a code block. -/
def Settled (ends : Bool) (blankCount : ℕ) (inCodeBlock : Bool) : List Text → Prop
  | [] => True
  | line :: rest => rstrip line = line ∧
    if isFence line then ends = true ∧ Settled false 0 (! inCodeBlock) rest
    else if inCodeBlock then Settled (isEmptyLine line) blankCount inCodeBlock rest
    else if isEmptyLine line then (blankCount = 0 ∧ ends = false) ∧ Settled true (blankCount + 1) inCodeBlock rest
    else Settled false 0 inCodeBlock rest

/-- **Settled lines stay as they are.** -/
theorem Settled.emit_eq (h : Settled ends blankCount inCodeBlock lines) :
    emit ends blankCount inCodeBlock lines = lines := by
  induction lines generalizing ends blankCount inCodeBlock with
  | nil => rfl
  | cons line rest ih =>
    obtain ⟨hstrip, hrest⟩ := h
    rw [emit]
    rw [hstrip]
    by_cases hfence : isFence line = true
    · rw [if_pos hfence] at hrest ⊢
      rw [if_pos hrest.1, List.nil_append, ih hrest.2]
    rw [if_neg hfence] at hrest ⊢
    by_cases hcode : inCodeBlock = true
    · rw [if_pos hcode] at hrest ⊢
      rw [ih hrest]
    rw [if_neg hcode] at hrest ⊢
    by_cases hempty : isEmptyLine line = true
    · rw [if_pos hempty] at hrest ⊢
      rw [if_pos hrest.1, ih hrest.2, of_decide_eq_true hempty]
    · rw [if_neg hempty] at hrest ⊢
      rw [ih hrest]

theorem Settled.of_append {lines' : List Text} (h : Settled ends blankCount inCodeBlock (lines ++ lines')) :
    Settled ends blankCount inCodeBlock lines := by
  induction lines generalizing ends blankCount inCodeBlock with
  | nil => trivial
  | cons line rest ih =>
    rw [List.cons_append] at h
    obtain ⟨hstrip, hrest⟩ := h
    refine ⟨hstrip, ?_⟩
    split_ifs at hrest ⊢
    · exact ⟨hrest.1, ih hrest.2⟩
    · exact ih hrest
    · exact ⟨hrest.1, ih hrest.2⟩
    · exact ih hrest

theorem isFence_nil : isFence [] = false := rfl

/-- **What the loop appends is settled**, for any count that the loop may come to it with. -/
theorem settled_emit (raw : List Text) {blankCount' : ℕ} (hcount : blankCount ≠ 0 → ends = true)
    (hcount' : blankCount' ≠ 0 → ends = true) (hcode : inCodeBlock = true → blankCount = 0 ∧ blankCount' = 0) :
    Settled ends blankCount' inCodeBlock (emit ends blankCount inCodeBlock raw) := by
  induction raw generalizing ends blankCount blankCount' inCodeBlock with
  | nil => trivial
  | cons rawLine rest ih =>
    rw [emit]
    by_cases hfence : isFence (rstrip rawLine) = true
    · rw [if_pos hfence]
      have hrest : Settled false 0 (! inCodeBlock) (emit false 0 (! inCodeBlock) rest) :=
        ih (fun h => absurd rfl h) (fun h => absurd rfl h) fun _ => ⟨rfl, rfl⟩
      have hline (n : ℕ) : Settled true n inCodeBlock (rstrip rawLine :: emit false 0 (! inCodeBlock) rest) := by
        refine ⟨rstrip_rstrip rawLine, ?_⟩
        rw [if_pos hfence]
        exact ⟨rfl, hrest⟩
      cases hends : ends with
      | true =>
        rw [if_pos rfl]
        exact hline blankCount'
      | false =>
        -- the empty line before the fence
        have hzero : blankCount' = 0 := by
          by_contra hne
          rw [hcount' hne] at hends
          cases hends
        rw [if_neg Bool.false_ne_true]
        refine ⟨rfl, ?_⟩
        rw [if_neg (by rw [isFence_nil]; exact Bool.false_ne_true)]
        cases inCodeBlock with
        | true => exact hline blankCount'
        | false => exact ⟨⟨hzero, rfl⟩, hline (blankCount' + 1)⟩
    rw [if_neg hfence]
    cases inCodeBlock with
    | true =>
      rw [if_pos rfl]
      refine ⟨rstrip_rstrip rawLine, ?_⟩
      rw [if_neg hfence, if_pos rfl]
      obtain ⟨hzero, hzero'⟩ := hcode rfl
      exact ih (fun h => absurd hzero h) (fun h => absurd hzero' h) fun _ => ⟨hzero, hzero'⟩
    | false =>
      rw [if_neg Bool.false_ne_true]
      by_cases hempty : isEmptyLine (rstrip rawLine) = true
      · rw [if_pos hempty]
        by_cases hfirst : blankCount = 0 ∧ ends = false
        · have hzero : blankCount' = 0 := by
            by_contra hne
            rw [hcount' hne] at hfirst
            cases hfirst.2
          rw [if_pos hfirst]
          refine ⟨rfl, ?_⟩
          rw [if_neg (by rw [isFence_nil]; exact Bool.false_ne_true), if_neg Bool.false_ne_true]
          exact ⟨⟨hzero, hfirst.2⟩, ih (fun _ => rfl) (fun _ => rfl) fun h => by cases h⟩
        · rw [if_neg hfirst]
          have hends : ends = true := by
            by_contra hne
            refine hfirst ⟨?_, Bool.eq_false_iff.mpr hne⟩
            by_contra hpos
            exact hne (hcount hpos)
          exact ih (fun _ => hends) (fun _ => hends) fun h => by cases h
      · rw [if_neg hempty]
        refine ⟨rstrip_rstrip rawLine, ?_⟩
        rw [if_neg hfence, if_neg Bool.false_ne_true, if_neg hempty]
        exact ih (fun h => absurd rfl h) (fun h => absurd rfl h) fun _ => ⟨rfl, rfl⟩

/-- The first line that the loop appends is not empty. -/
theorem head_emit (raw : List Text) : (emit true blankCount false raw).dropWhile isEmptyLine =
    emit true blankCount false raw := by
  induction raw generalizing blankCount with
  | nil => rfl
  | cons rawLine rest ih =>
    rw [emit]
    by_cases hfence : isFence (rstrip rawLine) = true
    · rw [if_pos hfence, if_pos rfl, List.nil_append, List.dropWhile_cons_of_neg]
      intro hempty
      rw [not_isFence_of_isEmptyLine hempty] at hfence
      cases hfence
    rw [if_neg hfence, if_neg Bool.false_ne_true]
    by_cases hempty : isEmptyLine (rstrip rawLine) = true
    · rw [if_pos hempty, if_neg fun h => by cases h.2]
      exact ih
    · rw [if_neg hempty, List.dropWhile_cons_of_neg hempty]

/-- **The lines of a normalised text.** -/
def normalLines (raw : List Text) : List Text := (emit true 0 false raw).rdropWhile isEmptyLine

/-- **Normalised lines are normal.** -/
theorem normalLines_idem (raw : List Text) : normalLines (normalLines raw) = normalLines raw := by
  have hsettled : Settled true 0 false (emit true 0 false raw) :=
    settled_emit raw (fun h => absurd rfl h) (fun h => absurd rfl h) fun h => by cases h
  obtain ⟨blanks, hblanks⟩ := List.rdropWhile_prefix isEmptyLine (emit true 0 false raw)
  rw [← hblanks] at hsettled
  have hprefix := hsettled.of_append.emit_eq
  rw [normalLines, normalLines, hprefix]
  exact List.rdropWhile_idempotent _ _

/-- **`_normalize_markdown_text` works on lines.** -/
theorem normalizeMarkdownText_eq (text : Text) :
    normalizeMarkdownText text = joinLines (normalLines ((replaceCr (joinCrLf text)).splitOn '\n')) := by
  have hemit : emit true 0 false ((replaceCr (joinCrLf text)).splitOn '\n') =
      (((replaceCr (joinCrLf text)).splitOn '\n').foldl Compaction.step {}).compacted := by
    rw [foldl_step]
    rfl
  have hblank : strip (replaceCr (joinCrLf text)) = [] →
      emit true 0 false ((replaceCr (joinCrLf text)).splitOn '\n') = [] := by
    intro hstrip
    have hlines : ∀ line ∈ (replaceCr (joinCrLf text)).splitOn '\n', rstrip line = [] := by
      intro line hline
      rw [strip_eq_nil_iff, visible_eq_nil_iff] at hstrip
      rw [rstrip, List.rdropWhile_eq_nil_iff]
      exact fun c hc => hstrip c ((of_mem_splitOn hline).2 hc)
    generalize (replaceCr (joinCrLf text)).splitOn '\n' = raw at hlines
    generalize 0 = n
    induction raw generalizing n with
    | nil => rfl
    | cons line rest ih =>
      obtain ⟨hline, hrest⟩ := List.forall_mem_cons.mp hlines
      rw [emit, hline, if_neg (by rw [isFence_nil]; exact Bool.false_ne_true), if_neg Bool.false_ne_true,
        if_pos isEmptyLine_nil, if_neg fun h => by cases h.2]
      exact ih hrest (n + 1)
  rw [normalizeMarkdownText, normalLines]
  dsimp only
  split
  · rename_i hstrip
    rw [hblank hstrip]
    rfl
  · rw [← hemit]
    have hdrop : (emit true 0 false ((replaceCr (joinCrLf text)).splitOn '\n')).dropWhile (· = []) =
        emit true 0 false ((replaceCr (joinCrLf text)).splitOn '\n') := head_emit _
    rw [hdrop]
    rfl

/-- The lines that the loop appends have characters of its lines. -/
theorem subset_of_mem_emit (h : line ∈ emit ends blankCount inCodeBlock raw) : line ⊆ raw.flatten := by
  induction raw generalizing ends blankCount inCodeBlock with
  | nil => cases h
  | cons rawLine rest ih =>
    have hstripped : rstrip rawLine ⊆ (rawLine :: rest).flatten := fun c hc =>
      List.mem_append_left _ ((List.rdropWhile_prefix _ _).subset hc)
    have hlater : ∀ {line : Text}, line ⊆ rest.flatten → line ⊆ (rawLine :: rest).flatten :=
      fun h c hc => List.mem_append_right _ (h hc)
    rw [emit] at h
    split_ifs at h
    · rcases List.mem_cons.mp h with rfl | h
      · exact hstripped
      · exact hlater (ih h)
    · rcases List.mem_cons.mp h with rfl | h
      · exact List.nil_subset _
      rcases List.mem_cons.mp h with rfl | h
      · exact hstripped
      · exact hlater (ih h)
    · rcases List.mem_cons.mp h with rfl | h
      · exact hstripped
      · exact hlater (ih h)
    · rcases List.mem_cons.mp h with rfl | h
      · exact List.nil_subset _
      · exact hlater (ih h)
    · exact hlater (ih h)
    · rcases List.mem_cons.mp h with rfl | h
      · exact hstripped
      · exact hlater (ih h)

theorem of_mem_flatten_splitOn {c : Char} {s : Text} (h : c ∈ (s.splitOn '\n').flatten) : c ≠ '\n' ∧ c ∈ s := by
  obtain ⟨line, hline, hc⟩ := List.mem_flatten.mp h
  obtain ⟨hnew, hsub⟩ := of_mem_splitOn hline
  exact ⟨fun heq => hnew (heq ▸ hc), hsub hc⟩

/-- A normalised line has characters of the text, and no newline. -/
theorem of_mem_normalLines {s : Text} {c : Char} (hline : line ∈ normalLines (s.splitOn '\n')) (hc : c ∈ line) :
    c ≠ '\n' ∧ c ∈ s :=
  of_mem_flatten_splitOn (subset_of_mem_emit ((List.rdropWhile_prefix _ _).subset hline) hc)

/-- Without carriage returns there is nothing to unify. -/
theorem unified_of_not_mem {text : Text} (h : '\r' ∉ text) : replaceCr (joinCrLf text) = text := by
  have hjoin : joinCrLf text = text := by
    induction text using joinCrLf.induct with
    | case1 s ih => exact absurd List.mem_cons_self h
    | case2 c s hc ih =>
      rw [joinCrLf, ih fun hmem => h (List.mem_cons_of_mem c hmem)]
      exact hc
    | case3 => rfl
  rw [hjoin, replaceCr]
  conv_rhs => rw [← List.map_id text]
  refine List.map_congr_left fun c hc => if_neg ?_
  rintro rfl
  exact h hc

theorem not_mem_unified (text : Text) : '\r' ∉ replaceCr (joinCrLf text) := by
  intro h
  obtain ⟨c, -, hc⟩ := List.mem_map.mp h
  split at hc
  · cases hc
  · rename_i hne
    exact hne hc

theorem mem_intercalate {c : Char} (h : c ∈ joinLines lines) : c = '\n' ∨ ∃ line ∈ lines, c ∈ line := by
  induction lines with
  | nil => cases h
  | cons line rest ih =>
    by_cases hrest : rest = []
    · rw [hrest, joinLines, List.intercalate_singleton] at h
      exact .inr ⟨line, List.mem_cons_self, h⟩
    · rw [joinLines, List.intercalate_cons_of_ne_nil hrest, List.mem_append, List.mem_append] at h
      rcases h with (h | h) | h
      · exact .inr ⟨line, List.mem_cons_self, h⟩
      · exact .inl (List.mem_singleton.mp h)
      · rcases ih h with hnew | ⟨line', hline', hc⟩
        · exact .inl hnew
        · exact .inr ⟨line', List.mem_cons_of_mem _ hline', hc⟩

/-- The characters of a normalised text. -/
theorem of_mem_normalize {text : Text} {c : Char} (h : c ∈ normalizeMarkdownText text) :
    c = '\n' ∨ c ∈ replaceCr (joinCrLf text) := by
  rw [normalizeMarkdownText_eq] at h
  rcases mem_intercalate h with hnew | ⟨line, hline, hc⟩
  · exact .inl hnew
  · exact .inr (of_mem_normalLines hline hc).2

theorem not_mem_normalize (text : Text) : '\r' ∉ normalizeMarkdownText text := by
  intro h
  rcases of_mem_normalize h with heq | h
  · cases heq
  · exact not_mem_unified text h

/-- **The lines of a normalised text are its normalised lines**; there are none if the text is empty. -/
theorem splitOn_joinLines_normalLines {s : Text} (h : normalLines (s.splitOn '\n') ≠ []) :
    (joinLines (normalLines (s.splitOn '\n'))).splitOn '\n' = normalLines (s.splitOn '\n') :=
  List.splitOn_intercalate '\n' (fun _ hline hmem => (of_mem_normalLines hline hmem).1 rfl) h

/-- **A normalised text stays as it is.** -/
theorem normalizeMarkdownText_idem (text : Text) :
    normalizeMarkdownText (normalizeMarkdownText text) = normalizeMarkdownText text := by
  rw [normalizeMarkdownText_eq (normalizeMarkdownText text), unified_of_not_mem (not_mem_normalize text),
    normalizeMarkdownText_eq text]
  by_cases hnil : normalLines ((replaceCr (joinCrLf text)).splitOn '\n') = []
  · rw [hnil]
    rfl
  · rw [splitOn_joinLines_normalLines hnil, normalLines_idem]

/-! ## The blocks of normalised lines -/

/-- The last line is empty. -/
def endsBlank (lines : List Text) : Bool := lines.getLast?.any isEmptyLine

/-- What the loop makes of a block: an empty line comes before its closing fence, if there is none. -/
def tidyBlock (b : Fenced Text) : Fenced Text where
  opening := rstrip b.opening
  content := b.content.map rstrip ++ if b.closing.isSome && ! endsBlank (b.content.map rstrip) then [[]] else []
  closing := b.closing.map rstrip

/-- **What normalisation makes of a block**: one that is open loses the empty lines at its end. -/
def normalBlock (b : Fenced Text) : Fenced Text := (tidyBlock b).trim isEmptyLine

theorem blocksFrom_emit (raw : List Text) (blankCount : ℕ) :
    (∀ ends, blocksFrom isFence none (emit ends blankCount false raw) = (blocksFrom isFence none raw).map tidyBlock) ∧
      ∀ f c, blocksFrom isFence (some (rstrip f, c.map rstrip)) (emit (endsBlank (c.map rstrip)) blankCount true raw) =
        (blocksFrom isFence (some (f, c)) raw).map tidyBlock := by
  induction raw generalizing blankCount with
  | nil =>
    refine ⟨fun _ => rfl, fun f c => ?_⟩
    rw [emit, blocksFrom, blocksFrom, List.map_singleton, tidyBlock]
    simp
  | cons rawLine rest ih =>
    have hline := isFence_rstrip rawLine
    constructor
    · intro ends
      rw [emit]
      cases hfence : isFence rawLine with
      | true =>
        rw [hfence] at hline
        have hopen := (ih 0).2 rawLine []
        rw [hline, if_pos rfl, blocksFrom_none_fence hfence, ← hopen, Bool.not_false]
        cases ends with
        | true => rw [if_pos rfl, List.nil_append, blocksFrom_none_fence hline]; rfl
        | false =>
          rw [if_neg Bool.false_ne_true, List.singleton_append, blocksFrom_none_plain isFence_nil,
            blocksFrom_none_fence hline]
          rfl
      | false =>
        rw [hfence] at hline
        rw [hline, if_neg Bool.false_ne_true, if_neg Bool.false_ne_true, blocksFrom_none_plain hfence]
        split
        · split
          · rw [blocksFrom_none_plain isFence_nil]
            exact (ih _).1 _
          · exact (ih _).1 _
        · rw [blocksFrom_none_plain hline]
          exact (ih _).1 _
    · intro f c
      rw [emit]
      cases hfence : isFence rawLine with
      | true =>
        rw [hfence] at hline
        rw [hline, if_pos rfl, blocksFrom_some_fence hfence, List.map_cons, Bool.not_true, ← (ih 0).1 false, tidyBlock]
        cases hends : endsBlank (c.map rstrip) with
        | true =>
          rw [if_pos rfl, List.nil_append, blocksFrom_some_fence hline]
          simp
        | false =>
          rw [if_neg Bool.false_ne_true, List.singleton_append, blocksFrom_some_plain isFence_nil,
            blocksFrom_some_fence hline]
          simp
      | false =>
        rw [hfence] at hline
        have hlast : endsBlank ((c ++ [rawLine]).map rstrip) = isEmptyLine (rstrip rawLine) := by
          rw [List.map_append, List.map_singleton, endsBlank, List.getLast?_concat]
          rfl
        have hopen := (ih blankCount).2 f (c ++ [rawLine])
        rw [hlast, List.map_append, List.map_singleton] at hopen
        rw [hline, if_neg Bool.false_ne_true, if_pos rfl, blocksFrom_some_plain hfence, blocksFrom_some_plain hline, hopen]

/-- **The blocks of normalised lines** are those of the lines, each of them normalised. -/
theorem fencedBlocks_normalLines (raw : List Text) :
    fencedBlocks isFence (normalLines raw) = (fencedBlocks isFence raw).map normalBlock := by
  rw [normalLines, fencedBlocks_rdropWhile fun _ => not_isFence_of_isEmptyLine, fencedBlocks, (blocksFrom_emit raw 0).1,
    List.map_map]
  rfl

end DBClaw.FeishuChunks
