import DBClaw.Bots.FeishuPosts
import Mathlib

/-! # Code blocks in posts
A text with code blocks is normalised, split into chunks, and each chunk is normalised, parsed and rendered. The blocks
are found anew in every chunk, from the fences that are left in it. `delivered_iff` says when their lines come out as
they went in. -/

namespace DBClaw.FeishuChunks

open Text Fences

variable (u : Unicode)

/-! ## Delivery -/

/-- The code blocks of a chunk that are rendered. -/
def renderedCode (chunk : Text) : List Block := (renderedBlocks u chunk).filter (·.type = .code)

/-- The caption of a rendered code block. -/
def captionOf (blockText : Text) : List PostLine := (splitlines blockText).head?.elim [] caption

/-- A code block is rendered as these lines, each of them on a line of its own, after its caption. -/
def RendersAs (block : Block) (lines : List Text) : Prop :=
  renderCodeBlockLines block.text = captionOf block.text ++ lines.map fun line => makeTextLine line

/-- **The code blocks survive**: each block of the text is rendered as one or more code blocks one after another, whose
lines are those of the block without the blanks at their ends; and no other code block is rendered. -/
def Delivered (text : Text) (chunks : List Text) : Prop :=
  ∃ pieces : List (List (List Text)), (∀ parts ∈ pieces, parts ≠ []) ∧
    pieces.map List.flatten = (fencedBlocks isFence (text.splitOn '\n')).map (fun b => b.content.map rstrip) ∧
    List.Forall₂ RendersAs (chunks.flatMap (renderedCode u)) pieces.flatten

/-- **A block is kept as it is**: one that is closed ends with a blank line; one that is not closed has no blank line at
its end, or is a single blank line. -/
def IsKept (b : Fenced Text) : Prop :=
  if b.closing.isSome then endsBlank (b.content.map rstrip) = true
  else b.content.map rstrip = [[]] ∨ b.content ≠ [] ∧ endsBlank (b.content.map rstrip) = false

/-- No line of the text becomes a fence when it is cut into pieces of a length. -/
def NoFenceCut (limit : ℕ) (text : Text) : Prop :=
  ∀ line ∈ text.splitOn '\n', ∀ k, isFence (line.drop (k * limit)) = false

/-- **The code blocks are undivided**: the text is one chunk; or each code block fits into a chunk, and no other line has
three backticks where it is cut. -/
def Undivided (text : Text) (limit : ℕ) : Prop :=
  (normalizeMarkdownText text).length ≤ limit ∨
    ∀ block ∈ parseMarkdownBlocks u (normalizeMarkdownText text),
      if block.type = .code then block.text.length ≤ limit else NoFenceCut limit block.text

/-! ## Parsing -/

variable {u} {line : Text} {lines rest : List Text}

theorem not_isFence_of_isTableRow (h : isTableRow line = true) : isFence line = false := by
  refine Bool.eq_false_iff.mpr fun hfence => ?_
  rw [isFence, List.isPrefixOf_iff_prefix] at hfence
  obtain ⟨s, rfl⟩ := hfence
  have hstrip : lstrip ("```".toList ++ s) = "```".toList ++ s := List.dropWhile_cons_of_neg (by decide)
  rw [isTableRow, Bool.and_eq_true, List.isPrefixOf_iff_prefix, strip, hstrip] at h
  obtain ⟨t, ht⟩ := h.1
  have hprefix := List.rdropWhile_prefix isSpace ("```".toList ++ s)
  change rstrip ("```".toList ++ s) <+: _ at hprefix
  rw [← ht] at hprefix
  obtain ⟨r, hr⟩ := hprefix
  cases hr

/-- Lines of a paragraph are no fences. -/
theorem not_isFence_of_mem_takeParagraph {last : Text} (h : line ∈ (takeParagraph u last lines).1) :
    isFence line = false := by
  induction lines generalizing last with
  | nil => cases h
  | cons next rest ih =>
    rw [takeParagraph] at h
    split_ifs at h with hends
    · cases h
    · rcases List.mem_cons.mp h with rfl | h
      · refine Bool.eq_false_iff.mpr fun hfence => hends ?_
        rw [endsParagraph, hfence]
        simp
      · exact ih h

/-- The lines of a code block after its first. -/
theorem takeCode_spec (lines : List Text) : ∃ content closing, (takeCode lines).1 = content ++ closing.toList ∧
    (∀ a ∈ content, isFence a = false) ∧ (∀ a ∈ closing, isFence a = true) ∧
    (closing = none → (takeCode lines).2 = []) := by
  induction lines with
  | nil => exact ⟨[], none, rfl, List.forall_mem_nil _, fun _ h => (by cases h), fun _ => rfl⟩
  | cons line lines ih =>
    rw [takeCode]
    cases hfence : isFence line with
    | true =>
      refine ⟨[], some line, rfl, List.forall_mem_nil _, fun a ha => ?_, fun h => by cases h⟩
      rwa [← Option.some.inj ha]
    | false =>
      obtain ⟨content, closing, htake, hcontent, hclosing, hend⟩ := ih
      rw [if_neg Bool.false_ne_true]
      exact ⟨line :: content, closing, congrArg (line :: ·) htake, List.forall_mem_cons.mpr ⟨hfence, hcontent⟩,
        hclosing, hend⟩

/-- A block that does not start with a fence is no code, and none of its lines is a fence. -/
theorem takeBlock_plain (hline : isFence line = false) :
    (takeBlock u line lines).1 ≠ .code ∧ ∀ a ∈ (takeBlock u line lines).2.1, isFence a = false := by
  unfold takeBlock
  rw [hline, if_neg Bool.false_ne_true]
  split_ifs with htable
  · constructor
    · intro h
      cases h
    · intro a ha
      rw [List.span_eq_takeWhile_dropWhile] at ha
      exact not_isFence_of_isTableRow (List.mem_takeWhile_imp ha)
  · constructor
    · intro h
      cases h
    · exact fun a ha => not_isFence_of_mem_takeParagraph ha

theorem not_isFence_of_blank (h : strip line = []) : isFence line = false := by
  refine Bool.eq_false_iff.mpr fun hfence => ?_
  rw [isFence, List.isPrefixOf_iff_prefix] at hfence
  rw [strip_eq_nil_iff, visible_eq_nil_iff] at h
  exact absurd (h '`' (hfence.subset (by decide))) (by decide)

/-- The block has its fences, and nothing else in it is one. -/
structure IsBlock (b : Fenced Text) : Prop where
  opening : isFence b.opening = true
  content : ∀ a ∈ b.content, isFence a = false
  closing : ∀ a ∈ b.closing, isFence a = true

/-- **What the parser makes of lines**: a code block is a fenced block; all other lines are no fences. -/
inductive Parsed : List Text → List Block → Prop
  | nil : Parsed [] []
  | skip {line : Text} {lines : List Text} {blocks : List Block} :
      isFence line = false → Parsed lines blocks → Parsed (line :: lines) blocks
  | code {b : Fenced Text} {rest : List Text} {blocks : List Block} : IsBlock b → (b.closing = none → rest = []) →
      Parsed rest blocks → Parsed (b.items ++ rest) (⟨.code, joinLines b.items⟩ :: blocks)
  | plain {type : BlockType} {lines rest : List Text} {blocks : List Block} : type ≠ .code → lines ≠ [] →
      (∀ a ∈ lines, isFence a = false) → Parsed rest blocks →
      Parsed (lines ++ rest) (⟨type, joinLines lines⟩ :: blocks)

theorem parsed_parseLines (u : Unicode) (lines : List Text) : Parsed lines (parseLines u lines) := by
  induction lines using parseLines.induct u with
  | case1 =>
    rw [parseLines]
    exact .nil
  | case2 line lines hblank ih =>
    rw [parseLines, if_pos hblank]
    exact .skip (not_isFence_of_blank hblank) ih
  | case3 line lines hblank ih =>
    rw [parseLines, if_neg hblank]
    have happend := takeBlock_append u line lines
    cases hfence : isFence line with
    | true =>
      have htake : takeBlock u line lines = (.code, takeCode lines) := if_pos hfence
      rw [htake] at ih happend ⊢
      obtain ⟨content, closing, hitems, hcontent, hclosing, hend⟩ := takeCode_spec lines
      have hblock : IsBlock ⟨line, content, closing⟩ := ⟨hfence, hcontent, hclosing⟩
      have hlines : line :: (takeCode lines).1 = Fenced.items ⟨line, content, closing⟩ := by
        rw [hitems]
        rfl
      dsimp only at happend ih ⊢
      have hparsed := Parsed.code hblock hend ih
      rw [← hlines, List.cons_append, happend] at hparsed
      exact hparsed
    | false =>
      obtain ⟨htype, hplain⟩ := @takeBlock_plain u line lines hfence
      have hparsed := Parsed.plain htype (List.cons_ne_nil line _) (List.forall_mem_cons.mpr ⟨hfence, hplain⟩) ih
      rw [List.cons_append, happend] at hparsed
      exact hparsed

theorem Parsed.eq_nil {blocks : List Block} (h : Parsed lines blocks) (hlines : lines = []) : blocks = [] := by
  cases h with
  | nil => rfl
  | skip => cases hlines
  | code => cases hlines
  | plain _ hne => exact absurd (List.append_eq_nil_iff.mp hlines).1 hne

/-- Lines that are no fences belong to no block. -/
theorem fencedBlocks_skip (h : ∀ a ∈ lines, isFence a = false) (rest : List Text) :
    fencedBlocks isFence (lines ++ rest) = fencedBlocks isFence rest := by
  rw [fencedBlocks_append (balanced_of_forall h), fencedBlocks_eq_nil h, List.nil_append]

theorem IsBlock.fencedBlocks_items {b : Fenced Text} (h : IsBlock b) : fencedBlocks isFence b.items = [b] :=
  Fences.fencedBlocks_items h.opening h.content h.closing

/-- The next block comes first. -/
theorem IsBlock.fencedBlocks_append {b : Fenced Text} (h : IsBlock b) (hrest : b.closing = none → rest = []) :
    fencedBlocks isFence (b.items ++ rest) = b :: fencedBlocks isFence rest := by
  cases hclosing : b.closing with
  | none =>
    rw [hrest hclosing, List.append_nil, h.fencedBlocks_items]
    rfl
  | some g =>
    have hbalanced : Balanced isFence b.items := by
      intro c hc
      rw [h.fencedBlocks_items, List.mem_singleton] at hc
      rw [hc, Fenced.IsClosed, hclosing]
      rfl
    rw [Fences.fencedBlocks_append hbalanced, h.fencedBlocks_items, List.singleton_append]

/-- **The code blocks that are parsed** are the fenced blocks of the lines. -/
theorem Parsed.code_eq {blocks : List Block} (h : Parsed lines blocks) : blocks.filter (·.type = .code) =
    (fencedBlocks isFence lines).map fun b => ⟨.code, joinLines b.items⟩ := by
  induction h with
  | nil => rfl
  | skip hline _ ih => rw [ih, ← fencedBlocks_skip (List.forall_mem_singleton.mpr hline), List.singleton_append]
  | @code b rest blocks hblock hrest _ ih =>
    show (⟨.code, joinLines b.items⟩ : Block) :: blocks.filter (·.type = .code) = _
    rw [ih, hblock.fencedBlocks_append hrest, List.map_cons]
  | plain htype _ hplain _ ih =>
    rw [List.filter_cons_of_neg (by simpa using htype), ih, fencedBlocks_skip hplain]

/-! ## The blocks of a chunk -/

/-- The fenced blocks of a chunk, as it is normalised before it is rendered. -/
def chunkBlocks (chunk : Text) : List (Fenced Text) := fencedBlocks isFence (normalLines (chunk.splitOn '\n'))

theorem chunkBlocks_eq (chunk : Text) :
    chunkBlocks chunk = (fencedBlocks isFence (chunk.splitOn '\n')).map normalBlock := fencedBlocks_normalLines _

/-- The text has no block that is open at its end. -/
def ClosedText (text : Text) : Prop := Balanced isFence (text.splitOn '\n')

variable {text : Text} {limit fuel : ℕ}

theorem normalBlock_map_rstrip (b : Fenced Text) : normalBlock (b.map rstrip) = normalBlock b := by
  have hidem : rstrip ∘ rstrip = rstrip := funext rstrip_rstrip
  have htidy : tidyBlock (b.map rstrip) = tidyBlock b := by
    rw [tidyBlock, tidyBlock, Fenced.map]
    simp only [List.map_map, Option.map_map, hidem, rstrip_rstrip, Option.isSome_map]
  rw [normalBlock, htidy, normalBlock]

/-- The blocks of a chunk do not depend on the blanks at the ends of its lines. -/
theorem map_normalBlock_congr {lines lines' : List Text} (h : lines.map rstrip = lines'.map rstrip) :
    (fencedBlocks isFence lines).map normalBlock = (fencedBlocks isFence lines').map normalBlock := by
  have hmap (lines : List Text) : (fencedBlocks isFence lines).map normalBlock =
      (fencedBlocks isFence (lines.map rstrip)).map normalBlock := by
    rw [fencedBlocks_map isFence_rstrip, List.map_map]
    exact List.map_congr_left fun b _ => (normalBlock_map_rstrip b).symm
  rw [hmap lines, h, ← hmap lines']

theorem normalBlock_extend (b : Fenced Text) : normalBlock (b.extend []) = normalBlock b := by
  obtain ⟨opening, content, closing⟩ := b
  cases closing with
  | some g => rfl
  | none =>
    simp only [normalBlock, tidyBlock, Fenced.extend, Fenced.trim, Option.map_none, Option.isSome_none, Bool.false_and,
      if_neg Bool.false_ne_true, List.append_nil, List.map_append, List.map_singleton]
    rw [List.rdropWhile_concat_pos _ _ _ (show isEmptyLine (rstrip []) = true from rfl)]

/-- **White space at the end of a chunk** does not count. -/
theorem chunkBlocks_rstrip (chunk : Text) : chunkBlocks (rstrip chunk) = chunkBlocks chunk := by
  induction chunk using List.reverseRecOn with
  | nil => rfl
  | append_singleton s c ih =>
    by_cases hc : isSpace c = true
    · rw [rstrip, List.rdropWhile_concat_pos _ _ _ hc, ← rstrip, ih, chunkBlocks_eq, chunkBlocks_eq]
      by_cases hnew : c = '\n'
      · rw [hnew, List.splitOn_append_cons_self, List.splitOn_nil, fencedBlocks, fencedBlocks,
          blocksFrom_concat isFence_nil, List.map_map]
        exact List.map_congr_left fun b _ => (normalBlock_extend b).symm
      · obtain ⟨lines, last, hs, hsc⟩ := splitOn_concat hnew s
        rw [hs, hsc]
        refine map_normalBlock_congr ?_
        have hlast : rstrip (last ++ [c]) = rstrip last := List.rdropWhile_concat_pos _ _ _ hc
        rw [List.map_append, List.map_append, List.map_singleton, List.map_singleton, hlast]
    · rw [rstrip, List.rdropWhile_concat_neg _ _ _ hc]

theorem splitOn_joinBlocks_concat {current : List Text} (h : current ≠ []) (text : Text) :
    (joinBlocks (current ++ [text])).splitOn '\n' =
      (joinBlocks current).splitOn '\n' ++ [] :: text.splitOn '\n' := by
  rw [joinBlocks, intercalate_append_singleton h, List.append_assoc]
  show (joinBlocks current ++ '\n' :: ([] ++ '\n' :: text)).splitOn '\n' = _
  rw [List.splitOn_append_cons_self, List.splitOn_append_cons_self, List.splitOn_nil, List.singleton_append]

/-- **A block is put into a chunk** whose blocks are closed. -/
theorem chunkBlocks_joinBlocks_concat {current : List Text} (hclosed : ClosedText (joinBlocks current)) (text : Text) :
    chunkBlocks (joinBlocks (current ++ [text])) = chunkBlocks (joinBlocks current) ++ chunkBlocks text := by
  by_cases hnil : current = []
  · rw [hnil, List.nil_append, joinBlocks, List.intercalate_singleton]
    rfl
  · rw [chunkBlocks_eq, chunkBlocks_eq, chunkBlocks_eq, splitOn_joinBlocks_concat hnil,
      Fences.fencedBlocks_append hclosed, List.map_append]
    rfl

theorem ClosedText.joinBlocks_concat {current : List Text} (hclosed : ClosedText (joinBlocks current))
    (htext : ClosedText text) : ClosedText (joinBlocks (current ++ [text])) := by
  by_cases hnil : current = []
  · rw [hnil, List.nil_append, joinBlocks, List.intercalate_singleton]
    exact htext
  · rw [ClosedText, splitOn_joinBlocks_concat hnil]
    refine hclosed.append fun b hb => htext b ?_
    rwa [← List.singleton_append, fencedBlocks_skip (List.forall_mem_singleton.mpr isFence_nil)] at hb

/-! ## Splitting -/

/-- **What the chunks carry**: the blocks of the chunks so far and of the one that is being filled. -/
structure Carries (st : Chunking) (blocks : List (Fenced Text)) : Prop where
  blocks_eq : st.chunks.flatMap chunkBlocks ++ chunkBlocks (joinBlocks st.current) = blocks
  plain : ∀ text ∈ st.chunks ++ st.current, PlainBreaks text

variable {st st' : Chunking} {blocks : List (Fenced Text)} {append : Chunking → Text → Option Chunking}
  {buffer : List Text} {bufferLen : ℕ}

theorem carries_start : Carries {} [] where
  blocks_eq := rfl
  plain := List.forall_mem_nil _

theorem plainBreaks_rstrip (h : PlainBreaks text) : PlainBreaks (rstrip text) :=
  fun c hc => h c ((List.rdropWhile_prefix _ _).subset hc)

theorem plainBreaks_joinLines {lines : List Text} (h : ∀ line ∈ lines, PlainBreaks line) :
    PlainBreaks (joinLines lines) := by
  intro c hc hbreak
  rcases mem_intercalate hc with hnew | ⟨line, hline, hmem⟩
  · exact hnew
  · exact h line hline c hmem hbreak

theorem plainBreaks_joinBlocks {current : List Text} (h : ∀ text ∈ current, PlainBreaks text) :
    PlainBreaks (joinBlocks current) := by
  induction current with
  | nil => exact List.forall_mem_nil _
  | cons text current ih =>
    obtain ⟨htext, hcurrent⟩ := List.forall_mem_cons.mp h
    by_cases hnil : current = []
    · rwa [hnil, joinBlocks, List.intercalate_singleton]
    · intro c hc hbreak
      rw [joinBlocks, List.intercalate_cons_of_ne_nil hnil, List.mem_append, List.mem_append] at hc
      rcases hc with (hc | hc) | hc
      · exact htext c hc hbreak
      · rcases List.mem_cons.mp hc with rfl | hc
        · rfl
        · exact List.mem_singleton.mp hc
      · exact ih hcurrent c hc hbreak

theorem Carries.flushCurrent (h : Carries st blocks) : Carries st.flushCurrent blocks := by
  have hblocks := h.blocks_eq
  rw [Chunking.flushCurrent]
  split_ifs with hcurrent
  · refine ⟨?_, fun text htext => ?_⟩
    · rw [List.flatMap_append, List.flatMap_singleton, chunkBlocks_rstrip]
      exact (List.append_nil _).trans hblocks
    · rw [List.append_nil] at htext
      rcases List.mem_append.mp htext with hmem | hmem
      · exact h.plain text (List.mem_append_left _ hmem)
      · rw [List.mem_singleton.mp hmem]
        exact plainBreaks_rstrip (plainBreaks_joinBlocks fun t ht => h.plain t (List.mem_append_right _ ht))
  · rw [not_not.mp hcurrent] at hblocks
    refine ⟨hblocks, fun text htext => h.plain text ?_⟩
    rw [List.append_nil] at htext
    exact List.mem_append_left _ htext

theorem closedText_nil : ClosedText [] := by
  intro b hb
  cases hb

theorem Carries.makeRoom (h : Carries st blocks) (hclosed : ClosedText (joinBlocks st.current)) (text : Text) :
    Carries (st.makeRoom limit text) blocks ∧ ClosedText (joinBlocks (st.makeRoom limit text).current) := by
  rw [Chunking.makeRoom]
  split_ifs
  · exact ⟨h.flushCurrent, closedText_nil⟩
  · exact ⟨h, hclosed⟩

theorem Carries.push (h : Carries st blocks) (hclosed : ClosedText (joinBlocks st.current)) (hplain : PlainBreaks text) :
    Carries (st.push text) (blocks ++ chunkBlocks text) where
  blocks_eq := by
    have hjoin := chunkBlocks_joinBlocks_concat hclosed text
    rw [← h.blocks_eq, List.append_assoc, ← hjoin]
    rfl
  plain t ht := by
    rcases List.mem_append.mp ht with hmem | hmem
    · exact h.plain t (List.mem_append_left _ hmem)
    rcases List.mem_append.mp hmem with hmem | hmem
    · exact h.plain t (List.mem_append_right _ hmem)
    · rwa [List.mem_singleton.mp hmem]

/-- A text without visible characters has no blocks. -/
theorem chunkBlocks_of_blank (h : strip text = []) : chunkBlocks text = [] := by
  rw [chunkBlocks_eq, fencedBlocks_eq_nil fun line hline => ?_]
  · rfl
  · refine not_isFence_of_blank ?_
    rw [strip_eq_nil_iff, visible_eq_nil_iff] at h ⊢
    exact fun c hc => h c ((of_mem_splitOn hline).2 hc)

/-- **A short block becomes part of a chunk**, with its blocks. -/
theorem Carries.append_short (h : Carries st blocks) (hclosed : ClosedText (joinBlocks st.current))
    (hplain : PlainBreaks text) (hshort : text.length ≤ limit)
    (hrun : appendBlock limit (fuel + 1) st text = some st') :
    Carries st' (blocks ++ chunkBlocks text) ∧ (ClosedText text → ClosedText (joinBlocks st'.current)) := by
  rw [appendBlock] at hrun
  split_ifs at hrun with hblank
  · obtain rfl := Option.some.inj hrun
    rw [chunkBlocks_of_blank hblank, List.append_nil]
    exact ⟨h, fun _ => hclosed⟩
  · obtain rfl := Option.some.inj hrun
    obtain ⟨hroom, hclosed⟩ := @Carries.makeRoom limit st blocks h hclosed text
    exact ⟨hroom.push hclosed hplain, fun htext => hclosed.joinBlocks_concat htext⟩

/-- A text of lines that are no fences, also when they are cut. -/
structure IsProse (limit : ℕ) (text : Text) : Prop where
  plain : PlainBreaks text
  noFenceCut : NoFenceCut limit text

theorem IsProse.not_isFence (h : IsProse limit text) : ∀ line ∈ text.splitOn '\n', isFence line = false := by
  intro line hline
  have hcut := h.noFenceCut line hline 0
  rwa [Nat.zero_mul, List.drop_zero] at hcut

theorem IsProse.chunkBlocks_eq_nil (h : IsProse limit text) : chunkBlocks text = [] := by
  rw [chunkBlocks_eq, fencedBlocks_eq_nil h.not_isFence]
  rfl

theorem IsProse.closedText (h : IsProse limit text) : ClosedText text := balanced_of_forall h.not_isFence

/-- Prose is put into the chunks and adds no blocks. -/
def AddsNothing (limit : ℕ) (append : Chunking → Text → Option Chunking) : Prop :=
  ∀ text st st' blocks, IsProse limit text → Carries st blocks → ClosedText (joinBlocks st.current) →
    append st text = some st' → Carries st' blocks ∧ ClosedText (joinBlocks st'.current)

/-- Some lines of a prose are prose. -/
theorem isProse_joinLines {lines : List Text} (hne : lines ≠ [])
    (h : ∀ line ∈ lines, IsLine line ∧ ∀ k, isFence (line.drop (k * limit)) = false) : IsProse limit (joinLines lines) := by
  have hnew : ∀ line ∈ lines, '\n' ∉ line := fun line hline hmem => absurd ((h line hline).1 '\n' hmem) (by decide)
  constructor
  · refine plainBreaks_joinLines fun line hline c hc hbreak => ?_
    rw [(h line hline).1 c hc] at hbreak
    cases hbreak
  · intro line hline
    rw [joinLines, List.splitOn_intercalate '\n' hnew hne] at hline
    exact (h line hline).2

theorem addsNothing_appendPieces (happend : AddsNothing limit append)
    (hisLine : IsLine line) (hcut : ∀ k, isFence (line.drop (k * limit)) = false) (h : Carries st blocks)
    (hclosed : ClosedText (joinBlocks st.current)) (hrun : appendPieces append limit fuel st line = some st') :
    Carries st' blocks ∧ ClosedText (joinBlocks st'.current) := by
  induction fuel generalizing st line with
  | zero =>
    cases line with
    | nil =>
      obtain rfl := Option.some.inj hrun
      exact ⟨h, hclosed⟩
    | cons c line => cases hrun
  | succ fuel ih =>
    cases line with
    | nil =>
      obtain rfl := Option.some.inj hrun
      exact ⟨h, hclosed⟩
    | cons c line =>
      rw [appendPieces] at hrun
      obtain ⟨st₁, hst₁, hrest⟩ := Option.bind_eq_some_iff.mp hrun
      -- a piece is no longer than the limit, so that only its start can be a fence
      have hpiece : IsProse limit ((c :: line).take limit) := by
        have hprose := @isProse_joinLines limit [(c :: line).take limit] (List.cons_ne_nil _ _)
        rw [joinLines, List.intercalate_singleton] at hprose
        refine hprose (List.forall_mem_singleton.mpr ⟨fun d hd => hisLine d (List.mem_of_mem_take hd), fun k => ?_⟩)
        cases k with
        | zero =>
          have hstart := hcut 0
          rw [Nat.zero_mul, List.drop_zero] at hstart ⊢
          rw [← List.take_append_drop limit (c :: line)] at hstart
          exact not_isFence_of_append hstart
        | succ k =>
          have hle : ((c :: line).take limit).length ≤ (k + 1) * limit := by
            refine (List.length_take_le limit (c :: line)).trans ?_
            exact Nat.le_mul_of_pos_left limit (Nat.succ_pos k)
          rw [List.drop_eq_nil_of_le hle]
          rfl
      obtain ⟨h₁, hclosed₁⟩ := happend _ _ _ _ hpiece h hclosed hst₁
      refine ih (fun d hd => hisLine d (List.mem_of_mem_drop hd)) (fun k => ?_) h₁ hclosed₁ hrest
      rw [List.drop_drop, Nat.add_comm, ← Nat.succ_mul]
      exact hcut (k + 1)

/-- The lines of a prose that are buffered or still to come. -/
def ProseLines (limit : ℕ) (lines : List Text) : Prop :=
  ∀ line ∈ lines, IsLine line ∧ ∀ k, isFence (line.drop (k * limit)) = false

theorem addsNothing_appendBuffer (happend : AddsNothing limit append) (hbuffer : ProseLines limit buffer)
    (h : Carries st blocks) (hclosed : ClosedText (joinBlocks st.current))
    (hrun : appendBuffer append st buffer = some st') : Carries st' blocks ∧ ClosedText (joinBlocks st'.current) := by
  rw [appendBuffer] at hrun
  split_ifs at hrun with hnil
  · exact happend _ _ _ _ (isProse_joinLines hnil hbuffer) h hclosed hrun
  · obtain rfl := Option.some.inj hrun
    exact ⟨h, hclosed⟩

theorem addsNothing_appendLines (happend : AddsNothing limit append) (hbuffer : ProseLines limit buffer)
    (hlines : ProseLines limit lines) (h : Carries st blocks) (hclosed : ClosedText (joinBlocks st.current))
    (hrun : appendLines append limit fuel lines st buffer bufferLen = some st') :
    Carries st' blocks ∧ ClosedText (joinBlocks st'.current) := by
  induction lines generalizing st buffer bufferLen with
  | nil => exact addsNothing_appendBuffer happend hbuffer h hclosed hrun
  | cons line lines ih =>
    obtain ⟨hline, hrest⟩ := List.forall_mem_cons.mp hlines
    rw [appendLines] at hrun
    by_cases hlong : line.length > limit
    · rw [if_pos hlong] at hrun
      obtain ⟨st₁, hst₁, hrun⟩ := Option.bind_eq_some_iff.mp hrun
      obtain ⟨st₂, hst₂, hrun⟩ := Option.bind_eq_some_iff.mp hrun
      obtain ⟨h₁, hclosed₁⟩ := addsNothing_appendBuffer happend hbuffer h hclosed hst₁
      obtain ⟨h₂, hclosed₂⟩ := addsNothing_appendPieces happend hline.1 hline.2 h₁ hclosed₁ hst₂
      exact ih (List.forall_mem_nil _) hrest h₂ hclosed₂ hrun
    rw [if_neg hlong] at hrun
    by_cases hfull : buffer ≠ [] ∧ bufferLen + (line.length + if buffer ≠ [] then 1 else 0) > limit
    · obtain ⟨st₁, hst₁, hrun⟩ := Option.bind_eq_some_iff.mp ((if_pos hfull).symm.trans hrun)
      obtain ⟨h₁, hclosed₁⟩ := happend _ _ _ _ (isProse_joinLines hfull.1 hbuffer) h hclosed hst₁
      exact ih (List.forall_mem_singleton.mpr hline) hrest h₁ hclosed₁ hrun
    · refine ih ?_ hrest h hclosed ((if_neg hfull).symm.trans hrun)
      exact List.forall_mem_append.mpr ⟨hbuffer, List.forall_mem_singleton.mpr hline⟩

/-- The lines of a text, for `splitlines`, are lines of it. -/
theorem mem_splitOn_of_mem_splitlines (hplain : PlainBreaks text) (h : line ∈ splitlines text) :
    line ∈ text.splitOn '\n' := by
  have hisLine : ∀ l ∈ text.splitOn '\n', IsLine l := fun l hl => hplain.isLine hl
  have hjoin : ['\n'].intercalate (text.splitOn '\n') = text := List.intercalate_splitOn '\n'
  obtain ⟨lines, last, hsplit⟩ : ∃ lines last, text.splitOn '\n' = lines ++ [last] :=
    ⟨_, _, (List.dropLast_append_getLast (List.splitOn_ne_nil '\n' text)).symm⟩
  rw [hsplit] at hisLine hjoin ⊢
  rw [← hjoin, splitlines_intercalate hisLine] at h
  rcases List.mem_append.mp h with h | h
  · exact List.mem_append_left _ h
  · split_ifs at h
    · cases h
    · exact List.mem_append_right _ h

theorem IsProse.proseLines (h : IsProse limit text) : ProseLines limit (splitlines text) := by
  intro line hline
  have hmem := mem_splitOn_of_mem_splitlines h.plain hline
  exact ⟨h.plain.isLine hmem, h.noFenceCut line hmem⟩

/-- **Prose adds nothing**, however it is cut. -/
theorem addsNothing_appendBlock (fuel : ℕ) : AddsNothing limit (appendBlock limit fuel) := by
  induction fuel with
  | zero => intro text st st' blocks _ _ _ hrun; cases hrun
  | succ fuel ih =>
    intro text st st' blocks hprose h hclosed hrun
    by_cases hshort : text.length ≤ limit
    · obtain ⟨h', hclosed'⟩ := h.append_short hclosed hprose.plain hshort hrun
      rw [hprose.chunkBlocks_eq_nil, List.append_nil] at h'
      exact ⟨h', hclosed' hprose.closedText⟩
    rw [appendBlock, if_neg hshort] at hrun
    split_ifs at hrun
    · obtain rfl := Option.some.inj hrun
      exact ⟨h, hclosed⟩
    · obtain ⟨hroom, hclosed⟩ := @Carries.makeRoom limit st blocks h hclosed text
      exact addsNothing_appendLines ih (List.forall_mem_nil _) hprose.proseLines hroom hclosed hrun

/-- What can be appended undivided: a code block that fits into a chunk, or prose. -/
def Fits (limit : ℕ) (block : Block) : Prop :=
  if block.type = .code then block.text.length ≤ limit else NoFenceCut limit block.text

/-- **All blocks are appended**: the chunks carry the fenced blocks of the lines that were parsed. -/
theorem Parsed.carries {parsed : List Block} (h : Parsed lines parsed) (hlines : ∀ line ∈ lines, IsLine line)
    (hfits : ∀ block ∈ parsed, Fits limit block) (hst : Carries st blocks) (hclosed : ClosedText (joinBlocks st.current))
    (hrun : parsed.foldlM (fun st block => appendBlock limit fuel st block.text) st = some st') :
    Carries st' (blocks ++ (fencedBlocks isFence lines).map normalBlock) := by
  have hnew {line : Text} (hline : IsLine line) : '\n' ∉ line := fun hmem => absurd (hline '\n' hmem) (by decide)
  induction h generalizing st blocks with
  | nil =>
    obtain rfl := Option.some.inj hrun
    show Carries st (blocks ++ [])
    rwa [List.append_nil]
  | skip hline _ ih =>
    rw [← List.singleton_append, fencedBlocks_skip (List.forall_mem_singleton.mpr hline)]
    exact ih (fun l hl => hlines l (List.mem_cons_of_mem _ hl)) hfits hst hclosed hrun
  | @code b rest parsed hblock hrest hparsed ih =>
    obtain ⟨hfit, hfits⟩ := List.forall_mem_cons.mp hfits
    obtain ⟨hitems, hrestLines⟩ := List.forall_mem_append.mp hlines
    rw [List.foldlM_cons] at hrun
    obtain ⟨st₁, hst₁, hrun⟩ := Option.bind_eq_some_iff.mp hrun
    have hsplit : (joinLines b.items).splitOn '\n' = b.items :=
      List.splitOn_intercalate '\n' (fun line hline => hnew (hitems line hline)) (List.cons_ne_nil _ _)
    have hblocks : chunkBlocks (joinLines b.items) = [normalBlock b] := by
      rw [chunkBlocks_eq, hsplit, hblock.fencedBlocks_items, List.map_singleton]
    have hplain : PlainBreaks (joinLines b.items) := plainBreaks_joinLines fun line hline c hc hbreak => by
      rw [hitems line hline c hc] at hbreak
      cases hbreak
    have hshort : (joinLines b.items).length ≤ limit := (if_pos rfl).mp hfit
    obtain ⟨fuel, rfl⟩ : ∃ n, fuel = n + 1 := by
      cases fuel with
      | zero => cases hst₁
      | succ n => exact ⟨n, rfl⟩
    obtain ⟨h₁, hclosed₁⟩ := hst.append_short hclosed hplain hshort hst₁
    rw [hblocks] at h₁
    rw [hblock.fencedBlocks_append hrest, List.map_cons, ← List.singleton_append, ← List.append_assoc]
    cases hclosing : b.closing with
    | none =>
      -- an open block is the last one
      obtain rfl := hrest hclosing
      rw [hparsed.eq_nil rfl] at hrun
      obtain rfl := Option.some.inj hrun
      show Carries st₁ (blocks ++ [normalBlock b] ++ [])
      rwa [List.append_nil]
    | some g =>
      refine ih hrestLines hfits h₁ (hclosed₁ ?_) hrun
      rw [ClosedText, hsplit]
      intro c hc
      rw [hblock.fencedBlocks_items, List.mem_singleton] at hc
      rw [hc, Fenced.IsClosed, hclosing]
      rfl
  | @plain type lines rest parsed htype hne hplain _ ih =>
    obtain ⟨hfit, hfits⟩ := List.forall_mem_cons.mp hfits
    obtain ⟨hown, hrestLines⟩ := List.forall_mem_append.mp hlines
    rw [List.foldlM_cons] at hrun
    obtain ⟨st₁, hst₁, hrun⟩ := Option.bind_eq_some_iff.mp hrun
    have hprose : IsProse limit (joinLines lines) := by
      refine ⟨plainBreaks_joinLines fun line hline c hc hbreak => ?_, (if_neg htype).mp hfit⟩
      rw [hown line hline c hc] at hbreak
      cases hbreak
    obtain ⟨h₁, hclosed₁⟩ := addsNothing_appendBlock fuel _ _ _ _ hprose hst hclosed hst₁
    rw [fencedBlocks_skip hplain]
    exact ih hrestLines hfits h₁ hclosed₁ hrun

/-! ## Rendering -/

/-- The lines of a rendered block: at least an empty one. -/
def shownLines (b : Fenced Text) : List Text := if b.content = [] then [[]] else b.content

/-- **A normalised text is cut into its lines again.** -/
theorem splitlines_normalize (hplain : PlainBreaks text) :
    splitlines (normalizeMarkdownText text) = normalLines (text.splitOn '\n') := by
  have hcr : '\r' ∉ text := fun hmem => absurd (hplain '\r' hmem (by decide)) (by decide)
  rw [normalizeMarkdownText_eq, unified_of_not_mem hcr]
  by_cases hnil : normalLines (text.splitOn '\n') = []
  · rw [hnil]
    rfl
  obtain ⟨lines, last, hsplit⟩ : ∃ lines last, normalLines (text.splitOn '\n') = lines ++ [last] :=
    ⟨_, _, (List.dropLast_append_getLast hnil).symm⟩
  have hisLine : ∀ line ∈ lines ++ [last], IsLine line := by
    intro line hline c hc
    rw [← hsplit] at hline
    obtain ⟨hne, hmem⟩ := of_mem_normalLines hline hc
    exact Bool.eq_false_iff.mpr fun hbreak => hne (hplain c hmem hbreak)
  have hlast : last ≠ [] := by
    have hne := List.rdropWhile_last_not isEmptyLine (emit true 0 false (text.splitOn '\n')) hnil
    have hgetLast : (normalLines (text.splitOn '\n')).getLast hnil = last := by
      simp only [hsplit, List.getLast_concat]
    rintro rfl
    exact hne (hgetLast ▸ isEmptyLine_nil)
  rw [joinLines, hsplit, splitlines_intercalate hisLine, if_neg hlast]

/-- **The code blocks that are rendered of a chunk** are its fenced blocks. -/
theorem renderedCode_eq (u : Unicode) {chunk : Text} (hplain : PlainBreaks chunk) :
    renderedCode u chunk = (chunkBlocks chunk).map fun b => ⟨.code, joinLines b.items⟩ := by
  have hparsed := (parsed_parseLines u (normalLines (chunk.splitOn '\n'))).code_eq
  rw [renderedCode, renderedBlocks]
  split
  · rename_i hnil
    have hlines := splitlines_normalize hplain
    rw [hnil] at hlines
    rw [chunkBlocks, ← hlines]
    rfl
  · rw [parseMarkdownBlocks, normalizeMarkdownText_idem, splitlines_normalize hplain, hparsed]
    rfl

theorem endsBlank_concat (lines : List Text) (line : Text) : endsBlank (lines ++ [line]) = isEmptyLine line := by
  rw [endsBlank, List.getLast?_concat]
  rfl

/-- Nothing is dropped where the last line is not empty. -/
theorem endsBlank_eq_false_iff {lines : List Text} :
    endsBlank lines = false ↔ lines.rdropWhile isEmptyLine = lines := by
  rcases lines.eq_nil_or_concat with rfl | ⟨lines, line, rfl⟩
  · exact iff_of_true rfl rfl
  · rw [List.concat_eq_append, endsBlank_concat]
    cases hline : isEmptyLine line with
    | true =>
      rw [List.rdropWhile_concat_pos _ _ _ hline]
      refine iff_of_false Bool.noConfusion fun heq => ?_
      have hle := (List.rdropWhile_prefix isEmptyLine lines).length_le
      rw [heq, List.length_append, List.length_singleton] at hle
      omega
    | false =>
      rw [List.rdropWhile_concat_neg _ _ _ (by rw [hline]; exact Bool.false_ne_true)]
      exact iff_of_true rfl rfl

/-- The lines of a block that is normalised. -/
structure IsNormal (b : Fenced Text) : Prop where
  isBlock : IsBlock b
  isLine : ∀ line ∈ b.items, IsLine line
  ends : b.closing = none → endsBlank b.content = false

theorem isNormal_of_mem {chunk : Text} (hplain : PlainBreaks chunk) {b : Fenced Text} (hb : b ∈ chunkBlocks chunk) :
    IsNormal b := by
  obtain ⟨hopening, hcontent, hclosing, hitems⟩ := isFrom_of_mem hb
  refine ⟨⟨hopening, hcontent, hclosing⟩, fun line hline c hc => ?_, fun hnone => ?_⟩
  · obtain ⟨hne, hmem⟩ := of_mem_normalLines (hitems hline) hc
    exact Bool.eq_false_iff.mpr fun hbreak => hne (hplain c hmem hbreak)
  · rw [chunkBlocks_eq] at hb
    obtain ⟨⟨opening, content, closing⟩, -, rfl⟩ := List.mem_map.mp hb
    cases closing with
    | some g => cases hnone
    | none =>
      show endsBlank (List.rdropWhile isEmptyLine _) = false
      generalize (tidyBlock ⟨opening, content, none⟩).content = lines
      exact endsBlank_eq_false_iff.mpr (List.rdropWhile_idempotent _ _)

/-- **How a normalised block is rendered.** -/
theorem IsNormal.rendersAs_iff {b : Fenced Text} (h : IsNormal b) {lines : List Text} :
    RendersAs ⟨.code, joinLines b.items⟩ lines ↔ lines = shownLines b := by
  have hlast : ∃ init last, b.items = init ++ [last] ∧ last ≠ [] := by
    obtain ⟨opening, content, closing⟩ := b
    cases closing with
    | some g =>
      refine ⟨opening :: content, g, rfl, ?_⟩
      rintro rfl
      exact absurd (h.isBlock.closing [] rfl) (by decide)
    | none =>
      rcases content.eq_nil_or_concat with rfl | ⟨content, last, rfl⟩
      · refine ⟨[], opening, rfl, ?_⟩
        rintro rfl
        exact absurd h.isBlock.opening (by decide)
      · have hitems : Fenced.items ⟨opening, content.concat last, none⟩ = opening :: content ++ [last] := by
          rw [Fenced.items, Option.toList_none, List.append_nil, List.concat_eq_append]
          rfl
        refine ⟨opening :: content, last, hitems, ?_⟩
        rintro rfl
        have hends := h.ends rfl
        rw [List.concat_eq_append, endsBlank_concat] at hends
        cases hends
  obtain ⟨init, last, hitems, hne⟩ := hlast
  have hsplit : splitlines (joinLines b.items) = b.items := by
    have hisLine := h.isLine
    rw [hitems] at hisLine ⊢
    rw [joinLines, splitlines_intercalate hisLine, if_neg hne]
  have hcode : codeLines (b.content ++ b.closing.toList) = shownLines b := by
    rw [codeLines, shownLines]
    cases hclosing : b.closing with
    | some g =>
      rw [Option.toList_some, List.getLast?_concat, List.dropLast_concat, Option.any_some,
        h.isBlock.closing g hclosing, if_pos rfl]
    | none =>
      have hplain : (b.content ++ Option.toList none).getLast?.any isFence = false := by
        rw [Option.toList_none, List.append_nil]
        cases hlast : b.content.getLast? with
        | none => rfl
        | some last => exact h.isBlock.content last (List.mem_of_getLast? hlast)
      rw [hplain, if_neg Bool.false_ne_true, Option.toList_none, List.append_nil]
  rw [RendersAs, renderCodeBlockLines, captionOf]
  dsimp only
  rw [hsplit, Fenced.items, List.cons_append]
  show caption b.opening ++ (codeLines (b.content ++ b.closing.toList)).map (fun line => makeTextLine line) =
    caption b.opening ++ lines.map (fun line => makeTextLine line) ↔ _
  rw [hcode, List.append_cancel_left_eq, eq_comm]
  exact makeTextLine_injective.list_map.eq_iff

/-! ## The condition -/

/-- A block is kept just if what is rendered of it are its lines. -/
theorem isKept_iff {b : Fenced Text} : IsKept b ↔ shownLines (normalBlock b) = b.content.map rstrip := by
  obtain ⟨opening, content, closing⟩ := b
  generalize hlines : content.map rstrip = lines
  have hcontent : content = [] ↔ lines = [] := by rw [← hlines, List.map_eq_nil_iff]
  cases closing with
  | some g =>
    have hnormal : (normalBlock ⟨opening, content, some g⟩).content =
        lines ++ if (! endsBlank lines) = true then [[]] else [] := by
      rw [← hlines]
      rfl
    rw [IsKept, Option.isSome_some, if_pos rfl, hlines, shownLines, hnormal]
    cases hends : endsBlank lines with
    | true =>
      have hne : lines ≠ [] := by
        rintro rfl
        cases hends
      rw [Bool.not_true, if_neg Bool.false_ne_true, List.append_nil, if_neg hne]
      exact iff_of_true rfl rfl
    | false =>
      rw [Bool.not_false, if_pos rfl, if_neg (by simp)]
      exact iff_of_false Bool.false_ne_true (by simp)
  | none =>
    have hnormal : (normalBlock ⟨opening, content, none⟩).content = lines.rdropWhile isEmptyLine := by
      rw [← hlines]
      show ((content.map rstrip) ++ []).rdropWhile isEmptyLine = _
      rw [List.append_nil]
    rw [IsKept, Option.isSome_none, if_neg Bool.false_ne_true, hlines, shownLines, hnormal, ne_eq, hcontent]
    by_cases hnil : lines.rdropWhile isEmptyLine = []
    · rw [if_pos hnil, eq_comm]
      refine or_iff_left ?_
      rintro ⟨hne, hends⟩
      rw [endsBlank_eq_false_iff, hnil] at hends
      exact hne hends.symm
    · rw [if_neg hnil, endsBlank_eq_false_iff]
      constructor
      · rintro (rfl | h)
        · exact absurd rfl hnil
        · exact h.2
      · intro h
        refine .inr ⟨?_, h⟩
        rintro rfl
        exact hnil rfl

/-- Lists that are not empty have an item each at least. -/
theorem length_le_flatten {α : Type*} {pieces : List (List α)} (hne : ∀ l ∈ pieces, l ≠ []) :
    pieces.length ≤ pieces.flatten.length := by
  induction pieces with
  | nil => exact le_refl 0
  | cons l pieces ih =>
    obtain ⟨hl, hpieces⟩ := List.forall_mem_cons.mp hne
    have hpos := List.length_pos_iff.mpr hl
    have hle := ih hpieces
    rw [List.flatten_cons, List.length_append, List.length_cons]
    omega

/-- **As many items as there are lists**: each list has one. -/
theorem eq_map_singleton {α : Type*} {pieces : List (List α)} (hne : ∀ l ∈ pieces, l ≠ [])
    (hlength : pieces.flatten.length = pieces.length) : pieces = pieces.flatten.map fun a => [a] := by
  induction pieces with
  | nil => rfl
  | cons l pieces ih =>
    obtain ⟨hl, hpieces⟩ := List.forall_mem_cons.mp hne
    obtain ⟨a, l, rfl⟩ := List.exists_cons_of_ne_nil hl
    have hle := length_le_flatten hpieces
    rw [List.flatten_cons, List.length_append, List.length_cons, List.length_cons] at hlength
    have hnil : l = [] := List.length_eq_zero_iff.mp (by omega)
    rw [hnil, List.length_nil] at hlength
    rw [hnil, List.flatten_cons, List.singleton_append, List.map_cons, ← ih hpieces (by omega)]

/-! ## The main result -/

/-- What is rendered of some chunks, if each of their blocks is rendered as one. -/
theorem rendersAs_iff_of_chunks {chunks : List Text} (hplain : ∀ chunk ∈ chunks, PlainBreaks chunk)
    {lines : List (List Text)} : List.Forall₂ RendersAs (chunks.flatMap (renderedCode u)) lines ↔
      lines = (chunks.flatMap chunkBlocks).map shownLines := by
  have hcode : chunks.flatMap (renderedCode u) =
      (chunks.flatMap chunkBlocks).map fun b => ⟨.code, joinLines b.items⟩ := by
    rw [List.map_flatMap]
    exact List.flatMap_congr fun chunk hchunk => renderedCode_eq u (hplain chunk hchunk)
  have hnormal : ∀ b ∈ chunks.flatMap chunkBlocks, IsNormal b := by
    intro b hb
    obtain ⟨chunk, hchunk, hb⟩ := List.mem_flatMap.mp hb
    exact isNormal_of_mem (hplain chunk hchunk) hb
  rw [hcode]
  generalize chunks.flatMap chunkBlocks = blocks at hnormal
  induction blocks generalizing lines with
  | nil =>
    rw [List.map_nil, List.map_nil, List.forall₂_nil_left_iff]
  | cons b blocks ih =>
    obtain ⟨hb, hblocks⟩ := List.forall_mem_cons.mp hnormal
    rw [List.map_cons, List.map_cons, List.forall₂_cons_left_iff]
    constructor
    · rintro ⟨shown, rest, hshown, hrest, rfl⟩
      rw [hb.rendersAs_iff.mp hshown, (ih hblocks).mp hrest]
    · rintro rfl
      exact ⟨_, _, hb.rendersAs_iff.mpr rfl, (ih hblocks).mpr rfl, rfl⟩

/-- **Chunks that carry the blocks of the text**, each of them whole, deliver them just if each block is kept. -/
theorem delivered_iff_of_carried {chunks : List Text} (hplain : ∀ chunk ∈ chunks, PlainBreaks chunk)
    (hcarried : chunks.flatMap chunkBlocks = (fencedBlocks isFence (text.splitOn '\n')).map normalBlock) :
    Delivered u text chunks ↔ ∀ b ∈ fencedBlocks isFence (text.splitOn '\n'), IsKept b := by
  unfold Delivered
  simp only [rendersAs_iff_of_chunks hplain, hcarried, List.map_map]
  generalize fencedBlocks isFence (text.splitOn '\n') = blocks
  constructor
  · rintro ⟨pieces, hne, hflatten, hparts⟩ b hb
    have hlength : pieces.flatten.length = pieces.length := by
      have hcount := congrArg List.length hflatten
      rw [List.length_map, List.length_map] at hcount
      rw [hparts, List.length_map, hcount]
    have hsingle := eq_map_singleton hne hlength
    rw [hsingle, hparts, List.map_map, List.map_map] at hflatten
    have heq := List.map_inj_left.mp hflatten b hb
    rw [isKept_iff, ← heq]
    simp
  · intro hkept
    refine ⟨blocks.map fun b => [b.content.map rstrip], ?_, ?_, ?_⟩
    · intro parts hparts
      obtain ⟨b, -, rfl⟩ := List.mem_map.mp hparts
      exact List.cons_ne_nil _ _
    · rw [List.map_map]
      exact List.map_congr_left fun b _ => by simp
    · rw [← List.flatMap_def, ← List.map_eq_flatMap]
      exact List.map_congr_left fun b hb => (isKept_iff.mp (hkept b hb)).symm

theorem plainBreaks_normalize (hplain : PlainBreaks text) : PlainBreaks (normalizeMarkdownText text) := by
  have hcr : '\r' ∉ text := fun hmem => absurd (hplain '\r' hmem (by decide)) (by decide)
  intro c hc hbreak
  rcases of_mem_normalize hc with hnew | hmem
  · exact hnew
  · rw [unified_of_not_mem hcr] at hmem
    exact hplain c hmem hbreak

/-- The blocks of a normalised text, as they are normalised once more. -/
theorem map_normalBlock_normalLines (lines : List Text) :
    (fencedBlocks isFence (normalLines lines)).map normalBlock = (fencedBlocks isFence lines).map normalBlock := by
  rw [← fencedBlocks_normalLines, normalLines_idem, fencedBlocks_normalLines]

theorem chunkBlocks_normalize (hplain : PlainBreaks text) :
    chunkBlocks (normalizeMarkdownText text) = (fencedBlocks isFence (text.splitOn '\n')).map normalBlock := by
  have hcr : '\r' ∉ text := fun hmem => absurd (hplain '\r' hmem (by decide)) (by decide)
  rw [normalizeMarkdownText_eq, unified_of_not_mem hcr, ← fencedBlocks_normalLines]
  by_cases hnil : normalLines (text.splitOn '\n') = []
  · rw [hnil]
    rfl
  · rw [chunkBlocks, splitOn_joinLines_normalLines hnil, normalLines_idem]

/-- **Undivided code blocks are carried by the chunks**, each of them whole. -/
theorem chunks_carry (u : Unicode) (hlimit : 1 ≤ limit) (hplain : PlainBreaks text) (hwhole : Undivided u text limit) :
    ∃ chunks, Returns u text limit chunks ∧ (∀ chunk ∈ chunks, PlainBreaks chunk) ∧
      chunks.flatMap chunkBlocks = (fencedBlocks isFence (text.splitOn '\n')).map normalBlock := by
  have hblocks := chunkBlocks_normalize hplain
  by_cases hempty : normalizeMarkdownText text = []
  · refine ⟨[[]], ⟨0, fun fuel _ => if_pos hempty⟩, List.forall_mem_singleton.mpr (List.forall_mem_nil _), ?_⟩
    rw [hempty] at hblocks
    rw [List.flatMap_singleton, hblocks]
  by_cases hshort : (normalizeMarkdownText text).length ≤ limit
  · refine ⟨[normalizeMarkdownText text], ⟨0, fun fuel _ => (if_neg hempty).trans (if_pos hshort)⟩,
      List.forall_mem_singleton.mpr (plainBreaks_normalize hplain), ?_⟩
    rw [List.flatMap_singleton, hblocks]
  obtain ⟨fuel, st, hst, -, hreturns⟩ := split_long u hlimit hempty hshort
  have hlines : splitlines (normalizeMarkdownText text) = normalLines (text.splitOn '\n') := splitlines_normalize hplain
  rw [parseMarkdownBlocks, normalizeMarkdownText_idem, hlines] at hst
  have hisLine : ∀ line ∈ normalLines (text.splitOn '\n'), IsLine line := by
    intro line hline c hc
    obtain ⟨hne, hmem⟩ := of_mem_normalLines hline hc
    exact Bool.eq_false_iff.mpr fun hbreak => hne (hplain c hmem hbreak)
  have hfits := hwhole.resolve_left hshort
  rw [parseMarkdownBlocks, normalizeMarkdownText_idem, hlines] at hfits
  have hcarries := ((parsed_parseLines u _).carries hisLine hfits carries_start closedText_nil hst).flushCurrent
  rw [List.nil_append, map_normalBlock_normalLines] at hcarries
  have hchunks := hcarries.blocks_eq
  refine ⟨st.flushCurrent.chunks, hreturns, fun chunk hchunk => hcarries.plain chunk ?_, ?_⟩
  · exact List.mem_append_left _ hchunk
  · rw [← hchunks]
    exact (List.append_nil _).symm

/-- **Code blocks survive delivery just if each of them is kept as it is**, where no block is divided; a normalised text
is not changed any more. -/
theorem delivered_iff (u : Unicode) {text : Text} {limit : ℕ} (hlimit : 1 ≤ limit) (hplain : PlainBreaks text) :
    (∀ t, normalizeMarkdownText (normalizeMarkdownText t) = normalizeMarkdownText t) ∧
      ∃ chunks, Returns u text limit chunks ∧ (Undivided u text limit →
        (Delivered u text chunks ↔ ∀ b ∈ fencedBlocks isFence (text.splitOn '\n'), IsKept b)) := by
  refine ⟨normalizeMarkdownText_idem, ?_⟩
  by_cases hwhole : Undivided u text limit
  · obtain ⟨chunks, hreturns, hchunks, hcarried⟩ := chunks_carry u hlimit hplain hwhole
    exact ⟨chunks, hreturns, fun _ => delivered_iff_of_carried hchunks hcarried⟩
  · obtain ⟨chunks, hreturns, -, -⟩ := split_bounded u text hlimit
    exact ⟨chunks, hreturns, fun h => absurd h hwhole⟩

/-- A query in a block that ends with a blank line. -/
theorem delivered_iff_query :
    (∀ t, normalizeMarkdownText (normalizeMarkdownText t) = normalizeMarkdownText t) ∧
      ∃ chunks, Returns Unicode.asciiOnly "```\nSELECT 1\n\n```".toList 8000 chunks ∧
        (Undivided Unicode.asciiOnly "```\nSELECT 1\n\n```".toList 8000 →
          (Delivered Unicode.asciiOnly "```\nSELECT 1\n\n```".toList chunks ↔
            ∀ b ∈ fencedBlocks isFence ("```\nSELECT 1\n\n```".toList.splitOn '\n'), IsKept b)) :=
  delivered_iff Unicode.asciiOnly (by decide) (by decide)

/-- A block that ends with its query gets an empty line before its closing fence. -/
theorem query_not_delivered : ∃ chunks, Returns Unicode.asciiOnly "```\nSELECT 1\n```".toList 8000 chunks ∧
    ¬ Delivered Unicode.asciiOnly "```\nSELECT 1\n```".toList chunks := by
  have hshort : (normalizeMarkdownText "```\nSELECT 1\n```".toList).length ≤ 8000 := by decide
  obtain ⟨chunks, hreturns, hplain, hcarried⟩ := chunks_carry Unicode.asciiOnly (by decide) (by decide) (.inl hshort)
  refine ⟨chunks, hreturns, fun hdelivered => ?_⟩
  have hkept := (delivered_iff_of_carried hplain hcarried).mp hdelivered ⟨"```".toList, ["SELECT 1".toList],
    some "```".toList⟩ (List.mem_cons_self)
  exact absurd hkept (by rw [IsKept]; decide)

end DBClaw.FeishuChunks
