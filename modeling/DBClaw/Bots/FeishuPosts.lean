import DBClaw.Bots.FeishuNormalization
import DBClaw.Library.Html
import Mathlib

/-! # Posts of Feishu
`_markdown_to_feishu_rich_text` normalises a chunk of Markdown, parses its blocks and renders them as lines of a post:
paragraphs with their links, bold words and code, tables with columns of equal widths, and the lines of code blocks as
they are. -/

namespace DBClaw.FeishuChunks

open Text

/-! ## Items and lines -/

/-- An item of a line: a text with its style, or a link. -/
inductive PostItem
  | text (text : Text) (style : List String)
  | a (text href : Text)
  deriving DecidableEq

/-- A line of a post. -/
abbrev PostLine := List PostItem

/-- **`_feishu_escape`.** -/
def feishuEscape (text : Text) : Text := Html.escapeOnly ['&', '<', '>'] text

/-- **`_make_text_line`.** -/
def makeTextLine (text : Text) (bold : Bool := false) : PostLine :=
  [.text (feishuEscape text) (if bold then ["bold"] else [])]

/-- `_blank_post_line`. -/
def blankPostLine : PostLine := [.text [' '] []]

/-- What a character is escaped to. -/
theorem feishuEscape_cons (c : Char) (s : Text) : feishuEscape (c :: s) = feishuEscape [c] ++ feishuEscape s := by
  simp [feishuEscape, Html.escapeOnly]

theorem feishuEscape_singleton (c : Char) :
    c = '&' ∧ feishuEscape [c] = ['&', 'a', 'm', 'p', ';'] ∨ c = '<' ∧ feishuEscape [c] = ['&', 'l', 't', ';'] ∨
      c = '>' ∧ feishuEscape [c] = ['&', 'g', 't', ';'] ∨ c ≠ '&' ∧ feishuEscape [c] = [c] := by
  by_cases hamp : c = '&'
  · rw [hamp]
    exact .inl ⟨rfl, rfl⟩
  by_cases hlt : c = '<'
  · rw [hlt]
    exact .inr (.inl ⟨rfl, rfl⟩)
  by_cases hgt : c = '>'
  · rw [hgt]
    exact .inr (.inr (.inl ⟨rfl, rfl⟩))
  · refine .inr (.inr (.inr ⟨hamp, ?_⟩))
    have hplain : c ∉ ['&', '<', '>'] := by simp [hamp, hlt, hgt]
    simp [feishuEscape, Html.escapeOnly, hamp, hlt, hgt]

/-- No escaped character is the start of another one. -/
theorem eq_of_feishuEscape_append {c d : Char} {s t : Text} (h : feishuEscape [c] ++ s = feishuEscape [d] ++ t) :
    c = d ∧ s = t := by
  rcases feishuEscape_singleton c with ⟨hc, hcode⟩ | ⟨hc, hcode⟩ | ⟨hc, hcode⟩ | ⟨hc, hcode⟩ <;>
    rcases feishuEscape_singleton d with ⟨hd, hcode'⟩ | ⟨hd, hcode'⟩ | ⟨hd, hcode'⟩ | ⟨hd, hcode'⟩ <;>
      rw [hcode, hcode'] at h <;> grind

theorem feishuEscape_singleton_ne_nil (c : Char) : feishuEscape [c] ≠ [] := by
  rcases feishuEscape_singleton c with ⟨-, hcode⟩ | ⟨-, hcode⟩ | ⟨-, hcode⟩ | ⟨-, hcode⟩ <;> rw [hcode] <;>
    exact List.cons_ne_nil _ _

/-- **Escaping loses nothing.** -/
theorem feishuEscape_injective : Function.Injective feishuEscape := by
  intro s
  induction s with
  | nil =>
    intro t h
    cases t with
    | nil => rfl
    | cons d t =>
      rw [feishuEscape_cons] at h
      exact absurd (List.append_eq_nil_iff.mp h.symm).1 (feishuEscape_singleton_ne_nil d)
  | cons c s ih =>
    intro t h
    cases t with
    | nil =>
      rw [feishuEscape_cons] at h
      exact absurd (List.append_eq_nil_iff.mp h).1 (feishuEscape_singleton_ne_nil c)
    | cons d t =>
      rw [feishuEscape_cons, feishuEscape_cons d] at h
      obtain ⟨rfl, hrest⟩ := eq_of_feishuEscape_append h
      rw [ih hrest]

theorem makeTextLine_injective : Function.Injective fun line => makeTextLine line := by
  intro s t h
  obtain ⟨htext, -⟩ := PostItem.text.inj (List.cons.inj h).1
  exact feishuEscape_injective htext

/-! ## Inline Markdown -/

/-- A match of a regular expression, with the item that it becomes. -/
structure Match where
  start : ℕ
  finish : ℕ
  item : PostItem

/-- `_MARKDOWN_LINK_RE`, at the start of a text: the length of the match and its item. -/
def linkAt : Text → Option (ℕ × PostItem)
  | '[' :: s =>
    let label := s.takeWhile (· ≠ ']')
    match s.drop label.length with
    | ']' :: '(' :: t =>
      let href := t.takeWhile (· ≠ ')')
      if label ≠ [] ∧ href ≠ [] ∧ href.length < t.length then
        some (label.length + href.length + 4, .a (feishuEscape label) href)
      else none
    | _ => none
  | _ => none

/-- The text before the first two stars, on the line. -/
def untilStars : Text → Option Text
  | '*' :: '*' :: _ => some []
  | '\n' :: _ => none
  | c :: s => (untilStars s).map (c :: ·)
  | [] => none

/-- `_BOLD_RE`. -/
def boldAt : Text → Option (ℕ × PostItem)
  | '*' :: '*' :: c :: s =>
    if c = '\n' then none
    else (untilStars s).map fun bold => (bold.length + 5, .text (feishuEscape (c :: bold)) ["bold"])
  | _ => none

/-- `_INLINE_CODE_RE`. -/
def inlineCodeAt : Text → Option (ℕ × PostItem)
  | '`' :: s =>
    let code := s.takeWhile (· ≠ '`')
    if code ≠ [] ∧ code.length < s.length then
      some (code.length + 2, .text (feishuEscape code) ["code_inline"])
    else none
  | _ => none

/-- `finditer`: the matches from a position on, after some characters that belong to the last one. -/
def findIter (matchAt : Text → Option (ℕ × PostItem)) : ℕ → ℕ → Text → List Match
  | _, _, [] => []
  | skip + 1, pos, _ :: s => findIter matchAt skip (pos + 1) s
  | 0, pos, c :: s =>
    match matchAt (c :: s) with
    | some (n, item) => ⟨pos, pos + n, item⟩ :: findIter matchAt (n - 1) (pos + 1) s
    | none => findIter matchAt 0 (pos + 1) s

/-- A segment without markup. -/
def plainItem (segment : Text) : List PostItem := if segment = [] then [] else [.text (feishuEscape segment) []]

/-- The loop over the matches; one that starts in the last one is skipped. -/
def inlineItems (body : Text) : ℕ → List Match → List PostItem
  | cursor, [] => plainItem (body.drop cursor)
  | cursor, part :: parts =>
    if part.start < cursor then inlineItems body cursor parts
    else plainItem ((body.take part.start).drop cursor) ++ part.item :: inlineItems body part.finish parts

/-- **`_markdown_to_feishu_inline`**: of two matches with one start, the longer one comes first. -/
def markdownToFeishuInline (body : Text) : PostLine :=
  let parts := findIter linkAt 0 0 body ++ findIter boldAt 0 0 body ++ findIter inlineCodeAt 0 0 body
  inlineItems body 0 (parts.mergeSort fun x y =>
    x.start < y.start || (x.start = y.start && y.finish - y.start ≤ x.finish - x.start))

/-- `_markdown_to_feishu_inline(body) or _make_text_line(body)`. -/
def inlineOr (body : Text) : PostLine :=
  if markdownToFeishuInline body = [] then makeTextLine body else markdownToFeishuInline body

/-! ## Paragraphs -/

/-- `"  " * indent`, for the white space before a list item. -/
def indentOf (line : Text) : Text := List.replicate (2 * min ((line.takeWhile isSpace).length / 2) 3) ' '

/-- The text of a heading. -/
def headingText (stripped : Text) : Option Text :=
  if "### ".toList.isPrefixOf stripped then some (stripped.drop 4)
  else if "## ".toList.isPrefixOf stripped then some (stripped.drop 3)
  else if "# ".toList.isPrefixOf stripped then some (stripped.drop 2)
  else none

/-- `flush_paragraph`. -/
def flushParagraph (buffer : List Text) : List PostLine :=
  let paragraph := [' '].intercalate ((buffer.map strip).filter (· ≠ []))
  if paragraph = [] then [] else [inlineOr paragraph]

section Paragraphs

variable (u : Unicode)

/-- What a line becomes that is not part of a paragraph. -/
def specialLine (line : Text) : Option PostLine :=
  let stripped := lstrip line
  match headingText stripped with
  | some heading => some (makeTextLine heading true)
  | none =>
    if isBullet line then
      some (.text (indentOf line ++ "• ".toList) [] :: inlineOr (lstrip (stripped.drop 1)))
    else if isOrdered u line then
      let number := stripped.takeWhile u.isDecimalChar
      some (.text (indentOf line ++ number ++ ". ".toList) [] ::
        inlineOr (lstrip (stripped.drop (number.length + 1))))
    else if isBlockquote line then
      some (.text "│ ".toList ["bold"] :: inlineOr (strip (stripped.drop 1)))
    else none

/-- The loop of `_render_paragraph_lines`. -/
def paragraphLines (buffer : List Text) : List Text → List PostLine
  | [] => flushParagraph buffer
  | rawLine :: rest =>
    let line := rstrip rawLine
    if lstrip line = [] then flushParagraph buffer ++ paragraphLines [] rest
    else match specialLine u line with
      | some special => flushParagraph buffer ++ special :: paragraphLines [] rest
      | none => paragraphLines (buffer ++ [line]) rest

/-- **`_render_paragraph_lines`.** -/
def renderParagraphLines (blockText : Text) : List PostLine := paragraphLines u [] (splitlines blockText)

end Paragraphs

/-! ## Tables -/

/-- A rule of three dashes or more, with or without colons. -/
def isRule (cell : Text) : Bool :=
  let cell := strip cell
  let dashes := if cell.head? = some ':' then cell.drop 1 else cell
  let dashes := if dashes.getLast? = some ':' then dashes.dropLast else dashes
  3 ≤ dashes.length && dashes.all (· = '-')

/-- `_TABLE_SEPARATOR_RE`, for a stripped line. -/
def isTableSeparator (line : Text) : Bool :=
  let inner := if line.head? = some '|' then line.drop 1 else line
  let inner := if inner.getLast? = some '|' then inner.dropLast else inner
  2 ≤ (inner.splitOn '|').length && (inner.splitOn '|').all isRule

/-- The cells of a row. -/
def cellsOf (stripped : Text) : List Text :=
  (((stripped.dropWhile (· = '|')).rdropWhile (· = '|')).splitOn '|').map strip

/-- `text.ljust(width)`. -/
def ljust (width : ℕ) (text : Text) : Text := text ++ List.replicate (width - text.length) ' '

/-- **`_render_table_lines`.** -/
def renderTableLines (tableText : Text) : List PostLine :=
  let rawRows := ((splitlines tableText).map strip).filter (! isTableSeparator ·) |>.map cellsOf
  let colCount := (rawRows.map List.length).foldl max 0
  let rows := rawRows.map fun row => row ++ List.replicate (colCount - row.length) []
  let widths := (List.range colCount).map fun idx => (rows.map fun row => (row.getD idx []).length).foldl max 0
  let lineOf (row : List Text) : Text :=
    rstrip (" | ".toList.intercalate (List.zipWith ljust widths row))
  match rows with
  | [] => []
  | [row] => [makeTextLine (lineOf row) true]
  | row :: rest =>
    makeTextLine (lineOf row) true ::
      makeTextLine ("-+-".toList.intercalate (widths.map fun width => List.replicate (max width 3) '-')) ::
      rest.map fun row => makeTextLine (lineOf row)

/-! ## Code blocks -/

/-- The caption of a code block, if its fence names a language. -/
def caption (fence : Text) : List PostLine :=
  let language := strip (fence.drop 3)
  if language = [] then [] else [makeTextLine ("代码块 (".toList ++ language ++ [')']) true]

/-- `code_lines or [""]`, from the lines after the first fence. -/
def codeLines (lines : List Text) : List Text :=
  let code := if lines.getLast?.any isFence then lines.dropLast else lines
  if code = [] then [[]] else code

/-- **`_render_code_block_lines`.** -/
def renderCodeBlockLines (blockText : Text) : List PostLine :=
  match splitlines blockText with
  | [] => []
  | fence :: lines => caption fence ++ (codeLines lines).map fun line => makeTextLine line

/-! ## Posts -/

section Posts

variable (u : Unicode)

/-- The rendering of a block. -/
def renderBlock (block : Block) : List PostLine :=
  match block.type with
  | .code => renderCodeBlockLines block.text
  | .table => renderTableLines block.text
  | .paragraph => renderParagraphLines u block.text

/-- The blocks that are rendered. -/
def renderedBlocks (text : Text) : List Block :=
  let normalized := normalizeMarkdownText text
  if normalized = [] then [] else parseMarkdownBlocks u normalized

/-- **`_markdown_to_feishu_rich_text`**: the renderings of the blocks, with blank lines between them. -/
def markdownToFeishuRichText (text : Text) : List PostLine :=
  let renderedLines := [blankPostLine].intercalate ((renderedBlocks u text).map (renderBlock u))
  if renderedLines = [] then [blankPostLine] else renderedLines

end Posts

end DBClaw.FeishuChunks
