import DBClaw.Library.Lines

/-! # Chunks of a Feishu message
A post of Feishu holds a limited number of characters, so a longer Markdown text is cut into chunks: at its blocks,
where a block is too long at its lines, and where a line is too long at its characters. `split_bounded` says that the
cutting ends, that every chunk fits, and that nothing visible is lost on the way. -/

namespace DBClaw.FeishuChunks

open Text

variable (u : Unicode)

/-! ## Normalisation -/

/-- The state of the loop of `_normalize_markdown_text`. -/
structure Compaction where
  compacted : List Text := []
  blankCount : ℕ := 0
  inCodeBlock : Bool := false

/-- A line starts with three backticks. -/
def isFence (line : Text) : Bool := "```".toList.isPrefixOf line

/-- One turn of the loop. -/
def Compaction.step (st : Compaction) (rawLine : Text) : Compaction :=
  let line := rstrip rawLine
  let endsBlank := st.compacted.getLast?.all (· = [])
  if isFence line then
    { compacted := (if endsBlank then st.compacted else st.compacted ++ [[]]) ++ [line]
      blankCount := 0
      inCodeBlock := ! st.inCodeBlock }
  else if st.inCodeBlock then { st with compacted := st.compacted ++ [line] }
  else if strip line = [] then
    { st with
      blankCount := st.blankCount + 1
      compacted := if st.blankCount + 1 = 1 ∧ ¬ endsBlank then st.compacted ++ [[]] else st.compacted }
  else { st with blankCount := 0, compacted := st.compacted ++ [line] }

/-- **`_normalize_markdown_text`.** -/
def normalizeMarkdownText (text : Text) : Text :=
  let normalized := replaceCr (joinCrLf text)
  if strip normalized = [] then []
  else
    let compacted := ((normalized.splitOn '\n').foldl Compaction.step {}).compacted
    ['\n'].intercalate ((compacted.dropWhile (· = [])).rdropWhile (· = []))

/-! ## Blocks -/

/-- The types of blocks. -/
inductive BlockType
  | code | table | paragraph
  deriving DecidableEq, Repr

/-- A block. -/
structure Block where
  type : BlockType
  text : Text

/-- `_BULLET_RE.match(line)`. -/
def isBullet (line : Text) : Bool :=
  match lstrip line with
  | mark :: c :: _ => (mark = '-' || mark = '*' || mark = '+') && isSpace c
  | _ => false

/-- `_ORDERED_RE.match(line)`. -/
def isOrdered (line : Text) : Bool :=
  let body := lstrip line
  body.takeWhile u.isDecimalChar ≠ [] &&
    match body.dropWhile u.isDecimalChar with
    | '.' :: c :: _ => isSpace c
    | _ => false

/-- `_BLOCKQUOTE_RE.match(line)`. -/
def isBlockquote (line : Text) : Bool :=
  match lstrip line with
  | '>' :: _ => true
  | _ => false

/-- A line of a list or a quote. -/
def isItem (line : Text) : Bool := isBullet line || isOrdered u line || isBlockquote line

/-- A line of a table. -/
def isTableRow (line : Text) : Bool :=
  let stripped := strip line
  ['|'].isPrefixOf stripped && ['|'].isSuffixOf stripped

/-- The heading of a section. -/
def isHeading (line : Text) : Bool :=
  let body := lstrip line
  "# ".toList.isPrefixOf body || "## ".toList.isPrefixOf body || "### ".toList.isPrefixOf body

/-- A line ends the paragraph whose last line is `last`. -/
def endsParagraph (last line : Text) : Bool :=
  strip line = [] || isFence line || isTableRow line || isHeading line ||
    (isItem u line && strip last ≠ [] && ! isItem u last)

/-- The lines of a code block after its first. -/
def takeCode : List Text → List Text × List Text
  | [] => ([], [])
  | line :: lines =>
    if isFence line then ([line], lines)
    else
      let (code, rest) := takeCode lines
      (line :: code, rest)

/-- The lines of a paragraph after `last`. -/
def takeParagraph (last : Text) : List Text → List Text × List Text
  | [] => ([], [])
  | line :: lines =>
    if endsParagraph u last line then ([], line :: lines)
    else
      let (paragraph, rest) := takeParagraph line lines
      (line :: paragraph, rest)

/-- The lines of a block that starts with `line`, and those after it. -/
def takeBlock (line : Text) (lines : List Text) : BlockType × List Text × List Text :=
  if isFence line then (.code, takeCode lines)
  else if isTableRow line then (.table, lines.span isTableRow)
  else (.paragraph, takeParagraph u line lines)

theorem takeCode_append (lines : List Text) : (takeCode lines).1 ++ (takeCode lines).2 = lines := by
  induction lines with
  | nil => rfl
  | cons line lines ih =>
    rw [takeCode]
    split_ifs
    · rfl
    · exact congrArg (line :: ·) ih

theorem takeParagraph_append (last : Text) (lines : List Text) :
    (takeParagraph u last lines).1 ++ (takeParagraph u last lines).2 = lines := by
  induction lines generalizing last with
  | nil => rfl
  | cons line lines ih =>
    rw [takeParagraph]
    split_ifs
    · rfl
    · exact congrArg (line :: ·) (ih line)

/-- **A block takes the next lines and leaves the others.** -/
theorem takeBlock_append (line : Text) (lines : List Text) :
    (takeBlock u line lines).2.1 ++ (takeBlock u line lines).2.2 = lines := by
  unfold takeBlock
  split_ifs
  · exact takeCode_append lines
  · rw [List.span_eq_takeWhile_dropWhile]
    exact List.takeWhile_append_dropWhile
  · exact takeParagraph_append u line lines

theorem length_takeBlock_le (line : Text) (lines : List Text) : (takeBlock u line lines).2.2.length ≤ lines.length := by
  conv_rhs => rw [← takeBlock_append u line lines]
  rw [List.length_append]
  omega

/-- The loop of `_parse_markdown_blocks`. -/
def parseLines : List Text → List Block
  | [] => []
  | line :: lines =>
    if strip line = [] then parseLines lines
    else
      ⟨(takeBlock u line lines).1, ['\n'].intercalate (line :: (takeBlock u line lines).2.1)⟩ ::
        parseLines (takeBlock u line lines).2.2
  termination_by lines => lines.length
  decreasing_by
  · exact Nat.lt_succ_self _
  · exact Nat.lt_succ_of_le (length_takeBlock_le u line lines)

/-- **`_parse_markdown_blocks`.** -/
def parseMarkdownBlocks (text : Text) : List Block := parseLines u (splitlines (normalizeMarkdownText text))

/-! ## Chunks -/

/-- The variables that the closures of `_split_markdown_chunks` share. -/
structure Chunking where
  chunks : List Text := []
  current : List Text := []
  currentLen : ℕ := 0

/-- `"\n\n".join(current)`. -/
def joinBlocks (current : List Text) : Text := ['\n', '\n'].intercalate current

/-- `"\n".join(buffer)`. -/
def joinLines (buffer : List Text) : Text := ['\n'].intercalate buffer

/-- **`flush_current`.** -/
def Chunking.flushCurrent (st : Chunking) : Chunking where
  chunks := if st.current ≠ [] then st.chunks ++ [rstrip (joinBlocks st.current)] else st.chunks

/-- The current chunk is flushed when a block does not fit into it. -/
def Chunking.makeRoom (limit : ℕ) (st : Chunking) (blockText : Text) : Chunking :=
  if st.current ≠ [] ∧ st.currentLen + 2 + blockText.length > limit then st.flushCurrent else st

/-- A block is put into the current chunk. -/
def Chunking.push (st : Chunking) (blockText : Text) : Chunking where
  chunks := st.chunks
  current := st.current ++ [blockText]
  currentLen := (joinBlocks (st.current ++ [blockText])).length

/-- The loop over the pieces of a line that is too long. Each turn takes some fuel, and without fuel there is no
result: with a limit of zero the loop does not end. -/
def appendPieces (append : Chunking → Text → Option Chunking) (limit : ℕ) : ℕ → Chunking → Text → Option Chunking
  | _, st, [] => some st
  | 0, _, _ :: _ => none
  | fuel + 1, st, c :: line => do
    let st ← append st ((c :: line).take limit)
    appendPieces append limit fuel st ((c :: line).drop limit)

/-- `if buffer: append_block("\n".join(buffer))`. -/
def appendBuffer (append : Chunking → Text → Option Chunking) (st : Chunking) (buffer : List Text) : Option Chunking :=
  if buffer ≠ [] then append st (joinLines buffer) else some st

/-- The loop over the lines of a block that is too long. -/
def appendLines (append : Chunking → Text → Option Chunking) (limit fuel : ℕ) :
    List Text → Chunking → List Text → ℕ → Option Chunking
  | [], st, buffer, _ => appendBuffer append st buffer
  | line :: lines, st, buffer, bufferLen =>
    if line.length > limit then do
      let st ← appendBuffer append st buffer
      let st ← appendPieces append limit fuel st line
      appendLines append limit fuel lines st [] (if buffer ≠ [] then 0 else bufferLen)
    else
      let extra := line.length + if buffer ≠ [] then 1 else 0
      if buffer ≠ [] ∧ bufferLen + extra > limit then do
        let st ← append st (joinLines buffer)
        appendLines append limit fuel lines st [line] line.length
      else appendLines append limit fuel lines st (buffer ++ [line]) (bufferLen + extra)

/-- **`append_block`.** A call takes some fuel. -/
def appendBlock (limit : ℕ) : ℕ → Chunking → Text → Option Chunking
  | 0, _, _ => none
  | fuel + 1, st, blockText =>
    if strip blockText = [] then some st
    else if blockText.length ≤ limit then some ((st.makeRoom limit blockText).push blockText)
    else
      appendLines (appendBlock limit fuel) limit fuel (splitlines blockText) (st.makeRoom limit blockText) [] 0

/-- **`_split_markdown_chunks`.** -/
def splitMarkdownChunks (fuel : ℕ) (text : Text) (limit : ℕ) : Option (List Text) :=
  let normalized := normalizeMarkdownText text
  if normalized = [] then some [[]]
  else if normalized.length ≤ limit then some [normalized]
  else do
    let st ← (parseMarkdownBlocks u normalized).foldlM (fun st block => appendBlock limit fuel st block.text) {}
    let chunks := st.flushCurrent.chunks
    some (if chunks ≠ [] then chunks else [normalized.take limit])

/-! ## Nothing visible is lost -/

theorem visible_joinLines (lines : List Text) : visible (['\n'].intercalate lines) = visibleAll lines :=
  visible_intercalate rfl lines

theorem visible_joinBlocks (current : List Text) : visible (joinBlocks current) = visibleAll current :=
  visible_intercalate rfl current

/-- One turn keeps the visible characters of a line. -/
theorem Compaction.visibleAll_step (st : Compaction) (rawLine : Text) :
    visibleAll (st.step rawLine).compacted = visibleAll st.compacted ++ visible rawLine := by
  have hline : visibleAll [rstrip rawLine] = visible rawLine := by rw [visibleAll_singleton, visible_rstrip]
  have hblank : visibleAll [[]] = [] := rfl
  unfold Compaction.step
  simp only
  split_ifs with hfence hends hcode hstrip hfirst
  · rw [visibleAll_append, hline]
  · rw [visibleAll_append, visibleAll_append, hline, hblank, List.append_nil]
  · rw [visibleAll_append, hline]
  · rw [strip_eq_nil_iff, visible_rstrip] at hstrip
    rw [visibleAll_append, hblank, hstrip]
  · rw [strip_eq_nil_iff, visible_rstrip] at hstrip
    rw [hstrip, List.append_nil]
  · rw [visibleAll_append, hline]

theorem Compaction.visibleAll_foldl (lines : List Text) (st : Compaction) :
    visibleAll (lines.foldl Compaction.step st).compacted = visibleAll st.compacted ++ visibleAll lines := by
  induction lines generalizing st with
  | nil => exact (List.append_nil _).symm
  | cons line lines ih => rw [List.foldl_cons, ih, st.visibleAll_step, visibleAll_cons, List.append_assoc]

/-- **Normalisation keeps every visible character.** -/
theorem visible_normalizeMarkdownText (text : Text) : visible (normalizeMarkdownText text) = visible text := by
  have hunified : visible (replaceCr (joinCrLf text)) = visible text := by rw [visible_replaceCr, visible_joinCrLf]
  rw [normalizeMarkdownText]
  simp only
  split_ifs with hstrip
  · rw [strip_eq_nil_iff, hunified] at hstrip
    rw [hstrip]
    rfl
  · rw [visible_joinLines, visibleAll_rdropWhile, visibleAll_dropWhile, Compaction.visibleAll_foldl, ← hunified]
    have hlines : ['\n'].intercalate ((replaceCr (joinCrLf text)).splitOn '\n') = replaceCr (joinCrLf text) :=
      List.intercalate_splitOn '\n'
    conv_rhs => rw [← hlines, visible_joinLines]
    rfl

/-- A normalised text is empty or has something to see. -/
theorem visible_normalizeMarkdownText_ne_nil {text : Text} (h : normalizeMarkdownText text ≠ []) :
    visible (normalizeMarkdownText text) ≠ [] := by
  rw [visible_normalizeMarkdownText]
  intro hnil
  refine h ?_
  rw [normalizeMarkdownText]
  refine if_pos (strip_eq_nil_iff.mpr ?_)
  rw [visible_replaceCr, visible_joinCrLf, hnil]

/-- The texts of blocks. -/
def textsOf (blocks : List Block) : List Text := blocks.map Block.text

/-- **The blocks have the visible characters of the lines.** -/
theorem visibleAll_parseLines (lines : List Text) : visibleAll (textsOf (parseLines u lines)) = visibleAll lines := by
  induction lines using parseLines.induct u with
  | case1 =>
    rw [parseLines]
    rfl
  | case2 line lines hblank ih =>
    rw [parseLines, if_pos hblank, ih, visibleAll_cons, strip_eq_nil_iff.mp hblank, List.nil_append]
  | case3 line lines hblank ih =>
    rw [parseLines, if_neg hblank, textsOf, List.map_cons, visibleAll_cons, visible_joinLines, visibleAll_cons,
      ← textsOf, ih, List.append_assoc, ← visibleAll_append, takeBlock_append, visibleAll_cons]

theorem visibleAll_parseMarkdownBlocks (text : Text) :
    visibleAll (textsOf (parseMarkdownBlocks u text)) = visible text := by
  rw [parseMarkdownBlocks, visibleAll_parseLines, visibleAll_splitlines, visible_normalizeMarkdownText]

/-! ## Chunks fit -/

/-- **The closures keep chunks that fit**: `current_len` is the length of the joined blocks, which fit into one chunk,
and what has been taken over is visible in the chunks and these blocks. -/
structure Sound (limit : ℕ) (st : Chunking) (taken : Text) : Prop where
  short : ∀ chunk ∈ st.chunks, chunk.length ≤ limit
  currentLen_eq : st.currentLen = (joinBlocks st.current).length
  fits : (joinBlocks st.current).length ≤ limit
  visible_eq : visibleAll (st.chunks ++ st.current) = taken

/-- A closure takes over a text. -/
def Takes (limit : ℕ) (append : Chunking → Text → Option Chunking) (text : Text) : Prop :=
  ∀ st taken, Sound limit st taken → ∃ st', append st text = some st' ∧ Sound limit st' (taken ++ visible text)

variable {limit fuel : ℕ} {st : Chunking} {taken text : Text}

theorem sound_start (limit : ℕ) : Sound limit {} [] where
  short := List.forall_mem_nil _
  currentLen_eq := rfl
  fits := Nat.zero_le limit
  visible_eq := rfl

theorem Sound.flushCurrent (h : Sound limit st taken) : Sound limit st.flushCurrent taken where
  short := by
    rw [Chunking.flushCurrent]
    split_ifs
    · intro chunk hchunk
      rcases List.mem_append.mp hchunk with hchunk | hchunk
      · exact h.short chunk hchunk
      · rw [List.mem_singleton.mp hchunk]
        exact (length_rstrip_le _).trans h.fits
    · exact h.short
  currentLen_eq := rfl
  fits := Nat.zero_le limit
  visible_eq := by
    have htaken := h.visible_eq
    rw [visibleAll_append] at htaken ⊢
    rw [Chunking.flushCurrent]
    split_ifs with hcurrent
    · rw [visibleAll_append, visibleAll_singleton, visible_rstrip, visible_joinBlocks, htaken]
      exact List.append_nil taken
    · rw [not_not.mp hcurrent] at htaken
      exact htaken

theorem length_joinBlocks_append {current : List Text} (hcurrent : current ≠ []) (text : Text) :
    (joinBlocks (current ++ [text])).length = (joinBlocks current).length + 2 + text.length := by
  rw [joinBlocks, intercalate_append_singleton hcurrent, List.length_append, List.length_append]
  rfl

theorem length_joinLines_append {buffer : List Text} (hbuffer : buffer ≠ []) (line : Text) :
    (joinLines (buffer ++ [line])).length = (joinLines buffer).length + 1 + line.length := by
  rw [joinLines, intercalate_append_singleton hbuffer, List.length_append, List.length_append]
  rfl

theorem Sound.makeRoom (h : Sound limit st taken) (text : Text) : Sound limit (st.makeRoom limit text) taken := by
  rw [Chunking.makeRoom]
  split_ifs
  · exact h.flushCurrent
  · exact h

/-- There is room for a short block then. -/
theorem Sound.length_push_le (h : Sound limit st taken) (htext : text.length ≤ limit) :
    (joinBlocks ((st.makeRoom limit text).current ++ [text])).length ≤ limit := by
  rw [Chunking.makeRoom]
  split_ifs with hlong
  · rwa [Chunking.flushCurrent, List.nil_append, joinBlocks, List.intercalate_singleton]
  · by_cases hcurrent : st.current = []
    · rwa [hcurrent, List.nil_append, joinBlocks, List.intercalate_singleton]
    · have hfits : ¬ st.currentLen + 2 + text.length > limit := fun hgt => hlong ⟨hcurrent, hgt⟩
      rw [length_joinBlocks_append hcurrent, ← h.currentLen_eq]
      omega

theorem Sound.push (h : Sound limit st taken) (hfits : (joinBlocks (st.current ++ [text])).length ≤ limit) :
    Sound limit (st.push text) (taken ++ visible text) where
  short := h.short
  currentLen_eq := rfl
  fits := hfits
  visible_eq := by
    rw [Chunking.push, ← List.append_assoc, visibleAll_append, h.visible_eq, visibleAll_singleton]

/-- **A short block becomes part of the current chunk.** -/
theorem takes_of_short (fuel : ℕ) (htext : text.length ≤ limit) : Takes limit (appendBlock limit (fuel + 1)) text := by
  intro st taken h
  by_cases hblank : strip text = []
  · refine ⟨st, if_pos hblank, ?_⟩
    rwa [strip_eq_nil_iff.mp hblank, List.append_nil]
  · refine ⟨(st.makeRoom limit text).push text, ?_, (h.makeRoom text).push (h.length_push_le htext)⟩
    rw [appendBlock, if_neg hblank, if_pos htext]

variable {append : Chunking → Text → Option Chunking}

/-- **The pieces of a line are taken one after the other.** -/
theorem takes_appendPieces (hlimit : 1 ≤ limit) (happend : ∀ text, text.length ≤ limit → Takes limit append text)
    (line : Text) (hfuel : line.length ≤ fuel) : Takes limit (appendPieces append limit fuel) line := by
  induction fuel generalizing line with
  | zero =>
    obtain rfl := List.eq_nil_of_length_eq_zero (Nat.le_zero.mp hfuel)
    intro st taken h
    exact ⟨st, rfl, by rwa [visible_nil, List.append_nil]⟩
  | succ fuel ih =>
    intro st taken h
    cases line with
    | nil => exact ⟨st, by rw [appendPieces], by rwa [visible_nil, List.append_nil]⟩
    | cons c line =>
      obtain ⟨st₁, hst₁, hsound₁⟩ := happend _ (List.length_take_le limit (c :: line)) st taken h
      have hdrop : ((c :: line).drop limit).length ≤ fuel := by
        rw [List.length_drop]
        omega
      obtain ⟨st₂, hst₂, hsound₂⟩ := ih _ hdrop st₁ _ hsound₁
      refine ⟨st₂, ?_, ?_⟩
      · rw [appendPieces, hst₁]
        exact hst₂
      · rwa [List.append_assoc, ← visible_append, List.take_append_drop] at hsound₂

/-- What is buffered is as long as the counter says, and fits. -/
structure Buffered (limit : ℕ) (buffer : List Text) (bufferLen : ℕ) : Prop where
  length_eq : bufferLen = (joinLines buffer).length
  fits : bufferLen ≤ limit

theorem buffered_nil (limit : ℕ) : Buffered limit [] 0 := ⟨rfl, Nat.zero_le limit⟩

theorem buffered_singleton {line : Text} (h : line.length ≤ limit) : Buffered limit [line] line.length :=
  ⟨by rw [joinLines, List.intercalate_singleton], h⟩

variable {buffer : List Text} {bufferLen : ℕ}

/-- The buffer is taken over. -/
theorem takes_appendBuffer (happend : ∀ text, text.length ≤ limit → Takes limit append text)
    (hbuffer : Buffered limit buffer bufferLen) (h : Sound limit st taken) :
    ∃ st', appendBuffer append st buffer = some st' ∧ Sound limit st' (taken ++ visibleAll buffer) := by
  rw [appendBuffer]
  split_ifs with hnil
  · have hshort : (joinLines buffer).length ≤ limit := hbuffer.length_eq ▸ hbuffer.fits
    obtain ⟨st', hst', hsound⟩ := happend _ hshort st taken h
    exact ⟨st', hst', by rwa [joinLines, visible_joinLines] at hsound⟩
  · refine ⟨st, rfl, ?_⟩
    rwa [not_not.mp hnil, visibleAll_nil, List.append_nil]

/-- One line more is buffered where it fits. -/
theorem Buffered.push (h : Buffered limit buffer bufferLen) {line : Text} (hline : line.length ≤ limit)
    (hfits : ¬ (buffer ≠ [] ∧ bufferLen + (line.length + if buffer ≠ [] then 1 else 0) > limit)) :
    Buffered limit (buffer ++ [line]) (bufferLen + (line.length + if buffer ≠ [] then 1 else 0)) := by
  have hlen := h.length_eq
  by_cases hnil : buffer = []
  · rw [hnil] at hlen ⊢
    have hzero : bufferLen = 0 := hlen
    rw [hzero, if_neg (not_not_intro rfl), Nat.zero_add, Nat.add_zero]
    exact buffered_singleton hline
  · rw [if_pos hnil] at hfits ⊢
    refine ⟨?_, not_lt.mp fun hgt => hfits ⟨hnil, hgt⟩⟩
    rw [length_joinLines_append hnil, ← hlen]
    omega

/-- **The lines of a long block are taken over**, by buffers that fit and pieces of lines. -/
theorem takes_appendLines (hlimit : 1 ≤ limit) (happend : ∀ text, text.length ≤ limit → Takes limit append text)
    {lines : List Text} (hfuel : ∀ line ∈ lines, line.length ≤ fuel) (hbuffer : Buffered limit buffer bufferLen)
    (h : Sound limit st taken) :
    ∃ st', appendLines append limit fuel lines st buffer bufferLen = some st' ∧
      Sound limit st' (taken ++ visibleAll buffer ++ visibleAll lines) := by
  induction lines generalizing st taken buffer bufferLen with
  | nil =>
    rw [visibleAll_nil, List.append_nil]
    exact takes_appendBuffer happend hbuffer h
  | cons line lines ih =>
    obtain ⟨hline, hlines⟩ := List.forall_mem_cons.mp hfuel
    rw [appendLines]
    by_cases hlong : line.length > limit
    · rw [if_pos hlong]
      -- the buffer is taken over, then the pieces of the line
      obtain ⟨st₁, hst₁, hsound₁⟩ := takes_appendBuffer happend hbuffer h
      obtain ⟨st₂, hst₂, hsound₂⟩ := takes_appendPieces hlimit happend line hline st₁ _ hsound₁
      have hempty : Buffered limit [] (if buffer ≠ [] then 0 else bufferLen) := by
        split_ifs with hnil
        · exact buffered_nil limit
        · rw [← not_not.mp hnil]
          exact hbuffer
      obtain ⟨st₃, hst₃, hsound₃⟩ := ih hlines hempty hsound₂
      refine ⟨st₃, ?_, ?_⟩
      · rw [hst₁, Option.bind_eq_bind, Option.bind_some, hst₂]
        exact hst₃
      · rwa [visibleAll_nil, List.append_nil, List.append_assoc, ← visibleAll_cons] at hsound₃
    rw [if_neg hlong]
    by_cases hfull : buffer ≠ [] ∧ bufferLen + (line.length + if buffer ≠ [] then 1 else 0) > limit
    · -- the line starts a buffer of its own
      obtain ⟨st₁, hst₁, hsound₁⟩ := takes_appendBuffer happend hbuffer h
      rw [appendBuffer, if_pos hfull.1] at hst₁
      obtain ⟨st₂, hst₂, hsound₂⟩ := ih hlines (buffered_singleton (not_lt.mp hlong)) hsound₁
      refine ⟨st₂, (if_pos hfull).trans ?_, ?_⟩
      · rw [hst₁]
        exact hst₂
      · rwa [visibleAll_singleton, List.append_assoc, ← visibleAll_cons] at hsound₂
    · obtain ⟨st₁, hst₁, hsound₁⟩ := ih hlines (hbuffer.push (not_lt.mp hlong) hfull) h
      refine ⟨st₁, (if_neg hfull).trans hst₁, ?_⟩
      rwa [visibleAll_append, visibleAll_singleton, ← List.append_assoc, List.append_assoc,
        ← visibleAll_cons] at hsound₁

/-- **Every block is taken over**: the calls that it makes are for short ones. -/
theorem takes_appendBlock (hlimit : 1 ≤ limit) (text : Text) (hfuel : text.length + 2 ≤ fuel) :
    Takes limit (appendBlock limit fuel) text := by
  obtain ⟨fuel, rfl⟩ : ∃ n, fuel = n + 2 := ⟨fuel - 2, by omega⟩
  by_cases hshort : text.length ≤ limit
  · exact takes_of_short (fuel + 1) hshort
  intro st taken h
  by_cases hblank : strip text = []
  · refine ⟨st, if_pos hblank, ?_⟩
    rwa [strip_eq_nil_iff.mp hblank, List.append_nil]
  rw [appendBlock, if_neg hblank, if_neg hshort]
  have hlines : ∀ line ∈ splitlines text, line.length ≤ fuel + 1 := by
    intro line hline
    have hle := length_le_of_mem_splitlines hline
    omega
  have htakes := takes_appendLines hlimit (fun text => takes_of_short fuel) hlines (buffered_nil limit)
    (h.makeRoom text)
  rwa [visibleAll_nil, List.append_nil, visibleAll_splitlines] at htakes

/-- The blocks of a text are taken over. -/
theorem takes_blocks (hlimit : 1 ≤ limit) {blocks : List Block} (hfuel : ∀ block ∈ blocks, block.text.length + 2 ≤ fuel)
    (h : Sound limit st taken) :
    ∃ st', blocks.foldlM (fun st block => appendBlock limit fuel st block.text) st = some st' ∧
      Sound limit st' (taken ++ visibleAll (textsOf blocks)) := by
  induction blocks generalizing st taken with
  | nil => exact ⟨st, rfl, by rwa [textsOf, List.map_nil, visibleAll_nil, List.append_nil]⟩
  | cons block blocks ih =>
    obtain ⟨hblock, hblocks⟩ := List.forall_mem_cons.mp hfuel
    obtain ⟨st₁, hst₁, hsound₁⟩ := takes_appendBlock hlimit block.text hblock st taken h
    obtain ⟨st₂, hst₂, hsound₂⟩ := ih hblocks hsound₁
    refine ⟨st₂, ?_, ?_⟩
    · rw [List.foldlM_cons, hst₁]
      exact hst₂
    · rwa [List.append_assoc, ← visibleAll_cons] at hsound₂

/-! ## More fuel changes nothing -/

variable {append' : Chunking → Text → Option Chunking} {fuel' : ℕ} {st' : Chunking}

/-- What a closure returns, another one returns too. -/
def Extends (append append' : Chunking → Text → Option Chunking) : Prop :=
  ∀ st text st', append st text = some st' → append' st text = some st'

theorem appendPieces_mono (h : Extends append append') (hle : fuel ≤ fuel') {line : Text}
    (hrun : appendPieces append limit fuel st line = some st') :
    appendPieces append' limit fuel' st line = some st' := by
  induction fuel generalizing fuel' st line with
  | zero =>
    cases line with
    | nil =>
      rw [appendPieces] at hrun ⊢
      exact hrun
    | cons c line => cases hrun
  | succ fuel ih =>
    obtain ⟨fuel', rfl⟩ : ∃ n, fuel' = n + 1 := ⟨fuel' - 1, by omega⟩
    cases line with
    | nil =>
      rw [appendPieces] at hrun ⊢
      exact hrun
    | cons c line =>
      rw [appendPieces] at hrun ⊢
      obtain ⟨st₁, hst₁, hrest⟩ := Option.bind_eq_some_iff.mp hrun
      rw [h _ _ _ hst₁]
      exact ih (by omega) hrest

theorem appendBuffer_mono (h : Extends append append') (hrun : appendBuffer append st buffer = some st') :
    appendBuffer append' st buffer = some st' := by
  rw [appendBuffer] at hrun ⊢
  split_ifs at hrun ⊢
  · exact h _ _ _ hrun
  · exact hrun

theorem appendLines_mono (h : Extends append append') (hle : fuel ≤ fuel') {lines : List Text}
    (hrun : appendLines append limit fuel lines st buffer bufferLen = some st') :
    appendLines append' limit fuel' lines st buffer bufferLen = some st' := by
  induction lines generalizing st buffer bufferLen with
  | nil => exact appendBuffer_mono h hrun
  | cons line lines ih =>
    rw [appendLines] at hrun ⊢
    by_cases hlong : line.length > limit
    · rw [if_pos hlong] at hrun ⊢
      obtain ⟨st₁, hst₁, hrest⟩ := Option.bind_eq_some_iff.mp hrun
      obtain ⟨st₂, hst₂, hrest⟩ := Option.bind_eq_some_iff.mp hrest
      rw [appendBuffer_mono h hst₁, Option.bind_eq_bind, Option.bind_some, appendPieces_mono h hle hst₂]
      exact ih hrest
    · rw [if_neg hlong] at hrun ⊢
      by_cases hfull : buffer ≠ [] ∧ bufferLen + (line.length + if buffer ≠ [] then 1 else 0) > limit
      · obtain ⟨st₁, hst₁, hrest⟩ := Option.bind_eq_some_iff.mp ((if_pos hfull).symm.trans hrun)
        refine (if_pos hfull).trans ?_
        rw [h _ _ _ hst₁]
        exact ih hrest
      · exact (if_neg hfull).trans (ih ((if_neg hfull).symm.trans hrun))

/-- **A call that returns with some fuel returns the same with more.** -/
theorem appendBlock_mono (hle : fuel ≤ fuel') : Extends (appendBlock limit fuel) (appendBlock limit fuel') := by
  induction fuel generalizing fuel' with
  | zero =>
    intro st text st' hrun
    cases hrun
  | succ fuel ih =>
    obtain ⟨fuel', rfl⟩ : ∃ n, fuel' = n + 1 := ⟨fuel' - 1, by omega⟩
    intro st text st' hrun
    rw [appendBlock] at hrun ⊢
    split_ifs at hrun ⊢
    · exact hrun
    · exact hrun
    · exact appendLines_mono (ih (by omega)) (by omega) hrun

theorem foldlM_mono (hle : fuel ≤ fuel') {blocks : List Block}
    (hrun : blocks.foldlM (fun st block => appendBlock limit fuel st block.text) st = some st') :
    blocks.foldlM (fun st block => appendBlock limit fuel' st block.text) st = some st' := by
  induction blocks generalizing st with
  | nil => exact hrun
  | cons block blocks ih =>
    rw [List.foldlM_cons] at hrun ⊢
    obtain ⟨st₁, hst₁, hrest⟩ := Option.bind_eq_some_iff.mp hrun
    rw [appendBlock_mono hle _ _ _ hst₁]
    exact ih hrest

/-! ## The splitter -/

/-- The chunks that a call returns once it has some fuel. -/
def Returns (text : Text) (limit : ℕ) (chunks : List Text) : Prop :=
  ∃ enough, ∀ fuel ≥ enough, splitMarkdownChunks u fuel text limit = some chunks

/-- **A text that is too long for one chunk**: its blocks are appended, and the last chunk is flushed. -/
theorem split_long {text : Text} {limit : ℕ} (hlimit : 1 ≤ limit) (hempty : normalizeMarkdownText text ≠ [])
    (hshort : ¬ (normalizeMarkdownText text).length ≤ limit) : ∃ fuel st,
      (parseMarkdownBlocks u (normalizeMarkdownText text)).foldlM
        (fun st block => appendBlock limit fuel st block.text) {} = some st ∧
      Sound limit st.flushCurrent (visible (normalizeMarkdownText text)) ∧
      Returns u text limit st.flushCurrent.chunks := by
  -- fuel for the longest block
  let enough := ((textsOf (parseMarkdownBlocks u (normalizeMarkdownText text))).map List.length).sum + 2
  have hfuel : ∀ block ∈ parseMarkdownBlocks u (normalizeMarkdownText text), block.text.length + 2 ≤ enough := by
    intro block hblock
    have hmem := List.mem_map_of_mem (f := List.length) (List.mem_map_of_mem (f := Block.text) hblock)
    exact Nat.add_le_add_right (List.single_le_sum (fun _ _ => Nat.zero_le _) _ hmem) 2
  obtain ⟨st, hst, hsound⟩ := takes_blocks hlimit hfuel (sound_start limit)
  rw [visibleAll_parseMarkdownBlocks, List.nil_append] at hsound
  have hflush := hsound.flushCurrent
  refine ⟨enough, st, hst, hflush, enough, fun fuel hle => ?_⟩
  have hchunks : st.flushCurrent.chunks ≠ [] := by
    intro hnil
    have hvisible := hflush.visible_eq
    rw [hnil] at hvisible
    exact visible_normalizeMarkdownText_ne_nil hempty hvisible.symm
  rw [splitMarkdownChunks, if_neg hempty, if_neg hshort, foldlM_mono hle hst]
  exact congrArg some (if_pos hchunks)

/-- **Splitting ends, every chunk fits, and nothing visible is lost**, moved or doubled. -/
theorem split_bounded (text : Text) {limit : ℕ} (hlimit : 1 ≤ limit) :
    ∃ chunks, Returns u text limit chunks ∧ (∀ chunk ∈ chunks, chunk.length ≤ limit) ∧
      visible chunks.flatten = visible (normalizeMarkdownText text) := by
  by_cases hempty : normalizeMarkdownText text = []
  · refine ⟨[[]], ⟨0, fun fuel _ => if_pos hempty⟩, by simp, ?_⟩
    rw [hempty]
    rfl
  by_cases hshort : (normalizeMarkdownText text).length ≤ limit
  · refine ⟨[normalizeMarkdownText text], ⟨0, fun fuel _ => ?_⟩, by simpa using hshort, by simp⟩
    rw [splitMarkdownChunks, if_neg hempty, if_pos hshort]
  obtain ⟨fuel, st, -, hflush, hreturns⟩ := split_long u hlimit hempty hshort
  refine ⟨st.flushCurrent.chunks, hreturns, hflush.short, ?_⟩
  have hvisible := hflush.visible_eq
  have hcurrent : visibleAll st.flushCurrent.current = [] := rfl
  rwa [visible_flatten, ← List.append_nil (visibleAll _), ← hcurrent, ← visibleAll_append]

/-- Three words in chunks of five characters. -/
theorem split_words_bounded :
    ∃ chunks, Returns Unicode.asciiOnly "one two three".toList 5 chunks ∧ (∀ chunk ∈ chunks, chunk.length ≤ 5) ∧
      visible chunks.flatten = visible (normalizeMarkdownText "one two three".toList) :=
  split_bounded Unicode.asciiOnly "one two three".toList (by decide)

end DBClaw.FeishuChunks
