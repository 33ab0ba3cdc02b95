import DBClaw.Library.Lines
import Mathlib

/-! # Sections of a document
`_split_markdown_sections` cuts a document at its headings. The title of a section is the path of headings over it,
kept in a stack that is cut at the position that the level of a heading names; where levels are skipped, a position is
not a level. A line that looks like a heading is taken for one, inside a block of code too. `splitsWell_iff` says for
which documents neither does any harm. -/

namespace DBClaw.Documents

/-- A heading: how many `#` it has, and its text. -/
structure Heading where
  level : ℕ
  text : Text
  deriving DecidableEq, Repr

/-- `_SECTION_HEADING_PATTERN.match(line.strip())`. -/
def headingOf (line : Text) : Option Heading :=
  let s := Text.strip line
  let level := (s.takeWhile (· = '#')).length
  if 1 ≤ level ∧ level ≤ 6 ∧ (s.drop level).head?.any Text.isSpace then some ⟨level, Text.strip (s.drop level)⟩ else none

/-- A section. -/
structure Section where
  heading : Text
  title : Text
  level : ℕ
  body : Text
  deriving DecidableEq, Repr

/-- The heading of what comes before all headings. -/
def overview : Text := ['文', '档', '概', '览']

/-- `"\n".join(lines).strip()`. -/
def bodyOf (lines : List Text) : Text := Text.strip (['\n'].intercalate lines)

/-- `" / ".join(titles)`. -/
def pathOf (titles : List Text) : Text := [' ', '/', ' '].intercalate titles

/-! ## Splitting -/

/-- The variables of the loop. -/
structure Splitter where
  sections : List Section := []
  currentTitle : Text := overview
  currentHeading : Text := overview
  currentLevel : ℕ := 1
  currentLines : List Text := []
  titleStack : List Text := []

/-- `flush_current`. -/
def Splitter.flushCurrent (s : Splitter) : List Section :=
  let body := bodyOf s.currentLines
  if body ≠ [] then s.sections ++ [⟨s.currentHeading, s.currentTitle, s.currentLevel, body⟩] else s.sections

/-- One line. -/
def Splitter.read (s : Splitter) (line : Text) : Splitter :=
  match headingOf line with
  | some heading =>
    let titleStack := s.titleStack.take (heading.level - 1) ++ [heading.text]
    { sections := s.flushCurrent
      currentTitle := pathOf titleStack
      currentHeading := heading.text
      currentLevel := heading.level
      currentLines := []
      titleStack := titleStack }
  | none => { s with currentLines := s.currentLines ++ [line] }

/-- **`_split_markdown_sections`.** -/
def splitMarkdownSections (content : Text) : List Section :=
  ((Text.splitlines content).foldl Splitter.read {}).flushCurrent

/-! ## Groups of lines -/

/-- Some lines that follow a heading, with all headings up to it, the last one first. -/
structure Group where
  headings : List Heading
  lines : List Text

/-- Lines with their headings are cut at the headings, after some headings and some lines. -/
def groupsAfter (headings : List Heading) (lines : List Text) : List (Text × Option Heading) → List Group
  | [] => [⟨headings, lines⟩]
  | (_, some heading) :: rest => ⟨headings, lines⟩ :: groupsAfter (heading :: headings) [] rest
  | (line, none) :: rest => groupsAfter headings (lines ++ [line]) rest

/-- The section of a group, unless it is blank. -/
def Group.toSection (path : List Heading → List Text) (group : Group) : Option Section :=
  let body := bodyOf group.lines
  if body ≠ [] then
    match group.headings with
    | [] => some ⟨overview, overview, 1, body⟩
    | heading :: _ => some ⟨heading.text, pathOf (path group.headings), heading.level, body⟩
  else none

/-! ## What the sections are to be -/

/-- The line starts or ends a block of code. -/
def isFence (line : Text) : Bool := ['`', '`', '`'].isPrefixOf line

/-- A line between these lines is inside a block of code. -/
def IsFenced (before after : List Text) : Prop := before.countP isFence % 2 = 1 ∧ ∃ line ∈ after, isFence line = true

instance (before after : List Text) : Decidable (IsFenced before after) :=
  inferInstanceAs (Decidable (before.countP isFence % 2 = 1 ∧ ∃ line ∈ after, isFence line = true))

/-- Lines with their headings; a line inside a block of code is none. -/
def marked (before : List Text) : List Text → List (Text × Option Heading)
  | [] => []
  | line :: after => (line, if IsFenced before after then none else headingOf line) :: marked (before ++ [line]) after

/-- **The headings over a place**, walking back: each is the nearest one of a smaller level. -/
def enclosing (level : ℕ) : List Heading → List Text
  | [] => []
  | heading :: earlier =>
    if heading.level < level then enclosing heading.level earlier ++ [heading.text] else enclosing level earlier

/-- The chain of headings of a section. -/
def chain : List Heading → List Text
  | [] => []
  | heading :: earlier => enclosing heading.level earlier ++ [heading.text]

/-- The groups of a document. -/
def groupsOf (content : Text) : List Group := groupsAfter [] [] (marked [] (Text.splitlines content))

/-- **The sections of a document**: its lines, cut at the headings outside of blocks of code. -/
def sectionsOf (content : Text) : List Section := (groupsOf content).filterMap (Group.toSection chain)

/-- The sections are what they are to be. -/
def SplitsWell (content : Text) : Prop := splitMarkdownSections content = sectionsOf content

/-! ## The condition -/

/-- How deep a heading can be: one deeper than the one before it, but not deeper than its level. -/
def place : List Heading → ℕ
  | [] => 0
  | heading :: earlier => min (place earlier + 1) heading.level

/-- No line inside a block of code looks like a heading. -/
def CodeHasNoHeadings (content : Text) : Prop :=
  ∀ before line after, Text.splitlines content = before ++ line :: after → IsFenced before after → headingOf line = none

/-- **The levels fit**: each section has as many headings over it as the levels allow. -/
def LevelsFit (content : Text) : Prop :=
  ∀ group ∈ groupsOf content, bodyOf group.lines ≠ [] → (chain group.headings).length = place group.headings

/-! ## The stack of titles -/

/-- The stack of titles after some headings. -/
def stackOf : List Heading → List Text
  | [] => []
  | heading :: earlier => (stackOf earlier).take (heading.level - 1) ++ [heading.text]

theorem length_stackOf {headings : List Heading} (h : ∀ heading ∈ headings, 1 ≤ heading.level) :
    (stackOf headings).length = place headings := by
  induction headings with
  | nil => rfl
  | cons heading earlier ih =>
    obtain ⟨hlevel, hearlier⟩ := List.forall_mem_cons.mp h
    rw [stackOf, place, List.length_append, List.length_take, ih hearlier, List.length_singleton]
    omega

/-- **The stack drops no heading that is to be kept**, and may keep one that is to be dropped. -/
theorem enclosing_sublist (level : ℕ) {headings : List Heading} (h : ∀ heading ∈ headings, 1 ≤ heading.level) :
    List.Sublist (enclosing level headings) ((stackOf headings).take (level - 1)) := by
  induction headings generalizing level with
  | nil => exact List.nil_sublist _
  | cons heading earlier ih =>
    obtain ⟨hlevel, hearlier⟩ := List.forall_mem_cons.mp h
    rw [enclosing, stackOf]
    split
    · rename_i hlt
      have hlength : ((stackOf earlier).take (heading.level - 1) ++ [heading.text]).length ≤ level - 1 := by
        rw [List.length_append, List.length_take, List.length_singleton]
        omega
      rw [List.take_of_length_le hlength]
      exact (ih heading.level hearlier).append (List.Sublist.refl _)
    · rename_i hge
      refine (ih level hearlier).trans ?_
      have htake : (stackOf earlier).take (level - 1) = ((stackOf earlier).take (heading.level - 1)).take (level - 1) := by
        rw [List.take_take, Nat.min_eq_left (by omega)]
      rw [htake]
      exact ((List.prefix_append _ _).take _).sublist

theorem chain_sublist {headings : List Heading} (h : ∀ heading ∈ headings, 1 ≤ heading.level) :
    List.Sublist (chain headings) (stackOf headings) := by
  cases headings with
  | nil => exact List.Sublist.refl _
  | cons heading earlier =>
    exact (enclosing_sublist heading.level (List.forall_mem_cons.mp h).2).append (List.Sublist.refl _)

/-- How long a path is. -/
theorem length_pathOf {titles : List Text} (h : titles ≠ []) :
    (pathOf titles).length + 3 = (titles.map fun title => title.length + 3).sum := by
  induction titles with
  | nil => exact absurd rfl h
  | cons title titles ih =>
    by_cases hnil : titles = []
    · subst hnil
      rw [pathOf, List.intercalate_singleton]
      rfl
    · have hrest := ih hnil
      rw [pathOf, List.intercalate_cons_of_ne_nil hnil, ← pathOf, List.map_cons, List.sum_cons, ← hrest,
        List.length_append, List.length_append]
      change title.length + 3 + (pathOf titles).length + 3 = _
      omega

/-- Some of the titles make a shorter path. -/
theorem sum_lt_of_sublist {titles titles' : List Text} (h : List.Sublist titles titles') :
    titles = titles' ∨
      (titles.map fun title => title.length + 3).sum < (titles'.map fun title => title.length + 3).sum := by
  induction h with
  | slnil => exact .inl rfl
  | cons title _ ih =>
    right
    rw [List.map_cons, List.sum_cons]
    rcases ih with rfl | hlt <;> omega
  | cons_cons title _ ih =>
    rw [List.map_cons, List.map_cons, List.sum_cons, List.sum_cons]
    rcases ih with rfl | hlt
    · exact .inl rfl
    · right
      omega

/-- **The path tells whether the stack is the chain.** -/
theorem path_eq_iff {heading : Heading} {earlier : List Heading}
    (h : ∀ other ∈ heading :: earlier, 1 ≤ other.level) :
    pathOf (stackOf (heading :: earlier)) = pathOf (chain (heading :: earlier)) ↔
      (chain (heading :: earlier)).length = place (heading :: earlier) := by
  have hsublist := chain_sublist h
  rw [← length_stackOf h]
  constructor
  · intro hpath
    have hchain : chain (heading :: earlier) ≠ [] := List.append_ne_nil_of_right_ne_nil _ (List.cons_ne_nil _ _)
    have hstack : stackOf (heading :: earlier) ≠ [] := List.append_ne_nil_of_right_ne_nil _ (List.cons_ne_nil _ _)
    rcases sum_lt_of_sublist hsublist with heq | hlt
    · rw [heq]
    · rw [← length_pathOf hchain, ← length_pathOf hstack, hpath] at hlt
      exact absurd hlt (lt_irrefl _)
  · intro hlength
    rw [hsublist.eq_of_length hlength]

/-! ## The loop -/

/-- The section that is being read. -/
def Group.current (group : Group) : Option Section := group.toSection stackOf

/-- What the variables are when some headings and some lines after them have been read. -/
structure Splitter.Reads (s : Splitter) (headings : List Heading) (lines : List Text) : Prop where
  lines : s.currentLines = lines
  stack : s.titleStack = stackOf headings
  title : s.currentTitle = if headings = [] then overview else pathOf (stackOf headings)
  heading : s.currentHeading = (headings.head?.map Heading.text).getD overview
  level : s.currentLevel = (headings.head?.map Heading.level).getD 1

theorem Splitter.Reads.flushCurrent {s : Splitter} {headings : List Heading} {lines : List Text}
    (h : s.Reads headings lines) : s.flushCurrent = s.sections ++ (Group.toSection stackOf ⟨headings, lines⟩).toList := by
  rw [Splitter.flushCurrent, Group.toSection, h.lines, h.heading, h.title, h.level]
  dsimp only
  split
  · cases headings <;> rfl
  · rw [Option.toList_none, List.append_nil]

theorem Splitter.Reads.foldl {s : Splitter} {headings : List Heading} {lines : List Text} (h : s.Reads headings lines)
    (rest : List Text) : (rest.foldl Splitter.read s).flushCurrent = s.sections ++
      (groupsAfter headings lines (rest.map fun line => (line, headingOf line))).filterMap (Group.toSection stackOf) := by
  induction rest generalizing s headings lines with
  | nil =>
    rw [List.foldl_nil, h.flushCurrent, List.map_nil, groupsAfter]
    cases hsection : Group.toSection stackOf ⟨headings, lines⟩ with
    | none => rw [List.filterMap_cons_none hsection]; rfl
    | some current => rw [List.filterMap_cons_some hsection]; rfl
  | cons line rest ih =>
    rw [List.foldl_cons, List.map_cons]
    cases hheading : headingOf line with
    | some heading =>
      have hread : Splitter.Reads (s.read line) (heading :: headings) [] := by
        unfold Splitter.read
        rw [hheading]
        dsimp only
        rw [h.stack]
        exact ⟨rfl, rfl, rfl, rfl, rfl⟩
      have hsections : (s.read line).sections = s.sections ++ (Group.toSection stackOf ⟨headings, lines⟩).toList := by
        rw [← h.flushCurrent]
        unfold Splitter.read
        rw [hheading]
      rw [ih hread, hsections, groupsAfter, List.append_assoc]
      cases hsection : Group.toSection stackOf ⟨headings, lines⟩ with
      | none => rw [List.filterMap_cons_none hsection]; rfl
      | some current => rw [List.filterMap_cons_some hsection]; rfl
    | none =>
      have hread : Splitter.Reads (s.read line) headings (lines ++ [line]) := by
        unfold Splitter.read
        rw [hheading]
        dsimp only
        rw [← h.lines]
        exact ⟨rfl, h.stack, h.title, h.heading, h.level⟩
      have hsections : (s.read line).sections = s.sections := by
        unfold Splitter.read
        rw [hheading]
      rw [ih hread, hsections, groupsAfter]

/-- **The sections of the code are the groups that are cut at all that looks like a heading.** -/
theorem splitMarkdownSections_eq (content : Text) : splitMarkdownSections content =
    (groupsAfter [] [] ((Text.splitlines content).map fun line => (line, headingOf line))).filterMap
      (Group.toSection stackOf) := by
  have hinit : Splitter.Reads {} [] [] := ⟨rfl, rfl, rfl, rfl, rfl⟩
  rw [splitMarkdownSections, hinit.foldl]
  rfl

/-! ## What can be seen of the sections -/

/-- The lines that are no headings. -/
def plainLines (tagged : List (Text × Option Heading)) : List Text :=
  (tagged.filter fun entry => entry.2 = none).map Prod.fst

@[simp] theorem plainLines_nil : plainLines [] = [] := rfl

@[simp] theorem plainLines_none (line : Text) (rest : List (Text × Option Heading)) :
    plainLines ((line, none) :: rest) = line :: plainLines rest := rfl

@[simp] theorem plainLines_some (line : Text) (heading : Heading) (rest : List (Text × Option Heading)) :
    plainLines ((line, some heading) :: rest) = plainLines rest := rfl

theorem visible_bodyOf (lines : List Text) : Text.visible (bodyOf lines) = Text.visibleAll lines := by
  rw [bodyOf, Text.visible_strip, Text.visible_intercalate rfl]

theorem bodyOf_eq_nil_iff {lines : List Text} : bodyOf lines = [] ↔ Text.visibleAll lines = [] := by
  rw [bodyOf, Text.strip_eq_nil_iff, Text.visible_intercalate rfl]

/-- What can be seen of some sections. -/
def visibleBodies (sections : List Section) : Text := Text.visibleAll (sections.map Section.body)

theorem visibleBodies_toSection (path : List Heading → List Text) (group : Group) (sections : List Section) :
    visibleBodies ((Group.toSection path group).toList ++ sections) =
      Text.visibleAll group.lines ++ visibleBodies sections := by
  rw [visibleBodies, List.map_append, Text.visibleAll_append, ← visibleBodies]
  congr 1
  by_cases hbody : bodyOf group.lines ≠ []
  · rw [Group.toSection, if_pos hbody, ← visible_bodyOf]
    split <;> exact Text.visibleAll_singleton _
  · rw [Group.toSection, if_neg hbody, bodyOf_eq_nil_iff.mp (not_not.mp hbody)]
    rfl

/-- **Every line that is no heading is in a section**, in its place. -/
theorem visibleBodies_groupsAfter (path : List Heading → List Text) (headings : List Heading) (lines : List Text)
    (tagged : List (Text × Option Heading)) :
    visibleBodies ((groupsAfter headings lines tagged).filterMap (Group.toSection path)) =
      Text.visibleAll lines ++ Text.visibleAll (plainLines tagged) := by
  have hcons (group : Group) (groups : List Group) : (group :: groups).filterMap (Group.toSection path) =
      (Group.toSection path group).toList ++ groups.filterMap (Group.toSection path) := by
    rw [List.filterMap_cons]
    cases Group.toSection path group <;> rfl
  induction tagged generalizing headings lines with
  | nil => rw [groupsAfter, hcons, visibleBodies_toSection]; rfl
  | cons entry rest ih =>
    obtain ⟨line, heading⟩ := entry
    cases heading with
    | some heading => rw [groupsAfter, hcons, visibleBodies_toSection, ih, plainLines_some]; rfl
    | none =>
      rw [groupsAfter, ih, plainLines_none, Text.visibleAll_append, Text.visibleAll_singleton, List.append_assoc]
      rfl

/-- A heading can be seen. -/
theorem visible_of_headingOf {line : Text} {heading : Heading} (h : headingOf line = some heading) :
    Text.visible line ≠ [] := by
  intro hblank
  rw [headingOf, Text.strip_eq_nil_iff.mpr hblank] at h
  cases h

theorem level_of_headingOf {line : Text} {heading : Heading} (h : headingOf line = some heading) : 1 ≤ heading.level := by
  rw [headingOf] at h
  split at h
  · rename_i hlevel
    obtain rfl := Option.some.inj h
    exact hlevel.1
  · cases h

/-! ## Blocks of code -/

/-- The lines with all that looks like a heading. -/
def tagged (lines : List Text) : List (Text × Option Heading) := lines.map fun line => (line, headingOf line)

theorem marked_eq_tagged {before lines : List Text}
    (h : ∀ mid line after, lines = mid ++ line :: after → IsFenced (before ++ mid) after → headingOf line = none) :
    marked before lines = tagged lines := by
  induction lines generalizing before with
  | nil => rfl
  | cons line after ih =>
    rw [marked, ih]
    · have hline : (if IsFenced before after then none else headingOf line) = headingOf line := by
        split
        · rename_i hfenced
          exact (h [] line after rfl (by rwa [List.append_nil])).symm
        · rfl
      rw [hline]
      rfl
    · intro mid other rest heq hfenced
      refine h (line :: mid) other rest (congrArg (line :: ·) heq) ?_
      rwa [List.append_assoc, List.singleton_append] at hfenced

/-- **A heading in a block of code is missed**: less can be seen of the lines that do not look like headings. -/
theorem length_visible_le {before lines : List Text} :
    (Text.visibleAll (plainLines (tagged lines))).length ≤ (Text.visibleAll (plainLines (marked before lines))).length ∧
      ((Text.visibleAll (plainLines (tagged lines))).length = (Text.visibleAll (plainLines (marked before lines))).length →
        ∀ mid line after, lines = mid ++ line :: after → IsFenced (before ++ mid) after → headingOf line = none) := by
  induction lines generalizing before with
  | nil =>
    refine ⟨le_refl _, fun _ mid line after heq => ?_⟩
    exact absurd heq.symm (List.append_ne_nil_of_right_ne_nil mid (List.cons_ne_nil line after))
  | cons line after ih =>
    obtain ⟨hle, hall⟩ := @ih (before ++ [line])
    -- the first line apart
    have hsplits (hhead : IsFenced before after → headingOf line = none)
        (hrest : ∀ mid other rest, after = mid ++ other :: rest → IsFenced (before ++ [line] ++ mid) rest →
          headingOf other = none) :
        ∀ mid other rest, line :: after = mid ++ other :: rest → IsFenced (before ++ mid) rest →
          headingOf other = none := by
      intro mid other rest heq hfenced
      cases mid with
      | nil =>
        obtain ⟨rfl, rfl⟩ := List.cons_eq_cons.mp heq
        exact hhead (by rwa [List.append_nil] at hfenced)
      | cons first mid =>
        obtain ⟨rfl, htail⟩ := List.cons_eq_cons.mp heq
        exact hrest mid other rest htail (by rwa [List.append_assoc, List.singleton_append])
    rw [tagged, List.map_cons, ← tagged, marked]
    cases hheading : headingOf line with
    | none =>
      rw [ite_self, plainLines_none, plainLines_none, Text.visibleAll_cons, Text.visibleAll_cons, List.length_append,
        List.length_append]
      exact ⟨by omega, fun heq => hsplits (fun _ => hheading) (hall (by omega))⟩
    | some heading =>
      by_cases hfenced : IsFenced before after
      · have hpos := List.length_pos_iff.mpr (visible_of_headingOf hheading)
        rw [if_pos hfenced, plainLines_none, plainLines_some, Text.visibleAll_cons, List.length_append]
        exact ⟨by omega, fun heq => by omega⟩
      · rw [if_neg hfenced, plainLines_some, plainLines_some]
        exact ⟨hle, fun heq => hsplits (fun h => absurd h hfenced) (hall heq)⟩

/-! ## Titles -/

/-- The headings of the groups are those of the lines. -/
theorem levels_groupsAfter {headings : List Heading} {lines : List Text} {entries : List (Text × Option Heading)}
    (hheadings : ∀ heading ∈ headings, 1 ≤ heading.level)
    (hentries : ∀ entry ∈ entries, ∀ heading ∈ entry.2, 1 ≤ heading.level) :
    ∀ group ∈ groupsAfter headings lines entries, ∀ heading ∈ group.headings, 1 ≤ heading.level := by
  induction entries generalizing headings lines with
  | nil =>
    intro group hgroup
    rw [groupsAfter, List.mem_singleton] at hgroup
    rw [hgroup]
    exact hheadings
  | cons entry rest ih =>
    obtain ⟨hentry, hrest⟩ := List.forall_mem_cons.mp hentries
    obtain ⟨line, heading⟩ := entry
    cases heading with
    | some heading =>
      intro group hgroup
      rcases List.mem_cons.mp hgroup with rfl | hgroup
      · exact hheadings
      · exact ih (List.forall_mem_cons.mpr ⟨hentry heading rfl, hheadings⟩) hrest group hgroup
    | none => exact ih hheadings hrest

theorem levels_groupsOf (content : Text) : ∀ group ∈ groupsOf content, ∀ heading ∈ group.headings, 1 ≤ heading.level := by
  refine levels_groupsAfter (fun _ h => by cases h) ?_
  generalize ([] : List Text) = before
  generalize Text.splitlines content = lines
  induction lines generalizing before with
  | nil => exact fun _ h => by cases h
  | cons line after ih =>
    rw [marked, List.forall_mem_cons]
    refine ⟨fun heading hheading => ?_, ih _⟩
    rw [Option.mem_def] at hheading
    dsimp only at hheading
    split at hheading
    · cases hheading
    · exact level_of_headingOf hheading

/-- **A section has the right title** just if it has as many headings over it as the levels allow. -/
theorem toSection_eq_iff {group : Group} (h : ∀ heading ∈ group.headings, 1 ≤ heading.level) :
    group.toSection stackOf = group.toSection chain ↔
      (bodyOf group.lines ≠ [] → (chain group.headings).length = place group.headings) := by
  obtain ⟨headings, lines⟩ := group
  unfold Group.toSection
  dsimp only
  by_cases hbody : bodyOf lines ≠ []
  · rw [if_pos hbody, if_pos hbody]
    cases headings with
    | nil => exact ⟨fun _ _ => rfl, fun _ => rfl⟩
    | cons heading earlier =>
      rw [← path_eq_iff h]
      simp [hbody]
  · rw [if_neg hbody, if_neg hbody]
    exact ⟨fun _ hne => absurd hne hbody, fun _ => rfl⟩

theorem toSection_isSome (path : List Heading → List Text) (group : Group) :
    (group.toSection path).isSome = decide (bodyOf group.lines ≠ []) := by
  by_cases hbody : bodyOf group.lines ≠ []
  · rw [Group.toSection, if_pos hbody, decide_eq_true hbody]
    split <;> rfl
  · rw [Group.toSection, if_neg hbody, decide_eq_false hbody]
    rfl

/-- Two functions that are defined at the same places, along a list. -/
theorem filterMap_eq_iff {α β : Type} {f g : α → Option β} {l : List α} (h : ∀ x ∈ l, (f x).isSome = (g x).isSome) :
    l.filterMap f = l.filterMap g ↔ ∀ x ∈ l, f x = g x := by
  induction l with
  | nil =>
    refine ⟨fun _ x hx => ?_, fun _ => rfl⟩
    cases hx
  | cons a l ih =>
    obtain ⟨ha, hl⟩ := List.forall_mem_cons.mp h
    rw [List.forall_mem_cons, List.filterMap_cons, List.filterMap_cons, ← ih hl]
    cases hf : f a <;> cases hg : g a <;> rw [hf, hg] at ha
    · exact ⟨fun heq => ⟨rfl, heq⟩, fun hand => hand.2⟩
    · cases ha
    · cases ha
    · rw [Option.some_inj]
      exact List.cons_eq_cons

/-! ## Which documents are split well -/

/-- **A document is split well just if no line in a block of code looks like a heading and the levels fit.** -/
theorem splitsWell_iff (content : Text) : SplitsWell content ↔ CodeHasNoHeadings content ∧ LevelsFit content := by
  have hcode : splitMarkdownSections content =
      (groupsAfter [] [] (tagged (Text.splitlines content))).filterMap (Group.toSection stackOf) :=
    splitMarkdownSections_eq content
  have hlevels : (groupsOf content).filterMap (Group.toSection stackOf) = sectionsOf content ↔ LevelsFit content := by
    rw [sectionsOf, filterMap_eq_iff fun group _ => by rw [toSection_isSome, toSection_isSome]]
    exact forall₂_congr fun group hgroup => toSection_eq_iff (levels_groupsOf content group hgroup)
  constructor
  · intro hsplits
    have hseen := congrArg (fun sections => (visibleBodies sections).length) (hcode.symm.trans hsplits)
    rw [sectionsOf, groupsOf, visibleBodies_groupsAfter, visibleBodies_groupsAfter] at hseen
    have hnone : CodeHasNoHeadings content := length_visible_le.2 hseen
    refine ⟨hnone, hlevels.mp ?_⟩
    rw [groupsOf, @marked_eq_tagged [] _ hnone, ← hcode]
    exact hsplits
  · rintro ⟨hnone, hfit⟩
    rw [SplitsWell, hcode, ← @marked_eq_tagged [] _ hnone]
    exact hlevels.mpr hfit

/-- A comment in a block of shell code. -/
def shellDocument : Text := "# Disk\n```sh\n# check\ndf\n```".toList

/-- **A comment in a block of code becomes a heading**, and cuts the block in two. -/
theorem shellDocument_split : ¬ SplitsWell shellDocument := by
  have hdiffer : splitMarkdownSections shellDocument ≠ sectionsOf shellDocument := by with_unfolding_all decide
  exact hdiffer

end DBClaw.Documents
