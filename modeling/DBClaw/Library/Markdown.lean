import DBClaw.Library.Html

/-! # Rendered Markdown
What a CommonMark renderer makes of a text, with raw HTML enabled: tags that it generates for the constructs of
Markdown, escaped text, and raw HTML that it copies from its input. -/

namespace DBClaw.Markdown

open Html

/-- The tags that CommonMark and its extensions for tables, strikethrough and highlighted code generate. -/
inductive TagName
  | p | h1 | h2 | h3 | h4 | h5 | h6 | blockquote | ul | ol | li | pre | code | em | strong | a | img | br | hr
  | table | thead | tbody | tr | th | td | s | span
  deriving DecidableEq, Repr

def TagName.text : TagName → Text
  | .p => "p".toList
  | .h1 => "h1".toList
  | .h2 => "h2".toList
  | .h3 => "h3".toList
  | .h4 => "h4".toList
  | .h5 => "h5".toList
  | .h6 => "h6".toList
  | .blockquote => "blockquote".toList
  | .ul => "ul".toList
  | .ol => "ol".toList
  | .li => "li".toList
  | .pre => "pre".toList
  | .code => "code".toList
  | .em => "em".toList
  | .strong => "strong".toList
  | .a => "a".toList
  | .img => "img".toList
  | .br => "br".toList
  | .hr => "hr".toList
  | .table => "table".toList
  | .thead => "thead".toList
  | .tbody => "tbody".toList
  | .tr => "tr".toList
  | .th => "th".toList
  | .td => "td".toList
  | .s => "s".toList
  | .span => "span".toList

/-- The attributes that they have. -/
inductive AttributeName
  | href | src | alt | title | start | cssClass | style
  deriving DecidableEq, Repr

def AttributeName.text : AttributeName → Text
  | .href => "href".toList
  | .src => "src".toList
  | .alt => "alt".toList
  | .title => "title".toList
  | .start => "start".toList
  | .cssClass => "class".toList
  | .style => "style".toList

/-- A piece of the output. -/
inductive Piece
  | opening (name : TagName) (attributes : List (AttributeName × Text)) (slash : Bool)
  | closing (name : TagName)
  | text (s : Text)
  /-- Raw HTML of the input. -/
  | raw (s : Text)
  deriving DecidableEq, Repr

/-- `escapeHtml` of the renderer. -/
def escapeHtml (s : Text) : Text := escapeOnly ['&', '<', '>', '"'] s

/-- An attribute, its value of the input and escaped. -/
def attributeHtml (name : AttributeName) (value : Text) : List Marked :=
  fixed (' ' :: (name.text ++ "=\"".toList)) ++ stored (escapeHtml value) ++ fixed "\"".toList

/-- The HTML of a piece. -/
def Piece.html : Piece → List Marked
  | .opening name attributes slash =>
    fixed ('<' :: name.text) ++ attributes.flatMap (fun (a, value) => attributeHtml a value) ++
      fixed (if slash then " />".toList else ">".toList)
  | .closing name => fixed ('<' :: '/' :: (name.text ++ ">".toList))
  | .text s => stored (escapeHtml s)
  | .raw s => stored s

/-- The HTML of a text. -/
def html (pieces : List Piece) : List Marked := pieces.flatMap Piece.html

/-- **A renderer**, which may raise an exception. Raw HTML is a tag, a comment, an instruction or a declaration,
or a block that begins with one. -/
structure Renderer where
  render : Text → Option (List Piece)
  raw_markup : ∀ s, ∀ pieces ∈ render s, ∀ r, Piece.raw r ∈ pieces → hasMarkup r = true

/-- The text has no raw HTML, as the renderer reads it. -/
def Renderer.NoRaw (md : Renderer) (s : Text) : Prop := ∀ pieces ∈ md.render s, ∀ r, Piece.raw r ∉ pieces

/-! ## Reading it -/

theorem after_attribute (name : AttributeName) (element : Text) :
    (Mode.attributes element).after (name.text ++ "=\"".toList) = .quoted '"' element := by
  cases name <;> rfl

theorem leads_attribute {m : Mode} {element : Text} (h : m.step ' ' = (.markup, .attributes element))
    (name : AttributeName) (value : Text) : Leads True m (attributeHtml name value) (.attributes element) := by
  have hname : m.after (' ' :: (name.text ++ "=\"".toList)) = .quoted '"' element := by
    rw [Mode.after, List.foldl_cons, h]
    exact after_attribute name element
  have hvalue := leads_escapeOnly_quoted (by decide : '"' ∈ ['&', '<', '>', '"']) value element
  have hquote : (Mode.quoted '"' element).after "\"".toList = .attributes element := rfl
  exact ((leads_fixed hname).append_true hvalue).append_true (leads_fixed hquote)

theorem leads_attributes (attributes : List (AttributeName × Text)) (element : Text) :
    Leads True (.attributes element) (attributes.flatMap fun (a, value) => attributeHtml a value)
      (.attributes element) := by
  induction attributes with
  | nil => exact leads_nil _
  | cons a attributes ih =>
    have hspace : (Mode.attributes element).step ' ' = (.markup, .attributes element) := rfl
    exact (leads_attribute hspace a.1 a.2).append_true ih

theorem after_name (name : TagName) : Mode.data.after ('<' :: name.text) = .tagName true name.text := by
  cases name <;> decide

theorem contentMode_name (name : TagName) : contentMode name.text = .data := by
  cases name <;> decide

theorem leads_opening (name : TagName) (attributes : List (AttributeName × Text)) (slash : Bool) :
    Leads True .data (Piece.opening name attributes slash).html .data := by
  rw [Piece.html]
  cases attributes with
  | nil =>
    have hend : (Mode.tagName true name.text).after (if slash then " />".toList else ">".toList) = .data := by
      rw [← contentMode_name name]
      cases slash <;> rfl
    exact ((leads_fixed (after_name name)).append_true (leads_nil _)).append_true (leads_fixed hend)
  | cons a attributes =>
    have hspace : (Mode.tagName true name.text).step ' ' = (.markup, .attributes name.text) := rfl
    have hattributes := (leads_attribute hspace a.1 a.2).append_true (leads_attributes attributes name.text)
    have hend : (Mode.attributes name.text).after (if slash then " />".toList else ">".toList) = .data := by
      rw [← contentMode_name name]
      cases slash <;> rfl
    exact ((leads_fixed (after_name name)).append_true hattributes).append_true (leads_fixed hend)

/-- **The HTML of a text is free of injections if and only if it has no raw HTML.** -/
theorem leads_html {pieces : List Piece} (h : ∀ r, Piece.raw r ∈ pieces → hasMarkup r = true) :
    Leads (∀ r, Piece.raw r ∉ pieces) .data (html pieces) .data := by
  induction pieces with
  | nil => exact (leads_nil .data).congr ⟨fun _ _ => List.not_mem_nil, fun _ => trivial⟩
  | cons piece pieces ih =>
    have hrest := ih fun r hr => h r (List.mem_cons_of_mem _ hr)
    have hpiece : Leads (∀ r, piece ≠ .raw r) .data piece.html .data := by
      cases piece with
      | opening name attributes slash =>
        refine (leads_opening name attributes slash).congr (iff_of_true trivial fun r => ?_)
        exact Piece.noConfusion
      | closing name =>
        have hname : Mode.data.after ('<' :: '/' :: (name.text ++ ">".toList)) = .data := by
          cases name <;> decide
        refine (leads_fixed hname).congr (iff_of_true trivial fun r => ?_)
        exact Piece.noConfusion
      | text s =>
        have hs := leads_escapeOnly (by decide : '<' ∈ ['&', '<', '>', '"']) s
        refine hs.congr (iff_of_true trivial fun r => ?_)
        exact Piece.noConfusion
      | raw s =>
        have hs := leads_markup (n := .data) s (h s List.mem_cons_self)
        exact hs.congr (iff_of_false id fun hne => hne s rfl)
    refine (hpiece.append hrest).congr ?_
    constructor
    · rintro ⟨hne, hrest⟩ r hr
      rcases List.mem_cons.mp hr with hr | hr
      · exact hne r hr.symm
      · exact hrest r hr
    · intro hall
      exact ⟨fun r hr => hall r (hr ▸ List.mem_cons_self), fun r hr => hall r (List.mem_cons_of_mem _ hr)⟩

end DBClaw.Markdown
