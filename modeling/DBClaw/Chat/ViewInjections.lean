import DBClaw.Chat.View

/-! # Injections into the chat view
The chat view is read piece by piece. `chatView_injectionFree_iff` says when no tag and no attribute of what is
assigned to `innerHTML` is copied from a message: the text of the assistant must have no raw HTML, a file name no
markup, and an id that stands in an attribute no quote. -/

namespace DBClaw.ChatView

open Html Markdown

set_option maxRecDepth 4000

variable {P Q : Prop} {m n : Html.Mode} {xs : List Marked}

/-! ## Pieces -/

/-- A piece that is left out under a condition. -/
theorem leads_unless {b : Prop} [Decidable b] (h : Leads P m xs m) :
    Leads (¬ b → P) m (if b then [] else xs) m := by
  split
  · rename_i hb
    exact (leads_nil m).congr ⟨fun _ hb' => absurd hb hb', fun _ => trivial⟩
  · rename_i hb
    exact h.congr ⟨fun hP _ => hP, fun hP => hP hb⟩

theorem leads_unless_true {b : Prop} [Decidable b] (h : Leads True m xs m) :
    Leads True m (if b then [] else xs) m :=
  (leads_unless h).congr (iff_of_true (fun _ => trivial) trivial)

theorem leads_ite_true {b : Prop} [Decidable b] (h : Leads True m xs m) :
    Leads True m (if b then xs else []) m :=
  h.ite.congr (iff_of_true (fun _ => trivial) trivial)

/-- A piece that is known. -/
theorem leads_closed (h : xs.foldl watch (some (m, false)) = some (n, false)) : Leads True m xs n :=
  ⟨fun _ => h, fun hP => absurd trivial hP⟩

/-- A text of two locales. -/
theorem after_choice {s t : String} (en : Bool) (hs : m.after s.toList = n) (ht : m.after t.toList = n) :
    m.after (if en then s else t).toList = n := by
  cases en
  · exact ht
  · exact hs

theorem not_mem_digits {d : Char} (hd : d.isDigit = false) (k : ℕ) : d ∉ (toString k).toList := by
  intro hmem
  have hdigit := Nat.isDigit_of_mem_toDigits (b := 10) (n := k) (by decide) (by decide)
    (by simpa [Nat.toString_eq_repr, Nat.repr] using hmem)
  rw [hd] at hdigit
  cases hdigit

theorem inheritedText_plain {name : Text} (h : isInherited name = true) : '"' ∉ inheritedText name := by
  rw [isInherited, List.any_eq_true] at h
  obtain ⟨inherited, hmem, hname⟩ := h
  rw [decide_eq_true_iff] at hname
  subst hname
  revert inherited
  decide

theorem getFileIcon_plain (fileType : Text) : '"' ∉ getFileIcon fileType := by
  rw [getFileIcon]
  split_ifs with h₁ h₂ h₃ h₄
  · decide
  · decide
  · decide
  · exact inheritedText_plain h₄
  · decide

/-! ## Messages -/

/-- **The condition on a text that is rendered as Markdown**: it has no raw HTML, and where the page has no
`markdownit` it has no markup. -/
def PlainMarkdown (md : Option MarkdownIt) (content : Text) : Prop :=
  match md with
  | none => hasMarkup content = false
  | some md => md.NoRaw content

theorem leads_renderMarkdown (md : Option MarkdownIt) (content : Text) :
    Leads (PlainMarkdown md content) .data (renderMarkdown md content) .data := by
  cases md with
  | none =>
    exact (leads_fixed (after_lit (by rfl)) |>.hole content (goesOn_lit (by rfl))
      (after_lit (by rfl))).congr (Iff.of_eq (true_and _))
  | some md =>
    obtain ⟨pieces, hpieces⟩ := Option.isSome_iff_exists.mp (md.never_raises content)
    have hhtml : renderMarkdown (some md) content = Markdown.html pieces := by
      rw [renderMarkdown, hpieces]
    rw [hhtml]
    refine (leads_html (md.raw_markup content pieces hpieces)).congr ⟨fun h qs hqs => ?_, fun h => h pieces hpieces⟩
    rw [hpieces] at hqs
    cases hqs
    exact h

/-- The condition on an attachment. -/
def Attachment.Plain (attachment : Attachment) : Prop := hasMarkup attachment.filename = false

theorem leads_attachmentChip (att : Attachment) (idx : ℕ) : Leads att.Plain .data (attachmentChip att idx) .data := by
  have hchip : Leads (True ∧ att.Plain) .data (attachmentChip att idx) .data :=
    leads_fixed (n := .quoted '"' "i".toList) (after_lit (by rfl))
      |>.fixed (after_quoted (getFileIcon_plain att.fileType)) |>.fixed (n := .data) (after_lit (by rfl))
      |>.hole att.filename (n := .quoted '"' "button".toList) (goesOn_lit (by rfl))
        (after_lit (by rfl))
      |>.fixed (after_quoted (not_mem_digits (by decide) idx)) |>.fixed (after_lit (by rfl))
  exact hchip.congr (Iff.of_eq (true_and _))

theorem forall_mem_zipIdx {α : Type} {p : α → Prop} (l : List α) :
    (∀ a ∈ l.zipIdx, p a.1) ↔ ∀ a ∈ l, p a := by
  rw [← List.forall_mem_map (f := Prod.fst), List.zipIdx_map_fst]

theorem leads_attachmentPreviewHtml (attachments : List Attachment) :
    Leads (∀ a ∈ attachments, a.Plain) .data (attachmentPreviewHtml attachments) .data :=
  (leads_flatMap _ fun a _ => leads_attachmentChip a.1 a.2).congr (forall_mem_zipIdx attachments)

theorem leads_attachmentItem (att : Attachment) : Leads att.Plain .data (attachmentItem att) .data := by
  have hitem : Leads (True ∧ att.Plain) .data (attachmentItem att) .data :=
    leads_fixed (n := .quoted '"' "i".toList) (after_lit (by rfl))
      |>.fixed (after_quoted (getFileIcon_plain att.fileType)) |>.fixed (n := .data) (after_lit (by rfl))
      |>.hole att.filename (goesOn_lit (by rfl)) (after_lit (by rfl))
  exact hitem.congr (Iff.of_eq (true_and _))

theorem leads_attachmentHtml (attachments : List Attachment) :
    Leads (∀ a ∈ attachments, a.Plain) .data (attachmentHtml attachments) .data := by
  have hitems : Leads (∀ a ∈ attachments, a.Plain) .data (lit "<div class=\"message-attachments\">" ++
      attachments.flatMap attachmentItem ++ lit "</div>") .data :=
    leads_fixed (after_lit (by rfl))
      |>.true_append (leads_flatMap attachments fun a _ => leads_attachmentItem a)
      |>.fixed (after_lit (by rfl))
  refine (leads_unless hitems).congr ⟨fun h a ha => h (List.ne_nil_of_mem ha) a ha, fun h _ => h⟩

theorem leads_userMessageHtml (en : Bool) (text : Text) (attachments : List Attachment) :
    Leads (∀ a ∈ attachments, a.Plain) .data (userMessageHtml en text attachments) .data := by
  have htext : Leads True .data (lit "<div class=\"chat-user-text\">" ++ esc text ++ lit "</div>") .data :=
    leads_fixed (after_lit (by rfl)) |>.escapeText text |>.fixed (after_lit (by rfl))
  have htitle : (Html.Mode.quoted '"' "button".toList).after (if en then "Copy content" else "复制内容").toList =
      .quoted '"' "button".toList := after_choice en (after_lit (by rfl)) (after_lit (by rfl))
  exact leads_fixed (after_lit (by rfl)) |>.true_append (leads_attachmentHtml attachments)
    |>.append_true (leads_unless_true htext) |>.fixed (after_lit (by rfl)) |>.fixed htitle
    |>.fixed (after_lit (by rfl))

/-! ## Text of the assistant -/

/-- The condition on a part of a text. -/
def TextSegment.Plain (md : Option MarkdownIt) : TextSegment → Prop
  | .markdown content | .think content => PlainMarkdown md content

theorem leads_textSegment (md : Option MarkdownIt) (en : Bool) (segment : TextSegment) :
    Leads (segment.Plain md) .data (segment.html md en) .data := by
  cases segment with
  | markdown content => exact leads_renderMarkdown md content
  | think content =>
    have hsummary : Html.Mode.data.after (if en then "reasoning process" else "推理过程").toList = .data :=
      after_choice en (after_lit (by rfl)) (after_lit (by rfl))
    exact leads_fixed (after_lit (by rfl)) |>.fixed hsummary |>.fixed (after_lit (by rfl))
      |>.true_append (leads_renderMarkdown md content) |>.fixed (after_lit (by rfl))

theorem leads_renderAssistantTextSegmentHtml (md : Option MarkdownIt) (en : Bool) (content : Text) :
    Leads (∀ segment ∈ parseAssistantSegments content, segment.Plain md) .data
      (renderAssistantTextSegmentHtml md en content) .data :=
  leads_flatMap _ fun segment _ => leads_textSegment md en segment

/-! ## Visualizations -/

theorem palette_plain (index : ℕ) :
    '"' ∉ (getVisualizationPalette index).stroke.toList ∧ '"' ∉ (getVisualizationPalette index).bg.toList ∧
      '"' ∉ (getVisualizationPalette index).border.toList := by
  rw [getVisualizationPalette]
  split <;> decide

theorem modeText_plain (mode : MetricMode) : '"' ∉ mode.text.toList := by
  cases mode <;> decide

theorem not_mem_ite {d : Char} {s t : String} {b : Prop} [Decidable b] (hs : d ∉ s.toList) (ht : d ∉ t.toList) :
    d ∉ (if b then s else t).toList := by
  split
  · exact hs
  · exact ht

section

variable (js : JavaScript) (md : Option MarkdownIt) (en : Bool) (modes : Text → MetricMode)

theorem leads_emptySvg (index : ℕ) : Leads True .data (emptySvg en (getVisualizationPalette index)) .data := by
  have hempty : Html.Mode.data.after (if en then "No trend data yet" else "暂无趋势数据").toList = .data :=
    after_choice en (after_lit (by rfl)) (after_lit (by rfl))
  exact leads_fixed (n := .quoted '"' "rect".toList) (after_lit (by rfl))
    |>.fixed (after_quoted (palette_plain index).2.1) |>.fixed (after_lit (by rfl)) |>.fixed hempty
    |>.fixed (after_lit (by rfl))

/-- The texts of a metric that stand in an attribute. -/
structure KeyPlain (visualizationId panelKey name : Text) : Prop where
  visualizationId : '"' ∉ visualizationId
  panelKey : '"' ∉ panelKey
  name : '"' ∉ name

variable {visualizationId panelKey : Text}

theorem leads_modeButton (index : ℕ) (visualizationId panelKey name : Text) (mode buttonMode : MetricMode) :
    Leads (KeyPlain visualizationId panelKey name) .data
      (modeButton en (getVisualizationPalette index) visualizationId panelKey name mode buttonMode) .data := by
  obtain ⟨hstroke, -, hborder⟩ := palette_plain index
  have hbutton : Leads _ .data
      (modeButton en (getVisualizationPalette index) visualizationId panelKey name mode buttonMode) .data :=
    leads_fixed (n := .quoted '"' "button".toList) (after_lit (by rfl))
      |>.escapeText_quoted visualizationId |>.fixed (after_quoted (by decide)) |>.escapeText_quoted panelKey
      |>.fixed (after_quoted (by decide)) |>.escapeText_quoted name |>.fixed (after_quoted (by decide))
      |>.fixed (after_quoted (modeText_plain buttonMode))
      |>.fixed (n := .quoted '"' "button".toList) (after_lit (by rfl))
      |>.fixed (after_quoted (not_mem_ite hstroke hborder)) |>.fixed (after_quoted (by decide))
      |>.fixed (after_quoted (not_mem_ite (by decide) (by decide))) |>.fixed (after_quoted (by decide))
      |>.fixed (after_quoted (not_mem_ite hstroke (by decide))) |>.fixed (after_lit (by rfl))
      |>.escapeText _ |>.fixed (after_lit (by rfl))
  refine hbutton.congr ⟨?_, fun h => ⟨⟨⟨trivial, h.visualizationId⟩, h.panelKey⟩, h.name⟩⟩
  rintro ⟨⟨⟨-, hid⟩, hkey⟩, hname⟩
  exact ⟨hid, hkey, hname⟩

theorem leads_summaryItem (index : ℕ) (item : Text) :
    Leads True .data (summaryItem (getVisualizationPalette index) item) .data :=
  leads_fixed (n := .quoted '"' "span".toList) (after_lit (by rfl))
    |>.fixed (after_quoted (palette_plain index).2.2) |>.fixed (after_lit (by rfl)) |>.escapeText item
    |>.fixed (after_lit (by rfl))

theorem not_mem_metricKey {visualizationId panelKey name : Text} :
    '"' ∉ visualizationId ++ ':' :: panelKey ++ ':' :: name ↔ KeyPlain visualizationId panelKey name := by
  simp only [List.mem_append, List.mem_cons, not_or]
  constructor
  · rintro ⟨⟨hid, -, hkey⟩, -, hname⟩
    exact ⟨hid, hkey, hname⟩
  · rintro ⟨hid, hkey, hname⟩
    exact ⟨⟨hid, by decide, hkey⟩, by decide, hname⟩

theorem leads_metricHeader (metric : Metric) (index : ℕ) (visualizationId panelKey : Text) (mode : MetricMode) :
    Leads (KeyPlain visualizationId panelKey metric.name) .data
      (metricHeader en metric (getVisualizationPalette index) visualizationId panelKey mode) .data := by
  obtain ⟨hstroke, hbg, hborder⟩ := palette_plain index
  have hpoints : Html.Mode.data.after
      (if en then " convergence point · Currently showing " else " 个聚合点 · 当前显示 ").toList = .data :=
    after_choice en (after_lit (by rfl)) (after_lit (by rfl))
  have hheader : Leads _ .data
      (metricHeader en metric (getVisualizationPalette index) visualizationId panelKey mode) .data :=
    leads_fixed (n := .quoted '"' "div".toList) (after_lit (by rfl)) |>.escapeText_quoted _
      |>.fixed (n := .quoted '"' "div".toList) (after_lit (by rfl)) |>.fixed (after_quoted hborder)
      |>.fixed (after_quoted (by decide)) |>.fixed (after_quoted hbg) |>.fixed (after_lit (by rfl))
      |>.escapeText _ |>.fixed (after_lit (by rfl)) |>.fixed (after_data (not_mem_digits (by decide) _))
      |>.fixed hpoints |>.escapeText _ |>.fixed (n := .quoted '"' "span".toList) (after_lit (by rfl))
      |>.fixed (after_quoted hstroke) |>.fixed (after_quoted (by decide)) |>.fixed (after_quoted hborder)
      |>.fixed (after_lit (by rfl)) |>.escapeText _ |>.fixed (after_lit (by rfl))
  exact hheader.congr ((Iff.of_eq (true_and _)).trans not_mem_metricKey)

theorem leads_metricChart (metric : Metric) (index : ℕ) (visualizationId panelKey : Text) :
    Leads (KeyPlain visualizationId panelKey metric.name) .data
      (metricChart en metric (getVisualizationPalette index) visualizationId panelKey) .data := by
  have hchart : Leads _ .data
      (metricChart en metric (getVisualizationPalette index) visualizationId panelKey) .data :=
    leads_fixed (n := .quoted '"' "div".toList) (after_lit (by rfl)) |>.escapeText_quoted _
      |>.fixed (n := .quoted '"' "div".toList) (after_lit (by rfl)) |>.escapeText_quoted _
      |>.fixed (n := .quoted '"' "div".toList) (after_lit (by rfl)) |>.escapeText_quoted _
      |>.fixed (n := .quoted '"' "div".toList) (after_lit (by rfl)) |>.escapeText_quoted _
      |>.fixed (after_quoted (by decide)) |>.escapeText_quoted _ |>.fixed (after_quoted (by decide))
      |>.escapeText_quoted _ |>.fixed (after_lit (by rfl)) |>.append_true (leads_emptySvg en index)
      |>.fixed (after_lit (by rfl))
  refine hchart.congr ⟨?_, fun h => ?_⟩
  · rintro ⟨⟨⟨⟨⟨⟨-, hid⟩, hkey⟩, hname⟩, -⟩, -⟩, -⟩
    exact ⟨hid, hkey, hname⟩
  · exact ⟨⟨⟨⟨⟨⟨trivial, h.visualizationId⟩, h.panelKey⟩, h.name⟩, h.visualizationId⟩, h.panelKey⟩, h.name⟩

theorem leads_buildVisualizationMetricCard (mode : MetricMode) (metric : Metric) (index : ℕ)
    (visualizationId panelKey : Text) :
    Leads (KeyPlain visualizationId panelKey metric.name) .data
      (buildVisualizationMetricCard js en mode metric (getVisualizationPalette index) visualizationId panelKey)
      .data := by
  have hstart : Html.Mode.data.after (if en then "starting point " else "起点 ").toList = .data :=
    after_choice en (after_lit (by rfl)) (after_lit (by rfl))
  have hend : Html.Mode.data.after (if en then "end point " else "终点 ").toList = .data :=
    after_choice en (after_lit (by rfl)) (after_lit (by rfl))
  have hbuttons := leads_flatMap [MetricMode.avg, .min, .max, .last] fun buttonMode _ =>
    leads_modeButton en index visualizationId panelKey metric.name mode buttonMode
  have hitems := (leads_flatMap [label en "Latest " "最新 " ++ formatVisualizationValue js metric.summary.last,
      label en "Average " "均值 " ++ formatVisualizationValue js metric.summary.avg,
      label en "smallest " "最小 " ++ formatVisualizationValue js metric.summary.min,
      label en "Maximum " "最大 " ++ formatVisualizationValue js metric.summary.max] fun item _ =>
    leads_summaryItem index item).congr (iff_of_true (fun _ _ => trivial) trivial)
  have hcard : Leads _ .data
      (buildVisualizationMetricCard js en mode metric (getVisualizationPalette index) visualizationId panelKey)
      .data :=
    leads_metricHeader en metric index visualizationId panelKey mode |>.fixed (after_lit (by rfl))
      |>.append hbuttons |>.fixed (after_lit (by rfl))
      |>.append (leads_metricChart en metric index visualizationId panelKey)
      |>.fixed (after_lit (by rfl)) |>.fixed hstart |>.escapeText _ |>.fixed (after_lit (by rfl))
      |>.fixed hend |>.escapeText _ |>.fixed (after_lit (by rfl)) |>.append_true hitems
      |>.fixed (after_lit (by rfl))
  exact hcard.congr ⟨fun h => h.2, fun h => ⟨⟨h, fun _ _ => h⟩, h⟩⟩

/-- The condition on a panel. -/
def Panel.Plain (visualizationId : Text) (panel : Panel) : Prop :=
  ∀ metric ∈ panel.metrics, KeyPlain visualizationId panel.panelKey metric.name

theorem not_mem_orElse {d : Char} {s t : Text} (ht : d ∉ t) : d ∉ orElse s t ↔ d ∉ s := by
  rw [orElse]
  split
  · rename_i hs
    rw [hs]
    exact iff_of_true ht List.not_mem_nil
  · exact Iff.rfl

theorem not_mem_key (panel : Panel) (index : ℕ) : '"' ∉ panel.key index ↔ '"' ∉ panel.panelKey := by
  refine not_mem_orElse fun hmem => ?_
  rcases List.mem_append.mp hmem with hmem | hmem
  · revert hmem
    decide
  · exact not_mem_digits (by decide) index hmem

theorem leads_buildVisualizationPanel (panel : Panel) (index : ℕ) (visualizationId : Text) :
    Leads (panel.Plain visualizationId) .data
      (buildVisualizationPanel js en modes panel index visualizationId) .data := by
  have htarget : Leads True .data (lit "<div style=\"font-size:12px;color:var(--text-secondary);margin-top:4px;\">" ++
      esc panel.targetName ++ lit "</div>") .data :=
    leads_fixed (after_lit (by rfl)) |>.escapeText _ |>.fixed (after_lit (by rfl))
  have hhidden : Leads True .data (panel.hiddenMetricCount.elim [] fun count =>
      lit "<div style=\"font-size:12px;color:var(--text-secondary);\">" ++
        lit (if en then "View the other " else "其余 ") ++ fixed count.text ++
        lit (if en then " metrics in the skill result.</div>" else " 个指标请在技能结果中查看</div>")) .data := by
    cases panel.hiddenMetricCount with
    | none => exact leads_nil _
    | some count =>
      have hview : Html.Mode.data.after (if en then "View the other " else "其余 ").toList = .data :=
        after_choice en (after_lit (by rfl)) (after_lit (by rfl))
      have hmetrics : Html.Mode.data.after
          (if en then " metrics in the skill result.</div>" else " 个指标请在技能结果中查看</div>").toList = .data :=
        after_choice en (after_lit (by rfl)) (after_lit (by rfl))
      exact leads_fixed (after_lit (by rfl)) |>.fixed hview |>.fixed (after_data count.plain)
        |>.fixed hmetrics
  have hmetrics := leads_flatMap panel.metrics.zipIdx fun a _ =>
    leads_buildVisualizationMetricCard js en (modes (visualizationId ++ ':' :: panel.key index ++ ':' :: a.1.name))
      a.1 (index + a.2) visualizationId (panel.key index)
  have hplain : (∀ a ∈ panel.metrics.zipIdx, KeyPlain visualizationId (panel.key index) a.1.name) ↔
      panel.Plain visualizationId := by
    refine (forall_mem_zipIdx (p := fun metric : Metric => KeyPlain visualizationId (panel.key index) metric.name)
      panel.metrics).trans (forall₂_congr fun metric _ => ?_)
    exact ⟨fun h => ⟨h.visualizationId, (not_mem_key panel index).mp h.panelKey, h.name⟩,
      fun h => ⟨h.visualizationId, (not_mem_key panel index).mpr h.panelKey, h.name⟩⟩
  rw [buildVisualizationPanel]
  split
  · rename_i hempty
    refine (leads_nil _).congr (iff_of_true trivial fun metric hmetric => ?_)
    rw [List.isEmpty_iff.mp hempty] at hmetric
    cases hmetric
  · refine Leads.congr ?_ hplain
    exact leads_fixed (after_lit (by rfl)) |>.escapeText _ |>.fixed (after_lit (by rfl))
      |>.append_true (leads_unless_true htarget) |>.fixed (after_lit (by rfl)) |>.append_true hhidden
      |>.fixed (after_lit (by rfl)) |>.true_append hmetrics |>.fixed (after_lit (by rfl))

/-- The condition on a visualization. -/
def Visualization.Plain (visualizationId : Text) (visualization : Visualization) : Prop :=
  ∀ panel ∈ visualization.panels, panel.Plain visualizationId

theorem leads_buildToolVisualizationCard (toolName : Text) (visualization : Visualization) (visualizationId : Text) :
    Leads (visualization.Plain visualizationId) .data
      (buildToolVisualizationCard js en modes toolName visualization visualizationId) .data := by
  have hdatasource : Leads True .data (lit " · " ++ esc visualization.datasourceName) .data :=
    leads_fixed (after_lit (by rfl)) |>.escapeText _
  have haggregated : Html.Mode.data.after (if en then " aggregated</span>" else " 聚合</span>").toList = .data :=
    after_choice en (after_lit (by rfl)) (after_lit (by rfl))
  have hbucket : Leads True .data
      (lit "<span style=\"font-size:11px;color:var(--text-secondary);background:#fff;border:1px solid var(--border-color);border-radius:999px;padding:4px 10px;\">" ++
        esc visualization.bucketLabel ++ lit (if en then " aggregated</span>" else " 聚合</span>")) .data :=
    leads_fixed (after_lit (by rfl)) |>.escapeText _ |>.fixed haggregated
  have hpanels := (leads_flatMap visualization.panels.zipIdx fun a _ =>
    leads_buildVisualizationPanel js en modes a.1 a.2 visualizationId).congr
      (forall_mem_zipIdx (p := Panel.Plain visualizationId) visualization.panels)
  exact leads_fixed (after_lit (by rfl)) |>.escapeText _ |>.fixed (after_lit (by rfl))
    |>.escapeText _ |>.append_true (leads_unless_true hdatasource) |>.fixed (after_lit (by rfl))
    |>.append_true (leads_unless_true hbucket) |>.fixed (after_lit (by rfl)) |>.escapeText _
    |>.fixed (after_lit (by rfl)) |>.escapeText _ |>.fixed (after_lit (by rfl))
    |>.true_append hpanels |>.fixed (after_lit (by rfl))

/-! ## Tool cards -/

theorem leads_buildToolTextSectionHtml (title elementId content : Text) :
    Leads (content ≠ [] → '"' ∉ elementId) .data (buildToolTextSectionHtml en title elementId content) .data := by
  have hcopy : Html.Mode.data.after (if en then "Copy" else "复制").toList = .data :=
    after_choice en (after_lit (by rfl)) (after_lit (by rfl))
  refine leads_unless (Leads.congr (P := (True ∧ '"' ∉ elementId) ∧ '"' ∉ elementId) ?_
    ⟨fun h => h.2, fun h => ⟨⟨trivial, h⟩, h⟩⟩)
  exact leads_fixed (after_lit (by rfl)) |>.escapeText title
    |>.fixed (n := .quoted '"' "button".toList) (after_lit (by rfl))
    |>.append (leads_quoted '"' elementId "button".toList) |>.fixed (after_lit (by rfl)) |>.fixed hcopy
    |>.fixed (n := .quoted '"' "div".toList) (after_lit (by rfl))
    |>.append (leads_quoted '"' elementId "div".toList) |>.fixed (after_lit (by rfl))
    |>.escapeText content |>.fixed (after_lit (by rfl))

theorem leads_metaItem (itemLabel value : Text) (code : Bool) : Leads True .data (metaItem itemLabel value code) .data :=
  leads_fixed (after_lit (by rfl)) |>.escapeText itemLabel
    |>.fixed (n := .quoted '"' "span".toList) (after_lit (by rfl))
    |>.fixed (after_quoted (not_mem_ite (by decide) (by decide))) |>.fixed (after_lit (by rfl))
    |>.escapeText value |>.fixed (after_lit (by rfl))

theorem leads_buildToolMetadataHtml (metadata : Metadata) :
    Leads True .data (buildToolMetadataHtml en metadata) .data := by
  have htitle : Html.Mode.data.after (if en then "Meta information" else "元信息").toList = .data :=
    after_choice en (after_lit (by rfl)) (after_lit (by rfl))
  have hitems := (leads_flatMap (buildToolMetadataItems en metadata) fun item _ =>
    leads_metaItem item.1 item.2.1 item.2.2).congr (iff_of_true (fun _ _ => trivial) trivial)
  exact leads_unless_true (leads_fixed (after_lit (by rfl)) |>.fixed htitle
    |>.fixed (after_lit (by rfl)) |>.append_true hitems |>.fixed (after_lit (by rfl)))

theorem leads_approvalHead : Leads True .data (approvalHead en) .data := by
  have htitle : Html.Mode.data.after (if en then "Approval" else "审批确认").toList = .data :=
    after_choice en (after_lit (by rfl)) (after_lit (by rfl))
  exact leads_fixed (after_lit (by rfl)) |>.fixed htitle |>.fixed (after_lit (by rfl))

theorem leads_approvalButton (approvalId : Text) (color action : String) {caption : String} (hcolor : '"' ∉ color.toList)
    (haction : '"' ∉ action.toList) (hcaption : Html.Mode.data.after caption.toList = .data) :
    Leads ('"' ∉ approvalId) .data (approvalButton approvalId color action caption) .data := by
  have hbutton : Leads _ .data (approvalButton approvalId color action caption) .data :=
    leads_fixed (n := .quoted '"' "button".toList) (after_lit (by rfl)) |>.fixed (after_quoted hcolor)
      |>.fixed (n := .quoted '"' "button".toList) (after_lit (by rfl)) |>.escapeText_quoted approvalId
      |>.fixed (after_quoted (by decide)) |>.fixed (after_quoted haction) |>.fixed (after_lit (by rfl))
      |>.fixed hcaption |>.fixed (after_lit (by rfl))
  exact hbutton.congr (Iff.of_eq (true_and _))

theorem leads_pendingApprovalHtml (state : ToolState) :
    Leads ('"' ∉ state.approvalId) .data (pendingApprovalHtml en state) .data := by
  have happrove : Html.Mode.data.after (if en then "Approval for execution" else "批准执行").toList = .data :=
    after_choice en (after_lit (by rfl)) (after_lit (by rfl))
  have hreject : Html.Mode.data.after (if en then "reject" else "拒绝").toList = .data :=
    after_choice en (after_lit (by rfl)) (after_lit (by rfl))
  have hreason : Leads True .data (lit "<div class=\"chat-tool-approval-reason\">" ++ esc state.riskReason ++
      lit "</div>") .data :=
    leads_fixed (after_lit (by rfl)) |>.escapeText _ |>.fixed (after_lit (by rfl))
  have hpending : Leads _ .data (pendingApprovalHtml en state) .data :=
    leads_approvalHead en |>.append_true (leads_unless_true hreason) |>.fixed (after_lit (by rfl))
      |>.append (leads_approvalButton state.approvalId "--accent-green" "approved" (by decide) (by decide) happrove)
      |>.append (leads_approvalButton state.approvalId "--accent-red" "rejected" (by decide) (by decide) hreject)
      |>.fixed (after_lit (by rfl))
  exact hpending.congr ⟨fun h => h.2, fun h => ⟨⟨trivial, h⟩, h⟩⟩

theorem leads_buildToolApprovalHtml (state : ToolState) :
    Leads (state.opensByDefault = true → '"' ∉ state.approvalId) .data (buildToolApprovalHtml en state) .data := by
  have hexecuting : Html.Mode.data.after (if en then "Approved, executing..." else "已批准，正在执行...").toList = .data :=
    after_choice en (after_lit (by rfl)) (after_lit (by rfl))
  have hrefused : Html.Mode.data.after (if en then "Execution refused" else "已拒绝执行").toList = .data :=
    after_choice en (after_lit (by rfl)) (after_lit (by rfl))
  have hopens : state.opensByDefault = true ↔
      state.approvalStatus = "pending".toList ∧ state.statusClass = some .pending := by
    simp only [ToolState.opensByDefault, Bool.and_eq_true, decide_eq_true_eq]
  rw [hopens, buildToolApprovalHtml]
  by_cases hnone : state.approvalId = []
  · rw [if_pos hnone]
    refine (leads_nil _).congr (iff_of_true trivial fun _ => ?_)
    rw [hnone]
    exact List.not_mem_nil
  rw [if_neg hnone]
  by_cases hpending : state.approvalStatus = "pending".toList ∧ state.statusClass = some .pending
  · rw [if_pos hpending]
    exact (leads_pendingApprovalHtml en state).congr ⟨fun h _ => h, fun h => h hpending⟩
  rw [if_neg hpending]
  refine Leads.congr (P := True) ?_ (iff_of_true trivial fun h => absurd h hpending)
  split
  · exact leads_approvalHead en |>.fixed (after_lit (by rfl)) |>.fixed hexecuting
      |>.fixed (after_lit (by rfl))
  · refine leads_ite_true ?_
    exact leads_approvalHead en |>.fixed (after_lit (by rfl)) |>.fixed hrefused
      |>.fixed (after_lit (by rfl))

theorem leads_buildToolVisualizationSectionHtml (state : ToolState) :
    Leads (∀ chart ∈ state.shown, '"' ∉ state.visualizationId ∧ chart.Plain state.visualizationId) .data
      (buildToolVisualizationSectionHtml js en modes state) .data := by
  have htitle : Html.Mode.data.after (if en then "Monitoring charts" else "监控图表").toList = .data :=
    after_choice en (after_lit (by rfl)) (after_lit (by rfl))
  rw [buildToolVisualizationSectionHtml]
  cases hshown : state.shown with
  | none =>
    refine (leads_nil _).congr (iff_of_true trivial fun chart hchart => ?_)
    cases hchart
  | some chart =>
    refine Leads.congr (P := (True ∧ '"' ∉ state.visualizationId) ∧ chart.Plain state.visualizationId) ?_
      ⟨fun h chart' hchart' => ?_, fun h => ⟨⟨trivial, (h chart rfl).1⟩, (h chart rfl).2⟩⟩
    · exact leads_fixed (after_lit (by rfl)) |>.fixed htitle
        |>.fixed (n := .quoted '"' "div".toList) (after_lit (by rfl)) |>.escapeText_quoted _
        |>.fixed (after_lit (by rfl))
        |>.append (leads_buildToolVisualizationCard js en modes state.toolName chart _)
        |>.fixed (after_lit (by rfl))
    · cases hchart'
      exact ⟨h.1.2, h.2⟩

/-- The attributes of a tool card lead to the end of its tag. -/
theorem leads_detailAttrs (state : ToolState) (inline : Bool) (segmentId : Text) :
    ∃ n : Html.Mode, n.after ">".toList = .data ∧
      Leads ('"' ∉ segmentId) (.attributes "details".toList) (detailAttrs state inline segmentId) n := by
  rw [detailAttrs]
  by_cases hid : segmentId = []
  · rw [if_pos hid, hid]
    cases inline <;> cases state.opensByDefault
    all_goals refine ⟨_, ?_, (leads_closed rfl).congr (iff_of_true trivial List.not_mem_nil)⟩
    all_goals decide
  · have hattribute : Leads (True ∧ '"' ∉ segmentId) (.attributes "details".toList)
        (lit "data-tool-segment-id=\"" ++ esc segmentId ++ lit "\"") (.attributes "details".toList) :=
      leads_fixed (n := .quoted '"' "details".toList) (after_lit (by rfl)) |>.escapeText_quoted segmentId
        |>.fixed (after_lit (by rfl))
    rw [if_neg hid]
    cases inline <;> cases state.opensByDefault
    all_goals refine ⟨_, ?_, (hattribute.append_true (leads_closed rfl)).congr (Iff.of_eq (true_and _))⟩
    all_goals decide

theorem toneText_plain (tone : Tone) : '"' ∉ tone.text.toList := by
  cases tone <;> decide

theorem leads_toolSummaryHtml (state : ToolState) : Leads True .data (toolSummaryHtml js en state) .data := by
  have htime : Leads True .data (state.executionTimeMs.elim [] fun time =>
      lit "<span class=\"chat-tool-time\">" ++ esc (js.text time ++ " ms".toList) ++ lit "</span>") .data := by
    cases state.executionTimeMs with
    | none => exact leads_nil _
    | some time =>
      exact leads_fixed (after_lit (by rfl)) |>.escapeText _ |>.fixed (after_lit (by rfl))
  exact leads_fixed (after_lit (by rfl)) |>.escapeText _
    |>.fixed (n := .quoted '"' "span".toList) (after_lit (by rfl))
    |>.fixed (after_quoted (toneText_plain _)) |>.fixed (after_lit (by rfl)) |>.escapeText _
    |>.fixed (after_lit (by rfl)) |>.append_true htime |>.fixed (after_lit (by rfl))
    |>.escapeText _ |>.fixed (after_lit (by rfl))

/-- **The condition on a tool card**: the ids that stand in attributes have no quote. -/
structure ToolState.Plain (segmentId : Text) (state : ToolState) : Prop where
  segmentId : '"' ∉ segmentId
  toolId : state.argsStr ≠ [] ∨ state.displayResultStr ≠ [] → '"' ∉ state.toolId
  visualization : ∀ chart ∈ state.shown, '"' ∉ state.visualizationId ∧ chart.Plain state.visualizationId
  approvalId : state.opensByDefault = true → '"' ∉ state.approvalId

theorem not_mem_append_plain {d : Char} {s t : Text} (ht : d ∉ t) : d ∉ s ++ t ↔ d ∉ s := by
  rw [List.mem_append, not_or, and_iff_left ht]

theorem leads_buildToolCardHtml (state : ToolState) (inline : Bool) (segmentId : Text) :
    Leads (state.Plain segmentId) .data (buildToolCardHtml js en modes state inline segmentId) .data := by
  obtain ⟨n, hn, hattributes⟩ := leads_detailAttrs state inline segmentId
  have htext : Html.Mode.data.after (if en then "The result is too long; showing only the first 2,000 characters."
      else "结果过长，当前仅展示前 2000 个字符").toList = .data :=
    after_choice en (after_lit (by rfl)) (after_lit (by rfl))
  have htruncated : Leads True .data (lit "<div class=\"chat-tool-truncate\">" ++
      lit (if en then "The result is too long; showing only the first 2,000 characters."
        else "结果过长，当前仅展示前 2000 个字符") ++ lit "</div>") .data :=
    leads_fixed (after_lit (by rfl)) |>.fixed htext |>.fixed (after_lit (by rfl))
  have hargs := (leads_buildToolTextSectionHtml en (label en "Add ginseng" "入参") (state.toolId ++ "-args".toList)
    state.argsStr).congr (imp_congr_right fun _ => not_mem_append_plain (by decide))
  have hresult := (leads_buildToolTextSectionHtml en (label en "Result" "结果")
    (state.toolId ++ "-result-content".toList) state.displayResultStr).congr
      (imp_congr_right fun _ => not_mem_append_plain (by decide))
  have hcard : Leads _ .data (buildToolCardHtml js en modes state inline segmentId) .data :=
    leads_fixed (n := .quoted '"' "div".toList) (after_lit (by rfl))
      |>.fixed (after_quoted (not_mem_ite (by decide) (by decide)))
      |>.fixed (n := .quoted '"' "details".toList) (after_lit (by rfl))
      |>.fixed (after_quoted (toneText_plain _)) |>.fixed (after_lit (by rfl))
      |>.true_append hattributes |>.fixed hn |>.append_true (leads_toolSummaryHtml js en state)
      |>.fixed (after_lit (by rfl)) |>.append hargs |>.append hresult
      |>.append (leads_buildToolVisualizationSectionHtml js en modes state)
      |>.append (leads_buildToolApprovalHtml en state)
      |>.append_true (leads_buildToolMetadataHtml en state.metadata) |>.append_true (leads_ite_true htruncated)
      |>.fixed (after_lit (by rfl))
  refine hcard.congr ⟨?_, fun h => ?_⟩
  · rintro ⟨⟨⟨⟨hid, hargs⟩, hresult⟩, hchart⟩, hopens⟩
    exact ⟨hid, fun h => h.elim hargs hresult, hchart, hopens⟩
  · exact ⟨⟨⟨⟨h.segmentId, fun ha => h.toolId (.inl ha)⟩, fun hr => h.toolId (.inr hr)⟩, h.visualization⟩, h.approvalId⟩

/-! ## Segments of a message -/

/-- The id of a tool segment, or else its name. -/
def ToolSegment.identity (segment : ToolSegment) : Text :=
  orElse segment.toolCallId (orElse segment.id segment.toolName)

/-- **The condition on a tool segment**: its id has no quote, nor have the keys of its charts, nor the id of an
approval that it waits for. -/
structure ToolSegment.Plain (segment : ToolSegment) : Prop where
  identity : '"' ∉ segment.identity
  visualization : ∀ chart ∈ segment.visualization, chart.type = "monitoring_history".toList →
    ∀ panel ∈ chart.panels, ∀ metric ∈ panel.metrics, '"' ∉ panel.panelKey ∧ '"' ∉ metric.name
  approvalId : segment.status = "waiting_approval".toList →
    segment.metadata.approvalStatus = [] ∨ segment.metadata.approvalStatus = "pending".toList →
    '"' ∉ segment.metadata.approvalId

theorem toolId_buildToolState (segment : ToolSegment) :
    (buildToolStateFromSegment js en segment).toolId =
      orElse segment.toolCallId (orElse segment.id ("inline-tool-".toList ++ orElse segment.toolName "tool".toList)) :=
  rfl

theorem visualizationId_buildToolState (segment : ToolSegment) :
    (buildToolStateFromSegment js en segment).visualizationId =
      orElse (orElse segment.toolCallId segment.id) (orElse segment.toolName (label en "Tool" "工具")) :=
  rfl

theorem orElse_nil (t : Text) : orElse [] t = t := rfl

theorem orElse_of_ne_nil {s : Text} (h : s ≠ []) (t : Text) : orElse s t = s := if_neg h

theorem not_mem_toolId (segment : ToolSegment) :
    '"' ∉ (buildToolStateFromSegment js en segment).toolId ↔ '"' ∉ segment.identity := by
  have hname : '"' ∉ "inline-tool-".toList ++ orElse segment.toolName "tool".toList ↔ '"' ∉ segment.toolName := by
    rw [List.mem_append, not_or, and_iff_right (by decide)]
    exact not_mem_orElse (by decide)
  rw [toolId_buildToolState, ToolSegment.identity]
  rcases eq_or_ne segment.toolCallId [] with hcall | hcall
  · rcases eq_or_ne segment.id [] with hid | hid
    · simpa only [hcall, hid, orElse_nil] using hname
    · rw [hcall, orElse_nil, orElse_nil, orElse_of_ne_nil hid, orElse_of_ne_nil hid]
  · rw [orElse_of_ne_nil hcall, orElse_of_ne_nil hcall]

theorem not_mem_segmentId (segment : ToolSegment) :
    '"' ∉ orElse segment.toolCallId (orElse segment.id (buildToolStateFromSegment js en segment).toolId) ↔
      '"' ∉ segment.identity := by
  have htool := not_mem_toolId js en segment
  rw [ToolSegment.identity] at htool ⊢
  rcases eq_or_ne segment.toolCallId [] with hcall | hcall
  · rcases eq_or_ne segment.id [] with hid | hid
    · simpa only [hcall, hid, orElse_nil] using htool
    · rw [hcall, orElse_nil, orElse_nil, orElse_of_ne_nil hid, orElse_of_ne_nil hid]
  · rw [orElse_of_ne_nil hcall, orElse_of_ne_nil hcall]

theorem not_mem_visualizationId (segment : ToolSegment) :
    '"' ∉ (buildToolStateFromSegment js en segment).visualizationId ↔ '"' ∉ segment.identity := by
  have hname : '"' ∉ orElse segment.toolName (label en "Tool" "工具") ↔ '"' ∉ segment.toolName :=
    not_mem_orElse (by cases en <;> decide)
  rw [visualizationId_buildToolState, ToolSegment.identity]
  rcases eq_or_ne segment.toolCallId [] with hcall | hcall
  · rcases eq_or_ne segment.id [] with hid | hid
    · simpa only [hcall, hid, orElse_nil] using hname
    · rw [hcall, orElse_nil, orElse_nil, orElse_of_ne_nil hid, orElse_of_ne_nil hid]
  · rw [orElse_of_ne_nil hcall, orElse_of_ne_nil hcall, orElse_of_ne_nil hcall]

theorem statusMeta_pending (status : Text) :
    (statusMeta en status).2 = some .pending ↔ status = "waiting_approval".toList := by
  rw [statusMeta]
  split_ifs with hcompleted hfailed hwaiting
  · rw [hcompleted]
    exact iff_of_false (by rintro ⟨⟩) (by decide)
  · rw [hfailed]
    exact iff_of_false (by rintro ⟨⟩) (by decide)
  · exact iff_of_true rfl hwaiting
  · exact iff_of_false (by rintro ⟨⟩) hwaiting
  · exact iff_of_false (by rintro ⟨⟩) hwaiting

theorem orElse_eq_iff {s t r : Text} (hr : r ≠ []) (ht : t ≠ r) : orElse s t = r ↔ s = r := by
  rcases eq_or_ne s [] with hs | hs
  · rw [hs, orElse_nil]
    exact iff_of_false ht hr.symm
  · rw [orElse_of_ne_nil hs]

theorem opensByDefault_iff (segment : ToolSegment) :
    (buildToolStateFromSegment js en segment).opensByDefault = true ↔
      segment.status = "waiting_approval".toList ∧
        (segment.metadata.approvalStatus = [] ∨ segment.metadata.approvalStatus = "pending".toList) := by
  obtain ⟨status, hstate, hstatus⟩ : ∃ status : Text,
      (buildToolStateFromSegment js en segment).opensByDefault =
        (decide (orElse segment.metadata.approvalStatus
          (if status = "waiting_approval".toList then "pending".toList else []) = "pending".toList) &&
          decide ((statusMeta en status).2 = some .pending)) ∧
      (status = "waiting_approval".toList ↔ segment.status = "waiting_approval".toList) :=
    ⟨_, rfl, orElse_eq_iff (by decide) (by split_ifs <;> decide)⟩
  rw [hstate, Bool.and_eq_true, decide_eq_true_iff, decide_eq_true_iff, statusMeta_pending, and_comm, ← hstatus]
  refine and_congr_right fun hwaiting => ?_
  rw [if_pos hwaiting]
  rcases eq_or_ne segment.metadata.approvalStatus [] with happroval | happroval
  · rw [happroval, orElse_nil]
    exact iff_of_true rfl (.inl rfl)
  · rw [orElse_of_ne_nil happroval]
    exact (or_iff_right happroval).symm

theorem plain_buildToolState (segment : ToolSegment) :
    (buildToolStateFromSegment js en segment).Plain
      (orElse segment.toolCallId (orElse segment.id (buildToolStateFromSegment js en segment).toolId)) ↔
      segment.Plain := by
  constructor
  · intro h
    have hid := (not_mem_segmentId js en segment).mp h.segmentId
    refine ⟨hid, fun chart hchart htype panel hpanel metric hmetric => ?_, fun hstatus happroval => ?_⟩
    · have hshown : chart ∈ (buildToolStateFromSegment js en segment).shown :=
        Option.mem_filter_iff.mpr ⟨hchart, decide_eq_true htype⟩
      have hkey := (h.visualization chart hshown).2 panel hpanel metric hmetric
      exact ⟨hkey.panelKey, hkey.name⟩
    · exact h.approvalId ((opensByDefault_iff js en segment).mpr ⟨hstatus, happroval⟩)
  · intro h
    have hid := (not_mem_visualizationId js en segment).mpr h.identity
    refine ⟨(not_mem_segmentId js en segment).mpr h.identity, fun _ => (not_mem_toolId js en segment).mpr h.identity,
      fun chart hchart => ⟨hid, fun panel hpanel metric hmetric => ?_⟩, fun hopens => ?_⟩
    · obtain ⟨hchart, htype⟩ := Option.mem_filter_iff.mp hchart
      obtain ⟨hkey, hname⟩ := h.visualization chart hchart (of_decide_eq_true htype) panel hpanel metric hmetric
      exact ⟨hid, hkey, hname⟩
    · obtain ⟨hstatus, happroval⟩ := (opensByDefault_iff js en segment).mp hopens
      exact h.approvalId hstatus happroval

/-- The condition on a render segment. -/
def RenderSegment.Plain : RenderSegment → Prop
  | .tool segment => segment.Plain
  | .text content => ∀ part ∈ parseAssistantSegments content, part.Plain md

theorem leads_renderSegment (segment : RenderSegment) :
    Leads (segment.Plain md) .data (segment.html js md en modes) .data := by
  cases segment with
  | tool segment =>
    exact (leads_buildToolCardHtml js en modes _ true _).congr (plain_buildToolState js en segment)
  | text content => exact leads_renderAssistantTextSegmentHtml md en content

theorem leads_renderAssistantSegments (segments : List RenderSegment) (fallbackContent : Text) :
    Leads (∀ segment ∈ normalizeAssistantRenderSegments segments fallbackContent, segment.Plain md) .data
      (renderAssistantSegments js md en modes segments fallbackContent) .data :=
  leads_flatMap _ fun segment _ => leads_renderSegment js md en modes segment

/-! ## Thinking and errors -/

theorem thinkingMeta_plain (phase : Text) :
    '"' ∉ (getThinkingMeta en phase).icon.toList ∧ '"' ∉ (getThinkingMeta en phase).tone.toList := by
  rw [getThinkingMeta]
  split_ifs <;> cases en <;> decide

theorem leads_buildThinkingMarkup (phase message : Text) (compact : Bool) :
    Leads True .data (buildThinkingMarkup en phase message compact) .data := by
  obtain ⟨hicon, htone⟩ := thinkingMeta_plain en phase
  exact leads_fixed (n := .quoted '"' "div".toList) (after_lit (by rfl)) |>.fixed (after_quoted htone)
    |>.fixed (after_quoted (not_mem_ite (by decide) (by decide)))
    |>.fixed (n := .quoted '"' "i".toList) (after_lit (by rfl)) |>.fixed (after_quoted hicon)
    |>.fixed (after_lit (by rfl)) |>.escapeText _ |>.fixed (after_lit (by rfl)) |>.escapeText _
    |>.fixed (after_lit (by rfl)) |>.escapeText _ |>.fixed (after_lit (by rfl)) |>.escapeText _
    |>.fixed (after_lit (by rfl))

theorem leads_errorHtml (message : Text) : Leads True .data (errorHtml message) .data :=
  leads_fixed (after_lit (by rfl)) |>.escapeText message |>.fixed (after_lit (by rfl))

/-! ## The view -/

/-- **The condition on what is shown.** -/
def Shown.Plain : Shown → Prop
  | .attachmentPreview attachments | .userMessage _ attachments => ∀ a ∈ attachments, a.Plain
  | .assistant segments fallbackContent =>
    ∀ segment ∈ normalizeAssistantRenderSegments segments fallbackContent, segment.Plain md
  | .toolCard state => state.Plain []
  | .visualization _ chart visualizationId => chart.Plain visualizationId
  | .thinking .. | .error _ => True

theorem leads_shown (shown : Shown) : Leads (shown.Plain md) .data (shown.html js md en modes) .data := by
  cases shown with
  | attachmentPreview attachments => exact leads_attachmentPreviewHtml attachments
  | userMessage text attachments => exact leads_userMessageHtml en text attachments
  | assistant segments fallbackContent => exact leads_renderAssistantSegments js md en modes segments fallbackContent
  | toolCard state => exact leads_buildToolCardHtml js en modes state false []
  | visualization toolName chart visualizationId =>
    exact leads_buildToolVisualizationCard js en modes toolName chart visualizationId
  | thinking phase message compact => exact leads_buildThinkingMarkup en phase message compact
  | error message => exact leads_errorHtml message

/-- **What the chat view assigns to `innerHTML` is free of injections if and only if what it shows is plain**, or a
visualization has a point to draw and nothing is assigned. -/
theorem chatView_injectionFree_iff (shown : Shown) :
    (∀ html ∈ shown.assigned js md en modes, InjectionFree html) ↔
      (∃ chart ∈ shown.visualizations js en, chart.raises js = true) ∨ shown.Plain md := by
  have hhtml := (leads_shown js md en modes shown).injectionFree_iff
  rw [Shown.assigned, ← List.any_eq_true]
  split
  · rename_i hraises
    refine iff_of_true (fun html hmem => ?_) (.inl hraises)
    cases hmem
  · rename_i hraises
    rw [or_iff_right hraises, ← hhtml]
    exact ⟨fun h => h _ rfl, fun h html hmem => Option.some.inj hmem ▸ h⟩

end

/-! ## A script in a message -/

/-- A renderer that copies a text with raw HTML, and makes a paragraph of any other. -/
def copying : MarkdownIt where
  render s := some (if hasMarkup s then [.raw s] else [.opening .p [] false, .text s, .closing .p])
  raw_markup s pieces hpieces r hr := by
    obtain rfl := Option.some.inj hpieces
    split at hr
    · rename_i hmarkup
      cases List.mem_singleton.mp hr
      exact hmarkup
    · simp only [List.mem_cons, reduceCtorEq, List.not_mem_nil, or_self] at hr
  never_raises _ := rfl

/-- JavaScript as far as plain text needs it. -/
def JavaScript.plain : JavaScript where
  string _ := []
  parse _ := none
  stringify _ := []
  stringifyItem _ := []
  isFinite _ := false
  formatNumber _ := []
  date _ := none

/-- The name of a file, or a row of a database that the assistant quotes. -/
def script : Text := "<img src=x onerror=alert(1)>".toList

/-- **A text of the assistant and the name of a file become tags of the page.** -/
theorem script_shown :
    (∃ html ∈ (Shown.assistant [] script).assigned JavaScript.plain (some copying) true (fun _ => .avg),
      ¬ InjectionFree html) ∧
    ∃ html ∈ (Shown.userMessage [] [⟨script, "image".toList⟩]).assigned JavaScript.plain (some copying) true
      (fun _ => .avg), ¬ InjectionFree html := by
  refine ⟨⟨_, rfl, fun hfree => ?_⟩, ⟨_, rfl, fun hfree => ?_⟩⟩
  · have hplain := (leads_shown _ _ _ _ (.assistant [] script)).injectionFree_iff.mp hfree
    have hparts : parseAssistantSegments script = [.markdown script] := by decide
    have hpart := hplain (.text script) (List.mem_singleton_self _) (.markdown script)
      (hparts ▸ List.mem_singleton_self _)
    exact hpart _ rfl script (by decide)
  · have hplain := (leads_shown _ _ _ _ (.userMessage [] [⟨script, "image".toList⟩])).injectionFree_iff.mp hfree
    have hname : hasMarkup script = false := hplain _ (List.mem_singleton_self _)
    revert hname
    decide

end DBClaw.ChatView
