import DBClaw.Library.Json
import DBClaw.Library.Markdown
import Mathlib

/-! # The chat view
`ChatWidget` shows a conversation by the HTML that it assigns to `innerHTML`: attachments, messages of the user,
render segments of the assistant with their tool cards, the thinking indicator and errors. The templates stand
here in their two locales, without the whitespace between two tags. -/

namespace DBClaw.ChatView

open Html Markdown

/-! ## JavaScript -/

/-- What the widget takes from JavaScript: `String`, `JSON.parse`, `JSON.stringify` with an indentation and
without, `Number` where it is finite and how the locale writes it, and `Date` as month, day, hours and minutes. -/
structure JavaScript where
  string : Json → Text
  parse : Text → Option Json
  stringify : Json → Text
  stringifyItem : Json → Text
  isFinite : Option Json → Bool
  formatNumber : Option Json → Text
  date : Json → Option Text

/-- `String(value)`. -/
def JavaScript.text (js : JavaScript) : Json → Text
  | .str s => s
  | value => js.string value

/-- The truth value of a JSON value. -/
def truthy : Json → Bool
  | .null => false
  | .bool b => b
  | .int n => n ≠ 0
  | .float x => x ≠ .fin 0 ∧ x ≠ .nan
  | .str s => s ≠ []
  | .arr _ | .obj _ => true

/-- `s || t` of two strings. -/
def orElse (s t : Text) : Text := if s = [] then t else s

/-- The UTF-16 code units of a character, and of a string. -/
def units (c : Char) : ℕ := if c.toNat < 0x10000 then 1 else 2

def length (s : Text) : ℕ := (s.map units).sum

/-- `s.slice(0, n)`; one half of a surrogate pair is shown as U+FFFD. -/
def slice : ℕ → Text → Text
  | _, [] => []
  | n, c :: s => if units c ≤ n then c :: slice (n - units c) s else if n = 0 then [] else ['\ufffd']

/-- The characters that `trim` removes. -/
def isBlank (c : Char) : Bool :=
  let n := c.toNat
  (9 ≤ n && n ≤ 13) || n = 32 || n = 0xA0 || n = 0x1680 || (0x2000 ≤ n && n ≤ 0x200A) || n = 0x2028 ||
    n = 0x2029 || n = 0x202F || n = 0x205F || n = 0x3000 || n = 0xFEFF

def trimEnd (s : Text) : Text := s.rdropWhile isBlank

def trim (s : Text) : Text := trimEnd (s.dropWhile isBlank)

/-- The names that an object inherits: looking one of them up in a table finds a function. -/
def isInherited (name : Text) : Bool :=
  ["constructor", "__defineGetter__", "__defineSetter__", "hasOwnProperty", "__lookupGetter__",
    "__lookupSetter__", "isPrototypeOf", "propertyIsEnumerable", "toString", "valueOf", "__proto__",
    "toLocaleString"].any fun inherited => inherited.toList = name

/-- What such a function is as a string. -/
def inheritedText (name : Text) : Text :=
  if name = "__proto__".toList then "[object Object]".toList
  else
    "function ".toList ++ (if name = "constructor".toList then "Object".toList else name) ++
      "() \x7b [native code] \x7d".toList

/-- What JavaScript writes for a number. -/
structure Numeral where
  text : Text
  plain : '<' ∉ text

/-! ## Markdown -/

/-- **`markdownit`** with raw HTML and the highlighting of `hljs`: it raises no exception for a string. -/
structure MarkdownIt extends Renderer where
  never_raises : ∀ s, (render s).isSome = true

/-- A text of the template. -/
abbrev lit (s : String) : List Marked := fixed s.toList

/-- `_escapeHtml`. -/
abbrev esc (s : Text) : List Marked := stored (escapeText s)

/-- `content.replace(/\n/g, '<br>')`. -/
def breakLines (content : Text) : List Marked := content.flatMap fun c => if c = '\n' then lit "<br>" else [⟨c, true⟩]

/-- **`_renderMarkdown`** by `MarkdownRenderer.render`: where the page has no `markdownit`, the text stands in a
`pre`. -/
def renderMarkdown (md : Option MarkdownIt) (content : Text) : List Marked :=
  match md with
  | none => lit "<pre>" ++ stored content ++ lit "</pre>"
  | some md =>
    match md.render content with
    | some pieces => Markdown.html pieces
    | none => breakLines content

/-! ## Segments of a text -/

/-- A part of the text of the assistant. -/
inductive TextSegment
  | markdown (content : Text)
  | think (content : Text)
  deriving DecidableEq, Repr

/-- `\w`. -/
def isWordChar (c : Char) : Bool := c.isAlphanum || c = '_'

/-- What comes after `name`, in any case, at the beginning of the text. -/
def afterName : Text → Text → Option Text
  | [], s => some s
  | c :: name, d :: s => if d.toLower = c then afterName name s else none
  | _ :: _, [] => none

/-- What comes after a match of `<think\b[^>]*>` at the beginning of the text. -/
def afterOpenTag (s : Text) : Option Text :=
  (afterName "<think".toList s).bind fun rest =>
    if rest.head?.any isWordChar then none
    else
      match rest.dropWhile (· ≠ '>') with
      | _ :: rest => some rest
      | [] => none

/-- What comes before the first match of a tag, and after it. -/
def splitAt (afterTag : Text → Option Text) : Text → Option (Text × Text)
  | [] => none
  | c :: s =>
    match afterTag (c :: s) with
    | some rest => some ([], rest)
    | none => (splitAt afterTag s).map fun (before, rest) => (c :: before, rest)

/-- The segments from the cursor on; each match takes the cursor on. -/
def segmentsFrom : ℕ → Text → List TextSegment
  | 0, _ => []
  | fuel + 1, source =>
    let markdown := fun content : Text => if content = [] then [] else [TextSegment.markdown content]
    match splitAt afterOpenTag source with
    | none => markdown source
    | some (before, rest) =>
      match splitAt (afterName "</think>".toList) rest with
      | some (content, rest) => markdown before ++ .think content :: segmentsFrom fuel rest
      | none => markdown before ++ [.think rest]

/-- **`_parseAssistantSegments`**. -/
def parseAssistantSegments (content : Text) : List TextSegment :=
  let segments := segmentsFrom (content.length + 1) content
  if segments = [] then [.markdown content] else segments

/-! ## What is shown -/

/-- An attachment. -/
structure Attachment where
  filename : Text
  fileType : Text

/-- How a metric is drawn. -/
inductive MetricMode
  | avg | min | max | last
  deriving DecidableEq, Repr

def MetricMode.text : MetricMode → String
  | .avg => "avg"
  | .min => "min"
  | .max => "max"
  | .last => "last"

/-- A point of a metric. -/
structure Point where
  time : Option Json
  avg : Option Json
  min : Option Json
  max : Option Json
  last : Option Json

/-- The values of a metric in a visualization, and its summary. -/
structure Metric where
  name : Text
  label : Text
  points : List Point
  summary : Point

structure Panel where
  title : Text
  targetName : Text
  panelKey : Text
  /-- The number of metrics that are not shown, where there are any. -/
  hiddenMetricCount : Option Numeral
  metrics : List Metric

/-- The visualization of a tool's result. -/
structure Visualization where
  type : Text
  title : Text
  datasourceName : Text
  bucketLabel : Text
  startTime : Option Json
  endTime : Option Json
  panels : List Panel

/-- `metadata` of a tool segment; a missing text is empty. -/
structure Metadata where
  actionTitle : Text := []
  phase : Text := []
  skillExecutionId : Text := []
  actionRunId : Text := []
  approvalId : Text := []
  approvalStatus : Text := []
  riskReason : Text := []

/-- A render segment of a tool call; a missing text is empty. -/
structure ToolSegment where
  toolCallId : Text := []
  id : Text := []
  toolName : Text := []
  status : Text := []
  args : Json := .null
  result : Option Json := none
  summary : Text := []
  executionTimeMs : Option Json := none
  metadata : Metadata := {}
  visualization : Option Visualization := none

/-- A render segment: of a tool, or of any other type, with its text. -/
inductive RenderSegment
  | tool (segment : ToolSegment)
  | text (content : Text)

/-- The tone of a tool card. -/
inductive Tone
  | running | success | error | pending
  deriving DecidableEq, Repr

def Tone.text : Tone → String
  | .running => "running"
  | .success => "success"
  | .error => "error"
  | .pending => "pending"

/-- The state of a tool card. -/
structure ToolState where
  toolId : Text
  toolName : Text
  toolCallId : Text
  argsStr : Text
  statusLabel : Text
  statusClass : Option Tone
  summary : Text
  executionTimeMs : Option Json
  metadata : Metadata
  displayResultStr : Text
  isTruncated : Bool
  visualization : Option Visualization
  approvalId : Text
  approvalStatus : Text
  riskReason : Text

/-! ## Results of tools -/

section

variable (js : JavaScript) (en : Bool)

/-- A text of the locale. -/
def label (english chinese : String) : Text := (if en then english else chinese).toList

/-- **`_buildSummary`**. -/
def buildSummary (data : Option Json) (fallback : Text) : Text :=
  match data.filter truthy with
  | none => fallback
  | some (.str s) => if 120 < length (trim s) then slice 117 (trim s) ++ "...".toList else trim s
  | some (.arr xs) => label en "Back " "返回 " ++ (toString xs.length).toList ++ label en " records" " 条记录"
  | some (.obj fields) =>
    if truthy (Dict.get fields "error") then js.text (Dict.get fields "error")
    else if truthy (Dict.get fields "message") then js.text (Dict.get fields "message")
    else
      let parts := (fields.take 3).map fun (key, value) =>
        let rendered := match value with
          | .null | .arr _ | .obj _ => js.stringifyItem value
          | _ => js.text value
        key.toList ++ '=' :: (if 24 < length rendered then slice 21 rendered ++ "...".toList else rendered)
      orElse ("，".toList.intercalate parts) fallback
  | some value => js.string value

/-- A result as a tool card shows it. -/
structure ToolResult where
  displayResultStr : Text
  isError : Bool
  isTruncated : Bool
  summary : Text

/-- The result says that the call failed. -/
def saysError : Option Json → Bool
  | some (.obj fields) =>
    (match Dict.get fields "success" with
      | .bool success => !success
      | _ => false) || truthy (Dict.get fields "error")
  | _ => false

/-- **`_parseToolResultPayload`**. -/
def parseToolResultPayload (result : Option Json) : ToolResult :=
  let parsedResult : Option Json :=
    match result with
    | some (.str s) => some ((js.parse s).getD (.str s))
    | _ => result
  let resultStr : Text :=
    match result with
    | some (.str s) => (js.parse s).elim s js.stringify
    | some value => js.stringify value
    | none => []
  { displayResultStr :=
      if 2000 < length resultStr then
        trimEnd (slice 2000 resultStr) ++ label en "...(Truncated)" "\n...（已截断）"
      else resultStr
    isError := saysError parsedResult
    isTruncated := 2000 < length resultStr
    summary := buildSummary js en parsedResult
      (if saysError parsedResult then label en "Execution failed" "执行失败"
        else label en "Results returned" "已返回结果") }

/-- `theCallHasBeenInitiatedWaitingFor`. -/
def initiated : Text := label en "The call has been initiated, waiting for the result to be returned" "已发起调用，等待返回结果"

/-- `statusMap[status] || statusMap.running`: a label and a class, neither of them for an inherited name. -/
def statusMeta (status : Text) : Text × Option Tone :=
  if status = "completed".toList then (label en "Complete" "完成", some .success)
  else if status = "failed".toList then (label en "failed" "失败", some .error)
  else if status = "waiting_approval".toList then (label en "To be confirmed" "待确认", some .pending)
  else if isInherited status then ([], none)
  else (label en "Executing" "执行中", some .running)

/-- **`_buildToolStateFromSegment`**. -/
def buildToolStateFromSegment (segment : ToolSegment) : ToolState :=
  let parsed := parseToolResultPayload js en segment.result
  let status := orElse segment.status
    (if parsed.isError then "failed".toList
      else if segment.result.any truthy then "completed".toList else "running".toList)
  { toolId := orElse segment.toolCallId (orElse segment.id ("inline-tool-".toList ++ orElse segment.toolName "tool".toList))
    toolName := orElse segment.toolName (label en "Tool" "工具")
    toolCallId := orElse segment.toolCallId segment.id
    argsStr := if truthy segment.args then
        match segment.args with
        | .str s => s
        | value => js.stringify value
      else []
    statusLabel := (statusMeta en status).1
    statusClass := (statusMeta en status).2
    summary := orElse segment.summary (orElse parsed.summary
      (if status = "failed".toList then label en "Execution failed" "执行失败" else initiated en))
    executionTimeMs := segment.executionTimeMs
    metadata := segment.metadata
    displayResultStr := parsed.displayResultStr
    isTruncated := parsed.isTruncated
    visualization := segment.visualization
    approvalId := segment.metadata.approvalId
    approvalStatus := orElse segment.metadata.approvalStatus
      (if status = "waiting_approval".toList then "pending".toList else [])
    riskReason := segment.metadata.riskReason }

end

/-! ## Messages -/

section

variable (js : JavaScript) (md : Option MarkdownIt) (en : Bool)

/-- **`getFileIcon`**. -/
def getFileIcon (fileType : Text) : Text :=
  if fileType = "image".toList then "image".toList
  else if fileType = "text".toList then "file-text".toList
  else if fileType = "document".toList then "file".toList
  else if isInherited fileType then inheritedText fileType
  else "file".toList

/-- The chip of an attachment that is not sent yet. -/
def attachmentChip (att : Attachment) (idx : ℕ) : List Marked :=
  lit "<div class=\"attachment-chip\"><i data-lucide=\"" ++ fixed (getFileIcon att.fileType) ++
    lit "\"></i><span>" ++ stored att.filename ++ lit "</span><button onclick=\"ChatWidget.removeAttachment(" ++
    fixed (toString idx).toList ++ lit ")\" class=\"remove-btn\"><i data-lucide=\"x\"></i></button></div>"

/-- **`updateAttachmentPreview`**; without an attachment the preview is hidden instead. -/
def attachmentPreviewHtml (attachments : List Attachment) : List Marked :=
  attachments.zipIdx.flatMap fun (att, idx) => attachmentChip att idx

/-- An attachment of a message. -/
def attachmentItem (att : Attachment) : List Marked :=
  lit "<div class=\"attachment-item\"><i data-lucide=\"" ++ fixed (getFileIcon att.fileType) ++
    lit "\"></i><span>" ++ stored att.filename ++ lit "</span></div>"

/-- `attachmentHtml`. -/
def attachmentHtml (attachments : List Attachment) : List Marked :=
  if attachments = [] then []
  else lit "<div class=\"message-attachments\">" ++ attachments.flatMap attachmentItem ++ lit "</div>"

/-- **`addUserMessage`**. -/
def userMessageHtml (text : Text) (attachments : List Attachment) : List Marked :=
  lit "<div class=\"chat-avatar\">U</div><div class=\"chat-bubble\">" ++ attachmentHtml attachments ++
    (if text = [] then [] else lit "<div class=\"chat-user-text\">" ++ esc text ++ lit "</div>") ++
    lit "</div><button class=\"message-copy-btn\" title=\"" ++ lit (if en then "Copy content" else "复制内容") ++
    lit "\"><i data-lucide=\"copy\"></i></button>"

/-- **`_buildThinkBlockHtml`**. -/
def buildThinkBlockHtml (content : Text) : List Marked :=
  lit "<details class=\"assistant-think-block\"><summary class=\"assistant-think-summary\">" ++
    lit (if en then "reasoning process" else "推理过程") ++
    lit "</summary><div class=\"assistant-think-content\">" ++ renderMarkdown md content ++ lit "</div></details>"

/-- The HTML of a part of a text. -/
def TextSegment.html : TextSegment → List Marked
  | .markdown content => renderMarkdown md content
  | .think content => buildThinkBlockHtml md en content

/-- **`_renderAssistantTextSegmentHtml`**. -/
def renderAssistantTextSegmentHtml (content : Text) : List Marked :=
  (parseAssistantSegments content).flatMap (TextSegment.html md en)

/-! ## Visualizations -/

/-- The colors of a metric. -/
structure Palette where
  stroke : String
  bg : String
  border : String

/-- **`_getVisualizationPalette`**. -/
def getVisualizationPalette (index : ℕ) : Palette :=
  match index % 6 with
  | 0 => ⟨"#2f81f7", "rgba(47,129,247,0.08)", "rgba(47,129,247,0.18)"⟩
  | 1 => ⟨"#f59e0b", "rgba(245,158,11,0.10)", "rgba(245,158,11,0.2)"⟩
  | 2 => ⟨"#10b981", "rgba(16,185,129,0.10)", "rgba(16,185,129,0.2)"⟩
  | 3 => ⟨"#ef4444", "rgba(239,68,68,0.08)", "rgba(239,68,68,0.18)"⟩
  | 4 => ⟨"#8b5cf6", "rgba(139,92,246,0.08)", "rgba(139,92,246,0.18)"⟩
  | _ => ⟨"#06b6d4", "rgba(6,182,212,0.08)", "rgba(6,182,212,0.18)"⟩

/-- **`_formatVisualizationTime`**. -/
def formatVisualizationTime (value : Option Json) : Text :=
  match value.filter truthy with
  | none => "-".toList
  | some value => (js.date value).getD (js.text value)

/-- **`_formatVisualizationValue`**. -/
def formatVisualizationValue (value : Option Json) : Text :=
  if js.isFinite value then js.formatNumber value else "-".toList

/-- **`_getVisualizationModeLabel`**. -/
def getVisualizationModeLabel : MetricMode → Text
  | .avg => label en "Average" "均值"
  | .min => label en "Minimum" "最小值"
  | .max => label en "maximum value" "最大值"
  | .last => label en "final value" "末值"

/-- The point has a value and a time: a chart has a place for it. -/
def Point.plottable (point : Point) : Bool :=
  [point.avg, point.last, point.max, point.min].any js.isFinite &&
    (point.time.filter truthy).any fun time => (js.date time).isSome

/-- **`_buildTimeSeriesChartModel`** is null without such a point. With one it reads `palette`, which is not in
its scope, and raises an exception: whatever is being rendered is not assigned. -/
def Visualization.raises (visualization : Visualization) : Bool :=
  visualization.panels.any fun panel => panel.metrics.any fun metric => metric.points.any (Point.plottable js)

/-- **`_buildTimeSeriesSvg`** of no points. -/
def emptySvg (palette : Palette) : List Marked :=
  lit "<svg viewBox=\"0 0 360 188\" width=\"100%\" height=\"188\" aria-hidden=\"true\"><rect x=\"0\" y=\"0\" width=\"360\" height=\"188\" rx=\"12\" fill=\"" ++
    lit palette.bg ++
    lit "\"></rect><text x=\"180\" y=\"94\" text-anchor=\"middle\" fill=\"var(--text-muted)\" font-size=\"12\">" ++
    lit (if en then "No trend data yet" else "暂无趋势数据") ++ lit "</text></svg>"

/-- A button that draws a metric in another way. -/
def modeButton (palette : Palette) (visualizationId panelKey name : Text) (mode buttonMode : MetricMode) :
    List Marked :=
  lit "<button type=\"button\" onclick=\"ChatWidget.setVisualizationMetricMode('" ++ esc visualizationId ++
    lit "', '" ++ esc panelKey ++ lit "', '" ++ esc name ++ lit "', '" ++ lit buttonMode.text ++
    lit "')\" style=\"border:1px solid " ++ lit (if buttonMode = mode then palette.stroke else palette.border) ++
    lit ";background:" ++ lit (if buttonMode = mode then "#fff" else "transparent") ++ lit ";color:" ++
    lit (if buttonMode = mode then palette.stroke else "var(--text-secondary)") ++
    lit ";border-radius:999px;padding:3px 10px;font-size:11px;cursor:pointer;\">" ++
    esc (getVisualizationModeLabel en buttonMode) ++ lit "</button>"

/-- An item of a metric's summary. -/
def summaryItem (palette : Palette) (item : Text) : List Marked :=
  lit "<span style=\"font-size:11px;color:var(--text-secondary);background:#fff;border:1px solid " ++
    lit palette.border ++ lit ";border-radius:999px;padding:2px 8px;\">" ++ esc item ++ lit "</span>"

/-- The head of a metric's card. -/
def metricHeader (metric : Metric) (palette : Palette) (visualizationId panelKey : Text) (mode : MetricMode) :
    List Marked :=
  lit "<div data-visualization-metric-card=\"" ++
    esc (visualizationId ++ ':' :: panelKey ++ ':' :: metric.name) ++ lit "\" style=\"border:1px solid " ++
    lit palette.border ++ lit ";border-radius:10px;padding:10px;background:" ++ lit palette.bg ++
    lit ";display:flex;flex-direction:column;gap:8px;min-width:0;\"><div style=\"display:flex;align-items:flex-start;justify-content:space-between;gap:12px;\"><div style=\"min-width:0;\"><div style=\"font-size:13px;font-weight:600;color:var(--text-primary);word-break:break-word;\">" ++
    esc (orElse metric.label (orElse metric.name "metric".toList)) ++
    lit "</div><div style=\"font-size:11px;color:var(--text-secondary);\">" ++
    fixed (toString metric.points.length).toList ++
    lit (if en then " convergence point · Currently showing " else " 个聚合点 · 当前显示 ") ++
    esc (getVisualizationModeLabel en mode) ++ lit "</div></div><span style=\"font-size:11px;color:" ++
    lit palette.stroke ++ lit ";background:#fff;border:1px solid " ++ lit palette.border ++
    lit ";border-radius:999px;padding:2px 8px;white-space:nowrap;\">" ++ esc metric.name ++ lit "</span></div>"

/-- The chart of a metric. -/
def metricChart (metric : Metric) (palette : Palette) (visualizationId panelKey : Text) : List Marked :=
  lit "<div class=\"chat-timeseries-chart\" data-visualization-id=\"" ++ esc visualizationId ++
    lit "\" data-panel-key=\"" ++ esc panelKey ++ lit "\" data-metric-name=\"" ++ esc metric.name ++
    lit "\" style=\"position:relative;\" onmousemove=\"ChatWidget.handleVisualizationHover(event, '" ++
    esc visualizationId ++ lit "', '" ++ esc panelKey ++ lit "', '" ++ esc metric.name ++
    lit "')\" onmouseleave=\"ChatWidget.clearVisualizationHover(event)\"><div class=\"chat-timeseries-crosshair\" style=\"display:none;position:absolute;top:7.45%;bottom:17.02%;width:1px;background:rgba(47,129,247,0.35);pointer-events:none;\"></div><div class=\"chat-timeseries-tooltip\" style=\"display:none;position:absolute;top:10px;min-width:150px;max-width:220px;background:rgba(15,23,42,0.95);color:#fff;border-radius:10px;padding:8px 10px;font-size:11px;line-height:1.5;pointer-events:none;box-shadow:0 10px 28px rgba(15,23,42,0.22);z-index:3;\"></div>" ++
    emptySvg en palette ++ lit "</div>"

/-- **`_buildVisualizationMetricCard`**, with the way in which the metric is drawn. -/
def buildVisualizationMetricCard (mode : MetricMode) (metric : Metric) (palette : Palette)
    (visualizationId panelKey : Text) : List Marked :=
  metricHeader en metric palette visualizationId panelKey mode ++
    lit "<div style=\"display:flex;flex-wrap:wrap;gap:6px;\">" ++
    [MetricMode.avg, .min, .max, .last].flatMap (modeButton en palette visualizationId panelKey metric.name mode) ++
    lit "</div>" ++ metricChart en metric palette visualizationId panelKey ++
    lit "<div style=\"display:flex;justify-content:space-between;gap:8px;font-size:11px;color:var(--text-secondary);\"><span>" ++
    lit (if en then "starting point " else "起点 ") ++
    esc (formatVisualizationTime js (metric.points.head?.bind Point.time)) ++ lit "</span><span>" ++
    lit (if en then "end point " else "终点 ") ++
    esc (formatVisualizationTime js (metric.points.getLast?.bind Point.time)) ++
    lit "</span></div><div style=\"display:flex;flex-wrap:wrap;gap:6px;\">" ++
    [label en "Latest " "最新 " ++ formatVisualizationValue js metric.summary.last,
      label en "Average " "均值 " ++ formatVisualizationValue js metric.summary.avg,
      label en "smallest " "最小 " ++ formatVisualizationValue js metric.summary.min,
      label en "Maximum " "最大 " ++ formatVisualizationValue js metric.summary.max].flatMap (summaryItem palette) ++
    lit "</div></div>"

variable (modes : Text → MetricMode)

/-- `panelKey`. -/
def Panel.key (panel : Panel) (index : ℕ) : Text := orElse panel.panelKey ("panel-".toList ++ (toString index).toList)

/-- **`_buildVisualizationPanel`**; `modes` is `toolVisualizationModes`. -/
def buildVisualizationPanel (panel : Panel) (index : ℕ) (visualizationId : Text) : List Marked :=
  if panel.metrics.isEmpty then []
  else
    lit "<div style=\"border:1px solid var(--border-color);border-radius:12px;padding:12px;background:var(--bg-primary);display:flex;flex-direction:column;gap:12px;\"><div style=\"display:flex;justify-content:space-between;align-items:flex-start;gap:12px;flex-wrap:wrap;\"><div><div style=\"font-size:14px;font-weight:600;color:var(--text-primary);\">" ++
      esc (orElse panel.title (label en "Monitor trends" "监控趋势")) ++ lit "</div>" ++
      (if panel.targetName = [] then []
        else lit "<div style=\"font-size:12px;color:var(--text-secondary);margin-top:4px;\">" ++ esc panel.targetName ++
          lit "</div>") ++
      lit "</div>" ++
      (panel.hiddenMetricCount.elim [] fun count =>
        lit "<div style=\"font-size:12px;color:var(--text-secondary);\">" ++
          lit (if en then "View the other " else "其余 ") ++ fixed count.text ++
          lit (if en then " metrics in the skill result.</div>" else " 个指标请在技能结果中查看</div>")) ++
      lit "</div><div style=\"display:grid;grid-template-columns:repeat(auto-fit,minmax(300px,1fr));gap:10px;\">" ++
      panel.metrics.zipIdx.flatMap (fun (metric, metricIndex) =>
        buildVisualizationMetricCard js en
          (modes (visualizationId ++ ':' :: panel.key index ++ ':' :: metric.name)) metric
          (getVisualizationPalette (index + metricIndex)) visualizationId (panel.key index)) ++
      lit "</div></div>"

/-- **`_buildToolVisualizationCard`**. -/
def buildToolVisualizationCard (toolName : Text) (visualization : Visualization) (visualizationId : Text) :
    List Marked :=
  lit "<div style=\"border:1px solid var(--border-color);border-radius:14px;padding:14px;background:linear-gradient(180deg, rgba(47,129,247,0.08), rgba(47,129,247,0.02));display:flex;flex-direction:column;gap:12px;\"><div style=\"display:flex;justify-content:space-between;align-items:flex-start;gap:12px;flex-wrap:wrap;\"><div style=\"display:flex;align-items:flex-start;gap:10px;\"><div style=\"width:32px;height:32px;border-radius:10px;background:rgba(47,129,247,0.12);display:flex;align-items:center;justify-content:center;color:#2f81f7;flex-shrink:0;\"><i data-lucide=\"activity\"></i></div><div><div style=\"font-size:15px;font-weight:600;color:var(--text-primary);\">" ++
    esc (orElse visualization.title (label en "Skill visualization results" "技能可视化结果")) ++
    lit "</div><div style=\"font-size:12px;color:var(--text-secondary);margin-top:4px;\">" ++ esc toolName ++
    (if visualization.datasourceName = [] then [] else lit " · " ++ esc visualization.datasourceName) ++
    lit "</div></div></div><div style=\"display:flex;flex-wrap:wrap;gap:6px;justify-content:flex-end;\">" ++
    (if visualization.bucketLabel = [] then []
      else
        lit "<span style=\"font-size:11px;color:var(--text-secondary);background:#fff;border:1px solid var(--border-color);border-radius:999px;padding:4px 10px;\">" ++
          esc visualization.bucketLabel ++ lit (if en then " aggregated</span>" else " 聚合</span>")) ++
    lit "<span style=\"font-size:11px;color:var(--text-secondary);background:#fff;border:1px solid var(--border-color);border-radius:999px;padding:4px 10px;\">" ++
    esc (formatVisualizationTime js visualization.startTime) ++ lit " ~ " ++
    esc (formatVisualizationTime js visualization.endTime) ++
    lit "</span></div></div><div style=\"display:flex;flex-direction:column;gap:12px;\">" ++
    visualization.panels.zipIdx.flatMap (fun (panel, index) =>
      buildVisualizationPanel js en modes panel index visualizationId) ++
    lit "</div></div>"

/-! ## Tool cards -/

/-- **`_buildToolTextSectionHtml`**. -/
def buildToolTextSectionHtml (title elementId content : Text) : List Marked :=
  if content = [] then []
  else
    lit "<div class=\"chat-tool-section\"><div class=\"chat-tool-section-title\"><span>" ++ esc title ++
      lit "</span><button class=\"chat-tool-copy-btn\" onclick=\"ChatWidget.copyToClipboard('" ++ stored elementId ++
      lit "', event)\"><i data-lucide=\"copy\"></i> " ++ lit (if en then "Copy" else "复制") ++
      lit "</button></div><div class=\"chat-tool-content\" id=\"" ++ stored elementId ++ lit "\">" ++ esc content ++
      lit "</div></div>"

/-- **`_buildToolMetadataItems`**: a label, a value, and whether it is code. -/
def buildToolMetadataItems (metadata : Metadata) : List (Text × Text × Bool) :=
  [(label en "action" "动作", metadata.actionTitle, false), (label en "stage" "阶段", metadata.phase, false),
    ("skill_execution_id".toList, metadata.skillExecutionId, true),
    ("action_run_id".toList, metadata.actionRunId, true)].filter fun (_, value, _) => value ≠ []

/-- An item of the metadata. -/
def metaItem (itemLabel value : Text) (code : Bool) : List Marked :=
  lit "<div class=\"chat-tool-meta-item\"><span class=\"chat-tool-meta-label\">" ++ esc itemLabel ++
    lit "</span><span class=\"chat-tool-meta-value" ++ lit (if code then " is-code" else "") ++ lit "\">" ++
    esc value ++ lit "</span></div>"

/-- **`_buildToolMetadataHtml`**. -/
def buildToolMetadataHtml (metadata : Metadata) : List Marked :=
  if (buildToolMetadataItems en metadata).isEmpty then []
  else
    lit "<div class=\"chat-tool-section\"><div class=\"chat-tool-section-title\"><span>" ++
      lit (if en then "Meta information" else "元信息") ++ lit "</span></div><div class=\"chat-tool-meta-list\">" ++
      (buildToolMetadataItems en metadata).flatMap (fun (itemLabel, value, code) => metaItem itemLabel value code) ++
      lit "</div></div>"

/-- The head of the approval's section. -/
def approvalHead : List Marked :=
  lit "<div class=\"chat-tool-section\"><div class=\"chat-tool-section-title\"><span>" ++
    lit (if en then "Approval" else "审批确认") ++ lit "</span></div>"

/-- A button that resolves an approval. -/
def approvalButton (approvalId : Text) (color action caption : String) : List Marked :=
  lit "<button type=\"button\" class=\"btn btn-sm\" style=\"background:var(" ++ lit color ++
    lit ");color:#fff;border:none;padding:6px 16px;border-radius:4px;cursor:pointer;\" onclick=\"DiagnosisPage._resolveApproval('" ++
    esc approvalId ++ lit "', '" ++ lit action ++ lit "')\">" ++ lit caption ++ lit "</button>"

/-- The section of an approval that is asked for. -/
def pendingApprovalHtml (state : ToolState) : List Marked :=
  approvalHead en ++
    (if state.riskReason = [] then []
      else lit "<div class=\"chat-tool-approval-reason\">" ++ esc state.riskReason ++ lit "</div>") ++
    lit "<div style=\"display:flex;gap:8px;flex-wrap:wrap;margin-top:12px;\">" ++
    approvalButton state.approvalId "--accent-green" "approved" (if en then "Approval for execution" else "批准执行") ++
    approvalButton state.approvalId "--accent-red" "rejected" (if en then "reject" else "拒绝") ++
    lit "</div></div>"

/-- **`_buildToolApprovalHtml`**. -/
def buildToolApprovalHtml (state : ToolState) : List Marked :=
  if state.approvalId = [] then []
  else if state.approvalStatus = "pending".toList ∧ state.statusClass = some .pending then pendingApprovalHtml en state
  else if state.approvalStatus = "approving".toList ∧ state.statusClass = some .running then
    approvalHead en ++ lit "<div class=\"chat-tool-approval-reason\" style=\"color:var(--accent-green);\">" ++
      lit (if en then "Approved, executing..." else "已批准，正在执行...") ++ lit "</div></div>"
  else if state.approvalStatus = "rejected".toList then
    approvalHead en ++ lit "<div class=\"chat-tool-approval-reason\" style=\"color:var(--accent-red);\">" ++
      lit (if en then "Execution refused" else "已拒绝执行") ++ lit "</div></div>"
  else []

/-- The visualization that a tool card shows. -/
def ToolState.shown (state : ToolState) : Option Visualization :=
  state.visualization.filter fun visualization => visualization.type = "monitoring_history".toList

/-- `visualizationId`. -/
def ToolState.visualizationId (state : ToolState) : Text := orElse state.toolCallId state.toolName

/-- **`_buildToolVisualizationSectionHtml`**. -/
def buildToolVisualizationSectionHtml (state : ToolState) : List Marked :=
  match state.shown with
  | none => []
  | some visualization =>
    lit "<div class=\"chat-tool-section\"><div class=\"chat-tool-section-title\"><span>" ++
      lit (if en then "Monitoring charts" else "监控图表") ++
      lit "</span></div><div class=\"chat-tool-visualization-host\" data-tool-visualization-host=\"" ++
      esc state.visualizationId ++ lit "\">" ++
      buildToolVisualizationCard js en modes state.toolName visualization state.visualizationId ++ lit "</div></div>"

/-- `shouldOpenByDefault`. -/
def ToolState.opensByDefault (state : ToolState) : Bool :=
  state.approvalStatus = "pending".toList && state.statusClass = some .pending

/-- `detailAttrs`. -/
def detailAttrs (state : ToolState) (inline : Bool) (segmentId : Text) : List Marked :=
  ((if segmentId = [] then [] else [lit "data-tool-segment-id=\"" ++ esc segmentId ++ lit "\""]) ++
    (if inline then [lit "data-inline-tool=\"true\""] else []) ++
    (if state.opensByDefault then [lit "open"] else [])).intersperse (lit " ") |>.flatten

/-- The summary of a tool card. -/
def toolSummaryHtml (state : ToolState) : List Marked :=
  lit "<summary class=\"chat-tool-summary\"><div class=\"chat-tool-summary-main\"><div class=\"chat-tool-icon\" aria-hidden=\"true\"><span class=\"chat-tool-icon-glyph\">⚙</span></div><div class=\"chat-tool-main\"><div class=\"chat-tool-title-row\"><span class=\"chat-tool-name\">" ++
    esc state.toolName ++ lit "</span><span class=\"chat-tool-status " ++
    lit (state.statusClass.getD .running).text ++ lit "\">" ++
    esc (orElse state.statusLabel (label en "Executing" "执行中")) ++ lit "</span>" ++
    (state.executionTimeMs.elim [] fun time =>
      lit "<span class=\"chat-tool-time\">" ++ esc (js.text time ++ " ms".toList) ++ lit "</span>") ++
    lit "</div><div class=\"chat-tool-summary-text\">" ++ esc (orElse state.summary (initiated en)) ++
    lit "</div></div></div></summary>"

/-- **`_buildToolCardHtml`**. -/
def buildToolCardHtml (state : ToolState) (inline : Bool) (segmentId : Text) : List Marked :=
  lit "<div class=\"" ++ lit (if inline then "assistant-tool-block" else "chat-system-body") ++
    lit "\"><details class=\"chat-tool-details tool-tone-" ++ lit (state.statusClass.getD .running).text ++ lit "\" " ++
    detailAttrs state inline segmentId ++ lit ">" ++ toolSummaryHtml js en state ++
    lit "<div class=\"chat-tool-body\">" ++
    buildToolTextSectionHtml en (label en "Add ginseng" "入参") (state.toolId ++ "-args".toList) state.argsStr ++
    buildToolTextSectionHtml en (label en "Result" "结果") (state.toolId ++ "-result-content".toList)
      state.displayResultStr ++
    buildToolVisualizationSectionHtml js en modes state ++ buildToolApprovalHtml en state ++
    buildToolMetadataHtml en state.metadata ++
    (if state.isTruncated then
      lit "<div class=\"chat-tool-truncate\">" ++
        lit (if en then "The result is too long; showing only the first 2,000 characters." else "结果过长，当前仅展示前 2000 个字符") ++
        lit "</div>"
      else []) ++
    lit "</div></details></div>"

/-! ## Segments of a message -/

/-- The HTML of a render segment. -/
def RenderSegment.html : RenderSegment → List Marked
  | .tool segment =>
    let state := buildToolStateFromSegment js en segment
    buildToolCardHtml js en modes state true (orElse segment.toolCallId (orElse segment.id state.toolId))
  | .text content => renderAssistantTextSegmentHtml md en content

/-- **`_normalizeAssistantRenderSegments`**. -/
def normalizeAssistantRenderSegments (segments : List RenderSegment) (fallbackContent : Text) : List RenderSegment :=
  if segments.isEmpty then if fallbackContent = [] then [] else [.text fallbackContent] else segments

/-- **`_renderAssistantSegments`**. -/
def renderAssistantSegments (segments : List RenderSegment) (fallbackContent : Text) : List Marked :=
  (normalizeAssistantRenderSegments segments fallbackContent).flatMap (RenderSegment.html js md en modes)

/-! ## Thinking and errors -/

/-- What the thinking indicator says; the texts of an inherited name are undefined. -/
structure ThinkingMeta where
  title : Text
  subtitle : Text
  icon : String
  tone : String
  badge : Text

/-- **`_getThinkingMeta`**, without the message. -/
def getThinkingMeta (phase : Text) : ThinkingMeta :=
  if phase = "intent_detection".toList then
    ⟨label en "Problem analysis" "问题分析中", label en "Identify intent and failure types" "识别意图和故障类型", "search",
      "violet", label en "Analysis" "分析"⟩
  else if phase = "context_building".toList then
    ⟨label en "Contextual assembly" "上下文装配中",
      label en "Aggregate datasources, historical conclusions, and environmental information" "汇总数据源、历史结论和环境信息",
      "database", "blue", label en "context" "上下文"⟩
  else if phase = "skill_selection".toList then
    ⟨label en "Diagnostic path planning" "诊断路径规划中",
      label en "Choose appropriate diagnostic skills and sequencing" "选择合适的诊断技能和排查顺序", "git-branch", "cyan",
      label en "planning" "规划"⟩
  else if phase = "tool_execution".toList then
    ⟨label en "Evidence is being collected" "证据收集中",
      label en "Calling database or host diagnostic tool" "正在调用数据库或主机诊断工具", "wrench", "amber",
      label en "Execute" "执行"⟩
  else if phase = "llm_thinking".toList then
    ⟨label en "Conclusion is being generated" "结论生成中",
      label en "Cross-check evidence and formulate diagnostic conclusions" "交叉整理证据并形成诊断结论", "sparkles", "green",
      label en "Summary" "总结"⟩
  else if isInherited phase then ⟨[], [], "undefined", "undefined", []⟩
  else
    ⟨label en "AI Thinking" "AI 思考中", label en "Processing current diagnostic step" "正在处理当前诊断步骤", "bot",
      "violet", label en "Processing" "处理中"⟩

/-- **`_buildThinkingMarkup`**. -/
def buildThinkingMarkup (phase message : Text) (compact : Bool) : List Marked :=
  let thinking := getThinkingMeta en phase
  lit "<div class=\"thinking-card thinking-tone-" ++ lit thinking.tone ++
    lit (if compact then " thinking-card-compact" else "") ++
    lit "\"><div class=\"thinking-card-accent\"></div><div class=\"thinking-card-main\"><div class=\"thinking-card-topline\"><div class=\"thinking-card-icon\"><i data-lucide=\"" ++
    lit thinking.icon ++
    lit "\"></i></div><div class=\"thinking-card-copy\"><div class=\"thinking-card-title-row\"><div class=\"thinking-card-title\">" ++
    esc thinking.title ++ lit "</div><span class=\"thinking-card-badge\">" ++ esc thinking.badge ++
    lit "</span></div><div class=\"thinking-card-subtitle\">" ++ esc thinking.subtitle ++
    lit "</div></div></div><div class=\"thinking-card-message\">" ++ esc (orElse message thinking.subtitle) ++
    lit "</div><div class=\"thinking-card-progress\"><span class=\"thinking-card-progress-dot\"></span><span class=\"thinking-card-progress-dot\"></span><span class=\"thinking-card-progress-dot\"></span></div></div></div>"

/-- **`addError`**. -/
def errorHtml (message : Text) : List Marked :=
  lit "<div class=\"chat-avatar\">!</div><div class=\"chat-bubble\">" ++ esc message ++ lit "</div>"

/-! ## Assignments -/

/-- What the widget shows with an assignment to `innerHTML`. -/
inductive Shown
  | attachmentPreview (attachments : List Attachment)
  | userMessage (text : Text) (attachments : List Attachment)
  | assistant (segments : List RenderSegment) (fallbackContent : Text)
  | toolCard (state : ToolState)
  | visualization (toolName : Text) (chart : Visualization) (visualizationId : Text)
  | thinking (phase message : Text) (compact : Bool)
  | error (message : Text)

/-- The visualizations in it. -/
def Shown.visualizations : Shown → List Visualization
  | .assistant segments fallbackContent =>
    (normalizeAssistantRenderSegments segments fallbackContent).filterMap fun
      | .tool segment => (buildToolStateFromSegment js en segment).shown
      | .text _ => none
  | .toolCard state => state.shown.toList
  | .visualization _ chart _ => [chart]
  | _ => []

/-- Its HTML. -/
def Shown.html : Shown → List Marked
  | .attachmentPreview attachments => attachmentPreviewHtml attachments
  | .userMessage text attachments => userMessageHtml en text attachments
  | .assistant segments fallbackContent => renderAssistantSegments js md en modes segments fallbackContent
  | .toolCard state => buildToolCardHtml js en modes state false []
  | .visualization toolName chart visualizationId =>
    buildToolVisualizationCard js en modes toolName chart visualizationId
  | .thinking phase message compact => buildThinkingMarkup en phase message compact
  | .error message => errorHtml message

/-- **The HTML that is assigned**, unless a visualization raises an exception. -/
def Shown.assigned (shown : Shown) : Option (List Marked) :=
  if (shown.visualizations js en).any (Visualization.raises js) then none else some (shown.html js md en modes)

end

end DBClaw.ChatView
