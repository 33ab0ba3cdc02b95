import DBClaw.Library.Markdown

/-! # The public pages
`public_alert_page` and `public_report_page` render an alert and a report for whoever has a share token, and
`generate_inspection_report` stores the HTML of a report. The templates stand here without their style sheets
and without the whitespace between two tags. `publicPages_injectionFree_iff` says when nothing of a stored text
becomes a tag or an attribute. -/

namespace DBClaw.PublicPages

open Html Markdown

set_option maxRecDepth 4000

/-- What Python writes for a number, a date or a token. -/
structure Rendered where
  text : Text
  plain : '<' ∉ text ∧ '"' ∉ text

/-- **`Datasource`**. -/
structure Datasource where
  name : Text
  dbType : Text
  host : Text
  port : Rendered
  database : Option Text := none
  remark : Option Text := none
  tags : List Text := []
  connectionStatus : Option Text := some "unknown".toList

/-- **`AlertMessage`**, its title and content as `render_alert_title_and_content` gives them in the locale. -/
structure AlertMessage where
  title : Text
  content : Text
  severity : Text
  status : Text
  alertType : Text
  metricName : Option Text := none
  metricValue : Option Rendered := none
  thresholdValue : Option Rendered := none
  triggerReason : Option Text := none
  createdAt : Rendered
  acknowledgedAt : Option Rendered := none
  resolvedAt : Option Rendered := none

/-- **`AlertEvent`**. -/
structure AlertEvent where
  severity : Text
  aiDiagnosisSummary : Option Text := none
  rootCause : Option Text := none
  recommendedActions : Option Text := none

/-- The report that an alert links to, with its share token. -/
structure LinkedReport where
  id : Rendered
  token : Rendered
  title : Text
  status : Option Text := none
  createdAt : Rendered

/-! ## Pieces of a template -/

/-- A text of the template. -/
abbrev lit (s : String) : List Marked := fixed s.toList

/-- `escape_html` of a stored text. -/
abbrev esc (s : Text) : List Marked := stored (escape s)

/-- `s or d`. -/
def orElse (s d : Text) : Text := if s = [] then d else s

/-- `labels.get(value, default)`. -/
def labelled (labels : List (String × String)) (value default : Text) : List Marked :=
  match labels.find? fun (key, _) => key.toList = value with
  | some (_, label) => lit label
  | none => stored default

/-- `if value` of a text that may be missing. -/
def present (value : Option Text) : Option Text := value.filter (· ≠ [])

/-- A block with a label and a text, where there is one. -/
def block (opening label middle closing : String) (value : Option Text) : List Marked :=
  match present value with
  | none => []
  | some value => lit opening ++ lit label ++ lit middle ++ esc value ++ lit closing

/-- The color of a severity. -/
def severityColor (severity : Text) : String :=
  if severity = "critical".toList then "#dc2626"
  else if severity = "high".toList then "#ea580c"
  else if severity = "medium".toList then "#ca8a04"
  else if severity = "low".toList then "#16a34a"
  else "#6b7280"

/-- The label of a severity, or else the severity. -/
def severityLabel (en : Bool) (lower severity : Text) : Text :=
  let labels : List (String × String) :=
    if en then [("critical", "Critical"), ("high", "High"), ("medium", "Medium"), ("low", "Low")]
    else [("critical", "严重"), ("high", "高"), ("medium", "中"), ("low", "低")]
  match labels.find? fun (key, _) => key.toList = lower with
  | some (_, label) => label.toList
  | none => severity

/-! ## The public alert page -/

/-- The texts of `PUBLIC_ALERT_LABELS`. -/
structure AlertLabels where
  rootCause : String
  actions : String
  aiDiagnosis : String
  linkedReport : String
  report : String
  viewReport : String
  pending : String
  running : String
  completed : String
  failed : String
  triggeredAt : String
  triggerReason : String
  datasource : String
  name : String
  type : String
  connection : String
  connectionStatus : String
  remark : String
  alertDetails : String
  metric : String
  current : String
  threshold : String
  acknowledgedAt : String
  recoveredAt : String
  details : String

/-- **`PUBLIC_ALERT_LABELS`**. -/
def publicAlertLabels (en : Bool) : AlertLabels :=
  if en then
    { rootCause := "Root cause", actions := "Recommended actions", aiDiagnosis := "AI diagnosis"
      linkedReport := "Linked diagnostic report", report := "Report", viewReport := "View report"
      pending := "Pending", running := "Generating", completed := "Completed", failed := "Failed"
      triggeredAt := "Triggered", triggerReason := "Trigger reason", datasource := "Datasource configuration"
      name := "Name", type := "Type", connection := "Connection", connectionStatus := "Connection status"
      remark := "Remark", alertDetails := "Alert details", metric := "Metric", current := "Current value"
      threshold := "Threshold", acknowledgedAt := "Acknowledged", recoveredAt := "Recovered"
      details := "Details" }
  else
    { rootCause := "根本原因", actions := "建议措施", aiDiagnosis := "AI 诊断分析"
      linkedReport := "关联诊断报告", report := "报告", viewReport := "查看报告"
      pending := "待处理", running := "生成中", completed := "已完成", failed := "失败"
      triggeredAt := "触发时间", triggerReason := "触发原因", datasource := "数据库配置信息"
      name := "名称", type := "类型", connection := "连接", connectionStatus := "连接状态"
      remark := "备注", alertDetails := "告警详情", metric := "指标名称", current := "当前值"
      threshold := "阈值", acknowledgedAt := "确认时间", recoveredAt := "恢复时间"
      details := "详细内容" }

/-- The labels of an alert's status. -/
def alertStatusLabels (en : Bool) : List (String × String) :=
  if en then [("active", "Active"), ("acknowledged", "Acknowledged"), ("resolved", "Resolved")]
  else [("active", "活跃"), ("acknowledged", "已确认"), ("resolved", "已解决")]

def alertStatusColor (status : Text) : String :=
  if status = "active".toList then "#dc2626"
  else if status = "acknowledged".toList then "#ea580c"
  else if status = "resolved".toList then "#16a34a"
  else "#6b7280"

/-- The labels of an alert's type. -/
def alertTypeLabels (en : Bool) : List (String × String) :=
  if en then
    [("threshold_violation", "Threshold exceeded"), ("baseline_deviation", "Baseline deviation"),
      ("custom_expression", "Custom expression"), ("system_error", "System error"),
      ("ai_policy_violation", "AI policy alert")]
  else
    [("threshold_violation", "超过阈值"), ("baseline_deviation", "偏离基线"), ("custom_expression", "自定义表达式"),
      ("system_error", "系统错误"), ("ai_policy_violation", "智能判定异常")]

/-- The labels of a datasource's connection status. -/
def connectionStatusLabels (en : Bool) : List (String × String) :=
  if en then [("normal", "Normal"), ("warning", "Warning"), ("failed", "Failed"), ("unknown", "Unknown")]
  else [("normal", "正常"), ("warning", "警告"), ("failed", "失败"), ("unknown", "未知")]

def connectionStatusColor (status : Text) : String :=
  if status = "normal".toList then "#16a34a"
  else if status = "warning".toList then "#ca8a04"
  else if status = "failed".toList then "#dc2626"
  else "#6b7280"

/-- `ds_status_label`: `None` is written as such. -/
def connectionStatusLabel (en : Bool) (status : Option Text) : List Marked :=
  match status with
  | none => lit "None"
  | some status => labelled (connectionStatusLabels en) status status

/-- The labels of a report's status. -/
def reportStatusLabels (en : Bool) : List (String × String) :=
  let labels := publicAlertLabels en
  [("pending", labels.pending), ("running", labels.running), ("completed", labels.completed),
    ("failed", labels.failed)]

/-- A field of a section. -/
def field (label : String) (value : List Marked) : List Marked :=
  lit "<div class=\"field\"><div class=\"field-label\">" ++ lit label ++ lit "</div><div class=\"field-value\">" ++
    value ++ lit "</div></div>"

/-- The head of a section. -/
def sectionHeader (cssClass icon title : String) : List Marked :=
  lit "<div class=\"" ++ lit cssClass ++ lit "\"><div class=\"section-header\"><span class=\"section-icon\">" ++
    lit icon ++ lit "</span><span class=\"section-title\">" ++ lit title ++ lit "</span></div>"

section AlertPage

variable (u : Unicode) (md : Renderer) (en : Bool)

/-- `severity_badge`. -/
def alertSeverityBadge (severity : Text) : List Marked :=
  lit "<span class=\"sev-badge\" style=\"background:" ++ lit (severityColor (Text.lower u severity)) ++
    lit ";color:#fff;padding:2px 10px;border-radius:4px;font-size:12px;font-weight:600;\">" ++
    esc (severityLabel en (Text.lower u severity) severity) ++ lit "</span>"

/-- `ai_diagnosis_html`. -/
def aiDiagnosisHtml (rootCause actions : Option Text) : List Marked :=
  if (present rootCause).isSome || (present actions).isSome then
    sectionHeader "section ai-section" "🧠" (publicAlertLabels en).aiDiagnosis ++ lit "<div class=\"section-body\">" ++
      block "<div class=\"diag-block root-cause\"><div class=\"diag-label\">🔍 " (publicAlertLabels en).rootCause
        "</div><div class=\"diag-content\">" "</div></div>" rootCause ++
      block "<div class=\"diag-block actions\"><div class=\"diag-label\">🛠 " (publicAlertLabels en).actions
        "</div><div class=\"diag-content\">" "</div></div>" actions ++
      lit "</div></div>"
  else []

/-- `report_html`. -/
def linkedReportHtml (report : Option LinkedReport) : List Marked :=
  match report with
  | none => []
  | some report =>
    sectionHeader "section report-section" "📋" (publicAlertLabels en).linkedReport ++
      lit "<div class=\"section-body\"><div class=\"report-info\"><div class=\"report-meta\"><span class=\"report-time\">" ++
      fixed report.createdAt.text ++ lit "</span><span class=\"report-title\">" ++
      esc (orElse report.title ((publicAlertLabels en).report.toList ++ " #".toList ++ report.id.text)) ++
      lit "</span><span class=\"report-status\">" ++
      labelled (reportStatusLabels en) (report.status.getD []) (orElse (report.status.getD []) "-".toList) ++
      lit "</span></div><a class=\"btn btn-secondary\" href=\"/api/inspections/report/public/" ++
      fixed report.id.text ++ lit "/page?token=" ++ fixed report.token.text ++ lit "\">" ++
      lit (publicAlertLabels en).viewReport ++ lit "</a></div></div></div>"

/-- `content_html`. -/
def contentHtml (content : Text) : List Marked :=
  match md.render content with
  | some pieces => Markdown.html pieces
  | none => lit "<pre>" ++ esc content ++ lit "</pre>"

/-- A text of the datasource, `-` if there is none. -/
def datasourceText (datasource : Option Datasource) (f : Datasource → Text) : Text := datasource.elim "-".toList f

/-- Its port. -/
def portText (datasource : Option Datasource) : List Marked :=
  datasource.elim (lit "-") fun d => fixed d.port.text

/-- Where it is. -/
def connectionHtml (datasource : Option Datasource) : List Marked :=
  esc (datasourceText datasource Datasource.host) ++ lit ":" ++ portText datasource ++ lit " / " ++
    esc (datasourceText datasource fun d => (present d.database).getD "-".toList)

/-- Its connection status, with a dot in the color of it. -/
def connectionStatusHtml (status : Option Text) : List Marked :=
  lit "<span style=\"display:inline-flex;align-items:center;gap:4px;\"><span class=\"status-dot\" style=\"background:" ++
    lit (connectionStatusColor (status.getD [])) ++ lit ";\"></span>" ++ connectionStatusLabel en status ++ lit "</span>"

/-- The section of the datasource. -/
def datasourceSection (datasource : Option Datasource) : List Marked :=
  let labels := publicAlertLabels en
  sectionHeader "section" "📊" labels.datasource ++ lit "<div class=\"section-body\"><div class=\"grid-2\">" ++
    field labels.name (esc (datasourceText datasource Datasource.name)) ++
    field labels.type (esc (datasourceText datasource fun d => orElse (Text.upper u d.dbType) "-".toList)) ++
    field labels.connection (connectionHtml datasource) ++
    field labels.connectionStatus
      (connectionStatusHtml en (datasource.elim (some "unknown".toList) Datasource.connectionStatus)) ++
    lit "</div>" ++
    block "<div class=\"remark-block\"><div class=\"remark-label\">" labels.remark
      "</div><div class=\"remark-content\">" "</div></div>" (datasource.bind Datasource.remark) ++
    lit "</div></div>"

/-- A number or a date, `-` if there is none. -/
def renderedText (value : Option Rendered) : List Marked := value.elim (lit "-") fun value => fixed value.text

/-- The section of the alert's details. -/
def detailsSection (alert : AlertMessage) : List Marked :=
  let labels := publicAlertLabels en
  sectionHeader "section" "⚠️" labels.alertDetails ++ lit "<div class=\"section-body\"><div class=\"grid-3\">" ++
    field labels.type (labelled (alertTypeLabels en) alert.alertType (orElse alert.alertType "-".toList)) ++
    field labels.metric (esc ((present alert.metricName).getD "-".toList)) ++
    field labels.current (renderedText alert.metricValue) ++
    field labels.threshold (renderedText alert.thresholdValue) ++
    field labels.acknowledgedAt (renderedText alert.acknowledgedAt) ++
    field labels.recoveredAt (renderedText alert.resolvedAt) ++ lit "</div></div></div>"

/-- The head of the page, up to the datasource. -/
def alertHeader (alert : AlertMessage) : List Marked :=
  let labels := publicAlertLabels en
  lit "<!DOCTYPE html><html lang=\"" ++ lit (if en then "en-US" else "zh-CN") ++
    lit "\"><head><meta charset=\"UTF-8\"><meta name=\"viewport\" content=\"width=device-width, initial-scale=1.0\"><title>" ++
    esc alert.title ++ lit " - " ++ lit (if en then "Alert details" else "告警详情") ++
    lit "</title><link rel=\"stylesheet\" href=\"https://cdn.jsdelivr.net/npm/github-markdown@2.10.0/github-markdown.min.css\"><style></style></head><body><div class=\"container\"><h1 class=\"alert-title\">" ++
    esc alert.title ++ lit "</h1><div class=\"meta-row\"><span class=\"meta-item\">" ++
    alertSeverityBadge u en alert.severity ++ lit "</span><span class=\"meta-item\" style=\"color:" ++
    lit (alertStatusColor alert.status) ++ lit ";font-weight:500;\">● " ++
    labelled (alertStatusLabels en) alert.status (orElse alert.status "-".toList) ++ lit "</span><span class=\"meta-item\">" ++
    lit labels.triggeredAt ++ lit ": " ++ fixed alert.createdAt.text ++ lit "</span></div>" ++
    block "<div class=\"trigger-block\">" labels.triggerReason ": " "</div>" alert.triggerReason

/-- **`public_alert_page`**, in English or in Chinese. -/
def publicAlertPage (alert : AlertMessage) (event : Option AlertEvent) (datasource : Option Datasource)
    (report : Option LinkedReport) : List Marked :=
  alertHeader u en alert ++ datasourceSection u en datasource ++ detailsSection en alert ++
    aiDiagnosisHtml en (event.bind AlertEvent.rootCause) (event.bind AlertEvent.recommendedActions) ++
    linkedReportHtml en report ++ sectionHeader "section" "📝" (publicAlertLabels en).details ++
    lit "<div class=\"content-block markdown-body\">" ++ contentHtml md alert.content ++
    lit "</div></div></div></body></html>"

end AlertPage

/-! ## The public report page -/

/-- `str.title()`: a letter after another one in lower case, any other in upper case. -/
def titleCase (u : Unicode) (cased : Bool) : Text → Text
  | [] => []
  | c :: s =>
    (if cased then u.lowerChar c else u.upperChar c) ++
      titleCase u (decide (u.lowerChar c ≠ [c] ∨ u.upperChar c ≠ [c])) s

/-- `REPORT_TRIGGER_LABELS`. -/
def reportTriggerLabels (en : Bool) : List (String × String) :=
  if en then
    [("scheduled", "Scheduled"), ("manual", "Manual"), ("anomaly", "Anomaly"),
      ("connection_failure", "Connection Failure"), ("baseline", "Baseline"), ("threshold", "Threshold")]
  else
    [("scheduled", "定时"), ("manual", "手动"), ("anomaly", "异常"), ("connection_failure", "连接失败"),
      ("baseline", "基线"), ("threshold", "阈值")]

/-- `_report_trigger_label`: a label, or else the type in words. -/
def reportTriggerLabel (u : Unicode) (en : Bool) (triggerType : Text) : List Marked :=
  labelled (reportTriggerLabels en) triggerType
    (titleCase u false (triggerType.map fun c => if c = '_' then ' ' else c))

/-- What `generate_inspection_report` puts into the HTML of a report: the response locale, the trigger, the
datasource and the Markdown that the AI has written. -/
structure Generated where
  en : Bool
  triggerType : Text
  datasourceName : Text
  dbType : Text
  generatedAt : Rendered
  contentMd : Text

/-- **`Report`**: its HTML is none, or what was generated. -/
structure Report where
  title : Text
  status : Text
  triggerType : Option Text := none
  triggerReason : Option Text := none
  summary : Option Text := none
  generationLocale : Text
  createdAt : Rendered
  contentMd : Option Text := none
  contentHtml : Option Generated := none

/-- `ai.report.title`. -/
def reportTitle (u : Unicode) (g : Generated) : List Marked :=
  reportTriggerLabel u g.en g.triggerType ++ lit (if g.en then " Inspection - " else "巡检 - ") ++
    stored g.datasourceName

/-- **The HTML of a report**, as `generate_inspection_report` stores it. -/
def reportHtml (u : Unicode) (md : Renderer) (g : Generated) : List Marked :=
  lit "<!DOCTYPE html><html lang=\"" ++ lit (if g.en then "en-US" else "zh-CN") ++
    lit "\"><head><meta charset=\"UTF-8\"><title>" ++ reportTitle u g ++
    lit "</title><style></style></head><body><div class=\"container\">" ++ contentHtml md g.contentMd ++
    lit "<div class=\"footer\"><p>" ++
    lit (if g.en then "Generated by the DBClaw intelligent diagnostics engine" else "报告由 DBClaw 智能诊断引擎生成") ++
    lit "</p><p>" ++ lit (if g.en then "Datasource: " else "数据源：") ++ stored g.datasourceName ++
    lit (if g.en then " (" else "（") ++ stored (Text.upper u g.dbType) ++
    lit (if g.en then ") | Generated: " else "）| 生成时间：") ++ fixed g.generatedAt.text ++
    lit "</p></div></div></body></html>"

/-- The labels of a report's status and of what triggered it. -/
def pageStatusLabels (en : Bool) : List (String × String) :=
  if en then
    [("pending", "Pending"), ("running", "Running"), ("completed", "Completed"), ("partial", "Partial"),
      ("timed_out", "Timed out"), ("awaiting_confirm", "Awaiting confirmation"), ("failed", "Failed")]
  else
    [("pending", "等待中"), ("running", "生成中"), ("completed", "已完成"), ("partial", "部分完成"), ("timed_out", "已超时"),
      ("awaiting_confirm", "等待确认"), ("failed", "失败")]

def pageTriggerLabels (en : Bool) : List (String × String) :=
  if en then
    [("manual", "Manual"), ("scheduled", "Scheduled"), ("alert", "Alert"), ("connection_failure", "Connection failure")]
  else [("manual", "手动"), ("scheduled", "定时"), ("alert", "告警"), ("connection_failure", "连接故障")]

/-- The label of a value, or else the value. -/
def labelText (labels : List (String × String)) (value default : Text) : Text :=
  match labels.find? fun (key, _) => key.toList = value with
  | some (_, label) => label.toList
  | none => default

section ReportPage

variable (u : Unicode) (md : Renderer)

/-- `severity_badge`, of an alert event. -/
def reportSeverityBadge (en : Bool) (event : Option AlertEvent) : List Marked :=
  match event with
  | none => []
  | some event =>
    lit "<span style=\"background:" ++ lit (severityColor (Text.lower u event.severity)) ++
      lit ";color:#fff;padding:2px 8px;border-radius:4px;font-size:12px;\">" ++
      esc (severityLabel en (Text.lower u event.severity) event.severity) ++ lit "</span>"

/-- A field of the datasource. -/
def dsField (label : String) (value : List Marked) : List Marked :=
  lit "<div class=\"ds-field\"><div class=\"ds-label\">" ++ lit label ++ lit "</div><div class=\"ds-value\">" ++
    value ++ lit "</div></div>"

/-- The card of the datasource. -/
def datasourceCard (en : Bool) (datasource : Option Datasource) : List Marked :=
  let label (eng zh : String) : String := if en then eng else zh
  lit "<div class=\"ds-card\"><div class=\"ds-title\"><span>&#128202;</span> " ++
    lit (label "Datasource configuration" "数据源配置") ++ lit "</div><div class=\"ds-grid\">" ++
    dsField (label "Name" "名称") (esc (datasourceText datasource Datasource.name)) ++
    dsField (label "Type" "类型") (stored (Text.upper u (escape (datasourceText datasource Datasource.dbType)))) ++
    dsField (label "Host" "主机")
      (esc (datasourceText datasource Datasource.host) ++ lit ":" ++ portText datasource) ++
    dsField (label "Database" "数据库")
      (esc (datasourceText datasource fun d => (present d.database).getD "-".toList)) ++
    dsField (label "Tags" "标签") (esc (datasourceText datasource fun d =>
      if d.tags = [] then "-".toList else List.intercalate ", ".toList d.tags)) ++
    lit "</div>" ++
    block "<div class=\"ds-remark\"><div class=\"ds-remark-label\">" (label "Remark" "备注") "</div>" "</div>"
      (datasource.bind Datasource.remark) ++
    lit "</div>"

/-- The AI card, which falls back on the report's summary and trigger reason. -/
def aiCard (en : Bool) (report : Report) (event : Option AlertEvent) : List Marked :=
  let label (eng zh : String) : String := if en then eng else zh
  let summary := (present (event.bind AlertEvent.aiDiagnosisSummary)).orElse fun _ => present report.summary
  let rootCause := (present (event.bind AlertEvent.rootCause)).orElse fun _ => present report.triggerReason
  let actions := present (event.bind AlertEvent.recommendedActions)
  if summary.isSome || rootCause.isSome || actions.isSome then
    lit "<div class=\"ai-card\"><div class=\"ai-title\"><span>&#129514;</span> " ++
      lit (label "AI diagnostic conclusion" "AI 诊断结论") ++ lit "</div>" ++
      block "<div class=\"ai-section\"><div class=\"ai-label\">" (label "Summary" "诊断摘要")
        "</div><div class=\"ai-value\">" "</div></div>" summary ++
      block "<div class=\"ai-section\"><div class=\"ai-label\">" (label "Root cause" "根因分析")
        "</div><div class=\"ai-value root-cause\">" "</div></div>" rootCause ++
      block "<div class=\"ai-section\"><div class=\"ai-label\">" (label "Recommended actions" "建议措施")
        "</div><div class=\"ai-value actions\">" "</div></div>" actions ++
      lit "</div>"
  else []

/-- `report_html`: the stored HTML, or else the Markdown as it is. -/
def reportBody (en : Bool) (report : Report) : List Marked :=
  match report.contentHtml with
  | some g => reportHtml u md g
  | none =>
    lit "<pre>" ++
      (match present report.contentMd with
        | some content => stored content
        | none => lit (if en then "No content" else "暂无内容")) ++
      lit "</pre>"

/-- The head of the page, up to the datasource. -/
def reportHeader (en : Bool) (report : Report) (event : Option AlertEvent) : List Marked :=
  let label (eng zh : String) : String := if en then eng else zh
  lit "<!DOCTYPE html><html lang=\"" ++ stored (orElse report.generationLocale "zh-CN".toList) ++
    lit "\"><head><meta charset=\"UTF-8\"><meta name=\"viewport\" content=\"width=device-width, initial-scale=1.0\"><title>" ++
    esc report.title ++ lit "</title><style></style></head><body><div class=\"card\"><h1>" ++ esc report.title ++
    lit "</h1><div class=\"meta\"><span>" ++ lit (label "Status" "状态") ++ lit ": " ++
    esc (labelText (pageStatusLabels en) report.status report.status) ++ lit "</span><span>" ++
    lit (label "Trigger type" "触发类型") ++ lit ": " ++
    esc (labelText (pageTriggerLabels en) (report.triggerType.getD []) (orElse (report.triggerType.getD []) "-".toList)) ++
    lit "</span><span>" ++ lit (label "Created" "创建时间") ++ lit ": " ++ fixed report.createdAt.text ++
    lit "</span>" ++ reportSeverityBadge u en event ++ lit "</div>" ++
    block "<div class=\"trigger\">" (label "Trigger reason" "触发原因") ": " "</div>" report.triggerReason

/-- **`public_report_page`**. -/
def publicReportPage (report : Report) (event : Option AlertEvent) (datasource : Option Datasource) : List Marked :=
  let en := decide (orElse report.generationLocale "zh-CN".toList = "en-US".toList)
  reportHeader u en report event ++ datasourceCard u en datasource ++ aiCard en report event ++
    reportBody u md en report ++ lit "</div></body></html>"

end ReportPage

/-! ## Reading the alert page -/

variable {P : Prop} {m n : Mode} {xs : List Marked} {f : Text} {labels : List (String × String)}

/-- The keys and the labels of a table have no markup. -/
def plainTable (labels : List (String × String)) : Bool :=
  labels.all fun (key, label) => !hasMarkup key.toList && !label.toList.contains '<'

theorem hasMarkup_orElse (s : Text) : hasMarkup (orElse s "-".toList) = hasMarkup s := by
  rw [orElse]
  split
  · rename_i hs
    rw [hs]
    rfl
  · rfl

theorem leads_label {default : Text} (hlabels : plainTable labels = true) {s : Text}
    (hdefault : hasMarkup default = hasMarkup s) (hf : goesOn f = true) (hn : Mode.data.after f = n) :
    Leads (hasMarkup s = false) .data (labelled labels s default ++ fixed f) n := by
  rw [labelled]
  split
  · rename_i key label hfind
    have hkey : key.toList = s := by simpa using List.find?_some hfind
    have hplain := List.all_eq_true.mp hlabels (key, label) (List.mem_of_find?_eq_some hfind)
    simp only [Bool.and_eq_true, Bool.not_eq_true', List.contains_eq_mem, decide_eq_false_iff_not] at hplain
    rw [hkey] at hplain
    exact ((leads_fixed (after_data hplain.2)).fixed hn).congr (iff_of_true trivial hplain.1)
  · rw [← hdefault]
    exact leads_hole _ hf hn

/-- A template goes on with a value or its label, and then a text of its own. -/
theorem leads_labelled (h : Leads P m xs .data) (hlabels : plainTable labels = true) (s : Text)
    (hf : goesOn f = true) (hn : Mode.data.after f = n) :
    Leads (P ∧ hasMarkup s = false) m (xs ++ labelled labels s (orElse s "-".toList) ++ fixed f) n := by
  rw [List.append_assoc]
  exact h.append (leads_label hlabels (hasMarkup_orElse s) hf hn)

/-- A label is one of two texts without markup. -/
theorem not_mem_choice {d : Char} {s t : String} (en : Bool) (h : d ∉ s.toList ∧ d ∉ t.toList) :
    d ∉ (if en then s else t).toList := by
  cases en
  · exact h.2
  · exact h.1

theorem severityColor_plain (s : Text) : '"' ∉ (severityColor s).toList := by
  rw [severityColor]
  split_ifs <;> decide

theorem leads_field {label : String} {value : List Marked} (hlabel : '<' ∉ label.toList)
    (hvalue : Leads P .data (value ++ lit "</div></div>") .data) : Leads P .data (field label value) .data := by
  have hhead : Leads True .data (lit "<div class=\"field\"><div class=\"field-label\">" ++ lit label ++
      lit "</div><div class=\"field-value\">") .data :=
    ((leads_fixed (after_lit (by rfl))).fixed (after_data hlabel)).fixed (after_lit (by rfl))
  rw [field, List.append_assoc]
  exact hhead.true_append hvalue

theorem leads_sectionHeader {cssClass icon title : String} (hclass : '"' ∉ cssClass.toList)
    (hicon : '<' ∉ icon.toList) (htitle : '<' ∉ title.toList) :
    Leads True .data (sectionHeader cssClass icon title) .data := by
  have hopen : Mode.data.after "<div class=\"".toList = .quoted '"' "div".toList := after_lit (by rfl)
  have hspan : (Mode.quoted '"' "div".toList).after
      "\"><div class=\"section-header\"><span class=\"section-icon\">".toList = .data :=
    after_lit (by rfl)
  exact (((((leads_fixed hopen).fixed (after_quoted hclass)).fixed hspan).fixed (after_data hicon)).fixed
    (by decide)).fixed (after_data htitle) |>.fixed (after_lit (by rfl))

section

variable (u : Unicode) (md : Renderer) (en : Bool)

theorem leads_alertSeverityBadge (severity : Text) :
    Leads True .data (alertSeverityBadge u en severity) .data := by
  have hopen : Mode.data.after "<span class=\"sev-badge\" style=\"background:".toList =
      .quoted '"' "span".toList := after_lit (by rfl)
  have hstyle : (Mode.quoted '"' "span".toList).after
      ";color:#fff;padding:2px 10px;border-radius:4px;font-size:12px;font-weight:600;\">".toList = .data :=
    after_lit (by rfl)
  exact ((((leads_fixed hopen).fixed (after_quoted (severityColor_plain _))).fixed hstyle).escape _).fixed
    (after_lit (by rfl))

theorem leads_block {opening label middle closing : String} (hopening : Mode.data.after opening.toList = .data)
    (hlabel : '<' ∉ label.toList) (hmiddle : Mode.data.after middle.toList = .data)
    (hclosing : Mode.data.after closing.toList = .data) (value : Option Text) :
    Leads True .data (block opening label middle closing value) .data := by
  rw [block]
  split
  · exact leads_nil _
  · exact leads_fixed hopening |>.fixed (after_data hlabel) |>.fixed hmiddle |>.escape _ |>.fixed hclosing

theorem leads_aiDiagnosisHtml (rootCause actions : Option Text) :
    Leads True .data (aiDiagnosisHtml en rootCause actions) .data := by
  rw [aiDiagnosisHtml]
  split
  · have hheader : Leads True .data
        (sectionHeader "section ai-section" "🧠" (publicAlertLabels en).aiDiagnosis) .data :=
      leads_sectionHeader (by decide) (by decide) (by cases en <;> decide)
    have hroot : '<' ∉ (publicAlertLabels en).rootCause.toList := by cases en <;> decide
    have hactions : '<' ∉ (publicAlertLabels en).actions.toList := by cases en <;> decide
    exact hheader |>.fixed (after_lit (by rfl))
      |>.append_true (leads_block (after_lit (by rfl)) hroot (after_lit (by rfl)) (after_lit (by rfl)) rootCause)
      |>.append_true (leads_block (after_lit (by rfl)) hactions (after_lit (by rfl)) (after_lit (by rfl)) actions)
      |>.fixed (after_lit (by rfl))
  · exact leads_nil _

/-- The condition on the report that an alert links to. -/
def LinkedReport.Plain (report : LinkedReport) : Prop := hasMarkup (report.status.getD []) = false

theorem leads_linkedReportHtml (report : Option LinkedReport) :
    Leads (∀ r ∈ report, r.Plain) .data (linkedReportHtml en report) .data := by
  cases report with
  | none =>
    refine (leads_nil .data).congr (iff_of_true trivial fun r hr => ?_)
    cases hr
  | some report =>
    have hheader : Leads True .data
        (sectionHeader "section report-section" "📋" (publicAlertLabels en).linkedReport) .data :=
      leads_sectionHeader (by decide) (by decide) (by cases en <;> decide)
    have hlabels : plainTable (reportStatusLabels en) = true := by cases en <;> decide
    have hview : '<' ∉ (publicAlertLabels en).viewReport.toList := by cases en <;> decide
    have hpage : Leads (True ∧ report.Plain) .data (linkedReportHtml en (some report)) .data :=
      leads_labelled (n := .quoted '"' "a".toList)
        (hheader |>.fixed (after_lit (by rfl)) |>.fixed (after_data report.createdAt.plain.1)
          |>.fixed (after_lit (by rfl)) |>.escape _ |>.fixed (after_lit (by rfl)))
        hlabels _ (goesOn_lit (by rfl)) (after_lit (by rfl))
      |>.fixed (after_quoted report.id.plain.2) |>.fixed (after_quoted (by decide))
      |>.fixed (after_quoted report.token.plain.2) |>.fixed (after_lit (by rfl)) |>.fixed (after_data hview)
      |>.fixed (after_lit (by rfl))
    refine hpage.congr ⟨fun hplain r hr => ?_, fun hplain => ⟨trivial, hplain report rfl⟩⟩
    cases hr
    exact hplain.2

/-- The condition on the datasource of an alert. -/
def Datasource.StatusPlain (datasource : Datasource) : Prop :=
  ∀ status ∈ datasource.connectionStatus, hasMarkup status = false

theorem connectionStatusColor_plain (s : Text) : '"' ∉ (connectionStatusColor s).toList := by
  rw [connectionStatusColor]
  split_ifs <;> decide

theorem leads_connectionStatusLabel (h : Leads True .data xs .data) (status : Option Text) :
    Leads (∀ s ∈ status, hasMarkup s = false) .data (xs ++ connectionStatusLabel en status ++ lit "</span>") .data := by
  rw [List.append_assoc]
  refine h.true_append ?_
  cases status with
  | none =>
    have hnone : Leads True .data (connectionStatusLabel en none ++ lit "</span>") .data :=
      leads_fixed (by decide : Mode.data.after "None".toList = .data) |>.fixed (after_lit (by rfl))
    refine hnone.congr (iff_of_true trivial fun s hs => ?_)
    cases hs
  | some status =>
    have hlabels : plainTable (connectionStatusLabels en) = true := by cases en <;> decide
    refine (leads_label hlabels rfl (goesOn_lit (by rfl)) (after_lit (by rfl))).congr
      ⟨fun h s hs => ?_, fun h => h status rfl⟩
    cases hs
    exact h

theorem leads_connectionStatusHtml (status : Option Text) :
    Leads (∀ s ∈ status, hasMarkup s = false) .data (connectionStatusHtml en status) .data :=
  leads_connectionStatusLabel en (leads_fixed (n := .quoted '"' "span".toList) (after_lit (by rfl))
    |>.fixed (after_quoted (connectionStatusColor_plain _)) |>.fixed (after_lit (by rfl))) status

theorem leads_portText (datasource : Option Datasource) : Leads True .data (portText datasource) .data := by
  cases datasource with
  | none => exact leads_fixed (after_lit (by rfl))
  | some d => exact leads_fixed (after_data d.port.plain.1)

theorem leads_connectionHtml (datasource : Option Datasource) :
    Leads True .data (connectionHtml datasource) .data :=
  leads_escape _ |>.fixed (after_lit (by rfl)) |>.append_true (leads_portText datasource)
    |>.fixed (after_lit (by rfl)) |>.escape _

/-- A field with an escaped value. -/
theorem leads_field_esc {label : String} (hlabel : '<' ∉ label.toList) (s : Text) :
    Leads True .data (field label (esc s)) .data :=
  leads_field hlabel ((leads_escape s).fixed (after_lit (by rfl)))

theorem leads_datasourceSection (datasource : Option Datasource) :
    Leads (∀ d ∈ datasource, d.StatusPlain) .data (datasourceSection u en datasource) .data := by
  have hheader : Leads True .data (sectionHeader "section" "📊" (publicAlertLabels en).datasource) .data :=
    leads_sectionHeader (by decide) (by decide) (by cases en <;> decide)
  have hname : '<' ∉ (publicAlertLabels en).name.toList := by cases en <;> decide
  have htype : '<' ∉ (publicAlertLabels en).type.toList := by cases en <;> decide
  have hconnection : '<' ∉ (publicAlertLabels en).connection.toList := by cases en <;> decide
  have hstatus : '<' ∉ (publicAlertLabels en).connectionStatus.toList := by cases en <;> decide
  have hremark : '<' ∉ (publicAlertLabels en).remark.toList := by cases en <;> decide
  have hplain : (∀ s ∈ datasource.elim (some "unknown".toList) Datasource.connectionStatus, hasMarkup s = false) ↔
      ∀ d ∈ datasource, d.StatusPlain := by
    cases datasource with
    | none =>
      refine iff_of_true (fun s hs => ?_) fun d hd => ?_
      · cases hs
        decide
      · cases hd
    | some d =>
      refine ⟨fun h e he => ?_, fun h => h d rfl⟩
      cases he
      exact h
  rw [← hplain]
  exact hheader |>.fixed (after_lit (by rfl)) |>.append_true (leads_field_esc hname _)
    |>.append_true (leads_field_esc htype _)
    |>.append_true (leads_field hconnection ((leads_connectionHtml datasource).fixed (after_lit (by rfl))))
    |>.true_append (leads_field hstatus ((leads_connectionStatusHtml en _).fixed (after_lit (by rfl))))
    |>.fixed (after_lit (by rfl))
    |>.append_true (leads_block (after_lit (by rfl)) hremark (after_lit (by rfl)) (after_lit (by rfl)) _)
    |>.fixed (after_lit (by rfl))

theorem leads_renderedText (value : Option Rendered) : Leads True .data (renderedText value) .data := by
  cases value with
  | none => exact leads_fixed (after_lit (by rfl))
  | some value => exact leads_fixed (after_data value.plain.1)

/-- A field with a number or a date. -/
theorem leads_field_rendered {label : String} (hlabel : '<' ∉ label.toList) (value : Option Rendered) :
    Leads True .data (field label (renderedText value)) .data :=
  leads_field hlabel ((leads_renderedText value).fixed (after_lit (by rfl)))

theorem leads_detailsSection (alert : AlertMessage) :
    Leads (hasMarkup alert.alertType = false) .data (detailsSection en alert) .data := by
  have hheader : Leads True .data (sectionHeader "section" "⚠️" (publicAlertLabels en).alertDetails) .data :=
    leads_sectionHeader (by decide) (by decide) (by cases en <;> decide)
  have hlabels : plainTable (alertTypeLabels en) = true := by cases en <;> decide
  have htype : '<' ∉ (publicAlertLabels en).type.toList := by cases en <;> decide
  have hmetric : '<' ∉ (publicAlertLabels en).metric.toList := by cases en <;> decide
  have hcurrent : '<' ∉ (publicAlertLabels en).current.toList := by cases en <;> decide
  have hthreshold : '<' ∉ (publicAlertLabels en).threshold.toList := by cases en <;> decide
  have hacknowledged : '<' ∉ (publicAlertLabels en).acknowledgedAt.toList := by cases en <;> decide
  have hrecovered : '<' ∉ (publicAlertLabels en).recoveredAt.toList := by cases en <;> decide
  have htypeField := leads_field htype
    (leads_label hlabels (hasMarkup_orElse alert.alertType) (goesOn_lit (by rfl)) (after_lit (by rfl)))
  exact hheader |>.fixed (after_lit (by rfl)) |>.true_append htypeField
    |>.append_true (leads_field_esc hmetric _) |>.append_true (leads_field_rendered hcurrent _)
    |>.append_true (leads_field_rendered hthreshold _) |>.append_true (leads_field_rendered hacknowledged _)
    |>.append_true (leads_field_rendered hrecovered _) |>.fixed (after_lit (by rfl))

theorem alertStatusColor_plain (s : Text) : '"' ∉ (alertStatusColor s).toList := by
  rw [alertStatusColor]
  split_ifs <;> decide

theorem leads_alertHeader (alert : AlertMessage) :
    Leads (hasMarkup alert.status = false) .data (alertHeader u en alert) .data := by
  have hlabels : plainTable (alertStatusLabels en) = true := by cases en <;> decide
  have hlocale : '"' ∉ (if en then "en-US" else "zh-CN").toList := not_mem_choice en (by decide)
  have hdetails : '<' ∉ (if en then "Alert details" else "告警详情").toList := not_mem_choice en (by decide)
  have htriggered : '<' ∉ (publicAlertLabels en).triggeredAt.toList := by cases en <;> decide
  have hreason : '<' ∉ (publicAlertLabels en).triggerReason.toList := by cases en <;> decide
  have hheader : Leads (True ∧ hasMarkup alert.status = false) .data (alertHeader u en alert) .data :=
    leads_labelled
      (leads_fixed (n := .quoted '"' "html".toList) (after_lit (by rfl)) |>.fixed (after_quoted hlocale)
        |>.fixed (n := .text "title".toList) (after_lit (by rfl)) |>.escape_text _
        |>.fixed (after_text (by decide)) |>.fixed (after_text hdetails) |>.fixed (after_lit (by rfl))
        |>.escape _ |>.fixed (after_lit (by rfl)) |>.append_true (leads_alertSeverityBadge u en _)
        |>.fixed (n := .quoted '"' "span".toList) (after_lit (by rfl))
        |>.fixed (after_quoted (alertStatusColor_plain _)) |>.fixed (after_lit (by rfl)))
      hlabels _ (goesOn_lit (by rfl)) (after_lit (by rfl))
    |>.fixed (after_data htriggered) |>.fixed (after_data (by decide))
    |>.fixed (after_data alert.createdAt.plain.1) |>.fixed (after_lit (by rfl))
    |>.append_true (leads_block (after_lit (by rfl)) hreason (after_lit (by rfl)) (after_lit (by rfl)) _)
  exact hheader.congr (Iff.of_eq (true_and _))

/-- **The content of an alert** or a report has no raw HTML. -/
theorem leads_contentHtml (content : Text) : Leads (md.NoRaw content) .data (contentHtml md content) .data := by
  rw [contentHtml]
  cases hrender : md.render content with
  | some pieces =>
    refine (leads_html (md.raw_markup content pieces hrender)).congr ⟨fun h qs hqs => ?_, fun h => h pieces hrender⟩
    rw [hrender] at hqs
    cases hqs
    exact h
  | none =>
    refine (leads_fixed (after_lit (by rfl) : Mode.data.after "<pre>".toList = .data) |>.escape content
      |>.fixed (after_lit (by rfl))).congr (iff_of_true trivial fun pieces hpieces => ?_)
    rw [hrender] at hpieces
    cases hpieces

/-- **The condition on the texts of an alert page** that are not escaped: the statuses and the type have no
markup, and the content has no raw HTML. -/
structure AlertPlain (alert : AlertMessage) (datasource : Option Datasource) (report : Option LinkedReport) :
    Prop where
  status : hasMarkup alert.status = false
  connectionStatus : ∀ d ∈ datasource, d.StatusPlain
  alertType : hasMarkup alert.alertType = false
  report : ∀ r ∈ report, r.Plain
  content : md.NoRaw alert.content

theorem leads_publicAlertPage (alert : AlertMessage) (event : Option AlertEvent) (datasource : Option Datasource)
    (report : Option LinkedReport) :
    Leads (AlertPlain md alert datasource report) .data
      (publicAlertPage u md en alert event datasource report) .data := by
  have hdetails : Leads True .data (sectionHeader "section" "📝" (publicAlertLabels en).details) .data :=
    leads_sectionHeader (by decide) (by decide) (by cases en <;> decide)
  have hpage : Leads _ .data (publicAlertPage u md en alert event datasource report) .data :=
    leads_alertHeader u en alert |>.append (leads_datasourceSection u en datasource)
      |>.append (leads_detailsSection en alert) |>.append_true (leads_aiDiagnosisHtml en _ _)
      |>.append (leads_linkedReportHtml en report) |>.append_true hdetails
      |>.fixed (after_lit (by rfl)) |>.append (leads_contentHtml md alert.content)
      |>.fixed (after_lit (by rfl))
  refine hpage.congr ⟨?_, fun h => ⟨⟨⟨⟨h.status, h.connectionStatus⟩, h.alertType⟩, h.report⟩, h.content⟩⟩
  rintro ⟨⟨⟨⟨hstatus, hconnection⟩, htype⟩, hreport⟩, hcontent⟩
  exact ⟨hstatus, hconnection, htype, hreport, hcontent⟩

/-! ## Reading the report page -/

theorem leads_reportSeverityBadge (event : Option AlertEvent) :
    Leads True .data (reportSeverityBadge u en event) .data := by
  cases event with
  | none => exact leads_nil _
  | some event =>
    exact leads_fixed (n := .quoted '"' "span".toList) (after_lit (by rfl))
      |>.fixed (after_quoted (severityColor_plain _)) |>.fixed (after_lit (by rfl)) |>.escape _
      |>.fixed (after_lit (by rfl))

theorem leads_dsField {label : String} {value : List Marked} (hlabel : '<' ∉ label.toList)
    (hvalue : Leads True .data value .data) : Leads True .data (dsField label value) .data :=
  leads_fixed (after_lit (by rfl)) |>.fixed (after_data hlabel) |>.fixed (after_lit (by rfl))
    |>.append_true hvalue |>.fixed (after_lit (by rfl))

/-- Upper case makes no `<`. -/
theorem not_mem_upper {s : Text} (h : '<' ∉ s) : '<' ∉ Text.upper u s := by
  intro hmem
  obtain ⟨c, hc, hupper⟩ := List.mem_flatMap.mp hmem
  rw [Unicode.upperChar] at hupper
  split at hupper
  · rw [List.mem_singleton] at hupper
    rcases Unicode.toUpper_eq_or_isUpper c with hsame | hletter
    · rw [hsame] at hupper
      exact h (hupper ▸ hc)
    · rw [← hupper] at hletter
      cases hletter
  · rename_i hascii
    have hletter := u.upper_ascii c (not_lt.mp hascii) '<' hupper (by decide)
    cases hletter

theorem leads_datasourceCard (datasource : Option Datasource) :
    Leads True .data (datasourceCard u en datasource) .data := by
  have htype : '<' ∉ Text.upper u (escape (datasourceText datasource Datasource.dbType)) :=
    not_mem_upper u (not_mem_escapeOnly (.inl rfl) (by decide) _)
  have hhost : Leads True .data (esc (datasourceText datasource Datasource.host) ++ lit ":" ++ portText datasource)
      .data := leads_escape _ |>.fixed (after_lit (by rfl)) |>.append_true (leads_portText datasource)
  exact leads_fixed (after_lit (by rfl))
    |>.fixed (after_data (not_mem_choice en (by decide))) |>.fixed (after_lit (by rfl))
    |>.append_true (leads_dsField (not_mem_choice en (by decide)) (leads_escape _))
    |>.append_true (leads_dsField (not_mem_choice en (by decide)) (leads_stored_data htype))
    |>.append_true (leads_dsField (not_mem_choice en (by decide)) hhost)
    |>.append_true (leads_dsField (not_mem_choice en (by decide)) (leads_escape _))
    |>.append_true (leads_dsField (not_mem_choice en (by decide)) (leads_escape _))
    |>.fixed (after_lit (by rfl))
    |>.append_true (leads_block (after_lit (by rfl)) (not_mem_choice en (by decide))
      (after_lit (by rfl)) (after_lit (by rfl)) _)
    |>.fixed (after_lit (by rfl))

theorem leads_aiCard (report : Report) (event : Option AlertEvent) :
    Leads True .data (aiCard en report event) .data := by
  rw [aiCard]
  dsimp only
  split
  · exact leads_fixed (after_lit (by rfl))
      |>.fixed (after_data (not_mem_choice en (by decide))) |>.fixed (after_lit (by rfl))
      |>.append_true (leads_block (after_lit (by rfl)) (not_mem_choice en (by decide))
        (after_lit (by rfl)) (after_lit (by rfl)) _)
      |>.append_true (leads_block (after_lit (by rfl)) (not_mem_choice en (by decide))
        (after_lit (by rfl)) (after_lit (by rfl)) _)
      |>.append_true (leads_block (after_lit (by rfl)) (not_mem_choice en (by decide))
        (after_lit (by rfl)) (after_lit (by rfl)) _)
      |>.fixed (after_lit (by rfl))
  · exact leads_nil _

theorem leads_reportHeader (report : Report) (event : Option AlertEvent) :
    Leads ('"' ∉ report.generationLocale) .data (reportHeader u en report event) .data := by
  have hlocale : '"' ∉ orElse report.generationLocale "zh-CN".toList ↔ '"' ∉ report.generationLocale := by
    rw [orElse]
    split
    · rename_i hempty
      rw [hempty]
      decide
    · exact Iff.rfl
  have hcolon : '<' ∉ ": ".toList := by decide
  rw [← hlocale]
  exact leads_fixed (n := .quoted '"' "html".toList) (after_lit (by rfl))
    |>.true_append (leads_quoted '"' _ _) |>.fixed (n := .text "title".toList) (after_lit (by rfl))
    |>.escape_text _ |>.fixed (after_lit (by rfl)) |>.escape _ |>.fixed (after_lit (by rfl))
    |>.fixed (after_data (not_mem_choice en (by decide))) |>.fixed (after_data hcolon) |>.escape _
    |>.fixed (after_lit (by rfl)) |>.fixed (after_data (not_mem_choice en (by decide)))
    |>.fixed (after_data hcolon) |>.escape _ |>.fixed (after_lit (by rfl))
    |>.fixed (after_data (not_mem_choice en (by decide))) |>.fixed (after_data hcolon)
    |>.fixed (after_data report.createdAt.plain.1) |>.fixed (after_lit (by rfl))
    |>.append_true (leads_reportSeverityBadge u en event) |>.fixed (after_lit (by rfl))
    |>.append_true (leads_block (after_lit (by rfl)) (not_mem_choice en (by decide))
      (after_lit (by rfl)) (after_lit (by rfl)) _)

/-- **The condition on what the HTML of a report was generated from**: the title stays in its element, the
datasource's name and type have no markup, and the content has no raw HTML. -/
structure Generated.Plain (g : Generated) : Prop where
  title : Stays "title".toList (reportTitle u g)
  datasourceName : hasMarkup g.datasourceName = false
  dbType : hasMarkup (Text.upper u g.dbType) = false
  content : md.NoRaw g.contentMd

theorem stored_of_mem_reportTitle {g : Generated} {x : Marked} (hx : x ∈ reportTitle u g) (hlt : x.char = '<') :
    x.stored = true := by
  have hlit : ∀ {s : Text}, '<' ∉ s → x ∉ fixed s := by
    intro s hs hmem
    obtain ⟨c, hc, rfl⟩ := List.mem_map.mp hmem
    exact hs (hlt ▸ hc)
  have hstored : ∀ {s : Text}, x ∈ stored s → x.stored = true := by
    intro s hmem
    obtain ⟨c, -, rfl⟩ := List.mem_map.mp hmem
    rfl
  rcases List.mem_append.mp hx with hx | hx
  · rcases List.mem_append.mp hx with hx | hx
    · rw [reportTriggerLabel, labelled] at hx
      split at hx
      · rename_i key label hfind
        have hlabels : plainTable (reportTriggerLabels g.en) = true := by cases g.en <;> decide
        have hplain := List.all_eq_true.mp hlabels (key, label) (List.mem_of_find?_eq_some hfind)
        simp only [Bool.and_eq_true, Bool.not_eq_true', List.contains_eq_mem, decide_eq_false_iff_not] at hplain
        exact absurd hx (hlit hplain.2)
      · exact hstored hx
    · exact absurd hx (hlit (not_mem_choice g.en (by decide)))
  · exact hstored hx

theorem leads_reportHtml (g : Generated) : Leads (g.Plain u md) .data (reportHtml u md g) .data := by
  have htitle : Leads (Stays "title".toList (reportTitle u g)) .data
      (lit "<!DOCTYPE html><html lang=\"" ++ lit (if g.en then "en-US" else "zh-CN") ++
        lit "\"><head><meta charset=\"UTF-8\"><title>" ++ reportTitle u g ++
        lit "</title><style></style></head><body><div class=\"container\">") .data := by
    rw [List.append_assoc]
    have hhead : Leads True .data (lit "<!DOCTYPE html><html lang=\"" ++ lit (if g.en then "en-US" else "zh-CN") ++
        lit "\"><head><meta charset=\"UTF-8\"><title>") (.text "title".toList) :=
      leads_fixed (n := .quoted '"' "html".toList) (after_lit (by rfl))
        |>.fixed (after_quoted (not_mem_choice g.en (by decide))) |>.fixed (after_lit (by rfl))
    refine hhead.true_append (leads_element (fun x hx => stored_of_mem_reportTitle u hx) ?_
      (after_lit (by rfl)))
    rw [String.toList_ofList]
    rfl
  have hopen : goesOn (if g.en then " (" else "（").toList = true := by cases g.en <;> decide
  have hclose : goesOn (if g.en then ") | Generated: " else "）| 生成时间：").toList = true := by
    cases g.en <;> decide
  have hpage : Leads _ .data (reportHtml u md g) .data :=
    htitle |>.append (leads_contentHtml md g.contentMd) |>.fixed (after_lit (by rfl))
      |>.fixed (after_data (not_mem_choice g.en (by decide))) |>.fixed (after_lit (by rfl))
      |>.fixed (after_data (not_mem_choice g.en (by decide)))
      |>.hole _ hopen (after_data (not_mem_choice g.en (by decide)))
      |>.hole _ hclose (after_data (not_mem_choice g.en (by decide)))
      |>.fixed (after_data g.generatedAt.plain.1) |>.fixed (after_lit (by rfl))
  refine hpage.congr ⟨?_, fun h => ⟨⟨⟨h.title, h.content⟩, h.datasourceName⟩, h.dbType⟩⟩
  rintro ⟨⟨⟨htitle, hcontent⟩, hname⟩, htype⟩
  exact ⟨htitle, hname, htype, hcontent⟩

/-- **The condition on the texts of a report page** that are not escaped: the locale does not end the attribute,
and the HTML of the report is free of injections, or else its Markdown has no markup. -/
structure ReportPlain (report : Report) : Prop where
  locale : '"' ∉ report.generationLocale
  contentHtml : ∀ g ∈ report.contentHtml, g.Plain u md
  contentMd : report.contentHtml = none → hasMarkup (report.contentMd.getD []) = false

theorem leads_reportBody (report : Report) :
    Leads ((∀ g ∈ report.contentHtml, g.Plain u md) ∧
      (report.contentHtml = none → hasMarkup (report.contentMd.getD []) = false)) .data
      (reportBody u md en report) .data := by
  rw [reportBody]
  cases hhtml : report.contentHtml with
  | some g =>
    refine (leads_reportHtml u md g).congr ⟨fun h => ⟨fun g' hg' => ?_, fun hnone => ?_⟩, fun h => h.1 g rfl⟩
    · cases hg'
      exact h
    · cases hnone
  | none =>
    have hiff : hasMarkup (report.contentMd.getD []) = false ↔
        (∀ g ∈ (none : Option Generated), g.Plain u md) ∧
          ((none : Option Generated) = none → hasMarkup (report.contentMd.getD []) = false) := by
      refine ⟨fun h => ⟨fun g hg => ?_, fun _ => h⟩, fun h => h.2 rfl⟩
      cases hg
    rw [← hiff]
    cases hpresent : present report.contentMd with
    | some content =>
      obtain ⟨hcontent, -⟩ := Option.filter_eq_some_iff.mp hpresent
      rw [hcontent]
      exact (leads_fixed (after_lit (by rfl)) |>.hole content (goesOn_lit (by rfl))
        (after_lit (by rfl))).congr (Iff.of_eq (true_and _))
    | none =>
      have hempty : report.contentMd.getD [] = [] := by
        cases hcontent : report.contentMd with
        | none => rfl
        | some content =>
          rw [hcontent] at hpresent
          simpa [present, Option.filter_eq_none_iff] using hpresent
      rw [hempty]
      exact (leads_fixed (after_lit (by rfl)) |>.fixed (after_data (not_mem_choice en (by decide)))
        |>.fixed (after_lit (by rfl))).congr (iff_of_true trivial rfl)

theorem leads_publicReportPage (report : Report) (event : Option AlertEvent) (datasource : Option Datasource) :
    Leads (ReportPlain u md report) .data (publicReportPage u md report event datasource) .data := by
  have hpage : Leads _ .data (publicReportPage u md report event datasource) .data :=
    leads_reportHeader u _ report event |>.append_true (leads_datasourceCard u _ datasource)
      |>.append_true (leads_aiCard _ report event) |>.append (leads_reportBody u md _ report)
      |>.fixed (after_lit (by rfl))
  refine hpage.congr ⟨?_, fun h => ⟨h.locale, h.contentHtml, h.contentMd⟩⟩
  rintro ⟨hlocale, hhtml, hmd⟩
  exact ⟨hlocale, hhtml, hmd⟩

/-- **The public pages are free of injections if and only if the texts that are not escaped are plain**: the page
of an alert, and the page of a report. -/
theorem publicPages_injectionFree_iff (alert : AlertMessage) (linked : Option LinkedReport) (report : Report)
    (event : Option AlertEvent) (datasource : Option Datasource) :
    (InjectionFree (publicAlertPage u md en alert event datasource linked) ↔
        AlertPlain md alert datasource linked) ∧
      (InjectionFree (publicReportPage u md report event datasource) ↔ ReportPlain u md report) :=
  ⟨(leads_publicAlertPage u md en alert event datasource linked).injectionFree_iff,
    (leads_publicReportPage u md report event datasource).injectionFree_iff⟩

end

/-! ## A script in a name -/

/-- A renderer of texts without Markdown. -/
def plainText : Renderer where
  render s := some [.text s]
  raw_markup s pieces hpieces r hr := by
    cases hpieces
    cases hr with
    | tail _ hr => cases hr

/-- A report that was generated for a datasource with a script in its name. -/
def scriptReport : Report where
  title := "Inspection".toList
  status := "completed".toList
  generationLocale := "en-US".toList
  createdAt := ⟨"2024-01-01".toList, by decide⟩
  contentHtml := some {
    en := true
    triggerType := "manual".toList
    datasourceName := "<script>alert(1)</script>".toList
    dbType := "mysql".toList
    generatedAt := ⟨"2024-01-01".toList, by decide⟩
    contentMd := "ok".toList }

/-- An alert with plain texts. -/
def plainAlert : AlertMessage where
  title := "CPU".toList
  content := "high".toList
  severity := "high".toList
  status := "active".toList
  alertType := "threshold_violation".toList
  createdAt := ⟨"2024-01-01".toList, by decide⟩

/-- **The name of a datasource is copied into the page of its report**, where it runs as a script. -/
theorem datasourceName_copied :
    ¬ ∀ (u : Unicode) (md : Renderer) (en : Bool) (alert : AlertMessage) (linked : Option LinkedReport)
      (report : Report) (event : Option AlertEvent) (datasource : Option Datasource),
      InjectionFree (publicAlertPage u md en alert event datasource linked) ∧
        InjectionFree (publicReportPage u md report event datasource) := by
  intro hclaim
  have hfree := (hclaim .asciiOnly plainText true plainAlert none scriptReport none none).2
  have hplain := (leads_publicReportPage _ _ scriptReport none none).injectionFree_iff.mp hfree
  have hname := (hplain.contentHtml _ rfl).datasourceName
  exact absurd hname (by decide)

end DBClaw.PublicPages
