import DBClaw.Library.Json
import DBClaw.Library.Upsert

/-! # Render segments
A reply of the assistant is shown as a list of segments, markdown and tools, which
`apply_render_segments_event` builds from the stream of events: text goes to the last segment or into a new
one, and what concerns a tool call goes to the segment of its id. -/

namespace DBClaw.Chat

open Upserts

/-! ## Locales -/

/-- The codes of `LOCALE_REGISTRY`. -/
inductive Locale
  | zhCN | enUS
  deriving DecidableEq, Repr

/-- `_ALIASES`. -/
def localeAliases : List (Text × Locale) := [
  ("zh".toList, .zhCN), ("zh-cn".toList, .zhCN), ("zh-hans".toList, .zhCN), ("zh-hans-cn".toList, .zhCN),
  ("en".toList, .enUS), ("en-us".toList, .enUS)]

/-- The code of a locale as it is written. -/
def Locale.text : Locale → Text
  | .zhCN => "zh-CN".toList
  | .enUS => "en-US".toList

/-- What the segments take from Python: characters beyond ASCII, `str` of a value, `json.loads`, and
`json.dumps` with `ensure_ascii=False`. -/
structure Python where
  unicode : Unicode
  str : Json → Text
  loads : Text → Option Json
  dumps : Json → Text

variable (python : Python)

/-- **`normalize_locale`**. -/
def normalizeLocale (value : Option Text) : Option Locale :=
  let normalized := Text.lower python.unicode
    ((Text.strip (value.getD [])).map fun c => if c = '_' then '-' else c)
  localeAliases.lookup normalized

/-! ## Segments -/

/-- `status` of a tool segment. -/
inductive Status
  | running | waitingApproval | completed | failed
  deriving DecidableEq, Repr

/-- `metadata` of a tool segment. -/
structure Metadata where
  skillExecutionId : Option Json := none
  actionRunId : Option Json := none
  actionTitle : Option Json := none
  phase : Option Json := none
  approvalId : Option Json := none
  approvalStatus : Option Text := none
  riskLevel : Option Json := none
  riskReason : Option Json := none

/-- `{**old, **new}`. -/
def Metadata.merge (old new : Metadata) : Metadata where
  skillExecutionId := new.skillExecutionId <|> old.skillExecutionId
  actionRunId := new.actionRunId <|> old.actionRunId
  actionTitle := new.actionTitle <|> old.actionTitle
  phase := new.phase <|> old.phase
  approvalId := new.approvalId <|> old.approvalId
  approvalStatus := new.approvalStatus <|> old.approvalStatus
  riskLevel := new.riskLevel <|> old.riskLevel
  riskReason := new.riskReason <|> old.riskReason

/-- A segment of a tool call. -/
structure ToolSegment where
  toolCallId : Option Text
  toolName : Text
  status : Status
  args : Option Json := none
  result : Option Json := none
  executionTimeMs : Option Json := none
  summary : Option Text := none
  metadata : Metadata := {}
  visualization : Option Json := none

/-- A segment. -/
inductive Segment
  | markdown (content : Text)
  | tool (segment : ToolSegment)

/-- The id by which the segment of a call is found; an empty one counts as none. -/
def callId (toolCallId : Option Text) : Option Text := toolCallId.filter (· ≠ [])

/-- The id of the call that a segment is for. -/
def Segment.callId : Segment → Option Text
  | .markdown _ => none
  | .tool segment => Chat.callId segment.toolCallId

/-- **`append_markdown_render_segment`**. -/
def appendMarkdownRenderSegment (segments : List Segment) (content : Option Text) : List Segment :=
  let text := content.getD []
  if text = [] then segments
  else
    match segments.getLast? with
    | some (.markdown last) => segments.dropLast ++ [.markdown (last ++ text)]
    | _ => segments ++ [.markdown text]

/-- The arguments of `upsert_tool_render_segment`; of the values that may be left unset, `some none` is
`None`. -/
structure Patch where
  toolCallId : Option Text
  toolName : Option Text
  status : Option Status
  args : Option (Option Json) := none
  result : Option (Option Json) := none
  executionTimeMs : Option (Option Json) := none
  summary : Option (Option Text) := none
  metadata : Metadata := {}
  visualization : Option (Option Json) := none

/-- The patch is written onto a segment. -/
def Patch.write (patch : Patch) (segment : ToolSegment) : ToolSegment where
  toolCallId := segment.toolCallId
  toolName := (patch.toolName.filter (· ≠ [])).getD segment.toolName
  status := patch.status.getD segment.status
  args := patch.args.getD segment.args
  result := patch.result.getD segment.result
  executionTimeMs := patch.executionTimeMs.getD segment.executionTimeMs
  summary := (patch.summary.map (Option.filter (· ≠ []))).getD segment.summary
  metadata := segment.metadata.merge patch.metadata
  visualization := patch.visualization.getD segment.visualization

/-- The segment of a call that has none. -/
def Patch.fresh (patch : Patch) : ToolSegment where
  toolCallId := patch.toolCallId
  toolName := (patch.toolName.filter (· ≠ [])).getD "工具".toList
  status := patch.status.getD .running

/-- The patch is written onto a segment of a tool. -/
def Patch.writeSegment (patch : Patch) : Segment → Segment
  | .markdown content => .markdown content
  | .tool segment => .tool (patch.write segment)

/-- **`upsert_tool_render_segment`**. -/
def upsertToolRenderSegment (segments : List Segment) (patch : Patch) : List Segment :=
  match callId patch.toolCallId with
  | some id => upsert Segment.callId id patch.writeSegment (.tool patch.fresh) segments
  | none => segments ++ [.tool (patch.write patch.fresh)]

/-! ## Results -/

/-- `str(value)`. -/
def Python.string : Json → Text
  | .str s => s
  | value => python.str value

/-- `f"{key}={rendered}"`. -/
def renderItem (key : String) (item : Json) : Text :=
  let rendered :=
    match item with
    | .str s => s
    | .int _ | .float _ | .bool _ => python.str item
    | _ => (python.dumps item).take 60
  key.toList ++ '=' :: rendered

/-- **`_summarize_value`**. -/
def summarizeValue (locale : Locale) : Json → Text
  | .null => []
  | .str s => (Text.strip s).take 240
  | .arr xs =>
    match locale with
    | .enUS => s!"Returned {xs.length} records".toList
    | .zhCN => s!"返回 {xs.length} 条记录".toList
  | .obj fields =>
    if (Dict.get fields "error").truthy then (python.string (Dict.get fields "error")).take 240
    else if (Dict.get fields "message").truthy then (python.string (Dict.get fields "message")).take 240
    else
      let parts := (fields.take 3).map fun (key, item) => renderItem python key item
      let separator : Text := match locale with
        | .enUS => ", ".toList
        | .zhCN => "，".toList
      (separator.intercalate parts).take 240
  | value => (python.str value).take 240

/-- The value says that the call failed. -/
def saysError : Json → Bool
  | .obj fields =>
    (match Dict.get fields "success" with
      | .bool false => true
      | _ => false) || (Dict.get fields "error").truthy
  | _ => false

/-- **`_parse_tool_result_summary`**. -/
def parseToolResultSummary (locale : Locale) (result : Option Json) : Status × Text :=
  let parsed : Json :=
    match result with
    | some (.str s) => (python.loads s).getD (.str s)
    | some value => value
    | none => .null
  let summary := summarizeValue python locale parsed
  let fallback : Text :=
    match saysError parsed, locale with
    | true, .enUS => "Execution failed".toList
    | false, .enUS => "Execution completed".toList
    | true, .zhCN => "执行失败".toList
    | false, .zhCN => "执行完成".toList
  (if saysError parsed then .failed else .completed, if summary = [] then fallback else summary)

/-! ## Events -/

/-- What an event says of the action that it belongs to. -/
structure ActionFields where
  actionRunId : Option Json := none
  actionTitle : Option Json := none
  phase : Option Json := none

/-- What an event says, by its `type`. -/
inductive Body
  | content (content : Option Text)
  | toolCall (toolCallId toolName : Option Text) (toolArgs : Option Json) (action : ActionFields)
  | toolResult (toolCallId toolName : Option Text) (result executionTimeMs skillExecutionId : Option Json)
      (action : ActionFields) (visualization : Option Json)
  | approvalRequest (toolCallId toolName : Option Text) (toolArgs : Option Json) (summary : Option Text)
      (action : ActionFields) (approvalId riskLevel riskReason : Option Json)
  | confirmationResolved (toolCallId toolName : Option Text) (resolution : Option Text)
      (approvalId : Option Json) (action : ActionFields)
  | other (type : String)

/-- An event of the stream. -/
structure Event where
  body : Body
  locale : Option Text := none

/-- The metadata of an action. -/
def ActionFields.metadata (action : ActionFields) : Metadata where
  actionRunId := action.actionRunId
  actionTitle := action.actionTitle
  phase := action.phase

/-- What `confirmation_resolved` makes of its action: the status, the status of the approval, and the
summary. -/
def resolutionOf (locale : Locale) (resolution : Option Text) : Option Status × Option Text × Option Text :=
  let action := Text.lower python.unicode (Text.strip (resolution.getD []))
  if action = "approved".toList then
    (some .running, some action,
      some (match locale with
        | .enUS => "Approved; running...".toList
        | .zhCN => "已批准，正在执行...".toList))
  else if action = "rejected".toList then
    (some .failed, some action,
      some (match locale with
        | .enUS => "Execution rejected by the user".toList
        | .zhCN => "用户已拒绝执行".toList))
  else (none, if action = [] then none else some action, none)

/-- What an event writes onto the segment of its call. -/
def Body.patch (locale : Locale) : Body → Option Patch
  | .content _ | .other _ => none
  | .toolCall toolCallId toolName toolArgs action => some
    { toolCallId := toolCallId
      toolName := toolName
      status := some .running
      args := some toolArgs
      summary := some (some (match locale with
        | .enUS => "Call started; waiting for the result".toList
        | .zhCN => "已发起调用，等待返回结果".toList))
      metadata := action.metadata }
  | .toolResult toolCallId toolName result executionTimeMs skillExecutionId action visualization =>
    let (status, summary) := parseToolResultSummary python locale result
    some
      { toolCallId := toolCallId
        toolName := toolName
        status := some status
        result := some result
        executionTimeMs := some executionTimeMs
        summary := some (some summary)
        metadata := { action.metadata with skillExecutionId := skillExecutionId }
        visualization := some visualization }
  | .approvalRequest toolCallId toolName toolArgs summary action approvalId riskLevel riskReason => some
    { toolCallId := toolCallId
      toolName := toolName
      status := some .waitingApproval
      args := some toolArgs
      summary := some summary
      metadata :=
        { action.metadata with
          approvalId := approvalId
          approvalStatus := some "pending".toList
          riskLevel := riskLevel
          riskReason := riskReason } }
  | .confirmationResolved toolCallId toolName resolution approvalId action =>
    let (status, approvalStatus, summary) := resolutionOf python locale resolution
    some
      { toolCallId := toolCallId
        toolName := toolName
        status := status
        summary := some summary
        metadata := { action.metadata with approvalId := approvalId, approvalStatus := approvalStatus } }

/-- `normalize_locale(locale or event.get("locale")) or DEFAULT_LOCALE`. -/
def responseLocale (locale : Option Text) (event : Event) : Locale :=
  (normalizeLocale python (locale.filter (· ≠ []) <|> event.locale)).getD .zhCN

/-- What an event writes, in the locale of the response. -/
def Event.patch (locale : Option Text) (event : Event) : Option Patch :=
  event.body.patch python (responseLocale python locale event)

/-- **`apply_render_segments_event`**. -/
def applyRenderSegmentsEvent (locale : Option Text) (segments : List Segment) (event : Event) :
    List Segment :=
  match event.body with
  | .content content => appendMarkdownRenderSegment segments content
  | _ =>
    match event.patch python locale with
    | some patch => upsertToolRenderSegment segments patch
    | none => segments

/-- Python as far as plain text needs it: nothing of it is JSON. -/
def Python.plain : Python where
  unicode := .asciiOnly
  str _ := []
  loads _ := none
  dumps _ := []

end DBClaw.Chat
