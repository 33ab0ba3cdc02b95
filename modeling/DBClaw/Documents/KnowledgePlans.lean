import DBClaw.Library.Coercions
import DBClaw.Library.OrderedQueries
import DBClaw.Library.Replays
import DBClaw.Library.Uniques
import Mathlib

/-! # Knowledge plans
A diagnosis follows a plan: the units of knowledge that fit best, and the skills that they recommend. Every call of a
tool is entered in a ledger of evidence, and the plan is made again with it. `ledger_of_run` says what the ledger
holds after any calls, `hostless_of_run` that nothing that needs a host is planned once there is none, and
`planned_of_run` which units are planned. -/

namespace DBClaw.KnowledgePlans

open Coercions OrderedQueries Replays Uniques

/-- What the router calls: texts of values, and `json.loads`, `none` where it raises. -/
structure Python extends Texts where
  loads : Text → Option Json

/-! ## Knowledge -/

/-- An entry of `evidence_requirements`. -/
structure EvidenceRequirement where
  label : Text := []
  name : Text := []
  deriving DecidableEq, Repr

/-- A unit of a compiled document. -/
structure KnowledgeUnit where
  unitId : Text
  unitType : String
  title : Text
  path : Text
  summary : Text
  recommendedSkills : List Text
  signalTags : List Text
  symptomTags : List Text
  bodyExcerpt : Text
  deriving DecidableEq, Repr

/-- What a plan shows of a document. -/
structure ActiveDocument where
  documentId : ℤ
  title : Text
  score : ℤ
  reasons : List String
  evidenceRequirements : List EvidenceRequirement
  deriving DecidableEq, Repr

/-- A document that was routed to the diagnosis, with the units of its snapshot. -/
structure RoutedDocument extends ActiveDocument where
  units : List KnowledgeUnit
  deriving DecidableEq, Repr

/-- A call of a tool in the ledger. -/
structure Evidence where
  toolName : Text
  toolArgs : Json
  summary : Text
  success : Bool
  recordedAt : Text

/-- `evidence_ledger`. -/
structure EvidenceLedger where
  toolCalls : List Evidence := []
  consumedUnitIds : List Text := []
  citationRefs : List Text := []

/-- A unit of a plan. -/
structure ActiveUnit where
  unitId : Text
  documentId : ℤ
  documentTitle : Text
  nodeTitle : Text
  path : Text
  unitType : String
  summary : Text
  recommendedSkills : List Text
  citation : Text
  score : ℤ
  reasons : List String
  deriving DecidableEq, Repr

/-- `knowledge_plan`. -/
structure KnowledgePlan where
  activeDocuments : List ActiveDocument
  activeUnits : List ActiveUnit
  hypotheses : List Text
  recommendedSkills : List Text
  stopConditions : List Text
  citations : List Text
  routeReasons : List (ℤ × List String)

/-! ## Scores -/

/-- `_dedupe_preserve_order`. -/
def dedupePreserveOrder {α : Type} [DecidableEq α] (values : List α) : List α := uniqueBy id values

/-- `HOST_SKILL_PREFIXES`. -/
def hostSkillPrefixes : List Text := ["get_os_metrics".toList, "diagnose_".toList, "execute_os_command".toList]

/-- The skill works on a host. -/
def isHostSkill (skillId : Text) : Bool := hostSkillPrefixes.any (·.isPrefixOf skillId)

/-- `_needs_host`. -/
def needsHost (unit : KnowledgeUnit) : Bool := unit.recommendedSkills.any isHostSkill

/-- What `_tokenize_text` splits at. -/
def isSeparator (c : Char) : Bool :=
  Text.isSpace c || c ∈ [',', '，', '。', ':', '：', ';', '；', '/', '\\', '(', ')', '（', '）', '[', ']', '<', '>', '"',
    '\'', '\x60']

variable (p : Python)

/-- `_tokenize_text`. -/
def tokenizeText (text : Text) : List Text :=
  ((Text.lower p.unicode text).splitOnP isSeparator).filter fun token => 2 ≤ token.length

/-- `" ".join(texts)`. -/
def joined (texts : List Text) : Text := [' '].intercalate texts

/-- `_normalize_text` of a list of texts. -/
def normalizeTexts (texts : List Text) : Text := joined (texts.map (Text.lower p.unicode))

/-- `_match_tokens_score`. -/
def matchTokensScore (textBlob : Text) (tokens : List Text) (cap : ℤ) : ℤ × ℕ :=
  let hits := (tokens.take 16).countP fun token => token ≠ [] ∧ token <:+: textBlob
  (min (hits * 4) cap, hits)

/-- The text of a unit in which words are looked for. -/
def KnowledgeUnit.textBlob (unit : KnowledgeUnit) : Text :=
  joined [Text.lower p.unicode unit.title, Text.lower p.unicode unit.summary, normalizeTexts p unit.signalTags,
    normalizeTexts p unit.symptomTags, Text.lower p.unicode unit.bodyExcerpt]

/-- A part of a score, with its reasons. -/
abbrev Part : Type := ℤ × List String

/-- What the type of a unit is worth. -/
def typePart (unitType : String) : Part :=
  if unitType = "trigger" then (18, ["触发条件适合首轮筛查"])
  else if unitType = "evidence_step" then (14, ["适合作为证据收集步骤"])
  else if unitType = "decision_rule" then (12, ["包含判定规则"])
  else if unitType = "action" then (8, ["可支持后续建议动作"])
  else if unitType = "risk" then (6, ["可补充风险提示"])
  else (0, [])

/-- What the words of the user are worth. -/
def keywordPart (unit : KnowledgeUnit) (userMessage : Text) : Part :=
  let (score, hits) := matchTokensScore (unit.textBlob p) (tokenizeText p userMessage) 16
  (score, if hits ≠ 0 then ["命中 " ++ toString hits ++ " 个用户关键词"] else [])

/-- What the first category that is found is worth. -/
def categoryPart (unit : KnowledgeUnit) (issueCategories : List Text) : Part :=
  match issueCategories.find? fun category => Text.lower p.unicode category <:+: unit.textBlob p with
  | some category => (8, ["单元匹配问题类别 " ++ String.ofList category])
  | none => (0, [])

/-- What recommended skills are worth. -/
def skillsPart (unit : KnowledgeUnit) : Part :=
  if unit.recommendedSkills ≠ [] then (min (unit.recommendedSkills.length * 4) 12, ["包含推荐技能"]) else (0, [])

/-- The tools that were called with success. -/
def EvidenceLedger.executedTools (ledger : EvidenceLedger) : List Text :=
  (ledger.toolCalls.filter Evidence.success).map Evidence.toolName

/-- What the evidence so far makes of a unit. -/
def evidencePart (unit : KnowledgeUnit) (ledger : EvidenceLedger) : Part :=
  if ledger.executedTools = [] then (0, [])
  else if unit.unitType ∈ ["decision_rule", "action", "risk"] ∧
      unit.recommendedSkills.any (· ∈ ledger.executedTools) then
    (18, ["已有相关工具证据，可用于下一步判定"])
  else if unit.unitType = "evidence_step" ∧ unit.recommendedSkills.any (· ∉ ledger.executedTools) then
    (8, ["推荐技能尚未执行，适合作为下一步"])
  else (0, [])

/-- A unit that has been consumed is put back. -/
def consumedPart (unit : KnowledgeUnit) (ledger : EvidenceLedger) : Part :=
  if unit.unitId ∈ ledger.consumedUnitIds then (-80, []) else (0, [])

/-- What a plan is made from. -/
structure Situation where
  issueCategories : List Text
  userMessage : Text
  hostConfigured : Bool
  ledger : EvidenceLedger

/-- **`_score_unit`.** -/
def scoreUnit (s : Situation) (unit : KnowledgeUnit) (docScore : ℤ) : Part :=
  if needsHost unit ∧ s.hostConfigured = false then (-100, ["当前数据源未配置主机，跳过 OS 知识单元"])
  else
    let parts := [typePart unit.unitType, keywordPart p unit s.userMessage, categoryPart p unit s.issueCategories,
      skillsPart unit, evidencePart unit s.ledger, consumedPart unit s.ledger]
    (max (docScore / 2) 0 + (parts.map Prod.fst).sum, dedupePreserveOrder (parts.flatMap Prod.snd))

/-! ## Plans -/

/-- `_build_route_reason_map`, looked up: of documents with one id the last counts. -/
def routeReasonsOf (routedDocs : List RoutedDocument) (documentId : ℤ) : List String :=
  match routedDocs.reverse.find? fun doc => doc.documentId = documentId with
  | some doc => doc.reasons
  | none => []

/-- A unit as a plan has it, unless its score is negative. -/
def scoredUnit (s : Situation) (routedDocs : List RoutedDocument) (doc : RoutedDocument) (unit : KnowledgeUnit) :
    Option ActiveUnit :=
  let (score, reasons) := scoreUnit p s unit doc.score
  if score < 0 then none
  else some
    { unitId := unit.unitId
      documentId := doc.documentId
      documentTitle := doc.title
      nodeTitle := unit.title
      path := unit.path
      unitType := unit.unitType
      summary := unit.summary
      recommendedSkills := unit.recommendedSkills
      citation := doc.title ++ [' ', '/', ' '] ++ unit.title
      score := score
      reasons := dedupePreserveOrder (reasons ++ (routeReasonsOf routedDocs doc.documentId).take 2) }

/-- All units that may be planned. -/
def scoredUnits (s : Situation) (routedDocs : List RoutedDocument) : List ActiveUnit :=
  routedDocs.flatMap fun doc => doc.units.filterMap (scoredUnit p s routedDocs doc)

/-- Units with higher scores come first, then those of documents and nodes with lower titles. -/
def rank (unit : ActiveUnit) : (ℤ ×ₗ (Text ×ₗ Text))ᵒᵈ :=
  OrderDual.toDual (toLex (-unit.score, toLex (unit.documentTitle, unit.nodeTitle)))

/-- `_build_hypotheses`. -/
def buildHypotheses (activeUnits : List ActiveUnit) : List Text :=
  (dedupePreserveOrder (activeUnits.filterMap fun unit =>
    if unit.unitType ∈ ["trigger", "decision_rule", "action"] ∧ unit.nodeTitle ≠ [] then
      some (if unit.summary ≠ [] then unit.nodeTitle ++ ['：'] ++ unit.summary else unit.nodeTitle)
    else none)).take 6

/-- `DEFAULT_STOP_CONDITIONS`. -/
def defaultStopConditions : List Text :=
  ["关键假设已被工具结果验证或证伪".toList, "已覆盖数据库侧核心证据，且必要时覆盖主机侧证据".toList,
    "结论包含明确知识依据且未引用未激活知识单元".toList]

/-- `_dedupe_strings` of texts. -/
def dedupeStrings (values : List Text) : List Text := uniqueBy id ((values.map Text.strip).filter (· ≠ []))

/-- `build_default_stop_conditions`. -/
def buildDefaultStopConditions (activeUnits : List ActiveUnit) (requirements : List EvidenceRequirement) : List Text :=
  let labels := requirements.map fun item => Text.strip (if item.label ≠ [] then item.label else item.name)
  dedupeStrings
    ((labels.filter (· ≠ [])).map ("已满足证据要求：".toList ++ ·) ++
      (if activeUnits.any (·.unitType = "decision_rule") then ["已覆盖至少一个决策规则并完成工具验证".toList] else []) ++
      (if activeUnits.any (·.unitType = "risk") then ["已输出风险提示且与证据一致".toList] else []) ++ defaultStopConditions)

/-- **`activate_units`.** -/
def activateUnits (s : Situation) (routedDocs : List RoutedDocument) (unitLimit : ℕ) : KnowledgePlan :=
  let activeUnits := ((Descending.stable rank).sort (scoredUnits p s routedDocs)).take unitLimit
  let activeDocuments := (routedDocs.filter fun doc => doc.documentId ∈ activeUnits.map ActiveUnit.documentId).map
    RoutedDocument.toActiveDocument
  { activeDocuments := activeDocuments.take 5
    activeUnits := activeUnits
    hypotheses := buildHypotheses activeUnits
    recommendedSkills := (dedupePreserveOrder (activeUnits.flatMap ActiveUnit.recommendedSkills)).take 8
    stopConditions := buildDefaultStopConditions activeUnits (routedDocs.flatMap (·.evidenceRequirements))
    citations := (dedupePreserveOrder (activeUnits.map ActiveUnit.citation)).take 12
    routeReasons := activeDocuments.map fun doc => (doc.documentId, doc.reasons) }

/-! ## Planning again -/

/-- One entry of a dictionary in a summary. -/
def summarizeField (key : String) : Json → Option Text
  | .null => none
  | .arr xs => some (key.toList ++ ['='] ++ (toString xs.length).toList ++ ['项'])
  | .obj _ => some (key.toList ++ "=对象".toList)
  | value => some (key.toList ++ ['='] ++ pyStr p.toTexts value)

/-- `_summarize_result` of a value that has been read. -/
def summarizeParsed : Json → Text
  | .obj fields =>
    if (Dict.get fields "error").truthy then (pyStr p.toTexts (Dict.get fields "error")).take 220
    else (['；'].intercalate ((fields.filterMap fun field => summarizeField p field.1 field.2).take 4)).take 220
  | .arr xs => (toString xs.length).toList ++ " 项结果".toList
  | value => (pyStr p.toTexts value).take 220

/-- `_summarize_result`. -/
def summarizeResult : Json → Text
  | .str s =>
    match p.loads s with
    | some value => summarizeParsed p value
    | none => s.take 220
  | value => summarizeParsed p value

/-- A result of a tool as it is read. -/
def parsedResult : Json → Json
  | .str s => (p.loads s).getD (.str s)
  | value => value

/-- `parsed_result.get("error")`. -/
def errorOf : Json → Json
  | .obj fields => Dict.get fields "error"
  | _ => .null

/-- A call of a tool that has returned. -/
structure ToolCall where
  toolName : Text
  toolArgs : Json
  toolResult : Json
  recordedAt : Text
  replannedAt : Text

/-- The error of a call. -/
def ToolCall.error (call : ToolCall) : Json := errorOf (parsedResult p call.toolResult)

/-- The call says that there is no host. -/
def ToolCall.saysNoHost (call : ToolCall) : Bool :=
  match call.error p with
  | .str s => s = "no_host_configured".toList
  | _ => false

/-- What the ledger records of a call. -/
def ToolCall.evidence (call : ToolCall) : Evidence where
  toolName := call.toolName
  toolArgs := call.toolArgs.or (.obj [])
  summary := summarizeResult p (parsedResult p call.toolResult)
  success := !(call.error p).truthy
  recordedAt := call.recordedAt

/-- A call is entered. -/
def EvidenceLedger.record (ledger : EvidenceLedger) (evidence : Evidence) : EvidenceLedger :=
  { ledger with toolCalls := ledger.toolCalls ++ [evidence] }

/-- A value is appended unless it is there. -/
def addNew (values : List Text) (value : Text) : List Text := if value ∈ values then values else values ++ [value]

/-- The call is evidence for a unit of the plan. -/
def EvidenceLedger.consume (toolName : Text) (ledger : EvidenceLedger) (unit : ActiveUnit) : EvidenceLedger :=
  if toolName ∈ unit.recommendedSkills then
    { ledger with
      consumedUnitIds :=
        if unit.unitId ≠ [] ∧ unit.unitType ∈ ["trigger", "evidence_step"] then addNew ledger.consumedUnitIds unit.unitId
        else ledger.consumedUnitIds
      citationRefs := if unit.citation ≠ [] then addNew ledger.citationRefs unit.citation else ledger.citationRefs }
  else ledger

/-- `last_replan`. -/
structure Replan where
  toolName : Text
  toolSuccess : Bool
  summary : Text
  replannedAt : Text

/-- The knowledge context of a diagnosis. -/
structure KnowledgeContext where
  userMessage : Text
  issueCategories : List Text
  hostConfigured : Bool
  routedDocuments : List RoutedDocument
  knowledgePlan : KnowledgePlan
  evidenceLedger : EvidenceLedger
  recommendedDocuments : List ActiveDocument
  knowledgeBrief : List ActiveDocument
  lastReplan : Option Replan

/-- `unit_limit`. -/
def unitLimit : ℕ := 15

/-- `ISSUE_KEYWORDS`. -/
def issueKeywords : List (String × List String) :=
  [("performance", ["慢", "性能", "cpu", "负载", "卡", "吞吐", "qps", "tps", "高负载", "响应慢"]),
    ("connectivity", ["连接", "连不上", "timeout", "认证", "拒绝", "connection"]),
    ("locking", ["锁", "阻塞", "死锁", "等待", "metadata lock", "lock"]),
    ("replication", ["复制", "主从", "延迟", "同步", "replica", "slave", "standby"]),
    ("capacity", ["空间", "磁盘", "容量", "表空间", "满", "增长"]),
    ("sql", ["sql", "查询", "索引", "执行计划", "explain", "慢查询"]),
    ("resource", ["内存", "iowait", "磁盘io", "network", "网络", "主机", "cpu"]),
    ("configuration", ["配置", "参数", "变量", "buffer", "max_connections"]),
    ("error", ["报错", "错误", "异常", "失败", "error", "crash"]),
    ("general", ["诊断", "巡检", "检查", "分析"])]

/-- `["general"]`. -/
def generalCategory : List Text := ["general".toList]

/-- `infer_issue_categories_from_text`. -/
def inferIssueCategoriesFromText (text : Text) (issueCategory : Option Text) : List Text :=
  let given := issueCategory.toList.filter (· ≠ [])
  let found := issueKeywords.filter fun entry => entry.1.toList ∉ given ∧
    entry.2.any fun keyword => Text.lower p.unicode keyword.toList <:+: Text.lower p.unicode text
  let categories := given ++ found.map fun entry => entry.1.toList
  if categories ≠ [] then categories else generalCategory

/-- **The context that a diagnosis starts with**, as `build_knowledge_context` makes it from the routed documents. -/
def startContext (userMessage : Text) (issueCategory : Option Text) (hostConfigured : Bool)
    (routedDocs : List RoutedDocument) : KnowledgeContext :=
  let issueCategories := inferIssueCategoriesFromText p userMessage issueCategory
  let plan := activateUnits p ⟨issueCategories, userMessage, hostConfigured, {}⟩ routedDocs unitLimit
  { userMessage := userMessage
    issueCategories := issueCategories
    hostConfigured := hostConfigured
    routedDocuments := routedDocs
    knowledgePlan := plan
    evidenceLedger := {}
    recommendedDocuments := plan.activeDocuments
    knowledgeBrief := plan.activeDocuments.take 5
    lastReplan := none }

/-- The situation that a plan of a context is made from. -/
def KnowledgeContext.situation (c : KnowledgeContext) : Situation where
  issueCategories := if c.issueCategories ≠ [] then c.issueCategories else generalCategory
  userMessage := c.userMessage
  hostConfigured := c.hostConfigured
  ledger := c.evidenceLedger

/-- **`replan_with_evidence`.** -/
def replanWithEvidence (c : KnowledgeContext) (call : ToolCall) : KnowledgeContext :=
  let evidence := call.evidence p
  let ledger := c.knowledgePlan.activeUnits.foldl (EvidenceLedger.consume call.toolName)
    (c.evidenceLedger.record evidence)
  let updated := { c with evidenceLedger := ledger, hostConfigured := c.hostConfigured && !call.saysNoHost p }
  let plan := activateUnits p updated.situation c.routedDocuments unitLimit
  { updated with
    knowledgePlan := plan
    recommendedDocuments := plan.activeDocuments
    knowledgeBrief := plan.activeDocuments.take 5
    lastReplan := some ⟨call.toolName, evidence.success, summarizeResult p (parsedResult p call.toolResult),
      call.replannedAt⟩ }

/-! ## The tools that the model is offered -/

/-- `_tool_sort_key`. -/
def toolSortKey (recommended : List Text) (tool : Text) : ℕ ×ₗ (ℕ ×ₗ Text) :=
  if tool ∈ recommended then toLex (0, toLex (recommended.idxOf tool, tool)) else toLex (1, toLex (999, tool))

variable {τ : Type} (name : τ → Text)

/-- `_knowledge_recommended_skills`. -/
def knowledgeRecommendedSkills (c : KnowledgeContext) : List Text := c.knowledgePlan.recommendedSkills.filter (· ≠ [])

/-- **`_prioritize_tools_by_knowledge_plan`.** -/
def prioritizeToolsByKnowledgePlan (activeTools : List τ) (c : KnowledgeContext) : List τ :=
  let recommended := knowledgeRecommendedSkills c
  if recommended = [] then activeTools
  else (Descending.stable fun tool => OrderDual.toDual (toolSortKey recommended (name tool))).sort activeTools

/-- A diagnosis: its knowledge, and the tools that the model is offered. -/
structure Diagnosis (τ : Type) where
  context : KnowledgeContext
  activeTools : List τ

/-- A diagnosis starts. -/
def Diagnosis.start (c : KnowledgeContext) (tools : List τ) : Diagnosis τ :=
  ⟨c, prioritizeToolsByKnowledgePlan name tools c⟩

/-- **A tool has returned.** -/
def Diagnosis.step (d : Diagnosis τ) (call : ToolCall) : Diagnosis τ :=
  let c := replanWithEvidence p d.context call
  ⟨c, prioritizeToolsByKnowledgePlan name d.activeTools c⟩

/-! ## Units of a plan -/

variable {p} {s : Situation} {docs : List RoutedDocument} {doc : RoutedDocument} {unit : KnowledgeUnit}
  {active : ActiveUnit} {n : ℕ}

theorem scoredUnit_eq_some (h : scoredUnit p s docs doc unit = some active) :
    0 ≤ (scoreUnit p s unit doc.score).1 ∧ active.documentId = doc.documentId ∧ active.unitId = unit.unitId ∧
      active.unitType = unit.unitType ∧ active.recommendedSkills = unit.recommendedSkills ∧
      active.citation = doc.title ++ [' ', '/', ' '] ++ unit.title := by
  unfold scoredUnit at h
  dsimp only at h
  split_ifs at h with hneg
  cases h
  exact ⟨not_lt.mp hneg, rfl, rfl, rfl, rfl, rfl⟩

theorem mem_scoredUnits : active ∈ scoredUnits p s docs ↔
    ∃ doc ∈ docs, ∃ unit ∈ doc.units, scoredUnit p s docs doc unit = some active := by
  simp only [scoredUnits, List.mem_flatMap, List.mem_filterMap]

theorem mem_activeUnits (h : active ∈ (activateUnits p s docs n).activeUnits) :
    ∃ doc ∈ docs, ∃ unit ∈ doc.units, scoredUnit p s docs doc unit = some active :=
  mem_scoredUnits.mp (((Descending.stable rank).perm _).mem_iff.mp (List.mem_of_mem_take h))

theorem mem_dedupePreserveOrder {α : Type} [DecidableEq α] {a : α} {values : List α}
    (h : a ∈ dedupePreserveOrder values) : a ∈ values := (sublist_uniqueAfter [] values).mem h

/-- **Without a host** no unit that needs one is planned. -/
theorem isHostSkill_eq_false (hhost : s.hostConfigured = false) (h : active ∈ (activateUnits p s docs n).activeUnits)
    {skill : Text} (hskill : skill ∈ active.recommendedSkills) : isHostSkill skill = false := by
  obtain ⟨doc, -, unit, -, hsome⟩ := mem_activeUnits h
  obtain ⟨hscore, -, -, -, hskills, -⟩ := scoredUnit_eq_some hsome
  by_contra hneeds
  rw [Bool.not_eq_false] at hneeds
  have hunit : needsHost unit = true := List.any_eq_true.mpr ⟨skill, hskills ▸ hskill, hneeds⟩
  rw [scoreUnit, if_pos ⟨hunit, hhost⟩] at hscore
  exact absurd hscore (by decide)

/-! ## Scores -/

theorem typePart_evidencePart_le (h : unit.unitType ∈ ["trigger", "evidence_step"]) (ledger : EvidenceLedger) :
    (typePart unit.unitType).1 + (evidencePart unit ledger).1 ≤ 22 := by
  rcases List.mem_pair.mp h with h | h
  · have htype : (typePart unit.unitType).1 = 18 := by rw [h]; rfl
    have hevidence : (evidencePart unit ledger).1 = 0 := by
      unfold evidencePart
      rw [h]
      split_ifs with hnone hother hstep
      · rfl
      · exact absurd hother.1 (by decide)
      · exact absurd hstep.1 (by decide)
      · rfl
    omega
  · have htype : (typePart unit.unitType).1 = 14 := by rw [h]; rfl
    have hevidence : (evidencePart unit ledger).1 ≤ 8 := by
      unfold evidencePart
      rw [h]
      split_ifs with hnone hother
      · exact (by decide : (0 : ℤ) ≤ 8)
      · exact absurd hother.1 (by decide)
      · exact le_rfl
      · exact (by decide : (0 : ℤ) ≤ 8)
    omega

theorem keywordPart_le (unit : KnowledgeUnit) (userMessage : Text) : (keywordPart p unit userMessage).1 ≤ 16 :=
  min_le_right _ _

theorem categoryPart_le (unit : KnowledgeUnit) (categories : List Text) : (categoryPart p unit categories).1 ≤ 8 := by
  unfold categoryPart
  split
  · exact le_rfl
  · exact (by decide : (0 : ℤ) ≤ 8)

theorem skillsPart_le (unit : KnowledgeUnit) : (skillsPart unit).1 ≤ 12 := by
  unfold skillsPart
  split_ifs
  · exact min_le_right _ _
  · exact (by decide : (0 : ℤ) ≤ 12)

/-- **A unit that has been consumed** is only planned for a document with a high score. -/
theorem le_score_of_consumed (hconsumed : unit.unitId ∈ s.ledger.consumedUnitIds)
    (htype : unit.unitType ∈ ["trigger", "evidence_step"]) (h : 0 ≤ (scoreUnit p s unit doc.score).1) :
    44 ≤ doc.score := by
  have hparts := typePart_evidencePart_le htype s.ledger
  have hkeyword := keywordPart_le (p := p) unit s.userMessage
  have hcategory := categoryPart_le (p := p) unit s.issueCategories
  have hskills := skillsPart_le unit
  have hback : (consumedPart unit s.ledger).1 = -80 := by rw [consumedPart, if_pos hconsumed]
  unfold scoreUnit at h
  split_ifs at h
  · exact absurd h (by decide)
  · simp only [List.map_cons, List.map_nil, List.sum_cons, List.sum_nil, hback] at h
    omega

/-! ## The ledger -/

theorem mem_addNew {values : List Text} {value v : Text} : v ∈ addNew values value ↔ v ∈ values ∨ v = value := by
  unfold addNew
  split_ifs with hmem
  · exact ⟨.inl, fun h => h.elim id fun h => h ▸ hmem⟩
  · rw [List.mem_append, List.mem_singleton]

theorem nodup_addNew {values : List Text} (h : values.Nodup) (value : Text) : (addNew values value).Nodup := by
  unfold addNew
  split_ifs with hmem
  · exact h
  · exact List.nodup_append.mpr ⟨h, List.nodup_singleton value, fun a ha b hb => by
      rw [List.mem_singleton.mp hb]
      exact fun heq => hmem (heq ▸ ha)⟩

/-- A call of a tool consumes a unit of the plan. -/
def Consumes (toolName : Text) (unit : ActiveUnit) (id : Text) : Prop :=
  toolName ∈ unit.recommendedSkills ∧ unit.unitId = id ∧ id ≠ [] ∧ unit.unitType ∈ ["trigger", "evidence_step"]

/-- A call of a tool is evidence for a unit of the plan, which is cited. -/
def Cites (toolName : Text) (unit : ActiveUnit) (citation : Text) : Prop :=
  toolName ∈ unit.recommendedSkills ∧ unit.citation = citation ∧ citation ≠ []

variable {toolName : Text} {ledger : EvidenceLedger} {units : List ActiveUnit}

theorem mem_consume (toolName : Text) (ledger : EvidenceLedger) (unit : ActiveUnit) (id : Text) :
    id ∈ (ledger.consume toolName unit).consumedUnitIds ↔ id ∈ ledger.consumedUnitIds ∨ Consumes toolName unit id := by
  unfold EvidenceLedger.consume
  by_cases htool : toolName ∈ unit.recommendedSkills
  · rw [if_pos htool]
    dsimp only
    by_cases hunit : unit.unitId ≠ [] ∧ unit.unitType ∈ ["trigger", "evidence_step"]
    · rw [if_pos hunit, mem_addNew]
      exact or_congr_right ⟨fun h => ⟨htool, h.symm, h ▸ hunit.1, hunit.2⟩, fun h => h.2.1.symm⟩
    · rw [if_neg hunit]
      exact (or_iff_left fun h : Consumes toolName unit id => hunit ⟨h.2.1 ▸ h.2.2.1, h.2.2.2⟩).symm
  · rw [if_neg htool]
    exact (or_iff_left fun h => htool h.1).symm

theorem mem_consume_refs (toolName : Text) (ledger : EvidenceLedger) (unit : ActiveUnit) (citation : Text) :
    citation ∈ (ledger.consume toolName unit).citationRefs ↔
      citation ∈ ledger.citationRefs ∨ Cites toolName unit citation := by
  unfold EvidenceLedger.consume
  by_cases htool : toolName ∈ unit.recommendedSkills
  · rw [if_pos htool]
    dsimp only
    by_cases hcitation : unit.citation ≠ []
    · rw [if_pos hcitation, mem_addNew]
      exact or_congr_right ⟨fun h => ⟨htool, h.symm, h ▸ hcitation⟩, fun h => h.2.1.symm⟩
    · rw [if_neg hcitation]
      exact (or_iff_left fun h : Cites toolName unit citation => hcitation (h.2.1 ▸ h.2.2)).symm
  · rw [if_neg htool]
    exact (or_iff_left fun h => htool h.1).symm

/-- Nothing is in the ledger twice. -/
structure EvidenceLedger.Unique (ledger : EvidenceLedger) : Prop where
  consumed : ledger.consumedUnitIds.Nodup
  refs : ledger.citationRefs.Nodup

theorem EvidenceLedger.Unique.consume (h : ledger.Unique) (unit : ActiveUnit) : (ledger.consume toolName unit).Unique := by
  unfold EvidenceLedger.consume
  by_cases htool : toolName ∈ unit.recommendedSkills
  · rw [if_pos htool]
    refine ⟨?_, ?_⟩
    · dsimp only
      split_ifs
      · exact nodup_addNew h.consumed _
      · exact h.consumed
    · dsimp only
      split_ifs
      · exact nodup_addNew h.refs _
      · exact h.refs
  · rw [if_neg htool]
    exact h

theorem toolCalls_consume (toolName : Text) (ledger : EvidenceLedger) (unit : ActiveUnit) :
    (ledger.consume toolName unit).toolCalls = ledger.toolCalls := by
  unfold EvidenceLedger.consume
  by_cases htool : toolName ∈ unit.recommendedSkills
  · rw [if_pos htool]
  · rw [if_neg htool]

/-! ## One call -/

variable (p) (c : KnowledgeContext) (call : ToolCall)

theorem mem_replan_consumed (id : Text) : id ∈ (replanWithEvidence p c call).evidenceLedger.consumedUnitIds ↔
    id ∈ c.evidenceLedger.consumedUnitIds ∨ ∃ unit ∈ c.knowledgePlan.activeUnits, Consumes call.toolName unit id := by
  have hunits := holds_iff_met (Q := fun ledger : EvidenceLedger => id ∈ ledger.consumedUnitIds)
    (fun ledger unit => mem_consume call.toolName ledger unit id)
    (c.evidenceLedger.record (call.evidence p)) c.knowledgePlan.activeUnits
  rw [met_iff_exists] at hunits
  exact hunits

theorem mem_replan_refs (citation : Text) : citation ∈ (replanWithEvidence p c call).evidenceLedger.citationRefs ↔
    citation ∈ c.evidenceLedger.citationRefs ∨
      ∃ unit ∈ c.knowledgePlan.activeUnits, Cites call.toolName unit citation := by
  have hunits := holds_iff_met (Q := fun ledger : EvidenceLedger => citation ∈ ledger.citationRefs)
    (fun ledger unit => mem_consume_refs call.toolName ledger unit citation)
    (c.evidenceLedger.record (call.evidence p)) c.knowledgePlan.activeUnits
  rw [met_iff_exists] at hunits
  exact hunits

theorem unique_replan (h : c.evidenceLedger.Unique) : (replanWithEvidence p c call).evidenceLedger.Unique :=
  after_invariant (fun _ unit hledger => hledger.consume unit)
    (⟨h.consumed, h.refs⟩ : (c.evidenceLedger.record (call.evidence p)).Unique) c.knowledgePlan.activeUnits

theorem toolCalls_replan : (replanWithEvidence p c call).evidenceLedger.toolCalls =
    c.evidenceLedger.toolCalls ++ [call.evidence p] := by
  have hrecord : (c.evidenceLedger.record (call.evidence p)).toolCalls =
      c.evidenceLedger.toolCalls ++ [call.evidence p] := rfl
  exact after_invariant (fun ledger unit h => (toolCalls_consume call.toolName ledger unit).trans h) hrecord
    c.knowledgePlan.activeUnits

theorem hostConfigured_replan : (replanWithEvidence p c call).hostConfigured = false ↔
    c.hostConfigured = false ∨ call.saysNoHost p = true := by
  show (c.hostConfigured && !call.saysNoHost p) = false ↔ _
  rw [Bool.and_eq_false_iff, Bool.not_eq_false']

/-! ## All calls of a diagnosis -/

variable {p c}

theorem toolCalls_after (c : KnowledgeContext) (calls : List ToolCall) :
    (after (replanWithEvidence p) c calls).evidenceLedger.toolCalls =
      c.evidenceLedger.toolCalls ++ calls.map (ToolCall.evidence p) := by
  induction calls using List.reverseRecOn with
  | nil => exact (List.append_nil _).symm
  | append_singleton calls call ih =>
    rw [after_concat, toolCalls_replan, ih, List.map_append, List.append_assoc]
    rfl

/-- The plan is the one of the situation. -/
structure Planned (p : Python) (docs : List RoutedDocument) (c : KnowledgeContext) : Prop where
  documents : c.routedDocuments = docs
  plan : c.knowledgePlan = activateUnits p c.situation docs unitLimit

theorem inferIssueCategoriesFromText_ne_nil (text : Text) (issueCategory : Option Text) :
    inferIssueCategoriesFromText p text issueCategory ≠ [] := by
  unfold inferIssueCategoriesFromText
  dsimp only
  split_ifs with hsome
  · exact hsome
  · exact List.cons_ne_nil _ _

variable (userMessage : Text) (issueCategory : Option Text) (hostConfigured : Bool)

theorem planned_start : Planned p docs (startContext p userMessage issueCategory hostConfigured docs) := by
  refine ⟨rfl, ?_⟩
  have hsituation : (startContext p userMessage issueCategory hostConfigured docs).situation =
      ⟨inferIssueCategoriesFromText p userMessage issueCategory, userMessage, hostConfigured, {}⟩ := by
    rw [KnowledgeContext.situation]
    exact congrArg (fun categories => (⟨categories, userMessage, hostConfigured, {}⟩ : Situation))
      (if_pos (inferIssueCategoriesFromText_ne_nil userMessage issueCategory))
  rw [hsituation]
  rfl

theorem Planned.replan (h : Planned p docs c) (call : ToolCall) : Planned p docs (replanWithEvidence p c call) := by
  refine ⟨h.documents, ?_⟩
  rw [← h.documents]
  rfl

theorem planned_after (calls : List ToolCall) : Planned p docs
    (after (replanWithEvidence p) (startContext p userMessage issueCategory hostConfigured docs) calls) :=
  after_invariant (I := Planned p docs) (fun _ call h => h.replan call)
    (planned_start userMessage issueCategory hostConfigured) calls

/-- **The ledger of a diagnosis**, after any calls of tools: it has every call in order, and as consumed just the units
of triggers and evidence steps that were in the plan when a tool was called that they recommend, and as cited the units
of all types, nothing twice. -/
theorem ledger_of_run (p : Python) (docs : List RoutedDocument) (userMessage : Text) (issueCategory : Option Text)
    (hostConfigured : Bool) (calls : List ToolCall) :
    let start := startContext p userMessage issueCategory hostConfigured docs
    let ledger := (after (replanWithEvidence p) start calls).evidenceLedger
    ledger.toolCalls = calls.map (ToolCall.evidence p) ∧ ledger.Unique ∧
      (∀ id, id ∈ ledger.consumedUnitIds ↔ Met (replanWithEvidence p) start calls fun c call =>
        ∃ unit ∈ c.knowledgePlan.activeUnits, Consumes call.toolName unit id) ∧
      ∀ citation, citation ∈ ledger.citationRefs ↔ Met (replanWithEvidence p) start calls fun c call =>
        ∃ unit ∈ c.knowledgePlan.activeUnits, Cites call.toolName unit citation := by
  intro start ledger
  refine ⟨toolCalls_after start calls, ?_, fun id => ?_, fun citation => ?_⟩
  · exact after_invariant (I := fun c : KnowledgeContext => c.evidenceLedger.Unique)
      (fun c call h => unique_replan p c call h) ⟨List.nodup_nil, List.nodup_nil⟩ calls
  · have hmet := holds_iff_met (Q := fun c : KnowledgeContext => id ∈ c.evidenceLedger.consumedUnitIds)
      (fun c call => mem_replan_consumed p c call id) start calls
    exact hmet.trans (or_iff_right List.not_mem_nil)
  · have hmet := holds_iff_met (Q := fun c : KnowledgeContext => citation ∈ c.evidenceLedger.citationRefs)
      (fun c call => mem_replan_refs p c call citation) start calls
    exact hmet.trans (or_iff_right List.not_mem_nil)

/-- **Once there is no host**, or a tool has said so, no plan has a unit that needs one, whatever is called later, and
none recommends a skill that does. -/
theorem hostless_of_run (p : Python) (docs : List RoutedDocument) (userMessage : Text) (issueCategory : Option Text)
    (hostConfigured : Bool) (calls : List ToolCall)
    (h : hostConfigured = false ∨ ∃ call ∈ calls, call.saysNoHost p = true) :
    let plan := (after (replanWithEvidence p) (startContext p userMessage issueCategory hostConfigured docs)
      calls).knowledgePlan
    (∀ unit ∈ plan.activeUnits, ∀ skill ∈ unit.recommendedSkills, isHostSkill skill = false) ∧
      ∀ skill ∈ plan.recommendedSkills, isHostSkill skill = false := by
  intro plan
  -- every plan is made anew for the flag, which no call sets again
  have hplanned : Planned p docs _ := planned_after userMessage issueCategory hostConfigured calls
  have hhost : (after (replanWithEvidence p) (startContext p userMessage issueCategory hostConfigured docs)
      calls).hostConfigured = false := by
    have hmet := holds_iff_met (Q := fun c : KnowledgeContext => c.hostConfigured = false)
      (fun c call => hostConfigured_replan p c call)
      (startContext p userMessage issueCategory hostConfigured docs) calls
    rw [met_iff_exists] at hmet
    exact hmet.mpr h
  have hunits : ∀ unit ∈ plan.activeUnits, ∀ skill ∈ unit.recommendedSkills, isHostSkill skill = false := by
    intro unit hunit skill hskill
    rw [show plan = _ from hplanned.plan] at hunit
    exact isHostSkill_eq_false hhost hunit hskill
  refine ⟨hunits, fun skill hskill => ?_⟩
  rw [show plan = _ from hplanned.plan] at hskill hunits
  obtain ⟨unit, hunit, hmem⟩ := List.mem_flatMap.mp (mem_dedupePreserveOrder (List.mem_of_mem_take hskill))
  exact hunits unit hunit skill hmem

/-- Python as far as dictionaries of texts need it. -/
def plainPython : Python := ⟨⟨.asciiOnly, fun _ => 0, fun _ => none, fun _ => [], fun _ => []⟩, fun _ => none⟩

/-- A document with a step on the metrics of the host. -/
def loadRunbook : RoutedDocument where
  documentId := 1
  title := ['L', 'o', 'a', 'd']
  score := 60
  reasons := []
  evidenceRequirements := []
  units := [⟨['k', 'u'], "evidence_step", ['C', 'P', 'U'], [], [], ["get_os_metrics".toList], [], [], []⟩]

/-- The metrics of a host that there is not. -/
def osMetricsCall : ToolCall where
  toolName := "get_os_metrics".toList
  toolArgs := .obj []
  toolResult := .obj [("error", .str "no_host_configured".toList)]
  recordedAt := []
  replannedAt := []

theorem loadRunbook_hostless : (after (replanWithEvidence plainPython)
    (startContext plainPython [] none true [loadRunbook]) [osMetricsCall]).knowledgePlan.recommendedSkills.all
      (! isHostSkill ·) = true := by
  have hhostless := hostless_of_run plainPython [loadRunbook] [] none true [osMetricsCall]
    (.inr ⟨osMetricsCall, .head _, rfl⟩)
  refine List.all_eq_true.mpr fun skill hskill => ?_
  rw [hhostless.2 skill hskill]
  rfl

/-- **The plan of a diagnosis**, after any calls of tools: it has the units with the highest scores among those whose
scores are not negative; a unit that has been consumed only if its document has a score of 44 at least; and it
recommends and cites only what is of its units. -/
theorem planned_of_run (p : Python) (docs : List RoutedDocument) (userMessage : Text) (issueCategory : Option Text)
    (hostConfigured : Bool) (calls : List ToolCall) :
    let c := after (replanWithEvidence p) (startContext p userMessage issueCategory hostConfigured docs) calls
    Newest rank unitLimit (scoredUnits p c.situation docs) c.knowledgePlan.activeUnits ∧
      (∀ unit ∈ c.knowledgePlan.activeUnits, unit.unitId ∈ c.evidenceLedger.consumedUnitIds →
        unit.unitType ∈ ["trigger", "evidence_step"] →
          ∃ doc ∈ docs, doc.documentId = unit.documentId ∧ 44 ≤ doc.score) ∧
      (∀ skill ∈ c.knowledgePlan.recommendedSkills,
        ∃ unit ∈ c.knowledgePlan.activeUnits, skill ∈ unit.recommendedSkills) ∧
      ∀ citation ∈ c.knowledgePlan.citations, ∃ doc ∈ docs, ∃ unit ∈ doc.units,
        citation = doc.title ++ [' ', '/', ' '] ++ unit.title := by
  intro c
  have hplanned : Planned p docs c := planned_after userMessage issueCategory hostConfigured calls
  rw [hplanned.plan]
  refine ⟨newest_take _ _ _, fun unit hunit hconsumed htype => ?_, fun skill hskill => ?_, fun citation hcitation => ?_⟩
  · -- a consumed unit has lost 80 points, which its document has to make up for
    obtain ⟨doc, hdoc, source, -, hsome⟩ := mem_activeUnits hunit
    obtain ⟨hscore, hdocument, hid, hsource, -, -⟩ := scoredUnit_eq_some hsome
    exact ⟨doc, hdoc, hdocument.symm, le_score_of_consumed (hid ▸ hconsumed) (hsource ▸ htype) hscore⟩
  · exact List.mem_flatMap.mp (mem_dedupePreserveOrder (List.mem_of_mem_take hskill))
  · obtain ⟨unit, hunit, rfl⟩ := List.mem_map.mp (mem_dedupePreserveOrder (List.mem_of_mem_take hcitation))
    obtain ⟨doc, hdoc, source, hsource, hsome⟩ := mem_activeUnits hunit
    exact ⟨doc, hdoc, source, hsource, (scoredUnit_eq_some hsome).2.2.2.2.2⟩

/-! ## All tools -/

theorem toolSortKey_le {recommended : List Text} {a b : Text} (hb : b ∈ recommended)
    (h : toolSortKey recommended a ≤ toolSortKey recommended b) :
    a ∈ recommended ∧ recommended.idxOf a ≤ recommended.idxOf b := by
  unfold toolSortKey at h
  rw [if_pos hb] at h
  split_ifs at h with ha
  · refine ⟨ha, ?_⟩
    rcases Prod.Lex.toLex_le_toLex.mp h with hlt | ⟨-, hle⟩
    · exact absurd hlt (lt_irrefl _)
    · rcases Prod.Lex.toLex_le_toLex.mp hle with hlt | ⟨heq, -⟩
      · exact hlt.le
      · exact heq.le
  · rcases Prod.Lex.toLex_le_toLex.mp h with hlt | ⟨heq, -⟩
    · exact absurd hlt (Nat.not_lt_zero 1)
    · exact absurd heq Nat.one_ne_zero

/-- Tools that are recommended come first, in the order of the plan. -/
def Prioritized (name : τ → Text) (recommended : List Text) (tools : List τ) : Prop :=
  tools.Pairwise fun a b => name b ∈ recommended →
    name a ∈ recommended ∧ recommended.idxOf (name a) ≤ recommended.idxOf (name b)

variable {name}

theorem perm_prioritizeToolsByKnowledgePlan (tools : List τ) (c : KnowledgeContext) :
    (prioritizeToolsByKnowledgePlan name tools c).Perm tools := by
  unfold prioritizeToolsByKnowledgePlan
  dsimp only
  split_ifs
  · exact .rfl
  · exact (Descending.stable _).perm tools

theorem prioritized_prioritizeToolsByKnowledgePlan (tools : List τ) (c : KnowledgeContext) :
    Prioritized name (knowledgeRecommendedSkills c) (prioritizeToolsByKnowledgePlan name tools c) := by
  unfold prioritizeToolsByKnowledgePlan
  dsimp only
  split_ifs with hnone
  · rw [hnone]
    exact List.pairwise_of_forall fun _ _ hb => absurd hb List.not_mem_nil
  · have hdescending := (Descending.stable fun tool : τ =>
      OrderDual.toDual (toolSortKey (knowledgeRecommendedSkills c) (name tool))).descending tools
    exact hdescending.imp fun hle hb => toolSortKey_le hb hle

/-- **The tools of a diagnosis**, after any calls: none is lost and none is new, and those that the plan recommends are
offered first, in its order. -/
theorem tools_of_run (p : Python) (name : τ → Text) (c : KnowledgeContext) (tools : List τ) (calls : List ToolCall) :
    let d := after (Diagnosis.step p name) (Diagnosis.start name c tools) calls
    d.context = after (replanWithEvidence p) c calls ∧ d.activeTools.Perm tools ∧
      Prioritized name (knowledgeRecommendedSkills d.context) d.activeTools := by
  intro d
  refine ⟨?_, ?_⟩
  · show (after (Diagnosis.step p name) (Diagnosis.start name c tools) calls).context = _
    induction calls using List.reverseRecOn with
    | nil => rfl
    | append_singleton calls call ih =>
      rw [after_concat, after_concat, ← ih]
      rfl
  · refine after_invariant (I := fun d : Diagnosis τ => d.activeTools.Perm tools ∧
      Prioritized name (knowledgeRecommendedSkills d.context) d.activeTools) (fun d call h => ?_) ?_ calls
    · exact ⟨(perm_prioritizeToolsByKnowledgePlan _ _).trans h.1, prioritized_prioritizeToolsByKnowledgePlan _ _⟩
    · exact ⟨perm_prioritizeToolsByKnowledgePlan _ _, prioritized_prioritizeToolsByKnowledgePlan _ _⟩

end DBClaw.KnowledgePlans
