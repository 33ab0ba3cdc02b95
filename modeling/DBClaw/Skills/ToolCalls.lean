import DBClaw.Risk.Assessment
import DBClaw.Skills.Definitions

/-! # From the text of a tool call to the skill
The model requests a tool by a name and a text of arguments. `run_conversation_with_skills` parses the text,
assesses the risk, and executes the tool or waits for an approval, which is stored and may be loaded again
before the tool is executed. `execute_skill_call` takes a time limit out of the arguments, and the executor
validates the rest. -/

namespace DBClaw.Skills

open SkillValidator

/-! ## Rows of skills -/

/-- `skill.parameters or []`. -/
def Row.parameters (py : Pydantic) (row : Row) : List SkillParameter :=
  ((row.columns.get "parameters").or (.arr [])).items.filterMap (readParameter py)

/-- `skill.is_enabled`. -/
def Row.isEnabled (row : Row) : Bool := (row.columns.get "is_enabled").truthy

/-- The execution starts within the time limit of the skill: `asyncio.wait_for` does not start with a negative
one, and 0 stands for the default. -/
def Row.starts (row : Row) : Bool :=
  match row.columns.get "timeout" with
  | .int n => 0 ≤ n
  | _ => true

namespace ToolCalls

/-! ## Execution -/

/-- What `json.loads` does with a text. -/
inductive Loaded
  | value (value : Json)
  | decodeError
  | otherError

/-- `json`. -/
structure JsonModule where
  loads : Text → Loaded
  dumps : Json → Text

/-- The run-time environment of the skills. -/
structure Runtime where
  env : Env
  py : Pydantic
  re : Regex
  json : JsonModule
  u : Unicode
  repr : Json → Text

/-- The outcome of a tool call. -/
inductive Outcome
  | aborted
  | failed
  | executed (arguments : Dict)
  | waits (arguments : Dict)

/-- What the code of a tool gets. -/
def Outcome.arguments : Outcome → Option Dict
  | .executed arguments => some arguments
  | _ => none

variable (rt : Runtime)

/-- A skill that is executed: it exists, is enabled and is built-in. -/
def available (skill : Option Row) : Bool := skill.any fun row => row.isEnabled && row.isBuiltin

/-- A time limit of the call counts, or else that of the skill. -/
def startsWithin (row : Row) (arguments : Dict) : Bool :=
  match arguments.get "timeout" with
  | .null => row.starts
  | timeout => startsWith rt.env timeout

/-- **`execute_skill_call`**: the time limit is taken out of the arguments, and the code gets the rest if it is
valid. -/
def executeCall (skill : Option Row) (arguments : Dict) : Outcome :=
  match skill with
  | some row =>
    if available skill && startsWithin rt row arguments &&
        decide (Valid rt.re (withoutTimeout arguments) (row.parameters rt.py)) then
      .executed (withoutTimeout arguments)
    else .failed
  | none => .failed

/-! ## The tools of the knowledge base -/

/-- `KB_TOOL_NAMES`. -/
def kbToolNames : List String := ["list_documents", "read_document"]

/-- A tool of the knowledge base. `execute_tool` makes an error of what a handler raises, but the event about
a document that was read looks into the arguments itself. -/
def executeKbTool (toolName : String) (arguments : Json) : Outcome :=
  match arguments with
  | .obj arguments =>
    if toolName = "read_document" && ! (Dict.get arguments "doc_id").truthy then .failed else .executed arguments
  | _ => if toolName = "read_document" then .aborted else .failed

/-! ## A tool call -/

/-- **A tool call**, in the session it comes in: the tools that are active, whether approvals are skipped, the
permissions and the verdict that the risk is assessed with, and the row of the skill when it is executed. -/
structure ToolCall where
  toolName : String
  text : Text
  activeTools : List String
  skipApproval : Bool
  permissions : List String
  english : Bool
  client : Option (Option Risk.Verdict)
  skill : Option Row

variable (call : ToolCall)

/-- The call waits for an approval. -/
def asks (arguments : Dict) : Bool :=
  let risk := Risk.assessToolRisk rt.u rt.repr {
    toolName := call.toolName, arguments := arguments, permissions := call.permissions,
    english := call.english } call.client
  risk.1.level ≠ .safe && ! call.skipApproval

/-- A call whose arguments have been parsed; `assess_tool_risk` raises for arguments that are no object. -/
def proceed (arguments : Json) : Outcome :=
  if call.toolName ∉ call.activeTools then .failed
  else if call.toolName ∈ kbToolNames then executeKbTool call.toolName arguments
  else
    match arguments with
    | .obj arguments => if asks rt call arguments then .waits arguments else executeCall rt call.skill arguments
    | _ => .aborted

/-- **The handling of a tool call**: a text that cannot be decoded counts as an empty object. -/
def handle : Outcome :=
  match rt.json.loads call.text with
  | .value arguments => proceed rt call arguments
  | .decodeError => proceed rt call (.obj [])
  | .otherError => .aborted

/-- What is stored of a call that waits. -/
def pendingContent (arguments : Dict) : Json := .obj [
  ("tool_name", .str call.toolName.toList),
  ("tool_args", .obj arguments),
  ("status", .str "pending".toList)]

/-- The arguments of a call that waits, `data.get("tool_args") or {}`, loaded from what was stored. -/
def reload (arguments : Dict) : Option Dict :=
  match rt.json.loads (rt.json.dumps (pendingContent call arguments)) with
  | .value (.obj data) =>
    match Dict.get data "tool_args" with
    | .obj arguments => some arguments
    | _ => none
  | _ => none

/-- How a call that waits is resolved. -/
structure Resolution where
  approved : Bool
  inMemory : Bool

/-- The arguments of a call that waits, when it is resolved: loaded again if they are not in memory any more. -/
def pendingArguments (resolution : Resolution) (arguments : Dict) : Option Dict :=
  if resolution.inMemory then some arguments else reload rt call arguments

/-- **What the code of the skill gets** in the end: at once, or after an approval. -/
def received (resolution : Resolution) : Option Dict :=
  match handle rt call with
  | .executed arguments => some arguments
  | .waits arguments =>
    if resolution.approved then
      (pendingArguments rt call resolution arguments).bind fun arguments =>
        (executeCall rt call.skill arguments).arguments
    else none
  | _ => none

/-! ## The call that was requested -/

/-- Arguments pass the validator of the skill. -/
def passes (arguments : Dict) : Bool :=
  call.skill.any fun row => decide (Valid rt.re arguments (row.parameters rt.py))

/-- A call that is executed if its arguments are valid: the skill is available, and no approval is missing. -/
def admitted (resolution : Resolution) (arguments : Dict) : Bool :=
  available call.skill && (! asks rt call arguments || resolution.approved)

/-- **The tool that is executed is the one that was requested**: arguments that are no object give an error,
and an object is what the code gets, just if it is valid. A tool that is not active gives an error in any
case. -/
def AsRequested (resolution : Resolution) : Prop :=
  match rt.json.loads call.text with
  | .value (.obj arguments) =>
    if call.toolName ∉ call.activeTools then handle rt call = .failed
    else if call.toolName ∈ kbToolNames then
      handle rt call = .executed arguments ∨ handle rt call = .failed
    else
      handle rt call ≠ .aborted ∧ received rt call resolution =
        if admitted rt call resolution arguments && passes rt call arguments then some arguments else none
  | _ => handle rt call = .failed

/-- The time limit of the skill, or that of the call, lets the code start. -/
def started (arguments : Dict) : Bool := call.skill.any fun row => startsWithin rt row arguments

/-- **When that is so.** -/
def Unspoiled (resolution : Resolution) : Prop :=
  match rt.json.loads call.text with
  | .value (.obj arguments) =>
    call.toolName ∈ call.activeTools → call.toolName ∉ kbToolNames →
      admitted rt call resolution arguments = true →
        if arguments.any (·.1 = "timeout") then
          passes rt call arguments = false ∧
            ¬ (started rt call arguments = true ∧ passes rt call (withoutTimeout arguments) = true)
        else passes rt call arguments = true → started rt call arguments = true
  | .value _ => call.toolName ∉ call.activeTools ∨ call.toolName = "list_documents"
  | .decodeError =>
    call.toolName ∉ call.activeTools ∨ call.toolName = "read_document" ∨
      call.toolName ∉ kbToolNames ∧ asks rt call [] = false ∧
        ¬ (available call.skill = true ∧ started rt call [] = true ∧ passes rt call [] = true)
  | .otherError => False

variable {rt} {call} {resolution : Resolution} {arguments : Dict}

theorem executeCall_eq :
    executeCall rt call.skill arguments =
      if available call.skill && started rt call arguments && passes rt call (withoutTimeout arguments) then
        .executed (withoutTimeout arguments)
      else .failed := by
  unfold executeCall started passes
  cases call.skill <;> simp [available]

theorem withoutTimeout_eq_self (h : arguments.any (·.1 = "timeout") = false) :
    withoutTimeout arguments = arguments := by
  rw [withoutTimeout, List.filter_eq_self]
  intro entry hentry
  simpa using List.any_eq_false.mp h entry hentry

theorem withoutTimeout_ne_self (h : arguments.any (·.1 = "timeout") = true) :
    withoutTimeout arguments ≠ arguments := by
  rw [withoutTimeout, Ne, List.filter_eq_self]
  intro hall
  obtain ⟨entry, hentry, hname⟩ := List.any_eq_true.mp h
  simpa [of_decide_eq_true hname] using hall entry hentry

/-- What was stored of a call that waits is loaded again. -/
theorem pendingArguments_eq
    (hstored : rt.json.loads (rt.json.dumps (pendingContent call arguments)) =
      .value (pendingContent call arguments)) :
    pendingArguments rt call resolution arguments = some arguments := by
  rw [pendingArguments]
  split
  · rfl
  · rw [reload, hstored]
    rfl

/-- **What the code gets** of an object: the object without a time limit. -/
theorem received_eq (hload : rt.json.loads call.text = .value (.obj arguments))
    (hactive : call.toolName ∈ call.activeTools) (hkb : call.toolName ∉ kbToolNames)
    (hstored : rt.json.loads (rt.json.dumps (pendingContent call arguments)) =
      .value (pendingContent call arguments)) :
    received rt call resolution =
      if admitted rt call resolution arguments && started rt call arguments &&
          passes rt call (withoutTimeout arguments) then some (withoutTimeout arguments)
      else none := by
  have hhandle : handle rt call =
      if asks rt call arguments then .waits arguments else executeCall rt call.skill arguments := by
    rw [handle, hload]
    simp only [proceed, hactive, hkb, not_true_eq_false, ↓reduceIte]
  rw [received, hhandle, admitted]
  cases hasks : asks rt call arguments with
  | true =>
    cases hresolved : resolution.approved with
    | true =>
      simp only [↓reduceIte, pendingArguments_eq hstored, Option.bind_some, executeCall_eq, Bool.not_true,
        Bool.or_true, Bool.and_true]
      split <;> rfl
    | false => simp
  | false =>
    simp only [Bool.false_eq_true, ↓reduceIte, executeCall_eq, Bool.not_false, Bool.true_or, Bool.and_true]
    cases available call.skill && started rt call arguments && passes rt call (withoutTimeout arguments) <;> rfl

/-- A call of a skill with an object is not aborted. -/
theorem handle_ne_aborted (hload : rt.json.loads call.text = .value (.obj arguments))
    (hkb : call.toolName ∉ kbToolNames) : handle rt call ≠ .aborted := by
  rw [handle, hload]
  simp only [proceed, hkb, ↓reduceIte, executeCall_eq]
  split
  · exact Outcome.noConfusion
  · split
    · exact Outcome.noConfusion
    · split <;> exact Outcome.noConfusion

/-- When an empty object gives an error. -/
theorem proceed_nil_eq_failed_iff :
    proceed rt call (.obj []) = .failed ↔
      call.toolName ∉ call.activeTools ∨ call.toolName = "read_document" ∨
        call.toolName ∉ kbToolNames ∧ asks rt call [] = false ∧
          ¬ (available call.skill = true ∧ started rt call [] = true ∧ passes rt call [] = true) := by
  rw [proceed]
  by_cases hactive : call.toolName ∈ call.activeTools
  · by_cases hkb : call.toolName ∈ kbToolNames
    · by_cases hread : call.toolName = "read_document"
      · rw [hread] at hactive hkb ⊢
        simp [hactive, hkb, executeKbTool, Dict.get, Json.truthy]
      · simp [hactive, hkb, hread, executeKbTool]
    · have hread : call.toolName ≠ "read_document" := fun h => hkb (by rw [h]; decide)
      have hnil : withoutTimeout [] = [] := rfl
      cases asks rt call [] with
      | true => simp [hactive, hkb, hread]
      | false => simp [hactive, hkb, hread, executeCall_eq, hnil, and_assoc]
  · simp [hactive]

/-- When an array or a scalar gives an error. -/
theorem proceed_eq_failed_iff {value : Json} (hvalue : ∀ fields, value ≠ .obj fields) :
    proceed rt call value = .failed ↔ call.toolName ∉ call.activeTools ∨ call.toolName = "list_documents" := by
  unfold proceed
  by_cases hactive : call.toolName ∈ call.activeTools
  · by_cases hkb : call.toolName ∈ kbToolNames
    · have hname : call.toolName = "list_documents" ∨ call.toolName = "read_document" := by
        simpa [kbToolNames] using hkb
      obtain h | h := hname <;> cases value <;> simp_all [executeKbTool]
    · have hlist : call.toolName ≠ "list_documents" := fun h => hkb (by rw [h]; decide)
      cases value <;> simp_all
  · simp [hactive]

/-- **A tool call is executed as it was requested** just under that condition. -/
theorem asRequested_iff
    (hstored : ∀ arguments, rt.json.loads call.text = .value (.obj arguments) →
      rt.json.loads (rt.json.dumps (pendingContent call arguments)) = .value (pendingContent call arguments)) :
    AsRequested rt call resolution ↔ Unspoiled rt call resolution := by
  unfold AsRequested Unspoiled
  cases hload : rt.json.loads call.text with
  | otherError => simp [handle, hload]
  | decodeError =>
    simp only [handle, hload]
    exact proceed_nil_eq_failed_iff
  | value value =>
    cases value with
    | obj arguments =>
      by_cases hactive : call.toolName ∈ call.activeTools
      · by_cases hkb : call.toolName ∈ kbToolNames
        · simp only [handle, hload, proceed, hactive, hkb, not_true_eq_false, ↓reduceIte, executeKbTool,
            IsEmpty.forall_iff, implies_true, iff_true]
          split
          · exact .inr rfl
          · exact .inl rfl
        · have hneAborted := handle_ne_aborted hload hkb
          simp only [hactive, hkb, not_true_eq_false, not_false_eq_true, ↓reduceIte, true_and,
            forall_const, received_eq hload hactive hkb (hstored arguments hload), ne_eq, hneAborted]
          cases admitted rt call resolution arguments with
          | false => simp
          | true =>
            cases htimeout : arguments.any (·.1 = "timeout") with
            | false =>
              rw [withoutTimeout_eq_self htimeout]
              cases started rt call arguments <;> cases passes rt call arguments <;> simp
            | true =>
              have hne := withoutTimeout_ne_self htimeout
              cases started rt call arguments <;> cases passes rt call arguments <;>
                cases passes rt call (withoutTimeout arguments) <;> simp [hne]
      · simp [handle, hload, proceed, hactive]
    | null | bool _ | int _ | float _ | str _ | arr _ =>
      simp only [handle, hload]
      exact proceed_eq_failed_iff (by simp)

/-! ## A skill without parameters -/

/-- A row of an enabled built-in skill without parameters. -/
def noParameters : Row where
  id := .text "list_datasource".toList
  isBuiltin := true
  columns := [("is_enabled", .bool true), ("parameters", .arr [])]

/-- An empty object and one stored value, as `json` reads and writes them. -/
def sampleJson (pending : Json) : JsonModule where
  loads text :=
    if text = "{}".toList then .value (.obj [])
    else if text = pending.dumps (fun _ => []) then .value pending
    else .decodeError
  dumps value := value.dumps fun _ => []

/-- A call of the skill. -/
def listDatasource (text : String) : ToolCall where
  toolName := "list_datasource"
  text := text.toList
  activeTools := ["list_datasource"]
  skipApproval := false
  permissions := []
  english := false
  client := none
  skill := some noParameters

/-- The skills with these texts. -/
def sampleRuntime : Runtime where
  env := {
    encrypt := id
    readsInt := fun _ => false
    accepts := fun _ _ => true
    parameterOk := fun _ => true
    validateCode := fun _ => true
    templateConfig := fun _ => .null }
  py := ⟨fun _ => none, fun _ => none, fun _ => none⟩
  re := ⟨fun _ _ => false, fun _ _ => false⟩
  json := sampleJson (pendingContent (listDatasource "{}") [])
  u := Unicode.asciiOnly
  repr := fun _ => []

theorem sampleRuntime_loads (text : Text) : sampleRuntime.json.loads text =
    if text = "{}".toList then .value (.obj [])
    else if text = (pendingContent (listDatasource "{}") []).dumps fun _ => [] then
      .value (pendingContent (listDatasource "{}") [])
    else .decodeError := rfl

theorem emptyObject_asRequested : AsRequested sampleRuntime (listDatasource "{}") ⟨true, false⟩ := by
  have hload : sampleRuntime.json.loads (listDatasource "{}").text = .value (.obj []) := by
    rw [sampleRuntime_loads]
    exact if_pos rfl
  refine (asRequested_iff fun arguments h => ?_).mpr ?_
  · obtain rfl : [] = arguments := Json.obj.inj (Loaded.value.inj (hload.symm.trans h))
    rw [sampleRuntime_loads, if_neg (by decide)]
    exact if_pos rfl
  · rw [Unspoiled, hload]
    exact fun _ _ _ _ => rfl

/-- An object that was cut off is executed as an empty one. -/
theorem truncated_not_asRequested : ¬ AsRequested sampleRuntime (listDatasource "\x7b") ⟨true, false⟩ := by
  have hload : sampleRuntime.json.loads (listDatasource "\x7b").text = .decodeError := by
    rw [sampleRuntime_loads, if_neg (by decide), if_neg (by decide)]
  rw [AsRequested, handle, hload]
  show ¬ proceed sampleRuntime (listDatasource "\x7b") (.obj []) = .failed
  rw [proceed_nil_eq_failed_iff]
  decide

end ToolCalls

end DBClaw.Skills
