import DBClaw.Library.Runs
import DBClaw.Library.Json
import Mathlib

/-! # Tool approvals: storing a request and resolving it
The approval part of `chat_orchestration_service`: a request is kept twice, in the process-wide
dictionary `PENDING_APPROVALS` and as an `approval_request` row of the chat history, and
`resolve_pending_approval` looks it up in the first and then in the second. The coroutines are
modelled by a step function: one label runs one coroutine from the await it stands at to its next
one, so that a sequence of labels is an interleaving of the awaits. The dictionary of one session is
an object of its own that a coroutine may go on holding after `PENDING_APPROVALS` has dropped it;
`State.dicts` is the heap of these objects. -/

namespace DBClaw.Approvals

abbrev SessionId := ℕ
abbrev UserId := ℕ

/-! ## Stored messages -/

/-- `ChatMessage.role`, as far as approvals use it. -/
inductive Role
  | user | assistant | toolCall | toolResult | approvalRequest | approvalResponse
  deriving DecidableEq, Repr

/-- A row of `chat_message`. -/
structure ChatMessage where
  sessionId : SessionId
  role : Role
  content : Text
  createdAt : ℕ
  isDeleted : Bool := false
  deriving Repr

/-- The `approval_request` event that `_store_approval_request` receives; `fields` are the optional
keys it reads with `event.get`. -/
structure ApprovalEvent where
  approvalId : Text
  toolName : Json
  toolArgs : Json
  fields : Dict := []
  deriving Inhabited, Repr

/-- A pending approval, the dictionary that `_store_approval_request` and
`_load_pending_approval_from_db` build, reduced to the keys that resolving it reads. -/
structure Pending where
  approvalId : Text
  runId : Json
  toolName : Json
  toolArgs : Json
  toolCallId : Json
  reasoningContent : Json
  userId : Option UserId
  riskLevel : Json
  riskReason : Json
  deriving Inhabited, Repr

/-- `action` of a resolution. -/
inductive Action
  | approved | rejected
  deriving DecidableEq, Repr

/-- `action` as the text that is stored. -/
def Action.text : Action → Text
  | .approved => "approved".toList
  | .rejected => "rejected".toList

/-- The arguments of one `resolve_pending_approval` call. -/
structure Call where
  sessionId : SessionId
  approvalId : Text
  action : Action
  comment : Json := .null
  userId : Option UserId
  deriving Repr

/-- `_approval_command` of the Weixin and the DingTalk bot: the action and the approval id that a
chat message asks for. -/
def approvalCommand (text : Text) : Option (Action × Text) :=
  match Text.splitOnce (Text.strip text) with
  | [actionText, approvalId] =>
    if actionText ∈ ["批准".toList, "同意".toList, "approve".toList] then
      some (.approved, Text.strip approvalId)
    else if actionText ∈ ["拒绝".toList, "驳回".toList, "reject".toList] then
      some (.rejected, Text.strip approvalId)
    else none
  | _ => none

/-! ## The two representations of a request -/

/-- The entry that `_store_approval_request` puts into `PENDING_APPROVALS`. -/
def pendingOfEvent (event : ApprovalEvent) (userId : Option UserId) : Pending where
  approvalId := event.approvalId
  runId := event.fields.get "run_id"
  toolName := event.toolName
  toolArgs := event.toolArgs
  toolCallId := event.fields.get "tool_call_id"
  reasoningContent := event.fields.get "reasoning_content"
  userId := userId
  riskLevel := event.fields.getD "risk_level" (.str "high".toList)
  riskReason := event.fields.get "risk_reason"

/-- The content of the row that `_store_approval_request` adds to the history. -/
def requestContent (event : ApprovalEvent) (historyWindowHours locale : Json) : Json :=
  .obj [
    ("approval_id", .str event.approvalId),
    ("tool_name", event.toolName),
    ("tool_args", event.toolArgs),
    ("tool_call_id", event.fields.get "tool_call_id"),
    ("reasoning_content", event.fields.get "reasoning_content"),
    ("summary", event.fields.get "summary"),
    ("plan_markdown", event.fields.get "plan_markdown"),
    ("history_window_hours", historyWindowHours),
    ("locale", locale),
    ("risk_level", event.fields.getD "risk_level" (.str "high".toList)),
    ("risk_reason", event.fields.get "risk_reason"),
    ("suppressible", event.fields.getD "suppressible" (.bool false)),
    ("confirmation_key", event.fields.get "confirmation_key"),
    ("status", .str "pending".toList),
    ("action_run_id", event.fields.get "action_run_id"),
    ("recommendation_id", event.fields.get "recommendation_id"),
    ("action_title", event.fields.get "action_title"),
    ("phase", event.fields.get "phase"),
    ("run_id", event.fields.get "run_id")]

/-- The row that the query of `_load_pending_approval_from_db` matches: a live request of the
session whose serialised content is `LIKE '%approval_id%'`. -/
def matchesRequest (sessionId : SessionId) (approvalId : Text) (m : ChatMessage) : Bool :=
  ! m.isDeleted && m.sessionId == sessionId && m.role == .approvalRequest &&
    Text.contains m.content approvalId

/-- The first row of that query, in descending order of `created_at`. -/
def findRequest (messages : List ChatMessage) (sessionId : SessionId) (approvalId : Text) :
    Option ChatMessage :=
  (messages.filter (matchesRequest sessionId approvalId)).argmax ChatMessage.createdAt

/-- `data.get("status") not in {None, "pending"}`, negated. -/
def statusIsPending : Json → Bool
  | .null => true
  | .str s => s == "pending".toList
  | _ => false

/-- The pending approval that `_load_pending_approval_from_db` reads off a stored request, under the
id and the user of the call. -/
def pendingOfData (data : Dict) (approvalId : Text) (userId : Option UserId) : Pending where
  approvalId := approvalId
  runId := data.get "run_id"
  toolName := data.get "tool_name"
  toolArgs := (data.get "tool_args").or (.obj [])
  toolCallId := data.get "tool_call_id"
  reasoningContent := data.get "reasoning_content"
  userId := userId
  riskLevel := data.getD "risk_level" (.str "high".toList)
  riskReason := data.get "risk_reason"

/-- What `_load_pending_approval_from_db` makes of the row it found: nothing when the row does not
parse or its status is another one than pending. -/
def pendingOfRow (codec : JsonCodec) (row : ChatMessage) (approvalId : Text)
    (userId : Option UserId) : Option Pending :=
  match codec.loads row.content with
  | some (.obj data) =>
    if statusIsPending (Dict.get data "status") then some (pendingOfData data approvalId userId)
    else none
  | _ => none

/-- The rows that `_load_pending_approval_from_db` accepts, and what it makes of them. -/
theorem pendingOfRow_eq_some {codec : JsonCodec} {row : ChatMessage} {approvalId : Text}
    {userId : Option UserId} {pending : Pending} :
    pendingOfRow codec row approvalId userId = some pending ↔
      ∃ data, codec.loads row.content = some (.obj data) ∧
        statusIsPending (Dict.get data "status") = true ∧
        pendingOfData data approvalId userId = pending := by
  unfold pendingOfRow
  split
  · rename_i data hdata
    by_cases hstatus : statusIsPending (Dict.get data "status") = true
    · simp [hdata, hstatus]
    · simp [hdata, hstatus]
  · rename_i hother
    exact ⟨(by intro h; cases h), fun ⟨data, hdata, _⟩ => absurd hdata (hother data)⟩

/-- The content of the `approval_response` row. -/
def responseContent (call : Call) (pending : Pending) : Json :=
  .obj [
    ("approval_id", .str call.approvalId),
    ("action", .str call.action.text),
    ("comment", call.comment),
    ("status", .str call.action.text),
    ("risk_level", pending.riskLevel),
    ("risk_reason", pending.riskReason)]

/-- The content of the `tool_call` row (`_store_tool_call`). -/
def toolCallContent (pending : Pending) : Json :=
  .obj [
    ("tool_name", pending.toolName),
    ("tool_args", pending.toolArgs),
    ("tool_call_id", pending.toolCallId),
    ("reasoning_content", pending.reasoningContent)]

/-! ## States -/

/-- Where a `resolve_pending_approval` call stands: the await it is suspended at, with the locals it
has computed. `dict` is the dictionary `session_pending` that the call holds. -/
inductive Stage
  /-- Called, and not yet run. -/
  | lookup
  /-- Waits for the query of the `approval_request` rows. -/
  | queryRow
  /-- Has a pending row and waits for the query of the session. -/
  | querySession (pending : Pending)
  /-- Past the lookup; waits for the commit of the `approval_response` row. -/
  | commitResponse (dict : ℕ) (pending : Pending)
  /-- Waits for `_apply_assistant_event_to_run` and the `confirmation_resolved` event. -/
  | emitResolved (dict : ℕ) (pending : Pending)
  /-- Approved; waits for the commit of the `tool_call` row. -/
  | commitToolCall (pending : Pending)
  /-- Waits for the `tool_call` event, after which the tool is started. -/
  | emitToolCall (pending : Pending)
  /-- The tool runs; waits for `execute_skill_call`. -/
  | executeSkill (pending : Pending)
  /-- Waits for the commit of the `tool_result` row and the rest of the run. -/
  | commitToolResult (pending : Pending) (result : Json)
  deriving Inhabited

/-- The dictionary of one session's pending approvals, with the session it was created for. -/
structure SessionPending where
  sessionId : SessionId := 0
  entries : AList fun _ : Text => Pending := ∅

/-- A call that got past the lookup: its number, its arguments and what it found. -/
structure Pass where
  index : ℕ
  call : Call
  pending : Pending

/-- A tool that a call started, with the arguments it was given. -/
structure Execution where
  index : ℕ
  call : Call
  toolName : Json
  toolArgs : Dict

/-- A request that `_store_approval_request` was called with. -/
structure Request where
  sessionId : SessionId
  event : ApprovalEvent
  deriving Inhabited

/-- The state: the dictionaries and `PENDING_APPROVALS`, the committed rows, the rows of
`_store_approval_request` calls that wait for their commit, the running calls, and the history of
requests, passed lookups and executions. -/
structure State where
  dicts : ℕ → SessionPending := fun _ => {}
  nextDict : ℕ := 0
  pendingApprovals : SessionId → Option ℕ := fun _ => none
  messages : List ChatMessage := []
  stores : List ChatMessage := []
  calls : ℕ → Option (Call × Stage) := fun _ => none
  nextCall : ℕ := 0
  requested : List Request := []
  passed : List Pass := []
  executed : List Execution := []
  deriving Inhabited

namespace State

/-- `pending_approvals.setdefault(session_id, {})`: the session's dictionary, created when there is
none. -/
def setdefault (s : State) (sessionId : SessionId) : ℕ × State :=
  match s.pendingApprovals sessionId with
  | some d => (d, s)
  | none =>
    (s.nextDict, { s with
      dicts := Function.update s.dicts s.nextDict { sessionId := sessionId }
      nextDict := s.nextDict + 1
      pendingApprovals := Function.update s.pendingApprovals sessionId (some s.nextDict) })

/-- `dict[approval_id] = pending`. -/
def setEntry (s : State) (d : ℕ) (approvalId : Text) (pending : Pending) : State :=
  { s with
    dicts := Function.update s.dicts d
      { s.dicts d with entries := (s.dicts d).entries.insert approvalId pending } }

/-- `session_pending.pop(approval_id, None)`, after which an emptied dictionary makes the session
disappear from the map, whichever dictionary the map holds for it by then. -/
def popEntry (s : State) (d : ℕ) (sessionId : SessionId) (approvalId : Text) : State :=
  let entries := (s.dicts d).entries.erase approvalId
  { s with
    dicts := Function.update s.dicts d { s.dicts d with entries := entries }
    pendingApprovals :=
      if entries.entries.isEmpty then Function.update s.pendingApprovals sessionId none
      else s.pendingApprovals }

/-- Suspend call `i` at `stage`. -/
def suspend (s : State) (i : ℕ) (call : Call) (stage : Stage) : State :=
  { s with calls := Function.update s.calls i (some (call, stage)) }

/-- Call `i` returns or raises. -/
def finish (s : State) (i : ℕ) : State := { s with calls := Function.update s.calls i none }

/-- A row is committed. -/
def commit (s : State) (m : ChatMessage) : State := { s with messages := s.messages ++ [m] }

/-- The call has got past the lookup with `pending`. -/
def logPass (s : State) (i : ℕ) (call : Call) (pending : Pending) : State :=
  { s with passed := s.passed ++ [⟨i, call, pending⟩] }

/-- A tool is started. -/
def logExecution (s : State) (x : Execution) : State := { s with executed := s.executed ++ [x] }

end State

/-! ## Steps -/

/-- What can happen next. -/
inductive Label
  /-- The part of `_store_approval_request` before its commit. -/
  | store (sessionId : SessionId) (event : ApprovalEvent) (userId : Option UserId)
      (historyWindowHours locale : Json)
  /-- The commit of the `k`-th uncommitted `approval_request` row. -/
  | commitStore (k : ℕ) (createdAt : ℕ)
  /-- The commit of the `k`-th uncommitted `approval_request` row fails. -/
  | abortStore (k : ℕ)
  /-- `resolve_pending_approval` is called. -/
  | call (call : Call)
  /-- Call `i` runs to its next await; `result` is what the await at hand returned. -/
  | resume (i : ℕ) (createdAt : ℕ) (result : Json)
  /-- Call `i` ends by an exception or a cancellation at its await. -/
  | cancel (i : ℕ)
  /-- `clear_session_messages` (or the deletion of the session). -/
  | clear (sessionId : SessionId)
  /-- The process is restarted. -/
  | restart

/-- The rows of a session are soft deleted. -/
def softDelete (sessionId : SessionId) (messages : List ChatMessage) : List ChatMessage :=
  messages.map fun m => if m.sessionId = sessionId then { m with isDeleted := true } else m

/-- `_store_approval_request` up to its commit. -/
def storeApprovalRequest (codec : JsonCodec) (s : State) (sessionId : SessionId)
    (event : ApprovalEvent) (userId : Option UserId) (historyWindowHours locale : Json) : State :=
  let (d, s₁) := s.setdefault sessionId
  let s₂ := s₁.setEntry d event.approvalId (pendingOfEvent event userId)
  let row : ChatMessage := {
    sessionId := sessionId
    role := .approvalRequest
    content := codec.dumps (requestContent event historyWindowHours locale)
    createdAt := 0 }
  { s₂ with
    stores := s₂.stores ++ [row]
    requested := s₂.requested ++ [⟨sessionId, event⟩] }

/-- The entry of the session's dictionary that the first lookup of a call finds. -/
def memoryEntry (s : State) (call : Call) : Option (ℕ × Pending) :=
  (s.pendingApprovals call.sessionId).bind fun d =>
    ((s.dicts d).entries.lookup call.approvalId).map fun p => (d, p)

/-- **`resolve_pending_approval`**, one await at a time: call `i` runs from the await `stage` to the
next one. -/
def resolvePendingApproval (codec : JsonCodec) (s : State) (i : ℕ) (call : Call)
    (createdAt : ℕ) (result : Json) : Stage → State
  | .lookup =>
    match memoryEntry s call with
    | some (d, pending) =>
      if pending.userId ≠ call.userId then s.finish i
      else (s.logPass i call pending).suspend i call (.commitResponse d pending)
    | none => s.suspend i call .queryRow
  | .queryRow =>
    match (findRequest s.messages call.sessionId call.approvalId).bind fun row =>
        pendingOfRow codec row call.approvalId call.userId with
    | some pending => s.suspend i call (.querySession pending)
    | none => s.finish i
  | .querySession pending =>
    let (d, s₁) := s.setdefault call.sessionId
    let s₂ := s₁.setEntry d call.approvalId pending
    if pending.userId ≠ call.userId then s₂.finish i
    else (s₂.logPass i call pending).suspend i call (.commitResponse d pending)
  | .commitResponse d pending =>
    (s.commit {
      sessionId := call.sessionId
      role := .approvalResponse
      content := codec.dumps (responseContent call pending)
      createdAt := createdAt }).suspend i call (.emitResolved d pending)
  | .emitResolved d pending =>
    let s₁ := s.popEntry d call.sessionId call.approvalId
    match call.action with
    | .rejected => s₁.finish i
    | .approved => s₁.suspend i call (.commitToolCall pending)
  | .commitToolCall pending =>
    (s.commit {
      sessionId := call.sessionId
      role := .toolCall
      content := codec.dumps (toolCallContent pending)
      createdAt := createdAt }).suspend i call (.emitToolCall pending)
  | .emitToolCall pending =>
    match pending.toolArgs with
    | .obj args =>
      (s.logExecution ⟨i, call, pending.toolName, args⟩).suspend i call (.executeSkill pending)
    | _ => s.finish i
  | .executeSkill pending => s.suspend i call (.commitToolResult pending result)
  | .commitToolResult pending result =>
    (s.commit {
      sessionId := call.sessionId
      role := .toolResult
      content := codec.dumps (.obj [("tool_name", pending.toolName), ("result", result)])
      createdAt := createdAt }).finish i

/-- **One step of the system.** -/
def step (codec : JsonCodec) (s : State) : Label → Option State
  | .store sessionId event userId historyWindowHours locale =>
    some (storeApprovalRequest codec s sessionId event userId historyWindowHours locale)
  | .commitStore k createdAt =>
    s.stores[k]?.map fun m =>
      State.commit { s with stores := s.stores.eraseIdx k } { m with createdAt := createdAt }
  | .abortStore k => some { s with stores := s.stores.eraseIdx k }
  | .call call =>
    some (State.suspend { s with nextCall := s.nextCall + 1 } s.nextCall call .lookup)
  | .resume i createdAt result =>
    (s.calls i).map fun c => resolvePendingApproval codec s i c.1 createdAt result c.2
  | .cancel i => some (s.finish i)
  | .clear sessionId =>
    some { s with
      messages := softDelete sessionId s.messages
      pendingApprovals := Function.update s.pendingApprovals sessionId none }
  | .restart =>
    some { s with
      pendingApprovals := fun _ => none
      stores := []
      calls := fun _ => none }

/-! ## A stored request -/

/-- The id of a stored request. -/
def dropTableId : Text := "approval_9b2f6c1de84a4d0f8a7c35e1b60d92f4".toList

/-- A request to run a statement. -/
def dropTable : ApprovalEvent where
  approvalId := dropTableId
  toolName := .str "execute_any_sql".toList
  toolArgs := .obj [("sql", .str "DROP TABLE t".toList)]

/-- Python's `json` on the stored form of that request. -/
def dropTableCodec : JsonCodec where
  dumps := Json.dumps fun _ => []
  loads text :=
    let content := requestContent dropTable .null (.str "zh-CN".toList)
    if text = Json.dumps (fun _ => []) content then some content else none

/-- The call that resolves it. -/
def resolveDropTable (action : Action) : Call where
  sessionId := 1
  approvalId := dropTableId
  action := action
  userId := some 5

/-- The request is stored. -/
def storeDropTable : List Label :=
  [.store 1 dropTable (some 5) .null (.str "zh-CN".toList), .commitStore 0 1]

end DBClaw.Approvals
