import DBClaw.Chat.Segments
import DBClaw.Library.Runs
import Mathlib.Algebra.Group.Defs
import Mathlib.Logic.Function.Basic

/-! # A chat session
The turns of a session run as tasks. A task streams the events of the model through
`process_stream_events`, which keeps the response, the segments, the usage and the sequence number of the
events in its locals and writes them to the tables of the session now and then; at a risky call it stops for
an approval, and `resolve_pending_approval` is another task, which runs the call and streams on under the
same run id. For the browser, the router keeps a state of its own from what is emitted. -/

namespace DBClaw.Chat

open Upserts Runs

/-! ## Usage -/

/-- The counts of tokens. -/
@[ext] structure Usage where
  inputTokens : ℕ
  outputTokens : ℕ
  totalTokens : ℕ
  deriving DecidableEq, Repr

instance : Zero Usage := ⟨⟨0, 0, 0⟩⟩

instance : Add Usage where
  add u v := ⟨u.inputTokens + v.inputTokens, u.outputTokens + v.outputTokens, u.totalTokens + v.totalTokens⟩

/-! ## Events of the model -/

/-- What `run_conversation_with_skills` yields. -/
inductive AgentEvent
  | content (content : Text)
  | toolCall (toolCallId toolName : Text) (toolArgs : Option Json)
  | toolResult (toolCallId toolName result : Text) (executionTimeMs skillExecutionId visualization : Option Json)
  | approvalRequest (approvalId toolCallId toolName : Text) (toolArgs : Option Json) (summary : Text)
      (riskLevel riskReason : Option Json)
  | usage (usage : Usage)
  | error
  | other (type : String)

/-- `TRACKED_DIAGNOSIS_EVENTS`, as far as they are yielded and are not of the kinds above. -/
def trackedTypes : List String := [
  "thinking_phase", "thinking_complete", "diagnosis_state", "plan_created", "knowledge_plan_created",
  "knowledge_unit_activated", "knowledge_replanned", "plan_step_status", "kb_document_selected",
  "kb_document_read"]

/-- The event is stored as a diagnosis event. -/
def AgentEvent.isTracked : AgentEvent → Bool
  | .toolCall .. | .toolResult .. | .approvalRequest .. => true
  | .other type => type ∈ trackedTypes
  | .content _ | .usage _ | .error => false

/-- What it says to the segments. -/
def AgentEvent.body : AgentEvent → Body
  | .content text => .content (some text)
  | .toolCall toolCallId toolName toolArgs => .toolCall (some toolCallId) (some toolName) toolArgs {}
  | .toolResult toolCallId toolName result executionTimeMs skillExecutionId visualization =>
    .toolResult (some toolCallId) (some toolName) (some (.str result)) executionTimeMs skillExecutionId {}
      visualization
  | .approvalRequest approvalId toolCallId toolName toolArgs summary riskLevel riskReason =>
    .approvalRequest (some toolCallId) (some toolName) toolArgs (some summary) {} (some (.str approvalId))
      riskLevel riskReason
  | .usage _ => .other "usage"
  | .error => .other "error"
  | .other type => .other type

/-! ## Tables -/

/-- The second in the run id of a turn. -/
abbrev RunId := ℕ

/-- `status` of a message of the assistant. -/
inductive AssistantStatus
  | complete | awaitingApproval | cancelled | error | partialResponse
  deriving DecidableEq, Repr

/-- A row of `chat_message` of the assistant. -/
structure AssistantMessage where
  runId : RunId
  content : Text := []
  renderSegments : List Segment := []
  status : AssistantStatus := .partialResponse
  usage : Usage := 0

/-- A row of `diagnosis_event`, with the turn and the call of `process_stream_events` that wrote it. -/
structure DiagnosisEvent where
  runId : RunId
  sequenceNo : ℕ
  turn : ℕ
  part : ℕ
  deriving DecidableEq, Repr

/-- An approval that has been asked for. -/
structure Pending where
  approvalId : Text
  runId : RunId
  turn : ℕ
  toolCallId : Text
  toolName : Text
  toolArgs : Option Json
  riskLevel : Option Json
  riskReason : Option Json
  locale : Option Text

/-! ## Tasks -/

/-- The locals of `process_stream_events`; an event is in flight between the write to its table and its
emission. -/
structure Stream where
  runId : RunId
  turn : ℕ
  part : ℕ
  locale : Option Text
  fullResponse : Text
  renderSegments : List Segment
  usageTotals : Usage := 0
  sequenceNo : ℕ := 0
  pausedForApproval : Bool := false
  terminal : Bool := false
  inFlight : Option Event := none

/-- Where `resolve_pending_approval` stands. -/
inductive Stage
  | opened | confirmed | called | returned
  deriving DecidableEq, Repr

/-- What a task does. -/
inductive Work
  | streaming (stream : Stream)
  | resolving (pending : Pending) (approved : Bool) (stage : Stage)

/-- A task of the session, started by the router or by a bot. -/
structure Task where
  web : Bool
  work : Work

/-- `ACTIVE_STREAM_STATES[session_id]`. -/
structure StreamState where
  content : Text := []
  renderSegments : List Segment := []

/-- A session: its tables, the tasks by number, `ACTIVE_STREAM_TASKS[session_id]` and the state of the
router; and for the record, every usage event with its run, and the numbers of turns and streams so far. -/
structure State where
  messages : List AssistantMessage := []
  totals : Usage := 0
  rows : List DiagnosisEvent := []
  pendings : List Pending := []
  tasks : ℕ → Option Task := fun _ => none
  activeTask : Option ℕ := none
  live : Option StreamState := none
  usages : List (RunId × Usage) := []
  turns : ℕ := 0
  parts : ℕ := 0

variable (python : Python)

/-! ## The router's state -/

/-- **`_update_stream_state`**, as far as content and segments. -/
def updateStreamState (state : StreamState) (event : Event) : StreamState :=
  match event.body with
  | .content content =>
    { content := state.content ++ content.getD []
      renderSegments := applyRenderSegmentsEvent python none state.renderSegments event }
  | .toolCall .. | .toolResult .. | .approvalRequest .. =>
    { state with renderSegments := applyRenderSegmentsEvent python none state.renderSegments event }
  | .confirmationResolved .. | .other _ => state

/-! ## Messages -/

/-- `_load_assistant_message_by_run_id`. -/
def loadAssistantMessageByRunId (messages : List AssistantMessage) (runId : RunId) : Option AssistantMessage :=
  messages.find? (·.runId = runId)

/-- **`_persist_assistant_message`**. -/
def persistAssistantMessage (messages : List AssistantMessage) (runId : RunId) (content : Text)
    (renderSegments : List Segment) (status : AssistantStatus) (usageTotals : Option Usage) :
    List AssistantMessage :=
  let write (m : AssistantMessage) : AssistantMessage :=
    { m with
      content := content
      renderSegments := renderSegments
      status := status
      usage := usageTotals.getD m.usage }
  upsert (some ·.runId) runId write { runId := runId } messages

/-- `_persist_current_assistant`. -/
def persistCurrentAssistant (messages : List AssistantMessage) (stream : Stream) (status : AssistantStatus) :
    List AssistantMessage :=
  if stream.fullResponse = [] ∧ stream.renderSegments.isEmpty then messages
  else
    persistAssistantMessage messages stream.runId stream.fullResponse stream.renderSegments status
      (some stream.usageTotals)

/-- The segments of the message of a run are changed. -/
def updateSegments (messages : List AssistantMessage) (runId : RunId) (f : List Segment → List Segment) :
    List AssistantMessage :=
  match loadAssistantMessageByRunId messages runId with
  | none => messages
  | some m => persistAssistantMessage messages runId m.content (f m.renderSegments) .partialResponse none

/-- **`_apply_assistant_event_to_run`**. -/
def applyAssistantEventToRun (messages : List AssistantMessage) (runId : RunId) (event : Event) :
    List AssistantMessage :=
  updateSegments messages runId fun renderSegments =>
    applyRenderSegmentsEvent python none renderSegments event

/-- The diagnosis event that a stream stores next. -/
def Stream.row (stream : Stream) : DiagnosisEvent :=
  ⟨stream.runId, stream.sequenceNo + 1, stream.turn, stream.part⟩

namespace State

variable (s : State)

/-- `_emit_session_event`, where the task is the router's. -/
def emit (web : Bool) (event : Event) : State :=
  { s with live := if web then s.live.map fun state => updateStreamState python state event else s.live }

/-- A task begins; for the router, with `_start_stream_state`. -/
def openTask (i : ℕ) (task : Task) : State :=
  { s with
    tasks := Function.update s.tasks i (some task)
    activeTask := if task.web then some i else s.activeTask
    live := if task.web then some {} else s.live }

/-- The task goes on. -/
def setTask (i : ℕ) (task : Task) : State := { s with tasks := Function.update s.tasks i (some task) }

/-- The task is over; the router forgets the session's task and state. -/
def closeTask (i : ℕ) (web : Bool) : State :=
  { s with
    tasks := Function.update s.tasks i none
    activeTask := if web then none else s.activeTask
    live := if web then none else s.live }

/-- `_store_diagnosis_event`, where there is something to store. -/
def storeDiagnosisEvent (stream : Stream) (stored : Bool) : State :=
  { s with rows := s.rows ++ if stored then [stream.row] else [] }

/-- `_accumulate_usage`. -/
def accumulateUsage (runId : RunId) (usage : Usage) : State :=
  { s with totals := s.totals + usage, usages := s.usages ++ [(runId, usage)] }

/-- `_persist_current_assistant`. -/
def persistCurrent (stream : Stream) (status : AssistantStatus) : State :=
  { s with messages := persistCurrentAssistant s.messages stream status }

end State

/-! ## Streaming -/

/-- The event as the stream applies and emits it. -/
def Stream.event (stream : Stream) (body : Body) : Event where
  body := body
  locale := (normalizeLocale python stream.locale).map Locale.text

/-- `process_stream_events` starts under a run id, with what is stored under it. -/
def openStream (s : State) (runId : RunId) (turn : ℕ) (locale : Option Text) : Stream :=
  let existing := loadAssistantMessageByRunId s.messages runId
  let content := (existing.map AssistantMessage.content).getD []
  let renderSegments := (existing.map AssistantMessage.renderSegments).getD []
  { runId := runId
    turn := turn
    part := s.parts
    locale := locale
    fullResponse := content
    renderSegments :=
      if content ≠ [] ∧ renderSegments.isEmpty then appendMarkdownRenderSegment [] (some content)
      else renderSegments }

/-- What an event does to the locals. -/
def Stream.receive (stream : Stream) (event : AgentEvent) : Stream :=
  let counted : Stream :=
    { stream with sequenceNo := if event.isTracked then stream.sequenceNo + 1 else stream.sequenceNo }
  let applied : Stream :=
    { counted with
      renderSegments :=
        applyRenderSegmentsEvent python stream.locale stream.renderSegments (stream.event python event.body) }
  match event with
  | .content content => { applied with fullResponse := stream.fullResponse ++ content }
  | .toolCall .. | .toolResult .. => { applied with inFlight := some (stream.event python event.body) }
  | .approvalRequest .. =>
    { applied with pausedForApproval := true, inFlight := some (stream.event python event.body) }
  | .usage usage => { counted with usageTotals := stream.usageTotals + usage }
  | .error => { counted with terminal := true }
  | .other _ => counted

/-- The model yields nothing but the status of its step after a request for approval, and nothing after an
error. -/
def Stream.accepts (stream : Stream) : AgentEvent → Bool
  | .other _ => ! stream.terminal
  | _ => ! stream.pausedForApproval && ! stream.terminal

/-- The approval that an event asks for. -/
def pendingOf (stream : Stream) : AgentEvent → Option Pending
  | .approvalRequest approvalId toolCallId toolName toolArgs _ riskLevel riskReason => some
    { approvalId := approvalId
      runId := stream.runId
      turn := stream.turn
      toolCallId := toolCallId
      toolName := toolName
      toolArgs := toolArgs
      riskLevel := riskLevel
      riskReason := riskReason
      locale := stream.locale }
  | _ => none

/-- One event in the loop of `process_stream_events`, up to its emission or the write to its table. -/
def receive (s : State) (i : ℕ) (web : Bool) (stream : Stream) (event : AgentEvent) : State :=
  let received := stream.receive python event
  let s := s.storeDiagnosisEvent stream event.isTracked
  let s := s.setTask i ⟨web, .streaming received⟩
  match event with
  | .content _ => s.emit python web (stream.event python event.body)
  | .approvalRequest .. =>
    let s := s.persistCurrent received .awaitingApproval
    { s with pendings := s.pendings ++ (pendingOf stream event).toList }
  | .usage usage => s.accumulateUsage stream.runId usage
  | .error => s.persistCurrent received .error
  | .toolCall .. | .toolResult .. | .other _ => s

/-- A note is added to a response that has begun. -/
def Stream.note (stream : Stream) (note : Text) : Stream :=
  if stream.fullResponse = [] then stream
  else
    { stream with
      fullResponse := stream.fullResponse ++ note
      renderSegments := appendMarkdownRenderSegment stream.renderSegments (some note) }

/-- The branch of `TimeoutError`; an event in flight is not emitted any more. -/
def timeOut (s : State) (i : ℕ) (web : Bool) (stream : Stream) (note : Text) : State :=
  let noted := stream.note note
  let s := s.setTask i ⟨web, .streaming { noted with terminal := true, inFlight := none }⟩
  let s := if stream.fullResponse = [] then s else s.emit python web { body := .content (some note) }
  s.persistCurrent noted .partialResponse

/-- The branch of `CancelledError`. -/
def cancel (s : State) (i : ℕ) (web : Bool) (stream : Stream) (note : Text) : State :=
  let noted := stream.note note
  let s := if stream.pausedForApproval then s else s.persistCurrent noted .cancelled
  s.closeTask i web

/-- The response is complete: the stream has neither paused nor failed. -/
def Stream.completes (stream : Stream) : Bool := ! stream.pausedForApproval && ! stream.terminal

/-- The end of `process_stream_events`; a conclusion is stored where there is one. -/
def finish (s : State) (i : ℕ) (web : Bool) (stream : Stream) (conclusion : Bool) : State :=
  let s := if stream.completes then s.persistCurrent stream .complete else s
  let s := s.storeDiagnosisEvent stream (stream.completes && stream.fullResponse ≠ [] && conclusion)
  s.closeTask i web

/-! ## Resolving an approval -/

/-- `confirmation_resolved`. -/
def Pending.resolvedEvent (pending : Pending) (approved : Bool) : Event where
  body := .confirmationResolved (some pending.toolCallId) (some pending.toolName)
    (some (if approved then "approved".toList else "rejected".toList)) (some (.str pending.approvalId)) {}
  locale := pending.locale

/-- `tool_call` of the approved call. -/
def Pending.callEvent (pending : Pending) : Event where
  body := .toolCall (some pending.toolCallId) (some pending.toolName) pending.toolArgs {}
  locale := pending.locale

/-- What a tool returns: `tool_result, execution_time_ms, skill_execution_id, visualization`. -/
structure Outcome where
  result : Text
  executionTimeMs : Option Json := none
  skillExecutionId : Option Json := none
  visualization : Option Json := none

/-- `tool_result` of the approved call. -/
def Pending.resultEvent (pending : Pending) (outcome : Outcome) : Event where
  body := .toolResult (some pending.toolCallId) (some pending.toolName) (some (.str outcome.result))
    outcome.executionTimeMs outcome.skillExecutionId {} outcome.visualization
  locale := pending.locale

/-- What a rejection writes onto the segment, after the event. -/
def Pending.rejection (pending : Pending) : Patch where
  toolCallId := some pending.toolCallId
  toolName := some pending.toolName
  status := some .failed
  args := some pending.toolArgs
  summary := some (some
    (if pending.locale = some "en-US".toList then "Execution rejected by the user".toList
      else "用户已拒绝执行".toList))
  metadata :=
    { approvalId := some (.str pending.approvalId)
      approvalStatus := some "rejected".toList
      riskLevel := pending.riskLevel
      riskReason := pending.riskReason }

/-- One event of `resolve_pending_approval`: it is written to the message of the run and emitted. -/
def State.resolveWith (s : State) (web : Bool) (pending : Pending) (event : Event) : State :=
  { s with messages := applyAssistantEventToRun python s.messages pending.runId event }.emit python web event

/-- The rejection is written to the message of the run. -/
def State.reject (s : State) (pending : Pending) : State :=
  { s with
    messages := updateSegments s.messages pending.runId fun renderSegments =>
      upsertToolRenderSegment renderSegments pending.rejection }

/-- The next stage of `resolve_pending_approval`. -/
def advance (s : State) (i : ℕ) (web : Bool) (pending : Pending) (approved : Bool) (stage : Stage)
    (outcome : Outcome) : State :=
  match stage with
  | .opened =>
    let s := s.resolveWith python web pending (pending.resolvedEvent approved)
    let s := { s with pendings := s.pendings.filter (·.approvalId ≠ pending.approvalId) }
    if approved then s.setTask i ⟨web, .resolving pending approved .confirmed⟩
    else (s.reject pending).closeTask i web
  | .confirmed =>
    (s.resolveWith python web pending pending.callEvent).setTask i ⟨web, .resolving pending approved .called⟩
  | .called =>
    (s.resolveWith python web pending (pending.resultEvent outcome)).setTask i
      ⟨web, .resolving pending approved .returned⟩
  | .returned =>
    let stream := openStream s pending.runId pending.turn pending.locale
    { s with parts := s.parts + 1 }.setTask i ⟨web, .streaming stream⟩

/-! ## What becomes of the task -/

section Tasks

variable {python} {s : State} {i : ℕ} {web : Bool} {stream : Stream}

@[simp] theorem Stream.receive_runId (event : AgentEvent) :
    (stream.receive python event).runId = stream.runId := by
  cases event <;> rfl

@[simp] theorem Stream.receive_turn (event : AgentEvent) :
    (stream.receive python event).turn = stream.turn := by
  cases event <;> rfl

@[simp] theorem Stream.receive_part (event : AgentEvent) :
    (stream.receive python event).part = stream.part := by
  cases event <;> rfl

@[simp] theorem Stream.receive_sequenceNo (event : AgentEvent) :
    (stream.receive python event).sequenceNo =
      if event.isTracked then stream.sequenceNo + 1 else stream.sequenceNo := by
  cases event <;> rfl

/-- What has nothing to say to the segments leaves them as they are. -/
theorem Stream.receive_renderSegments (event : AgentEvent) : (stream.receive python event).renderSegments =
    applyRenderSegmentsEvent python stream.locale stream.renderSegments (stream.event python event.body) := by
  cases event <;> rfl

@[simp] theorem Stream.note_runId (note : Text) : (stream.note note).runId = stream.runId := by
  unfold Stream.note
  split <;> rfl

@[simp] theorem Stream.note_turn (note : Text) : (stream.note note).turn = stream.turn := by
  unfold Stream.note
  split <;> rfl

@[simp] theorem Stream.note_part (note : Text) : (stream.note note).part = stream.part := by
  unfold Stream.note
  split <;> rfl

@[simp] theorem Stream.note_sequenceNo (note : Text) :
    (stream.note note).sequenceNo = stream.sequenceNo := by
  unfold Stream.note
  split <;> rfl

@[simp] theorem receive_tasks (event : AgentEvent) : (receive python s i web stream event).tasks =
    Function.update s.tasks i (some ⟨web, .streaming (stream.receive python event)⟩) := by
  cases event <;> rfl

@[simp] theorem timeOut_tasks (note : Text) : (timeOut python s i web stream note).tasks =
    Function.update s.tasks i
      (some ⟨web, .streaming { stream.note note with terminal := true, inFlight := none }⟩) := by
  simp only [timeOut, State.persistCurrent]
  split <;> rfl

@[simp] theorem cancel_tasks (note : Text) :
    (cancel s i web stream note).tasks = Function.update s.tasks i none := by
  simp only [cancel, State.closeTask]
  split <;> rfl

@[simp] theorem finish_tasks (conclusion : Bool) :
    (finish s i web stream conclusion).tasks = Function.update s.tasks i none := by
  simp only [finish, State.closeTask, State.storeDiagnosisEvent]
  split <;> rfl

@[simp] theorem timeOut_messages (note : Text) : (timeOut python s i web stream note).messages =
    persistCurrentAssistant s.messages (stream.note note) .partialResponse := by
  simp only [timeOut, State.persistCurrent]
  split <;> rfl

@[simp] theorem cancel_messages (note : Text) : (cancel s i web stream note).messages =
    if stream.pausedForApproval then s.messages
    else persistCurrentAssistant s.messages (stream.note note) .cancelled := by
  simp only [cancel, State.closeTask]
  split <;> rfl

@[simp] theorem finish_messages (conclusion : Bool) : (finish s i web stream conclusion).messages =
    if stream.completes then persistCurrentAssistant s.messages stream .complete else s.messages := by
  simp only [finish, State.closeTask, State.storeDiagnosisEvent]
  split <;> rfl

/-- After the last stage the task streams; after a rejection it is over. -/
@[simp] theorem advance_tasks (pending : Pending) (approved : Bool) (stage : Stage) (outcome : Outcome) :
    (advance python s i web pending approved stage outcome).tasks = Function.update s.tasks i
      (match stage, approved with
        | .opened, true => some ⟨web, .resolving pending true .confirmed⟩
        | .opened, false => none
        | .confirmed, _ => some ⟨web, .resolving pending approved .called⟩
        | .called, _ => some ⟨web, .resolving pending approved .returned⟩
        | .returned, _ =>
          some ⟨web, .streaming (openStream s pending.runId pending.turn pending.locale)⟩) := by
  cases stage <;> cases approved <;> rfl

end Tasks

/-! ## What is stored -/

section Stored

variable (messages : List AssistantMessage) (runId : RunId) (content : Text) (renderSegments : List Segment)
  (status : AssistantStatus) (usageTotals : Option Usage)

/-- What is loaded after a message was persisted. -/
theorem load_persist (r : RunId) : loadAssistantMessageByRunId
    (persistAssistantMessage messages runId content renderSegments status usageTotals) r =
      if r = runId then some
        { runId := runId
          content := content
          renderSegments := renderSegments
          status := status
          usage := usageTotals.getD (((loadAssistantMessageByRunId messages runId).map AssistantMessage.usage).getD 0) }
      else loadAssistantMessageByRunId messages r := by
  have hfind := @find?_upsert AssistantMessage RunId _ (some ·.runId) runId
    (fun m => { m with
      content := content
      renderSegments := renderSegments
      status := status
      usage := usageTotals.getD m.usage }) { runId := runId } (fun _ => rfl) rfl messages r
  simp only [Option.some.injEq] at hfind
  simp only [loadAssistantMessageByRunId, persistAssistantMessage, hfind]
  split
  · cases hload : messages.find? (·.runId = runId) with
    | none => rfl
    | some m =>
      have hrun : m.runId = runId := by simpa using List.find?_some hload
      simp [hrun]
  · rfl

end Stored

/-! ## Steps -/

/-- The events of a session. -/
inductive Label
  /-- A user turn starts in this second. -/
  | start (i : ℕ) (second : RunId) (web : Bool) (locale : Option Text)
  /-- The model yields an event. -/
  | receive (i : ℕ) (event : AgentEvent)
  /-- The event in flight is emitted. -/
  | emit (i : ℕ)
  | timeOut (i : ℕ) (note : Text)
  | cancel (i : ℕ) (note : Text)
  | finish (i : ℕ) (conclusion : Bool)
  /-- The approval in this place is resolved. -/
  | resolve (i : ℕ) (k : ℕ) (approved : Bool) (web : Bool)
  | advance (i : ℕ) (outcome : Outcome)

/-- The task that a label is about. -/
def Label.task : Label → ℕ
  | .start i .. | .receive i _ | .emit i | .timeOut i _ | .cancel i _ | .finish i _ | .resolve i .. | .advance i _ => i

/-- A step of the session. -/
def step (s : State) : Label → Option State
  | .start i second web locale =>
    if (s.tasks i).isNone ∧ (web = true → s.activeTask.isNone) then
      let stream := openStream s second s.turns locale
      some ({ s with turns := s.turns + 1, parts := s.parts + 1 }.openTask i ⟨web, .streaming stream⟩)
    else none
  | .receive i event =>
    match s.tasks i with
    | some ⟨web, .streaming stream⟩ =>
      if stream.inFlight.isNone ∧ stream.accepts event then some (receive python s i web stream event) else none
    | _ => none
  | .emit i =>
    match s.tasks i with
    | some ⟨web, .streaming stream⟩ => stream.inFlight.map fun event =>
        (s.setTask i ⟨web, .streaming { stream with inFlight := none }⟩).emit python web event
    | _ => none
  | .timeOut i note =>
    match s.tasks i with
    | some ⟨web, .streaming stream⟩ => some (timeOut python s i web stream note)
    | _ => none
  | .cancel i note =>
    match s.tasks i with
    | some ⟨web, .streaming stream⟩ => some (cancel s i web stream note)
    | some ⟨web, .resolving ..⟩ => some (s.closeTask i web)
    | none => none
  | .finish i conclusion =>
    match s.tasks i with
    | some ⟨web, .streaming stream⟩ =>
      if stream.inFlight.isNone then some (finish s i web stream conclusion) else none
    | _ => none
  | .resolve i k approved web =>
    if (s.tasks i).isNone then
      s.pendings[k]?.map fun pending => s.openTask i ⟨web, .resolving pending approved .opened⟩
    else none
  | .advance i outcome =>
    match s.tasks i with
    | some ⟨web, .resolving pending approved stage⟩ =>
      some (advance python s i web pending approved stage outcome)
    | _ => none

/-- **What a step is**, by its label. -/
inductive Steps (s : State) : Label → State → Prop
  | start {i : ℕ} {second : RunId} {web : Bool} {locale : Option Text} :
    s.tasks i = none → (web = true → s.activeTask = none) →
      Steps s (.start i second web locale)
        ({ s with turns := s.turns + 1, parts := s.parts + 1 }.openTask i
          ⟨web, .streaming (openStream s second s.turns locale)⟩)
  | receive {i : ℕ} {event : AgentEvent} {web : Bool} {stream : Stream} :
    s.tasks i = some ⟨web, .streaming stream⟩ → stream.inFlight = none → stream.accepts event = true →
      Steps s (.receive i event) (receive python s i web stream event)
  | emit {i : ℕ} {web : Bool} {stream : Stream} {event : Event} :
    s.tasks i = some ⟨web, .streaming stream⟩ → stream.inFlight = some event →
      Steps s (.emit i)
        ((s.setTask i ⟨web, .streaming { stream with inFlight := none }⟩).emit python web event)
  | timeOut {i : ℕ} {note : Text} {web : Bool} {stream : Stream} :
    s.tasks i = some ⟨web, .streaming stream⟩ → Steps s (.timeOut i note) (timeOut python s i web stream note)
  | cancel {i : ℕ} {note : Text} {web : Bool} {stream : Stream} :
    s.tasks i = some ⟨web, .streaming stream⟩ → Steps s (.cancel i note) (cancel s i web stream note)
  | abandon {i : ℕ} {note : Text} {web : Bool} {pending : Pending} {approved : Bool} {stage : Stage} :
    s.tasks i = some ⟨web, .resolving pending approved stage⟩ → Steps s (.cancel i note) (s.closeTask i web)
  | finish {i : ℕ} {conclusion : Bool} {web : Bool} {stream : Stream} :
    s.tasks i = some ⟨web, .streaming stream⟩ → stream.inFlight = none →
      Steps s (.finish i conclusion) (finish s i web stream conclusion)
  | resolve {i k : ℕ} {approved web : Bool} {pending : Pending} :
    s.tasks i = none → s.pendings[k]? = some pending →
      Steps s (.resolve i k approved web) (s.openTask i ⟨web, .resolving pending approved .opened⟩)
  | advance {i : ℕ} {outcome : Outcome} {web : Bool} {pending : Pending} {approved : Bool} {stage : Stage} :
    s.tasks i = some ⟨web, .resolving pending approved stage⟩ →
      Steps s (.advance i outcome) (advance python s i web pending approved stage outcome)

variable {python}

/-- A step is one of these. -/
theorem steps_of_step {s t : State} {label : Label} (h : step python s label = some t) :
    Steps python s label t := by
  cases label with
  | start i second web locale =>
    simp only [step, Option.ite_none_right_eq_some, Option.some.injEq, Option.isNone_iff_eq_none] at h
    obtain ⟨⟨hfree, hweb⟩, rfl⟩ := h
    exact .start hfree hweb
  | receive i event =>
    simp only [step] at h
    split at h
    · rename_i web stream htask
      simp only [Option.ite_none_right_eq_some, Option.some.injEq, Option.isNone_iff_eq_none] at h
      obtain ⟨⟨hflight, haccepts⟩, rfl⟩ := h
      exact .receive htask hflight haccepts
    · cases h
  | emit i =>
    simp only [step] at h
    split at h
    · rename_i web stream htask
      obtain ⟨event, hflight, rfl⟩ := Option.map_eq_some_iff.mp h
      exact .emit htask hflight
    · cases h
  | timeOut i note =>
    simp only [step] at h
    split at h
    · rename_i web stream htask
      obtain rfl := Option.some.inj h
      exact .timeOut htask
    · cases h
  | cancel i note =>
    simp only [step] at h
    split at h
    · rename_i web stream htask
      obtain rfl := Option.some.inj h
      exact .cancel htask
    · rename_i web pending approved stage htask
      obtain rfl := Option.some.inj h
      exact .abandon htask
    · cases h
  | finish i conclusion =>
    simp only [step] at h
    split at h
    · rename_i web stream htask
      simp only [Option.ite_none_right_eq_some, Option.some.injEq, Option.isNone_iff_eq_none] at h
      obtain ⟨hflight, rfl⟩ := h
      exact .finish htask hflight
    · cases h
  | resolve i k approved web =>
    simp only [step, Option.ite_none_right_eq_some, Option.isNone_iff_eq_none] at h
    obtain ⟨hfree, h⟩ := h
    obtain ⟨pending, hpending, rfl⟩ := Option.map_eq_some_iff.mp h
    exact .resolve hfree hpending
  | advance i outcome =>
    simp only [step] at h
    split at h
    · rename_i web pending approved stage htask
      obtain rfl := Option.some.inj h
      exact .advance htask
    · cases h

/-- A step is about one task. -/
theorem tasks_of_steps {s t : State} {label : Label} (h : Steps python s label t) {j : ℕ} (hj : j ≠ label.task) :
    t.tasks j = s.tasks j := by
  cases h with
  | start _ _ => exact Function.update_of_ne hj ..
  | receive _ _ _ =>
    rw [receive_tasks]
    exact Function.update_of_ne hj ..
  | emit _ _ => exact Function.update_of_ne hj ..
  | timeOut _ =>
    rw [timeOut_tasks]
    exact Function.update_of_ne hj ..
  | cancel _ =>
    rw [cancel_tasks]
    exact Function.update_of_ne hj ..
  | abandon _ => exact Function.update_of_ne hj ..
  | finish _ _ =>
    rw [finish_tasks]
    exact Function.update_of_ne hj ..
  | resolve _ _ => exact Function.update_of_ne hj ..
  | advance _ =>
    rw [advance_tasks]
    exact Function.update_of_ne hj ..

/-- So a run does not touch the tasks that none of its labels is about. -/
theorem tasks_of_run {allowed : State → Label → Prop} {s t : State} {labels : List Label} {j : ℕ}
    (h : Run (step python) allowed s labels t) (hj : ∀ label ∈ labels, j ≠ label.task) :
    t.tasks j = s.tasks j := by
  induction h with
  | nil s => rfl
  | cons _ hstep _ ih =>
    rw [ih fun label hlabel => hj label (List.mem_cons_of_mem _ hlabel)]
    exact tasks_of_steps (steps_of_step hstep) (hj _ List.mem_cons_self)

/-! ## A turn with an approval -/

/-- A turn that asks for an approval, which is given, and goes on. -/
def resumedTurn : List Label := [
  .start 0 20250101120000 true none,
  .receive 0 (.content "Checking.".toList),
  .receive 0 (.usage ⟨900, 100, 1000⟩),
  .receive 0 (.approvalRequest "approval_1".toList "call_1".toList "execute_any_sql".toList none [] none none),
  .emit 0,
  .receive 0 (.other "plan_step_status"),
  .finish 0 false,
  .resolve 0 0 true true,
  .advance 0 ⟨[], none, none, none⟩,
  .advance 0 ⟨[], none, none, none⟩,
  .advance 0 ⟨"ok".toList, none, none, none⟩,
  .advance 0 ⟨[], none, none, none⟩,
  .receive 0 (.other "thinking_phase"),
  .receive 0 (.content "Done.".toList),
  .receive 0 (.usage ⟨400, 50, 450⟩),
  .finish 0 false]

end DBClaw.Chat
