import DBClaw.Approvals.Rounds
import DBClaw.Library.Pairs

/-! # The history that the model is given
The rows of a session are written one at a time, by the tasks that run in it: a turn or a resolved approval
writes the call of a tool, executes it, and writes its result, unless it is stopped between the two.
`load_session_messages_for_llm` loads the rows of the last hours, and `rebuild_llm_messages` makes one message
of each of them. `wellFormed_of_run` says when every call in the messages has its result. -/

namespace DBClaw.History

open Runs Rounds Pairs

/-! ## Rows -/

/-- A row of `chat_message`. -/
structure ChatRow extends Row where
  runId : Option Text
  createdAt : ℚ

/-- `created_at >= cutoff`, if there is a limit. -/
def visible (cutoff : Option ℚ) (createdAt : ℚ) : Bool := cutoff.all (· ≤ createdAt)

/-- **`load_session_messages_for_llm`**, of rows that are in the order of their ids. -/
def loadSessionMessagesForLlm (cutoff : Option ℚ) (rows : List ChatRow) : List Row :=
  (rows.filter fun row => visible cutoff row.createdAt).map ChatRow.toRow

/-- The row is the assistant message of a run. -/
def ChatRow.isAssistantOf (runId : Text) (row : ChatRow) : Bool :=
  match row.content with
  | .text role _ => role = "assistant" && row.runId = some runId
  | _ => false

/-- The id of the last assistant message of a run, which `_load_assistant_message_by_run_id` finds. -/
def assistantId (rows : List ChatRow) (runId : Text) : Option ℕ :=
  ((rows.filter (ChatRow.isAssistantOf runId)).getLast?).map (·.id)

/-- The assistant message gets another content. -/
def ChatRow.rewrite (runId content : Text) (id : ℕ) (row : ChatRow) : ChatRow :=
  if row.isAssistantOf runId ∧ row.id = id then { row with content := .text "assistant" content } else row

/-! ## Tasks -/

/-- A tool call, as its row keeps it. -/
structure Call where
  toolCallId : Text
  name : String
  args : Json

/-- Where a task of a session stands: it streams the events of a run, is about to execute an approved call, or
executes a call that it has written a row of. -/
inductive Task
  | streaming (runId : Text)
  | approved (runId : Text) (call : Call)
  | executing (runId : Text) (call : Call) (rowId : ℕ) (createdAt : ℚ)

/-- The run of a task. -/
def Task.runId : Task → Text
  | streaming runId => runId
  | approved runId _ => runId
  | executing runId _ _ _ => runId

/-- A session: its rows, the last id that was given, its tasks, and the calls that were to be approved. -/
structure State where
  rows : List ChatRow := []
  lastId : ℕ := 0
  tasks : ℕ → Option Task := fun _ => none
  requests : List (Text × Call) := []

/-- What the database gives a new row. -/
structure Stamp where
  id : ℕ
  createdAt : ℚ

namespace State

variable (s : State)

/-- A row is added. -/
def add (content : Content) (runId : Option Text) (stamp : Stamp) : Option State :=
  if s.lastId < stamp.id then
    some { s with
      rows := s.rows ++
        [{ id := stamp.id, content := content, runId := runId, createdAt := stamp.createdAt }]
      lastId := stamp.id }
  else none

/-- **`_persist_assistant_message`**. -/
def persistAssistantMessage (runId content : Text) (stamp : Stamp) : Option State :=
  match assistantId s.rows runId with
  | some id => some { s with rows := s.rows.map (ChatRow.rewrite runId content id) }
  | none => s.add (.text "assistant" content) (some runId) stamp

/-- What a task persists as it stops, if anything. -/
def persistNote (runId : Text) : Option (Text × Stamp) → Option State
  | some (content, stamp) => s.persistAssistantMessage runId content stamp
  | none => some s

/-- A task goes on, or ends. -/
def setTask (i : ℕ) (task : Option Task) : State := { s with tasks := Function.update s.tasks i task }

/-- `_store_tool_call`. -/
def storeToolCall (i : ℕ) (runId : Text) (call : Call) (stamp : Stamp) : Option State :=
  (s.add (.toolCall call.toolCallId call.name call.args) (some runId) stamp).map fun t =>
    t.setTask i (some (.executing runId call stamp.id stamp.createdAt))

end State

/-- What happens in a session. -/
inductive Label
  /-- `prepare_user_turn`, in a task of its own. -/
  | turn (i : ℕ) (runId text : Text) (stamp : Stamp)
  /-- `_persist_current_assistant`. -/
  | persist (i : ℕ) (content : Text) (stamp : Stamp)
  /-- A `tool_call` event. -/
  | call (i : ℕ) (call : Call) (stamp : Stamp)
  /-- A `tool_result` event. -/
  | result (i : ℕ) (result : Text) (stamp : Stamp)
  /-- An `approval_request` event, with which the stream ends. -/
  | request (i : ℕ) (call : Call) (riskLevel : String) (stamp : Stamp)
  /-- The response of `resolve_pending_approval` to a request. -/
  | respond (i request : ℕ) (approved : Bool) (stamp : Stamp)
  /-- `resolve_pending_approval` starts an approved call. -/
  | resume (i : ℕ) (stamp : Stamp)
  /-- A task ends, is cancelled, times out or raises, and perhaps persists what it has. -/
  | stop (i : ℕ) (note : Option (Text × Stamp))
  /-- `clear_session_messages`. -/
  | clear

/-- One step of the session. -/
def step (s : State) : Label → Option State
  | .turn i runId text stamp =>
    match s.tasks i with
    | none => (s.add (.text "user" text) none stamp).map (·.setTask i (some (.streaming runId)))
    | some _ => none
  | .persist i content stamp =>
    match s.tasks i with
    | some (.streaming runId) => s.persistAssistantMessage runId content stamp
    | _ => none
  | .call i call stamp =>
    match s.tasks i with
    | some (.streaming runId) => s.storeToolCall i runId call stamp
    | _ => none
  | .result i result stamp =>
    match s.tasks i with
    | some (.executing runId call _ _) =>
      (s.add (.toolResult call.toolCallId call.name result) (some runId) stamp).map
        (·.setTask i (some (.streaming runId)))
    | _ => none
  | .request i call riskLevel stamp =>
    match s.tasks i with
    | some (.streaming runId) =>
      (s.add (.approvalRequest call.toolCallId call.name call.args riskLevel) (some runId) stamp).map
        fun t => { t.setTask i none with requests := t.requests ++ [(runId, call)] }
    | _ => none
  | .respond i request approved stamp =>
    match s.tasks i, s.requests[request]? with
    | none, some (runId, call) =>
      (s.add (.approvalResponse approved) (some runId) stamp).map
        (·.setTask i (if approved then some (.approved runId call) else none))
    | _, _ => none
  | .resume i stamp =>
    match s.tasks i with
    | some (.approved runId call) => s.storeToolCall i runId call stamp
    | _ => none
  | .stop i note =>
    match s.tasks i with
    | some task => (s.persistNote task.runId note).map (·.setTask i none)
    | none => none
  | .clear => some { s with rows := [] }

/-! ## Well-formed messages -/

/-- The call that a message is the result of. -/
def toolCallId : Message → Option Text
  | .tool toolCallId _ => some toolCallId
  | _ => none

/-- **The messages are well formed**: a message with tool calls is directly followed by one result for each of
them, and a result comes after the message with its call, with other results at most between them. -/
structure WellFormed (messages : List Message) : Prop where
  answered : ∀ before content calls after, messages = before ++ .toolCalls content calls :: after →
    ((after.takeWhile (toolCallId · |>.isSome)).filterMap toolCallId).Perm (calls.map Prod.fst)
  asked : ∀ before id content after, messages = before ++ .tool id content :: after →
    ∃ earlier text calls between, before = earlier ++ .toolCalls text calls :: between ∧
      between.all (toolCallId · |>.isSome) = true ∧ id ∈ calls.map Prod.fst

/-- The messages that the model is given. -/
def State.messages (cutoff : Option ℚ) (s : State) : List Message :=
  rebuildLlmMessages (loadSessionMessagesForLlm cutoff s.rows)

/-- What a session is left with: once no call is being executed, the messages are well formed. -/
def State.Sound (cutoff : Option ℚ) (s : State) : Prop :=
  (∀ i runId call rowId createdAt, s.tasks i ≠ some (.executing runId call rowId createdAt)) →
    WellFormed (s.messages cutoff)

/-! ## The condition -/

/-- The id of the call that a task executes, if its row is one of those that are loaded. -/
def Task.openCall (cutoff : Option ℚ) : Task → Option Text
  | executing _ call rowId createdAt =>
    if visible cutoff createdAt then some (idOr call.toolCallId (fallbackId call.name rowId)) else none
  | streaming _ | approved _ _ => none

namespace State

variable (cutoff : Option ℚ) (s : State)

/-- The id of the call that a task executes. -/
def openCall (i : ℕ) : Option Text := (s.tasks i).bind (Task.openCall cutoff)

/-- No call is being executed, of those that are loaded. -/
def Quiet : Prop := ∀ i, s.openCall cutoff i = none

/-- The run has no assistant message yet. -/
def lacksAssistant (runId : Text) : Prop := assistantId s.rows runId = none

end State

/-- **The condition on a step**: while a call is being executed, no other message is written, its task is not
stopped and the session is not cleared; its result is loaded when the call is; and the two have an id, or rows
that follow each other. -/
def Undisturbed (cutoff : Option ℚ) (s : State) : Label → Prop
  | .turn _ _ _ stamp => visible cutoff stamp.createdAt = true → s.Quiet cutoff
  | .call _ _ stamp | .resume _ stamp => visible cutoff stamp.createdAt = true → s.Quiet cutoff
  | .persist i _ stamp => ∀ runId, s.tasks i = some (.streaming runId) → s.lacksAssistant runId →
      visible cutoff stamp.createdAt = true → s.Quiet cutoff
  | .result i _ stamp => ∀ runId call rowId createdAt,
      s.tasks i = some (.executing runId call rowId createdAt) →
      visible cutoff createdAt = visible cutoff stamp.createdAt ∧
        (visible cutoff createdAt = true → call.toolCallId ≠ [] ∨ stamp.id = rowId + 1)
  | .request .. | .respond .. => True
  | .stop i note => s.openCall cutoff i = none ∧
      ∀ task content stamp, s.tasks i = some task → note = some (content, stamp) →
        s.lacksAssistant task.runId → visible cutoff stamp.createdAt = true → s.Quiet cutoff
  | .clear => s.Quiet cutoff

variable {cutoff : Option ℚ} {s t : State}

/-! ## Pairs are well formed -/

/-- What a message is. -/
def shape : Message → Shape (List Text)
  | .text _ _ => .plain
  | .toolCalls _ calls => .opening (calls.map Prod.fst)
  | .tool toolCallId _ => .closing [toolCallId]

theorem eq_tool_of_shape {message : Message} {ids : List Text} (h : shape message = .closing ids) :
    ∃ id content, message = .tool id content ∧ ids = [id] := by
  cases message with
  | tool id content =>
    cases h
    exact ⟨id, content, rfl, rfl⟩
  | text => cases h
  | toolCalls => cases h

theorem eq_toolCalls_of_shape {message : Message} {ids : List Text} (h : shape message = .opening ids) :
    ∃ content calls, message = .toolCalls content calls ∧ ids = calls.map Prod.fst := by
  cases message with
  | toolCalls content calls =>
    cases h
    exact ⟨content, calls, rfl, rfl⟩
  | text => cases h
  | tool => cases h

/-- Results that are directly preceded by their calls. -/
theorem wellFormed_of_paired {messages : List Message} (h : Paired (messages.map shape)) :
    WellFormed messages where
  answered before content calls after heq := by
    rw [heq, List.map_append, List.map_cons] at h
    obtain ⟨rest, hrest, hpaired⟩ := h.of_opening
    obtain ⟨message, others, rfl, hclosing, rfl⟩ := List.map_eq_cons_iff.mp hrest
    obtain ⟨id, result, rfl, hids⟩ := eq_tool_of_shape hclosing
    -- no other result comes next
    have hnext : (others.takeWhile (toolCallId · |>.isSome)) = [] := by
      cases others with
      | nil => rfl
      | cons other others =>
        cases other with
        | tool id _ => exact absurd rfl hpaired.head_ne_closing
        | text => rfl
        | toolCalls => rfl
    rw [hids, List.takeWhile_cons_of_pos rfl, hnext]
    exact List.Perm.refl [id]
  asked before id content after heq := by
    rw [heq, List.map_append, List.map_cons] at h
    obtain ⟨earlier, hearlier⟩ := h.of_closing
    obtain ⟨others, last, rfl, -, hlast⟩ := List.map_eq_append_iff.mp hearlier
    obtain ⟨message, rfl, hopening⟩ := List.map_eq_singleton_iff.mp hlast
    obtain ⟨text, calls, rfl, hids⟩ := eq_toolCalls_of_shape hopening
    exact ⟨others, text, calls, [], rfl, rfl, by rw [← hids]; exact List.mem_singleton_self id⟩

/-! ## The messages of a state -/

/-- What the messages are. -/
def State.shapes (cutoff : Option ℚ) (s : State) : List (Shape (List Text)) := (s.messages cutoff).map shape

/-- What a row adds. -/
def contentShape (content : Content) (id : ℕ) : List (Shape (List Text)) :=
  ((rowMessage ⟨id, content⟩).map shape).toList

theorem shapes_eq (cutoff : Option ℚ) (s : State) : s.shapes cutoff =
    (s.rows.filter fun row => visible cutoff row.createdAt).filterMap fun row =>
      (rowMessage row.toRow).map shape := by
  simp [State.shapes, State.messages, rebuildLlmMessages, loadSessionMessagesForLlm, List.filterMap_map,
    List.map_filterMap]

/-- A new row. -/
structure Added (content : Content) (stamp : Stamp) (s t : State) : Prop where
  pos : 0 < stamp.id
  visible : ∀ cutoff, visible cutoff stamp.createdAt = true →
    t.shapes cutoff = s.shapes cutoff ++ contentShape content stamp.id
  hidden : ∀ cutoff, DBClaw.History.visible cutoff stamp.createdAt = false → t.shapes cutoff = s.shapes cutoff
  tasks : t.tasks = s.tasks

theorem added_of_add {content : Content} {runId : Option Text} {stamp : Stamp}
    (h : s.add content runId stamp = some t) : Added content stamp s t := by
  unfold State.add at h
  split at h
  · rename_i hlt
    cases h
    refine ⟨Nat.zero_lt_of_lt hlt, fun cutoff hvisible => ?_, fun cutoff hhidden => ?_, rfl⟩
    · rw [shapes_eq, shapes_eq, List.filter_append, List.filterMap_append]
      simp only [List.filter_cons, hvisible, if_true, List.filter_nil, contentShape]
      cases hmessage : rowMessage ⟨stamp.id, content⟩ <;> simp [hmessage]
    · rw [shapes_eq, shapes_eq, List.filter_append, List.filterMap_append]
      simp [hhidden]
  · cases h

/-- A new content of an assistant message changes no shape. -/
theorem shape_rewrite (runId content : Text) (id : ℕ) (row : ChatRow) :
    (row.rewrite runId content id).createdAt = row.createdAt ∧
      (rowMessage (row.rewrite runId content id).toRow).map shape = (rowMessage row.toRow).map shape := by
  unfold ChatRow.rewrite
  split
  · rename_i hassistant
    refine ⟨rfl, ?_⟩
    rw [ChatRow.isAssistantOf] at hassistant
    split at hassistant
    · rename_i role text hcontent
      simp [rowMessage, hcontent, shape]
    · cases hassistant.1
  · exact ⟨rfl, rfl⟩

/-- An assistant message is added, or one that exists is changed. -/
theorem persistAssistantMessage_cases {runId content : Text} {stamp : Stamp}
    (h : s.persistAssistantMessage runId content stamp = some t) :
    (t.tasks = s.tasks ∧ ∀ cutoff, t.shapes cutoff = s.shapes cutoff) ∨
      (s.lacksAssistant runId ∧ Added (.text "assistant" content) stamp s t) := by
  unfold State.persistAssistantMessage at h
  split at h
  · rename_i id _
    cases h
    refine .inl ⟨rfl, fun cutoff => ?_⟩
    rw [shapes_eq, shapes_eq, List.filter_map, List.filterMap_map]
    have hvisible : (fun row : ChatRow => visible cutoff row.createdAt) ∘ ChatRow.rewrite runId content id =
        fun row => visible cutoff row.createdAt :=
      funext fun row => by rw [Function.comp_apply, (shape_rewrite runId content id row).1]
    have hshape : (fun row : ChatRow => (rowMessage row.toRow).map shape) ∘ ChatRow.rewrite runId content id =
        fun row => (rowMessage row.toRow).map shape :=
      funext fun row => (shape_rewrite runId content id row).2
    rw [hvisible, hshape]
  · rename_i hlacks
    exact .inr ⟨hlacks, added_of_add h⟩

theorem added_of_lacksAssistant {runId content : Text} {stamp : Stamp} (hlacks : s.lacksAssistant runId)
    (h : s.persistAssistantMessage runId content stamp = some t) :
    Added (.text "assistant" content) stamp s t := by
  rw [State.persistAssistantMessage, hlacks] at h
  exact added_of_add h

/-! ## The invariant -/

theorem openCall_setTask (i j : ℕ) (task : Option Task) :
    (s.setTask i task).openCall cutoff j = if j = i then task.bind (Task.openCall cutoff) else s.openCall cutoff j := by
  unfold State.openCall State.setTask
  dsimp only
  by_cases hj : j = i
  · rw [hj, Function.update_self, if_pos rfl]
  · rw [Function.update_of_ne hj, if_neg hj]

/-- **What a session keeps to**: the messages are pairs up to a last call, which one task is executing. -/
structure Inv (cutoff : Option ℚ) (s : State) : Prop where
  quiet : s.Quiet cutoff → Paired (s.shapes cutoff)
  busy : ∀ i id, s.openCall cutoff i = some id →
    (∃ before, Paired before ∧ s.shapes cutoff = before ++ [.opening [id]]) ∧
      ∀ j, s.openCall cutoff j ≠ none → j = i

/-- Messages and calls under way are all that matters. -/
theorem Inv.of_same (h : Inv cutoff s) (hshapes : t.shapes cutoff = s.shapes cutoff)
    (hcalls : ∀ i, t.openCall cutoff i = s.openCall cutoff i) : Inv cutoff t where
  quiet hquiet := by
    rw [hshapes]
    exact h.quiet fun i => hcalls i ▸ hquiet i
  busy i id hid := by
    rw [hcalls] at hid
    rw [hshapes]
    exact ⟨(h.busy i id hid).1, fun j hj => (h.busy i id hid).2 j (hcalls j ▸ hj)⟩

/-- A row that is no call and no result is added while no call is executed. -/
theorem Inv.of_added {content : Content} {stamp : Stamp} (h : Inv cutoff s) (hadded : Added content stamp s t)
    (hshape : contentShape content stamp.id = [.plain])
    (hquiet : visible cutoff stamp.createdAt = true → s.Quiet cutoff) : Inv cutoff t := by
  have hcalls (i : ℕ) : t.openCall cutoff i = s.openCall cutoff i := by
    rw [State.openCall, State.openCall, hadded.tasks]
  cases hvisible : visible cutoff stamp.createdAt with
  | false => exact h.of_same (hadded.hidden cutoff hvisible) hcalls
  | true =>
    have hnone := hquiet hvisible
    refine ⟨fun _ => ?_, fun i id hid => ?_⟩
    · rw [hadded.visible cutoff hvisible, hshape]
      exact (h.quiet hnone).concat_plain
    · rw [hcalls, hnone i] at hid
      cases hid

/-- A task goes on that executes no call, before or after. -/
theorem Inv.of_setTask {i : ℕ} {task : Option Task} (h : Inv cutoff s) (hnone : s.openCall cutoff i = none)
    (htask : task.bind (Task.openCall cutoff) = none) : Inv cutoff (s.setTask i task) := by
  refine h.of_same rfl fun j => ?_
  rw [openCall_setTask]
  split
  · rename_i hj
    rw [htask, hj, hnone]
  · rfl

/-! ## Steps -/

/-- A call is written, and executed from then on. -/
theorem Inv.storeToolCall {i : ℕ} {runId : Text} {call : Call} {stamp : Stamp} (h : Inv cutoff s)
    (hnone : s.openCall cutoff i = none) (hquiet : visible cutoff stamp.createdAt = true → s.Quiet cutoff)
    (hs : s.storeToolCall i runId call stamp = some t) : Inv cutoff t := by
  obtain ⟨u, hu, rfl⟩ := Option.map_eq_some_iff.mp hs
  have hadded := added_of_add hu
  have hcalls (j : ℕ) : u.openCall cutoff j = s.openCall cutoff j := by
    rw [State.openCall, State.openCall, hadded.tasks]
  cases hvisible : visible cutoff stamp.createdAt with
  | false =>
    refine (h.of_same (hadded.hidden cutoff hvisible) hcalls).of_setTask ((hcalls i).trans hnone) ?_
    simp [Task.openCall, hvisible]
  | true =>
    have hnones := hquiet hvisible
    have hopen (j : ℕ) : (u.setTask i (some (.executing runId call stamp.id stamp.createdAt))).openCall
        cutoff j = if j = i then some (idOr call.toolCallId (fallbackId call.name stamp.id)) else none := by
      rw [openCall_setTask, hcalls, hnones j]
      simp [Task.openCall, hvisible]
    refine ⟨fun hquiet => ?_, fun j id hid => ?_⟩
    · have hself := hopen i
      rw [hquiet i, if_pos rfl] at hself
      cases hself
    · rw [hopen] at hid
      split at hid
      · rename_i hj
        refine ⟨⟨s.shapes cutoff, h.quiet hnones, ?_⟩, fun k hk => ?_⟩
        · cases hid
          exact hadded.visible cutoff hvisible
        · rw [hopen] at hk
          by_contra hne
          rw [if_neg (hj ▸ hne)] at hk
          exact hk rfl
      · cases hid

/-- The result of a call is written. -/
theorem Inv.storeToolResult {i rowId : ℕ} {runId result : Text} {call : Call} {createdAt : ℚ} {stamp : Stamp}
    (h : Inv cutoff s) (htask : s.tasks i = some (.executing runId call rowId createdAt))
    (hsame : visible cutoff createdAt = visible cutoff stamp.createdAt)
    (hid : visible cutoff createdAt = true → call.toolCallId ≠ [] ∨ stamp.id = rowId + 1)
    (hadded : Added (.toolResult call.toolCallId call.name result) stamp s t) :
    Inv cutoff (t.setTask i (some (.streaming runId))) := by
  have hcalls (j : ℕ) : t.openCall cutoff j = s.openCall cutoff j := by
    rw [State.openCall, State.openCall, hadded.tasks]
  cases hvisible : visible cutoff createdAt with
  | false =>
    have hnone : s.openCall cutoff i = none := by simp [State.openCall, htask, Task.openCall, hvisible]
    exact (h.of_same (hadded.hidden cutoff (hsame ▸ hvisible)) hcalls).of_setTask ((hcalls i).trans hnone) rfl
  | true =>
    have hopen : s.openCall cutoff i = some (idOr call.toolCallId (fallbackId call.name rowId)) := by
      simp [State.openCall, htask, Task.openCall, hvisible]
    obtain ⟨⟨before, hbefore, hshapes⟩, honly⟩ := h.busy i _ hopen
    -- no task executes a call any more
    have hnone (j : ℕ) : (t.setTask i (some (.streaming runId))).openCall cutoff j = none := by
      rw [openCall_setTask, hcalls]
      split
      · rfl
      · rename_i hj
        by_contra hne
        exact hj (honly j hne)
    -- the result has the id of the call
    have hsameId : idOr call.toolCallId (fallbackId call.name (stamp.id - 1)) =
        idOr call.toolCallId (fallbackId call.name rowId) := by
      obtain hgiven | hnext := hid hvisible
      · rw [idOr, idOr, if_neg hgiven, if_neg hgiven]
      · rw [hnext, Nat.add_sub_cancel]
    refine ⟨fun _ => ?_, fun j id hid => by rw [hnone j] at hid; cases hid⟩
    have hlast : t.shapes cutoff = before ++ [.opening [idOr call.toolCallId (fallbackId call.name rowId)]] ++
        [.closing [idOr call.toolCallId (fallbackId call.name rowId)]] := by
      rw [hadded.visible cutoff (hsame ▸ hvisible), hshapes]
      simp [contentShape, rowMessage, shape, hsameId]
    exact hlast ▸ hbefore.concat_closing

/-- An assistant message is persisted while no call is executed. -/
theorem Inv.persistAssistantMessage {runId content : Text} {stamp : Stamp} (h : Inv cutoff s)
    (hquiet : s.lacksAssistant runId → visible cutoff stamp.createdAt = true → s.Quiet cutoff)
    (hs : s.persistAssistantMessage runId content stamp = some t) :
    Inv cutoff t ∧ t.tasks = s.tasks := by
  obtain ⟨htasks, hshapes⟩ | ⟨hlacks, hadded⟩ := persistAssistantMessage_cases hs
  · exact ⟨h.of_same (hshapes cutoff) fun i => by rw [State.openCall, State.openCall, htasks], htasks⟩
  · exact ⟨h.of_added hadded rfl (hquiet hlacks), hadded.tasks⟩

/-- A row that makes no message is added. -/
theorem Inv.of_silent {content : Content} {stamp : Stamp} (h : Inv cutoff s) (hadded : Added content stamp s t)
    (hshape : contentShape content stamp.id = []) : Inv cutoff t := by
  refine h.of_same ?_ fun i => by rw [State.openCall, State.openCall, hadded.tasks]
  cases hvisible : visible cutoff stamp.createdAt with
  | false => exact hadded.hidden cutoff hvisible
  | true => rw [hadded.visible cutoff hvisible, hshape, List.append_nil]

theorem openCall_eq_none {i : ℕ} {task : Option Task} (htask : s.tasks i = task)
    (hnone : task.bind (Task.openCall cutoff) = none) : s.openCall cutoff i = none := by
  rw [State.openCall, htask, hnone]

/-- **Step lemma**: an undisturbed step keeps the invariant. -/
theorem Inv.step {label : Label} (h : Inv cutoff s) (hallowed : Undisturbed cutoff s label)
    (hs : step s label = some t) : Inv cutoff t := by
  cases label with
  | turn i runId text stamp =>
    simp only [History.step] at hs
    split at hs
    · rename_i htask
      obtain ⟨u, hu, rfl⟩ := Option.map_eq_some_iff.mp hs
      have hadded := added_of_add hu
      exact (h.of_added hadded rfl hallowed).of_setTask
        (openCall_eq_none (congrFun hadded.tasks i |>.trans htask) rfl) rfl
    · cases hs
  | persist i content stamp =>
    simp only [History.step] at hs
    split at hs
    · rename_i runId htask
      exact (h.persistAssistantMessage (hallowed runId htask) hs).1
    · cases hs
  | call i call stamp =>
    simp only [History.step] at hs
    split at hs
    · rename_i runId htask
      exact h.storeToolCall (openCall_eq_none htask rfl) hallowed hs
    · cases hs
  | result i result stamp =>
    simp only [History.step] at hs
    split at hs
    · rename_i runId call rowId createdAt htask
      obtain ⟨u, hu, rfl⟩ := Option.map_eq_some_iff.mp hs
      obtain ⟨hsame, hid⟩ := hallowed runId call rowId createdAt htask
      exact h.storeToolResult htask hsame hid (added_of_add hu)
    · cases hs
  | request i call riskLevel stamp =>
    simp only [History.step] at hs
    split at hs
    · rename_i runId htask
      obtain ⟨u, hu, rfl⟩ := Option.map_eq_some_iff.mp hs
      have hadded := added_of_add hu
      have hended : Inv cutoff (u.setTask i none) := (h.of_silent hadded rfl).of_setTask
        (openCall_eq_none (congrFun hadded.tasks i |>.trans htask) rfl) rfl
      exact hended.of_same rfl fun _ => rfl
    · cases hs
  | respond i request approved stamp =>
    simp only [History.step] at hs
    split at hs
    · rename_i runId call htask _
      obtain ⟨u, hu, rfl⟩ := Option.map_eq_some_iff.mp hs
      have hadded := added_of_add hu
      refine (h.of_silent hadded rfl).of_setTask
        (openCall_eq_none (congrFun hadded.tasks i |>.trans htask) rfl) ?_
      cases approved <;> rfl
    · cases hs
  | resume i stamp =>
    simp only [History.step] at hs
    split at hs
    · rename_i runId call htask
      exact h.storeToolCall (openCall_eq_none htask rfl) hallowed hs
    · cases hs
  | stop i note =>
    simp only [History.step] at hs
    split at hs
    · rename_i task htask
      obtain ⟨u, hu, rfl⟩ := Option.map_eq_some_iff.mp hs
      obtain ⟨hnone, hnote⟩ := hallowed
      cases note with
      | none =>
        cases hu
        exact h.of_setTask hnone rfl
      | some note =>
        obtain ⟨content, stamp⟩ := note
        obtain ⟨hkept, htasks⟩ := h.persistAssistantMessage (hnote task content stamp htask rfl) hu
        refine hkept.of_setTask ?_ rfl
        rwa [State.openCall, htasks]
    · cases hs
  | clear =>
    cases hs
    refine ⟨fun _ => .nil, fun i id hid => ?_⟩
    have hnone : s.openCall cutoff i = none := hallowed i
    exact absurd (hid.symm.trans hnone) (Option.some_ne_none id)

/-! ## Disturbed steps -/

theorem fallbackId_injective {name : String} {a b : ℕ} (h : fallbackId name a = fallbackId name b) :
    a = b := by
  have hdigits : Nat.toDigits 10 a = Nat.toDigits 10 b := by simpa [fallbackId] using h
  calc a = Nat.ofDigitChars 10 (Nat.toDigits 10 a) 0 := Nat.ofDigitChars_ten_toDigits.symm
    _ = Nat.ofDigitChars 10 (Nat.toDigits 10 b) 0 := by rw [hdigits]
    _ = b := Nat.ofDigitChars_ten_toDigits

/-- When the last message is no call, none is executed. -/
theorem Inv.quiet_of_last {l : List (Shape (List Text))} {x : Shape (List Text)} (h : Inv cutoff t)
    (hlast : t.shapes cutoff = l ++ [x]) (hx : ∀ id, x ≠ .opening id) : t.Quiet cutoff := by
  intro i
  by_contra hne
  obtain ⟨id, hid⟩ := Option.ne_none_iff_exists'.mp hne
  obtain ⟨before, -, hshapes⟩ := (h.busy i id hid).1
  rw [hlast] at hshapes
  exact hx [id] (by simpa using (List.append_inj' hshapes rfl).2)

/-- No call is executed before a task goes on, if none is after it. -/
theorem quiet_of_setTask {i : ℕ} {task : Option Task} (hnone : s.openCall cutoff i = none)
    (htasks : t.tasks = s.tasks) (hquiet : (t.setTask i task).Quiet cutoff) : s.Quiet cutoff := by
  intro j
  by_cases hj : j = i
  · rw [hj, hnone]
  · have hafter := hquiet j
    rwa [openCall_setTask, if_neg hj, State.openCall, htasks] at hafter

/-- A call that is stopped or not loaded with its result stays without one. -/
theorem Inv.openCall_eq_none_of_setTask {i : ℕ} {task : Option Task} (h : Inv cutoff s)
    (h' : Inv cutoff (t.setTask i task)) (htasks : t.tasks = s.tasks)
    (htask : task.bind (Task.openCall cutoff) = none)
    (hshapes : t.shapes cutoff = s.shapes cutoff ∨ t.shapes cutoff = s.shapes cutoff ++ [.plain]) :
    s.openCall cutoff i = none := by
  by_contra hne
  obtain ⟨id, hid⟩ := Option.ne_none_iff_exists'.mp hne
  obtain ⟨⟨before, -, hbefore⟩, honly⟩ := h.busy i id hid
  have hquiet : (t.setTask i task).Quiet cutoff := by
    intro j
    rw [openCall_setTask, State.openCall, htasks]
    split
    · exact htask
    · rename_i hj
      by_contra hother
      exact hj (honly j hother)
  have hpaired := h'.quiet hquiet
  rw [show (t.setTask i task).shapes cutoff = t.shapes cutoff from rfl] at hpaired
  obtain hsame | hplain := hshapes
  · rw [hsame, hbefore] at hpaired
    exact Paired.not_concat_opening hpaired
  · rw [hplain, hbefore] at hpaired
    exact Paired.not_concat_opening_plain hpaired

/-- A call is written and executed only while no other is. -/
theorem Inv.quiet_of_storeToolCall {i : ℕ} {runId : Text} {call : Call} {stamp : Stamp}
    (hnone : s.openCall cutoff i = none) (hs : s.storeToolCall i runId call stamp = some t)
    (h' : Inv cutoff t) (hvisible : visible cutoff stamp.createdAt = true) : s.Quiet cutoff := by
  obtain ⟨u, hu, rfl⟩ := Option.map_eq_some_iff.mp hs
  have hadded := added_of_add hu
  have hself : (u.setTask i (some (.executing runId call stamp.id stamp.createdAt))).openCall cutoff i =
      some (idOr call.toolCallId (fallbackId call.name stamp.id)) := by
    simp [openCall_setTask, Task.openCall, hvisible]
  intro j
  by_cases hj : j = i
  · rw [hj, hnone]
  · by_contra hother
    refine hj ((h'.busy i _ hself).2 j ?_)
    rwa [openCall_setTask, if_neg hj, State.openCall, hadded.tasks]

/-- A result is loaded when its call is, and has its id. -/
theorem Inv.result_of_inv {i rowId : ℕ} {runId result : Text} {call : Call} {createdAt : ℚ} {stamp : Stamp}
    (h : Inv cutoff s) (htask : s.tasks i = some (.executing runId call rowId createdAt))
    (hadded : Added (.toolResult call.toolCallId call.name result) stamp s t)
    (h' : Inv cutoff (t.setTask i (some (.streaming runId)))) :
    visible cutoff createdAt = visible cutoff stamp.createdAt ∧
      (visible cutoff createdAt = true → call.toolCallId ≠ [] ∨ stamp.id = rowId + 1) := by
  have hshapes (hvisible : visible cutoff stamp.createdAt = true) : t.shapes cutoff = s.shapes cutoff ++
      [.closing [idOr call.toolCallId (fallbackId call.name (stamp.id - 1))]] := by
    simpa [contentShape, rowMessage, shape] using hadded.visible cutoff hvisible
  cases hcall : visible cutoff createdAt with
  | false =>
    refine ⟨?_, fun hfalse => by cases hfalse⟩
    by_contra hne
    have hvisible : visible cutoff stamp.createdAt = true := by simpa using Ne.symm hne
    have hquiet' := h'.quiet_of_last (hshapes hvisible) fun id hid => by cases hid
    have hnone : s.openCall cutoff i = none := openCall_eq_none htask (by simp [Task.openCall, hcall])
    have hquiet : s.Quiet cutoff := quiet_of_setTask hnone hadded.tasks hquiet'
    have hpaired : Paired (t.shapes cutoff) := h'.quiet hquiet'
    rw [hshapes hvisible] at hpaired
    obtain ⟨earlier, hearlier⟩ := hpaired.of_closing
    exact Paired.not_concat_opening (hearlier ▸ h.quiet hquiet)
  | true =>
    have hopen : s.openCall cutoff i = some (idOr call.toolCallId (fallbackId call.name rowId)) := by
      simp [State.openCall, htask, Task.openCall, hcall]
    have hvisible : visible cutoff stamp.createdAt = true := by
      by_contra hhidden
      have hsame := hadded.hidden cutoff (by simpa using hhidden)
      have hnone := h.openCall_eq_none_of_setTask h' hadded.tasks rfl (.inl hsame)
      rw [hopen] at hnone
      cases hnone
    refine ⟨hvisible.symm, fun _ => ?_⟩
    obtain ⟨before, -, hbefore⟩ := (h.busy i _ hopen).1
    have hpaired : Paired (t.shapes cutoff) :=
      h'.quiet (h'.quiet_of_last (hshapes hvisible) fun id hid => by cases hid)
    rw [hshapes hvisible, hbefore] at hpaired
    have hid := List.singleton_inj.mp hpaired.eq_of_concat_closing
    by_cases hgiven : call.toolCallId = []
    · rw [idOr, idOr, if_pos hgiven, if_pos hgiven] at hid
      have hpos := hadded.pos
      exact .inr (by have := fallbackId_injective hid; omega)
    · exact .inl hgiven

/-- **A step that keeps the invariant is undisturbed.** -/
theorem Inv.undisturbed {label : Label} (h : Inv cutoff s) (hs : History.step s label = some t)
    (h' : Inv cutoff t) : Undisturbed cutoff s label := by
  cases label with
  | turn i runId text stamp =>
    simp only [History.step] at hs
    split at hs
    · rename_i htask
      obtain ⟨u, hu, rfl⟩ := Option.map_eq_some_iff.mp hs
      have hadded := added_of_add hu
      intro hvisible
      exact quiet_of_setTask (openCall_eq_none htask rfl) hadded.tasks
        (h'.quiet_of_last (hadded.visible cutoff hvisible) fun id hid => by cases hid)
    · cases hs
  | persist i content stamp =>
    simp only [History.step] at hs
    split at hs
    · rename_i runId htask
      intro runId' hrun hlacks hvisible
      rw [htask] at hrun
      cases hrun
      have hadded := added_of_lacksAssistant hlacks hs
      have hquiet := h'.quiet_of_last (hadded.visible cutoff hvisible) fun id hid => by cases hid
      intro j
      rw [State.openCall, ← hadded.tasks]
      exact hquiet j
    · cases hs
  | call i call stamp =>
    simp only [History.step] at hs
    split at hs
    · rename_i runId htask
      exact h'.quiet_of_storeToolCall (openCall_eq_none htask rfl) hs
    · cases hs
  | result i result stamp =>
    simp only [History.step] at hs
    split at hs
    · rename_i runId call rowId createdAt htask
      obtain ⟨u, hu, rfl⟩ := Option.map_eq_some_iff.mp hs
      intro runId' call' rowId' createdAt' hexecuting
      rw [htask] at hexecuting
      cases hexecuting
      exact h.result_of_inv htask (added_of_add hu) h'
    · cases hs
  | request => trivial
  | respond => trivial
  | resume i stamp =>
    simp only [History.step] at hs
    split at hs
    · rename_i runId call htask
      exact h'.quiet_of_storeToolCall (openCall_eq_none htask rfl) hs
    · cases hs
  | stop i note =>
    simp only [History.step] at hs
    split at hs
    · rename_i task htask
      obtain ⟨u, hu, rfl⟩ := Option.map_eq_some_iff.mp hs
      cases note with
      | none =>
        cases hu
        exact ⟨h.openCall_eq_none_of_setTask h' rfl rfl (.inl rfl), fun _ _ _ _ hnote => by cases hnote⟩
      | some note =>
        obtain ⟨content, stamp⟩ := note
        have hnone : s.openCall cutoff i = none := by
          obtain ⟨htasks, hshapes⟩ | ⟨-, hadded⟩ := persistAssistantMessage_cases hu
          · exact h.openCall_eq_none_of_setTask h' htasks rfl (.inl (hshapes cutoff))
          · refine h.openCall_eq_none_of_setTask h' hadded.tasks rfl ?_
            cases hvisible : visible cutoff stamp.createdAt with
            | false => exact .inl (hadded.hidden cutoff hvisible)
            | true => exact .inr (hadded.visible cutoff hvisible)
        refine ⟨hnone, fun task' content' stamp' htask' hnote hlacks hvisible => ?_⟩
        rw [htask] at htask'
        cases htask'
        cases hnote
        have hadded := added_of_lacksAssistant hlacks hu
        exact quiet_of_setTask hnone hadded.tasks
          (h'.quiet_of_last (hadded.visible cutoff hvisible) fun id hid => by cases hid)
    · cases hs
  | clear =>
    cases hs
    intro i
    by_contra hne
    obtain ⟨id, hid⟩ := Option.ne_none_iff_exists'.mp hne
    obtain ⟨before, -, hbefore⟩ := (h'.busy i id hid).1
    exact absurd hbefore (by simp [State.shapes, State.messages, rebuildLlmMessages, loadSessionMessagesForLlm])

theorem inv_init : Inv cutoff {} := ⟨fun _ => .nil, fun i id hid => by cases hid⟩

/-- **The undisturbed runs are those that keep the messages in pairs**, up to the call that a task is executing. -/
theorem inv_run_iff {labels : List Label} :
    Run step (fun s label => ∃ t ∈ step s label, Inv cutoff t) {} labels s ↔
      Run step (Undisturbed cutoff) {} labels s :=
  Run.leadsTo_iff (fun _ _ _ h hs => ⟨h.undisturbed hs, fun ha => h.step ha hs⟩)
    (fun _ _ _ _ _ h' => h') inv_init

/-- **The history stays well formed along undisturbed runs**, for the messages after any cutoff: once no call is
executed, each call has its result directly after it. -/
theorem wellFormed_of_run {labels : List Label}
    (hrun : Run step (Undisturbed cutoff) {} labels s) : s.Sound cutoff := by
  have hinv : Inv cutoff s := hrun.invariant (fun _ _ _ h ha hs => h.step ha hs) inv_init
  intro hidle
  refine wellFormed_of_paired (hinv.quiet fun i => ?_)
  rw [State.openCall]
  cases htask : s.tasks i with
  | none => rfl
  | some task =>
    cases task with
    | streaming => rfl
    | approved => rfl
    | executing runId call rowId createdAt => exact absurd htask (hidle i runId call rowId createdAt)

/-- A call of a tool without arguments. -/
def plainCall : Call where
  toolCallId := "call_1".toList
  name := "list_documents"
  args := .obj []

theorem quiet_streaming {i : ℕ} {runId : Text} (h : s.Quiet cutoff) :
    (s.setTask i (some (.streaming runId))).Quiet cutoff := by
  intro j
  rw [openCall_setTask]
  split
  · rfl
  · exact h j

/-- A turn with one call. -/
def answeredTurn : List Label := [
  .turn 0 [] "hi".toList ⟨1, 0⟩,
  .call 0 plainCall ⟨2, 1⟩,
  .result 0 "[]".toList ⟨3, 2⟩,
  .stop 0 (some ("done".toList, ⟨4, 3⟩))]

/-- A call and its result. -/
theorem answeredTurn_wellFormed : ((exec step Always {} answeredTurn).getD {}).Sound none := by
  have hempty : State.Quiet none {} := fun _ => rfl
  refine wellFormed_of_run (show Run step (Undisturbed none) {} answeredTurn _ from
    .cons (fun _ => hempty) rfl (.cons (fun _ => ?_) rfl (.cons ?_ rfl (.cons ⟨rfl, ?_⟩ rfl (.nil _)))))
  · exact quiet_streaming (s := {}) hempty
  · intro runId call rowId createdAt htask
    have hcall : some (Task.executing [] plainCall 2 1) = some (.executing runId call rowId createdAt) := htask
    cases hcall
    exact ⟨rfl, fun _ => .inl (by decide)⟩
  · rintro - - - - - - - j
    cases j <;> rfl

/-- A turn whose call is cancelled midway. -/
def cancelledTurn : List Label := [.turn 0 [] "hi".toList ⟨1, 0⟩, .call 0 plainCall ⟨2, 1⟩, .stop 0 none]

/-- The cancelled call has no result. -/
theorem cancelledTurn_not_wellFormed :
    ¬ ∀ cutoff labels s, Run step Always {} labels s → s.Sound cutoff := by
  intro hall
  have hrun : Run step Always {} cancelledTurn ((exec step Always {} cancelledTurn).getD {}) :=
    .cons trivial rfl (.cons trivial rfl (.cons trivial rfl (.nil _)))
  have hformed : WellFormed [.text "user" "hi".toList, .toolCalls [] [(plainCall.toolCallId, plainCall.name)]] := by
    refine hall none _ _ hrun fun j _ _ _ _ htask => ?_
    cases j <;> cases htask
  exact absurd (hformed.answered [.text "user" "hi".toList] _ _ [] rfl).length_eq (by decide)

end DBClaw.History
