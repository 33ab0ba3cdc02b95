import DBClaw.Library.Json
import DBClaw.Library.Runs

/-! # Rounds of tool calls
A run of a conversation asks the model again and again: `run_conversation_with_skills` goes through
the tool calls of a reply one after another, refuses those that are not authorised, runs the others
and stops for an approval at the first risky one. After the approval `resolve_pending_approval` runs
that call, and `continue_conversation_after_tool` asks the model with the messages that it rebuilds
from the chat history. `Settled` is what a run is for: when the model is asked, all the calls that it
has asked for have had one outcome. `settled_iff` says that a run keeps to this as long as no approved
call is followed by another one in its round; those calls are neither run nor mentioned again. -/

namespace DBClaw.Rounds

open Runs

/-! ## Data -/

/-- An entry of `tool_calls` of a reply. -/
structure ToolCall where
  id : Text
  name : String
  arguments : Text
  deriving DecidableEq, Repr

/-- A message that is sent to the model. -/
inductive Message
  | text (role : String) (content : Text)
  | toolCalls (content : Text) (calls : List (Text × String))
  | tool (toolCallId : Text) (content : Text)
  deriving DecidableEq, Repr

/-- The content of a row of `chat_message`. -/
inductive Content
  | text (role : String) (content : Text)
  | toolCall (toolCallId : Text) (name : String) (args : Json)
  | toolResult (toolCallId : Text) (name : String) (result : Text)
  | approvalRequest (toolCallId : Text) (name : String) (args : Json) (riskLevel : String)
  | approvalResponse (approved : Bool)

/-- A row of `chat_message`. -/
structure Row where
  id : ℕ
  content : Content

/-- What a run is started with: `active_tool_names`, `skip_approval`, Python's `json`, and
`_smart_truncate`. -/
structure Settings where
  activeToolNames : List String
  skipApproval : Bool := false
  codec : JsonCodec
  smartTruncate : Text → Text

/-- What becomes of a call: the level that `assess_tool_risk` finds, and what the tool returns, `none`
where it raises. -/
structure Answer where
  riskLevel : String
  result : Option Text
  deriving DecidableEq, Repr

/-- `KB_TOOL_NAMES`. -/
def kbToolNames : List String := ["list_documents", "read_document"]

/-! ## The messages of a history -/

/-- `tool_call_id or fallback`. -/
def idOr (toolCallId fallback : Text) : Text := if toolCallId = [] then fallback else toolCallId

/-- `f"call_{tool_name}_{id}"`. -/
def fallbackId (name : String) (id : ℕ) : Text :=
  "call_".toList ++ name.toList ++ '_' :: (toString id).toList

/-- One row of `rebuild_llm_messages`. -/
def rowMessage (row : Row) : Option Message :=
  match row.content with
  | .text role content => some (.text role content)
  | .toolCall toolCallId name _ =>
    some (.toolCalls [] [(idOr toolCallId (fallbackId name row.id), name)])
  | .toolResult toolCallId name result =>
    some (.tool (idOr toolCallId (fallbackId name (row.id - 1))) result)
  | .approvalRequest .. | .approvalResponse _ => none

/-- **`rebuild_llm_messages`**. -/
def rebuildLlmMessages (rows : List Row) : List Message := rows.filterMap rowMessage

/-! ## State -/

/-- A call that waits for its approval. -/
structure Pending where
  call : ToolCall
  args : Json

/-- Where a run stands: it asks the model in a round, waits for an approval (with the calls of the
round that come after), or is over. -/
inductive Phase
  | asking (round : ℕ) (messages : List Message)
  | waiting (pending : Pending) (rest : List ToolCall)
  | ended

/-- A run: the rows of the chat history before it and of its own, the calls that the model has asked
for, and the tools that were started. -/
structure State where
  history : List Row := []
  rows : List Row := []
  requested : List ToolCall := []
  started : List ToolCall := []
  phase : Phase

/-- The next row of the history. -/
def State.add (s : State) (content : Content) : State :=
  { s with rows := s.rows ++ [⟨s.history.length + s.rows.length, content⟩] }

/-- A tool is started. -/
def State.start (s : State) (call : ToolCall) : State := { s with started := s.started ++ [call] }

/-! ## A round -/

/-- `MAX_TOOL_ROUNDS`. -/
def maxToolRounds : ℕ := 1000

/-- `json.loads(arguments)`, and `{}` where that raises. -/
def toolArgs (settings : Settings) (call : ToolCall) : Json :=
  (settings.codec.loads call.arguments).getD (.obj [])

/-- The result of a call that is not authorised. -/
def unauthorizedResult (settings : Settings) (name : String) : Text :=
  settings.codec.dumps (.obj [("error",
    .str s!"Tool '{name}' is not authorized or available for this session.".toList)])

/-- The call is of the knowledge base, and its arguments are what the events read. -/
def readsDocument (name : String) (args : Json) : Bool :=
  match args with
  | .obj _ => true
  | _ => name ≠ "read_document"

/-- The level of a call that waits for an approval. -/
def needsApproval (settings : Settings) (answer : Answer) : Bool :=
  (answer.riskLevel = "high" || answer.riskLevel = "destructive") && ! settings.skipApproval

/-- What one call comes to: its result, a pause, or an exception. -/
inductive Handled
  | done (s : State) (message : Message)
  | paused (s : State) (pending : Pending)
  | raised (s : State)

/-- **One call of a round**. -/
def handleCall (settings : Settings) (s : State) (call : ToolCall) (answer : Answer) : Handled :=
  let args := toolArgs settings call
  let called := s.add (.toolCall call.id call.name args)
  if call.name ∉ settings.activeToolNames then
    let result := unauthorizedResult settings call.name
    .done (called.add (.toolResult call.id call.name result)) (.tool call.id result)
  else if call.name ∈ kbToolNames then
    match answer.result with
    | none => .raised (called.start call)
    | some result =>
      if readsDocument call.name args then
        .done ((called.start call).add (.toolResult call.id call.name (result.take 10000)))
          (.tool call.id result)
      else .raised (called.start call)
  else if needsApproval settings answer then
    .paused (s.add (.approvalRequest call.id call.name args answer.riskLevel)) ⟨call, args⟩
  else
    match answer.result with
    | none => .raised (called.start call)
    | some result =>
      .done ((called.start call).add (.toolResult call.id call.name (result.take 10000)))
        (.tool call.id (settings.smartTruncate result))

/-- **The calls of a round**, one after another, with the messages so far. -/
def handleCalls (settings : Settings) (round : ℕ) (s : State) (messages : List Message) :
    List (ToolCall × Answer) → State
  | [] =>
    if round + 1 < maxToolRounds then { s with phase := .asking (round + 1) messages }
    else { s with phase := .ended }
  | (call, answer) :: calls =>
    match handleCall settings s call answer with
    | .done t message => handleCalls settings round t (messages ++ [message]) calls
    | .paused t pending => { t with phase := .waiting pending (calls.map Prod.fst) }
    | .raised t => { t with phase := .ended }

/-! ## Steps -/

/-- What happens to a run. -/
inductive Label
  /-- The model replies; what becomes of each call is given with it. -/
  | reply (content : Text) (calls : List (ToolCall × Answer))
  /-- Asking the model fails or times out. -/
  | fail
  /-- The approval is given, and the tool returns this, `none` where it or the conversion of its
  arguments raises. -/
  | approve (result : Option Text)
  /-- The approval is denied. -/
  | reject

/-- **One step**. -/
def step (settings : Settings) (s : State) (label : Label) : Option State :=
  match s.phase, label with
  | .asking round messages, .reply content calls =>
    if calls = [] then some { s with phase := .ended }
    else some (handleCalls settings round { s with requested := s.requested ++ calls.map Prod.fst }
      (messages ++ [.toolCalls content (calls.map fun c => (c.1.id, c.1.name))]) calls)
  | .asking _ _, .fail => some { s with phase := .ended }
  | .waiting pending _, .approve result =>
    let call := pending.call
    let called := ((s.add (.approvalResponse true)).add
      (.toolCall call.id call.name pending.args)).start call
    match result with
    | none => some { called with phase := .ended }
    | some result =>
      let t := called.add (.toolResult call.id call.name result)
      some { t with phase := .asking 0 (rebuildLlmMessages (t.history ++ t.rows)) }
  | .waiting _ _, .reject => some { s.add (.approvalResponse false) with phase := .ended }
  | _, _ => none

/-! ## What a run is for -/

/-- The id of a recorded result. -/
def resultId (row : Row) : Option Text :=
  match row.content with
  | .toolResult toolCallId _ _ => some toolCallId
  | _ => none

/-- The ids under which the run has recorded results. -/
def State.resultIds (s : State) : List Text := s.rows.filterMap resultId

/-- **No call is dropped**: when the model is asked, each call that it asked for has one result recorded
under its id, in the order of the calls, and each that is authorised was run once. -/
structure Settled (settings : Settings) (s : State) : Prop where
  recorded : ∀ round messages, s.phase = .asking round messages →
    s.resultIds = s.requested.map ToolCall.id
  executed : ∀ round messages, s.phase = .asking round messages →
    s.started = s.requested.filter (·.name ∈ settings.activeToolNames)

/-- The step leads to a state in which no call is dropped. -/
def LeadsToSettled (settings : Settings) (s : State) (label : Label) : Prop :=
  ∃ t ∈ step settings s label, Settled settings t

/-- **An approved call is the last one of its round**, unless the run ends with it. -/
def ApprovesLast (s : State) (label : Label) : Prop :=
  ∀ pending rest result, s.phase = .waiting pending rest → label = .approve (some result) → rest = []

/-! ## What one call and one round do -/

variable {settings : Settings} {s : State}

@[simp] theorem resultIds_add (s : State) (content : Content) :
    (s.add content).resultIds = s.resultIds ++ (resultId ⟨0, content⟩).toList := by
  cases content <;> simp [State.resultIds, State.add, resultId]

@[simp] theorem resultIds_start (s : State) (call : ToolCall) :
    (s.start call).resultIds = s.resultIds := rfl

/-- The calls among these that are authorised. -/
def authorized (settings : Settings) (calls : List ToolCall) : List ToolCall :=
  calls.filter (·.name ∈ settings.activeToolNames)

/-- The calls before some point of a round are dealt with: their results are recorded, and those that
are authorised were started. -/
structure DealtWith (settings : Settings) (s : State) (before : List ToolCall) : Prop where
  recorded : s.resultIds = before.map ToolCall.id
  executed : s.started = authorized settings before

/-- **One call**: it is dealt with, or it is authorised and nothing was done yet, or it raised. -/
theorem handleCall_spec {before : List ToolCall} (h : DealtWith settings s before) (call : ToolCall)
    (answer : Answer) :
    (∃ t message, handleCall settings s call answer = .done t message ∧
      t.requested = s.requested ∧ DealtWith settings t (before ++ [call])) ∨
    (∃ t pending, handleCall settings s call answer = .paused t pending ∧
      t.requested = s.requested ∧ DealtWith settings t before ∧ pending.call = call ∧
        call.name ∈ settings.activeToolNames) ∨
    ∃ t, handleCall settings s call answer = .raised t := by
  obtain ⟨hrecorded, hexecuted⟩ := h
  unfold handleCall
  dsimp only
  by_cases hactive : call.name ∈ settings.activeToolNames
  · rw [if_neg (not_not.mpr hactive)]
    split
    · -- the knowledge base
      cases answer.result with
      | none => exact .inr (.inr ⟨_, rfl⟩)
      | some result =>
        dsimp only
        split
        · refine .inl ⟨_, _, rfl, rfl, ?_, ?_⟩
          · simp [hrecorded, resultId]
          · simp [State.start, State.add, hexecuted, authorized, hactive]
        · exact .inr (.inr ⟨_, rfl⟩)
    · split
      · refine .inr (.inl ⟨_, _, rfl, rfl, ⟨?_, hexecuted⟩, rfl, hactive⟩)
        simp [hrecorded, resultId]
      · cases answer.result with
        | none => exact .inr (.inr ⟨_, rfl⟩)
        | some result =>
          refine .inl ⟨_, _, rfl, rfl, ?_, ?_⟩
          · simp [hrecorded, resultId]
          · simp [State.start, State.add, hexecuted, authorized, hactive]
  · rw [if_pos hactive]
    refine .inl ⟨_, _, rfl, rfl, ?_, ?_⟩
    · simp [hrecorded, resultId]
    · simp [State.add, hexecuted, authorized, hactive]

/-- **Where a run stands between two steps**: nothing is dropped when the model is asked, and while an
approval is waited for, the calls before it are dealt with. -/
structure Kept (settings : Settings) (s : State) : Prop where
  settled : Settled settings s
  waiting : ∀ pending rest, s.phase = .waiting pending rest → ∃ before,
    s.requested = before ++ pending.call :: rest ∧ DealtWith settings s before ∧
      pending.call.name ∈ settings.activeToolNames

theorem Kept.of_ended (h : s.phase = .ended) : Kept settings s := by
  refine ⟨⟨?_, ?_⟩, ?_⟩
  all_goals
    intro _ _ hphase
    rw [h] at hphase
    cases hphase

/-- What is dealt with is not dropped. -/
theorem DealtWith.settled (h : DealtWith settings s s.requested) : Settled settings s :=
  ⟨fun _ _ _ => h.recorded, fun _ _ _ => h.executed⟩

/-- **A round deals with its calls up to the first one that pauses.** -/
theorem kept_handleCalls (round : ℕ) (calls : List (ToolCall × Answer)) {before : List ToolCall}
    (h : DealtWith settings s before) (hrequested : s.requested = before ++ calls.map Prod.fst)
    (messages : List Message) : Kept settings (handleCalls settings round s messages calls) := by
  induction calls generalizing s before messages with
  | nil =>
    rw [List.map_nil, List.append_nil] at hrequested
    unfold handleCalls
    split
    · refine ⟨DealtWith.settled ⟨?_, ?_⟩, fun _ _ hphase => by cases hphase⟩
      · rw [hrequested]
        exact h.recorded
      · rw [hrequested]
        exact h.executed
    · exact .of_ended rfl
  | cons entry calls ih =>
    obtain ⟨call, answer⟩ := entry
    rw [handleCalls]
    rcases handleCall_spec h call answer with ⟨t, message, heq, hsame, ht⟩ |
      ⟨t, pending, heq, hsame, ht, hcall, hactive⟩ | ⟨t, heq⟩
    · rw [heq]
      refine ih ht ?_ _
      rw [hsame, hrequested]
      simp
    · rw [heq]
      refine ⟨⟨fun _ _ hphase => (by cases hphase), fun _ _ hphase => (by cases hphase)⟩, ?_⟩
      intro p rest hphase
      cases hphase
      refine ⟨before, ?_, ⟨ht.recorded, ht.executed⟩, by rw [hcall]; exact hactive⟩
      rw [hcall]
      exact hsame.trans hrequested
    · rw [heq]
      exact .of_ended rfl

/-! ## Runs -/

/-- A step that approves nothing keeps this. -/
theorem Kept.step {label : Label} {t : State} (h : Kept settings s)
    (hstep : Rounds.step settings s label = some t) (hlabel : ∀ result, label ≠ .approve (some result)) :
    Kept settings t := by
  unfold Rounds.step at hstep
  split at hstep
  · rename_i round messages content calls hphase
    split at hstep
    · cases hstep
      exact .of_ended rfl
    · cases hstep
      refine kept_handleCalls (s := { s with requested := s.requested ++ calls.map Prod.fst }) round
        calls ⟨h.settled.recorded _ _ hphase, ?_⟩ rfl _
      exact h.settled.executed _ _ hphase
  · cases hstep
    exact .of_ended rfl
  · rename_i pending rest result hphase
    cases result with
    | none =>
      cases hstep
      exact .of_ended rfl
    | some result => exact absurd rfl (hlabel result)
  · cases hstep
    exact .of_ended rfl
  · cases hstep

/-- An approved call is dealt with. -/
theorem DealtWith.approve {before : List ToolCall} (h : DealtWith settings s before)
    {pending : Pending} (hactive : pending.call.name ∈ settings.activeToolNames) (result : Text) :
    DealtWith settings ((((s.add (.approvalResponse true)).add
      (.toolCall pending.call.id pending.call.name pending.args)).start pending.call).add
        (.toolResult pending.call.id pending.call.name result)) (before ++ [pending.call]) where
  recorded := by simp [h.recorded, resultId]
  executed := by
    have hnew : authorized settings [pending.call] = [pending.call] := by
      simp [authorized, hactive]
    rw [authorized, List.filter_append, ← authorized, ← authorized, hnew, ← h.executed]
    rfl

/-- **An approval drops the calls that come after the approved one.** -/
theorem settled_approve_iff {result : Text} {t : State} {pending : Pending} {rest : List ToolCall}
    (h : Kept settings s) (hphase : s.phase = .waiting pending rest)
    (hstep : step settings s (.approve (some result)) = some t) :
    (∃ round messages, t.phase = .asking round messages) ∧ (Settled settings t ↔ rest = []) := by
  obtain ⟨before, hrequested, hbefore, hactive⟩ := h.waiting pending rest hphase
  obtain ⟨hrecorded, hexecuted⟩ := hbefore.approve hactive result
  unfold step at hstep
  rw [hphase] at hstep
  cases hstep
  refine ⟨⟨_, _, rfl⟩, ?_⟩
  have hsplit : s.requested = (before ++ [pending.call]) ++ rest := by
    rw [hrequested, List.append_assoc]
    rfl
  constructor
  · intro hsettled
    -- each call would have a result, and those after the approved one have none
    have hall : (before ++ [pending.call]).map ToolCall.id = s.requested.map ToolCall.id :=
      hrecorded.symm.trans (hsettled.recorded _ _ rfl)
    have hlength := congrArg List.length hall
    simp only [hsplit, List.length_map, List.length_append] at hlength
    exact List.eq_nil_of_length_eq_zero (by omega)
  · rintro rfl
    rw [List.append_nil] at hsplit
    constructor
    · intro _ _ _
      refine hrecorded.trans ?_
      rw [← hsplit]
      rfl
    · intro _ _ _
      refine hexecuted.trans ?_
      rw [← hsplit]
      rfl

/-- The start of a run. -/
def State.begin (history : List Row) : State where
  history := history
  phase := .asking 0 (rebuildLlmMessages history)

/-- **The runs in which no call is dropped are the runs in which every approved call is the last one of
its round.** -/
theorem settled_iff (settings : Settings) (history : List Row) (t : State) (labels : List Label) :
    Run (step settings) (LeadsToSettled settings) (.begin history) labels t ↔
      Run (step settings) ApprovesLast (.begin history) labels t := by
  refine Run.leadsTo_iff (I := Kept settings) ?_ ?_ ?_
  · intro s label t h hstep
    by_cases happroves : ∃ result, label = .approve (some result)
    · obtain ⟨result, rfl⟩ := happroves
      cases hphase : s.phase with
      | waiting pending rest =>
        rw [(settled_approve_iff h hphase hstep).2]
        constructor
        · rintro hrest p r x hp -
          rw [hphase] at hp
          cases hp
          exact hrest
        · intro hlast
          exact hlast pending rest result hphase rfl
      | asking round messages =>
        unfold step at hstep
        rw [hphase] at hstep
        cases hstep
      | ended =>
        unfold step at hstep
        rw [hphase] at hstep
        cases hstep
    · refine iff_of_true (h.step hstep fun result heq => happroves ⟨result, heq⟩).settled ?_
      intro p r result _ heq
      exact absurd ⟨result, heq⟩ happroves
  · intro s label t h hstep hsettled
    by_cases happroves : ∃ result, label = .approve (some result)
    · obtain ⟨result, rfl⟩ := happroves
      refine ⟨hsettled, fun p rest hwaiting => ?_⟩
      cases hphase : s.phase with
      | waiting pending calls =>
        obtain ⟨⟨round, messages, hasking⟩, -⟩ := settled_approve_iff h hphase hstep
        rw [hasking] at hwaiting
        cases hwaiting
      | asking round messages =>
        unfold step at hstep
        rw [hphase] at hstep
        cases hstep
      | ended =>
        unfold step at hstep
        rw [hphase] at hstep
        cases hstep
    · exact h.step hstep fun result heq => happroves ⟨result, heq⟩
  · exact ⟨⟨fun _ _ _ => rfl, fun _ _ _ => rfl⟩, fun _ _ hphase => by cases hphase⟩

/-! ## What the model is told -/

/-- The id of a result that is sent to the model. -/
def toolId : Message → Option Text
  | .tool toolCallId _ => some toolCallId
  | .text .. | .toolCalls .. => none

/-- The rows of the chat history so far. -/
def State.allRows (s : State) : List Row := s.history ++ s.rows

/-- The model is told of exactly the recorded results. -/
def Told (s : State) (messages : List Message) : Prop :=
  messages.filterMap toolId = s.allRows.filterMap resultId

/-- The results of these rows are recorded under ids that are not empty. -/
def Named (rows : List Row) : Prop := ∀ row ∈ rows, ∀ id ∈ resultId row, id ≠ []

theorem told_rebuildLlmMessages {rows : List Row} (h : Named rows) :
    (rebuildLlmMessages rows).filterMap toolId = rows.filterMap resultId := by
  rw [rebuildLlmMessages, List.filterMap_filterMap]
  refine List.filterMap_congr fun row hrow => ?_
  have hname := h row hrow
  unfold rowMessage resultId at *
  cases hcontent : row.content with
  | toolResult toolCallId name result =>
    have hid : toolCallId ≠ [] := hname toolCallId (by rw [hcontent]; rfl)
    simp [toolId, idOr, hid]
  | text role content => rfl
  | toolCall toolCallId name args => rfl
  | approvalRequest toolCallId name args riskLevel => rfl
  | approvalResponse approved => rfl

/-- What holds of a run whose calls have ids: the results have names, so does the call that waits, and
the model is told of the results. -/
structure Telling (s : State) : Prop where
  named : Named s.allRows
  told : ∀ round messages, s.phase = .asking round messages → Told s messages
  waiting : ∀ pending rest, s.phase = .waiting pending rest → pending.call.id ≠ []

theorem Telling.of_ended (hnamed : Named s.allRows) (h : s.phase = .ended) : Telling s := by
  refine ⟨hnamed, ?_, ?_⟩
  all_goals
    intro _ _ hphase
    rw [h] at hphase
    cases hphase

theorem allRows_add (s : State) (content : Content) : (s.add content).allRows =
    s.allRows ++ [⟨s.history.length + s.rows.length, content⟩] :=
  (List.append_assoc _ _ _).symm

@[simp] theorem allRows_start (s : State) (call : ToolCall) : (s.start call).allRows = s.allRows := rfl

@[simp] theorem allResults_add (s : State) (content : Content) :
    (s.add content).allRows.filterMap resultId =
      s.allRows.filterMap resultId ++ (resultId ⟨0, content⟩).toList := by
  rw [allRows_add, List.filterMap_append]
  cases content <;> rfl

theorem Named.add (h : Named s.allRows) {c : Content} (hc : ∀ id ∈ resultId ⟨0, c⟩, id ≠ []) :
    Named (s.add c).allRows := by
  rw [allRows_add]
  intro row hrow
  rcases List.mem_append.mp hrow with hrow | hrow
  · exact h row hrow
  · rw [List.mem_singleton.mp hrow]
    cases c <;> exact hc

/-- A call is told of under its id. -/
theorem handleCall_tells (hnamed : Named s.allRows) {call : ToolCall} (hid : call.id ≠ [])
    (answer : Answer) :
    (∃ t message, handleCall settings s call answer = .done t message ∧
      Named t.allRows ∧ toolId message = some call.id ∧
      t.allRows.filterMap resultId = s.allRows.filterMap resultId ++ [call.id]) ∨
    (∃ t pending, handleCall settings s call answer = .paused t pending ∧
      Named t.allRows ∧ pending.call = call) ∨
    ∃ t, handleCall settings s call answer = .raised t ∧ Named t.allRows := by
  have hresult : ∀ result : Text, ∀ id ∈ resultId ⟨0, .toolResult call.id call.name result⟩, id ≠ [] := by
    intro result id h
    rw [← Option.mem_some_iff.mp h]
    exact hid
  have hcalled : ∀ args, Named (s.add (.toolCall call.id call.name args)).allRows :=
    fun args => hnamed.add fun id h => by cases h
  unfold handleCall
  dsimp only
  split
  · exact .inl ⟨_, _, rfl, (hcalled _).add (hresult _), rfl, by simp [resultId]⟩
  · split
    · cases answer.result with
      | none => exact .inr (.inr ⟨_, rfl, hcalled _⟩)
      | some result =>
        dsimp only
        split
        · have hstarted : Named ((s.add (.toolCall call.id call.name (toolArgs settings call))).start
              call).allRows := hcalled _
          exact .inl ⟨_, _, rfl, hstarted.add (hresult _), rfl, by simp [resultId]⟩
        · exact .inr (.inr ⟨_, rfl, hcalled _⟩)
    · split
      · exact .inr (.inl ⟨_, _, rfl, hnamed.add fun id h => (by cases h), rfl⟩)
      · cases answer.result with
        | none => exact .inr (.inr ⟨_, rfl, hcalled _⟩)
        | some result =>
          have hstarted : Named ((s.add (.toolCall call.id call.name (toolArgs settings call))).start
              call).allRows := hcalled _
          exact .inl ⟨_, _, rfl, hstarted.add (hresult _), rfl, by simp [resultId]⟩

theorem telling_handleCalls (round : ℕ) {calls : List (ToolCall × Answer)}
    (hids : ∀ c ∈ calls, c.1.id ≠ []) (hnamed : Named s.allRows) {messages : List Message}
    (htold : Told s messages) : Telling (handleCalls settings round s messages calls) := by
  induction calls generalizing s messages with
  | nil =>
    unfold handleCalls
    split
    · refine ⟨hnamed, fun r ms hphase => ?_, fun _ _ hphase => by cases hphase⟩
      cases hphase
      exact htold
    · exact .of_ended hnamed rfl
  | cons entry calls ih =>
    obtain ⟨call, answer⟩ := entry
    obtain ⟨hid, hrest⟩ := List.forall_mem_cons.mp hids
    rw [handleCalls]
    rcases handleCall_tells hnamed hid answer with ⟨t, message, heq, ht, htool, hall⟩ |
      ⟨t, pending, heq, ht, hcall⟩ | ⟨t, heq, ht⟩
    · rw [heq]
      refine ih hrest ht ?_
      rw [Told, hall, List.filterMap_append, htold]
      simp [htool]
    · rw [heq]
      refine ⟨ht, fun _ _ hphase => (by cases hphase), fun p r hphase => ?_⟩
      cases hphase
      rw [hcall]
      exact hid
    · rw [heq]
      exact .of_ended ht rfl

/-- The calls of a reply have ids. -/
def HasIds (_ : State) (label : Label) : Prop :=
  ∀ content calls, label = .reply content calls → ∀ c ∈ calls, c.1.id ≠ []

theorem Telling.step {label : Label} {t : State} (h : Telling s) (hids : HasIds s label)
    (hstep : Rounds.step settings s label = some t) : Telling t := by
  unfold Rounds.step at hstep
  split at hstep
  · rename_i round messages content calls hphase
    split at hstep
    · cases hstep
      exact .of_ended h.named rfl
    · cases hstep
      refine telling_handleCalls (s := { s with requested := s.requested ++ calls.map Prod.fst }) round
        (hids content calls rfl) h.named ?_
      rw [Told, List.filterMap_append, h.told round messages hphase]
      exact List.append_nil _
  · cases hstep
    exact .of_ended h.named rfl
  · rename_i pending rest result hphase
    have hid := h.waiting pending rest hphase
    have hcalled : Named (((s.add (.approvalResponse true)).add
        (.toolCall pending.call.id pending.call.name pending.args)).start pending.call).allRows :=
      Named.add (h.named.add fun id hid => by cases hid) fun id hid => by cases hid
    cases result with
    | none =>
      cases hstep
      exact .of_ended hcalled rfl
    | some result =>
      have hnamed := hcalled.add (c := .toolResult pending.call.id pending.call.name result)
        fun id hmem => by rw [← Option.mem_some_iff.mp hmem]; exact hid
      cases hstep
      refine ⟨hnamed, fun _ _ hphase => ?_, fun _ _ hphase => by cases hphase⟩
      cases hphase
      exact told_rebuildLlmMessages hnamed
  · cases hstep
    exact .of_ended (h.named.add fun id hid => by cases hid) rfl
  · cases hstep

/-- A session in which two skills may be used. -/
def twoSkills : Settings where
  activeToolNames := ["execute_any_sql", "get_metrics"]
  codec := { dumps := fun _ => [], loads := fun _ => some (.obj []) }
  smartTruncate := id

/-- A statement and the metrics, asked for in one round. -/
def mixedRound : List (ToolCall × Answer) := [
  (⟨"call_1".toList, "execute_any_sql", "{}".toList⟩, ⟨"high", some "ok".toList⟩),
  (⟨"call_2".toList, "get_metrics", "{}".toList⟩, ⟨"safe", some "42".toList⟩)]

/-- The statement is approved. -/
def mixedLabels : List Label := [.reply [] mixedRound, .approve (some "ok".toList)]

/-- The run after that. -/
def afterMixed : State := (exec (step twoSkills) Always (.begin []) mixedLabels).getD (.begin [])

/-- **A call after an approved one is dropped**: the model is asked again, and `call_2` was neither run
nor answered. -/
theorem mixedRound_drops :
    Run (step twoSkills) Always (.begin []) mixedLabels afterMixed ∧
      afterMixed.requested.map ToolCall.id = ["call_1".toList, "call_2".toList] ∧
      afterMixed.resultIds = ["call_1".toList] ∧
      afterMixed.started.map ToolCall.id = ["call_1".toList] ∧ ¬ Settled twoSkills afterMixed := by
  have hids : afterMixed.resultIds = ["call_1".toList] := by decide
  have hrequested : afterMixed.requested.map ToolCall.id = ["call_1".toList, "call_2".toList] := by
    decide
  refine ⟨Run.of_isSome (by decide), hrequested, hids, by decide, fun h => ?_⟩
  have hall := h.recorded 0 (rebuildLlmMessages (afterMixed.history ++ afterMixed.rows)) rfl
  rw [hids, hrequested] at hall
  cases hall

end DBClaw.Rounds
