import DBClaw.Library.Json
import DBClaw.Library.Tallies
import Mathlib

/-! # The streams of a model
A turn of the assistant comes in pieces. The tool calls of a turn are told apart by an index, and the pieces of several
calls may come in any order. `_stream_openai_turn` and `_stream_anthropic_turn` pass the text on as it comes and put
the calls together for the last event. `toolCalls_reassembled` says that they are what the pieces were cut from, and
`providers_agree` that the loop of the conversation gets the same turn from either provider. -/

namespace DBClaw.Streams

open Tallies

/-! ## The turn -/

/-- `_normalize_usage`. -/
structure Usage where
  inputTokens : ℤ := 0
  outputTokens : ℤ := 0
  totalTokens : ℤ := 0
  deriving DecidableEq, Repr

/-- **`_normalize_usage`.** -/
def normalizeUsage (inputTokens outputTokens : Option ℤ) : Usage where
  inputTokens := inputTokens.getD 0
  outputTokens := outputTokens.getD 0
  totalTokens := inputTokens.getD 0 + outputTokens.getD 0

/-- A tool call with the text of its arguments. -/
structure ToolCall where
  id : Text := []
  name : Text := []
  arguments : Text := []
  deriving DecidableEq, Repr

/-- `stop_reason`. -/
inductive StopReason
  | endTurn | toolCalls
  deriving DecidableEq, Repr

/-- What a stream yields: the text as it comes, and at last the whole turn. -/
inductive Event
  | content (content : Text)
  | messageComplete (content reasoningContent : Text) (toolCalls : List ToolCall) (stopReason : StopReason)
      (usage : Usage)
  deriving DecidableEq, Repr

/-- What is collected of a turn. -/
structure Collected where
  content : Text := []
  reasoningContent : Text := []
  toolCalls : AList (fun _ : ℤ => ToolCall) := ∅
  currentToolIndex : Option ℤ := none
  finalStopReason : StopReason := .endTurn
  usage : Usage := normalizeUsage none none

/-- The tool calls in the order of their indices. -/
def Collected.calls (s : Collected) : List ToolCall := inKeyOrder s.toolCalls

/-- The last event. -/
def Collected.complete (s : Collected) : Event :=
  .messageComplete s.content s.reasoningContent s.calls (if s.calls = [] then .endTurn else s.finalStopReason) s.usage

/-! ## Chunks of OpenAI -/

/-- `tc.function`. -/
structure FunctionDelta where
  name : Option Text := none
  arguments : Option Text := none
  deriving DecidableEq, Repr

/-- An entry of `delta.tool_calls`. -/
structure ToolDelta where
  index : ℤ
  id : Option Text := none
  function : Option FunctionDelta := none
  deriving DecidableEq, Repr

/-- `delta`. -/
structure Delta where
  content : Option Text := none
  reasoningContent : Json := .null
  toolCalls : List ToolDelta := []

/-- `chunk.choices[0]`. -/
structure Choice where
  delta : Option Delta
  finishReason : Option Text := none

/-- `chunk`, with its usage as a pair of token counts. -/
structure Chunk where
  usage : Option (Option ℤ × Option ℤ) := none
  choice : Option Choice := none

mutual

/-- **`_coerce_stream_text`** of a JSON value. -/
def coerceStreamText : Json → Text
  | .null | .bool _ | .int _ | .float _ => []
  | .str s => s
  | .arr xs => coerceStreamTexts xs
  | .obj fields => coerceField ["text", "content", "reasoning", "thinking", "reasoning_content"] fields

/-- The texts of a list. -/
def coerceStreamTexts : List Json → Text
  | [] => []
  | x :: xs => coerceStreamText x ++ coerceStreamTexts xs

/-- The first of the keys that is there. -/
def coerceField : List String → List (String × Json) → Text
  | [], _ => []
  | key :: keys, fields => (coerceKey key fields).getD (coerceField keys fields)

/-- The field with the key. -/
def coerceKey (key : String) : List (String × Json) → Option Text
  | [] => none
  | (k, value) :: fields => if k = key then some (coerceStreamText value) else coerceKey key fields

end

/-- A text that Python takes for true. -/
def given (t : Option Text) : Option Text := t.filter (· ≠ [])

/-- What a delta makes of its call. -/
def ToolDelta.update (tc : ToolDelta) (call : Option ToolCall) : ToolCall :=
  let call := call.getD { id := tc.id.getD [] }
  { id := (given tc.id).getD call.id
    name := (tc.function.bind fun f => given f.name).getD call.name
    arguments := call.arguments ++ (tc.function.bind FunctionDelta.arguments).getD [] }

/-- A finish reason of OpenAI. -/
def StopReason.ofFinish (finishReason : Option Text) (default : StopReason) : StopReason :=
  if finishReason = some "tool_calls".toList then .toolCalls
  else if finishReason = some "stop".toList then .endTurn
  else default

/-- The usage of a chunk. -/
def Collected.addUsage (s : Collected) (usage : Option (Option ℤ × Option ℤ)) : Collected :=
  match usage with
  | some (promptTokens, completionTokens) => { s with usage := normalizeUsage promptTokens completionTokens }
  | none => s

/-- **A chunk** of `_stream_openai_turn`: what it yields, and what is collected after it. -/
def Collected.addChunk (s : Collected) (chunk : Chunk) : List Event × Collected :=
  let s := s.addUsage chunk.usage
  match chunk.choice with
  | some ⟨some delta, finishReason⟩ =>
    ((given delta.content).toList.map .content, { s with
      content := s.content ++ delta.content.getD []
      reasoningContent := s.reasoningContent ++ coerceStreamText delta.reasoningContent
      toolCalls := pass ToolDelta.index ToolDelta.update delta.toolCalls s.toolCalls
      finalStopReason := .ofFinish finishReason s.finalStopReason })
  | _ => ([], s)

/-! ## Events of Anthropic -/

/-- An event of the stream. A block that starts is a tool call with its id and its name, or another one. -/
inductive BlockEvent
  | contentBlockStart (index : ℤ) (toolUse : Option (Text × Text))
  | textDelta (text : Text)
  | inputJsonDelta (index : Option ℤ) (partialJson : Text)
  | messageDelta (stopReason : Option Text)
  | other
  deriving DecidableEq, Repr

/-- `stream.get_final_message()`. -/
structure FinalMessage where
  stopReason : Option Text := none
  usage : Option (Option ℤ × Option ℤ) := none

/-- A stop reason of Anthropic. -/
def StopReason.ofStop (stopReason : Option Text) (default : StopReason) : StopReason :=
  if stopReason = some "tool_use".toList then .toolCalls
  else if stopReason = some "end_turn".toList then .endTurn
  else default

/-- The arguments of a call go on, if it has begun. -/
def Collected.addArguments (s : Collected) (index : Option ℤ) (partialJson : Text) : Collected :=
  match (index.or s.currentToolIndex).bind fun i => (s.toolCalls.lookup i).map fun call => (i, call) with
  | some (i, call) =>
    { s with toolCalls := s.toolCalls.insert i { call with arguments := call.arguments ++ partialJson } }
  | none => s

/-- **An event** of `_stream_anthropic_turn`. -/
def Collected.addEvent (s : Collected) : BlockEvent → List Event × Collected
  | .contentBlockStart index (some (id, name)) =>
    ([], { s with
      currentToolIndex := some index
      toolCalls := s.toolCalls.insert index { id, name } })
  | .textDelta text => ([.content text], { s with content := s.content ++ text })
  | .inputJsonDelta index partialJson => ([], s.addArguments index partialJson)
  | .messageDelta stopReason => ([], { s with finalStopReason := .ofStop stopReason s.finalStopReason })
  | .contentBlockStart _ none | .other => ([], s)

/-- The message at the end of the stream. -/
def Collected.addFinal (s : Collected) (final : FinalMessage) : Collected :=
  ({ s with finalStopReason := .ofStop final.stopReason s.finalStopReason }).addUsage final.usage

/-! ## The streams -/

section Pieces

variable {ε : Type} (step : Collected → ε → List Event × Collected)

/-- What the pieces of a stream yield, and what is collected at its end. -/
def collect : Collected → List ε → List Event × Collected
  | s, [] => ([], s)
  | s, e :: pieces => ((step s e).1 ++ (collect (step s e).2 pieces).1, (collect (step s e).2 pieces).2)

end Pieces

/-- **`_stream_openai_turn`.** -/
def streamOpenaiTurn (chunks : List Chunk) : List Event :=
  let collected := collect Collected.addChunk {} chunks
  collected.1 ++ [collected.2.complete]

/-- **`_stream_anthropic_turn`.** -/
def streamAnthropicTurn (events : List BlockEvent) (final : FinalMessage) : List Event :=
  let collected := collect Collected.addEvent {} events
  collected.1 ++ [(collected.2.addFinal final).complete]

/-- The text that an event passes on. -/
def Event.text : Event → Text
  | .content text => text
  | .messageComplete .. => []

/-- The text and the tool calls of the turn that a stream ends with. -/
def turnOf (events : List Event) : Option (Text × List ToolCall) :=
  events.getLast?.bind fun
    | .messageComplete content _ toolCalls _ _ => some (content, toolCalls)
    | .content _ => none

theorem turnOf_complete (events : List Event) (s : Collected) :
    turnOf (events ++ [s.complete]) = some (s.content, s.calls) := by
  rw [turnOf, List.getLast?_concat]
  rfl

/-! ## The text of a turn -/

variable {ε : Type} {step : Collected → ε → List Event × Collected}

/-- **The text is collected as it is passed on**, if every piece does so. -/
theorem collect_content (h : ∀ s e, (step s e).2.content = s.content ++ (step s e).1.flatMap Event.text)
    (s : Collected) (pieces : List ε) :
    (collect step s pieces).2.content = s.content ++ (collect step s pieces).1.flatMap Event.text := by
  induction pieces generalizing s with
  | nil => exact (List.append_nil _).symm
  | cons e pieces ih =>
    rw [collect, ih, h, List.flatMap_append, List.append_assoc]

theorem addUsage_content (s : Collected) (usage : Option (Option ℤ × Option ℤ)) :
    (s.addUsage usage).content = s.content := by
  cases usage with
  | none => rfl
  | some usage => rfl

theorem addUsage_toolCalls (s : Collected) (usage : Option (Option ℤ × Option ℤ)) :
    (s.addUsage usage).toolCalls = s.toolCalls := by
  cases usage with
  | none => rfl
  | some usage => rfl

theorem flatMap_given (t : Option Text) : ((given t).toList.map Event.content).flatMap Event.text = t.getD [] := by
  cases t with
  | none => rfl
  | some t =>
    by_cases ht : t = []
    · rw [ht]
      rfl
    · rw [given, Option.filter_some, if_pos (decide_eq_true ht)]
      exact List.append_nil t

theorem addChunk_content (s : Collected) (chunk : Chunk) :
    (s.addChunk chunk).2.content = s.content ++ (s.addChunk chunk).1.flatMap Event.text := by
  unfold Collected.addChunk
  dsimp only
  split
  · dsimp only
    rw [flatMap_given, addUsage_content]
  · rw [addUsage_content]
    exact (List.append_nil _).symm

theorem addArguments_content (s : Collected) (index : Option ℤ) (partialJson : Text) :
    (s.addArguments index partialJson).content = s.content := by
  unfold Collected.addArguments
  split
  · rfl
  · rfl

/-! ## The tool calls of OpenAI -/

/-- The tool deltas of a chunk. -/
def Chunk.toolDeltas (chunk : Chunk) : List ToolDelta :=
  match chunk.choice with
  | some ⟨some delta, _⟩ => delta.toolCalls
  | _ => []

/-- The tool deltas of a stream. -/
def toolDeltas (chunks : List Chunk) : List ToolDelta := chunks.flatMap Chunk.toolDeltas

/-- The tool deltas of a call. -/
def deltasOf (deltas : List ToolDelta) (index : ℤ) : List ToolDelta := deltas.filter fun d => d.index = index

theorem addChunk_toolCalls (s : Collected) (chunk : Chunk) :
    (s.addChunk chunk).2.toolCalls = pass ToolDelta.index ToolDelta.update chunk.toolDeltas s.toolCalls := by
  unfold Collected.addChunk Chunk.toolDeltas
  dsimp only
  split
  · exact congrArg (pass _ _ _) (addUsage_toolCalls s _)
  · exact addUsage_toolCalls s _

theorem collect_toolCalls (s : Collected) (chunks : List Chunk) :
    (collect Collected.addChunk s chunks).2.toolCalls =
      pass ToolDelta.index ToolDelta.update (toolDeltas chunks) s.toolCalls := by
  induction chunks generalizing s with
  | nil => rfl
  | cons chunk chunks ih =>
    rw [collect, ih, addChunk_toolCalls, Tallies.pass, Tallies.pass, ← List.foldl_append]
    rfl

/-- **What is kept of a call** comes from its own deltas, in whatever order those of other calls come. -/
theorem lookup_collected (chunks : List Chunk) (index : ℤ) :
    (collect Collected.addChunk {} chunks).2.toolCalls.lookup index =
      run ToolDelta.update (deltasOf (toolDeltas chunks) index) none := by
  rw [collect_toolCalls, lookup_pass]
  rfl

/-- The id that a delta gives. -/
def ToolDelta.givenId (d : ToolDelta) : Option Text := given d.id

/-- The name that a delta gives. -/
def ToolDelta.givenName (d : ToolDelta) : Option Text := d.function.bind fun f => given f.name

/-- The piece of the arguments in a delta. -/
def ToolDelta.piece (d : ToolDelta) : Text := (d.function.bind FunctionDelta.arguments).getD []

/-- All texts that are given are the same one, and there is one unless it is empty. -/
def Agrees (texts : List Text) (text : Text) : Prop := (∀ t ∈ texts, t = text) ∧ (texts = [] → text = [])

instance (texts : List Text) (text : Text) : Decidable (Agrees texts text) := inferInstanceAs (Decidable (_ ∧ _))

/-- **The deltas are pieces of a call**: they carry its id and its name, at any of them and any number of times, and
its arguments in pieces. -/
structure Pieces (call : ToolCall) (deltas : List ToolDelta) : Prop where
  nonempty : deltas ≠ []
  id : Agrees (deltas.filterMap ToolDelta.givenId) call.id
  name : Agrees (deltas.filterMap ToolDelta.givenName) call.name
  arguments : deltas.flatMap ToolDelta.piece = call.arguments

theorem Agrees.getLast? {texts : List Text} {text : Text} (h : Agrees texts text) : texts.getLast?.getD [] = text := by
  rcases List.eq_nil_or_concat texts with rfl | ⟨texts, t, rfl⟩
  · exact (h.2 rfl).symm
  · rw [List.concat_eq_append] at h ⊢
    rw [List.getLast?_concat]
    exact h.1 t (List.mem_append_right _ (List.mem_singleton_self t))

theorem getLast?_filterMap_cons {α : Type} (f : α → Option Text) (a : α) (l : List α) (default : Text) :
    ((a :: l).filterMap f).getLast?.getD default = (l.filterMap f).getLast?.getD ((f a).getD default) := by
  cases ha : f a with
  | none => rw [List.filterMap_cons_none ha, Option.getD_none]
  | some t => rw [List.filterMap_cons_some ha, List.getLast?_cons, Option.getD_some, Option.getD_some]

/-- What deltas make of a call that has begun: the last id and the last name, and all pieces. -/
theorem run_update (deltas : List ToolDelta) (call : ToolCall) :
    run ToolDelta.update deltas (some call) = some {
      id := (deltas.filterMap ToolDelta.givenId).getLast?.getD call.id
      name := (deltas.filterMap ToolDelta.givenName).getLast?.getD call.name
      arguments := call.arguments ++ deltas.flatMap ToolDelta.piece } := by
  induction deltas generalizing call with
  | nil =>
    rw [run_nil, List.flatMap_nil, List.append_nil]
    rfl
  | cons d deltas ih =>
    rw [run_cons, ih, getLast?_filterMap_cons, getLast?_filterMap_cons, List.flatMap_cons, ← List.append_assoc]
    rfl

/-- The first delta of a call is added to an empty one. -/
theorem update_none (d : ToolDelta) : d.update none = d.update (some {}) := by
  unfold ToolDelta.update
  dsimp only [Option.getD_none, Option.getD_some]
  congr 1
  rcases hid : d.id with _ | id
  · rfl
  · by_cases hnil : id = []
    · rw [hnil]
      rfl
    · rw [given, Option.filter_some, if_pos (decide_eq_true hnil)]
      rfl

/-- **The pieces of a call make the call.** -/
theorem Pieces.run_eq {call : ToolCall} {deltas : List ToolDelta} (h : Pieces call deltas) :
    run ToolDelta.update deltas none = some call := by
  cases deltas with
  | nil => exact absurd rfl h.nonempty
  | cons d deltas =>
    have hrun : run ToolDelta.update (d :: deltas) none = run ToolDelta.update (d :: deltas) (some {}) := by
      rw [run_cons, run_cons, update_none]
    rw [hrun, run_update]
    refine congrArg some ?_
    have hid := h.id.getLast?
    have hname := h.name.getLast?
    have harguments := h.arguments
    cases call
    dsimp only at hid hname harguments ⊢
    rw [hid, hname, harguments, List.nil_append]

/-- **The tool calls of a turn are reassembled**: whatever the chunks, and in whatever order they carry the pieces of
the calls, the last event has the calls in the order of their indices, with the text that was passed on. -/
theorem toolCalls_reassembled (chunks : List Chunk) (calls : List (ℤ × ToolCall))
    (hsorted : (calls.map Prod.fst).Pairwise (· < ·)) (hindex : ∀ d ∈ toolDeltas chunks, d.index ∈ calls.map Prod.fst)
    (hpieces : ∀ call ∈ calls, Pieces call.2 (deltasOf (toolDeltas chunks) call.1)) :
    turnOf (streamOpenaiTurn chunks) =
      some ((streamOpenaiTurn chunks).flatMap Event.text, calls.map Prod.snd) := by
  have hcalls : (collect Collected.addChunk {} chunks).2.calls = calls.map Prod.snd := by
    refine inKeyOrder_eq hsorted fun index call => ?_
    rw [lookup_collected]
    constructor
    · intro hsome
      -- a call that is kept has a delta, so it is one of the calls
      have hne : deltasOf (toolDeltas chunks) index ≠ [] := by
        intro hnil
        rw [hnil] at hsome
        cases hsome
      obtain ⟨d, hd⟩ := List.exists_mem_of_ne_nil _ hne
      obtain ⟨hd, hdindex⟩ := List.mem_filter.mp hd
      obtain ⟨⟨index', call'⟩, hmem, hindex'⟩ := List.mem_map.mp (hindex d hd)
      have heq : index' = index := hindex'.trans (of_decide_eq_true hdindex)
      subst heq
      rw [(hpieces _ hmem).run_eq] at hsome
      exact Option.some.inj hsome ▸ hmem
    · intro hmem
      exact (hpieces _ hmem).run_eq
  have htext : (streamOpenaiTurn chunks).flatMap Event.text = (collect Collected.addChunk {} chunks).2.content := by
    rw [collect_content addChunk_content, streamOpenaiTurn, List.flatMap_append]
    exact List.append_nil _
  rw [htext, streamOpenaiTurn, turnOf_complete, hcalls]

/-- Two calls whose pieces come in turn. -/
def twoCalls : List Chunk :=
  let delta (toolCalls : List ToolDelta) : Chunk := { choice := some { delta := some { toolCalls } } }
  [delta [⟨0, some ['a'], some { name := some ['p'] }⟩], delta [⟨1, some ['b'], some { name := some ['q'] }⟩],
    delta [⟨0, none, some { arguments := some ['1'] }⟩, ⟨1, none, some { arguments := some ['3'] }⟩],
    delta [⟨0, none, some { arguments := some ['2'] }⟩]]

theorem twoCalls_reassembled :
    turnOf (streamOpenaiTurn twoCalls) = some ([], [⟨['a'], ['p'], ['1', '2']⟩, ⟨['b'], ['q'], ['3']⟩]) := by
  refine toolCalls_reassembled twoCalls [(0, ⟨['a'], ['p'], ['1', '2']⟩), (1, ⟨['b'], ['q'], ['3']⟩)] (by decide)
    (by decide) fun call hcall => ?_
  simp only [List.mem_cons, List.not_mem_nil, or_false] at hcall
  rcases hcall with rfl | rfl
  · exact ⟨by decide, by decide, by decide, by decide⟩
  · exact ⟨by decide, by decide, by decide, by decide⟩

/-! ## The tool calls of Anthropic -/

/-- The tool deltas that would tell OpenAI's stream the same; an event without an index is about the last call. -/
def eventDeltas : Option ℤ → List BlockEvent → List ToolDelta
  | _, [] => []
  | _, .contentBlockStart index (some (id, name)) :: events =>
    { index, id := some id, function := some { name := some name } } :: eventDeltas (some index) events
  | current, .inputJsonDelta index partialJson :: events =>
    ((index.or current).toList.map fun i => { index := i, function := some { arguments := some partialJson } }) ++
      eventDeltas current events
  | current, _ :: events => eventDeltas current events

/-- **The calls of a stream are in order**: no index begins twice, and no call goes on before it has begun. -/
def Orderly : List ℤ → Option ℤ → List BlockEvent → Prop
  | _, _, [] => True
  | started, _, .contentBlockStart index (some _) :: events =>
    index ∉ started ∧ Orderly (index :: started) (some index) events
  | started, current, .inputJsonDelta index _ :: events =>
    (∀ i ∈ index.or current, i ∈ started) ∧ Orderly started current events
  | started, current, _ :: events => Orderly started current events

/-- The text of an event. -/
def BlockEvent.text : BlockEvent → Text
  | .textDelta text => text
  | _ => []

/-- The text of a chunk. -/
def Chunk.text (chunk : Chunk) : Text :=
  match chunk.choice with
  | some ⟨some delta, _⟩ => delta.content.getD []
  | _ => []

/-- A call that begins. -/
theorem update_start (index : ℤ) (id name : Text) :
    (ToolDelta.mk index (some id) (some { name := some name })).update none = { id, name } := by
  have hgiven (t default : Text) (hdefault : t = [] → default = []) : (given (some t)).getD default = t := by
    by_cases ht : t = []
    · rw [hdefault ht, ht]
      rfl
    · rw [given, Option.filter_some, if_pos (decide_eq_true ht)]
      rfl
  show ToolCall.mk ((given (some id)).getD id) ((given (some name)).getD []) [] = ToolCall.mk id name []
  rw [hgiven id id fun hnil => hnil, hgiven name [] fun _ => rfl]

/-- A call that goes on. -/
theorem update_goOn (index : ℤ) (partialJson : Text) (call : ToolCall) :
    (ToolDelta.mk index none (some { arguments := some partialJson })).update (some call) =
      { call with arguments := call.arguments ++ partialJson } := rfl

/-- What a call that begins is to the collected ones. -/
theorem toolCalls_start {s : Collected} {index : ℤ} (hnew : index ∉ s.toolCalls) (id name : Text) :
    (s.addEvent (.contentBlockStart index (some (id, name)))).2.toolCalls =
      Tallies.modify s.toolCalls index (ToolDelta.mk index (some id) (some { name := some name })).update := by
  rw [Tallies.modify, AList.lookup_eq_none.mpr hnew, update_start]
  rfl

/-- What a call that goes on is to them. -/
theorem addArguments_of_mem {s : Collected} {index : Option ℤ} {i : ℤ} (hcurrent : index.or s.currentToolIndex = some i)
    (hmem : i ∈ s.toolCalls) (partialJson : Text) : s.addArguments index partialJson =
      { s with
        toolCalls :=
          Tallies.modify s.toolCalls i (ToolDelta.mk i none (some { arguments := some partialJson })).update } := by
  obtain ⟨call, hcall⟩ := Option.isSome_iff_exists.mp (AList.lookup_isSome.mpr hmem)
  rw [Collected.addArguments, hcurrent, Option.bind_some, hcall, Tallies.modify, hcall, update_goOn]
  rfl

/-- **The events collect the calls that their deltas would.** -/
theorem collect_events (events : List BlockEvent) {s : Collected} {started : List ℤ}
    (hstarted : ∀ i, i ∈ s.toolCalls ↔ i ∈ started) (h : Orderly started s.currentToolIndex events) :
    (collect Collected.addEvent s events).2.toolCalls =
      Tallies.pass ToolDelta.index ToolDelta.update (eventDeltas s.currentToolIndex events) s.toolCalls := by
  induction events generalizing s started with
  | nil => rfl
  | cons event events ih =>
    rw [collect]
    cases event with
    | contentBlockStart index toolUse =>
      cases toolUse with
      | none => exact ih hstarted h
      | some toolUse =>
        obtain ⟨hnew, hrest⟩ := h
        refine (ih (fun i => ?_) hrest).trans ?_
        · show i ∈ s.toolCalls.insert index _ ↔ _
          rw [AList.mem_insert, hstarted, List.mem_cons]
        · rw [toolCalls_start fun hmem => hnew ((hstarted index).mp hmem)]
          rfl
    | textDelta text => exact ih hstarted h
    | messageDelta stopReason => exact ih hstarted h
    | other => exact ih hstarted h
    | inputJsonDelta index partialJson =>
      obtain ⟨hbegun, hrest⟩ := h
      show (collect Collected.addEvent (s.addArguments index partialJson) events).2.toolCalls = _
      rcases hcurrent : index.or s.currentToolIndex with _ | i
      · -- there is no call that could go on
        have hadd : s.addArguments index partialJson = s := by
          rw [Collected.addArguments, hcurrent]
          rfl
        rw [hadd, eventDeltas, hcurrent]
        exact ih hstarted hrest
      · have hmem : i ∈ s.toolCalls := (hstarted i).mpr (hbegun i hcurrent)
        rw [addArguments_of_mem hcurrent hmem, eventDeltas, hcurrent]
        refine ih (fun j => ?_) hrest
        show j ∈ s.toolCalls.insert i _ ↔ _
        rw [AList.mem_insert, ← hstarted j]
        exact ⟨fun hj => hj.elim (fun hji => hji ▸ hmem) id, .inr⟩

/-- The text of a stream is what its pieces carry. -/
theorem collect_text {text : ε → Text} (h : ∀ s e, (step s e).2.content = s.content ++ text e) (s : Collected)
    (pieces : List ε) : (collect step s pieces).2.content = s.content ++ pieces.flatMap text := by
  induction pieces generalizing s with
  | nil => exact (List.append_nil _).symm
  | cons e pieces ih => rw [collect, ih, h, List.flatMap_cons, List.append_assoc]

theorem addChunk_text (s : Collected) (chunk : Chunk) : (s.addChunk chunk).2.content = s.content ++ chunk.text := by
  unfold Collected.addChunk Chunk.text
  dsimp only
  split
  · exact congrArg (· ++ _) (addUsage_content s _)
  · exact (addUsage_content s _).trans (List.append_nil _).symm

theorem addEvent_text (s : Collected) (event : BlockEvent) : (s.addEvent event).2.content = s.content ++ event.text := by
  cases event with
  | contentBlockStart index toolUse => cases toolUse <;> exact (List.append_nil _).symm
  | textDelta text => rfl
  | inputJsonDelta index partialJson => exact (addArguments_content s index partialJson).trans (List.append_nil _).symm
  | messageDelta stopReason => exact (List.append_nil _).symm
  | other => exact (List.append_nil _).symm

/-- **The providers agree**: where the calls of Anthropic's stream are in order, and OpenAI's chunks carry the same text
and for each call the same deltas, in whatever order those of several calls come, both turns end with the same text and
the same tool calls. -/
theorem providers_agree (chunks : List Chunk) (events : List BlockEvent) (final : FinalMessage)
    (horderly : Orderly [] none events) (htext : chunks.flatMap Chunk.text = events.flatMap BlockEvent.text)
    (hdeltas : ∀ index, deltasOf (toolDeltas chunks) index = deltasOf (eventDeltas none events) index) :
    turnOf (streamOpenaiTurn chunks) = turnOf (streamAnthropicTurn events final) := by
  have hcontent : (collect Collected.addChunk {} chunks).2.content = (collect Collected.addEvent {} events).2.content := by
    rw [collect_text addChunk_text, collect_text addEvent_text, htext]
  have hcalls : (collect Collected.addChunk {} chunks).2.calls = (collect Collected.addEvent {} events).2.calls := by
    refine inKeyOrder_congr fun index => ?_
    have hempty : ∀ i, i ∈ ({} : Collected).toolCalls ↔ i ∈ ([] : List ℤ) := fun i =>
      ⟨fun h => absurd h (AList.notMem_empty i), fun h => absurd h List.not_mem_nil⟩
    rw [lookup_collected, hdeltas, collect_events events hempty horderly, lookup_pass]
    rfl
  have hfinal : ((collect Collected.addEvent {} events).2.addFinal final).content =
      (collect Collected.addEvent {} events).2.content := addUsage_content _ _
  have hfinalCalls : ((collect Collected.addEvent {} events).2.addFinal final).calls =
      (collect Collected.addEvent {} events).2.calls := congrArg inKeyOrder (addUsage_toolCalls _ _)
  rw [streamOpenaiTurn, streamAnthropicTurn, turnOf_complete, turnOf_complete, hcontent, hcalls, hfinal, hfinalCalls]

theorem twoCalls_agree :
    turnOf (streamOpenaiTurn twoCalls) = turnOf (streamAnthropicTurn
      [.contentBlockStart 0 (some (['a'], ['p'])), .inputJsonDelta (some 0) ['1'], .inputJsonDelta (some 0) ['2'],
        .contentBlockStart 1 (some (['b'], ['q'])), .inputJsonDelta (some 1) ['3']] {}) := by
  have hgoOn (i : ℤ) (started : List ℤ) (hi : i ∈ started) : ∀ j ∈ (some i).or (some i), j ∈ started := by
    rintro j ⟨⟩
    exact hi
  refine providers_agree _ _ _ ⟨by decide, hgoOn 0 [0] (by decide), hgoOn 0 [0] (by decide), by decide,
    hgoOn 1 [1, 0] (by decide), trivial⟩ (by decide) fun index => ?_
  by_cases hfirst : index = 0
  · rw [hfirst]
    decide
  · by_cases hsecond : index = 1
    · rw [hsecond]
      decide
    · -- there is no other call
      have hindices (deltas : List ToolDelta) (h : ∀ d ∈ deltas, d.index = 0 ∨ d.index = 1) : deltasOf deltas index = [] := by
        refine List.filter_eq_nil_iff.mpr fun d hd hindex => ?_
        rcases h d hd with h | h
        · exact hfirst ((of_decide_eq_true hindex).symm.trans h)
        · exact hsecond ((of_decide_eq_true hindex).symm.trans h)
      rw [hindices (toolDeltas twoCalls) (by decide), hindices _ (by decide)]

end DBClaw.Streams
