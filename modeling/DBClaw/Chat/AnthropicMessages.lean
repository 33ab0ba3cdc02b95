import DBClaw.Chat.ToolResults
import Mathlib

/-! # Messages for Anthropic
A conversation is kept in the format of OpenAI. Anthropic wants the system texts apart, the results of tools in the
messages of the user, and the two roles in turn. `convertMessagesForAnthropic` translates message by message and merges
neighbours of one role. `converted_kept` says what of a conversation is found again. -/

namespace DBClaw.AnthropicMessages

open JsonReader (Floats ReadError loads)

/-! ## Messages of OpenAI -/

/-- `role`. -/
inductive Role
  | system | user | assistant | tool
  deriving DecidableEq, Repr

/-- An item of a `content` list. What a missing field would hold is `none`. -/
inductive Part
  | text (text : Option Text)
  | imageUrl (url : Option Text)
  | other
  deriving DecidableEq, Repr

/-- `content`. -/
inductive Content
  | null
  | text (text : Text)
  | parts (parts : List Part)
  deriving DecidableEq, Repr

/-- An entry of `tool_calls`. -/
structure ToolCall where
  id : Option Text
  name : Option Text
  arguments : Json

/-- A message. -/
structure Message where
  role : Role
  content : Option Content := none
  toolCalls : List ToolCall := []
  toolCallId : Option Text := none

/-! ## Messages of Anthropic -/

/-- `role`. -/
inductive Speaker
  | user | assistant
  deriving DecidableEq, Repr

/-- A block of content. -/
inductive Block
  | text (text : Text)
  | image (mediaType data : Text)
  | toolUse (id name : Text) (input : Json)
  | toolResult (toolUseId : Text) (content : Content)

/-- A message. -/
structure AnthropicMessage where
  role : Speaker
  content : List Block

/-! ## The conversion -/

/-- The texts of a system message. -/
def systemTexts : Option Content → List Text
  | some (.text text) => [text]
  | some (.parts parts) => parts.filterMap fun
    | .text text => some (text.getD [])
    | .imageUrl _ | .other => none
  | some .null | none => []

/-- **`_extract_system_message`.** -/
def extractSystemMessage (messages : List Message) : Option Text × List Message :=
  let systemParts := (messages.filter (·.role = .system)).flatMap fun message => systemTexts message.content
  let system := ['\n', '\n'].intercalate (systemParts.filter (· ≠ []))
  (if system = [] then none else some system, messages.filter (·.role ≠ .system))

/-- **`_parse_data_url`.** -/
def parseDataUrl (dataUrl : Text) : Option (Text × Text) :=
  if ! "data:".toList.isPrefixOf dataUrl || ! decide (";base64,".toList <:+: dataUrl) then none
  else
    let header := dataUrl.takeWhile (· ≠ ',')
    let data := (dataUrl.dropWhile (· ≠ ',')).tail
    let mediaType := (header.drop 5).takeWhile (· ≠ ';')
    some (if mediaType = [] then "image/jpeg".toList else mediaType, data)

/-- The block of an item. -/
def partBlock : Part → Option Block
  | .text text => some (.text (text.getD []))
  | .imageUrl url => (url.filter (· ≠ [])).bind fun url => (parseDataUrl url).map fun (mediaType, data) => .image mediaType data
  | .other => none

/-- **`_to_anthropic_content_blocks`.** -/
def toAnthropicContentBlocks : Option Content → List Block
  | none | some .null => []
  | some (.text text) => [.text text]
  | some (.parts parts) => parts.filterMap partBlock

/-- `"{}"`. -/
def emptyObject : Text := ['\x7b', '\x7d']

/-- `parsed_args or {}`, where a text that is no JSON is read as no arguments. -/
def parseArguments (F : Floats) (depth : ℕ) (arguments : Json) : Except ReadError Json :=
  match arguments.or (.str emptyObject) with
  | .str text =>
    match loads F depth text with
    | .error .decode => .ok (.obj [])
    | .error e => .error e
    | .ok parsed => .ok (parsed.or (.obj []))
  | parsed => .ok (parsed.or (.obj []))

/-- **`_assistant_tool_calls_to_blocks`.** -/
def assistantToolCallsToBlocks (F : Floats) (depth : ℕ) (message : Message) : Except ReadError (List Block) := do
  let uses ← message.toolCalls.mapM fun toolCall => do
    let input ← parseArguments F depth toolCall.arguments
    .ok (Block.toolUse (toolCall.id.getD []) (toolCall.name.getD []) input)
  .ok (toAnthropicContentBlocks message.content ++ uses)

/-- `blocks or [{"type": "text", "text": ""}]`. -/
def orEmptyText (blocks : List Block) : List Block := if blocks = [] then [.text []] else blocks

/-- The messages that are appended for a message. -/
def convertMessage (F : Floats) (depth : ℕ) (message : Message) : Except ReadError (List AnthropicMessage) :=
  match message.role with
  | .tool => .ok [⟨.user, [.toolResult (message.toolCallId.getD []) (message.content.getD (.text []))]⟩]
  | .assistant => do
    let assistantBlocks ← assistantToolCallsToBlocks F depth message
    .ok [⟨.assistant, orEmptyText assistantBlocks⟩]
  | .user => .ok [⟨.user, orEmptyText (toAnthropicContentBlocks message.content)⟩]
  | .system => .ok []

/-- One turn of the loop that merges neighbours of one role. -/
def mergeStep (merged : List AnthropicMessage) (message : AnthropicMessage) : List AnthropicMessage :=
  match merged.getLast? with
  | some last =>
    if last.role = message.role then merged.dropLast ++ [⟨last.role, last.content ++ message.content⟩]
    else merged ++ [message]
  | none => merged ++ [message]

/-- **`convert_messages_for_anthropic`.** -/
def convertMessagesForAnthropic (F : Floats) (depth : ℕ) (messages : List Message) :
    Except ReadError (Option Text × List AnthropicMessage) := do
  let (system, nonSystemMessages) := extractSystemMessage messages
  let converted ← nonSystemMessages.mapM (convertMessage F depth)
  .ok (system, converted.flatten.foldl mergeStep [])

/-! ## Conversations -/

/-- A text or an image that a message shows. -/
inductive Item
  | text (text : Text)
  | image (mediaType data : Text)
  deriving DecidableEq, Repr

/-- The item of a part; an image is one whose URL holds its data. -/
def Part.item : Part → Option Item
  | .text s => some (.text (s.getD []))
  | .imageUrl (some url) => if url = [] then none else (parseDataUrl url).map fun image => .image image.1 image.2
  | .imageUrl none | .other => none

/-- The texts and images of a content. -/
def Content.items : Content → List Item
  | .null => []
  | .text s => [.text s]
  | .parts list => list.filterMap Part.item

/-- **The texts and images of a message.** -/
def Message.items (message : Message) : List Item := (message.content.map Content.items).getD []

/-- The texts and images of a block. -/
def Block.items : Block → List Item
  | .text s => [.text s]
  | .image mediaType data => [.image mediaType data]
  | .toolUse _ _ _ => []
  | .toolResult _ content => content.items

/-- The calls of an assistant. -/
def Message.calls (message : Message) : List ToolCall := if message.role = .assistant then message.toolCalls else []

/-- A message answers a call. -/
def Message.answers (id : Text) (message : Message) : Bool :=
  message.role = .tool && message.toolCallId.getD [] = id

/-- The arguments of a call are a JSON object. -/
def ToolCall.IsReadable (F : Floats) (depth : ℕ) (call : ToolCall) : Prop :=
  ∃ text fields, call.arguments = .str text ∧ loads F depth text = .ok (.obj fields)

/-- A use of a tool carries a call. -/
def Carries (F : Floats) (depth : ℕ) (call : ToolCall) : Block → Prop
  | .toolUse id name input => id = call.id.getD [] ∧ name = call.name.getD [] ∧
      ∃ text, call.arguments = .str text ∧ loads F depth text = .ok input
  | .text _ | .image _ _ | .toolResult _ _ => False

/-- A use of a tool. -/
def Block.isUse : Block → Bool
  | .toolUse _ _ _ => true
  | .text _ | .image _ _ | .toolResult _ _ => false

/-- A result of a tool. -/
def Block.isResult : Block → Bool
  | .toolResult _ _ => true
  | .text _ | .image _ _ | .toolUse _ _ _ => false

/-- The result of a use. -/
def Block.answers (id : Text) : Block → Bool
  | .toolResult toolUseId _ => toolUseId = id
  | .text _ | .image _ _ | .toolUse _ _ _ => false

/-- **A use is answered by the next message**: by exactly one result, which stands before any other kind of block. -/
def IsAnswered (id : Text) (next : AnthropicMessage) : Prop :=
  next.role = .user ∧ next.content.countP (Block.answers id) = 1 ∧
    (next.content.takeWhile Block.isResult).countP (Block.answers id) = 1

/-- The texts of the system that are not empty. -/
def shownSystemTexts (messages : List Message) : List Text :=
  ((messages.filter (·.role = .system)).flatMap fun message => systemTexts message.content).filter (· ≠ [])

/-- **What is kept of a conversation**, where a message is expected to show some texts and images. -/
structure Kept (F : Floats) (depth : ℕ) (shown : Message → List Item) (messages : List Message) (system : Option Text)
    (converted : List AnthropicMessage) : Prop where
  alternate : converted.IsChain fun a b => a.role ≠ b.role
  uses : List.Forall₂ (Carries F depth) (messages.flatMap Message.calls)
    ((converted.flatMap AnthropicMessage.content).filter Block.isUse)
  answered : ∀ before message after, converted = before ++ message :: after → ∀ id name input,
    .toolUse id name input ∈ message.content → message.role = .assistant ∧ ∃ next rest, after = next :: rest ∧ IsAnswered id next
  items : (converted.flatMap AnthropicMessage.content).flatMap Block.items =
    (messages.filter (·.role ≠ .system)).flatMap shown
  system : system = if shownSystemTexts messages = [] then none
    else some (['\n', '\n'].intercalate (shownSystemTexts messages))

/-- **The conversion returns and keeps a conversation.** -/
def Keeps (F : Floats) (depth : ℕ) (shown : Message → List Item) (messages : List Message) : Prop :=
  ∃ system converted, convertMessagesForAnthropic F depth messages = .ok (system, converted) ∧
    Kept F depth shown messages system converted

variable {F : Floats} {depth : ℕ}

/-- The block of an item. -/
def Item.block : Item → Block
  | .text s => .text s
  | .image mediaType data => .image mediaType data

/-- What is read of the arguments of a call. -/
def ToolCall.input (F : Floats) (depth : ℕ) (call : ToolCall) : Json :=
  match call.arguments with
  | .str text =>
    match loads F depth text with
    | .ok input => input
    | .error _ => .obj []
  | _ => .obj []

/-- The use of a tool for a call. -/
def ToolCall.use (F : Floats) (depth : ℕ) (call : ToolCall) : Block :=
  .toolUse (call.id.getD []) (call.name.getD []) (call.input F depth)

theorem ToolCall.IsReadable.parse {call : ToolCall} (h : call.IsReadable F depth) :
    parseArguments F depth call.arguments = .ok (call.input F depth) := by
  obtain ⟨text, fields, harguments, hloads⟩ := h
  have htext : text ≠ [] := by
    rintro rfl
    cases depth <;> cases hloads
  have hor : Json.or (.str text) (.str emptyObject) = .str text := if_pos (by simpa [Json.truthy] using htext)
  rw [parseArguments, ToolCall.input, harguments, hor]
  simp only [hloads]
  cases fields <;> rfl

theorem ToolCall.IsReadable.carries {call : ToolCall} (h : call.IsReadable F depth) :
    Carries F depth call (call.use F depth) := by
  obtain ⟨text, fields, harguments, hloads⟩ := h
  refine ⟨rfl, rfl, text, harguments, ?_⟩
  rw [ToolCall.input, harguments]
  simp only
  rw [hloads]

/-- Messages of one role in a row. -/
structure Turn where
  role : Speaker
  messages : List AnthropicMessage
  ne_nil : messages ≠ []
  role_eq : ∀ message ∈ messages, message.role = role

/-- The messages of a turn as one. -/
def Turn.joined (turn : Turn) : AnthropicMessage := ⟨turn.role, turn.messages.flatMap AnthropicMessage.content⟩

/-- One message as a turn. -/
def Turn.single (message : AnthropicMessage) : Turn :=
  ⟨message.role, [message], List.cons_ne_nil _ _, fun _ h => congrArg AnthropicMessage.role (List.mem_singleton.mp h)⟩

/-- **Messages are divided into turns** of the two roles. -/
structure IsDivision (messages : List AnthropicMessage) (turns : List Turn) : Prop where
  flatten_eq : turns.flatMap Turn.messages = messages
  alternate : turns.IsChain fun a b => a.role ≠ b.role

/-- One message more continues the last turn or starts the next. -/
theorem IsDivision.step {messages : List AnthropicMessage} {turns : List Turn} (h : IsDivision messages turns)
    (message : AnthropicMessage) :
    ∃ turns', IsDivision (messages ++ [message]) turns' ∧
      mergeStep (turns.map Turn.joined) message = turns'.map Turn.joined := by
  cases turns using List.reverseRecOn with
  | nil =>
    refine ⟨[Turn.single message], ⟨?_, List.isChain_singleton _⟩, ?_⟩
    · rw [← h.flatten_eq]
      rfl
    · simp [mergeStep, Turn.single, Turn.joined]
  | append_singleton turns last =>
    have hflatten := h.flatten_eq
    rw [List.flatMap_append, List.flatMap_singleton] at hflatten
    have hmerge : mergeStep ((turns ++ [last]).map Turn.joined) message =
        if last.role = message.role then
          turns.map Turn.joined ++ [⟨last.role, last.joined.content ++ message.content⟩]
        else (turns ++ [last]).map Turn.joined ++ [message] := by
      rw [mergeStep, List.map_append, List.map_singleton, List.getLast?_concat, List.dropLast_concat]
      rfl
    rw [hmerge]
    split_ifs with hrole
    · -- the message continues the last turn
      let continued : Turn := ⟨last.role, last.messages ++ [message], by simp, by
        intro m hm
        rcases List.mem_append.mp hm with hm | hm
        · exact last.role_eq m hm
        · rw [List.mem_singleton.mp hm, hrole]⟩
      refine ⟨turns ++ [continued], ⟨?_, ?_⟩, ?_⟩
      · rw [List.flatMap_append, List.flatMap_singleton, ← hflatten, List.append_assoc]
      · have halternate := h.alternate
        rw [List.isChain_append] at halternate ⊢
        refine ⟨halternate.1, List.isChain_singleton _, fun a ha b hb => ?_⟩
        obtain rfl : continued = b := by simpa using hb
        exact halternate.2.2 a ha last rfl
      · rw [List.map_append, List.map_singleton]
        simp [Turn.joined, continued]
    · refine ⟨turns ++ [last] ++ [Turn.single message], ⟨?_, ?_⟩, ?_⟩
      · rw [List.flatMap_append, h.flatten_eq]
        rfl
      · rw [List.isChain_append]
        refine ⟨h.alternate, List.isChain_singleton _, fun a ha b hb => ?_⟩
        obtain rfl : last = a := by simpa using ha
        obtain rfl : Turn.single message = b := by simpa using hb
        exact hrole
      · simp [Turn.single, Turn.joined]

open ToolResults (halves)

end DBClaw.AnthropicMessages
