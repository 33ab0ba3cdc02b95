import DBClaw.Approvals.Orchestration

/-! # Messages of the chat bots
What `FeishuBotService.handle_message_event`, `DingTalkBotService.handle_message` and
`WeixinBotService.handle_message` read from a message before they do anything: whether it is to be
answered, and the ids under which `chat_event_dedup` is asked about it. A handler that raises while it
reads is `none`; one that returns without an answer is `some none`. -/

namespace DBClaw.Bots

open Approvals

/-- **What Python does with a value**: `str`, `json.loads` (`none` where it raises), and the hexadecimal
SHA-256 digest of a text in UTF-8. -/
structure Python where
  str : Json → Text
  loads : Text → Option Json
  sha256 : Text → Text

/-- `str(value or "").strip()`. -/
def Python.strip (py : Python) (value : Json) : Text :=
  Text.strip (if value.truthy then py.str value else [])

/-- `value.get(key)`, which raises where the value is no dictionary. -/
def get? (value : Json) (key : String) : Option Json :=
  match value with
  | .obj fields => some (Dict.get fields key)
  | _ => none

/-- `(value or {}).get(key)`. -/
def getOrEmpty? (value : Json) (key : String) : Option Json := get? (value.or (.obj [])) key

/-- An id that is compared with a text column: `None` counts as the empty text, and a value of another
type is refused by the driver. -/
def idText? : Json → Option Text
  | .null => some []
  | .str id => some id
  | _ => none

/-! ## Events -/

/-- What a message starts: a user turn, or the resolution of an approval. -/
inductive Start
  | userTurn (text : Text)
  | approval (action : Action) (approvalId : Text)
  deriving DecidableEq, Repr

/-- A message that is to be answered: its `event_id` and `message_id` (empty where there is none), its
`event_type`, the key of `_MESSAGE_LOCKS`, and what it starts. -/
structure Event where
  eventId : Text
  messageId : Text
  eventType : Text
  lockKey : Text
  start : Start
  deriving DecidableEq, Repr

/-- `_handle_approval_command`, and a user turn where it returns `False`. -/
def commandOrTurn (text : Text) : Start :=
  match approvalCommand text with
  | some (action, approvalId) => .approval action approvalId
  | none => .userTurn text

/-! ## Feishu -/

/-- The `event_type` of a Feishu message. -/
def feishuEventType : Text := "im.message.receive_v1".toList

/-- `(content or {}).get("text", "").strip()` of `handle_message_event`, where a content that is text is
read as JSON first. -/
def feishuText? (py : Python) (content : Json) : Option Text :=
  let content :=
    match content with
    | .str raw => (py.loads raw).getD (.obj [("text", content)])
    | _ => content
  match content.or (.obj []) with
  | .obj fields =>
    match Dict.getD fields "text" (.str []) with
    | .str text => some (Text.strip text)
    | _ => none
  | _ => none

/-- The `event_type` of a header is that of messages, or missing. -/
def isMessageType : Json → Bool
  | .str eventType => eventType = [] ∨ eventType = feishuEventType
  | eventType => ! eventType.truthy

/-- **`FeishuBotService.handle_message_event`**, up to the check for duplicates. Its callers hand on the
events of the message type only, and approvals come to them as card callbacks. -/
def feishuEvent? (py : Python) (payload : Json) : Option (Option Event) := do
  let header ← get? payload "header"
  let event ← get? payload "event"
  let message ← getOrEmpty? event "message"
  let chatId ← getOrEmpty? message "chat_id"
  let messageId ← getOrEmpty? message "message_id"
  let eventId ← getOrEmpty? header "event_id"
  let eventType ← getOrEmpty? header "event_type"
  let content ← getOrEmpty? message "content"
  let text ← feishuText? py content
  if ! isMessageType eventType || ! chatId.truthy || text = [] then return none
  return some ⟨← idText? eventId, ← idText? messageId, feishuEventType, [], .userTurn text⟩

/-! ## DingTalk -/

/-- `_extract_text_from_message` of the DingTalk bot. -/
def dingtalkText (py : Python) (message : Dict) : Text :=
  match message.get "text" with
  | .obj text => py.strip (Dict.get text "content")
  | .str text => Text.strip text
  | _ => []

/-- `_sender_user_id`. -/
def senderUserId (py : Python) (message : Dict) : Text :=
  py.strip ((message.get "senderStaffId").or (message.get "senderId"))

/-- `_message_lock_key`. -/
def messageLockKey (py : Python) (message : Dict) : Text :=
  py.strip (message.get "conversationId") ++ '|' :: senderUserId py message

/-- `value is False`. -/
def isFalse : Json → Bool
  | .bool b => ! b
  | _ => false

/-- **`DingTalkBotService.handle_message`**, up to the check for duplicates. -/
def dingtalkEvent? (py : Python) (payload : Json) : Option (Option Event) := do
  let .obj message := payload | none
  let text := dingtalkText py message
  let conversationId := py.strip (Dict.get message "conversationId")
  let messageId := py.strip ((Dict.get message "msgId").or (Dict.get message "messageId"))
  let conversationType := py.strip (Dict.get message "conversationType")
  let isInAtList := Dict.get message "isInAtList"
  if conversationId = [] || senderUserId py message = [] || text = [] then return none
  -- in a group, only what mentions the bot or is an approval command is for it
  if conversationType = ['2'] && isFalse isInAtList && approvalCommand text = none then
    return none
  return some ⟨messageId, messageId, "dingtalk.message".toList, messageLockKey py message,
    commandOrTurn text⟩

/-! ## Weixin -/

/-- `item.get("type") == 1`; `1.0` and `True` are equal to 1 too. -/
def isTextType : Json → Bool
  | .int n => n = 1
  | .bool b => b
  | .float x => x = .fin 1
  | _ => false

/-- `_extract_text_from_message` of the Weixin bot: the first item with a text. -/
def firstText? (py : Python) : List Json → Option Text
  | [] => some []
  | item :: items => do
    if isTextType (← get? item "type") then
      let text := py.strip (← getOrEmpty? (← get? item "text_item") "text")
      if text = [] then firstText? py items else return text
    else firstText? py items

/-- `message.get("item_list") or []`, as what a `for` loop goes through. The loop body raises at the
characters of a text and at the keys of a dictionary. -/
def items? (itemList : Json) : Option (List Json) :=
  match itemList.or (.arr []) with
  | .arr items => some items
  | _ => none

/-- `_build_fallback_event_id`. -/
def fallbackEventId (py : Python) (message : Dict) (text : Text) : Text :=
  let field key := if (message.get key).truthy then py.str (message.get key) else []
  py.sha256 (field "from_user_id" ++ '|' :: field "to_user_id" ++ '|' :: field "context_token" ++
    '|' :: field "group_id" ++ '|' :: text)

/-- **`WeixinBotService.handle_message`**, up to the check for duplicates. -/
def weixinEvent? (py : Python) (payload : Json) : Option (Option Event) := do
  let .obj message := payload | none
  let text ← firstText? py (← items? (Dict.get message "item_list"))
  let senderUserId := py.strip (Dict.get message "from_user_id")
  let contextToken := py.strip (Dict.get message "context_token")
  let rawMessageId := py.strip ((Dict.get message "message_id").or (Dict.get message "msg_id"))
  let eventId := if rawMessageId = [] then fallbackEventId py message text else rawMessageId
  if text = [] || senderUserId = [] || contextToken = [] then return none
  return some ⟨eventId, rawMessageId, "weixin.message".toList, [], commandOrTurn text⟩

/-! ## Channels -/

/-- A channel that messages come through. -/
inductive Channel
  | feishu | dingtalk | weixin
  deriving DecidableEq, Repr

/-- What the handler of a channel reads from a message. -/
def Channel.event? (py : Python) : Channel → Json → Option (Option Event)
  | .feishu => feishuEvent? py
  | .dingtalk => dingtalkEvent? py
  | .weixin => weixinEvent? py

/-- The `event_type` that a channel uses. -/
def Channel.eventType : Channel → Text
  | .feishu => feishuEventType
  | .dingtalk => "dingtalk.message".toList
  | .weixin => "weixin.message".toList

variable {py : Python} {payload : Json} {e : Event}

theorem feishuEvent?_spec (h : feishuEvent? py payload = some (some e)) :
    e.eventType = feishuEventType := by
  simp only [feishuEvent?, Option.bind_eq_bind, Option.bind_eq_some_iff] at h
  obtain ⟨_, -, _, -, _, -, _, -, _, -, _, -, _, -, _, -, _, -, h⟩ := h
  split at h
  · cases h
  · simp only [Option.bind_eq_some_iff] at h
    obtain ⟨_, -, _, -, h⟩ := h
    cases h
    rfl

theorem dingtalkEvent?_spec (h : dingtalkEvent? py payload = some (some e)) :
    e.eventType = "dingtalk.message".toList ∧ e.messageId = e.eventId := by
  unfold dingtalkEvent? at h
  split at h
  · simp only at h
    split at h
    · cases h
    · split at h
      · cases h
      · cases h
        exact ⟨rfl, rfl⟩
  · cases h

theorem weixinEvent?_spec (h : weixinEvent? py payload = some (some e)) :
    e.eventType = "weixin.message".toList ∧ (e.messageId ≠ [] → e.eventId = e.messageId) := by
  unfold weixinEvent? at h
  split at h
  · simp only [Option.bind_eq_bind, Option.bind_eq_some_iff] at h
    obtain ⟨_, -, _, -, h⟩ := h
    split at h
    · cases h
    · cases h
      exact ⟨rfl, fun hid => if_neg hid⟩
  · cases h

/-- **All events of a channel are of its type.** -/
theorem Channel.eventType_of {ch : Channel} (h : ch.event? py payload = some (some e)) :
    e.eventType = ch.eventType := by
  cases ch with
  | feishu => exact feishuEvent?_spec h
  | dingtalk => exact (dingtalkEvent?_spec h).1
  | weixin => exact (weixinEvent?_spec h).1

/-! ## Some messages -/

/-- A Feishu message. -/
def feishuMessage : Json :=
  .obj [("header", .obj [("event_id", .str "ev_1".toList), ("event_type", .str feishuEventType)]),
    ("event", .obj [("message", .obj [("chat_id", .str "oc_1".toList),
      ("message_id", .str "om_1".toList),
      ("content", .str "\x7b\"text\": \"kill session 42\"\x7d".toList)])])]

/-- A DingTalk message. -/
def dingtalkMessage : Json :=
  .obj [("msgId", .str "msg_1".toList), ("conversationId", .str "cid_1".toList),
    ("senderId", .str "user_1".toList), ("text", .obj [("content", .str "kill session 42".toList)])]

/-- A Weixin message without an id. -/
def weixinMessage : Json :=
  .obj [("from_user_id", .str "alice".toList), ("to_user_id", .str "bot".toList),
    ("context_token", .str "ctx".toList),
    ("item_list", .arr [.obj [("type", .int 1), ("text_item", .obj [("text", .str "ok".toList)])]])]

/-- Python on these messages. -/
def messagesPython : Python where
  str
    | .str text => text
    | _ => []
  loads raw :=
    if raw = "\x7b\"text\": \"kill session 42\"\x7d".toList then
      some (.obj [("text", .str "kill session 42".toList)])
    else none
  sha256 text :=
    if text = "alice|bot|ctx||ok".toList then
      "9444225d28bc2465427952c78a82e206738328b90e1768326ff2bfd5310d25eb".toList
    else []

end DBClaw.Bots
