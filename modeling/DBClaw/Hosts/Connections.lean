import DBClaw.Library.Coercions
import DBClaw.Library.Columns
import Mathlib

/-! # The connections of a host
The network connections of a host are read from what `ss -tunap` or `netstat -tunap` prints. One parser reads both
tables; `parseSsOutput_exact_iff` says of which tables it returns the connections. -/

namespace DBClaw.HostNetwork

open Coercions

set_option maxRecDepth 2000

variable (t : Texts)

/-! ## Parsing -/

/-- A connection as it is returned. -/
structure Entry where
  localIp : Text
  localPort : ℕ
  remoteIp : Text
  remotePort : ℕ
  state : Text
  processName : Option Text
  pid : Option ℕ
  deriving DecidableEq, Repr

/-- `re.match(r'\[([^\]]+)\]:(\d+)', addr)`: the two groups. -/
def matchBracketed (addr : Text) : Option (Text × Text) :=
  match addr with
  | '[' :: rest =>
    let ip := rest.takeWhile (· ≠ ']')
    match rest.dropWhile (· ≠ ']') with
    | ']' :: ':' :: rest =>
      let digits := rest.takeWhile t.unicode.isDecimalChar
      if ip ≠ [] ∧ digits ≠ [] then some (ip, digits) else none
    | _ => none
  | _ => none

/-- **`_parse_address`**: `none` for the two `None` that it returns, also for digits that `int` refuses. -/
def parseAddress (addr : Text) : Option (Text × ℕ) :=
  match matchBracketed t addr with
  | some (ip, digits) => (t.natural digits).map fun port => (ip, port)
  | none =>
    if ':' ∈ addr then
      let port := addr.rtakeWhile (· ≠ ':')
      if port ≠ [] ∧ port.all t.unicode.isDecimalChar then
        (t.natural port).map fun n => ((addr.rdropWhile (· ≠ ':')).dropLast, n)
      else none
    else none

/-- The groups of `\("([^"]+)",pid=(\d+)` at the start of a text. -/
def matchSsProcess : Text → Option (Text × Text)
  | '(' :: '"' :: rest =>
    let name := rest.takeWhile (· ≠ '"')
    match rest.dropWhile (· ≠ '"') with
    | '"' :: ',' :: 'p' :: 'i' :: 'd' :: '=' :: rest =>
      let digits := rest.takeWhile t.unicode.isDecimalChar
      if name ≠ [] ∧ digits ≠ [] then some (name, digits) else none
    | _ => none
  | _ => none

/-- The groups of `(\d+)/(\S+)` at the start of a text. -/
def matchNetstatProcess (s : Text) : Option (Text × Text) :=
  let digits := s.takeWhile t.unicode.isDecimalChar
  match s.dropWhile t.unicode.isDecimalChar with
  | '/' :: rest =>
    let name := rest.takeWhile (! Text.isSpace ·)
    if digits ≠ [] ∧ name ≠ [] then some (name, digits) else none
  | _ => none

/-- The process of the groups that are found, or `none` when `int` raises. -/
def processOfGroups : Option (Text × Text) → Option (Option (Text × ℕ))
  | some (name, digits) => (t.natural digits).map fun pid => some (name, pid)
  | none => some none

/-- The process of a line: `re.search` tries one place after the other. -/
def processOf (line lastPart : Text) : Option (Option (Text × ℕ)) :=
  processOfGroups t
    ((line.tails.findSome? (matchSsProcess t)).or (lastPart.tails.findSome? (matchNetstatProcess t)))

/-- `'ss' in output[:100].lower()`. -/
def marksSs (output : Text) : Bool := "ss".toList <:+: Text.lower t.unicode (output.take 100)

/-- A line that starts as a header does. -/
def isHeading (line : Text) : Bool :=
  "Netid".toList <+: line ∨ "Proto".toList <+: line ∨ "Active".toList <+: line

/-- One turn of the loop; `none` where it continues or where an exception is caught. -/
def parseLine (ss : Bool) (line : Text) : Option Entry :=
  if line = [] ∨ isHeading line then none
  else match Text.words line with
  | part₀ :: part₁ :: _ :: part₃ :: part₄ :: more =>
    if Text.lower t.unicode part₀ ∉ ["tcp".toList, "udp".toList] then none
    else do
      let (localIp, localPort) ← parseAddress t part₃
      let (remoteIp, remotePort) ← parseAddress t part₄
      if localIp = [] ∨ remoteIp = [] then none
      else
        let state := if ss then part₁ else more.headD "UNKNOWN".toList
        -- `len(parts) > 6`
        (if 1 < more.length then processOf t line (more.getLastD []) else some none).map fun process =>
          ⟨localIp, localPort, remoteIp, remotePort, state, process.map Prod.fst, process.map Prod.snd⟩
  | _ => none

/-- **`_parse_ss_output`.** -/
def parseSsOutput (output : Text) : List Entry :=
  ((Text.strip output).splitOn '\n').filterMap (parseLine t (marksSs t output))

/-! ## Tables -/

/-- The two commands. -/
inductive Layout
  | ss | netstat
  deriving DecidableEq, Repr

/-- The protocols that are listed. -/
inductive Protocol
  | tcp | tcp6 | udp | udp6
  deriving DecidableEq, Repr

/-- The name of a protocol. -/
def Protocol.name : Protocol → Text
  | .tcp => ['t', 'c', 'p']
  | .tcp6 => ['t', 'c', 'p', '6']
  | .udp => ['u', 'd', 'p']
  | .udp6 => ['u', 'd', 'p', '6']

/-- An address and a port, or `*` for any; the address may be in brackets. -/
structure Endpoint where
  ip : Text
  bracketed : Bool
  port : Option (Fin 65536)
  ip_ne_nil : ip ≠ []
  plain : ∀ c ∈ ip, Text.isSpace c = false ∧ c ∉ ['[', ']', '"']

/-- Decimal digits. -/
def decimal (n : ℕ) : Text := Nat.toDigits 10 n

/-- An endpoint as it is printed. -/
def Endpoint.text (endpoint : Endpoint) : Text :=
  (if endpoint.bracketed then '[' :: (endpoint.ip ++ [']']) else endpoint.ip) ++
    ':' :: (endpoint.port.map fun port => decimal port.val).getD ['*']

/-- A state such as `ESTAB`: one word that starts with no digit. -/
structure State where
  text : Text
  text_ne_nil : text ≠ []
  plain : ∀ c ∈ text, Text.isSpace c = false ∧ c ≠ '"'
  head_not_digit : ∀ c ∈ text.head?, c.isDigit = false

/-- The process of a connection. Its name may have blanks inside. -/
structure Process where
  name : Text
  pid : Fin (2 ^ 32)
  fd : ℕ
  name_ne_nil : name ≠ []
  stripped : Text.strip name = name
  plain : ∀ c ∈ name, c ≠ '\n' ∧ c ≠ '"'

/-- **A connection of a table**, and how its line is padded. -/
structure Connection (layout : Layout) where
  proto : Protocol
  recvQ : ℕ
  sendQ : ℕ
  localEnd : Endpoint
  peer : Endpoint
  state : Option State
  process : Option Process
  gap : ℕ → ℕ
  trail : ℕ
  ss_proto : layout = .ss → proto = .tcp ∨ proto = .udp
  ss_state : layout = .ss → state.isSome
  stateless : state = none → proto = .udp ∨ proto = .udp6

variable {layout : Layout}

/-- The state column, where there is one. -/
def Connection.stateColumn (c : Connection layout) : List Text := (c.state.map State.text).toList

/-- The process column of `ss`, where the process is known. -/
def Process.ssColumn (process : Process) : Text :=
  ['u', 's', 'e', 'r', 's', ':', '(', '(', '"'] ++ process.name ++ ['"', ',', 'p', 'i', 'd', '='] ++
    decimal process.pid.val ++ [',', 'f', 'd', '='] ++ decimal process.fd ++ [')', ')']

/-- The process column of `netstat`. -/
def Process.netstatColumn (process : Process) : Text := decimal process.pid.val ++ '/' :: process.name

/-- **The columns of a line.** -/
def Connection.columns (c : Connection layout) : List Text :=
  match layout with
  | .ss => [c.proto.name] ++ c.stateColumn ++ [decimal c.recvQ, decimal c.sendQ, c.localEnd.text, c.peer.text] ++
      (c.process.map Process.ssColumn).toList
  | .netstat => [c.proto.name, decimal c.recvQ, decimal c.sendQ, c.localEnd.text, c.peer.text] ++ c.stateColumn ++
      [(c.process.map Process.netstatColumn).getD ['-']]

/-- The line of a connection. -/
def Connection.line (c : Connection layout) : Text := Text.spaced c.columns c.gap ++ List.replicate c.trail ' '

/-- **The entry of a connection**, when both ports are numeric. -/
def Connection.entry (c : Connection layout) : Option Entry :=
  match c.localEnd.port, c.peer.port with
  | some localPort, some remotePort => some {
      localIp := c.localEnd.ip
      localPort := localPort.val
      remoteIp := c.peer.ip
      remotePort := remotePort.val
      state := (c.state.map State.text).getD "UNKNOWN".toList
      processName := c.process.map Process.name
      pid := c.process.map fun process => process.pid.val }
  | _, _ => none

/-- The lines before the connections. -/
structure Header where
  lines : List Text
  ne_nil : lines ≠ []
  heading : ∀ line ∈ lines, isHeading line = true
  no_newline : ∀ line ∈ lines, '\n' ∉ line

/-- **What a command prints.** -/
def output (header : Header) (connections : List (Connection layout)) : Text :=
  Text.table (header.lines ++ connections.map Connection.line)

end DBClaw.HostNetwork
