import DBClaw.Library.Addresses
import DBClaw.Library.Upsert
import Mathlib

/-! # Clients of the traffic view
The sessions of an instance are grouped by the address of their clients, and the measured rates are distributed over
the groups by weight. -/

namespace DBClaw.TrafficClients

open Upserts

/-! ## Clients -/

/-- What Python knows of characters: their case, and which are digits for `str.isdigit`. -/
structure Characters where
  unicode : Unicode
  isDigit : Char → Bool

variable (ch : Characters)

/-- `str.isdigit` of one character. -/
def Characters.isDigitChar (c : Char) : Bool := if c.toNat < 128 then c.isDigit else ch.isDigit c

/-- `_LOCAL_CLIENT_LABEL`. -/
def localClientLabel : Text := "LOCAL / Proxy".toList

/-- The id of the local client. -/
def localClientId : Text := ['l', 'o', 'c', 'a', 'l']

/-- `_LOCAL_CLIENT_KEYS`. -/
def localClientKeys : List Text :=
  [['1', '2', '7', '.', '0', '.', '0', '.', '1'], [':', ':', '1'], ['l', 'o', 'c', 'a', 'l', 'h', 'o', 's', 't'],
    localClientId]

/-- What is before an IPv4 address that is mapped to an IPv6 address. -/
def mappedPrefix : Text := [':', ':', 'f', 'f', 'f', 'f', ':']

/-- `s.replace("::ffff:", "")`, after some characters that are still to be dropped. -/
def dropMappedAfter : ℕ → Text → Text
  | _, [] => []
  | n + 1, _ :: s => dropMappedAfter n s
  | 0, c :: s => if mappedPrefix <+: c :: s then dropMappedAfter 6 s else c :: dropMappedAfter 0 s

/-- `s.replace("::ffff:", "")`. -/
def dropMapped (s : Text) : Text := dropMappedAfter 0 s

/-- `s[:s.rfind("]:")]` where there is one. -/
def beforeBracket : Text → Option Text
  | [] => none
  | c :: s =>
    match beforeBracket s with
    | some t => some (c :: t)
    | none => if [']', ':'] <+: c :: s then some [] else none

/-- `s.rpartition(":")`, where there is a colon: what is before it and after it. -/
def rpartition : Text → Option (Text × Text)
  | [] => none
  | c :: s =>
    match rpartition s with
    | some (host, port) => some (c :: host, port)
    | none => if c = ':' then some ([], s) else none

/-- The text without a port at its end. -/
def dropPort (s : Text) : Text :=
  match rpartition s with
  | some (host, port) => if port ≠ [] ∧ port.all ch.isDigitChar then host else s
  | none => s

/-- What is left of a client when the mapped prefix, the brackets and the port are taken off. -/
def strippedClient (raw : Text) : Text :=
  let normalized := Text.strip (dropMapped raw)
  let host :=
    match normalized, beforeBracket normalized with
    | '[' :: _, some inner => inner.tail
    | _, _ => dropPort ch normalized
  if Text.strip host = [] then raw else Text.strip host

/-- **`_normalize_client_identity`**: the id and the label. -/
def normalizeClientIdentity (client : Option Text) : Text × Text :=
  let raw := Text.strip (client.getD [])
  if raw = [] then (localClientId, localClientLabel)
  else
    let lowered := Text.lower ch.unicode (strippedClient ch raw)
    if lowered ∈ localClientKeys then (localClientId, localClientLabel) else (lowered, strippedClient ch raw)

/-! ## Sessions -/

/-- What is read of an `InstanceSessionItem`. -/
structure InstanceSessionItem where
  user : Option Text
  database : Option Text
  client : Option Text
  status : Option Text
  durationSeconds : Option ℤ
  waitEvent : Option Text
  sqlText : Option Text
  deriving DecidableEq, Repr

/-- `bool(s)`. -/
def isTruthy (s : Option Text) : Bool := s.getD [] ≠ []

/-- The word stands at the start of a text, with `\b` at its end. -/
def wordAt (word s : Text) : Bool := word.isPrefixOf s && (s.drop word.length).head?.all fun c => ! ch.unicode.isWordChar c

/-- `re.search(r"\bword\b", s)`, after a character that is a word character or not. -/
def hasWordAfter (word : Text) : Bool → Text → Bool
  | _, [] => false
  | afterWordChar, c :: s =>
    (! afterWordChar && wordAt ch word (c :: s)) || hasWordAfter word (ch.unicode.isWordChar c) s

/-- `re.search(r"\bword\b", s)`. -/
def hasWord (word : String) (s : Text) : Bool := hasWordAfter ch word.toList false s

/-- **`_session_status_rank`.** -/
def sessionStatusRank (status : Option Text) : ℕ :=
  let normalized := Text.lower ch.unicode (status.getD [])
  if hasWord ch "inactive" normalized then 2
  else if hasWord ch "idle in transaction" normalized || hasWord ch "idle" normalized then 1
  else if hasWord ch "sleep" normalized || hasWord ch "sleeping" normalized then 2
  else if ["active", "running", "query", "execute", "executed", "executeing", "locked"].any (hasWord ch · normalized) ||
      "lock wait".toList <:+: normalized then 0
  else 3

/-- `max(0, int(session.duration_seconds or 0))`. -/
def durationOf (session : InstanceSessionItem) : ℕ := (session.durationSeconds.getD 0).toNat

/-- **`_session_activity_weight`.** -/
def sessionActivityWeight (session : InstanceSessionItem) : ℚ :=
  let statusBonus : ℚ :=
    match sessionStatusRank ch session.status with
    | 0 => 42 / 10
    | 1 => 15 / 10
    | 2 => 8 / 10
    | _ => 1
  let waitBonus : ℚ := if isTruthy session.waitEvent then 26 / 10 else 0
  let sqlBonus : ℚ := if isTruthy session.sqlText then 11 / 10 else 0
  1 + statusBonus + waitBonus + sqlBonus + min (durationOf session / 45) 14

/-! ## Groups -/

/-- What is collected of a client. -/
structure Bucket where
  clientId : Text
  clientLabel : Text
  sessionCount : ℕ
  activeSessionCount : ℕ
  waitingSessionCount : ℕ
  idleSessionCount : ℕ
  user : Finset Text
  databases : Finset Text
  maxDurationSeconds : ℕ
  sampleSql : Option Text
  sqlSamples : List Text
  weight : ℚ

/-- The session is active. -/
def isActive (session : InstanceSessionItem) : Bool := sessionStatusRank ch session.status = 0

/-- The session waits. -/
def isWaiting (session : InstanceSessionItem) : Bool := isTruthy session.waitEvent

/-- The session is neither active nor waiting. -/
def isIdle (session : InstanceSessionItem) : Bool := ! isActive ch session && ! isWaiting session

/-- One of a kind. -/
def one (b : Bool) : ℕ := if b then 1 else 0

/-- A session is collected. -/
def Bucket.add (session : InstanceSessionItem) (bucket : Bucket) : Bucket :=
  let sqlText := Text.strip (session.sqlText.getD [])
  { bucket with
    sessionCount := bucket.sessionCount + 1
    weight := bucket.weight + sessionActivityWeight ch session
    activeSessionCount := bucket.activeSessionCount + one (isActive ch session)
    waitingSessionCount := bucket.waitingSessionCount + one (isWaiting session)
    idleSessionCount := bucket.idleSessionCount + one (isIdle ch session)
    user := if isTruthy session.user then insert (session.user.getD []) bucket.user else bucket.user
    databases := if isTruthy session.database then insert (session.database.getD []) bucket.databases else bucket.databases
    maxDurationSeconds := max bucket.maxDurationSeconds (durationOf session)
    sampleSql := if sqlText ≠ [] ∧ bucket.sampleSql = none then some (sqlText.take 320) else bucket.sampleSql
    sqlSamples :=
      if sqlText ≠ [] ∧ sqlText ∉ bucket.sqlSamples ∧ bucket.sqlSamples.length < 3 then
        bucket.sqlSamples ++ [sqlText.take 220]
      else bucket.sqlSamples }

/-- What `setdefault` adds. -/
def Bucket.fresh (identity : Text × Text) : Bucket where
  clientId := identity.1
  clientLabel := identity.2
  sessionCount := 0
  activeSessionCount := 0
  waitingSessionCount := 0
  idleSessionCount := 0
  user := ∅
  databases := ∅
  maxDurationSeconds := 0
  sampleSql := none
  sqlSamples := []
  weight := 0

/-- One turn of the loop. -/
def collect (grouped : List Bucket) (session : InstanceSessionItem) : List Bucket :=
  let identity := normalizeClientIdentity ch session.client
  upsert (fun bucket => some bucket.clientId) identity.1 (Bucket.add ch session) (Bucket.fresh identity) grouped

/-- `grouped`. -/
def groupsOf (sessions : List InstanceSessionItem) : List Bucket := sessions.foldl (collect ch) []

/-! ## Rows -/

/-- `rate_mode`. -/
inductive RateMode
  | measured | unavailable
  deriving DecidableEq, Repr

/-- `status` of a row. -/
inductive ClientStatus
  | idle | active | waiting | other
  deriving DecidableEq, Repr

/-- A row. -/
structure InstanceTrafficClientItem where
  clientId : Text
  clientLabel : Text
  sessionCount : ℕ
  activeSessionCount : ℕ
  waitingSessionCount : ℕ
  idleSessionCount : ℕ
  userCount : ℕ
  user : List Text
  databases : List Text
  maxDurationSeconds : Option ℕ
  sampleSql : Option Text
  sqlSamples : List Text
  heatScore : ℚ
  status : ClientStatus
  estimatedRxRate : Option ℚ
  estimatedTxRate : Option ℚ
  estimatedTotalRate : Option ℚ

/-- What is returned. -/
structure Traffic where
  rateMode : RateMode
  rateLabel : Text
  totalClientCount : ℕ
  totalSessionCount : ℕ
  activeSessionCount : ℕ
  waitingSessionCount : ℕ
  idleSessionCount : ℕ
  totalRxRate : Option ℚ
  totalTxRate : Option ℚ
  totalRate : Option ℚ
  clients : List InstanceTrafficClientItem

variable (round : ℕ → ℚ → ℚ)

/-- The share of a weight. -/
def shareOf (totalWeight : ℚ) (bucket : Bucket) : ℚ := if totalWeight = 0 then 0 else max bucket.weight 1 / totalWeight

/-- `status` of a row. -/
def statusOf (bucket : Bucket) : ClientStatus :=
  if 0 < bucket.activeSessionCount then .active
  else if 0 < bucket.waitingSessionCount then .waiting
  else if bucket.idleSessionCount = 0 ∧ 0 < bucket.sessionCount then .other
  else .idle

/-- Texts are in a linear order. -/
local instance textIsTrans : IsTrans Text (· ≤ ·) := instIsTransLe

local instance textAntisymm : Std.Antisymm (α := Text) (· ≤ ·) := instAntisymmLe

local instance textTotal : Std.Total (α := Text) (· ≤ ·) := ⟨le_total⟩

/-- A row of a group. -/
def clientOf (rxRate txRate : Option ℚ) (maxWeight totalWeight : ℚ) (bucket : Bucket) : InstanceTrafficClientItem :=
  let share := shareOf totalWeight bucket
  let estimatedRxRate := rxRate.map fun rate => round 2 (rate * share)
  let estimatedTxRate := txRate.map fun rate => round 2 (rate * share)
  { clientId := bucket.clientId
    clientLabel := bucket.clientLabel
    sessionCount := bucket.sessionCount
    activeSessionCount := bucket.activeSessionCount
    waitingSessionCount := bucket.waitingSessionCount
    idleSessionCount := bucket.idleSessionCount
    userCount := bucket.user.card
    user := (bucket.user.sort (· ≤ ·)).take 6
    databases := (bucket.databases.sort (· ≤ ·)).take 4
    maxDurationSeconds := if bucket.maxDurationSeconds = 0 then none else some bucket.maxDurationSeconds
    sampleSql := bucket.sampleSql
    sqlSamples := bucket.sqlSamples
    heatScore := if maxWeight = 0 then 0 else round 1 (bucket.weight / maxWeight * 100)
    status := statusOf bucket
    estimatedRxRate := estimatedRxRate
    estimatedTxRate := estimatedTxRate
    estimatedTotalRate :=
      if estimatedRxRate.isSome ∨ estimatedTxRate.isSome then
        some (round 2 (estimatedRxRate.getD 0 + estimatedTxRate.getD 0))
      else none }

/-- The key that the rows are sorted by. -/
def sortKey (item : InstanceTrafficClientItem) : ℚ ×ₗ ℚ ×ₗ ℕ ×ₗ Text :=
  toLex (item.estimatedTotalRate.getD (-1), toLex (item.heatScore, toLex (item.sessionCount,
    Text.lower ch.unicode item.clientLabel)))

/-- **`_aggregate_traffic_clients`.** -/
def aggregateTrafficClients (sessions : List InstanceSessionItem) (totalRxRate totalTxRate : Option ℚ) : Traffic :=
  let grouped := groupsOf ch sessions
  let measured := totalRxRate.isSome && totalTxRate.isSome
  let rxRate := if measured then totalRxRate else none
  let txRate := if measured then totalTxRate else none
  let maxWeight := (grouped.map Bucket.weight).max?.getD 0
  let totalWeight := (grouped.map fun bucket => max bucket.weight 1).sum
  { rateMode := if measured then .measured else .unavailable
    rateLabel :=
      if measured then "链路带宽来自最近监控快照".toList
      else if sessions = [] then "当前没有活跃客户端连接".toList
      else "当前数据库类型不支持网络流量采集".toList
    totalClientCount := grouped.length
    totalSessionCount := sessions.length
    activeSessionCount := (sessions.map fun session => one (isActive ch session)).sum
    waitingSessionCount := (sessions.map fun session => one (isWaiting session)).sum
    idleSessionCount := (sessions.map fun session => one (isIdle ch session)).sum
    totalRxRate := rxRate
    totalTxRate := txRate
    totalRate := if measured then some (round 2 (rxRate.getD 0 + txRate.getD 0)) else none
    clients := (grouped.map (clientOf round rxRate txRate maxWeight totalWeight)).mergeSort
      fun a b => sortKey ch b ≤ sortKey ch a }

end DBClaw.TrafficClients
