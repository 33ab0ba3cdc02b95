import Mathlib.Data.Int.Notation
import DBClaw.Library.Cipher
import DBClaw.Library.Json
import DBClaw.Library.Runs

/-! # The configuration store
The table of system configurations, its writers and its readers. The sessions of the database follow one
another; within a session, the objects of rows may have their value attribute overwritten with plaintext, and
the next commit of the session writes it. -/

namespace DBClaw.Config

open Runs

/-- **A row** of the table of configurations. -/
structure SystemConfig where
  value : Text
  valueType : Text
  category : Option Text
  isActive : Bool
  isEncrypted : Bool
deriving DecidableEq

/-! ## Encryption -/

variable (c : Cipher)

/-- **`encrypt_value`**. -/
def encryptValue (nonce : ℕ) (value : Text) : Text := if value.isEmpty then [] else c.encrypt nonce value

/-- **`decrypt_value`**; `none` where it raises. -/
def decryptValue (encrypted : Text) : Option Text := if encrypted.isEmpty then some [] else c.decrypt encrypted

/-- The value of a row, decrypted if the row is encrypted. -/
def SystemConfig.plaintext (config : SystemConfig) : Option Text :=
  if config.isEncrypted && ! config.value.isEmpty then decryptValue c config.value else some config.value

/-! ## State -/

/-- **What was last given for a key.** -/
structure Entry where
  text : Text
  valueType : Text
  isActive : Bool

/-- What `get_config` does for a key: it returns its default, raises because the value cannot be decrypted, or
returns what `_parse_value` makes of a text and a type. -/
inductive Answer
  | default
  | undecryptable
  | parse (value valueType : Text)
deriving DecidableEq

/-- **The state**: the committed rows by key, the value attributes overwritten in the open session and not yet
committed, what was given for each key, and the last answer of `get_config` in a session. -/
structure State where
  table : Text → Option SystemConfig
  shown : Text → Option Text
  entries : Text → Option Entry
  answer : Option (Text × Answer)

/-- The empty table. -/
def State.empty : State where
  table _ := none
  shown _ := none
  entries _ := none
  answer := none

/-- A row with its value attribute overwritten. -/
def SystemConfig.overwrite (config : SystemConfig) (shown : Option Text) : SystemConfig :=
  { config with value := shown.getD config.value }

/-- The row of a key, as the open session has it. -/
def State.view (s : State) (key : Text) : Option SystemConfig :=
  (s.table key).map (·.overwrite (s.shown key))

/-- A commit writes the overwritten attributes. -/
def State.commit (s : State) : State := { s with table := s.view, shown := fun _ => none }

/-- The session is closed, and another is opened. -/
def State.newSession (s : State) : State := { s with shown := fun _ => none }

/-- The object of a row is changed, and the session commits. -/
def State.save (s : State) (key : Text) (config : SystemConfig) : State :=
  { s with table := Function.update s.view key (some config), shown := fun _ => none }

/-- The value attribute of a row is overwritten with its plaintext. -/
def State.reveal (s : State) (key : Text) : State :=
  match s.view key with
  | none => s
  | some config =>
    if config.isEncrypted && ! config.value.isEmpty then
      { s with shown := Function.update s.shown key ((decryptValue c config.value).or (s.shown key)) }
    else s

/-! ## Readers -/

/-- **`get_config`** in the open session. -/
def getConfig (s : State) (key : Text) : Answer :=
  match s.view key with
  | none => .default
  | some config =>
    if config.isActive then
      match config.plaintext c with
      | some value => .parse value config.valueType
      | none => .undecryptable
    else .default

/-- **The conversions of Python**: `int()`, `float()`, `json.loads` and the case of letters. -/
structure Conversions where
  u : Unicode
  int : Text → Option ℤ
  float : Text → Option PyFloat
  json : Text → Option Json

/-- **`_parse_value`**; `none` where it raises. -/
def parseValue (cv : Conversions) (value valueType : Text) : Option Json :=
  if valueType = "string".toList then some (.str value)
  else if valueType = "integer".toList then (cv.int value).map .int
  else if valueType = "float".toList then (cv.float value).map .float
  else if valueType = "boolean".toList then
    some (.bool (["true".toList, "1".toList, "yes".toList].contains (Text.lower cv.u value)))
  else if valueType = "json".toList then cv.json value
  else some (.str value)

/-- What the answer of `get_config` is to its caller; `none` where it raises. -/
def Answer.value (cv : Conversions) (default : Json) : Answer → Option Json
  | .default => some default
  | .undecryptable => none
  | .parse value valueType => parseValue cv value valueType

/-- **`IntegrationContext.get_system_config`**, in a session of its own; `none` where it raises. -/
def getSystemConfig (s : State) (key : Text) : Option (Option Text) :=
  match s.table key with
  | none => some none
  | some config => (config.plaintext c).map some

/-- The rows that `get_all_configs` selects. -/
def SystemConfig.isSelected (category : Option Text) (config : SystemConfig) : Bool :=
  config.isActive && (category.all (·.isEmpty) || config.category == category)

/-- **The loop of `get_all_configs`** over the rows of the keys; it stops at a row that cannot be decrypted. -/
def revealAll (s : State) : List Text → State
  | [] => s
  | key :: keys =>
    if ((s.view key).bind (·.plaintext c)).isSome then revealAll (s.reveal c key) keys else s

/-! ## Writers -/

/-- **`set_config`**. -/
def setConfig (nonce : ℕ) (key value valueType : Text) (category : Option Text) (isEncrypted : Bool)
    (s : State) : State :=
  let storedValue := if isEncrypted && ! value.isEmpty then encryptValue c nonce value else value
  let config : SystemConfig :=
    match s.view key with
    | some config =>
      { config with value := storedValue, valueType, isEncrypted, category := category.or config.category }
    | none => { value := storedValue, valueType, category, isActive := true, isEncrypted }
  (s.save key config).reveal c key

/-- **What `int()`, `normalize_locale` and `normalize_timezone` make of text**, and the collection interval of
the settings. -/
structure Checks where
  int : Text → Option ℤ
  isLocale : Text → Bool
  isTimezone : Text → Bool
  metricInterval : ℤ

/-- Numbers and names of no consequence. -/
def sampleChecks : Checks where
  int _ := none
  isLocale _ := true
  isTimezone _ := true
  metricInterval := 60

/-- The key of the refresh interval of the dashboard. -/
def dashboardRefreshIntervalConfigKey : Text := "dashboard_refresh_interval_seconds".toList

/-- The key of the collection interval. -/
def monitoringCollectionIntervalConfigKey : Text := "monitoring_collection_interval_seconds".toList

/-- `normalize_dashboard_refresh_interval_seconds` does not raise. -/
def isDashboardInterval (checks : Checks) (value : Text) : Bool :=
  (checks.int value).any fun interval => 1 ≤ interval && interval ≤ 86400

/-- `normalize_monitoring_collection_interval_seconds` does not raise. -/
def isMonitoringInterval (checks : Checks) (value : Text) : Bool :=
  let interval := (checks.int value).getD checks.metricInterval
  5 ≤ interval && interval ≤ 3600

/-- **`_validate_special_config`** does not raise. -/
def validateSpecialConfig (checks : Checks) (key : Text) (value valueType : Option Text) : Bool :=
  if key = dashboardRefreshIntervalConfigKey then
    valueType.all (· = "integer".toList) && value.all (isDashboardInterval checks)
  else if key = "i18n.default_locale".toList then value.all checks.isLocale
  else if key = "i18n.default_timezone".toList then value.all checks.isTimezone
  else if key = monitoringCollectionIntervalConfigKey then
    valueType.all (· = "integer".toList) && value.all (isMonitoringInterval checks)
  else true

/-- The types that the schemas of the endpoints know. -/
def valueTypes : List Text :=
  ["string".toList, "integer".toList, "float".toList, "boolean".toList, "json".toList]

/-- **`SystemConfigUpdate`**. -/
structure SystemConfigUpdate where
  value : Option Text := none
  valueType : Option Text := none
  category : Option Text := none
  isActive : Option Bool := none
  isEncrypted : Option Bool := none

/-- An update gives a value if it is not empty. -/
def SystemConfigUpdate.given (data : SystemConfigUpdate) : Option Text := data.value.filter (! ·.isEmpty)

/-- The endpoint admits an update of a key. -/
def SystemConfigUpdate.admitted (checks : Checks) (key : Text) (data : SystemConfigUpdate) : Bool :=
  data.valueType.all valueTypes.contains && validateSpecialConfig checks key data.value data.valueType

/-- What **`update_config`** makes of a row. -/
def SystemConfig.change (nonce : ℕ) (data : SystemConfigUpdate) (config : SystemConfig) : SystemConfig :=
  let isEncrypted := data.isEncrypted.getD config.isEncrypted
  { value := data.given.elim config.value fun value => if isEncrypted then encryptValue c nonce value else value
    valueType := data.valueType.getD config.valueType
    category := data.category.or config.category
    isActive := data.isActive.getD config.isActive
    isEncrypted }

/-- **`update_config`** of the row of a key; after the commit the value is shown, unless the refresh of what
depends on the key raises. -/
def updateConfig (checks : Checks) (nonce : ℕ) (key : Text) (data : SystemConfigUpdate) (refreshes : Bool)
    (s : State) : State :=
  match s.view key with
  | none => s
  | some config =>
    if data.admitted checks key then
      let saved := s.save key (config.change c nonce data)
      if refreshes then saved.reveal c key else saved
    else s

/-- **`delete_config`**, of the service and of the endpoint. -/
def deleteConfig (key : Text) (s : State) : State :=
  match s.view key with
  | none => s
  | some config => s.save key { config with isActive := false }

/-! ## Steps -/

/-- **The operations**. An endpoint finds its row by id; a row keeps its key, by which it is named here. What
the database refuses (a key too long for its column) changes nothing, and is no operation. -/
inductive Operation
  | newSession
  | set (nonce : ℕ) (key value valueType : Text) (category : Option Text) (isEncrypted : Bool)
  | create (nonce : ℕ) (key value valueType : Text) (category : Option Text) (isEncrypted : Bool)
  | update (nonce : ℕ) (key : Text) (data : SystemConfigUpdate) (refreshes : Bool)
  | delete (key : Text)
  | getAll (category : Option Text) (order : List Text)
  | get (key : Text)

variable (checks : Checks)

/-- The endpoint admits a new value for a key. -/
def admitsCreate (key value valueType : Text) : Bool :=
  valueTypes.contains valueType && validateSpecialConfig checks key (some value) (some valueType)

/-- What an operation gives for a key, from what was given before; an update and a deletion need that the key
was given. -/
def Operation.give (key : Text) (entry : Option Entry) : Operation → Option Entry
  | .set _ k value valueType _ _ =>
    if k = key then some { text := value, valueType, isActive := true } else entry
  | .create _ k value valueType _ _ =>
    if k = key ∧ admitsCreate checks k value valueType then some { text := value, valueType, isActive := true }
    else entry
  | .update _ k data _ =>
    if k = key ∧ data.admitted checks k then
      entry.map fun entry =>
        { text := data.given.getD entry.text
          valueType := data.valueType.getD entry.valueType
          isActive := data.isActive.getD entry.isActive }
    else entry
  | .delete k => if k = key then entry.map ({ · with isActive := false }) else entry
  | _ => entry

/-- What an operation does to the rows and to the open session. -/
def Operation.apply (s : State) : Operation → State
  | .newSession => s.newSession
  | .set nonce key value valueType category isEncrypted =>
    setConfig c nonce key value valueType category isEncrypted s
  | .create nonce key value valueType category isEncrypted =>
    if admitsCreate checks key value valueType then setConfig c nonce key value valueType category isEncrypted s
    else s
  | .update nonce key data refreshes => updateConfig c checks nonce key data refreshes s
  | .delete key => deleteConfig key s
  | .getAll _ order => revealAll c s order
  | .get _ => s

/-- The answer that an operation gets. -/
def Operation.answer (s : State) : Operation → Option (Text × Answer)
  | .get key => some (key, getConfig c s key)
  | _ => none

/-- **One step**. -/
def step (s : State) (a : Operation) : Option State :=
  some { a.apply c checks s with
    entries := fun key => a.give checks key (s.entries key)
    answer := a.answer c s }

/-- **What can happen**: `get_all_configs` gets the rows that it selects, in some order. -/
def Possible (s : State) : Operation → Prop
  | .getAll category order =>
    order.Nodup ∧ ∀ key, key ∈ order ↔ (s.table key).any (·.isSelected category) = true
  | _ => True

/-! ## A faithful map -/

/-- What is given for a key is readable. -/
def Entry.answer (entry : Entry) : Answer :=
  if entry.isActive then .parse entry.text entry.valueType else .default

/-- What `get_config` owes to what was given for a key. -/
def owed (entry : Option Entry) : Answer := entry.elim .default Entry.answer

/-- What is stored for a text under a flag: a ciphertext of it, or the text itself. -/
def StoresAs (isEncrypted : Bool) (value text : Text) : Prop :=
  if isEncrypted then ∃ nonce, value = encryptValue c nonce text else value = text

/-- The row stores what was given. -/
structure SystemConfig.Stores (config : SystemConfig) (entry : Entry) : Prop where
  value : StoresAs c config.isEncrypted config.value entry.text
  valueType : config.valueType = entry.valueType

/-- There is a row just for the keys that were given, and it stores what was given. -/
def Represents (config : Option SystemConfig) (entry : Option Entry) : Prop :=
  config.isSome = entry.isSome ∧ ∀ row ∈ config, ∀ last ∈ entry, row.Stores c last

/-- **`get_config` reads what was given**, and the table stores it. -/
structure Readable (s : State) : Prop where
  reads : ∀ key, getConfig c s.newSession key = owed (s.entries key)
  stored : ∀ key, Represents c (s.table key) (s.entries key)
  answered : ∀ key answer, s.answer = some (key, answer) → answer = owed (s.entries key)

/-- **A faithful map**: `get_system_config` reads the same text. -/
structure Faithful (s : State) : Prop where
  readable : Readable c s
  agrees : ∀ key, getSystemConfig c s key =
    some (((s.entries key).filter Entry.isActive).map Entry.text)

/-! ## Conditions -/

/-- No value attribute is overwritten, except for this key. -/
def State.ShowsOnly (s : State) (key : Text) : Prop := ∀ k, k ≠ key → s.shown k = none

/-- An update without a value keeps the value readable: the flag stays, or there is nothing to encrypt, or the
attribute has been decrypted and the flag is taken away. -/
def SystemConfig.KeepsValue (config : SystemConfig) (data : SystemConfigUpdate) : Option Text → Prop
  | none => config.value = [] ∨ data.isEncrypted.getD config.isEncrypted = config.isEncrypted
  | some shown => data.isEncrypted = some false ∧ c.decrypt config.value = some shown

/-- A key can be set: its row is not inactive, and the commit writes no other overwritten attribute. -/
def Settable (s : State) (key : Text) : Prop :=
  s.ShowsOnly key ∧ ∀ config ∈ s.table key, config.isActive = true

/-- **The condition on an operation** under which `get_config` goes on reading what was given. -/
def Careful (s : State) : Operation → Prop
  | .set _ key _ _ _ _ => Settable s key
  | .create _ key value valueType _ _ => admitsCreate checks key value valueType = true → Settable s key
  | .update _ key data _ => data.admitted checks key = true → ∀ config ∈ s.table key,
      s.ShowsOnly key ∧ (data.given = none → config.KeepsValue c data (s.shown key))
  | .delete key => s.table key ≠ none → ∀ k, s.shown k = none
  | .get key => ∀ config ∈ s.table key, config.isActive = true → s.shown key = none
  | _ => True

/-- **The condition on an operation** under which nothing is deactivated. -/
def KeepsActive (s : State) : Operation → Prop
  | .update _ key data _ => data.admitted checks key = true → s.table key ≠ none → data.isActive ≠ some false
  | .delete key => s.table key = none
  | _ => True

end DBClaw.Config
