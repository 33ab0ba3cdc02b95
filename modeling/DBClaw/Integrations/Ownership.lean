import DBClaw.Library.JsonSchema
import DBClaw.Library.Runs

/-! # Whose code the integrations run
An integration is a row with Python code, which the server executes for tests, notifications and the collection
of metrics. The endpoints write the rows, each with a permission of its own, and the built-in templates are
loaded over them. -/

namespace DBClaw.Integrations

open Runs

/-- Who wrote a code text last: the program, an administrator, or another user. -/
inductive Author
  | shipped
  | admin
  | other
deriving DecidableEq

/-- **A row** of `integration`. -/
structure Integration where
  id : ℤ
  integrationId : Text
  name : Text
  description : Option Text
  integrationType : Text
  category : Text
  isBuiltin : Bool
  code : Text
  configSchema : Json
  isEnabled : Bool
  isDeleted : Bool

/-- A row, and who wrote its code last. -/
structure Entry where
  row : Integration
  author : Author

/-- **The state**: the rows, and whose code has been executed. -/
structure State where
  entries : List Entry
  executed : List Author

/-- The current user. -/
structure User where
  isAdmin : Bool

/-- As whom a user writes. -/
def User.author (user : User) : Author := if user.isAdmin then .admin else .other

/-- **`IntegrationCreate`**. -/
structure IntegrationCreate where
  integrationId : Text
  name : Text
  description : Option Text
  integrationType : Text
  category : Text
  isBuiltin : Bool
  code : Text
  configSchema : Json
  enabled : Bool

/-- **`IntegrationUpdate`**; `null` is no schema. -/
structure IntegrationUpdate where
  name : Option Text := none
  description : Option Text := none
  code : Option Text := none
  configSchema : Json := .null
  enabled : Option Bool := none

/-- One of `BUILTIN_TEMPLATES`. -/
structure Template where
  integrationId : Text
  name : Text
  description : Text
  integrationType : Text
  category : Text
  code : Text
  configSchema : Json

/-! ## Writers -/

/-- The row is alive and has the id. -/
def Integration.isAlive (id : ℤ) (row : Integration) : Bool := row.id = id && ! row.isDeleted

/-- A row is written again; a code text that stays the same has not been written. -/
def Entry.write (entry : Entry) (writer : Author) (row : Integration) : Entry where
  row := row
  author := if row.code = entry.row.code then entry.author else writer

/-- **`create_integration`**, of the endpoint and of the service: for administrators, not as built-in, and under
an identifier that no alive row has. -/
def createIntegration (user : User) (data : IntegrationCreate) (newId : ℤ) (entries : List Entry) : List Entry :=
  if user.isAdmin && ! data.isBuiltin &&
      entries.all fun entry => entry.row.isDeleted || entry.row.integrationId != data.integrationId then
    entries ++ [{
      row := {
        id := newId
        integrationId := data.integrationId
        name := data.name
        description := data.description
        integrationType := data.integrationType
        category := data.category
        isBuiltin := data.isBuiltin
        code := data.code
        configSchema := data.configSchema
        isEnabled := data.enabled
        isDeleted := false }
      author := user.author }]
  else entries

/-- The built-in integrations whose code may be edited. -/
def editableBuiltins : List Text := ["builtin_feishu_bot".toList, "builtin_dingtalk_bot".toList]

/-- The value is `None`. -/
def isNone : Json → Bool
  | .null => true
  | _ => false

/-- The fields that an update gives. -/
def Integration.setFields (data : IntegrationUpdate) (row : Integration) : Integration :=
  { row with
    name := data.name.getD row.name
    description := data.description.or row.description
    code := data.code.getD row.code
    configSchema := if isNone data.configSchema then row.configSchema else data.configSchema
    isEnabled := data.enabled.getD row.isEnabled }

/-- **`update_integration`** of the service. -/
def Integration.change (data : IntegrationUpdate) (row : Integration) : Integration :=
  if row.isBuiltin then
    if editableBuiltins.contains row.integrationId then row.setFields data
    else { row with isEnabled := data.enabled.getD row.isEnabled }
  else row.setFields data

/-- **`update_integration`** of the endpoint: only a built-in row is kept from other users. -/
def updateIntegration (user : User) (id : ℤ) (data : IntegrationUpdate) (entry : Entry) : Entry :=
  if entry.row.isAlive id then
    if entry.row.isBuiltin && ! user.isAdmin then entry
    else entry.write user.author (entry.row.change data)
  else entry

/-- **`delete_integration`**, of the endpoint and of the service. -/
def deleteIntegration (user : User) (id : ℤ) (entry : Entry) : Entry :=
  if user.isAdmin && entry.row.isAlive id && ! entry.row.isBuiltin then
    { entry with row := { entry.row with isDeleted := true } }
  else entry

/-- The marker is part of the code. -/
def hasMarker (marker : String) (code : Text) : Bool := decide (marker.toList <:+: code)

/-- The code of a bot has been configured, so that a template does not replace it. -/
def isConfigured (integrationId code : Text) : Bool :=
  if integrationId = "builtin_feishu_bot".toList then hasMarker "APP_ID" code
  else hasMarker "dingtalk_client_id" code || hasMarker "CLIENT_ID" code

/-- A schema that says nothing. -/
def isEmptySchema (schema : Json) : Bool :=
  isNone schema || Json.pyEq schema (.obj []) ||
    Json.pyEq schema (.obj [("type", .str "object".toList), ("properties", .obj []), ("required", .arr [])])

/-- What a template makes of a row with its identifier. -/
def Template.refresh (template : Template) (row : Integration) : Integration :=
  if editableBuiltins.contains row.integrationId then
    { row with
      description := if row.description.all (·.isEmpty) then some template.description else row.description
      configSchema := if isEmptySchema row.configSchema then template.configSchema else row.configSchema
      code := if row.code.isEmpty || ! isConfigured row.integrationId row.code then template.code else row.code }
  else
    { row with
      code := template.code
      configSchema := template.configSchema
      description := some template.description
      name := template.name }

/-- The row of a template that has none. -/
def Template.newRow (template : Template) (newId : ℤ) : Integration where
  id := newId
  integrationId := template.integrationId
  name := template.name
  description := some template.description
  integrationType := template.integrationType
  category := template.category
  isBuiltin := true
  code := template.code
  configSchema := template.configSchema
  isEnabled := true
  isDeleted := false

/-- One turn of the loop of `load_builtin_templates`. -/
def loadTemplate (entries : List Entry) (template : Template × ℤ) : List Entry :=
  if entries.any fun entry => entry.row.integrationId = template.1.integrationId then
    entries.map fun entry =>
      if entry.row.integrationId = template.1.integrationId then
        entry.write .shipped (template.1.refresh entry.row)
      else entry
  else entries ++ [{ row := template.1.newRow template.2, author := .shipped }]

/-- **`load_builtin_templates`** of the service, with an id for each template that has no row. -/
def loadBuiltinTemplates (templates : List (Template × ℤ)) (entries : List Entry) : List Entry :=
  templates.foldl loadTemplate entries

/-! ## Executions -/

/-- What executes the code of a row: a test, which finds a datasource or does not, the delivery of a notification,
and the collection of metrics. -/
inductive Execution
  | test (hasDatasource : Bool)
  | deliver
  | collect
deriving DecidableEq

/-- The code of a row is passed to `exec`. -/
def Execution.runs (execution : Execution) (row : Integration) : Bool :=
  row.isEnabled && match execution with
    | .test hasDatasource =>
      row.integrationType = "outbound_notification".toList ||
        row.integrationType = "inbound_metric".toList && hasDatasource
    | .deliver => true
    | .collect => row.integrationType = "inbound_metric".toList

/-- Whose code is executed. -/
def executes (execution : Execution) (id : ℤ) (entries : List Entry) : List Author :=
  (entries.filter fun entry => entry.row.isAlive id && execution.runs entry.row).map Entry.author

/-! ## Steps -/

/-- **The operations**: the endpoints by a user, the loading of the templates at start-up, and executions. -/
inductive Operation
  | create (user : User) (data : IntegrationCreate) (newId : ℤ)
  | update (user : User) (id : ℤ) (data : IntegrationUpdate)
  | delete (user : User) (id : ℤ)
  | loadBuiltin (user : User) (newIds : List ℤ)
  | startUp (newIds : List ℤ)
  | execute (execution : Execution) (id : ℤ)

variable (templates : List Template)

/-- The rows after an operation. -/
def Operation.writes (entries : List Entry) : Operation → List Entry
  | .create user data newId => createIntegration user data newId entries
  | .update user id data => entries.map (updateIntegration user id data)
  | .delete user id => entries.map (deleteIntegration user id)
  | .loadBuiltin user newIds =>
    if user.isAdmin then loadBuiltinTemplates (templates.zip newIds) entries else entries
  | .startUp newIds => loadBuiltinTemplates (templates.zip newIds) entries
  | .execute _ _ => entries

/-- Whose code an operation executes. -/
def Operation.executions (entries : List Entry) : Operation → List Author
  | .execute execution id => executes execution id entries
  | _ => []

/-- **One step**. -/
def step (s : State) (a : Operation) : Option State :=
  some { entries := a.writes templates s.entries, executed := s.executed ++ a.executions s.entries }

/-- **Only administrators and the program** have written the code that there is and that has been executed. -/
structure Trusted (s : State) : Prop where
  entries : ∀ entry ∈ s.entries, entry.author ≠ .other
  executed : ∀ author ∈ s.executed, author ≠ .other

/-- **The condition on an operation**: a user who is no administrator gives no other code to a row that is not
built-in. -/
def KeepsCode (s : State) : Operation → Prop
  | .update user id data => user.isAdmin = false → ∀ entry ∈ s.entries, entry.row.isAlive id = true →
      entry.row.isBuiltin = false → ∀ code ∈ data.code, code = entry.row.code
  | _ => True

/-- The operation is none of an administrator, and not the start of the program. -/
def Unprivileged : Operation → Prop
  | .create user _ _ | .update user _ _ | .delete user _ | .loadBuiltin user _ => user.isAdmin = false
  | .startUp _ => False
  | .execute _ _ => True

/-- The code of each row. -/
def State.codes (s : State) : List (ℤ × Text) := s.entries.map fun entry => (entry.row.id, entry.row.code)

/-! ## Authors -/

variable {templates}

/-- Writing a row makes its writer the author just if the code is another. -/
theorem write_author_iff {entry : Entry} {row : Integration} (h : entry.author ≠ .other) :
    (entry.write .other row).author ≠ .other ↔ row.code = entry.row.code := by
  rw [Entry.write]
  split
  · rename_i hcode
    exact iff_of_true h hcode
  · rename_i hcode
    exact iff_of_false (fun hne => hne rfl) hcode

/-- A writer who is trusted leaves a trusted row. -/
theorem write_author {entry : Entry} {writer : Author} {row : Integration} (h : entry.author ≠ .other)
    (hwriter : writer ≠ .other) : (entry.write writer row).author ≠ .other := by
  rw [Entry.write]
  split
  · exact h
  · exact hwriter

/-- What an update makes of the code of a row that is not built-in. -/
theorem change_code {data : IntegrationUpdate} {row : Integration} (h : row.isBuiltin = false) :
    (row.change data).code = data.code.getD row.code := by
  rw [Integration.change, h, if_neg Bool.false_ne_true, Integration.setFields]

/-- **An update by another user** leaves a trusted row just if it does not give it another code. -/
theorem updateIntegration_author_iff {user : User} {id : ℤ} {data : IntegrationUpdate} {entry : Entry}
    (h : entry.author ≠ .other) :
    (updateIntegration user id data entry).author ≠ .other ↔
      (user.isAdmin = false → entry.row.isAlive id = true → entry.row.isBuiltin = false →
        ∀ code ∈ data.code, code = entry.row.code) := by
  unfold updateIntegration
  split
  · rename_i halive
    cases hadmin : user.isAdmin with
    | true =>
      rw [Bool.not_true, Bool.and_false, if_neg Bool.false_ne_true]
      refine iff_of_true (write_author h ?_) (fun h => by cases h)
      rw [User.author, hadmin]
      decide
    | false =>
      cases hbuiltin : entry.row.isBuiltin with
      | true => exact iff_of_true h fun _ _ h => by cases h
      | false =>
        have hauthor : user.author = .other := by rw [User.author, hadmin]; rfl
        rw [Bool.false_and, if_neg Bool.false_ne_true, hauthor, write_author_iff h, change_code hbuiltin]
        cases data.code with
        | none => simp
        | some code => simp [halive]
  · rename_i halive
    exact iff_of_true h fun _ halive' => absurd halive' halive

/-- Templates are shipped. -/
theorem loadTemplate_author {entries : List Entry} (h : ∀ entry ∈ entries, entry.author ≠ .other)
    (template : Template × ℤ) : ∀ entry ∈ loadTemplate entries template, entry.author ≠ .other := by
  intro entry hmem
  unfold loadTemplate at hmem
  split at hmem
  · obtain ⟨old, hold, rfl⟩ := List.mem_map.mp hmem
    split
    · exact write_author (h old hold) (by decide)
    · exact h old hold
  · obtain hmem | hmem := List.mem_append.mp hmem
    · exact h entry hmem
    · rw [List.mem_singleton.mp hmem]
      exact Author.noConfusion

theorem loadBuiltinTemplates_author {entries : List Entry} (h : ∀ entry ∈ entries, entry.author ≠ .other)
    (templates : List (Template × ℤ)) : ∀ entry ∈ loadBuiltinTemplates templates entries, entry.author ≠ .other := by
  unfold loadBuiltinTemplates
  exact List.foldlRecOn (motive := fun entries => ∀ entry ∈ entries, entry.author ≠ .other) templates loadTemplate h
    fun entries hentries template _ => loadTemplate_author hentries template

theorem createIntegration_author {entries : List Entry} {user : User} {data : IntegrationCreate} {newId : ℤ}
    (h : ∀ entry ∈ entries, entry.author ≠ .other) :
    ∀ entry ∈ createIntegration user data newId entries, entry.author ≠ .other := by
  intro entry hmem
  unfold createIntegration at hmem
  split at hmem
  · rename_i hchecks
    rw [Bool.and_eq_true, Bool.and_eq_true] at hchecks
    obtain hmem | hmem := List.mem_append.mp hmem
    · exact h entry hmem
    · rw [List.mem_singleton.mp hmem, User.author, hchecks.1.1]
      exact Author.noConfusion
  · exact h entry hmem

theorem deleteIntegration_author (user : User) (id : ℤ) (entry : Entry) :
    (deleteIntegration user id entry).author = entry.author := by
  unfold deleteIntegration
  split <;> rfl

/-- **The rows after an operation** are trusted just under the condition. -/
theorem writes_author_iff {s : State} {a : Operation} (h : ∀ entry ∈ s.entries, entry.author ≠ .other) :
    (∀ entry ∈ a.writes templates s.entries, entry.author ≠ .other) ↔ KeepsCode s a := by
  cases a with
  | create user data newId => exact iff_of_true (createIntegration_author h) trivial
  | update user id data =>
    rw [Operation.writes, List.forall_mem_map, KeepsCode]
    constructor
    · intro hall hadmin entry hmem
      exact (updateIntegration_author_iff (h entry hmem)).mp (hall entry hmem) hadmin
    · intro hkeeps entry hmem
      exact (updateIntegration_author_iff (h entry hmem)).mpr fun hadmin => hkeeps hadmin entry hmem
  | delete user id =>
    refine iff_of_true ?_ trivial
    rw [Operation.writes, List.forall_mem_map]
    intro entry hmem
    rw [deleteIntegration_author]
    exact h entry hmem
  | loadBuiltin user newIds =>
    refine iff_of_true ?_ trivial
    rw [Operation.writes]
    split
    · exact loadBuiltinTemplates_author h _
    · exact h
  | startUp newIds => exact iff_of_true (loadBuiltinTemplates_author h _) trivial
  | execute execution id => exact iff_of_true h trivial

/-- **One operation** leaves only trusted code just under the condition. -/
theorem trusted_step_iff {s t : State} {a : Operation} (h : Trusted s) (hstep : step templates s a = some t) :
    Trusted t ↔ KeepsCode s a := by
  obtain rfl := Option.some.inj hstep
  rw [← @writes_author_iff templates s a h.entries]
  constructor
  · exact Trusted.entries
  · intro hentries
    refine ⟨hentries, fun author hmem => ?_⟩
    obtain hmem | hmem := List.mem_append.mp hmem
    · exact h.executed author hmem
    · cases a with
      | execute execution id =>
        obtain ⟨entry, hentry, rfl⟩ := List.mem_map.mp hmem
        exact h.entries entry (List.mem_of_mem_filter hentry)
      | create | update | delete | loadBuiltin | startUp => cases hmem

/-! ## Codes -/

/-- **An operation without privileges** leaves every code as it is, under the condition. -/
theorem codes_step {s t : State} {a : Operation} (hkeeps : KeepsCode s a) (hunprivileged : Unprivileged a)
    (hstep : step templates s a = some t) : t.codes = s.codes := by
  obtain rfl := Option.some.inj hstep
  unfold State.codes
  cases a with
  | create user data newId =>
    have hadmin : user.isAdmin = false := hunprivileged
    rw [Operation.writes, createIntegration, hadmin, Bool.false_and, Bool.false_and, if_neg Bool.false_ne_true]
  | update user id data =>
    have hadmin : user.isAdmin = false := hunprivileged
    rw [Operation.writes, List.map_map]
    refine List.map_congr_left fun entry hmem => ?_
    have hkeeps := hkeeps hadmin entry hmem
    change ((updateIntegration user id data entry).row.id, (updateIntegration user id data entry).row.code) = _
    unfold updateIntegration
    split
    · rename_i halive
      cases hbuiltin : entry.row.isBuiltin with
      | true => rw [hadmin, Bool.not_false, Bool.and_self, if_pos rfl]
      | false =>
        have hid : (entry.row.change data).id = entry.row.id := by
          rw [Integration.change, hbuiltin, if_neg Bool.false_ne_true, Integration.setFields]
        rw [Bool.false_and, if_neg Bool.false_ne_true, Entry.write, change_code hbuiltin, hid]
        cases hcode : data.code with
        | none => rfl
        | some code => rw [Option.getD_some, hkeeps halive hbuiltin code hcode]
    · rfl
  | delete user id =>
    have hadmin : user.isAdmin = false := hunprivileged
    rw [Operation.writes, List.map_map]
    refine List.map_congr_left fun entry _ => ?_
    rw [Function.comp_apply, deleteIntegration, hadmin, Bool.false_and, Bool.false_and, if_neg Bool.false_ne_true]
  | loadBuiltin user newIds =>
    have hadmin : user.isAdmin = false := hunprivileged
    rw [Operation.writes, hadmin, if_neg Bool.false_ne_true]
  | startUp newIds => exact absurd hunprivileged not_false
  | execute execution id => rfl

/-- **The runs with trusted code only** are the runs in which every operation meets the condition; and along such
a run, operations without privileges change no code. -/
theorem trusted_run_iff {as : List Operation} {t : State} :
    (Run (step templates) (fun s a => ∃ t ∈ step templates s a, Trusted t) ⟨[], []⟩ as t ↔
      Run (step templates) KeepsCode ⟨[], []⟩ as t) ∧
    ∀ s u bs, Run (step templates) (fun s a => KeepsCode s a ∧ Unprivileged a) s bs u → u.codes = s.codes := by
  constructor
  · exact Run.leadsTo_iff (I := Trusted) (fun _ _ _ => trusted_step_iff) (fun _ _ _ _ _ ht => ht)
      ⟨List.forall_mem_nil _, List.forall_mem_nil _⟩
  · intro s u bs h
    refine h.invariant (I := fun x => x.codes = s.codes) (fun x a y hx ha hstep => ?_) rfl
    rw [codes_step ha.1 ha.2 hstep, hx]

/-! ## An update by another user -/

/-- An integration of an administrator. -/
def webhook : IntegrationCreate where
  integrationId := "webhook".toList
  name := "Webhook".toList
  description := none
  integrationType := "outbound_notification".toList
  category := "custom".toList
  isBuiltin := false
  code := "async def send_notification(context, params, payload): ...".toList
  configSchema := .null
  enabled := true

/-- Another user gives it other code, and it is tested. -/
def rewritten : List Operation :=
  [.create ⟨true⟩ webhook 1, .update ⟨false⟩ 1 { code := some "import os".toList }, .execute (.test false) 1]

/-- **The server executes what a user wrote who is no administrator.** -/
theorem rewritten_not_trusted : ¬ ∀ as t, Run (step []) Always ⟨[], []⟩ as t → Trusted t := by
  intro hall
  have h := hall rewritten _ (.cons trivial rfl (.cons trivial rfl (.cons trivial rfl (.nil _))))
  exact h.executed .other (List.mem_singleton_self _) rfl

end DBClaw.Integrations
