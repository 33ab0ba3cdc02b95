import DBClaw.Library.Runs
import DBClaw.Skills.Exchange
import DBClaw.Skills.ToolCalls

/-! # Which code the skills run
Only built-in skills are executed. Administrators create, import, change and delete skills, and
`manage_skill` does so for the model. A row is known as built-in by a flag, which stays set while these
operations write the row. -/

namespace DBClaw.Skills

/-- What is executed of a skill. -/
structure Content where
  code : Json
  parameters : Json
  permissions : Json

/-- The content of a row. -/
def Row.content (row : Row) : Content where
  code := row.columns.get "code"
  parameters := row.columns.get "parameters"
  permissions := row.columns.get "permissions"

/-- The content of a definition. -/
def SkillFields.content (fields : SkillFields) : Content where
  code := .str fields.code
  parameters := .arr (fields.parameters.map fun parameter => .obj parameter.modelDump)
  permissions := ofList fields.permissions

namespace Registry

open Runs ToolCalls

/-! ## Operations -/

/-- **`SkillUpdate`**. -/
structure SkillUpdate where
  name : Option Text := none
  description : Option Text := none
  tags : Option (List Text) := none
  isEnabled : Option Bool := none
  code : Option Text := none

/-- A column that is written if it is given. -/
def givenColumn {α : Type} (key : String) (dump : α → Json) (value : Option α) : Dict :=
  value.elim [] fun value => [(key, dump value)]

/-- The columns that `update_skill` writes. -/
def SkillUpdate.columns (change : SkillUpdate) : Dict :=
  givenColumn "name" .str change.name ++ givenColumn "description" .str change.description ++
    givenColumn "tags" ofList change.tags ++ givenColumn "is_enabled" .bool change.isEnabled ++
    givenColumn "code" .str change.code

/-- **The state**: the tables, and the content that was executed, with the skill that it was executed for. -/
structure State where
  platform : Platform
  executed : List (Key × Content) := []

/-- The rows are others. -/
def State.withSkills (s : State) (rows : List Row) : State :=
  { s with platform := { s.platform with skills := rows } }

/-- **The operations**: those of the skills API by a user, `toggle_skill`, and the executions through
`execute_skill_call` and the test endpoint, with what the code makes of the tables. -/
inductive Operation (u : Unicode)
  | create (isAdmin : Bool) (userId : ℤ) (definition : SkillDefinition u)
  | importYaml (isAdmin : Bool) (userId : ℤ) (yaml : Json)
  | update (isAdmin : Bool) (id : Text) (change : SkillUpdate)
  | delete (isAdmin : Bool) (id : Text)
  | toggle (id : Text) (enabled : Bool)
  | call (id : Text) (arguments : Dict) (world : World) (after : Platform)
  | test (isAdmin : Bool) (id : Text) (arguments : Dict) (world : World) (after : Platform)

variable (rt : Runtime)

/-- The row of an id. -/
def findSkill (id : Text) (rows : List Row) : Option Row := rows.find? (·.id = .text id)

/-- **`update_skill`**; code that is not valid is refused before anything is committed. -/
def updateSkill (id : Text) (change : SkillUpdate) (rows : List Row) : List Row :=
  if change.code.all rt.env.validateCode && rt.env.accepts "skill" change.columns then
    updateRow (some (.text id)) (fun _ => true) (·.write change.columns) rows
  else rows

/-- **`delete_skill`**: a built-in skill is refused. -/
def deleteSkill (id : Text) (rows : List Row) : List Row :=
  rows.filter fun row => ! (row.id = .text id && row.isCustom)

/-- **`toggle_skill`**. -/
def toggleSkill (id : Text) (enabled : Bool) (rows : List Row) : List Row :=
  updateRow (some (.text id)) (fun _ => true) (·.write [("is_enabled", .bool enabled)]) rows

/-- The row that `execute_skill_call` executes, and the arguments that its code gets. -/
def calledRow (id : Text) (arguments : Dict) (rows : List Row) : Option (Row × Dict) := do
  let row ← findSkill id rows
  let given ← (executeCall rt (some row) arguments).arguments
  some (row, given)

/-- The row that **`test_skill`** executes, with the arguments as they are. -/
def testedRow (isAdmin : Bool) (id : Text) (arguments : Dict) (rows : List Row) : Option (Row × Dict) := do
  let row ← findSkill id rows
  if isAdmin && row.isBuiltin && row.starts &&
      decide (SkillValidator.Valid rt.re arguments (row.parameters rt.py)) then
    some (row, arguments)
  else none

/-- What an operation executes. -/
def executes (s : State) : Operation rt.u → Option (Row × Dict)
  | .call id arguments _ _ => calledRow rt id arguments s.platform.skills
  | .test isAdmin id arguments _ _ => testedRow rt isAdmin id arguments s.platform.skills
  | _ => none

/-- The execution of a row. -/
def State.run (s : State) (executed : Option (Row × Dict)) (after : Platform) : State :=
  match executed with
  | some (row, _) => { platform := after, executed := s.executed ++ [(row.id, row.content)] }
  | none => s

/-- The rows after an operation that writes them; where it raises, they are as before. -/
def writeSkills (s : State) (isAdmin : Bool) (rows : Option (List Row)) : State :=
  if isAdmin then s.withSkills (rows.getD s.platform.skills) else s

/-- **One step**. -/
def step (s : State) : Operation rt.u → Option State
  | .create isAdmin userId definition =>
    some (writeSkills s isAdmin (registerSkill rt.env (some userId) false definition.1 s.platform.skills))
  | .importYaml isAdmin userId yaml =>
    some (writeSkills s isAdmin (importSkill rt.py rt.u rt.env userId yaml s.platform.skills))
  | .update isAdmin id change => some (writeSkills s isAdmin (updateSkill rt id change s.platform.skills))
  | .delete isAdmin id => some (writeSkills s isAdmin (deleteSkill id s.platform.skills))
  | .toggle id enabled => some (s.withSkills (toggleSkill id enabled s.platform.skills))
  | .call id arguments world after => some (s.run (executes rt s (.call id arguments world after)) after)
  | .test isAdmin id arguments world after =>
    some (s.run (executes rt s (.test isAdmin id arguments world after)) after)

/-! ## Shipped code -/

variable (shipped : List (Key × Content))

/-- The rows of skills after shipped code: of all built-in skills, only `manage_skill` writes them. -/
def shippedSkills (id : Key) (world : World) (arguments : Dict) (platform : Platform) : List Row :=
  if id = .text "manage_skill".toList then (manageSkill rt.env world arguments platform rt.u).skills
  else platform.skills

/-- What an execution makes of the rows, if the code that it executes is shipped. -/
def ShippedEffect (s : State) (world : World) (after : Platform) (executed : Option (Row × Dict)) : Prop :=
  ∀ row arguments, executed = some (row, arguments) → (row.id, row.content) ∈ shipped →
    after.skills = shippedSkills rt row.id world arguments s.platform

/-- **What can happen**: shipped code does what it was written to do, and other code does anything. -/
def Possible (s : State) : Operation rt.u → Prop
  | .call id arguments world after =>
    ShippedEffect rt shipped s world after (executes rt s (.call id arguments world after))
  | .test isAdmin id arguments world after =>
    ShippedEffect rt shipped s world after (executes rt s (.test isAdmin id arguments world after))
  | _ => True

/-- The content of every built-in row is that of the shipped skill. -/
def ShippedRows (rows : List Row) : Prop := ∀ row ∈ rows, row.isBuiltin = true → (row.id, row.content) ∈ shipped

/-- **Only shipped code**: every built-in row has the content of the shipped skill, and all that was executed is
shipped. -/
structure OnlyShipped (s : State) : Prop where
  rows : ShippedRows shipped s.platform.skills
  executed : ∀ entry ∈ s.executed, entry ∈ shipped

/-- The definition of a registration does not replace the content of a built-in row. -/
def SparesBuiltin (fields : SkillFields) (rows : List Row) : Prop :=
  (rt.env.validateCode fields.code && rt.env.accepts "skill" fields.columns) = true →
    ∀ row ∈ rows, row.isBuiltin = true → row.id = .text fields.id → (row.id, fields.content) ∈ shipped

/-- **The condition on an operation**: what an administrator creates or imports has the id of no built-in skill,
or its content, and no administrator gives a built-in skill other code. -/
def Spares (s : State) : Operation rt.u → Prop
  | .create isAdmin _ definition => isAdmin = true → SparesBuiltin rt shipped definition.1 s.platform.skills
  | .importYaml isAdmin _ yaml =>
    isAdmin = true → ∀ definition, loadFromYaml rt.py rt.u yaml = some definition →
      SparesBuiltin rt shipped definition.1 s.platform.skills
  | .update isAdmin id change =>
    isAdmin = true → rt.env.accepts "skill" change.columns = true →
      ∀ code, change.code = some code → rt.env.validateCode code = true →
        ∀ row ∈ s.platform.skills, row.isBuiltin = true → row.id = .text id →
          (row.id, { row.content with code := .str code }) ∈ shipped
  | _ => True

/-! ## What the operations do to built-in rows -/

variable {rt} {shipped} {rows : List Row}

/-- Writing rows keeps shipped content just if it leaves it to the built-in rows that are written. -/
theorem shippedRows_write_iff {key : Option Key} {admits : Row → Bool} {columns : Dict}
    (h : ShippedRows shipped rows) :
    ShippedRows shipped (updateRow key admits (·.write columns) rows) ↔
      ∀ row ∈ rows, row.isBuiltin = true → some row.id = key → admits row = true →
        (row.id, (row.write columns).content) ∈ shipped := by
  rw [ShippedRows, updateRow, List.forall_mem_map]
  refine forall₂_congr fun row hmem => ?_
  split
  · next hadmits =>
    exact ⟨fun hrow hbuiltin _ _ => hrow hbuiltin, fun hrow hbuiltin => hrow hbuiltin hadmits.1 hadmits.2⟩
  · next hadmits =>
    exact ⟨fun _ _ hkey hrow => absurd ⟨hkey, hrow⟩ hadmits, fun _ => h row hmem⟩

theorem content_write_columns (row : Row) (fields : SkillFields) (more : Dict) :
    (row.write (fields.columns ++ more)).content = fields.content := rfl

/-- A registration keeps shipped content just if it spares the built-in rows. -/
theorem shippedRows_register_iff (h : ShippedRows shipped rows) {userId : Option ℤ} {fields : SkillFields} :
    ShippedRows shipped ((registerSkill rt.env userId false fields rows).getD rows) ↔
      SparesBuiltin rt shipped fields rows := by
  rw [registerSkill, SparesBuiltin]
  split
  · next haccepted =>
    rw [forall_prop_of_true haccepted]
    split
    · refine (shippedRows_write_iff h).trans ?_
      refine forall₂_congr fun row _ => forall_congr' fun _ => ?_
      rw [content_write_columns, Option.some_inj, forall_prop_of_true rfl]
    · next hnone =>
      have hid (row : Row) (hmem : row ∈ rows) : row.id ≠ .text fields.id := by
        intro hid
        refine hnone ?_
        rw [hasRow, List.any_eq_true]
        exact ⟨row, hmem, by simp [hid]⟩
      refine iff_of_true ?_ fun row hmem _ hsame => absurd hsame (hid row hmem)
      intro row hmem hbuiltin
      obtain hmem | hmem := List.mem_append.mp hmem
      · exact h row hmem hbuiltin
      · cases List.mem_singleton.mp hmem
        cases hbuiltin
  · next haccepted => exact iff_of_true h fun hcontra => absurd hcontra haccepted

/-- Where nothing is written of what is executed, the content stays. -/
theorem content_write_of_none {row : Row} {columns : Dict} (hcode : columns.lookup "code" = none)
    (hparameters : columns.lookup "parameters" = none) (hpermissions : columns.lookup "permissions" = none) :
    (row.write columns).content = row.content := by
  rw [Row.content, get_write_of_none hcode, get_write_of_none hparameters, get_write_of_none hpermissions,
    Row.content]

theorem lookup_givenColumn {α : Type} {key name : String} {dump : α → Json} {value : Option α} :
    (givenColumn key dump value).lookup name = if name = key then value.map dump else none := by
  cases value with
  | none => simp [givenColumn]
  | some value =>
    rw [givenColumn, Option.elim_some, List.lookup_cons, List.lookup_nil]
    by_cases h : name = key
    · simp [h]
    · rw [beq_false_of_ne h, if_neg h]

theorem content_update {row : Row} {change : SkillUpdate} :
    (row.write change.columns).content =
      match change.code with
      | some code => { row.content with code := .str code }
      | none => row.content := by
  have hlookup (key : String) : change.columns.lookup key =
      (((((if key = "name" then change.name.map Json.str else none).or
        (if key = "description" then change.description.map Json.str else none)).or
        (if key = "tags" then change.tags.map ofList else none)).or
        (if key = "is_enabled" then change.isEnabled.map Json.bool else none)).or
        (if key = "code" then change.code.map Json.str else none)) := by
    simp only [SkillUpdate.columns, List.lookup_append, lookup_givenColumn]
  have hcode : change.columns.lookup "code" = change.code.map Json.str := by simp [hlookup]
  have hparameters : change.columns.lookup "parameters" = none := by simp [hlookup]
  have hpermissions : change.columns.lookup "permissions" = none := by simp [hlookup]
  cases h : change.code with
  | none =>
    rw [h] at hcode
    exact content_write_of_none hcode hparameters hpermissions
  | some code =>
    rw [h] at hcode
    rw [Row.content, get_write_of_some hcode, get_write_of_none hparameters, get_write_of_none hpermissions]
    rfl

/-- An update keeps shipped content just if it gives no built-in row other code. -/
theorem shippedRows_update_iff (h : ShippedRows shipped rows) {id : Text} {change : SkillUpdate} :
    ShippedRows shipped (updateSkill rt id change rows) ↔
      (rt.env.accepts "skill" change.columns = true →
        ∀ code, change.code = some code → rt.env.validateCode code = true →
          ∀ row ∈ rows, row.isBuiltin = true → row.id = .text id →
            (row.id, { row.content with code := .str code }) ∈ shipped) := by
  rw [updateSkill]
  split
  · next haccepted =>
    rw [Bool.and_eq_true] at haccepted
    rw [forall_prop_of_true haccepted.2]
    refine (shippedRows_write_iff h).trans ?_
    simp only [content_update, Option.some_inj, forall_const]
    cases hcode : change.code with
    | none => simpa using fun row hmem hbuiltin _ => h row hmem hbuiltin
    | some code =>
      have hvalid : rt.env.validateCode code = true := by simpa [hcode] using haccepted.1
      simp [hvalid]
  · next haccepted =>
    refine iff_of_true h fun haccepts code hcode hvalid => absurd ?_ haccepted
    simp [hcode, hvalid, haccepts]

theorem shippedRows_toggle (h : ShippedRows shipped rows) (id : Text) (enabled : Bool) :
    ShippedRows shipped (toggleSkill id enabled rows) :=
  (shippedRows_write_iff h).mpr fun row hmem hbuiltin _ _ => by
    rw [content_write_of_none rfl rfl rfl]
    exact h row hmem hbuiltin

theorem shippedRows_delete (h : ShippedRows shipped rows) (id : Text) : ShippedRows shipped (deleteSkill id rows) :=
  fun row hmem => h row (List.mem_of_mem_filter hmem)

/-- **`manage_skill`** writes no built-in row and adds none. -/
theorem shippedRows_manageSkill {world : World} {arguments : Dict} {platform : Platform} {env : Env} {u : Unicode}
    (h : ShippedRows shipped platform.skills) :
    ShippedRows shipped (manageSkill env world arguments platform u).skills := by
  have hcommit (accepted : Bool) (after : Platform) (hafter : ShippedRows shipped after.skills) :
      ShippedRows shipped (world.commit accepted platform after).skills := by
    rw [World.commit]
    split
    · exact hafter
    · exact h
  have hchange (columns : Dict) :
      ShippedRows shipped (changeSkill env world arguments platform columns).skills := by
    refine hcommit _ _ ((shippedRows_write_iff h).mpr fun row _ hbuiltin _ hcustom => ?_)
    rw [Row.isCustom, hbuiltin] at hcustom
    cases hcustom
  rw [manageSkill]
  split
  · -- the new row is custom
    split
    · split
      · refine hcommit _ _ fun row hmem hbuiltin => ?_
        obtain hmem | hmem := List.mem_append.mp hmem
        · exact h row hmem hbuiltin
        · cases List.mem_singleton.mp hmem
          cases hbuiltin
      · exact h
    · exact h
  · split
    · exact hchange _
    · split
      · exact hchange _
      · split
        · exact hchange _
        · exact h

theorem mem_of_findSkill {id : Text} {row : Row} (h : findSkill id rows = some row) :
    row ∈ rows ∧ row.id = .text id :=
  ⟨List.mem_of_find?_eq_some h, by simpa using List.find?_some h⟩

/-- **Custom skills are refused**: a row that is executed is a built-in one. -/
theorem isBuiltin_of_executes {s : State} {a : Operation rt.u} {row : Row} {arguments : Dict}
    (h : executes rt s a = some (row, arguments)) : row ∈ s.platform.skills ∧ row.isBuiltin = true := by
  cases a with
  | call id given world after =>
    obtain ⟨found, hfound, h⟩ := Option.bind_eq_some_iff.mp h
    obtain ⟨given', hgiven, h⟩ := Option.bind_eq_some_iff.mp h
    cases h
    refine ⟨(mem_of_findSkill hfound).1, ?_⟩
    rw [executeCall] at hgiven
    split at hgiven
    · next havailable =>
      simp only [available, Option.any_some, Bool.and_eq_true] at havailable
      exact havailable.1.1.2
    · cases hgiven
  | test isAdmin id given world after =>
    obtain ⟨found, hfound, h⟩ := Option.bind_eq_some_iff.mp h
    split at h
    · next hadmitted =>
      cases h
      simp only [Bool.and_eq_true] at hadmitted
      exact ⟨(mem_of_findSkill hfound).1, hadmitted.1.1.2⟩
    · cases h
  | _ => cases h

/-! ## The start of the program -/

/-- **`load_builtin_skills`**: the shipped skills are registered as built-in. -/
def loadBuiltinSkills (env : Env) (definitions : List SkillFields) (rows : List Row) : List Row :=
  definitions.foldl (fun rows fields => (registerSkill env none true fields rows).getD rows) rows

/-- Loading keeps shipped content, so that a first start leads to it. -/
theorem shippedRows_load {env : Env} {definitions : List SkillFields} (h : ShippedRows shipped rows)
    (hshipped : ∀ fields ∈ definitions, (Key.text fields.id, fields.content) ∈ shipped) :
    ShippedRows shipped (loadBuiltinSkills env definitions rows) := by
  refine List.foldlRecOn (motive := ShippedRows shipped) definitions _ h fun rows hrows fields hmem => ?_
  have hcontent := hshipped fields hmem
  rw [registerSkill]
  split
  · split
    · refine (shippedRows_write_iff hrows).mpr fun row _ _ hid _ => ?_
      rw [content_write_columns, Option.some.inj hid]
      exact hcontent
    · intro row hrow hbuiltin
      obtain hrow | hrow := List.mem_append.mp hrow
      · exact hrows row hrow hbuiltin
      · cases List.mem_singleton.mp hrow
        exact hcontent
  · exact hrows

/-! ## Runs -/

/-- An operation of an administrator on the rows. -/
theorem onlyShipped_writeSkills_iff {s : State} (h : OnlyShipped shipped s) {isAdmin : Bool}
    {after : Option (List Row)} {P : Prop}
    (hafter : ShippedRows shipped (after.getD s.platform.skills) ↔ P) :
    OnlyShipped shipped (writeSkills s isAdmin after) ↔ (isAdmin = true → P) := by
  cases isAdmin with
  | false => exact iff_of_true h nofun
  | true =>
    rw [forall_prop_of_true rfl, ← hafter]
    exact ⟨fun hs => hs.rows, fun hrows => ⟨hrows, h.executed⟩⟩

/-- An execution in a state with shipped code only. -/
theorem onlyShipped_run {s : State} (h : OnlyShipped shipped s) {a : Operation rt.u} {world : World}
    {after : Platform} (hpossible : ShippedEffect rt shipped s world after (executes rt s a)) :
    OnlyShipped shipped (s.run (executes rt s a) after) := by
  cases hexecutes : executes rt s a with
  | none => exact h
  | some entry =>
    obtain ⟨row, arguments⟩ := entry
    obtain ⟨hmem, hbuiltin⟩ := isBuiltin_of_executes hexecutes
    have hshipped := h.rows row hmem hbuiltin
    constructor
    · show ShippedRows shipped after.skills
      rw [hpossible row arguments hexecutes hshipped, shippedSkills]
      split
      · exact shippedRows_manageSkill h.rows
      · exact h.rows
    · intro entry hentry
      obtain hentry | hentry := List.mem_append.mp hentry
      · exact h.executed entry hentry
      · cases List.mem_singleton.mp hentry
        exact hshipped

/-- **One step** keeps to shipped code just under the condition on the operation. -/
theorem onlyShipped_step_iff {s t : State} {a : Operation rt.u} (h : OnlyShipped shipped s)
    (hpossible : Possible rt shipped s a) (hstep : step rt s a = some t) :
    OnlyShipped shipped t ↔ Spares rt shipped s a := by
  cases a with
  | create isAdmin userId definition =>
    cases hstep
    exact onlyShipped_writeSkills_iff h (shippedRows_register_iff h.rows)
  | importYaml isAdmin userId yaml =>
    cases hstep
    refine onlyShipped_writeSkills_iff h ?_
    rw [importSkill]
    cases hload : loadFromYaml rt.py rt.u yaml with
    | none => exact iff_of_true h.rows fun _ hdefinition => by cases hdefinition
    | some definition =>
      simp only [Option.some_inj, forall_eq']
      exact shippedRows_register_iff h.rows
  | update isAdmin id change =>
    cases hstep
    exact onlyShipped_writeSkills_iff h (shippedRows_update_iff h.rows)
  | delete isAdmin id =>
    cases hstep
    have hrows : ShippedRows shipped ((some (deleteSkill id s.platform.skills)).getD s.platform.skills) :=
      shippedRows_delete h.rows id
    exact iff_of_true ((onlyShipped_writeSkills_iff h (iff_true_intro hrows)).mpr fun _ => trivial) trivial
  | toggle id enabled =>
    cases hstep
    exact iff_of_true ⟨shippedRows_toggle h.rows id enabled, h.executed⟩ trivial
  | call id arguments world after | test isAdmin id arguments world after =>
    cases hstep
    exact iff_of_true (onlyShipped_run h hpossible) trivial

/-- **The runs with shipped code only** are the runs in which every operation meets the condition. -/
theorem onlyShipped_run_iff {s t : State} {as : List (Operation rt.u)} (h : OnlyShipped shipped s) :
    Run (step rt) (fun s a => Possible rt shipped s a ∧ ∃ t ∈ step rt s a, OnlyShipped shipped t) s as t ↔
      Run (step rt) (fun s a => Possible rt shipped s a ∧ Spares rt shipped s a) s as t :=
  Run.leadsTo_iff_of_possible (fun _ _ _ => onlyShipped_step_iff) (fun _ _ _ _ _ _ ht => ht) h

/-- A platform with one built-in skill. -/
def oneSkill : State where
  platform := { datasources := [], hosts := [], skills := [noParameters], templates := [], subscriptions := [] }

/-- Its content is the shipped one. -/
def oneShipped : List (Key × Content) := [(noParameters.id, noParameters.content)]

/-- An execution that commits. -/
def committing : World where
  now := 0
  newId := 1
  userExists := true
  commits := true
  changeAlertSettings _ platform := platform

/-- A skill with the id of the built-in one and other code. -/
def impostor : SkillDefinition Unicode.asciiOnly where
  val := {
    id := "list_datasource".toList
    name := "List datasources".toList
    version := "1.0.0".toList
    description := []
    code := "async def execute(context, params): ...".toList }
  property := by decide

/-- An execution of the built-in skill. -/
def callOneSkill : Operation sampleRuntime.u :=
  .call "list_datasource".toList [] committing oneSkill.platform

theorem oneSkill_onlyShipped : OnlyShipped oneShipped oneSkill where
  rows := fun row hmem _ => by
    cases List.mem_singleton.mp hmem
    exact List.mem_singleton_self _
  executed := fun _ hmem => by cases hmem

theorem oneSkill_run : Run (step sampleRuntime)
    (fun s a => Possible sampleRuntime oneShipped s a ∧ ∃ t ∈ step sampleRuntime s a, OnlyShipped oneShipped t)
    oneSkill [callOneSkill] { oneSkill with executed := [(noParameters.id, noParameters.content)] } := by
  refine (onlyShipped_run_iff oneSkill_onlyShipped).mpr (.cons ⟨?_, trivial⟩ rfl (.nil _))
  rintro row arguments hexecutes -
  obtain rfl : noParameters = row := congrArg Prod.fst (Option.some.inj hexecutes)
  rfl

/-- An administrator replaces the code of a built-in skill, and it is executed. -/
theorem impostor_executed : ¬ ∀ as t,
    Run (step sampleRuntime) (Possible sampleRuntime oneShipped) oneSkill as t → OnlyShipped oneShipped t := by
  intro hall
  have hnew (key : Key) : (key, impostor.1.content) ∉ oneShipped := by
    intro hmem
    have hcode := congrArg (fun entry : Key × Content => entry.2.code) (List.mem_singleton.mp hmem)
    cases hcode
  have hrun := hall [.create true 1 impostor, callOneSkill] _
    (.cons trivial rfl (.cons (fun row arguments hexecutes hshipped => ?_) rfl (.nil _)))
  · exact hnew _ (hrun.executed _ (List.mem_singleton_self _))
  · obtain rfl : noParameters.write impostor.1.columns = row := congrArg Prod.fst (Option.some.inj hexecutes)
    exact absurd hshipped (hnew _)

end Registry

end DBClaw.Skills
