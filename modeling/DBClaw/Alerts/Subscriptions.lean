import DBClaw.Library.JsonSchema
import DBClaw.Library.Runs
import DBClaw.Library.Upsert

/-! # Who may touch a subscription
Subscriptions are managed through the endpoints of the alerts router and through `manage_alert_settings` with
target `subscription`. Each entry point makes the test of ownership by itself, before it calls the service. -/

namespace DBClaw.Subscriptions

open Runs Upserts

/-- The current user. -/
structure User where
  id : ℤ
  isAdmin : Bool
deriving DecidableEq

/-- **A row** of `alert_subscription`. -/
structure Subscription where
  userId : ℤ
  columns : Dict
  isDeleted : Bool
  deletedBy : Option ℤ

/-- The table, by primary key. -/
abbrev Table : Type := ℤ → Option Subscription

/-- Why an operation is refused. -/
inductive Refusal
  | notFound
  | notAllowed
  | invalid
  | noDatasource
  | unsupported
deriving DecidableEq

/-- **What an operation answers**: a refusal, the list of a user, one subscription, that one is deleted, or what
has been sent through one. -/
inductive Reply
  | refused (why : Refusal)
  | listed (userId : ℤ)
  | shown (id : ℤ)
  | deleted (id : ℤ)
  | tested (id : ℤ)
deriving DecidableEq

/-- The fields of `AlertSubscriptionUpdate`. -/
def updateFields : List String :=
  ["datasource_ids", "severity_levels", "time_ranges", "integration_targets", "enabled", "aggregation_script",
    "locale", "timezone"]

/-- **What is done outside**: `int()` of text, and the models of Pydantic. `create` is
`AlertSubscriptionCreate(**data)` without its user, `update` is `AlertSubscriptionUpdate(**data)` dumped with
`exclude_unset`; `none` is a validation error. -/
structure Env where
  int : Text → Option ℤ
  create : Dict → Option Dict
  update : Dict → Option Dict
  /-- What becomes of a user that an administrator names. -/
  userId : Json → Option ℤ
  update_keys : ∀ {data fields : Dict}, update data = some fields → ∀ entry ∈ fields, entry.1 ∈ updateFields

/-- What the database answers: the id of a new row, and whether there is a datasource. -/
structure World where
  newId : ℤ
  hasDatasource : Bool

variable (env : Env)

/-! ## The service -/

/-- `get_alive_by_id`. -/
def getAliveById (table : Table) (id : ℤ) : Option Subscription := (table id).filter (! ·.isDeleted)

/-- `setattr(subscription, key, value)`; `enabled` is a synonym. -/
def Subscription.setattr (row : Subscription) (key : String) (value : Json) : Subscription :=
  match key, value with
  | "user_id", .int n => { row with userId := n }
  | "is_deleted", .bool b => { row with isDeleted := b }
  | "deleted_by", .int n => { row with deletedBy := some n }
  | "enabled", value => { row with columns := setItem row.columns "is_enabled" value }
  | key, value => { row with columns := setItem row.columns key value }

/-- The value is `None`. -/
def isNone : Json → Bool
  | .null => true
  | _ => false

/-- The loop of `update_subscription` over the changes. -/
def Subscription.change (row : Subscription) (changes : Dict) : Subscription :=
  changes.foldl (fun row entry => if isNone entry.2 then row else row.setattr entry.1 entry.2) row

/-- **`create_subscription`**. -/
def createSubscription (owner : ℤ) (fields : Dict) : Subscription where
  userId := owner
  columns := fields.map fun entry => (if entry.1 = "enabled" then "is_enabled" else entry.1, entry.2)
  isDeleted := false
  deletedBy := none

/-- **`soft_delete`**. -/
def Subscription.softDelete (userId : ℤ) (row : Subscription) : Subscription :=
  { row with isDeleted := true, deletedBy := some userId }

/-- What a handler does: the row that it writes, and its answer. -/
abbrev Outcome : Type := Option (ℤ × Subscription) × Reply

/-- A test comes first: what it raises is the answer. -/
def guarded {α : Type} (test : Except Refusal α) (next : α → Outcome) : Outcome :=
  match test with
  | .error why => (none, .refused why)
  | .ok a => next a

/-- **`delete_subscription`** of the service. -/
def deleteSubscription (table : Table) (id userId : ℤ) : Outcome :=
  match getAliveById table id with
  | none => (none, .refused .notFound)
  | some row => (some (id, row.softDelete userId), .deleted id)

/-! ## Ownership -/

/-- **`_get_subscription_for_user`**, of the router and of the skill. -/
def getSubscriptionForUser (table : Table) (id : ℤ) (user : User) : Except Refusal Subscription :=
  match getAliveById table id with
  | none => .error .notFound
  | some row => if ! user.isAdmin && row.userId != user.id then .error .notAllowed else .ok row

/-- **`_resolve_subscription_user_id`** of the router. -/
def resolveUserId (requested : Option ℤ) (user : User) : Except Refusal ℤ :=
  if requested.all (· = user.id) then .ok user.id
  else if user.isAdmin then .ok (requested.getD user.id)
  else .error .notAllowed

/-- **`_resolve_subscription_user_id`** of the skill, of a parameter as it is. -/
def resolveParam (requested : Json) (user : User) : Except Refusal ℤ :=
  if isNone requested || Json.pyEq requested (.int user.id) then .ok user.id
  else if user.isAdmin then (env.userId requested).elim (.error .invalid) .ok
  else .error .notAllowed

/-! ## The entry points -/

/-- **What can be asked for**: the endpoints with their path and body, and the skill with its action and
parameters. -/
inductive Request
  | list (userId : Option ℤ)
  | create (userId : Option ℤ) (body : Dict)
  | update (id : ℤ) (body : Dict)
  | delete (id : ℤ)
  | test (id : ℤ)
  | skill (action : Text) (params : Dict)

/-- `int(value)`; `none` where it raises. -/
def toInt : Json → Option ℤ
  | .int n => some n
  | .bool b => some b.toNat
  | .float (.fin q) => some (if 0 ≤ q then q.floor else q.ceil)
  | .str s => env.int s
  | _ => none

/-- The subscription that the parameters name, through `_require_param` and `int`. -/
def paramRow (table : Table) (user : User) (params : Dict) : Except Refusal (ℤ × Subscription) :=
  match toInt env (params.get "subscription_id") with
  | none => .error .invalid
  | some id => (getSubscriptionForUser table id user).map fun row => (id, row)

/-- What the skill gives to `AlertSubscriptionCreate`. -/
def createPayload (params : Dict) : Dict :=
  [("datasource_ids", (params.get "datasource_ids").or (.arr [])),
    ("severity_levels", (params.get "severity_levels").or (.arr [])),
    ("time_ranges", (params.get "time_ranges").or (.arr [])),
    ("integration_targets", (params.get "integration_targets").or (.arr [])),
    ("enabled", params.getD "enabled" (.bool true)),
    ("aggregation_script", params.get "aggregation_script")]

/-- What the skill gives to `AlertSubscriptionUpdate`. -/
def updatePayload (params : Dict) : Dict :=
  ["datasource_ids", "severity_levels", "time_ranges", "integration_targets", "enabled", "aggregation_script"].filterMap
    fun key => (params.lookup key).map fun value => (key, value)

/-- A row is changed by what Pydantic makes of the data. -/
def changeRow (id : ℤ) (row : Subscription) (data : Dict) : Outcome :=
  match env.update data with
  | none => (none, .refused .invalid)
  | some changes => (some (id, row.change changes), .shown id)

/-- A row is added for a user, of what Pydantic makes of the data. -/
def addRow (world : World) (owner : ℤ) (data : Dict) : Outcome :=
  match env.create data with
  | none => (none, .refused .invalid)
  | some fields => (some (world.newId, createSubscription owner fields), .shown world.newId)

/-- The row has datasources of its own. -/
def Subscription.hasDatasourceIds (row : Subscription) : Bool := (row.columns.get "datasource_ids").truthy

/-- **`_handle_subscription_target`**. -/
def handleSubscriptionTarget (user : User) (world : World) (table : Table) (action : Text) (params : Dict) :
    Outcome :=
  if action = "list".toList then
    guarded (resolveParam env (params.get "user_id") user) fun owner => (none, .listed owner)
  else if action = "get".toList then
    guarded (paramRow env table user params) fun (id, _) => (none, .shown id)
  else if action = "create".toList then
    guarded (resolveParam env (params.get "user_id") user) fun owner =>
      addRow env world owner (createPayload params)
  else if action = "update".toList then
    guarded (paramRow env table user params) fun (id, row) => changeRow env id row (updatePayload params)
  else if action = "delete".toList then
    guarded (paramRow env table user params) fun (id, _) => deleteSubscription table id user.id
  else if action = "test".toList then
    guarded (paramRow env table user params) fun (id, row) =>
      if row.hasDatasourceIds || world.hasDatasource then (none, .tested id) else (none, .refused .noDatasource)
  else (none, .refused .unsupported)

/-- **The handlers**: `list_subscriptions`, `create_subscription`, `update_subscription`, `delete_subscription`
and `test_notification` of the router, and the skill. FastAPI validates a body before the handler runs. -/
def handle (user : User) (world : World) (table : Table) : Request → Outcome
  | .list userId => guarded (resolveUserId userId user) fun owner => (none, .listed owner)
  | .create userId body =>
    if (env.create body).isNone then (none, .refused .invalid)
    else guarded (resolveUserId userId user) fun owner => addRow env world owner body
  | .update id body =>
    if (env.update body).isNone then (none, .refused .invalid)
    else guarded (getSubscriptionForUser table id user) fun row => changeRow env id row body
  | .delete id => deleteSubscription table id user.id
  | .test id => guarded (getSubscriptionForUser table id user) fun _ => (none, .tested id)
  | .skill action params => handleSubscriptionTarget env user world table (Text.strip action) params

/-- The table after a write. -/
def write (table : Table) : Option (ℤ × Subscription) → Table
  | none => table
  | some (id, row) => Function.update table id (some row)

/-- The table after a request. -/
def after (user : User) (world : World) (table : Table) (request : Request) : Table :=
  write table (handle env user world table request).1

/-! ## Own subscriptions only -/

/-- **What a user sees**: the own rows, deleted ones too. -/
def view (userId : ℤ) (table : Table) : Table := fun id => (table id).filter (·.userId = userId)

/-- An answer reveals a subscription. -/
def Reply.Reveals (table : Table) (id : ℤ) : Reply → Prop
  | .listed userId => ∃ row ∈ getAliveById table id, row.userId = userId
  | .shown i | .tested i => i = id
  | .refused _ | .deleted _ => False

/-- The subscription of an id belongs to a user. -/
def Owns (userId : ℤ) (table : Table) (id : ℤ) : Prop := ∃ row ∈ table id, row.userId = userId

/-- **A request of a user without privileges stays with the user's own**: the rows of the others are as before,
and what it reveals or sends through is the user's. -/
structure OwnOnly (userId : ℤ) (world : World) (table : Table) (request : Request) : Prop where
  others : ∀ v, v ≠ userId → view v (after env ⟨userId, false⟩ world table request) = view v table
  revealed : ∀ id, (handle env ⟨userId, false⟩ world table request).2.Reveals
    (after env ⟨userId, false⟩ world table request) id →
      Owns userId (after env ⟨userId, false⟩ world table request) id
  sent : ∀ id, (handle env ⟨userId, false⟩ world table request).2 = .tested id → Owns userId table id

/-- **The condition on a request**: the endpoint deletes no subscription of another user. -/
def Spares (userId : ℤ) (table : Table) : Request → Prop
  | .delete id => ∀ row ∈ getAliveById table id, row.userId = userId
  | _ => True

/-! ## Rows keep their users -/

variable {env}

/-- The fields of an update are none of the columns of ownership. -/
theorem setattr_userId {row : Subscription} {key : String} {value : Json} (h : key ∈ updateFields) :
    (row.setattr key value).userId = row.userId := by
  unfold Subscription.setattr
  split
  · simp [updateFields] at h
  all_goals rfl

/-- **An update moves no subscription.** -/
theorem change_userId {row : Subscription} {changes : Dict} (h : ∀ entry ∈ changes, entry.1 ∈ updateFields) :
    (row.change changes).userId = row.userId := by
  unfold Subscription.change
  induction changes generalizing row with
  | nil => rfl
  | cons entry changes ih =>
    obtain ⟨hentry, hchanges⟩ := List.forall_mem_cons.mp h
    rw [List.foldl_cons, ih hchanges]
    split
    · rfl
    · exact setattr_userId hentry

/-- An alive row is in the table. -/
theorem mem_of_getAliveById {table : Table} {id : ℤ} {row : Subscription} (h : getAliveById table id = some row) :
    table id = some row ∧ row.isDeleted = false := by
  obtain ⟨hrow, halive⟩ := Option.filter_eq_some_iff.mp h
  exact ⟨hrow, by simpa using halive⟩

/-- **The test of ownership.** -/
theorem getSubscriptionForUser_eq_ok {table : Table} {id : ℤ} {user : User} {row : Subscription} :
    getSubscriptionForUser table id user = .ok row ↔
      getAliveById table id = some row ∧ (user.isAdmin = true ∨ row.userId = user.id) := by
  unfold getSubscriptionForUser
  cases getAliveById table id with
  | none => simp
  | some old =>
    by_cases howner : user.isAdmin = true ∨ old.userId = user.id
    · have hpasses : (! user.isAdmin && old.userId != user.id) = false := by
        obtain h | h := howner <;> simp [h]
      simp only [hpasses, Bool.false_eq_true, if_false, Except.ok.injEq, Option.some.injEq]
      constructor
      · rintro rfl
        exact ⟨rfl, howner⟩
      · exact And.left
    · have hfails : (! user.isAdmin && old.userId != user.id) = true := by
        rw [not_or] at howner
        simp [howner.1, howner.2]
      simp only [hfails, if_true, reduceCtorEq, Option.some.injEq, false_iff, not_and]
      rintro rfl
      exact howner

/-- A user without privileges names no other. -/
theorem resolveUserId_eq_ok {requested : Option ℤ} {userId owner : ℤ}
    (h : resolveUserId requested ⟨userId, false⟩ = .ok owner) : owner = userId := by
  unfold resolveUserId at h
  split at h
  · exact (Except.ok.inj h).symm
  · cases h

theorem resolveParam_eq_ok {requested : Json} {userId owner : ℤ}
    (h : resolveParam env requested ⟨userId, false⟩ = .ok owner) : owner = userId := by
  unfold resolveParam at h
  split at h
  · exact (Except.ok.inj h).symm
  · cases h

/-- What the parameters name belongs to the user. -/
theorem paramRow_eq_ok {table : Table} {userId : ℤ} {params : Dict} {entry : ℤ × Subscription}
    (h : paramRow env table ⟨userId, false⟩ params = .ok entry) :
    getAliveById table entry.1 = some entry.2 ∧ entry.2.userId = userId := by
  unfold paramRow at h
  split at h
  · cases h
  · rename_i i _
    cases hrow : getSubscriptionForUser table i ⟨userId, false⟩ with
    | error why =>
      rw [hrow] at h
      cases h
    | ok old =>
      rw [hrow] at h
      obtain rfl := Except.ok.inj h
      obtain ⟨halive, hadmin | howner⟩ := getSubscriptionForUser_eq_ok.mp hrow
      · cases hadmin
      · exact ⟨halive, howner⟩

/-! ## What a handler does -/

/-- **An outcome that stays with a user**: it writes a row of the user in place of none or of one of the user's,
and answers with what is the user's. -/
structure Proper (userId : ℤ) (table : Table) (out : Outcome) : Prop where
  writes : ∀ id row, out.1 = some (id, row) → row.userId = userId ∧ ∀ old ∈ table id, old.userId = userId
  listed : ∀ v, out.2 = .listed v → v = userId
  shown : ∀ id, out.2 = .shown id → Owns userId (write table out.1) id
  tested : ∀ id, out.2 = .tested id → out.1 = none ∧ Owns userId table id

section Outcomes

variable {userId : ℤ} {table : Table}

theorem proper_refused (why : Refusal) : Proper userId table (none, .refused why) := by
  constructor <;> rintro _ ⟨⟩
  rintro ⟨⟩

theorem proper_guarded {α : Type} {test : Except Refusal α} {next : α → Outcome}
    (h : ∀ a, test = .ok a → Proper userId table (next a)) : Proper userId table (guarded test next) := by
  cases test with
  | error why => exact proper_refused why
  | ok a => exact h a rfl

theorem proper_listed : Proper userId table (none, .listed userId) where
  writes := by rintro _ _ ⟨⟩
  listed := by rintro _ ⟨⟩; rfl
  shown := by rintro _ ⟨⟩
  tested := by rintro _ ⟨⟩

theorem proper_shown {id : ℤ} (h : Owns userId table id) : Proper userId table (none, .shown id) where
  writes := by rintro _ _ ⟨⟩
  listed := by rintro _ ⟨⟩
  shown := by rintro _ ⟨⟩; exact h
  tested := by rintro _ ⟨⟩

theorem proper_tested {id : ℤ} (h : Owns userId table id) : Proper userId table (none, .tested id) where
  writes := by rintro _ _ ⟨⟩
  listed := by rintro _ ⟨⟩
  shown := by rintro _ ⟨⟩
  tested := by rintro _ ⟨⟩; exact ⟨rfl, h⟩

/-- A written row that is shown. -/
theorem proper_written {id : ℤ} {row : Subscription} {reply : Reply} (hrow : row.userId = userId)
    (hold : ∀ old ∈ table id, old.userId = userId) (hreply : reply = .shown id ∨ reply = .deleted id) :
    Proper userId table (some (id, row), reply) where
  writes := by rintro _ _ ⟨⟩; exact ⟨hrow, hold⟩
  listed := by
    rintro v rfl
    obtain ⟨⟨⟩⟩ | ⟨⟨⟩⟩ := hreply
  shown := by
    rintro i rfl
    obtain ⟨⟨⟩⟩ | ⟨⟨⟩⟩ := hreply
    exact ⟨row, Function.update_self .., hrow⟩
  tested := by
    rintro v rfl
    obtain ⟨⟨⟩⟩ | ⟨⟨⟩⟩ := hreply

theorem proper_addRow {world : World} (h : table world.newId = none) (data : Dict) :
    Proper userId table (addRow env world userId data) := by
  unfold addRow
  split
  · exact proper_refused _
  · refine proper_written rfl ?_ (.inl rfl)
    rw [h]
    rintro _ ⟨⟩

theorem proper_changeRow {id : ℤ} {row : Subscription} (hrow : table id = some row) (howner : row.userId = userId)
    (data : Dict) : Proper userId table (changeRow env id row data) := by
  unfold changeRow
  split
  · exact proper_refused _
  · rename_i changes hchanges
    refine proper_written ((change_userId (env.update_keys hchanges)).trans howner) ?_ (.inl rfl)
    rw [hrow]
    rintro _ ⟨⟩
    exact howner

theorem proper_deleteSubscription {id : ℤ} (h : ∀ row ∈ getAliveById table id, row.userId = userId) :
    Proper userId table (deleteSubscription table id userId) := by
  unfold deleteSubscription
  split
  · exact proper_refused _
  · rename_i row hrow
    have howner := h row hrow
    refine proper_written howner ?_ (.inr rfl)
    rw [(mem_of_getAliveById hrow).1]
    rintro _ ⟨⟩
    exact howner

/-- **The skill** stays with the user's own, whatever its parameters are. -/
theorem proper_handleSubscriptionTarget {world : World} (h : table world.newId = none) (action : Text)
    (params : Dict) :
    Proper userId table (handleSubscriptionTarget env ⟨userId, false⟩ world table action params) := by
  have howns {id : ℤ} {row : Subscription} (hrow : getAliveById table id = some row ∧ row.userId = userId) :
      Owns userId table id := ⟨row, (mem_of_getAliveById hrow.1).1, hrow.2⟩
  unfold handleSubscriptionTarget
  split
  · refine proper_guarded fun owner howner => ?_
    rw [resolveParam_eq_ok howner]
    exact proper_listed
  split
  · exact proper_guarded fun entry hrow => proper_shown (howns (paramRow_eq_ok hrow))
  split
  · refine proper_guarded fun owner howner => ?_
    rw [resolveParam_eq_ok howner]
    exact proper_addRow h _
  split
  · refine proper_guarded fun entry hrow => ?_
    obtain ⟨halive, howner⟩ := paramRow_eq_ok hrow
    exact proper_changeRow (mem_of_getAliveById halive).1 howner _
  split
  · refine proper_guarded fun entry hrow => ?_
    obtain ⟨halive, howner⟩ := paramRow_eq_ok hrow
    refine proper_deleteSubscription fun row hmem => ?_
    rw [halive] at hmem
    rw [← Option.some.inj hmem]
    exact howner
  split
  · refine proper_guarded fun entry hrow => ?_
    dsimp only
    split
    · exact proper_tested (howns (paramRow_eq_ok hrow))
    · exact proper_refused _
  · exact proper_refused _

/-- **Every request but a deletion of another's subscription** stays with the user's own. -/
theorem proper_handle {world : World} {request : Request} (h : table world.newId = none)
    (hspares : Spares userId table request) :
    Proper userId table (handle env ⟨userId, false⟩ world table request) := by
  cases request with
  | list requested =>
    refine proper_guarded fun owner howner => ?_
    rw [resolveUserId_eq_ok howner]
    exact proper_listed
  | create requested body =>
    rw [handle]
    split
    · exact proper_refused _
    · refine proper_guarded fun owner howner => ?_
      rw [resolveUserId_eq_ok howner]
      exact proper_addRow h body
  | update id body =>
    rw [handle]
    split
    · exact proper_refused _
    · refine proper_guarded fun row hrow => ?_
      obtain ⟨halive, hadmin | howner⟩ := getSubscriptionForUser_eq_ok.mp hrow
      · cases hadmin
      · exact proper_changeRow (mem_of_getAliveById halive).1 howner body
  | delete id => exact proper_deleteSubscription hspares
  | test id =>
    refine proper_guarded fun row hrow => ?_
    obtain ⟨halive, hadmin | howner⟩ := getSubscriptionForUser_eq_ok.mp hrow
    · cases hadmin
    · exact proper_tested ⟨row, (mem_of_getAliveById halive).1, howner⟩
  | skill action params => exact proper_handleSubscriptionTarget h (Text.strip action) params

end Outcomes

/-- A row of one user is not in the view of another. -/
theorem view_write {userId v : ℤ} {table : Table} {out : Outcome} (h : Proper userId table out) (hv : v ≠ userId) :
    view v (write table out.1) = view v table := by
  obtain ⟨written, reply⟩ := out
  cases written with
  | none => rfl
  | some entry =>
    obtain ⟨id, row⟩ := entry
    obtain ⟨hrow, hold⟩ := h.writes id row rfl
    have hhidden (hidden : Option Subscription) (howner : ∀ old ∈ hidden, old.userId = userId) :
        hidden.filter (·.userId = v) = none := by
      rw [Option.filter_eq_none_iff]
      intro old hmem
      simp [howner old hmem, Ne.symm hv]
    funext i
    unfold view write
    by_cases hi : i = id
    · rw [hi]
      dsimp only
      rw [Function.update_self, hhidden _ hold, hhidden]
      rintro _ ⟨⟩
      exact hrow
    · dsimp only
      rw [Function.update_of_ne hi]

/-- **One request** of a user without privileges stays with the user's own just under the condition. -/
theorem ownOnly_iff {userId : ℤ} {world : World} {table : Table} {request : Request}
    (h : table world.newId = none) :
    OwnOnly env userId world table request ↔ Spares userId table request := by
  constructor
  · intro hown
    cases request with
    | list _ | create _ _ | update _ _ | test _ | skill _ _ => trivial
    | delete id =>
      intro row hrow
      by_contra hne
      have hview := congrFun (hown.others row.userId hne) id
      obtain ⟨htable, halive⟩ := mem_of_getAliveById hrow
      have hafter : after env ⟨userId, false⟩ world table (.delete id) id = some (row.softDelete userId) := by
        rw [after, handle, deleteSubscription, Option.mem_def.mp hrow]
        exact Function.update_self ..
      unfold view at hview
      rw [hafter, htable, Option.filter_some_pos (by simp [Subscription.softDelete]),
        Option.filter_some_pos (by simp)] at hview
      have hdeleted := congrArg Subscription.isDeleted (Option.some.inj hview)
      rw [halive] at hdeleted
      cases hdeleted
  · intro hspares
    have hproper := @proper_handle env userId table world request h hspares
    refine ⟨fun v hv => view_write hproper hv, ?_, fun id htested => (hproper.tested id htested).2⟩
    intro id hreveals
    unfold after at hreveals ⊢
    cases hreply : (handle env ⟨userId, false⟩ world table request).2 with
    | refused why | deleted i =>
      rw [hreply] at hreveals
      exact absurd hreveals not_false
    | listed v =>
      rw [hreply] at hreveals
      obtain ⟨row, hrow, rfl⟩ := hreveals
      exact ⟨row, (mem_of_getAliveById hrow).1, hproper.listed _ hreply⟩
    | shown i =>
      rw [hreply] at hreveals
      obtain rfl : i = id := hreveals
      exact hproper.shown i hreply
    | tested i =>
      rw [hreply] at hreveals
      obtain rfl : i = id := hreveals
      obtain ⟨hnone, howns⟩ := hproper.tested i hreply
      rw [hnone]
      exact howns

/-! ## The two interfaces -/

/-- **What can be asked for through both interfaces.** -/
inductive Operation
  | list (userId : Option ℤ)
  | create (userId : Option ℤ) (body : Dict)
  | update (id : ℤ) (body : Dict)
  | delete (id : ℤ)
  | test (id : ℤ)

/-- The operation as a request to the router. -/
def Operation.viaRouter : Operation → Request
  | .list userId => .list userId
  | .create userId body => .create userId body
  | .update id body => .update id body
  | .delete id => .delete id
  | .test id => .test id

/-- The parameter for a user. -/
def userParam (userId : Option ℤ) : Dict := userId.elim [] fun n => [("user_id", .int n)]

/-- The operation as a call of the skill. -/
def Operation.viaSkill : Operation → Request
  | .list userId => .skill "list".toList (userParam userId)
  | .create userId body => .skill "create".toList (userParam userId ++ body)
  | .update id body => .skill "update".toList (("subscription_id", .int id) :: body)
  | .delete id => .skill "delete".toList [("subscription_id", .int id)]
  | .test id => .skill "test".toList [("subscription_id", .int id)]

/-- The data pass validation through either interface, which looks neither at the user nor at the table. -/
def Operation.WellFormed (env : Env) : Operation → Prop
  | .create _ body => body.lookup "user_id" = none ∧ (env.create body).isSome = true ∧
      (env.create (createPayload body)).isSome = true
  | .update _ body => (env.update body).isSome = true ∧ (env.update (updatePayload body)).isSome = true
  | _ => True

/-- The operation is not refused. -/
def Outcome.Allowed (out : Outcome) : Prop := ∀ why, out.2 ≠ .refused why

/-- **The condition on an operation** under which both interfaces decide the same: a deletion is of no
subscription of another, and a test of an own one that names no datasource finds one. -/
def SameDecision (userId : ℤ) (world : World) (table : Table) : Operation → Prop
  | .delete id => ∀ row ∈ getAliveById table id, row.userId = userId
  | .test id => ∀ row ∈ getAliveById table id, row.userId = userId →
      row.hasDatasourceIds = true ∨ world.hasDatasource = true
  | _ => True

theorem not_allowed_refused (written : Option (ℤ × Subscription)) (why : Refusal) :
    ¬ Outcome.Allowed (written, .refused why) := fun h => h why rfl

/-- The parameter for a user is resolved as the router does. -/
theorem resolveParam_userParam (requested : Option ℤ) (userId : ℤ) (rest : Dict)
    (h : rest.lookup "user_id" = none) :
    resolveParam env (Dict.get (userParam requested ++ rest) "user_id") ⟨userId, false⟩ =
      resolveUserId requested ⟨userId, false⟩ := by
  cases requested with
  | none =>
    have hget : Dict.get (userParam none ++ rest) "user_id" = .null := by
      change (rest.lookup "user_id").getD .null = .null
      rw [h]
      rfl
    rw [hget]
    rfl
  | some n =>
    have hget : Dict.get (userParam (some n) ++ rest) "user_id" = .int n := rfl
    have heq : Json.pyEq (.int n) (.int userId) = decide (n = userId) := by
      change PyFloat.eq (.fin n) (.fin userId) = _
      simp [PyFloat.eq]
    rw [hget, resolveParam, resolveUserId, heq]
    simp [isNone]

section Decisions

variable {userId : ℤ} {world : World} {table : Table}

/-- After the same test, what comes next decides. -/
theorem allowed_guarded_congr {α : Type} {test : Except Refusal α} {next next' : α → Outcome}
    (h : ∀ a, test = .ok a → ((next a).Allowed ↔ (next' a).Allowed)) :
    (guarded test next).Allowed ↔ (guarded test next').Allowed := by
  cases test with
  | error why => exact iff_of_false (not_allowed_refused _ _) (not_allowed_refused _ _)
  | ok a => exact h a rfl

theorem allowed_addRow {owner : ℤ} {data : Dict} (h : (env.create data).isSome = true) :
    (addRow env world owner data).Allowed := by
  obtain ⟨fields, hfields⟩ := Option.isSome_iff_exists.mp h
  rw [addRow, hfields]
  rintro why ⟨⟩

theorem allowed_changeRow {id : ℤ} {row : Subscription} {data : Dict} (h : (env.update data).isSome = true) :
    (changeRow env id row data).Allowed := by
  obtain ⟨changes, hchanges⟩ := Option.isSome_iff_exists.mp h
  rw [changeRow, hchanges]
  rintro why ⟨⟩

/-- The subscription of the parameter is the one of the path. -/
theorem guarded_paramRow {id : ℤ} {user : User} (rest : Dict) (next : ℤ × Subscription → Outcome) :
    guarded (paramRow env table user (("subscription_id", .int id) :: rest)) next =
      guarded (getSubscriptionForUser table id user) fun row => next (id, row) := by
  change guarded ((getSubscriptionForUser table id user).map fun row => (id, row)) next = _
  cases getSubscriptionForUser table id user <;> rfl

theorem createPayload_userParam (requested : Option ℤ) (body : Dict) :
    createPayload (userParam requested ++ body) = createPayload body := by
  cases requested <;> rfl

/-- What the test of ownership comes to. -/
theorem getSubscriptionForUser_cases (table : Table) (id userId : ℤ) :
    (getAliveById table id = none ∧ getSubscriptionForUser table id ⟨userId, false⟩ = .error .notFound) ∨
      ∃ row, getAliveById table id = some row ∧
        (row.userId = userId ∧ getSubscriptionForUser table id ⟨userId, false⟩ = .ok row ∨
          row.userId ≠ userId ∧ getSubscriptionForUser table id ⟨userId, false⟩ = .error .notAllowed) := by
  unfold getSubscriptionForUser
  cases getAliveById table id with
  | none => exact .inl ⟨rfl, rfl⟩
  | some row =>
    refine .inr ⟨row, rfl, ?_⟩
    by_cases howner : row.userId = userId
    · exact .inl ⟨howner, by simp [howner]⟩
    · exact .inr ⟨howner, by simp [howner]⟩

theorem deleteSubscription_allowed_iff {id : ℤ} :
    (deleteSubscription table id userId).Allowed ↔ (getAliveById table id).isSome = true := by
  unfold deleteSubscription
  cases getAliveById table id with
  | none => exact iff_of_false (not_allowed_refused _ _) Bool.false_ne_true
  | some row => exact iff_of_true (by rintro why ⟨⟩) rfl

/-- **Both interfaces decide the same** just under the condition. -/
theorem sameDecision_iff {op : Operation} (h : op.WellFormed env) :
    ((handle env ⟨userId, false⟩ world table op.viaRouter).Allowed ↔
        (handle env ⟨userId, false⟩ world table op.viaSkill).Allowed) ↔
      SameDecision userId world table op := by
  cases op with
  | list requested =>
    refine iff_of_true ?_ trivial
    have hresolve := @resolveParam_userParam env requested userId [] rfl
    rw [List.append_nil] at hresolve
    change (guarded (resolveUserId requested ⟨userId, false⟩) _).Allowed ↔
      (guarded (resolveParam env (Dict.get (userParam requested) "user_id") ⟨userId, false⟩) _).Allowed
    rw [hresolve]
  | create requested body =>
    obtain ⟨huser, hbody, hpayload⟩ := h
    refine iff_of_true ?_ trivial
    have hresolve := @resolveParam_userParam env requested userId body huser
    change Outcome.Allowed (if (env.create body).isNone then _ else _) ↔
      (guarded (resolveParam env (Dict.get (userParam requested ++ body) "user_id") ⟨userId, false⟩) fun owner =>
        addRow env world owner (createPayload (userParam requested ++ body))).Allowed
    rw [Option.isNone_eq_false_iff.mpr hbody, if_neg Bool.false_ne_true, hresolve, createPayload_userParam]
    exact allowed_guarded_congr fun owner _ => iff_of_true (allowed_addRow hbody) (allowed_addRow hpayload)
  | update id body =>
    obtain ⟨hbody, hpayload⟩ := h
    refine iff_of_true ?_ trivial
    change Outcome.Allowed (if (env.update body).isNone then _ else _) ↔
      (guarded (paramRow env table ⟨userId, false⟩ (("subscription_id", .int id) :: body)) _).Allowed
    rw [Option.isNone_eq_false_iff.mpr hbody, if_neg Bool.false_ne_true, guarded_paramRow]
    exact allowed_guarded_congr fun row _ => iff_of_true (allowed_changeRow hbody) (allowed_changeRow hpayload)
  | delete id =>
    change ((deleteSubscription table id userId).Allowed ↔
      (guarded (paramRow env table ⟨userId, false⟩ [("subscription_id", .int id)]) _).Allowed) ↔
        ∀ row ∈ getAliveById table id, row.userId = userId
    rw [guarded_paramRow, deleteSubscription_allowed_iff]
    obtain ⟨halive, hrow⟩ | ⟨row, halive, ⟨howner, hrow⟩ | ⟨howner, hrow⟩⟩ :=
      getSubscriptionForUser_cases table id userId
    · rw [hrow, halive]
      exact iff_of_true (iff_of_false Bool.false_ne_true (not_allowed_refused _ _)) (by rintro _ ⟨⟩)
    · rw [hrow]
      refine iff_of_true deleteSubscription_allowed_iff.symm ?_
      rw [halive]
      rintro _ ⟨⟩
      exact howner
    · rw [hrow, halive]
      exact iff_of_false (fun h => not_allowed_refused _ _ (h.mp rfl)) fun h => howner (h row rfl)
  | test id =>
    change ((guarded (getSubscriptionForUser table id ⟨userId, false⟩) fun _ => (none, .tested id)).Allowed ↔
      (guarded (paramRow env table ⟨userId, false⟩ [("subscription_id", .int id)]) _).Allowed) ↔
        ∀ row ∈ getAliveById table id, row.userId = userId →
          row.hasDatasourceIds = true ∨ world.hasDatasource = true
    rw [guarded_paramRow]
    obtain ⟨halive, hrow⟩ | ⟨row, halive, ⟨howner, hrow⟩ | ⟨howner, hrow⟩⟩ :=
      getSubscriptionForUser_cases table id userId
    · rw [hrow, halive]
      exact iff_of_true (iff_of_false (not_allowed_refused _ _) (not_allowed_refused _ _)) (by rintro _ ⟨⟩)
    · have htested : Outcome.Allowed (none, .tested id) := by rintro why ⟨⟩
      have hcondition : (∀ r ∈ some row, r.userId = userId → r.hasDatasourceIds = true ∨ world.hasDatasource = true) ↔
          (row.hasDatasourceIds || world.hasDatasource) = true := by
        rw [Bool.or_eq_true]
        simp [howner]
      rw [hrow, halive, hcondition]
      change (Outcome.Allowed (none, .tested id) ↔
        Outcome.Allowed (if row.hasDatasourceIds || world.hasDatasource then (none, .tested id)
          else (none, .refused .noDatasource))) ↔ _
      split
      · rename_i hdatasource
        exact iff_of_true Iff.rfl hdatasource
      · rename_i hdatasource
        exact iff_of_false (fun h => not_allowed_refused _ _ (h.mp htested)) hdatasource
    · rw [hrow, halive]
      refine iff_of_true (iff_of_false (not_allowed_refused _ _) (not_allowed_refused _ _)) ?_
      rintro _ ⟨⟩ h
      exact absurd h howner

end Decisions

/-! ## What the others see -/

/-- A row is changed, if it is there and the change applies. -/
def modify (id : ℤ) (f : Subscription → Option Subscription) (table : Table) : Table :=
  Function.update table id ((table id).map fun row => (f row).getD row)

/-- **A local effect on a table**: a row is put under an id whatever stood there, or one row is changed and
keeps its user. -/
inductive IsLocal : (Table → Table) → Prop
  | put (id : ℤ) (row : Subscription) : IsLocal fun table => Function.update table id (some row)
  | change (id : ℤ) (f : Subscription → Option Subscription)
      (hf : ∀ row, ∀ row' ∈ f row, row'.userId = row.userId) : IsLocal (modify id f)

/-- A change of no row. -/
theorem modify_none (id : ℤ) : modify id (fun _ => none) = fun table => table := by
  funext table
  unfold modify
  rw [show ((table id).map fun row => (none : Option Subscription).getD row) = table id from Option.map_id_apply,
    Function.update_eq_self]

theorem isLocal_id : IsLocal fun table => table :=
  modify_none 0 ▸ .change 0 (fun _ => none) (by rintro _ _ ⟨⟩)

/-- **What a user sees after a local effect** depends on what the user saw before. -/
theorem IsLocal.view_congr {g : Table → Table} (h : IsLocal g) {v : ℤ} {table table' : Table}
    (hview : view v table = view v table') : view v (g table) = view v (g table') := by
  cases h with
  | put id row =>
    funext i
    by_cases hi : i = id
    · subst hi
      unfold view
      dsimp only
      rw [Function.update_self, Function.update_self]
    · have hother := congrFun hview i
      unfold view at hother ⊢
      dsimp only
      rw [Function.update_of_ne hi, Function.update_of_ne hi, hother]
  | change id f hf =>
    -- the view of the changed row is the changed row of the view
    have hcommutes (t : Table) : view v (modify id f t) = modify id f (view v t) := by
      funext i
      unfold view modify
      by_cases hi : i = id
      · subst hi
        rw [Function.update_self, Function.update_self]
        dsimp only
        cases t i with
        | none => rfl
        | some row =>
          have howner : ((f row).getD row).userId = row.userId := by
            cases hrow : f row with
            | none => rfl
            | some row' => exact hf row row' hrow
          rw [Option.map_some, Option.filter_some, Option.filter_some, howner]
          split <;> rfl
      · rw [Function.update_of_ne hi, Function.update_of_ne hi]
    rw [hcommutes, hcommutes, hview]

/-- What the owner, or an administrator, may do to a row. -/
def permitted (user : User) (f : Subscription → Option Subscription) (row : Subscription) : Option Subscription :=
  if row.isDeleted = false ∧ (user.isAdmin = true ∨ row.userId = user.id) then f row else none

/-- **A write behind the test of ownership** is a change of the row. -/
theorem write_guarded {user : User} {id : ℤ} {f : Subscription → Option Subscription}
    {next : Subscription → Outcome} {table : Table}
    (hnext : ∀ row ∈ getAliveById table id, (next row).1 = (f row).map fun row' => (id, row')) :
    write table (guarded (getSubscriptionForUser table id user) next).1 = modify id (permitted user f) table := by
  have hkept (h : (table id).map (fun row => (permitted user f row).getD row) = table id) :
      modify id (permitted user f) table = table := by
    rw [modify, h, Function.update_eq_self]
  cases hresult : getSubscriptionForUser table id user with
  | error why =>
    refine (hkept ?_).symm
    cases hrow : table id with
    | none => rfl
    | some row =>
      rw [Option.map_some, permitted]
      split
      · rename_i hpermitted
        have halive : getAliveById table id = some row := by
          rw [getAliveById, hrow, Option.filter_some_pos (by simp [hpermitted.1])]
        rw [getSubscriptionForUser_eq_ok.mpr ⟨halive, hpermitted.2⟩] at hresult
        cases hresult
      · rfl
  | ok row =>
    obtain ⟨halive, hallowed⟩ := getSubscriptionForUser_eq_ok.mp hresult
    obtain ⟨hrow, hnotDeleted⟩ := mem_of_getAliveById halive
    have hpermitted : permitted user f row = f row := if_pos ⟨hnotDeleted, hallowed⟩
    change write table (next row).1 = _
    rw [hnext row halive]
    cases hf : f row with
    | none =>
      refine (hkept ?_).symm
      rw [hrow, Option.map_some, hpermitted, hf, Option.getD_none]
    | some row' =>
      rw [Option.map_some, write, modify, hrow, Option.map_some, hpermitted, hf, Option.getD_some]

/-- Who is permitted changes no user. -/
theorem permitted_userId {user : User} {f : Subscription → Option Subscription}
    (hf : ∀ row, ∀ row' ∈ f row, row'.userId = row.userId) :
    ∀ row, ∀ row' ∈ permitted user f row, row'.userId = row.userId := by
  intro row row' hmem
  unfold permitted at hmem
  split at hmem
  · exact hf row row' hmem
  · cases hmem

/-- A handler that tests the ownership of one row has a local effect. -/
theorem isLocal_guarded {user : User} {id : ℤ} {f : Subscription → Option Subscription}
    {next : Table → Subscription → Outcome} (hf : ∀ row, ∀ row' ∈ f row, row'.userId = row.userId)
    (hnext : ∀ table, ∀ row ∈ getAliveById table id, (next table row).1 = (f row).map fun row' => (id, row')) :
    IsLocal fun table => write table (guarded (getSubscriptionForUser table id user) (next table)).1 := by
  have heq : (fun table => write table (guarded (getSubscriptionForUser table id user) (next table)).1) =
      modify id (permitted user f) := funext fun table => write_guarded (hnext table)
  rw [heq]
  exact .change id _ (permitted_userId hf)

/-- The same, of the row that the parameters name. -/
theorem isLocal_paramRow {user : User} {params : Dict} {f : Subscription → Option Subscription}
    {next : Table → ℤ × Subscription → Outcome} (hf : ∀ row, ∀ row' ∈ f row, row'.userId = row.userId)
    (hnext : ∀ table id, ∀ row ∈ getAliveById table id, (next table (id, row)).1 = (f row).map fun row' => (id, row')) :
    IsLocal fun table => write table (guarded (paramRow env table user params) (next table)).1 := by
  cases hid : toInt env (params.get "subscription_id") with
  | none =>
    have heq (table : Table) : guarded (paramRow env table user params) (next table) = (none, .refused .invalid) := by
      rw [paramRow, hid]
      rfl
    simp only [heq]
    exact isLocal_id
  | some id =>
    have heq (table : Table) : guarded (paramRow env table user params) (next table) =
        guarded (getSubscriptionForUser table id user) fun row => next table (id, row) := by
      rw [paramRow, hid]
      dsimp only
      cases getSubscriptionForUser table id user <;> rfl
    simp only [heq]
    exact isLocal_guarded hf fun table row hrow => hnext table id row hrow

/-- A handler that writes what does not depend on the table. -/
theorem isLocal_const (out : Option (ℤ × Subscription)) : IsLocal fun table => write table out := by
  cases out with
  | none => exact isLocal_id
  | some entry => exact .put entry.1 entry.2

/-- What an update makes of a row. -/
theorem changeRow_fst (id : ℤ) (row : Subscription) (data : Dict) :
    (changeRow env id row data).1 = ((env.update data).map row.change).map fun row' => (id, row') := by
  unfold changeRow
  cases env.update data <;> rfl

theorem map_change_userId (data : Dict) :
    ∀ row : Subscription, ∀ row' ∈ (env.update data).map row.change, row'.userId = row.userId := by
  intro row row' hmem
  obtain ⟨changes, hchanges, rfl⟩ := Option.map_eq_some_iff.mp hmem
  exact change_userId (env.update_keys hchanges)

theorem deleteSubscription_fst {table : Table} {id userId : ℤ} {row : Subscription}
    (h : row ∈ getAliveById table id) :
    (deleteSubscription table id userId).1 = (some (row.softDelete userId)).map fun row' => (id, row') := by
  rw [deleteSubscription, Option.mem_def.mp h]
  rfl

/-- A deletion through the endpoint, of a row whoever owns it. -/
theorem isLocal_deleteSubscription (id userId : ℤ) :
    IsLocal fun table => write table (deleteSubscription table id userId).1 := by
  have heq : (fun table => write table (deleteSubscription table id userId).1) =
      modify id fun row => if row.isDeleted then none else some (row.softDelete userId) := by
    funext table
    unfold deleteSubscription getAliveById modify
    cases hrow : table id with
    | none => exact (Function.update_eq_self_iff.mpr hrow.symm).symm
    | some row =>
      cases hdeleted : row.isDeleted with
      | true =>
        rw [Option.filter_some_neg (by simp [hdeleted]), Option.map_some]
        dsimp only
        rw [hdeleted, if_pos rfl, Option.getD_none]
        exact (Function.update_eq_self_iff.mpr hrow.symm).symm
      | false =>
        rw [Option.filter_some_pos (by simp [hdeleted]), Option.map_some]
        dsimp only
        rw [hdeleted, if_neg Bool.false_ne_true]
        rfl
  rw [heq]
  refine .change id _ fun row row' hmem => ?_
  split at hmem
  · cases hmem
  · rw [← Option.some.inj hmem]
    rfl

/-- **Every request has a local effect.** -/
theorem isLocal_after (user : User) (world : World) (request : Request) :
    IsLocal fun table => after env user world table request := by
  have hnone {f : Subscription → Option Subscription} (hf : f = fun _ => none) :
      ∀ row, ∀ row' ∈ f row, row'.userId = row.userId := by
    subst hf
    rintro _ _ ⟨⟩
  cases request with
  | list requested =>
    exact isLocal_const (guarded (resolveUserId requested user) fun owner => (none, .listed owner)).1
  | create requested body => exact isLocal_const (handle env user world (fun _ => none) (.create requested body)).1
  | update id body =>
    unfold after
    simp only [handle]
    split
    · exact isLocal_id
    · exact isLocal_guarded (map_change_userId body) fun _ row _ => changeRow_fst id row body
  | delete id => exact isLocal_deleteSubscription id user.id
  | test id => exact isLocal_guarded (hnone rfl) fun _ _ _ => rfl
  | skill action params =>
    unfold after
    simp only [handle, handleSubscriptionTarget]
    split
    · exact isLocal_const (guarded (resolveParam env (params.get "user_id") user) fun owner => (none, .listed owner)).1
    split
    · exact isLocal_paramRow (hnone rfl) fun _ _ _ _ => rfl
    split
    · exact isLocal_const (guarded (resolveParam env (params.get "user_id") user) fun owner =>
        addRow env world owner (createPayload params)).1
    split
    · exact isLocal_paramRow (map_change_userId _) fun _ id row _ => changeRow_fst id row _
    split
    · exact isLocal_paramRow (f := fun row => some (row.softDelete user.id)) (fun row row' hmem => by
        rw [← Option.some.inj hmem]
        rfl) fun table id row hrow => deleteSubscription_fst hrow
    split
    · refine isLocal_paramRow (hnone rfl) fun _ _ row _ => ?_
      dsimp only
      split <;> rfl
    · exact isLocal_id

/-! ## Runs -/

/-- A request of a user, with what the database answers. -/
structure Label where
  user : User
  world : World
  request : Request

/-- **One step**. -/
def step (env : Env) (table : Table) (a : Label) : Option Table := some (after env a.user a.world table a.request)

/-- What is left of the requests without those of a user, one after the other. -/
def withoutUser (env : Env) (userId : ℤ) (as : List Label) (table : Table) : Table :=
  (as.filter (·.user ≠ ⟨userId, false⟩)).foldl (fun table a => after env a.user a.world table a.request) table

/-- New ids are new, and a user without privileges spares the subscriptions of the others. -/
def Sparing (userId : ℤ) (table : Table) (a : Label) : Prop :=
  table a.world.newId = none ∧ (a.user = ⟨userId, false⟩ → Spares userId table a.request)

/-- **The others see the same** as if the user had asked for nothing. -/
theorem view_run {userId v : ℤ} {as : List Label} {s t : Table} (h : Run (step env) (Sparing userId) s as t)
    (hv : v ≠ userId) : view v t = view v (withoutUser env userId as s) := by
  -- from any table in which the other sees the same
  suffices hfrom : ∀ s', view v s = view v s' → view v t = view v (withoutUser env userId as s') from hfrom s rfl
  induction h with
  | nil s => exact fun s' hview => hview
  | @cons s t u a as ha hstep _ ih =>
    intro s' hview
    obtain rfl := Option.some.inj hstep
    unfold withoutUser at ih ⊢
    by_cases huser : a.user = ⟨userId, false⟩
    · rw [List.filter_cons_of_neg (by simpa using huser)]
      refine ih s' ?_
      rw [huser, ← hview]
      exact view_write (proper_handle ha.1 (ha.2 huser)) hv
    · rw [List.filter_cons_of_pos (by simpa using huser), List.foldl_cons]
      exact ih _ ((isLocal_after a.user a.world a.request).view_congr hview)

/-- **Ownership of subscriptions**: a request of a user without privileges stays with the user's own just if it is
no deletion of another's through the endpoint; both interfaces decide the same just under the condition; and
along a run in which the user's requests spare the others, these see what they would see without them. -/
theorem ownership_iff {userId : ℤ} :
    (∀ world table request, table world.newId = none →
      (OwnOnly env userId world table request ↔ Spares userId table request)) ∧
    (∀ world table op, Operation.WellFormed env op →
      (((handle env ⟨userId, false⟩ world table op.viaRouter).Allowed ↔
        (handle env ⟨userId, false⟩ world table op.viaSkill).Allowed) ↔ SameDecision userId world table op)) ∧
    ∀ as s t, Run (step env) (Sparing userId) s as t →
      ∀ v, v ≠ userId → view v t = view v (withoutUser env userId as s) :=
  ⟨fun _ _ _ => ownOnly_iff, fun _ _ _ => sameDecision_iff, fun _ _ _ h _ => view_run h⟩

/-- Pydantic as if it took everything, and dropped the keys that it does not know. -/
def sampleEnv : Env where
  int _ := none
  create data := some data
  update data := some (data.filter fun entry => updateFields.contains entry.1)
  userId _ := none
  update_keys := by
    intro data fields h entry hentry
    rw [← Option.some.inj h] at hentry
    exact List.contains_iff_mem.mp (List.mem_filter.mp hentry).2

/-- A subscription of user 2. -/
def oneSubscription : Table := fun id =>
  if id = 1 then some { userId := 2, columns := [], isDeleted := false, deletedBy := none } else none

/-- A database that goes on with id 2. -/
def sampleWorld : World := ⟨2, true⟩

/-- The owner deletes it. -/
theorem owner_deletes : OwnOnly sampleEnv 2 sampleWorld oneSubscription (.delete 1) :=
  (ownership_iff.1 sampleWorld oneSubscription (.delete 1) rfl).mpr (by rintro _ ⟨⟩; rfl)

/-- **Another user deletes it.** -/
theorem other_deletes : ¬ ∀ world table request, table world.newId = none →
    OwnOnly sampleEnv 1 world table request := by
  intro hall
  have hspares := ownOnly_iff rfl |>.mp (hall sampleWorld oneSubscription (.delete 1) rfl)
  have howner : (2 : ℤ) = 1 := hspares { userId := 2, columns := [], isDeleted := false, deletedBy := none } rfl
  exact absurd howner (by decide)

end DBClaw.Subscriptions
