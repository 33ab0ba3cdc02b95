import DBClaw.Library.Runs
import DBClaw.Library.Text

/-! # The default alert template
A request that makes a template the default one reads all templates, takes the mark away from those that
have it, gives it to its own template and commits what has changed in its session. And
`ensure_default_alert_template`, with which many requests begin, adds the built-in templates whose names
are missing, marked as they are in the source. `atMostOne_of_run` says when no two templates are marked. -/

namespace DBClaw.Alerts.DefaultTemplates

open Runs

/-- **`AlertTemplate`**, as far as the mark depends on it. -/
structure AlertTemplate where
  name : Text
  isDefault : Bool
  deriving DecidableEq, Repr

/-- `DEFAULT_ALERT_TEMPLATES`. -/
def defaultAlertTemplates : List AlertTemplate := [
  { name := "标准生产告警".toList, isDefault := true },
  { name := "AI 智能判警".toList, isDefault := false },
  { name := "轻量开发告警".toList, isDefault := false }]

/-- The template has the mark. -/
def marked (rows : List AlertTemplate) (i : ℕ) : Bool := rows[i]?.any (·.isDefault)

/-! ## Commits -/

/-- What a session has changed: the name of a template, marks, and new templates. -/
structure Changes where
  rename : Option (ℕ × Text) := none
  isDefault : ℕ → Option Bool := fun _ => none
  inserted : List AlertTemplate := []

/-- A row with the changes written to it. -/
def Changes.row (changes : Changes) (i : ℕ) (row : AlertTemplate) : AlertTemplate where
  name := match changes.rename with
    | some (j, name) => if j = i then name else row.name
    | none => row.name
  isDefault := (changes.isDefault i).getD row.isDefault

/-- The rows with the changes. -/
def Changes.rows (changes : Changes) (rows : List AlertTemplate) : List AlertTemplate :=
  rows.mapIdx changes.row ++ changes.inserted

/-- **A commit**, which fails where a name is not unique any more. -/
def Changes.commit (changes : Changes) (rows : List AlertTemplate) : Option (List AlertTemplate) :=
  if ((changes.rows rows).map (·.name)).Nodup then some (changes.rows rows) else none

/-! ## Requests -/

/-- Through which of the two modules a request comes. -/
inductive Channel
  /-- The REST API. -/
  | rest
  /-- `manage_alert_settings`. -/
  | skill
  deriving DecidableEq, Repr

/-- A request; the skill's update may leave out a name or a mark, the others are given. -/
inductive Request
  | create (channel : Channel) (name : Text) (isDefault : Bool)
  | update (channel : Channel) (i : ℕ) (name : Option Text) (isDefault : Option Bool)
  | toggle (channel : Channel) (i : ℕ)
  | setDefault (i : ℕ)
  deriving DecidableEq, Repr

namespace Request

/-- The request begins with `ensure_default_alert_template`: a `create` of the API does so itself, and the
skill's requests for a template in `get_alert_template_by_id`. -/
def ensures : Request → Bool
  | .create channel _ _ => channel = .rest
  | .update channel _ _ _ | .toggle channel _ => channel = .skill
  | .setDefault _ => true

/-- The template that the request is for. -/
def target : Request → Option ℕ
  | .create _ _ _ => none
  | .update _ i _ _ | .toggle _ i | .setDefault i => some i

/-- The request makes its template the default one, and first reads all templates. -/
def marks (loaded : Option AlertTemplate) : Request → Bool
  | .create _ _ isDefault => isDefault
  | .update _ _ _ isDefault => isDefault.getD (loaded.any (·.isDefault))
  | .toggle _ _ => false
  | .setDefault _ => true

/-- The new name of the template that the request is for, if it differs from what was loaded. -/
def rename (loaded : Option AlertTemplate) : Request → Option (ℕ × Text)
  | .update _ i name _ => (name.filter fun name => loaded.any (·.name ≠ name)).map fun name => (i, name)
  | .create _ _ _ | .toggle _ _ | .setDefault _ => none

/-- The template that the request adds. -/
def inserted : Request → List AlertTemplate
  | .create _ name isDefault => [{ name := name, isDefault := isDefault }]
  | .update _ _ _ _ | .toggle _ _ | .setDefault _ => []

/-- What a request that marks its template has changed once it has read all templates: its own template is
held since it was loaded, the others are as they are now. -/
def markChanges (request : Request) (loaded : Option AlertTemplate) (rows : List AlertTemplate) : Changes where
  rename := request.rename loaded
  isDefault i :=
    if request.target = some i then if loaded.any (·.isDefault) then none else some true
    else if marked rows i then some false else none
  inserted := request.inserted

/-- What one that does not mark it has changed. -/
def plainChanges (request : Request) (loaded : Option AlertTemplate) : Changes where
  rename := request.rename loaded
  isDefault i :=
    match request with
    | .update _ j _ _ => if i = j ∧ loaded.any (·.isDefault) then some false else none
    | _ => none
  inserted := request.inserted

end Request

/-! ## Steps -/

/-- Where a request stands. -/
inductive Stage
  | done
  /-- Built-in templates are missing. -/
  | seeding (request : Request) (missing : List AlertTemplate)
  | ready (request : Request)
  | loaded (request : Request) (loaded : Option AlertTemplate)
  /-- All is changed that is to be. -/
  | dirty (changes : Changes)

/-- The templates, each at its id, and the requests. -/
structure State where
  rows : List AlertTemplate := []
  stages : ℕ → Stage := fun _ => .done

/-- The request goes on. -/
def State.goOn (s : State) (k : ℕ) (stage : Stage) : State :=
  { s with stages := Function.update s.stages k stage }

/-- The built-in templates whose names are missing. -/
def missing (rows : List AlertTemplate) : List AlertTemplate :=
  defaultAlertTemplates.filter fun item => item.name ∉ rows.map (·.name)

/-- What happens. -/
inductive Label
  | start (k : ℕ) (request : Request)
  /-- `ensure_default_alert_template` commits. -/
  | seed (k : ℕ)
  /-- The template of the request is selected. -/
  | load (k : ℕ)
  /-- All templates are. -/
  | readAll (k : ℕ)
  | commit (k : ℕ)
  /-- The request fails or is cancelled. -/
  | fail (k : ℕ)
  deriving DecidableEq, Repr

/-- A request with its template goes on to read all templates, or has changed what it is to. -/
def Request.withTemplate (request : Request) (loaded : Option AlertTemplate) : Stage :=
  if request.marks loaded then .loaded request loaded else .dirty (request.plainChanges loaded)

/-- **One step.** -/
def step (s : State) : Label → Option State
  | .start k request =>
    match s.stages k with
    | .done =>
      if request.ensures && !(missing s.rows).isEmpty then some (s.goOn k (.seeding request (missing s.rows)))
      else some (s.goOn k (.ready request))
    | _ => none
  | .seed k =>
    match s.stages k with
    | .seeding request missing =>
      match ({ inserted := missing } : Changes).commit s.rows with
      | some rows => some { s.goOn k (.ready request) with rows := rows }
      | none => some (s.goOn k .done)
    | _ => none
  | .load k =>
    match s.stages k with
    | .ready request =>
      match request.target with
      | none => some (s.goOn k (request.withTemplate none))
      | some i =>
        match s.rows[i]? with
        | some template => some (s.goOn k (request.withTemplate (some template)))
        | none => some (s.goOn k .done)
    | _ => none
  | .readAll k =>
    match s.stages k with
    | .loaded request loaded => some (s.goOn k (.dirty (request.markChanges loaded s.rows)))
    | _ => none
  | .commit k =>
    match s.stages k with
    | .dirty changes =>
      match changes.commit s.rows with
      | some rows => some { s.goOn k .done with rows := rows }
      | none => some (s.goOn k .done)
    | _ => none
  | .fail k =>
    match s.stages k with
    | .done => none
    | _ => some (s.goOn k .done)

/-! ## The property and the condition -/

/-- **At most one template is marked.** -/
def AtMostOne (rows : List AlertTemplate) : Prop :=
  ∀ i j, marked rows i = true → marked rows j = true → i = j

/-- The changes mark a template. -/
def Changes.Mark (changes : Changes) : Prop :=
  (∃ i, changes.isDefault i = some true) ∨ ∃ i, marked changes.inserted i = true

/-- **The mark is exclusive**: if a commit marks a template and does not fail, its session has changed the
mark of every template that has one at that moment. -/
def Changes.Exclusive (changes : Changes) (rows : List AlertTemplate) : Prop :=
  (changes.commit rows).isSome → changes.Mark →
    ∀ i, marked rows i = true → (changes.isDefault i).isSome

/-- The condition on a step. -/
def Exclusive (s : State) : Label → Prop
  | .seed k =>
    match s.stages k with
    | .seeding _ missing => ({ inserted := missing } : Changes).Exclusive s.rows
    | _ => True
  | .commit k =>
    match s.stages k with
    | .dirty changes => changes.Exclusive s.rows
    | _ => True
  | _ => True

/-! ## One commit -/

/-- The changes mark one template at most, which is there or is added. -/
structure Changes.Single (changes : Changes) (rows : List AlertTemplate) : Prop where
  unique : ∀ i j, changes.isDefault i = some true → changes.isDefault j = some true → i = j
  inserted : AtMostOne changes.inserted
  either : ∀ i j, changes.isDefault i = some true → marked changes.inserted j = false
  present : ∀ i, changes.isDefault i = some true → i < rows.length

variable {changes : Changes} {rows rows' : List AlertTemplate} {i : ℕ}

theorem marked_of_lt (h : marked rows i = true) : i < rows.length := by
  by_contra hge
  rw [marked, List.getElem?_eq_none (not_lt.mp hge)] at h
  cases h

/-- The mark of a template that is there, after a commit. -/
theorem Changes.marked_rows_of_lt (hi : i < rows.length) :
    marked (changes.rows rows) i = (changes.isDefault i).getD (marked rows i) := by
  rw [marked, Changes.rows, List.getElem?_append_left (by rwa [List.length_mapIdx]), List.getElem?_mapIdx,
    marked, List.getElem?_eq_getElem hi]
  rfl

/-- The mark of a template that is added. -/
theorem Changes.marked_rows_of_ge (hi : rows.length ≤ i) :
    marked (changes.rows rows) i = marked changes.inserted (i - rows.length) := by
  rw [marked, Changes.rows, List.getElem?_append_right (by rwa [List.length_mapIdx]), List.length_mapIdx, marked]

/-- What is marked after a commit had a mark that was not changed, or has been given one. -/
theorem Changes.of_marked_rows (h : marked (changes.rows rows) i = true) :
    (changes.isDefault i = none ∧ marked rows i = true) ∨ changes.isDefault i = some true ∨
      rows.length ≤ i ∧ marked changes.inserted (i - rows.length) = true := by
  by_cases hi : i < rows.length
  · rw [Changes.marked_rows_of_lt hi] at h
    cases hchange : changes.isDefault i with
    | none =>
      rw [hchange] at h
      exact .inl ⟨rfl, h⟩
    | some b =>
      rw [hchange] at h
      exact .inr (.inl (congrArg some h))
  · rw [Changes.marked_rows_of_ge (not_lt.mp hi)] at h
    exact .inr (.inr ⟨not_lt.mp hi, h⟩)

/-- **A commit leaves at most one template marked just if its mark is exclusive.** -/
theorem Changes.Single.atMostOne_iff (hsingle : changes.Single rows) (h : AtMostOne rows)
    (hcommit : changes.commit rows = some rows') : AtMostOne rows' ↔ changes.Exclusive rows := by
  have hrows : changes.rows rows = rows' := by
    rw [Changes.commit] at hcommit
    split at hcommit
    · exact Option.some.inj hcommit
    · cases hcommit
  subst hrows
  constructor
  · intro hone _ hmark i hi
    rw [Option.isSome_iff_ne_none]
    intro hnone
    -- the old mark and the new one
    have hlt := marked_of_lt hi
    have hold : marked (changes.rows rows) i = true := by
      rw [Changes.marked_rows_of_lt hlt, hnone]
      exact hi
    obtain ⟨j, hj⟩ | ⟨j, hj⟩ := hmark
    · have hnew : marked (changes.rows rows) j = true := by
        rw [Changes.marked_rows_of_lt (hsingle.present j hj), hj]
        rfl
      rw [hone i j hold hnew, hj] at hnone
      cases hnone
    · have hnew : marked (changes.rows rows) (rows.length + j) = true := by
        rw [Changes.marked_rows_of_ge (Nat.le_add_right _ _), Nat.add_sub_cancel_left]
        exact hj
      have := hone i _ hold hnew
      omega
  · intro hexclusive i j hi hj
    have hchanged : changes.Mark → ∀ i, changes.isDefault i = none → ¬ marked rows i = true := by
      intro hmark i hnone hmarked
      have hsome := hexclusive (by rw [hcommit]; rfl) hmark i hmarked
      rw [hnone] at hsome
      cases hsome
    obtain ⟨hi, hi'⟩ | hi | ⟨hi, hi'⟩ := Changes.of_marked_rows hi <;>
      obtain ⟨hj, hj'⟩ | hj | ⟨hj, hj'⟩ := Changes.of_marked_rows hj
    · exact h i j hi' hj'
    · exact absurd hi' (hchanged (.inl ⟨j, hj⟩) i hi)
    · exact absurd hi' (hchanged (.inr ⟨_, hj'⟩) i hi)
    · exact absurd hj' (hchanged (.inl ⟨i, hi⟩) j hj)
    · exact hsingle.unique i j hi hj
    · rw [hsingle.either i _ hi] at hj'
      cases hj'
    · exact absurd hj' (hchanged (.inr ⟨_, hi'⟩) j hj)
    · rw [hsingle.either j _ hj] at hi'
      cases hi'
    · have := hsingle.inserted _ _ hi' hj'
      omega

/-! ## Runs -/

theorem marked_singleton {template : AlertTemplate} (h : marked [template] i = true) :
    i = 0 ∧ template.isDefault = true := by
  have hi := marked_of_lt h
  rw [List.length_singleton, Nat.lt_one_iff] at hi
  subst hi
  exact ⟨rfl, h⟩

theorem atMostOne_singleton (template : AlertTemplate) : AtMostOne [template] := by
  intro i j hi hj
  rw [(marked_singleton hi).1, (marked_singleton hj).1]

/-- What a request adds is one template at most. -/
theorem atMostOne_inserted (request : Request) : AtMostOne request.inserted := by
  cases request with
  | create channel name isDefault => exact atMostOne_singleton _
  | update channel i name isDefault => exact fun i _ hi => absurd (marked_of_lt hi) (Nat.not_lt_zero i)
  | toggle channel i => exact fun i _ hi => absurd (marked_of_lt hi) (Nat.not_lt_zero i)
  | setDefault i => exact fun i _ hi => absurd (marked_of_lt hi) (Nat.not_lt_zero i)

/-- A request that is for a template adds none. -/
theorem inserted_of_target {request : Request} (h : request.target = some i) : request.inserted = [] := by
  cases request with
  | create channel name isDefault => cases h
  | update channel i name isDefault => rfl
  | toggle channel i => rfl
  | setDefault i => rfl

/-- **A request that marks its template** marks just that one. -/
theorem single_markChanges {request : Request} {loaded : Option AlertTemplate}
    (hpresent : ∀ i, request.target = some i → i < rows.length) :
    (request.markChanges loaded rows).Single rows := by
  -- only the template of the request is given a mark
  have htarget : ∀ i, (request.markChanges loaded rows).isDefault i = some true →
      request.target = some i := by
    intro i hi
    by_contra hne
    rw [Request.markChanges] at hi
    dsimp only at hi
    rw [if_neg hne] at hi
    split at hi <;> cases hi
  refine ⟨fun i j hi hj => ?_, atMostOne_inserted request, fun i j hi => ?_, fun i hi => ?_⟩
  · exact Option.some.inj ((htarget i hi).symm.trans (htarget j hj))
  · change marked request.inserted j = false
    rw [inserted_of_target (htarget i hi)]
    rfl
  · exact hpresent i (htarget i hi)

/-- One that does not mark it marks at most what it adds. -/
theorem single_plainChanges (request : Request) (loaded : Option AlertTemplate) :
    (request.plainChanges loaded).Single rows := by
  have hnone : ∀ i, (request.plainChanges loaded).isDefault i ≠ some true := by
    intro i hi
    rw [Request.plainChanges] at hi
    dsimp only at hi
    split at hi
    · split at hi <;> cases hi
    · cases hi
  exact ⟨fun i _ hi => absurd hi (hnone i), atMostOne_inserted request, fun i _ hi => absurd hi (hnone i),
    fun i hi => absurd hi (hnone i)⟩

/-- Templates no two of which are marked. -/
theorem atMostOne_of_pairwise (h : rows.Pairwise fun a b => a.isDefault = true → b.isDefault = false) :
    AtMostOne rows := by
  have hlt : ∀ i j, i < j → marked rows i = true → marked rows j = false := by
    intro i j hij hi
    rw [Bool.eq_false_iff]
    intro hj
    have hi' := marked_of_lt hi
    have hj' := marked_of_lt hj
    rw [marked, List.getElem?_eq_getElem hi'] at hi
    rw [marked, List.getElem?_eq_getElem hj'] at hj
    have hfalse := List.pairwise_iff_getElem.mp h i j hi' hj' hij hi
    exact absurd hj (Bool.eq_false_iff.mp hfalse)
  intro i j hi hj
  obtain hij | hij | hij := Nat.lt_trichotomy i j
  · rw [hlt i j hij hi] at hj
    cases hj
  · exact hij
  · rw [hlt j i hij hj] at hi
    cases hi

/-- The built-in templates that are missing have one mark at most. -/
theorem single_seeds (rows' : List AlertTemplate) : ({ inserted := missing rows' } : Changes).Single rows := by
  have hnone : ∀ i, ({ inserted := missing rows' } : Changes).isDefault i ≠ some true := by
    intro i hi
    cases hi
  refine ⟨fun i _ hi => absurd hi (hnone i), ?_, fun i _ hi => absurd hi (hnone i),
    fun i hi => absurd hi (hnone i)⟩
  have hall : defaultAlertTemplates.Pairwise fun a b => a.isDefault = true → b.isDefault = false := by
    decide
  exact atMostOne_of_pairwise (hall.sublist List.filter_sublist)

/-- What a request has changed, or will commit as it seeds, marks one template at most. -/
def Stage.Single (rows : List AlertTemplate) : Stage → Prop
  | .seeding _ missing => ({ inserted := missing } : Changes).Single rows
  | .loaded request _ => ∀ i, request.target = some i → i < rows.length
  | .dirty changes => changes.Single rows
  | .done | .ready _ => True

/-- **The invariant**: one mark at most, and sessions that give one at most. -/
structure State.Sound (s : State) : Prop where
  one : AtMostOne s.rows
  stages : ∀ k, (s.stages k).Single s.rows

/-- A commit keeps all templates. -/
theorem Changes.length_le (hcommit : changes.commit rows = some rows') : rows.length ≤ rows'.length := by
  rw [Changes.commit] at hcommit
  split at hcommit
  · rw [← Option.some.inj hcommit, Changes.rows, List.length_append, List.length_mapIdx]
    exact Nat.le_add_right _ _
  · cases hcommit

theorem Changes.Single.mono (h : changes.Single rows) (hle : rows.length ≤ rows'.length) :
    changes.Single rows' :=
  ⟨h.unique, h.inserted, h.either, fun i hi => (h.present i hi).trans_le hle⟩

theorem Stage.Single.mono {stage : Stage} (h : stage.Single rows) (hle : rows.length ≤ rows'.length) :
    stage.Single rows' := by
  cases stage with
  | done => trivial
  | ready request => trivial
  | seeding request missing => exact Changes.Single.mono h hle
  | loaded request loaded => exact fun i hi => (h i hi).trans_le hle
  | dirty changes => exact Changes.Single.mono h hle

variable {s t : State} {k : ℕ}

/-- A request goes on. -/
theorem State.Sound.goOn {stage : Stage} (h : s.Sound) (hstage : stage.Single s.rows) :
    (s.goOn k stage).Sound := by
  refine ⟨h.one, fun l => ?_⟩
  change (Function.update s.stages k stage l).Single s.rows
  by_cases hl : l = k
  · subst hl
    rwa [Function.update_self]
  · rw [Function.update_of_ne hl]
    exact h.stages l

/-- **A commit whose mark is exclusive** keeps the invariant. -/
theorem State.Sound.commit {stage : Stage} (h : s.Sound) (hsingle : changes.Single s.rows)
    (hexclusive : changes.Exclusive s.rows) (hcommit : changes.commit s.rows = some rows')
    (hstage : stage.Single rows') : State.Sound { s.goOn k stage with rows := rows' } := by
  refine ⟨(hsingle.atMostOne_iff h.one hcommit).mpr hexclusive, fun l => ?_⟩
  change (Function.update s.stages k stage l).Single rows'
  by_cases hl : l = k
  · subst hl
    rwa [Function.update_self]
  · rw [Function.update_of_ne hl]
    exact (h.stages l).mono (Changes.length_le hcommit)

theorem single_withTemplate {request : Request} {loaded : Option AlertTemplate}
    (hpresent : ∀ i, request.target = some i → i < rows.length) :
    (request.withTemplate loaded).Single rows := by
  rw [Request.withTemplate]
  split
  · exact hpresent
  · exact single_plainChanges request loaded

/-- **One step.** -/
theorem State.Sound.step {label : Label} (h : s.Sound) (hexclusive : Exclusive s label)
    (hstep : step s label = some t) : t.Sound := by
  cases label with
  | start k request =>
    rw [DefaultTemplates.step] at hstep
    split at hstep
    · split at hstep
      · rw [← Option.some.inj hstep]
        exact h.goOn (single_seeds s.rows)
      · rw [← Option.some.inj hstep]
        exact h.goOn trivial
    · cases hstep
  | seed k =>
    rw [DefaultTemplates.step] at hstep
    rw [Exclusive] at hexclusive
    split at hstep
    · rename_i request missing hk
      rw [hk] at hexclusive
      have hsingle := h.stages k
      rw [hk] at hsingle
      split at hstep
      · rename_i rows hcommit
        rw [← Option.some.inj hstep]
        exact h.commit hsingle hexclusive hcommit trivial
      · rw [← Option.some.inj hstep]
        exact h.goOn trivial
    · cases hstep
  | load k =>
    rw [DefaultTemplates.step] at hstep
    split at hstep
    · rename_i request hk
      split at hstep
      · rename_i hnone
        rw [← Option.some.inj hstep]
        refine h.goOn (single_withTemplate fun i hi => ?_)
        rw [hnone] at hi
        cases hi
      · rename_i i hi
        split at hstep
        · rename_i template htemplate
          rw [← Option.some.inj hstep]
          refine h.goOn (single_withTemplate fun j hj => ?_)
          cases hi.symm.trans hj
          exact (List.getElem?_eq_some_iff.mp htemplate).1
        · rw [← Option.some.inj hstep]
          exact h.goOn trivial
    · cases hstep
  | readAll k =>
    rw [DefaultTemplates.step] at hstep
    split at hstep
    · rename_i request loaded hk
      have hpresent := h.stages k
      rw [hk] at hpresent
      rw [← Option.some.inj hstep]
      exact h.goOn (single_markChanges hpresent)
    · cases hstep
  | commit k =>
    rw [DefaultTemplates.step] at hstep
    rw [Exclusive] at hexclusive
    split at hstep
    · rename_i changes hk
      rw [hk] at hexclusive
      have hsingle := h.stages k
      rw [hk] at hsingle
      split at hstep
      · rename_i rows hcommit
        rw [← Option.some.inj hstep]
        exact h.commit hsingle hexclusive hcommit trivial
      · rw [← Option.some.inj hstep]
        exact h.goOn trivial
    · cases hstep
  | fail k =>
    rw [DefaultTemplates.step] at hstep
    split at hstep
    · cases hstep
    · rw [← Option.some.inj hstep]
      exact h.goOn trivial

/-- **At most one default template, where every mark is exclusive**: in every state of a run whose commits
meet the condition, if it was so at the start and no request was in progress. -/
theorem atMostOne_of_run (rows : List AlertTemplate) (hrows : AtMostOne rows) (labels : List Label) (t : State)
    (h : Run step Exclusive { rows := rows } labels t) : AtMostOne t.rows := by
  have hsound : t.Sound := by
    refine h.invariant (I := State.Sound) ?_ ⟨hrows, fun k => trivial⟩
    intro s label u hs hexclusive hstep
    exact hs.step hexclusive hstep
  exact hsound.one

/-- The second template becomes the default one. -/
theorem atMostOne_setDefault : ∃ t,
    Run step Always { rows := defaultAlertTemplates }
        [.start 0 (.setDefault 1), .load 0, .readAll 0, .commit 0] t ∧
      AtMostOne t.rows ∧ marked t.rows 1 = true := by
  have hone : AtMostOne defaultAlertTemplates := atMostOne_of_pairwise (by decide)
  refine ⟨_, .cons trivial rfl (.cons trivial rfl (.cons trivial rfl (.cons trivial rfl (.nil _)))), ?_, rfl⟩
  refine atMostOne_of_run defaultAlertTemplates hone
    [.start 0 (.setDefault 1), .load 0, .readAll 0, .commit 0] _ ?_
  refine .cons trivial rfl (.cons trivial rfl (.cons trivial rfl (.cons ?_ rfl (.nil _))))
  intro _ _ i hi
  -- the first template has been cleared
  cases hone i 0 hi rfl
  rfl

/-! ## A built-in template under another name -/

/-- A custom template is added after the default one has been renamed. -/
def renameAndCreate : List Label := [
  .start 0 (.update .rest 0 (some "生产".toList) (some true)), .load 0, .readAll 0, .commit 0,
  .start 1 (.create .rest "测试".toList false), .seed 1, .load 1, .commit 1]

/-- **A renamed default template comes back**: the built-in default template is renamed, and the next
request adds it again under its old name, so that there are two. -/
theorem two_defaults :
    ¬ ∀ (rows : List AlertTemplate) (labels : List Label) (t : State), AtMostOne rows →
      Run step Always { rows := rows } labels t → (∀ k, t.stages k = .done) → AtMostOne t.rows := by
  intro hclaim
  have hone := hclaim defaultAlertTemplates renameAndCreate _ (atMostOne_of_pairwise (by decide))
    (.cons trivial rfl (.cons trivial rfl (.cons trivial rfl (.cons trivial rfl (.cons trivial rfl
      (.cons trivial rfl (.cons trivial rfl (.cons trivial rfl (.nil _)))))))))
    (by rintro (_ | _ | k) <;> rfl)
  cases hone 0 3 rfl rfl

end DBClaw.Alerts.DefaultTemplates
