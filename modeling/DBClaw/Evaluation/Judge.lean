import DBClaw.Chat.ToolResults
import DBClaw.Library.JsonReader
import Mathlib

/-! # The judge of an evaluation
`run_judge` reads two scores from what a model answers, and clamps them by comparisons. A comparison with NaN is false,
so that NaN is clamped to the maximum, and so is infinity; and an answer that is no dictionary, or a score that is no
number, raises. `judgesRobustly_iff` says which answers do no harm. -/

namespace DBClaw.Evaluation

open JsonReader

/-! ## Python -/

/-- What Python does with values: `float` of a text, `str`, and how deep `json.loads` reads. -/
structure Python where
  unicode : Unicode
  floats : Floats
  depth : ℕ
  float : Text → Option PyFloat
  str : Json → Text

/-- What Python raises. -/
inductive Raised
  | attributeError | typeError | valueError | overflowError
  deriving DecidableEq, Repr

/-- The integer from which on `float` overflows: halfway from the largest float to the next power of two. -/
def floatLimit : ℕ := 2 ^ 970 * (2 ^ 54 - 1)

theorem floatLimit_pos : 0 < floatLimit := by
  unfold floatLimit
  generalize 970 = n
  exact Nat.mul_pos (Nat.two_pow_pos n) (by decide)

/-- `min(x, y)`. -/
def pyMin (x y : PyFloat) : PyFloat := if y.lt x then y else x

/-- `max(x, y)`. -/
def pyMax (x y : PyFloat) : PyFloat := if x.lt y then y else x

variable (python : Python)

/-- `float(value)`. -/
def toFloat : Json → Except Raised PyFloat
  | .bool b => .ok (.fin (if b then 1 else 0))
  | .int n => if n.natAbs < floatLimit then .ok (.fin n) else .error .overflowError
  | .float x => .ok x
  | .str s => match python.float s with
    | some x => .ok x
    | none => .error .valueError
  | .null | .arr _ | .obj _ => .error .typeError

/-! ## The judge -/

/-- `WEIGHT_ROOT_CAUSE`. -/
def weightRootCause : ℚ := 30

/-- `WEIGHT_ACTION`. -/
def weightAction : ℚ := 15

/-- `_extract_json`. -/
def extractJson (text : Text) : Option Json :=
  let text := Text.strip text
  match loads python.floats python.depth text with
  | .ok parsed => some parsed
  | .error _ =>
    let block := (text.dropWhile (· ≠ '\x7b')).rdropWhile (· ≠ '\x7d')
    if block = [] then none
    else match loads python.floats python.depth block with
      | .ok parsed => some parsed
      | .error _ => none

/-- The keywords of the required actions of a case. -/
abbrev RequiredActions := List (Option (List Text))

/-- **`score_action_keywords`**: how many required actions are hit, and how many there are. -/
def scoreActionKeywords (requiredActions : RequiredActions) (conclusion : Text) : ℕ × ℕ :=
  let text := Text.lower python.unicode conclusion
  let hits := requiredActions.countP fun entry =>
    let keywords := entry.getD []
    keywords ≠ [] ∧ keywords.all fun keyword => Text.lower python.unicode keyword <:+: text
  (hits, requiredActions.length)

/-- `JudgeResult`. -/
structure JudgeResult where
  rootCauseScore : PyFloat
  actionScore : PyFloat
  rootCauseFeedback : Text := []
  actionFeedback : Text := []
  rawResponse : Text := []
  error : Option Text := none
  deriving DecidableEq, Repr

/-- The answer of the model; the call fails with the text of an exception. -/
abbrev Answer := Except Text (Option Text)

/-- `max(0.0, min(weight, score))`. -/
def clamp (weight : ℚ) (score : PyFloat) : PyFloat := pyMax (.fin 0) (pyMin (.fin weight) score)

/-- The cap by the keywords that are hit. -/
def keywordGate (requiredActions : RequiredActions) (conclusion : Text) (score : PyFloat) : PyFloat :=
  let (hits, total) := scoreActionKeywords python requiredActions conclusion
  if 0 < total ∧ hits < total then pyMin score (.fin (weightAction * (hits / total))) else score

/-- The result when the model was asked in vain. -/
def JudgeResult.failed (rawResponse error : Text) : JudgeResult where
  rootCauseScore := .fin 0
  actionScore := .fin 0
  rawResponse := rawResponse
  error := some error

/-- **`run_judge`.** -/
def runJudge (requiredActions : RequiredActions) (conclusion : Text) (answer : Answer) : Except Raised JudgeResult :=
  if Text.strip conclusion = [] then
    .ok {
      rootCauseScore := .fin 0
      actionScore := .fin 0
      rootCauseFeedback := "结论为空，无法评估根因。".toList
      actionFeedback := "结论为空，无可执行建议。".toList
      error := some "empty_conclusion".toList }
  else match answer with
    | .error exc => .ok (.failed [] ("judge_call_failed: ".toList ++ exc))
    | .ok text =>
      let text := text.getD []
      let parsed := (extractJson python text).getD .null
      if parsed.truthy = false then .ok (.failed text "judge_response_unparseable".toList)
      else match parsed with
        | .obj fields => do
          let rc ← toFloat python (Dict.getD fields "root_cause_score" (.int 0))
          let ac ← toFloat python (Dict.getD fields "action_score" (.int 0))
          .ok {
            rootCauseScore := clamp weightRootCause rc
            actionScore := keywordGate python requiredActions conclusion (clamp weightAction ac)
            rootCauseFeedback := (python.str (Dict.getD fields "root_cause_feedback" (.str []))).take 500
            actionFeedback := (python.str (Dict.getD fields "action_feedback" (.str []))).take 500
            rawResponse := text.take 2000 }
        | _ => .error .attributeError

/-! ## Robustness -/

/-- The fraction of the required actions that are hit; all of none. -/
def hitFraction (requiredActions : RequiredActions) (conclusion : Text) : ℚ :=
  let (hits, total) := scoreActionKeywords python requiredActions conclusion
  if total = 0 then 1 else hits / total

/-- The number that a float is, if it is finite. -/
def finiteOf : PyFloat → Option ℚ
  | .fin q => some q
  | .nan | .negInf | .posInf => none

/-- The finite number that a value of a field is read as. -/
def finiteScore (value : Option Json) : Option ℚ :=
  match value.map (toFloat python) with
  | some (.ok x) => finiteOf x
  | _ => none

/-- The finite number that an answer gives for a score, if it gives one. -/
def givenScore (answer : Answer) (field : String) : Option ℚ :=
  match answer with
  | .error _ => none
  | .ok text =>
    match extractJson python (text.getD []) with
    | some (.obj fields) => finiteScore python (fields.lookup field)
    | _ => none

/-- **The judge is robust**: it returns a result; both scores are finite and in their ranges, the action score at most
the fraction of the keywords that are hit; and a score that is not given as a finite number is zero. -/
def JudgesRobustly (requiredActions : RequiredActions) (conclusion : Text) (answer : Answer) : Prop :=
  ∃ result, runJudge python requiredActions conclusion answer = .ok result ∧ ∃ rc ac : ℚ,
    result.rootCauseScore = .fin rc ∧ result.actionScore = .fin ac ∧ 0 ≤ rc ∧ rc ≤ weightRootCause ∧ 0 ≤ ac ∧
      ac ≤ weightAction * hitFraction python requiredActions conclusion ∧
      (givenScore python answer "root_cause_score" = none → rc = 0) ∧
      (givenScore python answer "action_score" = none → ac = 0)

/-- A score that is clamped well: there is none, or it is read as a finite number or minus infinity. -/
def IsClamped (score : Option Json) : Prop :=
  ∀ value ∈ score, ∃ x, toFloat python value = .ok x ∧ x ≠ .nan ∧ x ≠ .posInf

/-- A score that is read as a float at all. -/
def IsRead (score : Option Json) : Prop := ∀ value ∈ score, ∃ x, toFloat python value = .ok x

/-- **The answer does no harm**: it is not asked for or not there, or nothing that counts is read from it, or a
dictionary whose scores are absent or read as finite numbers or minus infinity; an action score may be NaN or infinity
too where no required action is hit. -/
def AnswerFits (requiredActions : RequiredActions) (conclusion : Text) (answer : Answer) : Prop :=
  Text.strip conclusion = [] ∨
    ∀ text, answer = .ok text → ∀ parsed ∈ extractJson python (text.getD []), parsed.truthy = true →
      ∃ fields, parsed = .obj fields ∧ IsClamped python (fields.lookup "root_cause_score") ∧
        (IsClamped python (fields.lookup "action_score") ∨
          (IsRead python (fields.lookup "action_score") ∧ hitFraction python requiredActions conclusion = 0))

/-! ## Clamping -/

theorem pyMin_fin (p q : ℚ) : pyMin (.fin p) (.fin q) = .fin (min p q) := by
  change (if decide (q < p) = true then PyFloat.fin q else .fin p) = _
  split
  · rename_i hlt
    rw [min_eq_right (of_decide_eq_true hlt).le]
  · rename_i hge
    rw [min_eq_left (not_lt.mp (of_decide_eq_false (Bool.not_eq_true _ ▸ hge)))]

theorem pyMax_fin (p q : ℚ) : pyMax (.fin p) (.fin q) = .fin (max p q) := by
  change (if decide (p < q) = true then PyFloat.fin q else .fin p) = _
  split
  · rename_i hlt
    rw [max_eq_right (of_decide_eq_true hlt).le]
  · rename_i hge
    rw [max_eq_left (not_lt.mp (of_decide_eq_false (Bool.not_eq_true _ ▸ hge)))]

/-- What a score is clamped to. -/
def clamped (weight : ℚ) : PyFloat → ℚ
  | .nan | .posInf => weight
  | .negInf => 0
  | .fin q => max 0 (min weight q)

/-- **Clamping**: NaN and infinity become the maximum. -/
theorem clamp_eq {weight : ℚ} (hweight : 0 ≤ weight) (x : PyFloat) : clamp weight x = .fin (clamped weight x) := by
  have htop : pyMax (.fin 0) (.fin weight) = .fin weight := by rw [pyMax_fin, max_eq_right hweight]
  cases x with
  | nan => exact htop
  | posInf => exact htop
  | negInf => rfl
  | fin q => rw [clamp, pyMin_fin, pyMax_fin]; rfl

theorem clamped_mem {weight : ℚ} (hweight : 0 ≤ weight) (x : PyFloat) :
    0 ≤ clamped weight x ∧ clamped weight x ≤ weight := by
  cases x with
  | nan => exact ⟨hweight, le_refl _⟩
  | posInf => exact ⟨hweight, le_refl _⟩
  | negInf => exact ⟨le_refl _, hweight⟩
  | fin q => exact ⟨le_max_left _ _, max_le hweight (min_le_left _ _)⟩

/-! ## Keywords -/

variable {python} {requiredActions : RequiredActions} {conclusion : Text}

theorem hits_le_total (requiredActions : RequiredActions) (conclusion : Text) :
    (scoreActionKeywords python requiredActions conclusion).1 ≤
      (scoreActionKeywords python requiredActions conclusion).2 := List.countP_le_length

theorem hitFraction_mem (requiredActions : RequiredActions) (conclusion : Text) :
    0 ≤ hitFraction python requiredActions conclusion ∧ hitFraction python requiredActions conclusion ≤ 1 := by
  have hle := @hits_le_total python requiredActions conclusion
  unfold hitFraction
  generalize scoreActionKeywords python requiredActions conclusion = score at hle
  obtain ⟨hits, total⟩ := score
  dsimp only at hle ⊢
  split
  · exact ⟨zero_le_one, le_refl 1⟩
  · have hcast : (hits : ℚ) ≤ total := by exact_mod_cast hle
    exact ⟨by positivity, div_le_one_of_le₀ hcast (by positivity)⟩

/-- **The cap**: at most the fraction of the keywords that are hit. -/
theorem keywordGate_fin (requiredActions : RequiredActions) (conclusion : Text) {q : ℚ} (hq : q ≤ weightAction) :
    keywordGate python requiredActions conclusion (.fin q) =
      .fin (min q (weightAction * hitFraction python requiredActions conclusion)) := by
  have hle := @hits_le_total python requiredActions conclusion
  unfold keywordGate hitFraction
  generalize scoreActionKeywords python requiredActions conclusion = score at hle
  obtain ⟨hits, total⟩ := score
  dsimp only at hle ⊢
  by_cases htotal : total = 0
  · rw [if_neg (by omega), if_pos htotal, mul_one, min_eq_left hq]
  · rw [if_neg htotal]
    by_cases hall : hits = total
    · have hone : (hits : ℚ) / total = 1 := by rw [hall, div_self (by exact_mod_cast htotal)]
      rw [if_neg (by omega), hone, mul_one, min_eq_left hq]
    · rw [if_pos (by omega), pyMin_fin]

/-! ## Scores -/

/-- A field that is not there is read as zero. -/
theorem toFloat_getD (fields : Dict) (field : String) : toFloat python (Dict.getD fields field (.int 0)) =
    ((fields.lookup field).map (toFloat python)).getD (.ok (.fin 0)) := by
  unfold Dict.getD
  cases fields.lookup field with
  | none =>
    have hpos : (0 : ℤ).natAbs < floatLimit := floatLimit_pos
    rw [Option.getD_none, Option.map_none, Option.getD_none, toFloat, if_pos hpos]
    rfl
  | some value => rfl

/-- **When a score is read well**: a float is read, and one that is not finite becomes zero. -/
theorem score_iff {weight cap : ℚ} (hweight : 0 < weight) (hcap : 0 ≤ cap) (value : Option Json) :
    (∃ x, (value.map (toFloat python)).getD (.ok (.fin 0)) = .ok x ∧
        (finiteScore python value = none → min (clamped weight x) cap = 0)) ↔
      IsClamped python value ∨ (IsRead python value ∧ cap = 0) := by
  cases value with
  | none =>
    have hnone : IsClamped python none := fun _ h => by cases h
    refine ⟨fun _ => .inl hnone, fun _ => ⟨.fin 0, rfl, fun _ => ?_⟩⟩
    rw [clamped, min_eq_right hweight.le, max_self, min_eq_left hcap]
  | some value =>
    cases hread : toFloat python value with
    | error raised =>
      constructor
      · rintro ⟨x, hx, -⟩
        rw [Option.map_some, Option.getD_some, hread] at hx
        cases hx
      · rintro (h | ⟨h, -⟩)
        · obtain ⟨x, hx, -⟩ := h value rfl
          rw [hread] at hx
          cases hx
        · obtain ⟨x, hx⟩ := h value rfl
          rw [hread] at hx
          cases hx
    | ok x =>
      have hisRead : IsRead python (some value) := by
        rintro other ⟨rfl⟩
        exact ⟨x, hread⟩
      have hisClamped : IsClamped python (some value) ↔ x ≠ .nan ∧ x ≠ .posInf := by
        constructor
        · intro h
          obtain ⟨y, hy, hne⟩ := h value rfl
          rw [hread] at hy
          rwa [Except.ok.inj hy]
        · rintro h other ⟨rfl⟩
          exact ⟨x, hread, h⟩
      have hmap : ((some value).map (toFloat python)).getD (.ok (.fin 0)) = .ok x := by
        rw [Option.map_some, Option.getD_some, hread]
      have hfinite : finiteScore python (some value) = finiteOf x := by
        rw [finiteScore, Option.map_some, hread]
      have hunique : (∃ y, ((some value).map (toFloat python)).getD (.ok (.fin 0)) = .ok y ∧
          (finiteScore python (some value) = none → min (clamped weight y) cap = 0)) ↔
            (finiteScore python (some value) = none → min (clamped weight x) cap = 0) := by
        rw [hmap]
        constructor
        · rintro ⟨y, hy, h⟩
          rwa [Except.ok.inj hy]
        · exact fun h => ⟨x, rfl, h⟩
      have htop : min weight cap = 0 ↔ cap = 0 := by
        constructor
        · intro h
          rcases min_choice weight cap with hmin | hmin
          · rw [hmin] at h
            exact absurd h hweight.ne'
          · rwa [hmin] at h
        · intro h
          rw [h, min_eq_right hweight.le]
      rw [hunique, hisClamped, hfinite, and_iff_right hisRead]
      cases x with
      | nan => simpa [clamped, finiteOf] using htop
      | posInf => simpa [clamped, finiteOf] using htop
      | negInf => simp [clamped, hcap]
      | fin q => simp [finiteOf]

/-! ## Which answers do no harm -/

/-- A result that gives no points is robust. -/
theorem robust_of_zero {answer : Answer} {result : JudgeResult}
    (hrun : runJudge python requiredActions conclusion answer = .ok result) (hrc : result.rootCauseScore = .fin 0)
    (hac : result.actionScore = .fin 0) : JudgesRobustly python requiredActions conclusion answer := by
  obtain ⟨hfraction, -⟩ := @hitFraction_mem python requiredActions conclusion
  refine ⟨result, hrun, 0, 0, hrc, hac, le_refl 0, ?_, le_refl 0, ?_, fun _ => rfl, fun _ => rfl⟩
  · norm_num [weightRootCause]
  · exact mul_nonneg (by norm_num [weightAction]) hfraction

/-- What is returned for a dictionary. -/
theorem runJudge_obj {text : Option Text} {fields : Dict} (hconclusion : Text.strip conclusion ≠ [])
    (hparsed : extractJson python (text.getD []) = some (.obj fields)) (htruthy : (Json.obj fields).truthy = true) :
    runJudge python requiredActions conclusion (.ok text) = (do
      let rc ← toFloat python (Dict.getD fields "root_cause_score" (.int 0))
      let ac ← toFloat python (Dict.getD fields "action_score" (.int 0))
      .ok {
        rootCauseScore := clamp weightRootCause rc
        actionScore := keywordGate python requiredActions conclusion (clamp weightAction ac)
        rootCauseFeedback := (python.str (Dict.getD fields "root_cause_feedback" (.str []))).take 500
        actionFeedback := (python.str (Dict.getD fields "action_feedback" (.str []))).take 500
        rawResponse := (text.getD []).take 2000 }) := by
  rw [runJudge, if_neg hconclusion]
  dsimp only
  rw [hparsed, Option.getD_some, if_neg (by rw [htruthy]; exact Bool.noConfusion)]

/-- **A dictionary is judged robustly just if its scores do no harm.** -/
theorem robust_obj_iff {text : Option Text} {fields : Dict} (hconclusion : Text.strip conclusion ≠ [])
    (hparsed : extractJson python (text.getD []) = some (.obj fields)) (htruthy : (Json.obj fields).truthy = true) :
    JudgesRobustly python requiredActions conclusion (.ok text) ↔
      IsClamped python (fields.lookup "root_cause_score") ∧
        (IsClamped python (fields.lookup "action_score") ∨
          (IsRead python (fields.lookup "action_score") ∧ hitFraction python requiredActions conclusion = 0)) := by
  have hroot : (0 : ℚ) < weightRootCause := by norm_num [weightRootCause]
  have haction : (0 : ℚ) < weightAction := by norm_num [weightAction]
  obtain ⟨hfraction, hone⟩ := @hitFraction_mem python requiredActions conclusion
  have hcap : 0 ≤ weightAction * hitFraction python requiredActions conclusion := mul_nonneg haction.le hfraction
  have hzero : weightAction * hitFraction python requiredActions conclusion = 0 ↔
      hitFraction python requiredActions conclusion = 0 := by
    rw [mul_eq_zero, or_iff_right haction.ne']
  have hgiven (field : String) : givenScore python (.ok text) field = finiteScore python (fields.lookup field) := by
    rw [givenScore, hparsed]
  have hrc := @score_iff python _ _ hroot hroot.le (fields.lookup "root_cause_score")
  have hac := @score_iff python _ _ haction hcap (fields.lookup "action_score")
  rw [hzero] at hac
  rw [← hac, JudgesRobustly, runJudge_obj hconclusion hparsed htruthy, hgiven, hgiven, toFloat_getD, toFloat_getD]
  have hrc' : IsClamped python (fields.lookup "root_cause_score") ↔ ∃ x,
      ((fields.lookup "root_cause_score").map (toFloat python)).getD (.ok (.fin 0)) = .ok x ∧
        (finiteScore python (fields.lookup "root_cause_score") = none → clamped weightRootCause x = 0) := by
    have hnot : ¬ (IsRead python (fields.lookup "root_cause_score") ∧ weightRootCause = 0) :=
      fun hand => hroot.ne' hand.2
    rw [or_iff_left hnot] at hrc
    rw [← hrc]
    refine exists_congr fun x => and_congr_right fun _ => ?_
    rw [min_eq_left (clamped_mem hroot.le x).2]
  rw [hrc']
  generalize ((fields.lookup "root_cause_score").map (toFloat python)).getD (.ok (.fin 0)) = rootScore
  generalize ((fields.lookup "action_score").map (toFloat python)).getD (.ok (.fin 0)) = actionScore
  constructor
  · rintro ⟨result, hrun, rc, ac, hresultRc, hresultAc, -, -, -, -, hrcZero, hacZero⟩
    cases rootScore with
    | error raised => cases hrun
    | ok x =>
      cases actionScore with
      | error raised => cases hrun
      | ok y =>
        obtain rfl := Except.ok.inj hrun
        dsimp only at hresultRc hresultAc
        rw [clamp_eq hroot.le, PyFloat.fin.injEq] at hresultRc
        rw [clamp_eq haction.le, keywordGate_fin _ _ (clamped_mem haction.le y).2, PyFloat.fin.injEq] at hresultAc
        refine ⟨⟨x, rfl, fun hnone => ?_⟩, ⟨y, rfl, fun hnone => ?_⟩⟩
        · rw [hresultRc]
          exact hrcZero hnone
        · rw [hresultAc]
          exact hacZero hnone
  · rintro ⟨⟨x, rfl, hx⟩, ⟨y, rfl, hy⟩⟩
    obtain ⟨hxlow, hxhigh⟩ := clamped_mem hroot.le x
    obtain ⟨hylow, hyhigh⟩ := clamped_mem haction.le y
    refine ⟨_, rfl, clamped weightRootCause x,
      min (clamped weightAction y) (weightAction * hitFraction python requiredActions conclusion), clamp_eq hroot.le x,
      ?_, hxlow, hxhigh, le_min hylow hcap, min_le_right _ _, hx, hy⟩
    dsimp only
    rw [clamp_eq haction.le, keywordGate_fin _ _ hyhigh]

/-- **The judge is robust just for the answers that do no harm.** -/
theorem judgesRobustly_iff (python : Python) (requiredActions : RequiredActions) (conclusion : Text) (answer : Answer) :
    JudgesRobustly python requiredActions conclusion answer ↔ AnswerFits python requiredActions conclusion answer := by
  unfold AnswerFits
  by_cases hconclusion : Text.strip conclusion = []
  · refine ⟨fun _ => .inl hconclusion, fun _ => robust_of_zero (if_pos hconclusion) rfl rfl⟩
  rw [or_iff_right hconclusion]
  cases answer with
  | error exc =>
    have hrun : runJudge python requiredActions conclusion (.error exc) =
        .ok (.failed [] ("judge_call_failed: ".toList ++ exc)) := by rw [runJudge, if_neg hconclusion]
    refine ⟨fun _ text htext => ?_, fun _ => robust_of_zero hrun rfl rfl⟩
    cases htext
  | ok text =>
    by_cases hfalsy : ((extractJson python (text.getD [])).getD .null).truthy = false
    · have hrun : runJudge python requiredActions conclusion (.ok text) =
          .ok (.failed (text.getD []) "judge_response_unparseable".toList) := by
        rw [runJudge, if_neg hconclusion]
        dsimp only
        rw [if_pos hfalsy]
      refine ⟨fun _ other hother parsed hparsed htruthy => ?_, fun _ => robust_of_zero hrun rfl rfl⟩
      obtain rfl := Except.ok.inj hother
      rw [Option.mem_def.mp hparsed, Option.getD_some, htruthy] at hfalsy
      cases hfalsy
    · obtain ⟨parsed, hparsed⟩ : ∃ parsed, extractJson python (text.getD []) = some parsed := by
        cases hparsed : extractJson python (text.getD []) with
        | none =>
          rw [hparsed] at hfalsy
          exact absurd rfl hfalsy
        | some parsed => exact ⟨parsed, rfl⟩
      have htruthy : parsed.truthy = true := by
        rw [hparsed, Option.getD_some, Bool.not_eq_false] at hfalsy
        exact hfalsy
      have hcondition : (∀ other, (.ok text : Answer) = .ok other → ∀ value ∈ extractJson python (other.getD []),
          value.truthy = true → ∃ fields, value = .obj fields ∧ IsClamped python (fields.lookup "root_cause_score") ∧
            (IsClamped python (fields.lookup "action_score") ∨
              (IsRead python (fields.lookup "action_score") ∧ hitFraction python requiredActions conclusion = 0))) ↔
          ∃ fields, parsed = .obj fields ∧ IsClamped python (fields.lookup "root_cause_score") ∧
            (IsClamped python (fields.lookup "action_score") ∨
              (IsRead python (fields.lookup "action_score") ∧
                hitFraction python requiredActions conclusion = 0)) := by
        constructor
        · exact fun h => h text rfl parsed hparsed htruthy
        · intro h other hother value hvalue _
          obtain rfl := Except.ok.inj hother
          rw [Option.mem_def, hparsed, Option.some_inj] at hvalue
          exact hvalue ▸ h
      rw [hcondition]
      by_cases hobj : ∃ fields, parsed = .obj fields
      · obtain ⟨fields, rfl⟩ := hobj
        rw [robust_obj_iff hconclusion hparsed htruthy]
        constructor
        · exact fun h => ⟨fields, rfl, h⟩
        · rintro ⟨other, heq, h⟩
          rwa [Json.obj.inj heq]
      · have hraises : runJudge python requiredActions conclusion (.ok text) = .error .attributeError := by
          rw [runJudge, if_neg hconclusion]
          dsimp only
          rw [if_neg hfalsy, hparsed, Option.getD_some]
          cases parsed with
          | obj fields => exact absurd ⟨fields, rfl⟩ hobj
          | _ => rfl
        constructor
        · rintro ⟨result, hrun, -⟩
          rw [hraises] at hrun
          cases hrun
        · rintro ⟨fields, heq, -⟩
          exact absurd ⟨fields, heq⟩ hobj

/-! ## A score that is not a number -/

/-- Python with one float, which reads no texts. -/
def plainPython : Python where
  unicode := .asciiOnly
  floats := ToolResults.halves
  depth := 10
  float _ := none
  str _ := []

/-- An answer whose score for the root cause is NaN. -/
def nanAnswer : Text := "\x7b\"root_cause_score\": NaN, \"action_score\": 0.5\x7d".toList

/-- The characters of the answer. -/
def nanChars : Text := [
  '\x7b', '"', 'r', 'o', 'o', 't', '_', 'c', 'a', 'u', 's', 'e', '_', 's', 'c', 'o', 'r', 'e', '"', ':', ' ',
  'N', 'a', 'N', ',', ' ', '"', 'a', 'c', 't', 'i', 'o', 'n', '_', 's', 'c', 'o', 'r', 'e', '"', ':', ' ',
  '0', '.', '5', '\x7d']

theorem nanAnswer_eq : nanAnswer = nanChars := by rfl

/-- The scores of the answer. -/
def nanFields : Dict := [("root_cause_score", .float .nan), ("action_score", .float (.fin (1 / 2)))]

theorem extractJson_nanAnswer : extractJson plainPython nanAnswer = some (.obj nanFields) := by
  have hstrip : Text.strip nanChars = nanChars := by rfl
  have hloads : loads plainPython.floats plainPython.depth nanChars = .ok (.obj nanFields) := by rfl
  rw [nanAnswer_eq, extractJson, hstrip, hloads]

/-- **NaN receives all points**: it is no smaller than the maximum. -/
theorem nanAnswer_not_robust :
    (runJudge plainPython [] ['x'] (.ok (some nanAnswer))).map JudgeResult.rootCauseScore = .ok (.fin 30) ∧
      ¬ JudgesRobustly plainPython [] ['x'] (.ok (some nanAnswer)) := by
  have hscore : (runJudge plainPython [] ['x'] (.ok (some nanAnswer))).map JudgeResult.rootCauseScore =
      .ok (.fin 30) := by
    have hrc : toFloat plainPython (Dict.getD nanFields "root_cause_score" (.int 0)) = .ok .nan := by rfl
    have hac : toFloat plainPython (Dict.getD nanFields "action_score" (.int 0)) = .ok (.fin (1 / 2)) := by rfl
    rw [@runJudge_obj plainPython [] ['x'] (some nanAnswer) nanFields (by decide) extractJson_nanAnswer rfl, hrc, hac]
    change Except.ok (clamp weightRootCause .nan) = _
    rw [clamp_eq (by norm_num [weightRootCause])]
    rfl
  have hgiven : givenScore plainPython (.ok (some nanAnswer)) "root_cause_score" = none := by
    rw [givenScore, Option.getD_some, extractJson_nanAnswer]
    rfl
  refine ⟨hscore, ?_⟩
  rintro ⟨result, hrun, rc, ac, hrc, -, -, -, -, -, hzero, -⟩
  rw [hrun, Except.map, Except.ok.injEq, hrc, hzero hgiven, PyFloat.fin.injEq] at hscore
  exact absurd hscore (by norm_num)

end DBClaw.Evaluation
