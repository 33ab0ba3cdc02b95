import DBClaw.Library.Coercions
import DBClaw.Library.Columns

/-! # Schedule configurations
`normalize_schedule_config` checks the schedule of a task and brings it into the form in which it is stored; it is
normalised again with every edit. A preset is turned into a cron expression. `normalization_sound_iff` says for which configurations
it raises a `ValueError` or returns a stored form that stays. -/

namespace DBClaw.ScheduleConfigs

open Coercions

/-! ## Expressions -/

/-- `s.split()`. -/
def split (s : Text) : List Text := (s.splitOnP Text.isSpace).filter (· ≠ [])

/-- `CronTrigger`, which makes a trigger of a crontab or of six fields, or says why it does not. -/
structure CronTrigger (Trigger : Type) where
  fromCrontab : Text → Except Text Trigger
  ofFields : List Text → Except Text Trigger

variable {Trigger : Type} (t : Texts) (cron : CronTrigger Trigger)

/-- A refusal is a `ValueError`. -/
def orValueError (trigger : Except Text Trigger) : Except PyError Trigger :=
  match trigger with
  | .ok trigger => .ok trigger
  | .error message => raise message

/-- **`_build_cron_trigger_from_expression`.** -/
def buildCronTriggerFromExpression (expression : Text) : Except PyError Trigger :=
  let fields := split expression
  if fields.length = 5 then orValueError (cron.fromCrontab expression)
  else if fields.length = 6 then orValueError (cron.ofFields fields)
  else raise "cron.expression 仅支持 5 段或 6 段格式".toList

/-- A field of an expression; without a value it is `*`. -/
def cronField : Option ℕ → Text
  | some n => (toString n).toList
  | none => ['*']

/-- The fields with blanks between them. -/
def cronText (fields : List (Option ℕ)) : Text := [' '].intercalate (fields.map cronField)

/-! ## Times -/

/-- `\d{1,2}`. -/
def isGroup (s : Text) : Bool := 1 ≤ s.length && s.length ≤ 2 && s.all t.unicode.isDecimalChar

/-- The groups of `(\d{1,2}):(\d{1,2})(?::(\d{1,2}))?`; the third may be empty. -/
def hmsGroups (text : Text) : Option (Text × Text × Text) :=
  match text.splitOn ':' with
  | [hour, minute] => if isGroup t hour && isGroup t minute then some (hour, minute, []) else none
  | [hour, minute, second] =>
    if isGroup t hour && isGroup t minute && isGroup t second then some (hour, minute, second) else none
  | _ => none

/-- `str(value or "").strip()`. -/
def stripped (value : Json) : Text := Text.strip (pyStr t (value.or (.str [])))

/-- The numbers of a time, as far as they are written. -/
def hmsNumbers (value : Json) : Option (ℕ × ℕ × ℕ) :=
  (hmsGroups t (stripped t value)).map fun (hour, minute, second) => (t.number hour, t.number minute, t.number second)

/-- **`_parse_hms`.** -/
def parseHms (value : Json) : Except PyError (ℕ × ℕ × ℕ) :=
  match hmsNumbers t value with
  | none => raise "时间格式必须是 HH:MM 或 HH:MM:SS".toList
  | some (hour, minute, second) => do
    require (hour ≤ 23 && minute ≤ 59 && second ≤ 59) "时间范围无效，小时需 0-23，分钟/秒需 0-59".toList
    .ok (hour, minute, second)

/-- `{n:02d}`. -/
def twoDigits (n : ℕ) : Text := (toString n).toList.leftpad 2 '0'

/-- `{hour:02d}:{minute:02d}:{second:02d}`. -/
def timeText (hour minute second : ℕ) : Text :=
  twoDigits hour ++ ':' :: (twoDigits minute ++ ':' :: twoDigits second)

/-! ## Normalisation -/

/-- `unit_seconds`. -/
def unitSeconds : List (Text × ℤ) :=
  [("seconds".toList, 1), ("minutes".toList, 60), ("hours".toList, 3600), ("days".toList, 86400)]

/-- The seconds of a unit. -/
def unitOf : Json → Option ℤ
  | .str unit => unitSeconds.lookup unit
  | _ => none

/-- `interval_seconds`, or the product of `every` and `unit`. -/
def intervalSeconds (config : Dict) : Except PyError Json :=
  match config.get "interval_seconds" with
  | .null => do
    let unit := config.getD "unit" (.str "seconds".toList)
    pyHash unit
    require (unitOf unit).isSome "interval.unit 只能是 seconds/minutes/hours/days".toList
    let every ← catching (fun _ => "interval.every 必须是正整数".toList) (pyInt t (config.get "every"))
    .ok (.int (every * (unitOf unit).getD 0))
  | value => .ok value

/-- The branch for `interval`. -/
def normalizeInterval (config : Dict) : Except PyError Dict := do
  let value ← intervalSeconds t config
  let seconds ← catching (fun _ => "interval_seconds 必须是正整数".toList) (pyInt t value)
  require (1 ≤ seconds) "interval_seconds 必须大于 0".toList
  .ok [("interval_seconds", .int seconds)]

/-- **`_normalize_cron_preset`.** -/
def normalizeCronPreset (config : Dict) (preset : Text) : Except PyError Dict :=
  if preset = "hourly".toList then do
    let (minute, second) ← catching (fun _ => "每小时调度的 minute/second 必须是整数".toList) (do
      let minute ← pyInt t (config.getD "minute" (.int 0))
      let second ← pyInt t (config.getD "second" (.int 0))
      .ok (minute, second))
    require (0 ≤ minute && minute ≤ 59 && 0 ≤ second && second ≤ 59) "每小时调度的 minute/second 必须在 0-59 之间".toList
    .ok [("expression", .str (cronText [second.toNat, minute.toNat, none, none, none, none])),
      ("preset", .str "hourly".toList), ("minute", .int minute), ("second", .int second)]
  else if preset = "daily".toList then do
    let (hour, minute, second) ← parseHms t (config.getD "time" (.str "00:00:00".toList))
    .ok [("expression", .str (cronText [second, minute, hour, none, none, none])),
      ("preset", .str "daily".toList), ("time", .str (timeText hour minute second))]
  else if preset = "weekly".toList then do
    let (hour, minute, second) ← parseHms t (config.getD "time" (.str "00:00:00".toList))
    let dayOfWeek ← catching (fun _ => "每周调度必须指定 day_of_week（0-6，0 表示周一）".toList)
      (pyInt t (config.get "day_of_week"))
    require (0 ≤ dayOfWeek && dayOfWeek ≤ 6) "day_of_week 必须在 0-6 之间（0 表示周一）".toList
    .ok [("expression", .str (cronText [second, minute, hour, none, none, some dayOfWeek.toNat])),
      ("preset", .str "weekly".toList), ("time", .str (timeText hour minute second)), ("day_of_week", .int dayOfWeek)]
  else if preset = "monthly".toList then do
    let (hour, minute, second) ← parseHms t (config.getD "time" (.str "00:00:00".toList))
    let day ← catching (fun _ => "每月调度必须指定 day（1-31）".toList) (pyInt t (config.get "day"))
    require (1 ≤ day && day ≤ 31) "day 必须在 1-31 之间".toList
    .ok [("expression", .str (cronText [second, minute, hour, some day.toNat, none, none])),
      ("preset", .str "monthly".toList), ("time", .str (timeText hour minute second)), ("day", .int day)]
  else raise "cron.preset 仅支持 hourly/daily/weekly/monthly".toList

/-- The branch for `cron`. -/
def normalizeCron (config : Dict) : Except PyError Dict :=
  let preset := stripped t (config.get "preset")
  if preset ≠ [] then normalizeCronPreset t config preset
  else do
    let expression := stripped t (config.get "expression")
    require (expression ≠ []) "cron.expression 不能为空".toList
    let _ ← buildCronTriggerFromExpression cron expression
    .ok [("expression", .str expression)]

/-- **`normalize_schedule_config`.** -/
def normalizeScheduleConfig (scheduleType : String) (scheduleConfig : Json) : Except PyError Dict :=
  if scheduleType = "interval" then
    match scheduleConfig with
    | .obj config => normalizeInterval t config
    | _ => raise "interval 调度配置必须是对象".toList
  else if scheduleType = "cron" then
    match scheduleConfig with
    | .obj config => normalizeCron t cron config
    | _ => raise "cron 调度配置必须是对象".toList
  else raise "schedule_type 无效：仅支持 cron；历史数据可能仍为 interval".toList

/-! ## Soundness -/

/-- **What the stored fields of a preset say** in the six fields of an expression, all in their ranges. -/
inductive PresetFields (config : Dict) : List (Option ℕ) → Prop
  | hourly {minute second : ℕ} (preset : config.get "preset" = .str "hourly".toList)
      (hminute : config.get "minute" = .int minute) (hsecond : config.get "second" = .int second)
      (minute_le : minute ≤ 59) (second_le : second ≤ 59) :
      PresetFields config [second, minute, none, none, none, none]
  | daily {hour minute second : ℕ} (preset : config.get "preset" = .str "daily".toList)
      (time : parseHms t (config.get "time") = .ok (hour, minute, second))
      (hour_le : hour ≤ 23) (minute_le : minute ≤ 59) (second_le : second ≤ 59) :
      PresetFields config [second, minute, hour, none, none, none]
  | weekly {hour minute second dayOfWeek : ℕ} (preset : config.get "preset" = .str "weekly".toList)
      (time : parseHms t (config.get "time") = .ok (hour, minute, second))
      (hday : config.get "day_of_week" = .int dayOfWeek) (hour_le : hour ≤ 23) (minute_le : minute ≤ 59)
      (second_le : second ≤ 59) (day_le : dayOfWeek ≤ 6) :
      PresetFields config [second, minute, hour, none, none, some dayOfWeek]
  | monthly {hour minute second day : ℕ} (preset : config.get "preset" = .str "monthly".toList)
      (time : parseHms t (config.get "time") = .ok (hour, minute, second))
      (hday : config.get "day" = .int day) (hour_le : hour ≤ 23) (minute_le : minute ≤ 59)
      (second_le : second ≤ 59) (one_le : 1 ≤ day) (day_le : day ≤ 31) :
      PresetFields config [second, minute, hour, some day, none, none]

/-- The stored expression has the fields of the stored preset. -/
def Agrees (config : Dict) : Prop :=
  ∃ fields expression, PresetFields t config fields ∧ config.get "expression" = .str expression ∧
    split expression = fields.map cronField

/-- The client has named a preset. -/
def HasPreset (config : Dict) : Prop := stripped t (config.get "preset") ≠ []

/-- The configuration with another expression. -/
def setExpression (config : Dict) (expression : Json) : Dict :=
  ("expression", expression) :: config.filter (·.1 ≠ "expression")

/-- **Normalisation is sound**: it raises a `ValueError`, or what it returns stays when it is normalised again, and
the expression next to a preset is that of the preset, whatever the client has written there. -/
def Sound (scheduleType : String) (config : Dict) : Prop :=
  (∃ message, normalizeScheduleConfig t cron scheduleType (.obj config) = .error (.valueError message)) ∨
  ∃ stored, normalizeScheduleConfig t cron scheduleType (.obj config) = .ok stored ∧
    normalizeScheduleConfig t cron scheduleType (.obj stored) = .ok stored ∧
    (scheduleType = "cron" → HasPreset t config → Agrees t stored ∧ ∀ expression,
      normalizeScheduleConfig t cron scheduleType (.obj (setExpression config expression)) = .ok stored)

/-- What is read of an interval. -/
def intervalChecks (config : Dict) : List Check :=
  match config.get "interval_seconds" with
  | .null =>
    let unit := config.getD "unit" (.str "seconds".toList)
    [.hash unit, .guard (unitOf unit).isSome, .caughtInt (config.get "every")]
  | value => [.caughtInt value]

/-- The time is one. -/
def isTime (value : Json) : Bool :=
  (hmsNumbers t value).any fun (hour, minute, second) => hour ≤ 23 && minute ≤ 59 && second ≤ 59

/-- What is read of a preset. -/
def presetChecks (config : Dict) (preset : Text) : List Check :=
  let time := config.getD "time" (.str "00:00:00".toList)
  if preset = "hourly".toList then
    [.caughtInt (config.getD "minute" (.int 0)), .caughtInt (config.getD "second" (.int 0))]
  else if preset = "weekly".toList then [.guard (isTime t time), .caughtInt (config.get "day_of_week")]
  else if preset = "monthly".toList then [.guard (isTime t time), .caughtInt (config.get "day")]
  else []

/-- **What is read of a configuration.** -/
def scheduleChecks (scheduleType : String) (config : Dict) : List Check :=
  if scheduleType = "interval" then intervalChecks config
  else if scheduleType = "cron" then presetChecks t config (stripped t (config.get "preset"))
  else []

variable {t cron}

/-! ## Texts of numbers -/

/-- Words with blanks between them are split into these words. -/
theorem split_intercalate {words : List Text} (hne : words ≠ [])
    (hwords : ∀ word ∈ words, word ≠ [] ∧ ∀ c ∈ word, Text.isSpace c = false) :
    split ([' '].intercalate words) = words := by
  rw [split]
  induction words with
  | nil => exact absurd rfl hne
  | cons word words ih =>
    obtain ⟨⟨hword, hspace⟩, hrest⟩ := List.forall_mem_cons.mp hwords
    cases words with
    | nil =>
      have hone : [' '].intercalate [word] = word := by simp [List.intercalate]
      rw [hone, List.splitOnP_eq_singleton hspace, List.filter_cons_of_pos (by simpa using hword), List.filter_nil]
    | cons next words =>
      have hcons : [' '].intercalate (word :: next :: words) = word ++ ' ' :: [' '].intercalate (next :: words) := by
        simp [List.intercalate]
      rw [hcons, List.splitOnP_append_cons_of_forall_mem hspace ' ' (by decide),
        List.filter_cons_of_pos (by simpa using hword), ih (List.cons_ne_nil _ _) hrest]

/-- A field is a word. -/
theorem cronField_word (field : Option ℕ) : cronField field ≠ [] ∧ ∀ c ∈ cronField field, Text.isSpace c = false := by
  cases field with
  | none => exact ⟨List.cons_ne_nil _ _, List.forall_mem_singleton.mpr rfl⟩
  | some n =>
    have hdigits : cronField (some n) = Nat.toDigits 10 n := by simp [cronField, ToString.toString, Nat.repr]
    rw [hdigits]
    exact ⟨Nat.toDigits_ne_nil, fun c hc => Text.isSpace_of_isDigit (Nat.isDigit_of_mem_toDigits (by decide) (by decide) hc)⟩

/-- **An expression has the fields that it was made of.** -/
theorem split_cronText {fields : List (Option ℕ)} (hne : fields ≠ []) :
    split (cronText fields) = fields.map cronField := by
  refine split_intercalate (by simpa using hne) fun word hword => ?_
  obtain ⟨field, -, rfl⟩ := List.mem_map.mp hword
  exact cronField_word field

theorem twoDigits_eq {n : ℕ} (hn : n ≤ 59) : twoDigits n = [Nat.digitChar (n / 10), Nat.digitChar (n % 10)] := by
  have hall : ∀ k < 60, twoDigits k = [Nat.digitChar (k / 10), Nat.digitChar (k % 10)] := by decide
  exact hall n (by omega)

/-- The digits are ASCII digits. -/
theorem digitChar_spec {k : ℕ} (hk : k < 10) : (Nat.digitChar k).toNat = 48 + k ∧ (Nat.digitChar k).isDigit = true := by
  have hall : ∀ k < 10, (Nat.digitChar k).toNat = 48 + k ∧ (Nat.digitChar k).isDigit = true := by decide
  exact hall k hk

theorem digitValue_digitChar {k : ℕ} (hk : k < 10) : t.digitValue (Nat.digitChar k) = k := by
  rw [Texts.digitValue, (digitChar_spec hk).1, if_pos (by omega)]
  omega

theorem isDecimalChar_digitChar {k : ℕ} (hk : k < 10) : t.unicode.isDecimalChar (Nat.digitChar k) = true := by
  obtain ⟨hnat, hdigit⟩ := digitChar_spec hk
  rw [Unicode.isDecimalChar, if_pos (by omega), hdigit]

theorem number_twoDigits {n : ℕ} (hn : n ≤ 59) : t.number (twoDigits n) = n := by
  rw [twoDigits_eq hn, Texts.number]
  simp only [List.foldl_cons, List.foldl_nil]
  rw [digitValue_digitChar (by omega), digitValue_digitChar (by omega)]
  omega

theorem isGroup_twoDigits {n : ℕ} (hn : n ≤ 59) : isGroup t (twoDigits n) = true := by
  rw [twoDigits_eq hn]
  simp [isGroup, isDecimalChar_digitChar (t := t) (show n / 10 < 10 by omega),
    isDecimalChar_digitChar (t := t) (show n % 10 < 10 by omega)]

theorem mem_twoDigits {n : ℕ} (hn : n ≤ 59) {c : Char} (hc : c ∈ twoDigits n) : c.isDigit = true := by
  rw [twoDigits_eq hn] at hc
  rcases List.mem_cons.mp hc with rfl | hc
  · exact (digitChar_spec (by omega)).2
  · rw [List.mem_singleton.mp hc]
    exact (digitChar_spec (by omega)).2

/-! ## Times -/

theorem stripped_str {s : Text} (hne : s ≠ []) (h : Text.strip s = s) : stripped t (.str s) = s := by
  rw [stripped, Json.or, if_pos (by simpa [Json.truthy] using hne)]
  exact h

/-- **A time that is written out is read back.** -/
theorem hmsNumbers_timeText {hour minute second : ℕ} (hhour : hour ≤ 23) (hminute : minute ≤ 59)
    (hsecond : second ≤ 59) : hmsNumbers t (.str (timeText hour minute second)) = some (hour, minute, second) := by
  have hhour' : hour ≤ 59 := hhour.trans (by decide)
  have hcolon : ∀ {n : ℕ}, n ≤ 59 → ∀ c ∈ twoDigits n, (c == ':') = false := by
    intro n hn c hc
    refine beq_false_of_ne fun hcolon => ?_
    have hdigit := mem_twoDigits hn hc
    rw [hcolon] at hdigit
    exact absurd hdigit (by decide)
  have hspace : ∀ c ∈ timeText hour minute second, Text.isSpace c = false := by
    intro c hc
    simp only [timeText, List.mem_append, List.mem_cons] at hc
    rcases hc with hc | rfl | hc | rfl | hc
    · exact Text.isSpace_of_isDigit (mem_twoDigits hhour' hc)
    · decide
    · exact Text.isSpace_of_isDigit (mem_twoDigits hminute hc)
    · decide
    · exact Text.isSpace_of_isDigit (mem_twoDigits hsecond hc)
  have hne : timeText hour minute second ≠ [] := by simp [timeText]
  have hsplit : (timeText hour minute second).splitOn ':' = [twoDigits hour, twoDigits minute, twoDigits second] := by
    rw [List.splitOn, timeText, List.splitOnP_append_cons_of_forall_mem (hcolon hhour') ':' (by decide),
      List.splitOnP_append_cons_of_forall_mem (hcolon hminute) ':' (by decide),
      List.splitOnP_eq_singleton (hcolon hsecond)]
  rw [hmsNumbers, stripped_str hne (Text.strip_of_forall hspace), hmsGroups, hsplit]
  simp [isGroup_twoDigits, hhour', hminute, hsecond, number_twoDigits]

theorem parseHms_timeText {hour minute second : ℕ} (hhour : hour ≤ 23) (hminute : minute ≤ 59)
    (hsecond : second ≤ 59) : parseHms t (.str (timeText hour minute second)) = .ok (hour, minute, second) := by
  rw [parseHms, hmsNumbers_timeText hhour hminute hsecond]
  simp [hhour, hminute, hsecond, require, bind, Except.bind]

/-- What is read as a time is in range. -/
theorem parseHms_eq_ok {value : Json} {hour minute second : ℕ} (h : parseHms t value = .ok (hour, minute, second)) :
    hour ≤ 23 ∧ minute ≤ 59 ∧ second ≤ 59 := by
  rw [parseHms] at h
  cases hnumbers : hmsNumbers t value with
  | none =>
    rw [hnumbers] at h
    cases h
  | some numbers =>
    rw [hnumbers] at h
    obtain ⟨u, hrange, hsame⟩ := bind_eq_ok_iff.mp h
    rw [require_eq_ok_iff] at hrange
    obtain ⟨rfl, rfl, rfl⟩ : numbers.1 = hour ∧ numbers.2.1 = minute ∧ numbers.2.2 = second := by
      simpa [Prod.ext_iff] using hsame
    simpa [and_assoc] using hrange

theorem follows_parseHms (value : Json) : Follows t (parseHms t value) [.guard (isTime t value)] := by
  rw [parseHms, isTime]
  cases hmsNumbers t value with
  | none => exact follows_raise _
  | some numbers => exact (follows_require _ _).map _

/-! ## What is returned -/

variable {config stored : Dict} {preset : Text}

/-- **An interval is stored as its seconds.** -/
theorem normalizeInterval_eq_ok (h : normalizeInterval t config = .ok stored) :
    ∃ seconds : ℤ, 1 ≤ seconds ∧ stored = [("interval_seconds", .int seconds)] := by
  obtain ⟨value, -, h⟩ := bind_eq_ok_iff.mp h
  obtain ⟨seconds, -, h⟩ := bind_eq_ok_iff.mp h
  obtain ⟨u, hpos, h⟩ := bind_eq_ok_iff.mp h
  exact ⟨seconds, by simpa using hpos, (Except.ok.inj h).symm⟩

theorem normalizeInterval_stored {seconds : ℤ} (h : 1 ≤ seconds) :
    normalizeInterval t [("interval_seconds", .int seconds)] = .ok [("interval_seconds", .int seconds)] := by
  simp [normalizeInterval, intervalSeconds, Dict.get, pyInt, require, h, bind, Except.bind]

/-- **What a preset is stored as.** -/
inductive Stored : Dict → Prop
  | hourly {minute second : ℕ} (minute_le : minute ≤ 59) (second_le : second ≤ 59) :
      Stored [("expression", .str (cronText [second, minute, none, none, none, none])),
        ("preset", .str "hourly".toList), ("minute", .int minute), ("second", .int second)]
  | daily {hour minute second : ℕ} (hour_le : hour ≤ 23) (minute_le : minute ≤ 59) (second_le : second ≤ 59) :
      Stored [("expression", .str (cronText [second, minute, hour, none, none, none])),
        ("preset", .str "daily".toList), ("time", .str (timeText hour minute second))]
  | weekly {hour minute second dayOfWeek : ℕ} (hour_le : hour ≤ 23) (minute_le : minute ≤ 59) (second_le : second ≤ 59)
      (day_le : dayOfWeek ≤ 6) :
      Stored [("expression", .str (cronText [second, minute, hour, none, none, some dayOfWeek])),
        ("preset", .str "weekly".toList), ("time", .str (timeText hour minute second)), ("day_of_week", .int dayOfWeek)]
  | monthly {hour minute second day : ℕ} (hour_le : hour ≤ 23) (minute_le : minute ≤ 59) (second_le : second ≤ 59)
      (one_le : 1 ≤ day) (day_le : day ≤ 31) :
      Stored [("expression", .str (cronText [second, minute, hour, some day, none, none])),
        ("preset", .str "monthly".toList), ("time", .str (timeText hour minute second)), ("day", .int day)]

/-- **A preset is stored in its form.** -/
theorem normalizeCronPreset_eq_ok (h : normalizeCronPreset t config preset = .ok stored) : Stored stored := by
  rw [normalizeCronPreset] at h
  split_ifs at h
  · obtain ⟨⟨minute, second⟩, -, h⟩ := bind_eq_ok_iff.mp h
    obtain ⟨u, hrange, h⟩ := bind_eq_ok_iff.mp h
    simp only [require_eq_ok_iff, Bool.and_eq_true, decide_eq_true_iff] at hrange
    obtain ⟨⟨⟨hminute, hminute'⟩, hsecond⟩, hsecond'⟩ := hrange
    obtain ⟨m, rfl⟩ := Int.eq_ofNat_of_zero_le hminute
    obtain ⟨s, rfl⟩ := Int.eq_ofNat_of_zero_le hsecond
    rw [← Except.ok.inj h]
    exact .hourly (by omega) (by omega)
  · obtain ⟨⟨hour, minute, second⟩, htime, h⟩ := bind_eq_ok_iff.mp h
    obtain ⟨hhour, hminute, hsecond⟩ := parseHms_eq_ok htime
    rw [← Except.ok.inj h]
    exact .daily hhour hminute hsecond
  · obtain ⟨⟨hour, minute, second⟩, htime, h⟩ := bind_eq_ok_iff.mp h
    obtain ⟨hhour, hminute, hsecond⟩ := parseHms_eq_ok htime
    obtain ⟨dayOfWeek, -, h⟩ := bind_eq_ok_iff.mp h
    obtain ⟨u, hrange, h⟩ := bind_eq_ok_iff.mp h
    simp only [require_eq_ok_iff, Bool.and_eq_true, decide_eq_true_iff] at hrange
    obtain ⟨d, rfl⟩ := Int.eq_ofNat_of_zero_le hrange.1
    rw [← Except.ok.inj h]
    exact .weekly hhour hminute hsecond (by omega)
  · obtain ⟨⟨hour, minute, second⟩, htime, h⟩ := bind_eq_ok_iff.mp h
    obtain ⟨hhour, hminute, hsecond⟩ := parseHms_eq_ok htime
    obtain ⟨day, -, h⟩ := bind_eq_ok_iff.mp h
    obtain ⟨u, hrange, h⟩ := bind_eq_ok_iff.mp h
    simp only [require_eq_ok_iff, Bool.and_eq_true, decide_eq_true_iff] at hrange
    obtain ⟨d, rfl⟩ := Int.eq_ofNat_of_zero_le (hrange.1.trans' (by decide))
    rw [← Except.ok.inj h]
    exact .monthly hhour hminute hsecond (by omega) (by omega)
  · cases h

/-- A preset that is named by its own text. -/
theorem normalizeCron_of_preset {name : Text} (hget : config.get "preset" = .str name) (hne : name ≠ [])
    (hstrip : Text.strip name = name) : normalizeCron t cron config = normalizeCronPreset t config name := by
  have hpreset : stripped t (config.get "preset") = name := by
    rw [hget]
    exact stripped_str hne hstrip
  rw [normalizeCron, hpreset]
  exact if_pos hne

theorem normalizeCronPreset_hourly {minute second : ℕ} (hminute : config.getD "minute" (.int 0) = .int minute)
    (hsecond : config.getD "second" (.int 0) = .int second) (minute_le : minute ≤ 59) (second_le : second ≤ 59) :
    normalizeCronPreset t config "hourly".toList =
      .ok [("expression", .str (cronText [second, minute, none, none, none, none])),
        ("preset", .str "hourly".toList), ("minute", .int minute), ("second", .int second)] := by
  rw [normalizeCronPreset, if_pos rfl, hminute, hsecond]
  simp only [pyInt, ok_bind, catching_ok]
  rw [require_of_true (by simp only [Bool.and_eq_true, decide_eq_true_iff]; omega)]
  rfl

theorem normalizeCronPreset_daily {hour minute second : ℕ}
    (htime : parseHms t (config.getD "time" (.str "00:00:00".toList)) = .ok (hour, minute, second)) :
    normalizeCronPreset t config "daily".toList =
      .ok [("expression", .str (cronText [second, minute, hour, none, none, none])),
        ("preset", .str "daily".toList), ("time", .str (timeText hour minute second))] := by
  rw [normalizeCronPreset, if_neg (by decide), if_pos rfl, htime]
  rfl

theorem normalizeCronPreset_weekly {hour minute second dayOfWeek : ℕ}
    (htime : parseHms t (config.getD "time" (.str "00:00:00".toList)) = .ok (hour, minute, second))
    (hday : config.get "day_of_week" = .int dayOfWeek) (day_le : dayOfWeek ≤ 6) :
    normalizeCronPreset t config "weekly".toList =
      .ok [("expression", .str (cronText [second, minute, hour, none, none, some dayOfWeek])),
        ("preset", .str "weekly".toList), ("time", .str (timeText hour minute second)),
        ("day_of_week", .int dayOfWeek)] := by
  rw [normalizeCronPreset, if_neg (by decide), if_neg (by decide), if_pos rfl, htime, hday]
  simp only [pyInt, ok_bind, catching_ok]
  rw [require_of_true (by simp only [Bool.and_eq_true, decide_eq_true_iff]; omega)]
  rfl

theorem normalizeCronPreset_monthly {hour minute second day : ℕ}
    (htime : parseHms t (config.getD "time" (.str "00:00:00".toList)) = .ok (hour, minute, second))
    (hday : config.get "day" = .int day) (one_le : 1 ≤ day) (day_le : day ≤ 31) :
    normalizeCronPreset t config "monthly".toList =
      .ok [("expression", .str (cronText [second, minute, hour, some day, none, none])),
        ("preset", .str "monthly".toList), ("time", .str (timeText hour minute second)), ("day", .int day)] := by
  rw [normalizeCronPreset, if_neg (by decide), if_neg (by decide), if_neg (by decide), if_pos rfl, htime, hday]
  simp only [pyInt, ok_bind, catching_ok]
  rw [require_of_true (by simp only [Bool.and_eq_true, decide_eq_true_iff]; omega)]
  rfl

/-- **What is stored stays.** -/
theorem Stored.normalizeCron (h : Stored stored) : normalizeCron t cron stored = .ok stored := by
  cases h with
  | hourly hminute hsecond =>
    rw [normalizeCron_of_preset rfl (by decide) (by decide)]
    exact normalizeCronPreset_hourly rfl rfl hminute hsecond
  | daily hhour hminute hsecond =>
    rw [normalizeCron_of_preset rfl (by decide) (by decide)]
    exact normalizeCronPreset_daily (parseHms_timeText hhour hminute hsecond)
  | weekly hhour hminute hsecond hday =>
    rw [normalizeCron_of_preset rfl (by decide) (by decide)]
    exact normalizeCronPreset_weekly (parseHms_timeText hhour hminute hsecond) rfl hday
  | monthly hhour hminute hsecond hone hday =>
    rw [normalizeCron_of_preset rfl (by decide) (by decide)]
    exact normalizeCronPreset_monthly (parseHms_timeText hhour hminute hsecond) rfl hone hday

/-- **Its expression has the fields of the preset.** -/
theorem Stored.agrees (h : Stored stored) : Agrees t stored := by
  cases h with
  | hourly hminute hsecond =>
    exact ⟨_, _, .hourly rfl rfl rfl hminute hsecond, rfl, split_cronText (List.cons_ne_nil _ _)⟩
  | daily hhour hminute hsecond =>
    exact ⟨_, _, .daily rfl (parseHms_timeText hhour hminute hsecond) hhour hminute hsecond, rfl,
      split_cronText (List.cons_ne_nil _ _)⟩
  | weekly hhour hminute hsecond hday =>
    exact ⟨_, _, .weekly rfl (parseHms_timeText hhour hminute hsecond) rfl hhour hminute hsecond hday, rfl,
      split_cronText (List.cons_ne_nil _ _)⟩
  | monthly hhour hminute hsecond hone hday =>
    exact ⟨_, _, .monthly rfl (parseHms_timeText hhour hminute hsecond) rfl hhour hminute hsecond hone hday, rfl,
      split_cronText (List.cons_ne_nil _ _)⟩

/-- An expression without a preset is stored as it is stripped. -/
theorem normalizeCron_of_no_preset (hpreset : ¬ HasPreset t config) (h : normalizeCron t cron config = .ok stored) :
    normalizeCron t cron stored = .ok stored := by
  rw [normalizeCron] at h
  replace h := (if_neg hpreset).symm.trans h
  obtain ⟨u, hne, h⟩ := bind_eq_ok_iff.mp h
  obtain ⟨trigger, htrigger, h⟩ := bind_eq_ok_iff.mp h
  obtain rfl := Except.ok.inj h
  rw [require_eq_ok_iff] at hne
  have hexpression : stripped t (.str (stripped t (config.get "expression"))) = stripped t (config.get "expression") :=
    stripped_str (of_decide_eq_true hne) (Text.strip_strip _)
  have hnone : ¬ HasPreset t [("expression", .str (stripped t (config.get "expression")))] := not_not.mpr rfl
  have hget : Dict.get [("expression", .str (stripped t (config.get "expression")))] "expression" =
      .str (stripped t (config.get "expression")) := rfl
  rw [normalizeCron]
  refine (if_neg hnone).trans ?_
  rw [hget]
  simp only [hexpression]
  rw [require_of_true hne, ok_bind, htrigger]
  rfl

/-! ## The expression of the client -/

/-- The expression alone is another one. -/
theorem lookup_setExpression {key : String} (expression : Json) (h : key ≠ "expression") :
    (setExpression config expression).lookup key = config.lookup key := by
  have hbeq : (key == "expression") = false := beq_false_of_ne h
  rw [setExpression, List.lookup_cons, hbeq]
  induction config with
  | nil => rfl
  | cons entry config ih =>
    by_cases hentry : entry.1 = "expression"
    · have hkey : (key == entry.1) = false := by rw [hentry]; exact hbeq
      rw [List.filter_cons_of_neg (by simpa using hentry), List.lookup_cons, hkey]
      exact ih
    · rw [List.filter_cons_of_pos (by simpa using hentry), List.lookup_cons, List.lookup_cons]
      cases key == entry.1
      · exact ih
      · rfl

/-- **A preset does not look at it.** -/
theorem normalizeCron_setExpression (h : HasPreset t config) (expression : Json) :
    normalizeCron t cron (setExpression config expression) = normalizeCron t cron config := by
  have hget : ∀ {key : String}, key ≠ "expression" → (setExpression config expression).get key = config.get key := by
    intro key hkey
    rw [Dict.get, Dict.get, lookup_setExpression expression hkey]
  have hgetD : ∀ {key : String} {default : Json}, key ≠ "expression" →
      (setExpression config expression).getD key default = config.getD key default := by
    intro key default hkey
    rw [Dict.getD, Dict.getD, lookup_setExpression expression hkey]
  have hpreset := @hget "preset" (by decide)
  rw [normalizeCron, normalizeCron, hpreset]
  refine (if_pos h).trans (Eq.trans ?_ (if_pos h).symm)
  rw [normalizeCronPreset, normalizeCronPreset, hgetD (by decide), hgetD (by decide), hgetD (by decide),
    hget (by decide), hget (by decide)]

/-! ## What escapes -/

/-- The seconds are read last, and a number that is too small is a `ValueError`. -/
theorem escapes_seconds (value : Json) {message message' : Text} {f : ℤ → Bool} {g : ℤ → Dict} :
    Escapes (catching (fun _ => message) (pyInt t value) >>= fun seconds =>
      require (f seconds) message' >>= fun _ => .ok (g seconds)) ↔ isInfinite value = true := by
  rw [escapes_bind_of_not, (follows_caughtInt value).escapes_iff]
  · simp [Orderly, Check.escapes]
  · intro seconds _
    rw [escapes_bind_of_not fun _ _ => escapes_ok _]
    exact not_escapes_require _ _

theorem escapes_normalizeInterval (config : Dict) :
    Escapes (normalizeInterval t config) ↔ ¬ Orderly t (intervalChecks config) := by
  rw [normalizeInterval]
  cases hvalue : config.get "interval_seconds" with
  | null =>
    have hfollows : Follows t (intervalSeconds t config) (intervalChecks config) := by
      rw [intervalSeconds, intervalChecks, hvalue]
      exact (follows_pyHash _).bind fun _ _ => (follows_require _ _).bind fun _ _ => (follows_caughtInt _).map _
    rw [← hfollows.escapes_iff]
    refine escapes_bind_of_not fun value hproduct => ?_
    -- the product is an integer, which is read without an exception
    obtain ⟨n, rfl⟩ : ∃ n : ℤ, value = .int n := by
      rw [intervalSeconds, hvalue] at hproduct
      obtain ⟨u, -, hproduct⟩ := bind_eq_ok_iff.mp hproduct
      obtain ⟨u', -, hproduct⟩ := bind_eq_ok_iff.mp hproduct
      obtain ⟨every, -, hproduct⟩ := bind_eq_ok_iff.mp hproduct
      exact ⟨_, (Except.ok.inj hproduct).symm⟩
    rw [escapes_seconds]
    exact Bool.false_ne_true
  | bool | int | float | str | arr | obj =>
    have hsame : intervalSeconds t config = .ok (config.get "interval_seconds") := by
      rw [intervalSeconds, hvalue]
    have hchecks : intervalChecks config = [.caughtInt (config.get "interval_seconds")] := by
      rw [intervalChecks, hvalue]
    rw [hsame, hchecks, ok_bind, escapes_seconds]
    simp [Orderly, Check.escapes]

/-- A time and a number after it. -/
theorem escapes_timeAndSeconds (time x : Json) {message message' : Text} {f : ℤ → Bool} {g : ℕ × ℕ × ℕ → ℤ → Dict} :
    Escapes (parseHms t time >>= fun numbers => catching (fun _ => message) (pyInt t x) >>= fun n =>
      require (f n) message' >>= fun _ => .ok (g numbers n)) ↔ ¬ Orderly t [.guard (isTime t time), .caughtInt x] := by
  have htime := follows_parseHms (t := t) time
  have hquiet : ¬ Escapes (parseHms t time) := by
    rw [htime.escapes_iff, not_not]
    exact ⟨rfl, fun _ => trivial⟩
  have hreturns : Returns (parseHms t time) ↔ isTime t time = true := by
    rw [htime.returns_iff, List.forall_mem_singleton]
    rfl
  rw [escapes_bind, or_iff_right hquiet]
  simp only [escapes_seconds, exists_and_right]
  rw [show (∃ numbers, parseHms t time = .ok numbers) ↔ isTime t time = true from hreturns]
  simp [Orderly, Check.escapes, Check.passes]

theorem escapes_normalizeCronPreset (config : Dict) (preset : Text) :
    Escapes (normalizeCronPreset t config preset) ↔ ¬ Orderly t (presetChecks t config preset) := by
  rw [normalizeCronPreset, presetChecks]
  dsimp only
  by_cases hhourly : preset = "hourly".toList
  · rw [if_pos hhourly, if_pos hhourly, escapes_bind_of_not, catching_bind]
    · refine Follows.escapes_iff ?_
      refine (follows_caughtInt _).bind fun minute _ => ?_
      rw [catching_bind]
      exact (follows_caughtInt _).map _
    · intro numbers _
      rw [escapes_bind_of_not fun _ _ => escapes_ok _]
      exact not_escapes_require _ _
  rw [if_neg hhourly, if_neg hhourly]
  by_cases hdaily : preset = "daily".toList
  · rw [if_pos hdaily, if_neg (by rw [hdaily]; decide), if_neg (by rw [hdaily]; decide),
      escapes_bind_of_not fun _ _ => escapes_ok _, (follows_parseHms _).escapes_iff]
    simp [Orderly, Check.escapes]
  rw [if_neg hdaily]
  by_cases hweekly : preset = "weekly".toList
  · rw [if_pos hweekly, if_pos hweekly]
    exact escapes_timeAndSeconds _ _
  rw [if_neg hweekly, if_neg hweekly]
  by_cases hmonthly : preset = "monthly".toList
  · rw [if_pos hmonthly, if_pos hmonthly]
    exact escapes_timeAndSeconds _ _
  rw [if_neg hmonthly, if_neg hmonthly]
  simp [raise, Orderly, PyError.IsValueError]

theorem not_escapes_buildCronTriggerFromExpression (expression : Text) :
    ¬ Escapes (buildCronTriggerFromExpression cron expression) := by
  have hrefusal : ∀ trigger : Except Text Trigger, ¬ Escapes (orValueError trigger) := by
    intro trigger
    cases trigger <;> simp [orValueError, raise, escapes_ok, PyError.IsValueError]
  rw [buildCronTriggerFromExpression]
  split_ifs
  · exact hrefusal _
  · exact hrefusal _
  · simp [raise, PyError.IsValueError]

/-- **What escapes the normalisation** is what escapes the checks. -/
theorem escapes_normalizeScheduleConfig (scheduleType : String) (config : Dict) :
    Escapes (normalizeScheduleConfig t cron scheduleType (.obj config)) ↔
      ¬ Orderly t (scheduleChecks t scheduleType config) := by
  rw [normalizeScheduleConfig, scheduleChecks]
  split_ifs with hinterval hcron
  · exact escapes_normalizeInterval config
  · rw [normalizeCron]
    by_cases hpreset : HasPreset t config
    · exact (iff_of_eq (congrArg Escapes (if_pos hpreset))).trans (escapes_normalizeCronPreset config _)
    · refine (iff_of_eq (congrArg Escapes (if_neg hpreset))).trans ?_
      rw [HasPreset, ne_eq, not_not] at hpreset
      have hnone : presetChecks t config [] = [] := rfl
      rw [hpreset, hnone]
      refine iff_of_false ?_ (not_not.mpr trivial)
      rw [escapes_bind]
      rintro (hescapes | ⟨u, -, hescapes⟩)
      · exact not_escapes_require _ _ hescapes
      · rw [escapes_bind_of_not fun _ _ => escapes_ok _] at hescapes
        exact not_escapes_buildCronTriggerFromExpression _ hescapes
  · simp [raise, Orderly, PyError.IsValueError]

/-! ## Soundness -/

/-- **Normalisation is sound** on just the configurations from which no other exception escapes. -/
theorem normalization_sound_iff (t : Texts) (cron : CronTrigger Trigger) (scheduleType : String) (config : Dict) :
    Sound t cron scheduleType config ↔ Orderly t (scheduleChecks t scheduleType config) := by
  rw [← not_iff_not, ← @escapes_normalizeScheduleConfig _ t cron, not_iff_comm]
  constructor
  · intro hescapes
    rcases returns_or_raises hescapes with ⟨stored, hstored⟩ | hraises
    · refine .inr ⟨stored, hstored, ?_⟩
      rw [normalizeScheduleConfig] at hstored
      split_ifs at hstored with hinterval hcron
      · obtain ⟨seconds, hpos, rfl⟩ := normalizeInterval_eq_ok hstored
        refine ⟨?_, fun hcron => absurd (hinterval.symm.trans hcron) (by decide)⟩
        rw [normalizeScheduleConfig, if_pos hinterval]
        exact normalizeInterval_stored hpos
      · have hsame : ∀ other, normalizeScheduleConfig t cron scheduleType (.obj other) = normalizeCron t cron other := by
          intro other
          rw [normalizeScheduleConfig, if_neg hinterval, if_pos hcron]
        simp only [hsame]
        by_cases hpreset : HasPreset t config
        · have hform : Stored stored := by
            rw [normalizeCron] at hstored
            exact normalizeCronPreset_eq_ok ((if_pos hpreset).symm.trans hstored)
          refine ⟨hform.normalizeCron, fun _ _ => ⟨hform.agrees, fun expression => ?_⟩⟩
          rw [normalizeCron_setExpression hpreset, hstored]
        · exact ⟨normalizeCron_of_no_preset hpreset hstored, fun _ h => absurd h hpreset⟩
      · cases hstored
    · exact .inl hraises
  · rintro (⟨message, hmessage⟩ | ⟨stored, hstored, -⟩)
    · rw [hmessage, escapes_error, not_not]
      trivial
    · rw [hstored]
      exact escapes_ok _

/-! ## A minute that is infinite -/

/-- Python without texts of values, and the digits of ASCII. -/
def asciiTexts : Texts where
  unicode := .asciiOnly
  digit _ := 0
  float _ := none
  repr _ := []
  error _ := []

/-- Every expression is accepted. -/
def anyTrigger : CronTrigger Unit where
  fromCrontab _ := .ok ()
  ofFields _ := .ok ()

/-- **An infinite minute raises an `OverflowError`**, which is no `ValueError`. -/
theorem infinite_not_sound :
    ¬ Sound asciiTexts anyTrigger "cron" [("preset", .str "hourly".toList), ("minute", .float .posInf)] := by
  have herror : normalizeScheduleConfig asciiTexts anyTrigger "cron"
      (.obj [("preset", .str "hourly".toList), ("minute", .float .posInf)]) = .error .overflowError := by rfl
  rintro (⟨message, hmessage⟩ | ⟨stored, hstored, -⟩)
  · rw [herror] at hmessage
    cases hmessage
  · rw [herror] at hstored
    cases hstored

end DBClaw.ScheduleConfigs
