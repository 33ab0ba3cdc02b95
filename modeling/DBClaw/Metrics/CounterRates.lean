import DBClaw.Alerts.Records
import DBClaw.Library.Noninterference
import DBClaw.Library.Text
import Mathlib

/-! # Rates of counters
Databases report cumulative counters: a value that only grows, until a restart sets it back. `MetricNormalizer`
turns them into rates. It remembers the last value of each counter of each datasource, and divides what the
counter has gained since by the time that has passed. `rates_telescope` says that nothing is lost or counted
twice on the way. -/

namespace DBClaw.CounterRates

open Alerts (Time)
open Noninterference

/-- What `_last_values` remembers of a counter. -/
structure LastValue where
  value : ℚ≥0
  timestamp : Time

/-- `_last_values`. -/
abbrev LastValues : Type := AList fun _ : Text => LastValue

/-- `f"{datasource_id}:"`. -/
def keyPrefix (datasourceId : ℤ) : Text := (toString datasourceId).toList ++ [':']

/-- The key of a counter. -/
def counterKey (datasourceId : ℤ) (metricName : Text) : Text := keyPrefix datasourceId ++ metricName

/-- `(timestamp - last_time).total_seconds()`. -/
def totalSeconds (timestamp lastTime : Time) : ℚ := (timestamp - lastTime : ℤ) / 1000000

/-- **`_calculate_rate`** at a time, where `round` rounds the rate. -/
def calculateRate (round : ℚ → ℚ) (lastValues : LastValues) (datasourceId : ℤ) (metricName : Text)
    (currentValue : ℚ≥0) (timestamp : Time) : Option ℚ × LastValues :=
  let key := counterKey datasourceId metricName
  match lastValues.lookup key with
  | none => (none, lastValues.insert key ⟨currentValue, timestamp⟩)
  | some last =>
    let timeDiff := totalSeconds timestamp last.timestamp
    if timeDiff ≤ 0 then (none, lastValues)
    else
      let valueDiff : ℚ := currentValue - last.value
      -- the counter was reset
      let valueDiff := if valueDiff < 0 then (currentValue : ℚ) else valueDiff
      let rate := valueDiff / timeDiff
      (some (round rate), lastValues.insert key ⟨currentValue, timestamp⟩)

/-- **`clear_cache`.** -/
def clearCache (lastValues : LastValues) : Option ℤ → LastValues
  | none => ∅
  | some datasourceId =>
    let keysToRemove := lastValues.keys.filter fun k => (keyPrefix datasourceId).isPrefixOf k
    keysToRemove.foldl (fun lastValues key => lastValues.erase key) lastValues

/-- The calls to the normalizer; `now()` is the time of the call. -/
inductive Call
  | calculateRate (datasourceId : ℤ) (metricName : Text) (currentValue : ℚ≥0) (timestamp : Time)
  | clearCache (datasourceId : Option ℤ)

/-- One call. -/
def step (round : ℚ → ℚ) (lastValues : LastValues) : Call → Option ℚ × LastValues
  | .calculateRate datasourceId metricName currentValue timestamp =>
    calculateRate round lastValues datasourceId metricName currentValue timestamp
  | .clearCache datasourceId => (none, clearCache lastValues datasourceId)

/-! ## Counting -/

/-- Whether a call is about a counter. -/
def Call.concerns (datasourceId : ℤ) (metricName : Text) : Call → Bool
  | .calculateRate i m _ _ => i = datasourceId ∧ m = metricName
  | .clearCache none => true
  | .clearCache (some i) => i = datasourceId

/-- What is remembered of a counter. -/
def LastValues.last (lastValues : LastValues) (datasourceId : ℤ) (metricName : Text) : Option LastValue :=
  lastValues.lookup (counterKey datasourceId metricName)

/-- **A sample is later than what is remembered** of its counter. -/
def Advances (lastValues : LastValues) (datasourceId : ℤ) (metricName : Text) (timestamp : Time) : Prop :=
  ∀ last ∈ lastValues.last datasourceId metricName, last.timestamp < timestamp

/-- The increment that a call counts: its exact rate times the time that has passed. -/
def counted (lastValues : LastValues) : Call → ℚ
  | .calculateRate datasourceId metricName currentValue timestamp =>
    match lastValues.last datasourceId metricName,
      (calculateRate id lastValues datasourceId metricName currentValue timestamp).1 with
    | some last, some rate => rate * totalSeconds timestamp last.timestamp
    | _, _ => 0
  | .clearCache _ => 0

/-- What is counted for a counter in a run. -/
def countedOver (datasourceId : ℤ) (metricName : Text) : LastValues → List Call → ℚ
  | _, [] => 0
  | lastValues, call :: calls =>
    (if call.concerns datasourceId metricName then counted lastValues call else 0) +
      countedOver datasourceId metricName (step id lastValues call).2 calls

/-- **A stretch without resets of a counter**: the cache is not cleared for it, and no sample that is later than
what is remembered is below it. -/
def WithoutResets (datasourceId : ℤ) (metricName : Text) : LastValues → List Call → Prop
  | _, [] => True
  | lastValues, call :: calls =>
    (∀ i, call = .clearCache i → call.concerns datasourceId metricName = false) ∧
      (∀ value timestamp, call = .calculateRate datasourceId metricName value timestamp →
        ∀ last ∈ lastValues.last datasourceId metricName, last.timestamp < timestamp → last.value ≤ value) ∧
      WithoutResets datasourceId metricName (step id lastValues call).2 calls

variable {lastValues : LastValues} {datasourceId : ℤ} {metricName : Text} {currentValue : ℚ≥0} {timestamp : Time}
  {round : ℚ → ℚ} {last : LastValue}

/-! ## Keys -/

theorem colon_not_mem (datasourceId : ℤ) : ':' ∉ (toString datasourceId).toList := by
  have hdigit : ∀ n : ℕ, ':' ∉ (Nat.repr n).toList := by
    intro n hmem
    have hchar : ':' ∈ Nat.toDigits 10 n := by simpa [Nat.repr] using hmem
    exact absurd (Nat.isDigit_of_mem_toDigits (by decide) (by decide) hchar) (by decide)
  rcases datasourceId with n | n
  · exact hdigit n
  · show ':' ∉ ("-" ++ Nat.repr (n + 1)).toList
    rw [String.toList_append, List.mem_append, not_or]
    exact ⟨by decide, hdigit (n + 1)⟩

theorem takeWhile_counterKey (datasourceId : ℤ) (metricName : Text) :
    (counterKey datasourceId metricName).takeWhile (· ≠ ':') = (toString datasourceId).toList := by
  rw [counterKey, keyPrefix, List.append_assoc]
  apply Text.takeWhile_append
  · intro c hc
    exact decide_eq_true (ne_of_mem_of_not_mem hc (colon_not_mem datasourceId))
  · intro c hc
    rw [show c = ':' from (Option.some.inj hc).symm]
    decide

theorem toString_toList_injective {i j : ℤ} (h : (toString i).toList = (toString j).toList) : i = j :=
  Int.repr_injective (String.toList_injective h)

theorem keyPrefix_isPrefixOf {i j : ℤ} : (keyPrefix i).isPrefixOf (counterKey j metricName) = decide (i = j) := by
  rw [Bool.eq_iff_iff, List.isPrefixOf_iff_prefix, decide_eq_true_iff]
  constructor
  · rintro ⟨rest, hrest⟩
    refine toString_toList_injective ?_
    rw [← takeWhile_counterKey i rest, ← takeWhile_counterKey j metricName]
    exact congrArg _ hrest
  · rintro rfl
    exact List.prefix_append _ _

theorem counterKey_inj {i j : ℤ} {m n : Text} : counterKey i m = counterKey j n ↔ i = j ∧ m = n := by
  constructor
  · intro h
    have hij : i = j := by
      refine toString_toList_injective ?_
      rw [← takeWhile_counterKey i m, ← takeWhile_counterKey j n, h]
    subst hij
    exact ⟨rfl, List.append_cancel_left h⟩
  · rintro ⟨rfl, rfl⟩
    rfl

/-! ## What the calls remember -/

theorem last_insert (i : ℤ) (m : Text) :
    LastValues.last (lastValues.insert (counterKey i m) last) datasourceId metricName =
      if i = datasourceId ∧ m = metricName then some last else lastValues.last datasourceId metricName := by
  split_ifs with h
  · obtain ⟨rfl, rfl⟩ := h
    exact AList.lookup_insert _
  · exact AList.lookup_insert_ne fun hkey => h ((counterKey_inj.mp hkey).imp Eq.symm Eq.symm)

theorem lookup_foldl_erase (keys : List Text) (key : Text) :
    (keys.foldl (fun lastValues key => lastValues.erase key) lastValues).lookup key =
      if key ∈ keys then none else lastValues.lookup key := by
  induction keys generalizing lastValues with
  | nil => rfl
  | cons k keys ih =>
    rw [List.foldl_cons, ih]
    by_cases hkey : key = k
    · subst hkey
      simp
    · simp [hkey, AList.lookup_erase_ne hkey]

/-- **Clearing the cache of a datasource** forgets its counters, and no other. -/
theorem last_clearCache (i : Option ℤ) :
    (clearCache lastValues i).last datasourceId metricName =
      if (Call.clearCache i).concerns datasourceId metricName then none
      else lastValues.last datasourceId metricName := by
  cases i with
  | none => rfl
  | some i =>
    rw [LastValues.last, LastValues.last, clearCache, lookup_foldl_erase]
    by_cases hmem : counterKey datasourceId metricName ∈ lastValues
    · have hkey := AList.mem_keys.mp hmem
      simp [hkey, keyPrefix_isPrefixOf, Call.concerns]
    · have hnone := AList.lookup_eq_none.mpr hmem
      simp [hnone]

/-! ## One call -/

/-- What a counter has gained since its last value. -/
def increment (last current : ℚ≥0) : ℚ := if current < last then current else current - last

theorem increment_nonneg (last current : ℚ≥0) : 0 ≤ increment last current := by
  rw [increment]
  split_ifs with h
  · exact NNRat.cast_nonneg current
  · exact sub_nonneg.mpr (NNRat.cast_le.mpr (not_lt.mp h))

theorem totalSeconds_pos {lastTime : Time} : 0 < totalSeconds timestamp lastTime ↔ lastTime < timestamp := by
  rw [totalSeconds, div_pos_iff_of_pos_right (by norm_num), Int.cast_pos]
  exact Int.sub_pos

/-- The first sample of a counter is remembered. -/
theorem calculateRate_of_none (h : lastValues.last datasourceId metricName = none) :
    calculateRate round lastValues datasourceId metricName currentValue timestamp =
      (none, lastValues.insert (counterKey datasourceId metricName) ⟨currentValue, timestamp⟩) := by
  rw [LastValues.last] at h
  simp only [calculateRate, h]

/-- A sample that is not later than the last one is forgotten. -/
theorem calculateRate_of_le (h : lastValues.last datasourceId metricName = some last)
    (hle : timestamp ≤ last.timestamp) :
    calculateRate round lastValues datasourceId metricName currentValue timestamp = (none, lastValues) := by
  have hdiff : totalSeconds timestamp last.timestamp ≤ 0 :=
    not_lt.mp fun hpos => not_lt.mpr hle (totalSeconds_pos.mp hpos)
  rw [LastValues.last] at h
  simp only [calculateRate, h, if_pos hdiff]

/-- A later sample gives a rate, and is remembered. -/
theorem calculateRate_of_lt (h : lastValues.last datasourceId metricName = some last)
    (hlt : last.timestamp < timestamp) :
    calculateRate round lastValues datasourceId metricName currentValue timestamp =
      (some (round (increment last.value currentValue / totalSeconds timestamp last.timestamp)),
        lastValues.insert (counterKey datasourceId metricName) ⟨currentValue, timestamp⟩) := by
  have hdiff : ¬ totalSeconds timestamp last.timestamp ≤ 0 := not_le.mpr (totalSeconds_pos.mpr hlt)
  have hreset : (currentValue : ℚ) - last.value < 0 ↔ currentValue < last.value := by
    rw [sub_neg, NNRat.cast_lt]
  rw [LastValues.last] at h
  simp only [calculateRate, h, if_neg hdiff, hreset, increment]

/-- A sample is for its counter only. -/
theorem last_calculateRate_of_ne {i : ℤ} {m : Text} (h : ¬ (i = datasourceId ∧ m = metricName)) :
    (calculateRate round lastValues i m currentValue timestamp).2.last datasourceId metricName =
      lastValues.last datasourceId metricName := by
  rcases hlast : lastValues.last i m with _ | last
  · rw [calculateRate_of_none hlast, last_insert, if_neg h]
  · rcases le_or_gt timestamp last.timestamp with hle | hlt
    · rw [calculateRate_of_le hlast hle]
    · rw [calculateRate_of_lt hlast hlt, last_insert, if_neg h]

/-- **A later sample is remembered.** -/
theorem last_calculateRate_of_advances (h : Advances lastValues datasourceId metricName timestamp) :
    (calculateRate round lastValues datasourceId metricName currentValue timestamp).2.last datasourceId metricName =
      some ⟨currentValue, timestamp⟩ := by
  rcases hlast : lastValues.last datasourceId metricName with _ | last
  · rw [calculateRate_of_none hlast, last_insert, if_pos ⟨rfl, rfl⟩]
  · rw [calculateRate_of_lt hlast (h last hlast), last_insert, if_pos ⟨rfl, rfl⟩]

/-- **And one that is not later leaves everything as it is.** -/
theorem calculateRate_of_not_advances (h : ¬ Advances lastValues datasourceId metricName timestamp) :
    calculateRate round lastValues datasourceId metricName currentValue timestamp = (none, lastValues) := by
  rcases hlast : lastValues.last datasourceId metricName with _ | last
  · exact absurd (fun last' h' => by rw [hlast] at h'; cases h') h
  · refine calculateRate_of_le hlast (not_lt.mp fun hlt => h fun last' h' => ?_)
    rw [← Option.some.inj (hlast.symm.trans h')]
    exact hlt

/-- **The calls about a counter see nothing else, and the other ones leave it alone.** -/
theorem separate (round : ℚ → ℚ) (datasourceId : ℤ) (metricName : Text) :
    Separate (step round) (fun lastValues => lastValues.last datasourceId metricName)
      (Call.concerns datasourceId metricName) where
  unconcerned lastValues call h := by
    cases call with
    | calculateRate i m v t => exact last_calculateRate_of_ne (of_decide_eq_false h)
    | clearCache i =>
      rw [step, last_clearCache, h]
      rfl
  answer lastValues lastValues' call h hlast := by
    cases call with
    | calculateRate i m v t =>
      obtain ⟨rfl, rfl⟩ := of_decide_eq_true h
      rcases hlast' : lastValues'.last i m with _ | last
      · rw [step, step, calculateRate_of_none hlast', calculateRate_of_none (hlast.trans hlast')]
      · rcases le_or_gt t last.timestamp with hle | hlt
        · rw [step, step, calculateRate_of_le hlast' hle, calculateRate_of_le (hlast.trans hlast') hle]
        · rw [step, step, calculateRate_of_lt hlast' hlt, calculateRate_of_lt (hlast.trans hlast') hlt]
    | clearCache i => rfl
  next lastValues lastValues' call h hlast := by
    cases call with
    | calculateRate i m v t =>
      obtain ⟨rfl, rfl⟩ := of_decide_eq_true h
      by_cases hadvances : Advances lastValues i m t
      · have hadvances' : Advances lastValues' i m t := fun last h' => hadvances last (hlast.trans h')
        exact (last_calculateRate_of_advances hadvances).trans (last_calculateRate_of_advances hadvances').symm
      · have hadvances' : ¬ Advances lastValues' i m t :=
          fun h' => hadvances fun last hmem => h' last (hlast.symm.trans hmem)
        rw [step, step, calculateRate_of_not_advances hadvances, calculateRate_of_not_advances hadvances']
        exact hlast
    | clearCache i =>
      rw [step, step, last_clearCache, last_clearCache, h]
      rfl

/-! ## What is counted -/

/-- The exact rate of a call is no less than zero. -/
theorem rate_nonneg (lastValues : LastValues) (call : Call) : ∀ rate ∈ (step id lastValues call).1, 0 ≤ rate := by
  intro rate hrate
  cases call with
  | calculateRate i m v t =>
    rw [step] at hrate
    rcases hlast : lastValues.last i m with _ | last
    · rw [calculateRate_of_none hlast] at hrate
      cases hrate
    · rcases le_or_gt t last.timestamp with hle | hlt
      · rw [calculateRate_of_le hlast hle] at hrate
        cases hrate
      · rw [calculateRate_of_lt hlast hlt] at hrate
        rw [← Option.some.inj hrate]
        exact div_nonneg (increment_nonneg _ _) (totalSeconds_pos.mpr hlt).le
  | clearCache i => cases hrate

/-- **A later sample counts what the counter has gained.** -/
theorem counted_of_lt (h : lastValues.last datasourceId metricName = some last) (hlt : last.timestamp < timestamp) :
    counted lastValues (.calculateRate datasourceId metricName currentValue timestamp) =
      increment last.value currentValue := by
  rw [counted, calculateRate_of_lt h hlt, h]
  exact div_mul_cancel₀ _ (totalSeconds_pos.mpr hlt).ne'

/-- The first sample counts nothing, and neither does one that is not later. -/
theorem counted_of_not_rate
    (h : (calculateRate id lastValues datasourceId metricName currentValue timestamp).1 = none) :
    counted lastValues (.calculateRate datasourceId metricName currentValue timestamp) = 0 := by
  rw [counted, h]
  rcases lastValues.last datasourceId metricName with _ | last <;> rfl

/-- **Over a stretch without resets the increments add up to the difference** of what is remembered. -/
theorem countedOver_eq {calls : List Call} {first : LastValue}
    (h : WithoutResets datasourceId metricName lastValues calls)
    (hfirst : lastValues.last datasourceId metricName = some first) :
    ∃ last, (after (step id) lastValues calls).last datasourceId metricName = some last ∧
      countedOver datasourceId metricName lastValues calls = last.value - first.value := by
  induction calls generalizing lastValues first with
  | nil => exact ⟨first, hfirst, (sub_self _).symm⟩
  | cons call calls ih =>
    obtain ⟨hclear, hreset, hrest⟩ := h
    rw [countedOver, after_cons]
    cases hconcerns : call.concerns datasourceId metricName with
    | false =>
      have hnext := ((separate id datasourceId metricName).unconcerned lastValues call hconcerns).trans hfirst
      obtain ⟨last, hlast, hsum⟩ := ih hrest hnext
      exact ⟨last, hlast, by rw [if_neg Bool.false_ne_true, hsum, zero_add]⟩
    | true =>
      cases call with
      | clearCache i => exact absurd hconcerns (by rw [hclear i rfl]; exact Bool.false_ne_true)
      | calculateRate i m v t =>
        obtain ⟨rfl, rfl⟩ := of_decide_eq_true hconcerns
        rw [if_pos rfl]
        rcases le_or_gt t first.timestamp with hle | hlt
        · -- the sample is forgotten, and its increment is left for the next one
          have hsame : (step id lastValues (.calculateRate i m v t)).2 = lastValues := by
            rw [step, calculateRate_of_le hfirst hle]
          rw [hsame] at hrest ⊢
          obtain ⟨last, hlast, hsum⟩ := ih hrest hfirst
          have hnone : (calculateRate id lastValues i m v t).1 = none := by rw [calculateRate_of_le hfirst hle]
          exact ⟨last, hlast, by rw [counted_of_not_rate hnone, hsum, zero_add]⟩
        · have hadvances : Advances lastValues i m t := fun last h' => by
            rw [← Option.some.inj (hfirst.symm.trans h')]
            exact hlt
          obtain ⟨last, hlast, hsum⟩ := ih hrest (last_calculateRate_of_advances hadvances)
          have hle : first.value ≤ v := hreset v t rfl first hfirst hlt
          refine ⟨last, hlast, ?_⟩
          rw [counted_of_lt hfirst hlt, hsum, increment, if_neg (not_lt.mpr hle)]
          ring

/-- **The rates of counters telescope.** No rate is negative. Over a stretch without resets, from a sample that
is later than what is remembered to another one, they count what the counter has gained. A reset counts the
current value. A sample that is not later than what is remembered loses nothing: everything goes on as if it had
not been taken. The rates of a counter are those of its own samples alone, and no other datasource is touched
when the cache of one is cleared. -/
theorem rates_telescope (datasourceId : ℤ) (metricName : Text) :
    (∀ lastValues calls, ∀ x ∈ trace (step id) lastValues calls, ∀ rate ∈ x.2, 0 ≤ rate) ∧
    (∀ lastValues (first : ℚ≥0) firstTime stretch (last : ℚ≥0) lastTime,
      Advances lastValues datasourceId metricName firstTime →
      ∀ start, start = (calculateRate id lastValues datasourceId metricName first firstTime).2 →
      Advances (after (step id) start stretch) datasourceId metricName lastTime →
      WithoutResets datasourceId metricName start
        (stretch ++ [.calculateRate datasourceId metricName last lastTime]) →
      countedOver datasourceId metricName start
        (stretch ++ [.calculateRate datasourceId metricName last lastTime]) = last - first) ∧
    (∀ (lastValues : LastValues) last value timestamp, lastValues.last datasourceId metricName = some last →
      last.timestamp < timestamp → value < last.value →
      counted lastValues (.calculateRate datasourceId metricName value timestamp) = value) ∧
    (∀ lastValues value timestamp calls, ¬ Advances lastValues datasourceId metricName timestamp →
      trace (step id) lastValues (.calculateRate datasourceId metricName value timestamp :: calls) =
        (.calculateRate datasourceId metricName value timestamp, none) :: trace (step id) lastValues calls ∧
      countedOver datasourceId metricName lastValues
          (.calculateRate datasourceId metricName value timestamp :: calls) =
        countedOver datasourceId metricName lastValues calls) ∧
    (∀ (lastValues lastValues' : LastValues) calls,
      lastValues.last datasourceId metricName = lastValues'.last datasourceId metricName →
      (trace (step id) lastValues calls).filter (fun x => x.1.concerns datasourceId metricName) =
        trace (step id) lastValues' (calls.filter (Call.concerns datasourceId metricName))) ∧
    ∀ (lastValues : LastValues) i m, i ≠ datasourceId →
      (clearCache lastValues (some datasourceId)).last i m = lastValues.last i m := by
  refine ⟨?_, ?_, ?_, ?_, ?_, ?_⟩
  · exact @forall_mem_trace _ _ _ (step id) (fun _ answer => ∀ rate ∈ answer, 0 ≤ rate) rate_nonneg
  · rintro lastValues first firstTime stretch last lastTime hfirst start rfl hlast hresets
    obtain ⟨l, hl, hsum⟩ := countedOver_eq hresets (last_calculateRate_of_advances hfirst)
    have hend : l = ⟨last, lastTime⟩ := by
      rw [after_append, after_cons, after_nil, step, last_calculateRate_of_advances hlast] at hl
      exact (Option.some.inj hl).symm
    rw [hsum, hend]
  · intro lastValues last value timestamp hlast hlt hreset
    rw [counted_of_lt hlast hlt, increment, if_pos hreset]
  · intro lastValues value timestamp calls h
    have hstep : step id lastValues (.calculateRate datasourceId metricName value timestamp) = (none, lastValues) :=
      calculateRate_of_not_advances h
    refine ⟨by rw [trace_cons, hstep], ?_⟩
    rw [countedOver, hstep, counted_of_not_rate (congrArg Prod.fst hstep), ite_self, zero_add]
  · intro lastValues lastValues' calls h
    exact (separate id datasourceId metricName).filter_trace h calls
  · intro lastValues i m hi
    rw [last_clearCache, Call.concerns, if_neg]
    exact fun heq => hi (of_decide_eq_true heq).symm

end DBClaw.CounterRates
