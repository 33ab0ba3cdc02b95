import DBClaw.Alerts.BaselineRecovery
import DBClaw.Library.Interpolation
import Mathlib.Data.List.GetD
import Mathlib.Data.List.MinMax
import Mathlib.Data.List.Sort
import Mathlib.Data.Rat.Floor
import Mathlib.Tactic.Linarith

/-! # Baseline profiles
A profile holds the statistics of the samples of one hour of the week, among them two percentiles, which
interpolate between the sorted samples. The upper bound is drawn from them with the configured ratio and delta.
`profiles_sound` says that the statistics are in order, and that the configured values are honoured unless the
delta is zero: zero is falsy, and the default of 10 stands in for it. -/

namespace DBClaw.Alerts.Baselines

open Interpolation

/-! ## Statistics -/

/-- `xs[i]`, `none` where it raises; a negative index counts from the end. -/
def pyIndex (xs : List ℚ) (i : ℤ) : Option ℚ :=
  if 0 ≤ i then xs[i.toNat]?
  else if 0 ≤ xs.length + i then xs[(xs.length + i).toNat]?
  else none

/-- `int(q)`: towards zero. -/
def pyInt (q : ℚ) : ℤ := if 0 ≤ q then ⌊q⌋ else ⌈q⌉

/-- **`_percentile`**, `none` where it raises. -/
def percentile (values : List ℚ) (ratio : ℚ) : Option (Option ℚ) :=
  match values with
  | [] => some none
  | [value] => some (some value)
  | _ => do
    let sortedValues := values.mergeSort (· ≤ ·)
    let position := ((sortedValues.length : ℚ) - 1) * ratio
    let lower := ⌊position⌋
    let upper := ⌈position⌉
    if lower = upper then
      let value ← pyIndex sortedValues (pyInt position)
      some (some value)
    else
      let lowerValue ← pyIndex sortedValues lower
      let upperValue ← pyIndex sortedValues upper
      some (some (lowerValue + (upperValue - lowerValue) * (position - lower)))

/-- The columns that `build_profile_stats` computes. -/
structure ProfileStats where
  sampleCount : ℕ := 0
  avgValue : Option ℚ := none
  minValue : Option ℚ := none
  maxValue : Option ℚ := none
  p50Value : Option ℚ := none
  p95Value : Option ℚ := none
  stddevValue : Option ℚ := none
  deriving DecidableEq, Repr

/-- **`build_profile_stats`**, for what `round(x, 4)` and `math.sqrt` do; `none` where it raises. -/
def buildProfileStats (round sqrt : ℚ → ℚ) (values : List ℚ) : Option ProfileStats :=
  match values with
  | [] => some {}
  | value :: rest => do
    let count := values.length
    let avgValue : ℚ := values.sum / count
    let variance : ℚ := if count > 1 then (values.map fun v => (v - avgValue) ^ 2).sum / count else 0
    let p50 ← percentile values (50 / 100)
    let p95 ← percentile values (95 / 100)
    some {
      sampleCount := count
      avgValue := some (round avgValue)
      minValue := some (round (rest.foldl min value))
      maxValue := some (round (rest.foldl max value))
      p50Value := some (round (p50.getD 0))
      p95Value := some (round (p95.getD 0))
      stddevValue := some (round (sqrt (max variance 0))) }

/-! ## The upper bound -/

/-- `base_value`. -/
def Profile.base (profile : Profile) : Option ℚ := profile.p95Value.or profile.avgValue

/-- `compute_upper_bound`, for what `round(x, 4)` does. -/
def upperBoundWith (round : PyFloat → PyFloat) (profile : Profile) (config : Config) : Option PyFloat :=
  profile.base.map fun base =>
    let absolute := if config.minAbsoluteDelta = .fin 0 then .fin 10 else config.minAbsoluteDelta
    round (pyMax (.fin (base * config.deviationRatio)) (plus base absolute))

/-- A rounding that keeps the order. -/
def MonotoneRounding (round : PyFloat → PyFloat) : Prop := ∀ x y : PyFloat, x.le y = true → (round x).le (round y) = true

/-- The bound of the first is there, and at most the one of the second, unless there is none. -/
def BoundLe (round : PyFloat → PyFloat) (profile profile' : Profile) (config config' : Config) : Prop :=
  ∀ x ∈ upperBoundWith round profile config, ∀ y ∈ upperBoundWith round profile' config', x.le y = true

/-- **The configured values are honoured**: the bound is the one of the configured ratio and delta, and a larger
delta gives no smaller one. -/
def Honoured (u : Unicode) (profile : Profile) (config : Config) : Prop :=
  ∀ round, MonotoneRounding round →
    upperBoundWith round profile config = profile.base.map (fun base =>
      round (pyMax (.fin (base * config.deviationRatio)) (plus base config.minAbsoluteDelta))) ∧
    ∀ payload, (normalizeBaselineConfig u payload).deviationRatio = config.deviationRatio →
      config.minAbsoluteDelta.le (normalizeBaselineConfig u payload).minAbsoluteDelta = true →
      BoundLe round profile profile config (normalizeBaselineConfig u payload)

variable {u : Unicode} {values : List ℚ} {ratio : ℚ} {x y z : PyFloat}

/-! ## Percentiles -/

/-- The sorted samples. -/
def sorted (values : List ℚ) : List ℚ := values.mergeSort (· ≤ ·)

/-- The sorted samples as a sequence: the first one before them, and the last one after them. -/
def sample (values : List ℚ) (i : ℤ) : ℚ := (sorted values).getD (min i.toNat (values.length - 1)) 0

/-- `position`. -/
def position (values : List ℚ) (ratio : ℚ) : ℚ := ((values.length : ℚ) - 1) * ratio

@[simp] theorem length_sorted (values : List ℚ) : (sorted values).length = values.length :=
  (List.mergeSort_perm values _).length_eq

theorem sorted_sorted (values : List ℚ) : (sorted values).Pairwise (· ≤ ·) := List.pairwise_mergeSort' _ _

/-- The order of the samples does not matter. -/
theorem sorted_eq_of_perm {values' : List ℚ} (h : values.Perm values') : sorted values = sorted values' := by
  have hperm : (sorted values).Perm (sorted values') :=
    (List.mergeSort_perm values _).trans (h.trans (List.mergeSort_perm values' _).symm)
  exact hperm.eq_of_pairwise' (sorted_sorted values) (sorted_sorted values')

theorem index_lt (h : values ≠ []) (i : ℤ) : min i.toNat (values.length - 1) < (sorted values).length := by
  have hpos := List.length_pos_iff.mpr h
  rw [length_sorted]
  omega

/-- The sequence of the sorted samples is monotone. -/
theorem sample_mono (h : values ≠ []) : Monotone (sample values) := by
  intro i j hij
  have hle : min i.toNat (values.length - 1) ≤ min j.toNat (values.length - 1) := by omega
  rw [sample, sample, List.getD_eq_getElem _ _ (index_lt h i), List.getD_eq_getElem _ _ (index_lt h j)]
  rcases hle.eq_or_lt with heq | hlt
  · simp only [heq, le_refl]
  · exact List.pairwise_iff_getElem.mp (sorted_sorted values) _ _ _ _ hlt

/-- Its values are samples. -/
theorem sample_mem (h : values ≠ []) (i : ℤ) : sample values i ∈ values := by
  rw [sample, List.getD_eq_getElem _ _ (index_lt h i)]
  exact (List.mergeSort_perm values _).mem_iff.mp (List.getElem_mem _)

/-- An index in range is not clamped. -/
theorem pyIndex_sorted {i : ℤ} (h0 : 0 ≤ i) (hi : i < values.length) :
    pyIndex (sorted values) i = some (sample values i) := by
  have hlt : i.toNat < (sorted values).length := by rw [length_sorted]; omega
  have hmin : min i.toNat (values.length - 1) = i.toNat := by omega
  rw [pyIndex, if_pos h0, sample, hmin, List.getElem?_eq_getElem hlt, List.getD_eq_getElem _ _ hlt]

theorem position_nonneg (h : values ≠ []) (h0 : 0 ≤ ratio) : 0 ≤ position values ratio := by
  have hlength : (1 : ℚ) ≤ values.length := by exact_mod_cast List.length_pos_iff.mpr h
  exact mul_nonneg (sub_nonneg.mpr hlength) h0

theorem position_le (h : values ≠ []) (h1 : ratio ≤ 1) : position values ratio ≤ ((values.length - 1 : ℤ) : ℚ) := by
  have hlength : (1 : ℚ) ≤ values.length := by exact_mod_cast List.length_pos_iff.mpr h
  push_cast
  exact mul_le_of_le_one_right (sub_nonneg.mpr hlength) h1

/-- **A percentile is the interpolation of the sorted samples**, and no index is out of range. -/
theorem percentile_eq (h : values ≠ []) (h0 : 0 ≤ ratio) (h1 : ratio ≤ 1) :
    percentile values ratio = some (some (interpolate (sample values) (position values ratio))) := by
  have hnonneg := position_nonneg h h0
  have hfloor : 0 ≤ ⌊position values ratio⌋ := Int.floor_nonneg.mpr hnonneg
  have hceil : ⌈position values ratio⌉ ≤ values.length - 1 := Int.ceil_le.mpr (position_le h h1)
  have hle := Int.floor_le_ceil (position values ratio)
  rcases values with _ | ⟨value, _ | ⟨value', rest⟩⟩
  · exact absurd rfl h
  · -- a single sample is the value at every position
    have hmem : ∀ i, sample [value] i = value := fun i => List.mem_singleton.mp (sample_mem h i)
    rw [interpolate, hmem, hmem, sub_self, zero_mul, add_zero]
    rfl
  · have hlower := pyIndex_sorted hfloor (hle.trans_lt (hceil.trans_lt (sub_one_lt _)))
    have hupper := pyIndex_sorted (hfloor.trans hle) (hceil.trans_lt (sub_one_lt _))
    have hint : pyInt (position (value :: value' :: rest) ratio) = ⌊position (value :: value' :: rest) ratio⌋ :=
      if_pos hnonneg
    have hposition : (((value :: value' :: rest).mergeSort (· ≤ ·)).length - 1 : ℚ) * ratio =
        position (value :: value' :: rest) ratio := by
      rw [position, List.length_mergeSort]
    rw [percentile]
    · rw [hposition, hint]
      rw [sorted] at hlower hupper
      split_ifs with hindex
      · rw [hlower, interpolate_of_floor_eq_ceil hindex]
        rfl
      · rw [hlower, hupper]
        rfl
    · rintro ⟨⟩
    · rintro v ⟨⟩

theorem percentile_mono (h : values ≠ []) {ratio' : ℚ} (hle : ratio ≤ ratio') :
    interpolate (sample values) (position values ratio) ≤ interpolate (sample values) (position values ratio') := by
  have hlength : (1 : ℚ) ≤ values.length := by exact_mod_cast List.length_pos_iff.mpr h
  exact interpolate_mono (sample_mono h) (mul_le_mul_of_nonneg_left hle (sub_nonneg.mpr hlength))

/-- A percentile is between two samples. -/
theorem percentile_between (h : values ≠ []) (ratio : ℚ) :
    (∃ v ∈ values, v ≤ interpolate (sample values) (position values ratio)) ∧
      ∃ v ∈ values, interpolate (sample values) (position values ratio) ≤ v :=
  ⟨⟨_, sample_mem h _, floor_le_interpolate (sample_mono h) _⟩,
    ⟨_, sample_mem h _, interpolate_le_ceil (sample_mono h) _⟩⟩

/-- The minimum is at most every sample. -/
theorem foldl_min_le (value : ℚ) (rest : List ℚ) : ∀ v ∈ value :: rest, rest.foldl min value ≤ v := by
  induction rest generalizing value with
  | nil => simp
  | cons w rest ih =>
    intro v hv
    rw [List.foldl_cons]
    have hhead := ih (min value w) _ List.mem_cons_self
    rcases List.mem_cons.mp hv with rfl | hv
    · exact hhead.trans (min_le_left _ _)
    · rcases List.mem_cons.mp hv with rfl | hv
      · exact hhead.trans (min_le_right _ _)
      · exact ih _ v (List.mem_cons_of_mem _ hv)

/-- And the maximum at least every one. -/
theorem le_foldl_max (value : ℚ) (rest : List ℚ) : ∀ v ∈ value :: rest, v ≤ rest.foldl max value := by
  induction rest generalizing value with
  | nil => simp
  | cons w rest ih =>
    intro v hv
    rw [List.foldl_cons]
    have hhead := ih (max value w) _ List.mem_cons_self
    rcases List.mem_cons.mp hv with rfl | hv
    · exact (le_max_left _ _).trans hhead
    · rcases List.mem_cons.mp hv with rfl | hv
      · exact (le_max_right _ _).trans hhead
      · exact ih _ v (List.mem_cons_of_mem _ hv)

/-- **The statistics of a profile are in order.** -/
theorem buildProfileStats_ordered {round : ℚ → ℚ} (hround : Monotone round) (sqrt : ℚ → ℚ) (h : values ≠ []) :
    ∃ stats, buildProfileStats round sqrt values = some stats ∧
      ∃ minimum p50 p95 maximum, stats.minValue = some minimum ∧ stats.p50Value = some p50 ∧
        stats.p95Value = some p95 ∧ stats.maxValue = some maximum ∧
        minimum ≤ p50 ∧ p50 ≤ p95 ∧ p95 ≤ maximum := by
  rcases values with _ | ⟨value, rest⟩
  · exact absurd rfl h
  · have hp50 := percentile_eq h (show (0 : ℚ) ≤ 50 / 100 by norm_num) (by norm_num)
    have hp95 := percentile_eq h (show (0 : ℚ) ≤ 95 / 100 by norm_num) (by norm_num)
    obtain ⟨low, hlow, hle⟩ := (percentile_between h (50 / 100)).1
    obtain ⟨high, hhigh, hge⟩ := (percentile_between h (95 / 100)).2
    rw [buildProfileStats, hp50, hp95]
    refine ⟨_, rfl, _, _, _, _, rfl, rfl, rfl, rfl, ?_, ?_, ?_⟩
    · exact hround ((foldl_min_le value rest low hlow).trans hle)
    · exact hround (percentile_mono h (by norm_num))
    · exact hround (hge.trans (le_foldl_max value rest high hhigh))

/-! ## The order of the bounds -/

theorem PyFloat.fin_le {p q : ℚ} : (PyFloat.fin p).le (.fin q) = true ↔ p ≤ q := by
  simp [PyFloat.le, PyFloat.lt, le_iff_lt_or_eq]

theorem PyFloat.ne_nan_of_le (h : x.le y = true) : x ≠ .nan ∧ y ≠ .nan := by
  constructor
  · rintro rfl
    simp [PyFloat.le, PyFloat.lt] at h
  · rintro rfl
    cases x <;> simp [PyFloat.le, PyFloat.lt] at h

/-- The maximum is at least the second one. -/
theorem le_pyMax_right (hx : x ≠ .nan) (hy : y ≠ .nan) : y.le (pyMax x y) = true := by
  rw [pyMax]
  split_ifs with h
  · exact PyFloat.le_refl hy
  · refine le_of_lt_or_eq ?_
    cases x <;> cases y <;> simp_all [PyFloat.lt]
    exact (le_iff_lt_or_eq.mp h).imp id id

theorem pyMax_le (hx : x.le z = true) (hy : y.le z = true) : (pyMax x y).le z = true := by
  rw [pyMax]
  split_ifs
  · exact hy
  · exact hx

/-- The maximum is monotone. -/
theorem pyMax_mono {x' y' : PyFloat} (hx : x.le x' = true) (hy : y.le y' = true) :
    (pyMax x y).le (pyMax x' y') = true := by
  have hx' := (PyFloat.ne_nan_of_le hx).2
  have hy' := (PyFloat.ne_nan_of_le hy).2
  exact pyMax_le (PyFloat.le_trans hx (le_pyMax_left hx')) (PyFloat.le_trans hy (le_pyMax_right hx' hy'))

theorem plus_mono {p q : ℚ} (hpq : p ≤ q) (h : x.le y = true) : (plus p x).le (plus q y) = true := by
  cases x <;> cases y <;> first | exact h | skip
  rw [PyFloat.fin_le] at h
  exact PyFloat.fin_le.mpr (add_le_add hpq h)

/-- A rounded number is one of the two around it. -/
theorem roundRat_between (q : ℚ) :
    (⌊q * 10000⌋ : ℚ) / 10000 ≤ roundRat q ∧ roundRat q ≤ ((⌊q * 10000⌋ : ℚ) + 1) / 10000 := by
  have hstep : (⌊q * 10000⌋ : ℚ) / 10000 ≤ ((⌊q * 10000⌋ : ℚ) + 1) / 10000 := by
    apply div_le_div_of_nonneg_right <;> linarith
  rw [roundRat]
  split_ifs
  · exact ⟨le_rfl, hstep⟩
  · exact ⟨hstep, le_rfl⟩

/-- Rounding to the nearest keeps the order. -/
theorem roundRat_mono : Monotone roundRat := by
  intro p q hpq
  have hscaled : p * 10000 ≤ q * 10000 := by linarith
  rcases (Int.floor_mono hscaled).eq_or_lt with heq | hlt
  · -- the rest decides, and the one of the larger number is larger
    have hfloor : (p * 10000).floor = (q * 10000).floor := heq
    rw [roundRat, roundRat, hfloor]
    split_ifs with hp hq hq
    · exact le_rfl
    · apply div_le_div_of_nonneg_right <;> linarith
    · refine absurd ?_ hp
      rcases hq with hq | ⟨hq, heven⟩
      · exact .inl (by linarith)
      · rcases hscaled.eq_or_lt with hsame | hbelow
        · exact .inr ⟨by linarith, heven⟩
        · exact .inl (by linarith)
    · exact le_rfl
  · have hnext : ((⌊p * 10000⌋ : ℚ) + 1) / 10000 ≤ (⌊q * 10000⌋ : ℚ) / 10000 := by
      apply div_le_div_of_nonneg_right
      · exact_mod_cast hlt
      · norm_num
    exact (roundRat_between p).2.trans (hnext.trans (roundRat_between q).1)

theorem monotoneRounding_round4 : MonotoneRounding round4 := by
  intro x y h
  cases x <;> cases y <;> first | exact h | skip
  exact PyFloat.fin_le.mpr (roundRat_mono (PyFloat.fin_le.mp h))

/-! ## The configured values -/

variable {profile profile' : Profile} {config config' : Config} {payload : Option ConfigPayload}

/-- The values of a normal form. -/
theorem normal_values (u : Unicode) (payload : Option ConfigPayload) :
    0 < (normalizeBaselineConfig u payload).deviationRatio ∧
      (PyFloat.fin 0).le (normalizeBaselineConfig u payload).minAbsoluteDelta = true := by
  rw [normalizeBaselineConfig]
  constructor
  · rcases (payload.getD {}).deviationRatio with _ | ratio
    · show (0 : ℚ) < 135 / 100
      norm_num
    · show 0 < clampRatio ratio
      cases ratio <;> simp [clampRatio]
  · rcases (payload.getD {}).minAbsoluteDelta with _ | delta
    · exact PyFloat.fin_le.mpr (by norm_num)
    · exact le_pyMax_left (by rintro ⟨⟩)

/-- The delta that the bound is drawn with. -/
def Config.effectiveDelta (config : Config) : PyFloat :=
  if config.minAbsoluteDelta = .fin 0 then .fin 10 else config.minAbsoluteDelta

theorem upperBoundWith_of_base {round : PyFloat → PyFloat} {base : ℚ} (h : profile.base = some base) :
    upperBoundWith round profile config =
      some (round (pyMax (.fin (base * config.deviationRatio)) (plus base config.effectiveDelta))) := by
  rw [upperBoundWith, h]
  rfl

theorem boundLe_of_le {round : PyFloat → PyFloat} (hround : MonotoneRounding round)
    (h : ∀ base ∈ profile.base, ∀ base' ∈ profile'.base,
      base * config.deviationRatio ≤ base' * config'.deviationRatio ∧
      (plus base config.effectiveDelta).le (plus base' config'.effectiveDelta) = true) :
    BoundLe round profile profile' config config' := by
  intro x hx y hy
  rcases hbase : profile.base with _ | base
  · rw [upperBoundWith, hbase] at hx
    cases hx
  · rcases hbase' : profile'.base with _ | base'
    · rw [upperBoundWith, hbase'] at hy
      cases hy
    · obtain ⟨hratio, hdelta⟩ := h base hbase base' hbase'
      rw [upperBoundWith_of_base hbase] at hx
      rw [upperBoundWith_of_base hbase'] at hy
      rw [← Option.some.inj hx, ← Option.some.inj hy]
      exact hround _ _ (pyMax_mono (PyFloat.fin_le.mpr hratio) hdelta)

theorem effectiveDelta_of_ne (h : config.minAbsoluteDelta ≠ .fin 0) :
    config.effectiveDelta = config.minAbsoluteDelta := if_neg h

/-- A delta that is at least another one is zero only if that is. -/
theorem ne_zero_of_le (h0 : (PyFloat.fin 0).le x = true) (hx : x ≠ .fin 0) (h : x.le y = true) : y ≠ .fin 0 := by
  rintro rfl
  cases x with
  | fin q =>
    rw [PyFloat.fin_le] at h0 h
    exact hx (congrArg _ (le_antisymm h h0))
  | nan | negInf | posInf => simp [PyFloat.le, PyFloat.lt] at h0 h

theorem pyMax_fin_of_le {p q : ℚ} (h : q ≤ p) : pyMax (.fin p) (.fin q) = .fin p := by
  rw [pyMax, PyFloat.lt, if_neg]
  simpa using h

theorem pyMax_fin_of_lt {p q : ℚ} (h : p < q) : pyMax (.fin p) (.fin q) = .fin q := by
  rw [pyMax, PyFloat.lt, if_pos (decide_eq_true h)]

/-- Where the ratio gives at least a margin of 10, a delta of zero makes no difference. -/
theorem honoured_of_margin {base : ℚ} (hbase : profile.base = some base) (hzero : config.minAbsoluteDelta = .fin 0)
    (hmargin : base + 10 ≤ base * config.deviationRatio) : Honoured u profile config := by
  intro round hround
  have heffective : config.effectiveDelta = .fin 10 := if_pos hzero
  have hbound : pyMax (.fin (base * config.deviationRatio)) (plus base config.effectiveDelta) =
      .fin (base * config.deviationRatio) := by
    rw [heffective]
    exact pyMax_fin_of_le hmargin
  refine ⟨?_, fun payload hratio _ => ?_⟩
  · rw [upperBoundWith_of_base hbase, hbound, hbase, Option.map_some, hzero]
    exact congrArg (some ∘ round) (pyMax_fin_of_le (by linarith)).symm
  · intro x hx y hy
    rw [upperBoundWith_of_base hbase] at hx hy
    rw [← Option.some.inj hx, ← Option.some.inj hy, hbound, hratio]
    exact hround _ _ (le_pyMax_left (by rintro ⟨⟩))

/-- A delta other than zero is honoured. -/
theorem honoured_of_ne_zero (hnonneg : (PyFloat.fin 0).le config.minAbsoluteDelta = true)
    (hdelta : config.minAbsoluteDelta ≠ .fin 0) : Honoured u profile config := by
  intro round hround
  refine ⟨?_, fun payload hratio hle => boundLe_of_le hround fun base hbase base' hbase' => ?_⟩
  · rcases hbase : profile.base with _ | base
    · rw [upperBoundWith, hbase]
      rfl
    · rw [upperBoundWith_of_base hbase, effectiveDelta_of_ne hdelta]
      rfl
  · obtain rfl : base = base' := Option.some.inj (hbase.symm.trans hbase')
    rw [hratio, effectiveDelta_of_ne hdelta, effectiveDelta_of_ne (ne_zero_of_le hnonneg hdelta hle)]
    exact ⟨le_rfl, plus_mono le_rfl hle⟩

/-- **The configured values are honoured unless the delta is zero** and the ratio gives a margin of less than
the default of 10. -/
theorem honoured_iff (hnonneg : (PyFloat.fin 0).le config.minAbsoluteDelta = true) :
    Honoured u profile config ↔
      ∀ base ∈ profile.base, config.minAbsoluteDelta = .fin 0 → base + 10 ≤ base * config.deviationRatio := by
  constructor
  · intro h base hbase hzero
    by_contra hmargin
    have hid : MonotoneRounding id := fun x y hxy => hxy
    have hbound := (h id hid).1
    have heffective : config.effectiveDelta = .fin 10 := if_pos hzero
    rw [upperBoundWith_of_base hbase, hbase, Option.map_some, heffective, hzero] at hbound
    have hmax := Option.some.inj hbound
    rw [id, id, plus, plus, pyMax_fin_of_lt (not_le.mp hmargin)] at hmax
    -- the bound with a delta of zero is one of two smaller numbers
    rcases le_or_gt (base + 0) (base * config.deviationRatio) with hle | hlt
    · rw [pyMax_fin_of_le hle] at hmax
      exact hmargin (PyFloat.fin.inj hmax).le
    · rw [pyMax_fin_of_lt hlt] at hmax
      linarith [PyFloat.fin.inj hmax]
  · intro h
    by_cases hzero : config.minAbsoluteDelta = .fin 0
    · rcases hbase : profile.base with _ | base
      · intro round hround
        refine ⟨by rw [upperBoundWith, hbase]; rfl, fun payload _ _ x hx => ?_⟩
        rw [upperBoundWith, hbase] at hx
        cases hx
      · exact honoured_of_margin hbase hzero (h base hbase hzero)
    · exact honoured_of_ne_zero hnonneg hzero

/-- A larger base gives no smaller bound. -/
theorem boundLe_of_base {round : PyFloat → PyFloat} (hround : MonotoneRounding round)
    (h : ∀ base ∈ profile.base, ∀ base' ∈ profile'.base, base ≤ base') :
    BoundLe round profile profile' (normalizeBaselineConfig u payload) (normalizeBaselineConfig u payload) := by
  refine boundLe_of_le hround fun base hbase base' hbase' => ?_
  have hle := h base hbase base' hbase'
  have hdelta : (normalizeBaselineConfig u payload).effectiveDelta.le
      (normalizeBaselineConfig u payload).effectiveDelta = true := by
    apply PyFloat.le_refl
    rw [Config.effectiveDelta]
    split_ifs
    · rintro ⟨⟩
    · exact minAbsoluteDelta_ne_nan payload
  exact ⟨mul_le_mul_of_nonneg_right hle (normal_values u payload).1.le, plus_mono hle hdelta⟩

/-- And so does a larger ratio, of a base that is not negative. -/
theorem boundLe_of_ratio {round : PyFloat → PyFloat} {payload' : Option ConfigPayload}
    (hround : MonotoneRounding round) (hbase : ∀ base ∈ profile.base, 0 ≤ base)
    (hdelta : (normalizeBaselineConfig u payload).minAbsoluteDelta =
      (normalizeBaselineConfig u payload').minAbsoluteDelta)
    (hratio : (normalizeBaselineConfig u payload).deviationRatio ≤
      (normalizeBaselineConfig u payload').deviationRatio) :
    BoundLe round profile profile (normalizeBaselineConfig u payload) (normalizeBaselineConfig u payload') := by
  refine boundLe_of_le hround fun base hmem base' hmem' => ?_
  obtain rfl : base = base' := Option.some.inj (hmem.symm.trans hmem')
  have hsame : (normalizeBaselineConfig u payload).effectiveDelta =
      (normalizeBaselineConfig u payload').effectiveDelta := by
    rw [Config.effectiveDelta, Config.effectiveDelta, hdelta]
  refine ⟨mul_le_mul_of_nonneg_left hratio (hbase base hmem), ?_⟩
  rw [← hsame]
  apply plus_mono le_rfl
  apply PyFloat.le_refl
  rw [Config.effectiveDelta]
  split_ifs
  · rintro ⟨⟩
  · exact minAbsoluteDelta_ne_nan payload

/-- **Baseline profiles.** A percentile of samples is there, does not depend on their order, grows with the ratio
and is between two of them, and the statistics are in order. The bound grows with the base and the ratio. It is the
configured one, and grows with the delta, exactly unless the delta is zero and the ratio gives a margin of less
than 10. -/
theorem profiles_sound (u : Unicode) :
    (∀ values ratio, values ≠ [] → 0 ≤ ratio → ratio ≤ 1 →
      ∃ q, percentile values ratio = some (some q) ∧
        (∀ values', values.Perm values' → percentile values' ratio = some (some q)) ∧
        (∀ ratio', ratio ≤ ratio' → ratio' ≤ 1 → ∃ q', percentile values ratio' = some (some q') ∧ q ≤ q') ∧
        (∃ v ∈ values, v ≤ q) ∧ ∃ v ∈ values, q ≤ v) ∧
    (∀ round sqrt values, Monotone round → values ≠ [] →
      ∃ stats, buildProfileStats round sqrt values = some stats ∧
        ∃ minimum p50 p95 maximum, stats.minValue = some minimum ∧ stats.p50Value = some p50 ∧
          stats.p95Value = some p95 ∧ stats.maxValue = some maximum ∧
          minimum ≤ p50 ∧ p50 ≤ p95 ∧ p95 ≤ maximum) ∧
    (∀ round, MonotoneRounding round → ∀ payload profile profile',
      (∀ base ∈ profile.base, ∀ base' ∈ profile'.base, base ≤ base') →
      BoundLe round profile profile' (normalizeBaselineConfig u payload) (normalizeBaselineConfig u payload)) ∧
    (∀ round, MonotoneRounding round → ∀ profile payload payload', (∀ base ∈ profile.base, 0 ≤ base) →
      (normalizeBaselineConfig u payload).minAbsoluteDelta = (normalizeBaselineConfig u payload').minAbsoluteDelta →
      (normalizeBaselineConfig u payload).deviationRatio ≤ (normalizeBaselineConfig u payload').deviationRatio →
      BoundLe round profile profile (normalizeBaselineConfig u payload) (normalizeBaselineConfig u payload')) ∧
    ∀ profile payload, Honoured u profile (normalizeBaselineConfig u payload) ↔
      ∀ base ∈ profile.base, (normalizeBaselineConfig u payload).minAbsoluteDelta = .fin 0 →
        base + 10 ≤ base * (normalizeBaselineConfig u payload).deviationRatio := by
  refine ⟨?_, ?_, ?_, ?_, ?_⟩
  · intro values ratio h h0 h1
    refine ⟨_, percentile_eq h h0 h1, fun values' hperm => ?_, fun ratio' hle h1' => ?_, percentile_between h ratio⟩
    · have h' : values' ≠ [] := by
        rintro rfl
        exact h hperm.eq_nil
      have hsample : sample values' = sample values := by
        funext i
        rw [sample, sample, sorted_eq_of_perm hperm, hperm.length_eq]
      rw [percentile_eq h' h0 h1, hsample, position, position, hperm.length_eq]
    · exact ⟨_, percentile_eq h (h0.trans hle) h1', percentile_mono h hle⟩
  · exact fun round sqrt values hround h => buildProfileStats_ordered hround sqrt h
  · exact fun round hround payload profile profile' h => boundLe_of_base hround h
  · exact fun round hround profile payload payload' hbase hdelta hratio => boundLe_of_ratio hround hbase hdelta hratio
  · exact fun profile payload => honoured_iff (normal_values u payload).2

/-! ## A delta of zero -/

/-- A configuration with a delta of zero. -/
def noDelta : ConfigPayload := { minAbsoluteDelta := some (.fin 0) }

/-- A profile with a 95th percentile of 20. -/
def calmProfile : Profile := { weekday := 0, hour := 0, sampleCount := 24, p95Value := some 20 }

/-- **A delta of zero is not honoured**: the bound is 30 instead of 27. -/
theorem noDelta_not_honoured :
    computeUpperBound calmProfile (normalizeBaselineConfig .asciiOnly (some noDelta)) = some (.fin 30) ∧
      ¬ ∀ profile payload, Honoured .asciiOnly profile (normalizeBaselineConfig .asciiOnly payload) := by
  refine ⟨by with_unfolding_all decide, fun h => ?_⟩
  have hbound := (h calmProfile (some noDelta) round4 monotoneRounding_round4).1
  revert hbound
  with_unfolding_all decide

end DBClaw.Alerts.Baselines
