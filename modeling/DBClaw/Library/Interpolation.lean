import Mathlib

/-! # Linear interpolation
A sequence is interpolated between two neighbouring indices. The interpolation of a monotone sequence is monotone,
and lies between the values around it. -/

namespace DBClaw.Interpolation

variable {α : Type*} [Field α] [LinearOrder α] [IsStrictOrderedRing α] [FloorRing α] {f : ℤ → α} {s t : α}

/-- The value of a sequence at a position between its indices. -/
def interpolate (f : ℤ → α) (t : α) : α := f ⌊t⌋ + (f ⌈t⌉ - f ⌊t⌋) * (t - ⌊t⌋)

omit [IsStrictOrderedRing α] in
/-- At an index it is the value of the sequence. -/
theorem interpolate_of_floor_eq_ceil (h : ⌊t⌋ = ⌈t⌉) : interpolate f t = f ⌊t⌋ := by
  rw [interpolate, ← h, sub_self, zero_mul, add_zero]

/-- The interpolation is at least the value at the index before it. -/
theorem floor_le_interpolate (hf : Monotone f) (t : α) : f ⌊t⌋ ≤ interpolate f t := by
  have hvalues : 0 ≤ f ⌈t⌉ - f ⌊t⌋ := sub_nonneg.mpr (hf (Int.floor_le_ceil t))
  have hpart : 0 ≤ t - ⌊t⌋ := Int.fract_nonneg t
  exact le_add_of_nonneg_right (mul_nonneg hvalues hpart)

/-- And at most the value at the index after it. -/
theorem interpolate_le_ceil (hf : Monotone f) (t : α) : interpolate f t ≤ f ⌈t⌉ := by
  have hvalues : 0 ≤ f ⌈t⌉ - f ⌊t⌋ := sub_nonneg.mpr (hf (Int.floor_le_ceil t))
  have hpart : t - ⌊t⌋ ≤ 1 := (Int.fract_lt_one t).le
  calc interpolate f t ≤ f ⌊t⌋ + (f ⌈t⌉ - f ⌊t⌋) * 1 := by
        rw [interpolate]
        exact add_le_add_right (mul_le_mul_of_nonneg_left hpart hvalues) _
    _ = f ⌈t⌉ := by ring

/-- **The interpolation of a monotone sequence is monotone.** -/
theorem interpolate_mono (hf : Monotone f) : Monotone (interpolate f) := by
  intro s t hst
  rcases (Int.floor_mono hst).eq_or_lt with hfloor | hfloor
  · rcases (Int.ceil_mono hst).eq_or_lt with hceil | hceil
    · -- both are on one segment
      have hvalues : 0 ≤ f ⌈t⌉ - f ⌊t⌋ := sub_nonneg.mpr (hf (Int.floor_le_ceil t))
      rw [interpolate, interpolate, hfloor, hceil]
      exact add_le_add_right (mul_le_mul_of_nonneg_left (sub_le_sub_right hst _) hvalues) _
    · -- the first one is at the index itself
      have hindex : ⌊s⌋ = ⌈s⌉ := by
        have := Int.ceil_le_floor_add_one t
        have := Int.floor_le_ceil s
        omega
      rw [interpolate_of_floor_eq_ceil hindex, hfloor]
      exact floor_le_interpolate hf t
  · have hceil : ⌈s⌉ ≤ ⌊t⌋ := (Int.ceil_le_floor_add_one s).trans hfloor
    exact (interpolate_le_ceil hf s).trans ((hf hceil).trans (floor_le_interpolate hf t))

end DBClaw.Interpolation
