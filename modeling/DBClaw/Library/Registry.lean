import Mathlib.Logic.Function.Basic

/-! # Registries
A registry is a table by which whoever knows a key finds what runs under it. It is right when all that runs
stands in it, and then no two items run under one key. Entries are written and removed by their key, whoever
they belong to; `Registered.write_iff` says when this leaves a registry right. -/

namespace DBClaw.Registries

variable {ι κ : Type*} {table : κ → Option ι} {key key' : ι → Option κ} {i j : ι} {k : κ}

/-- **All that runs is registered**: an item that runs under a key stands in the table there. -/
def Registered (table : κ → Option ι) (key : ι → Option κ) : Prop := ∀ i k, key i = some k → table k = some i

/-- So no two run under one key. -/
theorem Registered.unique (h : Registered table key) (hi : key i = some k) (hj : key j = some k) : i = j :=
  Option.some.inj ((h i k hi).symm.trans (h j k hj))

/-- Less runs. -/
theorem Registered.mono (h : Registered table key) (hle : ∀ i k, key' i = some k → key i = some k) :
    Registered table key' :=
  fun i k hi => h i k (hle i k hi)

variable [DecidableEq κ]

/-- **An entry is written or removed**: the registry stays right iff what runs there is what is written. -/
theorem Registered.write_iff (h : Registered table key) {entry : Option ι} :
    Registered (Function.update table k entry) key ↔ ∀ j, key j = some k → entry = some j := by
  constructor
  · intro h' j hj
    have hentry := h' j k hj
    rwa [Function.update_self] at hentry
  · intro hentry i k' hi
    by_cases hk : k' = k
    · subst hk
      rw [Function.update_self]
      exact hentry i hi
    · rw [Function.update_of_ne hk]
      exact h i k' hi

variable [DecidableEq ι]

/-- **An item enters** and writes its entry: this is right iff nothing runs under its key. -/
theorem Registered.enter_iff (h : Registered table key) (hi : key i = none) :
    Registered (Function.update table k (some i)) (Function.update key i (some k)) ↔ ∀ j, key j ≠ some k := by
  constructor
  · intro h' j hj
    have hne : j ≠ i := by
      rintro rfl
      rw [hi] at hj
      cases hj
    have hkey : Function.update key i (some k) j = some k := by rw [Function.update_of_ne hne, hj]
    exact hne (h'.unique hkey (Function.update_self ..))
  · intro hfree j k' hj
    by_cases hne : j = i
    · subst hne
      rw [Function.update_self] at hj
      obtain rfl := Option.some.inj hj
      exact Function.update_self ..
    · rw [Function.update_of_ne hne] at hj
      have hk : k' ≠ k := by
        rintro rfl
        exact hfree j hj
      rw [Function.update_of_ne hk]
      exact h j k' hj

/-- **An item leaves** and removes its entry: this is right whoever the entry belongs to, as nothing else
runs under the key. -/
theorem Registered.leave (h : Registered table key) (hi : key i = some k) :
    Registered (Function.update table k none) (Function.update key i none) := by
  intro j k' hj
  have hne : j ≠ i := by
    rintro rfl
    rw [Function.update_self] at hj
    cases hj
  rw [Function.update_of_ne hne] at hj
  have hk : k' ≠ k := by
    rintro rfl
    exact hne (h.unique hj hi)
  rw [Function.update_of_ne hk]
  exact h j k' hj

end DBClaw.Registries
