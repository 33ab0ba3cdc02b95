import Mathlib.Data.List.Basic

/-! # Sequences of answered openings
A sequence in which every opening is directly followed by its closing, and no closing stands elsewhere. -/

namespace DBClaw.Pairs

variable {ι : Type*}

/-- What an item of a sequence is. -/
inductive Shape (ι : Type*)
  | plain
  | opening (id : ι)
  | closing (id : ι)
  deriving DecidableEq, Repr

/-- **Every opening is directly followed by its closing**, and every closing is preceded by its opening. -/
inductive Paired : List (Shape ι) → Prop
  | nil : Paired []
  | plain {l : List (Shape ι)} : Paired l → Paired (.plain :: l)
  | pair {id : ι} {l : List (Shape ι)} : Paired l → Paired (.opening id :: .closing id :: l)

namespace Paired

variable {id : ι} {l l' before after : List (Shape ι)}

theorem append (h : Paired l) (h' : Paired l') : Paired (l ++ l') := by
  induction h with
  | nil => exact h'
  | plain _ ih => exact .plain ih
  | pair _ ih => exact .pair ih

/-- Something plain at the end. -/
theorem concat_plain (h : Paired l) : Paired (l ++ [.plain]) := h.append (.plain .nil)

/-- An opening at the end is closed. -/
theorem concat_closing (h : Paired l) : Paired (l ++ [.opening id] ++ [.closing id]) := by
  rw [List.append_assoc]
  exact h.append (.pair .nil)

/-- The first item is no closing. -/
theorem head_ne_closing (h : Paired l) : l.head? ≠ some (.closing id) := by
  cases h <;> simp

/-- What follows an opening. -/
theorem of_opening (h : Paired (before ++ .opening id :: after)) :
    ∃ rest, after = .closing id :: rest ∧ Paired rest := by
  generalize hl : before ++ .opening id :: after = l at h
  induction h generalizing before with
  | nil => simp at hl
  | plain _ ih =>
    cases before with
    | nil => cases hl
    | cons _ before => exact ih (List.cons.inj hl).2
  | @pair id' l hrest ih =>
    rcases before with _ | ⟨x, _ | ⟨y, before⟩⟩
    · obtain ⟨hid, rfl⟩ := List.cons.inj hl
      cases hid
      exact ⟨l, rfl, hrest⟩
    · cases (List.cons.inj (List.cons.inj hl).2).1
    · exact ih (List.cons.inj (List.cons.inj hl).2).2

/-- What precedes a closing. -/
theorem of_closing (h : Paired (before ++ .closing id :: after)) :
    ∃ earlier, before = earlier ++ [.opening id] := by
  generalize hl : before ++ .closing id :: after = l at h
  induction h generalizing before with
  | nil => simp at hl
  | plain _ ih =>
    cases before with
    | nil => cases hl
    | cons x before =>
      obtain ⟨earlier, rfl⟩ := ih (List.cons.inj hl).2
      exact ⟨x :: earlier, rfl⟩
  | @pair id' l _ ih =>
    rcases before with _ | ⟨x, _ | ⟨y, before⟩⟩
    · cases (List.cons.inj hl).1
    · obtain ⟨rfl, htail⟩ := List.cons.inj hl
      cases (List.cons.inj htail).1
      exact ⟨[], rfl⟩
    · obtain ⟨earlier, rfl⟩ := ih (List.cons.inj (List.cons.inj hl).2).2
      exact ⟨x :: y :: earlier, rfl⟩

/-- An opening at the end is not closed. -/
theorem not_concat_opening : ¬ Paired (l ++ [.opening id]) := by
  intro h
  obtain ⟨rest, hrest, -⟩ := h.of_opening
  cases hrest

/-- An opening is not closed by something plain. -/
theorem not_concat_opening_plain : ¬ Paired (l ++ [.opening id] ++ [.plain]) := by
  rw [List.append_assoc]
  intro h
  obtain ⟨rest, hrest, -⟩ := h.of_opening
  cases hrest

/-- An opening is closed by its own closing. -/
theorem eq_of_concat_closing {id' : ι} (h : Paired (l ++ [.opening id] ++ [.closing id'])) : id = id' := by
  obtain ⟨earlier, hearlier⟩ := h.of_closing
  cases (List.append_inj' hearlier rfl).2
  rfl

end Paired

end DBClaw.Pairs
