import Mathlib.Data.Nat.Notation
import Mathlib.Logic.Relation

/-! # Wait-for graphs
Who waits for whom is a relation, and nobody waits for ever if it has no cycle. When one item turns to wait for
others, the relation stays without cycles iff none of them waits, through any number of others, for the item
itself. -/

namespace DBClaw.WaitFor

open Relation

variable {α : Type*} {r r' : α → α → Prop} {e a b : α}

/-- Nothing is related to itself, through any number of others. -/
def Acyclic (r : α → α → Prop) : Prop := ∀ a, ¬ TransGen r a a

/-- Nothing is related to itself where what is related has a lower rank. -/
theorem Acyclic.of_rank (rank : α → ℕ) (h : ∀ a b, r a b → rank b < rank a) : Acyclic r := by
  have hpath {a b : α} (hr : TransGen r a b) : rank b < rank a := by
    induction hr with
    | single hab => exact h _ _ hab
    | tail _ hcb ih => exact Nat.lt_trans (h _ _ hcb) ih
  exact fun a hcycle => Nat.lt_irrefl _ (hpath hcycle)

/-- The relations are the same but for what this item is related to. -/
def SameBut (e : α) (r r' : α → α → Prop) : Prop := ∀ a, a ≠ e → ∀ b, r' a b ↔ r a b

theorem SameBut.symm (h : SameBut e r r') : SameBut e r' r := fun a ha b => (h a ha b).symm

/-- What leads to the item does so in both. -/
theorem SameBut.reaches (h : SameBut e r r') (hr : ReflTransGen r a e) : ReflTransGen r' a e := by
  induction hr using ReflTransGen.head_induction_on with
  | refl => exact .refl
  | @head a c hac _ ih =>
    by_cases ha : a = e
    · rw [ha]
    · exact .head ((h a ha c).mpr hac) ih

/-- A path in the one is a path in the other, or it goes through the item. -/
theorem SameBut.path_cases (h : SameBut e r r') (hr : TransGen r' a b) :
    TransGen r a b ∨ ∃ g, r' e g ∧ ReflTransGen r' a e ∧ ReflTransGen r' g b := by
  induction hr with
  | @single b hab =>
    by_cases ha : a = e
    · subst ha
      exact .inr ⟨b, hab, .refl, .refl⟩
    · exact .inl (.single ((h a ha b).mp hab))
  | @tail c b hac hcb ih =>
    obtain hpath | ⟨g, heg, hae, hgc⟩ := ih
    · by_cases hc : c = e
      · subst hc
        exact .inr ⟨b, hcb, hac.to_reflTransGen, .refl⟩
      · exact .inl (hpath.tail ((h c hc b).mp hcb))
    · exact .inr ⟨g, heg, hae, hgc.tail hcb⟩

/-- **A relation stays without cycles** iff nothing that the item is newly related to leads back to it. -/
theorem SameBut.acyclic_iff (h : SameBut e r r') (hr : Acyclic r) :
    Acyclic r' ↔ ∀ g, r' e g → ¬ ReflTransGen r g e := by
  constructor
  · intro hr' g heg hge
    exact hr' e (TransGen.head' heg (h.reaches hge))
  · intro hnot a hcycle
    obtain hcycle | ⟨g, heg, hae, hga⟩ := h.path_cases hcycle
    · exact hr a hcycle
    · exact hnot g heg (h.symm.reaches (hga.trans hae))

end DBClaw.WaitFor
