import Mathlib.Data.List.Basic

/-! # Walks with effects
A walk visits the items of a list in their order. Each visit has effects, in an order, and a result, or it
raises; then the walk raises too, and what comes after has no visit. -/

namespace DBClaw.Walks

variable {α β ε : Type*} {visit : α → List ε × Option β}

/-- **The walk** over a list: the effects of the visits, and their results unless one of them raises. -/
def walk (visit : α → List ε × Option β) : List α → List ε × Option (List β)
  | [] => ([], some [])
  | a :: rest =>
    match (visit a).2 with
    | none => ((visit a).1, none)
    | some result => ((visit a).1 ++ (walk visit rest).1, (walk visit rest).2.map (result :: ·))

@[simp] theorem walk_nil : walk visit [] = ([], some []) := rfl

/-- A visit that raises ends the walk. -/
theorem walk_cons_of_none {a : α} {rest : List α} (h : (visit a).2 = none) :
    walk visit (a :: rest) = ((visit a).1, none) := by
  rw [walk, h]

/-- A visit that returns lets the walk go on. -/
theorem walk_cons_of_some {a : α} {rest : List α} {result : β} (h : (visit a).2 = some result) :
    walk visit (a :: rest) =
      ((visit a).1 ++ (walk visit rest).1, (walk visit rest).2.map (result :: ·)) := by
  rw [walk, h]

/-- A walk returns just if every visit does. -/
theorem walk_isSome {l : List α} : (walk visit l).2.isSome ↔ ∀ a ∈ l, (visit a).2.isSome := by
  induction l with
  | nil => simp
  | cons a rest ih =>
    rw [List.forall_mem_cons, ← ih]
    cases h : (visit a).2 with
    | none => simp [walk_cons_of_none h]
    | some result => simp [walk_cons_of_some h]

/-- **Walking on**: the walk over a list and one more item. -/
theorem walk_concat_fst (l : List α) (a : α) : (walk visit (l ++ [a])).1 =
    (walk visit l).1 ++ if (walk visit l).2.isSome then (visit a).1 else [] := by
  induction l with
  | nil =>
    cases h : (visit a).2 with
    | none => simp [walk_cons_of_none h]
    | some result => simp [walk_cons_of_some h]
  | cons b rest ih =>
    rw [List.cons_append]
    cases h : (visit b).2 with
    | none => simp [walk_cons_of_none h]
    | some result =>
      rw [walk_cons_of_some h, walk_cons_of_some h, ih, Option.isSome_map, List.append_assoc]

end DBClaw.Walks
