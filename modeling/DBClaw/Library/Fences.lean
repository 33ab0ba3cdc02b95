import Mathlib

/-! # Fenced blocks
In a list some items are fences. A fence opens a block, and the next one closes it; a block that is open at the end of
the list has no closing fence. The laws say what becomes of the blocks when lists are joined, mapped, or continued by
one item. -/

namespace DBClaw.Fences

variable {α β : Type*}

/-- A block: its fences and what stands between them. -/
@[ext] structure Fenced (α : Type*) where
  opening : α
  content : List α
  closing : Option α

/-- A block of other items. -/
def Fenced.map (f : α → β) (b : Fenced α) : Fenced β where
  opening := f b.opening
  content := b.content.map f
  closing := b.closing.map f

/-- The items of a block, with its fences. -/
def Fenced.items (b : Fenced α) : List α := b.opening :: b.content ++ b.closing.toList

/-- The block has a closing fence. -/
def Fenced.IsClosed (b : Fenced α) : Prop := b.closing.isSome = true

variable (isFence : α → Bool)

/-- The blocks of a list that continues an open block, if there is one. -/
def blocksFrom : Option (α × List α) → List α → List (Fenced α)
  | none, [] => []
  | some (f, c), [] => [⟨f, c, none⟩]
  | none, a :: l => if isFence a then blocksFrom (some (a, [])) l else blocksFrom none l
  | some (f, c), a :: l =>
    if isFence a then ⟨f, c, some a⟩ :: blocksFrom none l else blocksFrom (some (f, c ++ [a])) l

/-- **The fenced blocks of a list.** -/
def fencedBlocks (l : List α) : List (Fenced α) := blocksFrom isFence none l

/-- Every block of the list is closed. -/
def Balanced (l : List α) : Prop := ∀ b ∈ fencedBlocks isFence l, b.IsClosed

variable {isFence} {st : Option (α × List α)} {l l' : List α} {a f : α} {c : List α}

theorem blocksFrom_none_fence (h : isFence a = true) :
    blocksFrom isFence none (a :: l) = blocksFrom isFence (some (a, [])) l := if_pos h

theorem blocksFrom_none_plain (h : isFence a = false) :
    blocksFrom isFence none (a :: l) = blocksFrom isFence none l := by
  rw [blocksFrom, h]
  exact if_neg Bool.false_ne_true

theorem blocksFrom_some_fence (h : isFence a = true) :
    blocksFrom isFence (some (f, c)) (a :: l) = ⟨f, c, some a⟩ :: blocksFrom isFence none l := if_pos h

theorem blocksFrom_some_plain (h : isFence a = false) :
    blocksFrom isFence (some (f, c)) (a :: l) = blocksFrom isFence (some (f, c ++ [a])) l := by
  rw [blocksFrom, h]
  exact if_neg Bool.false_ne_true

/-- Lists are joined after one whose blocks are closed, also when it continues an open block. -/
theorem blocksFrom_append (h : ∀ b ∈ blocksFrom isFence st l, b.IsClosed) (l' : List α) :
    blocksFrom isFence st (l ++ l') = blocksFrom isFence st l ++ blocksFrom isFence none l' := by
  induction l generalizing st with
  | nil =>
    cases st with
    | none => rfl
    | some openBlock =>
      obtain ⟨f, c⟩ := openBlock
      have hclosed := h ⟨f, c, none⟩ (List.mem_singleton_self _)
      cases hclosed
  | cons a l ih =>
    rw [List.cons_append]
    cases st with
    | none =>
      cases ha : isFence a with
      | true =>
        rw [blocksFrom_none_fence ha] at h ⊢
        rw [blocksFrom_none_fence ha]
        exact ih h
      | false =>
        rw [blocksFrom_none_plain ha] at h ⊢
        rw [blocksFrom_none_plain ha]
        exact ih h
    | some openBlock =>
      obtain ⟨f, c⟩ := openBlock
      cases ha : isFence a with
      | true =>
        rw [blocksFrom_some_fence ha] at h ⊢
        rw [blocksFrom_some_fence ha, List.cons_append, ih fun b hb => h b (List.mem_cons_of_mem _ hb)]
      | false =>
        rw [blocksFrom_some_plain ha] at h ⊢
        rw [blocksFrom_some_plain ha]
        exact ih h

/-- **Lists are joined** after a list whose blocks are closed. -/
theorem fencedBlocks_append (h : Balanced isFence l) (l' : List α) :
    fencedBlocks isFence (l ++ l') = fencedBlocks isFence l ++ fencedBlocks isFence l' := blocksFrom_append h l'

theorem Balanced.append (h : Balanced isFence l) (h' : Balanced isFence l') : Balanced isFence (l ++ l') := by
  intro b hb
  rw [fencedBlocks_append h] at hb
  rcases List.mem_append.mp hb with hb | hb
  · exact h b hb
  · exact h' b hb

/-- A list without fences has no blocks. -/
theorem fencedBlocks_eq_nil (h : ∀ a ∈ l, isFence a = false) : fencedBlocks isFence l = [] := by
  induction l with
  | nil => rfl
  | cons a l ih =>
    rw [List.forall_mem_cons] at h
    exact (blocksFrom_none_plain h.1).trans (ih h.2)

theorem balanced_of_forall (h : ∀ a ∈ l, isFence a = false) : Balanced isFence l := by
  intro b hb
  rw [fencedBlocks_eq_nil h] at hb
  cases hb

/-- Items without fences belong to the open block. -/
theorem blocksFrom_some_append (h : ∀ a ∈ l, isFence a = false) (l' : List α) :
    blocksFrom isFence (some (f, c)) (l ++ l') = blocksFrom isFence (some (f, c ++ l)) l' := by
  induction l generalizing c with
  | nil => rw [List.nil_append, List.append_nil]
  | cons a l ih =>
    rw [List.forall_mem_cons] at h
    rw [List.cons_append, blocksFrom_some_plain h.1, ih h.2, List.append_assoc, List.singleton_append]

/-- **The items of one block** have it as their only block. -/
theorem fencedBlocks_items {b : Fenced α} (hopening : isFence b.opening = true)
    (hcontent : ∀ a ∈ b.content, isFence a = false) (hclosing : ∀ a ∈ b.closing, isFence a = true) :
    fencedBlocks isFence b.items = [b] := by
  rw [fencedBlocks, Fenced.items, List.cons_append, blocksFrom_none_fence hopening, blocksFrom_some_append hcontent,
    List.nil_append]
  obtain ⟨opening, content, closing⟩ := b
  cases closing with
  | none => rfl
  | some g =>
    rw [Option.toList_some, blocksFrom_some_fence (hclosing g rfl)]
    rfl

/-- The block is made of fences, of what is none, and of items of a list. -/
structure Fenced.IsFrom (isFence : α → Bool) (l : List α) (b : Fenced α) : Prop where
  opening : isFence b.opening = true
  content : ∀ a ∈ b.content, isFence a = false
  closing : ∀ a ∈ b.closing, isFence a = true
  items : b.items ⊆ l

theorem isFrom_of_mem_blocksFrom {b : Fenced α} (hf : ∀ p ∈ st, isFence p.1 = true)
    (hc : ∀ p ∈ st, ∀ a ∈ p.2, isFence a = false) (hb : b ∈ blocksFrom isFence st l) :
    b.IsFrom isFence (st.elim [] (fun p => p.1 :: p.2) ++ l) := by
  induction l generalizing st with
  | nil =>
    cases st with
    | none => cases hb
    | some p =>
      obtain ⟨f, c⟩ := p
      rw [List.mem_singleton.mp hb]
      exact ⟨hf _ rfl, hc _ rfl, fun _ h => (by cases h), List.Subset.refl _⟩
  | cons a l ih =>
    cases st with
    | none =>
      cases ha : isFence a with
      | true =>
        rw [blocksFrom_none_fence ha] at hb
        refine ih ?_ ?_ hb
        · rintro p hp
          rw [← Option.some.inj hp]
          exact ha
        · rintro p hp
          rw [← Option.some.inj hp]
          exact List.forall_mem_nil _
      | false =>
        rw [blocksFrom_none_plain ha] at hb
        obtain ⟨hopening, hcontent, hclosing, hitems⟩ := ih (fun _ h => by cases h) (fun _ h => by cases h) hb
        exact ⟨hopening, hcontent, hclosing, fun x hx => List.mem_cons_of_mem a (hitems hx)⟩
    | some p =>
      obtain ⟨f, c⟩ := p
      cases ha : isFence a with
      | true =>
        rw [blocksFrom_some_fence ha] at hb
        rcases List.mem_cons.mp hb with rfl | hb
        · refine ⟨hf _ rfl, hc _ rfl, fun x hx => ?_, fun x hx => ?_⟩
          · rwa [← Option.some.inj hx]
          · rw [Option.elim_some, List.append_cons]
            exact List.mem_append_left l hx
        · obtain ⟨hopening, hcontent, hclosing, hitems⟩ := ih (fun _ h => by cases h) (fun _ h => by cases h) hb
          exact ⟨hopening, hcontent, hclosing, fun x hx => List.mem_append_right _ (List.mem_cons_of_mem a (hitems hx))⟩
      | false =>
        rw [blocksFrom_some_plain ha] at hb
        have hf' : ∀ p ∈ some (f, c ++ [a]), isFence p.1 = true := by
          rintro p hp
          rw [← Option.some.inj hp]
          exact hf (f, c) rfl
        have hc' : ∀ p ∈ some (f, c ++ [a]), ∀ x ∈ p.2, isFence x = false := by
          rintro p hp
          rw [← Option.some.inj hp]
          exact List.forall_mem_append.mpr ⟨hc (f, c) rfl, List.forall_mem_singleton.mpr ha⟩
        obtain ⟨hopening, hcontent, hclosing, hitems⟩ := ih hf' hc' hb
        refine ⟨hopening, hcontent, hclosing, fun x hx => ?_⟩
        have hmem := hitems hx
        rwa [Option.elim_some, ← List.cons_append, List.append_assoc, List.singleton_append] at hmem

/-- **The blocks of a list** are made of its items. -/
theorem isFrom_of_mem {b : Fenced α} (hb : b ∈ fencedBlocks isFence l) : b.IsFrom isFence l :=
  isFrom_of_mem_blocksFrom (fun _ h => by cases h) (fun _ h => by cases h) hb

/-- Items are changed, but none becomes a fence or ceases to be one. -/
theorem blocksFrom_map {isFence' : β → Bool} {g : α → β} (hg : ∀ a, isFence' (g a) = isFence a) (l : List α) :
    blocksFrom isFence' (st.map (Prod.map g (List.map g))) (l.map g) =
      (blocksFrom isFence st l).map (Fenced.map g) := by
  induction l generalizing st with
  | nil => cases st <;> rfl
  | cons a l ih =>
    have hfence := hg a
    rw [List.map_cons]
    cases st with
    | none =>
      cases ha : isFence a with
      | true =>
        rw [ha] at hfence
        rw [blocksFrom_none_fence ha, ← ih, Option.map_none, blocksFrom_none_fence hfence]
        rfl
      | false =>
        rw [ha] at hfence
        rw [blocksFrom_none_plain ha, ← ih, Option.map_none, blocksFrom_none_plain hfence]
    | some openBlock =>
      obtain ⟨f, c⟩ := openBlock
      cases ha : isFence a with
      | true =>
        rw [ha] at hfence
        rw [blocksFrom_some_fence ha, List.map_cons, ← ih, Option.map_some, Prod.map_apply,
          blocksFrom_some_fence hfence]
        rfl
      | false =>
        rw [ha] at hfence
        rw [blocksFrom_some_plain ha, ← ih, Option.map_some, Option.map_some, Prod.map_apply, Prod.map_apply,
          blocksFrom_some_plain hfence, List.map_append, List.map_singleton]

theorem fencedBlocks_map {isFence' : β → Bool} {g : α → β} (hg : ∀ a, isFence' (g a) = isFence a) (l : List α) :
    fencedBlocks isFence' (l.map g) = (fencedBlocks isFence l).map (Fenced.map g) := @blocksFrom_map α β isFence none _ g hg l

/-- The block goes on with an item, if it is open. -/
def Fenced.extend (a : α) (b : Fenced α) : Fenced α :=
  match b.closing with
  | none => { b with content := b.content ++ [a] }
  | some _ => b

/-- **One item more** goes to the block that is open at the end. -/
theorem blocksFrom_concat (ha : isFence a = false) (l : List α) :
    blocksFrom isFence st (l ++ [a]) = (blocksFrom isFence st l).map (Fenced.extend a) := by
  induction l generalizing st with
  | nil =>
    cases st with
    | none => exact blocksFrom_none_plain ha
    | some openBlock => exact blocksFrom_some_plain ha
  | cons a' l ih =>
    rw [List.cons_append]
    cases st with
    | none =>
      cases ha' : isFence a' with
      | true => rw [blocksFrom_none_fence ha', blocksFrom_none_fence ha', ih]
      | false => rw [blocksFrom_none_plain ha', blocksFrom_none_plain ha', ih]
    | some openBlock =>
      obtain ⟨f, c⟩ := openBlock
      cases ha' : isFence a' with
      | true =>
        rw [blocksFrom_some_fence ha', blocksFrom_some_fence ha', ih]
        rfl
      | false => rw [blocksFrom_some_plain ha', blocksFrom_some_plain ha', ih]

/-- After a fence at the end, an open block has nothing in it. -/
theorem content_eq_nil_of_concat_fence (ha : isFence a = true) {b : Fenced α}
    (hb : b ∈ blocksFrom isFence st (l ++ [a])) (hopen : b.closing = none) : b.content = [] := by
  induction l generalizing st with
  | nil =>
    rw [List.nil_append] at hb
    cases st with
    | none =>
      rw [blocksFrom_none_fence ha] at hb
      rw [List.mem_singleton.mp hb]
    | some openBlock =>
      rw [blocksFrom_some_fence ha] at hb
      rcases List.mem_cons.mp hb with rfl | hb
      · cases hopen
      · cases hb
  | cons a' l ih =>
    rw [List.cons_append] at hb
    cases st with
    | none =>
      cases ha' : isFence a' with
      | true =>
        rw [blocksFrom_none_fence ha'] at hb
        exact ih hb
      | false =>
        rw [blocksFrom_none_plain ha'] at hb
        exact ih hb
    | some openBlock =>
      cases ha' : isFence a' with
      | true =>
        rw [blocksFrom_some_fence ha'] at hb
        rcases List.mem_cons.mp hb with rfl | hb
        · cases hopen
        · exact ih hb
      | false =>
        rw [blocksFrom_some_plain ha'] at hb
        exact ih hb

/-- The open block loses what passes a test at its end. -/
def Fenced.trim (blank : α → Bool) (b : Fenced α) : Fenced α :=
  match b.closing with
  | none => { b with content := b.content.rdropWhile blank }
  | some _ => b

theorem Fenced.trim_extend {blank : α → Bool} (b : Fenced α) :
    (b.extend a).trim blank = if blank a = true then b.trim blank else b.extend a := by
  obtain ⟨opening, content, closing⟩ := b
  cases closing with
  | none =>
    dsimp only [Fenced.extend, Fenced.trim]
    split
    · rename_i ha
      rw [List.rdropWhile_concat_pos _ _ _ ha]
    · rename_i ha
      rw [List.rdropWhile_concat_neg _ _ _ ha]
  | some g =>
    dsimp only [Fenced.extend, Fenced.trim]
    split <;> rfl

/-- **A list loses items at its end** that are no fences: its open block does. -/
theorem fencedBlocks_rdropWhile {blank : α → Bool} (hblank : ∀ a, blank a = true → isFence a = false) (l : List α) :
    fencedBlocks isFence (l.rdropWhile blank) = (fencedBlocks isFence l).map (Fenced.trim blank) := by
  induction l using List.reverseRecOn with
  | nil => rfl
  | append_singleton l a ih =>
    by_cases ha : blank a = true
    · rw [List.rdropWhile_concat_pos _ _ _ ha, ih, fencedBlocks, fencedBlocks, blocksFrom_concat (hblank a ha),
        List.map_map]
      refine List.map_congr_left fun b _ => ?_
      rw [Function.comp_apply, Fenced.trim_extend, if_pos ha]
    · rw [List.rdropWhile_concat_neg _ _ _ ha]
      cases hfence : isFence a with
      | true =>
        conv_lhs => rw [← List.map_id (fencedBlocks isFence (l ++ [a]))]
        refine List.map_congr_left fun b hb => ?_
        obtain ⟨opening, content, closing⟩ := b
        cases closing with
        | none =>
          have hnil : content = [] := content_eq_nil_of_concat_fence hfence hb rfl
          rw [hnil]
          rfl
        | some g => rfl
      | false =>
        rw [fencedBlocks, blocksFrom_concat hfence, List.map_map]
        refine List.map_congr_left fun b _ => ?_
        rw [Function.comp_apply, Fenced.trim_extend, if_neg ha]

end DBClaw.Fences
