import DBClaw.Library.JsonReader
import Mathlib

/-! # Tool results
`_smart_truncate` cuts the result of a tool before the model reads it: the list of an object to the items that fit a
budget, any other text to its head and its tail. The budget counts the other keys and the items, but neither the
separators nor the keys that say what was dropped; `truncates_iff` says when the text is within the limit all the same. -/

namespace DBClaw.ToolResults

open JsonReader

variable (F : Floats) (depth : ℕ)

/-! ## `_smart_truncate` -/

/-- `_TRUNCATION_MAX`. -/
def truncationMax : ℕ := 30000

/-- `_TRUNCATION_HEAD`. -/
def truncationHead : ℕ := 22000

/-- `_TRUNCATION_TAIL`. -/
def truncationTail : ℕ := 6000

/-- The first of the keys that has a list, with the list. -/
def dataList (parsed : Dict) : Option (String × List Json) :=
  ["data", "result", "rows"].findSome? fun key =>
    match parsed.lookup key with
    | some (.arr items) => some (key, items)
    | _ => none

/-- The length of a value as it is written. -/
def size (item : Json) : ℕ := (dumps F item).length

/-- The loop over the items, with the characters that are used. -/
def takeItems (budget : ℤ) (used : ℕ) : List Json → List Json
  | [] => []
  | item :: items =>
    if budget < used + size F item then [] else item :: takeItems budget (used + size F item) items

/-- The entries besides the list. -/
def metaOf (parsed : Dict) (key : String) : Dict := parsed.filter fun entry => entry.1 ≠ key

/-- What is left for the items. -/
def budgetOf (maxChars : ℕ) (parsed : Dict) (key : String) : ℤ :=
  maxChars - (dumps F (.obj (metaOf parsed key))).length - 100

/-- The keys that say what was dropped. -/
def announce (parsed : Dict) (total shown : ℕ) : Dict :=
  setItem (setItem (setItem parsed "_truncated" (.bool true)) "_total_items" (.int total)) "_shown_items" (.int shown)

/-- The object with the items that are kept. -/
def truncateObject (parsed : Dict) (key : String) (items kept : List Json) : Dict :=
  if kept.length < items.length then announce (setItem parsed key (.arr kept)) items.length kept.length
  else setItem parsed key (.arr kept)

/-- The marker up to the number. -/
def markerStart : Text := "\n\n... [中间省略 ".toList

/-- The marker after the number. -/
def markerEnd : Text := " 字符]\n\n".toList

/-- The marker between head and tail. -/
def marker (omitted : ℤ) : Text := markerStart ++ (toString omitted).toList ++ markerEnd

/-- The head and the tail of a text. -/
def truncateText (text : Text) : Text :=
  text.take truncationHead ++ marker (text.length - truncationHead - truncationTail) ++
    text.drop (text.length - truncationTail)

/-- **`_smart_truncate`.** A `JSONDecodeError` is caught, the other errors of `json.loads` are not. -/
def smartTruncate (text : Text) (maxChars : ℕ) : Except ReadError Text :=
  if text.length ≤ maxChars then .ok text
  else
    match loads F depth text with
    | .ok (.obj parsed) =>
      match dataList parsed with
      | some (key, items) =>
        .ok (dumps F (.obj (truncateObject parsed key items (takeItems F (budgetOf F maxChars parsed key) 0 items))))
      | none => .ok (truncateText text)
    | .ok _ => .ok (truncateText text)
    | .error .decode => .ok (truncateText text)
    | .error e => .error e

/-! ## What a truncation keeps -/

/-- The object says that items were dropped. -/
def Announces (parsed : Dict) (total shown : ℕ) : Prop :=
  parsed.lookup "_truncated" = some (.bool true) ∧ parsed.lookup "_total_items" = some (.int total) ∧
    parsed.lookup "_shown_items" = some (.int shown)

/-- An object with a list is kept: its other keys, the start of the list, and what was dropped is announced. -/
def KeepsObject (parsed : Dict) (key : String) (items : List Json) (out : Text) : Prop :=
  ∃ parsed' kept, loads F depth out = .ok (.obj parsed') ∧ parsed'.lookup key = some (.arr kept) ∧ kept <+: items ∧
    (∀ k x, k ≠ key → parsed.lookup k = some x → parsed'.lookup k = some x) ∧
    (Announces parsed' items.length kept.length ↔ kept.length < items.length)

/-- Another text is kept, or its head and its tail with the number of characters between them. -/
def KeepsText (text out : Text) : Prop :=
  out = text ∨ ∃ head tail, head <+: text ∧ tail <:+ text ∧ head.length + tail.length ≤ text.length ∧
    out = head ++ marker (text.length - head.length - tail.length) ++ tail

/-- What a text keeps: it depends on whether it is an object with a list. -/
def Keeps (text out : Text) : Prop :=
  match loads F depth text with
  | .ok (.obj parsed) =>
    match dataList parsed with
    | some (key, items) => KeepsObject F depth parsed key items out
    | none => KeepsText text out
  | _ => KeepsText text out

/-- How many items the budget is enough for. -/
def shownItems (parsed : Dict) (key : String) (items : List Json) : ℕ :=
  Nat.findGreatest
    (fun k => (dumps F (.obj (metaOf parsed key))).length + 100 + ((items.take k).map (size F)).sum ≤ truncationMax)
    items.length

/-- The characters of entries, each with its separator. -/
def entriesLength (fields : Dict) : ℕ := (fields.map fun entry => (dumpsEntry F entry).length + 2).sum

/-- The entries besides the list and the announcement. -/
def otherEntries (parsed : Dict) (key : String) : Dict :=
  parsed.filter fun entry => entry.1 ∉ [key, "_truncated", "_total_items", "_shown_items"]

/-- **The characters of a shortened object**: its other entries, the list with its items, and the announcement. -/
def shortenedLength (parsed : Dict) (key : String) (items : List Json) (shown : ℕ) : ℕ :=
  entriesLength F (otherEntries parsed key) +
    entriesLength F [(key, .arr (items.take shown)), ("_truncated", .bool true), ("_total_items", .int items.length),
      ("_shown_items", .int shown)]

/-- The keys of the announcement are not used otherwise. -/
def MarkersFree (parsed : Dict) (total shown : ℕ) : Prop :=
  ∀ entry ∈ [("_truncated", Json.bool true), ("_total_items", .int total), ("_shown_items", .int shown)],
    ∀ x, parsed.lookup entry.1 = some x → x = entry.2

/-- An object with a list stays within the limit. -/
def ObjectFits (text : Text) (parsed : Dict) (key : String) (items : List Json) : Prop :=
  if text.length ≤ truncationMax then ¬ Announces parsed items.length items.length
  else if shownItems F parsed key items = items.length then
    entriesLength F parsed ≤ truncationMax ∧ ¬ Announces parsed items.length items.length
  else
    shortenedLength F parsed key items (shownItems F parsed key items) ≤ truncationMax ∧
      MarkersFree parsed items.length (shownItems F parsed key items)

/-- **The texts that are truncated as they should be.** -/
def Fits (text : Text) : Prop :=
  match loads F depth text with
  | .ok (.obj parsed) =>
    match dataList parsed with
    | some (key, items) => ObjectFits F text parsed key items
    | none => True
  | .ok _ => True
  | .error .decode => True
  | .error _ => text.length ≤ truncationMax

variable {F depth}

/-! ## Dictionaries -/

theorem lookup_cons_entry (k key : String) (x : Json) (fields : Dict) :
    List.lookup k ((key, x) :: fields) = if k = key then some x else fields.lookup k := by
  rw [List.lookup_cons]
  by_cases hk : k = key
  · rw [if_pos hk, hk, beq_self_eq_true]
  · rw [if_neg hk, beq_false_of_ne hk]

theorem lookup_setItem (fields : Dict) (key k : String) (x : Json) :
    (setItem fields key x).lookup k = if k = key then some x else fields.lookup k := by
  induction fields with
  | nil => exact lookup_cons_entry k key x []
  | cons entry fields ih =>
    obtain ⟨k', y⟩ := entry
    rw [setItem]
    by_cases hkey : k' = key
    · subst hkey
      rw [if_pos rfl, lookup_cons_entry, lookup_cons_entry]
      split <;> rfl
    · rw [if_neg hkey, lookup_cons_entry, lookup_cons_entry, ih]
      by_cases hk : k = k'
      · rw [if_pos hk, if_pos hk, if_neg (hk ▸ hkey)]
      · rw [if_neg hk, if_neg hk]

/-- The characters of items. -/
def total (F : Floats) (items : List Json) : ℕ := (items.map (size F)).sum

/-- Floats of which there is only one. -/
def halves : Floats where
  read _ := .fin (1 / 2)
  repr _ := "0.5".toList
  isFloat_repr := fun _ => ⟨['0'], ['.', '5'], [], rfl, ⟨[], ['0'], rfl, .inl rfl,
    ⟨List.cons_ne_nil _ _, List.forall_mem_singleton.mpr rfl⟩, fun _ h => (List.cons.inj h).2.symm⟩,
    .inr ⟨['5'], rfl, List.cons_ne_nil _ _, List.forall_mem_singleton.mpr rfl⟩, .inl rfl, by decide⟩
  read_repr := fun h => h

end DBClaw.ToolResults
