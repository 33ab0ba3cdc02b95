import DBClaw.Library.Text
import Mathlib

/-! # Internet addresses
The texts of IPv4 and IPv6 addresses and what they denote: four bytes, or eight groups of sixteen bits. An IPv6 address
in which `::` stands for groups of zeros, or whose last two groups are written as an IPv4 address, denotes the same
groups as the one that is written out. -/

namespace DBClaw.Addresses

/-! ## IPv4 -/

/-- A decimal number below 256. -/
def byteOf (s : Text) : Option ℕ :=
  if s ≠ [] ∧ s.length ≤ 3 ∧ s.all Char.isDigit ∧ Nat.ofDigitChars 10 s 0 < 256 then some (Nat.ofDigitChars 10 s 0)
  else none

/-- **The four bytes of a dotted quad.** -/
def parseV4 (s : Text) : Option (ℕ × ℕ × ℕ × ℕ) :=
  match s.splitOn '.' with
  | [a, b, c, d] => do some (← byteOf a, ← byteOf b, ← byteOf c, ← byteOf d)
  | _ => none

/-! ## IPv6 -/

/-- A small hexadecimal digit. -/
def isHexDigit (c : Char) : Bool := c.isDigit || ['a', 'b', 'c', 'd', 'e', 'f'].elem c

/-- The value of a small hexadecimal digit. -/
def hexValue (c : Char) : ℕ := if c.isDigit then c.toNat - 48 else c.toNat - 87

/-- A group of one to four digits. -/
def groupOf (s : Text) : Option ℕ :=
  if s ≠ [] ∧ s.length ≤ 4 ∧ s.all isHexDigit then some (s.foldl (fun n c => 16 * n + hexValue c) 0) else none

/-- Two groups that are written as a dotted quad, or one group. -/
def lastGroupsOf (s : Text) : Option (List ℕ) :=
  match parseV4 s with
  | some (a, b, c, d) => some [256 * a + b, 256 * c + d]
  | none => (groupOf s).map fun n => [n]

/-- Groups with colons between them, none in the empty text. -/
def groupsOf (s : Text) : Option (List ℕ) :=
  if s = [] then some []
  else do
    let parts := s.splitOn ':'
    some ((← parts.dropLast.mapM groupOf) ++ (← lastGroupsOf (parts.getLastD [])))

/-- The texts before and after the first `::`. -/
def splitGap : Text → Option (Text × Text)
  | ':' :: ':' :: rest => some ([], rest)
  | c :: rest => (splitGap rest).map fun halves => (c :: halves.1, halves.2)
  | [] => none

/-- **The eight groups of an IPv6 address** in small letters. -/
def parseV6 (s : Text) : Option (List ℕ) :=
  match splitGap s with
  | some (left, right) => do
    let before ← if left = [] then some [] else (left.splitOn ':').mapM groupOf
    let after ← groupsOf right
    if before.length + after.length < 8 then
      some (before ++ List.replicate (8 - (before.length + after.length)) 0 ++ after)
    else none
  | none => (groupsOf s).filter fun groups => groups.length = 8

/-! ## Characters -/

theorem isDigit_of_byteOf {s : Text} {n : ℕ} (h : byteOf s = some n) : ∀ c ∈ s, c.isDigit = true := by
  rw [byteOf] at h
  split_ifs at h with hs
  exact List.all_eq_true.mp hs.2.2.1

/-- **A dotted quad has digits and dots.** -/
theorem chars_of_parseV4 {s : Text} {bytes : ℕ × ℕ × ℕ × ℕ} (h : parseV4 s = some bytes) :
    ∀ ch ∈ s, ch.isDigit = true ∨ ch = '.' := by
  unfold parseV4 at h
  split at h
  · rename_i a b c d hsplit
    obtain ⟨m, ha, h⟩ := Option.bind_eq_some_iff.mp h
    obtain ⟨n, hb, h⟩ := Option.bind_eq_some_iff.mp h
    obtain ⟨o, hc, h⟩ := Option.bind_eq_some_iff.mp h
    obtain ⟨p, hd, -⟩ := Option.bind_eq_some_iff.mp h
    have hjoin : [('.' : Char)].intercalate (s.splitOn '.') = s := List.intercalate_splitOn '.'
    rw [hsplit] at hjoin
    intro ch hch
    rw [← hjoin] at hch
    simp only [List.intercalate, List.intersperse, List.flatten_cons, List.flatten_nil, List.append_nil, List.mem_append,
      List.mem_singleton] at hch
    rcases hch with hch | hch | hch | hch | hch | hch | hch
    · exact .inl (isDigit_of_byteOf ha ch hch)
    · exact .inr hch
    · exact .inl (isDigit_of_byteOf hb ch hch)
    · exact .inr hch
    · exact .inl (isDigit_of_byteOf hc ch hch)
    · exact .inr hch
    · exact .inl (isDigit_of_byteOf hd ch hch)
  · cases h

theorem parseV4_ne_nil {s : Text} {bytes : ℕ × ℕ × ℕ × ℕ} (h : parseV4 s = some bytes) : s ≠ [] := by
  rintro rfl
  cases h

/-- A dotted quad has no colon. -/
theorem colon_not_mem_of_parseV4 {s : Text} {bytes : ℕ × ℕ × ℕ × ℕ} (h : parseV4 s = some bytes) : ':' ∉ s := by
  intro hmem
  rcases chars_of_parseV4 h ':' hmem with hdigit | hdot
  · cases hdigit
  · cases hdot

/-- Before an IPv4 address, `::ffff:` denotes five groups of zeros and one of ones. -/
theorem parseV6_mapped {s : Text} {a b c d : ℕ} (h : parseV4 s = some (a, b, c, d)) :
    parseV6 ([':', ':', 'f', 'f', 'f', 'f', ':'] ++ s) =
      some [0, 0, 0, 0, 0, 0xffff, 256 * a + b, 256 * c + d] := by
  have hsplit : ('f' :: 'f' :: 'f' :: 'f' :: ':' :: s).splitOn ':' = [['f', 'f', 'f', 'f'], s] := by
    have hword : List.splitOnP (· == ':') ['f', 'f', 'f', 'f'] = [['f', 'f', 'f', 'f']] := rfl
    have hrest : List.splitOnP (· == ':') s = [s] :=
      List.splitOnP_eq_singleton fun ch hch => beq_false_of_ne fun heq => colon_not_mem_of_parseV4 h (heq ▸ hch)
    have happend := List.splitOnP_append_cons (p := (· == ':')) ['f', 'f', 'f', 'f'] s (beq_self_eq_true ':')
    rw [hword, hrest] at happend
    exact happend
  have hgroups : groupsOf ('f' :: 'f' :: 'f' :: 'f' :: ':' :: s) = some [0xffff, 256 * a + b, 256 * c + d] := by
    rw [groupsOf, if_neg (List.cons_ne_nil _ _), hsplit]
    change (do some ((← [['f', 'f', 'f', 'f']].mapM groupOf) ++ (← lastGroupsOf s))) = _
    rw [lastGroupsOf, h]
    rfl
  have hgap : splitGap ([':', ':', 'f', 'f', 'f', 'f', ':'] ++ s) = some ([], 'f' :: 'f' :: 'f' :: 'f' :: ':' :: s) := rfl
  rw [parseV6, hgap]
  change (do
    let after ← groupsOf ('f' :: 'f' :: 'f' :: 'f' :: ':' :: s)
    if ([] : List ℕ).length + after.length < 8 then
      some ([] ++ List.replicate (8 - (([] : List ℕ).length + after.length)) 0 ++ after) else none) = _
  rw [hgroups]
  rfl

/-- The bytes of a dotted quad are below 256. -/
theorem lt_of_parseV4 {s : Text} {a b c d : ℕ} (h : parseV4 s = some (a, b, c, d)) : b < 256 ∧ d < 256 := by
  have hbyte {s : Text} {n : ℕ} (h : byteOf s = some n) : n < 256 := by
    rw [byteOf] at h
    split_ifs at h with hs
    rw [← Option.some.inj h]
    exact hs.2.2.2
  unfold parseV4 at h
  split at h
  · obtain ⟨m, -, h⟩ := Option.bind_eq_some_iff.mp h
    obtain ⟨n, hb, h⟩ := Option.bind_eq_some_iff.mp h
    obtain ⟨o, -, h⟩ := Option.bind_eq_some_iff.mp h
    obtain ⟨p, hd, h⟩ := Option.bind_eq_some_iff.mp h
    obtain ⟨rfl, rfl, rfl, rfl⟩ : m = a ∧ n = b ∧ o = c ∧ p = d := by simpa using h
    exact ⟨hbyte hb, hbyte hd⟩
  · cases h

/-! ## The shape of IPv6 addresses -/

theorem nil_not_mem_of_mapM {parts : List Text} {groups : List ℕ} (h : parts.mapM groupOf = some groups) :
    [] ∉ parts := by
  induction parts generalizing groups with
  | nil => exact List.not_mem_nil
  | cons part parts ih =>
    rw [List.mapM_cons] at h
    obtain ⟨n, hn, h⟩ := Option.bind_eq_some_iff.mp h
    obtain ⟨rest, hrest, -⟩ := Option.bind_eq_some_iff.mp h
    intro hmem
    rcases List.mem_cons.mp hmem with rfl | hmem
    · cases hn
    · exact ih hrest hmem

/-- Between colons there are no empty groups. -/
theorem nil_not_mem_of_groupsOf {s : Text} {groups : List ℕ} (hne : s ≠ []) (h : groupsOf s = some groups) :
    [] ∉ s.splitOn ':' := by
  rw [groupsOf, if_neg hne] at h
  obtain ⟨before, hbefore, h⟩ := Option.bind_eq_some_iff.mp h
  obtain ⟨last, hlast, -⟩ := Option.bind_eq_some_iff.mp h
  intro hmem
  rw [← List.dropLast_append_getLast (List.splitOn_ne_nil ':' s)] at hmem
  rcases List.mem_append.mp hmem with hmem | hmem
  · exact nil_not_mem_of_mapM hbefore hmem
  · rw [List.getLastD_eq_getLast?, List.getLast?_eq_getLast_of_ne_nil (List.splitOn_ne_nil ':' s), Option.getD_some,
      ← List.mem_singleton.mp hmem] at hlast
    cases hlast

theorem splitGap_eq_none {s : Text} (h : ':' ∉ s) : splitGap s = none := by
  induction s with
  | nil => rfl
  | cons c s ih =>
    obtain ⟨hc, hs⟩ := not_or.mp (List.mem_cons.not.mp h)
    unfold splitGap
    split
    · rename_i heq
      exact absurd (List.cons.inj heq).1.symm hc
    · rename_i heq
      obtain ⟨-, rfl⟩ := List.cons.inj heq
      rw [ih hs]
      rfl
    · rfl

/-- **An IPv6 address has a colon.** -/
theorem colon_mem_of_parseV6 {s : Text} {groups : List ℕ} (h : parseV6 s = some groups) : ':' ∈ s := by
  by_contra hcolon
  have hsplit : s.splitOn ':' = [s] :=
    List.splitOnP_eq_singleton fun c hc => beq_false_of_ne fun heq => hcolon (heq ▸ hc)
  rw [parseV6, splitGap_eq_none hcolon] at h
  obtain ⟨hgroups, hlength⟩ := Option.filter_eq_some_iff.mp h
  have hlength : groups.length = 8 := of_decide_eq_true hlength
  by_cases hnil : s = []
  · rw [groupsOf, if_pos hnil] at hgroups
    rw [← Option.some.inj hgroups] at hlength
    cases hlength
  · -- a text without a colon is two groups at most
    rw [groupsOf, if_neg hnil, hsplit] at hgroups
    obtain ⟨before, hbefore, hgroups⟩ := Option.bind_eq_some_iff.mp hgroups
    obtain ⟨last, hlast, hgroups⟩ := Option.bind_eq_some_iff.mp hgroups
    obtain rfl : [] = before := Option.some.inj hbefore
    rw [← Option.some.inj hgroups, List.nil_append] at hlength
    rw [lastGroupsOf] at hlast
    split at hlast
    · rw [← Option.some.inj hlast] at hlength
      cases hlength
    · obtain ⟨n, -, rfl⟩ := Option.map_eq_some_iff.mp hlast
      cases hlength

/-- **An address that starts with a colon starts with `::`**, and no group after it is empty. -/
theorem start_of_parseV6 {s : Text} {groups : List ℕ} (h : parseV6 (':' :: s) = some groups) :
    ∃ rest, s = ':' :: rest ∧ (rest ≠ [] → [] ∉ rest.splitOn ':') := by
  have hnil : [] ∈ (':' :: s).splitOn ':' := by
    have happend := List.splitOn_append_cons_self (a := ':') [] s
    rw [List.nil_append, List.splitOn_nil, List.singleton_append] at happend
    rw [happend]
    exact List.mem_cons_self
  by_cases hstart : ∃ rest, s = ':' :: rest
  · obtain ⟨rest, rfl⟩ := hstart
    refine ⟨rest, rfl, fun hne => ?_⟩
    have hgap : splitGap (':' :: ':' :: rest) = some ([], rest) := rfl
    rw [parseV6, hgap] at h
    obtain ⟨after, hafter, -⟩ := Option.bind_eq_some_iff.mp h
    exact nil_not_mem_of_groupsOf hne hafter
  · have hgap : splitGap (':' :: s) = (splitGap s).map fun halves => (':' :: halves.1, halves.2) := by
      cases s with
      | nil => rfl
      | cons c s =>
        exact splitGap.eq_2 ':' (c :: s) fun rest heq hs => hstart ⟨rest, hs⟩
    exfalso
    rw [parseV6, hgap] at h
    cases hrest : splitGap s with
    | none =>
      rw [hrest] at h
      obtain ⟨hgroups, -⟩ := Option.filter_eq_some_iff.mp h
      exact nil_not_mem_of_groupsOf (List.cons_ne_nil _ _) hgroups hnil
    | some halves =>
      rw [hrest, Option.map_some] at h
      dsimp only at h
      rw [if_neg (List.cons_ne_nil _ _)] at h
      obtain ⟨before, hbefore, -⟩ := Option.bind_eq_some_iff.mp h
      have hleft := List.splitOn_append_cons_self (a := ':') [] halves.1
      rw [List.nil_append, List.splitOn_nil, List.singleton_append] at hleft
      rw [hleft] at hbefore
      exact nil_not_mem_of_mapM hbefore List.mem_cons_self

end DBClaw.Addresses
