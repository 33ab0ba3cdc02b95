import DBClaw.Library.Columns
import DBClaw.Metrics.TrafficClients
import Mathlib

/-! # What is cut off clients
The mapped prefix, the brackets and the port that `_normalize_client_identity` takes off a client, and what is left of
texts without spaces: `strippedClient_bare` for those without brackets, `strippedClient_brackets` for those with. -/

namespace DBClaw.TrafficClients

open Text

variable {ch : Characters} {c : Char} {s t port : Text}

/-! ## Ports -/

theorem rpartition_eq_none (h : ':' ∉ s) : rpartition s = none := by
  induction s with
  | nil => rfl
  | cons c s ih =>
    obtain ⟨hne, hs⟩ := not_or.mp (List.mem_cons.not.mp h)
    rw [rpartition, ih hs]
    exact if_neg (Ne.symm hne)

/-- A text is parted at its last colon. -/
theorem rpartition_append (h : ':' ∉ t) (s : Text) : rpartition (s ++ ':' :: t) = some (s, t) := by
  induction s with
  | nil =>
    rw [List.nil_append, rpartition, rpartition_eq_none h]
    rfl
  | cons c s ih =>
    rw [List.cons_append, rpartition, ih]

theorem eq_of_rpartition {halves : Text × Text} (h : rpartition s = some halves) : s = halves.1 ++ ':' :: halves.2 := by
  by_cases hmem : ':' ∈ s
  · -- the text after the last colon
    obtain ⟨before, after, hafter, rfl⟩ : ∃ before after, ':' ∉ after ∧ s = before ++ ':' :: after := by
      clear h
      induction s with
      | nil => cases hmem
      | cons c s ih =>
        by_cases hs : ':' ∈ s
        · obtain ⟨before, after, hafter, rfl⟩ := ih hs
          exact ⟨c :: before, after, hafter, rfl⟩
        · obtain rfl := (List.mem_cons.mp hmem).resolve_right hs
          exact ⟨[], s, hs, rfl⟩
    rw [rpartition_append hafter] at h
    rw [← Option.some.inj h]
  · rw [rpartition_eq_none hmem] at h
    cases h

theorem isDigitChar_colon (ch : Characters) : ch.isDigitChar ':' = false := rfl

/-- **A port is dropped.** -/
theorem dropPort_append (hne : port ≠ []) (hdigits : port.all ch.isDigitChar = true) (s : Text) :
    dropPort ch (s ++ ':' :: port) = s := by
  have hcolon : ':' ∉ port := by
    intro hmem
    have hdigit := List.all_eq_true.mp hdigits ':' hmem
    rw [isDigitChar_colon] at hdigit
    cases hdigit
  rw [dropPort, rpartition_append hcolon]
  exact if_pos ⟨hne, hdigits⟩

theorem dropPort_of_not_mem (h : ':' ∉ s) : dropPort ch s = s := by rw [dropPort, rpartition_eq_none h]

theorem dropPort_isPrefix (ch : Characters) (s : Text) : dropPort ch s <+: s := by
  rw [dropPort]
  cases hparts : rpartition s with
  | none => exact List.prefix_refl s
  | some halves =>
    have hs := eq_of_rpartition hparts
    dsimp only
    split_ifs with hport
    · rw [hs]
      exact List.prefix_append _ _
    · exact List.prefix_refl s

/-! ## Brackets -/

theorem beforeBracket_eq_none (h : ']' ∉ s) : beforeBracket s = none := by
  induction s with
  | nil => rfl
  | cons c s ih =>
    obtain ⟨hne, hs⟩ := not_or.mp (List.mem_cons.not.mp h)
    rw [beforeBracket, ih hs]
    refine if_neg fun hstart => hne ?_
    exact (List.cons_prefix_cons.mp hstart).1

/-- A text is cut at its last bracket that is before a colon. -/
theorem beforeBracket_append (h : ']' ∉ t) (s : Text) : beforeBracket (s ++ ']' :: ':' :: t) = some s := by
  induction s with
  | nil =>
    have hrest : beforeBracket (':' :: t) = none :=
      beforeBracket_eq_none (List.mem_cons.not.mpr (not_or.mpr ⟨by decide, h⟩))
    rw [List.nil_append, beforeBracket, hrest]
    exact if_pos ⟨t, rfl⟩
  | cons c s ih => rw [List.cons_append, beforeBracket, ih]

/-! ## The mapped prefix -/

theorem dropMappedAfter_sublist (n : ℕ) (s : Text) : (dropMappedAfter n s).Sublist s := by
  induction s generalizing n with
  | nil => cases n <;> exact List.Sublist.refl []
  | cons c s ih =>
    cases n with
    | zero =>
      rw [dropMappedAfter]
      split_ifs
      · exact (ih 6).cons c
      · exact (ih 0).cons_cons c
    | succ n => exact (ih n).cons c

theorem dropMapped_sublist (s : Text) : (dropMapped s).Sublist s := dropMappedAfter_sublist 0 s

theorem dropMapped_eq_self (h : ¬ mappedPrefix <:+: s) : dropMapped s = s := by
  rw [dropMapped]
  induction s with
  | nil => rfl
  | cons c s ih =>
    rw [dropMappedAfter, if_neg fun hstart => h hstart.isInfix]
    exact congrArg (c :: ·) (ih fun hinside => h (hinside.trans (List.suffix_cons c s).isInfix))

/-- **Something is dropped** where the prefix occurs. -/
theorem length_dropMapped_lt (h : mappedPrefix <:+: s) : (dropMapped s).length < s.length := by
  rw [dropMapped]
  induction s with
  | nil => cases List.infix_nil.mp h
  | cons c s ih =>
    rw [dropMappedAfter]
    split_ifs with hstart
    · exact Nat.lt_succ_of_le (dropMappedAfter_sublist 6 s).length_le
    · have hs := (List.infix_cons_iff.mp h).resolve_left hstart
      exact Nat.succ_lt_succ (ih hs)

/-- The prefix does not reach over a character that it does not have. -/
theorem prefix_append_cons_iff {p : Text} (hc : c ∉ p) (s t : Text) : p <+: s ++ c :: t ↔ p <+: s := by
  refine ⟨fun h => ?_, fun h => h.trans (List.prefix_append s _)⟩
  rcases List.prefix_or_prefix_of_prefix h (List.prefix_append s (c :: t)) with hp | ⟨r, rfl⟩
  · exact hp
  · cases r with
    | nil => exact (List.append_nil s).symm ▸ List.prefix_refl s
    | cons d r =>
      have hd := (List.prefix_append_right_inj s).mp h
      refine absurd ?_ hc
      rw [← (List.cons_prefix_cons.mp hd).1]
      exact List.mem_append_right s List.mem_cons_self

theorem dropMappedAfter_append (hc : c ∉ mappedPrefix) (t : Text) {n : ℕ} (hn : n ≤ s.length) :
    dropMappedAfter n (s ++ c :: t) = dropMappedAfter n s ++ c :: dropMapped t := by
  induction s generalizing n with
  | nil =>
    obtain rfl : n = 0 := Nat.le_zero.mp hn
    have hstart : ¬ mappedPrefix <+: c :: t := fun h => hc (List.mem_of_mem_head? (by
      rw [← (List.cons_prefix_cons.mp h).1]
      rfl))
    show dropMappedAfter 0 (c :: t) = c :: dropMapped t
    rw [dropMappedAfter, if_neg hstart]
    rfl
  | cons d s ih =>
    cases n with
    | zero =>
      have hiff : mappedPrefix <+: d :: (s ++ c :: t) ↔ mappedPrefix <+: d :: s := prefix_append_cons_iff hc (d :: s) t
      rw [List.cons_append, dropMappedAfter, dropMappedAfter]
      by_cases hstart : mappedPrefix <+: d :: s
      · rw [if_pos hstart, if_pos (hiff.mpr hstart)]
        exact ih (Nat.le_of_succ_le_succ hstart.length_le)
      · rw [if_neg hstart, if_neg (hiff.not.mpr hstart), ih (Nat.zero_le _)]
        rfl
    | succ n => exact ih (Nat.le_of_succ_le_succ hn)

/-- **The prefix is dropped in the parts of a text** around a character that it does not have. -/
theorem dropMapped_append (hc : c ∉ mappedPrefix) (s t : Text) :
    dropMapped (s ++ c :: t) = dropMapped s ++ c :: dropMapped t := dropMappedAfter_append hc t (Nat.zero_le _)

theorem dropMapped_start (s : Text) : dropMapped (mappedPrefix ++ s) = dropMapped s := by
  have hstart : mappedPrefix <+: ':' :: (mappedPrefix.tail ++ s) := List.prefix_append mappedPrefix s
  show dropMappedAfter 0 (':' :: (mappedPrefix.tail ++ s)) = dropMapped s
  rw [dropMappedAfter, if_pos hstart]
  rfl

/-! ## What is left -/

/-- A text, or another one when it is empty. -/
def orElse (s t : Text) : Text := if s = [] then t else s

theorem orElse_of_ne_nil (h : s ≠ []) (t : Text) : orElse s t = s := if_neg h

/-- **A text without brackets** loses the prefix and the port. -/
theorem strippedClient_bare (ch : Characters) (h : ∀ c ∈ s, isSpace c = false ∧ c ≠ '[') :
    strippedClient ch s = orElse (dropPort ch (dropMapped s)) s := by
  have hdropped : ∀ c ∈ dropMapped s, isSpace c = false ∧ c ≠ '[' := fun c hc => h c ((dropMapped_sublist s).subset hc)
  have hnormalized : strip (dropMapped s) = dropMapped s := strip_of_forall fun c hc => (hdropped c hc).1
  have hhost : strip (dropPort ch (dropMapped s)) = dropPort ch (dropMapped s) :=
    strip_of_forall fun c hc => (hdropped c ((dropPort_isPrefix ch _).subset hc)).1
  unfold strippedClient
  rw [hnormalized]
  dsimp only
  split
  · rename_i heq _
    rw [heq] at hdropped
    exact absurd rfl (hdropped '[' List.mem_cons_self).2
  · rw [hhost]
    rfl

/-- **A text in brackets before a port** loses them and the prefix. -/
theorem strippedClient_brackets (ch : Characters) (h : ∀ c ∈ s, isSpace c = false)
    (hport : port.all Char.isDigit = true) : strippedClient ch ('[' :: (s ++ ']' :: ':' :: port)) =
      orElse (dropMapped s) ('[' :: (s ++ ']' :: ':' :: port)) := by
  have hdigit : ∀ c ∈ port, c.isDigit = true := List.all_eq_true.mp hport
  have hmapped : dropMapped (':' :: port) = ':' :: port := by
    refine dropMapped_eq_self fun hinside => ?_
    rcases List.mem_cons.mp (hinside.subset (show 'f' ∈ mappedPrefix by decide)) with hf | hf
    · cases hf
    · exact absurd (hdigit 'f' hf) (by decide)
  have hdropped : dropMapped ('[' :: (s ++ ']' :: ':' :: port)) = '[' :: (dropMapped s ++ ']' :: ':' :: port) := by
    have hopen := dropMapped_append (show '[' ∉ mappedPrefix by decide) [] (s ++ ']' :: ':' :: port)
    rw [dropMapped_append (show ']' ∉ mappedPrefix by decide), hmapped] at hopen
    exact hopen
  have hspace : ∀ c ∈ '[' :: (dropMapped s ++ ']' :: ':' :: port), isSpace c = false := by
    simp only [List.forall_mem_cons, List.forall_mem_append]
    refine ⟨rfl, fun c hc => h c ((dropMapped_sublist s).subset hc), rfl, rfl, fun c hc => ?_⟩
    exact isSpace_of_isDigit (hdigit c hc)
  have hbracket : beforeBracket ('[' :: (dropMapped s ++ ']' :: ':' :: port)) = some ('[' :: dropMapped s) :=
    beforeBracket_append (fun hmem => absurd (hdigit ']' hmem) (by decide)) ('[' :: dropMapped s)
  have hhost : strip (dropMapped s) = dropMapped s := strip_of_forall fun c hc => h c ((dropMapped_sublist s).subset hc)
  unfold strippedClient
  rw [hdropped, strip_of_forall hspace]
  dsimp only
  rw [hbracket]
  show (if strip (dropMapped s) = [] then _ else strip (dropMapped s)) = _
  rw [hhost]
  rfl

/-- The id of a client whose text is left in small letters. -/
def keyOf (lowered : Text) : Text := if lowered ∈ localClientKeys then localClientId else lowered

/-- **The id of a client** that is reported without spaces. -/
theorem normalizeClientIdentity_some (ch : Characters) (hne : s ≠ []) (h : ∀ c ∈ s, isSpace c = false) :
    (normalizeClientIdentity ch (some s)).1 = keyOf (lower ch.unicode (strippedClient ch s)) := by
  rw [normalizeClientIdentity, Option.getD_some, strip_of_forall h]
  dsimp only
  rw [if_neg hne, keyOf]
  split_ifs <;> rfl

/-- **A shorter text has another id** than one with a colon. -/
theorem keyOf_ne_of_length_lt (hcolon : ':' ∈ t) (h : s.length < t.length) : keyOf s ≠ keyOf t := by
  have hlocal : t ≠ localClientId := by
    rintro rfl
    exact absurd hcolon (by decide)
  unfold keyOf
  split_ifs with hs ht ht
  · -- the only key with a colon is `::1`, and no key is shorter
    have ht : t = [':', ':', '1'] := by
      simp only [localClientKeys, List.mem_cons, List.not_mem_nil, or_false] at ht
      rcases ht with rfl | rfl | rfl | rfl
      · exact absurd hcolon (by decide)
      · rfl
      · exact absurd hcolon (by decide)
      · exact absurd hcolon (by decide)
    have hlong : ∀ key ∈ localClientKeys, 3 ≤ key.length := by decide
    have hle := hlong s hs
    rw [ht, List.length_cons, List.length_cons, List.length_singleton] at h
    omega
  · exact hlocal.symm
  · rintro rfl
    have hlong : ∀ key ∈ localClientKeys, key.length ≤ 9 ∧ (':' ∈ key → key.length = 3) := by decide
    have hthree := (hlong t ht).2 hcolon
    rw [hthree] at h
    exact absurd h (by decide)
  · rintro rfl
    exact lt_irrefl _ h

end DBClaw.TrafficClients
