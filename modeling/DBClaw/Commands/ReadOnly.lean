import DBClaw.Commands.Safety
import DBClaw.Library.Shell

/-! # What the read-only classifier guarantees
`looks_clearly_read_only_command` splits a command line with a regular expression and looks at the
first word of each segment. `Sound` asks what the classifier is for: that a shell runs allow-listed
commands only and writes no file. The classifier guarantees it for the commands that begin where one
of its segments does, if they are spelled as in the list. It misses those after a single `&` and in
substitutions, and looks at no redirection; `sound_iff_transparent` says exactly this. -/

namespace DBClaw.Commands

open Shell

variable {u : Unicode}

/-! ## Segments -/

/-- The texts after the separators. -/
def laterSegments : Text → List Text
  | [] => []
  | [c] => if isSeparator c then [[]] else []
  | c :: d :: t =>
    if isDoubleSeparator c d then t :: laterSegments t
    else if isSeparator c then (d :: t) :: laterSegments (d :: t)
    else laterSegments (d :: t)

/-- From where the segments of a command line begin to its end. -/
def segmentStarts (command : Text) : List Text := command :: laterSegments command

/-- A character of the allow-listed words. -/
def isPlainChar (c : Char) : Bool := c.isLower || c = '['

/-- A word that is spelled like an allow-listed one. -/
def Plain (w : Text) : Prop := ∀ c ∈ w, isPlainChar c = true

instance (w : Text) : Decidable (Plain w) :=
  List.decidableBAll (fun c => isPlainChar c = true) w

theorem plain_of_mem_allowedCommands {w : Text} (h : w ∈ allowedCommands) : Plain w := by
  have hall : ∀ w ∈ allowedCommands, Plain w := by decide
  exact hall w h

/-- A character that stays as it is in lower case, and neither separates words nor segments. -/
structure Rigid (c : Char) : Prop where
  ascii : c.toNat < 128
  lower : c.toLower = c
  notSpace : Text.isSpace c = false
  notSeparator : isSeparator c = false

theorem rigid_of_isPlainChar {c : Char} (h : isPlainChar c = true) : Rigid c := by
  simp only [isPlainChar, Bool.or_eq_true, decide_eq_true_eq] at h
  obtain hletter | rfl := h
  · obtain ⟨hlow, hhigh⟩ := Unicode.isLower_iff.mp hletter
    have hne : ∀ d : Char, d.toNat < 97 ∨ 122 < d.toNat → c ≠ d := by
      rintro d hd rfl
      omega
    refine ⟨by omega, ?_, Unicode.isSpace_of_isLower hletter, ?_⟩
    · unfold Char.toLower
      rw [dif_neg]
      rintro ⟨-, hupper⟩
      exact absurd (UInt32.le_iff_toNat_le.mp hupper) (not_le.mpr (lt_of_lt_of_le (by decide) hlow))
    · simp [isSeparator, hne ';' (by decide), hne '|' (by decide), hne '\n' (by decide)]
  · exact ⟨by decide, by decide, by decide, by decide⟩

/-- A character that begins no separator belongs to the first piece. -/
theorem splitPieces_cons {c : Char} {t : Text} (hsingle : isSeparator c = false)
    (hdouble : ∀ d ∈ t.head?, isDoubleSeparator c d = false) :
    splitPieces (c :: t) = (splitPieces t).modifyHead (c :: ·) := by
  cases t with
  | nil => simp [splitPieces, hsingle]
  | cons d t => simp [splitPieces, hsingle, hdouble d rfl]

/-- A text without characters of separators belongs to the first piece. -/
theorem splitPieces_append {p t : Text} (hp : ∀ c ∈ p, isSeparator c = false ∧ c ≠ '&') :
    splitPieces (p ++ t) = (splitPieces t).modifyHead (p ++ ·) := by
  induction p with
  | nil =>
    rw [List.nil_append]
    cases splitPieces t <;> rfl
  | cons c p ih =>
    obtain ⟨hsingle, hamp⟩ := hp c List.mem_cons_self
    have hbar : c ≠ '|' := by
      rintro rfl
      cases hsingle
    rw [List.cons_append, splitPieces_cons hsingle fun d _ => by simp [isDoubleSeparator, hbar, hamp],
      ih fun d hd => hp d (List.mem_cons_of_mem _ hd)]
    cases splitPieces t <;> rfl

/-- The separators and what they consist of are their own lower case, and nothing else becomes one. -/
theorem lowerChar_separator {c : Char} (h : isSeparator c = true ∨ c = '&') :
    u.lowerChar c = [c] := by
  simp only [isSeparator, Bool.or_eq_true, decide_eq_true_eq] at h
  obtain ((rfl | rfl) | rfl) | rfl := h <;> rfl

theorem not_separator_of_mem_lowerChar {c d : Char} (hc : isSeparator c = false ∧ c ≠ '&')
    (hd : d ∈ u.lowerChar c) : isSeparator d = false ∧ d ≠ '&' := by
  by_contra hnot
  have hcases : ((d = ';' ∨ d = '|') ∨ d = '\n') ∨ d = '&' := by
    by_contra hno
    simp only [not_or] at hno
    exact hnot ⟨by simp [isSeparator, hno], hno.2⟩
  have hsame : d = c := by
    obtain ((rfl | rfl) | rfl) | rfl := hcases <;>
      exact Unicode.eq_of_mem_lowerChar hd (by decide) (by decide)
  subst hsame
  exact hnot hc

/-- What the lower case of a text begins with comes from its first character. -/
theorem mem_head_lower {d e : Char} {t : Text} (h : e ∈ (Text.lower u (d :: t)).head?) :
    e ∈ u.lowerChar d := by
  rw [Text.lower, List.flatMap_cons] at h
  cases hd : u.lowerChar d with
  | nil => exact absurd hd Unicode.lowerChar_ne_nil
  | cons f fs =>
    rw [hd] at h
    cases h
    exact List.mem_cons_self

/-- Lower case makes no separator of two characters. -/
theorem not_doubleSeparator_lower {c d e : Char} {t : Text} (hdouble : ¬ isDoubleSeparator c d = true)
    (he : e ∈ (Text.lower u (d :: t)).head?) : isDoubleSeparator c e = false := by
  by_contra hnot
  rw [Bool.not_eq_false] at hnot
  have hsame : e = d := by
    simp only [isDoubleSeparator, Bool.or_eq_true, Bool.and_eq_true, decide_eq_true_eq] at hnot
    obtain ⟨-, rfl⟩ | ⟨-, rfl⟩ := hnot <;>
      exact Unicode.eq_of_mem_lowerChar (mem_head_lower he) (by decide) (by decide)
  subst hsame
  exact hdouble hnot

/-- **Splitting commutes with lower case.** -/
theorem splitPieces_lower (t : Text) :
    splitPieces (Text.lower u t) = (splitPieces t).map (Text.lower u) := by
  have hcons : ∀ c (t : Text), Text.lower u (c :: t) = u.lowerChar c ++ Text.lower u t :=
    fun _ _ => rfl
  fun_induction splitPieces t with
  | case1 => rfl
  | case2 c hsep =>
    rw [hcons, lowerChar_separator (.inl hsep)]
    simp [Text.lower, splitPieces, hsep]
  | case3 c hsep =>
    rw [Bool.not_eq_true] at hsep
    rw [hcons]
    by_cases hamp : c = '&'
    · subst hamp
      rfl
    · rw [splitPieces_append fun d hd => not_separator_of_mem_lowerChar ⟨hsep, hamp⟩ hd]
      rfl
  | case4 c d t hdouble ih =>
    have hfixed : u.lowerChar c = [c] ∧ u.lowerChar d = [d] := by
      simp only [isDoubleSeparator, Bool.or_eq_true, Bool.and_eq_true, decide_eq_true_eq] at hdouble
      obtain ⟨rfl, rfl⟩ | ⟨rfl, rfl⟩ := hdouble <;> exact ⟨rfl, rfl⟩
    rw [hcons, hcons, hfixed.1, hfixed.2]
    simp only [List.cons_append, List.nil_append, splitPieces, hdouble, if_true, ih, List.map_cons]
    rfl
  | case5 c d t hdouble hsep ih =>
    rw [hcons, lowerChar_separator (.inl hsep)]
    cases hlower : Text.lower u (d :: t) with
    | nil => exact absurd (List.append_eq_nil_iff.mp hlower).1 Unicode.lowerChar_ne_nil
    | cons e rest =>
      have he : isDoubleSeparator c e = false :=
        not_doubleSeparator_lower hdouble (by rw [hlower]; rfl)
      rw [hlower] at ih
      simp only [List.cons_append, List.nil_append, splitPieces, he, hsep, Bool.false_eq_true, if_false,
        if_true, ih, List.map_cons]
      rfl
  | case6 c d t hdouble hsep ih =>
    rw [Bool.not_eq_true] at hsep
    have hmap : ∀ pieces : List Text, (pieces.map (Text.lower u)).modifyHead (u.lowerChar c ++ ·)
        = (pieces.modifyHead (c :: ·)).map (Text.lower u) := by
      rintro (_ | ⟨piece, pieces⟩) <;> rfl
    rw [hcons, ← hmap, ← ih]
    by_cases hamp : c = '&'
    · subst hamp
      exact splitPieces_cons hsep fun e he => not_doubleSeparator_lower hdouble he
    · exact splitPieces_append fun d hd => not_separator_of_mem_lowerChar ⟨hsep, hamp⟩ hd

/-- The first pieces of the later segments are pieces of the command line. -/
theorem head_splitPieces_laterSegments {start command : Text} (h : start ∈ laterSegments command) :
    ∃ piece rest, splitPieces start = piece :: rest ∧ piece ∈ (splitPieces command).tail := by
  have hhead : ∀ t : Text, ∃ piece rest, splitPieces t = piece :: rest ∧ piece ∈ splitPieces t := by
    intro t
    cases ht : splitPieces t with
    | nil => exact absurd ht (splitPieces_ne_nil t)
    | cons piece rest => exact ⟨piece, rest, rfl, List.mem_cons_self⟩
  fun_induction laterSegments command with
  | case1 => cases h
  | case2 c hsep =>
    rw [List.mem_singleton.mp h]
    exact ⟨[], [], rfl, by simp [splitPieces, hsep]⟩
  | case3 => cases h
  | case4 c d t hdouble ih =>
    simp only [splitPieces, hdouble, if_true, List.tail_cons]
    obtain rfl | hlater := List.mem_cons.mp h
    · exact hhead _
    · obtain ⟨piece, rest, hsplit, hmem⟩ := ih hlater
      exact ⟨piece, rest, hsplit, List.mem_of_mem_tail hmem⟩
  | case5 c d t hdouble hsep ih =>
    simp only [splitPieces, hdouble, hsep, Bool.false_eq_true, if_false, if_true, List.tail_cons]
    obtain rfl | hlater := List.mem_cons.mp h
    · exact hhead _
    · obtain ⟨piece, rest, hsplit, hmem⟩ := ih hlater
      exact ⟨piece, rest, hsplit, List.mem_of_mem_tail hmem⟩
  | case6 c d t hdouble hsep ih =>
    obtain ⟨piece, rest, hsplit, hmem⟩ := ih h
    refine ⟨piece, rest, hsplit, ?_⟩
    simp only [splitPieces, hdouble, hsep, Bool.false_eq_true, if_false]
    cases hd : splitPieces (d :: t) with
    | nil => exact absurd hd (splitPieces_ne_nil _)
    | cons p ps =>
      rw [hd] at hmem
      exact hmem

/-- **Each segment start begins with a piece of the command line.** -/
theorem head_splitPieces_mem {start command : Text} (h : start ∈ segmentStarts command) :
    ∃ piece rest, splitPieces start = piece :: rest ∧ piece ∈ splitPieces command := by
  obtain rfl | hlater := List.mem_cons.mp h
  · cases hs : splitPieces start with
    | nil => exact absurd hs (splitPieces_ne_nil start)
    | cons piece rest => exact ⟨piece, rest, rfl, List.mem_cons_self⟩
  · obtain ⟨piece, rest, hsplit, hmem⟩ := head_splitPieces_laterSegments hlater
    exact ⟨piece, rest, hsplit, List.mem_of_mem_tail hmem⟩

/-! ## The base command of a segment -/

/-- `rstrip` leaves what ends in something else than whitespace. -/
theorem rstrip_append {x l : Text} {c : Char} (hc : x.getLast? = some c)
    (hspace : Text.isSpace c = false) : Text.rstrip (x ++ l) = x ++ Text.rstrip l := by
  obtain ⟨init, rfl⟩ := List.getLast?_eq_some_iff.mp hc
  unfold Text.rstrip List.rdropWhile
  rw [List.reverse_append, List.dropWhile_append]
  split
  · rename_i hnil
    rw [List.isEmpty_iff] at hnil
    rw [List.reverse_append, hnil]
    simp [hspace]
  · simp

/-- The first word of a text is not changed by `rstrip`. -/
theorem takeWhile_rstrip (l : Text) :
    (Text.rstrip l).takeWhile (! Text.isSpace ·) = l.takeWhile (! Text.isSpace ·) := by
  induction l using List.reverseRecOn with
  | nil => rfl
  | append_singleton l c ih =>
    unfold Text.rstrip at ih ⊢
    rw [List.rdropWhile_concat]
    split
    · rename_i hspace
      rw [ih, List.takeWhile_append]
      split
      · rename_i hall
        simp [hspace, (List.takeWhile_prefix _).eq_of_length hall]
      · rfl
    · rfl

variable {command : Text}

/-- **What an accepted command line says of each segment start**: behind its blanks, a rigid beginning
continues to an allow-listed word. -/
theorem base_of_start (haccepted : looksClearlyReadOnlyCommand u command = true)
    {blanks x y piece : Text} {pieces : List Text}
    (hstart : blanks ++ (x ++ y) ∈ segmentStarts command) (hblanks : ∀ b ∈ blanks, isBlank b = true)
    (hx : x ≠ []) (hrigid : ∀ c ∈ x, Rigid c)
    (hfirst : ∀ c ∈ x.head?, c ≠ '>' ∧ u.isDecimalChar c = false)
    (hpieces : splitPieces y = piece :: pieces)
    (hsplit : splitPieces (x ++ y) = (splitPieces y).modifyHead (x ++ ·)) :
    x ++ Text.lower u ((Text.lower u piece).takeWhile (! Text.isSpace ·)) ∈ allowedCommands := by
  obtain ⟨x₀, xs, rfl⟩ := List.exists_cons_of_ne_nil hx
  obtain ⟨hgreater, hdecimal⟩ := hfirst x₀ rfl
  have hspace : ∀ c ∈ x₀ :: xs, Text.isSpace c = false := fun c hc => (hrigid c hc).notSpace
  have hblank : ∀ b ∈ blanks, b = ' ' ∨ b = '\t' := by
    intro b hb
    simpa [isBlank] using hblanks b hb
  -- the segment, in lower case and stripped
  obtain ⟨first, rest, hfirstPiece, hmem⟩ := head_splitPieces_mem hstart
  rw [splitPieces_append fun b hb => by obtain rfl | rfl := hblank b hb <;> decide, hsplit,
    hpieces] at hfirstPiece
  cases hfirstPiece
  have hlower : Text.lower u (blanks ++ (x₀ :: xs ++ piece))
      = blanks ++ (x₀ :: xs ++ Text.lower u piece) := by
    rw [Text.lower_append, Text.lower_append,
      Text.lower_of_fixed fun b hb => by obtain rfl | rfl := hblank b hb <;> decide,
      Text.lower_of_fixed fun c hc => ⟨(hrigid c hc).ascii, (hrigid c hc).lower⟩]
  have hlast : ∃ c, (x₀ :: xs).getLast? = some c ∧ Text.isSpace c = false :=
    ⟨_, List.getLast?_eq_some_getLast (List.cons_ne_nil x₀ xs), hspace _ (List.getLast_mem _)⟩
  obtain ⟨last, hlast, hlastSpace⟩ := hlast
  have hstrip : ∀ l, Text.strip (x₀ :: xs ++ l) = x₀ :: xs ++ Text.rstrip l := by
    intro l
    rw [Text.strip, Text.lstrip, List.cons_append, List.dropWhile_cons_of_neg
      (by simp [hspace x₀ List.mem_cons_self]), ← List.cons_append, rstrip_append hlast hlastSpace]
  have hsegment : Text.strip (blanks ++ (x₀ :: xs ++ Text.lower u piece))
      = x₀ :: xs ++ Text.rstrip (Text.lower u piece) := by
    rw [← hstrip, Text.strip, Text.strip, Text.lstrip, Text.lstrip, List.dropWhile_append_of_pos]
    intro b hb
    obtain rfl | rfl := hblank b hb <;> decide
  unfold looksClearlyReadOnlyCommand at haccepted
  simp only [Bool.and_eq_true, List.all_eq_true] at haccepted
  have hin : x₀ :: xs ++ Text.rstrip (Text.lower u piece) ∈
      splitCommandSegments (Text.lower u command) := by
    refine List.mem_filter.mpr ⟨List.mem_map.mpr ⟨_, ?_, hsegment⟩, by simp⟩
    rw [splitPieces_lower, ← hlower]
    exact List.mem_map_of_mem hmem
  have hbase := (haccepted.2 _ hin).2
  have hkeep : dropRedirection u (x₀ :: xs ++ Text.rstrip (Text.lower u piece))
      = x₀ :: xs ++ Text.rstrip (Text.lower u piece) := by
    simp [dropRedirection, afterRedirection, hgreater, hdecimal]
  rw [extractBaseCommand, hkeep, hstrip, List.takeWhile_append_of_pos
    (fun c hc => by simp [hspace c hc]), Text.lower_append,
    Text.lower_of_fixed fun c hc => ⟨(hrigid c hc).ascii, (hrigid c hc).lower⟩, takeWhile_rstrip,
    takeWhile_rstrip] at hbase
  exact List.contains_iff_mem.mp hbase

/-- A plain character begins no redirection. -/
theorem first_of_isPlainChar {c : Char} (h : isPlainChar c = true) :
    c ≠ '>' ∧ u.isDecimalChar c = false := by
  simp only [isPlainChar, Bool.or_eq_true, decide_eq_true_eq] at h
  obtain hletter | rfl := h
  · obtain ⟨hlow, hhigh⟩ := Unicode.isLower_iff.mp hletter
    refine ⟨?_, ?_⟩
    · rintro rfl
      exact absurd hlow (by decide)
    · rw [Unicode.isDecimalChar, if_pos (by omega), Char.isDigit, Bool.and_eq_false_iff]
      right
      rw [decide_eq_false_iff_not, UInt32.le_iff_toNat_le]
      exact not_le.mpr (lt_of_lt_of_le (by decide) hlow)
  · exact ⟨by decide, rfl⟩

theorem not_amp_of_isPlainChar {c : Char} (h : isPlainChar c = true) :
    isSeparator c = false ∧ c ≠ '&' := by
  refine ⟨(rigid_of_isPlainChar h).notSeparator, ?_⟩
  rintro rfl
  exact absurd h (by decide)

/-- The characters by which a shell reads a word differently than the classifier. -/
def isSpecial (c : Char) : Bool := c = '\'' || c = '"' || c = '\\' || c = '$' || c = '`' || c = '>'

theorem rigid_of_isSpecial {c : Char} (h : isSpecial c = true) :
    Rigid c ∧ c ≠ '&' ∧ isPlainChar c = false ∧ u.isDecimalChar c = false := by
  simp only [isSpecial, Bool.or_eq_true, decide_eq_true_eq] at h
  obtain ((((rfl | rfl) | rfl) | rfl) | rfl) | rfl := h <;>
    exact ⟨⟨by decide, by decide, by decide, by decide⟩, by decide, by decide, rfl⟩

/-- **In an accepted command line no plain beginning of a segment runs into a special character.** -/
theorem not_special_of_start (haccepted : looksClearlyReadOnlyCommand u command = true)
    {blanks w t : Text} {c : Char} (hstart : blanks ++ (w ++ c :: t) ∈ segmentStarts command)
    (hblanks : ∀ b ∈ blanks, isBlank b = true) (hw : Plain w) (hc : w = [] → c ≠ '>') :
    isSpecial c = false := by
  by_contra hspecial
  rw [Bool.not_eq_false] at hspecial
  obtain ⟨hrigid, hamp, hplain, hdecimal⟩ := rigid_of_isSpecial (u := u) hspecial
  obtain ⟨piece, pieces, hpieces⟩ := List.exists_cons_of_ne_nil (splitPieces_ne_nil t)
  have hchars : ∀ d ∈ w ++ [c], Rigid d ∧ d ≠ '&' := by
    intro d hd
    obtain hd | hd := List.mem_append.mp hd
    · exact ⟨rigid_of_isPlainChar (hw d hd), (not_amp_of_isPlainChar (hw d hd)).2⟩
    · rw [List.mem_singleton.mp hd]
      exact ⟨hrigid, hamp⟩
  rw [show w ++ c :: t = w ++ [c] ++ t by simp] at hstart
  have hbase := base_of_start haccepted hstart hblanks (by simp)
    (fun d hd => (hchars d hd).1) ?_ hpieces
    (splitPieces_append fun d hd => ⟨(hchars d hd).1.notSeparator, (hchars d hd).2⟩)
  · have := plain_of_mem_allowedCommands hbase c (by simp)
    rw [hplain] at this
    cases this
  · intro d hd
    cases w with
    | nil =>
      cases hd
      exact ⟨hc rfl, hdecimal⟩
    | cons d' w =>
      cases hd
      exact first_of_isPlainChar (hw _ List.mem_cons_self)

/-- A piece begins with what begins no separator. -/
theorem splitPieces_head (c : Char) (t : Text) :
    (∃ pieces, splitPieces (c :: t) = [] :: pieces) ∨
      (isSeparator c = false ∧ ∃ piece pieces, splitPieces (c :: t) = (c :: piece) :: pieces) := by
  cases hsep : isSeparator c with
  | true =>
    left
    cases t with
    | nil => exact ⟨[[]], by simp [splitPieces, hsep]⟩
    | cons d t =>
      simp only [splitPieces, hsep, if_true]
      split <;> exact ⟨_, rfl⟩
  | false =>
    cases t with
    | nil => exact .inr ⟨rfl, [], [], by simp [splitPieces, hsep]⟩
    | cons d t =>
      simp only [splitPieces, hsep, Bool.false_eq_true, if_false]
      split
      · exact .inl ⟨_, rfl⟩
      · obtain ⟨piece, pieces, hpieces⟩ := List.exists_cons_of_ne_nil (splitPieces_ne_nil (d :: t))
        rw [hpieces]
        exact .inr ⟨trivial, piece, pieces, rfl⟩

/-- **In an accepted command line a plain word at a segment start is allow-listed**, if the shell's
word ends with it. -/
theorem allowed_of_start (haccepted : looksClearlyReadOnlyCommand u command = true)
    {blanks w y : Text} (hstart : blanks ++ (w ++ y) ∈ segmentStarts command)
    (hblanks : ∀ b ∈ blanks, isBlank b = true) (hw : Plain w) (hne : w ≠ [])
    (hy : ∀ c ∈ y.head?, isBlank c = true ∨ isControl c = true) : w ∈ allowedCommands := by
  obtain ⟨piece, pieces, hpieces⟩ := List.exists_cons_of_ne_nil (splitPieces_ne_nil y)
  have hbase := base_of_start haccepted hstart hblanks hne
    (fun c hc => rigid_of_isPlainChar (hw c hc))
    (fun c hc => first_of_isPlainChar (hw c (List.mem_of_mem_head? hc))) hpieces
    (splitPieces_append fun c hc => not_amp_of_isPlainChar (hw c hc))
  cases y with
  | nil =>
    cases hpieces
    simpa [Text.lower] using hbase
  | cons c t =>
    obtain ⟨pieces', hempty⟩ | ⟨hsep, piece', pieces', hfirst⟩ := splitPieces_head c t
    · rw [hempty] at hpieces
      cases hpieces
      simpa [Text.lower] using hbase
    · rw [hfirst] at hpieces
      cases hpieces
      obtain hblank | hcontrol := hy c rfl
      · have hc : c = ' ' ∨ c = '\t' := by simpa [isBlank] using hblank
        have hstop : (Text.lower u (c :: piece')).takeWhile (! Text.isSpace ·) = [] := by
          obtain rfl | rfl := hc <;> rfl
        rw [hstop] at hbase
        simpa [Text.lower] using hbase
      · have hamp : c = '&' := by
          simp only [isControl, isSeparator, Bool.or_eq_true, Bool.or_eq_false_iff,
            decide_eq_true_eq, decide_eq_false_iff_not] at hcontrol hsep
          tauto
        subst hamp
        -- a single `&` would belong to the word that the classifier looks at
        have := plain_of_mem_allowedCommands hbase '&' (List.mem_append_right _ List.mem_cons_self)
        exact absurd this (by decide)

/-! ## What a shell reads in an accepted command line -/

/-- The command begins where the classifier begins a segment, and not with a redirection. -/
def Visible (command : Text) (c : SimpleCommand) : Prop :=
  c.start ∈ segmentStarts command ∧ c.redirected = false

instance (command : Text) (c : SimpleCommand) : Decidable (Visible command c) :=
  inferInstanceAs (Decidable (_ ∧ _))

/-- A visible command with a plain word has an allow-listed one. -/
def Listed (command : Text) (c : SimpleCommand) : Prop :=
  Visible command c → ∀ w ∈ c.word, Plain w → w ∈ allowedCommands

/-- The command word of a visible command is decided: it is complete, and allow-listed if it is plain,
or it is not plain already. -/
def Decided (command : Text) (c : SimpleCommand) (slot : Slot) : Prop :=
  Visible command c → ∃ w, c.word = some w ∧ (Plain w → slot ≠ .word ∧ w ∈ allowedCommands)

/-- Nothing is quoted or substituted. -/
structure Idle (s : Scan) : Prop where
  quote : s.quote = .unquoted
  escaped : s.escaped = false
  opening : s.opening = false
  nesting : s.nesting = []

/-- The reading stands before the command word or in it, with nothing but blanks and plain
characters since the command began. -/
structure Fresh (command : Text) (s : Scan) (rest : Text) : Prop extends Idle s where
  start : ∃ blanks w, (∀ b ∈ blanks, isBlank b = true) ∧ Plain w ∧
    s.command.start = blanks ++ (w ++ rest) ∧
    ((s.slot = .gap ∧ s.command.word = none ∧ w = []) ∨
      (s.slot = .word ∧ s.command.word = some w ∧ w ≠ []))

/-- **The invariant of the reading**: all complete commands are listed, and the current one is decided
or fresh. -/
structure Reading (command : Text) (s : Scan) (rest : Text) : Prop where
  commands : ∀ c ∈ s.commands, Listed command c
  current : Decided command s.command s.slot ∨ Fresh command s rest

/-- All complete commands are listed, and the current one is decided. -/
structure Settled (command : Text) (s : Scan) : Prop where
  commands : ∀ c ∈ s.commands, Listed command c
  current : Decided command s.command s.slot

theorem Settled.reading {s : Scan} (h : Settled command s) (rest : Text) : Reading command s rest :=
  ⟨h.commands, .inl h.current⟩

/-- What is settled depends on the complete commands, the current one and the slot alone. -/
theorem Settled.congr {s t : Scan} (h : Settled command s) (hcommands : t.commands = s.commands)
    (hcommand : t.command = s.command) (hslot : t.slot = s.slot) : Settled command t :=
  ⟨hcommands ▸ h.commands, by rw [hcommand, hslot]; exact h.current⟩

theorem Settled.reading_congr {s t : Scan} (h : Settled command s) (rest : Text)
    (hcommands : t.commands = s.commands) (hcommand : t.command = s.command)
    (hslot : t.slot = s.slot) : Reading command t rest :=
  Settled.reading (h.congr hcommands hcommand hslot) rest

theorem Settled.touch {s : Scan} (h : Settled command s) : Settled command s.touch := by
  obtain ⟨hcommands, hcurrent⟩ := h
  refine ⟨?_, ?_⟩
  · unfold Scan.touch
    split
    · split <;> exact hcommands
    all_goals exact hcommands
  · unfold Scan.touch
    split
    · split
      · rename_i hnone
        intro hvisible
        obtain ⟨w, hw, -⟩ := hcurrent hvisible
        rw [hw] at hnone
        cases hnone
      · exact fun hvisible => (hcurrent hvisible).imp fun w hw => ⟨hw.1, fun hplain =>
          ⟨nofun, (hw.2 hplain).2⟩⟩
    · exact fun hvisible => (hcurrent hvisible).imp fun w hw => ⟨hw.1, fun hplain =>
        ⟨nofun, (hw.2 hplain).2⟩⟩
    · exact fun hvisible => (hcurrent hvisible).imp fun w hw => ⟨hw.1, fun hplain =>
        ⟨nofun, (hw.2 hplain).2⟩⟩
    all_goals exact hcurrent

theorem Settled.push {s : Scan} (h : Settled command s) (c : Char) : Settled command (s.push c) := by
  have htouch := h.touch
  unfold Scan.push
  split
  · rename_i hslot
    refine ⟨htouch.commands, fun hvisible => ?_⟩
    obtain ⟨w, hw, hdecided⟩ := htouch.current hvisible
    refine ⟨w ++ [c], by simp [hw], fun hplain => ?_⟩
    exact absurd hslot (hdecided fun d hd => hplain d (List.mem_append_left _ hd)).1
  · exact htouch

theorem Settled.endWord {s : Scan} (h : Settled command s) : Settled command s.endWord := by
  refine ⟨h.commands, fun hvisible => (h.current hvisible).imp fun w hw => ⟨hw.1, fun hplain => ?_⟩⟩
  refine ⟨?_, (hw.2 hplain).2⟩
  unfold Scan.endWord
  dsimp only
  split <;> nofun

theorem Settled.redirect {s : Scan} (h : Settled command s) (rest : Text) :
    Settled command (s.redirect rest) := by
  refine ⟨h.commands, ?_⟩
  rintro ⟨hstart, hredirected⟩
  unfold Scan.redirect at hstart hredirected ⊢
  dsimp only at hstart hredirected ⊢
  rw [Bool.or_eq_false_iff] at hredirected
  obtain ⟨w, hw, hdecided⟩ := h.current ⟨hstart, hredirected.1⟩
  split at hredirected
  · cases hredirected.2
  · rename_i hnumber
    rw [if_neg hnumber]
    exact ⟨w, hw, fun hplain => ⟨nofun, (hdecided hplain).2⟩⟩

theorem Decided.listed {c : SimpleCommand} {slot : Slot} (h : Decided command c slot) :
    Listed command c := by
  intro hvisible w hw hplain
  obtain ⟨w', hw', hdecided⟩ := h hvisible
  rw [Option.mem_def, hw'] at hw
  cases hw
  exact (hdecided hplain).2

/-- After the end of a listed command the reading is fresh, or not at the start of a segment. -/
theorem reading_endCommand {s : Scan} (hcommands : ∀ c ∈ s.commands, Listed command c)
    (hcurrent : Listed command s.command) (hidle : Idle s) (rest : Text) :
    Reading command (s.endCommand rest) rest := by
  refine ⟨?_, ?_⟩
  · intro c hc
    unfold Scan.endCommand at hc
    dsimp only at hc
    split at hc
    · obtain hold | hnew := List.mem_append.mp hc
      · exact hcommands c hold
      · rw [List.mem_singleton.mp hnew]
        exact hcurrent
    · exact hcommands c hc
  · exact .inr ⟨⟨hidle.quote, hidle.escaped, hidle.opening, hidle.nesting⟩, [], [], nofun, nofun, rfl,
      .inl ⟨rfl, rfl, rfl⟩⟩

theorem Settled.inside {s : Scan} (h : Settled command s) (c : Char) (rest : Text) :
    Settled command (s.inside c rest) := by
  have hclose : Settled command (s.close c) := by
    unfold Scan.close
    split <;> exact h.congr rfl rfl rfl
  have hnest : ∀ n, Settled command (s.nest n c) := fun n => h.congr rfl rfl rfl
  unfold Scan.inside
  split
  · exact (hnest .paren).congr rfl rfl rfl
  · split
    · exact h.congr rfl rfl rfl
    · split
      all_goals repeat' split
      all_goals first | exact hclose | exact hnest _ | exact h.congr rfl rfl rfl

theorem Settled.afterBackslash {s : Scan} (h : Settled command s) (c : Char) :
    Settled command (s.afterBackslash c) := by
  unfold Scan.afterBackslash
  split
  · exact h.congr rfl rfl rfl
  · split
    · exact ((h.push '\\').push c).congr rfl rfl rfl
    · exact (h.push c).congr rfl rfl rfl

theorem Settled.doubleQuoted {s : Scan} (h : Settled command s) (c : Char) (rest : Text) :
    Settled command (s.doubleQuoted c rest) := by
  unfold Scan.doubleQuoted
  split
  · exact h.congr rfl rfl rfl
  · split
    · exact h.congr rfl rfl rfl
    · split
      · exact (h.push c).congr rfl rfl rfl
      · split
        · exact (h.push c).congr rfl rfl rfl
        · exact h.push c

theorem Settled.unquoted {s : Scan} (h : Settled command s) (hidle : Idle s) (c : Char)
    (rest : Text) : Reading command (s.unquoted c rest) rest := by
  unfold Scan.unquoted
  split
  · exact h.touch.reading_congr rest rfl rfl rfl
  · split
    · exact h.touch.reading_congr rest rfl rfl rfl
    · split
      · exact h.reading_congr rest rfl rfl rfl
      · split
        · exact (h.push c).reading_congr rest rfl rfl rfl
        · split
          · exact (h.push c).reading_congr rest rfl rfl rfl
          · split
            · exact Settled.reading h.endWord rest
            · split
              · split
                · refine ⟨h.commands, .inl fun hvisible => ?_⟩
                  exact (h.current hvisible).imp fun w hw => ⟨hw.1, fun hplain =>
                    ⟨nofun, (hw.2 hplain).2⟩⟩
                · exact reading_endCommand h.commands h.current.listed hidle rest
              · split
                · split
                  · refine ⟨h.commands, .inl fun hvisible => ?_⟩
                    exact (h.current hvisible).imp fun w hw => ⟨hw.1, fun hplain =>
                      ⟨nofun, (hw.2 hplain).2⟩⟩
                  · exact Settled.reading (h.redirect rest) rest
                · exact Settled.reading (h.push c) rest

/-- What is settled stays readable. -/
theorem Settled.step {s : Scan} (h : Settled command s) (c : Char) (rest : Text) :
    Reading command (s.step c rest) rest := by
  unfold Scan.step
  split
  · exact Settled.reading (h.inside c rest) rest
  · rename_i hnesting
    rw [ne_eq, not_not] at hnesting
    split
    · exact h.reading_congr rest rfl rfl rfl
    · rename_i hopening
      split
      · exact Settled.reading (h.afterBackslash c) rest
      · rename_i hescaped
        split
        · rename_i hquote
          rw [Bool.not_eq_true] at hopening hescaped
          exact h.unquoted ⟨hquote, hescaped, hopening, hnesting⟩ c rest
        · split
          · exact h.reading_congr rest rfl rfl rfl
          · exact Settled.reading (h.push c) rest
        · exact Settled.reading (h.doubleQuoted c rest) rest

/-- Where nothing special stands, words and commands end, and words grow. -/
theorem unquoted_of_not_special {s : Scan} {c : Char} {rest : Text} (hc : isSpecial c = false)
    (hslot : s.slot ≠ .operator) :
    s.unquoted c rest =
      if isBlank c then s.endWord else if isControl c then s.endCommand rest else s.push c := by
  simp only [isSpecial, Bool.or_eq_false_iff, decide_eq_false_iff_not] at hc
  obtain ⟨⟨⟨⟨⟨hsingle, hdouble⟩, hbackslash⟩, hdollar⟩, hbacktick⟩, hgreater⟩ := hc
  simp [Scan.unquoted, hsingle, hdouble, hbackslash, hdollar, hbacktick, hgreater, hslot]

/-- In the gap before the command word or in it, a character is added to the word. -/
theorem push_word {s : Scan} {w : Text} (c : Char)
    (hslot : (s.slot = .gap ∧ s.command.word = none ∧ w = []) ∨
      (s.slot = .word ∧ s.command.word = some w)) :
    s.push c = { s with slot := .word, command := { s.command with word := some (w ++ [c]) } } := by
  obtain ⟨hgap, hnone, rfl⟩ | ⟨hword, hsome⟩ := hslot
  · simp [Scan.push, Scan.touch, hgap, hnone]
  · simp [Scan.push, Scan.touch, hword, hsome]

/-- A fresh reading of an accepted command line stays readable. -/
theorem Fresh.step (haccepted : looksClearlyReadOnlyCommand u command = true) {s : Scan} {c : Char}
    {rest : Text} (hcommands : ∀ c ∈ s.commands, Listed command c)
    (h : Fresh command s (c :: rest)) : Reading command (s.step c rest) rest := by
  by_cases hvisible : Visible command s.command
  · obtain ⟨blanks, w, hblanks, hw, hstart, hslot⟩ := h.start
    have hin : blanks ++ (w ++ c :: rest) ∈ segmentStarts command := hstart ▸ hvisible.1
    have hlisted : isBlank c = true ∨ isControl c = true → w ≠ [] → w ∈ allowedCommands :=
      fun hc hne => allowed_of_start haccepted hin hblanks hw hne fun d hd => by
        cases hd
        exact hc
    have hoperator : s.slot ≠ .operator := by
      obtain ⟨hgap, -⟩ | ⟨hword, -⟩ := hslot
      · rw [hgap]
        nofun
      · rw [hword]
        nofun
    rw [show s.step c rest = s.unquoted c rest by
      simp [Scan.step, h.nesting, h.opening, h.escaped, h.quote]]
    by_cases hredirection : w = [] ∧ c = '>'
    · -- the command is not visible any more
      obtain ⟨rfl, rfl⟩ := hredirection
      obtain ⟨hgap, hnone, -⟩ | ⟨-, -, hne⟩ := hslot
      · refine ⟨?_, .inl fun hv => ?_⟩
        · simpa [Scan.unquoted, Scan.redirect, isBlank, isControl, hgap] using hcommands
        have hredirected := hv.2
        simp [Scan.unquoted, Scan.redirect, isBlank, isControl, hgap, hnone] at hredirected
      · exact absurd rfl hne
    · rw [unquoted_of_not_special (not_special_of_start haccepted hin hblanks hw fun hnil hc =>
        hredirection ⟨hnil, hc⟩) hoperator]
      split
      · rename_i hblank
        obtain ⟨hgap, hnone, rfl⟩ | ⟨hword, hsome, hne⟩ := hslot
        · have hrest : s.command.start = blanks ++ [c] ++ ([] ++ rest) := by simpa using hstart
          refine ⟨hcommands, .inr ⟨⟨h.quote, h.escaped, h.opening, h.nesting⟩, blanks ++ [c], [], ?_,
            hw, hrest, .inl ⟨by simp [Scan.endWord, hgap], hnone, rfl⟩⟩⟩
          intro b hb
          obtain hb | hb := List.mem_append.mp hb
          · exact hblanks b hb
          · rw [List.mem_singleton.mp hb]
            exact hblank
        · refine ⟨hcommands, .inl fun _ => ⟨w, hsome, fun _ => ⟨?_, ?_⟩⟩⟩
          · simp [Scan.endWord, hword]
          · exact hlisted (.inl hblank) hne
      · split
        · rename_i hcontrol
          refine reading_endCommand hcommands ?_ h.toIdle rest
          intro _ w' hw' _
          obtain ⟨-, hnone, -⟩ | ⟨-, hsome, hne⟩ := hslot
          · rw [hnone] at hw'
            cases hw'
          · rw [hsome] at hw'
            cases hw'
            exact hlisted (.inr hcontrol) hne
        · rw [push_word c (hslot.imp id fun hword => ⟨hword.1, hword.2.1⟩)]
          cases hc : isPlainChar c with
          | true =>
            have hrest : s.command.start = blanks ++ (w ++ [c] ++ rest) := by simpa using hstart
            constructor
            · exact hcommands
            refine .inr ⟨⟨h.quote, h.escaped, h.opening, h.nesting⟩, blanks, w ++ [c], hblanks, ?_,
              hrest, .inr ⟨rfl, rfl, by simp⟩⟩
            intro d hd
            obtain hd | hd := List.mem_append.mp hd
            · exact hw d hd
            · rw [List.mem_singleton.mp hd]
              exact hc
          | false =>
            constructor
            · exact hcommands
            refine .inl fun _ => ⟨w ++ [c], rfl, fun hplain => ?_⟩
            have := hplain c (by simp)
            rw [hc] at this
            cases this
  · exact Settled.step ⟨hcommands, fun hv => absurd hv hvisible⟩ c rest

/-- **One character of an accepted command line.** -/
theorem Reading.step (haccepted : looksClearlyReadOnlyCommand u command = true) {s : Scan} {c : Char}
    {rest : Text} (h : Reading command s (c :: rest)) : Reading command (s.step c rest) rest := by
  obtain ⟨hcommands, hdecided | hfresh⟩ := h
  · exact Settled.step ⟨hcommands, hdecided⟩ c rest
  · exact hfresh.step haccepted hcommands

/-- At the end of an accepted command line all commands are listed. -/
theorem Reading.listed (haccepted : looksClearlyReadOnlyCommand u command = true) {s : Scan}
    (h : Reading command s []) : ∀ c ∈ (s.run []).commands, Listed command c := by
  have hcurrent : Listed command s.command := by
    obtain hdecided | hfresh := h.current
    · exact hdecided.listed
    · obtain ⟨blanks, w, hblanks, hw, hstart, hslot⟩ := hfresh.start
      intro hvisible w' hw' _
      obtain ⟨-, hnone, -⟩ | ⟨-, hsome, hne⟩ := hslot
      · rw [hnone] at hw'
        cases hw'
      · rw [hsome] at hw'
        cases hw'
        exact allowed_of_start haccepted (hstart ▸ hvisible.1) hblanks hw hne (by simp)
  have hend : ∀ t : Scan, t.commands = s.commands → t.command = s.command →
      ∀ c ∈ (t.endCommand []).commands, Listed command c := by
    intro t hcommands hcommand c hc
    unfold Scan.endCommand at hc
    dsimp only at hc
    rw [hcommands, hcommand] at hc
    split at hc
    · obtain hold | hnew := List.mem_append.mp hc
      · exact h.commands c hold
      · rw [List.mem_singleton.mp hnew]
        exact hcurrent
    · exact h.commands c hc
  unfold Scan.run
  dsimp only
  split <;> exact hend _ rfl rfl

/-- **In an accepted command line all commands of the text itself are listed.** -/
theorem listed_of_accepted (haccepted : looksClearlyReadOnlyCommand u command = true) :
    ∀ c ∈ (read command).commands, Listed command c := by
  refine commands_run (I := Reading command) (fun _ _ _ h => h.step haccepted)
    (fun _ h => h.listed haccepted) ?_
  exact ⟨nofun, .inr ⟨⟨rfl, rfl, rfl, rfl⟩, [], [], nofun, nofun, rfl, .inl ⟨rfl, rfl, rfl⟩⟩⟩

/-! ## Soundness -/

/-- A simple command that a shell may run without approval. -/
def Harmless (c : SimpleCommand) : Prop :=
  (∃ w ∈ c.word, w ∈ allowedCommands) ∧ c.toFile = false

instance (c : SimpleCommand) : Decidable (Harmless c) := inferInstanceAs (Decidable (_ ∧ _))

/-- **What the classifier is for**: every simple command that a shell runs is harmless. -/
def Sound (command : Text) : Prop := ∀ c, Runs command c → Harmless c

/-- The commands that the classifier looks at have plain words, all others are harmless anyway, and
nothing is redirected to a file. -/
structure Transparent (command : Text) : Prop where
  visible : ∀ c ∈ (read command).commands, Visible command c → ∃ w ∈ c.word, Plain w
  hidden : ∀ c ∈ (read command).commands, ¬ Visible command c → ∃ w ∈ c.word, w ∈ allowedCommands
  redirection : ∀ c ∈ (read command).commands, c.toFile = false
  substitutions : ∀ body ∈ (read command).substitutions, Sound body

/-- **An accepted command line is sound exactly if it hides nothing from the classifier.** -/
theorem sound_iff_transparent (haccepted : looksClearlyReadOnlyCommand u command = true) :
    Sound command ↔ Transparent command := by
  constructor
  · intro h
    obtain ⟨hown, hsubstituted⟩ := forall_runs_iff.mp h
    exact {
      visible := fun c hc _ => (hown c hc).1.imp fun w hw =>
        ⟨hw.1, plain_of_mem_allowedCommands hw.2⟩
      hidden := fun c hc _ => (hown c hc).1
      redirection := fun c hc => (hown c hc).2
      substitutions := hsubstituted }
  · intro h
    refine forall_runs_iff.mpr ⟨fun c hc => ⟨?_, h.redirection c hc⟩, h.substitutions⟩
    by_cases hvisible : Visible command c
    · obtain ⟨w, hw, hplain⟩ := h.visible c hc hvisible
      exact ⟨w, hw, listed_of_accepted haccepted c hc hvisible w hw hplain⟩
    · exact h.hidden c hc hvisible

/-- Two allow-listed commands and an `&&` hide nothing. -/
theorem sound_df_uptime : Sound "df -h && uptime 2>&1".toList :=
  (sound_iff_transparent (u := .asciiOnly) (by decide)).mpr
    { visible := by decide
      hidden := by decide
      redirection := by decide
      substitutions := by
        rw [show (read "df -h && uptime 2>&1".toList).substitutions = [] by decide]
        nofun }

/-- The classifier accepts a command after a single `&`, a command in a substitution, and a
redirection to a file. -/
theorem accepted_not_sound :
    (looksClearlyReadOnlyCommand .asciiOnly "df & touch x".toList = true ∧
      ¬ Sound "df & touch x".toList) ∧
    (looksClearlyReadOnlyCommand .asciiOnly "echo $(touch x)".toList = true ∧
      ¬ Sound "echo $(touch x)".toList) ∧
    (looksClearlyReadOnlyCommand .asciiOnly "df > /etc/hosts".toList = true ∧
      ¬ Sound "df > /etc/hosts".toList) := by
  have hown : ∀ command : Text, (∃ c ∈ (read command).commands, ¬ Harmless c) → ¬ Sound command :=
    fun command ⟨c, hc, hnot⟩ hsound => hnot (hsound c (.own hc))
  refine ⟨⟨by decide, hown _ (by decide)⟩, ⟨by decide, fun hsound => ?_⟩,
    ⟨by decide, hown _ (by decide)⟩⟩
  have hbody : "touch x".toList ∈ (read "echo $(touch x)".toList).substitutions := by decide
  exact hown "touch x".toList (by decide) fun c hruns => hsound c (.substituted hbody hruns)

end DBClaw.Commands
