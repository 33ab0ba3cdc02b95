import DBClaw.Library.Addresses
import DBClaw.Metrics.ClientCuts
import Mathlib

/-! # Addresses in the traffic view
The forms in which databases report a client, and the address that a client denotes. The id of a client's row is the
address as it is written (`rowIdOf_eq`), from which the address is known again (`address_eq`), unless the client is one
that is damaged. -/

namespace DBClaw.TrafficClients

open Addresses Text

/-! ## Clients as they are reported -/

/-- A host name or an IPv4 address. -/
structure HostText where
  text : Text
  ne_nil : text ≠ []
  plain : ∀ c ∈ text, Text.isSpace c = false ∧ c ∉ [':', '[', ']']

/-- An IPv6 address in letters of either case, and its groups. -/
structure V6Text where
  text : Text
  groups : List ℕ
  plain : ∀ c ∈ text, c.isAlphanum = true ∨ c ∈ [':', '.']
  denotes : parseV6 (text.map Char.toLower) = some groups

/-- An IPv4 address, and its bytes. -/
structure V4Text where
  text : Text
  bytes : ℕ × ℕ × ℕ × ℕ
  denotes : parseV4 text = some bytes

/-- `::ffff:` in letters of either case. -/
def mappedStart (capitals : Bool × Bool × Bool × Bool) : Text :=
  let f (capital : Bool) : Char := if capital then 'F' else 'f'
  [':', ':', f capitals.1, f capitals.2.1, f capitals.2.2.1, f capitals.2.2.2, ':']

/-- Decimal digits. -/
def portText (port : ℕ) : Text := Nat.toDigits 10 port

/-- **A client as it is reported**: nothing, a host or an IPv4 address with or without a port, an IPv6 address alone or in
brackets before a port, or an IPv4 address that is mapped to an IPv6 address, with a port. -/
inductive Client
  | empty (text : Option Text) (blank : Text.strip (text.getD []) = [])
  | host (host : HostText) (port : Option ℕ)
  | v6 (address : V6Text) (port : Option ℕ)
  | mapped (capitals : Bool × Bool × Bool × Bool) (address : V4Text) (port : ℕ)

/-- The text of a client. -/
def Client.text : Client → Option Text
  | .empty text _ => text
  | .host name none => some name.text
  | .host name (some port) => some (name.text ++ ':' :: portText port)
  | .v6 address none => some address.text
  | .v6 address (some port) => some ('[' :: (address.text ++ ']' :: ':' :: portText port))
  | .mapped capitals address port => some (mappedStart capitals ++ (address.text ++ ':' :: portText port))

/-! ## What clients denote -/

/-- An address; all loopback addresses are one, and no client at all is one of them. -/
inductive Address
  | loopback
  | host (name : Text)
  | v4 (bytes : ℕ × ℕ × ℕ × ℕ)
  | v6 (groups : List ℕ)
  deriving DecidableEq

/-- The address of four bytes. -/
def addressOfV4 (bytes : ℕ × ℕ × ℕ × ℕ) : Address := if bytes.1 = 127 then .loopback else .v4 bytes

/-- The address of eight groups: an IPv4 address may be mapped to it. -/
def addressOfGroups : List ℕ → Address
  | [0, 0, 0, 0, 0, 0, 0, 1] => .loopback
  | [0, 0, 0, 0, 0, 0xffff, m, n] => addressOfV4 (m / 256, m % 256, n / 256, n % 256)
  | groups => .v6 groups

/-- The address of a name in small letters, or of an IPv4 address. -/
def addressOfHost (name : Text) : Address :=
  if name = ['l', 'o', 'c', 'a', 'l', 'h', 'o', 's', 't'] then .loopback
  else match parseV4 name with
    | some bytes => addressOfV4 bytes
    | none => .host name

variable (ch : Characters)

/-- **The address that a client denotes**, up to letter case and port. -/
def Client.address : Client → Address
  | .empty _ _ => .loopback
  | .host name _ => addressOfHost (Text.lower ch.unicode name.text)
  | .v6 address _ => addressOfGroups address.groups
  | .mapped _ address _ => addressOfV4 address.bytes

/-! ## What is left of clients -/

/-- The text is a mapped IPv4 address as the prefix is written in small letters. -/
def isMapped (text : Text) : Bool := mappedPrefix <+: text ∧ (parseV4 (text.drop 7)).isSome

/-- **The address of a client as it is written**, in small letters. -/
def Client.spelling : Client → Text
  | .empty _ _ => localClientId
  | .host name _ => Text.lower ch.unicode name.text
  | .v6 address _ => if isMapped address.text then address.text.drop 7 else Text.lower ch.unicode address.text
  | .mapped _ address _ => address.text

/-- The last group of an address has decimal digits only. -/
def endsInDecimal (text : Text) : Bool := (rpartition text).any fun halves => halves.2 ≠ [] ∧ halves.2.all Char.isDigit

/-- **A client is damaged**: a host called `local`, which is taken for the local client; an IPv6 address that has `::ffff:`
inside, or that is alone and ends in a group of decimal digits, which is taken for a port; or a mapped IPv4 address
whose prefix is not in small letters. -/
def Client.Damaged : Client → Prop
  | .empty _ _ => False
  | .host name _ => Text.lower ch.unicode name.text = localClientId
  | .v6 address port => isMapped address.text = false ∧
      (mappedPrefix <:+: address.text ∨ (port = none ∧ endsInDecimal address.text = true))
  | .mapped capitals _ _ => mappedStart capitals ≠ mappedPrefix

instance : DecidablePred (Client.Damaged ch)
  | .empty _ _ => inferInstanceAs (Decidable False)
  | .host name _ => inferInstanceAs (Decidable (Text.lower ch.unicode name.text = localClientId))
  | .v6 address port => inferInstanceAs (Decidable (isMapped address.text = false ∧
      (mappedPrefix <:+: address.text ∨ (port = none ∧ endsInDecimal address.text = true))))
  | .mapped capitals _ _ => inferInstanceAs (Decidable (mappedStart capitals ≠ mappedPrefix))

/-! ## The ids of rows -/

variable {ch} {c : Char} {s t : Text} {client : Client}

/-- The id of the row of a client. -/
def rowIdOf (ch : Characters) (client : Client) : Text := (normalizeClientIdentity ch client.text).1

/-- In ASCII, small letters take the place of capitals. -/
theorem lower_eq_map {u : Unicode} (h : ∀ c ∈ s, c.toNat < 128) : lower u s = s.map Char.toLower := by
  induction s with
  | nil => rfl
  | cons c s ih =>
    obtain ⟨hc, hs⟩ := List.forall_mem_cons.mp h
    have hchar : u.lowerChar c = [c.toLower] := if_pos hc
    rw [lower, List.flatMap_cons, hchar, ← lower, ih hs]
    rfl

theorem portText_digits (port : ℕ) : (portText port).all Char.isDigit = true :=
  List.all_eq_true.mpr fun _ hc => Nat.isDigit_of_mem_toDigits (by decide) (by decide) hc

theorem portText_ne_nil (port : ℕ) : portText port ≠ [] := Nat.toDigits_ne_nil

theorem isDigitChar_of_isDigit (h : c.isDigit = true) : ch.isDigitChar c = true := by
  have hrange := Unicode.isDigit_iff.mp h
  rw [Characters.isDigitChar, if_pos (by omega), h]

/-- **A port after a colon is dropped.** -/
theorem dropPort_portText (s : Text) (port : ℕ) : dropPort ch (s ++ ':' :: portText port) = s := by
  refine dropPort_append (portText_ne_nil port) (List.all_eq_true.mpr fun c hc => ?_) s
  exact isDigitChar_of_isDigit (List.all_eq_true.mp (portText_digits port) c hc)

theorem not_mem_portText (h : c.isDigit = false) (port : ℕ) : c ∉ portText port := by
  intro hmem
  rw [List.all_eq_true.mp (portText_digits port) c hmem] at h
  cases h

/-- A text has the mapped prefix only if it has three colons. -/
theorem not_infix_of_count (h : s.count ':' < 3) : ¬ mappedPrefix <:+: s := by
  intro hinside
  have hle : mappedPrefix.count ':' ≤ s.count ':' := hinside.sublist.count_le ':'
  have hthree : mappedPrefix.count ':' = 3 := rfl
  omega

theorem count_portText (port : ℕ) : (portText port).count ':' = 0 :=
  List.count_eq_zero_of_not_mem (not_mem_portText rfl port)

/-! ### Hosts -/

theorem HostText.colon_not_mem (name : HostText) : ':' ∉ name.text := fun h => (name.plain ':' h).2 List.mem_cons_self

theorem HostText.strippedClient (name : HostText) (port : Option ℕ) :
    ∃ text, (Client.host name port).text = some text ∧ text ≠ [] ∧ (∀ c ∈ text, isSpace c = false) ∧
      strippedClient ch text = name.text := by
  have hcount : name.text.count ':' = 0 := List.count_eq_zero_of_not_mem name.colon_not_mem
  have hplain : ∀ c ∈ name.text, isSpace c = false ∧ c ≠ '[' := by
    intro c hc
    obtain ⟨hspace, hmem⟩ := name.plain c hc
    refine ⟨hspace, ?_⟩
    rintro rfl
    exact hmem (by decide)
  cases port with
  | none =>
    refine ⟨name.text, rfl, name.ne_nil, fun c hc => (hplain c hc).1, ?_⟩
    rw [strippedClient_bare ch hplain, dropMapped_eq_self (not_infix_of_count (by omega)),
      dropPort_of_not_mem name.colon_not_mem, orElse_of_ne_nil name.ne_nil]
  | some port =>
    have hplain' : ∀ c ∈ name.text ++ ':' :: portText port, isSpace c = false ∧ c ≠ '[' := by
      intro c hc
      rcases List.mem_append.mp hc with hc | hc
      · exact hplain c hc
      rcases List.mem_cons.mp hc with rfl | hc
      · exact ⟨rfl, by decide⟩
      · refine ⟨isSpace_of_isDigit (List.all_eq_true.mp (portText_digits port) c hc), ?_⟩
        rintro rfl
        exact not_mem_portText rfl port hc
    have hcount' : (name.text ++ ':' :: portText port).count ':' < 3 := by
      rw [List.count_append, hcount, List.count_cons_self, count_portText]
      decide
    refine ⟨_, rfl, by simp, fun c hc => (hplain' c hc).1, ?_⟩
    rw [strippedClient_bare ch hplain', dropMapped_eq_self (not_infix_of_count hcount'), dropPort_portText,
      orElse_of_ne_nil name.ne_nil]

theorem rowIdOf_host (name : HostText) (port : Option ℕ) :
    rowIdOf ch (.host name port) = keyOf (lower ch.unicode name.text) := by
  obtain ⟨text, htext, hne, hspace, hstripped⟩ := @HostText.strippedClient ch name port
  rw [rowIdOf, htext, normalizeClientIdentity_some ch hne hspace, hstripped]

/-! ### IPv4 addresses -/

theorem V4Text.chars (address : V4Text) (hc : c ∈ address.text) : c.isDigit = true ∨ c = '.' :=
  chars_of_parseV4 address.denotes c hc

theorem V4Text.ne_nil (address : V4Text) : address.text ≠ [] := parseV4_ne_nil address.denotes

theorem V4Text.count_colon (address : V4Text) : address.text.count ':' = 0 :=
  List.count_eq_zero_of_not_mem (colon_not_mem_of_parseV4 address.denotes)

/-- A dotted quad has no spaces and no letters. -/
theorem V4Text.plain (address : V4Text) (hc : c ∈ address.text) :
    isSpace c = false ∧ c.toNat < 128 ∧ c.toLower = c ∧ c ∉ [':', '[', ']'] := by
  rcases address.chars hc with hdigit | rfl
  · have hrange := Unicode.isDigit_iff.mp hdigit
    have hlower : c.toLower = c := by
      rcases Unicode.toLower_eq_or_isLower c with h | h
      · exact h
      · refine Char.toLower_eq_of_not_isUpper fun hupper => ?_
        have := Unicode.isUpper_iff.mp hupper
        omega
    refine ⟨isSpace_of_isDigit hdigit, by omega, hlower, ?_⟩
    intro hmem
    simp only [List.mem_cons, List.not_mem_nil, or_false] at hmem
    rcases hmem with rfl | rfl | rfl <;> cases hdigit
  · decide

theorem V4Text.lower_eq (address : V4Text) (u : Unicode) : lower u address.text = address.text :=
  lower_of_fixed fun _ hc => ⟨(address.plain hc).2.1, (address.plain hc).2.2.1⟩

theorem mappedStart_chars (capitals : Bool × Bool × Bool × Bool) (hc : c ∈ mappedStart capitals) :
    c = ':' ∨ c = 'F' ∨ c = 'f' := by
  have hletter (capital : Bool) : (if capital then 'F' else 'f') = 'F' ∨ (if capital then 'F' else 'f') = 'f' := by
    cases capital
    · exact .inr rfl
    · exact .inl rfl
  simp only [mappedStart, List.mem_cons, List.not_mem_nil, or_false] at hc
  rcases hc with rfl | rfl | rfl | rfl | rfl | rfl | rfl
  · exact .inl rfl
  · exact .inl rfl
  · exact .inr (hletter _)
  · exact .inr (hletter _)
  · exact .inr (hletter _)
  · exact .inr (hletter _)
  · exact .inl rfl

theorem lower_mappedStart (capitals : Bool × Bool × Bool × Bool) (u : Unicode) :
    lower u (mappedStart capitals) = mappedPrefix := by
  obtain ⟨p, q, r, s⟩ := capitals
  cases p <;> cases q <;> cases r <;> cases s <;> rfl

/-- Capital letters are not the prefix. -/
theorem not_infix_mappedStart {capitals : Bool × Bool × Bool × Bool} (hcapitals : mappedStart capitals ≠ mappedPrefix)
    (hcount : s.count ':' ≤ 1) : ¬ mappedPrefix <:+: mappedStart capitals ++ s := by
  intro hinside
  rcases List.infix_cons_iff.mp hinside with hstart | hinside
  · have hstarts := List.prefix_of_prefix_length_le hstart (List.prefix_append (mappedStart capitals) s) (le_refl 7)
    exact hcapitals (hstarts.eq_of_length rfl).symm
  rcases List.infix_cons_iff.mp hinside with hstart | hinside
  · -- after one colon comes no second one
    have hsecond : ':' = if capitals.1 then 'F' else 'f' :=
      (List.cons_prefix_cons.mp (List.cons_prefix_cons.mp hstart).2).1
    split_ifs at hsecond
    · cases hsecond
    · cases hsecond
  · refine not_infix_of_count ?_ hinside
    obtain ⟨p, q, r, s⟩ := capitals
    cases p <;> cases q <;> cases r <;> cases s <;> simp <;> omega

theorem mapped_plain (capitals : Bool × Bool × Bool × Bool) (address : V4Text) (port : ℕ)
    (hc : c ∈ mappedStart capitals ++ (address.text ++ ':' :: portText port)) : isSpace c = false ∧ c ≠ '[' := by
  rcases List.mem_append.mp hc with hc | hc
  · rcases mappedStart_chars capitals hc with rfl | rfl | rfl <;> decide
  rcases List.mem_append.mp hc with hc | hc
  · obtain ⟨hspace, -, -, hmem⟩ := address.plain hc
    refine ⟨hspace, ?_⟩
    rintro rfl
    exact hmem (by decide)
  rcases List.mem_cons.mp hc with rfl | hc
  · decide
  · refine ⟨isSpace_of_isDigit (List.all_eq_true.mp (portText_digits port) c hc), ?_⟩
    rintro rfl
    exact not_mem_portText rfl port hc

theorem rowIdOf_mapped (capitals : Bool × Bool × Bool × Bool) (address : V4Text) (port : ℕ) :
    rowIdOf ch (.mapped capitals address port) =
      keyOf (if mappedStart capitals = mappedPrefix then address.text else mappedPrefix ++ address.text) := by
  have hplain : ∀ c ∈ mappedStart capitals ++ (address.text ++ ':' :: portText port), isSpace c = false ∧ c ≠ '[' :=
    fun c hc => mapped_plain capitals address port hc
  have hcount : (address.text ++ ':' :: portText port).count ':' = 1 := by
    rw [List.count_append, address.count_colon, List.count_cons_self, count_portText]
  have hid := normalizeClientIdentity_some ch (s := mappedStart capitals ++ (address.text ++ ':' :: portText port))
    (List.cons_ne_nil _ _) fun c hc => (hplain c hc).1
  rw [rowIdOf, Client.text, hid, strippedClient_bare ch hplain]
  split_ifs with hcapitals
  · rw [hcapitals, dropMapped_start, dropMapped_eq_self (not_infix_of_count (by omega)), dropPort_portText,
      orElse_of_ne_nil address.ne_nil, address.lower_eq]
  · have hdrop : dropPort ch (mappedStart capitals ++ (address.text ++ ':' :: portText port)) =
        mappedStart capitals ++ address.text := by
      rw [← List.append_assoc, dropPort_portText]
    have hne : mappedStart capitals ++ address.text ≠ [] := List.cons_ne_nil _ _
    rw [dropMapped_eq_self (not_infix_mappedStart hcapitals hcount.le), hdrop, orElse_of_ne_nil hne, lower_append, lower_mappedStart, address.lower_eq]

/-! ### IPv6 addresses -/

theorem V6Text.chars (address : V6Text) (hc : c ∈ address.text) :
    isSpace c = false ∧ c ≠ '[' ∧ c ≠ ']' ∧ c.toNat < 128 := by
  rcases address.plain c hc with halnum | hmark
  · have hrange := Unicode.isAlphanum_iff.mp halnum
    have hspace : isSpace c = false := by
      simp only [isSpace, Bool.or_eq_false_iff, Bool.and_eq_false_iff, decide_eq_false_iff_not, beq_eq_false_iff_ne]
      omega
    refine ⟨hspace, ?_, ?_, by omega⟩
    · rintro rfl
      cases halnum
    · rintro rfl
      cases halnum
  · simp only [List.mem_cons, List.not_mem_nil, or_false] at hmark
    rcases hmark with rfl | rfl <;> decide

/-- **An IPv6 address is not empty when the prefix is dropped**: it starts with another character than a colon, or with
two of them that stay. -/
theorem V6Text.dropMapped_start (address : V6Text) :
    (∃ c rest, c ≠ ':' ∧ dropMapped address.text = c :: rest) ∨ ∃ rest, dropMapped address.text = ':' :: ':' :: rest := by
  have hstay {c : Char} {s : Text} (hstart : ¬ mappedPrefix <+: c :: s) : dropMapped (c :: s) = c :: dropMapped s := by
    rw [dropMapped, dropMappedAfter, if_neg hstart]
    rfl
  have hfirst {c : Char} (hc : c ≠ ':') (s : Text) : dropMapped (c :: s) = c :: dropMapped s :=
    hstay fun hstart => hc (List.cons_prefix_cons.mp hstart).1.symm
  have hdenotes := address.denotes
  cases htext : address.text with
  | nil =>
    rw [htext] at hdenotes
    cases hdenotes
  | cons c s =>
    by_cases hc : c = ':'
    · subst hc
      rw [htext] at hdenotes
      obtain ⟨rest, hrest, hgroups⟩ := start_of_parseV6 (s := s.map Char.toLower) hdenotes
      obtain ⟨d, s, rfl, hd, rfl⟩ := List.map_eq_cons_iff.mp hrest
      have hcolon : d = ':' := by
        rcases Unicode.toLower_eq_or_isLower d with h | h
        · exact h.symm.trans hd
        · rw [hd] at h
          cases h
      subst hcolon
      -- after `::` there is no empty group
      have hempty : ∀ before after, s = before ++ ':' :: after → before ≠ [] ∧ after ≠ [] ∧ ¬ [':'] <+: after := by
        rintro before after rfl
        rw [List.map_append, List.map_cons] at hgroups
        have hsplit := hgroups (by simp)
        rw [show Char.toLower ':' = ':' from rfl, List.splitOn_append_cons_self, List.mem_append, not_or] at hsplit
        refine ⟨?_, ?_, ?_⟩
        · rintro rfl
          exact hsplit.1 (List.mem_cons_self)
        · rintro rfl
          exact hsplit.2 (List.mem_cons_self)
        · rintro ⟨rest, rfl⟩
          refine hsplit.2 ?_
          have happend := List.splitOn_append_cons_self (a := ':') [] (rest.map Char.toLower)
          rw [List.nil_append, List.splitOn_nil, List.singleton_append] at happend
          rw [List.singleton_append, List.map_cons, show Char.toLower ':' = ':' from rfl, happend]
          exact List.mem_cons_self
      by_cases hstart : mappedPrefix <+: ':' :: ':' :: s
      · obtain ⟨after, hafter⟩ := hstart
        obtain rfl : 'f' :: 'f' :: 'f' :: 'f' :: ':' :: after = s := (List.cons.inj (List.cons.inj hafter).2).2
        obtain ⟨-, hne, hfirstColon⟩ := hempty ['f', 'f', 'f', 'f'] after rfl
        obtain ⟨c, after, rfl⟩ := List.exists_cons_of_ne_nil hne
        have hc : c ≠ ':' := by
          rintro rfl
          exact hfirstColon ⟨after, rfl⟩
        refine .inl ⟨c, dropMapped after, hc, ?_⟩
        rw [← hafter, TrafficClients.dropMapped_start, hfirst hc]
      · refine .inr ⟨dropMapped s, ?_⟩
        have hsecond : ¬ mappedPrefix <+: ':' :: s := by
          intro h
          obtain ⟨rest, hrest⟩ := (List.cons_prefix_cons.mp h).2
          exact (hempty [] _ hrest.symm).1 rfl
        rw [hstay hstart, hstay hsecond]
    · exact .inl ⟨c, dropMapped s, hc, hfirst hc s⟩

/-- What is before a port is empty only if the text starts with a colon that digits follow. -/
theorem dropPort_ne_nil (h : (∃ c rest, c ≠ ':' ∧ s = c :: rest) ∨ ∃ rest, s = ':' :: ':' :: rest) :
    dropPort ch s ≠ [] := by
  have hne : s ≠ [] := by
    rcases h with ⟨c, rest, -, rfl⟩ | ⟨rest, rfl⟩
    · exact List.cons_ne_nil _ _
    · exact List.cons_ne_nil _ _
  rw [dropPort]
  cases hparts : rpartition s with
  | none => exact hne
  | some halves =>
    have hs := eq_of_rpartition hparts
    dsimp only
    split_ifs with hport
    · intro hnil
      rw [hnil, List.nil_append] at hs
      rcases h with ⟨c, rest, hc, rfl⟩ | ⟨rest, rfl⟩
      · exact hc (List.cons.inj hs).1
      · have hcolon : ':' ∈ halves.2 := by
          rw [← (List.cons.inj hs).2]
          exact List.mem_cons_self
        have hdigit := List.all_eq_true.mp hport.2 ':' hcolon
        rw [isDigitChar_colon] at hdigit
        cases hdigit
    · exact hne

theorem V6Text.dropPort_ne_nil (address : V6Text) : dropPort ch (dropMapped address.text) ≠ [] :=
  TrafficClients.dropPort_ne_nil address.dropMapped_start

theorem V6Text.dropMapped_ne_nil (address : V6Text) : dropMapped address.text ≠ [] := by
  rcases address.dropMapped_start with ⟨c, rest, -, h⟩ | ⟨rest, h⟩
  · rw [h]
    exact List.cons_ne_nil _ _
  · rw [h]
    exact List.cons_ne_nil _ _

theorem V6Text.ne_nil (address : V6Text) : address.text ≠ [] := fun h => address.dropMapped_ne_nil (by rw [h]; rfl)

theorem rowIdOf_v6 (address : V6Text) :
    rowIdOf ch (.v6 address none) = keyOf (lower ch.unicode (dropPort ch (dropMapped address.text))) := by
  have hid := normalizeClientIdentity_some ch address.ne_nil fun c hc => (address.chars hc).1
  have hstripped := strippedClient_bare ch fun c hc => And.intro (address.chars hc).1 (address.chars hc).2.1
  rw [rowIdOf, Client.text, hid, hstripped, orElse_of_ne_nil address.dropPort_ne_nil]

theorem rowIdOf_v6_port (address : V6Text) (port : ℕ) :
    rowIdOf ch (.v6 address (some port)) = keyOf (lower ch.unicode (dropMapped address.text)) := by
  have hspace : ∀ c ∈ '[' :: (address.text ++ ']' :: ':' :: portText port), isSpace c = false := by
    simp only [List.forall_mem_cons, List.forall_mem_append]
    refine ⟨rfl, fun c hc => (address.chars hc).1, rfl, rfl, fun c hc => ?_⟩
    exact isSpace_of_isDigit (List.all_eq_true.mp (portText_digits port) c hc)
  have hid := normalizeClientIdentity_some ch (List.cons_ne_nil _ _) hspace
  have hstripped := strippedClient_brackets ch (fun c hc => (address.chars hc).1) (portText_digits port)
  rw [rowIdOf, Client.text, hid, hstripped, orElse_of_ne_nil address.dropMapped_ne_nil]

/-! ## Clients that are not damaged -/

theorem V6Text.lower_eq (address : V6Text) (u : Unicode) : lower u address.text = address.text.map Char.toLower :=
  lower_eq_map fun _ hc => (address.chars hc).2.2.2

/-- A text of the characters of an address is as long in small letters. -/
theorem V6Text.length_lower (address : V6Text) (u : Unicode) (h : s ⊆ address.text) : (lower u s).length = s.length := by
  rw [lower_eq_map fun _ hc => (address.chars (h hc)).2.2.2, List.length_map]

/-- A mapped address is a dotted quad after the prefix. -/
theorem exists_of_isMapped (h : isMapped s = true) : ∃ address : V4Text, s = mappedPrefix ++ address.text := by
  obtain ⟨⟨rest, rfl⟩, hquad⟩ := of_decide_eq_true h
  obtain ⟨bytes, hbytes⟩ := Option.isSome_iff_exists.mp hquad
  exact ⟨⟨rest, bytes, hbytes⟩, rfl⟩

theorem drop_mappedPrefix (s : Text) : (mappedPrefix ++ s).drop 7 = s := rfl

/-- Only decimal digits of an address are taken for a port. -/
theorem V6Text.dropPort_eq (address : V6Text) (h : endsInDecimal address.text = false) :
    dropPort ch address.text = address.text := by
  rw [endsInDecimal] at h
  rw [dropPort]
  cases hparts : rpartition address.text with
  | none => rfl
  | some halves =>
    rw [hparts] at h
    have hplain : ¬ (halves.2 ≠ [] ∧ halves.2.all Char.isDigit = true) := of_decide_eq_false h
    refine if_neg fun hport => hplain ⟨hport.1, List.all_eq_true.mpr fun c hc => ?_⟩
    have hdigit := List.all_eq_true.mp hport.2 c hc
    have hmem : c ∈ address.text := by
      rw [eq_of_rpartition hparts]
      exact List.mem_append_right _ (List.mem_cons_of_mem _ hc)
    rwa [Characters.isDigitChar, if_pos (address.chars hmem).2.2.2] at hdigit

/-- **The row of a client has its address as it is written.** -/
theorem rowIdOf_eq (h : ¬ client.Damaged ch) : rowIdOf ch client = keyOf (client.spelling ch) := by
  cases client with
  | empty text blank =>
    rw [rowIdOf, Client.text, normalizeClientIdentity]
    exact congrArg Prod.fst (if_pos blank)
  | host name port => exact rowIdOf_host name port
  | v6 address port =>
    by_cases hmapped : isMapped address.text = true
    · obtain ⟨quad, htext⟩ := exists_of_isMapped hmapped
      have hdropped : dropMapped address.text = quad.text := by
        rw [htext, dropMapped_start, dropMapped_eq_self (not_infix_of_count (by rw [quad.count_colon]; decide))]
      have hspelling : (Client.v6 address port).spelling ch = quad.text := by
        rw [Client.spelling, if_pos hmapped, htext, drop_mappedPrefix]
      rw [hspelling]
      cases port with
      | none =>
        rw [rowIdOf_v6, hdropped, dropPort_of_not_mem (colon_not_mem_of_parseV4 quad.denotes), quad.lower_eq]
      | some port => rw [rowIdOf_v6_port, hdropped, quad.lower_eq]
    · have hspelling : (Client.v6 address port).spelling ch = lower ch.unicode address.text := if_neg hmapped
      have hmapped : isMapped address.text = false := Bool.eq_false_iff.mpr hmapped
      have hprefix : ¬ mappedPrefix <:+: address.text := fun hinside => h ⟨hmapped, .inl hinside⟩
      rw [hspelling]
      cases port with
      | none =>
        have hport : endsInDecimal address.text = false := by
          refine Bool.eq_false_iff.mpr fun hdecimal => h ⟨hmapped, .inr ⟨rfl, hdecimal⟩⟩
        rw [rowIdOf_v6, dropMapped_eq_self hprefix, address.dropPort_eq hport]
      | some port => rw [rowIdOf_v6_port, dropMapped_eq_self hprefix]
  | mapped capitals address port =>
    rw [rowIdOf_mapped, if_pos (not_not.mp h)]
    rfl

/-- The address that is written. -/
def addressOf (text : Text) : Address :=
  if text = localClientId then .loopback
  else if ':' ∈ text then (parseV6 text).elim (.host text) addressOfGroups
  else addressOfHost text

theorem addressOf_quad (quad : V4Text) : addressOf quad.text = addressOfV4 quad.bytes := by
  have hdot : ∀ c ∈ quad.text, c.isAlpha = false := by
    intro c hc
    rcases quad.chars hc with hdigit | rfl
    · refine Bool.eq_false_iff.mpr fun halpha => ?_
      have hrange := Unicode.isDigit_iff.mp hdigit
      have := Unicode.isAlpha_iff.mp halpha
      omega
    · rfl
  have hname {name : Text} (h : 'l' ∈ name) : quad.text ≠ name := by
    rintro rfl
    exact absurd (hdot 'l' h) (by decide)
  rw [addressOf, if_neg (hname (by decide)), if_neg (colon_not_mem_of_parseV4 quad.denotes), addressOfHost,
    if_neg (hname (by decide)), quad.denotes]

/-- **The address is known from how it is written.** -/
theorem address_eq (h : ¬ client.Damaged ch) : client.address ch = addressOf (client.spelling ch) := by
  cases client with
  | empty text blank => rfl
  | host name port =>
    have hcolon : ':' ∉ lower ch.unicode name.text := by
      intro hmem
      obtain ⟨c, hc, hmem⟩ := List.mem_flatMap.mp hmem
      obtain rfl := Unicode.eq_of_mem_lowerChar hmem (by decide) (by decide)
      exact name.colon_not_mem hc
    have hlocal : lower ch.unicode name.text ≠ localClientId := h
    rw [Client.spelling, addressOf, if_neg hlocal, if_neg hcolon, Client.address]
  | v6 address port =>
    by_cases hmapped : isMapped address.text = true
    · obtain ⟨quad, htext⟩ := exists_of_isMapped hmapped
      obtain ⟨⟨a, b, c, d⟩, hbytes⟩ : ∃ bytes, bytes = quad.bytes := ⟨_, rfl⟩
      have hquad : parseV4 quad.text = some (a, b, c, d) := by rw [hbytes, quad.denotes]
      have hspelling : (Client.v6 address port).spelling ch = quad.text := by
        rw [Client.spelling, if_pos hmapped, htext, drop_mappedPrefix]
      have hsmall : address.text.map Char.toLower = mappedPrefix ++ quad.text := by
        rw [htext, List.map_append, ← lower_eq_map (u := ch.unicode) fun _ hc => (quad.plain hc).2.1, quad.lower_eq]
        rfl
      have hdenotes := address.denotes
      rw [hsmall] at hdenotes
      have hgroups : address.groups = [0, 0, 0, 0, 0, 0xffff, 256 * a + b, 256 * c + d] :=
        Option.some.inj (hdenotes.symm.trans (parseV6_mapped hquad))
      obtain ⟨hb, hd⟩ := lt_of_parseV4 hquad
      have hvalues : ((256 * a + b) / 256, (256 * a + b) % 256, (256 * c + d) / 256, (256 * c + d) % 256) =
          (a, b, c, d) := by
        refine Prod.ext ?_ (Prod.ext ?_ (Prod.ext ?_ ?_)) <;> dsimp only <;> omega
      rw [hspelling, addressOf_quad, ← hbytes, ← hvalues, Client.address, hgroups]
      rfl
    · have hspelling : (Client.v6 address port).spelling ch = lower ch.unicode address.text := if_neg hmapped
      have hdenotes := address.denotes
      rw [← address.lower_eq ch.unicode] at hdenotes
      have hcolon := colon_mem_of_parseV6 hdenotes
      have hlocal : lower ch.unicode address.text ≠ localClientId := by
        intro heq
        rw [heq] at hcolon
        exact absurd hcolon (by decide)
      rw [hspelling, addressOf, if_neg hlocal, if_pos hcolon, hdenotes]
      rfl
  | mapped capitals address port => exact (addressOf_quad address).symm

end DBClaw.TrafficClients
