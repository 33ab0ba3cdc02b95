import DBClaw.Hosts.Connections
import DBClaw.Library.JsonTokens
import Mathlib

/-! # Tables of connections
What the parser makes of the lines of the two tables. It never reads a line of `ss`, whose addresses stand one column
further, and of `netstat` it takes the state from the wrong column as soon as the header says "Address". -/

namespace DBClaw.HostNetwork

open Coercions

set_option maxRecDepth 2000

variable {t : Texts} {layout : Layout}

/-! ## Numbers -/

theorem isDigit_of_mem_decimal {n : ℕ} {c : Char} (h : c ∈ decimal n) : c.isDigit = true :=
  Nat.isDigit_of_mem_toDigits (by decide) (by decide) h

theorem decimal_ne_nil (n : ℕ) : decimal n ≠ [] := Nat.toDigits_ne_nil

/-- A digit is an ASCII character. -/
theorem toNat_of_isDigit {c : Char} (h : c.isDigit = true) : 48 ≤ c.toNat ∧ c.toNat ≤ 57 := Unicode.isDigit_iff.mp h

theorem isDecimalChar_of_isDigit {c : Char} (h : c.isDigit = true) : t.unicode.isDecimalChar c = true := by
  have hrange := toNat_of_isDigit h
  rw [Unicode.isDecimalChar, if_pos (by omega), h]

theorem not_mem_decimal {c : Char} (h : c.isDigit = false) (n : ℕ) : c ∉ decimal n := by
  intro hmem
  rw [isDigit_of_mem_decimal hmem] at h
  cases h

theorem decimal_all (n : ℕ) : ∀ c ∈ decimal n, t.unicode.isDecimalChar c = true :=
  fun _ hc => isDecimalChar_of_isDigit (isDigit_of_mem_decimal hc)

theorem number_decimal (n : ℕ) : t.number (decimal n) = n := by
  have hfold : t.number (decimal n) = Nat.ofDigitChars 10 (decimal n) 0 := by
    rw [Texts.number, Nat.ofDigitChars]
    refine List.foldl_ext _ _ _ fun m c hc => ?_
    have hrange := toNat_of_isDigit (isDigit_of_mem_decimal hc)
    rw [Texts.digitValue, if_pos (by omega)]
    rfl
  rw [hfold]
  exact Nat.ofDigitChars_ten_toDigits

/-- **A number that is printed is read back.** -/
theorem natural_decimal {n : ℕ} (h : n < 10 ^ 10) : t.natural (decimal n) = some n := by
  have hsplit : (decimal n).splitOn '_' = [decimal n] :=
    List.splitOnP_eq_singleton fun c hc => beq_false_of_ne fun heq => not_mem_decimal rfl n (heq ▸ hc)
  have hlength : (decimal n).length ≤ 10 := (Nat.length_toDigits_le_iff (by decide) (by decide)).mpr h
  have hall : (decimal n).all t.unicode.isDecimalChar = true := List.all_eq_true.mpr (decimal_all n)
  rw [Texts.natural]
  simp only [hsplit, List.flatten_singleton, number_decimal]
  rw [if_pos]
  simp only [List.all_cons, List.all_nil, hall, Bool.and_true, Bool.and_eq_true, decide_eq_true_eq]
  exact ⟨decimal_ne_nil n, by omega⟩

/-! ## Addresses -/

theorem matchBracketed_of_head {addr : Text} (h : ∀ c ∈ addr.head?, c ≠ '[') : matchBracketed t addr = none := by
  unfold matchBracketed
  split
  · exact absurd rfl (h '[' rfl)
  · rfl

/-- The text after the last character of a kind. -/
theorem rspan_append {p : Char → Bool} (s : Text) {c : Char} (hc : p c = false) {rest : Text}
    (hrest : ∀ d ∈ rest, p d = true) :
    (s ++ c :: rest).rtakeWhile p = rest ∧ (s ++ c :: rest).rdropWhile p = s ++ [c] := by
  have hreverse : (s ++ c :: rest).reverse = rest.reverse ++ (c :: s.reverse) := by simp
  have hrest' : ∀ d ∈ rest.reverse, p d = true := fun d hd => hrest d (List.mem_reverse.mp hd)
  have hfalse : ¬ p c = true := by
    rw [hc]
    exact Bool.false_ne_true
  constructor
  · rw [List.rtakeWhile, hreverse, List.takeWhile_append_of_pos hrest', List.takeWhile_cons_of_neg hfalse,
      List.append_nil, List.reverse_reverse]
  · rw [List.rdropWhile, hreverse, List.dropWhile_append_of_pos hrest', List.dropWhile_cons_of_neg hfalse]
    simp

/-- A number is no address. -/
theorem parseAddress_decimal (n : ℕ) : parseAddress t (decimal n) = none := by
  have hmatch : matchBracketed t (decimal n) = none :=
    matchBracketed_of_head fun c hc heq => not_mem_decimal rfl n (heq ▸ List.mem_of_mem_head? hc)
  rw [parseAddress, hmatch]
  exact if_neg (not_mem_decimal rfl n)

/-- The port of an endpoint as it is printed. -/
def Endpoint.portText (endpoint : Endpoint) : Text := (endpoint.port.map fun port => decimal port.val).getD ['*']

theorem Endpoint.colon_not_mem (endpoint : Endpoint) : ∀ c ∈ endpoint.portText, decide (c ≠ ':') = true := by
  intro c hc
  refine decide_eq_true fun heq => ?_
  subst heq
  rw [Endpoint.portText] at hc
  cases hport : endpoint.port with
  | none =>
    rw [hport] at hc
    revert hc
    decide
  | some port =>
    rw [hport] at hc
    exact not_mem_decimal rfl _ hc

/-- What is read after the last colon. -/
theorem Endpoint.read_portText (endpoint : Endpoint) (ip : Text) :
    (if endpoint.portText ≠ [] ∧ endpoint.portText.all t.unicode.isDecimalChar then
      (t.natural endpoint.portText).map fun n => (ip, n) else none) = endpoint.port.map fun port => (ip, port.val) := by
  rw [Endpoint.portText]
  cases endpoint.port with
  | none =>
    have hstar : t.unicode.isDecimalChar '*' = false := rfl
    rw [if_neg]
    · rfl
    · simp [hstar]
  | some port =>
    rw [if_pos ⟨decimal_ne_nil _, List.all_eq_true.mpr (decimal_all _)⟩]
    change (t.natural (decimal port)).map _ = _
    rw [natural_decimal (by omega)]
    rfl

/-- **An endpoint is read as it is**, when its port is numeric. -/
theorem parseAddress_text (endpoint : Endpoint) :
    parseAddress t endpoint.text = endpoint.port.map fun port => (endpoint.ip, port.val) := by
  have hcolon : ∀ host : Text, ':' ∈ host ++ ':' :: endpoint.portText := fun host => by simp
  have hplain : ∀ host : Text, matchBracketed t (host ++ ':' :: endpoint.portText) = none →
      parseAddress t (host ++ ':' :: endpoint.portText) = endpoint.port.map fun port => (host, port.val) := by
    intro host hmatch
    obtain ⟨htake, hdrop⟩ := rspan_append host (decide_eq_false (not_not.mpr rfl)) endpoint.colon_not_mem
    rw [parseAddress, hmatch]
    simp only [if_pos (hcolon host), htake, hdrop, List.dropLast_concat]
    exact endpoint.read_portText host
  rw [Endpoint.text, ← Endpoint.portText]
  cases hbracketed : endpoint.bracketed with
  | false =>
    refine hplain endpoint.ip (matchBracketed_of_head fun c hc heq => ?_)
    subst heq
    obtain ⟨d, ip, hip⟩ := List.exists_cons_of_ne_nil endpoint.ip_ne_nil
    rw [hip] at hc
    obtain rfl : d = '[' := Option.some.inj hc
    exact (endpoint.plain '[' (hip ▸ List.mem_cons_self)).2 (by decide)
  | true =>
    have hclosing : ∀ c ∈ endpoint.ip, decide (c ≠ ']') = true := by
      intro c hc
      refine decide_eq_true fun heq => (endpoint.plain c hc).2 ?_
      rw [heq]
      decide
    have hmatch : matchBracketed t ('[' :: (endpoint.ip ++ [']']) ++ ':' :: endpoint.portText) =
        endpoint.port.map fun port => (endpoint.ip, decimal port.val) := by
      have hrest : endpoint.ip ++ [']'] ++ ':' :: endpoint.portText =
          endpoint.ip ++ ']' :: ':' :: endpoint.portText := by simp
      rw [List.cons_append, hrest, matchBracketed, List.takeWhile_append_of_pos hclosing,
        List.dropWhile_append_of_pos hclosing, List.takeWhile_cons_of_neg (by simp),
        List.dropWhile_cons_of_neg (by simp), List.append_nil]
      simp only [Endpoint.portText]
      cases endpoint.port with
      | none => exact if_neg fun h => h.2 rfl
      | some port =>
        have hdigits : (decimal port).takeWhile t.unicode.isDecimalChar = decimal port :=
          List.takeWhile_eq_self_iff.mpr (decimal_all _)
        simp only [Option.map_some, Option.getD_some, hdigits]
        exact if_pos ⟨endpoint.ip_ne_nil, decimal_ne_nil _⟩
    cases hport : endpoint.port with
    | none =>
      rw [hport] at hmatch
      have hread := hplain _ hmatch
      rw [hport] at hread
      exact hread
    | some port =>
      rw [hport] at hmatch
      rw [parseAddress, if_pos rfl, hmatch]
      change (t.natural (decimal port)).map _ = _
      rw [natural_decimal (by omega)]
      rfl

/-! ## Columns -/

theorem Protocol.plain (proto : Protocol) : ∀ c ∈ proto.name, Text.isSpace c = false ∧ c ≠ '"' := by
  have hall : proto.name.all (fun c => ! Text.isSpace c && c != '"') = true := by
    cases proto <;> rfl
  intro c hc
  have hplain := List.all_eq_true.mp hall c hc
  rw [Bool.and_eq_true, Bool.not_eq_true', bne_iff_ne] at hplain
  exact hplain

theorem Protocol.name_ne_nil (proto : Protocol) : proto.name ≠ [] := by
  cases proto <;> exact List.cons_ne_nil _ _

theorem decimal_plain (n : ℕ) : ∀ c ∈ decimal n, Text.isSpace c = false ∧ c ≠ '"' :=
  fun _ hc => ⟨Text.isSpace_of_isDigit (isDigit_of_mem_decimal hc), fun heq => not_mem_decimal rfl n (heq ▸ hc)⟩

theorem Endpoint.text_plain (endpoint : Endpoint) : ∀ c ∈ endpoint.text, Text.isSpace c = false ∧ c ≠ '"' := by
  have hip : ∀ c ∈ endpoint.ip, Text.isSpace c = false ∧ c ≠ '"' := by
    intro c hc
    obtain ⟨hspace, hnot⟩ := endpoint.plain c hc
    refine ⟨hspace, fun heq => hnot ?_⟩
    rw [heq]
    decide
  have hport : ∀ c ∈ endpoint.portText, Text.isSpace c = false ∧ c ≠ '"' := by
    rw [Endpoint.portText]
    cases endpoint.port with
    | none => exact List.forall_mem_singleton.mpr ⟨rfl, by decide⟩
    | some port => exact decimal_plain _
  rw [Endpoint.text, ← Endpoint.portText]
  intro c hc
  rcases List.mem_append.mp hc with hc | hc
  · split_ifs at hc
    · rcases List.mem_cons.mp hc with rfl | hc
      · decide
      · rcases List.mem_append.mp hc with hc | hc
        · exact hip c hc
        · rw [List.mem_singleton.mp hc]
          decide
    · exact hip c hc
  · rcases List.mem_cons.mp hc with rfl | hc
    · decide
    · exact hport c hc

theorem Endpoint.text_ne_nil (endpoint : Endpoint) : endpoint.text ≠ [] := by simp [Endpoint.text]

/-- A column without spaces is one word. -/
theorem words_plain {column : Text} (hne : column ≠ []) (h : ∀ c ∈ column, Text.isSpace c = false ∧ c ≠ '"') :
    Text.words column = [column] := Text.words_word hne fun c hc => (h c hc).1

/-- A line starts with the name of its protocol, which is no heading. -/
theorem isHeading_cons {c : Char} (h : c ∉ ['N', 'P', 'A']) (rest : Text) : isHeading (c :: rest) = false := by
  refine decide_eq_false fun hprefix => h ?_
  rcases hprefix with hprefix | hprefix | hprefix
  · have hcons : 'N' :: "etid".toList <+: c :: rest := hprefix
    rw [← (List.cons_prefix_cons.mp hcons).1]
    decide
  · have hcons : 'P' :: "roto".toList <+: c :: rest := hprefix
    rw [← (List.cons_prefix_cons.mp hcons).1]
    decide
  · have hcons : 'A' :: "ctive".toList <+: c :: rest := hprefix
    rw [← (List.cons_prefix_cons.mp hcons).1]
    decide

theorem Protocol.exists_cons (proto : Protocol) : ∃ c rest, proto.name = c :: rest ∧ c ∉ ['N', 'P', 'A'] := by
  cases proto
  · exact ⟨_, _, rfl, by decide⟩
  · exact ⟨_, _, rfl, by decide⟩
  · exact ⟨_, _, rfl, by decide⟩
  · exact ⟨_, _, rfl, by decide⟩

/-- The columns of a line, with some blanks after them. -/
def Connection.body (c : Connection layout) (k : ℕ) : Text := Text.spaced c.columns c.gap ++ List.replicate k ' '

/-- **A line of `ss` is never read**: where the local address is looked for stands a number. -/
theorem parseLine_ss (c : Connection .ss) (marked : Bool) (k : ℕ) : parseLine t marked (c.body k) = none := by
  obtain ⟨state, hstate⟩ := Option.isSome_iff_exists.mp (c.ss_state rfl)
  have hcolumns : c.columns = c.proto.name :: state.text :: decimal c.recvQ :: decimal c.sendQ ::
      ([c.localEnd.text, c.peer.text] ++ (c.process.map Process.ssColumn).toList) := by
    rw [Connection.columns, Connection.stateColumn, hstate]
    rfl
  have hwords : ∃ more, Text.words (c.body k) = c.proto.name :: state.text :: decimal c.recvQ :: decimal c.sendQ :: more := by
    refine ⟨([c.localEnd.text, c.peer.text] ++ (c.process.map Process.ssColumn).toList).flatMap Text.words, ?_⟩
    rw [Connection.body, Text.words_append_blanks, Text.words_spaced, hcolumns, List.flatMap_cons, List.flatMap_cons,
      List.flatMap_cons, List.flatMap_cons, words_plain c.proto.name_ne_nil c.proto.plain,
      words_plain state.text_ne_nil state.plain, words_plain (decimal_ne_nil _) (decimal_plain _),
      words_plain (decimal_ne_nil _) (decimal_plain _)]
    rfl
  obtain ⟨more, hmore⟩ := hwords
  rw [parseLine, hmore]
  by_cases hline : c.body k = [] ∨ isHeading (c.body k) = true
  · exact if_pos hline
  · rw [if_neg hline]
    cases more with
    | nil => rfl
    | cons part more =>
      simp only [parseAddress_decimal]
      exact ite_self none

/-! ## Lines of netstat -/

/-- The process column of a line of `netstat`. -/
def Connection.processColumn (c : Connection .netstat) : Text := (c.process.map Process.netstatColumn).getD ['-']

/-- The process column starts with a digit or is a dash. -/
theorem Connection.processColumn_eq_cons (c : Connection .netstat) :
    ∃ d rest, c.processColumn = d :: rest ∧ (d.isDigit = true ∨ d = '-') := by
  rw [Connection.processColumn]
  cases c.process with
  | none => exact ⟨'-', [], rfl, .inr rfl⟩
  | some process =>
    obtain ⟨d, rest, hpid⟩ := List.exists_cons_of_ne_nil (decimal_ne_nil process.pid.val)
    refine ⟨d, rest ++ '/' :: process.name, ?_, .inl (isDigit_of_mem_decimal (hpid ▸ List.mem_cons_self))⟩
    rw [Option.map_some, Option.getD_some, Process.netstatColumn, hpid]
    rfl

/-- The words after the addresses. -/
def Connection.tailWords (c : Connection .netstat) : List Text := c.stateColumn ++ Text.words c.processColumn

theorem Connection.columns_netstat (c : Connection .netstat) : c.columns =
    [c.proto.name, decimal c.recvQ, decimal c.sendQ, c.localEnd.text, c.peer.text] ++ c.stateColumn ++
      [c.processColumn] := rfl

theorem Connection.words_body (c : Connection .netstat) (k : ℕ) : Text.words (c.body k) =
    c.proto.name :: decimal c.recvQ :: decimal c.sendQ :: c.localEnd.text :: c.peer.text :: c.tailWords := by
  have hstate : c.stateColumn.flatMap Text.words = c.stateColumn := by
    rw [Connection.stateColumn]
    cases c.state with
    | none => rfl
    | some state => exact (List.flatMap_singleton _ _).trans (words_plain state.text_ne_nil state.plain)
  rw [Connection.body, Text.words_append_blanks, Text.words_spaced, c.columns_netstat, List.flatMap_append,
    List.flatMap_append, hstate, List.flatMap_singleton]
  simp only [List.flatMap_cons, List.flatMap_nil, words_plain c.proto.name_ne_nil c.proto.plain,
    words_plain (decimal_ne_nil _) (decimal_plain _), words_plain c.localEnd.text_ne_nil c.localEnd.text_plain,
    words_plain c.peer.text_ne_nil c.peer.text_plain]
  rfl

/-- The state that is read of a line of `netstat`. -/
def Connection.readState (c : Connection .netstat) (marked : Bool) : Text :=
  if marked then decimal c.recvQ else c.tailWords.headD "UNKNOWN".toList

variable (t) in
/-- The process that is read of a line of `netstat`. -/
def Connection.readProcess (c : Connection .netstat) (k : ℕ) : Option (Option (Text × ℕ)) :=
  if 1 < c.tailWords.length then processOf t (c.body k) (c.tailWords.getLastD []) else some none

theorem Connection.body_ne_heading (c : Connection .netstat) (k : ℕ) :
    ¬ (c.body k = [] ∨ isHeading (c.body k) = true) := by
  obtain ⟨d, rest, hname, hd⟩ := c.proto.exists_cons
  obtain ⟨more, hmore⟩ : ∃ more, c.body k = d :: more := by
    rw [Connection.body, c.columns_netstat, hname]
    exact ⟨_, rfl⟩
  rw [hmore, isHeading_cons hd]
  simp

theorem lower_name (proto : Protocol) : Text.lower t.unicode proto.name = proto.name := by
  have hall : proto.name.all (fun c => c.toNat < 128 && c.toLower == c) = true := by
    cases proto <;> rfl
  refine Text.lower_of_fixed fun c hc => ?_
  have hfixed := List.all_eq_true.mp hall c hc
  rw [Bool.and_eq_true, decide_eq_true_eq, beq_iff_eq] at hfixed
  exact hfixed

/-- **What is read of a line of `netstat`**: the addresses of `tcp` and `udp` lines. -/
theorem parseLine_netstat (c : Connection .netstat) (marked : Bool) (k : ℕ) : parseLine t marked (c.body k) =
    if c.proto = .tcp ∨ c.proto = .udp then
      c.entry.bind fun entry => (c.readProcess t k).map fun process =>
        { entry with
          state := c.readState marked
          processName := process.map Prod.fst
          pid := process.map Prod.snd }
    else none := by
  have hproto : Text.lower t.unicode c.proto.name ∉ ["tcp".toList, "udp".toList] ↔ ¬ (c.proto = .tcp ∨ c.proto = .udp) := by
    rw [lower_name]
    cases c.proto <;> decide
  rw [parseLine, c.words_body, if_neg (c.body_ne_heading k)]
  by_cases hlisted : c.proto = .tcp ∨ c.proto = .udp
  · have hnot : ¬ Text.lower t.unicode c.proto.name ∉ ["tcp".toList, "udp".toList] := fun h => hproto.mp h hlisted
    refine (if_neg hnot).trans ?_
    rw [if_pos hlisted, parseAddress_text, parseAddress_text, Connection.entry]
    cases hlocal : c.localEnd.port with
    | none => rfl
    | some localPort =>
      cases hpeer : c.peer.port with
      | none => rfl
      | some remotePort =>
        have hips : ¬ (c.localEnd.ip = [] ∨ c.peer.ip = []) :=
          fun h => h.elim c.localEnd.ip_ne_nil c.peer.ip_ne_nil
        simp only [Option.map_some, Option.bind_eq_bind, Option.bind_some, if_neg hips]
        rfl
  · rw [if_neg hlisted]
    exact if_pos (hproto.mpr hlisted)

/-! ## The process -/

theorem Connection.quote_not_mem (c : Connection .netstat) (k : ℕ) : '"' ∉ c.body k := by
  have hcolumn : ∀ column ∈ c.columns, '"' ∉ column := by
    have hprocess : '"' ∉ c.processColumn := by
      rw [Connection.processColumn]
      cases c.process with
      | none => exact fun h => absurd (List.mem_singleton.mp h) (by decide)
      | some process =>
        rw [Option.map_some, Option.getD_some, Process.netstatColumn]
        intro h
        rcases List.mem_append.mp h with h | h
        · exact not_mem_decimal rfl _ h
        · rcases List.mem_cons.mp h with h | h
          · exact absurd h (by decide)
          · exact (process.plain _ h).2 rfl
    have hstate : ∀ column ∈ c.stateColumn, '"' ∉ column := by
      rw [Connection.stateColumn]
      cases c.state with
      | none => exact List.forall_mem_nil _
      | some state => exact List.forall_mem_singleton.mpr fun h => (state.plain _ h).2 rfl
    have hplain : ∀ {column : Text}, (∀ ch ∈ column, Text.isSpace ch = false ∧ ch ≠ '"') → '"' ∉ column :=
      fun h hmem => (h _ hmem).2 rfl
    rw [c.columns_netstat]
    intro column hmem
    rcases List.mem_append.mp hmem with hmem | hmem
    · rcases List.mem_append.mp hmem with hmem | hmem
      · simp only [List.mem_cons, List.not_mem_nil, or_false] at hmem
        rcases hmem with rfl | rfl | rfl | rfl | rfl
        · exact hplain c.proto.plain
        · exact hplain (decimal_plain _)
        · exact hplain (decimal_plain _)
        · exact hplain c.localEnd.text_plain
        · exact hplain c.peer.text_plain
      · exact hstate column hmem
    · rw [List.mem_singleton.mp hmem]
      exact hprocess
  intro h
  rcases List.mem_append.mp h with h | h
  · rcases Text.mem_spaced h with h | ⟨column, hmem, h⟩
    · exact absurd h (by decide)
    · exact hcolumn column hmem h
  · exact absurd (List.eq_of_mem_replicate h) (by decide)

theorem matchSsProcess_of_quote {s : Text} (h : '"' ∉ s) : matchSsProcess t s = none := by
  unfold matchSsProcess
  split
  · exact absurd (List.mem_cons_of_mem _ List.mem_cons_self) h
  · rfl

/-- A line without quotation marks has no process of the form of `ss`. -/
theorem processOf_of_quote {line : Text} (h : '"' ∉ line) (lastPart : Text) : processOf t line lastPart =
    processOfGroups t (lastPart.tails.findSome? (matchNetstatProcess t)) := by
  have hnone : line.tails.findSome? (matchSsProcess t) = none := by
    refine List.findSome?_eq_none_iff.mpr fun tail htail => matchSsProcess_of_quote fun hmem => h ?_
    exact ((List.mem_tails _ _).mp htail).mem hmem
  rw [processOf, hnone, Option.none_or]

/-- The name that is read has no spaces. -/
theorem plain_of_matchNetstatProcess {s name digits : Text} (h : matchNetstatProcess t s = some (name, digits)) :
    ∀ c ∈ name, Text.isSpace c = false := by
  unfold matchNetstatProcess at h
  split at h
  · simp only at h
    split_ifs at h
    obtain ⟨rfl, -⟩ := Prod.mk.inj (Option.some.inj h)
    intro c hc
    have hkeep := List.mem_takeWhile_imp hc
    rwa [Bool.not_eq_true'] at hkeep
  · cases h

/-- **A process whose name has no spaces is read as it is.** -/
theorem matchNetstatProcess_column (process : Process) (h : ∀ c ∈ process.name, Text.isSpace c = false) :
    process.netstatColumn.tails.findSome? (matchNetstatProcess t) = some (process.name, decimal process.pid.val) := by
  have hslash : t.unicode.isDecimalChar '/' = false := rfl
  have hmatch : matchNetstatProcess t process.netstatColumn = some (process.name, decimal process.pid.val) := by
    have hname : process.name.takeWhile (! Text.isSpace ·) = process.name :=
      List.takeWhile_eq_self_iff.mpr fun c hc => by rw [h c hc]; rfl
    have hslash' : ¬ t.unicode.isDecimalChar '/' = true := by
      rw [hslash]
      exact Bool.false_ne_true
    rw [matchNetstatProcess, Process.netstatColumn, List.takeWhile_append_of_pos (decimal_all _),
      List.dropWhile_append_of_pos (decimal_all _), List.takeWhile_cons_of_neg hslash',
      List.dropWhile_cons_of_neg hslash', List.append_nil]
    simp only [hname]
    exact if_pos ⟨decimal_ne_nil _, process.name_ne_nil⟩
  cases hcolumn : process.netstatColumn with
  | nil =>
    rw [hcolumn] at hmatch
    cases hmatch
  | cons c rest =>
    rw [hcolumn] at hmatch
    rw [List.tails, List.findSome?_cons, hmatch]

/-- **The process is read as it is** when its name has no spaces. -/
theorem Connection.readProcess_iff (c : Connection .netstat) (k : ℕ) (hstate : c.state.isSome) :
    c.readProcess t k = some (c.process.map fun process => (process.name, process.pid.val)) ↔
      ∀ process ∈ c.process, ∀ ch ∈ process.name, Text.isSpace ch = false := by
  obtain ⟨state, hstate⟩ := Option.isSome_iff_exists.mp hstate
  obtain ⟨d, rest, hcolumn, hd⟩ := c.processColumn_eq_cons
  have hdspace : Text.isSpace d = false := by
    rcases hd with hd | rfl
    · exact Text.isSpace_of_isDigit hd
    · rfl
  obtain ⟨more, words, hwords⟩ := Text.exists_words_eq_cons hdspace rest
  rw [← hcolumn] at hwords
  have htail : c.tailWords = state.text :: (d :: more) :: words := by
    rw [Connection.tailWords, Connection.stateColumn, hstate, hwords]
    rfl
  have hlast : c.tailWords.getLastD [] = (Text.words c.processColumn).getLastD [] := by
    rw [htail, hwords]
    rfl
  rw [Connection.readProcess, if_pos (by rw [htail]; simp), processOf_of_quote (c.quote_not_mem k), hlast]
  rw [Connection.processColumn]
  cases hprocess : c.process with
  | none =>
    have hdash : (Text.words ['-']).getLastD [] = ['-'] := rfl
    have hfind : ['-'].tails.findSome? (matchNetstatProcess t) = none := rfl
    rw [Option.map_none, Option.getD_none, hdash, hfind]
    refine iff_of_true rfl fun process hnone => ?_
    cases hnone
  | some process =>
    rw [Option.map_some, Option.getD_some]
    constructor
    · intro h p hp
      obtain rfl := Option.some.inj hp
      cases hfound : ((Text.words process.netstatColumn).getLastD []).tails.findSome? (matchNetstatProcess t) with
      | none =>
        rw [hfound] at h
        cases h
      | some groups =>
        obtain ⟨name, digits⟩ := groups
        obtain ⟨tail, -, htail⟩ := List.exists_of_findSome?_eq_some hfound
        rw [hfound] at h
        obtain ⟨pid, -, hpid⟩ := Option.map_eq_some_iff.mp h
        have hname : name = process.name := (Prod.mk.inj (Option.some.inj hpid)).1
        rw [← hname]
        exact plain_of_matchNetstatProcess htail
    · intro h
      have hname := h process rfl
      have hcolumn : ∀ ch ∈ process.netstatColumn, Text.isSpace ch = false := by
        intro ch hch
        rcases List.mem_append.mp hch with hch | hch
        · exact Text.isSpace_of_isDigit (isDigit_of_mem_decimal hch)
        · rcases List.mem_cons.mp hch with rfl | hch
          · rfl
          · exact hname ch hch
      have hne : process.netstatColumn ≠ [] := by simp [Process.netstatColumn]
      rw [Text.words_word hne hcolumn]
      change processOfGroups t (process.netstatColumn.tails.findSome? (matchNetstatProcess t)) = _
      rw [matchNetstatProcess_column process hname]
      change (t.natural (decimal process.pid.val)).map _ = _
      rw [natural_decimal (process.pid.isLt.trans (by decide))]
      rfl

/-! ## When a line is read as it is -/

/-- **A line that the parser reads as it is**: a `tcp` or `udp` line of `netstat` with a state and without spaces in the
name of its process, under a header that is not taken for that of `ss`. -/
def Connection.Readable (c : Connection layout) (marked : Bool) : Prop :=
  layout = .netstat ∧ marked = false ∧ (c.proto = .tcp ∨ c.proto = .udp) ∧ c.state.isSome = true ∧
    ∀ process ∈ c.process, ∀ ch ∈ process.name, Text.isSpace ch = false

/-- The entry of a connection has the data of its columns. -/
theorem Connection.of_entry {c : Connection layout} {entry : Entry} (h : c.entry = some entry) :
    entry.state = (c.state.map State.text).getD "UNKNOWN".toList ∧ entry.processName = c.process.map Process.name ∧
      entry.pid = c.process.map fun process => process.pid.val := by
  rw [Connection.entry] at h
  cases hlocal : c.localEnd.port with
  | none =>
    rw [hlocal] at h
    cases h
  | some localPort =>
    cases hpeer : c.peer.port with
    | none =>
      rw [hlocal, hpeer] at h
      cases h
    | some remotePort =>
      rw [hlocal, hpeer] at h
      obtain rfl := Option.some.inj h
      exact ⟨rfl, rfl, rfl⟩

/-- A state is no number. -/
theorem state_ne_decimal (c : Connection layout) (n : ℕ) : decimal n ≠ (c.state.map State.text).getD "UNKNOWN".toList := by
  obtain ⟨d, rest, hdigits⟩ := List.exists_cons_of_ne_nil (decimal_ne_nil n)
  have hdigit : d.isDigit = true := isDigit_of_mem_decimal (hdigits ▸ List.mem_cons_self)
  rw [hdigits]
  intro h
  cases hstate : c.state with
  | none =>
    rw [hstate] at h
    have hU : d = 'U' := (List.cons.inj h).1
    rw [hU] at hdigit
    exact absurd hdigit (by decide)
  | some state =>
    rw [hstate] at h
    have hhead := state.head_not_digit d (by
      rw [← (show d :: rest = state.text from h)]
      rfl)
    rw [hdigit] at hhead
    cases hhead

/-- **What is read of the state**: it is the state of the line exactly when the line has one and the header is not
taken for that of `ss`. -/
theorem readState_iff (c : Connection .netstat) (marked : Bool) :
    c.readState marked = (c.state.map State.text).getD "UNKNOWN".toList ↔ marked = false ∧ c.state.isSome = true := by
  rw [Connection.readState]
  cases marked with
  | true => exact iff_of_false (state_ne_decimal c _) fun h => absurd h.1 (by decide)
  | false =>
    rw [if_neg Bool.false_ne_true, Connection.tailWords, Connection.stateColumn]
    cases hstate : c.state with
    | some state => exact iff_of_true rfl ⟨rfl, rfl⟩
    | none =>
      refine iff_of_false (fun h => ?_) fun h => absurd h.2 (by decide)
      obtain ⟨d, rest, hcolumn, hd⟩ := c.processColumn_eq_cons
      have hdspace : Text.isSpace d = false := by
        rcases hd with hd | rfl
        · exact Text.isSpace_of_isDigit hd
        · rfl
      obtain ⟨more, words, hwords⟩ := Text.exists_words_eq_cons hdspace rest
      rw [hcolumn, hwords] at h
      have hU : d = 'U' := (List.cons.inj h).1
      rw [hU] at hd
      exact absurd hd (by decide)

/-- **A line is read as it is** when it has no entry or is readable. -/
theorem parseLine_eq_entry_iff (c : Connection layout) (marked : Bool) (k : ℕ) :
    parseLine t marked (c.body k) = c.entry ↔ c.entry = none ∨ c.Readable marked := by
  cases layout with
  | ss =>
    rw [parseLine_ss]
    constructor
    · exact fun h => .inl h.symm
    · rintro (h | h)
      · exact h.symm
      · exact absurd h.1 (by decide)
  | netstat =>
    rw [parseLine_netstat]
    cases hentry : c.entry with
    | none =>
      refine iff_of_true ?_ (.inl rfl)
      rw [Option.bind_none]
      exact ite_self none
    | some entry =>
      obtain ⟨hstate, hname, hpid⟩ := c.of_entry hentry
      have hread := readState_iff c marked
      rw [← hstate] at hread
      by_cases hlisted : c.proto = .tcp ∨ c.proto = .udp
      · rw [if_pos hlisted, Option.bind_some]
        constructor
        · intro h
          obtain ⟨process, hprocess, heq⟩ := Option.map_eq_some_iff.mp h
          obtain ⟨hmarked, hsome⟩ := hread.mp (congrArg Entry.state heq)
          refine .inr ⟨rfl, hmarked, hlisted, hsome, (c.readProcess_iff (t := t) k hsome).mp ?_⟩
          rw [hprocess]
          have hname' : process.map Prod.fst = c.process.map Process.name := (congrArg Entry.processName heq).trans hname
          have hpid' : process.map Prod.snd = c.process.map fun process => process.pid.val :=
            (congrArg Entry.pid heq).trans hpid
          cases process with
          | none =>
            cases hp : c.process with
            | none => rfl
            | some p =>
              rw [hp] at hname'
              cases hname'
          | some pair =>
            cases hp : c.process with
            | none =>
              rw [hp] at hname'
              cases hname'
            | some p =>
              rw [hp] at hname' hpid'
              have hpair : pair = (p.name, p.pid.val) := Prod.ext (Option.some.inj hname') (Option.some.inj hpid')
              rw [hpair]
              rfl
        · rintro (h | ⟨-, hmarked, -, hsome, hplain⟩)
          · cases h
          · rw [(c.readProcess_iff k hsome).mpr hplain, Option.map_some, hread.mpr ⟨hmarked, hsome⟩, Option.map_map,
              Option.map_map]
            cases entry
            simp only at hname hpid
            rw [hname, hpid]
            rfl
      · rw [if_neg hlisted]
        refine iff_of_false (fun h => ?_) ?_
        · cases h
        · rintro (h | h)
          · cases h
          · exact hlisted h.2.2.1

/-- A line with an entry only is read. -/
theorem isSome_entry_of_parseLine {c : Connection layout} {marked : Bool} {k : ℕ}
    (h : (parseLine t marked (c.body k)).isSome) : c.entry.isSome := by
  cases layout with
  | ss =>
    rw [parseLine_ss] at h
    cases h
  | netstat =>
    rw [parseLine_netstat] at h
    split_ifs at h
    · cases hentry : c.entry with
      | none =>
        rw [hentry] at h
        cases h
      | some entry => rfl
    · cases h

/-! ## The whole table -/

/-- Where one loop keeps no more than another, they keep the same only when they agree at every turn. -/
theorem filterMap_eq_iff {α β : Type} {f g : α → Option β} {xs : List α}
    (h : ∀ x ∈ xs, (f x).isSome → (g x).isSome) : xs.filterMap f = xs.filterMap g ↔ ∀ x ∈ xs, f x = g x := by
  have hlength : ∀ ys : List α, (∀ x ∈ ys, (f x).isSome → (g x).isSome) →
      (ys.filterMap f).length ≤ (ys.filterMap g).length := by
    intro ys hys
    rw [List.length_filterMap_eq_countP, List.length_filterMap_eq_countP]
    exact List.countP_mono_left hys
  constructor
  · intro heq
    induction xs with
    | nil => exact List.forall_mem_nil _
    | cons x xs ih =>
      have hx := h x List.mem_cons_self
      have hxs : ∀ y ∈ xs, (f y).isSome → (g y).isSome := fun y hy => h y (List.mem_cons_of_mem x hy)
      cases hf : f x with
      | none =>
        cases hg : g x with
        | none =>
          rw [List.filterMap_cons_none hf, List.filterMap_cons_none hg] at heq
          exact List.forall_mem_cons.mpr ⟨hf.trans hg.symm, ih hxs heq⟩
        | some b =>
          rw [List.filterMap_cons_none hf, List.filterMap_cons_some hg] at heq
          have hshort := hlength xs hxs
          rw [heq, List.length_cons] at hshort
          omega
      | some a =>
        obtain ⟨b, hg⟩ := Option.isSome_iff_exists.mp (hx (by rw [hf]; rfl))
        rw [List.filterMap_cons_some hf, List.filterMap_cons_some hg] at heq
        obtain ⟨rfl, hrest⟩ := List.cons.inj heq
        exact List.forall_mem_cons.mpr ⟨hf.trans hg.symm, ih hxs hrest⟩
  · exact fun heq => List.filterMap_congr heq

theorem parseLine_heading {marked : Bool} {line : Text} (h : isHeading line = true) : parseLine t marked line = none :=
  if_pos (.inr h)

theorem rstrip_closing (start : Text) : Text.rstrip (start ++ [')', ')']) = start ++ [')', ')'] := by
  have hclosing : Text.rstrip [')', ')'] = [')', ')'] := rfl
  rw [Text.rstrip_append (by rw [hclosing]; exact List.cons_ne_nil _ _), hclosing]

/-- The last column of a line has no space at its end. -/
theorem Connection.rstrip_line (c : Connection layout) : Text.rstrip c.line = c.body 0 ∧ c.body 0 ≠ [] := by
  obtain ⟨columns, column, hcolumns, hend⟩ : ∃ columns column, c.columns = columns ++ [column] ∧
      (Text.rstrip column = column ∧ column ≠ []) := by
    have hpeer : Text.rstrip c.peer.text = c.peer.text := Text.rstrip_of_forall fun ch hch => (c.peer.text_plain ch hch).1
    cases layout with
    | ss =>
      cases hprocess : c.process with
      | none =>
        refine ⟨[c.proto.name] ++ c.stateColumn ++ [decimal c.recvQ, decimal c.sendQ, c.localEnd.text], c.peer.text, ?_,
          hpeer, c.peer.text_ne_nil⟩
        simp [Connection.columns, hprocess]
      | some process =>
        refine ⟨[c.proto.name] ++ c.stateColumn ++ [decimal c.recvQ, decimal c.sendQ, c.localEnd.text, c.peer.text],
          process.ssColumn, ?_, rstrip_closing _, List.append_ne_nil_of_right_ne_nil _ (List.cons_ne_nil _ _)⟩
        rw [Connection.columns, hprocess, Option.map_some, Option.toList_some]
    | netstat =>
      refine ⟨_, c.processColumn, c.columns_netstat, ?_, ?_⟩
      · rw [Connection.processColumn]
        cases c.process with
        | none => rfl
        | some process =>
          have hname : Text.rstrip process.name = process.name := by
            have hidem : Text.rstrip (Text.strip process.name) = Text.strip process.name :=
              List.rdropWhile_idempotent _ _
            rwa [process.stripped] at hidem
          have hcolumn : process.netstatColumn = (decimal process.pid.val ++ ['/']) ++ process.name := by
            simp [Process.netstatColumn]
          rw [Option.map_some, Option.getD_some, hcolumn,
            Text.rstrip_append (by rw [hname]; exact process.name_ne_nil), hname]
      · obtain ⟨d, rest, hcons, -⟩ := c.processColumn_eq_cons
        rw [hcons]
        exact List.cons_ne_nil _ _
  obtain ⟨start, hstart⟩ := Text.spaced_append_singleton columns column c.gap
  rw [Connection.line, Text.rstrip_append_blanks, Connection.body, hcolumns, hstart, List.replicate_zero, List.append_nil,
    Text.rstrip_append (by rw [hend.1]; exact hend.2), hend.1]
  exact ⟨rfl, List.append_ne_nil_of_right_ne_nil _ hend.2⟩

/-- The blanks after the columns do not matter. -/
theorem parseLine_body (c : Connection layout) (marked : Bool) (k : ℕ) :
    parseLine t marked (c.body k) = parseLine t marked (c.body 0) := by
  cases layout with
  | ss => rw [parseLine_ss, parseLine_ss]
  | netstat =>
    have hprocess : c.readProcess t k = c.readProcess t 0 := by
      rw [Connection.readProcess, Connection.readProcess, processOf_of_quote (c.quote_not_mem k),
        processOf_of_quote (c.quote_not_mem 0)]
    rw [parseLine_netstat, parseLine_netstat, hprocess]

/-- What a text starts with is kept when its end is stripped. -/
theorem prefix_rstrip {p s : Text} (hp : ∀ c ∈ p, Text.isSpace c = false) (h : p <+: s) : p <+: Text.rstrip s := by
  rcases List.prefix_or_prefix_of_prefix h (List.rdropWhile_prefix Text.isSpace s) with hshort | hlong
  · exact hshort
  · -- what is left is a part of the word, and what is dropped is white space
    obtain ⟨rest, rfl⟩ := hlong
    obtain ⟨more, hmore⟩ := h
    have hdropped : rest ++ more = s.rtakeWhile Text.isSpace := by
      have hwhole := hmore.trans (List.rdropWhile_append_rtakeWhile (p := Text.isSpace)).symm
      rw [List.append_assoc] at hwhole
      exact List.append_cancel_left hwhole
    have hnil : rest = [] := by
      refine List.eq_nil_iff_forall_not_mem.mpr fun c hc => ?_
      have hspace : Text.isSpace c = true := List.mem_rtakeWhile_imp (hdropped ▸ List.mem_append_left more hc)
      rw [hp c (List.mem_append_right _ hc)] at hspace
      cases hspace
    rw [hnil, List.append_nil]
    exact List.prefix_rfl

theorem isHeading_rstrip {line : Text} (h : isHeading line = true) : isHeading (Text.rstrip line) = true := by
  have hplain : ∀ p : Text, (p.all fun c => ! Text.isSpace c) = true → ∀ c ∈ p, Text.isSpace c = false := by
    intro p hp c hc
    have hc := List.all_eq_true.mp hp c hc
    rwa [Bool.not_eq_true'] at hc
  refine decide_eq_true ?_
  exact (of_decide_eq_true h).imp (prefix_rstrip (hplain _ rfl))
    (Or.imp (prefix_rstrip (hplain _ rfl)) (prefix_rstrip (hplain _ rfl)))

/-- A heading starts with a letter. -/
theorem head_of_isHeading {line : Text} (h : isHeading line = true) :
    ∃ c rest, line = c :: rest ∧ Text.isSpace c = false := by
  have hstart : ∀ (c : Char) (word : Text), c :: word <+: line → ∃ rest, line = c :: rest := by
    rintro c word ⟨rest, hrest⟩
    exact ⟨word ++ rest, hrest.symm⟩
  rcases of_decide_eq_true h with hprefix | hprefix | hprefix
  · obtain ⟨rest, hrest⟩ := hstart 'N' _ hprefix
    exact ⟨'N', rest, hrest, rfl⟩
  · obtain ⟨rest, hrest⟩ := hstart 'P' _ hprefix
    exact ⟨'P', rest, hrest, rfl⟩
  · obtain ⟨rest, hrest⟩ := hstart 'A' _ hprefix
    exact ⟨'A', rest, hrest, rfl⟩

theorem Process.newline_not_mem (process : Process) :
    '\n' ∉ process.ssColumn ∧ '\n' ∉ process.netstatColumn := by
  have hname : '\n' ∉ process.name := fun h => (process.plain _ h).1 rfl
  have hdecimal : ∀ n, '\n' ∉ decimal n := not_mem_decimal rfl
  rw [Process.ssColumn, Process.netstatColumn]
  simp only [List.mem_append, List.mem_cons, hname, hdecimal, List.not_mem_nil]
  decide

theorem Connection.newline_not_mem (c : Connection layout) : '\n' ∉ c.line := by
  have hplain : ∀ {column : Text}, (∀ ch ∈ column, Text.isSpace ch = false ∧ ch ≠ '"') → '\n' ∉ column :=
    fun h hmem => absurd (h _ hmem).1 (by decide)
  have hstate : ∀ column ∈ c.stateColumn, '\n' ∉ column := by
    rw [Connection.stateColumn]
    cases c.state with
    | none => exact List.forall_mem_nil _
    | some state => exact List.forall_mem_singleton.mpr (hplain state.plain)
  have hcolumn : ∀ column ∈ c.columns, '\n' ∉ column := by
    cases layout with
    | ss =>
      have hprocess : ∀ column ∈ (c.process.map Process.ssColumn).toList, '\n' ∉ column := by
        cases c.process with
        | none => exact List.forall_mem_nil _
        | some process => exact List.forall_mem_singleton.mpr process.newline_not_mem.1
      rw [Connection.columns]
      simp only [List.forall_mem_append, List.forall_mem_cons]
      exact ⟨⟨⟨⟨hplain c.proto.plain, List.forall_mem_nil _⟩, hstate⟩, hplain (decimal_plain _), hplain (decimal_plain _),
        hplain c.localEnd.text_plain, hplain c.peer.text_plain, List.forall_mem_nil _⟩, hprocess⟩
    | netstat =>
      have hprocess : '\n' ∉ c.processColumn := by
        rw [Connection.processColumn]
        cases c.process with
        | none => exact fun h => absurd (List.mem_singleton.mp h) (by decide)
        | some process => exact process.newline_not_mem.2
      rw [c.columns_netstat]
      simp only [List.forall_mem_append, List.forall_mem_cons]
      exact ⟨⟨⟨hplain c.proto.plain, hplain (decimal_plain _), hplain (decimal_plain _), hplain c.localEnd.text_plain,
        hplain c.peer.text_plain, List.forall_mem_nil _⟩, hstate⟩, hprocess, List.forall_mem_nil _⟩
  intro h
  rcases List.mem_append.mp h with h | h
  · rcases Text.mem_spaced h with h | ⟨column, hmem, h⟩
    · exact absurd h (by decide)
    · exact hcolumn column hmem h
  · exact absurd (List.eq_of_mem_replicate h) (by decide)

/-- **What is read of a table**: the lines of its connections, one by one. -/
theorem parseSsOutput_eq (header : Header) (connections : List (Connection layout)) :
    parseSsOutput t (output header connections) = connections.filterMap fun c =>
      parseLine t (marksSs t (output header connections)) (c.body 0) := by
  generalize hmarked : marksSs t (output header connections) = marked
  have hhead : ∀ lines, ∀ ch ∈ (Text.table (header.lines ++ lines)).head?, Text.isSpace ch = false := by
    intro lines ch hch
    obtain ⟨first, rest, hlines⟩ := List.exists_cons_of_ne_nil header.ne_nil
    obtain ⟨d, more, hfirst, hd⟩ := head_of_isHeading (header.heading first (hlines ▸ List.mem_cons_self))
    rw [hlines, hfirst] at hch
    obtain rfl : d = ch := Option.some.inj hch
    exact hd
  have hheading : ∀ lines : List Text, (∀ line ∈ lines, isHeading line = true) → lines.filterMap (parseLine t marked) = [] :=
    fun lines h => List.filterMap_eq_nil_iff.mpr fun line hline => parseLine_heading (h line hline)
  rw [parseSsOutput, hmarked, output]
  cases connections using List.reverseRecOn with
  | nil =>
    obtain ⟨lines, last, hlines⟩ := (List.eq_nil_or_concat' header.lines).resolve_left header.ne_nil
    have hlast : last ∈ header.lines := by simp [hlines]
    have hfirst : ∀ line ∈ lines, line ∈ header.lines := fun line hline => by simp [hlines, hline]
    have hstrip := isHeading_rstrip (header.heading last hlast)
    have hhead := hhead []
    obtain ⟨d, more, hd, -⟩ := head_of_isHeading hstrip
    rw [List.append_nil, hlines] at hhead
    rw [List.map_nil, List.append_nil, hlines, Text.lines_table lines (fun line hline =>
      header.no_newline line (hfirst line hline)) (header.no_newline last hlast) (by rw [hd]; exact List.cons_ne_nil _ _)
      hhead]
    refine hheading _ (List.forall_mem_append.mpr ⟨fun line hline => header.heading line (hfirst line hline), ?_⟩)
    exact List.forall_mem_singleton.mpr hstrip
  | append_singleton connections c =>
    obtain ⟨hstrip, hne⟩ := c.rstrip_line
    have hlines : ∀ line ∈ header.lines ++ connections.map Connection.line, '\n' ∉ line := by
      refine List.forall_mem_append.mpr ⟨header.no_newline, ?_⟩
      intro line hline
      obtain ⟨other, -, rfl⟩ := List.mem_map.mp hline
      exact other.newline_not_mem
    have hhead := hhead ((connections ++ [c]).map Connection.line)
    rw [List.map_append, List.map_singleton, ← List.append_assoc] at hhead ⊢
    rw [Text.lines_table _ hlines c.newline_not_mem (by rw [hstrip]; exact hne) hhead, hstrip, List.filterMap_append,
      List.filterMap_append, hheading _ header.heading, List.nil_append, List.filterMap_map, List.filterMap_append]
    refine congrArg₂ (· ++ ·) (List.filterMap_congr fun other _ => ?_) rfl
    exact parseLine_body other marked other.trail

/-- The connection has two numeric ports. -/
def Connection.Numeric (c : Connection layout) : Prop := c.localEnd.port.isSome = true ∧ c.peer.port.isSome = true

theorem Connection.entry_eq_none_iff (c : Connection layout) : c.entry = none ↔ ¬ c.Numeric := by
  rw [Connection.entry, Connection.Numeric]
  cases c.localEnd.port <;> cases c.peer.port <;> simp

/-- **The parser is exact** of a table exactly when each line with two numeric ports is one that it reads. -/
theorem parseSsOutput_exact_iff (t : Texts) (header : Header) (connections : List (Connection layout)) :
    parseSsOutput t (output header connections) = connections.filterMap Connection.entry ↔
      ∀ c ∈ connections, c.Numeric → c.Readable (marksSs t (output header connections)) := by
  rw [parseSsOutput_eq, filterMap_eq_iff fun c _ => isSome_entry_of_parseLine]
  refine forall₂_congr fun c _ => ?_
  rw [parseLine_eq_entry_iff, c.entry_eq_none_iff, or_iff_not_imp_left, not_not]

/-- The header of `ss -tunap`. -/
def ssHeader : Header where
  lines := ["Netid State Recv-Q Send-Q Local Address:Port Peer Address:Port Process".toList]
  ne_nil := List.cons_ne_nil _ _
  heading := List.forall_mem_singleton.mpr (by decide)
  no_newline := List.forall_mem_singleton.mpr (by decide)

/-- Python as if only ASCII had case and digits. -/
def asciiTexts : Texts := ⟨.asciiOnly, fun _ => 0, fun _ => none, fun _ => [], fun _ => []⟩

theorem plain_of_all {s banned : Text} (h : (s.all fun c => ! Text.isSpace c && ! banned.elem c) = true) :
    ∀ c ∈ s, Text.isSpace c = false ∧ c ∉ banned := by
  intro c hc
  have hplain := List.all_eq_true.mp h c hc
  rw [Bool.and_eq_true, Bool.not_eq_true', Bool.not_eq_true'] at hplain
  refine ⟨hplain.1, fun hmem => ?_⟩
  rw [List.elem_eq_true_of_mem hmem] at hplain
  cases hplain.2

theorem quoteless_of_all {s : Text} (h : (s.all fun c => ! Text.isSpace c && ! ['"'].elem c) = true) :
    ∀ c ∈ s, Text.isSpace c = false ∧ c ≠ '"' :=
  fun c hc => (plain_of_all h c hc).imp_right fun hnot heq => hnot (List.mem_singleton.mpr heq)

/-- A session of `sshd`. -/
def sshdConnection : Connection .ss where
  proto := .tcp
  recvQ := 0
  sendQ := 0
  localEnd := ⟨['1', '0', '.', '0', '.', '0', '.', '1'], false, some 22, List.cons_ne_nil _ _, plain_of_all rfl⟩
  peer := ⟨['1', '0', '.', '0', '.', '0', '.', '2'], false, some 54321, List.cons_ne_nil _ _, plain_of_all rfl⟩
  state := some ⟨['E', 'S', 'T', 'A', 'B'], List.cons_ne_nil _ _, quoteless_of_all rfl,
    fun c hc => Option.some.inj hc ▸ rfl⟩
  process := some ⟨['s', 's', 'h', 'd'], 1234, 3, List.cons_ne_nil _ _, rfl, fun c hc =>
    ⟨fun heq => absurd (quoteless_of_all rfl c hc).1 (heq ▸ by decide), (quoteless_of_all rfl c hc).2⟩⟩
  gap := fun _ => 2
  trail := 0
  ss_proto := fun _ => .inl rfl
  ss_state := fun _ => rfl
  stateless := by decide

/-- **No line of `ss` is read.** -/
theorem sshdConnection_lost : parseSsOutput asciiTexts (output ssHeader [sshdConnection]) ≠
    [sshdConnection].filterMap Connection.entry := by
  have hlost : parseSsOutput asciiTexts (output ssHeader [sshdConnection]) = [] := by
    rw [parseSsOutput_eq]
    exact List.filterMap_cons_none (parseLine_ss _ _ _)
  rw [hlost]
  exact (List.cons_ne_nil _ _).symm

end DBClaw.HostNetwork
