import DBClaw.Commands.Safety
import DBClaw.Library.ShellTrees
import DBClaw.Metrics.Integration

/-! # The connection probe
`_run_host_check` tries a datasource's port from the host that it is linked to. The host string of the datasource
stands twice in the shell command: as an argument of `nc`, and in a script for `bash` between single quotes. -/

namespace DBClaw.ConnectionProbe

open ShellTrees

set_option maxRecDepth 2000

variable (u : Unicode)

/-! ## The checks -/

/-- `SUPPORTED_DB_TYPES`. -/
def supportedDbTypes : List String := [
  "mysql", "postgresql", "sqlserver", "oracle", "tdsql-c-mysql", "oceanbase-mysql", "opengauss", "hana"]

/-- **`is_supported_db_type`**. -/
def isSupportedDbType (dbType : Option Text) : Bool :=
  (dbType.filter (· ≠ [])).any fun dbType => supportedDbTypes.any (·.toList = Metrics.normalizeDbType u dbType)

/-- **`_validate_config`**: what is wrong with the configuration. -/
def validateConfig (dbType host : Option Text) (port : Option ℤ) : Option Text :=
  if isSupportedDbType u dbType = false then some ("不支持的数据库类型: ".toList ++ dbType.getD "None".toList)
  else if Text.strip (host.getD []) = [] then some "数据库主机不能为空".toList
  else if port.all fun port => port ≤ 0 ∨ 65535 < port then some "数据库端口必须在 1-65535 之间".toList
  else none

/-- **`execute_host_command`**: an error, or the command as the SSH host gets it. -/
def executeHostCommand (command : Text) (allowWrite : Bool) : Except Text Text :=
  match if allowWrite then none else Commands.firstMatchingCommandPattern u command Commands.dangerousCommandPatterns with
  | some pattern =>
    .error ("Command contains potentially dangerous operation '".toList ++ pattern.toList ++
      "'. Enable 'Execute Any OS Command' permission for write operations.".toList)
  | none => .ok command

/-! ## The command -/

/-- What `bash` runs. -/
def probeScript (host port : Text) : Text := "</dev/tcp/".toList ++ host ++ "/".toList ++ port

/-- `command` of `_run_host_check`. -/
def probeCommand (host port : Text) : Text :=
  "(command -v nc >/dev/null 2>&1 && nc -z -w 3 ".toList ++ host ++ " ".toList ++ port ++
    ") || (command -v timeout >/dev/null 2>&1 && timeout 3 bash -lc '".toList ++ probeScript host port ++ "')".toList

/-- A port as it is written. -/
def portText (port : ℤ) : Text := (toString port).toList

/-- **`_run_host_check`** as far as the SSH host. -/
def runHostCheck (host : Text) (port : ℤ) : Except Text Text :=
  executeHostCommand u (probeCommand host (portText port)) false

/-! ## Its tree -/

/-- A word of the template. -/
def literal (s : String) (h : Plain s.toList := by decide) : Word := h.word

/-- `command -v`, with its output thrown away. -/
def available (name : Word) : Tree :=
  .simple [literal "command", literal "-v", name]
    [⟨[], .great, literal "/dev/null"⟩, ⟨['2'], .greatAnd, literal "1"⟩]

/-- **The tree of the command**, for a host, a port and a script that are words of it. -/
def probeTree (host port script : Word) : Tree :=
  .or
    (.subshell (.and (available (literal "nc"))
      (.simple [literal "nc", literal "-z", literal "-w", literal "3", host, port] [])) [])
    (.subshell (.and (available (literal "timeout"))
      (.simple [literal "timeout", literal "3", literal "bash", literal "-lc", script] [])) [])

/-- **Nothing of the host string is read as shell syntax**: the command has the tree that it has for a plain host
name, with the host as one argument of `nc` and the script as one of `bash`, and the script is the redirection of
a word with the host in it. -/
structure InjectionFree (host port : Text) : Prop where
  command : ∃ h p s : Word, h.Spells host ∧ p.Spells port ∧ s.Quotes (probeScript host port) ∧
    parse (probeCommand host port) = some (probeTree h p s)
  script : ∃ w : Word, w.Spells ("/dev/tcp/".toList ++ host ++ "/".toList ++ port) ∧
    parse (probeScript host port) = some (.simple [] [⟨[], .less, w⟩])

/-! ## The command of a plain host -/

/-- The tokens of the command. -/
def probeTokens (host port script : Word) : List Token :=
  let available (name : Word) : List Token :=
    [.operator .opening, .word (literal "command"), .word (literal "-v"), .word name, .redirect [] .great,
      .word (literal "/dev/null"), .redirect ['2'] .greatAnd, .word (literal "1"), .operator .and]
  available (literal "nc") ++
    [.word (literal "nc"), .word (literal "-z"), .word (literal "-w"), .word (literal "3"), .word host, .word port,
      .operator .closing, .operator .or] ++
    available (literal "timeout") ++
    [.word (literal "timeout"), .word (literal "3"), .word (literal "bash"), .word (literal "-lc"), .word script,
      .operator .closing]

theorem parseTokens_probeTokens (host port script : Word) :
    parseTokens (probeTokens host port script) = some (probeTree host port script) := rfl

theorem plain_portText {port : ℤ} (h : 0 < port) : Plain (portText port) := by
  obtain ⟨n, rfl⟩ := Int.eq_ofNat_of_zero_le (Int.le_of_lt h)
  have hdigits : portText n = Nat.toDigits 10 n := by
    simp [portText, Nat.repr, toString, Int.repr]
  have hdigit : ∀ c ∈ portText n, c.isDigit = true := by
    intro c hc
    rw [hdigits] at hc
    exact Nat.isDigit_of_mem_toDigits (by decide) (by decide) hc
  refine ⟨fun c hc => ?_, ?_, fun hhead => ?_⟩
  · rw [isOrdinary, Bool.not_eq_true', ← Bool.not_eq_true, List.contains_iff_mem]
    intro hmem
    have hspecial : [' ', '\t', '\n', ';', '&', '|', '<', '>', '(', ')', '\'', '"', '\\', '`'].all
        (fun d => ¬ d.isDigit) = true := by decide
    exact of_decide_eq_true (List.all_eq_true.mp hspecial c hmem) (hdigit c hc)
  · rw [hdigits]
    exact Nat.toDigits_ne_nil
  · have hc := hdigit _ (List.mem_of_mem_head? hhead)
    revert hc
    decide

/-- A script of plain texts has no single quote. -/
theorem quote_not_mem_probeScript {host port : Text} (hhost : Plain host) (hport : Plain port) :
    '\'' ∉ probeScript host port := by
  have hquote : isOrdinary '\'' ≠ true := by decide
  have hopen : '\'' ∉ "</dev/tcp/".toList := by decide
  have hslash : '\'' ∉ "/".toList := by decide
  exact List.not_mem_append (List.not_mem_append (List.not_mem_append hopen fun hmem => hquote (hhost.ordinary _ hmem))
    hslash) fun hmem => hquote (hport.ordinary _ hmem)

theorem parse_probeCommand {host port : Text} (hhost : Plain host) (hport : Plain port) :
    ∃ h p s : Word, h.Spells host ∧ p.Spells port ∧ s.Quotes (probeScript host port) ∧
      parse (probeCommand host port) = some (probeTree h p s) := by
  obtain ⟨h, m, hm, hspells, hread⟩ := State.reads_plain hhost
  obtain ⟨p, m', hm', hspells', hread'⟩ := State.reads_plain hport
  obtain ⟨w, s, hquotes, hscript, hquote⟩ := State.reads_quoted (quote_not_mem_probeScript hhost hport)
  have hnc : State.Reads {} "(command -v nc >/dev/null 2>&1 && nc -z -w 3 ".toList
      [.operator .opening, .word (literal "command"), .word (literal "-v"), .word (literal "nc"), .redirect [] .great,
        .word (literal "/dev/null"), .redirect ['2'] .greatAnd, .word (literal "1"), .operator .and,
        .word (literal "nc"), .word (literal "-z"), .word (literal "-w"), .word (literal "3")] {} := rfl
  have hspace : State.Reads ⟨some h, m⟩ " ".toList [.word h] {} :=
    State.Reads.of_unquoted (c := ' ') (t := []) rfl (by decide) hm
  have hclose : State.Reads ⟨some p, m'⟩ [')'] [.word p, .operator .closing] {} :=
    State.Reads.of_unquoted (c := ')') (t := []) rfl (by decide) hm'
  have htimeout : State.Reads ⟨some p, m'⟩ ") || (command -v timeout >/dev/null 2>&1 && timeout 3 bash -lc '".toList
      [.word p, .operator .closing, .operator .or, .operator .opening, .word (literal "command"), .word (literal "-v"),
        .word (literal "timeout"), .redirect [] .great, .word (literal "/dev/null"), .redirect ['2'] .greatAnd,
        .word (literal "1"), .operator .and, .word (literal "timeout"), .word (literal "3"), .word (literal "bash"),
        .word (literal "-lc")] ⟨some State.quoteBegun, .single⟩ :=
    State.reads_lit (hclose.append rfl)
  have hend : State.Reads ⟨some s, .unquoted⟩ [')'] [.word s, .operator .closing] {} := rfl
  have hlast : State.Reads ⟨some w, .single⟩ "')".toList [.word s, .operator .closing] {} :=
    State.reads_lit (hquote.append hend)
  have hreads : State.Reads {} (probeCommand host port) _ {} :=
    (((((hnc.append hread).append hspace).append hread').append htimeout).append hscript).append hlast
  have hatEnd : ({} : State).atEnd = some [] := rfl
  have htokens : tokens (probeCommand host port) = some (probeTokens h p s) :=
    (State.tokens_of_reads hreads hatEnd).trans (congrArg some (List.append_nil _))
  refine ⟨h, p, s, hspells, hspells', hquotes, ?_⟩
  rw [parse, htokens]
  exact parseTokens_probeTokens h p s

/-- The word of the script. -/
theorem plain_target {host port : Text} (hhost : Plain host) (hport : Plain port) :
    Plain ("/dev/tcp/".toList ++ host ++ "/".toList ++ port) := by
  have hhead : ("/dev/tcp/".toList ++ host ++ "/".toList ++ port).head? = some '/' := rfl
  refine ⟨fun c hc => ?_, List.append_ne_nil_of_right_ne_nil _ hport.nonempty, by rw [hhead]; decide⟩
  have hopen := List.all_eq_true.mp (show "/dev/tcp/".toList.all isOrdinary = true by decide)
  have hslash := List.all_eq_true.mp (show "/".toList.all isOrdinary = true by decide)
  rcases List.mem_append.mp hc with hc | hc
  · rcases List.mem_append.mp hc with hc | hc
    · rcases List.mem_append.mp hc with hc | hc
      · exact hopen c hc
      · exact hhost.ordinary c hc
    · exact hslash c hc
  · exact hport.ordinary c hc

theorem parse_probeScript {host port : Text} (hhost : Plain host) (hport : Plain port) :
    ∃ w : Word, w.Spells ("/dev/tcp/".toList ++ host ++ "/".toList ++ port) ∧
      parse (probeScript host port) = some (.simple [] [⟨[], .less, w⟩]) := by
  obtain ⟨w, m, hm, hspells, hread⟩ := State.reads_plain (plain_target hhost hport)
  have hless : State.Reads {} ['<'] [] ⟨none, .operator (.less [])⟩ := rfl
  have hgoOn : (Begun.less []).goOn '/' = none := rfl
  have hreads : State.Reads {} (probeScript host port) [.redirect [] .less] ⟨some w, m⟩ :=
    hless.append (State.Reads.afterOperator hread hgoOn (by decide))
  have hend : (⟨some w, m⟩ : State).atEnd = some [.word w] := by
    rcases hm with rfl | rfl <;> rfl
  refine ⟨w, hspells, ?_⟩
  rw [parse, State.tokens_of_reads hreads hend]
  rfl

/-! ## The probe -/

/-- **The probe of a host is free of injections if and only if the host string is plain**: neither blanks, newlines,
operators, parentheses, quotes, backslashes nor backticks are in it, and no `#` begins it. -/
theorem injectionFree_iff {host port : Text} (hport : Plain port) : InjectionFree host port ↔ Plain host := by
  constructor
  · rintro ⟨⟨h, -, -, hspells, -⟩, -⟩
    exact (exists_spells_iff host).mp ⟨h, hspells⟩
  · intro hhost
    exact ⟨parse_probeCommand hhost hport, parse_probeScript hhost hport⟩

/-- A port that is accepted is positive. -/
theorem pos_of_validateConfig {dbType host : Option Text} {port : ℤ}
    (h : validateConfig u dbType host (some port) = none) : 0 < port := by
  rw [validateConfig] at h
  split_ifs at h with hdbType hhost hport
  simp only [Option.all_some, decide_eq_true_eq, not_or] at hport
  exact Int.not_le.mp hport.1

/-- **Where a configuration is accepted and the command is let through to the SSH host**, the probe is free of
injections if and only if the host string is plain. -/
theorem probe_injectionFree_iff (dbType : Option Text) (host : Text) (port : ℤ) :
    (validateConfig u dbType (some host) (some port) = none →
        runHostCheck u host port = .ok (probeCommand host (portText port)) → InjectionFree host (portText port)) ↔
      (validateConfig u dbType (some host) (some port) = none →
        runHostCheck u host port = .ok (probeCommand host (portText port)) → Plain host) :=
  imp_congr_right fun hvalid => imp_congr_right fun _ =>
    injectionFree_iff (plain_portText (pos_of_validateConfig u hvalid))

/-- **A host string with a second command in it is let through.** -/
theorem secondCommand_letThrough : ¬ ∀ (u : Unicode) (dbType : Option Text) (host : Text) (port : ℤ),
    validateConfig u dbType (some host) (some port) = none →
      runHostCheck u host port = .ok (probeCommand host (portText port)) → InjectionFree host (portText port) := by
  intro h
  have hfree := h .asciiOnly (some "mysql".toList) "db;id>f".toList 3306 (by decide) (by decide)
  have hplain := (injectionFree_iff (plain_portText (by decide))).mp hfree
  revert hplain
  decide

end DBClaw.ConnectionProbe
