import DBClaw.Library.Text

/-! # Command safety
`command_safety.py`: which shell commands look dangerous and which look read-only. The regular
expressions are scanners of the text; all of them are searches for the first match from the left. -/

namespace DBClaw.Commands

variable (u : Unicode)

/-! ## The lists -/

/-- `DANGEROUS_COMMAND_PATTERNS`. -/
def dangerousCommandPatterns : List String := [
  "rm", "rmdir", "del", "delete", "mv", "move", "chmod", "chown", "chgrp", "kill", "pkill",
  "killall", "shutdown", "reboot", "halt", "poweroff", "mkfs", "fdisk", "parted", "dd", "iptables",
  "firewall", "useradd", "userdel", "usermod", "groupadd", "groupdel", ">>", "tee", "wget",
  "curl -o", "apt install", "yum install", "dnf install", "systemctl stop", "systemctl start",
  "systemctl restart", "service stop", "service start", "service restart"]

/-- `DESTRUCTIVE_COMMAND_PATTERNS`. -/
def destructiveCommandPatterns : List String := [
  "rm", "rmdir", "del", "delete", "shutdown", "reboot", "halt", "poweroff", "mkfs", "fdisk",
  "parted", "dd"]

/-- `READ_ONLY_COMMAND_HINTS`. -/
def readOnlyCommandHints : List String := [
  "df", "du", "free", "ps", "top", "htop", "iostat", "vmstat", "sar", "ss", "netstat",
  "journalctl", "tail", "cat", "uptime", "hostname", "lsblk", "mount", "dmesg", "sysctl"]

/-- `BENIGN_COMMAND_HINTS`. -/
def benignCommandHints : List String := [
  "echo", "printf", "true", "false", "test", "[", "grep", "head", "wc"]

/-- The commands that are allowed without approval. -/
def allowedCommands : List Text := (readOnlyCommandHints ++ benignCommandHints).map String.toList

/-! ## Segments -/

/-- The separators of one character, `[;|\n]`. -/
def isSeparator (c : Char) : Bool := c = ';' || c = '|' || c = '\n'

/-- The separators of two characters, `\|\|` and `&&`. -/
def isDoubleSeparator (c d : Char) : Bool := (c = '|' && d = '|') || (c = '&' && d = '&')

/-- `re.split(r"\|\||&&|[;|\n]", s)`. -/
def splitPieces : Text → List Text
  | [] => [[]]
  | [c] => if isSeparator c then [[], []] else [[c]]
  | c :: d :: t =>
    if isDoubleSeparator c d then [] :: splitPieces t
    else if isSeparator c then [] :: splitPieces (d :: t)
    else (splitPieces (d :: t)).modifyHead (c :: ·)

theorem splitPieces_ne_nil (t : Text) : splitPieces t ≠ [] := by
  fun_induction splitPieces t with
  | case1 => simp
  | case2 => simp
  | case3 => simp
  | case4 => simp
  | case5 => simp
  | case6 c d t _ _ ih =>
    intro h
    exact ih (List.modifyHead_eq_nil_iff.mp h)

/-- A semicolon separates the pieces. -/
theorem splitPieces_append_cons (s w : Text) : splitPieces (s ++ ';' :: w) = splitPieces s ++ splitPieces w := by
  have hfirst : splitPieces (';' :: w) = [] :: splitPieces w := by
    cases w <;> rfl
  have hsecond (c : Char) : isDoubleSeparator c ';' = false := by simp [isDoubleSeparator]
  fun_induction splitPieces s with
  | case1 => exact hfirst
  | case2 c hsep => simp [splitPieces, hsecond, hsep, hfirst]
  | case3 c hsep => simp [splitPieces, hsecond, hsep, hfirst]
  | case4 c d t hdouble ih => simp [splitPieces, hdouble, ih]
  | case5 c d t hdouble hsep ih => simpa [splitPieces, hdouble, hsep] using ih
  | case6 c d t hdouble hsep ih =>
    have hmore : splitPieces (c :: d :: t ++ ';' :: w) =
        (splitPieces (d :: t ++ ';' :: w)).modifyHead (c :: ·) := by
      simp [splitPieces, hdouble, hsep]
    rw [hmore, ih]
    cases hpieces : splitPieces (d :: t) with
    | nil => exact absurd hpieces (splitPieces_ne_nil _)
    | cons piece pieces => rfl

/-- **`split_command_segments`**. -/
def splitCommandSegments (command : Text) : List Text :=
  ((splitPieces command).map Text.strip).filter (· ≠ [])

/-- What follows `\d?>` at the start of a text. -/
def afterRedirection : Text → Option Text
  | [] => none
  | c :: t =>
    if c = '>' then some t
    else if u.isDecimalChar c ∧ t.head? = some '>' then some t.tail
    else none

/-- `re.sub(r"^\d?>\S+\s*", "", s)`. -/
def dropRedirection (s : Text) : Text :=
  match afterRedirection u s with
  | some (c :: t) => if Text.isSpace c then s else Text.lstrip (t.dropWhile (! Text.isSpace ·))
  | some [] | none => s

/-- **`extract_base_command`**. -/
def extractBaseCommand (segment : Text) : Text :=
  Text.lower u ((Text.strip (dropRedirection u segment)).takeWhile (! Text.isSpace ·))

/-- **`looks_clearly_read_only_command`**. -/
def looksClearlyReadOnlyCommand (command : Text) : Bool :=
  let segments := splitCommandSegments (Text.lower u command)
  segments ≠ [] && segments.all fun segment =>
    let baseCommand := extractBaseCommand u segment
    baseCommand ≠ [] && allowedCommands.contains baseCommand

/-! ## Patterns -/

/-- `[\s;|&()]`. -/
def isBoundary (c : Char) : Bool :=
  Text.isSpace c || c = ';' || c = '|' || c = '&' || c = '(' || c = ')'

/-- The words stand here, with whitespace between them and a boundary after them. -/
def phraseAt : List Text → Text → Bool
  | [], s => s.head?.all isBoundary
  | word :: words, s =>
    word.isPrefixOf s &&
      match words with
      | [] => (s.drop word.length).head?.all isBoundary
      | _ :: _ => (s.drop word.length).head?.any Text.isSpace &&
          phraseAt words (Text.lstrip (s.drop word.length))

/-- `re.split(r"\s+", s)` of a text without whitespace around it. -/
def splitWords (s : Text) : List Text :=
  s.splitBy (fun c d => Text.isSpace c == Text.isSpace d) |>.filter fun word =>
    word.any (! Text.isSpace ·)

/-- **`command_pattern_matches`**. -/
def commandPatternMatches (commandLower pattern : Text) : Bool :=
  let normalized := Text.lower u (Text.strip pattern)
  if normalized = [] then false
  else if normalized = ">>".toList ∨ normalized = "> /dev/".toList then
    commandLower.tails.any normalized.isPrefixOf
  else
    phraseAt (splitWords normalized) commandLower ||
      commandLower.tails.any fun
        | [] => false
        | c :: t => isBoundary c && phraseAt (splitWords normalized) t

/-- **`first_matching_command_pattern`**. -/
def firstMatchingCommandPattern (command : Text) (patterns : List String) : Option String :=
  patterns.find? fun pattern => commandPatternMatches u (Text.lower u command) pattern.toList

example : extractBaseCommand .asciiOnly "2>/dev/null df -h".toList = "df".toList ∧
    commandPatternMatches .asciiOnly "sudo rm -rf /tmp".toList "rm".toList = true ∧
    commandPatternMatches .asciiOnly "echo armchair".toList "rm".toList = false ∧
    commandPatternMatches .asciiOnly "echo >> log".toList ">>".toList = true ∧
    looksClearlyReadOnlyCommand .asciiOnly "df -h && uptime".toList = true ∧
    looksClearlyReadOnlyCommand .asciiOnly "df -h && rm x".toList = false := by
  decide

end DBClaw.Commands
