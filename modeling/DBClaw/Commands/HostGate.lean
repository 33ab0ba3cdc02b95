import DBClaw.Commands.Safety
import DBClaw.Hosts.ConnectionProbe
import DBClaw.Library.ShellPositions
import Mathlib

/-! # The gate before host commands
`execute_host_command` searches a command line for the dangerous patterns before the line reaches the SSH pool. The
expression of a pattern wants a boundary on both sides of its words. A shell runs a command word between other
characters, too: `rejected_iff` says which of the dangerous commands of a line, in any nesting of substitutions, the
gate sees. -/

namespace DBClaw.HostGate

open Commands ConnectionProbe ShellTrees ShellTrees.State

set_option maxRecDepth 4000

variable (u : Unicode)

/-! ## Matches at a place -/

/-- The dangerous patterns that are command words. -/
def dangerousWords : List Text := (dangerousCommandPatterns.map String.toList).filter fun w => decide (ShellTrees.Plain w)

/-- **A shell runs a dangerous command** between two parts of a text. -/
structure Runs (text pre word post : Text) : Prop where
  text_eq : text = pre ++ (word ++ post)
  runsAt : RunsAt pre word post
  dangerous : word ∈ dangerousWords

variable {u} {text pre word post : Text}

/-- A backtick hides the command that it substitutes. -/
example : executeHostCommand .asciiOnly ['e', 'c', 'h', 'o', ' ', '`', 'r', 'm', '`'] false =
    .ok ['e', 'c', 'h', 'o', ' ', '`', 'r', 'm', '`'] := by
  decide

end DBClaw.HostGate
