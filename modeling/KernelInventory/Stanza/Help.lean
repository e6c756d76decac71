import KernelInventory.Stanza.Basic
import KernelInventory.Text.Blank

/-!
# Help blocks

A line that reads `help` or `---help---` opens a help block.  The first line that is
indented deeper fixes the indentation of the help text, and the block ends at the first
line that is indented less than that text.
-/

namespace KernelInventory
namespace Stanza

/-- The columns of a tab stop. -/
def tabSize : Nat := 8

/-- A raw line without its line end, with tabs expanded. -/
def expandedLine (raw : List Char) : List Char :=
  Text.expandTabs tabSize (Text.dropEndWhile (fun c => c == '\r' || c == '\n') raw)

/-- The number of blanks in front of a line. -/
def indentation (line : List Char) : Nat :=
  (line.takeWhile Text.isBlank).length

/-- Whether a trimmed line opens a help block. -/
def opensHelp (line : List Char) : Bool :=
  line == "help".toList || line == "---help---".toList

/-- Whether a line with an indentation belongs to the text of the open help block, and
the state after it if it does. -/
def helpText? (state : State) (indent : Nat) : Option State :=
  match state.helpIndent, state.helpTextIndent with
  | none, _ => none
  | some helpIndent, none =>
    if helpIndent < indent then some { state with helpTextIndent := some indent }
    else none
  | some _, some textIndent => if textIndent ≤ indent then some state else none

/-- Read a raw line that is not blank: the state after it, and whether it
belongs to a help block. -/
def skipHelp (state : State) (raw : List Char) : State × Bool :=
  let line := expandedLine raw
  let indent := indentation line
  match helpText? state indent with
  | some inside => (inside, true)
  | none =>
    let outside :=
      if state.helpIndent.isSome then
        { state with helpIndent := none, helpTextIndent := none }
      else state
    if opensHelp (Text.trim line) then
      ({ outside with helpIndent := some indent }, true)
    else (outside, false)

end Stanza
end KernelInventory
