import KernelInventory.Component.Table
import KernelInventory.Report.Page
import KernelInventory.Suggestion.Basic
import KernelInventory.Transcript

/-!
# Looking components up

The lookup reads names line by line.  For a known component it shows the details, for an
unknown one it says so and suggests similar names, and it ends at the letter `q` or at
the end of the input.  What follows the line that ends it is left unread.
-/

namespace KernelInventory
namespace Query

/-- What is asked before each line. -/
def prompt : String := "Enter a component name to view its details (or 'q' to quit)>> "

/-- What a line asks for. -/
inductive Request
  /-- The line is blank. -/
  | nothing
  /-- The lookup is to end. -/
  | quit
  /-- The name of a component. -/
  | lookup (name : String)
deriving Repr, DecidableEq

/-- What a line asks for, blanks at its ends apart. -/
def request (line : List Char) : Request :=
  match Text.trim line with
  | [] => .nothing
  | name => if name = ['q'] ∨ name = ['Q'] then .quit else .lookup (String.ofList name)

/-- The answer to the name of a component. -/
def answer (table : Table) (name : String) : Transcript :=
  match table.find? name with
  | some record => .print (Report.component record)
  | none =>
    let missed : Transcript :=
      ⟨"", s!"Component '{name}' not found.\n",
        [⟨.debug, s!"Component lookup missed (name={name})"⟩]⟩
    match Suggestion.names name table.names with
    | [] => missed
    | close =>
      let listed := ", ".intercalate close
      missed ++ .complain s!"Did you mean: {listed}?\n"

/-- Answer the lines of an input: the transcript, and what is left unread. -/
def run (table : Table) (input : List Char) : Transcript × List Char :=
  match _ : Text.takeLine input with
  | none => (.print (prompt ++ "\n"), [])
  | some (line, rest) =>
    match request line with
    | .quit => (.print prompt, rest)
    | .nothing =>
      let (others, left) := run table rest
      (.print prompt ++ others, left)
    | .lookup name =>
      let (others, left) := run table rest
      (.print prompt ++ answer table name ++ others, left)
termination_by input.length
decreasing_by
  all_goals next taken => exact Text.takeLine_shorter taken

end Query
end KernelInventory
