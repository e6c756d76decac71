import KernelInventory.Text.Blank

/-!
# Lists of architectures

Architectures are named in one argument, separated by commas.  Blanks around a name do
not count, empty names are dropped, and of several equal names the first one stays.
-/

namespace KernelInventory
namespace Architecture

/-- The only defect of a list of architectures is that it is empty. -/
inductive Failure
  | noneNamed
deriving Repr, DecidableEq

/-- The wording of a failure. -/
def Failure.message : Failure → String
  | noneNamed => "At least one architecture is required"

/-- The names in an argument, with repetitions. -/
def named (argument : String) : List String :=
  (((Text.splitOn ',' argument.toList).map Text.trim).filter (!·.isEmpty)).map
    String.ofList

/-- The architectures in an argument, each once. -/
def list (argument : String) : Except Failure (List String) :=
  match (named argument).eraseDups with
  | [] => .error .noneNamed
  | names => .ok names

end Architecture
end KernelInventory
