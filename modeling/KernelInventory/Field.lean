import KernelInventory.Text.Blank

/-!
# Fields of a line

A field is what follows the first occurrence of a keyword in a line, without the blanks
around it. A quoted field loses the double quotes at its ends as well.
-/

namespace KernelInventory
namespace Field

/-- What follows the first occurrence of the keyword, trimmed; nothing
if it does not occur. -/
def after (line keyword : List Char) : List Char :=
  match Text.splitAt? keyword line with
  | some (_, rest) => Text.trim rest
  | none => []

/-- The field after a keyword, without the double quotes at its ends. -/
def quotedAfter (line keyword : List Char) : List Char :=
  Text.dropEndsWhile (· == '"') (after line keyword)

/-- A keyword without characters separates nothing. -/
inductive Failure
  | emptySeparator
deriving Repr, DecidableEq

/-- The wording of a failure. -/
def Failure.message : Failure → String
  | emptySeparator => "empty separator"

/-- Read a field with `read`, after a keyword that must not be empty. -/
def checked (read : List Char → List Char → List Char) (line keyword : String) :
    Except Failure String :=
  if keyword = "" then .error .emptySeparator
  else .ok (String.ofList (read line.toList keyword.toList))

/-- The field after a keyword. -/
def get (line keyword : String) : Except Failure String :=
  checked after line keyword

/-- The quoted field after a keyword. -/
def getQuoted (line keyword : String) : Except Failure String :=
  checked quotedAfter line keyword

end Field
end KernelInventory
