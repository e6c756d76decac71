import KernelInventory.Report.Literal.Value
import KernelInventory.Text.Blank

/-!
# Actions

A tag whose name starts with an at sign binds an action to its text.  Behind the equals
sign stand the name of a handler and its arguments in parentheses, or else a literal.
-/

namespace KernelInventory
namespace Report
namespace Action

/-- Why an action is refused. -/
inductive Failure
  /-- The literal, in the text with it, is no expression. -/
  | syntactic (literal text : String) (problem : Literal.Problem)
  /-- The expression in the text is no literal. -/
  | refused (text : String) (refusal : Literal.Refusal)
  /-- The text holds the character that ends texts. -/
  | nullCharacter (text : String)
deriving Repr, DecidableEq

namespace Failure

/-- The wording of a failure. -/
def message : Failure → String
  | syntactic literal text problem =>
    s!"error parsing {Text.quoted literal} in {Text.quoted text}; {problem.message}"
  | refused text refusal => s!"error parsing {Text.quoted text}; {refusal.message}"
  | nullCharacter text =>
    s!"error parsing {Text.quoted text}; source code string cannot contain null bytes"

end Failure

/-- The literal in an action: the arguments of a handler, in their
parentheses, or all of it. -/
def literalOf (action : List Char) : List Char :=
  match action.dropWhile fun c => Text.isWordChar c || c == '.' with
  | [] => ['(', ')']
  | c :: rest =>
    if c = '(' ∧ rest.getLast? = some ')' ∧ !rest.contains '\n' then c :: rest
    else action

/-- Check an action. -/
def check (text : List Char) : Except Failure Unit :=
  let literal := literalOf (Text.trim text)
  let whole := String.ofList text
  if literal.any (·.toNat = 0) then .error (.nullCharacter whole)
  else
    match Literal.Expression.ofText literal with
    | .error problem => .error (.syntactic (String.ofList literal) whole problem)
    | .ok expression =>
      match Literal.kind expression with
      | .error refusal => .error (.refused whole refusal)
      | .ok _ => .ok ()

end Action
end Report
end KernelInventory
