import KernelInventory.Report.Literal.Reading

/-!
# Values of literals

Not every expression is a literal: names, calls and computations are refused, except for
the empty set, a sign in front of a number, and a real number and an imaginary one as a
sum.  Members of sets and keys of dictionaries have to stay as they are, so sets and
dictionaries cannot be among them.
-/

namespace KernelInventory
namespace Report
namespace Literal

/-- Why an expression is no literal. -/
inductive Refusal
  /-- Something in it is no value in writing. -/
  | malformed
  /-- A dictionary takes entries from another one. -/
  | nameless
  /-- A value that may change, of a kind, is a member or a key. -/
  | changeable (kind : String)
deriving Repr, DecidableEq

/-- The wording of a refusal. -/
def Refusal.message : Refusal → String
  | malformed => "malformed node or string on line 1"
  | nameless => "malformed node or string: None"
  | changeable kind => s!"unhashable type: '{kind}'"

/-- What is known of a value: its kind if it may change, or if something in it may. -/
abbrev Kind := Option String

/-- Whether an expression is a number without a sign. -/
def isNumber : Expression → Bool
  | .number _ => true
  | _ => false

/-- Whether an expression is a real number, with or without a sign. -/
def isReal : Expression → Bool
  | .number imaginary => !imaginary
  | .signed (.number imaginary) => !imaginary
  | _ => false

/-- A value that has to stay as it is. -/
def fixed : Kind → Except Refusal Unit
  | none => .ok ()
  | some kind => .error (.changeable kind)

mutual

/-- The kind of value that an expression is. -/
def kind : Expression → Except Refusal Kind
  | .number _ => .ok none
  | .text _ => .ok none
  | .constant _ => .ok none
  | .ellipsis => .ok none
  | .call (.name word) true => if word = "set" then .ok (some "set")
      else .error .malformed
  | .signed operand => if isNumber operand then .ok none else .error .malformed
  | .sum left (.number true) => if isReal left then .ok none else .error .malformed
  | .tuple items => firstKind items
  | .set items => do
    fixAll items
    return some "set"
  | .dictionary entries => do
    fixKeys entries
    return some "dict"
  | _ => .error .malformed

/-- The kind of the first value that may change. -/
def firstKind : List Expression → Except Refusal Kind
  | [] => .ok none
  | item :: rest => do
    let first ← kind item
    let others ← firstKind rest
    return first.orElse fun _ => others

/-- Check that values stay as they are. -/
def fixAll : List Expression → Except Refusal Unit
  | [] => .ok ()
  | item :: rest => do
    fixed (← kind item)
    fixAll rest

/-- Check that the keys of entries stay as they are. -/
def fixKeys : List (Option Expression × Expression) → Except Refusal Unit
  | [] => .ok ()
  | (none, _) :: _ => .error .nameless
  | (some key, value) :: rest => do
    let known ← kind key
    discard (kind value)
    fixed known
    fixKeys rest

end

end Literal
end Report
end KernelInventory
