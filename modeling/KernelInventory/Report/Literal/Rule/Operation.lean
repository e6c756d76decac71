import KernelInventory.Report.Literal.Rule.Basic

/-!
# Operations

Operators bind tighter from one rule to the next.  Those of one rule bind from left to
right, except for powers.
-/

namespace KernelInventory
namespace Report
namespace Literal
namespace Rule

open Phrase

/-- Operands of which one has to hold. -/
def disjunctionPhrase : Phrase Rule := chain (rule conjunction) (word "or")

/-- Operands that have to hold. -/
def conjunctionPhrase : Phrase Rule := chain (rule inversion) (word "and")

/-- The operators that compare, except for the one that looks for
something in something else. -/
def comparing : Phrase Rule :=
  any (oneSign ["==", "!=", "<=", "<", ">=", ">"])
    [both (word "not") (word "in"), both (word "is") (word "not"), word "is"]

/-- An operand that is looked for in another, or compared with it. -/
def comparison : Phrase Rule :=
  let searched := both (word "in") (rule inclusiveOr)
  let compared := both comparing (rule inclusiveOr)
  let further := many (either searched compared)
  any (build (fun operands => .membership (operands.headD .computation))
      (all [rule inclusiveOr, searched, further]))
    [ofKind "comparison" (all [rule inclusiveOr, compared, further]), rule inclusiveOr]

/-- An operand that must not hold. -/
def inversionPhrase : Phrase Rule :=
  either (build (fun _ => .computation) (both (word "not") (rule inversion))) comparison

/-- Sums and differences. -/
def sumPhrase : Phrase Rule :=
  build Expression.sumOf
    (both (rule term) (many (both (oneSign ["+", "-"]) (rule term))))

/-- Products and quotients. -/
def termPhrase : Phrase Rule := chain (rule factor) (oneSign ["*", "/", "//", "%", "@"])

/-- A power. -/
def power : Phrase Rule :=
  either (build (fun _ => .computation) (all [rule awaited, sign "**", rule factor]))
    (rule awaited)

/-- An operand with signs in front of it. -/
def factorPhrase : Phrase Rule :=
  any (build (fun operands => .signed (Expression.gather .tuple operands))
      (both (oneSign ["+", "-"]) (rule factor)))
    [build (fun _ => .computation) (both (sign "~") (rule factor)), power]

/-- An operand that is waited for. -/
def awaitedPhrase : Phrase Rule :=
  either (ofKind "await expression" (both (word "await") (rule primary))) (rule primary)

/-- A part of an operand. -/
def member : Phrase Rule := ofKind "attribute" (both (sign ".") aName)

/-- A call with what a loop collects, without the function that is called. -/
def callGenerator : Phrase Rule :=
  build (fun _ => .call .computation false) (rule generator)

/-- A call with arguments, without the function that is called. -/
def callArguments : Phrase Rule :=
  build (fun arguments => .call .computation arguments.isEmpty)
    (all [sign "(", optional (rule arguments), sign ")"])

/-- An operand with its parts and calls. -/
def primaryPhrase : Phrase Rule :=
  build Expression.follow
    (both (rule atom) (many (any member [callGenerator, callArguments])))

end Rule
end Literal
end Report
end KernelInventory
