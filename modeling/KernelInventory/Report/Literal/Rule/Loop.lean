import KernelInventory.Report.Literal.Rule.Operation

/-!
# Loops

A loop inside an expression gives values to its targets one after the other.  Loops make
no expression by themselves.
-/

namespace KernelInventory
namespace Report
namespace Literal
namespace Rule

open Phrase

/-- What makes a target go on. -/
def goesOn : Phrase Rule := ahead true (oneSign ["(", "."])

/-- What a target starts with, if it goes on. -/
def leadingTargetPhrase : Phrase Rule :=
  all [rule atom, goesOn,
    many (both (any member [callGenerator, callArguments]) goesOn)]

/-- A target without a star: a part of something, a name, or targets in parentheses. -/
def plainTargetPhrase : Phrase Rule :=
  any (all [rule leadingTarget, sign ".", aName, absent (oneSign ["(", "."])])
    [aName, all [sign "(", rule plainTarget, sign ")"],
      all [sign "(", optional (either several alone), sign ")"]]
where
  /-- Several targets. -/
  several : Phrase Rule :=
    all [rule target, atLeastOne (both (sign ",") (rule target)), optional (sign ",")]
  /-- One target with a comma behind it. -/
  alone : Phrase Rule := both (rule target) (sign ",")

/-- A target. -/
def targetPhrase : Phrase Rule :=
  either (all [sign "*", absent (sign "*"), rule target]) (rule plainTarget)

/-- The targets of a loop. -/
def targets : Phrase Rule :=
  either (both (rule target) (absent (sign ",")))
    (all [rule target, many (both (sign ",") (rule target)), optional (sign ",")])

/-- The start of a loop up to what gives its values. -/
def loopStart : Phrase Rule :=
  all [optional (word "async"), word "for", targets, word "in"]

/-- Something that cannot be a target. -/
def targetFault : Phrase Rule :=
  faultOf
    (fun expression => expression.badTarget?.map fun found => .badTarget found.kind)
    (all [absent loopStart, optional (word "async"), word "for",
      rule starExpressions])

/-- One loop with its conditions. -/
def loop : Phrase Rule :=
  either
    (all [loopStart, rule disjunction, many (both (word "if") (rule disjunction))])
    (remark targetFault)

/-- Loops one inside the other, without the expressions in them. -/
def loopsPhrase : Phrase Rule := silent (atLeastOne loop)

end Rule
end Literal
end Report
end KernelInventory
