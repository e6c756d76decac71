import KernelInventory.Report.Literal.Rule.Loop

/-!
# Calls

The arguments of a call come by place and then by name.  A star unpacks arguments that
come by place, and two stars those that come by name.
-/

namespace KernelInventory
namespace Report
namespace Literal
namespace Rule

open Phrase

/-- An argument with a star in front of it. -/
def starredArgument : Phrase Rule :=
  either (starred (rule expression)) (fault .loneStar (sign "*"))

/-- An argument by place. -/
def placed : Phrase Rule :=
  either starredArgument (both (either assignment unassigned) (absent (sign "=")))

/-- Something that cannot be the name of an argument. -/
def nameFault : Phrase Rule :=
  any
    (faultOf (fun word => some (.badTarget word.kind)) (both aConstant (sign "=")))
    [fault .assignment (all [aName, sign "=", rule expression, rule loops]),
      fault .argumentAssignment
        (all [absent (both aName (sign "=")), rule expression, sign "="])]

/-- An argument by name. -/
def byName : Phrase Rule :=
  build (fun _ => .keyword true) (all [aName, sign "=", rule expression])

/-- An argument by name, or one with a star. -/
def namedOrStarred : Phrase Rule := any (remark nameFault) [byName, starredArgument]

/-- An argument by name, or one with two stars. -/
def namedOrUnpacked : Phrase Rule :=
  any (remark nameFault)
    [byName, build (fun _ => .keyword false) (both (sign "**") (rule expression))]

/-- The arguments from the first one that comes by name. -/
def lastArguments : Phrase Rule :=
  any (all [listed namedOrStarred, sign ",", listed namedOrUnpacked])
    [listed namedOrStarred, listed namedOrUnpacked]

/-- The arguments of a call. -/
def argumentList : Phrase Rule :=
  either (both (listed placed) (optional (both (sign ",") lastArguments))) lastArguments

/-- Whether an argument comes by place. -/
def isPlaced : Expression → Bool
  | .keyword _ => false
  | _ => true

/-- The problem of a loop behind arguments, if there are several by place. -/
def loopProblem? : List Expression → Option Problem
  | .tuple given :: _ =>
    if 1 < (given.filter isPlaced).length then some .bareLoop else none
  | _ => none

/-- The problem of more arguments behind arguments. -/
def lateProblem? : List Expression → Option Problem
  | .tuple given :: _ => some (.latePositional (given.any isUnpacked))
  | _ => none
where
  /-- Whether an argument has two stars. -/
  isUnpacked : Expression → Bool
    | .keyword hasName => !hasName
    | _ => false

/-- What is wrong with arguments. -/
def argumentFault : Phrase Rule :=
  let collected := both (rule expression) (rule loops)
  any (fault .lateStar (all [argumentList, sign ",", sign "*"]))
    [fault .bareLoop
      (all [collected, sign ",", optional (either argumentList collected)]),
        fault .assignment (all [aName, sign "=", collected]),
      explain (fun made _ => loopProblem? made)
        (both (group argumentList) (rule loops)),
      fault .bareLoop (all [argumentList, sign ",", collected]),
      explain (fun made _ => lateProblem? made)
        (all [group argumentList, sign ",", argumentList])]

/-- The arguments of a call, up to its closing parenthesis. -/
def argumentsPhrase : Phrase Rule :=
  either (all [argumentList, optional (sign ","), ahead true (sign ")")])
    (remark argumentFault)

end Rule
end Literal
end Report
end KernelInventory
