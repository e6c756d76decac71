import KernelInventory.Report.Literal.Rule.Basic

/-!
# Functions without a name

The parameters without a value come first, then those with one, and behind a star those
that are given by name.  A slash ends the parameters that are given by place only.
-/

namespace KernelInventory
namespace Report
namespace Literal
namespace Rule

open Phrase

/-- A fault of parameters that a phrase always has. -/
def parameterFault (found : ParameterFault) (phrase : Phrase Rule) : Phrase Rule :=
  fault (.badParameters found) phrase

/-- The value of a parameter. -/
def parameterValue : Phrase Rule :=
  either (both (sign "=") (rule expression))
    (remark
      (parameterFault .valueMissing
        (both (sign "=") (ahead true (oneSign [")", ","])))))

/-- What ends a parameter: a comma, or the colon behind all of them. -/
def endOfParameter : Phrase Rule := either (sign ",") (ahead true (sign ":"))

/-- A parameter without a value. -/
def required : Phrase Rule := both aName endOfParameter

/-- A parameter with a value. -/
def valued : Phrase Rule := all [aName, parameterValue, endOfParameter]

/-- A parameter with a value or without. -/
def loose : Phrase Rule := all [aName, optional parameterValue, endOfParameter]

/-- The parameters without a value up to a slash. -/
def slashRequired : Phrase Rule := all [atLeastOne required, sign "/", endOfParameter]

/-- The parameters up to a slash, of which the last ones have a value. -/
def slashValued : Phrase Rule :=
  all [many required, atLeastOne valued, sign "/", endOfParameter]

/-- A star with the parameter that it stands for, if there is one. -/
def starPlace : Phrase Rule := both (sign "*") (either required (sign ","))

/-! ## From a star on -/

/-- What is wrong with the parameter for all other names. -/
def remainingFault : Phrase Rule :=
  either (parameterFault .doubleStarredValue (all [sign "**", aName, sign "="]))
    (parameterFault .lateParameter
      (all [sign "**", aName, sign ",", either aName (oneSign ["*", "**", "/"])]))

/-- The parameter for all other names. -/
def remaining : Phrase Rule := either (remark remainingFault)
    (both (sign "**") required)

/-- What is wrong with the parameters from a star on. -/
def starFault : Phrase Rule :=
  any (parameterFault .bareStar
      (both (sign "*") (either (sign ":") (both (sign ",") (oneSign [":", "**"])))))
    [parameterFault .starredValue (all [sign "*", aName, sign "="]),
      parameterFault .secondStar (all [starPlace, many loose, starPlace])]

/-- The parameters from a star on. -/
def starParameters : Phrase Rule :=
  any (remark starFault)
    [all [sign "*", required, many loose, optional remaining],
      all [sign "*", sign ",", atLeastOne loose, optional remaining], remaining]

/-! ## All parameters -/

/-- What is wrong with the order of parameters. -/
def orderFault : Phrase Rule :=
  let early := either slashRequired slashValued
  any (parameterFault .lateRequired
      (all [many required, either slashValued (atLeastOne valued), required]))
    [parameterFault .parenthesized
        (all [many required, sign "(", listed aName, optional (sign ","), sign ")"]),
      parameterFault .leadingSlash (both (sign "/") (sign ",")),
      parameterFault .secondSlash (all [early, many loose, sign "/"]),
      parameterFault .lateSlash
        (all [optional early, many loose, starPlace, many loose, sign "/"]),
      parameterFault .slashStar (all [atLeastOne loose, sign "/", sign "*"])]

/-- The parameters of a function. -/
def parameters : Phrase Rule :=
  any (remark orderFault)
    [all [slashRequired, many required, many valued, optional starParameters],
      all [slashValued, many valued, optional starParameters],
      all [atLeastOne required, many valued, optional starParameters],
      all [atLeastOne valued, optional starParameters], starParameters]

/-- A function without a name. -/
def function : Phrase Rule :=
  ofKind "lambda" (all [word "lambda", optional parameters, sign ":", rule expression])

end Rule
end Literal
end Report
end KernelInventory
