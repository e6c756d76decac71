import KernelInventory.Report.Literal.Rule.Display
import KernelInventory.Report.Literal.Rule.Function

/-!
# The grammar of expressions

Each rule has its phrase.  A whole text is an expression, or several of them as a tuple.
-/

namespace KernelInventory
namespace Report
namespace Literal
namespace Rule

open Phrase

/-- An expression without a look at what may be wrong with it: a choice between two
values, what operators make, or a function. -/
def bareExpression : Phrase Rule :=
  any
    (ofKind "conditional expression"
      (all [rule disjunction, word "if", rule disjunction, word "else",
        rule expression]))
    [rule disjunction, function]

/-- Whether an expression was a statement in former times. -/
def isFormer : Expression → Bool
  | .name word => word ∈ formerStatements
  | _ => false

/-- The problem of expressions side by side.  Outside of brackets there is none, and
none where the first one was a statement in former times. -/
def commaProblem? (expressions : List Expression) (depth : Nat) : Option Problem :=
  if depth = 0 ∨ expressions.head?.any isFormer then none else some .missingComma

/-- The problem of a statement of former times. -/
def formerProblem? : Expression → Option Problem
  | .name word => if word ∈ formerStatements then some (.missingParentheses word)
      else none
  | _ => none

/-- What is wrong with an expression. -/
def expressionFault : Phrase Rule :=
  either
    (explain commaProblem?
      (all [absent (either (both aName aQuotation) aSoftKeyword), rule disjunction,
        plainly bareExpression]))
    (fault .missingElse
      (all [rule disjunction, word "if", rule disjunction,
        absent (either (word "else") (sign ":"))]))

/-- What is wrong with an expression that begins with a name. -/
def formerFault : Phrase Rule :=
  faultOf formerProblem? (all [aName, absent (sign "("), rule starExpressions])

/-- What is wrong with a value inside an expression: a name is missing, or an equals
sign stands there by itself. -/
def namedFaultPhrase : Phrase Rule :=
  let single := absent (oneSign ["=", ":="])
  any
    (faultOf (fun found => some (.innerAssignmentTo found.kind))
      (all [rule expression, sign ":=", rule expression]))
    [fault .assignment (all [aName, sign "=", rule inclusiveOr, single]),
      faultOf (fun found => some (.assignmentTo found.kind))
        (all [absent (any tupleDisplay [rule generator, aConstant]),
          rule inclusiveOr, sign "=", rule inclusiveOr, single])]

/-- The phrase of each rule. -/
def phrase : Rule → Phrase Rule
  | expression => any (remark expressionFault) [remark formerFault, bareExpression]
  | starExpression => either (starred (rule inclusiveOr)) (rule expression)
  | starExpressions => series (rule starExpression)
  | named => any assignment [remark (rule namedFault), unassigned]
  | namedFault => namedFaultPhrase
  | disjunction => disjunctionPhrase
  | conjunction => conjunctionPhrase
  | inversion => inversionPhrase
  | inclusiveOr => chain (rule exclusiveOr) (sign "|")
  | exclusiveOr => chain (rule bitwiseAnd) (sign "^")
  | bitwiseAnd => chain (rule shift) (sign "&")
  | shift => chain (rule sum) (oneSign ["<<", ">>"])
  | sum => sumPhrase
  | term => termPhrase
  | factor => factorPhrase
  | awaited => awaitedPhrase
  | primary => primaryPhrase
  | atom => atomPhrase
  | generator => generatorPhrase
  | arguments => argumentsPhrase
  | loops => loopsPhrase
  | target => targetPhrase
  | plainTarget => plainTargetPhrase
  | leadingTarget => leadingTargetPhrase

/-- Whether a rule remembers what it made. -/
def remembers : Rule → Bool
  | starExpressions => false
  | named => false
  | atom => false
  | generator => false
  | loops => false
  | _ => true

end Rule

/-- The grammar of expressions. -/
def grammar : Grammar Rule := ⟨Rule.phrase, Rule.remembers⟩

/-- The whole of a text. -/
def wholeText : Phrase Rule := .both (Rule.series (.rule .expression)) .finish

/-- An expression inside a text. -/
def innerExpression : Phrase Rule := .rule .starExpressions

end Literal
end Report
end KernelInventory
