import KernelInventory.Report.Literal.Phrase

/-!
# Rules of expressions

The rules of the grammar by name, and the phrases that all of them are made of.
-/

namespace KernelInventory
namespace Report
namespace Literal

/-- The rules that others name. -/
inductive Rule
  | expression
  | starExpression
  | starExpressions
  | named
  | namedFault
  | disjunction
  | conjunction
  | inversion
  | inclusiveOr
  | exclusiveOr
  | bitwiseAnd
  | shift
  | sum
  | term
  | factor
  | awaited
  | primary
  | atom
  | generator
  | arguments
  | loops
  | target
  | plainTarget
  | leadingTarget
deriving Repr, DecidableEq

namespace Rule

open Phrase

/-- The words that name nothing. -/
def keywords : List String :=
  ["False", "None", "True", "and", "as", "assert", "async", "await", "break", "class",
    "continue", "def", "del", "elif", "else", "except", "finally", "for", "from",
    "global", "if", "import", "in", "is", "lambda", "nonlocal", "not", "or", "pass",
    "raise", "return", "try", "while", "with", "yield"]

/-- The words that name something in some places only. -/
def softKeywords : List String := ["_", "case", "match"]

/-- The words that were statements in former times. -/
def formerStatements : List String := ["print", "exec"]

/-! ## Single tokens -/

/-- A name. -/
def aName : Phrase Rule :=
  token fun
    | .word word => if word ∈ keywords then none else some [.name word]
    | _ => none

/-- A name in some places only. -/
def aSoftKeyword : Phrase Rule :=
  token fun
    | .word word => if word ∈ softKeywords then some [] else none
    | _ => none

/-- A constant in words. -/
def aConstant : Phrase Rule :=
  token fun
    | .word word => if word ∈ ["True", "False", "None"] then some [.constant word]
        else none
    | _ => none

/-- A number. -/
def aNumber : Phrase Rule :=
  token fun
    | .number style => some [.number (style = .imaginary)]
    | _ => none

/-- A quotation, whatever it holds. -/
def aQuotation : Phrase Rule :=
  token fun
    | .quotation _ => some []
    | _ => none

/-- One of several signs. -/
def oneSign (signs : List String) : Phrase Rule :=
  token fun
    | .mark mark => if mark ∈ signs then some [] else none
    | _ => none

/-! ## Expressions of phrases -/

/-- An expression of a kind that no literal has. -/
def ofKind (kind : String) (phrase : Phrase Rule) : Phrase Rule :=
  build (fun _ => .other kind) phrase

/-- An operand with any number of operators and operands behind it,
which compute something. -/
def chain (operand operator : Phrase Rule) : Phrase Rule :=
  build (Expression.gather fun _ => .computation)
    (both operand (many (both operator operand)))

/-- Several expressions as one. -/
def group (phrase : Phrase Rule) : Phrase Rule := build .tuple phrase

/-- An expression with a star in front of it. -/
def starred (phrase : Phrase Rule) : Phrase Rule :=
  both (sign "*")
    (build (fun operands => .starred (Expression.gather .tuple operands)) phrase)

/-- Expressions with commas between them: one stands for itself, and more are a tuple,
as is one with a comma behind it. -/
def series (phrase : Phrase Rule) : Phrase Rule :=
  any (group (all [phrase, atLeastOne (both (sign ",") phrase), optional (sign ",")]))
    [group (both phrase (sign ",")), phrase]

/-- An expression that is not given a value. -/
def unassigned : Phrase Rule := both (rule expression) (absent (sign ":="))

/-- A name that is given a value inside an expression. -/
def assignment : Phrase Rule :=
  ofKind "named expression" (all [aName, sign ":=", rule expression])

/-- An item of a display: it may have a star, or be given a name. -/
def item : Phrase Rule := either (starred (rule inclusiveOr)) (rule named)

/-- Items with commas between and perhaps behind them. -/
def items : Phrase Rule := both (listed item) (optional (sign ","))

/-- What an expression yields while it is evaluated. -/
def yielding : Phrase Rule :=
  ofKind "yield expression" (both (word "yield")
    (either (both (word "from") (rule expression)) (optional (rule starExpressions))))

/-! ## Faults -/

/-- A problem that a phrase always has. -/
def fault (problem : Problem) (phrase : Phrase Rule) : Phrase Rule :=
  explain (fun _ _ => some problem) phrase

/-- A problem with the first expression of a phrase. -/
def faultOf (problem : Expression → Option Problem) (phrase : Phrase Rule) :
    Phrase Rule :=
  explain (fun expressions _ => expressions.head?.bind problem) phrase

end Rule
end Literal
end Report
end KernelInventory
