import KernelInventory.Report.Literal.Quotation

/-!
# Expressions

An expression is kept as far as it matters for literals and for complaints: of most
kinds only the word for them is known.
-/

namespace KernelInventory
namespace Report
namespace Literal

/-- An expression, or a part of one. -/
inductive Expression
  | number (imaginary : Bool)
  | text (bytes : Bool)
  /-- One of the words for the truth values and for nothing. -/
  | constant (word : String)
  | ellipsis
  | name (word : String)
  | call (function : Expression) (bare : Bool)
  /-- A plus or a minus in front of an operand. -/
  | signed (operand : Expression)
  | sum (left right : Expression)
  /-- Operands of which the first is looked for in the second. -/
  | membership (item : Expression)
  /-- An expression with a star in front of it. -/
  | starred (operand : Expression)
  | tuple (items : List Expression)
  | set (items : List Expression)
  /-- Keys with their values; two stars stand in the place of a key. -/
  | dictionary (entries : List (Option Expression × Expression))
  /-- Two stars in the place of a key. -/
  | doubleStar
  /-- An argument with a name, or one with two stars. -/
  | keyword (named : Bool)
  /-- An expression of a kind that no literal has. -/
  | other (kind : String)
deriving Repr

namespace Expression

/-- The word for an expression in a complaint. -/
def kind : Expression → String
  | number _ => "literal"
  | text _ => "literal"
  | constant word => word
  | ellipsis => "ellipsis"
  | name _ => "name"
  | call .. => "function call"
  | signed _ => "expression"
  | sum .. => "expression"
  | membership _ => "comparison"
  | starred _ => "starred"
  | tuple _ => "tuple"
  | set _ => "set display"
  | dictionary _ => "dict literal"
  | doubleStar => "expression"
  | keyword _ => "expression"
  | other kind => kind

/-- Any computation that is not a sum. -/
def computation : Expression := other "expression"

/-- A list of expressions, or its only member. -/
def gather (combine : List Expression → Expression) : List Expression → Expression
  | [single] => single
  | several => combine several

/-- The sum of expressions from left to right. -/
def sumOf : List Expression → Expression
  | [] => computation
  | first :: rest => rest.foldl sum first

/-- What is made of an operand by what follows it, from left to right. -/
def follow : List Expression → Expression
  | [] => computation
  | operand :: followers =>
    followers.foldl
      (fun made follower =>
        match follower with
        | call _ bare => call made bare
        | instead => instead)
      operand

/-- The entries of a dictionary from its keys and values in turn. -/
def entriesOf : List Expression → List (Option Expression × Expression)
  | doubleStar :: value :: rest => (none, value) :: entriesOf rest
  | key :: value :: rest => (some key, value) :: entriesOf rest
  | _ => []

mutual

/-- What is no proper target of a loop in an expression that stands for its targets.
The loop's own word `in` makes a comparison of the last target and what follows. -/
def badTarget? : Expression → Option Expression
  | name _ => none
  | tuple items => firstBadTarget? items
  | starred operand => badTarget? operand
  | membership item => badTarget? item
  | other kind =>
    if kind = "attribute" ∨ kind = "comparison" then none else some (other kind)
  | expression => some expression

/-- What is no proper target among several. -/
def firstBadTarget? : List Expression → Option Expression
  | [] => none
  | first :: rest => (badTarget? first).orElse fun _ => firstBadTarget? rest

end

end Expression
end Literal
end Report
end KernelInventory
