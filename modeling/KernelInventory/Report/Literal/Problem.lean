import KernelInventory.Text.Printable
import KernelInventory.Text.Quoted

/-!
# What may be wrong with a literal

A literal is a value in writing: numbers, texts, constants, and tuples, sets and
dictionaries of them.  A text may fail to be an expression at all, or be an expression
that is more than a literal.
-/

namespace KernelInventory
namespace Report
namespace Literal

/-- The ways in which a number is written. -/
inductive NumberForm
  | decimal
  | hexadecimal
  | octal
  | binary
  | imaginary
deriving Repr, DecidableEq

/-- How a form is named in a complaint. -/
def NumberForm.name : NumberForm → String
  | decimal => "decimal"
  | hexadecimal => "hexadecimal"
  | octal => "octal"
  | binary => "binary"
  | imaginary => "imaginary"

/-- Why a text with escapes is not one. -/
inductive EscapeFault
  /-- Too few digits follow the letter. -/
  | truncated (letter : Char)
  /-- The digits write the number of no character. -/
  | noCharacter
  /-- The name is the name of no character. -/
  | unknownName
  /-- There is no name between braces. -/
  | malformedName
deriving Repr, DecidableEq

/-- The wording of a fault. -/
def EscapeFault.message : EscapeFault → String
  | truncated letter =>
    let digits := if letter = 'x' then "XX" else if letter = 'u' then "XXXX"
    else "XXXXXXXX"
    s!"truncated \\{letter}{digits} escape"
  | noCharacter => "illegal Unicode character"
  | unknownName => "unknown Unicode character name"
  | malformedName => "malformed \\N character escape"

/-- Why a text with expressions in braces is not one. -/
inductive FormatFault
  | loneBrace
  | unfinished
  | tooDeep
  | backslash
  | comment
  | unterminated
  | unmatched (bracket : Char)
  | mismatched (closing opening : Char)
  | noExpression
  | noExpressionBefore (sign : Char)
  | badConversion
deriving Repr, DecidableEq

/-- The wording of a fault. -/
def FormatFault.message : FormatFault → String
  | loneBrace => "f-string: single '\x7d' is not allowed"
  | unfinished => "f-string: expecting '\x7d'"
  | tooDeep => "f-string: expressions nested too deeply"
  | backslash => "f-string expression part cannot include a backslash"
  | comment => "f-string expression part cannot include '#'"
  | unterminated => "f-string: unterminated string"
  | unmatched bracket => s!"f-string: unmatched '{bracket}'"
  | mismatched closing opening =>
    s!"f-string: closing parenthesis '{closing}' does not match opening parenthesis '{opening}'"
  | noExpression => "f-string: empty expression not allowed"
  | noExpressionBefore sign => s!"f-string: expression required before '{sign}'"
  | badConversion => "f-string: invalid conversion character: expected 's', 'r', or 'a'"

/-- What is wrong with the parameters of a function without a name. -/
inductive ParameterFault
  | valueMissing
  /-- A parameter without a value behind one that has a value. -/
  | lateRequired
  | parenthesized
  /-- A slash in front of all parameters. -/
  | leadingSlash
  | secondSlash
  | lateSlash
  /-- A star right behind a slash. -/
  | slashStar
  /-- A star with no parameter behind it. -/
  | bareStar
  | starredValue
  | secondStar
  | doubleStarredValue
  | lateParameter
deriving Repr, DecidableEq

/-- The wording of a fault. -/
def ParameterFault.message : ParameterFault → String
  | valueMissing => "expected default value expression"
  | lateRequired => "non-default argument follows default argument"
  | parenthesized => "Lambda expression parameters cannot be parenthesized"
  | leadingSlash => "at least one argument must precede /"
  | secondSlash => "/ may appear only once"
  | lateSlash => "/ must be ahead of *"
  | slashStar => "expected comma between / and *"
  | bareStar => "named arguments must follow bare *"
  | starredValue => "var-positional argument cannot have default value"
  | secondStar => "* argument may appear only once"
  | doubleStarredValue => "var-keyword argument cannot have default value"
  | lateParameter => "arguments cannot follow var-keyword argument"

/-- Why a text is no expression. -/
inductive Problem
  /-- A token stands where none of its kind may. -/
  | unexpected
  /-- Two expressions stand side by side between brackets. -/
  | missingComma
  /-- A name is given a value. -/
  | assignment
  /-- Something that is no name is given a value. -/
  | assignmentTo (what : String)
  /-- Something that is no name is given a value inside an expression. -/
  | innerAssignmentTo (what : String)
  /-- Something that is no name is given a value by a loop or a call. -/
  | badTarget (what : String)
  /-- Something that is no name is given a value in a call. -/
  | argumentAssignment
  /-- A condition without its other case. -/
  | missingElse
  /-- A key of a dictionary without its value. -/
  | missingValue
  /-- An entry of a dictionary without a colon. -/
  | missingColon
  /-- A statement of former times. -/
  | missingParentheses (word : String)
  /-- A star with nothing behind it. -/
  | loneStar
  /-- A star or two in front of the only expression between brackets. -/
  | misplacedStar (double : Bool)
  /-- A star in front of the value of a key. -/
  | starredValue
  /-- A star in front of what a loop collects, or two in front of the entries it
  collects. -/
  | starredLoop (double : Bool)
  /-- Several expressions that a loop collects without parentheses around them. -/
  | bareLoopTuple
  /-- A loop without parentheses among other arguments. -/
  | bareLoop
  /-- A starred argument behind one with two stars. -/
  | lateStar
  /-- An argument without a name behind named ones, or behind one with two stars. -/
  | latePositional (unpacked : Bool)
  | badParameters (fault : ParameterFault)
  | neverClosed (bracket : Char)
  | unmatched (bracket : Char)
  | mismatched (closing opening : Char)
  | tooManyBrackets
  /-- A text without its closing quotes, which is noticed in a line. -/
  | unterminated (triple : Bool) (line : Nat)
  | badNumber (form : NumberForm)
  | badDigit (digit : Char) (form : NumberForm)
  | leadingZeros
  | badCharacter (c : Char)
  /-- A backslash that ends no line. -/
  | continuation
  /-- Bytes and a text side by side. -/
  | mixedText
  /-- Bytes with a character outside ASCII. -/
  | wideBytes
  /-- An escape in a text, from one place to another. -/
  | badEscape (first last : Nat) (fault : EscapeFault)
  /-- An escape in bytes, at a place. -/
  | badByteEscape (place : Nat)
  | badFormat (fault : FormatFault)
  /-- A problem of an expression in a text. -/
  | inFormat (problem : Problem)
deriving Repr, DecidableEq

namespace Problem

/-- Whether a problem is one with a single token or a bracket, and not with their
order. -/
def isLexical : Problem → Bool
  | unterminated .. | badNumber _ | badDigit .. | leadingZeros | badCharacter _ |
      unmatched _
  | mismatched .. | tooManyBrackets => true
  | _ => false

/-- The problem of a text whose expression has a problem.  Problems of single tokens are
the same everywhere, and it does not matter how deep an expression is. -/
def inside (problem : Problem) : Problem :=
  match problem with
  | inFormat _ => problem
  | _ => if problem.isLexical then problem else inFormat problem

/-- A code point in at least four hexadecimal digits. -/
def codePoint (c : Char) : String :=
  let digits := (Nat.toDigits 16 c.toNat).map Char.toUpper
  String.ofList (List.replicate (4 - digits.length) '0' ++ digits)

/-- The wording of a problem. -/
def message : Problem → String
  | unexpected => "invalid syntax"
  | missingComma => "invalid syntax. Perhaps you forgot a comma?"
  | assignment => "invalid syntax. Maybe you meant '==' or ':=' instead of '='?"
  | assignmentTo what =>
      s!"cannot assign to {what} here. Maybe you meant '==' instead of '='?"
  | innerAssignmentTo what => s!"cannot use assignment expressions with {what}"
  | badTarget what => s!"cannot assign to {what}"
  | argumentAssignment =>
      "expression cannot contain assignment, perhaps you meant \"==\"?"
  | missingElse => "expected 'else' after 'if' expression"
  | missingValue => "expression expected after dictionary key and ':'"
  | missingColon => "':' expected after dictionary key"
  | missingParentheses word =>
    s!"Missing parentheses in call to '{word}'. Did you mean {word}(...)?"
  | loneStar => "Invalid star expression"
  | misplacedStar false => "cannot use starred expression here"
  | misplacedStar true => "cannot use double starred expression here"
  | starredValue => "cannot use a starred expression in a dictionary value"
  | starredLoop false => "iterable unpacking cannot be used in comprehension"
  | starredLoop true => "dict unpacking cannot be used in dict comprehension"
  | bareLoopTuple => "did you forget parentheses around the comprehension target?"
  | bareLoop => "Generator expression must be parenthesized"
  | lateStar => "iterable argument unpacking follows keyword argument unpacking"
  | latePositional false => "positional argument follows keyword argument"
  | latePositional true => "positional argument follows keyword argument unpacking"
  | badParameters fault => fault.message
  | neverClosed bracket => s!"'{bracket}' was never closed"
  | unmatched bracket => s!"unmatched '{bracket}'"
  | mismatched closing opening =>
    s!"closing parenthesis '{closing}' does not match opening parenthesis '{opening}'"
  | tooManyBrackets => "too many nested parentheses"
  | unterminated false line => s!"unterminated string literal (detected at line {line})"
  | unterminated true line =>
    s!"unterminated triple-quoted string literal (detected at line {line})"
  | badNumber form => s!"invalid {form.name} literal"
  | badDigit digit form => s!"invalid digit '{digit}' in {form.name} literal"
  | leadingZeros => "leading zeros in decimal integer literals are not permitted; " ++
      "use an 0o prefix for octal integers"
  | badCharacter c =>
    if Text.isPrintable c then s!"invalid character '{c}' (U+{codePoint c})"
    else s!"invalid non-printable character U+{codePoint c}"
  | continuation => "unexpected character after line continuation character"
  | mixedText => "cannot mix bytes and nonbytes literals"
  | wideBytes => "bytes can only contain ASCII literal characters"
  | badEscape first last fault =>
    "(unicode error) 'unicodeescape' codec can't decode bytes in position " ++
      s!"{first}-{last}: {fault.message}"
  | badByteEscape place => s!"(value error) invalid \\x escape at position {place}"
  | badFormat fault => fault.message
  | inFormat problem => "f-string: " ++ problem.message

end Problem
end Literal
end Report
end KernelInventory
