import KernelInventory.Report.Literal.Problem
import KernelInventory.Text.Digit

/-!
# Quotations

A quotation is what stands between quotes.  Letters in front of the quotes tell
whether it means bytes, whether its backslashes are as they are, and whether
expressions in braces are part of it.

Places in a text with escapes are those of a form in which every character is ASCII: any
other one is written with ten characters, and a backslash in front of it with six.
-/

namespace KernelInventory
namespace Report
namespace Literal

/-- A text between quotes. -/
structure Quotation where
  bytes : Bool
  /-- Backslashes are as they are. -/
  raw : Bool
  /-- Braces hold expressions. -/
  formatted : Bool
  body : List Char
deriving Repr, DecidableEq

namespace Quotation

/-- Whether a character is ASCII. -/
def isAscii (c : Char) : Bool := c.toNat < 0x80

/-- The room of a character where places are counted. -/
def room (c : Char) : Nat := if isAscii c then 1 else 10

/-- The room of a text. -/
def roomOf : List Char → Nat
  | [] => 0
  | '\\' :: c :: rest => (if isAscii c then 2 else 6 + room c) + roomOf rest
  | c :: rest => room c + roomOf rest

/-- The number of digits behind the letter of an escape that gives a
character by its number. -/
def digitCount? (letter : Char) : Option Nat :=
  if letter = 'x' then some 2 else if letter = 'u' then some 4
  else if letter = 'U' then some 8 else none

/-- What is wrong with an escape at a place that gives a character by
its number, if anything. -/
def numberFault? (place : Nat) (letter : Char) (count : Nat) (behind : List Char) :
    Option Problem :=
  let digits := (behind.take count).takeWhile Text.isHexadecimal
  let last := place + 1 + digits.length
  if digits.length < count then some (.badEscape place last (.truncated letter))
  else if 0x10FFFF < Text.hexadecimalOf digits then
    some (.badEscape place last .noCharacter)
  else none

/-- What is wrong with an escape at a place that names a character.  No names are
known. -/
def nameFault (place : Nat) (behind : List Char) : Problem :=
  match behind with
  | '{' :: rest =>
    let name := rest.takeWhile (· != '}')
    let last := place + 2 + roomOf name
    if name.length = rest.length then .badEscape place last .malformedName
    else if name.isEmpty then .badEscape place last .malformedName
    else .badEscape place (last + 1) .unknownName
  | _ => .badEscape place (place + 1) .malformedName

/-- The first problem with an escape in a text whose first character stands at a
place. -/
def escapeProblem? (place : Nat) : List Char → Option Problem
  | [] => none
  | '\\' :: [] => none
  | '\\' :: c :: rest =>
    if !isAscii c then escapeProblem? (place + 6 + room c) rest
    else if c = 'N' then some (nameFault place rest)
    else
      match digitCount? c with
      | none => escapeProblem? (place + 2) rest
      | some count =>
        match numberFault? place c count rest with
        | some problem => some problem
        | none => escapeProblem? (place + 2) rest
  | c :: rest => escapeProblem? (place + room c) rest

/-- The first problem with an escape in bytes whose first one stands at a place. -/
def byteEscapeProblem? (place : Nat) : List Char → Option Problem
  | [] => none
  | '\\' :: [] => none
  | '\\' :: c :: rest =>
    if c = 'x' then
      if ((rest.take 2).takeWhile Text.isHexadecimal).length <
        2 then some (.badByteEscape place)
      else byteEscapeProblem? (place + 2) rest
    else byteEscapeProblem? (place + 2) rest
  | _ :: rest => byteEscapeProblem? (place + 1) rest

/-- Check a text with escapes. -/
def checkEscapes (raw : Bool) (text : List Char) : Except Problem Unit :=
  match if raw then none else escapeProblem? 0 text with
  | some problem => .error problem
  | none => .ok ()

/-- Check bytes. -/
def checkBytes (raw : Bool) (text : List Char) : Except Problem Unit :=
  if !text.all isAscii then .error .wideBytes
  else
    match if raw then none else byteEscapeProblem? 0 text with
    | some problem => .error problem
    | none => .ok ()

/-! ## Expressions in braces -/

/-- Whether a character opens or closes an expression. -/
def isBrace (c : Char) : Bool := c == '{' || c == '}'

/-- Characters in front of what is read. -/
def keep {α : Type} (lead : List Char) (reading : Except Problem (List Char × α)) :
    Except Problem (List Char × α) :=
  reading.map fun (text, behind) => (lead ++ text, behind)

/-- The text in front of the next brace, whether that brace was written twice,
and what is behind. Braces may be written twice in an outer text, which is not
itself between braces. -/
def takePlain (raw outer named : Bool) :
    List Char → Except Problem (List Char × Bool × List Char)
  | [] => .ok ([], false, [])
  | c :: rest =>
    if named then keep [c] (takePlain raw outer (c != '}') rest)
    else if isBrace c then
      if outer ∧ rest.head? = some c then .ok ([c], true, rest.drop 1)
      else if outer ∧ c = '}' then .error (.badFormat .loneBrace)
      else .ok ([], false, c :: rest)
    else if raw ∨ c ≠ '\\' then keep [c] (takePlain raw outer false rest)
    else
      match rest with
      | 'N' :: '{' :: others => keep [c, 'N', '{'] (takePlain raw outer true others)
      | 'N' :: d :: others => keep [c, 'N', d] (takePlain raw outer false others)
      | d :: others =>
        if isBrace d then keep [c] (takePlain raw outer false (d :: others))
        else keep [c, d] (takePlain raw outer false others)
      | [] => .ok ([c], false, [])

/-- The quotes that an inner text is in: the character, and whether
there are three of them. -/
abbrev Quotes := Option (Char × Bool)

/-- The bracket that a closing bracket closes. -/
def opening? : Char → Option Char
  | ')' => some '('
  | ']' => some '['
  | '}' => some '{'
  | _ => none

/-- Whether a character opens a bracket. -/
def isOpening (c : Char) : Bool := c == '(' || c == '[' || c == '{'

/-- The expression in braces up to the sign that ends it, and what is from that sign
on. -/
def takeExpression (quotes : Quotes) (opened : List Char) :
    List Char → Except Problem (List Char × List Char)
  | [] =>
    match quotes, opened with
    | some _, _ => .error (.badFormat .unterminated)
    | none, bracket :: _ => .error (.badFormat (.unmatched bracket))
    | none, [] => .ok ([], [])
  | c :: rest =>
    let three := rest.take 2 == [c, c]
    match quotes with
    | some (quote, triple) =>
      if c = '\\' then .error (.badFormat .backslash)
      else if c ≠ quote ∨ (triple ∧ !three) then keep [c]
        (takeExpression quotes opened rest)
      else if triple then
        keep (c :: rest.take 2) (takeExpression none opened (rest.drop 2))
      else keep [c] (takeExpression none opened rest)
    | none =>
      if c = '\\' then .error (.badFormat .backslash)
      else if c = '\'' ∨ c = '"' then
        if three then
          keep (c :: rest.take 2) (takeExpression (some (c, true)) opened (rest.drop 2))
        else keep [c] (takeExpression (some (c, false)) opened rest)
      else if isOpening c then keep [c] (takeExpression none (c :: opened) rest)
      else if c = '#' then .error (.badFormat .comment)
      else if opened.isEmpty ∧ "!:\x7d=><".toList.contains c then
        if rest.head? = some '=' ∧ "!=<>".toList.contains c then
          keep [c, '='] (takeExpression none opened (rest.drop 1))
        else if c = '<' ∨ c = '>' then keep [c] (takeExpression none opened rest)
        else .ok ([], c :: rest)
      else
        match opening? c, opened with
        | none, _ => keep [c] (takeExpression none opened rest)
        | some _, [] => .error (.badFormat (.unmatched c))
        | some partner, last :: others =>
          if partner = last then keep [c] (takeExpression none others rest)
          else .error (.badFormat (.mismatched c last))
termination_by text => text.length
decreasing_by
  all_goals simp only [List.length_cons, List.length_drop]; omega

/-- Check an expression in braces, which is read as if it stood in parentheses. -/
def checkInner (read : List Char → Except Problem Unit) (text : List Char)
    (sign : Char) :
    Except Problem Unit :=
  if text.all fun c => c == ' ' || c == '\t' || c == '\n' || c.toNat == 0x0C then
    .error (.badFormat (if sign = '}' then .noExpression else .noExpressionBefore sign))
  else read ('(' :: text ++ [')'])

/-- What is behind the conversion that follows an expression, if there is one. -/
def dropConversion : List Char → Except Problem (List Char)
  | '!' :: c :: rest =>
    if c = 's' ∨ c = 'r' ∨ c = 'a' then .ok rest else .error (.badFormat .badConversion)
  | '!' :: [] => .error (.badFormat .unfinished)
  | text => .ok text

/-- What is behind the equals sign that asks for an expression's own
text, if there is one. -/
def dropEquals : List Char → List Char
  | '=' :: rest => rest.dropWhile fun c =>
      c == ' ' || (0x09 ≤ c.toNat && c.toNat ≤ 0x0D)
  | text => text

/-- Check a text with expressions in braces, each of which may have a text of its own
about its format.  The fuel is more than the length of the text.  What is left is the
brace behind an inner text, and nothing otherwise. -/
def checkFormat (read : List Char → Except Problem Unit) (raw : Bool) (fuel depth : Nat)
    (text : List Char) : Except Problem (List Char) :=
  match fuel with
  | 0 => .error .unexpected
  | fuel + 1 => do
    let (plain, doubled, rest) ← takePlain raw (depth = 0) false text
    checkEscapes raw plain
    if doubled then checkFormat read raw fuel depth rest
    else
      match rest with
      | '{' :: inner => do
        if 2 ≤ depth then throw (.badFormat .tooDeep)
        let (expression, behind) ← takeExpression none [] inner
        let sign ←
          match behind with
          | sign :: _ => pure sign
          | [] => throw (.badFormat .unfinished)
        checkInner read expression sign
        let converted ← dropConversion (dropEquals behind)
        let finished ←
          match converted with
          | ':' :: [] => throw (.badFormat .unfinished)
          | ':' :: format => checkFormat read raw fuel (depth + 1) format
          | other => pure other
        match finished with
        | '}' :: others => checkFormat read raw fuel depth others
        | _ => throw (.badFormat .unfinished)
      | left =>
        if depth ≠ 0 ∧ left.isEmpty then throw (.badFormat .unfinished) else return left

/-- Check a quotation, given how an expression in it is read. -/
def check (read : List Char → Except Problem Unit) (quotation : Quotation) :
    Except Problem Unit :=
  if quotation.bytes then checkBytes quotation.raw quotation.body
  else if quotation.formatted then
    discard
      (checkFormat read quotation.raw (quotation.body.length + 1) 0 quotation.body)
  else checkEscapes quotation.raw quotation.body

end Quotation
end Literal
end Report
end KernelInventory
