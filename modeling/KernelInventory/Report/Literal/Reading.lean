import KernelInventory.Report.Literal.Grammar

/-!
# Reading of literals

The expressions inside of texts are read by the same grammar.
-/

namespace KernelInventory
namespace Report
namespace Literal

/-- Check quotations side by side, which all mean bytes or all do not, given how an
expression in them is read and what the quotation in front of them means. -/
def checkJoined (read : List Char → Except Problem Unit) (bytes : Option Bool) :
    List Quotation → Except Problem Unit
  | [] => .ok ()
  | quotation :: rest => do
    if !quotation.formatted then quotation.check read
    if bytes.any (· != quotation.bytes) then throw .mixedText
    if quotation.formatted then quotation.check read
    checkJoined read quotation.bytes rest

/-- The expression that quotations side by side make. -/
def join (read : List Char → Except Problem Unit) (quotations : List Quotation) :
    Except Problem Expression := do
  checkJoined read none quotations
  if quotations.any Quotation.formatted then return .other "f-string expression"
  else return .text (quotations.any Quotation.bytes)

/-- Read a text by a phrase.  The fuel bounds how deep texts stand in
expressions in texts. -/
def readText (fuel : Nat) (phrase : Phrase Rule) (text : List Char) :
    Except Problem Expression :=
  match fuel with
  | 0 => .error .unexpected
  | fuel + 1 => do
    let script ← Script.ofText text
    let readInner (inner : List Char) : Except Problem Unit :=
      match readText fuel innerExpression inner with
      | .ok _ => .ok ()
      | .error problem => .error problem.inside
    grammar.expression ⟨script.tokens.toArray, script.ending, join readInner⟩ phrase

/-- The expression that a text is.  A text in an expression in a text is
shorter than the outer one. -/
def Expression.ofText (text : List Char) : Except Problem Expression :=
  readText (text.length + 1) wholeText text

end Literal
end Report
end KernelInventory
