import KernelInventory.Report.Literal.Quotation
import KernelInventory.Text.NameChar

/-!
# Tokens of a literal

A text is read as tokens from left to right.  Blanks and comments separate tokens; a
line ends the expression unless a bracket is open.  Brackets are matched while they are
read.  Nothing is read behind a backslash.
-/

namespace KernelInventory
namespace Report
namespace Literal

/-- A token. -/
inductive Token
  | number (form : NumberForm)
  | quotation (quotation : Quotation)
  | word (word : String)
  /-- An operator, a bracket, or any other sign. -/
  | mark (sign : String)
deriving Repr, DecidableEq

namespace Token

/-- Whether a character may be part of a word or a number, as far as one character can
tell. -/
def isWordLike (c : Char) : Bool :=
  c.isAlphanum || c == '_' || 0x80 ≤ c.toNat

/-- Whether a word that may follow a number without a blank comes first. -/
def adjoins (rest : List Char) : Bool :=
  ["if", "in", "is"].any (·.toList.isPrefixOf rest) ||
    ["and", "else", "for", "or", "not"].any fun word =>
      word.toList.isPrefixOf rest && !((rest.drop word.length).head?.any isWordLike)

/-- What is behind a number, if it ends there. -/
def endNumber (form : NumberForm) (rest : List Char) :
    Except Problem (Token × List Char) :=
  match rest with
  | c :: _ =>
    if isWordLike c && c.toNat < 0x80 && !adjoins rest then .error (.badNumber form)
    else .ok (.number form, rest)
  | [] => .ok (.number form, [])

/-- What is behind digits, between which single underscores may stand. -/
def dropDigits (form : NumberForm) (isDigit : Char → Bool) :
    List Char → Except Problem (List Char)
  | [] => .ok []
  | '_' :: rest =>
    match rest with
    | c :: others =>
      if isDigit c then dropDigits form isDigit others
      else if c.isDigit && form != .decimal && form != .hexadecimal then .error
        (.badDigit c form)
      else .error (.badNumber form)
    | [] => .error (.badNumber form)
  | c :: rest => if isDigit c then dropDigits form isDigit rest else .ok (c :: rest)

/-- A number in another base, behind the letter of the base. -/
def readBased (form : NumberForm) (isDigit : Char → Bool) (rest : List Char) :
    Except Problem (Token × List Char) := do
  let start := if rest.head? = some '_' then rest else '_' :: rest
  let behind ← dropDigits form isDigit start
  match behind with
  | c :: _ =>
    if c.isDigit && form != .hexadecimal then .error (.badDigit c form)
    else endNumber form behind
  | [] => endNumber form behind

/-- The end of a number behind its digits and its fraction: an exponent, or the sign of
an imaginary number, or nothing. -/
def readTail (rest : List Char) : Except Problem (Token × List Char) := do
  let behind ←
    match rest with
    | c :: others =>
      if c = 'e' || c = 'E' then
        match others with
        | sign :: d :: more =>
          if sign.isDigit then dropDigits .decimal Char.isDigit others
          else if sign = '+' || sign = '-' then
            if d.isDigit then dropDigits .decimal Char.isDigit (d :: more)
            else .error (.badNumber .decimal)
          else .ok rest
        | [d] =>
          if d.isDigit then .ok []
          else if d = '+' || d = '-' then .error (.badNumber .decimal)
          else .ok rest
        | [] => .ok rest
      else .ok rest
    | [] => .ok rest
  match behind with
  | 'j' :: others => endNumber .imaginary others
  | 'J' :: others => endNumber .imaginary others
  | _ => endNumber .decimal behind

/-- A fraction behind its point, with what follows it. -/
def readFraction (rest : List Char) : Except Problem (Token × List Char) :=
  match rest with
  | c :: _ =>
    if c.isDigit then do readTail (← dropDigits .decimal Char.isDigit rest)
    else readTail rest
  | [] => readTail rest

/-- A number that starts with a digit. -/
def readNumber (text : List Char) : Except Problem (Token × List Char) :=
  match text with
  | '0' :: 'x' :: rest => readBased .hexadecimal Text.isHexadecimal rest
  | '0' :: 'X' :: rest => readBased .hexadecimal Text.isHexadecimal rest
  | '0' :: 'o' :: rest => readBased .octal (fun c => '0' ≤ c && c ≤ '7') rest
  | '0' :: 'O' :: rest => readBased .octal (fun c => '0' ≤ c && c ≤ '7') rest
  | '0' :: 'b' :: rest => readBased .binary (fun c => c == '0' || c == '1') rest
  | '0' :: 'B' :: rest => readBased .binary (fun c => c == '0' || c == '1') rest
  | _ => do
    let behind ← dropDigits .decimal Char.isDigit text
    let digits := (text.take (text.length - behind.length)).filter (· != '_')
    let isPadded := digits.head? = some '0' ∧ digits.any (· != '0')
    match behind with
    | '.' :: rest => readFraction rest
    | c :: _ =>
      if isPadded ∧ !"eEjJ".toList.contains c then .error .leadingZeros
      else readTail behind
    | [] => if isPadded then .error .leadingZeros else readTail []

/-- A text up to its closing quotes, and what is behind them.  The line is where it is
read. -/
def takeQuoted (quote : Char) (triple : Bool) (line : Nat) :
    List Char → Except Problem (List Char × List Char)
  | [] => .error (.unterminated triple line)
  | c :: rest =>
    if c = '\\' then
      match rest with
      | [] => .error (.unterminated triple line)
      | d :: others =>
        Quotation.keep [c, d]
          (takeQuoted quote triple (if d = '\n' then line + 1 else line) others)
    else if c = quote then
      if !triple then .ok ([], rest)
      else if rest.take 2 = [quote, quote] then .ok ([], rest.drop 2)
      else Quotation.keep [c] (takeQuoted quote triple line rest)
    else if c = '\n' then
      if triple then Quotation.keep [c] (takeQuoted quote triple (line + 1) rest)
      else .error (.unterminated triple line)
    else Quotation.keep [c] (takeQuoted quote triple line rest)

/-- A quotation from its opening quotes on, with the small letters in front of them. -/
def readQuotation (letters : List Char) (line : Nat) :
    List Char → Except Problem (Token × List Char)
  | quote :: rest => do
    let triple := [quote, quote].isPrefixOf rest
    let inner := if triple then rest.drop 2 else rest
    let (body, behind) ← takeQuoted quote triple line inner
    let raw := letters.contains 'r' || !body.contains '\\'
    return (.quotation ⟨letters.contains 'b', raw, letters.contains 'f', body⟩, behind)
  | [] => .error .unexpected

/-- The letters that may stand in front of a quote: they ask for bytes, for a format, or
for backslashes as they are. -/
def leads : List String := ["b", "r", "u", "f", "br", "rb", "fr", "rf"]

/-- The first character of a word that does not belong in a name. -/
def stranger? : List Char → Option Char
  | [] => none
  | c :: rest => if Text.beginsName c then rest.find? (!Text.continuesName ·)
      else some c

/-- A word, or a quotation with letters in front of its quotes. -/
def readWord (line : Nat) (text : List Char) : Except Problem (Token × List Char) :=
  let word := text.takeWhile isWordLike
  let rest := text.dropWhile isWordLike
  let letters := word.map Char.toLower
  let quoted := rest.head? = some '"' ∨ rest.head? = some '\''
  if quoted ∧ String.ofList letters ∈ leads then readQuotation letters line rest
  else
    match stranger? word with
    | some c => .error (.badCharacter c)
    | none => .ok (.word (String.ofList word), rest)

/-- The signs of more than one character, the longer ones first. -/
def longMarks : List String :=
  ["**=", "//=", ">>=", "<<=", "...", "!=", "%=", "&=", "**", "*=", "+=", "-=", "->",
    "//", "/=", ":=", "<<", "<=", "<>", "==", ">=", ">>", "@=", "^=", "|="]

/-- A sign. -/
def readMark (c : Char) (rest : List Char) : Token × List Char :=
  match longMarks.find? (·.toList.isPrefixOf (c :: rest)) with
  | some sign => (.mark sign, (c :: rest).drop sign.length)
  | none => (.mark (String.singleton c), rest)

/-- The number of brackets that may be open. -/
def bracketLimit : Nat := 200

/-- The brackets that are open behind a sign. -/
def track (opened : List Char) (c : Char) : Except Problem (List Char) :=
  if Quotation.isOpening c then
    if opened.length < bracketLimit then .ok (c :: opened) else .error .tooManyBrackets
  else
    match Quotation.opening? c, opened with
    | none, _ => .ok opened
    | some _, [] => .error (.unmatched c)
    | some partner, last :: others =>
      if partner = last then .ok others else .error (.mismatched c last)

end Token

/-- A token, and the number of brackets that are open behind it. -/
structure Placed where
  token : Token
  depth : Nat
deriving Repr, DecidableEq

/-- The tokens of a text. -/
structure Script where
  tokens : List Placed
  /-- The problem that is met behind the last token, unless the text ends there
  properly. -/
  ending : Option Problem
deriving Repr, DecidableEq

/-- A script with one more token in front. -/
def Script.push (token : Placed) (script : Script) : Script :=
  { script with tokens := token :: script.tokens }

/-- The script of a text, in a line of the whole and behind brackets that are
open, the last one first.  The fuel is the length of the text: no step leaves
it as long as it was. -/
def Script.readFrom (fuel line : Nat) (opened : List Char) (text : List Char) :
    Except Problem Script :=
  match fuel, text with
  | _, [] => .ok ⟨[], opened.head?.map Problem.neverClosed⟩
  | 0, _ => .ok ⟨[], none⟩
  | fuel + 1, c :: rest => do
    if c = ' ' || c = '\t' || c.toNat = 0x0C then readFrom fuel line opened rest
    else if c = '#' then readFrom fuel line opened (rest.dropWhile (· != '\n'))
    else if c = '\n' && !opened.isEmpty then readFrom fuel (line + 1) opened rest
    else if c = '\\' then return ⟨[], some .continuation⟩
    else
      let next := if c = '\n' then line + 1 else line
      let (token, behind) ←
        if c.isDigit then Token.readNumber (c :: rest)
        else if c = '.' && rest.head?.any Char.isDigit then Token.readFraction rest
        else if Token.isWordLike c then Token.readWord line (c :: rest)
        else if c = '"' || c = '\'' then Token.readQuotation [] line (c :: rest)
        else .ok (Token.readMark c rest)
      let left ← Token.track opened c
      let script ← readFrom fuel next left behind
      return script.push ⟨token, left.length⟩

/-- The script of a text. -/
def Script.ofText (text : List Char) : Except Problem Script :=
  readFrom text.length 1 [] text

end Literal
end Report
end KernelInventory
