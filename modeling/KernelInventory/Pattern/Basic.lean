import KernelInventory.Pattern.Glob
import KernelInventory.Text.Blank
import KernelInventory.Text.Quoted

/-!
# Exclusion patterns

A pattern says which paths it is about.  It is split at the separators into segments;
the segment `**` stands for any number of directories.  A pattern with a single segment
is about names at any depth, one that ends in a separator is about directories, and one
that starts with an exclamation mark takes back what other patterns say.
-/

namespace KernelInventory

/-- What a pattern asks of the text of a path. -/
inductive Pattern.Rule
  /-- There is a character that ends no line. -/
  | anyCharacter
  /-- There is a separator. -/
  | anySeparator (marked : Bool)
  /-- The text begins with the pieces. -/
  | pieces (pieces : List Pattern.Piece)
deriving Repr, DecidableEq

/-- A pattern: what it asks, and whether it excludes what it matches or takes it
back. -/
structure Pattern where
  excludes : Bool
  rule : Pattern.Rule
deriving Repr, DecidableEq

namespace Pattern

/-- Why a pattern is refused. -/
inductive Failure
  /-- The pattern names nothing, or ends in the middle of an escape. -/
  | invalid (pattern : String)
  /-- A range of a class has its ends the wrong way round; `written` is the whole
  pattern in written form, and `position` the place of the range in it. -/
  | reversedRange (low high : Char) (written : List Char) (position : Nat)
deriving Repr, DecidableEq

namespace Failure

/-- The line and the column of a place in a text with several lines, as reported. -/
def place (written : List Char) (position : Nat) : String :=
  if written.contains '\n' then
    let before := written.take position
    let line := before.count '\n' + 1
    let column := (before.reverse.takeWhile (· ≠ '\n')).length + 1
    s!" (line {line}, column {column})"
  else ""

/-- The wording of a failure. -/
def message : Failure → String
  | invalid pattern => s!"Invalid git pattern: {Text.quoted pattern}"
  | reversedRange low high written position =>
    let range := ClassRange.written low ++ '-' :: ClassRange.written high
    s!"bad character range {String.ofList range} at position {position}" ++
      place written position

end Failure

/-- The segment that stands for any number of directories. -/
def anyDirectories : List Char := ['*', '*']

/-- Replace each run of `**` by a single one. -/
def collapseRuns : List (List Char) → List (List Char)
  | first :: second :: rest =>
    if first = anyDirectories ∧
      second = anyDirectories then collapseRuns (second :: rest)
    else first :: collapseRuns (second :: rest)
  | segments => segments

/-- The segments of a pattern in normal form.  A leading separator only anchors the
pattern, a lone segment gets leading directories, and an empty last segment stands for
what is in a directory. -/
def normalSegments (text : List Char) : List (List Char) :=
  let segments :=
    match Text.splitOn '/' text with
    | [] :: rest => rest
    | [only] => if only = anyDirectories then [only] else [anyDirectories, only]
    | [only, []] => if only = anyDirectories then [only, []]
        else [anyDirectories, only, []]
    | several => several
  collapseRuns <|
    if segments.getLast? = some [] then segments.dropLast ++ [anyDirectories]
    else segments

/-- The pieces of a segment that stands for a name. -/
def namePieces (segment : List Char) : Except Defect (List Piece) :=
  if segment = ['*'] then .ok [.fullNameRun] else globPieces segment

/-- The pieces of the segments behind the leading directories; `separated` says whether
a separator is due in front of a name. -/
def segmentPieces (directory separated : Bool) :
    List (List Char) → Except Defect (List Piece)
  | [] => .ok []
  | segment :: rest => do
    let lead := if separated then [Piece.separator false] else []
    if segment = anyDirectories then
      if rest.isEmpty then return [.separator directory]
      let others ← segmentPieces directory true rest
      return .innerDirectories :: others
    else
      let name ← namePieces segment
      if rest.isEmpty then return lead ++ name ++ [.finish]
      let others ← segmentPieces directory true rest
      return lead ++ name ++ others

/-- The rule of segments in normal form. -/
def ruleOf (directory : Bool) (segments : List (List Char)) : Except Defect Rule :=
  if segments = [anyDirectories] then
    .ok (if directory then .anySeparator true else .anyCharacter)
  else if segments = [anyDirectories, ['*']] then
    .ok .anyCharacter
  else if segments = [anyDirectories, ['*'], anyDirectories] then
    .ok (.anySeparator directory)
  else
    match segments with
    | first :: rest =>
      if first = anyDirectories then
        (segmentPieces directory false rest).map fun others =>
          .pieces (.leadingDirectories :: others)
      else
        (segmentPieces directory false segments).map .pieces
    | [] => .ok (.pieces [])

/-- The first range with its ends the wrong way round in pieces that are
written from `offset` on. -/
def reversedRange? (offset : Nat) : List Piece → Option ClassRange
  | [] => none
  | piece :: rest =>
    let here :=
      match piece with
      | .oneOf negated content =>
        let start := offset + (if negated then 2 else 1)
        (ClassRange.ofContent start content).find? (·.isReversed)
      | _ => none
    here <|> reversedRange? (offset + piece.written.length) rest

/-- Refuse a rule with a reversed range. -/
def checkRule : Rule → Except Failure Rule
  | .pieces pieces =>
    let written := '^' :: pieces.flatMap (·.written)
    match reversedRange? 1 pieces with
    | some range => .error (.reversedRange range.low range.high written range.offset)
    | none => .ok (.pieces pieces)
  | rule => .ok rule

/-- A pattern without the blanks behind it; a blank that is escaped stays. -/
def trimmed (text : List Char) : List Char :=
  if ['\\', ' '].isSuffixOf text then text else Text.trimEnd text

/-- Read a pattern.  Comments, patterns without content, and patterns with an open
bracket are about nothing. -/
def ofString? (text : String) : Except Failure (Option Pattern) :=
  let content := trimmed text.toList
  if content.isEmpty ∨ content.head? = some '#' ∨ content = ['/'] then
    .ok none
  else
    let excludes := content.head? ≠ some '!'
    let body := if excludes then content else content.drop 1
    let segments := normalSegments body
    if segments.isEmpty then
      .error (.invalid text)
    else
      match ruleOf (body.getLast? = some '/' || body.isEmpty) segments with
      | .error .danglingEscape => .error (.invalid text)
      | .error .openClass => .ok none
      | .ok rule => (checkRule rule).map fun rule => some ⟨excludes, rule⟩

/-- Whether a rule matches a text, and if so, whether through a marked separator. -/
def Rule.find? (text : List Char) : Rule → Option Bool
  | anyCharacter => if text.any inLine then some false else none
  | anySeparator marked => if text.any isSeparator then some marked else none
  | pieces sequence => matchPieces sequence text

end Pattern
end KernelInventory
