/-!
# Pieces of a pattern

A pattern is read as a sequence of pieces, each of which matches some beginnings of a
text.  A piece that can match in several ways offers them in an order of preference, and
the whole sequence takes the first combination that succeeds.  What matters about a
match is only whether it went through a marked separator.

Each piece also has a written form, in the notation of regular expressions, because the
position of a defect is reported in that form.
-/

namespace KernelInventory
namespace Pattern

/-- A range of a character class, with the place where it is written; a single
character is a range of one. -/
structure ClassRange where
  offset : Nat
  low : Char
  high : Char
deriving Repr, DecidableEq

namespace ClassRange

/-- The characters of a class member as written: a backslash is doubled. -/
def written (c : Char) : List Char :=
  if c = '\\' then ['\\', '\\'] else [c]

/-- The ranges of the content of a class, written from `offset` on.  A hyphen at either
end is an ordinary character. -/
def ofContent (offset : Nat) : List Char → List ClassRange
  | [] => []
  | low :: '-' :: high :: rest =>
    ⟨offset, low, high⟩ ::
      ofContent (offset + (written low).length + 1 + (written high).length) rest
  | c :: rest => ⟨offset, c, c⟩ :: ofContent (offset + (written c).length) rest

/-- Whether a character lies in the range. -/
def holds (range : ClassRange) (c : Char) : Bool :=
  range.low ≤ c && c ≤ range.high

/-- Whether the ends of the range are the wrong way round. -/
def isReversed (range : ClassRange) : Bool :=
  range.high < range.low

end ClassRange

/-- One piece of a pattern. -/
inductive Piece
  /-- One given character. -/
  | literal (character : Char)
  /-- One character of a name, that is any character but the separator. -/
  | nameCharacter
  /-- Any run of characters of a name, the longest preferred. -/
  | nameRun
  /-- Any run of characters of a name that is not empty, the longest preferred. -/
  | fullNameRun
  /-- One character that is, or is not, in a class. -/
  | oneOf (negated : Bool) (content : List Char)
  /-- Any number of leading directories, with the separator behind them. -/
  | leadingDirectories
  /-- Any number of directories, with the separator in front of them. -/
  | innerDirectories
  /-- A separator. -/
  | separator (marked : Bool)
  /-- A marked separator, or else the end of the text. -/
  | finish
deriving Repr, DecidableEq

/-- What is left of a text after a run of characters that satisfy `good`, for each
length of the run, the longest first. -/
def afterRuns (good : Char → Bool) : List Char → List (List Char)
  | [] => [[]]
  | c :: rest => if good c then afterRuns good rest ++ [c :: rest] else [c :: rest]

/-- As `afterRuns`, for runs that are not empty. -/
def afterFullRuns (good : Char → Bool) : List Char → List (List Char)
  | [] => []
  | c :: rest => if good c then afterRuns good rest else []

/-- Whether a character separates names. -/
def isSeparator (c : Char) : Bool := c == '/'

/-- Whether a character may stand in the run that skips directories. -/
def inLine (c : Char) : Bool := c != '\n'

/-- What is left after one character that satisfies `good`. -/
def afterOne (good : Char → Bool) : List Char → List (List Char)
  | [] => []
  | c :: rest => if good c then [rest] else []

namespace Piece

/-- What each way of matching the piece leaves of the text, in order of preference, and
whether it goes through a marked separator. -/
def ways (text : List Char) : Piece → List (Bool × List Char)
  | literal character => unmarked (afterOne (· == character) text)
  | nameCharacter => unmarked (afterOne (!isSeparator ·) text)
  | nameRun => unmarked (afterRuns (!isSeparator ·) text)
  | fullNameRun => unmarked (afterFullRuns (!isSeparator ·) text)
  | oneOf negated content =>
    unmarked (afterOne
      (fun c => negated != (ClassRange.ofContent 0 content).any (·.holds c)) text)
  | leadingDirectories =>
    unmarked ((afterFullRuns inLine text).flatMap (afterOne isSeparator) ++ [text])
  | innerDirectories =>
    unmarked ((afterOne isSeparator text).flatMap (afterFullRuns inLine) ++ [text])
  | separator marked => (afterOne isSeparator text).map (marked, ·)
  | finish =>
    (afterOne isSeparator text).map (true, ·) ++
      (if text = [] ∨ text = ['\n'] then [(false, text)] else [])
where
  /-- Ways that go through no marked separator. -/
  unmarked (rests : List (List Char)) : List (Bool × List Char) := rests.map (false, ·)

/-- The characters that a literal escapes in its written form. -/
def isSpecial (c : Char) : Bool :=
  "()[]\x7b\x7d?*+-|^$\\.&~# \t\n\r\x0b\x0c".toList.contains c

/-- The written form of a piece. -/
def written : Piece → List Char
  | literal character => if isSpecial character then ['\\', character] else [character]
  | nameCharacter => "[^/]".toList
  | nameRun => "[^/]*".toList
  | fullNameRun => "[^/]+".toList
  | oneOf negated content =>
    '[' :: (if negated then ['^'] else []) ++ content.flatMap
      ClassRange.written ++ [']']
  | leadingDirectories => "(?:.+/)?".toList
  | innerDirectories => "(?:/.+)?".toList
  | separator _ => ['/']
  | finish => "(?:/|$)".toList

end Piece

/-- Match a sequence of pieces against the beginning of a text: the first combination
that succeeds tells whether it goes through a marked separator. -/
def matchPieces : List Piece → List Char → Option Bool
  | [], _ => some false
  | piece :: others, text =>
    (piece.ways text).findSome? fun (marked, rest) =>
      (matchPieces others rest).map (marked || ·)

end Pattern
end KernelInventory
