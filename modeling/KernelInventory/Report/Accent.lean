import KernelInventory.Report.Styled
import KernelInventory.Text.Digit
import KernelInventory.Text.Shape
import KernelInventory.Text.WordChar

/-!
# Accents

Titles are shown with accents: numbers, brackets, addresses, paths, texts in quotes and
other parts that look like notation have styles of their own.
-/

namespace KernelInventory
namespace Report
namespace Accent

open Text (Shape isHexadecimal isWordChar)

/-! ## Characters -/

/-- One given character. -/
def sign (c : Char) : Shape := .one (· == c)

/-- Whether a character is one of those of a text. -/
def isIn (signs : String) (c : Char) : Bool := signs.toList.contains c

/-- Whether a character may be part of a name in a path. -/
def isPathChar (c : Char) : Bool := isWordChar c || isIn "-._+" c

/-! ## Edges -/

/-- The beginning of something that stands behind no word. -/
def offWord : Shape := .edge fun before _ => !before.any isWordChar

/-- An edge of a word. -/
def wordEdge : Shape := .edge fun before after =>
    before.any isWordChar != after.any isWordChar

/-- A place that is no edge of a word. -/
def noWordEdge : Shape := .edge fun before after =>
    before.any isWordChar == after.any isWordChar

/-- A place that is not behind a backslash. -/
def unescaped : Shape := .edge fun before _ => before != some '\\'

/-! ## Words, tags and settings -/

/-- A tag between angles. -/
def tag : Shape :=
  .all [.marked (sign '<'), .marked (.run fun c => isWordChar c || isIn "-.:|" c),
    .marked (.run fun _ => true), .marked (sign '>')]

/-- A name with a value behind an equals sign. -/
def setting : Shape :=
  .all [.marked (.runOf 1 49 isWordChar), sign '=',
    .optional (.marked
      (.all [.optional (sign '"'), .fullRun isWordChar, .optional (sign '"')]))]

/-- A bracket. -/
def bracket : Shape := .marked (.one (isIn "[]\x7b\x7d()"))

/-- A name in front of a parenthesis. -/
def call : Shape :=
  .both (.marked (.run fun c => isWordChar c || c == '.')) (sign '(')

/-- A given word. -/
def word (text : String) : Shape := .all [wordEdge, .marked (.ofString text), wordEdge]

/-! ## Addresses -/

/-- Groups of digits with signs behind all but the last. -/
def groups (count : Nat) (digits separator : Shape) : Shape :=
  .both (.repeated count (some 0) (.both digits separator)) digits

/-- Four decimal numbers with points between them. -/
def fourNumbers : Shape := groups 3 (.runOf 1 2 Char.isDigit) (sign '.')

/-- Up to eight hexadecimal numbers with colons between them. -/
def eightNumbers : Shape :=
  let digits := Shape.runOf 1 3 isHexadecimal
  .both (.repeated 1 (some 6) (.all [digits, sign ':', .optional (sign ':')])) digits

/-- An address of so many bytes. -/
def byteAddress (bytes : Nat) : Shape :=
  let byte := Shape.runOf 1 1 isHexadecimal
  .any (groups (bytes - 1) byte (sign '-'))
    [groups (bytes - 1) byte (sign ':'),
      groups (bytes / 2 - 1) (.runOf 4 0 isHexadecimal) (sign '.')]

/-- An identifier of 32 hexadecimal digits. -/
def identifier : Shape :=
  let quad := Shape.both (.runOf 4 0 isHexadecimal) (sign '-')
  .all [.runOf 8 0 isHexadecimal, sign '-', quad, quad, quad, .runOf 12 0 isHexadecimal]

/-- An address of something on a network. -/
def link : Shape :=
  .all [.any (.ofString "file") (["https", "http", "ws", "wss"].map Shape.ofString),
    .ofString "://",
    .run fun c => (c.isAlphanum || isIn "-$_+!`(),.?/;:&=%#~@" c)]

/-! ## Numbers -/

/-- A number without a sign. -/
def unsigned : Shape :=
  let exponent :=
    Shape.all [sign 'e', .optional (.one (isIn "-+")), .fullRun Text.isDigit]
  .all [.fullRun Char.isDigit, .optional (sign '.'), .run Char.isDigit,
    .optional exponent]

/-- A number with a sign, if it has one. -/
def signed : Shape := .all [offWord, .optional (sign '-'), unsigned]

/-- A number with an imaginary part. -/
def imaginary : Shape :=
  .all [signed, .optional (.both (.one (isIn "-+")) unsigned), sign 'j']

/-- A number. -/
def number : Shape :=
  .any (.both signed wordEdge) [.both (.ofString "0x") (.run isHexadecimal)]

/-! ## Paths and quotations -/

/-- A path with the name at its end. -/
def path : Shape :=
  .both
    (.marked
      (.all [noWordEdge, .repeated 0 none (.both (sign '/') (.fullRun isPathChar)),
        sign '/']))
    (.optional (.marked (.run isPathChar)))

/-- A text between quotes, which may stand behind the letter of bytes. -/
def quotation (quotes : String) : Shape :=
  .all [.optional (sign 'b'), .ofString quotes, .shortest (.one (· != '\n')), unescaped,
    .ofString quotes]

/-- A text between quotes of any kind. -/
def quoted : Shape :=
  .all [.edge fun before _ => !before.any fun c => isWordChar c || c == '\\',
    .marked (.any (quotation "'''") (["'", "\"\"\"", "\""].map quotation))]

/-! ## Titles -/

/-- What is accented besides tags, settings and brackets. -/
def phrase : Shape :=
  .any (.marked fourNumbers)
    [.marked eightNumbers, .marked (byteAddress 8), .marked (byteAddress 6),
      .marked identifier, call, word "True", word "False", word "None",
      .marked (.ofString "..."), .marked imaginary, .marked number, path, quoted,
      .marked link]

/-- The parts of a text that have accents. -/
def spans (text : List Char) : List Span :=
  [tag, setting, bracket, phrase].flatMap fun shape =>
    ((shape.marks text).filter fun (first, behind) => first < behind).map
      fun (first, behind) =>
      ⟨first, behind, none⟩

end Accent

/-- A styled text with accents. -/
def Styled.accented (styled : Styled) : Styled :=
  { styled with spans := Accent.spans styled.text ++ styled.spans }

end Report
end KernelInventory
