import KernelInventory.Report.Colour

/-!
# Styles

A style is defined by words: emphases, which may be negated, a colour, a background
behind the word `on`, and a target behind the word `link`.  Of two words about the same
thing the later one counts. Definitions with the same effect have the same normal form.
-/

namespace KernelInventory
namespace Report

/-- What a style may do to letters. -/
inductive Emphasis
  | bold
  | dim
  | italic
  | underline
  | blink
  | rapidBlink
  | reverse
  | conceal
  | strike
  | doubleUnderline
  | frame
  | encircle
  | overline
deriving Repr, DecidableEq

namespace Emphasis

/-- All emphases, in the order in which a normal form lists them. -/
def listed : List Emphasis :=
  [bold, dim, italic, underline, blink, rapidBlink, reverse, conceal, strike,
    doubleUnderline, frame, encircle, overline]

/-- The words for an emphasis, the full one first. -/
def words : Emphasis → List String
  | bold => ["bold", "b"]
  | dim => ["dim", "d"]
  | italic => ["italic", "i"]
  | underline => ["underline", "u"]
  | blink => ["blink"]
  | rapidBlink => ["blink2"]
  | reverse => ["reverse", "r"]
  | conceal => ["conceal", "c"]
  | strike => ["strike", "s"]
  | doubleUnderline => ["underline2", "uu"]
  | frame => ["frame"]
  | encircle => ["encircle"]
  | overline => ["overline", "o"]

/-- The full word for an emphasis. -/
def name (emphasis : Emphasis) : String :=
  emphasis.words.headD ""

/-- The emphasis that a word stands for. -/
def ofWord? (word : String) : Option Emphasis :=
  listed.find? (word ∈ ·.words)

end Emphasis

/-- What a definition of a style says. -/
structure Style where
  /-- The emphases that are switched on or off, the last one said first. -/
  emphases : List (Emphasis × Bool) := []
  colour : Option String := none
  background : Option String := none
  link : Option String := none
deriving Repr, DecidableEq

namespace Style

/-- A style after a word about an emphasis. -/
def put (style : Style) (emphasis : Emphasis) (wanted : Bool) : Style :=
  { style with emphases := (emphasis, wanted) :: style.emphases }

/-- The words of the normal form of a style. -/
def words (style : Style) : List String :=
  Emphasis.listed.flatMap (fun emphasis =>
      match style.emphases.lookup emphasis with
      | some true => [emphasis.name]
      | some false => ["not", emphasis.name]
      | none => []) ++
    style.colour.toList ++
    (style.background.map fun colour => ["on", colour]).getD [] ++
    (style.link.map fun target => ["link", target]).getD []

/-- The normal form of a style. -/
def normalForm (style : Style) : String :=
  if style.words.isEmpty then "none" else " ".intercalate style.words

/-- A style after the words of a definition, if they define one. -/
def readWords (style : Style) (words : List (List Char)) :
    Except Colour.Fault (Option Style) :=
  match words with
  | [] => .ok (some style)
  | word :: rest =>
    let plain := String.ofList (Text.lower word)
    if plain = "on" then
      match rest with
      | [] => .ok none
      | colour :: others => do
        match ← Colour.read colour with
        | some name => readWords { style with background := some name } others
        | none => return none
    else if plain = "not" then
      match rest with
      | [] => .ok none
      | unwanted :: others =>
        match Emphasis.ofWord? (String.ofList unwanted) with
        | some emphasis => readWords (style.put emphasis false) others
        | none => .ok none
    else if plain = "link" then
      match rest with
      | [] => .ok none
      | target :: others =>
          readWords { style with link := some (String.ofList target) } others
    else
      match Emphasis.ofWord? plain with
      | some emphasis => readWords (style.put emphasis true) rest
      | none => do
        match ← Colour.read word with
        | some name => readWords { style with colour := some name } rest
        | none => return none

/-- The style that a definition defines, if it defines one. -/
def ofDefinition (definition : List Char) : Except Colour.Fault (Option Style) :=
  if Text.trim definition = "none".toList then .ok (some {})
  else readWords {} (Text.words definition)

/-- The normal form of a definition.  A text that defines no style is only trimmed and
put into small letters. -/
def normalize (definition : List Char) : Except Colour.Fault String := do
  match ← ofDefinition definition with
  | some style => return style.normalForm
  | none => return String.ofList (Text.lower (Text.trim definition))

end Style
end Report
end KernelInventory
