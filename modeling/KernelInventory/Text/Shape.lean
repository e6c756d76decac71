/-!
# Shapes of parts of a text

A shape is made of characters of classes, one after the other, by choice, or repeated.
At one place of a text it may fit in several ways.  They are tried in an order of
preference, and the first one counts with which everything fits that is to come behind
the shape.  A shape may be marked, which keeps where it fits.
-/

namespace KernelInventory
namespace Text

/-- A place in a text at which something is to fit. -/
structure Place where
  /-- The character in front of the place, unless the text begins there. -/
  before : Option Char
  /-- The number of characters in front of the place. -/
  position : Nat
  /-- The text behind the place. -/
  rest : List Char
  /-- The beginnings and the ends of the marked parts so far, the last one first. -/
  marks : List (Nat × Nat)
deriving Repr, DecidableEq

/-- A way to go on from a place, which says where the whole ends if what
is to come fits, too. -/
abbrev Step := Place → (Place → Option Place) → Option Place

namespace Step

/-- A step, so many times. -/
def exactly (step : Step) : Nat → Step
  | 0, place, goOn => goOn place
  | count + 1, place, goOn => step place fun next => step.exactly count next goOn

/-- A step at most so many times, and as often as possible. -/
def atMost (step : Step) : Nat → Step
  | 0, place, goOn => goOn place
  | count + 1, place, goOn =>
      (step place fun next => step.atMost count next goOn) <|> goOn place

/-- A step at most so many times, but as seldom as possible. -/
def asNeeded (step : Step) : Nat → Step
  | 0, place, goOn => goOn place
  | count + 1, place, goOn => goOn place <|> step place fun next =>
      step.asNeeded count next goOn

end Step

/-- The shape of a part of a text. -/
inductive Shape
  /-- One character of a class. -/
  | one (holds : Char → Bool)
  /-- Nothing, between two characters as they should be; one is missing
  at an end of the text. -/
  | edge (holds : Option Char → Option Char → Bool)
  | both (first second : Shape)
  | either (first second : Shape)
  /-- A shape at least so many times, and some or any number of times
  more, the longest first. -/
  | repeated (least : Nat) (more : Option Nat) (shape : Shape)
  /-- A shape any number of times, the shortest first. -/
  | shortest (shape : Shape)
  | marked (shape : Shape)

namespace Shape

/-- Nothing at all. -/
def nothing : Shape := edge fun _ _ => true

/-- Shapes one after the other. -/
def all (shapes : List Shape) : Shape := shapes.foldr both nothing

/-- Shapes by choice, the first one preferred. -/
def any (first : Shape) : List Shape → Shape
  | [] => first
  | second :: others => either first (any second others)

/-- A given text. -/
def ofString (text : String) : Shape := all (text.toList.map fun c => one (· == c))

/-- A shape that may be missing. -/
def optional (shape : Shape) : Shape := repeated 0 (some 1) shape

/-- Any number of characters of a class. -/
def run (holds : Char → Bool) : Shape := repeated 0 none (one holds)

/-- One character of a class or more. -/
def fullRun (holds : Char → Bool) : Shape := repeated 1 none (one holds)

/-- The number of characters of a class from `least` on, `more` of which may be
missing. -/
def runOf (least more : Nat) (holds : Char → Bool) : Shape :=
    repeated least (some more) (one holds)

/-- The step that a shape allows.  What is repeated without a limit takes a character
each time, so that the length of the text is limit enough. -/
def step : Shape → Step
  | one holds, place, goOn =>
    match place.rest with
    | c :: rest =>
      if holds c then goOn ⟨some c, place.position + 1, rest, place.marks⟩ else none
    | [] => none
  | edge holds, place, goOn =>
      if holds place.before place.rest.head? then goOn place else none
  | both first second, place, goOn => first.step place fun next => second.step next goOn
  | either first second, place, goOn => first.step place goOn <|> second.step place goOn
  | repeated least more shape, place, goOn =>
    shape.step.exactly least place fun next =>
      shape.step.atMost (more.getD next.rest.length) next goOn
  | shortest shape, place, goOn => shape.step.asNeeded place.rest.length place goOn
  | marked shape, place, goOn =>
    shape.step place fun next =>
      goOn { next with marks := (place.position, next.position) :: next.marks }

/-- The marked parts of all fits of a shape in a text behind a place, from left to
right, when some characters belong to the fit in front of them. -/
def marksFrom (shape : Shape) (taken : Nat) (before : Option Char) (position : Nat) :
    List Char → List (Nat × Nat)
  | [] => []
  | c :: rest =>
    match taken with
    | left + 1 => shape.marksFrom left (some c) (position + 1) rest
    | 0 =>
      match shape.step ⟨before, position, c :: rest, []⟩ some with
      | some behind =>
        behind.marks ++
          shape.marksFrom (behind.position - (position + 1)) (some c)
            (position + 1) rest
      | none => shape.marksFrom 0 (some c) (position + 1) rest

/-- The marked parts of all fits of a shape in a text.  A fit begins behind the one
before it, as early as possible. -/
def marks (shape : Shape) (text : List Char) : List (Nat × Nat) :=
  shape.marksFrom 0 none 0 text

end Shape
end Text
end KernelInventory
