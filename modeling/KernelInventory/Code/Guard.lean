import KernelInventory.Text.Blank
import KernelInventory.Text.Lines

/-!
# Guarded blocks of code

A guard is a line with `#ifdef` and the macro of a component, and it extends to the line
with `#endif` that brings the nesting of guards back to where it was.  Scanning a source
file delivers the outermost guarded blocks of known components, and the one that is left
open at the end of the file.
-/

namespace KernelInventory
namespace Guard

/-- What a line of source code means for the nesting. -/
inductive LineClass
  /-- The line opens the guard of a component. -/
  | opens (name : String)
  /-- The line closes a guard. -/
  | closes
  | plain
deriving Repr, DecidableEq

/-- The characters of a macro name. -/
def isNameCharacter (c : Char) : Bool :=
  c.isAlphanum || c == '_'

/-- The component whose guard stands right at the beginning of a text. -/
def nameAt? (text : List Char) : Option String :=
  let word := "#ifdef".toList
  let macroLead := "CONFIG_".toList
  if word.isPrefixOf text then
    let behind := text.drop word.length
    let macroText := Text.trimStart behind
    if macroText.length < behind.length ∧ macroLead.isPrefixOf macroText then
      let name := (macroText.drop macroLead.length).takeWhile isNameCharacter
      if name.isEmpty then none else some (String.ofList name)
    else none
  else none

/-- The component of the leftmost guard in a line. -/
def openedName? : List Char → Option String
  | [] => none
  | c :: rest => nameAt? (c :: rest) <|> openedName? rest

/-- The class of a line; a guard counts before an end. -/
def classify (line : List Char) : LineClass :=
  match openedName? line with
  | some name => .opens name
  | none => if Text.contains line "#endif".toList then .closes else .plain

/-- A block of code and the component that guards it. -/
structure Block where
  owner : String
  lines : List (List Char)
deriving Repr, DecidableEq

namespace Block

/-- The block with one more line. -/
def push (block : Block) (line : List Char) : Block :=
  { block with lines := block.lines ++ [line] }

/-- The text of a block. -/
def text (block : Block) : String :=
  String.ofList (Text.unlines block.lines)

end Block

/-- The state of a scan: how many guards are open, and the block being collected. -/
structure State where
  depth : Nat := 0
  block : Option Block := none
deriving Repr, DecidableEq

/-- Scan one line: the state after it, and the block that it finishes. -/
def step (known : String → Bool) (state : State) (line : List Char) :
    State × Option Block :=
  match classify line with
  | .opens name =>
    let block := if state.depth = 0 ∧ known name then some ⟨name, []⟩ else state.block
    (⟨state.depth + 1, block.map (·.push line)⟩, none)
  | .closes =>
    match state.depth with
    | 0 => (state, none)
    | depth + 1 =>
      let block := state.block.map (·.push line)
      if depth = 0 then (⟨0, none⟩, block) else (⟨depth, block⟩, none)
  | .plain => ({ state with block := state.block.map (·.push line) }, none)

/-- Scan lines from a state: the state at the end, and the blocks finished. -/
def scanFrom (known : String → Bool) (state : State) :
    List (List Char) → State × List Block
  | [] => (state, [])
  | line :: rest =>
    let (next, finished) := step known state line
    let (last, others) := scanFrom known next rest
    (last, finished.toList ++ others)

/-- What the scan of a source file delivers. -/
structure Scan where
  blocks : List Block
  /-- The component of the block that is never closed, and the number of guards left
  open. -/
  unterminated : Option (String × Nat)
deriving Repr, DecidableEq

/-- Scan the lines of a source file. -/
def scan (known : String → Bool) (lines : List (List Char)) : Scan :=
  let (last, blocks) := scanFrom known {} lines
  ⟨blocks, last.block.map fun block => (block.owner, last.depth)⟩

end Guard
end KernelInventory
