import KernelInventory.Command.Switch
import KernelInventory.Text.Digit
import KernelInventory.Text.Quoted
import KernelInventory.Text.Search

/-!
# Arguments

An argument is a switch if it is spelled like one: a long switch may be cut short as
long as no other begins the same way, and a value may follow an equals sign, or stand
right behind a short switch.  Other arguments that begin with a hyphen are unknown
switches, unless they look like negative numbers or hold a space.  Behind the argument
`--` everything is a word.
-/

namespace KernelInventory
namespace Command

/-- A value that is written in one argument with its switch. -/
inductive Attached
  | nothing
  /-- Text behind a short switch, or behind the equals sign that follows it. -/
  | short (text : String)
  /-- Text behind the equals sign that follows a long switch. -/
  | long (text : String)
deriving Repr, DecidableEq

/-- What an argument is. -/
inductive Argument
  /-- A word, which may be the value of the switch in front of it. -/
  | word (text : String)
  /-- The end of the switches. -/
  | terminator
  /-- A switch, and the value written with it. -/
  | switch (switch : Switch) (attached : Attached)
  /-- Something like a switch. -/
  | unknown (text : String)
deriving Repr, DecidableEq

/-- Why the arguments are refused. -/
inductive Refusal
  | ambiguous (argument : String) (candidates : List String)
  | valueExpected (switch : Switch)
  | valueIgnored (switch : Switch) (value : String)
  | invalidChoice (switch : Switch) (value : String) (choices : List String)
  | unrecognized (arguments : List String)
deriving Repr, DecidableEq

namespace Refusal

/-- The wording of a refusal. -/
def message : Refusal → String
  | ambiguous argument candidates =>
    let listed := ", ".intercalate candidates
    s!"ambiguous option: {argument} could match {listed}"
  | valueExpected switch => s!"argument {switch.display}: expected one argument"
  | valueIgnored switch value =>
    s!"argument {switch.display}: ignored explicit argument {Text.quoted value}"
  | invalidChoice switch value choices =>
    let listed := ", ".intercalate (choices.map Text.quoted)
    s!"argument {switch.display}: invalid choice: {Text.quoted value} (choose from {listed})"
  | unrecognized arguments =>
    let listed := " ".intercalate arguments
    s!"unrecognized arguments: {listed}"

end Refusal

namespace Argument

/-- Split at the first equals sign: what is in front of it, and what is attached by
it. -/
def splitValue (argument : String) : String × Attached :=
  match Text.splitAt? ['='] argument.toList with
  | some (before, after) =>
    let value := String.ofList after
    (String.ofList before, if argument.startsWith "--" then .long value
    else .short value)
  | none => (argument, .nothing)

/-- Whether an argument looks like a negative number: a hyphen, digits, and perhaps a
point with more digits behind it. -/
def isNegativeNumber (argument : String) : Bool :=
  match argument.toList with
  | '-' :: rest =>
    let body := if rest.getLast? = some '\n' then rest.dropLast else rest
    match body.dropWhile Text.isDigit with
    | [] => !body.isEmpty
    | '.' :: decimals => !decimals.isEmpty && decimals.all Text.isDigit
    | _ => false
  | _ => false

/-- The switches that an argument may be meant for, with their spellings: a long one
that begins like it, or the short one that it begins with. -/
def completions (argument : String) : List (String × Argument) :=
  if argument.startsWith "--" then
    let (lead, attached) := splitValue argument
    Switch.spelled.filterMap fun (spelling, found) =>
      if spelling.startsWith lead then some (spelling, .switch found attached) else none
  else
    let short := String.ofList (argument.toList.take 2)
    let behind := String.ofList (argument.toList.drop 2)
    Switch.spelled.filterMap fun (spelling, found) =>
      if spelling = short then some (spelling, .switch found (.short behind)) else none

/-- The switch that an argument spells in full, alone or in front of an equals sign. -/
def spelledOut? (argument : String) : Option Argument :=
  match Switch.ofSpelling? argument with
  | some found => some (.switch found .nothing)
  | none =>
    match splitValue argument with
    | (_, .nothing) => none
    | (lead, attached) => (Switch.ofSpelling? lead).map (.switch · attached)

/-- What one argument is. -/
def classify (argument : String) : Except Refusal Argument :=
  if argument = "" ∨ argument = "-" ∨ !argument.startsWith "-" then .ok (.word argument)
  else
    match spelledOut? argument with
    | some found => .ok found
    | none =>
      match completions argument with
      | [(_, found)] => .ok found
      | [] =>
        if isNegativeNumber argument ∨
          argument.toList.contains ' ' then .ok (.word argument)
        else .ok (.unknown argument)
      | several => .error (.ambiguous argument (several.map (·.1)))

/-- What the arguments are. -/
def classifyAll : List String → Except Refusal (List Argument)
  | [] => .ok []
  | argument :: rest =>
    if argument = "--" then .ok (.terminator :: rest.map .word)
    else do
      let first ← classify argument
      let others ← classifyAll rest
      return first :: others

end Argument
end Command
end KernelInventory
