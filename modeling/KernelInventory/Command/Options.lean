import KernelInventory.Command.Argument
import KernelInventory.Log

/-!
# Reading the command line

The switches are carried out in order: each changes the options, except that
asking for help ends the reading at once.  Words that are no values, and unknown
switches, are refused at the end.

The argument that ends the switches, `--`, is never a value.  Where it is written as
one, together with its switch, the switch is carried out without a value.

All this follows release 3.11 of the argument parser.  Later ones take `--`
behind an equals sign as a value, and give help at once if its short switch is
one of several in an argument.
-/

namespace KernelInventory
namespace Command

/-- What a run is to do.  What is set without a value is `none`. -/
structure Options where
  kernelPath : Option String := some "/opt/linux-6.9.5"
  arch : Option String := some "riscv"
  lines : Bool := false
  kconfig : Bool := false
  kconfigCode : Bool := false
  includeAll : Bool := false
  skipHelp : Bool := false
  exclude : List (Option String) := []
  noQuery : Bool := false
  logLevel : Option LogLevel := some .warning
deriving Repr, DecidableEq

/-- Why a command line gives no options. -/
inductive Ending
  /-- Help is asked for. -/
  | help
  | refused (refusal : Refusal)
deriving Repr, DecidableEq

namespace Options

/-- Carry out a switch without a value. -/
def give (options : Options) : Switch → Except Ending Options
  | .help => .error .help
  | .lines => .ok { options with lines := true }
  | .kconfig => .ok { options with kconfig := true }
  | .kconfigCode => .ok { options with kconfigCode := true }
  | .all => .ok { options with includeAll := true }
  | .skipHelp => .ok { options with skipHelp := true }
  | .noQuery => .ok { options with noQuery := true }
  | _ => .ok options

/-- Set what a switch is about. -/
def set (options : Options) (switch : Switch) (value : Option String) :
    Except Ending Options :=
  match switch with
  | .kernelPath => .ok { options with kernelPath := value }
  | .arch => .ok { options with arch := value }
  | .exclude => .ok { options with exclude := options.exclude ++ [value] }
  | .logLevel =>
    match value with
    | none => .ok { options with logLevel := none }
    | some name =>
      match LogLevel.ofName? name with
      | some level => .ok { options with logLevel := some level }
      | none =>
        .error (.refused (.invalidChoice switch name (LogLevel.all.map LogLevel.name)))
  | _ => .ok options

/-- A switch to be carried out. -/
inductive Action
  /-- A switch by itself. -/
  | give (switch : Switch)
  /-- A switch with its value. -/
  | set (switch : Switch) (value : String)
deriving Repr, DecidableEq

/-- Carry out an action.  In release 3.11 of the argument parser
`--arch=--` sets no value. -/
def act (options : Options) : Action → Except Ending Options
  | .give switch => options.give switch
  | .set switch value => options.set switch (if value = "--" then none else some value)

/-- What an argument with a switch asks for. -/
structure Demand where
  /-- The actions, in order. -/
  actions : List Action
  /-- A switch that is still due a value. -/
  due : Option Switch
deriving Repr, DecidableEq

namespace Demand

/-- A switch by itself: one that takes a value is due one. -/
def alone (switch : Switch) : Demand :=
  if switch.takesValue then ⟨[], some switch⟩ else ⟨[.give switch], none⟩

/-- A demand after the action of a switch without a value. -/
def after (switch : Switch) (demand : Demand) : Demand :=
  { demand with actions := .give switch :: demand.actions }

/-- A short switch with text behind it: its value, or the letters of more short
switches.  In release 3.11 of the argument parser `-hx` is refused, since no
short switch is `-x`. -/
def behind (switch : Switch) : List Char → Except Refusal Demand
  | [] => .ok (alone switch)
  | c :: rest =>
    let text := String.ofList (c :: rest)
    if switch.takesValue then .ok ⟨[.set switch text], none⟩
    else
      match Switch.ofSpelling? (String.ofList ['-', c]) with
      | some next => (behind next rest).map (after switch)
      | none => .error (.valueIgnored switch text)

/-- What a switch with an attached value asks for. -/
def ofSwitch (switch : Switch) : Attached → Except Refusal Demand
  | .nothing => .ok (alone switch)
  | .short text =>
    if switch.takesValue then .ok ⟨[.set switch text], none⟩
    else if text.isEmpty then .error (.valueIgnored switch text)
    else behind switch text.toList
  | .long text =>
    if switch.takesValue then .ok ⟨[.set switch text], none⟩
    else .error (.valueIgnored switch text)

end Demand

/-- Carry out classified arguments, when the arguments in `extras` have been left
over. -/
def readFrom (options : Options) (extras : List String) :
    List Argument → Except Ending Options
  | [] => if extras.isEmpty then .ok options
      else .error (.refused (.unrecognized extras))
  | .word text :: rest => readFrom options (extras ++ [text]) rest
  | .terminator :: rest => readFrom options (extras ++ ["--"]) rest
  | .unknown text :: rest => readFrom options (extras ++ [text]) rest
  | .switch switch attached :: rest =>
    match Demand.ofSwitch switch attached with
    | .error refusal => .error (.refused refusal)
    | .ok ⟨actions, none⟩ => do
      let changed ← actions.foldlM act options
      readFrom changed extras rest
    | .ok ⟨actions, some last⟩ =>
      match rest with
      | .word text :: others => do
        let changed ← (actions ++ [Action.set last text]).foldlM act options
        readFrom changed extras others
      | _ => .error (.refused (.valueExpected last))

/-- Read a command line. -/
def ofArguments (arguments : List String) : Except Ending Options :=
  match Argument.classifyAll arguments with
  | .error refusal => .error (.refused refusal)
  | .ok classified => readFrom {} [] classified

end Options
end Command
end KernelInventory
