/-!
# Switches of the command

A switch has one or two spellings, and either takes a value or is simply given.
-/

namespace KernelInventory
namespace Command

/-- The switches of the command. -/
inductive Switch
  | help
  | kernelPath
  | arch
  | lines
  | kconfig
  | kconfigCode
  | all
  | skipHelp
  | exclude
  | noQuery
  | logLevel
deriving Repr, DecidableEq

namespace Switch

/-- The spellings of a switch. -/
def spellings : Switch → List String
  | help => ["-h", "--help"]
  | kernelPath => ["--kernel-path", "-k"]
  | arch => ["--arch", "-a"]
  | lines => ["--lines"]
  | kconfig => ["--kconfig"]
  | kconfigCode => ["--kconfig-code"]
  | all => ["--all"]
  | skipHelp => ["--skip-help"]
  | exclude => ["--exclude"]
  | noQuery => ["--no-query"]
  | logLevel => ["--log-level"]

/-- Whether a switch takes a value. -/
def takesValue : Switch → Bool
  | kernelPath => true
  | arch => true
  | exclude => true
  | logLevel => true
  | _ => false

/-- All switches, in the order in which they are listed. -/
def listed : List Switch :=
  [help, kernelPath, arch, lines, kconfig, kconfigCode, all, skipHelp, exclude,
    noQuery, logLevel]

/-- All spellings, each with its switch. -/
def spelled : List (String × Switch) :=
  listed.flatMap fun switch => switch.spellings.map (·, switch)

/-- The switch with a spelling. -/
def ofSpelling? (spelling : String) : Option Switch :=
  spelled.lookup spelling

/-- How a switch is named in a complaint. -/
def display (switch : Switch) : String :=
  "/".intercalate switch.spellings

end Switch
end Command
end KernelInventory
