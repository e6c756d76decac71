import KernelInventory.Path

/-!
# Types of source files

A file is classified by its name, and otherwise by its suffix.
-/

namespace KernelInventory

/-- The categories of files in a line report. -/
inductive FileType
  | c
  | header
  | makefile
  | kconfig
  | rust
  | assembly
  | python
  | other
deriving Repr, DecidableEq

namespace FileType

/-- The label of a category in reports. -/
def label : FileType → String
  | c => "C"
  | header => "C/C++ Header"
  | makefile => "Makefile"
  | kconfig => "Kconfig"
  | rust => "Rust"
  | assembly => "Assembly"
  | python => "Python"
  | other => "Other"

/-- The suffixes of the categories. -/
def suffixes : List (String × FileType) :=
  [(".c", c), (".cpp", c), (".cc", c), (".h", header), (".hpp", header), (".rs", rust),
    (".S", assembly), (".s", assembly), (".asm", assembly), (".py", python)]

/-- The category of a file. -/
def ofPath (path : Path) : FileType :=
  if path.name = "Makefile" then makefile
  else if path.name = "Kconfig" then kconfig
  else (suffixes.lookup path.suffix).getD other

end FileType
end KernelInventory
