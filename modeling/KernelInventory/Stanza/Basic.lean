import KernelInventory.Component.Table
import KernelInventory.Field
import KernelInventory.Log
import KernelInventory.Text.Quoted

/-!
# Stanzas

A stanza is a header line `config NAME` and the attribute lines behind it.  Reading a
line changes the reader's state and has at most one effect on the component table.  A
blank line allows the next line to open a stanza with a shorter header, in which no
space need follow the word `config`.
-/

namespace KernelInventory
namespace Stanza

/-- What the reader of one file remembers from line to line. -/
structure State where
  /-- The component of the last header. -/
  current : Option String := none
  /-- Whether the last line that counts was blank. -/
  afterBlank : Bool := false
  /-- The indentation of the word that opened the help block. -/
  helpIndent : Option Nat := none
  /-- The indentation of the text in the help block. -/
  helpTextIndent : Option Nat := none
deriving Repr, DecidableEq

/-- What an attribute line says about its component. -/
inductive Attribute
  | dependsOn (expression : String)
  | boolean
  | default (value : String)
  | booleanDefault (value : String)
  | select (expression : String)
deriving Repr, DecidableEq

namespace Attribute

/-- The attribute that a line gives, if it gives one. -/
def ofLine? (line : List Char) : Option Attribute :=
  let field (keyword : String) := String.ofList (Field.after line keyword.toList)
  if "depends on".toList.isPrefixOf line then some (.dependsOn (field "depends on"))
  else if "bool".toList.isPrefixOf line then some .boolean
  else if "default".toList.isPrefixOf line then some (.default (field "default"))
  else if "def_bool".toList.isPrefixOf line then some
    (.booleanDefault (field "def_bool"))
  else if "select".toList.isPrefixOf line then some (.select (field "select"))
  else none

/-- Enter an attribute into its record.  A boolean default replaces the defaults before
it. -/
def apply (setting : Attribute) (record : Record) : Record :=
  match setting with
  | dependsOn expression => { record with depends := record.depends ++ [expression] }
  | boolean => { record with kind := .boolean }
  | default value => { record with defaults := record.defaults ++ [value] }
  | booleanDefault value => { record with kind := .boolean, defaults := [value] }
  | select expression => { record with selects := record.selects ++ [expression] }

end Attribute

/-- What a line does to the table. -/
inductive Effect
  /-- A header that names a component. -/
  | header (name : String)
  /-- A header without a name, which is reported and otherwise ignored. -/
  | namelessHeader (line : String)
  /-- An attribute of a component. -/
  | assign (owner : String) (setting : Attribute)
deriving Repr, DecidableEq

namespace Effect

/-- Carry out an effect.  The file of a header is recorded if it is known; an attribute
of a component that is not in the table is lost. -/
def apply (file : Option String) (table : Table) : Effect → Table
  | header name => (table.ensure name).modify name fun record =>
      record.addOccurrence file
  | namelessHeader _ => table
  | assign owner setting => table.modify owner setting.apply

/-- What is logged about an effect on a table. -/
def log (file : Option String) (table : Table) : Effect → List LogEntry
  | header name =>
    if table.contains name then []
    else
      let origin := file.getD "None"
      [⟨.debug, s!"New component (name={name} file={origin})"⟩]
  | namelessHeader line =>
    [⟨.warning, s!"Ignoring config header without a name (line={Text.quoted line})"⟩]
  | assign .. => []

end Effect

/-- Whether a line is a header. -/
def isHeader (afterBlank : Bool) (line : List Char) : Bool :=
  "config ".toList.isPrefixOf line || (afterBlank && "config".toList.isPrefixOf line)

/-- The component that a header names. -/
def headerName? (line : List Char) : Option String :=
  (Text.words (Field.after line "config".toList)).head?.map String.ofList

/-- Read one line that is neither blank, nor a comment, nor skipped. -/
def readLine (state : State) (line : List Char) : State × Option Effect :=
  let used := { state with afterBlank := false }
  if isHeader state.afterBlank line then
    match headerName? line with
    | some name => ({ used with current := some name }, some (.header name))
    | none => (used, some (.namelessHeader (String.ofList line)))
  else
    match state.current, Attribute.ofLine? line with
    | some owner, some setting => (used, some (.assign owner setting))
    | _, _ => (used, none)

end Stanza
end KernelInventory
