import KernelInventory.Stanza.Help

/-!
# The entries of a file

A configuration file is a list of lines, most of which say nothing: comments, blank
lines, help text and attributes without a component.  What remains are its entries, the
effects of its stanzas and the files it sources, in order.  They depend on the text of
the file alone, and on whether help blocks are skipped.
-/

namespace KernelInventory
namespace Stanza

/-- A line that says something. -/
inductive Entry
  /-- A line of a stanza. -/
  | effect (change : Effect)
  /-- A line that sources another file, with its target as written. -/
  | source (target : String)
deriving Repr, DecidableEq

/-- Read one raw line of a file. -/
def readRaw (skipping : Bool) (state : State) (raw : List Char) :
    State × Option Entry :=
  let line := Text.trim raw
  if line.head? = some '#' then (state, none)
  else if line.isEmpty then ({ state with afterBlank := true }, none)
  else
    let (state, skipped) := if skipping then skipHelp state raw else (state, false)
    if skipped then (state, none)
    else if "source".toList.isPrefixOf line then
      ({ state with afterBlank := false },
        some (.source (String.ofList (Field.quotedAfter line "source".toList))))
    else
      let (state, effect) := readLine state line
      (state, effect.map .effect)

/-- The entries of the lines that are left to a reader in a state. -/
def entriesFrom (skipping : Bool) (state : State) : List (List Char) → List Entry
  | [] => []
  | raw :: rest =>
    let (next, entry) := readRaw skipping state raw
    entry.toList ++ entriesFrom skipping next rest

/-- The entries of a file. -/
def entries (skipping : Bool) (lines : List (List Char)) : List Entry :=
  entriesFrom skipping {} lines

@[simp] theorem entries_nil (skipping : Bool) : entries skipping [] = [] := rfl

end Stanza
end KernelInventory
