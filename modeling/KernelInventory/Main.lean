import KernelInventory.Command.Run

/-!
# The command

The outer layer takes a snapshot of the kernel tree and of what its links lead to, reads
the input, runs the command on both, and writes the transcript.
-/

namespace KernelInventory
namespace Snapshot

/-- The names of an absolute path. -/
def locationOf (path : String) : Location := Path.namesOf path

/-- Add what stands at an absolute path to a snapshot, with everything
below it and behind it. -/
partial def add (tree : FileTree) (path : String) : IO FileTree := do
  let location := locationOf path
  if (tree.node? location).isSome then
    return tree
  let real ← (toString <$> IO.FS.realPath path) <|> pure ""
  let above := (Path.ofString path).parent.toString
  let realAbove ← (toString <$> IO.FS.realPath above) <|> pure above
  let plain := ((Path.ofString realAbove).child (Path.ofString path).name).toString
  if real ≠ "" ∧ real ≠ plain then
    add (tree.write location (.link real)) real
  else
    try
      let bytes ← IO.FS.readBinFile path
      return tree.write location (.file bytes.toList true)
    catch _ =>
      addDirectory tree path location
where
  /-- Add a directory, or a file that cannot be read. -/
  addDirectory (tree : FileTree) (path : String) (location : Location) :
    IO FileTree := do
    let place := (← IO.currentDir) / path
    if ← place.isDir then
      try
        let entries ← place.readDir
        entries.foldlM (fun grown entry => add grown s!"{path}/{entry.fileName}")
          (tree.write location (.directory true true))
      catch _ =>
        return tree.write location (.directory false false)
    else if ← place.pathExists then
      return tree.write location (.file [] false)
    else
      return tree

/-- The tree that options are about. -/
def ofOptions (options : Command.Options) : IO FileTree := do
  let home := toString (← IO.currentDir)
  let tree := FileTree.empty (locationOf home)
  match options.kernelPath with
  | some path => add tree (tree.flatten (Path.ofString path)).toString
  | none => return tree

/-- The input, if options ask for lookups. -/
def inputFor (options : Command.Options) : IO String := do
  if options.kconfig && !options.noQuery then
    (← IO.getStdin).readToEnd
  else
    return ""

end Snapshot
end KernelInventory

open KernelInventory in
/-- Run the command on the files of the machine. -/
def main (arguments : List String) : IO UInt32 := do
  let (tree, input) ←
    match Command.Options.ofArguments arguments with
    | .ok options => pure (← Snapshot.ofOptions options, ← Snapshot.inputFor options)
    | .error _ => pure (FileTree.empty [], "")
  let (transcript, outcome) := Command.run tree .warning arguments input.toList
  IO.print transcript.stdout
  for entry in transcript.log do
    IO.eprintln s!"{entry.level.name} {entry.message}"
  IO.eprint transcript.stderr
  match outcome with
  | .ok code => return code.toUInt32
  | .error failure =>
    IO.eprintln failure.message
    return 1
