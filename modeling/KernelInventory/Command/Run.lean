import KernelInventory.Command.Architecture
import KernelInventory.Command.Usage
import KernelInventory.Command.Work
import KernelInventory.Text.UpperCase

/-!
# Running the command

A run checks its options and the kernel tree, and then reports on each architecture in
turn: the lines of code, the components of the configuration, and the answers to
lookups.  The input is read by the lookups of one architecture after the other.
-/

namespace KernelInventory
namespace Command

/-- What every architecture of a run has in common. -/
structure Context where
  tree : FileTree
  options : Options
  kernelPath : Path
  version : String
  exclusion : Option Exclusion

/-- Issues as they are complained about. -/
def issueLines (issues : List Issue) : String :=
  String.join (issues.map fun issue =>
    s!"kconfig_issue: {issue.file}: {issue.message}\n")

namespace Context

/-- The title of the reports on an architecture. -/
def title (context : Context) (arch : String) : String :=
  let capitals := String.ofList (Text.upper arch.toList)
  s!"Linux-{context.version} Arch {capitals}"

/-- The directory of an architecture. -/
def archDirectory (context : Context) (arch : String) : Path :=
  context.kernelPath / Path.ofString "arch" / Path.ofString arch

/-- Count and report the lines of an architecture. -/
def reportLines (context : Context) (arch : String) : Work Unit := do
  let directory := context.archDirectory arch
  let statistics ← Work.logged Failure.file
    (LineStatistics.ofDirectory context.tree context.exclusion (some context.kernelPath)
      directory)
  let rule ← Work.check Failure.markup (Report.rule (context.title arch))
  Work.write (.print (rule ++ Report.lineTable statistics))

/-- Resolve the configuration of an architecture, and complain about its issues. -/
def resolve (context : Context) (arch : String) : Work Resolution.Result := do
  let entry := (context.archDirectory arch).child "Kconfig"
  let root := (Resolution.findKernelRoot context.tree entry context.version).getD
    context.kernelPath
  let settings : Resolution.Settings :=
    { version := context.version
      includeAll := context.options.includeAll
      kernelRoot := some root
      skipHelp := context.options.skipHelp }
  let (outcome, log) := Resolution.run context.tree settings entry
  Work.write (.note log)
  match outcome with
  | .ok result => do
    Work.write (.complain (issueLines result.issues))
    return result
  | .error (.unreadableEntry place cause) =>
    let failure := Resolution.Failure.unreadableEntry place cause
    Work.giveUp s!"Kconfig resolution failed (error={failure.message})" failure.message
  | .error failure => Work.stop (.fault (.resolution failure))

/-- Attach code to the components of an architecture, if that is asked for, and
complain about the issues. -/
def correlate (context : Context) (resolved : Resolution.Result) :
    Work (Table × Option Correlation.Result) := do
  if context.options.kconfigCode then
    let outcome :=
      Correlation.run context.tree context.exclusion (some context.kernelPath)
        resolved.table resolved.sourceDirectories
    let result ← Work.logged Failure.file (outcome.result, outcome.log)
    Work.write (.complain (issueLines result.issues))
    return (outcome.table, some result)
  else
    return (resolved.table, none)

/-- Report the components of an architecture. -/
def reportComponents (context : Context) (arch : String) (table : Table)
    (correlation : Option Correlation.Result) : Work Unit := do
  let rule ← Work.check Failure.markup (Report.rule (context.title arch))
  Work.write (.print rule)
  let grid ← Work.check Failure.markup (Report.componentGrid table.names)
  Work.write (.print (grid ++ Report.plain s!"SUM: {table.size} Components"))
  match correlation with
  | none => pure ()
  | some result =>
    let lines := table.totalCodeLines
    let text := s!"CODE: {lines} Lines in {result.snippetCount} Snippets " ++
      s!"({result.filesScanned} Files)"
    Work.write (.print (Report.plain text))

/-- Report the configuration of an architecture and answer lookups, and return what
is left of the input. -/
def inspectConfiguration (context : Context) (arch : String) (input : List Char) :
    Work (List Char) := do
  let resolved ← context.resolve arch
  let (table, correlation) ← context.correlate resolved
  context.reportComponents arch table correlation
  if context.options.noQuery then
    return input
  else
    let (transcript, left) := Query.run table input
    Work.write transcript
    return left

/-- Report on an architecture, and return what is left of the input. -/
def inspect (context : Context) (arch : String) (input : List Char) :
    Work (List Char) := do
  let directory := context.archDirectory arch
  Work.write
    (.note [⟨.info, s!"Inspecting architecture (arch={arch} path={directory})"⟩])
  let present ← Work.check Failure.file (context.tree.isDirectory directory)
  if !present then
    Work.giveUp s!"Architecture directory missing (path={directory})"
      s!"Architecture directory does not exist: {directory}"
  else
    if context.options.lines || !context.options.kconfig then
      context.reportLines arch
    if context.options.kconfig then
      context.inspectConfiguration arch input
    else
      return input

/-- Report on architectures in turn, and return what is left of the input. -/
def inspectAll (context : Context) : List String → List Char → Work (List Char)
  | [], input => pure input
  | arch :: others, input => do
    let left ← context.inspect arch input
    context.inspectAll others left

end Context

/-- The version of a kernel tree. -/
def versionOf (tree : FileTree) (kernelPath : Path) : Work String := do
  let (found, log) := KernelVersion.ofMakefile tree (kernelPath.child "Makefile")
  Work.write (.note log)
  match found with
  | .ok version => return version
  | .error (.fault failure) => Work.stop (.fault (.file failure))
  | .error failure =>
    Work.giveUp s!"Kernel version lookup failed (error={failure.message})"
      failure.message

/-- A needed option, if it is set with a value. -/
def needed {α : Type} (option : NeededOption) : Option α → Work α
  | some value => Work.done value
  | none => Work.stop (.fault (.valueless option))

/-- Check the kernel tree, and collect what all architectures have in common. -/
def prepare (tree : FileTree) (options : Options) : Work Context := do
  let kernelPath := Path.ofString (← needed .kernelPath options.kernelPath)
  let present ← Work.check Failure.file (tree.isDirectory kernelPath)
  if !present then
    Work.giveUp s!"Kernel path does not exist (path={kernelPath})"
      s!"Kernel path does not exist: {kernelPath}"
  else
    let version ← versionOf tree kernelPath
    let exclusion ←
      if options.exclude.isEmpty then pure none
      else
        let patterns := options.exclude.map (·.getD "")
        (some ·) <$> Work.check Failure.pattern (Exclusion.ofPatterns patterns)
    return ⟨tree, options, kernelPath, version, exclusion⟩

/-- Check the options and the kernel tree, report on every architecture, and return what
is left of the input. -/
def runOptions (tree : FileTree) (options : Options) (input : List Char) :
    Work (List Char) := do
  if options.kconfigCode && !options.kconfig then
    Work.giveUp "Usage error (--kconfig-code given without --kconfig)"
      "--kconfig-code requires --kconfig"
  else
    let list ← needed .arch options.arch
    match Architecture.list list with
    | .error failure =>
      Work.giveUp s!"Invalid arch argument (arch={list} error={failure.message})"
        s!"Invalid arch: {list}"
    | .ok arches => do
      let context ← prepare tree options
      context.inspectAll arches input

/-- How a run ends: with an exit code or with a failure. -/
def exitOf {α : Type} : Except Stop α → Except Failure Nat
  | .ok _ => .ok 0
  | .error (.exit code) => .ok code
  | .error (.fault failure) => .error failure

/-- The transcript of a command line that gives no options.  Help and complaints about
arguments go to the output streams of the process. -/
def unread (arguments : List String) (ending : Ending) : Transcript :=
  let (stdout, stderr) :=
    match ending with
    | .help => (help, "")
    | .refused refusal => ("", complaint refusal)
  ⟨stdout, stderr,
    [⟨.warning, s!"Argument parsing failed (argv={Text.quotedList arguments})"⟩]⟩

/-- Run the command.  Its log shows entries from a threshold on, which the options may
change.

The output streams that a run is given are those of the process, so that one transcript
holds what is written to them and what the reading of the arguments prints.  The log is
kept apart from both; no entry of it counts as written to the stream of errors. -/
def run (tree : FileTree) (threshold : LogLevel) (arguments : List String)
    (input : List Char) :
    Transcript × Except Failure Nat :=
  match Options.ofArguments arguments with
  | .error ending => ((unread arguments ending).above threshold, .ok 2)
  | .ok options =>
    match options.logLevel with
    | none => (.empty, .error (.valueless .logLevel))
    | some level =>
      let work := runOptions tree options input
      (work.transcript.above level, exitOf work.outcome)

end Command
end KernelInventory
