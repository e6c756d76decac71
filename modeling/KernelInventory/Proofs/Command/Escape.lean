import KernelInventory.Proofs.Command.ExitCode
import KernelInventory.Proofs.Correlation.Legible
import KernelInventory.Proofs.Resolution.Legible

/-!
# Failures that escape the command

In a legible tree, where every entry may be read, a run ends with an exit code
unless one of these escapes it: an option is set without a value, a path is too long
for the file system, a pattern is none, or the title or the name of a component is
no proper markup.  All of these come from the arguments or from texts of the tree,
and each of them does escape.
-/

namespace KernelInventory
namespace Command

open Work Walk

/-! ## Architectures -/

/-- What the options and the texts of a tree make a run fail with. -/
inductive Failure.Provoked : Failure → Prop
  | valueless (option : NeededOption) : Provoked (.valueless option)
  | tooLong (place : String) : Provoked (.file (.refused .nameTooLong place))
  | pattern (failure : Pattern.Failure) : Provoked (.pattern failure)
  | markup (failure : Report.Markup.Failure) : Provoked (.markup failure)

/-- What makes a failure escape the reports on an architecture of a legible tree. -/
inductive Context.Escapes (context : Context) (arch : String) : Prop
  /-- The path of its directory is too long. -/
  | directory :
    context.tree.TooLong (context.archDirectory arch) →
    Escapes context arch
  /-- The walk of its directory comes upon a path that is too long. -/
  | lines :
    context.tree.isDirectory (context.archDirectory arch) = .ok true →
    context.wantsLines = true →
    Overlong context.tree ⟨context.archDirectory arch, context.exclusion,
      leadOf context.tree (some context.kernelPath) (context.archDirectory arch)⟩ →
    Escapes context arch
  /-- The title of the report on its lines is no proper markup. -/
  | title {failure : Report.Markup.Failure} :
    context.tree.isDirectory (context.archDirectory arch) = .ok true →
    context.wantsLines = true →
    Report.rule (context.title arch) = .error failure →
    Escapes context arch
  /-- The walk of a directory for the code of the components comes upon a
  path that is too long. -/
  | code {resolved : Resolution.Result} {directory : Path} :
    context.tree.isDirectory (context.archDirectory arch) = .ok true →
    context.options.kconfig = true →
    context.options.kconfigCode = true →
    context.resolution arch = .ok resolved →
    directory ∈ resolved.sourceDirectories →
    Overlong context.tree ⟨directory, context.exclusion,
      leadOf context.tree (some context.kernelPath) directory⟩ →
    Escapes context arch
  /-- The title of the report on its components, or a name in there, is no proper
  markup. -/
  | components {resolved : Resolution.Result} {failure : Report.Markup.Failure} :
    context.tree.isDirectory (context.archDirectory arch) = .ok true →
    context.options.kconfig = true →
    context.resolution arch = .ok resolved →
    context.Unshowable arch resolved.table.names failure →
    Escapes context arch

section Architectures

variable {context : Context} {arch : String} {failure : Failure}

theorem noNullBase
    (noNull : context.kernelPath.hasNull = false) :
    ∀ directory ∈ some context.kernelPath, directory.hasNull = false := by
  rintro directory ⟨⟩
  exact noNull

section Legible

variable (legible : context.tree.Legible) (noNull : context.kernelPath.hasNull = false)
  (present : context.tree.isDirectory (context.archDirectory arch) = .ok true)

include legible noNull present

/-- The lines of an architecture fail to be counted exactly if the walk comes upon a
path that is too long. -/
theorem exists_counted_eq_error_iff :
    (∃ failure, context.counted arch = .error failure) ↔
      Overlong context.tree ⟨context.archDirectory arch, context.exclusion,
        leadOf context.tree (some context.kernelPath)
          (context.archDirectory arch)⟩ := by
  simp only [Context.counted, LineStatistics.ofDirectory_eq_error_iff]
  exact exists_files_eq_error_iff legible (noNullBase noNull)
    (FileTree.noNull_of_isDirectory present)

theorem eq_of_counted_eq_error
    {failure : FileFailure} (failed : context.counted arch = .error failure) :
    ∃ place, failure = .refused .nameTooLong place :=
  eq_of_files_eq_error legible (noNullBase noNull)
    (FileTree.noNull_of_isDirectory present)
    (LineStatistics.ofDirectory_eq_error_iff.mp failed)

/-- Nothing escapes the resolution of the configuration of an architecture. -/
theorem resolution_ne_fault (failure : FileFailure) :
    context.resolution arch ≠ .error (.fault failure) := by
  have plainEntry : (context.entry arch).hasNull = false := by
    rw [Context.entry, Path.hasNull_child, FileTree.noNull_of_isDirectory present]
    decide
  refine Resolution.run_ne_fault legible plainEntry ?_ failure
  change ((Resolution.findKernelRoot context.tree (context.entry arch)
      context.version).getD
    context.kernelPath).hasNull = false
  cases found : Resolution.findKernelRoot context.tree (context.entry arch)
    context.version with
  | none => exact noNull
  | some root => exact Resolution.noNull_of_findKernelRoot legible plainEntry found

/-- What escapes the reports on the configuration of an architecture. -/
theorem of_haltsConfiguration_fault
    (asked : context.options.kconfig = true)
    (halts : context.HaltsConfiguration arch (.fault failure)) :
    context.Escapes arch ∧ failure.Provoked := by
  rcases halts with stops | ⟨resolved, returned, stops | ⟨-, refusal, unshowable, same⟩⟩
  · obtain ⟨cause, failed, same⟩ := stops_resolve_iff.mp stops
    cases cause with
    | unreadableEntry place cause => cases same
    | fault cause =>
        exact absurd failed (resolution_ne_fault legible noNull present cause)
  · obtain ⟨wanted, cause, failed, same⟩ := stops_correlate_iff.mp stops
    obtain ⟨directory, listed, ended⟩ :=
      Correlation.exists_files_eq_error legible failed
    have noNullDirectory :=
      Resolution.noNull_of_mem_sourceDirectories legible returned listed
    have overlong := (exists_files_eq_error_iff legible (noNullBase noNull)
      noNullDirectory).mp ⟨cause, ended⟩
    obtain ⟨place, rfl⟩ :=
      eq_of_files_eq_error legible (noNullBase noNull) noNullDirectory ended
    cases same
    exact ⟨.code present asked wanted returned listed overlong, .tooLong place⟩
  · cases same
    exact ⟨.components present asked returned unshowable, .markup refusal⟩

end Legible

/-- What escapes the reports on an architecture of a legible tree. -/
theorem of_halts_fault
    (legible : context.tree.Legible)
    (noNull : context.kernelPath.hasNull = false)
    (halts : context.Halts arch (.fault failure)) :
    context.Escapes arch ∧ failure.Provoked := by
  generalize stop : Stop.fault failure = reason at halts
  cases halts with
  | refused refused =>
      cases stop
      obtain ⟨tooLong, rfl⟩ := legible.isDirectory_eq_error_iff.mp refused
      exact ⟨.directory tooLong, .tooLong _⟩
  | absent _ => cases stop
  | lines present wanted stops =>
      subst stop
      rcases stops_reportLines_iff.mp stops with ⟨cause, failed, same⟩ |
        ⟨-, refusal, refused, same⟩
      · obtain ⟨place, rfl⟩ := eq_of_counted_eq_error legible noNull present failed
        cases same
        exact ⟨.lines present wanted
          ((exists_counted_eq_error_iff legible noNull present).mp ⟨_, failed⟩),
            .tooLong place⟩
      · cases same
        exact ⟨.title present wanted refused, .markup refusal⟩
  | configuration present _ asked halts =>
      subst stop
      exact of_haltsConfiguration_fault legible noNull present asked halts

/-- The report on the lines comes first: what escapes it escapes in the place of what
would escape the report on the configuration. -/
theorem exists_halts_of_haltsConfiguration
    (present : context.tree.isDirectory (context.archDirectory arch) = .ok true)
    (asked : context.options.kconfig = true)
    (halts : context.HaltsConfiguration arch (.fault failure)) :
    ∃ first, context.Halts arch (.fault first) := by
  by_cases ends : context.wantsLines = true → ∀ other,
    ¬ (context.reportLines arch).Stops other
  · exact ⟨failure, .configuration present ends asked halts⟩
  · push Not at ends
    obtain ⟨wanted, reason, stops⟩ := ends
    cases reason with
    | exit code => exact absurd stops not_stops_reportLines_exit
    | fault first => exact ⟨first, .lines present wanted stops⟩

/-- What makes a failure escape the reports on an architecture lets one escape. -/
theorem exists_halts_fault
    (legible : context.tree.Legible)
    (noNull : context.kernelPath.hasNull = false)
    (escapes : context.Escapes arch) :
    ∃ failure, context.Halts arch (.fault failure) := by
  cases escapes with
  | directory tooLong =>
      exact ⟨_, .refused (legible.isDirectory_eq_error_iff.mpr ⟨tooLong, rfl⟩)⟩
  | lines present wanted overlong =>
      obtain ⟨failure, failed⟩ :=
        (exists_counted_eq_error_iff legible noNull present).mpr overlong
      exact ⟨_, .lines present wanted
        (stops_reportLines_iff.mpr (.inl ⟨failure, failed, rfl⟩))⟩
  | title present wanted refused =>
      cases counted : context.counted arch with
      | error failure =>
          have stops := stops_reportLines_iff.mpr (.inl ⟨failure, counted, rfl⟩)
          exact ⟨_, .lines present wanted stops⟩
      | ok statistics =>
          have stops :=
            stops_reportLines_iff.mpr (.inr ⟨⟨statistics, counted⟩, _, refused, rfl⟩)
          exact ⟨_, .lines present wanted stops⟩
  | code present asked wanted returned listed overlong =>
      have noNullDirectory :=
        Resolution.noNull_of_mem_sourceDirectories legible returned listed
      obtain ⟨failure, failed⟩ := (exists_files_eq_error_iff legible (noNullBase noNull)
        noNullDirectory).mpr overlong
      obtain ⟨first, ended⟩ := Correlation.exists_run_eq_error legible listed failed
      have stops := stops_correlate_iff.mpr ⟨wanted, first, ended, rfl⟩
      exact exists_halts_of_haltsConfiguration present asked
        (.inr ⟨_, returned, .inl stops⟩)
  | @components resolved refusal present asked returned unshowable =>
      by_cases ends : ∀ other, ¬ (context.correlate resolved).Stops other
      · exact exists_halts_of_haltsConfiguration present asked
          (.inr ⟨resolved, returned, .inr ⟨ends, refusal, unshowable, rfl⟩⟩)
      · push Not at ends
        obtain ⟨reason, stops⟩ := ends
        obtain ⟨-, cause, -, rfl⟩ := stops_correlate_iff.mp stops
        exact exists_halts_of_haltsConfiguration present asked
          (.inr ⟨resolved, returned, .inl stops⟩)

end Architectures

/-! ## Runs -/

section Runs

variable {tree : FileTree} {options : Options} {context : Context} {input : List Char}

/-- If one of the reports on architectures lets a failure escape, and none of those in
front of it ends the run with an exit code, a failure escapes them all. -/
theorem exists_inspectAll_fault
    {before : List String} {arch : String}
    (noExit : ∀ earlier ∈ before, ∀ code, ¬ context.Halts earlier (.exit code))
    {failure : Failure} (halts : context.Halts arch (.fault failure))
    (behind : List String) :
    ∃ first, (context.inspectAll (before ++ arch :: behind) input).Stops
      (.fault first) := by
  induction before generalizing input with
  | nil =>
      refine ⟨failure, ?_⟩
      rw [List.nil_append, Context.inspectAll, bind_eq_andThen, stops_andThen_iff]
      exact .inl (stops_inspect_iff.mpr halts)
  | cons earlier before inductionHypothesis =>
      obtain ⟨noExitFirst, noExitBefore⟩ := List.forall_mem_cons.mp noExit
      simp only [List.cons_append, Context.inspectAll, bind_eq_andThen,
        stops_andThen_iff]
      cases outcome : (context.inspect earlier input).outcome with
      | error reason =>
          cases reason with
          | exit code => exact absurd (stops_inspect_iff.mp outcome) (noExitFirst code)
          | fault first => exact ⟨first, .inl outcome⟩
      | ok left =>
          obtain ⟨first, stops⟩ := @inductionHypothesis left noExitBefore
          exact ⟨first, .inr ⟨left, rfl, stops⟩⟩

/-- What makes a failure escape a run on a legible tree. -/
inductive Escapes (tree : FileTree) (options : Options) : Prop
  /-- The threshold of the log is set without a value. -/
  | level :
    options.logLevel = none →
    Escapes tree options
  /-- The architectures are set without a value. -/
  | arches :
    (options.kconfigCode = true → options.kconfig = true) →
    options.arch = none →
    Escapes tree options
  /-- The kernel path is set without a value. -/
  | nowhere {arches : List String} :
    options.Asks arches →
    options.kernelPath = none →
    Escapes tree options
  /-- The kernel path is too long. -/
  | kernelPath {arches : List String} {text : String} :
    options.Asks arches →
    options.kernelPath = some text →
    tree.TooLong (Path.ofString text) →
    Escapes tree options
  /-- A pattern is none. -/
  | pattern {kernelPath : Path} {arches : List String} {failure : Pattern.Failure} :
    Ready tree options kernelPath arches →
    exclusionOf options = .error failure →
    Escapes tree options
  /-- The reports on an architecture let a failure escape, and come that far. -/
  | architecture {kernelPath : Path} {before behind : List String}
      {arch version : String} {exclusion : Option Exclusion} :
    Ready tree options kernelPath (before ++ arch :: behind) →
    (KernelVersion.ofMakefile tree (kernelPath.child "Makefile")).1 = .ok version →
    exclusionOf options = .ok exclusion →
    (∀ earlier ∈ before, Reportable tree options kernelPath earlier) →
    Context.Escapes ⟨tree, options, kernelPath, version, exclusion⟩ arch →
    Escapes tree options

/-- Where there is a directory, looking for the version lets no failure escape. -/
theorem not_stops_versionOf_fault
    {kernelPath : Path}
    (present : tree.isDirectory kernelPath = .ok true)
    (failure : Failure) :
    ¬ (versionOf tree kernelPath).Stops (.fault failure) := by
  intro stops
  have noNull : (kernelPath.child "Makefile").hasNull = false := by
    rw [Path.hasNull_child, FileTree.noNull_of_isDirectory present]
    decide
  obtain ⟨cause, failed, same⟩ := stops_versionOf_iff.mp stops
  rw [KernelVersion.ofMakefile] at failed
  cases cause with
  | unreadable _ _ | missing _ _ => cases same
  | fault cause =>
      cases read : tree.readText (kernelPath.child "Makefile") with
      | error failure =>
          obtain ⟨error, rfl⟩ := FileTree.refused_of_readText noNull read
          simp [read] at failed
      | ok text =>
          rw [read] at failed
          cases stated : KernelVersion.ofLines (Text.lines text) <;>
            simp [stated] at failed

/-- What escapes the preparation of a run. -/
theorem of_stops_prepare_fault
    (legible : tree.Legible)
    {arches : List String} (asks : options.Asks arches)
    {failure : Failure} (stops : (prepare tree options).Stops (.fault failure)) :
    Escapes tree options ∧ failure.Provoked := by
  rcases stops_prepare_iff.mp stops with ⟨absent, same⟩ | ⟨text, path, stopped⟩
  · cases same
    exact ⟨.nowhere asks absent, .valueless .kernelPath⟩
  · rcases stopped with ⟨cause, refused, same⟩ | ⟨-, same⟩ |
      ⟨present, stops | ⟨version, stated, refusal, refused, same⟩⟩
    · obtain ⟨tooLong, rfl⟩ := legible.isDirectory_eq_error_iff.mp refused
      cases same
      exact ⟨.kernelPath asks path tooLong, .tooLong _⟩
    · cases same
    · exact absurd stops (not_stops_versionOf_fault present failure)
    · cases same
      refine ⟨.pattern (ready_iff.mpr ⟨asks, text, path, rfl, present, version, ?_⟩)
        refused, .pattern refusal⟩
      exact outcome_versionOf_iff.mp stated

/-- What escapes a run. -/
theorem of_stops_fault
    (legible : tree.Legible)
    {failure : Failure}
    (stops : (runOptions tree options input).Stops (.fault failure)) :
    Escapes tree options ∧ failure.Provoked := by
  rcases stops_runOptions_iff.mp stops with ⟨-, -, same⟩ | ⟨used, absent, same⟩ |
    ⟨-, -, same⟩ |
    ⟨arches, asks, stops | ⟨context, prepared, stops⟩⟩
  · cases same
  · cases same
    exact ⟨.arches used absent, .valueless .arch⟩
  · cases same
  · exact of_stops_prepare_fault legible asks stops
  · obtain ⟨before, arch, behind, rfl, ends, halts⟩ := stops_inspectAll_iff.mp stops
    obtain ⟨text, version, exclusion, path, present, versioned, exclusive, rfl⟩ :=
      outcome_prepare_iff.mp prepared
    have stated := outcome_versionOf_iff.mp versioned
    have noNull := FileTree.noNull_of_isDirectory present
    obtain ⟨escapes, provoked⟩ := of_halts_fault legible noNull halts
    refine ⟨?_, provoked⟩
    exact .architecture
      (ready_iff.mpr ⟨asks, text, path, rfl, present, version, stated⟩) stated exclusive
        (fun earlier member => reportable_of_ends (ends earlier member)) escapes

/-- What makes a failure escape a run lets one escape, unless it is the
threshold of the log. -/
theorem exists_stops_fault
    (legible : tree.Legible)
    (escapes : Escapes tree options) :
    options.logLevel = none ∨
      ∃ failure, (runOptions tree options input).Stops (.fault failure) := by
  have atAsked : ∀ {arches : List String} {reason : Stop}, options.Asks arches →
      (prepare tree options).Stops reason →
      (runOptions tree options input).Stops reason :=
    fun asks stops =>
      stops_runOptions_iff.mpr (.inr (.inr (.inr ⟨_, asks, .inl stops⟩)))
  cases escapes with
  | level unset => exact .inl unset
  | arches used absent =>
      exact .inr ⟨_, stops_runOptions_iff.mpr (.inr (.inl ⟨used, absent, rfl⟩))⟩
  | nowhere asks absent =>
      exact .inr ⟨_, atAsked asks (stops_prepare_iff.mpr (.inl ⟨absent, rfl⟩))⟩
  | kernelPath asks path tooLong =>
      have refused := legible.isDirectory_eq_error_iff.mpr ⟨tooLong, rfl⟩
      exact .inr ⟨_, atAsked asks
        (stops_prepare_iff.mpr (.inr ⟨_, path, .inl ⟨_, refused, rfl⟩⟩))⟩
  | pattern ready refused =>
      obtain ⟨asks, text, path, rfl, present, version, stated⟩ := ready_iff.mp ready
      have versioned := outcome_versionOf_iff.mpr stated
      exact .inr ⟨_, atAsked asks (stops_prepare_iff.mpr (.inr ⟨text, path,
        .inr (.inr ⟨present, .inr ⟨version, versioned, _, refused, rfl⟩⟩)⟩))⟩
  | architecture ready stated exclusive reportable escapes =>
      obtain ⟨asks, text, path, rfl, present, -⟩ := ready_iff.mp ready
      have prepared := outcome_prepare_iff.mpr
        ⟨text, _, _, path, present, outcome_versionOf_iff.mpr stated, exclusive, rfl⟩
      obtain ⟨failure, halts⟩ :=
        exists_halts_fault legible (FileTree.noNull_of_isDirectory present) escapes
      obtain ⟨first, stops⟩ := exists_inspectAll_fault
        (fun earlier member code halts => not_reportable_of_halts_exit halts
          (reportable earlier member)) halts _
      exact .inr ⟨first, stops_runOptions_iff.mpr
        (.inr (.inr (.inr ⟨_, asks, .inr ⟨_, prepared, stops⟩⟩)))⟩

/-- Something makes escape what escapes the command, and it is of these kinds. -/
theorem run_eq_error
    (legible : tree.Legible)
    {arguments : List String} (accepted : Options.ofArguments arguments = .ok options)
    {threshold : LogLevel} {failure : Failure}
    (escaped : (run tree threshold arguments input).2 = .error failure) :
    Escapes tree options ∧ failure.Provoked := by
  rw [run_eq accepted] at escaped
  cases leveled : options.logLevel with
  | none =>
      rw [leveled] at escaped
      cases escaped
      exact ⟨.level leveled, .valueless .logLevel⟩
  | some level =>
      rw [leveled] at escaped
      exact of_stops_fault legible (exitOf_eq_error_iff.mp escaped)

theorem exists_run_eq_error
    (legible : tree.Legible)
    {arguments : List String} (accepted : Options.ofArguments arguments = .ok options)
    (escapes : Escapes tree options)
    (threshold : LogLevel) (input : List Char) :
    ∃ failure, (run tree threshold arguments input).2 = .error failure := by
  rw [run_eq accepted]
  cases leveled : options.logLevel with
  | none => exact ⟨_, rfl⟩
  | some level =>
      obtain ⟨failure, stops⟩ :=
        (exists_stops_fault legible escapes).resolve_left (by simp [leveled])
      exact ⟨failure, exitOf_eq_error_iff.mpr stops⟩

end Runs

/-! ## A component whose name is no markup -/

section Configuration

theorem legible_configTree
    {makefile bytes : List UInt8}
    (plainMakefile : '\x00' ∉ Text.Utf8.decode makefile)
    (plain : '\x00' ∉ Text.Utf8.decode bytes) :
    (configTree makefile bytes).Legible where
  wellFormed :=
    { nodup := by simp [FileTree.locations, configTree]
      proper := by simp [FileTree.locations, configTree, ProperName] }
  plainNames := by
    have places : (configTree makefile bytes).workingDirectory ::
        (configTree makefile bytes).locations =
          [[], ["k"], ["k", "Makefile"], ["k", "arch"], ["k", "arch", "a"],
            ["k", "arch", "a", "Kconfig"]] := rfl
    rw [places]
    decide
  readable := by
    intro entry member
    simp only [configTree, List.mem_cons, List.not_mem_nil, or_false] at member
    rcases member with rfl | rfl | rfl | rfl | rfl
    · exact .inl rfl
    · exact .inr ⟨makefile, rfl, plainMakefile⟩
    · exact .inl rfl
    · exact .inl rfl
    · exact .inr ⟨bytes, rfl, plain⟩

theorem plain_versionBytes : '\x00' ∉ Text.Utf8.decode versionBytes := by
  rw [versionBytes, Text.Utf8.decode_encode]
  decide +kernel

/-- The bytes of a configuration with a component whose name closes a
tag that is not open. -/
def slashBytes : List UInt8 :=
  Text.Utf8.encode "config [/a]\n".toList

theorem legible_slash : (configTree versionBytes slashBytes).Legible := by
  refine legible_configTree plain_versionBytes ?_
  rw [slashBytes, Text.Utf8.decode_encode]
  decide +kernel

/-- What happens in the resolution of that configuration. -/
def slashEvents : List Resolution.Event :=
  [.opened ["k", "arch", "a", "Kconfig"],
    .effect ["k", "arch", "a", "Kconfig"] (.header "[/a]")]

theorem visit_slash (makefile : List UInt8) :
    Resolution.visit (configTree makefile slashBytes) configSettings ⟨.root, ["k"]⟩
      [["k", "arch", "a", "Kconfig"]]
      ["k", "arch", "a", "Kconfig"] slashBytes = slashEvents := by
  have entries :
      Stanza.entries configSettings.skipHelp (Resolution.linesOf slashBytes) =
      [.effect (.header "[/a]")] := by
    rfl
  rw [Resolution.visit_eq_entries, entries]
  rfl

theorem unshowable_slash :
    (configContext versionBytes slashBytes).Unshowable "a"
      (Resolution.Result.ofEvents slashEvents).table.names (.unmatched "/a" 0) := by
  have names : Report.componentGrid ["[/a]"] = .error (.unmatched "/a" 0) := by
    decide +kernel
  exact .inr ⟨exists_rule_configContext versionBytes slashBytes, names⟩

theorem escapes_slash : Escapes (configTree versionBytes slashBytes) configOptions := by
  have present : (configContext versionBytes slashBytes).tree.isDirectory
      ((configContext versionBytes slashBytes).archDirectory "a") = .ok true := by
    rw [archDirectory_configContext]
    exact (isDirectory_configTree versionBytes slashBytes).2
  have resolved : (configContext versionBytes slashBytes).resolution "a" =
      .ok (Resolution.Result.ofEvents slashEvents) :=
    resolution_configContext (visit_slash versionBytes) (by decide)
  have ready : Ready (configTree versionBytes slashBytes) configOptions ⟨.root, ["k"]⟩
      ([] ++ "a" :: []) :=
    ready_configTree slashBytes
  have escapes : (configContext versionBytes slashBytes).Escapes "a" :=
    .components present rfl resolved unshowable_slash
  exact .architecture ready (ofMakefile_configTree slashBytes) rfl (by simp) escapes

/-- The options that exclude what matches a pattern without a name. -/
def patternOptions : Options :=
  { configOptions with exclude := [some "!"] }

/-- The command line that does so. -/
def patternLine : List String :=
  configLine ++ ["--exclude", "!"]

theorem ofArguments_patternLine :
    Options.ofArguments patternLine = .ok patternOptions := by
  decide +kernel

theorem escapes_pattern (bytes : List UInt8) :
    Escapes (configTree versionBytes bytes) patternOptions := by
  obtain ⟨asks, place⟩ := ready_iff.mp (ready_configTree bytes)
  have refused : ∃ failure, exclusionOf patternOptions = .error failure := ⟨_, rfl⟩
  obtain ⟨failure, refused⟩ := refused
  exact .pattern (ready_iff.mpr ⟨asks, place⟩) refused

end Configuration

/-! ## What escapes -/

/-- When a failure escapes a run on a legible tree whose arguments are accepted.  It
does exactly if an option that is needed is set without a value, the kernel path is too
long, a pattern is none, or the reports on an architecture let it escape: the path of
its directory or one that a walk comes upon is too long, or its title or the name of one
of its components is no proper markup.  What escapes is then one of these failures; and
if nothing does, the exit code is zero or two. -/
theorem failure_escapes_iff
    {tree : FileTree} {options : Options} {threshold : LogLevel}
    {arguments : List String}
    {input : List Char}
    (legible : tree.Legible)
    (accepted : Options.ofArguments arguments = .ok options) :
    ((∃ failure, (run tree threshold arguments input).2 = .error failure) ↔
        Escapes tree options) ∧
      (∀ failure, (run tree threshold arguments input).2 = .error failure →
        failure.Provoked) ∧
      ∀ code, (run tree threshold arguments input).2 = .ok code →
        code = 0 ∨ code = 2 := by
  refine ⟨⟨?_, fun escapes =>
    exists_run_eq_error legible accepted escapes threshold input⟩,
      fun failure escaped => (run_eq_error legible accepted escaped).2,
      fun code returned => ?_⟩
  · rintro ⟨failure, escaped⟩
    exact (run_eq_error legible accepted escaped).1
  · exact eq_zero_or_two_of_run_eq_ok accepted returned

/-- The name of a component that closes a tag which is not open makes a failure
escape. -/
theorem failure_escapes_iff_slash :
    (configTree versionBytes slashBytes).Legible ∧
      Options.ofArguments configLine = .ok configOptions ∧
      ∃ failure, (run (configTree versionBytes slashBytes) .warning configLine []).2 =
        .error failure ∧ failure.Provoked := by
  obtain ⟨escapes, provoked, -⟩ :=
    @failure_escapes_iff _ _ .warning _ [] legible_slash ofArguments_configLine
  obtain ⟨failure, escaped⟩ := escapes.mpr escapes_slash
  exact ⟨legible_slash, ofArguments_configLine, failure, escaped,
    provoked failure escaped⟩

/-- Not every run on a legible tree ends with an exit code. -/
theorem not_all_runs_return :
    ¬ ∀ (tree : FileTree) (options : Options) (threshold : LogLevel)
      (arguments : List String) (input : List Char),
        tree.Legible → (∀ argument ∈ arguments, '\x00' ∉ argument.toList) →
          Options.ofArguments arguments = .ok options →
            ∃ code, (run tree threshold arguments input).2 = .ok code ∧
              (code = 0 ∨ code = 2) := by
  intro returns
  have plain : ∀ argument ∈ patternLine, '\x00' ∉ argument.toList := by decide
  obtain ⟨code, returned, -⟩ := returns _ _ .warning _ [] legible_slash plain
    ofArguments_patternLine
  obtain ⟨failure, escaped⟩ := exists_run_eq_error legible_slash ofArguments_patternLine
    (escapes_pattern slashBytes) .warning []
  cases returned.symm.trans escaped

end Command
end KernelInventory
