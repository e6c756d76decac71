import KernelInventory.Proofs.Command.Work
import KernelInventory.Proofs.Correlation.Opening

/-!
# Why a run stops

A part of a run stops it for a reason of its own, or hands a value on to the parts
behind it.  For each part it is stated here for which reasons it stops the run, in terms
of what it asks the tree and the reports for.  None of the reasons depends on the input,
so that a run for several architectures stops at the first one that has a reason.
-/

namespace KernelInventory
namespace Command
namespace Work

/-! ## Reasons of parts -/

section Parts

variable {α β ε : Type} {reason : Stop} {failing : ε → Failure}

/-- A part stops the run for a reason. -/
def Stops (work : Work α) (reason : Stop) : Prop :=
  work.outcome = .error reason

@[simp] theorem not_stops_done (value : α) : ¬ (done value).Stops reason := nofun

@[simp] theorem not_stops_write (transcript : Transcript) :
    ¬ (write transcript).Stops reason :=
  nofun

@[simp] theorem stops_stop_iff {other : Stop} :
    (stop other : Work α).Stops reason ↔ reason = other := by
  rw [Stops, stop, Except.error.injEq, eq_comm]

@[simp] theorem stops_giveUp_iff {warning message : String} :
    (giveUp warning message : Work α).Stops reason ↔ reason = .exit 2 := by
  rw [Stops, giveUp, Except.error.injEq, eq_comm]

theorem stops_check_iff {found : Except ε α} :
    (check failing found).Stops reason ↔
      ∃ failure, found = .error failure ∧ reason = .fault (failing failure) := by
  cases found with
  | error failure => simp [check]
  | ok value => simp [check]

theorem stops_logged_iff {found : Except ε α × List LogEntry} :
    (logged failing found).Stops reason ↔
      ∃ failure, found.1 = .error failure ∧ reason = .fault (failing failure) :=
  stops_check_iff

/-- The first part stops the run, or the second one does behind the value of the
first. -/
theorem stops_andThen_iff {first : Work α} {next : α → Work β} :
    (first.andThen next).Stops reason ↔
      first.Stops reason ∨ ∃ value, first.outcome = .ok value ∧
        (next value).Stops reason := by
  unfold Stops
  cases outcome : first.outcome with
  | error other => simp [andThen_of_error outcome]
  | ok value => simp [andThen_of_ok outcome]

@[simp] theorem outcome_done (value : α) : (done value).outcome = .ok value := rfl

@[simp] theorem outcome_write (transcript : Transcript) :
    (write transcript).outcome = .ok () := rfl

theorem outcome_check_iff {found : Except ε α} {value : α} :
    (check failing found).outcome = .ok value ↔ found = .ok value := by
  cases found with
  | error failure => simp [check, stop]
  | ok other => simp [check, done]

theorem outcome_logged_iff {found : Except ε α × List LogEntry} {value : α} :
    (logged failing found).outcome = .ok value ↔ found.1 = .ok value :=
  outcome_check_iff

theorem outcome_andThen_iff {first : Work α} {next : α → Work β} {result : β} :
    (first.andThen next).outcome = .ok result ↔
      ∃ value, first.outcome = .ok value ∧ (next value).outcome = .ok result := by
  constructor
  · exact exists_of_andThen
  · rintro ⟨value, goesOn, finished⟩
    rw [andThen_of_ok goesOn]
    exact finished

/-- A part hands a value on unless it stops the run. -/
theorem exists_outcome_iff {work : Work α} :
    (∃ value, work.outcome = .ok value) ↔ ∀ reason, ¬ work.Stops reason := by
  unfold Stops
  cases work.outcome with
  | error reason => simp
  | ok value => simp

/-- A part does not stop the run with the exit code of a run that comes to its end. -/
def StopsNonzero (work : Work α) : Prop :=
  work.outcome ≠ .error (.exit 0)

end Parts
end Work

open Work

/-! ## Before the architectures -/

section Preparation

variable {tree : FileTree} {options : Options} {kernelPath : Path} {reason : Stop}

theorem stops_needed_iff {α : Type} {option : NeededOption} {setting : Option α} :
    (needed option setting).Stops reason ↔
      setting = none ∧ reason = .fault (.valueless option) := by
  cases setting <;> simp [needed]

theorem outcome_needed_iff {α : Type} {option : NeededOption} {setting : Option α}
    {value : α} :
    (needed option setting).outcome = .ok value ↔ setting = some value := by
  cases setting <;> simp [needed, stop, done]

/-- Why a run stops without a version: only a path that is none is not reported. -/
def versionStop : KernelVersion.Failure → Stop
  | .fault failure => .fault (.file failure)
  | .unreadable .. => .exit 2
  | .missing .. => .exit 2

theorem stops_versionOf_iff :
    (versionOf tree kernelPath).Stops reason ↔
      ∃ failure, (KernelVersion.ofMakefile tree (kernelPath.child "Makefile")).1 =
        .error failure ∧
        reason = versionStop failure := by
  unfold versionOf
  generalize KernelVersion.ofMakefile tree (kernelPath.child "Makefile") = found
  obtain ⟨(_ | _ | failure) | version, log⟩ := found <;>
    simp [stops_andThen_iff, versionStop]

theorem outcome_versionOf_iff {version : String} :
    (versionOf tree kernelPath).outcome = .ok version ↔
      (KernelVersion.ofMakefile tree (kernelPath.child "Makefile")).1 =
        .ok version := by
  unfold versionOf
  generalize KernelVersion.ofMakefile tree (kernelPath.child "Makefile") = found
  obtain ⟨(_ | _ | failure) | stated, log⟩ := found <;>
    simp [outcome_andThen_iff, giveUp, stop, done]

/-- The exclusion that options ask for, if its patterns can be read. -/
def exclusionOf (options : Options) : Except Pattern.Failure (Option Exclusion) :=
  if options.exclude.isEmpty then .ok none
  else (Exclusion.ofPatterns (options.exclude.map (·.getD ""))).map some

/-- The last thing that is checked before the architectures are the patterns. -/
theorem prepare_eq (tree : FileTree) (options : Options) :
    prepare tree options =
      (needed .kernelPath options.kernelPath).andThen fun text =>
        (check Failure.file (tree.isDirectory (Path.ofString text))).andThen
          fun present =>
          if !present then
            giveUp s!"Kernel path does not exist (path={Path.ofString text})"
              s!"Kernel path does not exist: {Path.ofString text}"
          else
            (versionOf tree (Path.ofString text)).andThen fun version =>
              (check Failure.pattern (exclusionOf options)).andThen fun exclusion =>
                done ⟨tree, options, Path.ofString text, version, exclusion⟩ := by
  unfold prepare exclusionOf
  simp only [bind_eq_andThen, pure_eq_done]
  refine congrArg _ (funext fun text => congrArg _ (funext fun present => ?_))
  split
  · rfl
  · refine congrArg _ (funext fun version => ?_)
    split
    · rfl
    · cases Exclusion.ofPatterns (options.exclude.map (·.getD "")) <;> rfl

theorem stops_prepare_iff :
    (prepare tree options).Stops reason ↔
      (options.kernelPath = none ∧ reason = .fault (.valueless .kernelPath)) ∨
        ∃ text, options.kernelPath = some text ∧
          ((∃ failure, tree.isDirectory (Path.ofString text) = .error failure ∧
              reason = .fault (.file failure)) ∨
            (tree.isDirectory (Path.ofString text) = .ok false ∧ reason = .exit 2) ∨
            tree.isDirectory (Path.ofString text) = .ok true ∧
              ((versionOf tree (Path.ofString text)).Stops reason ∨
                ∃ version, (versionOf tree (Path.ofString text)).outcome = .ok version ∧
                  ∃ failure, exclusionOf options = .error failure ∧
                    reason = .fault (.pattern failure))) := by
  simp only [prepare_eq, stops_andThen_iff, stops_needed_iff, outcome_needed_iff,
    stops_check_iff, outcome_check_iff]
  refine or_congr_right (exists_congr fun text => and_congr_right fun _ => ?_)
  rcases tree.isDirectory (Path.ofString text) with failure | ⟨_ | _⟩
  · simp
  · simp
  · simp [stops_andThen_iff, stops_check_iff]

theorem outcome_prepare_iff {context : Context} :
    (prepare tree options).outcome = .ok context ↔
      ∃ text version exclusion, options.kernelPath = some text ∧
        tree.isDirectory (Path.ofString text) = .ok true ∧
        (versionOf tree (Path.ofString text)).outcome = .ok version ∧
        exclusionOf options = .ok exclusion ∧
        context = ⟨tree, options, Path.ofString text, version, exclusion⟩ := by
  simp only [prepare_eq, outcome_andThen_iff, outcome_needed_iff, outcome_check_iff,
    exists_and_left]
  refine exists_congr fun text => and_congr_right fun _ => ?_
  rcases tree.isDirectory (Path.ofString text) with failure | ⟨_ | _⟩
  · simp
  · simp [giveUp]
  · simp only [Bool.not_true, Bool.false_eq_true, if_false, outcome_andThen_iff,
      outcome_check_iff, outcome_done, Except.ok.injEq, exists_eq_left', true_and]
    simp only [@eq_comm _ _ context]

end Preparation

/-! ## The parts of a report -/

namespace Context

/-- The entry file of the configuration of an architecture. -/
def entry (context : Context) (arch : String) : Path :=
  (context.archDirectory arch).child "Kconfig"

/-- How the configuration of an architecture is resolved. -/
def settings (context : Context) (arch : String) : Resolution.Settings where
  version := context.version
  includeAll := context.options.includeAll
  kernelRoot := some
    ((Resolution.findKernelRoot context.tree (context.entry arch) context.version).getD
      context.kernelPath)
  skipHelp := context.options.skipHelp

/-- The count of the lines of an architecture. -/
def counted (context : Context) (arch : String) : Except FileFailure LineStatistics :=
  (LineStatistics.ofDirectory context.tree context.exclusion (some context.kernelPath)
    (context.archDirectory arch)).1

/-- The resolution of the configuration of an architecture. -/
def resolution (context : Context) (arch : String) :
    Except Resolution.Failure Resolution.Result :=
  (Resolution.run context.tree (context.settings arch) (context.entry arch)).1

/-- The correlation of resolved components with code. -/
def correlation (context : Context) (resolved : Resolution.Result) :
    Except FileFailure Correlation.Result :=
  (Correlation.run context.tree context.exclusion (some context.kernelPath)
    resolved.table resolved.sourceDirectories).result

/-- The title or the names of the components cannot be shown. -/
def Unshowable (context : Context) (arch : String) (names : List String)
    (failure : Report.Markup.Failure) : Prop :=
  Report.rule (context.title arch) = .error failure ∨
    (∃ rule, Report.rule (context.title arch) = .ok rule) ∧
      Report.componentGrid names = .error failure

end Context

section Report

variable {context : Context} {arch : String} {reason : Stop}

theorem stops_reportLines_iff :
    (context.reportLines arch).Stops reason ↔
      (∃ failure, context.counted arch = .error failure ∧
        reason = .fault (.file failure)) ∨
        (∃ statistics, context.counted arch = .ok statistics) ∧
          ∃ failure, Report.rule (context.title arch) = .error failure ∧
            reason = .fault (.markup failure) := by
  unfold Context.reportLines
  simp only [bind_eq_andThen, stops_andThen_iff, stops_logged_iff, outcome_logged_iff,
    stops_check_iff, not_stops_write, and_false, exists_false,
    or_false, ← exists_and_right]
  rfl

/-- Why a run stops without a resolution: what is refused of the entry file is
reported. -/
def resolutionStop : Resolution.Failure → Stop
  | .unreadableEntry .. => .exit 2
  | .fault failure => .fault (.resolution (.fault failure))

/-- A resolution is logged, and its issues or what is refused of its entry file
are complained about. -/
theorem resolve_eq (context : Context) (arch : String) :
    ∃ log, context.resolve arch =
      (write (.note log)).andThen fun _ =>
        match context.resolution arch with
        | .ok result => (write (.complain (issueLines result.issues))).andThen fun _ =>
            done result
        | .error (.unreadableEntry place cause) =>
          let message := (Resolution.Failure.unreadableEntry place cause).message
          giveUp s!"Kconfig resolution failed (error={message})" message
        | .error failure => stop (.fault (.resolution failure)) :=
  ⟨(Resolution.run context.tree (context.settings arch) (context.entry arch)).2, rfl⟩

theorem stops_resolve_iff :
    (context.resolve arch).Stops reason ↔
      ∃ failure, context.resolution arch = .error failure ∧
        reason = resolutionStop failure := by
  obtain ⟨log, resolve_eq⟩ := resolve_eq context arch
  rw [resolve_eq]
  rcases context.resolution arch with (_ | failure) | resolved <;>
    simp [stops_andThen_iff, resolutionStop]

theorem outcome_resolve_iff {resolved : Resolution.Result} :
    (context.resolve arch).outcome = .ok resolved ↔
      context.resolution arch = .ok resolved := by
  obtain ⟨log, resolve_eq⟩ := resolve_eq context arch
  rw [resolve_eq]
  rcases context.resolution arch with (_ | failure) | other <;>
    simp [outcome_andThen_iff, giveUp, stop]

theorem stops_correlate_iff {resolved : Resolution.Result} :
    (context.correlate resolved).Stops reason ↔
      context.options.kconfigCode = true ∧
        ∃ failure, context.correlation resolved = .error failure ∧
          reason = .fault (.file failure) := by
  unfold Context.correlate
  split
  next wanted =>
    simp only [bind_eq_andThen, pure_eq_done, stops_andThen_iff,
      stops_logged_iff, wanted, not_stops_write, not_stops_done, and_false,
      exists_false, or_false, true_and]
    rfl
  next unwanted =>
    simp [unwanted]

/-- A correlation leaves the components as they are named. -/
theorem names_of_outcome_correlate
    {resolved : Resolution.Result} {found : Table × Option Correlation.Result}
    (correlated : (context.correlate resolved).outcome = .ok found) :
    found.1.names = resolved.table.names := by
  unfold Context.correlate at correlated
  split at correlated
  · simp only [bind_eq_andThen, pure_eq_done, outcome_andThen_iff, outcome_done,
      Except.ok.injEq] at correlated
    obtain ⟨result, -, -, -, rfl⟩ := correlated
    unfold Correlation.run
    dsimp only
    split <;> exact Correlation.names_foldl_attach _ _
  · obtain rfl := Except.ok.inj correlated
    rfl

theorem stops_reportComponents_iff {table : Table}
    {correlation : Option Correlation.Result} :
    (context.reportComponents arch table correlation).Stops reason ↔
      ∃ failure, context.Unshowable arch table.names failure ∧
        reason = .fault (.markup failure) := by
  unfold Context.reportComponents Context.Unshowable
  simp only [bind_eq_andThen, stops_andThen_iff, stops_check_iff, outcome_check_iff,
    not_stops_write, false_or, outcome_write]
  cases Report.rule (context.title arch) with
  | error failure => simp
  | ok rule => cases correlation <;> simp

/-- What stops a run at the configuration of an architecture: its resolution, the
correlation with code, or what is to be shown of both. -/
def Context.HaltsConfiguration (context : Context) (arch : String)
    (reason : Stop) : Prop :=
  (context.resolve arch).Stops reason ∨
    ∃ resolved, context.resolution arch = .ok resolved ∧
      ((context.correlate resolved).Stops reason ∨
        (∀ other, ¬ (context.correlate resolved).Stops other) ∧
          ∃ failure, context.Unshowable arch resolved.table.names failure ∧
            reason = .fault (.markup failure))

/-- The lookups behind a report do not stop a run. -/
theorem stops_inspectConfiguration_iff {input : List Char} :
    (context.inspectConfiguration arch input).Stops reason ↔
      context.HaltsConfiguration arch reason := by
  unfold Context.inspectConfiguration Context.HaltsConfiguration
  simp only [bind_eq_andThen, pure_eq_done]
  rw [stops_andThen_iff]
  simp only [outcome_resolve_iff]
  refine or_congr_right (exists_congr fun resolved => and_congr_right fun _ => ?_)
  rw [stops_andThen_iff, ← exists_outcome_iff, ← exists_and_right]
  refine or_congr_right (exists_congr fun found => and_congr_right fun correlated => ?_)
  rw [stops_andThen_iff, stops_reportComponents_iff,
    names_of_outcome_correlate correlated]
  refine or_iff_left ?_
  rintro ⟨_, -, stops⟩
  split at stops
  · exact not_stops_done _ stops
  · simp [stops_andThen_iff] at stops

end Report

/-! ## Architectures -/

/-- Whether the lines of architectures are to be reported. -/
def Context.wantsLines (context : Context) : Bool :=
  context.options.lines || !context.options.kconfig

/-- What stops a run at an architecture. -/
inductive Context.Halts (context : Context) (arch : String) : Stop → Prop
  /-- The path of the directory cannot be inspected. -/
  | refused {failure : FileFailure} :
    context.tree.isDirectory (context.archDirectory arch) = .error failure →
    Halts context arch (.fault (.file failure))
  /-- There is no directory. -/
  | absent :
    context.tree.isDirectory (context.archDirectory arch) = .ok false →
    Halts context arch (.exit 2)
  /-- The report on the lines stops the run. -/
  | lines {reason : Stop} :
    context.tree.isDirectory (context.archDirectory arch) = .ok true →
    context.wantsLines = true →
    (context.reportLines arch).Stops reason →
    Halts context arch reason
  /-- The report on the configuration, behind that on the lines, stops the run. -/
  | configuration {reason : Stop} :
    context.tree.isDirectory (context.archDirectory arch) = .ok true →
    (context.wantsLines = true → ∀ other, ¬ (context.reportLines arch).Stops other) →
    context.options.kconfig = true →
    context.HaltsConfiguration arch reason →
    Halts context arch reason

section Architectures

variable {context : Context} {arch : String} {reason : Stop}

/-- The reports on an architecture that has its directory. -/
def Context.reports (context : Context) (arch : String) (input : List Char) :
    Work (List Char) :=
  if context.wantsLines then
    (context.reportLines arch).andThen fun _ =>
      if context.options.kconfig then context.inspectConfiguration arch input
      else done input
  else if context.options.kconfig then context.inspectConfiguration arch input
  else done input

theorem stops_reports_iff {input : List Char} :
    (context.reports arch input).Stops reason ↔
      (context.wantsLines = true ∧ (context.reportLines arch).Stops reason) ∨
        (context.wantsLines = true → ∀ other,
          ¬ (context.reportLines arch).Stops other) ∧
          context.options.kconfig = true ∧ context.HaltsConfiguration arch reason := by
  have configuration :
      (if context.options.kconfig then context.inspectConfiguration arch input
        else done input).Stops reason ↔
          context.options.kconfig = true ∧ context.HaltsConfiguration arch reason := by
    cases asked : context.options.kconfig with
    | true => simpa using stops_inspectConfiguration_iff
    | false => simp
  unfold Context.reports
  cases wanted : context.wantsLines with
  | true =>
      rw [if_pos rfl, stops_andThen_iff, exists_and_right, exists_outcome_iff,
        configuration]
      simp
  | false =>
      rw [if_neg (by decide), configuration]
      simp

/-- An architecture without its directory is given up, behind a log entry, and any
other one is reported on. -/
theorem exists_inspect_eq (context : Context) (arch : String) (input : List Char) :
    ∃ entries warning,
      context.inspect arch input =
        (write (.note entries)).andThen fun _ =>
          (check Failure.file
            (context.tree.isDirectory (context.archDirectory arch))).andThen
              fun present =>
              if !present then
                giveUp warning ("Architecture directory does not exist: " ++
                  (context.archDirectory arch).toString)
              else context.reports arch input :=
  ⟨_, _, rfl⟩

theorem stops_inspect_iff {input : List Char} :
    (context.inspect arch input).Stops reason ↔ context.Halts arch reason := by
  obtain ⟨entries, warning, inspect_eq⟩ := exists_inspect_eq context arch input
  simp only [inspect_eq, stops_andThen_iff, not_stops_write, outcome_write, false_or,
    exists_const, true_and, stops_check_iff, outcome_check_iff]
  constructor
  · rintro (⟨failure, refused, rfl⟩ | ⟨_ | _, found, stops⟩)
    · exact .refused refused
    · obtain rfl := stops_giveUp_iff.mp stops
      exact .absent found
    · rcases stops_reports_iff.mp stops with ⟨wanted, lines⟩ | ⟨ends, asked, halts⟩
      · exact .lines found wanted lines
      · exact .configuration found ends asked halts
  · rintro (refused | absent | ⟨found, wanted, lines⟩ | ⟨found, ends, asked, halts⟩)
    · exact .inl ⟨_, refused, rfl⟩
    · exact .inr ⟨false, absent, stops_giveUp_iff.mpr rfl⟩
    · exact .inr ⟨true, found, stops_reports_iff.mpr (.inl ⟨wanted, lines⟩)⟩
    · exact .inr ⟨true, found, stops_reports_iff.mpr (.inr ⟨ends, asked, halts⟩)⟩

/-- The reports on architectures stop a run at the first architecture that does. -/
theorem stops_inspectAll_iff {arches : List String} {input : List Char} :
    (context.inspectAll arches input).Stops reason ↔
      ∃ before arch behind, arches = before ++ arch :: behind ∧
        (∀ earlier ∈ before, ∀ other, ¬ context.Halts earlier other) ∧
        context.Halts arch reason := by
  induction arches generalizing input with
  | nil =>
      refine iff_of_false (not_stops_done input) ?_
      rintro ⟨before, arch, behind, split, -⟩
      simp at split
  | cons first others inductionHypothesis =>
      rw [Context.inspectAll, bind_eq_andThen, stops_andThen_iff, stops_inspect_iff]
      simp only [inductionHypothesis]
      constructor
      · rintro (halts | ⟨left, reported, before, arch, behind, rfl, ends, halts⟩)
        · exact ⟨[], first, others, rfl, by simp, halts⟩
        · refine ⟨first :: before, arch, behind, rfl, ?_, halts⟩
          refine List.forall_mem_cons.mpr ⟨fun other => ?_, ends⟩
          rw [← @stops_inspect_iff context first other input]
          exact exists_outcome_iff.mp ⟨left, reported⟩ other
      · rintro ⟨before, arch, behind, split, ends, halts⟩
        cases before with
        | nil =>
            obtain ⟨rfl, rfl⟩ := List.cons.inj split
            exact .inl halts
        | cons earlier before =>
            obtain ⟨rfl, rfl⟩ := List.cons.inj split
            obtain ⟨endsFirst, endsBefore⟩ := List.forall_mem_cons.mp ends
            obtain ⟨left, reported⟩ :=
              (@exists_outcome_iff _ (context.inspect first input)).mpr
                fun other => by rw [stops_inspect_iff]; exact endsFirst other
            exact .inr ⟨left, reported, before, arch, behind, rfl, endsBefore, halts⟩

/-- The reports on architectures come to their end exactly if none of these stops the
run. -/
theorem ends_inspectAll_iff {arches : List String} {input : List Char} :
    (∃ left, (context.inspectAll arches input).outcome = .ok left) ↔
      ∀ arch ∈ arches, ∀ other, ¬ context.Halts arch other := by
  induction arches generalizing input with
  | nil => exact iff_of_true ⟨input, rfl⟩ (by simp)
  | cons first others inductionHypothesis =>
      have ends : (∃ left, (context.inspect first input).outcome = .ok left) ↔
          ∀ other, ¬ context.Halts first other := by
        rw [exists_outcome_iff]
        exact forall_congr' fun other => not_congr stops_inspect_iff
      rw [Context.inspectAll, bind_eq_andThen, List.forall_mem_cons, ← ends]
      simp only [outcome_andThen_iff]
      constructor
      · rintro ⟨last, left, reported, rest⟩
        exact ⟨⟨left, reported⟩, inductionHypothesis.mp ⟨last, rest⟩⟩
      · rintro ⟨⟨left, reported⟩, rest⟩
        obtain ⟨last, reportedRest⟩ := (@inductionHypothesis left).mpr rest
        exact ⟨last, left, reported, reportedRest⟩

/-- The options ask for something that can be done, for at least one architecture. -/
def Options.Asks (options : Options) (arches : List String) : Prop :=
  (options.kconfigCode = true → options.kconfig = true) ∧
    ∃ list, options.arch = some list ∧ Architecture.list list = .ok arches

section Runs

variable {tree : FileTree} {options : Options} {input : List Char}

theorem asks_iff_of_used
    (used : options.kconfigCode = true → options.kconfig = true)
    (arches : List String) :
    options.Asks arches ↔
      ∃ list, options.arch = some list ∧ Architecture.list list = .ok arches :=
  and_iff_right used

/-- A run checks its options, and reports on the architectures that these ask for. -/
theorem runOptions_eq_of_used
    (used : options.kconfigCode = true → options.kconfig = true) :
    runOptions tree options input =
      (needed .arch options.arch).andThen fun list =>
        match Architecture.list list with
        | .error failure =>
          giveUp s!"Invalid arch argument (arch={list} error={failure.message})"
            s!"Invalid arch: {list}"
        | .ok arches =>
          (prepare tree options).andThen fun context =>
            context.inspectAll arches input := by
  rw [runOptions, if_neg (by simpa using used)]
  rfl

/-- A run stops at its options, at its preparation, or at the first
architecture that stops it. -/
theorem stops_runOptions_iff :
    (runOptions tree options input).Stops reason ↔
      (options.kconfigCode = true ∧ options.kconfig = false ∧ reason = .exit 2) ∨
        ((options.kconfigCode = true → options.kconfig = true) ∧ options.arch = none ∧
          reason = .fault (.valueless .arch)) ∨
        ((options.kconfigCode = true → options.kconfig = true) ∧
          (∃ list, options.arch = some list ∧
            Architecture.list list = .error .noneNamed) ∧
          reason = .exit 2) ∨
        ∃ arches, options.Asks arches ∧
          ((prepare tree options).Stops reason ∨
            ∃ context, (prepare tree options).outcome = .ok context ∧
              (context.inspectAll arches input).Stops reason) := by
  by_cases used : options.kconfigCode = true → options.kconfig = true
  · have noMisuse :
        ¬ (options.kconfigCode = true ∧ options.kconfig = false ∧ reason = .exit 2) :=
      fun ⟨asked, unresolved, _⟩ => by simp [used asked] at unresolved
    rw [or_iff_right noMisuse, and_iff_right used, and_iff_right used]
    simp only [runOptions_eq_of_used used, asks_iff_of_used used]
    rw [stops_andThen_iff, stops_needed_iff]
    simp only [outcome_needed_iff]
    cases given : options.arch with
    | none => simp
    | some list =>
        cases listed : Architecture.list list with
        | error failure =>
            cases failure
            simp [listed]
        | ok arches => simp [listed, stops_andThen_iff]
  · obtain ⟨asked, unresolved⟩ : options.kconfigCode = true ∧
      options.kconfig = false := by
      simpa using used
    rw [runOptions, if_pos (by simpa using used)]
    simp [Options.Asks, asked, unresolved]

theorem outcome_runOptions_iff {left : List Char} :
    (runOptions tree options input).outcome = .ok left ↔
      ∃ arches, options.Asks arches ∧
        ∃ context, (prepare tree options).outcome = .ok context ∧
          (context.inspectAll arches input).outcome = .ok left := by
  by_cases used : options.kconfigCode = true → options.kconfig = true
  · simp only [runOptions_eq_of_used used, asks_iff_of_used used, outcome_andThen_iff,
      outcome_needed_iff]
    cases given : options.arch with
    | none => simp
    | some list =>
        cases listed : Architecture.list list with
        | error failure => simp [listed, giveUp]
        | ok arches => simp [listed, outcome_andThen_iff]
  · rw [runOptions, if_pos (by simpa using used)]
    simp [Options.Asks, used, giveUp]

end Runs

/-! ## Exit codes -/

/-- The configuration of an architecture stops a run with an exit code only if its entry
file cannot be opened. -/
theorem of_haltsConfiguration_exit
    {code : Nat}
    (halts : context.HaltsConfiguration arch (.exit code)) :
    code = 2 ∧ ∃ place cause,
      context.resolution arch = .error (.unreadableEntry place cause) := by
  rcases halts with stops | ⟨resolved, -, stops | ⟨-, failure, -, same⟩⟩
  · obtain ⟨failure, failed, same⟩ := stops_resolve_iff.mp stops
    cases failure with
    | unreadableEntry place cause =>
        cases same
        exact ⟨rfl, _, _, failed⟩
    | fault failure => cases same
  · obtain ⟨-, failure, -, same⟩ := stops_correlate_iff.mp stops
    cases same
  · cases same

theorem not_stops_reportLines_exit {code : Nat} :
    ¬ (context.reportLines arch).Stops (.exit code) := by
  simp [stops_reportLines_iff]

theorem eq_two_of_halts_exit
    {code : Nat}
    (halts : context.Halts arch (.exit code)) :
    code = 2 := by
  cases halts with
  | absent => rfl
  | lines _ _ stops => exact absurd stops not_stops_reportLines_exit
  | configuration _ _ _ halts => exact (of_haltsConfiguration_exit halts).1

theorem eq_two_of_stops_prepare_exit
    {tree : FileTree} {options : Options} {code : Nat}
    (stops : (prepare tree options).Stops (.exit code)) :
    code = 2 := by
  rcases stops_prepare_iff.mp stops with
    ⟨-, same⟩ |
      ⟨text, -, ⟨failure, -, same⟩ | ⟨-, same⟩ | ⟨-, stops | ⟨_, -, failure, -, same⟩⟩⟩
  · cases same
  · cases same
  · cases same
    rfl
  · obtain ⟨failure, -, same⟩ := stops_versionOf_iff.mp stops
    cases failure with
    | unreadable _ _ | missing _ _ =>
        cases same
        rfl
    | fault failure => cases same
  · cases same

/-- No run is stopped with the exit code of a run that comes to its end. -/
theorem stopsNonzero_prepare (tree : FileTree) (options : Options) :
    (prepare tree options).StopsNonzero :=
  fun stops => absurd (eq_two_of_stops_prepare_exit stops) (by decide)

theorem stopsNonzero_inspect (context : Context) (arch : String) (input : List Char) :
    (context.inspect arch input).StopsNonzero :=
  fun stops => absurd (eq_two_of_halts_exit (stops_inspect_iff.mp stops)) (by decide)

end Architectures

end Command
end KernelInventory
