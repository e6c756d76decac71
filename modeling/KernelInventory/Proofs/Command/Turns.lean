import KernelInventory.Proofs.Command.Architecture
import KernelInventory.Proofs.Command.Options
import KernelInventory.Proofs.Command.Stops
import KernelInventory.Proofs.FileTree.AtPath

/-!
# Architectures in turn

A run for several architectures shows what runs for each of them alone show, one after
the other, until one of these runs does not end well.  Each of them reads what the one
before has left of the input, and nothing else passes from one architecture to another.
-/

namespace KernelInventory

namespace Transcript

/-- Two transcripts show the same on the output streams. -/
structure SameOutput (left right : Transcript) : Prop where
  stdout : left.stdout = right.stdout
  stderr : left.stderr = right.stderr

namespace SameOutput

theorem refl (transcript : Transcript) : SameOutput transcript transcript := ⟨rfl, rfl⟩

theorem symm
    {left right : Transcript}
    (same : SameOutput left right) :
    SameOutput right left :=
  ⟨same.stdout.symm, same.stderr.symm⟩

theorem trans
    {first second third : Transcript}
    (same : SameOutput first second)
    (further : SameOutput second third) :
    SameOutput first third :=
  ⟨same.stdout.trans further.stdout, same.stderr.trans further.stderr⟩

theorem append
    {left right leftMore rightMore : Transcript}
    (same : SameOutput left right)
    (sameMore : SameOutput leftMore rightMore) :
    SameOutput (left ++ leftMore) (right ++ rightMore) := by
  constructor
  · rw [stdout_append, stdout_append, same.stdout, sameMore.stdout]
  · rw [stderr_append, stderr_append, same.stderr, sameMore.stderr]

/-- Neither the log nor what shows nothing changes what is shown. -/
theorem above_quiet_append
    {quiet : Transcript}
    (silent : quiet.stdout = "" ∧ quiet.stderr = "")
    (level : LogLevel) (transcript : Transcript) :
    SameOutput transcript ((quiet ++ transcript).above level) := by
  constructor
  · rw [above, stdout_append, silent.1, String.empty_append]
  · rw [above, stderr_append, silent.2, String.empty_append]

end SameOutput
end Transcript

namespace Command

open Work

/-! ## What the architectures have in common -/

/-- What architectures have in common, for another list of them. -/
def Context.withArch (context : Context) (list : Option String) : Context :=
  { context with options := context.options.withArch list }

section Common

variable (context : Context) (list : Option String) (input : List Char)

/-- The report on an architecture does not depend on the list that it is in. -/
theorem Context.inspect_withArch (arch : String) :
    (context.withArch list).inspect arch input = context.inspect arch input := rfl

theorem Context.inspectAll_withArch (arches : List String) :
    (context.withArch list).inspectAll arches input = context.inspectAll arches
      input := by
  induction arches generalizing input with
  | nil => rfl
  | cons arch others inductionHypothesis =>
      simp only [Context.inspectAll, bind_eq_andThen]
      rw [Context.inspect_withArch]
      exact congrArg _ (funext inductionHypothesis)

theorem prepare_withArch (tree : FileTree) (options : Options) :
    prepare tree (options.withArch list) =
      (prepare tree options).andThen fun context => done (context.withArch list) := by
  unfold prepare
  simp only [bind_eq_andThen, pure_eq_done, andThen_assoc]
  refine congrArg _ (funext fun kernelPath => congrArg _ (funext fun present => ?_))
  split
  · rfl
  · rw [andThen_assoc]
    refine congrArg _ (funext fun version => ?_)
    change (if options.exclude.isEmpty then _ else _) =
      (if options.exclude.isEmpty then _ else _ : Work Context).andThen _
    split
    · simp only [done_andThen]
      rfl
    · simp only [andThen_assoc, done_andThen]
      rfl

end Common

/-! ## Runs for several lists -/

section Runs

variable {tree : FileTree} {options : Options} {list : String} {arches : List String}
  {input : List Char}

/-- Whether the options ask for code to be attached to components that are not
resolved. -/
def Options.isMisused (options : Options) : Bool :=
  options.kconfigCode && !options.kconfig

theorem runOptions_of_isMisused (misused : options.isMisused = true) :
    runOptions tree options input =
      giveUp "Usage error (--kconfig-code given without --kconfig)"
        "--kconfig-code requires --kconfig" := by
  rw [runOptions]
  exact if_pos misused

theorem runOptions_withArch
    (used : options.isMisused = false)
    (noDashes : list ≠ "--")
    (named : Architecture.list list = .ok arches) :
    runOptions tree (options.withArch (Options.archOf list)) input =
      (prepare tree options).andThen fun context =>
        context.inspectAll arches input := by
  have usedHere : ¬ ((options.withArch (Options.archOf list)).kconfigCode &&
      !(options.withArch (Options.archOf list)).kconfig) = true :=
        Bool.eq_false_iff.mp used
  have value : (options.withArch (Options.archOf list)).arch = some list :=
    if_neg noDashes
  rw [runOptions, if_neg usedHere, value, needed, bind_eq_andThen, done_andThen, named]
  simp only [bind_eq_andThen, prepare_withArch, andThen_assoc, done_andThen,
    Context.inspectAll_withArch]

theorem runOptions_of_prepared
    (used : options.isMisused = false)
    {context : Context}
    (prepared : (prepare tree options).outcome = .ok context)
    {arch : String}
    (noDashes : arch ≠ "--")
    (isName : Architecture.IsName arch) :
    runOptions tree (options.withArch (Options.archOf arch)) input =
      ⟨(prepare tree options).transcript ++ (context.inspect arch input).transcript,
        (context.inspect arch input).outcome⟩ := by
  have single : context.inspectAll [arch] input = context.inspect arch input :=
    andThen_done _
  rw [runOptions_withArch used noDashes (Architecture.list_name isName),
    andThen_of_ok prepared, single]

theorem runOptions_dashes (used : options.isMisused = false) :
    runOptions tree (options.withArch (Options.archOf "--")) input =
      stop (.fault (.valueless .arch)) := by
  rw [runOptions]
  exact if_neg (Bool.eq_false_iff.mp used)

end Runs

/-- What a run that comes to its end leaves of its input. -/
def inputAfter (tree : FileTree) (arguments : List String) (input : List Char) :
    List Char :=
  match Options.ofArguments arguments with
  | .error _ => input
  | .ok options =>
    match (runOptions tree options input).outcome with
    | .ok left => left
    | .error _ => []

/-- Run the command for one architecture after the other, each with what is left of the
input, up to the first run that does not end well. -/
def runInTurn (tree : FileTree) (threshold : LogLevel)
    (argumentsFor : String → List String) :
    List String → List Char → Transcript × Except Failure Nat
  | [], _ => (.empty, .ok 0)
  | arch :: others, input =>
    let (transcript, outcome) := run tree threshold (argumentsFor arch) input
    if outcome = .ok 0 then
      let left := inputAfter tree (argumentsFor arch) input
      let (more, last) := runInTurn tree threshold argumentsFor others left
      (transcript ++ more, last)
    else (transcript, outcome)

section Turns

variable {tree : FileTree} {threshold : LogLevel} {argumentsFor : String → List String}
  {arch : String} {others : List String} {input : List Char}

theorem runInTurn_of_stop
    (stops : (run tree threshold (argumentsFor arch) input).2 ≠ .ok 0) :
    runInTurn tree threshold argumentsFor (arch :: others) input =
      run tree threshold (argumentsFor arch) input :=
  if_neg stops

theorem runInTurn_of_end
    {left : List Char}
    (ends : (run tree threshold (argumentsFor arch) input).2 = .ok 0)
    (leaves : inputAfter tree (argumentsFor arch) input = left) :
    runInTurn tree threshold argumentsFor (arch :: others) input =
      ((run tree threshold (argumentsFor arch) input).1 ++
          (runInTurn tree threshold argumentsFor others left).1,
        (runInTurn tree threshold argumentsFor others left).2) := by
  rw [← leaves]
  exact if_pos ends

theorem exitOf_ne_zero
    {α β : Type} {work : Work α} {reason : Stop}
    (nonzero : work.StopsNonzero)
    (stops : work.outcome = .error reason) :
    exitOf (.error reason : Except Stop β) ≠ .ok 0 := by
  cases reason with
  | fault failure => nofun
  | exit code =>
      rintro ⟨⟩
      exact nonzero stops

/-! ## One command line for each list -/

variable {common : Options} {level : LogLevel}

/-- The command lines for lists of architectures give the same options, each with its
list. -/
def ParsedAs (argumentsFor : String → List String) (common : Options) : Prop :=
  ∀ list, Options.ofArguments (argumentsFor list) =
    .ok (common.withArch (Options.archOf list))

theorem run_of_parsedAs
    (parsed : ParsedAs argumentsFor common)
    (leveled : common.logLevel = some level)
    (list : String) :
    run tree threshold (argumentsFor list) input =
      ((runOptions tree (common.withArch (Options.archOf list))
          input).transcript.above level,
        exitOf
          (runOptions tree (common.withArch (Options.archOf list)) input).outcome) := by
  have same : (common.withArch (Options.archOf list)).logLevel = some level := leveled
  rw [run, parsed list]
  dsimp only
  rw [same]

theorem run_of_parsedAs_unleveled
    (parsed : ParsedAs argumentsFor common)
    (unleveled : common.logLevel = none)
    (list : String) :
    run tree threshold (argumentsFor list) input =
      (.empty, .error (.valueless .logLevel)) := by
  have same : (common.withArch (Options.archOf list)).logLevel = none := unleveled
  rw [run, parsed list]
  dsimp only
  rw [same]

theorem run_of_parsedAs_misused
    (parsed : ParsedAs argumentsFor common)
    (leveled : common.logLevel = some level)
    (misused : common.isMisused = true)
    (list : String) :
    run tree threshold (argumentsFor list) input =
      ((giveUp "Usage error (--kconfig-code given without --kconfig)"
        "--kconfig-code requires --kconfig" : Work Unit).transcript.above level,
          .ok 2) := by
  have misusedHere : (common.withArch (Options.archOf list)).isMisused = true := misused
  rw [run_of_parsedAs parsed leveled, runOptions_of_isMisused misusedHere]
  rfl

theorem run_of_parsedAs_unprepared
    (parsed : ParsedAs argumentsFor common)
    (leveled : common.logLevel = some level)
    (used : common.isMisused = false)
    {reason : Stop}
    (unprepared : (prepare tree common).outcome = .error reason)
    {list : String} {arches : List String}
    (noDashes : list ≠ "--")
    (named : Architecture.list list = .ok arches) :
    run tree threshold (argumentsFor list) input =
      ((prepare tree common).transcript.above level,
        exitOf (.error reason : Except Stop (List Char))) := by
  rw [run_of_parsedAs parsed leveled, runOptions_withArch used noDashes named,
    andThen_of_error unprepared]

theorem inputAfter_of_parsedAs
    (parsed : ParsedAs argumentsFor common)
    {list : String} {left : List Char}
    (ends : (runOptions tree (common.withArch (Options.archOf list)) input).outcome =
      .ok left) :
    inputAfter tree (argumentsFor list) input = left := by
  rw [inputAfter, parsed list]
  dsimp only
  rw [ends]

theorem head_ne_dashes
    (parsed : ParsedAs argumentsFor common)
    (leveled : common.logLevel = some level)
    (used : common.isMisused = false)
    (finishes : "--" ∈ arch :: others →
      ∃ code, (runInTurn tree threshold argumentsFor (arch :: others) input).2 =
        .ok code) :
    arch ≠ "--" := by
  rintro rfl
  have fails : (run tree threshold (argumentsFor "--") input).2 =
      .error (.valueless .arch) := by
    rw [run_of_parsedAs parsed leveled, runOptions_dashes used]
    rfl
  obtain ⟨code, finished⟩ := finishes List.mem_cons_self
  rw [runInTurn_of_stop (by rw [fails]; nofun), fails] at finished
  cases finished

/-- Behind what all architectures have in common, the reports on them are those of runs
for each of them, in turn. -/
theorem inspectAll_in_turn
    (parsed : ParsedAs argumentsFor common)
    (leveled : common.logLevel = some level)
    (used : common.isMisused = false)
    {context : Context}
    (prepared : (prepare tree common).outcome = .ok context)
    (arches : List String)
    (areNames : ∀ arch ∈ arches, Architecture.IsName arch)
    (finishes : "--" ∈ arches →
      ∃ code, (runInTurn tree threshold argumentsFor arches input).2 = .ok code) :
    (context.inspectAll arches input).transcript.SameOutput
        (runInTurn tree threshold argumentsFor arches input).1 ∧
      exitOf (context.inspectAll arches input).outcome =
        (runInTurn tree threshold argumentsFor arches input).2 := by
  induction arches generalizing input with
  | nil => exact ⟨Transcript.SameOutput.refl _, rfl⟩
  | cons arch others inductionHypothesis =>
      obtain ⟨isName, othersAreNames⟩ := List.forall_mem_cons.mp areNames
      have noDashes := head_ne_dashes parsed leveled used finishes
      have alone := @runOptions_of_prepared tree common input used context prepared
        arch noDashes isName
      have ran : run tree threshold (argumentsFor arch) input =
          (((prepare tree common).transcript ++
              (context.inspect arch input).transcript).above level,
            exitOf (context.inspect arch input).outcome) := by
        rw [run_of_parsedAs parsed leveled, alone]
      have shows := Transcript.SameOutput.above_quiet_append
        (quiet_prepare tree common context prepared) level
          (context.inspect arch input).transcript
      cases outcome : (context.inspect arch input).outcome with
      | error reason =>
          have stops : (run tree threshold (argumentsFor arch) input).2 ≠ .ok 0 := by
            rw [ran, outcome]
            exact exitOf_ne_zero (stopsNonzero_inspect context arch input) outcome
          rw [runInTurn_of_stop stops, Context.inspectAll, bind_eq_andThen,
            andThen_of_error outcome, ran, outcome]
          exact ⟨shows, rfl⟩
      | ok left =>
          have ends : (run tree threshold (argumentsFor arch) input).2 = .ok 0 := by
            rw [ran, outcome]
            rfl
          have leaves : inputAfter tree (argumentsFor arch) input = left :=
            inputAfter_of_parsedAs parsed (by rw [alone, outcome])
          rw [runInTurn_of_end ends leaves] at finishes ⊢
          obtain ⟨same, exits⟩ := inductionHypothesis othersAreNames
            fun dashes => finishes (List.mem_cons_of_mem arch dashes)
          rw [Context.inspectAll, bind_eq_andThen, andThen_of_ok outcome, ran]
          exact ⟨shows.append same, exits⟩

/-- A run that stops before it comes to the architectures stops in the same way
for each of them alone. -/
theorem run_eq_runInTurn_of_stop
    {ran : Transcript × Except Failure Nat} {list : String} {arches : List String}
    (nonempty : arches ≠ [])
    (joint : run tree threshold (argumentsFor list) input = ran)
    (alone : ∀ arch, arches.head? = some arch →
      run tree threshold (argumentsFor arch) input = ran)
    (stops : ran.2 ≠ .ok 0) :
    (run tree threshold (argumentsFor list) input).1.SameOutput
        (runInTurn tree threshold argumentsFor arches input).1 ∧
      (run tree threshold (argumentsFor list) input).2 =
        (runInTurn tree threshold argumentsFor arches input).2 := by
  cases arches with
  | nil => contradiction
  | cons arch others =>
      have same := alone arch rfl
      rw [runInTurn_of_stop (by rwa [same]), same, joint]
      exact ⟨Transcript.SameOutput.refl _, rfl⟩

theorem run_in_turn_of_parsedAs
    (parsed : ParsedAs argumentsFor common)
    {arches : List String}
    (nonempty : arches ≠ [])
    (distinct : arches.Nodup)
    (areNames : ∀ arch ∈ arches, Architecture.IsName arch)
    (finishes : "--" ∈ arches →
      ∃ code, (runInTurn tree threshold argumentsFor arches input).2 = .ok code) :
    (run tree threshold (argumentsFor (",".intercalate arches)) input).1.SameOutput
        (runInTurn tree threshold argumentsFor arches input).1 ∧
      (run tree threshold (argumentsFor (",".intercalate arches)) input).2 =
        (runInTurn tree threshold argumentsFor arches input).2 := by
  cases leveled : common.logLevel with
  | none =>
      have ran : ∀ list, run tree threshold (argumentsFor list) input = _ :=
        run_of_parsedAs_unleveled parsed leveled
      exact run_eq_runInTurn_of_stop nonempty (ran _) (fun arch _ => ran arch) nofun
  | some level =>
      cases used : common.isMisused with
      | true =>
          have ran : ∀ list, run tree threshold (argumentsFor list) input = _ :=
            run_of_parsedAs_misused parsed leveled used
          exact run_eq_runInTurn_of_stop nonempty (ran _) (fun arch _ => ran arch)
            (by rintro ⟨⟩)
      | false =>
          have listed := Architecture.list_intercalate nonempty distinct areNames
          have noDashes : ",".intercalate arches ≠ "--" := by
            intro same
            have isName : Architecture.IsName "--" := ⟨by decide, by decide, by decide⟩
            rw [same, Architecture.list_name isName] at listed
            obtain rfl := Except.ok.inj listed
            exact head_ne_dashes parsed leveled used finishes rfl
          cases prepared : (prepare tree common).outcome with
          | error reason =>
              refine run_eq_runInTurn_of_stop nonempty
                (run_of_parsedAs_unprepared parsed leveled used prepared noDashes
                  listed) ?_
                (exitOf_ne_zero (stopsNonzero_prepare tree common) prepared)
              intro arch isHead
              obtain ⟨others, rfl⟩ := List.head?_eq_some_iff.mp isHead
              exact run_of_parsedAs_unprepared parsed leveled used prepared
                (head_ne_dashes parsed leveled used finishes)
                (Architecture.list_name (areNames arch List.mem_cons_self))
          | ok context =>
              have shows := Transcript.SameOutput.above_quiet_append
                (quiet_prepare tree common context prepared) level
                (context.inspectAll arches input).transcript
              obtain ⟨same, exits⟩ :=
                inspectAll_in_turn parsed leveled used prepared arches areNames finishes
              rw [run_of_parsedAs parsed leveled,
                runOptions_withArch used noDashes listed, andThen_of_ok prepared]
              exact ⟨shows.symm.trans same, exits⟩

end Turns

/-! ## The command -/

/-- The command line with a list of architectures, and other arguments in
front of it and behind it. -/
def commandLine (front behind : List String) (list : String) : List String :=
  front ++ ("--arch=" ++ list) :: behind

/-! ## A kernel tree with one architecture -/

/-- The lines that state a version. -/
def versionText : String := "VERSION = 6\nPATCHLEVEL = 9\nSUBLEVEL = 5\n"

/-- A kernel tree with the directory of one architecture. -/
def archTree : FileTree :=
  ⟨[], [(["k"], .openDirectory),
    (["k", "Makefile"], .file (Text.Utf8.encode versionText.toList) true),
    (["k", "arch"], .openDirectory), (["k", "arch", "a"], .openDirectory)]⟩

/-- The options that ask for the lines of that tree. -/
def archOptions : Options := { kernelPath := some "/k", lines := true }

/-- What the reports on that tree have in common. -/
def archContext : Context := ⟨archTree, archOptions, ⟨.root, ["k"]⟩, "6.9.5", none⟩

theorem isDirectory_archTree :
    archTree.isDirectory ⟨.root, ["k"]⟩ = .ok true ∧
      archTree.isDirectory ⟨.root, ["k", "arch", "a"]⟩ = .ok true ∧
      archTree.isDirectory ⟨.root, ["k", "arch", "b"]⟩ = .ok false := by
  refine ⟨?_, ?_, ?_⟩
  all_goals cbv

theorem versionOf_archTree :
    (versionOf archTree ⟨.root, ["k"]⟩).outcome = .ok "6.9.5" := by
  have noNull : Path.hasNull ⟨.root, ["k", "Makefile"]⟩ = false := by cbv
  have located : archTree.locate true ⟨.root, ["k", "Makefile"]⟩ =
      .ok ["k", "Makefile"] := by cbv
  have read : archTree.readText ⟨.root, ["k", "Makefile"]⟩ = .ok versionText.toList :=
    FileTree.readText_of_node noNull located rfl
  have stated : KernelVersion.ofLines (Text.lines versionText.toList) =
      .ok "6.9.5" := by
    rfl
  simp [versionOf, KernelVersion.ofMakefile, Path.child, read, stated, andThen,
    write, done]

theorem prepare_archTree :
    (prepare archTree archOptions).outcome = .ok archContext := by
  have path : Path.ofString "/k" = ⟨.root, ["k"]⟩ := by decide
  simp [prepare, archOptions, needed, done_andThen, path, isDirectory_archTree, check,
    andThen_of_ok versionOf_archTree]
  rfl

theorem inspect_archTree :
    (archContext.inspect "a" []).outcome = .ok [] ∧
      (archContext.inspect "a" []).transcript.stderr = "" := by
  have directory : archContext.archDirectory "a" = ⟨.root, ["k", "arch", "a"]⟩ := by
    decide
  have present : archContext.tree.isDirectory ⟨.root, ["k", "arch", "a"]⟩ = .ok true :=
    isDirectory_archTree.2.1
  have counted : (LineStatistics.ofDirectory archTree none (some ⟨.root, ["k"]⟩)
      ⟨.root, ["k", "arch", "a"]⟩).1 = .ok [] := by cbv
  obtain ⟨rule, ruled⟩ : ∃ rule, Report.rule (archContext.title "a") = .ok rule := by
    have isOk : (Report.rule (archContext.title "a")).isOk = true := by decide +kernel
    cases same : Report.rule (archContext.title "a") with
    | error failure =>
        rw [same] at isOk
        cases isOk
    | ok rule => exact ⟨rule, rfl⟩
  have reported : ∃ table log,
      archContext.reportLines "a" = ⟨⟨table, "", log⟩, .ok ()⟩ := by
    rw [Context.reportLines, directory, ruled, logged, bind_eq_andThen]
    change ∃ table log, andThen ⟨_, (check _ (LineStatistics.ofDirectory archTree none
      (some ⟨.root, ["k"]⟩) ⟨.root, ["k", "arch", "a"]⟩).1).outcome⟩ _ = _
    rw [counted]
    exact ⟨_, _, rfl⟩
  obtain ⟨table, log, reported⟩ := reported
  rw [Context.inspect, directory, present]
  simp only [bind_eq_andThen, check, done_andThen, reported]
  exact ⟨rfl, rfl⟩

theorem inspect_archTree_missing :
    (archContext.inspect "b" []).outcome = .error (.exit 2) ∧
      (archContext.inspect "b" []).transcript.stdout = "" ∧
      (archContext.inspect "b" []).transcript.stderr =
        "Architecture directory does not exist: /k/arch/b\n" := by
  have directory : archContext.archDirectory "b" = ⟨.root, ["k", "arch", "b"]⟩ := by
    decide
  have absent : archContext.tree.isDirectory ⟨.root, ["k", "arch", "b"]⟩ = .ok false :=
    isDirectory_archTree.2.2
  have text : toString (⟨.root, ["k", "arch", "b"]⟩ : Path) = "/k/arch/b" := by decide
  rw [Context.inspect, directory, absent]
  simp only [bind_eq_andThen, check, done_andThen, text]
  exact ⟨rfl, rfl, rfl⟩

/-- The command line that asks for the lines of that tree. -/
def archLine : String → List String :=
  commandLine ["--kernel-path", "/k"] ["--lines"]

theorem last_archLine :
    ∀ argument ∈ ["--lines"], ∀ found,
      Argument.classify argument = .ok found → Options.setsArch found = false := by
  rw [List.forall_mem_singleton]
  intro found same
  have classified : Argument.classify "--lines" = .ok (.switch .lines .nothing) := by
    cbv
  obtain rfl := Except.ok.inj (classified.symm.trans same)
  rfl

theorem parsedAs_archLine : ParsedAs archLine archOptions := by
  have read : Options.ofArguments (archLine "a") =
      .ok (archOptions.withArch (some "a")) := by
    decide +kernel
  obtain ⟨common, parsed⟩ := Options.ofArguments_arch last_archLine read
  intro list
  have same := Except.ok.inj ((parsed "a").symm.trans read)
  have others :
      common.withArch (Options.archOf list) = archOptions.withArch
        (Options.archOf list) :=
    congrArg (·.withArch (Options.archOf list)) same
  exact (parsed list).trans (congrArg Except.ok others)

theorem run_archTree
    {arch : String}
    (noDashes : arch ≠ "--")
    (isName : Architecture.IsName arch) :
    (archContext.inspect arch []).transcript.SameOutput
        (run archTree .warning (archLine arch) []).1 ∧
      (run archTree .warning (archLine arch) []).2 =
        exitOf (archContext.inspect arch []).outcome := by
  rw [run_of_parsedAs parsedAs_archLine rfl,
    runOptions_of_prepared (by decide) prepare_archTree noDashes isName]
  exact ⟨Transcript.SameOutput.above_quiet_append
    (quiet_prepare archTree archOptions archContext prepare_archTree) _ _, rfl⟩

theorem runInTurn_archTree :
    (runInTurn archTree .warning archLine ["a", "b", "--"] []).1.stdout =
        (run archTree .warning (archLine "a") []).1.stdout ∧
      (runInTurn archTree .warning archLine ["a", "b", "--"] []).1.stderr =
        "Architecture directory does not exist: /k/arch/b\n" ∧
      (runInTurn archTree .warning archLine ["a", "b", "--"] []).2 = .ok 2 := by
  have isNameA : Architecture.IsName "a" := ⟨by decide, by decide, by decide⟩
  have isNameB : Architecture.IsName "b" := ⟨by decide, by decide, by decide⟩
  obtain ⟨outcomeA, stderrA⟩ := inspect_archTree
  obtain ⟨outcomeB, stdoutB, stderrB⟩ := inspect_archTree_missing
  obtain ⟨showsA, endsA⟩ := run_archTree (by decide) isNameA
  obtain ⟨showsB, endsB⟩ := run_archTree (by decide) isNameB
  rw [outcomeA] at endsA
  rw [outcomeB] at endsB
  have leaves : inputAfter archTree (archLine "a") [] = [] := by
    refine inputAfter_of_parsedAs parsedAs_archLine ?_
    rw [runOptions_of_prepared (by decide) prepare_archTree (by decide) isNameA,
      outcomeA]
  have stops : (run archTree .warning (archLine "b") []).2 ≠ .ok 0 := by
    rw [endsB]
    rintro ⟨⟩
  rw [runInTurn_of_end endsA leaves, runInTurn_of_stop stops]
  refine ⟨?_, ?_, endsB⟩
  · rw [Transcript.stdout_append, ← showsB.stdout, stdoutB, String.append_empty]
  · rw [Transcript.stderr_append, ← showsA.stderr, stderrA, ← showsB.stderr, stderrB,
      String.empty_append]

/-- A run for several architectures writes what runs for each of them alone write, one
after the other, and ends like the last of these.  Only the name `--` by itself is no
list of architectures, so that a run for it alone fails. -/
theorem run_shows_runs_in_turn
    {tree : FileTree} {threshold : LogLevel} {front behind arches : List String}
    {input : List Char} {options : Options}
    (nonempty : arches ≠ [])
    (distinct : arches.Nodup)
    (areNames : ∀ arch ∈ arches, Architecture.IsName arch)
    (last : ∀ argument ∈ behind, ∀ found,
      Argument.classify argument = .ok found → Options.setsArch found = false)
    (accepted :
      Options.ofArguments (commandLine front behind (",".intercalate arches)) =
        .ok options)
    (finishes : "--" ∈ arches →
      ∃ code, (runInTurn tree threshold (commandLine front behind) arches input).2 =
        .ok code) :
    let joint :=
      run tree threshold (commandLine front behind (",".intercalate arches)) input
    let inTurn := runInTurn tree threshold (commandLine front behind) arches input
    joint.1.stdout = inTurn.1.stdout ∧ joint.1.stderr = inTurn.1.stderr ∧
      joint.2 = inTurn.2 := by
  obtain ⟨common, parsed⟩ := Options.ofArguments_arch last accepted
  obtain ⟨shows, ends⟩ :=
    run_in_turn_of_parsedAs parsed nonempty distinct areNames finishes
  exact ⟨shows.stdout, shows.stderr, ends⟩

/-- Of three architectures, the first one is reported, the second one has no directory,
and the third one could not be named alone. -/
theorem run_shows_runs_in_turn_missing :
    (run archTree .warning (archLine "a,b,--") []).1.stdout =
        (run archTree .warning (archLine "a") []).1.stdout ∧
      (run archTree .warning (archLine "a,b,--") []).1.stderr =
        "Architecture directory does not exist: /k/arch/b\n" ∧
      (run archTree .warning (archLine "a,b,--") []).2 = .ok 2 := by
  have areNames : ∀ arch ∈ ["a", "b", "--"], Architecture.IsName arch := by
    simp only [List.forall_mem_cons]
    refine ⟨?_, ?_, ?_, nofun⟩
    all_goals exact ⟨by decide, by decide, by decide⟩
  obtain ⟨stdoutInTurn, stderrInTurn, endsInTurn⟩ := runInTurn_archTree
  obtain ⟨stdout, stderr, ends⟩ :=
    run_shows_runs_in_turn (List.cons_ne_nil _ _) (by decide) areNames last_archLine
      (parsedAs_archLine _) fun _ => ⟨2, endsInTurn⟩
  exact ⟨stdout.trans stdoutInTurn, stderr.trans stderrInTurn, ends.trans endsInTurn⟩

end Command
end KernelInventory
