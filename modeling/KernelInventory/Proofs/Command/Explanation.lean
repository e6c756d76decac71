import KernelInventory.Proofs.Command.ExitCode

/-!
# What a failing run says

A run that is stopped with an exit code ends its complaints with a message, and
the message tells what is missing: a use of the options that makes no sense, no
architecture, no kernel tree, no version, no directory of an architecture or no
entry file.  Arguments that are refused are explained as well.  Only a request
for help, which is answered on the standard output, has the exit code of a
failure without any complaint.
-/

namespace KernelInventory

/-! ## Messages -/

/-- A text whose beginning says something says something. -/
theorem append_ne_empty
    {first : String}
    (rest : String)
    (speaks : first ≠ "") :
    first ++ rest ≠ "" :=
  fun silent => speaks (String.append_eq_empty_iff.mp silent).1

theorem FileFailure.message_ne_empty (failure : FileFailure) :
    failure.message ≠ "" := by
  cases failure with
  | refused error path =>
      iterate 5 refine append_ne_empty _ ?_
      decide
  | linkLoop path => exact append_ne_empty _ (by decide)
  | nullByte => decide

theorem KernelVersion.Failure.message_ne_empty (failure : Failure) :
    failure.message ≠ "" := by
  cases failure with
  | unreadable makefile failure =>
      iterate 3 refine append_ne_empty _ ?_
      decide
  | missing makefile keys =>
      iterate 4 refine append_ne_empty _ ?_
      decide
  | fault failure => exact failure.message_ne_empty

theorem Resolution.Failure.message_ne_empty (failure : Failure) :
    failure.message ≠ "" := by
  cases failure with
  | unreadableEntry entry cause =>
      iterate 3 refine append_ne_empty _ ?_
      decide
  | fault failure => exact failure.message_ne_empty

namespace Command

/-! ## Parts of a run -/

namespace Work

variable {α β ε : Type} {messages : String → Prop}

/-- If a part stops the run with an exit code, its complaints end with one of the
messages. -/
def Explains (messages : String → Prop) (work : Work α) : Prop :=
  ∀ code, work.Stops (.exit code) →
    ∃ earlier message, messages message ∧
      work.transcript.stderr = earlier ++ message ++ "\n"

/-- There is nothing to be explained where a part cannot stop the run with an exit
code. -/
theorem Explains.of_not_stops
    {work : Work α}
    (goesOn : ∀ code, ¬ work.Stops (.exit code)) :
    work.Explains messages :=
  fun code stops => absurd stops (goesOn code)

theorem explains_done (value : α) : (done value).Explains messages :=
  .of_not_stops fun _ => not_stops_done value

theorem explains_write (transcript : Transcript) :
    (write transcript).Explains messages :=
  .of_not_stops fun _ => not_stops_write transcript

theorem explains_fault (failure : Failure) :
    (stop (.fault failure) : Work α).Explains messages :=
  .of_not_stops fun _ stops => by cases stops_stop_iff.mp stops

theorem explains_check (failing : ε → Failure) (found : Except ε α) :
    (check failing found).Explains messages := by
  cases found with
  | ok value => exact explains_done value
  | error failure => exact explains_fault (failing failure)

theorem explains_giveUp {message : String} (told : messages message)
    (warning : String) :
    (giveUp warning message : Work α).Explains messages :=
  fun _ _ => ⟨"", message, told, by rw [String.empty_append]; rfl⟩

/-- What stops the run last complains last. -/
theorem Explains.andThen
    {first : Work α} {next : α → Work β}
    (explains : first.Explains messages)
    (explainsNext : ∀ value, first.outcome = .ok value →
      (next value).Explains messages) :
    (first.andThen next).Explains messages := by
  intro code stops
  rcases stops_andThen_iff.mp stops with stopsFirst | ⟨value, goesOn, stopsNext⟩
  · rw [andThen_of_error stopsFirst]
    exact explains code stopsFirst
  · obtain ⟨earlier, message, told, same⟩ := explainsNext value goesOn code stopsNext
    rw [andThen_of_ok goesOn]
    refine ⟨first.transcript.stderr ++ earlier, message, told, ?_⟩
    rw [Transcript.stderr_append, same]
    simp only [String.append_assoc]

end Work

open Work

/-- What a run fails for whose arguments are accepted, in its own words. -/
inductive Grounds (tree : FileTree) (options : Options) : String → Prop
  /-- Code is to be attached to components that are not resolved. -/
  | misuse :
    options.kconfigCode = true →
    options.kconfig = false →
    Grounds tree options "--kconfig-code requires --kconfig"
  | noArchitecture {list : String} :
    options.arch = some list →
    Architecture.named list = [] →
    Grounds tree options ("Invalid arch: " ++ list)
  | noKernel {text : String} :
    options.kernelPath = some text →
    tree.isDirectory (Path.ofString text) = .ok false →
    Grounds tree options
      ("Kernel path does not exist: " ++ (Path.ofString text).toString)
  | noVersion {text : String} {failure : KernelVersion.Failure} :
    options.kernelPath = some text →
    (KernelVersion.ofMakefile tree ((Path.ofString text).child "Makefile")).1 =
      .error failure →
    Grounds tree options failure.message
  | noDirectory {text list arch : String} {directory : Path} :
    options.kernelPath = some text →
    options.arch = some list →
    arch ∈ Architecture.named list →
    directory = Path.ofString text / Path.ofString "arch" / Path.ofString arch →
    tree.isDirectory directory = .ok false →
    Grounds tree options
      ("Architecture directory does not exist: " ++ directory.toString)
  | noEntry {text list arch : String} {entry : Path} {cause : FileFailure} :
    options.kernelPath = some text →
    options.arch = some list →
    arch ∈ Architecture.named list →
    entry = (Path.ofString text / Path.ofString "arch" / Path.ofString arch).child
      "Kconfig" →
    Resolution.openEntry tree entry = .error cause →
    Grounds tree options (Resolution.Failure.unreadableEntry entry cause).message

section Parts

variable {tree : FileTree} {options : Options}

theorem explains_needed {α : Type} (option : NeededOption) (setting : Option α) :
    (needed option setting).Explains (Grounds tree options) := by
  cases setting with
  | none => exact explains_fault _
  | some value => exact explains_done value

theorem explains_versionOf
    {text : String}
    (given : options.kernelPath = some text) :
    (versionOf tree (Path.ofString text)).Explains (Grounds tree options) := by
  have missing : ∀ failure,
      (KernelVersion.ofMakefile tree ((Path.ofString text).child "Makefile")).1 =
        .error failure →
        Grounds tree options failure.message := fun failure => .noVersion given
  unfold versionOf
  simp only [bind_eq_andThen]
  refine (explains_write _).andThen fun _ _ => ?_
  rcases found :
    (KernelVersion.ofMakefile tree ((Path.ofString text).child "Makefile")).1
      with (failure | failure | failure) | version
  · exact explains_giveUp (missing _ found) _
  · exact explains_giveUp (missing _ found) _
  · exact explains_fault _
  · exact explains_done version

theorem explains_prepare : (prepare tree options).Explains (Grounds tree options) := by
  rw [prepare_eq]
  refine (explains_needed _ _).andThen fun text named => ?_
  have given := outcome_needed_iff.mp named
  refine (explains_check _ _).andThen fun present found => ?_
  cases present with
  | false => exact explains_giveUp (.noKernel given (outcome_check_iff.mp found)) _
  | true =>
      exact (explains_versionOf given).andThen fun version _ =>
        (explains_check _ _).andThen fun exclusion _ => explains_done _

end Parts

section Reports

variable {context : Context} {text list arch : String}

/-- What a run knows of an architecture that it comes to. -/
structure Listed (context : Context) (arch : String) : Prop where
  path : ∃ text, context.options.kernelPath = some text ∧
    context.kernelPath = Path.ofString text
  member : ∃ list, context.options.arch = some list ∧ arch ∈ Architecture.named list

theorem explains_resolve (listed : Listed context arch) :
    (context.resolve arch).Explains (Grounds context.tree context.options) := by
  obtain ⟨text, given, path⟩ := listed.path
  obtain ⟨list, arches, member⟩ := listed.member
  obtain ⟨log, resolve_eq⟩ := resolve_eq context arch
  rw [resolve_eq]
  refine (explains_write _).andThen fun _ _ => ?_
  rcases found : context.resolution arch with (⟨place, cause⟩ | failure) | resolved
  · obtain ⟨rfl, refused, -⟩ := Resolution.run_eq_unreadableEntry_iff.mp found
    exact explains_giveUp (.noEntry given arches member (path ▸ rfl) refused) _
  · exact explains_fault _
  · exact (explains_write _).andThen fun _ _ => explains_done resolved

theorem explains_inspectConfiguration (listed : Listed context arch)
    (input : List Char) :
    (context.inspectConfiguration arch input).Explains
      (Grounds context.tree context.options) := by
  unfold Context.inspectConfiguration
  simp only [bind_eq_andThen, pure_eq_done]
  refine (explains_resolve listed).andThen fun resolved _ =>
    Explains.andThen ?_ fun found _ =>
    Explains.andThen ?_ fun _ _ => ?_
  · refine .of_not_stops fun code stops => ?_
    obtain ⟨-, failure, -, same⟩ := stops_correlate_iff.mp stops
    cases same
  · refine .of_not_stops fun code stops => ?_
    obtain ⟨failure, -, same⟩ := stops_reportComponents_iff.mp stops
    cases same
  · split
    · exact explains_done input
    · exact (explains_write _).andThen fun _ _ => explains_done _

theorem explains_inspect (listed : Listed context arch) (input : List Char) :
    (context.inspect arch input).Explains (Grounds context.tree context.options) := by
  have configuration :
      (if context.options.kconfig then context.inspectConfiguration arch input
        else done input).Explains (Grounds context.tree context.options) := by
    split
    · exact explains_inspectConfiguration listed input
    · exact explains_done input
  obtain ⟨entries, warning, inspect_eq⟩ := exists_inspect_eq context arch input
  obtain ⟨text, given, path⟩ := listed.path
  obtain ⟨list, arches, member⟩ := listed.member
  rw [inspect_eq]
  refine (explains_write _).andThen fun _ _ =>
    (explains_check _ _).andThen fun present found => ?_
  cases present with
  | false =>
      exact explains_giveUp
        (.noDirectory given arches member (path ▸ rfl) (outcome_check_iff.mp found)) _
  | true =>
      change (context.reports arch input).Explains _
      unfold Context.reports
      split
      · exact Explains.andThen (.of_not_stops fun _ => not_stops_reportLines_exit)
          fun _ _ =>
          configuration
      · exact configuration

/-- Architectures are reported on in turn: the first one that stops the run explains
it. -/
theorem explains_inspectAll
    {arches : List String}
    (listed : ∀ arch ∈ arches, Listed context arch)
    (input : List Char) :
    (context.inspectAll arches input).Explains
      (Grounds context.tree context.options) := by
  induction arches generalizing input with
  | nil => exact explains_done input
  | cons arch others inductionHypothesis =>
      rw [List.forall_mem_cons] at listed
      exact (explains_inspect listed.1 input).andThen fun left _ =>
        inductionHypothesis listed.2 left

end Reports

/-! ## Runs -/

theorem explains_runOptions (tree : FileTree) (options : Options) (input : List Char) :
    (runOptions tree options input).Explains (Grounds tree options) := by
  by_cases used : options.kconfigCode = true → options.kconfig = true
  · rw [runOptions_eq_of_used used]
    refine (explains_needed _ _).andThen fun list named => ?_
    have given := outcome_needed_iff.mp named
    cases listed : Architecture.list list with
    | error failure =>
        exact explains_giveUp
          (.noArchitecture given (Architecture.list_eq_error_iff.mp listed)) _
    | ok arches =>
        refine explains_prepare.andThen fun context prepared => ?_
        obtain ⟨text, version, exclusion, path, -, -, -, rfl⟩ :=
          outcome_prepare_iff.mp prepared
        refine explains_inspectAll
          (fun arch member => ⟨⟨text, path, rfl⟩, list, given, ?_⟩) input
        obtain ⟨rfl, -⟩ := Architecture.list_eq_ok_iff.mp listed
        exact List.mem_eraseDups.mp member
  · obtain ⟨asked, unresolved⟩ : options.kconfigCode = true ∧
      options.kconfig = false := by
      simpa using used
    rw [runOptions, if_pos (by simp [asked, unresolved])]
    exact explains_giveUp (.misuse asked unresolved) _

/-- Whatever a run fails for, it says something about it. -/
theorem Grounds.ne_empty
    {tree : FileTree} {options : Options} {message : String}
    (grounds : Grounds tree options message) :
    message ≠ "" := by
  cases grounds with
  | misuse => decide
  | noArchitecture | noKernel | noDirectory => exact append_ne_empty _ (by decide)
  | noVersion => exact KernelVersion.Failure.message_ne_empty _
  | noEntry => exact Resolution.Failure.message_ne_empty _

/-- What is complained about in a run that fails: its arguments are refused, or else the
complaints end with what it fails for. -/
inductive Explained (tree : FileTree) (arguments : List String) (stderr : String) : Prop
  | refused {refusal : Refusal} :
    Options.ofArguments arguments = .error (.refused refusal) →
    stderr = complaint refusal →
    Explained tree arguments stderr
  | checked {options : Options} (earlier : String) {message : String} :
    Options.ofArguments arguments = .ok options →
    Grounds tree options message →
    message ≠ "" →
    stderr = earlier ++ message ++ "\n" →
    Explained tree arguments stderr

theorem Explained.ne_empty
    {tree : FileTree} {arguments : List String} {stderr : String}
    (explained : Explained tree arguments stderr) :
    stderr ≠ "" := by
  cases explained with
  | refused _ same => exact same ▸ append_ne_empty _ (append_ne_empty _ (by decide))
  | checked _ _ _ _ same => simp [same]

theorem explained_of_run
    {tree : FileTree} {threshold : LogLevel} {arguments : List String}
    {input : List Char}
    {code : Nat}
    (noHelp : Options.ofArguments arguments ≠ .error .help)
    (returned : (run tree threshold arguments input).2 = .ok code)
    (fails : code ≠ 0) :
    Explained tree arguments (run tree threshold arguments input).1.stderr := by
  cases accepted : Options.ofArguments arguments with
  | error ending =>
      cases ending with
      | help => exact absurd accepted noHelp
      | refused refusal =>
          refine .refused accepted ?_
          rw [run, accepted]
          rfl
  | ok options =>
      rcases outcome_of_run_eq_ok accepted returned with ⟨zero, -⟩ | stops
      · exact absurd zero fails
      · obtain ⟨earlier, message, grounds, same⟩ :=
          explains_runOptions tree options input code stops
        refine .checked earlier accepted grounds grounds.ne_empty ?_
        rw [← same, run, accepted]
        cases leveled : options.logLevel with
        | some level =>
            dsimp only
            rw [leveled]
            rfl
        | none =>
            rw [run_eq accepted, leveled] at returned
            cases returned

/-- A run that fails has complained about something, and in the end about what it fails
for, unless help was asked for: help is given on the standard output, without any
complaint, and yet with the exit code of a failure. -/
theorem failing_exit_explained_iff
    (tree : FileTree) (threshold : LogLevel) (arguments : List String)
    (input : List Char) :
    (∀ code, (run tree threshold arguments input).2 = .ok code → code ≠ 0 →
      ((run tree threshold arguments input).1.stderr ≠ "" ↔
          Options.ofArguments arguments ≠ .error .help) ∧
        (Options.ofArguments arguments ≠ .error .help →
          Explained tree arguments (run tree threshold arguments input).1.stderr)) ∧
      (Options.ofArguments arguments = .error .help →
        (run tree threshold arguments input).2 = .ok 2 ∧
          (run tree threshold arguments input).1.stdout = help ∧
          (run tree threshold arguments input).1.stderr = "") := by
  have helped : Options.ofArguments arguments = .error .help →
      (run tree threshold arguments input).2 = .ok 2 ∧
        (run tree threshold arguments input).1.stdout = help ∧
        (run tree threshold arguments input).1.stderr = "" := by
    intro asked
    rw [run, asked]
    exact ⟨rfl, rfl, rfl⟩
  refine ⟨fun code returned fails => ⟨⟨?_, ?_⟩, fun noHelp => ?_⟩, helped⟩
  · intro complained asked
    exact complained (helped asked).2.2
  · intro noHelp
    exact (explained_of_run noHelp returned fails).ne_empty
  · exact explained_of_run noHelp returned fails

theorem failing_exit_explained_iff_misuse :
    (run ⟨[], []⟩ .warning ["--kconfig-code"] []).2 = .ok 2 ∧
      (run ⟨[], []⟩ .warning ["--kconfig-code"] []).1.stderr ≠ "" ∧
      Explained ⟨[], []⟩ ["--kconfig-code"]
        (run ⟨[], []⟩ .warning ["--kconfig-code"] []).1.stderr := by
  have returned : (run ⟨[], []⟩ .warning ["--kconfig-code"] []).2 = .ok 2 := by
    decide +kernel
  have noHelp : Options.ofArguments ["--kconfig-code"] ≠ .error .help := by
    decide +kernel
  have explained :=
    (failing_exit_explained_iff ⟨[], []⟩ .warning ["--kconfig-code"] []).1 2 returned
      (by decide)
  exact ⟨returned, explained.1.mpr noHelp, explained.2 noHelp⟩

theorem not_all_failing_exits_explained :
    ¬ ∀ (tree : FileTree) (threshold : LogLevel) (arguments : List String)
      (input : List Char),
        (∀ code, (run tree threshold arguments input).2 = .ok code → code ≠ 0 →
        (run tree threshold arguments input).1.stderr ≠ "") ∧
      (Options.ofArguments arguments = .error .help →
        ∀ code, (run tree threshold arguments input).2 = .ok code → code = 0) := by
  intro explained
  have asked : Options.ofArguments ["--help"] = .error .help := by decide +kernel
  have returned : (run ⟨[], []⟩ .warning ["--help"] []).2 = .ok 2 := by rw [run, asked]
  cases (explained ⟨[], []⟩ .warning ["--help"] []).2 asked 2 returned

end Command
end KernelInventory
