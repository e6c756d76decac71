import KernelInventory.Proofs.Command.Turns
import KernelInventory.Proofs.FileTree.Straight
import KernelInventory.Proofs.Resolution.Escape

/-!
# The exit code

A run that returns has come to its end, with the exit code zero, exactly if all that it
needs is there: a list of architectures, a kernel tree that states its version, the
directory of each architecture and, where the configuration is asked for, an entry file
that can be opened.  Otherwise its exit code is two.  What it meets besides, in sources,
code and lookups, does not count; and what fails before the first architecture has
nothing written to the standard output.
-/

namespace KernelInventory

namespace KernelVersion

/-- A makefile states a version if it can be opened and assigns all three variables. -/
def States (tree : FileTree) (makefile : Path) : Prop :=
  ∃ text, tree.readText makefile = .ok text ∧
    ∀ key ∈ keys, (value? (Text.lines text) key).isSome = true

theorem states_iff {tree : FileTree} {makefile : Path} :
    States tree makefile ↔ ∃ version, (ofMakefile tree makefile).1 = .ok version := by
  unfold States ofMakefile
  rcases tree.readText makefile with (_ | _ | _) | text
  · simp
  · simp
  · simp
  · have assigned : (∀ key ∈ keys, (value? (Text.lines text) key).isSome = true) ↔
        keys.filter (fun key => (value? (Text.lines text) key).isNone) = [] := by
      simp [List.filter_eq_nil_iff, Option.isSome_iff_ne_none]
    simp only [Except.ok.injEq, exists_eq_left', assigned, ofLines]
    cases keys.filter fun key => (value? (Text.lines text) key).isNone <;> simp

end KernelVersion

namespace Command

open Work

/-- What a run needs before it comes to its first architecture. -/
structure Ready (tree : FileTree) (options : Options) (kernelPath : Path)
    (arches : List String) :
    Prop where
  /-- Code is attached to components that are resolved only. -/
  used : options.kconfigCode = true → options.kconfig = true
  listed : ∃ list, options.arch = some list ∧
    arches = (Architecture.named list).eraseDups
  nonempty : arches ≠ []
  given : ∃ text, options.kernelPath = some text ∧ kernelPath = Path.ofString text
  present : tree.isDirectory kernelPath = .ok true
  states : KernelVersion.States tree (kernelPath.child "Makefile")

/-- What a run needs for its reports on an architecture. -/
structure Reportable (tree : FileTree) (options : Options) (kernelPath : Path)
    (arch : String) :
    Prop where
  present :
    tree.isDirectory (kernelPath / Path.ofString "arch" / Path.ofString arch) = .ok true
  /-- The entry file of the configuration can be resolved and opened. -/
  opens : options.kconfig = true →
    ∃ location bytes,
      tree.realLocation
          ((kernelPath / Path.ofString "arch" / Path.ofString arch).child "Kconfig") =
        .ok location ∧
      tree.openAt location = .ok bytes

section Needs

variable {tree : FileTree} {options : Options} {kernelPath : Path}
  {arches : List String}

/-- A run needs before its first architecture what its options ask for, and what its
preparation asks the tree for. -/
theorem ready_iff :
    Ready tree options kernelPath arches ↔
      options.Asks arches ∧
        ∃ text, options.kernelPath = some text ∧ kernelPath = Path.ofString text ∧
          tree.isDirectory kernelPath = .ok true ∧
          ∃ version, (KernelVersion.ofMakefile tree (kernelPath.child "Makefile")).1 =
            .ok version := by
  constructor
  · intro ready
    obtain ⟨list, given, listed⟩ := ready.listed
    obtain ⟨text, path, same⟩ := ready.given
    have named := Architecture.list_eq_ok_iff.mpr ⟨listed, ready.nonempty⟩
    exact ⟨⟨ready.used, list, given, named⟩, text, path, same, ready.present,
      KernelVersion.states_iff.mp ready.states⟩
  · rintro ⟨⟨used, list, given, named⟩, text, path, same, present, states⟩
    obtain ⟨listed, nonempty⟩ := Architecture.list_eq_ok_iff.mp named
    exact ⟨used, ⟨list, given, listed⟩, nonempty, ⟨text, path, same⟩, present,
      KernelVersion.states_iff.mpr states⟩

theorem ready_of_prepared
    {context : Context}
    (asks : options.Asks arches)
    (prepared : (prepare tree options).outcome = .ok context) :
    Ready tree options context.kernelPath arches := by
  obtain ⟨text, version, exclusion, path, present, versioned, -, rfl⟩ :=
    outcome_prepare_iff.mp prepared
  exact ready_iff.mpr
    ⟨asks, text, path, rfl, present, version, outcome_versionOf_iff.mp versioned⟩

/-- With all that a run needs before its first architecture, its preparation stops
it with no exit code. -/
theorem Ready.not_stops_prepare
    (ready : Ready tree options kernelPath arches) (code : Nat) :
    ¬ (prepare tree options).Stops (.exit code) := by
  intro stops
  obtain ⟨-, text, given, rfl, present, version, stated⟩ := ready_iff.mp ready
  rcases stops_prepare_iff.mp stops with ⟨-, same⟩ | ⟨other, givenOther, failed⟩
  · cases same
  · obtain rfl := Option.some.inj (given.symm.trans givenOther)
    rcases failed with ⟨failure, -, same⟩ | ⟨absent, -⟩ |
      ⟨-, stops | ⟨_, -, failure, -, same⟩⟩
    · cases same
    · cases absent.symm.trans present
    · obtain ⟨failure, failed, -⟩ := stops_versionOf_iff.mp stops
      cases failed.symm.trans stated
    · cases same

end Needs

section Reports

variable {context : Context} {arch : String}

theorem entry_opens_iff :
    (∃ location bytes, context.tree.realLocation (context.entry arch) = .ok location ∧
        context.tree.openAt location = .ok bytes) ↔
      ∃ opened, Resolution.openEntry context.tree (context.entry arch) =
        .ok opened := by
  simp only [Prod.exists, Resolution.openEntry_eq_ok_iff]

/-- An architecture stops a run with an exit code only if something is missing
that its reports need. -/
theorem not_reportable_of_halts_exit
    {code : Nat}
    (halts : context.Halts arch (.exit code)) :
    ¬ Reportable context.tree context.options context.kernelPath arch := by
  intro reportable
  cases halts with
  | absent missing => cases missing.symm.trans reportable.present
  | lines _ _ stops => exact not_stops_reportLines_exit stops
  | configuration _ _ asked halts =>
      obtain ⟨opened, opens⟩ := entry_opens_iff.mp (reportable.opens asked)
      obtain ⟨-, place, cause, failed⟩ := of_haltsConfiguration_exit halts
      obtain ⟨-, refused, -⟩ := Resolution.run_eq_unreadableEntry_iff.mp failed
      cases refused.symm.trans opens

/-- The reports on an architecture come to their end only with all that they need. -/
theorem reportable_of_ends
    (ends : ∀ reason, ¬ context.Halts arch reason) :
    Reportable context.tree context.options context.kernelPath arch := by
  have present : context.tree.isDirectory (context.archDirectory arch) = .ok true := by
    rcases found : context.tree.isDirectory (context.archDirectory arch) with failure |
      ⟨_ | _⟩
    · exact absurd (.refused found) (ends _)
    · exact absurd (.absent found) (ends _)
    · rfl
  refine ⟨present, fun asked => entry_opens_iff.mpr ?_⟩
  cases opened : Resolution.openEntry context.tree (context.entry arch) with
  | ok entry => exact ⟨entry, rfl⟩
  | error failure =>
      have stops : (context.resolve arch).Stops (resolutionStop (.ofEntry _ failure)) :=
        stops_resolve_iff.mpr ⟨_, Resolution.run_of_openEntry_error opened, rfl⟩
      have linesEnd : context.wantsLines = true →
          ∀ other, ¬ (context.reportLines arch).Stops other :=
        fun wanted other stopsLines => ends other (.lines present wanted stopsLines)
      exact absurd (.configuration present linesEnd asked (.inl stops)) (ends _)

end Reports

/-! ## Nothing on the standard output -/

namespace Work

/-- A part writes nothing to the standard output, whether it stops the run or not. -/
def Mute {α : Type} (work : Work α) : Prop :=
  work.transcript.stdout = ""

theorem pervasive_mute : Pervasive @Mute where
  of_done _ := rfl
  of_note _ := rfl
  of_stop _ := rfl
  of_giveUp _ _ := rfl
  of_andThen := by
    intro _ _ first next muteFirst muteNext
    unfold Mute at muteFirst muteNext ⊢
    cases outcome : first.outcome with
    | error reason => rw [andThen_of_error outcome, muteFirst]
    | ok value =>
        rw [andThen_of_ok outcome, Transcript.stdout_append, muteFirst,
          muteNext value outcome, String.append_empty]

end Work

/-- A run that lacks something before its first architecture writes nothing
to the standard output. -/
theorem mute_runOptions
    {tree : FileTree} {options : Options}
    (unready : ∀ kernelPath arches, ¬ Ready tree options kernelPath arches)
    (input : List Char) :
    (runOptions tree options input).Mute := by
  unfold runOptions
  split
  · exact pervasive_mute.of_giveUp _ _
  next used =>
    simp only [bind_eq_andThen]
    refine pervasive_mute.of_andThen (pervasive_mute.of_needed _ _) fun list given => ?_
    split
    · exact pervasive_mute.of_giveUp _ _
    next arches named =>
      refine pervasive_mute.of_andThen (pervasive_mute.of_prepare tree options)
        fun context prepared => ?_
      have asks : options.Asks arches :=
        ⟨by simpa using used, list, outcome_needed_iff.mp given, named⟩
      exact absurd (ready_of_prepared asks prepared) (unready _ _)

/-! ## All that a run needs -/

section Runs

variable {tree : FileTree} {options : Options} {input : List Char}

/-- All that a run needs is there. -/
def Needs (tree : FileTree) (options : Options) : Prop :=
  ∃ kernelPath arches, Ready tree options kernelPath arches ∧
    ∀ arch ∈ arches, Reportable tree options kernelPath arch

/-- A run comes to its end only with all that it needs. -/
theorem needs_of_outcome
    {left : List Char}
    (ended : (runOptions tree options input).outcome = .ok left) :
    Needs tree options := by
  obtain ⟨arches, asks, context, prepared, reported⟩ := outcome_runOptions_iff.mp ended
  have ready := ready_of_prepared asks prepared
  have ends := ends_inspectAll_iff.mp ⟨left, reported⟩
  obtain ⟨text, version, exclusion, -, -, -, -, rfl⟩ := outcome_prepare_iff.mp prepared
  exact ⟨_, arches, ready, fun arch member => reportable_of_ends (ends arch member)⟩

/-- A run is stopped with the exit code two only, and only if something is missing. -/
theorem of_stops_exit
    {code : Nat}
    (stops : (runOptions tree options input).Stops (.exit code)) :
    code = 2 ∧ ¬ Needs tree options := by
  rcases stops_runOptions_iff.mp stops with ⟨asked, unresolved, same⟩ | ⟨-, -, same⟩ |
    ⟨-, ⟨list, given, noneNamed⟩, same⟩ | ⟨arches, asks, stopped⟩
  · cases same
    refine ⟨rfl, ?_⟩
    rintro ⟨kernelPath, arches, ready, -⟩
    exact absurd (ready.used asked) (by simp [unresolved])
  · cases same
  · cases same
    refine ⟨rfl, ?_⟩
    rintro ⟨kernelPath, arches, ready, -⟩
    obtain ⟨⟨-, other, givenOther, named⟩, -⟩ := ready_iff.mp ready
    obtain rfl := Option.some.inj (given.symm.trans givenOther)
    cases noneNamed.symm.trans named
  · rcases stopped with stopped | ⟨context, prepared, stopped⟩
    · refine ⟨eq_two_of_stops_prepare_exit stopped, ?_⟩
      rintro ⟨kernelPath, arches, ready, -⟩
      exact ready.not_stops_prepare code stopped
    · obtain ⟨before, arch, behind, rfl, -, halts⟩ := stops_inspectAll_iff.mp stopped
      refine ⟨eq_two_of_halts_exit halts, ?_⟩
      rintro ⟨kernelPath, others, ready, reportable⟩
      obtain ⟨text, version, exclusion, path, -, -, -, rfl⟩ :=
        outcome_prepare_iff.mp prepared
      obtain ⟨-, list, given, named⟩ := asks
      obtain ⟨⟨-, other, givenOther, namedOther⟩, otherText, givenPath, rfl, -⟩ :=
        ready_iff.mp ready
      obtain rfl := Option.some.inj (given.symm.trans givenOther)
      obtain rfl := Option.some.inj (path.symm.trans givenPath)
      obtain rfl := Except.ok.inj (named.symm.trans namedOther)
      exact not_reportable_of_halts_exit halts (reportable arch (by simp))

/-- How a run ends whose arguments are accepted. -/
theorem run_eq
    {arguments : List String} (accepted : Options.ofArguments arguments = .ok options)
    (threshold : LogLevel) :
    (run tree threshold arguments input).2 =
      match options.logLevel with
      | none => .error (.valueless .logLevel)
      | some _ => exitOf (runOptions tree options input).outcome := by
  rw [run, accepted]
  dsimp only
  cases options.logLevel <;> rfl

theorem exitOf_eq_ok_iff {α : Type} {outcome : Except Stop α} {code : Nat} :
    exitOf outcome = .ok code ↔
      (code = 0 ∧ ∃ value, outcome = .ok value) ∨ outcome = .error (.exit code) := by
  rcases outcome with (_ | _) | _ <;> simp [exitOf, eq_comm]

theorem exitOf_eq_error_iff {α : Type} {outcome : Except Stop α} {failure : Failure} :
    exitOf outcome = .error failure ↔ outcome = .error (.fault failure) := by
  rcases outcome with (_ | _) | _ <;> simp [exitOf]

/-- A run that returns has come to its end, or something has stopped it with an exit
code. -/
theorem outcome_of_run_eq_ok
    {arguments : List String} (accepted : Options.ofArguments arguments = .ok options)
    {threshold : LogLevel} {code : Nat}
    (returned : (run tree threshold arguments input).2 = .ok code) :
    (code = 0 ∧ ∃ left, (runOptions tree options input).outcome = .ok left) ∨
      (runOptions tree options input).Stops (.exit code) := by
  rw [run_eq accepted] at returned
  cases leveled : options.logLevel with
  | none =>
      rw [leveled] at returned
      cases returned
  | some level =>
      rw [leveled] at returned
      exact exitOf_eq_ok_iff.mp returned

theorem eq_zero_or_two_of_run_eq_ok
    {arguments : List String} (accepted : Options.ofArguments arguments = .ok options)
    {threshold : LogLevel} {code : Nat}
    (returned : (run tree threshold arguments input).2 = .ok code) :
    code = 0 ∨ code = 2 :=
  (outcome_of_run_eq_ok accepted returned).imp And.left fun stops =>
    (of_stops_exit stops).1

/-- A run that lacks something before its first architecture writes nothing to the
standard output, whatever it does then. -/
theorem stdout_run
    {arguments : List String} (accepted : Options.ofArguments arguments = .ok options)
    (unready : ∀ kernelPath arches, ¬ Ready tree options kernelPath arches)
    (threshold : LogLevel) :
    (run tree threshold arguments input).1.stdout = "" := by
  rw [run, accepted]
  dsimp only
  cases options.logLevel with
  | none => rfl
  | some level => exact mute_runOptions unready input

end Runs

/-! ## A configuration with a missing file -/

/-- A kernel tree with the configuration of one architecture. -/
def configTree (makefile bytes : List UInt8) : FileTree :=
  ⟨[], [(["k"], .openDirectory), (["k", "Makefile"], .file makefile true),
    (["k", "arch"], .openDirectory), (["k", "arch", "a"], .openDirectory),
    (["k", "arch", "a", "Kconfig"], .file bytes true)]⟩

/-- The options that ask for the configuration of that tree. -/
def configOptions : Options :=
  { kernelPath := some "/k", arch := some "a", kconfig := true, noQuery := true }

/-- The command line that asks for it. -/
def configLine : List String :=
  ["-k", "/k", "-a", "a", "--kconfig", "--no-query"]

/-- What the reports on that tree have in common. -/
def configContext (makefile bytes : List UInt8) : Context :=
  ⟨configTree makefile bytes, configOptions, ⟨.root, ["k"]⟩, "6.9.5", none⟩

/-- The bytes of a makefile that states a version. -/
def versionBytes : List UInt8 :=
  Text.Utf8.encode versionText.toList

theorem ofArguments_configLine :
    Options.ofArguments configLine = .ok configOptions := by
  cbv

section Configuration

variable (makefile bytes : List UInt8)

theorem isDirectory_configTree :
    (configTree makefile bytes).isDirectory ⟨.root, ["k"]⟩ = .ok true ∧
      (configTree makefile bytes).isDirectory ⟨.root, ["k", "arch", "a"]⟩ =
        .ok true := by
  constructor
  · cbv
  · cbv

/-- Every entry of the tree is found where it is, since there are no links. -/
theorem locate_configTree :
    (configTree makefile bytes).locate true ⟨.root, ["k", "Makefile"]⟩ =
      .ok ["k", "Makefile"] ∧
      ∀ names ∈ [["k"], ["k", "arch"], ["k", "arch", "a"],
        ["k", "arch", "a", "Kconfig"]],
          (configTree makefile bytes).locate false ⟨.root, names⟩ = .ok names := by
  simp only [List.forall_mem_cons]
  refine ⟨?_, ?_, ?_, ?_, ?_, nofun⟩
  all_goals cbv

theorem archDirectory_configContext :
    (configContext makefile bytes).archDirectory "a" = ⟨.root, ["k", "arch", "a"]⟩ :=
  rfl

theorem readText_configTree :
    (configTree makefile bytes).readText ⟨.root, ["k", "Makefile"]⟩ =
      .ok (Text.Utf8.decode makefile) :=
  FileTree.readText_of_readAt rfl (locate_configTree makefile bytes).1 rfl

theorem ofString_kernelPath : Path.ofString "/k" = ⟨.root, ["k"]⟩ :=
  rfl

theorem ofMakefile_configTree :
    (KernelVersion.ofMakefile (configTree versionBytes bytes)
      ⟨.root, ["k", "Makefile"]⟩).1 =
      .ok "6.9.5" := by
  have stated : KernelVersion.ofLines (Text.lines versionText.toList) = .ok "6.9.5" :=
    rfl
  simp [KernelVersion.ofMakefile, readText_configTree, versionBytes,
    Text.Utf8.decode_encode, stated]

theorem asks_configOptions : configOptions.Asks ["a"] := by
  have named : Architecture.list "a" = .ok ["a"] := rfl
  exact ⟨nofun, "a", rfl, named⟩

theorem ready_configTree :
    Ready (configTree versionBytes bytes) configOptions ⟨.root, ["k"]⟩ ["a"] :=
  ready_iff.mpr ⟨asks_configOptions, "/k", rfl, ofString_kernelPath.symm,
    (isDirectory_configTree versionBytes bytes).1, "6.9.5", ofMakefile_configTree bytes⟩

theorem prepare_configTree :
    (prepare (configTree versionBytes bytes) configOptions).outcome =
      .ok (configContext versionBytes bytes) := by
  have versioned : (versionOf (configTree versionBytes bytes) ⟨.root, ["k"]⟩).outcome =
      .ok "6.9.5" :=
    outcome_versionOf_iff.mpr (ofMakefile_configTree bytes)
  refine outcome_prepare_iff.mpr ⟨"/k", "6.9.5", none, rfl, ?_, ?_, rfl, ?_⟩
  · rw [ofString_kernelPath]
    exact (isDirectory_configTree versionBytes bytes).1
  · rw [ofString_kernelPath]
    exact versioned
  · rw [ofString_kernelPath]
    rfl

/-- No name of the path of the entry file is that of a link. -/
theorem realLocation_configTree :
    (configTree makefile bytes).realLocation ⟨.root, ["k", "arch", "a", "Kconfig"]⟩ =
      .ok ["k", "arch", "a", "Kconfig"] := by
  let tree := configTree makefile bytes
  obtain ⟨-, located⟩ := locate_configTree makefile bytes
  simp only [List.forall_mem_cons] at located
  obtain ⟨kernel, arches, arch, entry, -⟩ := located
  have expanded : tree.expandPath true ⟨.root, ["k", "arch", "a", "Kconfig"]⟩ =
      .ok (.settled ⟨.root, ["k", "arch", "a", "Kconfig"]⟩) := by
    have proper : ∀ name ∈ ["k", "arch", "a", "Kconfig"], ProperName name := by
      simp [ProperName]
    calc
      _ = tree.expand true [] ⟨.root, ["k"]⟩ ["arch", "a", "Kconfig"] :=
        FileTree.expand_of_located (proper _ (by simp)) rfl kernel rfl _ _
      _ = tree.expand true [] ⟨.root, ["k", "arch"]⟩ ["a", "Kconfig"] :=
        FileTree.expand_of_located (proper _ (by simp)) rfl arches rfl _ _
      _ = tree.expand true [] ⟨.root, ["k", "arch", "a"]⟩ ["Kconfig"] :=
        FileTree.expand_of_located (proper _ (by simp)) rfl arch rfl _ _
      _ = tree.expand true [] ⟨.root, ["k", "arch", "a", "Kconfig"]⟩ [] :=
        FileTree.expand_of_located (proper _ (by simp)) rfl entry rfl _ _
      _ = .ok (.settled ⟨.root, ["k", "arch", "a", "Kconfig"]⟩) := by
        rw [FileTree.expand]
  rw [FileTree.realLocation, expanded]
  rfl

theorem openEntry_configTree :
    Resolution.openEntry (configTree makefile bytes)
      ⟨.root, ["k", "arch", "a", "Kconfig"]⟩ =
      .ok (["k", "arch", "a", "Kconfig"], bytes) := by
  have opened : (configTree makefile bytes).openAt ["k", "arch", "a", "Kconfig"] =
      .ok bytes := by
    cbv
  exact Resolution.openEntry_eq_ok_iff.mpr
    ⟨realLocation_configTree makefile bytes, opened⟩

/-- How the configuration of that tree is resolved: its kernel tree is not
named for its version. -/
def configSettings : Resolution.Settings where
  version := "6.9.5"
  kernelRoot := some ⟨.root, ["k"]⟩

theorem settings_configContext :
    (configContext makefile bytes).settings "a" = configSettings := by
  cbv

/-- The resolution of the configuration of that tree, from what happens in its one
file. -/
theorem resolution_configContext
    {makefile bytes : List UInt8} {events : List Resolution.Event}
    (visited : Resolution.visit (configTree makefile bytes) configSettings
      ⟨.root, ["k"]⟩ [["k", "arch", "a", "Kconfig"]] ["k", "arch", "a", "Kconfig"]
        bytes = events)
    (faultless : ∀ event ∈ events, event.fault? = none) :
    (configContext makefile bytes).resolution "a" =
      .ok (Resolution.Result.ofEvents events) := by
  have entry : (configContext makefile bytes).entry "a" =
      ⟨.root, ["k", "arch", "a", "Kconfig"]⟩ := by
    rw [Context.entry, archDirectory_configContext]
    rfl
  rw [Context.resolution, settings_configContext, entry, Resolution.run_eq_ok_iff]
  exact ⟨_, _, openEntry_configTree makefile bytes, visited ▸ faultless,
    congrArg Resolution.Result.ofEvents visited.symm⟩

/-- The bytes of a configuration that asks for a file that does not exist. -/
def danglingBytes : List UInt8 :=
  Text.Utf8.encode "source \"n\"\n".toList

/-- What happens in the resolution of that configuration. -/
def danglingEvents : List Resolution.Event :=
  [.opened ["k", "arch", "a", "Kconfig"],
    .skipped ["k", "arch", "a", "Kconfig"]
      (.unresolved "n" (.refused .noSuchEntry "/k/n"))]

theorem visit_dangling :
    Resolution.visit (configTree makefile danglingBytes) configSettings ⟨.root, ["k"]⟩
      [["k", "arch", "a", "Kconfig"]] ["k", "arch", "a", "Kconfig"] danglingBytes =
        danglingEvents := by
  have located : (configTree makefile danglingBytes).realLocation
      (⟨.root, ["k"]⟩ / Path.ofString "n") = .error (.refused .noSuchEntry "/k/n") := by
    generalize danglingBytes = bytes
    cbv
  have missing : Resolution.aim (configTree makefile danglingBytes) configSettings
      ⟨.root, ["k"]⟩ [["k", "arch", "a", "Kconfig"]] "n" =
        .skipped (.unresolved "n" (.refused .noSuchEntry "/k/n")) :=
    (Resolution.Aims.unresolved located (by rintro ⟨⟩)).eq
  have entries :
      Stanza.entries configSettings.skipHelp (Resolution.linesOf danglingBytes) =
      [.source "n"] := by
    rfl
  rw [Resolution.visit_eq_entries, entries]
  simp only [List.flatMap_cons, List.flatMap_nil, Resolution.entryEvents,
    Resolution.sourceEvents, missing]
  rfl

theorem resolution_dangling :
    (configContext versionBytes danglingBytes).resolution "a" =
      .ok (Resolution.Result.ofEvents danglingEvents) :=
  resolution_configContext (visit_dangling versionBytes) (by decide)

/-- The title of the reports on that tree can be shown. -/
theorem exists_rule_configContext :
    ∃ rule, Report.rule ((configContext makefile bytes).title "a") = .ok rule := by
  have shown : (Report.rule "Linux-6.9.5 Arch A").isOk = true := by decide +kernel
  change ∃ rule, Report.rule "Linux-6.9.5 Arch A" = .ok rule
  cases titled : Report.rule "Linux-6.9.5 Arch A" with
  | ok rule => exact ⟨rule, rfl⟩
  | error failure =>
      rw [titled] at shown
      cases shown

/-- The missing file is reported as an issue, and the reports come to their end. -/
theorem not_halts_dangling (reason : Stop) :
    ¬ (configContext versionBytes danglingBytes).Halts "a" reason := by
  intro halts
  have present : (configContext versionBytes danglingBytes).tree.isDirectory
      ((configContext versionBytes danglingBytes).archDirectory "a") = .ok true := by
    rw [archDirectory_configContext]
    exact (isDirectory_configTree versionBytes danglingBytes).2
  cases halts with
  | refused refused => cases refused.symm.trans present
  | absent absent => cases absent.symm.trans present
  | lines _ wanted _ => cases wanted
  | configuration _ _ _ halts =>
      rcases halts with stops | ⟨resolved, found, stops | ⟨-, failure, unshowable, -⟩⟩
      · obtain ⟨failure, failed, -⟩ := stops_resolve_iff.mp stops
        cases failed.symm.trans resolution_dangling
      · cases (stops_correlate_iff.mp stops).1
      · obtain rfl := Except.ok.inj (found.symm.trans resolution_dangling)
        have names : (Report.componentGrid []).isOk = true := rfl
        rcases unshowable with refused | ⟨-, refused⟩
        · obtain ⟨rule, shown⟩ := exists_rule_configContext versionBytes danglingBytes
          cases refused.symm.trans shown
        · change Report.componentGrid [] = _ at refused
          rw [refused] at names
          cases names

theorem run_dangling :
    (run (configTree versionBytes danglingBytes) .warning configLine []).2 = .ok 0 := by
  have ends :
      ∃ left, ((configContext versionBytes danglingBytes).inspectAll ["a"] []).outcome =
      .ok left :=
    ends_inspectAll_iff.mpr (List.forall_mem_singleton.mpr not_halts_dangling)
  obtain ⟨left, ended⟩ := ends
  have outcome := outcome_runOptions_iff.mpr
    ⟨["a"], asks_configOptions, _, prepare_configTree danglingBytes, ended⟩
  have leveled : configOptions.logLevel = some .warning := rfl
  rw [run_eq ofArguments_configLine, leveled, outcome]
  rfl

end Configuration

/-! ## The exit code -/

/-- The exit code of a run that returns.  It is zero exactly if code is attached to
resolved components only, at least one architecture is named, the kernel path is that of
a directory whose makefile can be opened and assigns the three variables of a version,
and for each architecture named there is a directory and, if the configuration is asked
for, an entry file that can be resolved and opened.  Otherwise the exit code is two:
nothing else that the run meets decides about it.  If what is missing is needed before
the first architecture, nothing is written to the standard output. -/
theorem exit_code_of_run
    {tree : FileTree} {options : Options} {input : List Char}
    {threshold : LogLevel} {arguments : List String} {code : Nat}
    (accepted : Options.ofArguments arguments = .ok options)
    (returned : (run tree threshold arguments input).2 = .ok code) :
    (code = 0 ↔ ∃ kernelPath arches, Ready tree options kernelPath arches ∧
      ∀ arch ∈ arches, Reportable tree options kernelPath arch) ∧
    (code = 0 ∨ code = 2) ∧
    ((∀ kernelPath arches, ¬ Ready tree options kernelPath arches) →
      (run tree threshold arguments input).1.stdout = "") := by
  refine ⟨?_, eq_zero_or_two_of_run_eq_ok accepted returned,
    fun unready => stdout_run accepted unready threshold⟩
  rcases outcome_of_run_eq_ok accepted returned with ⟨rfl, left, ended⟩ | stops
  · exact iff_of_true rfl (needs_of_outcome ended)
  · obtain ⟨rfl, missing⟩ := of_stops_exit stops
    exact iff_of_false (by decide) missing

/-- The run for a configuration that asks for a missing file comes to its end, so that
all that it needs is there, although there is an issue. -/
theorem exit_code_of_run_dangling :
    Options.ofArguments configLine = .ok configOptions ∧
      (run (configTree versionBytes danglingBytes) .warning configLine []).2 = .ok 0 ∧
      (Resolution.Result.ofEvents danglingEvents).issues.length = 1 ∧
      (configContext versionBytes danglingBytes).resolution "a" =
        .ok (Resolution.Result.ofEvents danglingEvents) ∧
      ∃ kernelPath arches,
        Ready (configTree versionBytes danglingBytes) configOptions kernelPath arches ∧
          ∀ arch ∈ arches,
            Reportable (configTree versionBytes danglingBytes) configOptions
              kernelPath arch :=
  ⟨ofArguments_configLine, run_dangling, rfl, resolution_dangling,
    (exit_code_of_run ofArguments_configLine run_dangling).1.mp rfl⟩

end Command
end KernelInventory
