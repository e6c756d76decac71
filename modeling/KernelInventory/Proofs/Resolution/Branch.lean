import KernelInventory.Proofs.Resolution.Raising

/-!
# Branches that fail

A `source` line whose target is filtered out, cannot be found, is being read already or
cannot be read leaves nothing behind but the issue that says so.  This holds of whatever
has been gathered before, and whatever goes wrong in the files that the target sources:
a failure that comes out of a file has been raised when that file was to be opened,
before anything was gathered from it.
-/

namespace KernelInventory
namespace Stanza

/-- The state in which a line is handled: if help is skipped, the reader of help has
seen it. -/
def helpRead (skipping : Bool) (state : State) (raw : List Char) : State :=
  if skipping then (skipHelp state raw).1 else state

/-- The reader of help leaves the component alone that attributes belong to. -/
theorem current_helpRead (skipping : Bool) (state : State) (raw : List Char) :
    (helpRead skipping state raw).current = state.current := by
  cases skipping with
  | false => rfl
  | true =>
      have tracked : (skipHelp state raw).1 = state.withHelp (skipHelp state raw).1 :=
        congrArg Prod.fst (skipHelp_withHelp state state raw)
      rw [helpRead, if_pos rfl, tracked]
      rfl

theorem fst_readingOf_of_source
    {skipping : Bool} {state : State} {raw : List Char} {target : String}
    (source : (readingOf skipping state raw).2.kind = .source target) :
    (readingOf skipping state raw).1 = helpRead skipping state raw := by
  have tracked : helpRead skipping state raw =
      (if skipping then skipHelp state raw else (state, false)).1 := by
    cases skipping <;> rfl
  rw [tracked]
  unfold readingOf at source ⊢
  by_cases comment : (Text.trim raw).head? = some '#'
  · simp [comment] at source
  by_cases blank : (Text.trim raw).isEmpty = true
  · simp [comment, blank] at source
  simp only [if_neg comment, if_neg blank]
  split_ifs <;> rfl

theorem Reading.kind_of_handle
    {state : State} {reading : Reading} {target : String}
    (sources : (reading.handle state).2 = some (.source target)) :
    reading.kind = .source target := by
  obtain ⟨kind, line⟩ := reading
  cases kind with
  | source other =>
      cases sources
      rfl
  | stanza => simp [Reading.handle] at sources
  | comment | blank | help => cases sources

/-- A `source` line takes the flag of a blank line down, and changes nothing else. -/
theorem readRaw_of_source
    {skipping : Bool} {state : State} {raw : List Char} {text : String}
    (sources : (readRaw skipping state raw).2 = some (.source text)) :
    readRaw skipping state raw =
      ({ helpRead skipping state raw with afterBlank := false },
        some (.source text)) := by
  rw [readRaw_eq_handle] at sources ⊢
  have source := Reading.kind_of_handle sources
  rw [Reading.handle, source, fst_readingOf_of_source source]

end Stanza

namespace Resolution

/-- What has been gathered when a `source` line has been handled: what there was
before, the issue of the line, or what its target has added.  A target that has been
opened and could not be read to its end does not occur: what is refused in there has
been caught in there. -/
theorem gathered_of_followSource
    {tree : FileTree} {settings : Settings} {root : Path} {chain : List Location}
    {file : Location}
    {text : String} {gathered later : Result} {ending : Ending}
    (handled :
      followSource tree settings root chain file text gathered = (.ok ending, later)) :
    match ending with
    | .filtered _ => later = gathered
    | .gaveUp cause => later = gathered.withIssue file cause.message
    | .read target =>
      ∃ inside,
        readFile tree settings root (target :: chain) target gathered =
          (.ok (), inside) ∧
          later = inside.withDirectory target.path.parent := by
  rw [followSource_eq] at handled
  cases aimed : aim tree settings root chain text with
  | fault failure =>
      rw [aimed] at handled
      cases handled
  | filtered _ | skipped _ | locked _ _ =>
      rw [aimed] at handled
      cases handled
      rfl
  | follow target content =>
      rw [aimed] at handled
      dsimp only at handled
      split at handled
      next inside read =>
        cases handled
        refine ⟨inside, ?_, rfl⟩
        rw [readFile, opening_eq, (of_aim_follow aimed).2]
        exact read
      next error place inside raised =>
        cases eq_nullByte_of_readLines (target :: chain) (congrArg Prod.fst raised)
      · cases handled

/-- The program that raises and catches failures is the resolution.  Whatever has been
gathered and whichever files are being read, handling a `source` line raises nothing but
NUL, and so nothing that the file system refuses.  If the target is filtered out, all
stays as it was; if the line is given up, the issue of that line has been recorded, and
all else is as it was; and otherwise the target has been read, and nothing but its
directory has been added for the line.  The file then goes on with the line behind, in
the state in which the line was handled, but for the flag of a blank line; the component
that the next attributes belong to is the one from before. -/
theorem failing_branch_leaves_issue (tree : FileTree) (settings : Settings)
    (entry : Path) :
    attempt tree settings entry = (run tree settings entry).1 ∧
      ∀ chain file text gathered outcome later,
        followSource tree settings (chooseRoot tree settings entry).1 chain file text
            gathered =
          (outcome, later) →
          (∀ failure, outcome = .error failure → failure = .nullByte) ∧
            (∀ target, outcome = .ok (.filtered target) → later = gathered) ∧
            (∀ cause, outcome = .ok (.gaveUp cause) →
              later =
                { gathered with
                  issues :=
                    gathered.issues ++ [⟨file.path.toString, cause.message⟩] }) ∧
            (∀ target, outcome = .ok (.read target) →
              ∃ inside,
                readFile tree settings (chooseRoot tree settings entry).1
                  (target :: chain) target gathered = (.ok (), inside) ∧
                  later = inside.withDirectory target.path.parent) ∧
            ∀ state raw rest,
              (Stanza.readRaw settings.skipHelp state raw).2 = some (.source text) →
                (Stanza.helpRead settings.skipHelp state raw).current = state.current ∧
                  ∀ ending, outcome = .ok ending →
                    readLines tree settings (chooseRoot tree settings entry).1 chain
                      file state (raw :: rest) gathered =
                      readLines tree settings (chooseRoot tree settings entry).1
                        chain file
                        { Stanza.helpRead settings.skipHelp state raw with
                          afterBlank := false }
                        rest later := by
  refine ⟨attempt_eq_run tree settings entry, ?_⟩
  intro chain file text gathered outcome later handled
  have raisesNull : ∀ failure, outcome = .error failure → failure = .nullByte := by
    rintro failure rfl
    exact eq_nullByte_of_followSource
      (fun _ target _ _ _ _ inside => eq_nullByte_of_readLines (target :: chain) inside)
      (congrArg Prod.fst handled)
  refine ⟨raisesNull, ?_, ?_, ?_, ?_⟩
  · rintro target rfl
    exact gathered_of_followSource handled
  · rintro cause rfl
    exact gathered_of_followSource handled
  · rintro target rfl
    exact gathered_of_followSource handled
  · intro state raw rest sources
    refine ⟨Stanza.current_helpRead settings.skipHelp state raw, ?_⟩
    rintro ending rfl
    rw [readLines_cons, Stanza.readRaw_of_source sources]
    dsimp only
    rw [handled]

/-- A directory with a file and another one that may not be read. -/
def lockedTree : FileTree :=
  ⟨["k"],
    [(["k"], .openDirectory), (["k", "out"], .file [] true),
      (["k", "in"], .file [] false)]⟩

/-- What has been gathered when the file has opened a component. -/
def gatheredBefore : Result :=
  ⟨⟨[{ name := "A", occurrences := 1, files := ["/k/out"] }]⟩, [],
    [⟨.root, ["k", "out"]⟩], []⟩

/-- What has been gathered when the file has tried to source the other one. -/
def gatheredBehind : Result :=
  { gatheredBefore with
    issues := [⟨"/k/out", "cannot read /k/in: [Errno 13] Permission denied: '/k/in'"⟩] }

/-- A line that sources the file which may not be read leaves its issue, and the
component that was open goes on with the line behind. -/
theorem failing_branch_leaves_issue_locked :
    followSource lockedTree nestedSettings ⟨.root, ["k"]⟩ [["k", "out"]]
      ["k", "out"] "in" gatheredBefore =
      (.ok (.gaveUp (.unreadable ["k", "in"] .permissionDenied)), gatheredBehind) ∧
      (Stanza.readRaw nestedSettings.skipHelp
        { current := some "A", afterBlank := true } "source \"in\"".toList).2 =
          some (.source "in") ∧
      readLines lockedTree nestedSettings ⟨.root, ["k"]⟩ [["k", "out"]] ["k", "out"]
          { current := some "A", afterBlank := true }
          ["source \"in\"".toList, "default y".toList] gatheredBefore =
        readLines lockedTree nestedSettings ⟨.root, ["k"]⟩ [["k", "out"]] ["k", "out"]
          { current := some "A" } ["default y".toList] gatheredBehind := by
  have aimed : aim lockedTree nestedSettings ⟨.root, ["k"]⟩ [["k", "out"]] "in" =
      .locked ["k", "in"] .permissionDenied := by
    cbv
  have handled : followSource lockedTree nestedSettings ⟨.root, ["k"]⟩ [["k", "out"]]
        ["k", "out"] "in" gatheredBefore =
      (.ok (.gaveUp (.unreadable ["k", "in"] .permissionDenied)), gatheredBehind) := by
    rw [followSource_eq, aimed]
    exact Prod.ext rfl (by decide +kernel)
  have sources : (Stanza.readRaw nestedSettings.skipHelp
        { current := some "A", afterBlank := true } "source \"in\"".toList).2 =
      some (.source "in") := by
    rfl
  obtain ⟨-, lines⟩ :=
    failing_branch_leaves_issue lockedTree nestedSettings ⟨.working, ["out"]⟩
  obtain ⟨-, -, -, -, goesOn⟩ :=
    lines [["k", "out"]] ["k", "out"] "in" gatheredBefore _ _ handled
  exact ⟨handled, sources, (goesOn _ _ ["default y".toList] sources).2 _ rfl⟩

end Resolution
end KernelInventory
