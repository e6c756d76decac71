import KernelInventory.Proofs.Resolution.Moment
import Mathlib.Data.List.Dedup
import Mathlib.Data.List.Perm.Subperm

/-!
# Files that source each other

A `source` line opens no file that is being read already, however its target is
spelled: targets are compared by the locations that their paths lead to.  At every
moment of a resolution the open files are therefore different ones, and the innermost
of them has them all on its chain.
-/

namespace KernelInventory

namespace FileTree

/-- The locations that paths without links lead to: the root, and all
entries that are no links. -/
def canonicalLocations (tree : FileTree) : List Location :=
  ([] :: tree.locations).dedup.filter fun location =>
    !(tree.node? location).any Node.isLink

theorem nil_mem_canonicalLocations (tree : FileTree) :
    [] ∈ tree.canonicalLocations := by
  simp [canonicalLocations, Node.isLink, Node.openDirectory]

theorem mem_canonicalLocations_of_readAt
    {tree : FileTree} {location : Location} {bytes : List UInt8}
    (readable : tree.readAt location = .ok bytes) :
    location ∈ tree.canonicalLocations := by
  have member := (mem_locations_of_readAt readable).2
  rw [canonicalLocations, List.mem_filter, List.mem_dedup]
  refine ⟨List.mem_cons_of_mem [] member, ?_⟩
  rw [readAt] at readable
  split at readable
  next content mayRead found =>
    rw [found]
    rfl
  · cases readable
  · cases readable

end FileTree

namespace Resolution

/-! ## The open files -/

/-- Open files are nested: every chain holds its file and the files around it, no file
is open twice, every file has been found by its location, and all files but the
innermost one have been opened. -/
structure Nested (tree : FileTree) (frames : List Frame) : Prop where
  chains : ∀ frame outer, frame :: outer <:+ frames →
    frame.chain = (frame :: outer).map (·.file)
  distinct : (frames.map (·.file)).Nodup
  canonical : ∀ frame ∈ frames, ∃ path, tree.realLocation path = .ok frame.file
  waiting : ∀ frame ∈ frames.tail, frame.rest.isSome
  readable : ∀ frame ∈ frames, frame.rest.isSome →
    ∃ bytes, tree.openAt frame.file = .ok bytes

namespace Nested

variable {tree : FileTree} {frame : Frame} {outer frames : List Frame}

theorem nil : Nested tree [] where
  chains := by
    intro frame outer inside
    simp at inside
  distinct := List.nodup_nil
  canonical := by simp
  waiting := by simp
  readable := by simp

/-- The files around an open file are nested. -/
theorem close (nested : Nested tree (frame :: outer)) : Nested tree outer where
  chains := fun inner around inside =>
    nested.chains inner around (inside.trans (List.suffix_cons frame outer))
  distinct := (List.nodup_cons.mp nested.distinct).2
  canonical := fun other member =>
    nested.canonical other (List.mem_cons_of_mem frame member)
  waiting := fun other member => nested.waiting other (List.mem_of_mem_tail member)
  readable := fun other member =>
    nested.readable other (List.mem_cons_of_mem frame member)

/-- An open file that can be read may go on reading. -/
theorem advance
    (nested : Nested tree (frame :: outer))
    {bytes : List UInt8}
    (read : tree.openAt frame.file = .ok bytes)
    (state : Stanza.State)
    (rest : Option (List (List Char))) :
    Nested tree ({ frame with state := state, rest := rest } :: outer) where
  chains := by
    intro inner around inside
    rcases List.suffix_cons_iff.mp inside with same | deeper
    · obtain ⟨rfl, rfl⟩ := List.cons.inj same
      exact nested.chains frame around (List.suffix_refl _)
    · exact nested.close.chains inner around deeper
  distinct := nested.distinct
  canonical := by
    intro other member
    rcases List.mem_cons.mp member with rfl | deeper
    · exact nested.canonical frame List.mem_cons_self
    · exact nested.close.canonical other deeper
  waiting := nested.waiting
  readable := by
    intro other member started
    rcases List.mem_cons.mp member with rfl | deeper
    · exact ⟨bytes, read⟩
    · exact nested.close.readable other deeper started

/-- A file that is not on the chain may be put on top. -/
theorem push
    (nested : Nested tree (frame :: outer))
    (started : frame.rest.isSome)
    {target : Location}
    (found : ∃ path, tree.realLocation path = .ok target)
    (fresh : target ∉ frame.chain) :
    Nested tree
      ({ file := target, chain := target :: frame.chain } :: frame :: outer) where
  chains := by
    intro inner around inside
    rcases List.suffix_cons_iff.mp inside with same | deeper
    · obtain ⟨rfl, rfl⟩ := List.cons.inj same
      rw [List.map_cons, nested.chains frame outer (List.suffix_refl _)]
    · exact nested.chains inner around deeper
  distinct := by
    rw [nested.chains frame outer (List.suffix_refl _)] at fresh
    exact List.nodup_cons.mpr ⟨fresh, nested.distinct⟩
  canonical := by
    intro other member
    rcases List.mem_cons.mp member with rfl | deeper
    · exact found
    · exact nested.canonical other deeper
  waiting := by
    intro other member
    rcases List.mem_cons.mp member with rfl | deeper
    · exact started
    · exact nested.waiting other deeper
  readable := by
    intro other member opened
    rcases List.mem_cons.mp member with rfl | deeper
    · cases opened
    · exact nested.readable other deeper opened

/-- Files nest no deeper than there are locations that paths without links lead to. -/
theorem length_le (nested : Nested tree frames) :
    frames.length ≤ tree.canonicalLocations.length := by
  cases frames with
  | nil => exact Nat.zero_le _
  | cons frame outer =>
      have read : ∀ file ∈ outer.map (·.file), ∃ bytes,
          tree.readAt file = .ok bytes := by
        intro file member
        obtain ⟨other, there, rfl⟩ := List.mem_map.mp member
        obtain ⟨bytes, opened⟩ :=
          nested.close.readable other there (nested.waiting other there)
        exact ⟨bytes, FileTree.readAt_of_openAt opened⟩
      -- the innermost file may turn out to be a directory; the root makes up for it
      have distinct : ([] :: outer.map (·.file)).Nodup := by
        refine List.nodup_cons.mpr ⟨?_, nested.close.distinct⟩
        intro member
        obtain ⟨bytes, readable⟩ := read [] member
        exact (FileTree.mem_locations_of_readAt readable).1 rfl
      have places : ([] :: outer.map (·.file)) ⊆ tree.canonicalLocations := by
        intro file member
        rcases List.mem_cons.mp member with rfl | deeper
        · exact tree.nil_mem_canonicalLocations
        · obtain ⟨bytes, readable⟩ := read file deeper
          exact FileTree.mem_canonicalLocations_of_readAt readable
      simpa using (List.subperm_of_subset distinct places).length_le

end Nested

section Steps

variable {tree : FileTree} {settings : Settings} {entry : Path}

/-- The entry file is open alone. -/
theorem nested_start (tree : FileTree) (entry : Path) :
    Nested tree (start tree entry).frames := by
  rw [start]
  cases found : tree.realLocation entry with
  | error failure => exact Nested.nil
  | ok file =>
      refine ⟨?_, List.nodup_singleton _, ?_, ?_, ?_⟩
      · intro frame outer inside
        have whole := (List.suffix_cons_iff.mp inside).resolve_right (by simp)
        obtain ⟨rfl, rfl⟩ := List.cons.inj whole
        rfl
      · intro frame member
        rw [List.mem_singleton.mp member]
        exact ⟨entry, found⟩
      · simp
      · intro frame member opened
        rw [List.mem_singleton.mp member] at opened
        cases opened

/-- Opening a file, whether it succeeds or not, leaves the open files nested. -/
theorem nested_openFile
    {frame : Frame} {outer : List Frame}
    (nested : Nested tree (frame :: outer))
    (events : List Event) :
    Nested tree (openFile tree entry frame outer events).frames := by
  unfold openFile
  cases read : tree.openAt frame.file with
  | ok bytes => exact nested.advance read frame.state (some (linesOf bytes))
  | error error =>
      cases outer with
      | nil => exact Nested.nil
      | cons caller around => exact nested.close

/-- Handling a line leaves the open files nested. -/
theorem nested_handle
    {frame : Frame} {outer : List Frame}
    (nested : Nested tree (frame :: outer))
    (started : frame.rest.isSome)
    (events : List Event)
    (said : Stanza.Entry) :
    Nested tree (handle tree settings entry frame outer events said).frames := by
  cases said with
  | effect change => exact nested
  | source text =>
      rw [handle]
      cases aimed : aim tree settings (chooseRoot tree settings entry).1
        frame.chain text with
      | filtered target => exact nested
      | skipped cause => exact nested
      | locked target error =>
          obtain ⟨found, fresh⟩ := of_aim_enters (Or.inl ⟨error, aimed⟩)
          exact nested.push started ⟨_, found⟩ fresh
      | follow target content =>
          obtain ⟨found, fresh⟩ := of_aim_enters (Or.inr ⟨content, aimed⟩)
          exact nested.push started ⟨_, found⟩ fresh
      | fault failure => exact Nested.nil

/-- Every step leaves the open files nested. -/
theorem nested_step
    {moment : Moment}
    (nested : Nested tree moment.frames) :
    Nested tree (step tree settings entry moment).frames := by
  obtain ⟨frames, events, failure⟩ := moment
  cases frames with
  | nil => exact nested
  | cons frame outer =>
      obtain ⟨file, chain, state, rest⟩ := frame
      cases rest with
      | none => exact nested_openFile nested events
      | some lines =>
          cases lines with
          | nil => exact nested.close
          | cons raw rest =>
              obtain ⟨bytes, read⟩ := nested.readable _ List.mem_cons_self rfl
              have advanced := nested.advance read
                (Stanza.readRaw settings.skipHelp state raw).1 (some rest)
              rw [step]
              dsimp only
              cases (Stanza.readRaw settings.skipHelp state raw).2 with
              | none => exact advanced
              | some said => exact nested_handle advanced rfl events said

/-- At every moment the open files are nested. -/
theorem nested_momentAfter (tree : FileTree) (settings : Settings) (entry : Path)
    (count : Nat) :
    Nested tree (momentAfter tree settings entry count).frames := by
  induction count with
  | zero => exact nested_start tree entry
  | succ count inductionHypothesis =>
      rw [momentAfter_succ]
      exact nested_step inductionHypothesis

/-- A `source` line whose target is followed, but is being read already, does
nothing but record a cycle. -/
theorem step_of_cycle
    {moment : Moment} {frame : Frame} {outer : List Frame} {raw : List Char}
    {rest : List (List Char)} {text : String} {target : Location}
    (frames : moment.frames = frame :: outer)
    (next : frame.rest = some (raw :: rest))
    (sources : (Stanza.readRaw settings.skipHelp frame.state raw).2 =
      some (.source text))
    (found : tree.realLocation
      ((chooseRoot tree settings entry).1 / Path.ofString text) =
      .ok target)
    (follows : selected settings target = true)
    (member : target ∈ frame.chain) :
    step tree settings entry moment =
      ⟨{ frame with
            state := (Stanza.readRaw settings.skipHelp frame.state raw).1
            rest := some rest } :: outer,
        moment.events ++ [.skipped frame.file (.cycle target)], none⟩ := by
  obtain ⟨_, events, failure⟩ := moment
  obtain rfl : _ = frame :: outer := frames
  obtain ⟨file, chain, state, _⟩ := frame
  obtain rfl : _ = some (raw :: rest) := next
  rw [step]
  dsimp only at sources ⊢
  rw [sources]
  dsimp only
  rw [handle, (Aims.cycle found follows member).eq]

end Steps

/-- Every resolution comes to an end, with what it returns.  At every moment the open
files are different ones, each found by its location, and lie on the chain of the
innermost file and, from any other file on, on the chain of that file; so they nest no
deeper than there are canonical locations. A `source` line that would be followed, but
leads to one of them, opens nothing and records one issue, the cycle. -/
theorem open_files_nest (tree : FileTree) (settings : Settings) (entry : Path) :
    (∃ count,
      (momentAfter tree settings entry count).frames = [] ∧
        (momentAfter tree settings entry count).outcome = (run tree settings entry).1) ∧
      (∀ count,
        (momentAfter tree settings entry count).files.Nodup ∧
          (∀ frame outer, frame :: outer <:+
            (momentAfter tree settings entry count).frames →
            frame.chain = (frame :: outer).map (·.file)) ∧
          (∀ file ∈ (momentAfter tree settings entry count).files,
            ∃ path, tree.realLocation path = .ok file) ∧
          (momentAfter tree settings entry count).frames.length ≤
            tree.canonicalLocations.length) ∧
      ∀ count frame outer raw rest text target,
        (momentAfter tree settings entry count).frames = frame :: outer →
        frame.rest = some (raw :: rest) →
        (Stanza.readRaw settings.skipHelp frame.state raw).2 = some (.source text) →
        tree.realLocation ((chooseRoot tree settings entry).1 / Path.ofString text) =
          .ok target →
        selected settings target = true →
        target ∈ (momentAfter tree settings entry count).files →
        (momentAfter tree settings entry (count + 1)).files =
            (momentAfter tree settings entry count).files ∧
          (momentAfter tree settings entry (count + 1)).events =
            (momentAfter tree settings entry count).events ++
              [.skipped frame.file (.cycle target)] ∧
          (momentAfter tree settings entry (count + 1)).issues =
            (momentAfter tree settings entry count).issues ++
              [⟨frame.file.path.toString, (SkipCause.cycle target).message⟩] := by
  refine ⟨exists_end tree settings entry, ?_, ?_⟩
  · intro count
    have nested := nested_momentAfter tree settings entry count
    refine ⟨nested.distinct, nested.chains, ?_, nested.length_le⟩
    intro file member
    obtain ⟨frame, there, rfl⟩ := List.mem_map.mp member
    exact nested.canonical frame there
  · intro count frame outer raw rest text target frames next sources found
      follows member
    have nested := nested_momentAfter tree settings entry count
    have onChain : target ∈ frame.chain := by
      rw [Moment.files, frames] at member
      rwa [nested.chains frame outer (frames ▸ List.suffix_refl _)]
    rw [momentAfter_succ, step_of_cycle frames next sources found follows onChain]
    refine ⟨?_, rfl, ?_⟩
    · rw [Moment.files, Moment.files, frames]
      rfl
    · rw [Moment.issues, List.filterMap_append]
      rfl

/-- A file that does nothing but source the inner one. -/
def outerLine : List UInt8 :=
  Text.Utf8.encode "source \"in\"\n".toList

/-- A file that does nothing but source the outer one, by another
spelling of its path. -/
def innerLine : List UInt8 :=
  Text.Utf8.encode "source \"../k//out\"\n".toList

/-- After three steps the inner file comes to the line that leads back to the outer
one. -/
theorem momentAfter_two_lines :
    momentAfter (twoFiles outerLine innerLine) nestedSettings ⟨.working, ["out"]⟩ 3 =
      ⟨[⟨["k", "in"], [["k", "in"], ["k", "out"]], {},
        some ["source \"../k//out\"".toList]⟩,
          ⟨["k", "out"], [["k", "out"]], {}, some []⟩],
        [.opened ["k", "out"], .entering ["k", "in"] ["k", "out"], .opened ["k", "in"]],
        none⟩ := by
  obtain ⟨found, readOuter⟩ :=
    openEntry_eq_ok_iff.mp (openEntry_twoFiles outerLine innerLine)
  have followed := aim_twoFiles_follow outerLine innerLine
  have readInner := (of_aim_follow followed).2
  have outerLines : linesOf outerLine = ["source \"in\"".toList] := by
    rfl
  have innerLines : linesOf innerLine = ["source \"../k//out\"".toList] := by
    rfl
  have sources : Stanza.readRaw nestedSettings.skipHelp {} "source \"in\"".toList =
      ({}, some (.source "in")) := by
    rfl
  have root : (chooseRoot (twoFiles outerLine innerLine) nestedSettings
      ⟨.working, ["out"]⟩).1 = ⟨.root, ["k"]⟩ := rfl
  rw [momentAfter_succ, momentAfter_succ, momentAfter_succ, momentAfter,
    Function.iterate_zero_apply, start, found]
  simp only [step, openFile, readOuter, outerLines, sources, handle, root, followed,
    readInner, innerLines]
  rfl

/-- The line that leads back to the outer file, by another spelling, leaves both files
open and records a cycle. -/
theorem open_files_nest_two_lines :
    ∃ frame outer raw rest text target,
      (momentAfter (twoFiles outerLine innerLine) nestedSettings ⟨.working, ["out"]⟩
        3).frames =
          frame :: outer ∧
        frame.rest = some (raw :: rest) ∧
        (Stanza.readRaw nestedSettings.skipHelp frame.state raw).2 =
          some (.source text) ∧
        target ∈
          (momentAfter (twoFiles outerLine innerLine) nestedSettings ⟨.working, ["out"]⟩
            3).files ∧
        (momentAfter (twoFiles outerLine innerLine) nestedSettings ⟨.working, ["out"]⟩
          4).files =
          [["k", "in"], ["k", "out"]] ∧
        (momentAfter (twoFiles outerLine innerLine) nestedSettings ⟨.working, ["out"]⟩
          4).issues =
          [⟨"/k/in", "source cycle through /k/out"⟩] := by
  have moment := momentAfter_two_lines
  have sources :
      (Stanza.readRaw nestedSettings.skipHelp {} "source \"../k//out\"".toList).2 =
      some (.source "../k//out") := by
    rfl
  have found : (twoFiles outerLine innerLine).realLocation
      (⟨.root, ["k"]⟩ / Path.ofString "../k//out") = .ok ["k", "out"] := by
    generalize outerLine = outer
    generalize innerLine = inner
    cbv
  have member : ["k", "out"] ∈
      (momentAfter (twoFiles outerLine innerLine) nestedSettings ⟨.working, ["out"]⟩
        3).files := by
    rw [moment]
    decide
  obtain ⟨-, -, cycles⟩ :=
    open_files_nest (twoFiles outerLine innerLine) nestedSettings ⟨.working, ["out"]⟩
  obtain ⟨files, -, issues⟩ :=
    cycles 3 _ _ _ _ _ _ (congrArg Moment.frames moment) rfl sources found rfl member
  refine ⟨_, _, _, _, _, _, congrArg Moment.frames moment, rfl, sources, member, ?_, ?_⟩
  · rw [files, moment]
    rfl
  · rw [issues, moment]
    rfl

end Resolution
end KernelInventory
