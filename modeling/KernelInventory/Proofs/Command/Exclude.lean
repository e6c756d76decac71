import KernelInventory.Proofs.Command.Stops
import KernelInventory.Proofs.LineCount.Subtree
import KernelInventory.Proofs.Walk.Narrowing

/-!
# Excluding more

A pattern that is added to others leaves a walk with fewer files if it excludes, and
with more if it takes back; the files that both walks yield stand in one order.  A count
of lines adds up the files of its walk that can be read, and a run of the command reads
its exclusion from the patterns on its command line.  So no file is counted because one
more pattern excludes something.
-/

namespace KernelInventory

namespace LineStatistics

/-- The files that a count adds up: those that can be read. -/
def countedIn (tree : FileTree) (paths : List Path) : List Path :=
  paths.filter fun path => (countIn? tree path).isSome

theorem filterMap_countedIn (tree : FileTree) (paths : List Path) :
    (countedIn tree paths).filterMap (countIn? tree) = paths.filterMap
      (countIn? tree) := by
  rw [countedIn, List.filterMap_filter]
  refine List.filterMap_congr fun path _ => ?_
  cases countIn? tree path <;> rfl

end LineStatistics

namespace Command

open Exclusion (ReadAs)
open Walk LineStatistics Work

/-- The exclusion that a run works with is read from its patterns. -/
theorem readAs_of_prepare
    {tree : FileTree} {options : Options} {context : Context}
    (prepared : (prepare tree options).outcome = .ok context) :
    ReadAs (options.exclude.map (·.getD "")) context.exclusion := by
  obtain ⟨text, version, exclusion, -, -, -, exclusive, rfl⟩ :=
    outcome_prepare_iff.mp prepared
  unfold exclusionOf at exclusive
  split at exclusive
  next empty =>
    cases exclusive
    refine Or.inl ⟨rfl, ?_⟩
    rw [List.isEmpty_iff.mp empty, List.map_nil]
  · cases found : Exclusion.ofPatterns (options.exclude.map (·.getD "")) with
    | error failure =>
        rw [found] at exclusive
        cases exclusive
    | ok patterns =>
        rw [found] at exclusive
        cases exclusive
        exact Or.inr ⟨patterns, rfl, found⟩

/-! ## One more pattern -/

/-- Whatever is put among the patterns of a walk, at any place: if it is a pattern that
excludes, the files with it are a sublist of the files without it, and so are the files
that a count adds up; if it is one that takes back, it is the other way round.  The
exclusion of a run of the command is read from the patterns of its options. -/
theorem further_pattern_narrows_walks
    {tree : FileTree} {base : Option Path} {root : Path} {before after : List String}
    {text : String} {fewer more : Option Exclusion} {paths pathsMore : List Path}
    (readFewer : ReadAs (before ++ after) fewer)
    (readMore : ReadAs (before ++ text :: after) more)
    (walked : (files tree fewer base root).1 = .ok paths)
    (walkedMore : (files tree more base root).1 = .ok pathsMore) :
    (Pattern.isNegated text = false →
        pathsMore.Sublist paths ∧
          (countedIn tree pathsMore).Sublist (countedIn tree paths)) ∧
      (Pattern.isNegated text = true →
        paths.Sublist pathsMore ∧
          (countedIn tree paths).Sublist (countedIn tree pathsMore)) ∧
      (ofDirectory tree fewer base root).1 =
        .ok (ofCounts ((countedIn tree paths).filterMap (countIn? tree))) ∧
      (ofDirectory tree more base root).1 =
        .ok (ofCounts ((countedIn tree pathsMore).filterMap (countIn? tree))) ∧
      ∀ (options : Options) (context : Context),
      (prepare tree options).outcome = .ok context →
        ReadAs (options.exclude.map (·.getD "")) context.exclusion := by
  obtain ⟨excluding, keeping⟩ := readFewer.skipsWithin_insert readMore
  refine ⟨fun plain => ?_, fun negated => ?_, ?_, ?_, fun _ _ => readAs_of_prepare⟩
  · have sublist := files_sublist (excluding plain) walked walkedMore
    exact ⟨sublist, sublist.filter _⟩
  · have sublist := files_sublist (keeping negated) walkedMore walked
    exact ⟨sublist, sublist.filter _⟩
  · rw [filterMap_countedIn, ofDirectory_of_files walked]
  · rw [filterMap_countedIn, ofDirectory_of_files walkedMore]

/-- A directory with two sources. -/
def twoSources : FileTree :=
  ⟨[], [(["a.c"], .file [120, 10] true), (["b.c"], .file [10] true)]⟩

/-- The pattern that takes back what is named `a.c`. -/
def keepsFirst : Pattern :=
  ⟨false,
    .pieces [.leadingDirectories, .literal 'a', .literal '.', .literal 'c', .finish]⟩

/-- The pattern that excludes sources. -/
def skipsSources : Pattern :=
  ⟨true, .pieces [.leadingDirectories, .nameRun, .literal '.', .literal 'c', .finish]⟩

theorem files_twoSources :
    (files twoSources (some ⟨[keepsFirst]⟩) none ⟨.root, []⟩).1 =
        .ok [⟨.root, ["a.c"]⟩, ⟨.root, ["b.c"]⟩] ∧
      (files twoSources (some ⟨[skipsSources, keepsFirst]⟩) none ⟨.root, []⟩).1 =
        .ok [⟨.root, ["a.c"]⟩] := by
  have listed : twoSources.list ⟨.root, []⟩ = .ok ["a.c", "b.c"] := by cbv
  have height : twoSources.height = 1 := by cbv
  have first : twoSources.isFile ⟨.root, ["a.c"]⟩ = .ok true := by cbv
  have second : twoSources.isFile ⟨.root, ["b.c"]⟩ = .ok true := by cbv
  have skips :
      Scope.skips ⟨⟨.root, []⟩, some ⟨[keepsFirst]⟩, []⟩ ["a.c"] false = false ∧
        Scope.skips ⟨⟨.root, []⟩, some ⟨[keepsFirst]⟩, []⟩ ["b.c"] false = false ∧
        Scope.skips ⟨⟨.root, []⟩, some ⟨[skipsSources, keepsFirst]⟩, []⟩ ["a.c"]
          false = false ∧
        Scope.skips ⟨⟨.root, []⟩, some ⟨[skipsSources, keepsFirst]⟩, []⟩ ["b.c"] false =
          true := by
    decide
  constructor
  all_goals
    simp [files, findings, height, levels_succ, levels_nil, deeper, scan, inspect,
      Scope.path, Path.descend, listed, first, second, isRealDirectory_of_isFile first,
      isRealDirectory_of_isFile second, skips, failure?, List.filterMap_cons,
      Finding.directory?, Finding.file?]
    rfl

/-- Excluding sources in front of a pattern that takes one back leaves that one. -/
theorem further_pattern_narrows_walks_twoSources :
    (files twoSources (some ⟨[skipsSources, keepsFirst]⟩) none ⟨.root, []⟩).1 =
        .ok [⟨.root, ["a.c"]⟩] ∧
      [Path.mk .root ["a.c"]].Sublist [⟨.root, ["a.c"]⟩, ⟨.root, ["b.c"]⟩] := by
  have readLast : Exclusion.ofPatterns ["!a.c"] = .ok ⟨[keepsFirst]⟩ := by
    decide +kernel
  have readBoth : Exclusion.ofPatterns ["*.c", "!a.c"] =
      .ok ⟨[skipsSources, keepsFirst]⟩ := by
    decide +kernel
  have readFewer : ReadAs ([] ++ ["!a.c"]) (some ⟨[keepsFirst]⟩) :=
    Or.inr ⟨_, rfl, readLast⟩
  have readMore :
      ReadAs ([] ++ "*.c" :: ["!a.c"]) (some ⟨[skipsSources, keepsFirst]⟩) :=
    Or.inr ⟨_, rfl, readBoth⟩
  have narrowed :=
    further_pattern_narrows_walks readFewer readMore files_twoSources.1
      files_twoSources.2
  exact ⟨files_twoSources.2, (narrowed.1 (by decide)).1⟩

end Command
end KernelInventory
