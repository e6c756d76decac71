import KernelInventory.Proofs.Exclusion.Insertion
import KernelInventory.Proofs.Pattern.Directory
import KernelInventory.Proofs.Text.Words

/-!
# Directories

Of the patterns that match a text, one decides about it.  A directory is asked about
twice, as a directory and by its name alone, and another pattern may decide each time:
an exclusion skips the directory if either of the two excludes, even where the one for
the directory takes it back.
-/

namespace KernelInventory
namespace Exclusion

/-! ## The deciding pattern -/

/-- The last pattern that matches a text, among those whose match has a
mark that is asked for. -/
def lastMatch? (exclusion : Exclusion) (text : List Char) (asked : Bool → Bool) :
    Option Pattern :=
  exclusion.patterns.reverse.find? fun pattern => (pattern.rule.find? text).any asked

/-- The pattern that decides about a text: the last one that has an unmarked match
there, or else the last one that has any. -/
def decider? (exclusion : Exclusion) (text : List Char) : Option Pattern :=
  (exclusion.lastMatch? text fun marked => !marked).or
    (exclusion.lastMatch? text fun _ => true)

theorem find?_hits (exclusion : Exclusion) (text : List Char) (asked : Bool → Bool) :
    ((exclusion.hits text).find? fun hit => asked hit.2).map (·.1) =
      (exclusion.lastMatch? text asked).map (·.excludes) := by
  unfold hits lastMatch?
  induction exclusion.patterns.reverse with
  | nil => rfl
  | cons pattern others inductionHypothesis =>
      rw [List.filterMap_cons, List.find?_cons]
      cases pattern.rule.find? text with
      | none => exact inductionHypothesis
      | some marked =>
          rw [Option.map_some, List.find?_cons, Option.any_some]
          cases asked marked with
          | true => rfl
          | false => exact inductionHypothesis

/-- A text is excluded if the pattern that decides about it excludes. -/
theorem decides_eq_any_decider? (exclusion : Exclusion) (text : List Char) :
    exclusion.decides text = (exclusion.decider? text).any (·.excludes) := by
  have verdict_eq (hits : List (Bool × Bool)) :
      verdict hits =
        (((hits.find? (!·.2)).map (·.1)).or ((hits.find? fun _ => true).map (·.1))).any
          id := by
    unfold verdict
    cases hits.find? (!·.2) with
    | some first => rfl
    | none => cases hits <;> rfl
  rw [decides_eq_verdict, verdict_eq, find?_hits exclusion text fun marked => !marked,
    find?_hits exclusion text fun _ => true, ← Option.map_or, Option.any_map]
  rfl

theorem decides_iff {exclusion : Exclusion} {text : List Char} :
    exclusion.decides text = true ↔
      ∃ pattern, exclusion.decider? text = some pattern ∧ pattern.excludes = true := by
  rw [decides_eq_any_decider?, Option.any_eq_true]

/-- Some pattern decides about a text if there is one that matches it. -/
theorem isSome_decider?_iff {exclusion : Exclusion} {text : List Char} :
    (exclusion.decider? text).isSome ↔
      ∃ pattern ∈ exclusion.patterns, (pattern.rule.find? text).isSome := by
  rw [decider?, lastMatch?, lastMatch?, Option.isSome_or, Bool.or_eq_true,
    List.find?_isSome, List.find?_isSome]
  simp only [List.mem_reverse, Option.any_true]
  refine ⟨?_, Or.inr⟩
  rintro (⟨pattern, isOne, unmarked⟩ | found)
  · obtain ⟨marked, found, -⟩ := (Option.any_eq_true _ _).mp unmarked
    exact ⟨pattern, isOne, Option.isSome_of_eq_some found⟩
  · exact found

theorem mem_of_decider?_eq_some
    {exclusion : Exclusion} {text : List Char} {pattern : Pattern}
    (decides : exclusion.decider? text = some pattern) :
    pattern ∈ exclusion.patterns := by
  rcases Option.or_eq_some_iff.mp decides with unmarked | ⟨-, marked⟩
  · exact List.mem_reverse.mp (List.mem_of_find?_eq_some unmarked)
  · exact List.mem_reverse.mp (List.mem_of_find?_eq_some marked)

/-! ## The two texts of a directory -/

/-- The text of a path without the separators at its ends. -/
def nameOf (path : String) : List Char :=
  Text.dropEndsWhile (· == '/') path.toList

/-- The text that a path is asked about by its name. -/
def asName (path : String) : List Char :=
  plain (nameOf path)

/-- The text that a path is asked about as a directory. -/
def asDirectory (path : String) : List Char :=
  plain (nameOf path ++ ['/'])

theorem plain_suffix (text : List Char) : plain text <:+ text := by
  unfold plain
  split
  · exact List.suffix_cons _ _
  · exact (List.suffix_cons _ _).trans (List.suffix_cons _ _)
  · exact List.suffix_refl _

theorem head?_nameOf (path : String) : (nameOf path).head? ≠ some '/' := by
  intro first
  have kept := Text.head?_dropEndsWhile (· == '/') path.toList '/' first
  simp at kept

/-- A directory is asked about by its name with a separator behind it. -/
theorem asDirectory_eq
    {path : String}
    (named : nameOf path ≠ [])
    (noDot : nameOf path ≠ ['.']) :
    asDirectory path = asName path ++ ['/'] := by
  have first := head?_nameOf path
  unfold asDirectory asName
  generalize nameOf path = name at *
  cases name with
  | nil => exact absurd rfl named
  | cons c others =>
      have noSeparator : c ≠ '/' := fun same => first (by rw [same, List.head?_cons])
      cases others with
      | nil =>
          have noDot : c ≠ '.' := fun same => noDot (by rw [same])
          simp [plain, noSeparator, noDot]
      | cons second rest =>
          by_cases dotted : c = '.' ∧ second = '/'
          · obtain ⟨rfl, rfl⟩ := dotted
            rfl
          · have kept (behind : List Char) :
                plain (c :: second :: behind) = c :: second :: behind := by
              unfold plain
              split
              next same =>
                exact absurd (List.cons.inj same).1 noSeparator
              next same =>
                obtain ⟨isDot, others⟩ := List.cons.inj same
                exact absurd ⟨isDot, (List.cons.inj others).1⟩ dotted
              · rfl
            rw [kept, List.cons_append, List.cons_append, kept]

/-! ## Skipped directories -/

/-- A directory is skipped if what it is asked about is excluded in either way. -/
theorem skips_directory
    (exclusion : Exclusion)
    {path : String}
    (named : nameOf path ≠ []) :
    exclusion.skips path true =
      (exclusion.decides (asName path) || exclusion.decides (asDirectory path)) := by
  have nonempty : (nameOf path).isEmpty = false := List.isEmpty_eq_false_iff.mpr named
  unfold skips
  unfold nameOf at nonempty
  simp only [nonempty, Bool.true_and]
  rfl

/-- A path whose name is that of an entry: not the directory itself, and without a
line feed at the end. -/
structure Regular (path : String) : Prop where
  named : nameOf path ≠ []
  noDot : nameOf path ≠ ['.']
  noFeed : ¬ ['\n'] <:+ nameOf path

/-- If a pattern decides about the name of a directory, then some pattern
decides about the directory. -/
theorem Regular.isSome_decider?
    {exclusion : Exclusion} {path : String}
    (regular : Regular path)
    (decided : (exclusion.decider? (asName path)).isSome) :
    (exclusion.decider? (asDirectory path)).isSome := by
  rw [isSome_decider?_iff] at decided ⊢
  obtain ⟨pattern, isOne, found⟩ := decided
  have noFeed : ¬ ['\n'] <:+ asName path :=
    fun feed => regular.noFeed (feed.trans (plain_suffix _))
  rw [asDirectory_eq regular.named regular.noDot]
  exact ⟨pattern, isOne, Pattern.Rule.isSome_find?_concat noFeed found⟩

/-- Every pattern of an exclusion is read from one of the texts. -/
theorem exists_text_of_mem
    {texts : List String} {exclusion : Exclusion} {pattern : Pattern}
    (read : ofPatterns texts = .ok exclusion)
    (isOne : pattern ∈ exclusion.patterns) :
    ∃ text ∈ texts, Pattern.ofString? text = .ok (some pattern) := by
  induction texts generalizing exclusion with
  | nil =>
      obtain rfl := Except.ok.inj read
      cases isOne
  | cons text rest inductionHypothesis =>
      obtain ⟨first, others, readText, readRest, rfl⟩ :=
        ofPatterns_cons_eq_ok_iff.mp read
      rcases List.mem_append.mp isOne with here | later
      · rw [Option.mem_toList.mp here] at readText
        exact ⟨text, List.mem_cons_self, readText⟩
      · obtain ⟨found, isText, readFound⟩ := inductionHypothesis readRest later
        exact ⟨found, List.mem_cons_of_mem text isText, readFound⟩

/-- If the name of a directory is excluded while the directory is not, then the pattern
that decides about the directory is read from a text that takes back. -/
theorem Regular.exists_negated
    {texts : List String} {exclusion : Exclusion} {path : String}
    (regular : Regular path)
    (read : ofPatterns texts = .ok exclusion)
    (excluded : exclusion.decides (asName path) = true)
    (kept : exclusion.decides (asDirectory path) = false) :
    ∃ pattern, exclusion.decider? (asDirectory path) = some pattern ∧
      ∃ text ∈ texts, Pattern.isNegated text = true ∧
        Pattern.ofString? text = .ok (some pattern) := by
  obtain ⟨first, decided, -⟩ := decides_iff.mp excluded
  obtain ⟨pattern, decides⟩ :=
    Option.isSome_iff_exists.mp
      (regular.isSome_decider? (Option.isSome_of_eq_some decided))
  obtain ⟨text, isText, readText⟩ :=
    exists_text_of_mem read (mem_of_decider?_eq_some decides)
  have sense := Pattern.excludes_of_ofString? readText
  rw [decides_eq_any_decider?, decides, Option.any_some, sense,
    Bool.not_eq_false'] at kept
  exact ⟨pattern, decides, text, isText, kept, readText⟩

/-- A directory that is excluded is skipped.  One that is not is skipped all the same
exactly if the pattern that decides about its name excludes; for a regular path, the one
that decides about the directory is then read from a text that takes back.  So without
such texts, exactly the directories that are excluded are skipped. -/
theorem directory_skipped_iff
    {texts : List String} {exclusion : Exclusion} {path : String}
    (read : ofPatterns texts = .ok exclusion)
    (named : nameOf path ≠ []) :
    (exclusion.decides (asDirectory path) = true → exclusion.skips path true = true) ∧
      (exclusion.decides (asDirectory path) = false →
        (exclusion.skips path true = true ↔
          ∃ pattern, exclusion.decider? (asName path) = some pattern ∧
            pattern.excludes = true)) ∧
      (Regular path →
        (exclusion.skips path true ≠ exclusion.decides (asDirectory path) ↔
          (∃ pattern, exclusion.decider? (asName path) = some pattern ∧
            pattern.excludes = true) ∧
          ∃ pattern, exclusion.decider? (asDirectory path) = some pattern ∧
            ∃ text ∈ texts, Pattern.isNegated text = true ∧
              Pattern.ofString? text = .ok (some pattern))) ∧
      (Regular path → (∀ text ∈ texts, Pattern.isNegated text = false) →
        exclusion.skips path true = exclusion.decides (asDirectory path)) := by
  rw [skips_directory exclusion named, ← decides_iff]
  refine ⟨fun excluded => ?_, fun kept => ?_, fun regular => ⟨fun differ => ?_, ?_⟩,
    fun regular none => ?_⟩
  · rw [excluded, Bool.or_true]
  · rw [kept, Bool.or_false]
  · cases kept : exclusion.decides (asDirectory path) with
    | true => simp [kept] at differ
    | false =>
        have excluded : exclusion.decides (asName path) = true := by
          simpa [kept] using differ
        exact ⟨excluded, regular.exists_negated read excluded kept⟩
  · rintro ⟨excluded, pattern, decides, text, -, negated, readText⟩
    have sense := Pattern.excludes_of_ofString? readText
    rw [excluded, decides_eq_any_decider?, decides, Option.any_some, sense, negated]
    decide
  · cases kept : exclusion.decides (asDirectory path) with
    | true => rw [Bool.or_true]
    | false =>
        rw [Bool.or_false, Bool.eq_false_iff]
        intro excluded
        obtain ⟨-, -, text, isText, negated, -⟩ :=
          regular.exists_negated read excluded kept
        rw [none text isText] at negated
        cases negated

/-- The patterns that exclude everything named `build`, and take the
directories among it back. -/
def buildFiles : Exclusion :=
  let name :=
    [.leadingDirectories, .literal 'b', .literal 'u', .literal 'i', .literal 'l',
      .literal 'd']
  ⟨[⟨true, .pieces (name ++ [.finish])⟩, ⟨false, .pieces (name ++ [.separator true])⟩]⟩

theorem ofPatterns_buildFiles : ofPatterns ["build", "!build/"] = .ok buildFiles := by
  decide +kernel

theorem directory_skipped_iff_buildFiles :
    ofPatterns ["build", "!build/"] = .ok buildFiles ∧ Regular "build" ∧
      buildFiles.decides (asDirectory "build") = false ∧
      buildFiles.skips "build" true = true ∧
      ∃ pattern, buildFiles.decider? (asDirectory "build") = some pattern ∧
        ∃ text ∈ ["build", "!build/"], Pattern.isNegated text = true ∧
          Pattern.ofString? text = .ok (some pattern) := by
  have regular : Regular "build" := ⟨by decide, by decide, by decide⟩
  have kept : buildFiles.decides (asDirectory "build") = false := by decide
  have excluded : buildFiles.decides (asName "build") = true := by decide
  obtain ⟨-, skippedIff, differIff, -⟩ :=
    directory_skipped_iff ofPatterns_buildFiles regular.named
  have skipped := (skippedIff kept).mpr (decides_iff.mp excluded)
  have differ := (differIff regular).mp (by rw [skipped, kept]; decide)
  exact ⟨ofPatterns_buildFiles, regular, kept, skipped, differ.2⟩

/-- What decides about a directory does not settle whether it is skipped. -/
theorem not_all_directories_follow_decision :
    ¬ ∀ (texts : List String) (exclusion : Exclusion) (path : String),
      ofPatterns texts = .ok exclusion → nameOf path ≠ [] →
        (exclusion.skips path true = true ↔
          exclusion.decides (asDirectory path) = true) := by
  intro follow
  have same := follow _ _ "build" ofPatterns_buildFiles (by decide)
  have kept : buildFiles.decides (asDirectory "build") = true := same.mp (by decide)
  exact absurd kept (by decide)

end Exclusion
end KernelInventory
