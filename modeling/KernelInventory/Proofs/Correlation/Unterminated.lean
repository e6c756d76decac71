import KernelInventory.Proofs.Correlation.Opening
import KernelInventory.Proofs.Guard.Extraction
import KernelInventory.Proofs.Text.Utf8

/-!
# Guards that are left open

Where more guards are opened in a source file than are closed, one of them is the
outermost: it opens where there is no nesting, and the nesting never comes back to
nothing.  No block begins behind it.  Its component alone decides whether the
correlation says so: the scan holds on to the block in the making and not to the guards
that are open, and a component that is not in the table has no block.
-/

namespace KernelInventory
namespace Guard

/-- Whether a component is known matters to the beginning of a block and to nothing
else. -/
theorem opening?_eq_some_iff
    {known : String → Bool} {lines : List (List Char)} {start : Nat} {owner : String} :
    opening? known lines start = some owner ↔
      opening? (fun _ => true) lines start = some owner ∧ known owner = true := by
  unfold opening?
  split
  next name found =>
    by_cases outside : depthAfter (lines.take start) = 0
    · by_cases isKnown : known name = true
      · rw [if_pos ⟨outside, isKnown⟩, if_pos ⟨outside, rfl⟩]
        exact ⟨fun same => ⟨same, Option.some.inj same ▸ isKnown⟩, And.left⟩
      · rw [if_neg fun both => isKnown both.2, if_pos ⟨outside, rfl⟩]
        refine ⟨nofun, fun ⟨same, ownerKnown⟩ => absurd ?_ isKnown⟩
        rwa [Option.some.inj same]
    · rw [if_neg fun both => outside both.1, if_neg fun both => outside both.1]
      exact ⟨nofun, fun both => both.1⟩
  · exact ⟨nofun, fun both => both.1⟩

theorem unclosed_iff_of_known
    {known : String → Bool} {lines : List (List Char)} {start : Nat} {owner : String} :
    Unclosed known lines start owner ↔
      Unclosed (fun _ => true) lines start owner ∧ known owner = true := by
  rw [Unclosed, Unclosed, opening?_eq_some_iff, and_right_comm]

/-- If guards are open behind the last line, the outermost of them is
that of some component. -/
theorem exists_unclosed
    {lines : List (List Char)}
    (nested : depthAfter lines ≠ 0) :
    ∃ start owner, Unclosed (fun _ => true) lines start owner := by
  induction lines using List.reverseRecOn with
  | nil => exact absurd rfl nested
  | append_singleton lines line inductionHypothesis =>
      rw [depthAfter_snoc] at nested
      by_cases outside : depthAfter lines = 0
      · have begins := opening?_length (fun _ => true) lines line
        rw [outside, nest] at nested
        cases lineClass : classify line with
        | opens name =>
            rw [lineClass] at begins
            refine ⟨lines.length, name,
              (unclosed_snoc_iff _ _ _ _ _).mpr (Or.inr ⟨rfl, ?_⟩)⟩
            exact begins.trans (if_pos ⟨outside, rfl⟩)
        | closes | plain => simp [lineClass] at nested
      · obtain ⟨start, owner, unclosed⟩ := inductionHypothesis outside
        exact ⟨start, owner,
          (unclosed_snoc_iff _ _ _ _ _).mpr (Or.inl ⟨unclosed, nested⟩)⟩

end Guard

namespace Correlation

open Guard

/-! ## Files with an open guard -/

/-- What a readable source file leaves as an issue: nothing if all its guards are
closed, and otherwise what the component of the outermost open guard decides. -/
theorem issue?_scanFile_of_readText
    {tree : FileTree} {path : Path} {text : List Char}
    (known : String → Bool)
    (readable : tree.readText path = .ok text) :
    (depthAfter (Text.lines text) = 0 → (scanFile tree known path).issue? = none) ∧
      ∀ start owner, Unclosed (fun _ => true) (Text.lines text) start owner →
        (scanFile tree known path).issue? =
          if known owner then
            some ⟨path.toString,
              Event.unterminatedMessage owner (depthAfter (Text.lines text))⟩
          else none := by
  rw [scanFile_of_readText known readable, Event.issue?]
  constructor
  · intro closed
    rw [unterminated_scan_eq_none fun start owner unclosed =>
      depthAfter_ne_zero unclosed.1 unclosed.2 closed, Option.map_none]
  · intro start owner unclosed
    split
    next isKnown =>
      rw [unterminated_scan (unclosed_iff_of_known.mpr ⟨unclosed, isKnown⟩),
        Option.map_some]
    next unknown =>
      rw [unterminated_scan_eq_none, Option.map_none]
      intro other otherOwner otherUnclosed
      obtain ⟨outermost, isKnown⟩ := unclosed_iff_of_known.mp otherUnclosed
      exact unknown ((unclosed.unique outermost).2 ▸ isKnown)

/-- A source file with a guard that is left open, and one inside it that is closed. -/
def openText : List Char :=
  "#ifdef CONFIG_UNKNOWN\n#ifdef CONFIG_X\nint x;\n#endif\n".toList

/-- A directory with the source file. -/
def openTree : FileTree :=
  ⟨[],
    [(["d"], .openDirectory), (["d", "a.c"], .file (Text.Utf8.encode openText) true)]⟩

/-- Only the component of the guard inside is known. -/
def innerTable : Table :=
  ⟨[{ name := "X" }]⟩

theorem lookups_openTree :
    openTree.atPath ⟨.root, ["d", "a.c"]⟩ openTree.readAt =
      .ok (Text.Utf8.encode openText) ∧
      openTree.realPath ⟨.root, ["d", "a.c"]⟩ = .ok ⟨.root, ["d", "a.c"]⟩ ∧
      findings openTree none none [⟨.root, ["d"]⟩] = [.file ⟨.root, ["d", "a.c"]⟩] := by
  refine ⟨?_, ?_, ?_⟩
  all_goals cbv

theorem readText_openTree : openTree.readText ⟨.root, ["d", "a.c"]⟩ = .ok openText := by
  rw [FileTree.readText, lookups_openTree.1, Except.map, Text.Utf8.decode_encode]

theorem unclosed_openText :
    Unclosed (fun _ => true) (Text.lines openText) 0 "UNKNOWN" := by
  unfold Unclosed
  decide

theorem events_openTree :
    events openTree none none innerTable [⟨.root, ["d"]⟩] =
      [.scanned ⟨.root, ["d", "a.c"]⟩ ⟨[], none⟩] := by
  have code : isCode ⟨.root, ["d", "a.c"]⟩ = true := by rfl
  have scanned : Guard.scan innerTable.contains (Text.lines openText) = ⟨[], none⟩ := by
    rfl
  obtain ⟨-, canonical, found⟩ := lookups_openTree
  rw [events, found]
  simp [eventsFrom, code, canonical, scanFile_of_readText _ readText_openTree, scanned]

theorem run_openTree :
    (run openTree none none innerTable [⟨.root, ["d"]⟩]).result =
      .ok ⟨1, 0, 0, []⟩ := by
  rw [run, ← events, events_openTree]
  rfl

theorem walkedCode_openTree :
    walkedCode openTree none none [⟨.root, ["d"]⟩] = [⟨.root, ["d", "a.c"]⟩] := by
  rw [← (walks_return (of_run run_openTree).1).2, lookups_openTree.2.2]
  rfl

/-- Which open guards a correlation reports.  The issues are those of the files that are
opened, one after the other.  A file whose guards are all closed has none.  In a file
with open guards exactly one is the outermost, and no block of a known component begins
behind it; the file has an issue, which names that guard and the nesting at the end of
the file, if its component is known, and none otherwise. -/
theorem run_reports_outermost_guard
    {tree : FileTree} {exclusion : Option Exclusion} {base : Option Path}
    {table : Table}
    {directories : List Path} {result : Result} {path : Path} {text : List Char}
    (returned : (run tree exclusion base table directories).result = .ok result)
    (opened : path ∈ firsts tree.realPath (walkedCode tree exclusion base directories))
    (readable : tree.readText path = .ok text) :
    let lines := Text.lines text
    let issueOf := fun path => (scanFile tree table.contains path).issue?
    result.issues =
        (firsts tree.realPath (walkedCode tree exclusion base directories)).filterMap
          issueOf ∧
      (∀ issue, issueOf path = some issue → issue ∈ result.issues) ∧
      (depthAfter lines = 0 → issueOf path = none) ∧
      (depthAfter lines ≠ 0 → ∃ start owner,
        (∀ other otherOwner, Unclosed (fun _ => true) lines other otherOwner ↔
          other = start ∧ otherOwner = owner) ∧
          (∀ other otherOwner, opening? table.contains lines other = some otherOwner →
            other ≤ start) ∧
          issueOf path =
            if table.contains owner then
              some ⟨path.toString,
                s!"unterminated guard CONFIG_{owner} (depth={depthAfter lines}); snippet dropped"⟩
            else none) := by
  intro lines issueOf
  have issues : result.issues =
      (firsts tree.realPath (walkedCode tree exclusion base directories)).filterMap
        issueOf := by
    rw [(scans_of_run returned).1, Result.ofEvents]
    exact List.filterMap_map
  obtain ⟨closed, opens⟩ := issue?_scanFile_of_readText table.contains readable
  refine ⟨issues, fun issue found => ?_, closed, fun nested => ?_⟩
  · rw [issues]
    exact List.mem_filterMap.mpr ⟨path, opened, found⟩
  · obtain ⟨start, owner, unclosed⟩ := exists_unclosed nested
    refine ⟨start, owner, fun other otherOwner =>
      ?_, fun other otherOwner otherOpens => ?_, opens start owner unclosed⟩
    · constructor
      · exact fun otherUnclosed => otherUnclosed.unique unclosed
      · rintro ⟨rfl, rfl⟩
        exact unclosed
    · exact le_of_unclosed unclosed.1 unclosed.2 (opening?_eq_some_iff.mp otherOpens).1

/-- Behind a guard that is left open and not known, a block is lost without an issue. -/
theorem run_reports_outermost_guard_unknown :
    (run openTree none none innerTable [⟨.root, ["d"]⟩]).result = .ok ⟨1, 0, 0, []⟩ ∧
      depthAfter (Text.lines openText) = 1 ∧
      (scanFile openTree innerTable.contains ⟨.root, ["d", "a.c"]⟩).issue? = none ∧
      opening? innerTable.contains (Text.lines openText) 1 = none := by
  have opened : Path.mk .root ["d", "a.c"] ∈
      firsts openTree.realPath (walkedCode openTree none none [⟨.root, ["d"]⟩]) := by
    simp [walkedCode_openTree, firsts, firstsFrom, withPast]
  obtain ⟨-, -, -, outermost⟩ :=
    run_reports_outermost_guard run_openTree opened readText_openTree
  obtain ⟨start, owner, unique, first, issue⟩ :=
    outermost (depthAfter_ne_zero unclosed_openText.1 unclosed_openText.2)
  obtain ⟨rfl, rfl⟩ := (unique 0 "UNKNOWN").mp unclosed_openText
  refine ⟨run_openTree, rfl, issue, ?_⟩
  rw [Option.eq_none_iff_forall_ne_some]
  exact fun otherOwner opens => absurd (first 1 otherOwner opens) (by decide)

/-- Not every source file with an open guard has an issue. -/
theorem not_all_open_guards_reported :
    ¬ ∀ (tree : FileTree) (exclusion : Option Exclusion) (base : Option Path)
      (table : Table) (directories : List Path) (result : Result) (path : Path)
      (text : List Char), (run tree exclusion base table directories).result =
        .ok result →
          path ∈ walkedCode tree exclusion base directories →
          tree.readText path = .ok text →
            depthAfter (Text.lines text) ≠ 0 →
              ∃ issue ∈ result.issues, issue.file = path.toString := by
  intro reported
  have yielded : Path.mk .root ["d", "a.c"] ∈
      walkedCode openTree none none [⟨.root, ["d"]⟩] := by
    rw [walkedCode_openTree]
    exact List.mem_singleton_self _
  obtain ⟨issue, member, -⟩ :=
    reported openTree none none innerTable [⟨.root, ["d"]⟩] _ _ _ run_openTree yielded
      readText_openTree
    (depthAfter_ne_zero unclosed_openText.1 unclosed_openText.2)
  cases member

end Correlation
end KernelInventory
