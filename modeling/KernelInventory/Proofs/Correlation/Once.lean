import KernelInventory.Proofs.Correlation.Opening
import KernelInventory.Proofs.FileTree.Detour
import KernelInventory.Proofs.Walk.Completeness

/-!
# Every file once

Of the names that lead to one file, a correlation opens the first of each canonical
path.  Where everything on the way of a name is there, its canonical path is that of the
place that it leads to; so if this holds of all code files that the walks yield, every
one of these files is opened once.

A path whose text is too long for the file system is canonical as it is written, links
and all.  So a file may be scanned under two canonical paths, and may be left out
because another one is given its canonical path.
-/

namespace KernelInventory
namespace Correlation

open Walk

/-! ## Where the canonical path tells the file -/

/-- Of the names `entries`, those that are opened lead to different files, and to every
file that can be read: its text is scanned. -/
structure OpensEachFileOnce (tree : FileTree) (known : String → Bool)
    (entries opened : List Path) : Prop where
  once : (opened.map (tree.locate true)).Nodup
  noneLeftOut : ∀ entry ∈ entries, ∀ text, tree.readText entry = .ok text →
    ∃ path ∈ opened, tree.locate true path = tree.locate true entry ∧
      scanFile tree known path = .scanned path (Guard.scan known (Text.lines text))

section Run

variable {tree : FileTree} {exclusion : Option Exclusion} {base : Option Path}
  {table : Table} {directories : List Path} {result : Result}

/-- What a correlation that returns comes upon are regular files with canonical
paths. -/
theorem of_mem_walkedCode
    (returned : (run tree exclusion base table directories).result = .ok result)
    {entry : Path}
    (member : entry ∈ walkedCode tree exclusion base directories) :
    tree.isFile entry = .ok true ∧ ∃ canonical,
      tree.realPath entry = .ok canonical := by
  obtain ⟨faultless, -, -⟩ := of_run returned
  obtain ⟨returns, found⟩ := walks_return faultless
  refine ⟨?_, realPath_of_mem_codeFiles faultless (found ▸ member)⟩
  obtain ⟨isEntry, -⟩ := List.mem_filter.mp member
  obtain ⟨directory, listed, yielded⟩ := List.mem_flatMap.mp isEntry
  exact isFile_of_mem_files (returns directory (mem_sort_iff.mp listed)) yielded

/-- Where everything on the way is there, the canonical path tells what leads where. -/
theorem realPath_of_mem_walkedCode
    (wellFormed : tree.WellFormed)
    (returned : (run tree exclusion base table directories).result = .ok result)
    {entry : Path}
    (member : entry ∈ walkedCode tree exclusion base directories)
    (resolves : ∃ location, tree.realLocation entry = .ok location) :
    ∃ location, tree.locate true entry = .ok location ∧
      tree.realPath entry = .ok location.path := by
  obtain ⟨regular, canonical, same⟩ := of_mem_walkedCode returned member
  obtain ⟨-, location, located, file⟩ := FileTree.leadsTo_eq_true_iff.mp regular
  obtain ⟨strict, resolved⟩ := resolves
  obtain ⟨node, there, -⟩ := Option.any_eq_true _ _ |>.mp file
  refine ⟨location, located, ?_⟩
  obtain found | ⟨stuck, looping⟩ :=
    FileTree.realPath_of_realLocation wellFormed resolved located ⟨node, there⟩
  · exact found
  · cases looping.symm.trans same

/-- Of such names, the canonical path tells which ones lead to one file. -/
theorem realPath_eq_iff
    (wellFormed : tree.WellFormed)
    (returned : (run tree exclusion base table directories).result = .ok result)
    (resolves : ∀ entry ∈ walkedCode tree exclusion base directories,
      ∃ location, tree.realLocation entry = .ok location)
    {entry other : Path}
    (member : entry ∈ walkedCode tree exclusion base directories)
    (otherMember : other ∈ walkedCode tree exclusion base directories) :
    tree.realPath entry = tree.realPath other ↔
      tree.locate true entry = tree.locate true other := by
  obtain ⟨place, located, canonical⟩ :=
    realPath_of_mem_walkedCode wellFormed returned member (resolves entry member)
  obtain ⟨otherPlace, otherLocated, otherCanonical⟩ :=
    realPath_of_mem_walkedCode wellFormed returned otherMember
      (resolves other otherMember)
  rw [located, otherLocated, canonical, otherCanonical, Except.ok.injEq,
    Except.ok.injEq]
  exact ⟨congrArg Path.names, congrArg Location.path⟩

/-- If everything is there on the way of all code files that the walks yield, the first
ones of each canonical path lead to every file once. -/
theorem opensEachFileOnce
    (wellFormed : tree.WellFormed)
    (returned : (run tree exclusion base table directories).result = .ok result)
    (resolves : ∀ entry ∈ walkedCode tree exclusion base directories,
      ∃ location, tree.realLocation entry = .ok location) :
    OpensEachFileOnce tree table.contains (walkedCode tree exclusion base directories)
      (firsts tree.realPath (walkedCode tree exclusion base directories)) := by
  have listed := (firsts_sublist tree.realPath
    (walkedCode tree exclusion base directories)).subset
  have keys := map_firsts tree.realPath (walkedCode tree exclusion base directories)
  constructor
  · have distinct : ((firsts tree.realPath
        (walkedCode tree exclusion base directories)).map tree.realPath).Nodup :=
      keys ▸ nodup_eraseDups _
    refine (List.nodup_map_iff_inj_on distinct.of_map).mpr fun path first other
      otherFirst same => ?_
    refine List.inj_on_of_nodup_map distinct first otherFirst ?_
    exact (realPath_eq_iff wellFormed returned resolves (listed first)
      (listed otherFirst)).mpr same
  · intro entry member text read
    have covered : tree.realPath entry ∈ (firsts tree.realPath
        (walkedCode tree exclusion base directories)).map tree.realPath := by
      rw [keys, List.mem_eraseDups]
      exact List.mem_map_of_mem member
    obtain ⟨path, first, same⟩ := List.mem_map.mp covered
    have together :=
      (realPath_eq_iff wellFormed returned resolves (listed first) member).mp same
    obtain ⟨-, place, bytes, located, opened, rfl⟩ := FileTree.of_readText read
    obtain ⟨regular, -⟩ := of_mem_walkedCode returned (listed first)
    obtain ⟨noNull, -⟩ := FileTree.leadsTo_eq_true_iff.mp regular
    refine ⟨path, first, together, ?_⟩
    rw [scanFile, FileTree.readText_of_readAt noNull (together.trans located) opened]

end Run

/-! ## Directories that overlap -/

/-- The text of a source file with one guard. -/
def overlapText : List Char :=
  "#ifdef CONFIG_A\nx\n#endif".toList

/-- A directory with a source file, a header that may not be read, and a link to the
source file above it. -/
def overlapTree : FileTree :=
  ⟨[],
    [(["r"], .openDirectory), (["r", "a.c"], .link "z/f.c"),
      (["r", "z"], .openDirectory),
    (["r", "z", "f.c"], .file (Text.Utf8.encode overlapText) true),
    (["r", "z", "g.h"], .file [] false)]⟩

/-- The directory of the files, and the one around it. -/
def overlapDirectories : List Path :=
  [⟨.root, ["r", "z"]⟩, ⟨.root, ["r"]⟩]

def overlapTable : Table :=
  ⟨[{ name := "A" }]⟩

/-- The block of the source file. -/
def overlapBlock : Guard.Block :=
  ⟨"A", ["#ifdef CONFIG_A".toList, "x".toList, "#endif".toList]⟩

theorem findings_overlap :
    findings overlapTree none none overlapDirectories =
        [.file ⟨.root, ["r", "a.c"]⟩, .directory ["z"],
          .file ⟨.root, ["r", "z", "f.c"]⟩, .file ⟨.root, ["r", "z", "g.h"]⟩,
          .file ⟨.root, ["r", "z", "f.c"]⟩, .file ⟨.root, ["r", "z", "g.h"]⟩] ∧
      findings overlapTree none none [⟨.root, ["r"]⟩] =
        [.file ⟨.root, ["r", "a.c"]⟩, .directory ["z"],
          .file ⟨.root, ["r", "z", "f.c"]⟩, .file ⟨.root, ["r", "z", "g.h"]⟩] := by
  constructor
  · cbv
  · cbv

theorem wellFormed_overlap : overlapTree.WellFormed where
  nodup := by simp [FileTree.locations, overlapTree]
  proper := by simp [FileTree.locations, overlapTree, ProperName]

section Overlap

theorem locate_overlap :
    overlapTree.locate true ⟨.root, ["r", "a.c"]⟩ = .ok ["r", "z", "f.c"] ∧
      overlapTree.locate true ⟨.root, ["r", "z", "f.c"]⟩ = .ok ["r", "z", "f.c"] ∧
      overlapTree.locate true ⟨.root, ["r", "z", "g.h"]⟩ = .ok ["r", "z", "g.h"] := by
  refine ⟨?_, ?_, ?_⟩
  all_goals cbv

theorem resolve_overlap :
    (overlapTree.realPath ⟨.root, ["r", "a.c"]⟩ = .ok ⟨.root, ["r", "z", "f.c"]⟩ ∧
        overlapTree.realPath ⟨.root, ["r", "z", "f.c"]⟩ =
          .ok ⟨.root, ["r", "z", "f.c"]⟩ ∧
        overlapTree.realPath ⟨.root, ["r", "z", "g.h"]⟩ =
          .ok ⟨.root, ["r", "z", "g.h"]⟩) ∧
      overlapTree.realLocation ⟨.root, ["r", "a.c"]⟩ = .ok ["r", "z", "f.c"] ∧
      overlapTree.realLocation ⟨.root, ["r", "z", "f.c"]⟩ = .ok ["r", "z", "f.c"] ∧
      overlapTree.realLocation ⟨.root, ["r", "z", "g.h"]⟩ = .ok ["r", "z", "g.h"] := by
  refine ⟨⟨?_, ?_, ?_⟩, ?_, ?_, ?_⟩
  all_goals cbv

theorem scan_overlap :
    Guard.scan overlapTable.contains (Text.lines overlapText) =
      ⟨[overlapBlock], none⟩ := by
  rfl

theorem scanFile_overlap_link :
    scanFile overlapTree overlapTable.contains ⟨.root, ["r", "a.c"]⟩ =
      .scanned ⟨.root, ["r", "a.c"]⟩ ⟨[overlapBlock], none⟩ := by
  rw [scanFile, FileTree.readText_of_node rfl locate_overlap.1 rfl]
  exact congrArg (Event.scanned _) scan_overlap

theorem message_overlap :
    FileFailure.message (.refused .permissionDenied "/r/z/g.h") =
      "[Errno 13] Permission denied: '/r/z/g.h'" := by
  decide +kernel

theorem scanFile_overlap_header :
    scanFile overlapTree overlapTable.contains ⟨.root, ["r", "z", "g.h"]⟩ =
      .unreadable ⟨.root, ["r", "z", "g.h"]⟩
        (.refused .permissionDenied "/r/z/g.h") := by
  obtain ⟨-, -, header⟩ := locate_overlap
  rw [scanFile, FileTree.readText_of_readAt_error rfl header rfl]
  rfl

theorem events_overlap :
    events overlapTree none none overlapTable overlapDirectories =
      [.scanned ⟨.root, ["r", "a.c"]⟩ ⟨[overlapBlock], none⟩,
        .passed (.directory ["z"]),
        .unreadable ⟨.root, ["r", "z", "g.h"]⟩
          (.refused .permissionDenied "/r/z/g.h")] := by
  have linkCode : isCode ⟨.root, ["r", "a.c"]⟩ = true := by rfl
  have sourceCode : isCode ⟨.root, ["r", "z", "f.c"]⟩ = true := by rfl
  have headerCode : isCode ⟨.root, ["r", "z", "g.h"]⟩ = true := by rfl
  rw [events, findings_overlap.1]
  simp [eventsFrom, linkCode, sourceCode, headerCode, resolve_overlap.1,
    scanFile_overlap_link, scanFile_overlap_header]

theorem run_overlap :
    (run overlapTree none none overlapTable overlapDirectories).result =
      .ok ⟨1, 1, 3, [⟨"/r/z/g.h", "[Errno 13] Permission denied: '/r/z/g.h'"⟩]⟩ := by
  rw [run, ← events, events_overlap, ← message_overlap]
  rfl

theorem walkedCode_overlap :
    walkedCode overlapTree none none overlapDirectories =
      [⟨.root, ["r", "a.c"]⟩, ⟨.root, ["r", "z", "f.c"]⟩, ⟨.root, ["r", "z", "g.h"]⟩,
        ⟨.root, ["r", "z", "f.c"]⟩, ⟨.root, ["r", "z", "g.h"]⟩] := by
  rw [← (walks_return (of_run run_overlap).1).2, findings_overlap.1]
  rfl

theorem realLocation_overlap :
    ∀ entry ∈ walkedCode overlapTree none none overlapDirectories,
      ∃ location, overlapTree.realLocation entry = .ok location := by
  obtain ⟨-, link, source, header⟩ := resolve_overlap
  rw [walkedCode_overlap]
  simp [link, source, header]

theorem firsts_overlap :
    firsts overlapTree.realPath
        [⟨.root, ["r", "a.c"]⟩, ⟨.root, ["r", "z", "f.c"]⟩, ⟨.root, ["r", "z", "g.h"]⟩,
          ⟨.root, ["r", "z", "f.c"]⟩, ⟨.root, ["r", "z", "g.h"]⟩] =
      [⟨.root, ["r", "a.c"]⟩, ⟨.root, ["r", "z", "g.h"]⟩] := by
  simp [firsts, firstsFrom, resolve_overlap.1]

end Overlap

/-! ## Detours -/

section Detour

open FileTree (Climbs detour detourTree plainWay)

variable {target : String} {count : Nat} {bytes : List UInt8} {readable : Bool}

theorem sort_pair
    {left right : Path}
    (different : left ≠ right)
    (ordered : left.le right = true) :
    Path.sort [left, right] = [left, right] := by
  have once : [left, right].eraseDups = [left, right] := by
    simp [List.eraseDups_cons, Ne.symm different]
  rw [Path.sort, once, List.mergeSort_of_pairwise (by simpa using ordered)]

section Climbs

variable (climbs : Climbs target count)

include climbs

/-- What is come upon by way of both links, and then by a plain way. -/
theorem findings_detour
    {names : List String} {above below : String}
    (either : names = [] ∨ names = ["..", "y"])
    (holds : FileTree.Holds above below)
    (ordered : (detour names).le (plainWay above below) = true) :
    findings (detourTree target bytes readable) none none
      [detour names, plainWay above below] =
      [.file (detour (names ++ ["f.c"])),
        .file ((plainWay above below).child "f.c")] := by
  have regular :
      (detourTree target bytes readable).isFile ((detour names).child "f.c") =
        .ok true :=
    FileTree.isFile_detour climbs either
  have different : detour names ≠ plainWay above below := by
    rcases holds with ⟨rfl, rfl⟩ | ⟨rfl, rfl⟩
    · simp [detour, plainWay]
    · simp [detour, plainWay]
  rw [findings, sort_pair different ordered, List.flatMap_cons, List.flatMap_singleton,
    findings_of_flat (FileTree.list_detour climbs either)
      (List.forall_mem_singleton.mpr regular),
    findings_of_flat holds.list_plainWay
      (List.forall_mem_singleton.mpr holds.isFile_plainWay)]
  rfl

/-- The file that both directories hold is scanned twice. -/
theorem run_detour_twice :
    (run (detourTree target (Text.Utf8.encode overlapText) true) none none overlapTable
        [detour [], plainWay "e" "y"]).result = .ok ⟨2, 2, 6, []⟩ := by
  have holds : FileTree.Holds "e" "y" := .inr ⟨rfl, rfl⟩
  have code : isCode (detour ["f.c"]) = true := rfl
  have codePlain : isCode ((plainWay "e" "y").child "f.c") = true := rfl
  have text : (detourTree target (Text.Utf8.encode overlapText) true).readText
      (detour ["f.c"]) = .ok overlapText :=
    FileTree.readText_detour climbs (.inl rfl) overlapText
  rw [run, findings_detour climbs (.inl rfl) holds (by decide)]
  simp only [List.nil_append, eventsFrom, code, codePlain,
    FileTree.realPath_detour_file climbs, holds.realPath_plainWay, scanFile, text,
    holds.readText_plainWay, scan_overlap, if_true, List.not_mem_nil, if_false,
    List.mem_singleton, Location.path, Path.mk.injEq, List.cons.injEq, String.reduceEq,
    false_and, and_false]
  rfl

/-- The file that both directories hold is opened by two names. -/
theorem firsts_detour_twice :
    firsts (detourTree target (Text.Utf8.encode overlapText) true).realPath
        (walkedCode (detourTree target (Text.Utf8.encode overlapText) true) none none
          [detour [], plainWay "e" "y"]) =
      [detour ["f.c"], (plainWay "e" "y").child "f.c"] := by
  have holds : FileTree.Holds "e" "y" := .inr ⟨rfl, rfl⟩
  have walked := (walks_return (of_run (run_detour_twice climbs)).1).2
  rw [findings_detour climbs (.inl rfl) holds (by decide), List.nil_append] at walked
  rw [← walked]
  refine firsts_of_ne _ ?_
  rw [FileTree.realPath_detour_file climbs, holds.realPath_plainWay]
  simp [Location.path]

/-- The file behind both links is scanned, and the other one with its
canonical path is not. -/
theorem run_detour_once :
    (run (detourTree target (Text.Utf8.encode overlapText) true) none none overlapTable
        [detour ["..", "y"], plainWay "d" "src"]).result = .ok ⟨1, 1, 3, []⟩ := by
  have holds : FileTree.Holds "d" "src" := .inl ⟨rfl, rfl⟩
  have code : isCode (detour ["..", "y", "f.c"]) = true := rfl
  have codePlain : isCode ((plainWay "d" "src").child "f.c") = true := rfl
  have text : (detourTree target (Text.Utf8.encode overlapText) true).readText
      (detour ["..", "y", "f.c"]) = .ok overlapText :=
    FileTree.readText_detour climbs (.inr rfl) overlapText
  rw [run, findings_detour climbs (.inr rfl) holds (by decide)]
  simp only [List.cons_append, List.nil_append, eventsFrom, code, codePlain,
    FileTree.realPath_detour_down_file climbs, holds.realPath_plainWay, scanFile, text,
    scan_overlap, if_true, List.not_mem_nil, if_false, List.mem_singleton]
  rfl

/-- The walks come upon both files, and by their canonical path only one of them is
opened. -/
theorem walkedCode_detour_once :
    walkedCode (detourTree target (Text.Utf8.encode overlapText) true) none none
          [detour ["..", "y"], plainWay "d" "src"] =
        [detour ["..", "y", "f.c"], (plainWay "d" "src").child "f.c"] ∧
      firsts (detourTree target (Text.Utf8.encode overlapText) true).realPath
          [detour ["..", "y", "f.c"], (plainWay "d" "src").child "f.c"] =
        [detour ["..", "y", "f.c"]] := by
  have holds : FileTree.Holds "d" "src" := .inl ⟨rfl, rfl⟩
  have walked := (walks_return (of_run (run_detour_once climbs)).1).2
  rw [findings_detour climbs (.inr rfl) holds (by decide)] at walked
  refine ⟨walked.symm, firsts_of_eq _ ?_⟩
  rw [FileTree.realPath_detour_down_file climbs, holds.realPath_plainWay]

end Climbs
end Detour

/-! ## Every file once -/

/-- All walks of a correlation that returns have returned, and all code files that they
yield have canonical paths; what is opened are the first ones of each canonical path, in
the order of the walks, each once.  Of these, each is scanned, or cannot be read and
leaves an issue.  The issues and the snippets are those of these files in that order,
and the records of the table have got the snippets of their components and are otherwise
as before.  If everything is there on the way of all code files that the walks yield, no
file is opened twice, and none that can be read is left out. -/
theorem run_opens_once
    {tree : FileTree} {exclusion : Option Exclusion} {base : Option Path}
    {table : Table}
    {directories : List Path} {result : Result}
    (returned : (run tree exclusion base table directories).result = .ok result) :
    let entries := walkedCode tree exclusion base directories
    let opened := firsts tree.realPath entries
    let scans := opened.map (scanFile tree table.contains)
    (∀ directory ∈ directories, (Walk.files tree exclusion base directory).1 =
        .ok (walked tree exclusion base directory)) ∧
      (events tree exclusion base table directories).filter Event.opens = scans ∧
      (∀ entry ∈ entries, ∃ canonical, tree.realPath entry = .ok canonical) ∧
      (∀ entry ∈ entries, tree.realPath entry ∈ opened.map tree.realPath) ∧
      (opened.map tree.realPath).Nodup ∧
      result.filesScanned + (opened.filterMap (unreadableIssue? tree)).length =
        opened.length ∧
      (∀ path ∈ opened, ∀ issue, unreadableIssue? tree path = some issue →
        (scanFile tree table.contains path).issue? = some issue) ∧
      result.issues = scans.filterMap Event.issue? ∧
      result.snippetCount = (scans.flatMap Event.blocks).length ∧
      (run tree exclusion base table directories).table.names = table.names ∧
      (∀ name, (run tree exclusion base table directories).table.find? name =
        (table.find? name).map fun record =>
          { record with
            snippets := record.snippets ++
              ((scans.flatMap Event.blocks).filter fun block => block.owner = name).map
                Guard.Block.text }) ∧
      (tree.WellFormed →
        (∀ entry ∈ entries, ∃ location, tree.realLocation entry = .ok location) →
        OpensEachFileOnce tree table.contains entries opened) := by
  intro entries opened scans
  obtain ⟨faultless, -, -⟩ := of_run returned
  obtain ⟨returns, -⟩ := walks_return faultless
  obtain ⟨resultEq, tableEq⟩ := scans_of_run returned
  have opens : (events tree exclusion base table directories).filter
      Event.opens = scans :=
    filter_opens_events returned
  have keys : opened.map tree.realPath = (entries.map tree.realPath).eraseDups :=
    map_firsts tree.realPath entries
  have openedFaultless :
      ∀ path ∈ opened, (scanFile tree table.contains path).fault? = none := by
    intro path member
    have scanMember : scanFile tree table.contains path ∈ scans :=
      List.mem_map_of_mem member
    exact faultless _ (List.mem_of_mem_filter (opens ▸ scanMember))
  refine ⟨returns, opens, ?_, ?_, ?_, ?_, ?_, ?_, ?_, ?_, ?_, ?_⟩
  · intro entry member
    exact (of_mem_walkedCode returned member).2
  · intro entry member
    rw [keys, List.mem_eraseDups]
    exact List.mem_map_of_mem member
  · exact keys ▸ nodup_eraseDups _
  · rw [resultEq]
    exact countP_isScan_add_unreadable table.contains opened
  · intro path member issue unreadable
    exact issue?_scanFile (openedFaultless path member) unreadable
  · rw [resultEq]
    rfl
  · rw [resultEq]
    rfl
  · rw [tableEq, names_foldl_attach]
  · intro name
    rw [tableEq, find?_foldl_attach]
  · intro wellFormed resolves
    exact opensEachFileOnce wellFormed returned resolves

/-- The source file is opened by the name that is found first, and its block is attached
once; the names of the files that are opened lead to different ones. -/
theorem run_opens_once_overlap :
    (run overlapTree none none overlapTable overlapDirectories).result =
        .ok ⟨1, 1, 3, [⟨"/r/z/g.h", "[Errno 13] Permission denied: '/r/z/g.h'"⟩]⟩ ∧
      walkedCode overlapTree none none overlapDirectories =
        [⟨.root, ["r", "a.c"]⟩, ⟨.root, ["r", "z", "f.c"]⟩, ⟨.root, ["r", "z", "g.h"]⟩,
          ⟨.root, ["r", "z", "f.c"]⟩, ⟨.root, ["r", "z", "g.h"]⟩] ∧
      (events overlapTree none none overlapTable overlapDirectories).filter
        Event.opens =
        [⟨.root, ["r", "a.c"]⟩, ⟨.root, ["r", "z", "g.h"]⟩].map
          (scanFile overlapTree overlapTable.contains) ∧
      (run overlapTree none none overlapTable overlapDirectories).table.find? "A" =
        some { name := "A", snippets := ["#ifdef CONFIG_A\nx\n#endif"] } ∧
      overlapTree.WellFormed ∧
      (∀ entry ∈ walkedCode overlapTree none none overlapDirectories,
        ∃ location, overlapTree.realLocation entry = .ok location) ∧
      OpensEachFileOnce overlapTree overlapTable.contains
        (walkedCode overlapTree none none overlapDirectories)
        [⟨.root, ["r", "a.c"]⟩, ⟨.root, ["r", "z", "g.h"]⟩] := by
  have once := run_opens_once run_overlap
  have noBlocks : (scanFile overlapTree overlapTable.contains
      ⟨.root, ["r", "z", "g.h"]⟩).blocks = [] := by
    rw [scanFile_overlap_header]
    rfl
  dsimp only at once
  obtain ⟨-, opens, -, -, -, -, -, -, -, -, records, eachFile⟩ := once
  have each := eachFile wellFormed_overlap realLocation_overlap
  rw [walkedCode_overlap, firsts_overlap] at opens records each
  refine ⟨run_overlap, walkedCode_overlap, opens, (records "A").trans ?_,
    wellFormed_overlap, realLocation_overlap, walkedCode_overlap ▸ each⟩
  rw [List.map_cons, List.map_singleton, List.flatMap_cons,
    List.flatMap_singleton, noBlocks, scanFile_overlap_link, Event.blocks]
  rfl

/-- A file may be opened twice, and a file that can be read may be left out: where the
text of a path is too long, the file that it leads to may have two canonical paths, or
that of another file. -/
theorem not_all_files_opened_once :
    (¬ ∀ (tree : FileTree) (exclusion : Option Exclusion) (base : Option Path)
      (table : Table) (directories : List Path) (result : Result),
      tree.WellFormed → (run tree exclusion base table directories).result =
        .ok result →
        ((firsts tree.realPath (walkedCode tree exclusion base directories)).map
          (tree.locate true)).Nodup) ∧
      ¬ ∀ (tree : FileTree) (exclusion : Option Exclusion) (base : Option Path)
        (table : Table) (directories : List Path) (result : Result),
        tree.WellFormed → (run tree exclusion base table directories).result =
          .ok result →
          ∀ entry ∈ walkedCode tree exclusion base directories, ∀ text,
            tree.readText entry = .ok text →
              ∃ path ∈ firsts tree.realPath
                (walkedCode tree exclusion base directories),
                  tree.locate true path = tree.locate true entry := by
  have climbs := FileTree.climbs_detourTarget
  have wellFormed :
      (FileTree.detourTree (FileTree.detourTarget 1364) (Text.Utf8.encode overlapText)
        true).WellFormed :=
    FileTree.wellFormed_detour
  constructor
  · intro claimed
    have distinct :=
      claimed _ none none overlapTable _ _ wellFormed (run_detour_twice climbs)
    have holds : FileTree.Holds "e" "y" := .inr ⟨rfl, rfl⟩
    have located :
        (FileTree.detourTree (FileTree.detourTarget 1364) (Text.Utf8.encode overlapText)
          true).locate true (FileTree.detour ["f.c"]) = .ok ["e", "y", "f.c"] :=
      FileTree.locate_detour_file climbs [] (.inl rfl)
    rw [firsts_detour_twice climbs, List.map_cons, List.map_singleton,
      holds.locate_plainWay.2, ← located] at distinct
    simp at distinct
  · intro claimed
    have covered :=
      claimed _ none none overlapTable _ _ wellFormed (run_detour_once climbs)
    have holds : FileTree.Holds "d" "src" := .inl ⟨rfl, rfl⟩
    obtain ⟨walked, opened⟩ := walkedCode_detour_once climbs
    rw [walked, opened] at covered
    obtain ⟨path, first, same⟩ :=
      covered ((FileTree.plainWay "d" "src").child "f.c") (by simp) overlapText
        (holds.readText_plainWay overlapText)
    rw [List.mem_singleton.mp first, holds.locate_plainWay.2] at same
    have apart :=
      (FileTree.locate_detour_file climbs ["..", "y"] (.inr rfl)).symm.trans same
    simp at apart

end Correlation
end KernelInventory
