import KernelInventory.Proofs.Correlation.Once
import KernelInventory.Proofs.LineCount.Return
import KernelInventory.Proofs.Text.Utf8
import KernelInventory.Proofs.Walk.Removal

/-!
# Files that cannot be opened

A count leaves a file that cannot be opened out, as if it was not there.  A correlation
does so as well, but for the issue that it records, if all code files that it comes upon
have canonical paths with everything on the way being there: then the names that lead to
the file have its canonical path in common with one another, and with no other name.

A path with more names `..` than the file system takes is canonical as it is written,
links and all, and may be that of another file.  That file is left out then, too.
-/

namespace KernelInventory

/-! ## First members and the rest -/

section Firsts

variable {α κ : Type} [DecidableEq κ] {key : α → κ} {keep : α → Bool}

/-- The first members of those that are kept are the first ones that are
kept, if keys tell who is. -/
theorem firsts_filter
    {members : List α}
    (told : ∀ left ∈ members, ∀ right ∈ members, key left = key right →
      keep left = keep right) :
    firsts key (members.filter keep) = (firsts key members).filter keep := by
  induction members using List.reverseRecOn with
  | nil => rfl
  | append_singleton members member inductionHypothesis =>
      have earlier := inductionHypothesis fun left leftMember right rightMember =>
        told left (List.mem_append_left _ leftMember)
          right (List.mem_append_left _ rightMember)
      rw [List.filter_append, firsts_snoc, List.filter_append, ← earlier]
      cases kept : keep member with
      | false =>
          rw [List.filter_cons_of_neg (by simp [kept]), List.filter_nil,
            List.append_nil]
          split
          · rw [List.filter_nil, List.append_nil]
          · rw [List.filter_cons_of_neg (by simp [kept]), List.filter_nil,
              List.append_nil]
      | true =>
          have sameOld : key member ∈ (members.filter keep).map key ↔
              key member ∈ members.map key := by
            simp only [List.mem_map, List.mem_filter]
            constructor
            · rintro ⟨other, ⟨isMember, -⟩, same⟩
              exact ⟨other, isMember, same⟩
            · rintro ⟨other, isMember, same⟩
              have both := told other (List.mem_append_left _ isMember) member
                (List.mem_append_right _ (List.mem_singleton_self _)) same
              exact ⟨other, ⟨isMember, both.trans kept⟩, same⟩
          rw [List.filter_cons_of_pos kept, List.filter_nil, firsts_snoc]
          simp only [sameOld]
          split
          · rw [List.filter_nil]
          · rw [List.filter_cons_of_pos kept, List.filter_nil]

/-- If all members that are not kept share a key, the first ones among
them are at most one. -/
theorem length_firsts_filter_le
    {members : List α} {shared : κ}
    (same : ∀ member ∈ members, keep member = false → key member = shared) :
    ((firsts key members).filter fun member => !keep member).length ≤ 1 := by
  have distinct : ((firsts key members).map key).Nodup := by
    rw [map_firsts]
    exact nodup_eraseDups _
  have nodup :
      (((firsts key members).filter fun member => !keep member).map key).Nodup :=
    distinct.sublist (List.filter_sublist.map key)
  have keys : ((firsts key members).filter fun member => !keep member).map key =
      List.replicate ((firsts key members).filter fun member => !keep member).length
        shared := by
    rw [List.eq_replicate_iff, List.length_map, List.forall_mem_map]
    refine ⟨rfl, fun member isMember => ?_⟩
    obtain ⟨first, lost⟩ := List.mem_filter.mp isMember
    exact same member ((firsts_sublist key members).subset first) (by simpa using lost)
  rw [keys] at nodup
  exact List.nodup_replicate.mp nodup

/-- Where at most one member is not kept, it stands somewhere among the others. -/
theorem exists_split_of_filter
    {members : List α}
    (few : (members.filter fun member => !keep member).length ≤ 1) :
    ∃ before lost after,
      members = before ++ lost ++ after ∧ members.filter keep = before ++ after ∧
        lost.length ≤ 1 ∧ ∀ member ∈ lost, keep member = false := by
  induction members with
  | nil => exact ⟨[], [], [], rfl, rfl, Nat.zero_le _, nofun⟩
  | cons member rest inductionHypothesis =>
      cases kept : keep member with
      | true =>
          rw [List.filter_cons_of_neg (by simp [kept])] at few
          obtain ⟨before, lost, after, whole, left, atMost, dropped⟩ :=
            inductionHypothesis few
          refine ⟨member :: before, lost, after, ?_, ?_, atMost, dropped⟩
          · rw [whole, List.cons_append, List.cons_append]
          · rw [List.filter_cons_of_pos kept, left, List.cons_append]
      | false =>
          rw [List.filter_cons_of_pos (by simp [kept]), List.length_cons] at few
          have none :=
            List.length_eq_zero_iff.mp (Nat.le_zero.mp (Nat.succ_le_succ_iff.mp few))
          refine ⟨[], [member], rest, rfl, ?_, le_rfl, by simpa using kept⟩
          rw [List.filter_cons_of_neg (by simp [kept]), List.nil_append,
            List.filter_eq_self]
          simpa using none

end Firsts

namespace FileTree

/-- A regular file stands at a place, and whatever leads to it does not open it. -/
structure Unopenable (tree : FileTree) (place : Location) : Prop extends
    tree.HoldsFile place where
  refused : ∀ path text, tree.locate true path = .ok place →
    tree.readText path ≠ .ok text

/-- Nobody opens a file that may not be read. -/
theorem HoldsFile.unopenable
    {tree : FileTree} {place : Location} {bytes : List UInt8}
    (holds : tree.HoldsFile place)
    (denied : tree.node? place = some (.file bytes false)) :
    tree.Unopenable place where
  toHoldsFile := holds
  refused := by
    intro path text located read
    obtain ⟨-, reached, bytes, there, opened, -⟩ := of_readText read
    obtain rfl := Except.ok.inj (located.symm.trans there)
    rw [readAt, denied] at opened
    cases opened

end FileTree

namespace LineStatistics

open Walk

variable {tree : FileTree} {place : Location}

theorem countIn?_of_unopenable
    (unopenable : tree.Unopenable place)
    {path : Path}
    (located : tree.locate true path = .ok place) :
    countIn? tree path = none := by
  rw [countIn?, LineCount.ofFile]
  cases read : tree.readText path with
  | ok text => exact absurd read (unopenable.refused path text located)
  | error failure => rfl

/-- A file that cannot be opened is not counted, and other files count as before. -/
theorem filterMap_countIn?_remove
    (unopenable : tree.Unopenable place)
    {paths : List Path}
    (regular : ∀ path ∈ paths, tree.isFile path = .ok true) :
    (paths.filter (tree.misses place)).filterMap (countIn? (tree.remove place)) =
      paths.filterMap (countIn? tree) := by
  rw [List.filterMap_filter]
  refine List.filterMap_congr fun path member => ?_
  obtain ⟨-, location, located, -⟩ :=
    FileTree.leadsTo_eq_true_iff.mp (regular path member)
  by_cases there : location = place
  · subst there
    rw [countIn?_of_unopenable unopenable located, FileTree.misses, located]
    simp
  · have elsewhere := (FileTree.misses_iff located).mpr there
    rw [if_pos elsewhere, countIn?, countIn?, LineCount.ofFile, LineCount.ofFile,
      unopenable.readText_remove located there]

/-- A count is the same without a file that cannot be opened. -/
theorem ofDirectory_remove
    {exclusion : Option Exclusion} {base : Option Path} {root : Path}
    {statistics left : LineStatistics}
    (unopenable : tree.Unopenable place)
    (wellFormed : tree.WellFormed)
    (returned : (ofDirectory tree exclusion base root).1 = .ok statistics)
    (returnedLeft : (ofDirectory (tree.remove place) exclusion base root).1 =
      .ok left) :
    left = statistics := by
  obtain ⟨paths, walked⟩ := files_of_ofDirectory returned
  obtain ⟨pathsLeft, walkedLeft⟩ := files_of_ofDirectory returnedLeft
  rw [ofDirectory_of_files walked] at returned
  rw [ofDirectory_of_files walkedLeft,
    files_remove unopenable.toHoldsFile wellFormed walked walkedLeft,
    filterMap_countIn?_remove unopenable fun path =>
      isFile_of_mem_files walked] at returnedLeft
  exact (Except.ok.inj returnedLeft).symm.trans (Except.ok.inj returned)

end LineStatistics

namespace Correlation

open Walk

/-! ## Scans that give nothing -/

/-- Events that are no scans leave issues at most. -/
theorem ofEvents_drop
    {before lost after : List Event}
    (idle : ∀ event ∈ lost, event.isScan = false ∧ event.blocks = []) :
    (before ++ lost ++ after).flatMap Event.blocks = (before ++ after).flatMap
      Event.blocks ∧
      Result.ofEvents (before ++ after) =
        { Result.ofEvents (before ++ lost ++ after) with
          issues :=
            before.filterMap Event.issue? ++ after.filterMap Event.issue? } := by
  have noBlocks : lost.flatMap Event.blocks = [] :=
    List.flatMap_eq_nil_iff.mpr fun event member => (idle event member).2
  have noScans : lost.countP Event.isScan = 0 := by
    rw [List.countP_eq_zero]
    exact fun event member scanned => by simp [(idle event member).1] at scanned
  have blocks : (before ++ lost ++ after).flatMap Event.blocks =
      (before ++ after).flatMap Event.blocks := by
    rw [List.flatMap_append, List.flatMap_append, List.flatMap_append, noBlocks,
      List.append_nil]
  refine ⟨blocks, ?_⟩
  rw [Result.ofEvents, Result.ofEvents, blocks, List.countP_append, List.countP_append,
    List.countP_append, noScans, Nat.add_zero, List.filterMap_append]

section Run

variable {tree : FileTree} {place : Location} {exclusion : Option Exclusion}
  {base : Option Path} {table : Table} {directories : List Path} {result left : Result}

theorem scanFile_of_refused
    (known : String → Bool) {path : Path}
    (refused : ∀ text, tree.readText path ≠ .ok text) :
    (scanFile tree known path).isScan = false ∧
      (scanFile tree known path).blocks = [] := by
  unfold scanFile
  cases read : tree.readText path with
  | ok text => exact absurd read (refused text)
  | error failure => cases failure <;> exact ⟨rfl, rfl⟩

/-- Correlations with a file and without it differ in what leads to the file. -/
theorem walkedCode_remove
    (holds : tree.HoldsFile place)
    (wellFormed : tree.WellFormed)
    (returned : (run tree exclusion base table directories).result = .ok result)
    (returnedLeft : (run (tree.remove place) exclusion base table directories).result =
      .ok left) :
    walkedCode (tree.remove place) exclusion base directories =
      (walkedCode tree exclusion base directories).filter (tree.misses place) := by
  obtain ⟨returns, -⟩ := walks_return (of_run returned).1
  obtain ⟨returnsLeft, -⟩ := walks_return (of_run returnedLeft).1
  have each : ∀ directory ∈ Path.sort directories,
      walked (tree.remove place) exclusion base directory =
        (walked tree exclusion base directory).filter (tree.misses place) := by
    intro directory listed
    rw [mem_sort_iff] at listed
    exact files_remove holds wellFormed (returns directory listed)
      (returnsLeft directory listed)
  rw [walkedCode, walkedCode, List.flatMap_congr each, List.filter_filter,
    List.filter_flatMap, List.filter_flatMap]
  refine List.flatMap_congr fun directory _ => ?_
  rw [List.filter_filter]
  exact List.filter_congr fun path _ => Bool.and_comm _ _

/-- Where the canonical path tells what leads where, it tells what leads to the file. -/
theorem misses_iff_realPath_ne
    {entry : Path} {location : Location}
    (located : tree.locate true entry = .ok location)
    (found : tree.realPath entry = .ok location.path) :
    tree.misses place entry = true ↔ tree.realPath entry ≠ .ok place.path := by
  rw [FileTree.misses_iff located, found]
  refine not_congr ⟨fun same => same ▸ rfl, fun same => ?_⟩
  exact congrArg Path.names (Except.ok.inj same)

/-- Of what a correlation comes upon, the canonical path tells what leads to the
file. -/
theorem misses_iff_of_mem_walkedCode
    (place : Location)
    (wellFormed : tree.WellFormed)
    (returned : (run tree exclusion base table directories).result = .ok result)
    (resolves : ∀ entry ∈ walkedCode tree exclusion base directories,
      ∃ location, tree.realLocation entry = .ok location) :
    ∀ entry ∈ walkedCode tree exclusion base directories,
      (tree.misses place entry = true ↔ tree.realPath entry ≠ .ok place.path) := by
  intro entry member
  obtain ⟨location, located, found⟩ :=
    realPath_of_mem_walkedCode wellFormed returned member (resolves entry member)
  exact misses_iff_realPath_ne located found

/-- What is opened without the file is what is opened with it, but for
what leads to the file. -/
theorem firsts_walkedCode_remove
    (holds : tree.HoldsFile place)
    (wellFormed : tree.WellFormed)
    (returned : (run tree exclusion base table directories).result = .ok result)
    (returnedLeft : (run (tree.remove place) exclusion base table directories).result =
      .ok left)
    (resolves : ∀ entry ∈ walkedCode tree exclusion base directories,
      ∃ location, tree.realLocation entry = .ok location) :
    firsts (tree.remove place).realPath
        (walkedCode (tree.remove place) exclusion base directories) =
      (firsts tree.realPath (walkedCode tree exclusion base directories)).filter
        (tree.misses place) := by
  have missed := misses_iff_of_mem_walkedCode place wellFormed returned resolves
  rw [walkedCode_remove holds wellFormed returned returnedLeft,
    show (tree.remove place).realPath = tree.realPath from funext holds.realPath_remove]
  refine firsts_filter fun entry member other otherMember same => ?_
  rw [Bool.eq_iff_iff, missed entry member, missed other otherMember, same]

/-- A file that is still there is scanned as before. -/
theorem scanFile_remove
    (holds : tree.HoldsFile place) {known : String → Bool} {path : Path}
    {location : Location}
    (located : tree.locate true path = .ok location)
    (elsewhere : tree.misses place path = true) :
    scanFile (tree.remove place) known path = scanFile tree known path := by
  rw [scanFile, scanFile,
    holds.readText_remove located ((FileTree.misses_iff located).mp elsewhere)]

/-- What leads to a file that cannot be opened gives nothing. -/
theorem scanFile_of_unopenable
    (unopenable : tree.Unopenable place)
    (known : String → Bool) {path : Path} {location : Location}
    (located : tree.locate true path = .ok location)
    (there : tree.misses place path = false) :
    (scanFile tree known path).isScan = false ∧
      (scanFile tree known path).blocks = [] := by
  rw [← Bool.not_eq_true, FileTree.misses_iff located, not_not] at there
  exact scanFile_of_refused known fun text =>
    unopenable.refused path text (there ▸ located)

/-- The scans with a file that cannot be opened, and those without it: at most one scan
is lost, and it finds nothing. -/
theorem exists_scans_remove
    (unopenable : tree.Unopenable place)
    (wellFormed : tree.WellFormed)
    (returned : (run tree exclusion base table directories).result = .ok result)
    (returnedLeft : (run (tree.remove place) exclusion base table directories).result =
      .ok left)
    (resolves : ∀ entry ∈ walkedCode tree exclusion base directories,
      ∃ location, tree.realLocation entry = .ok location) :
    ∃ before lost after : List Event,
      (firsts tree.realPath (walkedCode tree exclusion base directories)).map
          (scanFile tree table.contains) = before ++ lost ++ after ∧
        (firsts (tree.remove place).realPath
            (walkedCode (tree.remove place) exclusion base directories)).map
          (scanFile (tree.remove place) table.contains) = before ++ after ∧
        lost.length ≤ 1 ∧ ∀ event ∈ lost, event.isScan = false ∧ event.blocks = [] := by
  have holds := unopenable.toHoldsFile
  have located :
      ∀ path ∈ firsts tree.realPath (walkedCode tree exclusion base directories),
      ∃ location, tree.locate true path = .ok location := by
    intro path first
    have member := (firsts_sublist _ _).subset first
    obtain ⟨location, located, -⟩ :=
      realPath_of_mem_walkedCode wellFormed returned member (resolves path member)
    exact ⟨location, located⟩
  have shared : ∀ entry ∈ walkedCode tree exclusion base directories,
      tree.misses place entry = false → tree.realPath entry = .ok place.path := by
    intro entry member lost
    by_contra other
    have missed :=
      (misses_iff_of_mem_walkedCode place wellFormed returned resolves entry member).mpr
        other
    cases missed.symm.trans lost
  obtain ⟨before, lost, after, whole, rest, atMost, dropped⟩ :=
    exists_split_of_filter (length_firsts_filter_le shared)
  have sameScan : ∀ path ∈ before ++ after,
      scanFile (tree.remove place) table.contains path = scanFile tree table.contains
        path := by
    intro path member
    rw [← rest] at member
    obtain ⟨first, elsewhere⟩ := List.mem_filter.mp member
    obtain ⟨location, leads⟩ := located path first
    exact scanFile_remove holds leads elsewhere
  refine ⟨before.map (scanFile tree table.contains),
    lost.map (scanFile tree table.contains), after.map (scanFile tree table.contains),
    ?_, ?_, ?_, ?_⟩
  · rw [whole, List.map_append, List.map_append]
  · rw [firsts_walkedCode_remove holds wellFormed returned returnedLeft resolves, rest,
      List.map_congr_left sameScan, List.map_append]
  · rwa [List.length_map]
  · rw [List.forall_mem_map]
    intro path member
    have first :
        path ∈ firsts tree.realPath (walkedCode tree exclusion base directories) := by
      rw [whole]
      exact List.mem_append_left _ (List.mem_append_right _ member)
    obtain ⟨location, leads⟩ := located path first
    exact scanFile_of_unopenable unopenable _ leads (dropped path member)

end Run

/-! ## Directories that overlap -/

theorem unopenable_overlap : overlapTree.Unopenable ["r", "z", "g.h"] :=
  FileTree.HoldsFile.unopenable ⟨rfl, by simp [FileTree.locations, overlapTree], rfl⟩
    rfl

theorem walks_overlap :
    findings (overlapTree.remove ["r", "z", "g.h"]) none none overlapDirectories =
        [.file ⟨.root, ["r", "a.c"]⟩, .directory ["z"],
          .file ⟨.root, ["r", "z", "f.c"]⟩, .file ⟨.root, ["r", "z", "f.c"]⟩] ∧
      (files overlapTree none none ⟨.root, ["r"]⟩).1 = .ok
        [⟨.root, ["r", "a.c"]⟩, ⟨.root, ["r", "z", "f.c"]⟩,
          ⟨.root, ["r", "z", "g.h"]⟩] ∧
      (files (overlapTree.remove ["r", "z", "g.h"]) none none ⟨.root, ["r"]⟩).1 = .ok
        [⟨.root, ["r", "a.c"]⟩, ⟨.root, ["r", "z", "f.c"]⟩] := by
  refine ⟨?_, ?_, ?_⟩
  all_goals cbv

theorem run_overlap_remove :
    (run (overlapTree.remove ["r", "z", "g.h"]) none none overlapTable
      overlapDirectories).result =
      .ok ⟨1, 1, 3, []⟩ := by
  have holds := unopenable_overlap.toHoldsFile
  have scanned : scanFile (overlapTree.remove ["r", "z", "g.h"]) overlapTable.contains
      ⟨.root, ["r", "a.c"]⟩ = .scanned ⟨.root, ["r", "a.c"]⟩
        ⟨[overlapBlock], none⟩ := by
    rw [scanFile, holds.readText_remove locate_overlap.1 (by simp)]
    exact scanFile_overlap_link
  have linkCode : isCode ⟨.root, ["r", "a.c"]⟩ = true := by rfl
  have sourceCode : isCode ⟨.root, ["r", "z", "f.c"]⟩ = true := by rfl
  rw [run, walks_overlap.1]
  simp only [eventsFrom, linkCode, sourceCode, holds.realPath_remove,
    resolve_overlap.1, scanned, if_true, List.not_mem_nil, if_false, List.mem_singleton]
  rfl

/-- What counting the tree of the overlap gives, with the header and without it. -/
def overlapStatistics : LineStatistics :=
  [(.c, ⟨2, 0, 4, 2⟩)]

theorem countIn?_overlap
    {path : Path}
    (isC : FileType.ofPath path = .c)
    (noNull : path.hasNull = false)
    (located : overlapTree.locate true path = .ok ["r", "z", "f.c"]) :
    LineStatistics.countIn? overlapTree path = some (.c, ⟨1, 0, 2, 1⟩) := by
  rw [LineStatistics.countIn?_of_readText
    (FileTree.readText_of_node noNull located rfl), isC]
  rfl

theorem ofDirectory_overlap :
    (LineStatistics.ofDirectory overlapTree none none ⟨.root, ["r"]⟩).1 =
      .ok overlapStatistics := by
  obtain ⟨link, source, header⟩ := locate_overlap
  rw [LineStatistics.ofDirectory_of_files walks_overlap.2.1]
  simp only [List.filterMap_cons, List.filterMap_nil, countIn?_overlap rfl rfl link,
    countIn?_overlap rfl rfl source,
    LineStatistics.countIn?_of_unopenable unopenable_overlap header]
  rfl

/-! ## Detours -/

section Detour

open FileTree (Climbs detour detourTree plainWay)

variable {target : String} {bytes : List UInt8}

theorem unopenable_detour :
    (detourTree target bytes false).Unopenable ["e", "y", "f.c"] :=
  FileTree.HoldsFile.unopenable ⟨rfl, by simp [FileTree.locations, detourTree], rfl⟩ rfl

section Climbs

variable {count : Nat} (climbs : Climbs target count)

include climbs

/-- With the file that may not be read, the other one is not opened: they have their
canonical path in common. -/
theorem run_detour_unopenable :
    ∃ issues,
      (run (detourTree target (Text.Utf8.encode overlapText) false) none none
          overlapTable [detour ["..", "y"], plainWay "d" "src"]).result =
        .ok ⟨0, 0, 0, issues⟩ := by
  have holds : FileTree.Holds "d" "src" := .inl ⟨rfl, rfl⟩
  have code : isCode (detour ["..", "y", "f.c"]) = true := rfl
  have codePlain : isCode ((plainWay "d" "src").child "f.c") = true := rfl
  have refused : (detourTree target (Text.Utf8.encode overlapText) false).readText
      (detour ["..", "y", "f.c"]) =
        .error (.refused .permissionDenied "a/old/../y/f.c") :=
    FileTree.readText_of_readAt_error (FileTree.hasNull_detour (.inr rfl))
      (FileTree.locate_detour_file climbs ["..", "y"] (.inr rfl)) rfl
  rw [run, findings_detour climbs (.inr rfl) holds (by decide)]
  simp only [List.cons_append, List.nil_append, eventsFrom, code, codePlain,
    FileTree.realPath_detour_down_file climbs, holds.realPath_plainWay,
    scanFile, refused, if_true, List.not_mem_nil, if_false, List.mem_singleton]
  exact ⟨_, rfl⟩

theorem findings_detour_remove :
    findings ((detourTree target bytes false).remove ["e", "y", "f.c"]) none none
        [detour ["..", "y"], plainWay "d" "src"] =
      [.file ((plainWay "d" "src").child "f.c")] := by
  have unopenable := (@unopenable_detour target bytes).toHoldsFile
  have holds : FileTree.Holds "d" "src" := .inl ⟨rfl, rfl⟩
  have relisted := unopenable.list_remove FileTree.wellFormed_detour
    (FileTree.list_detour climbs (.inr rfl)) (FileTree.locate_detour_down climbs true)
  have relistedPlain :=
    unopenable.list_remove FileTree.wellFormed_detour holds.list_plainWay
      holds.locate_plainWay.1
  have stays :=
    (unopenable.isFile_remove_eq_true_iff ((plainWay "d" "src").child "f.c")).mpr
      ⟨holds.isFile_plainWay, by simp [holds.locate_plainWay.2]⟩
  rw [findings, sort_pair (by simp [detour, plainWay]) (by decide), List.flatMap_cons,
    List.flatMap_singleton, findings_of_flat relisted (by simp),
    findings_of_flat relistedPlain (by simpa using stays)]
  rfl

/-- Without the file that may not be read, the other one is scanned. -/
theorem run_detour_remove :
    (run
        ((detourTree target (Text.Utf8.encode overlapText) false).remove
          ["e", "y", "f.c"])
        none none overlapTable [detour ["..", "y"], plainWay "d" "src"]).result =
      .ok ⟨1, 1, 3, []⟩ := by
  have unopenable :=
    (@unopenable_detour target (Text.Utf8.encode overlapText)).toHoldsFile
  have holds : FileTree.Holds "d" "src" := .inl ⟨rfl, rfl⟩
  have readable : ((detourTree target (Text.Utf8.encode overlapText) false).remove
      ["e", "y", "f.c"]).readText ((plainWay "d" "src").child "f.c") =
        .ok overlapText := by
    rw [unopenable.readText_remove holds.locate_plainWay.2 (by simp)]
    exact FileTree.readText_of_node rfl holds.locate_plainWay.2 rfl
  have code : isCode ((plainWay "d" "src").child "f.c") = true := rfl
  rw [run, findings_detour_remove climbs]
  simp only [eventsFrom, code, unopenable.realPath_remove,
    holds.realPath_plainWay, if_true, List.not_mem_nil, if_false, scanFile, readable]
  rfl

end Climbs
end Detour

/-! ## A file that cannot be opened -/

/-- What a file that cannot be opened costs.  A count that returns with the file and
without it returns the same.  So do the counters and the table of a correlation, if
all code files that it comes upon have canonical paths with everything on the way
being there; and its issues are those without the file, and at most one more
somewhere among them. -/
theorem unopenable_file_costs_itself
    {tree : FileTree} {place : Location}
    (unopenable : tree.Unopenable place)
    (wellFormed : tree.WellFormed) :
    (∀ exclusion base root statistics left,
      (LineStatistics.ofDirectory tree exclusion base root).1 = .ok statistics →
        (LineStatistics.ofDirectory (tree.remove place) exclusion base root).1 =
          .ok left →
          left = statistics) ∧
      ∀ exclusion base table directories result left,
        (run tree exclusion base table directories).result = .ok result →
          (run (tree.remove place) exclusion base table directories).result = .ok left →
            (∀ entry ∈ walkedCode tree exclusion base directories,
              ∃ location, tree.realLocation entry = .ok location) →
              left.filesScanned = result.filesScanned ∧
                left.snippetCount = result.snippetCount ∧
                left.totalLines = result.totalLines ∧
                (run (tree.remove place) exclusion base table directories).table =
                  (run tree exclusion base table directories).table ∧
                ∃ before extra after,
                  result.issues = before ++ extra ++ after ∧
                    left.issues = before ++ after ∧
                    extra.length ≤ 1 := by
  refine ⟨fun _ _ _ _ _ => LineStatistics.ofDirectory_remove unopenable wellFormed, ?_⟩
  intro exclusion base table directories result left returned returnedLeft resolves
  obtain ⟨before, lost, after, whole, rest, atMost, idle⟩ :=
    exists_scans_remove unopenable wellFormed returned returnedLeft resolves
  obtain ⟨found, attached⟩ := scans_of_run returned
  obtain ⟨foundLeft, attachedLeft⟩ := scans_of_run returnedLeft
  obtain ⟨sameBlocks, same⟩ := ofEvents_drop idle
  rw [whole] at found attached
  rw [rest] at foundLeft attachedLeft
  rw [same, ← found] at foundLeft
  refine ⟨by rw [foundLeft], by rw [foundLeft], by rw [foundLeft], ?_, ?_⟩
  · rw [attached, attachedLeft, sameBlocks]
  · refine ⟨before.filterMap Event.issue?, lost.filterMap Event.issue?,
      after.filterMap Event.issue?, ?_, by rw [foundLeft],
      (List.length_filterMap_le _ _).trans atMost⟩
    rw [found, Result.ofEvents]
    dsimp only
    rw [List.filterMap_append, List.filterMap_append]

/-- The header costs its issue, and nothing else. -/
theorem unopenable_file_costs_itself_header :
    overlapTree.Unopenable ["r", "z", "g.h"] ∧ overlapTree.WellFormed ∧
      (LineStatistics.ofDirectory overlapTree none none ⟨.root, ["r"]⟩).1 =
        .ok overlapStatistics ∧
      (LineStatistics.ofDirectory (overlapTree.remove ["r", "z", "g.h"]) none none
        ⟨.root, ["r"]⟩).1 = .ok overlapStatistics ∧
      (run overlapTree none none overlapTable overlapDirectories).result =
        .ok ⟨1, 1, 3, [⟨"/r/z/g.h", "[Errno 13] Permission denied: '/r/z/g.h'"⟩]⟩ ∧
      (run (overlapTree.remove ["r", "z", "g.h"]) none none overlapTable
        overlapDirectories).result = .ok ⟨1, 1, 3, []⟩ ∧
      (∀ entry ∈ walkedCode overlapTree none none overlapDirectories,
        ∃ location, overlapTree.realLocation entry = .ok location) ∧
      (run (overlapTree.remove ["r", "z", "g.h"]) none none overlapTable
        overlapDirectories).table =
          (run overlapTree none none overlapTable overlapDirectories).table := by
  obtain ⟨counts, correlates⟩ :=
    unopenable_file_costs_itself unopenable_overlap wellFormed_overlap
  have countedLeft := LineStatistics.ofDirectory_of_files walks_overlap.2.2
  have same := counts _ _ _ _ _ ofDirectory_overlap countedLeft
  obtain ⟨-, -, -, sameTable, -⟩ :=
    correlates _ _ _ _ _ _ run_overlap run_overlap_remove realLocation_overlap
  exact ⟨unopenable_overlap, wellFormed_overlap, ofDirectory_overlap,
    same ▸ countedLeft, run_overlap, run_overlap_remove, realLocation_overlap,
    sameTable⟩

/-- A file that cannot be opened may cost another file, whose canonical path it is
given. -/
theorem not_all_unopenable_files_cost_themselves :
    ¬ ∀ (tree : FileTree) (place : Location) (exclusion : Option Exclusion)
      (base : Option Path) (table : Table) (directories : List Path)
      (result left : Result), tree.Unopenable place → tree.WellFormed →
        (run tree exclusion base table directories).result = .ok result →
          (run (tree.remove place) exclusion base table directories).result = .ok left →
            left.filesScanned = result.filesScanned ∧
              left.snippetCount = result.snippetCount ∧
              left.totalLines = result.totalLines ∧
              (run (tree.remove place) exclusion base table directories).table =
                (run tree exclusion base table directories).table ∧
              ∃ before extra after,
                result.issues = before ++ extra ++ after ∧
                  left.issues = before ++ after ∧
                  extra.length ≤ 1 := by
  intro claimed
  have climbs := FileTree.climbs_detourTarget
  obtain ⟨issues, ran⟩ := run_detour_unopenable climbs
  obtain ⟨sameScans, -⟩ := claimed _ ["e", "y", "f.c"] none none overlapTable _ _ _
    unopenable_detour FileTree.wellFormed_detour ran (run_detour_remove climbs)
  cases sameScans

end Correlation
end KernelInventory
