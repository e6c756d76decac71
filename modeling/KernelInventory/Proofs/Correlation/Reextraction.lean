import KernelInventory.Proofs.Correlation.Counting
import KernelInventory.Proofs.Text.Utf8
import KernelInventory.Proofs.Walk.Ways

/-!
# Extracting a snippet from itself

A snippet runs from a guard of its component to the first line that brings the nesting
back to nothing.  It is therefore the one block of the text that it makes by itself: its
lines are read back from that text, the nesting inside it is what it was in its file,
and guards further in do not stand outside all others, whichever components are known.
-/

namespace KernelInventory
namespace Guard

/-! ## The lines of a block by themselves -/

/-- Behind a line number without nesting, the nesting is what it is
without the lines in front. -/
theorem depthAfter_take_drop
    {lines : List (List Char)} {start : Nat}
    (outside : depthAfter (lines.take start) = 0)
    (count : Nat) :
    depthAfter ((lines.drop start).take count) =
      depthAfter (lines.take (start + count)) := by
  unfold depthAfter at outside ⊢
  rw [List.take_add, List.foldl_append, outside]

section Slice

variable {known : String → Bool} {lines : List (List Char)} {start stop : Nat}
  {owner : String}

theorem length_slice (ends : endOf? lines start = some stop) :
    ((lines.take (stop + 1)).drop start).length = stop + 1 - start := by
  obtain ⟨-, inside, -⟩ := (endOf?_eq_some_iff lines start stop).mp ends
  rw [List.length_drop, List.length_take, Nat.min_eq_left inside]

/-- Inside a block, the nesting is the same whether the block stands in
its file or by itself. -/
theorem depthAfter_take_slice
    (opens : opening? known lines start = some owner)
    {count : Nat}
    (within : count ≤ stop + 1 - start) :
    depthAfter (((lines.take (stop + 1)).drop start).take count) =
      depthAfter (lines.take (start + count)) := by
  rw [List.drop_take, List.take_take, Nat.min_eq_left within,
    depthAfter_take_drop (depthAfter_take_of_opening opens)]

/-- The guard of a block opens it, wherever its component is known. -/
theorem opening?_slice
    (opens : opening? known lines start = some owner)
    (ends : endOf? lines start = some stop)
    {other : String → Bool}
    (otherKnown : other owner = true) :
    opening? other ((lines.take (stop + 1)).drop start) 0 = some owner := by
  obtain ⟨line, there, guard⟩ := classify_of_opening opens
  obtain ⟨behind, -⟩ := (endOf?_eq_some_iff lines start stop).mp ends
  have first : ((lines.take (stop + 1)).drop start)[0]? = some line := by
    rw [List.getElem?_drop, List.getElem?_take_of_lt (by omega), Nat.add_zero, there]
  rw [opening?, first, Option.map_some, guard]
  exact if_pos ⟨rfl, otherKnown⟩

/-- No other block begins inside a block. -/
theorem eq_zero_of_opening?_slice
    (opens : opening? known lines start = some owner)
    (ends : endOf? lines start = some stop)
    {other : String → Bool} {further : Nat} {name : String}
    (opensFurther : opening? other ((lines.take (stop + 1)).drop start) further =
      some name) :
    further = 0 := by
  by_contra behind
  have inside := lt_length_of_opening opensFurther
  rw [length_slice ends] at inside
  have outside := depthAfter_take_of_opening opensFurther
  rw [depthAfter_take_slice opens (Nat.le_of_lt inside)] at outside
  exact depthAfter_take_ne_zero_of_ends opens ends (by omega) (by omega) outside

/-- A block ends at its last line. -/
theorem endOf?_slice
    (opens : opening? known lines start = some owner)
    (ends : endOf? lines start = some stop) :
    endOf? ((lines.take (stop + 1)).drop start) 0 = some (stop - start) := by
  obtain ⟨behind, -, back, first⟩ := (endOf?_eq_some_iff lines start stop).mp ends
  rw [endOf?_eq_some_iff, length_slice ends]
  refine ⟨by omega, by omega, ?_, fun between after before => ?_⟩
  · have last : start + (stop - start + 1) = stop + 1 := by omega
    rwa [depthAfter_take_slice opens (by omega), last]
  · rw [depthAfter_take_slice opens (by omega), ← Nat.add_assoc]
    exact first (start + between) (by omega) (by omega)

/-- The lines of a block have the block, and nothing else, and no guard is left open. -/
theorem scan_slice
    (opens : opening? known lines start = some owner)
    (ends : endOf? lines start = some stop)
    {other : String → Bool}
    (otherKnown : other owner = true) :
    scan other ((lines.take (stop + 1)).drop start) =
      ⟨[⟨owner, (lines.take (stop + 1)).drop start⟩], none⟩ := by
  have length := length_slice ends
  have begins := opening?_slice opens ends otherKnown
  have finishes := endOf?_slice opens ends
  have alone := @eq_zero_of_opening?_slice known lines start stop owner opens ends other
  obtain ⟨behind, -⟩ := (endOf?_eq_some_iff lines start stop).mp ends
  generalize (lines.take (stop + 1)).drop start = slice at length begins finishes alone
  have count : slice.length = stop - start + 1 := by omega
  have whole : (slice.take (stop - start + 1)).drop 0 = slice := by
    rw [List.drop_zero, List.take_of_length_le (Nat.le_of_eq count)]
  have blocks : (scan other slice).blocks = [⟨owner, slice⟩] := by
    refine (tracks_scanFrom other slice).2.trans ?_
    have further : ∀ next, blockAt? other slice (next + 1) = none := fun next =>
      blockAt?_of_not_opening
        (Option.eq_none_iff_forall_ne_some.mpr fun name opensNext =>
        Nat.succ_ne_zero next (alone opensNext))
    rw [blocksOf, count, List.range_succ_eq_map, List.filterMap_cons, blockAt?, begins,
      Option.bind_some, finishes, Option.map_some, whole, List.filterMap_map]
    exact congrArg _ (List.filterMap_eq_nil_iff.mpr fun next _ => further next)
  have closed : (scan other slice).unterminated = none := by
    refine unterminated_scan_eq_none fun next name unclosed => ?_
    obtain rfl := alone unclosed.1
    exact Option.some_ne_none _ (finishes.symm.trans unclosed.2)
  calc
    scan other slice = ⟨(scan other slice).blocks, (scan other slice).unterminated⟩ :=
      rfl
    _ = ⟨[⟨owner, slice⟩], none⟩ := by rw [blocks, closed]

end Slice
end Guard

/-! ## A directory with a single file -/

namespace FileTree

/-- A directory holds a single file with some bytes, which can be opened and
has a canonical path. -/
structure HoldsSingle (tree : FileTree) (directory : Path) (name : String)
    (bytes : List UInt8) :
    Prop where
  lists : tree.list directory = .ok [name]
  opens : tree.atPath (directory.child name) tree.readAt = .ok bytes
  resolves : ∃ canonical, tree.realPath (directory.child name) = .ok canonical

/-- What is read is a regular file. -/
theorem isFile_of_atPath_readAt
    {tree : FileTree} {path : Path} {bytes : List UInt8}
    (opens : tree.atPath path tree.readAt = .ok bytes) :
    tree.isFile path = .ok true := by
  obtain ⟨noNull, place, located, read⟩ := atPath_eq_ok_iff.mp opens
  rw [isFile, leadsTo_of_locate noNull located]
  unfold readAt at read
  split at read
  next found =>
    rw [found]
    rfl
  · cases read
  · cases read

end FileTree

namespace Correlation

open Guard Walk

/-- To correlate a directory with a single source file is to scan this file. -/
theorem run_of_holdsSingle
    {tree : FileTree} {directory : Path} {name : String} {bytes : List UInt8}
    (single : tree.HoldsSingle directory name bytes)
    (source : (directory.child name).suffix = ".c")
    (table : Table) :
    let scanned := scan table.contains (Text.lines (Text.Utf8.decode bytes))
    (run tree none none table [directory]).result =
        .ok (Result.ofEvents [.scanned (directory.child name) scanned]) ∧
      (run tree none none table [directory]).table = scanned.blocks.foldl attach
        table := by
  intro scanned
  obtain ⟨canonical, resolved⟩ := single.resolves
  have regular := FileTree.isFile_of_atPath_readAt single.opens
  have found : findings tree none none [directory] =
      [.file (directory.child name)] := by
    have sorted : Path.sort [directory] = [directory] :=
      List.mergeSort_singleton directory
    rw [findings, sorted, List.flatMap_singleton,
      findings_of_flat single.lists (by simpa using regular), List.map_singleton]
  have code : isCode (directory.child name) = true := by simp [isCode, source]
  have read : tree.readText (directory.child name) = .ok (Text.Utf8.decode bytes) := by
    rw [FileTree.readText, single.opens]
    rfl
  have event := scanFile_of_readText table.contains read
  rw [run, found]
  simp only [eventsFrom, code, resolved, event, if_true, List.not_mem_nil, if_false]
  refine ⟨rfl, ?_⟩
  change ([Event.scanned (directory.child name) scanned].flatMap Event.blocks).foldl
      attach table =
    _
  rw [List.flatMap_singleton]
  rfl

/-! ## What a correlation attaches -/

/-- Every block of a correlation is that of an excerpt of a file. -/
theorem exists_excerpt_of_mem_blocks
    {tree : FileTree} {known : String → Bool} {seen : List Path} {found : List Finding}
    {event : Event} {block : Block}
    (happens : event ∈ eventsFrom tree known seen found)
    (member : block ∈ event.blocks) :
    ∃ path, ∃ excerpt ∈ excerptsAt tree known path, excerpt.block = block := by
  have unfolds := unfolds tree known seen found
  generalize eventsFrom tree known seen found = events at happens unfolds
  induction unfolds with
  | nil => cases happens
  | noFile _ _ inductionHypothesis | unresolved _ _ _ inductionHypothesis =>
      rcases List.mem_cons.mp happens with rfl | later
      · cases member
      · exact inductionHypothesis later
  | noCode _ _ inductionHypothesis | again _ _ _ _ inductionHypothesis =>
      exact inductionHypothesis happens
  | @fresh seen path canonical rest events _ _ _ _ inductionHypothesis =>
      rcases List.mem_cons.mp happens with rfl | later
      · rw [blocks_scanFile] at member
        exact ⟨path, List.mem_map.mp member⟩
      · exact inductionHypothesis later

section Run

variable {tree : FileTree} {exclusion : Option Exclusion} {base : Option Path}
  {table : Table} {directories : List Path} {owner snippet : String}

/-- A correlation attaches a snippet to a component: it is one of those that the record
of the component holds behind the snippets that it held before. -/
def Attaches (tree : FileTree) (exclusion : Option Exclusion) (base : Option Path)
    (table : Table) (directories : List Path) (owner snippet : String) : Prop :=
  ∃ before after, table.find? owner = some before ∧
    (run tree exclusion base table directories).table.find? owner = some after ∧
    snippet ∈ after.snippets.drop before.snippets.length

/-- What is attached is the text of an excerpt from the lines of a source file. -/
theorem exists_excerpt_of_attaches
    (attaches : Attaches tree exclusion base table directories owner snippet) :
    ∃ text, ∃ excerpt ∈ excerptsIn table.contains (Text.lines text),
      excerpt.owner = owner ∧ excerpt.block.text = snippet := by
  obtain ⟨before, after, known, attached, member⟩ := attaches
  have table_eq : (run tree exclusion base table directories).table =
      (((events tree exclusion base table directories).takeWhile fun event =>
        event.fault?.isNone).flatMap Event.blocks).foldl attach table := by
    unfold run
    dsimp only
    rw [← events]
    split <;> rfl
  rw [table_eq, find?_foldl_attach, known, Option.map_some,
    Option.some.injEq] at attached
  rw [← attached, List.drop_left] at member
  obtain ⟨block, inBlocks, rfl⟩ := List.mem_map.mp member
  obtain ⟨inEvents, owned⟩ := List.mem_filter.mp inBlocks
  obtain ⟨event, happens, here⟩ := List.mem_flatMap.mp inEvents
  obtain ⟨path, excerpt, inFile, rfl⟩ :=
    exists_excerpt_of_mem_blocks ((List.takeWhile_sublist _).subset happens) here
  obtain ⟨text, -, inText⟩ := exists_text_of_mem_excerptsAt inFile
  exact ⟨text, excerpt, inText, of_decide_eq_true owned, rfl⟩

/-- The lines of an excerpt are read back from its text. -/
theorem lines_text_of_mem_excerptsIn
    {known : String → Bool} {text : List Char} {excerpt : Excerpt}
    (member : excerpt ∈ excerptsIn known (Text.lines text)) :
    Text.lines excerpt.block.text.toList = excerpt.block.lines := by
  obtain ⟨lines_eq, opens, ends⟩ := mem_excerptsIn_iff.mp member
  obtain ⟨-, inside, -⟩ := (endOf?_eq_some_iff _ _ _).mp ends
  rw [Block.text, String.toList_ofList]
  refine Text.lines_unlines (fun line inBlock => ?_) fun empty => ?_
  · have inText := List.mem_of_mem_take (List.mem_of_mem_drop inBlock)
    exact Text.unbroken_of_mem_lines (lines_eq ▸ inText)
  · have closes := (guarded_of_mem_excerptsIn member).closes
    have last : excerpt.block.lines.getLast? = excerpt.lines[excerpt.stop]? := by
      obtain ⟨behind, -⟩ := (endOf?_eq_some_iff _ _ _).mp ends
      rw [Excerpt.block, List.getLast?_drop, List.length_take, lines_eq,
        Nat.min_eq_left inside, if_neg (by omega), List.take_add_one,
        List.getElem?_eq_getElem inside, Option.toList_some, List.getLast?_concat]
    rw [← last, empty] at closes
    cases closes

/-- Extraction is a fixed point on what it delivers.  Whatever a correlation attaches to
a component is all that a correlation attaches, if it is given a directory whose single
source file holds just that, and a table with the component: nothing goes to other
components, the one snippet and its lines are counted, and there is no issue. -/
theorem snippet_extracts_itself
    (attaches : Attaches tree exclusion base table directories owner snippet)
    {other : FileTree} {directory : Path} {name : String} {otherTable : Table}
    (single : other.HoldsSingle directory name (Text.Utf8.encode snippet.toList))
    (source : (directory.child name).suffix = ".c")
    (known : otherTable.contains owner = true) :
    let again := run other none none otherTable [directory]
    again.result = .ok ⟨1, 1, snippetLineCount snippet, []⟩ ∧
      again.table.records = otherTable.records.map fun record =>
        if record.name = owner then { record with snippets :=
          record.snippets ++ [snippet] }
        else record := by
  intro again
  obtain ⟨text, excerpt, member, rfl, rfl⟩ := exists_excerpt_of_attaches attaches
  obtain ⟨lines_eq, opens, ends⟩ := mem_excerptsIn_iff.mp member
  have readBack : Text.lines
      (Text.Utf8.decode (Text.Utf8.encode excerpt.block.text.toList)) =
        excerpt.block.lines := by
    rw [Text.Utf8.decode_encode, lines_text_of_mem_excerptsIn member]
  have scanned : scan otherTable.contains excerpt.block.lines =
      ⟨[excerpt.block], none⟩ := by
    have alone := scan_slice opens ends known
    rwa [← lines_eq] at alone
  obtain ⟨result_eq, table_eq⟩ := run_of_holdsSingle single source otherTable
  rw [readBack, scanned] at result_eq table_eq
  refine ⟨result_eq.trans ?_, ?_⟩
  · have counted : tally (fun block => snippetLineCount block.text) [excerpt.block] =
        snippetLineCount excerpt.block.text := rfl
    exact congrArg (fun count => Except.ok (Result.mk 1 1 count [])) counted
  · exact congrArg Table.records table_eq

end Run

/-! ## A snippet with a guard inside -/

/-- A directory with a single file. -/
def singleTree (bytes : List UInt8) : FileTree :=
  ⟨[], [(["d"], .openDirectory), (["d", "f.c"], .file bytes true)]⟩

theorem holdsSingle_singleTree (bytes : List UInt8) :
    (singleTree bytes).HoldsSingle ⟨.root, ["d"]⟩ "f.c" bytes where
  lists := by cbv
  opens := by cbv
  resolves := ⟨⟨.root, ["d", "f.c"]⟩, by cbv⟩

/-- The block of the outer guard, in which the inner guard stands. -/
def nestedSnippet : String :=
  "#ifdef CONFIG_A\nx\n#ifdef CONFIG_B\n#endif\n#endif"

theorem attaches_nestedSnippet :
    Attaches (singleTree (Text.Utf8.encode guardedText)) none none ⟨[{ name := "A" }]⟩
      [⟨.root, ["d"]⟩] "A" nestedSnippet := by
  obtain ⟨-, table_eq⟩ :=
    run_of_holdsSingle (holdsSingle_singleTree (Text.Utf8.encode guardedText)) rfl
      ⟨[{ name := "A" }]⟩
  rw [Text.Utf8.decode_encode] at table_eq
  refine ⟨{ name := "A" }, { name := "A", snippets := [nestedSnippet] }, rfl,
    ?_, by simp⟩
  rw [table_eq]
  rfl

/-- The snippet comes back whole, although the component of the inner
guard is known as well. -/
theorem snippet_extracts_itself_nested :
    Attaches (singleTree (Text.Utf8.encode guardedText)) none none ⟨[{ name := "A" }]⟩
        [⟨.root, ["d"]⟩] "A" nestedSnippet ∧
      (singleTree (Text.Utf8.encode nestedSnippet.toList)).HoldsSingle
        ⟨.root, ["d"]⟩ "f.c" (Text.Utf8.encode nestedSnippet.toList) ∧
      (run (singleTree (Text.Utf8.encode nestedSnippet.toList)) none none
        ⟨[{ name := "B" }, { name := "A" }]⟩ [⟨.root, ["d"]⟩]).result =
          .ok ⟨1, 1, 5, []⟩ ∧
      (run (singleTree (Text.Utf8.encode nestedSnippet.toList)) none none
        ⟨[{ name := "B" }, { name := "A" }]⟩ [⟨.root, ["d"]⟩]).table =
          ⟨[{ name := "B" }, { name := "A", snippets := [nestedSnippet] }]⟩ := by
  have single := holdsSingle_singleTree (Text.Utf8.encode nestedSnippet.toList)
  have known : Table.contains ⟨[{ name := "B" }, { name := "A" }]⟩ "A" = true := by
    decide
  obtain ⟨result_eq, records_eq⟩ :=
    snippet_extracts_itself attaches_nestedSnippet single rfl known
  exact ⟨attaches_nestedSnippet, single, result_eq.trans (by rfl),
    congrArg Table.mk records_eq⟩

end Correlation
end KernelInventory
