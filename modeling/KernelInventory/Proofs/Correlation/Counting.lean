import KernelInventory.Proofs.Correlation.Opening
import KernelInventory.Proofs.Guard.Extraction
import KernelInventory.Proofs.Text.Lines

/-!
# What a correlation counts

A correlation counts the snippets that it attaches and their lines while it goes
along; the table counts its snippets and their lines anew.  Both agree: every block
belongs to a component of the table, no component is listed twice, and no line of a
source file holds a line feed, so that the line feeds of a snippet tell how many lines
it has been joined from.
-/

namespace KernelInventory

/-! ## Lines and tallies -/

namespace Text

/-- Joined lines have one line feed less than there are lines. -/
theorem count_unlines
    {lines : List (List Char)}
    (nonempty : lines ≠ [])
    (unbroken : ∀ line ∈ lines, '\n' ∉ line) :
    (unlines lines).count '\n' + 1 = lines.length := by
  induction lines with
  | nil => exact absurd rfl nonempty
  | cons line rest inductionHypothesis =>
      have none : line.count '\n' = 0 :=
        List.count_eq_zero.mpr (unbroken line List.mem_cons_self)
      cases rest with
      | nil => simp [unlines, none]
      | cons next others =>
          have behind := inductionHypothesis (List.cons_ne_nil _ _)
            (List.forall_mem_of_forall_mem_cons unbroken)
          rw [unlines] at behind ⊢
          rw [List.intercalate_cons_cons, List.count_append, List.count_append, none,
            List.count_singleton_self, List.length_cons]
          omega

end Text

theorem tally_congr
    {α : Type} {weight other : α → Nat} {members : List α}
    (same : ∀ member ∈ members, weight member = other member) :
    tally weight members = tally other members := by
  induction members with
  | nil => rfl
  | cons member rest inductionHypothesis =>
      rw [tally_cons, tally_cons, same member List.mem_cons_self,
        inductionHypothesis (List.forall_mem_of_forall_mem_cons same)]

theorem tally_map
    {α β : Type} (weight : β → Nat) (change : α → β) (members : List α) :
    tally weight (members.map change) = tally (fun member => weight (change member))
      members := by
  induction members with
  | nil => rfl
  | cons member rest inductionHypothesis =>
      rw [List.map_cons, tally_cons, tally_cons, inductionHypothesis]

/-- To weigh every member one is to count them. -/
theorem tally_one {α : Type} (members : List α) :
    tally (fun _ => 1) members = members.length := by
  induction members with
  | nil => rfl
  | cons member rest inductionHypothesis =>
      rw [tally_cons, inductionHypothesis, List.length_cons, Nat.add_comm]

namespace Table

/-- The sum of the weights of all snippets in the table. -/
def snippetTally (weight : String → Nat) (table : Table) : Nat :=
  tally (fun record => tally weight record.snippets) table.records

/-- The number of snippets in the table. -/
def snippetTotal (table : Table) : Nat :=
  tally (fun record => record.snippets.length) table.records

theorem snippetTotal_eq (table : Table) :
    table.snippetTotal = table.snippetTally fun _ => 1 := by
  simp only [snippetTotal, snippetTally, tally_one]

theorem totalCodeLines_eq (table : Table) :
    table.totalCodeLines = table.snippetTally snippetLineCount := rfl

end Table

namespace Correlation

open Guard

/-! ## Blocks on their components -/

/-- The records behind blocks have got the texts of their blocks, in
order, and nothing else. -/
theorem records_foldl_attach (blocks : List Block) (table : Table) :
    (blocks.foldl attach table).records =
      table.records.map fun record =>
        { record with
          snippets := record.snippets ++
            (blocks.filter fun block => block.owner = record.name).map
              Block.text } := by
  induction blocks generalizing table with
  | nil => simp
  | cons block rest inductionHypothesis =>
      rw [List.foldl_cons, inductionHypothesis, attach, Table.modify, List.map_map]
      refine List.map_congr_left fun record _ => ?_
      by_cases owned : record.name = block.owner
      · simp [owned, Record.addSnippet]
      · simp [owned, Ne.symm owned]

/-- A block weighs on the one record of its component. -/
theorem snippetTally_attach
    (weight : String → Nat)
    {table : Table} {block : Block}
    (distinct : table.names.Nodup)
    (known : block.owner ∈ table.names) :
    (attach table block).snippetTally weight = table.snippetTally weight + weight
      block.text := by
  obtain ⟨records⟩ := table
  induction records with
  | nil => cases known
  | cons record rest inductionHypothesis =>
      obtain ⟨unique, distinctRest⟩ := List.nodup_cons.mp distinct
      have step : (attach ⟨record :: rest⟩ block).snippetTally weight =
          tally weight (if record.name = block.owner then record.addSnippet block.text
            else record).snippets + (attach ⟨rest⟩ block).snippetTally weight := rfl
      have start : Table.snippetTally weight ⟨record :: rest⟩ =
          tally weight record.snippets + Table.snippetTally weight ⟨rest⟩ := rfl
      rw [step, start]
      by_cases owned : record.name = block.owner
      · have others : attach ⟨rest⟩ block = ⟨rest⟩ := by
          refine congrArg Table.mk ((List.map_congr_left fun other member => ?_).trans
            (List.map_id rest))
          refine if_neg fun same => unique ?_
          exact List.mem_map.mpr ⟨other, member, same.trans owned.symm⟩
        rw [if_pos owned, others, Record.addSnippet, tally_append, tally_cons,
          tally_nil]
        omega
      · have knownRest : block.owner ∈ Table.names ⟨rest⟩ :=
          (List.mem_cons.mp known).resolve_left (Ne.symm owned)
        rw [if_neg owned, inductionHypothesis distinctRest knownRest]
        omega

/-- Blocks of components add their weights. -/
theorem snippetTally_foldl_attach
    (weight : String → Nat)
    {table : Table} {blocks : List Block}
    (distinct : table.names.Nodup)
    (known : ∀ block ∈ blocks, block.owner ∈ table.names) :
    (blocks.foldl attach table).snippetTally weight =
      table.snippetTally weight + tally (fun block => weight block.text) blocks := by
  induction blocks generalizing table with
  | nil => rfl
  | cons block rest inductionHypothesis =>
      have names : (attach table block).names = table.names :=
        names_foldl_attach [block] table
      rw [List.foldl_cons, inductionHypothesis (names ▸ distinct) (names ▸
          List.forall_mem_of_forall_mem_cons known),
        snippetTally_attach weight distinct (known block List.mem_cons_self),
        tally_cons]
      omega

/-! ## Blocks in their files -/

/-- A block of code in its place: the lines of its file, and the numbers of its first
and of its last line among them. -/
structure Excerpt where
  lines : List (List Char)
  owner : String
  start : Nat
  stop : Nat
deriving Repr, DecidableEq

namespace Excerpt

/-- The block of an excerpt. -/
def block (excerpt : Excerpt) : Block :=
  ⟨excerpt.owner, (excerpt.lines.take (excerpt.stop + 1)).drop excerpt.start⟩

/-- The number of lines from the first to the last one. -/
def lineCount (excerpt : Excerpt) : Nat :=
  excerpt.stop + 1 - excerpt.start

/-- An excerpt runs from a guard of its component to the line that closes it. -/
structure Guarded (known : String → Bool) (excerpt : Excerpt) : Prop where
  known : known excerpt.owner = true
  before : excerpt.start < excerpt.stop
  opens : excerpt.lines[excerpt.start]?.map classify = some (.opens excerpt.owner)
  closes : excerpt.lines[excerpt.stop]?.map classify = some .closes

end Excerpt

/-- The excerpts of a source file with some lines, in order. -/
def excerptsIn (known : String → Bool) (lines : List (List Char)) : List Excerpt :=
  (List.range lines.length).filterMap fun start =>
    (opening? known lines start).bind fun owner =>
      (endOf? lines start).map fun stop => ⟨lines, owner, start, stop⟩

/-- The excerpts of the file that a path leads to, none if it cannot be read. -/
def excerptsAt (tree : FileTree) (known : String → Bool) (path : Path) : List Excerpt :=
  match tree.readText path with
  | .ok text => excerptsIn known (Text.lines text)
  | .error _ => []

section Excerpts

variable {known : String → Bool} {lines : List (List Char)} {excerpt : Excerpt}

theorem mem_excerptsIn_iff :
    excerpt ∈ excerptsIn known lines ↔
      excerpt.lines = lines ∧ opening? known lines excerpt.start = some excerpt.owner ∧
        endOf? lines excerpt.start = some excerpt.stop := by
  constructor
  · intro member
    obtain ⟨start, -, found⟩ := List.mem_filterMap.mp member
    obtain ⟨owner, opens, found⟩ := Option.bind_eq_some_iff.mp found
    obtain ⟨stop, ends, rfl⟩ := Option.map_eq_some_iff.mp found
    exact ⟨rfl, opens, ends⟩
  · obtain ⟨_, owner, start, stop⟩ := excerpt
    rintro ⟨rfl, opens, ends⟩
    refine List.mem_filterMap.mpr
      ⟨start, List.mem_range.mpr (lt_length_of_opening opens), ?_⟩
    rw [opens, ends, Option.bind_some, Option.map_some]

/-- The scan of a file finds the blocks of its excerpts. -/
theorem blocks_scanFile (tree : FileTree) (known : String → Bool) (path : Path) :
    (scanFile tree known path).blocks = (excerptsAt tree known path).map
      Excerpt.block := by
  unfold scanFile excerptsAt
  cases tree.readText path with
  | error failure => cases failure <;> rfl
  | ok text =>
      dsimp only [Event.blocks]
      rw [excerptsIn, List.map_filterMap]
      refine (tracks_scanFrom known (Text.lines text)).2.trans
        (List.filterMap_congr fun start _ => ?_)
      rw [blockAt?, Option.map_bind]
      refine Option.bind_congr fun owner _ => ?_
      rw [Function.comp_apply, Option.map_map]
      rfl

theorem known_of_opening
    {start : Nat} {owner : String}
    (opens : opening? known lines start = some owner) :
    known owner = true := by
  unfold opening? at opens
  split at opens
  next name _ =>
    by_cases inTable : depthAfter (lines.take start) = 0 ∧ known name
    · rw [if_pos inTable] at opens
      exact Option.some.inj opens ▸ inTable.2
    · rw [if_neg inTable] at opens
      cases opens
  · cases opens

/-- What brings the nesting back to nothing closes a guard. -/
theorem classify_eq_closes_of_nest
    {depth : Nat} {line : List Char}
    (inside : depth ≠ 0)
    (back : nest depth line = 0) :
    classify line = .closes := by
  unfold nest at back
  cases lineClass : classify line with
  | closes => rfl
  | opens name =>
      rw [lineClass] at back
      cases back
  | plain =>
      rw [lineClass] at back
      exact absurd back inside

theorem guarded_of_mem_excerptsIn (member : excerpt ∈ excerptsIn known lines) :
    excerpt.Guarded known := by
  obtain ⟨rfl, opens, ends⟩ := mem_excerptsIn_iff.mp member
  obtain ⟨line, there, guard⟩ := classify_of_opening opens
  obtain ⟨behind, inside, back, -⟩ := (endOf?_eq_some_iff _ _ _).mp ends
  have inGuard := depthAfter_take_ne_zero_of_ends opens ends behind le_rfl
  rw [List.take_add_one, List.getElem?_eq_getElem inside, Option.toList_some,
    depthAfter_snoc] at back
  constructor
  · exact known_of_opening opens
  · exact behind
  · rw [there, Option.map_some, guard]
  · rw [List.getElem?_eq_getElem inside, Option.map_some,
      classify_eq_closes_of_nest inGuard back]

/-- The snippet of an excerpt from the lines of a text counts as many
lines as the excerpt. -/
theorem snippetLineCount_of_mem_excerptsIn
    {text : List Char}
    (member : excerpt ∈ excerptsIn known (Text.lines text)) :
    snippetLineCount excerpt.block.text = excerpt.lineCount := by
  obtain ⟨lines_eq, opens, ends⟩ := mem_excerptsIn_iff.mp member
  obtain ⟨behind, inside, -⟩ := (endOf?_eq_some_iff _ _ _).mp ends
  have length : excerpt.block.lines.length = excerpt.lineCount := by
    rw [Excerpt.block, lines_eq, List.length_drop, List.length_take, Excerpt.lineCount]
    omega
  have nonempty : excerpt.block.lines ≠ [] := by
    rw [← List.length_pos_iff, length, Excerpt.lineCount]
    omega
  have unbroken : ∀ line ∈ excerpt.block.lines, '\n' ∉ line := by
    intro line inBlock
    have inText := List.mem_of_mem_take (List.mem_of_mem_drop inBlock)
    exact (Text.unbroken_of_mem_lines (lines_eq ▸ inText)).1
  rw [snippetLineCount, Block.text, String.toList_ofList,
    Text.count_unlines nonempty unbroken, length]

variable {tree : FileTree} {path : Path}

theorem exists_text_of_mem_excerptsAt (member : excerpt ∈ excerptsAt tree known path) :
    ∃ text, tree.readText path = .ok text ∧
      excerpt ∈ excerptsIn known (Text.lines text) := by
  unfold excerptsAt at member
  split at member
  next text readable =>
    exact ⟨text, readable, member⟩
  · cases member

end Excerpts

/-! ## A block with a form feed -/

/-- A guard with a form feed, a line separator and a malformed byte in one of its
lines. -/
def feedBytes : List UInt8 :=
  Text.Utf8.encode "#ifdef CONFIG_A\nx\x0cy\u2028".toList ++ 0xff ::
    Text.Utf8.encode "\r\n#endif\nz\n".toList

/-- The block of the guard. -/
def feedBlock : Block :=
  ⟨"A", ["#ifdef CONFIG_A".toList, "x\x0cy\u2028\ufffd".toList, "#endif".toList]⟩

/-- A directory with the source file. -/
def feedTree : FileTree :=
  ⟨[], [(["d"], .openDirectory), (["d", "f.c"], .file feedBytes true)]⟩

/-- A component that has a snippet of two lines already, behind another component. -/
def feedTable : Table :=
  ⟨[{ name := "B" }, { name := "A", depends := ["B"], snippets := ["old\nlines"] }]⟩

section Feed

theorem scanFile_feed :
    scanFile feedTree feedTable.contains ⟨.root, ["d", "f.c"]⟩ =
      .scanned ⟨.root, ["d", "f.c"]⟩ ⟨[feedBlock], none⟩ := by
  have opened : feedTree.atPath ⟨.root, ["d", "f.c"]⟩ feedTree.readAt =
      .ok feedBytes := by
    cbv
  have scanned :
      Guard.scan feedTable.contains (Text.lines (Text.Utf8.decode feedBytes)) =
      ⟨[feedBlock], none⟩ := by
    decide +kernel
  rw [scanFile, FileTree.readText, opened]
  exact congrArg (Event.scanned _) scanned

theorem run_feed :
    (run feedTree none none feedTable [⟨.root, ["d"]⟩]).result = .ok ⟨1, 1, 3, []⟩ := by
  have found : findings feedTree none none [⟨.root, ["d"]⟩] =
      [.file ⟨.root, ["d", "f.c"]⟩] := by
    cbv
  have code : isCode ⟨.root, ["d", "f.c"]⟩ = true := by rfl
  have real : feedTree.realPath ⟨.root, ["d", "f.c"]⟩ = .ok ⟨.root, ["d", "f.c"]⟩ := by
    cbv
  rw [run, found]
  simp only [eventsFrom, code, real, scanFile_feed, if_true, List.not_mem_nil, if_false]
  rfl

end Feed

/-! ## Counters and table -/

section Run

variable {tree : FileTree} {exclusion : Option Exclusion} {base : Option Path}
  {table : Table} {directories : List Path} {result : Result}

/-- The blocks that a correlation attaches are those of the excerpts of
the files that it opens. -/
theorem blocks_events
    (faultless : ∀ event ∈ events tree exclusion base table directories,
      event.fault? = none) :
    (events tree exclusion base table directories).flatMap Event.blocks =
      ((firsts tree.realPath (walkedCode tree exclusion base directories)).flatMap
        (excerptsAt tree table.contains)).map Excerpt.block := by
  have sameSeen : ∀ canonical : Path,
      canonical ∈ [] ↔ .ok canonical ∈ ([] : List Path).map tree.realPath := by
    simp
  have opens := filter_opens_eventsFrom faultless sameSeen
  rw [flatMap_eq_filter_opens fun _ => rfl, events, opens, (walks_return faultless).2,
    List.flatMap_map, List.map_flatMap]
  exact List.flatMap_congr fun path _ => blocks_scanFile tree table.contains path

/-- The counters of a correlation that returns agree with the table, and nothing else
changes.  What is attached are the excerpts of the files that are opened, each from
the guard of a component to the line that closes it.  The records stay, in their
order, and each has got the snippets of its component behind those that it had.  The
number of snippets has grown by the snippets that have been counted, and the number
of code lines by the lines that have been counted, which are the lines of all
excerpts in their files. -/
theorem counters_agree
    (distinct : table.names.Nodup)
    (returned : (run tree exclusion base table directories).result = .ok result) :
    let opened := firsts tree.realPath (walkedCode tree exclusion base directories)
    let attached := opened.flatMap (excerptsAt tree table.contains)
    let after := (run tree exclusion base table directories).table
    (∀ excerpt ∈ attached, excerpt.Guarded table.contains) ∧
      after.records =
        table.records.map (fun record =>
          { record with
            snippets := record.snippets ++
              (attached.filter fun excerpt => excerpt.owner = record.name).map
                fun excerpt =>
                excerpt.block.text }) ∧
      after.snippetTotal = table.snippetTotal + result.snippetCount ∧
      after.totalCodeLines = table.totalCodeLines + result.totalLines ∧
      result.totalLines = tally Excerpt.lineCount attached := by
  intro opened attached after
  obtain ⟨faultless, resultEq, tableEq⟩ := of_run returned
  have blocks := blocks_events faultless
  have source : ∀ excerpt ∈ attached,
      ∃ text, excerpt ∈ excerptsIn table.contains (Text.lines text) := by
    intro excerpt member
    obtain ⟨path, -, here⟩ := List.mem_flatMap.mp member
    obtain ⟨text, -, inText⟩ := exists_text_of_mem_excerptsAt here
    exact ⟨text, inText⟩
  have guarded : ∀ excerpt ∈ attached, excerpt.Guarded table.contains := by
    intro excerpt member
    obtain ⟨text, inText⟩ := source excerpt member
    exact guarded_of_mem_excerptsIn inText
  have afterEq : after = (attached.map Excerpt.block).foldl attach table :=
    tableEq.trans (congrArg (List.foldl attach table) blocks)
  have known : ∀ block ∈ attached.map Excerpt.block, block.owner ∈ table.names := by
    intro block member
    obtain ⟨excerpt, here, rfl⟩ := List.mem_map.mp member
    exact (table.contains_iff_mem_names _).mp (guarded excerpt here).known
  have snippetCount : result.snippetCount = attached.length := by
    rw [resultEq, Result.ofEvents, blocks, List.length_map]
  have totalLines : result.totalLines =
      tally (fun block => snippetLineCount block.text)
        (attached.map Excerpt.block) := by
    rw [resultEq, Result.ofEvents, blocks]
  refine ⟨guarded, ?_, ?_, ?_, ?_⟩
  · rw [afterEq, records_foldl_attach]
    refine List.map_congr_left fun record _ => ?_
    rw [List.filter_map, List.map_map]
    rfl
  · rw [Table.snippetTotal_eq, Table.snippetTotal_eq, afterEq,
      snippetTally_foldl_attach _ distinct known, tally_one, List.length_map,
      snippetCount]
  · rw [Table.totalCodeLines_eq, Table.totalCodeLines_eq, afterEq,
      snippetTally_foldl_attach _ distinct known, totalLines]
  · rw [totalLines, tally_map]
    refine tally_congr fun excerpt member => ?_
    obtain ⟨text, inText⟩ := source excerpt member
    exact snippetLineCount_of_mem_excerptsIn inText

/-- The three lines of the block are counted, and are added to the two
of the earlier snippet. -/
theorem counters_agree_form_feed :
    feedTable.names.Nodup ∧
      (run feedTree none none feedTable [⟨.root, ["d"]⟩]).result = .ok ⟨1, 1, 3, []⟩ ∧
      feedTable.totalCodeLines = 2 ∧
      (run feedTree none none feedTable [⟨.root, ["d"]⟩]).table.snippetTotal = 2 ∧
      (run feedTree none none feedTable [⟨.root, ["d"]⟩]).table.totalCodeLines = 5 := by
  have distinct : feedTable.names.Nodup := by decide
  obtain ⟨-, -, snippets, codeLines, -⟩ := counters_agree distinct run_feed
  exact ⟨distinct, run_feed, rfl, snippets.trans rfl, codeLines.trans rfl⟩

end Run

end Correlation
end KernelInventory
