import KernelInventory.Proofs.Guard.Extraction

/-!
# Blocks and preprocessor conditionals

A guard is one shape of preprocessor conditional among others.  The scan counts the
lines that open guards, but the lines that close any conditional, so that a conditional
of another shape inside a guard is closed at the guard's expense.

In code whose conditionals are properly nested, the depth of the scan and the number of
openings that it has not seen make up the nesting of the conditionals.  Hence a block
ends at the end of its own guard exactly if it holds no conditional of another shape,
and too early otherwise.
-/

namespace KernelInventory
namespace Guard

/-! ## Lines of conditionals -/

/-- Whether a line opens a preprocessor conditional, of whatever shape. -/
def opensConditional (line : List Char) : Bool :=
  "#if".toList.isPrefixOf (Text.trim line)

/-- Whether a line closes a preprocessor conditional. -/
def closesConditional (line : List Char) : Bool :=
  "#endif".toList.isPrefixOf (Text.trim line)

/-- Whether a line opens a conditional that the scan does not see, as it is not the
guard of a component. -/
def opensUnseen (line : List Char) : Bool :=
  opensConditional line && (openedName? line).isNone

/-- The words that open and close conditionals stand nowhere in the line but at its
beginning, behind blanks. -/
def Clean (line : List Char) : Prop :=
  ∀ count ≤ line.length,
    "#if".toList <+: line.drop count ∨ "#endif".toList <+: line.drop count →
      (line.take count).all Text.isBlank = true

instance : DecidablePred Clean := fun line =>
  inferInstanceAs (Decidable (∀ count ≤ line.length, _))

/-- No line opens a conditional and closes one. -/
theorem not_closes_of_opens {line : List Char} (opens : opensConditional line = true) :
    closesConditional line = false := by
  unfold opensConditional at opens
  unfold closesConditional
  obtain ⟨rest, starts⟩ := List.isPrefixOf_iff_prefix.mp opens
  rw [← starts]
  rfl

theorem not_opens_of_closes {line : List Char}
    (closes : closesConditional line = true) :
    opensConditional line = false := by
  rw [← Bool.not_eq_true]
  intro opens
  rw [not_closes_of_opens opens] at closes
  cases closes

section Clean

variable {line : List Char}

/-- A word of a conditional that occurs in a clean line begins it. -/
theorem Clean.isPrefixOf_trim
    {word before text : List Char}
    (clean : Clean (before ++ text))
    (isWord : word = "#if".toList ∨ word = "#endif".toList)
    (starts : word <+: text) :
    word.isPrefixOf (Text.trim (before ++ text)) = true := by
  have occurs : "#if".toList <+: (before ++ text).drop before.length ∨
      "#endif".toList <+: (before ++ text).drop before.length := by
    rw [List.drop_left]
    rcases isWord with rfl | rfl
    · exact .inl starts
    · exact .inr starts
  have blank := clean before.length (by simp) occurs
  rw [List.take_left, List.all_eq_true] at blank
  have solid : ∀ c ∈ word, Text.isBlank c = false := by
    rcases isWord with rfl | rfl
    · simp [Text.isBlank]
    · simp [Text.isBlank]
  exact List.isPrefixOf_iff_prefix.mpr (Text.prefix_trim solid blank starts)

/-- A guard opens a conditional. -/
theorem Clean.opens_of_opensGuard
    (clean : Clean line) {name : String} (guard : OpensGuard line name) :
    opensConditional line = true := by
  obtain ⟨before, text, rfl, ⟨blanks, rest, rfl, -⟩, -⟩ := guard
  have starts : "#if".toList <+: "#ifdef".toList := by decide
  exact clean.isPrefixOf_trim (.inl rfl) (starts.trans (List.prefix_append _ _))

/-- A line that holds the word of an end closes a conditional. -/
theorem Clean.closes_of_isInfix
    (clean : Clean line) (holds : "#endif".toList <:+: line) :
    closesConditional line = true := by
  obtain ⟨before, rest, rfl⟩ := holds
  rw [List.append_assoc] at clean ⊢
  exact clean.isPrefixOf_trim (.inr rfl) (List.prefix_append _ rest)

/-- The scan sees the conditionals that are guards of components. -/
theorem not_opensUnseen_iff :
    ¬ opensUnseen line = true ↔
      (opensConditional line = true → ∃ name, OpensGuard line name) := by
  have seen : (openedName? line).isNone = true ↔ ¬ ∃ name, OpensGuard line name := by
    rw [Option.isNone_iff_eq_none, openedName?_eq_none_iff, not_exists]
  rw [opensUnseen, Bool.and_eq_true, seen, not_and, not_not]

/-- What the class of a clean line says about conditionals. -/
theorem Clean.classify_cases (clean : Clean line) :
    match classify line with
    | .opens _ => opensConditional line = true ∧ opensUnseen line = false
    | .closes => closesConditional line = true ∧ opensUnseen line = false
    | .plain => closesConditional line = false ∧
        opensUnseen line = opensConditional line := by
  cases lineClass : classify line with
  | opens name =>
      have guard : OpensGuard line name := (classify_eq_iff line _).mp lineClass
      refine ⟨clean.opens_of_opensGuard guard, ?_⟩
      rw [opensUnseen, (openedName?_eq_some_iff line name).mpr guard]
      simp
  | closes =>
      obtain ⟨-, holds⟩ : Means line .closes := (classify_eq_iff line _).mp lineClass
      have closes := clean.closes_of_isInfix holds
      refine ⟨closes, ?_⟩
      rw [opensUnseen, not_opens_of_closes closes, Bool.false_and]
  | plain =>
      obtain ⟨noGuard, noEnd⟩ : Means line .plain :=
        (classify_eq_iff line _).mp lineClass
      constructor
      · rw [← Bool.not_eq_true]
        intro closes
        exact noEnd
          ((List.isPrefixOf_iff_prefix.mp closes).isInfix.trans
            (Text.trim_isInfix line))
      · rw [opensUnseen, (openedName?_eq_none_iff line).mpr noGuard]
        simp

end Clean

/-! ## The nesting of conditionals -/

/-- How many more conditionals lines open than they close. -/
def surplus (lines : List (List Char)) : Int :=
  (lines.countP opensConditional : Int) - lines.countP closesConditional

/-- The conditionals in lines are properly nested: none is closed that has not been
opened, and all are closed in the end. -/
structure Nested (lines : List (List Char)) : Prop where
  nonneg : ∀ before, before <+: lines → 0 ≤ surplus before
  level : surplus lines = 0

theorem nested_iff {lines : List (List Char)} :
    Nested lines ↔ (∀ before ∈ lines.inits, 0 ≤ surplus before) ∧
      surplus lines = 0 := by
  simp only [List.mem_inits]
  exact ⟨fun nested => ⟨nested.nonneg, nested.level⟩, fun ⟨nonneg, level⟩ =>
    ⟨nonneg, level⟩⟩

instance : DecidablePred Nested := fun _ => decidable_of_iff _ nested_iff.symm

/-- The lines from one number on, up to another one. -/
def span (lines : List (List Char)) (start stop : Nat) : List (List Char) :=
  (lines.take stop).drop start

/-- A line closes the very conditional that an earlier one opens: the conditionals
between them are properly nested. -/
structure Closes (lines : List (List Char)) (start own : Nat) : Prop where
  behind : start < own
  opens : ∃ line, lines[start]? = some line ∧ opensConditional line = true
  closes : ∃ line, lines[own]? = some line ∧ closesConditional line = true
  nested : Nested (span lines (start + 1) own)

theorem surplus_append (left right : List (List Char)) :
    surplus (left ++ right) = surplus left + surplus right := by
  unfold surplus
  rw [List.countP_append, List.countP_append]
  omega

theorem surplus_of_opens {line : List Char} (opens : opensConditional line = true) :
    surplus [line] = 1 := by
  simp [surplus, opens, not_closes_of_opens opens]

theorem surplus_of_closes {line : List Char} (closes : closesConditional line = true) :
    surplus [line] = -1 := by
  simp [surplus, closes, not_opens_of_closes closes]

/-- A line that closes no conditional raises the nesting if it opens one. -/
theorem surplus_of_not_closes {line : List Char}
    (goesOn : closesConditional line = false) :
    surplus [line] = if opensConditional line then 1 else 0 := by
  simp [surplus, goesOn]

/-! ## Spans of lines -/

section Span

variable {lines : List (List Char)} {start stop : Nat}

/-- A span grows by the line behind it. -/
theorem span_succ {line : List Char} (ordered : start ≤ stop)
    (there : lines[stop]? = some line) :
    span lines start (stop + 1) = span lines start stop ++ [line] := by
  have inside := (List.getElem?_eq_some_iff.mp there).1
  rw [span, span, List.take_add_one, there, Option.toList_some,
    List.drop_append_of_le_length]
  rw [List.length_take]
  omega

theorem span_singleton {line : List Char} (there : lines[start]? = some line) :
    span lines start (start + 1) = [line] := by
  rw [span_succ le_rfl there, span, List.drop_of_length_le (by simp), List.nil_append]

/-- A span is its first part and its second part. -/
theorem span_append {middle : Nat} (first : start ≤ middle) (second : middle ≤ stop) :
    span lines start middle ++ span lines middle stop = span lines start stop := by
  have left : span lines start middle = ((lines.take stop).drop start).take
      (middle - start) := by
    rw [span, List.take_drop, List.take_take]
    congr 2
    omega
  have right : span lines middle stop = ((lines.take stop).drop start).drop
      (middle - start) := by
    rw [span, List.drop_drop]
    congr 1
    omega
  rw [left, right, List.take_append_drop, span]

/-- The beginnings of a span are the spans that stop earlier. -/
theorem exists_span_of_prefix
    (ordered : start ≤ stop)
    {before : List (List Char)}
    (starts : before <+: span lines start stop) :
    ∃ middle, start ≤ middle ∧ middle ≤ stop ∧ before = span lines start middle := by
  have short : before.length ≤ stop - start := by
    refine starts.length_le.trans ?_
    rw [span, List.length_drop, List.length_take]
    omega
  refine ⟨start + before.length, by omega, by omega, ?_⟩
  have cut := List.prefix_iff_eq_take.mp starts
  rw [span, List.take_drop, List.take_take, Nat.min_eq_left (by omega)] at cut
  exact cut

/-- The nesting in front of a span and the nesting in it make up the nesting behind
it. -/
theorem surplus_take_add_span (ordered : start ≤ stop) :
    surplus (lines.take start) + surplus (span lines start stop) =
      surplus (lines.take stop) := by
  rw [← surplus_append]
  exact congrArg surplus (span_append (Nat.zero_le start) ordered)

end Span

/-! ## The end of a conditional -/

section Closes

variable {lines : List (List Char)} {start own : Nat}

/-- As long as a conditional is open, more conditionals have been opened than closed
since. -/
theorem Closes.surplus_pos
    (closes : Closes lines start own)
    {count : Nat}
    (behind : start < count)
    (within : count ≤ own) :
    0 < surplus (span lines start count) := by
  obtain ⟨line, there, opens⟩ := closes.opens
  have inside := closes.nested.nonneg _ ⟨_, span_append behind within⟩
  rw [← span_append (Nat.le_add_right start 1) behind, span_singleton there,
    surplus_append, surplus_of_opens opens]
  omega

/-- Where a conditional ends, as many conditionals have been closed as opened since its
beginning. -/
theorem Closes.surplus_eq_zero (closes : Closes lines start own) :
    surplus (span lines start (own + 1)) = 0 := by
  obtain ⟨first, thereFirst, opens⟩ := closes.opens
  obtain ⟨last, thereLast, ends⟩ := closes.closes
  rw [span_succ closes.behind.le thereLast,
    ← span_append (Nat.le_add_right start 1) closes.behind, span_singleton thereFirst,
    surplus_append, surplus_append, surplus_of_opens opens, surplus_of_closes ends,
    closes.nested.level]
  rfl

/-- A conditional has one end. -/
theorem Closes.unique
    (closes : Closes lines start own) {other : Nat}
    (otherCloses : Closes lines start other) :
    other = own := by
  rcases Nat.lt_trichotomy other own with before | same | behind
  · have positive :=
      closes.surplus_pos (otherCloses.behind.trans (Nat.lt_succ_self other)) before
    rw [otherCloses.surplus_eq_zero] at positive
    cases positive
  · exact same
  · have positive :=
      otherCloses.surplus_pos (closes.behind.trans (Nat.lt_succ_self own)) behind
    rw [closes.surplus_eq_zero] at positive
    cases positive

/-- In properly nested lines, the nesting comes back behind every opening to what
it was in front of it. -/
theorem Nested.exists_return
    (nested : Nested lines)
    {line : List Char}
    (there : lines[start]? = some line)
    (opens : opensConditional line = true) :
    ∃ own, start < own ∧ surplus (lines.take (own + 1)) ≤ surplus (lines.take start) ∧
      ∀ count, start < count → count ≤ own →
        surplus (lines.take start) < surplus (lines.take count) := by
  have started : surplus (lines.take (start + 1)) = surplus (lines.take start) + 1 := by
    rw [← surplus_take_add_span (Nat.le_add_right start 1), span_singleton there,
      surplus_of_opens opens]
  have returns : ∃ stop, start < stop ∧
      surplus (lines.take stop) ≤ surplus (lines.take start) := by
    refine ⟨lines.length, (List.getElem?_eq_some_iff.mp there).1, ?_⟩
    rw [List.take_length, nested.level]
    exact nested.nonneg _ (List.take_prefix start lines)
  obtain ⟨behind, back⟩ := Nat.find_spec returns
  obtain ⟨own, stop_eq⟩ : ∃ own, Nat.find returns = own + 1 :=
    ⟨Nat.find returns - 1, by omega⟩
  rw [stop_eq] at behind back
  have later : start ≠ own := by
    rintro rfl
    omega
  refine ⟨own, by omega, back, ?_⟩
  intro count after early
  by_contra low
  exact Nat.find_min returns (by omega) ⟨after, Int.not_lt.mp low⟩

/-- In lines whose conditionals are properly nested, every conditional has an end. -/
theorem Nested.exists_closes
    (nested : Nested lines)
    {line : List Char}
    (there : lines[start]? = some line)
    (opens : opensConditional line = true) :
    ∃ own, Closes lines start own := by
  obtain ⟨own, behind, back, first⟩ := nested.exists_return there opens
  have above := first own behind le_rfl
  have inside : start + 1 ≤ own := behind
  cases ending : lines[own]? with
  | none =>
      rw [List.take_add_one, ending, Option.toList_none, List.append_nil] at back
      omega
  | some last =>
      rw [List.take_add_one, ending, Option.toList_some, surplus_append] at back
      have closes : closesConditional last = true := by
        rw [← Bool.not_eq_false]
        intro goesOn
        have raised := surplus_of_not_closes goesOn
        split at raised <;> omega
      rw [surplus_of_closes closes] at back
      have started := @surplus_take_add_span lines start (start + 1) (by omega)
      rw [span_singleton there, surplus_of_opens opens] at started
      refine ⟨own, behind, ⟨line, there, opens⟩, ⟨last, ending, closes⟩, ?_, ?_⟩
      · intro before starts
        obtain ⟨middle, after, within, rfl⟩ := exists_span_of_prefix inside starts
        have inner := @surplus_take_add_span lines (start + 1) middle after
        have high := first middle after within
        omega
      · have whole := @surplus_take_add_span lines (start + 1) own inside
        omega

end Closes

/-! ## The depth of a scan -/

/-- Inside a guard, a clean line changes the depth of the scan as it changes the nesting
of the conditionals, but for an opening that the scan does not see. -/
theorem nest_add_unseen
    {line : List Char} (clean : Clean line) {depth : Nat} (inside : depth ≠ 0) :
    (nest depth line : Int) + [line].countP opensUnseen = depth + surplus [line] := by
  have cases := clean.classify_cases
  rw [nest, List.countP_singleton]
  cases lineClass : classify line with
  | opens name =>
      rw [lineClass] at cases
      rw [surplus_of_opens cases.1, cases.2]
      simp
  | closes =>
      rw [lineClass] at cases
      rw [surplus_of_closes cases.1, cases.2]
      simp only [Bool.false_eq_true, if_false]
      omega
  | plain =>
      rw [lineClass] at cases
      rw [surplus_of_not_closes cases.1, cases.2]
      cases opensConditional line <;> rfl

section Scan

variable {known : String → Bool} {lines : List (List Char)} {start stop own : Nat}
  {owner : String}

/-- A block begins at a line that opens a conditional, which the scan sees. -/
theorem guard_of_opening
    (clean : ∀ line ∈ lines, Clean line)
    (opens : opening? known lines start = some owner) :
    ∃ line, lines[start]? = some line ∧ OpensGuard line owner ∧
      opensConditional line = true ∧ opensUnseen line = false := by
  obtain ⟨line, there, lineClass⟩ := classify_of_opening opens
  have cases := (clean line (List.mem_of_getElem? there)).classify_cases
  rw [lineClass] at cases
  exact ⟨line, there, (classify_eq_iff line _).mp lineClass, cases⟩

/-- As long as a block goes on, the depth of the scan and the openings that it has not
seen make up the nesting of the conditionals since the beginning of the block. -/
theorem depthAfter_add_unseen
    (clean : ∀ line ∈ lines, Clean line)
    (opens : opening? known lines start = some owner)
    (behind : start < stop)
    (within : stop ≤ lines.length)
    (goesOn : ∀ count, start < count → count < stop →
      depthAfter (lines.take count) ≠ 0) :
    (depthAfter (lines.take stop) : Int) + (span lines start stop).countP opensUnseen =
      surplus (span lines start stop) := by
  induction stop, behind using Nat.le_induction with
  | base =>
      obtain ⟨line, there, -, raises, seen⟩ := guard_of_opening clean opens
      rw [Nat.succ_eq_add_one, depthAfter_opening opens, span_singleton there,
        surplus_of_opens raises, List.countP_singleton, seen]
      rfl
  | succ stop behind inductionHypothesis =>
      have before := inductionHypothesis (Nat.le_of_succ_le within) fun count
        after early =>
        goesOn count after (Nat.lt_succ_of_lt early)
      obtain ⟨line, there⟩ : ∃ line, lines[stop]? = some line :=
        ⟨lines[stop], List.getElem?_eq_getElem within⟩
      have step := nest_add_unseen (clean line (List.mem_of_getElem? there))
        (goesOn stop behind (Nat.lt_succ_self stop))
      rw [List.take_add_one, there, Option.toList_some, depthAfter_snoc,
        span_succ (Nat.le_of_lt behind) there, surplus_append, List.countP_append]
      omega

/-- In properly nested lines a block has an end, and it ends where its
guard does or earlier. -/
theorem exists_end_of_opening
    (clean : ∀ line ∈ lines, Clean line)
    (opens : opening? known lines start = some owner)
    (closes : Closes lines start own) :
    ∃ stop, endOf? lines start = some stop ∧ stop ≤ own := by
  obtain ⟨last, there, -⟩ := closes.closes
  have inside : own < lines.length := (List.getElem?_eq_some_iff.mp there).1
  have back :
      (∀ count, start < count → count < own + 1 → depthAfter (lines.take count) ≠ 0) →
      depthAfter (lines.take (own + 1)) = 0 := by
    intro goesOn
    have level := depthAfter_add_unseen clean opens (Nat.lt_add_right 1 closes.behind)
      inside goesOn
    rw [closes.surplus_eq_zero] at level
    omega
  cases ends : endOf? lines start with
  | none =>
      refine absurd (back fun count after within => ?_)
        ((endOf?_eq_none_iff lines start).mp ends own closes.behind inside)
      exact depthAfter_take_ne_zero opens ends after (by omega)
  | some stop =>
      refine ⟨stop, rfl, ?_⟩
      by_contra beyond
      refine depthAfter_take_ne_zero_of_ends opens ends
        (Nat.lt_add_right 1 closes.behind) (Nat.succ_le_of_lt (Nat.not_le.mp beyond))
        (back fun count after within => ?_)
      exact depthAfter_take_ne_zero_of_ends opens ends after (by omega)

/-- A block opens as many conditionals more than it closes as it holds openings that
the scan does not see. -/
theorem surplus_block
    (clean : ∀ line ∈ lines, Clean line)
    (opens : opening? known lines start = some owner)
    (ends : endOf? lines start = some stop) :
    surplus (span lines start (stop + 1)) = (span lines start (stop + 1)).countP
      opensUnseen := by
  obtain ⟨behind, inside, back, -⟩ := (endOf?_eq_some_iff lines start stop).mp ends
  have level := depthAfter_add_unseen clean opens (Nat.lt_add_right 1 behind) inside
    fun count after within =>
      depthAfter_take_ne_zero_of_ends opens ends after (by omega)
  rw [back] at level
  omega

/-- A block ends with its guard exactly if it closes all conditionals that it opens. -/
theorem end_eq_own_iff
    (ends : endOf? lines start = some stop)
    (closes : Closes lines start own)
    (early : stop ≤ own) :
    stop = own ↔ surplus (span lines start (stop + 1)) = 0 := by
  constructor
  · rintro rfl
    exact closes.surplus_eq_zero
  · intro level
    by_contra different
    have behind := ((endOf?_eq_some_iff lines start stop).mp ends).1
    have positive := closes.surplus_pos (Nat.lt_add_right 1 behind)
      (Nat.succ_le_of_lt (Nat.lt_of_le_of_ne early different))
    rw [level] at positive
    cases positive

/-- A block ends at a line that closes a conditional. -/
theorem closes_of_endOf
    (clean : ∀ line ∈ lines, Clean line)
    (opens : opening? known lines start = some owner)
    (ends : endOf? lines start = some stop) :
    ∃ line, lines[stop]? = some line ∧ closesConditional line = true := by
  obtain ⟨behind, inside, back, -⟩ := (endOf?_eq_some_iff lines start stop).mp ends
  have inGuard := depthAfter_take_ne_zero_of_ends opens ends behind le_rfl
  refine ⟨lines[stop], List.getElem?_eq_getElem inside, ?_⟩
  rw [List.take_add_one, List.getElem?_eq_getElem inside, Option.toList_some,
    depthAfter_snoc, nest] at back
  have cases := (clean lines[stop] (List.getElem_mem inside)).classify_cases
  cases lineClass : classify lines[stop] with
  | closes =>
      rw [lineClass] at cases
      exact cases.1
  | opens name =>
      rw [lineClass] at back
      cases back
  | plain =>
      rw [lineClass] at back
      exact absurd back inGuard

/-- A block runs from its beginning to its end. -/
theorem mem_blocksOf_iff {block : Block} :
    block ∈ blocksOf known lines ↔
      ∃ start stop,
        opening? known lines start = some block.owner ∧ endOf? lines start = some stop ∧
          block.lines = span lines start (stop + 1) := by
  constructor
  · intro member
    obtain ⟨start, -, found⟩ := List.mem_filterMap.mp member
    obtain ⟨owner, opens, found⟩ := Option.bind_eq_some_iff.mp found
    obtain ⟨stop, ends, rfl⟩ := Option.map_eq_some_iff.mp found
    exact ⟨start, stop, opens, ends, rfl⟩
  · rintro ⟨start, stop, opens, ends, lines_eq⟩
    refine List.mem_filterMap.mpr
      ⟨start, List.mem_range.mpr (lt_length_of_opening opens), ?_⟩
    rw [blockAt?, opens, ends, Option.bind_some, Option.map_some, ← span, ← lines_eq]

end Scan

end Guard

namespace Correlation

open Guard

/-- A source file with a guard that holds a conditional of another shape. -/
def unseenText : List Char :=
  "#ifdef CONFIG_A\n#if 1\n#endif\nint x;\n#endif".toList

/-- A tree that holds nothing but this source file. -/
def unseenTree : FileTree :=
  ⟨[], [(["f.c"], .file (Text.Utf8.encode unseenText) true)]⟩

/-- The block that is found in the source file. -/
def unseenBlock : Block :=
  ⟨"A", ["#ifdef CONFIG_A".toList, "#if 1".toList, "#endif".toList]⟩

theorem readText_unseenTree :
    unseenTree.readText ⟨.root, ["f.c"]⟩ = .ok unseenText := by
  have opened : unseenTree.atPath ⟨.root, ["f.c"]⟩ unseenTree.readAt =
      .ok (Text.Utf8.encode unseenText) := by
    cbv
  rw [FileTree.readText, opened]
  exact congrArg Except.ok (by cbv)

theorem clean_unseenText : ∀ line ∈ Text.lines unseenText, Clean line := by
  decide

theorem nested_unseenText : Nested (Text.lines unseenText) := by
  decide

theorem blocks_unseenTree :
    (scanFile unseenTree (Table.contains ⟨[{ name := "A" }]⟩) ⟨.root, ["f.c"]⟩).blocks =
      [unseenBlock] := by
  rw [scanFile_of_readText _ readText_unseenTree]
  rfl

/-- Where the blocks of a source file end whose conditionals are properly nested.  Every
guard of a known component outside all other guards begins a block, and none is left
open.  Every block runs from the guard of its component to the end of some conditional,
which is at or in front of the end of that guard.  It opens as many conditionals more
than it closes as it holds openings of another shape; and so it ends with its own guard
exactly if it opens and closes equally many, and exactly if all conditionals that it
opens are guards of components. -/
theorem scanFile_blocks_end
    {tree : FileTree} {path : Path} {text : List Char}
    (table : Table)
    (readable : tree.readText path = .ok text)
    (clean : ∀ line ∈ Text.lines text, Clean line)
    (nested : Nested (Text.lines text)) :
    let lines := Text.lines text
    let event := scanFile tree table.contains path
    event.issue? = none ∧
      (∀ start owner, opening? table.contains lines start = some owner →
        ∃ stop, ⟨owner, span lines start (stop + 1)⟩ ∈ event.blocks) ∧
      ∀ block ∈ event.blocks, ∃ start stop own,
        (∃ line, lines[start]? = some line ∧ OpensGuard line block.owner) ∧
          (∃ line, lines[stop]? = some line ∧ closesConditional line = true) ∧
          block.lines = span lines start (stop + 1) ∧
          (∀ other, Closes lines start other ↔ other = own) ∧
          start < stop ∧ stop ≤ own ∧
          block.lines.countP opensConditional =
            block.lines.countP closesConditional + block.lines.countP opensUnseen ∧
          (stop = own ↔
            block.lines.countP opensConditional = block.lines.countP
              closesConditional) ∧
          (stop = own ↔
            ∀ line ∈ block.lines, opensConditional line = true → ∃ name,
              OpensGuard line name) := by
  intro lines event
  have event_eq : event = .scanned path (scan table.contains lines) :=
    scanFile_of_readText table.contains readable
  have blocks_eq : event.blocks = blocksOf table.contains lines :=
    event_eq ▸ (tracks_scanFrom table.contains lines).2
  -- the scan sees all ends, but not all openings: it is back no later than the guard is
  -- closed
  have ends : ∀ start owner, opening? table.contains lines start = some owner →
      ∃ own stop, Closes lines start own ∧ endOf? lines start = some stop ∧
        stop ≤ own := by
    intro start owner opens
    obtain ⟨line, there, -, raises, -⟩ := guard_of_opening clean opens
    obtain ⟨own, closes⟩ := nested.exists_closes there raises
    obtain ⟨stop, ends, early⟩ := exists_end_of_opening clean opens closes
    exact ⟨own, stop, closes, ends, early⟩
  refine ⟨?_, ?_, ?_⟩
  · rw [event_eq, Event.issue?, unterminated_scan_eq_none]
    · rfl
    · rintro start owner ⟨opens, unclosed⟩
      obtain ⟨own, stop, -, closed, -⟩ := ends start owner opens
      rw [unclosed] at closed
      cases closed
  · intro start owner opens
    obtain ⟨own, stop, -, closed, -⟩ := ends start owner opens
    exact ⟨stop, blocks_eq ▸ mem_blocksOf_iff.mpr ⟨start, stop, opens, closed, rfl⟩⟩
  · intro block member
    obtain ⟨start, stop, opens, closed, lines_eq⟩ :=
      mem_blocksOf_iff.mp (blocks_eq ▸ member)
    obtain ⟨own, otherStop, closes, otherClosed, early⟩ := ends start block.owner opens
    obtain rfl := Option.some.inj (closed.symm.trans otherClosed)
    obtain ⟨line, there, guard, -⟩ := guard_of_opening clean opens
    have balance := surplus_block clean opens closed
    have level := end_eq_own_iff closed closes early
    rw [← lines_eq] at balance level
    unfold surplus at balance level
    refine ⟨start, stop, own, ⟨line, there, guard⟩,
      closes_of_endOf clean opens closed, lines_eq, ?_,
      ((endOf?_eq_some_iff lines start stop).mp closed).1,
      early, by omega, by omega, ?_⟩
    · exact fun other =>
        ⟨fun otherCloses => closes.unique otherCloses, fun same => same ▸ closes⟩
    · rw [level, balance, Int.natCast_eq_zero, List.countP_eq_zero]
      exact forall₂_congr fun line _ => not_opensUnseen_iff

/-- The block of the guard ends at the end of the conditional that the scan does not
see. -/
theorem scanFile_blocks_end_unseen :
    unseenTree.readText ⟨.root, ["f.c"]⟩ = .ok unseenText ∧
      (∀ line ∈ Text.lines unseenText, Clean line) ∧ Nested (Text.lines unseenText) ∧
      ∃ start stop own,
        unseenBlock.lines = span (Text.lines unseenText) start (stop + 1) ∧
          Closes (Text.lines unseenText) start own ∧ stop < own := by
  obtain ⟨-, -, blocksEnd⟩ :=
    scanFile_blocks_end ⟨[{ name := "A" }]⟩ readText_unseenTree clean_unseenText
      nested_unseenText
  obtain ⟨start, stop, own, -, -, lines_eq, isOwn, -, early, -, level, -⟩ :=
    blocksEnd unseenBlock (blocks_unseenTree ▸ List.mem_singleton_self unseenBlock)
  have different : stop ≠ own := mt level.mp (by cbv)
  exact ⟨readText_unseenTree, clean_unseenText, nested_unseenText, start, stop,
    own, lines_eq, (isOwn own).mpr rfl, Nat.lt_of_le_of_ne early different⟩

/-- Not every block of properly nested code closes all conditionals that it opens. -/
theorem not_all_blocks_balanced :
    ¬ ∀ (tree : FileTree) (path : Path) (text : List Char) (table : Table),
        tree.readText path = .ok text → (∀ line ∈ Text.lines text, Clean line) →
          Nested (Text.lines text) →
            ∀ block ∈ (scanFile tree table.contains path).blocks,
              block.lines.countP opensConditional = block.lines.countP
                closesConditional := by
  intro balanced
  have level := balanced unseenTree ⟨.root, ["f.c"]⟩ unseenText ⟨[{ name := "A" }]⟩
    readText_unseenTree clean_unseenText nested_unseenText unseenBlock
    (blocks_unseenTree ▸ List.mem_singleton_self unseenBlock)
  exact absurd level (by cbv)

end Correlation
end KernelInventory
