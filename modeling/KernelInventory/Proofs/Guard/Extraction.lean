import KernelInventory.Code.Correlation
import KernelInventory.Proofs.Guard.Classification
import Mathlib

/-!
# Extraction of guarded blocks

The scan of a source file keeps a depth and a block in the making.  What it delivers
is described here by the lines alone: a block begins at a guard of a known component
outside all other guards, and ends at the first line behind it that brings the
nesting back to nothing.

The invariant `Tracks` ties the state of the scan to the lines that have been read.
-/

namespace KernelInventory
namespace Guard

/-- The nesting behind a line, given the nesting in front of it. -/
def nest (depth : Nat) (line : List Char) : Nat :=
  match classify line with
  | .opens _ => depth + 1
  | .closes => depth - 1
  | .plain => depth

/-- The nesting behind lines. -/
def depthAfter (lines : List (List Char)) : Nat :=
  lines.foldl nest 0

/-- The known component whose guard stands at a line number, outside all other
guards. -/
def opening? (known : String → Bool) (lines : List (List Char)) (start : Nat) :
    Option String :=
  match lines[start]?.map classify with
  | some (.opens name) =>
      if depthAfter (lines.take start) = 0 ∧ known name then some name else none
  | _ => none

/-- The first line number behind another one at which the nesting is back to nothing. -/
def endOf? (lines : List (List Char)) (start : Nat) : Option Nat :=
  (List.range lines.length).find? fun stop =>
    decide (start < stop ∧ depthAfter (lines.take (stop + 1)) = 0)

/-- The block from a line number to its end, if a guard of a known component
opens there and is closed. -/
def blockAt? (known : String → Bool) (lines : List (List Char)) (start : Nat) :
    Option Block :=
  (opening? known lines start).bind fun owner =>
    (endOf? lines start).map fun stop => ⟨owner, (lines.take (stop + 1)).drop start⟩

/-! ## The nesting -/

@[simp] theorem depthAfter_snoc (lines : List (List Char)) (line : List Char) :
    depthAfter (lines ++ [line]) = nest (depthAfter lines) line := by
  simp [depthAfter]

/-- Behind the guard of a block the nesting is one. -/
theorem depthAfter_opening
    {known : String → Bool} {lines : List (List Char)} {start : Nat} {owner : String}
    (opens : opening? known lines start = some owner) :
    depthAfter (lines.take (start + 1)) = 1 := by
  unfold opening? at opens
  cases found : lines[start]? with
  | none => simp [found] at opens
  | some line =>
      rw [List.take_add_one, found, Option.toList_some, depthAfter_snoc, nest]
      rw [found, Option.map_some] at opens
      cases lineClass : classify line with
      | opens name =>
          simp only [lineClass] at opens
          split at opens
          next outside =>
            simp [outside.1]
          · cases opens
      | closes => simp [lineClass] at opens
      | plain => simp [lineClass] at opens

/-! ## Beginnings and ends of blocks -/

/-- A block begins at one of the lines. -/
theorem lt_length_of_opening
    {known : String → Bool} {lines : List (List Char)} {start : Nat} {owner : String}
    (opens : opening? known lines start = some owner) :
    start < lines.length := by
  by_contra beyond
  rw [opening?, List.getElem?_eq_none (Nat.not_lt.mp beyond)] at opens
  cases opens

/-- A block begins at the guard of its component. -/
theorem classify_of_opening
    {known : String → Bool} {lines : List (List Char)} {start : Nat} {owner : String}
    (opens : opening? known lines start = some owner) :
    ∃ line, lines[start]? = some line ∧ classify line = .opens owner := by
  unfold opening? at opens
  split at opens
  next name found =>
    split at opens
    · obtain rfl := Option.some.inj opens
      exact Option.map_eq_some_iff.mp found
    · cases opens
  · cases opens

/-- A block begins where there is no nesting. -/
theorem depthAfter_take_of_opening
    {known : String → Bool} {lines : List (List Char)} {start : Nat} {owner : String}
    (opens : opening? known lines start = some owner) :
    depthAfter (lines.take start) = 0 := by
  unfold opening? at opens
  split at opens
  · split at opens
    next outside =>
      exact outside.1
    · cases opens
  · cases opens

/-- A further line does not change where blocks begin in front of it. -/
theorem opening?_snoc
    (known : String → Bool) {lines : List (List Char)} (line : List Char) {start : Nat}
    (inside : start < lines.length) :
    opening? known (lines ++ [line]) start = opening? known lines start := by
  rw [opening?, opening?, List.getElem?_append_left inside,
    List.take_append_of_le_length (Nat.le_of_lt inside)]

/-- A block begins at the last line exactly when that line opens the guard of a known
component where there is no nesting. -/
theorem opening?_length
    (known : String → Bool) (lines : List (List Char)) (line : List Char) :
    opening? known (lines ++ [line]) lines.length =
      match classify line with
      | .opens name => if depthAfter lines = 0 ∧ known name then some name else none
      | _ => none := by
  unfold opening?
  rw [List.getElem?_concat_length, Option.map_some, List.take_left]
  cases classify line <;> rfl

/-- The end of a block lies behind its beginning, and the nesting comes back to nothing
there for the first time. -/
theorem endOf?_eq_some_iff (lines : List (List Char)) (start stop : Nat) :
    endOf? lines start = some stop ↔
      start < stop ∧ stop < lines.length ∧ depthAfter (lines.take (stop + 1)) = 0 ∧
        ∀ between, start < between → between < stop →
          depthAfter (lines.take (between + 1)) ≠ 0 := by
  rw [endOf?, List.find?_range_eq_some]
  simp only [decide_eq_true_eq, List.mem_range, Bool.not_eq_true',
    decide_eq_false_iff_not, not_and]
  constructor
  · rintro ⟨⟨behind, back⟩, inside, first⟩
    exact ⟨behind, inside, back, fun between after early => first between early after⟩
  · rintro ⟨behind, inside, back, first⟩
    exact ⟨⟨behind, back⟩, inside, fun between early after => first between after early⟩

/-- A block without an end is one behind whose beginning the nesting never
comes back to nothing. -/
theorem endOf?_eq_none_iff (lines : List (List Char)) (start : Nat) :
    endOf? lines start = none ↔
      ∀ stop, start < stop → stop < lines.length →
        depthAfter (lines.take (stop + 1)) ≠ 0 := by
  rw [endOf?, List.find?_eq_none]
  simp only [List.mem_range, decide_eq_true_eq, not_and]
  exact ⟨fun never stop behind inside => never stop inside behind,
    fun never stop inside behind => never stop behind inside⟩

/-- A further line closes an open block when it brings the nesting back to nothing. -/
theorem endOf?_snoc
    {lines : List (List Char)} (line : List Char) {start : Nat}
    (inside : start < lines.length) :
    endOf? (lines ++ [line]) start =
      (endOf? lines start).or
        (if nest (depthAfter lines) line = 0 then some lines.length else none) := by
  have earlier : (List.range lines.length).find? (fun stop =>
        decide (start < stop ∧ depthAfter ((lines ++ [line]).take (stop + 1)) = 0)) =
      endOf? lines start := by
    rw [endOf?, ← List.head?_filter, ← List.head?_filter]
    apply congrArg List.head?
    apply List.filter_congr
    intro stop member
    rw [List.take_append_of_le_length (List.mem_range.mp member)]
  have last : (lines ++ [line]).take (lines.length + 1) = lines ++ [line] :=
    List.take_of_length_le (by simp)
  rw [endOf?, List.length_append, List.length_singleton, List.range_succ,
    List.find?_append, earlier, List.find?_singleton, last, depthAfter_snoc]
  simp [inside]

/-- A block that begins at the last line has no end yet. -/
theorem endOf?_last (lines : List (List Char)) (line : List Char) :
    endOf? (lines ++ [line]) lines.length = none := by
  rw [endOf?_eq_none_iff]
  intro stop behind inside
  rw [List.length_append, List.length_singleton] at inside
  omega

/-- Behind the beginning of a block without an end there is always some nesting. -/
theorem depthAfter_take_ne_zero
    {known : String → Bool} {lines : List (List Char)} {start count : Nat}
    {owner : String}
    (opens : opening? known lines start = some owner)
    (unclosed : endOf? lines start = none)
    (behind : start < count)
    (within : count ≤ lines.length) :
    depthAfter (lines.take count) ≠ 0 := by
  obtain ⟨before, rfl⟩ : ∃ before, count = before + 1 := ⟨count - 1, by omega⟩
  rcases Nat.lt_or_eq_of_le (Nat.lt_succ_iff.mp behind) with further | same
  · exact (endOf?_eq_none_iff lines start).mp unclosed before further within
  · rw [← same, depthAfter_opening opens]
    exact Nat.one_ne_zero

/-- The nesting behind lines that leave a block without an end. -/
theorem depthAfter_ne_zero
    {known : String → Bool} {lines : List (List Char)} {start : Nat} {owner : String}
    (opens : opening? known lines start = some owner)
    (unclosed : endOf? lines start = none) :
    depthAfter lines ≠ 0 := by
  have nested :=
    depthAfter_take_ne_zero opens unclosed (lt_length_of_opening opens) le_rfl
  rwa [List.take_length] at nested

/-- No block begins behind the beginning of a block without an end. -/
theorem le_of_unclosed
    {known : String → Bool} {lines : List (List Char)} {start other : Nat}
    {owner otherOwner : String}
    (opens : opening? known lines start = some owner)
    (unclosed : endOf? lines start = none)
    (otherOpens : opening? known lines other = some otherOwner) :
    other ≤ start := by
  by_contra behind
  have within := Nat.le_of_lt (lt_length_of_opening otherOpens)
  exact depthAfter_take_ne_zero opens unclosed (Nat.not_le.mp behind) within
    (depthAfter_take_of_opening otherOpens)

/-- Between the beginning and the end of a block there is always some nesting. -/
theorem depthAfter_take_ne_zero_of_ends
    {known : String → Bool} {lines : List (List Char)} {start stop count : Nat}
    {owner : String}
    (opens : opening? known lines start = some owner)
    (ends : endOf? lines start = some stop)
    (behind : start < count)
    (within : count ≤ stop) :
    depthAfter (lines.take count) ≠ 0 := by
  obtain ⟨-, -, -, first⟩ := (endOf?_eq_some_iff lines start stop).mp ends
  obtain ⟨before, rfl⟩ : ∃ before, count = before + 1 := ⟨count - 1, by omega⟩
  rcases Nat.lt_or_eq_of_le (Nat.lt_succ_iff.mp behind) with further | same
  · exact first before further (by omega)
  · rw [← same, depthAfter_opening opens]
    exact Nat.one_ne_zero

/-- A block ends before the next one begins. -/
theorem lt_of_opening_behind
    {known : String → Bool} {lines : List (List Char)} {start stop other : Nat}
    {owner otherOwner : String}
    (opens : opening? known lines start = some owner)
    (ends : endOf? lines start = some stop)
    (otherOpens : opening? known lines other = some otherOwner)
    (behind : start < other) :
    stop < other := by
  by_contra early
  exact depthAfter_take_ne_zero_of_ends opens ends behind (Nat.not_lt.mp early)
    (depthAfter_take_of_opening otherOpens)

/-! ## Blocks -/

/-- No block stands where no guard of a known component opens. -/
theorem blockAt?_of_not_opening
    {known : String → Bool} {lines : List (List Char)} {start : Nat}
    (closed : opening? known lines start = none) :
    blockAt? known lines start = none := by
  rw [blockAt?, closed, Option.bind_none]

/-- A block that has its end already is not changed by a further line, and one that has
none ends at the line that brings the nesting back to nothing. -/
theorem blockAt?_snoc
    {known : String → Bool} {lines : List (List Char)} (line : List Char) {start : Nat}
    (inside : start < lines.length) :
    blockAt? known (lines ++ [line]) start =
      (blockAt? known lines start).or
        ((opening? known lines start).bind fun owner =>
          if endOf? lines start = none ∧ nest (depthAfter lines) line = 0 then
            some ⟨owner, lines.drop start ++ [line]⟩
          else none) := by
  rw [blockAt?, blockAt?, opening?_snoc known line inside, endOf?_snoc line inside]
  cases opens : opening? known lines start with
  | none => rfl
  | some owner =>
      cases ends : endOf? lines start with
      | some stop =>
          have stopInside := ((endOf?_eq_some_iff lines start stop).mp ends).2.1
          simp [List.take_append_of_le_length (Nat.succ_le_of_lt stopInside)]
      | none =>
          have whole : (lines ++ [line]).take (lines.length + 1) = lines ++ [line] :=
            List.take_of_length_le (by simp)
          by_cases back : nest (depthAfter lines) line = 0
          · simp [back, whole, List.drop_append_of_le_length (Nat.le_of_lt inside)]
          · simp [back]

/-- The blocks of a source file, in the order of their beginnings. -/
def blocksOf (known : String → Bool) (lines : List (List Char)) : List Block :=
  (List.range lines.length).filterMap (blockAt? known lines)

/-- A block begins at a line number and never ends. -/
def Unclosed (known : String → Bool) (lines : List (List Char)) (start : Nat)
    (owner : String) :
    Prop :=
  opening? known lines start = some owner ∧ endOf? lines start = none

/-- At most one block is left without an end. -/
theorem Unclosed.unique
    {known : String → Bool} {lines : List (List Char)} {start other : Nat}
    {owner otherOwner : String}
    (unclosed : Unclosed known lines start owner)
    (otherUnclosed : Unclosed known lines other otherOwner) :
    start = other ∧ owner = otherOwner := by
  have same : start = other := Nat.le_antisymm
    (le_of_unclosed otherUnclosed.1 otherUnclosed.2 unclosed.1)
    (le_of_unclosed unclosed.1 unclosed.2 otherUnclosed.1)
  subst same
  exact ⟨rfl, Option.some.inj (unclosed.1.symm.trans otherUnclosed.1)⟩

/-- What a further line leaves without an end: the block that had none before, unless
the line ends it, and the block that begins at the line itself. -/
theorem unclosed_snoc_iff
    (known : String → Bool) (lines : List (List Char)) (line : List Char) (start : Nat)
    (owner : String) :
    Unclosed known (lines ++ [line]) start owner ↔
      (Unclosed known lines start owner ∧ nest (depthAfter lines) line ≠ 0) ∨
        (start = lines.length ∧ opening? known (lines ++ [line]) lines.length =
          some owner) := by
  unfold Unclosed
  constructor
  · rintro ⟨opens, unclosed⟩
    have within := lt_length_of_opening opens
    rw [List.length_append, List.length_singleton] at within
    rcases Nat.lt_or_eq_of_le (Nat.lt_succ_iff.mp within) with inside | same
    · left
      rw [opening?_snoc known line inside] at opens
      rw [endOf?_snoc line inside, Option.or_eq_none_iff] at unclosed
      refine ⟨⟨opens, unclosed.1⟩, ?_⟩
      intro back
      simp [back] at unclosed
    · exact Or.inr ⟨same, same ▸ opens⟩
  · rintro (⟨⟨opens, unclosed⟩, nested⟩ | ⟨rfl, opens⟩)
    · have inside := lt_length_of_opening opens
      rw [opening?_snoc known line inside, endOf?_snoc line inside, unclosed,
        if_neg nested]
      exact ⟨opens, rfl⟩
    · exact ⟨opens, endOf?_last lines line⟩

private theorem blocksOf_snoc
    (known : String → Bool) (lines : List (List Char)) (line : List Char) :
    blocksOf known (lines ++ [line]) =
      (List.range lines.length).filterMap (blockAt? known (lines ++ [line])) := by
  have last : blockAt? known (lines ++ [line]) lines.length = none := by
    rw [blockAt?, endOf?_last]
    cases opening? known (lines ++ [line]) lines.length <;> rfl
  rw [blocksOf, List.length_append, List.length_singleton, List.range_succ,
    List.filterMap_append]
  simp [last]

/-- A line that ends no block leaves the blocks as they are. -/
theorem blocksOf_snoc_of_nested
    {known : String → Bool} {lines : List (List Char)} {line : List Char}
    (nested : ∀ start owner, Unclosed known lines start owner →
      nest (depthAfter lines) line ≠ 0) :
    blocksOf known (lines ++ [line]) = blocksOf known lines := by
  rw [blocksOf_snoc, blocksOf]
  apply List.filterMap_congr
  intro start member
  rw [blockAt?_snoc line (List.mem_range.mp member)]
  cases opens : opening? known lines start with
  | none => simp
  | some owner =>
      have notEnded : ¬(endOf? lines start = none ∧ nest (depthAfter lines) line = 0) :=
        fun ended => nested start owner ⟨opens, ended.1⟩ ended.2
      rw [Option.bind_some, if_neg notEnded, Option.or_none]

/-- In front of a block without an end, a further line leaves the blocks as they are. -/
theorem Unclosed.blockAt?_snoc
    {known : String → Bool} {lines : List (List Char)} {start other : Nat}
    {owner : String}
    (unclosed : Unclosed known lines start owner)
    (before : other < start)
    (line : List Char) :
    blockAt? known (lines ++ [line]) other = blockAt? known lines other := by
  rw [Guard.blockAt?_snoc line (before.trans (lt_length_of_opening unclosed.1))]
  cases opens : opening? known lines other with
  | none => simp
  | some otherOwner =>
      have ended : endOf? lines other ≠ none := by
        intro otherUnclosed
        exact before.ne' (unclosed.unique ⟨opens, otherUnclosed⟩).1
      simp [ended]

/-- Behind the beginning of a block without an end, no other block begins. -/
theorem Unclosed.opening?_eq_none
    {known : String → Bool} {lines : List (List Char)} {start other : Nat}
    {owner : String}
    (unclosed : Unclosed known lines start owner)
    (behind : start < other) :
    opening? known lines other = none := by
  rw [Option.eq_none_iff_forall_ne_some]
  intro otherOwner opens
  exact behind.not_ge (le_of_unclosed unclosed.1 unclosed.2 opens)

/-- A line that ends the block without an end adds it behind all others. -/
theorem blocksOf_snoc_of_unclosed
    {known : String → Bool} {lines : List (List Char)} {line : List Char} {start : Nat}
    {owner : String}
    (unclosed : Unclosed known lines start owner)
    (back : nest (depthAfter lines) line = 0) :
    blocksOf known (lines ++ [line]) =
      blocksOf known lines ++ [⟨owner, lines.drop start ++ [line]⟩] := by
  have inside := lt_length_of_opening unclosed.1
  have length_eq : lines.length = start + 1 + (lines.length - (start + 1)) := by omega
  have earlier : ∀ other ∈ List.range start,
      blockAt? known (lines ++ [line]) other = blockAt? known lines other :=
    fun other member => unclosed.blockAt?_snoc (List.mem_range.mp member) line
  have later : ∀ other ∈ (List.range (lines.length - (start + 1))).map (start + 1 + ·),
      blockAt? known (lines ++ [line]) other = none ∧ blockAt? known lines other =
        none := by
    intro other member
    obtain ⟨distance, inRange, rfl⟩ := List.mem_map.mp member
    have within : start + 1 + distance < lines.length := by
      have := List.mem_range.mp inRange
      omega
    have closed : opening? known lines (start + 1 + distance) = none :=
      unclosed.opening?_eq_none (by omega)
    rw [Guard.blockAt?_snoc line within, closed, blockAt?_of_not_opening closed]
    exact ⟨rfl, rfl⟩
  have here : blockAt? known (lines ++ [line]) start =
      some ⟨owner, lines.drop start ++ [line]⟩ := by
    rw [Guard.blockAt?_snoc line inside, blockAt?, unclosed.1, unclosed.2]
    simp [back]
  have hereBefore : blockAt? known lines start = none := by
    rw [blockAt?, unclosed.1, unclosed.2]
    rfl
  rw [blocksOf_snoc, blocksOf, length_eq, List.range_add, List.range_succ]
  simp only [List.filterMap_append]
  rw [List.filterMap_congr earlier,
    List.filterMap_eq_nil_iff.mpr fun other member => (later other member).1,
    List.filterMap_eq_nil_iff.mpr fun other member => (later other member).2]
  simp [here, hereBefore]

/-! ## The scan -/

/-- The state of a scan, told by the lines that have been read: the nesting, and the
block that has begun and not ended. -/
structure Tracks (known : String → Bool) (lines : List (List Char)) (state : State) :
    Prop where
  depth_eq : state.depth = depthAfter lines
  ended : state.block = none → ∀ start owner, ¬Unclosed known lines start owner
  begun : ∀ block, state.block = some block →
    ∃ start, Unclosed known lines start block.owner ∧ block.lines = lines.drop start

/-- Before the first line there is no nesting and no block. -/
theorem Tracks.initial (known : String → Bool) : Tracks known [] {} where
  depth_eq := rfl
  ended := by
    rintro - start owner ⟨opens, -⟩
    exact Nat.not_lt_zero _ (lt_length_of_opening opens)
  begun := by
    intro block present
    cases present

/-- Where there is no nesting there is no block in the making. -/
theorem Tracks.block_eq_none
    {known : String → Bool} {lines : List (List Char)} {state : State}
    (tracks : Tracks known lines state)
    (outside : depthAfter lines = 0) :
    state.block = none := by
  rw [Option.eq_none_iff_forall_ne_some]
  intro block present
  obtain ⟨start, unclosed, -⟩ := tracks.begun block present
  exact depthAfter_ne_zero unclosed.1 unclosed.2 outside

/-- A line at which no block begins or ends is added to the block in the making. -/
theorem Tracks.carry
    {known : String → Bool} {lines : List (List Char)} {state : State}
    {line : List Char}
    (tracks : Tracks known lines state)
    (noNew : opening? known (lines ++ [line]) lines.length = none)
    (nested : state.block ≠ none → nest (depthAfter lines) line ≠ 0) :
    Tracks known (lines ++ [line])
        ⟨nest (depthAfter lines) line, state.block.map (·.push line)⟩ ∧
      blocksOf known (lines ++ [line]) = blocksOf known lines := by
  have present : ∀ start owner, Unclosed known lines start owner → state.block ≠ none :=
    fun start owner unclosed missing => tracks.ended missing start owner unclosed
  refine ⟨⟨(depthAfter_snoc lines line).symm, ?_, ?_⟩,
    blocksOf_snoc_of_nested fun start owner unclosed =>
      nested (present start owner unclosed)⟩
  · intro missing start owner unclosed
    rcases (unclosed_snoc_iff known lines line start owner).mp unclosed with
      ⟨before, -⟩ | ⟨-, opens⟩
    · exact present start owner before (Option.map_eq_none_iff.mp missing)
    · rw [noNew] at opens
      cases opens
  · intro block pushed
    obtain ⟨before, found, rfl⟩ := Option.map_eq_some_iff.mp pushed
    obtain ⟨start, unclosed, lines_eq⟩ := tracks.begun before found
    have goesOn : nest (depthAfter lines) line ≠ 0 :=
      nested fun missing => Option.some_ne_none before (found.symm.trans missing)
    refine ⟨start,
      (unclosed_snoc_iff known lines line start before.owner).mpr
        (Or.inl ⟨unclosed, goesOn⟩), ?_⟩
    have inside := Nat.le_of_lt (lt_length_of_opening unclosed.1)
    rw [Block.push, lines_eq, List.drop_append_of_le_length inside]

/-- A line that opens the guard of a known component outside all others begins a
block. -/
theorem Tracks.begin
    {known : String → Bool} {lines : List (List Char)} {state : State}
    {line : List Char}
    {name : String}
    (tracks : Tracks known lines state)
    (opens : opening? known (lines ++ [line]) lines.length = some name)
    (outside : depthAfter lines = 0) :
    Tracks known (lines ++ [line]) ⟨nest (depthAfter lines) line, some ⟨name, [line]⟩⟩ ∧
      blocksOf known (lines ++ [line]) = blocksOf known lines := by
  have noBlock : ∀ start owner, ¬Unclosed known lines start owner :=
    tracks.ended (tracks.block_eq_none outside)
  refine ⟨⟨(depthAfter_snoc lines line).symm, ?_, ?_⟩,
    blocksOf_snoc_of_nested fun start owner unclosed =>
      absurd unclosed (noBlock start owner)⟩
  · intro missing
    cases missing
  · intro block present
    obtain rfl := Option.some.inj present
    refine ⟨lines.length,
      (unclosed_snoc_iff known lines line lines.length name).mpr (Or.inr ⟨rfl, opens⟩),
      ?_⟩
    simp

/-- A line that brings the nesting back to nothing ends the block in the making. -/
theorem Tracks.finish
    {known : String → Bool} {lines : List (List Char)} {state : State}
    {line : List Char}
    (tracks : Tracks known lines state)
    (noNew : opening? known (lines ++ [line]) lines.length = none)
    (back : nest (depthAfter lines) line = 0) :
    Tracks known (lines ++ [line]) ⟨0, none⟩ ∧
      blocksOf known (lines ++ [line]) =
        blocksOf known lines ++ (state.block.map (·.push line)).toList := by
  constructor
  · refine ⟨by rw [depthAfter_snoc, back], ?_, by simp⟩
    rintro - start owner unclosed
    rcases (unclosed_snoc_iff known lines line start owner).mp unclosed with
      ⟨-, nested⟩ | ⟨-, opens⟩
    · exact nested back
    · rw [noNew] at opens
      cases opens
  · cases found : state.block with
    | none =>
        rw [blocksOf_snoc_of_nested fun start owner unclosed =>
          absurd unclosed (tracks.ended found start owner)]
        simp
    | some block =>
        obtain ⟨start, unclosed, lines_eq⟩ := tracks.begun block found
        rw [blocksOf_snoc_of_unclosed unclosed back, ← lines_eq]
        rfl

/-- Scanning one line keeps the invariant, and delivers the block that the line ends. -/
def Advances (known : String → Bool) (lines : List (List Char)) (state : State)
    (line : List Char) : Prop :=
  Tracks known (lines ++ [line]) (Guard.step known state line).1 ∧
    blocksOf known (lines ++ [line]) =
      blocksOf known lines ++ (Guard.step known state line).2.toList

section Step

variable {known : String → Bool} {lines : List (List Char)} {state : State}
  {line : List Char}

/-- A guard begins a block if it is that of a known component outside all others. -/
theorem Tracks.step_opens
    (tracks : Tracks known lines state)
    {name : String}
    (lineClass : classify line = .opens name) :
    Advances known lines state line := by
  have begins := opening?_length known lines line
  have nest_eq : nest (depthAfter lines) line = state.depth + 1 := by
    rw [nest, lineClass, tracks.depth_eq]
  rw [lineClass, ← tracks.depth_eq] at begins
  rw [Advances]
  by_cases fresh : state.depth = 0 ∧ known name
  · have stepped : Guard.step known state line =
        (⟨nest (depthAfter lines) line, some ⟨name, [line]⟩⟩, none) := by
      rw [nest_eq]
      simp [Guard.step, lineClass, fresh, Block.push]
    rw [stepped, Option.toList_none, List.append_nil]
    exact tracks.begin (begins.trans (if_pos fresh)) (tracks.depth_eq ▸ fresh.1)
  · have stepped : Guard.step known state line =
        (⟨nest (depthAfter lines) line, state.block.map (·.push line)⟩, none) := by
      rw [nest_eq]
      simp only [Guard.step, lineClass, if_neg fresh]
    rw [stepped, Option.toList_none, List.append_nil]
    exact tracks.carry (begins.trans (if_neg fresh)) fun _ =>
      nest_eq ▸ Nat.succ_ne_zero state.depth

/-- The end of a guard ends a block if no other guard is open. -/
theorem Tracks.step_closes
    (tracks : Tracks known lines state)
    (lineClass : classify line = .closes) :
    Advances known lines state line := by
  have begins := opening?_length known lines line
  have nest_eq : nest (depthAfter lines) line = state.depth - 1 := by
    rw [nest, lineClass, tracks.depth_eq]
  rw [lineClass] at begins
  rw [Advances]
  by_cases last : state.depth - 1 = 0
  · by_cases outside : state.depth = 0
    · have missing := tracks.block_eq_none (tracks.depth_eq ▸ outside)
      have stepped : Guard.step known state line = (⟨0, none⟩, none) := by
        rcases state with ⟨depth, block⟩
        obtain rfl : depth = 0 := outside
        obtain rfl : block = none := missing
        simp [Guard.step, lineClass]
      have finished := tracks.finish begins (nest_eq.trans last)
      rw [missing] at finished
      rwa [stepped]
    · have stepped : Guard.step known state line =
          (⟨0, none⟩, state.block.map (·.push line)) := by
        obtain ⟨depth, depth_succ⟩ := Nat.exists_eq_succ_of_ne_zero outside
        have depth_zero : depth = 0 := by omega
        simp [Guard.step, lineClass, depth_succ, depth_zero]
      rw [stepped]
      exact tracks.finish begins (nest_eq.trans last)
  · have stepped : Guard.step known state line =
        (⟨nest (depthAfter lines) line, state.block.map (·.push line)⟩, none) := by
      rw [nest_eq]
      obtain ⟨depth, depth_succ⟩ : ∃ depth, state.depth = depth + 1 :=
        ⟨state.depth - 1, by omega⟩
      have depth_ne : depth ≠ 0 := by omega
      simp [Guard.step, lineClass, depth_succ, depth_ne]
    rw [stepped, Option.toList_none, List.append_nil]
    exact tracks.carry begins fun _ => nest_eq ▸ last

/-- A plain line goes into the block in the making. -/
theorem Tracks.step_plain
    (tracks : Tracks known lines state)
    (lineClass : classify line = .plain) :
    Advances known lines state line := by
  have begins := opening?_length known lines line
  have nest_eq : nest (depthAfter lines) line = state.depth := by
    rw [nest, lineClass, tracks.depth_eq]
  rw [lineClass] at begins
  have stepped : Guard.step known state line =
      (⟨nest (depthAfter lines) line, state.block.map (·.push line)⟩, none) := by
    rw [nest_eq]
    simp only [Guard.step, lineClass]
  rw [Advances, stepped, Option.toList_none, List.append_nil]
  refine tracks.carry begins fun present => ?_
  rw [nest_eq, tracks.depth_eq]
  exact fun outside => present (tracks.block_eq_none outside)

theorem Tracks.step (tracks : Tracks known lines state) (line : List Char) :
    Advances known lines state line := by
  cases lineClass : classify line with
  | opens name => exact tracks.step_opens lineClass
  | closes => exact tracks.step_closes lineClass
  | plain => exact tracks.step_plain lineClass

end Step

/-- A scan goes through one more line after all others. -/
theorem scanFrom_snoc
    (known : String → Bool) (state : State) (lines : List (List Char))
    (line : List Char) :
    scanFrom known state (lines ++ [line]) =
      ((Guard.step known (scanFrom known state lines).1 line).1,
        (scanFrom known state lines).2 ++
          (Guard.step known (scanFrom known state lines).1 line).2.toList) := by
  induction lines generalizing state with
  | nil => simp [scanFrom]
  | cons first rest inductionHypothesis =>
      simp [scanFrom, inductionHypothesis, List.append_assoc]

/-- A whole scan keeps the invariant, and delivers the blocks of its lines. -/
theorem tracks_scanFrom (known : String → Bool) (lines : List (List Char)) :
    Tracks known lines (scanFrom known {} lines).1 ∧
      (scanFrom known {} lines).2 = blocksOf known lines := by
  induction lines using List.reverseRecOn with
  | nil => exact ⟨Tracks.initial known, rfl⟩
  | append_singleton lines line inductionHypothesis =>
      obtain ⟨tracks, blocks_eq⟩ := inductionHypothesis
      obtain ⟨nextTracks, nextBlocks⟩ := tracks.step line
      rw [scanFrom_snoc, blocks_eq, nextBlocks]
      exact ⟨nextTracks, rfl⟩

/-- A scan reports the block without an end, with the nesting behind the last line. -/
theorem unterminated_scan
    {known : String → Bool} {lines : List (List Char)} {start : Nat} {owner : String}
    (unclosed : Unclosed known lines start owner) :
    (scan known lines).unterminated = some (owner, depthAfter lines) := by
  obtain ⟨tracks, -⟩ := tracks_scanFrom known lines
  cases found : (scanFrom known {} lines).1.block with
  | none => exact absurd unclosed (tracks.ended found start owner)
  | some block =>
      obtain ⟨other, otherUnclosed, -⟩ := tracks.begun block found
      simp [scan, found, tracks.depth_eq, (unclosed.unique otherUnclosed).2]

/-- A scan reports nothing if every block has an end. -/
theorem unterminated_scan_eq_none
    {known : String → Bool} {lines : List (List Char)}
    (closed : ∀ start owner, ¬Unclosed known lines start owner) :
    (scan known lines).unterminated = none := by
  obtain ⟨tracks, -⟩ := tracks_scanFrom known lines
  cases found : (scanFrom known {} lines).1.block with
  | none => simp [scan, found]
  | some block =>
      obtain ⟨start, unclosed, -⟩ := tracks.begun block found
      exact absurd unclosed (closed start block.owner)

end Guard

namespace Correlation

open Guard

/-- A file that can be read is scanned. -/
theorem scanFile_of_readText
    {tree : FileTree} {path : Path} {text : List Char}
    (known : String → Bool)
    (readable : tree.readText path = .ok text) :
    scanFile tree known path = .scanned path (scan known (Text.lines text)) := by
  rw [scanFile, readable]

/-- What scanning a readable source file delivers, by its lines alone.  Lines are
classed by the guards they contain; the blocks are those from a guard of a known
component outside all others to the first line that brings the nesting back to nothing,
in the order of the file, and none of them overlap; the one guard of this kind that is
never closed is an issue, and nothing else is. -/
theorem scanFile_extracts
    {tree : FileTree} {path : Path} {text : List Char}
    (table : Table)
    (readable : tree.readText path = .ok text) :
    let lines := Text.lines text
    let known := table.contains
    let event := scanFile tree known path
    (∀ line lineClass, classify line = lineClass ↔ Means line lineClass) ∧
      event.blocks =
        ((List.range lines.length).filterMap fun start =>
          (opening? known lines start).bind fun owner =>
            (endOf? lines start).map fun stop =>
              ⟨owner, (lines.take (stop + 1)).drop start⟩) ∧
      (∀ start stop, endOf? lines start = some stop ↔
        start < stop ∧ stop < lines.length ∧ depthAfter (lines.take (stop + 1)) = 0 ∧
          ∀ between, start < between → between < stop →
            depthAfter (lines.take (between + 1)) ≠ 0) ∧
      (∀ start stop owner next nextOwner,
        opening? known lines start = some owner → endOf? lines start = some stop →
          opening? known lines next = some nextOwner → start < next → stop < next) ∧
      (∀ start owner, opening? known lines start = some owner →
        endOf? lines start = none →
        event.issue? =
            some ⟨path.toString,
              s!"unterminated guard CONFIG_{owner} (depth={depthAfter lines}); snippet dropped"⟩ ∧
          ∀ other otherOwner, opening? known lines other = some otherOwner →
            endOf? lines other = none → other = start) ∧
      ((∀ start owner, opening? known lines start = some owner →
        endOf? lines start ≠ none) →
        event.issue? = none) := by
  intro lines known event
  have event_eq : event = .scanned path (scan known lines) :=
    scanFile_of_readText known readable
  refine ⟨classify_eq_iff, ?_, endOf?_eq_some_iff lines, ?_, ?_, ?_⟩
  · rw [event_eq]
    exact (tracks_scanFrom known lines).2
  · intro start stop owner next nextOwner opens ends nextOpens behind
    exact lt_of_opening_behind opens ends nextOpens behind
  · intro start owner opens unclosed
    refine ⟨?_, fun other otherOwner otherOpens otherUnclosed =>
      (Unclosed.unique ⟨otherOpens, otherUnclosed⟩ ⟨opens, unclosed⟩).1⟩
    rw [event_eq, Event.issue?, unterminated_scan ⟨opens, unclosed⟩]
    rfl
  · intro closed
    rw [event_eq, Event.issue?, unterminated_scan_eq_none]
    · rfl
    · exact fun start owner unclosed => closed start owner unclosed.1 unclosed.2

/-- A source file with a guard inside another one, and a guard that is never closed. -/
def guardedText : List Char :=
  "#ifdef CONFIG_A\nx\n#ifdef CONFIG_B\n#endif\n#endif\n#ifdef CONFIG_A\ny".toList

/-- A tree that holds nothing but the source file. -/
def guardedTree : FileTree :=
  ⟨[], [(["f.c"], .file (Text.Utf8.encode guardedText) true)]⟩

/-- The inner guard stays inside the block of the outer one, and the
open guard is an issue. -/
theorem scanFile_extracts_nested_and_open :
    guardedTree.readText ⟨.root, ["f.c"]⟩ = .ok guardedText ∧
      (scanFile guardedTree (Table.contains ⟨[{ name := "A" }]⟩)
        ⟨.root, ["f.c"]⟩).blocks =
        [⟨"A", ["#ifdef CONFIG_A".toList, "x".toList, "#ifdef CONFIG_B".toList,
          "#endif".toList, "#endif".toList]⟩] ∧
      (scanFile guardedTree (Table.contains ⟨[{ name := "A" }]⟩)
        ⟨.root, ["f.c"]⟩).issue? =
        some ⟨"/f.c", "unterminated guard CONFIG_A (depth=1); snippet dropped"⟩ := by
  have opened : guardedTree.atPath ⟨.root, ["f.c"]⟩ guardedTree.readAt =
      .ok (Text.Utf8.encode guardedText) := by cbv
  have decoded : Text.Utf8.decode (Text.Utf8.encode guardedText) = guardedText := by
    cbv
  have readable : guardedTree.readText ⟨.root, ["f.c"]⟩ = .ok guardedText := by
    rw [FileTree.readText, opened]
    exact congrArg Except.ok decoded
  obtain ⟨-, blocks_eq, -, -, unclosed, -⟩ :=
    scanFile_extracts ⟨[{ name := "A" }]⟩ readable
  refine ⟨readable, blocks_eq.trans rfl, ?_⟩
  exact (unclosed 5 "A" rfl rfl).1.trans rfl

end Correlation
end KernelInventory
