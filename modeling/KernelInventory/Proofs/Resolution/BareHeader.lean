import KernelInventory.Proofs.Resolution.Visit
import KernelInventory.Proofs.Stanza.Attribute

/-!
# Headers that need a blank line

A header without a space behind `config` opens its component only while the flag of a
blank line is up.  A comment leaves the flag as it is and so does a line of help that
is skipped, while every other line uses it up.  So the nearest line in front that is no
comment decides, unless it is help: help is passed over, and a blank line in front of
it still counts behind it.
-/

namespace KernelInventory
namespace Stanza

/-- A line names a component behind `config`, with no space in between. -/
structure BareHeader (line : List Char) (name : String) : Prop where
  config : startsWith "config" line = true
  spaceless : startsWith "config " line = false
  named : headerName? line = some name

/-- The nearest line in front that is no comment. -/
def nearest? (past : List Reading) : Option Reading :=
  past.reverse.find? fun reading => reading.kind ≠ .comment

/-- Only while the flag is up, the line is a header. -/
theorem BareHeader.effectOf_eq
    {line : List Char} {name : String}
    (bare : BareHeader line name)
    (owner : Option String)
    (flag : Bool) :
    effectOf owner flag line = if flag then some (.header name) else none := by
  have header (up : Bool) : isHeader up line = up := by
    rw [isHeader, ← startsWith, ← startsWith, bare.config, bare.spaceless,
      Bool.false_or, Bool.and_true]
  rw [effectOf, readLine]
  dsimp only
  rw [header, bare.named, ofLine?_of_isHeader (header true)]
  cases flag with
  | true => rfl
  | false => cases owner <;> rfl

theorem counts_iff {reading : Reading} :
    reading.counts = true ↔ reading.kind ≠ .comment ∧ reading.kind ≠ .help := by
  rw [Reading.counts, decide_eq_true_iff]

/-- The flag is up exactly if a blank line stands in front, with nothing but comments
and skipped help in between. -/
theorem flagAfter_eq_true_iff {past : List Reading} :
    flagAfter past = true ↔
      ∃ earlier blank passed, past = earlier ++ blank :: passed ∧ blank.kind = .blank ∧
        ∀ reading ∈ passed, reading.kind = .comment ∨ reading.kind = .help := by
  have passedOver (reading : Reading) :
      (!reading.counts) = true ↔ reading.kind = .comment ∨ reading.kind = .help := by
    rw [Bool.not_eq_true', Bool.eq_false_iff, ne_eq, counts_iff,
      Decidable.not_and_iff_not_or_not, not_not, not_not]
  rw [flagAfter, Option.any_eq_true]
  constructor
  · rintro ⟨blank, found, isBlank⟩
    obtain ⟨-, passed, earlier, split, silent⟩ := List.find?_eq_some_iff_append.mp found
    refine ⟨earlier.reverse, blank, passed.reverse, ?_, of_decide_eq_true isBlank, ?_⟩
    · rw [← List.reverse_reverse past, split]
      simp
    · intro reading member
      exact (passedOver reading).mp (silent reading (List.mem_reverse.mp member))
  · rintro ⟨earlier, blank, passed, rfl, isBlank, silent⟩
    refine ⟨blank, List.find?_eq_some_iff_append.mpr
      ⟨?_, passed.reverse, earlier.reverse, ?_, ?_⟩, decide_eq_true isBlank⟩
    · rw [counts_iff, isBlank]
      decide
    · simp
    · intro reading member
      exact (passedOver reading).mpr (silent reading (List.mem_reverse.mp member))

/-- Unless it is help, the nearest line in front that is no comment
decides about the flag. -/
theorem flagAfter_of_nearest
    {past : List Reading}
    (noHelp : ∀ nearest ∈ nearest? past, nearest.kind ≠ .help) :
    flagAfter past = (nearest? past).any fun nearest => nearest.kind = .blank := by
  have same : past.reverse.find? Reading.counts = nearest? past := by
    cases found : nearest? past with
    | none =>
        rw [List.find?_eq_none]
        intro reading member counts
        have comment := List.find?_eq_none.mp found reading member
        exact comment (decide_eq_true (counts_iff.mp counts).1)
    | some nearest =>
        obtain ⟨noComment, passed, earlier, split, comments⟩ :=
          List.find?_eq_some_iff_append.mp found
        refine List.find?_eq_some_iff_append.mpr ⟨?_, passed, earlier, split, ?_⟩
        · exact counts_iff.mpr ⟨of_decide_eq_true noComment, noHelp nearest found⟩
        · intro reading member
          have comment := comments reading member
          rw [Bool.not_eq_true', decide_eq_false_iff_not, not_not] at comment
          rw [Bool.not_eq_true', Bool.eq_false_iff, ne_eq, counts_iff, comment]
          exact fun counts => counts.1 rfl
  rw [flagAfter, same]

/-- Without skipping, no line is help. -/
theorem kind_ne_help_of_mem
    {lines : List (List Char)} {help : State} {reading : Reading}
    (member : reading ∈ readingsFrom false help lines) :
    reading.kind ≠ .help := by
  induction lines generalizing help with
  | nil => cases member
  | cons raw rest inductionHypothesis =>
      rw [readingsFrom, List.mem_cons] at member
      rcases member with rfl | later
      · unfold readingOf
        simp only [Bool.false_eq_true, if_false]
        split_ifs <;> simp
      · exact inductionHypothesis later

end Stanza

namespace Resolution

section Visit

variable (tree : FileTree) (settings : Settings) (root : Path) (chain : List Location)
  (file : Location)

/-- The events of lines of a file, given the lines in front of them. -/
def linesEvents (past lines : List Stanza.Reading) : List Event :=
  (withPast past lines).flatMap fun (past, reading) =>
    lineEvents tree settings root chain file past reading

end Visit

section BareHeaders

variable {tree : FileTree} {settings : Settings} {root : Path} {chain : List Location}
  {file : Location} {bytes : List UInt8}

/-- A bare header opens its component while the flag is up, and else nothing happens. -/
theorem lineEvents_of_bareHeader
    {line : List Char} {name : String}
    (bare : Stanza.BareHeader line name)
    (past : List Stanza.Reading) :
    lineEvents tree settings root chain file past ⟨.stanza, line⟩ =
      if Stanza.flagAfter past then [.effect file (.header name)] else [] := by
  rw [lineEvents, Stanza.Reading.toEntry]
  dsimp only
  rw [bare.effectOf_eq]
  split <;> rfl

/-- In a visit of a file, a bare header opens its component exactly if a blank line
stands in front of it with nothing but comments and skipped help in between.  If the
nearest line in front that is no comment is not help, as always when help is not
skipped, then this line alone decides: it has to be blank. -/
theorem bare_header_opens_iff
    {past rest : List Stanza.Reading} {line : List Char} {name : String}
    (lines : Stanza.readings settings.skipHelp (linesOf bytes) =
      past ++ ⟨.stanza, line⟩ :: rest)
    (bare : Stanza.BareHeader line name) :
    visit tree settings root chain file bytes =
        .opened file :: (linesEvents tree settings root chain file [] past ++
          (if Stanza.flagAfter past then [.effect file (.header name)] else []) ++
            linesEvents tree settings root chain file
              (past ++ [⟨.stanza, line⟩]) rest) ∧
      (Stanza.flagAfter past = true ↔
        ∃ earlier blank passed, past = earlier ++ blank :: passed ∧
          blank.kind = .blank ∧
          ∀ reading ∈ passed, reading.kind = .comment ∨ reading.kind = .help) ∧
      ((∀ nearest ∈ Stanza.nearest? past, nearest.kind ≠ .help) →
        (Stanza.flagAfter past = true ↔
          ∃ nearest ∈ Stanza.nearest? past, nearest.kind = .blank)) ∧
      (settings.skipHelp = false → ∀ reading ∈ past, reading.kind ≠ .help) := by
  refine ⟨?_, Stanza.flagAfter_eq_true_iff, fun noHelp =>
    ?_, fun reads reading member => ?_⟩
  · rw [visit_eq_lines, lines, withPast_append, withPast_cons, List.flatMap_append,
      List.flatMap_cons, List.nil_append, ← lineEvents_of_bareHeader bare,
      List.append_assoc]
    rfl
  · rw [Stanza.flagAfter_of_nearest noHelp, Option.any_eq_true]
    simp
  · rw [reads, Stanza.readings] at lines
    exact Stanza.kind_ne_help_of_mem (lines ▸ List.mem_append_left _ member)

end BareHeaders

/-! ## A blank line in front of help -/

/-- Help between a blank line and a bare header. -/
def blankHelpBytes : List UInt8 :=
  Text.Utf8.encode "config A\n\n\thelp\n\t  Text.\nconfig\tB\n".toList

/-- What stands in front of the bare header, when help is skipped. -/
def blankHelpPast : List Stanza.Reading :=
  [⟨.stanza, "config A".toList⟩, ⟨.blank, []⟩, ⟨.help, "help".toList⟩,
    ⟨.help, "Text.".toList⟩]

theorem readings_blankHelp :
    Stanza.readings true (linesOf blankHelpBytes) =
      blankHelpPast ++ [⟨.stanza, "config\tB".toList⟩] := by
  rfl

theorem bareHeader_tab : Stanza.BareHeader "config\tB".toList "B" :=
  ⟨by decide, by decide, rfl⟩

/-- The blank line still counts behind the help. -/
theorem bare_header_opens_iff_help :
    Stanza.readings true (linesOf blankHelpBytes) =
        blankHelpPast ++ [⟨.stanza, "config\tB".toList⟩] ∧
      Stanza.BareHeader "config\tB".toList "B" ∧
      Stanza.flagAfter blankHelpPast = true ∧
      Event.effect ["k", "out"] (.header "B") ∈
        visit (twoFiles blankHelpBytes []) { version := "1", skipHelp := true }
          ⟨.root, ["k"]⟩ [["k", "out"]] ["k", "out"] blankHelpBytes := by
  obtain ⟨events, flag, -⟩ :=
    @bare_header_opens_iff (twoFiles blankHelpBytes [])
      { version := "1", skipHelp := true } ⟨.root, ["k"]⟩ [["k", "out"]]
      ["k", "out"] blankHelpBytes _ _ _ _ readings_blankHelp
      bareHeader_tab
  have up := flag.mpr ⟨[⟨.stanza, "config A".toList⟩], ⟨.blank, []⟩,
    [⟨.help, "help".toList⟩, ⟨.help, "Text.".toList⟩], rfl, rfl, by decide⟩
  refine ⟨readings_blankHelp, bareHeader_tab, up, ?_⟩
  rw [events, up]
  simp

/-- It does not hold that a bare header opens its component exactly if the nearest line
in front that is no comment is blank. -/
theorem not_all_bare_headers_behind_blank :
    ¬ ∀ (tree : FileTree) (settings : Settings) (root : Path) (chain : List Location)
        (file : Location) (bytes : List UInt8) (past rest : List Stanza.Reading)
        (line : List Char) (name : String),
      Stanza.readings settings.skipHelp (linesOf bytes) =
        past ++ ⟨.stanza, line⟩ :: rest →
      Stanza.BareHeader line name →
        (lineEvents tree settings root chain file past ⟨.stanza, line⟩ =
            [.effect file (.header name)] ↔
          ∃ nearest ∈ Stanza.nearest? past, nearest.kind = .blank) := by
  intro claimed
  obtain ⟨nearest, found, blank⟩ :=
    (claimed (twoFiles blankHelpBytes []) { version := "1", skipHelp := true }
      ⟨.root, ["k"]⟩ [["k", "out"]] ["k", "out"] blankHelpBytes _ _ _ _
        readings_blankHelp bareHeader_tab).mp
      (lineEvents_of_bareHeader bareHeader_tab _)
  have help : Stanza.nearest? blankHelpPast = some ⟨.help, "Text.".toList⟩ := by
    decide
  rw [help] at found
  obtain rfl := Option.some.inj found
  cases blank

end Resolution
end KernelInventory
