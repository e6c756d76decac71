import KernelInventory.Proofs.Suggestion.Ranking
import KernelInventory.Proofs.Text.Delivery
import KernelInventory.Query

/-!
# The transcript of a lookup

A lookup answers the lines of its input one by one, up to the first one that asks for
the end.  What it writes is put together from the answers to these lines, whatever the
others hold, and what is left unread is the input behind the line that ends it.
-/

namespace KernelInventory
namespace Query

/-! ## Lines -/

/-- What a line says, blanks at its ends apart. -/
def said (line : List Char) : String :=
  String.ofList (Text.trim line)

/-- Whether a line asks for the end of the lookup. -/
def Quits (line : List Char) : Prop :=
  said line = "q" ∨ said line = "Q"

instance : DecidablePred Quits :=
  fun line => inferInstanceAs (Decidable (said line = "q" ∨ said line = "Q"))

/-- The lines that are answered: those in front of the first one that asks for the
end. -/
def answered (input : List Char) : List (List Char) :=
  (Text.feedLines input).takeWhile (¬ Quits ·)

/-- Whether some line asks for the end. -/
def Ends (input : List Char) : Prop :=
  ∃ line ∈ Text.feedLines input, Quits line

instance : DecidablePred Ends :=
  fun input => inferInstanceAs (Decidable (∃ line ∈ Text.feedLines input, Quits line))

/-- What is shown for a line: the component that it names, if it names one. -/
def shown (table : Table) (line : List Char) : String :=
  if said line = "" then ""
  else ((table.find? (said line)).map Report.component).getD ""

/-- What is complained about a line: that it names no component, with what is
similar. -/
def missed (table : Table) (line : List Char) : String :=
  if said line = "" ∨ said line ∈ table.names then ""
  else
    "Component '" ++ said line ++ "' not found.\n" ++
      if Suggestion.names (said line) table.names = [] then ""
      else
        "Did you mean: " ++ ", ".intercalate
          (Suggestion.names (said line) table.names) ++ "?\n"

/-- What is logged about a line. -/
def noted (table : Table) (line : List Char) : List LogEntry :=
  if said line = "" ∨ said line ∈ table.names then []
  else [⟨.debug, "Component lookup missed (name=" ++ said line ++ ")"⟩]

/-- What is written for a line, the prompt in front of it apart. -/
def reply (table : Table) (line : List Char) : Transcript :=
  ⟨shown table line, missed table line, noted table line⟩

theorem said_append_feed (line : List Char) : said (line ++ ['\n']) = said line := by
  rw [said, Text.trim_append_blank (by decide), said]

theorem said_eq_empty_iff {line : List Char} : said line = "" ↔ Text.trim line = [] :=
  String.ofList_eq_empty_iff

theorem quits_append_feed {line : List Char} : Quits (line ++ ['\n']) ↔ Quits line := by
  rw [Quits, said_append_feed, Quits]

theorem reply_append_feed (table : Table) (line : List Char) :
    reply table (line ++ ['\n']) = reply table line := by
  rw [reply, shown, missed, noted, said_append_feed]
  rfl

theorem quits_iff_trim {line : List Char} :
    Quits line ↔ Text.trim line = ['q'] ∨ Text.trim line = ['Q'] := by
  rw [Quits, said]
  simp only [String.ext_iff, String.toList_ofList]
  rfl

/-! ## The steps of a lookup -/

section Steps

variable {table : Table} {input line rest : List Char}

theorem request_of_quits (quits : Quits line) : request line = .quit := by
  rcases quits_iff_trim.mp quits with trimmed | trimmed
  · simp [request, trimmed]
  · simp [request, trimmed]

theorem request_of_said_empty (empty : said line = "") : request line = .nothing := by
  rw [request, said_eq_empty_iff.mp empty]

theorem request_of_said (present : said line ≠ "") (goesOn : ¬ Quits line) :
    request line = .lookup (said line) := by
  rw [quits_iff_trim] at goesOn
  rw [Ne, said_eq_empty_iff] at present
  unfold request
  split
  next empty => exact absurd empty present
  · rw [if_neg goesOn, said]

theorem answer_said (present : said line ≠ "") :
    answer table (said line) = reply table line := by
  unfold answer reply shown missed noted
  cases found : table.find? (said line) with
  | some record =>
      have known : said line ∈ table.names := by
        rw [← Table.contains_iff_mem_names, Table.contains, found]
        rfl
      simp only [present, known, false_or, if_true, if_false]
      rfl
  | none =>
      have unknown : said line ∉ table.names := by
        rw [← Table.contains_iff_mem_names, Table.contains, found]
        exact Bool.false_ne_true
      simp only [present, unknown, false_or, if_false]
      cases Suggestion.names (said line) table.names with
      | nil =>
          rw [if_pos rfl, String.append_empty]
          rfl
      | cons best others => rfl

theorem run_nil (table : Table) : run table [] = (.print (prompt ++ "\n"), []) := by
  rw [run]
  rfl

theorem run_of_quits
    (taken : Text.takeLine input = some (line, rest))
    (quits : Quits line) :
    run table input = (.print prompt, rest) := by
  unfold run
  split
  next none =>
    cases taken.symm.trans none
  next found =>
    obtain ⟨rfl, rfl⟩ := Prod.ext_iff.mp (Option.some.inj (taken.symm.trans found))
    rw [request_of_quits quits]

/-- A line that does not ask for the end is answered, and the lookup goes on behind
it. -/
theorem run_of_line
    (taken : Text.takeLine input = some (line, rest))
    (goesOn : ¬ Quits line) :
    run table input =
      (.print prompt ++ reply table line ++ (run table rest).1,
        (run table rest).2) := by
  conv_lhs => unfold run
  split
  next none =>
    cases taken.symm.trans none
  next found =>
    obtain ⟨rfl, rfl⟩ := Prod.ext_iff.mp (Option.some.inj (taken.symm.trans found))
    by_cases empty : said line = ""
    · have nothing : reply table line = ⟨"", "", []⟩ := by
        simp [reply, shown, missed, noted, empty]
      rw [request_of_said_empty empty, nothing]
      rfl
    · rw [request_of_said empty goesOn, ← answer_said empty]

end Steps

/-! ## Whole lookups -/

section Lookups

variable {table : Table} {line rest : List Char}

theorem answered_further (unbroken : '\n' ∉ line) :
    answered (line ++ '\n' :: rest) = if Quits line then []
    else line :: answered rest := by
  rw [answered, Text.feedLines_append_feed unbroken, List.takeWhile_cons]
  by_cases quits : Quits line <;> simp [quits, answered]

theorem answered_last (nonempty : line ≠ []) (unbroken : '\n' ∉ line) :
    answered line = if Quits line then [] else [line] := by
  rw [answered, Text.feedLines_of_not_mem unbroken nonempty, List.takeWhile_cons]
  by_cases quits : Quits line <;> simp [quits]

theorem ends_further (unbroken : '\n' ∉ line) :
    Ends (line ++ '\n' :: rest) ↔ Quits line ∨ Ends rest := by
  rw [Ends, Text.feedLines_append_feed unbroken, List.exists_mem_cons_iff, Ends]

theorem ends_last (nonempty : line ≠ []) (unbroken : '\n' ∉ line) :
    Ends line ↔ Quits line := by
  rw [Ends, Text.feedLines_of_not_mem unbroken nonempty]
  simp

theorem run_further (unbroken : '\n' ∉ line) :
    run table (line ++ '\n' :: rest) =
      if Quits line then (.print prompt, rest)
      else (.print prompt ++ reply table line ++ (run table rest).1,
        (run table rest).2) := by
  have taken : Text.takeLine (line ++ '\n' :: rest) = some (line ++ ['\n'], rest) :=
    Text.takeLine_append_feed unbroken rest
  split
  next quits =>
    exact run_of_quits taken (quits_append_feed.mpr quits)
  next goesOn =>
    rw [run_of_line taken (mt quits_append_feed.mp goesOn), reply_append_feed]

theorem run_last (nonempty : line ≠ []) (unbroken : '\n' ∉ line) :
    run table line =
      if Quits line then (.print prompt, [])
      else (.print prompt ++ reply table line ++ .print (prompt ++ "\n"), []) := by
  have taken : Text.takeLine line = some (line, []) :=
    Text.takeLine_of_not_mem nonempty unbroken
  split
  next quits =>
    exact run_of_quits taken quits
  next goesOn =>
    rw [run_of_line taken goesOn, run_nil]

/-- A lookup writes the prompt and the reply for each line that is answered, and then
the prompt, which is followed by a line feed only where the input ends. -/
theorem channels_run (table : Table) (input : List Char) :
    (run table input).1.stdout =
        String.join ((answered input).map fun line => prompt ++ shown table line) ++
          prompt ++
          (if Ends input then "" else "\n") ∧
      (run table input).1.stderr = String.join ((answered input).map (missed table)) ∧
      (run table input).1.log = (answered input).flatMap (noted table) := by
  induction input using Text.line_induction with
  | nothing =>
      rw [run_nil]
      exact ⟨rfl, rfl, rfl⟩
  | further line rest unbroken inductionHypothesis =>
      rw [run_further unbroken, answered_further unbroken]
      simp only [ends_further unbroken]
      by_cases quits : Quits line
      · simp only [quits, if_true, true_or]
        exact ⟨rfl, rfl, rfl⟩
      · obtain ⟨stdout, stderr, log⟩ := inductionHypothesis
        simp only [quits, if_false, false_or]
        simp [stdout, stderr, log, reply, Transcript.print, String.append_assoc]
  | last line nonempty unbroken =>
      rw [run_last nonempty unbroken, answered_last nonempty unbroken]
      simp only [ends_last nonempty unbroken]
      by_cases quits : Quits line
      · simp only [quits, if_true]
        exact ⟨rfl, rfl, rfl⟩
      · simp only [quits, if_false]
        simp [reply, Transcript.print, String.append_assoc]

/-- A lookup that nothing ends answers all lines and reads the whole input. -/
theorem read_of_not_ends
    (table : Table)
    {input : List Char}
    (goesOn : ¬ Ends input) :
    answered input = Text.feedLines input ∧ (run table input).2 = [] := by
  refine ⟨List.takeWhile_eq_self_iff.mpr fun line member => ?_, ?_⟩
  · simpa using fun quits => goesOn ⟨line, member, quits⟩
  · induction input using Text.line_induction with
    | nothing => rw [run_nil]
    | further line rest unbroken inductionHypothesis =>
        rw [ends_further unbroken, not_or] at goesOn
        rw [run_further unbroken, if_neg goesOn.1]
        exact inductionHypothesis goesOn.2
    | last line nonempty unbroken =>
        rw [ends_last nonempty unbroken] at goesOn
        rw [run_last nonempty unbroken, if_neg goesOn]

/-- A lookup that a line ends reads the lines that it answers and that line, and leaves
unread what stands behind. -/
theorem read_of_ends
    (table : Table)
    {input : List Char}
    (ends : Ends input) :
    ∃ line, Quits line ∧ '\n' ∉ line ∧
      (input = Text.writeLines (answered input) ++ line ++ '\n' :: (run table input).2 ∨
        input = Text.writeLines (answered input) ++ line ∧
          (run table input).2 = []) := by
  induction input using Text.line_induction with
  | nothing =>
      obtain ⟨line, member, -⟩ := ends
      cases member
  | further first rest unbroken inductionHypothesis =>
      rw [run_further unbroken, answered_further unbroken]
      by_cases quits : Quits first
      · simp only [quits, if_true]
        exact ⟨first, quits, unbroken, Or.inl rfl⟩
      · obtain ⟨line, isEnd, unbrokenEnd, whole⟩ :=
          inductionHypothesis (((ends_further unbroken).mp ends).resolve_left quits)
        simp only [quits, if_false]
        refine ⟨line, isEnd, unbrokenEnd,
          whole.imp (fun same => ?_) (And.imp_left fun same => ?_)⟩
        all_goals
          conv_lhs => rw [same]
          simp [Text.writeLines]
  | last line nonempty unbroken =>
      have quits := (ends_last nonempty unbroken).mp ends
      rw [run_last nonempty unbroken, answered_last nonempty unbroken, if_pos quits,
        if_pos quits]
      exact ⟨line, quits, unbroken, Or.inr ⟨rfl, rfl⟩⟩

end Lookups

/-! ## Transcripts -/

section Transcripts

variable {table : Table} {line : List Char}

/-- The details of a component are never empty. -/
theorem component_ne_empty (record : Record) : Report.component record ≠ "" := by
  intro empty
  have shown := congrArg String.toList empty
  simp [Report.component, Report.plain, Report.printLines] at shown

/-- A line that names a component shows its record. -/
theorem exists_record_of_named
    (present : said line ≠ "")
    (known : said line ∈ table.names) :
    ∃ record ∈ table.records, record.name = said line ∧
      shown table line = Report.component record := by
  rw [← Table.contains_iff_mem_names, Table.contains, Option.isSome_iff_exists] at known
  obtain ⟨record, found⟩ := known
  refine ⟨record, List.mem_of_find?_eq_some
    found, by simpa using List.find?_some found, ?_⟩
  rw [shown, if_neg present, found]
  rfl

theorem shown_eq_empty_iff : shown table line = "" ↔
    said line = "" ∨ said line ∉ table.names := by
  constructor
  · intro empty
    by_contra named
    rw [not_or, not_not] at named
    obtain ⟨record, -, -, same⟩ := exists_record_of_named named.1 named.2
    exact component_ne_empty record (same.symm.trans empty)
  · rintro (empty | unknown)
    · rw [shown, if_pos empty]
    · rw [← Table.contains_iff_mem_names, Table.contains, Bool.not_eq_true,
        Option.isSome_eq_false_iff, Option.isNone_iff_eq_none] at unknown
      rw [shown, unknown]
      exact ite_self _

end Transcripts

/-- The transcript of a lookup, whatever the table and the input.  For each line in
front of the first one that asks for the end, the prompt is shown and then the
component that the line names, if it names one; then the prompt is shown once more,
with a line feed behind it if no line asks for the end.  For each of these lines
that is not blank and names no component there is a complaint, with the similar
names of the table if there are such.  What is left unread is what stands behind the
line that asks for the end. -/
theorem session_transcript (table : Table) (input : List Char) :
    ((run table input).1.stdout =
        String.join ((answered input).map fun line => prompt ++ shown table line) ++
          prompt ++
          (if Ends input then "" else "\n") ∧
      (run table input).1.stderr = String.join ((answered input).map (missed table)) ∧
      (run table input).1.log = (answered input).flatMap (noted table)) ∧
    ((∀ line, said line ≠ "" → said line ∈ table.names →
        ∃ record ∈ table.records, record.name = said line ∧
          shown table line = Report.component record) ∧
      ∀ line, shown table line = "" ↔ said line = "" ∨ said line ∉ table.names) ∧
    ((¬ Ends input → answered input = Text.feedLines input ∧ (run table input).2 = []) ∧
      (Ends input → ∃ line, Quits line ∧ '\n' ∉ line ∧
        (input = Text.writeLines (answered input) ++ line ++ '\n' ::
          (run table input).2 ∨
          input = Text.writeLines (answered input) ++ line ∧
            (run table input).2 = []))) ∧
    ∀ name, Suggestion.names name table.names ⊆ table.names :=
  ⟨channels_run table input,
    ⟨fun _ => exists_record_of_named, fun _ => shown_eq_empty_iff⟩,
    ⟨read_of_not_ends table, read_of_ends table⟩, fun name =>
      Suggestion.names_subset name table.names⟩

/-- A component without a name is not shown, although a blank line says its name. -/
theorem not_all_named_components_shown :
    ¬ ∀ (table : Table) (input : List Char),
        (run table input).1.stdout =
          String.join ((answered input).map fun line =>
            prompt ++ ((table.find? (said line)).map Report.component).getD "") ++
              prompt ++
              (if Ends input then "" else "\n") := by
  intro all
  have named := all ⟨[{ name := "" }]⟩ ['\n']
  have blank : answered ['\n'] = [[]] := by decide
  have hidden : shown ⟨[{ name := "" }]⟩ [] = "" := by decide
  have found : Table.find? ⟨[{ name := "" }]⟩ (said []) = some { name := "" } := by
    decide
  rw [(channels_run _ _).1, blank] at named
  have shows : prompt = prompt ++ Report.component { name := "" } := by
    simpa [hidden, found] using named
  have same := congrArg String.toList shows
  rw [String.toList_append, List.self_eq_append_right, String.toList_eq_nil_iff] at same
  exact component_ne_empty _ same

end Query
end KernelInventory
