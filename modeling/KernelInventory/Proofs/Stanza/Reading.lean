import KernelInventory.Proofs.Text.Search
import KernelInventory.Stanza.Entry

/-!
# The lines of a file as its reader sees them

The reader of a file goes from line to line with a state.  Here every line is described
by the text of the file alone: by what it is, and by the lines in front of it.  Whether
a line is part of a help block is what the help reader says that sees only the lines
that are neither blank nor comments; the flag of a blank line is up exactly when the
last line that counts is blank; and the component that an attribute belongs to is that
of the nearest header in front of it.

The reader is in the state `stateAfter` behind some lines, and what it makes of one line
more is the entry of that line.
-/

namespace KernelInventory

/-- The members of a list, each with those in front of it. -/
def withPast {α : Type} (past : List α) : List α → List (List α × α)
  | [] => []
  | member :: rest => (past, member) :: withPast (past ++ [member]) rest

@[simp] theorem withPast_nil {α : Type} (past : List α) : withPast past [] = [] := rfl

@[simp] theorem withPast_cons {α : Type} (past : List α) (member : α) (rest : List α) :
    withPast past (member :: rest) = (past, member) :: withPast (past ++ [member])
      rest := rfl

@[simp] theorem withPast_append {α : Type} (past left right : List α) :
    withPast past (left ++ right) = withPast past left ++ withPast (past ++ left)
      right := by
  induction left generalizing past with
  | nil => simp
  | cons member rest inductionHypothesis => simp [inductionHypothesis]

theorem map_snd_withPast {α : Type} (past members : List α) :
    (withPast past members).map Prod.snd = members := by
  induction members generalizing past with
  | nil => rfl
  | cons member rest inductionHypothesis =>
      rw [withPast_cons, List.map_cons, inductionHypothesis]

theorem mem_of_mem_withPast
    {α : Type} {past members : List α} {pair : List α × α}
    (member : pair ∈ withPast past members) :
    pair.2 ∈ members := by
  rw [← map_snd_withPast past members]
  exact List.mem_map_of_mem member

namespace Stanza

/-- What a line is to the reader of its file. -/
inductive LineKind
  | comment
  | blank
  /-- The line opens a help block or belongs to one, and help is skipped. -/
  | help
  /-- The line sources another file. -/
  | source (target : String)
  /-- The line is handled as part of a stanza. -/
  | stanza
deriving Repr, DecidableEq

/-- A line as its reader sees it: what it is, and its text without blanks around it. -/
structure Reading where
  kind : LineKind
  line : List Char
deriving Repr, DecidableEq

/-- Read one raw line, with a reader of help that has seen the lines before it. -/
def readingOf (skipping : Bool) (help : State) (raw : List Char) : State × Reading :=
  let line := Text.trim raw
  if line.head? = some '#' then (help, ⟨.comment, line⟩)
  else if line.isEmpty then (help, ⟨.blank, line⟩)
  else
    let (next, skipped) := if skipping then skipHelp help raw else (help, false)
    if skipped then (next, ⟨.help, line⟩)
    else if "source".toList.isPrefixOf line then
      (next, ⟨.source (String.ofList (Field.quotedAfter line "source".toList)), line⟩)
    else (next, ⟨.stanza, line⟩)

/-- Read lines, with a reader of help that has seen the lines before them. -/
def readingsFrom (skipping : Bool) (help : State) : List (List Char) → List Reading
  | [] => []
  | raw :: rest =>
    (readingOf skipping help raw).2 ::
      readingsFrom skipping (readingOf skipping help raw).1 rest

/-- The lines of a file as its reader sees them. -/
def readings (skipping : Bool) (lines : List (List Char)) : List Reading :=
  readingsFrom skipping {} lines

/-- Whether a line counts for what is said about the line before:
comments and help do not. -/
def Reading.counts (reading : Reading) : Bool :=
  reading.kind ≠ .comment ∧ reading.kind ≠ .help

/-- Whether the flag of a blank line is up behind some lines: the last one
that counts is blank. -/
def flagAfter (past : List Reading) : Bool :=
  (past.reverse.find? Reading.counts).any fun reading => reading.kind = .blank

/-- The component that a handled line names as a header. -/
def header? (afterBlank : Bool) (line : List Char) : Option String :=
  if isHeader afterBlank line then headerName? line else none

/-- The component that a line of a file names as a header, given the
lines in front of it. -/
def Reading.header? (past : List Reading) (reading : Reading) : Option String :=
  if reading.kind = .stanza then Stanza.header? (flagAfter past) reading.line else none

/-- The components that the headers of a file name, in order. -/
def headerNames (skipping : Bool) (lines : List (List Char)) : List String :=
  (withPast [] (readings skipping lines)).filterMap fun (past, reading) =>
    reading.header? past

/-- The component of the nearest header in front of a place in a file. -/
def ownerAfter (past : List Reading) : Option String :=
  (withPast [] past).reverse.findSome? fun (before, reading) => reading.header? before

/-- What a handled line does to the table, given the component it belongs to. -/
def effectOf (owner : Option String) (afterBlank : Bool) (line : List Char) :
    Option Effect :=
  (readLine { current := owner, afterBlank := afterBlank } line).2

/-- The entry of a line of a file, given the lines in front of it. -/
def Reading.toEntry (past : List Reading) (reading : Reading) : Option Entry :=
  match reading.kind with
  | .source target => some (.source target)
  | .stanza => (effectOf (ownerAfter past) (flagAfter past) reading.line).map .effect
  | _ => none

/-- Handle a line that has been read, in the state in which it is handled. -/
def Reading.handle (state : State) (reading : Reading) : State × Option Entry :=
  match reading.kind with
  | .comment | .help => (state, none)
  | .blank => ({ state with afterBlank := true }, none)
  | .source target => ({ state with afterBlank := false }, some (.source target))
  | .stanza =>
      ((readLine state reading.line).1, (readLine state reading.line).2.map .effect)

/-- To read a raw line is to find out what it is, and to handle it as that. -/
theorem readRaw_eq_handle (skipping : Bool) (state : State) (raw : List Char) :
    readRaw skipping state raw =
      (readingOf skipping state raw).2.handle (readingOf skipping state raw).1 := by
  unfold readRaw readingOf
  by_cases comment : (Text.trim raw).head? = some '#'
  · simp only [if_pos comment]
    rfl
  by_cases blank : (Text.trim raw).isEmpty = true
  · simp only [if_neg comment, if_pos blank]
    rfl
  simp only [if_neg comment, if_neg blank]
  obtain ⟨next, skipped⟩ := if skipping then skipHelp state raw else (state, false)
  cases skipped with
  | true => rfl
  | false =>
      by_cases source : "source".toList.isPrefixOf (Text.trim raw) = true
      · simp only [if_pos source]
        rfl
      · simp only [if_neg source]
        rfl

/-! ## One line more -/

/-- A line that counts decides about the flag, and the others leave it as it is. -/
theorem flagAfter_snoc (past : List Reading) (reading : Reading) :
    flagAfter (past ++ [reading]) =
      if reading.counts then decide (reading.kind = .blank) else flagAfter past := by
  rw [flagAfter, List.reverse_append, List.reverse_singleton, List.singleton_append,
    List.find?_cons]
  cases reading.counts <;> rfl

/-- A header is nearer than all headers in front of it. -/
theorem ownerAfter_snoc (past : List Reading) (reading : Reading) :
    ownerAfter (past ++ [reading]) = (reading.header? past).or (ownerAfter past) := by
  rw [ownerAfter, withPast_append, List.nil_append, withPast_cons, withPast_nil,
    List.reverse_append, List.reverse_singleton, List.singleton_append,
    List.findSome?_cons]
  cases found : reading.header? past <;> simp [found, ownerAfter]

/-! ## The reader's state -/

/-- A state with the help indentations of another one. -/
def State.withHelp (state help : State) : State :=
  { state with helpIndent := help.helpIndent, helpTextIndent := help.helpTextIndent }

/-- Reading help looks at the indentations only, and leaves the rest of the state as it
is. -/
theorem skipHelp_withHelp (state help : State) (raw : List Char) :
    skipHelp (state.withHelp help) raw =
      (state.withHelp (skipHelp help raw).1, (skipHelp help raw).2) := by
  rcases help with ⟨current, afterBlank, helpIndent, helpTextIndent⟩
  unfold skipHelp helpText? State.withHelp
  cases helpIndent with
  | none => by_cases opens : opensHelp (Text.trim (expandedLine raw)) = true <;>
      simp [opens]
  | some indent =>
      cases helpTextIndent with
      | none =>
          by_cases deeper : indent < indentation (expandedLine raw)
          · simp [deeper]
          · by_cases opens : opensHelp (Text.trim (expandedLine raw)) = true <;>
              simp [deeper, opens]
      | some textIndent =>
          by_cases inside : textIndent ≤ indentation (expandedLine raw)
          · simp [inside]
          · by_cases opens : opensHelp (Text.trim (expandedLine raw)) = true <;>
              simp [inside, opens]

/-- A handled line uses the flag up, and a header makes its component the current
one. -/
theorem readLine_eq (state : State) (line : List Char) :
    readLine state line =
      ({ state with
          current := (header? state.afterBlank line).or state.current
          afterBlank := false },
        effectOf state.current state.afterBlank line) := by
  unfold effectOf readLine header?
  simp only []
  by_cases header : isHeader state.afterBlank line = true
  · simp only [if_pos header]
    cases headerName? line <;> rfl
  · simp only [if_neg header]
    cases state.current <;> cases Attribute.ofLine? line <;> rfl

/-- The state of a reader behind some lines, whose help has been read by another
reader. -/
def stateAfter (past : List Reading) (help : State) : State :=
  State.withHelp { current := ownerAfter past, afterBlank := flagAfter past } help

/-- A fresh reader has read nothing. -/
theorem stateAfter_nil : stateAfter [] {} = {} := rfl

/-- The state behind a line that is not handled: nothing but the flag can change. -/
theorem stateAfter_snoc_of_ne
    (past : List Reading) (help : State) {reading : Reading}
    (notHandled : reading.kind ≠ .stanza) :
    stateAfter (past ++ [reading]) help =
      { stateAfter past help with
        afterBlank := if reading.counts then decide (reading.kind = .blank)
          else flagAfter past } := by
  rw [stateAfter, ownerAfter_snoc, Reading.header?, if_neg notHandled, Option.none_or,
    flagAfter_snoc]
  rfl

/-- The state behind a handled line: a header has become the owner, and the flag is
down. -/
theorem stateAfter_snoc_stanza (past : List Reading) (help : State) (line : List Char) :
    stateAfter (past ++ [⟨.stanza, line⟩]) help =
      { stateAfter past help with
        current := (header? (flagAfter past) line).or (ownerAfter past)
        afterBlank := false } := by
  rw [stateAfter, ownerAfter_snoc, flagAfter_snoc]
  rfl

/-- What a line is does not depend on the state of its reader, but for the
indentations of help. -/
theorem readingOf_withHelp (skipping : Bool) (state help : State) (raw : List Char) :
    readingOf skipping (state.withHelp help) raw =
      (state.withHelp (readingOf skipping help raw).1,
        (readingOf skipping help raw).2) := by
  have helpRead : (if skipping then skipHelp (state.withHelp help) raw
        else (state.withHelp help, false)) =
      (state.withHelp (if skipping then skipHelp help raw else (help, false)).1,
        (if skipping then skipHelp help raw else (help, false)).2) := by
    cases skipping with
    | false => rfl
    | true => exact skipHelp_withHelp state help raw
  unfold readingOf
  simp only [helpRead]
  split_ifs <;> rfl

/-- Handling a line leads to the state behind it, and makes the entry of the line. -/
theorem handle_stateAfter (past : List Reading) (help : State) (reading : Reading) :
    reading.handle (stateAfter past help) =
      (stateAfter (past ++ [reading]) help, reading.toEntry past) := by
  obtain ⟨kind, line⟩ := reading
  cases kind with
  | stanza =>
      rw [stateAfter_snoc_stanza, Reading.handle]
      dsimp only
      rw [readLine_eq]
      rfl
  | comment | blank | help | source _ =>
      rw [stateAfter_snoc_of_ne past help (by simp)]
      rfl

/-- Reading one raw line leads to the state behind it, and makes the entry of the
line. -/
theorem readRaw_stateAfter
    (skipping : Bool) (past : List Reading) (help : State) (raw : List Char) :
    readRaw skipping (stateAfter past help) raw =
      (stateAfter (past ++ [(readingOf skipping help raw).2])
        (readingOf skipping help raw).1,
          (readingOf skipping help raw).2.toEntry past) := by
  rw [readRaw_eq_handle, stateAfter, readingOf_withHelp]
  exact handle_stateAfter past _ _

/-- The entries of lines are those that the lines in front of them leave open. -/
theorem entriesFrom_stateAfter
    (skipping : Bool) (past : List Reading) (help : State) (lines : List (List Char)) :
    entriesFrom skipping (stateAfter past help) lines =
      (withPast past (readingsFrom skipping help lines)).filterMap
        fun (before, reading) =>
        reading.toEntry before := by
  induction lines generalizing past help with
  | nil => rfl
  | cons raw rest inductionHypothesis =>
      simp only [entriesFrom, readRaw_stateAfter, inductionHypothesis, readingsFrom,
        withPast_cons, List.filterMap_cons]
      cases (readingOf skipping help raw).2.toEntry past <;> rfl

/-- The entries of a file, line by line. -/
theorem entries_eq (skipping : Bool) (lines : List (List Char)) :
    entries skipping lines =
      (withPast [] (readings skipping lines)).filterMap fun (past, reading) =>
        reading.toEntry past := by
  rw [entries, ← stateAfter_nil, entriesFrom_stateAfter]
  rfl

end Stanza
end KernelInventory
