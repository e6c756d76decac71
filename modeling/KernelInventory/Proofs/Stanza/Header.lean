import KernelInventory.Proofs.Component.Growth
import KernelInventory.Proofs.Stanza.Attribute
import KernelInventory.Proofs.Text.Words
import Mathlib.Data.String.Basic

/-!
# What opens a component

A line opens a component when it makes a record, counts an occurrence or changes the
component that attributes belong to.  Only two kinds of lines do so.  A line declares
its second word if the first one is `config`, and a line right behind a blank one
whose first word only begins with `config` opens what this word goes on with.  Nothing
else ever enters the table.
-/

namespace KernelInventory
namespace Stanza

/-! ## Readers -/

/-- What a reader of stanzas is given. -/
inductive Feed
  | blank
  /-- A line to be handled, and the file that it stands in, if it is known. -/
  | line (file : Option String) (text : List Char)
deriving Repr, DecidableEq

/-- The state of a reader of stanzas, and the table that it fills. -/
structure Reader where
  state : State := {}
  table : Table := Table.empty

namespace Reader

/-- A blank line raises the flag, and every other line is read. -/
def take (reader : Reader) : Feed → Reader
  | .blank => { reader with state := { reader.state with afterBlank := true } }
  | .line file text =>
    let (state, effect) := readLine reader.state text
    ⟨state, effect.elim reader.table (Effect.apply file reader.table)⟩

/-- A fresh reader that has been given some lines. -/
def after (feeds : List Feed) : Reader :=
  feeds.foldl take {}

theorem after_snoc (feeds : List Feed) (feed : Feed) :
    after (feeds ++ [feed]) = (after feeds).take feed := by
  rw [after, List.foldl_append, List.foldl_cons, List.foldl_nil, after]

/-- The number of occurrences counted for a component. -/
def occurrencesOf (reader : Reader) (name : String) : Int :=
  (reader.table.find? name).elim 0 (·.occurrences)

/-- From one reader to the next, no record is made, no occurrence is counted, and the
component that attributes belong to stays the same. -/
structure OpensNothing (before after : Reader) : Prop where
  names : after.table.names = before.table.names
  occurrences : ∀ name, after.occurrencesOf name = before.occurrencesOf name
  current : after.state.current = before.state.current

/-- From one reader to the next, a component is opened: it stands last in the table
unless it was there, it occurs once more, and attributes belong to it.  Nothing is
said about the others. -/
structure Opens (before after : Reader) (name : String) : Prop where
  names : after.table.names =
    if name ∈ before.table.names then before.table.names
    else before.table.names ++ [name]
  occurrences : after.occurrencesOf name = before.occurrencesOf name + 1
  others : ∀ other, other ≠ name → after.table.find? other = before.table.find? other
  current : after.state.current = some name

/-- To open a component is not to open nothing. -/
theorem Opens.not_opensNothing
    {before after : Reader} {name : String}
    (opens : Opens before after name) :
    ¬ OpensNothing before after := by
  intro nothing
  have same := opens.occurrences.symm.trans (nothing.occurrences name)
  omega

/-- The flag is up exactly right behind a blank line. -/
theorem afterBlank_after (feeds : List Feed) :
    (after feeds).state.afterBlank = true ↔ feeds.getLast? = some .blank := by
  cases feeds using List.reverseRecOn with
  | nil => simp [after]
  | append_singleton feeds feed =>
      rw [after_snoc, List.getLast?_concat]
      cases feed with
      | blank => simp [take]
      | line file text => simp [take, readLine_eq]

/-- A header opens the component that it names. -/
theorem opens_of_header?
    {reader : Reader} {text : List Char} {name : String}
    (named : header? reader.state.afterBlank text = some name)
    (file : Option String) :
    Opens reader (reader.take (.line file text)) name := by
  have effect : effectOf reader.state.current reader.state.afterBlank text =
      some (.header name) := by
    rcases effectOf_cases reader.state.current reader.state.afterBlank text with
      ⟨other, same, -, effect⟩ | ⟨_, _, other, -⟩ | ⟨other, -⟩
    · rw [effect, Option.some.inj (named.symm.trans same)]
    · cases named.symm.trans other
    · cases named.symm.trans other
  have table : (reader.take (.line file text)).table =
      (Effect.header name).apply file reader.table := by
    rw [take, readLine_eq, effect]
    rfl
  refine ⟨?_, ?_, ?_, ?_⟩
  · rw [table, Effect.apply, Table.names_modify fun _ => Record.name_addOccurrence _ _,
      Table.names_ensure]
  · rw [occurrencesOf, table, Table.find?_apply_header, if_pos rfl,
      Record.addOccurrence_eq, occurrencesOf]
    cases reader.table.find? name <;> rfl
  · intro other different
    rw [table, Table.find?_apply_header, if_neg different]
  · rw [take, readLine_eq, named]
    rfl

/-- A line that is no header opens nothing. -/
theorem opensNothing_of_header?
    {reader : Reader} {text : List Char}
    (nameless : header? reader.state.afterBlank text = none)
    (file : Option String) :
    OpensNothing reader (reader.take (.line file text)) := by
  have current : (reader.take (.line file text)).state.current =
      reader.state.current := by
    rw [take, readLine_eq, nameless]
    rfl
  have table : (reader.take (.line file text)).table =
      (effectOf reader.state.current reader.state.afterBlank text).elim reader.table
        (Effect.apply file reader.table) := by
    rw [take, readLine_eq]
  rcases effectOf_cases reader.state.current reader.state.afterBlank text with
    ⟨_, named, -⟩ | ⟨owner, setting, -, -, -, effect⟩ | ⟨-, -, unchanged⟩
  · cases nameless.symm.trans named
  · rw [effect, Option.elim_some] at table
    refine ⟨?_, fun name => ?_, current⟩
    · rw [table, Effect.apply, Table.names_modify (Record.name_apply setting)]
    · rw [occurrencesOf, table, Table.find?_apply_assign, occurrencesOf]
      cases reader.table.find? name with
      | none => rfl
      | some record =>
          dsimp only [Option.map_some, Option.elim_some]
          split
          · cases setting <;> rfl
          · rfl
  · rw [unchanged] at table
    exact ⟨by rw [table], fun name => by rw [occurrencesOf, table,
      occurrencesOf], current⟩

end Reader

/-! ## The words of a header -/

/-- A line declares a component: its first word is `config`, and its
second one the component. -/
def Declares (line : List Char) (name : String) : Prop :=
  ∃ others, Text.words line = "config".toList :: name.toList :: others

/-- The first word of a line begins with `config` and goes on with some name. -/
def RunsOn (line : List Char) (name : String) : Prop :=
  name ≠ "" ∧ ∃ others, Text.words line = ("config".toList ++ name.toList) :: others

theorem solid_config : Text.Solid "config".toList := by
  decide

theorem words_config : Text.words "config".toList = ["config".toList] :=
  Text.words_of_solid (by decide) solid_config

/-- A line starts with its first word, unless it starts with a blank. -/
theorem prefix_of_words
    {line word : List Char} {others : List (List Char)}
    (begins : ∀ c ∈ line.head?, Text.isBlank c = false)
    (split : Text.words line = word :: others) :
    word <+: line := by
  have nonempty : line ≠ [] := by
    rintro rfl
    cases split
  obtain ⟨first, rest, rfl, filled, solid, breaks⟩ :=
    Text.exists_word_of_head nonempty begins
  rw [Text.words_append_of_breaks filled solid breaks] at split
  obtain ⟨rfl, -⟩ := List.cons.inj split
  exact List.prefix_append first rest

/-- The name of a header is the first word behind `config`. -/
theorem headerName?_append (rest : List Char) :
    headerName? ("config".toList ++ rest) = (Text.words rest).head?.map
      String.ofList := by
  rw [headerName?, Field.after_of_prefix (List.prefix_append _ _), List.drop_left,
    Text.words_trim]

/-- Behind a blank, the words go on as before. -/
theorem words_config_append_blank {c : Char} (blank : Text.isBlank c = true)
    (rest : List Char) :
    Text.words ("config".toList ++ c :: rest) = "config".toList :: Text.words rest := by
  rw [Text.words_append_blank blank, words_config]
  rfl

/-- A line that starts with `config` names the component that it declares, or what its
first word goes on with. -/
theorem headerName?_eq_some_iff
    {line : List Char}
    (starts : startsWith "config" line = true)
    (name : String) :
    headerName? line = some name ↔ Declares line name ∨ RunsOn line name := by
  obtain ⟨rest, rfl⟩ := List.isPrefixOf_iff_prefix.mp starts
  rw [headerName?_append, Declares, RunsOn]
  cases rest with
  | nil =>
      rw [List.append_nil, words_config]
      simp
  | cons c others =>
      cases blank : Text.isBlank c with
      | true =>
          rw [words_config_append_blank blank, Text.words_cons_blank blank]
          cases Text.words others <;> simp [String.ofList_eq]
      | false =>
          obtain ⟨word, behind, filled, split, joined⟩ :=
            Text.words_append_of_solid solid_config (List.cons_ne_nil c others)
              (by simpa using blank)
          rw [split, joined]
          constructor
          · intro named
            obtain rfl : String.ofList word = name := by simpa using named
            exact Or.inr ⟨by simpa [String.ofList_eq] using filled, behind, by simp⟩
          · rintro (⟨_, declared⟩ | ⟨-, _, same⟩)
            · exact absurd (List.append_right_eq_self.mp (List.cons.inj declared).1)
                filled
            · have inWord := List.append_cancel_left (List.cons.inj same).1
              simp [inWord]

/-- A line opens a component behind some lines: it declares it, with a space
behind `config` or right behind a blank line, or its first word goes on with it,
right behind a blank line. -/
def Heads (earlier : List Feed) (line : List Char) (name : String) : Prop :=
  Declares line name ∧
    (startsWith "config " line = true ∨ earlier.getLast? = some .blank) ∨
    RunsOn line name ∧ earlier.getLast? = some .blank

/-- A line whose words name a component starts with `config`. -/
theorem startsWith_config_of_words
    {line : List Char} {name : String}
    (begins : ∀ c ∈ line.head?, Text.isBlank c = false)
    (worded : Declares line name ∨ RunsOn line name) :
    startsWith "config" line = true := by
  rw [startsWith, List.isPrefixOf_iff_prefix]
  rcases worded with ⟨others, split⟩ | ⟨-, others, split⟩
  · exact prefix_of_words begins split
  · exact (List.prefix_append _ _).trans (prefix_of_words begins split)

/-- With a space behind `config`, the first word of a line ends there. -/
theorem not_runsOn_of_space
    {line : List Char}
    (space : startsWith "config " line = true)
    (name : String) :
    ¬ RunsOn line name := by
  rintro ⟨nonempty, others, split⟩
  obtain ⟨rest, rfl⟩ := List.isPrefixOf_iff_prefix.mp space
  have first : Text.words ("config ".toList ++ rest) =
      "config".toList :: Text.words rest :=
    words_config_append_blank (by decide) rest
  rw [first] at split
  have longer := congrArg List.length (List.cons.inj split).1
  exact nonempty (by simpa using longer)

/-- Headers are told by their words. -/
theorem header?_after_eq_some_iff
    {line : List Char}
    (begins : ∀ c ∈ line.head?, Text.isBlank c = false)
    (earlier : List Feed)
    (name : String) :
    header? (Reader.after earlier).state.afterBlank line = some name ↔
      Heads earlier line name := by
  rw [Heads, ← Reader.afterBlank_after]
  generalize (Reader.after earlier).state.afterBlank = flag
  have headed : header? flag line = some name ↔
      (startsWith "config " line = true ∨ flag = true ∧
        startsWith "config" line = true) ∧
        headerName? line = some name := by
    simp [header?, isHeader, startsWith]
  rw [headed]
  constructor
  · rintro ⟨space | ⟨up, bare⟩, named⟩
    · have spaceHeader : isHeader false line = true := by
        rw [isHeader, Bool.or_eq_true]
        exact Or.inl space
      have config := startsWith_config_of_isHeader spaceHeader
      rcases (headerName?_eq_some_iff config name).mp named with declared | runsOn
      · exact Or.inl ⟨declared, Or.inl space⟩
      · exact absurd runsOn (not_runsOn_of_space space name)
    · rcases (headerName?_eq_some_iff bare name).mp named with declared | runsOn
      · exact Or.inl ⟨declared, Or.inr up⟩
      · exact Or.inr ⟨runsOn, up⟩
  · rintro (⟨declared, allowed⟩ | ⟨runsOn, up⟩)
    · have config := startsWith_config_of_words begins (Or.inl declared)
      exact ⟨allowed.imp_right fun up => ⟨up, config⟩,
        (headerName?_eq_some_iff config name).mpr (Or.inl declared)⟩
    · have config := startsWith_config_of_words begins (Or.inr runsOn)
      exact ⟨Or.inr ⟨up, config⟩,
        (headerName?_eq_some_iff config name).mpr (Or.inr runsOn)⟩

/-! ## The components of a table -/

/-- A line is handed on as the reader of a file does: without blanks around it,
neither blank nor a comment. -/
def Feed.Proper : Feed → Prop
  | .blank => True
  | .line _ text => Text.trim text = text ∧ text ≠ [] ∧ text.head? ≠ some '#'

instance : DecidablePred Feed.Proper
  | .blank => isTrue trivial
  | .line _ text =>
    inferInstanceAs
      (Decidable (Text.trim text = text ∧ text ≠ [] ∧ text.head? ≠ some '#'))

theorem Feed.Proper.begins
    {file : Option String} {text : List Char}
    (proper : (Feed.line file text).Proper) :
    ∀ c ∈ text.head?, Text.isBlank c = false :=
  proper.1 ▸ Text.head?_trim text

/-- A line opens exactly the component that it heads, if there is one. -/
theorem take_opens_or_not
    {line : List Char}
    (begins : ∀ c ∈ line.head?, Text.isBlank c = false)
    (earlier : List Feed)
    (file : Option String) :
    (∃ name, Heads earlier line name ∧
        Reader.Opens (.after earlier) ((Reader.after earlier).take (.line file line))
          name) ∨
      (∀ name, ¬ Heads earlier line name) ∧
        Reader.OpensNothing (.after earlier)
          ((Reader.after earlier).take (.line file line)) := by
  have heads := header?_after_eq_some_iff begins earlier
  cases named : header? (Reader.after earlier).state.afterBlank line with
  | some name =>
      exact Or.inl ⟨name, (heads name).mp named, Reader.opens_of_header? named file⟩
  | none =>
      refine Or.inr ⟨fun name headed => ?_, Reader.opensNothing_of_header? named file⟩
      cases named.symm.trans ((heads name).mpr headed)

/-- A line that heads a component opens it. -/
theorem opens_of_heads
    {line : List Char} {earlier : List Feed} {name : String}
    (begins : ∀ c ∈ line.head?, Text.isBlank c = false)
    (heads : Heads earlier line name)
    (file : Option String) :
    Reader.Opens (.after earlier) ((Reader.after earlier).take (.line file line))
      name :=
  Reader.opens_of_header? ((header?_after_eq_some_iff begins earlier name).mpr heads)
    file

/-- A line heads at most one component. -/
theorem Heads.unique
    {line : List Char} {earlier : List Feed} {name other : String}
    (begins : ∀ c ∈ line.head?, Text.isBlank c = false)
    (heads : Heads earlier line name)
    (also : Heads earlier line other) :
    name = other := by
  have opened := (opens_of_heads begins heads none).current
  exact Option.some.inj (opened.symm.trans (opens_of_heads begins also none).current)

/-- The lines that head a component among some lines and one more are those among the
others, and the last one if it does. -/
theorem exists_heads_snoc_iff (feeds : List Feed) (feed : Feed) (name : String) :
    (∃ earlier file line,
      (earlier, Feed.line file line) ∈ withPast [] (feeds ++ [feed]) ∧
        Heads earlier line name) ↔
      (∃ earlier file line, (earlier, Feed.line file line) ∈ withPast [] feeds ∧
        Heads earlier line name) ∨
        ∃ file line, Feed.line file line = feed ∧ Heads feeds line name := by
  simp only [withPast_append, List.nil_append, withPast_cons, withPast_nil,
    List.mem_append, List.mem_singleton, Prod.mk.injEq, or_and_right, exists_or]
  refine or_congr_right ⟨?_, ?_⟩
  · rintro ⟨_, file, line, ⟨rfl, same⟩, heads⟩
    exact ⟨file, line, same, heads⟩
  · rintro ⟨file, line, same, heads⟩
    exact ⟨feeds, file, line, ⟨rfl, same⟩, heads⟩

/-- The components of a table are those that some line has headed. -/
theorem mem_names_after_iff
    {feeds : List Feed}
    (proper : ∀ feed ∈ feeds, feed.Proper)
    (name : String) :
    name ∈ (Reader.after feeds).table.names ↔
      ∃ earlier file line, (earlier, Feed.line file line) ∈ withPast [] feeds ∧
        Heads earlier line name := by
  -- from behind: what a line heads depends on the lines in front of it
  induction feeds using List.reverseRecOn with
  | nil => simp [Reader.after]
  | append_singleton feeds feed inductionHypothesis =>
      rw [List.forall_mem_append, List.forall_mem_singleton] at proper
      rw [exists_heads_snoc_iff, ← inductionHypothesis proper.1, Reader.after_snoc]
      cases feed with
      | blank => simp [Reader.take]
      | line file text =>
          have here : (∃ other line, Feed.line other line = .line file text ∧
              Heads feeds line name) ↔ Heads feeds text name := by
            simp
          rw [here]
          rcases take_opens_or_not proper.2.begins feeds file with
            ⟨opened, heads, opens⟩ | ⟨headless, nothing⟩
          · have only : Heads feeds text name ↔ name = opened :=
              ⟨fun also => also.unique proper.2.begins heads, fun same => same ▸ heads⟩
            rw [only, opens.names]
            split
            next known =>
              exact ⟨Or.inl, fun either => either.elim id fun same => same ▸ known⟩
            · rw [List.mem_append, List.mem_singleton]
          · rw [nothing.names]
            simp [headless]

/-- From the lines that a fresh reader is given, a component is opened by exactly those
that head it, and the table has exactly these components: a line heads its second word
behind `config`, and right behind a blank line it heads what its first word goes on
with behind `config`. -/
theorem components_opened
    {feeds : List Feed}
    (proper : ∀ feed ∈ feeds, feed.Proper) :
    (∀ earlier file line, (earlier, Feed.line file line) ∈ withPast [] feeds →
      (¬ Reader.OpensNothing (.after earlier) (.after (earlier ++ [.line file line])) ↔
          ∃ name, Heads earlier line name) ∧
        ∀ name, Heads earlier line name →
          Reader.Opens (.after earlier) (.after (earlier ++ [.line file line])) name) ∧
      ∀ name, name ∈ (Reader.after feeds).table.names ↔
        ∃ earlier file line, (earlier, Feed.line file line) ∈ withPast [] feeds ∧
          Heads earlier line name := by
  refine ⟨?_, mem_names_after_iff proper⟩
  intro earlier file line member
  have begins := (proper _ (mem_of_mem_withPast member)).begins
  rw [Reader.after_snoc]
  refine ⟨⟨fun opens => ?_, ?_⟩, fun name heads => opens_of_heads begins heads file⟩
  · rcases take_opens_or_not begins earlier file with ⟨name, heads, -⟩ | ⟨-, nothing⟩
    · exact ⟨name, heads⟩
    · exact absurd nothing opens
  · rintro ⟨name, heads⟩
    exact (opens_of_heads begins heads file).not_opensNothing

/-- Prose behind a blank line, and headers with a tab. -/
def proseFeeds : List Feed :=
  [.line none "config A".toList, .line none "config\tLOST".toList, .blank,
    .line none "configuration of B".toList, .blank, .line none "config\tC".toList]

/-- The prose opens a component that nobody has declared, and the header with a tab
opens its own only right behind a blank line. -/
theorem components_opened_prose :
    (∀ feed ∈ proseFeeds, feed.Proper) ∧
      (Reader.after proseFeeds).table.names = ["A", "uration", "C"] ∧
      (∃ earlier file line, (earlier, Feed.line file line) ∈ withPast [] proseFeeds ∧
        Heads earlier line "uration") ∧
      ¬ ∃ earlier file line, (earlier, Feed.line file line) ∈ withPast [] proseFeeds ∧
        Heads earlier line "LOST" := by
  have proper : ∀ feed ∈ proseFeeds, feed.Proper := by
    decide
  have names : (Reader.after proseFeeds).table.names = ["A", "uration", "C"] := by
    rfl
  obtain ⟨-, opened⟩ := components_opened proper
  refine ⟨proper, names, (opened "uration").mp ?_, fun lost => ?_⟩
  · rw [names]
    decide
  · have listed := (opened "LOST").mpr lost
    rw [names] at listed
    exact absurd listed (by decide)

/-- It does not hold that lines open nothing but what they declare. -/
theorem not_all_openings_declared :
    ¬ ∀ feeds : List Feed, (∀ feed ∈ feeds, feed.Proper) →
      (∀ earlier file line, (earlier, Feed.line file line) ∈ withPast [] feeds →
        ¬ Reader.OpensNothing (.after earlier) (.after (earlier ++ [.line file line])) →
          ∃ name, Declares line name ∧
            Reader.Opens (.after earlier) (.after (earlier ++ [.line file line]))
              name) ∧
        ∀ name ∈ (Reader.after feeds).table.names,
          ∃ file line, Feed.line file line ∈ feeds ∧ Declares line name := by
  intro claimed
  have names :
      (Reader.after [.blank, .line none "configuration of A".toList]).table.names =
      ["uration"] := by
    rfl
  obtain ⟨-, declared⟩ :=
    claimed [.blank, .line none "configuration of A".toList] (by decide)
  obtain ⟨file, line, member, others, split⟩ :=
    declared "uration" (by rw [names]; decide)
  obtain ⟨-, rfl⟩ : file = none ∧ line = "configuration of A".toList := by
    simpa using member
  have words : Text.words "configuration of A".toList =
      ["configuration".toList, "of".toList, "A".toList] := by
    rfl
  rw [words] at split
  exact absurd (List.cons.inj split).1 (by decide)

end Stanza
end KernelInventory
