import KernelInventory.Proofs.Resolution.Ownership
import Mathlib.Data.List.Perm.Basic

/-!
# Counting headers

Which lines of a file are headers depends on the text of the file and on whether help is
skipped, and on nothing that happens around the file.  The headers that a run handles
are therefore those of the files that it reads, and a file that is read several times
counts as often.  Only their order is another one: the headers of a sourced file stand
between those of the file that sources it.
-/

namespace KernelInventory
namespace Resolution

/-- The components that the headers of a file name, in order. -/
def headersAt (tree : FileTree) (skipping : Bool) (file : Path) : List String :=
  match tree.readAt file.names with
  | .ok bytes => Stanza.headerNames skipping (linesOf bytes)
  | .error _ => []

/-- The headers of files, each with its file. -/
def headersOf (tree : FileTree) (skipping : Bool) (files : List Path) :
    List (Path × String) :=
  files.flatMap fun file => (headersAt tree skipping file).map (Prod.mk file)

/-- How often the headers of files name a component; a file that is
listed again counts again. -/
def headerCount (tree : FileTree) (skipping : Bool) (files : List Path)
    (name : String) : Nat :=
  tally (fun file => (headersAt tree skipping file).count name) files

/-- The headers among handled lines, each with its file. -/
def headersIn (log : List Handled) : List (Path × String) :=
  log.filterMap fun handled => handled.header?.map (Prod.mk handled.file.path)

/-- The components that headers name are counted file by file. -/
theorem count_headersOf (tree : FileTree) (skipping : Bool) (files : List Path)
    (name : String) :
    ((headersOf tree skipping files).map Prod.snd).count name =
      headerCount tree skipping files name := by
  induction files with
  | nil => rfl
  | cons file rest inductionHypothesis =>
      have names : ((headersAt tree skipping file).map (Prod.mk file)).map Prod.snd =
          headersAt tree skipping file := by
        simp [Function.comp_def]
      rw [headersOf, List.flatMap_cons, List.map_append, List.count_append, names,
        headerCount, tally_cons]
      exact congrArg _ inductionHypothesis

theorem mem_headersOf_iff
    {tree : FileTree} {skipping : Bool} {files : List Path} {file : Path}
    {name : String} :
    (file, name) ∈ headersOf tree skipping files ↔
      file ∈ files ∧ name ∈ headersAt tree skipping file := by
  simp [headersOf]

theorem namesIn_eq (log : List Handled) :
    namesIn log = (headersIn log).map Prod.snd := by
  rw [headersIn, List.map_filterMap, namesIn]
  congr 1
  funext handled
  cases handled.header? <;> rfl

theorem mem_filesNaming_iff {name path : String} {log : List Handled} :
    path ∈ filesNaming name log ↔
      ∃ file, file.toString = path ∧ (file, name) ∈ headersIn log := by
  simp only [filesNaming, headersIn, List.mem_map, List.mem_filter, List.mem_filterMap,
    decide_eq_true_iff, Option.map_eq_some_iff, Prod.mk.injEq]
  constructor
  · rintro ⟨handled, ⟨member, named⟩, rfl⟩
    exact ⟨_, rfl, handled, member, name, named, rfl, rfl⟩
  · rintro ⟨file, rfl, handled, member, _, named, rfl, rfl⟩
    exact ⟨handled, ⟨member, named⟩, rfl⟩

section Visit

variable {tree : FileTree} {settings : Settings} {root : Path}

/-- The headers that a line stands for are itself, if it is one, and those of the files
that are opened for it, if this holds of the visit that the line can start. -/
theorem headersIn_handledAt
    {chain : List Location}
    (nested : ∀ text target content,
      aim tree settings root chain text = .follow target content →
      ∀ trail,
        (headersIn
          (handledIn tree settings root (target :: chain) trail target content)).Perm
            (headersOf tree settings.skipHelp
              ((visit tree settings root (target :: chain) target content).filterMap
                Event.file?)))
    (trail : List Nat)
    (file : Location)
    (past : List Stanza.Reading)
    (reading : Stanza.Reading) :
    (headersIn (handledAt tree settings root chain trail file past reading)).Perm
      (((reading.header? past).map (Prod.mk file.path)).toList ++
        headersOf tree settings.skipHelp
          ((lineEvents tree settings root chain file past reading).filterMap
            Event.file?)) := by
  obtain ⟨kind, line⟩ := reading
  unfold handledAt lineEvents Stanza.Reading.toEntry Stanza.Reading.header?
  cases kind with
  | comment | blank | help => exact List.Perm.refl _
  | stanza =>
      have opensNothing : ∀ effect : Option Stanza.Effect,
          ((effect.map Stanza.Entry.effect).toList.flatMap
            (entryEvents tree settings root chain file)).filterMap
              Event.file? = [] := by
        intro effect
        cases effect <;> rfl
      simp only [opensNothing]
      cases named : Stanza.header? (Stanza.flagAfter past) line <;>
        simp [headersIn, headersOf, Handled.header?, named]
  | source text =>
      dsimp only
      rw [Option.toList_some, List.flatMap_singleton, entryEvents]
      cases aimed : aim tree settings root chain text with
      | follow target content =>
          rw [filterMap_sourceEvents_of_follow aimed rfl rfl]
          exact nested text target content aimed (trail ++ [past.length])
      | filtered _ | skipped _ | locked _ _ | fault _ =>
          rw [sourceEvents, aimed]
          exact List.Perm.refl _

/-- The headers that are handled in a visit are, up to their order, those of the files
that are opened in it. -/
theorem headersIn_handledIn
    (chain : List Location) (trail : List Nat) {file : Location} {bytes : List UInt8}
    (readable : tree.readAt file = .ok bytes) :
    (headersIn (handledIn tree settings root chain trail file bytes)).Perm
      (headersOf tree settings.skipHelp
        ((visit tree settings root chain file bytes).filterMap Event.file?)) := by
  induction chain using @chain_induction tree settings root generalizing trail file
    bytes with
  | step chain inductionHypothesis =>
      have lines := fun pair : List Stanza.Reading × Stanza.Reading =>
        headersIn_handledAt
          (fun text target content followed trail =>
            inductionHypothesis text target content followed trail
              (FileTree.readAt_of_openAt (of_aim_follow followed).2))
          trail file pair.1 pair.2
      have own : (headersAt tree settings.skipHelp file.path).map (Prod.mk file.path) =
          (withPast [] (Stanza.readings settings.skipHelp (linesOf bytes))).flatMap
            fun pair =>
            ((pair.2.header? pair.1).map (Prod.mk file.path)).toList := by
        rw [headersAt, Location.path, readable, ← List.filterMap_eq_flatMap_toList]
        exact List.map_filterMap
      have opened : headersOf tree settings.skipHelp
          ((visit tree settings root chain file bytes).filterMap Event.file?) =
          (headersAt tree settings.skipHelp file.path).map (Prod.mk file.path) ++
            (withPast [] (Stanza.readings settings.skipHelp (linesOf bytes))).flatMap
              fun pair =>
              headersOf tree settings.skipHelp
                ((lineEvents tree settings root chain file pair.1 pair.2).filterMap
                  Event.file?) := by
        rw [visit_eq_lines, List.filterMap_cons, List.filterMap_flatMap, headersOf]
        simp [Event.file?, headersOf, List.flatMap_assoc]
      rw [handledIn_eq, headersIn, List.filterMap_flatMap, opened, own]
      exact (List.Perm.flatMap_left _ fun pair _ => lines pair).trans
        (List.flatMap_append_perm _ _ _).symm

/-- The files that are opened in a visit can be read. -/
theorem readable_of_mem_visit
    (chain : List Location) {file : Location} {bytes : List UInt8}
    (readable : tree.readAt file = .ok bytes)
    {path : Path}
    (member : path ∈ (visit tree settings root chain file bytes).filterMap
      Event.file?) :
    ∃ content, tree.readAt path.names = .ok content := by
  induction chain using @chain_induction tree settings root generalizing file bytes with
  | step chain inductionHypothesis =>
      rw [visit_eq_entries, List.filterMap_cons, List.filterMap_flatMap,
        Event.file?] at member
      rcases List.mem_cons.mp member with rfl | nested
      · exact ⟨bytes, readable⟩
      · obtain ⟨stanzaEntry, -, here⟩ := List.mem_flatMap.mp nested
        cases stanzaEntry with
        | effect change => cases here
        | source text =>
            rw [entryEvents] at here
            cases aimed : aim tree settings root chain text with
            | follow target content =>
                rw [filterMap_sourceEvents_of_follow aimed rfl rfl] at here
                exact inductionHypothesis text target content aimed
                  (FileTree.readAt_of_openAt (of_aim_follow aimed).2) here
            | filtered _ | skipped _ | locked _ _ | fault _ =>
                rw [sourceEvents, aimed] at here
                cases here

end Visit

section Run

variable {tree : FileTree} {settings : Settings} {entry : Path} {result : Result}

/-- The files that a run reads can be read. -/
theorem readable_of_mem_files
    (returned : (run tree settings entry).1 = .ok result)
    {path : Path}
    (member : path ∈ result.files) :
    ∃ bytes, tree.readAt path.names = .ok bytes := by
  obtain ⟨file, bytes, opened, -, rfl⟩ := run_eq_ok_iff.mp returned
  have readable := FileTree.readAt_of_openAt (openEntry_eq_ok_iff.mp opened).2
  exact readable_of_mem_visit [file] readable member

/-- The headers that a run handles are, up to their order, those of the files that it
reads. -/
theorem headersIn_processed (returned : (run tree settings entry).1 = .ok result) :
    (headersIn (processed tree settings entry)).Perm
      (headersOf tree settings.skipHelp result.files) := by
  obtain ⟨file, bytes, opened, -, rfl⟩ := run_eq_ok_iff.mp returned
  rw [processed, opened]
  exact headersIn_handledIn [file] []
    (FileTree.readAt_of_openAt (openEntry_eq_ok_iff.mp opened).2)

theorem count_namesIn_processed
    (returned : (run tree settings entry).1 = .ok result) (name : String) :
    (namesIn (processed tree settings entry)).count name =
      headerCount tree settings.skipHelp result.files name := by
  have names := (headersIn_processed returned).map Prod.snd
  rw [namesIn_eq, names.count_eq, count_headersOf]

/-- The headers of a run are accounted for by the files that it reads, each as often as
it is read. A component occurs as often as their headers name it, and has a record if
they do at all; the table names the components in the order in which their first headers
are handled; and the files of a record are those with a header for it. -/
theorem headers_accounted (returned : (run tree settings entry).1 = .ok result) :
    (∀ file ∈ result.files, ∃ bytes, tree.readAt file.names = .ok bytes) ∧
      result.table.names = (namesIn (processed tree settings entry)).eraseDups ∧
      result.table.names.Nodup ∧
      ∀ name,
        (result.table.contains name = true ↔
          1 ≤ headerCount tree settings.skipHelp result.files name) ∧
        ∀ record, result.table.find? name = some record →
          record.occurrences = headerCount tree settings.skipHelp result.files name ∧
          record.files.Nodup ∧
          ∀ path, path ∈ record.files ↔
            ∃ file ∈ result.files,
              file.toString = path ∧ name ∈ headersAt tree settings.skipHelp file := by
  have names :
      result.table.names = (namesIn (processed tree settings entry)).eraseDups := by
    rw [table_eq_tableFor returned, tableFor, Table.names_ofNames (name_recordOf _)]
  refine ⟨fun _ member => readable_of_mem_files returned member, names,
    names ▸ nodup_eraseDups _, ?_⟩
  intro name
  have counted := count_namesIn_processed returned name
  refine ⟨?_, ?_⟩
  · rw [Table.contains_iff_mem_names, names, List.mem_eraseDups, ← counted]
    exact List.count_pos_iff.symm
  · intro record found
    rw [table_eq_tableFor returned] at found
    obtain ⟨-, rfl⟩ := find?_tableFor found
    refine ⟨congrArg Nat.cast counted, nodup_eraseDups _, ?_⟩
    intro path
    calc path ∈ (recordOf (processed tree settings entry) name).files
        ↔ path ∈ filesNaming name (processed tree settings entry) := List.mem_eraseDups
      _ ↔ ∃ file, file.toString = path ∧
            (file, name) ∈ headersIn (processed tree settings entry) :=
              mem_filesNaming_iff
      _ ↔ ∃ file, file.toString = path ∧
            (file, name) ∈ headersOf tree settings.skipHelp result.files := by
          simp only [(headersIn_processed returned).mem_iff]
      _ ↔ ∃ file ∈ result.files,
            file.toString = path ∧ name ∈ headersAt tree settings.skipHelp file := by
          simp only [mem_headersOf_iff]
          constructor
          · rintro ⟨file, written, read, named⟩
            exact ⟨file, read, written, named⟩
          · rintro ⟨file, read, written, named⟩
            exact ⟨file, written, read, named⟩

/-- A component that both files of a run name occurs twice and keeps both files. -/
theorem headers_accounted_nested :
    ∃ result,
      (run nestedTree nestedSettings ⟨.working, ["out"]⟩).1 = .ok result ∧
        result.files.length = 2 ∧
        (result.table.find? "A").map (·.occurrences) = some 2 ∧
        headerCount nestedTree nestedSettings.skipHelp result.files "A" = 2 := by
  obtain ⟨-, -, -, accounted⟩ := headers_accounted run_nested
  have counted := ((accounted "A").2 _ find?_nested).1
  refine ⟨_, run_nested, rfl, ?_, ?_⟩
  · rw [find?_nested]
    rfl
  · exact (Int.ofNat.inj counted).symm

end Run

end Resolution
end KernelInventory
