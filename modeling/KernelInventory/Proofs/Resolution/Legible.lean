import KernelInventory.Proofs.FileTree.Legible
import KernelInventory.Proofs.Resolution.Escape
import KernelInventory.Proofs.Resolution.Shape
import KernelInventory.Proofs.Text.Lines

/-!
# Resolutions in legible trees

The target of a `source` line stands in the text of its file.  So in a legible tree no
target holds NUL, and a resolution whose entry path and root hold none either returns,
or its entry file is refused: nothing escapes it.
-/

namespace KernelInventory

namespace Stanza

/-- The target of a `source` line stands in the line. -/
theorem mem_of_mem_source?
    {skipping : Bool} {help : State} {raw : List Char} {target : String} {c : Char}
    (sourced : (readingOf skipping help raw).2.source? = some target)
    (member : c ∈ target.toList) :
    c ∈ raw := by
  rw [source?_readingOf] at sourced
  split at sourced
  next starts =>
    obtain rfl := Option.some.inj sourced
    rw [Field.quotedAfter,
      Field.after_of_prefix (List.isPrefixOf_iff_prefix.mp starts.1),
      String.toList_ofList] at member
    have inRest :=
      (Text.trim_isInfix _).subset ((Text.dropEndsWhile_isInfix _ _).subset member)
    exact (Text.trim_isInfix raw).subset (List.mem_of_mem_drop inRest)
  · cases sourced

theorem exists_line_of_mem_sources
    {skipping : Bool} {lines : List (List Char)} {target : String} {c : Char}
    (sourced : target ∈ sources skipping lines)
    (member : c ∈ target.toList) :
    ∃ raw ∈ lines, c ∈ raw := by
  obtain ⟨reading, inFile, isSource⟩ := List.mem_filterMap.mp sourced
  clear sourced
  rw [readings] at inFile
  generalize ({} : State) = help at inFile
  induction lines generalizing help with
  | nil => cases inFile
  | cons raw rest inductionHypothesis =>
      rcases List.mem_cons.mp inFile with rfl | later
      · exact ⟨raw, List.mem_cons_self, mem_of_mem_source? isSource member⟩
      · obtain ⟨other, inRest, inLine⟩ := inductionHypothesis _ later
        exact ⟨other, List.mem_cons_of_mem raw inRest, inLine⟩

end Stanza

namespace Resolution

section Sources

variable {tree : FileTree} {settings : Settings} {root : Path}

/-- No `source` line of a text without NUL has a target that holds it. -/
theorem plain_of_mem_sources
    {bytes : List UInt8} {skipping : Bool} {target : String}
    (plain : '\x00' ∉ Text.Utf8.decode bytes)
    (sourced : target ∈ Stanza.sources skipping (linesOf bytes)) :
    '\x00' ∉ target.toList := by
  intro holds
  obtain ⟨line, part, inLine⟩ := Stanza.exists_line_of_mem_sources sourced holds
  exact plain (Text.mem_of_mem_lines part inLine)

/-- In a legible tree, no `source` line that is processed has a target that holds
NUL. -/
theorem plain_of_mem_sourcingsIn
    (legible : tree.Legible)
    (chain : List Location) {file : Location} {bytes : List UInt8} {line : Sourcing}
    (plain : '\x00' ∉ Text.Utf8.decode bytes)
    (member : line ∈ sourcingsIn tree settings root chain file bytes) :
    '\x00' ∉ line.target.toList := by
  induction chain using @chain_induction tree settings root generalizing file bytes with
  | step chain inductionHypothesis =>
      rw [sourcingsIn_eq] at member
      obtain ⟨text, sourced, here⟩ := List.mem_flatMap.mp member
      rcases List.mem_cons.mp here with rfl | behind
      · exact plain_of_mem_sources plain sourced
      · unfold sourcingsBehind at behind
        split at behind
        next target content aimed =>
          exact inductionHypothesis text target content aimed
            (legible.plain_of_readAt
              (FileTree.readAt_of_openAt (of_aim_follow aimed).2)) behind
        · cases behind

end Sources

section Run

variable {tree : FileTree} {settings : Settings} {entry : Path} {result : Result}

/-- Nothing escapes a resolution in a legible tree. -/
theorem run_ne_fault
    (legible : tree.Legible)
    (plainEntry : entry.hasNull = false)
    (plainRoot : (chooseRoot tree settings entry).1.hasNull = false)
    (failure : FileFailure) :
    (run tree settings entry).1 ≠ .error (.fault failure) := by
  intro escaped
  rcases (run_eq_fault_iff plainEntry legible.plainLinks).mp escaped with
    ⟨place, rfl, looped⟩ | ⟨-, line, member, located⟩
  · rcases legible.realLocation_error_cases looped with ⟨_, _, same⟩ | same
    · cases same
    · cases same
  · have plain : '\x00' ∉ line.target.toList := by
      unfold sourcings at member
      split at member
      · cases member
      next file bytes opened =>
        have readable := FileTree.readAt_of_openAt (openEntry_eq_ok_iff.mp opened).2
        exact plain_of_mem_sourcingsIn legible _
          (legible.plain_of_readAt readable) member
    rcases Path.hasNull_or_of_hasNull_div
      (FileTree.hasNull_of_realLocation legible.plainLinks located) with inRoot |
        inTarget
    · rw [plainRoot] at inRoot
      cases inRoot
    · exact plain (Path.mem_of_hasNull_ofString inTarget)

/-- A directory that is found by its name above a file holds no NUL, unless the path of
the file or of the working directory does. -/
theorem noNull_of_findKernelRoot
    (legible : tree.Legible)
    (plainEntry : entry.hasNull = false)
    {version : String} {root : Path}
    (found : findKernelRoot tree entry version = some root) :
    root.hasNull = false := by
  have plainHome : tree.home.hasNull = false := by
    rw [← Bool.not_eq_true, Path.hasNull_iff]
    rintro ⟨name, member, holds⟩
    exact legible.plainNames _ List.mem_cons_self name member holds
  have above : ∃ count, root = ⟨(entry.absolute tree.home).anchor,
      (entry.absolute tree.home).names.take count⟩ := by
    obtain ⟨count, -, same⟩ := List.mem_map.mp (List.mem_of_find?_eq_some found)
    exact ⟨count, same.symm⟩
  obtain ⟨count, rfl⟩ := above
  rw [← Bool.not_eq_true, Path.hasNull_iff]
  rintro ⟨name, member, holds⟩
  have inEntry : (tree.home / entry).hasNull = true :=
    Path.hasNull_iff.mpr ⟨name, List.mem_of_mem_take member, holds⟩
  rcases Path.hasNull_or_of_hasNull_div inEntry with inHome | inEntry
  · rw [plainHome] at inHome
    cases inHome
  · rw [plainEntry] at inEntry
    cases inEntry

/-- The directories of a result are those of entries. -/
theorem noNull_of_mem_sourceDirectories
    (legible : tree.Legible)
    (returned : (run tree settings entry).1 = .ok result)
    {directory : Path}
    (listed : directory ∈ result.sourceDirectories) :
    directory.hasNull = false := by
  obtain ⟨file, bytes, -, -, -, directories, -⟩ := result_of_sourcings returned
  obtain ⟨target, member, rfl⟩ := List.mem_map.mp ((directories directory).mp listed)
  obtain ⟨line, -, opened⟩ := exists_opened_of_mem_targets member
  obtain ⟨⟨-, bytes, regular⟩, -⟩ := readable_of_outcome opened
  rw [← Bool.not_eq_true, Path.hasNull_iff]
  rintro ⟨name, inPath, holds⟩
  have nonempty : target ≠ [] := by
    rintro rfl
    cases regular
  exact legible.plainNames target
    (List.mem_cons_of_mem _ (FileTree.mem_locations_of_node? nonempty regular)) name
    (List.mem_of_mem_dropLast inPath) holds

end Run
end Resolution
end KernelInventory
