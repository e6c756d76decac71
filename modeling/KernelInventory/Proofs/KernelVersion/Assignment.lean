import KernelInventory.KernelVersion
import KernelInventory.Proofs.FileTree.AtPath
import KernelInventory.Proofs.Text.Words
import Mathlib

/-!
# Assignments in a makefile

A line assigns a value to at most one of the variables of a version, and never an empty
value: trimming a line takes the space behind the equals sign away unless something else
follows.  So a version is made of the values that are assigned last, whatever other
lines stand around them and in which order the variables come.
-/

namespace KernelInventory
namespace KernelVersion

/-! ## Lines -/

/-- What an assignment to a variable begins with. -/
def lead (key : String) : List Char := (key ++ " = ").toList

/-- A line assigns a value to a variable: it is no comment and, blanks around it apart,
begins with the variable and an equals sign between spaces. -/
def Assigns (key : String) (line : List Char) : Prop :=
  (Text.trim line).head? ≠ some '#' ∧ lead key <+: Text.trim line

instance (key : String) (line : List Char) : Decidable (Assigns key line) :=
  inferInstanceAs (Decidable (_ ∧ _))

/-- What is left of a line behind the equals sign, without the blanks around it. -/
def assignedValue (key : String) (line : List Char) : String :=
  String.ofList (Text.trim ((Text.trim line).drop (lead key).length))

theorem assigned?_eq (key : String) (line : List Char) :
    assigned? key line = if Assigns key line then some (assignedValue key line)
    else none := by
  have starts : (key ++ " = ").toList.isPrefixOf (Text.trim line) = true ↔
      lead key <+: Text.trim line :=
    List.isPrefixOf_iff_prefix
  unfold assigned?
  simp only [starts]
  by_cases comment : (Text.trim line).head? = some '#'
  · rw [if_pos comment, if_neg fun assigns => assigns.1 comment]
  · rw [if_neg comment]
    by_cases begins : lead key <+: Text.trim line
    · rw [if_pos begins, if_pos ⟨comment, begins⟩]
      rfl
    · rw [if_neg begins, if_neg fun assigns => begins assigns.2]

theorem assigned?_eq_none_iff {key : String} {line : List Char} :
    assigned? key line = none ↔ ¬ Assigns key line := by
  rw [assigned?_eq]
  split <;> simp [*]

theorem assigned?_eq_some_iff {key value : String} {line : List Char} :
    assigned? key line = some value ↔
      Assigns key line ∧ value = assignedValue key line := by
  rw [assigned?_eq]
  split <;> simp [*, eq_comm]

/-- The space behind the equals sign survives the trimming of a line in
front of a value only. -/
theorem Assigns.assignedValue_ne_empty
    {key : String} {line : List Char}
    (assigns : Assigns key line) :
    assignedValue key line ≠ "" := by
  obtain ⟨rest, whole⟩ := assigns.2
  have nonempty : Text.trim line ≠ [] := by
    rw [← whole]
    simp [lead]
  have value : assignedValue key line = String.ofList (Text.trim rest) := by
    rw [assignedValue, ← whole, List.drop_left]
  rw [value, Ne, String.ofList_eq_empty_iff]
  intro empty
  have last := Text.getLast_trim nonempty
  have blank : Text.isBlank ((Text.trim line).getLast nonempty) = true := by
    have wordless : Text.words rest = [] := by
      rw [← Text.words_trim, empty, Text.words_nil]
    simp only [← whole]
    by_cases more : rest = []
    · simp [more, lead, Text.isBlank]
    · rw [List.getLast_append_of_ne_nil _ more]
      exact Text.blank_of_words_eq_nil wordless _ (List.getLast_mem more)
  rw [blank] at last
  cases last

/-- No line assigns values to two variables. -/
theorem Assigns.key_eq
    {key other : String} {line : List Char}
    (listed : key ∈ keys) (listedOther : other ∈ keys)
    (assigns : Assigns key line) (assignsOther : Assigns other line) :
    key = other := by
  have apart : ∀ key ∈ keys, ∀ other ∈ keys, lead key <+: lead other → key = other := by
    decide
  rcases List.prefix_or_prefix_of_prefix assigns.2 assignsOther.2 with starts | starts
  · exact apart key listed other listedOther starts
  · exact (apart other listedOther key listed starts).symm

/-! ## Makefiles -/

/-- The last line that assigns a value to a variable assigns this one. -/
def LastAssigned (lines : List (List Char)) (key value : String) : Prop :=
  ∃ before line after, lines = before ++ line :: after ∧ Assigns key line ∧
    (∀ later ∈ after, ¬ Assigns key later) ∧ value = assignedValue key line

section Lines

variable {lines : List (List Char)} {key value : String}

theorem value?_eq_some_iff : value? lines key = some value ↔
    LastAssigned lines key value := by
  rw [value?, List.getLast?_filterMap, List.findSome?_eq_some_iff]
  constructor
  · rintro ⟨after, line, before, whole, assigns, none⟩
    rw [assigned?_eq_some_iff] at assigns
    refine ⟨before.reverse, line, after.reverse, ?_, assigns.1, ?_, assigns.2⟩
    · rw [← lines.reverse_reverse, whole]
      simp
    · intro later member
      exact assigned?_eq_none_iff.mp (none later (List.mem_reverse.mp member))
  · rintro ⟨before, line, after, rfl, assigns, none, same⟩
    refine ⟨after.reverse, line, before.reverse, by simp,
      assigned?_eq_some_iff.mpr ⟨assigns, same⟩, ?_⟩
    intro later member
    exact assigned?_eq_none_iff.mpr (none later (List.mem_reverse.mp member))

theorem value?_eq_none_iff : value? lines key = none ↔ ∀ line ∈ lines,
    ¬ Assigns key line := by
  simp [value?, assigned?_eq_none_iff]

/-- The variables that no line assigns a value to, in their order. -/
def unassigned (lines : List (List Char)) : List String :=
  keys.filter fun key => ∀ line ∈ lines, ¬ Assigns key line

theorem filter_isNone_value? (lines : List (List Char)) :
    (keys.filter fun key => (value? lines key).isNone) = unassigned lines := by
  refine List.filter_congr fun key _ => ?_
  rw [Bool.eq_iff_iff, Option.isNone_iff_eq_none, value?_eq_none_iff, decide_eq_true_eq]

/-- A version is made of the values that are assigned last. -/
theorem ofLines_eq_ok_iff {version : String} :
    ofLines lines = .ok version ↔
      ∃ major minor patch, LastAssigned lines "VERSION" major ∧
        LastAssigned lines "PATCHLEVEL" minor ∧ LastAssigned lines "SUBLEVEL" patch ∧
        version = major ++ "." ++ minor ++ "." ++ patch := by
  simp only [← value?_eq_some_iff]
  unfold ofLines keys
  cases major : value? lines "VERSION" with
  | none => simp [major]
  | some first =>
      cases minor : value? lines "PATCHLEVEL" with
      | none => simp [major, minor]
      | some second =>
          cases patch : value? lines "SUBLEVEL" with
          | none => simp [major, minor, patch]
          | some third => simp [major, minor, patch, String.append_assoc, eq_comm]

/-- Without a version, all variables are told that no line assigns a value to. -/
theorem ofLines_eq_error_iff {missing : List String} :
    ofLines lines = .error missing ↔
      unassigned lines ≠ [] ∧ missing = unassigned lines := by
  rw [ofLines, filter_isNone_value?]
  cases unassigned lines with
  | nil => simp
  | cons key others => simp [eq_comm]

end Lines

/-! ## Other lines -/

/-- Lines that assign the same values: they differ in lines that assign nothing, and in
the order of lines that assign values to different variables. -/
inductive SameAssignments : List (List Char) → List (List Char) → Prop
  | refl (lines : List (List Char)) : SameAssignments lines lines
  | symm {lines others : List (List Char)} :
    SameAssignments lines others →
    SameAssignments others lines
  | trans {lines between others : List (List Char)} :
    SameAssignments lines between →
    SameAssignments between others →
    SameAssignments lines others
  | omit (before : List (List Char)) {line : List Char} (after : List (List Char)) :
    (∀ key ∈ keys, ¬ Assigns key line) →
    SameAssignments (before ++ line :: after) (before ++ after)
  | swap (before : List (List Char)) {first second : List Char}
      (after : List (List Char))
    {key other : String} :
    key ∈ keys →
    other ∈ keys →
    key ≠ other →
    Assigns key first →
    Assigns other second →
    SameAssignments (before ++ first :: second :: after)
      (before ++ second :: first :: after)

namespace SameAssignments

variable {lines others : List (List Char)}

/-- Each variable is assigned the same values, in the same order. -/
theorem filterMap_eq
    (same : SameAssignments lines others)
    {key : String} (listed : key ∈ keys) :
    lines.filterMap (assigned? key) = others.filterMap (assigned? key) := by
  induction same with
  | refl lines => rfl
  | symm _ inductionHypothesis => exact inductionHypothesis.symm
  | trans _ _ first second => exact first.trans second
  | «omit» before after silent => simp [assigned?_eq_none_iff.mpr (silent key listed)]
  | @swap before left right after keyLeft keyRight listedFirst listedSecond different
      first second =>
      have oneSilent : ¬ Assigns key left ∨ ¬ Assigns key right := by
        rw [← not_and_or]
        rintro ⟨assignsLeft, assignsRight⟩
        exact different ((first.key_eq listedFirst listed assignsLeft).trans
          (second.key_eq listedSecond listed assignsRight).symm)
      rcases oneSilent with silent | silent <;>
        simp [List.filterMap_cons, assigned?_eq_none_iff.mpr silent]

theorem value?_eq
    (same : SameAssignments lines others)
    {key : String} (listed : key ∈ keys) :
    value? lines key = value? others key := by
  rw [value?, value?, same.filterMap_eq listed]

theorem ofLines_eq (same : SameAssignments lines others) :
    ofLines lines = ofLines others := by
  have sameMissing : unassigned lines = unassigned others := by
    rw [← filter_isNone_value?, ← filter_isNone_value?]
    exact List.filter_congr fun key listed => by rw [same.value?_eq listed]
  have sameValues : keys.filterMap (value? lines) = keys.filterMap (value? others) :=
    List.filterMap_congr fun key listed => same.value?_eq listed
  rw [ofLines, ofLines, filter_isNone_value?, filter_isNone_value?, sameMissing,
    sameValues]

end SameAssignments

/-! ## The version of a makefile -/

theorem ofMakefile_of_readText
    {tree : FileTree} {makefile : Path} {text : List Char}
    (read : tree.readText makefile = .ok text) :
    (ofMakefile tree makefile).1 = (ofLines (Text.lines text)).mapError
      (.missing makefile) := by
  rw [ofMakefile, read]
  dsimp only
  cases ofLines (Text.lines text) <;> rfl

/-- A makefile that can be opened states a version exactly if each of the three
variables is assigned a value, and then the last values count, none of which is empty;
lines that assign nothing and the order of the variables make no difference.  Otherwise
the failure tells the variables that are assigned no value, in their order.  A makefile
that cannot be opened is a failure as well. -/
theorem version_is_last_assigned (tree : FileTree) (makefile : Path) :
    (∀ text, tree.readText makefile = .ok text →
      (∀ version, (ofMakefile tree makefile).1 = .ok version ↔
        ∃ major minor patch, LastAssigned (Text.lines text) "VERSION" major ∧
          LastAssigned (Text.lines text) "PATCHLEVEL" minor ∧
          LastAssigned (Text.lines text) "SUBLEVEL" patch ∧
          version = major ++ "." ++ minor ++ "." ++ patch) ∧
      (∀ failure, (ofMakefile tree makefile).1 = .error failure ↔
        unassigned (Text.lines text) ≠ [] ∧
          failure = .missing makefile (unassigned (Text.lines text))) ∧
      (∀ key value, LastAssigned (Text.lines text) key value → value ≠ "") ∧
      ∀ other changed, FileTree.readText other makefile = .ok changed →
        SameAssignments (Text.lines text) (Text.lines changed) →
          (ofMakefile other makefile).1 = (ofMakefile tree makefile).1) ∧
    (∀ error place, tree.readText makefile = .error (.refused error place) →
      (ofMakefile tree makefile).1 =
        .error (.unreadable makefile (.refused error place))) ∧
    ∀ missing, (Failure.missing makefile missing).message =
      "Failed to read version information from " ++ makefile.toString ++ " (missing=" ++
        ", ".intercalate missing ++ ")" := by
  refine ⟨fun text read => ⟨fun version => ?_, fun failure => ?_, ?_, ?_⟩, ?_,
    fun missing => rfl⟩
  · rw [← ofLines_eq_ok_iff, ofMakefile_of_readText read]
    cases ofLines (Text.lines text) <;> simp [Except.mapError]
  · rw [ofMakefile_of_readText read]
    constructor
    · intro failed
      cases outcome : ofLines (Text.lines text) with
      | ok version =>
          rw [outcome] at failed
          cases failed
      | error missing =>
          obtain ⟨nonempty, rfl⟩ := ofLines_eq_error_iff.mp outcome
          rw [outcome] at failed
          exact ⟨nonempty, (Except.error.inj failed).symm⟩
    · rintro ⟨nonempty, rfl⟩
      rw [ofLines_eq_error_iff.mpr ⟨nonempty, rfl⟩]
      rfl
  · rintro key value ⟨before, line, after, -, assigns, -, rfl⟩
    exact assigns.assignedValue_ne_empty
  · intro other changed readChanged same
    rw [ofMakefile_of_readText readChanged, ofMakefile_of_readText read,
      same.ofLines_eq]
  · intro error place refused
    rw [ofMakefile, refused]

/-- A makefile with comments, blanks, a repeated assignment, and one to another
variable. -/
def candidateText : String :=
  "# VERSION = 1\nSUBLEVEL = 5\n\nVERSION = 5\nEXTRAVERSION = -rc1\n\tVERSION =   6\t\n" ++
    "PATCHLEVEL = 9\nVERSION = \n"

/-- A tree that holds nothing but this makefile. -/
def candidateTree : FileTree :=
  ⟨[], [(["Makefile"], .file (Text.Utf8.encode candidateText.toList) true)]⟩

theorem readText_candidateTree :
    candidateTree.readText ⟨.root, ["Makefile"]⟩ = .ok candidateText.toList := by
  have noNull : Path.hasNull ⟨.root, ["Makefile"]⟩ = false := by cbv
  have located : candidateTree.locate true ⟨.root, ["Makefile"]⟩ =
      .ok ["Makefile"] := by cbv
  exact FileTree.readText_of_node noNull located rfl

theorem readText_bareTree :
    FileTree.readText ⟨[], []⟩ ⟨.root, ["Makefile"]⟩ =
      .error (.refused .noSuchEntry "/Makefile") := by
  have noNull : Path.hasNull ⟨.root, ["Makefile"]⟩ = false := by cbv
  have missing : FileTree.locate ⟨[], []⟩ true ⟨.root, ["Makefile"]⟩ =
      .error .noSuchEntry := by cbv
  rw [FileTree.readText, FileTree.atPath_of_locate_error noNull missing]
  rfl

theorem version_is_last_assigned_candidate :
    candidateTree.readText ⟨.root, ["Makefile"]⟩ = .ok candidateText.toList ∧
      (ofMakefile candidateTree ⟨.root, ["Makefile"]⟩).1 = .ok "6.9.5" ∧
      FileTree.readText ⟨[], []⟩ ⟨.root, ["Makefile"]⟩ =
        .error (.refused .noSuchEntry "/Makefile") ∧
      (ofMakefile ⟨[], []⟩ ⟨.root, ["Makefile"]⟩).1 =
        .error
          (.unreadable ⟨.root, ["Makefile"]⟩ (.refused .noSuchEntry "/Makefile")) := by
  have stated := ((version_is_last_assigned candidateTree ⟨.root, ["Makefile"]⟩).1 _
    readText_candidateTree).1 "6.9.5"
  have unopened := (version_is_last_assigned ⟨[], []⟩ ⟨.root, ["Makefile"]⟩).2.1 _ _
    readText_bareTree
  refine ⟨readText_candidateTree, stated.mpr ⟨"6", "9", "5", ?_, ?_, ?_, rfl⟩,
    readText_bareTree, unopened⟩
  · exact value?_eq_some_iff.mp rfl
  · exact value?_eq_some_iff.mp rfl
  · exact value?_eq_some_iff.mp rfl

end KernelVersion
end KernelInventory
