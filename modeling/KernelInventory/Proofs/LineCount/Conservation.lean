import KernelInventory.Proofs.Component.Table
import KernelInventory.Proofs.LineCount.Return
import KernelInventory.Proofs.Text.LineEnds
import KernelInventory.Report.Page

/-!
# No line is lost

The statistics of a directory hold, for each category of the files that can be read, the
number of these files and of their lines, each line in one class.  Neither sorting the
categories nor summing over them loses or adds anything, so that the sum accounts for
every line of every file.
-/

namespace KernelInventory

namespace LineCount

/-- The count of a number of files that hold some lines together. -/
def ofLines (files : Nat) (lines : List (List Char)) : LineCount where
  files := files
  blank := lines.countP (classify · = .blank)
  comment := lines.countP (classify · = .comment)
  code := lines.countP (classify · = .code)

theorem ofLines_add (left right : Nat) (first second : List (List Char)) :
    ofLines left first + ofLines right second = ofLines (left + right)
      (first ++ second) := by
  ext <;> simp [ofLines, List.countP_append]

theorem ofClass_classify (line : List Char) :
    ofClass (classify line) = ofLines 0 [line] := by
  cases same : classify line <;> simp [ofLines, ofClass, same]

/-- The count of a text is that of its lines. -/
theorem ofText_eq_ofLines (text : List Char) :
    ofText text = ofLines 1 (Text.lines text) := by
  have onward : ∀ (lines : List (List Char)) (start : LineCount),
      lines.foldl (fun count line => count + ofClass (classify line)) start =
        start + ofLines 0 lines := by
    intro lines
    induction lines with
    | nil => exact fun start => (add_zero start).symm
    | cons line rest inductionHypothesis =>
        intro start
        rw [List.foldl_cons, inductionHypothesis, ofClass_classify, add_assoc,
          ofLines_add]
        rfl
  rw [ofText, onward]
  exact ofLines_add 1 0 [] (Text.lines text)

/-- The counts of texts add up to the count of all their lines. -/
theorem sum_ofText (texts : List (List Char)) :
    (texts.map ofText).sum = ofLines texts.length (texts.flatMap Text.lines) := by
  induction texts with
  | nil => rfl
  | cons text rest inductionHypothesis =>
      rw [List.map_cons, List.sum_cons, inductionHypothesis, ofText_eq_ofLines,
        ofLines_add, List.flatMap_cons, List.length_cons, Nat.add_comm 1]

/-- Every line is counted in one class. -/
theorem classes_ofLines (files : Nat) (lines : List (List Char)) :
    (ofLines files lines).blank + (ofLines files lines).comment +
      (ofLines files lines).code =
      lines.length := by
  induction lines with
  | nil => rfl
  | cons line rest inductionHypothesis =>
      simp only [ofLines] at inductionHypothesis ⊢
      cases same : classify line with
      | blank | comment | code =>
          simp [same]
          omega

end LineCount

namespace LineStatistics

section Statistics

variable (statistics : LineStatistics) (counts : List (FileType × LineCount))

theorem ofCounts_append_singleton (entry : FileType × LineCount) :
    ofCounts (counts ++ [entry]) = add (ofCounts counts) entry.1 entry.2 := by
  rw [ofCounts, List.foldl_append]
  rfl

theorem types_add (type : FileType) (count : LineCount) :
    (add statistics type count).map Prod.fst =
      if type ∈ statistics.map Prod.fst then statistics.map Prod.fst
      else statistics.map Prod.fst ++ [type] := by
  induction statistics with
  | nil => rfl
  | cons entry rest inductionHypothesis =>
      obtain ⟨first, sum⟩ := entry
      rw [add]
      by_cases known : first = type
      · simp [known]
      · rw [if_neg known, List.map_cons, inductionHypothesis]
        by_cases later : type ∈ rest.map Prod.fst
        · have present : type ∈ ((first, sum) :: rest).map Prod.fst :=
            List.mem_cons_of_mem first later
          rw [if_pos later, if_pos present]
          rfl
        · have absent : type ∉ ((first, sum) :: rest).map Prod.fst :=
            List.not_mem_cons_of_ne_of_not_mem (Ne.symm known) later
          rw [if_neg later, if_neg absent]
          rfl

/-- The categories stand in the order in which they are first met. -/
theorem types_ofCounts :
    (ofCounts counts).map Prod.fst = (counts.map Prod.fst).eraseDups := by
  induction counts using List.reverseRecOn with
  | nil => rfl
  | append_singleton counts entry inductionHypothesis =>
      rw [ofCounts_append_singleton, types_add, inductionHypothesis, List.map_append,
        List.map_singleton, eraseDups_snoc]
      simp only [List.mem_eraseDups]

/-- The entries of statistics are the categories with their counts. -/
theorem mem_iff_countOf
    {statistics : LineStatistics}
    (distinct : (statistics.map Prod.fst).Nodup)
    {type : FileType} {count : LineCount} :
    (type, count) ∈ statistics ↔
      type ∈ statistics.map Prod.fst ∧ count = countOf statistics type := by
  induction statistics with
  | nil => simp
  | cons entry rest inductionHypothesis =>
      obtain ⟨first, sum⟩ := entry
      rw [List.map_cons, List.nodup_cons] at distinct
      rw [List.mem_cons, Prod.mk_inj, inductionHypothesis distinct.2, countOf_cons,
        List.map_cons, List.mem_cons]
      by_cases same : first = type
      · subst same
        simp [distinct.1]
      · simp [same, Ne.symm same]

theorem mem_ofCounts_iff {type : FileType} {count : LineCount} :
    (type, count) ∈ ofCounts counts ↔
      type ∈ counts.map Prod.fst ∧ count = sumOf counts type := by
  rw [mem_iff_countOf (types_ofCounts counts ▸ nodup_eraseDups _), types_ofCounts,
    List.mem_eraseDups, countOf_ofCounts]

/-! ## Totals -/

theorem total_eq_sum : total statistics = (statistics.map Prod.snd).sum := by
  have onward : ∀ start : LineCount,
      statistics.foldl (fun sum entry => sum + entry.2) start =
        start + (statistics.map Prod.snd).sum := by
    induction statistics with
    | nil => exact fun start => (add_zero start).symm
    | cons entry rest inductionHypothesis =>
        intro start
        rw [List.foldl_cons, inductionHypothesis, List.map_cons, List.sum_cons,
          add_assoc]
  exact (onward 0).trans (zero_add _)

theorem total_add (type : FileType) (count : LineCount) :
    total (add statistics type count) = total statistics + count := by
  simp only [total_eq_sum]
  induction statistics with
  | nil => exact add_comm count 0
  | cons entry rest inductionHypothesis =>
      obtain ⟨first, sum⟩ := entry
      rw [add]
      split
      · simp only [List.map_cons, List.sum_cons]
        rw [add_assoc, add_comm count, add_assoc]
      · simp only [List.map_cons, List.sum_cons]
        rw [inductionHypothesis, add_assoc]

/-- Sorting into categories does not change what is counted in all. -/
theorem total_ofCounts : total (ofCounts counts) = (counts.map Prod.snd).sum := by
  induction counts using List.reverseRecOn with
  | nil => rfl
  | append_singleton counts entry inductionHypothesis =>
      rw [ofCounts_append_singleton, total_add, inductionHypothesis, List.map_append,
        List.sum_append, List.map_singleton, List.sum_singleton]

/-! ## The order of categories -/

theorem sorted_perm : (sorted statistics).Perm statistics :=
  List.mergeSort_perm _ _

theorem trans_byCode (first second third : FileType × LineCount)
    (before : decide (second.2.code ≤ first.2.code) = true)
    (behind : decide (third.2.code ≤ second.2.code) = true) :
    decide (third.2.code ≤ first.2.code) = true :=
  decide_eq_true ((of_decide_eq_true behind).trans (of_decide_eq_true before))

theorem total_byCode (first second : FileType × LineCount) :
    (decide (second.2.code ≤ first.2.code) || decide (first.2.code ≤ second.2.code)) =
      true := by
  simpa using le_total second.2.code first.2.code

/-- The categories are sorted by lines of code, the largest first. -/
theorem pairwise_sorted :
    (sorted statistics).Pairwise fun first second => second.2.code ≤ first.2.code := by
  have inOrder := List.pairwise_mergeSort trans_byCode total_byCode statistics
  exact inOrder.imp fun ordered => of_decide_eq_true ordered

/-- Categories with equally many lines of code keep their order. -/
theorem filter_sorted (code : Int) :
    (sorted statistics).filter (·.2.code = code) = statistics.filter
      (·.2.code = code) := by
  have equal : (statistics.filter (·.2.code = code)).Pairwise
      fun first second => decide (second.2.code ≤ first.2.code) = true := by
    refine List.pairwise_of_forall_mem_list fun first inFirst second inSecond => ?_
    rw [of_decide_eq_true (List.mem_filter.mp inFirst).2,
      of_decide_eq_true (List.mem_filter.mp inSecond).2]
    exact decide_eq_true le_rfl
  have within := (List.sublist_mergeSort trans_byCode total_byCode equal
    List.filter_sublist).filter (·.2.code = code)
  rw [List.filter_filter] at within
  simp only [Bool.and_self] at within
  exact (within.eq_of_length ((sorted_perm statistics).filter _).length_eq.symm).symm

end Statistics

/-! ## The files of a directory -/

section Directory

variable (tree : FileTree) (paths : List Path)

/-- The texts of the files that can be read, with their categories. -/
def readable : List (FileType × List Char) :=
  paths.filterMap fun path =>
    (tree.readText path).toOption.map fun text => (FileType.ofPath path, text)

/-- The texts of a category. -/
def textsOf (files : List (FileType × List Char)) (type : FileType) :
    List (List Char) :=
  (files.filter fun file => file.1 = type).map Prod.snd

theorem filterMap_countIn? :
    paths.filterMap (countIn? tree) =
      (readable tree paths).map fun file => (file.1, LineCount.ofText file.2) := by
  rw [readable, List.map_filterMap]
  refine List.filterMap_congr fun path _ => ?_
  rw [countIn?, LineCount.ofFile]
  cases tree.readText path <;> rfl

theorem sumOf_filterMap_countIn? (type : FileType) :
    sumOf (paths.filterMap (countIn? tree)) type =
      LineCount.ofLines (textsOf (readable tree paths) type).length
        ((textsOf (readable tree paths) type).flatMap Text.lines) := by
  rw [← LineCount.sum_ofText, filterMap_countIn?, sumOf, textsOf, List.filter_map,
    List.map_map, List.map_map]
  rfl

theorem mem_types_readable_iff {type : FileType} :
    type ∈ (readable tree paths).map Prod.fst ↔
      ∃ path ∈ paths, FileType.ofPath path = type ∧ ∃ text,
        tree.readText path = .ok text := by
  simp only [readable, List.mem_map, List.mem_filterMap, Option.map_eq_some_iff]
  constructor
  · rintro ⟨file, ⟨path, member, text, read, rfl⟩, rfl⟩
    cases found : tree.readText path with
    | error failure => simp [found, Except.toOption] at read
    | ok content => exact ⟨path, member, rfl, content, found⟩
  · rintro ⟨path, member, rfl, text, read⟩
    exact ⟨_, ⟨path, member, text, by rw [read]; rfl, rfl⟩, rfl⟩

end Directory

/-- The row with the sum in the table of line counts. -/
def sumRow (count : LineCount) : List Char :=
  Report.row '│' (Report.lineCells "SUM:" (Report.countNumbers count))

/-- The table of line counts has a row with the sum over all categories. -/
theorem exists_sumRow (statistics : LineStatistics) :
    ∃ above below, Report.lineTable statistics =
      Report.printLines (above ++ sumRow (total statistics) :: below) := by
  unfold Report.lineTable sumRow
  dsimp only
  exact ⟨_, _, rfl⟩

/-- What a count of a directory accounts for.  Its categories are those of the files of
the walk that can be read, in the order in which they are first met; each holds the
number of its files and of their lines, each line in one class.  They are sorted by
lines of code, and those with equally many keep their order.  What the rows add up to,
and what is printed as their sum, is the count of all lines of all these files. -/
theorem count_conserves_lines
    {tree : FileTree} {exclusion : Option Exclusion} {base : Option Path} {root : Path}
    {statistics : LineStatistics}
    (returned : (ofDirectory tree exclusion base root).1 = .ok statistics) :
    ∃ paths, (Walk.files tree exclusion base root).1 = .ok paths ∧
      ((∀ type, type ∈ statistics.map Prod.fst ↔
          ∃ path ∈ paths, FileType.ofPath path = type ∧ ∃ text,
            tree.readText path = .ok text) ∧
        statistics.map Prod.fst = ((readable tree paths).map Prod.fst).eraseDups) ∧
      (∀ type count, (type, count) ∈ statistics →
        count = LineCount.ofLines (textsOf (readable tree paths) type).length
            ((textsOf (readable tree paths) type).flatMap Text.lines) ∧
          count.blank + count.comment + count.code =
            ((textsOf (readable tree paths) type).flatMap Text.lines).length) ∧
      ((sorted statistics).Perm statistics ∧
        (sorted statistics).Pairwise
          (fun first second => second.2.code ≤ first.2.code) ∧
        ∀ code, (sorted statistics).filter (·.2.code = code) =
          statistics.filter (·.2.code = code)) ∧
      (∃ lines, lines = (readable tree paths).flatMap (fun file => Text.lines file.2) ∧
        total statistics = ((sorted statistics).map Prod.snd).sum ∧
        total statistics = LineCount.ofLines (readable tree paths).length lines ∧
        (total statistics).blank + (total statistics).comment +
          (total statistics).code =
          lines.length ∧
        ∃ above below, Report.lineTable statistics = Report.printLines
          (above ++ sumRow (LineCount.ofLines (readable tree paths).length lines) ::
            below)) ∧
      ∀ text, Text.Lined text (Text.lines text) := by
  obtain ⟨paths, walked⟩ := files_of_ofDirectory returned
  obtain rfl := Except.ok.inj ((ofDirectory_of_files walked).symm.trans returned)
  have types : (paths.filterMap (countIn? tree)).map Prod.fst =
      (readable tree paths).map Prod.fst := by
    rw [filterMap_countIn?, List.map_map]
    rfl
  have counted : total (ofCounts (paths.filterMap (countIn? tree))) =
      LineCount.ofLines (readable tree paths).length
        ((readable tree paths).flatMap fun file => Text.lines file.2) := by
    have sum := LineCount.sum_ofText ((readable tree paths).map Prod.snd)
    rw [List.length_map, List.flatMap_map, List.map_map] at sum
    rw [total_ofCounts, filterMap_countIn?, List.map_map, ← sum]
    rfl
  refine ⟨paths, walked, ⟨fun type => ?_, ?_⟩, fun type count member => ?_,
    ⟨sorted_perm _, pairwise_sorted _, filter_sorted _⟩, ⟨_, rfl, ?_, counted, ?_, ?_⟩,
    fun text => Text.lined_iff.mpr rfl⟩
  · rw [types_ofCounts, List.mem_eraseDups, types, mem_types_readable_iff]
  · rw [types_ofCounts, types]
  · obtain ⟨-, same⟩ := (mem_ofCounts_iff _).mp member
    rw [sumOf_filterMap_countIn?] at same
    exact ⟨same, same ▸ LineCount.classes_ofLines _ _⟩
  · rw [total_eq_sum]
    exact ((sorted_perm _).map Prod.snd).sum_eq.symm
  · rw [counted]
    exact LineCount.classes_ofLines _ _
  · rw [← counted]
    exact exists_sumRow _

/-- The count of the directory with the file that is excluded is that of the four
lines in the other files. -/
theorem count_conserves_lines_anchored :
    ∃ statistics,
      (ofDirectory anchoredTree anchoredScope.exclusion (some ⟨.root, []⟩)
        ⟨.root, ["r"]⟩).1 =
          .ok statistics ∧
        statistics.map Prod.fst = [.c, .other] ∧ total statistics = ⟨3, 1, 1, 2⟩ := by
  have returned := ofDirectory_of_files files_anchored.1
  obtain ⟨paths, walked, ⟨-, types⟩, -, -, ⟨lines, rfl, -, counted, -⟩, -⟩ :=
    count_conserves_lines returned
  obtain rfl := Except.ok.inj (files_anchored.1.symm.trans walked)
  obtain ⟨-, outer, inner, blank⟩ := readings_anchored
  have texts : readable anchoredTree
      [⟨.root, ["r", "a.c"]⟩, ⟨.root, ["r", "z", "a.c"]⟩, ⟨.root, ["r", "z", "x"]⟩] =
        [(.c, ['x', '\n', ';', '\n']), (.c, ['x', '\n']), (.other, ['\n'])] := by
    simp only [readable, List.filterMap_cons, outer, inner, blank]
    rfl
  refine ⟨_, returned, ?_, ?_⟩
  · rw [types, texts]
    decide
  · rw [counted, texts]
    decide

end LineStatistics
end KernelInventory
