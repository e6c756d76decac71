import KernelInventory.Command.Architecture
import KernelInventory.Proofs.Component.Table
import KernelInventory.Proofs.Text.Trimming
import Mathlib

/-!
# Reading lists of architectures

An argument names architectures in its parts between commas: without the blanks around
them, those parts of which something is left, each once, in the order in which they come
first.  An argument without such a part is refused.  Names hold no comma and have no
blanks around them, so that they are read back from the list that is written with commas
between them; and two arguments that a comma joins name what both of them name.
-/

namespace KernelInventory

namespace Architecture

/-- A name that can be read back from a list. -/
structure IsName (name : String) : Prop where
  nonempty : name ≠ ""
  trimmed : Text.trim name.toList = name.toList
  commaFree : ',' ∉ name.toList

theorem eraseDups_of_nodup
    {names : List String}
    (distinct : names.Nodup) :
    names.eraseDups = names := by
  induction names using List.reverseRecOn with
  | nil => rfl
  | append_singleton names name inductionHypothesis =>
      obtain ⟨distinct, -, fresh⟩ := List.nodup_append.mp distinct
      rw [eraseDups_snoc, inductionHypothesis distinct, if_neg]
      exact fun member => fresh name (by simpa using member) name List.mem_cons_self rfl

theorem named_intercalate
    {names : List String}
    (nonempty : names ≠ [])
    (areNames : ∀ name ∈ names, IsName name) :
    named (",".intercalate names) = names := by
  have split : Text.splitOn ',' (",".intercalate names).toList =
      names.map String.toList :=
    Text.splitOn_intercalate rfl nonempty fun name member =>
      (areNames name member).commaFree
  have trimmed : (names.map String.toList).map Text.trim = names.map String.toList := by
    rw [List.map_map]
    exact List.map_congr_left fun name member => (areNames name member).trimmed
  have kept : (names.map String.toList).filter (!·.isEmpty) =
      names.map String.toList := by
    rw [List.filter_eq_self, List.forall_mem_map]
    exact fun name member => by simpa using (areNames name member).nonempty
  rw [named, split, trimmed, kept, List.map_map]
  exact List.map_id'' (fun name => String.ofList_toList) names

/-- Distinct names are read back from their list. -/
theorem list_intercalate
    {names : List String}
    (nonempty : names ≠ [])
    (distinct : names.Nodup)
    (areNames : ∀ name ∈ names, IsName name) :
    list (",".intercalate names) = .ok names := by
  rw [list, named_intercalate nonempty areNames, eraseDups_of_nodup distinct]
  split
  · contradiction
  · rfl

theorem list_name {name : String} (isName : IsName name) : list name = .ok [name] := by
  have single := list_intercalate (List.cons_ne_nil name []) (List.nodup_singleton name)
    (List.forall_mem_singleton.mpr isName)
  simpa using single

/-! ## The parts of an argument -/

section Parts

variable {argument : String}

/-- The parts of an argument, with repetitions: what stands between its commas, without
the blanks around it, wherever something is left. -/
def HasParts (argument : String) (parts : List String) : Prop :=
  ∃ pieces trimmed : List String,
    pieces ≠ [] ∧ (∀ piece ∈ pieces, ',' ∉ piece.toList) ∧
      ",".intercalate pieces = argument ∧
      List.Forall₂ (fun piece name =>
        Text.Trimmed Text.isBlank piece.toList name.toList) pieces trimmed ∧
      parts = trimmed.filter (· ≠ "")

/-- A piece without the blanks around it. -/
def trimmedPiece (piece : String) : String :=
  String.ofList (Text.trim piece.toList)

theorem trimmed_iff {piece name : String} :
    Text.Trimmed Text.isBlank piece.toList name.toList ↔ trimmedPiece piece = name := by
  rw [← Text.dropEndsWhile_eq_iff, ← Text.trim, trimmedPiece, ← String.toList_inj,
    String.toList_ofList]

theorem forall₂_trimmed_iff {pieces trimmed : List String} :
    List.Forall₂ (fun piece name => Text.Trimmed Text.isBlank piece.toList name.toList)
        pieces trimmed ↔
      pieces.map trimmedPiece = trimmed := by
  simp only [trimmed_iff]
  rw [← List.forall₂_map_left_iff, List.forall₂_eq_eq_eq]

theorem named_eq (argument : String) :
    named argument = ((Text.splitString ',' argument).map trimmedPiece).filter
      (· ≠ "") := by
  have kept : ∀ name : List Char,
      (!name.isEmpty) = decide (String.ofList name ≠ "") := by
    intro name
    cases name <;> simp
  rw [named, Text.splitString, List.map_map, List.filter_congr fun name _ => kept name]
  simp only [List.filter_map, List.map_map, Function.comp_def, trimmedPiece,
    String.toList_ofList]

/-- The names in an argument are its parts. -/
theorem hasParts_iff {parts : List String} : HasParts argument parts ↔
    parts = named argument := by
  constructor
  · rintro ⟨pieces, trimmed, nonempty, free, rfl, trims, rfl⟩
    rw [named_eq, Text.splitString_intercalate rfl nonempty free,
      forall₂_trimmed_iff.mp trims]
  · rintro rfl
    have nonempty : Text.splitString ',' argument ≠ [] :=
      List.map_eq_nil_iff.not.mpr (Text.splitWhere_ne_nil _ _)
    exact ⟨_, _, nonempty, fun piece => Text.separator_not_mem_of_mem_splitString,
      Text.intercalate_splitString rfl argument, forall₂_trimmed_iff.mpr rfl,
      named_eq argument⟩

theorem isName_of_mem_named {name : String} (member : name ∈ named argument) :
    IsName name := by
  rw [named_eq] at member
  obtain ⟨member, nonempty⟩ := List.mem_filter.mp member
  obtain ⟨piece, part, rfl⟩ := List.mem_map.mp member
  have characters : (trimmedPiece piece).toList = Text.trim piece.toList :=
    String.toList_ofList
  refine ⟨of_decide_eq_true nonempty, ?_, fun comma => ?_⟩
  · rw [characters, Text.trim_trim]
  · rw [characters] at comma
    exact Text.separator_not_mem_of_mem_splitString part
      ((Text.trim_isInfix _).subset comma)

/-- Two arguments that a comma joins name what the first one names, and then what
the second one names. -/
theorem named_append (left right : String) :
    named (left ++ "," ++ right) = named left ++ named right := by
  have joined : (left ++ "," ++ right).toList = left.toList ++ ',' :: right.toList := by
    simp
  have apart : Text.splitOn ',' (left ++ "," ++ right).toList =
      Text.splitOn ',' left.toList ++ Text.splitOn ',' right.toList := by
    rw [joined, Text.splitOn_eq, Text.splitOn_eq, Text.splitOn_eq,
      List.splitOn_append_cons_self]
  rw [named, apart, List.map_append, List.filter_append, List.map_append, named, named]

end Parts

/-! ## Each name once -/

section Firsts

variable {members names : List String}

/-- The members of a list, each once, in the order in which they come first. -/
structure Deduplicated (members distinct : List String) : Prop where
  mem_iff : ∀ name, name ∈ distinct ↔ name ∈ members
  nodup : distinct.Nodup
  ordered : distinct.Pairwise fun earlier later =>
    members.idxOf earlier < members.idxOf later

theorem pairwise_idxOf_eraseDups (members : List String) :
    members.eraseDups.Pairwise fun earlier later =>
      members.idxOf earlier < members.idxOf later := by
  induction members using List.reverseRecOn with
  | nil => exact List.Pairwise.nil
  | append_singleton members name inductionHypothesis =>
      have stays : ∀ earlier ∈ members.eraseDups,
          (members ++ [name]).idxOf earlier = members.idxOf earlier :=
        fun earlier member => List.idxOf_append_of_mem (List.mem_eraseDups.mp member)
      have ordered : members.eraseDups.Pairwise fun earlier later =>
          (members ++ [name]).idxOf earlier < (members ++ [name]).idxOf later := by
        refine inductionHypothesis.imp_of_mem fun member memberLater less => ?_
        rwa [stays _ member, stays _ memberLater]
      rw [eraseDups_snoc]
      split
      · exact ordered
      next absent =>
        refine List.pairwise_append.mpr ⟨ordered, List.pairwise_singleton _ _, ?_⟩
        intro earlier member later last
        have inside : members.idxOf earlier < members.length :=
          List.idxOf_lt_length_iff.mpr (List.mem_eraseDups.mp member)
        rw [List.mem_singleton.mp last, stays earlier member,
          List.idxOf_append_of_notMem absent]
        omega

theorem deduplicated_eraseDups (members : List String) :
    Deduplicated members members.eraseDups :=
  ⟨fun _ => List.mem_eraseDups, nodup_eraseDups members,
    pairwise_idxOf_eraseDups members⟩

/-- The members of a list can be listed once, in the order in which they come
first, in one way only. -/
theorem deduplicated_iff : Deduplicated members names ↔ names = members.eraseDups := by
  constructor
  · intro deduplicated
    have erased := deduplicated_eraseDups members
    have same : names.Perm members.eraseDups := by
      refine (List.perm_ext_iff_of_nodup deduplicated.nodup erased.nodup).mpr
        fun name => ?_
      rw [deduplicated.mem_iff, erased.mem_iff]
    exact same.eq_of_pairwise (fun _ _ _ _ less more => absurd more less.asymm)
      deduplicated.ordered erased.ordered
  · rintro rfl
    exact deduplicated_eraseDups members

theorem eraseDups_eq_nil_iff : members.eraseDups = [] ↔ members = [] := by
  cases members with
  | nil => rfl
  | cons first others => simp [List.eraseDups_cons]

end Firsts

/-! ## Reading a list -/

section Reading

variable {argument : String} {names : List String}

theorem list_eq_ok_iff :
    list argument = .ok names ↔ names = (named argument).eraseDups ∧ names ≠ [] := by
  unfold list
  cases (named argument).eraseDups with
  | nil => simp
  | cons first others =>
      rw [Except.ok.injEq, eq_comm]
      exact ⟨fun same => ⟨same, same ▸ List.cons_ne_nil first others⟩, And.left⟩

/-- A list of architectures is refused exactly if it names none. -/
theorem list_eq_error_iff {failure : Failure} :
    list argument = .error failure ↔ named argument = [] := by
  rw [← eraseDups_eq_nil_iff, list]
  cases failure
  cases (named argument).eraseDups <;> simp

/-- The architectures that an argument names are its parts, each once, and it is refused
if it has none.  What has been read is read back when it is written with commas between
the names, and two arguments that a comma joins name their parts together. -/
theorem list_is_distinct_parts (argument : String) :
    ∃ parts, (∀ other, HasParts argument other ↔ other = parts) ∧
      (list argument = .error .noneNamed ↔ parts = []) ∧
      (∀ names, list argument = .ok names ↔ names ≠ [] ∧ Deduplicated parts names) ∧
      (∀ names, list argument = .ok names → list (",".intercalate names) = .ok names) ∧
      ∀ further others, HasParts further others → parts ++ others ≠ [] →
        ∃ names, list (argument ++ "," ++ further) = .ok names ∧
          Deduplicated (parts ++ others) names := by
  refine ⟨named argument, fun other => hasParts_iff, list_eq_error_iff, ?_, ?_, ?_⟩
  · intro names
    rw [list_eq_ok_iff, deduplicated_iff, and_comm]
  · intro names listed
    obtain ⟨rfl, nonempty⟩ := list_eq_ok_iff.mp listed
    exact list_intercalate nonempty (nodup_eraseDups _) fun name member =>
      isName_of_mem_named (List.mem_eraseDups.mp member)
  · intro further others hasParts nonempty
    obtain rfl := hasParts_iff.mp hasParts
    rw [← named_append] at nonempty ⊢
    exact ⟨_, list_eq_ok_iff.mpr ⟨rfl, eraseDups_eq_nil_iff.not.mpr nonempty⟩,
      deduplicated_eraseDups _⟩

/-- A name that comes twice, blanks around names, an empty piece and one of blanks
only. -/
theorem list_is_distinct_parts_spaced :
    HasParts "riscv, arm64,riscv" ["riscv", "arm64", "riscv"] ∧
      list "riscv, arm64,riscv" = .ok ["riscv", "arm64"] ∧
      list "riscv,arm64" = .ok ["riscv", "arm64"] ∧
      HasParts ",\t,x86 ,arm64" ["x86", "arm64"] ∧
      ∃ names, list "riscv, arm64,riscv,,\t,x86 ,arm64" = .ok names ∧
        Deduplicated ["riscv", "arm64", "riscv", "x86", "arm64"] names := by
  have further : HasParts ",\t,x86 ,arm64" ["x86", "arm64"] := hasParts_iff.mpr rfl
  have given : HasParts "riscv, arm64,riscv" ["riscv", "arm64", "riscv"] :=
    hasParts_iff.mpr rfl
  have read : list "riscv, arm64,riscv" = .ok ["riscv", "arm64"] := rfl
  obtain ⟨parts, unique, -, -, again, joined⟩ :=
    list_is_distinct_parts "riscv, arm64,riscv"
  obtain rfl := (unique _).mp given
  exact ⟨given, read, again _ read, further, joined _ _ further (List.cons_ne_nil _ _)⟩

end Reading

end Architecture
end KernelInventory
