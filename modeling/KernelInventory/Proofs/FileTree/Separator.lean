import KernelInventory.Proofs.FileTree.Plain

/-!
# Names between separators

No name of a file system holds the separator of paths.  A path that is read from a text
has only such names, and so has every canonical path, because link targets are split at
separators too.  The text of such a path shows its names again: between two separators
stands exactly the name of a directory on the way, and never that of the entry itself.
-/

namespace KernelInventory

/-- No name holds a separator. -/
def Unslashed (names : List String) : Prop :=
  ∀ name ∈ names, '/' ∉ name.toList

instance : DecidablePred Unslashed := fun names =>
  inferInstanceAs (Decidable (∀ name ∈ names, '/' ∉ name.toList))

namespace Unslashed

variable {names others : List String}

theorem append (unslashed : Unslashed names) (unslashedOthers : Unslashed others) :
    Unslashed (names ++ others) :=
  List.forall_mem_append.mpr ⟨unslashed, unslashedOthers⟩

theorem subset (unslashed : Unslashed names) (among : others ⊆ names) :
    Unslashed others :=
  fun name member => unslashed name (among member)

theorem concat (unslashed : Unslashed names) {name : String}
    (solid : '/' ∉ name.toList) :
    Unslashed (names ++ [name]) :=
  unslashed.append (List.forall_mem_singleton.mpr solid)

end Unslashed

/-! ## Texts of paths -/

namespace Text

theorem unslashed_splitString (text : String) : Unslashed (splitString '/' text) :=
  fun _ part => separator_not_mem_of_mem_splitString part

/-- An occurrence that starts with a separator does not start in a name. -/
theorem isInfix_of_isInfix_append
    {name needle rest : List Char}
    (solid : '/' ∉ name)
    (occurs : '/' :: needle <:+: name ++ rest) :
    '/' :: needle <:+: rest := by
  induction name with
  | nil => exact occurs
  | cons c others inductionHypothesis =>
      rw [List.mem_cons, not_or] at solid
      rw [List.cons_append, List.infix_cons_iff, List.cons_prefix_cons] at occurs
      rcases occurs with ⟨first, -⟩ | later
      · exact absurd first solid.1
      · exact inductionHypothesis solid.2 later

/-- A name ends where a separator stands, or at the end of the text. -/
theorem takeWhile_append_of_breaks
    {name rest : List Char}
    (solid : '/' ∉ name)
    (breaks : ∀ c ∈ rest.head?, c = '/') :
    (name ++ rest).takeWhile (· ≠ '/') = name := by
  have kept : ∀ c ∈ name, decide (c ≠ '/') = true := by
    intro c member
    exact decide_eq_true fun same => solid (same ▸ member)
  rw [List.takeWhile_append_of_pos kept]
  cases rest with
  | nil => simp
  | cons c others => simp [breaks c rfl]

/-- A word in front of a separator is the whole name that the text begins with. -/
theorem eq_of_prefix_append
    {word name rest : List Char}
    (solidWord : '/' ∉ word)
    (solidName : '/' ∉ name)
    (breaks : ∀ c ∈ rest.head?, c = '/')
    (starts : word ++ ['/'] <+: name ++ rest) :
    word = name ∧ rest ≠ [] := by
  obtain ⟨behind, same⟩ := starts
  rw [List.append_assoc, List.singleton_append] at same
  have whole : word = name := by
    rw [← takeWhile_append_of_breaks solidName breaks, ← same,
      takeWhile_append_of_breaks solidWord (by simp)]
  refine ⟨whole, ?_⟩
  rintro rfl
  rw [whole] at same
  simp at same

end Text

namespace Location

/-- The text of a location below the root: in front of every name stands a separator. -/
theorem toList_toString_path {names : Location} (nonempty : names ≠ []) :
    (path names).toString.toList = names.flatMap fun name => '/' :: name.toList := by
  have absolute : path names ≠ Path.here := by
    rintro ⟨⟩
  have joined : ∀ name rest,
      "/".toList ++ ("/".intercalate (name :: rest)).toList =
        (name :: rest).flatMap fun name => '/' :: name.toList := by
    intro name rest
    induction rest generalizing name with
    | nil => simp
    | cons next rest inductionHypothesis =>
        rw [String.intercalate_cons_cons, String.toList_append, String.toList_append,
          List.append_assoc, inductionHypothesis, List.flatMap_cons]
        rfl
  obtain ⟨name, rest, rfl⟩ := List.exists_cons_of_ne_nil nonempty
  rw [Path.toString, if_neg absolute, String.toList_append]
  exact joined name rest

theorem mem_dropLast_cons {name first : String} {rest : List String} :
    name ∈ (first :: rest).dropLast ↔
      rest ≠ [] ∧ name = first ∨ name ∈ rest.dropLast := by
  cases rest <;> simp

/-- Where a separator stands in front of every name, between two separators stands a
name that is not the last one. -/
theorem between_isInfix_flatMap_iff
    {word : String} {names : List String}
    (solid : '/' ∉ word.toList)
    (unslashed : Unslashed names) :
    '/' :: (word.toList ++ ['/']) <:+: (names.flatMap fun name => '/' :: name.toList) ↔
      word ∈ names.dropLast := by
  induction names with
  | nil => simp
  | cons first rest inductionHypothesis =>
      obtain ⟨solidFirst, unslashedRest⟩ := List.forall_mem_cons.mp unslashed
      rw [List.flatMap_cons, List.cons_append, List.infix_cons_iff,
        List.cons_prefix_cons, mem_dropLast_cons, ← inductionHypothesis unslashedRest]
      have breaks : ∀ c ∈ (rest.flatMap fun name => '/' :: name.toList).head?,
          c = '/' := by
        cases rest <;> simp
      constructor
      · rintro (⟨-, here⟩ | later)
        · obtain ⟨same, more⟩ := Text.eq_of_prefix_append solid solidFirst breaks here
          refine Or.inl ⟨?_, String.toList_inj.mp same⟩
          rintro rfl
          exact more rfl
        · exact Or.inr (Text.isInfix_of_isInfix_append solidFirst later)
      · rintro (⟨more, rfl⟩ | later)
        · obtain ⟨next, others, rfl⟩ := List.exists_cons_of_ne_nil more
          refine Or.inl ⟨rfl, ?_⟩
          rw [List.flatMap_cons, List.cons_append, List.prefix_append_right_inj]
          exact List.prefix_append ['/'] _
        · exact Or.inr (later.trans (List.suffix_append _ _).isInfix)

/-- Between two separators in the text of a location stands the name of a
directory on the way. -/
theorem contains_between_iff
    {word : String} {names : Location}
    (solid : '/' ∉ word.toList)
    (unslashed : Unslashed names) :
    Text.contains (path names).toString.toList ("/" ++ word ++ "/").toList = true ↔
      word ∈ names.dropLast := by
  have mark : ("/" ++ word ++ "/").toList = '/' :: (word.toList ++ ['/']) := by
    simp
  rw [Text.contains_iff_isInfix, mark, ← between_isInfix_flatMap_iff solid unslashed]
  by_cases root : names = []
  · have short : (path names).toString.toList = ['/'] := by
      rw [root]
      decide
    rw [short, root, List.infix_cons_iff]
    simp
  · rw [toList_toString_path root]

end Location

/-! ## Canonical paths -/

namespace Path

variable {path below : Path}

theorem unslashed_ofString (text : String) : Unslashed (ofString text).names :=
  (Text.unslashed_splitString text).subset fun _ => List.mem_of_mem_filter

theorem unslashed_div (unslashed : Unslashed path.names)
    (unslashedBelow : Unslashed below.names) :
    Unslashed (path / below).names := by
  by_cases absolute : below.isAbsolute = true
  · have replaced : path / below = below := if_pos absolute
    rw [replaced]
    exact unslashedBelow
  · have joined : path / below = ⟨path.anchor, path.names ++ below.names⟩ :=
      if_neg absolute
    rw [joined]
    exact unslashed.append unslashedBelow

/-- What is read from the root on starts without names. -/
theorem unslashed_start
    {fromRoot : Prop} [Decidable fromRoot]
    (unslashed : Unslashed path.names) :
    Unslashed (if fromRoot then ⟨.root, []⟩ else path : Path).names := by
  split
  · exact List.forall_mem_nil _
  · exact unslashed

theorem unslashed_up (unslashed : Unslashed path.names) : Unslashed path.up.names := by
  unfold up
  split
  · exact unslashed.concat (by decide)
  · exact unslashed.subset (List.dropLast_subset _)

theorem unslashed_collapse (unslashed : Unslashed path.names) :
    Unslashed path.collapse.names := by
  refine List.foldlRecOn path.names collapseStep (List.forall_mem_nil _) ?_
  intro taken unslashedTaken name member
  unfold collapseStep
  split
  · exact Unslashed.subset unslashedTaken (List.dropLast_subset _)
  · exact Unslashed.concat unslashedTaken (unslashed name member)

end Path

namespace FileTree

variable {tree : FileTree}

theorem unslashed_of_replacementStep
    {strict : Bool} {current path : Path} {name : String}
    (unslashed : Unslashed current.names)
    (solid : '/' ∉ name.toList)
    (step : tree.replacementStep strict current name = .reaches path) :
    Unslashed path.names := by
  cases replacementStep_eq_iff.mp step with
  | stay _ => exact unslashed
  | up => exact Path.unslashed_up unslashed
  | skip _ _ _ _ | down _ _ _ _ => exact unslashed.concat solid

/-- Replacing links brings no separators into names. -/
theorem unslashed_expand
    (strict : Bool) (pending : List Sighting) (current : Path) {names : List String}
    (unslashed : Unslashed names) (unslashedCurrent : Unslashed current.names) :
    ∀ expansion, tree.expand strict pending current names = .ok expansion →
      Unslashed expansion.path.names := by
  have joined {path : Path} (unslashedPath : Unslashed path.names) (text : String) :
      Unslashed (path / Path.ofString text).names :=
    Path.unslashed_div unslashedPath (Path.unslashed_ofString text)
  induction pending, current, names using expand_induction tree strict with
  | nil pending current =>
      intro expansion settled
      rw [expand] at settled
      obtain rfl := Except.ok.inj settled
      exact unslashedCurrent
  | fails pending current name rest failure step =>
      rw [expand_of_fails step]
      rintro _ ⟨⟩
  | reaches pending current name rest path step onward =>
      obtain ⟨solid, unslashedRest⟩ := List.forall_mem_cons.mp unslashed
      rw [expand_of_reaches step]
      exact onward unslashedRest
        (unslashed_of_replacementStep unslashedCurrent solid step)
  | again pending current name rest location target step again =>
      have solid := unslashed name List.mem_cons_self
      rw [expand_of_again step again]
      split
      · rintro _ ⟨⟩
      · rintro _ ⟨⟩
        exact joined (unslashedCurrent.concat solid) _
  | link pending current name rest location target step idle inside onward =>
      have inTarget := inside (Text.unslashed_splitString target)
        (Path.unslashed_start unslashedCurrent)
      rw [expand_of_idle step idle]
      split
      next reached settled =>
        exact onward reached (List.forall_mem_of_forall_mem_cons unslashed)
          (inTarget _ settled)
      next stuck looping =>
        rintro _ ⟨⟩
        exact joined (inTarget _ looping) _
      · rintro _ ⟨⟩

/-- No canonical path has a name that holds a separator. -/
theorem unslashed_realLocation
    {path : Path} {location : Location}
    (home : Unslashed tree.workingDirectory)
    (unslashed : Unslashed path.names)
    (canonical : tree.realLocation path = .ok location) :
    Unslashed location := by
  unfold realLocation at canonical
  split at canonical
  next expansion expanded =>
    obtain rfl := Except.ok.inj canonical
    have start : Unslashed Path.here.names := List.forall_mem_nil _
    have reached := unslashed_expand true [] _ unslashed (Path.unslashed_start start)
      _ expanded
    exact Path.unslashed_collapse (Path.unslashed_div home reached)
  · cases canonical

end FileTree
end KernelInventory
