import KernelInventory.Proofs.FileTree.Exchange
import KernelInventory.Proofs.FileTree.Straight

/-!
# Moving places without links

Where no link stands in a place nor on the way to it, a path from there is its own
canonical form if it leads anywhere.  So if such a place is exchanged for another one,
the paths that are written from the place lead to the same entries of it, as long as
they are short enough for the file system.
-/

namespace KernelInventory

namespace Location

/-- The text of a location is no longer than that of a location below it. -/
theorem utf8ByteSize_path_le (names below : Location) :
    (path names).toString.utf8ByteSize ≤
      (path (names ++ below)).toString.utf8ByteSize := by
  by_cases root : names = []
  · have separator : (path below).toString = "/" ++ "/".intercalate below := by
      rw [Path.toString, if_neg (by rintro ⟨⟩)]
      rfl
    rw [root, List.nil_append, separator, String.utf8ByteSize_append]
    exact Nat.le_add_right _ _
  · have joined : (path (names ++ below)).toString =
        (path names).toString ++ String.ofList (below.flatMap fun name =>
          '/' :: name.toList) := by
      rw [← String.toList_inj, String.toList_append, String.toList_ofList,
        toList_toString_path root, toList_toString_path (by simp [root]),
        List.flatMap_append]
    rw [joined, String.utf8ByteSize_append]
    exact Nat.le_add_right _ _

end Location

namespace FileTree

variable {tree : FileTree}

/-- A path from the root without `..` is the same seen from the root. -/
theorem flatten_path (tree : FileTree) {names : Location} (noDots : ".." ∉ names) :
    tree.flatten (Location.path names) = Location.path names := by
  induction names using List.reverseRecOn with
  | nil => rfl
  | append_singleton names name inductionHypothesis =>
      rw [List.mem_append, List.mem_singleton, not_or] at noDots
      exact (flatten_child (Ne.symm noDots.2) (Location.path names)).trans
        (congrArg (Path.child · name) (inductionHypothesis noDots.1))

/-- The text of a location is short enough to be looked up. -/
def Short (location : Location) : Prop :=
  (Location.path location).toString.utf8ByteSize < pathLimit

instance : DecidablePred Short := fun _ => Nat.decLt _ _

theorem Short.of_append {location below : Location}
    (short : Short (location ++ below)) :
    Short location :=
  (Location.utf8ByteSize_path_le location below).trans_lt short

/-- Why a proper name cannot be looked up, given what stands at the place that it is
looked up in and what stands there under this name. -/
def nameFailure (name : String) (place entry : Option Node) : Option SystemError :=
  match place with
  | none => some .noSuchEntry
  | some (.directory _ searchable) =>
    if !searchable then some .permissionDenied
    else if longestName < name.utf8ByteSize then some .nameTooLong
    else if entry.isNone then some .noSuchEntry
    else none
  | some _ => some .notDirectory

/-- Without following it, a proper name leads to the entry of this name. -/
theorem locateFrom_singleton
    {name : String}
    (proper : ProperName name)
    (links : Nat) (place : Location) :
    tree.locateFrom false links place [name] =
      match nameFailure name (tree.node? place) (tree.node? (place ++ [name])) with
      | some error => .error error
      | none => .ok (place ++ [name]) := by
  have looked := tree.looksUp place name
  rw [locateFrom_cons]
  generalize tree.lookupStep place name = step at looked
  cases looked with
  | nowhere here => simp [nameFailure, here]
  | @noDirectory _ node here noDirectory =>
      rw [here]
      cases node with
      | directory _ _ => cases noDirectory
      | file _ _ | link _ => rfl
  | stay _ silent => exact absurd silent (by simp [proper.1, proper.2.1])
  | locked here _ => simp [nameFailure, here]
  | up _ => exact absurd rfl proper.2.2
  | long searchable _ long =>
      obtain ⟨listable, here⟩ := searchable
      simp [nameFailure, here, long]
  | absent searchable _ short there =>
      obtain ⟨listable, here⟩ := searchable
      simp [nameFailure, here, Nat.not_lt.mpr short, there]
  | link searchable _ short there =>
      obtain ⟨listable, here⟩ := searchable
      simp [nameFailure, here, Nat.not_lt.mpr short, there]
  | down searchable _ short entry =>
      obtain ⟨listable, here⟩ := searchable
      obtain ⟨node, there, -⟩ := entry
      simp [nameFailure, here, Nat.not_lt.mpr short, there, locateFrom]

/-- Behind a straight path, an entry that can be looked up and is no link continues
it. -/
theorem Straight.of_locate
    {path : Path} {place location : Location} {name : String}
    (straight : Straight tree path place)
    (proper : ProperName name)
    (located : tree.locate false (path.child name) = .ok location)
    (noLink : ∀ target, tree.node? location ≠ some (.link target)) :
    Straight tree (path.child name) location ∧
      (tree.node? location).any Node.isLink = false := by
  obtain ⟨rfl, searchable, short, node, found⟩ :=
    straight.of_locate_child proper located
  have isNoLink := Node.any_isLink_eq_false_iff.mpr noLink
  refine ⟨straight.down searchable proper short ⟨node, found, ?_⟩, isNoLink⟩
  rwa [found] at isNoLink

/-! ## Names that lead down -/

/-- Names lead down from a place, from one entry to the next. -/
def Leads (tree : FileTree) (place : Location) : List String → Prop
  | [] => True
  | name :: rest =>
    '\x00' ∉ name.toList ∧
      nameFailure name (tree.node? place) (tree.node? (place ++ [name])) = none ∧
      Leads tree (place ++ [name]) rest

/-- No link stands where names lead down from a place. -/
def Linkless (tree : FileTree) (place : Location) (names : List String) : Prop :=
  ∀ front, front <+: names → ∀ target, tree.node? (place ++ front) ≠ some (.link target)

section Names

variable {place : Location} {name : String} {names rest : List String}

theorem leads_append (front behind : List String) :
    tree.Leads place (front ++ behind) ↔
      tree.Leads place front ∧ tree.Leads (place ++ front) behind := by
  induction front generalizing place with
  | nil => simp [Leads]
  | cons name rest inductionHypothesis =>
      rw [List.cons_append, Leads, Leads, inductionHypothesis, List.append_assoc,
        List.singleton_append, and_assoc, and_assoc]

/-- Where no entry is a link, no link stands anywhere. -/
theorem node?_ne_link
    (noLinks : ∀ entry ∈ tree.entries, entry.2.isLink = false)
    (location : Location) (target : String) :
    tree.node? location ≠ some (.link target) := by
  intro found
  by_cases root : location = []
  · rw [root, node?_root] at found
    cases found
  · cases noLinks _ (mem_entries_of_node? root found)

theorem Linkless.tail (linkless : tree.Linkless place (name :: rest)) :
    tree.Linkless (place ++ [name]) rest := by
  intro front within target
  rw [List.append_assoc]
  exact linkless (name :: front) (List.prefix_cons_inj name |>.mpr within) target

theorem Linkless.append
    {front behind : List String}
    (linkless : tree.Linkless place front)
    (linklessBehind : tree.Linkless (place ++ front) behind) :
    tree.Linkless place (front ++ behind) := by
  intro within starts target
  rcases List.prefix_or_prefix_of_prefix starts (List.prefix_append front behind) with
    inFront | ⟨others, rfl⟩
  · exact linkless within inFront target
  · rw [← List.append_assoc]
    exact linklessBehind others ((List.prefix_append_right_inj front).mp starts) target

theorem locate_child_of_straight
    (straight : Straight tree (Location.path place) place)
    (proper : ProperName name)
    (short : Short (place ++ [name])) :
    tree.locate false ((Location.path place).child name) =
      match nameFailure name (tree.node? place) (tree.node? (place ++ [name])) with
      | some error => .error error
      | none => .ok (place ++ [name]) := by
  have onward : tree.locate false ((Location.path place).child name) =
      tree.locateFrom false linkBudget (tree.startOf (Location.path place))
        ((Location.path place).names ++ [name]) :=
    if_neg (Nat.not_le.mpr short)
  rw [onward, straight.locateFrom_eq, locateFrom_singleton proper]

/-- Where no links stand, names that lead down are left as they are written, and no
others lead anywhere. -/
theorem expand_eq_ok_iff
    (straight : Straight tree (Location.path place) place)
    (linkless : tree.Linkless place names)
    (proper : ∀ name ∈ names, ProperName name)
    (short : Short (place ++ names))
    (expansion : Expansion) :
    tree.expand true [] (Location.path place) names = .ok expansion ↔
      tree.Leads place names ∧
        expansion = .settled (Location.path (place ++ names)) := by
  induction names generalizing place with
  | nil => simp [expand, Leads, eq_comm]
  | cons name rest inductionHypothesis =>
      obtain ⟨properName, properRest⟩ := List.forall_mem_cons.mp proper
      have next : place ++ name :: rest = place ++ [name] ++ rest := by
        simp
      rw [next] at short ⊢
      rw [Leads]
      by_cases null : name.toList.contains '\x00' = true
      · rw [expand_of_fails (Replaces.null null).eq]
        exact iff_of_false (by rintro ⟨⟩) fun leads => leads.1.1 (by simpa using null)
      have located := locate_child_of_straight straight properName short.of_append
      cases failure : nameFailure name (tree.node? place)
        (tree.node? (place ++ [name])) with
      | some error =>
          rw [failure] at located
          rw [expand_of_fails
            (Replaces.missing rfl properName (Bool.eq_false_iff.mpr null) located).eq]
          exact iff_of_false (by rintro ⟨⟩) fun leads =>
            Option.some_ne_none error leads.1.2.1
      | none =>
          rw [failure] at located
          obtain ⟨onward, noLink⟩ := straight.of_locate properName located
            (linkless [name] (List.prefix_append [name] rest))
          have plain : '\x00' ∉ name.toList := by
            simpa using null
          have straightNext : Straight tree (Location.path (place ++ [name]))
              (place ++ [name]) :=
            onward
          have behind := inductionHypothesis straightNext linkless.tail properRest short
          rw [expand_of_located properName (Bool.eq_false_iff.mpr null) located noLink]
          refine behind.trans ?_
          simp [plain]

/-- Where no links stand on its way, a path from the root leads to its
own location or nowhere. -/
theorem realLocation_path_eq_ok_iff
    (linkless : tree.Linkless [] names)
    (proper : ∀ name ∈ names, ProperName name)
    (short : Short names)
    (location : Location) :
    tree.realLocation (Location.path names) = .ok location ↔
      tree.Leads [] names ∧ location = names := by
  have expanded := expand_eq_ok_iff Straight.root linkless proper short
  have noDots : ".." ∉ names := fun member => (proper ".." member).2.2 rfl
  have start : tree.expandPath true (Location.path names) =
      tree.expand true [] (Location.path []) names := rfl
  rw [realLocation, start]
  cases outcome : tree.expand true [] (Location.path []) names with
  | error failure =>
      refine iff_of_false (by rintro ⟨⟩) fun leads => ?_
      cases outcome.symm.trans ((expanded _).mpr ⟨leads.1, rfl⟩)
  | ok expansion =>
      obtain ⟨leads, rfl⟩ := (expanded expansion).mp outcome
      dsimp only [Expansion.path]
      rw [List.nil_append, flatten_path tree noDots]
      simp [Location.path, leads, eq_comm]

end Names

/-! ## Places that are exchanged -/

section Exchange

variable {one other below : Location}

theorem node?_exchange_left (apart : Location.Apart one other) (below : Location) :
    (tree.exchange one other).node? (other ++ below) = tree.node? (one ++ below) := by
  rw [← Location.exchange_left one other below, node?_exchange apart]

theorem leads_exchange (apart : Location.Apart one other) (names : List String) :
    (tree.exchange one other).Leads (other ++ below) names ↔
      tree.Leads (one ++ below) names := by
  induction names generalizing below with
  | nil => rfl
  | cons name rest inductionHypothesis =>
      rw [Leads, Leads, List.append_assoc, List.append_assoc, inductionHypothesis,
        node?_exchange_left apart, node?_exchange_left apart]

/-- A proper name that nothing keeps from being looked up is that of an entry in a
directory that may be searched. -/
theorem of_nameFailure
    {name : String} {place : Location}
    (unfailing : nameFailure name (tree.node? place) (tree.node? (place ++ [name])) =
      none) :
    tree.Searchable place ∧ name.utf8ByteSize ≤ longestName ∧
      ∃ node, tree.node? (place ++ [name]) = some node := by
  unfold nameFailure at unfailing
  split at unfailing
  case h_2 listable searchable here =>
    cases searchable with
    | false => cases unfailing
    | true =>
        by_cases long : longestName < name.utf8ByteSize
        · simp [long] at unfailing
        · cases there : tree.node? (place ++ [name]) with
          | none => simp [there, long] at unfailing
          | some node => exact ⟨⟨listable, here⟩, Nat.not_lt.mp long, node, rfl⟩
  all_goals cases unfailing

/-- Where names lead down from the root and no link stands, they are a path without
links. -/
theorem straight_of_leads
    {names : List String}
    (linkless : tree.Linkless [] names)
    (proper : ∀ name ∈ names, ProperName name)
    (leads : tree.Leads [] names) :
    Straight tree (Location.path names) names := by
  induction names using List.reverseRecOn with
  | nil => exact Straight.root
  | append_singleton names name inductionHypothesis =>
      obtain ⟨leadsTo, -, unfailing, -⟩ := (leads_append names [name]).mp leads
      rw [List.nil_append] at unfailing
      obtain ⟨searchable, short, node, there⟩ := of_nameFailure unfailing
      rw [List.forall_mem_append, List.forall_mem_singleton] at proper
      have above := inductionHypothesis
        (fun front within =>
          linkless front (within.trans (List.prefix_append names [name])))
        proper.1 leadsTo
      refine above.down searchable proper.2 short ⟨node, there, ?_⟩
      have noLink := Node.any_isLink_eq_false_iff.mpr (linkless _ (List.prefix_refl _))
      rwa [List.nil_append, there] at noLink

/-- Directories lead from the root to a place, and no links. -/
structure Reached (tree : FileTree) (place : Location) : Prop where
  leads : tree.Leads [] place
  linkless : tree.Linkless [] place
  proper : ∀ name ∈ place, ProperName name

/-- If two places are exchanged to which directories lead, then what is written from
one of them leads to the same entry below the other, if there are no links below it
and no path is too long. -/
theorem leadsAlike_exchange
    (apart : Location.Apart one other)
    (reached : tree.Reached one)
    (reachedThere : (tree.exchange one other).Reached other)
    {names : List String}
    (linkless : tree.Linkless one names)
    (proper : ∀ name ∈ names, ProperName name)
    (short : Short (one ++ names))
    (shortThere : Short (other ++ names)) :
    LeadsAlike (Location.exchange one other) tree (tree.exchange one other)
      (Location.path (one ++ names)) (Location.path (other ++ names)) := by
  have linklessThere : (tree.exchange one other).Linkless other names := by
    intro front within target
    rw [node?_exchange_left apart]
    exact linkless front within target
  have here := realLocation_path_eq_ok_iff (reached.linkless.append linkless)
    (List.forall_mem_append.mpr ⟨reached.proper, proper⟩) short
  have there := realLocation_path_eq_ok_iff (reachedThere.linkless.append linklessThere)
    (List.forall_mem_append.mpr ⟨reachedThere.proper, proper⟩) shortThere
  have same : (tree.exchange one other).Leads [] (other ++ names) ↔
      tree.Leads [] (one ++ names) := by
    have behind := @leads_exchange tree one other [] apart names
    rw [List.append_nil, List.append_nil] at behind
    rw [leads_append, leads_append]
    exact and_congr (iff_of_true reachedThere.leads reached.leads) behind
  refine ⟨fun moved => ?_, fun location found => ?_⟩
  · rw [there, same]
    constructor
    · rintro ⟨leads, rfl⟩
      exact ⟨_, (here _).mpr ⟨leads, rfl⟩, Location.exchange_left one other names⟩
    · rintro ⟨location, found, rfl⟩
      obtain ⟨leads, rfl⟩ := (here location).mp found
      exact ⟨leads, Location.exchange_left one other names⟩
  · obtain ⟨leads, rfl⟩ := (here location).mp found
    rw [Location.exchange_left]
    have straight := straight_of_leads (reached.linkless.append linkless)
      (List.forall_mem_append.mpr ⟨reached.proper, proper⟩) leads
    have straightThere := straight_of_leads (reachedThere.linkless.append linklessThere)
      (List.forall_mem_append.mpr ⟨reachedThere.proper, proper⟩) (same.mpr leads)
    exact iff_of_true ⟨_, straightThere.locate_eq true shortThere⟩
      ⟨_, straight.locate_eq true short⟩

end Exchange

end FileTree
end KernelInventory
