import KernelInventory.Proofs.Resolution.Visit

/-!
# Handled lines in processing order

All lines of a resolution that are handled as part of a stanza, in the order in which
they are handled: the lines of a sourced file stand in the place of its `source` line.
Every line knows its visit by the visit's trail, the numbers of the `source` lines that
lead to it, so that two visits of one file differ.

The table of a resolution depends on this list alone: a line belongs to the
nearest header in front of it in the same visit, however many lines of other
visits stand between them.
-/

namespace KernelInventory
namespace Resolution

/-- A handled line: its file, the trail of the visit that it is read in, whether the
flag of a blank line is up, and its text without blanks around it. -/
structure Handled where
  file : Location
  trail : List Nat
  afterBlank : Bool
  line : List Char
deriving Repr, DecidableEq

/-- The component that a handled line names as a header. -/
def Handled.header? (handled : Handled) : Option String :=
  Stanza.header? handled.afterBlank handled.line

/-- The component of the nearest header of a visit, behind some handled lines. -/
def ownerIn (before : List Handled) (trail : List Nat) : Option String :=
  ((before.filter fun earlier => earlier.trail = trail).filterMap
    Handled.header?).getLast?

/-- The component that a handled line belongs to, given the lines in front of it. -/
def Handled.owner? (before : List Handled) (handled : Handled) : Option String :=
  ownerIn before handled.trail

/-- What a handled line does to the table, and in which file, given the
lines in front of it. -/
def Handled.change? (before : List Handled) (handled : Handled) :
    Option (Location × Stanza.Effect) :=
  (Stanza.effectOf (handled.owner? before) handled.afterBlank handled.line).map
    fun effect =>
    (handled.file, effect)

/-- What handled lines do to the table, given the lines in front of them. -/
def changes (before handledLines : List Handled) : List (Location × Stanza.Effect) :=
  (withPast before handledLines).filterMap fun (earlier, handled) =>
    handled.change? earlier

/-- The table that changes lead to. -/
def tableOf (changed : List (Location × Stanza.Effect)) : Table :=
  changed.foldl
    (fun table (file, effect) => effect.apply (some file.path.toString) table)
      Table.empty

/-- The change of the table by an event, and the file it happens in. -/
def Event.change? : Event → Option (Location × Stanza.Effect)
  | effect file change => some (file, change)
  | _ => none

/-- The table after events is that of their changes. -/
theorem tableAfter_eq_tableOf (events : List Event) :
    tableAfter Table.empty events = tableOf (events.filterMap Event.change?) := by
  rw [tableAfter, tableOf, List.foldl_filterMap]
  congr 1
  funext table event
  cases event <;> rfl

/-! ## The order of processing -/

section Processing

variable (tree : FileTree) (settings : Settings) (root : Path)

/-- The handled lines of a visit of a file, and of all visits inside it. -/
def handledIn (chain : List Location) (trail : List Nat) (file : Location)
    (bytes : List UInt8) :
    List Handled :=
  (withPast [] (Stanza.readings settings.skipHelp (linesOf bytes))).flatMap
    fun (past, reading) =>
    match reading.kind with
    | .stanza => [⟨file, trail, Stanza.flagAfter past, reading.line⟩]
    | .source text =>
      match _ : aim tree settings root chain text with
      | .follow target content =>
        handledIn (target :: chain) (trail ++ [past.length]) target content
      | _ => []
    | _ => []
termination_by (tree.freshLocations chain).length
decreasing_by
  next followed =>
    obtain ⟨fresh, opened⟩ := of_aim_follow followed
    exact FileTree.freshLocations_lt fresh opened

/-- The handled lines that a line of a file stands for: itself, or those
of the file it sources. -/
def handledAt (chain : List Location) (trail : List Nat) (file : Location)
    (past : List Stanza.Reading) (reading : Stanza.Reading) : List Handled :=
  match reading.kind with
  | .stanza => [⟨file, trail, Stanza.flagAfter past, reading.line⟩]
  | .source text =>
    match aim tree settings root chain text with
    | .follow target content =>
      handledIn tree settings root (target :: chain) (trail ++ [past.length])
        target content
    | _ => []
  | _ => []

/-- The handled lines of a visit, line by line. -/
theorem handledIn_eq
    (chain : List Location) (trail : List Nat) (file : Location) (bytes : List UInt8) :
    handledIn tree settings root chain trail file bytes =
      (withPast [] (Stanza.readings settings.skipHelp (linesOf bytes))).flatMap
        fun (past, reading) =>
          handledAt tree settings root chain trail file past reading := by
  rw [handledIn]
  apply List.flatMap_congr
  rintro ⟨past, kind, line⟩ _
  unfold handledAt
  cases kind with
  | source text =>
      dsimp only
      split
      next found =>
        rw [found]
      next notFollowed =>
        split
        next found =>
          exact absurd found (notFollowed _ _)
        · rfl
  | comment | blank | help | stanza => rfl

/-- All handled lines of a resolution. -/
def processed (entry : Path) : List Handled :=
  match openEntry tree entry with
  | .error _ => []
  | .ok (file, bytes) =>
    handledIn tree settings (chooseRoot tree settings entry).1 [file] [] file bytes

end Processing

/-! ## Trails -/

/-- A visit does not start inside itself. -/
theorem not_prefix_self (trail : List Nat) (number : Nat) :
    ¬ trail ++ [number] <+: trail := by
  intro inside
  have longer := inside.length_le
  rw [List.length_append, List.length_singleton] at longer
  omega

section Trails

variable {tree : FileTree} {settings : Settings} {root : Path}

/-- Every line is handled in its visit, or in one that starts inside it. -/
theorem trail_prefix_of_mem_handledIn
    (chain : List Location) {trail : List Nat} {file : Location} {bytes : List UInt8}
    {handled : Handled}
    (member : handled ∈ handledIn tree settings root chain trail file bytes) :
    trail <+: handled.trail := by
  induction chain using @chain_induction tree settings root generalizing trail file
    bytes with
  | step chain inductionHypothesis =>
      rw [handledIn_eq] at member
      obtain ⟨⟨past, kind, line⟩, -, here⟩ := List.mem_flatMap.mp member
      unfold handledAt at here
      cases kind with
      | stanza =>
          rw [List.mem_singleton.mp here]
      | source text =>
          dsimp only at here
          split at here
          next target content followed =>
            have nested := inductionHypothesis text target content followed here
            exact (List.prefix_append trail [past.length]).trans nested
          · cases here
      | comment | blank | help => cases here

/-- What a line that is not handled itself stands for is handled in the
visit that it starts. -/
theorem trail_prefix_of_mem_handledAt
    {chain : List Location} {trail : List Nat} {file : Location}
    {past : List Stanza.Reading}
    {reading : Stanza.Reading} {handled : Handled}
    (notHandled : reading.kind ≠ .stanza)
    (member : handled ∈ handledAt tree settings root chain trail file past reading) :
    trail ++ [past.length] <+: handled.trail := by
  obtain ⟨kind, line⟩ := reading
  unfold handledAt at member
  cases kind with
  | stanza => exact absurd rfl notHandled
  | source text =>
      dsimp only at member
      split at member
      · exact trail_prefix_of_mem_handledIn _ member
      · cases member
  | comment | blank | help => cases member

end Trails

/-! ## Owners -/

theorem ownerIn_snoc (before : List Handled) (handled : Handled) (trail : List Nat) :
    ownerIn (before ++ [handled]) trail =
      (if handled.trail = trail then handled.header? else none).or
        (ownerIn before trail) := by
  rw [ownerIn, List.filter_append, List.filterMap_append, List.getLast?_append]
  by_cases same : handled.trail = trail
  · cases named : handled.header? <;> simp [same, named, ownerIn]
  · simp [same, ownerIn]

/-- Lines of other visits have no say in who owns the lines of a visit. -/
theorem ownerIn_append_of_ne
    (before : List Handled) {others : List Handled} {trail : List Nat}
    (different : ∀ other ∈ others, other.trail ≠ trail) :
    ownerIn (before ++ others) trail = ownerIn before trail := by
  have nothing : (others.filter fun other => other.trail = trail) = [] := by
    rw [List.filter_eq_nil_iff]
    intro other member
    simpa using different other member
  rw [ownerIn, List.filter_append, nothing, List.append_nil, ownerIn]

/-- A component that owns a line has been named by a header. -/
theorem exists_header_of_ownerIn
    {before : List Handled} {trail : List Nat} {name : String}
    (owner : ownerIn before trail = some name) :
    ∃ handled ∈ before, handled.header? = some name := by
  have named := List.mem_of_getLast? owner
  obtain ⟨handled, member, header⟩ := List.mem_filterMap.mp named
  exact ⟨handled, List.mem_of_mem_filter member, header⟩

/-! ## The changes of the table -/

theorem changes_append (before left right : List Handled) :
    changes before (left ++ right) = changes before left ++ changes (before ++ left)
      right := by
  rw [changes, withPast_append, List.filterMap_append, changes, changes]

theorem changes_snoc (log : List Handled) (handled : Handled) :
    changes [] (log ++ [handled]) = changes [] log ++ (handled.change? log).toList := by
  rw [changes_append, List.nil_append]
  cases found : handled.change? log <;> simp [changes, found]

/-- Behind some handled lines, a visit has gone through some lines of its file: the
owner is the component of the nearest header among these, and the visits that later
lines start have not begun. -/
structure Aligned (before : List Handled) (trail : List Nat)
    (past : List Stanza.Reading) :
    Prop where
  owner : ownerIn before trail = Stanza.ownerAfter past
  fresh : ∀ earlier ∈ before, ∀ number, past.length ≤ number →
    ¬ trail ++ [number] <+: earlier.trail

/-- A visit that has not begun has no line behind it. -/
theorem Aligned.initial
    {before : List Handled} {trail : List Nat}
    (fresh : ∀ earlier ∈ before, ¬ trail <+: earlier.trail) :
    Aligned before trail [] where
  owner := by
    have different : ∀ earlier ∈ before, earlier.trail ≠ trail := by
      intro earlier member same
      exact fresh earlier member (same ▸ List.prefix_refl earlier.trail)
    exact ownerIn_append_of_ne [] different
  fresh := by
    intro earlier member number _ started
    exact fresh earlier member ((List.prefix_append trail [number]).trans started)

/-- A handled line of the visit keeps it aligned. -/
theorem Aligned.handle
    {before : List Handled} {trail : List Nat} {past : List Stanza.Reading}
    (aligned : Aligned before trail past)
    {reading : Stanza.Reading}
    (handles : reading.kind = .stanza)
    (file : Location) :
    Aligned (before ++ [⟨file, trail, Stanza.flagAfter past, reading.line⟩]) trail
      (past ++ [reading]) := by
  refine ⟨?_, ?_⟩
  · rw [ownerIn_snoc, if_pos rfl, aligned.owner, Stanza.ownerAfter_snoc,
      Stanza.Reading.header?, if_pos handles, Handled.header?]
  · intro earlier member number behind
    rw [List.length_append, List.length_singleton] at behind
    rcases List.mem_append.mp member with old | new
    · exact aligned.fresh earlier old number (by omega)
    · rw [List.mem_singleton.mp new]
      exact not_prefix_self trail number

/-- The handled lines of a visit that the next line starts keep the
visit around it aligned. -/
theorem Aligned.pass
    {before inside : List Handled} {trail : List Nat} {past : List Stanza.Reading}
    (aligned : Aligned before trail past)
    {reading : Stanza.Reading}
    (notHandled : reading.kind ≠ .stanza)
    (nested : ∀ inner ∈ inside, trail ++ [past.length] <+: inner.trail) :
    Aligned (before ++ inside) trail (past ++ [reading]) := by
  refine ⟨?_, ?_⟩
  · rw [ownerIn_append_of_ne, aligned.owner, Stanza.ownerAfter_snoc,
      Stanza.Reading.header?, if_neg notHandled, Option.none_or]
    intro inner member same
    exact not_prefix_self trail past.length (same ▸ nested inner member)
  · intro earlier member number behind started
    rw [List.length_append, List.length_singleton] at behind
    rcases List.mem_append.mp member with old | new
    · exact aligned.fresh earlier old number (by omega) started
    · have same :=
        List.prefix_of_prefix_length_le started (nested earlier new) (by simp)
      have numbers := List.append_cancel_left (same.eq_of_length (by simp))
      rw [List.singleton_inj] at numbers
      omega

section Simulation

variable {tree : FileTree} {settings : Settings} {root : Path}

/-- The next line of the file keeps a visit aligned, whatever it stands for. -/
theorem Aligned.step
    {before : List Handled} {trail : List Nat} {past : List Stanza.Reading}
    (aligned : Aligned before trail past)
    (chain : List Location)
    (file : Location)
    (reading : Stanza.Reading) :
    Aligned (before ++ handledAt tree settings root chain trail file past reading) trail
      (past ++ [reading]) := by
  by_cases handles : reading.kind = .stanza
  · have itself : handledAt tree settings root chain trail file past reading =
        [⟨file, trail, Stanza.flagAfter past, reading.line⟩] := by
      rw [handledAt, handles]
    exact itself ▸ aligned.handle handles file
  · exact aligned.pass handles fun inner member =>
      trail_prefix_of_mem_handledAt handles member

/-- The handled lines of a visit change the table as its events do, whatever has been
handled before the visit begins. -/
def Mirrored (tree : FileTree) (settings : Settings) (root : Path)
    (chain : List Location) (file : Location) (bytes : List UInt8) : Prop :=
  ∀ before trail, (∀ earlier ∈ before, ¬ trail <+: earlier.trail) →
    changes before (handledIn tree settings root chain trail file bytes) =
      (visit tree settings root chain file bytes).filterMap Event.change?

section Lines

variable {chain : List Location}
  (nested : ∀ text target content,
    aim tree settings root chain text = .follow target content →
    Mirrored tree settings root (target :: chain) target content)

include nested

/-- The changes of the table by what a line stands for are those of the line's events,
if this holds of the visits that the line can start. -/
theorem changes_handledAt
    {before : List Handled} {trail : List Nat} {past : List Stanza.Reading}
    (aligned : Aligned before trail past)
    (file : Location)
    (reading : Stanza.Reading) :
    changes before (handledAt tree settings root chain trail file past reading) =
      (lineEvents tree settings root chain file past reading).filterMap
        Event.change? := by
  obtain ⟨kind, line⟩ := reading
  unfold handledAt lineEvents Stanza.Reading.toEntry
  cases kind with
  | comment | blank | help => rfl
  | stanza =>
      have owner : Handled.owner? before ⟨file, trail, Stanza.flagAfter past, line⟩ =
          Stanza.ownerAfter past := aligned.owner
      cases found : Stanza.effectOf (Stanza.ownerAfter past)
        (Stanza.flagAfter past) line <;>
          simp [changes, Handled.change?, owner, found, entryEvents, Event.change?]
  | source text =>
      dsimp only
      rw [Option.toList_some, List.flatMap_singleton, entryEvents]
      cases aimed : aim tree settings root chain text with
      | follow target content =>
          have unbegun := fun earlier member =>
            aligned.fresh earlier member past.length le_rfl
          rw [filterMap_sourceEvents_of_follow aimed rfl rfl]
          exact nested text target content aimed before (trail ++ [past.length]) unbegun
      | filtered _ | skipped _ | locked _ _ | fault _ =>
          rw [sourceEvents, aimed]
          rfl

/-- The same for all lines that are left of a file. -/
theorem changes_lines
    (file : Location)
    (rest : List Stanza.Reading)
    {before : List Handled} {trail : List Nat} {past : List Stanza.Reading}
    (aligned : Aligned before trail past) :
    changes before ((withPast past rest).flatMap fun (past, reading) =>
        handledAt tree settings root chain trail file past reading) =
      (withPast past rest).flatMap fun (past, reading) =>
        (lineEvents tree settings root chain file past reading).filterMap
          Event.change? := by
  induction rest generalizing before past with
  | nil => rfl
  | cons reading rest inductionHypothesis =>
      rw [withPast_cons, List.flatMap_cons, List.flatMap_cons, changes_append,
        changes_handledAt nested aligned]
      rw [inductionHypothesis (aligned.step chain file reading)]

end Lines

/-- Every visit is mirrored by its handled lines. -/
theorem mirrored (chain : List Location) (file : Location) (bytes : List UInt8) :
    Mirrored tree settings root chain file bytes := by
  induction chain using @chain_induction tree settings root generalizing file bytes with
  | step chain inductionHypothesis =>
      intro before trail fresh
      have nested := fun text target content followed =>
        inductionHypothesis text target content followed target content
      rw [handledIn_eq, visit_eq_lines,
        changes_lines nested file _ (Aligned.initial fresh), List.filterMap_cons,
        List.filterMap_flatMap]
      rfl

end Simulation

/-- The table of a run is that of its handled lines. -/
theorem table_of_run
    {tree : FileTree} {settings : Settings} {entry : Path} {result : Result}
    (returned : (run tree settings entry).1 = .ok result) :
    result.table = tableOf (changes [] (processed tree settings entry)) := by
  obtain ⟨file, bytes, opened, -, rfl⟩ := run_eq_ok_iff.mp returned
  rw [processed, opened]
  dsimp only
  rw [mirrored [file] file bytes [] [] (by simp), ← tableAfter_eq_tableOf]
  rfl

end Resolution
end KernelInventory
