import KernelInventory.Proofs.Resolution.Visit
import Mathlib.Logic.Function.Iterate

/-!
# The moments of a resolution

A resolution as a machine that takes one step at a time.  A moment holds the files that
are being read, the innermost first, and what has happened so far.  One step opens the
innermost file, reads its next line, or closes it; a `source` line that is followed
puts another file on top.

The machine comes to an end from every start, and what it ends with is what the
resolution returns. The induction is on the chains of open files; between two steps of a
file stand all the moments of the files that it sources.
-/

namespace KernelInventory
namespace Resolution

/-- A file that is being read. -/
structure Frame where
  file : Location
  /-- The files that its `source` lines must not lead to. -/
  chain : List Location
  state : Stanza.State := {}
  /-- The lines that are left, once the file has been opened. -/
  rest : Option (List (List Char)) := none

/-- The files that are being read, innermost first, what has happened, and the failure
that has ended the resolution, if one has. -/
structure Moment where
  frames : List Frame
  events : List Event
  failure : Option Failure

namespace Moment

/-- The files that are being read, innermost first. -/
def files (moment : Moment) : List Location :=
  moment.frames.map (·.file)

/-- The issues recorded so far. -/
def issues (moment : Moment) : List Issue :=
  moment.events.filterMap Event.issue?

/-- What a resolution returns that ends with a moment. -/
def outcome (moment : Moment) : Except Failure Result :=
  match moment.failure with
  | some failure => .error failure
  | none => .ok (Result.ofEvents moment.events)

end Moment

/-- What happens when a file has been read to its end: the file that sourced it goes
on. -/
def closing (file : Location) : List Frame → List Event
  | [] => []
  | _ :: _ => [.finished file]

section Machine

variable (tree : FileTree) (settings : Settings) (entry : Path)

/-- The resolution before its first step. -/
def start : Moment :=
  match tree.realLocation entry with
  | .error failure => ⟨[], [], some (.ofEntry entry failure)⟩
  | .ok file => ⟨[{ file := file, chain := [file] }], [], none⟩

/-- Handle what the line says that the innermost file has come to. -/
def handle (frame : Frame) (outer : List Frame) (events : List Event) :
    Stanza.Entry → Moment
  | .effect change => ⟨frame :: outer, events ++ [.effect frame.file change], none⟩
  | .source text =>
    match aim tree settings (chooseRoot tree settings entry).1 frame.chain text with
    | .filtered target => ⟨frame :: outer, events ++ [.filtered target], none⟩
    | .skipped cause => ⟨frame :: outer, events ++ [.skipped frame.file cause], none⟩
    | .locked target _ | .follow target _ =>
      ⟨{ file := target, chain := target :: frame.chain } :: frame :: outer,
        events ++ [.entering target frame.file], none⟩
    | .fault failure => ⟨[], events, some (.fault failure)⟩

/-- Open the innermost file.  If it cannot be opened, the file that sourced it goes on,
and without such a file the resolution fails. -/
def openFile (frame : Frame) (outer : List Frame) (events : List Event) : Moment :=
  match tree.openAt frame.file, outer with
  | .ok bytes, _ =>
    ⟨{ frame with rest := some (linesOf bytes) } :: outer,
      events ++ [.opened frame.file], none⟩
  | .error error, caller :: _ =>
    ⟨outer, events ++ [.skipped caller.file (.unreadable frame.file error)], none⟩
  | .error error, [] =>
    ⟨[], events, some (.ofEntry entry (.refused error frame.file.path.toString))⟩

/-- One step of a resolution.  Without an open file nothing happens any more. -/
def step (moment : Moment) : Moment :=
  match moment.frames with
  | [] => moment
  | frame :: outer =>
    match frame.rest with
    | none => openFile tree entry frame outer moment.events
    | some [] => ⟨outer, moment.events ++ closing frame.file outer, none⟩
    | some (raw :: rest) =>
      let (state, said) := Stanza.readRaw settings.skipHelp frame.state raw
      let advanced := { frame with state := state, rest := some rest }
      match said with
      | none => ⟨advanced :: outer, moment.events, none⟩
      | some said => handle tree settings entry advanced outer moment.events said

/-- The moment after a number of steps. -/
def momentAfter (count : Nat) : Moment :=
  (step tree settings entry)^[count] (start tree entry)

/-- Whether a moment leads to another one. -/
def Reaches (moment later : Moment) : Prop :=
  ∃ count, (step tree settings entry)^[count] moment = later

variable {tree settings entry}

theorem momentAfter_succ (count : Nat) :
    momentAfter tree settings entry (count + 1) =
      step tree settings entry (momentAfter tree settings entry count) :=
  Function.iterate_succ_apply' _ count _

theorem Reaches.refl (moment : Moment) : Reaches tree settings entry moment moment :=
  ⟨0, rfl⟩

theorem Reaches.trans
    {first second third : Moment}
    (toSecond : Reaches tree settings entry first second)
    (toThird : Reaches tree settings entry second third) :
    Reaches tree settings entry first third := by
  obtain ⟨before, rfl⟩ := toSecond
  obtain ⟨behind, rfl⟩ := toThird
  exact ⟨behind + before, Function.iterate_add_apply _ behind before first⟩

/-- What the next moment leads to, this moment leads to. -/
theorem Reaches.head
    {moment later : Moment}
    (onward : Reaches tree settings entry (step tree settings entry moment) later) :
    Reaches tree settings entry moment later :=
  Reaches.trans ⟨1, rfl⟩ onward

end Machine

/-! ## From one file to the next -/

/-- The moment when everything has happened that happens inside a file, with the files
around it: unless a fault has ended the resolution, the file around it goes on. -/
def settle (outer : List Frame) (events inside : List Event) : Moment :=
  match inside.findSome? Event.fault? with
  | none => ⟨outer, events ++ inside, none⟩
  | some failure => ⟨[], events ++ beforeFault inside, some (.fault failure)⟩

theorem settle_of_faultless
    (outer : List Frame) (events : List Event) {inside : List Event}
    (faultless : inside.findSome? Event.fault? = none) :
    settle outer events inside = ⟨outer, events ++ inside, none⟩ := by
  rw [settle, faultless]

/-- What happens without a fault can be counted among what has happened. -/
theorem settle_append_of_faultless
    (outer : List Frame) (events : List Event) {left : List Event}
    (faultless : left.findSome? Event.fault? = none)
    (right : List Event) :
    settle outer events (left ++ right) = settle outer (events ++ left) right := by
  have passed : beforeFault (left ++ right) = left ++ beforeFault right := by
    rw [beforeFault, List.takeWhile_append_of_pos]
    · rfl
    · intro event member
      rw [List.findSome?_eq_none_iff.mp faultless event member]
      rfl
  rw [settle, settle, List.findSome?_append, faultless, Option.none_or, passed]
  cases right.findSome? Event.fault? <;> simp

/-- Behind a fault nothing happens any more. -/
theorem settle_append_of_fault
    (outer other : List Frame) (events : List Event) {left : List Event}
    {failure : FileFailure}
    (faulty : left.findSome? Event.fault? = some failure)
    (right : List Event) :
    settle outer events (left ++ right) = settle other events left := by
  have stopped : beforeFault (left ++ right) = beforeFault left := by
    obtain ⟨before, event, behind, rfl, fault, faultless⟩ :=
      List.findSome?_eq_some_iff.mp faulty
    have silent : ∀ earlier ∈ before, (earlier.fault?.isNone) = true := by
      intro earlier member
      rw [faultless earlier member]
      rfl
    rw [beforeFault, beforeFault, List.append_assoc,
      List.takeWhile_append_of_pos silent, List.takeWhile_append_of_pos silent]
    simp [fault]
  rw [settle, settle, List.findSome?_append, faulty, Option.some_or, stopped]

section Simulation

variable {tree : FileTree} {settings : Settings} {entry : Path}

/-- What happens in one part and then in another one happens in both, unless a fault in
the first part has ended the resolution. -/
theorem Reaches.settle_append
    {moment : Moment} {middle outer : List Frame} {events left right : List Event}
    (first : Reaches tree settings entry moment (settle middle events left))
    (second : Reaches tree settings entry ⟨middle, events ++ left, none⟩
      (settle outer (events ++ left) right)) :
    Reaches tree settings entry moment (settle outer events (left ++ right)) := by
  cases found : left.findSome? Event.fault? with
  | none =>
      rw [settle_of_faultless middle events found] at first
      rw [settle_append_of_faultless outer events found]
      exact first.trans second
  | some failure =>
      rw [settle_append_of_fault outer middle events found]
      exact first

/-- A file that lies on a chain is read to its end, through everything that it
sources. -/
def Completes (tree : FileTree) (settings : Settings) (entry : Path)
    (chain : List Location) (file : Location) (bytes : List UInt8) : Prop :=
  ∀ outer events,
    Reaches tree settings entry
      ⟨{ file := file, chain := chain } :: outer, events, none⟩ (settle outer events
        (visit tree settings (chooseRoot tree settings entry).1 chain file bytes ++
          closing file outer))

/-- Handling a line leads behind everything that the line makes happen, if the files
that it can source are read to their ends. -/
theorem reaches_handle
    {frame : Frame}
    (nested : ∀ text target content,
      aim tree settings (chooseRoot tree settings entry).1 frame.chain text =
          .follow target content →
        Completes tree settings entry (target :: frame.chain) target content)
    (outer : List Frame)
    (events : List Event)
    (said : Stanza.Entry) :
    Reaches tree settings entry (handle tree settings entry frame outer events said)
      (settle (frame :: outer) events
        (entryEvents tree settings (chooseRoot tree settings entry).1 frame.chain
          frame.file said)) := by
  cases said with
  | effect change => exact Reaches.refl _
  | source text =>
      rw [handle, entryEvents, sourceEvents]
      cases aimed : aim tree settings (chooseRoot tree settings entry).1
        frame.chain text with
      | filtered target => exact Reaches.refl _
      | skipped cause => exact Reaches.refl _
      | fault failure =>
          dsimp only
          rw [settle]
          simpa [Event.fault?, beforeFault] using Reaches.refl _
      | locked target error =>
          apply Reaches.head
          simp only [step, openFile, of_aim_locked aimed, List.append_assoc]
          exact Reaches.refl _
      | follow target content =>
          have inside := nested text target content aimed (frame :: outer)
            (events ++ [.entering target frame.file])
          rw [← settle_append_of_faultless _ _ (by rfl)] at inside
          exact inside

/-- The lines that are left of a file lead behind everything that they make happen, if
the files that they can source are read to their ends. -/
theorem reaches_lines
    {chain : List Location}
    (nested : ∀ text target content,
      aim tree settings (chooseRoot tree settings entry).1 chain text =
        .follow target content →
        Completes tree settings entry (target :: chain) target content)
    (file : Location)
    (lines : List (List Char))
    (state : Stanza.State)
    (outer : List Frame)
    (events : List Event) :
    Reaches tree settings entry
      ⟨⟨file, chain, state, some lines⟩ :: outer, events, none⟩ (settle outer events
        ((Stanza.entriesFrom settings.skipHelp state lines).flatMap
          (entryEvents tree settings (chooseRoot tree settings entry).1 chain file) ++
            closing file outer)) := by
  induction lines generalizing state events with
  | nil =>
      apply Reaches.head
      rw [settle_of_faultless]
      · exact Reaches.refl _
      · cases outer <;> rfl
  | cons raw rest inductionHypothesis =>
      apply Reaches.head
      rw [Stanza.entriesFrom, step]
      dsimp only
      cases said : (Stanza.readRaw settings.skipHelp state raw).2 with
      | none => exact inductionHypothesis _ events
      | some line =>
          rw [Option.toList_some, List.singleton_append, List.flatMap_cons,
            List.append_assoc]
          exact Reaches.settle_append (reaches_handle nested outer events line)
            (inductionHypothesis _ _)

/-- Every file that can be read is read to its end, whatever the files source. -/
theorem completes
    (chain : List Location) {file : Location} {bytes : List UInt8}
    (readable : tree.openAt file = .ok bytes) :
    Completes tree settings entry chain file bytes := by
  induction chain using @chain_induction tree settings
    (chooseRoot tree settings entry).1 generalizing file bytes with
  | step chain inductionHypothesis =>
      intro outer events
      have nested : ∀ text target content,
          aim tree settings (chooseRoot tree settings entry).1 chain text =
              .follow target content →
            Completes tree settings entry (target :: chain) target content :=
        fun text target content followed =>
          inductionHypothesis text target content followed (of_aim_follow followed).2
      have lines :=
        reaches_lines nested file (linesOf bytes) {} outer (events ++ [.opened file])
      rw [← settle_append_of_faultless _ _ (by rfl)] at lines
      apply Reaches.head
      rw [visit_eq_entries]
      simp only [step, openFile, readable]
      exact lines

/-- When everything has happened that happens inside the entry file, the resolution has
ended with what the events amount to. -/
theorem outcome_settle (events : List Event) :
    (settle [] [] events).outcome =
      match events.findSome? Event.fault? with
      | some failure => .error (.fault failure)
      | none => .ok (Result.ofEvents (beforeFault events)) := by
  rw [settle]
  cases found : events.findSome? Event.fault? with
  | none =>
      rw [beforeFault_eq_self (List.findSome?_eq_none_iff.mp found)]
      rfl
  | some failure => rfl

/-- Every resolution comes to an end, and returns what it ends with. -/
theorem exists_end (tree : FileTree) (settings : Settings) (entry : Path) :
    ∃ count,
      (momentAfter tree settings entry count).frames = [] ∧
        (momentAfter tree settings entry count).outcome =
          (run tree settings entry).1 := by
  cases found : tree.realLocation entry with
  | error failure =>
      refine ⟨0, ?_⟩
      simp [momentAfter, start, found, run, openEntry, Moment.outcome]
  | ok file =>
      cases read : tree.openAt file with
      | error error =>
          refine ⟨1, ?_⟩
          simp [momentAfter, start, step, openFile, found, read, run, openEntry,
            Moment.outcome]
      | ok bytes =>
          have complete : Completes tree settings entry [file] file bytes :=
            completes [file] read
          obtain ⟨count, ended⟩ := complete [] []
          rw [closing, List.append_nil] at ended
          refine ⟨count, ?_⟩
          rw [momentAfter, start, found, ended]
          refine ⟨?_, ?_⟩
          · rw [settle]
            split <;> rfl
          · have opened : openEntry tree entry = .ok (file, bytes) := by
              rw [openEntry, found]
              dsimp only
              rw [read]
            rw [outcome_settle, run, opened]
            dsimp only
            generalize (visit tree settings _ [file] file bytes).findSome?
              Event.fault? = fault
            cases fault <;> rfl

end Simulation

end Resolution
end KernelInventory
