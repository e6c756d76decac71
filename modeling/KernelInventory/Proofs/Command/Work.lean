import KernelInventory.Command.Run
import Mathlib

/-!
# Parts of a run

Parts of a run follow one another like the steps of a computation.  What a run checks
before it comes to the architectures shows nothing unless it stops the run.
-/

namespace KernelInventory
namespace Command
namespace Work

variable {α β γ : Type}

/-! ## One part after another -/

theorem done_andThen (value : α) (next : α → Work β) :
    (done value).andThen next = next value := by
  rw [andThen, done]
  dsimp only
  generalize next value = second
  obtain ⟨⟨stdout, stderr, log⟩, outcome⟩ := second
  change Work.mk ⟨"" ++ stdout, "" ++ stderr, [] ++ log⟩ outcome = _
  rw [String.empty_append, String.empty_append, List.nil_append]

theorem andThen_done (first : Work α) : first.andThen done = first := by
  obtain ⟨⟨stdout, stderr, log⟩, stop | value⟩ := first
  · rfl
  · change Work.mk ⟨stdout ++ "", stderr ++ "", log ++ []⟩ (.ok value) = _
    rw [String.append_empty, String.append_empty, List.append_nil]

theorem andThen_assoc (first : Work α) (next : α → Work β) (last : β → Work γ) :
    (first.andThen next).andThen last = first.andThen fun value =>
      (next value).andThen last := by
  obtain ⟨transcript, stop | value⟩ := first
  · rfl
  · rcases same : next value with ⟨second, stop | middle⟩
    · simp [andThen, same]
    · simp [andThen, same, Transcript.append_assoc]

theorem andThen_of_error
    {first : Work α} {reason : Stop}
    (stops : first.outcome = .error reason)
    (next : α → Work β) :
    first.andThen next = ⟨first.transcript, .error reason⟩ := by
  rw [andThen, stops]

theorem andThen_of_ok
    {first : Work α} {value : α}
    (goesOn : first.outcome = .ok value)
    (next : α → Work β) :
    first.andThen next =
      ⟨first.transcript ++ (next value).transcript, (next value).outcome⟩ := by
  rw [andThen, goesOn]

/-- What hands a value on at the end has handed one on in between. -/
theorem exists_of_andThen
    {first : Work α} {next : α → Work β} {result : β}
    (finished : (first.andThen next).outcome = .ok result) :
    ∃ value, first.outcome = .ok value ∧ (next value).outcome = .ok result := by
  cases outcome : first.outcome with
  | error reason =>
      rw [andThen_of_error outcome] at finished
      cases finished
  | ok value =>
      rw [andThen_of_ok outcome] at finished
      exact ⟨value, rfl, finished⟩

/-! ## What parts have in common -/

/-- A property that the simplest parts of a run have, and parts that follow one another
if each of them has it. -/
structure Pervasive (P : {α : Type} → Work α → Prop) : Prop where
  of_done : ∀ {α : Type} (value : α), P (done value)
  of_note : ∀ entries : List LogEntry, P (write (.note entries))
  of_stop : ∀ {α : Type} (reason : Stop), P (stop reason : Work α)
  of_giveUp : ∀ {α : Type} (warning message : String),
    P (giveUp warning message : Work α)
  of_andThen : ∀ {α β : Type} {first : Work α} {next : α → Work β}, P first →
    (∀ value, first.outcome = .ok value → P (next value)) → P (first.andThen next)

theorem Pervasive.of_check
    {P : {α : Type} → Work α → Prop} (pervasive : Pervasive P)
    {ε : Type} (failing : ε → Failure) (found : Except ε α) :
    P (check failing found) := by
  cases found with
  | error failure => exact pervasive.of_stop _
  | ok value => exact pervasive.of_done value

/-- Unless it stops the run, a part writes nothing to the output streams. -/
def Quiet (work : Work α) : Prop :=
  ∀ value, work.outcome = .ok value → work.transcript.stdout = "" ∧
    work.transcript.stderr = ""

theorem pervasive_quiet : Pervasive @Quiet where
  of_done _ := fun _ _ => ⟨rfl, rfl⟩
  of_note _ := fun _ _ => ⟨rfl, rfl⟩
  of_stop _ := nofun
  of_giveUp _ _ := nofun
  of_andThen := by
    intro _ _ first next quietFirst quietNext result finished
    obtain ⟨value, outcome, finishedNext⟩ := exists_of_andThen finished
    obtain ⟨stdout, stderr⟩ := quietFirst value outcome
    obtain ⟨stdoutNext, stderrNext⟩ := quietNext value outcome result finishedNext
    rw [andThen_of_ok outcome]
    simp [stdout, stderr, stdoutNext, stderrNext]

end Work

/-! ## The parts of a run -/

open Work

namespace Work.Pervasive

variable {P : {α : Type} → Work α → Prop} (pervasive : Pervasive P)

include pervasive

theorem of_needed {α : Type} (option : NeededOption) (value : Option α) :
    P (needed option value) := by
  cases value with
  | none => exact pervasive.of_stop _
  | some value => exact pervasive.of_done value

theorem of_versionOf (tree : FileTree) (kernelPath : Path) :
    P (versionOf tree kernelPath) := by
  unfold versionOf
  refine pervasive.of_andThen (pervasive.of_note _) fun _ _ => ?_
  split
  · exact pervasive.of_done _
  · exact pervasive.of_stop _
  · exact pervasive.of_giveUp _ _

theorem of_prepare (tree : FileTree) (options : Options) :
    P (prepare tree options) := by
  unfold prepare
  refine pervasive.of_andThen (pervasive.of_needed _ _) fun kernelPath _ =>
    pervasive.of_andThen (pervasive.of_check _ _) fun present _ => ?_
  split
  · exact pervasive.of_giveUp _ _
  · refine pervasive.of_andThen (pervasive.of_versionOf _ _) fun version _ => ?_
    split
    · exact pervasive.of_andThen (pervasive.of_done _) fun _ _ => pervasive.of_done _
    · exact pervasive.of_andThen
        (pervasive.of_andThen (pervasive.of_check _ _) fun _ _ => pervasive.of_done _)
        fun _ _ => pervasive.of_done _

end Work.Pervasive

theorem quiet_prepare (tree : FileTree) (options : Options) :
    (prepare tree options).Quiet :=
  pervasive_quiet.of_prepare tree options

end Command
end KernelInventory
