import KernelInventory.Code.Correlation
import KernelInventory.Code.LineCount
import KernelInventory.KernelVersion
import KernelInventory.Query
import KernelInventory.Resolution.Run

/-!
# Work with a transcript

A part of a run writes a transcript, and either hands on a value or stops the run, with
an exit code or with a failure that nothing recovers from.
-/

namespace KernelInventory
namespace Command

/-- The options that a run cannot do without. -/
inductive NeededOption
  | kernelPath
  | arch
  | logLevel
deriving Repr, DecidableEq

/-- The failures that end a run without an exit code. -/
inductive Failure
  /-- An option is set without a value. -/
  | valueless (option : NeededOption)
  | file (failure : FileFailure)
  | resolution (failure : Resolution.Failure)
  | pattern (failure : Pattern.Failure)
  | markup (failure : Report.Markup.Failure)
  | version (failure : KernelVersion.Failure)
deriving Repr, DecidableEq

namespace Failure

/-- The wording of a failure. -/
def message : Failure → String
  | valueless .kernelPath => "expected str, bytes or os.PathLike object, not list"
  | valueless .arch => "'list' object has no attribute 'split'"
  | valueless .logLevel => "Level not an integer or a valid string: []"
  | file failure => failure.message
  | resolution failure => failure.message
  | pattern failure => failure.message
  | markup failure => failure.message
  | version failure => failure.message

end Failure

/-- Why a run stops. -/
inductive Stop
  | exit (code : Nat)
  | fault (failure : Failure)
deriving Repr, DecidableEq

/-- A transcript, and the value that is handed on unless the run stops. -/
structure Work (α : Type) where
  transcript : Transcript
  outcome : Except Stop α

namespace Work

variable {α β : Type}

/-- Hand a value on and write nothing. -/
def done (value : α) : Work α := ⟨.empty, .ok value⟩

/-- Go on with the value of a part, if it hands one on. -/
def andThen (first : Work α) (next : α → Work β) : Work β :=
  match first.outcome with
  | .error stop => ⟨first.transcript, .error stop⟩
  | .ok value =>
    let second := next value
    ⟨first.transcript ++ second.transcript, second.outcome⟩

instance : Monad Work where
  pure := done
  bind := andThen

/-- Write a transcript. -/
def write (transcript : Transcript) : Work Unit := ⟨transcript, .ok ()⟩

/-- Stop the run. -/
def stop (reason : Stop) : Work α := ⟨.empty, .error reason⟩

/-- Give up with a message, after a warning. -/
def giveUp (warning message : String) : Work α :=
  ⟨⟨"", message ++ "\n", [⟨.warning, warning⟩]⟩, .error (.exit 2)⟩

/-- A value that may be a failure. -/
def check {ε : Type} (failing : ε → Failure) : Except ε α → Work α
  | .ok value => done value
  | .error failure => stop (.fault (failing failure))

/-- A result with the log of finding it. -/
def logged {ε : Type} (failing : ε → Failure) (found : Except ε α × List LogEntry) :
    Work α :=
  ⟨.note found.2, (check failing found.1).outcome⟩

@[simp] theorem pure_eq_done (value : α) : (pure value : Work α) = done value := rfl

@[simp] theorem bind_eq_andThen (first : Work α) (next : α → Work β) :
    first >>= next = first.andThen next := rfl

end Work
end Command
end KernelInventory
