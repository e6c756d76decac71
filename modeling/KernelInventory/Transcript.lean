import KernelInventory.Log

/-!
# Transcripts

What a command writes to its two output streams and to the log.  Transcripts of parts of
a run are appended in the order of the parts.
-/

namespace KernelInventory

/-- Text written to the output streams, and log entries, which go to neither stream. -/
structure Transcript where
  stdout : String := ""
  stderr : String := ""
  log : List LogEntry := []
deriving Repr, DecidableEq

namespace Transcript

/-- The transcript in which nothing happens. -/
def empty : Transcript := {}

/-- One transcript after another. -/
def append (first second : Transcript) : Transcript :=
  ⟨first.stdout ++ second.stdout, first.stderr ++ second.stderr,
    first.log ++ second.log⟩

instance : Append Transcript := ⟨append⟩

/-- Something is printed. -/
def print (text : String) : Transcript := { stdout := text }

/-- Something is complained about. -/
def complain (text : String) : Transcript := { stderr := text }

/-- Something is logged. -/
def note (entries : List LogEntry) : Transcript := { log := entries }

/-- The log entries of a level and above are kept. -/
def above (threshold : LogLevel) (transcript : Transcript) : Transcript :=
  { transcript with log := LogEntry.visible threshold transcript.log }

@[simp] theorem stdout_append (first second : Transcript) :
    (first ++ second).stdout = first.stdout ++ second.stdout := rfl

@[simp] theorem stderr_append (first second : Transcript) :
    (first ++ second).stderr = first.stderr ++ second.stderr := rfl

@[simp] theorem log_append (first second : Transcript) :
    (first ++ second).log = first.log ++ second.log := rfl

theorem append_assoc (first second third : Transcript) :
    first ++ second ++ third = first ++ (second ++ third) := by
  show append (append first second) third = append first (append second third)
  simp [append, String.append_assoc]

end Transcript
end KernelInventory
