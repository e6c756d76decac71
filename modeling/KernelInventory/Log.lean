/-!
# Log entries and issues

Operations report what they do as values: a level and a message.  Which of them are
shown is decided by a threshold.  An issue is a problem that an operation recovers from;
it is part of what the operation returns.
-/

namespace KernelInventory

/-- How serious a log entry is, in increasing order. -/
inductive LogLevel
  | debug
  | info
  | warning
  | error
deriving Repr, DecidableEq

namespace LogLevel

/-- The levels in increasing order. -/
def all : List LogLevel := [debug, info, warning, error]

/-- The name of a level. -/
def name : LogLevel → String
  | debug => "DEBUG"
  | info => "INFO"
  | warning => "WARNING"
  | error => "ERROR"

/-- The level of a name. -/
def ofName? (name : String) : Option LogLevel :=
  all.find? fun level => level.name = name

/-- The place of a level in the order. -/
def rank : LogLevel → Nat
  | debug => 0
  | info => 1
  | warning => 2
  | error => 3

@[simp] theorem ofName?_name (level : LogLevel) : ofName? level.name = some level := by
  cases level <;> rfl

end LogLevel

/-- One message of the log. -/
structure LogEntry where
  level : LogLevel
  message : String
deriving Repr, DecidableEq

namespace LogEntry

/-- The entries at or above a threshold. -/
def visible (threshold : LogLevel) (entries : List LogEntry) : List LogEntry :=
  entries.filter fun entry => threshold.rank ≤ entry.level.rank

end LogEntry

/-- A problem that was recovered from: the file that it was met in, and what it was. -/
structure Issue where
  file : String
  message : String
deriving Repr, DecidableEq

end KernelInventory
