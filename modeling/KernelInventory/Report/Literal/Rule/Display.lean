import KernelInventory.Report.Literal.Rule.Call

/-!
# Displays

Tuples stand in parentheses, sets and dictionaries in braces.  Instead of items there
may be what loops collect.
-/

namespace KernelInventory
namespace Report
namespace Literal
namespace Rule

open Phrase

/-- A tuple. -/
def tupleDisplay : Phrase Rule :=
  group (all [sign "(", optional (all [item, sign ",", optional items]), sign ")"])

/-- An expression in parentheses. -/
def inParentheses : Phrase Rule :=
  either (all [sign "(", either yielding (rule named), sign ")"])
    (remark (either
      (fault (.misplacedStar false) (all [sign "(", starredArgument, sign ")"]))
      (fault (.misplacedStar true)
        (all [sign "(", sign "**", rule expression, sign ")"]))))

/-- What is wrong with what loops collect. -/
def collectedFault : Phrase Rule :=
  any (fault (.starredLoop false)
    (all [oneSign ["(", "\x7b"], starredArgument, rule loops]))
      [fault .bareLoopTuple (all [sign "\x7b", item, sign ",", items, rule loops]),
        fault .bareLoopTuple (all [sign "\x7b", item, sign ",", rule loops])]

/-- What loops collect one after the other. -/
def generatorPhrase : Phrase Rule :=
  either
    (ofKind "generator expression"
      (all [sign "(", either assignment unassigned, rule loops, sign ")"]))
    (remark collectedFault)

/-- A set. -/
def setDisplay : Phrase Rule := build .set (all [sign "\x7b", items, sign "\x7d"])

/-- What loops collect in a set. -/
def collectedSet : Phrase Rule :=
  either
    (ofKind "set comprehension"
      (all [sign "\x7b", rule named, rule loops, sign "\x7d"]))
    (remark collectedFault)

/-- A key and its value. -/
def entry : Phrase Rule := all [rule expression, sign ":", rule expression]

/-- A key and its value, or the entries of another dictionary. -/
def entryOrUnpacked : Phrase Rule :=
  either (both (build (fun _ => .doubleStar) (sign "**")) (rule inclusiveOr)) entry

/-- What is wrong with the value of a key. -/
def valueFault : Phrase Rule :=
  either
    (fault .starredValue (all [rule expression, sign ":", sign "*", rule inclusiveOr]))
    (fault .missingValue
      (all [rule expression, sign ":", ahead true (oneSign ["\x7d", ","])]))

/-- What is wrong with entries. -/
def entriesFault : Phrase Rule :=
  either
    (all [listed entryOrUnpacked, sign ",",
      either (fault .missingColon (both (rule expression) (absent (sign ":"))))
        valueFault])
    valueFault

/-- A dictionary.  What is wrong with its entries is no remark. -/
def dictionaryDisplay : Phrase Rule :=
  either
    (build (fun entries => .dictionary (Expression.entriesOf entries))
      (all [sign "\x7b", optional (both (listed entryOrUnpacked) (optional (sign ","))),
        sign "\x7d"]))
    (all [sign "\x7b", entriesFault, sign "\x7d"])

/-- What loops collect in a dictionary. -/
def collectedDictionary : Phrase Rule :=
  either
    (ofKind "dict comprehension" (all [sign "\x7b", entry, rule loops, sign "\x7d"]))
    (remark
      (fault (.starredLoop true)
        (all [sign "\x7b", sign "**", rule inclusiveOr, rule loops, sign "\x7d"])))

/-- An operand without its parts and calls. -/
def atomPhrase : Phrase Rule :=
  any aName
    [aConstant, quotations, aNumber,
      both (ahead true (sign "(")) (any tupleDisplay [inParentheses, rule generator]),
      both (ahead true (sign "\x7b"))
        (any dictionaryDisplay [setDisplay, collectedDictionary, collectedSet]),
      build (fun _ => .ellipsis) (sign "...")]

end Rule
end Literal
end Report
end KernelInventory
