/-!
# Tables of characters

A table of a property of characters is a list of ranges, both ends included.  A
table of the other case of letters is a list of runs: most letters have one letter
as their other case, and neighbouring letters mostly have theirs at the same
distance or at every second place.
-/

namespace KernelInventory
namespace Text

/-- The code points from `first` to `last`, both included. -/
structure CodeRange where
  first : Nat
  last : Nat
deriving Repr, DecidableEq

/-- Whether the character lies in the range. -/
def CodeRange.holds (range : CodeRange) (c : Char) : Bool :=
  range.first ≤ c.toNat && c.toNat ≤ range.last

/-- Whether the character lies in one of the ranges. -/
def CodeRange.anyHolds (ranges : List CodeRange) (c : Char) : Bool :=
  ranges.any (·.holds c)

/-- Letters from `first` to `last`, every `stride`-th code point, whose partners start
at `target` and lie at the same distances. -/
structure CaseRun where
  first : Nat
  last : Nat
  stride : Nat
  target : Nat
deriving Repr, DecidableEq

/-- The partner of a letter of the run. -/
def CaseRun.partner? (run : CaseRun) (c : Char) : Option Char :=
  if run.first ≤ c.toNat ∧ c.toNat ≤ run.last ∧
    (c.toNat - run.first) % run.stride = 0 then
    some (Char.ofNat (run.target + (c.toNat - run.first)))
  else
    none

/-- The partner of a letter in one of the runs, or the character itself. -/
def CaseRun.partner (runs : List CaseRun) (c : Char) : Char :=
  (runs.findSome? (·.partner? c)).getD c

end Text
end KernelInventory
