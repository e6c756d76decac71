import KernelInventory.Suggestion.Similarity
import KernelInventory.Text.UpperCase

/-!
# Suggestions

For a name that is not known, the most similar known names are suggested.  Case does not
count; of two equally similar names the one that is smaller by code points comes first.
-/

namespace KernelInventory
namespace Suggestion

/-- The number of names that are suggested. -/
def limit : Nat := 3

/-- The similarity that a suggestion needs. -/
def cutoff : Similarity.Ratio := ⟨3, 5⟩

/-- The similarity of two names, case apart. -/
def score (name candidate : String) : Similarity.Ratio :=
  Similarity.ratio (Text.upper name.toList) (Text.upper candidate.toList)

/-- Whether a scored candidate comes no later than another. -/
def comesFirst (left right : Similarity.Ratio × String) : Bool :=
  if left.1.atLeast right.1 then
    if right.1.atLeast left.1 then left.2 ≤ right.2 else true
  else false

/-- The candidates to suggest for a name, best first. -/
def names (name : String) (candidates : List String) : List String :=
  let scored := candidates.map fun candidate => (score name candidate, candidate)
  let close := scored.filter fun entry => entry.1.atLeast cutoff
  ((close.mergeSort comesFirst).take limit).map (·.2)

end Suggestion
end KernelInventory
