/-!
# Similarity of texts

Two texts are as similar as their longest common subsequence is long, measured
against the length of both together.  The measure is an exact fraction; two empty
texts are equal and count as one.
-/

namespace KernelInventory
namespace Similarity

/-- The lengths of the longest common subsequences with each beginning of `right`, when
`c` is added to a text whose lengths are `above`.  `corner` and `left` are the lengths
at the previous position, without and with `c`. -/
def nextRow (c : Char) (corner left : Nat) : List Char → List Nat → List Nat
  | d :: right, up :: above =>
    let length := if c = d then corner + 1 else max up left
    length :: nextRow c up length right above
  | _, _ => []

/-- The lengths of the longest common subsequences of `left` with each beginning of
`right` that is not empty. -/
def lastRow (left right : List Char) : List Nat :=
  left.foldl (fun above c => nextRow c 0 0 right above) (right.map fun _ => 0)

/-- The length of the longest common subsequence. -/
def commonLength (left right : List Char) : Nat :=
  (lastRow left right).getLast?.getD 0

/-- A fraction between zero and one. -/
structure Ratio where
  numerator : Nat
  denominator : Nat
deriving Repr, DecidableEq

namespace Ratio

/-- Whether a fraction is at least as large as another. -/
def atLeast (left right : Ratio) : Bool :=
  right.numerator * left.denominator ≤ left.numerator * right.denominator

end Ratio

/-- The similarity of two texts. -/
def ratio (left right : List Char) : Ratio :=
  let total := left.length + right.length
  if total = 0 then ⟨1, 1⟩ else ⟨2 * commonLength left right, total⟩

end Similarity
end KernelInventory
