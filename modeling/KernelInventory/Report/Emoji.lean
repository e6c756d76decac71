import KernelInventory.Report.EmojiNames
import KernelInventory.Text.LowerCase

/-!
# Emoji codes

A name between two colons, without blanks, stands for an emoji; `-text` and `-emoji`
behind the name choose how it is shown.  A code without a known name stays as it is.
-/

namespace KernelInventory
namespace Report
namespace Emoji

/-- The endings of a name that choose a variant, and the character that selects it. -/
def variants : List (String × Char) :=
  [("-emoji", Char.ofNat 0xFE0F), ("-text", Char.ofNat 0xFE0E)]

/-- A name without the ending that chooses a variant, and the selector of that
variant. -/
def splitVariant (name : List Char) : List Char × List Char :=
  match variants.find? fun variant => variant.1.toList.isSuffixOf name with
  | some (ending, selector) => (name.take (name.length - ending.length), [selector])
  | none => (name, [])

/-- What the code with a name stands for. -/
def meaning? (name : List Char) : Option (List Char) :=
  let (plain, selector) := splitVariant name
  (named.lookup (Text.lower plain)).map (· ++ selector)

/-- The name of a code whose first colon has been read, and what is
behind its second colon. -/
def takeName : List Char → Option (List Char × List Char)
  | [] => none
  | c :: rest =>
    if c = ':' then some ([], rest)
    else if Text.isBlank c then none
    else (takeName rest).map fun (name, behind) => (c :: name, behind)

theorem takeName_shorter {text name behind : List Char}
    (taken : takeName text = some (name, behind)) : behind.length < text.length := by
  induction text generalizing name with
  | nil => simp [takeName] at taken
  | cons c rest inductionHypothesis =>
    simp only [takeName] at taken
    split at taken
    · simp only [Option.some.injEq, Prod.mk.injEq] at taken
      simp [← taken.2]
    · split at taken
      · cases taken
      · obtain ⟨⟨inner, left⟩, found, same⟩ := Option.map_eq_some_iff.1 taken
        simp only [Prod.mk.injEq] at same
        have shorter := inductionHypothesis (same.2 ▸ found)
        simp only [List.length_cons]
        omega

/-- Replace the codes in a text.  Codes do not overlap, and are found from left to
right. -/
def replace (text : List Char) : List Char :=
  match text with
  | [] => []
  | ':' :: rest =>
    match _ : takeName rest with
    | some (name, behind) =>
      (meaning? name).getD (':' :: name ++ [':']) ++ replace behind
    | none => ':' :: replace rest
  | c :: rest => c :: replace rest
termination_by text.length
decreasing_by
  next taken =>
    have shorter := takeName_shorter taken
    simp only [List.length_cons]
    omega
  · simp
  · simp

end Emoji
end Report
end KernelInventory
