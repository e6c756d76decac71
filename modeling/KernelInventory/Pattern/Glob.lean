import KernelInventory.Pattern.Piece

/-!
# Names with wildcards

A segment of a pattern stands for one name.  A star matches any run of characters, a
question mark any one, a bracket expression one of a class, and a backslash takes the
next character literally.
-/

namespace KernelInventory
namespace Pattern

/-- What can be wrong with a segment. -/
inductive Defect
  /-- A backslash with nothing behind it. -/
  | danglingEscape
  /-- A bracket that is never closed. -/
  | openClass
deriving Repr, DecidableEq

/-- The content of a class up to the bracket that closes it, and what is behind that
bracket. -/
def closeClass : List Char → Option (List Char × List Char)
  | [] => none
  | c :: rest =>
    if c = ']' then some ([], rest)
    else (closeClass rest).map fun (content, behind) => (c :: content, behind)

/-- The content of a class, in which a bracket at the very beginning is
an ordinary character. -/
def takeContent : List Char → Option (List Char × List Char)
  | [] => none
  | c :: rest => (closeClass rest).map fun (content, behind) => (c :: content, behind)

/-- A class whose opening bracket has been read: whether it is negated, its content,
and what is behind it. -/
def takeClass : List Char → Option (Bool × List Char × List Char)
  | [] => none
  | c :: rest =>
    if c = '!' ∨ c = '^' then (takeContent rest).map (true, ·)
    else (takeContent (c :: rest)).map (false, ·)

theorem closeClass_shorter {text content behind : List Char}
    (closed : closeClass text = some (content, behind)) :
      behind.length < text.length := by
  induction text generalizing content with
  | nil => simp [closeClass] at closed
  | cons c rest inductionHypothesis =>
    unfold closeClass at closed
    split at closed
    · simp only [Option.some.injEq, Prod.mk.injEq] at closed
      simp [← closed.2]
    · obtain ⟨⟨inner, left⟩, found, same⟩ := Option.map_eq_some_iff.1 closed
      simp only [Prod.mk.injEq] at same
      have shorter := inductionHypothesis (same.2 ▸ found)
      simp only [List.length_cons]
      omega

theorem takeContent_shorter {text content behind : List Char}
    (taken : takeContent text = some (content, behind)) :
      behind.length < text.length := by
  cases text with
  | nil => simp [takeContent] at taken
  | cons c rest =>
    obtain ⟨⟨inner, left⟩, found, same⟩ := Option.map_eq_some_iff.1 taken
    simp only [Prod.mk.injEq] at same
    have shorter := closeClass_shorter (same.2 ▸ found)
    simp only [List.length_cons]
    omega

theorem takeClass_shorter {text content behind : List Char} {negated : Bool}
    (taken : takeClass text = some (negated, content, behind)) :
      behind.length < text.length := by
  cases text with
  | nil => simp [takeClass] at taken
  | cons c rest =>
    simp only [takeClass] at taken
    split at taken
    all_goals
      obtain ⟨pair, found, same⟩ := Option.map_eq_some_iff.1 taken
      simp only [Prod.mk.injEq] at same
      have shorter := takeContent_shorter (same.2 ▸ found)
      simp only [List.length_cons] at shorter ⊢
      omega

/-- The pieces of a segment. -/
def globPieces (segment : List Char) : Except Defect (List Piece) :=
  match segment with
  | [] => .ok []
  | ['\\'] => .error .danglingEscape
  | '\\' :: c :: rest => (globPieces rest).map (.literal c :: ·)
  | '*' :: rest => (globPieces rest).map (.nameRun :: ·)
  | '?' :: rest => (globPieces rest).map (.nameCharacter :: ·)
  | '[' :: rest =>
    match _ : takeClass rest with
    | none => .error .openClass
    | some (negated, content, behind) =>
        (globPieces behind).map (.oneOf negated content :: ·)
  | c :: rest => (globPieces rest).map (.literal c :: ·)
termination_by segment.length
decreasing_by
  all_goals simp only [List.length_cons]
  all_goals first
    | omega
    | next taken => exact Nat.lt_succ_of_lt (takeClass_shorter taken)

end Pattern
end KernelInventory
