import KernelInventory.Report.Action
import KernelInventory.Report.Emoji
import KernelInventory.Report.Styled

/-!
# Markup

Titles and cells may hold tags in square brackets, which style a report and take no room
in it.  A tag with a slash closes the innermost open one with the same style, or the
last one if it gives none.  What stands behind the first equals sign of a tag is its
parameter.  A backslash in front of a tag makes it ordinary text.

Only the text, and what refuses it, is given here.  The escape sequences that a tag
turns into on a terminal, for its colours and for the hyperlink of `link`, are left out.
-/

namespace KernelInventory
namespace Report
namespace Markup

/-- Why a text is refused. -/
inductive Failure
  /-- No open tag has the style of a closing one. -/
  | unmatched (tag : String) (position : Nat)
  /-- A closing tag without a style finds no tag open. -/
  | nothingOpen (position : Nat)
  /-- A tag that is closed binds no proper action. -/
  | action (failure : Action.Failure)
  /-- The style of a tag is no style, nor anything else. -/
  | colour (fault : Colour.Fault)
deriving Repr, DecidableEq

namespace Failure

/-- The wording of a failure. -/
def message : Failure → String
  | unmatched tag position =>
    s!"closing tag '[{tag}]' at position {position} doesn't match any open tag"
  | nothingOpen position =>
      s!"closing tag '[/]' at position {position} has nothing to close"
  | action failure => failure.message
  | colour fault => fault.message

end Failure

/-- Whether a character may be the first of a tag. -/
def opensTag (c : Char) : Bool :=
  c.isLower || c == '#' || c == '/' || c == '@'

/-- The rest of a tag up to its closing bracket, and what is behind it. -/
def closeTag : List Char → Option (List Char × List Char)
  | [] => none
  | c :: rest =>
    if c = ']' then some ([], rest)
    else if c = '[' then none
    else (closeTag rest).map fun (content, behind) => (c :: content, behind)

/-- The content of the tag at the beginning of a text, and what is behind it. -/
def tagAt? : List Char → Option (List Char × List Char)
  | '[' :: c :: rest =>
    if opensTag c then (closeTag rest).map fun (content, behind) =>
      (c :: content, behind)
    else none
  | _ => none

/-- The next tag of a text. -/
structure Found where
  /-- What is in front of the tag and of its backslashes. -/
  before : List Char
  /-- The number of backslashes right in front of the tag. -/
  escapes : Nat
  /-- The text between the brackets. -/
  content : List Char
  /-- What is behind the tag. -/
  behind : List Char
deriving Repr, DecidableEq

/-- The next tag of a text, if there is one. -/
def nextTag? : List Char → Option Found
  | [] => none
  | c :: rest =>
    let slashes := (c :: rest).takeWhile (· == '\\')
    match tagAt? ((c :: rest).dropWhile (· == '\\')) with
    | some (content, behind) => some ⟨[], slashes.length, content, behind⟩
    | none => (nextTag? rest).map fun found =>
        { found with before := c :: found.before }

theorem closeTag_shorter {text content behind : List Char}
    (closed : closeTag text = some (content, behind)) :
      behind.length < text.length := by
  induction text generalizing content with
  | nil => simp [closeTag] at closed
  | cons c rest inductionHypothesis =>
    simp only [closeTag] at closed
    split at closed
    · simp only [Option.some.injEq, Prod.mk.injEq] at closed
      simp [← closed.2]
    · split at closed
      · cases closed
      · obtain ⟨⟨inner, left⟩, found, same⟩ := Option.map_eq_some_iff.1 closed
        simp only [Prod.mk.injEq] at same
        have shorter := inductionHypothesis (same.2 ▸ found)
        simp only [List.length_cons]
        omega

theorem tagAt?_shorter {text content behind : List Char}
    (tagged : tagAt? text = some (content, behind)) : behind.length < text.length := by
  unfold tagAt? at tagged
  split at tagged
  · split at tagged
    · obtain ⟨⟨inner, left⟩, found, same⟩ := Option.map_eq_some_iff.1 tagged
      simp only [Prod.mk.injEq] at same
      have shorter := closeTag_shorter (same.2 ▸ found)
      simp only [List.length_cons]
      omega
    · cases tagged
  · cases tagged

theorem nextTag?_shorter {text : List Char} {found : Found}
    (next : nextTag? text = some found) :
    found.behind.length < text.length := by
  induction text generalizing found with
  | nil => simp [nextTag?] at next
  | cons c rest inductionHypothesis =>
    simp only [nextTag?] at next
    split at next
    next tagged =>
      simp only [Option.some.injEq] at next
      have shorter := tagAt?_shorter tagged
      have suffix := (List.dropWhile_sublist (· == '\\') (l := c :: rest)).length_le
      rw [← next]
      exact Nat.lt_of_lt_of_le shorter suffix
    · obtain ⟨inner, here, same⟩ := Option.map_eq_some_iff.1 next
      have shorter := inductionHypothesis here
      rw [← same]
      simp only [List.length_cons]
      omega

/-- A part of a text with markup. -/
inductive Token
  | plain (text : List Char)
  | tag (position : Nat) (content : List Char)
deriving Repr, DecidableEq

/-- The tokens of a text whose first character stands at a position. -/
def tokensFrom (position : Nat) (text : List Char) : List Token :=
  match _ : nextTag? text with
  | none => if text.isEmpty then [] else [.plain text]
  | some found =>
    let start := position + found.before.length
    let pairs := found.escapes / 2
    let next := start + found.escapes + found.content.length + 2
    (if found.before.isEmpty then [] else [.plain found.before]) ++
      (if pairs = 0 then [] else [.plain (List.replicate pairs '\\')]) ++
      (if found.escapes % 2 = 1 then .plain ('[' :: found.content ++ [']'])
        else .tag (start + 2 * pairs) found.content) ::
      tokensFrom next found.behind
termination_by text.length
decreasing_by
  next found => exact nextTag?_shorter found

/-- Text in which a bracket with a backslash in front of it loses the backslash. -/
def unescape : List Char → List Char
  | '\\' :: '[' :: rest => '[' :: unescape rest
  | c :: rest => c :: unescape rest
  | [] => []

/-- The characters that no report prints. -/
def isSilent (c : Char) : Bool :=
  c.toNat == 7 || c.toNat == 8 || c.toNat == 11 || c.toNat == 12 || c.toNat == 13

/-- The text that a text without tags shows. -/
def shown (text : List Char) : List Char :=
  (Emoji.replace text).filter (!isSilent ·)

/-- A tag that is open. -/
structure OpenTag where
  /-- The place in the shown text at which it was opened. -/
  place : Nat
  /-- The normal form of its style. -/
  style : String
  parameter : Option String
deriving Repr, DecidableEq

namespace OpenTag

/-- The definition of the style of a tag, in which the parameter is one more word. -/
def definition (tag : OpenTag) : String :=
  match tag.parameter with
  | some parameter => s!"{tag.style} {parameter}"
  | none => tag.style

/-- Whether a tag binds an action. -/
def bindsAction (tag : OpenTag) : Bool :=
  tag.style.startsWith "@"

/-- The span of a tag that was never closed. -/
def toEnd (tag : OpenTag) (behind : Nat) : Span :=
  ⟨tag.place, behind, some tag.definition⟩

/-- The span of a tag that is closed at a place. -/
def close (tag : OpenTag) (behind : Nat) : Except Failure Span :=
  if tag.bindsAction then
    match tag.parameter with
    | some parameter =>
      if parameter.isEmpty then .ok ⟨tag.place, behind, none⟩
      else
        match Action.check parameter.toList with
        | .ok () => .ok ⟨tag.place, behind, none⟩
        | .error failure => .error (.action failure)
    | none => .ok ⟨tag.place, behind, none⟩
  else .ok (tag.toEnd behind)

end OpenTag

/-- The name of a tag, in front of its first equals sign, and the parameter behind
it. -/
def splitTag (content : List Char) : List Char × Option String :=
  match Text.splitAt? ['='] content with
  | some (name, parameter) => (name, some (String.ofList parameter))
  | none => (content, none)

/-- The normal form of a style in a tag. -/
def normalStyle (name : List Char) : Except Failure String :=
  match Style.normalize name with
  | .ok style => .ok style
  | .error fault => .error (.colour fault)

/-- What has been read of a text with markup. -/
structure State where
  text : List Char := []
  /-- The tags that are open, the last one first. -/
  opened : List OpenTag := []
  /-- The spans of closed tags, the last one first. -/
  closed : List Span := []
deriving Repr, DecidableEq

namespace State

/-- The tag that a closing tag closes. -/
def closing (state : State) (position : Nat) (content : List Char) :
    Except Failure OpenTag := do
  let name := Text.trim ((splitTag content).1.drop 1)
  if name.isEmpty then
    match state.opened with
    | [] => .error (.nothingOpen position)
    | last :: _ => return last
  else
    let style ← normalStyle name
    match state.opened.find? (·.style = style) with
    | some tag => return tag
    | none => .error (.unmatched (String.ofList content) position)

/-- The state after a token. -/
def step (state : State) : Token → Except Failure State
  | .plain text => .ok { state with text := state.text ++ shown (unescape text) }
  | .tag position content => do
    if content.head? = some '/' then
      let tag ← state.closing position content
      let span ← tag.close state.text.length
      return { state with opened :=
        state.opened.erase tag, closed := span :: state.closed }
    else
      let (name, parameter) := splitTag content
      let tag : OpenTag := ⟨state.text.length, ← normalStyle name, parameter⟩
      return { state with opened := tag :: state.opened }

/-- The styled text at the end.  Of spans that begin at one place, those come first
that were closed last. -/
def finish (state : State) : Styled :=
  let unclosed := state.opened.map (·.toEnd state.text.length)
  { text := state.text
    spans := (unclosed.reverse ++ state.closed).mergeSort fun left right =>
      left.first ≤ right.first }

end State

/-- The styled text that a text with markup shows. -/
def render (text : String) : Except Failure Styled := do
  let state ← (tokensFrom 0 text.toList).foldlM State.step {}
  return state.finish

end Markup
end Report
end KernelInventory
