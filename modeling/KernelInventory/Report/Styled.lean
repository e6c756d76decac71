import KernelInventory.Report.Style
import KernelInventory.Report.Width

/-!
# Styled text

A text with spans, each of which may have a style.  Styles take no room, but a line is
shown in pieces that end where a span begins or ends, and each piece is measured by
itself.  The style of a span is looked up when the text is shown.
-/

namespace KernelInventory
namespace Report

/-- A part of a text. -/
structure Span where
  /-- The place of its first character. -/
  first : Nat
  /-- The place behind its last character. -/
  behind : Nat
  /-- The definition of its style, unless it has none. -/
  definition : Option String := none
deriving Repr, DecidableEq

namespace Span

/-- A span further to the right. -/
def shift (distance : Nat) (span : Span) : Span :=
  { span with first := span.first + distance, behind := span.behind + distance }

/-- The part of a span in a shorter text, if there is any. -/
def trim? (length : Nat) (span : Span) : Option Span :=
  if span.first < length then some { span with behind := min span.behind length }
  else none

/-- The part of a span between two places, counted from the first of
them, unless it is empty. -/
def clip? (start stop : Nat) (span : Span) : Option Span :=
  let first := span.first - start
  let behind := min span.behind stop - start
  if first < behind then some { span with first := first, behind := behind } else none

end Span

/-- A text with spans. -/
structure Styled where
  text : List Char
  spans : List Span := []
deriving Repr, DecidableEq

namespace Styled

/-- A styled text whose text is replaced: spans end where a shorter text ends. -/
def withText (styled : Styled) (text : List Char) : Styled :=
  if text.length < styled.text.length then
    { text := text, spans := styled.spans.filterMap (Span.trim? text.length) }
  else { styled with text := text }

/-- Text in front of a styled text. -/
def padLeft (lead : List Char) (styled : Styled) : Styled :=
  { text := lead ++ styled.text, spans := styled.spans.map (Span.shift lead.length) }

/-- Text behind a styled text. -/
def padRight (styled : Styled) (trail : List Char) : Styled :=
  { styled with text := styled.text ++ trail }

/-- The part of a styled text between two places. -/
def slice (styled : Styled) (start stop : Nat) : Styled :=
  { text := (styled.text.take stop).drop start
    spans := styled.spans.filterMap (Span.clip? start stop) }

/-- The parts of a styled text between places. -/
def divide (styled : Styled) (start : Nat) : List Nat → List Styled
  | [] => [styled.slice start styled.text.length]
  | stop :: rest => styled.slice start stop :: styled.divide stop rest

/-- The lines of a styled text that is folded to the given cells. -/
def fold (width : Nat) (styled : Styled) : List Styled :=
  match breaks width styled.text with
  | [] => [styled]
  | places => styled.divide 0 places

/-- A styled text in the middle of the given cells, nearer to the left
if it cannot be exact. -/
def center (width : Nat) (styled : Styled) : Styled :=
  let padded := styled.padLeft (blanks ((width - Text.cells styled.text) / 2))
  padded.padRight (blanks (width - Text.cells padded.text))

/-- A styled text cut to the given cells, with an ellipsis if anything is lost. -/
def ellipsize (width : Nat) (styled : Styled) : Styled :=
  if Text.cells styled.text ≤ width then styled
  else styled.withText (setCells (width - 1) styled.text ++ ['…'])

/-- The place at which a character stands when parts of a text are replaced by
others. -/
def movedPlace : List (List Char × List Char) → Nat → Nat
  | [], place => place
  | (part, shown) :: rest, place =>
    if place < part.length then place
    else shown.length + movedPlace rest (place - part.length)

/-- The spans of parts that stand one after the other from a place on. -/
def partSpans (place : Nat) : List (List Char) → List Span
  | [] => []
  | part :: rest =>
    let behind := place + part.length
    ⟨place, behind, none⟩ :: partSpans behind rest

/-- Replace the tabs of a styled line.  In a line with tabs no empty span is left, and
each part up to a tab is a span of its own. -/
def expandTabs (styled : Styled) : Styled :=
  if styled.text.contains '\t' then
    let parts := tabParts styled.text
    let shown := expandParts 0 parts
    let moved := movedPlace (parts.zip shown)
    let spans := (styled.spans.filter fun span => span.first < span.behind).map
      fun span =>
      { span with first := moved span.first, behind := moved span.behind }
    { text := shown.flatten, spans := spans ++ partSpans 0 shown }
  else styled

/-- Cut a text from a position on in front of the places that are edges. -/
def piecesFrom (edges : List Nat) (position : Nat) : List Char → List (List Char)
  | [] => []
  | c :: rest =>
    match piecesFrom edges (position + 1) rest with
    | [] => [[c]]
    | piece :: others =>
      if position + 1 ∈ edges then [c] :: piece :: others else (c :: piece) :: others

/-- The pieces in which a styled text is shown. -/
def pieces (styled : Styled) : List (List Char) :=
  piecesFrom (styled.spans.flatMap fun span => [span.first, span.behind]) 0 styled.text

/-- Look up the styles of a text.  A definition that defines no style is passed over. -/
def check (styled : Styled) : Except Colour.Fault Unit :=
  styled.spans.forM fun span =>
    match span.definition with
    | some definition => discard (Style.ofDefinition definition.toList)
    | none => .ok ()

/-- Cutting into pieces loses no character. -/
theorem flatten_piecesFrom (edges : List Nat) (position : Nat) (text : List Char) :
    (piecesFrom edges position text).flatten = text := by
  fun_induction piecesFrom edges position text <;> simp_all

/-- The pieces of a text have its characters. -/
theorem flatten_pieces (styled : Styled) : styled.pieces.flatten = styled.text :=
  flatten_piecesFrom _ 0 styled.text

end Styled
end Report
end KernelInventory
