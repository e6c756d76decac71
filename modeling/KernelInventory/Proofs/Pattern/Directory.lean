import KernelInventory.Pattern.Basic
import Mathlib.Data.List.Basic

/-!
# Names and directories

What matches a name also matches the name with a separator behind it, that is the
directory of that name; only whether the match is marked may change.  A line feed at the
end of the name is an exception, since the end of a text may also lie in front of that.
-/

namespace KernelInventory
namespace Pattern

/-! ## Scans -/

/-- What a scan leaves of a text is an end of it.  Of the text with a separator behind
it, it leaves the same with a separator. -/
structure Scans (scan : List Char → List (List Char)) : Prop where
  suffix : ∀ {text rest}, rest ∈ scan text → rest <:+ text
  concat : ∀ {text rest}, rest ∈ scan text → rest ++ ['/'] ∈ scan (text ++ ['/'])

section Scans

variable (good : Char → Bool)

theorem scans_afterOne : Scans (afterOne good) where
  suffix {text rest} left := by
    cases text with
    | nil => cases left
    | cons c others =>
        rw [afterOne] at left
        split at left
        · exact List.mem_singleton.mp left ▸ List.suffix_cons c others
        · cases left
  concat {text rest} left := by
    cases text with
    | nil => cases left
    | cons c others =>
        rw [List.cons_append]
        rw [afterOne] at left ⊢
        split at left
        next isGood =>
          rw [if_pos isGood, List.mem_singleton.mp left]
          exact List.mem_singleton_self _
        · cases left

theorem scans_afterRuns : Scans (afterRuns good) where
  suffix {text rest} left := by
    induction text with
    | nil => exact List.mem_singleton.mp left ▸ List.suffix_refl []
    | cons c others inductionHypothesis =>
        rw [afterRuns] at left
        split at left
        · rcases List.mem_append.mp left with later | whole
          · exact (inductionHypothesis later).trans (List.suffix_cons c others)
          · exact List.mem_singleton.mp whole ▸ List.suffix_refl _
        · exact List.mem_singleton.mp left ▸ List.suffix_refl _
  concat {text rest} left := by
    induction text with
    | nil =>
        rw [List.mem_singleton.mp left, List.nil_append, afterRuns]
        split <;> simp
    | cons c others inductionHypothesis =>
        rw [List.cons_append]
        rw [afterRuns] at left ⊢
        split at left
        next isGood =>
          rw [if_pos isGood]
          rcases List.mem_append.mp left with later | whole
          · exact List.mem_append_left _ (inductionHypothesis later)
          · rw [List.mem_singleton.mp whole]
            exact List.mem_append_right _ (List.mem_singleton_self _)
        next notGood =>
          rw [if_neg notGood, List.mem_singleton.mp left]
          exact List.mem_singleton_self _

theorem scans_afterFullRuns : Scans (afterFullRuns good) where
  suffix {text rest} left := by
    cases text with
    | nil => cases left
    | cons c others =>
        rw [afterFullRuns] at left
        split at left
        · exact ((scans_afterRuns good).suffix left).trans (List.suffix_cons c others)
        · cases left
  concat {text rest} left := by
    cases text with
    | nil => cases left
    | cons c others =>
        rw [List.cons_append]
        rw [afterFullRuns] at left ⊢
        split at left
        next isGood =>
          rw [if_pos isGood]
          exact (scans_afterRuns good).concat left
        · cases left

variable {first second : List Char → List (List Char)}

/-- One scan goes on where another one stops. -/
theorem Scans.flatMap (scans : Scans first) (further : Scans second) :
    Scans fun text => (first text).flatMap second where
  suffix left := by
    obtain ⟨middle, before, behind⟩ := List.mem_flatMap.mp left
    exact (further.suffix behind).trans (scans.suffix before)
  concat left := by
    obtain ⟨middle, before, behind⟩ := List.mem_flatMap.mp left
    exact List.mem_flatMap.mpr ⟨_, scans.concat before, further.concat behind⟩

/-- A scan may as well leave the whole text. -/
theorem Scans.orNone (scans : Scans first) : Scans fun text =>
    first text ++ [text] where
  suffix left := by
    rcases List.mem_append.mp left with some | none
    · exact scans.suffix some
    · exact List.mem_singleton.mp none ▸ List.suffix_refl _
  concat left := by
    rcases List.mem_append.mp left with some | none
    · exact List.mem_append_left _ (scans.concat some)
    · rw [List.mem_singleton.mp none]
      exact List.mem_append_right _ (List.mem_singleton_self _)

end Scans

/-! ## Pieces -/

/-- Every piece but the end of a text is a scan, of which each way is marked or none
is. -/
theorem Piece.exists_scan {piece : Piece} (goesOn : piece ≠ .finish) :
    ∃ marked scan, Scans scan ∧ ∀ text,
      piece.ways text = (scan text).map (marked, ·) := by
  cases piece with
  | literal _ | nameCharacter | oneOf _ _ =>
      exact ⟨false, _, scans_afterOne _, fun _ => rfl⟩
  | nameRun => exact ⟨false, _, scans_afterRuns _, fun _ => rfl⟩
  | fullNameRun => exact ⟨false, _, scans_afterFullRuns _, fun _ => rfl⟩
  | leadingDirectories =>
      exact ⟨false, _, ((scans_afterFullRuns _).flatMap (scans_afterOne _)).orNone,
        fun _ => rfl⟩
  | innerDirectories =>
      exact ⟨false, _, ((scans_afterOne _).flatMap (scans_afterFullRuns _)).orNone,
        fun _ => rfl⟩
  | separator marked => exact ⟨marked, _, scans_afterOne _, fun _ => rfl⟩
  | finish => exact absurd rfl goesOn

/-- A piece that matches some of a text leaves an end of it, and matches as much of
the text with a separator behind it, unless it is the end of the text: then it
matches the separator. -/
theorem Piece.of_mem_ways
    {piece : Piece} {text rest : List Char} {marked : Bool}
    (way : (marked, rest) ∈ piece.ways text)
    (noFeed : text ≠ ['\n']) :
    rest <:+ text ∧
      ((marked, rest ++ ['/']) ∈ piece.ways (text ++ ['/']) ∨
        rest = [] ∧ (true, []) ∈ piece.ways (text ++ ['/'])) := by
  by_cases ends : piece = .finish
  · subst ends
    rcases List.mem_append.mp way with found | atEnd
    · obtain ⟨left, found, same⟩ := List.mem_map.mp found
      cases same
      have longer := (scans_afterOne isSeparator).concat found
      exact ⟨(scans_afterOne isSeparator).suffix found,
        Or.inl (List.mem_append_left _ (List.mem_map.mpr ⟨_, longer, rfl⟩))⟩
    · split at atEnd
      next ended =>
        cases List.mem_singleton.mp atEnd
        obtain rfl := ended.resolve_right noFeed
        exact ⟨List.suffix_refl _, Or.inr ⟨rfl, by decide⟩⟩
      · cases atEnd
  · obtain ⟨isMarked, scan, scans, same⟩ := Piece.exists_scan ends
    rw [same, List.mem_map] at way
    obtain ⟨left, found, pair⟩ := way
    cases pair
    rw [same]
    exact ⟨scans.suffix found, Or.inl (List.mem_map.mpr ⟨_, scans.concat found, rfl⟩)⟩

theorem isSome_matchPieces_cons {piece : Piece} {others : List Piece}
    {text : List Char} :
    (matchPieces (piece :: others) text).isSome ↔
      ∃ marked rest, (marked, rest) ∈ piece.ways text ∧
        (matchPieces others rest).isSome := by
  rw [matchPieces, List.findSome?_isSome_iff]
  simp

/-- Pieces that match a name match the directory of that name. -/
theorem isSome_matchPieces_concat
    {pieces : List Piece} {text : List Char}
    (noFeed : ¬ ['\n'] <:+ text)
    (matched : (matchPieces pieces text).isSome) :
    (matchPieces pieces (text ++ ['/'])).isSome := by
  induction pieces generalizing text with
  | nil => rfl
  | cons piece others inductionHypothesis =>
      rw [isSome_matchPieces_cons] at matched ⊢
      obtain ⟨marked, rest, way, further⟩ := matched
      obtain ⟨suffix, longer | ⟨rfl, ended⟩⟩ :=
        Piece.of_mem_ways way fun same => noFeed (same ▸ List.suffix_refl _)
      · have noFeedBehind : ¬ ['\n'] <:+ rest := fun feed => noFeed (feed.trans suffix)
        exact ⟨marked, rest ++ ['/'], longer, inductionHypothesis noFeedBehind further⟩
      · exact ⟨true, [], ended, further⟩

/-- A rule that matches a name matches the directory of that name. -/
theorem Rule.isSome_find?_concat
    {rule : Rule} {text : List Char}
    (noFeed : ¬ ['\n'] <:+ text)
    (matched : (rule.find? text).isSome) :
    (rule.find? (text ++ ['/'])).isSome := by
  cases rule with
  | anyCharacter => simp [find?, inLine]
  | anySeparator marked => simp [find?, isSeparator]
  | pieces sequence => exact isSome_matchPieces_concat noFeed matched

end Pattern
end KernelInventory
