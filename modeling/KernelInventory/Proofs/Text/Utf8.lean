import KernelInventory.Text.Utf8
import Mathlib.Tactic.SplitIfs

/-!
# Writing bytes and reading them back

The bytes that are written for a text are read as that text.  Every byte of a
character that takes several lies in the range that is due of it, so that
nothing is taken for malformed.
-/

namespace KernelInventory
namespace Text
namespace Utf8

section Bytes

variable {byte : Nat} {rest : List UInt8} {due : Due}

/-- A byte that opens a character of several. -/
theorem decodeAfter_opening
    (small : byte < 256)
    (opens : start byte = ([], some due)) :
    decodeAfter none (UInt8.ofNat byte :: rest) = decodeAfter (some due) rest := by
  simp [decodeAfter, step, UInt8.toNat_ofNat_of_lt' small, opens]

/-- A byte of a character that more bytes are due of. -/
theorem decodeAfter_more
    (small : byte < 256)
    (more : 1 < due.count)
    (lower : due.lowest ≤ byte)
    (upper : byte ≤ due.highest) :
    decodeAfter (some due) (UInt8.ofNat byte :: rest) =
      decodeAfter (some ⟨due.count - 1, 0x80, 0xBF, due.bits * 64 + (byte - 0x80)⟩)
        rest := by
  have notLast : ¬ due.count ≤ 1 := by omega
  simp [decodeAfter, step, UInt8.toNat_ofNat_of_lt' small, notLast, lower, upper]

/-- A byte that completes a character. -/
theorem decodeAfter_last
    (small : byte < 256)
    (last : due.count = 1)
    (lower : due.lowest ≤ byte)
    (upper : byte ≤ due.highest) :
    decodeAfter (some due) (UInt8.ofNat byte :: rest) =
      Char.ofNat (due.bits * 64 + (byte - 0x80)) :: decodeAfter none rest := by
  simp [decodeAfter, step, UInt8.toNat_ofNat_of_lt' small, last, lower, upper]

end Bytes

theorem start_two : ∀ bits < 32, 2 ≤ bits →
    start (bits + 192) = ([], some ⟨1, 0x80, 0xBF, bits⟩) := by
  decide

theorem start_three : ∀ bits < 16,
    start (bits + 224) =
      ([], some ⟨2, if bits = 0 then 0xA0 else 0x80, if bits = 13 then 0x9F
      else 0xBF, bits⟩) := by
  decide

theorem start_four : ∀ bits < 5,
    start (bits + 240) =
      ([], some ⟨3, if bits = 0 then 0x90 else 0x80, if bits = 4 then 0x8F
      else 0xBF, bits⟩) := by
  decide

section Characters

/-! The bits that the bytes of a character carry are its code again. -/

variable {code : Nat} (rest : List UInt8)

theorem decodeAfter_ofOne (upper : code ≤ 0x7F) :
    decodeAfter none (UInt8.ofNat code :: rest) = Char.ofNat code :: decodeAfter none
      rest := by
  have ascii : code < 0x80 := Nat.lt_succ_of_le upper
  have byte := UInt8.toNat_ofNat_of_lt' (Nat.lt_trans ascii (by decide))
  simp [decodeAfter, step, start, byte, ascii]

theorem decodeAfter_ofTwo (lower : 0x7F < code) (upper : code ≤ 0x7FF) :
    decodeAfter none
        (UInt8.ofNat (code / 64 % 32 + 192) :: UInt8.ofNat (code % 64 + 128) :: rest) =
      Char.ofNat code :: decodeAfter none rest := by
  have opens := start_two (code / 64 % 32) (by omega) (by omega)
  have bits : code / 64 % 32 * 64 + (code % 64 + 128 - 0x80) = code := by omega
  rw [decodeAfter_opening (by omega) opens, decodeAfter_last (by omega) rfl, bits]
  all_goals dsimp only
  all_goals omega

theorem decodeAfter_ofThree
    (lower : 0x7FF < code)
    (upper : code ≤ 0xFFFF)
    (valid : code < 0xD800 ∨ 0xDFFF < code) :
    decodeAfter none
        (UInt8.ofNat (code / 4096 % 16 + 224) :: UInt8.ofNat (code / 64 % 64 + 128) ::
          UInt8.ofNat (code % 64 + 128) :: rest) =
      Char.ofNat code :: decodeAfter none rest := by
  have opens := start_three (code / 4096 % 16) (by omega)
  have least : (if code / 4096 % 16 = 0 then 0xA0 else 0x80) ≤
      code / 64 % 64 + 128 := by
    split <;> omega
  have most : code / 64 % 64 + 128 ≤ if code / 4096 % 16 = 13 then 0x9F else 0xBF := by
    split <;> omega
  have bits : (code / 4096 % 16 * 64 + (code / 64 % 64 + 128 - 0x80)) * 64 +
      (code % 64 + 128 - 0x80) = code := by omega
  rw [decodeAfter_opening (by omega) opens,
    decodeAfter_more (by omega) (by simp) least most,
    decodeAfter_last (by omega) rfl, bits]
  all_goals dsimp only
  all_goals omega

theorem decodeAfter_ofFour (lower : 0xFFFF < code) (upper : code < 0x110000) :
    decodeAfter none
        (UInt8.ofNat (code / 262144 % 8 + 240) :: UInt8.ofNat
          (code / 4096 % 64 + 128) ::
          UInt8.ofNat (code / 64 % 64 + 128) :: UInt8.ofNat (code % 64 + 128) :: rest) =
      Char.ofNat code :: decodeAfter none rest := by
  have opens := start_four (code / 262144 % 8) (by omega)
  have least : (if code / 262144 % 8 = 0 then 0x90 else 0x80) ≤
      code / 4096 % 64 + 128 := by
    split <;> omega
  have most : code / 4096 % 64 + 128 ≤ if code / 262144 % 8 = 4 then 0x8F
      else 0xBF := by
    split <;> omega
  have bits : ((code / 262144 % 8 * 64 + (code / 4096 % 64 + 128 - 0x80)) * 64 +
      (code / 64 % 64 + 128 - 0x80)) * 64 + (code % 64 + 128 - 0x80) = code := by omega
  rw [decodeAfter_opening (by omega) opens,
    decodeAfter_more (by omega) (by simp) least most,
    decodeAfter_more (by omega) (by simp), decodeAfter_last (by omega) rfl, bits]
  all_goals dsimp only
  all_goals omega

/-- The bytes of a character are read as the character. -/
theorem decodeAfter_encodeChar (c : Char) :
    decodeAfter none (String.utf8EncodeChar c ++ rest) = c :: decodeAfter none
      rest := by
  have whole : Char.ofNat c.val.toNat = c := Char.ofNat_toNat c
  have valid := c.valid
  simp only [UInt32.isValidChar, Nat.isValidChar] at valid
  unfold String.utf8EncodeChar
  dsimp only
  generalize c.val.toNat = code at whole valid ⊢
  rw [← whole]
  split_ifs with one two three
  · exact decodeAfter_ofOne rest one
  · exact decodeAfter_ofTwo rest (by omega) two
  · exact decodeAfter_ofThree rest (by omega) three (by omega)
  · exact decodeAfter_ofFour rest (by omega) (by omega)

end Characters

theorem decode_encode (text : List Char) : decode (encode text) = text := by
  induction text with
  | nil => rfl
  | cons c rest inductionHypothesis =>
      rw [encode, List.flatMap_cons, decode, decodeAfter_encodeChar]
      exact congrArg (c :: ·) inductionHypothesis

end Utf8
end Text
end KernelInventory
