/-!
# UTF-8 with replacement

Bytes are read as UTF-8.  Malformed input never fails: each maximal part of a sequence
that cannot be continued becomes one replacement character U+FFFD, and reading goes on
with the byte that did not fit.  A byte order mark is an ordinary character.
-/

namespace KernelInventory
namespace Text
namespace Utf8

/-- The character that stands for malformed input. -/
def replacement : Char := Char.ofNat 0xFFFD

/-- What is still due of a multi-byte sequence: how many bytes, the range of the next
one, and the bits read so far. -/
structure Due where
  count : Nat
  lowest : Nat
  highest : Nat
  bits : Nat
deriving Repr, DecidableEq

/-- Start reading at a byte that opens a sequence, is a sequence by
itself, or is malformed. -/
def start (byte : Nat) : List Char × Option Due :=
  if byte < 0x80 then ([Char.ofNat byte], none)
  else if 0xC2 ≤ byte ∧ byte ≤ 0xDF then ([], some ⟨1, 0x80, 0xBF, byte - 0xC0⟩)
  else if byte = 0xE0 then ([], some ⟨2, 0xA0, 0xBF, 0⟩)
  else if byte = 0xED then ([], some ⟨2, 0x80, 0x9F, 0xD⟩)
  else if 0xE1 ≤ byte ∧ byte ≤ 0xEF then ([], some ⟨2, 0x80, 0xBF, byte - 0xE0⟩)
  else if byte = 0xF0 then ([], some ⟨3, 0x90, 0xBF, 0⟩)
  else if 0xF1 ≤ byte ∧ byte ≤ 0xF3 then ([], some ⟨3, 0x80, 0xBF, byte - 0xF0⟩)
  else if byte = 0xF4 then ([], some ⟨3, 0x80, 0x8F, 4⟩)
  else ([replacement], none)

/-- Read one byte: the characters it completes, and what is due after it. -/
def step (due : Option Due) (byte : Nat) : List Char × Option Due :=
  match due with
  | none => start byte
  | some due =>
    if due.lowest ≤ byte ∧ byte ≤ due.highest then
      let bits := due.bits * 64 + (byte - 0x80)
      if due.count ≤ 1 then ([Char.ofNat bits], none)
      else ([], some ⟨due.count - 1, 0x80, 0xBF, bits⟩)
    else
      let (characters, next) := start byte
      (replacement :: characters, next)

/-- Decode bytes after a part of a sequence has been read. -/
def decodeAfter (due : Option Due) : List UInt8 → List Char
  | [] => if due.isSome then [replacement] else []
  | byte :: rest =>
    let (characters, next) := step due byte.toNat
    characters ++ decodeAfter next rest

/-- The characters that bytes stand for. -/
def decode (bytes : List UInt8) : List Char :=
  decodeAfter none bytes

@[simp] theorem decode_nil : decode [] = [] := rfl

/-- The bytes of a text. -/
def encode (text : List Char) : List UInt8 :=
  text.flatMap String.utf8EncodeChar

@[simp] theorem encode_nil : encode [] = [] := rfl

end Utf8
end Text
end KernelInventory
