import KernelInventory.FileTree.Lookup
import KernelInventory.Proofs.Text.Utf8

/-!
# Operations on what a path leads to

Reading a file and listing a directory start with looking the path up.  They fail
for NUL if the path holds it, and else are refused with the path if the lookup or
the operation itself fails.
-/

namespace KernelInventory
namespace FileTree

variable {tree : FileTree} {path : Path} {place : Location}

section Operations

variable {α : Type} {operation : Location → Except SystemError α} {value : α}

theorem atPath_of_null (null : path.hasNull = true) :
    tree.atPath path operation = .error .nullByte :=
  if_pos null

theorem atPath_of_locate
    (noNull : path.hasNull = false)
    (located : tree.locate true path = .ok place) :
    tree.atPath path operation =
      match operation place with
      | .error error => .error (.refused error path.toString)
      | .ok value => .ok value := by
  rw [atPath, noNull, located]
  rfl

theorem atPath_of_locate_error
    {error : SystemError}
    (noNull : path.hasNull = false)
    (failed : tree.locate true path = .error error) :
    tree.atPath path operation = .error (.refused error path.toString) := by
  rw [atPath, noNull, failed]
  rfl

/-- An operation succeeds exactly if the path leads to a place where it does. -/
theorem atPath_eq_ok_iff :
    tree.atPath path operation = .ok value ↔
      path.hasNull = false ∧
        ∃ place, tree.locate true path = .ok place ∧ operation place = .ok value := by
  cases noNull : path.hasNull with
  | true => simp [atPath_of_null noNull]
  | false =>
      cases located : tree.locate true path with
      | error error => simp [atPath_of_locate_error noNull located]
      | ok place =>
          rw [atPath_of_locate noNull located]
          cases done : operation place <;> simp [done]

/-- An operation on a path without NUL fails only because the path is refused. -/
theorem refused_of_atPath
    {failure : FileFailure}
    (noNull : path.hasNull = false)
    (failed : tree.atPath path operation = .error failure) :
    ∃ error, failure = .refused error path.toString := by
  cases located : tree.locate true path with
  | error error =>
      rw [atPath_of_locate_error noNull located] at failed
      exact ⟨error, (Except.error.inj failed).symm⟩
  | ok place =>
      rw [atPath_of_locate noNull located] at failed
      cases done : operation place with
      | error error =>
          rw [done] at failed
          exact ⟨error, (Except.error.inj failed).symm⟩
      | ok value =>
          rw [done] at failed
          cases failed

end Operations

/-! ## Texts -/

theorem readText_of_readAt
    {bytes : List UInt8}
    (noNull : path.hasNull = false)
    (located : tree.locate true path = .ok place)
    (read : tree.readAt place = .ok bytes) :
    tree.readText path = .ok (Text.Utf8.decode bytes) := by
  rw [readText, atPath_of_locate noNull located, read]
  rfl

/-- A text that has been written is read again. -/
theorem readText_of_node
    {text : List Char}
    (noNull : path.hasNull = false)
    (located : tree.locate true path = .ok place)
    (node : tree.node? place = some (.file (Text.Utf8.encode text) true)) :
    tree.readText path = .ok text := by
  have read : tree.readAt place = .ok (Text.Utf8.encode text) := by
    rw [readAt, node]
    rfl
  rw [readText_of_readAt noNull located read, Text.Utf8.decode_encode]

theorem readText_of_readAt_error
    {error : SystemError}
    (noNull : path.hasNull = false)
    (located : tree.locate true path = .ok place)
    (denied : tree.readAt place = .error error) :
    tree.readText path = .error (.refused error path.toString) := by
  rw [readText, atPath_of_locate noNull located, denied]
  rfl

/-- What is read are the bytes where the path leads to. -/
theorem of_readText
    {text : List Char}
    (read : tree.readText path = .ok text) :
    path.hasNull = false ∧
      ∃ place bytes, tree.locate true path = .ok place ∧ tree.readAt place = .ok bytes ∧
        text = Text.Utf8.decode bytes := by
  unfold readText at read
  cases opened : tree.atPath path tree.readAt with
  | error failure =>
      rw [opened] at read
      cases read
  | ok bytes =>
      rw [opened] at read
      obtain ⟨noNull, place, located, bytesRead⟩ := atPath_eq_ok_iff.mp opened
      exact ⟨noNull, place, bytes, located, bytesRead, (Except.ok.inj read).symm⟩

theorem refused_of_readText
    {failure : FileFailure}
    (noNull : path.hasNull = false)
    (failed : tree.readText path = .error failure) :
    ∃ error, failure = .refused error path.toString := by
  unfold readText at failed
  cases opened : tree.atPath path tree.readAt with
  | error other =>
      rw [opened] at failed
      obtain rfl := Except.error.inj failed
      exact refused_of_atPath noNull opened
  | ok bytes =>
      rw [opened] at failed
      cases failed

end FileTree
end KernelInventory
