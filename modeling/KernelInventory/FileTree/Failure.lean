import KernelInventory.Text.Quoted

/-!
# Why a file cannot be used

A failure is a cause, together with the path it was met at.  The wording belongs to
`message`.
-/

namespace KernelInventory

/-- The reasons for which the file system refuses a path. -/
inductive SystemError
  | noSuchEntry
  | permissionDenied
  | notDirectory
  | isDirectory
  | nameTooLong
  | tooManyLinks
deriving Repr, DecidableEq

namespace SystemError

/-- The number of the error. -/
def number : SystemError → Nat
  | noSuchEntry => 2
  | permissionDenied => 13
  | notDirectory => 20
  | isDirectory => 21
  | nameTooLong => 36
  | tooManyLinks => 40

/-- The wording of the error. -/
def description : SystemError → String
  | noSuchEntry => "No such file or directory"
  | permissionDenied => "Permission denied"
  | notDirectory => "Not a directory"
  | isDirectory => "Is a directory"
  | nameTooLong => "File name too long"
  | tooManyLinks => "Too many levels of symbolic links"

/-- Whether the error only says that nothing is there: the entry is missing, lies below
a file, or hides behind links that lead nowhere. -/
def meansAbsent : SystemError → Bool
  | noSuchEntry => true
  | notDirectory => true
  | tooManyLinks => true
  | _ => false

end SystemError

/-- Why an access to a file tree failed. -/
inductive FileFailure
  /-- The file system refused the path. -/
  | refused (error : SystemError) (path : String)
  /-- A symbolic link leads back to itself. -/
  | linkLoop (path : String)
  /-- The path holds the character NUL, which no file system takes. -/
  | nullByte
deriving Repr, DecidableEq

namespace FileFailure

/-- The wording of a failure. -/
def message : FileFailure → String
  | refused error path =>
      s!"[Errno {error.number}] {error.description}: {Text.quoted path}"
  | linkLoop path => s!"Symlink loop from {Text.quoted path}"
  | nullByte => "embedded null byte"

instance : ToString FileFailure := ⟨message⟩

end FileFailure
end KernelInventory
