/-!
# Component records

What is known about one configuration component: its kind, the expressions given for it,
how often and where it is declared, and the code that depends on it.
-/

namespace KernelInventory

/-- The sum of the weights of the members of a list. -/
def tally {α : Type} (weight : α → Nat) : List α → Nat
  | [] => 0
  | member :: rest => weight member + tally weight rest

@[simp] theorem tally_nil {α : Type} (weight : α → Nat) : tally weight [] = 0 := rfl

@[simp] theorem tally_cons {α : Type} (weight : α → Nat) (member : α) (rest : List α) :
    tally weight (member :: rest) = weight member + tally weight rest := rfl

/-- The tally of two lists together is the sum of their tallies. -/
@[simp] theorem tally_append {α : Type} (weight : α → Nat) (left right : List α) :
    tally weight (left ++ right) = tally weight left + tally weight right := by
  induction left with
  | nil => simp
  | cons member rest inductionHypothesis => simp [inductionHypothesis, Nat.add_assoc]

/-- The kind of value that a component takes. -/
inductive ValueKind
  | unknown
  | boolean
  | value
deriving Repr, DecidableEq

namespace ValueKind

/-- The label of a kind in reports. -/
def label : ValueKind → String
  | unknown => "Unknown"
  | boolean => "Bool"
  | value => "Value"

end ValueKind

/-- The number of source lines in a block of code whose lines are
separated by line feeds. -/
def snippetLineCount (snippet : String) : Nat :=
  snippet.toList.count '\n' + 1

/-- Everything recorded about one component. -/
structure Record where
  name : String
  kind : ValueKind := .value
  defaults : List String := []
  depends : List String := []
  selects : List String := []
  /-- How often the component is declared. -/
  occurrences : Int := 0
  snippets : List String := []
  files : List String := []
deriving Repr, DecidableEq

namespace Record

/-- Note that a file declares the component; each file is kept once. -/
def addFile (record : Record) (file : String) : Record :=
  if file ∈ record.files then record
  else { record with files := record.files ++ [file] }

/-- Attach a block of code. -/
def addSnippet (record : Record) (snippet : String) : Record :=
  { record with snippets := record.snippets ++ [snippet] }

/-- Count one more declaration, in a file if it is known. -/
def addOccurrence (record : Record) (file : Option String) : Record :=
  let counted := { record with occurrences := record.occurrences + 1 }
  file.elim counted counted.addFile

/-- The number of source lines in all blocks of the record. -/
def codeLines (record : Record) : Nat :=
  tally snippetLineCount record.snippets

@[simp] theorem name_addFile (record : Record) (file : String) :
    (record.addFile file).name = record.name := by
  unfold addFile
  split <;> rfl

@[simp] theorem name_addSnippet (record : Record) (snippet : String) :
    (record.addSnippet snippet).name = record.name := rfl

@[simp] theorem name_addOccurrence (record : Record) (file : Option String) :
    (record.addOccurrence file).name = record.name := by
  cases file <;> simp [addOccurrence]

end Record
end KernelInventory
