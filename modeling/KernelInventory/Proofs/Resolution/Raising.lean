import KernelInventory.Proofs.Component.Table
import KernelInventory.Proofs.Resolution.Visit

/-!
# Failures that are raised and caught

A resolution as a program that changes what has been gathered and raises failures.
A failure that is raised takes nothing back: whoever catches it goes on from what
has been gathered by then.  Only the handling of a `source` line catches failures
inside a resolution, and it catches what the file system refuses, together with
loops of links as long as the target is looked for; what goes wrong with the entry
file is reported as such.

A file that has been opened raises nothing that such a handler catches, since the
handlers inside have caught it.  The program therefore comes to what the events of
the resolution amount to.
-/

namespace KernelInventory
namespace Resolution

namespace Result

/-- Nothing has been gathered. -/
def empty : Result := ⟨Table.empty, [], [], []⟩

/-- A file has been opened. -/
def withFile (gathered : Result) (file : Location) : Result :=
  { gathered with files := gathered.files ++ [file.path] }

/-- A line of a file has changed the table. -/
def withChange (gathered : Result) (file : Location)
    (change : Stanza.Effect) : Result :=
  { gathered with table := change.apply (some file.path.toString) gathered.table }

/-- An issue of a file has been recorded. -/
def withIssue (gathered : Result) (file : Location) (message : String) : Result :=
  { gathered with issues := gathered.issues ++ [⟨file.path.toString, message⟩] }

/-- A directory may hold source code. -/
def withDirectory (gathered : Result) (directory : Path) : Result :=
  { gathered with
    sourceDirectories :=
      if directory ∈ gathered.sourceDirectories then gathered.sourceDirectories
      else gathered.sourceDirectories ++ [directory] }

end Result

/-- How a `source` line ends that raises nothing. -/
inductive Ending
  | filtered (target : Location)
  | gaveUp (cause : SkipCause)
  | read (target : Location)
deriving Repr, DecidableEq

/-- A part of a resolution: it goes on from what has been gathered, and ends with a
value, or with the failure that it raises, and with what has been gathered then. -/
abbrev Attempt (α : Type) := Result → Except FileFailure α × Result

section Program

variable (tree : FileTree) (settings : Settings) (root : Path)

/-- Open a file and go on with its bytes. -/
def opening {α : Type} (file : Location)
    (body : (bytes : List UInt8) → tree.openAt file = .ok bytes → Attempt α) :
      Attempt α :=
  fun gathered =>
    match readable : tree.openAt file with
    | .error error => (.error (.refused error file.path.toString), gathered)
    | .ok bytes => body bytes readable (gathered.withFile file)

/-- Handle a `source` line, given how a target is read that is not being read. -/
def handleSource (chain : List Location) (file : Location) (text : String)
    (readTarget : (target : Location) → target ∉ chain → Attempt Unit) :
      Attempt Ending :=
  fun gathered =>
    match tree.realLocation (root / Path.ofString text) with
    | .error .nullByte => (.error .nullByte, gathered)
    | .error failure =>
      (.ok (.gaveUp (.unresolved text failure)),
        gathered.withIssue file s!"cannot resolve source {Text.quoted text}: {failure}")
    | .ok target =>
      if !selected settings target then (.ok (.filtered target), gathered)
      else if open? : target ∈ chain then
        (.ok (.gaveUp (.cycle target)),
          gathered.withIssue file s!"source cycle through {target.path}")
      else
        match readTarget target open? gathered with
        | (.ok (), later) =>
            (.ok (.read target), later.withDirectory target.path.parent)
        | (.error (.refused error place), later) =>
          (.ok (.gaveUp (.unreadable target error)),
            later.withIssue file
              s!"cannot read {target.path}: {FileFailure.refused error place}")
        | (.error failure, later) => (.error failure, later)

/-- Read the lines that are left of a file. -/
def readLines (chain : List Location) (file : Location) (state : Stanza.State)
    (lines : List (List Char)) (gathered : Result) : Except FileFailure Unit × Result :=
  match lines with
  | [] => (.ok (), gathered)
  | raw :: rest =>
    match Stanza.readRaw settings.skipHelp state raw with
    | (next, none) => readLines chain file next rest gathered
    | (next, some (.effect change)) =>
      readLines chain file next rest (gathered.withChange file change)
    | (next, some (.source text)) =>
      let handled := handleSource tree settings root chain file text
        (fun target _ => opening tree target fun bytes _ inside =>
          readLines (target :: chain) target {} (linesOf bytes) inside) gathered
      match handled with
      | (.ok _, later) => readLines chain file next rest later
      | (.error failure, later) => (.error failure, later)
termination_by ((tree.freshLocations chain).length, lines.length)
decreasing_by
  all_goals first
    | exact Prod.Lex.right _ (Nat.lt_succ_self _)
    | next fresh opened =>
        exact Prod.Lex.left _ _ (FileTree.freshLocations_lt fresh opened)

/-- Open a file and read it to its end. -/
def readFile (chain : List Location) (file : Location) : Attempt Unit :=
  opening tree file fun bytes _ =>
    readLines tree settings root chain file {} (linesOf bytes)

/-- Handle a `source` line of a file. -/
def followSource (chain : List Location) (file : Location) (text : String) :
    Attempt Ending :=
  handleSource tree settings root chain file text fun target _ =>
    readFile tree settings root (target :: chain) target

/-- Resolve an entry file: what its path leads to, and everything that
is read then, may fail. -/
def attempt (entry : Path) : Except Failure Result :=
  match tree.realLocation entry with
  | .error failure => .error (.ofEntry entry failure)
  | .ok file =>
    match readFile tree settings (chooseRoot tree settings entry).1 [file] file
      .empty with
    | (.ok (), gathered) => .ok gathered
    | (.error failure, _) => .error (.ofEntry entry failure)

end Program

/-! ## One step of the program -/

section Steps

variable {tree : FileTree} {settings : Settings} {root : Path} {chain : List Location}

/-- A file that cannot be opened leaves everything as it is. -/
theorem opening_eq
    {α : Type} (file : Location) (body : List UInt8 → Attempt α) (gathered : Result) :
    opening tree file (fun bytes _ => body bytes) gathered =
      match tree.openAt file with
      | .error error => (.error (.refused error file.path.toString), gathered)
      | .ok bytes => body bytes (gathered.withFile file) := by
  unfold opening
  split
  all_goals next found => simp only [found]

/-- A line of a file is read, what it says is carried out, and the file goes on. -/
theorem readLines_cons
    (file : Location) (state : Stanza.State) (raw : List Char) (rest : List (List Char))
    (gathered : Result) :
    readLines tree settings root chain file state (raw :: rest) gathered =
      match Stanza.readRaw settings.skipHelp state raw with
      | (next, none) => readLines tree settings root chain file next rest gathered
      | (next, some (.effect change)) =>
        readLines tree settings root chain file next rest
          (gathered.withChange file change)
      | (next, some (.source text)) =>
        match followSource tree settings root chain file text gathered with
        | (.ok _, later) => readLines tree settings root chain file next rest later
        | (.error failure, later) => (.error failure, later) := by
  rw [readLines]
  rfl

/-- What becomes of a `source` line is decided by what is to be done about it, and by
how the target is read if it is followed. -/
theorem followSource_eq (file : Location) (text : String) (gathered : Result) :
    followSource tree settings root chain file text gathered =
      match aim tree settings root chain text with
      | .filtered target => (.ok (.filtered target), gathered)
      | .skipped cause => (.ok (.gaveUp cause), gathered.withIssue file cause.message)
      | .locked target error =>
        (.ok (.gaveUp (.unreadable target error)),
          gathered.withIssue file (SkipCause.unreadable target error).message)
      | .follow target content =>
        match readLines tree settings root (target :: chain) target {} (linesOf content)
            (gathered.withFile target) with
        | (.ok (), later) =>
            (.ok (.read target), later.withDirectory target.path.parent)
        | (.error (.refused error place), later) =>
          (.ok (.gaveUp (.unreadable target error)),
            later.withIssue file
              s!"cannot read {target.path}: {FileFailure.refused error place}")
        | (.error failure, later) => (.error failure, later)
      | .fault failure => (.error failure, gathered) := by
  unfold followSource handleSource aim
  cases located : tree.realLocation (root / Path.ofString text) with
  | error failure => cases failure <;> rfl
  | ok target =>
      dsimp only
      split
      · rfl
      · split
        · rfl
        · rw [readFile, opening_eq]
          cases tree.openAt target <;> rfl

/-! ## What is raised -/

/-- A `source` line raises nothing but NUL, if that holds of the files that it can lead
to. -/
theorem eq_nullByte_of_followSource
    (nested : ∀ text target content,
      aim tree settings root chain text = .follow target content →
        ∀ gathered failure,
          (readLines tree settings root (target :: chain) target {} (linesOf content)
              gathered).1 = .error failure →
            failure = .nullByte)
    {file : Location} {text : String} {gathered : Result} {failure : FileFailure}
    (raised : (followSource tree settings root chain file text gathered).1 =
      .error failure) :
    failure = .nullByte := by
  rw [followSource_eq] at raised
  cases aimed : aim tree settings root chain text with
  | filtered _ | skipped _ | locked _ _ =>
      rw [aimed] at raised
      cases raised
  | fault other =>
      rw [aimed] at raised
      exact Except.error.inj raised ▸ (aim_eq_fault_iff.mp aimed).1
  | follow target content =>
      rw [aimed] at raised
      dsimp only at raised
      split at raised
      · cases raised
      · cases raised
      next other later _ inside =>
        obtain rfl := Except.error.inj raised
        exact nested text target content aimed _ other (congrArg Prod.fst inside)

/-- Reading the lines of a file raises nothing but NUL: whatever else is raised inside
is caught where a `source` line is handled. -/
theorem eq_nullByte_of_readLines
    (chain : List Location) {file : Location} {state : Stanza.State}
    {lines : List (List Char)}
    {gathered : Result} {failure : FileFailure}
    (raised : (readLines tree settings root chain file state lines gathered).1 =
      .error failure) :
    failure = .nullByte := by
  induction chain using @chain_induction tree settings root
    generalizing file state lines gathered failure with
  | step chain outerHypothesis =>
      have nested : ∀ text target content,
          aim tree settings root chain text = .follow target content →
            ∀ gathered failure,
              (readLines tree settings root (target :: chain) target {}
                (linesOf content) gathered).1 = .error failure →
                failure = .nullByte :=
        fun text target content followed _ _ inside =>
          outerHypothesis text target content followed inside
      induction lines generalizing state gathered with
      | nil =>
          rw [readLines] at raised
          cases raised
      | cons raw rest innerHypothesis =>
          rw [readLines_cons] at raised
          split at raised
          · exact innerHypothesis raised
          · exact innerHypothesis raised
          · split at raised
            · exact innerHypothesis raised
            next other later handled =>
              obtain rfl := Except.error.inj raised
              exact eq_nullByte_of_followSource nested (congrArg Prod.fst handled)

end Steps

/-! ## What the events amount to -/

namespace Result

/-- What has been gathered after one more event. -/
def add (gathered : Result) : Event → Result
  | .opened file => gathered.withFile file
  | .effect file change => gathered.withChange file change
  | .skipped file cause => gathered.withIssue file cause.message
  | .finished target => gathered.withDirectory target.path.parent
  | _ => gathered

theorem ofEvents_snoc (events : List Event) (event : Event) :
    ofEvents (events ++ [event]) = (ofEvents events).add event := by
  simp only [ofEvents, tableAfter, List.foldl_append, List.foldl_cons, List.foldl_nil,
    List.filterMap_append, List.filterMap_cons, List.filterMap_nil, add]
  cases event with
  | finished target =>
      simp [withDirectory, Event.apply, Event.file?, Event.issue?,
        Event.sourceDirectory?, eraseDups_snoc]
  | opened file | effect file change | filtered target | entering target file
  | skipped file cause | fault failure =>
      simp [withFile, withChange, withIssue, Event.apply, Event.file?, Event.issue?,
        Event.sourceDirectory?]

theorem ofEvents_eq_foldl (events : List Event) :
    ofEvents events = events.foldl add empty := by
  induction events using List.reverseRecOn with
  | nil => rfl
  | append_singleton events event inductionHypothesis =>
      rw [ofEvents_snoc, inductionHypothesis, List.foldl_append, List.foldl_cons,
        List.foldl_nil]

end Result

/-- Gather what events amount to, up to the one that ends the resolution. -/
def carryOut : List Event → Attempt Unit
  | [], gathered => (.ok (), gathered)
  | event :: rest, gathered =>
    match event.fault? with
    | some failure => (.error failure, gathered)
    | none => carryOut rest (gathered.add event)

theorem carryOut_append (left right : List Event) (gathered : Result) :
    carryOut (left ++ right) gathered =
      match carryOut left gathered with
      | (.ok (), later) => carryOut right later
      | (.error failure, later) => (.error failure, later) := by
  induction left generalizing gathered with
  | nil => rfl
  | cons event rest inductionHypothesis =>
      rw [List.cons_append, carryOut, carryOut]
      cases event.fault? with
      | some failure => rfl
      | none => exact inductionHypothesis _

/-- Events end with the first fault among them. -/
theorem carryOut_eq (events : List Event) (gathered : Result) :
    carryOut events gathered =
      (match events.findSome? Event.fault? with
        | some failure => .error failure
        | none => .ok (),
        (beforeFault events).foldl Result.add gathered) := by
  induction events generalizing gathered with
  | nil => rfl
  | cons event rest inductionHypothesis =>
      rw [carryOut, List.findSome?_cons, beforeFault, List.takeWhile_cons]
      cases event.fault? with
      | some failure => rfl
      | none => exact inductionHypothesis _

section Simulation

variable {tree : FileTree} {settings : Settings} {root : Path}

/-- Handling a `source` line comes to what its events amount to, if that holds of the
files that it can lead to. -/
theorem carryOut_sourceEvents
    {chain : List Location}
    (nested : ∀ text target content,
      aim tree settings root chain text = .follow target content →
        ∀ gathered,
          readLines tree settings root (target :: chain) target {} (linesOf content)
              (gathered.withFile target) =
            carryOut (visit tree settings root (target :: chain) target content)
              gathered)
    (file : Location) (text : String) (gathered : Result) :
    carryOut (sourceEvents tree settings root chain file text) gathered =
      match followSource tree settings root chain file text gathered with
      | (.ok _, later) => (.ok (), later)
      | (.error failure, later) => (.error failure, later) := by
  rw [followSource_eq, sourceEvents]
  cases aimed : aim tree settings root chain text with
  | filtered _ | skipped _ | locked _ _ | fault _ => rfl
  | follow target content =>
      have inside := nested text target content aimed gathered
      have enters (behind : List Event) :
          carryOut (.entering target file :: behind) gathered = carryOut behind
            gathered := rfl
      dsimp only
      rw [List.cons_append, enters, carryOut_append, ← inside]
      cases read : readLines tree settings root (target :: chain) target {}
        (linesOf content) (gathered.withFile target) with
      | mk outcome later =>
          cases outcome with
          | ok value => rfl
          | error failure =>
              obtain rfl :=
                eq_nullByte_of_readLines (target :: chain) (congrArg Prod.fst read)
              rfl

/-- Reading lines comes to what their events amount to. -/
theorem readLines_eq_carryOut
    (chain : List Location) (file : Location) (state : Stanza.State)
    (lines : List (List Char))
    (gathered : Result) :
    readLines tree settings root chain file state lines gathered =
      carryOut
        ((Stanza.entriesFrom settings.skipHelp state lines).flatMap
          (entryEvents tree settings root chain file)) gathered := by
  induction chain using @chain_induction tree settings root
    generalizing file state lines gathered with
  | step chain outerHypothesis =>
      have nested : ∀ text target content,
          aim tree settings root chain text = .follow target content →
            ∀ gathered,
              readLines tree settings root (target :: chain) target {} (linesOf content)
                  (gathered.withFile target) =
                carryOut (visit tree settings root (target :: chain) target content)
                  gathered := by
        intro text target content followed gathered
        rw [visit_eq_entries, outerHypothesis text target content followed]
        rfl
      -- inside, over the lines of one file: the outer hypothesis is about the files
      -- they source
      induction lines generalizing state gathered with
      | nil => rw [readLines]; rfl
      | cons raw rest innerHypothesis =>
          rw [readLines_cons, Stanza.entriesFrom]
          rcases Stanza.readRaw settings.skipHelp state raw with ⟨next, said⟩
          cases said with
          | none => exact innerHypothesis next gathered
          | some said =>
              dsimp only
              rw [Option.toList_some, List.singleton_append, List.flatMap_cons,
                carryOut_append]
              cases said with
              | effect change =>
                  exact innerHypothesis next (gathered.withChange file change)
              | source text =>
                  rw [entryEvents, carryOut_sourceEvents nested]
                  dsimp only
                  cases followSource tree settings root chain file text gathered with
                  | mk outcome later =>
                      cases outcome with
                      | ok ending => exact innerHypothesis next later
                      | error failure => rfl

/-- A resolution that raises and catches failures comes to what is read off its
events. -/
theorem attempt_eq_run (tree : FileTree) (settings : Settings) (entry : Path) :
    attempt tree settings entry = (run tree settings entry).1 := by
  unfold attempt run openEntry
  cases located : tree.realLocation entry with
  | error failure => rfl
  | ok file =>
      dsimp only
      rw [readFile, opening_eq]
      cases tree.openAt file with
      | error error => rfl
      | ok bytes =>
          dsimp only
          have whole : readLines tree settings (chooseRoot tree settings entry).1
              [file] file {} (linesOf bytes) (Result.empty.withFile file) =
              carryOut (visit tree settings (chooseRoot tree settings entry).1 [file]
                file bytes) .empty := by
            rw [visit_eq_entries, readLines_eq_carryOut]
            rfl
          rw [whole, carryOut_eq]
          cases found :
            (visit tree settings (chooseRoot tree settings entry).1 [file] file
              bytes).findSome? Event.fault? with
          | none => simp [Result.ofEvents_eq_foldl]
          | some failure =>
              have raised := congrArg Prod.fst (whole.trans (carryOut_eq _ _))
              rw [found] at raised
              obtain rfl := eq_nullByte_of_readLines [file] raised
              rfl

end Simulation

end Resolution
end KernelInventory
