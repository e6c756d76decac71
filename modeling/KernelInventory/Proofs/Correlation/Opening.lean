import KernelInventory.Code.Correlation
import KernelInventory.Proofs.Component.Growth
import KernelInventory.Proofs.Stanza.Reading
import Mathlib

/-!
# The files that a correlation opens

The walks of the candidate directories may come upon one file again and again: the
directories overlap, and links lead to a file under other names.  A correlation that
returns has opened, of all the code files that the walks yield, the first one of each
canonical path, and has done so in the order of the walks.  Its counters, its issues and
the snippets that it attaches come from the scans of these files.
-/

namespace KernelInventory

/-! ## First members of each key -/

section Firsts

variable {α κ : Type} [DecidableEq κ] (key : α → κ)

/-- The members that no other one in front of them shares its key with, behind some
others. -/
def firstsFrom (past members : List α) : List α :=
  (withPast past members).filterMap fun (earlier, member) =>
    if key member ∈ earlier.map key then none else some member

/-- The members that no other one in front of them shares its key with. -/
def firsts (members : List α) : List α :=
  firstsFrom key [] members

theorem firstsFrom_cons (past : List α) (member : α) (rest : List α) :
    firstsFrom key past (member :: rest) =
      if key member ∈ past.map key then firstsFrom key (past ++ [member]) rest
      else member :: firstsFrom key (past ++ [member]) rest := by
  rw [firstsFrom, withPast_cons, List.filterMap_cons]
  by_cases shared : key member ∈ past.map key <;> simp [shared, firstsFrom]

theorem firsts_snoc (members : List α) (member : α) :
    firsts key (members ++ [member]) =
      firsts key members ++ if key member ∈ members.map key then [] else [member] := by
  rw [firsts, firstsFrom, withPast_append, List.filterMap_append, List.nil_append]
  refine congrArg (firsts key members ++ ·) ?_
  exact (firstsFrom_cons key members member []).trans (by simp [firstsFrom])

theorem firsts_of_ne {first second : α} (different : key first ≠ key second) :
    firsts key [first, second] = [first, second] := by
  rw [firsts, firstsFrom_cons, if_neg (by simp), firstsFrom_cons,
    if_neg (by simpa using Ne.symm different)]
  rfl

theorem firsts_of_eq {first second : α} (same : key first = key second) :
    firsts key [first, second] = [first] := by
  rw [firsts, firstsFrom_cons, if_neg (by simp), firstsFrom_cons,
    if_pos (by simp [same])]
  rfl

theorem firsts_sublist (members : List α) : (firsts key members).Sublist members := by
  induction members using List.reverseRecOn with
  | nil => exact List.Sublist.refl []
  | append_singleton members member inductionHypothesis =>
      rw [firsts_snoc]
      split
      · exact inductionHypothesis.append (List.nil_sublist _)
      · exact inductionHypothesis.append (List.Sublist.refl _)

/-- The keys of the first members are all keys, each once. -/
theorem map_firsts (members : List α) :
    (firsts key members).map key = (members.map key).eraseDups := by
  induction members using List.reverseRecOn with
  | nil => rfl
  | append_singleton members member inductionHypothesis =>
      rw [firsts_snoc, List.map_append, inductionHypothesis, List.map_append,
        List.map_singleton, eraseDups_snoc]
      split <;> simp

end Firsts

namespace Correlation

open Walk

/-! ## The events of a correlation -/

namespace Event

/-- Whether a file is opened, or was to be. -/
def opens : Event → Bool
  | scanned .. => true
  | unreadable .. => true
  | passed _ => false

end Event

/-- The code files that walks come upon. -/
def codeFiles (found : List Finding) : List Path :=
  (found.filterMap Finding.file?).filter isCode

theorem codeFiles_cons_file (path : Path) (rest : List Finding) :
    codeFiles (.file path :: rest) =
      if isCode path then path :: codeFiles rest else codeFiles rest := by
  have step : (Finding.file path :: rest).filterMap Finding.file? =
      path :: rest.filterMap Finding.file? := rfl
  rw [codeFiles, step, List.filter_cons]
  rfl

theorem codeFiles_cons_of_noFile
    {finding : Finding} (noFile : finding.file? = none) (rest : List Finding) :
    codeFiles (finding :: rest) = codeFiles rest := by
  rw [codeFiles, List.filterMap_cons_none noFile, codeFiles]

section Events

variable {tree : FileTree} {known : String → Bool}

/-- A file that is opened without a failure is scanned, or cannot be read. -/
theorem opens_scanFile {path : Path}
    (faultless : (scanFile tree known path).fault? = none) :
    (scanFile tree known path).opens = true := by
  unfold scanFile at faultless ⊢
  cases read : tree.readText path with
  | ok text => rfl
  | error failure =>
      rw [read] at faultless
      cases failure with
      | refused error place => rfl
      | linkLoop place | nullByte => cases faultless

variable (tree known) in
/-- How the events of a correlation come about, finding by finding, when the files with
the paths that have been seen have been scanned. -/
inductive Unfolds : List Path → List Finding → List Event → Prop
  | nil {seen : List Path} : Unfolds seen [] []
  | noFile {seen : List Path} {finding : Finding} {rest : List Finding}
      {events : List Event} :
    finding.file? = none → Unfolds seen rest events →
      Unfolds seen (finding :: rest) (.passed finding :: events)
  | noCode {seen : List Path} {path : Path} {rest : List Finding}
      {events : List Event} :
    isCode path = false → Unfolds seen rest events →
      Unfolds seen (.file path :: rest) events
  /-- The file has no canonical path, which ends the correlation. -/
  | unresolved {seen : List Path} {path : Path} {failure : FileFailure}
      {rest : List Finding} {events : List Event} :
    isCode path = true → tree.realPath path = .error failure →
      Unfolds seen rest events →
      Unfolds seen (.file path :: rest) (.passed (.fault failure) :: events)
  /-- The file has been scanned before. -/
  | again {seen : List Path} {path canonical : Path} {rest : List Finding}
      {events : List Event} :
    isCode path = true → tree.realPath path = .ok canonical → canonical ∈ seen →
      Unfolds seen rest events → Unfolds seen (.file path :: rest) events
  | fresh {seen : List Path} {path canonical : Path} {rest : List Finding}
      {events : List Event} :
    isCode path = true → tree.realPath path = .ok canonical → canonical ∉ seen →
      Unfolds (canonical :: seen) rest events →
        Unfolds seen (.file path :: rest) (scanFile tree known path :: events)

theorem noFile_of_notFile {finding : Finding} (notFile : ∀ path, finding ≠ .file path) :
    finding.file? = none := by
  cases finding with
  | file path => exact absurd rfl (notFile path)
  | outside _ _ | directory _ | unreadable _ _ | fault _ => rfl

variable (tree known) in
theorem unfolds (seen : List Path) (found : List Finding) :
    Unfolds tree known seen found (eventsFrom tree known seen found) := by
  fun_induction eventsFrom tree known seen found with
  | case1 => exact .nil
  | case2 seen path rest code failure failed behind =>
      exact .unresolved code failed behind
  | case3 seen path rest code canonical resolved old behind =>
      exact .again code resolved old behind
  | case4 seen path rest code canonical resolved unseen behind =>
      exact .fresh code resolved unseen behind
  | case5 seen path rest noCode behind =>
      exact .noCode (Bool.eq_false_iff.mpr noCode) behind
  | case6 seen finding rest notFile behind =>
      exact .noFile (noFile_of_notFile notFile) behind

/-- What the walks come upon besides files is passed by. -/
theorem passed_mem_eventsFrom
    {seen : List Path} {found : List Finding} {finding : Finding}
    (member : finding ∈ found) (noFile : finding.file? = none) :
    .passed finding ∈ eventsFrom tree known seen found := by
  have unfolds := unfolds tree known seen found
  generalize eventsFrom tree known seen found = events at unfolds ⊢
  induction unfolds with
  | nil => cases member
  | noFile _ _ inductionHypothesis =>
      rcases List.mem_cons.mp member with rfl | later
      · exact List.mem_cons_self
      · exact List.mem_cons_of_mem _ (inductionHypothesis later)
  | unresolved _ _ _ inductionHypothesis | fresh _ _ _ _ inductionHypothesis =>
      rcases List.mem_cons.mp member with rfl | later
      · cases noFile
      · exact List.mem_cons_of_mem _ (inductionHypothesis later)
  | noCode _ _ inductionHypothesis | again _ _ _ _ inductionHypothesis =>
      rcases List.mem_cons.mp member with rfl | later
      · cases noFile
      · exact inductionHypothesis later

/-- Without a failure, the files that are opened are the first code files of each
canonical path that the walks come upon. -/
theorem filter_opens_eventsFrom
    {seen past : List Path} {found : List Finding}
    (faultless : ∀ event ∈ eventsFrom tree known seen found, event.fault? = none)
    (sameSeen : ∀ canonical, canonical ∈ seen ↔
      .ok canonical ∈ past.map tree.realPath) :
    (eventsFrom tree known seen found).filter Event.opens =
      (firstsFrom tree.realPath past (codeFiles found)).map (scanFile tree known) := by
  have unfolds := unfolds tree known seen found
  generalize eventsFrom tree known seen found = events at faultless unfolds ⊢
  -- the induction carries along that the paths seen are the canonical ones of those in
  -- front
  induction unfolds generalizing past with
  | nil => rfl
  | noFile noFile _ inductionHypothesis =>
      rw [codeFiles_cons_of_noFile noFile,
        List.filter_cons_of_neg (by simp [Event.opens])]
      exact inductionHypothesis sameSeen (List.forall_mem_of_forall_mem_cons faultless)
  | noCode noCode _ inductionHypothesis =>
      rw [codeFiles_cons_file, if_neg (Bool.eq_false_iff.mp noCode)]
      exact inductionHypothesis sameSeen faultless
  | unresolved _ _ _ _ => cases faultless _ List.mem_cons_self
  | @again seen path canonical rest events code resolved old _ inductionHypothesis =>
      have shared : tree.realPath path ∈ past.map tree.realPath :=
        resolved ▸ (sameSeen canonical).mp old
      rw [codeFiles_cons_file, if_pos code, firstsFrom_cons, if_pos shared]
      refine inductionHypothesis (fun other => ?_) faultless
      rw [sameSeen, List.map_append, List.mem_append, List.map_singleton,
        List.mem_singleton]
      exact ⟨.inl, fun either => either.elim id fun same => same ▸ shared⟩
  | @fresh seen path canonical rest events code resolved unseen _ inductionHypothesis =>
      have unshared : tree.realPath path ∉ past.map tree.realPath :=
        resolved ▸ mt (sameSeen canonical).mpr unseen
      have opened := opens_scanFile (faultless _ List.mem_cons_self)
      rw [codeFiles_cons_file, if_pos code, firstsFrom_cons, if_neg unshared,
        List.map_cons, List.filter_cons_of_pos opened]
      refine congrArg (scanFile tree known path :: ·)
        (inductionHypothesis (fun other => ?_)
          (List.forall_mem_of_forall_mem_cons faultless))
      rw [List.map_append, List.mem_append, List.map_singleton, List.mem_singleton,
        List.mem_cons, sameSeen, resolved, Except.ok.injEq, or_comm]

/-- Without a failure, the code files that the walks come upon have canonical paths. -/
theorem realPath_of_mem_codeFiles
    {seen : List Path} {found : List Finding}
    (faultless : ∀ event ∈ eventsFrom tree known seen found, event.fault? = none)
    {path : Path} (member : path ∈ codeFiles found) :
    ∃ canonical, tree.realPath path = .ok canonical := by
  have unfolds := unfolds tree known seen found
  generalize eventsFrom tree known seen found = events at faultless unfolds
  induction unfolds with
  | nil => cases member
  | noFile noFile _ inductionHypothesis =>
      rw [codeFiles_cons_of_noFile noFile] at member
      exact inductionHypothesis member (List.forall_mem_of_forall_mem_cons faultless)
  | noCode noCode _ inductionHypothesis =>
      rw [codeFiles_cons_file, if_neg (Bool.eq_false_iff.mp noCode)] at member
      exact inductionHypothesis member faultless
  | unresolved _ _ _ _ => cases faultless _ List.mem_cons_self
  | again code resolved _ _ inductionHypothesis =>
      rw [codeFiles_cons_file, if_pos code] at member
      rcases List.mem_cons.mp member with rfl | later
      · exact ⟨_, resolved⟩
      · exact inductionHypothesis later faultless
  | fresh code resolved _ _ inductionHypothesis =>
      rw [codeFiles_cons_file, if_pos code] at member
      rcases List.mem_cons.mp member with rfl | later
      · exact ⟨_, resolved⟩
      · exact inductionHypothesis later (List.forall_mem_of_forall_mem_cons faultless)

end Events

/-! ## What the events amount to -/

/-- What only opened files give is given by the events of opened files. -/
theorem flatMap_eq_filter_opens
    {α : Type} {give : Event → List α}
    (passes : ∀ finding, give (.passed finding) = [])
    (events : List Event) :
    events.flatMap give = (events.filter Event.opens).flatMap give := by
  induction events with
  | nil => rfl
  | cons event rest inductionHypothesis =>
      cases event with
      | passed finding =>
          rw [List.flatMap_cons, passes, List.nil_append, inductionHypothesis,
            List.filter_cons_of_neg (by simp [Event.opens])]
      | scanned _ _ | unreadable _ _ =>
          rw [List.filter_cons_of_pos rfl, List.flatMap_cons, List.flatMap_cons,
            inductionHypothesis]

/-- Attaching blocks adds to the record of every component the text of
its blocks, in order. -/
theorem find?_foldl_attach (blocks : List Guard.Block) (table : Table) (name : String) :
    (blocks.foldl attach table).find? name =
      (table.find? name).map fun record =>
        { record with
          snippets := record.snippets ++
            (blocks.filter fun block => block.owner = name).map Guard.Block.text } := by
  induction blocks generalizing table with
  | nil => simp
  | cons block rest inductionHypothesis =>
      rw [List.foldl_cons, inductionHypothesis, attach,
        Table.find?_modify fun record => Record.name_addSnippet record block.text,
        Option.map_map]
      refine congrArg (fun change => (table.find? name).map change)
        (funext fun record => ?_)
      by_cases same : name = block.owner
      · subst same
        simp [Record.addSnippet]
      · simp [same, Ne.symm same]

/-- Attaching blocks changes no names. -/
theorem names_foldl_attach (blocks : List Guard.Block) (table : Table) :
    (blocks.foldl attach table).names = table.names := by
  induction blocks generalizing table with
  | nil => rfl
  | cons block rest inductionHypothesis =>
      have keeps (record : Record) := Record.name_addSnippet record block.text
      rw [List.foldl_cons, inductionHypothesis]
      exact Table.names_modify keeps table block.owner

/-- The issue of a file that cannot be read. -/
def unreadableIssue? (tree : FileTree) (path : Path) : Option Issue :=
  match tree.readText path with
  | .ok _ => none
  | .error failure => some ⟨path.toString, failure.message⟩

section Run

variable {tree : FileTree} {exclusion : Option Exclusion} {base : Option Path}
  {table : Table} {directories : List Path} {result : Result}

/-- The events of a correlation. -/
def events (tree : FileTree) (exclusion : Option Exclusion) (base : Option Path)
    (table : Table) (directories : List Path) : List Event :=
  eventsFrom tree table.contains [] (findings tree exclusion base directories)

/-- A correlation that returns has met no failure, and gives what its events amount
to. -/
theorem of_run (returned : (run tree exclusion base table directories).result =
    .ok result) :
    (∀ event ∈ events tree exclusion base table directories, event.fault? = none) ∧
      result = Result.ofEvents (events tree exclusion base table directories) ∧
      (run tree exclusion base table directories).table =
        ((events tree exclusion base table directories).flatMap Event.blocks).foldl
          attach table := by
  unfold run at returned ⊢
  rw [← events] at returned ⊢
  dsimp only at returned ⊢
  cases failed : (events tree exclusion base table directories).findSome?
    Event.fault? with
  | some failure =>
      rw [failed] at returned
      cases returned
  | none =>
      have faultless := List.findSome?_eq_none_iff.mp failed
      have whole :
          ((events tree exclusion base table directories).takeWhile fun event =>
          event.fault?.isNone) = events tree exclusion base table directories := by
        rw [List.takeWhile_eq_self_iff]
        intro event member
        rw [faultless event member, Option.isNone_none]
      rw [failed, whole] at returned
      rw [whole]
      exact ⟨faultless, (Except.ok.inj returned).symm, rfl⟩

/-- The files that the walk of a directory yields, none if it does not return. -/
def walked (tree : FileTree) (exclusion : Option Exclusion) (base : Option Path)
    (directory : Path) : List Path :=
  match (Walk.files tree exclusion base directory).1 with
  | .ok paths => paths
  | .error _ => []

/-- The code files that the walks of directories yield, in the order of the
directories. -/
def walkedCode (tree : FileTree) (exclusion : Option Exclusion) (base : Option Path)
    (directories : List Path) : List Path :=
  ((Path.sort directories).flatMap (walked tree exclusion base)).filter isCode

/-- A walk that comes upon no failure returns the files that it comes upon. -/
theorem files_of_faultless
    {directory : Path}
    (faultless : ∀ finding ∈ Walk.findings tree exclusion base directory,
      finding.fault? = none) :
    (Walk.files tree exclusion base directory).1 =
      .ok ((Walk.findings tree exclusion base directory).filterMap Finding.file?) := by
  rw [Walk.files, failure?, List.findSome?_eq_none_iff.mpr faultless]

theorem mem_sort_iff {directories : List Path} {directory : Path} :
    directory ∈ Path.sort directories ↔ directory ∈ directories := by
  rw [Path.sort, List.mem_mergeSort, List.mem_eraseDups]

/-- In a correlation that returns, all walks return, and what they yield is what the
correlation comes upon. -/
theorem walks_return
    (faultless : ∀ event ∈ events tree exclusion base table directories,
      event.fault? = none) :
    (∀ directory ∈ directories, (Walk.files tree exclusion base directory).1 =
        .ok (walked tree exclusion base directory)) ∧
      codeFiles (findings tree exclusion base directories) =
        walkedCode tree exclusion base directories := by
  have noFault : ∀ directory ∈ Path.sort directories,
      ∀ finding ∈ Walk.findings tree exclusion base directory,
        finding.fault? = none := by
    intro directory listed finding found
    cases finding with
    | fault failure =>
        have member : .fault failure ∈ findings tree exclusion base directories :=
          List.mem_flatMap.mpr ⟨directory, listed, found⟩
        exact faultless _ (passed_mem_eventsFrom member rfl)
    | file _ | outside _ _ | directory _ | unreadable _ _ => rfl
  have yields : ∀ directory ∈ Path.sort directories,
      walked tree exclusion base directory =
      (Walk.findings tree exclusion base directory).filterMap Finding.file? := by
    intro directory listed
    rw [walked, files_of_faultless (noFault directory listed)]
  constructor
  · intro directory given
    have listed := mem_sort_iff.mpr given
    rw [files_of_faultless (noFault directory listed), yields directory listed]
  · rw [codeFiles, findings, List.filterMap_flatMap, walkedCode,
      List.flatMap_congr fun directory listed => yields directory listed]

/-- A file is scanned exactly if it can be read. -/
theorem isScan_scanFile (tree : FileTree) (known : String → Bool) (path : Path) :
    (scanFile tree known path).isScan = (unreadableIssue? tree path).isNone := by
  unfold scanFile unreadableIssue?
  cases tree.readText path with
  | ok text => rfl
  | error failure => cases failure <;> rfl

/-- The issue of a file that cannot be read is recorded. -/
theorem issue?_scanFile
    {known : String → Bool} {path : Path} {issue : Issue}
    (faultless : (scanFile tree known path).fault? = none)
    (unreadable : unreadableIssue? tree path = some issue) :
    (scanFile tree known path).issue? = some issue := by
  unfold scanFile at faultless ⊢
  unfold unreadableIssue? at unreadable
  cases read : tree.readText path with
  | ok text =>
      rw [read] at unreadable
      cases unreadable
  | error failure =>
      rw [read] at faultless unreadable
      cases failure with
      | refused error place => exact unreadable
      | linkLoop place | nullByte => cases faultless

/-- Every file is scanned once, or its one issue says that it cannot be read. -/
theorem countP_isScan_add_unreadable (known : String → Bool) (paths : List Path) :
    (paths.map (scanFile tree known)).countP Event.isScan +
      (paths.filterMap (unreadableIssue? tree)).length = paths.length := by
  induction paths with
  | nil => rfl
  | cons path rest inductionHypothesis =>
      rw [List.map_cons, List.countP_cons, isScan_scanFile, List.filterMap_cons,
        List.length_cons]
      cases unreadableIssue? tree path with
      | none => simp only [Option.isNone_none, if_true]; omega
      | some issue => simp only [Option.isNone_some, Bool.false_eq_true, if_false,
          List.length_cons]; omega

/-- What events amount to, only those of opened files decide. -/
theorem ofEvents_filter_opens (events : List Event) :
    Result.ofEvents (events.filter Event.opens) = Result.ofEvents events := by
  have opensScans : ∀ event : Event, (event.isScan && event.opens) = event.isScan := by
    rintro ⟨⟩ <;> rfl
  have blocks : events.flatMap Event.blocks = (events.filter Event.opens).flatMap
      Event.blocks :=
    flatMap_eq_filter_opens (fun _ => rfl) events
  have issues : (events.flatMap fun event => event.issue?.toList) =
      (events.filter Event.opens).flatMap fun event => event.issue?.toList :=
    flatMap_eq_filter_opens (fun _ => rfl) events
  simp only [Result.ofEvents, List.countP_filter, opensScans,
    List.filterMap_eq_flatMap_toList, blocks, issues]

/-- A correlation that returns opens the first code file of each canonical path, in
the order of the walks. -/
theorem filter_opens_events
    (returned : (run tree exclusion base table directories).result = .ok result) :
    (events tree exclusion base table directories).filter Event.opens =
      (firsts tree.realPath (walkedCode tree exclusion base directories)).map
        (scanFile tree table.contains) := by
  obtain ⟨faultless, -, -⟩ := of_run returned
  have sameSeen : ∀ canonical : Path,
      canonical ∈ [] ↔ .ok canonical ∈ ([] : List Path).map tree.realPath := by
    simp
  rw [events, filter_opens_eventsFrom faultless sameSeen, (walks_return faultless).2]
  rfl

/-- What a correlation that returns has found and attached is what scanning the first
code file of each canonical path amounts to. -/
theorem scans_of_run (returned : (run tree exclusion base table directories).result =
    .ok result) :
    let scans := (firsts tree.realPath (walkedCode tree exclusion base directories)).map
      (scanFile tree table.contains)
    result = Result.ofEvents scans ∧
      (run tree exclusion base table directories).table =
        (scans.flatMap Event.blocks).foldl attach table := by
  intro scans
  obtain ⟨-, resultEq, tableEq⟩ := of_run returned
  have opens : (events tree exclusion base table directories).filter
      Event.opens = scans :=
    filter_opens_events returned
  rw [resultEq, tableEq, ← opens, ofEvents_filter_opens,
    ← flatMap_eq_filter_opens (fun _ => rfl)]
  exact ⟨rfl, rfl⟩

end Run

end Correlation
end KernelInventory
