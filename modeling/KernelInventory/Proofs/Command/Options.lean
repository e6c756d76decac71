import KernelInventory.Command.Options
import Mathlib

/-!
# The switch that names architectures

Where a command line is accepted, and nothing behind one switch that names architectures
names others, that switch sets what it says and nothing else: with another list the
command line gives the same options, with that list.
-/

namespace KernelInventory
namespace Command

/-! ## What one switch is -/

theorem exists_of_bind_eq_ok
    {ε α β : Type} {first : Except ε α} {next : α → Except ε β} {value : β}
    (returned : (first >>= next) = .ok value) :
    ∃ middle, first = .ok middle ∧ next middle = .ok value := by
  cases first with
  | error failure => cases returned
  | ok middle => exact ⟨middle, rfl, returned⟩

namespace Argument

theorem equals_not_mem_of_mem_spelled :
    ∀ entry ∈ Switch.spelled, '=' ∉ entry.1.toList := by
  decide

theorem ofSpelling?_of_equals
    {argument : String}
    (equals : '=' ∈ argument.toList) :
    Switch.ofSpelling? argument = none := by
  rw [Switch.ofSpelling?, List.lookup_eq_none_iff]
  rintro entry member
  rw [bne_iff_ne]
  rintro rfl
  exact equals_not_mem_of_mem_spelled entry member equals

theorem splitValue_arch (list : String) :
    splitValue ("--arch=" ++ list) = ("--arch", .long list) := by
  have split : Text.splitAt? ['='] ("--arch=" ++ list).toList =
      some ("--arch".toList, list.toList) := by
    simp [String.toList_append, Text.splitAt?]
  have long : ("--arch=" ++ list).startsWith "--" = true := by
    rw [String.startsWith_string_iff, String.toList_append]
    exact ⟨"arch=".toList ++ list.toList, rfl⟩
  rw [splitValue, split]
  dsimp only
  rw [if_pos long, String.ofList_toList, String.ofList_toList]

theorem arch_ne
    {text : String}
    (noEquals : '=' ∉ text.toList)
    (list : String) :
    "--arch=" ++ list ≠ text := by
  rintro rfl
  simp at noEquals

theorem classify_arch (list : String) :
    classify ("--arch=" ++ list) = .ok (.switch .arch (.long list)) := by
  have hyphen : ("--arch=" ++ list).startsWith "-" = true := by simp
  have spelled : spelledOut? ("--arch=" ++ list) =
      some (.switch .arch (.long list)) := by
    rw [spelledOut?, ofSpelling?_of_equals (by simp), splitValue_arch]
    rfl
  have noWord : ¬ ("--arch=" ++ list = "" ∨ "--arch=" ++ list = "-" ∨
      !("--arch=" ++ list).startsWith "-") := by
    simp only [@arch_ne "" (by decide), @arch_ne "-" (by decide), hyphen]
    decide
  rw [classify, if_neg noWord, spelled]

/-! ## What several arguments are -/

section Several

variable {front behind arguments : List String} {classified : List Argument}

/-- Up to the end of the switches, each argument is what it is by itself. -/
theorem classifyAll_append (noEnd : "--" ∉ front) :
    classifyAll (front ++ behind) = do
      let first ← classifyAll front
      let others ← classifyAll behind
      return first ++ others := by
  induction front with
  | nil =>
      rw [List.nil_append]
      cases classifyAll behind <;> rfl
  | cons argument rest inductionHypothesis =>
      rw [List.mem_cons, not_or] at noEnd
      rw [List.cons_append, classifyAll, classifyAll, if_neg (Ne.symm noEnd.1),
        if_neg (Ne.symm noEnd.1), inductionHypothesis noEnd.2]
      cases classify argument with
      | error refusal => rfl
      | ok first =>
          cases classifyAll rest with
          | error refusal => rfl
          | ok others => cases classifyAll behind <;> rfl

theorem classifyAll_cons_cases
    {argument : String}
    (read : classifyAll (argument :: arguments) = .ok classified) :
    (argument = "--" ∧ classified = .terminator :: arguments.map .word) ∨
      argument ≠ "--" ∧
        ∃ first others,
          classify argument = .ok first ∧ classifyAll arguments = .ok others ∧
            classified = first :: others := by
  rw [classifyAll] at read
  split at read
  next ends => exact Or.inl ⟨ends, (Except.ok.inj read).symm⟩
  next goesOn =>
    refine Or.inr ⟨goesOn, ?_⟩
    cases here : classify argument with
    | error refusal =>
        rw [here] at read
        cases read
    | ok first =>
        cases behind : classifyAll arguments with
        | error refusal =>
            rw [here, behind] at read
            cases read
        | ok others =>
            rw [here, behind] at read
            exact ⟨first, others, rfl, rfl, (Except.ok.inj read).symm⟩

theorem terminator_mem_classifyAll
    (ended : "--" ∈ arguments)
    (read : classifyAll arguments = .ok classified) :
    Argument.terminator ∈ classified := by
  induction arguments generalizing classified with
  | nil => cases ended
  | cons argument rest inductionHypothesis =>
      rcases classifyAll_cons_cases read with
        ⟨-, rfl⟩ | ⟨different, first, others, -, readRest, rfl⟩
      · exact List.mem_cons_self
      · have inRest : "--" ∈ rest :=
          (List.mem_cons.mp ended).resolve_left (Ne.symm different)
        exact List.mem_cons_of_mem _ (inductionHypothesis inRest readRest)

/-- What the arguments are, they are by themselves, apart from the end of the switches
and the words behind it. -/
theorem of_mem_classifyAll
    (read : classifyAll arguments = .ok classified)
    {found : Argument}
    (member : found ∈ classified) :
    (∃ argument ∈ arguments, classify argument = .ok found) ∨
      found = .terminator ∨ ∃ text, found = .word text := by
  induction arguments generalizing classified with
  | nil =>
      obtain rfl := Except.ok.inj read
      cases member
  | cons argument rest inductionHypothesis =>
      rcases classifyAll_cons_cases read with ⟨-, rfl⟩ |
        ⟨-, first, others, here, readRest, rfl⟩
      · rcases List.mem_cons.mp member with rfl | word
        · exact Or.inr (Or.inl rfl)
        · obtain ⟨text, -, rfl⟩ := List.mem_map.mp word
          exact Or.inr (Or.inr ⟨text, rfl⟩)
      · rcases List.mem_cons.mp member with rfl | later
        · exact Or.inl ⟨argument, List.mem_cons_self, here⟩
        · refine (inductionHypothesis readRest later).imp_left ?_
          rintro ⟨other, inRest, same⟩
          exact ⟨other, List.mem_cons_of_mem _ inRest, same⟩

/-- What stands in front of a switch that names architectures, and behind it, is what it
is whatever the switch says. -/
theorem exists_classifyAll_arch
    {list : String}
    (read : classifyAll (front ++ ("--arch=" ++ list) :: behind) = .ok classified)
    (noEnd : Argument.terminator ∉ classified) :
    ∃ first others, classifyAll behind = .ok others ∧
      classified = first ++ .switch .arch (.long list) :: others ∧
      ∀ other, classifyAll (front ++ ("--arch=" ++ other) :: behind) =
        .ok (first ++ .switch .arch (.long other) :: others) := by
  have frontOpen : "--" ∉ front := fun ended =>
    noEnd (terminator_mem_classifyAll (List.mem_append_left _ ended) read)
  have noDashes : ∀ other, "--arch=" ++ other ≠ "--" := arch_ne (by decide)
  rw [classifyAll_append frontOpen] at read
  obtain ⟨first, readFront, read⟩ := exists_of_bind_eq_ok read
  obtain ⟨rest, readRest, same⟩ := exists_of_bind_eq_ok read
  obtain rfl := Except.ok.inj same
  rcases classifyAll_cons_cases readRest with
    ⟨ended, -⟩ | ⟨-, found, others, isArch, readBehind, rfl⟩
  · exact absurd ended (noDashes list)
  · rw [classify_arch] at isArch
    obtain rfl := Except.ok.inj isArch
    refine ⟨first, others, readBehind, rfl, fun other => ?_⟩
    rw [classifyAll_append frontOpen, readFront, classifyAll, if_neg (noDashes other),
      classify_arch, readBehind]
    rfl

end Several
end Argument

namespace Options

/-! ## Carrying out switches -/

/-- The options with other architectures. -/
def withArch (options : Options) (list : Option String) : Options :=
  { options with arch := list }

/-- Whether an action names architectures. -/
def Action.setsArch : Action → Bool
  | .set .arch _ => true
  | _ => false

/-- Whether an argument asks for architectures to be set. -/
def setsArch : Argument → Bool
  | .switch switch attached =>
    match Demand.ofSwitch switch attached with
    | .ok demand => demand.due == some .arch || demand.actions.any Action.setsArch
    | .error _ => false
  | _ => false

section Actions

variable {options : Options} {list : Option String}

theorem act_withArch {action : Action} (silent : action.setsArch = false) :
    act (options.withArch list) action = (act options action).map
      (·.withArch list) := by
  rcases action with switch | ⟨switch, value⟩
  · cases switch <;> rfl
  · cases switch with
    | arch => cases silent
    | logLevel =>
        dsimp only [act, set]
        generalize (if value = "--" then none else some value) = level
        cases level with
        | none => rfl
        | some name =>
            dsimp only
            cases LogLevel.ofName? name <;> rfl
    | help | kernelPath | lines | kconfig | kconfigCode | all | skipHelp | exclude
    | noQuery => rfl

theorem foldlM_withArch
    {actions : List Action}
    (silent : ∀ action ∈ actions, action.setsArch = false) :
    actions.foldlM act (options.withArch list) =
      (actions.foldlM act options).map (·.withArch list) := by
  induction actions generalizing options with
  | nil => rfl
  | cons action rest inductionHypothesis =>
      rw [List.forall_mem_cons] at silent
      rw [List.foldlM_cons, List.foldlM_cons, act_withArch silent.1]
      cases act options action with
      | error ending => rfl
      | ok changed => exact inductionHypothesis silent.2

end Actions

/-! ## Reading classified arguments -/

section Steps

variable {options : Options} {extras : List String} {switch : Switch}
  {attached : Attached} {actions : List Action} {last : Switch} {rest : List Argument}

/-- What is left over of an argument that is no switch. -/
def leftOver? : Argument → Option String
  | .word text | .unknown text => some text
  | .terminator => some "--"
  | .switch _ _ => none

theorem readFrom_leftOver
    {argument : Argument} {text : String}
    (left : leftOver? argument = some text) :
    readFrom options extras (argument :: rest) = readFrom options (extras ++ [text])
      rest := by
  cases argument with
  | word _ | unknown _ | terminator =>
      obtain rfl := Option.some.inj left
      rw [readFrom]
  | switch _ _ => cases left

theorem readFrom_refused
    {refusal : Refusal}
    (demand : Demand.ofSwitch switch attached = .error refusal) :
    readFrom options extras (.switch switch attached :: rest) =
      .error (.refused refusal) := by
  rw [readFrom, demand]

theorem readFrom_given
    (demand : Demand.ofSwitch switch attached = .ok ⟨actions, none⟩) :
    readFrom options extras (.switch switch attached :: rest) =
      actions.foldlM act options >>= fun changed => readFrom changed extras rest := by
  rw [readFrom, demand]

theorem readFrom_word
    (demand : Demand.ofSwitch switch attached = .ok ⟨actions, some last⟩)
    (text : String) :
    readFrom options extras (.switch switch attached :: .word text :: rest) =
      (actions ++ [Action.set last text]).foldlM act options >>= fun changed =>
        readFrom changed extras rest := by
  rw [readFrom, demand]

theorem readFrom_due
    (demand : Demand.ofSwitch switch attached = .ok ⟨actions, some last⟩)
    (noWord : ∀ text others, rest ≠ .word text :: others) :
    readFrom options extras (.switch switch attached :: rest) =
      .error (.refused (.valueExpected last)) := by
  rw [readFrom, demand]
  cases rest with
  | nil => rfl
  | cons next others =>
      cases next with
      | word text => exact absurd rfl (noWord text others)
      | terminator | switch _ _ | unknown _ => rfl

end Steps

/-- A switch that asks for no architectures does not take its value for them. -/
theorem quiet_of_word
    {switch : Switch} {attached : Attached} {actions : List Action} {last : Switch}
    (demand : Demand.ofSwitch switch attached = .ok ⟨actions, some last⟩)
    (silent : setsArch (.switch switch attached) = false)
    (text : String) :
    ∀ action ∈ actions ++ [Action.set last text], action.setsArch = false := by
  obtain ⟨notArch, quiet⟩ : last ≠ .arch ∧ ∀ action ∈ actions,
    action.setsArch = false := by
    simpa [setsArch, demand] using silent
  rw [List.forall_mem_append, List.forall_mem_singleton]
  refine ⟨quiet, ?_⟩
  cases last with
  | arch => contradiction
  | _ => rfl

/-- What holds of reading arguments if it holds of reading those behind the first one; a
switch that takes the next argument as its value is read with it. -/
theorem readFrom_induction
    {motive : Options → List String → List Argument → Prop}
    (done : ∀ options extras, motive options extras [])
    (leftOver : ∀ options extras argument text rest, leftOver? argument = some text →
      motive options (extras ++ [text]) rest → motive options extras (argument :: rest))
    (refused : ∀ options extras switch attached rest refusal,
      Demand.ofSwitch switch attached = .error refusal →
        motive options extras (.switch switch attached :: rest))
    (given : ∀ options extras switch attached rest actions,
      Demand.ofSwitch switch attached = .ok ⟨actions, none⟩ →
        (∀ changed, motive changed extras rest) →
          motive options extras (.switch switch attached :: rest))
    (word : ∀ options extras switch attached actions last text rest,
      Demand.ofSwitch switch attached = .ok ⟨actions, some last⟩ →
        (∀ changed, motive changed extras rest) →
          motive options extras (.switch switch attached :: .word text :: rest))
    (due : ∀ options extras switch attached rest actions last,
      Demand.ofSwitch switch attached = .ok ⟨actions, some last⟩ →
        (∀ text others, rest ≠ .word text :: others) →
          motive options extras (.switch switch attached :: rest))
    (options : Options) (extras : List String) (arguments : List Argument) :
    motive options extras arguments := by
  fun_induction readFrom options extras arguments with
  | case1 options extras | case2 options extras => exact done options extras
  | case3 options extras text rest onward => exact leftOver _ _ _ text _ rfl onward
  | case4 options extras rest onward => exact leftOver _ _ _ "--" _ rfl onward
  | case5 options extras text rest onward => exact leftOver _ _ _ text _ rfl onward
  | case6 options extras switch attached rest refusal demand =>
      exact refused _ _ _ _ _ refusal demand
  | case7 options extras switch attached rest actions demand onward =>
      exact given _ _ _ _ _ actions demand onward
  | case8 options extras switch attached actions last demand text others onward =>
      exact word _ _ _ _ actions last _ _ demand onward
  | case9 options extras switch attached rest actions last demand noWord =>
      exact due _ _ _ _ _ actions last demand noWord

/-- A command line that is accepted leaves no arguments over, and has no end of its
switches. -/
theorem of_readFrom_ok
    {options result : Options} {extras : List String} {arguments : List Argument}
    (read : readFrom options extras arguments = .ok result) :
    extras = [] ∧ Argument.terminator ∉ arguments := by
  induction options, extras, arguments using readFrom_induction with
  | done options extras =>
      rw [readFrom] at read
      split_ifs at read with none
      exact ⟨List.isEmpty_iff.mp none, List.not_mem_nil⟩
  | leftOver options extras argument text rest left onward =>
      rw [readFrom_leftOver left] at read
      exact absurd (onward read).1 (by simp)
  | refused options extras switch attached rest refusal demand =>
      cases (readFrom_refused demand).symm.trans read
  | given options extras switch attached rest actions demand onward =>
      rw [readFrom_given demand] at read
      obtain ⟨changed, -, read⟩ := exists_of_bind_eq_ok read
      obtain ⟨none, noEnd⟩ := onward changed read
      exact ⟨none, by simpa using noEnd⟩
  | word options extras switch attached actions last text rest demand onward =>
      rw [readFrom_word demand] at read
      obtain ⟨changed, -, read⟩ := exists_of_bind_eq_ok read
      obtain ⟨none, noEnd⟩ := onward changed read
      exact ⟨none, by simpa using noEnd⟩
  | due options extras switch attached rest actions last demand noWord =>
      cases (readFrom_due demand noWord).symm.trans read

/-- Reading goes through what stands in front of a switch in the same way, whatever the
switch is and whatever stands behind it. -/
theorem readFrom_front (options : Options) (extras : List String)
    (front : List Argument) :
    (∃ ending, ∀ switch attached behind,
        readFrom options extras (front ++ .switch switch attached :: behind) =
          .error ending) ∨
      ∃ changed left, ∀ switch attached behind,
        readFrom options extras (front ++ .switch switch attached :: behind) =
          readFrom changed left (.switch switch attached :: behind) := by
  induction options, extras, front using readFrom_induction with
  | done options extras => exact .inr ⟨options, extras, fun _ _ _ => rfl⟩
  | leftOver options extras argument text rest left onward =>
      simp only [List.cons_append, readFrom_leftOver left]
      exact onward
  | refused options extras switch attached rest refusal demand =>
      exact .inl ⟨.refused refusal, fun _ _ _ => readFrom_refused demand⟩
  | given options extras switch attached rest actions demand onward =>
      simp only [List.cons_append, readFrom_given demand]
      cases actions.foldlM act options with
      | error ending => exact .inl ⟨ending, fun _ _ _ => rfl⟩
      | ok changed => exact onward changed
  | word options extras switch attached actions last text rest demand onward =>
      simp only [List.cons_append, readFrom_word demand]
      cases (actions ++ [Action.set last text]).foldlM act options with
      | error ending => exact .inl ⟨ending, fun _ _ _ => rfl⟩
      | ok changed => exact onward changed
  | due options extras switch attached rest actions last demand noWord =>
      refine .inl ⟨.refused (.valueExpected last), fun _ _ _ => readFrom_due demand ?_⟩
      cases rest with
      | nil => nofun
      | cons next others =>
          rintro text more ⟨⟩
          exact noWord text others rfl

/-- Arguments that name no architectures leave those that the options have. -/
theorem readFrom_withArch
    {options : Options} {extras : List String} {arguments : List Argument}
    {list : Option String}
    (silent : ∀ argument ∈ arguments, setsArch argument = false) :
    readFrom (options.withArch list) extras arguments =
      (readFrom options extras arguments).map (·.withArch list) := by
  induction options, extras, arguments using readFrom_induction with
  | done options extras =>
      rw [readFrom, readFrom]
      split <;> rfl
  | leftOver options extras argument text rest left onward =>
      rw [readFrom_leftOver left, readFrom_leftOver left]
      exact onward (List.forall_mem_cons.mp silent).2
  | refused options extras switch attached rest refusal demand =>
      rw [readFrom_refused demand, readFrom_refused demand]
      rfl
  | given options extras switch attached rest actions demand onward =>
      obtain ⟨here, behind⟩ := List.forall_mem_cons.mp silent
      have quiet : ∀ action ∈ actions, action.setsArch = false := by
        simpa [setsArch, demand] using here
      rw [readFrom_given demand, readFrom_given demand, foldlM_withArch quiet]
      cases actions.foldlM act options with
      | error ending => rfl
      | ok changed => exact onward changed behind
  | word options extras switch attached actions last text rest demand onward =>
      obtain ⟨here, behind⟩ := List.forall_mem_cons.mp silent
      have quiet := quiet_of_word demand here text
      rw [readFrom_word demand, readFrom_word demand, foldlM_withArch quiet]
      cases (actions ++ [Action.set last text]).foldlM act options with
      | error ending => rfl
      | ok changed => exact onward changed (List.forall_mem_cons.mp behind).2
  | due options extras switch attached rest actions last demand noWord =>
      rw [readFrom_due demand noWord, readFrom_due demand noWord]
      rfl

/-! ## The switch that names architectures -/

/-- The architectures that a value of the switch says. -/
def archOf (list : String) : Option String :=
  if list = "--" then none else some list

theorem exists_readFrom_arch
    {options result : Options} {extras : List String} {front behind : List Argument}
    {list : String}
    (silent : ∀ argument ∈ behind, setsArch argument = false)
    (read : readFrom options extras (front ++ .switch .arch (.long list) :: behind) =
      .ok result) :
    ∃ others : Options, ∀ other,
      readFrom options extras (front ++ .switch .arch (.long other) :: behind) =
        .ok (others.withArch (archOf other)) := by
  have carriedOut : ∀ changed left other,
      readFrom changed left (.switch .arch (.long other) :: behind) =
        (readFrom changed left behind).map (·.withArch (archOf other)) :=
    fun changed left other => readFrom_withArch silent
  rcases readFrom_front options extras front with ⟨ending, fails⟩ |
    ⟨changed, left, onward⟩
  · cases (fails _ _ _).symm.trans read
  · rw [onward, carriedOut] at read
    cases found : readFrom changed left behind with
    | error ending =>
        rw [found] at read
        cases read
    | ok others =>
        refine ⟨others, fun other => ?_⟩
        rw [onward, carriedOut, found]
        rfl

/-- Where no switch behind one that names architectures names others, the options are
what they are without that switch, and what it says. -/
theorem ofArguments_arch
    {front behind : List String} {list : String} {options : Options}
    (last : ∀ argument ∈ behind, ∀ found,
      Argument.classify argument = .ok found → setsArch found = false)
    (accepted : ofArguments (front ++ ("--arch=" ++ list) :: behind) = .ok options) :
    ∃ others : Options, ∀ other,
      ofArguments (front ++ ("--arch=" ++ other) :: behind) =
        .ok (others.withArch (archOf other)) := by
  cases read : Argument.classifyAll (front ++ ("--arch=" ++ list) :: behind) with
  | error refusal =>
      rw [ofArguments, read] at accepted
      cases accepted
  | ok classified =>
      rw [ofArguments, read] at accepted
      obtain ⟨first, others, readBehind, rfl, readOther⟩ :=
        Argument.exists_classifyAll_arch read (of_readFrom_ok accepted).2
      have silent : ∀ argument ∈ others, setsArch argument = false := by
        intro argument member
        rcases Argument.of_mem_classifyAll readBehind member with
          ⟨written, inBehind, same⟩ | rfl | ⟨text, rfl⟩
        · exact last written inBehind argument same
        · rfl
        · rfl
      obtain ⟨common, onward⟩ := exists_readFrom_arch silent accepted
      refine ⟨common, fun other => ?_⟩
      rw [ofArguments, readOther]
      exact onward other

end Options
end Command
end KernelInventory
