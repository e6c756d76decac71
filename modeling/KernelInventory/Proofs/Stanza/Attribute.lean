import KernelInventory.Proofs.Stanza.Reading
import KernelInventory.Proofs.Text.Search

/-!
# Attributes from lines

What the lines of a component say about it, read off the list of these lines: every
keyword gives the values of the lines that start with it, and a boolean default takes
the place of the defaults in front of it.  One line more changes this exactly as the
reader's attribute of the line does.
-/

namespace KernelInventory
namespace Stanza

/-- The words that give a line its meaning. -/
def keywords : List String :=
  ["config", "depends on", "bool", "default", "def_bool", "select"]

/-- Whether a line starts with a keyword. -/
def startsWith (keyword : String) (line : List Char) : Bool :=
  keyword.toList.isPrefixOf line

/-- What a line says behind a keyword that it starts with. -/
def valueOf (keyword : String) (line : List Char) : String :=
  String.ofList (Text.trim (line.drop keyword.toList.length))

/-- What the lines that start with a keyword say behind it, in order. -/
def fields (keyword : String) (lines : List (List Char)) : List String :=
  (lines.filter (startsWith keyword)).map (valueOf keyword)

/-- The lines behind the last one that starts with a keyword; all of them, if none
does. -/
def sinceLast (keyword : String) (lines : List (List Char)) : List (List Char) :=
  (lines.reverse.takeWhile fun line => !startsWith keyword line).reverse

/-- The defaults that lines give: the value of the last boolean default, if there is
one, and the values of the plain defaults behind it. -/
def defaultsOf (lines : List (List Char)) : List String :=
  (fields "def_bool" lines).getLast?.toList ++ fields "default"
    (sinceLast "def_bool" lines)

/-- The kind that lines give: a component is boolean as soon as one of them says so. -/
def kindOf (lines : List (List Char)) : ValueKind :=
  if lines.any fun line =>
    startsWith "bool" line || startsWith "def_bool" line then .boolean
  else .value

/-- A component with the attributes that lines give. -/
def attributesOf (name : String) (lines : List (List Char)) : Record where
  name := name
  kind := kindOf lines
  defaults := defaultsOf lines
  depends := fields "depends on" lines
  selects := fields "select" lines

/-! ## One keyword for one line -/

/-- None of the keywords is the beginning of another one. -/
theorem keyword_not_prefix :
    ∀ first ∈ keywords, ∀ second ∈ keywords, first ≠ second →
      first.toList.isPrefixOf second.toList = false := by
  decide

/-- A line starts with one keyword at most. -/
theorem startsWith_unique
    {first second : String} {line : List Char}
    (firstKeyword : first ∈ keywords)
    (secondKeyword : second ∈ keywords)
    (startsFirst : startsWith first line = true)
    (startsSecond : startsWith second line = true) :
    first = second := by
  by_contra different
  have firstPrefix := List.isPrefixOf_iff_prefix.mp startsFirst
  have secondPrefix := List.isPrefixOf_iff_prefix.mp startsSecond
  rcases List.prefix_or_prefix_of_prefix firstPrefix secondPrefix with below | above
  · have apart := keyword_not_prefix first firstKeyword second secondKeyword different
    rw [List.isPrefixOf_iff_prefix.mpr below] at apart
    cases apart
  · have apart := keyword_not_prefix second secondKeyword first firstKeyword
      (Ne.symm different)
    rw [List.isPrefixOf_iff_prefix.mpr above] at apart
    cases apart

/-- A keyword that a line starts with decides about all attribute keywords. -/
theorem startsWith_decided
    {keyword : String} {line : List Char}
    (starts : startsWith keyword line = true)
    (member : keyword ∈ keywords) :
    startsWith "depends on" line = decide ("depends on" = keyword) ∧
      startsWith "bool" line = decide ("bool" = keyword) ∧
      startsWith "default" line = decide ("default" = keyword) ∧
      startsWith "def_bool" line = decide ("def_bool" = keyword) ∧
      startsWith "select" line = decide ("select" = keyword) := by
  have decided : ∀ other ∈ keywords,
      startsWith other line = decide (other = keyword) := by
    intro other otherMember
    by_cases same : other = keyword
    · rw [same, starts, decide_eq_true rfl]
    · rw [decide_eq_false same, Bool.eq_false_iff]
      intro startsOther
      exact same (startsWith_unique otherMember member startsOther starts)
  exact ⟨decided _ (by decide), decided _ (by decide), decided _ (by decide),
    decided _ (by decide), decided _ (by decide)⟩

/-- Every header starts with the word `config`. -/
theorem startsWith_config_of_isHeader
    {afterBlank : Bool} {line : List Char}
    (header : isHeader afterBlank line = true) :
    startsWith "config" line = true := by
  rw [isHeader, Bool.or_eq_true, Bool.and_eq_true] at header
  rcases header with spaced | ⟨-, bare⟩
  · have shorter : "config".toList <+: "config ".toList := by decide
    exact List.isPrefixOf_iff_prefix.mpr
      (shorter.trans (List.isPrefixOf_iff_prefix.mp spaced))
  · exact bare

/-- The field behind a keyword that a line starts with is what the line says behind
it. -/
theorem after_eq_valueOf
    {keyword : String} {line : List Char}
    (starts : startsWith keyword line = true) :
    String.ofList (Field.after line keyword.toList) = valueOf keyword line := by
  rw [valueOf, Field.after_of_prefix (List.isPrefixOf_iff_prefix.mp starts)]

/-- The attribute of a line is that of the keyword it starts with. -/
theorem ofLine?_cases (line : List Char) :
    (startsWith "depends on" line = true ∧
        Attribute.ofLine? line = some (.dependsOn (valueOf "depends on" line))) ∨
      (startsWith "bool" line = true ∧ Attribute.ofLine? line = some .boolean) ∨
      (startsWith "default" line = true ∧
        Attribute.ofLine? line = some (.default (valueOf "default" line))) ∨
      (startsWith "def_bool" line = true ∧
        Attribute.ofLine? line = some (.booleanDefault (valueOf "def_bool" line))) ∨
      (startsWith "select" line = true ∧
        Attribute.ofLine? line = some (.select (valueOf "select" line))) ∨
      (Attribute.ofLine? line = none ∧
        ∀ keyword ∈ keywords, startsWith keyword line = true → keyword = "config") := by
  unfold Attribute.ofLine?
  simp only []
  split_ifs with dependsOn boolean default booleanDefault select
  · exact Or.inl ⟨dependsOn, by rw [after_eq_valueOf dependsOn]⟩
  · exact Or.inr (Or.inl ⟨boolean, rfl⟩)
  · exact Or.inr (Or.inr (Or.inl ⟨default, by rw [after_eq_valueOf default]⟩))
  · exact Or.inr (Or.inr (Or.inr (Or.inl
      ⟨booleanDefault, by rw [after_eq_valueOf booleanDefault]⟩)))
  · exact Or.inr
      (Or.inr (Or.inr (Or.inr (Or.inl ⟨select, by rw [after_eq_valueOf select]⟩))))
  · refine Or.inr (Or.inr (Or.inr (Or.inr (Or.inr ⟨rfl, ?_⟩))))
    intro keyword member starts
    simp only [keywords, List.mem_cons, List.not_mem_nil, or_false] at member
    rcases member with rfl | rfl | rfl | rfl | rfl | rfl
    · rfl
    · exact absurd starts dependsOn
    · exact absurd starts boolean
    · exact absurd starts default
    · exact absurd starts booleanDefault
    · exact absurd starts select

/-! ## One line more -/

/-- A further line adds its value to the fields of the keyword that it starts with. -/
theorem fields_snoc (keyword : String) (lines : List (List Char)) (line : List Char) :
    fields keyword (lines ++ [line]) =
      fields keyword lines ++ if startsWith keyword line then [valueOf keyword line]
      else [] := by
  rw [fields, fields, List.filter_append, List.map_append]
  cases starts : startsWith keyword line <;> simp [starts]

/-- A further line that starts with the keyword leaves nothing behind it. -/
theorem sinceLast_snoc (keyword : String) (lines : List (List Char))
    (line : List Char) :
    sinceLast keyword (lines ++ [line]) =
      if startsWith keyword line then [] else sinceLast keyword lines ++ [line] := by
  rw [sinceLast, List.reverse_append, List.reverse_singleton, List.singleton_append,
    List.takeWhile_cons]
  cases starts : startsWith keyword line <;> simp [sinceLast]

/-- A further line gives a default, takes the place of all defaults, or
leaves them as they are. -/
theorem defaultsOf_snoc (lines : List (List Char)) (line : List Char) :
    defaultsOf (lines ++ [line]) =
      if startsWith "def_bool" line then [valueOf "def_bool" line]
      else defaultsOf lines ++
        if startsWith "default" line then [valueOf "default" line] else [] := by
  rw [defaultsOf, sinceLast_snoc, fields_snoc]
  cases replaces : startsWith "def_bool" line with
  | true => simp [fields]
  | false => simp [defaultsOf, fields_snoc]

/-- A further line makes a component boolean if it says so. -/
theorem kindOf_snoc (lines : List (List Char)) (line : List Char) :
    kindOf (lines ++ [line]) =
      if startsWith "bool" line || startsWith "def_bool" line then .boolean
      else kindOf lines := by
  rw [kindOf, List.any_append, List.any_cons, List.any_nil, Bool.or_false]
  cases claimed : (startsWith "bool" line || startsWith "def_bool" line) <;>
    simp [kindOf]

/-- One line more is the attribute of the line, applied to what the lines before it
say. -/
theorem attributesOf_snoc (name : String) (lines : List (List Char))
    (line : List Char) :
    attributesOf name (lines ++ [line]) =
      (Attribute.ofLine? line).elim (attributesOf name lines) fun setting =>
        setting.apply (attributesOf name lines) := by
  rw [attributesOf, kindOf_snoc, defaultsOf_snoc, fields_snoc, fields_snoc]
  rcases ofLine?_cases line with ⟨starts, gives⟩ | ⟨starts, gives⟩ | ⟨starts, gives⟩ |
    ⟨starts, gives⟩ | ⟨starts, gives⟩ | ⟨gives, others⟩
  · simp [startsWith_decided starts (by decide), gives, Attribute.apply, attributesOf]
  · simp [startsWith_decided starts (by decide), gives, Attribute.apply, attributesOf]
  · simp [startsWith_decided starts (by decide), gives, Attribute.apply, attributesOf]
  · simp [startsWith_decided starts (by decide), gives, Attribute.apply, attributesOf]
  · simp [startsWith_decided starts (by decide), gives, Attribute.apply, attributesOf]
  · have silent : ∀ keyword ∈ keywords, keyword ≠ "config" →
        startsWith keyword line = false := by
      intro keyword member different
      rw [Bool.eq_false_iff]
      exact fun starts => different (others keyword member starts)
    simp [silent "depends on" (by decide) (by decide),
      silent "bool" (by decide) (by decide), silent "default" (by decide) (by decide),
      silent "def_bool" (by decide) (by decide),
      silent "select" (by decide) (by decide), gives, attributesOf]

/-- A header is no attribute. -/
theorem ofLine?_of_isHeader
    {afterBlank : Bool} {line : List Char}
    (header : isHeader afterBlank line = true) :
    Attribute.ofLine? line = none := by
  have silent := startsWith_decided (startsWith_config_of_isHeader header) (by decide)
  rcases ofLine?_cases line with ⟨starts, -⟩ | ⟨starts, -⟩ | ⟨starts, -⟩ | ⟨starts, -⟩ |
    ⟨starts, -⟩ | ⟨gives, -⟩
  · simp [silent] at starts
  · simp [silent] at starts
  · simp [silent] at starts
  · simp [silent] at starts
  · simp [silent] at starts
  · exact gives

/-- A handled line names a component, or gives an attribute to its
owner, or changes nothing. -/
theorem effectOf_cases (owner : Option String) (afterBlank : Bool) (line : List Char) :
    (∃ name, header? afterBlank line = some name ∧ Attribute.ofLine? line = none ∧
        effectOf owner afterBlank line = some (.header name)) ∨
      (∃ name setting, header? afterBlank line = none ∧ owner = some name ∧
        Attribute.ofLine? line = some setting ∧
        effectOf owner afterBlank line = some (.assign name setting)) ∨
      (header? afterBlank line = none ∧ (owner = none ∨ Attribute.ofLine? line = none) ∧
        ∀ file table,
          ((effectOf owner afterBlank line).elim table (Effect.apply file table)) =
          table) := by
  unfold effectOf readLine header?
  dsimp only
  by_cases header : isHeader afterBlank line = true
  · have noAttribute := ofLine?_of_isHeader header
    rw [if_pos header, if_pos header]
    cases headerName? line with
    | some name => exact Or.inl ⟨name, rfl, noAttribute, rfl⟩
    | none => exact Or.inr (Or.inr ⟨rfl, Or.inr noAttribute, fun _ _ => rfl⟩)
  · rw [if_neg header, if_neg header]
    cases owner with
    | none => exact Or.inr (Or.inr ⟨rfl, Or.inl rfl, fun _ _ => rfl⟩)
    | some name =>
        cases Attribute.ofLine? line with
        | none => exact Or.inr (Or.inr ⟨rfl, Or.inr rfl, fun _ _ => rfl⟩)
        | some setting => exact Or.inr (Or.inl ⟨name, setting, rfl, rfl, rfl, rfl⟩)

end Stanza
end KernelInventory
