import KernelInventory.Report.Literal.Expression
import KernelInventory.Report.Literal.Token

/-!
# Phrases of a grammar

A phrase describes how tokens make expressions.  Where a phrase is a choice, the first
alternative that fits is taken for good.  Some phrases are there to explain what is
wrong: where one fits, the reading ends with its problem.  Most of these are remarks,
which are left out of a first reading.

Tokens are looked at one by one, and the problem behind the last token is met when a
phrase looks there.  Some rules remember what they made at a place, and also that they
made nothing, with or without remarks.
-/

namespace KernelInventory
namespace Report
namespace Literal

/-- A phrase, in a grammar whose rules have names. -/
inductive Phrase (ρ : Type) where
  /-- A token, which stands for some expressions or for none. -/
  | token (read : Token → Option (List Expression))
  /-- Quotations side by side. -/
  | quotations
  /-- The end of the text. -/
  | finish
  | rule (name : ρ)
  | nothing
  | both (first second : Phrase ρ)
  | either (first second : Phrase ρ)
  /-- A phrase any number of times. -/
  | many (phrase : Phrase ρ)
  /-- Nothing, where a phrase fits, or where it does not. -/
  | ahead (wanted : Bool) (phrase : Phrase ρ)
  /-- What is made of the expressions in a phrase. -/
  | form (make : List Expression → List Expression) (phrase : Phrase ρ)
  /-- The problem with the expressions of a phrase, if there is one; the number of
  brackets open behind the phrase is known. -/
  | explain (problem : List Expression → Nat → Option Problem) (phrase : Phrase ρ)
  /-- A phrase for a reading with remarks only. -/
  | remark (phrase : Phrase ρ)
  /-- A phrase that is read without remarks. -/
  | plainly (phrase : Phrase ρ)

namespace Phrase

variable {ρ : Type}

/-- Phrases one after the other. -/
def all (phrases : List (Phrase ρ)) : Phrase ρ := phrases.foldr both nothing

/-- Phrases by choice, the first one preferred. -/
def any (first : Phrase ρ) : List (Phrase ρ) → Phrase ρ
  | [] => first
  | second :: others => either first (any second others)

/-- A phrase that may be missing. -/
def optional (phrase : Phrase ρ) : Phrase ρ := either phrase nothing

/-- A phrase once or more. -/
def atLeastOne (phrase : Phrase ρ) : Phrase ρ := both phrase (many phrase)

/-- Nothing, where a phrase does not fit. -/
def absent (phrase : Phrase ρ) : Phrase ρ := ahead false phrase

/-- One expression made of those in a phrase. -/
def build (make : List Expression → Expression) (phrase : Phrase ρ) : Phrase ρ :=
  form (fun expressions => [make expressions]) phrase

/-- A phrase without its expressions. -/
def silent (phrase : Phrase ρ) : Phrase ρ := form (fun _ => []) phrase

/-- A given sign. -/
def sign (sign : String) : Phrase ρ :=
  token fun token => if token = .mark sign then some [] else none

/-- A given word. -/
def word (word : String) : Phrase ρ :=
  token fun token => if token = .word word then some [] else none

/-- A phrase once or more, with commas between. -/
def listed (phrase : Phrase ρ) : Phrase ρ := both phrase (many (both (sign ",") phrase))

end Phrase

/-- What is made at a place: expressions, and the place behind. -/
abbrev Made := Option (List Expression × Nat)

/-- What rules remember of each place. -/
abbrev Memory (ρ : Type) := Array (List (ρ × Made))

/-- A reading, which ends with a problem, or goes on with what is remembered. -/
abbrev Reading (ρ : Type) := StateT (Memory ρ) (Except Problem)

/-- A grammar. -/
structure Grammar (ρ : Type) where
  phrase : ρ → Phrase ρ
  /-- The rules that remember. -/
  remembers : ρ → Bool

/-- What is read. -/
structure Matter where
  tokens : Array Placed
  /-- The problem behind the last token. -/
  ending : Option Problem
  /-- What quotations side by side make. -/
  join : List Quotation → Except Problem Expression

namespace Matter

/-- The token at a place; behind the last one there is none. -/
def look (matter : Matter) (place : Nat) : Except Problem (Option Token) :=
  match matter.tokens[place]?, matter.ending with
  | some placed, _ => .ok (some placed.token)
  | none, some problem => .error problem
  | none, none => .ok none

/-- The number of brackets that are open at a place. -/
def depth (matter : Matter) (place : Nat) : Nat :=
  (matter.tokens[place - 1]?.map Placed.depth).getD 0

/-- The quotations from a place on. -/
def quotationsFrom (matter : Matter) (place : Nat) : List Quotation :=
  (matter.tokens.toList.drop place).map Placed.token |>.takeWhile isQuotation
    |>.filterMap body?
where
  /-- Whether a token is a quotation. -/
  isQuotation : Token → Bool
    | .quotation _ => true
    | _ => false
  /-- The quotation that a token is. -/
  body? : Token → Option Quotation
    | .quotation quotation => some quotation
    | _ => none

end Matter

namespace Grammar

variable {ρ : Type} [BEq ρ]

/-- What a rule remembers of a place. -/
def remembered (name : ρ) (place : Nat) : Reading ρ (Option Made) := do
  return ((← get)[place]?.getD []).lookup name

/-- Remember what a rule made at a place. -/
def keep (name : ρ) (place : Nat) (made : Made) : Reading ρ Unit :=
  modify fun memory => memory.modify place ((name, made) :: ·)

/-- Read a phrase at a place, with or without remarks.  The fuel bounds
how deep phrases nest. -/
def read (grammar : Grammar ρ) (matter : Matter) (fuel : Nat) (remarks : Bool)
    (phrase : Phrase ρ) (place : Nat) : Reading ρ Made :=
  match fuel with
  | 0 => return none
  | fuel + 1 =>
    match phrase with
    | .token reading => do
      match ← matter.look place with
      | some token => return (reading token).map (·, place + 1)
      | none => return none
    | .quotations => do
      let quotations := matter.quotationsFrom place
      let behind := place + quotations.length
      discard (matter.look behind)
      if quotations.isEmpty then return none
      else return some ([← matter.join quotations], behind)
    | .finish => do
      match ← matter.look place with
      | some _ => return none
      | none => return some ([], place)
    | .rule name => do
      match ← if grammar.remembers name then remembered name place else pure none with
      | some made => return made
      | none =>
        let made ← grammar.read matter fuel remarks (grammar.phrase name) place
        if grammar.remembers name then keep name place made
        return made
    | .nothing => return some ([], place)
    | .both first second => do
      match ← grammar.read matter fuel remarks first place with
      | none => return none
      | some (made, next) =>
        match ← grammar.read matter fuel remarks second next with
        | none => return none
        | some (others, behind) => return some (made ++ others, behind)
    | .either first second => do
      match ← grammar.read matter fuel remarks first place with
      | none => grammar.read matter fuel remarks second place
      | some made => return some made
    | .many phrase => do
      match ← grammar.read matter fuel remarks phrase place with
      | none => return some ([], place)
      | some (made, next) =>
        match ← grammar.read matter fuel remarks (.many phrase) next with
        | none => return some (made, next)
        | some (others, behind) => return some (made ++ others, behind)
    | .ahead wanted phrase => do
      let made ← grammar.read matter fuel remarks phrase place
      return if made.isSome = wanted then some ([], place) else none
    | .form make phrase => do
      let made ← grammar.read matter fuel remarks phrase place
      return made.map fun (expressions, behind) => (make expressions, behind)
    | .explain problem phrase => do
      match ← grammar.read matter fuel remarks phrase place with
      | none => return none
      | some (expressions, behind) =>
        match problem expressions (matter.depth behind) with
        | some found => throw found
        | none => return none
    | .remark phrase =>
      if remarks then grammar.read matter fuel remarks phrase place else return none
    | .plainly phrase => grammar.read matter fuel false phrase place

/-- Read a phrase from the beginning. -/
def readAll (grammar : Grammar ρ) (matter : Matter) (remarks : Bool)
    (phrase : Phrase ρ) :
    Except Problem Made :=
  let places := matter.tokens.size + 1
  let fuel := 2000 * (places + 1)
  Prod.fst <$> (grammar.read matter fuel remarks phrase 0).run
    (Array.replicate places [])

/-- The expression that a phrase makes.  Where the phrase does not fit, a second reading
with remarks tells why. -/
def expression (grammar : Grammar ρ) (matter : Matter) (phrase : Phrase ρ) :
    Except Problem Expression := do
  match ← grammar.readAll matter false phrase with
  | some ([made], _) => return made
  | _ =>
    discard (grammar.readAll matter true phrase)
    throw .unexpected

end Grammar
end Literal
end Report
end KernelInventory
