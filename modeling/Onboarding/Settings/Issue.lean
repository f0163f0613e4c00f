import Onboarding.Text.Numeral
import Onboarding.Value.Shown

namespace Onboarding

namespace Issue

inductive Target
  | settings | secretRule
deriving DecidableEq, Repr

inductive Cause
  | noMapping (t : Target)
  | missing
  | unknownKey
  | keyIsNoText
  | noList
  | noText
  | noUnicode
  | emptyText
  | noInteger
  | textIsNoInteger
  | fractional
  | notFinite
  | tooLong
  | below (least : Nat)
  | noTitle
  | badPattern
  | mixedAlphabets
deriving DecidableEq, Repr

inductive Step
  | field (name : Text)
  | index (n : Int)
deriving DecidableEq, Repr

def Target.name : Target → Text
  | .settings => "ValidatorSettings".toList
  | .secretRule => "SecretRule".toList

def Cause.message : Cause → Text
  | .noMapping t => "Input should be a valid dictionary or instance of ".toList ++ t.name
  | .missing => "Field required".toList
  | .unknownKey => "Extra inputs are not permitted".toList
  | .keyIsNoText => "Keys should be strings".toList
  | .noList => "Input should be a valid tuple".toList
  | .noText => "Input should be a valid string".toList
  | .noUnicode =>
    "Input should be a valid string, unable to parse raw data as a unicode string".toList
  | .emptyText => "String should have at least 1 character".toList
  | .noInteger => "Input should be a valid integer".toList
  | .textIsNoInteger =>
    "Input should be a valid integer, unable to parse string as an integer".toList
  | .fractional =>
    "Input should be a valid integer, got a number with a fractional part".toList
  | .notFinite => "Input should be a finite number".toList
  | .tooLong => "Unable to parse input string as an integer, exceeded maximum size".toList
  | .below least => "Input should be greater than or equal to ".toList ++ Text.ofNat least
  | .noTitle => "Value error, at least one section title is required".toList
  | .badPattern => "Value error, invalid regular expression".toList
  | .mixedAlphabets => "Value error, ASCII and UNICODE flags are incompatible".toList

def wordLimit : Nat := 0x8000000000000000

/-- Numbers within 64 bits are steps of their own; every other key is written out. -/
def Step.ofKey (k : Value) : Step :=
  match k with
  | .text t => .field t
  | .bool b => .index (if b then 1 else 0)
  | .int n =>
    if -(wordLimit : Int) ≤ n ∧ n < wordLimit then .index n else .field (Text.ofInt n)
  | v => .field v.shown

end Issue

structure Issue where
  path : List Issue.Step
  cause : Issue.Cause
deriving DecidableEq, Repr

/-- A value, or everything that is wrong. A repeat count that is too large ends the reading at once. -/
inductive Checked (α : Type)
  | ok (a : α)
  | issues (is : List Issue)
  | countTooLarge

namespace Checked

variable {α β : Type}

def fail (c : Issue.Cause) : Checked α := .issues [⟨[], c⟩]

def map (f : α → β) : Checked α → Checked β
  | .ok a => .ok (f a)
  | .issues is => .issues is
  | .countTooLarge => .countTooLarge

def bind (x : Checked α) (f : α → Checked β) : Checked β :=
  match x with
  | .ok a => f a
  | .issues is => .issues is
  | .countTooLarge => .countTooLarge

/-- Both parts are read, whatever is wrong with either. -/
def and (f : Checked (α → β)) (x : Checked α) : Checked β :=
  match f, x with
  | .countTooLarge, _ | _, .countTooLarge => .countTooLarge
  | .ok f, .ok a => .ok (f a)
  | .issues is, .ok _ => .issues is
  | .ok _, .issues js => .issues js
  | .issues is, .issues js => .issues (is ++ js)

def under (s : Issue.Step) : Checked α → Checked α
  | .issues is => .issues (is.map fun i => { i with path := s :: i.path })
  | x => x

def items (f : Value → Checked α) : Nat → List Value → Checked (List α)
  | _, [] => .ok []
  | n, v :: rest => (((f v).under (.index n)).map List.cons).and (items f (n + 1) rest)

end Checked

end Onboarding
