import Onboarding.Text.Basic
import Onboarding.Text.Word

namespace Onboarding.Text

def digitsIn (base : Nat) : Text → Option (List Nat)
  | [] => none
  | [c] => (alnumValue? c).bind fun d => if d < base then some [d] else none
  | c :: '_' :: rest => do
    let d ← alnumValue? c
    let ds ← digitsIn base rest
    if d < base then some (d :: ds) else none
  | c :: rest => do
    let d ← alnumValue? c
    let ds ← digitsIn base rest
    if d < base then some (d :: ds) else none

def ofDigits (base : Nat) (ds : List Nat) : Nat := ds.foldl (fun n d => n * base + d) 0

def natIn? (base : Nat) (t : Text) : Option Nat := (digitsIn base t).map (ofDigits base)

/-- A blank around a number. The four separators among the controls are none. -/
def isSpace (c : Char) : Bool := isBlank c && !(0x1C ≤ c.toNat && c.toNat ≤ 0x1F)

def trimSpace (t : Text) : Text := ((t.dropWhile isSpace).reverse.dropWhile isSpace).reverse

def marks : Nat → List Char
  | 2 => ['b', 'B']
  | 8 => ['o', 'O']
  | 16 => ['x', 'X']
  | _ => []

def withoutMark (base : Nat) : Text → Text
  | z :: c :: rest =>
    if alnumValue? z = some 0 && (marks base).contains c then
      match rest with
      | '_' :: rest => rest
      | rest => rest
    else z :: c :: rest
  | t => t

def intIn? (base : Nat) (t : Text) : Option Int :=
  match trimSpace t with
  | '-' :: rest => (natIn? base (withoutMark base rest)).map fun n => -(n : Int)
  | '+' :: rest => (natIn? base (withoutMark base rest)).map Int.ofNat
  | rest => (natIn? base (withoutMark base rest)).map Int.ofNat

/-- The most digits that are read as a decimal number. -/
def longestDecimal : Nat := 4300

end Onboarding.Text
