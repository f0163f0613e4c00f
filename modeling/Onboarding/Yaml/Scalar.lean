import Onboarding.Binary64.Decimal
import Onboarding.Text.Lowercase
import Onboarding.Yaml.Fault
import Onboarding.Yaml.Kind

namespace Onboarding.Yaml.Scalar

def withoutBars (t : Text) : Text := t.filter (· != '_')

def signed (t : Text) (n : Int) : Int := if t.head? == some '-' then -n else n

def ofSixtieths (ds : List Int) : Int := ds.foldl (fun n d => n * 60 + d) 0

def decimal? (t : Text) : Option Int :=
  if Text.longestDecimal < t.countP Text.isDigit then none else Text.intIn? 10 t

def magnitude? (t : Text) : Option Int :=
  match t with
  | '0' :: 'b' :: rest => Text.intIn? 2 rest
  | '0' :: 'x' :: rest => Text.intIn? 16 rest
  | '0' :: _ => Text.intIn? 8 t
  | _ =>
    if t.contains ':' then ((Text.splitOn ':' t).mapM decimal?).map ofSixtieths
    else decimal? t

def int (t : Text) : Except Fault Value :=
  match withoutBars t with
  | [] => .error .emptyNumber
  | t =>
    match Kind.unsigned t with
    | [] => .error .emptyNumber
    | ['0'] => .ok (.int 0)
    | rest =>
      match magnitude? rest with
      | some n => .ok (.int (signed t n))
      | none => .error .noSuchScalar

def addSixtieths : Binary64 → Nat → List Binary64 → Binary64
  | sum, _, [] => sum
  | sum, weight, x :: rest => addSixtieths (sum.add (x.scale weight)) (weight * 60) rest

/-- The sum of the parts, if there is a number with a point as large as the highest weight. -/
def ofFractions (xs : List Binary64) : Except Fault Binary64 :=
  if Nat.pow 2 1024 ≤ Nat.pow 60 (xs.length - 1) then .error .numberTooLarge
  else .ok (addSixtieths (Binary64.ofInt 0) 1 xs.reverse)

def fraction (t : Text) : Except Fault Binary64 :=
  if t = ".inf".toList then .ok (.infinite false)
  else if t = ".nan".toList then .ok .nan
  else if t.contains ':' then
    match (Text.splitOn ':' t).mapM Binary64.ofText? with
    | some xs => ofFractions xs
    | none => .error .noSuchScalar
  else match Binary64.ofText? t with
    | some x => .ok x
    | none => .error .noSuchScalar

def float (t : Text) : Except Fault Value :=
  match Text.lower (withoutBars t) with
  | [] => .error .emptyNumber
  | t =>
    (fraction (Kind.unsigned t)).map fun x =>
      .float (if t.head? == some '-' then x.negate else x)

def trueWords : List Text := ["yes".toList, "true".toList, "on".toList]

def falseWords : List Text := ["no".toList, "false".toList, "off".toList]

def bool (t : Text) : Except Fault Value :=
  if trueWords.contains (Text.lower t) then .ok (.bool true)
  else if falseWords.contains (Text.lower t) then .ok (.bool false)
  else .error .unknownBool

def moment (t : Text) : Except Fault Value :=
  match Moment.read? (Text.dropEnd '\n' t) with
  | none => .error .unknownDay
  | some w =>
    match Moment.value? w with
    | some v => .ok v
    | none => .error .noSuchScalar

def sixBits? (c : Char) : Option Nat :=
  if 'A' ≤ c ∧ c ≤ 'Z' then some (c.toNat - 'A'.toNat)
  else if 'a' ≤ c ∧ c ≤ 'z' then some (c.toNat - 'a'.toNat + 26)
  else if '0' ≤ c ∧ c ≤ '9' then some (c.toNat - '0'.toNat + 52)
  else if c = '+' then some 62
  else if c = '/' then some 63
  else none

/-- The groups of six bits up to the padding that completes a group of four; other characters are
skipped. `count` groups of the present four and `pads` marks have been read. -/
def sextets : Nat → Nat → Text → List Nat
  | _, _, [] => []
  | count, pads, c :: rest =>
    if c = '=' then
      if 2 ≤ count ∧ 4 ≤ count + pads + 1 then [] else sextets count (if 2 ≤ count then pads + 1 else pads) rest
    else match sixBits? c with
      | some n => n :: sextets ((count + 1) % 4) 0 rest
      | none => sextets count pads rest

def isComplete : Nat → Nat → Text → Bool
  | count, _, [] => count == 0
  | count, pads, c :: rest =>
    if c = '=' then
      if 2 ≤ count ∧ 4 ≤ count + pads + 1 then true
      else isComplete count (if 2 ≤ count then pads + 1 else pads) rest
    else match sixBits? c with
      | some _ => isComplete ((count + 1) % 4) 0 rest
      | none => isComplete count pads rest

def octets : List Nat → List Nat
  | a :: b :: c :: d :: rest =>
    (a * 4 + b / 16) :: (b % 16 * 16 + c / 4) :: (c % 4 * 64 + d) :: octets rest
  | [a, b, c] => [a * 4 + b / 16, b % 16 * 16 + c / 4]
  | [a, b] => [a * 4 + b / 16]
  | _ => []

def bytes (t : Text) : Except Fault Value :=
  if t.all (fun c => c.toNat < 0x80) && isComplete 0 0 t then .ok (.bytes (octets (sextets 0 0 t)))
  else .error .malformed

def value (t : Text) : Kind → Except Fault Value
  | .text => .ok (.text t)
  | .null => .ok .null
  | .bool => bool t
  | .int => int t
  | .float => float t
  | .moment => moment t
  | .bytes => bytes t
  | _ => .error .malformed

end Onboarding.Yaml.Scalar
