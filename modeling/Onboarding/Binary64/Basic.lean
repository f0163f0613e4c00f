namespace Onboarding

/-- A binary floating-point number of 64 bits. A finite one is `mantissa * 2 ^ exponent` with at most
53 bits of mantissa and the least exponent that these allow. -/
inductive Binary64
  | nan
  | infinite (negative : Bool)
  | finite (negative : Bool) (mantissa : Nat) (exponent : Int)
deriving DecidableEq, Repr

namespace Binary64

def leastExponent : Int := -1074

def greatestExponent : Int := 971

def mantissaLimit : Nat := 0x20000000000000

def roundQuotient (num den : Nat) : Nat :=
  let q := num / den
  let r := num % den
  if 2 * r < den then q else if den < 2 * r then q + 1 else q + q % 2

def unscale (base num den : Nat) (e : Int) : Nat × Nat :=
  match e with
  | .ofNat k => (num, den * Nat.pow base k)
  | .negSucc k => (num * Nat.pow base (k + 1), den)

def exponentOf (num den : Nat) : Int :=
  let e : Int := (Nat.log2 num : Int) - Nat.log2 den - 53
  let (n, d) := unscale 2 num den e
  if mantissaLimit * d ≤ n then e + 1 else e

def ofQuotient (negative : Bool) (num den : Nat) : Binary64 :=
  if num = 0 then .finite negative 0 leastExponent
  else
    let e := max (exponentOf num den) leastExponent
    let (n, d) := unscale 2 num den e
    let m := roundQuotient n d
    let (m, e) := if m = mantissaLimit then (mantissaLimit / 2, e + 1) else (m, e)
    if greatestExponent < e then .infinite negative else .finite negative m e

/-- `digits * 10 ^ e`. Beyond the thousandth power on either side only the limit is left. -/
def ofDecimal (negative : Bool) (digits : Nat) (e : Int) : Binary64 :=
  let size : Int := (Nat.toDigits 10 digits).length + e
  if digits = 0 ∨ size < -1000 then .finite negative 0 leastExponent
  else if 1000 < size then .infinite negative
  else
    let (n, d) := unscale 10 digits 1 (-e)
    ofQuotient negative n d

def ofInt (n : Int) : Binary64 := ofQuotient (n < 0) n.natAbs 1

inductive Quotient
  | nan
  | infinite (negative : Bool)
  | finite (num : Int) (den : Nat)

/-- Equal as numbers: both zeros are, and what is no number equals nothing. -/
def Quotient.equal : Quotient → Quotient → Bool
  | .infinite s, .infinite t => s == t
  | .finite a b, .finite c d => a * d == c * b
  | _, _ => false

def toQuotient : Binary64 → Quotient
  | .nan => .nan
  | .infinite s => .infinite s
  | .finite s m e =>
    let (n, d) := unscale 2 m 1 (-e)
    .finite (if s then -(n : Int) else n) d

def toInt? (x : Binary64) : Option Int :=
  match x.toQuotient with
  | .finite n d => if n % (d : Int) = 0 then some (n / d) else none
  | _ => none

def isFinite : Binary64 → Bool
  | .finite .. => true
  | _ => false

def negate : Binary64 → Binary64
  | .nan => .nan
  | .infinite s => .infinite !s
  | .finite s m e => .finite (!s) m e

def add (x y : Binary64) : Binary64 :=
  match x.toQuotient, y.toQuotient with
  | .finite a b, .finite c d =>
    let n := a * d + c * b
    ofQuotient (n < 0) n.natAbs (b * d)
  | .infinite s, .infinite t => if s = t then .infinite s else .nan
  | .infinite s, .finite .. => .infinite s
  | .finite .., .infinite s => .infinite s
  | _, _ => .nan

def scale (x : Binary64) (k : Nat) : Binary64 :=
  match x.toQuotient with
  | .finite a b => ofQuotient (a < 0) (a.natAbs * k) b
  | _ => x

end Binary64

end Onboarding
