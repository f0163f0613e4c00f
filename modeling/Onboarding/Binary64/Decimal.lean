import Onboarding.Binary64.Basic
import Onboarding.Text.Numeral

namespace Onboarding.Binary64

/-- The `t` with `10 ^ t ≤ num / den < 10 ^ (t + 1)`, looked for upwards from a power that is no
greater. -/
def magnitudeFrom : Nat → Nat → Nat → Int → Int
  | 0, _, _, t => t
  | steps + 1, num, den, t =>
    let (n, d) := unscale 10 num den (t + 1)
    if n < d then t else magnitudeFrom steps num den (t + 1)

def magnitude (num den : Nat) : Int :=
  magnitudeFrom 8 num den
    ((((Nat.log2 num : Int) - Nat.log2 den - 1) * 30103).fdiv 100000 - 2)

/-- Of the two decimals of `k` digits next to `num / den`, one that reads back as `x`: the nearer, if
both do. -/
def decimalOf? (x : Binary64) (num den k : Nat) : Option (Nat × Int) :=
  let p := magnitude num den - k + 1
  let (n, d) := unscale 10 num den p
  let q := n / d
  let above := if q + 1 = Nat.pow 10 k then (Nat.pow 10 (k - 1), p + 1) else (q + 1, p)
  let low := ofDecimal false q p == x
  let high := ofDecimal false (q + 1) p == x
  if low && high then
    some (if 2 * (n % d) < d || (2 * (n % d) == d && q % 2 == 0) then (q, p) else above)
  else if low then some (q, p)
  else if high then some above
  else none

def shortest (m : Nat) (e : Int) : Nat × Int :=
  let (num, den) := unscale 2 m 1 (-e)
  ((List.range 17).findSome? fun k => decimalOf? (.finite false m e) num den (k + 1)).getD (m, 0)

/-- Between the ten-thousandth and the sixteenth power of ten a point is set among the digits; all
else is written with an exponent of at least two digits. -/
def digitsShown (digits : Text) (e : Int) : Text :=
  let point : Int := digits.length + e
  if -4 < point ∧ point ≤ 16 then
    if 0 < e ∨ e = 0 then digits ++ List.replicate e.toNat '0' ++ ['.', '0']
    else if 0 < point then digits.take point.toNat ++ '.' :: digits.drop point.toNat
    else ['0', '.'] ++ List.replicate (-point).toNat '0' ++ digits
  else
    let power := (point - 1).natAbs
    let tail := if power < 10 then '0' :: Text.ofNat power else Text.ofNat power
    (match digits with
      | [] => []
      | [d] => [d]
      | d :: rest => d :: '.' :: rest)
      ++ ['e', if point - 1 < 0 then '-' else '+'] ++ tail

def shown : Binary64 → Text
  | .nan => ['n', 'a', 'n']
  | .infinite negative => (if negative then ['-'] else []) ++ ['i', 'n', 'f']
  | .finite negative m e =>
    (if negative then ['-'] else []) ++
      if m = 0 then ['0', '.', '0']
      else
        let (digits, p) := shortest m e
        digitsShown (Text.ofNat digits) p

def digitsOrNone (t : Text) : Option (List Nat) := if t = [] then some [] else Text.digitsIn 10 t

def pointed? (t : Text) : Option (List Nat × Nat) :=
  let whole := t.takeWhile (· ≠ '.')
  match t.dropWhile (· ≠ '.') with
  | [] => (Text.digitsIn 10 whole).map fun ds => (ds, 0)
  | _ :: part => do
    let ws ← digitsOrNone whole
    let ps ← digitsOrNone part
    if ws = [] ∧ ps = [] then none else some (ws ++ ps, ps.length)

def unsigned? (negative : Bool) (t : Text) : Option Binary64 :=
  if t = "inf".toList ∨ t = "infinity".toList then some (.infinite negative)
  else if t = "nan".toList then some .nan
  else do
    let (ds, places) ← pointed? (t.takeWhile (· ≠ 'e'))
    let power ← match t.dropWhile (· ≠ 'e') with
      | [] => some 0
      | _ :: '-' :: digits => (Text.natIn? 10 digits).map fun n => -(n : Int)
      | _ :: '+' :: digits => (Text.natIn? 10 digits).map Int.ofNat
      | _ :: digits => (Text.natIn? 10 digits).map Int.ofNat
    some (ofDecimal negative (Text.ofDigits 10 ds) (power - places))

def ofText? (t : Text) : Option Binary64 :=
  match Text.trimSpace t with
  | '-' :: rest => unsigned? true rest
  | '+' :: rest => unsigned? false rest
  | rest => unsigned? false rest

end Onboarding.Binary64
