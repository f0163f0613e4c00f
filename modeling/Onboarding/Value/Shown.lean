import Onboarding.Binary64.Decimal
import Onboarding.Text.Quoted
import Onboarding.Value.Basic

namespace Onboarding.Value

def shownByte (quote : Char) (b : Nat) : Text :=
  if b < 0x80 then Text.escaped quote (Char.ofNat b) else '\\' :: 'x' :: Text.hexOf 2 b

def shownBytes (bs : List Nat) : Text :=
  let quote := if 39 ∈ bs ∧ 34 ∉ bs then '"' else '\''
  'b' :: quote :: bs.flatMap (shownByte quote) ++ [quote]

def numbersShown (ns : List Nat) : Text := Text.join [',', ' '] (ns.map Text.ofNat)

def dayShown (d : Day) : List Nat := [d.year, d.month, d.day]

def clockShown (c : Clock) : List Nat :=
  [c.hour, c.minute] ++
    if c.micro ≠ 0 then [c.second, c.micro] else if c.second ≠ 0 then [c.second] else []

def offsetShown : Int → Text
  | 0 => "datetime.timezone.utc".toList
  | n =>
    let days := n.fdiv 1440
    let seconds := (n.fmod 1440).toNat * 60
    "datetime.timezone(datetime.timedelta(".toList
      ++ (if days = 0 then [] else "days=".toList ++ Text.ofInt days ++ [',', ' '])
      ++ "seconds=".toList ++ Text.ofNat seconds ++ [')', ')']

def momentShown (d : Day) (c : Clock) : Text :=
  "datetime.datetime(".toList ++ numbersShown (dayShown d ++ clockShown c)
    ++ (match c.offset with
      | none => []
      | some n => ", tzinfo=".toList ++ offsetShown n)
    ++ [')']

mutual

def shown : Value → Text
  | .null => "None".toList
  | .bool true => "True".toList
  | .bool false => "False".toList
  | .int n => Text.ofInt n
  | .float x => x.shown
  | .text t => Text.quoted t
  | .bytes bs => shownBytes bs
  | .day d => "datetime.date(".toList ++ numbersShown (dayShown d) ++ [')']
  | .moment d c => momentShown d c
  | .list items => '[' :: Text.join [',', ' '] (shownItems items) ++ [']']
  | .set items =>
    if items.isEmpty then "set()".toList else '\x7b' :: Text.join [',', ' '] (shownItems items) ++ ['\x7d']
  | .map entries => '\x7b' :: Text.join [',', ' '] (shownEntries entries) ++ ['\x7d']

def shownItems : List Value → List Text
  | [] => []
  | v :: rest => shown v :: shownItems rest

def shownEntries : List (Value × Value) → List Text
  | [] => []
  | (k, v) :: rest => (shown k ++ [':', ' '] ++ shown v) :: shownEntries rest

end

end Onboarding.Value
