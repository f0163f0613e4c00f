import Onboarding.Text.Basic
import Onboarding.Text.Printable

namespace Onboarding.Text

def hexOf : Nat → Nat → Text
  | 0, _ => []
  | k + 1, n => hexOf k (n / 16) ++ [Nat.digitChar (n % 16)]

def escaped (quote c : Char) : Text :=
  if c = quote ∨ c = '\\' then ['\\', c]
  else if c = '\n' then ['\\', 'n']
  else if c = '\r' then ['\\', 'r']
  else if c = '\t' then ['\\', 't']
  else if isPrintable c then [c]
  else if c.toNat < 0x100 then '\\' :: 'x' :: hexOf 2 c.toNat
  else if c.toNat < 0x10000 then '\\' :: 'u' :: hexOf 4 c.toNat
  else '\\' :: 'U' :: hexOf 8 c.toNat

def quoteFor (t : Text) : Char := if '\'' ∈ t ∧ '"' ∉ t then '"' else '\''

def quoted (t : Text) : Text :=
  quoteFor t :: t.flatMap (escaped (quoteFor t)) ++ [quoteFor t]

end Onboarding.Text
