import Onboarding.Text.Lowercase
import Onboarding.Text.Word

namespace Onboarding.Text

def alikeSmall : List (List Nat) :=
  [[0x69, 0x131], [0x73, 0x17F], [0xB5, 0x3BC], [0x345, 0x3B9, 0x1FBE], [0x390, 0x1FD3],
   [0x3B0, 0x1FE3], [0x3B2, 0x3D0], [0x3B5, 0x3F5], [0x3B8, 0x3D1], [0x3BA, 0x3F0],
   [0x3C0, 0x3D6], [0x3C1, 0x3F1], [0x3C2, 0x3C3], [0x3C6, 0x3D5], [0x432, 0x1C80],
   [0x434, 0x1C81], [0x43E, 0x1C82], [0x441, 0x1C83], [0x442, 0x1C84, 0x1C85], [0x44A, 0x1C86],
   [0x463, 0x1C87], [0xA64B, 0x1C88], [0x1E61, 0x1E9B], [0xFB05, 0xFB06]]

def alikeSmallOf (n : Nat) : List Nat := (alikeSmall.find? (·.contains n)).getD [n]

def capitalsOf (n : Nat) : List Nat :=
  (if n = 0x69 then [0x130] else []) ++ capitalRuns.filterMap (·.capitalOf? n)

/-- The code points that differ from `c` in case only. -/
def alike (c : Char) : List Nat :=
  (alikeSmallOf (lowerChar c).toNat).flatMap fun n => n :: capitalsOf n

def asciiLowerChar (c : Char) : Char :=
  if 'A' ≤ c ∧ c ≤ 'Z' then Char.ofNat (c.toNat + 32) else c

def asciiAlike (c : Char) : List Nat :=
  let n := (asciiLowerChar c).toNat
  if 'a'.toNat ≤ n ∧ n ≤ 'z'.toNat then [n, n - 32] else [n]

end Onboarding.Text
