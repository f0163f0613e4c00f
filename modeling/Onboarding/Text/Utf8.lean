import Onboarding.Text.Basic

namespace Onboarding.Text

def isContinuation (b : Nat) : Bool := 0x80 ≤ b && b < 0xC0

/-- A character of several bytes, if its number is in the range for which so many are needed and is
none of the surrogates. -/
def multibyte? (lo hi n : Nat) : Option Char :=
  if lo ≤ n ∧ n ≤ hi ∧ !(0xD800 ≤ n && n < 0xE000) then some (Char.ofNat n) else none

def ofUtf8? : List Nat → Option Text
  | [] => some []
  | a :: rest =>
    if a < 0x80 then (ofUtf8? rest).map (Char.ofNat a :: ·)
    else match rest with
      | b :: rest =>
        if !isContinuation b then none
        else if 0xC0 ≤ a ∧ a < 0xE0 then do
          let c ← multibyte? 0x80 0x7FF ((a - 0xC0) * 0x40 + (b - 0x80))
          return c :: (← ofUtf8? rest)
        else match rest with
          | c :: rest =>
            if !isContinuation c then none
            else if 0xE0 ≤ a ∧ a < 0xF0 then do
              let d ← multibyte? 0x800 0xFFFF ((a - 0xE0) * 0x1000 + (b - 0x80) * 0x40 + (c - 0x80))
              return d :: (← ofUtf8? rest)
            else match rest with
              | d :: rest =>
                if !isContinuation d then none
                else if 0xF0 ≤ a ∧ a < 0xF8 then do
                  let e ← multibyte? 0x10000 0x10FFFF ((a - 0xF0) * 0x40000
                    + (b - 0x80) * 0x1000 + (c - 0x80) * 0x40 + (d - 0x80))
                  return e :: (← ofUtf8? rest)
                else none
              | [] => none
          | [] => none
      | [] => none

end Onboarding.Text
