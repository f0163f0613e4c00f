namespace Onboarding.Text

abbrev Spans := List (Nat × Nat)

namespace Spans

def covers : Spans → Nat → Bool
  | [], _ => false
  | (lo, hi) :: rest, n => if n < lo then false else n ≤ hi || covers rest n

theorem covers_cons (lo hi : Nat) (rest : Spans) (n : Nat) :
    covers ((lo, hi) :: rest) n = if n < lo then false else n ≤ hi || covers rest n := rfl

end Spans

end Onboarding.Text
