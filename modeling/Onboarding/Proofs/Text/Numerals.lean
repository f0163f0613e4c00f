import Onboarding.Text.Basic

namespace Onboarding.Text

theorem ofNat_injective : Function.Injective ofNat := by
  intro m n h
  have hread (k : Nat) : Nat.ofDigitChars 10 (ofNat k) 0 = k := Nat.ofDigitChars_ten_toDigits
  rw [← hread m, h, hread]

theorem isDigit_of_mem_ofNat {c : Char} {n : Nat} (h : c ∈ ofNat n) : c.isDigit = true :=
  Nat.isDigit_of_mem_toDigits (by decide) (by decide) h

theorem not_mem_ofInt {c : Char} (hc : c.isDigit = false) (hminus : c ≠ '-') (n : Int) : c ∉ ofInt n := by
  have hnat (k : Nat) : c ∉ ofNat k := by
    intro h
    rw [isDigit_of_mem_ofNat h] at hc
    cases hc
  cases n with
  | ofNat k => exact hnat k
  | negSucc k => exact List.not_mem_cons_of_ne_of_not_mem hminus (hnat (k + 1))

theorem ofNat_ne_minus_cons (n : Nat) (t : Text) : ofNat n ≠ '-' :: t := by
  intro h
  have hdigit : ('-').isDigit = true := isDigit_of_mem_ofNat (h ▸ List.mem_cons_self)
  cases hdigit

theorem ofInt_injective : Function.Injective ofInt := by
  intro m n h
  cases m with
  | ofNat k =>
      cases n with
      | ofNat k' => exact congrArg Int.ofNat (ofNat_injective h)
      | negSucc k' => exact absurd h (ofNat_ne_minus_cons k _)
  | negSucc k =>
      cases n with
      | ofNat k' => exact absurd h.symm (ofNat_ne_minus_cons k' _)
      | negSucc k' =>
          have hsucc : k + 1 = k' + 1 := ofNat_injective (List.cons.inj h).2
          exact congrArg Int.negSucc (Nat.succ.inj hsucc)

end Onboarding.Text
