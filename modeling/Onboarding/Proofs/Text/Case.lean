import Onboarding.Proofs.Text.Pieces
import Onboarding.Text.Alike

namespace Onboarding.Text

def asciiLower (t : Text) : Text := t.map asciiLowerChar

@[simp] theorem asciiLower_nil : asciiLower [] = [] := rfl

@[simp] theorem asciiLower_cons (c : Char) (t : Text) :
    asciiLower (c :: t) = asciiLowerChar c :: asciiLower t := rfl

@[simp] theorem length_asciiLower (t : Text) : (asciiLower t).length = t.length := List.length_map _

theorem asciiLower_append (t u : Text) : asciiLower (t ++ u) = asciiLower t ++ asciiLower u :=
  List.map_append

theorem asciiLower_reverse (t : Text) : asciiLower t.reverse = (asciiLower t).reverse :=
  List.map_reverse

theorem asciiLower_take (n : Nat) (t : Text) : asciiLower (t.take n) = (asciiLower t).take n :=
  List.map_take

theorem tail_asciiLower (t : Text) : (asciiLower t).tail = asciiLower t.tail := by
  cases t <;> rfl

@[simp] theorem isEmpty_asciiLower (t : Text) : (asciiLower t).isEmpty = t.isEmpty := by
  cases t <;> rfl

theorem asciiLowerChar_eq_or (c : Char) : asciiLowerChar c = c ∨
    ∃ n ∈ List.range' 65 26, c = Char.ofNat n ∧ asciiLowerChar c = Char.ofNat (n + 32) := by
  by_cases h : 'A' ≤ c ∧ c ≤ 'Z'
  · refine .inr ⟨c.toNat, List.mem_range'_1.mpr ⟨h.1, Nat.lt_succ_of_le h.2⟩, ?_, if_pos h⟩
    exact (Char.ofNat_toNat c).symm
  · exact .inl (if_neg h)

/-- What is asked does not tell the letters from A to Z from the small ones. -/
def IgnoresCase {β : Type} (f : Char → β) : Prop :=
  ∀ n ∈ List.range' 65 26, f (Char.ofNat (n + 32)) = f (Char.ofNat n)

instance {β : Type} [DecidableEq β] (f : Char → β) : Decidable (IgnoresCase f) :=
  inferInstanceAs (Decidable (∀ n ∈ List.range' 65 26, f (Char.ofNat (n + 32)) = f (Char.ofNat n)))

namespace IgnoresCase

variable {β : Type} {f : Char → β} {test : Char → Bool}

theorem apply (h : IgnoresCase f) (c : Char) : f (asciiLowerChar c) = f c := by
  rcases asciiLowerChar_eq_or c with hc | ⟨n, hn, hc, hlower⟩
  · rw [hc]
  · rw [hlower, h n hn, ← hc]

theorem map (h : IgnoresCase f) {γ : Type} (g : β → γ) : IgnoresCase fun c => g (f c) :=
  fun n hn => congrArg g (h n hn)

theorem comp (h : IgnoresCase f) : f ∘ asciiLowerChar = f := funext h.apply

theorem takeWhile (h : IgnoresCase test) (t : Text) :
    (asciiLower t).takeWhile test = asciiLower (t.takeWhile test) := by
  rw [asciiLower, List.takeWhile_map, h.comp, asciiLower]

theorem dropWhile (h : IgnoresCase test) (t : Text) :
    (asciiLower t).dropWhile test = asciiLower (t.dropWhile test) := by
  rw [asciiLower, List.dropWhile_map, h.comp, asciiLower]

theorem all (h : IgnoresCase test) (t : Text) : (asciiLower t).all test = t.all test := by
  rw [asciiLower, List.all_map, h.comp]

theorem any_head? (h : IgnoresCase test) (t : Text) :
    (asciiLower t).head?.any test = t.head?.any test := by
  cases t with
  | nil => rfl
  | cons c t => exact h.apply c

end IgnoresCase

theorem asciiLowerChar_eq_iff {q : Char} (h : IgnoresCase fun c => decide (c = q)) {c : Char} :
    asciiLowerChar c = q ↔ c = q :=
  decide_eq_decide.mp (h.apply c)

theorem toNat_asciiLowerChar_eq_iff {n : Nat} (h : IgnoresCase fun c => decide (c.toNat = n))
    {c : Char} : (asciiLowerChar c).toNat = n ↔ c.toNat = n :=
  decide_eq_decide.mp (h.apply c)

theorem head?_asciiLower_beq {q : Char} (h : IgnoresCase fun c => decide (c = q)) (t : Text) :
    ((asciiLower t).head? == some q) = (t.head? == some q) := by
  cases t with
  | nil => rfl
  | cons c t => rw [Bool.eq_iff_iff, beq_iff_eq, beq_iff_eq, asciiLower_cons, List.head?_cons,
      List.head?_cons, Option.some.injEq, Option.some.injEq, asciiLowerChar_eq_iff h]

theorem asciiLower_beq_singleton {q : Char} (h : IgnoresCase fun c => decide (c = q)) (t : Text) :
    (asciiLower t == [q]) = (t == [q]) := by
  rw [Bool.eq_iff_iff, beq_iff_eq, beq_iff_eq]
  cases t with
  | nil => rfl
  | cons c t => rw [asciiLower_cons, List.cons_eq_cons, List.cons_eq_cons, asciiLowerChar_eq_iff h,
      asciiLower, List.map_eq_nil_iff]

theorem ignoresCase_isBlank : IgnoresCase isBlank := by decide +kernel

theorem trimLeft_asciiLower (t : Text) : trimLeft (asciiLower t) = asciiLower (trimLeft t) :=
  ignoresCase_isBlank.dropWhile t

theorem splitOn_asciiLower {sep : Char} (h : IgnoresCase fun c => decide (c = sep)) (t : Text) :
    splitOn sep (asciiLower t) = (splitOn sep t).map asciiLower := by
  induction t with
  | nil => rfl
  | cons c t ih =>
      rw [asciiLower_cons, splitOn, splitOn, ih]
      simp only [asciiLowerChar_eq_iff h]
      split
      · rfl
      · cases splitOn sep t <;> rfl

theorem dropEnd_asciiLower {d : Char} (h : IgnoresCase fun c => decide (c = d)) (t : Text) :
    dropEnd d (asciiLower t) = asciiLower (dropEnd d t) := by
  rcases List.eq_nil_or_concat t with rfl | ⟨u, c, rfl⟩
  · rfl
  · rw [List.concat_eq_append, asciiLower_append]
    simp only [asciiLower_cons, asciiLower_nil, dropEnd, List.getLast?_concat, Option.some.injEq,
      asciiLowerChar_eq_iff h, List.dropLast_concat]
    split
    · rfl
    · rw [asciiLower_append]
      rfl

section Lower

theorem ignoresCase_lowerChar : IgnoresCase lowerChar := by decide +kernel

theorem ignoresCase_isCaseIgnorable : IgnoresCase isCaseIgnorable := by decide +kernel

theorem ignoresCase_isCased : IgnoresCase isCased := by decide +kernel

theorem startsCased_asciiLower (t : Text) : startsCased (asciiLower t) = startsCased t := by
  rw [startsCased, startsCased, ignoresCase_isCaseIgnorable.dropWhile]
  cases t.dropWhile isCaseIgnorable with
  | nil => rfl
  | cons c rest => exact ignoresCase_isCased.apply c

theorem lowerAfter_asciiLower (before t : Text) :
    lowerAfter (asciiLower before) (asciiLower t) = lowerAfter before t := by
  induction t generalizing before with
  | nil => rfl
  | cons c t ih =>
      have hrest := ih (c :: before)
      rw [asciiLower_cons] at hrest
      simp only [asciiLower_cons, lowerAfter, toNat_asciiLowerChar_eq_iff (n := 0x130) (by decide),
        toNat_asciiLowerChar_eq_iff (n := 0x3A3) (by decide), ignoresCase_lowerChar.apply,
        startsCased_asciiLower, hrest]

theorem lower_asciiLower (t : Text) : lower (asciiLower t) = lower t :=
  lowerAfter_asciiLower [] t

end Lower

end Onboarding.Text
