import Onboarding.Proofs.Text.Words
import Onboarding.Text.Alike

namespace Onboarding.Text

variable {n m : Nat}

structure IsSign (n : Nat) : Prop where
  pos : 0 < n
  lt : n < 97
  no_capital : n < 65 ∨ 90 < n

instance (n : Nat) : Decidable (IsSign n) :=
  decidable_of_iff (0 < n ∧ n < 97 ∧ (n < 65 ∨ 90 < n))
    ⟨fun ⟨h₁, h₂, h₃⟩ => ⟨h₁, h₂, h₃⟩, fun h => ⟨h.pos, h.lt, h.no_capital⟩⟩

theorem lt_of_mem_capitalRuns : ∀ r ∈ capitalRuns, 96 < (r.first : Int) + r.shift ∧
    (96 < r.first ∨ r.first = 65 ∧ r.last = 90 ∧ r.shift = 32) := by
  decide +kernel

theorem lt_of_mem_alikeSmall : ∀ row ∈ alikeSmall, ∀ m ∈ row, 96 < m := by
  decide +kernel

theorem bounds_of_holds {r : CapitalRun} (h : r.holds n) : r.first ≤ n ∧ n ≤ r.last := by
  simp only [CapitalRun.holds, Bool.and_eq_true, decide_eq_true_eq] at h
  exact h.1

theorem not_holds_of_isSign (h : IsSign n) : ∀ r ∈ capitalRuns, r.holds n = false := by
  intro r hr
  rw [Bool.eq_false_iff]
  intro hn
  have hbounds := bounds_of_holds hn
  have hr := (lt_of_mem_capitalRuns r hr).2
  have hlt := h.lt
  have hcapital := h.no_capital
  omega

theorem smallIn_eq_iff (h : IsSign n) {rs : List CapitalRun} (hrs : ∀ r ∈ rs, r ∈ capitalRuns) :
    smallIn rs m = n ↔ m = n := by
  induction rs with
  | nil => rfl
  | cons r rs ih =>
      rw [List.forall_mem_cons] at hrs
      rw [smallIn]
      split
      · rfl
      · split
        · next hm =>
            have hbounds := bounds_of_holds hm
            have hr := lt_of_mem_capitalRuns r hrs.1
            have hn := h.lt
            constructor
            · intro he
              omega
            · rintro rfl
              rw [not_holds_of_isSign h r hrs.1] at hm
              cases hm
        · exact ih hrs.2

theorem toNat_ofNat_eq_or (m : Nat) :
    (Char.ofNat m).toNat = m ∨ (Char.ofNat m).toNat = 0 ∧ ¬ m.isValidChar := by
  by_cases hm : m.isValidChar
  · left
    rw [Char.ofNat, dif_pos hm]
    rfl
  · right
    rw [Char.ofNat, dif_neg hm]
    exact ⟨rfl, hm⟩

theorem toNat_ofNat_eq_iff (h : IsSign n) : (Char.ofNat m).toNat = n ↔ m = n := by
  rcases toNat_ofNat_eq_or m with hchar | ⟨hchar, hm⟩
  · rw [hchar]
  · rw [hchar]
    constructor
    · exact fun h0 => absurd h0 (Nat.ne_of_lt h.pos)
    · rintro rfl
      exact absurd (.inl (Nat.lt_trans h.lt (by decide))) hm

theorem toNat_lowerChar_eq_iff (h : IsSign n) {c : Char} : (lowerChar c).toNat = n ↔ c.toNat = n := by
  rw [lowerChar]
  split
  · next hc =>
      have hlt := h.lt
      rw [hc]
      constructor
      · intro hi
        have hi : 105 = n := hi
        omega
      · intro hi
        omega
  · rw [toNat_ofNat_eq_iff h, smallIn_eq_iff h fun _ hr => hr]

theorem alikeSmallOf_of_isSign (h : IsSign n) : alikeSmallOf n = [n] := by
  have hfind : alikeSmall.find? (·.contains n) = none := by
    rw [List.find?_eq_none]
    intro row hrow hn
    have hlt := lt_of_mem_alikeSmall row hrow n (List.elem_iff.mp hn)
    exact Nat.not_lt_of_le hlt h.lt
  rw [alikeSmallOf, hfind, Option.getD_none]

theorem mem_alikeSmallOf_iff (h : IsSign n) : n ∈ alikeSmallOf m ↔ m = n := by
  constructor
  · intro hn
    rw [alikeSmallOf] at hn
    cases hrow : alikeSmall.find? (·.contains m) with
    | none =>
        rw [hrow, Option.getD_none, List.mem_singleton] at hn
        exact hn.symm
    | some row =>
        rw [hrow, Option.getD_some] at hn
        have hlt := lt_of_mem_alikeSmall row (List.mem_of_find?_eq_some hrow) n hn
        exact absurd h.lt (Nat.not_lt_of_le hlt)
  · rintro rfl
    rw [alikeSmallOf_of_isSign h]
    exact List.mem_cons_self

theorem not_mem_capitalsOf (h : IsSign n) : n ∉ capitalsOf m := by
  rw [capitalsOf, List.mem_append, not_or]
  constructor
  · split
    · rw [List.mem_singleton]
      rintro rfl
      exact absurd h.lt (by decide)
    · exact List.not_mem_nil
  · rw [List.mem_filterMap]
    rintro ⟨r, hr, hn⟩
    unfold CapitalRun.capitalOf? at hn
    dsimp only at hn
    split at hn
    · next hm =>
        rw [Bool.and_eq_true] at hm
        rw [Option.some.inj hn, not_holds_of_isSign h r hr] at hm
        cases hm.2
    · cases hn

theorem mem_alike_iff (h : IsSign n) {c : Char} : n ∈ alike c ↔ c.toNat = n := by
  simp only [alike, List.mem_flatMap, List.mem_cons, not_mem_capitalsOf h, or_false]
  constructor
  · rintro ⟨m, hm, rfl⟩
    rw [mem_alikeSmallOf_iff h] at hm
    exact (toNat_lowerChar_eq_iff h).mp hm
  · intro hc
    exact ⟨n, (mem_alikeSmallOf_iff h).mpr ((toNat_lowerChar_eq_iff h).mpr hc), rfl⟩

section Blank

theorem smallIn_eq_or (rs : List CapitalRun) (n : Nat) : smallIn rs n = n ∨
    ∃ r ∈ rs, (r.first ≤ n ∧ n ≤ r.last) ∧ smallIn rs n = ((n : Int) + r.shift).toNat := by
  induction rs with
  | nil => exact .inl rfl
  | cons r rs ih =>
      rw [smallIn]
      split
      · exact .inl rfl
      · split
        · next hn => exact .inr ⟨r, List.mem_cons_self, bounds_of_holds hn, rfl⟩
        · exact ih.imp_right fun ⟨r, hr, h⟩ => ⟨r, List.mem_cons_of_mem _ hr, h⟩

theorem apart_of_mem_capitalRuns : ∀ r ∈ capitalRuns, ∀ s ∈ blankSpans,
    (s.2 < r.first ∨ r.last < s.1) ∧ ((s.2 : Int) < r.first + r.shift ∨ r.last + r.shift < (s.1 : Int)) := by
  decide +kernel

theorem isBlank_lowerChar (c : Char) : isBlank (lowerChar c) = isBlank c := by
  rw [lowerChar]
  split
  · next hc =>
      rw [isBlank, isBlank, hc]
      rfl
  · rcases smallIn_eq_or capitalRuns c.toNat with h | ⟨r, hr, hbounds, h⟩
    · rw [h, Char.ofNat_toNat]
    · have hcapital : isBlank c = false := by
        rw [Bool.eq_false_iff]
        intro hblank
        obtain ⟨s, hs, hlo, hhi⟩ := Spans.exists_of_covers hblank
        have := (apart_of_mem_capitalRuns r hr s hs).1
        omega
      rw [hcapital, h, Bool.eq_false_iff]
      intro hblank
      obtain ⟨s, hs, hlo, hhi⟩ := Spans.exists_of_covers hblank
      have := (apart_of_mem_capitalRuns r hr s hs).2
      have := (lt_of_mem_capitalRuns r hr).1
      rcases toNat_ofNat_eq_or ((c.toNat : Int) + r.shift).toNat with hsmall | ⟨hzero, -⟩
      · omega
      · rw [isBlank, hzero] at hblank
        cases hblank

theorem exists_lower_cons (c : Char) (t : Text) : ∃ d u, lower (c :: t) = d :: u ∧ isBlank d = isBlank c := by
  rw [lower, lowerAfter]
  split
  · next hc =>
      refine ⟨'i', _, rfl, ?_⟩
      rw [isBlank, isBlank, hc]
      rfl
  · split
    · next hc =>
        refine ⟨_, _, rfl, ?_⟩
        rw [isBlank, isBlank, hc]
        split <;> rfl
    · exact ⟨_, _, rfl, isBlank_lowerChar c⟩

end Blank

end Onboarding.Text
