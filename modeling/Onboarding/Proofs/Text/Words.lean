import Onboarding.Text.Basic
import Onboarding.Text.Word

namespace Onboarding.Text

theorem Spans.exists_of_covers {ss : Spans} {n : Nat} (h : ss.covers n = true) :
    ∃ s ∈ ss, s.1 ≤ n ∧ n ≤ s.2 := by
  induction ss with
  | nil => cases h
  | cons s ss ih =>
      obtain ⟨lo, hi⟩ := s
      rw [covers_cons] at h
      split at h
      · cases h
      · next hlo =>
          rw [Bool.or_eq_true, decide_eq_true_eq] at h
          rcases h with h | h
          · exact ⟨(lo, hi), List.mem_cons_self, Nat.le_of_not_lt hlo, h⟩
          · obtain ⟨s, hs, hn⟩ := ih h
            exact ⟨s, List.mem_cons_of_mem _ hs, hn⟩

theorem isWord_of_isBlank {c : Char} (h : isBlank c = true) : isWord c = false := by
  have hall : ∀ s ∈ blankSpans, ∀ n ∈ List.range' s.1 (s.2 + 1 - s.1),
      wordSpans.covers n = false := by
    decide +kernel
  obtain ⟨s, hs, hlo, hhi⟩ := Spans.exists_of_covers h
  exact hall s hs c.toNat (List.mem_range'_1.mpr ⟨hlo, by omega⟩)

theorem isWord_of_isAsciiLetter {c : Char} (h : isAsciiLetter c = true) : isWord c = true := by
  have hall : ∀ n ∈ List.range' 97 26 ++ List.range' 65 26, wordSpans.covers n = true := by
    decide +kernel
  simp only [isAsciiLetter, Bool.or_eq_true, Bool.and_eq_true, decide_eq_true_eq] at h
  refine hall c.toNat (List.mem_append.mpr (h.imp ?_ ?_))
  · rintro ⟨hlo, hhi⟩
    exact List.mem_range'_1.mpr ⟨hlo, Nat.lt_succ_of_le hhi⟩
  · rintro ⟨hlo, hhi⟩
    exact List.mem_range'_1.mpr ⟨hlo, Nat.lt_succ_of_le hhi⟩

end Onboarding.Text
