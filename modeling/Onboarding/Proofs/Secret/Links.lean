import Onboarding.Proofs.Text.Pieces
import Onboarding.Secret.Value

namespace Onboarding.SecretValue

open Text (allBlank isBlank)

/-- What leads from a keyword to a value: perhaps a quote, and a colon or an equals sign with blanks around it. -/
inductive IsLink : Text → Prop
  | mk {mark gap space : Text} {sign : Char} (hmark : mark = [] ∨ mark = ['"'] ∨ mark = ['\''])
      (hgap : allBlank gap = true) (hsign : sign = ':' ∨ sign = '=') (hspace : allBlank space = true) :
      IsLink (mark ++ (gap ++ sign :: space))

variable {t u link mark gap value rest : Text} {c quote : Char}

theorem isBlank_of_isQuote (h : isQuote c) : isBlank c = false := by
  simp only [isQuote, Bool.or_eq_true, beq_iff_eq] at h
  rcases h with (rfl | rfl) | rfl <;> decide

theorem not_isBareChar_of_isBlank (h : isBlank c = true) : isBareChar c = false := by
  rw [isBareChar, h, Bool.true_or, Bool.true_or, Bool.true_or]
  rfl

theorem not_isBareChar_of_isQuote (h : isQuote c) : isBareChar c = false := by
  rw [isBareChar, h, Bool.or_true, Bool.true_or, Bool.true_or]
  rfl

theorem not_isQuote_of_isBareChar (h : isBareChar c) : isQuote c = false := by
  rw [Bool.eq_false_iff]
  intro hq
  rw [not_isBareChar_of_isQuote hq] at h
  cases h

theorem not_isBlank_of_isBareChar (h : isBareChar c) : isBlank c = false := by
  rw [Bool.eq_false_iff]
  intro hblank
  rw [not_isBareChar_of_isBlank hblank] at h
  cases h

theorem exists_mark (t : Text) : ∃ mark, t = mark ++ skipQuote t ∧
    (mark = [] ∨ mark = ['"'] ∨ mark = ['\'']) := by
  unfold skipQuote
  split
  · next c t =>
      split
      · next hc =>
          rw [Bool.or_eq_true, beq_iff_eq, beq_iff_eq] at hc
          refine ⟨[c], rfl, .inr (hc.imp ?_ ?_)⟩
          · rintro rfl
            rfl
          · rintro rfl
            rfl
      · exact ⟨[], rfl, .inl rfl⟩
  · exact ⟨[], rfl, .inl rfl⟩

theorem exists_isLink_of_behindSeparator? (h : behindSeparator? t = some u) :
    ∃ link, IsLink link ∧ t = link ++ u := by
  obtain ⟨mark, ht, hmark⟩ := exists_mark t
  obtain ⟨gap, hgap, hskip⟩ := Text.exists_eq_append_trimLeft (skipQuote t)
  unfold behindSeparator? at h
  split at h
  · next c rest hc =>
      split at h
      · next hsign =>
          rw [Bool.or_eq_true, beq_iff_eq, beq_iff_eq] at hsign
          obtain rfl := Option.some.inj h
          obtain ⟨space, hspace, hrest⟩ := Text.exists_eq_append_trimLeft rest
          refine ⟨_, .mk hmark hgap hsign hspace, ?_⟩
          rw [List.append_assoc, List.append_assoc, List.cons_append, ← hrest, ← hc, ← hskip, ← ht]
      · cases h
  · cases h

theorem isBlank_of_isSign (h : c = ':' ∨ c = '=') : isBlank c = false := by
  rcases h with rfl | rfl <;> decide

theorem skipQuote_append (hmark : mark = [] ∨ mark = ['"'] ∨ mark = ['\'']) (hgap : allBlank gap = true)
    (hc : c = ':' ∨ c = '=') (t : Text) : skipQuote (mark ++ (gap ++ c :: t)) = gap ++ c :: t := by
  have hbare : skipQuote (gap ++ c :: t) = gap ++ c :: t := by
    cases gap with
    | nil =>
        refine if_neg ?_
        rcases hc with rfl | rfl <;> decide
    | cons d gap =>
        refine if_neg fun hd => ?_
        rw [allBlank, List.all_cons, Bool.and_eq_true] at hgap
        rw [Bool.or_eq_true, beq_iff_eq, beq_iff_eq] at hd
        rcases hd with rfl | rfl
        · exact absurd hgap.1 (by decide)
        · exact absurd hgap.1 (by decide)
  rcases hmark with rfl | rfl | rfl
  · exact hbare
  · rfl
  · rfl

theorem IsLink.behindSeparator?_append (h : IsLink link) (t : Text) :
    behindSeparator? (link ++ t) = some (Text.trimLeft t) := by
  obtain @⟨mark, gap, space, sign, hmark, hgap, hsign, hspace⟩ := h
  have htest : (sign == ':' || sign == '=') = true := by
    rw [Bool.or_eq_true, beq_iff_eq, beq_iff_eq]
    exact hsign
  rw [List.append_assoc, List.append_assoc, List.cons_append, behindSeparator?, skipQuote_append hmark hgap hsign,
    Text.trimLeft_append hgap, Text.trimLeft_cons_of_not (isBlank_of_isSign hsign)]
  dsimp only
  rw [if_pos htest, Text.trimLeft_append hspace]

theorem read?_quoted (hq : isQuote quote) (h : quote ∉ value) (rest : Text) :
    read? (quote :: (value ++ quote :: rest)) = some (value, rest) := by
  have hin : ∀ c ∈ value, decide (c ≠ quote) = true := Text.all_ne_of_not_mem h
  have hstop : (quote :: rest).head?.all fun c => !decide (c ≠ quote) := by simp
  rw [read?, if_pos hq, Text.dropWhile_append_stop hin hstop, Text.takeWhile_append_stop hin hstop]

theorem bare?_append (hne : value ≠ []) (hbare : ∀ c ∈ value, isBareChar c)
    (hstop : rest.head?.all (!isBareChar ·)) : bare? (value ++ rest) = some (value, rest) := by
  have hfirst : (value ++ rest).head?.any isBareChar = true := by
    obtain ⟨c, t, rfl⟩ := List.exists_cons_of_ne_nil hne
    exact hbare c List.mem_cons_self
  rw [bare?, if_pos hfirst, Text.takeWhile_append_stop hbare hstop, Text.dropWhile_append_stop hbare hstop]

theorem read?_bare (hne : value ≠ []) (hbare : ∀ c ∈ value, isBareChar c)
    (hstop : rest.head?.all (!isBareChar ·)) : read? (value ++ rest) = some (value, rest) := by
  have hread := bare?_append hne hbare hstop
  obtain ⟨c, t, rfl⟩ := List.exists_cons_of_ne_nil hne
  rw [List.cons_append] at hread ⊢
  rw [read?, not_isQuote_of_isBareChar (hbare c List.mem_cons_self), if_neg Bool.false_ne_true, hread]

end Onboarding.SecretValue
