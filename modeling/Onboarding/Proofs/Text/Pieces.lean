import Onboarding.Text.Basic

namespace Onboarding.Text

theorem join_cons (sep piece : Text) (pieces : List Text) :
    join sep (piece :: pieces) = piece ++ pieces.flatMap (sep ++ ·) := by
  induction pieces generalizing piece with
  | nil => simp [join, List.intercalate, List.intersperse]
  | cons next pieces ih =>
      rw [List.flatMap_cons, List.append_assoc sep, ← ih]
      simp [join, List.intercalate, List.intersperse]

theorem splitOn_of_not_mem {sep : Char} {t : Text} (h : sep ∉ t) : splitOn sep t = [t] := by
  induction t with
  | nil => rfl
  | cons c t ih =>
      rw [List.mem_cons, not_or] at h
      rw [splitOn, if_neg (Ne.symm h.1), ih h.2]

theorem splitOn_append_sep (sep : Char) (t rest : Text) :
    splitOn sep (t ++ sep :: rest) = splitOn sep t ++ splitOn sep rest := by
  induction t with
  | nil => simp [splitOn]
  | cons c t ih =>
      by_cases hc : c = sep
      · rw [List.cons_append, splitOn, if_pos hc, ih, splitOn, if_pos hc, List.cons_append]
      · rw [List.cons_append, splitOn, if_neg hc, ih, splitOn, if_neg hc]
        cases hp : splitOn sep t with
        | nil => exact absurd hp (splitOn_ne_nil sep t)
        | cons piece pieces => rfl

theorem splitOn_append_cons {sep : Char} {t : Text} (h : sep ∉ t) (rest : Text) :
    splitOn sep (t ++ sep :: rest) = t :: splitOn sep rest := by
  rw [splitOn_append_sep, splitOn_of_not_mem h, List.singleton_append]

theorem append_cons_inj {sep : Char} {t t' rest rest' : Text} (h : sep ∉ t) (h' : sep ∉ t')
    (he : t ++ sep :: rest = t' ++ sep :: rest') : t = t' ∧ rest = rest' := by
  have hpieces := congrArg (splitOn sep) he
  rw [splitOn_append_cons h, splitOn_append_cons h'] at hpieces
  obtain ⟨rfl, -⟩ := List.cons.inj hpieces
  exact ⟨rfl, (List.cons.inj (List.append_cancel_left he)).2⟩

theorem flatMap_splitOn {sep : Char} {ts : List Text} (h : ∀ t ∈ ts, sep ∉ t) : ts.flatMap (splitOn sep) = ts := by
  induction ts with
  | nil => rfl
  | cons t ts ih =>
      rw [List.forall_mem_cons] at h
      rw [List.flatMap_cons, splitOn_of_not_mem h.1, ih h.2, List.singleton_append]

theorem join_cons_cons (sep : Char) (piece next : Text) (pieces : List Text) :
    join [sep] (piece :: next :: pieces) = piece ++ sep :: join [sep] (next :: pieces) := by
  rw [join_cons, List.flatMap_cons, join_cons]
  rfl

theorem join_concat (sep : Text) (pieces : List Text) (last : Text) :
    ∃ t, join sep (pieces ++ [last]) = t ++ last := by
  cases pieces with
  | nil => exact ⟨[], by rw [List.nil_append, join_cons, List.flatMap_nil, List.append_nil]; rfl⟩
  | cons piece pieces =>
      refine ⟨piece ++ (pieces.flatMap (sep ++ ·) ++ sep), ?_⟩
      rw [List.cons_append, join_cons, List.flatMap_append, List.flatMap_singleton]
      simp only [List.append_assoc]

theorem splitOn_join_cons (sep : Char) (t : Text) (ts : List Text) :
    splitOn sep (join [sep] (t :: ts)) = splitOn sep t ++ ts.flatMap (splitOn sep) := by
  induction ts generalizing t with
  | nil => rw [join_cons, List.flatMap_nil, List.append_nil, List.flatMap_nil, List.append_nil]
  | cons next ts ih => rw [join_cons_cons, splitOn_append_sep, ih, List.flatMap_cons]

theorem splitOn_join_concat {sep : Char} {pieces : List Text} (h : ∀ piece ∈ pieces, sep ∉ piece)
    (last : Text) : splitOn sep (join [sep] (pieces ++ [last])) = pieces ++ splitOn sep last := by
  induction pieces with
  | nil => rw [List.nil_append, join_cons, List.flatMap_nil, List.append_nil, List.nil_append]
  | cons piece pieces ih =>
      rw [List.forall_mem_cons] at h
      have hjoin : join [sep] (piece :: (pieces ++ [last])) =
          piece ++ sep :: join [sep] (pieces ++ [last]) := by
        cases pieces with
        | nil => exact join_cons_cons sep piece last []
        | cons next pieces => exact join_cons_cons sep piece next (pieces ++ [last])
      rw [List.cons_append, hjoin, splitOn_append_cons h.1, ih h.2, List.cons_append]

/-- Pieces that are joined by a separator which none of them holds are found again. -/
theorem splitOn_join {sep : Char} {pieces : List Text} (h : ∀ piece ∈ pieces, sep ∉ piece)
    (hne : pieces ≠ []) : splitOn sep (join [sep] pieces) = pieces := by
  obtain ⟨front, last, rfl⟩ := List.eq_nil_or_concat pieces |>.resolve_left hne
  rw [List.concat_eq_append] at h ⊢
  rw [splitOn_join_concat fun piece hp => h piece (List.mem_append_left _ hp),
    splitOn_of_not_mem (h last (List.mem_append_right _ List.mem_cons_self))]

theorem not_mem_of_mem_splitOn {sep : Char} {t piece : Text} (h : piece ∈ splitOn sep t) :
    sep ∉ piece := by
  induction t generalizing piece with
  | nil =>
      rw [List.mem_singleton.mp h]
      exact List.not_mem_nil
  | cons c t ih =>
      rw [splitOn] at h
      split at h
      · rcases List.mem_cons.mp h with rfl | h
        · exact List.not_mem_nil
        · exact ih h
      · next hc =>
          split at h
          · rw [List.mem_singleton.mp h]
            exact List.not_mem_cons_of_ne_of_not_mem (Ne.symm hc) List.not_mem_nil
          · next first pieces hp =>
              rw [hp] at ih
              rcases List.mem_cons.mp h with rfl | h
              · exact List.not_mem_cons_of_ne_of_not_mem (Ne.symm hc) (ih List.mem_cons_self)
              · exact ih (List.mem_cons_of_mem _ h)

theorem subset_of_mem_splitOn {sep : Char} {t piece : Text} (h : piece ∈ splitOn sep t) : piece ⊆ t := by
  induction t generalizing piece with
  | nil =>
      rw [List.mem_singleton.mp h]
      exact List.nil_subset _
  | cons c t ih =>
      rw [splitOn] at h
      split at h
      · rcases List.mem_cons.mp h with rfl | h
        · exact List.nil_subset _
        · exact List.subset_cons_of_subset c (ih h)
      · split at h
        · rw [List.mem_singleton.mp h]
          exact List.cons_subset_cons c (List.nil_subset _)
        · next first pieces hp =>
            rw [hp] at ih
            rcases List.mem_cons.mp h with rfl | h
            · exact List.cons_subset_cons c (ih List.mem_cons_self)
            · exact List.subset_cons_of_subset c (ih (List.mem_cons_of_mem _ h))

theorem length_splitOn (sep : Char) (t : Text) : (splitOn sep t).length = t.count sep + 1 := by
  induction t with
  | nil => rfl
  | cons c t ih =>
      by_cases hc : c = sep
      · rw [splitOn, if_pos hc, hc, List.length_cons, ih, List.count_cons_self]
      · rw [splitOn, if_neg hc, List.count_cons_of_ne hc]
        cases hp : splitOn sep t with
        | nil => exact absurd hp (splitOn_ne_nil sep t)
        | cons piece pieces => rw [← ih, hp, List.length_cons, List.length_cons]

section Stop

variable {α : Type} {test : α → Bool} {t rest : List α}

theorem takeWhile_append_of_head? (hr : rest.head?.all (!test ·)) (t : List α) :
    (t ++ rest).takeWhile test = t.takeWhile test := by
  induction t with
  | nil =>
      cases rest with
      | nil => rfl
      | cons c rest =>
          have hc : test c = false := by simpa using hr
          simp [hc]
  | cons d t ih => rw [List.cons_append, List.takeWhile_cons, List.takeWhile_cons, ih]

theorem takeWhile_append_stop (ht : ∀ c ∈ t, test c) (hr : rest.head?.all (!test ·)) :
    (t ++ rest).takeWhile test = t := by
  have hrest := takeWhile_append_of_head? hr []
  rw [List.nil_append, List.takeWhile_nil] at hrest
  rw [List.takeWhile_append_of_pos ht, hrest, List.append_nil]

theorem dropWhile_append_stop (ht : ∀ c ∈ t, test c) (hr : rest.head?.all (!test ·)) :
    (t ++ rest).dropWhile test = rest := by
  rw [List.dropWhile_append_of_pos ht]
  cases rest with
  | nil => rfl
  | cons c rest =>
      have hc : test c = false := by simpa using hr
      rw [List.dropWhile_cons, hc, if_neg Bool.false_ne_true]

theorem dropWhile_append_of_cons {c : α} (h : t.dropWhile test = c :: rest) (more : List α) :
    (t ++ more).dropWhile test = c :: (rest ++ more) ∧
      (t ++ more).takeWhile test = t.takeWhile test := by
  induction t with
  | nil => cases h
  | cons d t ih =>
      rw [List.dropWhile_cons] at h
      rw [List.cons_append, List.dropWhile_cons, List.takeWhile_cons, List.takeWhile_cons]
      split at h
      · next hd =>
          rw [if_pos hd, if_pos hd, if_pos hd, (ih h).2]
          exact ⟨(ih h).1, rfl⟩
      · next hd =>
          cases h
          rw [if_neg hd, if_neg hd, if_neg hd]
          exact ⟨rfl, rfl⟩

theorem exists_append_stop (test : α → Bool) (t : List α) :
    ∃ front rest, t = front ++ rest ∧ (∀ c ∈ front, test c) ∧ rest.head?.all (!test ·) := by
  induction t with
  | nil => exact ⟨[], [], rfl, by simp, rfl⟩
  | cons c t ih =>
      by_cases hc : test c
      · obtain ⟨front, rest, rfl, hfront, hrest⟩ := ih
        exact ⟨c :: front, rest, rfl, List.forall_mem_cons.mpr ⟨hc, hfront⟩, hrest⟩
      · exact ⟨[], c :: t, rfl, by simp, by simpa using hc⟩

theorem all_head?_dropWhile (test : α → Bool) (t : List α) : (t.dropWhile test).head?.all (!test ·) := by
  have hfirst := List.head?_dropWhile_not test t
  cases h : (t.dropWhile test).head? with
  | none => rfl
  | some c => simpa [h] using hfirst

theorem not_of_dropWhile_eq_cons {c : α} (h : t.dropWhile test = c :: rest) : test c = false := by
  have hfirst := all_head?_dropWhile test t
  rw [h] at hfirst
  simpa using hfirst

end Stop

theorem takeWhile_beq (c : Char) (t : Text) :
    t.takeWhile (· == c) = List.replicate (t.takeWhile (· == c)).length c :=
  List.eq_replicate_iff.mpr
    ⟨rfl, fun d hd => eq_of_beq (List.all_eq_true.mp List.all_takeWhile d hd)⟩

theorem exists_eq_replicate_append (c : Char) (t : Text) :
    t = List.replicate (t.takeWhile (· == c)).length c ++ t.dropWhile (· == c) := by
  rw [← takeWhile_beq, List.takeWhile_append_dropWhile]

theorem head?_dropWhile_ne (c : Char) (t : Text) : (t.dropWhile (· == c)).head? ≠ some c := by
  intro h
  have hfirst := all_head?_dropWhile (· == c) t
  simp [h] at hfirst

theorem dropWhile_replicate_append {c : Char} {n : Nat} {rest : Text} (h : rest.head? ≠ some c) :
    (List.replicate n c ++ rest).dropWhile (· == c) = rest ∧
      (List.replicate n c ++ rest).takeWhile (· == c) = List.replicate n c := by
  have hin : ∀ d ∈ List.replicate n c, (d == c) = true := fun d hd => by
    rw [List.eq_of_mem_replicate hd, beq_self_eq_true]
  have hstop : rest.head?.all fun d => !(d == c) := by
    cases rest with
    | nil => rfl
    | cons d rest => simpa using h
  exact ⟨dropWhile_append_stop hin hstop, takeWhile_append_stop hin hstop⟩

theorem replicate_append_inj {c : Char} {m n : Nat} {t u : Text} (ht : t.head? ≠ some c) (hu : u.head? ≠ some c)
    (h : List.replicate m c ++ t = List.replicate n c ++ u) : m = n ∧ t = u := by
  obtain ⟨htrest, htfront⟩ := dropWhile_replicate_append (n := m) ht
  obtain ⟨hurest, hufront⟩ := dropWhile_replicate_append (n := n) hu
  rw [h] at htrest htfront
  have hlength := congrArg List.length (htfront.symm.trans hufront)
  rw [List.length_replicate, List.length_replicate] at hlength
  exact ⟨hlength, htrest.symm.trans hurest⟩

theorem all_ne_of_not_mem {q : Char} {t : Text} (h : q ∉ t) : ∀ c ∈ t, decide (c ≠ q) = true := by
  intro c hc
  rw [decide_eq_true_eq]
  rintro rfl
  exact h hc

theorem trimLeft_cons_of_not {c : Char} (h : isBlank c = false) (t : Text) :
    trimLeft (c :: t) = c :: t := by
  rw [trimLeft_cons, h, if_neg Bool.false_ne_true]

theorem trimLeft_eq_nil_iff {t : Text} : trimLeft t = [] ↔ allBlank t = true := by
  induction t with
  | nil => simp [allBlank]
  | cons c t ih => by_cases hc : isBlank c = true <;> simp_all [trimLeft_cons, allBlank]

theorem allBlank_of_subset {t u : Text} (h : u ⊆ t) (ht : allBlank t = true) : allBlank u = true :=
  List.all_eq_true.mpr fun c hc => List.all_eq_true.mp ht c (h hc)

theorem not_mem_of_allBlank {t : Text} {c : Char} (h : allBlank t = true) (hc : isBlank c = false) : c ∉ t := by
  intro hmem
  rw [List.all_eq_true.mp h c hmem] at hc
  cases hc

theorem allBlank_append {t u : Text} (ht : allBlank t = true) (hu : allBlank u = true) :
    allBlank (t ++ u) = true := by
  rw [allBlank, List.all_append, Bool.and_eq_true]
  exact ⟨ht, hu⟩

theorem trimLeft_append_of_ne_nil {t : Text} (h : trimLeft t ≠ []) (more : Text) :
    trimLeft (t ++ more) = trimLeft t ++ more := by
  obtain ⟨c, u, hu⟩ := List.exists_cons_of_ne_nil h
  rw [hu]
  exact (dropWhile_append_of_cons hu more).1

theorem trimLeft_append {gap : Text} (h : allBlank gap = true) (t : Text) :
    trimLeft (gap ++ t) = trimLeft t := by
  rw [trimLeft, List.dropWhile_append_of_pos (List.all_eq_true.mp h), trimLeft]

theorem trimRight_append {gap : Text} (h : allBlank gap = true) (t : Text) :
    trimRight (t ++ gap) = trimRight t := by
  have hgap : ∀ c ∈ gap.reverse, isBlank c = true := by
    simpa [allBlank] using h
  rw [trimRight, List.reverse_append, List.dropWhile_append_of_pos hgap, trimRight]

theorem head?_append_cons_ne {gap : Text} {c d : Char} (h : allBlank gap = true)
    (hc : isBlank c = false) (hd : d ≠ c) (rest : Text) : (gap ++ d :: rest).head? ≠ some c := by
  cases gap with
  | nil => exact fun he => hd (Option.some.inj he)
  | cons e gap =>
      intro he
      obtain rfl : e = c := Option.some.inj he
      simp [allBlank, hc] at h

theorem trim_cons_concat {c d : Char} (hc : isBlank c = false) (hd : isBlank d = false) (t : Text) :
    trim (c :: (t ++ [d])) = c :: (t ++ [d]) := by
  rw [trim, trimLeft_cons_of_not hc, ← List.cons_append, trimRight_concat, hd,
    if_neg Bool.false_ne_true]

def IsTrimmed (t : Text) : Prop := t.head?.all (!isBlank ·) ∧ t.getLast?.all (!isBlank ·)

instance (t : Text) : Decidable (IsTrimmed t) := inferInstanceAs (Decidable (_ ∧ _))

theorem IsTrimmed.trimLeft_eq {t : Text} (h : IsTrimmed t) : trimLeft t = t := by
  cases t with
  | nil => rfl
  | cons c t => exact trimLeft_cons_of_not (by simpa using h.1) t

theorem IsTrimmed.trimRight_eq {t : Text} (h : IsTrimmed t) : trimRight t = t := by
  rcases List.eq_nil_or_concat t with rfl | ⟨u, c, rfl⟩
  · rfl
  · have hc : isBlank c = false := by simpa using h.2
    rw [List.concat_eq_append, trimRight_concat, hc, if_neg Bool.false_ne_true]

theorem IsTrimmed.trim_eq {t : Text} (h : IsTrimmed t) : trim t = t := by
  rw [trim, h.trimLeft_eq, h.trimRight_eq]

theorem trim_append {t front back : Text} (h : IsTrimmed t) (hfront : allBlank front = true)
    (hback : allBlank back = true) : trim (front ++ (t ++ back)) = t := by
  cases t with
  | nil =>
      have hnil : trimLeft back = [] := trimLeft_eq_nil_iff.mpr hback
      rw [trim, trimLeft_append hfront, List.nil_append, hnil, trimRight_nil]
  | cons c t =>
      have hc : isBlank c = false := by simpa using h.1
      have htrim := h.trim_eq
      rw [trim, trimLeft_cons_of_not hc] at htrim
      rw [trim, trimLeft_append hfront, List.cons_append, trimLeft_cons_of_not hc,
        ← List.cons_append, trimRight_append hback, htrim]

theorem exists_eq_append_trimLeft (t : Text) : ∃ front, allBlank front = true ∧ t = front ++ trimLeft t :=
  ⟨t.takeWhile isBlank, List.all_takeWhile, List.takeWhile_append_dropWhile.symm⟩

theorem exists_eq_trimRight_append (t : Text) : ∃ back, allBlank back = true ∧ t = trimRight t ++ back := by
  refine ⟨(t.reverse.takeWhile isBlank).reverse, ?_, ?_⟩
  · rw [allBlank, List.all_reverse]
    exact List.all_takeWhile
  · rw [trimRight, ← List.reverse_append, List.takeWhile_append_dropWhile, List.reverse_reverse]

theorem trimRight_cons_of_not {c : Char} (h : isBlank c = false) (t : Text) :
    ∃ u, trimRight (c :: t) = c :: u := by
  obtain ⟨back, hback, ht⟩ := exists_eq_trimRight_append (c :: t)
  cases hu : trimRight (c :: t) with
  | nil =>
      rw [hu, List.nil_append] at ht
      rw [← ht, allBlank, List.all_cons, h] at hback
      cases hback
  | cons d u =>
      rw [hu] at ht
      obtain ⟨rfl, -⟩ := List.cons.inj ht
      exact ⟨u, rfl⟩

theorem exists_eq_append_trim (t : Text) :
    ∃ front back, allBlank front = true ∧ allBlank back = true ∧ t = front ++ (trim t ++ back) := by
  obtain ⟨front, hfrontBlank, hfront⟩ := exists_eq_append_trimLeft t
  obtain ⟨back, hbackBlank, hback⟩ := exists_eq_trimRight_append (trimLeft t)
  refine ⟨front, back, hfrontBlank, hbackBlank, ?_⟩
  rw [trim, ← hback]
  exact hfront

theorem trim_subset (t : Text) : trim t ⊆ t := by
  obtain ⟨front, back, -, -, he⟩ := exists_eq_append_trim t
  intro c hc
  rw [he]
  exact List.mem_append_right _ (List.mem_append_left _ hc)

theorem count_trim {c : Char} (h : isBlank c = false) (t : Text) : (trim t).count c = t.count c := by
  obtain ⟨front, back, hfront, hback, he⟩ := exists_eq_append_trim t
  have hcount := congrArg (List.count c) he
  rw [List.count_append, List.count_append, List.count_eq_zero.mpr (not_mem_of_allBlank hfront h),
    List.count_eq_zero.mpr (not_mem_of_allBlank hback h)] at hcount
  omega

theorem all_getLast?_trimRight (t : Text) : (trimRight t).getLast?.all (!isBlank ·) := by
  rw [trimRight, List.getLast?_reverse]
  exact all_head?_dropWhile isBlank t.reverse

theorem head?_trimRight {t : Text} (h : t.head?.all (!isBlank ·)) :
    (trimRight t).head?.all (!isBlank ·) := by
  have hprefix : trimRight t <+: t := by
    rw [trimRight, ← List.reverse_suffix, List.reverse_reverse]
    exact List.dropWhile_suffix _
  obtain ⟨rest, hrest⟩ := hprefix
  cases hu : trimRight t with
  | nil => rfl
  | cons c u =>
      rw [hu] at hrest
      rw [← hrest] at h
      exact h

theorem isTrimmed_trim (t : Text) : IsTrimmed (trim t) :=
  ⟨head?_trimRight (all_head?_dropWhile isBlank t), all_getLast?_trimRight (trimLeft t)⟩

theorem getLast?_append_cons_ne {c d : Char} (hc : c ≠ d) (hd : isBlank d = true) (front : Text)
    {t : Text} (h : IsTrimmed t) : (front ++ c :: t).getLast? ≠ some d := by
  rcases List.eq_nil_or_concat t with rfl | ⟨u, e, rfl⟩
  · rw [List.getLast?_concat]
    exact fun he => hc (Option.some.inj he)
  · have he : isBlank e = false := by simpa using h.2
    rw [List.concat_eq_append, ← List.cons_append, ← List.append_assoc, List.getLast?_concat]
    rintro hed
    rw [Option.some.inj hed, hd] at he
    cases he

theorem trim_cons_of_isBlank {c : Char} (h : isBlank c = true) (t : Text) :
    trim (c :: t) = trim t := by
  rw [trim, trimLeft_cons, if_pos h, trim]

theorem dropEnd_subset (c : Char) (t : Text) : dropEnd c t ⊆ t := by
  rw [dropEnd]
  split
  · exact (List.dropLast_prefix t).subset
  · exact List.Subset.refl _

theorem dropEnd_cons_of_ne {c d : Char} (h : d ≠ c) (t : Text) : dropEnd c (d :: t) = d :: dropEnd c t := by
  cases t with
  | nil => exact if_neg fun he => h (Option.some.inj he)
  | cons e t =>
      rw [dropEnd, dropEnd, List.getLast?_cons_cons, List.dropLast_cons_cons]
      split <;> rfl

theorem dropEnd_concat_of_ne {c d : Char} (h : d ≠ c) (t : Text) :
    dropEnd c (t ++ [d]) = t ++ [d] := by
  rw [dropEnd, List.getLast?_concat, if_neg (fun he => h (Option.some.inj he))]

theorem trim_concat {c : Char} (h : isBlank c = true) (t : Text) : trim (t ++ [c]) = trim t := by
  by_cases ht : allBlank t = true
  · have hall : trimLeft (t ++ [c]) = [] := by
      rw [trimLeft_append ht, trimLeft_cons, if_pos h, trimLeft_nil]
    rw [trim, hall, trim, trimLeft_eq_nil_iff.mpr ht]
  · obtain ⟨front, rest, rfl, hfront, hrest⟩ := exists_append_stop isBlank t
    have hblank : allBlank front = true := List.all_eq_true.mpr hfront
    cases rest with
    | nil => exact absurd (by simpa using hblank) ht
    | cons d rest =>
        have hd : isBlank d = false := by simpa using hrest
        rw [trim, trim, List.append_assoc, trimLeft_append hblank, trimLeft_append hblank,
          List.cons_append, trimLeft_cons_of_not hd, trimLeft_cons_of_not hd, ← List.cons_append,
          trimRight_concat, if_pos h]

theorem trim_dropEnd {c : Char} (h : isBlank c = true) (t : Text) : trim (dropEnd c t) = trim t := by
  rcases List.eq_nil_or_concat t with rfl | ⟨u, d, rfl⟩
  · rfl
  · rw [List.concat_eq_append]
    by_cases hd : d = c
    · subst hd
      rw [dropEnd, if_pos (List.getLast?_concat), List.dropLast_concat, trim_concat h]
    · rw [dropEnd_concat_of_ne hd]

end Onboarding.Text
