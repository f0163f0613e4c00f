import Onboarding.Proofs.Config.Rendering

namespace Onboarding

open Segment (isBareChar)
open Text (allBlank trimLeft)

namespace Segment

theorem read?_cons_of_isBlank {c : Char} (h : Text.isBlank c = true) (t : Text) : read? (c :: t) = none := by
  have hquote : isQuote c = false := by
    rw [Bool.eq_false_iff]
    intro hq
    rw [isBlank_of_isQuote hq] at h
    cases h
  have hbare : isBareChar c = false := by
    rw [Bool.eq_false_iff]
    intro hb
    rw [isBlank_of_isBareChar hb] at h
    cases h
  rw [read?, hquote, if_neg Bool.false_ne_true, hbare, if_neg Bool.false_ne_true]

theorem allIn_append_of_allBlank {gap : Text} (h : allBlank gap = true) (t : Text) :
    allIn (gap ++ t) = allIn t := by
  induction gap with
  | nil => rfl
  | cons c gap ih =>
      rw [allBlank, List.all_cons, Bool.and_eq_true] at h
      rw [List.cons_append, allIn_cons_of_none (read?_cons_of_isBlank h.1 _), ih h.2]

end Segment

namespace Header

/-- A segment, and how it is written. -/
inductive IsSegment : Text → Text → Prop
  | bare {name : Text} (h : Config.Source.isBare name) : IsSegment name name
  | quoted {q : Char} {name : Text} (hq : Segment.isQuote q) (h : q ∉ name) :
      IsSegment name (Config.Source.between q name)

/-- Further segments, each behind a dot that may have blanks around it. -/
inductive AreMore : List Text → Text → Prop
  | nil : AreMore [] []
  | cons {gap gap' name t more : Text} {names : List Text} (hgap : allBlank gap) (hgap' : allBlank gap')
      (ht : IsSegment name t) (h : AreMore names more) :
      AreMore (name :: names) (gap ++ '.' :: (gap' ++ (t ++ more)))

inductive IsPath : List Text → Text → Prop
  | mk {name t more : Text} {names : List Text} (ht : IsSegment name t) (h : AreMore names more) :
      IsPath (name :: names) (t ++ more)

section Reading

variable {name t path more behind rest : Text} {names : List Text}

theorem IsSegment.read?_append (h : IsSegment name t) (hr : behind.head?.all (!isBareChar ·)) :
    Segment.read? (t ++ behind) = some (name, behind) := by
  cases h with
  | bare h =>
      obtain ⟨c, u, rfl, hu⟩ := Config.Source.isBare_iff.mp h
      exact Segment.read?_bare hu hr
  | quoted hq h =>
      rw [Config.Source.between, List.cons_append, List.append_assoc]
      exact Segment.read?_quoted hq h behind

theorem exists_isSegment_of_read? (h : Segment.read? t = some (name, rest)) :
    ∃ u, IsSegment name u ∧ t = u ++ rest := by
  cases t with
  | nil => cases h
  | cons c t =>
      rw [Segment.read?] at h
      split at h
      · next hq =>
          obtain ⟨hname, rfl⟩ := Segment.eq_append_of_upTo? h
          exact ⟨_, .quoted hq hname, by simp [Config.Source.between]⟩
      · split at h
        · next hc =>
            cases h
            refine ⟨_, .bare ?_, List.takeWhile_append_dropWhile.symm⟩
            rw [List.takeWhile_cons_of_pos hc, Config.Source.isBare_iff]
            refine ⟨c, _, rfl, List.forall_mem_cons.mpr ⟨hc, ?_⟩⟩
            exact List.all_eq_true.mp List.all_takeWhile
        · cases h

theorem IsSegment.head?_append (h : IsSegment name t) (rest : Text) :
    ∃ c u, t ++ rest = c :: u ∧ Text.isBlank c = false ∧ c ≠ '[' := by
  cases h with
  | bare h =>
      obtain ⟨c, u, rfl, hu⟩ := Config.Source.isBare_iff.mp h
      have hc := hu c List.mem_cons_self
      exact ⟨c, u ++ rest, rfl, Segment.isBlank_of_isBareChar hc, Segment.ne_of_isBareChar hc (by decide)⟩
  | quoted hq h =>
      refine ⟨_, _, rfl, Segment.isBlank_of_isQuote hq, ?_⟩
      rintro rfl
      cases hq

theorem IsSegment.trimLeft_append (h : IsSegment name t) (rest : Text) : trimLeft (t ++ rest) = t ++ rest := by
  obtain ⟨c, u, he, hc, -⟩ := h.head?_append rest
  rw [he, Text.trimLeft_cons_of_not hc]

theorem AreMore.length_le (h : AreMore names more) : names.length ≤ more.length := by
  induction h with
  | nil => exact Nat.le_refl 0
  | cons _ _ _ _ ih =>
      simp only [List.length_append, List.length_cons]
      omega

theorem AreMore.all_head?_append (h : AreMore names more) (hr : behind.head?.all (!isBareChar ·)) :
    (more ++ behind).head?.all (!isBareChar ·) := by
  cases h with
  | nil => exact hr
  | cons hgap hgap' ht h =>
      apply Segment.all_head?_of_trimLeft
      rw [List.append_assoc, Text.trimLeft_append hgap, List.cons_append, Text.trimLeft_cons_of_not (by decide)]
      rfl

theorem moreSegments_of_head? (h : (trimLeft rest).head? ≠ some '.') (fuel : Nat) :
    moreSegments fuel rest = ([], rest) := by
  cases fuel with
  | zero => rfl
  | succ fuel =>
      rw [moreSegments]
      split
      · next he => exact absurd (congrArg List.head? he) h
      · rfl

/-- The reader takes all segments that are written, whatever follows that does not go on with them. -/
theorem AreMore.moreSegments_append (h : AreMore names more) (hr : behind.head?.all (!isBareChar ·))
    (hdot : (trimLeft behind).head? ≠ some '.') {fuel : Nat} (hf : names.length ≤ fuel) :
    moreSegments fuel (more ++ behind) = (names, behind) := by
  induction h generalizing fuel with
  | nil => exact moreSegments_of_head? hdot fuel
  | @cons gap gap' name t more names hgap hgap' ht hmore ih =>
      rw [List.length_cons] at hf
      obtain ⟨fuel, rfl⟩ : ∃ n, fuel = n + 1 := ⟨fuel - 1, by omega⟩
      have hdot : trimLeft (gap ++ '.' :: (gap' ++ (t ++ more)) ++ behind) =
          '.' :: (gap' ++ (t ++ (more ++ behind))) := by
        rw [List.append_assoc, Text.trimLeft_append hgap, List.cons_append, Text.trimLeft_cons_of_not (by decide),
          List.append_assoc, List.append_assoc]
      have hblank : trimLeft (gap' ++ (t ++ (more ++ behind))) = t ++ (more ++ behind) := by
        rw [Text.trimLeft_append hgap', ht.trimLeft_append]
      have hread := ht.read?_append (hmore.all_head?_append hr)
      have hrest := ih (Nat.le_of_succ_le_succ hf)
      rw [moreSegments]
      simp only [hdot, hblank, hread, hrest]

theorem IsPath.segments?_append (h : IsPath names path) (hr : behind.head?.all (!isBareChar ·))
    (hdot : (trimLeft behind).head? ≠ some '.') : segments? (path ++ behind) = some (names, behind) := by
  obtain @⟨name, t, more, names, ht, hmore⟩ := h
  have hread := ht.read?_append (hmore.all_head?_append hr)
  have hlength : names.length ≤ (more ++ behind).length := by
    rw [List.length_append]
    exact Nat.le_add_right_of_le hmore.length_le
  have hrest := hmore.moreSegments_append hr hdot hlength
  rw [List.append_assoc, segments?]
  simp only [hread, hrest]

theorem exists_areMore_of_moreSegments {fuel : Nat} (h : moreSegments fuel t = (names, behind)) :
    ∃ more, AreMore names more ∧ t = more ++ behind := by
  induction fuel generalizing t names with
  | zero =>
      cases h
      exact ⟨[], .nil, rfl⟩
  | succ fuel ih =>
      rw [moreSegments] at h
      split at h
      · next after hdot =>
          split at h
          · next name rest hread =>
              generalize hnames : moreSegments fuel rest = r at h
              obtain ⟨names', behind'⟩ := r
              cases h
              obtain ⟨more, hmore, rfl⟩ := ih hnames
              obtain ⟨u, hu, hafter⟩ := exists_isSegment_of_read? hread
              obtain ⟨gap, hgap, ht⟩ := Text.exists_eq_append_trimLeft t
              obtain ⟨gap', hgap', hblank⟩ := Text.exists_eq_append_trimLeft after
              rw [hdot] at ht
              rw [hafter] at hblank
              refine ⟨_, .cons hgap hgap' hu hmore, ?_⟩
              rw [ht, hblank]
              simp only [List.append_assoc, List.cons_append]
          · cases h
            exact ⟨[], .nil, rfl⟩
      · cases h
        exact ⟨[], .nil, rfl⟩

theorem exists_isPath_of_segments? (h : segments? t = some (names, behind)) :
    ∃ path, IsPath names path ∧ t = path ++ behind := by
  rw [segments?] at h
  split at h
  · next name rest hread =>
      generalize hnames : moreSegments rest.length rest = r at h
      obtain ⟨names', behind'⟩ := r
      cases h
      obtain ⟨more, hmore, rfl⟩ := exists_areMore_of_moreSegments hnames
      obtain ⟨u, hu, rfl⟩ := exists_isSegment_of_read? hread
      exact ⟨u ++ more, .mk hu hmore, (List.append_assoc u more behind).symm⟩
  · cases h

theorem AreMore.all_head? (h : AreMore names more) : more.head?.all (!isBareChar ·) := by
  have hstop : ([] : Text).head?.all (!isBareChar ·) := rfl
  have hhead := h.all_head?_append hstop
  rwa [List.append_nil] at hhead

theorem AreMore.allIn_eq (h : AreMore names more) : Segment.allIn more = names := by
  induction h with
  | nil =>
      rw [Segment.allIn]
      rfl
  | cons hgap hgap' ht hmore ih =>
      rw [Segment.allIn_append_of_allBlank hgap, Segment.allIn_cons_of_none rfl,
        Segment.allIn_append_of_allBlank hgap', Segment.allIn_of_read? (ht.read?_append hmore.all_head?), ih]

theorem IsPath.allIn_eq (h : IsPath names path) : Segment.allIn path = names := by
  obtain ⟨ht, hmore⟩ := h
  rw [Segment.allIn_of_read? (ht.read?_append hmore.all_head?), hmore.allIn_eq]

theorem IsPath.head?_append (h : IsPath names path) (rest : Text) :
    ∃ c u, path ++ rest = c :: u ∧ Text.isBlank c = false ∧ c ≠ '[' := by
  obtain @⟨name, t, more, names, ht, -⟩ := h
  rw [List.append_assoc]
  exact ht.head?_append (more ++ rest)

theorem IsPath.trimLeft_append (h : IsPath names path) (rest : Text) : trimLeft (path ++ rest) = path ++ rest := by
  obtain ⟨c, u, he, hc, -⟩ := h.head?_append rest
  rw [he, Text.trimLeft_cons_of_not hc]

theorem dropOne_of_head? {c : Char} (h : t.head? ≠ some c) : dropOne c t = t := by
  cases t with
  | nil => rfl
  | cons d t => exact if_neg fun he => h (congrArg some he)

theorem IsPath.name?_brackets (h : IsPath names path) :
    name? ('[' :: (path ++ [']'])) = some (Segment.dotted names) := by
  have hhead : (path ++ [']']).head? ≠ some '[' := by
    obtain ⟨c, u, he, -, hc⟩ := h.head?_append [']']
    rw [he]
    exact fun heq => hc (Option.some.inj heq)
  have hinner : trimLeft (dropOne '[' (path ++ [']'])) = path ++ [']'] := by
    rw [dropOne_of_head? hhead, h.trimLeft_append]
  have hsegments : segments? (path ++ [']']) = some (names, [']']) := h.segments?_append rfl (by decide)
  have hbehind : trimLeft [']'] = [']'] := rfl
  have htail : isTail (dropOne ']' []) = true := rfl
  have htake : (path ++ [']']).take ((path ++ [']']).length - [']'].length) = path := by
    rw [List.length_append, Nat.add_sub_cancel, List.take_left]
  rw [name?, path?, parts?]
  simp only [hinner, hsegments, hbehind, htail, htake, if_true, Option.map_some, h.allIn_eq]

end Reading

end Header

namespace Config.Source

variable {names : List Text} {name : Text}

theorem isSegment_segmentText (h : ¬ ('"' ∈ name ∧ '\'' ∈ name)) : Header.IsSegment name (segmentText name) := by
  unfold segmentText
  split
  · next hb => exact .bare hb
  · obtain ⟨q, hq, hn, he⟩ := quoted_eq h
    rw [he]
    exact .quoted hq hn

def moreText (names : List Text) : Text := names.flatMap fun name => '.' :: segmentText name

theorem join_segmentText (name : Text) (names : List Text) :
    Text.join ['.'] ((name :: names).map segmentText) = segmentText name ++ moreText names := by
  rw [List.map_cons, Text.join_cons, List.flatMap_map]
  rfl

theorem areMore_moreText (h : ∀ name ∈ names, ¬ ('"' ∈ name ∧ '\'' ∈ name)) :
    Header.AreMore names (moreText names) := by
  induction names with
  | nil => exact .nil
  | cons name names ih =>
      rw [List.forall_mem_cons] at h
      have hmore : Header.AreMore (name :: names) ([] ++ '.' :: ([] ++ (segmentText name ++ moreText names))) :=
        .cons rfl rfl (isSegment_segmentText h.1) (ih h.2)
      exact hmore

theorem isPath_join (h : ∀ n ∈ name :: names, ¬ ('"' ∈ n ∧ '\'' ∈ n)) :
    Header.IsPath (name :: names) (Text.join ['.'] ((name :: names).map segmentText)) := by
  rw [List.forall_mem_cons] at h
  rw [join_segmentText]
  exact .mk (isSegment_segmentText h.1) (areMore_moreText h.2)

theorem ofText_headerLine (hne : names ≠ []) (h : ∀ n ∈ names, ¬ ('"' ∈ n ∧ '\'' ∈ n)) :
    Entry.ofText (headerLine names) = .header (Segment.dotted names) := by
  obtain ⟨name, names, rfl⟩ := List.exists_cons_of_ne_nil hne
  have htrim : Text.trim (headerLine (name :: names)) = headerLine (name :: names) :=
    Text.trim_cons_concat (by decide) (by decide) _
  have hcomment : isComment (headerLine (name :: names)) = false := rfl
  have hname : Header.name? (headerLine (name :: names)) = some (Segment.dotted (name :: names)) :=
    (isPath_join h).name?_brackets
  simp only [Entry.ofText, htrim, hcomment, hname]
  rfl

end Config.Source

end Onboarding
