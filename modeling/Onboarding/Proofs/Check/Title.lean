import Onboarding.Proofs.Check.Fenced
import Onboarding.Proofs.Document.Sections

namespace Onboarding

theorem Text.allBlank_dropWhile {p : Char → Bool} (h : ∀ c, p c = true → isBlank c = true) (t : Text) :
    allBlank (t.dropWhile p) = allBlank t := by
  induction t with
  | nil => rfl
  | cons c t ih =>
      rw [List.dropWhile_cons]
      split
      · next hc =>
          rw [ih, allBlank, allBlank, List.all_cons, h c hc, Bool.true_and]
      · rfl

theorem Text.isBlank_of_beq_space (c : Char) (h : (c == ' ') = true) : isBlank c = true := by
  rw [eq_of_beq h]
  decide

namespace Heading

variable {l : Line}

theorem exists_level_one_iff : (∃ k, ofLine? l = some k ∧ k.level = 1) ↔
    ∃ rest, l.text = '#' :: ' ' :: rest ∧ Text.allBlank rest = false := by
  constructor
  · rintro ⟨k, hk, hlevel⟩
    obtain ⟨rest, ht⟩ := exists_cons_of_ofLine? hk
    simp only [ofLine?, ht, Option.ite_none_right_eq_some, Option.some.injEq, Bool.and_eq_true,
      beq_iff_eq, Bool.not_eq_true'] at hk
    obtain ⟨⟨⟨-, hspace⟩, hblank⟩, rfl⟩ := hk
    cases rest with
    | nil => simp at hspace
    | cons c rest =>
        have hc : c ≠ '#' := by
          rintro rfl
          simp at hlevel
        have hdrop : ('#' :: c :: rest).dropWhile (· == '#') = c :: rest := by simp [hc]
        rw [hdrop] at hspace hblank
        obtain rfl : c = ' ' := by simpa using hspace
        rw [Text.allBlank_dropWhile Text.isBlank_of_beq_space] at hblank
        exact ⟨rest, ht, hblank⟩
  · rintro ⟨rest, ht, hblank⟩
    have hdrop : ('#' :: ' ' :: rest).dropWhile (· == '#') = ' ' :: rest := by simp
    have htake : ('#' :: ' ' :: rest).takeWhile (· == '#') = ['#'] := by simp
    have hrest : Text.allBlank ((' ' :: rest).dropWhile (· == ' ')) = false := by
      rw [Text.allBlank_dropWhile Text.isBlank_of_beq_space]
      exact hblank
    refine ⟨⟨1, titleOf ((' ' :: rest).dropWhile (· == ' ')), l.number⟩, ?_, rfl⟩
    simp only [ofLine?, ht, hdrop, htake, hrest]
    rfl

end Heading

namespace Section

variable {ls before after : List Line} {l : Line}

theorem headings_append_of_allBlank (h : ∀ m ∈ before, Text.allBlank m.text = true) :
    headings (before ++ ls) = headings ls := by
  have hblanks : Line.solid before = [] := List.filter_eq_nil_iff.mpr fun m hm => by simp [h m hm]
  rw [← headings_solid, Line.solid, List.filter_append, ← Line.solid, hblanks, List.nil_append]
  exact headings_solid ls

theorem exists_mem_of_mem_headings {k : Heading} (h : k ∈ headings ls) :
    ∃ m ∈ ls, Heading.ofLine? m = some k := by
  obtain ⟨m, hm, hk⟩ := List.mem_filterMap.mp h
  exact ⟨m, (Fence.proseFrom_sublist false ls).subset hm, hk⟩

theorem head?_headings_iff (hp : ls.Pairwise fun l m => l.number < m.number)
    (hls : ls = before ++ l :: after) (hbefore : ∀ m ∈ before, Text.allBlank m.text = true)
    (k : Heading) :
    (headings ls).head? = some k ∧ k.line = l.number ↔ Heading.ofLine? l = some k := by
  rw [hls] at hp ⊢
  rw [headings_append_of_allBlank hbefore]
  have hafter := (List.pairwise_cons.mp (List.pairwise_append.mp hp).2.1).1
  constructor
  · rintro ⟨hhead, hline⟩
    obtain ⟨m, hm, hk⟩ := exists_mem_of_mem_headings (List.mem_of_head? hhead)
    rcases List.mem_cons.mp hm with rfl | hm
    · exact hk
    · have := hafter m hm
      rw [Heading.line_of_ofLine? hk] at hline
      omega
  · intro hk
    rw [Heading.headings_cons_of_ofLine? hk]
    exact ⟨rfl, Heading.line_of_ofLine? hk⟩

end Section

namespace Agents

def firstLine? (ls : List Line) : Option Line := ls.find? fun l => !Text.allBlank l.text

def Error.isOnTitle : Error → Bool
  | .empty | .noTitle _ => true
  | .secret _ => false

/-- The report says that there is no title. -/
def LacksTitle (r : Report) : Prop := ∃ error : Error, error.isOnTitle ∧ error.diagnostic ∈ r.errors

/-- The first section has level one and begins with the first line that is not blank. -/
def OpensWithSection (ls : List Line) : Prop :=
  ∃ s l, (Section.scan ls).head? = some s ∧ s.level = 1 ∧ firstLine? ls = some l ∧ s.first = l.number

/-- A hash and spaces, then a blank of another kind, and behind it something that is not blank. -/
def IsIndentedTitle (t : Text) : Prop :=
  ∃ n c rest, t = '#' :: (List.replicate (n + 1) ' ' ++ c :: rest) ∧ c ≠ ' ' ∧
    Text.isBlank c = true ∧ Text.allBlank rest = false

theorem isOnTitle_eq (error : Error) :
    error.isOnTitle = (error.diagnostic.message.head? != some 'P') := by
  cases error <;> rfl

theorem isOnTitle_of_mem_titleErrors {ls : List Line} {e : Error} (h : e ∈ titleErrors ls) :
    e.isOnTitle = true := by
  rw [titleErrors] at h
  split at h
  · rw [List.mem_singleton.mp h]
    rfl
  · split at h
    · cases h
    · rw [List.mem_singleton.mp h]
      rfl

theorem lacksTitle_iff (settings : Settings) (s : SecretScanner) (content : Text) :
    LacksTitle (check settings s content) ↔ titleErrors (Line.index content) ≠ [] := by
  constructor
  · rintro ⟨e, he, hmem⟩ hnil
    obtain ⟨f, hf, hfe⟩ := List.mem_map.mp hmem
    rw [errors, hnil, List.nil_append, secretErrors, List.mem_map] at hf
    obtain ⟨m, -, rfl⟩ := hf
    rw [isOnTitle_eq, ← hfe, ← isOnTitle_eq] at he
    cases he
  · intro hne
    obtain ⟨e, he⟩ := List.exists_mem_of_ne_nil _ hne
    exact ⟨e, isOnTitle_of_mem_titleErrors he,
      List.mem_map_of_mem (List.mem_append_left _ he)⟩

theorem titleErrors_eq_nil_iff {ls : List Line} {l : Line} (h : firstLine? ls = some l) :
    titleErrors ls = [] ↔ isTitle l.text = true := by
  rw [firstLine?] at h
  rw [titleErrors, h]
  by_cases ht : isTitle l.text = true <;> simp [ht]

theorem isTitle_iff {t : Text} : isTitle t = true ↔
    ∃ rest, t = '#' :: ' ' :: rest ∧ ∃ c u, rest.dropWhile (· == ' ') = c :: u ∧
      Text.isBlank c = false := by
  constructor
  · intro h
    rw [isTitle.eq_def] at h
    split at h
    · next rest =>
        rw [Bool.and_eq_true, beq_iff_eq] at h
        obtain ⟨hspace, hhead⟩ := h
        cases rest with
        | nil => cases hspace
        | cons d rest =>
            obtain rfl := Option.some.inj hspace
            have hdrop : (' ' :: rest).dropWhile (· == ' ') = rest.dropWhile (· == ' ') := by simp
            rw [hdrop] at hhead
            refine ⟨rest, rfl, ?_⟩
            cases hu : rest.dropWhile (· == ' ') with
            | nil => simp [hu] at hhead
            | cons c u => exact ⟨c, u, rfl, by simpa [hu] using hhead⟩
    · cases h
  · rintro ⟨rest, rfl, c, u, hu, hc⟩
    simp [isTitle, hu, hc]

theorem isIndentedTitle_iff {t : Text} : IsIndentedTitle t ↔
    ∃ rest, t = '#' :: ' ' :: rest ∧ ∃ c u, rest.dropWhile (· == ' ') = c :: u ∧
      Text.isBlank c = true ∧ Text.allBlank u = false := by
  constructor
  · rintro ⟨n, c, u, rfl, hc, hb, hu⟩
    refine ⟨List.replicate n ' ' ++ c :: u, rfl, c, u, ?_, hb, hu⟩
    exact Text.dropWhile_append_stop (by simp) (by simpa using hc)
  · rintro ⟨rest, rfl, c, u, hdrop, hb, hu⟩
    refine ⟨(rest.takeWhile (· == ' ')).length, c, u, ?_, ?_, hb, hu⟩
    · rw [List.replicate_succ, List.cons_append, ← hdrop, ← Text.exists_eq_replicate_append]
    · rintro rfl
      exact absurd (Text.not_of_dropWhile_eq_cons hdrop) (by simp)

theorem exists_allBlank_eq_false_iff {t : Text} :
    (∃ rest, t = '#' :: ' ' :: rest ∧ Text.allBlank rest = false) ↔
      isTitle t = true ∨ IsIndentedTitle t := by
  rw [isTitle_iff, isIndentedTitle_iff, ← exists_or]
  refine exists_congr fun rest => ?_
  rw [← and_or_left]
  refine and_congr_right fun _ => ?_
  rw [← Text.allBlank_dropWhile Text.isBlank_of_beq_space rest]
  cases rest.dropWhile (· == ' ') with
  | nil => simp [Text.allBlank]
  | cons c u =>
      have hfirst (p : Char → Text → Prop) : (∃ d v, c :: u = d :: v ∧ p d v) ↔ p c u := by
        constructor
        · rintro ⟨d, v, he, hp⟩
          obtain ⟨rfl, rfl⟩ := List.cons.inj he
          exact hp
        · exact fun hp => ⟨c, u, rfl, hp⟩
      rw [hfirst fun d _ => Text.isBlank d = false,
        hfirst fun d v => Text.isBlank d = true ∧ Text.allBlank v = false]
      cases hc : Text.isBlank c <;> simp [Text.allBlank, hc]

theorem not_isTitle_of_isIndentedTitle {t : Text} (h : IsIndentedTitle t) : isTitle t = false := by
  rw [Bool.eq_false_iff]
  intro ht
  obtain ⟨rest, rfl, c, u, hu, hc⟩ := isTitle_iff.mp ht
  obtain ⟨rest', he, d, v, hv, hd, -⟩ := isIndentedTitle_iff.mp h
  obtain rfl : rest = rest' := by simpa using he
  obtain ⟨rfl, -⟩ := List.cons.inj (hu.symm.trans hv)
  rw [hc] at hd
  cases hd

theorem opensWithSection_iff {content : Text} {l : Line}
    (h : firstLine? (Line.index content) = some l) :
    OpensWithSection (Line.index content) ↔ isTitle l.text = true ∨ IsIndentedTitle l.text := by
  obtain ⟨-, before, after, hls, hbefore⟩ := List.find?_eq_some_iff_append.mp h
  have hp : (Line.index content).Pairwise fun l m => l.number < m.number :=
    Line.pairwise_numberFrom 1 _
  have hhead := Section.head?_headings_iff hp hls (by simpa using hbefore)
  have hmap : (Section.scan (Line.index content)).head?.map Section.heading =
      (Section.headings (Line.index content)).head? := by
    rw [← List.head?_map, Section.map_heading_scan]
  rw [← exists_allBlank_eq_false_iff, ← Heading.exists_level_one_iff]
  constructor
  · rintro ⟨s, m, hs, hlevel, hm, hfirst⟩
    obtain rfl := Option.some.inj (h.symm.trans hm)
    rw [hs] at hmap
    exact ⟨s.heading, (hhead s.heading).mp ⟨hmap.symm, hfirst⟩, hlevel⟩
  · rintro ⟨k, hk, hlevel⟩
    obtain ⟨hfirst, hline⟩ := (hhead k).mpr hk
    rw [hfirst] at hmap
    obtain ⟨s, hs, rfl⟩ := Option.map_eq_some_iff.mp hmap
    exact ⟨s, l, hs, hlevel, h, hline⟩

/-- The title is reported to be missing just where the sections do not begin with one of level one in the first
line that is not blank, and besides where the text of that heading begins with a blank that is no space. -/
theorem lacksTitle_check_iff (settings : Settings) (s : SecretScanner) {content : Text} {l : Line}
    (h : firstLine? (Line.index content) = some l) :
    (¬ IsIndentedTitle l.text →
      (¬ LacksTitle (check settings s content) ↔ OpensWithSection (Line.index content))) ∧
    (IsIndentedTitle l.text →
      LacksTitle (check settings s content) ∧ OpensWithSection (Line.index content)) := by
  rw [lacksTitle_iff, opensWithSection_iff h, ne_eq, titleErrors_eq_nil_iff h, Decidable.not_not]
  constructor
  · intro hplain
    rw [or_iff_left hplain]
  · intro hindented
    rw [not_isTitle_of_isIndentedTitle hindented]
    exact ⟨Bool.false_ne_true, .inr hindented⟩

/-- A title behind a blank line, and one with a tab before its text. -/
theorem lacksTitle_check_titles :
    (firstLine? (Line.index "\n#  App".toList) = some ⟨2, "#  App".toList⟩ ∧
      ¬ LacksTitle (check Settings.default SecretScanner.default "\n#  App".toList) ∧
        OpensWithSection (Line.index "\n#  App".toList)) ∧
    (firstLine? (Line.index "# \tApp".toList) = some ⟨1, "# \tApp".toList⟩ ∧
      LacksTitle (check Settings.default SecretScanner.default "# \tApp".toList) ∧
        OpensWithSection (Line.index "# \tApp".toList)) := by
  have hplain : firstLine? (Line.index "\n#  App".toList) = some ⟨2, "#  App".toList⟩ := by decide
  have htab : firstLine? (Line.index "# \tApp".toList) = some ⟨1, "# \tApp".toList⟩ := by decide
  have htitle : isTitle "#  App".toList = true := by decide
  have hnot : ¬ IsIndentedTitle "#  App".toList := by
    intro h
    rw [not_isTitle_of_isIndentedTitle h] at htitle
    cases htitle
  have hindented : IsIndentedTitle "# \tApp".toList :=
    ⟨0, '\t', "App".toList, rfl, by decide, by decide, by decide⟩
  have hopens := (opensWithSection_iff hplain).mpr (.inl htitle)
  have hagree := (lacksTitle_check_iff Settings.default SecretScanner.default hplain).1 hnot
  exact ⟨⟨hplain, hagree.mpr hopens, hopens⟩, htab,
    (lacksTitle_check_iff Settings.default SecretScanner.default htab).2 hindented⟩

/-- The title is reported to be missing from a document that has one, with a tab before its text. -/
theorem not_forall_lacksTitle_iff :
    ¬ ∀ (settings : Settings) (s : SecretScanner) (content : Text),
      (∃ l ∈ Line.index content, Text.allBlank l.text = false) →
        (¬ LacksTitle (check settings s content) ↔ OpensWithSection (Line.index content)) := by
  intro h
  have hfirst : firstLine? (Line.index "# \tUse $deploy".toList) = some ⟨1, "# \tUse $deploy".toList⟩ := by
    decide
  have hindented : IsIndentedTitle "# \tUse $deploy".toList :=
    ⟨0, '\t', "Use $deploy".toList, rfl, by decide, by decide, by decide⟩
  have hiff := h Settings.default SecretScanner.default "# \tUse $deploy".toList (by decide)
  rw [lacksTitle_iff, opensWithSection_iff hfirst, ne_eq, titleErrors_eq_nil_iff hfirst,
    not_isTitle_of_isIndentedTitle hindented] at hiff
  exact hiff.mpr (.inr hindented) Bool.false_ne_true

end Agents

end Onboarding
