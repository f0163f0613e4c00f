import Onboarding.Document.Section
import Onboarding.Proofs.Document.Lines

namespace Onboarding

namespace Fence

theorem proseFrom_sublist (inside : Bool) (ls : List Line) : (proseFrom inside ls).Sublist ls := by
  induction ls generalizing inside with
  | nil => exact .slnil
  | cons l ls ih =>
      rw [proseFrom]
      split
      · exact (ih _).cons l
      · split
        · exact (ih _).cons l
        · exact (ih _).cons_cons l

end Fence

namespace Heading

variable {l : Line} {k : Heading}

theorem line_of_ofLine? (h : ofLine? l = some k) : k.line = l.number := by
  simp only [ofLine?, Option.ite_none_right_eq_some, Option.some.injEq] at h
  rw [← h.2]

theorem exists_cons_of_ofLine? (h : ofLine? l = some k) : ∃ rest, l.text = '#' :: rest := by
  simp only [ofLine?, Option.ite_none_right_eq_some, Bool.and_eq_true, decide_eq_true_eq] at h
  cases ht : l.text with
  | nil => simp [ht] at h
  | cons c rest =>
      by_cases hc : c = '#'
      · exact ⟨rest, by rw [hc]⟩
      · simp [ht, hc] at h

theorem isFence_of_ofLine? (h : ofLine? l = some k) : Fence.isFence l.text = false := by
  obtain ⟨rest, ht⟩ := exists_cons_of_ofLine? h
  rw [ht, Fence.isFence, Text.trimLeft_cons_of_not (by decide)]
  rfl

theorem prose_cons_of_ofLine? (h : ofLine? l = some k) (ls : List Line) :
    Fence.prose (l :: ls) = l :: Fence.prose ls := by
  rw [Fence.prose, Fence.proseFrom, isFence_of_ofLine? h]
  rfl

theorem headings_cons_of_ofLine? (h : ofLine? l = some k) (ls : List Line) :
    Section.headings (l :: ls) = k :: Section.headings ls := by
  rw [Section.headings, prose_cons_of_ofLine? h, List.filterMap_cons, h]
  rfl

end Heading

namespace Section

/-- Headings in the order of their lines, which are counted from one and end with `last`. -/
structure InOrder (last : Nat) (hs : List Heading) : Prop where
  pairwise : hs.Pairwise fun h k => h.line < k.line
  pos : ∀ h ∈ hs, 0 < h.line
  le_last : ∀ h ∈ hs, h.line ≤ last

variable {last level n : Nat} {hs later : List Heading}

theorem InOrder.tail {h : Heading} (ho : InOrder last (h :: hs)) : InOrder last hs :=
  ⟨(List.pairwise_cons.mp ho.pairwise).2, fun k hk => ho.pos k (List.mem_cons_of_mem h hk),
    fun k hk => ho.le_last k (List.mem_cons_of_mem h hk)⟩

theorem InOrder.of_append {above : List Heading} (ho : InOrder last (above ++ hs)) :
    InOrder last hs := by
  induction above with
  | nil => exact ho
  | cons h above ih => exact ih ho.tail

/-- A section reaches a line unless a heading that is no deeper stands there or above. -/
theorem le_lastLine_iff (ho : InOrder last later) :
    n ≤ lastLine last level later ↔ n ≤ last ∧ ∀ k ∈ later, k.level ≤ level → n < k.line := by
  unfold lastLine
  split
  · next k hk =>
      obtain ⟨hlevel, deeper, rest, rfl, hdeeper⟩ := List.find?_eq_some_iff_append.mp hk
      have hmem : k ∈ deeper ++ k :: rest := List.mem_append_right _ List.mem_cons_self
      have hpos := ho.pos k hmem
      have hlast := ho.le_last k hmem
      constructor
      · intro hn
        refine ⟨by omega, fun u hu hul => ?_⟩
        rcases List.mem_append.mp hu with hu | hu
        · have := hdeeper u hu
          simp [hul] at this
        · rcases List.mem_cons.mp hu with rfl | hu
          · omega
          · have := (List.pairwise_cons.mp ho.of_append.pairwise).1 u hu
            omega
      · rintro ⟨-, hn⟩
        have := hn k hmem (of_decide_eq_true hlevel)
        omega
  · next hnone =>
      refine ⟨fun hn => ⟨hn, fun k hk hl => ?_⟩, And.left⟩
      exact absurd (decide_eq_true hl) (List.find?_eq_none.mp hnone k hk)

/-- The section of a heading, given the headings behind it. -/
def ofHeading (last : Nat) (h : Heading) (later : List Heading) : Section :=
  ⟨h.title, h.level, h.line, lastLine last h.level later⟩

theorem ofHeadings_cons (h : Heading) :
    ofHeadings last (h :: hs) = ofHeading last h hs :: ofHeadings last hs := rfl

theorem ofHeadings_eq_append_cons {before after : List Section} {s : Section}
    (h : ofHeadings last hs = before ++ s :: after) :
    ∃ above k below, hs = above ++ k :: below ∧ s = ofHeading last k below ∧
      after = ofHeadings last below := by
  induction hs generalizing before with
  | nil => cases before <;> cases h
  | cons k hs ih =>
      rw [ofHeadings_cons] at h
      cases before with
      | nil =>
          obtain ⟨hs, ha⟩ := List.cons.inj h
          exact ⟨[], k, _, rfl, hs.symm, ha.symm⟩
      | cons t before =>
          obtain ⟨above, j, below, rfl, hj⟩ := ih (List.cons.inj h).2
          exact ⟨k :: above, j, below, rfl, hj⟩

theorem exists_heading_of_mem {s : Section} (h : s ∈ ofHeadings last hs) :
    ∃ above k below, hs = above ++ k :: below ∧ s = ofHeading last k below := by
  obtain ⟨before, after, he⟩ := List.append_of_mem h
  obtain ⟨above, k, below, hk, hs, -⟩ := ofHeadings_eq_append_cons he
  exact ⟨above, k, below, hk, hs⟩

theorem le_last_of_mem (ho : InOrder last hs) {s : Section} (h : s ∈ ofHeadings last hs) :
    s.first ≤ s.last ∧ s.last ≤ last := by
  obtain ⟨above, k, below, rfl, rfl⟩ := exists_heading_of_mem h
  have hk := ho.of_append
  refine ⟨(le_lastLine_iff hk.tail).mpr ⟨hk.le_last k List.mem_cons_self, fun u hu _ => ?_⟩,
    ((le_lastLine_iff hk.tail).mp (Nat.le_refl _)).1⟩
  exact (List.pairwise_cons.mp hk.pairwise).1 u hu

theorem apart_or_within (ho : InOrder last hs) :
    (ofHeadings last hs).Pairwise fun s t =>
      s.last < t.first ∨ t.last ≤ s.last ∧ s.level < t.level := by
  induction hs with
  | nil => exact .nil
  | cons h hs ih =>
      refine .cons (fun t ht => ?_) (ih ho.tail)
      obtain ⟨above, k, below, rfl, rfl⟩ := exists_heading_of_mem ht
      have hk := ho.tail.of_append
      have hpairs := List.pairwise_append.mp ho.tail.pairwise
      have hend := (le_lastLine_iff ho.tail).mp (Nat.le_refl (lastLine last h.level _))
      have hkend := (le_lastLine_iff hk.tail).mp (Nat.le_refl (lastLine last k.level below))
      by_cases hlevel : k.level ≤ h.level
      · exact .inl (hend.2 k (List.mem_append_right _ List.mem_cons_self) hlevel)
      -- a heading between the two that is no deeper than `h` ends the section of `h` before `k`
      by_cases hab : ∃ u ∈ above, u.level ≤ h.level
      · obtain ⟨u, hu, hul⟩ := hab
        have hue := hend.2 u (List.mem_append_left _ hu) hul
        have huk := hpairs.2.2 u hu k List.mem_cons_self
        exact .inl (Nat.lt_trans hue huk)
      · refine .inr ⟨(le_lastLine_iff ho.tail).mpr ⟨hkend.1, fun u hu hul => ?_⟩,
          Nat.lt_of_not_le hlevel⟩
        rcases List.mem_append.mp hu with hu | hu
        · exact absurd ⟨u, hu, hul⟩ hab
        · rcases List.mem_cons.mp hu with rfl | hu
          · exact absurd hul hlevel
          · exact hkend.2 u hu (by omega)

theorem ofHeading_ends (ho : InOrder last later) (h : Heading) :
    (∃ deeper t rest, ofHeadings last later = deeper ++ t :: rest ∧
        (∀ u ∈ deeper, h.level < u.level) ∧ t.level ≤ h.level ∧
        (ofHeading last h later).last + 1 = t.first) ∨
      (∀ u ∈ ofHeadings last later, h.level < u.level) ∧ (ofHeading last h later).last = last := by
  induction later with
  | nil => exact .inr ⟨fun u hu => absurd hu List.not_mem_nil, rfl⟩
  | cons k later ih =>
      by_cases hk : k.level ≤ h.level
      · refine .inl ⟨[], _, _, rfl, fun u hu => absurd hu List.not_mem_nil, hk, ?_⟩
        have hpos := ho.pos k List.mem_cons_self
        simp only [ofHeading, lastLine, List.find?_cons, decide_eq_true hk]
        omega
      · have hend : (ofHeading last h (k :: later)).last = (ofHeading last h later).last := by
          simp only [ofHeading, lastLine, List.find?_cons, decide_eq_false hk]
        rw [hend, ofHeadings_cons]
        rcases ih ho.tail with ⟨deeper, t, rest, he, hd, ht, hl⟩ | ⟨hd, hl⟩
        · refine .inl ⟨ofHeading last k later :: deeper, t, rest, by rw [he]; rfl, ?_, ht, hl⟩
          exact List.forall_mem_cons.mpr ⟨Nat.lt_of_not_le hk, hd⟩
        · exact .inr ⟨List.forall_mem_cons.mpr ⟨Nat.lt_of_not_le hk, hd⟩, hl⟩

def heading (s : Section) : Heading := ⟨s.level, s.title, s.first⟩

theorem map_heading_ofHeadings (last : Nat) (hs : List Heading) :
    (ofHeadings last hs).map heading = hs := by
  induction hs with
  | nil => rfl
  | cons h hs ih => rw [ofHeadings_cons, List.map_cons, ih]; rfl

theorem map_heading_scan (ls : List Line) : (scan ls).map heading = headings ls := by
  rw [scan]
  split
  · next hl =>
      rw [List.getLast?_eq_none_iff.mp hl]
      rfl
  · exact map_heading_ofHeadings _ _

theorem pairwise_first (ho : InOrder last hs) :
    (ofHeadings last hs).Pairwise fun s t => s.first < t.first := by
  have h : ((ofHeadings last hs).map heading).Pairwise fun h k => h.line < k.line := by
    rw [map_heading_ofHeadings]
    exact ho.pairwise
  rw [List.pairwise_map] at h
  exact h

/-- From the first heading on every line lies in the section of the last heading at or above it. -/
theorem exists_section_of_le (ho : InOrder last hs) (hn : n ≤ last)
    (hex : ∃ s ∈ ofHeadings last hs, s.first ≤ n) :
    ∃ before s after, ofHeadings last hs = before ++ s :: after ∧ s.first ≤ n ∧
      (∀ t ∈ after, n < t.first) ∧ n ≤ s.last := by
  induction hs with
  | nil =>
      obtain ⟨s, hs, -⟩ := hex
      cases hs
  | cons h hs ih =>
      -- the heading is the nearest one above the line unless a later one is above it too
      by_cases hlater : ∃ s ∈ ofHeadings last hs, s.first ≤ n
      · obtain ⟨before, s, after, he, hs⟩ := ih ho.tail hlater
        exact ⟨ofHeading last h _ :: before, s, after, by rw [ofHeadings_cons, he]; rfl, hs⟩
      · have hbelow : ∀ t ∈ ofHeadings last hs, n < t.first := fun t ht =>
          Nat.lt_of_not_le fun hle => hlater ⟨t, ht, hle⟩
        refine ⟨[], _, _, rfl, ?_, hbelow, (le_lastLine_iff ho.tail).mpr ⟨hn, fun k hk _ => ?_⟩⟩
        · obtain ⟨s, hs, hle⟩ := hex
          rcases List.mem_cons.mp hs with rfl | hs
          · exact hle
          · exact absurd ⟨s, hs, hle⟩ hlater
        · rw [← map_heading_ofHeadings last hs] at hk
          obtain ⟨t, ht, rfl⟩ := List.mem_map.mp hk
          exact hbelow t ht

/-- What the sections of a document say of its lines. -/
structure IsOutline (ls : List Line) (ss : List Section) : Prop where
  /-- There is a section for each heading outside code blocks, and no other. -/
  map_heading : ss.map heading = headings ls
  first_lt_first : ss.Pairwise fun s t => s.first < t.first
  range : ∀ s ∈ ss, ∃ l, ls.getLast? = some l ∧ s.first ≤ s.last ∧ s.last ≤ l.number
  ends : ∀ before s after, ss = before ++ s :: after →
    (∃ deeper t rest, after = deeper ++ t :: rest ∧ (∀ u ∈ deeper, s.level < u.level) ∧
        t.level ≤ s.level ∧ s.last + 1 = t.first) ∨
      (∀ u ∈ after, s.level < u.level) ∧ ∃ l, ls.getLast? = some l ∧ s.last = l.number
  apart_or_within : ss.Pairwise fun s t => s.last < t.first ∨ t.last ≤ s.last ∧ s.level < t.level
  /-- The last heading at or above a line, if there is one, has the line in its section. -/
  covers : ∀ l ∈ ls, (∃ s ∈ ss, s.first ≤ l.number) →
    ∃ before s after, ss = before ++ s :: after ∧ s.first ≤ l.number ∧
      (∀ t ∈ after, l.number < t.first) ∧ l.number ≤ s.last

theorem isOutline_nil : IsOutline [] [] where
  map_heading := rfl
  first_lt_first := .nil
  range := fun s h => absurd h List.not_mem_nil
  ends := fun before s after h => by cases before <;> cases h
  apart_or_within := .nil
  covers := fun l h => absurd h List.not_mem_nil

theorem inOrder_headings {ls : List Line} {l : Line} (hl : ls.getLast? = some l)
    (hp : ls.Pairwise fun l m => l.number < m.number) (hpos : ∀ l ∈ ls, 0 < l.number) :
    InOrder l.number (headings ls) := by
  have hsub := Fence.proseFrom_sublist false ls
  have hline : ∀ h ∈ headings ls, ∃ m ∈ ls, h.line = m.number := by
    intro h hh
    obtain ⟨m, hm, hmh⟩ := List.mem_filterMap.mp hh
    exact ⟨m, hsub.subset hm, Heading.line_of_ofLine? hmh⟩
  refine ⟨?_, fun h hh => ?_, fun h hh => ?_⟩
  · refine (hp.sublist hsub).filterMap _ fun l m hlm h hh k hk => ?_
    rw [Heading.line_of_ofLine? hh, Heading.line_of_ofLine? hk]
    exact hlm
  · obtain ⟨m, hm, he⟩ := hline h hh
    rw [he]
    exact hpos m hm
  · obtain ⟨m, hm, he⟩ := hline h hh
    rw [he]
    exact Line.number_le_of_getLast? hp hl m hm

/-- The sections of a document, from whatever line it is read, are an outline of its lines. -/
theorem isOutline_scan (content : Text) (skip : Nat) :
    IsOutline ((Line.index content).drop skip) (scan ((Line.index content).drop skip)) := by
  have hp := Line.pairwise_drop_index content skip
  have hpos : ∀ l ∈ (Line.index content).drop skip, 0 < l.number := fun l hl =>
    Line.pos_of_mem_index (List.mem_of_mem_drop hl)
  generalize (Line.index content).drop skip = ls at hp hpos
  unfold scan
  split
  · next hl =>
      rw [List.getLast?_eq_none_iff.mp hl]
      exact isOutline_nil
  · next l hl =>
      have ho := inOrder_headings hl hp hpos
      refine ⟨map_heading_ofHeadings _ _, pairwise_first ho, fun s hs => ?_, ?_, apart_or_within ho, ?_⟩
      · exact ⟨l, hl, le_last_of_mem ho hs⟩
      · intro before s after h
        obtain ⟨above, k, below, hk, rfl, rfl⟩ := ofHeadings_eq_append_cons h
        rw [hk] at ho
        rcases ofHeading_ends ho.of_append.tail k with hend | ⟨hd, hend⟩
        · exact .inl hend
        · exact .inr ⟨hd, l, hl, hend⟩
      · intro m hm
        exact exists_section_of_le ho (Line.number_le_of_getLast? hp hl m hm)

end Section

end Onboarding
