import Onboarding.Proofs.Document.Parts
import Onboarding.Proofs.Document.Sections

namespace Onboarding

theorem Line.exists_parts_index (content : Text) (k : Nat) : ∃ front back,
    (index content).take k = numberFrom 1 front ∧ (index content).drop k = numberFrom (1 + front.length) back ∧
      (front.length = k ∨ front.length < k ∧ back = []) := by
  rw [index]
  generalize (Text.splitOn '\n' content).map (Text.dropEnd '\r') = ts
  have htake := take_numberFrom 1 k ts
  have hboth : numberFrom 1 ts = numberFrom 1 (ts.take k) ++ numberFrom (1 + (ts.take k).length) (ts.drop k) := by
    rw [← numberFrom_append, List.take_append_drop]
  have hdrop : numberFrom 1 (ts.take k) ++ (numberFrom 1 ts).drop k =
      numberFrom 1 (ts.take k) ++ numberFrom (1 + (ts.take k).length) (ts.drop k) := by
    rw [← hboth, ← htake, List.take_append_drop]
  refine ⟨ts.take k, ts.drop k, htake, List.append_cancel_left hdrop, ?_⟩
  rw [List.length_take, List.drop_eq_nil_iff]
  omega

namespace Section

variable {last k : Nat} {above below : List Heading}

/-- The section without its lines behind the line `k`. -/
def upTo (k : Nat) (s : Section) : Section := { s with last := min s.last k }

/-- Headings on the two sides of a cut behind the line `k`. -/
structure IsCut (last k : Nat) (above below : List Heading) : Prop where
  line_le : ∀ h ∈ above, h.line ≤ k
  lt_line : ∀ h ∈ below, k < h.line
  line_le_last : ∀ h ∈ below, h.line ≤ last

theorem IsCut.tail {h : Heading} (hcut : IsCut last k (h :: above) below) : IsCut last k above below :=
  ⟨fun u hu => hcut.line_le u (List.mem_cons_of_mem h hu), hcut.lt_line, hcut.line_le_last⟩

theorem IsCut.lastLine_eq (hcut : IsCut last k above below) (level : Nat) :
    lastLine (min last k) level above = min (lastLine last level (above ++ below)) k := by
  rw [lastLine, lastLine, List.find?_append]
  cases habove : above.find? (·.level ≤ level) with
  | some u =>
      have hu := hcut.line_le u (List.mem_of_find?_eq_some habove)
      rw [Option.some_or]
      dsimp only
      omega
  | none =>
      rw [Option.none_or]
      cases hbelow : below.find? (·.level ≤ level) with
      | some u =>
          have hmem := List.mem_of_find?_eq_some hbelow
          have hlt := hcut.lt_line u hmem
          have hlast := hcut.line_le_last u hmem
          dsimp only
          omega
      | none => rfl

theorem ofHeadings_of_lt (h : ∀ u ∈ below, k < u.line) :
    (ofHeadings last below).filter (·.first ≤ k) = [] ∧
      (ofHeadings last below).filter (k < ·.first) = ofHeadings last below := by
  have hfirst : ∀ s ∈ ofHeadings last below, k < s.first := by
    intro s hs
    rw [← map_heading_ofHeadings last below] at h
    exact h s.heading (List.mem_map_of_mem hs)
  constructor
  · exact List.filter_eq_nil_iff.mpr fun s hs => by simpa using hfirst s hs
  · exact List.filter_eq_self.mpr fun s hs => decide_eq_true (hfirst s hs)

/-- In front of a cut there are the sections that begin there, as far as the cut. -/
theorem IsCut.ofHeadings_eq_map (hcut : IsCut last k above below) : ofHeadings (min last k) above =
    ((ofHeadings last (above ++ below)).filter (·.first ≤ k)).map (upTo k) := by
  induction above with
  | nil =>
      rw [List.nil_append, (ofHeadings_of_lt hcut.lt_line).1]
      rfl
  | cons h above ih =>
      have hfirst : (ofHeading last h (above ++ below)).first ≤ k := hcut.line_le h List.mem_cons_self
      have hsection : ofHeading (min last k) h above = upTo k (ofHeading last h (above ++ below)) := by
        rw [ofHeading, hcut.tail.lastLine_eq, ofHeading, upTo]
      rw [ofHeadings_cons, List.cons_append, ofHeadings_cons, List.filter_cons_of_pos (by simpa using hfirst),
        List.map_cons, hsection, ih hcut.tail]

theorem IsCut.ofHeadings_eq_filter (hcut : IsCut last k above below) :
    ofHeadings last below = (ofHeadings last (above ++ below)).filter (k < ·.first) := by
  induction above with
  | nil => exact (ofHeadings_of_lt hcut.lt_line).2.symm
  | cons h above ih =>
      have hfirst : ¬ k < (ofHeading last h (above ++ below)).first :=
        Nat.not_lt_of_le (hcut.line_le h List.mem_cons_self)
      rw [List.cons_append, ofHeadings_cons, List.filter_cons_of_neg (by simpa using hfirst), ← ih hcut.tail]

def headingsFrom (inside : Bool) (ls : List Line) : List Heading :=
  (Fence.proseFrom inside ls).filterMap Heading.ofLine?

theorem headings_append (ls ms : List Line) :
    headings (ls ++ ms) = headings ls ++ headingsFrom (Fence.insideBehind false ls) ms := by
  rw [headings, Fence.prose, Fence.proseFrom_append, List.filterMap_append]
  rfl

theorem exists_line_of_mem {inside : Bool} {ls : List Line} {h : Heading} (hh : h ∈ headingsFrom inside ls) :
    ∃ l ∈ ls, h.line = l.number := by
  obtain ⟨l, hl, hlh⟩ := List.mem_filterMap.mp hh
  exact ⟨l, (Fence.proseFrom_sublist inside ls).subset hl, Heading.line_of_ofLine? hlh⟩

theorem isCut_numberFrom {front back : List Text} (hk : front.length = k ∨ front.length < k ∧ back = [])
    (inside : Bool) : IsCut (front.length + back.length) k (headings (Line.numberFrom 1 front))
      (headingsFrom inside (Line.numberFrom (1 + front.length) back)) := by
  have hback : ∀ l ∈ Line.numberFrom (1 + front.length) back, front.length = k := by
    intro l hl
    rcases hk with hk | ⟨-, rfl⟩
    · exact hk
    · cases hl
  refine ⟨fun h hh => ?_, fun h hh => ?_, fun h hh => ?_⟩
  · have hfront : h ∈ headingsFrom false (Line.numberFrom 1 front) := hh
    obtain ⟨l, hl, hline⟩ := exists_line_of_mem hfront
    have := Line.number_lt_of_mem hl
    omega
  · obtain ⟨l, hl, hline⟩ := exists_line_of_mem hh
    have := Line.le_number_of_mem hl
    have := hback l hl
    omega
  · obtain ⟨l, hl, hline⟩ := exists_line_of_mem hh
    have := Line.number_lt_of_mem hl
    omega

theorem scan_numberFrom (n : Nat) (ts : List Text) : scan (Line.numberFrom (1 + n) ts) =
    ofHeadings (n + ts.length) (headings (Line.numberFrom (1 + n) ts)) := by
  have hlast : (Line.numberFrom (1 + n) ts).getLast?.map (·.number) =
      if ts.length = 0 then none else some (1 + n + ts.length - 1) := by
    rw [← List.getLast?_map, Line.map_number_numberFrom, List.getLast?_range']
  rw [scan]
  cases hl : (Line.numberFrom (1 + n) ts).getLast? with
  | none =>
      rw [List.getLast?_eq_none_iff.mp hl]
      rfl
  | some l =>
      rw [hl, Option.map_some] at hlast
      have hnumber : l.number = n + ts.length := by
        split at hlast
        · cases hlast
        · have := Option.some.inj hlast
          omega
      rw [← hnumber]

/-- The sections of the first `k` lines of a document are those of the whole that begin there, as far as the line
`k`. With an even number of markers in these lines, the sections of the lines behind them are the others of the
whole. -/
theorem scan_take_drop (content : Text) (k : Nat) :
    scan ((Line.index content).take k) = ((scan (Line.index content)).filter (·.first ≤ k)).map (upTo k) ∧
    (Even (Fence.marks ((Line.index content).take k)) →
      scan ((Line.index content).drop k) = (scan (Line.index content)).filter (k < ·.first)) := by
  obtain ⟨front, back, htake, hdrop, hk⟩ := Line.exists_parts_index content k
  have hindex : Line.index content = Line.numberFrom (1 + 0) (front ++ back) := by
    rw [Line.numberFrom_append, ← List.take_append_drop k (Line.index content), htake, hdrop]
  have hparts := headings_append (Line.numberFrom 1 front) (Line.numberFrom (1 + front.length) back)
  have hwhole : scan (Line.index content) = ofHeadings (front.length + back.length)
      (headings (Line.numberFrom 1 front ++ Line.numberFrom (1 + front.length) back)) := by
    rw [hindex, scan_numberFrom, Line.numberFrom_append, Nat.zero_add, List.length_append]
  have hcut := isCut_numberFrom hk (Fence.insideBehind false (Line.numberFrom 1 front))
  constructor
  · have hlast : front.length = min (front.length + back.length) k := by
      rcases hk with hk | ⟨hk, rfl⟩
      · omega
      · rw [List.length_nil]
        omega
    have hfront := scan_numberFrom 0 front
    rw [Nat.zero_add, hlast] at hfront
    rw [htake, hwhole, hparts, ← hcut.ofHeadings_eq_map]
    exact hfront
  · intro heven
    rw [htake] at heven
    rw [Fence.insideBehind_of_even heven] at hparts hcut
    rw [hdrop, hwhole, hparts, ← hcut.ofHeadings_eq_filter, scan_numberFrom]
    rfl

def fencedOutline : Text := "# a\n\x60\x60\x60\n# b\n\x60\x60\x60\n## c\nd\n# e".toList

theorem scan_take_drop_fencedOutline :
    Even (Fence.marks ((Line.index fencedOutline).take 5)) ∧
      scan (Line.index fencedOutline) = [⟨['a'], 1, 1, 6⟩, ⟨['c'], 2, 5, 6⟩, ⟨['e'], 1, 7, 7⟩] ∧
      scan ((Line.index fencedOutline).take 5) = [⟨['a'], 1, 1, 5⟩, ⟨['c'], 2, 5, 5⟩] ∧
      scan ((Line.index fencedOutline).drop 5) = [⟨['e'], 1, 7, 7⟩] := by
  have heven : Even (Fence.marks ((Line.index fencedOutline).take 5)) := by
    rw [Nat.even_iff]
    decide +kernel
  have hwhole : scan (Line.index fencedOutline) =
      [⟨['a'], 1, 1, 6⟩, ⟨['c'], 2, 5, 6⟩, ⟨['e'], 1, 7, 7⟩] := by
    decide +kernel
  obtain ⟨htake, hdrop⟩ := scan_take_drop fencedOutline 5
  refine ⟨heven, hwhole, ?_, ?_⟩
  · rw [htake, hwhole]
    rfl
  · rw [hdrop heven, hwhole]
    rfl

end Section

end Onboarding
