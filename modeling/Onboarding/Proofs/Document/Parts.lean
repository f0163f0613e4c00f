import Mathlib.Algebra.Group.Nat.Even
import Onboarding.Proofs.Document.Blank
import Onboarding.Proofs.Document.Fences

namespace Onboarding

theorem Line.index_append_sep (content behind : Text) :
    index (content ++ '\n' :: behind) = index content ++
      numberFrom (1 + (index content).length) ((Text.splitOn '\n' behind).map (Text.dropEnd '\r')) := by
  rw [index, Text.splitOn_append_sep, List.map_append, numberFrom_append, index, length_numberFrom]

namespace Fence

def insideBehind (inside : Bool) (ls : List Line) : Bool := inside ^^ decide (marks ls % 2 = 1)

theorem insideBehind_nil (inside : Bool) : insideBehind inside [] = inside := by
  cases inside <;> rfl

theorem insideBehind_cons (inside : Bool) (l : Line) (ls : List Line) :
    insideBehind inside (l :: ls) = insideBehind (if isFence l.text then !inside else inside) ls := by
  rw [insideBehind, insideBehind, marks_cons]
  by_cases h : isFence l.text = true
  · have hflip : decide ((marks ls + 1) % 2 = 1) = !decide (marks ls % 2 = 1) := by
      rw [Bool.eq_iff_iff, decide_eq_true_eq, Bool.not_eq_true', decide_eq_false_iff_not]
      omega
    rw [if_pos h, if_pos h, hflip, Bool.xor_not, Bool.not_xor]
  · rw [if_neg h, if_neg h, Nat.add_zero]

theorem insideBehind_of_even {ls : List Line} (h : Even (marks ls)) (inside : Bool) :
    insideBehind inside ls = inside := by
  have hnot : ¬ marks ls % 2 = 1 := by
    rw [Nat.even_iff.mp h]
    decide
  rw [insideBehind, decide_eq_false hnot, Bool.xor_false]

theorem proseFrom_append (inside : Bool) (ls ms : List Line) :
    proseFrom inside (ls ++ ms) = proseFrom inside ls ++ proseFrom (insideBehind inside ls) ms := by
  induction ls generalizing inside with
  | nil => rw [insideBehind_nil, List.nil_append, proseFrom, List.nil_append]
  | cons l ls ih =>
      rw [List.cons_append, proseFrom, proseFrom, insideBehind_cons, ih, ih]
      split
      · rfl
      · split
        · rfl
        · rw [List.cons_append]

theorem countFrom_append (inside : Bool) (ls ms : List Line) :
    countFrom inside (ls ++ ms) = countFrom inside ls + countFrom (insideBehind inside ls) ms := by
  induction ls generalizing inside with
  | nil => rw [insideBehind_nil, List.nil_append, countFrom, Nat.zero_add]
  | cons l ls ih =>
      rw [List.cons_append, countFrom, countFrom, insideBehind_cons, ih, ih]
      split
      · rw [Nat.add_assoc]
      · rfl

variable {ls : List Line}

theorem prose_append_of_even (h : Even (marks ls)) (ms : List Line) :
    prose (ls ++ ms) = prose ls ++ prose ms := by
  rw [prose, proseFrom_append, insideBehind_of_even h, prose, prose]

theorem count_append_of_even (h : Even (marks ls)) (ms : List Line) :
    count (ls ++ ms) = count ls + count ms := by
  rw [count, countFrom_append, insideBehind_of_even h, count, count]

theorem prose_prefix_append (ls ms : List Line) : prose ls <+: prose (ls ++ ms) := by
  rw [prose, prose, proseFrom_append]
  exact List.prefix_append _ _

theorem count_le_count_append (ls ms : List Line) : count ls ≤ count (ls ++ ms) := by
  rw [count, count, countFrom_append]
  exact Nat.le_add_right _ _

end Fence

namespace Section

theorem headings_append_of_even {ls : List Line} (h : Even (Fence.marks ls)) (ms : List Line) :
    headings (ls ++ ms) = headings ls ++ headings ms := by
  rw [headings, Fence.prose_append_of_even h, List.filterMap_append, headings, headings]

theorem headings_prefix_append (ls ms : List Line) : headings ls <+: headings (ls ++ ms) :=
  (Fence.prose_prefix_append ls ms).filterMap _

theorem isNone_find?_scan (ls : List Line) (titles : List Text) : (find? (scan ls) titles).isNone =
    (headings ls).all fun h => !(wanted titles).contains (Text.lower h.title) := by
  rw [isNone_find?_eq_all, map_title_scan, List.all_map]
  rfl

end Section

namespace FrontMatter

theorem ofLines_append {ls ms : List Line} (hne : ls ≠ []) (hms : ∀ m ∈ ms, m.text ≠ marker) :
    ofLines (ls ++ ms) = ofLines ls := by
  obtain ⟨l, rest, rfl⟩ := List.exists_cons_of_ne_nil hne
  have hnone : ms.find? (·.text = marker) = none :=
    List.find?_eq_none.mpr fun m hm => by simpa using hms m hm
  rw [List.cons_append, ofLines, ofLines, List.find?_append, hnone, Option.or_none]
  split
  · cases h : rest.find? (·.text = marker) with
    | none => rfl
    | some m =>
        obtain ⟨hm, before, after, rfl, hbefore⟩ := List.find?_eq_some_iff_append.mp h
        have htake (after : List Line) :
            (before ++ m :: after).takeWhile (·.text ≠ marker) = before :=
          Text.takeWhile_append_stop (by simpa using hbefore) (by simpa using hm)
        dsimp only
        rw [List.append_assoc, List.cons_append, htake, htake]
  · rfl

theorem body_append (content : Text) (ms : List Line) :
    body (Line.index content ++ ms) (ofLines (Line.index content)) =
      body (Line.index content) (ofLines (Line.index content)) ++ ms := by
  cases h : ofLines (Line.index content) with
  | absent => rfl
  | unclosed => rfl
  | closed first last fields =>
      obtain ⟨block, behind, hts, -, -, hlast, -⟩ := ofLines_eq_closed h
      have hle : last ≤ (Line.index content).length := by
        rw [Line.index, Line.length_numberFrom, hts, hlast, List.length_cons, List.length_append,
          List.length_cons]
        omega
      rw [body, body, List.drop_append_of_le_length hle]

end FrontMatter

end Onboarding
