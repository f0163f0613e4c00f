import Mathlib.Algebra.Ring.Parity
import Mathlib.Data.List.FinRange
import Onboarding.Proofs.Document.Parts

namespace Onboarding.Fence

/-- The line is no marker, and an even number of markers stand in front of it. -/
def IsProse (ls : List Line) (i : Fin ls.length) : Prop := isFence ls[i].text = false ∧ Even (marks (ls.take i))

instance (ls : List Line) : DecidablePred (IsProse ls) := fun _ => inferInstanceAs (Decidable (_ ∧ _))

def isOutside (inside : Bool) (ls : List Line) (i : Fin ls.length) : Bool :=
  !isFence ls[i].text && !insideBehind inside (ls.take i)

theorem isOutside_zero (inside : Bool) (l : Line) (ls : List Line) :
    isOutside inside (l :: ls) 0 = (!isFence l.text && !inside) := by
  simp [isOutside, insideBehind_nil]

theorem isOutside_succ (inside : Bool) (l : Line) (ls : List Line) (i : Fin ls.length) :
    isOutside inside (l :: ls) i.succ = isOutside (if isFence l.text then !inside else inside) ls i := by
  simp [isOutside, insideBehind_cons]

theorem isOutside_false (ls : List Line) (i : Fin ls.length) : isOutside false ls i = decide (IsProse ls i) := by
  rw [isOutside, insideBehind, Bool.false_xor, Bool.eq_iff_iff, decide_eq_true_eq, Bool.and_eq_true,
    Bool.not_eq_true', Bool.not_eq_true', decide_eq_false_iff_not, IsProse, Nat.even_iff, Nat.mod_two_not_eq_one]

theorem proseFrom_eq_map_filter (inside : Bool) (ls : List Line) :
    proseFrom inside ls = ((List.finRange ls.length).filter (isOutside inside ls)).map ls.get := by
  induction ls generalizing inside with
  | nil => rfl
  | cons l ls ih =>
      have hsucc : isOutside inside (l :: ls) ∘ Fin.succ = isOutside (if isFence l.text then !inside else inside) ls :=
        funext (isOutside_succ inside l ls)
      have hget : (l :: ls).get ∘ Fin.succ = ls.get := rfl
      have hbehind : (((List.finRange ls.length).map Fin.succ).filter (isOutside inside (l :: ls))).map (l :: ls).get =
          proseFrom (if isFence l.text then !inside else inside) ls := by
        rw [List.filter_map, List.map_map, hsucc, hget, ih]
      have hplaces : List.finRange (l :: ls).length = 0 :: (List.finRange ls.length).map Fin.succ := List.finRange_succ
      rw [hplaces, List.filter_cons, isOutside_zero, proseFrom]
      by_cases hl : isFence l.text = true
      · rw [if_pos hl] at hbehind
        rw [if_pos hl, hl, ← hbehind]
        rfl
      · rw [if_neg hl] at hbehind
        rw [if_neg hl, ← hbehind]
        cases inside <;> simp [hl]

/-- Of the markers every other one begins a block: the first one, if it is not inside a block itself. -/
theorem countFrom_eq_div (inside : Bool) (ls : List Line) :
    countFrom inside ls = (marks ls + (!inside).toNat) / 2 := by
  induction ls generalizing inside with
  | nil => cases inside <;> rfl
  | cons l ls ih =>
      rw [countFrom, marks_cons]
      split
      · rw [ih]
        cases inside with
        | false =>
            simp only [Bool.not_false, Bool.not_true, Bool.toNat_false, Bool.toNat_true, Bool.false_eq_true, if_false]
            omega
        | true => simp
      · rw [ih, Nat.add_zero]

theorem prose_eq_map_filter (ls : List Line) :
    prose ls = ((List.finRange ls.length).filter (IsProse ls ·)).map ls.get := by
  have houtside : isOutside false ls = fun i => decide (IsProse ls i) := funext (isOutside_false ls)
  rw [prose, proseFrom_eq_map_filter, houtside]

theorem count_eq_div (ls : List Line) : count ls = (marks ls + 1) / 2 := countFrom_eq_div false ls

theorem marks_append (ls ms : List Line) : marks (ls ++ ms) = marks ls + marks ms := List.countP_append

theorem count_append_of_odd {ls : List Line} (h : Odd (marks ls)) (ms : List Line) :
    count (ls ++ ms) = count ls + marks ms / 2 := by
  obtain ⟨k, hk⟩ := h
  rw [count_eq_div, count_eq_div, marks_append]
  omega

/-- The number of markers says all: which lines are prose, how many blocks there are, and how the parts of a document
are put together, also when the first part ends inside a block. -/
theorem prose_count_by_marks (ls ms : List Line) :
    prose ls = ((List.finRange ls.length).filter (IsProse ls ·)).map ls.get ∧
    count ls = (marks ls + 1) / 2 ∧
    (Even (marks ls) → prose (ls ++ ms) = prose ls ++ prose ms ∧ count (ls ++ ms) = count ls + count ms) ∧
    (Odd (marks ls) → count (ls ++ ms) = count ls + marks ms / 2) := by
  refine ⟨prose_eq_map_filter ls, count_eq_div ls, ?_, ?_⟩
  · intro h
    exact ⟨prose_append_of_even h ms, count_append_of_even h ms⟩
  · intro h
    exact count_append_of_odd h ms

def closedBlock : List Line := Line.index "\t\x60\x60\x60\nx\n\x60\x60\x60sh".toList

def unclosedBlock : List Line :=
  Line.index "a\n\x60\x60\x60\nb\n \x60\x60\x60\nc\n\x60\x60\x60\nd".toList

theorem prose_count_by_marks_unclosedBlock :
    Even (marks closedBlock) ∧ prose (closedBlock ++ unclosedBlock) = [⟨1, ['a']⟩, ⟨5, ['c']⟩] ∧
      count (closedBlock ++ unclosedBlock) = 3 ∧
      Odd (marks unclosedBlock) ∧ count (unclosedBlock ++ closedBlock) = 3 := by
  have heven : Even (marks closedBlock) := by decide
  have hodd : Odd (marks unclosedBlock) := by decide
  obtain ⟨-, -, hclosed, -⟩ := prose_count_by_marks closedBlock unclosedBlock
  obtain ⟨-, -, -, hunclosed⟩ := prose_count_by_marks unclosedBlock closedBlock
  obtain ⟨hprose, hcount⟩ := hclosed heven
  exact ⟨heven, hprose.trans (by decide), hcount.trans (by decide), hodd, (hunclosed hodd).trans (by decide)⟩

end Onboarding.Fence
