import Onboarding.Document.Section
import Onboarding.Proofs.Document.Lines

namespace Onboarding

namespace Fence

variable {ls ms : List Line}

theorem map_text_proseFrom_congr (h : ls.map (·.text) = ms.map (·.text)) (inside : Bool) :
    (proseFrom inside ls).map (·.text) = (proseFrom inside ms).map (·.text) := by
  induction ls generalizing inside ms with
  | nil => rw [List.map_eq_nil_iff.mp h.symm]
  | cons l ls ih =>
      cases ms with
      | nil => cases h
      | cons m ms =>
          obtain ⟨hfirst, hrest⟩ : l.text = m.text ∧ ls.map (·.text) = ms.map (·.text) :=
            List.cons.inj h
          rw [proseFrom, proseFrom, hfirst]
          split
          · exact ih hrest _
          · split
            · exact ih hrest _
            · rw [List.map_cons, List.map_cons, hfirst, ih hrest inside]

theorem countFrom_congr (h : ls.map (·.text) = ms.map (·.text)) (inside : Bool) :
    countFrom inside ls = countFrom inside ms := by
  induction ls generalizing inside ms with
  | nil => rw [List.map_eq_nil_iff.mp h.symm]
  | cons l ls ih =>
      cases ms with
      | nil => cases h
      | cons m ms =>
          obtain ⟨hfirst, hrest⟩ : l.text = m.text ∧ ls.map (·.text) = ms.map (·.text) :=
            List.cons.inj h
          rw [countFrom, countFrom, hfirst, ih hrest, ih hrest]

end Fence

def Heading.titleIn? (t : Text) : Option Text := (ofLine? ⟨0, t⟩).map (·.title)

theorem Heading.map_title_ofLine? (l : Line) : (ofLine? l).map (·.title) = titleIn? l.text := by
  simp only [titleIn?, ofLine?]
  split <;> rfl

namespace Section

theorem map_title_ofHeadings (last : Nat) (hs : List Heading) :
    (ofHeadings last hs).map (·.title) = hs.map (·.title) := by
  induction hs with
  | nil => rfl
  | cons h hs ih => rw [ofHeadings, List.map_cons, ih, List.map_cons]

theorem map_title_scan (ls : List Line) : (scan ls).map (·.title) = (headings ls).map (·.title) := by
  unfold scan
  split
  · next hl =>
      rw [List.getLast?_eq_none_iff.mp hl]
      rfl
  · rw [map_title_ofHeadings]

theorem map_title_headings (ls : List Line) :
    (headings ls).map (·.title) = ((Fence.prose ls).map (·.text)).filterMap Heading.titleIn? := by
  rw [headings, List.map_filterMap, List.filterMap_map]
  exact congrArg (List.filterMap · _) (funext Heading.map_title_ofLine?)

theorem map_title_scan_congr {ls ms : List Line} (h : ls.map (·.text) = ms.map (·.text)) :
    (scan ls).map (·.title) = (scan ms).map (·.title) := by
  rw [map_title_scan, map_title_scan, map_title_headings, map_title_headings, Fence.prose, Fence.prose,
    Fence.map_text_proseFrom_congr h]

theorem isNone_find?_eq_all (ss : List Section) (titles : List Text) : (find? ss titles).isNone =
    (ss.map (·.title)).all fun t => !(wanted titles).contains (Text.lower t) := by
  rw [Bool.eq_iff_iff, Option.isNone_iff_eq_none, find?, List.find?_eq_none, List.all_map,
    List.all_eq_true]
  simp only [Function.comp_apply, Bool.not_eq_true', Bool.not_eq_true]

theorem isNone_find?_congr {ss us : List Section} (h : ss.map (·.title) = us.map (·.title))
    (titles : List Text) : (find? ss titles).isNone = (find? us titles).isNone := by
  rw [isNone_find?_eq_all, isNone_find?_eq_all, h]

end Section

end Onboarding
