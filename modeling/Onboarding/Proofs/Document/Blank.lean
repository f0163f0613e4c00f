import Onboarding.Proofs.Document.Fields
import Onboarding.Proofs.Document.Numbers
import Onboarding.Proofs.Document.Titles

namespace Onboarding

namespace Line

/-- The lines that are not blank, under the numbers they have. -/
def solid (ls : List Line) : List Line := ls.filter fun l => !Text.allBlank l.text

theorem solid_cons (l : Line) (ls : List Line) :
    solid (l :: ls) = if Text.allBlank l.text then solid ls else l :: solid ls := by
  cases h : Text.allBlank l.text <;> simp [solid, h]

theorem mem_solid {l : Line} {ls : List Line} : l ∈ solid ls ↔ l ∈ ls ∧ Text.allBlank l.text = false := by
  rw [solid, List.mem_filter, Bool.not_eq_true']

/-- What passes over a blank line, and sees in the lines behind a line no more than it sees of them alone, sees no
blank lines at all. -/
theorem congr_solid {α : Type} {f : List Line → α}
    (hblank : ∀ l ls, Text.allBlank l.text = true → f (l :: ls) = f ls)
    (hcons : ∀ l ls ms, f ls = f ms → f (l :: ls) = f (l :: ms)) (ls : List Line) : f (solid ls) = f ls := by
  induction ls with
  | nil => rfl
  | cons l ls ih =>
      rw [solid_cons]
      by_cases h : Text.allBlank l.text = true
      · rw [if_pos h, hblank l ls h, ih]
      · rw [if_neg h]
        exact hcons l _ _ ih

theorem solid_numberFrom_append {blanks : List Text} (h : ∀ t ∈ blanks, Text.allBlank t = true) (n : Nat)
    (ts : List Text) : solid (numberFrom n (ts ++ blanks)) = solid (numberFrom n ts) := by
  have hblanks : ∀ t ∈ blanks, (!Text.allBlank t) = false := by
    intro t ht
    rw [h t ht, Bool.not_true]
  rw [numberFrom_append, solid, List.filter_append, filter_text_eq_nil hblanks, List.append_nil, solid]

end Line

open Line (solid solid_cons mem_solid)

namespace Fence

theorem allBlank_of_isFence {t : Text} (h : isFence t = true) : Text.allBlank t = false := by
  rw [← Bool.not_eq_true]
  intro hb
  rw [isFence, Text.trimLeft_eq_nil_iff.mpr hb] at h
  cases h

theorem isFence_of_allBlank {t : Text} (h : Text.allBlank t = true) : isFence t = false := by
  rw [← Bool.not_eq_true]
  intro hf
  rw [allBlank_of_isFence hf] at h
  cases h

theorem proseFrom_solid (inside : Bool) (ls : List Line) :
    proseFrom inside (solid ls) = solid (proseFrom inside ls) := by
  induction ls generalizing inside with
  | nil => rfl
  | cons l ls ih =>
      by_cases h : Text.allBlank l.text = true
      · rw [solid_cons, if_pos h, ih, proseFrom, isFence_of_allBlank h]
        cases inside with
        | true => rfl
        | false => exact ((solid_cons l _).trans (if_pos h)).symm
      · rw [solid_cons, if_neg h, proseFrom, proseFrom, ih, ih]
        split
        · rfl
        · split
          · rfl
          · rw [solid_cons, if_neg h]

theorem countFrom_solid (inside : Bool) (ls : List Line) :
    countFrom inside (solid ls) = countFrom inside ls := by
  refine congrFun (Line.congr_solid (f := fun ls inside => countFrom inside ls) ?_ ?_ ls) inside
  · intro l ls h
    funext inside
    rw [countFrom, isFence_of_allBlank h, if_neg Bool.false_ne_true]
  · intro l ls ms h
    funext inside
    rw [countFrom, countFrom, congrFun h inside, congrFun h (!inside)]

end Fence

theorem Heading.ofLine?_of_allBlank {l : Line} (h : Text.allBlank l.text = true) : ofLine? l = none := by
  have hsub : ((l.text.dropWhile (· == '#')).dropWhile (· == ' ')).Sublist l.text :=
    (List.dropWhile_sublist _).trans (List.dropWhile_sublist _)
  have hrest := Text.allBlank_of_subset hsub.subset h
  simp [ofLine?, hrest]

namespace Section

theorem filterMap_solid {α : Type} {f : Line → Option α}
    (h : ∀ l, Text.allBlank l.text = true → f l = none) (ls : List Line) :
    (solid ls).filterMap f = ls.filterMap f := by
  refine Line.congr_solid (fun l ls hl => List.filterMap_cons_none (h l hl)) ?_ ls
  intro l ls ms hls
  rw [List.filterMap_cons, List.filterMap_cons, hls]

theorem headings_solid (ls : List Line) : headings (solid ls) = headings ls := by
  rw [headings, headings, Fence.prose, Fence.prose, Fence.proseFrom_solid]
  exact filterMap_solid (fun _ => Heading.ofLine?_of_allBlank) _

theorem map_title_scan_solid (ls : List Line) :
    (scan (solid ls)).map (·.title) = (scan ls).map (·.title) := by
  rw [map_title_scan, map_title_scan, headings_solid]

end Section

namespace Line

theorem drop_numberFrom (n k : Nat) (ts : List Text) :
    (numberFrom n ts).drop k = (numberFrom n ts).filter (n + k ≤ ·.number) := by
  induction ts generalizing n k with
  | nil => exact List.drop_nil
  | cons t ts ih =>
      cases k with
      | zero =>
          have hall : ∀ l ∈ numberFrom n (t :: ts), decide (n + 0 ≤ l.number) = true := fun l hl =>
            decide_eq_true (le_number_of_mem hl)
          rw [List.drop_zero, List.filter_eq_self.mpr hall]
      | succ k =>
          have hfirst : ¬ n + (k + 1) ≤ n := by omega
          rw [numberFrom, List.drop_succ_cons, ih, List.filter_cons, decide_eq_false hfirst,
            Nat.add_assoc, Nat.add_comm 1 k]
          rfl

theorem solid_drop_congr {n : Nat} {ts us : List Text} (h : solid (numberFrom n ts) = solid (numberFrom n us))
    (k : Nat) : solid ((numberFrom n ts).drop k) = solid ((numberFrom n us).drop k) := by
  have hcomm (ts : List Text) : solid ((numberFrom n ts).drop k) =
      (solid (numberFrom n ts)).filter (n + k ≤ ·.number) := by
    rw [drop_numberFrom, solid, solid, List.filter_filter, List.filter_filter]
    exact List.filter_congr fun l _ => Bool.and_comm _ _
  rw [hcomm, hcomm, h]

end Line

namespace FrontMatter

variable {n : Nat} {ls ms : List Line} {ts us : List Text}

/-- Two readings that differ in the values of their fields at most. -/
inductive Alike : FrontMatter → FrontMatter → Prop
  | absent : Alike .absent .absent
  | unclosed (first : Nat) : Alike (.unclosed first) (.unclosed first)
  | closed (first last : Nat) {fields fields' : Table Text Text}
      (h : ∀ key, key ∈ fields.keys ↔ key ∈ fields'.keys) :
      Alike (.closed first last fields) (.closed first last fields')

theorem Defines.allBlank_eq_false {t key : Text} (h : Defines t key) : Text.allBlank t = false := by
  rw [← Bool.not_eq_true]
  intro hb
  have hcontinues : continues t = true := by rw [continues, hb, Bool.true_or]
  have hsome := map_field?_eq_some_iff.mpr h
  rw [field?_eq_none_of_continues hcontinues] at hsome
  cases hsome

theorem ne_marker_of_allBlank {t : Text} (h : Text.allBlank t = true) : t ≠ marker := by
  rintro rfl
  cases h

theorem find?_marker_solid (ls : List Line) :
    (solid ls).find? (·.text = marker) = ls.find? (·.text = marker) := by
  refine Line.congr_solid ?_ ?_ ls
  · intro l ls h
    rw [List.find?_cons, decide_eq_false (ne_marker_of_allBlank h)]
  · intro l ls ms h
    rw [List.find?_cons, List.find?_cons, h]

theorem takeWhile_marker_solid (ls : List Line) :
    (solid ls).takeWhile (·.text ≠ marker) = solid (ls.takeWhile (·.text ≠ marker)) := by
  induction ls with
  | nil => rfl
  | cons l ls ih =>
      by_cases h : Text.allBlank l.text = true
      · rw [solid_cons, if_pos h, ih, List.takeWhile_cons, decide_eq_true (ne_marker_of_allBlank h),
          if_pos rfl, solid_cons, if_pos h]
      · rw [solid_cons, if_neg h, List.takeWhile_cons, List.takeWhile_cons, ih]
        split
        · rw [solid_cons, if_neg h]
        · rfl

theorem mem_keys_block (key : Text) (ls : List Line) :
    key ∈ Table.keys (Table.ofList (fieldsOf (ls.map (·.text)))) ↔ ∃ l ∈ solid ls, Defines l.text key := by
  rw [mem_keys_fieldsOf]
  constructor
  · rintro ⟨t, ht, h⟩
    obtain ⟨l, hl, rfl⟩ := List.mem_map.mp ht
    exact ⟨l, mem_solid.mpr ⟨hl, h.allBlank_eq_false⟩, h⟩
  · rintro ⟨l, hl, h⟩
    exact ⟨l.text, List.mem_map_of_mem (mem_solid.mp hl).1, h⟩

theorem head?_eq_marker_iff : ts.head? = some marker ↔ ⟨n, marker⟩ ∈ solid (Line.numberFrom n ts) := by
  have hmarker : Text.allBlank marker = false := by decide
  rw [mem_solid, Line.mem_numberFrom_iff, List.head?_eq_getElem?]
  constructor
  · exact fun h => ⟨⟨0, rfl, h⟩, hmarker⟩
  · rintro ⟨⟨i, hi, h⟩, -⟩
    obtain rfl : i = 0 := by
      change n = n + i at hi
      omega
    exact h

theorem ofLines_of_head?_ne (h : ts.head? ≠ some marker) : ofLines (Line.numberFrom n ts) = .absent := by
  cases ts with
  | nil => rfl
  | cons t ts =>
      have ht : t ≠ marker := fun ht => h (congrArg some ht)
      rw [Line.numberFrom, ofLines, if_neg ht]

theorem ofLines_cons_alike (h : solid ls = solid ms) :
    Alike (ofLines (⟨n, marker⟩ :: ls)) (ofLines (⟨n, marker⟩ :: ms)) := by
  have hkeys (key : Text) :
      key ∈ Table.keys (Table.ofList (fieldsOf ((ls.takeWhile (·.text ≠ marker)).map (·.text)))) ↔
        key ∈ Table.keys (Table.ofList (fieldsOf ((ms.takeWhile (·.text ≠ marker)).map (·.text)))) := by
    rw [mem_keys_block, mem_keys_block, ← takeWhile_marker_solid, ← takeWhile_marker_solid, h]
  rw [ofLines, ofLines, if_pos rfl, if_pos rfl, ← find?_marker_solid, h, find?_marker_solid]
  cases ms.find? (·.text = marker) with
  | none => exact .unclosed n
  | some m => exact .closed n m.number hkeys

theorem ofLines_alike (h : solid (Line.numberFrom n ts) = solid (Line.numberFrom n us)) :
    Alike (ofLines (Line.numberFrom n ts)) (ofLines (Line.numberFrom n us)) := by
  have hhead : ts.head? = some marker ↔ us.head? = some marker := by
    rw [head?_eq_marker_iff (n := n), h, head?_eq_marker_iff]
  by_cases hts : ts.head? = some marker
  · obtain ⟨ts, rfl⟩ := List.head?_eq_some_iff.mp hts
    obtain ⟨us, rfl⟩ := List.head?_eq_some_iff.mp (hhead.mp hts)
    have hmarker : ¬ Text.allBlank marker = true := fun h => ne_marker_of_allBlank h rfl
    rw [Line.numberFrom, Line.numberFrom, solid_cons, solid_cons, if_neg hmarker, if_neg hmarker] at h
    exact ofLines_cons_alike (List.cons.inj h).2
  · rw [ofLines_of_head?_ne hts, ofLines_of_head?_ne fun hus => hts (hhead.mpr hus)]
    exact .absent

end FrontMatter

end Onboarding
