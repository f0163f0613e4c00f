import Onboarding.Document.Section
import Onboarding.Proofs.Document.Lines

namespace Onboarding

namespace Fence

def marks (ls : List Line) : Nat := ls.countP fun l => isFence l.text

/-- The markers stand on the same lines, and every other line with an even number of markers before it has the
same text in both documents. -/
structure AgreeOutside (ls ms : List Line) : Prop where
  length_eq : ls.length = ms.length
  isFence_eq : ∀ (i : Nat) (hl : i < ls.length) (hm : i < ms.length),
    isFence ls[i].text = isFence ms[i].text
  text_eq : ∀ (i : Nat) (hl : i < ls.length) (hm : i < ms.length),
    isFence ls[i].text = false → marks (ls.take i) % 2 = 0 → ls[i].text = ms[i].text

instance (ls ms : List Line) : Decidable (AgreeOutside ls ms) :=
  decidable_of_iff
    (ls.length = ms.length ∧
      (∀ (i : Nat) (hl : i < ls.length) (hm : i < ms.length),
        isFence ls[i].text = isFence ms[i].text) ∧
      ∀ (i : Nat) (hl : i < ls.length) (hm : i < ms.length),
        isFence ls[i].text = false → marks (ls.take i) % 2 = 0 → ls[i].text = ms[i].text)
    ⟨fun ⟨h₁, h₂, h₃⟩ => ⟨h₁, h₂, h₃⟩, fun h => ⟨h.length_eq, h.isFence_eq, h.text_eq⟩⟩

/-- The same said line by line, given whether the first line is inside a block. -/
inductive InStep : Bool → List Line → List Line → Prop
  | nil (inside) : InStep inside [] []
  | mark {inside l m ls ms} (hl : isFence l.text = true) (hm : isFence m.text = true)
      (hn : l.number = m.number) (h : InStep (!inside) ls ms) : InStep inside (l :: ls) (m :: ms)
  | code {l m ls ms} (hl : isFence l.text = false) (hm : isFence m.text = false)
      (hn : l.number = m.number) (h : InStep true ls ms) : InStep true (l :: ls) (m :: ms)
  | prose {l ls ms} (hl : isFence l.text = false) (h : InStep false ls ms) :
      InStep false (l :: ls) (l :: ms)

variable {inside : Bool} {ls ms : List Line}

theorem marks_cons (l : Line) (ls : List Line) :
    marks (l :: ls) = marks ls + if isFence l.text then 1 else 0 := by
  simp [marks, List.countP_cons]

theorem inStep_of_forall (hn : ls.map (·.number) = ms.map (·.number))
    (hf : ∀ (i : Nat) (hl : i < ls.length) (hm : i < ms.length),
      isFence ls[i].text = isFence ms[i].text)
    (ht : ∀ (i : Nat) (hl : i < ls.length) (hm : i < ms.length),
      isFence ls[i].text = false → marks (ls.take i) % 2 = inside.toNat → ls[i].text = ms[i].text) :
    InStep inside ls ms := by
  induction ls generalizing inside ms with
  | nil =>
      obtain rfl := List.map_eq_nil_iff.mp hn.symm
      exact .nil inside
  | cons l ls ih =>
      cases ms with
      | nil => cases hn
      | cons m ms =>
          obtain ⟨hnum, hnums⟩ := List.cons.inj hn
          have hfirst : isFence l.text = isFence m.text :=
            hf 0 (Nat.succ_pos _) (Nat.succ_pos _)
          have hfence : ∀ (i : Nat) (hl : i < ls.length) (hm : i < ms.length),
              isFence ls[i].text = isFence ms[i].text := fun i hl hm =>
            hf (i + 1) (Nat.succ_lt_succ hl) (Nat.succ_lt_succ hm)
          have htext (i : Nat) (hl : i < ls.length) (hm : i < ms.length)
              (h : isFence ls[i].text = false) (hmarks : marks (l :: ls.take i) % 2 = inside.toNat) :
              ls[i].text = ms[i].text :=
            ht (i + 1) (Nat.succ_lt_succ hl) (Nat.succ_lt_succ hm) h hmarks
          by_cases hl : isFence l.text = true
          · refine .mark hl (hfirst ▸ hl) hnum (ih hnums hfence fun i hil him h hmarks => ?_)
            apply htext i hil him h
            rw [marks_cons, if_pos hl]
            cases inside <;> simp only [Bool.not_true, Bool.not_false, Bool.toNat_true, Bool.toNat_false]
              at hmarks ⊢ <;> omega
          · rw [Bool.not_eq_true] at hl
            have hrest : InStep inside ls ms := ih hnums hfence fun i hil him h hmarks => by
              apply htext i hil him h
              rw [marks_cons, hl]
              exact hmarks
            cases inside with
            | true => exact .code hl (hfirst ▸ hl) hnum hrest
            | false =>
                have htextEq : l.text = m.text := ht 0 (Nat.succ_pos _) (Nat.succ_pos _) hl rfl
                obtain rfl : l = m := by
                  cases l
                  cases m
                  simp_all
                exact .prose hl hrest

theorem InStep.proseFrom_eq (h : InStep inside ls ms) : proseFrom inside ls = proseFrom inside ms := by
  induction h with
  | nil => rfl
  | mark hl hm _ _ ih => rw [proseFrom, proseFrom, if_pos hl, if_pos hm, ih]
  | code hl hm _ _ ih => simp [proseFrom, hl, hm, ih]
  | prose hl _ ih => simp [proseFrom, hl, ih]

theorem InStep.countFrom_eq (h : InStep inside ls ms) : countFrom inside ls = countFrom inside ms := by
  induction h with
  | nil => rfl
  | mark hl hm _ _ ih => rw [countFrom, countFrom, if_pos hl, if_pos hm, ih]
  | code hl hm _ _ ih => simp [countFrom, hl, hm, ih]
  | prose hl _ ih => simp [countFrom, hl, ih]

theorem InStep.map_number_eq (h : InStep inside ls ms) :
    ls.map (·.number) = ms.map (·.number) := by
  induction h with
  | nil => rfl
  | mark _ _ hn _ ih | code _ _ hn _ ih => rw [List.map_cons, List.map_cons, hn, ih]
  | prose _ _ ih => rw [List.map_cons, List.map_cons, ih]

theorem AgreeOutside.inStep {a b : Text} (h : AgreeOutside (Line.index a) (Line.index b)) :
    InStep false (Line.index a) (Line.index b) := by
  apply inStep_of_forall
  · apply Line.map_number_index_congr h.length_eq
  · exact h.isFence_eq
  · exact h.text_eq

end Fence

theorem Section.scan_eq_of_inStep {ls ms : List Line} (h : Fence.InStep false ls ms) :
    scan ls = scan ms := by
  have hlast : ls.getLast?.map (·.number) = ms.getLast?.map (·.number) := by
    rw [← List.getLast?_map, ← List.getLast?_map, h.map_number_eq]
  have hheadings : headings ls = headings ms := by
    rw [headings, headings, Fence.prose, Fence.prose, h.proseFrom_eq]
  rw [scan, scan]
  cases hl : ls.getLast? with
  | none =>
      cases hm : ms.getLast? with
      | none => rfl
      | some m => simp [hl, hm] at hlast
  | some l =>
      cases hm : ms.getLast? with
      | none => simp [hl, hm] at hlast
      | some m =>
          rw [hl, hm, Option.map_some, Option.map_some, Option.some.injEq] at hlast
          simp only [hlast, hheadings]

end Onboarding
