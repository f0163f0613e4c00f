import Onboarding.Proofs.Document.Blank
import Onboarding.Proofs.Secret.Hit
import Onboarding.Proofs.Secret.Links

namespace Onboarding

open Text (allBlank)

namespace SecretValue

def LacksSeparator (t : Text) : Prop := ':' ∉ t ∧ '=' ∉ t

theorem LacksSeparator.of_subset {t u : Text} (ht : LacksSeparator t) (h : u ⊆ t) : LacksSeparator u :=
  ⟨fun hu => ht.1 (h hu), fun hu => ht.2 (h hu)⟩

theorem lacksSeparator_of_allBlank {t : Text} (h : allBlank t = true) : LacksSeparator t :=
  ⟨fun ht => absurd (List.all_eq_true.mp h _ ht) (by decide),
    fun ht => absurd (List.all_eq_true.mp h _ ht) (by decide)⟩

def isBreak (c : Char) : Bool := Text.isBlank c || "\"':=".toList.contains c

theorem isBreak_of_isBlank {c : Char} (h : Text.isBlank c = true) : isBreak c := by
  rw [isBreak, h, Bool.true_or]

theorem isBreak_of_isSign {c : Char} (h : c = ':' ∨ c = '=') : isBreak c := by
  rcases h with rfl | rfl <;> decide

theorem IsLink.exists_breaks {link : Text} (h : IsLink link) :
    ∃ way c space, link = way ++ c :: space ∧ (c = ':' ∨ c = '=') ∧ ∀ d ∈ way, isBreak d := by
  obtain @⟨mark, gap, space, c, hmark, hgap, hc, -⟩ := h
  have hmarks : ∀ d ∈ mark, isBreak d := by
    rcases hmark with rfl | rfl | rfl
    · exact nofun
    · exact List.forall_mem_singleton.mpr (by decide)
    · exact List.forall_mem_singleton.mpr (by decide)
  have hgaps : ∀ d ∈ gap, isBreak d := fun d hd => isBreak_of_isBlank (List.all_eq_true.mp hgap d hd)
  exact ⟨mark ++ gap, c, space, (List.append_assoc _ _ _).symm, hc, List.forall_mem_append.mpr ⟨hmarks, hgaps⟩⟩

theorem IsLink.not_lacksSeparator {link : Text} (h : IsLink link) : ¬ LacksSeparator link := by
  obtain ⟨way, c, space, rfl, hc, -⟩ := h.exists_breaks
  intro hlacks
  have hmem : c ∈ way ++ c :: space := List.mem_append_right way List.mem_cons_self
  rcases hc with rfl | rfl
  · exact hlacks.1 hmem
  · exact hlacks.2 hmem

theorem behindKeyword?_of_lacksSeparator {t : Text} (h : LacksSeparator t) : behindKeyword? t = none := by
  have hseparator : behindSeparator? t = none := by
    rw [Option.eq_none_iff_forall_ne_some]
    intro u hu
    obtain ⟨link, hlink, rfl⟩ := exists_isLink_of_behindSeparator? hu
    exact hlink.not_lacksSeparator (h.of_subset (List.subset_append_left link u))
  rw [behindKeyword?, hseparator, Option.bind_none]

end SecretValue

def SecretMatch.renumber (σ : Nat → Nat) (m : SecretMatch) : SecretMatch := { m with line := σ m.line }

namespace SecretScanner

open Pattern
open SecretValue (LacksSeparator)

theorem valueAt?_of_lacksSeparator (p : Expr) {s : Place} (h : LacksSeparator s.after) :
    valueAt? p s = none := by
  cases hv : valueAt? p s with
  | none => rfl
  | some found =>
      obtain ⟨t, ⟨x, hx, -⟩, ht⟩ := p.run_forward flags s _ _ hv
      have hsuffix : t.after <:+ s.after := ⟨x, hx.symm⟩
      rw [SecretValue.behindKeyword?_of_lacksSeparator (h.of_subset hsuffix.subset)] at ht
      cases ht

theorem valuesFrom_of_lacksSeparator (p : Expr) (fuel : Nat) {s : Place} (h : LacksSeparator s.after) :
    valuesFrom p fuel s = [] := by
  induction fuel generalizing s with
  | zero => rfl
  | succ fuel ih =>
      rw [valuesFrom, valueAt?_of_lacksSeparator p h]
      cases hs : s.forward? with
      | none => rfl
      | some ahead =>
          obtain ⟨⟨x, hx, -⟩, -⟩ := Place.reaches_of_forward? hs
          have hsuffix : ahead.2.after <:+ s.after := ⟨x, hx.symm⟩
          exact ih (h.of_subset hsuffix.subset)

theorem matchesOf_of_lacksSeparator (placeholders : List Text) {l : Line} (h : LacksSeparator l.text)
    (r : SecretRule) : matchesOf placeholders l r = [] := by
  have hvalues : values r l.text = [] := valuesFrom_of_lacksSeparator _ _ h
  rw [matchesOf, hvalues, List.filter_nil, List.map_nil]

variable (s : SecretScanner)

theorem scan_cons (l : Line) (ls : List Line) :
    s.scan (l :: ls) = s.rules.flatMap (matchesOf s.placeholders l) ++ s.scan ls := by
  rw [scan, List.flatMap_cons, scan]

theorem scan_solid (ls : List Line) : s.scan (Line.solid ls) = s.scan ls := by
  refine Line.congr_solid ?_ ?_ ls
  · intro l ls h
    have hl : s.rules.flatMap (matchesOf s.placeholders l) = [] :=
      List.flatMap_eq_nil_iff.mpr fun r _ =>
        matchesOf_of_lacksSeparator s.placeholders (SecretValue.lacksSeparator_of_allBlank h) r
    rw [scan_cons, hl, List.nil_append]
  · intro l ls ms h
    rw [scan_cons, scan_cons, h]

theorem scan_map_renumber (σ : Nat → Nat) (ls : List Line) :
    s.scan (ls.map (Line.renumber σ)) = (s.scan ls).map (SecretMatch.renumber σ) := by
  have hmatches (l : Line) (r : SecretRule) : matchesOf s.placeholders (l.renumber σ) r =
      (matchesOf s.placeholders l r).map (SecretMatch.renumber σ) := by
    rw [matchesOf, matchesOf, List.map_map]
    rfl
  simp only [scan, List.flatMap_map, List.map_flatMap]
  congr 1
  funext l
  congr 1
  funext r
  exact hmatches l r

end SecretScanner

end Onboarding
