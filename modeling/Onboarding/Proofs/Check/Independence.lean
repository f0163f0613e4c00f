import Onboarding.Proofs.Check.Insertion

namespace Onboarding

namespace Line

def upTo (n : Nat) (ls : List Line) : List Line := ls.filter (·.number ≤ n)

def beyond (n : Nat) (ls : List Line) : List Line := ls.filter (n < ·.number)

variable {n last : Nat} {before : List Text}

theorem cut_numberFrom_append (h : n + before.length = last + 1) (after : List Text) :
    upTo last (numberFrom n (before ++ after)) = numberFrom n before ∧
      beyond last (numberFrom n (before ++ after)) = numberFrom (last + 1) after := by
  have hbefore : ∀ l ∈ numberFrom n before, l.number ≤ last := by
    intro l hl
    have := number_lt_of_mem hl
    omega
  have hafter : ∀ l ∈ numberFrom (last + 1) after, last < l.number := fun l hl => le_number_of_mem hl
  rw [upTo, beyond, numberFrom_append, h, List.filter_append, List.filter_append]
  constructor
  · rw [List.filter_eq_self.mpr fun l hl => decide_eq_true (hbefore l hl),
      List.filter_eq_nil_iff.mpr fun l hl => by simpa using hafter l hl, List.append_nil]
  · rw [List.filter_eq_nil_iff.mpr fun l hl => by simpa using hbefore l hl,
      List.filter_eq_self.mpr fun l hl => decide_eq_true (hafter l hl), List.nil_append]

end Line

namespace FrontMatter

variable {content : Text} {first last : Nat} {fields : Table Text Text}

theorem exists_parts_of_closed (h : ofLines (Line.index content) = .closed first last fields) :
    ∃ block behind, marker ∉ block ∧
      Line.index content = Line.numberFrom 1 (marker :: (block ++ marker :: behind)) ∧
      Line.upTo last (Line.index content) = Line.numberFrom 1 (marker :: (block ++ [marker])) ∧
      (Line.beyond last (Line.index content)).map (·.text) = behind := by
  rw [Line.index] at h ⊢
  obtain ⟨block, behind, hts, hblock, -, rfl, -⟩ := ofLines_eq_closed h
  have hsplit : marker :: (block ++ marker :: behind) = (marker :: (block ++ [marker])) ++ behind := by
    simp
  have hlast : 1 + (marker :: (block ++ [marker])).length = 1 + 1 + block.length + 1 := by
    simp
    omega
  obtain ⟨hupTo, hbeyond⟩ := Line.cut_numberFrom_append hlast behind
  refine ⟨block, behind, hblock, by rw [hts], ?_, ?_⟩
  · rw [hts, hsplit, hupTo]
  · rw [hts, hsplit, hbeyond, Line.map_text_numberFrom]

theorem block_eq_of_numberFrom_eq {n : Nat} {block block' : List Text}
    (h : Line.numberFrom n (marker :: (block ++ [marker])) =
      Line.numberFrom n (marker :: (block' ++ [marker]))) : block = block' := by
  have htexts := congrArg (List.map Line.text) h
  rw [Line.map_text_numberFrom, Line.map_text_numberFrom] at htexts
  exact List.append_cancel_right (List.cons.inj htexts).2

end FrontMatter

namespace Skill

open FrontMatter (marker)

theorem check_unclosed {content : Text} {first : Nat}
    (h : FrontMatter.ofLines (Line.index content) = .unclosed first) (settings : Settings) :
    check settings content = { errors := [(Error.unclosed 1).diagnostic], warnings := [] } := by
  have hfirst : first = 1 := FrontMatter.first_of_unclosed h
  rw [hfirst] at h
  simp only [check, h, errors, warnings, List.map_cons, List.map_nil]

/-- Documents whose front matter is the same have the same errors, and documents whose bodies have the same texts
have the same warnings, whatever stands in the other part. Of a document whose front matter has no end there is
one report, whatever its other lines are. -/
theorem check_independent (settings : Settings) (a : Text) :
    (∀ first last fields, FrontMatter.ofLines (Line.index a) = .closed first last fields →
      ∀ b first' last' fields', FrontMatter.ofLines (Line.index b) = .closed first' last' fields' →
        (Line.upTo last (Line.index a) = Line.upTo last' (Line.index b) →
          (check settings a).errors = (check settings b).errors) ∧
        ((Line.beyond last (Line.index a)).map (·.text) =
            (Line.beyond last' (Line.index b)).map (·.text) →
          (check settings a).warnings = (check settings b).warnings)) ∧
    ∀ first, FrontMatter.ofLines (Line.index a) = .unclosed first →
      check settings a = { errors := [(Error.unclosed 1).diagnostic], warnings := [] } := by
  constructor
  · intro first last fields ha b first' last' fields' hb
    obtain ⟨block, behind, hblock, hindex, hfront, hbody⟩ := FrontMatter.exists_parts_of_closed ha
    obtain ⟨block', behind', hblock', hindex', hfront', hbody'⟩ :=
      FrontMatter.exists_parts_of_closed hb
    rw [check_closed hblock hindex, check_closed hblock' hindex', hfront, hfront', hbody, hbody']
    constructor
    · intro hfronts
      rw [FrontMatter.block_eq_of_numberFrom_eq hfronts]
    · intro hbodies
      rw [hbodies]
  · intro first h
    exact check_unclosed h settings

def shortFront : Text := "---\nname: n\n---\n".toList

def longFront : Text := "---\n\x60\x60\x60\n# Purpose\ndescription: |\n  # Triggers\n\n---\n".toList

def fullBody : Text := "# Purpose\n---\n\x60\x60\x60\n# When to Use".toList

def otherBody : Text := "\x60\x60\x60\nname: m".toList

/-- Front matter with a fence and with headings before the same body, another body behind the same front matter,
and front matter that a fence does not close. -/
theorem check_independent_parts :
    (check Settings.default (longFront ++ fullBody)).warnings =
        (check Settings.default (shortFront ++ fullBody)).warnings ∧
      (check Settings.default (longFront ++ fullBody)).errors =
        (check Settings.default (longFront ++ otherBody)).errors ∧
      (check Settings.default (longFront ++ fullBody)).errors =
        [(Error.missingField "name".toList 1).diagnostic] ∧
      check Settings.default "---\n\x60\x60\x60\n# Purpose".toList =
        { errors := [(Error.unclosed 1).diagnostic], warnings := [] } := by
  have hlong : FrontMatter.ofLines (Line.index (longFront ++ fullBody)) =
      .closed 1 7 [("description".toList, "# Triggers".toList)] := by decide +kernel
  have hshort : FrontMatter.ofLines (Line.index (shortFront ++ fullBody)) =
      .closed 1 3 [("name".toList, "n".toList)] := by decide +kernel
  have hother : FrontMatter.ofLines (Line.index (longFront ++ otherBody)) =
      .closed 1 7 [("description".toList, "# Triggers".toList)] := by decide +kernel
  have hfence : FrontMatter.ofLines (Line.index "---\n\x60\x60\x60\n# Purpose".toList) =
      .unclosed 1 := by decide +kernel
  have hclosed := (check_independent Settings.default (longFront ++ fullBody)).1 _ _ _ hlong
  refine ⟨(hclosed _ _ _ _ hshort).2 (by decide +kernel), (hclosed _ _ _ _ hother).1 (by decide +kernel),
    by decide +kernel, (check_independent Settings.default _).2 _ hfence⟩

end Skill

end Onboarding
