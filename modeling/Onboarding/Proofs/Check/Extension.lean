import Mathlib.Data.List.Forall2
import Onboarding.Check.Agents
import Onboarding.Proofs.Document.Parts

namespace Onboarding

open List (SublistForall₂)

theorem sublistForall₂_append {α β : Type} {R : α → β → Prop} {as cs : List α} {bs ds : List β}
    (h : SublistForall₂ R as bs) (h' : SublistForall₂ R cs ds) :
    SublistForall₂ R (as ++ cs) (bs ++ ds) := by
  induction h with
  | @nil bs =>
      induction bs with
      | nil => exact h'
      | cons b bs ih => exact .cons_right ih
  | cons hab _ ih => exact .cons hab ih
  | cons_right _ ih => exact .cons_right ih

theorem sublistForall₂_map {α β : Type} {R : β → β → Prop} {f : α → β} {as bs : List α}
    (h : as.Sublist bs) (hf : ∀ a, R (f a) (f a)) : SublistForall₂ R (as.map f) (bs.map f) := by
  rw [List.sublistForall₂_map_left_iff, List.sublistForall₂_map_right_iff, List.sublistForall₂_iff]
  exact ⟨as, List.forall₂_same.mpr fun a _ => hf a, h⟩

namespace Agents

/-- A warning on a longer document, and the one on the shorter document that is left of it. -/
inductive IsLeftOf : Diagnostic → Diagnostic → Prop
  | missingSection (title : Text) :
      IsLeftOf (Warning.missingSection title).diagnostic (Warning.missingSection title).diagnostic
  | noSkillReference :
      IsLeftOf Warning.noSkillReference.diagnostic Warning.noSkillReference.diagnostic
  | fewExamples {found more : Nat} (h : found ≤ more) (wanted : Nat) :
      IsLeftOf (Warning.fewExamples more wanted).diagnostic
        (Warning.fewExamples found wanted).diagnostic

theorem IsLeftOf.same (w : Warning) : IsLeftOf w.diagnostic w.diagnostic := by
  cases w with
  | missingSection title => exact .missingSection title
  | noSkillReference => exact .noSkillReference
  | fewExamples found wanted => exact .fewExamples (Nat.le_refl found) wanted

theorem titleErrors_append {ls : List Line} (h : ∃ l ∈ ls, Text.allBlank l.text = false)
    (ms : List Line) : titleErrors (ls ++ ms) = titleErrors ls := by
  have hsome : (ls.find? fun l => !Text.allBlank l.text).isSome := by
    rw [List.find?_isSome]
    obtain ⟨l, hl, hblank⟩ := h
    exact ⟨l, hl, by rw [hblank, Bool.not_false]⟩
  rw [titleErrors, titleErrors, List.find?_append, Option.or_of_isSome hsome]

theorem errors_append {ls : List Line} (h : ∃ l ∈ ls, Text.allBlank l.text = false)
    (s : SecretScanner) (ms : List Line) :
    errors s (ls ++ ms) = errors s ls ++ secretErrors s ms := by
  rw [errors, errors, titleErrors_append h, secretErrors, SecretScanner.scan, List.flatMap_append,
    List.map_append, List.append_assoc]
  rfl

variable (ls ms : List Line)

theorem sectionWarnings_append_sublist (titles : List Text) :
    (sectionWarnings titles (Section.scan (ls ++ ms))).Sublist
      (sectionWarnings titles (Section.scan ls)) := by
  refine (List.monotone_filter_right titles fun title hmissing => ?_).map Warning.missingSection
  rw [Section.isNone_find?_scan, List.all_eq_true] at hmissing ⊢
  exact fun k hk => hmissing k ((Section.headings_prefix_append ls ms).subset hk)

theorem skillWarnings_append_sublist : (skillWarnings (ls ++ ms)).Sublist (skillWarnings ls) := by
  rw [skillWarnings, skillWarnings]
  by_cases h : ((Fence.prose ls).any fun l => hasSkillReference l.text) = true
  · have hmore : ((Fence.prose (ls ++ ms)).any fun l => hasSkillReference l.text) = true := by
      obtain ⟨l, hl, href⟩ := List.any_eq_true.mp h
      exact List.any_eq_true.mpr ⟨l, (Fence.prose_prefix_append ls ms).subset hl, href⟩
    rw [if_pos hmore]
    exact List.nil_sublist _
  · rw [if_neg h]
    split
    · exact List.nil_sublist _
    · exact List.Sublist.refl _

theorem exampleWarnings_append (wanted : Nat) : SublistForall₂ IsLeftOf
    ((exampleWarnings wanted (ls ++ ms)).map Warning.diagnostic)
    ((exampleWarnings wanted ls).map Warning.diagnostic) := by
  have hcount := Fence.count_le_count_append ls ms
  rw [exampleWarnings, exampleWarnings]
  by_cases h : Fence.count (ls ++ ms) < wanted
  · rw [if_pos h, if_pos (Nat.lt_of_le_of_lt hcount h)]
    exact .cons (.fewExamples hcount wanted) .nil
  · rw [if_neg h]
    exact .nil

theorem warnings_append (settings : Settings) : SublistForall₂ IsLeftOf
    ((warnings settings (ls ++ ms)).map Warning.diagnostic)
    ((warnings settings ls).map Warning.diagnostic) := by
  simp only [warnings, List.map_append]
  refine sublistForall₂_append (sublistForall₂_append ?_ ?_) (exampleWarnings_append ls ms _)
  · exact sublistForall₂_map (sectionWarnings_append_sublist ls ms _) IsLeftOf.same
  · exact sublistForall₂_map (skillWarnings_append_sublist ls ms) IsLeftOf.same

/-- Behind a document with a line that is not blank, more text only adds errors behind those there are. Each warning
that it leaves was there before, in the same order; only the code blocks that were counted may have become more. -/
theorem check_append_sep (settings : Settings) (s : SecretScanner) {content : Text}
    (h : ∃ l ∈ Line.index content, Text.allBlank l.text = false) (behind : Text) :
    (check settings s content).errors <+: (check settings s (content ++ '\n' :: behind)).errors ∧
      SublistForall₂ IsLeftOf (check settings s (content ++ '\n' :: behind)).warnings
        (check settings s content).warnings := by
  simp only [check, Line.index_append_sep]
  constructor
  · rw [errors_append h, List.map_append]
    exact List.prefix_append _ _
  · exact warnings_append _ _ settings

def openBlock : Text := "App\n\x60\x60\x60\n# Setup".toList

def secondBlock : Text := "token=hunter2!\n\x60\x60\x60\n# Setup\nUse $deploy.\n\x60\x60\x60".toList

/-- A code block that is open at the seam is closed behind it, where a section, a reference, a credential and a second
block follow. -/
theorem check_append_sep_openBlock :
    (∃ l ∈ Line.index openBlock, Text.allBlank l.text = false) ∧
      ((check Settings.default SecretScanner.default openBlock).errors <+:
          (check Settings.default SecretScanner.default (openBlock ++ '\n' :: secondBlock)).errors ∧
        SublistForall₂ IsLeftOf
          (check Settings.default SecretScanner.default (openBlock ++ '\n' :: secondBlock)).warnings
          (check Settings.default SecretScanner.default openBlock).warnings) ∧
      (warnings Settings.default (Line.index openBlock)).length = 5 ∧
      errors SecretScanner.default (Line.index (openBlock ++ '\n' :: secondBlock)) =
        [.noTitle 1, .secret ⟨4, "token".toList⟩] ∧
      warnings Settings.default (Line.index (openBlock ++ '\n' :: secondBlock)) =
        [.missingSection "Code Standards".toList, .missingSection "Security".toList] := by
  have h : ∃ l ∈ Line.index openBlock, Text.allBlank l.text = false := by decide
  exact ⟨h, check_append_sep Settings.default SecretScanner.default h secondBlock,
    by decide +kernel, by decide +kernel, by decide +kernel⟩

end Agents

end Onboarding
