import Onboarding.Engine
import Onboarding.Proofs.Check.Fenced
import Onboarding.Proofs.Check.Insertion
import Onboarding.Proofs.Config.Layout
import Onboarding.Proofs.Secret.Blank

namespace Onboarding

open Line (solid)

theorem Line.any_solid {p : Text → Bool} (h : ∀ t, Text.allBlank t = true → p t = false)
    (ls : List Line) : ((solid ls).any fun l => p l.text) = ls.any fun l => p l.text := by
  refine congr_solid (f := fun ls => ls.any fun l => p l.text) ?_ ?_ ls
  · intro l ls hl
    rw [List.any_cons, h l.text hl, Bool.false_or]
  · intro l ls ms hls
    rw [List.any_cons, List.any_cons, hls]

namespace Agents

theorem titleErrors_solid (ls : List Line) : titleErrors (solid ls) = titleErrors ls := by
  refine Line.congr_solid ?_ ?_ ls
  · intro l ls h
    rw [titleErrors_cons, if_pos h]
  · intro l ls ms h
    rw [titleErrors_cons, titleErrors_cons, h]

theorem hasSkillReference_of_allBlank (t : Text) (h : Text.allBlank t = true) :
    hasSkillReference t = false := by
  induction t with
  | nil => rfl
  | cons c t ih =>
      rw [Text.allBlank, List.all_cons, Bool.and_eq_true] at h
      have hc : (c == '$') = false := by
        rw [beq_eq_false_iff_ne]
        rintro rfl
        exact absurd h.1 (by decide)
      rw [hasSkillReference, hc, Bool.false_and, Bool.false_or]
      exact ih h.2

theorem errors_solid (s : SecretScanner) (ls : List Line) : errors s (solid ls) = errors s ls := by
  rw [errors, errors, titleErrors_solid, secretErrors, secretErrors, s.scan_solid]

theorem sectionWarnings_congr {ss us : List Section} (h : ss.map (·.title) = us.map (·.title))
    (titles : List Text) : sectionWarnings titles ss = sectionWarnings titles us := by
  simp only [sectionWarnings, Section.isNone_find?_congr h]

theorem warnings_solid (settings : Settings) (ls : List Line) :
    warnings settings (solid ls) = warnings settings ls := by
  rw [warnings, warnings, sectionWarnings_congr (Section.map_title_scan_solid ls), skillWarnings,
    skillWarnings, Fence.prose, Fence.prose, Fence.proseFrom_solid,
    Line.any_solid hasSkillReference_of_allBlank, exampleWarnings, exampleWarnings, Fence.count,
    Fence.count, Fence.countFrom_solid]

theorem check_congr_solid {a b : Text} (h : solid (Line.index a) = solid (Line.index b))
    (settings : Settings) (s : SecretScanner) : check settings s a = check settings s b := by
  simp only [check]
  rw [← errors_solid, ← warnings_solid, h, errors_solid, warnings_solid]

end Agents

namespace Config

theorem statements_solid (ls : List Line) : statements (solid ls) = statements ls := by
  refine Line.congr_solid ?_ ?_ ls
  · intro l ls h
    rw [statements_cons, if_pos (IsInert.blank h).ofText_eq]
  · intro l ls ms h
    rw [statements_cons, statements_cons, h]

theorem ofLines_solid (ls : List Line) : ofLines (solid ls) = ofLines ls := by
  rw [ofLines, ofLines, Reader.foldl_next_eq, Reader.foldl_next_eq, statements_solid]

end Config

theorem Tool.check_congr_solid {a b : Text} (h : solid (Line.index a) = solid (Line.index b))
    (settings : Settings) : check settings a = check settings b := by
  simp only [check, Config.read]
  rw [← Config.ofLines_solid, h, Config.ofLines_solid]

namespace Skill

open FrontMatter (Alike)

theorem errors_congr {m m' : FrontMatter} (h : Alike m m') (required : List Text) :
    errors required m = errors required m' := by
  cases h with
  | absent | unclosed => rfl
  | @closed first last fields fields' h =>
      have hhas : ∀ name ∈ required, (!fields.has name) = !fields'.has name := by
        intro name _
        rw [Bool.eq_iff_iff, Bool.not_eq_true', Bool.not_eq_true', ← Bool.not_eq_true,
          ← Bool.not_eq_true, Table.has, Table.has, ← Table.mem_keys_iff, ← Table.mem_keys_iff, h]
      rw [errors, errors, List.filter_congr hhas]

theorem bodyWarnings_congr_solid {ls ms : List Line} (h : solid ls = solid ms) (settings : Settings) :
    bodyWarnings settings ls = bodyWarnings settings ms := by
  refine bodyWarnings_congr ?_ settings
  rw [← Section.map_title_scan_solid, h, Section.map_title_scan_solid]

theorem warnings_congr {ts us : List Text}
    (h : solid (Line.numberFrom 1 ts) = solid (Line.numberFrom 1 us)) {m m' : FrontMatter}
    (hm : Alike m m') (settings : Settings) :
    warnings settings (Line.numberFrom 1 ts) m = warnings settings (Line.numberFrom 1 us) m' := by
  cases hm with
  | absent => exact bodyWarnings_congr_solid h settings
  | unclosed => rfl
  | closed first last => exact bodyWarnings_congr_solid (Line.solid_drop_congr h last) settings

theorem check_congr_solid {a b : Text} (h : solid (Line.index a) = solid (Line.index b))
    (settings : Settings) : check settings a = check settings b := by
  have halike : Alike (FrontMatter.ofLines (Line.index a)) (FrontMatter.ofLines (Line.index b)) :=
    FrontMatter.ofLines_alike h
  have hwarnings : warnings settings (Line.index a) (FrontMatter.ofLines (Line.index a)) =
      warnings settings (Line.index b) (FrontMatter.ofLines (Line.index b)) :=
    warnings_congr h halike settings
  simp only [check]
  rw [errors_congr halike, hwarnings]

end Skill

/-- A report is made from the lines that are not blank and from their numbers. -/
theorem Engine.validate_congr_solid (e : Engine) (k : DocumentKind) {a b : Text}
    (h : solid (Line.index a) = solid (Line.index b)) : e.validate k a = e.validate k b := by
  cases k with
  | agents => exact Agents.check_congr_solid h e.settings e.scanner
  | skill => exact Skill.check_congr_solid h e.settings
  | config => exact Tool.check_congr_solid h e.settings

end Onboarding
