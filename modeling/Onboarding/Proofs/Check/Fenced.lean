import Onboarding.Check.Agents
import Onboarding.Proofs.Document.Blank
import Onboarding.Proofs.Document.Fences

namespace Onboarding

namespace Fence

theorem isTitle_of_isFence {t : Text} (h : isFence t = true) : Agents.isTitle t = false := by
  rw [Agents.isTitle.eq_def]
  split
  · next rest =>
      have htrim : Text.trimLeft ('#' :: rest) = '#' :: rest :=
        Text.trimLeft_cons_of_not (by decide) rest
      rw [isFence, htrim] at h
      cases h
  · rfl

end Fence

namespace Agents

open Fence (AgreeOutside InStep)

theorem titleErrors_cons (l : Line) (ls : List Line) :
    titleErrors (l :: ls) =
      if Text.allBlank l.text then titleErrors ls
      else if isTitle l.text then [] else [.noTitle l.number] := by
  by_cases h : Text.allBlank l.text = true
  · simp [titleErrors, h]
  · simp [titleErrors, h]

theorem titleErrors_of_isFence {l : Line} (h : Fence.isFence l.text = true) (ls : List Line) :
    titleErrors (l :: ls) = [.noTitle l.number] := by
  simp [titleErrors_cons, Fence.allBlank_of_isFence h, Fence.isTitle_of_isFence h]

theorem titleErrors_eq_of_inStep {ls ms : List Line} (h : InStep false ls ms) :
    titleErrors ls = titleErrors ms := by
  generalize hout : false = inside at h
  induction h with
  | nil => rfl
  | mark hl hm hn _ _ => rw [titleErrors_of_isFence hl, titleErrors_of_isFence hm, hn]
  | code => cases hout
  | prose _ _ ih => rw [titleErrors_cons, titleErrors_cons, ih rfl]

theorem warnings_eq_of_inStep {ls ms : List Line} (h : InStep false ls ms) (settings : Settings) :
    warnings settings ls = warnings settings ms := by
  have hprose : Fence.prose ls = Fence.prose ms := h.proseFrom_eq
  have hcount : Fence.count ls = Fence.count ms := h.countFrom_eq
  rw [warnings, warnings, skillWarnings, skillWarnings, exampleWarnings, exampleWarnings,
    Section.scan_eq_of_inStep h, hprose, hcount]

/-- Two documents that agree outside their code blocks have the same prose, the same sections and as many code
blocks, and no two checks tell them apart but the search for credentials. -/
theorem check_agreeOutside {a b : Text} (h : AgreeOutside (Line.index a) (Line.index b)) :
    Section.scan (Line.index a) = Section.scan (Line.index b) ∧
      Fence.prose (Line.index a) = Fence.prose (Line.index b) ∧
      Fence.count (Line.index a) = Fence.count (Line.index b) ∧
      titleErrors (Line.index a) = titleErrors (Line.index b) ∧
      ∀ (settings : Settings) (s : SecretScanner),
        check settings s b =
          { errors := (titleErrors (Line.index a)).map Error.diagnostic ++
              (secretErrors s (Line.index b)).map Error.diagnostic
            warnings := (check settings s a).warnings } := by
  have hstep := h.inStep
  have htitle := titleErrors_eq_of_inStep hstep
  refine ⟨Section.scan_eq_of_inStep hstep, hstep.proseFrom_eq, hstep.countFrom_eq, htitle, ?_⟩
  intro settings s
  simp only [check, errors, List.map_append, htitle, warnings_eq_of_inStep hstep settings]

def fenced (code : Text) : Text := "\n# App\n```".toList ++ code ++ "\n```\nUse $deploy.".toList

/-- A heading, a reference and a password in a code block, and another block in their place. -/
theorem check_agreeOutside_fenced :
    AgreeOutside (Line.index (fenced "\n# Setup $skill\npassword: hunter2hunter2".toList))
        (Line.index (fenced "sh\n\n  make".toList)) ∧
      (check Settings.default SecretScanner.default
          (fenced "\n# Setup $skill\npassword: hunter2hunter2".toList)).errors.length = 1 ∧
      check Settings.default SecretScanner.default (fenced "sh\n\n  make".toList) =
        { errors := []
          warnings := (check Settings.default SecretScanner.default
            (fenced "\n# Setup $skill\npassword: hunter2hunter2".toList)).warnings } := by
  have h : AgreeOutside (Line.index (fenced "\n# Setup $skill\npassword: hunter2hunter2".toList))
      (Line.index (fenced "sh\n\n  make".toList)) := by decide +kernel
  refine ⟨h, by decide +kernel, ?_⟩
  rw [(check_agreeOutside h).2.2.2.2]
  decide +kernel

end Agents

end Onboarding
