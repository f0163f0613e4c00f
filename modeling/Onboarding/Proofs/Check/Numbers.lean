import Mathlib.Data.List.Forall2
import Onboarding.Proofs.Check.Blank

namespace Onboarding

open Config (shift)
open Line (solid)
open List (Forall₂)
open Text (allBlank insertLines)

variable {σ : Nat → Nat}

namespace Agents

def Error.renumber (σ : Nat → Nat) : Error → Error
  | .empty => .empty
  | .noTitle line => .noTitle (σ line)
  | .secret m => .secret (m.renumber σ)

theorem titleErrors_map_renumber (ls : List Line) :
    titleErrors (ls.map (Line.renumber σ)) = (titleErrors ls).map (Error.renumber σ) := by
  induction ls with
  | nil => rfl
  | cons l ls ih =>
      rw [List.map_cons, titleErrors_cons, titleErrors_cons, ih, Line.renumber]
      by_cases hblank : allBlank l.text = true
      · rw [if_pos hblank, if_pos hblank]
      · rw [if_neg hblank, if_neg hblank]
        by_cases ht : isTitle l.text = true
        · rw [if_pos ht, if_pos ht, List.map_nil]
        · rw [if_neg ht, if_neg ht, List.map_singleton, Error.renumber]

theorem errors_map_renumber (s : SecretScanner) (ls : List Line) :
    errors s (ls.map (Line.renumber σ)) = (errors s ls).map (Error.renumber σ) := by
  rw [errors, errors, titleErrors_map_renumber, List.map_append, secretErrors, secretErrors,
    s.scan_map_renumber, List.map_map, List.map_map]
  rfl

theorem warnings_congr (settings : Settings) {ls ms : List Line} (h : ls.map (·.text) = ms.map (·.text)) :
    warnings settings ls = warnings settings ms := by
  have hany (ls : List Line) : (ls.any fun l => hasSkillReference l.text) =
      (ls.map (·.text)).any hasSkillReference := by
    rw [List.any_map]
    rfl
  rw [warnings, warnings, sectionWarnings_congr (Section.map_title_scan_congr h), skillWarnings, skillWarnings,
    Fence.prose, Fence.prose, hany, hany, Fence.map_text_proseFrom_congr h, exampleWarnings, exampleWarnings,
    Fence.count, Fence.count, Fence.countFrom_congr h]

theorem empty_not_mem_errors {s : SecretScanner} {ls : List Line}
    (h : ∃ l ∈ ls, allBlank l.text = false) : .empty ∉ errors s ls := by
  rw [errors, List.mem_append, not_or]
  constructor
  · obtain ⟨l, hl, hblank⟩ := h
    obtain ⟨m, hm⟩ : ∃ m, (ls.find? fun l => !allBlank l.text) = some m := by
      rw [← Option.isSome_iff_exists, List.find?_isSome]
      exact ⟨l, hl, by rw [hblank, Bool.not_false]⟩
    rw [titleErrors, hm]
    by_cases ht : isTitle m.text = true <;> simp [ht]
  · rw [secretErrors, List.mem_map]
    rintro ⟨m, -, hm⟩
    cases hm

end Agents

namespace Config

theorem statements_map_renumber (ls : List Line) :
    statements (ls.map (Line.renumber σ)) = (statements ls).map fun e => (σ e.1, e.2) := by
  rw [statements, Line.filter_text_map_renumber, List.map_map, statements, List.map_map]
  rfl

theorem ofLines_map_renumber (ls : List Line) :
    ofLines (ls.map (Line.renumber σ)) = (ofLines ls).renumber σ :=
  ofLines_eq_renumber (statements_map_renumber ls)

end Config

namespace Tool

def Error.renumber (σ : Nat → Nat) : Error → Error
  | .missingKey key => .missingKey key
  | .unknownValue key value line allowed => .unknownValue key value (line.map σ) allowed

def Warning.renumber (σ : Nat → Nat) : Warning → Warning
  | .noServer => .noServer
  | .neverAsks line => .neverAsks (line.map σ)
  | .fullAccess line => .fullAccess (line.map σ)

theorem unknownValue_renumber (key : Text) (allowed : List Text) (c : Config) :
    unknownValue key allowed (c.renumber σ) = (unknownValue key allowed c).map (Error.renumber σ) := by
  simp only [unknownValue, Config.renumber, Table.get?_mapValues]
  split
  · rfl
  · split <;> rfl

theorem errors_renumber (settings : Settings) (c : Config) :
    errors settings (c.renumber σ) = (errors settings c).map (Error.renumber σ) := by
  have hmissing : missingKeys settings.configRequiredKeys (c.renumber σ) =
      (missingKeys settings.configRequiredKeys c).map (Error.renumber σ) := by
    rw [missingKeys, missingKeys, List.map_map]
    rfl
  rw [errors, errors, List.map_append, List.map_append, hmissing, unknownValue_renumber, unknownValue_renumber]

theorem warnings_renumber (c : Config) :
    warnings (c.renumber σ) = (warnings c).map (Warning.renumber σ) := by
  have hunder (start : Text) : (c.renumber σ).hasSectionUnder start = c.hasSectionUnder start := rfl
  have hdefault (key value : Text) : isDefault key value (c.renumber σ) = isDefault key value c := rfl
  have hlines : (c.renumber σ).keyLines = c.keyLines.mapValues σ := rfl
  rw [warnings, warnings, hunder, hdefault, hdefault, hlines, Table.get?_mapValues, Table.get?_mapValues,
    List.map_append, List.map_append]
  congr 1
  · congr 1
    · split <;> rfl
    · split <;> rfl
  · split <;> rfl

end Tool

namespace Diagnostic

/-- The number of a line once `k` lines are put in behind the first `i`. -/
def movedLine (i k : Nat) (n : Int) : Int := if n ≤ i then n else n + k

/-- The same diagnostic once the lines are put in. Its line moves, and where a credential is reported, so does the
number in the message. -/
inductive IsMoved (i k : Nat) : Diagnostic → Diagnostic → Prop
  | secret (m : SecretMatch) :
      IsMoved i k (Agents.Error.secret m).diagnostic
        (Agents.Error.secret { m with line := if m.line ≤ i then m.line else m.line + k }).diagnostic
  | other {d : Diagnostic} (h : ∀ m, d ≠ (Agents.Error.secret m).diagnostic) :
      IsMoved i k d { d with line := d.line.map (movedLine i k) }

variable {i k : Nat}

theorem isMoved_of_head? {d d' : Diagnostic} {c : Char} (hc : c ≠ 'P') (h : d.message.head? = some c)
    (hd : d' = { d with line := d.line.map (movedLine i k) }) : IsMoved i k d d' := by
  rw [hd]
  refine .other fun m hm => hc ?_
  rw [hm] at h
  exact (Option.some.inj h).symm

theorem natCast_shift (n : Nat) : ((shift i k n : Nat) : Int) = movedLine i k n := by
  rw [shift, movedLine]
  by_cases h : n ≤ i
  · rw [if_pos h, if_pos (Int.ofNat_le.mpr h)]
  · rw [if_neg h, if_neg fun hn => h (Int.ofNat_le.mp hn), Int.natCast_add]

theorem lineOf_map_shift (line : Option Nat) :
    Tool.lineOf (line.map (shift i k)) = (Tool.lineOf line).map (movedLine i k) := by
  cases line with
  | none => rfl
  | some n => exact congrArg some (natCast_shift n)

theorem isMoved_agentsError {error : Agents.Error} (h : error ≠ .empty) :
    IsMoved i k error.diagnostic (error.renumber (shift i k)).diagnostic := by
  cases error with
  | empty => exact absurd rfl h
  | noTitle line =>
      refine isMoved_of_head? (by decide) rfl ?_
      exact congrArg (fun n => Diagnostic.mk _ (some n) _) (natCast_shift line)
  | secret m => exact .secret m

theorem isMoved_agentsWarning (w : Agents.Warning) : IsMoved i k w.diagnostic w.diagnostic := by
  cases w with
  | missingSection | noSkillReference | fewExamples =>
      exact isMoved_of_head? (by decide) rfl rfl

theorem isMoved_toolError (error : Tool.Error) :
    IsMoved i k error.diagnostic (error.renumber (shift i k)).diagnostic := by
  cases error with
  | missingKey key => exact isMoved_of_head? (by decide) rfl rfl
  | unknownValue key value line allowed =>
      refine isMoved_of_head? (by decide) rfl ?_
      exact congrArg (fun n => Diagnostic.mk _ n _) (lineOf_map_shift line)

theorem isMoved_toolWarning (w : Tool.Warning) :
    IsMoved i k w.diagnostic (w.renumber (shift i k)).diagnostic := by
  cases w with
  | noServer => exact isMoved_of_head? (by decide) rfl rfl
  | neverAsks line | fullAccess line =>
      refine isMoved_of_head? (by decide) rfl ?_
      exact congrArg (fun n => Diagnostic.mk _ n _) (lineOf_map_shift line)

end Diagnostic

open Diagnostic (IsMoved)

theorem forall₂_isMoved {α : Type} {i k : Nat} {f : α → Diagnostic} {g : α → α} {as : List α}
    (h : ∀ a ∈ as, IsMoved i k (f a) (f (g a))) : Forall₂ (IsMoved i k) (as.map f) ((as.map g).map f) := by
  rw [List.forall₂_map_left_iff, List.forall₂_map_right_iff, List.forall₂_map_right_iff]
  exact List.forall₂_same.mpr h

variable {content : Text} {new : List Text} {i : Nat}

theorem Line.solid_index_insertLines (hi : i ≤ (index content).length)
    (hnew : ∀ t ∈ new, allBlank t = true ∧ '\n' ∉ t) :
    solid (index (insertLines i new content)) =
      (solid (index content)).map (renumber (shift i new.length)) := by
  have hblank : ∀ t ∈ new.map (Text.dropEnd '\r'), (!allBlank t) = false := by
    intro t ht
    obtain ⟨u, hu, rfl⟩ := List.mem_map.mp ht
    rw [Text.allBlank_of_subset (Text.dropEnd_subset '\r' u) (hnew u hu).1, Bool.not_true]
  rw [index, length_numberFrom] at hi
  rw [index_insertLines fun t ht => (hnew t ht).2, index]
  generalize (Text.splitOn '\n' content).map (Text.dropEnd '\r') = ts at hi
  have hlength : (ts.take i).length = i := List.length_take_of_le hi
  have hbefore : ∀ m ≤ (ts.take i).length, shift i new.length m = m := fun m hm =>
    if_pos (hlength ▸ hm)
  have hafter : ∀ m, (ts.take i).length < m →
      shift i new.length m = m + (new.map (Text.dropEnd '\r')).length := by
    intro m hm
    rw [List.length_map]
    exact if_neg (Nat.not_le_of_lt (hlength ▸ hm))
  have hinsert := filter_text_insert (ts.take i) hblank hbefore hafter (ts.drop i)
  rw [List.take_append_drop] at hinsert
  exact hinsert

theorem Agents.errors_insertLines (s : SecretScanner) (hi : i ≤ (Line.index content).length)
    (hnew : ∀ t ∈ new, allBlank t = true ∧ '\n' ∉ t) :
    errors s (Line.index (insertLines i new content)) =
      (errors s (Line.index content)).map (Error.renumber (shift i new.length)) := by
  rw [← errors_solid, Line.solid_index_insertLines hi hnew, errors_map_renumber, errors_solid]

theorem Agents.warnings_insertLines (settings : Settings) (hi : i ≤ (Line.index content).length)
    (hnew : ∀ t ∈ new, allBlank t = true ∧ '\n' ∉ t) :
    warnings settings (Line.index (insertLines i new content)) =
      warnings settings (Line.index content) := by
  rw [← warnings_solid, Line.solid_index_insertLines hi hnew,
    warnings_congr settings (Line.map_text_renumber _), warnings_solid]

theorem Config.read_insertBlank (hi : i ≤ (Line.index content).length)
    (hnew : ∀ t ∈ new, allBlank t = true ∧ '\n' ∉ t) :
    read (insertLines i new content) = (read content).renumber (shift i new.length) := by
  rw [read, ← ofLines_solid, Line.solid_index_insertLines hi hnew, ofLines_map_renumber, ofLines_solid, read]

/-- Blank lines that are put in, behind whatever line, move what is reported on the lines behind them and change
nothing else, in project instructions that are not blank and in the configuration of a tool. -/
theorem Engine.validate_insertBlank (e : Engine) (hi : i ≤ (Line.index content).length)
    (hnew : ∀ t ∈ new, allBlank t = true ∧ '\n' ∉ t) :
    ((∃ l ∈ Line.index content, allBlank l.text = false) →
      Forall₂ (IsMoved i new.length) (e.validate .agents content).errors
          (e.validate .agents (insertLines i new content)).errors ∧
        Forall₂ (IsMoved i new.length) (e.validate .agents content).warnings
          (e.validate .agents (insertLines i new content)).warnings) ∧
    Forall₂ (IsMoved i new.length) (e.validate .config content).errors
        (e.validate .config (insertLines i new content)).errors ∧
      Forall₂ (IsMoved i new.length) (e.validate .config content).warnings
        (e.validate .config (insertLines i new content)).warnings := by
  simp only [validate, Agents.check, Tool.check, Agents.errors_insertLines e.scanner hi hnew,
    Agents.warnings_insertLines e.settings hi hnew, Config.read_insertBlank hi hnew, Tool.errors_renumber,
    Tool.warnings_renumber]
  refine ⟨fun hsolid => ⟨?_, ?_⟩, ?_, ?_⟩
  · refine forall₂_isMoved fun error herror => Diagnostic.isMoved_agentsError ?_
    rintro rfl
    exact Agents.empty_not_mem_errors hsolid herror
  · rw [List.forall₂_map_left_iff, List.forall₂_map_right_iff]
    exact List.forall₂_same.mpr fun w _ => Diagnostic.isMoved_agentsWarning w
  · exact forall₂_isMoved fun error _ => Diagnostic.isMoved_toolError error
  · exact forall₂_isMoved fun w _ => Diagnostic.isMoved_toolWarning w

namespace Engine

def untitled : Text := "x\ntoken=hunter2!".toList

def unattended : Text := "approval_policy='never'\nsandbox_mode=no".toList

def blankLines : List Text := [" ".toList, "\t\r".toList]

/-- Two blank lines behind the first one: what is reported there stays, and what is reported on the next one moves. -/
theorem validate_insertBlank_default :
    (Forall₂ (IsMoved 1 2) (default.validate .agents untitled).errors
        (default.validate .agents (insertLines 1 blankLines untitled)).errors ∧
      (default.validate .agents untitled).errors =
        [(Agents.Error.noTitle 1).diagnostic, (Agents.Error.secret ⟨2, "token".toList⟩).diagnostic] ∧
      (default.validate .agents (insertLines 1 blankLines untitled)).errors =
        [(Agents.Error.noTitle 1).diagnostic, (Agents.Error.secret ⟨4, "token".toList⟩).diagnostic]) ∧
    Forall₂ (IsMoved 1 2) (default.validate .config unattended).errors
        (default.validate .config (insertLines 1 blankLines unattended)).errors ∧
      (default.validate .config unattended).errors.map (·.line) = [none, some 2] ∧
      (default.validate .config (insertLines 1 blankLines unattended)).errors.map (·.line) =
        [none, some 4] := by
  have hnew : ∀ t ∈ blankLines, allBlank t = true ∧ '\n' ∉ t := by decide
  have hi : 1 ≤ (Line.index untitled).length := by decide
  have hi' : 1 ≤ (Line.index unattended).length := by decide
  have hsolid : ∃ l ∈ Line.index untitled, allBlank l.text = false := by decide
  refine ⟨⟨((default.validate_insertBlank hi hnew).1 hsolid).1, ?_, ?_⟩,
    (default.validate_insertBlank hi' hnew).2.1, ?_, ?_⟩
  · decide +kernel
  · decide +kernel
  · decide +kernel
  · decide +kernel

end Engine

end Onboarding
