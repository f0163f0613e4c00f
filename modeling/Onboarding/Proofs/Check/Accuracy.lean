import Onboarding.Engine
import Onboarding.Proofs.Config.Reading
import Onboarding.Proofs.Document.Fields
import Onboarding.Proofs.Document.Lines

namespace Onboarding

namespace Diagnostic

def HasSuggestion (d : Diagnostic) : Prop := ∃ t, d.suggestion = some t ∧ t ≠ []

/-- The line, if there is one, is a line of the text, and there is something to suggest. -/
structure IsLocated (content : Text) (d : Diagnostic) : Prop where
  line : ∀ n, d.line = some n → 1 ≤ n ∧ n ≤ content.count '\n' + 1
  suggestion : d.HasSuggestion

variable {content : Text} {d : Diagnostic}

theorem HasSuggestion.isLocated (hs : d.HasSuggestion) (h : d.line = none) : IsLocated content d := by
  refine ⟨fun n hn => ?_, hs⟩
  rw [h] at hn
  cases hn

theorem HasSuggestion.isLocated_of_mem (hs : d.HasSuggestion) {l : Line} (hl : l ∈ Line.index content)
    (h : d.line = some (l.number : Int)) : IsLocated content d := by
  refine ⟨fun n hn => ?_, hs⟩
  obtain rfl := Option.some.inj (h.symm.trans hn)
  have hpos := Line.pos_of_mem_index hl
  have hle := Line.number_le_of_mem_index hl
  omega

theorem HasSuggestion.isLocated_first (hs : d.HasSuggestion) (h : d.line = some 1) :
    IsLocated content d := by
  refine ⟨fun n hn => ?_, hs⟩
  obtain rfl := Option.some.inj (h.symm.trans hn)
  omega

end Diagnostic

open Diagnostic (IsLocated HasSuggestion)

variable {content : Text}

namespace SecretScanner

def ReportsAlone (s : SecretScanner) (content : Text) (n : Nat) (category : Text) : Prop :=
  ∃ m ∈ s.scan (Line.index (Line.alone n content)), m.category = category

theorem exists_line_of_mem_scan {s : SecretScanner} {m : SecretMatch} {ls : List Line}
    (h : m ∈ s.scan ls) :
    ∃ l ∈ ls, m.line = l.number ∧ ∃ k ∈ s.scan [⟨1, l.text⟩], k.category = m.category := by
  simp only [scan, matchesOf, List.flatMap_cons, List.flatMap_nil, List.append_nil, List.mem_flatMap,
    List.mem_map] at h ⊢
  obtain ⟨l, hl, r, hr, value, hv, rfl⟩ := h
  exact ⟨l, hl, rfl, ⟨1, r.category⟩, ⟨r, hr, value, hv, rfl⟩, rfl⟩

theorem reportsAlone_of_mem_scan {s : SecretScanner} {m : SecretMatch}
    (h : m ∈ s.scan (Line.index content)) :
    (∃ l ∈ Line.index content, m.line = l.number) ∧ s.ReportsAlone content m.line m.category := by
  obtain ⟨l, hl, hn, hk⟩ := exists_line_of_mem_scan h
  refine ⟨⟨l, hl, hn⟩, ?_⟩
  rw [ReportsAlone, hn, Line.index_alone hl]
  exact hk

end SecretScanner

namespace Config

variable {key value : Text} {n : Nat}

theorem exists_lastAssigned_of_get? (h : (read content).topLevel.get? key = some value) :
    ∃ n, (read content).keyLines.get? key = some n ∧
      LastAssigned (Line.index content) none key value n := by
  have hd : (read content).Describes (Line.index content) := describes_ofLines _
  obtain ⟨n, hlast⟩ := hd.topLevel_eq_some_iff.mp h
  exact ⟨n, ((hd.topLevel_get? key value n).mpr hlast).2, hlast⟩

theorem LastAssigned.exists_line {ls : List Line} (h : LastAssigned ls none key value n) :
    ∃ l ∈ ls, l.number = n ∧ Assigns l key value := by
  obtain ⟨before, l, after, rfl, -, ha, hn, -⟩ := h
  exact ⟨l, by simp, hn, ha⟩

theorem LastAssigned.read_alone (h : LastAssigned (Line.index content) none key value n) :
    (read (Line.alone n content)).topLevel = [(key, value)] := by
  obtain ⟨l, hl, rfl, ha⟩ := h.exists_line
  have hentry : Entry.ofText l.text = .assignment key value := ofText_eq_assignment_iff.mpr ha
  rw [read, Line.index_alone hl, ofLines, List.foldl_cons, List.foldl_nil, Reader.next]
  simp only [hentry]
  rfl

end Config

namespace Agents

/-- An error of project instructions with the line it belongs to. -/
inductive IsAccurate (s : SecretScanner) (content : Text) : Diagnostic → Prop
  | empty (h : ∀ l ∈ Line.index content, Text.allBlank l.text = true) :
      IsAccurate s content Error.empty.diagnostic
  | noTitle {before : List Line} {l : Line} {after : List Line}
      (h : Line.index content = before ++ l :: after) (hl : Text.allBlank l.text = false)
      (hbefore : ∀ m ∈ before, Text.allBlank m.text = true) :
      IsAccurate s content (Error.noTitle l.number).diagnostic
  | secret {n : Nat} {category : Text} (h : s.ReportsAlone content n category) :
      IsAccurate s content (Error.secret ⟨n, category⟩).diagnostic

theorem Error.hasSuggestion (error : Error) : error.diagnostic.HasSuggestion := by
  cases error <;> exact ⟨_, rfl, by simp [-String.reduceToList]⟩

theorem sectionSuggestion_ne_nil (title : Text) : sectionSuggestion title ≠ [] := by
  simp only [sectionSuggestion]
  split
  · simp [-String.reduceToList]
  · split
    · simp [-String.reduceToList]
    · split <;> simp [-String.reduceToList]

theorem Warning.hasSuggestion (w : Warning) : w.diagnostic.HasSuggestion := by
  cases w with
  | missingSection title => exact ⟨_, rfl, sectionSuggestion_ne_nil title⟩
  | noSkillReference | fewExamples => exact ⟨_, rfl, by simp [-String.reduceToList]⟩

theorem isAccurate_of_mem_titleErrors {s : SecretScanner} {error : Error}
    (h : error ∈ titleErrors (Line.index content)) :
    IsAccurate s content error.diagnostic ∧ IsLocated content error.diagnostic := by
  rw [titleErrors] at h
  split at h
  · next hnone =>
      obtain rfl := List.mem_singleton.mp h
      refine ⟨.empty fun l hl => ?_, (Error.hasSuggestion .empty).isLocated_first rfl⟩
      simpa using List.find?_eq_none.mp hnone l hl
  · next l hsome =>
      split at h
      · cases h
      · obtain rfl := List.mem_singleton.mp h
        obtain ⟨hl, before, after, he, hbefore⟩ := List.find?_eq_some_iff_append.mp hsome
        refine ⟨.noTitle he (by simpa using hl) (by simpa using hbefore), ?_⟩
        exact (Error.hasSuggestion (.noTitle l.number)).isLocated_of_mem (List.mem_of_find?_eq_some hsome) rfl

theorem isAccurate_of_mem_secretErrors {s : SecretScanner} {error : Error}
    (h : error ∈ secretErrors s (Line.index content)) :
    IsAccurate s content error.diagnostic ∧ IsLocated content error.diagnostic := by
  obtain ⟨⟨n, category⟩, hm, rfl⟩ := List.mem_map.mp h
  obtain ⟨⟨l, hl, rfl⟩, halone⟩ := SecretScanner.reportsAlone_of_mem_scan hm
  exact ⟨.secret halone, (Error.hasSuggestion _).isLocated_of_mem hl rfl⟩

theorem isLocated_warning (content : Text) (w : Warning) : IsLocated content w.diagnostic := by
  cases w with
  | missingSection | noSkillReference | fewExamples =>
      exact (Warning.hasSuggestion _).isLocated rfl

end Agents

namespace Skill

theorem Error.hasSuggestion (error : Error) : error.diagnostic.HasSuggestion := by
  cases error <;> exact ⟨_, rfl, by simp [-String.reduceToList]⟩

theorem Warning.hasSuggestion (w : Warning) : w.diagnostic.HasSuggestion := by
  cases w <;> exact ⟨_, rfl, by simp [-String.reduceToList]⟩

theorem isLocated_error {error : Error} {required : List Text}
    (h : error ∈ errors required (FrontMatter.ofLines (Line.index content))) :
    IsLocated content error.diagnostic := by
  cases hm : FrontMatter.ofLines (Line.index content) with
  | absent =>
      rw [hm] at h
      obtain rfl := List.mem_singleton.mp h
      exact (Error.hasSuggestion _).isLocated_first rfl
  | unclosed first =>
      rw [hm] at h
      obtain rfl := List.mem_singleton.mp h
      obtain rfl := FrontMatter.first_of_unclosed hm
      exact (Error.hasSuggestion _).isLocated_first rfl
  | closed first last fields =>
      rw [hm] at h
      obtain ⟨name, -, rfl⟩ := List.mem_map.mp h
      obtain ⟨-, -, -, -, rfl, -⟩ := FrontMatter.ofLines_eq_closed hm
      exact (Error.hasSuggestion _).isLocated_first rfl

theorem isLocated_warning (content : Text) (w : Warning) : IsLocated content w.diagnostic := by
  cases w with
  | noPurpose | noTrigger => exact (Warning.hasSuggestion _).isLocated rfl

end Skill

namespace Tool

open Config (LastAssigned)

/-- The last line at the top of the text that assigns a value to the key, and what it says alone. -/
structure Blames (content : Text) (n : Nat) (key value : Text) : Prop where
  last : LastAssigned (Line.index content) none key value n
  alone : (Config.read (Line.alone n content)).topLevel = [(key, value)]

inductive IsAccurateError (content : Text) : Diagnostic → Prop
  | missingKey (key : Text) : IsAccurateError content (Error.missingKey key).diagnostic
  | unknownValue {key value : Text} {n : Nat} {allowed : List Text} (hv : value ∉ allowed)
      (h : Blames content n key value) :
      IsAccurateError content (Error.unknownValue key value (some n) allowed).diagnostic

inductive IsAccurateWarning (content : Text) : Diagnostic → Prop
  | noServer : IsAccurateWarning content Warning.noServer.diagnostic
  | neverAsks {n : Nat} (h : Blames content n approvalPolicy "never".toList) :
      IsAccurateWarning content (Warning.neverAsks (some n)).diagnostic
  | fullAccess {n : Nat} (h : Blames content n sandboxMode "danger-full-access".toList) :
      IsAccurateWarning content (Warning.fullAccess (some n)).diagnostic

variable {key value : Text} {n : Nat}

theorem exists_blames (h : (Config.read content).topLevel.get? key = some value) :
    ∃ n, (Config.read content).keyLines.get? key = some n ∧ Blames content n key value := by
  obtain ⟨n, hn, hlast⟩ := Config.exists_lastAssigned_of_get? h
  exact ⟨n, hn, hlast, hlast.read_alone⟩

theorem Error.hasSuggestion (error : Error) : error.diagnostic.HasSuggestion := by
  cases error <;> exact ⟨_, rfl, by simp [-String.reduceToList]⟩

theorem Warning.hasSuggestion (w : Warning) : w.diagnostic.HasSuggestion := by
  cases w <;> exact ⟨_, rfl, by simp [-String.reduceToList]⟩

theorem Blames.isLocated (h : Blames content n key value) {d : Diagnostic} (hs : d.HasSuggestion)
    (hd : d.line = some (n : Int)) : IsLocated content d := by
  obtain ⟨l, hl, rfl, -⟩ := h.last.exists_line
  exact hs.isLocated_of_mem hl hd

theorem isAccurate_of_mem_unknownValue {error : Error} {allowed : List Text}
    (h : error ∈ unknownValue key allowed (Config.read content)) :
    IsAccurateError content error.diagnostic ∧ IsLocated content error.diagnostic := by
  rw [unknownValue] at h
  split at h
  · cases h
  · next value hvalue =>
      split at h
      · cases h
      · next hv =>
          obtain ⟨n, hn, hblames⟩ := exists_blames hvalue
          obtain rfl := List.mem_singleton.mp h
          rw [hn]
          refine ⟨.unknownValue (fun hm => hv ?_) hblames, hblames.isLocated (Error.hasSuggestion _) rfl⟩
          exact List.contains_iff_mem.mpr hm

theorem isAccurate_of_mem_errors {settings : Settings} {error : Error}
    (h : error ∈ errors settings (Config.read content)) :
    IsAccurateError content error.diagnostic ∧ IsLocated content error.diagnostic := by
  rw [errors, List.mem_append, List.mem_append] at h
  rcases h with (h | h) | h
  · obtain ⟨key, -, rfl⟩ := List.mem_map.mp h
    exact ⟨.missingKey key, (Error.hasSuggestion _).isLocated rfl⟩
  · exact isAccurate_of_mem_unknownValue h
  · exact isAccurate_of_mem_unknownValue h

theorem exists_blames_of_isDefault (h : isDefault key value (Config.read content) = true) :
    ∃ n, (Config.read content).keyLines.get? key = some n ∧ Blames content n key value := by
  rw [isDefault, Bool.and_eq_true, beq_iff_eq] at h
  exact exists_blames h.1

theorem isAccurate_of_mem_warnings {w : Warning} (h : w ∈ warnings (Config.read content)) :
    IsAccurateWarning content w.diagnostic ∧ IsLocated content w.diagnostic := by
  rw [warnings, List.mem_append, List.mem_append] at h
  rcases h with (h | h) | h
  · split at h
    · cases h
    · obtain rfl := List.mem_singleton.mp h
      exact ⟨.noServer, (Warning.hasSuggestion _).isLocated rfl⟩
  · split at h
    · next hd =>
        obtain ⟨n, hn, hblames⟩ := exists_blames_of_isDefault hd
        obtain rfl := List.mem_singleton.mp h
        rw [hn]
        exact ⟨.neverAsks hblames, hblames.isLocated (Warning.hasSuggestion _) rfl⟩
    · cases h
  · split at h
    · next hd =>
        obtain ⟨n, hn, hblames⟩ := exists_blames_of_isDefault hd
        obtain rfl := List.mem_singleton.mp h
        rw [hn]
        exact ⟨.fullAccess hblames, hblames.isLocated (Warning.hasSuggestion _) rfl⟩
    · cases h

end Tool

namespace Engine

theorem isLocated_of_mem_errors {e : Engine} {k : DocumentKind} {d : Diagnostic}
    (h : d ∈ (e.validate k content).errors) : IsLocated content d := by
  cases k with
  | agents =>
      obtain ⟨error, he, rfl⟩ := List.mem_map.mp h
      rcases List.mem_append.mp he with he | he
      · exact (Agents.isAccurate_of_mem_titleErrors (s := e.scanner) he).2
      · exact (Agents.isAccurate_of_mem_secretErrors he).2
  | skill =>
      obtain ⟨error, he, rfl⟩ := List.mem_map.mp h
      exact Skill.isLocated_error he
  | config =>
      obtain ⟨error, he, rfl⟩ := List.mem_map.mp h
      exact (Tool.isAccurate_of_mem_errors he).2

theorem isLocated_of_mem_warnings {e : Engine} {k : DocumentKind} {d : Diagnostic}
    (h : d ∈ (e.validate k content).warnings) : IsLocated content d := by
  cases k with
  | agents =>
      obtain ⟨w, -, rfl⟩ := List.mem_map.mp h
      exact Agents.isLocated_warning content w
  | skill =>
      obtain ⟨w, -, rfl⟩ := List.mem_map.mp h
      exact Skill.isLocated_warning content w
  | config =>
      obtain ⟨w, hw, rfl⟩ := List.mem_map.mp h
      exact (Tool.isAccurate_of_mem_warnings hw).2

/-- What an engine reports, it locates: in no line but one of the document, always with a suggestion, and with
the line in which, alone, the same is found. -/
theorem validate_accurate (e : Engine) (content : Text) :
    (∀ k, ∀ d ∈ (e.validate k content).errors ++ (e.validate k content).warnings,
        IsLocated content d) ∧
      (∀ d ∈ (e.validate .agents content).errors, Agents.IsAccurate e.scanner content d) ∧
      (∀ d ∈ (e.validate .config content).errors, Tool.IsAccurateError content d) ∧
      ∀ d ∈ (e.validate .config content).warnings, Tool.IsAccurateWarning content d := by
  refine ⟨fun k d hd => ?_, fun d hd => ?_, fun d hd => ?_, fun d hd => ?_⟩
  · rcases List.mem_append.mp hd with hd | hd
    · exact isLocated_of_mem_errors hd
    · exact isLocated_of_mem_warnings hd
  · obtain ⟨error, he, rfl⟩ := List.mem_map.mp hd
    rcases List.mem_append.mp he with he | he
    · exact (Agents.isAccurate_of_mem_titleErrors he).1
    · exact (Agents.isAccurate_of_mem_secretErrors he).1
  · obtain ⟨error, he, rfl⟩ := List.mem_map.mp hd
    exact (Tool.isAccurate_of_mem_errors he).1
  · obtain ⟨w, hw, rfl⟩ := List.mem_map.mp hd
    exact (Tool.isAccurate_of_mem_warnings hw).1

def leakText : Text := "\nx\ntoken=hunter2!".toList

def policyText : Text := "approval_policy=x\napproval_policy='never'\nsandbox_mode=no".toList

/-- A credential behind a line that is no title, and a policy that is set twice. -/
theorem validate_accurate_default :
    ((Agents.Error.secret ⟨3, "token".toList⟩).diagnostic ∈ (default.validate .agents leakText).errors ∧
        Agents.IsAccurate default.scanner leakText
          (Agents.Error.secret ⟨3, "token".toList⟩).diagnostic) ∧
      ((Tool.Error.unknownValue Tool.sandboxMode "no".toList (some 3)
            Settings.default.sandboxModes).diagnostic ∈ (default.validate .config policyText).errors ∧
        Tool.IsAccurateError policyText
          (Tool.Error.unknownValue Tool.sandboxMode "no".toList (some 3)
            Settings.default.sandboxModes).diagnostic) ∧
      (Tool.Warning.neverAsks (some 2)).diagnostic ∈ (default.validate .config policyText).warnings ∧
        Tool.IsAccurateWarning policyText (Tool.Warning.neverAsks (some 2)).diagnostic := by
  have hleak : (Agents.Error.secret ⟨3, "token".toList⟩).diagnostic ∈
      (default.validate .agents leakText).errors :=
    have h : Agents.Error.secret ⟨3, "token".toList⟩ ∈
        Agents.errors SecretScanner.default (Line.index leakText) := by decide +kernel
    List.mem_map_of_mem h
  have herror : (Tool.Error.unknownValue Tool.sandboxMode "no".toList (some 3)
      Settings.default.sandboxModes).diagnostic ∈ (default.validate .config policyText).errors :=
    have h : Tool.Error.unknownValue Tool.sandboxMode "no".toList (some 3)
        Settings.default.sandboxModes ∈ Tool.errors Settings.default (Config.read policyText) := by
      decide +kernel
    List.mem_map_of_mem h
  have hwarning : (Tool.Warning.neverAsks (some 2)).diagnostic ∈
      (default.validate .config policyText).warnings :=
    have h : Tool.Warning.neverAsks (some 2) ∈ Tool.warnings (Config.read policyText) := by
      decide +kernel
    List.mem_map_of_mem h
  exact ⟨⟨hleak, (validate_accurate default leakText).2.1 _ hleak⟩,
    ⟨herror, (validate_accurate default policyText).2.2.1 _ herror⟩,
    hwarning, (validate_accurate default policyText).2.2.2 _ hwarning⟩

end Engine

end Onboarding
