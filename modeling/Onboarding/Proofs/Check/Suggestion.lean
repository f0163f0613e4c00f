import Onboarding.Engine
import Onboarding.Proofs.Document.Headings
import Onboarding.Proofs.Document.Parts
import Onboarding.Proofs.Document.Sections

namespace Onboarding

/-- A title that a heading keeps as it is, in one line and with no reference to a skill. -/
structure IsPlainTitle (title : Text) : Prop where
  ne_nil : title ≠ []
  noLineFeed : '\n' ∉ title
  isTrimmed : Text.IsTrimmed title
  noDollar : '$' ∉ title
  /-- Hashes behind a blank would close the heading. -/
  noClosing : ∀ front c n, Text.isBlank c = true → title ≠ front ++ c :: List.replicate (n + 1) '#'

def headingLine (title : Text) : Text := '#' :: '#' :: ' ' :: title

/-- The text with one line more, the heading of a section with the title. -/
def Text.withHeading (title content : Text) : Text := content ++ '\n' :: headingLine title

/-- Equal in small letters, once the blanks around them are gone. -/
def SameTitle (t u : Text) : Prop := Text.lower (Text.trim t) = Text.lower (Text.trim u)

instance (t u : Text) : Decidable (SameTitle t u) := inferInstanceAs (Decidable (_ = _))

variable {title content : Text}

namespace Heading

theorem openEnded_eq_self {t : Text}
    (h : ∀ front c n, Text.isBlank c = true → t ≠ front ++ c :: List.replicate (n + 1) '#') :
    openEnded t = t := by
  apply openEnded_of_not
  rintro title ⟨⟨blanks, n, hne, hblanks, ht⟩, -⟩
  obtain ⟨front, c, rfl⟩ := (List.eq_nil_or_concat' blanks).resolve_left hne
  have hc : Text.isBlank c = true := List.all_eq_true.mp hblanks c (by simp)
  apply h (title ++ front) c n hc
  rw [ht, List.append_assoc, List.append_assoc, List.singleton_append]

theorem ofLine?_headingLine (h : IsPlainTitle title) (n : Nat) :
    ofLine? ⟨n, headingLine title⟩ = some ⟨2, title, n⟩ := by
  obtain ⟨c, rest, rfl⟩ := List.exists_cons_of_ne_nil h.ne_nil
  have hc : Text.isBlank c = false := by simpa using h.isTrimmed.1
  have hspace : (c == ' ') = false := by
    rw [beq_eq_false_iff_ne]
    rintro rfl
    exact absurd hc (by decide)
  have htake : (headingLine (c :: rest)).takeWhile (· == '#') = ['#', '#'] := by simp [headingLine]
  have hdrop : (headingLine (c :: rest)).dropWhile (· == '#') = ' ' :: c :: rest := by
    simp [headingLine]
  have hrest : (' ' :: c :: rest).dropWhile (· == ' ') = c :: rest := by simp [hspace]
  have hsolid : Text.allBlank (c :: rest) = false := by simp [Text.allBlank, hc]
  have htitle : titleOf (c :: rest) = c :: rest := by
    rw [titleOf, h.isTrimmed.trimRight_eq, openEnded_eq_self h.noClosing]
    rfl
  simp only [ofLine?, htake, hdrop, hrest, hsolid, htitle]
  rfl

end Heading

theorem Line.index_withHeading (h : IsPlainTitle title) (content : Text) :
    ∃ n, index (Text.withHeading title content) = index content ++ [⟨n, headingLine title⟩] := by
  have hline : '\n' ∉ headingLine title := by
    simpa [headingLine] using h.noLineFeed
  have hend : (headingLine title).getLast? ≠ some '\r' :=
    Text.getLast?_append_cons_ne (by decide) (by decide) ['#', '#'] h.isTrimmed
  refine ⟨1 + (index content).length, ?_⟩
  rw [Text.withHeading, index_append_sep, Text.splitOn_of_not_mem hline, List.map_singleton,
    Text.dropEnd, if_neg hend]
  rfl

section Behind

variable {ls : List Line} {l : Line} {k : Heading}

theorem Fence.prose_concat (h : Even (marks ls)) (hk : Heading.ofLine? l = some k) :
    prose (ls ++ [l]) = prose ls ++ [l] := by
  rw [prose_append_of_even h, Heading.prose_cons_of_ofLine? hk]
  rfl

theorem Fence.count_concat (h : Even (marks ls)) (hk : Heading.ofLine? l = some k) :
    count (ls ++ [l]) = count ls := by
  rw [count_append_of_even h, count, count, countFrom, Heading.isFence_of_ofLine? hk]
  rfl

theorem Section.isNone_find?_scan_concat (h : Even (Fence.marks ls)) (hk : Heading.ofLine? l = some k)
    (titles : List Text) : (find? (scan (ls ++ [l])) titles).isNone =
      (!(wanted titles).contains (Text.lower k.title) && (find? (scan ls) titles).isNone) := by
  rw [isNone_find?_scan, isNone_find?_scan, headings_append_of_even h,
    Heading.headings_cons_of_ofLine? hk, List.all_append, List.all_cons, Bool.and_comm]
  exact congrArg (· && _) (Bool.and_true _)

end Behind

namespace Agents

/-- The diagnostic misses a section with the title, up to case and outer blanks. -/
def AsksFor (title : Text) (d : Diagnostic) : Prop :=
  ∃ t, SameTitle t title ∧ d = (Warning.missingSection t).diagnostic

theorem diagnostic_missingSection_inj {t u : Text} :
    (Warning.missingSection t).diagnostic = (Warning.missingSection u).diagnostic ↔ t = u := by
  constructor
  · intro h
    exact List.append_cancel_left (congrArg Diagnostic.message h)
  · rintro rfl
    rfl

theorem asksFor_missingSection {t : Text} :
    AsksFor title (Warning.missingSection t).diagnostic ↔ SameTitle t title := by
  simp only [AsksFor, diagnostic_missingSection_inj]
  constructor
  · rintro ⟨u, hu, rfl⟩
    exact hu
  · exact fun h => ⟨t, h, rfl⟩

/-- The title that a diagnostic misses stands at the end of its message. -/
theorem asksFor_iff {d : Diagnostic} : AsksFor title d ↔
    SameTitle (d.message.drop "Missing recommended section: ".length) title ∧
      d = (Warning.missingSection
        (d.message.drop "Missing recommended section: ".length)).diagnostic := by
  constructor
  · rintro ⟨t, ht, rfl⟩
    exact ⟨ht, rfl⟩
  · exact fun h => ⟨_, h⟩

instance (title : Text) (d : Diagnostic) : Decidable (AsksFor title d) :=
  decidable_of_iff _ asksFor_iff.symm

theorem not_asksFor_noSkillReference : ¬ AsksFor title Warning.noSkillReference.diagnostic := by
  rintro ⟨t, -, h⟩
  have hfirst : some 'N' = some 'M' := congrArg (fun d : Diagnostic => d.message.head?) h
  exact absurd hfirst (by decide)

theorem not_asksFor_fewExamples (found wanted : Nat) :
    ¬ AsksFor title (Warning.fewExamples found wanted).diagnostic := by
  rintro ⟨t, -, h⟩
  have hfirst : some 'O' = some 'M' := congrArg (fun d : Diagnostic => d.message.head?) h
  exact absurd hfirst (by decide)

theorem filter_not_asksFor {ws : List Warning} (h : ∀ t, .missingSection t ∉ ws) :
    (ws.map Warning.diagnostic).filter (fun d => ¬ AsksFor title d) = ws.map Warning.diagnostic := by
  refine List.filter_eq_self.mpr fun d hd => ?_
  obtain ⟨w, hw, rfl⟩ := List.mem_map.mp hd
  rw [decide_eq_true_eq]
  cases w with
  | missingSection t => exact absurd hw (h t)
  | noSkillReference => exact not_asksFor_noSkillReference
  | fewExamples found wanted => exact not_asksFor_fewExamples found wanted

theorem hasSkillReference_of_not_mem {t : Text} (h : '$' ∉ t) : hasSkillReference t = false := by
  induction t with
  | nil => rfl
  | cons c t ih =>
      rw [List.mem_cons, not_or] at h
      have hc : (c == '$') = false := beq_false_of_ne (Ne.symm h.1)
      rw [hasSkillReference, hc, ih h.2]
      rfl

variable {ls : List Line} {l : Line} {k : Heading}

theorem sectionWarnings_concat (h : Even (Fence.marks ls)) (hk : Heading.ofLine? l = some k)
    (htitle : Text.IsTrimmed k.title) (titles : List Text) :
    (sectionWarnings titles (Section.scan (ls ++ [l]))).map Warning.diagnostic =
      ((sectionWarnings titles (Section.scan ls)).map Warning.diagnostic).filter
        fun d => ¬ AsksFor k.title d := by
  have hmissing : ∀ t ∈ titles, (Section.find? (Section.scan (ls ++ [l])) [t]).isNone =
      (decide (¬ AsksFor k.title (Warning.missingSection t).diagnostic) &&
        (Section.find? (Section.scan ls) [t]).isNone) := by
    intro t _
    rw [Section.isNone_find?_scan_concat h hk]
    refine congrArg (· && _) ?_
    rw [Bool.eq_iff_iff, Bool.not_eq_true', decide_eq_true_eq, asksFor_missingSection, SameTitle,
      htitle.trim_eq, ← Bool.not_eq_true, List.contains_iff_mem, Section.wanted, List.map_singleton,
      List.mem_singleton, eq_comm]
  rw [sectionWarnings, sectionWarnings, List.filter_congr hmissing, List.filter_map,
    List.filter_map, List.filter_filter]
  rfl

theorem skillWarnings_concat (h : Even (Fence.marks ls)) (hk : Heading.ofLine? l = some k)
    (hl : '$' ∉ l.text) : skillWarnings (ls ++ [l]) = skillWarnings ls := by
  rw [skillWarnings, skillWarnings, Fence.prose_concat h hk, List.any_append, List.any_cons,
    hasSkillReference_of_not_mem hl, List.any_nil, Bool.or_false, Bool.or_false]

theorem warnings_concat (h : Even (Fence.marks ls)) (hk : Heading.ofLine? l = some k)
    (htitle : Text.IsTrimmed k.title) (hl : '$' ∉ l.text) (settings : Settings) :
    (warnings settings (ls ++ [l])).map Warning.diagnostic =
      ((warnings settings ls).map Warning.diagnostic).filter fun d => ¬ AsksFor k.title d := by
  have hskills : ∀ t, .missingSection t ∉ skillWarnings ls := by
    intro t
    rw [skillWarnings]
    split <;> simp
  have hexamples : ∀ t, .missingSection t ∉ exampleWarnings settings.minCodeBlocks ls := by
    intro t
    rw [exampleWarnings]
    split <;> simp
  simp only [warnings, List.map_append, List.filter_append, filter_not_asksFor hskills,
    filter_not_asksFor hexamples, sectionWarnings_concat h hk htitle, skillWarnings_concat h hk hl]
  rw [exampleWarnings, exampleWarnings, Fence.count_concat h hk]

end Agents

namespace Skill

/-- The diagnostic misses a section for which the title is accepted. -/
def AsksFor (settings : Settings) (title : Text) (d : Diagnostic) : Prop :=
  (d = (Warning.noPurpose settings.skillPurposeTitles).diagnostic ∧
      Text.lower title ∈ Section.wanted settings.skillPurposeTitles.toList) ∨
    d = (Warning.noTrigger settings.skillTriggerTitles).diagnostic ∧
      Text.lower title ∈ Section.wanted settings.skillTriggerTitles.toList

instance (settings : Settings) (title : Text) (d : Diagnostic) :
    Decidable (AsksFor settings title d) := inferInstanceAs (Decidable (_ ∨ _))

theorem diagnostic_noPurpose_ne (purpose trigger : Titles) :
    (Warning.noPurpose purpose).diagnostic ≠ (Warning.noTrigger trigger).diagnostic := by
  intro h
  have hbehind : some '\'' = some 't' :=
    congrArg (fun d : Diagnostic => (d.message.drop "Missing ".length).head?) h
  exact absurd hbehind (by decide)

theorem asksFor_noPurpose {settings : Settings} :
    AsksFor settings title (Warning.noPurpose settings.skillPurposeTitles).diagnostic ↔
      Text.lower title ∈ Section.wanted settings.skillPurposeTitles.toList := by
  simp [AsksFor, diagnostic_noPurpose_ne]

theorem asksFor_noTrigger {settings : Settings} :
    AsksFor settings title (Warning.noTrigger settings.skillTriggerTitles).diagnostic ↔
      Text.lower title ∈ Section.wanted settings.skillTriggerTitles.toList := by
  simp [AsksFor, (diagnostic_noPurpose_ne _ _).symm]

theorem filter_not_ite {α β : Type} {p : β → Prop} [DecidablePred p] {f : α → β} {w : α} {known : Bool}
    (h : p (f w) ↔ known = true) (missing : Bool) :
    (if (!known && missing) = true then [w] else []).map f =
      ((if missing = true then [w] else []).map f).filter fun b => ¬ p b := by
  cases missing <;> cases known <;> simp [h]

variable {ls : List Line} {l : Line} {k : Heading}

theorem bodyWarnings_concat (h : Even (Fence.marks ls)) (hk : Heading.ofLine? l = some k)
    (settings : Settings) : (bodyWarnings settings (ls ++ [l])).map Warning.diagnostic =
      ((bodyWarnings settings ls).map Warning.diagnostic).filter
        fun d => ¬ AsksFor settings k.title d := by
  simp only [bodyWarnings, List.map_append, List.filter_append,
    Section.isNone_find?_scan_concat h hk]
  congr 1
  · exact filter_not_ite (asksFor_noPurpose.trans List.contains_iff_mem.symm) _
  · exact filter_not_ite (asksFor_noTrigger.trans List.contains_iff_mem.symm) _

end Skill

/-- A heading behind project instructions takes away the warnings that miss a section with its title, up to case and
outer blanks, and a heading behind a skill definition those for which its title is accepted; no other warning goes or
comes. What the heading needs is a place outside code blocks. -/
theorem Engine.validate_withHeading (e : Engine) (h : IsPlainTitle title) (content : Text) :
    (Even (Fence.marks (Line.index content)) →
      (e.validate .agents (Text.withHeading title content)).warnings =
        (e.validate .agents content).warnings.filter fun d => ¬ Agents.AsksFor title d) ∧
    (Even (Fence.marks (FrontMatter.body (Line.index content)
          (FrontMatter.ofLines (Line.index content)))) →
      (e.validate .skill (Text.withHeading title content)).warnings =
        (e.validate .skill content).warnings.filter fun d => ¬ Skill.AsksFor e.settings title d) := by
  obtain ⟨n, hindex⟩ := Line.index_withHeading h content
  have hk := Heading.ofLine?_headingLine h n
  constructor
  · intro heven
    have hdollar : '$' ∉ headingLine title := by
      simpa [headingLine] using h.noDollar
    simp only [validate, Agents.check, hindex]
    exact Agents.warnings_concat heven hk h.isTrimmed hdollar e.settings
  · intro heven
    have hmarker : ∀ l ∈ [Line.mk n (headingLine title)], l.text ≠ FrontMatter.marker := by
      intro l hl
      rw [List.mem_singleton.mp hl]
      exact fun hm => absurd (List.cons.inj hm).1 (by decide)
    have hfront := FrontMatter.ofLines_append (Line.index_ne_nil content) hmarker
    have hbody := FrontMatter.body_append content [⟨n, headingLine title⟩]
    simp only [validate, Skill.check, hindex, hfront]
    generalize FrontMatter.ofLines (Line.index content) = m at heven hbody
    cases m with
    | unclosed => rfl
    | absent | closed =>
        simp only [Skill.warnings, hbody]
        exact Skill.bodyWarnings_concat heven hk e.settings

theorem isPlainTitle_of_getLast? {t : Text} {c : Char} (hc : t.getLast? = some c) (hne : c ≠ '#')
    (h : '\n' ∉ t ∧ Text.IsTrimmed t ∧ '$' ∉ t) : IsPlainTitle t where
  ne_nil := by
    rintro rfl
    cases hc
  noLineFeed := h.1
  isTrimmed := h.2.1
  noDollar := h.2.2
  noClosing := by
    rintro front d n - rfl
    rw [List.replicate_succ', ← List.cons_append, ← List.append_assoc, List.getLast?_concat] at hc
    exact hne (Option.some.inj hc).symm

def secured : Text := "SECURITY".toList

def used : Text := "when to use".toList

def fencedTitle : Text := "# App\n\x60\x60\x60\n# Security\n\x60\x60\x60".toList

def fencedPurpose : Text := "---\n\x60\x60\x60\n---\n\x60\x60\x60\n# Purpose\n\x60\x60\x60".toList

/-- The suggestions followed in another case: behind a code block with the same title in it, and behind front matter
with a fence of its own. -/
theorem Engine.validate_withHeading_default :
    (IsPlainTitle secured ∧ Even (Fence.marks (Line.index fencedTitle)) ∧
      (default.validate .agents (Text.withHeading secured fencedTitle)).warnings =
        (default.validate .agents fencedTitle).warnings.filter (fun d => ¬ Agents.AsksFor secured d) ∧
      (default.validate .agents (Text.withHeading secured fencedTitle)).warnings =
        [.missingSection "Setup".toList, .missingSection "Code Standards".toList, .noSkillReference,
          .fewExamples 1 2].map Agents.Warning.diagnostic) ∧
    (IsPlainTitle used ∧
      Even (Fence.marks (FrontMatter.body (Line.index fencedPurpose)
        (FrontMatter.ofLines (Line.index fencedPurpose)))) ∧
      (default.validate .skill (Text.withHeading used fencedPurpose)).warnings =
        (default.validate .skill fencedPurpose).warnings.filter
          (fun d => ¬ Skill.AsksFor default.settings used d) ∧
      (default.validate .skill (Text.withHeading used fencedPurpose)).warnings =
        [(Skill.Warning.noPurpose default.settings.skillPurposeTitles).diagnostic]) := by
  have hsecured : IsPlainTitle secured :=
    isPlainTitle_of_getLast? (c := 'Y') (by decide) (by decide) (by decide)
  have hused : IsPlainTitle used :=
    isPlainTitle_of_getLast? (c := 'e') (by decide) (by decide) (by decide)
  have htitle : Even (Fence.marks (Line.index fencedTitle)) := by decide +kernel
  have hpurpose : Even (Fence.marks (FrontMatter.body (Line.index fencedPurpose)
      (FrontMatter.ofLines (Line.index fencedPurpose)))) := by decide +kernel
  have hagents := (default.validate_withHeading hsecured fencedTitle).1 htitle
  have hskill := (default.validate_withHeading hused fencedPurpose).2 hpurpose
  refine ⟨⟨hsecured, htitle, hagents, ?_⟩, hused, hpurpose, hskill, ?_⟩
  · decide +kernel
  · decide +kernel

end Onboarding
