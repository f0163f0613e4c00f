import Mathlib.Data.List.Nodup
import Mathlib.Data.List.TakeWhile
import Onboarding.Proofs.Document.Headings
import Onboarding.Proofs.Document.Parts
import Onboarding.Proofs.Text.Alike
import Onboarding.Proofs.Text.Case

namespace Onboarding

open Text (EndsSolid IsTrimmed allBlank asciiLower isBlank)

namespace Heading

/-- A title that may stand in a heading as it is: it is not empty, no blanks are around it, and its end is not hashes
behind a blank. -/
structure IsPlain (title : Text) : Prop where
  ne_nil : title ≠ []
  isTrimmed : IsTrimmed title
  not_closed : ∀ front blank n, isBlank blank → title ≠ front ++ blank :: List.replicate (n + 1) '#'

variable {title other rest : Text}

theorem IsPlain.of_asciiLower_eq (h : IsPlain title) (he : asciiLower other = asciiLower title) : IsPlain other := by
  have hends (f : Text → Option Char) (hf : ∀ t, f (asciiLower t) = (f t).map Text.asciiLowerChar) :
      (f other).all (!isBlank ·) = (f title).all (!isBlank ·) := by
    have hall (t : Text) : (f (asciiLower t)).all (!isBlank ·) = (f t).all (!isBlank ·) := by
      rw [hf, Option.all_map]
      exact congrArg (Option.all · (f t)) (Text.ignoresCase_isBlank.map (!·)).comp
    rw [← hall, he, hall]
  refine ⟨?_, ⟨?_, ?_⟩, ?_⟩
  · rintro rfl
    exact h.ne_nil (List.map_eq_nil_iff.mp he.symm)
  · rw [hends List.head? fun t => List.head?_map]
    exact h.isTrimmed.1
  · rw [hends List.getLast? fun t => List.getLast?_map]
    exact h.isTrimmed.2
  · rintro front blank n hblank rfl
    rw [Text.asciiLower_append, Text.asciiLower_cons] at he
    obtain ⟨front', behind, rfl, -, hbehind⟩ := List.map_eq_append_iff.mp he.symm
    obtain ⟨blank', hashes, rfl, hblank', hhashes⟩ := List.map_eq_cons_iff.mp hbehind
    have hsame : isBlank blank' = isBlank blank := by
      rw [← Text.ignoresCase_isBlank.apply blank', hblank', Text.ignoresCase_isBlank.apply]
    have hreplicate : hashes = List.replicate (n + 1) '#' := by
      refine List.eq_replicate_iff.mpr ⟨?_, fun c hc => ?_⟩
      · simpa using congrArg List.length hhashes
      · have hmem : Text.asciiLowerChar c ∈ asciiLower (List.replicate (n + 1) '#') :=
          hhashes ▸ List.mem_map_of_mem hc
        obtain ⟨d, hd, hdc⟩ := List.mem_map.mp hmem
        rw [List.eq_of_mem_replicate hd] at hdc
        exact (Text.asciiLowerChar_eq_iff (q := '#') (by decide)).mp hdc.symm
    exact h.not_closed front' blank' n (hsame.trans hblank) (by rw [hreplicate])

theorem IsPlain.not_isClosed (h : IsPlain title) (other : Text) : ¬ IsClosed title other := by
  rintro ⟨⟨blanks, n, hne, hblanks, he⟩, -⟩
  obtain ⟨front, blank, rfl⟩ := (List.eq_nil_or_concat' blanks).resolve_left hne
  have hblank : isBlank blank = true := List.all_eq_true.mp hblanks blank (by simp)
  exact h.not_closed (other ++ front) blank n hblank (by simpa using he)

theorem IsPlain.titleOf_append {blanks : Text} (h : IsPlain title) (hblanks : allBlank blanks = true) :
    titleOf (title ++ blanks) = title := by
  have hsolid : EndsSolid title := fun c hc => by simpa [hc] using h.isTrimmed.2
  have hopen : openEnded title = title := openEnded_of_not h.not_isClosed
  rw [titleOf, hsolid.trimRight_append hblanks, hopen, ite_self]

theorem HasForm.reads {t : Text} {level : Nat} (h : HasForm t level rest) : Reads t level (titleOf rest) :=
  ⟨rest, _, h, isBody_trimRight rest, isTitle_titleOf rest⟩

theorem titleOf_prefix (rest : Text) : titleOf rest <+: rest := by
  obtain ⟨blanks, -, hrest⟩ := Text.exists_eq_trimRight_append rest
  have hbody : Text.trimRight rest <+: rest := ⟨blanks, hrest.symm⟩
  have htitle := isTitle_titleOf rest
  generalize titleOf rest = title at htitle
  cases htitle with
  | closed _ h =>
      obtain ⟨gap, n, -, -, he⟩ := h.eq_append
      exact (he ▸ List.prefix_append title _ : title <+: Text.trimRight rest).trans hbody
  | whole => exact hbody

end Heading

/-- A line made of hashes, a space, blanks, a title and blanks again. -/
structure TitleLine where
  level : Nat
  gap : Text
  title : Text
  back : Text
  one_le : 1 ≤ level
  le_six : level ≤ 6
  gap_blank : allBlank gap = true
  back_blank : allBlank back = true

namespace TitleLine

variable (q : TitleLine)

def text : Text := List.replicate q.level '#' ++ ' ' :: (q.gap ++ (q.title ++ q.back))

def oddGap : Text := q.gap.dropWhile (· == ' ')

variable {q}

theorem oddGap_eq_nil_iff : q.oddGap = [] ↔ ∀ c ∈ q.gap, c = ' ' := by
  simp only [oddGap, List.dropWhile_eq_nil_iff, beq_iff_eq]

theorem hasForm (h : Heading.IsPlain q.title) :
    Heading.HasForm q.text q.level (q.oddGap ++ (q.title ++ q.back)) := by
  have hgap := Text.exists_eq_replicate_append ' ' q.gap
  generalize (q.gap.takeWhile (· == ' ')).length = n at hgap
  have htrimmed := h.isTrimmed.1
  refine ⟨⟨n, ?_⟩, q.one_le, q.le_six, ?_, ?_⟩
  · rw [text, List.replicate_succ, List.cons_append, ← List.append_assoc _ q.oddGap, oddGap, ← hgap]
  · cases hodd : q.oddGap with
    | nil =>
        obtain ⟨c, t, ht⟩ := List.exists_cons_of_ne_nil h.ne_nil
        rw [ht, List.head?_cons] at htrimmed
        rw [List.nil_append, ht]
        rintro he
        rw [Option.some.inj he] at htrimmed
        cases htrimmed
    | cons c gap =>
        have hc := Text.head?_dropWhile_ne ' ' q.gap
        rw [← oddGap, hodd] at hc
        exact hc
  · rw [Bool.eq_false_iff]
    intro hblank
    have htitle : allBlank q.title = true := Text.allBlank_of_subset (fun c hc => by simp [hc]) hblank
    obtain ⟨c, t, ht⟩ := List.exists_cons_of_ne_nil h.ne_nil
    rw [ht, List.head?_cons] at htrimmed
    rw [ht, allBlank, List.all_cons, Bool.and_eq_true] at htitle
    simp [htitle.1] at htrimmed

theorem exists_titleOf_eq_cons (h : Heading.IsPlain q.title) (hodd : q.oddGap ≠ []) :
    ∃ c u, isBlank c = true ∧ Heading.titleOf (q.oddGap ++ (q.title ++ q.back)) = c :: u := by
  obtain ⟨c, gap, hgap⟩ := List.exists_cons_of_ne_nil hodd
  have hblank : isBlank c = true :=
    List.all_eq_true.mp q.gap_blank c ((List.dropWhile_sublist _).subset (hgap ▸ List.mem_cons_self))
  obtain ⟨d, u, hu⟩ := List.exists_cons_of_ne_nil (hasForm h).reads.title_ends.1
  obtain ⟨behind, hbehind⟩ := Heading.titleOf_prefix (q.oddGap ++ (q.title ++ q.back))
  rw [hu, hgap] at hbehind
  obtain ⟨rfl, -⟩ := List.cons.inj hbehind
  exact ⟨d, u, hblank, hu⟩

end TitleLine

namespace Section

variable {ls : List Line} {l : Line} {titles : List Text} {t rest : Text} {level : Nat}

theorem isSome_find?_iff (ss : List Section) (titles : List Text) :
    (find? ss titles).isSome ↔ ∃ s ∈ ss, Text.lower s.title ∈ wanted titles := by
  rw [find?, List.find?_isSome]
  simp only [List.contains_iff_mem]

theorem not_mem_wanted {c : Char} (h : isBlank c = true) (t : Text) (titles : List Text) :
    Text.lower (c :: t) ∉ wanted titles := by
  intro hmem
  obtain ⟨u, -, hu⟩ := List.mem_map.mp hmem
  obtain ⟨d, v, hlower, hd⟩ := Text.exists_lower_cons c t
  rw [hlower] at hu
  have htrimmed := (Text.isTrimmed_trim u).1
  cases htrim : Text.trim u with
  | nil =>
      rw [htrim] at hu
      cases hu
  | cons e w =>
      obtain ⟨d', v', hlower', hd'⟩ := Text.exists_lower_cons e w
      rw [htrim, hlower'] at hu
      rw [htrim, List.head?_cons, Option.all_some] at htrimmed
      rw [← hd', (List.cons.inj hu).1, hd, h] at htrimmed
      cases htrimmed

theorem mem_wanted (ht : t ∈ titles) (h : IsTrimmed t) : Text.lower t ∈ wanted titles := by
  have := List.mem_map_of_mem (f := fun u => Text.lower (Text.trim u)) ht
  rwa [h.trim_eq] at this

theorem title_of_mem_scan (hls : (ls.map (·.number)).Nodup) (hl : l ∈ Fence.prose ls)
    (hform : Heading.HasForm l.text level rest) {s : Section} (hs : s ∈ scan ls) (hfirst : s.first = l.number) :
    s.title = Heading.titleOf rest := by
  have hmem : s.heading ∈ headings ls := map_heading_scan ls ▸ List.mem_map_of_mem hs
  obtain ⟨m, hm, hmh⟩ := List.mem_filterMap.mp hmem
  have hsub := (Fence.proseFrom_sublist false ls).subset
  have hnumber : m.number = l.number := (Heading.line_of_ofLine? hmh).symm.trans hfirst
  obtain rfl := List.inj_on_of_nodup_map hls (hsub hm) (hsub hl) hnumber
  rw [hform.ofLine?_eq] at hmh
  exact congrArg Heading.title (Option.some.inj hmh).symm

theorem exists_section (hl : l ∈ Fence.prose ls) (hform : Heading.HasForm l.text level rest) :
    ∃ s ∈ scan ls, s.title = Heading.titleOf rest := by
  have hmem : ⟨level, Heading.titleOf rest, l.number⟩ ∈ headings ls :=
    List.mem_filterMap.mpr ⟨l, hl, hform.ofLine?_eq⟩
  rw [← map_heading_scan] at hmem
  obtain ⟨s, hs, hheading⟩ := List.mem_map.mp hmem
  exact ⟨s, hs, congrArg Heading.title hheading⟩

/-- A plain title in a heading is found, whatever the case of its letters and whatever blanks are behind it, just if
nothing but spaces is in front of it, or else the section at another line has a title that is wanted too. -/
theorem isSome_find?_scan_iff {content : Text} {skip : Nat} (q : TitleLine) (ht : t ∈ titles)
    (hplain : Heading.IsPlain t) (hcase : asciiLower q.title = asciiLower t)
    (hl : l ∈ Fence.prose ((Line.index content).drop skip)) (htext : l.text = q.text) :
    (find? (scan ((Line.index content).drop skip)) titles).isSome ↔
      (∀ c ∈ q.gap, c = ' ') ∨ ∃ s ∈ scan ((Line.index content).drop skip), s.first ≠ l.number ∧
        Text.lower s.title ∈ wanted titles := by
  have hnumbers : (((Line.index content).drop skip).map (·.number)).Nodup :=
    List.pairwise_map.mpr ((Line.pairwise_drop_index content skip).imp Nat.ne_of_lt)
  have htitle := hplain.of_asciiLower_eq hcase
  have hform := TitleLine.hasForm htitle
  rw [← htext] at hform
  rw [isSome_find?_iff, ← TitleLine.oddGap_eq_nil_iff]
  constructor
  · rintro ⟨s, hs, hwanted⟩
    by_cases hfirst : s.first = l.number
    · left
      have hstitle := title_of_mem_scan hnumbers hl hform hs hfirst
      by_contra hodd
      obtain ⟨c, u, hblank, hu⟩ := TitleLine.exists_titleOf_eq_cons htitle hodd
      rw [hstitle, hu] at hwanted
      exact not_mem_wanted hblank u titles hwanted
    · exact .inr ⟨s, hs, hfirst, hwanted⟩
  · rintro (hodd | ⟨s, hs, -, hwanted⟩)
    · obtain ⟨s, hs, hstitle⟩ := exists_section hl hform
      refine ⟨s, hs, ?_⟩
      rw [hstitle, hodd, List.nil_append, htitle.titleOf_append q.back_blank, ← Text.lower_asciiLower, hcase,
        Text.lower_asciiLower]
      exact mem_wanted ht hplain.isTrimmed
    · exact ⟨s, hs, hwanted⟩

def spacedTitle : TitleLine where
  level := 3
  gap := "  ".toList
  title := "Ünit tESTS".toList
  back := "\t\u00a0".toList
  one_le := by decide
  le_six := by decide
  gap_blank := by decide
  back_blank := by decide

def spacedDocument : Text := "# a\n".toList ++ spacedTitle.text

theorem isPlain_unitTests : Heading.IsPlain "Ünit Tests".toList where
  ne_nil := by decide
  isTrimmed := by decide
  not_closed := by
    intro front blank n _ he
    have hlast := congrArg List.getLast? he
    rw [List.replicate_succ', ← List.cons_append, ← List.append_assoc, List.getLast?_concat] at hlast
    exact absurd hlast (by decide)

theorem isSome_find?_scan_spacedDocument :
    "Ünit Tests".toList ∈ ["Setup".toList, "Ünit Tests".toList] ∧ Heading.IsPlain "Ünit Tests".toList ∧
      asciiLower spacedTitle.title = asciiLower "Ünit Tests".toList ∧
      ⟨2, spacedTitle.text⟩ ∈ Fence.prose ((Line.index spacedDocument).drop 0) ∧
      (find? (scan ((Line.index spacedDocument).drop 0)) ["Setup".toList, "Ünit Tests".toList]).isSome := by
  have ht : "Ünit Tests".toList ∈ ["Setup".toList, "Ünit Tests".toList] := by decide
  have hcase : asciiLower spacedTitle.title = asciiLower "Ünit Tests".toList := by decide
  have hl : ⟨2, spacedTitle.text⟩ ∈ Fence.prose ((Line.index spacedDocument).drop 0) := by decide +kernel
  refine ⟨ht, isPlain_unitTests, hcase, hl, ?_⟩
  apply (isSome_find?_scan_iff spacedTitle ht isPlain_unitTests hcase hl rfl).mpr
  exact .inl (TitleLine.oddGap_eq_nil_iff.mp rfl)

def tabbedTitle : TitleLine := { spacedTitle with gap := ['\t'], gap_blank := rfl }

theorem not_forall_isSome_find?_scan :
    ¬ ∀ (content t : Text) (titles : List Text) (q : TitleLine) (l : Line), t ∈ titles → Heading.IsPlain t →
      asciiLower q.title = asciiLower t → l ∈ Fence.prose (Line.index content) → l.text = q.text →
        (find? (scan (Line.index content)) titles).isSome := by
  intro h
  have hsome := h tabbedTitle.text "Ünit Tests".toList ["Ünit Tests".toList] tabbedTitle ⟨1, tabbedTitle.text⟩
    List.mem_cons_self isPlain_unitTests (by decide) (by decide +kernel) rfl
  have hnone : find? (scan (Line.index tabbedTitle.text)) ["Ünit Tests".toList] = none := by decide +kernel
  rw [hnone] at hsome
  cases hsome

end Section

end Onboarding
