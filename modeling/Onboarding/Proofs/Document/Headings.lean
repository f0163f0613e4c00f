import Mathlib.Data.List.Forall2
import Onboarding.Proofs.Document.Sections

namespace Onboarding

open Text (allBlank isBlank)

namespace Text

def EndsSolid (t : Text) : Prop := ∀ c, t.getLast? = some c → isBlank c = false

theorem endsSolid_trimRight (t : Text) : EndsSolid (trimRight t) := by
  intro c hc
  have hlast := all_getLast?_trimRight t
  simpa [hc] using hlast

theorem EndsSolid.trimRight_append {t blanks : Text} (h : EndsSolid t) (hb : allBlank blanks = true) :
    trimRight (t ++ blanks) = t := by
  rw [Text.trimRight_append hb]
  rcases List.eq_nil_or_concat t with rfl | ⟨u, c, rfl⟩
  · rfl
  · rw [List.concat_eq_append] at h ⊢
    rw [trimRight_concat, h c List.getLast?_concat, if_neg Bool.false_ne_true]

end Text

open Text (EndsSolid)

namespace Heading

/-- One to six hashes and at least one space, then a rest that goes on with something else than a space and
is not blank. -/
structure HasForm (t : Text) (level : Nat) (rest : Text) : Prop where
  text_eq : ∃ n, t = List.replicate level '#' ++ (List.replicate (n + 1) ' ' ++ rest)
  one_le : 1 ≤ level
  le_six : level ≤ 6
  head?_ne : rest.head? ≠ some ' '
  not_blank : allBlank rest = false

/-- The rest without the blanks at its end. -/
structure IsBody (rest body : Text) : Prop where
  eq_append : ∃ blanks, allBlank blanks = true ∧ rest = body ++ blanks
  endsSolid : EndsSolid body

/-- What stands before the hashes at the end of a body and all the blanks in front of them. -/
structure IsClosed (body title : Text) : Prop where
  eq_append : ∃ blanks n, blanks ≠ [] ∧ allBlank blanks = true ∧
    body = title ++ (blanks ++ List.replicate (n + 1) '#')
  endsSolid : EndsSolid title

/-- The body without its closing hashes where that leaves something, and otherwise the body. -/
inductive IsTitle (body : Text) : Text → Prop
  | closed {title : Text} (hne : title ≠ []) (h : IsClosed body title) : IsTitle body title
  | whole (h : ∀ title, title ≠ [] → ¬ IsClosed body title) : IsTitle body body

def IsHeading (t : Text) : Prop := ∃ level rest, HasForm t level rest

/-- The line is a heading of that level with that title. -/
def Reads (t : Text) (level : Nat) (title : Text) : Prop :=
  ∃ rest body, HasForm t level rest ∧ IsBody rest body ∧ IsTitle body title

variable {l : Line} {k : Heading} {level : Nat} {rest body title : Text}

theorem isBody_trimRight (rest : Text) : IsBody rest (Text.trimRight rest) :=
  ⟨Text.exists_eq_trimRight_append rest, Text.endsSolid_trimRight rest⟩

theorem IsBody.ne_nil (h : IsBody rest body) (hrest : allBlank rest = false) : body ≠ [] := by
  rintro rfl
  obtain ⟨blanks, hblanks, he⟩ := h.eq_append
  rw [he, List.nil_append, hblanks] at hrest
  cases hrest

theorem isClosed_iff : IsClosed body title ↔
    (body.reverse.dropWhile (· == '#')).reverse.length < body.length ∧
      (body.reverse.dropWhile (· == '#')).reverse.getLast?.any isBlank ∧
      title = Text.trimRight (body.reverse.dropWhile (· == '#')).reverse := by
  constructor
  · rintro ⟨⟨blanks, n, hne, hblanks, rfl⟩, hsolid⟩
    obtain ⟨front, c, rfl⟩ := (List.eq_nil_or_concat' blanks).resolve_left hne
    have hc : isBlank c = true := List.all_eq_true.mp hblanks c (by simp)
    have hstop : (title ++ (front ++ [c])).reverse.head? ≠ some '#' := by
      rw [List.head?_reverse, ← List.append_assoc, List.getLast?_concat]
      rintro he
      rw [Option.some.inj he] at hc
      cases hc
    have hreverse : (title ++ (front ++ [c] ++ List.replicate (n + 1) '#')).reverse =
        List.replicate (n + 1) '#' ++ (title ++ (front ++ [c])).reverse := by
      rw [← List.append_assoc, List.reverse_append, List.reverse_replicate]
    rw [hreverse, (Text.dropWhile_replicate_append hstop).1, List.reverse_reverse]
    refine ⟨?_, ?_, (hsolid.trimRight_append hblanks).symm⟩
    · simp only [List.length_append, List.length_replicate]
      omega
    · rw [← List.append_assoc, List.getLast?_concat, Option.any_some, hc]
  · rintro ⟨hlt, hlast, rfl⟩
    have hbody : body = (body.reverse.dropWhile (· == '#')).reverse ++
        List.replicate (body.reverse.takeWhile (· == '#')).length '#' := by
      have h := congrArg List.reverse (Text.exists_eq_replicate_append '#' body.reverse)
      rwa [List.reverse_append, List.reverse_replicate, List.reverse_reverse] at h
    generalize (body.reverse.takeWhile (· == '#')).length = m at hbody
    generalize (body.reverse.dropWhile (· == '#')).reverse = shorter at hbody hlt hlast
    obtain ⟨n, rfl⟩ : ∃ n, m = n + 1 := by
      rw [hbody, List.length_append, List.length_replicate] at hlt
      exact ⟨m - 1, by omega⟩
    obtain ⟨blanks, hblanks, hshorter⟩ := Text.exists_eq_trimRight_append shorter
    have hsolid := Text.endsSolid_trimRight shorter
    refine ⟨⟨blanks, n, ?_, hblanks, ?_⟩, hsolid⟩
    · rintro rfl
      rw [Option.any_eq_true] at hlast
      obtain ⟨c, hc, hblank⟩ := hlast
      rw [hshorter, List.append_nil] at hc
      rw [hsolid c hc] at hblank
      cases hblank
    · rw [← List.append_assoc, ← hshorter]
      exact hbody

theorem isClosed_openEnded (h : ∃ title, IsClosed body title) : IsClosed body (openEnded body) := by
  obtain ⟨title, htitle⟩ := h
  obtain ⟨hlt, hlast, rfl⟩ := isClosed_iff.mp htitle
  rw [openEnded, if_pos (by rw [Bool.and_eq_true, decide_eq_true_eq]; exact ⟨hlt, hlast⟩)]
  exact htitle

theorem openEnded_of_not (h : ∀ title, ¬ IsClosed body title) : openEnded body = body := by
  rw [openEnded, if_neg]
  rw [Bool.and_eq_true, decide_eq_true_eq]
  exact fun hclosed => h _ (isClosed_iff.mpr ⟨hclosed.1, hclosed.2, rfl⟩)

theorem IsClosed.eq {other : Text} (h : IsClosed body title) (h' : IsClosed body other) :
    title = other := (isClosed_iff.mp h).2.2.trans (isClosed_iff.mp h').2.2.symm

theorem isTitle_titleOf (rest : Text) : IsTitle (Text.trimRight rest) (titleOf rest) := by
  rw [titleOf]
  generalize Text.trimRight rest = body
  by_cases hclosed : ∃ title, IsClosed body title
  · have h := isClosed_openEnded hclosed
    by_cases hne : openEnded body = []
    · rw [if_pos (List.isEmpty_iff.mpr hne)]
      exact .whole fun title hnil ht => hnil ((ht.eq h).trans hne)
    · rw [if_neg (by rwa [List.isEmpty_iff])]
      exact .closed hne h
  · rw [not_exists] at hclosed
    rw [openEnded_of_not hclosed, ite_self]
    exact .whole fun title _ => hclosed title

theorem HasForm.ofLine?_eq (h : HasForm l.text level rest) :
    ofLine? l = some ⟨level, titleOf rest, l.number⟩ := by
  obtain ⟨⟨n, ht⟩, hone, hsix, hhead, hblank⟩ := h
  have hspaces : (List.replicate (n + 1) ' ' ++ rest).head? ≠ some '#' := by
    rw [List.replicate_succ, List.cons_append, List.head?_cons]
    decide
  have hlevel := Text.dropWhile_replicate_append (n := level) hspaces
  have hrest := Text.dropWhile_replicate_append (n := n + 1) hhead
  have hfirst : (List.replicate (n + 1) ' ' ++ rest).head? = some ' ' := by
    rw [List.replicate_succ, List.cons_append, List.head?_cons]
  simp only [ofLine?, ht, hlevel.1, hlevel.2, hrest.1, List.length_replicate, hone, hsix, hfirst, hblank]
  rfl

theorem exists_hasForm (h : ofLine? l = some k) :
    ∃ rest, HasForm l.text k.level rest ∧ k.title = titleOf rest ∧ k.line = l.number := by
  simp only [ofLine?, Option.ite_none_right_eq_some, Option.some.injEq, Bool.and_eq_true,
    decide_eq_true_eq, beq_iff_eq, Bool.not_eq_true'] at h
  obtain ⟨⟨⟨⟨hone, hsix⟩, hspace⟩, hblank⟩, rfl⟩ := h
  refine ⟨_, ⟨?_, hone, hsix, Text.head?_dropWhile_ne ' ' _, hblank⟩, rfl, rfl⟩
  have hbehind := Text.exists_eq_replicate_append ' ' (l.text.dropWhile (· == '#'))
  obtain ⟨n, hn⟩ : ∃ n, ((l.text.dropWhile (· == '#')).takeWhile (· == ' ')).length = n + 1 := by
    obtain ⟨behind, hcons⟩ := List.head?_eq_some_iff.mp hspace
    rw [hcons, List.takeWhile_cons_of_pos (by decide), List.length_cons]
    exact ⟨_, rfl⟩
  rw [hn] at hbehind
  refine ⟨n, ?_⟩
  rw [← hbehind]
  exact Text.exists_eq_replicate_append '#' l.text

theorem reads_of_ofLine? (h : ofLine? l = some k) : Reads l.text k.level k.title := by
  obtain ⟨rest, hform, htitle, -⟩ := exists_hasForm h
  refine ⟨rest, _, hform, isBody_trimRight rest, ?_⟩
  rw [htitle]
  exact isTitle_titleOf rest

theorem isHeading_iff {t : Text} : IsHeading t ↔ (ofLine? ⟨0, t⟩).isSome := by
  constructor
  · rintro ⟨level, rest, h⟩
    rw [HasForm.ofLine?_eq (l := ⟨0, t⟩) h]
    rfl
  · intro h
    obtain ⟨k, hk⟩ := Option.isSome_iff_exists.mp h
    obtain ⟨rest, hform, -⟩ := exists_hasForm hk
    exact ⟨k.level, rest, hform⟩

instance : DecidablePred IsHeading := fun _ => decidable_of_iff _ isHeading_iff.symm

theorem Reads.title_ends {t : Text} (h : Reads t level title) :
    title ≠ [] ∧ EndsSolid title ∧ title.head? ≠ some ' ' := by
  obtain ⟨rest, body, hform, hbody, htitle⟩ := h
  have hne := hbody.ne_nil hform.not_blank
  obtain ⟨blanks, -, hrest⟩ := hbody.eq_append
  have hhead := hform.head?_ne
  rw [hrest, List.head?_append_of_ne_nil _ hne] at hhead
  cases htitle with
  | closed hnil h =>
      obtain ⟨gap, n, -, -, rfl⟩ := h.eq_append
      rw [List.head?_append_of_ne_nil _ hnil] at hhead
      exact ⟨hnil, h.endsSolid, hhead⟩
  | whole => exact ⟨hne, hbody.endsSolid, hhead⟩

end Heading

theorem forall₂_filterMap {α β : Type} {R : β → α → Prop} {p : α → Prop} [DecidablePred p] {f : α → Option β}
    (hsome : ∀ a b, f a = some b → p a ∧ R b a) (hnone : ∀ a, f a = none → ¬ p a) (as : List α) :
    List.Forall₂ R (as.filterMap f) (as.filter (p ·)) := by
  induction as with
  | nil => exact .nil
  | cons a as ih =>
      cases hf : f a with
      | none =>
          rw [List.filterMap_cons_none hf, List.filter_cons_of_neg (by simpa using hnone a hf)]
          exact ih
      | some b =>
          obtain ⟨hp, hr⟩ := hsome a b hf
          rw [List.filterMap_cons_some hf, List.filter_cons_of_pos (by simpa using hp)]
          exact .cons hr ih

namespace Section

theorem forall₂_headings (ls : List Line) :
    List.Forall₂ (fun k l => Heading.Reads l.text k.level k.title ∧ k.line = l.number) (headings ls)
      ((Fence.prose ls).filter (Heading.IsHeading ·.text)) := by
  refine forall₂_filterMap (fun l k hk => ⟨?_, Heading.reads_of_ofLine? hk, Heading.line_of_ofLine? hk⟩)
    (fun l hl => ?_) _
  · obtain ⟨rest, hform, -⟩ := Heading.exists_hasForm hk
    exact ⟨_, _, hform⟩
  · rintro ⟨level, rest, hform⟩
    rw [hform.ofLine?_eq] at hl
    cases hl

/-- One by one and in order the sections begin at the lines outside code blocks that have the form of a heading,
each with the level and the title that its line has by this form. So no title is empty, and none begins with a space
or ends with a blank. -/
theorem forall₂_scan (content : Text) (skip : Nat) :
    List.Forall₂
      (fun s l => (Heading.Reads l.text s.level s.title ∧ s.first = l.number) ∧
        s.title ≠ [] ∧ EndsSolid s.title ∧ s.title.head? ≠ some ' ')
      (scan ((Line.index content).drop skip))
      ((Fence.prose ((Line.index content).drop skip)).filter (Heading.IsHeading ·.text)) := by
  have hheadings := forall₂_headings ((Line.index content).drop skip)
  rw [← map_heading_scan, List.forall₂_map_left_iff] at hheadings
  exact hheadings.imp fun s l h => ⟨h, h.1.title_ends⟩

example : headings (Line.index "# a ##\n####### b\n## ##\n### \t##".toList) =
    [⟨1, "a".toList, 1⟩, ⟨2, "##".toList, 3⟩, ⟨3, "\t##".toList, 4⟩] := by decide

end Section

end Onboarding
