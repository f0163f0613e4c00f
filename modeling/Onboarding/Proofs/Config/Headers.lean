import Onboarding.Proofs.Config.Comments
import Onboarding.Proofs.Config.Elements
import Onboarding.Proofs.Config.Reading

namespace Onboarding

open Text (IsRemark IsTrimmed allBlank trim trimLeft)

namespace Header

def IsInner (t : Text) : Prop :=
  ∃ gap names path gap', allBlank gap ∧ IsPath names path ∧ allBlank gap' ∧ t = gap ++ (path ++ gap')

/-- A path in so many brackets, and maybe a comment. -/
def HasBrackets (opening closing : Nat) (t : Text) : Prop :=
  ∃ inner tail, IsInner inner ∧ (tail = [] ∨ IsRemark tail) ∧
    t = List.replicate opening '[' ++ (inner ++ (List.replicate closing ']' ++ tail))

/-- The name of a table in brackets, or that of an array of tables in double ones. -/
def IsTable (t : Text) : Prop := HasBrackets 1 1 t ∨ HasBrackets 2 2 t

/-- One bracket on the one side, and two on the other. -/
def IsLopsided (t : Text) : Prop := HasBrackets 1 2 t ∨ HasBrackets 2 1 t

section Brackets

variable {c : Char} {t behind rest rest' tail : Text} {names : List Text} {m n m' n' : Nat}

theorem segments?_iff (hclose : (trimLeft behind).head? = some ']') :
    segments? t = some (names, behind) ↔ ∃ path, IsPath names path ∧ t = path ++ behind := by
  constructor
  · exact exists_isPath_of_segments?
  · rintro ⟨path, hpath, rfl⟩
    apply hpath.segments?_append
    · apply Segment.all_head?_of_trimLeft
      rw [hclose]
      rfl
    · rw [hclose]
      decide

theorem exists_eq_replicate_dropOne (c : Char) (t : Text) : ∃ n ≤ 1, t = List.replicate n c ++ dropOne c t := by
  cases t with
  | nil => exact ⟨0, Nat.zero_le 1, rfl⟩
  | cons d t =>
      by_cases hd : d = c
      · exact ⟨1, Nat.le_refl 1, by rw [dropOne, if_pos hd, hd]; rfl⟩
      · exact ⟨0, Nat.zero_le 1, by rw [dropOne, if_neg hd]; rfl⟩

theorem dropOne_replicate_append (hn : n ≤ 1) (hrest : rest.head? ≠ some c) :
    dropOne c (List.replicate n c ++ rest) = rest := by
  obtain rfl | rfl : n = 0 ∨ n = 1 := by omega
  · exact dropOne_of_head? hrest
  · exact if_pos rfl

theorem IsInner.head?_append (h : IsInner t) (rest : Text) : (t ++ rest).head? ≠ some '[' := by
  obtain ⟨gap, names, path, gap', hgap, hpath, -, rfl⟩ := h
  obtain ⟨c, v, he, -, hne⟩ := hpath.head?_append (gap' ++ rest)
  rw [List.append_assoc, List.append_assoc, he]
  exact Text.head?_append_cons_ne hgap rfl hne v

/-- The first closing bracket behind a path is what the reader takes for the end of it. -/
theorem encloses_iff : Encloses t rest ↔ ∃ inner, IsInner inner ∧ t = inner ++ ']' :: rest := by
  constructor
  · rintro ⟨names, behind, hsegments, hbehind⟩
    obtain ⟨path, hpath, he⟩ := (segments?_iff (by rw [hbehind]; rfl)).mp hsegments
    obtain ⟨gap, hgap, ht⟩ := Text.exists_eq_append_trimLeft t
    obtain ⟨gap', hgap', hclose⟩ := Text.exists_eq_append_trimLeft behind
    refine ⟨gap ++ (path ++ gap'), ⟨gap, names, path, gap', hgap, hpath, hgap', rfl⟩, ?_⟩
    rw [hbehind] at hclose
    rw [ht, he, hclose]
    simp only [List.append_assoc]
  · rintro ⟨inner, ⟨gap, names, path, gap', hgap, hpath, hgap', rfl⟩, rfl⟩
    have hclose : trimLeft (gap' ++ ']' :: rest) = ']' :: rest := by
      rw [Text.trimLeft_append hgap', Text.trimLeft_cons_of_not (by decide)]
    refine ⟨names, gap' ++ ']' :: rest, (segments?_iff (by rw [hclose]; rfl)).mpr ⟨path, hpath, ?_⟩, hclose⟩
    rw [List.append_assoc, List.append_assoc, Text.trimLeft_append hgap, hpath.trimLeft_append]

theorem Encloses.eq (h : Encloses t rest) (h' : Encloses t rest') : rest = rest' := by
  obtain ⟨names, behind, hsegments, hbehind⟩ := h
  obtain ⟨names', behind', hsegments', hbehind'⟩ := h'
  rw [hsegments] at hsegments'
  cases hsegments'
  exact (List.cons.inj (hbehind.symm.trans hbehind')).2

theorem isTail_of_remark (h : tail = [] ∨ IsRemark tail) : isTail tail = true := by
  rcases h with rfl | h
  · rfl
  · exact isTail_remark h

theorem head?_tail_ne (h : tail = [] ∨ IsRemark tail) : tail.head? ≠ some ']' := by
  rcases h with rfl | h
  · nofun
  · exact head?_remark h (by decide) (by decide)

theorem isTail_iff : isTail tail = true ↔ allBlank tail = true ∨ IsRemark tail := by
  constructor
  · intro h
    obtain ⟨gap, hgap, he⟩ := Text.exists_eq_append_trimLeft tail
    cases hrest : trimLeft tail with
    | nil => exact .inl (Text.trimLeft_eq_nil_iff.mp hrest)
    | cons c note =>
        rw [isTail, hrest, List.head?_cons, Option.all_some, beq_iff_eq] at h
        rw [hrest, h] at he
        exact .inr ⟨gap, note, hgap, he⟩
  · rintro (h | h)
    · rw [isTail, Text.trimLeft_eq_nil_iff.mpr h]
      rfl
    · exact isTail_remark h

theorem remark_of_isTail (ht : IsTrimmed (t ++ tail)) (h : isTail tail = true) : tail = [] ∨ IsRemark tail := by
  rcases isTail_iff.mp h with hblank | hremark
  · left
    rcases List.eq_nil_or_concat tail with hnil | ⟨front, c, rfl⟩
    · exact hnil
    · have hc := ht.2
      rw [List.concat_eq_append, ← List.append_assoc, List.getLast?_concat, Option.all_some] at hc
      have hlast := List.all_eq_true.mp hblank c (by simp)
      rw [hlast] at hc
      cases hc
  · exact .inr hremark

theorem isSome_name?_iff (ht : IsTrimmed t) :
    (name? t).isSome ↔ ∃ m n, m ≤ 1 ∧ n ≤ 1 ∧ HasBrackets (m + 1) (n + 1) t := by
  constructor
  · intro h
    obtain ⟨u, rfl⟩ : ∃ u, t = '[' :: u := by
      cases t with
      | nil => cases h
      | cons c u =>
          by_cases hc : c = '['
          · exact ⟨u, by rw [hc]⟩
          · rw [name?_cons_of_ne hc] at h
            cases h
    obtain ⟨rest, hencloses, htail⟩ := isSome_name?_cons.mp h
    obtain ⟨inner, hinner, hu⟩ := encloses_iff.mp hencloses
    obtain ⟨m, hm, hopen⟩ := exists_eq_replicate_dropOne '[' u
    obtain ⟨n, hn, hclose⟩ := exists_eq_replicate_dropOne ']' rest
    have he : '[' :: u = List.replicate (m + 1) '[' ++
        (inner ++ (List.replicate (n + 1) ']' ++ dropOne ']' rest)) := by
      rw [List.replicate_succ, List.replicate_succ, List.cons_append, List.cons_append, ← hclose, ← hu, ← hopen]
    have htrimmed := ht
    rw [he, ← List.append_assoc, ← List.append_assoc] at htrimmed
    exact ⟨m, n, hm, hn, inner, _, hinner, remark_of_isTail htrimmed htail, he⟩
  · rintro ⟨m, n, hm, hn, inner, tail, hinner, htail, rfl⟩
    rw [List.replicate_succ, List.cons_append, isSome_name?_cons,
      dropOne_replicate_append hm (hinner.head?_append _)]
    refine ⟨List.replicate n ']' ++ tail, encloses_iff.mpr ⟨inner, hinner, rfl⟩, ?_⟩
    rw [dropOne_replicate_append hn (head?_tail_ne htail)]
    exact isTail_of_remark htail

theorem HasBrackets.eq (h : HasBrackets m (n + 1) t) (h' : HasBrackets m' (n' + 1) t) : m = m' ∧ n = n' := by
  obtain ⟨inner, tail, hinner, htail, ht⟩ := h
  obtain ⟨inner', tail', hinner', htail', ht'⟩ := h'
  rw [ht] at ht'
  obtain ⟨hm, he⟩ := Text.replicate_append_inj (hinner.head?_append _) (hinner'.head?_append _) ht'
  rw [List.replicate_succ, List.replicate_succ, List.cons_append, List.cons_append] at he
  have hrest := (encloses_iff.mpr ⟨inner, hinner, rfl⟩).eq (encloses_iff.mpr ⟨inner', hinner', he⟩)
  exact ⟨hm, (Text.replicate_append_inj (head?_tail_ne htail) (head?_tail_ne htail') hrest).1⟩

theorem isSome_name?_iff_isTable (ht : IsTrimmed t) : (name? t).isSome ↔ IsTable t ∨ IsLopsided t := by
  rw [isSome_name?_iff ht]
  constructor
  · rintro ⟨m, n, hm, hn, h⟩
    obtain rfl | rfl : m = 0 ∨ m = 1 := by omega
    · obtain rfl | rfl : n = 0 ∨ n = 1 := by omega
      · exact .inl (.inl h)
      · exact .inr (.inl h)
    · obtain rfl | rfl : n = 0 ∨ n = 1 := by omega
      · exact .inr (.inr h)
      · exact .inl (.inr h)
  · rintro ((h | h) | (h | h))
    · exact ⟨0, 0, Nat.zero_le 1, Nat.zero_le 1, h⟩
    · exact ⟨1, 1, Nat.le_refl 1, Nat.le_refl 1, h⟩
    · exact ⟨0, 1, Nat.zero_le 1, Nat.le_refl 1, h⟩
    · exact ⟨1, 0, Nat.le_refl 1, Nat.zero_le 1, h⟩

theorem IsLopsided.not_isTable (h : IsLopsided t) : ¬ IsTable t := by
  rintro (h' | h') <;> rcases h with h | h <;> have := h.eq h' <;> omega

end Brackets

end Header

namespace Config

open Header (IsTable IsLopsided)

variable {ls before after : List Line} {l : Line} {r : Reader}

/-- Whatever has been read before, the line opens the section of that name, as a new one or again. -/
def OpensSection (l : Line) : Prop :=
  ∃ name, ∀ r : Reader, r.next l = ⟨r.config.openSection name, some name⟩

theorem opensSection_iff_exists_opens : OpensSection l ↔ ∃ name, Opens l name := by
  constructor
  · rintro ⟨name, hnext⟩
    have hempty := hnext {}
    rw [Reader.next] at hempty
    cases hentry : Entry.ofText l.text with
    | header name' => exact ⟨name', ofText_eq_header_iff.mp hentry⟩
    | assignment key value | other =>
        rw [hentry] at hempty
        cases congrArg Reader.current hempty
  · rintro ⟨name, hopens⟩
    refine ⟨name, fun r => ?_⟩
    rw [Reader.next, ofText_eq_header_iff.mpr hopens]

theorem opensSection_iff_isSome : OpensSection l ↔ (Header.name? (trim l.text)).isSome := by
  rw [opensSection_iff_exists_opens, Option.isSome_iff_exists]
  refine exists_congr fun name => ⟨And.right, fun h => ⟨?_, h⟩⟩
  cases ht : trim l.text with
  | nil =>
      rw [ht] at h
      cases h
  | cons c t =>
      by_cases hc : c = '['
      · rw [hc]
        rfl
      · rw [ht, Header.name?_cons_of_ne hc] at h
        cases h

theorem opensSection_iff_isTable : OpensSection l ↔ IsTable (trim l.text) ∨ IsLopsided (trim l.text) :=
  opensSection_iff_isSome.trans (Header.isSome_name?_iff_isTable (Text.isTrimmed_trim l.text))

theorem Reader.Follows.next_of_not_opensSection (h : r.Follows ls) (hl : ¬ OpensSection l) :
    (r.next l).current = r.current ∧ (r.next l).config.sections.keys = r.config.sections.keys := by
  rw [Reader.next]
  cases hentry : Entry.ofText l.text with
  | header name => exact absurd (opensSection_iff_exists_opens.mpr ⟨name, ofText_eq_header_iff.mp hentry⟩) hl
  | assignment key value =>
      cases hcurrent : r.current with
      | none => exact ⟨rfl, rfl⟩
      | some name => exact ⟨rfl, sections_keys_assignIn (h.mem_sections hcurrent) key value⟩
  | other => exact ⟨rfl, rfl⟩

/-- Of the lines of a text those open a section that are the name of a table in its brackets, and besides these just
those with one bracket on the one side and two on the other. Any other line leaves the sections as they are. -/
theorem opensSection_iff {content : Text} (h : Line.index content = before ++ l :: after) :
    read content = (after.foldl Reader.next ((before.foldl Reader.next {}).next l)).config ∧
    (OpensSection l ↔ IsTable (trim l.text) ∨ IsLopsided (trim l.text)) ∧
    ((OpensSection l ↔ IsTable (trim l.text)) ↔ ¬ IsLopsided (trim l.text)) ∧
    (¬ OpensSection l →
      ((before.foldl Reader.next {}).next l).current = (before.foldl Reader.next {}).current ∧
      ((before.foldl Reader.next {}).next l).config.sections.keys =
        (before.foldl Reader.next {}).config.sections.keys) := by
  refine ⟨?_, opensSection_iff_isTable, ?_, (Reader.follows_nil.foldl before).next_of_not_opensSection⟩
  · rw [read, ofLines, h, List.foldl_append, List.foldl_cons]
  · rw [opensSection_iff_isTable]
    constructor
    · intro hiff hlopsided
      exact hlopsided.not_isTable (hiff.mp (.inr hlopsided))
    · intro hnot
      exact or_iff_left hnot

def spacedHeader : Text := "[a]\n [[ t . \"x ]\" ]] # u\nb = 1".toList

theorem opensSection_iff_spacedHeader :
    Line.index spacedHeader =
        [⟨1, "[a]".toList⟩] ++ ⟨2, " [[ t . \"x ]\" ]] # u".toList⟩ :: [⟨3, "b = 1".toList⟩] ∧
      OpensSection ⟨2, " [[ t . \"x ]\" ]] # u".toList⟩ := by
  have hindex : Line.index spacedHeader =
      [⟨1, "[a]".toList⟩] ++ ⟨2, " [[ t . \"x ]\" ]] # u".toList⟩ :: [⟨3, "b = 1".toList⟩] := by decide
  have hmore : Header.AreMore ["x ]".toList] ([' '] ++ '.' :: ([' '] ++ ("\"x ]\"".toList ++ []))) :=
    .cons rfl rfl (.quoted rfl (by decide)) .nil
  have hinner : Header.IsInner ([' '] ++ (['t'] ++ " . \"x ]\"".toList ++ [' '])) :=
    ⟨_, _, _, _, rfl, .mk (.bare rfl) hmore, rfl, rfl⟩
  have htable : IsTable (trim " [[ t . \"x ]\" ]] # u".toList) :=
    .inr ⟨_, " # u".toList, hinner, .inr ⟨[' '], " u".toList, rfl, rfl⟩, by decide⟩
  exact ⟨hindex, (opensSection_iff hindex).2.1.mpr (.inl htable)⟩

theorem not_forall_opensSection_iff :
    ¬ ∀ (content : Text) (before after : List Line) (l : Line), Line.index content = before ++ l :: after →
      (OpensSection l ↔ IsTable (trim l.text)) := by
  intro h
  have hindex : Line.index "[[a]\nb = 1".toList = [] ++ ⟨1, "[[a]".toList⟩ :: [⟨2, "b = 1".toList⟩] := by decide
  have hinner : Header.IsInner ([] ++ (['a'] ++ [] ++ [])) := ⟨_, _, _, _, rfl, .mk (.bare rfl) .nil, rfl, rfl⟩
  have hlopsided : IsLopsided (trim "[[a]".toList) := .inr ⟨_, [], hinner, .inl rfl, by decide⟩
  have hopens : OpensSection ⟨1, "[[a]".toList⟩ := opensSection_iff_isTable.mpr (.inr hlopsided)
  exact hlopsided.not_isTable ((h _ _ _ _ hindex).mp hopens)

end Config

end Onboarding
