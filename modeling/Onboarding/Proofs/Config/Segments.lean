import Onboarding.Proofs.Config.Headers

namespace Onboarding

open Text (allBlank trim trimLeft)

namespace Header

/-- Blanks, and maybe a comment up to the end of the line. -/
inductive IsTail : Text → Prop
  | blank {gap : Text} (hgap : allBlank gap) : IsTail gap
  | comment {gap note : Text} (hgap : allBlank gap) (hnote : '\n' ∉ note) : IsTail (gap ++ '#' :: note)

/-- A way to take a text as a header with these segments in its path. Either bracket may be doubled, and blanks may stand
around the path and behind the brackets. -/
inductive Matches (names : List Text) (path : Text) : Text → Prop
  | mk {m n : Nat} {gap gap' tail : Text} (hm : m ≤ 1) (hgap : allBlank gap) (hpath : IsPath names path)
      (hgap' : allBlank gap') (hn : n ≤ 1) (htail : IsTail tail) :
      Matches names path
        ('[' :: (List.replicate m '[' ++ (gap ++ (path ++ (gap' ++ ']' :: (List.replicate n ']' ++ tail))))))

variable {t path tail : Text} {names : List Text}

theorem IsTail.isTail_eq (h : IsTail tail) : isTail tail = true := by
  apply isTail_iff.mpr
  cases h with
  | blank hgap => exact .inl hgap
  | comment hgap hnote => exact .inr ⟨_, _, hgap, rfl⟩

theorem IsTail.head?_ne (h : IsTail tail) : tail.head? ≠ some ']' := by
  cases h with
  | blank hgap =>
      intro hhead
      have hmem : ']' ∈ tail := List.mem_of_mem_head? hhead
      exact Text.not_mem_of_allBlank hgap rfl hmem
  | comment hgap hnote => exact Text.head?_append_cons_ne hgap rfl (by decide) _

theorem isTail_of_isTail_eq (h : isTail tail = true) (hline : '\n' ∉ tail) : IsTail tail := by
  rcases isTail_iff.mp h with hblank | ⟨gap, note, hgap, rfl⟩
  · exact .blank hblank
  · exact .comment hgap fun hmem => hline (List.mem_append_right _ (List.mem_cons_of_mem _ hmem))

theorem Matches.parts?_eq (h : Matches names path t) : parts? t = some (path, names) := by
  obtain @⟨m, n, gap, gap', tail, hm, hgap, hpath, hgap', hn, htail⟩ := h
  generalize hclosing : ']' :: (List.replicate n ']' ++ tail) = closing
  have hclose : trimLeft (gap' ++ closing) = closing := by
    rw [Text.trimLeft_append hgap', ← hclosing, Text.trimLeft_cons_of_not (by decide)]
  have hfirst : (gap ++ (path ++ (gap' ++ closing))).head? ≠ some '[' := by
    obtain ⟨c, u, he, -, hc⟩ := hpath.head?_append (gap' ++ closing)
    rw [he]
    exact Text.head?_append_cons_ne hgap rfl hc u
  have hinner : trimLeft (dropOne '[' (List.replicate m '[' ++ (gap ++ (path ++ (gap' ++ closing))))) =
      path ++ (gap' ++ closing) := by
    rw [dropOne_replicate_append hm hfirst, Text.trimLeft_append hgap, hpath.trimLeft_append]
  refine parts?_eq_some_iff.mpr ⟨_, gap' ++ closing, List.replicate n ']' ++ tail, rfl, ?_, ?_, ?_, ?_⟩
  · rw [hinner, segments?_iff (by rw [hclose, ← hclosing]; rfl)]
    exact ⟨path, hpath, rfl⟩
  · rw [hclose, hclosing]
  · rw [dropOne_replicate_append hn htail.head?_ne, htail.isTail_eq]
  · rw [hinner, List.length_append, Nat.add_sub_cancel, List.take_left]

theorem matches_of_parts? (h : parts? t = some (path, names)) (hline : '\n' ∉ t) : Matches names path t := by
  obtain ⟨rest, behind, tail, rfl, hsegments, hclose, htail, hpath⟩ := parts?_eq_some_iff.mp h
  obtain ⟨m, hm, hopening⟩ := exists_eq_replicate_dropOne '[' rest
  obtain ⟨gap, hgap, hinner⟩ := Text.exists_eq_append_trimLeft (dropOne '[' rest)
  obtain ⟨written, hwritten, he⟩ := exists_isPath_of_segments? hsegments
  obtain ⟨gap', hgap', hbehind⟩ := Text.exists_eq_append_trimLeft behind
  obtain ⟨n, hn, hclosing⟩ := exists_eq_replicate_dropOne ']' tail
  obtain rfl : path = written := by rw [hpath, he, List.length_append, Nat.add_sub_cancel, List.take_left]
  have ht : rest = List.replicate m '[' ++
      (gap ++ (path ++ (gap' ++ ']' :: (List.replicate n ']' ++ dropOne ']' tail)))) := by
    rw [← hclosing, ← hclose, ← hbehind, ← he, ← hinner, ← hopening]
  have hend : IsTail (dropOne ']' tail) := by
    apply isTail_of_isTail_eq htail
    intro hmem
    apply hline
    rw [ht]
    simp [hmem]
  rw [ht]
  exact .mk hm hgap hwritten hgap' hn hend

theorem Matches.allIn_eq (h : Matches names path t) : Segment.allIn path = names := by
  cases h with
  | mk _ _ hpath _ _ _ => exact hpath.allIn_eq

theorem Matches.name?_eq (h : Matches names path t) : name? t = some (Segment.dotted names) := by
  rw [name?, path?, h.parts?_eq, Option.map_some, Option.map_some, h.allIn_eq]

theorem isSome_name?_iff_matches (hline : '\n' ∉ t) : (name? t).isSome ↔ ∃ names path, Matches names path t := by
  constructor
  · intro h
    rw [name?, path?, Option.isSome_map, Option.isSome_map, Option.isSome_iff_exists] at h
    obtain ⟨⟨path, names⟩, hparts⟩ := h
    exact ⟨names, path, matches_of_parts? hparts hline⟩
  · rintro ⟨names, path, h⟩
    rw [h.name?_eq]
    rfl

end Header

namespace Config

open Header (Matches)

theorem isComment_of_matches {names : List Text} {path t : Text} (h : Matches names path t) : isComment t = false := by
  cases h
  rfl

/-- A line is a header just if it can be taken as one, and it can be so in one way. The text that is taken for the path
then has just the segments it was matched with, in their order, and the line opens the section of that name. -/
theorem next_of_matches {l : Line} (hline : '\n' ∉ l.text) (r : Reader) :
    ((Header.name? (trim l.text)).isSome ↔ ∃ names path, Matches names path (trim l.text)) ∧
    ∀ names path, Matches names path (trim l.text) →
      Header.path? (trim l.text) = some path ∧ Segment.allIn path = names ∧
      r.next l = ⟨r.config.openSection (Segment.dotted names), some (Segment.dotted names)⟩ := by
  refine ⟨Header.isSome_name?_iff_matches fun hmem => hline (Text.trim_subset _ hmem), ?_⟩
  intro names path h
  refine ⟨?_, h.allIn_eq, ?_⟩
  · rw [Header.path?, h.parts?_eq, Option.map_some]
  · have hopens : Opens l (Segment.dotted names) := ⟨isComment_of_matches h, h.name?_eq⟩
    rw [Reader.next, ofText_eq_header_iff.mpr hopens]

def crowdedPath : Text := "\"a. ]#\" . ''.c-1 .'x\"y'".toList

def crowdedNames : List Text := ["a. ]#".toList, [], "c-1".toList, "x\"y".toList]

def crowdedHeader : Line := ⟨7, " [[\t".toList ++ crowdedPath ++ " ]] # \"z\"]".toList⟩

theorem next_of_matches_crowdedHeader :
    '\n' ∉ crowdedHeader.text ∧ Matches crowdedNames crowdedPath (trim crowdedHeader.text) ∧
      (({} : Reader).next crowdedHeader).current = some "a. ]#..c-1.x\"y".toList := by
  have hline : '\n' ∉ crowdedHeader.text := by decide
  have hmore : Header.AreMore [[], "c-1".toList, "x\"y".toList] ([' '] ++ '.' :: ([' '] ++ ("''".toList ++
      ([] ++ '.' :: ([] ++ ("c-1".toList ++ ([' '] ++ '.' :: ([] ++ ("'x\"y'".toList ++ []))))))))) :=
    .cons rfl rfl (.quoted rfl (by decide)) (.cons rfl rfl (.bare rfl) (.cons rfl rfl (.quoted rfl (by decide)) .nil))
  have hpath : Header.IsPath crowdedNames crowdedPath := .mk (.quoted rfl (by decide)) hmore
  have htail : Header.IsTail ([' '] ++ '#' :: " \"z\"]".toList) := .comment rfl (by decide)
  have htrim : trim crowdedHeader.text = '[' :: (List.replicate 1 '[' ++ (['\t'] ++ (crowdedPath ++ ([' '] ++
      ']' :: (List.replicate 1 ']' ++ ([' '] ++ '#' :: " \"z\"]".toList)))))) := by decide
  have hmatch : Matches crowdedNames crowdedPath (trim crowdedHeader.text) := by
    rw [htrim]
    exact .mk (Nat.le_refl 1) rfl hpath rfl (Nat.le_refl 1) htail
  obtain ⟨-, -, hnext⟩ := (next_of_matches hline {}).2 _ _ hmatch
  rw [hnext]
  exact ⟨hline, hmatch, rfl⟩

end Config

end Onboarding
