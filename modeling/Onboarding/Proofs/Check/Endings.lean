import Onboarding.Proofs.Check.Blank

namespace Onboarding

open Line (solid)
open Text (allBlank)

namespace Text

/-- The same text with carriage returns before some of its line feeds. -/
inductive WithReturns : Text → Text → Prop
  | nil : WithReturns [] []
  | same (c : Char) {t u : Text} (h : WithReturns t u) : WithReturns (c :: t) (c :: u)
  | atLineFeed {t u : Text} (h : WithReturns t u) : WithReturns ('\n' :: t) ('\r' :: '\n' :: u)

theorem WithReturns.refl (t : Text) : WithReturns t t := by
  induction t with
  | nil => exact .nil
  | cons c t ih => exact .same c ih

theorem WithReturns.append {t u v w : Text} (h : WithReturns t u) (h' : WithReturns v w) :
    WithReturns (t ++ v) (u ++ w) := by
  induction h with
  | nil => exact h'
  | same c _ ih => exact .same c ih
  | atLineFeed _ ih => exact .atLineFeed ih

/-- What is put behind a text begins with a line of its own: a line feed stands on one side of the seam or the other,
or one side is empty. -/
def MeetAtLineEnd (t u : Text) : Prop :=
  t.getLast?.all (· == '\n') = true ∨ u.head?.all (· == '\n') = true

instance (t u : Text) : Decidable (MeetAtLineEnd t u) := inferInstanceAs (Decidable (_ ∨ _))

theorem WithReturns.map_dropEnd_splitOn {t u : Text} (h : WithReturns t u) (ht : '\r' ∉ t) :
    (splitOn '\n' u).map (dropEnd '\r') = (splitOn '\n' t).map (dropEnd '\r') := by
  induction h with
  | nil => rfl
  | @same c t u _ ih =>
      rw [List.mem_cons, not_or] at ht
      by_cases hc : c = '\n'
      · rw [splitOn, splitOn, if_pos hc, if_pos hc, List.map_cons, List.map_cons, ih ht.2]
      · have hpieces := ih ht.2
        rw [splitOn, splitOn, if_neg hc, if_neg hc]
        cases hu : splitOn '\n' u with
        | nil => exact absurd hu (splitOn_ne_nil '\n' u)
        | cons p ps =>
            cases hv : splitOn '\n' t with
            | nil => exact absurd hv (splitOn_ne_nil '\n' t)
            | cons q qs =>
                rw [hu, hv] at hpieces
                obtain ⟨hfirst, hrest⟩ := List.cons.inj hpieces
                simp only [List.map_cons, dropEnd_cons_of_ne (Ne.symm ht.1), hfirst, hrest]
  | @atLineFeed t u _ ih =>
      rw [List.mem_cons, not_or] at ht
      have hreturn : '\n' ∉ ['\r'] := by decide
      have hu : splitOn '\n' ('\r' :: '\n' :: u) = ['\r'] :: splitOn '\n' u :=
        splitOn_append_cons hreturn u
      rw [hu, splitOn, if_pos rfl, List.map_cons, List.map_cons, ih ht.2]
      rfl

theorem allBlank_of_mem_pieces {blanks : Text} (h : allBlank blanks = true) :
    ∀ t ∈ (splitOn '\n' blanks).map (dropEnd '\r'), allBlank t = true := by
  intro t ht
  obtain ⟨piece, hpiece, rfl⟩ := List.mem_map.mp ht
  have hsub : dropEnd '\r' piece ⊆ blanks :=
    List.Subset.trans (dropEnd_subset '\r' piece) (subset_of_mem_splitOn hpiece)
  exact allBlank_of_subset hsub h

end Text

namespace Line

theorem index_of_withReturns {content returned : Text} (h : Text.WithReturns content returned)
    (hr : '\r' ∉ content) : index returned = index content := by
  rw [index, h.map_dropEnd_splitOn hr, index]

theorem solid_index_append_sep {blanks : Text} (h : allBlank blanks = true) (content : Text) :
    solid (index (content ++ '\n' :: blanks)) = solid (index content) := by
  rw [index, Text.splitOn_append_sep, List.map_append,
    solid_numberFrom_append (Text.allBlank_of_mem_pieces h), index]

theorem solid_index_append {content blanks : Text} (h : allBlank blanks = true)
    (hmeet : Text.MeetAtLineEnd content blanks) :
    solid (index (content ++ blanks)) = solid (index content) := by
  rcases hmeet with hcontent | hblanks
  · rcases List.eq_nil_or_concat content with rfl | ⟨before, c, rfl⟩
    · -- there is nothing but blank lines on either side
      have hnil (t : Text) (ht : allBlank t = true) : solid (index t) = [] :=
        solid_numberFrom_append (Text.allBlank_of_mem_pieces ht) 1 []
      rw [List.nil_append, hnil blanks h, hnil [] rfl]
    · obtain rfl : c = '\n' := by simpa using hcontent
      have hblank : solid (index (before ++ ['\n'])) = solid (index before) :=
        solid_index_append_sep rfl before
      rw [List.concat_eq_append, hblank, List.append_assoc, List.singleton_append,
        solid_index_append_sep h]
  · cases blanks with
    | nil => rw [List.append_nil]
    | cons c blanks =>
        obtain rfl : c = '\n' := by simpa using hblanks
        exact solid_index_append_sep (Text.allBlank_of_subset (List.subset_cons_self _ _) h) content

end Line

/-- A document is reported on alike with line feeds and with carriage returns before any of them, and with any blank
lines behind it. -/
theorem Engine.validate_lineEnds (e : Engine) (k : DocumentKind) (content : Text) :
    ('\r' ∉ content → ∀ returned, Text.WithReturns content returned →
      Line.index returned = Line.index content ∧ e.validate k returned = e.validate k content) ∧
    ∀ blanks, allBlank blanks = true → Text.MeetAtLineEnd content blanks →
      e.validate k (content ++ blanks) = e.validate k content := by
  constructor
  · intro hr returned h
    have hindex := Line.index_of_withReturns h hr
    exact ⟨hindex, e.validate_congr_solid k (congrArg solid hindex)⟩
  · intro blanks h hmeet
    exact e.validate_congr_solid k (Line.solid_index_append h hmeet)

def lineFeeds : Text := "---\nname: n\n---\n# Purpose".toList

def mixedEnds : Text := "---\nname: n\r\n---\n# Purpose".toList

def blankEnd : Text := "\n \t\r\n".toList

/-- The errors on a skill definition, one of whose lines ends in a carriage return, and on project instructions with
blank lines behind the last one. -/
theorem Engine.validate_lineEnds_mixedEnds :
    (Line.index mixedEnds = Line.index lineFeeds ∧
        default.validate .skill mixedEnds = default.validate .skill lineFeeds ∧
        (default.validate .skill lineFeeds).errors =
          [(Skill.Error.missingField "description".toList 1).diagnostic]) ∧
      default.validate .agents (lineFeeds ++ blankEnd) = default.validate .agents lineFeeds ∧
        (default.validate .agents lineFeeds).errors = [(Agents.Error.noTitle 1).diagnostic] := by
  have hreturned : Text.WithReturns lineFeeds mixedEnds :=
    (Text.WithReturns.refl "---\nname: n".toList).append (.atLineFeed (.refl "---\n# Purpose".toList))
  have hends := (default.validate_lineEnds .skill lineFeeds).1 (by decide) mixedEnds hreturned
  have hblank := (default.validate_lineEnds .agents lineFeeds).2 blankEnd (by decide) (by decide)
  exact ⟨⟨hends.1, hends.2, by decide +kernel⟩, hblank, by decide +kernel⟩

end Onboarding
