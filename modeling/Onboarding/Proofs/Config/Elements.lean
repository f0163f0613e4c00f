import Onboarding.Proofs.Config.Description
import Onboarding.Proofs.Config.Paths

namespace Onboarding

open Segment (isBareChar)
open Text (allBlank trim trimLeft)

namespace Config

def isWordChar (c : Char) : Bool := isBareChar c || c == '+' || c == '.'

mutual

/-- An element of an array, in one line. -/
inductive IsElement : Text → Prop
  | string {t : Text} (h : '"' ∉ t) : IsElement (Source.between '"' t)
  | word {t : Text} (hne : t ≠ []) (h : ∀ c ∈ t, isWordChar c) : IsElement t
  | array {body : Text} (h : IsBody body) : IsElement ('[' :: (body ++ [']']))

/-- What stands between the brackets of an array. -/
inductive IsBody : Text → Prop
  | blank {gap : Text} (h : allBlank gap) : IsBody gap
  | last {gap e gap' : Text} (h : allBlank gap) (he : IsElement e) (h' : allBlank gap') :
      IsBody (gap ++ (e ++ gap'))
  | more {gap e gap' body : Text} (h : allBlank gap) (he : IsElement e) (h' : allBlank gap')
      (hbody : IsBody body) : IsBody (gap ++ (e ++ (gap' ++ ',' :: body)))

end

def IsSeparator (t : Text) : Prop := t = [] ∨ ∃ gap, allBlank gap ∧ t = gap ++ [',']

def IsElementLine (t : Text) : Prop :=
  ∃ e sep, IsElement e ∧ IsSeparator sep ∧ trim t = e ++ sep

/-- What may stand between the brackets of a header and is an element of an array or looks like one. -/
def IsTableName (t : Text) : Prop :=
  (∃ name, '"' ∉ name ∧ t = Source.between '"' name) ∨
    ∃ names, names ≠ [] ∧ (∀ name ∈ names, Source.isBare name) ∧ t = Text.join ['.'] names

/-- The name of a table alone, between single or double brackets. -/
def LooksLikeHeader (t : Text) : Prop :=
  ∃ inner, IsTableName (trim inner) ∧
    (trim t = '[' :: (inner ++ [']']) ∨ trim t = '[' :: '[' :: (inner ++ [']', ']']))

end Config

namespace Header

/-- The text has the segments of a header in front, a closing bracket next, and the rest behind it. -/
def Encloses (t rest : Text) : Prop :=
  ∃ names behind, segments? (trimLeft t) = some (names, behind) ∧ trimLeft behind = ']' :: rest

theorem isSome_name?_cons {t : Text} : (name? ('[' :: t)).isSome ↔
    ∃ rest, Encloses (dropOne '[' t) rest ∧ isTail (dropOne ']' rest) := by
  rw [name?, path?, Option.isSome_map, Option.isSome_map, parts?]
  cases hs : segments? (trimLeft (dropOne '[' t)) with
  | none => simp [Encloses, hs]
  | some r =>
      obtain ⟨names, behind⟩ := r
      simp only [Encloses, hs, Option.some.injEq, Prod.mk.injEq]
      constructor
      · intro h
        split at h
        · next rest hrest =>
            split at h
            · next htail => exact ⟨rest, ⟨names, behind, ⟨rfl, rfl⟩, hrest⟩, htail⟩
            · cases h
        · cases h
      · rintro ⟨rest, ⟨_, _, ⟨rfl, rfl⟩, hrest⟩, htail⟩
        simp only [hrest, htail, if_true, Option.isSome_some]

theorem name?_cons_of_ne {c : Char} {t : Text} (h : c ≠ '[') : name? (c :: t) = none := by
  rw [name?, path?, parts?]
  · rfl
  · exact fun _ he => h (List.cons.inj he).1

end Header

namespace Config

section Stops

def Stops (t : Text) : Prop := (trimLeft t).head? = some ',' ∨ (trimLeft t).head? = some ']'

variable {t : Text}

theorem stops_append {gap : Text} {c : Char} (h : allBlank gap) (hc : c = ',' ∨ c = ']') (rest : Text) :
    Stops (gap ++ c :: rest) := by
  rw [Stops, Text.trimLeft_append h]
  rcases hc with rfl | rfl
  · exact .inl rfl
  · exact .inr rfl

theorem Stops.trimLeft_eq (h : Stops t) : ∃ c rest, trimLeft t = c :: rest ∧ (c = ',' ∨ c = ']') := by
  cases ht : trimLeft t with
  | nil => simp [Stops, ht] at h
  | cons c rest => exact ⟨c, rest, rfl, by simpa [Stops, ht] using h⟩

theorem Stops.head?_ne (h : Stops t) : (trimLeft t).head? ≠ some '.' := by
  rcases h with h | h <;> rw [h] <;> decide

theorem Stops.read?_eq_none (h : Stops t) : Segment.read? (trimLeft t) = none := by
  obtain ⟨c, rest, ht, rfl | rfl⟩ := h.trimLeft_eq <;> rw [ht] <;> rfl

theorem Stops.all_head? (h : Stops t) : t.head?.all (!isBareChar ·) := by
  apply Segment.all_head?_of_trimLeft
  rcases h with h | h <;> rw [h] <;> rfl

end Stops

section Word

variable {w after : Text}

theorem isBlank_of_isWordChar {c : Char} (h : isWordChar c) : Text.isBlank c = false := by
  simp only [isWordChar, Bool.or_eq_true, beq_iff_eq] at h
  rcases h with (h | rfl) | rfl
  · exact Segment.isBlank_of_isBareChar h
  · decide
  · decide

theorem ne_of_isWordChar {c d : Char} (h : isWordChar c) (hd : isWordChar d = false) : c ≠ d := by
  rintro rfl
  rw [h] at hd
  cases hd

theorem isQuote_of_isWordChar {c : Char} (h : isWordChar c) : Segment.isQuote c = false := by
  rw [Segment.isQuote, Bool.or_eq_false_iff, beq_eq_false_iff_ne, beq_eq_false_iff_ne]
  exact ⟨ne_of_isWordChar h (by decide), ne_of_isWordChar h (by decide)⟩

theorem read?_word {c : Char} (hw : ∀ d ∈ c :: w, isWordChar d) (hafter : Stops after) :
    Segment.read? (c :: (w ++ after)) = none ∨
      ∃ name rest, c :: w = name ++ rest ∧ Source.isBare name ∧ rest.head?.all (!isBareChar ·) ∧
        Segment.read? (c :: (w ++ after)) = some (name, rest ++ after) := by
  by_cases hc : isBareChar c
  · obtain ⟨front, rest, rfl, hfront, hrest⟩ := Text.exists_append_stop isBareChar w
    have hname : ∀ d ∈ c :: front, isBareChar d := List.forall_mem_cons.mpr ⟨hc, hfront⟩
    have hstop : (rest ++ after).head?.all (!isBareChar ·) := by
      cases rest with
      | nil => exact hafter.all_head?
      | cons d rest => exact hrest
    refine .inr ⟨c :: front, rest, rfl, Source.isBare_iff.mpr ⟨c, front, rfl, hname⟩, hrest, ?_⟩
    rw [List.append_assoc, Segment.read?_bare hname hstop]
  · have hquote := isQuote_of_isWordChar (hw c List.mem_cons_self)
    rw [Segment.read?, hquote, if_neg Bool.false_ne_true, if_neg hc]
    exact .inl rfl

theorem moreSegments_word (hw : ∀ c ∈ w, isWordChar c) (hstop : w.head?.all (!isBareChar ·))
    (hafter : Stops after) (fuel : Nat) :
    (∃ names, (∀ name ∈ names, Source.isBare name) ∧ w = names.flatMap ('.' :: ·) ∧
        Header.moreSegments fuel (w ++ after) = (names, after)) ∨
      ∃ c rest, isWordChar c ∧ (Header.moreSegments fuel (w ++ after)).2 = c :: rest := by
  induction fuel generalizing w with
  | zero =>
      cases w with
      | nil => exact .inl ⟨[], by simp, rfl, rfl⟩
      | cons c w => exact .inr ⟨c, w ++ after, hw c List.mem_cons_self, rfl⟩
  | succ fuel ih =>
      cases w with
      | nil => exact .inl ⟨[], by simp, rfl, Header.moreSegments_of_head? hafter.head?_ne _⟩
      | cons c w =>
          rw [List.forall_mem_cons] at hw
          have htrim := Text.trimLeft_cons_of_not (isBlank_of_isWordChar hw.1) (w ++ after)
          by_cases hc : c = '.'
          · subst hc
            have hread : Segment.read? (trimLeft (w ++ after)) = none ∨
                ∃ name rest, w = name ++ rest ∧ Source.isBare name ∧
                  rest.head?.all (!isBareChar ·) ∧
                  Segment.read? (trimLeft (w ++ after)) = some (name, rest ++ after) := by
              cases w with
              | nil => exact .inl hafter.read?_eq_none
              | cons d w =>
                  have hd := isBlank_of_isWordChar (hw.2 d List.mem_cons_self)
                  rw [List.cons_append, Text.trimLeft_cons_of_not hd]
                  exact read?_word hw.2 hafter
            rw [List.cons_append]
            rcases hread with hread | ⟨name, rest, rfl, hname, hrest, hread⟩
            · refine .inr ⟨'.', w ++ after, hw.1, ?_⟩
              simp only [Header.moreSegments, htrim, hread]
            · simp only [Header.moreSegments, htrim, hread]
              rcases ih (fun c hc => hw.2 c (List.mem_append_right _ hc)) hrest with
                ⟨names, hnames, rfl, hmore⟩ | hmore
              · refine .inl ⟨name :: names, List.forall_mem_cons.mpr ⟨hname, hnames⟩, rfl, ?_⟩
                rw [hmore]
              · exact .inr hmore
          · refine .inr ⟨c, w ++ after, hw.1, ?_⟩
            rw [List.cons_append, Header.moreSegments_of_head?]
            rw [htrim]
            simpa using hc

theorem segments?_word {names : List Text} {behind : Text} (hne : w ≠ [])
    (hw : ∀ c ∈ w, isWordChar c) (hafter : Stops after)
    (h : Header.segments? (w ++ after) = some (names, behind)) :
    IsTableName w ∧ behind = after ∨ ∃ c rest, isWordChar c ∧ behind = c :: rest := by
  obtain ⟨c, w, rfl⟩ := List.exists_cons_of_ne_nil hne
  rw [List.cons_append, Header.segments?] at h
  rcases read?_word hw hafter with hread | ⟨name, rest, he, hname, hrest, hread⟩
  · rw [hread] at h
    cases h
  · rw [he] at hw ⊢
    simp only [hread, Option.some.injEq, Prod.mk.injEq] at h
    obtain ⟨rfl, rfl⟩ := h
    rcases moreSegments_word (fun d hd => hw d (List.mem_append_right _ hd)) hrest hafter
      (rest ++ after).length with ⟨names, hnames, rfl, hmore⟩ | hmore
    · refine .inl ⟨.inr ⟨name :: names, List.cons_ne_nil _ _,
        List.forall_mem_cons.mpr ⟨hname, hnames⟩, ?_⟩, congrArg Prod.snd hmore⟩
      rw [Text.join_cons]
      rfl
    · exact .inr hmore

end Word

namespace IsElement

variable {e : Text}

theorem isTrimmed (h : IsElement e) : Text.IsTrimmed e := by
  cases h with
  | string h => exact ⟨rfl, by simp [Source.between, List.getLast?_cons]; decide⟩
  | word hne h =>
      constructor
      · cases hc : e.head? with
        | none => rfl
        | some c => simpa using isBlank_of_isWordChar (h c (List.mem_of_head? hc))
      · cases hc : e.getLast? with
        | none => rfl
        | some c => simpa using isBlank_of_isWordChar (h c (List.mem_of_getLast? hc))
  | array h => exact ⟨rfl, by simp [List.getLast?_cons]; decide⟩

theorem segments? {names : List Text} {after behind : Text} (h : IsElement e) (hafter : Stops after)
    (hs : Header.segments? (e ++ after) = some (names, behind)) :
    IsTableName e ∧ behind = after ∨
      ∃ c rest, Text.isBlank c = false ∧ c ≠ ']' ∧ behind = c :: rest := by
  cases h with
  | string h =>
      left
      rename_i t
      have hread : Segment.read? (Source.between '"' t ++ after) = some (t, after) := by
        rw [Source.between, List.cons_append, List.append_assoc]
        exact Segment.read?_quoted rfl h after
      simp only [Header.segments?, hread, Header.moreSegments_of_head? hafter.head?_ne,
        Option.some.injEq, Prod.mk.injEq] at hs
      exact ⟨.inl ⟨t, h, rfl⟩, hs.2.symm⟩
  | word hne h =>
      rcases segments?_word hne h hafter hs with hall | ⟨c, rest, hc, rfl⟩
      · exact .inl hall
      · exact .inr ⟨c, rest, isBlank_of_isWordChar hc, ne_of_isWordChar hc (by decide), rfl⟩
  | array h => cases hs

theorem cons_of_append (h : IsElement e) (after : Text) :
    ∃ c rest, e ++ after = c :: rest ∧ Text.isBlank c = false ∧ (c = '[' → ∃ body, IsBody body ∧
      e = '[' :: (body ++ [']'])) := by
  cases h with
  | string h => exact ⟨'"', _, rfl, by decide, fun he => absurd he (by decide)⟩
  | word hne h =>
      obtain ⟨c, w, rfl⟩ := List.exists_cons_of_ne_nil hne
      have hc := h c List.mem_cons_self
      exact ⟨c, _, rfl, isBlank_of_isWordChar hc, fun he => absurd he (ne_of_isWordChar hc (by decide))⟩
  | array h => exact ⟨'[', _, rfl, by decide, fun _ => ⟨_, h, rfl⟩⟩

end IsElement

def IsAfterElement (t : Text) : Prop := allBlank t ∨ ∃ gap more, allBlank gap ∧ t = gap ++ ',' :: more

theorem IsAfterElement.stops {after : Text} (h : IsAfterElement after) (rest : Text) :
    Stops (after ++ ']' :: rest) := by
  rcases h with h | ⟨gap, more, hgap, rfl⟩
  · exact stops_append h (.inr rfl) rest
  · rw [List.append_assoc]
    exact stops_append hgap (.inl rfl) _

theorem IsAfterElement.head?_ne {after : Text} (h : IsAfterElement after) (hne : after ≠ [])
    (rest : Text) : (after ++ rest).head? ≠ some ']' := by
  rcases h with h | ⟨gap, more, hgap, rfl⟩
  · obtain ⟨c, after, rfl⟩ := List.exists_cons_of_ne_nil hne
    intro he
    obtain rfl : c = ']' := Option.some.inj he
    cases h
  · rw [List.append_assoc]
    exact Text.head?_append_cons_ne hgap rfl (by decide) _

namespace IsBody

variable {body rest rest' : Text}

theorem single {e : Text} (h : IsElement e) : IsBody e := by
  simpa using @IsBody.last [] e [] rfl h rfl

theorem blank_or_first (h : IsBody body) : allBlank body ∨
    ∃ gap e after, body = gap ++ (e ++ after) ∧ allBlank gap ∧ IsElement e ∧ IsAfterElement after := by
  cases h with
  | blank h => exact .inl h
  | last h he h' => exact .inr ⟨_, _, _, rfl, h, he, .inl h'⟩
  | more h he h' hbody => exact .inr ⟨_, _, _, rfl, h, he, .inr ⟨_, _, h', rfl⟩⟩

theorem encloses (h : IsBody body) (henc : Header.Encloses (body ++ ']' :: rest) rest') :
    IsTableName (trim body) ∧ rest' = rest := by
  obtain ⟨names, behind, hs, hbehind⟩ := henc
  rcases h.blank_or_first with h | ⟨gap, e, after, rfl, hgap, he, hafter⟩
  · rw [Text.trimLeft_append h] at hs
    cases hs
  · obtain ⟨c, u, hcons, hc, -⟩ := he.cons_of_append (after ++ ']' :: rest)
    rw [List.append_assoc, List.append_assoc, Text.trimLeft_append hgap, hcons,
      Text.trimLeft_cons_of_not hc, ← hcons] at hs
    rcases he.segments? (hafter.stops rest) hs with ⟨hname, rfl⟩ | ⟨d, v, hd, hne, rfl⟩
    · rcases hafter with hafter | ⟨gap', more, hgap', rfl⟩
      · rw [Text.trimLeft_append hafter] at hbehind
        rw [Text.trim_append he.isTrimmed hgap hafter]
        exact ⟨hname, (List.cons.inj hbehind).2.symm⟩
      · rw [List.append_assoc, Text.trimLeft_append hgap'] at hbehind
        cases hbehind
    · rw [Text.trimLeft_cons_of_not hd] at hbehind
      exact absurd (List.cons.inj hbehind).1 hne

theorem eq_of_head? (h : IsBody body) (hhead : (body ++ ']' :: rest).head? = some '[') :
    ∃ inner after, body = '[' :: (inner ++ ']' :: after) ∧ IsBody inner ∧ IsAfterElement after := by
  rcases h.blank_or_first with hblank | ⟨gap, e, after, rfl, hgap, he, hafter⟩
  · exact absurd hhead (Text.head?_append_cons_ne hblank rfl (by decide) rest)
  · obtain ⟨c, u, hcons, hc, harray⟩ := he.cons_of_append (after ++ ']' :: rest)
    rw [List.append_assoc, List.append_assoc, hcons] at hhead
    by_cases hbracket : c = '['
    · obtain ⟨inner, hinner, rfl⟩ := harray hbracket
      cases gap with
      | nil => exact ⟨inner, after, by simp, hinner, hafter⟩
      | cons d gap =>
          obtain rfl : d = '[' := Option.some.inj hhead
          cases hgap
    · exact absurd hhead (Text.head?_append_cons_ne hgap rfl hbracket u)

end IsBody

namespace IsTableName

variable {t after : Text}

theorem exists_isPath (h : IsTableName t) : ∃ names, Header.IsPath names t := by
  rcases h with ⟨name, hname, rfl⟩ | ⟨names, hne, hnames, rfl⟩
  · have hpath := Header.IsPath.mk (.quoted (q := '"') rfl hname) .nil
    rw [List.append_nil] at hpath
    exact ⟨[name], hpath⟩
  · obtain ⟨name, names, rfl⟩ := List.exists_cons_of_ne_nil hne
    have hbare : ∀ n ∈ name :: names, ¬ ('"' ∈ n ∧ '\'' ∈ n) := by
      intro n hn hq
      obtain ⟨c, u, rfl, hu⟩ := Source.isBare_iff.mp (hnames n hn)
      exact Segment.ne_of_isBareChar (hu _ hq.1) (by decide) rfl
    have hmap : (name :: names).map Source.segmentText = name :: names := by
      exact (List.map_congr_left fun n hn => if_pos (hnames n hn)).trans (List.map_id _)
    have hpath := Source.isPath_join hbare
    rw [hmap] at hpath
    exact ⟨name :: names, hpath⟩

theorem segments? (h : IsTableName t) (hafter : Stops after) :
    ∃ names, Header.segments? (t ++ after) = some (names, after) := by
  obtain ⟨names, hpath⟩ := h.exists_isPath
  exact ⟨names, hpath.segments?_append hafter.all_head? hafter.head?_ne⟩

theorem cons_of_append (h : IsTableName t) (u : Text) :
    ∃ c v, t ++ u = c :: v ∧ Text.isBlank c = false ∧ c ≠ '[' := by
  obtain ⟨names, hpath⟩ := h.exists_isPath
  exact hpath.head?_append u

theorem encloses (h : IsTableName (trim t)) (rest : Text) : Header.Encloses (t ++ ']' :: rest) rest := by
  obtain ⟨front, back, hfront, hback, ht⟩ := Text.exists_eq_append_trim t
  obtain ⟨names, hs⟩ := h.segments? (stops_append hback (.inr rfl) rest)
  obtain ⟨c, v, hcons, hc, -⟩ := h.cons_of_append (back ++ ']' :: rest)
  refine ⟨names, back ++ ']' :: rest, ?_, Text.trimLeft_append hback _⟩
  rw [ht, List.append_assoc, List.append_assoc, Text.trimLeft_append hfront, hcons,
    Text.trimLeft_cons_of_not hc, ← hcons, hs]

theorem head?_ne (h : IsTableName (trim t)) (u : Text) : (t ++ u).head? ≠ some '[' := by
  obtain ⟨front, back, hfront, -, ht⟩ := Text.exists_eq_append_trim t
  obtain ⟨c, v, hcons, -, hne⟩ := h.cons_of_append (back ++ u)
  rw [ht, List.append_assoc, List.append_assoc, hcons]
  exact Text.head?_append_cons_ne hfront (by decide) hne v

end IsTableName

theorem isTail_of_stops {t : Text} (h : Stops t) (hne : t.head? ≠ some ']') :
    Header.isTail (Header.dropOne ']' t) = false := by
  rw [Header.dropOne_of_head? hne, Header.isTail]
  rcases h with h | h <;> rw [h] <;> rfl

section Line

variable {t : Text}

theorem IsSeparator.trimLeft_eq {sep : Text} (h : IsSeparator sep) :
    trimLeft sep = sep ∧ sep = [] ∨ trimLeft sep = [','] := by
  rcases h with rfl | ⟨gap, hgap, rfl⟩
  · exact .inl ⟨rfl, rfl⟩
  · exact .inr (Text.trimLeft_append hgap [','])

theorem IsSeparator.eq_nil {sep : Text} (h : IsSeparator sep) (htail : Header.isTail sep) :
    sep = [] := by
  rcases h.trimLeft_eq with ⟨-, h⟩ | h
  · exact h
  · rw [Header.isTail, h] at htail
    cases htail

theorem IsSeparator.dropOne_eq {sep : Text} (h : IsSeparator sep) : Header.dropOne ']' sep = sep := by
  rcases h with rfl | ⟨gap, hgap, rfl⟩
  · rfl
  · exact Header.dropOne_of_head? (Text.head?_append_cons_ne hgap rfl (by decide) [])

theorem IsSeparator.all_head? {sep : Text} (h : IsSeparator sep) : sep.head?.all (!isBareChar ·) := by
  rcases h with rfl | ⟨gap, hgap, rfl⟩
  · rfl
  · exact (stops_append hgap (.inl rfl) []).all_head?

theorem looksLikeHeader_of_isSome {body sep : Text} (hbody : IsBody body) (hsep : IsSeparator sep)
    (ht : trim t = '[' :: (body ++ ']' :: sep)) (h : (Header.name? (trim t)).isSome) :
    LooksLikeHeader t := by
  rw [ht] at h
  obtain ⟨rest, henc, htail⟩ := Header.isSome_name?_cons.mp h
  by_cases hdouble : (body ++ ']' :: sep).head? = some '['
  · obtain ⟨inner, after, rfl, hinner, hafter⟩ := hbody.eq_of_head? hdouble
    have henc : Header.Encloses (inner ++ ']' :: (after ++ ']' :: sep)) rest := by
      simpa [Header.dropOne] using henc
    obtain ⟨hname, rfl⟩ := hinner.encloses henc
    by_cases hnil : after = []
    · subst hnil
      obtain rfl := hsep.eq_nil (by simpa [Header.dropOne] using htail)
      exact ⟨inner, hname, .inr (by simpa using ht)⟩
    · rw [isTail_of_stops (hafter.stops sep) (hafter.head?_ne hnil _)] at htail
      cases htail
  · rw [Header.dropOne_of_head? hdouble] at henc
    obtain ⟨hname, rfl⟩ := hbody.encloses henc
    obtain rfl := hsep.eq_nil (hsep.dropOne_eq ▸ htail)
    exact ⟨body, hname, .inl ht⟩

theorem LooksLikeHeader.isSome (h : LooksLikeHeader t) : (Header.name? (trim t)).isSome := by
  obtain ⟨inner, hname, ht | ht⟩ := h
  · rw [ht, Header.isSome_name?_cons, Header.dropOne_of_head? (hname.head?_ne _)]
    exact ⟨[], hname.encloses [], rfl⟩
  · rw [ht, Header.isSome_name?_cons]
    exact ⟨[']'], hname.encloses [']'], rfl⟩

theorem IsElementLine.isSome_name?_iff (h : IsElementLine t) :
    (Header.name? (trim t)).isSome ↔ LooksLikeHeader t := by
  refine ⟨fun hname => ?_, LooksLikeHeader.isSome⟩
  obtain ⟨e, sep, he, hsep, ht⟩ := h
  obtain ⟨c, u, hcons, -, harray⟩ := he.cons_of_append sep
  by_cases hbracket : c = '['
  · obtain ⟨body, hbody, rfl⟩ := harray hbracket
    exact looksLikeHeader_of_isSome hbody hsep (by simpa using ht) hname
  · rw [ht, hcons, Header.name?_cons_of_ne hbracket] at hname
    cases hname

theorem ofText?_of_key? {t key rest : Text} (h : Assignment.key? t = some (key, rest))
    (hne : (trimLeft rest).head? ≠ some '=') : Assignment.ofText? t = none := by
  simp only [Assignment.ofText?, h]
  split
  · next he =>
      rw [he] at hne
      exact absurd rfl hne
  · rfl

theorem IsElement.ofText?_eq_none {e sep : Text} (h : IsElement e) (hsep : IsSeparator sep) :
    Assignment.ofText? (e ++ sep) = none := by
  have hne : (trimLeft sep).head? ≠ some '=' := by
    rcases hsep.trimLeft_eq with ⟨-, rfl⟩ | hsep
    · decide
    · rw [hsep]
      decide
  cases h with
  | string h =>
      rw [Source.between, List.cons_append, List.append_assoc]
      exact ofText?_of_key? (Segment.upTo?_append h sep) hne
  | word hnil h =>
      obtain ⟨c, w, rfl⟩ := List.exists_cons_of_ne_nil hnil
      by_cases hc : isBareChar c
      · obtain ⟨front, rest, rfl, hfront, hrest⟩ := Text.exists_append_stop isBareChar w
        have hname : ∀ d ∈ c :: front, isBareChar d := List.forall_mem_cons.mpr ⟨hc, hfront⟩
        have hbare : Source.isBare (c :: front) := Source.isBare_iff.mpr ⟨c, front, rfl, hname⟩
        have hstop : (rest ++ sep).head?.all (!isBareChar ·) := by
          cases rest with
          | nil => exact hsep.all_head?
          | cons d rest => exact hrest
        have hbehind : (trimLeft (rest ++ sep)).head? ≠ some '=' := by
          cases rest with
          | nil => exact hne
          | cons d rest =>
              have hd : isWordChar d := h d (by simp)
              rw [List.cons_append, Text.trimLeft_cons_of_not (isBlank_of_isWordChar hd)]
              exact fun he => ne_of_isWordChar hd rfl (Option.some.inj he)
        rw [← List.cons_append, List.append_assoc]
        exact ofText?_of_key? (Source.key?_bare hbare hstop) hbehind
      · have hquote : c ≠ '"' := ne_of_isWordChar (h c List.mem_cons_self) (by decide)
        have hkey : Assignment.key? (c :: (w ++ sep)) = none := by
          rw [Assignment.key?, if_neg hc]
          exact hquote
        rw [List.cons_append, Assignment.ofText?, hkey]
  | array h => rfl

theorem IsElementLine.ofText_eq_other (h : IsElementLine t) (hheader : ¬ LooksLikeHeader t) :
    Entry.ofText t = .other := by
  have hname : Header.name? (trim t) = none := by
    rw [← Option.not_isSome_iff_eq_none, h.isSome_name?_iff]
    exact hheader
  obtain ⟨e, sep, he, hsep, ht⟩ := h
  have hassign : Assignment.ofText? (trim t) = none := ht ▸ he.ofText?_eq_none hsep
  simp only [Entry.ofText, hname, hassign, ite_self]

theorem LooksLikeHeader.exists_opens {l : Line} (h : LooksLikeHeader l.text) :
    ∃ name, Opens l name := by
  have hcomment : isComment (trim l.text) = false := by
    obtain ⟨inner, -, ht | ht⟩ := h <;> rw [ht] <;> rfl
  obtain ⟨name, hname⟩ := Option.isSome_iff_exists.mp h.isSome
  exact ⟨name, hcomment, hname⟩

end Line

end Config

end Onboarding
