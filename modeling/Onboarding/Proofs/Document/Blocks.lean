import Mathlib.Data.List.DropRight
import Onboarding.Proofs.Document.Rendering

namespace Onboarding

namespace Text

def folded (t : Text) : Text := t.map fun c => if c = '\n' then ' ' else c

theorem folded_append (t u : Text) : folded (t ++ u) = folded t ++ folded u := List.map_append

theorem folded_of_not_mem {t : Text} (h : '\n' ∉ t) : folded t = t := by
  refine (List.map_congr_left fun c hc => if_neg ?_).trans (List.map_id t)
  rintro rfl
  exact h hc

theorem join_space {ts : List Text} (h : ∀ t ∈ ts, '\n' ∉ t) : join [' '] ts = folded (join ['\n'] ts) := by
  induction ts with
  | nil => rfl
  | cons t ts ih =>
      rw [List.forall_mem_cons] at h
      cases ts with
      | nil =>
          rw [join_cons, join_cons, List.flatMap_nil, List.flatMap_nil, List.append_nil, folded_of_not_mem h.1]
      | cons next ts =>
          rw [join_cons_cons, join_cons_cons, ih h.2, folded_append, folded_of_not_mem h.1]
          rfl

end Text

namespace FrontMatter

def BlockStyle.indicators : BlockStyle → List Text
  | .literal => ["|", "|-", "|+"].map (·.toList)
  | .folded => [">", ">-", ">+"].map (·.toList)

def withoutEmptyEnds (ts : List Text) : List Text := (ts.rdropWhile List.isEmpty).dropWhile List.isEmpty

theorem withoutEmptyEnds_subset {ts : List Text} : withoutEmptyEnds ts ⊆ ts :=
  fun _ h => (List.rdropWhile_prefix _ _).subset ((List.dropWhile_suffix _).subset h)

def blockText (style : BlockStyle) (ts : List Text) : Text :=
  Text.join style.joint (withoutEmptyEnds (ts.map Text.trim))

variable {key value v w front back : Text} {ts us above below behind : List Text} {style style' : BlockStyle}

theorem indicator?_of_mem (h : v ∈ style.indicators) : indicator? v = some style := by
  cases style
  all_goals
    simp only [BlockStyle.indicators, List.map_cons, List.map_nil, List.mem_cons, List.not_mem_nil, or_false] at h
    rcases h with rfl | rfl | rfl <;> rfl

theorem exists_cons_of_mem_indicators (h : v ∈ style.indicators) : ∃ c u, v = c :: u ∧ Text.IsTrimmed v ∧
    isKeyChar c = false ∧ Text.isBlank c = false ∧ c ≠ ':' ∧ c ∉ u := by
  have hbar : isKeyChar '|' = false := by decide +kernel
  have hangle : isKeyChar '>' = false := by decide +kernel
  cases style
  all_goals
    simp only [BlockStyle.indicators, List.map_cons, List.map_nil, List.mem_cons, List.not_mem_nil, or_false] at h
  case literal =>
    rcases h with rfl | rfl | rfl
    all_goals exact ⟨'|', _, rfl, by decide, hbar, by decide, by decide, by decide⟩
  case folded =>
    rcases h with rfl | rfl | rfl
    all_goals exact ⟨'>', _, rfl, by decide, hangle, by decide, by decide, by decide⟩

theorem field?_replace (h : field? (front ++ v ++ back) = some (key, v)) (hv : v ∈ style.indicators)
    (hw : w ∈ style'.indicators) : field? (front ++ w ++ back) = some (key, w) := by
  obtain ⟨rest, ⟨hkey, gap, ht, hgap, hrest⟩, htrim⟩ := field?_eq_some_iff.mp h
  obtain ⟨near, far, hnear, hfar, he⟩ := Text.exists_eq_append_trim rest
  obtain ⟨c, u, hcons, -, hname, hblank, hcolon, hu⟩ := exists_cons_of_mem_indicators hv
  rw [htrim] at he
  subst he
  have hnot {t : Text} (ht : Text.allBlank t = true) : c ∉ t := Text.not_mem_of_allBlank ht hblank
  -- the indicator begins at the only place of its first character
  have hplace : front = key ++ gap ++ ':' :: near ∧ back = far := by
    have hsplit : (key ++ gap ++ ':' :: near) ++ c :: (u ++ far) = front ++ c :: (u ++ back) := by
      simpa [hcons] using ht.symm
    have hfront : c ∉ key ++ gap ++ ':' :: near := by
      simp only [List.mem_append, List.mem_cons, not_or]
      exact ⟨⟨hkey.not_mem hname, hnot (List.all_eq_true.mpr hgap)⟩, hcolon, hnot hnear⟩
    have hback : c ∉ u ++ far := by
      simp only [List.mem_append, not_or]
      exact ⟨hu, hnot hfar⟩
    obtain ⟨hfront, -, hback⟩ := (List.append_cons_inj_of_notMem hfront hback).mp hsplit
    exact ⟨hfront.symm, (List.append_cancel_left hback).symm⟩
  obtain ⟨rfl, rfl⟩ := hplace
  obtain ⟨d, near, rfl⟩ : ∃ d near', near = d :: near' := by
    apply List.exists_cons_of_ne_nil
    rintro rfl
    rw [hcons, List.nil_append, List.cons_append, List.head?_cons, Option.all_some, hblank] at hrest
    cases hrest
  obtain ⟨-, -, -, htrimmed, -⟩ := exists_cons_of_mem_indicators hw
  refine field?_eq_some_iff.mpr ⟨d :: near ++ (w ++ back), ⟨hkey, gap, by simp, hgap, hrest⟩, ?_⟩
  exact Text.trim_append htrimmed hnear hfar

theorem fieldsOf_append (h : us.head?.all (!continues ·)) (ts : List Text) :
    fieldsOf (ts ++ us) = fieldsOf ts ++ fieldsOf us := by
  induction ts with
  | nil => rfl
  | cons t ts ih =>
      rw [List.cons_append]
      cases hfield : field? t with
      | none => rw [fieldsOf_cons_of_none hfield, fieldsOf_cons_of_none hfield, ih]
      | some e =>
          rw [fieldsOf_cons_of_some hfield, fieldsOf_cons_of_some hfield, ih, Text.takeWhile_append_of_head? h]
          rfl

theorem trim_join {c : Char} (hc : Text.isBlank c = true) (h : ∀ t ∈ ts, Text.IsTrimmed t)
    (hlast : ts.getLast? ≠ some []) : Text.trim (Text.join [c] ts) = Text.join [c] (ts.dropWhile List.isEmpty) := by
  induction ts with
  | nil => rfl
  | cons t ts ih =>
      cases t with
      | nil =>
          cases ts with
          | nil => exact absurd rfl hlast
          | cons next ts =>
              rw [List.forall_mem_cons] at h
              rw [List.getLast?_cons_cons] at hlast
              rw [Text.join_cons_cons, List.nil_append, Text.trim_cons_of_isBlank hc, ih h.2 hlast]
              rfl
      | cons d t =>
          rw [(isTrimmed_join h (List.cons_ne_nil _ _) (by simp) hlast).trim_eq]
          rfl

/-- The lines of a block are taken without the blanks around them, and the empty ones at both ends are left out. -/
theorem blockValue_eq (style : BlockStyle) (ts : List Text) : blockValue style ts = blockText style ts := by
  have htrimmed : ∀ t ∈ (ts.map Text.trim).rdropWhile List.isEmpty, Text.IsTrimmed t := by
    intro t ht
    obtain ⟨u, -, rfl⟩ := List.mem_map.mp ((List.rdropWhile_prefix _ _).subset ht)
    exact Text.isTrimmed_trim u
  have hlast : ((ts.map Text.trim).rdropWhile List.isEmpty).getLast? ≠ some [] := by
    intro he
    have hne : (ts.map Text.trim).rdropWhile List.isEmpty ≠ [] := by
      intro hnil
      rw [hnil] at he
      cases he
    have hnot := List.rdropWhile_last_not _ _ hne
    rw [(List.getLast_eq_iff_getLast?_eq_some hne).mpr he] at hnot
    exact hnot rfl
  cases style with
  | literal => exact trim_join rfl htrimmed hlast
  | folded => exact trim_join rfl htrimmed hlast

theorem continues_eq_false_of_field? {t : Text} {e : Text × Text} (h : field? t = some e) : continues t = false := by
  rw [← Bool.not_eq_true]
  intro hc
  rw [field?_eq_none_of_continues hc] at h
  cases h

theorem fieldsOf_block {t : Text} (h : field? t = some (key, v)) (hv : v ∈ style.indicators) (above below : List Text) :
    fieldsOf (above ++ t :: below) =
      fieldsOf above ++ (key, blockText style (below.takeWhile continues)) :: fieldsOf below := by
  have hhead : (t :: below).head?.all (!continues ·) := by
    simp [continues_eq_false_of_field? h]
  rw [fieldsOf_append hhead, fieldsOf_cons_of_some h, indicator?_of_mem hv]
  simp only [blockValue_eq]

theorem exists_parts_between {content t : Text} {first last n : Nat} {fields : Table Text Text}
    {ls ms : List Line} (h : ofLines (Line.index content) = .closed first last fields)
    (hcontent : Line.index content = ls ++ ⟨n, t⟩ :: ms) (hfirst : first < n) (hlast : n < last) :
    ∃ above below behind, ls.map (·.text) = marker :: above ∧
      ms = Line.numberFrom (n + 1) (below ++ marker :: behind) ∧ marker ∉ above ++ t :: below ∧ first = 1 ∧
      n = 1 + 1 + above.length ∧ last = n + 1 + below.length ∧
      fields = Table.ofList (fieldsOf (above ++ t :: below)) := by
  obtain ⟨hn, hms⟩ := Line.eq_numberFrom_of_append_cons hcontent
  rw [Line.index] at h hcontent
  obtain ⟨block, behind, hts, hblock, rfl, rfl, rfl⟩ := ofLines_eq_closed h
  have htexts := congrArg (List.map (·.text)) hcontent
  rw [Line.map_text_numberFrom, hts, List.map_append, List.map_cons] at htexts
  cases ls with
  | nil =>
      rw [List.length_nil] at hn
      omega
  | cons l ls =>
      obtain ⟨hl, htexts⟩ := List.cons.inj htexts
      rw [List.length_cons] at hn
      rcases List.append_eq_append_iff.mp htexts with ⟨between, habove, -⟩ | ⟨between, rfl, hbelow⟩
      · have hlength := congrArg List.length habove
        rw [List.length_map, List.length_append] at hlength
        omega
      · cases between with
        | nil =>
            rw [List.append_nil, List.length_map] at hlast
            omega
        | cons u below =>
            obtain ⟨rfl, hmarker⟩ := List.cons.inj hbelow
            rw [hmarker] at hms
            refine ⟨_, below, behind, congrArg (· :: _) hl.symm, hms, hblock, rfl, ?_, ?_, rfl⟩
            · rw [List.length_map]
              omega
            · rw [List.length_append, List.length_cons, List.length_map]
              omega

section Replaced

variable {content t : Text} {first last n : Nat} {fields : Table Text Text} {above' block rest : List Line}
variable {stop : Line}

/-- A block in front matter, which is closed and has no field with the same key further on, has the value that its
lines give, up to the first one that is not blank and does not begin with a blank. Another indicator in its place
changes nothing but how these lines are joined, and those of a folded block are joined with spaces for line feeds. -/
theorem ofLines_block (h : ofLines (Line.index content) = .closed first last fields)
    (hcontent : Line.index content = above' ++ ⟨n, front ++ v ++ back⟩ :: (block ++ stop :: rest))
    (hfirst : first < n) (hlast : n < last) (hfield : field? (front ++ v ++ back) = some (key, v))
    (hv : v ∈ style.indicators) (hblock : ∀ l ∈ block, continues l.text) (hstop : continues stop.text = false)
    (hkey : ∀ l ∈ block ++ stop :: rest, l.number < last → ¬ Defines l.text key) :
    fields.get? key = some (blockText style (block.map (·.text))) ∧
    (∀ style' w edited, w ∈ BlockStyle.indicators style' →
      Line.index edited = above' ++ ⟨n, front ++ w ++ back⟩ :: (block ++ stop :: rest) →
      ofLines (Line.index edited) =
        .closed first last (fields.insert key (blockText style' (block.map (·.text))))) ∧
    blockText .folded (block.map (·.text)) = Text.folded (blockText .literal (block.map (·.text))) := by
  obtain ⟨above, below, behind, habove, hbelow, hmarker, rfl, hn, rfl, rfl⟩ :=
    exists_parts_between h hcontent hfirst hlast
  have htake : below.takeWhile continues = block.map (·.text) := by
    have hmark : (marker :: behind).head?.all (!continues ·) := rfl
    have htexts := congrArg (List.map (·.text)) hbelow
    rw [Line.map_text_numberFrom, List.map_append] at htexts
    rw [← Text.takeWhile_append_of_head? hmark, ← htexts]
    exact Text.takeWhile_append_stop (List.forall_mem_map.mpr hblock) (by simp [hstop])
  have hlater : key ∉ (fieldsOf below).map (·.1) := by
    rw [map_fst_fieldsOf, List.mem_filterMap]
    rintro ⟨u, hu, hdefines⟩
    obtain ⟨l, hl, rfl⟩ := Line.exists_mem_numberFrom (n + 1) hu
    refine hkey l ?_ (Line.number_lt_of_mem hl) (map_field?_eq_some_iff.mp hdefines)
    rw [hbelow, Line.numberFrom_append]
    exact List.mem_append_left _ hl
  have hfields {style : BlockStyle} {w : Text} (hw : w ∈ style.indicators) :
      fieldsOf (above ++ (front ++ w ++ back) :: below) =
        fieldsOf above ++ (key, blockText style (block.map (·.text))) :: fieldsOf below := by
    rw [fieldsOf_block (field?_replace hfield hv hw) hw, htake]
  refine ⟨?_, fun style' w edited hw hedited => ?_, ?_⟩
  · rw [hfields hv]
    exact Table.get?_ofList_append_cons hlater _ _
  · have htexts : (Line.index edited).map (·.text) =
        marker :: ((above ++ (front ++ w ++ back) :: below) ++ marker :: behind) := by
      simp only [hedited, List.map_append, List.map_cons, habove, hbelow, Line.map_text_numberFrom,
        List.append_assoc, List.cons_append]
    have hmarker' : marker ∉ above ++ (front ++ w ++ back) :: below := by
      simp only [List.mem_append, List.mem_cons, not_or] at hmarker ⊢
      refine ⟨hmarker.1, fun he => ?_, hmarker.2.2⟩
      have hnone : field? marker = none := by decide +kernel
      rw [he, field?_replace hfield hv hw] at hnone
      cases hnone
    have hlast' : 1 + 1 + (above ++ (front ++ w ++ back) :: below).length = n + 1 + below.length := by
      rw [List.length_append, List.length_cons]
      omega
    rw [Line.index_eq_numberFrom, htexts, ofLines_closed 1 hmarker', hlast', hfields hw, hfields hv,
      ← Table.ofList_append_cons hlater]
  · apply Text.join_space
    intro t ht
    obtain ⟨u, hu, rfl⟩ := List.mem_map.mp (withoutEmptyEnds_subset ht)
    obtain ⟨l, hl, rfl⟩ := List.mem_map.mp hu
    have hmem : l ∈ Line.index content := by
      simp [hcontent, hl]
    exact fun hline => Line.not_mem_of_mem_index hmem (Text.trim_subset _ hline)

end Replaced

def blockDocument (indicator : Text) : Text :=
  "---\ntext: >\n  x\ntext:\t".toList ++ indicator ++ " \n\n  text: a\n \n\tb\n\nother: |\n---\n c".toList

def blockLinesAbove : List Line := [⟨1, marker⟩, ⟨2, "text: >".toList⟩, ⟨3, "  x".toList⟩]

def blockLinesInside : List Line :=
  [⟨5, []⟩, ⟨6, "  text: a".toList⟩, ⟨7, [' ']⟩, ⟨8, "\tb".toList⟩, ⟨9, []⟩]

theorem ofLines_block_blankLines :
    ofLines (Line.index (blockDocument ['|', '-'])) =
        .closed 1 11 [("text".toList, "text: a\n\nb".toList), ("other".toList, [])] ∧
      Line.index (blockDocument ['|', '-']) = blockLinesAbove ++ ⟨4, "text:\t".toList ++ ['|', '-'] ++ [' ']⟩ ::
        (blockLinesInside ++ ⟨10, "other: |".toList⟩ :: [⟨11, marker⟩, ⟨12, " c".toList⟩]) ∧
      (∀ l ∈ blockLinesInside, continues l.text) ∧
      ofLines (Line.index (blockDocument ['>'])) =
        .closed 1 11 [("text".toList, "text: a  b".toList), ("other".toList, [])] := by
  have h : ofLines (Line.index (blockDocument ['|', '-'])) =
      .closed 1 11 [("text".toList, "text: a\n\nb".toList), ("other".toList, [])] := by decide +kernel
  have hcontent : Line.index (blockDocument ['|', '-']) =
      blockLinesAbove ++ ⟨4, "text:\t".toList ++ ['|', '-'] ++ [' ']⟩ ::
        (blockLinesInside ++ ⟨10, "other: |".toList⟩ :: [⟨11, marker⟩, ⟨12, " c".toList⟩]) := by decide
  have hedited : Line.index (blockDocument ['>']) = blockLinesAbove ++ ⟨4, "text:\t".toList ++ ['>'] ++ [' ']⟩ ::
      (blockLinesInside ++ ⟨10, "other: |".toList⟩ :: [⟨11, marker⟩, ⟨12, " c".toList⟩]) := by decide
  have hfield : field? ("text:\t".toList ++ ['|', '-'] ++ [' ']) = some ("text".toList, ['|', '-']) := by
    decide +kernel
  have hv : ['|', '-'] ∈ BlockStyle.literal.indicators := by decide
  have hblock : ∀ l ∈ blockLinesInside, continues l.text := by decide
  have hkey : ∀ l ∈ blockLinesInside ++ ⟨10, "other: |".toList⟩ :: [⟨11, marker⟩, ⟨12, " c".toList⟩],
      l.number < 11 → ¬ Defines l.text "text".toList := by
    simp only [← map_field?_eq_some_iff]
    decide +kernel
  refine ⟨h, hcontent, hblock, ?_⟩
  obtain ⟨-, hreplaced, -⟩ := ofLines_block h hcontent (by decide) (by decide) hfield hv hblock (by decide) hkey
  rw [hreplaced .folded ['>'] _ (by decide) hedited]
  decide +kernel

end FrontMatter

end Onboarding
