import Onboarding.Document.FrontMatter
import Onboarding.Proofs.Document.Lines
import Onboarding.Proofs.Text.Words

namespace Onboarding.FrontMatter

def IsKey (key : Text) : Prop := ∃ c name, key = c :: name ∧ isKeyStart c ∧ ∀ d ∈ name, isKeyChar d

/-- A key, blanks perhaps, a colon, and then nothing or a blank with anything behind it. -/
def IsField (t key rest : Text) : Prop :=
  IsKey key ∧ ∃ gap, t = key ++ (gap ++ ':' :: rest) ∧ (∀ c ∈ gap, Text.isBlank c) ∧
    rest.head?.all Text.isBlank

/-- The line, looked at alone, has the form of a field with that key. -/
def Defines (t key : Text) : Prop := ∃ rest, IsField t key rest

section Characters

variable {c : Char}

theorem isKeyChar_of_isKeyStart (h : isKeyStart c = true) : isKeyChar c = true := by
  rw [isKeyStart, Bool.or_eq_true, beq_iff_eq] at h
  rw [isKeyChar, Bool.or_eq_true]
  refine .inl ?_
  rcases h with h | rfl
  · exact Text.isWord_of_isAsciiLetter h
  · decide +kernel

theorem isKeyChar_of_isBlank (h : Text.isBlank c = true) : isKeyChar c = false := by
  rw [isKeyChar, Text.isWord_of_isBlank h, Bool.false_or, beq_eq_false_iff_ne]
  rintro rfl
  cases h

end Characters

variable {t key rest value : Text}

theorem IsKey.all (h : IsKey key) : ∀ c ∈ key, isKeyChar c := by
  obtain ⟨c, name, rfl, hc, hname⟩ := h
  exact List.forall_mem_cons.mpr ⟨isKeyChar_of_isKeyStart hc, hname⟩

theorem IsKey.any_head? (h : IsKey key) (u : Text) : (key ++ u).head?.any isKeyStart := by
  obtain ⟨c, name, rfl, hc, -⟩ := h
  exact hc

/-- A line is read as a field just if it has the form of one. -/
theorem field?_eq_some_iff :
    field? t = some (key, value) ↔ ∃ rest, IsField t key rest ∧ Text.trim rest = value := by
  constructor
  · intro h
    unfold field? at h
    split at h
    · next rest htrim =>
        rw [Option.ite_none_right_eq_some, Bool.and_eq_true, Option.some.injEq, Prod.mk.injEq] at h
        obtain ⟨⟨hstart, hrest⟩, rfl, rfl⟩ := h
        refine ⟨rest, ⟨?_, (t.dropWhile isKeyChar).takeWhile Text.isBlank, ?_, ?_, hrest⟩, rfl⟩
        · cases t with
          | nil => cases hstart
          | cons c t =>
              rw [List.head?_cons, Option.any_some] at hstart
              refine ⟨c, t.takeWhile isKeyChar, ?_, hstart, List.all_eq_true.mp List.all_takeWhile⟩
              rw [List.takeWhile_cons, if_pos (isKeyChar_of_isKeyStart hstart)]
        · rw [← htrim, Text.trimLeft, List.takeWhile_append_dropWhile,
            List.takeWhile_append_dropWhile]
        · exact List.all_eq_true.mp List.all_takeWhile
    · cases h
  · rintro ⟨rest, ⟨hkey, gap, rfl, hgap, hrest⟩, rfl⟩
    have hstop : (gap ++ ':' :: rest).head?.all (!isKeyChar ·) := by
      cases gap with
      | nil =>
          have hcolon : isKeyChar ':' = false := by decide +kernel
          rw [List.nil_append, List.head?_cons, Option.all_some, hcolon]
          rfl
      | cons c gap =>
          rw [List.cons_append, List.head?_cons, Option.all_some,
            isKeyChar_of_isBlank (hgap c List.mem_cons_self)]
          rfl
    have hcolon : (':' :: rest).head?.all (!Text.isBlank ·) := rfl
    have htake := Text.takeWhile_append_stop hkey.all hstop
    have hdrop := Text.dropWhile_append_stop hkey.all hstop
    have htrim := Text.dropWhile_append_stop hgap hcolon
    simp only [field?, htake, hdrop, Text.trimLeft, htrim, hkey.any_head?, hrest, Bool.and_self,
      if_true]

theorem map_field?_eq_some_iff : (field? t).map (·.1) = some key ↔ Defines t key := by
  rw [Option.map_eq_some_iff]
  constructor
  · rintro ⟨⟨key, value⟩, h, rfl⟩
    obtain ⟨rest, hrest, -⟩ := field?_eq_some_iff.mp h
    exact ⟨rest, hrest⟩
  · rintro ⟨rest, h⟩
    exact ⟨(key, Text.trim rest), field?_eq_some_iff.mpr ⟨rest, h, rfl⟩, rfl⟩

theorem fieldsFrom_true (ts : List Text) : fieldsFrom true ts = fieldsOf ts := by
  induction ts with
  | nil => rfl
  | cons t ts ih =>
      -- within a block such a line is passed over, and outside of one it has no field to give
      by_cases h : continues t = true
      · simp only [fieldsOf, fieldsFrom, h, Bool.and_self, Bool.false_and, if_true,
          Bool.false_eq_true, if_false, field?_eq_none_of_continues h]
        exact ih
      · simp only [fieldsOf, fieldsFrom, h, Bool.and_false, Bool.false_eq_true, if_false]

theorem fieldsOf_cons_of_none {ts : List Text} (h : field? t = none) :
    fieldsOf (t :: ts) = fieldsOf ts := by
  simp only [fieldsOf, fieldsFrom, Bool.false_and, Bool.false_eq_true, if_false, h]

theorem fieldsOf_cons_of_some {ts : List Text} (h : field? t = some (key, value)) :
    fieldsOf (t :: ts) =
      (key,
        match indicator? value with
        | some style => blockValue style (ts.takeWhile continues)
        | none => unquoted value) :: fieldsOf ts := by
  simp only [fieldsOf, fieldsFrom, Bool.false_and, Bool.false_eq_true, if_false, h]
  cases indicator? value with
  | none => rfl
  | some style => rw [fieldsFrom_true, fieldsOf]

theorem map_fst_fieldsOf (ts : List Text) :
    (fieldsOf ts).map (·.1) = ts.filterMap fun t => (field? t).map (·.1) := by
  induction ts with
  | nil => rfl
  | cons t ts ih =>
      cases h : field? t with
      | none => rw [fieldsOf_cons_of_none h, ih, List.filterMap_cons, h]; rfl
      | some e => rw [fieldsOf_cons_of_some h, List.map_cons, ih, List.filterMap_cons, h]; rfl

theorem mem_keys_fieldsOf {ts : List Text} :
    key ∈ Table.keys (Table.ofList (fieldsOf ts)) ↔ ∃ t ∈ ts, Defines t key := by
  rw [Table.mem_keys_ofList, map_fst_fieldsOf, List.mem_filterMap]
  simp only [map_field?_eq_some_iff]

section Closed

variable {ts block behind : List Text} {n first last : Nat} {fields : Table Text Text}

theorem ofLines_closed (n : Nat) (h : marker ∉ block) (behind : List Text) :
    ofLines (Line.numberFrom n (marker :: (block ++ marker :: behind))) =
      .closed n (n + 1 + block.length) (Table.ofList (fieldsOf block)) := by
  have hblock : ∀ l ∈ Line.numberFrom (n + 1) block, l.text ≠ marker := by
    intro l hl he
    exact h (he ▸ Line.text_mem_of_mem hl)
  have hfind : (Line.numberFrom (n + 1) (block ++ marker :: behind)).find? (·.text = marker) =
      some ⟨n + 1 + block.length, marker⟩ := by
    rw [Line.numberFrom_append, List.find?_append, List.find?_eq_none.mpr (by simpa using hblock)]
    simp [Line.numberFrom]
  have htake : (Line.numberFrom (n + 1) (block ++ marker :: behind)).takeWhile (·.text ≠ marker) =
      Line.numberFrom (n + 1) block := by
    rw [Line.numberFrom_append, List.takeWhile_append_of_pos (by simpa using hblock)]
    simp [Line.numberFrom]
  rw [Line.numberFrom, ofLines, if_pos rfl, hfind, htake]
  simp

theorem ofLines_unclosed (n : Nat) (h : marker ∉ ts) :
    ofLines (Line.numberFrom n (marker :: ts)) = .unclosed n := by
  have hfind : (Line.numberFrom (n + 1) ts).find? (·.text = marker) = none := by
    refine List.find?_eq_none.mpr fun l hl he => h ?_
    rw [← of_decide_eq_true he]
    exact Line.text_mem_of_mem hl
  rw [Line.numberFrom, ofLines, if_pos rfl, hfind]

theorem ofLines_eq_closed (h : ofLines (Line.numberFrom n ts) = .closed first last fields) :
    ∃ block behind, ts = marker :: (block ++ marker :: behind) ∧ marker ∉ block ∧ first = n ∧
      last = n + 1 + block.length ∧ fields = Table.ofList (fieldsOf block) := by
  cases ts with
  | nil => cases h
  | cons t ts =>
      by_cases ht : t = marker
      · subst ht
        by_cases hm : marker ∈ ts
        · obtain ⟨block, behind, rfl, hblock⟩ := List.eq_append_cons_of_mem hm
          rw [ofLines_closed n hblock] at h
          cases h
          exact ⟨block, behind, rfl, hblock, rfl, rfl, rfl⟩
        · rw [ofLines_unclosed n hm] at h
          cases h
      · rw [Line.numberFrom, ofLines, if_neg ht] at h
        cases h

theorem first_of_unclosed (h : ofLines (Line.numberFrom n ts) = .unclosed first) : first = n := by
  cases ts with
  | nil => cases h
  | cons t ts =>
      by_cases ht : t = marker
      · subst ht
        by_cases hm : marker ∈ ts
        · obtain ⟨block, behind, rfl, hblock⟩ := List.eq_append_cons_of_mem hm
          rw [ofLines_closed n hblock] at h
          cases h
        · rw [ofLines_unclosed n hm] at h
          cases h
          rfl
      · rw [Line.numberFrom, ofLines, if_neg ht] at h
        cases h

end Closed

end Onboarding.FrontMatter
