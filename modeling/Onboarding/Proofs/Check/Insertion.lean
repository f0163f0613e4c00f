import Onboarding.Check.Skill
import Onboarding.Proofs.Document.Fields
import Onboarding.Proofs.Document.Titles

namespace Onboarding

namespace FrontMatter

variable {block behind : List Text}

theorem body_closed (block behind : List Text) (fields : Table Text Text) :
    body (Line.numberFrom 1 (marker :: (block ++ marker :: behind)))
        (.closed 1 (1 + 1 + block.length) fields) =
      Line.numberFrom (1 + 1 + block.length + 1) behind := by
  have hsplit : marker :: (block ++ marker :: behind) = (marker :: (block ++ [marker])) ++ behind := by
    simp
  have hlen : (Line.numberFrom 1 (marker :: (block ++ [marker]))).length = 1 + 1 + block.length := by
    simp
    omega
  rw [body, hsplit, Line.numberFrom_append, List.drop_left' hlen]
  congr 1
  simp
  omega

theorem index_insertLines_closed {content : Text} {new : List Text} {j : Nat}
    (h : (Text.splitOn '\n' content).map (Text.dropEnd '\r') = marker :: (block ++ marker :: behind))
    (hnew : ∀ t ∈ new, '\n' ∉ t) (hj : j ≤ block.length) :
    Line.index (Text.insertLines (j + 1) new content) = Line.numberFrom 1
      (marker :: ((block.take j ++ (new.map (Text.dropEnd '\r') ++ block.drop j)) ++
        marker :: behind)) := by
  rw [Line.index_insertLines hnew, h]
  simp [List.take_append_of_le_length hj, List.drop_append_of_le_length hj]

theorem exists_between_iff (p : Text → Prop) :
    (∃ l ∈ Line.numberFrom 1 (marker :: (block ++ marker :: behind)), 1 < l.number ∧
        l.number < 1 + 1 + block.length ∧ p l.text) ↔ ∃ t ∈ block, p t := by
  rw [Line.numberFrom, Line.numberFrom_append]
  constructor
  · rintro ⟨l, hl, hlo, hhi, hp⟩
    rcases List.mem_cons.mp hl with rfl | hl
    · exact absurd hlo (Nat.lt_irrefl 1)
    · rcases List.mem_append.mp hl with hl | hl
      · exact ⟨l.text, Line.text_mem_of_mem hl, hp⟩
      · exact absurd (Line.le_number_of_mem hl) (Nat.not_le_of_lt hhi)
  · rintro ⟨t, ht, hp⟩
    obtain ⟨l, hl, rfl⟩ := Line.exists_mem_numberFrom (1 + 1) ht
    exact ⟨l, List.mem_cons_of_mem _ (List.mem_append_left _ hl), Line.le_number_of_mem hl,
      Line.number_lt_of_mem hl, hp⟩

end FrontMatter

namespace Skill

open FrontMatter (Defines marker)

/-- A field is said to be missing which one of the lines defines. -/
def IsFilledBy (d : Diagnostic) (first : Nat) (ts : List Text) : Prop :=
  ∃ t ∈ ts, ∃ key, Defines t key ∧ d = (Error.missingField key first).diagnostic

theorem isFilledBy_iff {d : Diagnostic} {first : Nat} {ts : List Text} :
    IsFilledBy d first ts ↔ ∃ key ∈ ts.filterMap fun t => (FrontMatter.field? t).map (·.1),
      d = (Error.missingField key first).diagnostic := by
  simp only [IsFilledBy, List.mem_filterMap, FrontMatter.map_field?_eq_some_iff]
  constructor
  · rintro ⟨t, ht, key, hkey, hd⟩
    exact ⟨key, ⟨t, ht, hkey⟩, hd⟩
  · rintro ⟨key, ⟨t, ht, hkey⟩, hd⟩
    exact ⟨t, ht, key, hkey, hd⟩

instance (d : Diagnostic) (first : Nat) (ts : List Text) : Decidable (IsFilledBy d first ts) :=
  decidable_of_iff _ isFilledBy_iff.symm

theorem diagnostic_missingField_inj {name key : Text} {first : Nat} :
    (Error.missingField name first).diagnostic = (Error.missingField key first).diagnostic ↔
      name = key := by
  constructor
  · intro h
    exact List.append_cancel_left (congrArg Diagnostic.message h)
  · exact fun h => congrArg (fun name => (Error.missingField name first).diagnostic) h

theorem errors_closed {fields fields' : Table Text Text} {ts : List Text}
    (h : ∀ key, key ∈ fields'.keys ↔ key ∈ fields.keys ∨ ∃ t ∈ ts, Defines t key)
    (required : List Text) (first last last' : Nat) :
    (errors required (.closed first last' fields')).map Error.diagnostic =
      ((errors required (.closed first last fields)).map Error.diagnostic).filter
        fun d => ¬ IsFilledBy d first ts := by
  have hfilled (name : Text) : IsFilledBy (Error.missingField name first).diagnostic first ts ↔
      ∃ t ∈ ts, Defines t name := by
    simp only [IsFilledBy, diagnostic_missingField_inj]
    constructor
    · rintro ⟨t, ht, key, hkey, rfl⟩
      exact ⟨t, ht, hkey⟩
    · rintro ⟨t, ht, hkey⟩
      exact ⟨t, ht, name, hkey, rfl⟩
  have hmissing : ∀ name ∈ required, (!fields'.has name) =
      (decide (¬ IsFilledBy (Error.missingField name first).diagnostic first ts) &&
        !fields.has name) := by
    intro name _
    rw [Bool.eq_iff_iff, Bool.and_eq_true, decide_eq_true_eq, Bool.not_eq_true', Bool.not_eq_true',
      ← Bool.not_eq_true, ← Bool.not_eq_true, Table.has, ← Table.mem_keys_iff, Table.has,
      ← Table.mem_keys_iff, h, hfilled, not_or, and_comm]
  rw [errors, errors, List.filter_map, List.filter_map, List.filter_filter]
  exact congrArg (fun names => (names.map fun name => Error.missingField name first).map
    Error.diagnostic) (List.filter_congr hmissing)

theorem mem_keys_inserted (i : Nat) (block new : List Text) (key : Text) :
    key ∈ Table.keys (Table.ofList (FrontMatter.fieldsOf (block.take i ++ (new ++ block.drop i)))) ↔
      key ∈ Table.keys (Table.ofList (FrontMatter.fieldsOf block)) ∨ ∃ t ∈ new, Defines t key := by
  simp only [FrontMatter.mem_keys_fieldsOf, mem_take_append_drop, or_and_right, exists_or]

theorem bodyWarnings_congr {ls ms : List Line}
    (h : (Section.scan ls).map (·.title) = (Section.scan ms).map (·.title)) (settings : Settings) :
    bodyWarnings settings ls = bodyWarnings settings ms := by
  simp only [bodyWarnings, Section.isNone_find?_congr h]

theorem bodyWarnings_numberFrom (settings : Settings) (n m : Nat) (ts : List Text) :
    bodyWarnings settings (Line.numberFrom n ts) = bodyWarnings settings (Line.numberFrom m ts) := by
  refine bodyWarnings_congr (Section.map_title_scan_congr ?_) settings
  rw [Line.map_text_numberFrom, Line.map_text_numberFrom]

/-- The report on a document whose front matter is closed: its fields count for the errors, and the lines
behind it, whatever their numbers, for the warnings. -/
theorem check_closed {content : Text} {block behind : List Text} (hblock : marker ∉ block)
    (h : Line.index content = Line.numberFrom 1 (marker :: (block ++ marker :: behind)))
    (settings : Settings) :
    check settings content =
      { errors := (errors settings.skillRequiredFields (.closed 1 (1 + 1 + block.length)
          (Table.ofList (FrontMatter.fieldsOf block)))).map Error.diagnostic
        warnings := (bodyWarnings settings (Line.numberFrom 1 behind)).map Warning.diagnostic } := by
  simp only [check, h, FrontMatter.ofLines_closed 1 hblock, warnings, FrontMatter.body_closed,
    bodyWarnings_numberFrom settings (1 + 1 + block.length + 1) 1]

/-- A key is read from closed front matter just if a single line between the markers, looked at alone, has
the form of a field with that key. So lines that are put in anywhere between the markers, be it into a
block, take away the errors on the fields that they define, and change nothing else. -/
theorem check_insertLines {content : Text} {first last : Nat} {fields : Table Text Text}
    (h : FrontMatter.ofLines (Line.index content) = .closed first last fields) :
    (∀ key, key ∈ fields.keys ↔
      ∃ l ∈ Line.index content, first < l.number ∧ l.number < last ∧ Defines l.text key) ∧
    ∀ (settings : Settings) (i : Nat) (new : List Text), first ≤ i → i < last →
      (∀ t ∈ new, '\n' ∉ t ∧ Text.dropEnd '\r' t ≠ marker) →
      check settings (Text.insertLines i new content) =
        { errors := (check settings content).errors.filter
            fun d => ¬ IsFilledBy d first (new.map (Text.dropEnd '\r'))
          warnings := (check settings content).warnings } := by
  rw [Line.index] at h
  obtain ⟨block, behind, hts, hblock, rfl, rfl, rfl⟩ := FrontMatter.ofLines_eq_closed h
  have hindex : Line.index content = Line.numberFrom 1 (marker :: (block ++ marker :: behind)) := by
    rw [Line.index, hts]
  constructor
  · intro key
    rw [FrontMatter.mem_keys_fieldsOf, hindex]
    exact (FrontMatter.exists_between_iff fun t => Defines t key).symm
  · intro settings i new hlo hhi hnew
    obtain ⟨j, rfl⟩ : ∃ j, i = j + 1 := ⟨i - 1, by omega⟩
    have hj : j ≤ block.length := by omega
    have hmarker : marker ∉ new.map (Text.dropEnd '\r') := by
      rw [List.mem_map]
      rintro ⟨t, ht, hm⟩
      exact (hnew t ht).2 hm
    have hblock' : marker ∉ block.take j ++ (new.map (Text.dropEnd '\r') ++ block.drop j) := by
      rw [mem_take_append_drop, not_or]
      exact ⟨hblock, hmarker⟩
    have hlonger := FrontMatter.index_insertLines_closed hts (fun t ht => (hnew t ht).1) hj
    rw [check_closed hblock' hlonger, check_closed hblock hindex,
      errors_closed (mem_keys_inserted j block (new.map (Text.dropEnd '\r')))]

def blockContent : Text := "---\ndescription: |\n  what\n  it does\n---".toList

/-- Lines are put in between those of a block: the first one ends it and is a field that was missing. -/
theorem check_insertLines_blockContent :
    FrontMatter.ofLines (Line.index blockContent) =
        .closed 1 5 [("description".toList, "what\nit does".toList)] ∧
      (check Settings.default blockContent).errors =
        [(Error.missingField "name".toList 1).diagnostic] ∧
      (check Settings.default
        (Text.insertLines 3 ["name : n".toList, "  name: m".toList] blockContent)).errors = [] := by
  have h : FrontMatter.ofLines (Line.index blockContent) =
      .closed 1 5 [("description".toList, "what\nit does".toList)] := by decide +kernel
  refine ⟨h, by decide +kernel, ?_⟩
  rw [(check_insertLines h).2 Settings.default 3 _ (by decide) (by decide) (by decide +kernel)]
  decide +kernel

end Skill

end Onboarding
