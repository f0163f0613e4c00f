import Onboarding.Proofs.Config.Description

namespace Onboarding.Config

variable {ls : List Line} {l : Line} {c : Config}

@[simp] theorem topLevel_openSection (name : Text) (c : Config) :
    (c.openSection name).topLevel = c.topLevel := by
  by_cases h : c.sections.has name <;> simp [openSection, h]

@[simp] theorem keyLines_openSection (name : Text) (c : Config) :
    (c.openSection name).keyLines = c.keyLines := by
  by_cases h : c.sections.has name <;> simp [openSection, h]

theorem mem_openSection (name other : Text) (c : Config) :
    other ∈ (c.openSection name).sections.keys ↔ other ∈ c.sections.keys ∨ other = name := by
  have hkeys : c.sections.has name ↔ name ∈ c.sections.keys := by
    rw [Table.has, ← Table.mem_keys_iff]
  by_cases h : c.sections.has name
  · rw [openSection, if_pos h]
    constructor
    · exact .inl
    · rintro (ho | rfl)
      · exact ho
      · exact hkeys.mp h
  · rw [openSection, if_neg h, Table.keys_insert, if_neg fun hk => h (hkeys.mpr hk), List.mem_append,
      List.mem_singleton]

theorem lookup?_openSection (name other key : Text) (c : Config) :
    (c.openSection name).lookup? other key = c.lookup? other key := by
  by_cases h : c.sections.has name
  · rw [openSection, if_pos h]
  · rw [openSection, if_neg h, lookup?, lookup?, Table.get?_insert]
    by_cases he : name = other
    · subst he
      rw [Table.has, Option.not_isSome_iff_eq_none] at h
      rw [if_pos rfl, h]
      rfl
    · rw [if_neg he]

theorem sections_keys_assignIn {name : Text} (h : name ∈ c.sections.keys) (key value : Text) :
    (c.assignIn name key value).sections.keys = c.sections.keys := by
  rw [assignIn, Table.keys_insert, if_pos h]

theorem lookup?_assignIn (name key value other key' : Text) (c : Config) :
    (c.assignIn name key value).lookup? other key' =
      if name = other ∧ key = key' then some value else c.lookup? other key' := by
  rw [lookup?, assignIn, lookup?, Table.get?_insert]
  by_cases hn : name = other
  · subst hn
    rw [if_pos rfl, Option.bind_some, Table.get?_insert]
    by_cases hk : key = key'
    · rw [if_pos hk, if_pos ⟨rfl, hk⟩]
    · rw [if_neg hk, if_neg (fun h => hk h.2)]
      cases c.sections.get? name <;> rfl
  · rw [if_neg hn, if_neg (fun h => hn h.1)]

/-- What the reader holds says of the lines read so far what it should, and the section that is open is
that of the last header. -/
structure Reader.Follows (r : Reader) (ls : List Line) : Prop where
  current : ∀ header, OpenAfter ls header ↔ r.current = header
  describes : r.config.Describes ls

theorem Reader.follows_nil : Reader.Follows {} [] where
  current header := by
    cases header <;> simp [OpenAfter]
  describes :=
    { keyLines_keys := rfl
      mem_topLevel := by simp [Assigned, Table.keys]
      topLevel_get? := by simp [LastAssigned]
      mem_sections := by simp [Table.keys]
      isSome_lookup? := by simp [Assigned, lookup?]
      lookup?_eq_some := by simp [LastAssigned, lookup?] }

theorem not_opens_of_assigns {key value name : Text} (h : Assigns l key value) : ¬ Opens l name := by
  intro ho
  rw [Assigns, ho.2] at h
  cases h.2.1

theorem Assigns.eq {key value key' value' : Text} (h : Assigns l key value)
    (h' : Assigns l key' value') : key = key' ∧ value = value' := by
  obtain ⟨-, -, a, ha, rfl, hv⟩ := h
  obtain ⟨-, -, b, hb, rfl, hw⟩ := h'
  obtain rfl := Option.some.inj (ha.symm.trans hb)
  exact ⟨rfl, Option.some.inj (hv.symm.trans hw)⟩

section Concat

variable {header : Option Text} {key value value' : Text} {n : Nat}

theorem assigned_concat_of_not (h : OpenAfter ls header → ∀ other, ¬ Assigns l key other) :
    Assigned (ls ++ [l]) header key value ↔ Assigned ls header key value := by
  rw [assigned_concat_iff]
  exact ⟨fun ha => ha.resolve_right fun ha => h ha.1 _ ha.2, .inl⟩

theorem lastAssigned_concat_of_not (h : OpenAfter ls header → ∀ other, ¬ Assigns l key other) :
    LastAssigned (ls ++ [l]) header key value n ↔ LastAssigned ls header key value n := by
  rw [lastAssigned_concat_iff]
  exact ⟨fun ha => (ha.resolve_left fun ha => h ha.1 _ ha.2.1).2, fun ha => .inr ⟨h, ha⟩⟩

theorem exists_assigned_concat (ho : OpenAfter ls header) (h : Assigns l key value) :
    ∃ value, Assigned (ls ++ [l]) header key value :=
  ⟨value, assigned_concat_iff.mpr (.inr ⟨ho, h⟩)⟩

theorem lastAssigned_concat_of_assigns (ho : OpenAfter ls header) (h : Assigns l key value) :
    LastAssigned (ls ++ [l]) header key value' n ↔ value = value' ∧ l.number = n := by
  rw [lastAssigned_concat_iff]
  constructor
  · rintro (⟨-, h', hn⟩ | ⟨hno, -⟩)
    · exact ⟨(h.eq h').2, hn⟩
    · exact absurd h (hno ho value)
  · rintro ⟨rfl, hn⟩
    exact .inl ⟨ho, h, hn⟩

end Concat

theorem Reader.Follows.header {r : Reader} {name : Text} (h : r.Follows ls) (hl : Opens l name) :
    Reader.Follows ⟨r.config.openSection name, some name⟩ (ls ++ [l]) := by
  have hnot (header : Option Text) (key : Text) :
      OpenAfter ls header → ∀ value, ¬ Assigns l key value :=
    fun _ _ ha => not_opens_of_assigns ha hl
  refine ⟨fun header => ?_, ?_, ?_, ?_, ?_, ?_, ?_⟩
  · rw [openAfter_concat_iff]
    constructor
    · rintro (⟨other, ho, rfl⟩ | ⟨hno, -⟩)
      · rw [hl.eq ho]
      · exact absurd hl (hno name)
    · rintro rfl
      exact .inl ⟨name, hl, rfl⟩
  · simp only [topLevel_openSection, keyLines_openSection]
    exact h.describes.keyLines_keys
  · intro key
    simp only [topLevel_openSection, assigned_concat_of_not (hnot _ key)]
    exact h.describes.mem_topLevel key
  · intro key value n
    simp only [topLevel_openSection, keyLines_openSection, lastAssigned_concat_of_not (hnot _ key)]
    exact h.describes.topLevel_get? key value n
  · intro other
    rw [mem_openSection, h.describes.mem_sections]
    simp only [List.mem_append, List.mem_singleton, or_and_right, exists_or, exists_eq_left]
    exact or_congr Iff.rfl ⟨fun he => he ▸ hl, fun ho => ho.eq hl⟩
  · intro other key
    simp only [lookup?_openSection, assigned_concat_of_not (hnot _ key)]
    exact h.describes.isSome_lookup? other key
  · intro other key value
    simp only [lookup?_openSection, lastAssigned_concat_of_not (hnot _ key)]
    exact h.describes.lookup?_eq_some other key value

theorem openAfter_concat_of_not (hl : ∀ name, ¬ Opens l name) (header : Option Text) :
    OpenAfter (ls ++ [l]) header ↔ OpenAfter ls header := by
  rw [openAfter_concat_iff]
  constructor
  · rintro (⟨name, ho, -⟩ | ⟨-, ho⟩)
    · exact absurd ho (hl name)
    · exact ho
  · exact fun ho => .inr ⟨hl, ho⟩

theorem exists_opens_concat_of_not (hl : ∀ name, ¬ Opens l name) (name : Text) :
    (∃ m ∈ ls ++ [l], Opens m name) ↔ ∃ m ∈ ls, Opens m name := by
  simp only [List.mem_append, List.mem_singleton, or_and_right, exists_or, exists_eq_left]
  exact ⟨fun ho => ho.resolve_right (hl name), .inl⟩

theorem Reader.Follows.other {r : Reader} (h : r.Follows ls) (hl : ∀ name, ¬ Opens l name)
    (ha : ∀ key value, ¬ Assigns l key value) : r.Follows (ls ++ [l]) := by
  refine ⟨fun header => ?_, h.describes.keyLines_keys, ?_, ?_, ?_, ?_, ?_⟩
  · rw [openAfter_concat_of_not hl]
    exact h.current header
  · intro key
    simp only [assigned_concat_of_not fun _ => ha key]
    exact h.describes.mem_topLevel key
  · intro key value n
    rw [lastAssigned_concat_of_not fun _ => ha key]
    exact h.describes.topLevel_get? key value n
  · intro name
    rw [exists_opens_concat_of_not hl]
    exact h.describes.mem_sections name
  · intro name key
    simp only [assigned_concat_of_not fun _ => ha key]
    exact h.describes.isSome_lookup? name key
  · intro name key value
    simp only [lastAssigned_concat_of_not fun _ => ha key]
    exact h.describes.lookup?_eq_some name key value

theorem Reader.Follows.assignTop {r : Reader} {key value : Text} (h : r.Follows ls)
    (hc : r.current = none) (hl : Assigns l key value) :
    Reader.Follows { r with config := r.config.assignTop l.number key value } (ls ++ [l]) := by
  have ho : OpenAfter ls none := (h.current none).mpr hc
  have hnot (name key : Text) : OpenAfter ls (some name) → ∀ value, ¬ Assigns l key value := by
    intro hname
    rw [(h.current _).mp hname] at hc
    cases hc
  have hother {key' : Text} (hk : key' ≠ key) : OpenAfter ls none → ∀ value, ¬ Assigns l key' value :=
    fun _ _ ha => hk (ha.eq hl).1
  refine ⟨fun header => ?_, ?_, ?_, ?_, ?_, ?_, ?_⟩
  · rw [openAfter_concat_of_not fun _ => not_opens_of_assigns hl]
    exact h.current header
  · simp only [Config.assignTop, Table.keys_insert, h.describes.keyLines_keys]
    split <;> rfl
  · intro key'
    rw [Config.assignTop, Table.mem_keys_iff, Table.get?_insert]
    by_cases hk : key' = key
    · subst hk
      simp only [if_true, Option.isSome_some, true_iff]
      exact exists_assigned_concat ho hl
    · simp only [if_neg (Ne.symm hk), ← Table.mem_keys_iff, assigned_concat_of_not (hother hk)]
      exact h.describes.mem_topLevel key'
  · intro key' value' n
    rw [Config.assignTop, Table.get?_insert, Table.get?_insert]
    by_cases hk : key' = key
    · subst hk
      rw [lastAssigned_concat_of_assigns ho hl]
      simp
    · rw [if_neg (Ne.symm hk), if_neg (Ne.symm hk), lastAssigned_concat_of_not (hother hk)]
      exact h.describes.topLevel_get? key' value' n
  · intro name
    rw [exists_opens_concat_of_not fun _ => not_opens_of_assigns hl]
    exact h.describes.mem_sections name
  · intro name key'
    simp only [assigned_concat_of_not (hnot name key')]
    exact h.describes.isSome_lookup? name key'
  · intro name key' value'
    simp only [lastAssigned_concat_of_not (hnot name key')]
    exact h.describes.lookup?_eq_some name key' value'

theorem Reader.Follows.mem_sections {r : Reader} {name : Text} (h : r.Follows ls)
    (hc : r.current = some name) : name ∈ r.config.sections.keys := by
  obtain ⟨before, m, after, rfl, hm, -⟩ := (h.current _).mpr hc
  exact (h.describes.mem_sections name).mpr ⟨m, by simp, hm⟩

theorem Reader.Follows.assignIn {r : Reader} {name key value : Text} (h : r.Follows ls)
    (hc : r.current = some name) (hl : Assigns l key value) :
    Reader.Follows { r with config := r.config.assignIn name key value } (ls ++ [l]) := by
  have ho : OpenAfter ls (some name) := (h.current _).mpr hc
  have hname := h.mem_sections hc
  have hnot {header : Option Text} {key' : Text} (hk : ¬ (header = some name ∧ key' = key)) :
      OpenAfter ls header → ∀ value, ¬ Assigns l key' value := by
    intro hh value' ha
    have hheader := (h.current header).mp hh
    rw [hc] at hheader
    exact hk ⟨hheader.symm, (ha.eq hl).1⟩
  refine ⟨fun header => ?_, h.describes.keyLines_keys, ?_, ?_, ?_, ?_, ?_⟩
  · rw [openAfter_concat_of_not fun _ => not_opens_of_assigns hl]
    exact h.current header
  · intro key'
    have hnone : OpenAfter ls none → ∀ value, ¬ Assigns l key' value := hnot (by simp)
    simp only [assigned_concat_of_not hnone]
    exact h.describes.mem_topLevel key'
  · intro key' value' n
    rw [lastAssigned_concat_of_not (hnot (by simp))]
    exact h.describes.topLevel_get? key' value' n
  · intro other
    rw [sections_keys_assignIn hname,
      exists_opens_concat_of_not fun _ => not_opens_of_assigns hl]
    exact h.describes.mem_sections other
  · intro other key'
    rw [lookup?_assignIn]
    by_cases hk : name = other ∧ key = key'
    · obtain ⟨rfl, rfl⟩ := hk
      simp only [and_self, if_true, Option.isSome_some, true_iff]
      exact exists_assigned_concat ho hl
    · have hk' : ¬ (some other = some name ∧ key' = key) :=
        fun he => hk ⟨(Option.some.inj he.1).symm, he.2.symm⟩
      simp only [if_neg hk, assigned_concat_of_not (hnot hk')]
      exact h.describes.isSome_lookup? other key'
  · intro other key' value'
    rw [lookup?_assignIn]
    by_cases hk : name = other ∧ key = key'
    · obtain ⟨rfl, rfl⟩ := hk
      simp only [and_self, if_true, lastAssigned_concat_of_assigns ho hl, Option.some.injEq,
        exists_and_left, exists_eq', and_true]
    · have hk' : ¬ (some other = some name ∧ key' = key) :=
        fun he => hk ⟨(Option.some.inj he.1).symm, he.2.symm⟩
      simp only [if_neg hk, lastAssigned_concat_of_not (hnot hk')]
      exact h.describes.lookup?_eq_some other key' value'

theorem Reader.Follows.next {r : Reader} (h : r.Follows ls) (l : Line) :
    (r.next l).Follows (ls ++ [l]) := by
  cases he : Entry.ofText l.text with
  | header name =>
      rw [Reader.next, he]
      exact h.header (ofText_eq_header_iff.mp he)
  | assignment key value =>
      have hl := ofText_eq_assignment_iff.mp he
      simp only [Reader.next, he]
      split
      · next hc => exact h.assignTop hc hl
      · next name hc => exact h.assignIn hc hl
  | other =>
      rw [Reader.next, he]
      exact h.other (fun name ho => by simp [ofText_eq_header_iff.mpr ho] at he)
        fun key value ha => by simp [ofText_eq_assignment_iff.mpr ha] at he

theorem Reader.Follows.foldl {r : Reader} (h : r.Follows ls) (rest : List Line) :
    (rest.foldl Reader.next r).Follows (ls ++ rest) := by
  induction rest generalizing ls r with
  | nil => rwa [List.append_nil]
  | cons l rest ih =>
      have := ih (h.next l)
      rwa [List.append_assoc] at this

theorem describes_ofLines (ls : List Line) : (ofLines ls).Describes ls :=
  (Reader.follows_nil.foldl ls).describes

/-- Reading a text gives what its lines say: of several assignments to a key under one header the last
counts, wherever that header was opened again, and before the first header so do those at the top. -/
theorem describes_read (content : Text) : (read content).Describes (Line.index content) :=
  (Reader.follows_nil.foldl (Line.index content)).describes

end Onboarding.Config
