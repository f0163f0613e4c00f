import Onboarding.Proofs.Config.Elements
import Onboarding.Proofs.Config.Reading
import Onboarding.Proofs.Document.Lines

namespace Onboarding

namespace Table

variable {κ α : Type} [DecidableEq κ]

def without (k : κ) (t : Table κ α) : Table κ α := t.filter fun e => e.1 ≠ k

@[simp] theorem without_cons_self (k : κ) (a : α) (t : Table κ α) :
    without k ((k, a) :: t) = without k t :=
  List.filter_cons_of_neg (by simp)

theorem without_cons_of_ne {j k : κ} (h : j ≠ k) (a : α) (t : Table κ α) :
    without k ((j, a) :: t) = (j, a) :: without k t :=
  List.filter_cons_of_pos (by simpa using h)

@[simp] theorem without_insert_self (k : κ) (a : α) (t : Table κ α) :
    without k (t.insert k a) = without k t := by
  induction t with
  | nil => exact without_cons_self k a []
  | cons e t ih =>
      obtain ⟨i, b⟩ := e
      by_cases hi : i = k
      · subst hi
        rw [insert, if_pos rfl, without_cons_self, without_cons_self]
      · rw [insert, if_neg hi, without_cons_of_ne hi, ih, without_cons_of_ne hi]

theorem without_insert_of_ne {j k : κ} (h : j ≠ k) (a : α) (t : Table κ α) :
    without k (t.insert j a) = (without k t).insert j a := by
  induction t with
  | nil => exact without_cons_of_ne h a []
  | cons e t ih =>
      obtain ⟨i, b⟩ := e
      by_cases hi : i = j
      · subst hi
        rw [insert, if_pos rfl, without_cons_of_ne h, without_cons_of_ne h, insert, if_pos rfl]
      · by_cases hk : i = k
        · subst hk
          rw [insert, if_neg hi, without_cons_self, ih, without_cons_self]
        · rw [insert, if_neg hi, without_cons_of_ne hk, ih, without_cons_of_ne hk, insert,
            if_neg hi]

def mapValues {β : Type} (f : α → β) (t : Table κ α) : Table κ β := t.map fun e => (e.1, f e.2)

theorem mapValues_insert {β : Type} (f : α → β) (k : κ) (a : α) (t : Table κ α) :
    mapValues f (t.insert k a) = (mapValues f t).insert k (f a) := by
  induction t with
  | nil => rfl
  | cons e t ih =>
      obtain ⟨i, b⟩ := e
      by_cases hi : i = k
      · subst hi
        simp [insert, mapValues]
      · simp only [mapValues] at ih
        simp [insert, mapValues, hi, ih]

theorem get?_mapValues {β : Type} (f : α → β) (t : Table κ α) (k : κ) :
    get? k (mapValues f t) = (get? k t).map f := by
  induction t with
  | nil => rfl
  | cons e t ih =>
      obtain ⟨j, a⟩ := e
      have hcons : mapValues f ((j, a) :: t) = (j, f a) :: mapValues f t := rfl
      rw [hcons, get?_cons, get?_cons, ih]
      split <;> rfl

theorem eq_or_mem_of_mem_insert {k : κ} {a : α} {t : Table κ α} {e : κ × α}
    (h : e ∈ t.insert k a) : e = (k, a) ∨ e ∈ t := by
  induction t with
  | nil => exact .inl (List.mem_singleton.mp h)
  | cons b t ih =>
      obtain ⟨i, b⟩ := b
      by_cases hi : i = k
      · rw [insert, if_pos hi] at h
        exact (List.mem_cons.mp h).imp id (List.mem_cons_of_mem _)
      · rw [insert, if_neg hi, List.mem_cons] at h
        rcases h with rfl | h
        · exact .inr List.mem_cons_self
        · exact (ih h).imp id (List.mem_cons_of_mem _)

end Table

namespace Config

open Text (trim)

/-- An array whose elements stand in lines of their own. -/
structure ArrayBlock where
  key : Text
  elements : List Text

namespace ArrayBlock

def lines (b : ArrayBlock) : List Text := (b.key ++ " = [".toList) :: (b.elements ++ [[']']])

structure WellFormed (b : ArrayBlock) : Prop where
  isBare : Source.isBare b.key
  isElementLine : ∀ t ∈ b.elements, IsElementLine t
  isLine : ∀ t ∈ b.elements, '\n' ∉ t

theorem WellFormed.forall_lines {b : ArrayBlock} (h : b.WellFormed) : ∀ t ∈ b.lines, '\n' ∉ t := by
  intro t ht
  simp only [lines, List.mem_cons, List.mem_append, List.not_mem_nil, or_false] at ht
  rcases ht with rfl | ht | rfl
  · obtain ⟨c, u, he, hu⟩ := Source.isBare_iff.mp h.isBare
    rw [he, List.mem_append, not_or]
    exact ⟨fun hm => Segment.ne_of_isBareChar (hu _ hm) rfl rfl, by decide⟩
  · exact h.isLine t ht
  · decide

end ArrayBlock

/-- The number of a line once `n` lines have been put in behind the line `i`. -/
def shift (i n m : Nat) : Nat := if m ≤ i then m else m + n

/-- The second configuration is the first one but for the top-level value of the key, and the lines of
the other keys are shifted. -/
structure AgreesBut (key : Text) (i n : Nat) (c c' : Config) : Prop where
  sections : c'.sections = c.sections
  topLevel : c'.topLevel.without key = c.topLevel.without key
  keyLines : c'.keyLines.without key = (c.keyLines.without key).mapValues (shift i n)

instance (key : Text) (i n : Nat) (c c' : Config) : Decidable (AgreesBut key i n c c') :=
  decidable_of_iff
    (c'.sections = c.sections ∧ c'.topLevel.without key = c.topLevel.without key ∧
      c'.keyLines.without key = (c.keyLines.without key).mapValues (shift i n))
    ⟨fun ⟨h₁, h₂, h₃⟩ => ⟨h₁, h₂, h₃⟩, fun h => ⟨h.sections, h.topLevel, h.keyLines⟩⟩

variable {key : Text} {i n : Nat}

namespace AgreesBut

variable {c c' : Config}

theorem openSection (h : AgreesBut key i n c c') (name : Text) :
    AgreesBut key i n (c.openSection name) (c'.openSection name) := by
  refine ⟨?_, by simp [h.topLevel], by simp [h.keyLines]⟩
  by_cases hn : c.sections.has name <;> simp [Config.openSection, h.sections, hn]

theorem assignIn (h : AgreesBut key i n c c') (name k v : Text) :
    AgreesBut key i n (c.assignIn name k v) (c'.assignIn name k v) :=
  ⟨by rw [Config.assignIn, Config.assignIn, h.sections], h.topLevel, h.keyLines⟩

theorem assignTop (h : AgreesBut key i n c c') (m : Nat) (k v : Text) :
    AgreesBut key i n (c.assignTop m k v) (c'.assignTop (shift i n m) k v) := by
  by_cases hk : k = key
  · subst hk
    exact ⟨h.sections, by simp [Config.assignTop, h.topLevel], by simp [Config.assignTop, h.keyLines]⟩
  · refine ⟨h.sections, ?_, ?_⟩
    · simp only [Config.assignTop, Table.without_insert_of_ne hk, h.topLevel]
    · simp only [Config.assignTop, Table.without_insert_of_ne hk, h.keyLines, Table.mapValues_insert]

end AgreesBut

structure Reader.AgreesBut (key : Text) (i n : Nat) (r r' : Reader) : Prop where
  current : r'.current = r.current
  config : r.config.AgreesBut key i n r'.config

namespace Reader

theorem AgreesBut.next {r r' : Reader} (h : r.AgreesBut key i n r') (m : Nat) (t : Text) :
    (r.next ⟨m, t⟩).AgreesBut key i n (r'.next ⟨shift i n m, t⟩) := by
  cases he : Entry.ofText t with
  | header name =>
      simp only [Reader.next, he]
      exact ⟨rfl, h.config.openSection name⟩
  | assignment k v =>
      simp only [Reader.next, he, h.current]
      cases r.current with
      | none => exact ⟨rfl, h.config.assignTop m k v⟩
      | some name => exact ⟨rfl, h.config.assignIn name k v⟩
  | other =>
      simp only [Reader.next, he]
      exact h

theorem AgreesBut.foldl {r r' : Reader} (h : r.AgreesBut key i n r') (ts : List Text) {m : Nat}
    (hm : ts = [] ∨ i < m) :
    ((Line.numberFrom m ts).foldl Reader.next r).AgreesBut key i n
      ((Line.numberFrom (m + n) ts).foldl Reader.next r') := by
  induction ts generalizing r r' m with
  | nil => exact h
  | cons t ts ih =>
      have him : i < m := hm.resolve_left (List.cons_ne_nil t ts)
      have hnext := h.next m t
      rw [shift, if_neg (Nat.not_le_of_lt him)] at hnext
      have hrest := ih hnext (m := m + 1) (.inr (Nat.lt_succ_of_lt him))
      rwa [Nat.add_right_comm] at hrest

theorem number_le_next {r : Reader} {m : Nat} (h : ∀ e ∈ r.config.keyLines, e.2 ≤ m) {l : Line}
    (hl : l.number ≤ m) : ∀ e ∈ (r.next l).config.keyLines, e.2 ≤ m := by
  cases ht : Entry.ofText l.text with
  | header name => simpa [next, ht] using h
  | assignment k v =>
      cases hc : r.current with
      | none =>
          intro e he
          simp only [next, ht, hc] at he
          rcases Table.eq_or_mem_of_mem_insert he with rfl | he
          · exact hl
          · exact h e he
      | some name =>
          simp only [next, ht, hc]
          exact h
  | other =>
      simp only [next, ht]
      exact h

theorem number_le_foldl {r : Reader} {m : Nat} (h : ∀ e ∈ r.config.keyLines, e.2 ≤ m)
    {ls : List Line} (hl : ∀ l ∈ ls, l.number ≤ m) :
    ∀ e ∈ (ls.foldl next r).config.keyLines, e.2 ≤ m := by
  induction ls generalizing r with
  | nil => exact h
  | cons l ls ih =>
      rw [List.forall_mem_cons] at hl
      exact ih (number_le_next h hl.1) hl.2

theorem foldl_next_of_other {ts : List Text} (h : ∀ t ∈ ts, Entry.ofText t = .other) (r : Reader)
    (m : Nat) : (Line.numberFrom m ts).foldl next r = r := by
  induction ts generalizing m with
  | nil => rfl
  | cons t ts ih =>
      rw [List.forall_mem_cons] at h
      have hnext : r.next ⟨m, t⟩ = r := by rw [next, h.1]
      rw [Line.numberFrom, List.foldl_cons, hnext, ih h.2]

end Reader

theorem Entry.ofText_dropEnd (t : Text) : Entry.ofText (Text.dropEnd '\r' t) = Entry.ofText t := by
  rw [Entry.ofText, Entry.ofText, Text.trim_dropEnd (by decide)]

theorem Entry.ofText_open (h : Source.isBare key) :
    Entry.ofText (key ++ " = [".toList) = .assignment key ['['] := by
  obtain ⟨c, u, rfl, hu⟩ := Source.isBare_iff.mp h
  have hc := hu c List.mem_cons_self
  have htrim : trim (c :: u ++ " = [".toList) = c :: (u ++ " = [".toList) := by
    have := Text.trim_cons_concat (Segment.isBlank_of_isBareChar hc) (d := '[') rfl (u ++ " = ".toList)
    simpa using this
  have hcomment : isComment (c :: (u ++ " = [".toList)) = false := by
    simp [isComment, Segment.ne_of_isBareChar hc (d := '#') rfl]
  have hheader : Header.name? (c :: (u ++ " = [".toList)) = none :=
    Header.name?_cons_of_ne (Segment.ne_of_isBareChar hc rfl)
  have hassign : Assignment.ofText? (c :: (u ++ " = [".toList)) = some ⟨c :: u, " [".toList⟩ := by
    rw [← List.cons_append, Assignment.ofText?, Source.key?_bare h rfl]
    rfl
  simp only [Entry.ofText, htrim, hcomment, hheader, hassign]
  rfl

/-- If no line of the array looks like a header, the reader goes on behind it as if only the key had been
assigned something. -/
theorem Reader.foldl_block {b : ArrayBlock} (h : b.WellFormed)
    (hheader : ∀ t ∈ b.elements, ¬ LooksLikeHeader t) {r : Reader} (hr : r.current = none) (m : Nat) :
    (Line.numberFrom m (b.lines.map (Text.dropEnd '\r'))).foldl next r =
      { r with config := r.config.assignTop m b.key ['['] } := by
  have hothers : ∀ t ∈ (b.elements ++ [[']']]).map (Text.dropEnd '\r'), Entry.ofText t = .other := by
    intro line hline
    obtain ⟨t, ht, rfl⟩ := List.mem_map.mp hline
    rw [Entry.ofText_dropEnd]
    rcases List.mem_append.mp ht with ht | ht
    · exact (h.isElementLine t ht).ofText_eq_other (hheader t ht)
    · rw [List.mem_singleton.mp ht]
      rfl
  have hopen := Entry.ofText_open h.isBare
  rw [← Entry.ofText_dropEnd] at hopen
  rw [ArrayBlock.lines, List.map_cons, Line.numberFrom, List.foldl_cons, foldl_next_of_other hothers]
  simp only [next, hopen, hr]

theorem Reader.agreesBut_assignTop {r : Reader} (h : ∀ e ∈ r.config.keyLines, e.2 ≤ i) (m : Nat)
    (value : Text) : r.AgreesBut key i n { r with config := r.config.assignTop m key value } := by
  refine ⟨rfl, rfl, Table.without_insert_self key value _, ?_⟩
  have hshift : ∀ e ∈ r.config.keyLines.without key, (e.1, shift i n e.2) = id e := by
    intro e he
    rw [shift, if_pos (h e (List.mem_filter.mp he).1)]
    rfl
  rw [Config.assignTop, Table.without_insert_self, Table.mapValues, List.map_congr_left hshift,
    List.map_id]

theorem agreesBut_insertLines {b : ArrayBlock} (h : b.WellFormed)
    (hheader : ∀ t ∈ b.elements, ¬ LooksLikeHeader t) {content : Text}
    (hopen : OpenAfter ((Line.index content).take i) none) :
    AgreesBut b.key i b.lines.length (read content) (read (Text.insertLines i b.lines content)) := by
  rw [Line.index, Line.take_numberFrom] at hopen
  generalize hts : ((Text.splitOn '\n' content).map (Text.dropEnd '\r')) = ts at hopen
  have hindex := Line.index_insertLines h.forall_lines i content
  rw [hts] at hindex
  have hcontent : Line.index content = Line.numberFrom 1 (ts.take i ++ ts.drop i) := by
    rw [List.take_append_drop, Line.index, hts]
  have hlength : ts.drop i = [] ∨ i < 1 + (ts.take i).length := by
    rw [List.drop_eq_nil_iff, List.length_take]
    omega
  have hfollows := Reader.follows_nil.foldl (Line.numberFrom 1 (ts.take i))
  generalize hr : (Line.numberFrom 1 (ts.take i)).foldl Reader.next {} = r at hfollows
  have hcurrent : r.current = none := (hfollows.current none).mp hopen
  have hlines : ∀ e ∈ r.config.keyLines, e.2 ≤ i := by
    rw [← hr]
    refine Reader.number_le_foldl (fun e he => absurd he List.not_mem_nil) fun l hl => ?_
    have := Line.number_lt_of_mem hl
    rw [List.length_take] at this
    omega
  have hstart : r.AgreesBut b.key i b.lines.length
      { r with config := r.config.assignTop (1 + (ts.take i).length) b.key ['['] } :=
    Reader.agreesBut_assignTop hlines _ _
  have hrest := hstart.foldl (ts.drop i) hlength
  rw [read, ofLines, hcontent, Line.numberFrom_append, List.foldl_append, hr, read, ofLines, hindex,
    Line.numberFrom_append, Line.numberFrom_append, List.foldl_append, List.foldl_append, hr,
    Reader.foldl_block h hheader hcurrent, List.length_map]
  exact hrest.config

/-- An array may be put in anywhere before the first header just if none of its elements is alone in its
line and an array of a single string, or of bare names with dots between them, as numbers and truth values
are: then nothing changes but what is read for its key, and the lines behind it are shifted. -/
theorem read_insertLines_iff {b : ArrayBlock} (h : b.WellFormed) :
    (∀ content i, OpenAfter ((Line.index content).take i) none →
      AgreesBut b.key i b.lines.length (read content) (read (Text.insertLines i b.lines content))) ↔
    ∀ t ∈ b.elements, ¬ LooksLikeHeader t := by
  constructor
  · intro hall t ht hlooks
    have hopen : OpenAfter ((Line.index []).take 0) none := fun l hl => absurd hl List.not_mem_nil
    have hsections := (hall [] 0 hopen).sections
    have hindex := Line.index_insertLines h.forall_lines 0 []
    have hmem : Text.dropEnd '\r' t ∈ b.lines.map (Text.dropEnd '\r') :=
      List.mem_map_of_mem (List.mem_cons_of_mem _ (List.mem_append_left _ ht))
    obtain ⟨l, hl, hlt⟩ := Line.exists_mem_numberFrom 1 (List.mem_append_left
      (((Text.splitOn '\n' []).map (Text.dropEnd '\r')).drop 0) hmem)
    have hline : LooksLikeHeader l.text := by
      rw [LooksLikeHeader, hlt, Text.trim_dropEnd (by decide)]
      exact hlooks
    obtain ⟨name, hname⟩ := hline.exists_opens
    have hkeys : name ∈ (read (Text.insertLines 0 b.lines [])).sections.keys :=
      ((describes_ofLines _).mem_sections name).mpr ⟨l, hindex ▸ hl, hname⟩
    have hnil : (read []).sections = [] := rfl
    rw [hsections, hnil] at hkeys
    cases hkeys
  · exact fun hheader content i hopen => agreesBut_insertLines h hheader hopen

def plainBlock : ArrayBlock where
  key := "args".toList
  elements := ["  \"-y\",".toList, "[1, [\"x\"]],".toList, "true".toList]

theorem wellFormed_plainBlock : plainBlock.WellFormed where
  isBare := rfl
  isElementLine := by
    have hone : IsElement ['1'] := .word (by decide) (List.all_eq_true.mp rfl)
    have harray : IsElement "[\"x\"]".toList := .array (.single (.string (t := ['x']) (by decide)))
    have hbody : IsBody "1, [\"x\"]".toList :=
      @IsBody.more [] ['1'] [] " [\"x\"]".toList rfl hone rfl (@IsBody.last [' '] _ [] rfl harray rfl)
    intro t ht
    simp only [plainBlock, List.mem_cons, List.not_mem_nil, or_false] at ht
    rcases ht with rfl | rfl | rfl
    · exact ⟨_, [','], .string (t := "-y".toList) (by decide), .inr ⟨[], rfl, rfl⟩, by decide⟩
    · exact ⟨_, [','], .array hbody, .inr ⟨[], rfl, rfl⟩, by decide⟩
    · exact ⟨"true".toList, [], .word (by decide) (List.all_eq_true.mp rfl), .inl rfl, by decide⟩
  isLine := by decide

theorem read_insertLines_plainBlock :
    plainBlock.WellFormed ∧ ∀ content i, OpenAfter ((Line.index content).take i) none →
      AgreesBut plainBlock.key i 5 (read content) (read (Text.insertLines i plainBlock.lines content)) := by
  have h := wellFormed_plainBlock
  refine ⟨h, (read_insertLines_iff h).mpr fun t ht hlooks => ?_⟩
  have hnone : ∀ t ∈ plainBlock.elements, (Header.name? (trim t)).isSome = false := by decide
  rw [← (h.isElementLine t ht).isSome_name?_iff, hnone t ht] at hlooks
  cases hlooks

def nestedBlock : ArrayBlock where
  key := "k".toList
  elements := ["[\"x\"]".toList]

/-- The element goes for the header of a section, to which the next key is added. -/
theorem not_agreesBut_nestedBlock :
    nestedBlock.WellFormed ∧
      OpenAfter ((Line.index "a = 1\nb = 2".toList).take 1) none ∧
      ¬ AgreesBut nestedBlock.key 1 3 (read "a = 1\nb = 2".toList)
        (read (Text.insertLines 1 nestedBlock.lines "a = 1\nb = 2".toList)) := by
  refine ⟨⟨rfl, ?_, by decide⟩, ?_, by decide +kernel⟩
  · intro t ht
    rw [nestedBlock, List.mem_singleton] at ht
    subst ht
    refine ⟨_, [], .array (.single (.string (t := ['x']) ?_)), .inl rfl, ?_⟩
    · decide
    · decide
  · intro l hl name hname
    have hindex : (Line.index "a = 1\nb = 2".toList).take 1 = [⟨1, "a = 1".toList⟩] := by
      decide +kernel
    have hentry : Entry.ofText "a = 1".toList = .assignment ['a'] ['1'] := by decide +kernel
    rw [hindex] at hl
    rw [List.mem_singleton.mp hl, ← ofText_eq_header_iff, hentry] at hname
    cases hname

end Config

end Onboarding
