import Onboarding.Proofs.Config.Paths
import Onboarding.Proofs.Document.Lines

namespace Onboarding.Config

open Source

namespace Source

theorem not_mem_quoted {t : Text} (h : '\n' ∉ t) : '\n' ∉ quoted t := by
  simp only [quoted, between, List.mem_cons, List.mem_append, List.not_mem_nil, or_false, not_or]
  split <;> exact ⟨by decide, h, by decide⟩

theorem not_mem_keyText {t : Text} (h : '\n' ∉ t) : '\n' ∉ keyText t := by
  unfold keyText
  split
  · exact h
  · simp only [between, List.mem_cons, List.mem_append, List.not_mem_nil, or_false, not_or]
    exact ⟨by decide, h, by decide⟩

theorem not_mem_segmentText {t : Text} (h : '\n' ∉ t) : '\n' ∉ segmentText t := by
  unfold segmentText
  split
  · exact h
  · exact not_mem_quoted h

theorem not_mem_entryLine {e : Text × Text} (hk : '\n' ∉ e.1) (hv : '\n' ∉ e.2) :
    '\n' ∉ entryLine e := by
  rw [entryLine, List.mem_append, List.mem_append, not_or, not_or]
  exact ⟨⟨not_mem_keyText hk, by decide⟩, not_mem_quoted hv⟩

theorem not_mem_headerLine {names : List Text} (h : ∀ name ∈ names, '\n' ∉ name) :
    '\n' ∉ headerLine names := by
  have hjoin : '\n' ∉ Text.join ['.'] (names.map segmentText) := by
    cases names with
    | nil => exact List.not_mem_nil
    | cons name names =>
        rw [List.forall_mem_cons] at h
        rw [join_segmentText, List.mem_append, not_or]
        refine ⟨not_mem_segmentText h.1, fun hm => ?_⟩
        obtain ⟨n, hn, hm⟩ := List.mem_flatMap.mp hm
        rcases List.mem_cons.mp hm with hdot | hm
        · exact absurd hdot (by decide)
        · exact not_mem_segmentText (h.2 n hn) hm
  simp only [headerLine, List.mem_cons, List.mem_append, List.not_mem_nil, or_false, not_or]
  exact ⟨by decide, hjoin, by decide⟩

theorem entryLine_eq_concat (e : Text × Text) (hv : IsQuotable e.2) :
    ∃ t c, entryLine e = t ++ [c] ∧ c ≠ '\r' := by
  obtain ⟨q, hq, -, he⟩ := quoted_eq hv.2
  refine ⟨keyText e.1 ++ " = ".toList ++ q :: e.2, q, by rw [entryLine, he]; simp, ?_⟩
  rintro rfl
  cases hq

theorem headerLine_eq_concat (names : List Text) :
    ∃ t c, headerLine names = t ++ [c] ∧ c ≠ '\r' :=
  ⟨'[' :: Text.join ['.'] (names.map segmentText), ']', rfl, by decide⟩

def IsLine (t : Text) : Prop := '\n' ∉ t ∧ ∃ u c, t = u ++ [c] ∧ c ≠ '\r'

theorem AreEntries.isLine {es : List (Text × Text)} (h : AreEntries es) :
    ∀ t ∈ es.map entryLine, IsLine t := by
  intro t ht
  obtain ⟨e, he, rfl⟩ := List.mem_map.mp ht
  exact ⟨not_mem_entryLine (h.isKey e he).1 (h.isQuotable e he).1,
    entryLine_eq_concat e (h.isQuotable e he)⟩

theorem WellFormed.isLine {d : Source} (h : d.WellFormed) : ∀ t ∈ d.lines, IsLine t := by
  intro t ht
  rcases List.mem_append.mp ht with ht | ht
  · exact h.topLevel.isLine t ht
  · obtain ⟨s, hs, ht⟩ := List.mem_flatMap.mp ht
    rcases List.mem_cons.mp ht with rfl | ht
    · exact ⟨not_mem_headerLine fun name hn => (h.names s hs name hn).1, headerLine_eq_concat s.1⟩
    · exact (h.entries s hs).isLine t ht

theorem map_dropEnd_of_isLine {ts : List Text} (h : ∀ t ∈ ts, IsLine t) :
    ts.map (Text.dropEnd '\r') = ts := by
  have hid : ∀ t ∈ ts, Text.dropEnd '\r' t = id t := by
    intro t ht
    obtain ⟨-, u, c, rfl, hc⟩ := h t ht
    exact Text.dropEnd_concat_of_ne hc u
  rw [List.map_congr_left hid, List.map_id]

theorem index_join {ts : List Text} (h : ∀ t ∈ ts, IsLine t) (hne : ts ≠ []) :
    Line.index (Text.join ['\n'] ts) = Line.numberFrom 1 ts := by
  rw [Line.index_join (fun t ht => (h t ht).1) hne, map_dropEnd_of_isLine h]

end Source

theorem Reader.next_entryLine {es : List (Text × Text)} (h : AreEntries es) {e : Text × Text}
    (he : e ∈ es) (n : Nat) (r : Reader) :
    r.next ⟨n, entryLine e⟩ =
      match r.current with
      | none => { r with config := r.config.assignTop n e.1 e.2 }
      | some name => { r with config := r.config.assignIn name e.1 e.2 } := by
  have hentry := ofText_entryLine (h.isKey e he).2 (h.isQuotable e he).2
  cases hc : r.current with
  | none => simp only [Reader.next, hentry, hc]
  | some name => simp only [Reader.next, hentry, hc]

theorem Source.AreEntries.tail {e : Text × Text} {es : List (Text × Text)} (h : AreEntries (e :: es)) :
    AreEntries es :=
  ⟨(List.nodup_cons.mp h.nodup).2, fun f hf => h.isKey f (List.mem_cons_of_mem e hf),
    fun f hf => h.isQuotable f (List.mem_cons_of_mem e hf)⟩

theorem foldl_next_topLevel {es : List (Text × Text)} (h : AreEntries es) (n : Nat)
    (t : Table Text Text) (ks : Table Text Nat) (hks : ks.keys = t.keys)
    (hnew : ∀ k ∈ es.map (·.1), k ∉ t.keys) :
    (Line.numberFrom n (es.map entryLine)).foldl Reader.next ⟨⟨t, ks, []⟩, none⟩ =
      ⟨⟨t ++ es, ks ++ (es.map (·.1)).zipIdx n, []⟩, none⟩ := by
  induction es generalizing n t ks with
  | nil => simp [Line.numberFrom]
  | cons e es ih =>
      obtain ⟨k, v⟩ := e
      have hnodup := List.nodup_cons.mp h.nodup
      rw [List.map_cons, List.forall_mem_cons] at hnew
      have hstep : Reader.next ⟨⟨t, ks, []⟩, none⟩ ⟨n, entryLine (k, v)⟩ =
          ⟨⟨t ++ [(k, v)], ks ++ [(k, n)], []⟩, none⟩ := by
        rw [Reader.next_entryLine h List.mem_cons_self]
        simp only [assignTop, Table.insert_of_not_mem hnew.1,
          Table.insert_of_not_mem (hks ▸ hnew.1)]
      have hkeys : Table.keys (ks ++ [(k, n)]) = Table.keys (t ++ [(k, v)]) := by
        simp only [Table.keys, List.map_append, List.map_cons, List.map_nil]
        exact congrArg (· ++ [k]) hks
      rw [List.map_cons, Line.numberFrom, List.foldl_cons, hstep,
        ih h.tail (n + 1) _ _ hkeys (Table.not_mem_keys_concat hnodup.1 hnew.2 v)]
      simp

theorem foldl_next_entries {es : List (Text × Text)} (h : AreEntries es) (n : Nat)
    (t : Table Text Text) (ks : Table Text Nat) (ss : Table Text (Table Text Text)) (name : Text)
    (hname : name ∉ ss.keys) (done : Table Text Text)
    (hnew : ∀ k ∈ es.map (·.1), k ∉ done.keys) :
    (Line.numberFrom n (es.map entryLine)).foldl Reader.next
        ⟨⟨t, ks, ss ++ [(name, done)]⟩, some name⟩ =
      ⟨⟨t, ks, ss ++ [(name, done ++ es)]⟩, some name⟩ := by
  induction es generalizing n done with
  | nil => simp [Line.numberFrom]
  | cons e es ih =>
      obtain ⟨k, v⟩ := e
      have hnodup := List.nodup_cons.mp h.nodup
      rw [List.map_cons, List.forall_mem_cons] at hnew
      have hstep : Reader.next ⟨⟨t, ks, ss ++ [(name, done)]⟩, some name⟩ ⟨n, entryLine (k, v)⟩ =
          ⟨⟨t, ks, ss ++ [(name, done ++ [(k, v)])]⟩, some name⟩ := by
        rw [Reader.next_entryLine h List.mem_cons_self]
        simp only [assignIn, Table.get?_concat hname, Option.getD_some, Table.insert_concat hname,
          Table.insert_of_not_mem hnew.1]
      rw [List.map_cons, Line.numberFrom, List.foldl_cons, hstep,
        ih h.tail (n + 1) _ (Table.not_mem_keys_concat hnodup.1 hnew.2 v)]
      simp

theorem Reader.next_headerLine {names : List Text} (hne : names ≠ [])
    (h : ∀ name ∈ names, IsQuotable name) (n : Nat) (r : Reader) :
    r.next ⟨n, headerLine names⟩ =
      ⟨r.config.openSection (Segment.dotted names), some (Segment.dotted names)⟩ := by
  rw [Reader.next, ofText_headerLine hne fun name hn => (h name hn).2]

theorem foldl_next_sections {sections : List (List Text × List (Text × Text))} (n : Nat)
    (hne : ∀ s ∈ sections, s.1 ≠ []) (hnames : ∀ s ∈ sections, ∀ name ∈ s.1, IsQuotable name)
    (hes : ∀ s ∈ sections, AreEntries s.2)
    (hnodup : (sections.map fun s => Segment.dotted s.1).Nodup) (t : Table Text Text)
    (ks : Table Text Nat) (ss : Table Text (Table Text Text)) (current : Option Text)
    (hnew : ∀ name ∈ sections.map fun s => Segment.dotted s.1, name ∉ ss.keys) :
    ((Line.numberFrom n (sections.flatMap sectionLines)).foldl Reader.next
        ⟨⟨t, ks, ss⟩, current⟩).config =
      ⟨t, ks, ss ++ sections.map fun s => (Segment.dotted s.1, s.2)⟩ := by
  induction sections generalizing n ss current with
  | nil => simp [Line.numberFrom]
  | cons s sections ih =>
      obtain ⟨names, es⟩ := s
      rw [List.forall_mem_cons] at hne hnames hes
      rw [List.map_cons, List.nodup_cons] at hnodup
      rw [List.map_cons, List.forall_mem_cons] at hnew
      have hopen : Reader.next ⟨⟨t, ks, ss⟩, current⟩ ⟨n, headerLine names⟩ =
          ⟨⟨t, ks, ss ++ [(Segment.dotted names, [])]⟩, some (Segment.dotted names)⟩ := by
        have hhas : ss.has (Segment.dotted names) = false := by
          rw [Table.has, ← Bool.not_eq_true, ← Table.mem_keys_iff]
          exact hnew.1
        rw [Reader.next_headerLine hne.1 hnames.1]
        simp only [openSection, hhas, Table.insert_of_not_mem hnew.1]
        rfl
      rw [List.flatMap_cons, sectionLines, List.cons_append, Line.numberFrom, List.foldl_cons,
        hopen, Line.numberFrom_append, List.foldl_append,
        foldl_next_entries hes.1 (n + 1) t ks ss _ hnew.1 [] fun _ _ => List.not_mem_nil,
        List.nil_append]
      rw [ih _ hne.2 hnames.2 hes.2 hnodup.2 _ _
        (Table.not_mem_keys_concat hnodup.1 hnew.2 es), List.map_cons, List.append_assoc]
      rfl

theorem ofLines_lines {d : Source} (h : d.WellFormed) (n : Nat) :
    ofLines (Line.numberFrom n d.lines) =
      ⟨d.topLevel, (d.topLevel.map (·.1)).zipIdx n,
        d.sections.map fun s => (Segment.dotted s.1, s.2)⟩ := by
  rw [ofLines, lines, Line.numberFrom_append, List.foldl_append,
    foldl_next_topLevel h.topLevel n [] [] rfl fun _ _ => List.not_mem_nil,
    foldl_next_sections _ h.ne_nil h.names h.entries h.nodup _ _ [] none fun _ _ =>
      List.not_mem_nil]
  rfl

/-- What is written is read: the entries at the top with the numbers of their lines, and every section,
whether it has entries or not, under its dotted name. -/
theorem read_render {d : Source} (h : d.WellFormed) : read d.render = d.config := by
  by_cases hne : d.lines = []
  · have hlines := ofLines_lines h 1
    rw [hne] at hlines
    rw [read, render, hne]
    exact hlines
  · rw [read, render, index_join h.isLine hne, ofLines_lines h 1, config]

/-- Texts that look like comments, headers and assignments when they are not quoted. -/
def awkward : Source where
  topLevel := [("# a".toList, "[b] = \"c\" # d".toList), ([], "'e' = 1\r".toList)]
  sections :=
    [(["mcp".toList, "a].b".toList], [("x=y".toList, []), ("[k]".toList, "#".toList)]),
      ([" say \"hi\" #".toList], [])]

theorem read_render_awkward :
    awkward.WellFormed ∧ read awkward.render = awkward.config := by
  have h : awkward.WellFormed := by decide
  exact ⟨h, read_render h⟩

end Onboarding.Config
