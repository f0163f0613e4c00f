import Onboarding.Proofs.Config.Reading
import Onboarding.Proofs.Document.Lines

namespace Onboarding

theorem Line.index_join_cons (content : Text) (blocks : List Text) :
    index (Text.join ['\n'] (content :: blocks)) = index content ++
      numberFrom (1 + (Text.splitOn '\n' content).length)
        (blocks.flatMap fun b => (Text.splitOn '\n' b).map (Text.dropEnd '\r')) := by
  rw [index, Text.splitOn_join_cons, List.map_append, List.map_flatMap, numberFrom_append,
    List.length_map, index]

namespace Config

def Entry.name? : Entry → Option Text
  | .header name => some name
  | .assignment .. | .other => none

def names (content : Text) : List Text :=
  (Line.index content).filterMap fun l => (Entry.ofText l.text).name?

/-- The first line is a header. -/
def BeginsTable (content : Text) : Prop :=
  ∃ l name, (Line.index content).head? = some l ∧ Opens l name

theorem name?_ofText_eq_some_iff {l : Line} {name : Text} :
    (Entry.ofText l.text).name? = some name ↔ Opens l name := by
  rw [← ofText_eq_header_iff]
  cases Entry.ofText l.text <;> simp [Entry.name?]

instance (content : Text) : Decidable (BeginsTable content) :=
  decidable_of_iff ((Line.index content).head?.bind fun l => (Entry.ofText l.text).name?).isSome (by
    rw [Option.isSome_iff_exists]
    simp only [Option.bind_eq_some_iff, name?_ofText_eq_some_iff, BeginsTable]
    exact exists_comm)

theorem mem_names {content name : Text} :
    name ∈ names content ↔ ∃ l ∈ Line.index content, Opens l name := by
  simp only [names, List.mem_filterMap, name?_ofText_eq_some_iff]

theorem names_eq (content : Text) : names content =
    (Text.splitOn '\n' content).filterMap fun t => (Entry.ofText (Text.dropEnd '\r' t)).name? := by
  rw [names, ← Function.comp_def (fun t => (Entry.ofText t).name?) Line.text, ← List.filterMap_map,
    Line.index, Line.map_text_numberFrom, List.filterMap_map]
  rfl

theorem names_join (content : Text) (blocks : List Text) :
    names (Text.join ['\n'] (content :: blocks)) = names content ++ blocks.flatMap names := by
  rw [names_eq, names_eq, Text.splitOn_join_cons, List.filterMap_append, List.filterMap_flatMap,
    funext names_eq]

theorem hasSectionUnder_read (start content : Text) :
    (read content).hasSectionUnder start = (names content).any start.isPrefixOf := by
  have hd : (read content).Describes (Line.index content) := describes_ofLines _
  rw [hasSectionUnder, Bool.eq_iff_iff, List.any_eq_true, List.any_eq_true]
  simp only [hd.mem_sections, mem_names]

/-- A section is open, and nothing that is read reaches the top level of `c`. -/
structure Reader.IsInside (c : Config) (r : Reader) : Prop where
  isSome_current : r.current.isSome
  topLevel : r.config.topLevel = c.topLevel
  keyLines : r.config.keyLines = c.keyLines

namespace Reader

variable {c : Config} {r : Reader} {l : Line}

theorem isInside_next_of_opens {name : Text} (h : Opens l name) : (r.next l).IsInside r.config := by
  rw [next, ofText_eq_header_iff.mpr h]
  exact ⟨rfl, topLevel_openSection name r.config, keyLines_openSection name r.config⟩

theorem IsInside.next (h : r.IsInside c) (l : Line) : (r.next l).IsInside c := by
  cases he : Entry.ofText l.text with
  | header name =>
      have hopen := isInside_next_of_opens (r := r) (ofText_eq_header_iff.mp he)
      exact ⟨hopen.isSome_current, hopen.topLevel.trans h.topLevel, hopen.keyLines.trans h.keyLines⟩
  | assignment key value =>
      obtain ⟨name, hname⟩ := Option.isSome_iff_exists.mp h.isSome_current
      simp only [Reader.next, he, hname]
      exact ⟨rfl, h.topLevel, h.keyLines⟩
  | other =>
      simp only [Reader.next, he]
      exact h

theorem IsInside.foldl (h : r.IsInside c) (ls : List Line) : (ls.foldl Reader.next r).IsInside c := by
  induction ls generalizing r with
  | nil => exact h
  | cons l ls ih => exact ih (h.next l)

end Reader

theorem read_join_tables {content : Text} {blocks : List Text} (h : ∀ b ∈ blocks, BeginsTable b) :
    (read (Text.join ['\n'] (content :: blocks))).topLevel = (read content).topLevel ∧
      (read (Text.join ['\n'] (content :: blocks))).keyLines = (read content).keyLines := by
  rw [read, Line.index_join_cons, ofLines, List.foldl_append]
  cases blocks with
  | nil => exact ⟨rfl, rfl⟩
  | cons b blocks =>
      obtain ⟨l, name, hl, hopens⟩ := h b List.mem_cons_self
      cases ht : (Text.splitOn '\n' b).map (Text.dropEnd '\r') with
      | nil =>
          rw [Line.index, ht] at hl
          cases hl
      | cons t ts =>
          rw [Line.index, ht] at hl
          obtain rfl := Option.some.inj hl
          rw [List.flatMap_cons, ht, List.cons_append, Line.numberFrom, List.foldl_cons]
          -- the number of a line has no part in whether it is a header
          have hopens' : Opens ⟨1 + (Text.splitOn '\n' content).length, t⟩ name := hopens
          have hinside := (Reader.isInside_next_of_opens
            (r := (Line.index content).foldl Reader.next {}) hopens').foldl
          exact ⟨(hinside _).topLevel, (hinside _).keyLines⟩

end Config

end Onboarding
