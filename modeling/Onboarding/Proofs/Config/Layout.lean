import Onboarding.Proofs.Config.Arrays
import Onboarding.Proofs.Config.Comments
import Onboarding.Proofs.Document.Numbers

namespace Onboarding.Config

open Text (IsRemark allBlank trim)

section Statements

variable {σ : Nat → Nat} {ls ms : List Line} {ts us : List Text}

def Entry.isSaid (t : Text) : Bool := ofText t ≠ .other

/-- The lines that say something, each by its number and what it says. -/
def statements (ls : List Line) : List (Nat × Entry) :=
  (ls.filter (Entry.isSaid ·.text)).map fun l => (l.number, Entry.ofText l.text)

def Reader.accept (r : Reader) (n : Nat) : Entry → Reader
  | .header name => ⟨r.config.openSection name, some name⟩
  | .assignment key value =>
    match r.current with
    | none => { r with config := r.config.assignTop n key value }
    | some name => { r with config := r.config.assignIn name key value }
  | .other => r

theorem Reader.next_eq_accept (r : Reader) (l : Line) :
    r.next l = r.accept l.number (Entry.ofText l.text) := by
  rw [next]
  cases Entry.ofText l.text <;> rfl

theorem statements_cons (l : Line) (ls : List Line) : statements (l :: ls) =
    if Entry.ofText l.text = .other then statements ls
    else (l.number, Entry.ofText l.text) :: statements ls := by
  by_cases h : Entry.ofText l.text = .other <;> simp [statements, Entry.isSaid, h]

theorem Reader.foldl_next_eq (r : Reader) (ls : List Line) :
    ls.foldl next r = (statements ls).foldl (fun r e => r.accept e.1 e.2) r := by
  induction ls generalizing r with
  | nil => rfl
  | cons l ls ih =>
      rw [List.foldl_cons, ih, next_eq_accept, statements_cons]
      split
      · next h => rw [h, accept]
      · rw [List.foldl_cons]

def renumber (σ : Nat → Nat) (c : Config) : Config :=
  { c with keyLines := c.keyLines.mapValues σ }

def Reader.renumber (σ : Nat → Nat) (r : Reader) : Reader := { r with config := r.config.renumber σ }

theorem renumber_openSection (name : Text) (c : Config) :
    (c.renumber σ).openSection name = (c.openSection name).renumber σ := by
  by_cases h : c.sections.has name <;> simp [openSection, renumber, h]

theorem renumber_assignTop (n : Nat) (key value : Text) (c : Config) :
    (c.renumber σ).assignTop (σ n) key value = (c.assignTop n key value).renumber σ := by
  rw [assignTop, assignTop, renumber, renumber, Table.mapValues_insert]

theorem Reader.renumber_accept (r : Reader) (n : Nat) (e : Entry) :
    (r.renumber σ).accept (σ n) e = (r.accept n e).renumber σ := by
  cases e with
  | header name =>
      simp only [accept, renumber, renumber_openSection]
  | assignment key value =>
      cases hc : r.current with
      | none => simp only [accept, renumber, hc, renumber_assignTop]
      | some name =>
          simp only [accept, renumber, hc]
          rfl
  | other => rfl

/-- What is read comes from the statements alone, and their numbers are seen in the lines of the keys only. -/
theorem ofLines_eq_renumber (h : statements ms = (statements ls).map fun e => (σ e.1, e.2)) :
    ofLines ms = (ofLines ls).renumber σ := by
  have hfold : (statements ms).foldl (fun r e => Reader.accept r e.1 e.2) (Reader.renumber σ {}) =
      Reader.renumber σ ((statements ls).foldl (fun r e => Reader.accept r e.1 e.2) {}) := by
    rw [h, List.foldl_map]
    exact List.foldl_hom (Reader.renumber σ) fun r e => Reader.renumber_accept r e.1 e.2
  rw [ofLines, ofLines, Reader.foldl_next_eq, Reader.foldl_next_eq]
  exact congrArg Reader.config hfold

theorem statements_congr {n : Nat} (h : ts.map Entry.ofText = us.map Entry.ofText) :
    statements (Line.numberFrom n ts) = statements (Line.numberFrom n us) := by
  induction ts generalizing us n with
  | nil =>
      rw [List.map_eq_nil_iff.mp h.symm]
  | cons t ts ih =>
      cases us with
      | nil => cases h
      | cons u us =>
          obtain ⟨ht, hts⟩ := List.cons.inj h
          rw [Line.numberFrom, Line.numberFrom, statements_cons, statements_cons, ih hts, ht]

theorem read_eq_renumber {a b : Text}
    (h : statements (Line.numberFrom 1 (Text.splitOn '\n' b)) =
      (statements (Line.numberFrom 1 (Text.splitOn '\n' a))).map fun e => (σ e.1, e.2)) :
    read b = (read a).renumber σ := by
  have hindex (content : Text) : statements (Line.index content) =
      statements (Line.numberFrom 1 (Text.splitOn '\n' content)) := by
    refine statements_congr ?_
    rw [List.map_map]
    exact List.map_congr_left fun t _ => Entry.ofText_dropEnd t
  refine ofLines_eq_renumber ?_
  rw [hindex, hindex, h]

theorem statements_insert (before : List Text) {new : List Text}
    (hnew : ∀ t ∈ new, Entry.ofText t = .other) (after : List Text) :
    statements (Line.numberFrom 1 (before ++ (new ++ after))) =
      (statements (Line.numberFrom 1 (before ++ after))).map fun e =>
        (shift before.length new.length e.1, e.2) := by
  have hsaid : ∀ t ∈ new, Entry.isSaid t = false := by
    intro t ht
    simp [Entry.isSaid, hnew t ht]
  rw [statements, Line.filter_text_insert before hsaid (fun m hm => if_pos hm)
    (fun m hm => if_neg (Nat.not_le_of_lt hm)) after, statements, List.map_map, List.map_map]
  rfl

end Statements

/-- A line that says nothing: it is blank, a comment, neither a header nor an assignment, or it assigns nothing. -/
inductive IsInert (t : Text) : Prop
  | blank (h : allBlank t = true)
  | comment (h : (trim t).head? = some '#')
  | unrecognised (hheader : Header.name? (trim t) = none) (h : Assignment.ofText? (trim t) = none)
  | valueless {a : Assignment} (h : Assignment.ofText? (trim t) = some a) (ha : allBlank a.right = true)

theorem IsInert.ofText_eq {t : Text} (h : IsInert t) : Entry.ofText t = .other := by
  cases h with
  | blank h =>
      have htrim : trim t = [] := by rw [trim, Text.trimLeft_eq_nil_iff.mpr h, Text.trimRight_nil]
      simp [Entry.ofText, htrim, isComment]
  | comment h => simp [Entry.ofText, isComment, h]
  | unrecognised hheader h => simp [Entry.ofText, hheader, h]
  | @valueless a h ha =>
      have hvalue : a.value? = none := by
        rw [Assignment.value?, trim, Text.trimLeft_eq_nil_iff.mpr ha, Text.trimRight_nil]
      rw [Entry.ofText_of_assignment h, hvalue]

def unshift (i m : Nat) : Nat := if m ≤ i then m else m - 1

theorem unshift_shift (i m : Nat) : unshift i (shift i 1 m) = m := by
  by_cases h : m ≤ i
  · rw [shift, if_pos h, unshift, if_pos h]
  · rw [shift, if_neg h, unshift, if_neg (by omega), Nat.add_sub_cancel]

/-- One change to the layout of lines, with what becomes of their numbers. -/
inductive Edit : List Text → (Nat → Nat) → List Text → Prop
  | insert (before after : List Text) {t : Text} (h : IsInert t) :
      Edit (before ++ after) (shift before.length 1) (before ++ t :: after)
  | delete (before after : List Text) {t : Text} (h : IsInert t) :
      Edit (before ++ t :: after) (unshift before.length) (before ++ after)
  | pad (before after : List Text) (front t back : Text) (hfront : allBlank front = true)
      (hback : allBlank back = true) :
      Edit (before ++ t :: after) id (before ++ (front ++ (t ++ back)) :: after)
  | remark (before after : List Text) {t : Text} (remark : Text) (h : TakesRemark t) (hr : IsRemark remark) :
      Edit (before ++ t :: after) id (before ++ (t ++ remark) :: after)

/-- Any number of changes, one after the other. -/
inductive Relaid : List Text → (Nat → Nat) → List Text → Prop
  | refl (ts : List Text) : Relaid ts id ts
  | next {ts us vs : List Text} {σ τ : Nat → Nat} (h : Relaid ts σ us) (he : Edit us τ vs) :
      Relaid ts (τ ∘ σ) vs

variable {ts us : List Text} {σ : Nat → Nat}

theorem statements_replace {t u : Text} (h : Entry.ofText u = Entry.ofText t) (before after : List Text) :
    statements (Line.numberFrom 1 (before ++ u :: after)) =
      (statements (Line.numberFrom 1 (before ++ t :: after))).map fun e => (id e.1, e.2) := by
  have hmap : (before ++ u :: after).map Entry.ofText = (before ++ t :: after).map Entry.ofText := by
    rw [List.map_append, List.map_append, List.map_cons, List.map_cons, h]
  rw [statements_congr hmap]
  exact (List.map_id _).symm

/-- A change to the layout leaves the statements as they are, but for their numbers. -/
theorem Edit.statements_eq (h : Edit ts σ us) : statements (Line.numberFrom 1 us) =
    (statements (Line.numberFrom 1 ts)).map fun e => (σ e.1, e.2) := by
  cases h with
  | @insert before after t h =>
      have hnew : ∀ u ∈ [t], Entry.ofText u = .other := List.forall_mem_singleton.mpr h.ofText_eq
      exact statements_insert before hnew after
  | @delete before after t h =>
      have hnew : ∀ u ∈ [t], Entry.ofText u = .other := List.forall_mem_singleton.mpr h.ofText_eq
      have hinsert := statements_insert before hnew after
      rw [List.singleton_append] at hinsert
      rw [hinsert, List.map_map]
      refine (List.map_id _).symm.trans (List.map_congr_left fun e _ => ?_)
      exact Prod.ext (unshift_shift before.length e.1).symm rfl
  | pad before after front t back hfront hback =>
      refine statements_replace ?_ before after
      rw [Entry.ofText, Entry.ofText, Text.trim_around hfront hback]
  | remark before after remark h hr =>
      exact statements_replace (Entry.ofText_append_remark h hr) before after

theorem Relaid.statements_eq (h : Relaid ts σ us) : statements (Line.numberFrom 1 us) =
    (statements (Line.numberFrom 1 ts)).map fun e => (σ e.1, e.2) := by
  induction h with
  | refl => exact (List.map_id _).symm
  | next h he ih =>
      rw [he.statements_eq, ih, List.map_map]
      rfl

/-- However the lines of a configuration are laid out anew, the same is read from them, and the lines of the keys
move with the lines. -/
theorem read_relaid {a b : Text} (h : Relaid (Text.splitOn '\n' a) σ (Text.splitOn '\n' b)) :
    (read b).topLevel = (read a).topLevel ∧ (read b).sections = (read a).sections ∧
      (read b).keyLines = (read a).keyLines.mapValues σ := by
  rw [read_eq_renumber h.statements_eq]
  exact ⟨rfl, rfl, rfl⟩

def plainLayout : Text := "a = 1\n???\n[t]\nb = 'x'".toList

def looseLayout : Text := "# head\n \ta = 1 # one\n[t] #]\nb = 'x' # \"y\"".toList

/-- A line is taken out, a comment put in, a line moved to the right, and comments put behind all of them. -/
theorem read_relaid_looseLayout :
    Relaid (Text.splitOn '\n' plainLayout) (shift 0 1 ∘ unshift 1) (Text.splitOn '\n' looseLayout) ∧
      (read plainLayout).keyLines = [(['a'], 1)] ∧
      (read looseLayout).topLevel = [(['a'], ['1'])] ∧
      (read looseLayout).sections = [(['t'], [(['b'], ['x'])])] ∧
      (read looseLayout).keyLines = [(['a'], 2)] := by
  have hdelete : Edit (Text.splitOn '\n' plainLayout) (unshift 1)
      ["a = 1".toList, "[t]".toList, "b = 'x'".toList] :=
    .delete ["a = 1".toList] _ (.unrecognised (by decide) (by decide))
  have hinsert : Edit ["a = 1".toList, "[t]".toList, "b = 'x'".toList] (shift 0 1)
      ["# head".toList, "a = 1".toList, "[t]".toList, "b = 'x'".toList] :=
    .insert [] _ (.comment (by decide))
  have hpad : Edit ["# head".toList, "a = 1".toList, "[t]".toList, "b = 'x'".toList] id
      ["# head".toList, " \ta = 1".toList, "[t]".toList, "b = 'x'".toList] :=
    .pad ["# head".toList] _ " \t".toList "a = 1".toList [] (by decide) (by decide)
  have hone : Assignment.ofText? (trim " \ta = 1".toList) = some ⟨['a'], " 1".toList⟩ := by decide
  have hbare : Edit ["# head".toList, " \ta = 1".toList, "[t]".toList, "b = 'x'".toList] id
      ["# head".toList, " \ta = 1 # one".toList, "[t]".toList, "b = 'x'".toList] :=
    .remark ["# head".toList] _ " # one".toList
      (.assignment hone (.bare (by decide) (by decide) rfl)) ⟨[' '], " one".toList, rfl, rfl⟩
  have ht : Header.name? (trim "[t]".toList) = some ['t'] := by decide +kernel
  have hheader : Edit ["# head".toList, " \ta = 1 # one".toList, "[t]".toList, "b = 'x'".toList] id
      ["# head".toList, " \ta = 1 # one".toList, "[t] #]".toList, "b = 'x'".toList] :=
    .remark ["# head".toList, " \ta = 1 # one".toList] _ " #]".toList (.header ht)
      ⟨[' '], [']'], rfl, rfl⟩
  have hb : Assignment.ofText? (trim "b = 'x'".toList) = some ⟨['b'], " 'x'".toList⟩ := by decide
  have hclosed : Assignment.IsClosed ⟨['b'], " 'x'".toList⟩ :=
    @Assignment.IsClosed.quoted _ '\'' ['x'] [] rfl rfl
  have hquoted : Edit ["# head".toList, " \ta = 1 # one".toList, "[t] #]".toList, "b = 'x'".toList] id
      (Text.splitOn '\n' looseLayout) :=
    .remark ["# head".toList, " \ta = 1 # one".toList, "[t] #]".toList] [] " # \"y\"".toList
      (.assignment hb hclosed) ⟨[' '], " \"y\"".toList, rfl, rfl⟩
  have hrelaid := ((((((Relaid.refl _).next hdelete).next hinsert).next hpad).next hbare).next
    hheader).next hquoted
  obtain ⟨htop, hsections, hlines⟩ := read_relaid hrelaid
  refine ⟨hrelaid, by decide +kernel, ?_, ?_, ?_⟩
  · rw [htop]
    decide +kernel
  · rw [hsections]
    decide +kernel
  · rw [hlines]
    decide +kernel

end Onboarding.Config
