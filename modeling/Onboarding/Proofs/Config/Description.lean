import Onboarding.Config.Basic

namespace Onboarding.Config

/-- The line is a header of that name; blank lines and comments are none. -/
def Opens (l : Line) (name : Text) : Prop :=
  isComment (Text.trim l.text) = false ∧ Header.name? (Text.trim l.text) = some name

/-- The line assigns a value to the key; a header, a blank line and a comment assign none. -/
def Assigns (l : Line) (key value : Text) : Prop :=
  isComment (Text.trim l.text) = false ∧ Header.name? (Text.trim l.text) = none ∧
    ∃ a, Assignment.ofText? (Text.trim l.text) = some a ∧ a.key = key ∧ a.value? = some value

/-- The name of the header that comes last in the lines, or none. -/
def OpenAfter (ls : List Line) : Option Text → Prop
  | none => ∀ l ∈ ls, ∀ name, ¬ Opens l name
  | some name =>
    ∃ before l after, ls = before ++ l :: after ∧ Opens l name ∧
      ∀ m ∈ after, ∀ other, ¬ Opens m other

/-- Some line, with that header as the nearest one before it, assigns the value to the key. -/
def Assigned (ls : List Line) (header : Option Text) (key value : Text) : Prop :=
  ∃ before l after, ls = before ++ l :: after ∧ OpenAfter before header ∧ Assigns l key value

/-- The line of that number assigns the value to the key under that header, and no line behind it
assigns anything to the key under the same header. -/
def LastAssigned (ls : List Line) (header : Option Text) (key value : Text) (n : Nat) : Prop :=
  ∃ before l after, ls = before ++ l :: after ∧ OpenAfter before header ∧ Assigns l key value ∧
    l.number = n ∧
    ∀ between m rest, after = between ++ m :: rest → OpenAfter (before ++ l :: between) header →
      ∀ other, ¬ Assigns m key other

def lookup? (c : Config) (name key : Text) : Option Text :=
  (c.sections.get? name).bind (Table.get? key)

structure Describes (c : Config) (ls : List Line) : Prop where
  keyLines_keys : c.keyLines.keys = c.topLevel.keys
  mem_topLevel : ∀ key, key ∈ c.topLevel.keys ↔ ∃ value, Assigned ls none key value
  topLevel_get? : ∀ key value n,
    c.topLevel.get? key = some value ∧ c.keyLines.get? key = some n ↔
      LastAssigned ls none key value n
  mem_sections : ∀ name, name ∈ c.sections.keys ↔ ∃ l ∈ ls, Opens l name
  isSome_lookup? : ∀ name key,
    (c.lookup? name key).isSome ↔ ∃ value, Assigned ls (some name) key value
  lookup?_eq_some : ∀ name key value,
    c.lookup? name key = some value ↔ ∃ n, LastAssigned ls (some name) key value n

variable {ls : List Line} {l : Line}

theorem ofText_eq_header_iff {name : Text} : Entry.ofText l.text = .header name ↔ Opens l name := by
  simp only [Entry.ofText, Opens]
  generalize Text.trim l.text = t
  cases isComment t with
  | true => simp
  | false =>
      cases Header.name? t with
      | some other => simp
      | none =>
          cases Assignment.ofText? t with
          | none => simp
          | some a => cases ha : a.value? <;> simp [ha]

theorem ofText_eq_assignment_iff {key value : Text} :
    Entry.ofText l.text = .assignment key value ↔ Assigns l key value := by
  simp only [Entry.ofText, Assigns]
  generalize Text.trim l.text = t
  cases isComment t with
  | true => simp
  | false =>
      cases Header.name? t with
      | some other => simp
      | none =>
          cases Assignment.ofText? t with
          | none => simp
          | some a => cases ha : a.value? <;> simp [ha]

theorem Opens.eq {name other : Text} (h : Opens l name) (h' : Opens l other) : name = other :=
  Option.some.inj (h.2.symm.trans h'.2)

namespace Describes

variable {c : Config} {key value : Text} {n : Nat}

theorem topLevel_eq_some_iff (h : c.Describes ls) :
    c.topLevel.get? key = some value ↔ ∃ n, LastAssigned ls none key value n := by
  constructor
  · intro hvalue
    have hkey : key ∈ c.keyLines.keys := by
      rw [h.keyLines_keys, Table.mem_keys_iff, hvalue]
      rfl
    obtain ⟨n, hn⟩ := Option.isSome_iff_exists.mp ((Table.mem_keys_iff _ _).mp hkey)
    exact ⟨n, (h.topLevel_get? key value n).mp ⟨hvalue, hn⟩⟩
  · rintro ⟨n, hlast⟩
    exact ((h.topLevel_get? key value n).mpr hlast).1

theorem keyLines_eq_some_iff (h : c.Describes ls) :
    c.keyLines.get? key = some n ↔ ∃ value, LastAssigned ls none key value n := by
  constructor
  · intro hn
    have hkey : key ∈ c.topLevel.keys := by
      rw [← h.keyLines_keys, Table.mem_keys_iff, hn]
      rfl
    obtain ⟨value, hvalue⟩ := Option.isSome_iff_exists.mp ((Table.mem_keys_iff _ _).mp hkey)
    exact ⟨value, (h.topLevel_get? key value n).mp ⟨hvalue, hn⟩⟩
  · rintro ⟨value, hlast⟩
    exact ((h.topLevel_get? key value n).mpr hlast).2

end Describes

theorem concat_eq_append_cons_iff {xs before after : List Line} {x y : Line} :
    xs ++ [x] = before ++ y :: after ↔
      after = [] ∧ xs = before ∧ x = y ∨ ∃ rest, after = rest ++ [x] ∧ xs = before ++ y :: rest := by
  rcases List.eq_nil_or_concat after with rfl | ⟨rest, z, rfl⟩
  · rw [List.append_singleton_inj]
    simp
  · rw [List.concat_eq_append, ← List.cons_append, ← List.append_assoc, List.append_singleton_inj]
    simp only [List.append_eq_nil_iff, List.cons_ne_self, and_false, false_and, false_or]
    constructor
    · rintro ⟨rfl, rfl⟩
      exact ⟨rest, rfl, rfl⟩
    · rintro ⟨rest', he, rfl⟩
      obtain ⟨rfl, rfl⟩ := List.append_singleton_inj.mp he
      exact ⟨rfl, rfl⟩

theorem openAfter_concat_iff {header : Option Text} :
    OpenAfter (ls ++ [l]) header ↔
      (∃ name, Opens l name ∧ header = some name) ∨
        (∀ name, ¬ Opens l name) ∧ OpenAfter ls header := by
  have hmem {ms : List Line} : (∀ m ∈ ms ++ [l], ∀ name, ¬ Opens m name) ↔
      (∀ name, ¬ Opens l name) ∧ ∀ m ∈ ms, ∀ name, ¬ Opens m name := by
    simp only [List.mem_append, List.mem_singleton, or_imp, forall_and, forall_eq]
    exact and_comm
  cases header with
  | none =>
      rw [OpenAfter, hmem]
      simp [OpenAfter]
  | some name =>
      constructor
      · rintro ⟨before, m, after, he, hm, hafter⟩
        rcases concat_eq_append_cons_iff.mp he with ⟨-, -, rfl⟩ | ⟨rest, rfl, hls⟩
        · exact .inl ⟨name, hm, rfl⟩
        · have h := hmem.mp hafter
          exact .inr ⟨h.1, before, m, rest, hls, hm, h.2⟩
      · rintro (⟨name', h, he⟩ | ⟨hl, before, m, after, rfl, hm, hafter⟩)
        · cases he
          exact ⟨ls, l, [], rfl, h, fun _ hm => absurd hm List.not_mem_nil⟩
        · exact ⟨before, m, after ++ [l], by simp, hm, hmem.mpr ⟨hl, hafter⟩⟩

theorem assigned_concat_iff {header : Option Text} {key value : Text} :
    Assigned (ls ++ [l]) header key value ↔
      Assigned ls header key value ∨ OpenAfter ls header ∧ Assigns l key value := by
  constructor
  · rintro ⟨before, m, after, he, ho, ha⟩
    rcases concat_eq_append_cons_iff.mp he with ⟨-, rfl, rfl⟩ | ⟨rest, -, hls⟩
    · exact .inr ⟨ho, ha⟩
    · exact .inl ⟨before, m, rest, hls, ho, ha⟩
  · rintro (⟨before, m, after, rfl, ho, ha⟩ | ⟨ho, ha⟩)
    · exact ⟨before, m, after ++ [l], by simp, ho, ha⟩
    · exact ⟨ls, l, [], rfl, ho, ha⟩

theorem lastAssigned_concat_iff {header : Option Text} {key value : Text} {n : Nat} :
    LastAssigned (ls ++ [l]) header key value n ↔
      OpenAfter ls header ∧ Assigns l key value ∧ l.number = n ∨
        (OpenAfter ls header → ∀ other, ¬ Assigns l key other) ∧
          LastAssigned ls header key value n := by
  constructor
  · rintro ⟨before, m, after, he, ho, ha, hn, hlast⟩
    rcases concat_eq_append_cons_iff.mp he with ⟨-, rfl, rfl⟩ | ⟨rest, rfl, rfl⟩
    · exact .inl ⟨ho, ha, hn⟩
    · refine .inr ⟨hlast rest l [] rfl, before, m, rest, rfl, ho, ha, hn, ?_⟩
      intro between k rest' hr
      exact hlast between k (rest' ++ [l]) (by rw [hr]; simp)
  · rintro (⟨ho, ha, hn⟩ | ⟨hl, before, m, after, rfl, ho, ha, hn, hlast⟩)
    · exact ⟨ls, l, [], rfl, ho, ha, hn, by simp⟩
    · refine ⟨before, m, after ++ [l], by simp, ho, ha, hn, ?_⟩
      intro between k rest he
      rcases concat_eq_append_cons_iff.mp he with ⟨-, rfl, rfl⟩ | ⟨rest', -, hr⟩
      · exact hl
      · exact hlast between k rest' hr

end Onboarding.Config
