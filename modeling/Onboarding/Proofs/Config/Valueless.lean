import Mathlib.Data.List.Induction
import Onboarding.Check.Tool
import Onboarding.Proofs.Config.Layout
import Onboarding.Proofs.Document.Lines

namespace Onboarding

namespace Config

open Text (IsRemark allBlank trim)

/-- No lookup tells the configurations apart. -/
structure Same (c d : Config) : Prop where
  topLevel : ∀ key, c.topLevel.get? key = d.topLevel.get? key
  keyLines : ∀ key, c.keyLines.get? key = d.keyLines.get? key
  sections : ∀ name, name ∈ c.sections.keys ↔ name ∈ d.sections.keys
  lookup? : ∀ name key, c.lookup? name key = d.lookup? name key

theorem Same.symm {c d : Config} (h : Same c d) : Same d c where
  topLevel key := (h.topLevel key).symm
  keyLines key := (h.keyLines key).symm
  sections name := (h.sections name).symm
  lookup? name key := (h.lookup? name key).symm

theorem Same.trans {c d e : Config} (h : Same c d) (h' : Same d e) : Same c e where
  topLevel key := (h.topLevel key).trans (h'.topLevel key)
  keyLines key := (h.keyLines key).trans (h'.keyLines key)
  sections name := (h.sections name).trans (h'.sections name)
  lookup? name key := (h.lookup? name key).trans (h'.lookup? name key)

/-- A line further on, with that header as the nearest one before it, assigns something to the key. -/
def Reassigned (above below : List Line) (header : Option Text) (key : Text) : Prop :=
  ∃ between l rest value, below = between ++ l :: rest ∧ OpenAfter (above ++ between) header ∧
    Assigns l key value

section Describes

variable {c d : Config} {ls ms : List Line} {key value : Text} {n : Nat}

theorem same_iff (hc : c.Describes ls) (hd : d.Describes ms) : Same c d ↔
    (∀ key value n, LastAssigned ls none key value n ↔ LastAssigned ms none key value n) ∧
    (∀ name, (∃ l ∈ ls, Opens l name) ↔ ∃ l ∈ ms, Opens l name) ∧
    ∀ name key value, (∃ n, LastAssigned ls (some name) key value n) ↔
      ∃ n, LastAssigned ms (some name) key value n := by
  constructor
  · intro h
    refine ⟨fun key value n => ?_, fun name => ?_, fun name key value => ?_⟩
    · rw [← hc.topLevel_get?, ← hd.topLevel_get?, h.topLevel, h.keyLines]
    · rw [← hc.mem_sections, ← hd.mem_sections]
      exact h.sections name
    · rw [← hc.lookup?_eq_some, ← hd.lookup?_eq_some, h.lookup?]
  · rintro ⟨htop, hsections, hlookup⟩
    refine ⟨fun key => ?_, fun key => ?_, fun name => ?_, fun name key => ?_⟩
    · apply Option.ext
      intro value
      rw [hc.topLevel_eq_some_iff, hd.topLevel_eq_some_iff]
      exact exists_congr fun n => htop key value n
    · apply Option.ext
      intro n
      rw [hc.keyLines_eq_some_iff, hd.keyLines_eq_some_iff]
      exact exists_congr fun value => htop key value n
    · rw [hc.mem_sections, hd.mem_sections]
      exact hsections name
    · apply Option.ext
      intro value
      rw [hc.lookup?_eq_some, hd.lookup?_eq_some]
      exact hlookup name key value

theorem OpenAfter.eq {header other : Option Text} (h : OpenAfter ls header) (h' : OpenAfter ls other) :
    header = other := by
  have hfollows := Reader.follows_nil.foldl ls
  rw [List.nil_append] at hfollows
  exact ((hfollows.current header).mp h).symm.trans ((hfollows.current other).mp h')

theorem exists_openAfter (ls : List Line) : ∃ header, OpenAfter ls header := by
  have hfollows := Reader.follows_nil.foldl ls
  rw [List.nil_append] at hfollows
  exact ⟨_, (hfollows.current _).mpr rfl⟩

theorem LastAssigned.eq {name value' : Text} {m : Nat} (h : LastAssigned ls (some name) key value n)
    (h' : LastAssigned ls (some name) key value' m) : value = value' := by
  have hd := describes_ofLines ls
  have hvalue := (hd.lookup?_eq_some name key value).mpr ⟨n, h⟩
  exact Option.some.inj (hvalue.symm.trans ((hd.lookup?_eq_some name key value').mpr ⟨m, h'⟩))

end Describes

section Inserted

variable {above below : List Line} {l m : Line} {header : Option Text} {key value : Text} {n : Nat}

theorem reassigned_concat_iff : Reassigned above (below ++ [m]) header key ↔
    Reassigned above below header key ∨ OpenAfter (above ++ below) header ∧ ∃ value, Assigns m key value := by
  constructor
  · rintro ⟨between, k, rest, value, he, ho, ha⟩
    rcases concat_eq_append_cons_iff.mp he with ⟨-, rfl, rfl⟩ | ⟨rest', -, rfl⟩
    · exact .inr ⟨ho, value, ha⟩
    · exact .inl ⟨between, k, rest', value, rfl, ho, ha⟩
  · rintro (⟨between, k, rest, value, rfl, ho, ha⟩ | ⟨ho, value, ha⟩)
    · exact ⟨between, k, rest ++ [m], value, by simp, ho, ha⟩
    · exact ⟨below, m, [], value, rfl, ho, ha⟩

theorem openAfter_insert_iff (hl : ∀ name, ¬ Opens l name) :
    OpenAfter (above ++ l :: below) header ↔ OpenAfter (above ++ below) header := by
  induction below using List.reverseRecOn generalizing header with
  | nil =>
      rw [List.append_nil]
      exact openAfter_concat_of_not hl header
  | append_singleton below m ih =>
      rw [← List.cons_append, ← List.append_assoc, ← List.append_assoc, openAfter_concat_iff,
        openAfter_concat_iff, ih]

theorem reassigned_insert_iff (hl : ∀ name, ¬ Opens l name) :
    Reassigned (above ++ [l]) below header key ↔ Reassigned above below header key := by
  have hopen (between : List Line) : OpenAfter (above ++ [l] ++ between) header ↔
      OpenAfter (above ++ between) header := by
    rw [List.append_assoc]
    exact openAfter_insert_iff hl
  simp only [Reassigned, hopen]

/-- What a line assigns goes by unnoticed if it concerns another key or is assigned anew further on. -/
theorem lastAssigned_insert_iff (hl : ∀ name, ¬ Opens l name)
    (h : Reassigned above below header key ∨ (OpenAfter above header → ∀ other, ¬ Assigns l key other)) :
    LastAssigned (above ++ l :: below) header key value n ↔ LastAssigned (above ++ below) header key value n := by
  induction below using List.reverseRecOn with
  | nil =>
      have hnot : ¬ Reassigned above [] header key := by
        rintro ⟨between, m, rest, value, he, -⟩
        simp at he
      rw [List.append_nil]
      exact lastAssigned_concat_of_not (h.resolve_left hnot)
  | append_singleton below m ih =>
      rw [← List.cons_append, ← List.append_assoc, ← List.append_assoc]
      rw [reassigned_concat_iff, or_right_comm] at h
      rcases h with h | ⟨ho, value', ha⟩
      · rw [lastAssigned_concat_iff, lastAssigned_concat_iff, openAfter_insert_iff hl, ih h]
      · rw [lastAssigned_concat_of_assigns ho ha,
          lastAssigned_concat_of_assigns ((openAfter_insert_iff hl).mpr ho) ha]

theorem lastAssigned_append_iff (h : ¬ Reassigned above below header key) :
    LastAssigned (above ++ below) header key value n ↔ LastAssigned above header key value n := by
  induction below using List.reverseRecOn with
  | nil => rw [List.append_nil]
  | append_singleton below m ih =>
      rw [reassigned_concat_iff, not_or] at h
      rw [← List.append_assoc, lastAssigned_concat_of_not fun ho other ha => h.2 ⟨ho, other, ha⟩]
      exact ih h.1

theorem exists_opens_insert_iff (hl : ∀ name, ¬ Opens l name) (name : Text) :
    (∃ m ∈ above ++ l :: below, Opens m name) ↔ ∃ m ∈ above ++ below, Opens m name := by
  simp only [List.mem_append, List.mem_cons, or_and_right, exists_or, exists_eq_left]
  rw [or_iff_right (hl name)]

theorem ofLines_insert_of_other (h : Entry.ofText l.text = .other) :
    ofLines (above ++ l :: below) = ofLines (above ++ below) := by
  have hnext (r : Reader) : r.next l = r := by rw [Reader.next, h]
  rw [ofLines, ofLines, List.foldl_append, List.foldl_append, List.foldl_cons, hnext]

theorem same_ofLines_insert_iff (ha : Assigns l key value) (hn : ∀ m ∈ above, m.number ≠ l.number)
    (ho : OpenAfter above header) : Same (ofLines (above ++ below)) (ofLines (above ++ l :: below)) ↔
      Reassigned above below header key ∨
        ∃ name n, header = some name ∧ LastAssigned above header key value n := by
  have hl : ∀ name, ¬ Opens l name := fun name => not_opens_of_assigns ha
  have hkept {header' : Option Text} {key' value' : Text} {n : Nat}
      (h : Reassigned above below header key ∨ ¬ (header' = header ∧ key' = key)) :
      LastAssigned (above ++ below) header' key' value' n ↔
        LastAssigned (above ++ l :: below) header' key' value' n := by
    refine (lastAssigned_insert_iff hl ?_).symm
    by_cases heq : header' = header ∧ key' = key
    · obtain ⟨rfl, rfl⟩ := heq
      exact .inl (h.resolve_right (not_not_intro ⟨rfl, rfl⟩))
    · exact .inr fun ho' other ha' => heq ⟨ho'.eq ho, (ha'.eq ha).1⟩
  have hsections : ∀ name, (∃ m ∈ above ++ below, Opens m name) ↔ ∃ m ∈ above ++ l :: below, Opens m name :=
    fun name => (exists_opens_insert_iff hl name).symm
  rw [same_iff (describes_ofLines _) (describes_ofLines _)]
  by_cases hre : Reassigned above below header key
  · refine iff_of_true ⟨fun _ _ _ => hkept (.inl hre), hsections, fun _ _ _ => ?_⟩ (.inl hre)
    exact exists_congr fun _ => hkept (.inl hre)
  · have hbefore {value' : Text} {n : Nat} : LastAssigned (above ++ below) header key value' n ↔
        LastAssigned above header key value' n := lastAssigned_append_iff hre
    have hafter {value' : Text} {n : Nat} : LastAssigned (above ++ l :: below) header key value' n ↔
        value = value' ∧ l.number = n := by
      rw [List.append_cons, lastAssigned_append_iff (mt (reassigned_insert_iff hl).mp hre),
        lastAssigned_concat_of_assigns ho ha]
    rw [or_iff_right hre]
    cases header with
    | none =>
        refine iff_of_false (fun h => ?_) (by rintro ⟨name, n, hname, -⟩; cases hname)
        obtain ⟨before, m, after, rfl, -, -, hm, -⟩ :=
          hbefore.mp ((h.1 key value l.number).mpr (hafter.mpr ⟨rfl, rfl⟩))
        exact hn m (by simp) hm
    | some name =>
        constructor
        · rintro ⟨-, -, hlookup⟩
          obtain ⟨n, hlast⟩ := (hlookup name key value).mpr ⟨l.number, hafter.mpr ⟨rfl, rfl⟩⟩
          exact ⟨name, n, rfl, hbefore.mp hlast⟩
        · rintro ⟨name', n, hname, hlast⟩
          refine ⟨fun _ _ _ => hkept (.inr (by rintro ⟨⟨⟩, -⟩)), hsections, fun other key' value' => ?_⟩
          by_cases heq : some other = some name ∧ key' = key
          · obtain ⟨hother, rfl⟩ := heq
            cases hother
            constructor
            · rintro ⟨n', hlast'⟩
              exact ⟨l.number, hafter.mpr ⟨hlast.eq (hbefore.mp hlast'), rfl⟩⟩
            · rintro ⟨n', hlast'⟩
              obtain ⟨rfl, -⟩ := hafter.mp hlast'
              exact ⟨n, hbefore.mpr hlast⟩
          · exact exists_congr fun _ => hkept (.inr heq)

end Inserted

end Config

namespace Tool

variable {c d : Config}

theorem check_congr_same (settings : Settings) (h : c.Same d) :
    errors settings c = errors settings d ∧ warnings c = warnings d := by
  have hunder (start : Text) : c.hasSectionUnder start = d.hasSectionUnder start := by
    rw [Config.hasSectionUnder, Config.hasSectionUnder, Bool.eq_iff_iff, List.any_eq_true, List.any_eq_true]
    exact exists_congr fun name => and_congr_left' (h.sections name)
  have hdefault (key value : Text) : isDefault key value c = isDefault key value d := by
    rw [isDefault, isDefault, h.topLevel, hunder]
  constructor
  · simp only [errors, missingKeys, unknownValue, Table.has, h.topLevel, h.keyLines]
  · rw [warnings, warnings, hunder, hdefault, hdefault, h.keyLines, h.keyLines]

end Tool

namespace Config

open Text (IsRemark allBlank trim)

variable {content edited t remark : Text} {above below : List Line} {n : Nat} {a : Assignment}

theorem value?_remark (ha : allBlank a.right = true) (hr : IsRemark remark) :
    Assignment.value? ⟨a.key, a.right ++ remark⟩ = some [] := by
  obtain ⟨gap, note, hgap, rfl⟩ := hr
  obtain ⟨u, hu⟩ := Text.trimRight_cons_of_not (c := '#') (by decide) note
  have htrim : trim (a.right ++ (gap ++ '#' :: note)) = '#' :: u := by
    rw [trim, Text.trimLeft_append ha, Text.trimLeft_append hgap, Text.trimLeft_cons_of_not (by decide), hu]
  rw [Assignment.value?, htrim]
  rfl

theorem Entry.ofText_valueless_remark (ht : Assignment.ofText? (trim t) = some a) (ha : allBlank a.right = true)
    (hr : IsRemark remark) : Entry.ofText (t ++ remark) = .assignment a.key [] := by
  obtain ⟨remark', hr', hassign, -⟩ := Assignment.exists_ofText?_append_remark ht hr
  rw [ofText_of_assignment hassign, value?_remark ha hr']

/-- Behind an assignment without a value a comment makes no difference to what is read, or to what is found in it,
just if the key is assigned anew further on, or if it stands in a section and was empty before. -/
theorem same_read_iff (ht : Assignment.ofText? (trim t) = some a) (ha : allBlank a.right = true)
    (hr : IsRemark remark) (hcontent : Line.index content = above ++ ⟨n, t⟩ :: below)
    (hedited : Line.index edited = above ++ ⟨n, t ++ remark⟩ :: below) :
    (Same (read content) (read edited) ↔ ∃ header, OpenAfter above header ∧
      (Reassigned above below header a.key ∨
        ∃ name m, header = some name ∧ LastAssigned above header a.key [] m)) ∧
    (Same (read content) (read edited) → ∀ settings, Tool.check settings content = Tool.check settings edited) := by
  have hl : Assigns ⟨n, t ++ remark⟩ a.key [] :=
    ofText_eq_assignment_iff.mp (Entry.ofText_valueless_remark ht ha hr)
  have hnumbers : ∀ m ∈ above, m.number ≠ n := by
    have hp : (Line.index edited).Pairwise fun l m => l.number < m.number := Line.pairwise_numberFrom 1 _
    rw [hedited, List.pairwise_append] at hp
    exact fun m hm => Nat.ne_of_lt (hp.2.2 m hm _ List.mem_cons_self)
  obtain ⟨header, ho⟩ := exists_openAfter above
  have hsame : Same (ofLines (above ++ below)) (ofLines (above ++ ⟨n, t ++ remark⟩ :: below)) ↔ _ :=
    same_ofLines_insert_iff hl hnumbers ho
  have hread : read content = ofLines (above ++ below) := by
    rw [read, hcontent, ofLines_insert_of_other (IsInert.valueless ht ha).ofText_eq]
  rw [← hread, ← hedited] at hsame
  refine ⟨hsame.trans ⟨fun h => ⟨header, ho, h⟩, ?_⟩, fun h settings => ?_⟩
  · rintro ⟨other, ho', h⟩
    obtain rfl := ho.eq ho'
    exact h
  · obtain ⟨herrors, hwarnings⟩ := Tool.check_congr_same settings h
    simp only [Tool.check, herrors, hwarnings]

def unset : Text := "model =".toList

def todo : Text := " # todo".toList

theorem isRemark_todo : IsRemark todo := ⟨[' '], " todo".toList, rfl, rfl⟩

def named : Line := ⟨2, "model = 'o3'".toList⟩

/-- The key is assigned anew in the line behind. -/
theorem same_read_iff_named :
    Assignment.ofText? (trim unset) = some ⟨"model".toList, []⟩ ∧ IsRemark todo ∧
      Line.index (unset ++ '\n' :: named.text) = [] ++ ⟨1, unset⟩ :: [named] ∧
      Line.index (unset ++ todo ++ '\n' :: named.text) = [] ++ ⟨1, unset ++ todo⟩ :: [named] ∧
      Same (read (unset ++ '\n' :: named.text)) (read (unset ++ todo ++ '\n' :: named.text)) := by
  have ht : Assignment.ofText? (trim unset) = some ⟨"model".toList, []⟩ := by decide
  have hcontent : Line.index (unset ++ '\n' :: named.text) = [] ++ ⟨1, unset⟩ :: [named] := by decide
  have hedited : Line.index (unset ++ todo ++ '\n' :: named.text) = [] ++ ⟨1, unset ++ todo⟩ :: [named] := by
    decide
  have hnamed : Assigns named "model".toList "o3".toList :=
    ofText_eq_assignment_iff.mp (by decide +kernel)
  refine ⟨ht, isRemark_todo, hcontent, hedited, ?_⟩
  apply (same_read_iff ht rfl isRemark_todo hcontent hedited).1.mpr
  exact ⟨none, nofun, .inl ⟨[], named, [], _, rfl, nofun, hnamed⟩⟩

/-- The comment gives the key an empty value. -/
theorem not_same_read_todo :
    Assignment.ofText? (trim unset) = some ⟨"model".toList, []⟩ ∧ IsRemark todo ∧
      Line.index unset = [⟨1, unset⟩] ∧ Line.index (unset ++ todo) = [⟨1, unset ++ todo⟩] ∧
      ¬ Same (read unset) (read (unset ++ todo)) := by
  have hbare : (read unset).topLevel.get? "model".toList = none := by decide +kernel
  have htodo : (read (unset ++ todo)).topLevel.get? "model".toList = some [] := by decide +kernel
  refine ⟨by decide, isRemark_todo, by decide, by decide, fun h => ?_⟩
  have htop := h.topLevel "model".toList
  rw [hbare, htodo] at htop
  cases htop

end Config

end Onboarding
