import Onboarding.Document.Line
import Onboarding.Proofs.Text.Pieces

namespace Onboarding

/-- The text with more lines behind the first `i` of its lines. -/
def Text.insertLines (i : Nat) (new : List Text) (content : Text) : Text :=
  join ['\n'] ((splitOn '\n' content).take i ++ (new ++ (splitOn '\n' content).drop i))

theorem mem_take_append_drop {α : Type} {a : α} {xs new : List α} (i : Nat) :
    a ∈ xs.take i ++ (new ++ xs.drop i) ↔ a ∈ xs ∨ a ∈ new := by
  have h : a ∈ xs ↔ a ∈ xs.take i ∨ a ∈ xs.drop i := by
    rw [← List.mem_append, List.take_append_drop]
  rw [List.mem_append, List.mem_append, h, or_assoc, or_comm (a := a ∈ new)]

namespace Line

theorem le_number_of_mem {n : Nat} {ts : List Text} {l : Line} (h : l ∈ numberFrom n ts) :
    n ≤ l.number := by
  induction ts generalizing n with
  | nil => cases h
  | cons t ts ih =>
      rcases List.mem_cons.mp h with rfl | h
      · exact Nat.le_refl _
      · exact Nat.le_of_succ_le (ih h)

theorem number_lt_of_mem {n : Nat} {ts : List Text} {l : Line} (h : l ∈ numberFrom n ts) :
    l.number < n + ts.length := by
  induction ts generalizing n with
  | nil => cases h
  | cons t ts ih =>
      rw [List.length_cons]
      rcases List.mem_cons.mp h with rfl | h
      · exact Nat.lt_add_of_pos_right (Nat.succ_pos _)
      · have := ih h
        omega

@[simp] theorem map_text_numberFrom (n : Nat) (ts : List Text) :
    (numberFrom n ts).map (·.text) = ts := by
  induction ts generalizing n with
  | nil => rfl
  | cons t ts ih => rw [numberFrom, List.map_cons, ih]

theorem text_mem_of_mem {n : Nat} {ts : List Text} {l : Line} (h : l ∈ numberFrom n ts) :
    l.text ∈ ts := by
  rw [← map_text_numberFrom n ts]
  exact List.mem_map_of_mem h

theorem exists_mem_numberFrom (n : Nat) {ts : List Text} {t : Text} (h : t ∈ ts) :
    ∃ l ∈ numberFrom n ts, l.text = t := by
  rw [← map_text_numberFrom n ts] at h
  exact List.mem_map.mp h

theorem map_number_numberFrom (n : Nat) (ts : List Text) :
    (numberFrom n ts).map (·.number) = List.range' n ts.length := by
  induction ts generalizing n with
  | nil => rfl
  | cons t ts ih => rw [numberFrom, List.map_cons, ih, List.length_cons, List.range'_succ]

theorem take_numberFrom (n i : Nat) (ts : List Text) :
    (numberFrom n ts).take i = numberFrom n (ts.take i) := by
  induction ts generalizing n i with
  | nil => simp [numberFrom]
  | cons t ts ih =>
      cases i with
      | zero => rfl
      | succ i => simp [numberFrom, ih]

theorem map_number_index_congr {a b : Text} (h : (index a).length = (index b).length) :
    (index a).map (·.number) = (index b).map (·.number) := by
  simp only [index, length_numberFrom] at h
  rw [index, index, map_number_numberFrom, map_number_numberFrom, h]

theorem pairwise_numberFrom (n : Nat) (ts : List Text) :
    (numberFrom n ts).Pairwise fun l m => l.number < m.number := by
  induction ts generalizing n with
  | nil => exact .nil
  | cons t ts ih => exact .cons (fun l h => le_number_of_mem h) (ih (n + 1))

theorem number_le_of_getLast? {ls : List Line} {l : Line}
    (hp : ls.Pairwise fun l m => l.number < m.number) (h : ls.getLast? = some l) :
    ∀ m ∈ ls, m.number ≤ l.number := by
  obtain ⟨before, rfl⟩ := List.getLast?_eq_some_iff.mp h
  intro m hm
  rcases List.mem_append.mp hm with hm | hm
  · exact Nat.le_of_lt ((List.pairwise_append.mp hp).2.2 m hm l List.mem_cons_self)
  · exact Nat.le_of_eq (congrArg Line.number (List.mem_singleton.mp hm))

theorem mem_numberFrom_iff {n : Nat} {ts : List Text} {l : Line} :
    l ∈ numberFrom n ts ↔ ∃ i, l.number = n + i ∧ ts[i]? = some l.text := by
  induction ts generalizing n with
  | nil => simp [numberFrom]
  | cons t ts ih =>
      rw [numberFrom, List.mem_cons, ih]
      constructor
      · rintro (rfl | ⟨i, hn, ht⟩)
        · exact ⟨0, rfl, rfl⟩
        · exact ⟨i + 1, by omega, ht⟩
      · rintro ⟨i, hn, ht⟩
        cases i with
        | zero =>
            obtain rfl := Option.some.inj ht
            cases l
            exact .inl (by simpa using hn)
        | succ i => exact .inr ⟨i, by omega, ht⟩

/-- What stands in the line of a number, with nothing before or behind it. -/
def alone (n : Nat) (content : Text) : Text := ((Text.splitOn '\n' content)[n - 1]?).getD []

theorem index_alone {content : Text} {l : Line} (h : l ∈ index content) :
    index (alone l.number content) = [⟨1, l.text⟩] := by
  obtain ⟨i, hn, ht⟩ := mem_numberFrom_iff.mp h
  rw [List.getElem?_map, Option.map_eq_some_iff] at ht
  obtain ⟨piece, hp, ht⟩ := ht
  have hpiece : alone l.number content = piece := by
    rw [alone, hn, Nat.add_sub_cancel_left, hp, Option.getD_some]
  have hline : '\n' ∉ piece := Text.not_mem_of_mem_splitOn (List.mem_of_getElem? hp)
  rw [hpiece, index, Text.splitOn_of_not_mem hline, List.map_singleton, ht]
  rfl

theorem number_le_of_mem_index {content : Text} {l : Line} (h : l ∈ index content) :
    l.number ≤ content.count '\n' + 1 := by
  have hlt := number_lt_of_mem h
  rw [List.length_map, Text.length_splitOn] at hlt
  omega

theorem index_join {ts : List Text} (h : ∀ t ∈ ts, '\n' ∉ t) (hne : ts ≠ []) :
    index (Text.join ['\n'] ts) = numberFrom 1 (ts.map (Text.dropEnd '\r')) := by
  rw [index, Text.splitOn_join h hne]

theorem index_insertLines {new : List Text} (h : ∀ t ∈ new, '\n' ∉ t) (i : Nat) (content : Text) :
    index (Text.insertLines i new content) =
      numberFrom 1 (((Text.splitOn '\n' content).map (Text.dropEnd '\r')).take i ++
        (new.map (Text.dropEnd '\r') ++
          ((Text.splitOn '\n' content).map (Text.dropEnd '\r')).drop i)) := by
  have hpieces : ∀ t ∈ Text.splitOn '\n' content, '\n' ∉ t := fun t ht =>
    Text.not_mem_of_mem_splitOn ht
  rw [Text.insertLines, index_join]
  · rw [List.map_append, List.map_append, List.map_take, List.map_drop]
  · intro t ht
    rcases List.mem_append.mp ht with ht | ht
    · exact hpieces t (List.mem_of_mem_take ht)
    · rcases List.mem_append.mp ht with ht | ht
      · exact h t ht
      · exact hpieces t (List.mem_of_mem_drop ht)
  · intro hnil
    have hnil' := congrArg List.length hnil
    rw [List.length_append, List.length_append, List.length_take, List.length_drop,
      List.length_nil] at hnil'
    have := List.length_pos_iff.mpr (Text.splitOn_ne_nil '\n' content)
    omega

theorem index_join_concat {ts : List Text}
    (h : ∀ t ∈ ts, '\n' ∉ t ∧ t.getLast? ≠ some '\r') (last : Text) :
    index (Text.join ['\n'] (ts ++ [last])) =
      numberFrom 1 (ts ++ (Text.splitOn '\n' last).map (Text.dropEnd '\r')) := by
  have hdrop : ts.map (Text.dropEnd '\r') = ts :=
    (List.map_congr_left fun t ht => if_neg (h t ht).2).trans (List.map_id ts)
  rw [index, Text.splitOn_join_concat fun t ht => (h t ht).1, List.map_append, hdrop]

theorem pairwise_drop_index (content : Text) (skip : Nat) :
    ((index content).drop skip).Pairwise fun l m => l.number < m.number :=
  (pairwise_numberFrom 1 _).sublist (List.drop_sublist skip _)

theorem pos_of_mem_index {content : Text} {l : Line} (h : l ∈ index content) : 0 < l.number :=
  le_number_of_mem h

theorem number_ne_of_index_eq {content : Text} {l : Line} {above below : List Line}
    (h : index content = above ++ l :: below) : ∀ m ∈ above, m.number ≠ l.number := by
  have hp : (index content).Pairwise fun l m => l.number < m.number := pairwise_numberFrom 1 _
  rw [h, List.pairwise_append] at hp
  exact fun m hm => Nat.ne_of_lt (hp.2.2 m hm l List.mem_cons_self)

theorem eq_numberFrom_of_append_cons {n m : Nat} {t : Text} {ts : List Text} {above below : List Line}
    (h : numberFrom n ts = above ++ ⟨m, t⟩ :: below) :
    m = n + above.length ∧ below = numberFrom (m + 1) (below.map (·.text)) := by
  induction above generalizing n ts with
  | nil =>
      cases ts with
      | nil => cases h
      | cons u ts =>
          cases h
          exact ⟨rfl, by rw [map_text_numberFrom]⟩
  | cons l above ih =>
      cases ts with
      | nil => cases h
      | cons u ts =>
          obtain ⟨hnumber, hbelow⟩ := ih (List.cons.inj h).2
          exact ⟨by rw [hnumber, List.length_cons]; omega, hbelow⟩

theorem index_eq_numberFrom (content : Text) : index content = numberFrom 1 ((index content).map (·.text)) := by
  rw [index, map_text_numberFrom]

theorem not_mem_of_mem_index {content : Text} {l : Line} (h : l ∈ index content) : '\n' ∉ l.text := by
  obtain ⟨piece, hpiece, ht⟩ := List.mem_map.mp (text_mem_of_mem h)
  rw [← ht]
  exact fun hmem => Text.not_mem_of_mem_splitOn hpiece (Text.dropEnd_subset _ _ hmem)

end Line

end Onboarding
