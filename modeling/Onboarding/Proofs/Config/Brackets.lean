import Onboarding.Proofs.Config.Valueless

namespace Onboarding

namespace Assignment

open Text (IsRemark trim)

variable {t u : Text} {a : Assignment} {remark : Text}

def IsList (t : Text) : Prop := ∃ inner, t = '[' :: (inner ++ [']'])

theorem upToBracket_eq (h : ']' ∉ u) (t : Text) : upToBracket (t ++ ']' :: u) = t ++ [']'] := by
  have hmem : ']' ∈ t ++ ']' :: u := List.mem_append_right t List.mem_cons_self
  have hpass : ∀ c ∈ u.reverse, decide (c ≠ ']') = true := Text.all_ne_of_not_mem (mt List.mem_reverse.mp h)
  have hreverse : (t ++ ']' :: u).reverse = u.reverse ++ ']' :: t.reverse := by simp
  rw [upToBracket, if_pos (List.contains_iff_mem.mpr hmem), hreverse, Text.dropWhile_append_stop hpass (by simp)]
  simp

theorem exists_last_bracket (h : ']' ∈ u) : ∃ front back, u = front ++ ']' :: back ∧ ']' ∉ back := by
  obtain ⟨back, front, hsplit, hback⟩ := List.eq_append_cons_of_mem (List.mem_reverse.mpr h)
  refine ⟨front.reverse, back.reverse, ?_, mt List.mem_reverse.mp hback⟩
  rw [← List.reverse_reverse u, hsplit]
  simp

theorem value?_list (h : IsList (trim a.right)) : a.value? = some (trim a.right) := by
  obtain ⟨inner, hlist⟩ := h
  have hwhole := upToBracket_eq List.not_mem_nil ('[' :: inner)
  rw [List.cons_append] at hwhole
  rw [value?, hlist]
  simp [Segment.isQuote, hwhole]

theorem exists_value?_list_remark (h : IsList (trim a.right)) (hr : IsRemark remark) :
    ∃ v, value? ⟨a.key, a.right ++ remark⟩ = some v ∧ (v = trim a.right ↔ ']' ∉ remark) := by
  obtain ⟨inner, hlist⟩ := h
  have hne : trim a.right ≠ [] := by
    rw [hlist]
    exact List.cons_ne_nil _ _
  obtain ⟨remark', -, htrim⟩ := Text.exists_trim_append_remark hne hr
  have hvalue : value? ⟨a.key, a.right ++ remark⟩ = some (upToBracket (trim a.right ++ remark')) := by
    rw [value?, htrim, hlist]
    simp [Segment.isQuote]
  refine ⟨_, hvalue, ?_⟩
  rw [← Text.mem_iff_of_trim_append htrim (by decide)]
  by_cases hbracket : ']' ∈ remark'
  · obtain ⟨front, back, rfl, hback⟩ := exists_last_bracket hbracket
    rw [← List.append_assoc, upToBracket_eq hback]
    simp
  · have hsplit : trim a.right ++ remark' = ('[' :: inner) ++ ']' :: remark' := by
      rw [hlist]
      simp
    rw [hsplit, upToBracket_eq hbracket, hlist]
    exact iff_of_true rfl hbracket

end Assignment

namespace Config

open Assignment (IsList)
open Text (IsRemark trim)

/-- The value of a key in a section or, where there is no header, at the top level. -/
def valueUnder (c : Config) : Option Text → Text → Option Text
  | none, key => c.topLevel.get? key
  | some name, key => c.lookup? name key

variable {c d : Config} {ls above below : List Line} {l : Line} {header : Option Text} {n : Nat}
variable {content edited t u key value remark : Text} {a : Assignment}

theorem Describes.valueUnder_eq_some_iff (h : c.Describes ls) :
    c.valueUnder header key = some value ↔ ∃ n, LastAssigned ls header key value n := by
  cases header with
  | none => exact h.topLevel_eq_some_iff
  | some name => exact h.lookup?_eq_some name key value

theorem Same.valueUnder_eq (h : Same c d) (header : Option Text) (key : Text) :
    c.valueUnder header key = d.valueUnder header key := by
  cases header with
  | none => exact h.topLevel key
  | some name => exact h.lookup? name key

/-- What a line assigns is the value of the key, unless a line further on assigns it anew. -/
theorem valueUnder_ofLines (ha : Assigns l key value) (ho : OpenAfter above header)
    (hre : ¬ Reassigned above below header key) :
    (ofLines (above ++ l :: below)).valueUnder header key = some value := by
  rw [(describes_ofLines _).valueUnder_eq_some_iff]
  refine ⟨l.number, ?_⟩
  rw [List.append_cons, lastAssigned_append_iff (mt (reassigned_insert_iff fun _ => not_opens_of_assigns ha).mp hre),
    lastAssigned_concat_of_assigns ho ha]
  exact ⟨rfl, rfl⟩

theorem ofLines_replace (h : Entry.ofText t = Entry.ofText u) (above below : List Line) (n : Nat) :
    ofLines (above ++ ⟨n, t⟩ :: below) = ofLines (above ++ ⟨n, u⟩ :: below) := by
  have hnext (r : Reader) : r.next ⟨n, t⟩ = r.next ⟨n, u⟩ := by rw [Reader.next, Reader.next, h]
  rw [ofLines, ofLines, List.foldl_append, List.foldl_append, List.foldl_cons, List.foldl_cons, hnext]

theorem Entry.ofText_list (ht : Assignment.ofText? (trim t) = some a) (h : IsList (trim a.right)) :
    ofText t = .assignment a.key (trim a.right) := by
  rw [ofText_of_assignment ht, Assignment.value?_list h]

theorem Entry.exists_ofText_list_remark (ht : Assignment.ofText? (trim t) = some a) (h : IsList (trim a.right))
    (hr : IsRemark remark) :
    ∃ value, ofText (t ++ remark) = .assignment a.key value ∧ (value = trim a.right ↔ ']' ∉ remark) := by
  obtain ⟨remark', hr', hassign, hmem⟩ := Assignment.exists_ofText?_append_remark ht hr
  obtain ⟨value, hvalue, hiff⟩ := Assignment.exists_value?_list_remark h hr'
  rw [hmem ']' (by decide)] at hiff
  refine ⟨value, ?_, hiff⟩
  rw [ofText_of_assignment hassign, hvalue]

/-- Behind a list a comment makes no difference to what is read just if it has no closing bracket, or if the key is
assigned anew further on. If it is not, the list is the value of the key without the comment, and with the comment
just if that has no closing bracket. -/
theorem read_list_iff (ht : Assignment.ofText? (trim t) = some a) (hlist : IsList (trim a.right))
    (hr : IsRemark remark) (hcontent : Line.index content = above ++ ⟨n, t⟩ :: below)
    (hedited : Line.index edited = above ++ ⟨n, t ++ remark⟩ :: below) (ho : OpenAfter above header) :
    (Same (read content) (read edited) ↔ ']' ∉ remark ∨ Reassigned above below header a.key) ∧
    (¬ Reassigned above below header a.key →
      (read content).valueUnder header a.key = some (trim a.right) ∧
      ((read edited).valueUnder header a.key = some (trim a.right) ↔ ']' ∉ remark)) := by
  obtain ⟨value, hentry, hvalue⟩ := Entry.exists_ofText_list_remark ht hlist hr
  have hplain : Assigns ⟨n, t⟩ a.key (trim a.right) := ofText_eq_assignment_iff.mp (Entry.ofText_list ht hlist)
  have hremark : Assigns ⟨n, t ++ remark⟩ a.key value := ofText_eq_assignment_iff.mp hentry
  have hnumbers : ∀ m ∈ above, m.number ≠ n := Line.number_ne_of_index_eq hedited
  rw [read, read, hcontent, hedited]
  have hvalues (hre : ¬ Reassigned above below header a.key) :
      (ofLines (above ++ ⟨n, t⟩ :: below)).valueUnder header a.key = some (trim a.right) ∧
      ((ofLines (above ++ ⟨n, t ++ remark⟩ :: below)).valueUnder header a.key = some (trim a.right) ↔
        ']' ∉ remark) := by
    refine ⟨valueUnder_ofLines hplain ho hre, ?_⟩
    rw [valueUnder_ofLines hremark ho hre, Option.some.injEq, hvalue]
  refine ⟨⟨fun hsame => ?_, ?_⟩, hvalues⟩
  · rw [or_iff_not_imp_right]
    intro hre
    obtain ⟨hbefore, hafter⟩ := hvalues hre
    rw [← hafter, ← hsame.valueUnder_eq, hbefore]
  · rintro (hbracket | hre)
    · have heq : Entry.ofText t = Entry.ofText (t ++ remark) := by
        rw [Entry.ofText_list ht hlist, hentry, hvalue.mpr hbracket]
      rw [ofLines_replace heq]
      exact ⟨fun _ => rfl, fun _ => rfl, fun _ => Iff.rfl, fun _ _ => rfl⟩
    · have hleft := (same_ofLines_insert_iff hplain hnumbers ho).mpr (.inl hre)
      have hright := (same_ofLines_insert_iff hremark hnumbers ho).mpr (.inl hre)
      exact hleft.symm.trans hright

def featureHeader : Line := ⟨1, "[features]".toList⟩

def flagsLine : Text := "flags = [[1], \"a b\"]".toList

def flags : Text := "[[1], \"a b\"]".toList

def optional : Text := " # [optional".toList

/-- The comment has an opening bracket only. -/
theorem read_list_iff_flags :
    Assignment.ofText? (trim flagsLine) = some ⟨"flags".toList, ' ' :: flags⟩ ∧ IsList (trim (' ' :: flags)) ∧
      IsRemark optional ∧
      Line.index (featureHeader.text ++ '\n' :: flagsLine) = [featureHeader] ++ ⟨2, flagsLine⟩ :: [] ∧
      Line.index (featureHeader.text ++ '\n' :: (flagsLine ++ optional)) =
        [featureHeader] ++ ⟨2, flagsLine ++ optional⟩ :: [] ∧
      OpenAfter [featureHeader] (some "features".toList) ∧
      Same (read (featureHeader.text ++ '\n' :: flagsLine))
        (read (featureHeader.text ++ '\n' :: (flagsLine ++ optional))) := by
  have ht : Assignment.ofText? (trim flagsLine) = some ⟨"flags".toList, ' ' :: flags⟩ := by decide
  have hlist : IsList (trim (' ' :: flags)) := ⟨"[1], \"a b\"".toList, by decide⟩
  have hr : IsRemark optional := ⟨[' '], " [optional".toList, rfl, rfl⟩
  have hcontent : Line.index (featureHeader.text ++ '\n' :: flagsLine) = [featureHeader] ++ ⟨2, flagsLine⟩ :: [] := by
    decide
  have hedited : Line.index (featureHeader.text ++ '\n' :: (flagsLine ++ optional)) =
      [featureHeader] ++ ⟨2, flagsLine ++ optional⟩ :: [] := by decide
  have ho : OpenAfter [featureHeader] (some "features".toList) :=
    ⟨[], featureHeader, [], rfl, ofText_eq_header_iff.mp (by decide +kernel), nofun⟩
  refine ⟨ht, hlist, hr, hcontent, hedited, ho, ?_⟩
  apply (read_list_iff ht hlist hr hcontent hedited ho).1.mpr
  exact .inl (by decide)

/-- The bracket in the comment is taken for the end of the list. -/
theorem not_forall_read_list :
    ¬ ∀ key list gap note : Text, IsList list → '#' ∉ list → '\n' ∉ list →
      Entry.ofText (key ++ " = ".toList ++ list) = .assignment key list →
      gap ≠ [] → Text.allBlank gap = true → '\n' ∉ gap ++ '#' :: note →
      (read (key ++ " = ".toList ++ list ++ (gap ++ '#' :: note))).valueUnder none key = some list := by
  intro h
  have hplain : Entry.ofText ("k".toList ++ " = ".toList ++ "[a]".toList) = .assignment "k".toList "[a]".toList := by
    decide +kernel
  have hvalue : (read "k = [a] # b]".toList).valueUnder none "k".toList = some "[a] # b]".toList := by
    decide +kernel
  have hclaim := h "k".toList "[a]".toList [' '] " b]".toList ⟨['a'], rfl⟩ (by decide) (by decide) hplain
    (by decide) rfl (by decide)
  cases hvalue.symm.trans hclaim

end Config

end Onboarding
