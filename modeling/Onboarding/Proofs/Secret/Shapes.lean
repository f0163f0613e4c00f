import Mathlib.Data.List.TakeWhile
import Onboarding.Proofs.Secret.Case

namespace Onboarding.Placeholder

variable {listed : List Text} {name name' rest t v : Text} {opening opening' closing closing' : Bool}

def IsListed (listed : List Text) (v : Text) : Prop := ∃ p ∈ listed, Text.lower v = Text.lower p

def IsMasked (v : Text) : Prop := v ≠ [] ∧ ∀ c ∈ v, c = 'x' ∨ c = 'X' ∨ c = '*' ∨ c = '.'

def IsIdentifier : Text → Prop
  | [] => False
  | c :: t => isNameStart c ∧ ∀ d ∈ t, isNameChar d

def brace (c : Char) (present : Bool) : Text := if present then [c] else []

/-- A dollar sign and a name, with or without each of the braces. -/
def reference (opening closing : Bool) (name : Text) : Text :=
  '$' :: (brace '\x7b' opening ++ (name ++ brace '\x7d' closing))

/-- Both braces are there, or none. -/
def IsReference (v : Text) : Prop := ∃ braces name, IsIdentifier name ∧ v = reference braces braces name

/-- One of the two braces is there. -/
def IsLopsided (v : Text) : Prop :=
  ∃ opening closing name, opening ≠ closing ∧ IsIdentifier name ∧ v = reference opening closing name

def IsInAngles (v : Text) : Prop := ∃ inner, '>' ∉ inner ∧ v = '<' :: (inner ++ ['>'])

/-- The placeholders of the documentation. -/
inductive IsDocumented (listed : List Text) (v : Text) : Prop
  | listed (h : IsListed listed v)
  | masked (h : IsMasked v)
  | reference (h : IsReference v)
  | inAngles (h : IsInAngles v)

theorem isMask_iff : isMask t ↔ IsMasked t := by
  rw [isMask, IsMasked, Bool.and_eq_true, Bool.not_eq_true', List.isEmpty_eq_false_iff, List.all_eq_true]
  simp only [isMaskChar, Bool.or_eq_true, beq_iff_eq, or_assoc]

theorem isBracketed_iff : isBracketed t ↔ IsInAngles t := by
  rw [isBracketed_eq, Bool.and_eq_true, beq_iff_eq, beq_iff_eq]
  constructor
  · rintro ⟨hhead, hbehind⟩
    obtain ⟨rest, rfl⟩ := List.head?_eq_some_iff.mp hhead
    rw [List.tail_cons] at hbehind
    refine ⟨rest.takeWhile (· ≠ '>'), fun hmem => ?_, ?_⟩
    · simpa using List.mem_takeWhile_imp hmem
    · rw [← hbehind, List.takeWhile_append_dropWhile]
  · rintro ⟨inner, hinner, rfl⟩
    exact ⟨rfl, Text.dropWhile_append_stop (Text.all_ne_of_not_mem hinner) rfl⟩

theorem isNameChar_of_isNameStart {c : Char} (h : isNameStart c) : isNameChar c := by
  simp only [isNameStart, isNameChar, Text.isAsciiAlnum, Bool.or_eq_true] at h ⊢
  exact h.imp_left .inl

theorem IsIdentifier.isNameChar_of_mem (h : IsIdentifier name) : ∀ c ∈ name, isNameChar c := by
  cases name with
  | nil => exact h.elim
  | cons c t => exact List.forall_mem_cons.mpr ⟨isNameChar_of_isNameStart h.1, h.2⟩

theorem head?_brace_closing (closing : Bool) : (brace '\x7d' closing).head?.all (!isNameChar ·) := by
  cases closing <;> decide

theorem IsIdentifier.dropWhile_append (h : IsIdentifier name) (closing : Bool) :
    (name ++ brace '\x7d' closing).dropWhile isNameChar = brace '\x7d' closing :=
  Text.dropWhile_append_stop h.isNameChar_of_mem (head?_brace_closing closing)

theorem isName_iff : isName t ↔ ∃ closing name, IsIdentifier name ∧ t = name ++ brace '\x7d' closing := by
  have hbehind : (t.dropWhile isNameChar).isEmpty || t.dropWhile isNameChar == ['\x7d'] ↔
      ∃ closing, t.dropWhile isNameChar = brace '\x7d' closing := by
    simp [brace]
  rw [isName, Bool.and_eq_true, hbehind]
  constructor
  · rintro ⟨hstart, closing, hclosing⟩
    refine ⟨closing, t.takeWhile isNameChar, ?_, ?_⟩
    · cases t with
      | nil => cases hstart
      | cons c t =>
          rw [List.takeWhile_cons, if_pos (isNameChar_of_isNameStart hstart)]
          exact ⟨hstart, fun d hd => List.mem_takeWhile_imp hd⟩
    · rw [← hclosing, List.takeWhile_append_dropWhile]
  · rintro ⟨closing, name, hname, rfl⟩
    refine ⟨?_, closing, hname.dropWhile_append closing⟩
    cases name with
    | nil => exact hname.elim
    | cons c t => exact hname.1

theorem IsIdentifier.skipBrace_append (h : IsIdentifier name) (opening : Bool) (rest : Text) :
    skipBrace (brace '\x7b' opening ++ (name ++ rest)) = name ++ rest := by
  cases opening with
  | true => rfl
  | false =>
      cases name with
      | nil => exact h.elim
      | cons c t =>
          have hc : c ≠ '\x7b' := by
            rintro rfl
            exact absurd h.1 (by decide)
          simp [skipBrace, brace, hc]

theorem exists_eq_brace_append (t : Text) : ∃ opening, t = brace '\x7b' opening ++ skipBrace t := by
  rw [skipBrace]
  split
  · next hhead =>
      obtain ⟨rest, rfl⟩ := List.head?_eq_some_iff.mp (beq_iff_eq.mp hhead)
      exact ⟨true, rfl⟩
  · exact ⟨false, rfl⟩

/-- The two braces are looked for one without the other. -/
theorem isVariable_iff :
    isVariable t ↔ ∃ opening closing name, IsIdentifier name ∧ t = reference opening closing name := by
  rw [isVariable_eq, Bool.and_eq_true, beq_iff_eq, isName_iff]
  constructor
  · rintro ⟨hhead, closing, name, hname, hskip⟩
    obtain ⟨rest, rfl⟩ := List.head?_eq_some_iff.mp hhead
    obtain ⟨opening, hopening⟩ := exists_eq_brace_append rest
    rw [List.tail_cons] at hskip
    exact ⟨opening, closing, name, hname, by rw [reference, ← hskip, ← hopening]⟩
  · rintro ⟨opening, closing, name, hname, rfl⟩
    exact ⟨rfl, closing, name, hname, hname.skipBrace_append opening _⟩

theorem brace_inj {c : Char} (h : brace c opening = brace c closing) : opening = closing := by
  cases opening <;> cases closing <;> first | rfl | cases h

theorem reference_inj (hname : IsIdentifier name) (hname' : IsIdentifier name')
    (h : reference opening closing name = reference opening' closing' name') :
    opening = opening' ∧ closing = closing' := by
  have hbraced := (List.cons.inj h).2
  have hbehind : name ++ brace '\x7d' closing = name' ++ brace '\x7d' closing' := by
    rw [← hname.skipBrace_append opening, hbraced, hname'.skipBrace_append]
  have hclosing : brace '\x7d' closing = brace '\x7d' closing' := by
    rw [← hname.dropWhile_append closing, hbehind, hname'.dropWhile_append]
  rw [hbehind] at hbraced
  exact ⟨brace_inj (List.append_cancel_right hbraced), brace_inj hclosing⟩

theorem isReference_or_isLopsided_iff :
    IsReference v ∨ IsLopsided v ↔
      ∃ opening closing name, IsIdentifier name ∧ v = reference opening closing name := by
  constructor
  · rintro (⟨braces, name, hname, rfl⟩ | ⟨opening, closing, name, -, hname, rfl⟩)
    · exact ⟨braces, braces, name, hname, rfl⟩
    · exact ⟨opening, closing, name, hname, rfl⟩
  · rintro ⟨opening, closing, name, hname, rfl⟩
    by_cases hbraces : opening = closing
    · subst hbraces
      exact .inl ⟨opening, name, hname, rfl⟩
    · exact .inr ⟨opening, closing, name, hbraces, hname, rfl⟩

theorem IsLopsided.isDocumented_iff (h : IsLopsided v) : IsDocumented listed v ↔ IsListed listed v := by
  obtain ⟨opening, closing, name, hbraces, hname, rfl⟩ := h
  constructor
  · intro hdocumented
    cases hdocumented with
    | listed h => exact h
    | masked h => exact absurd (h.2 '$' List.mem_cons_self) (by decide)
    | reference h =>
        obtain ⟨braces, name', hname', heq⟩ := h
        obtain ⟨rfl, rfl⟩ := reference_inj hname hname' heq
        exact absurd rfl hbraces
    | inAngles h =>
        obtain ⟨inner, -, heq⟩ := h
        cases heq
  · exact .listed

theorem line_of_not_mem (h : '\n' ∉ v) : line v = v := by
  rw [line, Text.dropEnd, if_neg fun hlast => h (List.mem_of_getLast? hlast)]

theorem contains_lower_iff : (listed.map Text.lower).contains (Text.lower v) ↔ IsListed listed v := by
  rw [List.contains_iff_mem, List.mem_map]
  exact exists_congr fun p => and_congr_right' eq_comm

theorem isPlaceholder_iff_or (h : '\n' ∉ v) : isPlaceholder listed v ↔ IsDocumented listed v ∨ IsLopsided v := by
  rw [isPlaceholder, hasShape, line_of_not_mem h, Bool.or_eq_true, Bool.or_eq_true, Bool.or_eq_true,
    contains_lower_iff, isMask_iff, isVariable_iff, isBracketed_iff, ← isReference_or_isLopsided_iff]
  constructor
  · rintro (hlisted | (hmasked | hreference | hlopsided) | hangles)
    · exact .inl (.listed hlisted)
    · exact .inl (.masked hmasked)
    · exact .inl (.reference hreference)
    · exact .inr hlopsided
    · exact .inl (.inAngles hangles)
  · rintro ((hlisted | hmasked | hreference | hangles) | hlopsided)
    · exact .inl hlisted
    · exact .inr (.inl (.inl hmasked))
    · exact .inr (.inl (.inr (.inl hreference)))
    · exact .inr (.inr hangles)
    · exact .inr (.inl (.inr (.inr hlopsided)))

/-- A value of one line is a placeholder just if it is one of the documentation or a reference with one brace, so the
placeholders are those of the documentation but for references with one brace that are not listed. None of them is
reported, and nothing else that is long enough is left out. -/
theorem isPlaceholder_iff (h : '\n' ∉ v) :
    (isPlaceholder listed v ↔ IsDocumented listed v ∨ IsLopsided v) ∧
    ((isPlaceholder listed v ↔ IsDocumented listed v) ↔ (IsLopsided v → IsListed listed v)) ∧
    ∀ r : SecretRule, SecretScanner.isReported listed r v ↔
      r.minLength ≤ v.length ∧ ¬ IsDocumented listed v ∧ ¬ IsLopsided v := by
  have hplaceholder : isPlaceholder listed v ↔ IsDocumented listed v ∨ IsLopsided v := isPlaceholder_iff_or h
  refine ⟨hplaceholder, ?_, fun r => ?_⟩
  · rw [hplaceholder, or_iff_left_iff_imp]
    exact imp_congr_right fun hlopsided => hlopsided.isDocumented_iff
  · rw [SecretScanner.isReported, Bool.and_eq_true, decide_eq_true_eq, Bool.not_eq_true', ← Bool.not_eq_true,
      hplaceholder, not_or]

def unclosed : Text := "$\x7bGITHUB_TOKEN".toList

theorem isLopsided_unclosed : IsLopsided unclosed :=
  ⟨true, false, "GITHUB_TOKEN".toList, by decide, ⟨by decide, List.all_eq_true.mp (by decide)⟩, rfl⟩

/-- The list has it in small letters. -/
theorem isPlaceholder_iff_unclosed :
    '\n' ∉ unclosed ∧ IsListed [Text.lower unclosed] unclosed ∧
      (isPlaceholder [Text.lower unclosed] unclosed ↔ IsDocumented [Text.lower unclosed] unclosed) := by
  have hline : '\n' ∉ unclosed := by decide
  have hlisted : IsListed [Text.lower unclosed] unclosed := ⟨_, List.mem_cons_self, by decide +kernel⟩
  exact ⟨hline, hlisted, (isPlaceholder_iff hline).2.1.mpr fun _ => hlisted⟩

/-- The closing brace is missing. -/
theorem not_forall_isPlaceholder_iff :
    ¬ ∀ (listed : List Text) (v : Text), '\n' ∉ v → (isPlaceholder listed v ↔ IsDocumented listed v) := by
  intro h
  have hdocumented := (h [] unclosed (by decide)).mp (by decide +kernel)
  obtain ⟨p, hp, -⟩ := isLopsided_unclosed.isDocumented_iff.mp hdocumented
  cases hp

end Onboarding.Placeholder
