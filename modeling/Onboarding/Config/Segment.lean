import Onboarding.Text.Basic
import Onboarding.Text.Word

namespace Onboarding.Segment

def isBareChar (c : Char) : Bool := Text.isAsciiAlnum c || c == '_' || c == '-'

def isQuote (c : Char) : Bool := c == '"' || c == '\''

def upTo? (q : Char) (t : Text) : Option (Text × Text) :=
  match t.dropWhile (· ≠ q) with
  | [] => none
  | _ :: rest => some (t.takeWhile (· ≠ q), rest)

def read? (t : Text) : Option (Text × Text) :=
  match t with
  | [] => none
  | c :: rest =>
    if isQuote c then upTo? c rest
    else if isBareChar c then some (t.takeWhile isBareChar, t.dropWhile isBareChar)
    else none

theorem length_of_upTo? {q : Char} {t name rest : Text} (h : upTo? q t = some (name, rest)) :
    rest.length < t.length := by
  unfold upTo? at h
  have hl := (List.dropWhile_sublist (· ≠ q) (l := t)).length_le
  split at h
  · cases h
  · next hd =>
      simp only [Option.some.injEq, Prod.mk.injEq] at h
      obtain ⟨_, rfl⟩ := h
      rw [hd] at hl
      simp only [List.length_cons] at hl
      omega

theorem length_of_read? {t name rest : Text} (h : read? t = some (name, rest)) :
    rest.length < t.length := by
  unfold read? at h
  split at h
  · cases h
  · next c u =>
      split at h
      · have := length_of_upTo? h
        simp only [List.length_cons]
        omega
      · split at h
        · next hb =>
            simp only [Option.some.injEq, Prod.mk.injEq] at h
            obtain ⟨_, rfl⟩ := h
            have := (List.dropWhile_sublist isBareChar (l := u)).length_le
            simp only [List.dropWhile_cons, hb, if_true, List.length_cons]
            omega
        · cases h

/-- Every segment in a text, whatever stands between them. -/
def allIn (t : Text) : List Text :=
  match h : read? t with
  | some (name, rest) =>
    have := length_of_read? h
    name :: allIn rest
  | none =>
    match t with
    | [] => []
    | _ :: rest => allIn rest
termination_by t.length

theorem allIn_of_read? {t name rest : Text} (h : read? t = some (name, rest)) :
    allIn t = name :: allIn rest := by
  rw [allIn]
  split
  · next h' =>
      rw [h] at h'
      cases h'
      rfl
  · next h' =>
      rw [h] at h'
      cases h'

theorem allIn_cons_of_none {c : Char} {t : Text} (h : read? (c :: t) = none) :
    allIn (c :: t) = allIn t := by
  rw [allIn]
  split
  · next h' =>
      rw [h] at h'
      cases h'
  · rfl

def dotted (names : List Text) : Text := Text.join ['.'] names

end Onboarding.Segment
