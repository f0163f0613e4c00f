import Onboarding.Text.Spans

namespace Onboarding

/-- Texts are lists of characters, so that what is said of them goes by recursion on their characters. -/
abbrev Text := List Char

namespace Text

def blankSpans : Spans :=
  [(0x9, 0xD), (0x1C, 0x20), (0x85, 0x85), (0xA0, 0xA0), (0x1680, 0x1680), (0x2000, 0x200A),
   (0x2028, 0x2029), (0x202F, 0x202F), (0x205F, 0x205F), (0x3000, 0x3000)]

def isBlank (c : Char) : Bool := blankSpans.covers c.toNat

theorem toNat_of_isBlank {c : Char} (h : isBlank c = true) : c.toNat ≤ 32 ∨ 133 ≤ c.toNat := by
  by_cases h' : c.toNat ≤ 32 ∨ 133 ≤ c.toNat
  · exact h'
  · exfalso
    revert h
    simp only [isBlank, blankSpans, Spans.covers]
    have h1 : ¬ c.toNat < 0x9 := by omega
    have h2 : ¬ c.toNat ≤ 0xD := by omega
    have h3 : ¬ c.toNat < 0x1C := by omega
    have h4 : ¬ c.toNat ≤ 0x20 := by omega
    have h5 : c.toNat < 0x85 := by omega
    simp [h1, h2, h3, h4, h5]

def allBlank (t : Text) : Bool := t.all isBlank

def trimLeft (t : Text) : Text := t.dropWhile isBlank

def trimRight (t : Text) : Text := (t.reverse.dropWhile isBlank).reverse

def trim (t : Text) : Text := trimRight (trimLeft t)

@[simp] theorem trimLeft_nil : trimLeft [] = [] := rfl

@[simp] theorem trimRight_nil : trimRight [] = [] := rfl

theorem trimLeft_cons (c : Char) (t : Text) :
    trimLeft (c :: t) = if isBlank c then trimLeft t else c :: t := by
  simp [trimLeft, List.dropWhile_cons]

theorem trimRight_concat (t : Text) (c : Char) :
    trimRight (t ++ [c]) = if isBlank c then trimRight t else t ++ [c] := by
  by_cases h : isBlank c <;> simp [trimRight, h]

/-- The pieces between the separators: one more than there are separators. -/
def splitOn (sep : Char) : Text → List Text
  | [] => [[]]
  | c :: rest =>
    if c = sep then [] :: splitOn sep rest
    else match splitOn sep rest with
      | [] => [[c]]
      | piece :: pieces => (c :: piece) :: pieces

theorem splitOn_ne_nil (sep : Char) (t : Text) : splitOn sep t ≠ [] := by
  cases t with
  | nil => simp [splitOn]
  | cons c rest =>
      simp only [splitOn]
      split
      · simp
      · split <;> simp

def dropEnd (c : Char) (t : Text) : Text :=
  if t.getLast? = some c then t.dropLast else t

def join (sep : Text) (pieces : List Text) : Text := List.intercalate sep pieces

def ofNat (n : Nat) : Text := Nat.toDigits 10 n

def ofInt : Int → Text
  | .ofNat n => ofNat n
  | .negSucc n => '-' :: ofNat (n + 1)

def drop? (start t : Text) : Option Text :=
  if start.isPrefixOf t then some (t.drop start.length) else none

end Text

end Onboarding
