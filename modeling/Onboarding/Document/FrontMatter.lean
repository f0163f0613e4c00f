import Onboarding.Document.Line
import Onboarding.Table
import Onboarding.Text.Word

namespace Onboarding

inductive FrontMatter
  | absent
  | unclosed (first : Nat)
  | closed (first last : Nat) (fields : Table Text Text)
deriving DecidableEq, Repr

namespace FrontMatter

def marker : Text := ['-', '-', '-']

def isKeyStart (c : Char) : Bool := Text.isAsciiLetter c || c == '_'

def isKeyChar (c : Char) : Bool := Text.isWord c || c == '-'

/-- The key and the value of a line: after a colon comes a blank or nothing. -/
def field? (t : Text) : Option (Text × Text) :=
  let key := t.takeWhile isKeyChar
  match Text.trimLeft (t.dropWhile isKeyChar) with
  | ':' :: rest =>
    if t.head?.any isKeyStart && rest.head?.all Text.isBlank then some (key, Text.trim rest) else none
  | _ => none

inductive BlockStyle
  | literal | folded
deriving DecidableEq, Repr

def indicator? (value : Text) : Option BlockStyle :=
  match value with
  | ['|'] | ['|', '-'] | ['|', '+'] => some .literal
  | ['>'] | ['>', '-'] | ['>', '+'] => some .folded
  | _ => none

def BlockStyle.joint : BlockStyle → Text
  | .literal => ['\n']
  | .folded => [' ']

def unquoted (value : Text) : Text :=
  match value with
  | q :: rest =>
    if (q == '\'' || q == '"') && rest.getLast? == some q then rest.dropLast else value
  | [] => []

def continues (t : Text) : Bool := Text.allBlank t || t.head?.any Text.isBlank

def dropEmptyEnd (ts : List Text) : List Text := (ts.reverse.dropWhile List.isEmpty).reverse

def blockValue (style : BlockStyle) (ts : List Text) : Text :=
  Text.trim (Text.join style.joint (dropEmptyEnd (ts.map Text.trim)))

/-- The fields in the order of their lines, given whether the lines from here on may go on with a block. -/
def fieldsFrom : Bool → List Text → List (Text × Text)
  | _, [] => []
  | inBlock, t :: rest =>
    if inBlock && continues t then fieldsFrom true rest
    else
      match field? t with
      | none => fieldsFrom false rest
      | some (key, value) =>
        match indicator? value with
        | some style => (key, blockValue style (rest.takeWhile continues)) :: fieldsFrom true rest
        | none => (key, unquoted value) :: fieldsFrom false rest

def fieldsOf (ts : List Text) : List (Text × Text) := fieldsFrom false ts

theorem field?_eq_none_of_continues {t : Text} (h : continues t) : field? t = none := by
  cases t with
  | nil => rfl
  | cons c t =>
      have hb : Text.isBlank c = true := by
        simp only [continues, Text.allBlank, List.all_cons, List.head?_cons, Option.any_some,
          Bool.or_eq_true, Bool.and_eq_true] at h
        rcases h with ⟨h, _⟩ | h <;> exact h
      have hc : isKeyStart c = false := by
        cases hk : isKeyStart c with
        | false => rfl
        | true =>
            exfalso
            have hn := Text.toNat_of_isBlank hb
            simp only [isKeyStart, Bool.or_eq_true, beq_iff_eq] at hk
            rcases hk with hk | rfl
            · have := Text.toNat_of_isAsciiLetter hk
              omega
            · revert hn
              decide
      simp only [field?, List.head?_cons, Option.any_some, hc, Bool.false_and]
      split <;> simp_all

def ofLines : List Line → FrontMatter
  | [] => .absent
  | l :: rest =>
    if l.text = marker then
      match rest.find? (·.text = marker) with
      | none => .unclosed l.number
      | some m =>
        .closed l.number m.number
          (Table.ofList (fieldsOf ((rest.takeWhile (·.text ≠ marker)).map (·.text))))
    else .absent

def body (ls : List Line) : FrontMatter → List Line
  | .closed _ last _ => ls.drop last
  | _ => ls

end FrontMatter

end Onboarding
