import Onboarding.Text.Basic
import Onboarding.Yaml.Fault

namespace Onboarding.Yaml

/-- Where reading stands: what is left, and the place of its first character. -/
structure Cursor where
  rest : Text
  index : Nat := 0
  line : Nat := 0
  column : Nat := 0
deriving Repr

def isBreak (c : Char) : Bool :=
  c == '\n' || c == '\r' || c.toNat == 0x85 || c.toNat == 0x2028 || c.toNat == 0x2029

def isSpaceOrTab (c : Char) : Bool := c == ' ' || c == '\t'

def byteOrderMark : Char := Char.ofNat 0xFEFF

namespace Cursor

def peek (s : Cursor) (n : Nat) : Option Char := s.rest[n]?

def looksAt (s : Cursor) (c : Char) : Bool := s.peek 0 == some c

def breakAt (s : Cursor) (n : Nat) : Bool := (s.peek n).all isBreak

def spaceAt (s : Cursor) (n : Nat) : Bool := (s.peek n).all fun c => c == ' ' || isBreak c

def blankAt (s : Cursor) (n : Nat) : Bool := (s.peek n).all fun c => isSpaceOrTab c || isBreak c

/-- A carriage return before a line feed ends no line, and a byte order mark has no width. -/
def next (s : Cursor) : Cursor :=
  match s.rest with
  | [] => s
  | c :: rest =>
    if isBreak c && !(c == '\r' && rest.head? == some '\n') then
      ⟨rest, s.index + 1, s.line + 1, 0⟩
    else ⟨rest, s.index + 1, s.line, if c = byteOrderMark then s.column else s.column + 1⟩

def skip : Nat → Cursor → Cursor
  | 0, s => s
  | n + 1, s => skip n s.next

def span (test : Char → Bool) (s : Cursor) : Text × Cursor :=
  let t := s.rest.takeWhile test
  (t, s.skip t.length)

def skipSpaces (s : Cursor) : Cursor := (s.span (· == ' ')).2

def toLineEnd (s : Cursor) : Cursor := (s.span fun c => !isBreak c).2

def skipComment (s : Cursor) : Cursor := if s.looksAt '#' then s.toLineEnd else s

/-- The break at the cursor, with every kind but the two separators read as a line feed. -/
def lineBreak (s : Cursor) : Text × Cursor :=
  match s.rest with
  | '\r' :: '\n' :: _ => (['\n'], s.skip 2)
  | c :: _ =>
    if !isBreak c then ([], s)
    else if c.toNat = 0x2028 ∨ c.toNat = 0x2029 then ([c], s.next)
    else (['\n'], s.next)
  | [] => ([], s)

def looksAtText (t : Text) (s : Cursor) : Bool := t.isPrefixOf s.rest

def atSeparator (s : Cursor) : Bool :=
  (s.looksAtText "---".toList || s.looksAtText "...".toList) && s.blankAt 3

def endLine (s : Cursor) : Except Fault Cursor :=
  let s := s.skipSpaces.skipComment
  if s.breakAt 0 then .ok s.lineBreak.2 else .error .malformed

end Cursor

def isAllowed (c : Char) : Bool :=
  let n := c.toNat
  n == 9 || n == 10 || n == 13 || n == 0x85 || (0x20 ≤ n && n ≤ 0x7E) || (0xA0 ≤ n && n ≤ 0xD7FF)
    || (0xE000 ≤ n && n ≤ 0xFFFD) || 0x10000 ≤ n

end Onboarding.Yaml
