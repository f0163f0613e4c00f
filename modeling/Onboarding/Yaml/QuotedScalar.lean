import Onboarding.Text.Numeral
import Onboarding.Yaml.Cursor

namespace Onboarding.Yaml.QuotedScalar

def escapeCode? : Char → Option Nat
  | '0' => some 0
  | 'a' => some 7
  | 'b' => some 8
  | 't' | '\t' => some 9
  | 'n' => some 10
  | 'v' => some 11
  | 'f' => some 12
  | 'r' => some 13
  | 'e' => some 27
  | ' ' => some 32
  | '"' => some 34
  | '\\' => some 92
  | '/' => some 47
  | 'N' => some 0x85
  | '_' => some 0xA0
  | 'L' => some 0x2028
  | 'P' => some 0x2029
  | _ => none

def escapeLength? : Char → Option Nat
  | 'x' => some 2
  | 'u' => some 4
  | 'U' => some 8
  | _ => none

def isHexDigit (c : Char) : Bool :=
  ('0' ≤ c && c ≤ '9') || ('a' ≤ c && c ≤ 'f') || ('A' ≤ c && c ≤ 'F')

def wideFault (code : Nat) : Fault := if code < 0x80000000 then .noSuchScalar else .numberTooLarge

def hexEscape (n : Nat) (s : Cursor) : Except Fault (Text × Cursor) :=
  let digits := s.rest.take n
  if digits.length = n ∧ digits.all isHexDigit then
    let code := (Text.natIn? 16 digits).getD 0
    if 0x110000 ≤ code then .error (wideFault code)
    else if 0xD800 ≤ code ∧ code < 0xE000 then .error .uncovered
    else .ok ([Char.ofNat code], s.skip n)
  else .error .malformed

def emptyLines : Nat → Cursor → Except Fault (Text × Cursor)
  | 0, _ => .error .malformed
  | fuel + 1, s =>
    if s.atSeparator then .error .malformed
    else
      let s := (s.span isSpaceOrTab).2
      if (s.peek 0).any isBreak then do
        let (b, s) := s.lineBreak
        let (more, s) ← emptyLines fuel s
        return (b ++ more, s)
      else .ok ([], s)

/-- Blanks within the quotes. Those around a break give way to what the break stands for. -/
def spaces (s : Cursor) : Except Fault (Text × Cursor) := do
  let (blank, s) := s.span isSpaceOrTab
  match s.peek 0 with
  | none => .error .malformed
  | some c =>
    if isBreak c then
      let (b, s) := s.lineBreak
      let (more, s) ← emptyLines (s.rest.length + 1) s
      return ((if b ≠ ['\n'] then b else if more.isEmpty then [' '] else []) ++ more, s)
    else return (blank, s)

def escape (s : Cursor) : Except Fault (Text × Cursor) :=
  match s.peek 0 with
  | none => .error .malformed
  | some c =>
    match escapeCode? c, escapeLength? c with
    | some n, _ => .ok ([Char.ofNat n], s.next)
    | none, some n => hexEscape n s.next
    | none, none =>
      if isBreak c then
        let s := s.lineBreak.2
        emptyLines (s.rest.length + 1) s
      else .error .malformed

def body (double : Bool) : Nat → Cursor → Except Fault (Text × Cursor)
  | 0, _ => .error .malformed
  | fuel + 1, s => do
    match s.peek 0 with
    | none => .error .malformed
    | some c =>
      if c == '\'' && !double && s.peek 1 == some '\'' then
        let (more, s) ← body double fuel (s.skip 2)
        return ('\'' :: more, s)
      else if c == (if double then '"' else '\'') then return ([], s.next)
      else
        let (piece, s) ←
          if double && c == '\\' then escape s.next
          else if isSpaceOrTab c || isBreak c then spaces s
          else .ok ([c], s.next)
        let (more, s) ← body double fuel s
        return (piece ++ more, s)

def read (double : Bool) (s : Cursor) : Except Fault (Text × Cursor) :=
  body double (s.rest.length + 1) s.next

end Onboarding.Yaml.QuotedScalar
