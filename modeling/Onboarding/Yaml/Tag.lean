import Onboarding.Text.Utf8
import Onboarding.Yaml.QuotedScalar

namespace Onboarding.Yaml

/-- A tag as it is written: the suffix alone, or behind a shorthand for what it starts with. -/
structure Tag where
  shorthand : Option Text
  suffix : Text
deriving DecidableEq, Repr

namespace Tag

def isNameChar (c : Char) : Bool := Text.isAsciiAlnum c || c == '-' || c == '_'

def isUriChar (c : Char) : Bool :=
  Text.isAsciiAlnum c || "-;/?:@&=+$,_.!~*'()[]%".toList.contains c

def readHandle (s : Cursor) : Except Fault (Text × Cursor) :=
  if !s.looksAt '!' then .error .malformed
  else if s.next.looksAt ' ' then .ok (['!'], s.next)
  else
    let (name, s) := s.next.span isNameChar
    if s.looksAt '!' then .ok ('!' :: name ++ ['!'], s.next) else .error .malformed

def escapedBytes : Nat → Text → Except Fault (List Nat)
  | fuel + 1, '%' :: a :: b :: rest =>
    if QuotedScalar.isHexDigit a && QuotedScalar.isHexDigit b then do
      return (Text.natIn? 16 [a, b]).getD 0 :: (← escapedBytes fuel rest)
    else .error .malformed
  | _, '%' :: _ => .error .malformed
  | _, _ => .ok []

def uriFrom : Nat → Cursor → Except Fault (Text × Cursor)
  | 0, _ => .error .malformed
  | fuel + 1, s =>
    match s.peek 0 with
    | some c =>
      if c == '%' then do
        let bytes ← escapedBytes s.rest.length s.rest
        match Text.ofUtf8? bytes with
        | none => .error .malformed
        | some t =>
          let (more, s) ← uriFrom fuel (s.skip (3 * bytes.length))
          return (t ++ more, s)
      else if isUriChar c then do
        let (more, s) ← uriFrom fuel s.next
        return (c :: more, s)
      else .ok ([], s)
    | none => .ok ([], s)

def uri (s : Cursor) : Except Fault (Text × Cursor) := do
  if (s.peek 0).any isUriChar then uriFrom (s.rest.length + 1) s else .error .malformed

/-- Whether an exclamation mark stands in the word at the cursor, which then begins with a handle. -/
def hasHandle (s : Cursor) : Bool :=
  (s.rest.takeWhile fun c => !(c == ' ' || isBreak c)).contains '!'

def read (s : Cursor) : Except Fault (Tag × Cursor) := do
  let (t, s) : Tag × Cursor ←
    if s.next.looksAt '<' then do
      let (t, s) ← uri (s.skip 2)
      if s.looksAt '>' then pure (⟨none, t⟩, s.next) else .error .malformed
    else if s.blankAt 1 then pure (⟨none, ['!']⟩, s.next)
    else if hasHandle s.next then do
      let (h, s) ← readHandle s
      let (t, s) ← uri s
      pure (⟨some h, t⟩, s)
    else do
      let (t, s) ← uri s.next
      pure (⟨some ['!'], t⟩, s)
  if s.spaceAt 0 then return (t, s) else .error .malformed

end Tag

end Onboarding.Yaml
