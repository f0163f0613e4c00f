import Onboarding.Text.Word
import Onboarding.Yaml.BlockScalar
import Onboarding.Yaml.PlainScalar
import Onboarding.Yaml.QuotedScalar
import Onboarding.Yaml.Tag

namespace Onboarding.Yaml

inductive Directive
  | version (major : Nat)
  | tagHandle (handle start : Text)
  | other
deriving DecidableEq, Repr

inductive Token
  | directive (d : Directive)
  | documentStart
  | documentEnd
  | blockSequence
  | blockMapping
  | blockEnd
  | flowSequence
  | flowSequenceEnd
  | flowMapping
  | flowMappingEnd
  | entry
  | flowEntry
  | key
  | value
  | reference (name : Text)
  | anchor (name : Text)
  | tag (t : Tag)
  | scalar (plain : Bool) (text : Text)
deriving DecidableEq, Repr

/-- The tokens of a text, up to its end or to the fault that keeps the next one from being read. -/
inductive Tokens
  | done
  | broken (f : Fault)
  | next (t : Token) (rest : Tokens)
deriving DecidableEq, Repr

namespace Tokens

def prepend (ts : List Token) (rest : Tokens) : Tokens := ts.foldr next rest

def tail : Tokens → Tokens
  | next _ rest => rest
  | ts => ts

def length : Tokens → Nat
  | done | broken _ => 0
  | next _ rest => rest.length + 1

end Tokens

/-- A place where a key may have begun without a mark: the number of the token, and whether it has to
be a key because it begins a line at the present indentation. -/
structure Candidate where
  number : Nat
  required : Bool
  index : Nat
  line : Nat
  column : Nat
deriving Repr

structure Lexer where
  cursor : Cursor
  /-- How many brackets are open. -/
  depth : Nat := 0
  indent : Int := -1
  indents : List Int := []
  allowKey : Bool := true
  /-- The candidates by depth. -/
  candidates : List (Nat × Candidate) := []
  /-- The tokens so far, the last one first. -/
  tokens : List Token := []
deriving Repr

namespace Lexer

def inFlow (x : Lexer) : Bool := x.depth != 0

def emit (t : Token) (x : Lexer) : Lexer := { x with tokens := t :: x.tokens }

def insert (number : Nat) (t : Token) (x : Lexer) : Lexer :=
  let later := x.tokens.length - number
  { x with tokens := x.tokens.take later ++ t :: x.tokens.drop later }

def move (s : Cursor) (x : Lexer) : Lexer := { x with cursor := s }

def skip (n : Nat) (x : Lexer) : Lexer := x.move (x.cursor.skip n)

def allow (b : Bool) (x : Lexer) : Lexer := { x with allowKey := b }

def forget (x : Lexer) : Except Fault Lexer :=
  match x.candidates.lookup x.depth with
  | some c =>
    if c.required then .error .malformed
    else .ok { x with candidates := x.candidates.filter (·.1 != x.depth) }
  | none => .ok x

/-- A candidate is given up when its line ends or after 1024 characters. -/
def isStale (x : Lexer) (c : Candidate) : Bool :=
  c.line != x.cursor.line || 1024 < x.cursor.index - c.index

def forgetStale (x : Lexer) : Except Fault Lexer :=
  if x.candidates.any fun c => x.isStale c.2 && c.2.required then .error .malformed
  else .ok { x with candidates := x.candidates.filter fun c => !x.isStale c.2 }

/-- The tokens in front of which no other can be put any more. -/
def certain (x : Lexer) : List Token :=
  let live := (x.candidates.map (·.2)).filter fun c => !x.isStale c
  x.tokens.reverse.take (live.foldl (fun n c => min n c.number) x.tokens.length)

def mayBeKey (x : Lexer) : Except Fault Lexer :=
  if x.allowKey then do
    let c : Candidate :=
      ⟨x.tokens.length, !x.inFlow && x.indent == x.cursor.column, x.cursor.index, x.cursor.line,
       x.cursor.column⟩
    let x ← x.forget
    return { x with candidates := (x.depth, c) :: x.candidates }
  else .ok x

def unwindTo (column : Int) : List Int → Lexer → Lexer
  | [], x => x
  | outer :: rest, x =>
    if !x.inFlow && column < x.indent then
      unwindTo column rest (emit .blockEnd { x with indent := outer, indents := rest })
    else x

def unwind (column : Int) (x : Lexer) : Lexer := unwindTo column x.indents x

def indentTo (column : Nat) (put : Lexer → Lexer) (x : Lexer) : Lexer :=
  if x.indent < column then put { x with indent := column, indents := x.indent :: x.indents } else x

def skipLayout : Nat → Lexer → Lexer
  | 0, x => x
  | fuel + 1, x =>
    let s := x.cursor.skipSpaces.skipComment
    if (s.peek 0).any isBreak then
      skipLayout fuel { x with cursor := s.lineBreak.2, allowKey := x.allowKey || !x.inFlow }
    else x.move s

def marker (t : Token) (x : Lexer) : Except Fault Lexer := do
  let x ← (x.unwind (-1)).forget
  return ((x.allow false).skip 3).emit t

def openFlow (t : Token) (x : Lexer) : Except Fault Lexer := do
  let x ← x.mayBeKey
  return (({ x with depth := x.depth + 1 }.allow true).skip 1).emit t

def closeFlow (t : Token) (x : Lexer) : Except Fault Lexer := do
  let x ← x.forget
  if x.depth = 0 then .error .malformed
  else return (({ x with depth := x.depth - 1 }.allow false).skip 1).emit t

def flowEntry (x : Lexer) : Except Fault Lexer := do
  let x ← (x.allow true).forget
  return (x.skip 1).emit .flowEntry

def beginBlock (t : Token) (x : Lexer) : Lexer := x.indentTo x.cursor.column (emit t)

def entry (x : Lexer) : Except Fault Lexer := do
  let x ←
    if x.inFlow then .ok x
    else if !x.allowKey then .error .malformed
    else .ok (x.beginBlock .blockSequence)
  let x ← (x.allow true).forget
  return (x.skip 1).emit .entry

def key (x : Lexer) : Except Fault Lexer := do
  let x ←
    if x.inFlow then .ok x
    else if !x.allowKey then .error .malformed
    else .ok (x.beginBlock .blockMapping)
  let x ← (x.allow !x.inFlow).forget
  return (x.skip 1).emit .key

/-- A colon makes a key of the candidate at its depth, if there is one. -/
def value (x : Lexer) : Except Fault Lexer := do
  match x.candidates.lookup x.depth with
  | some c =>
    let x := { x with candidates := x.candidates.filter (·.1 != x.depth) }.insert c.number .key
    let x := if x.inFlow then x else x.indentTo c.column (insert c.number .blockMapping)
    return ((x.allow false).skip 1).emit .value
  | none =>
    let x ←
      if x.inFlow then .ok x
      else if !x.allowKey then .error .malformed
      else .ok (x.beginBlock .blockMapping)
    let x ← (x.allow !x.inFlow).forget
    return (x.skip 1).emit .value

def isNameChar (c : Char) : Bool := Text.isAsciiAlnum c || c == '-' || c == '_'

def anchorName (s : Cursor) : Except Fault (Text × Cursor) :=
  let (name, s) := s.next.span isNameChar
  if !name.isEmpty && (s.blankAt 0 || (s.peek 0).any fun c => "?:,]\x7d%@\x60".toList.contains c) then
    .ok (name, s)
  else .error .malformed

def anchor (make : Text → Token) (x : Lexer) : Except Fault Lexer := do
  let x ← x.mayBeKey
  let (name, s) ← anchorName x.cursor
  return ((x.allow false).move s).emit (make name)

def tag (x : Lexer) : Except Fault Lexer := do
  let x ← x.mayBeKey
  let (t, s) ← Tag.read x.cursor
  return ((x.allow false).move s).emit (.tag t)

def blockScalar (folded : Bool) (x : Lexer) : Except Fault Lexer := do
  let x ← (x.allow true).forget
  let (text, s) ← BlockScalar.read folded x.indent x.cursor
  return (x.move s).emit (.scalar false text)

def quotedScalar (double : Bool) (x : Lexer) : Except Fault Lexer := do
  let x ← x.mayBeKey
  let (text, s) ← QuotedScalar.read double x.cursor
  return ((x.allow false).move s).emit (.scalar false text)

def plainScalar (x : Lexer) : Except Fault Lexer := do
  let x ← x.mayBeKey
  let (text, ended, s) := PlainScalar.read x.inFlow (x.indent + 1) x.cursor
  return ((x.allow ended).move s).emit (.scalar true text)

def versionNumber (s : Cursor) : Except Fault (Nat × Cursor) :=
  let (digits, s) := s.span Text.isAsciiDigit
  if Text.longestDecimal < digits.length then .error .noSuchScalar
  else match Text.natIn? 10 digits with
    | some n => .ok (n, s)
    | none => .error .malformed

def version (s : Cursor) : Except Fault (Directive × Cursor) := do
  let (major, s) ← versionNumber s.skipSpaces
  if !s.looksAt '.' then .error .malformed
  else
    let (_, s) ← versionNumber s.next
    if s.spaceAt 0 then return (.version major, s) else .error .malformed

def directiveBody (name : Text) (s : Cursor) : Except Fault (Directive × Cursor) :=
  if name = "YAML".toList then version s
  else if name = "TAG".toList then do
    let (handle, s) ← Tag.readHandle s.skipSpaces
    if !s.looksAt ' ' then .error .malformed
    else
      let (start, s) ← Tag.uri s.skipSpaces
      if s.spaceAt 0 then return (.tagHandle handle start, s) else .error .malformed
  else .ok (.other, s.toLineEnd)

def directive (x : Lexer) : Except Fault Lexer := do
  let x ← (x.unwind (-1)).forget
  let (name, s) := x.cursor.next.span isNameChar
  if name.isEmpty || !s.spaceAt 0 then .error .malformed
  else
    let (d, s) ← directiveBody name s
    return ((x.allow false).move (← s.endLine)).emit (.directive d)

def startsPlain (x : Lexer) (c : Char) : Bool :=
  !(isSpaceOrTab c || isBreak c || "-?:,[]\x7b\x7d#&*!|>'\"%@\x60".toList.contains c)
    || (!x.cursor.blankAt 1 && (c == '-' || (!x.inFlow && (c == '?' || c == ':'))))

def fetch (x : Lexer) (c : Char) : Except Fault Lexer :=
  let s := x.cursor
  let endsMark := x.inFlow || s.blankAt 1
  if c == '%' && s.column == 0 then x.directive
  else if s.column == 0 && s.looksAtText "---".toList && s.blankAt 3 then x.marker .documentStart
  else if s.column == 0 && s.looksAtText "...".toList && s.blankAt 3 then x.marker .documentEnd
  else if c == '[' then x.openFlow .flowSequence
  else if c == '\x7b' then x.openFlow .flowMapping
  else if c == ']' then x.closeFlow .flowSequenceEnd
  else if c == '\x7d' then x.closeFlow .flowMappingEnd
  else if c == ',' then x.flowEntry
  else if c == '-' && s.blankAt 1 then x.entry
  else if c == '?' && endsMark then x.key
  else if c == ':' && endsMark then x.value
  else if c == '*' then x.anchor .reference
  else if c == '&' then x.anchor .anchor
  else if c == '!' then x.tag
  else if c == '|' && !x.inFlow then x.blockScalar false
  else if c == '>' && !x.inFlow then x.blockScalar true
  else if c == '\'' then x.quotedScalar false
  else if c == '"' then x.quotedScalar true
  else if x.startsPlain c then x.plainScalar
  else .error .malformed

def advance (x : Lexer) : Except Fault (Bool × Lexer) := do
  let x ← (x.skipLayout (x.cursor.rest.length + 1)).forgetStale
  let x := x.unwind x.cursor.column
  match x.cursor.peek 0 with
  | none => return (false, ← (x.unwind (-1)).forget)
  | some c => return (true, ← x.fetch c)

/-- A token is handed over as soon as it is certain, so that a fault comes after these only. -/
def run : Nat → Lexer → Tokens
  | 0, x => .prepend x.certain (.broken .malformed)
  | fuel + 1, x =>
    match x.advance with
    | .error f => .prepend x.certain (.broken f)
    | .ok (false, x) => .prepend x.tokens.reverse .done
    | .ok (true, x) => run fuel x

end Lexer

def Tokens.ofText (t : Text) : Tokens :=
  if !t.all isAllowed then .broken .malformed
  else
    let s : Cursor := { rest := t }
    Lexer.run (t.length + 2) { cursor := if s.looksAt byteOrderMark then s.next else s }

end Onboarding.Yaml
