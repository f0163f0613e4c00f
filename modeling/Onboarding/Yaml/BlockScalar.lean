import Onboarding.Yaml.Cursor

namespace Onboarding.Yaml.BlockScalar

/-- What becomes of the last break and the empty lines after it. -/
inductive Chomping
  | strip | clip | keep
deriving DecidableEq, Repr

def Chomping.apply (text last tail : Text) : Chomping → Text
  | .strip => text
  | .clip => text ++ last
  | .keep => text ++ last ++ tail

structure Header where
  chomping : Chomping := .clip
  increment : Option Nat := none
deriving Repr

def chomping? (s : Cursor) : Option Chomping :=
  match s.peek 0 with
  | some '+' => some .keep
  | some '-' => some .strip
  | _ => none

def increment? (s : Cursor) : Option Nat :=
  match s.peek 0 with
  | some c => if '0' ≤ c && c ≤ '9' then some (c.toNat - '0'.toNat) else none
  | none => none

def header (s : Cursor) : Except Fault (Header × Cursor) := do
  let (h, s) : Header × Cursor :=
    match chomping? s with
    | some k =>
      match increment? s.next with
      | some n => (⟨k, some n⟩, s.skip 2)
      | none => (⟨k, none⟩, s.next)
    | none =>
      match increment? s with
      | some n =>
        match chomping? s.next with
        | some k => (⟨k, some n⟩, s.skip 2)
        | none => (⟨.clip, some n⟩, s.next)
      | none => ({}, s)
  if h.increment = some 0 ∨ !s.spaceAt 0 then .error .malformed
  else return (h, ← s.endLine)

/-- The empty lines before the first line, the widest indentation among these, and the place. -/
def leading : Nat → Nat → Cursor → Text × Nat × Cursor
  | 0, widest, s => ([], widest, s)
  | fuel + 1, widest, s =>
    match s.peek 0 with
    | some c =>
      if c == ' ' then leading fuel (max widest s.next.column) s.next
      else if isBreak c then
        let (b, s) := s.lineBreak
        let (more, widest, s) := leading fuel widest s
        (b ++ more, widest, s)
      else ([], widest, s)
    | none => ([], widest, s)

def skipIndent (indent : Nat) : Nat → Cursor → Cursor
  | 0, s => s
  | fuel + 1, s =>
    if s.column < indent && s.looksAt ' ' then skipIndent indent fuel s.next else s

def breaks (indent : Nat) : Nat → Cursor → Text × Cursor
  | 0, s => ([], s)
  | fuel + 1, s =>
    let s := skipIndent indent indent s
    if (s.peek 0).any isBreak then
      let (b, s) := s.lineBreak
      let (more, s) := breaks indent fuel s
      (b ++ more, s)
    else ([], s)

/-- The lines from here on, given the empty lines before the first. With the text come the last break
and the empty lines after it. Folding turns a single line feed between two lines that start with no
blank into a space. -/
def lines (folded : Bool) (indent : Nat) : Nat → Text → Cursor → Text × Text × Text × Cursor
  | 0, before, s => ([], [], before, s)
  | fuel + 1, before, s =>
    let (here, s') := s.span fun c => !isBreak c
    let (b, s') := s'.lineBreak
    let (after, s') := breaks indent (s'.rest.length + 1) s'
    if s'.column = indent ∧ !s'.rest.isEmpty then
      let folds := folded && b == ['\n'] && !(s.peek 0).any isSpaceOrTab
        && !(s'.peek 0).any isSpaceOrTab
      let joint := if folds then (if after.isEmpty then [' '] else []) else b
      let (more, last, tail, s') := lines folded indent fuel after s'
      (before ++ here ++ joint ++ more, last, tail, s')
    else (before ++ here, b, after, s')

def start (least : Nat) (increment : Option Nat) (s : Cursor) : Nat × Text × Cursor :=
  let fuel := s.rest.length + 1
  match increment with
  | none =>
    let (before, widest, s) := leading fuel 0 s
    (max least widest, before, s)
  | some n =>
    let width := least + n - 1
    let (before, s) := breaks width fuel s
    (width, before, s)

def content (folded : Bool) (width : Nat) (before : Text) (s : Cursor) :
    Text × Text × Text × Cursor :=
  if s.column = width ∧ !s.rest.isEmpty then lines folded width (s.rest.length + 1) before s
  else ([], [], before, s)

def read (folded : Bool) (indent : Int) (s : Cursor) : Except Fault (Text × Cursor) := do
  let (h, s) ← header s.next
  let (width, before, s) := start (max 1 (indent + 1).toNat) h.increment s
  let (text, last, tail, s) := content folded width before s
  return (h.chomping.apply text last tail, s)

end Onboarding.Yaml.BlockScalar
