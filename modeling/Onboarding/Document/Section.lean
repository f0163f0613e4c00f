import Onboarding.Document.Fence
import Onboarding.Text.Lowercase

namespace Onboarding

structure Heading where
  level : Nat
  title : Text
  line : Nat
deriving DecidableEq, Repr

namespace Heading

def openEnded (t : Text) : Text :=
  let shorter := (t.reverse.dropWhile (· == '#')).reverse
  if shorter.length < t.length && shorter.getLast?.any Text.isBlank then Text.trimRight shorter
  else t

def titleOf (rest : Text) : Text :=
  let body := Text.trimRight rest
  let title := openEnded body
  if title.isEmpty then body else title

/-- One to six hashes, at least one space, and something that is not blank. -/
def ofLine? (l : Line) : Option Heading :=
  let level := (l.text.takeWhile (· == '#')).length
  let behind := l.text.dropWhile (· == '#')
  let rest := behind.dropWhile (· == ' ')
  if 1 ≤ level && level ≤ 6 && behind.head? == some ' ' && !Text.allBlank rest then
    some ⟨level, titleOf rest, l.number⟩
  else none

end Heading

structure Section where
  title : Text
  level : Nat
  first : Nat
  last : Nat
deriving DecidableEq, Repr

namespace Section

/-- A section ends before the next heading that is no deeper, or with the last line. -/
def lastLine (last level : Nat) (later : List Heading) : Nat :=
  match later.find? (·.level ≤ level) with
  | some h => h.line - 1
  | none => last

def ofHeadings (last : Nat) : List Heading → List Section
  | [] => []
  | h :: later => ⟨h.title, h.level, h.line, lastLine last h.level later⟩ :: ofHeadings last later

def headings (ls : List Line) : List Heading := (Fence.prose ls).filterMap Heading.ofLine?

def scan (ls : List Line) : List Section :=
  match ls.getLast? with
  | none => []
  | some l => ofHeadings l.number (headings ls)

/-- Titles are told apart without blanks around them and in small letters. -/
def wanted (titles : List Text) : List Text := titles.map fun t => Text.lower (Text.trim t)

def find? (sections : List Section) (titles : List Text) : Option Section :=
  sections.find? fun s => (wanted titles).contains (Text.lower s.title)

end Section

end Onboarding
