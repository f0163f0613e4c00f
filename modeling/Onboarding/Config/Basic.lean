import Onboarding.Config.Assignment
import Onboarding.Config.Header
import Onboarding.Document.Line
import Onboarding.Table

namespace Onboarding

structure Config where
  topLevel : Table Text Text := []
  /-- The line of each key at the top level. -/
  keyLines : Table Text Nat := []
  sections : Table Text (Table Text Text) := []
deriving DecidableEq, Repr

namespace Config

inductive Entry
  | header (name : Text)
  | assignment (key value : Text)
  | other
deriving DecidableEq, Repr

def isComment (t : Text) : Bool := t.head?.all (· == '#')

/-- An assignment without a value is none. -/
def Entry.ofText (t : Text) : Entry :=
  let t := Text.trim t
  if isComment t then .other
  else match Header.name? t with
    | some name => .header name
    | none =>
      match Assignment.ofText? t with
      | some a =>
        match a.value? with
        | some v => .assignment a.key v
        | none => .other
      | none => .other

def openSection (name : Text) (c : Config) : Config :=
  if c.sections.has name then c else { c with sections := c.sections.insert name [] }

def assignTop (line : Nat) (key value : Text) (c : Config) : Config :=
  { c with topLevel := c.topLevel.insert key value, keyLines := c.keyLines.insert key line }

def assignIn (name key value : Text) (c : Config) : Config :=
  { c with sections := c.sections.insert name (((c.sections.get? name).getD []).insert key value) }

structure Reader where
  config : Config := {}
  current : Option Text := none
deriving DecidableEq, Repr

def Reader.next (r : Reader) (l : Line) : Reader :=
  match Entry.ofText l.text with
  | .header name => ⟨r.config.openSection name, some name⟩
  | .assignment key value =>
    match r.current with
    | none => { r with config := r.config.assignTop l.number key value }
    | some name => { r with config := r.config.assignIn name key value }
  | .other => r

def ofLines (ls : List Line) : Config := (ls.foldl Reader.next {}).config

def read (content : Text) : Config := ofLines (Line.index content)

def hasSectionUnder (start : Text) (c : Config) : Bool := c.sections.keys.any start.isPrefixOf

end Config

end Onboarding
