import Onboarding.Document.Line

namespace Onboarding.Fence

def mark : Text := ['\x60', '\x60', '\x60']

def isFence (t : Text) : Bool := mark.isPrefixOf (Text.trimLeft t)

def proseFrom : Bool → List Line → List Line
  | _, [] => []
  | inside, l :: rest =>
    if isFence l.text then proseFrom (!inside) rest
    else if inside then proseFrom inside rest
    else l :: proseFrom inside rest

def prose (ls : List Line) : List Line := proseFrom false ls

def countFrom : Bool → List Line → Nat
  | _, [] => 0
  | inside, l :: rest =>
    if isFence l.text then (if inside then 0 else 1) + countFrom (!inside) rest
    else countFrom inside rest

/-- A block without an end counts too. -/
def count (ls : List Line) : Nat := countFrom false ls

end Onboarding.Fence
