import Onboarding.Config.Segment

namespace Onboarding.Header

def isTail (t : Text) : Bool := (Text.trimLeft t).head?.all (· == '#')

/-- What follows a segment: further ones, each behind a dot, and the text from the blanks before the
closing bracket on. -/
def moreSegments : Nat → Text → List Text × Text
  | 0, t => ([], t)
  | fuel + 1, t =>
    match Text.trimLeft t with
    | '.' :: rest =>
      match Segment.read? (Text.trimLeft rest) with
      | some (name, rest) =>
        let (names, rest) := moreSegments fuel rest
        (name :: names, rest)
      | none => ([], t)
    | _ => ([], t)

def segments? (t : Text) : Option (List Text × Text) :=
  match Segment.read? t with
  | some (name, rest) =>
    let (names, rest) := moreSegments rest.length rest
    some (name :: names, rest)
  | none => none

def dropOne (c : Char) : Text → Text
  | d :: rest => if d = c then rest else d :: rest
  | [] => []

/-- The text between the brackets of a header, from its first segment to its last, and these
segments. Either bracket may be doubled. -/
def parts? (t : Text) : Option (Text × List Text) :=
  match t with
  | '[' :: rest =>
    let inner := Text.trimLeft (dropOne '[' rest)
    match segments? inner with
    | some (names, behind) =>
      match Text.trimLeft behind with
      | ']' :: rest =>
        if isTail (dropOne ']' rest) then
          some (inner.take (inner.length - behind.length), names)
        else none
      | _ => none
    | none => none
  | _ => none

def path? (t : Text) : Option Text := (parts? t).map (·.1)

def name? (t : Text) : Option Text := (path? t).map fun p => Segment.dotted (Segment.allIn p)

end Onboarding.Header
