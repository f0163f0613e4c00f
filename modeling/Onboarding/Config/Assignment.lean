import Onboarding.Config.Segment

namespace Onboarding

structure Assignment where
  key : Text
  right : Text
deriving DecidableEq, Repr

namespace Assignment

def key? (t : Text) : Option (Text × Text) :=
  match t with
  | '"' :: rest => Segment.upTo? '"' rest
  | c :: _ =>
    if Segment.isBareChar c then
      some (t.takeWhile Segment.isBareChar, t.dropWhile Segment.isBareChar)
    else none
  | [] => none

def ofText? (t : Text) : Option Assignment :=
  match key? t with
  | some (key, rest) =>
    match Text.trimLeft rest with
    | '=' :: right => some ⟨key, right⟩
    | _ => none
  | none => none

def upToBracket (t : Text) : Text :=
  if t.contains ']' then (t.reverse.dropWhile (· ≠ ']')).reverse else t

/-- A text in quotes goes up to the next quote of its kind, a list up to the last bracket, and anything
else up to a comment. Without any text there is no value. -/
def value? (a : Assignment) : Option Text :=
  match Text.trim a.right with
  | [] => none
  | c :: rest =>
    if Segment.isQuote c then some (rest.takeWhile (· ≠ c))
    else if c = '[' then some (upToBracket (c :: rest))
    else some (Text.trim ((c :: rest).takeWhile (· ≠ '#')))

end Assignment

end Onboarding
