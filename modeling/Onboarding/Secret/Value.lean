import Onboarding.Text.Basic

namespace Onboarding.SecretValue

def isQuote (c : Char) : Bool := c == '"' || c == '\'' || c == '\x60'

def isBareChar (c : Char) : Bool := !(Text.isBlank c || isQuote c || c == ',' || c == ';')

def skipQuote : Text → Text
  | c :: rest => if c == '"' || c == '\'' then rest else c :: rest
  | [] => []

def behindSeparator? (t : Text) : Option Text :=
  match Text.trimLeft (skipQuote t) with
  | c :: rest => if c == ':' || c == '=' then some (Text.trimLeft rest) else none
  | [] => none

def bare? (t : Text) : Option (Text × Text) :=
  if t.head?.any isBareChar then some (t.takeWhile isBareChar, t.dropWhile isBareChar) else none

/-- The value that a text begins with, and the rest. A value between quotes goes up to the second one;
a quote that is not closed is left out of a bare value. -/
def read? (t : Text) : Option (Text × Text) :=
  match t with
  | q :: rest =>
    if isQuote q then
      match rest.dropWhile (· ≠ q) with
      | _ :: behind => some (rest.takeWhile (· ≠ q), behind)
      | [] => bare? rest
    else bare? t
  | [] => none

def behindKeyword? (t : Text) : Option (Text × Text) := (behindSeparator? t).bind read?

end Onboarding.SecretValue
