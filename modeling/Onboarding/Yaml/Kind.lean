import Onboarding.Text.Word
import Onboarding.Yaml.Moment

namespace Onboarding.Yaml

inductive Kind
  | text | null | bool | int | float | moment | bytes
  | list | map | set | pairs | orderedPairs
  /-- The key under which another map's entries are taken over. -/
  | merge
  /-- The key that is an equals sign. -/
  | equals
  | unknown
deriving DecidableEq, Repr

namespace Kind

def standardStart : Text := "tag:yaml.org,2002:".toList

def standardNames : List (Text × Kind) :=
  [("str".toList, .text), ("null".toList, .null), ("bool".toList, .bool), ("int".toList, .int),
   ("float".toList, .float), ("timestamp".toList, .moment), ("binary".toList, .bytes),
   ("seq".toList, .list), ("map".toList, .map), ("set".toList, .set), ("pairs".toList, .pairs),
   ("omap".toList, .orderedPairs), ("merge".toList, .merge), ("value".toList, .equals)]

def ofTag (t : Text) : Kind :=
  match Text.drop? standardStart t with
  | some name => (standardNames.lookup name).getD .unknown
  | none => .unknown

def nullWords : List Text := ["".toList, "~".toList, "null".toList, "Null".toList, "NULL".toList]

def boolWords : List Text :=
  ["yes", "Yes", "YES", "no", "No", "NO", "true", "True", "TRUE", "false", "False", "FALSE",
   "on", "On", "ON", "off", "Off", "OFF"].map (·.toList)

def unsigned : Text → Text
  | '+' :: t | '-' :: t => t
  | t => t

def isDigitOrBar (c : Char) : Bool := Text.isAsciiDigit c || c == '_'

def startsWithDigit (t : Text) : Bool := t.head?.any Text.isAsciiDigit

def isDigits (t : Text) : Bool := startsWithDigit t && t.all isDigitOrBar

/-- A part of a number to the base sixty. -/
def isSixtieth : Text → Bool
  | [c] => Text.isAsciiDigit c
  | [c, d] => '0' ≤ c && c ≤ '5' && Text.isAsciiDigit d
  | _ => false

def isCount (t : Text) : Bool := isDigits t && t.head? != some '0'

def isInt (t : Text) : Bool :=
  match unsigned t with
  | ['0'] => true
  | '0' :: 'b' :: rest => !rest.isEmpty && rest.all fun c => c == '0' || c == '1' || c == '_'
  | '0' :: 'x' :: rest => !rest.isEmpty && rest.all fun c =>
      Text.isAsciiDigit c || ('a' ≤ c && c ≤ 'f') || ('A' ≤ c && c ≤ 'F') || c == '_'
  | '0' :: rest => !rest.isEmpty && rest.all fun c => ('0' ≤ c && c ≤ '7') || c == '_'
  | rest =>
    match Text.splitOn ':' rest with
    | whole :: parts => isCount whole && parts.all isSixtieth
    | [] => false

def isExponent : Text → Bool
  | [] => true
  | e :: sign :: digits =>
    (e == 'e' || e == 'E') && (sign == '+' || sign == '-') && !digits.isEmpty
      && digits.all Text.isAsciiDigit
  | _ => false

def isInfinity (t : Text) : Bool :=
  [".inf".toList, ".Inf".toList, ".INF".toList].contains (unsigned t)

def isNaN (t : Text) : Bool := [".nan".toList, ".NaN".toList, ".NAN".toList].contains t

def isFraction (t : Text) : Bool :=
  let rest := unsigned t
  match rest.dropWhile isDigitOrBar with
  | '.' :: part => startsWithDigit rest && isExponent (part.dropWhile isDigitOrBar)
  | _ => false

def isPointFraction : Text → Bool
  | '.' :: part => startsWithDigit part && isExponent (part.dropWhile isDigitOrBar)
  | _ => false

def isSixtiethFraction (t : Text) : Bool :=
  let whole := (unsigned t).takeWhile (· != '.')
  match (unsigned t).dropWhile (· != '.') with
  | '.' :: part =>
    part.all isDigitOrBar &&
      match Text.splitOn ':' whole with
      | first :: p :: parts => isDigits first && (p :: parts).all isSixtieth
      | _ => false
  | _ => false

def isFloat (t : Text) : Bool :=
  isFraction t || isPointFraction t || isSixtiethFraction t || isInfinity t || isNaN t

/-- Only a day with all its digits, or one with a time, is read as such without a tag. -/
def isMoment (t : Text) : Bool :=
  match Moment.read? t with
  | some m => m.time.isSome || t.length == 10
  | none => false

def ofWord (t : Text) : Kind :=
  if boolWords.contains t then .bool
  else if isFloat t then .float
  else if isInt t then .int
  else if t = "<<".toList then .merge
  else if nullWords.contains t then .null
  else if isMoment t then .moment
  else if t = "=".toList then .equals
  else if t = "!".toList ∨ t = "&".toList ∨ t = "*".toList then .unknown
  else .text

/-- The kind of a scalar without a tag and without quotes. A line feed at its end makes no difference. -/
def ofPlain (t : Text) : Kind := if t = ['\n'] then .text else ofWord (Text.dropEnd '\n' t)

end Kind

end Onboarding.Yaml
