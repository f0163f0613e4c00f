import Onboarding.Text.Alike
import Onboarding.Text.Basic

namespace Onboarding.Placeholder

def line (t : Text) : Text := Text.dropEnd '\n' t

def isMaskChar (c : Char) : Bool := c == 'x' || c == 'X' || c == '*' || c == '.'

def isMask (t : Text) : Bool := !t.isEmpty && t.all isMaskChar

def isNameStart (c : Char) : Bool := Text.isAsciiLetter c || c == '_'

def isNameChar (c : Char) : Bool := Text.isAsciiAlnum c || c == '_'

/-- A name of an environment variable, which a brace may precede or follow. -/
def isVariable (t : Text) : Bool :=
  match t with
  | '$' :: rest =>
    let name :=
      match rest with
      | '\x7b' :: rest => rest
      | _ => rest
    name.head?.any isNameStart &&
      match name.dropWhile isNameChar with
      | [] | ['\x7d'] => true
      | _ => false
  | _ => false

def isBracketed (t : Text) : Bool :=
  match t with
  | '<' :: rest => rest.dropWhile (· ≠ '>') == ['>']
  | _ => false

def hasShape (t : Text) : Bool := isMask (line t) || isVariable (line t) || isBracketed (line t)

def isPlaceholder (listed : List Text) (t : Text) : Bool :=
  (listed.map Text.lower).contains (Text.lower t) || hasShape t

end Onboarding.Placeholder
