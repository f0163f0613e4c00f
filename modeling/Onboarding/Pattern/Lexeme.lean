import Onboarding.Pattern.Basic
import Onboarding.Text.Name
import Onboarding.Text.Numeral

namespace Onboarding.Pattern

inductive Fault
  | malformed
  /-- A repeat count that no repetition can reach. -/
  | countTooLarge
  /-- Both alphabets asked for at once. -/
  | mixedAlphabets
  /-- A character is given by its name. Which names there are is left out. -/
  | namedCharacter
deriving DecidableEq, Repr

/-- A character of a pattern, alone or after a backslash. -/
inductive Piece
  | plain (c : Char)
  | escaped (c : Char)
  | danglingBackslash
deriving DecidableEq, Repr

namespace Piece

def ofText : Text → List Piece
  | [] => []
  | ['\\'] => [.danglingBackslash]
  | '\\' :: c :: rest => .escaped c :: ofText rest
  | c :: rest => .plain c :: ofText rest

def toText : Piece → Text
  | .plain c => [c]
  | .escaped c => ['\\', c]
  | .danglingBackslash => ['\\']

end Piece

inductive Opening
  | plain
  | capture (name : Option Text)
  | atomic
  | look (behind negated : Bool)
  | ifNumber (i : Nat)
  | ifName (name : Text)
  | scoped (on off : List Flag)
deriving DecidableEq, Repr

inductive Lexeme
  | char (s : CharSet)
  | anyChar
  | anchor (a : Anchor)
  | backref (i : Nat)
  | namedBackref (name : Text)
  | bar
  | openGroup (o : Opening)
  | closeGroup
  | leadingFlags (f : Flag) (fs : List Flag)
  | quantifier (least : Nat) (most : Option Nat) (greed : Greed)
  | fault (f : Fault)
deriving DecidableEq, Repr

/-- The plain characters at the front that pass a test, at most `n` of them, and the rest. -/
def takePlain (test : Char → Bool) : Nat → List Piece → Text × List Piece
  | n + 1, .plain c :: rest =>
    if test c then
      let (taken, left) := takePlain test n rest
      (c :: taken, left)
    else ([], .plain c :: rest)
  | _, ps => ([], ps)

def isOctal (c : Char) : Bool := '0' ≤ c && c ≤ '7'

def isHex (c : Char) : Bool :=
  Text.isAsciiDigit c || ('a' ≤ c && c ≤ 'f') || ('A' ≤ c && c ≤ 'F')

def codeOf (base : Nat) (t : Text) : Nat := (Text.natIn? base t).getD 0

def hexCode? (n : Nat) (ps : List Piece) : Option (Nat × List Piece) :=
  let (digits, rest) := takePlain isHex n ps
  if digits.length = n ∧ codeOf 16 digits < 0x110000 then some (codeOf 16 digits, rest) else none

def controlCode? : Char → Option Nat
  | 'a' => some 7
  | 'f' => some 12
  | 'n' => some 10
  | 'r' => some 13
  | 't' => some 9
  | 'v' => some 11
  | _ => none

def category? : Char → Option Member
  | 'd' => some (.category false .digit)
  | 'D' => some (.category true .digit)
  | 's' => some (.category false .space)
  | 'S' => some (.category true .space)
  | 'w' => some (.category false .word)
  | 'W' => some (.category true .word)
  | _ => none

def anchor? : Char → Option Anchor
  | 'A' => some .textStart
  | 'Z' => some .textEnd
  | 'b' => some .wordBoundary
  | 'B' => some .noBoundary
  | _ => none

/-- The code point that an escaped character stands for by its letter or as itself. The escape
\N{NAME}, which gives it by its name, is not read. -/
def escapedCode? (c : Char) (ps : List Piece) : Option (Nat × List Piece) :=
  match controlCode? c with
  | some n => some (n, ps)
  | none =>
    if c = 'x' then hexCode? 2 ps
    else if c = 'u' then hexCode? 4 ps
    else if c = 'U' then hexCode? 8 ps
    else if Text.isAsciiLetter c || Text.isAsciiDigit c then none
    else some (c.toNat, ps)

/-- In a set, a backslash and digits are a code point of at most eight bits in octal. -/
def setEscape? (c : Char) (ps : List Piece) : Option (Member × List Piece) :=
  match category? c with
  | some m => some (m, ps)
  | none =>
    if c = 'b' then some (.span 8 8, ps)
    else if isOctal c then
      let (digits, rest) := takePlain isOctal 2 ps
      let n := codeOf 8 (c :: digits)
      if n < 0x100 then some (.span n n, rest) else none
    else (escapedCode? c ps).map fun (n, rest) => (.span n n, rest)

def setMember? : List Piece → Option (Member × List Piece)
  | .plain c :: ps => some (.span c.toNat c.toNat, ps)
  | .escaped c :: ps => setEscape? c ps
  | _ => none

def range? : Member → Member → Option Member
  | .span lo _, .span _ hi => if lo ≤ hi then some (.span lo hi) else none
  | _, _ => none

/-- A member, or a range that begins with it. A hyphen before the closing bracket is no range. -/
def rangeFrom? (m : Member) : List Piece → Option (Member × List Piece)
  | .plain '-' :: .plain ']' :: rest => some (m, .plain '-' :: .plain ']' :: rest)
  | .plain '-' :: rest =>
    (setMember? rest).bind fun (m', rest) => (range? m m').map fun r => (r, rest)
  | ps => some (m, ps)

def setItem? (ps : List Piece) : Option (Member × List Piece) :=
  (setMember? ps).bind fun (m, rest) => rangeFrom? m rest

def setMembers? : Nat → Bool → List Piece → Option (List Member × List Piece)
  | 0, _, _ => none
  | fuel + 1, first, ps =>
    if !first && ps.head? == some (.plain ']') then some ([], ps.tail)
    else
      (setItem? ps).bind fun (m, rest) =>
        (setMembers? fuel false rest).map fun (ms, rest) => (m :: ms, rest)

def setBody? (negated : Bool) (ps : List Piece) : Option (CharSet × List Piece) :=
  (setMembers? (ps.length + 1) true ps).map fun (ms, rest) => (⟨negated, ms⟩, rest)

def set? : List Piece → Option (CharSet × List Piece)
  | .plain '^' :: ps => setBody? true ps
  | ps => setBody? false ps

/-- Outside a set, three octal digits or a first zero make a code point, other digits the number of a
group. -/
def digitEscape? (c : Char) (ps : List Piece) : Option (Lexeme × List Piece) :=
  if c = '0' then
    let (digits, rest) := takePlain isOctal 2 ps
    some (.char (.single (codeOf 8 (c :: digits))), rest)
  else
    match takePlain Text.isAsciiDigit 1 ps with
    | ([d], rest) =>
      match takePlain isOctal 1 rest with
      | ([e], rest') =>
        if isOctal c && isOctal d then
          let n := codeOf 8 [c, d, e]
          if n < 0x100 then some (.char (.single n), rest') else none
        else some (.backref (codeOf 10 [c, d]), rest)
      | _ => some (.backref (codeOf 10 [c, d]), rest)
    | _ => some (.backref (codeOf 10 [c]), ps)

def escape? (c : Char) (ps : List Piece) : Option (Lexeme × List Piece) :=
  match category? c, anchor? c with
  | some m, _ => some (.char ⟨false, [m]⟩, ps)
  | none, some a => some (.anchor a, ps)
  | none, none =>
    if Text.isAsciiDigit c then digitEscape? c ps
    else (escapedCode? c ps).map fun (n, rest) => (.char (.single n), rest)

def nameUntil? (stop : Char) (ps : List Piece) : Option (Text × List Piece) :=
  let name := ps.takeWhile (· ≠ .plain stop)
  match ps.dropWhile (· ≠ .plain stop) with
  | [] => none
  | _ :: rest => if name.isEmpty then none else some (name.flatMap Piece.toText, rest)

def flag? : Char → Option Flag
  | 'i' => some .ignoreCase
  | 'm' => some .multiline
  | 's' => some .dotAll
  | 'x' => some .verbose
  | 'a' => some .ascii
  | 'u' => some .unicode
  | 't' => some .noRepeat
  | _ => none

def isAlphabet (f : Flag) : Bool := f == .ascii || f == .unicode

def flags? : Text → Option (List Flag) := fun t => t.mapM flag?

def isFlagLetter (c : Char) : Bool := (flag? c).isSome

def oneAlphabet (fs : List Flag) : Bool := !(fs.contains .ascii && fs.contains .unicode)

def flagsFrom? (ps : List Piece) : Option (List Flag × List Piece) :=
  let (letters, rest) := takePlain isFlagLetter ps.length ps
  (flags? letters).map fun fs => (fs, rest)

def flagsOff? (on : List Flag) (ps : List Piece) : Option (Lexeme × List Piece) :=
  (flagsFrom? ps).bind fun (off, rest) =>
    if off.isEmpty || off.any isAlphabet || off.contains .noRepeat || on.contains .noRepeat
      || on.any off.contains then none
    else match rest with
      | .plain ':' :: rest => some (.openGroup (.scoped on off), rest)
      | _ => none

def flagsOn? (on : List Flag) : List Piece → Option (Lexeme × List Piece)
  | .plain ')' :: rest =>
    match on with
    | [] => none
    | f :: fs => some (.leadingFlags f fs, rest)
  | .plain ':' :: rest =>
    if on.isEmpty || on.contains .noRepeat then none else some (.openGroup (.scoped on []), rest)
  | .plain '-' :: rest => flagsOff? on rest
  | _ => none

def flagGroup? (ps : List Piece) : Option (Lexeme × List Piece) :=
  (flagsFrom? ps).bind fun (on, rest) => if !oneAlphabet on then none else flagsOn? on rest

def groupLimit : Nat := 1073741823

def condition? (ps : List Piece) : Option (Lexeme × List Piece) := do
  let (name, rest) ← nameUntil? ')' ps
  if Text.isName name then return (.openGroup (.ifName name), rest)
  else match Text.intIn? 10 name with
    | some (.ofNat (n + 1)) =>
      if n + 1 < groupLimit then return (.openGroup (.ifNumber (n + 1)), rest) else none
    | _ => none

def identifierUntil? (stop : Char) (ps : List Piece) : Option (Text × List Piece) :=
  (nameUntil? stop ps).bind fun (name, rest) => if Text.isName name then some (name, rest) else none

def named? : List Piece → Option (Lexeme × List Piece)
  | .plain '<' :: rest =>
    (identifierUntil? '>' rest).map fun (name, rest) => (.openGroup (.capture (some name)), rest)
  | .plain '=' :: rest =>
    (identifierUntil? ')' rest).map fun (name, rest) => (.namedBackref name, rest)
  | _ => none

def extension? (ps : List Piece) : Option (Lexeme × List Piece) :=
  match ps with
  | .plain 'P' :: rest => named? rest
  | .plain ':' :: rest => some (.openGroup .plain, rest)
  | .plain '=' :: rest => some (.openGroup (.look false false), rest)
  | .plain '!' :: rest => some (.openGroup (.look false true), rest)
  | .plain '<' :: .plain '=' :: rest => some (.openGroup (.look true false), rest)
  | .plain '<' :: .plain '!' :: rest => some (.openGroup (.look true true), rest)
  | .plain '(' :: rest => condition? rest
  | .plain '>' :: rest => some (.openGroup .atomic, rest)
  | _ => flagGroup? ps

def greedOf : List Piece → Greed × List Piece
  | .plain '?' :: rest => (.lazy, rest)
  | .plain '+' :: rest => (.possessive, rest)
  | ps => (.greedy, ps)

def countLimit : Nat := 4294967295

/-- A count is as long as a decimal number can be at most, and within the limit. -/
def count (digits : Text) : Except Fault Nat :=
  if Text.longestDecimal < digits.length then .error .malformed
  else if countLimit ≤ codeOf 10 digits then .error .countTooLarge
  else .ok (codeOf 10 digits)

def bounds (lo : Text) : Option Text → Except Fault (Nat × Option Nat)
  | none => do return (← count lo, none)
  | some hi => do
    let least ← count lo
    let most ← count hi
    if most < least then .error .malformed else return (least, some most)

/-- A backslash that ends the pattern is seen before the counts are. -/
def quantified? (bounds : Except Fault (Nat × Option Nat)) (ps : List Piece) :
    Option (Lexeme × List Piece) :=
  if ps = [.danglingBackslash] then none
  else match bounds with
    | .error f => some (.fault f, ps)
    | .ok (least, most) =>
      let (greed, rest) := greedOf ps
      some (.quantifier least most greed, rest)

/-- The counts after an opening brace. What does not read as counts leaves the brace as it is. -/
def braced? (ps : List Piece) : Option (Lexeme × List Piece) :=
  let brace : Lexeme × List Piece := (.char (.single '\x7b'.toNat), ps)
  if ps.head? == some (.plain '\x7d') then some brace
  else
    let (lo, rest) := takePlain Text.isAsciiDigit ps.length ps
    match rest with
    | .plain ',' :: rest =>
      let (hi, rest) := takePlain Text.isAsciiDigit rest.length rest
      match rest with
      | .plain '\x7d' :: rest => quantified? (bounds lo (if hi.isEmpty then none else some hi)) rest
      | _ => some brace
    | .plain '\x7d' :: rest => quantified? (bounds lo (some lo)) rest
    | _ => some brace

def group? : List Piece → Option (Lexeme × List Piece)
  | .plain '?' :: rest => extension? rest
  | ps => some (.openGroup (.capture none), ps)

def plain? (c : Char) (ps : List Piece) : Option (Lexeme × List Piece) :=
  match c with
  | '[' => (set? ps).map fun (s, rest) => (.char s, rest)
  | '.' => some (.anyChar, ps)
  | '^' => some (.anchor .lineStart, ps)
  | '$' => some (.anchor .lineEnd, ps)
  | '|' => some (.bar, ps)
  | ')' => some (.closeGroup, ps)
  | '*' => quantified? (.ok (0, none)) ps
  | '+' => quantified? (.ok (1, none)) ps
  | '?' => quantified? (.ok (0, some 1)) ps
  | '\x7b' => braced? ps
  | '(' => group? ps
  | c => some (.char (.single c.toNat), ps)

/-- Whether blanks and comments are left out, for each open group, the innermost first. -/
abbrev Verbosity := List Bool

def Verbosity.after (v : Verbosity) : Lexeme → Verbosity
  | .openGroup (.scoped on off) =>
    ((v.headD false || on.contains .verbose) && !off.contains .verbose) :: v
  | .openGroup _ => v.headD false :: v
  | .closeGroup => v.tail
  | .leadingFlags f fs => (v.headD false || (f :: fs).contains .verbose) :: v.tail
  | _ => v

def isLayout (c : Char) : Bool := c == ' ' || (9 ≤ c.toNat && c.toNat ≤ 13)

def lineComment? (ps : List Piece) : Option (List Piece) :=
  match ps.dropWhile (· ≠ .plain '\n') with
  | _ :: rest => some rest
  | [] => if ps.getLast? = some .danglingBackslash then none else some []

def groupComment? (ps : List Piece) : Option (List Piece) :=
  match ps.dropWhile (· ≠ .plain ')') with
  | _ :: rest => some rest
  | [] => none

/-- What stands in front, a lexeme or else a blank or a comment, and what is left behind it. -/
def item? (v : Verbosity) : List Piece → Option (Option Lexeme × List Piece)
  | .plain c :: ps =>
    if v.headD false && isLayout c then some (none, ps)
    else if v.headD false && c == '#' then (lineComment? ps).map fun rest => (none, rest)
    else if c == '(' && ps.take 2 == [.plain '?', .plain '#'] then
      (groupComment? ps).map fun rest => (none, rest)
    else (plain? c ps).map fun (x, rest) => (some x, rest)
  | .escaped c :: ps => (escape? c ps).map fun (x, rest) => (some x, rest)
  | _ => none

def namesCharacter : List Piece → Bool
  | .escaped 'N' :: .plain '\x7b' :: _ => true
  | _ :: ps => namesCharacter ps
  | [] => false

/-- Why nothing can be read in front. A name further on may be in the set or behind the group there. -/
def refusal (ps : List Piece) : Fault := if namesCharacter ps then .namedCharacter else .malformed

/-- Where nothing can be read the last lexeme is a fault. -/
def lexemesFrom : Nat → Verbosity → List Piece → List Lexeme
  | 0, _, _ => []
  | _ + 1, _, [] => []
  | fuel + 1, v, p :: ps =>
    match item? v (p :: ps) with
    | some (some x, rest) => x :: lexemesFrom fuel (v.after x) rest
    | some (none, rest) => lexemesFrom fuel v rest
    | none => [.fault (refusal (p :: ps))]

def lexemes (t : Text) : List Lexeme := lexemesFrom (t.length + 1) [false] (Piece.ofText t)

end Onboarding.Pattern
