import Onboarding.Pattern.Basic

namespace Onboarding.Pattern

/-- A place in a text, with what the groups have matched so far: the latest text of a group stands
first. -/
structure Place where
  /-- The text before, its last character first. -/
  before : Text
  after : Text
  groups : List (Nat × Text)
deriving DecidableEq, Repr

namespace Place

def start (t : Text) : Place := ⟨[], t, []⟩

def forward? (s : Place) : Option (Char × Place) :=
  match s.after with
  | [] => none
  | c :: rest => some (c, { s with before := c :: s.before, after := rest })

def back? : Nat → Place → Option Place
  | 0, s => some s
  | n + 1, s =>
    match s.before with
    | [] => none
    | c :: rest => back? n { s with before := rest, after := c :: s.after }

def moveTo (rest : Text) (s : Place) : Place :=
  ⟨(s.after.take (s.after.length - rest.length)).reverse ++ s.before, rest, []⟩

def between (s t : Place) : Text := (t.before.take (t.before.length - s.before.length)).reverse

def capture (i : Nat) (s t : Place) : Place := { t with groups := (i, s.between t) :: t.groups }

def wordAt (ascii : Bool) (side : Text) : Bool :=
  match side with
  | [] => false
  | c :: _ => Category.word.holds ascii c

/-- No boundary, and no place that is none, is in the empty text. -/
def atAnchor (fs : Flags) (s : Place) : Anchor → Bool
  | .lineStart => s.before.isEmpty || (fs.multiline && s.before.head? == some '\n')
  | .lineEnd => s.after.isEmpty || s.after == ['\n'] || (fs.multiline && s.after.head? == some '\n')
  | .textStart => s.before.isEmpty
  | .textEnd => s.after.isEmpty
  | .wordBoundary => wordAt fs.ascii s.before != wordAt fs.ascii s.after
  | .noBoundary =>
    !(s.before.isEmpty && s.after.isEmpty) && wordAt fs.ascii s.before == wordAt fs.ascii s.after

def sameLetter (fs : Flags) (c d : Char) : Bool :=
  if fs.ignoreCase then
    if fs.ascii then Text.asciiLowerChar c == Text.asciiLowerChar d
    else Text.lowerChar c == Text.lowerChar d
  else c == d

def along (fs : Flags) : Text → Place → Option Place
  | [], s => some s
  | c :: rest, s =>
    match s.forward? with
    | some (d, t) => if sameLetter fs c d then along fs rest t else none
    | none => none

end Place

/-- What may follow is tried for each way to match, in order, until it succeeds. -/
abbrev Step (α : Type) := Place → (Place → Option α) → Option α

variable {α : Type}

def exactly (step : Step α) : Nat → Step α
  | 0, s, k => k s
  | n + 1, s, k => step s fun t => exactly step n t k

def mayRepeat : Option Nat → Bool
  | some 0 => false
  | _ => true

/-- As many rounds as possible first. A round that matches nothing is the last one, so one round more
than there are characters left is enough. -/
def greedily (step : Step α) : Nat → Option Nat → Step α
  | 0, _, s, k => k s
  | fuel + 1, most, s, k =>
    if mayRepeat most then
      (step s fun t =>
        if t.after.length < s.after.length then greedily step fuel (most.map (· - 1)) t k else k t)
        <|> k s
    else k s

def lazily (step : Step α) : Nat → Option Nat → Step α
  | 0, _, s, k => k s
  | fuel + 1, most, s, k =>
    k s <|>
      if mayRepeat most then
        step s fun t =>
          if t.after.length < s.after.length then lazily step fuel (most.map (· - 1)) t k else k t
      else none

def possessively (first : Place → Option Place) : Nat → Option Nat → Place → Place
  | 0, _, s => s
  | fuel + 1, most, s =>
    if mayRepeat most then
      match first s with
      | some t =>
        if t.after.length < s.after.length then possessively first fuel (most.map (· - 1)) t else t
      | none => s
    else s

def firstly (first : Place → Option Place) : Nat → Place → Option Place
  | 0, s => some s
  | n + 1, s => (first s).bind (firstly first n)

/-- Tries the ways to match from a place in the order of preference, and gives what `k` makes of the
first that it accepts. -/
def Expr.run (p : Expr) (fs : Flags) : {α : Type} → Step α :=
  fun {α} s k =>
  match p with
  | .empty => k s
  | .char set =>
    match s.forward? with
    | some (c, t) => if set.holds fs c then k t else none
    | none => none
  | .anyChar =>
    match s.forward? with
    | some (c, t) => if fs.dotAll || c != '\n' then k t else none
    | none => none
  | .anchor a => if s.atAnchor fs a then k s else none
  | .seq p q => p.run fs s fun t => q.run fs t k
  | .alt p q => p.run fs s k <|> q.run fs s k
  | .group i p => p.run fs s fun t => k (Place.capture i s t)
  | .backref i =>
    match s.groups.lookup i with
    | some text => (Place.along fs text s).bind k
    | none => none
  | .ifGroup i yes no =>
    if (s.groups.lookup i).isSome then yes.run fs s k else no.run fs s k
  | .look behind negated p =>
    let found := (Place.back? (behind.getD 0) s).bind fun t => p.run fs t some
    if negated then (if found.isSome then none else k s)
    else found.bind fun t => k { s with groups := t.groups }
  | .atomic p => (p.run fs s some).bind k
  | .scoped on off p => p.run (fs.change on off) s k
  | .repeated p least most greed =>
    match greed with
    | .greedy =>
      exactly (p.run fs (α := α)) least s fun t =>
        greedily (p.run fs) (t.after.length + 1) (most.map (· - least)) t k
    | .lazy =>
      exactly (p.run fs (α := α)) least s fun t =>
        lazily (p.run fs) (t.after.length + 1) (most.map (· - least)) t k
    | .possessive =>
      (firstly (fun t => p.run fs t some) least s).bind fun t =>
        k (possessively (fun u => p.run fs u some) (t.after.length + 1) (most.map (· - least)) t)
termination_by structural p

end Onboarding.Pattern
