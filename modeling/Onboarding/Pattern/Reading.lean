import Onboarding.Pattern.Lexeme

namespace Onboarding

/-- An expression with the flags that it sets for itself as a whole and the names of its groups. -/
structure Pattern where
  leading : List Pattern.Flag
  names : List Text
  expr : Pattern.Expr
deriving DecidableEq, Repr

namespace Pattern

/-- A group that is still open: what its branches were so far, and the items of the present one, both
with the last one first. -/
structure Frame where
  opening : Opening
  /-- The number of a capturing group, or of the group that a condition asks for. -/
  index : Nat
  /-- The groups that may be referred to, where only some of them may. -/
  limit : Option Nat
  branches : List Expr
  items : List Expr
deriving DecidableEq, Repr

namespace Frame

def whole : Frame := ⟨.plain, 0, none, [], []⟩

def finished (f : Frame) : Expr := .ofBranches (.ofReversed f.items :: f.branches)

def push (p : Expr) (f : Frame) : Frame := { f with items := p :: f.items }

def bar (f : Frame) : Except Fault Frame :=
  match f.opening, f.branches with
  | .ifNumber _, _ :: _ => .error .malformed
  | _, branches => .ok { f with branches := .ofReversed f.items :: branches, items := [] }

def quantify (least : Nat) (most : Option Nat) (greed : Greed) (f : Frame) : Except Fault Frame :=
  match f.items with
  | [] | .anchor _ :: _ | .repeated .. :: _ => .error .malformed
  | p :: before => .ok { f with items := .repeated p least most greed :: before }

end Frame

structure Reader where
  frame : Frame := .whole
  /-- The frames around the present one are below it; the whole pattern's is the last one. -/
  outer : List Frame := []
  names : List (Text × Nat) := []
  count : Nat := 0
  widths : List (Nat × Width) := []
  /-- Within a look behind, how many groups there were before it. -/
  limit : Option Nat := none
  conditions : List Nat := []
  leading : List Flag := []
  /-- Whether what was read so far can be matched. This is asked only when all has been read. -/
  fit : Bool := true

namespace Reader

def push (p : Expr) (r : Reader) : Reader := { r with frame := r.frame.push p }

def openFrame (o : Opening) (index : Nat) (r : Reader) : Reader :=
  { r with frame := ⟨o, index, r.limit, [], []⟩, outer := r.frame :: r.outer }

/-- A look behind may refer only to groups that were closed before it. -/
def mayAsk (i : Nat) (r : Reader) : Bool :=
  match r.limit with
  | none => true
  | some n => i ≤ n && (r.widths.lookup i).isSome

def mayRefer (i : Nat) (r : Reader) : Bool := (r.widths.lookup i).isSome && r.mayAsk i

def backref (i : Nat) (r : Reader) : Except Fault Reader :=
  if r.mayRefer i then .ok (r.push (.backref i)) else .error .malformed

def openGroup (r : Reader) : Opening → Except Fault Reader
  | .capture name =>
    let i := r.count + 1
    match name with
    | none => .ok { r.openFrame (.capture none) i with count := i }
    | some n =>
      if (r.names.lookup n).isSome then .error .malformed
      else .ok { r.openFrame (.capture (some n)) i with count := i, names := (n, i) :: r.names }
  | .look true negated =>
    let r' := r.openFrame (.look true negated) 0
    .ok { r' with limit := r.limit.or (some r.count) }
  | .ifNumber i =>
    if r.mayAsk i then .ok { r.openFrame (.ifNumber i) i with conditions := i :: r.conditions }
    else .error .malformed
  | .ifName name =>
    match r.names.lookup name with
    | some i => if r.mayAsk i then .ok (r.openFrame (.ifNumber i) i) else .error .malformed
    | none => .error .malformed
  | o => .ok (r.openFrame o 0)

def inFrame (f : Frame → Except Fault Frame) (r : Reader) : Except Fault Reader :=
  (f r.frame).map fun frame => { r with frame := frame }

def closed (r : Reader) : Except Fault Expr :=
  let p := r.frame.finished
  match r.frame.opening with
  | .plain => .ok (.scoped [] [] p)
  | .capture _ => .ok (.group r.frame.index p)
  | .atomic => .ok (.atomic p)
  | .look behind negated =>
    .ok (.look (if behind then some (p.width r.widths).least else none) negated p)
  | .ifNumber i =>
    match r.frame.branches with
    | [yes] => .ok (.ifGroup i yes (.ofReversed r.frame.items))
    | _ => .ok (.ifGroup i p .empty)
  | .ifName _ => .error .malformed
  | .scoped on off => .ok (.scoped on off p)

/-- A look behind has one width, and one that a repeat count could have reached. -/
def looksFit (r : Reader) : Bool :=
  match r.frame.opening with
  | .look true _ =>
    let w := r.frame.finished.width r.widths
    w.most == some w.least && w.least ≤ countLimit
  | _ => true

/-- Where no group is open the whole pattern ends, whatever follows. -/
def closeGroup (r : Reader) : Except Fault Reader :=
  match r.outer with
  | [] => .error (if oneAlphabet r.leading then .malformed else .mixedAlphabets)
  | parent :: outer => do
    let p ← r.closed
    let widths :=
      match r.frame.opening with
      | .capture _ => (r.frame.index, p.width r.widths) :: r.widths
      | _ => r.widths
    return { r with
      frame := parent.push p, outer := outer, limit := r.frame.limit, widths := widths
      fit := r.looksFit && r.fit }

def leadingFlags (fs : List Flag) (r : Reader) : Except Fault Reader :=
  if r.outer.isEmpty && r.frame.branches.isEmpty && r.frame.items.isEmpty then
    .ok { r with leading := r.leading ++ fs }
  else .error .malformed

def quantify (least : Nat) (most : Option Nat) (greed : Greed) (r : Reader) : Except Fault Reader :=
  { r with fit := !r.leading.contains .noRepeat && r.fit }.inFrame (·.quantify least most greed)

def next (r : Reader) : Lexeme → Except Fault Reader
  | .char s => .ok (r.push (.char s))
  | .anyChar => .ok (r.push .anyChar)
  | .anchor a => .ok (r.push (.anchor a))
  | .backref i => r.backref i
  | .namedBackref name =>
    match r.names.lookup name with
    | some i => r.backref i
    | none => .error .malformed
  | .bar => r.inFrame (·.bar)
  | .openGroup o => r.openGroup o
  | .closeGroup => r.closeGroup
  | .leadingFlags f fs => r.leadingFlags (f :: fs)
  | .quantifier least most greed => r.quantify least most greed
  | .fault f => .error f

/-- All groups are closed, all that are asked for exist, and all that was read can be matched. -/
def finish (r : Reader) : Except Fault Pattern :=
  if !r.outer.isEmpty then .error .malformed
  else if !oneAlphabet r.leading then .error .mixedAlphabets
  else if !r.fit || r.conditions.any fun i => r.count < i then .error .malformed
  else .ok ⟨r.leading, r.names.map (·.1), r.frame.finished⟩

end Reader

def ofLexemes (xs : List Lexeme) : Except Fault Pattern :=
  (xs.foldlM Reader.next {}).bind Reader.finish

def read (t : Text) : Except Fault Pattern := ofLexemes (lexemes t)

end Pattern

end Onboarding
