import Onboarding.Text.Alike
import Onboarding.Text.Basic

namespace Onboarding.Pattern

inductive Flag
  | ignoreCase | multiline | dotAll | verbose | ascii | unicode | noRepeat
deriving DecidableEq, Repr

structure Flags where
  ignoreCase : Bool := false
  multiline : Bool := false
  dotAll : Bool := false
  ascii : Bool := false
deriving DecidableEq, Repr

namespace Flags

def set (on : Bool) (fs : Flags) : Flag → Flags
  | .ignoreCase => { fs with ignoreCase := on }
  | .multiline => { fs with multiline := on }
  | .dotAll => { fs with dotAll := on }
  | .ascii => { fs with ascii := on }
  | .unicode => { fs with ascii := !on }
  | .verbose | .noRepeat => fs

def change (fs : Flags) (on off : List Flag) : Flags :=
  off.foldl (set false) (on.foldl (set true) fs)

end Flags

inductive Category
  | digit | space | word
deriving DecidableEq, Repr

def Category.holds (ascii : Bool) (c : Char) : Category → Bool
  | .digit => if ascii then Text.isAsciiDigit c else Text.isDigit c
  | .space => if ascii then c == ' ' || (9 ≤ c.toNat && c.toNat ≤ 13) else Text.isBlank c
  | .word => if ascii then Text.isAsciiAlnum c || c == '_' else Text.isWord c

inductive Member
  | span (lo hi : Nat)
  | category (negated : Bool) (k : Category)
deriving DecidableEq, Repr

/-- Under `ignoreCase` a span holds whatever differs in case only from one of its characters. -/
def Member.holds (fs : Flags) (c : Char) : Member → Bool
  | .span lo hi =>
    if fs.ignoreCase then
      (if fs.ascii then Text.asciiAlike c else Text.alike c).any fun n => lo ≤ n && n ≤ hi
    else lo ≤ c.toNat && c.toNat ≤ hi
  | .category negated k => k.holds fs.ascii c != negated

structure CharSet where
  negated : Bool
  members : List Member
deriving DecidableEq, Repr

def CharSet.holds (fs : Flags) (c : Char) (s : CharSet) : Bool :=
  s.members.any (·.holds fs c) != s.negated

def CharSet.single (n : Nat) : CharSet := ⟨false, [.span n n]⟩

inductive Anchor
  | lineStart | lineEnd | textStart | textEnd | wordBoundary | noBoundary
deriving DecidableEq, Repr

inductive Greed
  | greedy | lazy | possessive
deriving DecidableEq, Repr

/-- `look` looks ahead, or behind by a number of characters. -/
inductive Expr
  | empty
  | char (s : CharSet)
  | anyChar
  | anchor (a : Anchor)
  | seq (p q : Expr)
  | alt (p q : Expr)
  | group (i : Nat) (p : Expr)
  | backref (i : Nat)
  | ifGroup (i : Nat) (yes no : Expr)
  | look (behind : Option Nat) (negated : Bool) (p : Expr)
  | atomic (p : Expr)
  | scoped (on off : List Flag) (p : Expr)
  | repeated (p : Expr) (least : Nat) (most : Option Nat) (greed : Greed)
deriving DecidableEq, Repr

namespace Expr

def ofReversed : List Expr → Expr
  | [] => .empty
  | p :: before => before.foldl (fun q p => .seq p q) p

def ofBranches : List Expr → Expr
  | [] => .empty
  | p :: before => before.foldl (fun q p => .alt p q) p

end Expr

/-- How many characters can match: at least, and at most if there is a bound. -/
structure Width where
  least : Nat
  most : Option Nat
deriving DecidableEq, Repr

namespace Width

def exact (n : Nat) : Width := ⟨n, some n⟩

def seq (a b : Width) : Width := ⟨a.least + b.least, do return (← a.most) + (← b.most)⟩

def alt (a b : Width) : Width := ⟨min a.least b.least, do return max (← a.most) (← b.most)⟩

def times (a : Width) (least : Nat) (most : Option Nat) : Width :=
  ⟨a.least * least,
   match a.most, most with
   | some 0, _ => some 0
   | _, some 0 => some 0
   | some n, some k => some (n * k)
   | _, _ => none⟩

end Width

def Expr.width (groups : List (Nat × Width)) : Expr → Width
  | .empty | .anchor _ | .look .. => .exact 0
  | .char _ | .anyChar => .exact 1
  | .seq p q => (p.width groups).seq (q.width groups)
  | .alt p q => (p.width groups).alt (q.width groups)
  | .group _ p | .atomic p | .scoped _ _ p => p.width groups
  | .backref i => (groups.lookup i).getD (.exact 0)
  | .ifGroup _ yes no => (yes.width groups).alt (no.width groups)
  | .repeated p least most _ => (p.width groups).times least most

end Onboarding.Pattern
