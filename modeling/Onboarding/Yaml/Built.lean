import Onboarding.Yaml.Fault

namespace Onboarding.Yaml

/-- What has been built, or the fault that is met first. Collections are filled level by level, so that a
fault further out is met before one further in. -/
inductive Built (α : Type)
  | ok (a : α)
  | fault (level : Nat) (f : Fault)
deriving DecidableEq, Repr

namespace Built

variable {α β : Type}

def ofExcept : Except Fault α → Built α
  | .ok a => .ok a
  | .error f => .fault 0 f

def toExcept : Built α → Except Fault α
  | .ok a => .ok a
  | .fault _ f => .error f

def malformed : Built α := .fault 0 .malformed

def map (f : α → β) : Built α → Built β
  | .ok a => .ok (f a)
  | .fault n e => .fault n e

def bind (x : Built α) (f : α → Built β) : Built β :=
  match x with
  | .ok a => f a
  | .fault n e => .fault n e

def and (f : Built (α → β)) (x : Built α) : Built β :=
  match f, x with
  | .ok f, .ok a => .ok (f a)
  | .fault n e, .ok _ | .ok _, .fault n e => .fault n e
  | .fault n e, .fault m e' => if m < n then .fault m e' else .fault n e

def pair (x : Built α) (y : Built β) : Built (α × β) := (x.map Prod.mk).and y

def cons (x : Built α) (xs : Built (List α)) : Built (List α) := (x.map List.cons).and xs

def append (xs ys : Built (List α)) : Built (List α) := (xs.map List.append).and ys

/-- The same, as seen from one level further out. -/
def deeper : Built α → Built α
  | .ok a => .ok a
  | .fault n e => .fault (n + 1) e

end Built

end Onboarding.Yaml
