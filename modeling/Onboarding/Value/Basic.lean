import Onboarding.Binary64.Basic
import Onboarding.Text.Basic

namespace Onboarding

structure Day where
  year : Nat
  month : Nat
  day : Nat
deriving DecidableEq, Repr

structure Clock where
  hour : Nat
  minute : Nat
  second : Nat
  micro : Nat
  /-- Minutes ahead of universal time. -/
  offset : Option Int
deriving DecidableEq, Repr

/-- What a settings document can hold. The entries of a map stand in the order of their keys' first
appearance. -/
inductive Value
  | null
  | bool (b : Bool)
  | int (n : Int)
  | float (x : Binary64)
  | text (t : Text)
  | bytes (bs : List Nat)
  | day (d : Day)
  | moment (d : Day) (c : Clock)
  | list (items : List Value)
  | set (items : List Value)
  | map (entries : List (Value × Value))
deriving Inhabited

namespace Value

def number? : Value → Option Binary64.Quotient
  | .bool b => some (.finite (if b then 1 else 0) 1)
  | .int n => some (.finite n 1)
  | .float x => some x.toQuotient
  | _ => none

/-- Numbers are one key if they are equal, whatever their kind. -/
def sameKey (a b : Value) : Bool :=
  match a.number?, b.number? with
  | some x, some y => x.equal y
  | none, none =>
    match a, b with
    | .null, .null => true
    | .text t, .text u => t == u
    | .bytes bs, .bytes cs => bs == cs
    | .day d, .day e => d == e
    | .moment d c, .moment e k => d == e && c == k
    | _, _ => false
  | _, _ => false

def entry? (name : Text) : List (Value × Value) → Option Value
  | [] => none
  | (.text t, v) :: rest => if t = name then some v else entry? name rest
  | _ :: rest => entry? name rest

def insertEntry (key value : Value) : List (Value × Value) → List (Value × Value)
  | [] => [(key, value)]
  | (k, v) :: rest => if k.sameKey key then (k, value) :: rest else (k, v) :: insertEntry key value rest

def ofEntries (entries : List (Value × Value)) : Value :=
  .map (entries.foldl (fun done e => insertEntry e.1 e.2 done) [])

end Value

end Onboarding
