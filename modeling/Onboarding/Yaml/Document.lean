import Onboarding.Yaml.Built
import Onboarding.Yaml.Node
import Onboarding.Yaml.Scalar

namespace Onboarding.Yaml

abbrev Entries := List (Value × Value)

mutual

/-- The text of a scalar, or the one that a map has under the first equals sign among its keys. -/
def Node.text? : Node → Option Text
  | .scalar _ t => some t
  | .sequence .. => none
  | .mapping _ entries => textUnder? entries

def textUnder? : List (Node × Node) → Option Text
  | [] => none
  | (k, v) :: rest => if k.kind = .equals then v.text? else textUnder? rest

end

def Node.scalarValue (kind : Kind) (n : Node) : Except Fault Value :=
  match n, n.text? with
  | _, none => .error .malformed
  | .mapping .., some t => if kind = .moment then .error .dayInMap else Scalar.value t kind
  | _, some t => Scalar.value t kind

/-- A key is a scalar, and an equals sign a text. -/
def Node.key (n : Node) : Built Value :=
  .ofExcept (n.scalarValue (if n.kind = .equals then .text else n.kind))

/-- The entries taken over from other maps, which come first, and those of a map itself. -/
structure MapEntries where
  merged : Built Entries
  own : Built Entries

namespace MapEntries

def empty : MapEntries := ⟨.ok [], .ok []⟩

def takeOver (es : Built Entries) (m : MapEntries) : MapEntries :=
  { m with merged := es.append m.merged }

def add (e : Built (Value × Value)) (m : MapEntries) : MapEntries := { m with own := e.cons m.own }

def toList (m : MapEntries) : Built Entries := m.merged.append m.own

end MapEntries

def setOf (es : Entries) : Value :=
  match Value.ofEntries es with
  | .map es => .set (es.map (·.1))
  | v => v

/-- Whether a node of the kind is filled only after it stands in its place. -/
def Kind.isCollection : Kind → Bool
  | .list | .map | .set | .pairs | .orderedPairs => true
  | _ => false

def Node.single (n : Node) : Built Value :=
  if n.kind.isCollection then Built.malformed.deeper else .ofExcept (n.scalarValue n.kind)

def filled (es : Except Fault MapEntries) : Built Entries :=
  (Built.ofExcept es).bind MapEntries.toList

mutual

def Node.value : Node → Built Value
  | .scalar kind t => (Node.scalar kind t).single
  | .sequence kind items =>
    match kind with
    | .list => ((values items).map Value.list).deeper
    | .pairs | .orderedPairs => ((pairs items).map Value.list).deeper
    | kind => (Node.sequence kind items).single
  | .mapping kind entries =>
    match kind with
    | .map => ((filled (entryValues entries)).map Value.ofEntries).deeper
    | .set => ((filled (entryValues entries)).map setOf).deeper
    | kind => (Node.mapping kind entries).single

def values : List Node → Built (List Value)
  | [] => .ok []
  | n :: rest => n.value.cons (values rest)

/-- A map that takes others over is left out here, since its entries are more or fewer once that is done. -/
def pairs : List Node → Built (List Value)
  | [] => .ok []
  | .mapping _ [(k, v)] :: rest =>
    if k.kind = .merge then .fault 0 .uncovered
    else ((k.value.pair v.value).map fun (key, value) => .list [key, value]).cons (pairs rest)
  | .mapping _ entries :: _ =>
    if entries.any fun e => e.1.kind = .merge then .fault 0 .uncovered else .malformed
  | _ :: _ => .malformed

/-- What is taken over is looked for before any value is built. -/
def entryValues : List (Node × Node) → Except Fault MapEntries
  | [] => .ok .empty
  | (k, v) :: rest => do
    if k.kind = .merge then
      let es ← v.mergedEntries
      return (← entryValues rest).takeOver es
    else
      let e := k.key.pair v.value
      return (← entryValues rest).add e

/-- Of several maps the first one is taken over last, so that its entries win. -/
def mergedAll : List Node → Except Fault (Built Entries)
  | [] => .ok (.ok [])
  | .mapping _ entries :: rest => do
    let m ← entryValues entries
    return (← mergedAll rest).append m.toList
  | _ :: _ => .error .malformed

def Node.mergedEntries : Node → Except Fault (Built Entries)
  | .mapping _ entries => do return (← entryValues entries).toList
  | .sequence _ items => mergedAll items
  | .scalar .. => .error .malformed

end

def Node.ofText (t : Text) : Except Fault (Option Node) := Node.ofTokens (Tokens.ofText t)

/-- The value of the one document in a text, if there is one. -/
def load (t : Text) : Except Fault (Option Value) := do
  match ← Node.ofText t with
  | none => return none
  | some n => return some (← n.value.toExcept)

end Onboarding.Yaml
