import Onboarding.Yaml.Kind
import Onboarding.Yaml.Token

namespace Onboarding.Yaml

inductive Node
  | scalar (kind : Kind) (text : Text)
  | sequence (kind : Kind) (items : List Node)
  | mapping (kind : Kind) (entries : List (Node × Node))

namespace Node

def kind : Node → Kind
  | .scalar kind _ | .sequence kind _ | .mapping kind _ => kind

def nothing : Node := .scalar .null []

mutual

/-- An equals sign as a key is taken for a text once its map has been read. -/
def holdsEquals : Node → Bool
  | .scalar kind _ => kind == .equals
  | .sequence kind items => kind == .equals || itemsHoldEquals items
  | .mapping kind entries => kind == .equals || entriesHoldEquals entries

def itemsHoldEquals : List Node → Bool
  | [] => false
  | n :: rest => n.holdsEquals || itemsHoldEquals rest

def entriesHoldEquals : List (Node × Node) → Bool
  | [] => false
  | (k, v) :: rest => k.holdsEquals || v.holdsEquals || entriesHoldEquals rest

end

structure Properties where
  anchor : Option Text
  tag : Option Text

/-- A lone exclamation mark is as good as no tag. -/
def kindOr (default : Kind) : Option Text → Kind
  | none => default
  | some t => if t = ['!'] then default else Kind.ofTag t

/-- A lone exclamation mark makes a quoted scalar a plain one. -/
def scalarKind (plain : Bool) (text : Text) : Option Text → Kind
  | none => if plain then Kind.ofPlain text else .text
  | some t => if t = ['!'] then Kind.ofPlain text else Kind.ofTag t

end Node

/-- What is left to read, and what has been named so far: the latest node under a name stands first. There
is none as long as the node is being read. -/
structure Source where
  tokens : Tokens
  handles : List (Text × Text)
  anchors : List (Text × Option Node) := []

abbrev Reading := StateT Source (Except Fault)

namespace Reading

def peek : Reading (Option Token) := do
  match (← get).tokens with
  | .done => return none
  | .broken f => throw f
  | .next t _ => return some t

def pop : Reading Unit := modify fun s => { s with tokens := s.tokens.tail }

def looksAt (ts : List Token) : Reading Bool := do return (← peek).any ts.contains

def anchor? : Reading (Option Text) := do
  match ← peek with
  | some (.anchor name) => pop; return some name
  | _ => return none

def tag? : Reading (Option Tag) := do
  match ← peek with
  | some (.tag t) => pop; return some t
  | _ => return none

def inFull (t : Tag) : Reading Text := do
  match t.shorthand with
  | none => return t.suffix
  | some h =>
    match (← get).handles.lookup h with
    | some start => return start ++ t.suffix
    | none => throw .malformed

def properties : Reading Node.Properties := do
  match ← anchor? with
  | some a => return ⟨some a, ← (← tag?).mapM inFull⟩
  | none =>
    match ← tag? with
    | some t =>
      let a ← anchor?
      return ⟨a, some (← inFull t)⟩
    | none => return ⟨none, none⟩

def name (anchor : Option Text) (n : Option Node) : Reading Unit :=
  match anchor with
  | some a => modify fun s => { s with anchors := (a, n) :: s.anchors }
  | none => pure ()

/-- The name is taken before the content is read. -/
def naming (anchor : Option Text) (content : Reading Node) : Reading Node := do
  name anchor none
  let n ← content
  name anchor n
  return n

def named (a : Text) : Reading Node := do
  match (← get).anchors.lookup a with
  | some (some n) => if n.holdsEquals then throw .uncovered else return n
  | some none => throw .uncovered
  | none => throw .malformed

mutual

/-- In a block, collections may be without brackets; the entries of a list may stand at the indentation
of the map around it where `indentless` says so. -/
def node : Nat → (block indentless : Bool) → Reading Node
  | 0, _, _ => throw .malformed
  | fuel + 1, block, indentless => do
    match ← peek with
    | some (.reference a) => pop; named a
    | _ =>
      let p ← properties
      let next ← peek
      if (← get).anchors.any fun a => some a.1 == p.anchor then throw .malformed
      let listKind := Node.kindOr .list p.tag
      let mapKind := Node.kindOr .map p.tag
      match next with
      | some (.scalar plain text) =>
        pop
        let n : Node := .scalar (Node.scalarKind plain text p.tag) text
        name p.anchor n
        return n
      | some .flowSequence =>
        pop
        naming p.anchor do return .sequence listKind (← flowItems fuel true)
      | some .flowMapping =>
        pop
        naming p.anchor do return .mapping mapKind (← flowEntries fuel true)
      | t =>
        if indentless && t == some .entry then
          naming p.anchor do
            return .sequence listKind (← indentlessItems fuel)
        else if block && t == some .blockSequence then
          pop
          naming p.anchor do return .sequence listKind (← blockItems fuel)
        else if block && t == some .blockMapping then
          pop
          naming p.anchor do return .mapping mapKind (← blockEntries fuel)
        else if p.anchor.isSome || p.tag.isSome then
          let n : Node := .scalar (Node.scalarKind true [] p.tag) []
          name p.anchor n
          return n
        else throw .malformed

def nodeUnless : Nat → (ends : List Token) → (block indentless : Bool) → Reading Node
  | 0, _, _, _ => throw .malformed
  | fuel + 1, ends, block, indentless => do
    if ← looksAt ends then return .nothing
    else node fuel block indentless

def blockItems : Nat → Reading (List Node)
  | 0 => throw .malformed
  | fuel + 1 => do
    match ← peek with
    | some .entry =>
      pop
      let n ← nodeUnless fuel [.entry, .blockEnd] true false
      return n :: (← blockItems fuel)
    | some .blockEnd => pop; return []
    | _ => throw .malformed

def indentlessItems : Nat → Reading (List Node)
  | 0 => throw .malformed
  | fuel + 1 => do
    match ← peek with
    | some .entry =>
      pop
      let n ← nodeUnless fuel [.entry, .key, .value, .blockEnd] true false
      return n :: (← indentlessItems fuel)
    | _ => return []

def blockEntries : Nat → Reading (List (Node × Node))
  | 0 => throw .malformed
  | fuel + 1 => do
    match ← peek with
    | some .key =>
      pop
      let k ← nodeUnless fuel [.key, .value, .blockEnd] true true
      let v ← valueUnless fuel [.key, .value, .blockEnd] true true
      return (k, v) :: (← blockEntries fuel)
    | some .blockEnd => pop; return []
    | _ => throw .malformed

def valueUnless : Nat → (ends : List Token) → (block indentless : Bool) → Reading Node
  | 0, _, _, _ => throw .malformed
  | fuel + 1, ends, block, indentless => do
    if ← looksAt [.value] then
      pop
      nodeUnless fuel ends block indentless
    else return .nothing

def flowItems : Nat → (first : Bool) → Reading (List Node)
  | 0, _ => throw .malformed
  | fuel + 1, first => do
    if ← looksAt [.flowSequenceEnd] then pop; return []
    else
      if !first then
        if ← looksAt [.flowEntry] then pop else throw .malformed
      match ← peek with
      | some .key =>
        pop
        let k ← nodeUnless fuel [.value, .flowEntry, .flowSequenceEnd] false false
        let v ← valueUnless fuel [.flowEntry, .flowSequenceEnd] false false
        return .mapping .map [(k, v)] :: (← flowItems fuel false)
      | some .flowSequenceEnd => pop; return []
      | _ =>
        let n ← node fuel false false
        return n :: (← flowItems fuel false)

def flowEntries : Nat → (first : Bool) → Reading (List (Node × Node))
  | 0, _ => throw .malformed
  | fuel + 1, first => do
    if ← looksAt [.flowMappingEnd] then pop; return []
    else
      if !first then
        if ← looksAt [.flowEntry] then pop else throw .malformed
      match ← peek with
      | some .key =>
        pop
        let k ← nodeUnless fuel [.value, .flowEntry, .flowMappingEnd] false false
        let v ← valueUnless fuel [.flowEntry, .flowMappingEnd] false false
        return (k, v) :: (← flowEntries fuel false)
      | some .flowMappingEnd => pop; return []
      | _ =>
        let n ← node fuel false false
        return (n, .nothing) :: (← flowEntries fuel false)

end

end Reading

def standardHandles : List (Text × Text) := [(['!'], ['!']), (['!', '!'], Kind.standardStart)]

/-- The handles that directives declare, and the tokens after these. Only one version is known, and
nothing may be declared twice. -/
def directives : Tokens → (versioned : Bool) → List (Text × Text) →
    Except Fault (List (Text × Text) × Tokens)
  | .next (.directive (.version major)) rest, versioned, handles =>
    if versioned || major != 1 then .error .malformed else directives rest true handles
  | .next (.directive (.tagHandle h start)) rest, versioned, handles =>
    if (handles.lookup h).isSome then .error .malformed
    else directives rest versioned ((h, start) :: handles)
  | .next (.directive .other) rest, versioned, handles => directives rest versioned handles
  | .broken f, _, _ => .error f
  | ts, _, handles => .ok (handles ++ standardHandles, ts)

def endStream : Tokens → Except Fault Unit
  | .done => .ok ()
  | .next .documentEnd rest => endStream rest
  | ts => do
    let _ ← directives ts false []
    .error .malformed

def Node.document (handles : List (Text × Text)) (ts : Tokens) : Except Fault Node := do
  let (n, s) ← (Reading.node (4 * ts.length + 4) true false).run ⟨ts, handles, []⟩
  endStream s.tokens
  return n

def Node.marked (handles : List (Text × Text)) : Tokens → Except Fault Node
  | .broken f => .error f
  | .done => .ok .nothing
  | .next t rest =>
    match t with
    | .directive _ | .documentStart | .documentEnd => do
      endStream (.next t rest)
      return .nothing
    | _ => Node.document handles (.next t rest)

def Node.ofTokens : Tokens → Except Fault (Option Node)
  | .done => .ok none
  | .broken f => .error f
  | .next t rest =>
    match t with
    | .directive _ | .documentStart => do
      match ← directives (.next t rest) false [] with
      | (handles, .next .documentStart rest) => return some (← Node.marked handles rest)
      | _ => throw .malformed
    | _ => return some (← Node.document standardHandles (.next t rest))

end Onboarding.Yaml
