import Onboarding.Yaml.Cursor

namespace Onboarding.Yaml.PlainScalar

/-- The characters up to a blank, a colon that ends a key or, within brackets, a mark of theirs. -/
def chunk (inFlow : Bool) : Text → Text
  | [] => []
  | c :: rest =>
    let endsKey := rest.head?.all fun d =>
      isSpaceOrTab d || isBreak d || (inFlow && (",[]\x7b\x7d".toList.contains d))
    if isSpaceOrTab c || isBreak c || (c == ':' && endsKey)
        || (inFlow && ",?[]\x7b\x7d".toList.contains c) then []
    else c :: chunk inFlow rest

def emptyLines : Nat → Cursor → Option Text × Cursor
  | 0, s => (some [], s)
  | fuel + 1, s =>
    match s.peek 0 with
    | some c =>
      if c == ' ' then emptyLines fuel s.next
      else if isBreak c then
        let (b, s) := s.lineBreak
        if s.atSeparator then (none, s)
        else
          let (more, s) := emptyLines fuel s
          (more.map (b ++ ·), s)
      else (some [], s)
    | none => (some [], s)

/-- What joins two chunks, whether a line was ended between them, and the place of the second. A single
line feed becomes a space. Nothing joins where the scalar ends. -/
def spaces (s : Cursor) : Text × Bool × Cursor :=
  let (blank, s) := s.span (· == ' ')
  if (s.peek 0).any isBreak then
    let (b, s) := s.lineBreak
    if s.atSeparator then ([], true, s)
    else
      match emptyLines (s.rest.length + 1) s with
      | (none, s) => ([], true, s)
      | (some more, s) =>
        ((if b ≠ ['\n'] then b else if more.isEmpty then [' '] else []) ++ more, true, s)
  else (blank, false, s)

def chunks (inFlow : Bool) (indent : Int) : Nat → Text → Bool → Cursor → Text × Bool × Cursor
  | 0, _, ended, s => ([], ended, s)
  | fuel + 1, pending, ended, s =>
    let here := chunk inFlow s.rest
    if s.looksAt '#' || here.isEmpty then ([], ended, s)
    else
      let (joint, ended, s) := spaces (s.skip here.length)
      if joint.isEmpty || s.looksAt '#' || (!inFlow && s.column < indent) then
        (pending ++ here, ended, s)
      else
        let (more, ended, s) := chunks inFlow indent fuel joint ended s
        (pending ++ here ++ more, ended, s)

/-- The text of the scalar, whether a line was ended after it, and the place behind. -/
def read (inFlow : Bool) (indent : Int) (s : Cursor) : Text × Bool × Cursor :=
  chunks inFlow indent (s.rest.length + 1) [] false s

end Onboarding.Yaml.PlainScalar
