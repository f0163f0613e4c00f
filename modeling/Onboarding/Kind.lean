import Onboarding.Text.Lowercase
import Onboarding.Value.Shown

namespace Onboarding

inductive DocumentKind
  | agents | skill | config
deriving DecidableEq, Repr

namespace DocumentKind

def name : DocumentKind → Text
  | .agents => "agents_md".toList
  | .skill => "skill_md".toList
  | .config => "config_toml".toList

def fileName : DocumentKind → Text
  | .agents => "agents.md".toList
  | .skill => "skill.md".toList
  | .config => "config.toml".toList

def all : List DocumentKind := [.agents, .skill, .config]

/-- The last component of a path that is neither empty nor a dot. -/
def lastComponent (path : Text) : Text :=
  (((path.splitOn '/').filter fun t => !(t.isEmpty || t == ['.'])).getLast?).getD []

def ofFileName? (path : Text) : Option DocumentKind :=
  let t := Text.lower (lastComponent path)
  all.find? fun k => k.fileName == t

def ofName? (t : Text) : Option DocumentKind := all.find? fun k => k.name == t

structure Unknown where
  value : Value

def Unknown.message (u : Unknown) : Text :=
  u.value.shown ++ " is not a valid DocumentKind".toList

def ofValue (v : Value) : Except Unknown DocumentKind :=
  match v with
  | .text t =>
    match ofName? t with
    | some k => .ok k
    | none => .error ⟨v⟩
  | _ => .error ⟨v⟩

end DocumentKind

end Onboarding
