import Onboarding.Check.Agents
import Onboarding.Check.Skill
import Onboarding.Check.Tool
import Onboarding.Kind

namespace Onboarding

/-- Settings whose keywords are all usable, ready to check documents of every kind. -/
structure Engine where
  settings : Settings
  scanner : SecretScanner

namespace Engine

def ofSettings (s : Settings) : Except UnusableKeyword Engine := do
  return ⟨s, ← SecretScanner.ofSettings s⟩

def default : Engine := ⟨Settings.default, SecretScanner.default⟩

def validate (e : Engine) (k : DocumentKind) (content : Text) : Report :=
  match k with
  | .agents => Agents.check e.settings e.scanner content
  | .skill => Skill.check e.settings content
  | .config => Tool.check e.settings content

/-- The reports by kind. Of several documents of a kind the last one counts, at the place of the first. -/
def validateAll (e : Engine) (documents : List (DocumentKind × Text)) : Table DocumentKind Report :=
  (Table.ofList documents).map fun (k, content) => (k, e.validate k content)

end Engine

end Onboarding
