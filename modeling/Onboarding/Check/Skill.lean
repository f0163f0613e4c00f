import Onboarding.Document.FrontMatter
import Onboarding.Document.Section
import Onboarding.Report
import Onboarding.Settings.Basic

namespace Onboarding.Skill

inductive Error
  | noFrontMatter
  | unclosed (line : Nat)
  | missingField (name : Text) (line : Nat)
deriving DecidableEq, Repr

inductive Warning
  | noPurpose (titles : Titles)
  | noTrigger (titles : Titles)
deriving DecidableEq, Repr

def Error.diagnostic : Error → Diagnostic
  | .noFrontMatter =>
    ⟨"Missing YAML frontmatter (file must start with '---')".toList, some 1,
     some "Add a frontmatter block with name and description fields".toList⟩
  | .unclosed line =>
    ⟨"YAML frontmatter is not properly closed (missing closing '---')".toList, some line,
     some "Add a '---' line after the last frontmatter field".toList⟩
  | .missingField name line =>
    ⟨"Missing required frontmatter field: ".toList ++ name, some line,
     some ("Add '".toList ++ name ++ ": ...' to the frontmatter block".toList)⟩

def inQuotes (t : Text) : Text := '\'' :: t ++ ['\'']

def Warning.diagnostic : Warning → Diagnostic
  | .noPurpose titles =>
    ⟨"Missing ".toList ++ inQuotes titles.first ++ " section".toList, none,
     some ("Add a '## ".toList ++ titles.first ++ "' section explaining what the skill does".toList)⟩
  | .noTrigger titles =>
    ⟨"Missing trigger conditions section (".toList
      ++ Text.join " or ".toList (titles.toList.map inQuotes) ++ [')'], none,
     some ("Add a '## ".toList ++ titles.first
      ++ "' section listing when the skill should activate".toList)⟩

def errors (required : List Text) : FrontMatter → List Error
  | .absent => [.noFrontMatter]
  | .unclosed first => [.unclosed first]
  | .closed first _ fields =>
    (required.filter fun name => !fields.has name).map fun name => .missingField name first

def bodyWarnings (settings : Settings) (body : List Line) : List Warning :=
  let sections := Section.scan body
  (if (Section.find? sections settings.skillPurposeTitles.toList).isNone then
    [.noPurpose settings.skillPurposeTitles] else [])
  ++ if (Section.find? sections settings.skillTriggerTitles.toList).isNone then
    [.noTrigger settings.skillTriggerTitles] else []

/-- Nothing behind front matter that is not closed is looked at. -/
def warnings (settings : Settings) (ls : List Line) : FrontMatter → List Warning
  | .unclosed _ => []
  | m => bodyWarnings settings (FrontMatter.body ls m)

def check (settings : Settings) (content : Text) : Report :=
  let ls := Line.index content
  let m := FrontMatter.ofLines ls
  ⟨(errors settings.skillRequiredFields m).map Error.diagnostic,
   (warnings settings ls m).map Warning.diagnostic⟩

end Onboarding.Skill
