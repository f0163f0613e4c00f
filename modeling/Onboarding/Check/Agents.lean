import Onboarding.Document.Section
import Onboarding.Report
import Onboarding.Secret.Scanner

namespace Onboarding.Agents

inductive Error
  | empty
  | noTitle (line : Nat)
  | secret (m : SecretMatch)
deriving DecidableEq, Repr

inductive Warning
  | missingSection (title : Text)
  | noSkillReference
  | fewExamples (found wanted : Nat)
deriving DecidableEq, Repr

def sectionSuggestion (title : Text) : Text :=
  let t := Text.lower title
  if t = "setup".toList then
    "Add a '## Setup' section with install and build commands".toList
  else if t = "code standards".toList then
    "Add a '## Code Standards' section describing conventions agents must follow".toList
  else if t = "security".toList then
    "Add a '## Security' section listing rules for secrets and input validation".toList
  else "Add a '## ".toList ++ title ++ "' section".toList

def Error.diagnostic : Error → Diagnostic
  | .empty =>
    ⟨"Document is empty; it must start with a level-1 heading".toList, some 1,
     some "Start the file with '# <Project Name>'".toList⟩
  | .noTitle line =>
    ⟨"AGENTS.md must start with a level-1 heading (# Title)".toList, some line,
     some "Start the file with '# <Project Name>'".toList⟩
  | .secret m =>
    ⟨"Potential hardcoded secret (".toList ++ m.category ++ ") on line ".toList
      ++ Text.ofNat m.line, some m.line,
     some "Reference credentials through environment variables instead".toList⟩

def Warning.diagnostic : Warning → Diagnostic
  | .missingSection title =>
    ⟨"Missing recommended section: ".toList ++ title, none, some (sectionSuggestion title)⟩
  | .noSkillReference =>
    ⟨"No skill references found (expected tokens like $skill-name)".toList, none,
     some "Reference the skills agents should use, e.g. $swarm-orchestration".toList⟩
  | .fewExamples found wanted =>
    ⟨"Only ".toList ++ Text.ofNat found ++ " code examples found (at least ".toList
      ++ Text.ofNat wanted ++ " recommended)".toList, none,
     some "Add fenced code blocks showing setup, build and test commands".toList⟩

/-- One hash, at least one space, and then a character that is not blank. -/
def isTitle (t : Text) : Bool :=
  match t with
  | '#' :: rest =>
    rest.head? == some ' ' && (rest.dropWhile (· == ' ')).head?.any fun c => !Text.isBlank c
  | _ => false

def titleErrors (ls : List Line) : List Error :=
  match ls.find? fun l => !Text.allBlank l.text with
  | none => [.empty]
  | some l => if isTitle l.text then [] else [.noTitle l.number]

def secretErrors (s : SecretScanner) (ls : List Line) : List Error := (s.scan ls).map .secret

def sectionWarnings (titles : List Text) (sections : List Section) : List Warning :=
  (titles.filter fun t => (Section.find? sections [t]).isNone).map .missingSection

def hasSkillReference : Text → Bool
  | [] => false
  | c :: rest => (c == '$' && rest.head?.any Text.isAsciiLetter) || hasSkillReference rest

def skillWarnings (ls : List Line) : List Warning :=
  if (Fence.prose ls).any fun l => hasSkillReference l.text then [] else [.noSkillReference]

def exampleWarnings (wanted : Nat) (ls : List Line) : List Warning :=
  let found := Fence.count ls
  if found < wanted then [.fewExamples found wanted] else []

def errors (s : SecretScanner) (ls : List Line) : List Error :=
  titleErrors ls ++ secretErrors s ls

def warnings (settings : Settings) (ls : List Line) : List Warning :=
  sectionWarnings settings.agentsSections (Section.scan ls) ++ skillWarnings ls
    ++ exampleWarnings settings.minCodeBlocks ls

def check (settings : Settings) (s : SecretScanner) (content : Text) : Report :=
  let ls := Line.index content
  ⟨(errors s ls).map Error.diagnostic, (warnings settings ls).map Warning.diagnostic⟩

end Onboarding.Agents
