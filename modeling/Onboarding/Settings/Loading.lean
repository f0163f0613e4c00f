import Onboarding.Settings.Reading
import Onboarding.Yaml.Document

namespace Onboarding.Settings

inductive LoadError
  | noFile
  | noUtf8
  /-- The text cannot be read; a scalar of it may stand for nothing. -/
  | unreadable (f : Yaml.Fault)
  | noMapping
  | invalid (issues : List Issue)
  | countTooLarge
deriving DecidableEq, Repr

/-- What is said of settings that cannot be loaded, where anything is. -/
def LoadError.message? : LoadError → Option Text
  | .noFile => some "Cannot read settings file".toList
  | .unreadable .malformed => some "YAML parse error".toList
  | .noMapping => some "Settings must be a YAML mapping".toList
  | .invalid _ => some "Invalid settings".toList
  | _ => none

def ofDocument : Option Value → Except LoadError Settings
  | none | some .null => .ok default
  | some (.map es) =>
    match ofEntries es with
    | .ok s => .ok s
    | .issues is => .error (.invalid is)
    | .countTooLarge => .error .countTooLarge
  | some _ => .error .noMapping

def ofText (t : Text) : Except LoadError Settings :=
  match Yaml.load t with
  | .ok v => ofDocument v
  | .error f => .error (.unreadable f)

def lineFeeds : Text → Text
  | [] => []
  | '\r' :: '\n' :: rest => '\n' :: lineFeeds rest
  | '\r' :: rest => '\n' :: lineFeeds rest
  | c :: rest => c :: lineFeeds rest

/-- The settings in a file with the given bytes, if there is the file. -/
def ofFile : Option (List Nat) → Except LoadError Settings
  | none => .error .noFile
  | some bytes =>
    match Text.ofUtf8? bytes with
    | none => .error .noUtf8
    | some t => ofText (lineFeeds t)

end Onboarding.Settings
