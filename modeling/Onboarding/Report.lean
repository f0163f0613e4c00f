import Onboarding.Text.Basic

namespace Onboarding

structure Diagnostic where
  message : Text
  line : Option Int := none
  suggestion : Option Text := none
deriving DecidableEq, Repr

namespace Diagnostic

def location : Option Int → Text
  | none => []
  | some n => "[line ".toList ++ Text.ofInt n ++ "] ".toList

def toText (d : Diagnostic) : Text := location d.line ++ d.message

/-- The diagnostic as an entry of a summary. An empty suggestion is left out. -/
def entry (d : Diagnostic) : List Text :=
  ("    - ".toList ++ d.toText) ::
    match d.suggestion with
    | none | some [] => []
    | some s => ["      Suggestion: ".toList ++ s]

end Diagnostic

structure Report where
  errors : List Diagnostic := []
  warnings : List Diagnostic := []
deriving DecidableEq, Repr

namespace Report

def isValid (r : Report) : Bool := r.errors.isEmpty

def addError (d : Diagnostic) (r : Report) : Report := { r with errors := r.errors ++ [d] }

def addWarning (d : Diagnostic) (r : Report) : Report := { r with warnings := r.warnings ++ [d] }

def headline (r : Report) : Text :=
  "Validation ".toList ++ if r.isValid then "PASSED".toList else "FAILED".toList

def totals (r : Report) : Text :=
  "  Errors: ".toList ++ Text.ofNat r.errors.length ++ ", Warnings: ".toList
    ++ Text.ofNat r.warnings.length

def block (title : Text) (ds : List Diagnostic) : List Text :=
  if ds.isEmpty then [] else ('\n' :: title) :: ds.flatMap Diagnostic.entry

def summary (r : Report) : Text :=
  Text.join ['\n'] ([r.headline, r.totals] ++ block "  Errors:".toList r.errors
    ++ block "  Warnings:".toList r.warnings)

end Report

end Onboarding
