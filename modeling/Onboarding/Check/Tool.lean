import Onboarding.Config.Basic
import Onboarding.Report
import Onboarding.Settings.Basic

namespace Onboarding.Tool

inductive Error
  | missingKey (key : Text)
  | unknownValue (key value : Text) (line : Option Nat) (allowed : List Text)
deriving DecidableEq, Repr

inductive Warning
  | noServer
  | neverAsks (line : Option Nat)
  | fullAccess (line : Option Nat)
deriving DecidableEq, Repr

def lineOf (line : Option Nat) : Option Int := line.map Int.ofNat

def Error.diagnostic : Error → Diagnostic
  | .missingKey key =>
    ⟨"Missing required field: ".toList ++ key, none,
     some ("Add a top-level '".toList ++ key ++ " = ...' assignment".toList)⟩
  | .unknownValue key value line allowed =>
    ⟨"Invalid ".toList ++ key ++ ": \"".toList ++ value ++ "\"".toList, lineOf line,
     some ("Use one of: ".toList ++ Text.join ", ".toList allowed)⟩

def Warning.diagnostic : Warning → Diagnostic
  | .noServer =>
    ⟨"No MCP servers configured".toList, none,
     some "Configure at least one server under [mcp_servers.<name>]".toList⟩
  | .neverAsks line =>
    ⟨"Using \"never\" approval policy without profile overrides".toList, lineOf line,
     some ("Add a [profiles.<name>] section so unattended execution is opt-in ".toList
      ++ "rather than the default".toList)⟩
  | .fullAccess line =>
    ⟨"Using \"danger-full-access\" sandbox mode without profile overrides".toList, lineOf line,
     some ("Default to 'workspace-write' and enable full access only in a ".toList
      ++ "[profiles.<name>] section".toList)⟩

def approvalPolicy : Text := "approval_policy".toList

def sandboxMode : Text := "sandbox_mode".toList

def servers : Text := "mcp_servers.".toList

def profiles : Text := "profiles.".toList

def missingKeys (required : List Text) (c : Config) : List Error :=
  (required.filter fun k => !c.topLevel.has k).map .missingKey

def unknownValue (key : Text) (allowed : List Text) (c : Config) : List Error :=
  match c.topLevel.get? key with
  | none => []
  | some v => if allowed.contains v then [] else [.unknownValue key v (c.keyLines.get? key) allowed]

def errors (settings : Settings) (c : Config) : List Error :=
  missingKeys settings.configRequiredKeys c
    ++ unknownValue approvalPolicy settings.approvalPolicies c
    ++ unknownValue sandboxMode settings.sandboxModes c

/-- A default counts as permissive where no profile overrides it. -/
def isDefault (key value : Text) (c : Config) : Bool :=
  c.topLevel.get? key == some value && !c.hasSectionUnder profiles

def warnings (c : Config) : List Warning :=
  (if c.hasSectionUnder servers then [] else [.noServer])
  ++ (if isDefault approvalPolicy "never".toList c then
      [.neverAsks (c.keyLines.get? approvalPolicy)] else [])
  ++ if isDefault sandboxMode "danger-full-access".toList c then
      [.fullAccess (c.keyLines.get? sandboxMode)] else []

def check (settings : Settings) (content : Text) : Report :=
  let c := Config.read content
  ⟨(errors settings c).map Error.diagnostic, (warnings c).map Warning.diagnostic⟩

end Onboarding.Tool
