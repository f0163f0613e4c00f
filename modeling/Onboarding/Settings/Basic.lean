import Onboarding.Secret.Keyword

namespace Onboarding

structure SecretRule where
  category : Text
  keyword : Keyword
  minLength : Nat
  category_ne_nil : category ≠ []
  one_le_minLength : 1 ≤ minLength
deriving DecidableEq

/-- The titles that a section may have, the preferred one first. -/
structure Titles where
  first : Text
  others : List Text
deriving DecidableEq, Repr

namespace Titles

def toList (ts : Titles) : List Text := ts.first :: ts.others

def ofList? : List Text → Option Titles
  | [] => none
  | t :: ts => some ⟨t, ts⟩

@[simp] theorem ofList?_toList (ts : Titles) : ofList? ts.toList = some ts := rfl

end Titles

structure Settings where
  secretRules : List SecretRule
  secretPlaceholders : List Text
  agentsSections : List Text
  minCodeBlocks : Nat
  skillRequiredFields : List Text
  skillPurposeTitles : Titles
  skillTriggerTitles : Titles
  configRequiredKeys : List Text
  approvalPolicies : List Text
  sandboxModes : List Text
deriving DecidableEq

namespace Settings

def defaultMinLength : Nat := 8

theorem one_le_defaultMinLength : 1 ≤ defaultMinLength := Nat.succ_le_succ (Nat.zero_le 7)

def defaultRule (category : Text) (keyword : Keyword) (h : category ≠ []) : SecretRule :=
  ⟨category, keyword, defaultMinLength, h, one_le_defaultMinLength⟩

def defaultSecretRules : List SecretRule :=
  [defaultRule "api_key".toList .apiKey (by decide),
   defaultRule "password".toList .password (by decide),
   defaultRule "secret".toList .secret (by decide),
   defaultRule "token".toList .token (by decide)]

def defaultPlaceholders : List Text :=
  ["xxx", "your-key-here", "your_key_here", "your-api-key", "your_api_key", "your-token-here",
   "changeme", "change-me", "placeholder", "redacted", "example", "dummy", "<your-key>"].map
    String.toList

def default : Settings where
  secretRules := defaultSecretRules
  secretPlaceholders := defaultPlaceholders
  agentsSections := ["Setup", "Code Standards", "Security"].map String.toList
  minCodeBlocks := 2
  skillRequiredFields := ["name", "description"].map String.toList
  skillPurposeTitles := ⟨"Purpose".toList, []⟩
  skillTriggerTitles := ⟨"When to Trigger".toList, ["When to Use".toList]⟩
  configRequiredKeys := ["model", "approval_policy", "sandbox_mode"].map String.toList
  approvalPolicies := ["untrusted", "on-failure", "on-request", "never"].map String.toList
  sandboxModes := ["read-only", "workspace-write", "danger-full-access"].map String.toList

end Settings

end Onboarding
