import Onboarding.Document.Line
import Onboarding.Secret.Placeholder
import Onboarding.Secret.Value
import Onboarding.Settings.Basic

namespace Onboarding

structure UnusableKeyword where
  keyword : Keyword
deriving DecidableEq

structure SecretMatch where
  line : Nat
  category : Text
deriving DecidableEq, Repr

/-- Rules whose keywords are usable, and what is not taken for a credential. -/
structure SecretScanner where
  rules : List SecretRule
  placeholders : List Text
  usable : ∀ r ∈ rules, r.keyword.isUsable

namespace SecretScanner

def ofSettings (s : Settings) : Except UnusableKeyword SecretScanner :=
  match h : s.secretRules.find? (!·.keyword.isUsable) with
  | some r => .error ⟨r.keyword⟩
  | none =>
    .ok ⟨s.secretRules, s.secretPlaceholders, fun r hr => by
      have := List.find?_eq_none.1 h r hr
      simpa using this⟩

theorem ofSettings_eq_ok {s : Settings} (h : ∀ r ∈ s.secretRules, r.keyword.isUsable) :
    ofSettings s = .ok ⟨s.secretRules, s.secretPlaceholders, h⟩ := by
  have hfind : s.secretRules.find? (!·.keyword.isUsable) = none :=
    List.find?_eq_none.mpr fun r hr => by simpa using h r hr
  unfold ofSettings
  split
  · next r hr =>
      rw [hfind] at hr
      cases hr
  · rfl

def default : SecretScanner :=
  ⟨Settings.default.secretRules, Settings.default.secretPlaceholders, by decide +kernel⟩

theorem ofSettings_default : ofSettings Settings.default = .ok default :=
  ofSettings_eq_ok default.usable

def flags : Pattern.Flags := { ignoreCase := true }

/-- The value of a credential whose keyword stands at a place, and the place behind it. -/
def valueAt? (p : Pattern.Expr) (s : Pattern.Place) : Option (Text × Pattern.Place) :=
  p.run flags s fun t =>
    (SecretValue.behindKeyword? t.after).map fun (value, rest) =>
      (value, t.moveTo rest)

/-- The values in the text from a place on. The search goes on behind each value, or else at the next
character. -/
def valuesFrom (p : Pattern.Expr) : Nat → Pattern.Place → List Text
  | 0, _ => []
  | fuel + 1, s =>
    match valueAt? p s with
    | some (value, t) => value :: valuesFrom p fuel t
    | none =>
      match s.forward? with
      | some (_, t) => valuesFrom p fuel t
      | none => []

def values (r : SecretRule) (t : Text) : List Text :=
  valuesFrom r.keyword.pattern.expr (t.length + 1) (.start t)

def isReported (placeholders : List Text) (r : SecretRule) (value : Text) : Bool :=
  r.minLength ≤ value.length && !Placeholder.isPlaceholder placeholders value

def matchesOf (placeholders : List Text) (l : Line) (r : SecretRule) : List SecretMatch :=
  ((values r l.text).filter (isReported placeholders r)).map fun _ => ⟨l.number, r.category⟩

def scan (s : SecretScanner) (ls : List Line) : List SecretMatch :=
  ls.flatMap fun l => s.rules.flatMap (matchesOf s.placeholders l)

def isPlaceholder (s : SecretScanner) (t : Text) : Bool :=
  Placeholder.isPlaceholder s.placeholders t

end SecretScanner

end Onboarding
