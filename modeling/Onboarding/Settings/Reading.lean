import Onboarding.Settings.Basic
import Onboarding.Settings.Issue
import Onboarding.Text.Utf8

namespace Onboarding.Settings

open Issue (Cause Step)

def text : Value → Checked Text
  | .text t => .ok t
  | .bytes bs =>
    match Text.ofUtf8? bs with
    | some t => .ok t
    | none => .fail .noUnicode
  | _ => .fail .noText

def nonEmptyText (v : Value) : Checked Text :=
  (text v).bind fun t => if t = [] then .fail .emptyText else .ok t

def listOf {α : Type} (f : Value → Checked α) : Value → Checked (List α)
  | .list vs | .set vs => .items f 0 vs
  | _ => .fail .noList

def titles (v : Value) : Checked Titles :=
  (listOf text v).bind fun ts =>
    match Titles.ofList? ts with
    | some ts => .ok ts
    | none => .fail .noTitle

def withoutZeros (t : Text) : Text :=
  match t.dropWhile (· ≠ '.') with
  | [] => t
  | _ :: part => if part.all (· == '0') then t.takeWhile (· ≠ '.') else t

def asciiNat? (t : Text) : Option Nat :=
  if t.all fun c => Text.isAsciiDigit c || c == '_' then Text.natIn? 10 t else none

/-- A sign and digits, with single underscores between these and perhaps zeros behind a point. -/
def integerText? (t : Text) : Option Int :=
  match withoutZeros (Text.trimSpace t) with
  | '-' :: rest => (asciiNat? rest).map fun n => -(n : Int)
  | '+' :: rest => (asciiNat? rest).map Int.ofNat
  | rest => (asciiNat? rest).map Int.ofNat

def integerOfText (t : Text) : Checked Int :=
  if Text.longestDecimal < t.length then .fail .tooLong
  else match integerText? t with
    | some n => .ok n
    | none => .fail .textIsNoInteger

def integerOfFloat (x : Binary64) : Checked Int :=
  if !x.isFinite then .fail .notFinite
  else match x.toInt? with
    | some n => if n.natAbs < Issue.wordLimit then .ok n else .fail .tooLong
    | none => .fail .fractional

def integer : Value → Checked Int
  | .int n => .ok n
  | .bool b => .ok (if b then 1 else 0)
  | .float x => integerOfFloat x
  | .text t => integerOfText t
  | .bytes bs =>
    match Text.ofUtf8? bs with
    | some t => integerOfText t
    | none => .fail .textIsNoInteger
  | _ => .fail .noInteger

def numberFrom (least : Nat) (v : Value) : Checked { n : Nat // least ≤ n } :=
  (integer v).bind fun n =>
    if h : (least : Int) ≤ n then .ok ⟨n.toNat, by omega⟩ else .fail (.below least)

def keyword (v : Value) : Checked Keyword :=
  (nonEmptyText v).bind fun t =>
    match Keyword.ofText t with
    | .ok k => .ok k
    | .error .malformed | .error .namedCharacter => .fail .badPattern
    | .error .mixedAlphabets => .fail .mixedAlphabets
    | .error .countTooLarge => .countTooLarge

abbrev Entries := List (Value × Value)

def required {α : Type} (name : Text) (f : Value → Checked α) (es : Entries) : Checked α :=
  .under (.field name) <|
    match Value.entry? name es with
    | some v => f v
    | none => .fail .missing

def optional {α : Type} (name : Text) (default : α) (f : Value → Checked α) (es : Entries) :
    Checked α :=
  match Value.entry? name es with
  | some v => (f v).under (.field name)
  | none => .ok default

def onlyKeys (names : List Text) : Entries → Checked Unit
  | [] => .ok ()
  | (k, _) :: rest =>
    let here : Checked Unit :=
      match k with
      | .text t => if names.contains t then .ok () else .under (.ofKey k) (.fail .unknownKey)
      | _ => .under (.ofKey k) (.fail .keyIsNoText)
    (here.map fun _ u => u).and (onlyKeys names rest)

def entriesOf (t : Issue.Target) : Value → Checked Entries
  | .map es => .ok es
  | _ => .fail (.noMapping t)

namespace Field

def category : Text := "category".toList
def pattern : Text := "pattern".toList
def minLength : Text := "min_length".toList
def secretRules : Text := "secret_rules".toList
def secretPlaceholders : Text := "secret_placeholders".toList
def agentsSections : Text := "agents_sections".toList
def minCodeBlocks : Text := "min_code_blocks".toList
def skillRequiredFields : Text := "skill_required_fields".toList
def skillPurposeTitles : Text := "skill_purpose_titles".toList
def skillTriggerTitles : Text := "skill_trigger_titles".toList
def configRequiredKeys : Text := "config_required_keys".toList
def approvalPolicies : Text := "approval_policies".toList
def sandboxModes : Text := "sandbox_modes".toList

def ofRule : List Text := [category, pattern, minLength]

def ofSettings : List Text :=
  [secretRules, secretPlaceholders, agentsSections, minCodeBlocks, skillRequiredFields,
   skillPurposeTitles, skillTriggerTitles, configRequiredKeys, approvalPolicies, sandboxModes]

end Field

def categoryText (v : Value) : Checked { t : Text // t ≠ [] } :=
  (text v).bind fun t => if h : t ≠ [] then .ok ⟨t, h⟩ else .fail .emptyText

def ruleOf (c : { t : Text // t ≠ [] }) (k : Keyword) (n : { n : Nat // 1 ≤ n }) (_ : Unit) :
    SecretRule :=
  ⟨c.1, k, n.1, c.2, n.2⟩

def ruleOfEntries (es : Entries) : Checked SecretRule :=
  ((((Checked.ok ruleOf).and (required Field.category categoryText es)).and
    (required Field.pattern keyword es)).and
    (optional Field.minLength ⟨defaultMinLength, one_le_defaultMinLength⟩ (numberFrom 1) es)).and
    (onlyKeys Field.ofRule es)

def secretRule (v : Value) : Checked SecretRule := (entriesOf .secretRule v).bind ruleOfEntries

def settingsOf (rules : List SecretRule) (placeholders sections : List Text)
    (blocks : { n : Nat // 0 ≤ n }) (required : List Text) (purpose trigger : Titles)
    (keys policies modes : List Text) (_ : Unit) : Settings :=
  ⟨rules, placeholders, sections, blocks.1, required, purpose, trigger, keys, policies, modes⟩

def ofEntries (es : Entries) : Checked Settings :=
  let d := default
  ((((((((((((Checked.ok settingsOf).and
    (optional Field.secretRules d.secretRules (listOf secretRule) es)).and
    (optional Field.secretPlaceholders d.secretPlaceholders (listOf text) es)).and
    (optional Field.agentsSections d.agentsSections (listOf text) es)).and
    (optional Field.minCodeBlocks ⟨d.minCodeBlocks, Nat.zero_le _⟩ (numberFrom 0) es)).and
    (optional Field.skillRequiredFields d.skillRequiredFields (listOf text) es)).and
    (optional Field.skillPurposeTitles d.skillPurposeTitles titles es)).and
    (optional Field.skillTriggerTitles d.skillTriggerTitles titles es)).and
    (optional Field.configRequiredKeys d.configRequiredKeys (listOf text) es)).and
    (optional Field.approvalPolicies d.approvalPolicies (listOf text) es)).and
    (optional Field.sandboxModes d.sandboxModes (listOf text) es)).and
    (onlyKeys Field.ofSettings es))

/-- What keys are not given keep their defaults. -/
def ofValue (v : Value) : Checked Settings := (entriesOf .settings v).bind ofEntries

end Onboarding.Settings
