import Onboarding.Engine
import Onboarding.Proofs.Config.Reading
import Onboarding.Proofs.Secret.Search

namespace Onboarding

namespace Section

def scan? (ls : List Line) : Option (List Section) :=
  if ls.isEmpty then some []
  else do
    let last ← ls.getLast?
    return ofHeadings last.number (headings ls)

theorem scan?_eq (ls : List Line) : scan? ls = some (scan ls) := by
  cases ls with
  | nil => rfl
  | cons l ls =>
      rw [scan?, scan, List.getLast?_cons]
      rfl

end Section

namespace FrontMatter

def ofLines? (ls : List Line) : Option FrontMatter :=
  if ls.isEmpty then some .absent
  else do
    let first ← ls.head?
    return if first.text = marker then
      match ls.tail.find? (·.text = marker) with
      | none => .unclosed first.number
      | some m =>
        .closed first.number m.number
          (Table.ofList (fieldsOf ((ls.tail.takeWhile (·.text ≠ marker)).map (·.text))))
      else .absent

theorem ofLines?_eq (ls : List Line) : ofLines? ls = some (ofLines ls) := by
  cases ls <;> rfl

end FrontMatter

namespace Config

def assignIn? (name key value : Text) (c : Config) : Option Config := do
  let entries ← c.sections.get? name
  return { c with sections := c.sections.insert name (entries.insert key value) }

def Reader.next? (r : Reader) (l : Line) : Option Reader :=
  match Entry.ofText l.text with
  | .header name => some ⟨r.config.openSection name, some name⟩
  | .assignment key value =>
    match r.current with
    | none => some { r with config := r.config.assignTop l.number key value }
    | some name => do
      let config ← r.config.assignIn? name key value
      return { r with config }
  | .other => some r

def read? (content : Text) : Option Config := do
  let r ← (Line.index content).foldlM Reader.next? {}
  return r.config

theorem assignIn?_eq {c : Config} {name : Text} (h : name ∈ c.sections.keys) (key value : Text) :
    c.assignIn? name key value = some (c.assignIn name key value) := by
  obtain ⟨entries, he⟩ := Option.isSome_iff_exists.mp ((Table.mem_keys_iff _ _).mp h)
  rw [assignIn?, assignIn, he]
  rfl

theorem Reader.Follows.next?_eq {r : Reader} {ls : List Line} (h : r.Follows ls) (l : Line) :
    r.next? l = some (r.next l) := by
  rw [Reader.next?, Reader.next]
  cases Entry.ofText l.text with
  | header name => rfl
  | assignment key value =>
      cases hc : r.current with
      | none => rfl
      | some name =>
          simp only [assignIn?_eq (h.mem_sections hc)]
          rfl
  | other => rfl

theorem Reader.Follows.foldlM_next? {r : Reader} {ls : List Line} (h : r.Follows ls)
    (rest : List Line) : rest.foldlM Reader.next? r = some (rest.foldl Reader.next r) := by
  induction rest generalizing ls r with
  | nil => rfl
  | cons l rest ih =>
      rw [List.foldlM_cons, h.next?_eq l]
      exact ih (h.next l)

theorem read?_eq (content : Text) : read? content = some (read content) := by
  rw [read?, Reader.follows_nil.foldlM_next?]
  rfl

end Config

namespace Agents

def check? (settings : Settings) (s : SecretScanner) (content : Text) : Option Report := do
  let ls := Line.index content
  let secrets ← s.scan? ls
  let sections ← Section.scan? ls
  let errors := titleErrors ls ++ secrets.map .secret
  let warnings := sectionWarnings settings.agentsSections sections ++ skillWarnings ls
    ++ exampleWarnings settings.minCodeBlocks ls
  return ⟨errors.map Error.diagnostic, warnings.map Warning.diagnostic⟩

theorem check?_eq (settings : Settings) (s : SecretScanner) (content : Text) :
    check? settings s content = some (check settings s content) := by
  simp only [check?, SecretScanner.scan?_eq, Section.scan?_eq]
  rfl

end Agents

namespace Skill

def Warning.diagnostic? : Warning → Option Diagnostic
  | .noPurpose titles => do
    let first ← titles.toList.head?
    return (Warning.noPurpose { titles with first }).diagnostic
  | .noTrigger titles => do
    let first ← titles.toList.head?
    return (Warning.noTrigger { titles with first }).diagnostic

def warnings? (settings : Settings) (ls : List Line) : FrontMatter → Option (List Warning)
  | .unclosed _ => some []
  | m => do
    let sections ← Section.scan? (FrontMatter.body ls m)
    return (if (Section.find? sections settings.skillPurposeTitles.toList).isNone then
        [.noPurpose settings.skillPurposeTitles] else [])
      ++ if (Section.find? sections settings.skillTriggerTitles.toList).isNone then
        [.noTrigger settings.skillTriggerTitles] else []

def check? (settings : Settings) (content : Text) : Option Report := do
  let ls := Line.index content
  let m ← FrontMatter.ofLines? ls
  let warnings ← warnings? settings ls m
  let diagnostics ← warnings.mapM Warning.diagnostic?
  return ⟨(errors settings.skillRequiredFields m).map Error.diagnostic, diagnostics⟩

theorem Warning.diagnostic?_eq (w : Warning) : w.diagnostic? = some w.diagnostic := by
  cases w <;> rfl

theorem warnings?_eq (settings : Settings) (ls : List Line) (m : FrontMatter) :
    warnings? settings ls m = some (warnings settings ls m) := by
  cases m with
  | unclosed first => rfl
  | absent | closed =>
      simp only [warnings?, Section.scan?_eq]
      rfl

theorem check?_eq (settings : Settings) (content : Text) :
    check? settings content = some (check settings content) := by
  simp only [check?, FrontMatter.ofLines?_eq, warnings?_eq, Option.bind_eq_bind, Option.bind_some,
    mapM_eq_some fun w _ => Warning.diagnostic?_eq w]
  rfl

end Skill

namespace Tool

def check? (settings : Settings) (content : Text) : Option Report := do
  let c ← Config.read? content
  return ⟨(errors settings c).map Error.diagnostic, (warnings c).map Warning.diagnostic⟩

theorem check?_eq (settings : Settings) (content : Text) :
    check? settings content = some (check settings content) := by
  rw [check?, Config.read?_eq]
  rfl

end Tool

namespace Engine

def validate? (e : Engine) (k : DocumentKind) (content : Text) : Option Report :=
  match k with
  | .agents => Agents.check? e.settings e.scanner content
  | .skill => Skill.check? e.settings content
  | .config => Tool.check? e.settings content

/-- Once the engine is there, whatever the kind and the content, no operation fails on the way to the
report. -/
theorem validate?_eq (e : Engine) (k : DocumentKind) (content : Text) :
    e.validate? k content = some (e.validate k content) := by
  cases k with
  | agents => exact Agents.check?_eq e.settings e.scanner content
  | skill => exact Skill.check?_eq e.settings content
  | config => exact Tool.check?_eq e.settings content

end Engine

end Onboarding
