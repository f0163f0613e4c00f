import Onboarding.Kind
import Onboarding.Proofs.Text.Pieces

namespace Onboarding.DocumentKind

open Text (splitOn)

variable {k : DocumentKind} {name tail : Text}

/-- The components of a path. Two dots are one, a single dot and what is empty are none. -/
def components (path : Text) : List Text := (splitOn '/' path).filter fun t => !(t.isEmpty || t == ['.'])

structure IsComponent (name : Text) : Prop where
  ne_nil : name ≠ []
  ne_dot : name ≠ ['.']
  slash_not_mem : '/' ∉ name

/-- Slashes, with a dot behind some of them. -/
inductive IsTail : Text → Prop
  | nil : IsTail []
  | slash {tail : Text} (h : IsTail tail) : IsTail ('/' :: tail)
  | dot {tail : Text} (h : IsTail tail) : IsTail ('/' :: '.' :: tail)

theorem components_append_slash (t rest : Text) :
    components (t ++ '/' :: rest) = components t ++ components rest := by
  rw [components, Text.splitOn_append_sep, List.filter_append, components, components]

theorem IsComponent.components_eq (h : IsComponent name) : components name = [name] := by
  rw [components, Text.splitOn_of_not_mem h.slash_not_mem]
  simp [h.ne_nil, h.ne_dot]

theorem IsTail.components_append (h : IsTail tail) (t : Text) : components (t ++ tail) = components t := by
  induction h generalizing t with
  | nil => rw [List.append_nil]
  | slash _ ih =>
      have hempty := ih []
      rw [List.nil_append] at hempty
      rw [components_append_slash, hempty]
      exact List.append_nil _
  | dot _ ih =>
      have hdot := ih ['.']
      rw [List.singleton_append] at hdot
      rw [components_append_slash, hdot]
      exact List.append_nil _

theorem lastComponent_eq (path : Text) : lastComponent path = (components path).getLast?.getD [] := rfl

theorem IsComponent.lastComponent_eq (h : IsComponent name) : lastComponent name = name := by
  rw [DocumentKind.lastComponent_eq, h.components_eq]
  rfl

theorem IsComponent.lastComponent_append (h : IsComponent name) (ht : IsTail tail) (dir : Text) :
    lastComponent (dir ++ '/' :: (name ++ tail)) = name := by
  rw [DocumentKind.lastComponent_eq, components_append_slash, ht.components_append, h.components_eq,
    List.getLast?_concat, Option.getD_some]

theorem find?_fileName_eq_some_iff {t : Text} : all.find? (·.fileName == t) = some k ↔ t = k.fileName := by
  constructor
  · intro h
    have hname : k.fileName = t := by simpa using List.find?_some h
    exact hname.symm
  · rintro rfl
    cases k <;> rfl

theorem IsComponent.ofFileName?_eq_some_iff (h : IsComponent name) :
    ofFileName? name = some k ↔ Text.lower name = k.fileName := by
  rw [ofFileName?, h.lastComponent_eq, find?_fileName_eq_some_iff]

/-- The kind of a path is that of its last component, which has one just if it is one of three names when it is
written in small letters. -/
theorem ofFileName?_append (h : IsComponent name) (ht : IsTail tail) (dir : Text) :
    ofFileName? (dir ++ '/' :: (name ++ tail)) = ofFileName? name ∧
    (ofFileName? name = some .agents ↔ Text.lower name = "agents.md".toList) ∧
    (ofFileName? name = some .skill ↔ Text.lower name = "skill.md".toList) ∧
    (ofFileName? name = some .config ↔ Text.lower name = "config.toml".toList) := by
  refine ⟨?_, h.ofFileName?_eq_some_iff, h.ofFileName?_eq_some_iff, h.ofFileName?_eq_some_iff⟩
  rw [ofFileName?, h.lastComponent_append ht, ofFileName?, h.lastComponent_eq]

def kelvinSkill : Text := "S\u212AILL.md".toList

theorem ofFileName?_append_kelvinSkill :
    IsComponent kelvinSkill ∧ IsTail "/.//.".toList ∧
      ofFileName? ("//a/..".toList ++ '/' :: (kelvinSkill ++ "/.//.".toList)) = some .skill := by
  have hname : IsComponent kelvinSkill := ⟨by decide, by decide, by decide⟩
  have htail : IsTail "/.//.".toList := .dot (.slash (.dot .nil))
  obtain ⟨hpath, -, hskill, -⟩ := ofFileName?_append hname htail "//a/..".toList
  exact ⟨hname, htail, hpath.trans (hskill.mpr (by decide +kernel))⟩

end Onboarding.DocumentKind
