import Mathlib.Algebra.BigOperators.Group.List.Basic
import Mathlib.Data.List.Nodup
import Onboarding.Proofs.Settings.Counts
import Onboarding.Table

namespace Onboarding

namespace Checked

variable {α β : Type}

/-- What is said of a reading, without what was read. -/
def verdict (x : Checked α) : Checked Unit := x.map fun _ => ()

def issuesIn : Checked α → List Issue
  | .issues is => is
  | _ => []

instance : Zero (Checked Unit) := ⟨.ok ()⟩

instance : Add (Checked Unit) := ⟨fun x y => (x.map fun _ u => u).and y⟩

theorem zero_def : (0 : Checked Unit) = .ok () := rfl

theorem add_def (x y : Checked Unit) : x + y = (x.map fun _ u => u).and y := rfl

/-- Verdicts on the parts of a thing make up one on the whole. -/
instance : AddMonoid (Checked Unit) where
  add_assoc x y z := by
    cases x <;> cases y <;> cases z <;> simp [add_def, map, and]
  zero_add x := by cases x <;> rfl
  add_zero x := by cases x <;> rfl
  nsmul := nsmulRec

@[simp] theorem verdict_ok (a : α) : (ok a).verdict = 0 := rfl

theorem verdict_unit (x : Checked Unit) : x.verdict = x := by cases x <;> rfl

theorem verdict_and (g : Checked (α → β)) (x : Checked α) : (g.and x).verdict = g.verdict + x.verdict := by
  cases g <;> cases x <;> rfl

theorem issuesIn_verdict (x : Checked α) : x.verdict.issuesIn = x.issuesIn := by cases x <;> rfl

theorem verdict_eq_zero_iff {x : Checked α} : x.verdict = 0 ↔ ∃ a, x = .ok a := by
  cases x with
  | ok a => exact iff_of_true rfl ⟨a, rfl⟩
  | issues is => exact iff_of_false nofun nofun
  | countTooLarge => exact iff_of_false nofun nofun

theorem verdict_eq_countTooLarge_iff {x : Checked α} : x.verdict = .countTooLarge ↔ x = .countTooLarge :=
  map_eq_countTooLarge_iff

theorem add_eq_zero_iff {x y : Checked Unit} : x + y = 0 ↔ x = 0 ∧ y = 0 := by
  cases x <;> cases y <;> simp [zero_def, add_def, map, and]

theorem add_eq_countTooLarge_iff {x y : Checked Unit} :
    x + y = .countTooLarge ↔ x = .countTooLarge ∨ y = .countTooLarge := by
  rw [add_def, and_eq_countTooLarge_iff, map_eq_countTooLarge_iff]

theorem issuesIn_add {x y : Checked Unit} (h : x + y ≠ .countTooLarge) :
    (x + y).issuesIn = x.issuesIn ++ y.issuesIn := by
  rw [Ne, add_eq_countTooLarge_iff, not_or] at h
  cases x with
  | ok u => exact congrArg issuesIn (zero_add y)
  | issues is =>
      cases y with
      | ok u => exact (List.append_nil is).symm
      | issues js => rfl
      | countTooLarge => exact absurd rfl h.2
  | countTooLarge => exact absurd rfl h.1

theorem sum_eq_zero_iff {xs : List (Checked Unit)} : xs.sum = 0 ↔ ∀ x ∈ xs, x = 0 := by
  induction xs with
  | nil => exact iff_of_true rfl nofun
  | cons x xs ih => rw [List.sum_cons, add_eq_zero_iff, ih, List.forall_mem_cons]

theorem sum_eq_countTooLarge_iff {xs : List (Checked Unit)} :
    xs.sum = .countTooLarge ↔ .countTooLarge ∈ xs := by
  induction xs with
  | nil => exact iff_of_false nofun List.not_mem_nil
  | cons x xs ih => rw [List.sum_cons, add_eq_countTooLarge_iff, ih, List.mem_cons, eq_comm]

theorem issuesIn_sum {xs : List (Checked Unit)} (h : xs.sum ≠ .countTooLarge) :
    xs.sum.issuesIn = xs.flatMap issuesIn := by
  induction xs with
  | nil => rfl
  | cons x xs ih =>
      rw [List.sum_cons] at h
      have hrest : xs.sum ≠ .countTooLarge := fun hxs => h (add_eq_countTooLarge_iff.mpr (.inr hxs))
      rw [List.sum_cons, issuesIn_add h, ih hrest, List.flatMap_cons]

theorem sum_map_filter {p : α → Prop} [DecidablePred p] {f : α → Checked Unit} {xs : List α}
    (h : ∀ x ∈ xs, ¬p x → f x = 0) : ((xs.filter p).map f).sum = (xs.map f).sum := by
  induction xs with
  | nil => rfl
  | cons x xs ih =>
      rw [List.forall_mem_cons] at h
      by_cases hx : p x
      · rw [List.filter_cons_of_pos (by simpa using hx), List.map_cons, List.map_cons, List.sum_cons,
          List.sum_cons, ih h.2]
      · rw [List.filter_cons_of_neg (by simpa using hx), ih h.2, List.map_cons, List.sum_cons, h.1 hx,
          zero_add]

end Checked

namespace Value

def entries (m : Table Text Value) : List (Value × Value) := m.map fun e => (.text e.1, e.2)

def object (m : Table Text Value) : Value := .map (entries m)

theorem entry?_entries (name : Text) (m : Table Text Value) : entry? name (entries m) = m.get? name := by
  induction m with
  | nil => rfl
  | cons e m ih =>
      change (if e.1 = name then some e.2 else entry? name (entries m)) = _
      rw [ih]
      rfl

end Value

/-- The fields of the settings. -/
inductive Setting
  | secretRules | secretPlaceholders | agentsSections | minCodeBlocks | skillRequiredFields
  | skillPurposeTitles | skillTriggerTitles | configRequiredKeys | approvalPolicies | sandboxModes
deriving DecidableEq

namespace Setting

open Settings

def all : List Setting :=
  [secretRules, secretPlaceholders, agentsSections, minCodeBlocks, skillRequiredFields,
   skillPurposeTitles, skillTriggerTitles, configRequiredKeys, approvalPolicies, sandboxModes]

def name : Setting → Text
  | secretRules => Field.secretRules
  | secretPlaceholders => Field.secretPlaceholders
  | agentsSections => Field.agentsSections
  | minCodeBlocks => Field.minCodeBlocks
  | skillRequiredFields => Field.skillRequiredFields
  | skillPurposeTitles => Field.skillPurposeTitles
  | skillTriggerTitles => Field.skillTriggerTitles
  | configRequiredKeys => Field.configRequiredKeys
  | approvalPolicies => Field.approvalPolicies
  | sandboxModes => Field.sandboxModes

def Data : Setting → Type
  | secretRules => List SecretRule
  | minCodeBlocks => { n : Nat // 0 ≤ n }
  | skillPurposeTitles | skillTriggerTitles => Titles
  | _ => List Text

def of (s : Settings) : (f : Setting) → f.Data
  | secretRules => s.secretRules
  | secretPlaceholders => s.secretPlaceholders
  | agentsSections => s.agentsSections
  | minCodeBlocks => ⟨s.minCodeBlocks, Nat.zero_le _⟩
  | skillRequiredFields => s.skillRequiredFields
  | skillPurposeTitles => s.skillPurposeTitles
  | skillTriggerTitles => s.skillTriggerTitles
  | configRequiredKeys => s.configRequiredKeys
  | approvalPolicies => s.approvalPolicies
  | sandboxModes => s.sandboxModes

def read : (f : Setting) → Value → Checked f.Data
  | secretRules => listOf secretRule
  | minCodeBlocks => numberFrom 0
  | skillPurposeTitles | skillTriggerTitles => titles
  | secretPlaceholders | agentsSections | skillRequiredFields | configRequiredKeys | approvalPolicies
  | sandboxModes => listOf text

def checked (f : Setting) (es : Entries) : Checked f.Data := optional f.name (of default f) f.read es

def record (d : (f : Setting) → f.Data) : Settings :=
  settingsOf (d secretRules) (d secretPlaceholders) (d agentsSections) (d minCodeBlocks)
    (d skillRequiredFields) (d skillPurposeTitles) (d skillTriggerTitles) (d configRequiredKeys)
    (d approvalPolicies) (d sandboxModes) ()

theorem of_record (d : (f : Setting) → f.Data) (f : Setting) : of (record d) f = d f := by
  cases f <;> rfl

theorem mem_all (f : Setting) : f ∈ all := by cases f <;> decide

theorem nodup_all : all.Nodup := by decide

theorem map_name_all : all.map name = Field.ofSettings := rfl

theorem nodup_names : Field.ofSettings.Nodup := by decide

theorem name_mem (f : Setting) : f.name ∈ Field.ofSettings := by
  rw [← map_name_all]
  exact List.mem_map_of_mem (mem_all f)

theorem name_inj {f g : Setting} (h : f.name = g.name) : f = g :=
  List.inj_on_of_nodup_map (map_name_all ▸ nodup_names) (mem_all f) (mem_all g) h

theorem checked_congr {f : Setting} {m m' : Table Text Value} (h : m.get? f.name = m'.get? f.name) :
    f.checked (Value.entries m) = f.checked (Value.entries m') := by
  rw [checked, checked, Settings.optional, Settings.optional, Value.entry?_entries, Value.entry?_entries, h]

theorem checked_of_not_mem {f : Setting} {m : Table Text Value} (h : f.name ∉ m.keys) :
    f.checked (Value.entries m) = .ok (of default f) := by
  rw [← Table.get?_eq_none_iff, ← Table.get?_nil f.name] at h
  exact checked_congr h

end Setting

namespace Settings

open Checked Setting

variable {es : Entries} {m : Table Text Value} {s : Settings}

theorem ofEntries_eq (es : Entries) : ofEntries es =
    (((((((((((Checked.ok settingsOf).and (checked .secretRules es)).and
      (checked .secretPlaceholders es)).and (checked .agentsSections es)).and
      (checked .minCodeBlocks es)).and (checked .skillRequiredFields es)).and
      (checked .skillPurposeTitles es)).and (checked .skillTriggerTitles es)).and
      (checked .configRequiredKeys es)).and (checked .approvalPolicies es)).and
      (checked .sandboxModes es)).and (onlyKeys Field.ofSettings es) := rfl

theorem verdict_ofEntries (es : Entries) : (ofEntries es).verdict =
    (Setting.all.map fun f => (f.checked es).verdict).sum + onlyKeys Field.ofSettings es := by
  simp only [ofEntries, verdict_and, verdict_ok, verdict_unit, zero_add, Setting.all, List.map_cons,
    List.map_nil, List.sum_cons, List.sum_nil, add_zero, add_assoc]
  rfl

theorem ofEntries_of_checked {d : (f : Setting) → f.Data} (h : ∀ f : Setting, f.checked es = .ok (d f))
    (hkeys : onlyKeys Field.ofSettings es = 0) : ofEntries es = .ok (record d) := by
  simp only [ofEntries_eq, h, hkeys]
  rfl

theorem ofEntries_eq_ok_iff : ofEntries es = .ok s ↔
    (∀ f : Setting, f.checked es = .ok (of s f)) ∧ onlyKeys Field.ofSettings es = 0 := by
  refine ⟨fun h => ?_, fun h => ofEntries_of_checked h.1 h.2⟩
  have hv := verdict_eq_zero_iff.mpr ⟨s, h⟩
  rw [verdict_ofEntries, add_eq_zero_iff, sum_eq_zero_iff, List.forall_mem_map] at hv
  choose d hd using fun f : Setting => verdict_eq_zero_iff.mp (hv.1 f (mem_all f))
  rw [ofEntries_of_checked hd hv.2] at h
  cases h
  exact ⟨fun f => (of_record d f).symm ▸ hd f, hv.2⟩

theorem onlyKeys_eq_sum (names : List Text) (es : Entries) :
    onlyKeys names es = (es.map fun e => onlyKeys names [e]).sum := by
  induction es with
  | nil => rfl
  | cons e es ih =>
      obtain ⟨k, v⟩ := e
      rw [List.map_cons, List.sum_cons, ← ih]
      exact congrArg (· + onlyKeys names es) (add_zero _).symm

theorem onlyKeys_of_mem {names : List Text} {name : Text} (h : name ∈ names) (v : Value) :
    onlyKeys names [(.text name, v)] = 0 := by
  rw [onlyKeys, onlyKeys, if_pos (List.contains_iff_mem.mpr h)]
  rfl

theorem verdict_ofValue_field (f : Setting) (v : Value) :
    (ofValue (.object [(f.name, v)])).verdict = (f.checked (Value.entries [(f.name, v)])).verdict := by
  have hothers : ∀ g, g ≠ f → g ∈ Setting.all → (g.checked (Value.entries [(f.name, v)])).verdict = 0 := by
    intro g hg _
    have hne : g.name ∉ Table.keys [(f.name, v)] := fun hmem => hg (name_inj (Table.mem_keys_singleton.mp hmem))
    rw [checked_of_not_mem hne, verdict_ok]
  change (ofEntries (Value.entries _)).verdict = _
  rw [verdict_ofEntries, List.sum_map_eq_nsmul_single f _ hothers,
    List.count_eq_one_of_mem nodup_all (mem_all f), one_nsmul]
  exact (congrArg _ (onlyKeys_of_mem (name_mem f) v)).trans (add_zero _)

theorem verdict_ofValue_unknown {e : Text × Value} (h : e.1 ∉ Field.ofSettings) :
    (ofValue (.object [e])).verdict = onlyKeys Field.ofSettings (Value.entries [e]) := by
  have hfields : ∀ x ∈ Setting.all.map fun f => (f.checked (Value.entries [e])).verdict, x = 0 := by
    rw [List.forall_mem_map]
    intro f _
    have hne : f.name ∉ Table.keys [e] := fun hmem => h (Table.mem_keys_singleton.mp hmem ▸ name_mem f)
    rw [checked_of_not_mem hne, verdict_ok]
  change (ofEntries (Value.entries _)).verdict = _
  rw [verdict_ofEntries, sum_eq_zero_iff.mpr hfields, zero_add]

/-- The entries under the fields, in the order of these, and then the others. -/
def inOrder (m : Table Text Value) : Table Text Value :=
  (Setting.all.flatMap fun f => m.filter fun e => e.1 = f.name) ++ m.filter fun e => e.1 ∉ Field.ofSettings

theorem mem_inOrder {e : Text × Value} : e ∈ inOrder m ↔ e ∈ m := by
  simp only [inOrder, List.mem_append, List.mem_flatMap, List.mem_filter, decide_eq_true_eq]
  constructor
  · rintro (⟨_, _, he, _⟩ | ⟨he, _⟩) <;> exact he
  · intro he
    by_cases hname : e.1 ∈ Field.ofSettings
    · rw [← map_name_all] at hname
      obtain ⟨f, hf, hfe⟩ := List.mem_map.mp hname
      exact .inl ⟨f, hf, he, hfe.symm⟩
    · exact .inr ⟨he, hname⟩

theorem verdict_checked (h : m.keys.Nodup) (f : Setting) : (f.checked (Value.entries m)).verdict =
    ((m.filter fun e => e.1 = f.name).map fun e => (ofValue (.object [e])).verdict).sum := by
  rw [Table.filter_key_eq h]
  cases hget : m.get? f.name with
  | none =>
      rw [checked_of_not_mem (Table.get?_eq_none_iff.mp hget)]
      rfl
  | some v =>
      have hsame : m.get? f.name = Table.get? f.name [(f.name, v)] := by
        rw [hget, Table.get?_cons, if_pos rfl]
      rw [checked_congr hsame, ← verdict_ofValue_field]
      exact (add_zero _).symm

theorem onlyKeys_entries (m : Table Text Value) : onlyKeys Field.ofSettings (Value.entries m) =
    ((m.filter fun e => e.1 ∉ Field.ofSettings).map fun e => (ofValue (.object [e])).verdict).sum := by
  have hunknown : ∀ e ∈ m.filter fun e => e.1 ∉ Field.ofSettings,
      (ofValue (.object [e])).verdict = onlyKeys Field.ofSettings (Value.entries [e]) :=
    fun e he => verdict_ofValue_unknown (of_decide_eq_true (List.mem_filter.mp he).2)
  have hknown : ∀ e ∈ m, ¬e.1 ∉ Field.ofSettings → onlyKeys Field.ofSettings (Value.entries [e]) = 0 :=
    fun e _ he => onlyKeys_of_mem (not_not.mp he) e.2
  rw [List.map_congr_left hunknown, sum_map_filter hknown, onlyKeys_eq_sum, Value.entries, List.map_map]
  rfl

theorem verdict_ofValue_object (h : m.keys.Nodup) : (ofValue (.object m)).verdict =
    ((inOrder m).map fun e => (ofValue (.object [e])).verdict).sum := by
  change (ofEntries (Value.entries m)).verdict = _
  rw [verdict_ofEntries, inOrder, List.map_append, List.sum_append, ← onlyKeys_entries, List.map_flatMap,
    List.flatMap_def, List.sum_flatten, List.map_map,
    List.map_congr_left fun f _ => verdict_checked h f]
  rfl

end Settings

end Onboarding
