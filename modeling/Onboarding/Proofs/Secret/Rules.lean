import Mathlib.Data.List.Forall2
import Onboarding.Proofs.Document.Lines
import Onboarding.Secret.Scanner

namespace Onboarding

open List (Forall₂)

/-- The same rule with a larger least length. -/
structure SecretRule.IsRaised (r raised : SecretRule) : Prop where
  category : raised.category = r.category
  keyword : raised.keyword = r.keyword
  minLength : r.minLength ≤ raised.minLength

/-- The same rules with larger least lengths, and more placeholders. -/
structure Settings.IsStricter (settings stricter : Settings) : Prop where
  rules : Forall₂ SecretRule.IsRaised settings.secretRules stricter.secretRules
  placeholders : settings.secretPlaceholders ⊆ stricter.secretPlaceholders

theorem sublist_flatMap_of_forall₂ {α β γ : Type} {R : α → β → Prop} {f : α → List γ} {g : β → List γ}
    (h : ∀ a b, R a b → (f a).Sublist (g b)) {as : List α} {bs : List β} (hab : Forall₂ R as bs) :
    (as.flatMap f).Sublist (bs.flatMap g) := by
  induction hab with
  | nil => exact .slnil
  | cons hr _ ih =>
      rw [List.flatMap_cons, List.flatMap_cons]
      exact (h _ _ hr).append ih

theorem Placeholder.isPlaceholder_mono {listed more : List Text} (h : listed ⊆ more) {value : Text}
    (hv : isPlaceholder listed value = true) : isPlaceholder more value = true := by
  simp only [isPlaceholder, Bool.or_eq_true, List.contains_iff_mem] at hv ⊢
  exact hv.imp (fun hm => List.map_subset Text.lower h hm) id

namespace SecretScanner

variable {settings stricter : Settings} {s : SecretScanner} {r raised : SecretRule}

theorem ofSettings_eq_ok_iff : ofSettings settings = .ok s ↔
    s.rules = settings.secretRules ∧ s.placeholders = settings.secretPlaceholders := by
  constructor
  · intro h
    unfold ofSettings at h
    split at h
    · cases h
    · cases h
      exact ⟨rfl, rfl⟩
  · obtain ⟨rules, placeholders, usable⟩ := s
    rintro ⟨rfl, rfl⟩
    exact ofSettings_eq_ok usable

/-- What a scanner with no other rule finds in a line that stands alone. -/
def scanAlone (settings : Settings) (r : SecretRule) (l : Line) : List SecretMatch :=
  match ofSettings { settings with secretRules := [r] } with
  | .ok s => s.scan [l]
  | .error _ => []

theorem exists_ofSettings_alone (settings : Settings) (h : r.keyword.isUsable) :
    ∃ s, ofSettings { settings with secretRules := [r] } = .ok s :=
  ⟨_, ofSettings_eq_ok fun _ hq => by rw [List.mem_singleton.mp hq]; exact h⟩

theorem scanAlone_eq (h : r.keyword.isUsable) (l : Line) :
    scanAlone settings r l = matchesOf settings.secretPlaceholders l r := by
  obtain ⟨s, hs⟩ := exists_ofSettings_alone settings h
  obtain ⟨hrules, hplaceholders⟩ := ofSettings_eq_ok_iff.mp hs
  simp only [scanAlone, hs, scan, hrules, hplaceholders, List.flatMap_cons, List.flatMap_nil,
    List.append_nil]

theorem scan_eq_flatMap (h : ofSettings settings = .ok s) (ls : List Line) :
    s.scan ls = ls.flatMap fun l => settings.secretRules.flatMap fun r => scanAlone settings r l := by
  obtain ⟨hrules, hplaceholders⟩ := ofSettings_eq_ok_iff.mp h
  have husable := s.usable
  rw [hrules] at husable
  rw [scan, hrules, hplaceholders]
  refine List.flatMap_congr fun l _ => List.flatMap_congr fun r hr => ?_
  rw [scanAlone_eq (husable r hr)]

theorem line_of_mem_matchesOf {placeholders : List Text} {l : Line} {m : SecretMatch}
    (h : m ∈ matchesOf placeholders l r) : m.line = l.number := by
  obtain ⟨-, -, rfl⟩ := List.mem_map.mp h
  rfl

theorem pairwise_line_scan (s : SecretScanner) {ls : List Line}
    (h : ls.Pairwise fun l k => l.number ≤ k.number) :
    (s.scan ls).Pairwise fun m k => m.line ≤ k.line := by
  have hline : ∀ l, ∀ m ∈ s.rules.flatMap (matchesOf s.placeholders l), m.line = l.number := by
    intro l m hm
    obtain ⟨r, -, hm⟩ := List.mem_flatMap.mp hm
    exact line_of_mem_matchesOf hm
  refine List.pairwise_flatMap.mpr ⟨fun l _ => ?_, h.imp fun hlk m hm n hn => ?_⟩
  · exact List.pairwise_of_forall_mem_list fun m hm n hn =>
      Nat.le_of_eq ((hline l m hm).trans (hline l n hn).symm)
  · rw [hline _ m hm, hline _ n hn]
    exact hlk

theorem isReported_mono {listed more : List Text} (h : r.IsRaised raised) (hp : listed ⊆ more)
    {value : Text} (hv : isReported more raised value = true) : isReported listed r value = true := by
  simp only [isReported, Bool.and_eq_true, decide_eq_true_eq, Bool.not_eq_true'] at hv ⊢
  refine ⟨Nat.le_trans h.minLength hv.1, ?_⟩
  rw [Bool.eq_false_iff]
  intro hlisted
  rw [Placeholder.isPlaceholder_mono hp hlisted] at hv
  cases hv.2

theorem matchesOf_sublist {listed more : List Text} (h : r.IsRaised raised) (hp : listed ⊆ more)
    (l : Line) : (matchesOf more l raised).Sublist (matchesOf listed l r) := by
  have hvalues : values raised l.text = values r l.text := by rw [values, values, h.keyword]
  have hfilter : ((values r l.text).filter (isReported more raised)).Sublist
      ((values r l.text).filter (isReported listed r)) :=
    List.monotone_filter_right _ fun value hv => isReported_mono h hp hv
  rw [matchesOf, matchesOf, hvalues, h.category]
  exact hfilter.map _

theorem isUsable_of_isStricter (h : settings.IsStricter stricter)
    (hu : ∀ r ∈ settings.secretRules, r.keyword.isUsable) :
    ∀ r ∈ stricter.secretRules, r.keyword.isUsable := by
  have hrules := h.rules
  generalize settings.secretRules = rules, stricter.secretRules = raised at hrules hu
  induction hrules with
  | nil => exact fun _ hr => absurd hr List.not_mem_nil
  | cons hraised _ ih =>
      rw [List.forall_mem_cons] at hu ⊢
      exact ⟨by rw [hraised.keyword]; exact hu.1, ih hu.2⟩

theorem exists_scan_sublist (h : ofSettings settings = .ok s) (hs : settings.IsStricter stricter) :
    ∃ t, ofSettings stricter = .ok t ∧ ∀ ls, (t.scan ls).Sublist (s.scan ls) := by
  obtain ⟨hrules, hplaceholders⟩ := ofSettings_eq_ok_iff.mp h
  have husable := s.usable
  rw [hrules] at husable
  refine ⟨_, ofSettings_eq_ok (isUsable_of_isStricter hs husable), fun ls => ?_⟩
  rw [scan, scan, hrules, hplaceholders]
  refine sublist_flatMap_of_forall₂ (R := Eq) (fun l k hlk => ?_) (List.forall₂_refl ls)
  subst hlk
  exact sublist_flatMap_of_forall₂ (R := fun raised r => r.IsRaised raised)
    (fun raised r hr => matchesOf_sublist hr hs.placeholders l) hs.rules.flip

/-- A scan is what each rule finds alone in each line, by line and then by rule, and the other rules have no
part in it. With larger least lengths and more placeholders some of the matches are left out, and there is no
other change. -/
theorem scan_alone (h : ofSettings settings = .ok s) (content : Text) :
    (∀ r ∈ settings.secretRules, ∃ t, ofSettings { settings with secretRules := [r] } = .ok t) ∧
    s.scan (Line.index content) = (Line.index content).flatMap (fun l =>
      settings.secretRules.flatMap fun r => scanAlone settings r l) ∧
    (s.scan (Line.index content)).Pairwise (fun m k => m.line ≤ k.line) ∧
    (∀ rules t, ofSettings { settings with secretRules := rules } = .ok t →
      t.scan (Line.index content) = (Line.index content).flatMap fun l =>
        rules.flatMap fun r => scanAlone settings r l) ∧
    ∀ stricter, settings.IsStricter stricter →
      ∃ t, ofSettings stricter = .ok t ∧
        (t.scan (Line.index content)).Sublist (s.scan (Line.index content)) := by
  have hp : (Line.index content).Pairwise fun l k => l.number ≤ k.number :=
    (Line.pairwise_numberFrom 1 _).imp Nat.le_of_lt
  refine ⟨fun r hr => ?_, scan_eq_flatMap h _, s.pairwise_line_scan hp, fun rules t ht => ?_,
    fun stricter hs => ?_⟩
  · rw [← (ofSettings_eq_ok_iff.mp h).1] at hr
    exact exists_ofSettings_alone settings (s.usable r hr)
  · exact scan_eq_flatMap ht _
  · obtain ⟨t, ht, hsub⟩ := exists_scan_sublist h hs
    exact ⟨t, ht, hsub _⟩

def strict : Settings :=
  { Settings.default with
    secretRules := Settings.default.secretRules.map fun r =>
      { r with minLength := r.minLength + 4, one_le_minLength := Nat.le_add_right_of_le r.one_le_minLength }
    secretPlaceholders := "horse battery".toList :: Settings.default.secretPlaceholders }

def credentials : Text := "token=abcdefgh secret:87654321".toList

/-- Within a line the rules come before the places. -/
theorem scan_alone_credentials :
    ofSettings Settings.default = .ok default ∧ Settings.default.IsStricter strict ∧
      default.scan (Line.index credentials) =
        [⟨1, "secret".toList⟩, ⟨1, "token".toList⟩] ∧
      (default.scan (Line.index credentials) = (Line.index credentials).flatMap fun l =>
        Settings.default.secretRules.flatMap fun r => scanAlone Settings.default r l) ∧
      ∃ t, ofSettings strict = .ok t ∧
        (t.scan (Line.index credentials)).Sublist (default.scan (Line.index credentials)) := by
  have hstrict : Settings.default.IsStricter strict := by
    refine ⟨?_, List.subset_cons_self _ _⟩
    rw [strict, List.forall₂_map_right_iff]
    exact List.forall₂_same.mpr fun r _ => ⟨rfl, rfl, Nat.le_add_right _ 4⟩
  obtain ⟨-, halone, -, -, hstricter⟩ := scan_alone ofSettings_default credentials
  exact ⟨ofSettings_default, hstrict, by decide +kernel, halone, hstricter strict hstrict⟩

end SecretScanner

end Onboarding
