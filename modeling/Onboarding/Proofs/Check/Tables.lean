import Onboarding.Check.Tool
import Onboarding.Proofs.Config.Tables

namespace Onboarding.Tool

open Config (BeginsTable names read_join_tables)

/-- Whether tables of these names lift a warning: that there is no server, or that a default is permissive. -/
def Warning.isLifted (names : List Text) : Warning → Bool
  | .noServer => names.any servers.isPrefixOf
  | .neverAsks _ | .fullAccess _ => names.any profiles.isPrefixOf

variable {headers others : List Text} {c c' : Config}

theorem errors_congr (settings : Settings) (htop : c'.topLevel = c.topLevel)
    (hlines : c'.keyLines = c.keyLines) : errors settings c' = errors settings c := by
  simp only [errors, missingKeys, unknownValue, htop, hlines]

theorem warnings_filter (htop : c'.topLevel = c.topLevel) (hlines : c'.keyLines = c.keyLines)
    (hunder : ∀ start, c'.hasSectionUnder start =
      (c.hasSectionUnder start || headers.any start.isPrefixOf)) :
    warnings c' = (warnings c).filter fun w => !w.isLifted headers := by
  have hserver : (if c'.hasSectionUnder servers then [] else [Warning.noServer]) =
      (if c.hasSectionUnder servers then [] else [.noServer]).filter fun w => !w.isLifted headers := by
    rw [hunder servers]
    cases c.hasSectionUnder servers
    · cases hs : headers.any servers.isPrefixOf <;> simp [Warning.isLifted, hs]
    · rfl
  have hdefault (key value : Text) {w : Warning} (hw : w.isLifted headers = headers.any profiles.isPrefixOf) :
      (if isDefault key value c' then [w] else []) =
        (if isDefault key value c then [w] else []).filter fun w => !w.isLifted headers := by
    rw [isDefault, isDefault, htop, hunder profiles]
    cases c.topLevel.get? key == some value
    · rfl
    · cases c.hasSectionUnder profiles
      · cases hp : headers.any profiles.isPrefixOf <;> simp [hw, hp]
      · rfl
  rw [warnings, warnings, hlines, List.filter_append, List.filter_append, hserver,
    hdefault approvalPolicy "never".toList (w := .neverAsks _) rfl,
    hdefault sandboxMode "danger-full-access".toList (w := .fullAccess _) rfl]

theorem isLifted_congr (h : ∀ name, name ∈ others ↔ name ∈ headers) (w : Warning) :
    w.isLifted others = w.isLifted headers := by
  have hany (start : Text) : others.any start.isPrefixOf = headers.any start.isPrefixOf := by
    rw [Bool.eq_iff_iff, List.any_eq_true, List.any_eq_true]
    simp only [h]
  cases w <;> exact hany _

theorem check_join_eq (settings : Settings) (content : Text) {blocks : List Text}
    (h : ∀ b ∈ blocks, BeginsTable b) : check settings (Text.join ['\n'] (content :: blocks)) =
      { errors := (check settings content).errors
        warnings := ((warnings (Config.read content)).filter fun w =>
          !w.isLifted (blocks.flatMap names)).map Warning.diagnostic } := by
  obtain ⟨htop, hlines⟩ := read_join_tables h
  have hunder (start : Text) :
      (Config.read (Text.join ['\n'] (content :: blocks))).hasSectionUnder start =
        ((Config.read content).hasSectionUnder start ||
          (blocks.flatMap names).any start.isPrefixOf) := by
    rw [Config.hasSectionUnder_read, Config.names_join, List.any_append, Config.hasSectionUnder_read]
  rw [check, check, errors_congr settings htop hlines, warnings_filter htop hlines hunder]

/-- Tables behind a configuration leave its errors as they are and take from its warnings just those that are
lifted by the names in their headers; in another order they do the same. -/
theorem check_join_tables (settings : Settings) (content : Text) {blocks : List Text}
    (h : ∀ b ∈ blocks, BeginsTable b) :
    (check settings content).warnings = (warnings (Config.read content)).map Warning.diagnostic ∧
      check settings (Text.join ['\n'] (content :: blocks)) =
        { errors := (check settings content).errors
          warnings := ((warnings (Config.read content)).filter fun w =>
            !w.isLifted (blocks.flatMap names)).map Warning.diagnostic } ∧
      ∀ others, others.Perm blocks → check settings (Text.join ['\n'] (content :: others)) =
        check settings (Text.join ['\n'] (content :: blocks)) := by
  refine ⟨rfl, check_join_eq settings content h, fun others hperm => ?_⟩
  have hothers : ∀ b ∈ others, BeginsTable b := fun b hb => h b (hperm.mem_iff.mp hb)
  have hnames : ∀ name, name ∈ others.flatMap names ↔ name ∈ blocks.flatMap names := by
    simp only [List.mem_flatMap, hperm.mem_iff, implies_true]
  rw [check_join_eq settings content h, check_join_eq settings content hothers]
  simp only [isLifted_congr hnames]

def permissive : Text := "approval_policy = \"never\"\nsandbox_mode = \"danger-full-access\"".toList

def profileAndServer : List Text :=
  ["[ profiles.dev ]\napproval_policy = \"ask\"".toList, "[[mcp_servers.\"a.b\"]] # local".toList]

/-- A profile and a server lift all three warnings, and a policy in the profile counts for nothing. -/
theorem check_join_tables_permissive :
    (∀ b ∈ profileAndServer, BeginsTable b) ∧
      (check Settings.default permissive).warnings =
        [Warning.noServer, .neverAsks (some 1), .fullAccess (some 2)].map Warning.diagnostic ∧
      check Settings.default (Text.join ['\n'] (permissive :: profileAndServer)) =
        { errors := (check Settings.default permissive).errors, warnings := [] } ∧
      check Settings.default (Text.join ['\n'] (permissive :: profileAndServer.reverse)) =
        check Settings.default (Text.join ['\n'] (permissive :: profileAndServer)) := by
  have h : ∀ b ∈ profileAndServer, BeginsTable b := by decide +kernel
  have hwarnings : warnings (Config.read permissive) =
      [.noServer, .neverAsks (some 1), .fullAccess (some 2)] := by decide +kernel
  have hlifted : ([.noServer, .neverAsks (some 1), .fullAccess (some 2)] : List Warning).filter
      (fun w => !w.isLifted (profileAndServer.flatMap names)) = [] := by decide +kernel
  obtain ⟨hplain, htables, hperm⟩ := check_join_tables Settings.default permissive h
  rw [hwarnings] at hplain htables
  rw [hlifted] at htables
  exact ⟨h, hplain, htables, hperm _ (List.reverse_perm _)⟩

end Onboarding.Tool
