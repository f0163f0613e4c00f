import Onboarding.Proofs.Secret.Hit

namespace Onboarding.SecretScanner

theorem mem_scan_singleton {s : SecretScanner} {n : Nat} {line category : Text} :
    (∃ m ∈ s.scan [⟨n, line⟩], m.category = category) ↔
      ∃ r ∈ s.rules, r.category = category ∧
        ∃ value ∈ values r line, isReported s.placeholders r value := by
  simp only [scan, matchesOf, List.flatMap_cons, List.flatMap_nil, List.append_nil,
    List.mem_flatMap, List.mem_map, List.mem_filter]
  constructor
  · rintro ⟨m, ⟨r, hr, value, hv, rfl⟩, rfl⟩
    exact ⟨r, hr, rfl, value, hv⟩
  · rintro ⟨r, hr, rfl, value, hv⟩
    exact ⟨⟨n, r.category⟩, ⟨r, hr, value, hv, rfl⟩, rfl⟩

theorem isLocal_of_mem_default {r : SecretRule} (hr : r ∈ default.rules) :
    r.keyword.pattern.expr.isLocal := by
  revert r
  decide

/-- A category that is reported in a line is reported behind any text as well, unless something found
begins in that text, ends in the line, and is itself left out: it is too short or a placeholder. -/
theorem exists_scan_append {n : Nat} {before line category : Text}
    (h : ∃ m ∈ default.scan [⟨n, line⟩], m.category = category) :
    (∃ m ∈ default.scan [⟨n, before ++ line⟩], m.category = category) ∨
      ∃ r ∈ default.rules, r.category = category ∧
        ∃ found ∈ hits r (before ++ line),
          found.first < before.length ∧ before.length < found.last ∧
            (found.value.length < r.minLength ∨ default.isPlaceholder found.value) := by
  obtain ⟨r, hr, hc, value, hv, hrep⟩ := mem_scan_singleton.mp h
  rcases values_suffix_append (isLocal_of_mem_default hr) before line with hs | hfound
  · exact .inl (mem_scan_singleton.mpr ⟨r, hr, hc, value, hs.subset hv, hrep⟩)
  · obtain ⟨found, hmem, hfirst, hlast⟩ := hfound
    by_cases hout : isReported default.placeholders r found.value
    · refine .inl (mem_scan_singleton.mpr ⟨r, hr, hc, found.value, ?_, hout⟩)
      rw [values_eq_map]
      exact List.mem_map_of_mem hmem
    · refine .inr ⟨r, hr, hc, found, hmem, hfirst, hlast, ?_⟩
      simp only [isReported, Bool.and_eq_true, decide_eq_true_eq, Bool.not_eq_true', not_and,
        Bool.not_eq_false] at hout
      rcases Nat.lt_or_ge found.value.length r.minLength with hlt | hge
      · exact .inl hlt
      · exact .inr (hout hge)

theorem exists_scan_token :
    ∃ m ∈ default.scan [⟨1, "token: \"abcdefghij\"".toList⟩], m.category = "token".toList := by
  decide +kernel

/-- A token behind a password is reported. -/
theorem exists_scan_append_password :
    (∃ m ∈ default.scan [⟨1, "token: \"abcdefghij\"".toList⟩], m.category = "token".toList) ∧
      ((∃ m ∈ default.scan [⟨1, "password=hunter2 ".toList ++ "token: \"abcdefghij\"".toList⟩],
          m.category = "token".toList) ∨
        ∃ r ∈ default.rules, r.category = "token".toList ∧
          ∃ found ∈ hits r ("password=hunter2 ".toList ++ "token: \"abcdefghij\"".toList),
            found.first < "password=hunter2 ".toList.length ∧
              "password=hunter2 ".toList.length < found.last ∧
              (found.value.length < r.minLength ∨ default.isPlaceholder found.value)) :=
  ⟨exists_scan_token, exists_scan_append exists_scan_token⟩

/-- An open quote in front takes in the keyword, with a value that is too short. -/
theorem not_forall_exists_scan_append :
    ¬ ∀ before line category : Text, '\n' ∉ before → '\n' ∉ line →
      (∃ m ∈ default.scan [⟨1, line⟩], m.category = category) →
        ∃ m ∈ default.scan [⟨1, before ++ line⟩], m.category = category := by
  intro h
  have hc := h "token=\"".toList "token: \"abcdefghij\"".toList "token".toList
    (by decide) (by decide) exists_scan_token
  revert hc
  decide +kernel

end Onboarding.SecretScanner
