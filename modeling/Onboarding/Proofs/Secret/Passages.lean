import Onboarding.Proofs.Secret.Case
import Onboarding.Proofs.Secret.Quoted

namespace Onboarding

open Keyword (IsSpelling)
open Pattern (Expr Place)
open SecretValue (LacksSeparator)

/-- Equal letter by letter, but for their case. -/
def Text.SameLetters (t u : Text) : Prop := List.Forall₂ (fun c d => c.toNat ∈ alike d) t u

namespace SecretValue

/-- A value as it is written in front of the rest of a line: the whole text between two quotes of one kind, or
a run that goes on as far as it can without blanks, quotes, commas and semicolons, perhaps behind a quote. -/
inductive IsWritten (value : Text) : Text → Text → Prop
  | quoted {q : Char} (hq : isQuote q) (h : q ∉ value) (rest : Text) :
      IsWritten value (q :: (value ++ [q])) rest
  | bare {opening rest : Text} (hopening : opening = [] ∨ ∃ q, isQuote q ∧ opening = [q]) (hne : value ≠ [])
      (hbare : ∀ c ∈ value, isBareChar c) (hstop : rest.head?.all (!isBareChar ·)) :
      IsWritten value (opening ++ value) rest

variable {t value rest : Text}

theorem bare?_eq_some (h : bare? t = some (value, rest)) : t = value ++ rest ∧ value ≠ [] ∧
    (∀ c ∈ value, isBareChar c) ∧ rest.head?.all (!isBareChar ·) := by
  unfold bare? at h
  split at h
  · next hfirst =>
      cases h
      refine ⟨List.takeWhile_append_dropWhile.symm, ?_, List.all_eq_true.mp List.all_takeWhile, ?_⟩
      · cases t with
        | nil => cases hfirst
        | cons c t =>
            rw [List.takeWhile_cons_of_pos (by simpa using hfirst)]
            exact List.cons_ne_nil _ _
      · exact Text.all_head?_dropWhile isBareChar t
  · cases h

theorem exists_isWritten_of_read? (h : read? t = some (value, rest)) :
    ∃ written, IsWritten value written rest ∧ t = written ++ rest := by
  unfold read? at h
  split at h
  · next q t =>
      split at h
      · next hq =>
          split at h
          · next d behind hd =>
              cases h
              have hclose : d = q := by simpa using Text.not_of_dropWhile_eq_cons hd
              refine ⟨_, .quoted hq (fun hmem => ?_) rest, ?_⟩
              · simpa using List.all_eq_true.mp List.all_takeWhile q hmem
              · rw [List.cons_append, List.append_assoc, List.singleton_append, ← hclose]
                subst hclose
                rw [← hd, List.takeWhile_append_dropWhile]
          · obtain ⟨ht, hne, hbare, hstop⟩ := bare?_eq_some h
            exact ⟨_, .bare (.inr ⟨q, hq, rfl⟩) hne hbare hstop, by rw [ht]; rfl⟩
      · obtain ⟨ht, hne, hbare, hstop⟩ := bare?_eq_some h
        exact ⟨_, .bare (.inl rfl) hne hbare hstop, ht⟩
  · cases h

theorem IsWritten.isSome_read? {written : Text} (h : IsWritten value written rest) :
    (read? (Text.trimLeft (written ++ rest))).isSome := by
  cases h with
  | @quoted q hq h =>
      rw [List.cons_append, List.append_assoc, List.singleton_append,
        Text.trimLeft_cons_of_not (isBlank_of_isQuote hq), read?_quoted hq h]
      rfl
  | @bare opening _ hopening hne hbare hstop =>
      rcases hopening with rfl | ⟨q, hq, rfl⟩
      · have hread := read?_bare hne hbare hstop
        obtain ⟨c, t, rfl⟩ := List.exists_cons_of_ne_nil hne
        have hc : Text.isBlank c = false := not_isBlank_of_isBareChar (hbare c List.mem_cons_self)
        rw [List.cons_append] at hread
        rw [List.nil_append, List.cons_append, Text.trimLeft_cons_of_not hc, hread]
        rfl
      · rw [List.singleton_append, List.cons_append, Text.trimLeft_cons_of_not (isBlank_of_isQuote hq), read?,
          if_pos hq]
        split
        · rfl
        · rw [bare?_append hne hbare hstop]
          rfl

theorem isSome_behindKeyword? {link written : Text} (hlink : IsLink link) (h : IsWritten value written rest) :
    (behindKeyword? (link ++ (written ++ rest))).isSome := by
  rw [behindKeyword?, hlink.behindSeparator?_append, Option.bind_some]
  exact h.isSome_read?

theorem exists_parts_of_behindKeyword? (h : behindKeyword? t = some (value, rest)) :
    ∃ link written, IsLink link ∧ IsWritten value written rest ∧ t = link ++ (written ++ rest) := by
  obtain ⟨u, hu, hread⟩ := Option.bind_eq_some_iff.mp h
  obtain ⟨link, hlink, rfl⟩ := exists_isLink_of_behindSeparator? hu
  obtain ⟨written, hwritten, rfl⟩ := exists_isWritten_of_read? hread
  exact ⟨link, written, hlink, hwritten, rfl⟩

end SecretValue

namespace Pattern.Place.Reaches

variable {s t : Place}

theorem length_before_le (h : s.Reaches t) : s.before.length ≤ t.before.length := by
  obtain ⟨x, -, hx⟩ := h
  rw [hx, List.length_append]
  exact Nat.le_add_left _ _

theorem text_eq (h : s.Reaches t) : t.before.reverse ++ t.after = s.before.reverse ++ s.after := by
  obtain ⟨x, hafter, hbefore⟩ := h
  rw [hbefore, hafter, List.reverse_append, List.reverse_reverse, List.append_assoc]

end Pattern.Place.Reaches

namespace SecretScanner

/-- The hit is a passage of the text: a spelling of the keyword in any case, what leads to a value, and the value. -/
def Hit.StandsIn (h : Hit) (k : Keyword) (t : Text) : Prop :=
  ∃ before spelled word link written rest,
    t = before ++ (word ++ (link ++ (written ++ rest))) ∧ h.first = before.length ∧
      h.last = h.first + (word ++ (link ++ written)).length ∧ IsSpelling k spelled ∧
      Text.SameLetters spelled word ∧ SecretValue.IsLink link ∧ SecretValue.IsWritten h.value written rest

variable {k : Keyword} {p : Expr} {fuel : Nat} {s t : Place} {spelled value : Text} {h : Hit}

theorem standsIn_of_valueAt? (hk : IsSpelling k spelled) (hv : valueAt? k.pattern.expr s = some (value, t)) :
    Hit.StandsIn ⟨s.before.length, value, t.before.length⟩ k (s.before.reverse ++ s.after) := by
  have hlength := (reaches_of_valueAt? hv).1.length_eq
  obtain ⟨matched, word, u, hmatched, hletters, hword, hu⟩ := hk.exists_of_run hv
  obtain ⟨⟨v, rest⟩, hbehind, he⟩ := Option.map_eq_some_iff.mp hu
  cases he
  obtain ⟨link, written, hlink, hwritten, hparts⟩ := SecretValue.exists_parts_of_behindKeyword? hbehind
  rw [hparts] at hword
  refine ⟨s.before.reverse, matched, word, link, written, rest, by rw [hword], List.length_reverse.symm, ?_,
    hmatched, hletters.imp fun c d => Keyword.isLetter_iff.mp, hlink, hwritten⟩
  simp only [hword, List.length_append, Place.moveTo] at hlength ⊢
  omega

theorem standsIn_of_mem_hitsFrom (hk : IsSpelling k spelled) (hh : h ∈ hitsFrom k.pattern.expr fuel s) :
    h.StandsIn k (s.before.reverse ++ s.after) := by
  induction fuel generalizing s with
  | zero => cases hh
  | succ fuel ih =>
      rw [hitsFrom] at hh
      split at hh
      · next value t hv =>
          rcases List.mem_cons.mp hh with rfl | hh
          · exact standsIn_of_valueAt? hk hv
          · rw [← (reaches_of_valueAt? hv).1.text_eq]
            exact ih hh
      · split at hh
        · next c t ht =>
            rw [← (Place.reaches_of_forward? ht).1.text_eq]
            exact ih hh
        · cases hh

theorem le_first_of_mem_hitsFrom (hh : h ∈ hitsFrom p fuel s) : s.before.length ≤ h.first := by
  induction fuel generalizing s with
  | zero => cases hh
  | succ fuel ih =>
      rw [hitsFrom] at hh
      split at hh
      · next value t hv =>
          rcases List.mem_cons.mp hh with rfl | hh
          · exact Nat.le_refl _
          · exact Nat.le_trans (reaches_of_valueAt? hv).1.length_before_le (ih hh)
      · split at hh
        · next c t ht => exact Nat.le_trans (Place.reaches_of_forward? ht).1.length_before_le (ih hh)
        · cases hh

theorem pairwise_hitsFrom (p : Expr) (fuel : Nat) (s : Place) :
    (hitsFrom p fuel s).Pairwise fun h k => h.last ≤ k.first := by
  induction fuel generalizing s with
  | zero => exact .nil
  | succ fuel ih =>
      rw [hitsFrom]
      split
      · exact .cons (fun k hk => le_first_of_mem_hitsFrom hk) (ih _)
      · split
        · exact ih _
        · exact .nil

theorem isSome_valueAt? {word link written rest : Text} (hk : IsSpelling k spelled)
    (hletters : Text.SameLetters spelled word) (hlink : SecretValue.IsLink link)
    (hwritten : SecretValue.IsWritten value written rest) (hs : s.after = word ++ (link ++ (written ++ rest))) :
    (valueAt? k.pattern.expr s).isSome := by
  have hword : List.Forall₂ (Keyword.isLetter · ·) spelled word :=
    hletters.imp fun c d => Keyword.isLetter_iff.mpr
  obtain ⟨u, hu⟩ := exists_valueAt?_eq hk hword hs
  rw [hu, Option.isSome_map]
  exact SecretValue.isSome_behindKeyword? hlink hwritten

theorem exists_mem_hitsFrom {front behind : Text} (hf : s.after.length < fuel) (hs : s.after = front ++ behind)
    (hv : ∀ u : Place, u.after = behind → (valueAt? p u).isSome) : ∃ h ∈ hitsFrom p fuel s,
      h.first ≤ s.before.length + front.length ∧ s.before.length + front.length < h.last := by
  induction fuel generalizing s front with
  | zero => omega
  | succ fuel ih =>
      rw [hitsFrom]
      split
      · next value t ht =>
          obtain ⟨hreaches, hlt⟩ := reaches_of_valueAt? ht
          by_cases hend : s.before.length + front.length < t.before.length
          · exact ⟨_, List.mem_cons_self, Nat.le_add_right _ _, hend⟩
          · obtain ⟨x, hafter, hbefore⟩ := hreaches
            rw [hbefore, List.length_append, List.length_reverse] at hend
            have hx : x ++ t.after = front ++ behind := hafter.symm.trans hs
            obtain ⟨left, rfl⟩ : x <+: front :=
              List.prefix_of_prefix_length_le ⟨t.after, hx⟩ ⟨behind, rfl⟩ (by omega)
            rw [List.append_assoc, List.append_cancel_left_eq] at hx
            obtain ⟨h, hh, hfirst, hlast⟩ := ih (by omega) hx
            rw [hbefore, List.length_append, List.length_reverse] at hfirst hlast
            rw [List.length_append]
            exact ⟨h, List.mem_cons_of_mem _ hh, by omega, by omega⟩
      · next hnone =>
          cases front with
          | nil =>
              have hsome := hv s hs
              rw [hnone] at hsome
              cases hsome
          | cons c front =>
              have hforward : s.forward? = some (c, s.step c (front ++ behind)) := by
                rw [Place.forward?, hs]
                rfl
              have hlength : (s.step c (front ++ behind)).before.length = s.before.length + 1 := rfl
              have hfuel : (front ++ behind).length < fuel := by
                rw [hs, List.cons_append, List.length_cons] at hf
                exact Nat.lt_of_succ_lt_succ hf
              obtain ⟨h, hh, hfirst, hlast⟩ := ih (s := s.step c (front ++ behind)) hfuel rfl
              rw [hlength] at hfirst hlast
              rw [hforward, List.length_cons]
              exact ⟨h, hh, by omega, by omega⟩

theorem Hit.StandsIn.not_lacksSeparator {line : Text} (hh : h.StandsIn k line) : ¬ LacksSeparator line := by
  obtain ⟨before, -, word, link, written, rest, rfl, -, -, -, -, hlink, -⟩ := hh
  intro hlacks
  exact hlink.not_lacksSeparator (hlacks.of_subset fun c hc => by simp [hc])

variable {r : SecretRule} {scanner : SecretScanner} {line : Text}

theorem matchesOf_eq_map (l : Line) (r : SecretRule) : matchesOf scanner.placeholders l r =
    ((hits r l.text).filter fun h => r.minLength ≤ h.value.length ∧ ¬ scanner.isPlaceholder h.value).map
      fun _ => ⟨l.number, r.category⟩ := by
  have hfilter : (hits r l.text).filter (isReported scanner.placeholders r ·.value) =
      (hits r l.text).filter fun h => r.minLength ≤ h.value.length ∧ ¬ scanner.isPlaceholder h.value := by
    refine List.filter_congr fun h _ => ?_
    rw [Bool.eq_iff_iff, isReported_iff, decide_eq_true_eq]
  rw [matchesOf, values_eq_map, List.filter_map, List.map_map, ← hfilter]
  rfl

theorem exists_isSpelling (hr : r.keyword ∈ Settings.default.secretRules.map (·.keyword)) :
    ∃ spelled, IsSpelling r.keyword spelled := by
  simp only [Settings.default, Settings.defaultSecretRules, Settings.defaultRule, List.map_cons, List.map_nil,
    List.mem_cons, List.not_mem_nil, or_false] at hr
  rcases hr with h | h | h | h <;> rw [h]
  · exact ⟨_, .apiKey⟩
  · exact ⟨_, .password⟩
  · exact ⟨_, .secret⟩
  · exact ⟨_, .token⟩

theorem standsIn_of_mem_hits (hr : r.keyword ∈ Settings.default.secretRules.map (·.keyword))
    (hh : h ∈ hits r line) : h.StandsIn r.keyword line := by
  obtain ⟨spelled, hk⟩ := exists_isSpelling hr
  exact standsIn_of_mem_hitsFrom hk hh

/-- Each passage of a line begins in one that is found. -/
theorem Hit.StandsIn.exists_mem_hits (hh : h.StandsIn r.keyword line) :
    ∃ k ∈ hits r line, k.first ≤ h.first ∧ h.first < k.last := by
  obtain ⟨before, spelled, word, link, written, rest, hline, hfirst, -, hk, hletters, hlink, hwritten⟩ := hh
  obtain ⟨k, hmem, hle, hlt⟩ := exists_mem_hitsFrom (s := .start line) (Nat.lt_succ_self _) hline
    fun u hu => isSome_valueAt? hk hletters hlink hwritten hu
  have hstart : (Place.start line).before.length + before.length = h.first := by
    rw [hfirst]
    exact Nat.zero_add _
  rw [hstart] at hle hlt
  exact ⟨k, hmem, hle, hlt⟩

/-- With the keywords of the default settings, whatever the least lengths and the placeholders, passages are found on
each line for each rule, in order and none within another, and no passage begins outside them. The matches are those
of them whose value is long enough and no placeholder. Without a separator there is none. -/
theorem exists_hits_scan (hs : ∀ r ∈ scanner.rules, r.keyword ∈ Settings.default.secretRules.map (·.keyword))
    (content : Text) : ∃ found : Line → SecretRule → List Hit,
      scanner.scan (Line.index content) = (Line.index content).flatMap (fun l => scanner.rules.flatMap fun r =>
        ((found l r).filter fun h => r.minLength ≤ h.value.length ∧ ¬ scanner.isPlaceholder h.value).map
          fun _ => ⟨l.number, r.category⟩) ∧
      ∀ l ∈ Line.index content, ∀ r ∈ scanner.rules,
        (found l r).Pairwise (fun h k => h.last ≤ k.first) ∧
        (∀ h ∈ found l r, h.StandsIn r.keyword l.text) ∧
        (∀ h : Hit, h.StandsIn r.keyword l.text → ∃ k ∈ found l r, k.first ≤ h.first ∧ h.first < k.last) ∧
        (LacksSeparator l.text → found l r = []) := by
  refine ⟨fun l r => hits r l.text, ?_, fun l _ r hr => ⟨pairwise_hitsFrom _ _ _, ?_, ?_, ?_⟩⟩
  · exact List.flatMap_congr fun l _ => List.flatMap_congr fun r _ => matchesOf_eq_map l r
  · exact fun h hh => standsIn_of_mem_hits (hs r hr) hh
  · exact fun h hh => hh.exists_mem_hits
  · intro hlacks
    rw [List.eq_nil_iff_forall_not_mem]
    exact fun h hh => (standsIn_of_mem_hits (hs r hr) hh).not_lacksSeparator hlacks

def twoTokens : Text := "token:'a b' token=none TOKEN =\"xy".toList

theorem exists_hits_scan_twoTokens :
    (∀ r ∈ brief.rules, r.keyword ∈ Settings.default.secretRules.map (·.keyword)) ∧
      brief.scan (Line.index twoTokens) = [⟨1, "token".toList⟩, ⟨1, "token".toList⟩] ∧
      ∃ r ∈ brief.rules, ∃ h : Hit, h.StandsIn r.keyword twoTokens ∧ r.minLength ≤ h.value.length ∧
        ¬ brief.isPlaceholder h.value := by
  have hs : ∀ r ∈ brief.rules, r.keyword ∈ Settings.default.secretRules.map (·.keyword) := by decide +kernel
  have hscan : brief.scan (Line.index twoTokens) = [⟨1, "token".toList⟩, ⟨1, "token".toList⟩] := by
    decide +kernel
  have hlines : Line.index twoTokens = [⟨1, twoTokens⟩] := by decide
  obtain ⟨found, hfound, hall⟩ := exists_hits_scan hs twoTokens
  have hm : ⟨1, "token".toList⟩ ∈ brief.scan (Line.index twoTokens) := hscan ▸ List.mem_cons_self
  rw [hfound] at hm
  obtain ⟨l, hl, hm⟩ := List.mem_flatMap.mp hm
  obtain ⟨r, hr, hm⟩ := List.mem_flatMap.mp hm
  obtain ⟨h, hh, -⟩ := List.mem_map.mp hm
  obtain ⟨hmem, hreported⟩ := List.mem_filter.mp hh
  have htext : l.text = twoTokens := by
    rw [hlines, List.mem_singleton] at hl
    rw [hl]
  refine ⟨hs, hscan, r, hr, h, ?_, of_decide_eq_true hreported⟩
  rw [← htext]
  exact (hall l hl r hr).2.1 h hmem

end SecretScanner

end Onboarding
