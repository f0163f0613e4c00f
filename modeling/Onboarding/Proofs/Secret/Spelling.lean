import Mathlib.Data.List.Forall2
import Onboarding.Proofs.Pattern.Case
import Onboarding.Proofs.Secret.Blank
import Onboarding.Proofs.Secret.Capture
import Onboarding.Proofs.Text.Words

namespace Onboarding

open Pattern (CharSet Expr Place)
open SecretScanner (flags)
open SecretValue (isBreak)
open Text (asciiLower asciiLowerChar IgnoresCase)

/-- Whether a character stands for a letter: it is the letter, or differs from it in case only. -/
def Keyword.isLetter (c d : Char) : Bool := (CharSet.single c.toNat).holds flags d

/-- The place behind the letters of a text, if these stand here. -/
def Pattern.Place.past? : Text → Place → Option Place
  | [], s => some s
  | c :: t, s =>
    match s.forward? with
    | some (d, u) => if Keyword.isLetter c d then past? t u else none
    | none => none

namespace Pattern.Place

open Keyword (isLetter)

variable {s u : Place} {t x rest : Text}

theorem past?_cons (c : Char) (t : Text) (s : Place) : past? (c :: t) s = (past? [c] s).bind (past? t) := by
  rw [past?, past?]
  split
  · split <;> rfl
  · rfl

theorem exists_of_past? (h : past? t s = some u) :
    ∃ x, s.after = x ++ u.after ∧ List.Forall₂ (isLetter · ·) t x := by
  induction t generalizing s with
  | nil =>
      cases h
      exact ⟨[], rfl, .nil⟩
  | cons c t ih =>
      rw [past?] at h
      split at h
      · next d v hv =>
          split at h
          · next hd =>
              obtain ⟨x, hx, hletters⟩ := ih h
              exact ⟨d :: x, by rw [(reaches_of_forward? hv).2, hx, List.cons_append], .cons hd hletters⟩
          · cases h
      · cases h

theorem past?_of_forall₂ (h : List.Forall₂ (isLetter · ·) t x) (hs : s.after = x ++ rest) :
    ∃ u, past? t s = some u ∧ u.after = rest := by
  induction h generalizing s with
  | nil => exact ⟨s, rfl, hs⟩
  | @cons c d t x hd _ ih =>
      have hforward : s.forward? = some (d, s.step d (x ++ rest)) := by
        rw [forward?, hs]
        rfl
      obtain ⟨u, hu, hrest⟩ := @ih (s.step d (x ++ rest)) rfl
      refine ⟨u, ?_, hrest⟩
      rw [past?, hforward]
      exact (if_pos hd).trans hu

end Pattern.Place

namespace Keyword

variable {α : Type} {s : Place} {k : Place → Option α}

theorem letters_cons (c d : Char) (t : Text) :
    letters (c :: d :: t) = .seq (.char (.single c.toNat)) (letters (d :: t)) := by
  have hconcat : ∀ (l : List Expr) (p : Expr), l ≠ [] →
      Expr.ofReversed (l ++ [p]) = .seq p (Expr.ofReversed l) := by
    intro l p hl
    obtain ⟨q, l, rfl⟩ := List.exists_cons_of_ne_nil hl
    rw [List.cons_append, Expr.ofReversed, List.foldl_append]
    rfl
  rw [letters, List.reverse_cons, List.map_append]
  exact hconcat _ _ (by simp)

theorem run_letter (c : Char) (s : Place) (k : Place → Option α) :
    (Expr.char (.single c.toNat)).run flags s k = (Place.past? [c] s).bind k := by
  rw [Expr.run, Place.past?]
  cases s.forward? with
  | none => rfl
  | some ahead =>
      change (if isLetter c ahead.1 then k ahead.2 else none) =
        (if isLetter c ahead.1 then some ahead.2 else none).bind k
      split <;> rfl

theorem run_letters (t : Text) (s : Place) (k : Place → Option α) :
    (letters t).run flags s k = (Place.past? t s).bind k := by
  induction t generalizing s with
  | nil => rfl
  | cons c t ih =>
      cases t with
      | nil => exact run_letter c s k
      | cons d t =>
          rw [letters_cons, Place.past?_cons, Option.bind_assoc, Expr.run, run_letter]
          exact congrArg _ (funext ih)

theorem eq_of_isLetter_sign {d : Char} (h : isLetter '_' d) : d = '_' := by
  have hset : CharSet.single '_'.toNat = oneOf ['_'] := rfl
  rw [isLetter, hset, holds_oneOf (by decide)] at h
  simpa using h

theorem run_apiKey (s : Place) (k : Place → Option α) : apiKey.pattern.expr.run flags s k =
    (Place.past? "api".toList s).bind fun t =>
      (Place.past? "key".toList (t.skipOne (isLetter '_'))).bind k := by
  have hsign : ∀ t : Place, t.after.head?.any (isLetter '_') →
      (letters "key".toList).run flags t k = none := by
    intro t ht
    cases ha : t.after with
    | nil =>
        rw [ha] at ht
        cases ht
    | cons d rest =>
        have hd : isLetter '_' d = true := by simpa [ha] using ht
        change (Expr.char (.single 'k'.toNat)).run flags t (fun u => (letters "ey".toList).run flags u k) = none
        rw [Expr.run_char_cons ha, if_neg (by rw [eq_of_isLetter_sign hd]; decide +kernel)]
  have hrun : apiKey.pattern.expr.run flags s k = (letters "api".toList).run flags s fun t =>
      (Expr.repeated (.char (.single '_'.toNat)) 0 (some 1) .greedy).run flags t fun u =>
        (letters "key".toList).run flags u k := rfl
  rw [hrun, run_letters]
  refine congrArg _ (funext fun t => ?_)
  rw [Pattern.run_optional hsign, run_letters]
  rfl

/-- How a keyword may be written, in small letters. -/
inductive IsSpelling : Keyword → Text → Prop
  | apiKey : IsSpelling apiKey "apikey".toList
  | apiKeySign : IsSpelling apiKey "api_key".toList
  | password : IsSpelling password "password".toList
  | secret : IsSpelling secret "secret".toList
  | token : IsSpelling token "token".toList

def keyLetters : Text := "acdeiknoprstwy_".toList

theorem isLetter_self {c : Char} (hc : c ∈ keyLetters) : isLetter c c := by
  have hall : keyLetters.all fun c => isLetter c c := by decide +kernel
  exact List.all_eq_true.mp hall c hc

theorem isLetter_asciiLowerChar (c d : Char) : isLetter c (asciiLowerChar d) = isLetter c d :=
  CharSet.holds_asciiLowerChar rfl _ d

theorem isLetter_iff {c d : Char} : isLetter c d ↔ c.toNat ∈ Text.alike d := by
  rw [isLetter, CharSet.holds, CharSet.single, List.any_cons, List.any_nil, Bool.or_false, Bool.bne_false,
    holds_span_iff]

theorem not_isLetter_of_isBreak {c d : Char} (hc : c ∈ keyLetters) (hd : isBreak d) : isLetter c d = false := by
  have hblanks : ∀ s ∈ Text.blankSpans, ∀ n ∈ List.range' s.1 (s.2 + 1 - s.1),
      ∀ m ∈ Text.alike (Char.ofNat n), m ∉ keyLetters.map Char.toNat := by
    decide +kernel
  have hsigns : "\"':=".toList.all fun d => ∀ m ∈ Text.alike d, m ∉ keyLetters.map Char.toNat := by
    decide +kernel
  rw [Bool.eq_false_iff, Ne, isLetter_iff]
  intro hletter
  have hmap : c.toNat ∈ keyLetters.map Char.toNat := List.mem_map_of_mem hc
  rw [isBreak, Bool.or_eq_true, List.contains_iff_mem] at hd
  rcases hd with hd | hd
  · obtain ⟨s, hs, hlo, hhi⟩ := Text.Spans.exists_of_covers hd
    have hmem : d.toNat ∈ List.range' s.1 (s.2 + 1 - s.1) := List.mem_range'_1.mpr ⟨hlo, by omega⟩
    rw [← Char.ofNat_toNat d] at hletter
    exact hblanks s hs d.toNat hmem _ hletter hmap
  · exact of_decide_eq_true (List.all_eq_true.mp hsigns d hd) _ hletter hmap

theorem not_isBreak_of_forall₂ {t x : Text} (ht : t ⊆ keyLetters) (h : List.Forall₂ (isLetter · ·) t x) :
    ∀ d ∈ x, isBreak d = false := by
  induction h with
  | nil => exact nofun
  | @cons c d t x hd _ ih =>
      rw [List.cons_subset] at ht
      refine List.forall_mem_cons.mpr ⟨?_, ih ht.2⟩
      rw [Bool.eq_false_iff]
      intro hbreak
      rw [not_isLetter_of_isBreak ht.1 hbreak] at hd
      cases hd

theorem forall₂_asciiLower {x : Text} (h : asciiLower x ⊆ keyLetters) :
    List.Forall₂ (isLetter · ·) (asciiLower x) x := by
  rw [asciiLower, List.forall₂_map_left_iff, List.forall₂_same]
  intro d hd
  have hself := isLetter_self (h (List.mem_map_of_mem hd))
  rwa [isLetter_asciiLowerChar] at hself

end Keyword

theorem Pattern.Place.after_eq_or_skipOne (test : Char → Bool) (s : Place) :
    (s.skipOne test).after = s.after ∨ ∃ d, test d ∧ s.after = d :: (s.skipOne test).after := by
  unfold skipOne
  split
  · next c rest hs =>
      split
      · next hc => exact .inr ⟨c, hc, hs⟩
      · exact .inl rfl
  · exact .inl rfl

namespace Keyword

variable {α : Type} {s : Place} {k : Place → Option α} {keyword : Keyword} {spelled x rest : Text}

theorem IsSpelling.subset (h : IsSpelling keyword spelled) : spelled ⊆ keyLetters := by
  cases h <;> decide

theorem IsSpelling.ne_nil (h : IsSpelling keyword (asciiLower x)) : x ≠ [] := by
  rintro rfl
  cases h

theorem IsSpelling.expr_eq (h : IsSpelling keyword spelled) :
    keyword = Keyword.apiKey ∧ (spelled = "apikey".toList ∨ spelled = "api_key".toList) ∨
      keyword.pattern.expr = letters spelled := by
  cases h with
  | apiKey => exact .inl ⟨rfl, .inl rfl⟩
  | apiKeySign => exact .inl ⟨rfl, .inr rfl⟩
  | password => exact .inr rfl
  | secret => exact .inr rfl
  | token => exact .inr rfl

theorem IsSpelling.not_isBreak (h : IsSpelling keyword (asciiLower x)) : ∀ d ∈ x, isBreak d = false :=
  not_isBreak_of_forall₂ h.subset (forall₂_asciiLower h.subset)

theorem IsSpelling.exists_of_run (h : IsSpelling keyword spelled) {a : α}
    (hrun : keyword.pattern.expr.run flags s k = some a) : ∃ matched word u, IsSpelling keyword matched ∧
      List.Forall₂ (isLetter · ·) matched word ∧ s.after = word ++ u.after ∧ k u = some a := by
  rcases h.expr_eq with ⟨rfl, -⟩ | hexpr
  · rw [run_apiKey, Option.bind_eq_some_iff] at hrun
    obtain ⟨t, ht, hrun⟩ := hrun
    obtain ⟨u, hu, hk⟩ := Option.bind_eq_some_iff.mp hrun
    obtain ⟨x, hx, hapi⟩ := Place.exists_of_past? ht
    obtain ⟨y, hy, hkey⟩ := Place.exists_of_past? hu
    rcases t.after_eq_or_skipOne (isLetter '_') with hskip | ⟨d, hd, hskip⟩
    · refine ⟨_, x ++ y, u, .apiKey, List.rel_append hapi hkey, ?_, hk⟩
      rw [hx, ← hskip, hy, List.append_assoc]
    · refine ⟨_, x ++ d :: y, u, .apiKeySign, List.rel_append hapi (.cons hd hkey), ?_, hk⟩
      rw [hx, hskip, hy, List.append_assoc, List.cons_append]
  · rw [hexpr, run_letters, Option.bind_eq_some_iff] at hrun
    obtain ⟨u, hu, hk⟩ := hrun
    obtain ⟨x, hx, hletters⟩ := Place.exists_of_past? hu
    exact ⟨spelled, x, u, h, hletters, hx, hk⟩

theorem exists_append_of_forall₂ {t u : Text} (h : List.Forall₂ (isLetter · ·) (t ++ u) x) :
    ∃ y z, x = y ++ z ∧ List.Forall₂ (isLetter · ·) t y ∧ List.Forall₂ (isLetter · ·) u z := by
  refine ⟨x.take t.length, x.drop t.length, (List.take_append_drop _ _).symm, ?_, ?_⟩
  · simpa using List.forall₂_take t.length h
  · simpa using List.forall₂_drop t.length h

theorem exists_past?_skipOne (hspelled : spelled = "key".toList ∨ spelled = "_key".toList)
    (h : List.Forall₂ (isLetter · ·) spelled x) (hs : s.after = x ++ rest) :
    ∃ u, Place.past? "key".toList (s.skipOne (isLetter '_')) = some u ∧ u.after = rest := by
  rcases hspelled with rfl | rfl
  · have hskip : s.skipOne (isLetter '_') = s := by
      cases h with
      | @cons _ d _ y hd _ =>
          have hletter : ¬ isLetter '_' d := by
            intro hsign
            rw [eq_of_isLetter_sign hsign] at hd
            exact absurd hd (by decide +kernel)
          rw [Place.skipOne, hs, List.cons_append]
          exact if_neg hletter
    rw [hskip]
    exact Place.past?_of_forall₂ h hs
  · cases h with
    | @cons _ d _ y hd hkey =>
        have hskip : s.skipOne (isLetter '_') = s.step d (y ++ rest) := by
          rw [Place.skipOne, hs, List.cons_append]
          exact if_pos hd
        rw [hskip]
        exact Place.past?_of_forall₂ hkey rfl

/-- What stands for the letters of a keyword is matched, whatever comes behind it. -/
theorem IsSpelling.exists_run_eq (h : IsSpelling keyword spelled)
    (hletters : List.Forall₂ (isLetter · ·) spelled x) (hs : s.after = x ++ rest) (k : Place → Option α) :
    ∃ u, u.after = rest ∧ keyword.pattern.expr.run flags s k = k u := by
  rcases h.expr_eq with ⟨rfl, hwords⟩ | hexpr
  · obtain ⟨second, hsecond, rfl⟩ : ∃ second, (second = "key".toList ∨ second = "_key".toList) ∧
        spelled = "api".toList ++ second := by
      rcases hwords with rfl | rfl
      · exact ⟨_, .inl rfl, rfl⟩
      · exact ⟨_, .inr rfl, rfl⟩
    obtain ⟨y, z, rfl, hy, hz⟩ := exists_append_of_forall₂ hletters
    rw [List.append_assoc] at hs
    obtain ⟨t, ht, hrest⟩ := Place.past?_of_forall₂ hy hs
    obtain ⟨u, hu, hurest⟩ := exists_past?_skipOne hsecond hz hrest
    exact ⟨u, hurest, by rw [run_apiKey, ht, Option.bind_some, hu, Option.bind_some]⟩
  · obtain ⟨u, hu, hrest⟩ := Place.past?_of_forall₂ hletters hs
    exact ⟨u, hrest, by rw [hexpr, run_letters, hu, Option.bind_some]⟩

end Keyword

end Onboarding
