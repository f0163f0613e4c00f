import Onboarding.Proofs.Pattern.Local
import Onboarding.Secret.Scanner

namespace Onboarding

namespace SecretValue

theorem skipQuote_suffix (t : Text) : skipQuote t <:+ t := by
  unfold skipQuote
  split
  · split
    · exact List.suffix_cons _ _
    · exact List.suffix_refl _
  · exact List.suffix_refl _

theorem behindSeparator?_suffix {t u : Text} (h : behindSeparator? t = some u) :
    u <:+ t ∧ u.length < t.length := by
  unfold behindSeparator? at h
  have hs : Text.trimLeft (skipQuote t) <:+ t :=
    (List.dropWhile_suffix _).trans (skipQuote_suffix t)
  split at h
  · next c rest hc =>
      rw [hc] at hs
      split at h
      · obtain rfl := Option.some.inj h
        have hu : Text.trimLeft rest <:+ rest := List.dropWhile_suffix _
        have hrest : rest <:+ c :: rest := List.suffix_cons _ _
        refine ⟨hu.trans (hrest.trans hs), ?_⟩
        have := hu.length_le
        have := hs.length_le
        rw [List.length_cons] at this
        omega
      · cases h
  · cases h

theorem bare?_suffix {t value rest : Text} (h : bare? t = some (value, rest)) : rest <:+ t := by
  unfold bare? at h
  split at h
  · cases h
    exact List.dropWhile_suffix _
  · cases h

theorem read?_suffix {t value rest : Text} (h : read? t = some (value, rest)) : rest <:+ t := by
  unfold read? at h
  split at h
  · next q u =>
      split at h
      · split at h
        · next d behind hd =>
            cases h
            have hb : d :: rest <:+ u := hd ▸ List.dropWhile_suffix _
            exact (List.suffix_cons d rest).trans (hb.trans (List.suffix_cons q u))
        · exact (bare?_suffix h).trans (List.suffix_cons _ _)
      · exact bare?_suffix h
  · cases h

theorem behindKeyword?_suffix {t value rest : Text} (h : behindKeyword? t = some (value, rest)) :
    rest <:+ t ∧ rest.length < t.length := by
  obtain ⟨u, hu, hr⟩ := Option.bind_eq_some_iff.mp h
  have hs := behindSeparator?_suffix hu
  have hrest := read?_suffix hr
  exact ⟨hrest.trans hs.1, Nat.lt_of_le_of_lt hrest.length_le hs.2⟩

end SecretValue

namespace Pattern.Place

theorem reaches_moveTo {s : Place} {rest : Text} (h : rest <:+ s.after) :
    s.Reaches (s.moveTo rest) := by
  obtain ⟨x, hx⟩ := h
  refine ⟨x, hx.symm, ?_⟩
  have hl : s.after.length - rest.length = x.length := by
    rw [← hx, List.length_append]
    omega
  simp only [moveTo, hl]
  rw [← hx, List.take_left]

end Pattern.Place

namespace SecretScanner

open Pattern

theorem reaches_of_valueAt? {p : Expr} {s t : Place} {value : Text}
    (h : valueAt? p s = some (value, t)) : s.Reaches t ∧ t.after.length < s.after.length := by
  obtain ⟨u, hsu, hu⟩ := p.run_forward flags s _ _ h
  obtain ⟨⟨v, rest⟩, hv, he⟩ := Option.map_eq_some_iff.mp hu
  cases he
  have hrest := SecretValue.behindKeyword?_suffix hv
  exact ⟨hsu.trans (Place.reaches_moveTo hrest.1), Nat.lt_of_lt_of_le hrest.2 hsu.length_le⟩

theorem valueAt?_rel {p : Expr} (hp : p.isLocal) {s t : Place} (h : s.SameAfter t) :
    Option.Rel (fun a b => a.1 = b.1 ∧ a.2.SameAfter b.2) (valueAt? p s) (valueAt? p t) := by
  refine Expr.run_alike hp flags s t _ _ h fun u v huv => ?_
  rw [show u.after = v.after from huv]
  cases SecretValue.behindKeyword? v.after with
  | none => exact .none
  | some a => exact .some ⟨rfl, rfl⟩

/-- A place in a line where a keyword with a value stands: so many characters come before it, and so
many up to its end. -/
structure Hit where
  first : Nat
  value : Text
  last : Nat
deriving DecidableEq, Repr

def hitsFrom (p : Expr) : Nat → Place → List Hit
  | 0, _ => []
  | fuel + 1, s =>
    match valueAt? p s with
    | some (value, t) => ⟨s.before.length, value, t.before.length⟩ :: hitsFrom p fuel t
    | none =>
      match s.forward? with
      | some (_, t) => hitsFrom p fuel t
      | none => []

/-- What is found in a line, whether it is reported or left out. -/
def hits (r : SecretRule) (t : Text) : List Hit :=
  hitsFrom r.keyword.pattern.expr (t.length + 1) (.start t)

theorem valuesFrom_eq_map (p : Expr) (fuel : Nat) (s : Place) :
    valuesFrom p fuel s = (hitsFrom p fuel s).map (·.value) := by
  induction fuel generalizing s with
  | zero => rfl
  | succ fuel ih =>
      rw [valuesFrom, hitsFrom]
      cases valueAt? p s with
      | some found =>
          obtain ⟨value, t⟩ := found
          exact congrArg (value :: ·) (ih t)
      | none =>
          cases s.forward? with
          | some ahead => exact ih ahead.2
          | none => rfl

theorem values_eq_map (r : SecretRule) (t : Text) : values r t = (hits r t).map (·.value) :=
  valuesFrom_eq_map _ _ _

theorem valuesFrom_congr {p : Expr} (hp : p.isLocal) {m n : Nat} {s t : Place}
    (h : s.SameAfter t) (hm : s.after.length < m) (hn : s.after.length < n) :
    valuesFrom p m s = valuesFrom p n t := by
  induction m generalizing n s t with
  | zero => omega
  | succ m ih =>
      obtain ⟨n, rfl⟩ : ∃ k, n = k + 1 := ⟨n - 1, by omega⟩
      rw [valuesFrom, valuesFrom]
      have hv := valueAt?_rel hp h
      have hlt (value : Text) (u : Place) (hu : valueAt? p s = some (value, u)) :
          u.after.length < s.after.length := (reaches_of_valueAt? hu).2
      generalize valueAt? p s = x, valueAt? p t = y at hv hlt
      cases hv with
      | @some a b hab =>
          obtain ⟨v, u⟩ := a
          obtain ⟨w, u'⟩ := b
          obtain ⟨rfl, huv⟩ := hab
          have := hlt v u rfl
          exact congrArg (v :: ·) (@ih n u u' huv (by omega) (by omega))
      | none =>
          dsimp only
          have hf := Place.forward?_rel h
          have hlt' (c : Char) (u : Place) (hu : s.forward? = some (c, u)) :
              u.after.length < s.after.length := by
            rw [(Place.reaches_of_forward? hu).2, List.length_cons]
            omega
          generalize s.forward? = x, t.forward? = y at hf hlt'
          cases hf with
          | none => rfl
          | @some a b hab =>
              have := hlt' a.1 a.2 rfl
              exact ih hab.2 (by omega) (by omega)

/-- Where a line continues a text, the search either comes to its beginning, or what it found last
begins before that and ends behind it. -/
theorem hitsFrom_append {p : Expr} {fuel : Nat} {s : Place} {before line : Text}
    (hs : s.after = before ++ line) (hf : s.after.length < fuel) :
    (∃ front t n, hitsFrom p fuel s = front ++ hitsFrom p n t ∧ t.after = line ∧
        line.length < n) ∨
      ∃ h ∈ hitsFrom p fuel s, h.first < s.before.length + before.length ∧
        s.before.length + before.length < h.last := by
  induction fuel generalizing s before with
  | zero => omega
  | succ fuel ih =>
      cases before with
      | nil => exact .inl ⟨[], s, fuel + 1, rfl, hs, by rw [hs] at hf; exact hf⟩
      | cons c before =>
          have hl : s.after.length = before.length + 1 + line.length := by
            rw [hs, List.length_append, List.length_cons]
          rw [hitsFrom]
          cases hv : valueAt? p s with
          | none =>
              have hforward : s.forward? = some (c, { s with
                  before := c :: s.before, after := before ++ line }) := by
                rw [Place.forward?, hs]
                rfl
              simp only [hforward]
              have := @ih { s with before := c :: s.before, after := before ++ line } before rfl
                (by simp only [List.length_append]; omega)
              simpa only [List.length_cons, Nat.add_assoc, Nat.add_comm 1] using this
          | some found =>
              obtain ⟨value, t⟩ := found
              obtain ⟨hst, hlt⟩ := reaches_of_valueAt? hv
              have hlen := hst.length_eq
              simp only [List.length_cons]
              by_cases hin : t.after.length < line.length
              · refine .inr ⟨_, List.mem_cons_self, ?_, ?_⟩ <;> simp only <;> omega
              · have hsuffix : ∃ rest, t.after = rest ++ line := by
                  obtain ⟨x, hx, -⟩ := hst
                  have hline : line <:+ t.after :=
                    List.suffix_of_suffix_length_le (hs ▸ List.suffix_append _ _)
                      (hx ▸ List.suffix_append _ _) (by omega)
                  exact hline.imp fun _ h => h.symm
                obtain ⟨rest, hrest⟩ := hsuffix
                have hrl : t.after.length = rest.length + line.length := by
                  rw [hrest, List.length_append]
                rcases ih hrest (by omega) with ⟨front, u, n, he, hu⟩ | ⟨h, hm, hb, he⟩
                · exact .inl ⟨_ :: front, u, n, by rw [he, List.cons_append], hu⟩
                · exact .inr ⟨h, List.mem_cons_of_mem _ hm, by omega, by omega⟩

/-- The values in a line are found again behind any text, unless something found begins in that text
and ends in the line. -/
theorem values_suffix_append {r : SecretRule} (hr : r.keyword.pattern.expr.isLocal)
    (before line : Text) :
    values r line <:+ values r (before ++ line) ∨
      ∃ h ∈ hits r (before ++ line), h.first < before.length ∧ before.length < h.last := by
  have hs := hitsFrom_append (p := r.keyword.pattern.expr) (s := .start (before ++ line)) rfl
    (Nat.lt_succ_self _)
  rcases hs with ⟨front, t, n, he, ht, hn⟩ | h
  · left
    have hline : values r line = valuesFrom r.keyword.pattern.expr n t :=
      valuesFrom_congr hr ht.symm (Nat.lt_succ_self _) hn
    rw [hline, valuesFrom_eq_map, values_eq_map, hits]
    exact ⟨front.map (·.value), by rw [← List.map_append, ← he]; rfl⟩
  · right
    simpa only [hits, Place.start, List.length_nil, Nat.zero_add] using h

end SecretScanner

end Onboarding
