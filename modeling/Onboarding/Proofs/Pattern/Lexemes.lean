import Onboarding.Proofs.Pattern.Front

namespace Onboarding.Pattern

namespace Piece

theorem ofText_cons_of_ne {c : Char} (hc : c ≠ '\\') (t : Text) :
    ofText (c :: t) = .plain c :: ofText t := by
  rw [ofText]
  · exact fun h _ => hc h
  · exact fun _ _ h _ => hc h

theorem length_ofText_le (t : Text) : (ofText t).length ≤ t.length := by
  induction t using ofText.induct with
  | case1 => exact Nat.le_refl 0
  | case2 => exact Nat.le_refl 1
  | case3 c rest ih =>
      rw [ofText, List.length_cons, List.length_cons, List.length_cons]
      omega
  | case4 c rest hnil hcons ih =>
      rw [ofText, List.length_cons, List.length_cons]
      · omega
      · exact hnil
      · exact hcons

theorem getLast?_ne_of_cons {p q : Piece} {ps : List Piece} (h : (p :: ps).getLast? ≠ some q) :
    ps.getLast? ≠ some q := by
  intro hq
  rw [List.getLast?_cons, hq] at h
  exact h rfl

theorem ofText_append {t : Text} (h : (ofText t).getLast? ≠ some .danglingBackslash) (u : Text) :
    ofText (t ++ u) = ofText t ++ ofText u := by
  induction t using ofText.induct with
  | case1 => rfl
  | case2 => exact absurd rfl h
  | case3 c rest ih =>
      rw [ofText] at h
      rw [List.cons_append, List.cons_append, ofText, ofText, ih (getLast?_ne_of_cons h)]
      rfl
  | case4 c rest hnil hcons ih =>
      have hc : c ≠ '\\' := by
        intro hc
        cases rest with
        | nil => exact hnil hc rfl
        | cons d rest => exact hcons d rest hc rfl
      rw [ofText_cons_of_ne hc] at h
      rw [List.cons_append, ofText_cons_of_ne hc, ofText_cons_of_ne hc,
        ih (getLast?_ne_of_cons h)]
      rfl

end Piece

theorem groupComment?_append {ps rest : List Piece} (h : groupComment? ps = some rest) :
    Leaves ps rest ∧
      ∀ more, groupComment? (ps ++ .plain ')' :: more) = some (rest ++ .plain ')' :: more) := by
  rw [groupComment?] at h
  cases hd : ps.dropWhile (· ≠ .plain ')') with
  | nil =>
      rw [hd] at h
      cases h
  | cons p left =>
      rw [hd] at h
      cases h
      refine ⟨leaves_of_dropWhile hd, fun more => ?_⟩
      rw [groupComment?, (Text.dropWhile_append_of_cons hd _).1]

theorem lineComment?_cases {ps rest : List Piece} (h : lineComment? ps = some rest) :
    Leaves ps rest ∧ (rest = [] ∨
      ∀ more, lineComment? (ps ++ .plain ')' :: more) = some (rest ++ .plain ')' :: more)) := by
  rw [lineComment?] at h
  cases hd : ps.dropWhile (· ≠ .plain '\n') with
  | nil =>
      rw [hd] at h
      obtain ⟨hlast, he⟩ := (Option.ite_none_left_eq_some).mp h
      cases he
      exact ⟨⟨ps, (List.append_nil ps).symm, hlast⟩, .inl rfl⟩
  | cons p left =>
      rw [hd] at h
      cases h
      refine ⟨leaves_of_dropWhile hd, .inr fun more => ?_⟩
      rw [lineComment?, (Text.dropWhile_append_of_cons hd _).1]

variable {v v' : Verbosity} {o : Option Lexeme} {ps rest : List Piece}

theorem take_append (ps more : List Piece) :
    ((ps ++ .plain ')' :: more).take 2 == [.plain '?', .plain '#']) =
      (ps.take 2 == [.plain '?', .plain '#']) := by
  match ps with
  | [] => rfl
  | [p] => simp
  | p :: q :: ps => rfl

theorem item?_cases (h : item? v ps = some (o, rest)) :
    Leaves ps rest ∧ rest.length < ps.length ∧
      (v.headD false = true ∧ o = none ∧ rest = [] ∨
        ∀ more, item? v (ps ++ .plain ')' :: more) = some (o, rest ++ .plain ')' :: more)) := by
  match ps with
  | [] | .danglingBackslash :: _ => cases h
  | .escaped c :: ps =>
      obtain ⟨⟨x, left⟩, hx, he⟩ := Option.map_eq_some_iff.mp h
      cases he
      obtain ⟨hleaves, happend⟩ := readsFront_escape? c ps x rest hx
      refine ⟨hleaves.escaped, Nat.lt_succ_of_le hleaves.length_le, .inr fun more => ?_⟩
      rw [List.cons_append, item?, happend more]
      rfl
  | .plain c :: ps =>
      rw [item?] at h
      simp only [List.cons_append, item?, take_append]
      split at h
      · next hblank =>
          cases h
          exact ⟨(Leaves.refl _).plain, Nat.lt_succ_self _, .inr fun _ => if_pos hblank⟩
      · next hblank =>
          simp only [if_neg hblank]
          split at h
          · next hhash =>
              simp only [if_pos hhash]
              obtain ⟨left, hleft, he⟩ := Option.map_eq_some_iff.mp h
              cases he
              obtain ⟨hleaves, hrest⟩ := lineComment?_cases hleft
              refine ⟨hleaves.plain, Nat.lt_succ_of_le hleaves.length_le, ?_⟩
              rcases hrest with hrest | happend
              · exact .inl ⟨(Bool.and_eq_true_iff.mp hhash).1, rfl, hrest⟩
              · exact .inr fun more => by rw [happend more]; rfl
          · next hhash =>
              simp only [if_neg hhash]
              split at h
              · next hgroup =>
                  simp only [if_pos hgroup]
                  obtain ⟨left, hleft, he⟩ := Option.map_eq_some_iff.mp h
                  cases he
                  obtain ⟨hleaves, happend⟩ := groupComment?_append hleft
                  exact ⟨hleaves.plain, Nat.lt_succ_of_le hleaves.length_le,
                    .inr fun more => by rw [happend more]; rfl⟩
              · next hgroup =>
                  simp only [if_neg hgroup]
                  obtain ⟨⟨x, left⟩, hx, he⟩ := Option.map_eq_some_iff.mp h
                  cases he
                  obtain ⟨hleaves, happend⟩ := readsFront_plain? c ps x rest hx
                  exact ⟨hleaves.plain, Nat.lt_succ_of_le hleaves.length_le,
                    .inr fun more => by rw [happend more]; rfl⟩

/-- Stacks that say the same of every open group; beyond the last one nothing is verbose. -/
def Verbosity.Alike (v v' : Verbosity) : Prop := ∀ i, v.getD i false = v'.getD i false

namespace Verbosity.Alike

theorem refl (v : Verbosity) : v.Alike v := fun _ => rfl

theorem headD (h : v.Alike v') : v.headD false = v'.headD false := by
  have h₀ := h 0
  cases v <;> cases v' <;> exact h₀

theorem cons (h : v.Alike v') (b : Bool) : Verbosity.Alike (b :: v) (b :: v') := by
  intro i
  cases i with
  | zero => rfl
  | succ i => exact h i

theorem tail (h : v.Alike v') : Verbosity.Alike v.tail v'.tail := by
  intro i
  have hi := h (i + 1)
  cases v <;> cases v' <;> exact hi

theorem after (h : v.Alike v') (x : Lexeme) : (v.after x).Alike (v'.after x) := by
  unfold Verbosity.after
  rw [h.headD]
  cases x with
  | openGroup o => cases o <;> exact h.cons _
  | closeGroup => exact h.tail
  | leadingFlags f fs => exact h.tail.cons _
  | _ => exact h

theorem foldl (h : v.Alike v') (xs : List Lexeme) :
    Verbosity.Alike (xs.foldl Verbosity.after v) (xs.foldl Verbosity.after v') := by
  induction xs generalizing v v' with
  | nil => exact h
  | cons x xs ih => exact ih (h.after x)

theorem around : Verbosity.Alike [false, false] [false] := by
  intro i
  match i with
  | 0 | 1 | _ + 2 => rfl

end Verbosity.Alike

theorem item?_congr (h : v.Alike v') (ps : List Piece) : item? v ps = item? v' ps := by
  unfold item?
  rw [h.headD]

theorem lexemesFrom_congr {fuel fuel' : Nat} (hv : v.Alike v') (hf : ps.length < fuel)
    (hf' : ps.length < fuel') : lexemesFrom fuel v ps = lexemesFrom fuel' v' ps := by
  induction fuel generalizing fuel' v v' ps with
  | zero => exact absurd hf (Nat.not_lt_zero _)
  | succ fuel ih =>
      obtain ⟨fuel', rfl⟩ : ∃ n, fuel' = n + 1 := ⟨fuel' - 1, by omega⟩
      cases ps with
      | nil => rfl
      | cons p ps =>
          rw [lexemesFrom, lexemesFrom, ← item?_congr hv]
          cases h : item? v (p :: ps) with
          | none => rfl
          | some y =>
              obtain ⟨o, rest⟩ := y
              have hlt := (item?_cases h).2.1
              have hr : rest.length < fuel := by omega
              have hr' : rest.length < fuel' := by omega
              cases o with
              | none => exact ih hv hr hr'
              | some x => exact congrArg (x :: ·) (ih (hv.after x) hr hr')

theorem getLast?_ne_danglingBackslash {fuel : Nat} (h : ∀ f, .fault f ∉ lexemesFrom fuel v ps)
    (hf : ps.length < fuel) : ps.getLast? ≠ some .danglingBackslash := by
  induction fuel generalizing v ps with
  | zero => exact absurd hf (Nat.not_lt_zero _)
  | succ fuel ih =>
      cases ps with
      | nil => nofun
      | cons p ps =>
          intro hlast
          rw [lexemesFrom] at h
          cases hi : item? v (p :: ps) with
          | none =>
              simp only [hi] at h
              exact h _ List.mem_cons_self
          | some y =>
              obtain ⟨o, rest⟩ := y
              obtain ⟨hleaves, hlt, -⟩ := item?_cases hi
              have hr : rest.length < fuel := by omega
              simp only [hi] at h
              cases o with
              | none => exact ih h hr (hleaves.getLast? hlast)
              | some x =>
                  refine ih (fun f hm => h f (List.mem_cons_of_mem x hm)) hr (hleaves.getLast? hlast)

/-- The lexemes of what follows come behind, unless the pattern ends within a comment. -/
theorem lexemesFrom_append {fuel fuel' n : Nat} {more : List Piece}
    (h : ∀ f, .fault f ∉ lexemesFrom fuel v ps) (hf : ps.length < fuel)
    (hf' : (ps ++ .plain ')' :: more).length < fuel') (hn : more.length + 1 < n) :
    ∃ xs, lexemesFrom fuel' v (ps ++ .plain ')' :: more) = lexemesFrom fuel v ps ++ xs ∧
      (((lexemesFrom fuel v ps).foldl Verbosity.after v).headD false = false →
        xs = lexemesFrom n ((lexemesFrom fuel v ps).foldl Verbosity.after v)
          (.plain ')' :: more)) := by
  induction fuel generalizing fuel' v ps with
  | zero => exact absurd hf (Nat.not_lt_zero _)
  | succ fuel ih =>
      obtain ⟨fuel', rfl⟩ : ∃ m, fuel' = m + 1 := ⟨fuel' - 1, by omega⟩
      cases ps with
      | nil => exact ⟨_, rfl, fun _ => lexemesFrom_congr (.refl v) hf' hn⟩
      | cons p ps =>
          rw [lexemesFrom] at h
          rw [lexemesFrom]
          cases hi : item? v (p :: ps) with
          | none =>
              simp only [hi] at h
              exact (h _ List.mem_cons_self).elim
          | some y =>
              obtain ⟨o, rest⟩ := y
              obtain ⟨-, hlt, hcases⟩ := item?_cases hi
              simp only [hi] at h
              rcases hcases with ⟨hv, rfl, rfl⟩ | happend
              · have hnil : lexemesFrom fuel v [] = [] := by cases fuel <;> rfl
                simp only [hnil]
                refine ⟨_, rfl, fun hv' => ?_⟩
                rw [List.foldl_nil, hv] at hv'
                cases hv'
              · have hr : rest.length < fuel := by omega
                have hr' : (rest ++ .plain ')' :: more).length < fuel' := by
                  rw [List.length_append] at hf' ⊢
                  omega
                rw [List.cons_append, lexemesFrom, ← List.cons_append, happend more]
                cases o with
                | none => exact ih h hr hr'
                | some x =>
                    obtain ⟨xs, hxs, hfollow⟩ :=
                      ih (fun f hm => h f (List.mem_cons_of_mem x hm)) hr hr'
                    exact ⟨xs, congrArg (x :: ·) hxs, hfollow⟩

variable {t u : Text}

theorem ofText_append_of_lexemes (h : ∀ f, .fault f ∉ lexemes t) (u : Text) :
    Piece.ofText (t ++ u) = Piece.ofText t ++ Piece.ofText u :=
  Piece.ofText_append
    (getLast?_ne_danglingBackslash h (Nat.lt_succ_of_le (Piece.length_ofText_le t))) u

theorem lexemesFrom_openGroup (fuel : Nat) (v : Verbosity) (ps : List Piece) :
    lexemesFrom (fuel + 1) v (.plain '(' :: .plain '?' :: .plain ':' :: ps) =
      .openGroup .plain :: lexemesFrom fuel (v.headD false :: v) ps := by
  have hi : item? v (.plain '(' :: .plain '?' :: .plain ':' :: ps) =
      some (some (.openGroup .plain), ps) := by
    cases h : v.headD false <;> simp only [item?, h] <;> rfl
  rw [lexemesFrom, hi]
  rfl

theorem lexemes_enclosed (h : ∀ f, .fault f ∉ lexemes t) (u : Text) :
    ∃ xs, lexemes ('(' :: '?' :: ':' :: (t ++ ')' :: u)) =
        .openGroup .plain :: (lexemes t ++ xs) ∧
      ((lexemes t).foldl Verbosity.after [false] = [false] → xs = lexemes (')' :: u)) := by
  have hlen := Piece.length_ofText_le t
  have hlen' := Piece.length_ofText_le u
  have hstart : lexemes t = lexemesFrom (t.length + 1) [false, false] (Piece.ofText t) :=
    lexemesFrom_congr (fun i => (Verbosity.Alike.around i).symm) (by omega) (by omega)
  have hbehind : Piece.ofText (')' :: u) = .plain ')' :: Piece.ofText u :=
    Piece.ofText_cons_of_ne (by decide) u
  have hpieces : Piece.ofText ('(' :: '?' :: ':' :: (t ++ ')' :: u)) =
      .plain '(' :: .plain '?' :: .plain ':' ::
        (Piece.ofText t ++ .plain ')' :: Piece.ofText u) := by
    rw [Piece.ofText_cons_of_ne (by decide), Piece.ofText_cons_of_ne (by decide),
      Piece.ofText_cons_of_ne (by decide), ofText_append_of_lexemes h, hbehind]
  have hfuel : (Piece.ofText t ++ .plain ')' :: Piece.ofText u).length <
      ('(' :: '?' :: ':' :: (t ++ ')' :: u)).length := by
    simp only [List.length_append, List.length_cons]
    omega
  obtain ⟨xs, hxs, hfollow⟩ := lexemesFrom_append (hstart ▸ h) (by omega) hfuel
    (Nat.lt_succ_self ((Piece.ofText u).length + 1))
  rw [← hstart] at hxs hfollow
  refine ⟨xs, ?_, fun hquiet => ?_⟩
  · rw [lexemes, hpieces, lexemesFrom_openGroup]
    exact congrArg _ hxs
  · have halike := Verbosity.Alike.around.foldl (lexemes t)
    rw [hquiet] at halike
    rw [hfollow halike.headD, lexemes.eq_def (')' :: u), hbehind]
    exact lexemesFrom_congr halike (by simp) (by simp only [List.length_cons]; omega)

end Onboarding.Pattern
