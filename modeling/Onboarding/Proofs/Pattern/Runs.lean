import Onboarding.Pattern.Matching

namespace Onboarding.Pattern

variable {α : Type} {fs : Flags} {set : CharSet}

namespace Place

def skip (test : Char → Bool) (s : Place) : Place :=
  { s with
    before := (s.after.takeWhile test).reverse ++ s.before
    after := s.after.dropWhile test }

def step (c : Char) (rest : Text) (s : Place) : Place :=
  { s with before := c :: s.before, after := rest }

def skipOne (test : Char → Bool) (s : Place) : Place :=
  match s.after with
  | c :: rest => if test c then s.step c rest else s
  | [] => s

theorem groups_skipOne (test : Char → Bool) (s : Place) : (s.skipOne test).groups = s.groups := by
  unfold skipOne
  split
  · split <;> rfl
  · rfl

theorem between_skip (test : Char → Bool) (s : Place) :
    s.between (s.skip test) = s.after.takeWhile test := by
  simp only [between, skip, List.length_append, Nat.add_sub_cancel]
  rw [List.take_left, List.reverse_reverse]

theorem skip_step {test : Char → Bool} {c : Char} {rest : Text} {s : Place} (h : s.after = c :: rest)
    (hc : test c) : (s.step c rest).skip test = s.skip test := by
  simp [skip, step, h, hc]

theorem skip_of_not {test : Char → Bool} {s : Place} (h : ¬ s.after.head?.any test) :
    s.skip test = s := by
  obtain ⟨before, after, groups⟩ := s
  cases after with
  | nil => rfl
  | cons c rest => simp_all [skip]

end Place

theorem Expr.run_char_cons {s : Place} {c : Char} {rest : Text} (h : s.after = c :: rest)
    (k : Place → Option α) :
    (Expr.char set).run fs s k = if set.holds fs c then k (s.step c rest) else none := by
  rw [run, Place.forward?, h]
  rfl

theorem Expr.run_char_nil {s : Place} (h : s.after = []) (k : Place → Option α) :
    (Expr.char set).run fs s k = none := by
  rw [run, Place.forward?, h]

theorem orElse_eq_of_none_or {x y : Option α} (h : y = none ∨ x.isSome) : (x <|> y) = x := by
  cases x with
  | none =>
      rcases h with rfl | h
      · rfl
      · cases h
  | some a => rfl

/-- Wherever the run could go on, what follows fails, or it succeeds behind the whole run. -/
def Settles (test : Char → Bool) (k : Place → Option α) : Prop :=
  ∀ s, s.after.head?.any test → k s = none ∨ (k (s.skip test)).isSome

variable {k : Place → Option α}

theorem greedily_char (h : Settles (set.holds fs) k) {fuel : Nat} {s : Place}
    (hf : s.after.length < fuel) :
    greedily ((Expr.char set).run fs) fuel none s k = k (s.skip (set.holds fs)) := by
  induction fuel generalizing s with
  | zero => omega
  | succ fuel ih =>
      rw [greedily, if_pos (show mayRepeat none = true from rfl)]
      cases ha : s.after with
      | nil =>
          rw [Expr.run_char_nil ha, Place.skip_of_not (by simp [ha])]
          rfl
      | cons c rest =>
          rw [Expr.run_char_cons ha]
          by_cases hc : set.holds fs c
          · have hlt : (s.step c rest).after.length < (c :: rest).length := Nat.lt_succ_self _
            have hrest : (s.step c rest).after.length < fuel := by
              rw [ha, List.length_cons] at hf
              exact Nat.lt_of_succ_lt_succ hf
            rw [if_pos hc, if_pos hlt, Option.map_none, ih hrest, Place.skip_step ha hc]
            exact orElse_eq_of_none_or (h s (by simpa [ha] using hc))
          · rw [if_neg hc, Place.skip_of_not (by simpa [ha] using hc)]
            rfl

theorem run_star (h : Settles (set.holds fs) k) (s : Place) :
    (Expr.repeated (.char set) 0 none .greedy).run fs s k = k (s.skip (set.holds fs)) :=
  greedily_char h (Nat.lt_succ_self _)

theorem run_plus (h : Settles (set.holds fs) k) (s : Place) :
    (Expr.repeated (.char set) 1 none .greedy).run fs s k =
      if s.after.head?.any (set.holds fs) then k (s.skip (set.holds fs)) else none := by
  have hrun : (Expr.repeated (.char set) 1 none .greedy).run fs s k = (Expr.char set).run fs s
      fun t => greedily ((Expr.char set).run fs) (t.after.length + 1) none t k := rfl
  rw [hrun]
  cases ha : s.after with
  | nil => exact Expr.run_char_nil ha _
  | cons c rest =>
      rw [Expr.run_char_cons ha, greedily_char h (Nat.lt_succ_self _)]
      by_cases hc : set.holds fs c
      · rw [if_pos hc, Place.skip_step ha hc]
        simp [hc]
      · simp [hc]

theorem run_optional (h : ∀ s, s.after.head?.any (set.holds fs) → k s = none) (s : Place) :
    (Expr.repeated (.char set) 0 (some 1) .greedy).run fs s k = k (s.skipOne (set.holds fs)) := by
  have hrun : (Expr.repeated (.char set) 0 (some 1) .greedy).run fs s k =
      greedily ((Expr.char set).run fs) (s.after.length + 1) (some 1) s k := rfl
  have hlast (fuel : Nat) (t : Place) :
      greedily ((Expr.char set).run fs) fuel (some 0) t k = k t := by
    cases fuel <;> rfl
  rw [hrun, greedily, if_pos (show mayRepeat (some 1) = true from rfl), Place.skipOne]
  cases ha : s.after with
  | nil =>
      rw [Expr.run_char_nil ha]
      rfl
  | cons c rest =>
      rw [Expr.run_char_cons ha]
      by_cases hc : set.holds fs c
      · have hlt : (s.step c rest).after.length < (c :: rest).length := Nat.lt_succ_self _
        rw [if_pos hc, if_pos hlt]
        simp only [hc, if_true]
        rw [h s (by simpa [ha] using hc)]
        exact (orElse_eq_of_none_or (.inl rfl)).trans (hlast _ _)
      · simp only [hc]
        rfl

end Onboarding.Pattern
