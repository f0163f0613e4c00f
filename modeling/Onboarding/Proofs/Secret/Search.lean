import Onboarding.Proofs.Secret.Capture

namespace Onboarding

open Keyword (Holds reservedNames)
open Pattern (Expr Place)
open SecretScanner (valueAt? valuesFrom)

namespace Template

/-- The text of the first group for a value that is set, if all four are there and one of them is. -/
def valueOf? (m : Template) (t : Place) : Option Text := do
  let groups ← reservedNames.mapM fun name => m.names.lookup name
  groups.findSome? fun i => t.groups.lookup i

def values? (m : Template) : Nat → Place → Option (List Text)
  | 0, _ => some []
  | fuel + 1, s =>
    match m.expr.run m.flags s some with
    | some t => do
      let value ← m.valueOf? t
      let values ← m.values? fuel { t with groups := [] }
      return value :: values
    | none =>
      match s.forward? with
      | some (_, t) => m.values? fuel t
      | none => some []

/-- The larger pattern of a keyword with at most `n` groups. -/
structure IsAround (m : Template) (p : Expr) (n : Nat) : Prop where
  topGroup : p.topGroup ≤ n
  flags : m.flags = SecretScanner.flags
  expr : m.expr = .seq (.scoped [] [] p) (Keyword.behindExpr n)
  groups : (reservedNames.mapM fun name => m.names.lookup name) = some [n + 1, n + 2, n + 3, n + 4]

end Template

theorem Keyword.exists_template {k : Keyword} (h : k.isUsable) :
    ∃ m n, k.template? = some m ∧ m.IsAround k.pattern.expr n := by
  obtain ⟨n, names, hn, hk⟩ := template?_eq h
  exact ⟨_, n, hk, hn, rfl, rfl, rfl⟩

theorem Pattern.Place.moveTo_eq {s t : Place} (h : s.Reaches t) :
    s.moveTo t.after = { t with groups := [] } := by
  obtain ⟨x, ha, hb⟩ := h
  have hl : s.after.length - t.after.length = x.length := by
    rw [ha, List.length_append]
    omega
  simp only [Place.moveTo, hl]
  rw [ha, List.take_left, hb]

namespace Template

variable {m : Template} {p : Expr} {n : Nat}

theorem IsAround.valueOf?_eq (h : m.IsAround p n) {s t : Place} {x : Text × Text}
    (hs : ∀ i, n < i → s.groups.lookup i = none) (ht : Holds n s t x) : m.valueOf? t = some x.1 := by
  obtain ⟨i, hlo, hhi, -, hgroups⟩ := ht
  have hlookup (j : Nat) (hj : n < j) : t.groups.lookup j = if j = i then some x.1 else none := by
    rw [hgroups, List.lookup_cons, hs j hj]
    by_cases hji : j = i
    · rw [if_pos hji, beq_iff_eq.mpr hji]
    · rw [if_neg hji, beq_false_of_ne hji]
  rw [valueOf?, h.groups]
  simp only [Option.bind_eq_bind, Option.bind_some, List.findSome?_cons, List.findSome?_nil,
    hlookup (n + 1) (by omega), hlookup (n + 2) (by omega), hlookup (n + 3) (by omega),
    hlookup (n + 4) (by omega)]
  have hi : i = n + 1 ∨ i = n + 2 ∨ i = n + 3 ∨ i = n + 4 := by omega
  rcases hi with rfl | rfl | rfl | rfl <;> simp

/-- A match of the larger pattern, with the value and the place behind it that are found without it. -/
def Agrees (m : Template) (t : Place) (x : Text × Place) : Prop :=
  m.valueOf? t = some x.1 ∧ { t with groups := [] } = x.2

/-- The larger pattern matches just where a keyword with a value is found. -/
theorem IsAround.run_rel (h : m.IsAround p n) {s : Place} (hs : s.groups = []) :
    Option.Rel m.Agrees (m.expr.run m.flags s some) (valueAt? p s) := by
  have hrun : m.expr.run m.flags s some =
      p.run SecretScanner.flags s fun t =>
        (Keyword.behindExpr n).run SecretScanner.flags t some := by
    rw [h.expr, h.flags]
    rfl
  rw [hrun]
  refine Expr.run_relates h.topGroup SecretScanner.flags s _ _ fun t hst => ?_
  have hfree : ∀ i, n < i → t.groups.lookup i = none := by
    intro i hi
    rw [hst.lookup_eq i hi, hs]
    rfl
  have hrel := Keyword.run_behindExpr n t
  have hforward : ∀ u, (Keyword.behindExpr n).run SecretScanner.flags t some = some u → t.Reaches u := by
    intro u hu
    obtain ⟨v, hv, he⟩ := (Keyword.behindExpr n).run_forward SecretScanner.flags t some u hu
    obtain rfl := Option.some.inj he
    exact hv
  generalize (Keyword.behindExpr n).run SecretScanner.flags t some = x,
    SecretValue.behindKeyword? t.after = y at hrel hforward
  cases hrel with
  | none => exact .none
  | @some u found hu =>
      refine .some ⟨h.valueOf?_eq hfree hu, ?_⟩
      have hafter : u.after = found.2 := by
        obtain ⟨i, -, -, hafter, -⟩ := hu
        exact hafter
      rw [← Pattern.Place.moveTo_eq (hforward u rfl), hafter]

theorem IsAround.values?_eq (h : m.IsAround p n) (fuel : Nat) {s : Place} (hs : s.groups = []) :
    m.values? fuel s = some (valuesFrom p fuel s) := by
  induction fuel generalizing s with
  | zero => rfl
  | succ fuel ih =>
      rw [values?, valuesFrom]
      have hrel := h.run_rel hs
      generalize m.expr.run m.flags s some = x, valueAt? p s = y at hrel
      cases hrel with
      | @some t found ht =>
          obtain ⟨value, u⟩ := found
          obtain ⟨hvalue, rfl⟩ := ht
          have hrest := ih (s := { t with groups := [] }) rfl
          simp only [hvalue, hrest, Option.bind_eq_bind, Option.bind_some]
          rfl
      | none =>
          cases hf : s.forward? with
          | none => rfl
          | some ahead => exact ih ((Pattern.Place.groups_of_forward? hf).trans hs)

end Template

theorem mapM_eq_some {α β : Type} {f : α → Option β} {g : α → β} {xs : List α}
    (h : ∀ a ∈ xs, f a = some (g a)) : xs.mapM f = some (xs.map g) := by
  induction xs with
  | nil => rfl
  | cons a xs ih =>
      rw [List.forall_mem_cons] at h
      rw [List.mapM_cons, h.1, ih h.2]
      rfl

namespace SecretScanner

/-- The matches of a rule in a line, unless its pattern cannot be read or some match has no value. -/
def matchesOf? (placeholders : List Text) (l : Line) (r : SecretRule) : Option (List SecretMatch) := do
  let m ← r.keyword.template?
  let values ← m.values? (l.text.length + 1) (.start l.text)
  return (values.filter (isReported placeholders r)).map fun _ => ⟨l.number, r.category⟩

def scan? (s : SecretScanner) (ls : List Line) : Option (List SecretMatch) := do
  let found ← ls.mapM fun l => (s.rules.mapM (matchesOf? s.placeholders l)).map List.flatten
  return found.flatten

theorem matchesOf?_eq {r : SecretRule} (h : r.keyword.isUsable) (placeholders : List Text) (l : Line) :
    matchesOf? placeholders l r = some (matchesOf placeholders l r) := by
  obtain ⟨m, n, hm, haround⟩ := Keyword.exists_template h
  rw [matchesOf?, hm]
  simp only [Option.bind_eq_bind, Option.bind_some, haround.values?_eq _ (s := .start l.text) rfl]
  rfl

theorem scan?_eq (s : SecretScanner) (ls : List Line) : s.scan? ls = some (s.scan ls) := by
  have hline : ∀ l ∈ ls, (s.rules.mapM (matchesOf? s.placeholders l)).map List.flatten =
      some (s.rules.flatMap (matchesOf s.placeholders l)) := by
    intro l _
    rw [mapM_eq_some fun r hr => matchesOf?_eq (s.usable r hr) s.placeholders l]
    rfl
  rw [scan?, mapM_eq_some hline]
  rfl

end SecretScanner

end Onboarding
