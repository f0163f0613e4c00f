import Onboarding.Proofs.Pattern.Forward

namespace Onboarding.Pattern

variable {α β : Type} {R : α → β → Prop}

/-- An expression to which only the text from a place on matters: it asks neither for what stands
before nor for what the groups hold. -/
def Expr.isLocal : Expr → Bool
  | .empty | .char _ | .anyChar => true
  | .anchor _ | .backref _ | .ifGroup .. | .look .. => false
  | .seq p q | .alt p q => p.isLocal && q.isLocal
  | .group _ p | .atomic p | .scoped _ _ p | .repeated p _ _ _ => p.isLocal

def Place.SameAfter (s t : Place) : Prop := s.after = t.after

theorem Place.forward?_rel {s t : Place} (h : s.SameAfter t) :
    Option.Rel (fun a b => a.1 = b.1 ∧ a.2.SameAfter b.2) s.forward? t.forward? := by
  unfold Place.forward?
  rw [show s.after = t.after from h]
  split
  · exact .none
  · exact .some ⟨rfl, rfl⟩

/-- Two steps that give related results wherever the same text follows, if what is tried after them
does. -/
def Step.Alike (R : α → β → Prop) (f : Step α) (g : Step β) : Prop :=
  ∀ s t k l, s.SameAfter t → (∀ u v, u.SameAfter v → Option.Rel R (k u) (l v)) →
    Option.Rel R (f s k) (g t l)

namespace Step.Alike

variable {f : Step α} {g : Step β}

theorem exactly (h : Step.Alike R f g) (n : Nat) :
    Step.Alike R (exactly f n) (exactly g n) := by
  induction n with
  | zero => exact fun s t k l hst hkl => hkl s t hst
  | succ n ih => exact fun s t k l hst hkl => h s t _ _ hst fun u v huv => ih u v k l huv hkl

theorem greedily (h : Step.Alike R f g) (fuel : Nat) (most : Option Nat) :
    Step.Alike R (greedily f fuel most) (greedily g fuel most) := by
  induction fuel generalizing most with
  | zero => exact fun s t k l hst hkl => hkl s t hst
  | succ fuel ih =>
      intro s t k l hst hkl
      rw [Pattern.greedily, Pattern.greedily]
      split
      · refine orElse_rel (h s t _ _ hst fun u v huv => ?_) (hkl s t hst)
        rw [show u.after = v.after from huv, show s.after = t.after from hst]
        split
        · exact ih _ u v k l huv hkl
        · exact hkl u v huv
      · exact hkl s t hst

theorem lazily (h : Step.Alike R f g) (fuel : Nat) (most : Option Nat) :
    Step.Alike R (lazily f fuel most) (lazily g fuel most) := by
  induction fuel generalizing most with
  | zero => exact fun s t k l hst hkl => hkl s t hst
  | succ fuel ih =>
      intro s t k l hst hkl
      rw [Pattern.lazily, Pattern.lazily]
      refine orElse_rel (hkl s t hst) ?_
      split
      · refine h s t _ _ hst fun u v huv => ?_
        rw [show u.after = v.after from huv, show s.after = t.after from hst]
        split
        · exact ih _ u v k l huv hkl
        · exact hkl u v huv
      · exact .none

end Step.Alike

def FirstAlike (f g : Place → Option Place) : Prop :=
  ∀ s t, s.SameAfter t → Option.Rel Place.SameAfter (f s) (g t)

theorem bind_rel {x y : Option Place} {k : Place → Option α} {l : Place → Option β}
    (h : Option.Rel Place.SameAfter x y)
    (hkl : ∀ u v, u.SameAfter v → Option.Rel R (k u) (l v)) :
    Option.Rel R (x.bind k) (y.bind l) := by
  cases h with
  | some h => exact hkl _ _ h
  | none => exact .none

theorem firstly_rel {f g : Place → Option Place} (h : FirstAlike f g) (n : Nat) :
    FirstAlike (firstly f n) (firstly g n) := by
  induction n with
  | zero => exact fun s t hst => .some hst
  | succ n ih => exact fun s t hst => bind_rel (h s t hst) ih

theorem possessively_sameAfter {f g : Place → Option Place} (h : FirstAlike f g) (fuel : Nat)
    (most : Option Nat) {s t : Place} (hst : s.SameAfter t) :
    (possessively f fuel most s).SameAfter (possessively g fuel most t) := by
  induction fuel generalizing most s t with
  | zero => exact hst
  | succ fuel ih =>
      rw [possessively, possessively]
      split
      · have hfg := h s t hst
        generalize f s = x, g t = y at hfg ⊢
        cases hfg with
        | none => exact hst
        | @some u v huv =>
            simp only [show u.after = v.after from huv, show s.after = t.after from hst]
            split
            · exact ih _ huv
            · exact huv
      · exact hst

/-- A local expression matches alike wherever the same text follows. -/
theorem Expr.run_alike {p : Expr} (hp : p.isLocal) (fs : Flags) :
    Step.Alike R (p.run fs) (p.run fs) := by
  induction p generalizing fs α β with
  | empty => exact fun s t k l hst hkl => hkl s t hst
  | char set | anyChar =>
      intro s t k l hst hkl
      rw [run, run]
      have hf := Place.forward?_rel hst
      generalize s.forward? = x, t.forward? = y at hf
      cases hf with
      | none => exact .none
      | @some a b hab =>
          obtain ⟨c, u⟩ := a
          obtain ⟨d, v⟩ := b
          obtain ⟨rfl, huv⟩ := hab
          dsimp only
          split
          · exact hkl u v huv
          · exact .none
  | anchor | backref | ifGroup | look => cases hp
  | seq p q ihp ihq =>
      rw [isLocal, Bool.and_eq_true] at hp
      intro s t k l hst hkl
      exact ihp hp.1 fs s t _ _ hst fun u v huv => ihq hp.2 fs u v k l huv hkl
  | alt p q ihp ihq =>
      rw [isLocal, Bool.and_eq_true] at hp
      intro s t k l hst hkl
      exact orElse_rel (ihp hp.1 fs s t k l hst hkl) (ihq hp.2 fs s t k l hst hkl)
  | group i p ih =>
      intro s t k l hst hkl
      exact ih hp fs s t _ _ hst fun u v huv => hkl _ _ huv
  | atomic p ih =>
      intro s t k l hst hkl
      exact bind_rel (ih hp fs s t some some hst fun u v huv => .some huv) hkl
  | «scoped» on off p ih => exact fun s t k l hst hkl => ih hp _ s t k l hst hkl
  | repeated p least most greed ih =>
      intro s t k l hst hkl
      cases greed with
      | greedy =>
          refine (ih hp fs).exactly least s t _ _ hst fun u v huv => ?_
          rw [show u.after = v.after from huv]
          exact (ih hp fs).greedily _ _ u v k l huv hkl
      | lazy =>
          refine (ih hp fs).exactly least s t _ _ hst fun u v huv => ?_
          rw [show u.after = v.after from huv]
          exact (ih hp fs).lazily _ _ u v k l huv hkl
      | possessive =>
          have hfirst : FirstAlike (fun s => p.run fs s some) (fun s => p.run fs s some) :=
            fun s t hst => ih hp fs s t some some hst fun u v huv => .some huv
          refine bind_rel (firstly_rel hfirst least s t hst) fun u v huv => hkl _ _ ?_
          rw [show u.after = v.after from huv]
          exact possessively_sameAfter hfirst _ _ huv

end Onboarding.Pattern
