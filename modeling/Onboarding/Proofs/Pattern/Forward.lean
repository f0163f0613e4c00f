import Onboarding.Pattern.Matching

namespace Onboarding.Pattern

variable {α β : Type} {R : α → β → Prop}

/-- From `s` one gets to `t` by going forward in the same text. -/
def Place.Reaches (s t : Place) : Prop :=
  ∃ x, s.after = x ++ t.after ∧ t.before = x.reverse ++ s.before

namespace Place

theorem Reaches.refl (s : Place) : s.Reaches s := ⟨[], rfl, rfl⟩

theorem Reaches.trans {s t u : Place} (h : s.Reaches t) (h' : t.Reaches u) : s.Reaches u := by
  obtain ⟨x, ha, hb⟩ := h
  obtain ⟨y, ha', hb'⟩ := h'
  exact ⟨x ++ y, by rw [ha, ha', List.append_assoc],
    by rw [hb', hb, List.reverse_append, List.append_assoc]⟩

theorem Reaches.length_le {s t : Place} (h : s.Reaches t) : t.after.length ≤ s.after.length := by
  obtain ⟨x, ha, -⟩ := h
  rw [ha, List.length_append]
  omega

theorem Reaches.length_eq {s t : Place} (h : s.Reaches t) :
    t.before.length + t.after.length = s.before.length + s.after.length := by
  obtain ⟨x, ha, hb⟩ := h
  rw [ha, hb, List.length_append, List.length_append, List.length_reverse]
  omega

theorem Reaches.of_sides {s t u : Place} (h : s.Reaches t) (hb : u.before = t.before)
    (ha : u.after = t.after) : s.Reaches u := by
  obtain ⟨x, hx, hy⟩ := h
  exact ⟨x, by rw [hx, ha], by rw [hb, hy]⟩

theorem reaches_of_forward? {s t : Place} {c : Char} (h : s.forward? = some (c, t)) :
    s.Reaches t ∧ s.after = c :: t.after := by
  unfold forward? at h
  split at h
  · cases h
  · next c' rest ha =>
      simp only [Option.some.injEq, Prod.mk.injEq] at h
      obtain ⟨rfl, rfl⟩ := h
      exact ⟨⟨[c'], ha, rfl⟩, ha⟩

theorem reaches_of_along (fs : Flags) {x : Text} {s t : Place} (h : along fs x s = some t) :
    s.Reaches t := by
  induction x generalizing s with
  | nil =>
      obtain rfl := Option.some.inj h
      exact .refl s
  | cons c x ih =>
      rw [along] at h
      split at h
      · next d u hu =>
          split at h
          · exact (reaches_of_forward? hu).1.trans (ih h)
          · cases h
      · cases h

end Place

def Expr.topGroup : Expr → Nat
  | .empty | .char _ | .anyChar | .anchor _ | .backref _ => 0
  | .seq p q | .alt p q | .ifGroup _ p q => max p.topGroup q.topGroup
  | .group i p => max i p.topGroup
  | .look _ _ p | .atomic p | .scoped _ _ p | .repeated p _ _ _ => p.topGroup

/-- From `s` one gets to `t` while no group beyond `n` is set. -/
structure Place.Travels (n : Nat) (s t : Place) : Prop where
  reaches : s.Reaches t
  lookup_eq : ∀ i, n < i → t.groups.lookup i = s.groups.lookup i

namespace Place.Travels

variable {n : Nat} {s t u : Place}

theorem refl (n : Nat) (s : Place) : s.Travels n s := ⟨.refl s, fun _ _ => rfl⟩

theorem trans (h : s.Travels n t) (h' : t.Travels n u) : s.Travels n u :=
  ⟨h.reaches.trans h'.reaches, fun i hi => (h'.lookup_eq i hi).trans (h.lookup_eq i hi)⟩

theorem of_groups_eq (h : s.Reaches t) (hg : t.groups = s.groups) : s.Travels n t :=
  ⟨h, fun _ _ => by rw [hg]⟩

theorem capture (h : s.Travels n t) {i : Nat} (hi : i ≤ n) : s.Travels n (Place.capture i s t) where
  reaches := h.reaches.of_sides rfl rfl
  lookup_eq j hj := by
    have hne : (j == i) = false := beq_false_of_ne (Nat.ne_of_gt (Nat.lt_of_le_of_lt hi hj))
    rw [Place.capture, List.lookup_cons, hne]
    exact h.lookup_eq j hj

end Place.Travels

theorem Place.groups_of_forward? {s t : Place} {c : Char} (h : s.forward? = some (c, t)) :
    t.groups = s.groups := by
  unfold forward? at h
  split at h
  · cases h
  · cases h
    rfl

theorem Place.groups_of_along {fs : Flags} {x : Text} {s t : Place} (h : along fs x s = some t) :
    t.groups = s.groups := by
  induction x generalizing s with
  | nil =>
      obtain rfl := Option.some.inj h
      rfl
  | cons c x ih =>
      rw [along] at h
      split at h
      · next d u hu =>
          split at h
          · exact (ih h).trans (groups_of_forward? hu)
          · cases h
      · cases h

theorem Place.groups_of_back? {m : Nat} {s t : Place} (h : back? m s = some t) :
    t.groups = s.groups := by
  induction m generalizing s with
  | zero =>
      obtain rfl := Option.some.inj h
      rfl
  | succ m ih =>
      rw [back?] at h
      split at h
      · cases h
      · have hg := ih h
        exact hg

theorem orElse_rel {x y : Option α} {x' y' : Option β} (h : Option.Rel R x x')
    (h' : Option.Rel R y y') : Option.Rel R (x <|> y) (x' <|> y') := by
  cases h with
  | some h => exact .some h
  | none => exact h'

/-- From one place two steps give related results if what follows does wherever one may get to. -/
def Step.Relates (n : Nat) (R : α → β → Prop) (f : Step α) (g : Step β) : Prop :=
  ∀ s k l, (∀ t, s.Travels n t → Option.Rel R (k t) (l t)) → Option.Rel R (f s k) (g s l)

namespace Step.Relates

variable {n : Nat} {f : Step α} {g : Step β}

theorem exactly (h : Step.Relates n R f g) (m : Nat) :
    Step.Relates n R (exactly f m) (exactly g m) := by
  induction m with
  | zero => exact fun s k l hkl => hkl s (.refl n s)
  | succ m ih => exact fun s k l hkl => h s _ _ fun t hst => ih t k l fun u htu => hkl u (hst.trans htu)

theorem greedily (h : Step.Relates n R f g) (fuel : Nat) (most : Option Nat) :
    Step.Relates n R (greedily f fuel most) (greedily g fuel most) := by
  induction fuel generalizing most with
  | zero => exact fun s k l hkl => hkl s (.refl n s)
  | succ fuel ih =>
      intro s k l hkl
      rw [Pattern.greedily, Pattern.greedily]
      split
      · refine orElse_rel (h s _ _ fun t hst => ?_) (hkl s (.refl n s))
        split
        · exact ih _ t k l fun u htu => hkl u (hst.trans htu)
        · exact hkl t hst
      · exact hkl s (.refl n s)

theorem lazily (h : Step.Relates n R f g) (fuel : Nat) (most : Option Nat) :
    Step.Relates n R (lazily f fuel most) (lazily g fuel most) := by
  induction fuel generalizing most with
  | zero => exact fun s k l hkl => hkl s (.refl n s)
  | succ fuel ih =>
      intro s k l hkl
      rw [Pattern.lazily, Pattern.lazily]
      refine orElse_rel (hkl s (.refl n s)) ?_
      split
      · refine h s _ _ fun t hst => ?_
        split
        · exact ih _ t k l fun u htu => hkl u (hst.trans htu)
        · exact hkl t hst
      · exact .none

theorem exists_travels {f : Step α} (h : ∀ R : α → α → Prop, Step.Relates n R f f) {s : Place}
    {k : Place → Option α} {a : α} (hk : f s k = some a) : ∃ t, s.Travels n t ∧ k t = some a := by
  have hrel := h (fun b _ => ∃ t, s.Travels n t ∧ k t = some b) s k k fun t hst => by
    cases hkt : k t with
    | none => exact .none
    | some b => exact .some ⟨t, hst, hkt⟩
  rw [hk] at hrel
  cases hrel with
  | some h => exact h

end Step.Relates

section First

variable {n : Nat} {first : Place → Option Place}

theorem travels_possessively (h : ∀ s t, first s = some t → s.Travels n t) (fuel : Nat)
    (most : Option Nat) (s : Place) : s.Travels n (possessively first fuel most s) := by
  induction fuel generalizing most s with
  | zero => exact .refl n s
  | succ fuel ih =>
      rw [possessively]
      split
      · split
        · next t ht =>
            split
            · exact (h s t ht).trans (ih _ t)
            · exact h s t ht
        · exact .refl n s
      · exact .refl n s

theorem travels_of_firstly (h : ∀ s t, first s = some t → s.Travels n t) {m : Nat} {s t : Place}
    (ht : firstly first m s = some t) : s.Travels n t := by
  induction m generalizing s with
  | zero =>
      obtain rfl := Option.some.inj ht
      exact .refl n s
  | succ m ih =>
      obtain ⟨u, hu, hut⟩ := Option.bind_eq_some_iff.mp ht
      exact (h s u hu).trans (ih hut)

theorem bind_rel_self {x : Option Place} {k : Place → Option α} {l : Place → Option β}
    (h : ∀ t, x = some t → Option.Rel R (k t) (l t)) : Option.Rel R (x.bind k) (x.bind l) := by
  cases x with
  | none => exact .none
  | some t => exact h t rfl

end First

/-- An expression gets to places further on, and sets no group beyond its own. -/
theorem Expr.run_relates {p : Expr} {n : Nat} (hp : p.topGroup ≤ n) (fs : Flags) :
    Step.Relates n R (p.run fs) (p.run fs) := by
  induction p generalizing fs α β with
  | empty => exact fun s k l hkl => hkl s (.refl n s)
  | char set | anyChar =>
      intro s k l hkl
      rw [run, run]
      split
      · next c t hf =>
          split
          · exact hkl t (.of_groups_eq (Place.reaches_of_forward? hf).1 (Place.groups_of_forward? hf))
          · exact .none
      · exact .none
  | anchor b =>
      intro s k l hkl
      rw [run, run]
      split
      · exact hkl s (.refl n s)
      · exact .none
  | seq p q ihp ihq =>
      rw [topGroup, Nat.max_le] at hp
      intro s k l hkl
      exact ihp hp.1 fs s _ _ fun t hst => ihq hp.2 fs t k l fun u htu => hkl u (hst.trans htu)
  | alt p q ihp ihq =>
      rw [topGroup, Nat.max_le] at hp
      intro s k l hkl
      exact orElse_rel (ihp hp.1 fs s k l hkl) (ihq hp.2 fs s k l hkl)
  | group i p ih =>
      rw [topGroup, Nat.max_le] at hp
      intro s k l hkl
      exact ih hp.2 fs s _ _ fun t hst => hkl _ (hst.capture hp.1)
  | backref i =>
      intro s k l hkl
      rw [run, run]
      split
      · exact bind_rel_self fun t ht =>
          hkl t (.of_groups_eq (Place.reaches_of_along fs ht) (Place.groups_of_along ht))
      · exact .none
  | ifGroup i yes no ihy ihn =>
      rw [topGroup, Nat.max_le] at hp
      intro s k l hkl
      rw [run, run]
      split
      · exact ihy hp.1 fs s k l hkl
      · exact ihn hp.2 fs s k l hkl
  | look behind negated p ih =>
      intro s k l hkl
      rw [run, run]
      split
      · split
        · exact .none
        · exact hkl s (.refl n s)
      · refine bind_rel_self fun t ht => ?_
        obtain ⟨u, hu, ht⟩ := Option.bind_eq_some_iff.mp ht
        obtain ⟨v, huv, hv⟩ := Step.Relates.exists_travels (fun R => ih hp fs) ht
        obtain rfl := Option.some.inj hv
        refine hkl _ ⟨(Place.Reaches.refl s).of_sides rfl rfl, fun i hi => ?_⟩
        rw [← Place.groups_of_back? hu]
        exact huv.lookup_eq i hi
  | atomic p ih =>
      intro s k l hkl
      refine bind_rel_self fun t ht => ?_
      obtain ⟨u, hsu, hu⟩ := Step.Relates.exists_travels (fun R => ih hp fs) ht
      obtain rfl := Option.some.inj hu
      exact hkl u hsu
  | «scoped» on off p ih => exact fun s k l hkl => ih hp _ s k l hkl
  | repeated p least most greed ih =>
      intro s k l hkl
      cases greed with
      | greedy =>
          exact (ih hp fs).exactly least s _ _ fun t hst =>
            (ih hp fs).greedily _ _ t k l fun u htu => hkl u (hst.trans htu)
      | lazy =>
          exact (ih hp fs).exactly least s _ _ fun t hst =>
            (ih hp fs).lazily _ _ t k l fun u htu => hkl u (hst.trans htu)
      | possessive =>
          have hfirst : ∀ s t, p.run fs s some = some t → s.Travels n t := by
            intro s t ht
            obtain ⟨u, hsu, hu⟩ := Step.Relates.exists_travels (fun R => ih hp fs) ht
            obtain rfl := Option.some.inj hu
            exact hsu
          exact bind_rel_self fun t ht =>
            hkl _ ((travels_of_firstly hfirst ht).trans (travels_possessively hfirst _ _ t))

/-- A step succeeds only with what follows makes of a place further on. -/
def Step.Forward (step : Step α) : Prop :=
  ∀ s k a, step s k = some a → ∃ t, s.Reaches t ∧ k t = some a

theorem Expr.run_forward (p : Expr) (fs : Flags) : (p.run fs : Step α).Forward := by
  intro s k a h
  obtain ⟨t, hst, ht⟩ :=
    Step.Relates.exists_travels (fun R => Expr.run_relates (Nat.le_refl p.topGroup) fs) h
  exact ⟨t, hst.reaches, ht⟩

end Onboarding.Pattern
