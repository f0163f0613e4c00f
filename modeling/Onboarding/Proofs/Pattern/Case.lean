import Onboarding.Proofs.Pattern.Forward
import Onboarding.Proofs.Text.Case

namespace Onboarding.Pattern

open Text (asciiLowerChar IgnoresCase)

variable {α β : Type} {fs : Flags}

namespace Category

theorem ignoresCase_holds (ascii : Bool) (k : Category) : IgnoresCase fun c => k.holds ascii c := by
  cases ascii <;> cases k <;> decide +kernel

end Category

theorem Member.holds_asciiLowerChar (hfs : fs.ignoreCase) (m : Member) (c : Char) :
    m.holds fs (asciiLowerChar c) = m.holds fs c := by
  have halike : IgnoresCase Text.alike := Text.ignoresCase_lowerChar.map fun c =>
    (Text.alikeSmallOf c.toNat).flatMap fun n => n :: Text.capitalsOf n
  have hascii : IgnoresCase Text.asciiAlike := by decide
  cases m with
  | span lo hi => rw [holds, holds, if_pos hfs, if_pos hfs, halike.apply, hascii.apply]
  | category negated k => rw [holds, holds, (k.ignoresCase_holds fs.ascii).apply c]

theorem CharSet.holds_asciiLowerChar (hfs : fs.ignoreCase) (s : CharSet) (c : Char) :
    s.holds fs (asciiLowerChar c) = s.holds fs c := by
  simp only [holds, Member.holds_asciiLowerChar hfs]

namespace Place

def asciiLower (s : Place) : Place :=
  ⟨Text.asciiLower s.before, Text.asciiLower s.after, s.groups.map fun g => (g.1, Text.asciiLower g.2)⟩

theorem asciiLower_start (t : Text) : start (Text.asciiLower t) = (start t).asciiLower := rfl

@[simp] theorem length_after_asciiLower (s : Place) : s.asciiLower.after.length = s.after.length :=
  Text.length_asciiLower _

theorem forward?_asciiLower (s : Place) :
    s.asciiLower.forward? = s.forward?.map fun x => (asciiLowerChar x.1, x.2.asciiLower) := by
  obtain ⟨before, after, groups⟩ := s
  cases after <;> rfl

theorem back?_asciiLower (n : Nat) (s : Place) :
    back? n s.asciiLower = (back? n s).map asciiLower := by
  induction n generalizing s with
  | zero => rfl
  | succ n ih =>
      obtain ⟨before, after, groups⟩ := s
      cases before with
      | nil => rfl
      | cons c before => exact ih ⟨before, c :: after, groups⟩

theorem moveTo_asciiLower (rest : Text) (s : Place) :
    s.asciiLower.moveTo (Text.asciiLower rest) = (s.moveTo rest).asciiLower := by
  simp only [moveTo, asciiLower, Text.length_asciiLower, Text.asciiLower_append,
    Text.asciiLower_reverse, Text.asciiLower_take, List.map_nil]

theorem between_asciiLower (s t : Place) :
    s.asciiLower.between t.asciiLower = Text.asciiLower (s.between t) := by
  simp only [between, asciiLower, Text.length_asciiLower, Text.asciiLower_reverse,
    Text.asciiLower_take]

theorem capture_asciiLower (i : Nat) (s t : Place) :
    capture i s.asciiLower t.asciiLower = (capture i s t).asciiLower := by
  rw [capture, between_asciiLower]
  rfl

theorem lookup_asciiLower (i : Nat) (s : Place) :
    s.asciiLower.groups.lookup i = (s.groups.lookup i).map Text.asciiLower := by
  rw [asciiLower]
  induction s.groups with
  | nil => rfl
  | cons g gs ih =>
      rw [List.map_cons, List.lookup_cons, List.lookup_cons, ih]
      split <;> rfl

theorem wordAt_asciiLower (ascii : Bool) (t : Text) :
    wordAt ascii (Text.asciiLower t) = wordAt ascii t := by
  cases t with
  | nil => rfl
  | cons c t => exact (Category.ignoresCase_holds ascii .word).apply c

theorem atAnchor_asciiLower (fs : Flags) (s : Place) (a : Anchor) :
    s.asciiLower.atAnchor fs a = s.atAnchor fs a := by
  have hfeed : IgnoresCase fun c => decide (c = '\n') := by decide
  cases a <;> simp only [atAnchor, asciiLower, Text.isEmpty_asciiLower, wordAt_asciiLower,
    Text.head?_asciiLower_beq hfeed, Text.asciiLower_beq_singleton hfeed]

theorem sameLetter_asciiLowerChar (hfs : fs.ignoreCase) (c d : Char) :
    sameLetter fs (asciiLowerChar c) (asciiLowerChar d) = sameLetter fs c d := by
  have hlower : IgnoresCase asciiLowerChar := by decide
  simp only [sameLetter, if_pos hfs, Text.ignoresCase_lowerChar.apply, hlower.apply]

theorem along_asciiLower (hfs : fs.ignoreCase) (x : Text) (s : Place) :
    along fs (Text.asciiLower x) s.asciiLower = (along fs x s).map asciiLower := by
  induction x generalizing s with
  | nil => rfl
  | cons c x ih =>
      rw [Text.asciiLower_cons, along, along, forward?_asciiLower]
      cases s.forward? with
      | none => rfl
      | some y =>
          simp only [Option.map_some, sameLetter_asciiLowerChar hfs, ih]
          split <;> rfl

end Place

/-- At the place of the text with small letters, a step tries what it tries at the place itself. -/
def Step.IgnoresCase (step : Step α) : Prop :=
  ∀ s k, step s.asciiLower k = step s fun t => k t.asciiLower

namespace Step.IgnoresCase

variable {step : Step α}

theorem exactly (h : step.IgnoresCase) (n : Nat) : Step.IgnoresCase (exactly step n) := by
  induction n with
  | zero => exact fun s k => rfl
  | succ n ih =>
      intro s k
      rw [Pattern.exactly, Pattern.exactly, h]
      simp only [ih _ k]

theorem greedily (h : step.IgnoresCase) (fuel : Nat) (most : Option Nat) :
    Step.IgnoresCase (greedily step fuel most) := by
  induction fuel generalizing most with
  | zero => exact fun s k => rfl
  | succ fuel ih =>
      intro s k
      rw [Pattern.greedily, Pattern.greedily, h]
      simp only [Place.length_after_asciiLower, ih _ _ k]

theorem lazily (h : step.IgnoresCase) (fuel : Nat) (most : Option Nat) :
    Step.IgnoresCase (lazily step fuel most) := by
  induction fuel generalizing most with
  | zero => exact fun s k => rfl
  | succ fuel ih =>
      intro s k
      rw [Pattern.lazily, Pattern.lazily, h]
      simp only [Place.length_after_asciiLower, ih _ _ k]

end Step.IgnoresCase

section First

variable {first : Place → Option Place}

theorem firstly_asciiLower (h : ∀ s, first s.asciiLower = (first s).map Place.asciiLower) (n : Nat)
    (s : Place) : firstly first n s.asciiLower = (firstly first n s).map Place.asciiLower := by
  induction n generalizing s with
  | zero => rfl
  | succ n ih =>
      rw [firstly, firstly, h, Option.bind_map, Option.map_bind]
      exact congrArg _ (funext ih)

theorem possessively_asciiLower (h : ∀ s, first s.asciiLower = (first s).map Place.asciiLower)
    (fuel : Nat) (most : Option Nat) (s : Place) :
    possessively first fuel most s.asciiLower = (possessively first fuel most s).asciiLower := by
  induction fuel generalizing most s with
  | zero => rfl
  | succ fuel ih =>
      rw [possessively, possessively, h]
      split
      · cases first s with
        | none => rfl
        | some t =>
            simp only [Option.map_some, Place.length_after_asciiLower, ih]
            split <;> rfl
      · rfl

end First

theorem map_eq_of_rel {g : α → β} {x : Option α} {y : Option β}
    (h : Option.Rel (fun a b => g a = b) x y) : x.map g = y := by
  cases h with
  | some h => exact congrArg some h
  | none => rfl

theorem Expr.map_run (p : Expr) (fs : Flags) (s : Place) (k : Place → Option α) (g : α → β) :
    (p.run fs s k).map g = p.run fs s fun t => (k t).map g := by
  refine map_eq_of_rel (run_relates (Nat.le_refl p.topGroup) fs s k _ fun t _ => ?_)
  cases k t with
  | none => exact .none
  | some a => exact .some rfl

/-- No part of an expression tells capitals from small letters again. -/
def Expr.ignoresCase : Expr → Bool
  | .empty | .char _ | .anyChar | .anchor _ | .backref _ => true
  | .seq p q | .alt p q | .ifGroup _ p q => p.ignoresCase && q.ignoresCase
  | .group _ p | .look _ _ p | .atomic p | .repeated p _ _ _ => p.ignoresCase
  | .scoped _ off p => !off.contains .ignoreCase && p.ignoresCase

theorem Flags.ignoreCase_set (hfs : fs.ignoreCase) {on : Bool} {f : Flag}
    (h : on = true ∨ f ≠ .ignoreCase) : (fs.set on f).ignoreCase := by
  cases f with
  | ignoreCase => exact h.resolve_right fun hne => hne rfl
  | multiline | dotAll | verbose | ascii | unicode | noRepeat => exact hfs

theorem Flags.ignoreCase_foldl_set {on : Bool} {l : List Flag} (hfs : fs.ignoreCase)
    (h : on = true ∨ .ignoreCase ∉ l) : (l.foldl (Flags.set on) fs).ignoreCase := by
  induction l generalizing fs with
  | nil => exact hfs
  | cons f l ih =>
      refine ih (ignoreCase_set hfs (h.imp_right fun hl => ?_)) (h.imp_right fun hl => ?_)
      · exact Ne.symm (List.ne_of_not_mem_cons hl)
      · exact List.not_mem_of_not_mem_cons hl

theorem Flags.ignoreCase_change {on off : List Flag} (hfs : fs.ignoreCase)
    (h : .ignoreCase ∉ off) : (fs.change on off).ignoreCase :=
  ignoreCase_foldl_set (ignoreCase_foldl_set hfs (.inl rfl)) (.inr h)

namespace Expr

theorem run_some_asciiLower {p : Expr} (h : (p.run fs : Step Place).IgnoresCase) (s : Place) :
    p.run fs s.asciiLower some = (p.run fs s some).map Place.asciiLower := by
  rw [h, map_run]
  rfl

theorem ignoresCase_run {p : Expr} (hp : p.ignoresCase) (hfs : fs.ignoreCase) :
    (p.run fs : Step α).IgnoresCase := by
  induction p generalizing fs α with
  | empty => exact fun s k => rfl
  | char set =>
      intro s k
      rw [run, run, Place.forward?_asciiLower]
      cases s.forward? with
      | none => rfl
      | some x => simp only [Option.map_some, CharSet.holds_asciiLowerChar hfs]
  | anyChar =>
      intro s k
      have hfeed : Text.IgnoresCase fun c => c != '\n' := by decide
      rw [run, run, Place.forward?_asciiLower]
      cases s.forward? with
      | none => rfl
      | some x => simp only [Option.map_some, hfeed.apply]
  | anchor a =>
      intro s k
      rw [run, run, Place.atAnchor_asciiLower]
  | seq p q ihp ihq =>
      rw [ignoresCase, Bool.and_eq_true] at hp
      intro s k
      rw [run, run, ihp hp.1 hfs]
      exact congrArg _ (funext fun t => ihq hp.2 hfs t k)
  | alt p q ihp ihq =>
      rw [ignoresCase, Bool.and_eq_true] at hp
      intro s k
      rw [run, run, ihp hp.1 hfs, ihq hp.2 hfs]
  | group i p ih =>
      intro s k
      rw [run, run, ih hp hfs]
      simp only [Place.capture_asciiLower]
  | backref i =>
      intro s k
      rw [run, run, Place.lookup_asciiLower]
      cases s.groups.lookup i with
      | none => rfl
      | some x =>
          simp only [Option.map_some, Place.along_asciiLower hfs, Option.bind_map]
          rfl
  | ifGroup i yes no ihy ihn =>
      rw [ignoresCase, Bool.and_eq_true] at hp
      intro s k
      rw [run, run, Place.lookup_asciiLower, Option.isSome_map, ihy hp.1 hfs, ihn hp.2 hfs]
  | look behind negated p ih =>
      intro s k
      -- What is looked for is run by itself: the place that it gets to is made small afterwards.
      have hfound : ((Place.back? (behind.getD 0) s.asciiLower).bind fun t => p.run fs t some) =
          ((Place.back? (behind.getD 0) s).bind fun t => p.run fs t some).map Place.asciiLower := by
        rw [Place.back?_asciiLower, Option.bind_map, Option.map_bind]
        exact congrArg _ (funext (run_some_asciiLower (ih hp hfs)))
      rw [run, run, hfound]
      simp only [Option.isSome_map, Option.bind_map]
      rfl
  | atomic p ih =>
      intro s k
      rw [run, run, run_some_asciiLower (ih hp hfs), Option.bind_map]
      rfl
  | «scoped» on off p ih =>
      rw [ignoresCase, Bool.and_eq_true, Bool.not_eq_true', ← Bool.not_eq_true,
        List.contains_iff_mem] at hp
      intro s k
      rw [run, run, ih hp.2 (Flags.ignoreCase_change hfs hp.1)]
  | repeated p least most greed ih =>
      intro s k
      cases greed with
      | greedy =>
          rw [run, run, (ih hp hfs).exactly]
          simp only [Place.length_after_asciiLower, (ih hp hfs).greedily _ _ _ k]
      | lazy =>
          rw [run, run, (ih hp hfs).exactly]
          simp only [Place.length_after_asciiLower, (ih hp hfs).lazily _ _ _ k]
      | possessive =>
          have hfirst := run_some_asciiLower (ih (α := Place) hp hfs)
          rw [run, run, firstly_asciiLower hfirst, Option.bind_map]
          simp only [Function.comp_def, Place.length_after_asciiLower]
          exact congrArg _ (funext fun t => congrArg k (possessively_asciiLower hfirst _ _ t))

end Expr

end Onboarding.Pattern
