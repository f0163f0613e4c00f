import Onboarding.Proofs.Pattern.Groups
import Onboarding.Proofs.Secret.Usable

namespace Onboarding

open Pattern (Expr Reader lexemes)

/-- A pattern that is ready to be searched for, with the numbers of its named groups. -/
structure Template where
  flags : Pattern.Flags
  expr : Expr
  names : List (Text × Nat)

namespace Keyword

/-- The larger pattern around a keyword, if it can be read. -/
def template? (k : Keyword) : Option Template :=
  match (lexemes (enclosed k.text)).foldlM Reader.next {} with
  | .ok r =>
    match r.finish with
    | .ok p => some ⟨SecretScanner.flags.change p.leading [], p.expr, r.names⟩
    | .error _ => none
  | .error _ => none

section Expressions

def blanks : Expr := .repeated (.char ⟨false, [.category false .space]⟩) 0 none .greedy

def quotedValue (q : Char) (i : Nat) : Expr :=
  .seq (.char (.single q.toNat))
    (.seq (.group i (.repeated (.char (allBut [] [q])) 0 none .greedy)) (.char (.single q.toNat)))

def bareValue (i : Nat) : Expr :=
  .seq anyQuote (.group i
    (.repeated (.char (allBut [.category false .space] "\"'\x60,;".toList)) 1 none .greedy))

def valueExpr (n : Nat) : Expr :=
  .alt (quotedValue '"' (n + 1))
    (.alt (quotedValue '\'' (n + 2)) (.alt (quotedValue '\x60' (n + 3)) (bareValue (n + 4))))

def behindExpr (n : Nat) : Expr :=
  .seq (.repeated (.char ⟨false, [.span 34 34, .span 39 39]⟩) 0 (some 1) .greedy)
    (.seq blanks (.seq (.char ⟨false, [.span 58 58, .span 61 61]⟩)
      (.seq blanks (.scoped [] [] (valueExpr n)))))

def valueGroups (n : Nat) : List (Text × Nat) :=
  [("bare".toList, n + 4), ("bq".toList, n + 3), ("sq".toList, n + 2), ("dq".toList, n + 1)]

end Expressions

variable {r : Reader}

open Pattern.Reader in
theorem foldlM_behindLexemes (hl : r.leading = []) (hf : r.fit = true)
    (hc : ∀ i ∈ r.conditions, i ≤ r.count) (ho : r.outer = []) (hnames : ∀ name ∈ reservedNames, r.names.lookup name = none) :
    ∃ s, behindLexemes.foldlM next r = .ok s ∧ s.names = valueGroups r.count ++ r.names ∧
      s.count = r.count + 4 ∧ s.leading = r.leading ∧ s.outer = r.outer ∧ s.fit = r.fit ∧
      s.conditions = r.conditions ∧ s.frame = { r.frame with
        items := .scoped [] [] (valueExpr r.count) :: (separatorItems ++ r.frame.items) } := by
  simp only [reservedNames, List.forall_mem_cons, List.not_mem_nil, false_imp_iff, implies_true,
    and_true] at hnames
  obtain ⟨hdq, hsq, hbq, hbare⟩ := hnames
  rw [← lookup_atSingle (by decide)] at hsq
  rw [← lookup_atBackquoted (by decide) (by decide)] at hbq
  rw [← lookup_atBare (by decide) (by decide) (by decide)] at hbare
  have hi := inValue_behindSeparator hl hf hc ho
  have hrun : behindLexemes.foldlM next r = [.closeGroup].foldlM next (r.atBare.captured "bare".toList
      (allBut [.category false .space] "\"'\x60,;".toList) 1) := by
    rw [behindLexemes, foldlM_append_of (separator_foldlM hl),
      quoted, foldlM_append_of (capture_foldlM hi.leading hdq _ _),
      foldlM_append_of (hi.between_foldlM _ _ _ _ _), ← atSingle,
      quoted, foldlM_append_of (capture_foldlM hi.atSingle.leading hsq _ _),
      foldlM_append_of (hi.atSingle.between_foldlM _ _ _ _ _), ← atBackquoted,
      quoted, foldlM_append_of (capture_foldlM hi.atSingle.atBackquoted.leading hbq _ _),
      foldlM_append_of (hi.atSingle.atBackquoted.beforeBare_foldlM _ _ _), ← atBare,
      bare, foldlM_append_of (capture_foldlM hi.atSingle.atBackquoted.atBare.leading hbare _ _)]
  exact ⟨_, hrun.trans rfl, rfl, rfl, rfl, rfl, rfl, rfl, rfl⟩

/-- The larger pattern around a keyword that can be used: the groups of the keyword come before those of
the value. -/
theorem template?_eq {k : Keyword} (h : k.isUsable) : ∃ n names, k.pattern.expr.topGroup ≤ n ∧
    k.template? = some ⟨SecretScanner.flags,
      .seq (.scoped [] [] k.pattern.expr) (behindExpr n), valueGroups n ++ names⟩ := by
  have hread := k.read_text
  rw [Pattern.read, Pattern.ofLexemes] at hread
  obtain ⟨r, hr, hfinish⟩ := Pattern.Reader.bind_eq_ok hread
  obtain ⟨ho, -, hf, hc, hp⟩ := Reader.finish_eq_ok_iff.mp hfinish
  obtain ⟨hleading, hnames⟩ := (isUsable_iff k).mp h
  rw [← hp] at hleading hnames
  have hfree : ∀ name ∈ reservedNames, r.behindGroup.names.lookup name = none := fun name hn =>
    lookup_eq_none_iff.mpr (hnames name hn)
  obtain ⟨s, hs, hsnames, hcount, hsleading, hsouter, hsfit, hsconditions, hframe⟩ :=
    foldlM_behindLexemes (r := r.behindGroup) hleading hf hc rfl hfree
  have henclosed : (lexemes (enclosed k.text)).foldlM Reader.next {} = .ok s :=
    (Reader.foldlM_lexemes_enclosed hr ho hleading lexemes_behind).trans hs
  have hconditions : ∀ i ∈ s.conditions, i ≤ s.count := by
    rw [hsconditions, hcount]
    exact fun i hi => Nat.le_add_right_of_le (hc i hi)
  have hexpr : s.frame.finished = .seq (.scoped [] [] k.pattern.expr) (behindExpr r.count) := by
    rw [hframe, ← hp]
    rfl
  have hs : s.finish = .ok ⟨[], s.names.map (·.1), s.frame.finished⟩ := by
    have hl : s.leading = [] := hsleading.trans hleading
    rw [Reader.finish_eq_ok_iff, hl]
    exact ⟨hsouter, rfl, hsfit.trans hf, hconditions, rfl⟩
  refine ⟨r.count, r.names, ?_, ?_⟩
  · rw [← hp]
    exact Reader.topGroup_finished hr
  · simp only [template?, henclosed, hs]
    rw [hexpr, hsnames]
    rfl

end Keyword

end Onboarding
