import Onboarding.Config.Segment
import Onboarding.Proofs.Pattern.Runs
import Onboarding.Proofs.Secret.Template
import Onboarding.Proofs.Text.Alike

namespace Onboarding

open Pattern (CharSet Expr Member Place Settles orElse_rel)
open SecretScanner (flags)

namespace Keyword

section Sets

variable {c : Char} {cs : Text}

theorem holds_span_iff {n : Nat} : (Member.span n n).holds flags c ↔ n ∈ Text.alike c := by
  have hholds : (Member.span n n).holds flags c = (Text.alike c).any fun m => n ≤ m && m ≤ n := rfl
  rw [hholds, List.any_eq_true]
  constructor
  · rintro ⟨m, hm, hle⟩
    rw [Bool.and_eq_true, decide_eq_true_eq, decide_eq_true_eq] at hle
    rwa [Nat.le_antisymm hle.1 hle.2]
  · exact fun hn => ⟨n, hn, by simp⟩

theorem holds_span {q : Char} (hq : Text.IsSign q.toNat) :
    (Member.span q.toNat q.toNat).holds flags c = (c == q) := by
  rw [Bool.eq_iff_iff, holds_span_iff, Text.mem_alike_iff hq, beq_iff_eq, Char.toNat_inj]

theorem any_span (h : cs.all (Text.IsSign ·.toNat)) :
    (cs.map fun q => Member.span q.toNat q.toNat).any (·.holds flags c) = cs.contains c := by
  induction cs with
  | nil => rfl
  | cons q cs ih =>
      rw [List.all_cons, Bool.and_eq_true, decide_eq_true_eq] at h
      rw [List.map_cons, List.any_cons, holds_span h.1, ih h.2, List.contains_cons]

def oneOf (cs : Text) : CharSet := ⟨false, cs.map fun q => .span q.toNat q.toNat⟩

theorem holds_oneOf (h : cs.all (Text.IsSign ·.toNat)) :
    (oneOf cs).holds flags c = cs.contains c := by
  rw [CharSet.holds, oneOf, any_span h, Bool.bne_false]

theorem holds_allBut (h : cs.all (Text.IsSign ·.toNat)) :
    (allBut [] cs).holds flags c = !cs.contains c := by
  rw [CharSet.holds, allBut, List.nil_append, any_span h, Bool.bne_true]

theorem holds_blank : (CharSet.mk false [.category false .space]).holds flags = Text.isBlank := by
  funext c
  have hblank : Pattern.Category.holds false c .space = Text.isBlank c := rfl
  simp [CharSet.holds, Member.holds, flags, hblank]

theorem holds_bare :
    (allBut [.category false .space] "\"'\x60,;".toList).holds flags = SecretValue.isBareChar := by
  funext c
  have hsigns : "\"'\x60,;".toList.all (Text.IsSign ·.toNat) := by decide
  have hblank : (Member.category false .space).holds flags c = Text.isBlank c := by
    simpa [CharSet.holds] using congrFun holds_blank c
  rw [CharSet.holds, allBut, List.any_append, any_span hsigns, List.any_cons, List.any_nil,
    Bool.or_false, hblank, Bool.bne_true]
  simp [SecretValue.isBareChar, SecretValue.isQuote, Bool.or_assoc, Bool.beq_eq_decide_eq]

end Sets

section Values

variable {n i : Nat} {s : Place}

def Captured (i : Nat) (s t : Place) (x : Text × Text) : Prop :=
  t.after = x.2 ∧ t.groups = (i, x.1) :: s.groups

def quotedText? (q : Char) : Text → Option (Text × Text)
  | [] => none
  | c :: rest => if c = q then Segment.upTo? q rest else none

def bareText? : Text → Option (Text × Text)
  | [] => none
  | c :: rest =>
    if SecretValue.isQuote c then SecretValue.bare? rest else SecretValue.bare? (c :: rest)

theorem run_single_cons {q : Char} (hq : Text.IsSign q.toNat) {α : Type} {c : Char} {rest : Text}
    (h : s.after = c :: rest) (k : Place → Option α) :
    (Expr.char (.single q.toNat)).run flags s k = if c = q then k (s.step c rest) else none := by
  have hset : CharSet.single q.toNat = oneOf [q] := rfl
  rw [Expr.run_char_cons h, hset, holds_oneOf (by simpa using hq)]
  simp

theorem settles_single {q : Char} (hq : Text.IsSign q.toNat) (i : Nat) (t : Place) :
    Settles ((allBut [] [q]).holds flags) fun u =>
      (Expr.char (.single q.toNat)).run flags (Place.capture i t u) some := by
  intro u hu
  cases ha : u.after with
  | nil =>
      rw [ha] at hu
      cases hu
  | cons c rest =>
      have hc : (allBut [] [q]).holds flags c = true := by simpa [ha] using hu
      have hne : c ≠ q := by
        rw [holds_allBut (by simpa using hq)] at hc
        simpa using hc
      exact .inl ((run_single_cons hq (s := Place.capture i t u) ha some).trans (if_neg hne))

theorem run_quotedValue {q : Char} (hq : Text.IsSign q.toNat) (i : Nat) (s : Place) :
    Option.Rel (Captured i s) ((quotedValue q i).run flags s some) (quotedText? q s.after) := by
  have hrun : (quotedValue q i).run flags s some = (Expr.char (.single q.toNat)).run flags s fun t =>
      (Expr.repeated (.char (allBut [] [q])) 0 none .greedy).run flags t fun u =>
        (Expr.char (.single q.toNat)).run flags (Place.capture i t u) some := rfl
  have htest : (allBut [] [q]).holds flags = fun c => decide (c ≠ q) := by
    funext c
    rw [holds_allBut (by simpa using hq)]
    simp
  rw [hrun]
  cases ha : s.after with
  | nil =>
      rw [Expr.run_char_nil ha]
      exact .none
  | cons c rest =>
      rw [run_single_cons hq ha, quotedText?]
      by_cases hc : c = q
      · rw [if_pos hc, if_pos hc, Pattern.run_star (settles_single hq i _), Segment.upTo?]
        have hafter : (Place.capture i (s.step c rest)
            ((s.step c rest).skip ((allBut [] [q]).holds flags))).after = rest.dropWhile (· ≠ q) := by
          rw [htest]
          rfl
        have hgroups : (Place.capture i (s.step c rest)
            ((s.step c rest).skip ((allBut [] [q]).holds flags))).groups =
              (i, rest.takeWhile (· ≠ q)) :: s.groups := by
          rw [Place.capture, Place.between_skip, htest]
          rfl
        cases hd : rest.dropWhile (· ≠ q) with
        | nil =>
            rw [Expr.run_char_nil (hafter.trans hd)]
            exact .none
        | cons d behind =>
            have hdq : d = q := by simpa using Text.not_of_dropWhile_eq_cons hd
            rw [run_single_cons hq (hafter.trans hd), if_pos hdq]
            exact .some ⟨rfl, hgroups⟩
      · rw [if_neg hc, if_neg hc]
        exact .none

def bareGroup (i : Nat) (t : Place) : Option Place :=
  (Expr.group i (.repeated (.char (allBut [.category false .space] "\"'\x60,;".toList)) 1 none
    .greedy)).run flags t some

theorem bareGroup_eq (i : Nat) (t : Place) : bareGroup i t =
    if t.after.head?.any SecretValue.isBareChar then
      some (Place.capture i t (t.skip SecretValue.isBareChar)) else none := by
  have hsettles : Settles ((allBut [.category false .space] "\"'\x60,;".toList).holds flags)
      fun u => some (Place.capture i t u) := fun _ _ => .inr rfl
  have hrun := Pattern.run_plus hsettles t
  rw [holds_bare] at hrun
  exact hrun

theorem bareGroup_rel (i : Nat) (t : Place) :
    Option.Rel (Captured i t) (bareGroup i t) (SecretValue.bare? t.after) := by
  rw [bareGroup_eq, SecretValue.bare?]
  split
  · refine .some ⟨rfl, ?_⟩
    rw [Place.capture, Place.between_skip]
    rfl
  · exact .none

theorem bareGroup_of_isQuote {t : Place} (i : Nat) (h : t.after.head?.any SecretValue.isQuote) :
    bareGroup i t = none := by
  rw [bareGroup_eq, if_neg]
  cases ha : t.after with
  | nil => simp
  | cons c rest =>
      rw [ha] at h
      have hc : SecretValue.isQuote c = true := by simpa using h
      simp [SecretValue.isBareChar, hc]

theorem holds_anyQuote : (CharSet.mk false [.span 34 34, .span 39 39, .span 96 96]).holds flags =
    SecretValue.isQuote := by
  funext c
  have hsigns : "\"'\x60".toList.all (Text.IsSign ·.toNat) := by decide
  have hset : CharSet.mk false [.span 34 34, .span 39 39, .span 96 96] = oneOf "\"'\x60".toList := rfl
  rw [hset, holds_oneOf hsigns]
  simp [SecretValue.isQuote, Bool.or_assoc, Bool.beq_eq_decide_eq]

theorem run_bareValue (i : Nat) (s : Place) :
    Option.Rel (Captured i s) ((bareValue i).run flags s some) (bareText? s.after) := by
  -- where the quote could be left out, the bare characters cannot begin
  have hstuck : ∀ t : Place, t.after.head?.any
      ((CharSet.mk false [.span 34 34, .span 39 39, .span 96 96]).holds flags) →
        bareGroup i t = none := by
    rw [holds_anyQuote]
    exact fun t ht => bareGroup_of_isQuote i ht
  have hrun : (bareValue i).run flags s some = bareGroup i (s.skipOne SecretValue.isQuote) := by
    rw [← holds_anyQuote]
    exact Pattern.run_optional hstuck s
  rw [hrun, Place.skipOne]
  cases ha : s.after with
  | nil =>
      have hrel := bareGroup_rel i s
      rw [ha] at hrel
      exact hrel
  | cons c rest =>
      rw [bareText?]
      by_cases hc : SecretValue.isQuote c
      · rw [if_pos hc]
        simp only [hc, if_true]
        exact bareGroup_rel i (s.step c rest)
      · have hrel := bareGroup_rel i s
        rw [ha] at hrel
        rw [if_neg hc]
        simpa [hc] using hrel

/-- One of the four groups for a value, behind `n` others, holds the value that was read. -/
def Holds (n : Nat) (s t : Place) (x : Text × Text) : Prop :=
  ∃ i, n < i ∧ i ≤ n + 4 ∧ Captured i s t x

theorem read?_eq (t : Text) : SecretValue.read? t = (quotedText? '"' t <|> (quotedText? '\'' t <|>
    (quotedText? '\x60' t <|> bareText? t))) := by
  cases t with
  | nil => rfl
  | cons c rest =>
      rw [quotedText?, quotedText?, quotedText?, bareText?]
      by_cases hc : SecretValue.isQuote c
      · have hquotes : c = '"' ∨ c = '\'' ∨ c = '\x60' := by
          simpa [SecretValue.isQuote, or_assoc] using hc
        have hread : SecretValue.read? (c :: rest) =
            (Segment.upTo? c rest <|> SecretValue.bare? rest) := by
          rw [SecretValue.read?, if_pos hc, Segment.upTo?]
          cases rest.dropWhile (· ≠ c) <;> rfl
        rw [hread, if_pos hc]
        rcases hquotes with rfl | rfl | rfl <;> rfl
      · have hne : ∀ q, SecretValue.isQuote q → c ≠ q := by
          rintro q hq rfl
          exact hc hq
        rw [SecretValue.read?, if_neg hc, if_neg hc, if_neg (hne '"' rfl), if_neg (hne '\'' rfl),
          if_neg (hne '\x60' rfl)]
        rfl

theorem run_valueExpr (n : Nat) (s : Place) :
    Option.Rel (Holds n s) ((valueExpr n).run flags s some) (SecretValue.read? s.after) := by
  have hmono {i : Nat} (hlo : n < i) (hhi : i ≤ n + 4) {x : Option Place} {y : Option (Text × Text)}
      (h : Option.Rel (Captured i s) x y) : Option.Rel (Holds n s) x y := by
    cases h with
    | some h => exact .some ⟨i, hlo, hhi, h⟩
    | none => exact .none
  rw [read?_eq]
  exact orElse_rel (hmono (by omega) (by omega) (run_quotedValue (by decide) (n + 1) s))
    (orElse_rel (hmono (by omega) (by omega) (run_quotedValue (by decide) (n + 2) s))
      (orElse_rel (hmono (by omega) (by omega) (run_quotedValue (by decide) (n + 3) s))
        (hmono (by omega) (by omega) (run_bareValue (n + 4) s))))

end Values

section Behind

variable {n : Nat} {s : Place}

theorem read?_of_isBlank {x : Text} (h : x.head?.any Text.isBlank) : SecretValue.read? x = none := by
  cases x with
  | nil => rfl
  | cons c rest =>
      have hc : Text.isBlank c = true := by simpa using h
      have hquote : SecretValue.isQuote c = false := by
        rw [Bool.eq_false_iff]
        intro hq
        simp only [SecretValue.isQuote, Bool.or_eq_true, beq_iff_eq] at hq
        rcases hq with (rfl | rfl) | rfl <;> cases hc
      rw [SecretValue.read?, hquote, if_neg Bool.false_ne_true, SecretValue.bare?, if_neg]
      simp [SecretValue.isBareChar, hc]

theorem holds_congr {s' : Place} (h : s'.groups = s.groups) : Holds n s' = Holds n s := by
  funext t x
  simp only [Holds, Captured, h]

theorem run_valueExpr_of_isBlank (h : s.after.head?.any Text.isBlank) :
    (valueExpr n).run flags s some = none := by
  have hrel := run_valueExpr n s
  rw [read?_of_isBlank h] at hrel
  cases hx : (valueExpr n).run flags s some with
  | none => rfl
  | some t =>
      rw [hx] at hrel
      cases hrel

theorem run_blanks {k : Place → Option Place} (h : ∀ t, t.after.head?.any Text.isBlank → k t = none)
    (s : Place) : blanks.run flags s k = k (s.skip Text.isBlank) := by
  rw [← holds_blank] at h ⊢
  exact Pattern.run_star (fun t ht => .inl (h t ht)) s

def isSeparator (c : Char) : Bool := c == ':' || c == '='

def isMark (c : Char) : Bool := c == '"' || c == '\''

theorem holds_separator : (CharSet.mk false [.span 58 58, .span 61 61]).holds flags = isSeparator := by
  funext c
  have hset : CharSet.mk false [.span 58 58, .span 61 61] = oneOf ":=".toList := rfl
  rw [hset, holds_oneOf (by decide)]
  simp [isSeparator, Bool.beq_eq_decide_eq]

theorem holds_mark : (CharSet.mk false [.span 34 34, .span 39 39]).holds flags = isMark := by
  funext c
  have hset : CharSet.mk false [.span 34 34, .span 39 39] = oneOf "\"'".toList := rfl
  rw [hset, holds_oneOf (by decide)]
  simp [isMark, Bool.beq_eq_decide_eq]

def atSeparator (n : Nat) (s : Place) : Option Place :=
  (Expr.char ⟨false, [.span 58 58, .span 61 61]⟩).run flags s fun t =>
    blanks.run flags t fun u => (valueExpr n).run flags u some

theorem atSeparator_cons {c : Char} {rest : Text} (h : s.after = c :: rest) : atSeparator n s =
    if isSeparator c then (valueExpr n).run flags ((s.step c rest).skip Text.isBlank) some
      else none := by
  have hblanks := run_blanks (fun t ht => run_valueExpr_of_isBlank (n := n) ht) (s.step c rest)
  rw [atSeparator, Expr.run_char_cons h, congrFun holds_separator c, hblanks]

theorem atSeparator_of_not (h : ∀ c, s.after.head? = some c → isSeparator c = false) :
    atSeparator n s = none := by
  cases ha : s.after with
  | nil => exact Expr.run_char_nil ha _
  | cons c rest =>
      rw [ha] at h
      rw [atSeparator_cons ha, h c rfl]
      rfl

theorem isSeparator_of_isBlank {c : Char} (h : Text.isBlank c) : isSeparator c = false := by
  rw [Bool.eq_false_iff]
  intro hc
  simp only [isSeparator, Bool.or_eq_true, beq_iff_eq] at hc
  rcases hc with rfl | rfl <;> cases h

theorem run_blanks_atSeparator (n : Nat) (s : Place) :
    blanks.run flags s (atSeparator n) = atSeparator n (s.skip Text.isBlank) := by
  refine run_blanks (fun t ht => atSeparator_of_not fun c hc => isSeparator_of_isBlank ?_) s
  simpa [hc] using ht

theorem run_behindExpr_eq (n : Nat) (s : Place) : (behindExpr n).run flags s some =
    atSeparator n ((s.skipOne isMark).skip Text.isBlank) := by
  have hrun : (behindExpr n).run flags s some =
      (Expr.repeated (.char ⟨false, [.span 34 34, .span 39 39]⟩) 0 (some 1) .greedy).run flags s
        fun t => blanks.run flags t (atSeparator n) := rfl
  -- a mark that is left out is neither a blank nor a separator
  have hstuck : ∀ t : Place, t.after.head?.any
      ((CharSet.mk false [.span 34 34, .span 39 39]).holds flags) →
        blanks.run flags t (atSeparator n) = none := by
    intro t ht
    rw [holds_mark] at ht
    rw [run_blanks_atSeparator]
    cases ha : t.after with
    | nil =>
        rw [ha] at ht
        cases ht
    | cons c rest =>
        have hc : c = '"' ∨ c = '\'' := by simpa [ha, isMark] using ht
        have hskip : t.skip Text.isBlank = t := by
          refine Place.skip_of_not ?_
          rw [ha]
          rcases hc with rfl | rfl <;> exact Bool.false_ne_true
        rw [hskip]
        refine atSeparator_of_not fun d hd => ?_
        rw [ha] at hd
        obtain rfl := Option.some.inj hd
        rcases hc with rfl | rfl <;> rfl
  rw [hrun, Pattern.run_optional hstuck, holds_mark, run_blanks_atSeparator]

theorem after_skipOne_isMark (s : Place) :
    (s.skipOne isMark).after = SecretValue.skipQuote s.after := by
  rw [Place.skipOne]
  cases ha : s.after with
  | nil => exact ha
  | cons c rest =>
      have hquote : SecretValue.skipQuote (c :: rest) = if isMark c then rest else c :: rest := rfl
      rw [hquote]
      by_cases hc : isMark c
      · simp only [hc, if_true]
        rfl
      · simp only [hc]
        exact ha

/-- What the expression behind a keyword matches is the value read there, which a group of its own
holds; and where no value can be read, it does not match. -/
theorem run_behindExpr (n : Nat) (s : Place) :
    Option.Rel (Holds n s) ((behindExpr n).run flags s some) (SecretValue.behindKeyword? s.after) := by
  have hafter : ((s.skipOne isMark).skip Text.isBlank).after =
      Text.trimLeft (SecretValue.skipQuote s.after) := by
    rw [← after_skipOne_isMark]
    rfl
  rw [run_behindExpr_eq, SecretValue.behindKeyword?, SecretValue.behindSeparator?, ← hafter]
  cases ha : ((s.skipOne isMark).skip Text.isBlank).after with
  | nil =>
      rw [atSeparator_of_not (by simp [ha])]
      exact .none
  | cons c rest =>
      rw [atSeparator_cons ha]
      by_cases hc : isSeparator c
      · have hsep : (c == ':' || c == '=') = true := hc
        rw [if_pos hc]
        simp only [hsep, if_true, Option.bind_some]
        have hgroups : ((((s.skipOne isMark).skip Text.isBlank).step c rest).skip Text.isBlank).groups =
            s.groups := Place.groups_skipOne isMark s
        rw [← holds_congr hgroups]
        exact run_valueExpr n _
      · have hsep : (c == ':' || c == '=') = false := Bool.eq_false_iff.mpr hc
        rw [if_neg hc]
        simp only [hsep]
        exact .none

end Behind

end Keyword

end Onboarding
