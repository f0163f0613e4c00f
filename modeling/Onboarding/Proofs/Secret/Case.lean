import Mathlib.Data.List.Basic
import Onboarding.Proofs.Pattern.Case
import Onboarding.Secret.Scanner

namespace Onboarding

open Text (asciiLower asciiLowerChar IgnoresCase)

namespace Line

def asciiLower (l : Line) : Line := ⟨l.number, Text.asciiLower l.text⟩

theorem numberFrom_map_asciiLower (n : Nat) (ts : List Text) :
    numberFrom n (ts.map Text.asciiLower) = (numberFrom n ts).map asciiLower := by
  induction ts generalizing n with
  | nil => rfl
  | cons t ts ih =>
      rw [List.map_cons, numberFrom, ih, numberFrom, List.map_cons]
      rfl

theorem index_asciiLower (content : Text) :
    index (Text.asciiLower content) = (index content).map asciiLower := by
  have hreturn : Text.dropEnd '\r' ∘ Text.asciiLower = Text.asciiLower ∘ Text.dropEnd '\r' :=
    funext (Text.dropEnd_asciiLower (by decide))
  rw [index, Text.splitOn_asciiLower (by decide), List.map_map, hreturn, ← List.map_map,
    numberFrom_map_asciiLower, index]

end Line

namespace SecretValue

def lowered (x : Text × Text) : Text × Text := (asciiLower x.1, asciiLower x.2)

theorem ignoresCase_isBareChar : IgnoresCase isBareChar := by decide +kernel

theorem asciiLowerChar_of_isQuote {q : Char} (h : isQuote q) : asciiLowerChar q = q := by
  simp only [isQuote, Bool.or_eq_true, beq_iff_eq] at h
  rcases h with (rfl | rfl) | rfl <;> rfl

theorem ignoresCase_ne_of_isQuote {q : Char} (h : isQuote q) :
    IgnoresCase fun c => decide (c ≠ q) := by
  simp only [isQuote, Bool.or_eq_true, beq_iff_eq] at h
  rcases h with (rfl | rfl) | rfl <;> decide

theorem skipQuote_asciiLower (t : Text) : skipQuote (asciiLower t) = asciiLower (skipQuote t) := by
  have hquote : IgnoresCase fun c => c == '"' || c == '\'' := by decide
  cases t with
  | nil => rfl
  | cons c t =>
      simp only [Text.asciiLower_cons, skipQuote, hquote.apply]
      split <;> rfl

theorem behindSeparator?_asciiLower (t : Text) :
    behindSeparator? (asciiLower t) = (behindSeparator? t).map asciiLower := by
  have hseparator : IgnoresCase fun c => c == ':' || c == '=' := by decide
  rw [behindSeparator?, behindSeparator?, skipQuote_asciiLower, Text.trimLeft_asciiLower]
  cases Text.trimLeft (skipQuote t) with
  | nil => rfl
  | cons c rest =>
      simp only [Text.asciiLower_cons, hseparator.apply, Text.trimLeft_asciiLower]
      split <;> rfl

theorem bare?_asciiLower (t : Text) : bare? (asciiLower t) = (bare? t).map lowered := by
  rw [bare?, bare?, ignoresCase_isBareChar.any_head?, ignoresCase_isBareChar.takeWhile,
    ignoresCase_isBareChar.dropWhile]
  split <;> rfl

theorem read?_asciiLower (t : Text) : read? (asciiLower t) = (read? t).map lowered := by
  have hquote : IgnoresCase isQuote := by decide
  cases t with
  | nil => rfl
  | cons q rest =>
      rw [Text.asciiLower_cons, read?, read?, hquote.apply]
      split
      · next hq =>
          have hne := ignoresCase_ne_of_isQuote hq
          rw [asciiLowerChar_of_isQuote hq, hne.dropWhile, hne.takeWhile]
          cases rest.dropWhile fun c => decide (c ≠ q) with
          | nil => exact bare?_asciiLower rest
          | cons c behind => rfl
      · exact bare?_asciiLower (q :: rest)

theorem behindKeyword?_asciiLower (t : Text) :
    behindKeyword? (asciiLower t) = (behindKeyword? t).map lowered := by
  rw [behindKeyword?, behindKeyword?, behindSeparator?_asciiLower, Option.bind_map, Option.map_bind]
  exact congrArg _ (funext read?_asciiLower)

end SecretValue

namespace Placeholder

def skipBrace (t : Text) : Text := if t.head? == some '\x7b' then t.tail else t

def isName (t : Text) : Bool :=
  t.head?.any isNameStart && ((t.dropWhile isNameChar).isEmpty || t.dropWhile isNameChar == ['\x7d'])

theorem head?_beq_eq_false {q : Char} {t : Text} (h : ∀ rest, t = q :: rest → False) :
    (t.head? == some q) = false := by
  rw [beq_eq_false_iff_ne]
  intro hq
  obtain ⟨rest, ht⟩ := List.head?_eq_some_iff.mp hq
  exact h rest ht

theorem isVariable_braced (name : Text) : isVariable ('$' :: '\x7b' :: name) = isName name := by
  simp only [isVariable, isName]
  refine congrArg (_ && ·) ?_
  split
  · next hnil => rw [hnil]; rfl
  · next hclosing => rw [hclosing]; rfl
  · next hnil hclosing =>
      rw [List.isEmpty_eq_false_iff.mpr hnil, beq_eq_false_iff_ne.mpr hclosing, Bool.or_false]

theorem isVariable_unbraced {name : Text} (h : ∀ rest, name = '\x7b' :: rest → False) :
    isVariable ('$' :: name) = isVariable ('$' :: '\x7b' :: name) := by
  simp only [isVariable]

theorem isVariable_eq (t : Text) :
    isVariable t = (t.head? == some '$' && isName (skipBrace t.tail)) := by
  by_cases ht : ∃ rest, t = '$' :: rest
  · obtain ⟨rest, rfl⟩ := ht
    rw [List.head?_cons, beq_self_eq_true, Bool.true_and, List.tail_cons, ← isVariable_braced]
    by_cases hrest : ∃ name, rest = '\x7b' :: name
    · obtain ⟨name, rfl⟩ := hrest
      rfl
    · rw [not_exists] at hrest
      rw [skipBrace, head?_beq_eq_false hrest, if_neg Bool.false_ne_true]
      exact isVariable_unbraced hrest
  · rw [not_exists] at ht
    rw [head?_beq_eq_false ht, Bool.false_and, isVariable.eq_def]
    split
    · next rest => exact (ht rest rfl).elim
    · rfl

theorem isBracketed_eq (t : Text) :
    isBracketed t = (t.head? == some '<' && t.tail.dropWhile (· ≠ '>') == ['>']) := by
  unfold isBracketed
  split
  · rfl
  · next h => rw [head?_beq_eq_false h, Bool.false_and]

theorem isMask_asciiLower (t : Text) : isMask (asciiLower t) = isMask t := by
  have hmask : IgnoresCase isMaskChar := by decide
  rw [isMask, isMask, Text.isEmpty_asciiLower, hmask.all]

theorem skipBrace_asciiLower (t : Text) : skipBrace (asciiLower t) = asciiLower (skipBrace t) := by
  rw [skipBrace, skipBrace, Text.head?_asciiLower_beq (by decide), Text.tail_asciiLower]
  split <;> rfl

theorem isName_asciiLower (t : Text) : isName (asciiLower t) = isName t := by
  have hstart : IgnoresCase isNameStart := by decide
  have hname : IgnoresCase isNameChar := by decide
  rw [isName, isName, hstart.any_head?, hname.dropWhile, Text.isEmpty_asciiLower,
    Text.asciiLower_beq_singleton (by decide)]

theorem isVariable_asciiLower (t : Text) : isVariable (asciiLower t) = isVariable t := by
  rw [isVariable_eq, isVariable_eq, Text.head?_asciiLower_beq (by decide), Text.tail_asciiLower,
    skipBrace_asciiLower, isName_asciiLower]

theorem isBracketed_asciiLower (t : Text) : isBracketed (asciiLower t) = isBracketed t := by
  have hclosing : IgnoresCase fun c => decide (c ≠ '>') := by decide
  rw [isBracketed_eq, isBracketed_eq, Text.head?_asciiLower_beq (by decide), Text.tail_asciiLower,
    hclosing.dropWhile, Text.asciiLower_beq_singleton (by decide)]

theorem hasShape_asciiLower (t : Text) : hasShape (asciiLower t) = hasShape t := by
  rw [hasShape, hasShape, line, line, Text.dropEnd_asciiLower (by decide), isMask_asciiLower,
    isVariable_asciiLower, isBracketed_asciiLower]

theorem isPlaceholder_asciiLower (listed : List Text) (t : Text) :
    isPlaceholder listed (asciiLower t) = isPlaceholder listed t := by
  rw [isPlaceholder, isPlaceholder, Text.lower_asciiLower, hasShape_asciiLower]

end Placeholder

namespace SecretScanner

open Pattern (Place)

variable {p : Pattern.Expr} {s : SecretScanner}

theorem valueAt?_asciiLower (hp : p.ignoresCase) (t : Place) :
    valueAt? p t.asciiLower = (valueAt? p t).map fun x => (asciiLower x.1, x.2.asciiLower) := by
  rw [valueAt?, valueAt?, Pattern.Expr.ignoresCase_run hp rfl, Pattern.Expr.map_run]
  refine congrArg _ (funext fun u => ?_)
  rw [Place.asciiLower, SecretValue.behindKeyword?_asciiLower, Option.map_map, Option.map_map]
  exact congrArg (Option.map · _) (funext fun x => congrArg _ (Place.moveTo_asciiLower x.2 u))

theorem valuesFrom_asciiLower (hp : p.ignoresCase) (fuel : Nat) (t : Place) :
    valuesFrom p fuel t.asciiLower = (valuesFrom p fuel t).map asciiLower := by
  induction fuel generalizing t with
  | zero => rfl
  | succ fuel ih =>
      rw [valuesFrom, valuesFrom, valueAt?_asciiLower hp, Place.forward?_asciiLower]
      cases valueAt? p t with
      | some x => simp only [Option.map_some, ih, List.map_cons]
      | none =>
          cases t.forward? with
          | none => rfl
          | some x => exact ih x.2

theorem values_asciiLower {r : SecretRule} (hr : r.keyword.pattern.expr.ignoresCase) (t : Text) :
    values r (asciiLower t) = (values r t).map asciiLower := by
  rw [values, values, Text.length_asciiLower, Place.asciiLower_start, valuesFrom_asciiLower hr]

theorem isReported_asciiLower (placeholders : List Text) (r : SecretRule) (value : Text) :
    isReported placeholders r (asciiLower value) = isReported placeholders r value := by
  rw [isReported, isReported, Text.length_asciiLower, Placeholder.isPlaceholder_asciiLower]

theorem matchesOf_asciiLower (placeholders : List Text) {r : SecretRule}
    (hr : r.keyword.pattern.expr.ignoresCase) (l : Line) :
    matchesOf placeholders l.asciiLower r = matchesOf placeholders l r := by
  have hreported : isReported placeholders r ∘ asciiLower = isReported placeholders r :=
    funext (isReported_asciiLower placeholders r)
  rw [matchesOf, Line.asciiLower, values_asciiLower hr, List.filter_map, hreported, List.map_map]
  rfl

theorem scan_asciiLower (hs : ∀ r ∈ s.rules, r.keyword.pattern.expr.ignoresCase) (ls : List Line) :
    s.scan (ls.map Line.asciiLower) = s.scan ls := by
  rw [scan, scan, List.flatMap_map]
  refine List.flatMap_congr fun l _ => List.flatMap_congr fun r hr => ?_
  exact matchesOf_asciiLower s.placeholders (hs r hr) l

theorem scan_index_asciiLower (hs : ∀ r ∈ s.rules, r.keyword.pattern.expr.ignoresCase)
    (content : Text) : s.scan (Line.index (asciiLower content)) = s.scan (Line.index content) := by
  rw [Line.index_asciiLower, scan_asciiLower hs]

theorem ignoresCase_default :
    ∀ k ∈ Settings.default.secretRules.map (·.keyword), k.pattern.expr.ignoresCase := by
  decide +kernel

/-- With the keywords of the default settings, whatever the least lengths and the placeholders, a scan does not
depend on the case of the letters from A to Z, and neither does what is taken for a placeholder. -/
theorem scan_index_eq_of_asciiLower_eq
    (hs : ∀ r ∈ s.rules, r.keyword ∈ Settings.default.secretRules.map (·.keyword)) :
    (∀ a b, asciiLower a = asciiLower b → s.scan (Line.index a) = s.scan (Line.index b)) ∧
    ∀ v w, asciiLower v = asciiLower w → s.isPlaceholder v = s.isPlaceholder w := by
  have hkeywords := fun r hr => ignoresCase_default _ (hs r hr)
  refine ⟨fun a b h => ?_, fun v w h => ?_⟩
  · rw [← scan_index_asciiLower hkeywords a, h, scan_index_asciiLower hkeywords]
  · rw [isPlaceholder, isPlaceholder, ← Placeholder.isPlaceholder_asciiLower _ v, h,
      Placeholder.isPlaceholder_asciiLower]

theorem token_ne_nil : "token".toList ≠ [] := by decide

def brief : SecretScanner :=
  ⟨[⟨"token".toList, .token, 2, token_ne_nil, by decide⟩], ["None".toList], by decide +kernel⟩

def capitals : Text := "TOKEN=Ab".toList

def smallLetters : Text := "token=aB".toList

theorem scan_index_eq_of_asciiLower_eq_token :
    (∀ r ∈ brief.rules, r.keyword ∈ Settings.default.secretRules.map (·.keyword)) ∧
      asciiLower capitals = asciiLower smallLetters ∧
      brief.scan (Line.index capitals) = [⟨1, "token".toList⟩] ∧
      brief.scan (Line.index capitals) = brief.scan (Line.index smallLetters) ∧
      brief.isPlaceholder "NONE".toList = brief.isPlaceholder "none".toList := by
  have hs : ∀ r ∈ brief.rules, r.keyword ∈ Settings.default.secretRules.map (·.keyword) := by
    decide +kernel
  have h : asciiLower capitals = asciiLower smallLetters := by decide
  obtain ⟨hscan, hplaceholder⟩ := scan_index_eq_of_asciiLower_eq hs
  exact ⟨hs, h, by decide +kernel, hscan _ _ h, hplaceholder _ _ (by decide)⟩

end SecretScanner

end Onboarding
