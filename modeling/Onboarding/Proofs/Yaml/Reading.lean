import Onboarding.Yaml.Token

namespace Onboarding.Yaml

section Ends

variable {α β : Type} {P : Fault → Prop} {Q : α → Prop} {R : β → Prop}

/-- Reading ends in a fault as `P` says, or with a value as `Q` says. -/
def Ends (P : Fault → Prop) (Q : α → Prop) : Except Fault α → Prop
  | .error f => P f
  | .ok a => Q a

theorem Ends.imp {Q' : α → Prop} {x : Except Fault α} (h : Ends P Q x) (hq : ∀ a, Q a → Q' a) :
    Ends P Q' x := by
  cases x with
  | error f => exact h
  | ok a => exact hq a h

theorem Ends.bind {x : Except Fault α} {k : α → Except Fault β} (hx : Ends P Q x)
    (hk : ∀ a, Q a → Ends P R (k a)) : Ends P R (x >>= k) := by
  cases x with
  | error f => exact hx
  | ok a => exact hk a hx

theorem Ends.ite {c : Prop} [Decidable c] {x y : Except Fault α} (hx : c → Ends P Q x)
    (hy : ¬c → Ends P Q y) : Ends P Q (if c then x else y) := by
  split
  · next h => exact hx h
  · next h => exact hy h

theorem Ends.eq {x : Except Fault α} (h : ∀ f, x = .error f → P f) : Ends P (x = .ok ·) x := by
  cases x with
  | error f => exact h f rfl
  | ok a => rfl

end Ends

namespace Cursor

variable {s : Cursor} {t : Text}

/-- What is left to read is an end of the text. -/
def Within (t : Text) (s : Cursor) : Prop := s.rest <:+ t

theorem rest_next (s : Cursor) : s.next.rest = s.rest.tail := by
  unfold next
  split
  · next h => rw [h]; rfl
  · next h =>
      rw [h]
      split <;> rfl

theorem rest_eq_of_peek {c : Char} (h : s.peek 0 = some c) : s.rest = c :: s.next.rest := by
  rw [rest_next]
  unfold peek at h
  cases hrest : s.rest with
  | nil =>
      rw [hrest] at h
      cases h
  | cons d rest =>
      rw [hrest] at h
      cases h
      rfl

theorem rest_skip (s : Cursor) (n : Nat) : (s.skip n).rest = s.rest.drop n := by
  induction n generalizing s with
  | zero => rfl
  | succ n ih => rw [skip, ih, rest_next, List.drop_tail]

theorem span_append_rest (s : Cursor) (test : Char → Bool) :
    (s.span test).1 ++ (s.span test).2.rest = s.rest := by
  have hrest := rest_skip s (s.rest.takeWhile test).length
  exact (congrArg _ hrest).trans (List.prefix_iff_eq_append.mp (List.takeWhile_prefix test))

theorem of_mem_span {test : Char → Bool} {c : Char} (h : c ∈ (s.span test).1) : test c :=
  List.all_eq_true.mp List.all_takeWhile c h

theorem Within.next (h : s.Within t) : s.next.Within t := by
  rw [Within, rest_next]
  exact (List.tail_suffix _).trans h

theorem Within.skip (h : s.Within t) (n : Nat) : (s.skip n).Within t := by
  induction n generalizing s with
  | zero => exact h
  | succ n ih => exact ih h.next

theorem Within.span (h : s.Within t) (test : Char → Bool) : (s.span test).2.Within t := h.skip _

theorem Within.skipSpaces (h : s.Within t) : s.skipSpaces.Within t := h.span _

theorem Within.toLineEnd (h : s.Within t) : s.toLineEnd.Within t := h.span _

theorem Within.skipComment (h : s.Within t) : s.skipComment.Within t := by
  unfold Cursor.skipComment
  split
  · exact h.toLineEnd
  · exact h

theorem Within.lineBreak (h : s.Within t) : s.lineBreak.2.Within t := by
  unfold Cursor.lineBreak
  split
  · exact h.skip 2
  · split
    · exact h
    · split
      · exact h.next
      · exact h.next
  · exact h

end Cursor

/-- An escape in eight digits stands for a number that is beyond the code points. -/
def HasWideEscape (t : Text) (code : Nat) : Prop :=
  ∃ before digits after, t = before ++ '\\' :: 'U' :: (digits ++ after) ∧ digits.length = 8 ∧
    (∀ d ∈ digits, QuotedScalar.isHexDigit d) ∧ Text.natIn? 16 digits = some code ∧ 0x110000 ≤ code

def IsVersionGap (gap : Text) : Prop := ∀ c ∈ gap, c = ' ' ∨ c = '.' ∨ Text.isAsciiDigit c

theorem isVersionGap_spaces (s : Cursor) : IsVersionGap (s.span (· == ' ')).1 := by
  intro c hc
  have hspace := Cursor.of_mem_span hc
  exact .inl (beq_iff_eq.mp hspace)

/-- Behind the first number of a version and its point there may be another one. -/
theorem IsVersionGap.number {gap : Text} (h : IsVersionGap gap) (s : Cursor) :
    IsVersionGap (gap ++ ((s.span Text.isAsciiDigit).1 ++ ['.'])) := by
  intro c hc
  rw [List.mem_append, List.mem_append, List.mem_singleton] at hc
  obtain hc | hc | rfl := hc
  · exact h c hc
  · exact .inr (.inr (Cursor.of_mem_span hc))
  · exact .inr (.inl rfl)

/-- A number in the version of a directive has more digits than a decimal number can have. -/
def HasLongVersion (t : Text) : Prop :=
  ∃ before gap digits after, t = before ++ ("%YAML".toList ++ (gap ++ (digits ++ after))) ∧
    IsVersionGap gap ∧ (∀ d ∈ digits, Text.isAsciiDigit d) ∧ Text.longestDecimal < digits.length

/-- What may be wrong with the letters of a text. -/
inductive FaultOf (t : Text) : Fault → Prop
  | malformed : FaultOf t .malformed
  | uncovered : FaultOf t .uncovered
  | escape {code : Nat} (h : HasWideEscape t code) : FaultOf t (QuotedScalar.wideFault code)
  | version (h : HasLongVersion t) : FaultOf t .noSuchScalar

def Reads {α : Type} (t : Text) (x : Except Fault (α × Cursor)) : Prop :=
  Ends (FaultOf t) (fun r => r.2.Within t) x

variable {α : Type} {t : Text} {s : Cursor}

theorem Reads.ok (a : α) (h : s.Within t) : Reads t (.ok (a, s)) := h

theorem Reads.malformed (t : Text) : Reads t (.error .malformed : Except Fault (α × Cursor)) :=
  FaultOf.malformed

theorem Reads.bind {β : Type} {x : Except Fault (α × Cursor)}
    {k : α × Cursor → Except Fault (β × Cursor)} (hx : Reads t x)
    (hk : ∀ a s, s.Within t → Reads t (k (a, s))) : Reads t (x >>= k) :=
  Ends.bind hx fun r hr => hk r.1 r.2 hr

theorem Reads.ite {c : Prop} [Decidable c] {x y : Except Fault (α × Cursor)} (hx : c → Reads t x)
    (hy : ¬c → Reads t y) : Reads t (if c then x else y) :=
  Ends.ite hx hy

theorem Cursor.Within.endLine (h : s.Within t) :
    Ends (FaultOf t) (Cursor.Within t) s.endLine := by
  unfold Cursor.endLine
  refine Ends.ite (fun _ => ?_) fun _ => FaultOf.malformed
  exact h.skipSpaces.skipComment.lineBreak

end Onboarding.Yaml
