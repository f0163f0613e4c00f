import Mathlib.Algebra.Group.Nat.Defs
import Onboarding.Proofs.Yaml.Reading

namespace Onboarding.Text

def HasDigits (base : Nat) (t : Text) : Prop :=
  ∀ ds, digitsIn base t = some ds → (∀ d ∈ ds, d < base) ∧ ds.length ≤ t.length

theorem HasDigits.cons {base : Nat} {u : Text} (hu : HasDigits base u) {d? : Option Nat}
    {ds : List Nat}
    (h : (do
      let d ← d?
      let ds ← digitsIn base u
      if d < base then some (d :: ds) else none) = some ds) :
    (∀ d ∈ ds, d < base) ∧ ds.length ≤ u.length + 1 := by
  obtain ⟨d, -, h⟩ := Option.bind_eq_some_iff.mp h
  obtain ⟨us, hus, h⟩ := Option.bind_eq_some_iff.mp h
  obtain ⟨hd, h⟩ := Option.ite_none_right_eq_some.mp h
  cases h
  exact ⟨List.forall_mem_cons.mpr ⟨hd, (hu us hus).1⟩, Nat.succ_le_succ (hu us hus).2⟩

theorem hasDigits (base : Nat) (t : Text) : HasDigits base t := by
  induction t using digitsIn.induct with
  | case1 => exact fun ds h => nomatch h
  | case2 c =>
      intro ds h
      obtain ⟨d, -, h⟩ := Option.bind_eq_some_iff.mp h
      obtain ⟨hd, h⟩ := Option.ite_none_right_eq_some.mp h
      cases h
      exact ⟨List.forall_mem_singleton.mpr hd, Nat.le_refl 1⟩
  | case3 c rest ih =>
      intro ds h
      rw [digitsIn] at h
      exact ⟨(ih.cons h).1, Nat.le_succ_of_le (ih.cons h).2⟩
  | case4 c rest hne hbar ih =>
      intro ds h
      rw [digitsIn.eq_4 base c rest hne hbar] at h
      exact ih.cons h

theorem foldl_lt_pow {base : Nat} {ds : List Nat} (h : ∀ d ∈ ds, d < base) (n : Nat) :
    ds.foldl (fun n d => n * base + d) n < (n + 1) * base ^ ds.length := by
  induction ds generalizing n with
  | nil => simp
  | cons d ds ih =>
      rw [List.forall_mem_cons] at h
      calc (d :: ds).foldl (fun n d => n * base + d) n
          < (n * base + d + 1) * base ^ ds.length := ih h.2 _
        _ ≤ ((n + 1) * base) * base ^ ds.length := by
            refine Nat.mul_le_mul_right _ ?_
            rw [Nat.add_mul]
            have := h.1
            omega
        _ = (n + 1) * base ^ (d :: ds).length := by
            rw [List.length_cons, Nat.pow_succ', Nat.mul_assoc]

theorem lt_pow_of_natIn? {base n : Nat} {t : Text} (hbase : 0 < base) (h : natIn? base t = some n) :
    n < base ^ t.length := by
  obtain ⟨ds, hds, rfl⟩ := Option.map_eq_some_iff.mp h
  obtain ⟨hlt, hlen⟩ := hasDigits base t ds hds
  have hfold := foldl_lt_pow hlt 0
  rw [Nat.zero_add, Nat.one_mul] at hfold
  exact Nat.lt_of_lt_of_le hfold (Nat.pow_le_pow_right hbase hlen)

end Onboarding.Text

namespace Onboarding.Yaml

variable {t : Text} {s : Cursor}

namespace QuotedScalar

/-- Behind a backslash and a letter, digits that go beyond the code points are eight. -/
theorem reads_hexEscape {c : Char} {n : Nat} (hn : escapeLength? c = some n)
    (h : ('\\' :: c :: s.rest) <:+ t) : Reads t (hexEscape n s) := by
  have hs : s.Within t := ((List.suffix_cons c s.rest).trans (List.suffix_cons _ _)).trans h
  unfold hexEscape
  refine Reads.ite (fun hd => Reads.ite (fun hwide => ?_) fun _ =>
    Reads.ite (fun _ => FaultOf.uncovered) fun _ => Reads.ok _ (hs.skip n)) fun _ => Reads.malformed t
  obtain ⟨hlen, hhex⟩ := hd
  cases hm : Text.natIn? 16 (s.rest.take n) with
  | none =>
      rw [hm] at hwide
      exact absurd hwide (by decide)
  | some code =>
      rw [hm] at hwide
      have hlt := Text.lt_pow_of_natIn? (by decide) hm
      rw [hlen] at hlt
      -- two or four digits stay below the code points, so that only the eight are left
      have hU : c = 'U' ∧ n = 8 := by
        unfold escapeLength? at hn
        split at hn <;> cases hn
        · exact absurd hlt (Nat.not_lt.mpr (Nat.le_trans (by decide) hwide))
        · exact absurd hlt (Nat.not_lt.mpr (Nat.le_trans (by decide) hwide))
        · exact ⟨rfl, rfl⟩
      obtain ⟨rfl, rfl⟩ := hU
      obtain ⟨before, hbefore⟩ := h
      refine FaultOf.escape ⟨before, s.rest.take 8, s.rest.drop 8, ?_, hlen, ?_, hm, hwide⟩
      · rw [List.take_append_drop, hbefore]
      · exact List.all_eq_true.mp hhex

theorem reads_emptyLines (fuel : Nat) (h : s.Within t) : Reads t (emptyLines fuel s) := by
  induction fuel generalizing s with
  | zero => exact Reads.malformed t
  | succ fuel ih =>
      unfold emptyLines
      refine Reads.ite (fun _ => Reads.malformed t) fun _ => Reads.ite (fun _ => ?_)
        fun _ => Reads.ok _ (h.span _)
      refine Reads.bind (ih (h.span _).lineBreak) fun more s hs => ?_
      exact Reads.ok _ hs

theorem reads_spaces (h : s.Within t) : Reads t (spaces s) := by
  unfold spaces
  dsimp only
  split
  · exact Reads.malformed t
  · refine Reads.ite (fun _ => ?_) fun _ => Reads.ok _ (h.span _)
    refine Reads.bind (reads_emptyLines _ (h.span _).lineBreak) fun more s hs => ?_
    exact Reads.ok _ hs

theorem reads_escape (h : ('\\' :: s.rest) <:+ t) : Reads t (escape s) := by
  have hs : s.Within t := (List.suffix_cons _ _).trans h
  unfold escape
  split
  · exact Reads.malformed t
  · next c hc =>
      have hrest := Cursor.rest_eq_of_peek hc
      split
      · exact Reads.ok _ hs.next
      · next n hn => exact reads_hexEscape hn (hrest ▸ h)
      · exact Reads.ite (fun _ => reads_emptyLines _ hs.lineBreak) fun _ => Reads.malformed t

theorem reads_body (double : Bool) (fuel : Nat) (h : s.Within t) : Reads t (body double fuel s) := by
  induction fuel generalizing s with
  | zero => exact Reads.malformed t
  | succ fuel ih =>
      unfold body
      split
      · exact Reads.malformed t
      · next c hc =>
          refine Reads.ite (fun _ => ?_) fun _ => Reads.ite (fun _ => Reads.ok _ h.next) fun _ => ?_
          · refine Reads.bind (ih (h.skip 2)) fun more s hs => ?_
            exact Reads.ok _ hs
          -- whatever the piece at the cursor is, the text goes on behind it
          · have hrest : ∀ piece s, s.Within t → Reads t ((body double fuel s).bind fun r =>
                Except.ok (piece ++ r.1, r.2)) := fun piece s hs =>
              Reads.bind (ih hs) fun more s hs => Reads.ok _ hs
            refine Reads.ite (fun hescape => ?_) fun _ => Reads.ite (fun _ => ?_) fun _ => ?_
            · rw [Bool.and_eq_true, beq_iff_eq] at hescape
              refine Reads.bind (reads_escape ?_) hrest
              rw [← hescape.2, ← Cursor.rest_eq_of_peek hc]
              exact h
            · exact Reads.bind (reads_spaces h) hrest
            · exact Reads.bind (Reads.ok [c] h.next) hrest

theorem reads_read (double : Bool) (h : s.Within t) : Reads t (read double s) :=
  reads_body double _ h.next

end QuotedScalar

namespace BlockScalar

theorem reads_header (h : s.Within t) : Reads t (header s) := by
  have hrest : ∀ (k : Header) (s : Cursor), s.Within t → Reads t (do
      if k.increment = some 0 ∨ !s.spaceAt 0 then .error .malformed
      else return (k, ← s.endLine)) := fun k s hs =>
    Reads.ite (fun _ => Reads.malformed t) fun _ => Ends.bind hs.endLine fun s hs => Reads.ok k hs
  unfold header
  cases chomping? s with
  | some k =>
      cases increment? s.next with
      | some n => exact hrest _ _ (h.skip 2)
      | none => exact hrest _ _ h.next
  | none =>
      cases increment? s with
      | some n =>
          cases chomping? s.next with
          | some k => exact hrest _ _ (h.skip 2)
          | none => exact hrest _ _ h.next
      | none => exact hrest _ _ h

theorem within_leading (fuel widest : Nat) (h : s.Within t) :
    (leading fuel widest s).2.2.Within t := by
  induction fuel generalizing widest s with
  | zero => exact h
  | succ fuel ih =>
      unfold leading
      split
      · split
        · exact ih _ h.next
        · split
          · exact ih _ h.lineBreak
          · exact h
      · exact h

theorem within_skipIndent (indent fuel : Nat) (h : s.Within t) :
    (skipIndent indent fuel s).Within t := by
  induction fuel generalizing s with
  | zero => exact h
  | succ fuel ih =>
      unfold skipIndent
      split
      · exact ih h.next
      · exact h

theorem within_breaks (indent fuel : Nat) (h : s.Within t) : (breaks indent fuel s).2.Within t := by
  induction fuel generalizing s with
  | zero => exact h
  | succ fuel ih =>
      unfold breaks
      dsimp only
      have hs := within_skipIndent indent indent h
      split
      · exact ih hs.lineBreak
      · exact hs

theorem within_lines (folded : Bool) (indent fuel : Nat) (before : Text) (h : s.Within t) :
    (lines folded indent fuel before s).2.2.2.Within t := by
  induction fuel generalizing s before with
  | zero => exact h
  | succ fuel ih =>
      unfold lines
      dsimp only
      have hs := within_breaks indent ((s.span fun c => !isBreak c).2.lineBreak.2.rest.length + 1)
        (h.span fun c => !isBreak c).lineBreak
      split
      · exact ih _ hs
      · exact hs

theorem within_start (least : Nat) (increment : Option Nat) (h : s.Within t) :
    (start least increment s).2.2.Within t := by
  cases increment with
  | none => exact within_leading (s.rest.length + 1) 0 h
  | some n => exact within_breaks (least + n - 1) (s.rest.length + 1) h

theorem within_content (folded : Bool) (width : Nat) (before : Text) (h : s.Within t) :
    (content folded width before s).2.2.2.Within t := by
  unfold content
  split
  · exact within_lines folded width _ before h
  · exact h

theorem reads_read (folded : Bool) (indent : Int) (h : s.Within t) :
    Reads t (read folded indent s) := by
  unfold read
  refine Reads.bind (reads_header h.next) fun k s hs => ?_
  exact Reads.ok _ (within_content folded _ _ (within_start _ k.increment hs))

end BlockScalar

namespace PlainScalar

theorem within_emptyLines (fuel : Nat) (h : s.Within t) : (emptyLines fuel s).2.Within t := by
  induction fuel generalizing s with
  | zero => exact h
  | succ fuel ih =>
      unfold emptyLines
      split
      · split
        · exact ih h.next
        · split
          · dsimp only
            split
            · exact h.lineBreak
            · exact ih h.lineBreak
          · exact h
      · exact h

theorem within_spaces (h : s.Within t) : (spaces s).2.2.Within t := by
  unfold spaces
  dsimp only
  have hs := h.span (· == ' ')
  split
  · split
    · exact hs.lineBreak
    · have hlines := within_emptyLines ((s.span (· == ' ')).2.lineBreak.2.rest.length + 1)
        hs.lineBreak
      split <;> next heq => rw [heq] at hlines; exact hlines
  · exact hs

theorem within_chunks (inFlow : Bool) (indent : Int) (fuel : Nat) (pending : Text) (ended : Bool)
    (h : s.Within t) : (chunks inFlow indent fuel pending ended s).2.2.Within t := by
  induction fuel generalizing s pending ended with
  | zero => exact h
  | succ fuel ih =>
      unfold chunks
      dsimp only
      have hs := within_spaces (h.skip (chunk inFlow s.rest).length)
      split
      · exact h
      · split
        · exact hs
        · exact ih _ _ hs

theorem within_read (inFlow : Bool) (indent : Int) (h : s.Within t) :
    (read inFlow indent s).2.2.Within t :=
  within_chunks inFlow indent _ [] false h

end PlainScalar

namespace Tag

theorem reads_readHandle (h : s.Within t) : Reads t (readHandle s) := by
  unfold readHandle
  refine Reads.ite (fun _ => Reads.malformed t) fun _ => Reads.ite (fun _ => Reads.ok _ h.next)
    fun _ => Reads.ite (fun _ => Reads.ok _ (h.next.span _).next) fun _ => Reads.malformed t

theorem ends_escapedBytes (fuel : Nat) (u : Text) :
    Ends (FaultOf t) (fun _ => True) (escapedBytes fuel u) := by
  induction fuel, u using escapedBytes.induct with
  | case1 fuel a b rest h ih =>
      rw [escapedBytes, if_pos h]
      exact Ends.bind ih fun _ _ => trivial
  | case2 fuel a b rest h =>
      rw [escapedBytes, if_neg h]
      exact FaultOf.malformed
  | case3 =>
      rw [escapedBytes]
      · exact FaultOf.malformed
      · assumption
  | case4 =>
      rw [escapedBytes]
      · trivial
      · assumption
      · assumption

theorem reads_uriFrom (fuel : Nat) (h : s.Within t) : Reads t (uriFrom fuel s) := by
  induction fuel generalizing s with
  | zero => exact Reads.malformed t
  | succ fuel ih =>
      unfold uriFrom
      split
      · refine Reads.ite (fun _ => ?_) fun _ => Reads.ite (fun _ => ?_) fun _ => Reads.ok _ h
        · refine Ends.bind (ends_escapedBytes _ _) fun bytes _ => ?_
          split
          · exact Reads.malformed t
          · refine Reads.bind (ih (h.skip _)) fun more s hs => ?_
            exact Reads.ok _ hs
        · refine Reads.bind (ih h.next) fun more s hs => ?_
          exact Reads.ok _ hs
      · exact Reads.ok _ h

theorem reads_uri (h : s.Within t) : Reads t (uri s) :=
  Reads.ite (fun _ => reads_uriFrom _ h) fun _ => Reads.malformed t

theorem reads_read (h : s.Within t) : Reads t (read s) := by
  have hrest : ∀ (g : Tag) (s : Cursor), s.Within t → Reads t (do
      if s.spaceAt 0 then return (g, s) else .error .malformed) := fun g s hs =>
    Reads.ite (fun _ => Reads.ok g hs) fun _ => Reads.malformed t
  unfold read
  refine Reads.ite (fun _ => ?_) fun _ => Reads.ite (fun _ => hrest _ _ h.next) fun _ =>
    Reads.ite (fun _ => ?_) fun _ => ?_
  · refine Reads.bind (reads_uri (h.skip 2)) fun u s hs => ?_
    exact Reads.ite (fun _ => hrest _ _ hs.next) fun _ => Reads.malformed t
  · refine Reads.bind (reads_readHandle h) fun start s hs => ?_
    exact Reads.bind (reads_uri hs) fun u s hs => hrest _ s hs
  · exact Reads.bind (reads_uri h.next) fun u s hs => hrest _ s hs

end Tag

end Onboarding.Yaml
