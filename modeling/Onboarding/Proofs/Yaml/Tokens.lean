import Onboarding.Proofs.Yaml.Scalars

namespace Onboarding.Yaml

namespace Lexer

variable {t : Text} {x : Lexer}

def Within (t : Text) (x : Lexer) : Prop := x.cursor.Within t

def Runs (t : Text) (x : Except Fault Lexer) : Prop := Ends (FaultOf t) (Within t) x

theorem Runs.ok (h : x.Within t) : Runs t (.ok x) := h

theorem Runs.malformed (t : Text) : Runs t (.error .malformed) := FaultOf.malformed

theorem Runs.bind {x : Except Fault Lexer} {k : Lexer → Except Fault Lexer} (hx : Runs t x)
    (hk : ∀ x, x.Within t → Runs t (k x)) : Runs t (x >>= k) :=
  Ends.bind hx hk

theorem Runs.read {α : Type} {x : Except Fault (α × Cursor)} {k : α × Cursor → Except Fault Lexer}
    (hx : Reads t x) (hk : ∀ a s, s.Within t → Runs t (k (a, s))) : Runs t (x >>= k) :=
  Ends.bind hx fun r hr => hk r.1 r.2 hr

theorem Runs.ite {c : Prop} [Decidable c] {x y : Except Fault Lexer} (hx : c → Runs t x)
    (hy : ¬c → Runs t y) : Runs t (if c then x else y) :=
  Ends.ite hx hy

theorem Within.skip (h : x.Within t) (n : Nat) : (x.skip n).Within t := Cursor.Within.skip h n

theorem Within.allow (h : x.Within t) (b : Bool) : (x.allow b).Within t := h

theorem cursor_unwindTo (column : Int) (outer : List Int) (x : Lexer) :
    (unwindTo column outer x).cursor = x.cursor := by
  induction outer generalizing x with
  | nil => rfl
  | cons indent outer ih =>
      unfold unwindTo
      split
      · exact ih _
      · rfl

theorem Within.unwind (h : x.Within t) (column : Int) : (x.unwind column).Within t := by
  rw [Within, Lexer.unwind, cursor_unwindTo]
  exact h

theorem Within.indentTo (h : x.Within t) (column : Nat) {put : Lexer → Lexer}
    (hput : ∀ x, x.Within t → (put x).Within t) : (x.indentTo column put).Within t := by
  unfold Lexer.indentTo
  split
  · exact hput _ h
  · exact h

theorem Within.beginBlock (h : x.Within t) (token : Token) : (x.beginBlock token).Within t :=
  h.indentTo _ fun _ hx => hx

theorem Within.skipLayout (h : x.Within t) (fuel : Nat) : (skipLayout fuel x).Within t := by
  induction fuel generalizing x with
  | zero => exact h
  | succ fuel ih =>
      have hs := (Cursor.Within.skipSpaces h).skipComment
      unfold Lexer.skipLayout
      dsimp only
      split
      · exact ih hs.lineBreak
      · exact hs

theorem ends_forget (x : Lexer) : Ends (FaultOf t) (fun y => y.cursor = x.cursor) x.forget := by
  unfold Lexer.forget
  split
  · exact Ends.ite (fun _ => FaultOf.malformed) fun _ => rfl
  · rfl

theorem Within.forget (h : x.Within t) : Runs t x.forget :=
  (ends_forget x).imp fun y hy => by rwa [Within, hy]

theorem Within.forgetStale (h : x.Within t) : Runs t x.forgetStale :=
  Runs.ite (fun _ => Runs.malformed t) fun _ => Runs.ok h

theorem Within.mayBeKey (h : x.Within t) : Runs t x.mayBeKey :=
  Runs.ite (fun _ => Runs.bind h.forget fun _ hx => Runs.ok hx) fun _ => Runs.ok h

theorem Within.marker (h : x.Within t) (token : Token) : Runs t (x.marker token) :=
  Runs.bind (h.unwind (-1)).forget fun _ hx => Runs.ok (Within.skip hx 3)

theorem Within.openFlow (h : x.Within t) (token : Token) : Runs t (x.openFlow token) :=
  Runs.bind h.mayBeKey fun _ hx => Runs.ok (Within.skip hx 1)

theorem Within.closeFlow (h : x.Within t) (token : Token) : Runs t (x.closeFlow token) :=
  Runs.bind h.forget fun _ hx =>
    Runs.ite (fun _ => Runs.malformed t) fun _ => Runs.ok (Within.skip hx 1)

theorem Within.flowEntry (h : x.Within t) : Runs t x.flowEntry :=
  Runs.bind (Within.forget h) fun _ hx => Runs.ok (Within.skip hx 1)

theorem Runs.inBlock {k : Lexer → Except Fault Lexer} (h : x.Within t) (token : Token)
    (hk : ∀ x, x.Within t → Runs t (k x)) :
    Runs t (if x.inFlow then (.ok x) >>= k
      else if !x.allowKey then (.error .malformed) >>= k
      else (.ok (x.beginBlock token)) >>= k) :=
  Runs.ite (fun _ => hk x h) fun _ =>
    Runs.ite (fun _ => Runs.malformed t) fun _ => hk _ (h.beginBlock token)

theorem Within.entry (h : x.Within t) : Runs t x.entry :=
  Runs.inBlock h .blockSequence fun _ hx =>
    Runs.bind (Within.forget hx) fun _ hx => Runs.ok (Within.skip hx 1)

theorem Within.key (h : x.Within t) : Runs t x.key :=
  Runs.inBlock h .blockMapping fun _ hx =>
    Runs.bind (Within.forget hx) fun _ hx => Runs.ok (Within.skip hx 1)

theorem Within.value (h : x.Within t) : Runs t x.value := by
  unfold Lexer.value
  split
  · next c _ =>
      refine Runs.ok (Within.skip (Within.allow ?_ false) 1)
      split
      · exact h
      · refine Within.indentTo ?_ c.column fun _ hx => ?_
        · exact h
        · exact hx
  · exact Runs.inBlock h .blockMapping fun _ hx =>
      Runs.bind (Within.forget hx) fun _ hx => Runs.ok (Within.skip hx 1)

theorem reads_anchorName {s : Cursor} (h : s.Within t) : Reads t (anchorName s) :=
  Reads.ite (fun _ => Reads.ok _ (h.next.span isNameChar)) fun _ => Reads.malformed t

theorem Within.anchor (h : x.Within t) (make : Text → Token) : Runs t (x.anchor make) :=
  Runs.bind h.mayBeKey fun _ hx => Runs.read (reads_anchorName hx) fun _ _ hs => Runs.ok hs

theorem Within.tag (h : x.Within t) : Runs t x.tag :=
  Runs.bind h.mayBeKey fun _ hx => Runs.read (Tag.reads_read hx) fun _ _ hs => Runs.ok hs

theorem Within.blockScalar (h : x.Within t) (folded : Bool) : Runs t (x.blockScalar folded) :=
  Runs.bind (Within.forget h) fun _ hx =>
    Runs.read (BlockScalar.reads_read folded _ hx) fun _ _ hs => Runs.ok hs

theorem Within.quotedScalar (h : x.Within t) (double : Bool) : Runs t (x.quotedScalar double) :=
  Runs.bind h.mayBeKey fun _ hx =>
    Runs.read (QuotedScalar.reads_read double hx) fun _ _ hs => Runs.ok hs

theorem Within.plainScalar (h : x.Within t) : Runs t x.plainScalar :=
  Runs.bind h.mayBeKey fun x hx => Runs.ok (PlainScalar.within_read x.inFlow (x.indent + 1) hx)

theorem ends_versionNumber {s : Cursor} {gap : Text} (hgap : IsVersionGap gap)
    (h : "%YAML".toList ++ (gap ++ s.rest) <:+ t) :
    Ends (FaultOf t) (fun r => r.2 = (s.span Text.isAsciiDigit).2) (versionNumber s) := by
  refine Ends.ite (fun hlong => ?_) fun _ => ?_
  · obtain ⟨before, hbefore⟩ := h
    rw [← s.span_append_rest Text.isAsciiDigit] at hbefore
    exact FaultOf.version ⟨before, gap, _, _, hbefore.symm, hgap, fun _ => Cursor.of_mem_span, hlong⟩
  · split
    · rfl
    · exact FaultOf.malformed

theorem reads_version {s : Cursor} (h : "%YAML".toList ++ s.rest <:+ t) : Reads t (version s) := by
  have hs : s.Within t := (List.suffix_append _ _).trans h
  have hspaces := isVersionGap_spaces s
  have hfirst : "%YAML".toList ++ ((s.span (· == ' ')).1 ++ s.skipSpaces.rest) <:+ t := by
    rw [Cursor.skipSpaces, s.span_append_rest]
    exact h
  refine Ends.bind (ends_versionNumber hspaces hfirst) fun ⟨major, s'⟩ hs' => ?_
  obtain rfl : s' = _ := hs'
  refine Reads.ite (fun _ => Reads.malformed t) fun hdot => ?_
  -- the second number stands behind the spaces, the first one and the point
  have hrest : (s.skipSpaces.span Text.isAsciiDigit).2.rest =
      '.' :: (s.skipSpaces.span Text.isAsciiDigit).2.next.rest :=
    Cursor.rest_eq_of_peek (by simpa [Cursor.looksAt] using hdot)
  have hsecond := hfirst
  rw [← s.skipSpaces.span_append_rest Text.isAsciiDigit, hrest] at hsecond
  refine Ends.bind (ends_versionNumber (hspaces.number _) (by simpa using hsecond)) fun ⟨_, s'⟩ hs' => ?_
  obtain rfl : s' = _ := hs'
  exact Reads.ite (fun _ => Reads.ok _ ((hs.skipSpaces.span _).next.span _)) fun _ =>
    Reads.malformed t

theorem reads_directiveBody {name : Text} {s : Cursor} (h : '%' :: (name ++ s.rest) <:+ t) :
    Reads t (directiveBody name s) := by
  have hs : s.Within t := (List.suffix_append _ _).trans ((List.suffix_cons _ _).trans h)
  refine Reads.ite (fun hname => ?_) fun _ => Reads.ite (fun _ => ?_) fun _ => Reads.ok _ hs.toLineEnd
  · rw [hname] at h
    exact reads_version h
  · refine Reads.bind (Tag.reads_readHandle hs.skipSpaces) fun handle s hs => ?_
    refine Reads.ite (fun _ => Reads.malformed t) fun _ => ?_
    refine Reads.bind (Tag.reads_uri hs.skipSpaces) fun start s hs => ?_
    exact Reads.ite (fun _ => Reads.ok _ hs) fun _ => Reads.malformed t

theorem Within.directive (h : x.Within t) (hx : x.cursor.peek 0 = some '%') :
    Runs t x.directive := by
  unfold Lexer.directive
  refine Ends.bind (ends_forget _) fun y hy => ?_
  rw [Lexer.unwind, cursor_unwindTo] at hy
  refine Runs.ite (fun _ => Runs.malformed t) fun _ => ?_
  have hname : '%' :: ((y.cursor.next.span isNameChar).1 ++ (y.cursor.next.span isNameChar).2.rest)
      <:+ t := by
    rw [Cursor.span_append_rest, hy, ← Cursor.rest_eq_of_peek hx]
    exact h
  refine Runs.read (reads_directiveBody hname) fun d s hs => ?_
  exact Ends.bind hs.endLine fun s hs => Runs.ok hs

theorem Within.fetch (h : x.Within t) {c : Char} (hc : x.cursor.peek 0 = some c) :
    Runs t (x.fetch c) := by
  unfold Lexer.fetch
  refine Runs.ite (fun hmark => h.directive ?_) fun _ => ?_
  · rw [hc, beq_iff_eq.mp (Bool.and_eq_true_iff.mp hmark).1]
  refine Runs.ite (fun _ => h.marker _) fun _ => ?_
  refine Runs.ite (fun _ => h.marker _) fun _ => ?_
  refine Runs.ite (fun _ => h.openFlow _) fun _ => ?_
  refine Runs.ite (fun _ => h.openFlow _) fun _ => ?_
  refine Runs.ite (fun _ => h.closeFlow _) fun _ => ?_
  refine Runs.ite (fun _ => h.closeFlow _) fun _ => ?_
  refine Runs.ite (fun _ => h.flowEntry) fun _ => ?_
  refine Runs.ite (fun _ => h.entry) fun _ => ?_
  refine Runs.ite (fun _ => h.key) fun _ => ?_
  refine Runs.ite (fun _ => h.value) fun _ => ?_
  refine Runs.ite (fun _ => h.anchor _) fun _ => ?_
  refine Runs.ite (fun _ => h.anchor _) fun _ => ?_
  refine Runs.ite (fun _ => h.tag) fun _ => ?_
  refine Runs.ite (fun _ => h.blockScalar _) fun _ => ?_
  refine Runs.ite (fun _ => h.blockScalar _) fun _ => ?_
  refine Runs.ite (fun _ => h.quotedScalar _) fun _ => ?_
  refine Runs.ite (fun _ => h.quotedScalar _) fun _ => ?_
  refine Runs.ite (fun _ => h.plainScalar) fun _ => ?_
  exact Runs.malformed t

end Lexer

namespace Tokens

def fault? : Tokens → Option Fault
  | done => none
  | broken f => some f
  | next _ rest => rest.fault?

end Tokens

end Onboarding.Yaml
