import Onboarding.Proofs.Pattern.Enclosed
import Onboarding.Proofs.Pattern.Forward

namespace Onboarding.Pattern

variable {n : Nat}

theorem Expr.topGroup_foldl {join : Expr → Expr → Expr}
    (hjoin : ∀ p q, (join p q).topGroup = max p.topGroup q.topGroup) {ps : List Expr} {p : Expr}
    (hp : p.topGroup ≤ n) (hps : ∀ q ∈ ps, q.topGroup ≤ n) :
    (ps.foldl (fun q p => join p q) p).topGroup ≤ n := by
  induction ps generalizing p with
  | nil => exact hp
  | cons q ps ih =>
      rw [List.forall_mem_cons] at hps
      refine ih ?_ hps.2
      rw [hjoin, Nat.max_le]
      exact ⟨hps.1, hp⟩

theorem Expr.topGroup_ofReversed {ps : List Expr} (h : ∀ p ∈ ps, p.topGroup ≤ n) :
    (ofReversed ps).topGroup ≤ n := by
  cases ps with
  | nil => exact Nat.zero_le n
  | cons p ps =>
      rw [List.forall_mem_cons] at h
      exact topGroup_foldl (fun _ _ => rfl) h.1 h.2

theorem Expr.topGroup_ofBranches {ps : List Expr} (h : ∀ p ∈ ps, p.topGroup ≤ n) :
    (ofBranches ps).topGroup ≤ n := by
  cases ps with
  | nil => exact Nat.zero_le n
  | cons p ps =>
      rw [List.forall_mem_cons] at h
      exact topGroup_foldl (fun _ _ => rfl) h.1 h.2

/-- No group in what was read of a frame is beyond `n`, nor is that which the frame will be. -/
structure Frame.Within (n : Nat) (f : Frame) : Prop where
  items : ∀ p ∈ f.items, p.topGroup ≤ n
  branches : ∀ p ∈ f.branches, p.topGroup ≤ n
  index : ∀ name, f.opening = .capture name → f.index ≤ n

namespace Frame.Within

variable {f g : Frame}

theorem mono {m : Nat} (h : f.Within n) (hm : n ≤ m) : f.Within m :=
  ⟨fun p hp => Nat.le_trans (h.items p hp) hm, fun p hp => Nat.le_trans (h.branches p hp) hm,
    fun name hname => Nat.le_trans (h.index name hname) hm⟩

theorem push (h : f.Within n) {p : Expr} (hp : p.topGroup ≤ n) : (f.push p).Within n :=
  ⟨List.forall_mem_cons.mpr ⟨hp, h.items⟩, h.branches, h.index⟩

theorem finished (h : f.Within n) : f.finished.topGroup ≤ n :=
  Expr.topGroup_ofBranches (List.forall_mem_cons.mpr ⟨Expr.topGroup_ofReversed h.items, h.branches⟩)

theorem bar (h : f.Within n) (hg : f.bar = .ok g) : g.Within n := by
  rw [Frame.bar] at hg
  split at hg
  · cases hg
  · cases hg
    exact ⟨fun _ hp => absurd hp List.not_mem_nil,
      List.forall_mem_cons.mpr ⟨Expr.topGroup_ofReversed h.items, h.branches⟩, h.index⟩

theorem quantify {least : Nat} {most : Option Nat} {greed : Greed} (h : f.Within n)
    (hg : f.quantify least most greed = .ok g) : g.Within n := by
  rw [Frame.quantify] at hg
  split at hg
  · cases hg
  · cases hg
  · cases hg
  · next p before hitems =>
      cases hg
      have hbefore := h.items
      rw [hitems, List.forall_mem_cons] at hbefore
      exact ⟨List.forall_mem_cons.mpr hbefore, h.branches, h.index⟩

end Frame.Within

namespace Reader

variable {r s : Reader}

/-- No group in what was read, in any of the open frames, is beyond the count. -/
structure Within (r : Reader) : Prop where
  frame : r.frame.Within r.count
  outer : ∀ f ∈ r.outer, f.Within r.count

namespace Within

theorem push (h : r.Within) {p : Expr} (hp : p.topGroup ≤ r.count) : (r.push p).Within :=
  ⟨h.frame.push hp, h.outer⟩

theorem openFrame (h : r.Within) {o : Opening} (ho : ∀ name, o ≠ .capture name) (i : Nat) :
    (r.openFrame o i).Within where
  frame := ⟨by simp [Reader.openFrame], by simp [Reader.openFrame], fun name he => absurd he (ho name)⟩
  outer := List.forall_mem_cons.mpr ⟨h.frame, h.outer⟩

theorem inFrame (h : r.Within) {f : Frame → Except Fault Frame}
    (hf : ∀ frame frame', Frame.Within r.count frame → f frame = .ok frame' →
      Frame.Within r.count frame') (hs : r.inFrame f = .ok s) : s.Within := by
  rw [Reader.inFrame] at hs
  cases hr : f r.frame with
  | error e =>
      rw [hr] at hs
      cases hs
  | ok frame =>
      rw [hr] at hs
      cases hs
      exact ⟨hf _ _ h.frame hr, h.outer⟩

theorem openCapture (h : r.Within) (name : Option Text) (names : List (Text × Nat)) :
    Within { r.openFrame (.capture name) (r.count + 1) with count := r.count + 1, names } where
  frame := ⟨by simp [Reader.openFrame], by simp [Reader.openFrame], fun _ _ => Nat.le_refl _⟩
  outer := List.forall_mem_cons.mpr
    ⟨h.frame.mono (Nat.le_succ _), fun f hf => (h.outer f hf).mono (Nat.le_succ _)⟩

theorem openGroup (h : r.Within) {o : Opening} (hs : r.openGroup o = .ok s) : s.Within := by
  cases o with
  | plain | atomic | «scoped» =>
      cases hs
      exact h.openFrame (by simp) 0
  | capture name =>
      cases name with
      | none =>
          cases hs
          exact h.openCapture none r.names
      | some n =>
          rw [Reader.openGroup] at hs
          split at hs
          · cases hs
          · cases hs
            exact h.openCapture (some n) ((n, r.count + 1) :: r.names)
  | look behind negated =>
      have hopen := h.openFrame (o := .look behind negated) (by simp) 0
      cases behind <;>
      · cases hs
        exact ⟨hopen.frame, hopen.outer⟩
  | ifNumber i =>
      obtain ⟨-, rfl⟩ := ite_eq_ok_iff.mp hs
      have hopen := h.openFrame (o := .ifNumber i) (by simp) i
      exact ⟨hopen.frame, hopen.outer⟩
  | ifName name =>
      rw [Reader.openGroup] at hs
      split at hs
      · next i hi =>
          obtain ⟨-, rfl⟩ := ite_eq_ok_iff.mp hs
          exact h.openFrame (by simp) i
      · cases hs

theorem closed (h : r.Within) {p : Expr} (hp : r.closed = .ok p) : p.topGroup ≤ r.count := by
  have hfinished := h.frame.finished
  cases ho : r.frame.opening with
  | plain | atomic | look | «scoped» =>
      simp only [Reader.closed, ho] at hp
      cases hp
      exact hfinished
  | capture name =>
      simp only [Reader.closed, ho] at hp
      cases hp
      exact Nat.max_le.mpr ⟨h.frame.index name ho, hfinished⟩
  | ifNumber i =>
      simp only [Reader.closed, ho] at hp
      split at hp
      · next yes hbranches =>
          cases hp
          have hyes := h.frame.branches
          rw [hbranches] at hyes
          exact Nat.max_le.mpr ⟨hyes yes List.mem_cons_self, Expr.topGroup_ofReversed h.frame.items⟩
      · cases hp
        exact Nat.max_le.mpr ⟨hfinished, Nat.zero_le _⟩
  | ifName name =>
      simp only [Reader.closed, ho] at hp
      cases hp

theorem closeGroup (h : r.Within) (hs : r.closeGroup = .ok s) : s.Within := by
  rw [Reader.closeGroup] at hs
  split at hs
  · cases hs
  · next parent outer ho =>
      have houter := h.outer
      rw [ho, List.forall_mem_cons] at houter
      obtain ⟨p, hp, he⟩ := bind_eq_ok hs
      cases he
      exact ⟨houter.1.push (h.closed hp), houter.2⟩

theorem next (h : r.Within) {x : Lexeme} (hs : r.next x = .ok s) : s.Within := by
  cases x with
  | char | anyChar | anchor =>
      cases hs
      exact h.push (Nat.zero_le _)
  | backref i =>
      obtain ⟨-, rfl⟩ := backref_eq_ok_iff.mp hs
      exact h.push (Nat.zero_le _)
  | namedBackref name =>
      obtain ⟨i, -, -, rfl⟩ := namedBackref_eq_ok_iff.mp hs
      exact h.push (Nat.zero_le _)
  | bar => exact h.inFrame (fun _ _ hf hg => hf.bar hg) hs
  | openGroup o => exact h.openGroup hs
  | closeGroup => exact h.closeGroup hs
  | leadingFlags f fs =>
      obtain ⟨-, rfl⟩ := ite_eq_ok_iff.mp hs
      exact ⟨h.frame, h.outer⟩
  | quantifier least most greed =>
      have hfit : Within { r with fit := !r.leading.contains .noRepeat && r.fit } := ⟨h.frame, h.outer⟩
      exact hfit.inFrame (fun _ _ hf hg => hf.quantify hg) hs
  | fault f => cases hs

theorem foldlM (h : r.Within) {xs : List Lexeme} (hs : xs.foldlM Reader.next r = .ok s) :
    s.Within := by
  induction xs generalizing r with
  | nil =>
      cases hs
      exact h
  | cons x xs ih =>
      obtain ⟨t, ht, hs⟩ := foldlM_cons_eq_ok hs
      exact ih (h.next ht) hs

end Within

theorem within_start : Within {} :=
  ⟨⟨fun _ hp => absurd hp List.not_mem_nil, fun _ hp => absurd hp List.not_mem_nil, by simp [Frame.whole]⟩,
    fun _ hf => absurd hf List.not_mem_nil⟩

theorem topGroup_finished {xs : List Lexeme} (h : xs.foldlM next {} = .ok r) :
    r.frame.finished.topGroup ≤ r.count :=
  (within_start.foldlM h).frame.finished

end Reader

end Onboarding.Pattern
