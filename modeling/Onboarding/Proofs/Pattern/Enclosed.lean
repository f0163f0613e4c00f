import Onboarding.Pattern.Reading
import Onboarding.Proofs.Pattern.Lexemes

namespace Onboarding.Pattern

def Lexeme.leading : Lexeme → List Flag
  | .leadingFlags f fs => f :: fs
  | _ => []

namespace Frame

variable {f g : Frame}

theorem opening_bar (h : f.bar = .ok g) : g.opening = f.opening := by
  rw [bar] at h
  split at h
  · cases h
  · cases h
    rfl

theorem opening_quantify {least : Nat} {most : Option Nat} {greed : Greed}
    (h : f.quantify least most greed = .ok g) : g.opening = f.opening := by
  rw [quantify] at h
  split at h
  · cases h
  · cases h
  · cases h
  · cases h
    rfl

end Frame

namespace Reader

variable {r s : Reader} {x : Lexeme} {xs : List Lexeme} {v : Verbosity}

theorem bind_eq_ok {ε α β : Type} {x : Except ε α} {f : α → Except ε β} {b : β}
    (h : x.bind f = .ok b) : ∃ a, x = .ok a ∧ f a = .ok b := by
  cases x with
  | error e => cases h
  | ok a => exact ⟨a, rfl, h⟩

theorem ite_eq_ok_iff {ε α : Type} {c : Prop} [Decidable c] {a b : α} {e : ε} :
    (if c then Except.ok a else Except.error e) = .ok b ↔ c ∧ a = b := by
  by_cases hc : c
  · simp [hc]
  · simp [hc]

theorem backref_eq_ok_iff {i : Nat} :
    r.backref i = .ok s ↔ r.mayRefer i = true ∧ r.push (.backref i) = s :=
  ite_eq_ok_iff

theorem namedBackref_eq_ok_iff {name : Text} :
    r.next (.namedBackref name) = .ok s ↔
      ∃ i, r.names.lookup name = some i ∧ r.mayRefer i = true ∧ r.push (.backref i) = s := by
  rw [next]
  cases r.names.lookup name with
  | none => simp
  | some i => simp only [backref_eq_ok_iff, Option.some.injEq, exists_eq_left']

def openings (r : Reader) : List Opening := r.frame.opening :: r.outer.map (·.opening)

def enclosed (r : Reader) : Reader := { r with outer := r.outer ++ [.whole] }

theorem inFrame_cases {f : Frame → Except Fault Frame}
    (hf : ∀ frame frame', f frame = .ok frame' → frame'.opening = frame.opening)
    (h : r.inFrame f = .ok s) :
    r.enclosed.inFrame f = .ok s.enclosed ∧ s.openings = r.openings ∧ s.leading = r.leading := by
  rw [inFrame] at h
  cases hr : f r.frame with
  | error e =>
      rw [hr] at h
      cases h
  | ok frame =>
      rw [hr] at h
      cases h
      refine ⟨?_, congrArg (· :: _) (hf _ _ hr), rfl⟩
      rw [inFrame, show f r.enclosed.frame = .ok frame from hr]
      rfl

theorem openGroup_cases {o : Opening} (h : r.openGroup o = .ok s) :
    r.enclosed.openGroup o = .ok s.enclosed ∧ (∃ o', s.openings = o' :: r.openings) ∧
      s.leading = r.leading := by
  cases o with
  | plain | atomic | «scoped» =>
      cases h
      exact ⟨rfl, ⟨_, rfl⟩, rfl⟩
  | capture name =>
      cases name with
      | none =>
          cases h
          exact ⟨rfl, ⟨_, rfl⟩, rfl⟩
      | some n =>
          rw [openGroup] at h
          split at h
          · cases h
          · next hn =>
              cases h
              exact ⟨if_neg hn, ⟨_, rfl⟩, rfl⟩
  | look behind negated =>
      cases behind <;>
      · cases h
        exact ⟨rfl, ⟨_, rfl⟩, rfl⟩
  | ifNumber i =>
      obtain ⟨hi, rfl⟩ := ite_eq_ok_iff.mp h
      exact ⟨if_pos hi, ⟨_, rfl⟩, rfl⟩
  | ifName name =>
      rw [openGroup] at h
      split at h
      · next i hi =>
          obtain ⟨hask, rfl⟩ := ite_eq_ok_iff.mp h
          refine ⟨?_, ⟨_, rfl⟩, rfl⟩
          rw [openGroup, show r.enclosed.names.lookup name = some i from hi]
          exact if_pos hask
      · cases h

theorem closeGroup_cases (h : r.closeGroup = .ok s) :
    r.enclosed.closeGroup = .ok s.enclosed ∧ (∃ o, r.openings = o :: s.openings) ∧
      s.leading = r.leading := by
  rw [closeGroup] at h
  split at h
  · cases h
  · next parent outer ho =>
      obtain ⟨p, hp, he⟩ := bind_eq_ok h
      cases he
      have hp' : r.enclosed.closed = .ok p := hp
      have ho' : r.enclosed.outer = parent :: (outer ++ [.whole]) :=
        congrArg (· ++ [_]) ho
      refine ⟨?_, ⟨r.frame.opening, by rw [openings, ho]; rfl⟩, rfl⟩
      simp only [closeGroup, ho', hp']
      rfl

/-- What a lexeme does to the open groups and to the flags of the whole pattern, which are all that a
group around the pattern could change. -/
theorem next_cases (h : r.next x = .ok s) :
    match x with
    | .openGroup _ =>
      r.enclosed.next x = .ok s.enclosed ∧ (∃ o', s.openings = o' :: r.openings) ∧
        s.leading = r.leading
    | .closeGroup =>
      r.enclosed.next x = .ok s.enclosed ∧ (∃ o, r.openings = o :: s.openings) ∧
        s.leading = r.leading
    | .leadingFlags f fs => s.openings = r.openings ∧ s.leading = r.leading ++ f :: fs
    | _ => r.enclosed.next x = .ok s.enclosed ∧ s.openings = r.openings ∧ s.leading = r.leading := by
  cases x with
  | char | anyChar | anchor =>
      cases h
      exact ⟨rfl, rfl, rfl⟩
  | backref i =>
      obtain ⟨hi, rfl⟩ := backref_eq_ok_iff.mp h
      exact ⟨backref_eq_ok_iff.mpr ⟨hi, rfl⟩, rfl, rfl⟩
  | namedBackref name =>
      obtain ⟨i, hname, hi, rfl⟩ := namedBackref_eq_ok_iff.mp h
      exact ⟨namedBackref_eq_ok_iff.mpr ⟨i, hname, hi, rfl⟩, rfl, rfl⟩
  | bar => exact inFrame_cases (fun _ _ => Frame.opening_bar) h
  | openGroup o => exact openGroup_cases h
  | closeGroup => exact closeGroup_cases h
  | leadingFlags f fs =>
      obtain ⟨-, rfl⟩ := ite_eq_ok_iff.mp h
      exact ⟨rfl, rfl⟩
  | quantifier least most greed => exact inFrame_cases (fun _ _ => Frame.opening_quantify) h
  | fault f => cases h

theorem next_leading (h : r.next x = .ok s) : s.leading = r.leading ++ x.leading := by
  have hcases := next_cases h
  cases x with
  | leadingFlags f fs => exact hcases.2
  | _ => simpa only [Lexeme.leading, List.append_nil] using hcases.2.2

theorem next_enclosed (h : r.next x = .ok s) (hx : x.leading = []) :
    r.enclosed.next x = .ok s.enclosed := by
  have hcases := next_cases h
  cases x with
  | leadingFlags f fs => cases hx
  | _ => exact hcases.1

theorem leading_of_next_enclosed (h : r.enclosed.next x = .ok s) : x.leading = [] := by
  cases x with
  | leadingFlags f fs =>
      obtain ⟨hc, -⟩ := ite_eq_ok_iff.mp h
      simp [enclosed] at hc
  | _ => rfl

theorem foldlM_cons_eq_ok (h : (x :: xs).foldlM next r = .ok s) :
    ∃ t, r.next x = .ok t ∧ xs.foldlM next t = .ok s := by
  rw [List.foldlM_cons] at h
  exact bind_eq_ok h

theorem foldlM_cons_of_next {t : Reader} (h : r.next x = .ok t) :
    (x :: xs).foldlM next r = xs.foldlM next t := by
  rw [List.foldlM_cons, h]
  rfl

theorem fault_not_mem (h : xs.foldlM next r = .ok s) : ∀ f, .fault f ∉ xs := by
  induction xs generalizing r with
  | nil => exact fun _ => List.not_mem_nil
  | cons x xs ih =>
      obtain ⟨t, ht, h⟩ := foldlM_cons_eq_ok h
      intro f hm
      rcases List.mem_cons.mp hm with rfl | hm
      · cases ht
      · exact ih h f hm

theorem foldlM_leading (h : xs.foldlM next r = .ok s) :
    s.leading = r.leading ++ xs.flatMap Lexeme.leading := by
  induction xs generalizing r with
  | nil =>
      cases h
      exact (List.append_nil _).symm
  | cons x xs ih =>
      obtain ⟨t, ht, h⟩ := foldlM_cons_eq_ok h
      rw [ih h, next_leading ht, List.flatMap_cons, List.append_assoc]

theorem foldlM_enclosed (h : xs.foldlM next r = .ok s) (hx : ∀ x ∈ xs, x.leading = []) :
    xs.foldlM next r.enclosed = .ok s.enclosed := by
  induction xs generalizing r with
  | nil =>
      cases h
      rfl
  | cons x xs ih =>
      rw [List.forall_mem_cons] at hx
      obtain ⟨t, ht, h⟩ := foldlM_cons_eq_ok h
      rw [foldlM_cons_of_next (next_enclosed ht hx.1)]
      exact ih h hx.2

theorem leading_of_foldlM_enclosed {s' : Reader} (h : xs.foldlM next r = .ok s)
    (h' : xs.foldlM next r.enclosed = .ok s') : ∀ x ∈ xs, x.leading = [] := by
  induction xs generalizing r with
  | nil => exact fun _ hm => absurd hm List.not_mem_nil
  | cons x xs ih =>
      obtain ⟨t, ht, h⟩ := foldlM_cons_eq_ok h
      obtain ⟨t', ht', h'⟩ := foldlM_cons_eq_ok h'
      have hx := leading_of_next_enclosed ht'
      rw [next_enclosed ht hx] at ht'
      cases ht'
      exact List.forall_mem_cons.mpr ⟨hx, ih h h'⟩

/-- There is a verbosity for each group that is open, and the whole pattern is not verbose. -/
def Tracks (v : Verbosity) (r : Reader) : Prop :=
  ∃ (inner : List Bool) (os : List Opening), v = inner ++ [false] ∧ r.openings = os ++ [.plain] ∧
    inner.length = os.length

theorem Tracks.step (h : Tracks v r) (hs : r.next x = .ok s) (hx : x.leading = []) :
    Tracks (v.after x) s := by
  obtain ⟨inner, os, rfl, ho, hlen⟩ := h
  have hcases := next_cases hs
  have hpush (b : Bool) (hs : ∃ o, s.openings = o :: r.openings) :
      Tracks (b :: (inner ++ [false])) s := by
    obtain ⟨o, hs⟩ := hs
    exact ⟨b :: inner, o :: os, rfl, by rw [hs, ho]; rfl, congrArg Nat.succ hlen⟩
  cases x with
  | openGroup o =>
      cases o <;> exact hpush _ hcases.2.1
  | closeGroup =>
      obtain ⟨-, ⟨o, hs⟩, -⟩ := hcases
      rw [ho] at hs
      match inner, os with
      | [], [] => cases (List.cons.inj hs).2
      | [], _ :: _ | _ :: _, [] => cases hlen
      | b :: inner, o' :: os => exact ⟨inner, os, rfl, (List.cons.inj hs).2.symm, Nat.succ.inj hlen⟩
  | leadingFlags f fs => cases hx
  | _ => exact ⟨inner, os, rfl, hcases.2.1.trans ho, hlen⟩

theorem Tracks.foldl (h : Tracks v r) (hs : xs.foldlM next r = .ok s)
    (hx : ∀ x ∈ xs, x.leading = []) : Tracks (xs.foldl Verbosity.after v) s := by
  induction xs generalizing v r with
  | nil =>
      cases hs
      exact h
  | cons x xs ih =>
      rw [List.forall_mem_cons] at hx
      obtain ⟨t, ht, hs⟩ := foldlM_cons_eq_ok hs
      exact ih (h.step ht hx.1) hs hx.2

theorem Tracks.of_outer_eq_nil (h : Tracks v r) (ho : r.outer = []) :
    v = [false] ∧ r.frame.opening = .plain := by
  obtain ⟨inner, os, rfl, hos, hlen⟩ := h
  rw [openings, ho, List.map_nil] at hos
  cases os with
  | nil =>
      rw [List.length_nil, List.length_eq_zero_iff] at hlen
      rw [hlen]
      exact ⟨rfl, (List.cons.inj hos).1⟩
  | cons o os => simp at hos

variable {t : Text}

theorem foldl_after_lexemes (h : (lexemes t).foldlM next {} = .ok s) (ho : s.outer = [])
    (hx : ∀ x ∈ lexemes t, x.leading = []) :
    (lexemes t).foldl Verbosity.after [false] = [false] ∧ s.frame.opening = .plain := by
  have hstart : Tracks [false] {} := ⟨[], [], rfl, rfl, rfl⟩
  exact (hstart.foldl h hx).of_outer_eq_nil ho

def behindGroup (r : Reader) : Reader :=
  { r with
    frame := Frame.whole.push (.scoped [] [] r.frame.finished)
    outer := []
    limit := r.frame.limit }

theorem closeGroup_enclosed (ho : r.outer = []) (hplain : r.frame.opening = .plain) :
    r.enclosed.closeGroup = .ok r.behindGroup := by
  have ho' : r.enclosed.outer = [.whole] := by rw [enclosed, ho]; rfl
  have hopening : r.enclosed.frame.opening = .plain := hplain
  have hclosed : r.enclosed.closed = .ok (.scoped [] [] r.frame.finished) := by
    rw [closed, hopening]
    rfl
  have hfit : r.enclosed.looksFit = true := by rw [looksFit, hopening]
  simp only [closeGroup, ho', hclosed, hopening, hfit]
  rfl

/-- Without flags of its own a pattern is read in a group as it is alone, and what follows is read from
there on. -/
theorem foldlM_lexemes_enclosed (h : (lexemes t).foldlM next {} = .ok s) (ho : s.outer = [])
    (hl : s.leading = []) {u : Text} (hu : lexemes (')' :: u) = .closeGroup :: xs) :
    (lexemes ('(' :: '?' :: ':' :: (t ++ ')' :: u))).foldlM next {} =
      xs.foldlM next s.behindGroup := by
  have hx : ∀ x ∈ lexemes t, x.leading = [] := by
    rw [foldlM_leading h] at hl
    exact List.flatMap_eq_nil_iff.mp hl
  obtain ⟨ys, hys, hfollow⟩ := lexemes_enclosed (fault_not_mem h) u
  obtain ⟨hquiet, hplain⟩ := foldl_after_lexemes h ho hx
  have hopen : next {} (.openGroup .plain) = .ok ({} : Reader).enclosed := rfl
  rw [hys, hfollow hquiet, hu, foldlM_cons_of_next hopen, List.foldlM_append, foldlM_enclosed h hx]
  exact foldlM_cons_of_next (closeGroup_enclosed ho hplain)

theorem leading_of_lexemes_enclosed {s' : Reader} {u : Text}
    (h : (lexemes t).foldlM next {} = .ok s)
    (h' : (lexemes ('(' :: '?' :: ':' :: (t ++ ')' :: u))).foldlM next {} = .ok s') :
    s.leading = [] := by
  obtain ⟨xs, hxs, -⟩ := lexemes_enclosed (fault_not_mem h) u
  have hopen : next {} (.openGroup .plain) = .ok ({} : Reader).enclosed := rfl
  rw [hxs, foldlM_cons_of_next hopen, List.foldlM_append] at h'
  obtain ⟨r, hr, -⟩ := bind_eq_ok h'
  rw [foldlM_leading h, List.flatMap_eq_nil_iff.mpr (leading_of_foldlM_enclosed h hr)]
  rfl

end Reader

end Onboarding.Pattern
