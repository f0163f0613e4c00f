import Onboarding.Proofs.Document.Lines

namespace Onboarding.Line

def renumber (σ : Nat → Nat) (l : Line) : Line := ⟨σ l.number, l.text⟩

variable {σ : Nat → Nat}

theorem map_text_renumber (ls : List Line) : (ls.map (renumber σ)).map (·.text) = ls.map (·.text) := by
  rw [List.map_map]
  rfl

theorem map_renumber_numberFrom {n m : Nat} {ts : List Text}
    (h : ∀ j, j < ts.length → σ (n + j) = m + j) :
    (numberFrom n ts).map (renumber σ) = numberFrom m ts := by
  induction ts generalizing n m with
  | nil => rfl
  | cons t ts ih =>
      have hfirst : σ n = m := h 0 (Nat.succ_pos _)
      have hrest : ∀ j, j < ts.length → σ (n + 1 + j) = m + 1 + j := by
        intro j hj
        rw [Nat.add_assoc, Nat.add_comm 1 j, h (j + 1) (Nat.succ_lt_succ hj)]
        omega
      rw [numberFrom, List.map_cons, ih hrest, renumber, hfirst, numberFrom]

theorem filter_text_eq_nil {counts : Text → Bool} {n : Nat} {ts : List Text}
    (h : ∀ t ∈ ts, counts t = false) : (numberFrom n ts).filter (counts ·.text) = [] := by
  refine List.filter_eq_nil_iff.mpr fun l hl => ?_
  rw [h l.text (text_mem_of_mem hl)]
  exact Bool.false_ne_true

theorem filter_text_map_renumber (counts : Text → Bool) (ls : List Line) :
    (ls.map (renumber σ)).filter (counts ·.text) = (ls.filter (counts ·.text)).map (renumber σ) := by
  rw [List.filter_map]
  rfl

theorem filter_text_insert {counts : Text → Bool} (before : List Text) {new : List Text}
    (hnew : ∀ t ∈ new, counts t = false) (hbefore : ∀ m ≤ before.length, σ m = m)
    (hafter : ∀ m, before.length < m → σ m = m + new.length) (after : List Text) :
    (numberFrom 1 (before ++ (new ++ after))).filter (counts ·.text) =
      ((numberFrom 1 (before ++ after)).filter (counts ·.text)).map (renumber σ) := by
  have hfront : (numberFrom 1 before).map (renumber σ) = numberFrom 1 before :=
    map_renumber_numberFrom fun j hj => hbefore (1 + j) (by omega)
  have hback : (numberFrom (1 + before.length) after).map (renumber σ) =
      numberFrom (1 + before.length + new.length) after :=
    map_renumber_numberFrom fun j _ => by
      rw [hafter _ (by omega)]
      omega
  rw [← filter_text_map_renumber, numberFrom_append, numberFrom_append, numberFrom_append,
    List.map_append, List.filter_append, List.filter_append, List.filter_append,
    filter_text_eq_nil hnew, List.nil_append, hfront, hback]

end Onboarding.Line
