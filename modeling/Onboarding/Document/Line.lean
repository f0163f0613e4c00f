import Onboarding.Text.Basic

namespace Onboarding

structure Line where
  number : Nat
  text : Text
deriving DecidableEq, Repr

namespace Line

def numberFrom : Nat → List Text → List Line
  | _, [] => []
  | n, t :: rest => ⟨n, t⟩ :: numberFrom (n + 1) rest

/-- The lines of a text, counted from one, each without a carriage return at its end. -/
def index (content : Text) : List Line :=
  numberFrom 1 ((content.splitOn '\n').map (Text.dropEnd '\r'))

@[simp] theorem length_numberFrom (n : Nat) (ts : List Text) :
    (numberFrom n ts).length = ts.length := by
  induction ts generalizing n with
  | nil => rfl
  | cons t ts ih => simp [numberFrom, ih]

theorem numberFrom_append (n : Nat) (ts us : List Text) :
    numberFrom n (ts ++ us) = numberFrom n ts ++ numberFrom (n + ts.length) us := by
  induction ts generalizing n with
  | nil => simp [numberFrom]
  | cons t ts ih => simp [numberFrom, ih, Nat.add_comm 1, Nat.add_assoc]

theorem index_ne_nil (content : Text) : index content ≠ [] := by
  intro h
  have hl := congrArg List.length h
  simp only [index, length_numberFrom, List.length_map, List.length_nil] at hl
  exact Text.splitOn_ne_nil '\n' content (List.length_eq_zero_iff.1 hl)

end Line

end Onboarding
