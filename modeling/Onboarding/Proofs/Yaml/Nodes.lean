import Onboarding.Proofs.Yaml.Tokens
import Onboarding.Yaml.Node

namespace Onboarding.Yaml

variable {α β : Type}

/-- What there may be wrong with tokens: they are malformed or not covered, or a fault is behind them. -/
def Tokens.FaultOf (ts : Tokens) (f : Fault) : Prop :=
  (f = .malformed ∨ f = .uncovered) ∨ ts.fault? = some f

theorem Tokens.faultOf_congr {ts us : Tokens} (h : ts.fault? = us.fault?) : ts.FaultOf = us.FaultOf := by
  funext f
  rw [Tokens.FaultOf, Tokens.FaultOf, h]

namespace Reading

/-- Whatever is left to read, no other fault is met than there is, and what is left then has the same one. -/
def KeepsFault (m : Reading α) : Prop :=
  ∀ s, Ends s.tokens.FaultOf (fun r => r.2.tokens.fault? = s.tokens.fault?) (m.run s)

theorem KeepsFault.pure (a : α) : KeepsFault (Pure.pure a) := fun _ => rfl

theorem KeepsFault.throw : KeepsFault (throw .malformed : Reading α) := fun _ => .inl (.inl rfl)

theorem KeepsFault.get : KeepsFault get := fun _ => rfl

theorem KeepsFault.modify {g : Source → Source} (h : ∀ s, (g s).tokens.fault? = s.tokens.fault?) :
    KeepsFault (modify g) := h

theorem KeepsFault.bind {m : Reading α} {k : α → Reading β} (hm : KeepsFault m)
    (hk : ∀ a, KeepsFault (k a)) : KeepsFault (m >>= k) := by
  -- the fault behind the tokens that `m` leaves is the one that was behind all of them
  refine fun s => Ends.bind (hm s) fun r hr => ?_
  have hs := hk r.1 r.2
  rw [Tokens.faultOf_congr hr, hr] at hs
  exact hs

theorem KeepsFault.ite {c : Prop} [Decidable c] {m n : Reading α} (hm : KeepsFault m)
    (hn : KeepsFault n) : KeepsFault (if c then m else n) := by
  split
  · exact hm
  · exact hn

theorem keepsFault_name (anchor : Option Text) (n : Option Node) : KeepsFault (name anchor n) := by
  unfold name
  split
  · exact .modify fun _ => rfl
  · exact .pure _

theorem KeepsFault.naming (anchor : Option Text) {content : Reading Node}
    (h : KeepsFault content) : KeepsFault (naming anchor content) :=
  .bind (keepsFault_name anchor none) fun _ => .bind h fun n =>
    .bind (keepsFault_name anchor n) fun _ => .pure n

variable {fuel : Nat}

end Reading

end Onboarding.Yaml
