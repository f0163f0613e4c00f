import Onboarding.Proofs.Settings.Counts
import Onboarding.Proofs.Text.Utf8
import Onboarding.Proofs.Yaml.Values
import Onboarding.Settings.Loading

namespace Onboarding

def Yaml.Token.depthAfter (n : Nat) : Yaml.Token → Nat
  | .blockSequence | .blockMapping | .flowSequence | .flowMapping => n + 1
  | .blockEnd | .flowSequenceEnd | .flowMappingEnd => n - 1
  | _ => n

/-- The most collections that stand one within another, where `n` are open already. -/
def Yaml.Tokens.depth (n : Nat) : Yaml.Tokens → Nat
  | .next t rest => max n (rest.depth (t.depthAfter n))
  | _ => n

mutual

/-- The most collections that stand one within another in a node, where a name counts as what it stands
for. -/
def Yaml.Node.depth : Yaml.Node → Nat
  | .scalar .. => 0
  | .sequence _ items => Yaml.itemsDepth items + 1
  | .mapping _ entries => Yaml.entriesDepth entries + 1

def Yaml.itemsDepth : List Yaml.Node → Nat
  | [] => 0
  | n :: rest => max n.depth (Yaml.itemsDepth rest)

def Yaml.entriesDepth : List (Yaml.Node × Yaml.Node) → Nat
  | [] => 0
  | (k, v) :: rest => max (max k.depth v.depth) (Yaml.entriesDepth rest)

end

def Pattern.Lexeme.depthAfter (n : Nat) : Pattern.Lexeme → Nat
  | .openGroup _ => n + 1
  | .closeGroup => n - 1
  | _ => n

namespace Settings

end Settings

end Onboarding
