import Onboarding.Proofs.Yaml.Nodes
import Onboarding.Yaml.Document

namespace Onboarding.Yaml

namespace Built

variable {α β : Type} {P : Fault → Prop}

/-- The fault that is met first, if there is one, is as `P` says. -/
def Faults (P : Fault → Prop) : Built α → Prop
  | .ok _ => True
  | .fault _ f => P f

theorem Faults.map {x : Built α} (h : x.Faults P) (g : α → β) : (x.map g).Faults P := by
  cases x with
  | ok a => trivial
  | fault n f => exact h

theorem Faults.and {g : Built (α → β)} (hg : g.Faults P) {x : Built α} (hx : x.Faults P) :
    (g.and x).Faults P := by
  cases g with
  | ok g =>
      cases x with
      | ok a => trivial
      | fault n f => exact hx
  | fault n f =>
      cases x with
      | ok a => exact hg
      | fault m e =>
          change (if m < n then Built.fault m e else Built.fault n f : Built β).Faults P
          split
          · exact hx
          · exact hg

theorem Faults.pair {x : Built α} (hx : x.Faults P) {y : Built β} (hy : y.Faults P) :
    (x.pair y).Faults P :=
  (hx.map _).and hy

theorem Faults.cons {x : Built α} (hx : x.Faults P) {xs : Built (List α)} (hxs : xs.Faults P) :
    (x.cons xs).Faults P :=
  (hx.map _).and hxs

theorem Faults.append {xs ys : Built (List α)} (hxs : xs.Faults P) (hys : ys.Faults P) :
    (xs.append ys).Faults P :=
  (hxs.map _).and hys

theorem Faults.deeper {x : Built α} (h : x.Faults P) : x.deeper.Faults P := by
  cases x with
  | ok a => trivial
  | fault n f => exact h

theorem faults_ofExcept {x : Except Fault α} (h : ∀ f, x = .error f → P f) :
    (ofExcept x).Faults P := by
  cases x with
  | ok a => trivial
  | error f => exact h f rfl

end Built

/-- A node stands somewhere in another, or is the same. -/
inductive Node.IsPartOf (m : Node) : Node → Prop
  | refl : IsPartOf m m
  | item {kind : Kind} {items : List Node} {n : Node} (hn : n ∈ items) (h : IsPartOf m n) :
      IsPartOf m (.sequence kind items)
  | key {kind : Kind} {entries : List (Node × Node)} {e : Node × Node} (he : e ∈ entries)
      (h : IsPartOf m e.1) : IsPartOf m (.mapping kind entries)
  | value {kind : Kind} {entries : List (Node × Node)} {e : Node × Node} (he : e ∈ entries)
      (h : IsPartOf m e.2) : IsPartOf m (.mapping kind entries)

variable {S : Node → Prop}

/-- A fault that is due to one of the given nodes, apart from what is malformed or not covered. -/
def FaultIn (S : Node → Prop) (f : Fault) : Prop :=
  (f = .malformed ∨ f = .uncovered) ∨ ∃ m, S m ∧ m.scalarValue m.kind = .error f

def Node.PartsIn (S : Node → Prop) (n : Node) : Prop := ∀ m, m.IsPartOf n → S m

theorem faultIn_malformed : FaultIn S .malformed := .inl (.inl rfl)

theorem faultIn_uncovered : FaultIn S .uncovered := .inl (.inr rfl)

theorem Node.PartsIn.items {kind : Kind} {items : List Node}
    (h : (Node.sequence kind items).PartsIn S) : ∀ n ∈ items, n.PartsIn S :=
  fun _ hn m hm => h m (.item hn hm)

theorem Node.PartsIn.entries {kind : Kind} {entries : List (Node × Node)}
    (h : (Node.mapping kind entries).PartsIn S) : ∀ e ∈ entries, e.1.PartsIn S ∧ e.2.PartsIn S :=
  fun _ he => ⟨fun m hm => h m (.key he hm), fun m hm => h m (.value he hm)⟩

theorem Node.PartsIn.faults_scalarValue {n : Node} (h : n.PartsIn S) :
    (Built.ofExcept (n.scalarValue n.kind)).Faults (FaultIn S) :=
  Built.faults_ofExcept fun _ hf => .inr ⟨n, h n .refl, hf⟩

theorem Node.eq_malformed_of_scalarValue_text {n : Node} {f : Fault}
    (h : n.scalarValue .text = .error f) : f = .malformed := by
  unfold Node.scalarValue at h
  split at h
  · cases h
    rfl
  · cases h
  · cases h

theorem Node.faults_key {n : Node} (h : n.PartsIn S) : n.key.Faults (FaultIn S) := by
  unfold Node.key
  split
  · exact Built.faults_ofExcept fun _ hf => .inl (.inl (Node.eq_malformed_of_scalarValue_text hf))
  · exact h.faults_scalarValue

theorem Node.faults_single {n : Node} (h : n.PartsIn S) : n.single.Faults (FaultIn S) := by
  unfold Node.single
  split
  · exact faultIn_malformed
  · exact h.faults_scalarValue

namespace MapEntries

def FaultsIn (S : Node → Prop) (m : MapEntries) : Prop :=
  m.merged.Faults (FaultIn S) ∧ m.own.Faults (FaultIn S)

theorem FaultsIn.toList {m : MapEntries} (h : m.FaultsIn S) : m.toList.Faults (FaultIn S) :=
  h.1.append h.2

theorem FaultsIn.takeOver {m : MapEntries} (h : m.FaultsIn S) {es : Built Entries}
    (hes : es.Faults (FaultIn S)) : (m.takeOver es).FaultsIn S :=
  ⟨hes.append h.1, h.2⟩

theorem FaultsIn.add {m : MapEntries} (h : m.FaultsIn S) {e : Built (Value × Value)}
    (he : e.Faults (FaultIn S)) : (m.add e).FaultsIn S :=
  ⟨h.1, he.cons h.2⟩

end MapEntries

theorem faults_filled {es : Except Fault MapEntries}
    (h : Ends (FaultIn S) (MapEntries.FaultsIn S) es) : (filled es).Faults (FaultIn S) := by
  cases es with
  | ok m => exact MapEntries.FaultsIn.toList h
  | error f => exact h

-- The recursion is that of the values: a node, its items and entries, and the maps that are taken over.
mutual

theorem Node.faults_value (n : Node) (h : n.PartsIn S) : n.value.Faults (FaultIn S) := by
  cases n with
  | scalar kind t =>
      rw [Node.value]
      exact Node.faults_single h
  | sequence kind items =>
      unfold Node.value
      split
      · exact ((faults_values items h.items).map _).deeper
      · exact ((faults_pairs items h.items).map _).deeper
      · exact ((faults_pairs items h.items).map _).deeper
      · exact Node.faults_single h
  | mapping kind entries =>
      unfold Node.value
      split
      · exact ((faults_filled (ends_entryValues entries h.entries)).map _).deeper
      · exact ((faults_filled (ends_entryValues entries h.entries)).map _).deeper
      · exact Node.faults_single h

theorem faults_values (items : List Node) (h : ∀ n ∈ items, n.PartsIn S) :
    (values items).Faults (FaultIn S) := by
  cases items with
  | nil => trivial
  | cons n rest =>
      rw [List.forall_mem_cons] at h
      rw [values]
      exact (Node.faults_value n h.1).cons (faults_values rest h.2)

theorem faults_pairs (items : List Node) (h : ∀ n ∈ items, n.PartsIn S) :
    (pairs items).Faults (FaultIn S) := by
  match items with
  | [] => trivial
  | .mapping kind [(k, v)] :: rest =>
      rw [List.forall_mem_cons] at h
      rw [pairs]
      split
      · exact faultIn_uncovered
      · have hkv := h.1.entries (k, v) (List.mem_singleton_self _)
        refine Built.Faults.cons ?_ (faults_pairs rest h.2)
        exact ((Node.faults_value k hkv.1).pair (Node.faults_value v hkv.2)).map _
  | .mapping _ [] :: rest | .mapping _ (_ :: _ :: _) :: rest =>
      unfold pairs
      split
      · exact faultIn_uncovered
      · exact faultIn_malformed
  | .scalar .. :: rest | .sequence .. :: rest => exact faultIn_malformed

theorem ends_entryValues (entries : List (Node × Node))
    (h : ∀ e ∈ entries, e.1.PartsIn S ∧ e.2.PartsIn S) :
    Ends (FaultIn S) (MapEntries.FaultsIn S) (entryValues entries) := by
  match entries with
  | [] => exact ⟨trivial, trivial⟩
  | (k, v) :: rest =>
      rw [List.forall_mem_cons] at h
      rw [entryValues]
      have hrest := ends_entryValues rest h.2
      refine Ends.ite (fun _ => ?_) fun _ => ?_
      · refine Ends.bind (Node.ends_mergedEntries v h.1.2) fun es hes => ?_
        exact Ends.bind hrest fun m hm => hm.takeOver hes
      · refine Ends.bind hrest fun m hm => hm.add ?_
        exact (Node.faults_key h.1.1).pair (Node.faults_value v h.1.2)

theorem ends_mergedAll (items : List Node) (h : ∀ n ∈ items, n.PartsIn S) :
    Ends (FaultIn S) (Built.Faults (FaultIn S)) (mergedAll items) := by
  match items with
  | [] => trivial
  | .mapping kind entries :: rest =>
      rw [List.forall_mem_cons] at h
      rw [mergedAll]
      refine Ends.bind (ends_entryValues entries h.1.entries) fun m hm => ?_
      exact Ends.bind (ends_mergedAll rest h.2) fun es hes => hes.append hm.toList
  | .scalar .. :: rest | .sequence .. :: rest => exact faultIn_malformed

theorem Node.ends_mergedEntries (n : Node) (h : n.PartsIn S) :
    Ends (FaultIn S) (Built.Faults (FaultIn S)) n.mergedEntries := by
  cases n with
  | scalar kind t => exact faultIn_malformed
  | sequence kind items => exact ends_mergedAll items h.items
  | mapping kind entries =>
      exact Ends.bind (ends_entryValues entries h.entries) fun m hm => hm.toList

end

end Onboarding.Yaml
