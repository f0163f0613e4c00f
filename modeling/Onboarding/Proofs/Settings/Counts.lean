import Onboarding.Settings.Reading

namespace Onboarding

namespace Checked

variable {α β : Type}

theorem fail_ne_countTooLarge (c : Issue.Cause) : (fail c : Checked α) ≠ .countTooLarge := nofun

theorem map_eq_countTooLarge_iff {x : Checked α} {g : α → β} :
    x.map g = .countTooLarge ↔ x = .countTooLarge := by
  cases x with
  | ok a => exact ⟨nofun, nofun⟩
  | issues is => exact ⟨nofun, nofun⟩
  | countTooLarge => exact ⟨fun _ => rfl, fun _ => rfl⟩

theorem under_eq_countTooLarge_iff {x : Checked α} {s : Issue.Step} :
    x.under s = .countTooLarge ↔ x = .countTooLarge := by
  cases x with
  | ok a => exact ⟨nofun, nofun⟩
  | issues is => exact ⟨nofun, nofun⟩
  | countTooLarge => exact ⟨fun _ => rfl, fun _ => rfl⟩

theorem bind_eq_countTooLarge_iff {x : Checked α} {k : α → Checked β} :
    x.bind k = .countTooLarge ↔ x = .countTooLarge ∨ ∃ a, x = .ok a ∧ k a = .countTooLarge := by
  cases x with
  | ok a => exact ⟨fun h => .inr ⟨a, rfl, h⟩, fun h => h.elim nofun fun ⟨_, rfl, h⟩ => h⟩
  | issues is => exact ⟨nofun, fun h => h.elim nofun nofun⟩
  | countTooLarge => exact ⟨fun _ => .inl rfl, fun _ => rfl⟩

theorem and_eq_countTooLarge_iff {g : Checked (α → β)} {x : Checked α} :
    g.and x = .countTooLarge ↔ g = .countTooLarge ∨ x = .countTooLarge := by
  cases g <;> cases x <;> simp [Checked.and]

theorem items_eq_countTooLarge_iff {f : Value → Checked α} {n : Nat} {vs : List Value} :
    items f n vs = .countTooLarge ↔ ∃ v ∈ vs, f v = .countTooLarge := by
  induction vs generalizing n with
  | nil => exact ⟨nofun, nofun⟩
  | cons v rest ih =>
      rw [items, and_eq_countTooLarge_iff, map_eq_countTooLarge_iff, under_eq_countTooLarge_iff, ih]
      simp

end Checked

namespace Settings

open Checked

variable {α : Type} {f : Value → Checked α} {es : Entries} {v : Value}

theorem required_eq_countTooLarge_iff {name : Text} :
    required name f es = .countTooLarge ↔
      ∃ v, Value.entry? name es = some v ∧ f v = .countTooLarge := by
  rw [required, under_eq_countTooLarge_iff]
  cases Value.entry? name es with
  | none => exact ⟨nofun, nofun⟩
  | some v => exact ⟨fun h => ⟨v, rfl, h⟩, fun ⟨_, rfl, h⟩ => h⟩

theorem optional_eq_countTooLarge_iff {name : Text} {default : α} :
    optional name default f es = .countTooLarge ↔
      ∃ v, Value.entry? name es = some v ∧ f v = .countTooLarge := by
  rw [optional]
  cases Value.entry? name es with
  | none => exact ⟨nofun, nofun⟩
  | some v =>
      rw [under_eq_countTooLarge_iff]
      exact ⟨fun h => ⟨v, rfl, h⟩, fun ⟨_, rfl, h⟩ => h⟩

/-- No value can make the reader break off. -/
def ReadsOn (f : Value → Checked α) : Prop := ∀ v, f v ≠ .countTooLarge

theorem ReadsOn.optional (h : ReadsOn f) (name : Text) (default : α) :
    optional name default f es ≠ .countTooLarge := by
  rw [Ne, optional_eq_countTooLarge_iff]
  exact fun ⟨v, _, hv⟩ => h v hv

theorem ReadsOn.required (h : ReadsOn f) (name : Text) : required name f es ≠ .countTooLarge := by
  rw [Ne, required_eq_countTooLarge_iff]
  exact fun ⟨v, _, hv⟩ => h v hv

theorem ReadsOn.bind {β : Type} (h : ReadsOn f) {k : α → Checked β} (hk : ∀ a, k a ≠ .countTooLarge) :
    ReadsOn fun v => (f v).bind k := by
  intro v
  rw [Ne, bind_eq_countTooLarge_iff]
  exact fun hv => hv.elim (h v) fun ⟨a, _, ha⟩ => hk a ha

theorem listOf_eq_countTooLarge_iff :
    listOf f v = .countTooLarge ↔
      ∃ vs, (v = .list vs ∨ v = .set vs) ∧ ∃ u ∈ vs, f u = .countTooLarge := by
  cases v <;> simp [listOf, items_eq_countTooLarge_iff, fail_ne_countTooLarge]

theorem ReadsOn.listOf (h : ReadsOn f) : ReadsOn (listOf f) := by
  intro v
  rw [Ne, listOf_eq_countTooLarge_iff]
  exact fun ⟨_, _, u, _, hu⟩ => h u hu

end Settings

end Onboarding
