namespace Onboarding

/-- Entries in the order in which their keys came first. -/
abbrev Table (κ α : Type) := List (κ × α)

namespace Table

variable {κ α : Type} [DecidableEq κ]

def insert (k : κ) (a : α) : Table κ α → Table κ α
  | [] => [(k, a)]
  | (j, b) :: rest => if j = k then (k, a) :: rest else (j, b) :: insert k a rest

def get? (k : κ) : Table κ α → Option α
  | [] => none
  | (j, b) :: rest => if j = k then some b else get? k rest

def has (k : κ) (t : Table κ α) : Bool := (t.get? k).isSome

def keys (t : Table κ α) : List κ := t.map (·.1)

def ofList (entries : List (κ × α)) : Table κ α :=
  entries.foldl (fun t e => t.insert e.1 e.2) []

@[simp] theorem get?_nil (k : κ) : get? k ([] : Table κ α) = none := rfl

theorem get?_cons (k j : κ) (b : α) (t : Table κ α) :
    get? k ((j, b) :: t) = if j = k then some b else get? k t := rfl

theorem get?_insert (t : Table κ α) (k j : κ) (a : α) :
    (t.insert k a).get? j = if k = j then some a else t.get? j := by
  induction t with
  | nil => simp [insert, get?_cons]
  | cons e t ih =>
      obtain ⟨i, b⟩ := e
      by_cases hi : i = k
      · subst hi
        by_cases hj : i = j <;> simp [insert, get?_cons, hj]
      · by_cases hj : i = j
        · subst hj
          simp [insert, get?_cons, hi, Ne.symm hi]
        · simp [insert, get?_cons, hi, hj, ih]

theorem mem_keys_iff (t : Table κ α) (k : κ) : k ∈ keys t ↔ (t.get? k).isSome := by
  induction t with
  | nil => simp [keys]
  | cons e t ih =>
      obtain ⟨i, b⟩ := e
      by_cases hi : i = k
      · simp [keys, get?_cons, hi]
      · simp only [keys, List.map_cons, List.mem_cons, get?_cons, hi, if_false]
        rw [← ih]
        simp [keys, Ne.symm hi]

theorem keys_insert (t : Table κ α) (k : κ) (a : α) :
    keys (t.insert k a) = if k ∈ keys t then keys t else keys t ++ [k] := by
  induction t with
  | nil => simp [insert, keys]
  | cons e t ih =>
      obtain ⟨i, b⟩ := e
      by_cases hi : i = k
      · simp [insert, keys, hi]
      · have hk : ¬ k = i := fun h => hi h.symm
        simp only [insert, hi, if_false, keys, List.map_cons, List.mem_cons, hk, false_or]
        simp only [keys] at ih
        rw [ih]
        split <;> simp_all

theorem insert_of_not_mem {t : Table κ α} {k : κ} (h : k ∉ keys t) (a : α) :
    t.insert k a = t ++ [(k, a)] := by
  induction t with
  | nil => rfl
  | cons e t ih =>
      obtain ⟨i, b⟩ := e
      rw [keys, List.map_cons, List.mem_cons, not_or] at h
      rw [insert, if_neg (Ne.symm h.1), ih h.2, List.cons_append]

theorem insert_concat {t : Table κ α} {k : κ} (h : k ∉ keys t) (a b : α) :
    (t ++ [(k, a)] : Table κ α).insert k b = t ++ [(k, b)] := by
  induction t with
  | nil => rw [List.nil_append, insert, if_pos rfl, List.nil_append]
  | cons e t ih =>
      obtain ⟨i, c⟩ := e
      rw [keys, List.map_cons, List.mem_cons, not_or] at h
      rw [List.cons_append, insert, if_neg (Ne.symm h.1), ih h.2, List.cons_append]

omit [DecidableEq κ] in
theorem not_mem_keys_concat {t : Table κ α} {k : κ} {ks : List κ} (hk : k ∉ ks)
    (h : ∀ j ∈ ks, j ∉ keys t) (a : α) : ∀ j ∈ ks, j ∉ keys (t ++ [(k, a)]) := by
  intro j hj hm
  rw [keys, List.map_append, List.mem_append, List.map_singleton, List.mem_singleton] at hm
  rcases hm with hm | rfl
  · exact h j hj hm
  · exact hk hj

theorem get?_concat {t : Table κ α} {k : κ} (h : k ∉ keys t) (a : α) :
    (t ++ [(k, a)] : Table κ α).get? k = some a := by
  rw [← insert_of_not_mem h, get?_insert, if_pos rfl]

theorem mem_keys_foldl_insert (es : List (κ × α)) (t : Table κ α) (k : κ) :
    k ∈ keys (es.foldl (fun t e => t.insert e.1 e.2) t) ↔ k ∈ keys t ∨ k ∈ es.map (·.1) := by
  induction es generalizing t with
  | nil => simp
  | cons e es ih =>
      have hinsert : k ∈ keys (t.insert e.1 e.2) ↔ k ∈ keys t ∨ k = e.1 := by
        rw [keys_insert]
        split
        · next hmem => exact ⟨.inl, fun h => h.elim id fun he => he ▸ hmem⟩
        · rw [List.mem_append, List.mem_singleton]
      rw [List.foldl_cons, ih, hinsert, List.map_cons, List.mem_cons, or_assoc]

theorem mem_keys_ofList (es : List (κ × α)) (k : κ) : k ∈ keys (ofList es) ↔ k ∈ es.map (·.1) := by
  rw [ofList, mem_keys_foldl_insert]
  exact or_iff_right List.not_mem_nil

theorem foldl_insert_of_nodup {es : List (κ × α)} (h : (es.map (·.1)).Nodup) (t : Table κ α)
    (hnew : ∀ k ∈ es.map (·.1), k ∉ keys t) :
    es.foldl (fun t e => t.insert e.1 e.2) t = t ++ es := by
  induction es generalizing t with
  | nil => simp
  | cons e es ih =>
      obtain ⟨k, a⟩ := e
      rw [List.map_cons, List.nodup_cons] at h
      rw [List.map_cons, List.forall_mem_cons] at hnew
      rw [List.foldl_cons, insert_of_not_mem hnew.1, ih h.2 _ (not_mem_keys_concat h.1 hnew.2 a),
        List.append_assoc]
      rfl

theorem ofList_of_nodup {es : List (κ × α)} (h : (es.map (·.1)).Nodup) : ofList es = es :=
  foldl_insert_of_nodup h [] fun _ _ => List.not_mem_nil

omit [DecidableEq κ] in
theorem mem_keys_singleton {k : κ} {e : κ × α} : k ∈ keys [e] ↔ k = e.1 := List.mem_singleton

theorem get?_eq_none_iff {t : Table κ α} {k : κ} : t.get? k = none ↔ k ∉ keys t := by
  rw [mem_keys_iff, Option.not_isSome_iff_eq_none]

theorem filter_key_eq {t : Table κ α} (h : (keys t).Nodup) (k : κ) :
    t.filter (fun e => e.1 = k) = (t.get? k).toList.map fun a => (k, a) := by
  induction t with
  | nil => rfl
  | cons e t ih =>
      obtain ⟨j, b⟩ := e
      rw [keys, List.map_cons, List.nodup_cons] at h
      have hrest := ih h.2
      by_cases hj : j = k
      · subst hj
        rw [get?_eq_none_iff.mpr h.1] at hrest
        rw [List.filter_cons_of_pos (by simp), hrest, get?_cons, if_pos rfl]
        rfl
      · rw [List.filter_cons_of_neg (by simpa using hj), hrest, get?_cons, if_neg hj]

theorem get?_eq_some_of_mem {t : Table κ α} (h : (keys t).Nodup) {k : κ} {a : α} (ha : (k, a) ∈ t) :
    t.get? k = some a := by
  have hmem : (k, a) ∈ t.filter fun e => e.1 = k := List.mem_filter.mpr ⟨ha, decide_eq_true rfl⟩
  rw [filter_key_eq h] at hmem
  obtain ⟨b, hb, hab⟩ := List.mem_map.mp hmem
  cases hab
  exact Option.mem_toList.mp hb

section Later

variable {t : Table κ α} {es ys : List (κ × α)} {j k : κ}

theorem get?_foldl_insert_of_not_mem (h : k ∉ es.map (·.1)) (t : Table κ α) :
    (es.foldl (fun t e => t.insert e.1 e.2) t).get? k = t.get? k := by
  induction es generalizing t with
  | nil => rfl
  | cons e es ih =>
      rw [List.map_cons, List.mem_cons, not_or] at h
      rw [List.foldl_cons, ih h.2, get?_insert, if_neg (Ne.symm h.1)]

theorem insert_insert_self (t : Table κ α) (k : κ) (a b : α) : (t.insert k a).insert k b = t.insert k b := by
  induction t with
  | nil => simp [insert]
  | cons e t ih =>
      obtain ⟨i, c⟩ := e
      by_cases hi : i = k <;> simp [insert, hi, ih]

theorem insert_comm_of_mem (h : k ∈ keys t) (hj : j ≠ k) (a b : α) :
    (t.insert j b).insert k a = (t.insert k a).insert j b := by
  induction t with
  | nil => exact absurd h List.not_mem_nil
  | cons e t ih =>
      obtain ⟨i, c⟩ := e
      by_cases hi : i = k
      · subst hi
        simp [insert, Ne.symm hj]
      · rw [keys, List.map_cons, List.mem_cons, or_iff_right (Ne.symm hi)] at h
        by_cases hij : i = j
        · subst hij
          simp [insert, hi]
        · simp [insert, hi, hij, ih h]

theorem insert_foldl_insert (hk : k ∈ keys t) (h : k ∉ es.map (·.1)) (a : α) :
    Table.insert k a (es.foldl (fun t e => t.insert e.1 e.2) t) =
      es.foldl (fun t e => t.insert e.1 e.2) (t.insert k a) := by
  induction es generalizing t with
  | nil => rfl
  | cons e es ih =>
      rw [List.map_cons, List.mem_cons, not_or] at h
      have hmem : k ∈ keys (t.insert e.1 e.2) := by
        rw [mem_keys_iff, get?_insert, if_neg (Ne.symm h.1), ← mem_keys_iff]
        exact hk
      rw [List.foldl_cons, List.foldl_cons, ih hmem h.2, insert_comm_of_mem hk (Ne.symm h.1)]

theorem get?_ofList_append_cons (h : k ∉ ys.map (·.1)) (xs : List (κ × α)) (a : α) :
    (ofList (xs ++ (k, a) :: ys)).get? k = some a := by
  rw [ofList, List.foldl_append, List.foldl_cons, get?_foldl_insert_of_not_mem h, get?_insert, if_pos rfl]

theorem ofList_append_cons (h : k ∉ ys.map (·.1)) (xs : List (κ × α)) (a b : α) :
    ofList (xs ++ (k, b) :: ys) = (ofList (xs ++ (k, a) :: ys)).insert k b := by
  have hmem (t : Table κ α) : k ∈ keys (t.insert k a) := by
    rw [mem_keys_iff, get?_insert, if_pos rfl]
    rfl
  rw [ofList, ofList, List.foldl_append, List.foldl_append, List.foldl_cons, List.foldl_cons,
    insert_foldl_insert (hmem _) h, insert_insert_self]

end Later

end Table

end Onboarding
