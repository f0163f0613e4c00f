import Onboarding.Proofs.Settings.Fieldwise

namespace Onboarding

namespace Checked

variable {α β : Type}

theorem bind_eq_ok_iff {x : Checked α} {k : α → Checked β} {b : β} :
    x.bind k = .ok b ↔ ∃ a, x = .ok a ∧ k a = .ok b := by
  cases x with
  | ok a => exact ⟨fun h => ⟨a, rfl, h⟩, fun ⟨_, rfl, h⟩ => h⟩
  | issues is => exact ⟨nofun, nofun⟩
  | countTooLarge => exact ⟨nofun, nofun⟩

theorem and_eq_ok_iff {g : Checked (α → β)} {x : Checked α} {b : β} :
    g.and x = .ok b ↔ ∃ f a, g = .ok f ∧ x = .ok a ∧ f a = b := by
  cases g <;> cases x <;> simp [and]

theorem map_eq_ok_iff {f : α → β} {x : Checked α} {b : β} : x.map f = .ok b ↔ ∃ a, x = .ok a ∧ f a = b := by
  cases x <;> simp [map]

theorem under_eq_ok_iff {x : Checked α} {s : Issue.Step} {a : α} : x.under s = .ok a ↔ x = .ok a := by
  cases x <;> simp [under]

theorem items_map {f : Value → Checked α} {w : α → Value} {xs : List α} (h : ∀ x ∈ xs, f (w x) = .ok x)
    (n : Nat) : items f n (xs.map w) = .ok xs := by
  induction xs generalizing n with
  | nil => rfl
  | cons x xs ih =>
      rw [List.forall_mem_cons] at h
      rw [List.map_cons, items, h.1, ih h.2]
      rfl

theorem exists_of_items_eq_ok {f : Value → Checked α} {n : Nat} {vs : List Value} {xs : List α}
    (h : items f n vs = .ok xs) : ∀ x ∈ xs, ∃ v, f v = .ok x := by
  induction vs generalizing n xs with
  | nil =>
      cases h
      exact fun _ hx => absurd hx List.not_mem_nil
  | cons v vs ih =>
      obtain ⟨g, rest, hg, hrest, rfl⟩ := and_eq_ok_iff.mp h
      obtain ⟨x, hx, rfl⟩ := map_eq_ok_iff.mp hg
      exact List.forall_mem_cons.mpr ⟨⟨v, under_eq_ok_iff.mp hx⟩, ih hrest⟩

end Checked

namespace Settings

open Checked

variable {s : Settings} {v : Value}

theorem exists_of_listOf_eq_ok {α : Type} {f : Value → Checked α} {xs : List α} (h : listOf f v = .ok xs) :
    ∀ x ∈ xs, ∃ u, f u = .ok x := by
  cases v with
  | list vs => exact exists_of_items_eq_ok h
  | set vs => exact exists_of_items_eq_ok h
  | _ => cases h

theorem keyword_text {k : Keyword} (h : k.text ≠ []) : keyword (.text k.text) = .ok k := by
  have htext : nonEmptyText (.text k.text) = .ok k.text := if_neg h
  rw [keyword, htext, Checked.bind, Keyword.ofText_text]

theorem text_eq_of_ofText {t : Text} {k : Keyword} (h : Keyword.ofText t = .ok k) : k.text = t := by
  unfold Keyword.ofText at h
  split at h
  · cases h
    rfl
  · cases h

theorem text_ne_nil_of_keyword {k : Keyword} (h : keyword v = .ok k) : k.text ≠ [] := by
  obtain ⟨t, ht, hk⟩ := bind_eq_ok_iff.mp h
  obtain ⟨u, hu, htu⟩ := bind_eq_ok_iff.mp ht
  have hne : t ≠ [] := by
    split at htu
    · cases htu
    · next hu =>
        cases htu
        exact hu
  split at hk
  · next k' hk' =>
      cases hk
      rwa [text_eq_of_ofText hk']
  all_goals cases hk

theorem numberFrom_int {least : Nat} (n : { n : Nat // least ≤ n }) : numberFrom least (.int n.1) = .ok n :=
  dif_pos (Int.ofNat_le.mpr n.2)

theorem titles_toList (ts : Titles) : titles (.list (ts.toList.map .text)) = .ok ts := by
  have htexts : listOf text (.list (ts.toList.map .text)) = .ok ts.toList := items_map (w := .text) (fun _ _ => rfl) 0
  rw [titles, htexts, Checked.bind, Titles.ofList?_toList]

def ruleValue (r : SecretRule) : Value :=
  .object [(Field.category, .text r.category), (Field.pattern, .text r.keyword.text),
    (Field.minLength, .int r.minLength)]

theorem secretRule_ruleValue {r : SecretRule} (h : r.keyword.text ≠ []) :
    secretRule (ruleValue r) = .ok r := by
  have hcategory : categoryText (.text r.category) = .ok ⟨r.category, r.category_ne_nil⟩ :=
    dif_pos r.category_ne_nil
  have hlength : numberFrom 1 (.int r.minLength) = .ok ⟨r.minLength, r.one_le_minLength⟩ :=
    numberFrom_int ⟨r.minLength, r.one_le_minLength⟩
  change ((((Checked.ok ruleOf).and ((categoryText (.text r.category)).under (.field Field.category))).and
    ((keyword (.text r.keyword.text)).under (.field Field.pattern))).and
    ((numberFrom 1 (.int r.minLength)).under (.field Field.minLength))).and (.ok ()) = _
  rw [hcategory, keyword_text h, hlength]
  rfl

theorem exists_keyword_of_secretRule {r : SecretRule} (h : secretRule v = .ok r) :
    ∃ p, keyword p = .ok r.keyword := by
  obtain ⟨es, -, h⟩ := bind_eq_ok_iff.mp h
  simp only [ruleOfEntries, and_eq_ok_iff] at h
  obtain ⟨_, _, ⟨_, _, ⟨_, k, ⟨_, c, hr, -, rfl⟩, hk, rfl⟩, -, rfl⟩, -, rfl⟩ := h
  cases hr
  rw [required, under_eq_ok_iff] at hk
  split at hk
  · next p _ => exact ⟨p, hk⟩
  · cases hk

theorem text_ne_nil_of_ofValue (h : ofValue v = .ok s) : ∀ r ∈ s.secretRules, r.keyword.text ≠ [] := by
  obtain ⟨es, -, h⟩ := bind_eq_ok_iff.mp h
  have hrules : optional Field.secretRules default.secretRules (listOf secretRule) es = .ok s.secretRules :=
    (ofEntries_eq_ok_iff.mp h).1 .secretRules
  rw [optional] at hrules
  split at hrules
  · intro r hr
    obtain ⟨u, hu⟩ := exists_of_listOf_eq_ok (under_eq_ok_iff.mp hrules) r hr
    obtain ⟨p, hp⟩ := exists_keyword_of_secretRule hu
    exact text_ne_nil_of_keyword hp
  · injection hrules with hrules
    rw [← hrules]
    decide

end Settings

namespace Setting

open Settings

def write : (f : Setting) → f.Data → Value
  | secretRules => fun rs => .list (rs.map ruleValue)
  | minCodeBlocks => fun n => .int n.1
  | skillPurposeTitles | skillTriggerTitles => fun ts => .list (ts.toList.map .text)
  | secretPlaceholders | agentsSections | skillRequiredFields | configRequiredKeys | approvalPolicies
  | sandboxModes => fun ts => .list (ts.map .text)

theorem read_write {s : Settings} (h : ∀ r ∈ s.secretRules, r.keyword.text ≠ []) (f : Setting) :
    f.read (f.write (of s f)) = .ok (of s f) := by
  have htexts : ∀ ts : List Text, listOf text (.list (ts.map .text)) = .ok ts :=
    fun _ => Checked.items_map (w := .text) (fun _ _ => rfl) 0
  cases f with
  | secretRules => exact Checked.items_map (fun r hr => secretRule_ruleValue (h r hr)) 0
  | minCodeBlocks => exact numberFrom_int _
  | skillPurposeTitles => exact titles_toList _
  | skillTriggerTitles => exact titles_toList _
  | _ => exact htexts _

end Setting

namespace Settings

open Checked Setting

variable {s : Settings} {m : Table Text Value}

/-- Every field under its name. -/
def written (s : Settings) : Table Text Value := Setting.all.map fun f => (f.name, f.write (of s f))

theorem ofValue_written (h : ∀ r ∈ s.secretRules, r.keyword.text ≠ []) :
    ofValue (.object s.written) = .ok s := by
  have hnodup : s.written.keys.Nodup := nodup_names
  refine ofEntries_eq_ok_iff.mpr ⟨fun f => ?_, rfl⟩
  have hmem : (f.name, f.write (of s f)) ∈ s.written := List.mem_map_of_mem (mem_all f)
  rw [checked, optional, Value.entry?_entries, Table.get?_eq_some_of_mem hnodup hmem]
  exact under_eq_ok_iff.mpr (read_write h f)

theorem of_eq_of_not_mem (h : ofValue (.object m) = .ok s) {f : Setting} (hf : f.name ∉ m.keys) :
    of s f = of default f := by
  have hread := (ofEntries_eq_ok_iff.mp h).1 f
  rw [checked_of_not_mem hf] at hread
  injection hread with hread
  exact hread.symm

theorem of_eq_of_mem (h : ofValue (.object m) = .ok s) (hm : m.keys.Nodup) {f : Setting} {v : Value}
    (hf : (f.name, v) ∈ m) {s' : Settings} (hv : ofValue (.object [(f.name, v)]) = .ok s') :
    of s f = of s' f := by
  have hsame : m.get? f.name = Table.get? f.name [(f.name, v)] := by
    rw [Table.get?_eq_some_of_mem hm hf, Table.get?_cons, if_pos rfl]
  have hread := (ofEntries_eq_ok_iff.mp h).1 f
  rw [checked_congr hsame, (ofEntries_eq_ok_iff.mp hv).1 f] at hread
  injection hread with hread
  exact hread.symm

/-- Settings are right just if each entry is so alone. Each field then has its default, or the value that its
entry alone gives it, and the settings are read back from what is written of them. What is wrong otherwise is
what is wrong with each entry alone, in the order of the fields, and of the entries with other keys. -/
theorem ofValue_object (h : m.keys.Nodup) :
    ((∃ s, ofValue (.object m) = .ok s) ↔ ∀ e ∈ m, ∃ s, ofValue (.object [e]) = .ok s) ∧
    (∀ s, ofValue (.object m) = .ok s →
      (∀ f : Setting, f.name ∉ m.keys → of s f = of default f) ∧
      (∀ f : Setting, ∀ v, (f.name, v) ∈ m →
        ∃ s', ofValue (.object [(f.name, v)]) = .ok s' ∧ of s f = of s' f) ∧
      ofValue (.object s.written) = .ok s) ∧
    (∀ is, ofValue (.object m) = .issues is →
      is = (inOrder m).flatMap fun e => (ofValue (.object [e])).issuesIn) ∧
    (ofValue (.object m) = .countTooLarge ↔ ∃ e ∈ m, ofValue (.object [e]) = .countTooLarge) := by
  have hverdict := verdict_ofValue_object h
  have hok : (∃ s, ofValue (.object m) = .ok s) ↔ ∀ e ∈ m, ∃ s, ofValue (.object [e]) = .ok s := by
    rw [← verdict_eq_zero_iff, hverdict, sum_eq_zero_iff, List.forall_mem_map]
    exact forall_congr' fun e => imp_congr mem_inOrder verdict_eq_zero_iff
  refine ⟨hok, fun s hs => ⟨fun f hf => of_eq_of_not_mem hs hf, fun f v hf => ?_,
    ofValue_written (text_ne_nil_of_ofValue hs)⟩, fun is his => ?_, ?_⟩
  · obtain ⟨s', hs'⟩ := hok.mp ⟨s, hs⟩ _ hf
    exact ⟨s', hs', of_eq_of_mem hs h hf hs'⟩
  · have hsum : ((inOrder m).map fun e => (ofValue (.object [e])).verdict).sum ≠ .countTooLarge := by
      rw [← hverdict, his]
      exact nofun
    have hissues := issuesIn_sum hsum
    rw [← hverdict, his, List.flatMap_map] at hissues
    refine hissues.trans (List.flatMap_congr fun e _ => issuesIn_verdict _)
  · rw [← verdict_eq_countTooLarge_iff, hverdict, sum_eq_countTooLarge_iff, List.mem_map]
    exact exists_congr fun e => and_congr mem_inOrder verdict_eq_countTooLarge_iff

def ownEntries : Table Text Value :=
  [(Field.skillPurposeTitles, .list [.text "Why".toList]), (Field.minCodeBlocks, .text " 3 ".toList),
   (Field.secretRules, .list [.object [(Field.minLength, .bool true), (Field.category, .text "key".toList),
     (Field.pattern, .text "(?:to)?ken".toList)]])]

theorem ofValue_object_ownEntries : ownEntries.keys.Nodup ∧ ∃ s, ofValue (.object ownEntries) = .ok s ∧
    s.minCodeBlocks = 3 ∧ s.sandboxModes = default.sandboxModes ∧ ofValue (.object s.written) = .ok s := by
  have hkeys : ownEntries.keys.Nodup := by decide
  obtain ⟨hok, hvalues, -⟩ := ofValue_object hkeys
  have halone : ∀ e ∈ ownEntries, ∃ s, ofValue (.object [e]) = .ok s := by
    simp only [ownEntries, List.forall_mem_cons]
    exact ⟨⟨_, rfl⟩, ⟨_, rfl⟩, ⟨_, rfl⟩, nofun⟩
  obtain ⟨s, hs⟩ := hok.mpr halone
  obtain ⟨habsent, hpresent, hwritten⟩ := hvalues s hs
  obtain ⟨s', hs', hblocks⟩ := hpresent .minCodeBlocks _ (.tail _ (.head _))
  cases hs'
  exact ⟨hkeys, s, hs, congrArg Subtype.val hblocks, habsent .sandboxModes (by decide), hwritten⟩

example : ofValue (.object [("zeal".toList, .null), (Field.sandboxModes, .int 1), (Field.minCodeBlocks, .int (-1))])
    = .issues [⟨[.field Field.minCodeBlocks], .below 0⟩, ⟨[.field Field.sandboxModes], .noList⟩,
      ⟨[.field "zeal".toList], .unknownKey⟩] := rfl

end Settings

end Onboarding
