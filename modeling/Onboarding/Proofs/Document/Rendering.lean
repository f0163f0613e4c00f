import Onboarding.Proofs.Document.Fields

namespace Onboarding.FrontMatter

/-- A value as it is to be written: as it stands, between quotes, or as a block of lines. -/
inductive Written
  | plain (value : Text)
  | quoted (q : Char) (value : Text)
  | literal (lines : List Text)
deriving DecidableEq, Repr

namespace Written

def value : Written → Text
  | .plain v => v
  | .quoted _ v => v
  | .literal ts => Text.join ['\n'] ts

def indented (t : Text) : Text := ' ' :: ' ' :: t

def lines (key : Text) : Written → List Text
  | .plain v => [key ++ ':' :: ' ' :: v]
  | .quoted q v => [key ++ ':' :: ' ' :: q :: (v ++ [q])]
  | .literal ts => (key ++ [':', ' ', '|']) :: ts.map indented

def indicators : List Text := ["|", "|-", "|+", ">", ">-", ">+"].map (·.toList)

def IsQuote (q : Char) : Prop := q = '"' ∨ q = '\''

def IsQuoted (v : Text) : Prop :=
  2 ≤ v.length ∧ (v.head? = some '"' ∨ v.head? = some '\'') ∧ v.getLast? = v.head?

/-- What can be written so. The lines of a block may be empty, but not the first and the last one. -/
def WellFormed : Written → Prop
  | .plain v => '\n' ∉ v ∧ Text.IsTrimmed v ∧ v ∉ indicators ∧ ¬ IsQuoted v
  | .quoted q v => IsQuote q ∧ '\n' ∉ v
  | .literal ts => (∀ t ∈ ts, '\n' ∉ t ∧ Text.IsTrimmed t) ∧ ts ≠ [] ∧ ts.head? ≠ some [] ∧
      ts.getLast? ≠ some []

end Written

abbrev Entry := Text × Written

structure AreEntries (es : List Entry) : Prop where
  nodup : (es.map (·.1)).Nodup
  isKey : ∀ e ∈ es, IsKey e.1
  wellFormed : ∀ e ∈ es, e.2.WellFormed

def blockLines (es : List Entry) : List Text := es.flatMap fun e => e.2.lines e.1

/-- The entries between two markers, and the body. -/
def render (es : List Entry) (body : Text) : Text :=
  Text.join ['\n'] (marker :: (blockLines es ++ [marker, body]))

section Instances

instance (key : Text) : Decidable (IsKey key) :=
  decidable_of_iff (key.head?.any isKeyStart ∧ key.tail.all isKeyChar) <| by
    cases key with
    | nil => simp [IsKey]
    | cons c name =>
        rw [List.tail_cons, List.all_eq_true]
        constructor
        · exact fun h => ⟨c, name, rfl, h.1, h.2⟩
        · rintro ⟨_, _, h, hc, hname⟩
          cases h
          exact ⟨hc, hname⟩

instance (q : Char) : Decidable (Written.IsQuote q) := inferInstanceAs (Decidable (_ ∨ _))

instance (v : Text) : Decidable (Written.IsQuoted v) := inferInstanceAs (Decidable (_ ∧ _))

instance (w : Written) : Decidable w.WellFormed :=
  match w with
  | .plain _ => inferInstanceAs (Decidable (_ ∧ _))
  | .quoted .. => inferInstanceAs (Decidable (_ ∧ _))
  | .literal _ => inferInstanceAs (Decidable (_ ∧ _))

instance (es : List Entry) : Decidable (AreEntries es) :=
  decidable_of_iff
    ((es.map (·.1)).Nodup ∧ (∀ e ∈ es, IsKey e.1) ∧ ∀ e ∈ es, e.2.WellFormed)
    ⟨fun ⟨h₁, h₂, h₃⟩ => ⟨h₁, h₂, h₃⟩, fun h => ⟨h.nodup, h.isKey, h.wellFormed⟩⟩

end Instances

variable {key rest v : Text} {ts : List Text} {q : Char}

theorem field?_entry (hkey : IsKey key) (v : Text) :
    field? (key ++ ':' :: ' ' :: v) = some (key, Text.trim v) := by
  refine field?_eq_some_iff.mpr ⟨' ' :: v, ⟨hkey, [], rfl, fun c hc => ?_, rfl⟩, ?_⟩
  · exact absurd hc List.not_mem_nil
  · exact Text.trim_cons_of_isBlank rfl v

theorem indicator?_of_not_mem (h : v ∉ Written.indicators) : indicator? v = none := by
  unfold indicator?
  split
  all_goals first | rfl | exact absurd (by decide) h

theorem indicator?_cons_of_isQuote (hq : Written.IsQuote q) (v : Text) :
    indicator? (q :: v) = none := by
  rcases hq with rfl | rfl <;> rfl

theorem unquoted_of_not_isQuoted (h : ¬ Written.IsQuoted v) : unquoted v = v := by
  cases v with
  | nil => rfl
  | cons q rest =>
      rw [unquoted, if_neg]
      intro hq
      rw [Bool.and_eq_true, Bool.or_eq_true, beq_iff_eq, beq_iff_eq, beq_iff_eq] at hq
      obtain ⟨hq, hlast⟩ := hq
      refine h ⟨?_, ?_, ?_⟩
      · cases rest with
        | nil => cases hlast
        | cons c rest => simp
      · exact hq.symm.imp (congrArg some) (congrArg some)
      · rw [List.getLast?_cons, hlast]
        rfl

theorem unquoted_between (hq : Written.IsQuote q) (v : Text) : unquoted (q :: (v ++ [q])) = v := by
  have hcond : ((q == '\'' || q == '"') && (v ++ [q]).getLast? == some q) = true := by
    rw [List.getLast?_concat]
    rcases hq with rfl | rfl <;> rfl
  rw [unquoted, if_pos hcond, List.dropLast_concat]

theorem continues_indented (t : Text) : continues (Written.indented t) = true := by
  rw [continues, Written.indented, List.head?_cons]
  exact Bool.or_true _

theorem fieldsOf_append_of_continues (h : ∀ t ∈ ts, continues t = true) (us : List Text) :
    fieldsOf (ts ++ us) = fieldsOf us := by
  induction ts with
  | nil => rfl
  | cons t ts ih =>
      rw [List.forall_mem_cons] at h
      rw [List.cons_append, fieldsOf_cons_of_none (field?_eq_none_of_continues h.1), ih h.2]

theorem isTrimmed_join {sep : Text} (h : ∀ t ∈ ts, Text.IsTrimmed t) (hne : ts ≠ []) (hhead : ts.head? ≠ some [])
    (hlast : ts.getLast? ≠ some []) : Text.IsTrimmed (Text.join sep ts) := by
  constructor
  · cases ts with
    | nil => exact absurd rfl hne
    | cons t ts =>
        have ht := (h t List.mem_cons_self).1
        rw [Text.join_cons]
        cases t with
        | nil => exact absurd rfl hhead
        | cons c t => exact ht
  · obtain ⟨front, t, rfl⟩ := (List.eq_nil_or_concat ts).resolve_left hne
    rw [List.concat_eq_append] at h hlast ⊢
    rw [List.getLast?_concat] at hlast
    have ht := (h t (List.mem_append_right _ List.mem_cons_self)).2
    obtain ⟨u, hu⟩ := Text.join_concat sep front t
    rw [hu]
    rcases List.eq_nil_or_concat t with rfl | ⟨t, c, rfl⟩
    · exact absurd rfl hlast
    · rw [List.concat_eq_append, List.getLast?_concat] at ht
      rw [List.concat_eq_append, ← List.append_assoc, List.getLast?_concat]
      exact ht

theorem dropEmptyEnd_eq (h : ts.getLast? ≠ some []) : dropEmptyEnd ts = ts := by
  rcases List.eq_nil_or_concat ts with rfl | ⟨front, t, rfl⟩
  · rfl
  · rw [List.concat_eq_append, List.getLast?_concat] at h
    have ht : t.isEmpty = false := List.isEmpty_eq_false_iff.mpr fun he => h (congrArg some he)
    rw [dropEmptyEnd, List.concat_eq_append, List.reverse_concat, List.dropWhile_cons, ht,
      if_neg Bool.false_ne_true, List.reverse_cons, List.reverse_reverse]

theorem blockValue_indented (h : (Written.literal ts).WellFormed) :
    blockValue .literal (ts.map Written.indented) = Text.join ['\n'] ts := by
  obtain ⟨hts, hne, hhead, hlast⟩ := h
  have htrim : (ts.map Written.indented).map Text.trim = ts := by
    rw [List.map_map]
    refine (List.map_congr_left fun t ht => ?_).trans (List.map_id ts)
    rw [Function.comp_apply, Written.indented, Text.trim_cons_of_isBlank rfl,
      Text.trim_cons_of_isBlank rfl, (hts t ht).2.trim_eq]
    rfl
  rw [blockValue, htrim, dropEmptyEnd_eq hlast]
  exact (isTrimmed_join (fun t ht => (hts t ht).2) hne hhead hlast).trim_eq

theorem fieldsOf_lines {w : Written} (hkey : IsKey key) (hw : w.WellFormed) {us : List Text}
    (hus : us.head?.all (!continues ·)) :
    fieldsOf (w.lines key ++ us) = (key, w.value) :: fieldsOf us := by
  cases w with
  | plain v =>
      obtain ⟨-, htrim, hind, hquoted⟩ := hw
      have hfield := field?_entry hkey v
      rw [htrim.trim_eq] at hfield
      rw [Written.lines, List.cons_append, List.nil_append, fieldsOf_cons_of_some hfield,
        indicator?_of_not_mem hind, unquoted_of_not_isQuoted hquoted, Written.value]
  | quoted q v =>
      have hfield := field?_entry hkey (q :: (v ++ [q]))
      have hq : Text.isBlank q = false := by
        rcases hw.1 with rfl | rfl <;> rfl
      rw [Text.trim_cons_concat hq hq] at hfield
      rw [Written.lines, List.cons_append, List.nil_append, fieldsOf_cons_of_some hfield,
        indicator?_cons_of_isQuote hw.1, unquoted_between hw.1, Written.value]
  | literal ts =>
      have hfield : field? (key ++ [':', ' ', '|']) = some (key, ['|']) := field?_entry hkey ['|']
      have hcont : ∀ t ∈ ts.map Written.indented, continues t = true := by
        intro t ht
        obtain ⟨u, -, rfl⟩ := List.mem_map.mp ht
        exact continues_indented u
      rw [Written.lines, List.cons_append, fieldsOf_cons_of_some hfield,
        Text.takeWhile_append_stop hcont hus, fieldsOf_append_of_continues hcont, Written.value]
      exact congrArg (fun value => (key, value) :: fieldsOf us) (blockValue_indented hw)

/-- A line that comes back as it is and does not end the front matter. -/
structure IsBlockLine (t : Text) : Prop where
  not_mem : '\n' ∉ t
  getLast?_ne : t.getLast? ≠ some '\r'
  ne_marker : t ≠ marker

theorem IsKey.not_mem {c : Char} (h : IsKey key) (hc : isKeyChar c = false) : c ∉ key := by
  intro hmem
  rw [h.all c hmem] at hc
  cases hc

theorem IsKey.append_ne_marker (h : IsKey key) (u : Text) : key ++ u ≠ marker := by
  intro he
  have hstart := h.any_head? u
  rw [he] at hstart
  revert hstart
  decide +kernel

theorem IsKey.continues_eq_false (h : IsKey key) (u : Text) : continues (key ++ u) = false := by
  obtain ⟨c, name, rfl, hc, -⟩ := h
  have hb : Text.isBlank c = false := by
    rw [Bool.eq_false_iff]
    intro hb
    have hword := isKeyChar_of_isBlank hb
    rw [isKeyChar_of_isKeyStart hc] at hword
    cases hword
  rw [continues, List.cons_append, Text.allBlank, List.all_cons, hb, List.head?_cons,
    Option.any_some, hb]
  rfl

theorem IsBlockLine.of_append (front : Text) (c : Char) {t : Text} (ht : t = front ++ c :: v)
    (hv : Text.IsTrimmed v) (hc : c ≠ '\r') (hmem : '\n' ∉ t) (hm : t ≠ marker) : IsBlockLine t :=
  ⟨hmem, ht ▸ Text.getLast?_append_cons_ne hc rfl front hv, hm⟩

theorem isBlockLine_indented {t : Text} (hmem : '\n' ∉ t) (ht : Text.IsTrimmed t) :
    IsBlockLine (Written.indented t) := by
  refine .of_append [' '] ' ' rfl ht (by decide) ?_ ?_
  · simp [Written.indented, hmem]
  · simp [Written.indented, marker]

theorem isBlockLine_of_mem {w : Written} (hkey : IsKey key) (hw : w.WellFormed) :
    ∀ t ∈ w.lines key, IsBlockLine t := by
  have hmem : '\n' ∉ key := hkey.not_mem (isKeyChar_of_isBlank rfl)
  have hnil : Text.IsTrimmed [] := ⟨rfl, rfl⟩
  cases w with
  | plain v =>
      refine List.forall_mem_singleton.mpr (.of_append (key ++ [':']) ' ' (by simp) hw.2.1
        (by decide) ?_ (hkey.append_ne_marker _))
      simp [hmem, hw.1]
  | quoted q v =>
      have hq : q ≠ '\r' ∧ q ≠ '\n' := by
        rcases hw.1 with rfl | rfl <;> decide
      refine List.forall_mem_singleton.mpr (.of_append (key ++ ':' :: ' ' :: q :: v) q (by simp) hnil
        hq.1 ?_ (hkey.append_ne_marker _))
      simp [hmem, hw.2, hq.2.symm]
  | literal ts =>
      refine List.forall_mem_cons.mpr ⟨.of_append (key ++ [':', ' ']) '|' (by simp) hnil (by decide) ?_
        (hkey.append_ne_marker _), fun t ht => ?_⟩
      · simp [hmem]
      · obtain ⟨u, hu, rfl⟩ := List.mem_map.mp ht
        exact isBlockLine_indented (hw.1 u hu).1 (hw.1 u hu).2

theorem head?_blockLines {es : List Entry} (h : ∀ e ∈ es, IsKey e.1) (us : List Text)
    (hus : us.head?.all (!continues ·)) : (blockLines es ++ us).head?.all (!continues ·) := by
  cases es with
  | nil => exact hus
  | cons e es =>
      obtain ⟨key, w⟩ := e
      have hc := (h _ List.mem_cons_self).continues_eq_false
      cases w <;> simp [blockLines, Written.lines, hc]

theorem fieldsOf_blockLines {es : List Entry} (hkey : ∀ e ∈ es, IsKey e.1)
    (hw : ∀ e ∈ es, e.2.WellFormed) :
    fieldsOf (blockLines es) = es.map fun e => (e.1, e.2.value) := by
  induction es with
  | nil => rfl
  | cons e es ih =>
      rw [List.forall_mem_cons] at hkey hw
      -- the next entry begins with its key, so that a block before it ends there
      have hhead := head?_blockLines hkey.2 [] rfl
      rw [List.append_nil] at hhead
      have hcons : blockLines (e :: es) = e.2.lines e.1 ++ blockLines es := List.flatMap_cons
      rw [hcons, fieldsOf_lines hkey.1 hw.1 hhead, ih hkey.2 hw.2, List.map_cons]

/-- What is written is read: the markers at their lines, and every key with its value. -/
theorem ofLines_render {es : List Entry} (h : AreEntries es) (body : Text) :
    ofLines (Line.index (render es body)) =
      .closed 1 (2 + (blockLines es).length) (es.map fun e => (e.1, e.2.value)) := by
  have hlines : ∀ t ∈ blockLines es, IsBlockLine t := by
    intro t ht
    obtain ⟨e, he, ht⟩ := List.mem_flatMap.mp ht
    exact isBlockLine_of_mem (h.isKey e he) (h.wellFormed e he) t ht
  have hfront : ∀ t ∈ marker :: (blockLines es ++ [marker]), '\n' ∉ t ∧ t.getLast? ≠ some '\r' := by
    have hmarker : '\n' ∉ marker ∧ marker.getLast? ≠ some '\r' := by decide
    intro t ht
    rcases List.mem_cons.mp ht with rfl | ht
    · exact hmarker
    · rcases List.mem_append.mp ht with ht | ht
      · exact ⟨(hlines t ht).not_mem, (hlines t ht).getLast?_ne⟩
      · rw [List.mem_singleton.mp ht]
        exact hmarker
  have hrender : render es body = Text.join ['\n'] ((marker :: (blockLines es ++ [marker])) ++ [body]) := by
    rw [render, List.cons_append, List.append_assoc]
    rfl
  have hblock : marker ∉ blockLines es := fun hm => (hlines marker hm).ne_marker rfl
  have hnodup : ((es.map fun e => (e.1, e.2.value)).map (·.1)).Nodup := by
    rw [List.map_map]
    exact h.nodup
  rw [hrender, Line.index_join_concat hfront, List.cons_append, List.append_assoc,
    List.singleton_append, ofLines_closed 1 hblock, fieldsOf_blockLines h.isKey h.wellFormed,
    Table.ofList_of_nodup hnodup]

def awkward : List Entry :=
  [("name".toList, .plain "a: 'b' | # c".toList), ("_x-1".toList, .quoted '"' " |\" ".toList),
    ("text".toList, .literal ["name: d".toList, [], "---".toList]), ("e".toList, .quoted '\'' []),
    ("f".toList, .plain [])]

theorem ofLines_render_awkward :
    AreEntries awkward ∧ ofLines (Line.index (render awkward "\n---\r\nname: g".toList)) =
      .closed 1 10 (awkward.map fun e => (e.1, e.2.value)) := by
  have h : AreEntries awkward := by decide +kernel
  exact ⟨h, ofLines_render h _⟩

end Onboarding.FrontMatter
