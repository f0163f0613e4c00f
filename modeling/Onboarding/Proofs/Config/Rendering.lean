import Onboarding.Config.Basic
import Onboarding.Proofs.Text.Pieces

namespace Onboarding.Config

/-- A configuration before it is written. -/
structure Source where
  topLevel : List (Text × Text)
  /-- The segments of the name of each section, and its entries. -/
  sections : List (List Text × List (Text × Text))

namespace Source

def isBare (t : Text) : Bool := !t.isEmpty && t.all Segment.isBareChar

def between (q : Char) (t : Text) : Text := q :: (t ++ [q])

/-- A text between double quotes, or between single ones if it holds a double quote. -/
def quoted (t : Text) : Text := between (if t.contains '"' then '\'' else '"') t

def keyText (key : Text) : Text := if isBare key then key else between '"' key

def segmentText (name : Text) : Text := if isBare name then name else quoted name

def entryLine (e : Text × Text) : Text := keyText e.1 ++ " = ".toList ++ quoted e.2

def headerLine (names : List Text) : Text :=
  '[' :: (Text.join ['.'] (names.map segmentText) ++ [']'])

def sectionLines (s : List Text × List (Text × Text)) : List Text :=
  headerLine s.1 :: s.2.map entryLine

def lines (d : Source) : List Text := d.topLevel.map entryLine ++ d.sections.flatMap sectionLines

def render (d : Source) : Text := Text.join ['\n'] d.lines

def config (d : Source) : Config where
  topLevel := d.topLevel
  keyLines := (d.topLevel.map (·.1)).zipIdx 1
  sections := d.sections.map fun s => (Segment.dotted s.1, s.2)

/-- No line breaks, and not quotes of both kinds. -/
def IsQuotable (t : Text) : Prop := '\n' ∉ t ∧ ¬ ('"' ∈ t ∧ '\'' ∈ t)

def IsKey (t : Text) : Prop := '\n' ∉ t ∧ '"' ∉ t

instance (t : Text) : Decidable (IsQuotable t) := inferInstanceAs (Decidable (_ ∧ _))

instance (t : Text) : Decidable (IsKey t) := inferInstanceAs (Decidable (_ ∧ _))

structure AreEntries (es : List (Text × Text)) : Prop where
  nodup : (es.map (·.1)).Nodup
  isKey : ∀ e ∈ es, IsKey e.1
  isQuotable : ∀ e ∈ es, IsQuotable e.2

instance (es : List (Text × Text)) : Decidable (AreEntries es) :=
  decidable_of_iff
    ((es.map (·.1)).Nodup ∧ (∀ e ∈ es, IsKey e.1) ∧ ∀ e ∈ es, IsQuotable e.2)
    ⟨fun ⟨h₁, h₂, h₃⟩ => ⟨h₁, h₂, h₃⟩, fun h => ⟨h.nodup, h.isKey, h.isQuotable⟩⟩

structure WellFormed (d : Source) : Prop where
  topLevel : AreEntries d.topLevel
  ne_nil : ∀ s ∈ d.sections, s.1 ≠ []
  names : ∀ s ∈ d.sections, ∀ name ∈ s.1, IsQuotable name
  entries : ∀ s ∈ d.sections, AreEntries s.2
  nodup : (d.sections.map fun s => Segment.dotted s.1).Nodup

instance (d : Source) : Decidable d.WellFormed :=
  decidable_of_iff
    (AreEntries d.topLevel ∧ (∀ s ∈ d.sections, s.1 ≠ []) ∧
      (∀ s ∈ d.sections, ∀ name ∈ s.1, IsQuotable name) ∧ (∀ s ∈ d.sections, AreEntries s.2) ∧
      (d.sections.map fun s => Segment.dotted s.1).Nodup)
    ⟨fun ⟨h₁, h₂, h₃, h₄, h₅⟩ => ⟨h₁, h₂, h₃, h₄, h₅⟩,
      fun h => ⟨h.topLevel, h.ne_nil, h.names, h.entries, h.nodup⟩⟩

end Source

end Onboarding.Config

namespace Onboarding.Segment

theorem toNat_of_isBareChar {c : Char} (h : isBareChar c = true) :
    45 ≤ c.toNat ∧ c.toNat ≤ 122 := by
  simp only [isBareChar, Text.isAsciiAlnum, Bool.or_eq_true, beq_iff_eq] at h
  rcases h with ((h | h) | rfl) | rfl
  · have := Text.toNat_of_isAsciiLetter h
    omega
  · rw [Text.isAsciiDigit, Bool.and_eq_true, decide_eq_true_eq, decide_eq_true_eq] at h
    have hlo : 48 ≤ c.toNat := h.1
    have hhi : c.toNat ≤ 57 := h.2
    omega
  · decide
  · decide

theorem isBlank_of_isBareChar {c : Char} (h : isBareChar c = true) : Text.isBlank c = false := by
  have hc := toNat_of_isBareChar h
  rw [Bool.eq_false_iff]
  intro hb
  have := Text.toNat_of_isBlank hb
  omega

theorem all_head?_of_trimLeft {t : Text} (h : (Text.trimLeft t).head?.all (!isBareChar ·)) :
    t.head?.all (!isBareChar ·) := by
  cases t with
  | nil => rfl
  | cons c t =>
      by_cases hc : isBareChar c
      · rwa [Text.trimLeft_cons_of_not (isBlank_of_isBareChar hc)] at h
      · simpa using hc

theorem ne_of_isBareChar {c d : Char} (h : isBareChar c = true) (hd : isBareChar d = false) :
    c ≠ d := by
  rintro rfl
  rw [h] at hd
  cases hd

theorem isQuote_of_isBareChar {c : Char} (h : isBareChar c = true) : isQuote c = false := by
  rw [isQuote, Bool.or_eq_false_iff, beq_eq_false_iff_ne, beq_eq_false_iff_ne]
  exact ⟨ne_of_isBareChar h (by decide), ne_of_isBareChar h (by decide)⟩

theorem isBlank_of_isQuote {c : Char} (h : isQuote c = true) : Text.isBlank c = false := by
  rw [isQuote, Bool.or_eq_true, beq_iff_eq, beq_iff_eq] at h
  rcases h with rfl | rfl <;> decide

theorem upTo?_append {q : Char} {t : Text} (h : q ∉ t) (rest : Text) :
    upTo? q (t ++ q :: rest) = some (t, rest) := by
  have ht := Text.all_ne_of_not_mem h
  have hr : (q :: rest).head?.all (fun c => !decide (c ≠ q)) := by simp
  rw [upTo?, Text.dropWhile_append_stop ht hr, Text.takeWhile_append_stop ht hr]

theorem eq_append_of_upTo? {q : Char} {t name rest : Text} (h : upTo? q t = some (name, rest)) :
    q ∉ name ∧ t = name ++ q :: rest := by
  rw [upTo?] at h
  split at h
  · cases h
  · next c behind hbehind =>
      cases h
      have hc : c = q := by simpa using Text.not_of_dropWhile_eq_cons hbehind
      have ht := List.takeWhile_append_dropWhile (p := fun d => decide (d ≠ q)) (l := t)
      rw [hbehind, hc] at ht
      refine ⟨fun hq => ?_, ht.symm⟩
      have hne := List.all_eq_true.mp List.all_takeWhile q hq
      simp at hne

theorem read?_bare {c : Char} {t rest : Text} (ht : ∀ d ∈ c :: t, isBareChar d)
    (hr : rest.head?.all (!isBareChar ·)) : read? (c :: (t ++ rest)) = some (c :: t, rest) := by
  have hc := ht c List.mem_cons_self
  rw [read?, isQuote_of_isBareChar hc, if_neg Bool.false_ne_true, if_pos hc, ← List.cons_append,
    Text.takeWhile_append_stop ht hr, Text.dropWhile_append_stop ht hr]

theorem read?_quoted {q : Char} (hq : isQuote q) {t : Text} (h : q ∉ t) (rest : Text) :
    read? (q :: (t ++ q :: rest)) = some (t, rest) := by
  rw [read?, if_pos hq, upTo?_append h]

end Onboarding.Segment

namespace Onboarding.Config.Source

open Segment (isBareChar isQuote)

theorem isBare_iff {t : Text} : isBare t ↔ ∃ c u, t = c :: u ∧ ∀ d ∈ c :: u, isBareChar d := by
  cases t with
  | nil => simp [isBare]
  | cons c u =>
      rw [isBare, List.isEmpty_cons, Bool.not_false, Bool.true_and, List.all_eq_true]
      exact ⟨fun h => ⟨c, u, rfl, h⟩, fun ⟨_, _, he, h⟩ => he ▸ h⟩

theorem quoted_eq {t : Text} (h : ¬ ('"' ∈ t ∧ '\'' ∈ t)) :
    ∃ q, isQuote q ∧ q ∉ t ∧ quoted t = q :: (t ++ [q]) := by
  by_cases hd : '"' ∈ t
  · exact ⟨'\'', rfl, fun hs => h ⟨hd, hs⟩, by rw [quoted, if_pos (List.elem_iff.mpr hd), between]⟩
  · refine ⟨'"', rfl, hd, ?_⟩
    rw [quoted, if_neg (fun he => hd (List.elem_iff.mp he)), between]

theorem key?_bare {key rest : Text} (h : isBare key) (hr : rest.head?.all (!isBareChar ·)) :
    Assignment.key? (key ++ rest) = some (key, rest) := by
  obtain ⟨c, u, rfl, hu⟩ := isBare_iff.mp h
  have hc := hu c List.mem_cons_self
  have hne : c ≠ '"' := Segment.ne_of_isBareChar hc (by decide)
  rw [List.cons_append, Assignment.key?]
  · rw [if_pos hc, ← List.cons_append, Text.takeWhile_append_stop hu hr,
      Text.dropWhile_append_stop hu hr]
  · exact hne

theorem key?_keyText {key rest : Text} (h : '"' ∉ key) (hr : rest.head?.all (!isBareChar ·)) :
    Assignment.key? (keyText key ++ rest) = some (key, rest) := by
  by_cases hb : isBare key
  · rw [keyText, if_pos hb]
    exact key?_bare hb hr
  · rw [keyText, if_neg hb, between, List.cons_append, List.append_assoc]
    exact Segment.upTo?_append h rest

theorem keyText_eq_cons (key : Text) :
    ∃ c u, keyText key = c :: u ∧ Text.isBlank c = false ∧ c ≠ '#' ∧ c ≠ '[' := by
  unfold keyText
  split
  · next hb =>
      obtain ⟨c, u, rfl, hu⟩ := isBare_iff.mp hb
      have hc := hu c List.mem_cons_self
      exact ⟨c, u, rfl, Segment.isBlank_of_isBareChar hc, Segment.ne_of_isBareChar hc (by decide),
        Segment.ne_of_isBareChar hc (by decide)⟩
  · exact ⟨'"', key ++ ['"'], rfl, by decide, by decide, by decide⟩

theorem value?_quoted {key value : Text} (h : ¬ ('"' ∈ value ∧ '\'' ∈ value)) :
    Assignment.value? ⟨key, ' ' :: quoted value⟩ = some value := by
  obtain ⟨q, hq, hn, he⟩ := quoted_eq h
  have hb := Segment.isBlank_of_isQuote hq
  have htrim : Text.trim (' ' :: q :: (value ++ [q])) = q :: (value ++ [q]) := by
    rw [Text.trim, Text.trimLeft_cons, if_pos (by decide)]
    exact Text.trim_cons_concat hb hb value
  rw [Assignment.value?, he, htrim]
  simp only [hq, if_true]
  rw [Text.takeWhile_append_stop (Text.all_ne_of_not_mem hn) (by simp)]

theorem ofText_entryLine {e : Text × Text} (hk : '"' ∉ e.1) (hv : ¬ ('"' ∈ e.2 ∧ '\'' ∈ e.2)) :
    Entry.ofText (entryLine e) = .assignment e.1 e.2 := by
  obtain ⟨c, u, hcu, hblank, hhash, hbracket⟩ := keyText_eq_cons e.1
  obtain ⟨q, hq, -, hquoted⟩ := quoted_eq hv
  have hline : entryLine e = c :: ((u ++ " = ".toList ++ q :: e.2) ++ [q]) := by
    rw [entryLine, hcu, hquoted]
    simp
  have htrim : Text.trim (entryLine e) = entryLine e := by
    rw [hline, Text.trim_cons_concat hblank (Segment.isBlank_of_isQuote hq)]
  have hcomment : isComment (entryLine e) = false := by
    simp [hline, isComment, hhash]
  have hheader : Header.name? (entryLine e) = none := by
    rw [hline, Header.name?, Header.path?, Header.parts?]
    · rfl
    · exact fun _ he => hbracket (List.cons.inj he).1
  have hassign : Assignment.ofText? (entryLine e) = some ⟨e.1, ' ' :: quoted e.2⟩ := by
    rw [Assignment.ofText?, entryLine, List.append_assoc, key?_keyText hk rfl]
    rfl
  simp only [Entry.ofText, htrim, hcomment, hheader, hassign, value?_quoted hv]
  rfl

end Onboarding.Config.Source
