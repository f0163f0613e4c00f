import Onboarding.Proofs.Text.Numerals
import Onboarding.Proofs.Text.Pieces
import Onboarding.Report

namespace Onboarding

namespace Diagnostic

variable {d d' : Diagnostic} {ds ds' : List Diagnostic} {rest rest' : List Text}

/-- A message and maybe a suggestion, each in a line of its own. The message does not begin as a location does. -/
structure IsPlain (d : Diagnostic) : Prop where
  message_line : '\n' ∉ d.message
  message_start : ¬ "[line ".toList <+: d.message
  suggestion_line : ∀ s ∈ d.suggestion, '\n' ∉ s
  suggestion_ne_nil : d.suggestion ≠ some []

instance (d : Diagnostic) : Decidable d.IsPlain :=
  decidable_of_iff ('\n' ∉ d.message ∧ ¬ "[line ".toList <+: d.message ∧ (∀ s ∈ d.suggestion, '\n' ∉ s) ∧
      d.suggestion ≠ some [])
    ⟨fun ⟨hline, hstart, hs, hne⟩ => ⟨hline, hstart, hs, hne⟩,
      fun h => ⟨h.message_line, h.message_start, h.suggestion_line, h.suggestion_ne_nil⟩⟩

theorem location_some (n : Int) : location (some n) = "[line ".toList ++ (Text.ofInt n ++ "] ".toList) := rfl

theorem location_some_append (n : Int) (t : Text) :
    location (some n) ++ t = "[line ".toList ++ (Text.ofInt n ++ ']' :: ' ' :: t) := by
  rw [location_some, List.append_assoc, List.append_assoc]
  rfl

theorem location_start (n : Int) (t : Text) : "[line ".toList <+: location (some n) ++ t := by
  rw [location_some_append]
  exact List.prefix_append _ _

theorem IsPlain.toText_inj (h : d.IsPlain) (h' : d'.IsPlain) (he : d.toText = d'.toText) :
    d.line = d'.line ∧ d.message = d'.message := by
  rw [toText, toText] at he
  cases hline : d.line with
  | none =>
      cases hline' : d'.line with
      | none =>
          rw [hline, hline'] at he
          exact ⟨rfl, he⟩
      | some n =>
          rw [hline, hline'] at he
          have hmessage : d.message = location (some n) ++ d'.message := he
          exact absurd (hmessage ▸ location_start n d'.message) h.message_start
  | some m =>
      cases hline' : d'.line with
      | none =>
          rw [hline, hline'] at he
          have hmessage : location (some m) ++ d.message = d'.message := he
          exact absurd (hmessage ▸ location_start m d.message) h'.message_start
      | some n =>
          have hbracket (k : Int) : ']' ∉ Text.ofInt k := Text.not_mem_ofInt rfl (by decide) k
          rw [hline, hline', location_some_append, location_some_append] at he
          obtain ⟨hnumber, hmessage⟩ :=
            Text.append_cons_inj (hbracket m) (hbracket n) (List.append_cancel_left he)
          exact ⟨congrArg some (Text.ofInt_injective hnumber), (List.cons.inj hmessage).2⟩

def suggestionLine (s : Text) : Text := "      Suggestion: ".toList ++ s

theorem IsPlain.entry_eq (h : d.IsPlain) :
    d.entry = ("    - ".toList ++ d.toText) :: d.suggestion.toList.map suggestionLine := by
  rw [entry]
  cases hs : d.suggestion with
  | none => rfl
  | some s =>
      cases s with
      | nil => exact absurd hs h.suggestion_ne_nil
      | cons c s => rfl

/-- The line next to an entry is no suggestion, so that it does not belong to the entry. -/
def EndsEntry (rest : List Text) : Prop := ∀ s, rest.head? ≠ some (suggestionLine s)

def EndsBlock (rest : List Text) : Prop := ∀ t ∈ rest.head?, t = []

theorem suggestion_append_inj {s s' : Option Text} (hr : EndsEntry rest) (hr' : EndsEntry rest')
    (he : s.toList.map suggestionLine ++ rest = s'.toList.map suggestionLine ++ rest') : s = s' ∧ rest = rest' := by
  cases s with
  | none =>
      cases s' with
      | none => exact ⟨rfl, he⟩
      | some t' => exact absurd (congrArg List.head? he) (hr t')
  | some t =>
      cases s' with
      | none => exact absurd (congrArg List.head? he.symm) (hr' t)
      | some t' =>
          obtain ⟨hline, hrest⟩ := List.cons.inj he
          exact ⟨congrArg some (List.append_cancel_left hline), hrest⟩

theorem IsPlain.entry_append_inj (h : d.IsPlain) (h' : d'.IsPlain) (hr : EndsEntry rest) (hr' : EndsEntry rest')
    (he : d.entry ++ rest = d'.entry ++ rest') : d = d' ∧ rest = rest' := by
  rw [h.entry_eq, h'.entry_eq, List.cons_append, List.cons_append] at he
  obtain ⟨hfirst, hbehind⟩ := List.cons.inj he
  obtain ⟨hline, hmessage⟩ := h.toText_inj h' (List.append_cancel_left hfirst)
  obtain ⟨hsuggestion, hrest⟩ := suggestion_append_inj hr hr' hbehind
  refine ⟨?_, hrest⟩
  cases d
  cases d'
  rw [Diagnostic.mk.injEq]
  exact ⟨hmessage, hline, hsuggestion⟩

theorem IsPlain.endsEntry_append (h : d.IsPlain) (rest : List Text) : EndsEntry (d.entry ++ rest) := by
  intro s hs
  rw [h.entry_eq] at hs
  -- the fifth character is a hyphen on the one side and a blank on the other
  cases hs

theorem EndsBlock.endsEntry (h : EndsBlock rest) : EndsEntry rest := by
  intro s hs
  have hempty : suggestionLine s = [] := h _ hs
  cases hempty

theorem endsEntry_flatMap_append (h : ∀ d ∈ ds, d.IsPlain) (hr : EndsBlock rest) :
    EndsEntry (ds.flatMap entry ++ rest) := by
  cases ds with
  | nil => exact hr.endsEntry
  | cons d ds =>
      rw [List.flatMap_cons, List.append_assoc]
      exact (h d List.mem_cons_self).endsEntry_append _

theorem EndsBlock.ne_entry_append (hr : EndsBlock rest) (h : d.IsPlain) (more : List Text) :
    rest ≠ d.entry ++ more := by
  rintro rfl
  rw [h.entry_eq] at hr
  have hempty : "    - ".toList ++ d.toText = [] := hr _ rfl
  cases hempty

/-- Entry for entry, as none of them takes in a line of the next one. -/
theorem flatMap_entry_append_inj (h : ∀ d ∈ ds, d.IsPlain) (h' : ∀ d ∈ ds', d.IsPlain) (hr : EndsBlock rest)
    (hr' : EndsBlock rest') (he : ds.flatMap entry ++ rest = ds'.flatMap entry ++ rest') : ds = ds' ∧ rest = rest' := by
  induction ds generalizing ds' with
  | nil =>
      cases ds' with
      | nil => exact ⟨rfl, he⟩
      | cons d' ds' =>
          rw [List.flatMap_cons, List.append_assoc] at he
          exact absurd he (hr.ne_entry_append (h' d' List.mem_cons_self) _)
  | cons d ds ih =>
      cases ds' with
      | nil =>
          rw [List.flatMap_cons, List.append_assoc] at he
          exact absurd he.symm (hr'.ne_entry_append (h d List.mem_cons_self) _)
      | cons d' ds' =>
          rw [List.forall_mem_cons] at h h'
          rw [List.flatMap_cons, List.flatMap_cons, List.append_assoc, List.append_assoc] at he
          obtain ⟨rfl, hbehind⟩ := h.1.entry_append_inj h'.1 (endsEntry_flatMap_append h.2 hr)
            (endsEntry_flatMap_append h'.2 hr') he
          obtain ⟨rfl, hrest⟩ := ih h.2 h'.2 hbehind
          exact ⟨rfl, hrest⟩

theorem newline_not_mem_location (line : Option Int) : '\n' ∉ location line := by
  cases line with
  | none => exact List.not_mem_nil
  | some n =>
      have hnumber : '\n' ∉ Text.ofInt n := Text.not_mem_ofInt rfl (by decide) n
      rw [location_some]
      exact List.not_mem_append (by decide) (List.not_mem_append hnumber (by decide))

theorem IsPlain.newline_not_mem (h : d.IsPlain) : ∀ t ∈ d.entry, '\n' ∉ t := by
  rw [h.entry_eq, List.forall_mem_cons]
  constructor
  · exact List.not_mem_append (by decide) (List.not_mem_append (newline_not_mem_location d.line) h.message_line)
  · intro t ht
    obtain ⟨s, hs, rfl⟩ := List.mem_map.mp ht
    exact List.not_mem_append (by decide) (h.suggestion_line s (Option.mem_toList.mp hs))

end Diagnostic

namespace Report

open Diagnostic (EndsBlock entry)

variable {r r' : Report} {ds ds' : List Diagnostic} {title : Text} {rest rest' : List Text}

structure IsPlain (r : Report) : Prop where
  errors : ∀ d ∈ r.errors, d.IsPlain
  warnings : ∀ d ∈ r.warnings, d.IsPlain

instance (r : Report) : Decidable r.IsPlain :=
  decidable_of_iff ((∀ d ∈ r.errors, d.IsPlain) ∧ ∀ d ∈ r.warnings, d.IsPlain)
    ⟨fun ⟨herrors, hwarnings⟩ => ⟨herrors, hwarnings⟩, fun h => ⟨h.errors, h.warnings⟩⟩

def blockLines (title : Text) (ds : List Diagnostic) : List Text :=
  if ds.isEmpty then [] else [] :: title :: ds.flatMap entry

theorem flatMap_splitOn_block (ht : '\n' ∉ title) (h : ∀ d ∈ ds, d.IsPlain) :
    (block title ds).flatMap (Text.splitOn '\n') = blockLines title ds := by
  have hentries : ∀ t ∈ ds.flatMap entry, '\n' ∉ t := by
    intro t hmem
    obtain ⟨d, hd, hentry⟩ := List.mem_flatMap.mp hmem
    exact (h d hd).newline_not_mem t hentry
  rw [block, blockLines]
  split
  · rfl
  · rw [List.flatMap_cons, Text.flatMap_splitOn hentries, Text.splitOn, if_pos rfl, Text.splitOn_of_not_mem ht]
    rfl

theorem headline_eq (r : Report) :
    r.headline = "Validation ".toList ++ if r.isValid then "PASSED".toList else "FAILED".toList := rfl

theorem isValid_eq_of_headline_eq (h : r.headline = r'.headline) : r.isValid = r'.isValid := by
  rw [headline_eq, headline_eq] at h
  have hverdict := List.append_cancel_left h
  cases hr : r.isValid with
  | true =>
      cases hr' : r'.isValid with
      | true => rfl
      | false =>
          rw [hr, hr'] at hverdict
          exact absurd hverdict (by decide)
  | false =>
      cases hr' : r'.isValid with
      | true =>
          rw [hr, hr'] at hverdict
          exact absurd hverdict (by decide)
      | false => rfl

theorem newline_not_mem_headline (r : Report) : '\n' ∉ r.headline := by
  rw [headline_eq]
  split
  · decide
  · decide

theorem newline_not_mem_totals (r : Report) : '\n' ∉ r.totals := by
  have hnumber (n : Nat) : '\n' ∉ Text.ofNat n := Text.not_mem_ofInt rfl (by decide) n
  exact List.not_mem_append (List.not_mem_append (List.not_mem_append (by decide) (hnumber _)) (by decide)) (hnumber _)

theorem IsPlain.splitOn_summary (h : r.IsPlain) : Text.splitOn '\n' r.summary =
    r.headline :: r.totals :: (blockLines "  Errors:".toList r.errors ++ blockLines "  Warnings:".toList r.warnings) := by
  rw [summary, List.append_assoc, List.cons_append, Text.splitOn_join_cons,
    Text.splitOn_of_not_mem r.newline_not_mem_headline, List.flatMap_append, List.flatMap_append,
    flatMap_splitOn_block (by decide) h.errors, flatMap_splitOn_block (by decide) h.warnings, List.flatMap_singleton,
    Text.splitOn_of_not_mem r.newline_not_mem_totals]
  rfl

theorem endsBlock_nil : EndsBlock [] := nofun

theorem endsBlock_blockLines (title : Text) (ds : List Diagnostic) : EndsBlock (blockLines title ds) := by
  rw [blockLines]
  split
  · exact endsBlock_nil
  · rintro t ⟨⟩
    rfl

theorem isEmpty_blockLines (title : Text) (ds : List Diagnostic) : (blockLines title ds).isEmpty = ds.isEmpty := by
  cases ds <;> rfl

theorem blockLines_append_inj (h : ∀ d ∈ ds, d.IsPlain) (h' : ∀ d ∈ ds', d.IsPlain) (hr : EndsBlock rest)
    (hr' : EndsBlock rest') (hempty : ds.isEmpty = ds'.isEmpty)
    (he : blockLines title ds ++ rest = blockLines title ds' ++ rest') : ds = ds' ∧ rest = rest' := by
  rw [blockLines, blockLines, ← hempty] at he
  split at he
  · next hds =>
      rw [hds] at hempty
      rw [List.isEmpty_iff.mp hds, List.isEmpty_iff.mp hempty.symm]
      exact ⟨rfl, he⟩
  · exact Diagnostic.flatMap_entry_append_inj h h' hr hr' (List.cons.inj (List.cons.inj he).2).2

/-- Nothing is lost in a summary: where every message and every suggestion is a line, and no message begins as a
location does, there is one report with that summary. -/
theorem eq_of_summary_eq (h : r.IsPlain) (h' : r'.IsPlain) (he : r.summary = r'.summary) : r = r' := by
  have hlines := congrArg (Text.splitOn '\n') he
  rw [h.splitOn_summary, h'.splitOn_summary] at hlines
  obtain ⟨hheadline, hbehind⟩ := List.cons.inj hlines
  obtain ⟨-, hblocks⟩ := List.cons.inj hbehind
  obtain ⟨herrors, hblock⟩ := blockLines_append_inj h.errors h'.errors (endsBlock_blockLines _ _)
    (endsBlock_blockLines _ _) (isValid_eq_of_headline_eq hheadline) hblocks
  have hempty : r.warnings.isEmpty = r'.warnings.isEmpty := by
    rw [← isEmpty_blockLines, hblock, isEmpty_blockLines]
  obtain ⟨hwarnings, -⟩ := blockLines_append_inj h.warnings h'.warnings endsBlock_nil endsBlock_nil hempty
    (congrArg (· ++ []) hblock)
  cases r
  cases r'
  rw [Report.mk.injEq]
  exact ⟨herrors, hwarnings⟩

def lookalikes : Report where
  errors := [⟨"  Warnings:".toList, some (-3), some "    - [line 1] x".toList⟩, ⟨[], none, none⟩]
  warnings := [⟨"[line".toList, none, some "      Suggestion: ".toList⟩]

def collected : Report :=
  (((({} : Report).addError ⟨"  Warnings:".toList, some (-3), some "    - [line 1] x".toList⟩).addWarning
    ⟨"[line".toList, none, some "      Suggestion: ".toList⟩).addError ⟨[], none, none⟩)

theorem eq_of_summary_eq_lookalikes : lookalikes.IsPlain ∧ collected.IsPlain ∧
    lookalikes.summary = collected.summary ∧ lookalikes = collected := by
  have hplain : lookalikes.IsPlain := by decide
  have hplain' : collected.IsPlain := by decide
  have hsummary : lookalikes.summary = collected.summary := rfl
  exact ⟨hplain, hplain', hsummary, eq_of_summary_eq hplain hplain' hsummary⟩

end Report

end Onboarding
