import Onboarding.Proofs.Secret.Spelling

namespace Onboarding

open Keyword (IsSpelling)
open Pattern (Place)
open SecretValue (LacksSeparator isBreak)
open Text (allBlank asciiLower)

/-- What may follow a keyword: perhaps a quote, a separator with blanks around it, and a value between two
quotes of one kind. -/
structure QuotedValue where
  mark : Text
  gap : Text
  separator : Char
  space : Text
  quote : Char
  value : Text
  mark_eq : mark = [] ∨ mark = ['"'] ∨ mark = ['\'']
  gap_blank : allBlank gap = true
  separator_eq : separator = ':' ∨ separator = '='
  space_blank : allBlank space = true
  isQuote_quote : SecretValue.isQuote quote
  quote_not_mem : quote ∉ value

namespace QuotedValue

def text (q : QuotedValue) : Text :=
  q.mark ++ q.gap ++ q.separator :: (q.space ++ q.quote :: (q.value ++ [q.quote]))

end QuotedValue

namespace SecretValue

/-- Text in front of a value: there is no separator in it, and its end is none of the way to one. -/
structure IsFront (front : Text) : Prop where
  lacksSeparator : LacksSeparator front
  not_isBreak : ∀ d, front.getLast? = some d → isBreak d = false

theorem IsFront.behindKeyword?_eq_none {front left : Text} (h : IsFront (front ++ left)) (hleft : left ≠ [])
    (t : Text) : behindKeyword? (left ++ t) = none := by
  obtain ⟨init, d, rfl⟩ := (List.eq_nil_or_concat' left).resolve_left hleft
  have hd : isBreak d = false := h.not_isBreak d (by simp)
  have hseparator : behindSeparator? (init ++ [d] ++ t) = none := by
    rw [Option.eq_none_iff_forall_ne_some]
    intro u hu
    obtain ⟨link, hlink, hx⟩ := exists_isLink_of_behindSeparator? hu
    obtain ⟨x, c, space, rfl, hc, hbreaks⟩ := hlink.exists_breaks
    rw [List.append_assoc x, List.cons_append] at hx
    have hnot : d ∉ x := fun hmem => absurd (hbreaks d hmem) (by rw [hd]; exact Bool.false_ne_true)
    have hsep : c ∉ init ++ [d] := by
      have hfree := h.lacksSeparator.of_subset (List.subset_append_right front (init ++ [d]))
      rcases hc with rfl | rfl
      · exact hfree.1
      · exact hfree.2
    rcases List.append_eq_append_iff.mp hx with ⟨more, rfl, -⟩ | ⟨word, hword, hrest⟩
    · exact hnot (by simp)
    · cases word with
      | nil => exact hnot (by rw [List.append_nil] at hword; simp [← hword])
      | cons e word =>
          obtain ⟨rfl, -⟩ := List.cons.inj hrest
          exact hsep (by rw [hword]; simp)
  rw [behindKeyword?, hseparator, Option.bind_none]

/-- The way to a value begins, and the value is read with the rest left. -/
structure LeadsTo (behind value rest : Text) : Prop where
  begins : ∃ c t, behind = c :: t ∧ isBreak c
  behindKeyword?_eq : behindKeyword? behind = some (value, rest)

theorem IsLink.leadsTo {link t value rest : Text} (h : IsLink link)
    (hread : read? (Text.trimLeft t) = some (value, rest)) : LeadsTo (link ++ t) value rest where
  begins := by
    obtain ⟨way, c, space, rfl, hc, hway⟩ := h.exists_breaks
    cases way with
    | nil => exact ⟨c, space ++ t, rfl, isBreak_of_isSign hc⟩
    | cons d way => exact ⟨d, _, rfl, hway d List.mem_cons_self⟩
  behindKeyword?_eq := by rw [behindKeyword?, h.behindSeparator?_append, Option.bind_some, hread]

end SecretValue

namespace QuotedValue

variable (q : QuotedValue) (rest : Text)

theorem leadsTo : SecretValue.LeadsTo (q.text ++ rest) q.value rest := by
  have htext : q.text ++ rest =
      q.mark ++ (q.gap ++ q.separator :: q.space) ++ q.quote :: (q.value ++ q.quote :: rest) := by
    simp only [text, List.append_assoc, List.cons_append, List.nil_append]
  have hread : SecretValue.read? (Text.trimLeft (q.quote :: (q.value ++ q.quote :: rest))) = some (q.value, rest) := by
    rw [Text.trimLeft_cons_of_not (SecretValue.isBlank_of_isQuote q.isQuote_quote)]
    exact SecretValue.read?_quoted q.isQuote_quote q.quote_not_mem rest
  rw [htext]
  exact SecretValue.IsLink.leadsTo (.mk q.mark_eq q.gap_blank q.separator_eq q.space_blank) hread

end QuotedValue

namespace SecretScanner

open SecretValue (LeadsTo)

variable {k : Keyword} {spelled before word front behind rest value v : Text} {s t : Place}

theorem isFront_append (hb : LacksSeparator before) (h : IsSpelling k (asciiLower word)) :
    SecretValue.IsFront (before ++ word) where
  lacksSeparator := by
    have hword : LacksSeparator word :=
      ⟨fun hc => absurd (h.not_isBreak _ hc) (by decide), fun hc => absurd (h.not_isBreak _ hc) (by decide)⟩
    exact ⟨fun hc => (List.mem_append.mp hc).elim hb.1 hword.1,
      fun hc => (List.mem_append.mp hc).elim hb.2 hword.2⟩
  not_isBreak d hd := by
    obtain ⟨init, e, rfl⟩ := (List.eq_nil_or_concat' word).resolve_left h.ne_nil
    have he : e = d := by simpa using hd
    exact h.not_isBreak d (by simp [he])

theorem eq_of_valueAt? (hbehind : LeadsTo behind v rest) (h : IsSpelling k word)
    (hfront : SecretValue.IsFront front) (hs : s.after = front ++ behind)
    (hv : valueAt? k.pattern.expr s = some (value, t)) : value = v ∧ t.after = rest := by
  obtain ⟨matched, x, u, hmatched, hletters, hx, hu⟩ := h.exists_of_run hv
  have hbreaks := Keyword.not_isBreak_of_forall₂ hmatched.subset hletters
  have hplace : u.after = behind := by
    rw [hs, List.append_eq_append_iff] at hx
    rcases hx with ⟨more, rfl, htail⟩ | ⟨left, rfl, hleft⟩
    · obtain ⟨c, way, htext, hc⟩ := hbehind.begins
      cases more with
      | nil => exact htail.symm
      | cons d more =>
          rw [htext] at htail
          obtain ⟨rfl, -⟩ := List.cons.inj htail
          rw [hbreaks c (by simp)] at hc
          cases hc
    · by_cases hnil : left = []
      · rw [hleft, hnil, List.nil_append]
      · rw [hleft, hfront.behindKeyword?_eq_none hnil] at hu
        cases hu
  rw [hplace, hbehind.behindKeyword?_eq] at hu
  cases hu
  exact ⟨rfl, rfl⟩

theorem exists_valueAt?_eq (h : IsSpelling k spelled) (hletters : List.Forall₂ (Keyword.isLetter · ·) spelled word)
    (hs : s.after = word ++ rest) : ∃ u : Place, valueAt? k.pattern.expr s =
      (SecretValue.behindKeyword? rest).map fun x => (x.1, u.moveTo x.2) := by
  obtain ⟨u, rfl, hrun⟩ := h.exists_run_eq hletters hs fun t =>
    (SecretValue.behindKeyword? t.after).map fun x => (x.1, t.moveTo x.2)
  exact ⟨u, hrun⟩

theorem exists_valuesFrom_eq (hbehind : LeadsTo behind v rest) (h : IsSpelling k (asciiLower word))
    (hb : LacksSeparator before) (hs : s.after = before ++ (word ++ behind)) {fuel : Nat} (hf : s.after.length < fuel) :
    ∃ n u, valuesFrom k.pattern.expr fuel s = v :: valuesFrom k.pattern.expr n u ∧ u.after = rest ∧
      u.after.length < n := by
  induction fuel generalizing s before with
  | zero => omega
  | succ fuel ih =>
      rw [valuesFrom]
      cases hv : valueAt? k.pattern.expr s with
      | some found =>
          rw [← List.append_assoc] at hs
          obtain ⟨hvalue, hrest⟩ := eq_of_valueAt? hbehind h (isFront_append hb h) hs hv
          exact ⟨fuel, found.2, congrArg (· :: _) hvalue, hrest,
            Nat.lt_of_lt_of_le (reaches_of_valueAt? hv).2 (Nat.le_of_lt_succ hf)⟩
      | none =>
          cases before with
          | nil =>
              obtain ⟨u, hu⟩ := exists_valueAt?_eq h (Keyword.forall₂_asciiLower h.subset) hs
              rw [hu, hbehind.behindKeyword?_eq] at hv
              cases hv
          | cons c before =>
              have hforward : s.forward? = some (c, s.step c (before ++ (word ++ behind))) := by
                rw [Place.forward?, hs]
                rfl
              have hlength : (before ++ (word ++ behind)).length < fuel := by
                rw [hs, List.cons_append, List.length_cons] at hf
                exact Nat.lt_of_succ_lt_succ hf
              rw [hforward]
              exact ih (s := s.step c _) (hb.of_subset (List.subset_cons_self c before)) rfl hlength

theorem isLocal_of_isSpelling (h : IsSpelling k word) : k.pattern.expr.isLocal := by
  cases h <;> decide

variable {s : SecretScanner} {r : SecretRule} {l : Line} {ls : List Line} (q : QuotedValue)

theorem isReported_iff {v : Text} :
    isReported s.placeholders r v ↔ r.minLength ≤ v.length ∧ ¬s.isPlaceholder v := by
  rw [isReported, Bool.and_eq_true, decide_eq_true_eq, Bool.not_eq_true', isPlaceholder, Bool.not_eq_true]

/-- What a rule finds in a line is the value to which the first way leads, and what it finds in the rest. -/
theorem values_eq_cons (hbehind : LeadsTo behind v rest) (hb : LacksSeparator before)
    (hword : IsSpelling r.keyword (asciiLower word)) (hl : l.text = before ++ word ++ behind) :
    values r l.text = v :: values r rest := by
  rw [List.append_assoc] at hl
  obtain ⟨n, u, hvalues, rfl, hn⟩ := exists_valuesFrom_eq (s := .start l.text) hbehind hword hb hl
    (Nat.lt_succ_self _)
  exact hvalues.trans (congrArg (v :: ·) (valuesFrom_congr (isLocal_of_isSpelling hword) rfl hn
    (Nat.lt_succ_self _)))

theorem exists_values_eq (hb : LacksSeparator before) (hword : IsSpelling r.keyword (asciiLower word))
    (hl : l.text = before ++ word ++ q.text ++ rest) : ∃ n u,
      values r l.text = q.value :: valuesFrom r.keyword.pattern.expr n u ∧ u.after = rest := by
  rw [List.append_assoc _ q.text] at hl
  exact ⟨_, _, values_eq_cons (q.leadsTo rest) hb hword hl, rfl⟩

theorem eq_of_mem_matchesOf {placeholders : List Text} {m : SecretMatch} (hm : m ∈ matchesOf placeholders l r) :
    m = ⟨l.number, r.category⟩ := by
  obtain ⟨v, -, rfl⟩ := List.mem_map.mp hm
  rfl

theorem flatMap_eq_of_nodup_map {α β κ : Type} {key : α → κ} {xs : List α} {a : α}
    (hxs : (xs.map key).Nodup) (ha : a ∈ xs) {f : α → List β} (h : ∀ x ∈ xs, key x ≠ key a → f x = []) :
    xs.flatMap f = f a := by
  induction xs with
  | nil => exact absurd ha List.not_mem_nil
  | cons x xs ih =>
      rw [List.map_cons, List.nodup_cons] at hxs
      rw [List.forall_mem_cons] at h
      rw [List.flatMap_cons]
      rcases List.mem_cons.mp ha with rfl | ha
      · have hrest : xs.flatMap f = [] := List.flatMap_eq_nil_iff.mpr fun y hy =>
          h.2 y hy fun hkey => hxs.1 (hkey ▸ List.mem_map_of_mem hy)
        rw [hrest, List.append_nil]
      · have hx : f x = [] := h.1 fun hkey => hxs.1 (hkey ▸ List.mem_map_of_mem ha)
        rw [hx, List.nil_append, ih hxs.2 ha h.2]

theorem filter_scan (hl : l ∈ ls) (hls : (ls.map (·.number)).Nodup) (hr : r ∈ s.rules)
    (hrs : (s.rules.map (·.category)).Nodup) :
    (s.scan ls).filter (· = ⟨l.number, r.category⟩) = matchesOf s.placeholders l r := by
  have hline : ∀ k ∈ ls, k.number ≠ l.number →
      (s.rules.flatMap (matchesOf s.placeholders k)).filter (· = ⟨l.number, r.category⟩) = [] := by
    intro k _ hk
    refine List.filter_eq_nil_iff.mpr fun m hm => ?_
    obtain ⟨r', -, hm⟩ := List.mem_flatMap.mp hm
    rw [eq_of_mem_matchesOf hm, decide_eq_true_eq, SecretMatch.mk.injEq]
    exact fun h => hk h.1
  have hrule : ∀ r' ∈ s.rules, r'.category ≠ r.category →
      (matchesOf s.placeholders l r').filter (· = ⟨l.number, r.category⟩) = [] := by
    intro r' _ hr'
    refine List.filter_eq_nil_iff.mpr fun m hm => ?_
    rw [eq_of_mem_matchesOf hm, decide_eq_true_eq, SecretMatch.mk.injEq]
    exact fun h => hr' h.2
  rw [scan, List.filter_flatMap, flatMap_eq_of_nodup_map hls hl hline, List.filter_flatMap,
    flatMap_eq_of_nodup_map hrs hr hrule]
  exact List.filter_eq_self.mpr fun m hm => decide_eq_true (eq_of_mem_matchesOf hm)

theorem mem_scan_of_mem_matchesOf {m : SecretMatch} (hl : l ∈ ls) (hr : r ∈ s.rules)
    (hm : m ∈ matchesOf s.placeholders l r) : m ∈ s.scan ls :=
  List.mem_flatMap.mpr ⟨l, hl, List.mem_flatMap.mpr ⟨r, hr, hm⟩⟩

theorem mem_scan_iff_mem_matchesOf (hl : l ∈ ls) (hls : (ls.map (·.number)).Nodup)
    (hr : r ∈ s.rules) (hrs : (s.rules.map (·.category)).Nodup) :
    ⟨l.number, r.category⟩ ∈ s.scan ls ↔ ⟨l.number, r.category⟩ ∈ matchesOf s.placeholders l r := by
  rw [← filter_scan hl hls hr hrs, List.mem_filter]
  exact (and_iff_left (decide_eq_true rfl)).symm

/-- With a keyword of the default settings in any case, and a value between quotes behind it, the value counts
as it stands between these: if it is long enough and no placeholder, the line is reported under the category
of the rule, whatever comes behind. If no other separator follows, nothing else of the line is reported under
the rule. -/
theorem scan_quoted (hr : r ∈ s.rules) (hword : IsSpelling r.keyword (asciiLower word))
    (hbefore : LacksSeparator before) (hl : l.text = before ++ word ++ q.text ++ rest) (hls : l ∈ ls) :
    (r.minLength ≤ q.value.length ∧ ¬s.isPlaceholder q.value → ⟨l.number, r.category⟩ ∈ s.scan ls) ∧
    (LacksSeparator rest →
      matchesOf s.placeholders l r =
        (if r.minLength ≤ q.value.length ∧ ¬s.isPlaceholder q.value then [⟨l.number, r.category⟩] else []) ∧
      ((ls.map (·.number)).Nodup → (s.rules.map (·.category)).Nodup →
        (s.scan ls).filter (· = ⟨l.number, r.category⟩) = matchesOf s.placeholders l r)) := by
  obtain ⟨n, u, hvalues, hu⟩ := exists_values_eq q hbefore hword hl
  refine ⟨fun hreported => ?_, fun hrest => ⟨?_, fun hnumbers hcategories =>
    filter_scan hls hnumbers hr hcategories⟩⟩
  · have hmatch : ⟨l.number, r.category⟩ ∈ matchesOf s.placeholders l r := by
      rw [matchesOf, hvalues, List.filter_cons_of_pos (isReported_iff.mpr hreported)]
      exact List.mem_cons_self
    exact List.mem_flatMap.mpr ⟨l, hls, List.mem_flatMap.mpr ⟨r, hr, hmatch⟩⟩
  · rw [matchesOf, hvalues, valuesFrom_of_lacksSeparator _ _ (hu ▸ hrest)]
    split
    · next hreported => rw [List.filter_cons_of_pos (isReported_iff.mpr hreported)]; rfl
    · next hnot => rw [List.filter_cons_of_neg fun h => hnot (isReported_iff.mp h)]; rfl

def nestedValue : QuotedValue where
  mark := ['"']
  gap := ['\t']
  separator := ':'
  space := [' ']
  quote := '\x60'
  value := "password=\"a:b'".toList
  mark_eq := by decide
  gap_blank := by decide
  separator_eq := by decide
  space_blank := by decide
  isQuote_quote := by decide
  quote_not_mem := by decide

def nestedLine : Line :=
  ⟨1, "use the \"tokens\" of ".toList ++ "ApI_kEy".toList ++ nestedValue.text ++ " or a token".toList⟩

theorem apiKey_ne_nil : "api_key".toList ≠ [] := by decide

theorem scan_quoted_nested :
    Settings.defaultRule "api_key".toList .apiKey apiKey_ne_nil ∈ default.rules ∧
      IsSpelling .apiKey (asciiLower "ApI_kEy".toList) ∧ LacksSeparator "use the \"tokens\" of ".toList ∧
      LacksSeparator " or a token".toList ∧ ⟨1, "api_key".toList⟩ ∈ default.scan [nestedLine] ∧
      (default.scan [nestedLine]).filter (· = ⟨1, "api_key".toList⟩) = [⟨1, "api_key".toList⟩] := by
  have hr : Settings.defaultRule "api_key".toList .apiKey apiKey_ne_nil ∈ default.rules := List.mem_cons_self
  have hword : IsSpelling .apiKey (asciiLower "ApI_kEy".toList) := .apiKeySign
  have hbefore : LacksSeparator "use the \"tokens\" of ".toList := ⟨by decide, by decide⟩
  have hrest : LacksSeparator " or a token".toList := ⟨by decide, by decide⟩
  have hreported : 8 ≤ nestedValue.value.length ∧ ¬default.isPlaceholder nestedValue.value := by
    decide +kernel
  obtain ⟨hmem, hone⟩ := scan_quoted nestedValue hr hword hbefore (l := nestedLine) rfl List.mem_cons_self
  obtain ⟨hmatches, hfilter⟩ := hone hrest
  refine ⟨hr, hword, hbefore, hrest, hmem hreported, ?_⟩
  exact (hfilter (by decide) (by decide)).trans (hmatches.trans (if_pos hreported))

end SecretScanner

end Onboarding
