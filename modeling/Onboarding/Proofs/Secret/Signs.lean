import Onboarding.Proofs.Secret.Quoted

namespace Onboarding

open Keyword (IsSpelling)
open SecretValue (LacksSeparator LeadsTo isBareChar isBreak isQuote)
open Text (allBlank asciiLower isBlank trimLeft)

namespace SecretValue

variable {c : Char}

def isSign (c : Char) : Bool := c == ':' || c == '='

/-- What a text goes on with behind its first sign and the blanks around that. -/
def behindSign (run : Text) : Text := trimLeft (trimLeft run).tail

theorem isSign_iff : isSign c ↔ c = ':' ∨ c = '=' := by
  rw [isSign, Bool.or_eq_true, beq_iff_eq, beq_iff_eq]

theorem not_isBlank_of_isSign (h : isSign c) : isBlank c = false := isBlank_of_isSign (isSign_iff.mp h)

theorem isBareChar_of_isSign (h : isSign c) : isBareChar c := by
  rcases isSign_iff.mp h with rfl | rfl <;> decide

theorem countP_isSign_of_allBlank {gap : Text} (h : allBlank gap = true) : gap.countP isSign = 0 := by
  rw [List.countP_eq_zero]
  intro c hc hsign
  have hblank : isBlank c = true := List.all_eq_true.mp h c hc
  rw [not_isBlank_of_isSign hsign] at hblank
  cases hblank

end SecretValue

open SecretValue (behindSign isSign)

/-- What may follow a keyword: perhaps a quote, colons and equals signs with blanks around them, and a value between
two quotes of one kind. -/
structure SignedValue where
  mark : Text
  run : Text
  quote : Char
  value : Text
  mark_eq : mark = [] ∨ mark = ['"'] ∨ mark = ['\'']
  run_made : run.all fun c => isBlank c || isSign c
  run_any : run.any isSign
  isQuote_quote : isQuote quote
  quote_not_mem : quote ∉ value

namespace SignedValue

variable (q : SignedValue) (rest : Text) {c : Char}

def text : Text := q.mark ++ q.run ++ q.quote :: (q.value ++ [q.quote])

def moreSigns : Text := (behindSign q.run).takeWhile isSign

def left : Text := (behindSign q.run).dropWhile isSign

def quoted : Text := q.quote :: (q.value ++ q.quote :: rest)

theorem isBlank_or_isSign (hc : c ∈ q.run) : isBlank c ∨ isSign c := by
  rw [← Bool.or_eq_true]
  exact List.all_eq_true.mp q.run_made c hc

theorem isSign_of_not_isBlank (hc : c ∈ q.run) (h : isBlank c = false) : isSign c :=
  (q.isBlank_or_isSign hc).resolve_left (by rw [h]; exact Bool.false_ne_true)

theorem behindSign_sublist : (behindSign q.run).Sublist q.run :=
  (List.dropWhile_sublist _).trans ((List.tail_sublist _).trans (List.dropWhile_sublist _))

theorem left_sublist : q.left.Sublist q.run := (List.dropWhile_sublist _).trans q.behindSign_sublist

theorem isBreak_of_mem_left (hc : c ∈ q.left) : isBreak c :=
  (q.isBlank_or_isSign (q.left_sublist.subset hc)).elim SecretValue.isBreak_of_isBlank fun h =>
    SecretValue.isBreak_of_isSign (SecretValue.isSign_iff.mp h)

theorem exists_parts : ∃ gap c space, q.run = gap ++ c :: (space ++ behindSign q.run) ∧
    allBlank gap = true ∧ isSign c ∧ allBlank space = true := by
  obtain ⟨gap, hgap, hrun⟩ := Text.exists_eq_append_trimLeft q.run
  cases ht : trimLeft q.run with
  | nil =>
      have hnone := SecretValue.countP_isSign_of_allBlank (Text.trimLeft_eq_nil_iff.mp ht)
      obtain ⟨c, hc, hsign⟩ := List.any_eq_true.mp q.run_any
      exact absurd hsign (List.countP_eq_zero.mp hnone c hc)
  | cons c tail =>
      have hmem : c ∈ q.run := by
        rw [hrun, ht]
        exact List.mem_append_right gap List.mem_cons_self
      obtain ⟨space, hspace, htail⟩ := Text.exists_eq_append_trimLeft tail
      refine ⟨gap, c, space, ?_, hgap, q.isSign_of_not_isBlank hmem (Text.not_of_dropWhile_eq_cons ht), hspace⟩
      rw [behindSign, ht, List.tail_cons, ← htail, ← ht]
      exact hrun

theorem behindSign_cases : behindSign q.run = [] ∨ ∃ c t, behindSign q.run = c :: t ∧ isSign c := by
  cases h : behindSign q.run with
  | nil => exact .inl rfl
  | cons c t =>
      have hmem : c ∈ q.run := q.behindSign_sublist.subset (h ▸ List.mem_cons_self)
      exact .inr ⟨c, t, rfl, q.isSign_of_not_isBlank hmem (Text.not_of_dropWhile_eq_cons h)⟩

theorem countP_run : q.run.countP isSign = 1 + (behindSign q.run).countP isSign := by
  obtain ⟨gap, c, space, hrun, hgap, hc, hspace⟩ := q.exists_parts
  have hcount := congrArg (List.countP isSign) hrun
  rw [List.countP_append, List.countP_cons_of_pos hc, List.countP_append,
    SecretValue.countP_isSign_of_allBlank hgap, SecretValue.countP_isSign_of_allBlank hspace] at hcount
  omega

theorem countP_run_eq_one_iff : q.run.countP isSign = 1 ↔ behindSign q.run = [] := by
  rw [q.countP_run]
  rcases q.behindSign_cases with h | ⟨c, t, h, hc⟩
  · rw [h]
    exact iff_of_true rfl rfl
  · rw [h, List.countP_cons_of_pos hc]
    exact iff_of_false (by omega) (List.cons_ne_nil c t)

theorem leadsTo_of_read? {value left : Text}
    (hread : SecretValue.read? (trimLeft (behindSign q.run ++ q.quoted rest)) = some (value, left)) :
    LeadsTo (q.text ++ rest) value left := by
  obtain ⟨gap, c, space, hrun, hgap, hc, hspace⟩ := q.exists_parts
  have htext : q.text ++ rest =
      q.mark ++ (gap ++ c :: space) ++ (behindSign q.run ++ q.quoted rest) := by
    conv_lhs => rw [text, hrun]
    simp only [quoted, List.append_assoc, List.cons_append, List.nil_append]
  rw [htext]
  exact SecretValue.IsLink.leadsTo (.mk q.mark_eq hgap (SecretValue.isSign_iff.mp hc) hspace) hread

theorem leadsTo_value (h : q.run.countP isSign = 1) : LeadsTo (q.text ++ rest) q.value rest := by
  apply q.leadsTo_of_read?
  rw [q.countP_run_eq_one_iff.mp h, List.nil_append, quoted,
    Text.trimLeft_cons_of_not (SecretValue.isBlank_of_isQuote q.isQuote_quote)]
  exact SecretValue.read?_quoted q.isQuote_quote q.quote_not_mem rest

theorem exists_moreSigns_cons (h : q.run.countP isSign ≠ 1) : ∃ c t, q.moreSigns = c :: t ∧ isSign c := by
  rw [Ne, q.countP_run_eq_one_iff] at h
  obtain ⟨c, t, ht, hc⟩ := q.behindSign_cases.resolve_left h
  exact ⟨c, t.takeWhile isSign, by rw [moreSigns, ht, List.takeWhile_cons_of_pos hc], hc⟩

theorem lacksSeparator_quoted {rest : Text} (hvalue : LacksSeparator q.value) (hrest : LacksSeparator rest) :
    LacksSeparator (q.quoted rest) := by
  have hquote : ∀ c, isSign c → c ≠ q.quote := by
    rintro c hc rfl
    have hbare := SecretValue.isBareChar_of_isSign hc
    rw [SecretValue.not_isBareChar_of_isQuote q.isQuote_quote] at hbare
    cases hbare
  have hfree : ∀ c, isSign c → c ∉ q.value → c ∉ rest → c ∉ q.quoted rest := by
    intro c hc hv hr
    simp only [quoted, List.mem_cons, List.mem_append, not_or]
    exact ⟨hquote c hc, hv, hquote c hc, hr⟩
  exact ⟨hfree ':' rfl hvalue.1 hrest.1, hfree '=' rfl hvalue.2 hrest.2⟩

theorem leadsTo_moreSigns (h : q.run.countP isSign ≠ 1) :
    LeadsTo (q.text ++ rest) q.moreSigns (q.left ++ q.quoted rest) := by
  obtain ⟨c, t, ht, hc⟩ := q.exists_moreSigns_cons h
  have hparts : behindSign q.run = q.moreSigns ++ q.left := List.takeWhile_append_dropWhile.symm
  have hne : q.moreSigns ≠ [] := ht ▸ List.cons_ne_nil c t
  have hbare : ∀ d ∈ q.moreSigns, isBareChar d := fun d hd =>
    SecretValue.isBareChar_of_isSign (List.all_eq_true.mp List.all_takeWhile d hd)
  have hstop : (q.left ++ q.quoted rest).head?.all (!isBareChar ·) := by
    cases hleft : q.left with
    | nil => exact congrArg (!·) (SecretValue.not_isBareChar_of_isQuote q.isQuote_quote)
    | cons d left =>
        have hd : isSign d = false := Text.not_of_dropWhile_eq_cons hleft
        have hmem : d ∈ q.run := q.left_sublist.subset (hleft ▸ List.mem_cons_self)
        have hblank : isBlank d = true :=
          (q.isBlank_or_isSign hmem).resolve_right (by rw [hd]; exact Bool.false_ne_true)
        exact congrArg (!·) (SecretValue.not_isBareChar_of_isBlank hblank)
  apply q.leadsTo_of_read?
  have htrim : trimLeft (q.moreSigns ++ (q.left ++ q.quoted rest)) = q.moreSigns ++ (q.left ++ q.quoted rest) := by
    rw [ht]
    exact Text.trimLeft_cons_of_not (SecretValue.not_isBlank_of_isSign hc) _
  rw [hparts, List.append_assoc, htrim]
  exact SecretValue.read?_bare hne hbare hstop

end SignedValue

theorem Text.head?_lower_of_isSign {c : Char} (h : isSign c) (t : Text) : (lower (c :: t)).head? = some c := by
  rcases SecretValue.isSign_iff.mp h with rfl | rfl <;> rfl

theorem Placeholder.hasShape_of_isSign {c : Char} (h : isSign c) (t : Text) : hasShape (c :: t) = false := by
  have hline : line (c :: t) = c :: line t := by
    apply Text.dropEnd_cons_of_ne
    rintro rfl
    cases h
  rw [hasShape, hline]
  rcases SecretValue.isSign_iff.mp h with rfl | rfl <;> rfl

namespace SecretScanner

variable {r : SecretRule} {l : Line} {ls : List Line} {before word t : Text} {c : Char}

theorem not_isPlaceholder_of_isSign (h : isSign c) (t : Text) : ¬ default.isPlaceholder (c :: t) := by
  have hlisted : ∀ p ∈ default.placeholders, (Text.lower p).head? ≠ some ':' ∧ (Text.lower p).head? ≠ some '=' := by
    decide +kernel
  rw [isPlaceholder, Placeholder.isPlaceholder, Placeholder.hasShape_of_isSign h, Bool.or_false,
    List.contains_iff_mem, List.mem_map]
  rintro ⟨p, hp, hlower⟩
  have hhead := Text.head?_lower_of_isSign h t
  rw [← hlower] at hhead
  rcases SecretValue.isSign_iff.mp h with rfl | rfl
  · exact (hlisted p hp).1 hhead
  · exact (hlisted p hp).2 hhead

theorem minLength_of_mem_default (hr : r ∈ default.rules) : r.minLength = 8 :=
  (by decide : ∀ r ∈ default.rules, r.minLength = 8) r hr

theorem isReported_default_iff {v : Text} (hr : r ∈ default.rules) :
    isReported default.placeholders r v ↔ 8 ≤ v.length ∧ ¬ default.isPlaceholder v := by
  rw [isReported_iff (s := default), minLength_of_mem_default hr]

theorem values_cons_of_isBreak (hk : IsSpelling r.keyword word) (hc : isBreak c) (t : Text) :
    values r (c :: t) = values r t := by
  have hnone : valueAt? r.keyword.pattern.expr (.start (c :: t)) = none := by
    rw [Option.eq_none_iff_forall_ne_some]
    intro found hv
    obtain ⟨matched, x, u, hmatched, hletters, hx, -⟩ := hk.exists_of_run hv
    have hbreaks := Keyword.not_isBreak_of_forall₂ hmatched.subset hletters
    cases hletters with
    | nil => exact hmatched.ne_nil rfl
    | cons _ _ =>
        obtain ⟨rfl, -⟩ := List.cons.inj hx
        rw [hbreaks c List.mem_cons_self] at hc
        cases hc
  rw [values, List.length_cons, valuesFrom, hnone]
  exact valuesFrom_congr (isLocal_of_isSpelling hk) rfl (Nat.lt_succ_self _) (Nat.lt_succ_self _)

theorem values_append_of_isBreak (hk : IsSpelling r.keyword word) {way : Text} (hway : ∀ c ∈ way, isBreak c)
    (t : Text) : values r (way ++ t) = values r t := by
  induction way with
  | nil => rfl
  | cons c way ih =>
      rw [List.forall_mem_cons] at hway
      exact (values_cons_of_isBreak hk hway.1 _).trans (ih hway.2)

variable (q : SignedValue) {rest : Text}

theorem matchesOf_cons {placeholders : List Text} {v : Text} (h : values r l.text = v :: values r t) :
    matchesOf placeholders l r = (if isReported placeholders r v then [⟨l.number, r.category⟩] else []) ++
      matchesOf placeholders ⟨l.number, t⟩ r := by
  rw [matchesOf, h, List.filter_cons]
  split <;> rfl

/-- With more than one sign, a rule reports the signs if they are enough to be taken for a credential, and then
whatever it reports on the text from the quote on. -/
theorem matchesOf_of_moreSigns (hr : r ∈ default.rules) (hword : IsSpelling r.keyword (asciiLower word))
    (hbefore : LacksSeparator before) (hl : l.text = before ++ word ++ (q.text ++ rest))
    (h : q.run.countP isSign ≠ 1) : matchesOf default.placeholders l r =
      (if 8 ≤ q.moreSigns.length then [⟨l.number, r.category⟩] else []) ++
        matchesOf default.placeholders ⟨l.number, q.quoted rest⟩ r := by
  have hvalues := values_eq_cons (q.leadsTo_moreSigns rest h) hbefore hword hl
  rw [values_append_of_isBreak hword fun c hc => q.isBreak_of_mem_left hc] at hvalues
  have hreported : isReported default.placeholders r q.moreSigns = true ↔ 8 ≤ q.moreSigns.length := by
    rw [isReported_default_iff hr]
    refine and_iff_left_of_imp fun _ => ?_
    obtain ⟨c, t, ht, hc⟩ := q.exists_moreSigns_cons h
    rw [ht]
    exact not_isPlaceholder_of_isSign hc t
  rw [matchesOf_cons hvalues]
  simp only [hreported]

/-- Colons and equals signs, with blanks around them, stand between a keyword of the default settings and a value
between quotes that is long enough and no placeholder. With one sign the keyword is reported. With more, those in a
row from the second one on are the value: the keyword is reported if they are eight or more, and otherwise no more
than on the text from the quote on. -/
theorem scan_signed (hr : r ∈ default.rules) (hword : IsSpelling r.keyword (asciiLower word))
    (hbefore : LacksSeparator before) (hl : l.text = before ++ word ++ (q.text ++ rest)) (hls : l ∈ ls)
    (hlong : 8 ≤ q.value.length) (hsecret : ¬ default.isPlaceholder q.value) :
    (q.run.countP isSign = 1 ∨ 8 ≤ q.moreSigns.length → ⟨l.number, r.category⟩ ∈ default.scan ls) ∧
    (q.run.countP isSign ≠ 1 → matchesOf default.placeholders l r =
      (if 8 ≤ q.moreSigns.length then [⟨l.number, r.category⟩] else []) ++
        matchesOf default.placeholders ⟨l.number, q.quoted rest⟩ r) ∧
    ((ls.map (·.number)).Nodup → LacksSeparator q.value → LacksSeparator rest →
      (⟨l.number, r.category⟩ ∈ default.scan ls ↔ q.run.countP isSign = 1 ∨ 8 ≤ q.moreSigns.length)) := by
  have hmore := matchesOf_of_moreSigns q hr hword hbefore hl
  have hmatch : q.run.countP isSign = 1 ∨ 8 ≤ q.moreSigns.length →
      ⟨l.number, r.category⟩ ∈ matchesOf default.placeholders l r := by
    intro h
    by_cases hone : q.run.countP isSign = 1
    · have hreported : isReported default.placeholders r q.value = true := by
        rw [isReported_iff (s := default), minLength_of_mem_default hr]
        exact ⟨hlong, hsecret⟩
      rw [matchesOf_cons (values_eq_cons (q.leadsTo_value rest hone) hbefore hword hl), if_pos hreported]
      exact List.mem_cons_self
    · rw [hmore hone, if_pos (h.resolve_left hone)]
      exact List.mem_cons_self
  have hscan : ⟨l.number, r.category⟩ ∈ matchesOf default.placeholders l r →
      ⟨l.number, r.category⟩ ∈ default.scan ls := fun h =>
    List.mem_flatMap.mpr ⟨l, hls, List.mem_flatMap.mpr ⟨r, hr, h⟩⟩
  refine ⟨fun h => hscan (hmatch h), hmore, fun hnumbers hvalue hrest => ⟨fun h => ?_, fun h => hscan (hmatch h)⟩⟩
  have hfound : ⟨l.number, r.category⟩ ∈ matchesOf default.placeholders l r := by
    rw [← filter_scan hls hnumbers hr (by decide)]
    exact List.mem_filter.mpr ⟨h, decide_eq_true rfl⟩
  by_contra hno
  rw [not_or] at hno
  rw [hmore hno.1, if_neg hno.2, List.nil_append, matchesOf, values,
    valuesFrom_of_lacksSeparator _ _ (q.lacksSeparator_quoted hvalue hrest)] at hfound
  cases hfound

theorem password_ne_nil : "password".toList ≠ [] := by decide

def passwordRule : SecretRule := Settings.defaultRule "password".toList .password password_ne_nil

theorem passwordRule_mem : passwordRule ∈ default.rules := List.mem_cons_of_mem _ List.mem_cons_self

def underlined : SignedValue where
  mark := []
  run := ": ======== ".toList
  quote := '"'
  value := "abcdefghij".toList
  mark_eq := .inl rfl
  run_made := rfl
  run_any := rfl
  isQuote_quote := rfl
  quote_not_mem := by decide

theorem scan_signed_underlined :
    passwordRule ∈ default.rules ∧ IsSpelling passwordRule.keyword (asciiLower "PassWord".toList) ∧
      LacksSeparator "the ".toList ∧ 8 ≤ underlined.value.length ∧ ¬ default.isPlaceholder underlined.value ∧
      ⟨1, "password".toList⟩ ∈ default.scan [⟨1, "the ".toList ++ "PassWord".toList ++ (underlined.text ++ [])⟩] := by
  have hword : IsSpelling passwordRule.keyword (asciiLower "PassWord".toList) := .password
  have hbefore : LacksSeparator "the ".toList := ⟨by decide, by decide⟩
  have hvalue : 8 ≤ underlined.value.length ∧ ¬ default.isPlaceholder underlined.value := by decide +kernel
  refine ⟨passwordRule_mem, hword, hbefore, hvalue.1, hvalue.2, ?_⟩
  apply (scan_signed underlined passwordRule_mem hword hbefore rfl List.mem_cons_self hvalue.1 hvalue.2).1
  exact .inr (by decide)

def walrus : SignedValue := { underlined with run := " := ".toList, run_made := rfl, run_any := rfl }

theorem not_forall_mem_scan_signed :
    ¬ ∀ (q : SignedValue) (r : SecretRule) (before word : Text), r ∈ default.rules →
      IsSpelling r.keyword (asciiLower word) → LacksSeparator before → 8 ≤ q.value.length →
      ¬ default.isPlaceholder q.value →
        ⟨1, r.category⟩ ∈ default.scan [⟨1, before ++ word ++ q.text⟩] := by
  intro h
  have hmem := h walrus passwordRule [] "password".toList passwordRule_mem .password ⟨nofun, nofun⟩
    (by decide) (by decide +kernel)
  have hnone : default.scan [⟨1, [] ++ "password".toList ++ walrus.text⟩] = [] := by decide +kernel
  rw [hnone] at hmem
  cases hmem

end SecretScanner

end Onboarding
