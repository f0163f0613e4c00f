import Mathlib.Data.List.TakeWhile
import Onboarding.Proofs.Secret.Signs

namespace Onboarding

open Keyword (IsSpelling)
open SecretValue (IsLink LacksSeparator LeadsTo isBareChar isQuote)
open Text (asciiLower isBlank trimLeft)

namespace SecretValue

/-- What a value without quotes should end at. -/
def isEnd (c : Char) : Bool := isBlank c || c == ',' || c == ';'

theorem isBareChar_eq (c : Char) : isBareChar c = (!isEnd c && !isQuote c) := by
  rw [isBareChar, isEnd]
  cases isBlank c <;> cases isQuote c <;> simp

theorem not_isBareChar_of_isEnd {c : Char} (h : isEnd c) : isBareChar c = false := by
  rw [isBareChar_eq, h]
  rfl

end SecretValue

open SecretValue (isEnd)

/-- What may follow a keyword: the way to a value, and the value up to its end, with no quote in front. -/
structure BareValue where
  link : Text
  value : Text
  isLink : IsLink link
  value_made : value.all (!isEnd ·)
  value_begins : value.head?.all (!isQuote ·)

namespace BareValue

variable (q : BareValue) {rest : Text}

def text : Text := q.link ++ q.value

def front : Text := q.value.takeWhile (!isQuote ·)

def left : Text := q.value.dropWhile (!isQuote ·)

theorem value_eq : q.value = q.front ++ q.left := List.takeWhile_append_dropWhile.symm

theorem front_eq_value (h : ∀ c ∈ q.value, isQuote c = false) : q.front = q.value :=
  List.takeWhile_eq_self_iff.mpr fun c hc => by rw [h c hc, Bool.not_false]

theorem isBareChar_of_mem_front {c : Char} (hc : c ∈ q.front) : isBareChar c := by
  have hend := List.all_eq_true.mp q.value_made c ((List.takeWhile_prefix _).subset hc)
  have hquote := List.all_eq_true.mp List.all_takeWhile c hc
  rw [SecretValue.isBareChar_eq, hend, hquote, Bool.and_self]

theorem leadsTo_front (hne : q.value ≠ []) (hrest : rest.head?.all isEnd) :
    LeadsTo (q.text ++ rest) q.front (q.left ++ rest) := by
  obtain ⟨c, t, ht⟩ := List.exists_cons_of_ne_nil hne
  have hbegins := q.value_begins
  rw [ht, List.head?_cons, Option.all_some] at hbegins
  have hfront : q.front = c :: t.takeWhile (!isQuote ·) := by
    rw [front, ht, List.takeWhile_cons, if_pos hbegins]
  have hstop : (q.left ++ rest).head?.all (!isBareChar ·) := by
    cases hleft : q.left with
    | nil =>
        rw [List.nil_append]
        cases rest with
        | nil => rfl
        | cons d rest => exact congrArg (!·) (SecretValue.not_isBareChar_of_isEnd hrest)
    | cons d left =>
        have hd : isQuote d := by simpa using Text.not_of_dropWhile_eq_cons hleft
        exact congrArg (!·) (SecretValue.not_isBareChar_of_isQuote hd)
  have hread : SecretValue.read? (q.front ++ (q.left ++ rest)) = some (q.front, q.left ++ rest) :=
    SecretValue.read?_bare (hfront ▸ List.cons_ne_nil _ _) (fun d hd => q.isBareChar_of_mem_front hd) hstop
  have htrim : trimLeft (q.front ++ (q.left ++ rest)) = q.front ++ (q.left ++ rest) := by
    have hc := q.isBareChar_of_mem_front (hfront ▸ List.mem_cons_self)
    rw [hfront]
    exact Text.trimLeft_cons_of_not (SecretValue.not_isBlank_of_isBareChar hc) _
  rw [text, q.value_eq, List.append_assoc, List.append_assoc]
  exact q.isLink.leadsTo (htrim.symm ▸ hread)

end BareValue

namespace SecretScanner

variable {r : SecretRule} {l : Line} {ls : List Line} {before word rest : Text} (q : BareValue)

/-- A rule reports the value up to the first quote in it if that is long enough and no placeholder, and then whatever
it reports on the text from the quote on. -/
theorem matchesOf_bare (hr : r ∈ default.rules) (hword : IsSpelling r.keyword (asciiLower word))
    (hbefore : LacksSeparator before) (hl : l.text = before ++ word ++ (q.text ++ rest)) (hne : q.value ≠ [])
    (hrest : rest.head?.all isEnd) : matchesOf default.placeholders l r =
      (if 8 ≤ q.front.length ∧ ¬ default.isPlaceholder q.front then [⟨l.number, r.category⟩] else []) ++
        matchesOf default.placeholders ⟨l.number, q.left ++ rest⟩ r := by
  rw [matchesOf_cons (values_eq_cons (q.leadsTo_front hne hrest) hbefore hword hl)]
  simp only [isReported_default_iff hr]

/-- A keyword of the default settings, a separator, and a value without blanks, commas and semicolons that is long
enough and no placeholder. The keyword is reported if there is no quote in the value. If there is one, it is reported
just if the text in front of the quote is long enough and no placeholder itself, or something further on is reported. -/
theorem scan_bare (hr : r ∈ default.rules) (hword : IsSpelling r.keyword (asciiLower word))
    (hbefore : LacksSeparator before) (hl : l.text = before ++ word ++ (q.text ++ rest)) (hls : l ∈ ls)
    (hrest : rest.head?.all isEnd) (hlong : 8 ≤ q.value.length) (hsecret : ¬ default.isPlaceholder q.value) :
    ((∀ c ∈ q.value, isQuote c = false) → ⟨l.number, r.category⟩ ∈ default.scan ls) ∧
    (8 ≤ q.front.length ∧ ¬ default.isPlaceholder q.front → ⟨l.number, r.category⟩ ∈ default.scan ls) ∧
    ((ls.map (·.number)).Nodup →
      (⟨l.number, r.category⟩ ∈ default.scan ls ↔ 8 ≤ q.front.length ∧ ¬ default.isPlaceholder q.front ∨
        ⟨l.number, r.category⟩ ∈ matchesOf default.placeholders ⟨l.number, q.left ++ rest⟩ r)) ∧
    ((ls.map (·.number)).Nodup → LacksSeparator (q.left ++ rest) →
      (⟨l.number, r.category⟩ ∈ default.scan ls ↔ 8 ≤ q.front.length ∧ ¬ default.isPlaceholder q.front)) := by
  have hne : q.value ≠ [] := by
    intro hnil
    rw [hnil] at hlong
    exact absurd hlong (by decide)
  have hmatches := matchesOf_bare q hr hword hbefore hl hne hrest
  have hfront (h : 8 ≤ q.front.length ∧ ¬ default.isPlaceholder q.front) :
      ⟨l.number, r.category⟩ ∈ default.scan ls := by
    refine mem_scan_of_mem_matchesOf hls hr ?_
    rw [hmatches, if_pos h]
    exact List.mem_cons_self
  have hiff (hnumbers : (ls.map (·.number)).Nodup) :
      ⟨l.number, r.category⟩ ∈ default.scan ls ↔ 8 ≤ q.front.length ∧ ¬ default.isPlaceholder q.front ∨
        ⟨l.number, r.category⟩ ∈ matchesOf default.placeholders ⟨l.number, q.left ++ rest⟩ r := by
    rw [mem_scan_iff_mem_matchesOf hls hnumbers hr (by decide), hmatches, List.mem_append, List.mem_ite_nil_right,
      and_iff_left List.mem_cons_self]
  refine ⟨fun hquotes => hfront ?_, hfront, hiff, fun hnumbers hlacks => ?_⟩
  · rw [q.front_eq_value hquotes]
    exact ⟨hlong, hsecret⟩
  · rw [hiff hnumbers, matchesOf_of_lacksSeparator _ hlacks, or_iff_left List.not_mem_nil]

def signedPhrase : BareValue where
  link := ['"', ' ', '=', '\t']
  value := "=abcdefg'h".toList
  isLink := show IsLink (['"'] ++ ([' '] ++ '=' :: ['\t'])) from .mk (.inr (.inl rfl)) rfl (.inr rfl) rfl
  value_made := rfl
  value_begins := rfl

def signedLine : Line :=
  ⟨1, "the \"".toList ++ "PassWord".toList ++ (signedPhrase.text ++ "; a: b".toList)⟩

theorem scan_bare_signedPhrase :
    passwordRule ∈ default.rules ∧ IsSpelling passwordRule.keyword (asciiLower "PassWord".toList) ∧
      LacksSeparator "the \"".toList ∧ "; a: b".toList.head?.all isEnd ∧ 8 ≤ signedPhrase.value.length ∧
      ¬ default.isPlaceholder signedPhrase.value ∧ ⟨1, "password".toList⟩ ∈ default.scan [signedLine] := by
  have hword : IsSpelling passwordRule.keyword (asciiLower "PassWord".toList) := .password
  have hbefore : LacksSeparator "the \"".toList := ⟨by decide, by decide⟩
  have hvalue : 8 ≤ signedPhrase.value.length ∧ ¬ default.isPlaceholder signedPhrase.value := by decide +kernel
  have hrest : "; a: b".toList.head?.all isEnd := rfl
  refine ⟨passwordRule_mem, hword, hbefore, hrest, hvalue.1, hvalue.2, ?_⟩
  have hline : signedLine ∈ [signedLine] := List.mem_cons_self
  have hscan := scan_bare signedPhrase passwordRule_mem hword hbefore rfl hline hrest hvalue.1 hvalue.2
  exact (hscan.2.2.1 (by decide)).mpr (.inl (by decide +kernel))

def apostrophe : BareValue :=
  { signedPhrase with value := "it's-a-riddle".toList, value_made := rfl, value_begins := rfl }

theorem not_forall_mem_scan_bare :
    ¬ ∀ (q : BareValue) (r : SecretRule) (before word rest : Text), r ∈ default.rules →
      IsSpelling r.keyword (asciiLower word) → LacksSeparator before → rest.head?.all isEnd →
      8 ≤ q.value.length → ¬ default.isPlaceholder q.value →
        ⟨1, r.category⟩ ∈ default.scan [⟨1, before ++ word ++ (q.text ++ rest)⟩] := by
  intro h
  have hmem := h apostrophe passwordRule [] "password".toList [] passwordRule_mem .password ⟨nofun, nofun⟩ rfl
    (by decide) (by decide +kernel)
  have hnone : default.scan [⟨1, [] ++ "password".toList ++ (apostrophe.text ++ [])⟩] = [] := by decide +kernel
  rw [hnone] at hmem
  cases hmem

end SecretScanner

end Onboarding
