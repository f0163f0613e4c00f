import Onboarding.Proofs.Config.Elements

namespace Onboarding

namespace Text

theorem trim_around {front back : Text} (hfront : allBlank front = true) (hback : allBlank back = true)
    (t : Text) : trim (front ++ (t ++ back)) = trim t := by
  obtain ⟨front', back', hfront', hback', he⟩ := exists_eq_append_trim t
  have hleft : allBlank (front ++ front') = true := allBlank_append hfront hfront'
  have hright : allBlank (back' ++ back) = true := allBlank_append hback' hback
  have htext : front ++ (t ++ back) = (front ++ front') ++ (trim t ++ (back' ++ back)) :=
    calc front ++ (t ++ back)
        = front ++ (front' ++ (trim t ++ back') ++ back) := by rw [← he]
      _ = (front ++ front') ++ (trim t ++ (back' ++ back)) := by simp only [List.append_assoc]
  rw [htext, trim_append (isTrimmed_trim t) hleft hright]

theorem takeWhile_ne_append_cons (c : Char) (t rest : Text) :
    (t ++ c :: rest).takeWhile (· ≠ c) = t.takeWhile (· ≠ c) := by
  induction t with
  | nil => simp
  | cons d t ih =>
      rw [List.cons_append, List.takeWhile_cons, List.takeWhile_cons, ih]

theorem trim_takeWhile_append {gap : Text} (h : allBlank gap = true) (test : Char → Bool) (t : Text) :
    trim ((t ++ gap).takeWhile test) = trim (t.takeWhile test) := by
  rw [List.takeWhile_append]
  split
  · next hall =>
      have htake : t.takeWhile test = t := (List.takeWhile_prefix test).eq_of_length hall
      have hgap : allBlank (gap.takeWhile test) = true :=
        allBlank_of_subset (List.takeWhile_prefix test).subset h
      have hfront : allBlank [] = true := rfl
      rw [htake]
      exact trim_around hfront hgap t
  · rfl

/-- A comment with blanks before it. -/
def IsRemark (t : Text) : Prop := ∃ gap note, allBlank gap = true ∧ t = gap ++ '#' :: note

theorem exists_trim_append_remark {t remark : Text} (ht : trim t ≠ []) (h : IsRemark remark) :
    ∃ remark', IsRemark remark' ∧ trim (t ++ remark) = trim t ++ remark' := by
  obtain ⟨gap, note, hgap, rfl⟩ := h
  obtain ⟨front, back, hfront, hback, he⟩ := exists_eq_append_trim t
  obtain ⟨tail, kept, hnote, htail, hkept⟩ := exists_append_stop isBlank note.reverse
  have hnote : note = kept.reverse ++ tail.reverse := by
    rw [← List.reverse_append, ← hnote, List.reverse_reverse]
  have hlast : (trim t ++ (back ++ gap ++ '#' :: kept.reverse)).getLast?.all (!isBlank ·) := by
    rw [List.getLast?_append, List.getLast?_append, List.getLast?_cons, List.getLast?_reverse]
    cases hk : kept.head? with
    | none => rfl
    | some c => simpa [hk] using hkept
  have htrimmed : IsTrimmed (trim t ++ (back ++ gap ++ '#' :: kept.reverse)) := by
    obtain ⟨c, u, hu⟩ := List.exists_cons_of_ne_nil ht
    have hhead := (isTrimmed_trim t).1
    rw [hu] at hhead hlast ⊢
    exact ⟨hhead, hlast⟩
  have htail : allBlank tail.reverse = true := by
    rw [allBlank, List.all_reverse]
    exact List.all_eq_true.mpr htail
  have htext : t ++ (gap ++ '#' :: note) =
      front ++ (trim t ++ (back ++ gap ++ '#' :: kept.reverse) ++ tail.reverse) :=
    calc t ++ (gap ++ '#' :: note)
        = front ++ (trim t ++ back) ++ (gap ++ '#' :: (kept.reverse ++ tail.reverse)) := by
          rw [← he, hnote]
      _ = front ++ (trim t ++ (back ++ gap ++ '#' :: kept.reverse) ++ tail.reverse) := by
          simp only [List.append_assoc, List.cons_append]
  refine ⟨back ++ gap ++ '#' :: kept.reverse, ⟨back ++ gap, kept.reverse, allBlank_append hback hgap, rfl⟩, ?_⟩
  rw [htext, trim_append htrimmed hfront htail]

theorem mem_iff_of_trim_append {t remark remark' : Text} {c : Char} (h : trim (t ++ remark) = trim t ++ remark')
    (hc : isBlank c = false) : c ∈ remark' ↔ c ∈ remark := by
  have hcount := congrArg (List.count c) h
  rw [count_trim hc, List.count_append, List.count_append, count_trim hc] at hcount
  rw [← List.count_pos_iff, ← List.count_pos_iff, Nat.add_left_cancel hcount]

end Text

namespace Segment

variable {t name rest : Text}

theorem upTo?_append_more {q : Char} (h : upTo? q t = some (name, rest)) (more : Text) :
    upTo? q (t ++ more) = some (name, rest ++ more) := by
  rw [upTo?] at h
  split at h
  · cases h
  · next c rest' hd =>
      obtain ⟨hdrop, htake⟩ := Text.dropWhile_append_of_cons hd more
      cases h
      rw [upTo?, hdrop, htake]

theorem read?_append_more (h : read? t = some (name, rest)) (hne : rest ≠ []) (more : Text) :
    read? (t ++ more) = some (name, rest ++ more) := by
  cases t with
  | nil => cases h
  | cons c t =>
      rw [read?] at h
      rw [List.cons_append, read?]
      split at h
      · next hq =>
          rw [if_pos hq]
          exact upTo?_append_more h more
      · next hq =>
          split at h
          · next hb =>
              obtain ⟨d, u, hrest⟩ := List.exists_cons_of_ne_nil hne
              cases h
              obtain ⟨hdrop, htake⟩ := Text.dropWhile_append_of_cons hrest more
              rw [if_neg hq, if_pos hb, ← List.cons_append, hdrop, htake, hrest, List.cons_append]
          · cases h

end Segment

namespace Header

open Text (IsRemark trimLeft trimLeft_append_of_ne_nil)

variable {t behind remark : Text} {names : List Text}

theorem moreSegments_append_of_close (hclose : (trimLeft t).head? = some ']') (more : Text)
    (fuel : Nat) : moreSegments fuel (t ++ more) = ([], t ++ more) := by
  refine moreSegments_of_head? ?_ fuel
  have hne : trimLeft t ≠ [] := fun hn => by simp [hn] at hclose
  rw [trimLeft_append_of_ne_nil hne, List.head?_append, hclose, Option.some_or]
  decide

theorem moreSegments_append_more {fuel : Nat} (h : moreSegments fuel t = (names, behind))
    (hclose : (trimLeft behind).head? = some ']') (more : Text) {fuel' : Nat} (hf : fuel ≤ fuel') :
    moreSegments fuel' (t ++ more) = (names, behind ++ more) := by
  induction fuel generalizing t names fuel' with
  | zero =>
      cases h
      exact moreSegments_append_of_close hclose more fuel'
  | succ fuel ih =>
      obtain ⟨fuel', rfl⟩ : ∃ n, fuel' = n + 1 := ⟨fuel' - 1, by omega⟩
      rw [moreSegments] at h
      split at h
      · next rest hdot =>
          split at h
          · next name rest' hread =>
              generalize hnames : moreSegments fuel rest' = r at h
              obtain ⟨names', behind'⟩ := r
              cases h
              have hne : rest' ≠ [] := by
                rintro rfl
                rw [moreSegments_of_head? (by decide) fuel] at hnames
                obtain rfl := congrArg Prod.snd hnames
                cases hclose
              have hrest : trimLeft rest ≠ [] := by
                intro hn
                rw [hn] at hread
                cases hread
              have hdot' : trimLeft (t ++ more) = '.' :: (rest ++ more) := by
                rw [trimLeft_append_of_ne_nil (by rw [hdot]; exact List.cons_ne_nil _ _), hdot,
                  List.cons_append]
              have hread' := Segment.read?_append_more hread hne more
              rw [← trimLeft_append_of_ne_nil hrest] at hread'
              have hrec := ih hnames (Nat.le_of_succ_le_succ hf)
              rw [moreSegments]
              simp only [hdot', hread', hrec]
          · cases h
            rw [hdot] at hclose
            cases hclose
      · cases h
        exact moreSegments_append_of_close hclose more (fuel' + 1)

theorem segments?_append_more (h : segments? t = some (names, behind))
    (hclose : (trimLeft behind).head? = some ']') (more : Text) :
    segments? (t ++ more) = some (names, behind ++ more) := by
  rw [segments?] at h
  split at h
  · next name rest hread =>
      generalize hnames : moreSegments rest.length rest = r at h
      obtain ⟨names', behind'⟩ := r
      cases h
      have hne : rest ≠ [] := by
        rintro rfl
        rw [moreSegments_of_head? (by decide)] at hnames
        obtain rfl := congrArg Prod.snd hnames
        cases hclose
      have hlength : rest.length ≤ (rest ++ more).length := by
        rw [List.length_append]
        exact Nat.le_add_right _ _
      have hmore := moreSegments_append_more hnames hclose more hlength
      rw [segments?]
      simp only [Segment.read?_append_more hread hne more, hmore]
  · cases h

theorem isTail_remark (h : IsRemark remark) : isTail remark = true := by
  obtain ⟨gap, note, hgap, rfl⟩ := h
  rw [isTail, Text.trimLeft_append hgap, Text.trimLeft_cons_of_not (by decide)]
  rfl

theorem head?_remark (h : IsRemark remark) {c : Char} (hc : Text.isBlank c = false) (hne : c ≠ '#') :
    remark.head? ≠ some c := by
  obtain ⟨gap, note, hgap, rfl⟩ := h
  exact Text.head?_append_cons_ne hgap hc (Ne.symm hne) note

theorem dropOne_append_remark (h : IsRemark remark) {c : Char} (hc : Text.isBlank c = false)
    (hne : c ≠ '#') (t : Text) : dropOne c (t ++ remark) = dropOne c t ++ remark := by
  cases t with
  | nil => exact dropOne_of_head? (head?_remark h hc hne)
  | cons d t =>
      rw [List.cons_append, dropOne, dropOne]
      split <;> rfl

theorem isTail_append_remark (h : IsRemark remark) (ht : isTail t = true) :
    isTail (t ++ remark) = true := by
  by_cases hn : trimLeft t = []
  · rw [isTail, Text.trimLeft_append (Text.trimLeft_eq_nil_iff.mp hn)]
    exact isTail_remark h
  · obtain ⟨c, u, hu⟩ := List.exists_cons_of_ne_nil hn
    rw [isTail, hu] at ht
    rw [isTail, trimLeft_append_of_ne_nil hn, hu]
    exact ht

theorem parts?_eq_some_iff {path : Text} : parts? t = some (path, names) ↔
    ∃ rest behind tail, t = '[' :: rest ∧
      segments? (trimLeft (dropOne '[' rest)) = some (names, behind) ∧
      trimLeft behind = ']' :: tail ∧ isTail (dropOne ']' tail) = true ∧
      path = (trimLeft (dropOne '[' rest)).take
        ((trimLeft (dropOne '[' rest)).length - behind.length) := by
  constructor
  · intro h
    rw [parts?.eq_def] at h
    split at h
    · next rest =>
        dsimp only at h
        split at h
        · next names' behind hsegments =>
            split at h
            · next tail hclose =>
                rw [Option.ite_none_right_eq_some] at h
                obtain ⟨htail, hparts⟩ := h
                cases hparts
                exact ⟨rest, behind, tail, rfl, hsegments, hclose, htail, rfl⟩
            · cases h
        · cases h
    · cases h
  · rintro ⟨rest, behind, tail, rfl, hsegments, hclose, htail, rfl⟩
    simp only [parts?, hsegments, hclose, htail, if_true]

theorem parts?_append_remark {path : Text} (ht : parts? t = some (path, names)) (h : IsRemark remark) :
    parts? (t ++ remark) = some (path, names) := by
  obtain ⟨rest, behind, tail, rfl, hsegments, hclose, htail, rfl⟩ := parts?_eq_some_iff.mp ht
  have hinner : trimLeft (dropOne '[' rest) ≠ [] := by
    intro hn
    rw [hn] at hsegments
    cases hsegments
  have hbehind : trimLeft behind ≠ [] := by
    rw [hclose]
    exact List.cons_ne_nil _ _
  have hinner' : trimLeft (dropOne '[' (rest ++ remark)) = trimLeft (dropOne '[' rest) ++ remark := by
    rw [dropOne_append_remark h (by decide) (by decide), trimLeft_append_of_ne_nil hinner]
  refine parts?_eq_some_iff.mpr ⟨rest ++ remark, behind ++ remark, tail ++ remark, rfl, ?_, ?_, ?_, ?_⟩
  · rw [hinner', segments?_append_more hsegments (by rw [hclose]; rfl)]
  · rw [trimLeft_append_of_ne_nil hbehind, hclose, List.cons_append]
  · rw [dropOne_append_remark h (by decide) (by decide)]
    exact isTail_append_remark h htail
  · rw [hinner', List.length_append, List.length_append, Nat.add_sub_add_right,
      List.take_append_of_le_length (Nat.sub_le _ _)]

theorem name?_append_remark {name : Text} (ht : name? t = some name) (h : IsRemark remark) :
    name? (t ++ remark) = some name := by
  rw [name?, path?, Option.map_map] at ht ⊢
  obtain ⟨parts, hparts, hname⟩ := Option.map_eq_some_iff.mp ht
  rw [parts?_append_remark hparts h, Option.map_some, hname]

end Header

namespace Assignment

open Segment (isQuote)
open Text (IsRemark trim)

variable {t key rest remark : Text} {a : Assignment}

theorem key?_append_more (h : key? t = some (key, rest)) (hne : rest ≠ []) (more : Text) :
    key? (t ++ more) = some (key, rest ++ more) := by
  rw [key?.eq_def] at h
  split at h
  · exact Segment.upTo?_append_more h more
  · next c u hquote =>
      rw [Option.ite_none_right_eq_some] at h
      obtain ⟨hbare, hkey⟩ := h
      obtain ⟨d, v, rfl⟩ := List.exists_cons_of_ne_nil hne
      obtain ⟨rfl, hdrop⟩ := Prod.mk.inj (Option.some.inj hkey)
      obtain ⟨hdrop', htake'⟩ := Text.dropWhile_append_of_cons hdrop more
      rw [List.cons_append, key?, if_pos hbare, ← List.cons_append, hdrop', htake', List.cons_append]
      exact hquote
  · cases h

theorem ofText?_append_more (h : ofText? t = some a) (more : Text) :
    ofText? (t ++ more) = some ⟨a.key, a.right ++ more⟩ := by
  rw [ofText?] at h
  split at h
  · next key rest hkey =>
      split at h
      · next right hright =>
          cases h
          have hne : rest ≠ [] := by
            rintro rfl
            cases hright
          have htrim : Text.trimLeft rest ≠ [] := by
            rw [hright]
            exact List.cons_ne_nil _ _
          rw [ofText?]
          simp only [key?_append_more hkey hne more, Text.trimLeft_append_of_ne_nil htrim, hright,
            List.cons_append]
      · cases h
  · cases h

theorem exists_ofText?_append_remark (h : ofText? (trim t) = some a) (hr : IsRemark remark) :
    ∃ remark', IsRemark remark' ∧ ofText? (trim (t ++ remark)) = some ⟨a.key, a.right ++ remark'⟩ ∧
      ∀ c, Text.isBlank c = false → (c ∈ remark' ↔ c ∈ remark) := by
  have hne : trim t ≠ [] := by
    intro hn
    rw [hn] at h
    cases h
  obtain ⟨remark', hr', htrim⟩ := Text.exists_trim_append_remark hne hr
  refine ⟨remark', hr', ?_, fun c => Text.mem_iff_of_trim_append htrim⟩
  rw [htrim, ofText?_append_more h]

theorem name?_eq_none_of_ofText? (h : ofText? t = some a) : Header.name? t = none := by
  cases t with
  | nil => rfl
  | cons c t =>
      refine Header.name?_cons_of_ne ?_
      rintro rfl
      cases h

/-- The value comes to its end before a comment: it stands between quotes or is bare. -/
inductive IsClosed (a : Assignment) : Prop
  | quoted {q : Char} {value rest : Text} (hq : isQuote q = true)
      (h : trim a.right = q :: (value ++ q :: rest))
  | bare {c : Char} {rest : Text} (hq : isQuote c = false) (hc : c ≠ '[') (h : trim a.right = c :: rest)

theorem value?_append_remark (h : a.IsClosed) (hr : IsRemark remark) :
    value? ⟨a.key, a.right ++ remark⟩ = a.value? := by
  have hne : trim a.right ≠ [] := by
    cases h with
    | quoted _ h | bare _ _ h => rw [h]; exact List.cons_ne_nil _ _
  obtain ⟨remark', hr', htrim⟩ := Text.exists_trim_append_remark hne hr
  rw [value?, value?, htrim]
  cases h with
  | @quoted q value rest hq h =>
      rw [h, List.cons_append, List.append_assoc, List.cons_append]
      simp only [hq, if_true, Text.takeWhile_ne_append_cons]
  | @bare c rest hq hc h =>
      obtain ⟨gap, note, hgap, rfl⟩ := hr'
      rw [h, List.cons_append]
      simp only [hq, Bool.false_eq_true, if_false, hc]
      rw [← List.cons_append, ← List.append_assoc, Text.takeWhile_ne_append_cons,
        Text.trim_takeWhile_append hgap]

end Assignment

namespace Config

open Text (IsRemark trim)

theorem Entry.ofText_of_assignment {t : Text} {a : Assignment} (h : Assignment.ofText? (trim t) = some a) :
    ofText t = match a.value? with
      | some value => .assignment a.key value
      | none => .other := by
  have hcomment : isComment (trim t) = false := by
    cases ht : trim t with
    | nil =>
        rw [ht] at h
        cases h
    | cons c u =>
        rw [ht] at h
        rw [Bool.eq_false_iff]
        intro hc
        obtain rfl : c = '#' := by simpa [isComment] using hc
        cases h
  simp only [ofText, hcomment, Assignment.name?_eq_none_of_ofText? h, h]
  rfl

/-- The line is a header, or it assigns a value that comes to its end before a comment. -/
inductive TakesRemark (t : Text) : Prop
  | header {name : Text} (h : Header.name? (trim t) = some name)
  | assignment {a : Assignment} (h : Assignment.ofText? (trim t) = some a) (ha : a.IsClosed)

theorem TakesRemark.trim_ne_nil {t : Text} (h : TakesRemark t) : trim t ≠ [] := by
  intro hn
  cases h with
  | header h | assignment h =>
      rw [hn] at h
      cases h

/-- A comment behind such a line changes nothing in what the line says. -/
theorem Entry.ofText_append_remark {t remark : Text} (h : TakesRemark t) (hr : IsRemark remark) :
    ofText (t ++ remark) = ofText t := by
  cases h with
  | header hname =>
      obtain ⟨remark', hr', htrim⟩ := Text.exists_trim_append_remark (TakesRemark.header hname).trim_ne_nil hr
      have hcomment : isComment (trim t ++ remark') = isComment (trim t) := by
        obtain ⟨c, u, hu⟩ := List.exists_cons_of_ne_nil (TakesRemark.header hname).trim_ne_nil
        rw [hu]
        rfl
      simp only [ofText, htrim, hcomment]
      rw [hname, Header.name?_append_remark hname hr']
  | assignment hassign ha =>
      obtain ⟨remark', hr', hassign', -⟩ := Assignment.exists_ofText?_append_remark hassign hr
      rw [ofText_of_assignment hassign', ofText_of_assignment hassign, Assignment.value?_append_remark ha hr']

end Config

end Onboarding
