import Onboarding.Pattern.Lexeme
import Onboarding.Proofs.Text.Pieces

namespace Onboarding.Pattern

/-- What is left once the front is read. A backslash that ends the pattern cannot be read. -/
def Leaves (ps rest : List Piece) : Prop :=
  ∃ used, ps = used ++ rest ∧ used.getLast? ≠ some .danglingBackslash

namespace Leaves

variable {p : Piece} {ps qs rest : List Piece}

theorem refl (ps : List Piece) : Leaves ps ps := ⟨[], rfl, nofun⟩

theorem trans (h : Leaves ps qs) (h' : Leaves qs rest) : Leaves ps rest := by
  obtain ⟨used, rfl, hu⟩ := h
  obtain ⟨used', rfl, hu'⟩ := h'
  refine ⟨used ++ used', (List.append_assoc ..).symm, ?_⟩
  rw [List.getLast?_append]
  cases hl : used'.getLast? with
  | none => exact hu
  | some q =>
      rw [hl] at hu'
      exact hu'

theorem cons (hp : p ≠ .danglingBackslash) (h : Leaves ps rest) : Leaves (p :: ps) rest :=
  trans ⟨[p], rfl, fun he => hp (Option.some.inj he)⟩ h

theorem plain {c : Char} (h : Leaves ps rest) : Leaves (.plain c :: ps) rest := h.cons nofun

theorem escaped {c : Char} (h : Leaves ps rest) : Leaves (.escaped c :: ps) rest := h.cons nofun

theorem length_le (h : Leaves ps rest) : rest.length ≤ ps.length := by
  obtain ⟨used, rfl, -⟩ := h
  rw [List.length_append]
  exact Nat.le_add_left ..

theorem getLast? (h : Leaves ps rest) (hp : ps.getLast? = some .danglingBackslash) :
    rest.getLast? = some .danglingBackslash := by
  obtain ⟨used, rfl, hu⟩ := h
  rw [List.getLast?_append] at hp
  cases hl : rest.getLast? with
  | none =>
      rw [hl] at hp
      exact absurd hp hu
  | some q =>
      rw [hl] at hp
      exact hp

end Leaves

/-- A reader of the front that does not look past a closing parenthesis. -/
def ReadsFront {α : Type} (f : List Piece → Option (α × List Piece)) : Prop :=
  ∀ ps x rest, f ps = some (x, rest) →
    Leaves ps rest ∧ ∀ more, f (ps ++ .plain ')' :: more) = some (x, rest ++ .plain ')' :: more)

theorem readsFront_some {α : Type} (x : α) : ReadsFront fun ps => some (x, ps) := by
  intro ps y rest h
  cases h
  exact ⟨.refl ps, fun _ => rfl⟩

theorem readsFront_none {α : Type} : ReadsFront fun _ => (none : Option (α × List Piece)) := nofun

theorem readsFront_option {α : Type} (o : Option α) :
    ReadsFront fun ps => o.map fun x => (x, ps) := by
  cases o with
  | none => exact readsFront_none
  | some x => exact readsFront_some x

theorem ReadsFront.map {α β : Type} {f : List Piece → Option (α × List Piece)} (hf : ReadsFront f)
    (g : α → β) : ReadsFront fun ps => (f ps).map fun (x, rest) => (g x, rest) := by
  intro ps y rest h
  obtain ⟨⟨x, left⟩, hx, he⟩ := Option.map_eq_some_iff.mp h
  cases he
  obtain ⟨hleaves, happend⟩ := hf ps x rest hx
  exact ⟨hleaves, fun more => by simp only [happend more, Option.map_some]⟩

theorem ReadsFront.ite {α : Type} {f g : List Piece → Option (α × List Piece)} {p : Prop}
    [Decidable p] (hf : ReadsFront f) (hg : ReadsFront g) :
    ReadsFront fun ps => if p then f ps else g ps := by
  by_cases hp : p
  · simpa only [if_pos hp] using hf
  · simpa only [if_neg hp] using hg

theorem ReadsFront.bind {α β : Type} {f : List Piece → Option (α × List Piece)}
    {g : α × List Piece → Option (β × List Piece)} (hf : ReadsFront f)
    (hg : ∀ x, ReadsFront fun rest => g (x, rest)) : ReadsFront fun ps => (f ps).bind g := by
  intro ps y rest h
  obtain ⟨⟨x, left⟩, hx, hy⟩ := Option.bind_eq_some_iff.mp h
  obtain ⟨hleaves, happend⟩ := hf ps x left hx
  obtain ⟨hleaves', happend'⟩ := hg x left y rest hy
  exact ⟨hleaves.trans hleaves', fun more => by
    simp only [happend more, Option.bind_some, happend' more]⟩

theorem ReadsFront.behind {α : Type} {f : List Piece → Option (α × List Piece)} (hf : ReadsFront f)
    (c : Char) {ps rest : List Piece} {x : α} (h : f ps = some (x, rest)) :
    Leaves (.plain c :: ps) rest ∧
      ∀ more, f (ps ++ .plain ')' :: more) = some (x, rest ++ .plain ')' :: more) := by
  obtain ⟨hleaves, happend⟩ := hf ps x rest h
  exact ⟨hleaves.plain, happend⟩

theorem eq_cons_of_append {q : Piece} {ps more rest : List Piece} (hq : q ≠ .plain ')')
    (h : ps ++ .plain ')' :: more = q :: rest) : ∃ left, ps = q :: left := by
  cases ps with
  | nil => exact absurd (List.cons.inj h).1.symm hq
  | cons p left => exact ⟨left, by rw [(List.cons.inj h).1]⟩

theorem append_ne_cons {q : Piece} {ps : List Piece} (hq : q ≠ .plain ')')
    (h : ∀ rest, ps = q :: rest → False) (more : List Piece) :
    ∀ rest, ps ++ .plain ')' :: more = q :: rest → False := by
  intro rest he
  obtain ⟨left, rfl⟩ := eq_cons_of_append hq he
  exact h left rfl

theorem append_ne_cons_cons {p q : Piece} {ps : List Piece} (hp : p ≠ .plain ')')
    (hq : q ≠ .plain ')') (h : ∀ rest, ps = p :: q :: rest → False) (more : List Piece) :
    ∀ rest, ps ++ .plain ')' :: more = p :: q :: rest → False := by
  intro rest he
  obtain ⟨left, rfl⟩ := eq_cons_of_append hp he
  obtain ⟨left', rfl⟩ := eq_cons_of_append hq (List.cons.inj he).2
  exact h left' rfl

section Take

variable {test : Char → Bool} {n m : Nat} {ps rest : List Piece} {t : Text}

theorem leaves_takePlain (h : takePlain test n ps = (t, rest)) : Leaves ps rest := by
  induction n generalizing ps t with
  | zero =>
      simp only [takePlain, Prod.mk.injEq] at h
      exact h.2 ▸ .refl ps
  | succ n ih =>
      match ps with
      | [] | .escaped _ :: _ | .danglingBackslash :: _ =>
          simp only [takePlain, Prod.mk.injEq] at h
          exact h.2 ▸ .refl _
      | .plain c :: ps =>
          rw [takePlain] at h
          split at h
          · simp only [Prod.mk.injEq] at h
            exact (ih (Prod.ext rfl h.2)).plain
          · simp only [Prod.mk.injEq] at h
            exact h.2 ▸ .refl _

theorem takePlain_append (h : takePlain test n ps = (t, rest)) (ht : test ')' = false)
    (hm : m = n ∨ ps.length ≤ n ∧ ps.length ≤ m) (more : List Piece) :
    takePlain test m (ps ++ .plain ')' :: more) = (t, rest ++ .plain ')' :: more) := by
  induction ps generalizing n m t with
  | nil =>
      have hn : takePlain test n [] = ([], []) := by cases n <;> rfl
      rw [hn] at h
      cases h
      cases m with
      | zero => rfl
      | succ m => simp [takePlain, ht]
  | cons p ps ih =>
      match n, m, p with
      | 0, 0, _ =>
          cases h
          rfl
      | 0, _ + 1, _ | _ + 1, 0, _ => simp at hm
      | n + 1, m + 1, .escaped _ | n + 1, m + 1, .danglingBackslash =>
          cases h
          rfl
      | n + 1, m + 1, .plain c =>
          have hm' : m = n ∨ ps.length ≤ n ∧ ps.length ≤ m := by
            simpa using hm
          rw [takePlain] at h
          rw [List.cons_append, takePlain]
          split at h
          · next hc =>
              cases h
              rw [if_pos hc, ih rfl hm']
          · next hc =>
              cases h
              rw [if_neg hc]
              rfl

theorem takePlain_length_append (h : takePlain test ps.length ps = (t, rest))
    (ht : test ')' = false) (more : List Piece) :
    takePlain test (ps ++ .plain ')' :: more).length (ps ++ .plain ')' :: more) =
      (t, rest ++ .plain ')' :: more) :=
  takePlain_append h ht (.inr ⟨Nat.le_refl _, by simp⟩) more

end Take

theorem readsFront_hexCode? (n : Nat) : ReadsFront (hexCode? n) := by
  intro ps x rest h
  rcases ht : takePlain isHex n ps with ⟨digits, left⟩
  simp only [hexCode?, ht, Option.ite_none_right_eq_some] at h
  obtain ⟨hd, he⟩ := h
  cases he
  refine ⟨leaves_takePlain ht, fun more => ?_⟩
  simp only [hexCode?, takePlain_append ht (by decide) (.inl rfl), if_pos hd]

theorem readsFront_escapedCode? (c : Char) : ReadsFront (escapedCode? c) := by
  unfold escapedCode?
  cases controlCode? c with
  | some n => exact readsFront_some n
  | none =>
      exact .ite (readsFront_hexCode? 2) (.ite (readsFront_hexCode? 4)
        (.ite (readsFront_hexCode? 8) (.ite readsFront_none (readsFront_some c.toNat))))

section Set

theorem readsFront_setEscape? (c : Char) : ReadsFront (setEscape? c) := by
  unfold setEscape?
  cases category? c with
  | some m => exact readsFront_some m
  | none =>
      refine .ite (readsFront_some _) (.ite ?_ ((readsFront_escapedCode? c).map fun n => Member.span n n))
      intro ps x rest h
      rcases ht : takePlain isOctal 2 ps with ⟨digits, left⟩
      simp only [ht, Option.ite_none_right_eq_some] at h
      obtain ⟨hn, he⟩ := h
      cases he
      refine ⟨leaves_takePlain ht, fun more => ?_⟩
      simp only [takePlain_append ht (by decide) (.inl rfl), if_pos hn]

theorem readsFront_setMember? : ReadsFront setMember? := by
  intro ps x rest h
  match ps with
  | [] | .danglingBackslash :: _ => cases h
  | .plain c :: ps =>
      cases h
      exact ⟨(Leaves.refl _).plain, fun _ => rfl⟩
  | .escaped c :: ps =>
      obtain ⟨hleaves, happend⟩ := readsFront_setEscape? c ps x rest h
      exact ⟨hleaves.escaped, happend⟩

theorem readsFront_rangeFrom? (m : Member) : ReadsFront (rangeFrom? m) := by
  intro ps x rest h
  rw [rangeFrom?.eq_def] at h
  split at h
  · cases h
    exact ⟨.refl _, fun _ => rfl⟩
  · next left hne =>
      obtain ⟨hleaves, happend⟩ :=
        (readsFront_setMember?.bind fun m' => readsFront_option (range? m m')) left x rest h
      refine ⟨hleaves.plain, fun more => ?_⟩
      rw [List.cons_append, rangeFrom?]
      · exact happend more
      · intro rest' he
        obtain ⟨left', rfl⟩ := eq_cons_of_append (by decide) he
        exact hne left' rfl
  · next hne hne' =>
      cases h
      refine ⟨.refl _, fun more => ?_⟩
      rw [rangeFrom?]
      · exact append_ne_cons_cons (by decide) (by decide) hne more
      · exact append_ne_cons (by decide) hne' more

theorem readsFront_setItem? : ReadsFront setItem? :=
  readsFront_setMember?.bind readsFront_rangeFrom?

variable {fuel fuel' : Nat} {first : Bool} {ps rest : List Piece} {ms : List Member}

theorem setMembers?_nil : setMembers? fuel first [] = none := by
  cases fuel with
  | zero => rfl
  | succ fuel => cases first <;> rfl

theorem readsFront_setMembers? (h : setMembers? fuel first ps = some (ms, rest))
    (hf : fuel ≤ fuel') : Leaves ps rest ∧ ∀ more,
      setMembers? fuel' first (ps ++ .plain ')' :: more) =
        some (ms, rest ++ .plain ')' :: more) := by
  induction fuel generalizing fuel' first ps ms with
  | zero => cases h
  | succ fuel ih =>
      obtain ⟨fuel', rfl⟩ : ∃ n, fuel' = n + 1 := ⟨fuel' - 1, by omega⟩
      cases ps with
      | nil =>
          rw [setMembers?_nil] at h
          cases h
      | cons p ps =>
          rw [setMembers?] at h
          by_cases hc : (!first && (p :: ps).head? == some (.plain ']')) = true
          · rw [if_pos hc] at h
            cases h
            refine ⟨(Leaves.refl _).cons ?_, fun more => by rw [setMembers?]; exact if_pos hc⟩
            rintro rfl
            simp at hc
          · rw [if_neg hc] at h
            obtain ⟨⟨m, left⟩, hm, hleft⟩ := Option.bind_eq_some_iff.mp h
            obtain ⟨⟨ms', left'⟩, hms, he⟩ := Option.map_eq_some_iff.mp hleft
            cases he
            obtain ⟨hleaves, happend⟩ := readsFront_setItem? _ _ _ hm
            obtain ⟨hleaves', happend'⟩ := ih hms (Nat.le_of_succ_le_succ hf)
            refine ⟨hleaves.trans hleaves', fun more => ?_⟩
            rw [List.cons_append, setMembers?]
            refine (if_neg hc).trans ?_
            rw [← List.cons_append, happend more]
            simp only [Option.bind_some, happend' more, Option.map_some]

theorem readsFront_setBody? (negated : Bool) : ReadsFront (setBody? negated) := by
  intro ps x rest h
  obtain ⟨⟨ms, left⟩, hms, he⟩ := Option.map_eq_some_iff.mp h
  cases he
  have hlen (more : List Piece) : ps.length + 1 ≤ (ps ++ .plain ')' :: more).length + 1 := by
    simp
  refine ⟨(readsFront_setMembers? hms (Nat.le_refl _)).1, fun more => ?_⟩
  rw [setBody?, (readsFront_setMembers? hms (hlen more)).2 more]
  rfl

theorem readsFront_set? : ReadsFront set? := by
  intro ps x rest h
  rw [set?.eq_def] at h
  split at h
  · exact (readsFront_setBody? true).behind '^' h
  · next hne =>
      obtain ⟨hleaves, happend⟩ := readsFront_setBody? false ps x rest h
      refine ⟨hleaves, fun more => ?_⟩
      rw [set?]
      · exact happend more
      · exact append_ne_cons (by decide) hne more

end Set

theorem readsFront_digitEscape? (c : Char) : ReadsFront (digitEscape? c) := by
  unfold digitEscape?
  refine .ite (fun ps x rest h => ?_) (fun ps x rest h => ?_)
  · rcases ht : takePlain isOctal 2 ps with ⟨digits, left⟩
    simp only [ht] at h
    cases h
    exact ⟨leaves_takePlain ht, fun more => by
      simp only [takePlain_append ht (by decide) (.inl rfl)]⟩
  · rcases ht : takePlain Text.isAsciiDigit 1 ps with ⟨ds, left⟩
    have hds (more : List Piece) := takePlain_append ht (by decide) (.inl rfl) more
    simp only [ht] at h
    simp only [hds]
    match ds with
    | [] | _ :: _ :: _ =>
        cases h
        exact ⟨.refl ps, fun _ => rfl⟩
    | [d] =>
        rcases ht' : takePlain isOctal 1 left with ⟨es, left'⟩
        have hes (more : List Piece) := takePlain_append ht' (by decide) (.inl rfl) more
        simp only [ht'] at h
        simp only [hes]
        match es with
        | [] | _ :: _ :: _ =>
            cases h
            exact ⟨leaves_takePlain ht, fun _ => rfl⟩
        | [e] =>
            dsimp only at h ⊢
            split at h
            · next ho =>
                simp only [if_pos ho]
                obtain ⟨hn, he⟩ := (Option.ite_none_right_eq_some).mp h
                cases he
                exact ⟨(leaves_takePlain ht).trans (leaves_takePlain ht'), fun _ => if_pos hn⟩
            · next ho =>
                cases h
                exact ⟨leaves_takePlain ht, fun _ => by rw [if_neg ho]⟩

theorem readsFront_escape? (c : Char) : ReadsFront (escape? c) := by
  unfold escape?
  cases category? c with
  | some m => exact readsFront_some _
  | none =>
      cases anchor? c with
      | some a => exact readsFront_some _
      | none =>
          exact .ite (readsFront_digitEscape? c)
            ((readsFront_escapedCode? c).map fun n => Lexeme.char (.single n))

theorem leaves_of_dropWhile {stop : Char} {p : Piece} {ps left : List Piece}
    (h : ps.dropWhile (· ≠ .plain stop) = p :: left) : Leaves ps left := by
  have hp : p = .plain stop := by simpa using Text.not_of_dropWhile_eq_cons h
  refine ⟨ps.takeWhile (· ≠ .plain stop) ++ [p], ?_, ?_⟩
  · rw [List.append_assoc, List.singleton_append, ← h, List.takeWhile_append_dropWhile]
  · rw [List.getLast?_concat, hp]
    nofun

theorem readsFront_nameUntil? (stop : Char) : ReadsFront (nameUntil? stop) := by
  intro ps x rest h
  rw [nameUntil?] at h
  cases hd : ps.dropWhile (· ≠ .plain stop) with
  | nil =>
      rw [hd] at h
      cases h
  | cons p left =>
      rw [hd] at h
      obtain ⟨hn, he⟩ := (Option.ite_none_left_eq_some).mp h
      cases he
      refine ⟨leaves_of_dropWhile hd, fun more => ?_⟩
      obtain ⟨hdrop, htake⟩ := Text.dropWhile_append_of_cons hd (.plain ')' :: more)
      simp only [nameUntil?, hdrop, htake]
      exact if_neg hn

theorem readsFront_flagsFrom? : ReadsFront flagsFrom? := by
  intro ps x rest h
  rcases ht : takePlain isFlagLetter ps.length ps with ⟨letters, left⟩
  simp only [flagsFrom?, ht] at h
  obtain ⟨fs, hfs, he⟩ := Option.map_eq_some_iff.mp h
  cases he
  refine ⟨leaves_takePlain ht, fun more => ?_⟩
  simp only [flagsFrom?, takePlain_length_append ht (by decide), hfs, Option.map_some]

theorem readsFront_flagsOff? (on : List Flag) : ReadsFront (flagsOff? on) := by
  unfold flagsOff?
  refine readsFront_flagsFrom?.bind fun off => ?_
  refine .ite readsFront_none fun ps x rest h => ?_
  split at h
  · cases h
    exact ⟨(Leaves.refl _).plain, fun _ => rfl⟩
  · cases h

theorem readsFront_flagsOn? (on : List Flag) : ReadsFront (flagsOn? on) := by
  intro ps x rest h
  rw [flagsOn?.eq_def] at h
  split at h
  · cases on with
    | nil => cases h
    | cons f fs =>
        cases h
        exact ⟨(Leaves.refl _).plain, fun _ => rfl⟩
  · obtain ⟨hon, he⟩ := (Option.ite_none_left_eq_some).mp h
    cases he
    exact ⟨(Leaves.refl _).plain, fun _ => if_neg hon⟩
  · exact (readsFront_flagsOff? on).behind '-' h
  · cases h

theorem readsFront_flagGroup? : ReadsFront flagGroup? := by
  unfold flagGroup?
  refine readsFront_flagsFrom?.bind fun on => ?_
  exact .ite readsFront_none (readsFront_flagsOn? on)

theorem readsFront_condition? : ReadsFront condition? := by
  unfold condition?
  refine (readsFront_nameUntil? ')').bind fun name => ?_
  refine .ite (readsFront_some _) ?_
  rcases Text.intIn? 10 name with _ | (_ | n) | n
  · exact readsFront_none
  · exact readsFront_none
  · exact .ite (readsFront_some _) readsFront_none
  · exact readsFront_none

theorem readsFront_identifierUntil? (stop : Char) : ReadsFront (identifierUntil? stop) := by
  unfold identifierUntil?
  refine (readsFront_nameUntil? stop).bind fun name => ?_
  exact .ite (readsFront_some name) readsFront_none

theorem readsFront_named? : ReadsFront named? := by
  intro ps x rest h
  rw [named?.eq_def] at h
  split at h
  · exact ((readsFront_identifierUntil? '>').map fun name =>
      Lexeme.openGroup (.capture (some name))).behind '<' h
  · exact ((readsFront_identifierUntil? ')').map Lexeme.namedBackref).behind '=' h
  · cases h

theorem readsFront_extension? : ReadsFront extension? := by
  intro ps x rest h
  rw [extension?.eq_def] at h
  split at h
  · exact readsFront_named?.behind 'P' h
  case h_2 | h_3 | h_4 | h_8 =>
    cases h
    exact ⟨(Leaves.refl _).plain, fun _ => rfl⟩
  case h_5 | h_6 =>
    cases h
    exact ⟨(Leaves.refl _).plain.plain, fun _ => rfl⟩
  case h_7 => exact readsFront_condition?.behind '(' h
  case h_9 hP hcolon heq hbang hbehind hnotBehind hcondition hatomic =>
    obtain ⟨hleaves, happend⟩ := readsFront_flagGroup? ps x rest h
    refine ⟨hleaves, fun more => ?_⟩
    rw [extension?]
    · exact happend more
    · exact append_ne_cons (by decide) hP more
    · exact append_ne_cons (by decide) hcolon more
    · exact append_ne_cons (by decide) heq more
    · exact append_ne_cons (by decide) hbang more
    · exact append_ne_cons_cons (by decide) (by decide) hbehind more
    · exact append_ne_cons_cons (by decide) (by decide) hnotBehind more
    · exact append_ne_cons (by decide) hcondition more
    · exact append_ne_cons (by decide) hatomic more

theorem leaves_greedOf (ps : List Piece) : Leaves ps (greedOf ps).2 := by
  unfold greedOf
  split
  · exact (Leaves.refl _).plain
  · exact (Leaves.refl _).plain
  · exact .refl _

theorem greedOf_append (ps more : List Piece) :
    greedOf (ps ++ .plain ')' :: more) =
      ((greedOf ps).1, (greedOf ps).2 ++ .plain ')' :: more) := by
  rw [greedOf.eq_def ps]
  split
  · rfl
  · rfl
  · next hlazy hpossessive =>
      rw [greedOf]
      · exact append_ne_cons (by decide) hlazy more
      · exact append_ne_cons (by decide) hpossessive more

theorem readsFront_quantified? (bounds : Except Fault (Nat × Option Nat)) :
    ReadsFront (quantified? bounds) := by
  intro ps x rest h
  rcases hg : greedOf ps with ⟨greed, left⟩
  have hleaves : Leaves ps left := by simpa only [hg] using leaves_greedOf ps
  have hne (more : List Piece) : ps ++ .plain ')' :: more ≠ [.danglingBackslash] := by
    cases ps with
    | nil => nofun
    | cons p ps => simp
  simp only [quantified?, hg] at h
  obtain ⟨-, h⟩ := (Option.ite_none_left_eq_some).mp h
  cases bounds with
  | error f =>
      cases h
      exact ⟨.refl _, fun more => if_neg (hne more)⟩
  | ok b =>
      cases h
      refine ⟨hleaves, fun more => ?_⟩
      simp only [quantified?, if_neg (hne more), greedOf_append, hg]

theorem readsFront_braced? : ReadsFront braced? := by
  intro ps x rest h
  have hhead (more : List Piece) : ((ps ++ .plain ')' :: more).head? == some (.plain '\x7d')) =
      (ps.head? == some (.plain '\x7d')) := by
    cases ps with
    | nil => rfl
    | cons p ps => rfl
  simp only [braced?] at h
  simp only [braced?, hhead]
  split at h
  · next hb =>
      cases h
      exact ⟨.refl _, fun _ => if_pos hb⟩
  · next hb =>
      simp only [if_neg hb]
      rcases hlo : takePlain Text.isAsciiDigit ps.length ps with ⟨lo, left⟩
      simp only [takePlain_length_append hlo (by decide)]
      simp only [hlo] at h
      split at h
      · next left =>
          rcases hhi : takePlain Text.isAsciiDigit left.length left with ⟨hi, left'⟩
          simp only [List.cons_append, takePlain_length_append hhi (by decide)]
          simp only [hhi] at h
          split at h
          · next last =>
              obtain ⟨hleaves, happend⟩ := readsFront_quantified? _ _ _ _ h
              exact ⟨(leaves_takePlain hlo).trans
                ((leaves_takePlain hhi).trans hleaves.plain).plain, happend⟩
          · next hne =>
              cases h
              refine ⟨.refl _, fun more => ?_⟩
              split
              · next he => exact (append_ne_cons (by decide) hne more _ he).elim
              · rfl
      · next last =>
          obtain ⟨hleaves, happend⟩ := readsFront_quantified? _ _ _ _ h
          exact ⟨(leaves_takePlain hlo).trans hleaves.plain, happend⟩
      · next hcomma hbrace =>
          cases h
          refine ⟨.refl _, fun more => ?_⟩
          split
          · next he => exact (append_ne_cons (by decide) hcomma more _ he).elim
          · next he => exact (append_ne_cons (by decide) hbrace more _ he).elim
          · rfl

theorem readsFront_group? : ReadsFront group? := by
  intro ps x rest h
  rw [group?.eq_def] at h
  split at h
  · exact readsFront_extension?.behind '?' h
  · next hne =>
      cases h
      refine ⟨.refl _, fun more => ?_⟩
      rw [group?]
      exact append_ne_cons (by decide) hne more

theorem readsFront_plain? (c : Char) : ReadsFront (plain? c) := by
  unfold plain?
  split
  · exact readsFront_set?.map Lexeme.char
  · exact readsFront_some _
  · exact readsFront_some _
  · exact readsFront_some _
  · exact readsFront_some _
  · exact readsFront_some _
  · exact readsFront_quantified? _
  · exact readsFront_quantified? _
  · exact readsFront_quantified? _
  · exact readsFront_braced?
  · exact readsFront_group?
  · exact readsFront_some _

end Onboarding.Pattern
