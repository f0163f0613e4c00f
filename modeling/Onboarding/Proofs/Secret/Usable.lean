import Onboarding.Engine
import Onboarding.Proofs.Pattern.Enclosed
import Onboarding.Settings.Loading

namespace Onboarding.Keyword

open Pattern (Lexeme CharSet Expr Reader lexemes)

/-- The names under which a match holds the value. -/
def reservedNames : List Text := ["dq".toList, "sq".toList, "bq".toList, "bare".toList]

section Lexemes

def capture (name : Text) (set : CharSet) (least : Nat) : List Lexeme :=
  [.openGroup (.capture (some name)), .char set, .quantifier least none .greedy, .closeGroup]

def allBut (blanks : List Pattern.Member) (cs : Text) : CharSet :=
  ⟨true, blanks ++ cs.map fun c => .span c.toNat c.toNat⟩

def quoted (q : Char) (name : Text) : List Lexeme := capture name (allBut [] [q]) 0

def bare : List Lexeme :=
  capture "bare".toList (allBut [.category false .space] "\"'\x60,;".toList) 1

/-- From the optional quote behind the keyword to the opening quote of the first kind of value. -/
def separator : List Lexeme :=
  [.char ⟨false, [.span 34 34, .span 39 39]⟩, .quantifier 0 (some 1) .greedy,
    .char ⟨false, [.category false .space]⟩, .quantifier 0 none .greedy,
    .char ⟨false, [.span 58 58, .span 61 61]⟩,
    .char ⟨false, [.category false .space]⟩, .quantifier 0 none .greedy,
    .openGroup .plain, .char (.single 34)]

def between (q q' : Char) : List Lexeme := [.char (.single q.toNat), .bar, .char (.single q'.toNat)]

def separatorItems : List Expr :=
  [.repeated (.char ⟨false, [.category false .space]⟩) 0 none .greedy,
    .char ⟨false, [.span 58 58, .span 61 61]⟩,
    .repeated (.char ⟨false, [.category false .space]⟩) 0 none .greedy,
    .repeated (.char ⟨false, [.span 34 34, .span 39 39]⟩) 0 (some 1) .greedy]

def anyQuote : Expr :=
  .repeated (.char ⟨false, [.span 34 34, .span 39 39, .span 96 96]⟩) 0 (some 1) .greedy

def beforeBare : List Lexeme :=
  [.char (.single 96), .bar, .char ⟨false, [.span 34 34, .span 39 39, .span 96 96]⟩,
    .quantifier 0 (some 1) .greedy]

def behindLexemes : List Lexeme :=
  separator ++ (quoted '"' "dq".toList ++ (between '"' '\'' ++ (quoted '\'' "sq".toList ++
    (between '\'' '\x60' ++ (quoted '\x60' "bq".toList ++ (beforeBare ++
      (bare ++ [.closeGroup])))))))

theorem lexemes_behind : lexemes (')' :: behind) = .closeGroup :: behindLexemes := by
  decide +kernel

end Lexemes

end Onboarding.Keyword

namespace Onboarding.Pattern.Reader

open Keyword (capture)

variable {r t : Reader}

/-- From a reader on, the lexemes make a pattern. -/
def Accepts (xs : List Lexeme) (r : Reader) : Prop :=
  ∃ p, (xs.foldlM next r).bind finish = .ok p

theorem foldlM_append_of {xs : List Lexeme} (h : xs.foldlM next r = .ok t) (ys : List Lexeme) :
    (xs ++ ys).foldlM next r = ys.foldlM next t := by
  rw [List.foldlM_append, h]
  rfl

theorem accepts_append {xs : List Lexeme} (h : xs.foldlM next r = .ok t) (ys : List Lexeme) :
    Accepts (xs ++ ys) r ↔ Accepts ys t := by
  rw [Accepts, foldlM_append_of h, Accepts]

/-- The reader behind a named group around a repeated set. -/
def captured (name : Text) (set : CharSet) (least : Nat) (r : Reader) : Reader :=
  let p : Expr := .group (r.count + 1) (.repeated (.char set) least none .greedy)
  { r.push p with
    names := (name, r.count + 1) :: r.names
    count := r.count + 1
    widths := (r.count + 1, p.width r.widths) :: r.widths }

theorem capture_foldlM (hl : r.leading = []) {name : Text} (hn : r.names.lookup name = none)
    (set : CharSet) (least : Nat) :
    (capture name set least).foldlM next r = .ok (r.captured name set least) := by
  have hopen : r.next (.openGroup (.capture (some name))) =
      .ok { r.openFrame (.capture (some name)) (r.count + 1) with
        count := r.count + 1, names := (name, r.count + 1) :: r.names } := by
    rw [next, openGroup, hn]
    rfl
  rw [capture, foldlM_cons_of_next hopen]
  obtain ⟨frame, outer, names, count, widths, limit, conditions, leading, fit⟩ := r
  obtain rfl : leading = [] := hl
  rfl

theorem accepts_capture_iff (hl : r.leading = []) (name : Text) (set : CharSet) (least : Nat)
    (xs : List Lexeme) :
    Accepts (capture name set least ++ xs) r ↔
      r.names.lookup name = none ∧ Accepts xs (r.captured name set least) := by
  cases hn : r.names.lookup name with
  | none =>
      rw [accepts_append (capture_foldlM hl hn set least)]
      exact ⟨fun h => ⟨rfl, h⟩, fun h => h.2⟩
  | some i =>
      have hopen : r.next (.openGroup (.capture (some name))) = .error .malformed := by
        rw [next, openGroup, hn]
        rfl
      constructor
      · rintro ⟨p, hp⟩
        rw [capture, List.cons_append, List.foldlM_cons, hopen] at hp
        cases hp
      · rintro ⟨h, -⟩
        cases h

theorem lookup_captured {name name' : Text} (h : name' ≠ name) (set : CharSet) (least : Nat)
    (r : Reader) : (r.captured name set least).names.lookup name' = r.names.lookup name' := by
  rw [captured, List.lookup_cons, beq_false_of_ne h]

def nextBranch (q q' : Char) (r : Reader) : Reader :=
  { r with frame := { r.frame with
      branches := .ofReversed (.char (.single q.toNat) :: r.frame.items) :: r.frame.branches
      items := [.char (.single q'.toNat)] } }

def bareBranch (r : Reader) : Reader :=
  { r with frame := { r.frame with
      branches := .ofReversed (.char (.single 96) :: r.frame.items) :: r.frame.branches
      items := [Keyword.anyQuote] } }

def behindSeparator (r : Reader) : Reader :=
  { r with
    frame := ⟨.plain, 0, r.limit, [], [.char (.single 34)]⟩
    outer := { r.frame with items := Keyword.separatorItems ++ r.frame.items } :: r.outer }

def atSingle (r : Reader) : Reader :=
  (r.behindSeparator.captured "dq".toList (Keyword.allBut [] ['"']) 0).nextBranch '"' '\''

def atBackquoted (r : Reader) : Reader :=
  (r.atSingle.captured "sq".toList (Keyword.allBut [] ['\'']) 0).nextBranch '\'' '\x60'

def atBare (r : Reader) : Reader :=
  (r.atBackquoted.captured "bq".toList (Keyword.allBut [] ['\x60']) 0).bareBranch

theorem lookup_atSingle {name : Text} (h : name ≠ "dq".toList) (r : Reader) :
    r.atSingle.names.lookup name = r.names.lookup name :=
  lookup_captured h (Keyword.allBut [] ['"']) 0 r.behindSeparator

theorem lookup_atBackquoted {name : Text} (hdq : name ≠ "dq".toList) (hsq : name ≠ "sq".toList)
    (r : Reader) : r.atBackquoted.names.lookup name = r.names.lookup name :=
  (lookup_captured hsq (Keyword.allBut [] ['\'']) 0 r.atSingle).trans (lookup_atSingle hdq r)

theorem lookup_atBare {name : Text} (hdq : name ≠ "dq".toList) (hsq : name ≠ "sq".toList)
    (hbq : name ≠ "bq".toList) (r : Reader) : r.atBare.names.lookup name = r.names.lookup name :=
  (lookup_captured hbq (Keyword.allBut [] ['\x60']) 0 r.atBackquoted).trans
    (lookup_atBackquoted hdq hsq r)

theorem separator_foldlM (hl : r.leading = []) :
    Keyword.separator.foldlM next r = .ok r.behindSeparator := by
  obtain ⟨frame, outer, names, count, widths, limit, conditions, leading, fit⟩ := r
  obtain rfl : leading = [] := hl
  rfl

/-- Nothing but the group of the values is open. -/
structure InValue (r : Reader) : Prop where
  opening : r.frame.opening = .plain
  outer : ∃ f, r.outer = [f]
  leading : r.leading = []
  fit : r.fit = true
  conditions : ∀ i ∈ r.conditions, i ≤ r.count

namespace InValue

theorem captured (h : r.InValue) (name : Text) (set : CharSet) (least : Nat) :
    (r.captured name set least).InValue :=
  ⟨h.opening, h.outer, h.leading, h.fit, fun i hi => Nat.le_succ_of_le (h.conditions i hi)⟩

theorem between_foldlM (h : r.InValue) (name : Text) (set : CharSet) (least : Nat) (q q' : Char) :
    (Keyword.between q q').foldlM next (r.captured name set least) =
      .ok ((r.captured name set least).nextBranch q q') := by
  obtain ⟨⟨opening, index, bound, branches, items⟩, outer, names, count, widths, limit, conditions,
    leading, fit⟩ := r
  obtain rfl : opening = .plain := h.opening
  rfl

theorem beforeBare_foldlM (h : r.InValue) (name : Text) (set : CharSet) (least : Nat) :
    Keyword.beforeBare.foldlM next (r.captured name set least) =
      .ok (r.captured name set least).bareBranch := by
  obtain ⟨⟨opening, index, bound, branches, items⟩, outer, names, count, widths, limit, conditions,
    leading, fit⟩ := r
  obtain rfl : opening = .plain := h.opening
  obtain rfl : leading = [] := h.leading
  rfl

theorem atSingle (h : r.behindSeparator.InValue) : r.atSingle.InValue :=
  have h' := h.captured "dq".toList (Keyword.allBut [] ['"']) 0
  ⟨h'.opening, h'.outer, h'.leading, h'.fit, h'.conditions⟩

theorem atBackquoted (h : r.atSingle.InValue) : r.atBackquoted.InValue :=
  have h' := h.captured "sq".toList (Keyword.allBut [] ['\'']) 0
  ⟨h'.opening, h'.outer, h'.leading, h'.fit, h'.conditions⟩

theorem atBare (h : r.atBackquoted.InValue) : r.atBare.InValue :=
  have h' := h.captured "bq".toList (Keyword.allBut [] ['\x60']) 0
  ⟨h'.opening, h'.outer, h'.leading, h'.fit, h'.conditions⟩

end InValue

theorem inValue_behindSeparator (hl : r.leading = []) (hf : r.fit = true)
    (hc : ∀ i ∈ r.conditions, i ≤ r.count) (ho : r.outer = []) : r.behindSeparator.InValue :=
  ⟨rfl, ⟨_, congrArg (_ :: ·) ho⟩, hl, hf, hc⟩

theorem finish_eq_ok_iff {p : Pattern} :
    r.finish = .ok p ↔ r.outer = [] ∧ oneAlphabet r.leading = true ∧ r.fit = true ∧
      (∀ i ∈ r.conditions, i ≤ r.count) ∧ ⟨r.leading, r.names.map (·.1), r.frame.finished⟩ = p := by
  have hany : (r.conditions.any fun i => decide (r.count < i)) = false ↔
      ∀ i ∈ r.conditions, i ≤ r.count := by simp
  rw [finish, ← hany]
  cases r.outer with
  | nil =>
      cases oneAlphabet r.leading <;> cases r.fit <;>
        cases r.conditions.any fun i => decide (r.count < i) <;> simp
  | cons f outer => simp

theorem InValue.accepts (h : r.InValue) : Accepts [.closeGroup] r := by
  obtain ⟨⟨opening, index, bound, branches, items⟩, outer, names, count, widths, limit, conditions,
    leading, fit⟩ := r
  obtain rfl : opening = .plain := h.opening
  obtain rfl : leading = [] := h.leading
  obtain ⟨f, rfl⟩ : ∃ f, outer = [f] := h.outer
  exact ⟨_, finish_eq_ok_iff.mpr ⟨rfl, rfl, h.fit, h.conditions, rfl⟩⟩

end Onboarding.Pattern.Reader

namespace Onboarding.Keyword

open Pattern (Reader lexemes)
open Pattern.Reader (Accepts accepts_append accepts_capture_iff bind_eq_ok lookup_atBackquoted
  lookup_atBare lookup_atSingle separator_foldlM)

variable {r : Reader}

theorem accepts_behind_iff (hl : r.leading = []) (hf : r.fit = true)
    (hc : ∀ i ∈ r.conditions, i ≤ r.count) (ho : r.outer = []) :
    Accepts behindLexemes r ↔ ∀ name ∈ reservedNames, r.names.lookup name = none := by
  have hdq := Reader.inValue_behindSeparator hl hf hc ho
  have hsq := hdq.atSingle
  have hbq := hsq.atBackquoted
  have hbare := hbq.atBare
  have hend := hbare.captured "bare".toList (allBut [.category false .space] "\"'\x60,;".toList) 1
  have hnames : r.behindSeparator.names = r.names := rfl
  rw [behindLexemes, accepts_append (separator_foldlM hl),
    quoted, accepts_capture_iff hdq.leading, accepts_append (hdq.between_foldlM _ _ _ _ _),
    ← Reader.atSingle,
    quoted, accepts_capture_iff hsq.leading, accepts_append (hsq.between_foldlM _ _ _ _ _),
    ← Reader.atBackquoted,
    quoted, accepts_capture_iff hbq.leading, accepts_append (hbq.beforeBare_foldlM _ _ _),
    ← Reader.atBare,
    bare, accepts_capture_iff hbare.leading, hnames, lookup_atSingle (by decide),
    lookup_atBackquoted (by decide) (by decide), lookup_atBare (by decide) (by decide) (by decide)]
  simp only [reservedNames, hend.accepts, and_true, List.forall_mem_cons, List.not_mem_nil,
    false_imp_iff, implies_true]

theorem accepts_enclosed_iff {t : Text} (h : (lexemes t).foldlM Reader.next {} = .ok r)
    (ho : r.outer = []) (hl : r.leading = []) (hf : r.fit = true)
    (hc : ∀ i ∈ r.conditions, i ≤ r.count) :
    Accepts (lexemes (enclosed t)) {} ↔ ∀ name ∈ reservedNames, r.names.lookup name = none := by
  rw [Accepts, enclosed, Reader.foldlM_lexemes_enclosed h ho hl lexemes_behind]
  exact accepts_behind_iff hl hf hc rfl

theorem lookup_eq_none_iff {names : List (Text × Nat)} {name : Text} :
    names.lookup name = none ↔ name ∉ names.map (·.1) := by
  simp only [List.lookup_eq_none_iff, List.mem_map, bne_iff_ne]
  exact ⟨fun h ⟨e, he, hn⟩ => h e he hn.symm, fun h e he hn => h ⟨e, he, hn.symm⟩⟩

theorem isUsable_eq (k : Keyword) : k.isUsable = true ↔ Accepts (lexemes (enclosed k.text)) {} := by
  rw [isUsable, Pattern.read, Pattern.ofLexemes, Accepts]
  cases ((lexemes (enclosed k.text)).foldlM Reader.next {}).bind Reader.finish with
  | error f => simp [Except.isOk, Except.toBool]
  | ok p => simp [Except.isOk, Except.toBool]

/-- A keyword that can be read alone can be read in the larger pattern if it sets no flags for the whole of
it and uses none of its names. -/
theorem isUsable_iff (k : Keyword) :
    k.isUsable ↔ k.pattern.leading = [] ∧ ∀ name ∈ reservedNames, name ∉ k.pattern.names := by
  have hread := k.read_text
  rw [Pattern.read, Pattern.ofLexemes] at hread
  obtain ⟨r, hr, hfinish⟩ := bind_eq_ok hread
  obtain ⟨ho, -, hf, hc, hp⟩ := Reader.finish_eq_ok_iff.mp hfinish
  have hnames (hl : r.leading = []) : Accepts (lexemes (enclosed k.text)) {} ↔
      ∀ name ∈ reservedNames, name ∉ r.names.map (·.1) := by
    simp only [accepts_enclosed_iff hr ho hl hf hc, lookup_eq_none_iff]
  rw [isUsable_eq, ← hp]
  constructor
  · intro h
    obtain ⟨p, hp⟩ := id h
    obtain ⟨s, hs, -⟩ := bind_eq_ok hp
    have hl := Reader.leading_of_lexemes_enclosed hr hs
    exact ⟨hl, (hnames hl).mp h⟩
  · rintro ⟨hl, h⟩
    exact (hnames hl).mpr h

end Onboarding.Keyword

namespace Onboarding

open Keyword (reservedNames)

variable (s : Settings)

theorem SecretScanner.exists_ofSettings_iff_isUsable :
    (∃ c, ofSettings s = .ok c) ↔ ∀ r ∈ s.secretRules, r.keyword.isUsable := by
  constructor
  · rintro ⟨c, hc⟩
    unfold ofSettings at hc
    split at hc
    · cases hc
    · next hfind =>
        intro r hr
        simpa using List.find?_eq_none.mp hfind r hr
  · exact fun h => ⟨_, ofSettings_eq_ok h⟩

theorem Engine.exists_ofSettings_iff_scanner :
    (∃ e, ofSettings s = .ok e) ↔ ∃ c, SecretScanner.ofSettings s = .ok c := by
  rw [ofSettings]
  cases SecretScanner.ofSettings s with
  | error k => exact ⟨fun ⟨_, h⟩ => (nomatch h), fun ⟨_, h⟩ => (nomatch h)⟩
  | ok c => exact ⟨fun _ => ⟨c, rfl⟩, fun _ => ⟨⟨s, c⟩, rfl⟩⟩

/-- What is built from settings that were loaded is built just if no keyword sets flags for the whole
pattern or uses a name of the larger one. -/
theorem Engine.exists_ofSettings_iff :
    ((∃ c, SecretScanner.ofSettings s = .ok c) ↔
      ∀ r ∈ s.secretRules, r.keyword.pattern.leading = [] ∧
        ∀ name ∈ reservedNames, name ∉ r.keyword.pattern.names) ∧
    ((∃ e, Engine.ofSettings s = .ok e) ↔
      ∀ r ∈ s.secretRules, r.keyword.pattern.leading = [] ∧
        ∀ name ∈ reservedNames, name ∉ r.keyword.pattern.names) := by
  have hscanner := SecretScanner.exists_ofSettings_iff_isUsable s
  simp only [Keyword.isUsable_iff] at hscanner
  exact ⟨hscanner, (Engine.exists_ofSettings_iff_scanner s).trans hscanner⟩

def flagKeyword : Keyword := ⟨"(?i)x".toList, ⟨[.ignoreCase], [], .char (.single 120)⟩, rfl⟩

def flagSettings : Settings :=
  { Settings.default with
    secretRules := [Settings.defaultRule "c".toList flagKeyword (by decide)] }

/-- These settings can be loaded and not be used. -/
theorem not_exists_ofSettings_flagSettings :
    Settings.ofText "secret_rules:\n- category: c\n  pattern: (?i)x\n".toList = .ok flagSettings ∧
      ¬ ∃ e, Engine.ofSettings flagSettings = .ok e := by
  constructor
  · have h : (Settings.ofText "secret_rules:\n- category: c\n  pattern: (?i)x\n".toList).toOption =
        some flagSettings := by decide +kernel
    cases hs : Settings.ofText "secret_rules:\n- category: c\n  pattern: (?i)x\n".toList with
    | error e =>
        rw [hs] at h
        cases h
    | ok s =>
        rw [hs] at h
        exact congrArg Except.ok (Option.some.inj h)
  · rw [Engine.exists_ofSettings_iff_scanner, SecretScanner.exists_ofSettings_iff_isUsable]
    intro h
    have hflag := (Keyword.isUsable_iff flagKeyword).mp (h _ List.mem_cons_self)
    exact absurd hflag.1 (by decide)

end Onboarding
