import Onboarding.Text.Numeral
import Onboarding.Value.Basic

namespace Onboarding.Yaml.Moment

/-- A time as it is written: hour, minute, second, the digits of a fraction, and the distance from
universal time. -/
structure Time where
  hour : Nat
  minute : Nat
  second : Nat
  fraction : Text
  offset : Option Int
deriving DecidableEq, Repr

structure Written where
  year : Nat
  month : Nat
  day : Nat
  time : Option Time
deriving DecidableEq, Repr

def number? (least most : Nat) (t : Text) : Option (Nat × Text) :=
  let digits := (t.take most).takeWhile Text.isAsciiDigit
  if least ≤ digits.length then
    (Text.natIn? 10 digits).map fun n => (n, t.drop digits.length)
  else none

def expect? (c : Char) : Text → Option Text
  | d :: rest => if c = d then some rest else none
  | [] => none

def isGap (c : Char) : Bool := c == ' ' || c == '\t'

def offset? (negative : Bool) (t : Text) : Option Int := do
  let (h, rest) ← number? 1 2 t
  let m ← match rest with
    | [] => some 0
    | ':' :: rest =>
      match number? 2 2 rest with
      | some (m, []) => some m
      | _ => none
    | _ => none
  let n : Int := h * 60 + m
  return if negative then -n else n

def zone? (t : Text) : Option (Option Int) :=
  match t with
  | [] => some none
  | _ =>
    match t.dropWhile isGap with
    | ['Z'] => some (some 0)
    | '+' :: rest => (offset? false rest).map some
    | '-' :: rest => (offset? true rest).map some
    | _ => none

def time? (t : Text) : Option Time := do
  let (hour, t) ← number? 1 2 t
  let (minute, t) ← number? 2 2 (← expect? ':' t)
  let (second, t) ← number? 2 2 (← expect? ':' t)
  let (fraction, t) :=
    match t with
    | '.' :: rest => (rest.takeWhile Text.isAsciiDigit, rest.dropWhile Text.isAsciiDigit)
    | _ => ([], t)
  return ⟨hour, minute, second, fraction, ← zone? t⟩

def separated? (t : Text) : Option Text :=
  match t with
  | 'T' :: rest | 't' :: rest => some rest
  | c :: rest => if isGap c then some (rest.dropWhile isGap) else none
  | [] => none

def read? (t : Text) : Option Written := do
  let (year, t) ← number? 4 4 t
  let (month, t) ← number? 1 2 (← expect? '-' t)
  let (day, t) ← number? 1 2 (← expect? '-' t)
  match t with
  | [] => return ⟨year, month, day, none⟩
  | _ => return ⟨year, month, day, some (← time? (← separated? t))⟩

def isLeap (year : Nat) : Bool := year % 4 == 0 && (year % 100 != 0 || year % 400 == 0)

def daysIn (year : Nat) : Nat → Nat
  | 2 => if isLeap year then 29 else 28
  | 4 | 6 | 9 | 11 => 30
  | _ => 31

def micro (fraction : Text) : Nat :=
  (Text.natIn? 10 ((fraction ++ List.replicate 6 '0').take 6)).getD 0

def clock? (t : Time) : Option Clock :=
  if t.hour < 24 ∧ t.minute < 60 ∧ t.second < 60 ∧ (t.offset.all fun n => n.natAbs < 1440) then
    some ⟨t.hour, t.minute, t.second, micro t.fraction, t.offset⟩
  else none

def value? (w : Written) : Option Value :=
  if 1 ≤ w.year ∧ 1 ≤ w.month ∧ w.month ≤ 12 ∧ 1 ≤ w.day ∧ w.day ≤ daysIn w.year w.month then
    match w.time with
    | none => some (.day ⟨w.year, w.month, w.day⟩)
    | some t => (clock? t).map (.moment ⟨w.year, w.month, w.day⟩)
  else none

end Onboarding.Yaml.Moment
