import MergeGate.Decimal.Notation

/-!
# Dates and times

Days of the calendar of the years 1 to 9999, times of day to the microsecond, and offsets from
universal time of less than a day.
-/

namespace MergeGate.Calendar

open Decimal

/-- Whether a year has a twenty-ninth of February. -/
def isLeap (year : Nat) : Bool := year % 4 == 0 && (year % 100 != 0 || year % 400 == 0)

/-- The number of days of a month. -/
def daysIn (year month : Nat) : Nat :=
  if month = 2 then (if isLeap year then 29 else 28)
  else if month = 4 || month = 6 || month = 9 || month = 11 then 30
  else 31

/-- A day of the calendar. -/
structure Date where
  year : Nat
  month : Nat
  day : Nat
deriving Repr, DecidableEq, Inhabited

/-- A day, if the calendar has it. -/
def Date.of? (year month day : Nat) : Option Date :=
  if 1 ≤ year ∧ year ≤ 9999 ∧ 1 ≤ month ∧ month ≤ 12 ∧ 1 ≤ day ∧ day ≤ daysIn year month then
    some ⟨year, month, day⟩
  else none

/-- A time of day on a day, with its offset from universal time in seconds if it has one. -/
structure Moment where
  date : Date
  hour : Nat
  minute : Nat
  second : Nat
  micro : Nat
  offset : Option Int
deriving Repr, DecidableEq, Inhabited

/-- A moment, if its time of day exists and its offset is less than a day. -/
def Moment.of? (date : Date) (hour minute second micro : Nat) (offset : Option Int) :
    Option Moment :=
  if hour < 24 ∧ minute < 60 ∧ second < 60 ∧ (offset.getD 0).natAbs < 86400 then
    some ⟨date, hour, minute, second, micro, offset⟩
  else none

/-- The number of days before a day, counted from the start of the year 1. -/
def Date.ordinal (d : Date) : Nat :=
  let y := d.year - 1
  y * 365 + y / 4 - y / 100 + y / 400 +
    ((List.range (d.month - 1)).map fun m => daysIn d.year (m + 1)).foldl (· + ·) 0 + d.day

/-- The seconds of a moment in universal time, with its microseconds, if its offset is known. -/
def Moment.instant? (m : Moment) : Option (Int × Nat) :=
  m.offset.map fun offset =>
    ((m.date.ordinal * 86400 + m.hour * 3600 + m.minute * 60 + m.second : Nat) - offset, m.micro)

/-- Whether two moments are the same: the same instant if both know their offset, the same time
of day on the same day if neither does. -/
def Moment.same (a b : Moment) : Bool :=
  match a.instant?, b.instant? with
  | some x, some y => x == y
  | none, none => a == b
  | _, _ => false

/-- A date as year, month and day. -/
def Date.write (d : Date) : List Char :=
  padded 4 d.year ++ '-' :: padded 2 d.month ++ '-' :: padded 2 d.day

/-- An offset as sign, hours and minutes, with seconds where it has some. -/
def writeOffset (offset : Int) : List Char :=
  let n := offset.natAbs
  let seconds : List Char := if n % 60 = 0 then [] else ':' :: padded 2 (n % 60)
  (if offset < 0 then '-' else '+') :: padded 2 (n / 3600) ++ ':' :: padded 2 (n / 60 % 60) ++
    seconds

/-- A moment with a separator between day and time; microseconds stand only where they are not
zero. -/
def Moment.write (separator : Char) (m : Moment) : List Char :=
  let micro : List Char := if m.micro = 0 then [] else '.' :: padded 6 m.micro
  m.date.write ++ separator :: padded 2 m.hour ++ ':' :: padded 2 m.minute ++
    ':' :: padded 2 m.second ++ micro ++ (m.offset.map writeOffset).getD []

end MergeGate.Calendar
