import GraphQuery.Number.Decimal

/-! # Moments

Dates and times as places on the time line.

* `Time.Fields`, `Time.Fields.seconds?` — the parts of a date and time in the proleptic Gregorian
  calendar, and their place on the time line.
* `Moment` — seconds, and whether a time zone fixes them.
* `MomentKind` — the forms in which moments are written.
* `Moment.parse?` — reads a form.
* `Moment.compare?` — the order, which is partial where one zone is missing.
-/

namespace GraphQuery

/-! ## The calendar -/

namespace Time

/-- A year with 366 days. -/
def isLeapYear (year : Int) : Bool := year % 4 == 0 && (year % 100 != 0 || year % 400 == 0)

/-- The number of days of a month. February of no particular year has 28. -/
def daysInMonth (year : Option Int) (month : Nat) : Nat :=
  if month == 2 then if year.any isLeapYear then 29 else 28
  else if month == 4 || month == 6 || month == 9 || month == 11 then 30
  else 31

/-- The parts of a date and time. Missing parts stand for the last day of 1972, at midnight. The
zone is an offset in minutes. -/
structure Fields where
  year : Option Int
  month : Option Nat
  day : Option Nat
  hour : Nat
  minute : Nat
  second : Decimal
  zone : Option Int

/-- Parts without a time of day. -/
def Fields.ofDate (year : Option Int) (month day : Option Nat) (zone : Option Int) : Fields :=
  ⟨year, month, day, 0, 0, .zero, zone⟩

def daysBeforeYear (year : Int) : Int :=
  let y := year - 1
  365 * y + y.fdiv 400 - y.fdiv 100 + y.fdiv 4

def daysBeforeMonth (year : Int) (month : Nat) : Nat :=
  ((List.range month).drop 1).foldl (fun n m => n + daysInMonth (some year) m) 0

/-- The place on the time line, as far as decimals reach. -/
def Fields.seconds? (f : Fields) : Option Decimal :=
  let year := f.year.getD 1972
  let month := f.month.getD 12
  let day := f.day.getD (daysInMonth (some year) month)
  let days := daysBeforeYear year + daysBeforeMonth year month + (day - 1 : Nat)
  let minutes := 60 * (f.hour : Int) + f.minute - f.zone.getD 0
  (Decimal.ofInt? (86400 * days + 60 * minutes)).bind (·.add? f.second)

end Time

/-! ## Moments -/

/-- A place on the time line. Without a zone it is uncertain by 14 hours either way. -/
structure Moment where
  seconds : Decimal
  zoned : Bool
  deriving DecidableEq

/-- The forms of dates and times. -/
inductive MomentKind where
  | dateTime | time | date | gYearMonth | gYear | gMonthDay | gDay | gMonth
  deriving DecidableEq

namespace Moment

def ofFields? (f : Time.Fields) : Option Moment :=
  f.seconds?.map fun seconds => ⟨seconds, f.zone.isSome⟩

/-! ## Reading -/

def skip? (c : Char) : List Char → Option (List Char)
  | [] => none
  | found :: rest => if found == c then some rest else none

/-- Reads a number of two digits within bounds. -/
def twoDigits? (low high : Nat) (s : List Char) : Option (Nat × List Char) :=
  let digits := s.takeWhile Char.isDigit
  let n := Number.ofDigits digits
  if digits.length == 2 && low ≤ n && n ≤ high then some (n, s.drop 2) else none

/-- Reads a year: four digits or more, no more than four if the first is zero. -/
def year? (s : List Char) : Option (Int × List Char) :=
  let (negative, s) := match s with
    | '-' :: rest => (true, rest)
    | _ => (false, s)
  let digits := s.takeWhile Char.isDigit
  if digits.length < 4 || (digits.length > 4 && digits.head? == some '0') then none
  else
    (Integer.parse? digits).map fun n =>
      (if negative then -n.value else n.value, s.drop digits.length)

def month? (s : List Char) : Option (Nat × List Char) := twoDigits? 1 12 s

def day? (s : List Char) : Option (Nat × List Char) := twoDigits? 1 31 s

/-- Reads seconds below 60, with an optional fraction. -/
def second? (s : List Char) : Option (Decimal × List Char) :=
  let text := s.takeWhile fun c => c.isDigit || c == '.'
  if (text.takeWhile (· != '.')).length != 2 || text.getLast? == some '.' then none
  else
    (Decimal.parse? text).bind fun second =>
      if second.units < 60 * Decimal.one then some (second, s.drop text.length) else none

/-- Reads a time of day. Its end may be written as 24:00:00. -/
def timeOfDay? (s : List Char) : Option ((Nat × Nat × Decimal) × List Char) := do
  let (hour, s) ← twoDigits? 0 24 s
  let s ← skip? ':' s
  let (minute, s) ← twoDigits? 0 59 s
  let s ← skip? ':' s
  let (second, s) ← second? s
  if hour == 24 && (minute != 0 || second.units != 0) then none
  else some ((hour, minute, second), s)

/-- Reads a time zone to the end of the text: nothing, `Z`, or hours and minutes up to 14:00 with
an optional sign. -/
def zone? (s : List Char) : Option (Option Int) :=
  match s with
  | [] => some none
  | ['Z'] => some (some 0)
  | _ => do
    let (negative, s) := Number.splitSign s
    let (hours, s) ← twoDigits? 0 14 s
    let s ← skip? ':' s
    let (minutes, s) ← twoDigits? 0 59 s
    if !s.isEmpty || (hours == 14 && minutes != 0) then none
    else some (some (Number.signed negative (60 * hours + minutes)))

/-- The day exists in the month. -/
def dayExists (year : Option Int) (month day : Nat) : Bool := day ≤ Time.daysInMonth year month

def date? (s : List Char) : Option ((Int × Nat × Nat) × List Char) := do
  let (year, s) ← year? s
  let s ← skip? '-' s
  let (month, s) ← month? s
  let s ← skip? '-' s
  let (day, s) ← day? s
  if dayExists (some year) month day then some ((year, month, day), s) else none

def fields? (kind : MomentKind) (s : List Char) : Option Time.Fields :=
  match kind with
  | .dateTime => do
    let ((year, month, day), s) ← date? s
    let s ← skip? 'T' s
    let ((hour, minute, second), s) ← timeOfDay? s
    return ⟨some year, some month, some day, hour, minute, second, ← zone? s⟩
  | .time => do
    let ((hour, minute, second), s) ← timeOfDay? s
    return ⟨none, none, none, hour % 24, minute, second, ← zone? s⟩
  | .date => do
    let ((year, month, day), s) ← date? s
    return .ofDate (some year) (some month) (some day) (← zone? s)
  | .gYearMonth => do
    let (year, s) ← year? s
    let s ← skip? '-' s
    let (month, s) ← month? s
    return .ofDate (some year) (some month) none (← zone? s)
  | .gYear => do
    let (year, s) ← year? s
    return .ofDate (some year) none none (← zone? s)
  | .gMonthDay => do
    let s ← (skip? '-' s).bind (skip? '-')
    let (month, s) ← month? s
    let s ← skip? '-' s
    let (day, s) ← day? s
    if dayExists none month day then return .ofDate none (some month) (some day) (← zone? s)
    else none
  | .gDay => do
    let s ← ((skip? '-' s).bind (skip? '-')).bind (skip? '-')
    let (day, s) ← day? s
    return .ofDate none none (some day) (← zone? s)
  | .gMonth => do
    let s ← (skip? '-' s).bind (skip? '-')
    let (month, s) ← month? s
    return .ofDate none (some month) none (← zone? s)

def parse? (kind : MomentKind) (s : List Char) : Option Moment :=
  (fields? kind s).bind ofFields?

/-! ## Order -/

/-- Fourteen hours, by which a moment without zone may be off. -/
def uncertainty : Decimal := ⟨50400 * Decimal.one, by decide, by decide⟩

/-- The order of a zoned moment and one without zone: that of both ends of its range, if they
agree. -/
def compareWithRange? (zoned unzoned : Decimal) : Option Ordering := do
  let late ← unzoned.add? uncertainty
  let early ← unzoned.sub? uncertainty
  let order := compare zoned.units late.units
  if order = compare zoned.units early.units then some order else none

/-- The order on the time line. Where only one moment has a zone it may be undecided. -/
def compare? (a b : Moment) : Option Ordering :=
  match a.zoned, b.zoned with
  | true, false => compareWithRange? a.seconds b.seconds
  | false, true => (compareWithRange? b.seconds a.seconds).map Ordering.swap
  | _, _ => some (compare a.seconds.units b.seconds.units)

end Moment

end GraphQuery
