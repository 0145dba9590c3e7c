import GraphQuery.Time.Moment

/-! # Durations

* `Duration` — months and seconds of one sign.
* `Duration.parse?` — reads a duration of any kind.
* `Duration.compare?` — the order, decided by adding to four dates.
-/

namespace GraphQuery

/-- A span of months and seconds. -/
structure Duration where
  months : Integer
  seconds : Decimal
  deriving DecidableEq

/-- The kinds of durations: of any parts, of years and months only, of the smaller parts only. -/
inductive DurationKind where
  | any | yearMonth | dayTime
  deriving DecidableEq

namespace Duration

/-! ## Reading -/

/-- Splits off digits with at most one point among them. -/
def splitNumber (s : List Char) : List Char × List Char :=
  let whole := s.takeWhile Char.isDigit
  match s.drop whole.length with
  | '.' :: rest =>
    let fraction := rest.takeWhile Char.isDigit
    (whole ++ '.' :: fraction, rest.drop fraction.length)
  | rest => (whole, rest)

/-- Reads, for each designator in turn, the number that stands before it, if any. -/
def components : List Char → List Char → List (Option (List Char)) × List Char
  | [], s => ([], s)
  | designator :: designators, s =>
    let (number, after) := splitNumber s
    if after.head? == some designator then
      let (found, rest) := components designators (after.drop 1)
      (some number :: found, rest)
    else
      let (found, rest) := components designators s
      (none :: found, rest)

/-- The value of a component without fraction; a missing one counts nothing. -/
def whole? : Option (List Char) → Option Nat
  | none => some 0
  | some digits => if Number.areDigits digits then some (Number.ofDigits digits) else none

/-- The units of a component with an optional fraction. -/
def units? : Option (List Char) → Option Int
  | none => some 0
  | some digits => (Decimal.parse? digits).map Decimal.units

/-- A count of years or months must itself fit. -/
def fitting? (component : Option (List Char)) : Option Nat :=
  (whole? component).filter fun n => n < 9223372036854775808

def dateDesignators : List Char := ['Y', 'M', 'D']

def timeDesignators : List Char := ['H', 'M', 'S']

/-- Reads a duration: an optional minus sign, `P`, components of a date, and after a `T`
components of a time. At least one component is there, and only such as the kind admits. -/
def parse? (kind : DurationKind) (s : List Char) : Option Duration := do
  let (negative, s) := match s with
    | '-' :: rest => (true, rest)
    | _ => (false, s)
  let s ← Moment.skip? 'P' s
  let (date, s) := components dateDesignators s
  let (time, s) := match s with
    | 'T' :: rest => components timeDesignators rest
    | _ => ([none, none, none], s)
  match date, time, s with
  | [years, months, days], [hours, minutes, seconds], [] =>
    let hasMonths := years.isSome || months.isSome
    let hasSeconds := days.isSome || hours.isSome || minutes.isSome || seconds.isSome
    let admitted := match kind with
      | .any => hasMonths || hasSeconds
      | .yearMonth => hasMonths && !hasSeconds
      | .dayTime => hasSeconds && !hasMonths
    if admitted then
      let months ← Integer.ofInt?
        (Number.signed negative (12 * (← fitting? years) + (← fitting? months)))
      let minutes := 1440 * (← whole? days) + 60 * (← whole? hours) + (← whole? minutes)
      let units := 60 * (minutes : Int) * Decimal.one + (← units? seconds)
      let seconds ← Decimal.ofUnits? (if negative then -units else units)
      return ⟨months, seconds⟩
    else none
  | _, _, _ => none

/-! ## Order -/

/-- The end of a duration that starts with a month: months first, then seconds. -/
def endFrom? (d : Duration) (year : Int) (month : Nat) : Option Decimal :=
  let months := (month : Int) - 1 + d.months.value
  let start := Time.Fields.ofDate (some (year + months.fdiv 12)) (some ((months.fmod 12).toNat + 1))
    (some 1) none
  start.seconds?.bind (·.add? d.seconds)

/-- The months from which durations are compared: between them, months of all lengths follow. -/
def referenceMonths : List (Int × Nat) := [(1969, 9), (1697, 2), (1903, 3), (1903, 7)]

/-- The order in which two durations end, if it is the same from every reference month. -/
def compare? (a b : Duration) : Option Ordering := do
  let orders ← referenceMonths.mapM fun (year, month) => do
    return compare (← a.endFrom? year month).units (← b.endFrom? year month).units
  match orders with
  | [] => none
  | order :: others => if others.all (· == order) then some order else none

end Duration

end GraphQuery
