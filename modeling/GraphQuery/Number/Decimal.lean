import GraphQuery.Number.Integer

/-! # Decimals

Decimal fractions with 18 places, kept as a count of units of the last place in 128 bits with a
sign. Operations whose result does not fit have none.

* `Decimal` — the numbers.
* `Decimal.parse?`, `Decimal.render` — their text.
* `Decimal.mul?` — multiplication, defined where the product is exact.
* `Decimal.div?` — division, cut off after the last place.
-/

namespace GraphQuery

/-- What counts of units lie below: `2^127`. -/
def Decimal.bound : Int := 170141183460469231731687303715884105728

/-- A count of units of `10^-18`. -/
structure Decimal where
  units : Int
  lower : -Decimal.bound ≤ units
  upper : units < Decimal.bound
  deriving DecidableEq

namespace Decimal

/-- The number of places after the point. -/
def places : Nat := 18

def one : Nat := Nat.pow 10 places

def Fits (units : Int) : Prop := -bound ≤ units ∧ units < bound

def ofUnits? (units : Int) : Option Decimal :=
  if h : -bound ≤ units ∧ units < bound then some ⟨units, h.1, h.2⟩ else none

theorem ofUnits?_eq_some_iff {n : Int} {a : Decimal} : ofUnits? n = some a ↔ a.units = n := by
  unfold ofUnits?
  constructor
  · intro h
    split at h
    · cases h
      rfl
    · cases h
  · rintro rfl
    exact dif_pos ⟨a.lower, a.upper⟩

theorem isSome_ofUnits? {n : Int} : (ofUnits? n).isSome ↔ Fits n := by
  unfold ofUnits? Fits
  split <;> simp [*]

def ofInt? (n : Int) : Option Decimal := ofUnits? (n * one)

/-- Every integer is a decimal. -/
def ofInteger (a : Integer) : Decimal :=
  ⟨a.value * one, by have := a.lower; simp only [one, places, bound, Nat.pow_eq, Nat.reducePow]; omega,
    by have := a.upper; simp only [one, places, bound, Nat.pow_eq, Nat.reducePow]; omega⟩

def zero : Decimal := ⟨0, by decide, by decide⟩

/-! ## Text -/

/-- An optional sign, digits, and an optional point with digits; not both digit texts may be
empty. Zeros at the end of the fraction do not count, and at most 18 places may remain. -/
def parse? (s : List Char) : Option Decimal :=
  let (negative, s) := Number.splitSign s
  let whole := s.takeWhile Char.isDigit
  match s.drop whole.length with
  | [] => if whole.isEmpty then none else build negative whole []
  | '.' :: fraction =>
    if whole.isEmpty && fraction.isEmpty then none
    else build negative whole (fraction.reverse.dropWhile (· == '0')).reverse
  | _ => none
where
  /-- The decimal of the digits before and after the point. -/
  build (negative : Bool) (whole fraction : List Char) : Option Decimal :=
    if fraction.all Char.isDigit && fraction.length ≤ places then
      ofUnits? (Number.signed negative
        (Number.ofDigits (whole ++ fraction) * Nat.pow 10 (places - fraction.length)))
    else none

/-- The shortest text: no zeros at the end of the fraction, and no point without a fraction. -/
def render (a : Decimal) : String :=
  let n := a.units.natAbs
  let fraction := ((Number.padded places (n % one)).reverse.dropWhile (· == '0')).reverse
  (if a.units < 0 then "-" else "") ++ String.ofList (Number.digitsOf (n / one)) ++
    (if fraction.isEmpty then "" else "." ++ String.ofList fraction)

/-! ## Arithmetic -/

def add? (a b : Decimal) : Option Decimal := ofUnits? (a.units + b.units)

def sub? (a b : Decimal) : Option Decimal := ofUnits? (a.units - b.units)

def neg? (a : Decimal) : Option Decimal := ofUnits? (-a.units)

def abs? (a : Decimal) : Option Decimal := ofUnits? a.units.natAbs

/-- Takes a factor out of a number at most `limit` times. Gives the rest and the times that are
left. -/
def takeFactor (factor : Int) : Nat → Int → Int × Nat
  | 0, n => (n, 0)
  | limit + 1, n =>
    if Int.tmod n factor = 0 then takeFactor factor limit (Int.tdiv n factor) else (n, limit + 1)

/-- The product. It exists where the two counts together hold the factors 2 and 5 that one of
them has too many, so that nothing is lost. -/
def mul? (a b : Decimal) : Option Decimal :=
  if a.units = 0 ∨ b.units = 0 then some zero
  else
    let (left, open₂) := takeFactor 2 places a.units
    let (right, open₂) := takeFactor 2 open₂ b.units
    let (left, open₅) := takeFactor 5 places left
    let (right, open₅) := takeFactor 5 open₅ right
    if open₂ = 0 ∧ open₅ = 0 then ofUnits? (left * right) else none

/-- Multiplies by ten as often as the result fits, at most `limit` times; counts the times. -/
def growTens : Nat → Int → Int × Nat
  | 0, n => (n, 0)
  | limit + 1, n =>
    if -bound ≤ 10 * n ∧ 10 * n < bound then
      let (grown, times) := growTens limit (10 * n)
      (grown, times + 1)
    else (n, 0)

/-- Divides by ten as often as nothing is lost, at most `limit` times; counts the times. -/
def shrinkTens : Nat → Int → Int × Nat
  | 0, n => (n, 0)
  | limit + 1, n =>
    if Int.tmod n 10 = 0 then
      let (shrunk, times) := shrinkTens limit (Int.tdiv n 10)
      (shrunk, times + 1)
    else (n, 0)

/-- A power of ten above the number of digits of every count. -/
def maxTens : Nat := 39

/-- The quotient. The dividend is scaled up and the divisor scaled down by powers of ten as far
as they go; the scales must bring at least 18 places and not so many that the power to take back
out does not fit. -/
def div? (a b : Decimal) : Option Decimal :=
  if b.units = 0 then none
  else
    let (left, up) := if a.units = 0 then (0, 0) else growTens maxTens a.units
    let (right, down) := shrinkTens maxTens b.units
    if places ≤ up + down ∧ up + down - places < maxTens then
      (ofUnits? (Int.tdiv left right)).bind fun quotient =>
        ofUnits? (Int.tdiv quotient.units (Nat.pow 10 (up + down - places)))
    else none

end Decimal

end GraphQuery
