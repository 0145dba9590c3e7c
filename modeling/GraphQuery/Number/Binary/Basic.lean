import GraphQuery.Number.Decimal

/-! # Binary floating-point numbers

* `Format` — how many significant bits a number has and between which exponents it lies.
* `Binary format` — the numbers of a format: finite ones, two infinities and not-a-number.
* `Format.round` — the nearest number of a format; a tie goes to the even significand.
* `Binary.add`, `Binary.sub`, `Binary.mul`, `Binary.div` — arithmetic on exact values, rounded
  once.
* `Binary.compare?` — the order; not-a-number has none.
-/

namespace GraphQuery

/-- A binary format: finite numbers are `m · 2^e` with `m < 2^precision` and
`minExponent ≤ e ≤ maxExponent`. -/
structure Format where
  precision : Nat
  minExponent : Int
  maxExponent : Int
  deriving DecidableEq

def Format.single : Format := ⟨24, -149, 104⟩

def Format.double : Format := ⟨53, -1074, 971⟩

inductive Binary (format : Format) where
  | nan
  | infinity (negative : Bool)
  /-- The number `significand · 2^exponent` with a sign. -/
  | finite (negative : Bool) (significand : Nat) (exponent : Int)
  deriving DecidableEq

/-! ## Rounding -/

/-- `2^n` for `n ≥ 0`, and 1 below. -/
def twoPower (n : Int) : Nat := Nat.pow 2 n.toNat

/-- The whole number nearest to `n / d`; a tie goes to the even one. -/
def roundDiv (n d : Nat) : Nat :=
  let q := n / d
  let twice := 2 * (n % d)
  if twice > d || (twice == d && q % 2 == 1) then q + 1 else q

namespace Format

/-- The exponent that leaves `precision` bits before the point of `n / d`, but no less than the
least one. -/
def exponentOf (format : Format) (n d : Nat) : Int :=
  let guess : Int := (n.log2 : Int) - d.log2 - format.precision
  -- with this exponent the quotient has `precision` or `precision + 1` bits
  let tooLong := n * twoPower (-guess) ≥ d * twoPower guess * Nat.pow 2 format.precision
  max (if tooLong then guess + 1 else guess) format.minExponent

/-- The number of the format nearest to `n / d`, where `d` is positive. -/
def round (format : Format) (negative : Bool) (n d : Nat) : Binary format :=
  if n = 0 then .finite negative 0 format.minExponent
  else
    let e := format.exponentOf n d
    let m := roundDiv (n * twoPower (-e)) (d * twoPower e)
    let (m, e) := if m = Nat.pow 2 format.precision then (m / 2, e + 1) else (m, e)
    if e > format.maxExponent then .infinity negative else .finite negative m e

end Format

namespace Binary

variable {format : Format}

def zero (negative : Bool) : Binary format := .finite negative 0 format.minExponent

def ofInt (n : Int) : Binary format := format.round (n < 0) n.natAbs 1

/-- The nearest number of another format. -/
def convert {source : Format} : Binary source → Binary format
  | nan => nan
  | infinity negative => infinity negative
  | finite negative m e => format.round negative (m * twoPower e) (twoPower (-e))

/-- A decimal in double precision: units and scale lose their common zeros, each is rounded, and
so is the quotient. -/
def ofDecimal (a : Decimal) : Binary format :=
  let (units, scale) := reduce Decimal.places a.units.natAbs Decimal.one
  match (Format.double.round (a.units < 0) units 1 : Binary .double), Format.double.round false scale 1 with
  | finite negative m e, finite _ n f =>
    convert (Format.double.round negative (m * twoPower (e - f)) (n * twoPower (f - e)))
  | value, _ => convert value
where
  /-- Divides both numbers by ten while nothing is lost. -/
  reduce : Nat → Nat → Nat → Nat × Nat
    | 0, units, scale => (units, scale)
    | limit + 1, units, scale =>
      if units % 10 = 0 then reduce limit (units / 10) (scale / 10) else (units, scale)

/-! ## Arithmetic -/

def neg : Binary format → Binary format
  | nan => nan
  | infinity negative => infinity !negative
  | finite negative m e => finite (!negative) m e

def abs : Binary format → Binary format
  | nan => nan
  | infinity _ => infinity false
  | finite _ m e => finite false m e

/-- A finite number as a whole count of `2^scale`, where `scale` is at most its exponent. -/
def countOf (negative : Bool) (m : Nat) (e scale : Int) : Int :=
  Number.signed negative (m * twoPower (e - scale))

/-- The sum. Opposite infinities have none, and numbers that cancel give positive zero. -/
def add : Binary format → Binary format → Binary format
  | nan, _ | _, nan => nan
  | infinity a, infinity b => if a == b then infinity a else nan
  | infinity a, finite .. => infinity a
  | finite .., infinity b => infinity b
  | finite a m e, finite b n f =>
    let scale := min e f
    let sum := countOf a m e scale + countOf b n f scale
    if sum = 0 then zero (a && b)
    else format.round (sum < 0) (sum.natAbs * twoPower scale) (twoPower (-scale))

def sub (a b : Binary format) : Binary format := add a (neg b)

/-- The product. Zero times infinity is not a number. -/
def mul : Binary format → Binary format → Binary format
  | nan, _ | _, nan => nan
  | infinity a, infinity b => infinity (a != b)
  | infinity a, finite b n _ => if n = 0 then nan else infinity (a != b)
  | finite a m _, infinity b => if m = 0 then nan else infinity (a != b)
  | finite a m e, finite b n f =>
    format.round (a != b) (m * n * twoPower (e + f)) (twoPower (-(e + f)))

/-- The quotient. Zero by zero and infinity by infinity are not numbers. -/
def div : Binary format → Binary format → Binary format
  | nan, _ | _, nan => nan
  | infinity _, infinity _ => nan
  | infinity a, finite b _ _ => infinity (a != b)
  | finite a _ _, infinity b => zero (a != b)
  | finite a m e, finite b n f =>
    if n = 0 then if m = 0 then nan else infinity (a != b)
    else format.round (a != b) (m * twoPower (e - f)) (n * twoPower (f - e))

/-! ## Order -/

/-- Neither zero nor not-a-number. -/
def isTrue : Binary format → Bool
  | nan => false
  | infinity _ => true
  | finite _ m _ => m != 0

/-- The order of the values. The two zeros are equal. -/
def compare? : Binary format → Binary format → Option Ordering
  | nan, _ | _, nan => none
  | infinity a, infinity b => some (compare b.toNat a.toNat)
  | infinity a, finite .. => some (if a then .lt else .gt)
  | finite .., infinity b => some (if b then .gt else .lt)
  | finite a m e, finite b n f =>
    some (compare (countOf a m e (min e f)) (countOf b n f (min e f)))

end Binary

end GraphQuery
