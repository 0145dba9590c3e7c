import GraphQuery.Number.Binary.Basic

/-! # The text of binary floating-point numbers

* `Binary.parse?` — reads a decimal with an optional exponent, an infinity or not-a-number.
* `Binary.shortest` — the fewest digits that read back as the number.
* `Binary.render` — those digits in positional notation.
-/

namespace GraphQuery

namespace Binary

variable {format : Format}

/-! ## Reading -/

/-- An exponent: an optional sign and digits. -/
def parseExponent? (s : List Char) : Option Int :=
  let (negative, digits) := Number.splitSign s
  if Number.areDigits digits then some (Number.signed negative (Number.ofDigits digits)) else none

/-- A number whose decimal point lies beyond this many places rounds to infinity or to zero in
every format. -/
def maxPlaces : Nat := 1100

/-- The nearest number to `digits · 10^exponent`. -/
def ofScientific (negative : Bool) (digits : List Char) (exponent : Int) : Binary format :=
  let digits := digits.dropWhile (· == '0')
  let magnitude := exponent + digits.length
  if digits.isEmpty || magnitude < -(maxPlaces : Int) then zero negative
  else if magnitude > maxPlaces then infinity negative
  else
    format.round negative (Number.ofDigits digits * Nat.pow 10 exponent.toNat)
      (Nat.pow 10 (-exponent).toNat)

/-- A decimal with an optional exponent. The digits before or after the point may be missing, but
not both. -/
def parseDecimal? (negative : Bool) (s : List Char) : Option (Binary format) :=
  let isMark := fun c : Char => c == 'e' || c == 'E'
  let mantissa := s.takeWhile fun c => !isMark c
  let whole := mantissa.takeWhile Char.isDigit
  let point := mantissa.drop whole.length
  let fraction := point.drop 1
  let exponent? := match s.drop mantissa.length with
    | [] => some 0
    | _ :: exponent => parseExponent? exponent
  match exponent? with
  | none => none
  | some exponent =>
    if (point.isEmpty || point.head? == some '.') && fraction.all Char.isDigit &&
        !(whole.isEmpty && fraction.isEmpty) then
      some (ofScientific negative (whole ++ fraction) (exponent - fraction.length))
    else none

/-- An optional sign, then an infinity or not-a-number in any case, or a decimal. -/
def parse? (s : List Char) : Option (Binary format) :=
  let (negative, s) := Number.splitSign s
  let word := String.ofList (s.map Char.toLower)
  if word == "inf" || word == "infinity" then some (infinity negative)
  else if word == "nan" then some nan
  else parseDecimal? negative s

/-! ## Writing -/

structure Scientific where
  digits : Nat
  exponent : Int
  deriving DecidableEq

/-- The interval of the values that round to `significand · 2^exponent`, in quarters of the last
place. It is closed where the significand is even. -/
structure Interval where
  low : Nat
  value : Nat
  high : Nat
  closed : Bool

/-- The values that round to a positive finite number. Below a power of two the numbers lie
twice as close. -/
def interval (format : Format) (m : Nat) (e : Int) : Interval where
  low :=
    if m = Nat.pow 2 (format.precision - 1) ∧ e > format.minExponent then 4 * m - 1 else 4 * m - 2
  value := 4 * m
  high := 4 * m + 2
  closed := m % 2 = 0

/-- The interval holds `n / d`, both in the same unit. -/
def Interval.holds (i : Interval) (n d : Nat) : Bool :=
  if i.closed then i.low * d ≤ n && n ≤ i.high * d else i.low * d < n && n < i.high * d

/-- The point of the grid of multiples of `10^k` that lies nearest to the value among those in
the interval; of two points at the same distance the greater. -/
def nearestOnGrid? (i : Interval) (e k : Int) : Option Nat :=
  -- one quarter is `quarter / grid` steps of the grid
  let quarter := twoPower (e - 2) * Nat.pow 10 (-k).toNat
  let grid := twoPower (2 - e) * Nat.pow 10 k.toNat
  let below := i.value * quarter / grid
  let holds := fun n => i.holds (n * grid) quarter
  match holds below, holds (below + 1) with
  | true, true =>
    if i.value * quarter - below * grid < (below + 1) * grid - i.value * quarter then some below
    else some (below + 1)
  | true, false => some below
  | false, true => some (below + 1)
  | false, false => none

/-- A power of ten above the value. -/
def topExponent (m : Nat) (e : Int) : Int := ((m.log2 : Int) + e) * 30103 / 100000 + 2

/-- The fewest digits that read back as a positive finite number, and of these the nearest. -/
def shortest (format : Format) (m : Nat) (e : Int) : Scientific :=
  let i := interval format m e
  let found := (List.range 25).findSome? fun (n : Nat) =>
    let k := topExponent m e - n
    (nearestOnGrid? i e k).map fun digits => Scientific.mk digits k
  found.getD ⟨m * twoPower e, 0⟩

def Scientific.render (s : Scientific) : String :=
  if 0 ≤ s.exponent then
    String.ofList (Number.digitsOf s.digits ++ List.replicate s.exponent.toNat '0')
  else
    let places := (-s.exponent).toNat
    let digits := Number.padded (places + 1) s.digits
    let whole := digits.length - places
    String.ofList (digits.take whole) ++ "." ++ String.ofList (digits.drop whole)

/-- The shortest digits in positional notation, without a point for whole numbers. -/
def render : Binary format → String
  | nan => "NaN"
  | infinity negative => if negative then "-INF" else "INF"
  | finite negative m e =>
    (if negative then "-" else "") ++ (if m = 0 then "0" else (shortest format m e).render)

end Binary

end GraphQuery
