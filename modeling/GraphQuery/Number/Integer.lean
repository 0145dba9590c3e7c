/-! # Integers

Whole numbers of 64 bits with a sign. Operations whose result does not fit have none.

* `Number.ofDigits`, `Number.digitsOf` — numbers and their digits.
* `Number.splitSign`, `Number.areDigits` — an optional sign in front of a text of one or more digits.
* `Integer` — the numbers.
* `Integer.parse?`, `Integer.render` — their text.
* `Integer.add?`, `Integer.sub?`, `Integer.mul?`, `Integer.neg?`, `Integer.abs?` — arithmetic.
-/

namespace GraphQuery

/-! ## Digits -/

namespace Number

def ofDigits (digits : List Char) : Nat :=
  digits.foldl (fun n c => 10 * n + (c.toNat - '0'.toNat)) 0

/-- One or more ASCII digits. -/
def areDigits (s : List Char) : Bool := !s.isEmpty && s.all Char.isDigit

/-- Takes an optional sign off a text; the flag tells a minus sign. -/
def splitSign : List Char → Bool × List Char
  | '-' :: rest => (true, rest)
  | '+' :: rest => (false, rest)
  | s => (false, s)

/-- A magnitude with a sign. -/
def signed (negative : Bool) (n : Nat) : Int := if negative then -(n : Int) else n

def digitsOf (n : Nat) : List Char := Nat.toDigits 10 n

/-- The digits of a number, with zeros in front up to the width. -/
def padded (width n : Nat) : List Char :=
  List.replicate (width - (digitsOf n).length) '0' ++ digitsOf n

end Number

/-! ## Integers -/

/-- A whole number between `-2^63` and `2^63 - 1`. -/
structure Integer where
  value : Int
  lower : -9223372036854775808 ≤ value
  upper : value < 9223372036854775808
  deriving DecidableEq

namespace Integer

def Fits (n : Int) : Prop := -9223372036854775808 ≤ n ∧ n < 9223372036854775808

def ofInt? (value : Int) : Option Integer :=
  if h : -9223372036854775808 ≤ value ∧ value < 9223372036854775808 then some ⟨value, h.1, h.2⟩
  else none

theorem ofInt?_eq_some_iff {n : Int} {a : Integer} : ofInt? n = some a ↔ a.value = n := by
  unfold ofInt?
  constructor
  · intro h
    split at h
    · cases h
      rfl
    · cases h
  · rintro rfl
    exact dif_pos ⟨a.lower, a.upper⟩

theorem isSome_ofInt? {n : Int} : (ofInt? n).isSome ↔ Fits n := by
  unfold ofInt? Fits
  split <;> simp [*]

/-- An optional sign and digits. -/
def parse? (s : List Char) : Option Integer :=
  let (negative, digits) := Number.splitSign s
  if Number.areDigits digits then ofInt? (Number.signed negative (Number.ofDigits digits)) else none

/-- A minus sign for negative numbers and the digits. -/
def render (a : Integer) : String := toString a.value

def add? (a b : Integer) : Option Integer := ofInt? (a.value + b.value)

def sub? (a b : Integer) : Option Integer := ofInt? (a.value - b.value)

def mul? (a b : Integer) : Option Integer := ofInt? (a.value * b.value)

def neg? (a : Integer) : Option Integer := ofInt? (-a.value)

def abs? (a : Integer) : Option Integer := ofInt? a.value.natAbs

end Integer

end GraphQuery
