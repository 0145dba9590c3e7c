import GraphQuery.Number.Binary.Text
import GraphQuery.Term.Basic

/-! # Numeric values

* `Numeric` — integers, decimals and two kinds of binary numbers.
* `NumericPair` — two numbers of one kind; `NumericPair.promote` brings two numbers to the wider
  of their kinds, in the order integer, decimal, single, double.
* `Numeric.add?`, …, `Numeric.compare?` — arithmetic and order on promoted numbers.
* `Numeric.toTerm` — the literal of a number.
-/

namespace GraphQuery

inductive Numeric where
  | integer (value : Integer)
  | decimal (value : Decimal)
  | single (value : Binary .single)
  | double (value : Binary .double)
  deriving DecidableEq

/-- Two numbers of one kind. -/
inductive NumericPair where
  | integer (a b : Integer)
  | decimal (a b : Decimal)
  | single (a b : Binary .single)
  | double (a b : Binary .double)
  deriving DecidableEq

namespace Numeric

/-- The number as a decimal; binary numbers have none. -/
def toDecimal? : Numeric → Option Decimal
  | integer a => some (.ofInteger a)
  | decimal a => some a
  | _ => none

def toSingle : Numeric → Binary .single
  | integer a => .ofInt a.value
  | decimal a => .ofDecimal a
  | single a => a
  | double a => a.convert

def toDouble : Numeric → Binary .double
  | integer a => .ofInt a.value
  | decimal a => .ofDecimal a
  | single a => a.convert
  | double a => a

end Numeric

namespace NumericPair

/-- Both numbers in the wider of their kinds. -/
def promote : Numeric → Numeric → NumericPair
  | .integer a, .integer b => integer a b
  | .integer a, .decimal b => decimal (.ofInteger a) b
  | .decimal a, .integer b => decimal a (.ofInteger b)
  | .decimal a, .decimal b => decimal a b
  | .double a, b => double a b.toDouble
  | a, .double b => double a.toDouble b
  | .single a, b => single a b.toSingle
  | a, .single b => single a.toSingle b

end NumericPair

namespace Numeric

/-! ## Arithmetic -/

def add? (a b : Numeric) : Option Numeric :=
  match NumericPair.promote a b with
  | .integer a b => (a.add? b).map integer
  | .decimal a b => (a.add? b).map decimal
  | .single a b => some (single (a.add b))
  | .double a b => some (double (a.add b))

def sub? (a b : Numeric) : Option Numeric :=
  match NumericPair.promote a b with
  | .integer a b => (a.sub? b).map integer
  | .decimal a b => (a.sub? b).map decimal
  | .single a b => some (single (a.sub b))
  | .double a b => some (double (a.sub b))

def mul? (a b : Numeric) : Option Numeric :=
  match NumericPair.promote a b with
  | .integer a b => (a.mul? b).map integer
  | .decimal a b => (a.mul? b).map decimal
  | .single a b => some (single (a.mul b))
  | .double a b => some (double (a.mul b))

/-- The quotient in the wider kind; integers are divided as decimals. -/
def div? (a b : Numeric) : Option Numeric :=
  match NumericPair.promote a b with
  | .integer a b => ((Decimal.ofInteger a).div? (.ofInteger b)).map decimal
  | .decimal a b => (a.div? b).map decimal
  | .single a b => some (single (a.div b))
  | .double a b => some (double (a.div b))

def neg? : Numeric → Option Numeric
  | integer a => a.neg?.map integer
  | decimal a => a.neg?.map decimal
  | single a => some (single a.neg)
  | double a => some (double a.neg)

def abs? : Numeric → Option Numeric
  | integer a => a.abs?.map integer
  | decimal a => a.abs?.map decimal
  | single a => some (single a.abs)
  | double a => some (double a.abs)

/-! ## Order and truth -/

/-- The order of the promoted numbers; not-a-number has none. -/
def compare? (a b : Numeric) : Option Ordering :=
  match NumericPair.promote a b with
  | .integer a b => some (compare a.value b.value)
  | .decimal a b => some (compare a.units b.units)
  | .single a b => a.compare? b
  | .double a b => a.compare? b

/-- False for zeros and not-a-number. -/
def isTrue : Numeric → Bool
  | integer a => a.value != 0
  | decimal a => a.units != 0
  | single a => a.isTrue
  | double a => a.isTrue

/-! ## Terms -/

def toTerm : Numeric → Term
  | integer a => .ofDatatype a.render .integer
  | decimal a => .ofDatatype a.render .decimal
  | single a => .ofDatatype a.render .float
  | double a => .ofDatatype a.render .double

end Numeric

end GraphQuery
