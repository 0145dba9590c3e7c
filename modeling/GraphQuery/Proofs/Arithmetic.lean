import GraphQuery.Expression.Evaluate
import GraphQuery.Proofs.NumberText
import Mathlib.Algebra.Order.Field.Basic
import Mathlib.Algebra.Order.Field.Rat
import Mathlib.Tactic.NormNum

/-! # Exact arithmetic

Sums, differences, negations and absolute values of integers and decimals are exact, and so are products of
integers. The result of every operation becomes a literal, which the next operation reads; it exists
exactly if its value lies in the range of its family.

* `ExactNumber` — rational numbers of the two families, with exact operations.
* `ExactNumber.IsResult` — an operation on numbers gives the exact number if it fits, else nothing.
* `ExactNumber.add?_isResult`, … — the operations on numbers.
* `Expression.exactNumber?`, `Expression.IsExact` — the exact number of an expression, and what it means
  that evaluation comes to it.
* `Expression.isExact_unary`, `Expression.isExact_binary` — one operation.
* `Expression.evaluate?_exact` — nested operations.
-/

namespace GraphQuery

/-! ## Exact numbers -/

/-- The families of exact numbers. -/
inductive ExactFamily where
  | integer | decimal
  deriving DecidableEq

namespace ExactFamily

/-- Integers meet in the integers, and everything else in the decimals. -/
def join : ExactFamily → ExactFamily → ExactFamily
  | integer, integer => integer
  | _, _ => decimal

theorem join_eq_integer_iff {f g : ExactFamily} : f.join g = integer ↔ f = integer ∧ g = integer := by
  cases f <;> cases g <;> decide

/-- The datatype of the numbers of the family. -/
def datatype : ExactFamily → Datatype
  | integer => .integer
  | decimal => .decimal

end ExactFamily

/-- A rational number of a family, in range or not. -/
structure ExactNumber where
  family : ExactFamily
  value : ℚ
  deriving DecidableEq

namespace ExactNumber

/-- Integers have 64 bits and a sign, decimals count units of `10^-18` in 128 bits with a sign. -/
def Fits (x : ExactNumber) : Prop :=
  match x.family with
  | .integer => -2 ^ 63 ≤ x.value ∧ x.value < 2 ^ 63
  | .decimal => -2 ^ 127 ≤ x.value * 10 ^ 18 ∧ x.value * 10 ^ 18 < 2 ^ 127

/-- The sum. -/
def add (x y : ExactNumber) : ExactNumber := ⟨x.family.join y.family, x.value + y.value⟩

/-- The difference. -/
def sub (x y : ExactNumber) : ExactNumber := ⟨x.family.join y.family, x.value - y.value⟩

/-- The product of two integers. -/
def mul? (x y : ExactNumber) : Option ExactNumber :=
  if x.family = .integer ∧ y.family = .integer then some ⟨.integer, x.value * y.value⟩ else none

theorem mul?_eq_some_iff {x y z : ExactNumber} :
    x.mul? y = some z ↔
      (x.family = .integer ∧ y.family = .integer) ∧ ⟨.integer, x.value * y.value⟩ = z := by
  simp [mul?]

/-- The negation. -/
def neg (x : ExactNumber) : ExactNumber := ⟨x.family, -x.value⟩

/-- The absolute value. -/
def abs (x : ExactNumber) : ExactNumber := ⟨x.family, |x.value|⟩

/-- A whole number. -/
def ofInt (n : Int) : ExactNumber := ⟨.integer, n⟩

/-- A count of units of `10^-18`. -/
def ofUnits (units : Int) : ExactNumber := ⟨.decimal, units / Decimal.one⟩

theorem fits_ofInt {n : Int} : (ofInt n).Fits ↔ Integer.Fits n := by
  unfold ofInt Fits Integer.Fits
  norm_num
  norm_cast

theorem fits_ofUnits {n : Int} : (ofUnits n).Fits ↔ Decimal.Fits n := by
  have hOne : (n : ℚ) / Decimal.one * 10 ^ 18 = n := by
    norm_num [Decimal.one, Decimal.places]
  unfold ofUnits Fits Decimal.Fits Decimal.bound
  rw [hOne]
  norm_num
  norm_cast

end ExactNumber

/-! ## Operations on numbers -/

/-- The number with its family. Binary numbers have none. -/
def Numeric.exactNumber? : Numeric → Option ExactNumber
  | integer a => some (.ofInt a.value)
  | decimal a => some (.ofUnits a.units)
  | _ => none

namespace ExactNumber

variable {x y z : ExactNumber} {m n : Numeric}

theorem fits_of_exactNumber? (h : n.exactNumber? = some x) : x.Fits := by
  cases n with
  | integer a =>
    cases h
    exact fits_ofInt.mpr ⟨a.lower, a.upper⟩
  | decimal a =>
    cases h
    exact fits_ofUnits.mpr ⟨a.lower, a.upper⟩
  | single _ | double _ => cases h

/-- The result of an operation is the exact number where that fits, and there is none where it does not. -/
structure IsResult (x : ExactNumber) (result : Option Numeric) : Prop where
  isSome_iff : result.isSome ↔ x.Fits
  exactNumber?_eq : ∀ n, result = some n → n.exactNumber? = some x

theorem isResult_ofInt (k : Int) : (ofInt k).IsResult ((Integer.ofInt? k).map .integer) where
  isSome_iff := by rw [Option.isSome_map, Integer.isSome_ofInt?, fits_ofInt]
  exactNumber?_eq n h := by
    obtain ⟨a, ha, rfl⟩ := Option.map_eq_some_iff.mp h
    rw [Numeric.exactNumber?, Integer.ofInt?_eq_some_iff.mp ha]

theorem isResult_ofUnits (k : Int) : (ofUnits k).IsResult ((Decimal.ofUnits? k).map .decimal) where
  isSome_iff := by rw [Option.isSome_map, Decimal.isSome_ofUnits?, fits_ofUnits]
  exactNumber?_eq n h := by
    obtain ⟨a, ha, rfl⟩ := Option.map_eq_some_iff.mp h
    rw [Numeric.exactNumber?, Decimal.ofUnits?_eq_some_iff.mp ha]

/-- Promotion changes no value. Two integers stay integers, and otherwise both numbers become decimals. -/
theorem promote_cases (hm : m.exactNumber? = some x) (hn : n.exactNumber? = some y) :
    (∃ a b, NumericPair.promote m n = .integer a b ∧ x = ofInt a.value ∧ y = ofInt b.value) ∨
      ∃ a b, NumericPair.promote m n = .decimal a b ∧ x.family.join y.family = .decimal ∧
        x.value = (ofUnits a.units).value ∧ y.value = (ofUnits b.units).value := by
  have hOne : (Decimal.one : ℚ) ≠ 0 := by norm_num [Decimal.one]
  have hInteger : ∀ a : Integer, (ofInt a.value).value = (ofUnits (Decimal.ofInteger a).units).value := by
    simp [ofInt, ofUnits, Decimal.ofInteger, hOne]
  cases m with
  | integer a =>
    cases hm
    cases n with
    | integer b =>
      cases hn
      exact .inl ⟨a, b, rfl, rfl, rfl⟩
    | decimal b =>
      cases hn
      exact .inr ⟨_, b, rfl, rfl, hInteger a, rfl⟩
    | single _ | double _ => cases hn
  | decimal a =>
    cases hm
    cases n with
    | integer b =>
      cases hn
      exact .inr ⟨a, _, rfl, rfl, rfl, hInteger b⟩
    | decimal b =>
      cases hn
      exact .inr ⟨a, b, rfl, rfl, rfl, rfl⟩
    | single _ | double _ => cases hn
  | single _ | double _ => cases hm

/-- An operation on whole numbers that may as well be done on fractions gives the exact number of its
operands: on integers it counts ones, on decimals it counts units. -/
theorem isResult_of_promote {operation : ℤ → ℤ → ℤ} {exactly : ℚ → ℚ → ℚ} {result : Option Numeric}
    (hWhole : ∀ k l : ℤ, exactly k l = operation k l)
    (hUnits : ∀ k l : ℤ, exactly (k / Decimal.one) (l / Decimal.one) = exactly k l / Decimal.one)
    (hInteger : ∀ a b, NumericPair.promote m n = .integer a b →
      result = (Integer.ofInt? (operation a.value b.value)).map .integer)
    (hDecimal : ∀ a b, NumericPair.promote m n = .decimal a b →
      result = (Decimal.ofUnits? (operation a.units b.units)).map .decimal)
    (hm : m.exactNumber? = some x) (hn : n.exactNumber? = some y) :
    IsResult ⟨x.family.join y.family, exactly x.value y.value⟩ result := by
  rcases promote_cases hm hn with ⟨a, b, hPair, rfl, rfl⟩ | ⟨a, b, hPair, hFamily, hx, hy⟩
  · rw [hInteger a b hPair]
    have hExact := isResult_ofInt (operation a.value b.value)
    rwa [ofInt, ← hWhole] at hExact
  · rw [hDecimal a b hPair, hFamily, hx, hy]
    have hExact := isResult_ofUnits (operation a.units b.units)
    rwa [ofUnits, ← hWhole, ← hUnits] at hExact

theorem add?_isResult (hm : m.exactNumber? = some x) (hn : n.exactNumber? = some y) :
    (x.add y).IsResult (m.add? n) := by
  have hInteger : ∀ a b, NumericPair.promote m n = .integer a b →
      m.add? n = (Integer.ofInt? (a.value + b.value)).map .integer := fun a b hPair => by
    rw [Numeric.add?, hPair]
    rfl
  have hDecimal : ∀ a b, NumericPair.promote m n = .decimal a b →
      m.add? n = (Decimal.ofUnits? (a.units + b.units)).map .decimal := fun a b hPair => by
    rw [Numeric.add?, hPair]
    rfl
  exact isResult_of_promote (fun k l => (Int.cast_add k l).symm) (fun _ _ => (add_div _ _ _).symm) hInteger
    hDecimal hm hn

theorem sub?_isResult (hm : m.exactNumber? = some x) (hn : n.exactNumber? = some y) :
    (x.sub y).IsResult (m.sub? n) := by
  have hInteger : ∀ a b, NumericPair.promote m n = .integer a b →
      m.sub? n = (Integer.ofInt? (a.value - b.value)).map .integer := fun a b hPair => by
    rw [Numeric.sub?, hPair]
    rfl
  have hDecimal : ∀ a b, NumericPair.promote m n = .decimal a b →
      m.sub? n = (Decimal.ofUnits? (a.units - b.units)).map .decimal := fun a b hPair => by
    rw [Numeric.sub?, hPair]
    rfl
  exact isResult_of_promote (fun k l => (Int.cast_sub k l).symm) (fun _ _ => (sub_div _ _ _).symm) hInteger
    hDecimal hm hn

theorem mul?_isResult (hm : m.exactNumber? = some x) (hn : n.exactNumber? = some y)
    (hz : x.mul? y = some z) : z.IsResult (m.mul? n) := by
  rw [Numeric.mul?]
  obtain ⟨⟨hx, hy⟩, rfl⟩ := mul?_eq_some_iff.mp hz
  rcases promote_cases hm hn with ⟨a, b, hPair, rfl, rfl⟩ | ⟨a, b, hPair, hFamily, -, -⟩
  · have hProduct : (⟨.integer, (ofInt a.value).value * (ofInt b.value).value⟩ : ExactNumber) =
        ofInt (a.value * b.value) := by
      simp [ofInt]
    rw [hPair, hProduct]
    exact isResult_ofInt _
  · rw [hx, hy] at hFamily
    cases hFamily

/-- Operations on one number need no promotion. -/
theorem isResult_of_numeric {operation : ℤ → ℤ} {exactly : ℚ → ℚ} {result : Numeric → Option Numeric}
    (hWhole : ∀ k : ℤ, exactly k = operation k)
    (hUnits : ∀ k : ℤ, exactly (k / Decimal.one) = exactly k / Decimal.one)
    (hInteger : ∀ a, result (.integer a) = (Integer.ofInt? (operation a.value)).map .integer)
    (hDecimal : ∀ a, result (.decimal a) = (Decimal.ofUnits? (operation a.units)).map .decimal)
    (hn : n.exactNumber? = some x) : IsResult ⟨x.family, exactly x.value⟩ (result n) := by
  cases n with
  | integer a =>
    cases hn
    rw [hInteger]
    have hExact := isResult_ofInt (operation a.value)
    rwa [ofInt, ← hWhole] at hExact
  | decimal a =>
    cases hn
    rw [hDecimal]
    have hExact := isResult_ofUnits (operation a.units)
    rwa [ofUnits, ← hWhole, ← hUnits] at hExact
  | single _ | double _ => cases hn

theorem neg?_isResult (hn : n.exactNumber? = some x) : x.neg.IsResult n.neg? := by
  have hWhole : ∀ k : ℤ, -(k : ℚ) = (-k : ℤ) := fun k => by simp
  have hUnits : ∀ k : ℤ, -((k : ℚ) / Decimal.one) = -(k : ℚ) / Decimal.one := fun k => by simp [neg_div]
  exact isResult_of_numeric hWhole hUnits (fun _ => rfl) (fun _ => rfl) hn

theorem abs?_isResult (hn : n.exactNumber? = some x) : x.abs.IsResult n.abs? := by
  have hWhole : ∀ k : ℤ, |(k : ℚ)| = (k.natAbs : ℤ) := fun k => by simp
  have hUnits : ∀ k : ℤ, |(k : ℚ) / Decimal.one| = |(k : ℚ)| / Decimal.one := fun k => by simp [abs_div]
  exact isResult_of_numeric hWhole hUnits (fun _ => rfl) (fun _ => rfl) hn

end ExactNumber

/-! ## Expressions -/

/-- The exact number that a literal of an integer or decimal denotes. -/
def Term.exactNumber? (t : Term) : Option ExactNumber := t.number?.bind Numeric.exactNumber?

/-- Printing an exact number and reading it again gives it back. -/
theorem ExactNumber.exactNumber?_toTerm {n : Numeric} {x : ExactNumber} (h : n.exactNumber? = some x) :
    n.toTerm.exactNumber? = some x ∧ n.toTerm.datatype? = some x.family.datatype.iri := by
  cases n with
  | integer a =>
    cases h
    rw [Term.exactNumber?, Numeric.number?_toTerm_integer]
    exact ⟨rfl, rfl⟩
  | decimal a =>
    cases h
    rw [Term.exactNumber?, Numeric.number?_toTerm_decimal]
    exact ⟨rfl, rfl⟩
  | single _ | double _ => cases h

namespace Expression

/-- The exact number of an expression that is built from integers and decimals with sums, differences,
negations, absolute values, and products of integers. Ranges do not matter. -/
def exactNumber? (r : Row) : Expression → Option ExactNumber
  | constant t => t.exactNumber?
  | var v => (r.term? v).bind Term.exactNumber?
  | unary .negate e => (e.exactNumber? r).map .neg
  | unary .abs e => (e.exactNumber? r).map .abs
  | binary .add a b => do return (← a.exactNumber? r).add (← b.exactNumber? r)
  | binary .subtract a b => do return (← a.exactNumber? r).sub (← b.exactNumber? r)
  | binary .multiply a b => do (← a.exactNumber? r).mul? (← b.exactNumber? r)
  | _ => none

/-- The expression, its operands, and theirs. -/
def subexpressions : Expression → List Expression
  | unary f e => unary f e :: e.subexpressions
  | binary f a b => binary f a b :: (a.subexpressions ++ b.subexpressions)
  | e => [e]

/-- A constant or a variable. -/
def isLeaf : Expression → Bool
  | constant _ | var _ => true
  | _ => false

variable {r : Row} {e a b : Expression} {x y z : ExactNumber} {t : Term}

/-- All constants and variables of the expression are integers. -/
def OfIntegers (r : Row) (e : Expression) : Prop :=
  ∀ s ∈ e.subexpressions, s.isLeaf = true → ∃ y, s.exactNumber? r = some y ∧ y.family = .integer

theorem ofIntegers_unary {f : UnaryFunction} : (unary f e).OfIntegers r ↔ e.OfIntegers r := by
  unfold OfIntegers
  rw [subexpressions, List.forall_mem_cons]
  exact and_iff_right nofun

theorem ofIntegers_binary {f : BinaryFunction} :
    (binary f a b).OfIntegers r ↔ a.OfIntegers r ∧ b.OfIntegers r := by
  unfold OfIntegers
  rw [subexpressions, List.forall_mem_cons, List.forall_mem_append]
  exact and_iff_right nofun

/-- One decimal anywhere makes the whole expression a decimal. -/
theorem family_eq_integer_iff (h : e.exactNumber? r = some x) :
    x.family = .integer ↔ e.OfIntegers r := by
  fun_induction exactNumber? r e generalizing x with
  | case1 t => simp [OfIntegers, subexpressions, isLeaf, exactNumber?, h]
  | case2 v => simp [OfIntegers, subexpressions, isLeaf, exactNumber?, h]
  | case3 e ih | case4 e ih =>
    obtain ⟨y, hy, rfl⟩ := Option.map_eq_some_iff.mp h
    have hOperand := ih hy
    rw [ofIntegers_unary]
    exact hOperand
  | case5 a b iha ihb | case6 a b iha ihb =>
    obtain ⟨y, hy, h⟩ := Option.bind_eq_some_iff.mp h
    obtain ⟨z, hz, h⟩ := Option.bind_eq_some_iff.mp h
    cases h
    rw [ofIntegers_binary, ← iha hy, ← ihb hz]
    exact ExactFamily.join_eq_integer_iff
  | case7 a b iha ihb =>
    obtain ⟨y, hy, h⟩ := Option.bind_eq_some_iff.mp h
    obtain ⟨z, hz, h⟩ := Option.bind_eq_some_iff.mp h
    obtain ⟨hFamilies, rfl⟩ := ExactNumber.mul?_eq_some_iff.mp h
    rw [ofIntegers_binary, ← iha hy, ← ihb hz]
    exact iff_of_true rfl hFamilies
  | case8 => cases h

/-- The expression yields its exact number where all subexpressions have theirs in range, and is in error
otherwise. -/
structure IsExact (r : Row) (e : Expression) (x : ExactNumber) : Prop where
  isSome_iff : (e.evaluate? r).isSome ↔
    ∀ s ∈ e.subexpressions, ∃ y, s.exactNumber? r = some y ∧ y.Fits
  exactNumber?_eq : ∀ t, e.evaluate? r = some t → t.exactNumber? = some x
  datatype?_eq : e.isLeaf = false → ∀ t, e.evaluate? r = some t →
    t.datatype? = some x.family.datatype.iri

theorem exists_number? (h : t.exactNumber? = some x) :
    ∃ n, t.number? = some n ∧ n.exactNumber? = some x := Option.bind_eq_some_iff.mp h

/-- Numbers that are read are in range. -/
theorem isExact_leaf (hLeaf : e.isLeaf = true) (he : e.exactNumber? r = some x)
    (hTerm : (e.evaluate? r).bind Term.exactNumber? = some x) : e.IsExact r x := by
  obtain ⟨t, ht, hx⟩ := Option.bind_eq_some_iff.mp hTerm
  obtain ⟨n, -, hn⟩ := exists_number? hx
  have hSubexpressions : e.subexpressions = [e] := by
    cases e with
    | constant _ | var _ => rfl
    | _ => cases hLeaf
  refine ⟨?_, fun u hu => ?_, fun h => absurd (h.symm.trans hLeaf) nofun⟩
  · simp [hSubexpressions, ht, he, ExactNumber.fits_of_exactNumber? hn]
  · rwa [← Option.some.inj (ht.symm.trans hu)]

/-- An operation on operands in range has a result if its exact number fits. -/
theorem isExact_node {operands : List Expression} {result : Option Numeric}
    (hSubexpressions : e.subexpressions = e :: operands) (hx : e.exactNumber? r = some x)
    (hOperands : ∀ s ∈ operands, ∃ y, s.exactNumber? r = some y ∧ y.Fits)
    (hEvaluate : e.evaluate? r = result.map Numeric.toTerm) (hResult : x.IsResult result) :
    e.IsExact r x where
  isSome_iff := by
    rw [hEvaluate, Option.isSome_map, hResult.isSome_iff, hSubexpressions, List.forall_mem_cons,
      and_iff_left hOperands, hx]
    simp
  exactNumber?_eq t ht := by
    rw [hEvaluate] at ht
    obtain ⟨n, hn, rfl⟩ := Option.map_eq_some_iff.mp ht
    exact (ExactNumber.exactNumber?_toTerm (hResult.exactNumber?_eq n hn)).1
  datatype?_eq _ t ht := by
    rw [hEvaluate] at ht
    obtain ⟨n, hn, rfl⟩ := Option.map_eq_some_iff.mp ht
    exact (ExactNumber.exactNumber?_toTerm (hResult.exactNumber?_eq n hn)).2

/-- An operation fails with its operands, one of whose subexpressions is out of range then. -/
theorem isExact_of_evaluate?_eq_none {operand : Expression} (hOperand : operand.IsExact r y)
    (hMem : operand.subexpressions ⊆ e.subexpressions) (hError : operand.evaluate? r = none)
    (hEvaluate : e.evaluate? r = none) : e.IsExact r x where
  isSome_iff := by
    have hRange : ¬ ∀ s ∈ operand.subexpressions, ∃ y, s.exactNumber? r = some y ∧ y.Fits := by
      rw [← hOperand.isSome_iff, hError]
      decide
    rw [hEvaluate]
    exact ⟨nofun, fun h => absurd (fun s hs => h s (hMem hs)) hRange⟩
  exactNumber?_eq t ht := by simp [hEvaluate] at ht
  datatype?_eq _ t ht := by simp [hEvaluate] at ht

theorem isExact_unary {f : UnaryFunction} {operation : Numeric → Option Numeric}
    (hf : ∀ t : Term, f.result? t = do return (← operation (← t.number?)).toTerm)
    (he : e.IsExact r x) (hz : (unary f e).exactNumber? r = some z)
    (hOperation : ∀ n : Numeric, n.exactNumber? = some x → z.IsResult (operation n)) :
    (unary f e).IsExact r z := by
  have hEvaluate : (unary f e).evaluate? r = (e.evaluate? r).bind f.result? := by rw [evaluate?]
  cases ht : e.evaluate? r with
  | none =>
    rw [ht] at hEvaluate
    exact isExact_of_evaluate?_eq_none he (List.subset_cons_self _ _) ht hEvaluate
  | some t =>
    obtain ⟨n, hNumber, hn⟩ := exists_number? (he.exactNumber?_eq t ht)
    have hResult : (unary f e).evaluate? r = (operation n).map Numeric.toTerm := by
      rw [hEvaluate, ht, Option.bind_some, hf]
      simp [hNumber, Option.map_eq_bind]
    exact isExact_node rfl hz (he.isSome_iff.mp (by simp [ht])) hResult (hOperation n hn)

theorem isExact_binary {f : BinaryFunction} {operation : Numeric → Numeric → Option Numeric}
    (hf : ∀ a b : Option Term, f.result? a b =
      a.bind fun s => b.bind fun t => BinaryFunction.arithmetic? operation s t)
    (ha : a.IsExact r x) (hb : b.IsExact r y) (hz : (binary f a b).exactNumber? r = some z)
    (hOperation : ∀ m n : Numeric, m.exactNumber? = some x → n.exactNumber? = some y →
      z.IsResult (operation m n)) :
    (binary f a b).IsExact r z := by
  have hEvaluate : (binary f a b).evaluate? r = (a.evaluate? r).bind fun s =>
      (b.evaluate? r).bind fun t => BinaryFunction.arithmetic? operation s t := by rw [evaluate?, hf]
  have hSubexpressions : (binary f a b).subexpressions =
      binary f a b :: (a.subexpressions ++ b.subexpressions) := rfl
  cases hs : a.evaluate? r with
  | none =>
    rw [hs] at hEvaluate
    refine isExact_of_evaluate?_eq_none ha ?_ hs hEvaluate
    exact fun _ h => List.mem_cons_of_mem _ (List.mem_append_left _ h)
  | some s =>
    cases ht : b.evaluate? r with
    | none =>
      rw [hs, ht] at hEvaluate
      refine isExact_of_evaluate?_eq_none hb ?_ ht hEvaluate
      exact fun _ h => List.mem_cons_of_mem _ (List.mem_append_right _ h)
    | some t =>
      obtain ⟨m, hFirst, hm⟩ := exists_number? (ha.exactNumber?_eq s hs)
      obtain ⟨n, hSecond, hn⟩ := exists_number? (hb.exactNumber?_eq t ht)
      have hOperands : ∀ s ∈ a.subexpressions ++ b.subexpressions,
          ∃ y, s.exactNumber? r = some y ∧ y.Fits :=
        List.forall_mem_append.mpr ⟨ha.isSome_iff.mp (by simp [hs]), hb.isSome_iff.mp (by simp [ht])⟩
      have hResult : (binary f a b).evaluate? r = (operation m n).map Numeric.toTerm := by
        rw [hEvaluate, hs, ht]
        simp [BinaryFunction.arithmetic?, hFirst, hSecond, Option.map_eq_bind]
      exact isExact_node hSubexpressions hz hOperands hResult (hOperation m n hm hn)

/-- The operands of an operation are exact, and so it is exact on the literals that they yield. -/
theorem isExact (h : e.exactNumber? r = some x) : e.IsExact r x := by
  -- One case for each equation of the exact number: the leaves, the operations, and all other forms.
  fun_induction exactNumber? r e generalizing x with
  | case1 t => exact isExact_leaf rfl h h
  | case2 v => exact isExact_leaf rfl h h
  | case3 e ih =>
    obtain ⟨y, hy, rfl⟩ := Option.map_eq_some_iff.mp h
    exact isExact_unary (fun _ => rfl) (ih hy) (by simp [exactNumber?, hy])
      fun _ => ExactNumber.neg?_isResult
  | case4 e ih =>
    obtain ⟨y, hy, rfl⟩ := Option.map_eq_some_iff.mp h
    exact isExact_unary (fun _ => rfl) (ih hy) (by simp [exactNumber?, hy])
      fun _ => ExactNumber.abs?_isResult
  | case5 a b iha ihb =>
    obtain ⟨y, hy, h⟩ := Option.bind_eq_some_iff.mp h
    obtain ⟨z, hz, h⟩ := Option.bind_eq_some_iff.mp h
    cases h
    exact isExact_binary (fun _ _ => rfl) (iha hy) (ihb hz) (by simp [exactNumber?, hy, hz])
      fun _ _ => ExactNumber.add?_isResult
  | case6 a b iha ihb =>
    obtain ⟨y, hy, h⟩ := Option.bind_eq_some_iff.mp h
    obtain ⟨z, hz, h⟩ := Option.bind_eq_some_iff.mp h
    cases h
    exact isExact_binary (fun _ _ => rfl) (iha hy) (ihb hz) (by simp [exactNumber?, hy, hz])
      fun _ _ => ExactNumber.sub?_isResult
  | case7 a b iha ihb =>
    obtain ⟨y, hy, h⟩ := Option.bind_eq_some_iff.mp h
    obtain ⟨z, hz, h⟩ := Option.bind_eq_some_iff.mp h
    exact isExact_binary (fun _ _ => rfl) (iha hy) (ihb hz) (by simp [exactNumber?, hy, hz, h])
      fun _ _ hm hn => ExactNumber.mul?_isResult hm hn h
  | case8 => cases h

/-- An expression of integers is an integer and every other one a decimal. It has a result exactly if all
subexpressions, itself included, are in the range of their families. The result is a literal of the exact
number, and an operation gives it the datatype of its family. -/
theorem evaluate?_exact (h : e.exactNumber? r = some x) :
    (x.family = .integer ↔ e.OfIntegers r) ∧
      ((e.evaluate? r).isSome ↔ ∀ s ∈ e.subexpressions, ∃ y, s.exactNumber? r = some y ∧ y.Fits) ∧
      ∀ t, e.evaluate? r = some t →
        t.exactNumber? = some x ∧ (e.isLeaf = false → t.datatype? = some x.family.datatype.iri) := by
  have hExact := isExact h
  exact ⟨family_eq_integer_iff h, hExact.isSome_iff, fun t ht =>
    ⟨hExact.exactNumber?_eq t ht, fun hNode => hExact.datatype?_eq hNode t ht⟩⟩

/-- The least integer has no negation. With half taken from it, it is a decimal, and that has an absolute
value, also with a product of integers added. -/
theorem evaluate?_exact_mixed :
    let r := Row.empty.bind ⟨"n"⟩ (.ofDatatype "-9223372036854775808" .long)
    let negated := unary .negate (var ⟨"n"⟩)
    let product := binary .multiply (constant (.ofDatatype "2" .byte)) (constant (.ofDatatype "03" .integer))
    let mixed := unary .abs (binary .add product
      (binary .subtract (var ⟨"n"⟩) (constant (.ofDatatype "0.50" .decimal))))
    (negated.exactNumber? r = some ⟨.integer, 9223372036854775808⟩ ∧
        mixed.exactNumber? r = some ⟨.decimal, 18446744073709551605 / 2⟩) ∧
      negated.evaluate? r = none ∧
      ∃ t, mixed.evaluate? r = some t ∧ t.exactNumber? = some ⟨.decimal, 18446744073709551605 / 2⟩ ∧
        t.datatype? = some Datatype.decimal.iri := by
  intro r negated product mixed
  have hNegated : negated.exactNumber? r = some ⟨.integer, 9223372036854775808⟩ := by decide +kernel
  have hMixed : mixed.exactNumber? r = some ⟨.decimal, 18446744073709551605 / 2⟩ := by decide +kernel
  refine ⟨⟨hNegated, hMixed⟩, ?_, ?_⟩
  · obtain ⟨-, hRange, -⟩ := evaluate?_exact hNegated
    refine Option.not_isSome_iff_eq_none.mp fun hSome => ?_
    obtain ⟨y, hy, hFits⟩ := hRange.mp hSome negated List.mem_cons_self
    cases Option.some.inj (hNegated.symm.trans hy)
    exact absurd hFits.2 (by norm_num)
  · obtain ⟨-, -, hRead⟩ := evaluate?_exact hMixed
    obtain ⟨t, ht⟩ := Option.isSome_iff_exists.mp (by decide +kernel : (mixed.evaluate? r).isSome)
    obtain ⟨hExact, hDatatype⟩ := hRead t ht
    exact ⟨t, ht, hExact, hDatatype rfl⟩

end Expression

end GraphQuery
