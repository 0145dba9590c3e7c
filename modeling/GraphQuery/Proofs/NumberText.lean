import GraphQuery.Value
import Mathlib.Data.List.DropRight

/-! # The text of numbers

The text of an integer or a decimal is read back as the number, so that nothing is lost where the result
of a computation becomes a literal and the literal an operand.

* `Number.ofDigits_digitsOf`, `Number.ofDigits_padded` — digits denote the number that they are made from.
* `Integer.parse?_render`, `Decimal.parse?_render` — the texts of integers and decimals.
* `Numeric.number?_toTerm_integer`, `Numeric.number?_toTerm_decimal` — their literals.
-/

namespace GraphQuery

/-! ## Digits -/

namespace Number

variable {width n : Nat}

theorem ofDigits_digitsOf (n : Nat) : ofDigits (digitsOf n) = n := Nat.ofDigitChars_ten_toDigits

theorem ofDigits_append (high low : List Char) :
    ofDigits (high ++ low) = Nat.pow 10 low.length * ofDigits high + ofDigits low :=
  (Nat.ofDigitChars_append 0).trans Nat.ofDigitChars_eq_ofDigitChars_zero

theorem ofDigits_zeros (count : Nat) : ofDigits (List.replicate count '0') = 0 :=
  Nat.ofDigitChars_replicate_zero

theorem isDigit_of_mem_digitsOf {c : Char} (h : c ∈ digitsOf n) : c.isDigit :=
  Nat.isDigit_of_mem_toDigits (by decide) (by decide) h

theorem isEmpty_digitsOf (n : Nat) : (digitsOf n).isEmpty = false :=
  List.isEmpty_eq_false_iff.mpr Nat.toDigits_ne_nil

theorem areDigits_digitsOf (n : Nat) : areDigits (digitsOf n) = true := by
  have hAll : (digitsOf n).all Char.isDigit = true :=
    List.all_eq_true.mpr fun _ => isDigit_of_mem_digitsOf
  rw [areDigits, isEmpty_digitsOf, hAll]
  rfl

theorem ofDigits_padded (width n : Nat) : ofDigits (padded width n) = n := by
  rw [padded, ofDigits_append, ofDigits_zeros, ofDigits_digitsOf, Nat.mul_zero, Nat.zero_add]

theorem length_padded (hWidth : 0 < width) (hn : n < Nat.pow 10 width) : (padded width n).length = width := by
  have hDigits : (digitsOf n).length ≤ width := (Nat.length_toDigits_le_iff (by decide) hWidth).mpr hn
  simp [padded, hDigits]

theorem isDigit_of_mem_padded {c : Char} (h : c ∈ padded width n) : c.isDigit := by
  rcases List.mem_append.mp h with hZero | hDigit
  · rw [List.eq_of_mem_replicate hZero]
    rfl
  · exact isDigit_of_mem_digitsOf hDigit

/-! ## Signs -/

/-- The sign in front of a number: none, or a minus. -/
def signOf (n : Int) : List Char := if n < 0 then ['-'] else []

/-- A digit is no sign. -/
theorem splitSign_signOf (n : Int) (m : Nat) (rest : List Char) :
    splitSign (signOf n ++ (digitsOf m ++ rest)) = (decide (n < 0), digitsOf m ++ rest) := by
  unfold signOf
  by_cases hSign : n < 0
  · simp [hSign, splitSign]
  · obtain ⟨c, digits, hDigits⟩ := List.exists_cons_of_ne_nil (l := digitsOf m) Nat.toDigits_ne_nil
    have hDigit : c.isDigit := isDigit_of_mem_digitsOf (hDigits ▸ List.mem_cons_self)
    rw [if_neg hSign, hDigits, decide_eq_false hSign, List.nil_append, List.cons_append]
    unfold splitSign
    split
    · next h =>
      cases h
      cases hDigit
    · next h =>
      cases h
      cases hDigit
    · rfl

theorem signed_natAbs (n : Int) : signed (decide (n < 0)) n.natAbs = n := by
  unfold signed
  by_cases hSign : n < 0
  · simp only [hSign, decide_true, if_true]
    omega
  · simp only [hSign, decide_false, Bool.false_eq_true, if_false]
    omega

end Number

/-! ## Integers -/

namespace Integer

theorem toList_render (a : Integer) :
    a.render.toList = Number.signOf a.value ++ (Number.digitsOf a.value.natAbs ++ []) := by
  unfold render Number.signOf Number.digitsOf
  cases a.value with
  | ofNat m => simp [toString, Int.repr, Nat.toList_repr]
  | negSucc m => simp [toString, Int.repr, Nat.toList_repr, Int.negSucc_lt_zero]

theorem parse?_render (a : Integer) : parse? a.render.toList = some a := by
  rw [toList_render, parse?, Number.splitSign_signOf, List.append_nil]
  dsimp only
  rw [if_pos (Number.areDigits_digitsOf _), Number.ofDigits_digitsOf, Number.signed_natAbs]
  exact ofInt?_eq_some_iff.mpr rfl

end Integer

/-! ## Decimals -/

namespace Number

/-- Digits without the zeros at their end. -/
def trimmed (digits : List Char) : List Char := digits.rdropWhile (· == '0')

theorem trimmed_append_zeros (digits : List Char) :
    trimmed digits ++ List.replicate (digits.length - (trimmed digits).length) '0' = digits := by
  have hSplit : trimmed digits ++ digits.rtakeWhile (· == '0') = digits :=
    List.rdropWhile_append_rtakeWhile
  have hLength := congrArg List.length hSplit
  rw [List.length_append] at hLength
  have hZeros : digits.rtakeWhile (· == '0') =
      List.replicate (digits.length - (trimmed digits).length) '0' := by
    refine List.eq_replicate_iff.mpr ⟨by omega, fun c hc => ?_⟩
    have hZero := List.mem_takeWhile_imp (List.mem_reverse.mp hc)
    exact beq_iff_eq.mp hZero
  rw [← hZeros, hSplit]

end Number

namespace Decimal

/-- The digits after the point of a count of units. -/
def fractionOf (n : Nat) : List Char := Number.trimmed (Number.padded places (n % one))

variable {n : Nat}

theorem length_padded_places (n : Nat) : (Number.padded places (n % one)).length = places :=
  Number.length_padded (by decide) (Nat.mod_lt _ (by decide))

theorem fractionOf_append_zeros (n : Nat) :
    fractionOf n ++ List.replicate (places - (fractionOf n).length) '0' =
      Number.padded places (n % one) := by
  have hZeros := Number.trimmed_append_zeros (Number.padded places (n % one))
  rwa [length_padded_places] at hZeros

theorem length_fractionOf_le (n : Nat) : (fractionOf n).length ≤ places := by
  have hLength := (List.rdropWhile_prefix (· == '0') (Number.padded places (n % one))).length_le
  rwa [length_padded_places] at hLength

theorem isDigit_of_mem_fractionOf {c : Char} (h : c ∈ fractionOf n) : c.isDigit :=
  Number.isDigit_of_mem_padded ((List.rdropWhile_prefix _ _).subset h)

/-- The zeros that the text leaves out are those that reading puts back. -/
theorem build_fractionOf (negative : Bool) (n : Nat) :
    parse?.build negative (Number.digitsOf (n / one)) (fractionOf n) =
      ofUnits? (Number.signed negative n) := by
  have hDigits : (fractionOf n).all Char.isDigit = true :=
    List.all_eq_true.mpr fun _ => isDigit_of_mem_fractionOf
  have hUnits : Number.ofDigits (Number.digitsOf (n / one) ++ fractionOf n) *
      Nat.pow 10 (places - (fractionOf n).length) = n :=
    calc
      _ = Number.ofDigits (Number.digitsOf (n / one) ++ (fractionOf n ++
            List.replicate (places - (fractionOf n).length) '0')) := by
        rw [← List.append_assoc, Number.ofDigits_append _ (List.replicate _ _), Number.ofDigits_zeros,
          List.length_replicate, Nat.add_zero, Nat.mul_comm]
      _ = one * (n / one) + n % one := by
        rw [fractionOf_append_zeros, Number.ofDigits_append, Number.ofDigits_digitsOf,
          Number.ofDigits_padded, length_padded_places]
        rfl
      _ = n := Nat.div_add_mod n one
  rw [parse?.build, hDigits, hUnits, decide_eq_true (length_fractionOf_le n)]
  rfl

theorem toList_render (a : Decimal) :
    a.render.toList = Number.signOf a.units ++ (Number.digitsOf (a.units.natAbs / one) ++
      if (fractionOf a.units.natAbs).isEmpty then [] else '.' :: fractionOf a.units.natAbs) := by
  have hSign : (if a.units < 0 then "-" else "").toList = Number.signOf a.units := by
    unfold Number.signOf
    split <;> rfl
  have hFraction : ((Number.padded places (a.units.natAbs % one)).reverse.dropWhile (· == '0')).reverse =
      fractionOf a.units.natAbs := rfl
  simp only [render, hFraction, String.toList_append, String.toList_ofList, hSign, List.append_assoc]
  split <;> simp

theorem parse?_render (a : Decimal) : parse? a.render.toList = some a := by
  have hBuild := build_fractionOf (decide (a.units < 0)) a.units.natAbs
  rw [Number.signed_natAbs, ofUnits?_eq_some_iff.mpr rfl] at hBuild
  have hWhole : ∀ c ∈ Number.digitsOf (a.units.natAbs / one), c.isDigit = true := fun _ =>
    Number.isDigit_of_mem_digitsOf
  have hTrimmed : ((fractionOf a.units.natAbs).reverse.dropWhile (· == '0')).reverse =
      fractionOf a.units.natAbs := List.rdropWhile_idempotent _ _
  rw [toList_render, parse?, Number.splitSign_signOf]
  dsimp only
  rw [List.takeWhile_append_of_pos hWhole]
  by_cases hFraction : (fractionOf a.units.natAbs).isEmpty = true
  · rw [List.isEmpty_iff.mp hFraction] at hBuild
    simp [hFraction, Number.isEmpty_digitsOf, hBuild]
  · simp [hFraction, Number.isEmpty_digitsOf, hTrimmed, hBuild]

end Decimal

/-! ## Literals -/

/-- A literal of a built-in datatype has the value of its text. Strings have no such literals. -/
theorem Value.ofTerm?_ofDatatype {text : String} {d : Datatype} (hKnown : Datatype.ofIri? d.iri = some d)
    (hString : d.iri ≠ Datatype.string.iri) :
    ofTerm? (.ofDatatype text d) = ofDatatype? d text := by
  simp [ofTerm?, Term.ofDatatype, Literal.ofDatatype, hString, hKnown]

namespace Numeric

theorem number?_toTerm_integer (a : Integer) : (integer a).toTerm.number? = some (integer a) := by
  rw [toTerm, Term.number?, Value.ofTerm?_ofDatatype (by decide +kernel) (by decide)]
  simp [Value.ofDatatype?, Integer.parse?_render, Value.number?]

theorem number?_toTerm_decimal (a : Decimal) : (decimal a).toTerm.number? = some (decimal a) := by
  rw [toTerm, Term.number?, Value.ofTerm?_ofDatatype (by decide +kernel) (by decide)]
  simp [Value.ofDatatype?, Decimal.parse?_render, Value.number?]

end Numeric

end GraphQuery
