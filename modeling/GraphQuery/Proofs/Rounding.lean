import GraphQuery.Number.Binary.Text
import Mathlib.Algebra.Order.Field.Power
import Mathlib.Data.EReal.Operations
import Mathlib.Tactic.Linarith
import Mathlib.Tactic.Positivity
import Mathlib.Tactic.Ring

/-! # The values of binary numbers

Binary numbers are compared by their values, and rounding keeps the order of the values.

* `Binary.value`, `Binary.compare?_eq_lt_iff` — the value of a number, infinities included.
* `IsNearest`, `roundDiv_isNearest` — the nearest whole number, ties to the even one.
* `Format.Rounds`, `Format.Rounds.mono`, `Format.Rounds.eq_of_fits` — the nearest value of a format: it
  grows with what is rounded, and what fits the format stays as it is.
* `Format.exists_rounds` — the numbers of a format are made by such rounding.
* `Binary.value_convert`, `Binary.value_ofInt_mono` — a wider format loses nothing, and integers keep
  their order.
-/

namespace GraphQuery

/-! ## Powers of two -/

theorem twoPower_of_nonneg {n : Int} (h : 0 ≤ n) : (twoPower n : ℝ) = 2 ^ n := by
  obtain ⟨k, rfl⟩ := Int.eq_ofNat_of_zero_le h
  simp [twoPower]

theorem twoPower_of_nonpos {n : Int} (h : n ≤ 0) : twoPower n = 1 := by
  simp [twoPower, Int.toNat_of_nonpos h]

theorem twoPower_pos (n : Int) : 0 < twoPower n := Nat.pow_pos (by decide)

theorem two_zpow_pos (e : Int) : (0 : ℝ) < 2 ^ e := zpow_pos (by norm_num) e

theorem two_zpow_le {e f : Int} (h : e ≤ f) : (2 : ℝ) ^ e ≤ 2 ^ f :=
  zpow_le_zpow_right₀ (by norm_num) h

/-- A power of two is moved into the numerator or into the denominator, whichever keeps them whole. -/
theorem twoPower_neg_div (e : Int) : (twoPower (-e) : ℝ) / twoPower e = (2 ^ e)⁻¹ := by
  rcases le_total 0 e with h | h
  · rw [twoPower_of_nonpos (by omega : -e ≤ 0), twoPower_of_nonneg h]
    simp
  · rw [twoPower_of_nonpos h, twoPower_of_nonneg (by omega : 0 ≤ -e)]
    simp

theorem scaled_div (n d : Nat) (e : Int) :
    ((n * twoPower (-e) : Nat) : ℝ) / ((d * twoPower e : Nat) : ℝ) = (n / d : ℝ) / 2 ^ e := by
  rw [Nat.cast_mul, Nat.cast_mul, mul_div_mul_comm, twoPower_neg_div, div_eq_mul_inv _ ((2 : ℝ) ^ e)]

/-! ## Values -/

/-- A magnitude with a sign. -/
noncomputable def signedValue (negative : Bool) (x : EReal) : EReal := if negative then -x else x

namespace Binary

variable {format : Format}

/-- The value of a number. Not-a-number has none, and is given zero. -/
noncomputable def value : Binary format → EReal
  | nan => 0
  | infinity negative => signedValue negative ⊤
  | finite negative m e => signedValue negative ((m * 2 ^ e : ℝ) : EReal)

theorem coe_countOf {negative : Bool} {m : Nat} {e scale : Int} (h : scale ≤ e) :
    value (finite negative m e : Binary format) = ((countOf negative m e scale * 2 ^ scale : ℝ) : EReal) := by
  have hPower : ((m * twoPower (e - scale) : Nat) : ℝ) * 2 ^ scale = m * 2 ^ e := by
    rw [Nat.cast_mul, twoPower_of_nonneg (by omega), mul_assoc, ← zpow_add₀ (by norm_num)]
    congr 2
    omega
  cases negative
  · show ((m * 2 ^ e : ℝ) : EReal) = _
    rw [countOf, Number.signed, ← hPower]
    simp
  · show -((m * 2 ^ e : ℝ) : EReal) = _
    rw [countOf, Number.signed, ← hPower]
    simp

theorem exists_coe_value (format : Format) (negative : Bool) (m : Nat) (e : Int) :
    ∃ x : ℝ, (finite negative m e : Binary format).value = x :=
  ⟨_, coe_countOf (le_refl e)⟩

/-- One number is less than another if its value is. -/
theorem compare?_eq_lt_iff {a b : Binary format} :
    a.compare? b = some .lt ↔ a ≠ nan ∧ b ≠ nan ∧ a.value < b.value := by
  cases a with
  | nan => simp [compare?]
  | infinity s =>
    cases b with
    | nan => simp [compare?]
    | infinity t => cases s <;> cases t <;> simp [compare?, value, signedValue, compare, compareOfLessAndEq]
    | finite t n f =>
      obtain ⟨x, hx⟩ := exists_coe_value format t n f
      rw [hx]
      cases s <;> simp [compare?, value, signedValue]
  | finite s m e =>
    cases b with
    | nan => simp [compare?]
    | infinity t =>
      obtain ⟨x, hx⟩ := exists_coe_value format s m e
      rw [hx]
      cases t <;> simp [compare?, value, signedValue]
    | finite t n f =>
      rw [coe_countOf (min_le_left e f), coe_countOf (min_le_right e f), compare?]
      have hPos := two_zpow_pos (min e f)
      simp only [ne_eq, reduceCtorEq, not_false_eq_true, true_and, Option.some.injEq,
        EReal.coe_lt_coe_iff]
      rw [mul_lt_mul_iff_of_pos_right hPos, Int.cast_lt, compare_lt_iff_lt]

end Binary

/-! ## Whole numbers -/

/-- A whole number nearest to a value, and the even one of two. -/
structure IsNearest (x : ℝ) (q : Nat) : Prop where
  lower : (q : ℝ) - 1 / 2 ≤ x
  upper : x ≤ q + 1 / 2
  even : x = q - 1 / 2 ∨ x = q + 1 / 2 → q % 2 = 0

namespace IsNearest

variable {x y : ℝ} {q r : Nat}

/-- Of two values in order the nearest whole numbers can be out of order in a common tie only, and then
both would be even. -/
theorem mono (hx : IsNearest x q) (hy : IsNearest y r) (h : x ≤ y) : q ≤ r := by
  by_contra hLess
  have hNext : (r : ℝ) + 1 ≤ q := by exact_mod_cast Nat.lt_of_not_le hLess
  have hLower := hx.lower
  have hUpper := hy.upper
  have hSucc : (q : ℝ) = r + 1 := by linarith
  have hq := hx.even (.inl (by linarith))
  have hr := hy.even (.inr (by linarith))
  have hNat : q = r + 1 := by exact_mod_cast hSucc
  omega

theorem natCast (n : Nat) : IsNearest n n :=
  ⟨by linarith, by linarith, by rintro (h | h) <;> linarith⟩

theorem eq_of_natCast {n : Nat} (h : IsNearest n q) : q = n :=
  Nat.le_antisymm (h.mono (natCast n) le_rfl) ((natCast n).mono h le_rfl)

end IsNearest

theorem IsNearest.below {k : Nat} {x : ℝ} (h : 0 ≤ x) (hx : x < 1 / 2) : IsNearest (k + x) k :=
  ⟨by linarith, by linarith, by rintro (h | h) <;> linarith⟩

theorem IsNearest.above {k : Nat} {x : ℝ} (h : 1 / 2 < x) (hx : x < 1) : IsNearest (k + x) (k + 1) := by
  refine ⟨?_, ?_, ?_⟩
  · push_cast
    linarith
  · push_cast
    linarith
  · push_cast
    rintro (h | h) <;> linarith

theorem IsNearest.tie (k : Nat) : IsNearest (k + 1 / 2) (if k % 2 = 1 then k + 1 else k) := by
  split
  · rename_i hk
    refine ⟨?_, ?_, fun _ => by omega⟩
    · push_cast
      linarith
    · push_cast
      linarith
  · rename_i hk
    exact ⟨by linarith, by linarith, fun _ => by omega⟩

/-- What is compared with one half is the remainder over the divisor. -/
theorem roundDiv_isNearest {n d : Nat} (hd : 0 < d) : IsNearest (n / d) (roundDiv n d) := by
  have hPos : (0 : ℝ) < d := by exact_mod_cast hd
  have hRest : ((n % d : Nat) : ℝ) < d := by exact_mod_cast Nat.mod_lt n hd
  have hSum : (n : ℝ) / d = (n / d : Nat) + ((n % d : Nat) : ℝ) / d := by
    have hDivide : (n : ℝ) = d * (n / d : Nat) + (n % d : Nat) := by
      exact_mod_cast (Nat.div_add_mod n d).symm
    conv => lhs; rw [hDivide]
    field_simp
  rw [hSum]
  unfold roundDiv
  dsimp only
  generalize n % d = r at *
  generalize n / d = k at *
  rcases lt_trichotomy (2 * r) d with h | h | h
  · have hHalf : (r : ℝ) / d < 1 / 2 := by
      rw [div_lt_div_iff₀ hPos (by norm_num)]
      exact_mod_cast (by omega : r * 2 < 1 * d)
    rw [if_neg (by simp; omega)]
    exact .below (by positivity) hHalf
  · have hHalf : (r : ℝ) / d = 1 / 2 := by
      rw [div_eq_div_iff hPos.ne' (by norm_num)]
      exact_mod_cast (by omega : r * 2 = 1 * d)
    rw [hHalf]
    simpa [h] using IsNearest.tie k
  · have hHalf : 1 / 2 < (r : ℝ) / d := by
      rw [div_lt_div_iff₀ (by norm_num) hPos]
      exact_mod_cast (by omega : 1 * d < r * 2)
    rw [if_pos (by simp; omega)]
    exact .above hHalf ((div_lt_one hPos).mpr hRest)

/-! ## Formats -/

namespace Format

variable {format : Format} {x y v w : ℝ}

/-- A format has digits and exponents. -/
structure Proper (format : Format) : Prop where
  precision_pos : 0 < format.precision
  exponent_le : format.minExponent ≤ format.maxExponent

theorem proper_single : single.Proper := ⟨by decide, by decide⟩

theorem proper_double : double.Proper := ⟨by decide, by decide⟩

/-- The exponent with which a value is rounded: the value has no more bits than the format before the
point and, unless the exponent is the least one, no fewer. -/
structure IsExponent (format : Format) (x : ℝ) (e : Int) : Prop where
  le : format.minExponent ≤ e
  lt : x < 2 ^ (format.precision + e)
  eq_or_le : e = format.minExponent ∨ 2 ^ (format.precision + e - 1) ≤ x

theorem IsExponent.mono {e f : Int} (he : format.IsExponent x e) (hf : format.IsExponent y f)
    (h : x ≤ y) : e ≤ f := by
  rcases he.eq_or_le with hLeast | hBits
  · exact hLeast ▸ hf.le
  · have hPower : (2 : ℝ) ^ (format.precision + e - 1) < 2 ^ (format.precision + f) :=
      (hBits.trans h).trans_lt hf.lt
    have hExponent := (zpow_lt_zpow_iff_right₀ (by norm_num)).mp hPower
    omega

/-- The nearest value of a format, however great it may be. -/
inductive Rounds (format : Format) (x : ℝ) : ℝ → Prop
  | intro {e : Int} {m : Nat} (he : format.IsExponent x e) (hm : IsNearest (x / 2 ^ e) m) :
      Rounds format x (m * 2 ^ e)

/-- A quotient by a power of two against another power, which is whole. -/
theorem div_le_natCast_pow_iff {e : Int} {k : Nat} : x / 2 ^ e ≤ ((2 ^ k : Nat) : ℝ) ↔ x ≤ 2 ^ (k + e) := by
  rw [div_le_iff₀ (two_zpow_pos e), zpow_add₀ (by norm_num)]
  norm_cast

theorem natCast_pow_le_div_iff {e : Int} {k : Nat} : ((2 ^ k : Nat) : ℝ) ≤ x / 2 ^ e ↔ 2 ^ (k + e) ≤ x := by
  rw [le_div_iff₀ (two_zpow_pos e), zpow_add₀ (by norm_num)]
  norm_cast

theorem IsExponent.digits_le {e : Int} {m : Nat} (he : format.IsExponent x e)
    (hm : IsNearest (x / 2 ^ e) m) : m ≤ 2 ^ format.precision :=
  hm.mono (.natCast _) (div_le_natCast_pow_iff.mpr he.lt.le)

theorem IsExponent.le_digits (hFormat : format.Proper) {e : Int} {m : Nat} (he : format.IsExponent x e)
    (hLeast : e ≠ format.minExponent) (hm : IsNearest (x / 2 ^ e) m) :
    2 ^ (format.precision - 1) ≤ m := by
  refine IsNearest.mono (.natCast _) hm (natCast_pow_le_div_iff.mpr ?_)
  have hPrecision := hFormat.precision_pos
  convert he.eq_or_le.resolve_left hLeast using 2
  omega

/-- With one exponent the nearest whole numbers keep the order. With different ones a power of two lies
between the rounded values. -/
theorem Rounds.mono (hFormat : format.Proper) (hx : format.Rounds x v) (hy : format.Rounds y w)
    (h : x ≤ y) : v ≤ w := by
  obtain @⟨e, m, he, hm⟩ := hx
  obtain @⟨f, n, hf, hn⟩ := hy
  rcases (he.mono hf h).eq_or_lt with rfl | hLess
  · have hDigits := hm.mono hn (div_le_div_of_nonneg_right h (two_zpow_pos e).le)
    exact mul_le_mul_of_nonneg_right (by exact_mod_cast hDigits) (two_zpow_pos e).le
  · have hLeast : f ≠ format.minExponent := by
      have := he.le
      omega
    -- The power between them is that of all bits with the lesser exponent.
    have hPrecision := hFormat.precision_pos
    calc (m : ℝ) * 2 ^ e
        ≤ 2 ^ (format.precision : Int) * 2 ^ e :=
          mul_le_mul_of_nonneg_right (by exact_mod_cast he.digits_le hm) (two_zpow_pos e).le
      _ = 2 ^ (format.precision + e) := (zpow_add₀ (by norm_num) _ _).symm
      _ ≤ 2 ^ (((format.precision - 1 : Nat) : Int) + f) := two_zpow_le (by omega)
      _ = 2 ^ ((format.precision - 1 : Nat) : Int) * 2 ^ f := zpow_add₀ (by norm_num) _ _
      _ ≤ n * 2 ^ f :=
          mul_le_mul_of_nonneg_right (by exact_mod_cast hf.le_digits hFormat hLeast hn)
            (two_zpow_pos f).le

/-- The value needs no rounding, unless it is too great. -/
def Fits (format : Format) (x : ℝ) : Prop :=
  ∃ (m : Nat) (e : Int), m < 2 ^ format.precision ∧ format.minExponent ≤ e ∧ x = m * 2 ^ e

/-- A value that fits is a whole multiple of the power of two with which it is rounded. -/
theorem Rounds.eq_of_fits (hx : format.Rounds x v) (h : format.Fits x) : v = x := by
  obtain ⟨k, f, hk, hf, rfl⟩ := h
  obtain @⟨e, m, he, hm⟩ := hx
  -- A greater exponent would ask for more bits than the significand of the value has.
  have hLess : e ≤ f := by
    rcases he.eq_or_le with hLeast | hBits
    · omega
    · have hBound : (k : ℝ) * 2 ^ f < 2 ^ (format.precision + f) := by
        rw [zpow_add₀ (by norm_num)]
        exact mul_lt_mul_of_pos_right (by exact_mod_cast hk) (two_zpow_pos f)
      have hExponent := (zpow_lt_zpow_iff_right₀ (by norm_num)).mp (hBits.trans_lt hBound)
      omega
  have hWhole : (k : ℝ) * 2 ^ f / 2 ^ e = ((k * twoPower (f - e) : Nat) : ℝ) := by
    rw [Nat.cast_mul, twoPower_of_nonneg (by omega), mul_div_assoc, ← zpow_sub₀ (by norm_num)]
  rw [hWhole] at hm
  rw [hm.eq_of_natCast, ← hWhole, div_mul_cancel₀ _ (two_zpow_pos e).ne']

theorem rounds_zero : format.Rounds 0 0 := by
  have hExponent : format.IsExponent 0 format.minExponent := ⟨le_rfl, two_zpow_pos _, .inl rfl⟩
  have hNearest : IsNearest (0 / 2 ^ format.minExponent) 0 := by
    simpa using IsNearest.natCast 0
  simpa using Rounds.intro hExponent hNearest

/-! ## The exponent of a quotient -/

theorem two_zpow_log2_le {n : Nat} (hn : n ≠ 0) : (2 : ℝ) ^ (n.log2 : Int) ≤ n := by
  exact_mod_cast Nat.log2_self_le hn

theorem lt_two_zpow_log2 (n : Nat) : (n : ℝ) < 2 ^ (n.log2 + 1 : Int) := by
  exact_mod_cast Nat.lt_log2_self

theorem isExponent_max {e : Int} (hLess : x < 2 ^ (format.precision + e))
    (hBits : 2 ^ (format.precision + e - 1) ≤ x) : format.IsExponent x (max e format.minExponent) := by
  refine ⟨le_max_right _ _, hLess.trans_le (two_zpow_le (by omega)), ?_⟩
  rcases le_total e format.minExponent with h | h
  · exact .inl (max_eq_right h)
  · exact .inr (by rwa [max_eq_left h])

/-- The lengths of numerator and denominator leave two exponents to choose from, and the quotient is
compared with the power of two between them. -/
theorem exponentOf_isExponent (format : Format) {n d : Nat} (hn : n ≠ 0) (hd : d ≠ 0) :
    format.IsExponent (n / d) (format.exponentOf n d) := by
  have hPos : (0 : ℝ) < d := by exact_mod_cast Nat.pos_of_ne_zero hd
  have hLow : (2 : ℝ) ^ ((n.log2 : Int) - (d.log2 + 1)) ≤ n / d := by
    rw [zpow_sub₀ (by norm_num)]
    exact div_le_div₀ (by positivity) (two_zpow_log2_le hn) hPos (lt_two_zpow_log2 d).le
  have hHigh : (n / d : ℝ) < 2 ^ ((n.log2 + 1 : Int) - d.log2) := by
    rw [zpow_sub₀ (by norm_num)]
    exact div_lt_div₀ (lt_two_zpow_log2 n) (two_zpow_log2_le hd) (by positivity) (two_zpow_pos _)
  obtain ⟨guess, hGuess⟩ : ∃ guess : Int, guess = n.log2 - d.log2 - format.precision := ⟨_, rfl⟩
  have hTooLong : n * twoPower (-guess) ≥ d * twoPower guess * Nat.pow 2 format.precision ↔
      (2 : ℝ) ^ (format.precision + guess) ≤ n / d := by
    have hScaled : (0 : ℝ) < (d * twoPower guess : Nat) := by
      exact_mod_cast Nat.mul_pos (Nat.pos_of_ne_zero hd) (twoPower_pos guess)
    rw [← natCast_pow_le_div_iff, ← scaled_div, le_div_iff₀ hScaled, ge_iff_le, Nat.pow_eq,
      Nat.mul_comm (d * _)]
    exact_mod_cast Iff.rfl
  unfold exponentOf
  simp only [← hGuess, hTooLong]
  split
  · rename_i hBits
    exact isExponent_max (hHigh.trans_le (two_zpow_le (by omega)))
      ((two_zpow_le (by omega)).trans hBits)
  · rename_i hBits
    exact isExponent_max (not_le.mp hBits) ((two_zpow_le (by omega)).trans hLow)

/-! ## The numbers that rounding makes -/

/-- A value too great for the format becomes infinite. -/
noncomputable def clip (format : Format) (v : ℝ) : EReal :=
  if 2 ^ (format.precision + format.maxExponent) ≤ v then ⊤ else v

theorem clip_mono (h : v ≤ w) : format.clip v ≤ format.clip w := by
  unfold clip
  split
  · rw [if_pos (le_trans ‹_› h)]
  · split
    · exact le_top
    · exact EReal.coe_le_coe_iff.mpr h

theorem clip_nonneg (format : Format) (h : 0 ≤ v) : 0 ≤ format.clip v := by
  unfold clip
  split
  · exact le_top
  · exact EReal.coe_nonneg.mpr h

theorem clip_of_lt (h : v < 2 ^ (format.precision + format.maxExponent)) : format.clip v = v :=
  if_neg (not_le.mpr h)

theorem natCast_half_mul {k : Nat} (hk : 0 < k) (e : Int) :
    ((2 ^ (k - 1) : Nat) : ℝ) * 2 ^ (e + 1) = ((2 ^ k : Nat) : ℝ) * 2 ^ e := by
  rw [zpow_add_one₀ (by norm_num), mul_comm (2 ^ e : ℝ), ← mul_assoc]
  norm_cast
  rw [← Nat.pow_succ, Nat.succ_eq_add_one, Nat.sub_add_cancel hk]

/-- A significand of the format that has all its bits, unless the exponent is the least one. -/
structure IsSignificand (format : Format) (m : Nat) (e : Int) : Prop where
  le : format.minExponent ≤ e
  lt : m < 2 ^ format.precision
  eq_or_le : e = format.minExponent ∨ 2 ^ (format.precision - 1) ≤ m

/-- A significand of one bit too many is a power of two and moves into the exponent. -/
theorem exists_significand (hFormat : format.Proper) (s : Bool) (n : Nat) {d : Nat} (hd : d ≠ 0) :
    ∃ m e, format.IsSignificand m e ∧ format.Rounds (n / d) (m * 2 ^ e) ∧
      format.round s n d = if e > format.maxExponent then .infinity s else .finite s m e := by
  have hPrecision := hFormat.precision_pos
  by_cases hn : n = 0
  · subst hn
    refine ⟨0, format.minExponent, ⟨le_rfl, by positivity, .inl rfl⟩, by simpa using rounds_zero, ?_⟩
    rw [round, if_pos rfl, if_neg (not_lt.mpr hFormat.exponent_le)]
  have hExponent := exponentOf_isExponent format hn hd
  have hNearest := roundDiv_isNearest (n := n * twoPower (-format.exponentOf n d))
    (Nat.mul_pos (Nat.pos_of_ne_zero hd) (twoPower_pos (format.exponentOf n d)))
  rw [scaled_div] at hNearest
  rw [round, if_neg hn]
  dsimp only
  generalize format.exponentOf n d = e at *
  generalize roundDiv _ _ = m at *
  have hRounds := Rounds.intro hExponent hNearest
  -- Rounding up may carry into one more bit. The value stays, with half the significand.
  by_cases hm : m = 2 ^ format.precision
  · have hHalf : 2 ^ format.precision / 2 = 2 ^ (format.precision - 1) := by
      rw [← Nat.pow_div hPrecision (by decide), Nat.pow_one]
    have hLess : 2 ^ (format.precision - 1) < 2 ^ format.precision :=
      Nat.pow_lt_pow_right (by decide) (by omega)
    refine ⟨2 ^ (format.precision - 1), e + 1, ⟨by have := hExponent.le; omega, hLess, .inr le_rfl⟩, ?_, ?_⟩
    · rwa [natCast_half_mul hPrecision, ← hm]
    · rw [Nat.pow_eq, if_pos hm, hm, hHalf]
  · refine ⟨m, e, ⟨hExponent.le, lt_of_le_of_ne (hExponent.digits_le hNearest) hm, ?_⟩, hRounds, ?_⟩
    · by_cases hLeast : e = format.minExponent
      · exact .inl hLeast
      · exact .inr (hExponent.le_digits hFormat hLeast hNearest)
    · rw [Nat.pow_eq, if_neg hm]

/-- An exponent is too great if the value is. -/
theorem IsSignificand.value_eq (hFormat : format.Proper) {m : Nat} {e : Int}
    (h : format.IsSignificand m e) (s : Bool) :
    (if e > format.maxExponent then .infinity s else .finite s m e : Binary format).value =
      signedValue s (format.clip (m * 2 ^ e)) := by
  have hPrecision := hFormat.precision_pos
  have hRange := hFormat.exponent_le
  split
  · have hGreat : (2 : ℝ) ^ (format.precision + format.maxExponent) ≤ m * 2 ^ e :=
      calc (2 : ℝ) ^ (format.precision + format.maxExponent)
          ≤ 2 ^ (((format.precision - 1 : Nat) : Int) + e) := two_zpow_le (by omega)
        _ = 2 ^ ((format.precision - 1 : Nat) : Int) * 2 ^ e := zpow_add₀ (by norm_num) _ _
        _ ≤ m * 2 ^ e := by
          refine mul_le_mul_of_nonneg_right ?_ (two_zpow_pos e).le
          exact_mod_cast h.eq_or_le.resolve_left (by omega)
    rw [clip, if_pos hGreat, Binary.value]
  · have hSmall : (m : ℝ) * 2 ^ e < 2 ^ (format.precision + format.maxExponent) :=
      calc (m : ℝ) * 2 ^ e
          < 2 ^ (format.precision : Int) * 2 ^ e :=
            mul_lt_mul_of_pos_right (by exact_mod_cast h.lt) (two_zpow_pos e)
        _ = 2 ^ (format.precision + e) := (zpow_add₀ (by norm_num) _ _).symm
        _ ≤ 2 ^ (format.precision + format.maxExponent) := two_zpow_le (by omega)
    rw [clip_of_lt hSmall, Binary.value]

/-- The number nearest to a quotient has the rounded value, unless that is too great. -/
theorem exists_rounds (hFormat : format.Proper) (s : Bool) (n : Nat) {d : Nat} (hd : d ≠ 0) :
    ∃ v, format.Rounds (n / d) v ∧ (format.round s n d).value = signedValue s (format.clip v) := by
  obtain ⟨m, e, hSignificand, hRounds, hRound⟩ := exists_significand hFormat s n hd
  exact ⟨_, hRounds, hRound ▸ hSignificand.value_eq hFormat s⟩

theorem Rounds.nonneg (h : format.Rounds x v) : 0 ≤ v := by
  obtain @⟨e, m, _, _⟩ := h
  have := two_zpow_pos e
  positivity

theorem round_ne_nan (hFormat : format.Proper) (s : Bool) (n : Nat) {d : Nat} (hd : d ≠ 0) :
    format.round s n d ≠ .nan := by
  obtain ⟨m, e, _, _, hRound⟩ := exists_significand hFormat s n hd
  rw [hRound]
  split <;> exact nofun

end Format

/-! ## Numbers within their format -/

/-- One format holds the numbers of another. -/
structure Format.Within (source target : Format) : Prop where
  precision_le : source.precision ≤ target.precision
  least_le : target.minExponent ≤ source.minExponent
  greatest_le : source.precision + source.maxExponent ≤ target.precision + target.maxExponent

theorem Format.single_within_double : single.Within double := ⟨by decide, by decide, by decide⟩

namespace Binary

variable {format source : Format}

/-- The number is one of its format. -/
def WellFormed : Binary format → Prop
  | finite _ m e => m < 2 ^ format.precision ∧ format.minExponent ≤ e ∧ e ≤ format.maxExponent
  | _ => True

theorem wellFormed_zero (hFormat : format.Proper) (s : Bool) : (zero s : Binary format).WellFormed :=
  ⟨by positivity, le_rfl, hFormat.exponent_le⟩

theorem wellFormed_round (hFormat : format.Proper) (s : Bool) (n : Nat) {d : Nat} (hd : d ≠ 0) :
    (format.round s n d).WellFormed := by
  obtain ⟨m, e, hSignificand, _, hRound⟩ := Format.exists_significand hFormat s n hd
  rw [hRound]
  split
  · trivial
  · exact ⟨hSignificand.lt, hSignificand.le, not_lt.mp ‹_›⟩

theorem wellFormed_ofScientific (hFormat : format.Proper) (s : Bool) (digits : List Char) (e : Int) :
    (ofScientific s digits e : Binary format).WellFormed := by
  unfold ofScientific
  dsimp only
  split
  · exact wellFormed_zero hFormat s
  · split
    · trivial
    · exact wellFormed_round hFormat s _ (Nat.pow_pos (by decide)).ne'

theorem wellFormed_of_parseDecimal? (hFormat : format.Proper) {negative : Bool} {s : List Char}
    {b : Binary format} (h : parseDecimal? negative s = some b) : b.WellFormed := by
  unfold parseDecimal? at h
  dsimp only at h
  split at h
  · cases h
  split at h
  · cases h
    exact wellFormed_ofScientific hFormat _ _ _
  · cases h

theorem wellFormed_of_parse? (hFormat : format.Proper) {s : List Char} {b : Binary format}
    (h : parse? s = some b) : b.WellFormed := by
  unfold parse? at h
  dsimp only at h
  split at h
  · cases h
    trivial
  split at h
  · cases h
    trivial
  · exact wellFormed_of_parseDecimal? hFormat h

/-! ## Conversions -/

theorem convert_ne_nan_iff (hFormat : format.Proper) {b : Binary source} :
    (b.convert : Binary format) ≠ nan ↔ b ≠ nan := by
  cases b with
  | nan => exact ⟨fun h => absurd rfl h, fun h => absurd rfl h⟩
  | infinity s => exact ⟨fun _ => nofun, fun _ => nofun⟩
  | finite s m e => exact ⟨fun _ => nofun, fun _ => Format.round_ne_nan hFormat s _ (twoPower_pos _).ne'⟩

/-- Nothing is lost in a format that holds the number. -/
theorem value_convert (hFormat : format.Proper) (hWithin : source.Within format) {b : Binary source}
    (hb : b.WellFormed) : (b.convert : Binary format).value = b.value := by
  cases b with
  | nan => rfl
  | infinity s => rfl
  | finite s m e =>
    obtain ⟨hDigits, hLeast, hGreatest⟩ := hb
    have hQuotient : ((m * twoPower e : Nat) : ℝ) / (twoPower (-e) : Nat) = m * 2 ^ e := by
      have hPower := twoPower_neg_div (-e)
      rw [neg_neg] at hPower
      rw [Nat.cast_mul, mul_div_assoc, hPower, zpow_neg, inv_inv]
    obtain ⟨v, hRounds, hValue⟩ :=
      Format.exists_rounds hFormat s (m * twoPower e) (twoPower_pos (-e)).ne'
    rw [hQuotient] at hRounds
    have hFits : format.Fits (m * 2 ^ e) :=
      ⟨m, e, hDigits.trans_le (Nat.pow_le_pow_right (by decide) hWithin.precision_le),
        hWithin.least_le.trans hLeast, rfl⟩
    have hBound : (m : ℝ) * 2 ^ e < 2 ^ (format.precision + format.maxExponent) :=
      calc (m : ℝ) * 2 ^ e
          < 2 ^ (source.precision : Int) * 2 ^ e :=
            mul_lt_mul_of_pos_right (by exact_mod_cast hDigits) (two_zpow_pos e)
        _ = 2 ^ (source.precision + e) := (zpow_add₀ (by norm_num) _ _).symm
        _ ≤ 2 ^ (format.precision + format.maxExponent) :=
            two_zpow_le (by have := hWithin.greatest_le; omega)
    rw [convert, hValue, hRounds.eq_of_fits hFits, Format.clip_of_lt hBound, value]

theorem ofInt_ne_nan (hFormat : format.Proper) (n : Int) : (ofInt n : Binary format) ≠ nan :=
  Format.round_ne_nan hFormat _ _ one_ne_zero

/-- Greater integers have no lesser nearest numbers. -/
theorem value_ofInt_mono (hFormat : format.Proper) {i j : Int} (h : i ≤ j) :
    (ofInt i : Binary format).value ≤ (ofInt j : Binary format).value := by
  obtain ⟨v, hRounds, hValue⟩ := Format.exists_rounds hFormat (decide (i < 0)) i.natAbs one_ne_zero
  obtain ⟨w, hRounds', hValue'⟩ := Format.exists_rounds hFormat (decide (j < 0)) j.natAbs one_ne_zero
  rw [Nat.cast_one, div_one] at hRounds hRounds'
  rw [ofInt, ofInt, hValue, hValue']
  have hPositive := Format.clip_nonneg format hRounds'.nonneg
  have hNegative := Format.clip_nonneg format hRounds.nonneg
  by_cases hi : i < 0
  · by_cases hj : j < 0
    · have hAbs : (j.natAbs : ℝ) ≤ i.natAbs := by exact_mod_cast (by omega : j.natAbs ≤ i.natAbs)
      simpa [signedValue, hi, hj] using Format.clip_mono (hRounds'.mono hFormat hRounds hAbs)
    · simpa [signedValue, hi, hj] using (EReal.neg_le_zero.mpr hNegative).trans hPositive
  · have hj : ¬ j < 0 := by omega
    have hAbs : (i.natAbs : ℝ) ≤ j.natAbs := by exact_mod_cast (by omega : i.natAbs ≤ j.natAbs)
    simpa [signedValue, hi, hj] using Format.clip_mono (hRounds.mono hFormat hRounds' hAbs)

end Binary

end GraphQuery
