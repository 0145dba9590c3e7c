import GraphQuery.Proofs.Membership
import GraphQuery.Proofs.Transitivity

/-! # Comparing a term with itself

A term that has a value, other than not-a-number, is equal to itself, with one exception: durations are
compared by their ends after four months, and a long one ends where no decimal counts the seconds. Such a
duration has no order to anything and counts as different from itself.

* `Numeric.compare?_self`, `Moment.compare?_self`, `Duration.compare?_self` — the values of one kind.
* `Duration.OnTimeLine`, `Duration.onTimeLine_of_le` — the durations that have an end, among them all up
  to a trillion years.
* `Value.compare?_self`, `Comparator.holds?_self` — all values and all terms.
-/

namespace GraphQuery

/-! ## Numbers and moments -/

theorem Binary.compare?_self {format : Format} {x : Binary format} (h : x ≠ .nan) :
    x.compare? x = some .eq := by
  cases x with
  | nan => exact absurd rfl h
  | infinity _ | finite _ _ _ => simp [compare?]

/-- Not-a-number in either format. -/
def Numeric.IsNaN (n : Numeric) : Prop := n = .single .nan ∨ n = .double .nan

theorem Numeric.compare?_self {n : Numeric} (h : ¬ n.IsNaN) : n.compare? n = some .eq := by
  cases n with
  | integer _ | decimal _ => simp [compare?, NumericPair.promote]
  | single x => exact Binary.compare?_self fun hNan => h (.inl (congrArg single hNan))
  | double x => exact Binary.compare?_self fun hNan => h (.inr (congrArg double hNan))

/-- A moment with a zone is not compared with a range, nor is one without. -/
theorem Moment.compare?_self (m : Moment) : m.compare? m = some .eq := by
  unfold compare?
  cases m.zoned <;> simp

/-! ## The calendar -/

namespace Time

theorem foldl_daysInMonth_le (year : Option Int) (months : List Nat) (n : Nat) :
    months.foldl (fun n m => n + daysInMonth year m) n ≤ n + 31 * months.length := by
  induction months generalizing n with
  | nil => simp
  | cons m months ih =>
    have hMonth : daysInMonth year m ≤ 31 := by
      unfold daysInMonth
      split_ifs <;> decide
    have hRest := ih (n + daysInMonth year m)
    rw [List.foldl_cons, List.length_cons]
    omega

theorem daysBeforeMonth_le (year : Int) (month : Nat) : daysBeforeMonth year month ≤ 31 * month := by
  have hMonths := foldl_daysInMonth_le (some year) ((List.range month).drop 1) 0
  rw [List.length_drop, List.length_range] at hMonths
  unfold daysBeforeMonth
  omega

theorem natAbs_daysBeforeYear_le (year : Int) :
    (daysBeforeYear year).natAbs ≤ 366 * (year.natAbs + 1) := by
  have hFloor : ∀ n : Int, 0 ≤ n → (year - 1).fdiv n = (year - 1) / n := fun n hn =>
    Int.fdiv_eq_ediv_of_nonneg _ hn
  have hDays : daysBeforeYear year =
      365 * (year - 1) + (year - 1) / 400 - (year - 1) / 100 + (year - 1) / 4 := by
    rw [← hFloor 400 (by decide), ← hFloor 100 (by decide), ← hFloor 4 (by decide)]
    rfl
  rw [hDays]
  omega

end Time

/-! ## Durations -/

namespace Duration

variable {d : Duration}

/-- The place on the time line, in seconds, where the months of a duration end. -/
def monthsEnd (d : Duration) (start : Int × Nat) : Int :=
  let months := (start.2 : Int) - 1 + d.months.value
  let year := start.1 + months.fdiv 12
  86400 * (Time.daysBeforeYear year + Time.daysBeforeMonth year ((months.fmod 12).toNat + 1))

/-- From every reference month, both the months and the whole duration end where decimals reach. -/
def OnTimeLine (d : Duration) : Prop :=
  ∀ start ∈ referenceMonths, Decimal.Fits (d.monthsEnd start * Decimal.one) ∧
    Decimal.Fits (d.monthsEnd start * Decimal.one + d.seconds.units)

theorem isSome_endFrom? (start : Int × Nat) :
    (d.endFrom? start.1 start.2).isSome ↔ Decimal.Fits (d.monthsEnd start * Decimal.one) ∧
      Decimal.Fits (d.monthsEnd start * Decimal.one + d.seconds.units) := by
  have hEnd : d.endFrom? start.1 start.2 =
      ((Decimal.ofInt? (d.monthsEnd start)).bind (·.add? .zero)).bind (·.add? d.seconds) := by
    simp [endFrom?, Time.Fields.seconds?, Time.Fields.ofDate, monthsEnd]
  rw [hEnd, Decimal.ofInt?]
  cases hStart : Decimal.ofUnits? (d.monthsEnd start * Decimal.one) with
  | none =>
    have hFits : ¬ Decimal.Fits (d.monthsEnd start * Decimal.one) := fun h =>
      absurd (Decimal.isSome_ofUnits?.mpr h) (by simp [hStart])
    simp [hFits]
  | some first =>
    have hFits : Decimal.Fits (d.monthsEnd start * Decimal.one) :=
      Decimal.isSome_ofUnits?.mp (Option.isSome_of_eq_some hStart)
    have hUnits := Decimal.ofUnits?_eq_some_iff.mp hStart
    have hZero : first.add? .zero = some first :=
      Decimal.ofUnits?_eq_some_iff.mpr (Int.add_zero _).symm
    rw [Option.bind_some, hZero, Option.bind_some, Decimal.add?, Decimal.isSome_ofUnits?, hUnits]
    exact (and_iff_right hFits).symm

/-- A duration that has an end is equal to itself, and one that has none is not ordered. -/
theorem compare?_self : d.compare? d = some .eq ↔ d.OnTimeLine := by
  rw [compare?_eq_some_iff]
  refine forall₂_congr fun start _ => ?_
  rw [compareFrom?_eq_some_iff, ← isSome_endFrom?]
  cases d.endFrom? start.1 start.2 <;> simp

theorem compare?_self_of_not_onTimeLine (h : ¬ d.OnTimeLine) : d.compare? d = none := by
  cases hOrder : d.compare? d with
  | none => rfl
  | some o =>
    obtain ⟨x, y, hx, hy, rfl⟩ := compareFrom?_eq_some_iff.mp
      (compare?_eq_some_iff.mp hOrder (1969, 9) (by simp [referenceMonths]))
    obtain rfl := Option.some.inj (hx.symm.trans hy)
    exact absurd (compare?_self.mp (by simpa using hOrder)) h

/-- Durations of at most a trillion years and of at most a hundred quintillion seconds have an end. -/
theorem onTimeLine_of_le (hMonths : d.months.value.natAbs ≤ 12 * 10 ^ 12)
    (hSeconds : d.seconds.units.natAbs ≤ 10 ^ 20 * Decimal.one) : d.OnTimeLine := by
  intro start hStart
  have hReference : ∀ start ∈ referenceMonths, start.1.natAbs ≤ 2000 ∧ start.2 ≤ 12 := by decide
  obtain ⟨hYear, hMonth⟩ := hReference start hStart
  have hEnd : (d.monthsEnd start).natAbs ≤ 86400 * (366 * (10 ^ 12 + 2010)) := by
    have hTwelve : (0 : Int) ≤ 12 := by decide
    simp only [monthsEnd, Int.fdiv_eq_ediv_of_nonneg _ hTwelve, Int.fmod_eq_emod_of_nonneg _ hTwelve]
    generalize hYears : start.1 + ((start.2 : Int) - 1 + d.months.value) / 12 = year
    generalize hRest : ((((start.2 : Int) - 1 + d.months.value) % 12).toNat + 1) = month
    have hBeforeYear := Time.natAbs_daysBeforeYear_le year
    have hBeforeMonth := Time.daysBeforeMonth_le year month
    omega
  simp only [Decimal.one, Decimal.places, Nat.pow_eq, Nat.reducePow] at hSeconds
  simp only [Decimal.Fits, Decimal.bound, Decimal.one, Decimal.places, Nat.pow_eq, Nat.reducePow]
  omega

end Duration

/-! ## Values and terms -/

namespace Value

/-- Not a number, as a value. -/
def IsNaN : Value → Prop
  | number n => n.IsNaN
  | _ => False

/-- The value is no duration, or one that has an end. -/
def OnTimeLine : Value → Prop
  | duration d => d.OnTimeLine
  | _ => True

theorem compare?_self {v : Value} (hNumber : ¬ v.IsNaN) (hEnd : v.OnTimeLine) :
    v.compare? v = some (.ordered .eq) := by
  cases v with
  | iri _ | blank _ | string _ | tagged _ _ _ | other _ _ => exact (compare?_eq_iff rfl).mpr rfl
  | boolean b => simp [compare?]
  | number n => simp [compare?, Numeric.compare?_self hNumber, TermOrder.ofOrder?]
  | moment kind m => simp [compare?, Moment.compare?_self, TermOrder.ofOrder?]
  | duration d => simp [compare?, Duration.compare?_self.mpr hEnd, TermOrder.ofOrder?]

theorem compare?_self_of_not_onTimeLine {v : Value} (h : ¬ v.OnTimeLine) :
    v.compare? v = some .distinct := by
  cases v with
  | duration d => simp [compare?, Duration.compare?_self_of_not_onTimeLine h, TermOrder.ofOrder?]
  | _ => exact absurd trivial h

end Value

namespace Term

variable {t : Term} {v : Value}

theorem compare?_self (hv : Value.ofTerm? t = some v) : t.compare? t = v.compare? v := by
  simp [compare?, hv]

/-- A term that is equal to itself is among the members that it occurs in, whatever is in error. -/
theorem isAmong?_of_mem {members : List (Option Term)} (hMem : some t ∈ members)
    (hSelf : Comparator.eq.holds? t t = some true) : t.isAmong? members = some (.ofBool true) := by
  have hAny : (Truth.any (members.map fun m => m.bind fun u => Comparator.eq.holds? t u)).getD false := by
    rw [Truth.getD_any, List.any_map, List.any_eq_true]
    exact ⟨some t, hMem, by simp [hSelf]⟩
  rw [isAmong?]
  cases hTruth : Truth.any (members.map fun m => m.bind fun u => Comparator.eq.holds? t u) with
  | none => simp [hTruth] at hAny
  | some b =>
    rw [hTruth] at hAny
    exact congrArg (fun b => some (ofBool b)) hAny

end Term

namespace Comparator

variable {t : Term} {v : Value}

/-- Of the comparisons of a term with itself, equality and the two weak orders hold and the others do
not, and the term is in every list that it is written in. A duration without an end has no order to itself:
it is unequal to itself and not in the list that consists of it, although a filter by the list keeps it. -/
theorem holds?_self (hv : Value.ofTerm? t = some v) (hNumber : ¬ v.IsNaN) :
    (v.OnTimeLine →
      (∀ c : Comparator, c.holds? t t = some (decide (c ∈ [eq, le, ge]))) ∧
        ∀ (r : Row) (e : Expression) (members : List Expression), e.evaluate? r = some t →
          some t ∈ Expression.evaluateAll r members →
            (Expression.isIn e members).evaluate? r = some (.ofBool true)) ∧
      (¬ v.OnTimeLine →
        eq.holds? t t = some false ∧ ne.holds? t t = some true ∧
          (∀ c ∈ [lt, le, gt, ge], c.holds? t t = none) ∧
          ∀ (r : Row) (e : Expression), e.evaluate? r = some t →
            (Expression.isIn e [e]).evaluate? r = some (.ofBool false)) ∧
      ∀ (x : Variable) (l : InList) (results : SubPatternResults) (r : Row), r.term? x = some t →
        t ∈ l.terms → (Filter.isIn x l).apply results r false = true := by
  refine ⟨fun hEnd => ?_, fun hEnd => ?_, fun x l results r ht hMem => ?_⟩
  · have hOrder : t.compare? t = some (.ordered .eq) :=
      (Term.compare?_self hv).trans (Value.compare?_self hNumber hEnd)
    refine ⟨fun c => ?_, fun r e members he hMem => ?_⟩
    · rw [holds?_of_ordered hOrder]
      cases c <;> decide
    · simp only [Expression.evaluate?, he, Option.bind_eq_bind, Option.bind_some]
      exact Term.isAmong?_of_mem hMem (eq_holds?_iff.mpr hOrder)
  · have hOrder : t.compare? t = some .distinct :=
      (Term.compare?_self hv).trans (Value.compare?_self_of_not_onTimeLine hEnd)
    refine ⟨holds?_of_distinct hOrder eq, holds?_of_distinct hOrder ne, fun c hc => ?_, fun r e he => ?_⟩
    · rw [holds?_of_distinct hOrder]
      cases c <;> simp at hc ⊢
    · simp [Expression.evaluate?, Expression.evaluateAll, he, Term.isAmong?, holds?_of_distinct hOrder,
        Truth.any, Truth.or]
  · exact (Filter.apply_isIn ht results).mpr hMem

/-- A day and a half is equal to itself. The most seconds that a decimal counts are not, since they end
beyond the time line. -/
theorem holds?_self_duration :
    let span (text : String) : Term := .ofDatatype text .dayTimeDuration
    let short : Duration := ⟨⟨0, by decide, by decide⟩, ⟨129600 * Decimal.one, by decide, by decide⟩⟩
    let long : Duration :=
      ⟨⟨0, by decide, by decide⟩, ⟨170141183460469231731 * Decimal.one, by decide, by decide⟩⟩
    (Value.ofTerm? (span "P1DT12H") = some (.duration short) ∧
        Value.ofTerm? (span "PT170141183460469231731S") = some (.duration long)) ∧
      short.OnTimeLine ∧ ¬ long.OnTimeLine ∧
      eq.holds? (span "P1DT12H") (span "P1DT12H") = some true ∧
      eq.holds? (span "PT170141183460469231731S") (span "PT170141183460469231731S") = some false := by
  intro span short long
  have hShort : Value.ofTerm? (span "P1DT12H") = some (.duration short) := by decide +kernel
  have hLong : Value.ofTerm? (span "PT170141183460469231731S") = some (.duration long) := by
    decide +kernel
  have hEnd : short.OnTimeLine := Duration.onTimeLine_of_le (by decide) (by decide)
  have hEnd' : ¬ long.OnTimeLine := fun h => absurd (Duration.compare?_self.mpr h) (by decide +kernel)
  refine ⟨⟨hShort, hLong⟩, hEnd, hEnd', ?_, ?_⟩
  · exact ((holds?_self hShort id).1 hEnd).1 eq
  · exact ((holds?_self hLong id).2.1 hEnd').1

/-- A well-formed literal need not be equal to itself. -/
theorem not_holds?_self :
    ¬ ∀ (t : Term) (v : Value), Value.ofTerm? t = some v → ¬ v.IsNaN → eq.holds? t t = some true := by
  intro h
  let t : Term := .ofDatatype "PT170141183460469231731S" .dayTimeDuration
  let long : Duration :=
    ⟨⟨0, by decide, by decide⟩, ⟨170141183460469231731 * Decimal.one, by decide, by decide⟩⟩
  have hSelf := h t (.duration long) (by decide +kernel) id
  revert hSelf
  decide +kernel

end Comparator

end GraphQuery
