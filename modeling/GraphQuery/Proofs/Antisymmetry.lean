import GraphQuery.Comparison
import GraphQuery.Filter
import GraphQuery.Proofs.Traversal

/-! # Comparison from both sides

Swapping two terms reverses how they compare, whatever their kinds are, and the six operators never
contradict each other.

* `Numeric.compare?_swap`, `Moment.compare?_swap`, `Duration.compare?_swap` — the values of one kind.
* `Value.compare?_swap`, `Term.compare?_swap` — all values and all terms.
* `Comparator.holdsOnCells?_flip`, `Filter.apply_flip` — operators, and filters made of them.
* `Comparator.coherent` — all of this, and how the six operators hang together.
-/

namespace GraphQuery

/-! ## Numbers -/

namespace Binary

variable {format : Format}

theorem compare?_swap (a b : Binary format) : b.compare? a = (a.compare? b).map Ordering.swap := by
  cases a with
  | nan => cases b <;> rfl
  | infinity s =>
    cases b with
    | nan => rfl
    | infinity t => exact congrArg some Std.OrientedOrd.eq_swap
    | finite t n f => cases s <;> rfl
  | finite s m e =>
    cases b with
    | nan => rfl
    | infinity t => cases t <;> rfl
    | finite t n f =>
      rw [compare?, compare?, Int.min_comm f e]
      exact congrArg some Std.OrientedOrd.eq_swap

end Binary

/-- Numbers of one kind stay in it and numbers of two kinds go to the wider one, on either side. -/
theorem Numeric.compare?_swap (a b : Numeric) : b.compare? a = (a.compare? b).map Ordering.swap := by
  cases a with
  | integer a =>
    cases b with
    | integer b => exact congrArg some Std.OrientedOrd.eq_swap
    | decimal b => exact congrArg some Std.OrientedOrd.eq_swap
    | single b => exact Binary.compare?_swap _ _
    | double b => exact Binary.compare?_swap _ _
  | decimal a =>
    cases b with
    | integer b => exact congrArg some Std.OrientedOrd.eq_swap
    | decimal b => exact congrArg some Std.OrientedOrd.eq_swap
    | single b => exact Binary.compare?_swap _ _
    | double b => exact Binary.compare?_swap _ _
  | single a => cases b <;> exact Binary.compare?_swap _ _
  | double a => cases b <;> exact Binary.compare?_swap _ _

/-! ## Dates and durations -/

theorem Moment.compare?_swap (a b : Moment) : b.compare? a = (a.compare? b).map Ordering.swap := by
  have hSwap : ∀ o : Option Ordering, (o.map Ordering.swap).map Ordering.swap = o := fun o => by
    cases o <;> simp
  unfold compare?
  cases a.zoned with
  | true =>
    cases b.zoned with
    | true => exact congrArg some Std.OrientedOrd.eq_swap
    | false => rfl
  | false =>
    cases b.zoned with
    | true => exact (hSwap _).symm
    | false => exact congrArg some Std.OrientedOrd.eq_swap

namespace Duration

/-- The order in which two durations end that start with a month. -/
def compareFrom? (a b : Duration) (start : Int × Nat) : Option Ordering := do
  return compare (← a.endFrom? start.1 start.2).units (← b.endFrom? start.1 start.2).units

/-- The order that all reference months agree on. -/
def agreed? : List Ordering → Option Ordering
  | [] => none
  | order :: others => if others.all (· == order) then some order else none

theorem compare?_eq (a b : Duration) :
    a.compare? b = (referenceMonths.mapM (a.compareFrom? b)).bind agreed? := rfl

theorem compareFrom?_swap (a b : Duration) (start : Int × Nat) :
    b.compareFrom? a start = (a.compareFrom? b start).map Ordering.swap := by
  unfold compareFrom?
  cases a.endFrom? start.1 start.2 with
  | none => cases b.endFrom? start.1 start.2 <;> rfl
  | some x =>
    cases b.endFrom? start.1 start.2 with
    | none => rfl
    | some y => exact congrArg some Std.OrientedOrd.eq_swap

theorem agreed?_map_swap (orders : List Ordering) :
    agreed? (orders.map Ordering.swap) = (agreed? orders).map Ordering.swap := by
  cases orders with
  | nil => rfl
  | cons order others =>
    have hAll : (others.map Ordering.swap).all (· == order.swap) = others.all (· == order) := by
      rw [List.all_map]
      refine congrArg (others.all ·) (funext fun o => ?_)
      cases o <;> cases order <;> rfl
    rw [List.map_cons, agreed?, agreed?, hAll]
    split <;> rfl

/-- Each reference month gives the reversed order, so they agree on it if they agreed before. -/
theorem compare?_swap (a b : Duration) : b.compare? a = (a.compare? b).map Ordering.swap := by
  rw [compare?_eq, compare?_eq, funext (compareFrom?_swap a b), mapM_map, Option.bind_map,
    Option.map_bind]
  exact congrArg _ (funext agreed?_map_swap)

end Duration

/-! ## Values and terms -/

theorem TermOrder.ofOrder?_map_swap (o : Option Ordering) :
    ofOrder? (o.map Ordering.swap) = (ofOrder? o).reverse := by
  cases o <;> rfl

namespace Value

/-- Values of one kind are compared within it, and every mixture of kinds is treated alike from both
sides. -/
theorem compare?_swap (a b : Value) : b.compare? a = (a.compare? b).map TermOrder.reverse := by
  have hOrdered : ∀ {α : Type} [Ord α] [Std.OrientedOrd α] (x y : α),
      TermOrder.ordered (compare y x) = (TermOrder.ordered (compare x y)).reverse := fun x y =>
    congrArg TermOrder.ordered Std.OrientedOrd.eq_swap
  have hPartial : ∀ {o o' : Option Ordering}, o' = o.map Ordering.swap →
      TermOrder.ofOrder? o' = (TermOrder.ofOrder? o).reverse := fun h =>
    h ▸ TermOrder.ofOrder?_map_swap _
  cases a with
  | iri i =>
    cases b with
    | iri j => exact congrArg some (hOrdered _ _)
    | _ => rfl
  | blank n =>
    cases b with
    | blank m => exact congrArg some (hOrdered _ _)
    | _ => rfl
  | boolean x =>
    cases b with
    | boolean y => exact congrArg some (hOrdered _ _)
    | _ => rfl
  | number x =>
    cases b with
    | number y => exact congrArg some (hPartial (x.compare?_swap y))
    | _ => rfl
  | string x =>
    cases b with
    | string y => exact congrArg some (hOrdered _ _)
    | _ => rfl
  | tagged x language direction =>
    cases b with
    | tagged y language' direction' =>
      rw [compare?, compare?, Option.map_some]
      by_cases h : language = language' ∧ direction = direction'
      · rw [if_pos h, if_pos ⟨h.1.symm, h.2.symm⟩, hOrdered]
      · rw [if_neg h, if_neg fun h' => h ⟨h'.1.symm, h'.2.symm⟩]
        rfl
    | _ => rfl
  | moment kind x =>
    cases b with
    | moment kind' y =>
      rw [compare?, compare?]
      by_cases h : kind = kind'
      · rw [if_pos h, if_pos h.symm]
        exact congrArg some (hPartial (x.compare?_swap y))
      · rw [if_neg h, if_neg fun h' => h h'.symm]
        rfl
    | _ => rfl
  | duration x =>
    cases b with
    | duration y => exact congrArg some (hPartial (x.compare?_swap y))
    | _ => rfl
  | other x datatype =>
    cases b with
    | other y datatype' =>
      rw [compare?, compare?]
      by_cases h : datatype = datatype'
      · rw [if_pos h, if_pos h.symm]
        exact congrArg some (hOrdered _ _)
      · rw [if_neg h, if_neg fun h' => h h'.symm]
        rfl
    | _ => rfl

end Value

/-- Two terms are comparable in both directions or in neither, and then in reversed order. -/
theorem Term.compare?_swap (a b : Term) : b.compare? a = (a.compare? b).map TermOrder.reverse := by
  unfold compare?
  cases Value.ofTerm? a with
  | none => cases Value.ofTerm? b <;> rfl
  | some x =>
    cases Value.ofTerm? b with
    | none => rfl
    | some y => exact x.compare?_swap y

/-! ## Operators -/

namespace Comparator

variable {a b : Term} {c : Comparator} {o : Ordering}

theorem admits_flip (c : Comparator) (o : Ordering) : c.flip.admits o.swap = c.admits o := by
  cases c <;> cases o <;> rfl

theorem holds?_of_none (h : a.compare? b = none) (c : Comparator) : c.holds? a b = none := by
  rw [holds?, h]
  rfl

theorem holds?_of_ordered (h : a.compare? b = some (.ordered o)) (c : Comparator) :
    c.holds? a b = some (c.admits o) := by
  rw [holds?, h]
  rfl

theorem holds?_of_distinct (h : a.compare? b = some .distinct) (c : Comparator) :
    c.holds? a b =
      match c with
      | eq => some false
      | ne => some true
      | _ => none := by
  rw [holds?, h]
  cases c <;> rfl

theorem holds?_flip (c : Comparator) (a b : Term) : c.flip.holds? b a = c.holds? a b := by
  have hSwap := a.compare?_swap b
  cases h : a.compare? b with
  | none =>
    rw [h] at hSwap
    rw [holds?_of_none h, holds?_of_none hSwap]
  | some order =>
    rw [h] at hSwap
    cases order with
    | ordered o =>
      rw [holds?_of_ordered h, holds?_of_ordered hSwap, admits_flip]
    | distinct =>
      rw [holds?_of_distinct h, holds?_of_distinct hSwap]
      cases c <;> rfl

theorem holdsOnCells?_flip (c : Comparator) (l r : Cell) :
    c.flip.holdsOnCells? r l = c.holdsOnCells? l r := by
  cases l with
  | noColumn => cases r <;> rfl
  | noValue =>
    cases r with
    | noValue => cases c <;> rfl
    | _ => rfl
  | value a =>
    cases r with
    | value b => exact holds?_flip c a b
    | _ => rfl

/-- Only ordered terms have an answer to the operators that ask for an order. -/
theorem exists_ordered_of_holds? (hc : c ≠ eq ∧ c ≠ ne) (h : (c.holds? a b).isSome) :
    ∃ o, a.compare? b = some (.ordered o) := by
  cases hOrder : a.compare? b with
  | none =>
    rw [holds?_of_none hOrder] at h
    cases h
  | some order =>
    cases order with
    | ordered o => exact ⟨o, rfl⟩
    | distinct =>
      rw [holds?_of_distinct hOrder] at h
      cases c with
      | eq => exact absurd rfl hc.1
      | ne => exact absurd rfl hc.2
      | _ => cases h

end Comparator

theorem Filter.apply_flip (c : Comparator) (x y : Slot) (results : SubPatternResults) (r : Row)
    (negated : Bool) :
    (compare c.flip y x).apply results r negated = (compare c x y).apply results r negated := by
  unfold apply
  rw [keeps, keeps, Comparator.holdsOnCells?_flip]

/-- Swapping operands reverses a comparison and does nothing to whether there is one. The flipped
operator says the same of swapped operands, in cells and in filters. And if one of the operators that
ask for an order has an answer on two terms, then all six have, and they tell the same story. -/
theorem Comparator.coherent :
    (∀ a b : Term, b.compare? a = (a.compare? b).map TermOrder.reverse) ∧
      (∀ (c : Comparator) (l r : Cell), c.holdsOnCells? l r = c.flip.holdsOnCells? r l) ∧
      (∀ (c : Comparator) (x y : Slot) (results : SubPatternResults) (r : Row) (negated : Bool),
        (Filter.compare c x y).apply results r negated =
          (Filter.compare c.flip y x).apply results r negated) ∧
      ∀ (a b : Term) (c : Comparator), c ≠ eq ∧ c ≠ ne → (c.holds? a b).isSome →
        ∃ isLess isEqual isGreater : Bool,
          lt.holds? a b = some isLess ∧ eq.holds? a b = some isEqual ∧
          gt.holds? a b = some isGreater ∧ [isLess, isEqual, isGreater].count true = 1 ∧
          le.holds? a b = some (isLess || isEqual) ∧ ge.holds? a b = some (isGreater || isEqual) ∧
          ne.holds? a b = some !isEqual := by
  refine ⟨Term.compare?_swap, fun c l r => (holdsOnCells?_flip c l r).symm,
    fun c x y results r negated => (Filter.apply_flip c x y results r negated).symm,
    fun a b c hc h => ?_⟩
  obtain ⟨o, hOrder⟩ := exists_ordered_of_holds? hc h
  simp only [holds?_of_ordered hOrder]
  refine ⟨_, _, _, rfl, rfl, rfl, ?_⟩
  cases o <;> decide

/-- An integer below a double, which are compared as doubles: all operators answer, from both sides. -/
theorem Comparator.coherent_promoted :
    let a := Term.ofDatatype "7" .integer
    let b := Term.ofDatatype "7.5E0" .double
    le.holds? a b = some true ∧
      ∃ isLess isEqual : Bool, lt.holds? a b = some isLess ∧ gt.holds? b a = some isLess ∧
        eq.holds? a b = some isEqual ∧ (isLess || isEqual) = true ∧ ne.holds? a b = some !isEqual := by
  intro a b
  have hLess : le.holds? a b = some true := by decide +kernel
  obtain ⟨_, hCells, _, hOperators⟩ := coherent
  obtain ⟨isLess, isEqual, _, hLt, hEq, _, _, hLe, _, hNe⟩ :=
    hOperators a b le ⟨by decide, by decide⟩ (hLess ▸ rfl)
  refine ⟨hLess, isLess, isEqual, hLt, ?_, hEq, Option.some.inj (hLe.symm.trans hLess), hNe⟩
  exact (hCells lt (.value a) (.value b)).symm.trans hLt

end GraphQuery
