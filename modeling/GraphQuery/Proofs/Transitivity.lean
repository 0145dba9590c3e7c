import GraphQuery.Proofs.Antisymmetry
import GraphQuery.Proofs.Rounding

/-! # Chains of comparisons

If one value is less than another and that one less than a third, the first is less than the third, with
two exceptions: numbers are compared after promotion, which differs from pair to pair, and moments without
a zone have a range that may end beyond the time line.

* `Numeric.Faithful`, `Numeric.Faithful.trans` — kinds that can all be compared in one format.
* `Numeric.compare?_trans`, `Numeric.Kind.Mixed` — numbers, unless their kinds are mixed.
* `Moment.compare?_trans`, `Duration.compare?_trans` — dates and durations.
* `Value.Below.trans`, `Term.compare?_trans` — all values and all terms.
-/

namespace GraphQuery

/-! ## Numbers -/

namespace Numeric

variable {a b c : Numeric} {format : Format}

/-- The kinds of numbers. -/
inductive Kind where
  | integer | decimal | single | double
  deriving DecidableEq

/-- The kind of a number. -/
def kind : Numeric → Kind
  | integer _ => .integer
  | decimal _ => .decimal
  | single _ => .single
  | double _ => .double

/-- Kinds of which three numbers may be promoted to different formats: decimals and a binary format, or
integers and both of them. -/
def Kind.Mixed (kinds : List Kind) : Prop :=
  decimal ∈ kinds ∧ (single ∈ kinds ∨ double ∈ kinds) ∨
    integer ∈ kinds ∧ single ∈ kinds ∧ double ∈ kinds

theorem Kind.subset_of_not_mixed {kinds : List Kind} (h : ¬ Mixed kinds) :
    kinds ⊆ [integer, decimal] ∨ kinds ⊆ [integer, single] ∨ kinds ⊆ [integer, double] ∨
      kinds ⊆ [single, double] := by
  unfold Mixed at h
  by_cases hDecimal : decimal ∈ kinds
  · refine .inl fun k hk => ?_
    cases k <;> simp_all
  by_cases hSingle : single ∈ kinds
  · by_cases hDouble : double ∈ kinds
    · refine .inr (.inr (.inr fun k hk => ?_))
      cases k <;> simp_all
    · refine .inr (.inl fun k hk => ?_)
      cases k <;> simp_all
  · refine .inr (.inr (.inl fun k hk => ?_))
    cases k <;> simp_all

/-- Binary numbers are numbers of their format. -/
def WellFormed : Numeric → Prop
  | single b => b.WellFormed
  | double b => b.WellFormed
  | _ => True

/-! ### Integers and decimals -/

/-- The units of a number that is not binary. -/
def units : Numeric → Int
  | integer i => (Decimal.ofInteger i).units
  | decimal d => d.units
  | _ => 0

theorem compare?_eq_lt_iff_units (ha : a.kind ∈ [.integer, .decimal]) (hb : b.kind ∈ [.integer, .decimal]) :
    a.compare? b = some .lt ↔ a.units < b.units := by
  have hUnits : ∀ x y : Int, some (compare x y) = some Ordering.lt ↔ x < y := fun x y => by
    rw [Option.some.injEq, compare_lt_iff_lt]
  cases a with
  | integer i =>
    cases b with
    | integer j =>
      have hOne : (0 : Int) < Decimal.one := by decide
      exact (hUnits _ _).trans (Int.mul_lt_mul_right hOne).symm
    | decimal d => exact hUnits _ _
    | single | double => simp [kind] at hb
  | decimal d =>
    cases b with
    | integer | decimal => exact hUnits _ _
    | single | double => simp [kind] at hb
  | single | double => simp [kind] at ha

/-! ### One format -/

/-- A number of its format, if it has one, and of one of some kinds. -/
structure OfKinds (kinds : List Kind) (a : Numeric) : Prop where
  wellFormed : a.WellFormed
  kind_mem : a.kind ∈ kinds

/-- Numbers of some kinds can be read in one format. Two integers are compared as they are, and
everything else is compared in the format. -/
structure Faithful (kinds : List Kind) (read : Numeric → Binary format) : Prop where
  proper : format.Proper
  integer : ∀ i, read (.integer i) = .ofInt i.value
  compare : ∀ {a b : Numeric}, a.OfKinds kinds → b.OfKinds kinds →
    a.kind ≠ .integer ∨ b.kind ≠ .integer →
      (a.compare? b = some .lt ↔ (read a).compare? (read b) = some .lt)

theorem faithful_toSingle : Faithful [.integer, .single] toSingle where
  proper := Format.proper_single
  integer _ := rfl
  compare {a b} ha hb h := by
    cases a with
    | integer i =>
      cases b with
      | single => exact Iff.rfl
      | integer => simp [kind] at h
      | decimal | double => simpa [kind] using hb.kind_mem
    | single x =>
      cases b with
      | integer | single => exact Iff.rfl
      | decimal | double => simpa [kind] using hb.kind_mem
    | decimal | double => simpa [kind] using ha.kind_mem

theorem faithful_toDouble : Faithful [.integer, .double] toDouble where
  proper := Format.proper_double
  integer _ := rfl
  compare {a b} ha hb h := by
    cases a with
    | integer i =>
      cases b with
      | double => exact Iff.rfl
      | integer => simp [kind] at h
      | decimal | single => simpa [kind] using hb.kind_mem
    | double x =>
      cases b with
      | integer | double => exact Iff.rfl
      | decimal | single => simpa [kind] using hb.kind_mem
    | decimal | single => simpa [kind] using ha.kind_mem

/-- Two singles are compared as singles, and a double loses none of their bits. -/
theorem faithful_toDouble_of_single : Faithful [.single, .double] toDouble where
  proper := Format.proper_double
  integer _ := rfl
  compare {a b} ha hb h := by
    cases a with
    | single x =>
      cases b with
      | single y =>
        show x.compare? y = some .lt ↔ x.convert.compare? y.convert = some .lt
        simp only [Binary.compare?_eq_lt_iff, Binary.convert_ne_nan_iff Format.proper_double,
          Binary.value_convert Format.proper_double Format.single_within_double ha.wellFormed,
          Binary.value_convert Format.proper_double Format.single_within_double hb.wellFormed]
      | double => exact Iff.rfl
      | integer | decimal => simpa [kind] using hb.kind_mem
    | double x =>
      cases b with
      | single | double => exact Iff.rfl
      | integer | decimal => simpa [kind] using hb.kind_mem
    | integer | decimal => simpa [kind] using ha.kind_mem

namespace Faithful

variable {kinds : List Kind} {read : Numeric → Binary format}

theorem exists_integer (h : ¬ (a.kind ≠ .integer ∨ b.kind ≠ .integer)) :
    ∃ i j, a = .integer i ∧ b = .integer j := by
  cases a <;> cases b <;> simp [kind] at h ⊢

/-- Rounding may make different integers equal but leaves them in order. -/
theorem value_le_of_lt (hRead : Faithful kinds read) (ha : a.OfKinds kinds) (hb : b.OfKinds kinds)
    (h : a.compare? b = some .lt) :
    read a ≠ .nan ∧ read b ≠ .nan ∧ (read a).value ≤ (read b).value ∧
      (a.kind ≠ .integer ∨ b.kind ≠ .integer → (read a).value < (read b).value) := by
  by_cases hKinds : a.kind ≠ .integer ∨ b.kind ≠ .integer
  · obtain ⟨hNan, hNan', hLess⟩ := Binary.compare?_eq_lt_iff.mp ((hRead.compare ha hb hKinds).mp h)
    exact ⟨hNan, hNan', hLess.le, fun _ => hLess⟩
  · obtain ⟨i, j, rfl, rfl⟩ := exists_integer hKinds
    have hLess : i.value < j.value := compare_lt_iff_lt.mp (Option.some.inj h)
    rw [hRead.integer, hRead.integer]
    exact ⟨Binary.ofInt_ne_nan hRead.proper _, Binary.ofInt_ne_nan hRead.proper _,
      Binary.value_ofInt_mono hRead.proper hLess.le, fun h => absurd h hKinds⟩

theorem lt_of_value_lt (hRead : Faithful kinds read) (ha : a.OfKinds kinds) (hb : b.OfKinds kinds)
    (hNan : read a ≠ .nan) (hNan' : read b ≠ .nan) (h : (read a).value < (read b).value) :
    a.compare? b = some .lt := by
  by_cases hKinds : a.kind ≠ .integer ∨ b.kind ≠ .integer
  · exact (hRead.compare ha hb hKinds).mpr (Binary.compare?_eq_lt_iff.mpr ⟨hNan, hNan', h⟩)
  · obtain ⟨i, j, rfl, rfl⟩ := exists_integer hKinds
    rw [hRead.integer, hRead.integer] at h
    refine congrArg some (compare_lt_iff_lt.mpr (Int.not_le.mp fun hLe => ?_))
    exact absurd h (not_lt.mpr (Binary.value_ofInt_mono hRead.proper hLe))

/-- One of the two steps is strict in the format, unless all three numbers are integers. -/
theorem trans (hRead : Faithful kinds read) (ha : a.OfKinds kinds) (hb : b.OfKinds kinds)
    (hc : c.OfKinds kinds) (h : a.compare? b = some .lt) (h' : b.compare? c = some .lt) :
    a.compare? c = some .lt := by
  obtain ⟨hNan, _, hLe, hStrict⟩ := hRead.value_le_of_lt ha hb h
  obtain ⟨_, hNan', hLe', hStrict'⟩ := hRead.value_le_of_lt hb hc h'
  by_cases hKinds : a.kind ≠ .integer ∨ b.kind ≠ .integer
  · exact hRead.lt_of_value_lt ha hc hNan hNan' ((hStrict hKinds).trans_le hLe')
  by_cases hKinds' : b.kind ≠ .integer ∨ c.kind ≠ .integer
  · exact hRead.lt_of_value_lt ha hc hNan hNan' (hLe.trans_lt (hStrict' hKinds'))
  obtain ⟨i, j, rfl, rfl⟩ := exists_integer hKinds
  obtain ⟨_, k, _, rfl⟩ := exists_integer hKinds'
  exact congrArg some (Std.TransCmp.lt_trans (Option.some.inj h) (Option.some.inj h'))

end Faithful

/-- Numbers whose kinds are not mixed are all compared in one way. -/
theorem compare?_trans (ha : a.WellFormed) (hb : b.WellFormed) (hc : c.WellFormed)
    (h : a.compare? b = some .lt) (h' : b.compare? c = some .lt) :
    a.compare? c = some .lt ∨ Kind.Mixed [a.kind, b.kind, c.kind] := by
  by_cases hMixed : Kind.Mixed [a.kind, b.kind, c.kind]
  · exact .inr hMixed
  have hOfKinds : ∀ {kinds}, [a.kind, b.kind, c.kind] ⊆ kinds →
      a.OfKinds kinds ∧ b.OfKinds kinds ∧ c.OfKinds kinds := fun hKinds =>
    ⟨⟨ha, hKinds (by simp)⟩, ⟨hb, hKinds (by simp)⟩, hc, hKinds (by simp)⟩
  left
  -- Integers and decimals are compared by their units, all other kinds in one format.
  rcases Kind.subset_of_not_mixed hMixed with hKinds | hKinds | hKinds | hKinds <;>
    obtain ⟨ka, kb, kc⟩ := hOfKinds hKinds
  · rw [compare?_eq_lt_iff_units ka.kind_mem kb.kind_mem] at h
    rw [compare?_eq_lt_iff_units kb.kind_mem kc.kind_mem] at h'
    exact (compare?_eq_lt_iff_units ka.kind_mem kc.kind_mem).mpr (h.trans h')
  · exact faithful_toSingle.trans ka kb kc h h'
  · exact faithful_toDouble.trans ka kb kc h h'
  · exact faithful_toDouble_of_single.trans ka kb kc h h'

end Numeric

/-! ## Moments -/

namespace Moment

variable {a b c : Moment}

/-- The range of the moment lies on the time line. -/
def InReach (m : Moment) : Prop :=
  (m.seconds.add? uncertainty).isSome ∧ (m.seconds.sub? uncertainty).isSome

/-- A moment comes before a range if it comes before its early end, and after it if it comes after its
late end. -/
theorem compareWithRange?_eq_some_iff {z u : Decimal} {o : Ordering} :
    compareWithRange? z u = some o ↔
      (u.add? uncertainty).isSome ∧ (u.sub? uncertainty).isSome ∧
        compare z.units (u.units + uncertainty.units) = o ∧
        compare z.units (u.units - uncertainty.units) = o := by
  unfold compareWithRange?
  cases hLate : u.add? uncertainty with
  | none => simp
  | some late =>
    cases hEarly : u.sub? uncertainty with
    | none => simp
    | some early =>
      rw [← Decimal.ofUnits?_eq_some_iff.mp hLate, ← Decimal.ofUnits?_eq_some_iff.mp hEarly]
      simp only [Option.bind_eq_bind, Option.bind_some, Option.isSome_some, true_and]
      by_cases hSame : compare z.units late.units = compare z.units early.units
      · simp [hSame]
      · rw [if_neg hSame]
        exact ⟨nofun, fun ⟨h, h'⟩ => absurd (h.trans h'.symm) hSame⟩

theorem compareWithRange?_eq_lt_iff {z u : Moment} :
    compareWithRange? z.seconds u.seconds = some .lt ↔
      z.seconds.units + uncertainty.units < u.seconds.units ∧ u.InReach := by
  have hPositive : 0 < uncertainty.units := by decide
  rw [compareWithRange?_eq_some_iff, compare_lt_iff_lt, compare_lt_iff_lt]
  constructor
  · rintro ⟨hLate, hEarly, -, hLess⟩
    exact ⟨by omega, hLate, hEarly⟩
  · rintro ⟨hLess, hLate, hEarly⟩
    exact ⟨hLate, hEarly, by omega, by omega⟩

theorem compareWithRange?_eq_gt_iff {z u : Moment} :
    compareWithRange? z.seconds u.seconds = some .gt ↔
      u.seconds.units + uncertainty.units < z.seconds.units ∧ u.InReach := by
  have hPositive : 0 < uncertainty.units := by decide
  rw [compareWithRange?_eq_some_iff, compare_gt_iff_gt, compare_gt_iff_gt]
  constructor
  · rintro ⟨hLate, hEarly, hGreater, -⟩
    exact ⟨hGreater, hLate, hEarly⟩
  · rintro ⟨hGreater, hLate, hEarly⟩
    exact ⟨hLate, hEarly, hGreater, by omega⟩

/-- How far apart two moments have to be. -/
def gap (a b : Moment) : Int := if a.zoned = b.zoned then 0 else uncertainty.units

theorem gap_le (a b c : Moment) : a.gap c ≤ a.gap b + b.gap c := by
  have hPositive : 0 < uncertainty.units := by decide
  unfold gap
  cases a.zoned <;> cases b.zoned <;> cases c.zoned <;>
    simp only [reduceCtorEq, if_true, if_false] <;> omega

/-- If one moment has a zone and the other has none, the range of the other lies on the time line. -/
def Settled (a b : Moment) : Prop :=
  a.zoned ≠ b.zoned → ∀ m ∈ [a, b], m.zoned = false → m.InReach

theorem compare?_eq_lt_iff :
    a.compare? b = some .lt ↔ a.seconds.units + a.gap b < b.seconds.units ∧ a.Settled b := by
  unfold compare? gap Settled
  cases ha : a.zoned with
  | true =>
    cases hb : b.zoned with
    | true => simp [compare_lt_iff_lt]
    | false => simp [compareWithRange?_eq_lt_iff, ha, hb]
  | false =>
    cases hb : b.zoned with
    | true =>
      have hSwap : ∀ o : Ordering, o.swap = .lt ↔ o = .gt := by decide
      simp [compareWithRange?_eq_gt_iff, hSwap, ha, hb]
    | false => simp [compare_lt_iff_lt]

/-- The steps add up. Only a range that was not asked for in either step may lie beyond the time line. -/
theorem compare?_trans (h : a.compare? b = some .lt) (h' : b.compare? c = some .lt) :
    a.compare? c = some .lt ∨ ¬ a.Settled c := by
  by_cases hSettled : a.Settled c
  · left
    have hLess := (compare?_eq_lt_iff.mp h).1
    have hLess' := (compare?_eq_lt_iff.mp h').1
    have hGap := gap_le a b c
    exact compare?_eq_lt_iff.mpr ⟨by omega, hSettled⟩
  · exact .inr hSettled

end Moment

/-! ## Durations -/

namespace Duration

variable {a b c : Duration}

theorem agreed?_eq_some_iff {orders : List Ordering} {o : Ordering} :
    agreed? orders = some o ↔ orders ≠ [] ∧ ∀ p ∈ orders, p = o := by
  cases orders with
  | nil => simp [agreed?]
  | cons order others =>
    simp only [agreed?, List.all_eq_true, beq_iff_eq, List.forall_mem_cons]
    constructor
    · intro h
      split at h
      · cases h
        exact ⟨List.cons_ne_nil _ _, rfl, ‹_›⟩
      · cases h
    · rintro ⟨-, rfl, h⟩
      exact if_pos h

/-- The order of durations is the order from every reference month. -/
theorem compare?_eq_some_iff {o : Ordering} :
    a.compare? b = some o ↔ ∀ start ∈ referenceMonths, a.compareFrom? b start = some o := by
  rw [compare?_eq, Option.bind_eq_some_iff]
  constructor
  · rintro ⟨orders, hOrders, hAgreed⟩ start hStart
    have hMem := List.mem_map_of_mem (f := a.compareFrom? b) hStart
    rw [mapM_eq_some_iff.mp hOrders] at hMem
    obtain ⟨p, hp, hFrom⟩ := List.mem_map.mp hMem
    rw [← hFrom, (agreed?_eq_some_iff.mp hAgreed).2 p hp]
  · intro h
    refine ⟨referenceMonths.map fun _ => o, mapM_eq_some_iff.mpr ?_, agreed?_eq_some_iff.mpr ⟨nofun, ?_⟩⟩
    · rw [List.map_map]
      exact List.map_congr_left h
    · intro p hp
      obtain ⟨_, _, rfl⟩ := List.mem_map.mp hp
      rfl

theorem compareFrom?_eq_some_iff {start : Int × Nat} {o : Ordering} :
    a.compareFrom? b start = some o ↔
      ∃ x y, a.endFrom? start.1 start.2 = some x ∧ b.endFrom? start.1 start.2 = some y ∧
        compare x.units y.units = o := by
  unfold compareFrom?
  cases a.endFrom? start.1 start.2 <;> cases b.endFrom? start.1 start.2 <;> simp

theorem compare?_trans (h : a.compare? b = some .lt) (h' : b.compare? c = some .lt) :
    a.compare? c = some .lt := by
  refine compare?_eq_some_iff.mpr fun start hStart => ?_
  obtain ⟨x, y, hx, hy, hLess⟩ := compareFrom?_eq_some_iff.mp (compare?_eq_some_iff.mp h start hStart)
  obtain ⟨y', z, hy', hz, hLess'⟩ :=
    compareFrom?_eq_some_iff.mp (compare?_eq_some_iff.mp h' start hStart)
  obtain rfl := Option.some.inj (hy.symm.trans hy')
  exact compareFrom?_eq_some_iff.mpr ⟨x, z, hx, hz, Std.TransCmp.lt_trans hLess hLess'⟩

end Duration

/-! ## Values -/

theorem TermOrder.ofOrder?_eq_ordered_iff {order : Option Ordering} {o : Ordering} :
    ofOrder? order = .ordered o ↔ order = some o := by
  cases order <;> simp [ofOrder?]

namespace Value

variable {a b c : Value}

/-- Values of which the first is less: they are of one kind, and less within it. -/
inductive Below : Value → Value → Prop
  | iri {i j : Iri} (h : compare i.text j.text = .lt) : Below (iri i) (iri j)
  | blank {m n : BlankNode} (h : compare m.id n.id = .lt) : Below (blank m) (blank n)
  | boolean {x y : Bool} (h : compare x.toNat y.toNat = .lt) : Below (boolean x) (boolean y)
  | number {x y : Numeric} (h : x.compare? y = some .lt) : Below (number x) (number y)
  | string {x y : String} (h : compare x y = .lt) : Below (string x) (string y)
  | tagged {x y : String} {language : Language} {direction : Option Direction}
      (h : compare x y = .lt) : Below (tagged x language direction) (tagged y language direction)
  | moment {kind : MomentKind} {x y : Moment} (h : x.compare? y = some .lt) :
      Below (moment kind x) (moment kind y)
  | duration {x y : Duration} (h : x.compare? y = some .lt) : Below (duration x) (duration y)
  | other {x y : String} {datatype : Iri} (h : compare x y = .lt) :
      Below (other x datatype) (other y datatype)

theorem below_of_compare? (h : a.compare? b = some (.ordered .lt)) : Below a b := by
  have hInj : ∀ {o : Ordering}, some (TermOrder.ordered o) = some (.ordered .lt) → o = .lt := by
    rintro o ⟨⟩
    rfl
  have hPartial : ∀ {o : Option Ordering}, some (TermOrder.ofOrder? o) = some (.ordered .lt) →
      o = some .lt := fun h => TermOrder.ofOrder?_eq_ordered_iff.mp (Option.some.inj h)
  cases a with
  | iri i => cases b with | iri j => exact .iri (hInj h) | _ => cases h
  | blank m => cases b with | blank n => exact .blank (hInj h) | _ => cases h
  | boolean x => cases b with | boolean y => exact .boolean (hInj h) | _ => cases h
  | number x => cases b with | number y => exact .number (hPartial h) | _ => cases h
  | string x => cases b with | string y => exact .string (hInj h) | _ => cases h
  | tagged x language direction =>
    cases b with
    | tagged y language' direction' =>
      rw [compare?] at h
      split at h
      · obtain ⟨rfl, rfl⟩ := ‹_ ∧ _›
        exact .tagged (hInj h)
      · cases h
    | _ => cases h
  | moment kind x =>
    cases b with
    | moment kind' y =>
      rw [compare?] at h
      split at h
      · subst kind'
        exact .moment (hPartial h)
      · cases h
    | _ => cases h
  | duration x => cases b with | duration y => exact .duration (hPartial h) | _ => cases h
  | other x datatype =>
    cases b with
    | other y datatype' =>
      rw [compare?] at h
      split at h
      · subst datatype'
        exact .other (hInj h)
      · cases h
    | _ => cases h

theorem Below.compare?_eq (h : Below a b) : a.compare? b = some (.ordered .lt) := by
  cases h with
  | iri h | blank h | boolean h | string h => exact congrArg (some ∘ TermOrder.ordered) h
  | number h | duration h => exact congrArg (some ∘ TermOrder.ofOrder?) h
  | tagged h => simp [compare?, h]
  | moment h => simp [compare?, h, TermOrder.ofOrder?]
  | other h => simp [compare?, h]

/-- Binary numbers are numbers of their format. -/
def WellFormed (v : Value) : Prop := ∀ n ∈ v.number?, n.WellFormed

/-- Values that may be compared in more than one way: numbers of mixed kinds, or two moments of which
only one has a zone and the range of the other ends beyond the time line. -/
def Mixed (vs : List Value) : Prop :=
  Numeric.Kind.Mixed ((vs.filterMap number?).map Numeric.kind) ∨
    ∃ kind x y, moment kind x ∈ vs ∧ moment kind y ∈ vs ∧ ¬ x.Settled y

theorem Below.trans (ha : a.WellFormed) (hb : b.WellFormed) (hc : c.WellFormed) (h : Below a b)
    (h' : Below b c) : Below a c ∨ Mixed [a, b, c] := by
  cases h with
  | iri h => cases h' with | iri h' => exact .inl (.iri (Std.TransCmp.lt_trans h h'))
  | blank h => cases h' with | blank h' => exact .inl (.blank (Std.TransCmp.lt_trans h h'))
  | boolean h => cases h' with | boolean h' => exact .inl (.boolean (Std.TransCmp.lt_trans h h'))
  | string h => cases h' with | string h' => exact .inl (.string (Std.TransCmp.lt_trans h h'))
  | tagged h => cases h' with | tagged h' => exact .inl (.tagged (Std.TransCmp.lt_trans h h'))
  | other h => cases h' with | other h' => exact .inl (.other (Std.TransCmp.lt_trans h h'))
  | duration h => cases h' with | duration h' => exact .inl (.duration (Duration.compare?_trans h h'))
  | number h =>
    cases h' with
    | number h' => exact (Numeric.compare?_trans (ha _ rfl) (hb _ rfl) (hc _ rfl) h h').imp .number .inl
  | @moment kind x y h =>
    cases h' with
    | @moment _ _ z h' =>
      exact (Moment.compare?_trans h h').imp .moment fun hSettled =>
        .inr ⟨kind, x, z, by simp, by simp, hSettled⟩

end Value

/-! ## Terms -/

theorem Value.wellFormed_of_number? {v : Value} (h : v.number? = none) : v.WellFormed := fun _ hn =>
  absurd (h.symm.trans hn) nofun

/-- Only floating-point literals have binary numbers, and they are read into their format. -/
theorem Value.wellFormed_of_ofDatatype? {datatype : Datatype} {text : String} {v : Value}
    (h : ofDatatype? datatype text = some v) : v.WellFormed := by
  cases datatype with
  | float =>
    obtain ⟨b, hb, rfl⟩ := Option.map_eq_some_iff.mp h
    rintro _ ⟨⟩
    exact Binary.wellFormed_of_parse? Format.proper_single hb
  | double =>
    obtain ⟨b, hb, rfl⟩ := Option.map_eq_some_iff.mp h
    rintro _ ⟨⟩
    exact Binary.wellFormed_of_parse? Format.proper_double hb
  | string | langString | dirLangString =>
    cases h
    exact wellFormed_of_number? rfl
  | boolean | dateTime | dateTimeStamp | time | date | gYearMonth | gYear | gMonthDay | gDay | gMonth
  | duration | yearMonthDuration | dayTimeDuration =>
    obtain ⟨_, _, rfl⟩ := Option.map_eq_some_iff.mp h
    exact wellFormed_of_number? rfl
  | _ =>
    obtain ⟨_, _, rfl⟩ := Option.map_eq_some_iff.mp h
    rintro _ ⟨⟩
    trivial

theorem Value.wellFormed_of_ofTerm? {t : Term} {v : Value} (h : ofTerm? t = some v) : v.WellFormed := by
  unfold ofTerm? at h
  split at h
  · cases h
    exact wellFormed_of_number? rfl
  · cases h
    exact wellFormed_of_number? rfl
  · cases h
    exact wellFormed_of_number? rfl
  · cases h
    exact wellFormed_of_number? rfl
  · split at h
    · exact wellFormed_of_ofDatatype? h
    · cases h
      exact wellFormed_of_number? rfl

namespace Term

variable {a b c : Term}

theorem compare?_eq_lt_iff :
    a.compare? b = some (.ordered .lt) ↔
      ∃ x y, Value.ofTerm? a = some x ∧ Value.ofTerm? b = some y ∧ Value.Below x y := by
  unfold compare?
  rw [Option.bind_eq_bind, Option.bind_eq_some_iff]
  constructor
  · rintro ⟨x, hx, h⟩
    obtain ⟨y, hy, h⟩ := Option.bind_eq_some_iff.mp h
    exact ⟨x, y, hx, hy, Value.below_of_compare? h⟩
  · rintro ⟨x, y, hx, hy, h⟩
    exact ⟨x, hx, Option.bind_eq_some_iff.mpr ⟨y, hy, h.compare?_eq⟩⟩

/-- Terms whose values may be compared in more than one way. -/
def Mixed (ts : List Term) : Prop := Value.Mixed (ts.filterMap Value.ofTerm?)

theorem compare?_trans (h : a.compare? b = some (.ordered .lt)) (h' : b.compare? c = some (.ordered .lt)) :
    a.compare? c = some (.ordered .lt) ∨ Mixed [a, b, c] := by
  obtain ⟨x, y, hx, hy, hBelow⟩ := compare?_eq_lt_iff.mp h
  obtain ⟨y', z, hy', hz, hBelow'⟩ := compare?_eq_lt_iff.mp h'
  obtain rfl := Option.some.inj (hy.symm.trans hy')
  have hValues : [a, b, c].filterMap Value.ofTerm? = [x, y, z] := by simp [hx, hy, hz]
  rw [Mixed, hValues]
  exact (hBelow.trans (Value.wellFormed_of_ofTerm? hx) (Value.wellFormed_of_ofTerm? hy)
    (Value.wellFormed_of_ofTerm? hz) hBelow').imp_left fun hLess =>
      compare?_eq_lt_iff.mpr ⟨x, z, hx, hz, hLess⟩

end Term

end GraphQuery
