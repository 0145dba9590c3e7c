import GraphQuery.Proofs.Table

/-! # Joins as a commutative monoid

A gap agrees with every term, so agreement is not transitive, and two rows that agree may both agree
with a third one only before the gaps of one of them are filled. Nevertheless it does not matter in
which order rows are put together: three rows can be put together if each two of them agree, and a
join puts together the rows of tables.

* `Row.join?` — two rows put together, if they agree.
* `Row.join?_comm`, `Row.join?_assoc` — the order makes no difference.
* `flatMap_filterMap_perm` — all pairs of two lists, by the first ones or by the second ones.
* `Table.join_assoc_comm_unit` — nor does the order make a difference for tables.
-/

namespace GraphQuery

/-! ## Rows put together -/

namespace Row

variable {r s q : Row}

/-- Two rows put together, if they agree. -/
def join? (r s : Row) : Option Row := if r.isCompatible s then some (r.merge s) else none

theorem merge_comm (h : r.isCompatible s = true) : r.merge s = s.merge r := by
  refine ext_vars (fun v => by rw [mem_vars_merge, mem_vars_merge, or_comm]) fun v => ?_
  rw [term?_merge, term?_merge]
  cases ha : r.term? v with
  | none => rw [Option.none_or, Option.or_none]
  | some a =>
    cases hb : s.term? v with
    | none => rfl
    | some b => exact congrArg some (isCompatible_iff.mp h v a b ha hb)

theorem merge_assoc : (r.merge s).merge q = r.merge (s.merge q) :=
  ext_vars (fun v => by simp only [mem_vars_merge, or_assoc]) fun v => by
    simp only [term?_merge, Option.or_assoc]

/-- What two agreeing rows say together, another row agrees with if it agrees with both of them. -/
theorem isCompatible_merge_right (h : s.isCompatible q = true) :
    r.isCompatible (s.merge q) = (r.isCompatible s && r.isCompatible q) := by
  rw [Bool.eq_iff_iff, Bool.and_eq_true, isCompatible_iff, isCompatible_iff, isCompatible_iff]
  simp only [term?_merge]
  constructor
  · intro hMerge
    refine ⟨fun v a b ha hb => hMerge v a b ha (by rw [hb]; rfl), fun v a b ha hb => ?_⟩
    -- The second row's term shows unless the first row has one, and then it is the same one.
    cases hs : s.term? v with
    | none => exact hMerge v a b ha (by rw [hs, hb]; rfl)
    | some c => rw [hMerge v a c ha (by rw [hs]; rfl), isCompatible_iff.mp h v c b hs hb]
  · rintro ⟨hFirst, hSecond⟩ v a b ha hb
    rcases Option.or_eq_some_iff.mp hb with hb | ⟨_, hb⟩
    · exact hFirst v a b ha hb
    · exact hSecond v a b ha hb

theorem isCompatible_merge_left (h : r.isCompatible s = true) :
    (r.merge s).isCompatible q = (r.isCompatible q && s.isCompatible q) := by
  rw [isCompatible_comm, isCompatible_merge_right h, isCompatible_comm, isCompatible_comm (r := q)]

theorem join?_comm : r.join? s = s.join? r := by
  unfold join?
  rw [isCompatible_comm (r := s)]
  split
  · rename_i h
    rw [merge_comm h]
  · rfl

theorem join?_assoc : (r.join? s).bind (·.join? q) = (s.join? q).bind (r.join? ·) := by
  -- Either way, each two of the three rows have to agree.
  cases hrs : r.isCompatible s with
  | false =>
    cases hsq : s.isCompatible q with
    | false => simp [join?, hrs, hsq]
    | true => simp [join?, hrs, hsq, isCompatible_merge_right hsq]
  | true =>
    cases hsq : s.isCompatible q with
    | false => simp [join?, hrs, hsq, isCompatible_merge_left hrs]
    | true =>
      simp [join?, hrs, hsq, isCompatible_merge_left hrs, isCompatible_merge_right hsq, merge_assoc]

theorem join?_empty : r.join? empty = some r := by
  have hCompatible : r.isCompatible empty = true := isCompatible_iff.mpr fun v a b _ hb => by
    cases hb
  rw [join?, if_pos hCompatible]
  rfl

end Row

/-! ## Pairs -/

/-- All pairs of two lists that have a result, in the order of the first ones or of the second ones. -/
theorem flatMap_filterMap_perm {α β γ : Type} (f : α → β → Option γ) (xs : List α) (ys : List β) :
    (xs.flatMap fun x => ys.filterMap (f x)).Perm (ys.flatMap fun y => xs.filterMap (f · y)) := by
  induction xs with
  | nil => simp
  | cons x xs ih =>
    have hCons : (ys.flatMap fun y => (x :: xs).filterMap (f · y)) =
        ys.flatMap fun y => (f x y).toList ++ xs.filterMap (f · y) :=
      List.flatMap_congr fun y _ => by cases h : f x y <;> simp [h]
    rw [hCons, List.flatMap_cons, List.filterMap_eq_flatMap_toList]
    exact (ih.append_left _).trans (List.flatMap_append_perm ys _ _)

/-! ## Tables -/

namespace Table

variable {a b c : Table} {r : Row}

theorem partners_eq (u : Table) (r : Row) : u.partners r = u.rows.filterMap r.join? := by
  unfold partners
  induction u.rows with
  | nil => rfl
  | cons s rows ih =>
    cases h : r.isCompatible s <;> simp [h, Row.join?, ih]

theorem rows_join (ha : a.WellFormed) (hb : b.WellFormed) :
    (a.join b).rows = a.rows.flatMap fun r => b.rows.filterMap r.join? := by
  rw [join_eq ha hb]
  exact List.flatMap_congr fun r _ => b.partners_eq r

/-- The rows that a row makes with those of a join: it is put together with each pair. -/
theorem filterMap_join?_join (hb : b.WellFormed) (hc : c.WellFormed) :
    (b.join c).rows.filterMap r.join? =
      b.rows.flatMap fun s => c.rows.filterMap fun q => (s.join? q).bind r.join? := by
  rw [rows_join hb hc, List.filterMap_flatMap]
  exact List.flatMap_congr fun s _ => List.filterMap_filterMap

/-- The rows that a row makes with those of one table and then of another one. -/
theorem flatMap_filterMap_join? (b c : Table) :
    ((b.rows.filterMap r.join?).flatMap fun m => c.rows.filterMap m.join?) =
      b.rows.flatMap fun s => c.rows.filterMap fun q => (r.join? s).bind (·.join? q) := by
  rw [List.filterMap_eq_flatMap_toList, List.flatMap_assoc]
  refine List.flatMap_congr fun s _ => ?_
  cases r.join? s with
  | none => simp
  | some m => simp

theorem rows_join_assoc (ha : a.WellFormed) (hb : b.WellFormed) (hc : c.WellFormed) :
    ((a.join b).join c).rows = (a.join (b.join c)).rows := by
  rw [rows_join (wellFormed_join a b) hc, rows_join ha hb, rows_join ha (wellFormed_join b c),
    List.flatMap_assoc]
  refine List.flatMap_congr fun r _ => ?_
  rw [flatMap_filterMap_join?, filterMap_join?_join hb hc]
  simp only [Row.join?_assoc]

theorem schema_join (ha : a.WellFormed) (hb : b.WellFormed) :
    (a.join b).schema = a.jointVariables b := by
  rw [join_eq ha hb]

theorem schema_join_assoc (ha : a.WellFormed) (hb : b.WellFormed) (hc : c.WellFormed) :
    ((a.join b).join c).schema = (a.join (b.join c)).schema := by
  -- Each of the tables adds the columns that those before it lack.
  rw [schema_join (wellFormed_join a b) hc, schema_join ha (wellFormed_join b c)]
  unfold jointVariables hasColumn
  rw [schema_join ha hb, schema_join hb hc]
  unfold jointVariables hasColumn
  rw [List.filter_append, List.filter_filter, List.append_assoc]
  congr 2
  refine List.filter_congr fun v _ => ?_
  by_cases hva : v ∈ a.schema <;> by_cases hvb : v ∈ b.schema <;> simp [hva, hvb]

theorem eq_of_rows_eq (hSchema : a.schema = b.schema) (hRows : a.rows = b.rows) : a = b := by
  cases a
  cases b
  cases hSchema
  cases hRows
  rfl

theorem join_assoc (ha : a.WellFormed) (hb : b.WellFormed) (hc : c.WellFormed) :
    (a.join b).join c = a.join (b.join c) :=
  eq_of_rows_eq (schema_join_assoc ha hb hc) (rows_join_assoc ha hb hc)

/-- Well-formed tables with the same columns have them in some order. -/
theorem WellFormed.schema_perm (ha : a.WellFormed) (hb : b.WellFormed)
    (h : ∀ v, v ∈ a.schema ↔ v ∈ b.schema) : a.schema.Perm b.schema :=
  (List.perm_ext_iff_of_nodup ha.nodup_schema hb.nodup_schema).mpr h

theorem schema_join_perm (ha : a.WellFormed) (hb : b.WellFormed) :
    (a.join b).schema.Perm (b.join a).schema := by
  refine (wellFormed_join a b).schema_perm (wellFormed_join b a) fun v => ?_
  rw [schema_join ha hb, schema_join hb ha, mem_jointVariables, mem_jointVariables, or_comm]

theorem rows_join_perm (ha : a.WellFormed) (hb : b.WellFormed) :
    (a.join b).rows.Perm (b.join a).rows := by
  rw [rows_join ha hb, rows_join hb ha]
  have hSwap : ∀ s : Row, a.rows.filterMap (Row.join? · s) = a.rows.filterMap s.join? := fun s =>
    List.filterMap_congr fun r _ => Row.join?_comm
  simpa only [hSwap] using flatMap_filterMap_perm Row.join? a.rows b.rows

theorem join_unit (ha : a.WellFormed) : a.join unit = a := by
  refine eq_of_rows_eq ?_ ?_
  · rw [schema_join ha wellFormed_unit]
    exact List.append_nil a.schema
  · rw [rows_join ha wellFormed_unit]
    simp [unit, Row.join?_empty]

theorem unit_join (ha : a.WellFormed) : unit.join a = a := by
  refine eq_of_rows_eq ?_ ?_
  · rw [schema_join wellFormed_unit ha]
    exact List.filter_eq_self.mpr fun v _ => rfl
  · rw [rows_join wellFormed_unit ha]
    simp [unit, Row.join?_comm (r := .empty), Row.join?_empty]

/-- Tables are a commutative monoid under joins, up to the order of columns and rows where the two
tables of a join change places. All well-formed tables are admitted, with whatever columns in common
and with whatever gaps. -/
theorem join_assoc_comm_unit (ha : a.WellFormed) (hb : b.WellFormed) (hc : c.WellFormed) :
    (a.join b).join c = a.join (b.join c) ∧
      ((a.join b).schema.Perm (b.join a).schema ∧ (a.join b).rows.Perm (b.join a).rows) ∧
      unit.join a = a ∧ a.join unit = a :=
  ⟨join_assoc ha hb hc, ⟨schema_join_perm ha hb, rows_join_perm ha hb⟩, unit_join ha, join_unit ha⟩

/-- A row with a gap stands between two rows that do not agree with each other. It agrees with both,
but only until one of them has filled the gap. -/
theorem join_assoc_comm_unit_gap :
    let x : Variable := ⟨"x"⟩
    let y : Variable := ⟨"y"⟩
    let a : Table := ofRows [x] [.ofList [(x, some (.simple "1"))]]
    let b : Table := ofRows [y, x] [.ofList [(x, none), (y, some (.simple "2"))]]
    let c : Table := ofRows [x] [.ofList [(x, some (.simple "3"))]]
    (a.WellFormed ∧ b.WellFormed ∧ c.WellFormed) ∧
      (a.join b).join c = a.join (b.join c) ∧
      ((a.join b).schema.Perm (b.join a).schema ∧ (a.join b).rows.Perm (b.join a).rows) ∧
      unit.join a = a ∧ a.join unit = a := by
  intro x y a b c
  have ha : a.WellFormed := wellFormed_ofRows _ _
  have hb : b.WellFormed := wellFormed_ofRows _ _
  have hc : c.WellFormed := wellFormed_ofRows _ _
  exact ⟨⟨ha, hb, hc⟩, join_assoc_comm_unit ha hb hc⟩

end Table

end GraphQuery
