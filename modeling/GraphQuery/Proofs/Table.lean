import GraphQuery.Aggregate
import GraphQuery.Proofs.Row
import Mathlib.Data.List.Induction
import Mathlib.Data.List.Perm.Basic

/-! # Well-formed tables

The schema of a table and its rows are kept apart, and every operation has to keep them in step.

* `Table.WellFormed` — the schema repeats no variable, and each row has exactly its columns.
* `Table.join_eq`, `Table.leftJoin_eq`, `Table.union_eq` — the operations on well-formed tables,
  where no column has to be added while rows are appended.
* `Table.Built`, `Table.wellFormed_of_built` — the tables that can arise, all of them well-formed.
-/

namespace GraphQuery

/-! ## Distinct elements -/

section Distinct

variable {α : Type} [DecidableEq α]

theorem foldl_addNew (xs acc : List α) :
    xs.foldl addNew acc = acc ++ (firsts xs).filter (· ∉ acc) := by
  induction xs using List.reverseRecOn with
  | nil => simp [firsts]
  | append_singleton xs x ih =>
    have hFirsts : firsts (xs ++ [x]) = addNew (firsts xs) x := by simp [firsts]
    rw [List.foldl_append, List.foldl_cons, List.foldl_nil, ih, hFirsts]
    by_cases hx : x ∈ xs
    · have hLeft : x ∈ acc ++ (firsts xs).filter (· ∉ acc) := by
        by_cases hAcc : x ∈ acc <;> simp [mem_firsts, hx, hAcc]
      rw [addNew, if_pos hLeft, addNew, if_pos (mem_firsts.mpr hx)]
    · rw [addNew, addNew, if_neg (mt mem_firsts.mp hx), List.filter_append]
      by_cases hAcc : x ∈ acc <;> simp [mem_firsts, hx, hAcc]

theorem firsts_append (xs ys : List α) :
    firsts (xs ++ ys) = firsts xs ++ (firsts ys).filter (· ∉ xs) := by
  have h : firsts (xs ++ ys) = ys.foldl addNew (firsts xs) := by simp [firsts]
  rw [h, foldl_addNew]
  simp only [mem_firsts]

theorem firsts_eq_self {xs : List α} (h : xs.Nodup) : firsts xs = xs := by
  induction xs using List.reverseRecOn with
  | nil => rfl
  | append_singleton xs x ih =>
    obtain ⟨hxs, _, hDisjoint⟩ := List.nodup_append.mp h
    have hx : x ∉ xs := fun hMem => hDisjoint x hMem x List.mem_cons_self rfl
    rw [firsts_append, ih hxs]
    simp [firsts, addNew, hx]

theorem firsts_append_of_subset {xs ys : List α} (hxs : xs.Nodup) (h : ∀ y ∈ ys, y ∈ xs) :
    firsts (xs ++ ys) = xs := by
  have hNone : (firsts ys).filter (· ∉ xs) = [] := List.filter_eq_nil_iff.mpr fun y hy => by
    simpa using h y (mem_firsts.mp hy)
  rw [firsts_append, firsts_eq_self hxs, hNone, List.append_nil]

theorem firsts_filter (p : α → Bool) (xs : List α) :
    firsts (xs.filter p) = (firsts xs).filter p := by
  induction xs using List.reverseRecOn with
  | nil => rfl
  | append_singleton xs x ih =>
    rw [List.filter_append, firsts_append, firsts_append, ih, List.filter_append]
    congr 1
    by_cases hp : p x <;> by_cases hx : x ∈ xs <;> simp [firsts, addNew, hp, hx]

end Distinct

theorem map_eq_self {α : Type} {xs : List α} {f : α → α} (h : ∀ x ∈ xs, f x = x) : xs.map f = xs :=
  (List.map_congr_left (g := id) h).trans (List.map_id xs)

namespace Table

/-- The schema repeats no variable, and the columns of each row are those of the schema. -/
structure WellFormed (t : Table) : Prop where
  nodup_schema : t.schema.Nodup
  mem_vars : ∀ r ∈ t.rows, ∀ v, v ∈ r.vars ↔ v ∈ t.schema

variable {t u : Table} {tables : List Table} {r : Row} {rows : List Row} {v : Variable}
  {vs : List Variable}

/-! ## Further columns -/

theorem hasColumn_iff : t.hasColumn v = true ↔ v ∈ t.schema := List.contains_iff_mem

@[simp] theorem schema_addColumn : (t.addColumn v).schema = addNew t.schema v := by
  unfold addColumn addNew
  by_cases h : v ∈ t.schema
  · rw [if_pos (hasColumn_iff.mpr h), if_pos h]
  · rw [if_neg (mt hasColumn_iff.mp h), if_neg h]

@[simp] theorem schema_addColumns : (t.addColumns vs).schema = vs.foldl addNew t.schema := by
  induction vs generalizing t with
  | nil => rfl
  | cons v vs ih =>
    show ((t.addColumn v).addColumns vs).schema = _
    rw [ih, schema_addColumn]
    rfl

theorem mem_schema_addColumns {w : Variable} :
    w ∈ (t.addColumns vs).schema ↔ w ∈ t.schema ∨ w ∈ vs := by
  rw [schema_addColumns, mem_foldl_addNew]

@[simp] theorem schema_ofVariables : (ofVariables vs).schema = firsts vs := schema_addColumns

theorem wellFormed_empty : empty.WellFormed := ⟨List.nodup_nil, fun _ h => nomatch h⟩

theorem wellFormed_unit : unit.WellFormed :=
  ⟨List.nodup_nil, fun r hr v => by rw [List.mem_singleton.mp hr]; rfl⟩

theorem WellFormed.rows_addColumn (h : t.WellFormed) :
    (t.addColumn v).rows = t.rows.map (·.ensure v) := by
  unfold addColumn
  split
  · rename_i hv
    have hSelf : ∀ r ∈ t.rows, r.ensure v = r := fun r hr =>
      if_pos (Row.hasColumn_iff.mpr ((h.mem_vars r hr v).mpr (hasColumn_iff.mp hv)))
    exact (map_eq_self hSelf).symm
  · rfl

theorem WellFormed.addColumn (h : t.WellFormed) (v : Variable) : (t.addColumn v).WellFormed where
  nodup_schema := by
    rw [schema_addColumn]
    exact nodup_addNew h.nodup_schema
  mem_vars s hs w := by
    rw [h.rows_addColumn] at hs
    obtain ⟨r, hr, rfl⟩ := List.mem_map.mp hs
    rw [schema_addColumn, mem_addNew, Row.mem_vars_ensure, h.mem_vars r hr w, or_comm]

theorem WellFormed.addColumns (h : t.WellFormed) (vs : List Variable) :
    (t.addColumns vs).WellFormed := by
  induction vs generalizing t with
  | nil => exact h
  | cons v vs ih => exact ih (h.addColumn v)

theorem WellFormed.rows_addColumns (h : t.WellFormed) :
    (t.addColumns vs).rows = t.rows.map (·.widen vs) := by
  induction vs generalizing t with
  | nil => exact (List.map_id t.rows).symm
  | cons v vs ih =>
    show ((t.addColumn v).addColumns vs).rows = _
    rw [ih (h.addColumn v), h.rows_addColumn, List.map_map]
    rfl

theorem wellFormed_ofVariables (vs : List Variable) : (ofVariables vs).WellFormed :=
  wellFormed_empty.addColumns vs

theorem rows_ofVariables : (ofVariables vs).rows = [] := wellFormed_empty.rows_addColumns

/-! ## Appended rows -/

theorem WellFormed.push (h : t.WellFormed) (r : Row) : (t.push r).WellFormed where
  nodup_schema := (h.addColumns r.vars).nodup_schema
  mem_vars s hs v := by
    rcases List.mem_append.mp hs with hs | hs
    · exact (h.addColumns r.vars).mem_vars s hs v
    · rw [List.mem_singleton.mp hs]
      show v ∈ (r.widen (t.addColumns r.vars).schema).vars ↔ v ∈ (t.addColumns r.vars).schema
      rw [Row.mem_vars_widen, or_iff_right_iff_imp, mem_schema_addColumns]
      exact .inr

theorem WellFormed.pushAll (h : t.WellFormed) (rows : List Row) : (t.pushAll rows).WellFormed := by
  induction rows generalizing t with
  | nil => exact h
  | cons r rows ih => exact ih (h.push r)

theorem wellFormed_ofRows (vs : List Variable) (rows : List Row) : (ofRows vs rows).WellFormed :=
  (wellFormed_ofVariables vs).pushAll rows

theorem addColumns_of_subset (h : ∀ v ∈ vs, v ∈ t.schema) : t.addColumns vs = t := by
  induction vs with
  | nil => rfl
  | cons v vs ih =>
    have hv : t.addColumn v = t := if_pos (hasColumn_iff.mpr (h v List.mem_cons_self))
    show (t.addColumn v).addColumns vs = t
    rw [hv, ih fun w hw => h w (List.mem_cons_of_mem v hw)]

theorem push_of_subset (h : ∀ v ∈ r.vars, v ∈ t.schema) :
    t.push r = ⟨t.schema, t.rows ++ [r.widen t.schema]⟩ := by
  unfold push
  rw [addColumns_of_subset h]
  rfl

/-- Rows without new columns are appended, widened to the schema. -/
theorem pushAll_of_subset (h : ∀ r ∈ rows, ∀ v ∈ r.vars, v ∈ t.schema) :
    t.pushAll rows = ⟨t.schema, t.rows ++ rows.map (·.widen t.schema)⟩ := by
  induction rows generalizing t with
  | nil => simp [pushAll]
  | cons r rows ih =>
    show (t.push r).pushAll rows = _
    rw [push_of_subset (h r List.mem_cons_self)]
    have hRest := ih (t := ⟨t.schema, t.rows ++ [r.widen t.schema]⟩)
      fun s hs => h s (List.mem_cons_of_mem r hs)
    rw [hRest]
    simp

theorem ofRows_of_subset (h : ∀ r ∈ rows, ∀ v ∈ r.vars, v ∈ vs) :
    ofRows vs rows = ⟨firsts vs, rows.map (·.widen vs)⟩ := by
  unfold ofRows
  rw [pushAll_of_subset fun r hr v hv => by rw [schema_ofVariables]; exact mem_firsts.mpr (h r hr v hv),
    rows_ofVariables, schema_ofVariables, List.nil_append]
  congr 1
  refine List.map_congr_left fun r _ => Row.ext_vars (fun v => ?_) fun v => by simp
  rw [Row.mem_vars_widen, Row.mem_vars_widen, mem_firsts]

/-- A table of rows that have the columns of the schema already. -/
theorem ofRows_of_exact (hNodup : vs.Nodup) (h : ∀ r ∈ rows, ∀ v, v ∈ r.vars ↔ v ∈ vs) :
    ofRows vs rows = ⟨vs, rows⟩ := by
  rw [ofRows_of_subset fun r hr v => (h r hr v).mp, firsts_eq_self hNodup]
  congr 1
  exact map_eq_self fun r hr => Row.widen_eq_self fun v => (h r hr v).mpr

/-! ## Fewer columns and rows -/

theorem WellFormed.removeColumn (h : t.WellFormed) (v : Variable) : (t.removeColumn v).WellFormed where
  nodup_schema := h.nodup_schema.filter _
  mem_vars s hs w := by
    obtain ⟨r, hr, rfl⟩ := List.mem_map.mp hs
    rw [Row.mem_vars_erase, h.mem_vars r hr w]
    simp [Table.removeColumn, and_comm]

theorem WellFormed.removeColumns (h : t.WellFormed) (vs : List Variable) :
    (t.removeColumns vs).WellFormed := by
  induction vs generalizing t with
  | nil => exact h
  | cons v vs ih => exact ih (h.removeColumn v)

theorem removeColumns_eq (t : Table) (vs : List Variable) :
    t.removeColumns vs = ⟨t.schema.filter (· ∉ vs), t.rows.map (·.without vs)⟩ := by
  induction vs generalizing t with
  | nil => simp [removeColumns, Row.without]
  | cons v vs ih =>
    show (t.removeColumn v).removeColumns vs = _
    rw [ih]
    simp [removeColumn, Row.without, List.filter_filter, Bool.and_comm, Function.comp_def]

/-- Nothing but the columns and the rows of a table matters, and rows may be missing. -/
theorem WellFormed.of_subset (h : t.WellFormed) (hSchema : u.schema = t.schema)
    (hRows : u.rows ⊆ t.rows) : u.WellFormed where
  nodup_schema := hSchema ▸ h.nodup_schema
  mem_vars r hr v := by
    rw [hSchema]
    exact h.mem_vars r (hRows hr) v

theorem WellFormed.retain (h : t.WellFormed) (keeps : Row → Bool) : (t.retain keeps).WellFormed :=
  h.of_subset rfl (List.filter_subset_self _)

theorem WellFormed.distinct (h : t.WellFormed) : t.distinct.WellFormed :=
  h.of_subset rfl fun _ => mem_firsts.mp

theorem WellFormed.minus (h : t.WellFormed) (u : Table) : (t.minus u).WellFormed := by
  unfold Table.minus
  dsimp only
  split
  · exact h
  · exact h.retain _

/-! ## Two tables -/

theorem mem_jointVariables : v ∈ t.jointVariables u ↔ v ∈ t.schema ∨ v ∈ u.schema := by
  unfold jointVariables
  by_cases h : v ∈ t.schema <;> simp [h, hasColumn]

theorem jointVariables_congr {t' u' : Table} (h : t.schema = t'.schema) (k : u.schema = u'.schema) :
    t.jointVariables u = t'.jointVariables u' := by
  unfold jointVariables hasColumn
  rw [h, k]

theorem nodup_jointVariables (ht : t.schema.Nodup) (hu : u.schema.Nodup) :
    (t.jointVariables u).Nodup := by
  refine List.nodup_append.mpr ⟨ht, hu.filter _, fun a ha b hb e => ?_⟩
  subst e
  simp [hasColumn, ha] at hb

theorem mem_vars_of_mem_partners {s : Row} (ht : t.WellFormed) (hu : u.WellFormed) (hr : r ∈ t.rows)
    (hs : s ∈ u.partners r) (v : Variable) : v ∈ s.vars ↔ v ∈ t.jointVariables u := by
  obtain ⟨q, hq, rfl⟩ := List.mem_map.mp hs
  rw [Row.mem_vars_merge, ht.mem_vars r hr, hu.mem_vars q (List.mem_of_mem_filter hq),
    mem_jointVariables]

/-- The rows of a join are the merged pairs. -/
theorem join_eq (ht : t.WellFormed) (hu : u.WellFormed) :
    t.join u = ⟨t.jointVariables u, t.rows.flatMap u.partners⟩ := by
  -- Merged rows have the columns of both tables already, so none of them is widened.
  refine ofRows_of_exact (nodup_jointVariables ht.nodup_schema hu.nodup_schema) fun s hs v => ?_
  obtain ⟨r, hr, hs⟩ := List.mem_flatMap.mp hs
  exact mem_vars_of_mem_partners ht hu hr hs v

/-- The rows of a left join: the merged pairs, or the row itself with gaps. -/
theorem leftJoin_eq (ht : t.WellFormed) (hu : u.WellFormed) :
    t.leftJoin u =
      ⟨t.jointVariables u, t.rows.flatMap fun r =>
        match u.partners r with
        | [] => [r.widen (t.jointVariables u)]
        | merged => merged⟩ := by
  have hNodup := nodup_jointVariables ht.nodup_schema hu.nodup_schema
  unfold leftJoin
  rw [ofRows_of_subset, firsts_eq_self hNodup, List.map_flatMap]
  · congr 1
    refine List.flatMap_congr fun r hr => ?_
    -- Only rows without partner lack columns.
    cases h : u.partners r with
    | nil => rfl
    | cons s rest =>
      refine map_eq_self fun q hq => Row.widen_eq_self fun v hv => ?_
      exact (mem_vars_of_mem_partners ht hu hr (h ▸ hq) v).mpr hv
  · intro s hs v hv
    obtain ⟨r, hr, hs⟩ := List.mem_flatMap.mp hs
    cases h : u.partners r with
    | nil =>
      rw [h] at hs
      rw [List.mem_singleton.mp hs] at hv
      exact mem_jointVariables.mpr (.inl ((ht.mem_vars r hr v).mp hv))
    | cons q rest =>
      rw [h] at hs
      exact (mem_vars_of_mem_partners ht hu hr (h ▸ hs) v).mp hv

theorem foldl_union_eq (h : t.WellFormed) (tables : List Table)
    (hTables : ∀ u ∈ tables, u.WellFormed) :
    tables.foldl (fun t u => (t.addColumns u.schema).pushAll u.rows) t =
      ⟨(tables.flatMap schema).foldl addNew t.schema,
        (t :: tables).flatMap fun u => u.rows.map (·.widen (t.schema ++ tables.flatMap schema))⟩ := by
  induction tables generalizing t with
  | nil =>
    have hSelf : t.rows.map (·.widen t.schema) = t.rows :=
      map_eq_self fun r hr => Row.widen_eq_self fun v => (h.mem_vars r hr v).mpr
    simp [hSelf]
  | cons u tables ih =>
    have hu := hTables u List.mem_cons_self
    have hNew : ∀ r ∈ u.rows, ∀ v ∈ r.vars, v ∈ (t.addColumns u.schema).schema := fun r hr v hv =>
      mem_schema_addColumns.mpr (.inr ((hu.mem_vars r hr v).mp hv))
    rw [List.foldl_cons, ih ((h.addColumns u.schema).pushAll u.rows)
      fun w hw => hTables w (List.mem_cons_of_mem u hw), pushAll_of_subset hNew]
    simp only [schema_addColumns, h.rows_addColumns, List.flatMap_cons, List.foldl_append,
      List.map_append, List.map_map, List.append_assoc, Function.comp_def]
    -- The columns that a row has been given by now are among those that it has in the end.
    have hSame : ∀ r : Row, r.widen (u.schema.foldl addNew t.schema ++ tables.flatMap schema) =
        r.widen (t.schema ++ (u.schema ++ tables.flatMap schema)) := fun r =>
      Row.widen_congr fun v => by simp only [List.mem_append, mem_foldl_addNew, or_assoc]
    have hOld : ∀ r : Row, (r.widen u.schema).widen (t.schema ++ (u.schema ++ tables.flatMap schema)) =
        r.widen (t.schema ++ (u.schema ++ tables.flatMap schema)) := fun r =>
      Row.widen_widen fun v hv => by simp [hv]
    have hNow : ∀ r : Row, (r.widen (u.schema.foldl addNew t.schema)).widen
        (t.schema ++ (u.schema ++ tables.flatMap schema)) =
          r.widen (t.schema ++ (u.schema ++ tables.flatMap schema)) := fun r =>
      Row.widen_widen fun v hv => by
        rcases (mem_foldl_addNew u.schema).mp hv with hv | hv <;> simp [hv]
    simp only [hSame, hOld, hNow]

/-- The rows of a union, one table after the other, with columns for all of them. -/
theorem union_eq {tables : List Table} (h : ∀ t ∈ tables, t.WellFormed) :
    union tables =
      ⟨firsts (tables.flatMap schema),
        tables.flatMap fun t => t.rows.map (·.widen (tables.flatMap schema))⟩ := by
  unfold union
  rw [foldl_union_eq wellFormed_empty tables h]
  simp [empty, firsts]

theorem union_map_eq {α : Type} {f : α → Table} {xs : List α} (h : ∀ x ∈ xs, (f x).WellFormed) :
    union (xs.map f) =
      ⟨firsts (xs.flatMap fun x => (f x).schema),
        xs.flatMap fun x => (f x).rows.map (·.widen (xs.flatMap fun x => (f x).schema))⟩ := by
  rw [union_eq (List.forall_mem_map.mpr h)]
  simp only [List.flatMap_map]

/-- Tables under one schema are put one after the other as they are. -/
theorem union_of_schema (h : ∀ u ∈ t :: tables, u.WellFormed ∧ u.schema = t.schema) :
    union (t :: tables) = ⟨t.schema, (t :: tables).flatMap Table.rows⟩ := by
  have ht := (h t List.mem_cons_self).1
  have hMem : ∀ v, v ∈ (t :: tables).flatMap schema ↔ v ∈ t.schema := fun v => by
    rw [List.mem_flatMap]
    constructor
    · rintro ⟨u, hu, hv⟩
      exact (h u hu).2 ▸ hv
    · exact fun hv => ⟨t, List.mem_cons_self, hv⟩
  rw [union_eq fun u hu => (h u hu).1]
  congr 1
  -- The first table has all columns, and the others bring in none.
  · exact firsts_append_of_subset ht.nodup_schema fun v hv =>
      (hMem v).mp (List.mem_append_right _ hv)
  · refine List.flatMap_congr fun u hu => map_eq_self fun r hr => Row.widen_eq_self fun v hv => ?_
    rw [(h u hu).1.mem_vars r hr, (h u hu).2]
    exact (hMem v).mp hv

/-! ## The tables that can arise -/

theorem wellFormed_union (tables : List Table) : (union tables).WellFormed := by
  unfold union
  suffices h : ∀ t : Table, t.WellFormed →
      (tables.foldl (fun t u => (t.addColumns u.schema).pushAll u.rows) t).WellFormed from
    h empty wellFormed_empty
  induction tables with
  | nil => exact fun t h => h
  | cons u tables ih => exact fun t h => ih _ ((h.addColumns u.schema).pushAll u.rows)

theorem wellFormed_join (t u : Table) : (t.join u).WellFormed := wellFormed_ofRows _ _

theorem wellFormed_leftJoin (t u : Table) : (t.leftJoin u).WellFormed := wellFormed_ofRows _ _

theorem WellFormed.combine (h : t.WellFormed) (u : Table) (c : Combination) :
    (t.combine u c).WellFormed := by
  cases c with
  | join => exact wellFormed_join t u
  | leftJoin => exact wellFormed_leftJoin t u
  | minus => exact h.minus u

theorem wellFormed_extend (t : Table) (b : Binding) : (t.extend b).WellFormed :=
  ((wellFormed_ofVariables t.schema).addColumn b.target).pushAll _

/-- The tables that arise from empty tables, the unit table, rows and inline values by appending
rows, by adding and dropping columns, by keeping some rows, and by the operations of the algebra. -/
inductive Built : Table → Prop
  | empty : Built .empty
  | unit : Built .unit
  | ofVariables (vs : List Variable) : Built (.ofVariables vs)
  | ofRows (vs : List Variable) (rows : List Row) : Built (.ofRows vs rows)
  | ofValues (vs : Values) : Built vs.toTable
  | push {t : Table} (r : Row) : Built t → Built (t.push r)
  | addColumn {t : Table} (v : Variable) : Built t → Built (t.addColumn v)
  | removeColumn {t : Table} (v : Variable) : Built t → Built (t.removeColumn v)
  | retain {t : Table} (keeps : Row → Bool) : Built t → Built (t.retain keeps)
  | join {t u : Table} : Built t → Built u → Built (t.join u)
  | leftJoin {t u : Table} : Built t → Built u → Built (t.leftJoin u)
  | minus {t u : Table} : Built t → Built u → Built (t.minus u)
  | union {tables : List Table} : (∀ t ∈ tables, Built t) → Built (.union tables)
  | combine {t u : Table} (c : Combination) : Built t → Built u → Built (t.combine u c)
  | extend {t : Table} (b : Binding) : Built t → Built (t.extend b)
  | project {t : Table} (vs : List Variable) : Built t → Built (t.project vs)
  | distinct {t : Table} : Built t → Built t.distinct
  | slice {t : Table} (offset : Nat) (limit : Option Nat) : Built t → Built (t.slice offset limit)
  | aggregate {t : Table} (a : Aggregate) : Built t → Built (t.aggregate a)

/-- No operation lets schema and rows fall out of step. Those that make a table anew pad its rows
whatever they are given; those that change a table in place rely on its being well-formed. -/
theorem wellFormed_of_built (h : Built t) : t.WellFormed := by
  induction h with
  | empty => exact wellFormed_empty
  | unit => exact wellFormed_unit
  | ofVariables vs => exact wellFormed_ofVariables vs
  | ofRows vs rows => exact wellFormed_ofRows vs rows
  | ofValues vs => exact wellFormed_ofRows vs.vars _
  | push r _ ih => exact ih.push r
  | addColumn v _ ih => exact ih.addColumn v
  | removeColumn v _ ih => exact ih.removeColumn v
  | retain keeps _ ih => exact ih.retain keeps
  | join _ _ _ _ => exact wellFormed_join _ _
  | leftJoin _ _ _ _ => exact wellFormed_leftJoin _ _
  | minus _ _ ih _ => exact ih.minus _
  | union _ _ => exact wellFormed_union _
  | combine c _ _ ih _ => exact ih.combine _ c
  | extend b _ _ => exact wellFormed_extend _ b
  | project vs _ _ => exact wellFormed_ofRows vs _
  | distinct _ ih => exact ih.distinct
  | slice offset limit _ _ => exact wellFormed_ofRows _ _
  | aggregate a _ _ => exact wellFormed_ofRows _ _

/-- A column was named twice and a row brings in another one; the table is joined with one whose row lacks
its column, and the result is projected to a repeated and an unknown variable. -/
theorem wellFormed_of_built_repeated :
    (((ofVariables [⟨"a"⟩, ⟨"a"⟩]).push (Row.empty.bind ⟨"b"⟩ (.simple "x"))).join
      (ofRows [⟨"c"⟩] [.empty]) |>.project [⟨"b"⟩, ⟨"c"⟩, ⟨"b"⟩, ⟨"d"⟩]).WellFormed :=
  wellFormed_of_built (.project _ (.join (.push _ (.ofVariables _)) (.ofRows _ _)))

end Table

end GraphQuery
