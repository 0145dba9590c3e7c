import GraphQuery.Proofs.Joining

/-! # Joins of unions

A union pads its rows with gaps, and a join fills gaps. Whether tables are joined first and padded
afterwards, or the other way round, a row ends with the same terms, and with gaps in the same columns.

* `Table.spread` — joins and left joins have one shape: each row is continued, and all rows are padded.
* `Table.Continues` — ways to continue rows that do not look at gaps.
* `Table.rows_spread_union` — the rows of a union are continued one table after the other.
* `Table.union_map_perm` — a union keeps its columns and rows when those of its tables are reordered.
* `Table.join_union_distrib` — joins and left joins distribute over unions.
-/

namespace GraphQuery

namespace Table

variable {a b t u : Table} {ts : List Table} {f : Row → List Row} {r : Row} {v : Variable}

/-! ## Rows that are continued -/

/-- The rows that a row makes in a left join: those that it makes with its partners, or else itself. -/
def partnersOrSelf (u : Table) (r : Row) : List Row :=
  match u.partners r with
  | [] => [r]
  | merged => merged

/-- The table in which each row is continued, with the columns of two tables. -/
def spread (t u : Table) (f : Row → List Row) : Table := ofRows (t.jointVariables u) (t.rows.flatMap f)

theorem join_eq_spread (t u : Table) : t.join u = t.spread u u.partners := rfl

theorem leftJoin_eq_spread (t u : Table) : t.leftJoin u = t.spread u u.partnersOrSelf := rfl

theorem wellFormed_spread (t u : Table) (f : Row → List Row) : (t.spread u f).WellFormed :=
  wellFormed_ofRows _ _

/-- Further gaps in a row stay gaps, and a row is given no columns but those of the table. -/
structure Continues (u : Table) (f : Row → List Row) : Prop where
  widen : ∀ r vs, f (r.widen vs) = (f r).map (·.widen vs)
  mem_vars : ∀ r, ∀ s ∈ f r, ∀ v ∈ s.vars, v ∈ r.vars ∨ v ∈ u.schema

theorem partners_widen (u : Table) (r : Row) (vs : List Variable) :
    u.partners (r.widen vs) = (u.partners r).map (·.widen vs) := by
  have hCompatible : (r.widen vs).isCompatible = r.isCompatible := funext fun s =>
    (Row.isCompatible_widen : (r.widen vs).isCompatible (s.widen []) = r.isCompatible s)
  have hMerge : (r.widen vs).merge = fun s => (r.merge s).widen vs := funext fun s => by
    show (r.widen vs).merge (s.widen []) = _
    exact Row.merge_widen fun v => by simp
  unfold partners
  rw [hCompatible, hMerge, List.map_map]
  rfl

theorem continues_partners (hu : u.WellFormed) : u.Continues u.partners where
  widen := u.partners_widen
  mem_vars r s hs v hv := by
    obtain ⟨q, hq, rfl⟩ := List.mem_map.mp hs
    exact (Row.mem_vars_merge.mp hv).imp_right (hu.mem_vars q (List.mem_of_mem_filter hq) v).mp

theorem continues_partnersOrSelf (hu : u.WellFormed) : u.Continues u.partnersOrSelf where
  widen r vs := by
    unfold partnersOrSelf
    rw [u.partners_widen]
    cases u.partners r <;> rfl
  mem_vars r s hs v hv := by
    unfold partnersOrSelf at hs
    cases h : u.partners r with
    | nil =>
      rw [h] at hs
      exact .inl (List.mem_singleton.mp hs ▸ hv)
    | cons q rest =>
      rw [h] at hs
      exact (continues_partners hu).mem_vars r s (h ▸ hs) v hv

theorem spread_eq (ht : t.WellFormed) (hu : u.WellFormed) (hf : u.Continues f) :
    t.spread u f =
      ⟨t.jointVariables u, (t.rows.flatMap f).map (·.widen (t.jointVariables u))⟩ := by
  unfold spread
  rw [ofRows_of_subset, firsts_eq_self (nodup_jointVariables ht.nodup_schema hu.nodup_schema)]
  intro s hs v hv
  obtain ⟨r, hr, hs⟩ := List.mem_flatMap.mp hs
  exact mem_jointVariables.mpr ((hf.mem_vars r s hs v hv).imp_left (ht.mem_vars r hr v).mp)

/-! ## Unions that are continued -/

theorem mem_schema_union_iff (h : ∀ t ∈ ts, t.WellFormed) :
    v ∈ (union ts).schema ↔ ∃ t ∈ ts, v ∈ t.schema := by
  rw [union_eq h, mem_firsts, List.mem_flatMap]

/-- Of tables of which there is at least one, it makes no difference whether each of them is given
the columns of another table, or all of them together. -/
theorem mem_jointVariables_union (hts : ts ≠ []) (h : ∀ t ∈ ts, t.WellFormed) :
    v ∈ (union ts).jointVariables u ↔ ∃ t ∈ ts, v ∈ t.jointVariables u := by
  obtain ⟨t₀, ht₀⟩ := List.exists_mem_of_ne_nil ts hts
  simp only [mem_jointVariables, mem_schema_union_iff h]
  constructor
  · rintro (⟨t, ht, hv⟩ | hv)
    · exact ⟨t, ht, .inl hv⟩
    · exact ⟨t₀, ht₀, .inr hv⟩
  · rintro ⟨t, ht, hv | hv⟩
    · exact .inl ⟨t, ht, hv⟩
    · exact .inr hv

section Spread

variable (hts : ts ≠ []) (h : ∀ t ∈ ts, t.WellFormed) (hu : u.WellFormed) (hf : u.Continues f)

include hts h hu hf

theorem schema_spread_union :
    ((union ts).spread u f).schema.Perm (union (ts.map (·.spread u f))).schema := by
  have hSpread : ∀ s ∈ ts.map (·.spread u f), s.WellFormed :=
    List.forall_mem_map.mpr fun t _ => wellFormed_spread t u f
  refine (wellFormed_spread _ u f).schema_perm (wellFormed_union _) fun v => ?_
  rw [mem_schema_union_iff hSpread, spread_eq (wellFormed_union ts) hu hf,
    mem_jointVariables_union hts h]
  simp only [List.mem_map, exists_exists_and_eq_and]
  exact exists_congr fun t => and_congr_right fun ht => by rw [spread_eq (h t ht) hu hf]

/-- A row of the union is padded and then continued, a row of one of the tables continued and then
padded. -/
theorem rows_spread_union :
    ((union ts).spread u f).rows = (union (ts.map (·.spread u f))).rows := by
  have hSchema : (ts.flatMap fun t => (t.spread u f).schema) = ts.flatMap (·.jointVariables u) :=
    List.flatMap_congr fun t ht => by rw [spread_eq (h t ht) hu hf]
  rw [union_map_eq fun t _ => wellFormed_spread t u f, hSchema, spread_eq (wellFormed_union ts) hu hf]
  have hJoint : ∀ v, v ∈ (union ts).jointVariables u ↔ v ∈ ts.flatMap (·.jointVariables u) :=
    fun v => by rw [mem_jointVariables_union hts h, List.mem_flatMap]
  -- Whatever columns a row has been given by now, in the end it has those of all tables.
  have hFirst : ∀ s : Row, (s.widen (ts.flatMap schema)).widen ((union ts).jointVariables u) =
      s.widen (ts.flatMap (·.jointVariables u)) := fun s => by
    rw [Row.widen_congr hJoint]
    refine Row.widen_widen fun v hv => (hJoint v).mp (mem_jointVariables.mpr (.inl ?_))
    rwa [mem_schema_union_iff h, ← List.mem_flatMap]
  have hSecond : ∀ t ∈ ts, ∀ s : Row,
      (s.widen (t.jointVariables u)).widen (ts.flatMap (·.jointVariables u)) =
        s.widen (ts.flatMap (·.jointVariables u)) := fun t ht s =>
    Row.widen_widen fun v hv => List.mem_flatMap.mpr ⟨t, ht, hv⟩
  have hRows : (union ts).rows = ts.flatMap fun t => t.rows.map (·.widen (ts.flatMap schema)) := by
    rw [union_eq h]
  rw [hRows, List.flatMap_assoc, List.map_flatMap]
  refine List.flatMap_congr fun t ht => ?_
  rw [spread_eq (h t ht) hu hf, List.flatMap_map]
  simp only [hf.widen, List.map_map, List.map_flatMap, Function.comp_def, hFirst, hSecond t ht]

end Spread

/-! ## Unions up to order -/

/-- When the tables of a union change the order of their columns and rows, so does the union. -/
theorem union_map_perm {α : Type} (xs : List α) (f g : α → Table)
    (hf : ∀ x ∈ xs, (f x).WellFormed) (hg : ∀ x ∈ xs, (g x).WellFormed)
    (hSchema : ∀ x ∈ xs, (f x).schema.Perm (g x).schema)
    (hRows : ∀ x ∈ xs, (f x).rows.Perm (g x).rows) :
    (union (xs.map f)).schema.Perm (union (xs.map g)).schema ∧
      (union (xs.map f)).rows.Perm (union (xs.map g)).rows := by
  have hMem : ∀ v, v ∈ (xs.flatMap fun x => (f x).schema) ↔ v ∈ xs.flatMap fun x => (g x).schema :=
    fun v => (List.Perm.flatMap_left xs hSchema).mem_iff
  refine ⟨(wellFormed_union _).schema_perm (wellFormed_union _) fun v => ?_, ?_⟩
  · rw [union_map_eq hf, union_map_eq hg, mem_firsts, mem_firsts, hMem]
  · rw [union_map_eq hf, union_map_eq hg]
    simp only [fun r : Row => Row.widen_congr (r := r) hMem]
    exact List.Perm.flatMap_left xs fun x hx => (hRows x hx).map _

/-- Joins and left joins with one table distribute over unions in front, where the rows even keep
their order, and joins also over unions behind. Columns are the same ones, in some order. -/
theorem join_union_distrib (ha : a.WellFormed) (hb : b.WellFormed) (hu : u.WellFormed) :
    (((union [a, b]).join u).schema.Perm (union [a.join u, b.join u]).schema ∧
        ((union [a, b]).join u).rows = (union [a.join u, b.join u]).rows) ∧
      (((union [a, b]).leftJoin u).schema.Perm (union [a.leftJoin u, b.leftJoin u]).schema ∧
        ((union [a, b]).leftJoin u).rows = (union [a.leftJoin u, b.leftJoin u]).rows) ∧
      (u.join (union [a, b])).schema.Perm (union [u.join a, u.join b]).schema ∧
        (u.join (union [a, b])).rows.Perm (union [u.join a, u.join b]).rows := by
  have hNonempty : [a, b] ≠ [] := List.cons_ne_nil a [b]
  have h : ∀ t ∈ [a, b], t.WellFormed :=
    List.forall_mem_cons.mpr ⟨ha, List.forall_mem_singleton.mpr hb⟩
  have hJoin := continues_partners hu
  have hLeftJoin := continues_partnersOrSelf hu
  have hSchema : ((union [a, b]).join u).schema.Perm (union [a.join u, b.join u]).schema := by
    simp only [join_eq_spread]
    exact schema_spread_union hNonempty h hu hJoin
  have hRows : ((union [a, b]).join u).rows = (union [a.join u, b.join u]).rows := by
    simp only [join_eq_spread]
    exact rows_spread_union hNonempty h hu hJoin
  -- Behind, all joins change sides twice: to apply the law for unions in front, and back again.
  have hBack := union_map_perm [a, b] (·.join u) u.join
    (fun t _ => wellFormed_join t u) (fun t _ => wellFormed_join u t)
    (fun t ht => schema_join_perm (h t ht) hu) fun t ht => rows_join_perm (h t ht) hu
  refine ⟨⟨hSchema, hRows⟩, ?_, ?_, ?_⟩
  · simp only [leftJoin_eq_spread]
    exact ⟨schema_spread_union hNonempty h hu hLeftJoin, rows_spread_union hNonempty h hu hLeftJoin⟩
  · exact (schema_join_perm hu (wellFormed_union _)).trans (hSchema.trans hBack.1)
  · exact (rows_join_perm hu (wellFormed_union _)).trans ((List.Perm.of_eq hRows).trans hBack.2)

/-- A column that the first table of the union lacks: the union fills it with a gap, which the join
fills with a term, whereas the table by itself has no column there to begin with. -/
theorem join_union_distrib_gap :
    let x : Variable := ⟨"x"⟩
    let y : Variable := ⟨"y"⟩
    let a : Table := ofRows [x] [.ofList [(x, some (.simple "1"))]]
    let b : Table := ofRows [y, x] [.ofList [(x, none), (y, some (.simple "2"))]]
    let u : Table := ofRows [y] [.ofList [(y, some (.simple "3"))], .ofList [(y, none)]]
    (a.WellFormed ∧ b.WellFormed ∧ u.WellFormed) ∧
      (((union [a, b]).join u).schema.Perm (union [a.join u, b.join u]).schema ∧
        ((union [a, b]).join u).rows = (union [a.join u, b.join u]).rows) ∧
      (((union [a, b]).leftJoin u).schema.Perm (union [a.leftJoin u, b.leftJoin u]).schema ∧
        ((union [a, b]).leftJoin u).rows = (union [a.leftJoin u, b.leftJoin u]).rows) ∧
      (u.join (union [a, b])).schema.Perm (union [u.join a, u.join b]).schema ∧
        (u.join (union [a, b])).rows.Perm (union [u.join a, u.join b]).rows := by
  intro x y a b u
  have ha : a.WellFormed := wellFormed_ofRows _ _
  have hb : b.WellFormed := wellFormed_ofRows _ _
  have hu : u.WellFormed := wellFormed_ofRows _ _
  exact ⟨⟨ha, hb, hu⟩, join_union_distrib ha hb hu⟩

end Table

end GraphQuery
