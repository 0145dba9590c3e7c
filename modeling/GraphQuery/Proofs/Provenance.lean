import GraphQuery.Proofs.Columns

/-! # Where the terms of a table come from

The operations on rows and tables make no terms of their own: bindings and counts apart, every term of
a result was in one of the rows that went in. So what holds of the terms at the start holds of them at
the end.

* `Row.Forall`, `Table.Forall` — all terms of a row or a table have a property.
* `Table.Forall.combine`, `Table.forall_union`, `Table.Forall.extend` — the operations of blocks and
  bindings keep it.
* `Table.Forall.project`, `Table.Forall.aggregate` — so do projections and summaries.
* `Quad.terms`, `Pattern.forall_solutionsIn` — matching binds variables to the terms of quads.
* `Path.forall_walksIn`, `Values.forall_toTable` — the other operands.
-/

namespace GraphQuery

variable {P : Term → Prop}

/-! ## Rows -/

/-- All terms of the row have the property. -/
def Row.Forall (P : Term → Prop) (r : Row) : Prop := ∀ v t, r.term? v = some t → P t

namespace Row

variable {r s : Row} {v : Variable} {x : Option Term} {vs : List Variable}

theorem forall_empty : empty.Forall P := fun _ _ h => nomatch h

theorem Forall.set (h : r.Forall P) (hx : ∀ t, x = some t → P t) : (r.set v x).Forall P := by
  intro w t ht
  rw [term?_set] at ht
  split at ht
  · exact hx t ht
  · exact h w t ht

theorem Forall.ensure (h : r.Forall P) (v : Variable) : (r.ensure v).Forall P := fun w t ht =>
  h w t (term?_ensure ▸ ht)

theorem Forall.widen (h : r.Forall P) : (r.widen vs).Forall P := fun w t ht =>
  h w t (term?_widen ▸ ht)

theorem Forall.without (h : r.Forall P) : (r.without vs).Forall P := by
  intro w t ht
  rw [term?_without] at ht
  split at ht
  · cases ht
  · exact h w t ht

theorem Forall.merge (hr : r.Forall P) (hs : s.Forall P) : (r.merge s).Forall P := by
  intro v t ht
  rw [term?_merge, Option.or_eq_some_iff] at ht
  rcases ht with ht | ⟨_, ht⟩
  · exact hr v t ht
  · exact hs v t ht

theorem forall_ofList {columns : List (Variable × Option Term)}
    (h : ∀ c ∈ columns, ∀ t, c.2 = some t → P t) : (ofList columns).Forall P :=
  List.foldlRecOn columns _ forall_empty fun _ hr c hc => hr.set (h c hc)

end Row

/-! ## Tables -/

/-- All terms of the table have the property. -/
def Table.Forall (P : Term → Prop) (t : Table) : Prop := ∀ r ∈ t.rows, r.Forall P

namespace Table

variable {t u : Table} {vs : List Variable} {rows : List Row}

theorem forall_empty : empty.Forall P := fun _ h => nomatch h

theorem forall_unit : unit.Forall P := List.forall_mem_singleton.mpr Row.forall_empty

theorem Forall.addColumn (h : t.Forall P) (v : Variable) : (t.addColumn v).Forall P := by
  unfold Table.addColumn
  split
  · exact h
  · intro s hs
    obtain ⟨r, hr, rfl⟩ := List.mem_map.mp hs
    exact (h r hr).ensure v

theorem Forall.addColumns (h : t.Forall P) : (t.addColumns vs).Forall P :=
  List.foldlRecOn vs _ h fun _ ht v _ => ht.addColumn v

theorem Forall.pushAll (h : t.Forall P) (hRows : ∀ r ∈ rows, r.Forall P) :
    (t.pushAll rows).Forall P := by
  refine List.foldlRecOn rows _ h fun t ht r hr => ?_
  intro s hs
  rcases List.mem_append.mp hs with hs | hs
  · exact ht.addColumns s hs
  · rw [List.mem_singleton.mp hs]
    exact Row.Forall.widen (hRows r hr)

theorem forall_ofRows (h : ∀ r ∈ rows, r.Forall P) : (ofRows vs rows).Forall P :=
  (forall_empty.addColumns).pushAll h

theorem Forall.retain (h : t.Forall P) (keeps : Row → Bool) : (t.retain keeps).Forall P :=
  fun r hr => h r (List.mem_of_mem_filter hr)

theorem Forall.removeColumns (h : t.Forall P) : (t.removeColumns vs).Forall P := by
  rw [removeColumns_eq]
  intro s hs
  obtain ⟨r, hr, rfl⟩ := List.mem_map.mp hs
  exact (h r hr).without

/-! ### Two tables -/

theorem Forall.partners (hu : u.Forall P) {r s : Row} (hr : r.Forall P) (hs : s ∈ u.partners r) :
    s.Forall P := by
  obtain ⟨q, hq, rfl⟩ := List.mem_map.mp hs
  exact hr.merge (hu q (List.mem_of_mem_filter hq))

theorem Forall.join (ht : t.Forall P) (hu : u.Forall P) : (t.join u).Forall P := by
  refine forall_ofRows fun s hs => ?_
  obtain ⟨r, hr, hs⟩ := List.mem_flatMap.mp hs
  exact hu.partners (ht r hr) hs

theorem Forall.leftJoin (ht : t.Forall P) (hu : u.Forall P) : (t.leftJoin u).Forall P := by
  refine forall_ofRows fun s hs => ?_
  obtain ⟨r, hr, hs⟩ := List.mem_flatMap.mp hs
  split at hs
  · exact List.mem_singleton.mp hs ▸ ht r hr
  · exact hu.partners (ht r hr) hs

theorem Forall.minus (ht : t.Forall P) (u : Table) : (t.minus u).Forall P := by
  unfold Table.minus
  dsimp only
  split
  · exact ht
  · exact ht.retain _

theorem Forall.combine (ht : t.Forall P) (hu : u.Forall P) (c : Combination) :
    (t.combine u c).Forall P := by
  cases c with
  | join => exact ht.join hu
  | leftJoin => exact ht.leftJoin hu
  | minus => exact ht.minus u

theorem forall_union {tables : List Table} (h : ∀ t ∈ tables, t.Forall P) : (union tables).Forall P :=
  List.foldlRecOn tables _ forall_empty fun _ ht u hu => ht.addColumns.pushAll (h u hu)

/-! ### One table -/

/-- A binding brings in what its expression yields, and nothing else does. -/
theorem Forall.extend (h : t.Forall P) {b : Binding}
    (hValue : ∀ r ∈ t.rows, ∀ u, b.expression.evaluate? r = some u → P u) : (t.extend b).Forall P := by
  refine (forall_empty.addColumns.addColumn b.target).pushAll fun s hs => ?_
  obtain ⟨r, hr, rfl⟩ := List.mem_map.mp hs
  exact (h r hr).set (hValue r hr)

theorem Forall.project (h : t.Forall P) (vs : List Variable) : (t.project vs).Forall P := by
  refine forall_ofRows fun s hs => ?_
  obtain ⟨r, hr, rfl⟩ := List.mem_map.mp hs
  refine Row.forall_ofList fun c hc => ?_
  obtain ⟨v, _, rfl⟩ := List.mem_map.mp hc
  exact h r hr v

end Table

namespace Aggregate

variable {a : Aggregate} {rows : List Row} {t : Term}

theorem mem_select {α : Type} [DecidableEq α] {xs : List α} {x : α} : x ∈ a.select xs ↔ x ∈ xs := by
  unfold select
  split
  · exact mem_firsts
  · exact Iff.rfl

/-- Whatever terms are passed over, the extremum is one of them. -/
theorem mem_of_extremum? {wanted : Ordering} {ts : List Term} (h : extremum? wanted ts = some t) :
    t ∈ ts := by
  cases ts with
  | nil => cases h
  | cons first rest =>
    cases h
    refine List.foldlRecOn (motive := (· ∈ first :: rest)) rest _ List.mem_cons_self
      fun best hBest t ht => ?_
    split
    · exact List.mem_cons_of_mem first ht
    · exact hBest

theorem forall_summarize? (hCount : ∀ n, P (.ofCount n)) (h : ∀ r ∈ rows, r.Forall P)
    (ht : a.summarize? rows = some t) : P t := by
  unfold summarize? at ht
  cases hArgument : a.argument with
  | none =>
    rw [hArgument] at ht
    cases ht
    exact hCount _
  | some v =>
    rw [hArgument] at ht
    have hTerms : ∀ t ∈ a.select (rows.filterMap (·.term? v)), P t := fun t ht => by
      obtain ⟨r, hr, ht⟩ := List.mem_filterMap.mp (mem_select.mp ht)
      exact h r hr v t ht
    cases hSummary : a.summary with
    | count =>
      rw [hSummary] at ht
      cases ht
      exact hCount _
    | min =>
      rw [hSummary] at ht
      exact hTerms t (mem_of_extremum? ht)
    | max =>
      rw [hSummary] at ht
      exact hTerms t (mem_of_extremum? ht)
    | sample =>
      rw [hSummary] at ht
      exact hTerms t (List.mem_of_mem_head? ht)

end Aggregate

/-- Of a summary only counts are new, so the property has to hold of them. -/
theorem Table.Forall.aggregate {t : Table} (h : t.Forall P) (hCount : ∀ n, P (.ofCount n))
    (a : Aggregate) : (t.aggregate a).Forall P := by
  have hPartition : ∀ p ∈ a.partitions t,
      (∀ u, p.1 = some u → P u) ∧ ∀ r ∈ p.2, r.Forall P := by
    intro p hp
    unfold Aggregate.partitions at hp
    split at hp
    · rw [List.mem_singleton.mp hp]
      exact ⟨fun u hu => (nomatch hu), h⟩
    · rename_i v _
      obtain ⟨key, hKey, rfl⟩ := List.mem_map.mp hp
      obtain ⟨r, hr, rfl⟩ := List.mem_map.mp (mem_firsts.mp hKey)
      exact ⟨h r hr v, fun s hs => h s (List.mem_of_mem_filter hs)⟩
  refine Table.forall_ofRows fun s hs => ?_
  obtain ⟨p, hp, rfl⟩ := List.mem_map.mp (List.mem_of_mem_filter hs)
  obtain ⟨hKey, hRows⟩ := hPartition p hp
  refine Row.Forall.set ?_ fun u hu => Aggregate.forall_summarize? hCount hRows hu
  cases a.groupBy with
  | none => exact Row.forall_empty
  | some v => exact Row.forall_empty.set hKey

/-! ## Blocks and operands -/

namespace Block

variable {α : Type} {f : α → Table} {t : Table}

theorem forall_tableOf {b : Block α} (hf : ∀ x ∈ b.items, (f x).Forall P) (ht : t.Forall P) :
    (tableOf f t b).Forall P := by
  refine ht.combine (Table.forall_union fun u hu => ?_) b.combination
  obtain ⟨x, hx, rfl⟩ := List.mem_map.mp hu
  exact hf x hx

theorem forall_tableOfAll {blocks : List (Block α)} (hf : ∀ b ∈ blocks, ∀ x ∈ b.items, (f x).Forall P) :
    (tableOfAll f blocks).Forall P :=
  List.foldlRecOn blocks _ Table.forall_unit fun _ ht b hb => forall_tableOf (hf b hb) ht

end Block

/-- The terms in the places of a quad. -/
def Quad.terms (q : Quad) : List Term :=
  (q.graph.map Term.iri).toList ++ [q.subject, .iri q.predicate, q.object]

namespace Pattern

variable {p : Pattern} {quads : List Quad}

theorem mem_terms_of_places? {q : Quad} {places : List (Slot × Term)} (h : p.places? q = some places) :
    ∀ x ∈ places, x.2 ∈ q.terms := by
  have hTriple : ∀ x ∈ p.triplePlaces q, x.2 ∈ q.terms := by
    simp [triplePlaces, Quad.terms]
  rcases places?_eq_some_iff.mp h with ⟨_, _, rfl⟩ | ⟨_, graph, _, hGraph, rfl⟩
  · exact hTriple
  · refine List.forall_mem_cons.mpr ⟨?_, hTriple⟩
    simp [Quad.terms, hGraph]

/-- Variables are bound to terms of quads. The terms of the pattern are only compared with them. -/
theorem forall_solutionsIn (h : ∀ q ∈ quads, ∀ t ∈ q.terms, P t) (p : Pattern) :
    (p.solutionsIn quads).Forall P := by
  rw [solutionsIn_eq]
  intro r hr v t ht
  obtain ⟨q, hq, hr⟩ := List.mem_filterMap.mp hr
  obtain ⟨places, hPlaces, hSolves⟩ := solution?_eq_some_iff.mp hr
  obtain ⟨u, hu, hTerm⟩ := hSolves.exists_term? (Row.mem_vars_of_term? ht)
  rw [hTerm, Option.some.injEq] at ht
  exact ht ▸ h q hq u (mem_terms_of_places? hPlaces _ hu)

end Pattern

theorem Path.forall_walksIn {quads : List Quad} (h : ∀ q ∈ quads, ∀ t ∈ q.terms, P t)
    (fingerprint : String) (p : Path) : (p.walksIn quads fingerprint).Forall P := by
  unfold walksIn
  split
  · exact Table.forall_empty
  · refine Table.Forall.removeColumns ?_
    exact Block.forall_tableOfAll fun b _ q _ => q.forall_solutionsIn h

namespace Values

/-- The terms of the columns. -/
def terms (vs : Values) : List Term := vs.columns.flatMap fun c => c.2.filterMap id

theorem forall_toTable {vs : Values} (h : ∀ t ∈ vs.terms, P t) : vs.toTable.Forall P := by
  refine Table.forall_ofRows fun r hr => ?_
  obtain ⟨tuple, hTuple, rfl⟩ := List.mem_map.mp hr
  obtain ⟨n, _, rfl⟩ := List.mem_map.mp hTuple
  refine Row.forall_ofList fun c hc t ht => ?_
  obtain ⟨column, hColumn, rfl⟩ := List.mem_map.mp hc
  have hMem : some t ∈ column.2 := List.mem_of_getElem? (Option.join_eq_some_iff.mp ht)
  exact h t (List.mem_flatMap.mpr ⟨column, hColumn, List.mem_filterMap.mpr ⟨some t, hMem, rfl⟩⟩)

end Values

end GraphQuery
