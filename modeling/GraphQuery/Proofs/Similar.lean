import GraphQuery.Proofs.Local

/-! # Tables up to the order of rows

Tables are similar when they have the same columns in the same order, and the same rows, each of
them as often. No operation that evaluation uses can tell similar tables apart, except by the order
of the rows that it makes.

* `Table.Similar` — equal columns, and rows that are permutations of each other.
* `Table.Similar.combine`, `Table.similar_union`, `Table.Similar.extend` — the operations of blocks
  and bindings keep tables similar.
* `Filter.keeps_congr` — filters decide alike when their sub-patterns have similar tables.
* `Group.similar_tableIn`, `Block.similar_tableOfAll` — so do groups and sequences of groups.
-/

namespace GraphQuery

namespace Table

/-- The columns are the same in the same order, and each row occurs as often. -/
structure Similar (t u : Table) : Prop where
  schema_eq : t.schema = u.schema
  perm : t.rows.Perm u.rows

variable {t t' u u' : Table}

namespace Similar

theorem refl (t : Table) : t.Similar t := ⟨rfl, .refl _⟩

theorem wellFormed (h : t.Similar u) (ht : t.WellFormed) : u.WellFormed :=
  ht.of_subset h.schema_eq.symm h.perm.symm.subset

theorem partners (k : u.Similar u') (r : Row) : (u.partners r).Perm (u'.partners r) :=
  (k.perm.filter _).map _

theorem join (ht : t.WellFormed) (hu : u.WellFormed) (h : t.Similar t') (k : u.Similar u') :
    (t.join u).Similar (t'.join u') := by
  rw [join_eq ht hu, join_eq (h.wellFormed ht) (k.wellFormed hu)]
  exact ⟨jointVariables_congr h.schema_eq k.schema_eq, h.perm.flatMap fun r _ => k.partners r⟩

/-- A row without partner has none in the similar table either. -/
theorem leftJoin (ht : t.WellFormed) (hu : u.WellFormed) (h : t.Similar t') (k : u.Similar u') :
    (t.leftJoin u).Similar (t'.leftJoin u') := by
  rw [leftJoin_eq ht hu, leftJoin_eq (h.wellFormed ht) (k.wellFormed hu),
    jointVariables_congr h.schema_eq k.schema_eq]
  refine ⟨rfl, h.perm.flatMap fun r _ => ?_⟩
  have hPartners := k.partners r
  -- The operation asks whether there are partners at all, so the two lists are compared by cases.
  cases hr : u.partners r with
  | nil =>
    rw [hr] at hPartners
    rw [hPartners.symm.eq_nil]
  | cons q rest =>
    rw [hr] at hPartners
    cases hr' : u'.partners r with
    | nil =>
      rw [hr'] at hPartners
      cases hPartners.eq_nil
    | cons q' rest' =>
      rw [hr'] at hPartners
      exact hPartners

theorem retain (h : t.Similar u) {keeps keeps' : Row → Bool} (hKeeps : ∀ r, keeps r = keeps' r) :
    (t.retain keeps).Similar (u.retain keeps') := by
  rw [funext hKeeps]
  exact ⟨h.schema_eq, h.perm.filter _⟩

theorem any_rows (h : t.Similar u) (p : Row → Bool) : t.rows.any p = u.rows.any p := by
  rw [Bool.eq_iff_iff, List.any_eq_true, List.any_eq_true]
  simp only [h.perm.mem_iff]

theorem minus (h : t.Similar t') (k : u.Similar u') : (t.minus u).Similar (t'.minus u') := by
  have hShared : t.schema.filter u.hasColumn = t'.schema.filter u'.hasColumn := by
    unfold hasColumn
    rw [h.schema_eq, k.schema_eq]
  unfold Table.minus
  rw [hShared]
  dsimp only
  split
  · exact h
  · exact h.retain fun r => congrArg not (k.any_rows _)

theorem combine (ht : t.WellFormed) (hu : u.WellFormed) (h : t.Similar t') (k : u.Similar u')
    (c : Combination) : (t.combine u c).Similar (t'.combine u' c) := by
  cases c with
  | join => exact h.join ht hu k
  | leftJoin => exact h.leftJoin ht hu k
  | minus => exact h.minus k

theorem removeColumn (h : t.Similar u) (v : Variable) : (t.removeColumn v).Similar (u.removeColumn v) :=
  ⟨congrArg (List.filter _) h.schema_eq, h.perm.map _⟩

theorem removeColumns (h : t.Similar u) (vs : List Variable) :
    (t.removeColumns vs).Similar (u.removeColumns vs) := by
  induction vs generalizing t u with
  | nil => exact h
  | cons v vs ih => exact ih (h.removeColumn v)

theorem hasPartner (h : t.Similar u) (r : Row) : t.hasPartner r = u.hasPartner r := by
  unfold Table.hasPartner
  rw [h.schema_eq]
  exact h.any_rows _

end Similar

/-- The rows after a binding: in a well-formed table no column but the new one has to be added. -/
theorem extend_eq (ht : t.WellFormed) (b : Binding) :
    t.extend b =
      ⟨addNew t.schema b.target, t.rows.map fun r => r.set b.target (b.expression.evaluate? r)⟩ := by
  have hSchema : ((ofVariables t.schema).addColumn b.target).schema = addNew t.schema b.target := by
    rw [schema_addColumn, schema_ofVariables, firsts_eq_self ht.nodup_schema]
  have hVars : ∀ r ∈ t.rows, ∀ v,
      v ∈ (r.set b.target (b.expression.evaluate? r)).vars ↔ v ∈ addNew t.schema b.target :=
    fun r hr v => by rw [Row.mem_vars_set, ht.mem_vars r hr, mem_addNew, or_comm]
  have hEmpty : ((ofVariables t.schema).addColumn b.target).rows = [] := by
    rw [(wellFormed_ofVariables t.schema).rows_addColumn, rows_ofVariables, List.map_nil]
  unfold extend
  rw [pushAll_of_subset, hSchema, hEmpty, List.nil_append, List.map_map]
  · congr 1
    exact List.map_congr_left fun r hr => Row.widen_eq_self fun v => (hVars r hr v).mpr
  · intro s hs v hv
    obtain ⟨r, hr, rfl⟩ := List.mem_map.mp hs
    exact hSchema ▸ (hVars r hr v).mp hv

theorem Similar.extend (ht : t.WellFormed) (h : t.Similar u) (b : Binding) :
    (t.extend b).Similar (u.extend b) := by
  rw [extend_eq ht, extend_eq (h.wellFormed ht), h.schema_eq]
  exact ⟨rfl, h.perm.map _⟩

/-- The tables of a union may be replaced by similar ones, each at its place. -/
theorem similar_union {α : Type} {xs : List α} {f g : α → Table} (hf : ∀ x ∈ xs, (f x).WellFormed)
    (h : ∀ x ∈ xs, (f x).Similar (g x)) : (union (xs.map f)).Similar (union (xs.map g)) := by
  have hSchema : (xs.flatMap fun x => (f x).schema) = xs.flatMap fun x => (g x).schema :=
    List.flatMap_congr fun x hx => (h x hx).schema_eq
  rw [union_map_eq hf, union_map_eq fun x hx => (h x hx).wellFormed (hf x hx), hSchema]
  refine ⟨rfl, ?_⟩
  exact List.Perm.flatMap_left xs fun x hx => (h x hx).perm.map _

end Table

/-! ## Blocks -/

namespace Block

variable {α : Type} {f g : α → Table} {t u : Table}

theorem wellFormed_tableOf (ht : t.WellFormed) (b : Block α) : (tableOf f t b).WellFormed :=
  ht.combine _ b.combination

theorem wellFormed_tableOfAll (blocks : List (Block α)) : (tableOfAll f blocks).WellFormed := by
  unfold tableOfAll
  refine List.foldlRecOn blocks _ Table.wellFormed_unit fun t ht b _ => ?_
  exact wellFormed_tableOf ht b

theorem similar_tableOf (hf : ∀ x, (f x).WellFormed) (h : ∀ x, (f x).Similar (g x))
    (ht : t.WellFormed) (hSimilar : t.Similar u) (b : Block α) :
    (tableOf f t b).Similar (tableOf g u b) :=
  hSimilar.combine ht (Table.wellFormed_union _)
    (Table.similar_union (fun x _ => hf x) fun x _ => h x) b.combination

/-- The induction is on the blocks; what is carried along is that the running tables are similar and
well-formed. -/
theorem similar_foldl_tableOf (hf : ∀ x, (f x).WellFormed) (h : ∀ x, (f x).Similar (g x))
    (blocks : List (Block α)) (ht : t.WellFormed) (hSimilar : t.Similar u) :
    (blocks.foldl (tableOf f) t).Similar (blocks.foldl (tableOf g) u) := by
  induction blocks generalizing t u with
  | nil => exact hSimilar
  | cons b blocks ih => exact ih (wellFormed_tableOf ht b) (similar_tableOf hf h ht hSimilar b)

theorem similar_tableOfAll (hf : ∀ x, (f x).WellFormed) (h : ∀ x, (f x).Similar (g x))
    (blocks : List (Block α)) : (tableOfAll f blocks).Similar (tableOfAll g blocks) :=
  similar_foldl_tableOf hf h blocks Table.wellFormed_unit (.refl _)

end Block

/-! ## Operands -/

section Quads

variable {quads others : List Quad}

theorem Pattern.similar_solutionsIn (h : quads.Perm others) (p : Pattern) :
    (p.solutionsIn quads).Similar (p.solutionsIn others) := by
  rw [solutionsIn_eq, solutionsIn_eq]
  exact ⟨rfl, h.filterMap _⟩

theorem Path.wellFormed_walksIn (quads : List Quad) (fingerprint : String) (p : Path) :
    (p.walksIn quads fingerprint).WellFormed := by
  unfold walksIn
  split
  · exact Table.wellFormed_empty
  · exact (Block.wellFormed_tableOfAll _).removeColumns _

theorem Path.similar_walksIn (h : quads.Perm others) (fingerprint : String) (p : Path) :
    (p.walksIn quads fingerprint).Similar (p.walksIn others fingerprint) := by
  unfold walksIn
  split
  · exact .refl _
  · refine Table.Similar.removeColumns ?_ _
    exact Block.similar_tableOfAll (Pattern.wellFormed_solutionsIn quads)
      (Pattern.similar_solutionsIn h) _

namespace Operand

theorem wellFormed_tableIn (quads : List Quad) (o : Operand) : (o.tableIn quads).WellFormed := by
  cases o with
  | pattern p => exact p.wellFormed_solutionsIn quads
  | path p => exact p.wellFormed_walksIn quads p.fingerprint
  | values vs => exact Table.wellFormed_ofRows vs.vars _

theorem similar_tableIn (h : quads.Perm others) (o : Operand) :
    (o.tableIn quads).Similar (o.tableIn others) := by
  cases o with
  | pattern p => exact p.similar_solutionsIn h
  | path p => exact p.similar_walksIn h p.fingerprint
  | values vs => exact .refl _

end Operand

/-! ## Filters -/

theorem SubPatternResults.table?_insert (results : SubPatternResults) (p q : Pattern) (t : Table) :
    (results.insert p t).table? q = if q = p then some t else results.table? q := by
  unfold table? insert
  dsimp only
  rw [Row.lookup_cons]
  split
  · rfl
  · rename_i h
    induction results.entries with
    | nil => rfl
    | cons entry rest ih =>
      by_cases hp : entry.1 = p
      · have hne : q ≠ entry.1 := fun e => h (e.trans hp)
        rw [List.filter_cons_of_neg (by simpa using hp), ih, Row.lookup_cons, if_neg hne]
      · rw [List.filter_cons_of_pos (by simpa using hp), Row.lookup_cons, Row.lookup_cons, ih]

/-- Exactly the sub-patterns of the filters are matched, each against all quads. -/
theorem Group.table?_subPatternsIn (quads : List Quad) (filters : List Filter) (q : Pattern) :
    (subPatternsIn quads filters).table? q =
      if q ∈ filters.flatMap Filter.subPatterns then some (q.solutionsIn quads) else none := by
  -- Later entries replace earlier ones, but with the same table.
  have hFold : ∀ (ps : List Pattern) (results : SubPatternResults),
      (ps.foldl (fun results p => results.insert p (p.solutionsIn quads)) results).table? q =
        if q ∈ ps then some (q.solutionsIn quads) else results.table? q := by
    intro ps
    induction ps with
    | nil => exact fun results => rfl
    | cons p ps ih =>
      intro results
      rw [List.foldl_cons, ih, SubPatternResults.table?_insert]
      by_cases hq : q ∈ ps <;> by_cases hp : q = p <;> simp [hq, hp]
  unfold subPatternsIn
  rw [hFold]
  simp only [mem_firsts]
  rfl

/-- A filter sees of the tables only whether a row has a partner in those of its own sub-patterns. -/
theorem Filter.keeps_congr {results results' : SubPatternResults} {r : Row} {f : Filter}
    (h : ∀ p ∈ f.subPatterns,
      (results.table? p).any (·.hasPartner r) = (results'.table? p).any (·.hasPartner r)) :
    f.keeps results r = f.keeps results' r := by
  induction f with
  | and f g ihf ihg =>
    rw [keeps, keeps, ihf fun p hp => h p (List.mem_append_left _ hp),
      ihg fun p hp => h p (List.mem_append_right _ hp)]
  | or f g ihf ihg =>
    rw [keeps, keeps, ihf fun p hp => h p (List.mem_append_left _ hp),
      ihg fun p hp => h p (List.mem_append_right _ hp)]
  | not f ih => rw [keeps, keeps, ih h]
  | hasMatch p => exact h p.pattern (List.mem_singleton_self _)
  | hasNoMatch p => exact congrArg (!·) (h p.pattern (List.mem_singleton_self _))
  | _ => rfl

theorem Filter.keeps_subPatternsIn (h : quads.Perm others) (filters : List Filter) (f : Filter)
    (r : Row) :
    f.keeps (Group.subPatternsIn quads filters) r = f.keeps (Group.subPatternsIn others filters) r := by
  refine keeps_congr fun p _ => ?_
  -- Which sub-patterns are matched is up to the filters, not to the quads.
  rw [Group.table?_subPatternsIn, Group.table?_subPatternsIn]
  split
  · exact (p.similar_solutionsIn h).hasPartner r
  · rfl

/-! ## Groups -/

namespace Group

theorem wellFormed_phase {t : Table} (ht : t.WellFormed) (quads : List Quad) (phase : Phase) :
    (phase.tableIn quads t).WellFormed := by
  cases phase with
  | combine b => exact Block.wellFormed_tableOf ht b
  | extend b => exact Table.wellFormed_extend t b

theorem wellFormed_tableIn (quads : List Quad) (g : Group) : (g.tableIn quads).WellFormed := by
  refine Table.WellFormed.retain ?_ _
  refine List.foldlRecOn g.plan _ Table.wellFormed_unit fun t ht phase _ => ?_
  exact wellFormed_phase ht quads phase

theorem similar_phase {t u : Table} (h : quads.Perm others) (ht : t.WellFormed) (hSimilar : t.Similar u)
    (phase : Phase) : (phase.tableIn quads t).Similar (phase.tableIn others u) := by
  cases phase with
  | combine b =>
    exact Block.similar_tableOf (Operand.wellFormed_tableIn quads) (Operand.similar_tableIn h) ht
      hSimilar b
  | extend b => exact hSimilar.extend ht b

theorem similar_foldl_phase {t u : Table} (h : quads.Perm others) (phases : List Phase)
    (ht : t.WellFormed) (hSimilar : t.Similar u) :
    (phases.foldl (Phase.tableIn quads) t).Similar (phases.foldl (Phase.tableIn others) u) := by
  induction phases generalizing t u with
  | nil => exact hSimilar
  | cons phase phases ih =>
    exact ih (wellFormed_phase ht quads phase) (similar_phase h ht hSimilar phase)

/-- The order of the quads shows in the order of the rows only. -/
theorem similar_tableIn (h : quads.Perm others) (g : Group) :
    (g.tableIn quads).Similar (g.tableIn others) := by
  refine (similar_foldl_phase h g.plan Table.wellFormed_unit (.refl _)).retain fun r => ?_
  exact congrArg (List.all g.filters) (funext fun f => Filter.keeps_subPatternsIn h g.filters f r)

end Group

end Quads

end GraphQuery
