import GraphQuery.Proofs.Similar
import GraphQuery.Proofs.Walks

/-! # More quads, more rows

Groups that only ask for what is there, and never for what is missing, keep their rows when quads are
added: every row stays, and new ones come between them.

* `Table.Within` — equal columns, and rows that are some of the rows of the other table, in order.
* `Table.Within.join`, `Table.within_union`, `Table.Within.extend` — what keeps tables within each
  other. Left joins and subtraction do not.
* `Block.combination_of_mem_plan` — what is neither optional nor subtracted is joined.
* `Filter.IsPositive`, `Filter.IsPositive.keeps` — filters that never turn on a match that is missing.
* `Group.IsPositive`, `Group.within_tableIn` — the same for groups.
* `Evaluator.outcome_groups_grow` — a sequence of positive groups keeps its rows while the graph grows.
-/

namespace GraphQuery

/-- If a list loses elements and each image does, the joint images do. -/
theorem sublist_flatMap {α β : Type} {f g : α → List β} {xs ys : List α} (h : xs.Sublist ys)
    (hImage : ∀ x ∈ ys, (f x).Sublist (g x)) : (xs.flatMap f).Sublist (ys.flatMap g) := by
  induction h with
  | slnil => exact .slnil
  | cons y _ ih =>
    rw [List.flatMap_cons]
    have hRest := ih fun x hx => hImage x (List.mem_cons_of_mem y hx)
    exact hRest.trans (List.sublist_append_right _ _)
  | cons_cons y _ ih =>
    rw [List.flatMap_cons, List.flatMap_cons]
    have hRest := ih fun x hx => hImage x (List.mem_cons_of_mem y hx)
    exact (hImage y List.mem_cons_self).append hRest

/-! ## Tables within tables -/

namespace Table

/-- The columns are the same in the same order, and the rows are some of the other rows, in the order
in which they stand there. -/
structure Within (t u : Table) : Prop where
  schema_eq : t.schema = u.schema
  sublist : t.rows.Sublist u.rows

variable {t t' u u' : Table}

namespace Within

theorem refl (t : Table) : t.Within t := ⟨rfl, .refl _⟩

theorem wellFormed (h : t.Within t') (ht' : t'.WellFormed) : t.WellFormed :=
  ht'.of_subset h.schema_eq h.sublist.subset

theorem partners (h : u.Within u') (r : Row) : (u.partners r).Sublist (u'.partners r) :=
  (h.sublist.filter _).map _

theorem join (ht' : t'.WellFormed) (hu' : u'.WellFormed) (h : t.Within t') (k : u.Within u') :
    (t.join u).Within (t'.join u') := by
  rw [join_eq (h.wellFormed ht') (k.wellFormed hu'), join_eq ht' hu']
  exact ⟨jointVariables_congr h.schema_eq k.schema_eq,
    sublist_flatMap h.sublist fun r _ => k.partners r⟩

theorem extend (ht' : t'.WellFormed) (h : t.Within t') (b : Binding) :
    (t.extend b).Within (t'.extend b) := by
  rw [extend_eq (h.wellFormed ht'), extend_eq ht', h.schema_eq]
  exact ⟨rfl, h.sublist.map _⟩

theorem retain (h : t.Within t') {keeps keeps' : Row → Bool}
    (hKeeps : ∀ r, keeps r = true → keeps' r = true) : (t.retain keeps).Within (t'.retain keeps') :=
  ⟨h.schema_eq, (h.sublist.filter keeps).trans (List.monotone_filter_right t'.rows hKeeps)⟩

theorem removeColumns (h : t.Within t') (vs : List Variable) :
    (t.removeColumns vs).Within (t'.removeColumns vs) := by
  rw [removeColumns_eq, removeColumns_eq, h.schema_eq]
  exact ⟨rfl, h.sublist.map _⟩

theorem hasPartner (h : t.Within t') {r : Row} (hr : t.hasPartner r = true) :
    t'.hasPartner r = true := by
  rw [Table.hasPartner, List.any_eq_true] at hr ⊢
  obtain ⟨s, hs, hAgrees⟩ := hr
  exact ⟨s, h.sublist.subset hs, h.schema_eq ▸ hAgrees⟩

end Within

/-- The tables of a union may each get more rows. The columns stay, so no row is padded otherwise. -/
theorem within_union {α : Type} {xs : List α} {f g : α → Table} (hg : ∀ x ∈ xs, (g x).WellFormed)
    (h : ∀ x ∈ xs, (f x).Within (g x)) : (union (xs.map f)).Within (union (xs.map g)) := by
  have hSchema : (xs.flatMap fun x => (f x).schema) = xs.flatMap fun x => (g x).schema :=
    List.flatMap_congr fun x hx => (h x hx).schema_eq
  rw [union_map_eq fun x hx => (h x hx).wellFormed (hg x hx), union_map_eq hg, hSchema]
  refine ⟨rfl, ?_⟩
  exact sublist_flatMap (.refl xs) fun x hx => (h x hx).sublist.map _

end Table

/-! ## Blocks -/

namespace Block

variable {α : Type} {f g : α → Table} {t u : Table}

/-- Items that are neither optional nor ask to subtract the next one make blocks to be joined. -/
theorem combination_of_mem_plan [Linked α] {xs : List α}
    (h : ∀ x ∈ xs, Linked.isOptional x = false ∧ Linked.isMinus x = false) :
    ∀ b ∈ plan xs, b.combination = .join := by
  have hPlan : ∀ b ∈ planAfter false xs, b.combination = .join := by
    induction xs with
    | nil => exact fun b hb => nomatch hb
    | cons x xs ih =>
      obtain ⟨hOptional, hMinus⟩ := h x List.mem_cons_self
      have hRest := ih fun y hy => h y (List.mem_cons_of_mem x hy)
      have hFirst : combinationOf false x = .join := by
        rw [combinationOf, hOptional]
        rfl
      -- Whether the next block is drawn in or not, the block of the first item comes from that item.
      rw [planAfter, hMinus, hFirst]
      split
      · rename_i next blocks _ hBlocks
        rw [hBlocks] at hRest
        exact List.forall_mem_cons.mpr ⟨rfl, fun b hb => hRest b (List.mem_cons_of_mem next hb)⟩
      · exact List.forall_mem_cons.mpr ⟨rfl, hRest⟩
  exact hPlan

theorem within_tableOf (hg : ∀ x, (g x).WellFormed) {b : Block α} (hJoin : b.combination = .join)
    (h : ∀ x ∈ b.items, (f x).Within (g x)) (hu : u.WellFormed) (hWithin : t.Within u) :
    (tableOf f t b).Within (tableOf g u b) := by
  unfold tableOf
  rw [hJoin]
  exact hWithin.join hu (Table.wellFormed_union _) (Table.within_union (fun x _ => hg x) h)

theorem within_tableOfAll (hg : ∀ x, (g x).WellFormed) {blocks : List (Block α)}
    (hJoin : ∀ b ∈ blocks, b.combination = .join)
    (h : ∀ b ∈ blocks, ∀ x ∈ b.items, (f x).Within (g x)) :
    (tableOfAll f blocks).Within (tableOfAll g blocks) := by
  suffices hFold : ∀ t u : Table, u.WellFormed → t.Within u →
      (blocks.foldl (tableOf f) t).Within (blocks.foldl (tableOf g) u) from
    hFold .unit .unit Table.wellFormed_unit (.refl _)
  induction blocks with
  | nil => exact fun t u _ hWithin => hWithin
  | cons b blocks ih =>
    intro t u hu hWithin
    have hStep := within_tableOf hg (hJoin b List.mem_cons_self) (h b List.mem_cons_self) hu hWithin
    exact ih (fun c hc => hJoin c (List.mem_cons_of_mem b hc))
      (fun c hc => h c (List.mem_cons_of_mem b hc)) _ _ (wellFormed_tableOf hu b) hStep

end Block

/-! ## Operands -/

section Quads

variable {quads others : List Quad}

theorem Pattern.within_solutionsIn (h : quads.Sublist others) (p : Pattern) :
    (p.solutionsIn quads).Within (p.solutionsIn others) := by
  rw [solutionsIn_eq, solutionsIn_eq]
  exact ⟨rfl, h.filterMap _⟩

/-- A path is compiled to patterns that are required, so its blocks are joined. -/
theorem Path.within_walksIn (h : quads.Sublist others) (fingerprint : String) (p : Path) :
    (p.walksIn quads fingerprint).Within (p.walksIn others fingerprint) := by
  unfold walksIn
  split
  · exact .refl _
  · rename_i patterns hCompile
    obtain ⟨pss, rfl, hCompiled⟩ := compiled_of_compileWith hCompile
    refine Table.Within.removeColumns ?_ _
    refine Block.within_tableOfAll (Pattern.wellFormed_solutionsIn others) ?_
      fun b _ q _ => q.within_solutionsIn h
    rw [hCompiled.plan_eq]
    intro b hb
    obtain ⟨ps, _, rfl⟩ := List.mem_map.mp hb
    rfl

theorem Operand.within_tableIn (h : quads.Sublist others) (o : Operand) :
    (o.tableIn quads).Within (o.tableIn others) := by
  cases o with
  | pattern p => exact p.within_solutionsIn h
  | path p => exact p.within_walksIn h p.fingerprint
  | values vs => exact .refl _

/-! ## Filters -/

namespace Filter

/-- The filter asks for matches of sub-patterns only where a match speaks for the row: it never asks
that there is none, and below a negation it asks for none at all. -/
def IsPositive : Filter → Prop
  | and f g | or f g => f.IsPositive ∧ g.IsPositive
  | not f => f.subPatterns = []
  | hasNoMatch _ => False
  | _ => True

variable {results results' : SubPatternResults} {r : Row}

/-- The induction is on the filter. Only conjunctions and disjunctions let a match through, and both
keep a row for which more speaks. -/
theorem IsPositive.keeps {f : Filter} (hf : f.IsPositive)
    (h : ∀ p, (results.table? p).any (·.hasPartner r) = true →
      (results'.table? p).any (·.hasPartner r) = true)
    (hr : f.keeps results r = true) : f.keeps results' r = true := by
  induction f with
  | and f g ihf ihg =>
    rw [Filter.keeps, Bool.and_eq_true] at hr ⊢
    exact ⟨ihf hf.1 hr.1, ihg hf.2 hr.2⟩
  | or f g ihf ihg =>
    rw [Filter.keeps, Bool.or_eq_true] at hr ⊢
    exact hr.imp (ihf hf.1) (ihg hf.2)
  | not f _ =>
    have hNone : f.subPatterns = [] := hf
    have hSame : f.keeps results r = f.keeps results' r :=
      keeps_congr fun p hp => by simp [hNone] at hp
    rwa [Filter.keeps, ← hSame]
  | hasMatch p => exact h p.pattern hr
  | hasNoMatch p => exact hf.elim
  | _ => exact hr

theorem IsPositive.keeps_subPatternsIn (hQuads : quads.Sublist others) {filters : List Filter}
    {f : Filter} (hf : f.IsPositive) (hr : f.keeps (Group.subPatternsIn quads filters) r = true) :
    f.keeps (Group.subPatternsIn others filters) r = true := by
  refine hf.keeps (fun p hp => ?_) hr
  rw [Group.table?_subPatternsIn] at hp ⊢
  split at hp
  · rename_i hMem
    rw [if_pos hMem]
    exact (p.within_solutionsIn hQuads).hasPartner hp
  · cases hp

end Filter

/-! ## Groups -/

namespace Group

/-- Neither the group nor one of its operands is optional or subtracts what comes next, and its
filters are positive. -/
structure IsPositive (g : Group) : Prop where
  required : g.linking.optional = false
  not_minus : g.linking.isMinus = false
  operands : ∀ o, .operand o ∈ g.members → o.linking.optional = false ∧ o.linking.isMinus = false
  filters : ∀ f ∈ g.filters, f.IsPositive

theorem within_phase {t u : Table} (h : quads.Sublist others) (hu : u.WellFormed) (hWithin : t.Within u)
    {phase : Phase} (hJoin : ∀ b, phase = .combine b → b.combination = .join) :
    (phase.tableIn quads t).Within (phase.tableIn others u) := by
  cases phase with
  | combine b =>
    exact Block.within_tableOf (Operand.wellFormed_tableIn others) (hJoin b rfl)
      (fun o _ => o.within_tableIn h) hu hWithin
  | extend b => exact hWithin.extend hu b

theorem within_foldl_phase {t u : Table} (h : quads.Sublist others) {phases : List Phase}
    (hu : u.WellFormed) (hWithin : t.Within u)
    (hJoin : ∀ b, .combine b ∈ phases → b.combination = .join) :
    (phases.foldl (Phase.tableIn quads) t).Within (phases.foldl (Phase.tableIn others) u) := by
  induction phases generalizing t u with
  | nil => exact hWithin
  | cons phase phases ih =>
    have hStep := within_phase h hu hWithin fun b hb => hJoin b (hb ▸ List.mem_cons_self)
    exact ih (wellFormed_phase hu others phase) hStep fun b hb => hJoin b (List.mem_cons_of_mem _ hb)

theorem IsPositive.combination_of_mem_plan {g : Group} (hg : g.IsPositive) {b : Block Operand}
    (hb : .combine b ∈ g.plan) : b.combination = .join := by
  obtain ⟨run, hRun, hb⟩ := exists_run_of_mem_plan hb
  exact Block.combination_of_mem_plan (fun o ho => hg.operands o (hRun o ho)) b hb

theorem IsPositive.within_tableIn (h : quads.Sublist others) {g : Group} (hg : g.IsPositive) :
    (g.tableIn quads).Within (g.tableIn others) := by
  have hPhases := within_foldl_phase h Table.wellFormed_unit (.refl _)
    fun b hb => hg.combination_of_mem_plan hb
  refine hPhases.retain fun r hr => ?_
  rw [List.all_eq_true] at hr ⊢
  exact fun f hf => (hg.filters f hf).keeps_subPatternsIn h (hr f hf)

end Group

end Quads

/-! ## Growing graphs -/

theorem Graph.sublist_quads_insertAll (g : Graph) (inserted : List Quad) :
    g.quads.Sublist (g.insertAll inserted).quads := by
  induction inserted generalizing g with
  | nil => exact .refl _
  | cons q inserted ih =>
    have hInsert : g.quads.Sublist (g.insert q).quads := by
      show g.quads.Sublist (addNew g.quads q)
      unfold addNew
      split
      · exact .refl _
      · exact List.sublist_append_left _ _
    exact hInsert.trans (ih (g.insert q))

/-- Positive groups without endpoints are evaluated over a graph and over the same graph with further
quads. The columns are the same, and every row of the smaller graph is there in the larger one at
least as often; the old rows even keep their order. -/
theorem Evaluator.outcome_groups_grow (g : Graph) (inserted : List Quad) (handler : Option Handler)
    (options : QueryOptions) {gs : List Group}
    (hGroups : ∀ group ∈ gs, group.service = none ∧ group.IsPositive) :
    ∃ t u, ((Evaluator.mk (.graph g) handler options).groups gs).outcome = .ok t ∧
      ((Evaluator.mk (.graph (g.insertAll inserted)) handler options).groups gs).outcome = .ok u ∧
      t.schema = u.schema ∧ t.rows.Sublist u.rows ∧ ∀ r, t.rows.count r ≤ u.rows.count r := by
  have hService : ∀ group ∈ gs, group.service = none := fun group h => (hGroups group h).1
  have hOutcome : ∀ g : Graph, ((Evaluator.mk (.graph g) handler options).groups gs).outcome =
      .ok (Block.tableOfAll (Group.tableIn g.quads) (Block.plan gs)) := fun g => by
    have h := (yields_groups (v := ⟨.graph g, handler, options⟩) trivial hService).outcome_eq
    rwa [Source.quads_graph] at h
  have hWithin := Block.within_tableOfAll (f := Group.tableIn g.quads)
    (Group.wellFormed_tableIn (g.insertAll inserted).quads)
    (Block.combination_of_mem_plan fun group h =>
      ⟨(hGroups group h).2.required, (hGroups group h).2.not_minus⟩)
    fun b hb group hGroup =>
      (hGroups group (Block.mem_of_mem_plan hb hGroup)).2.within_tableIn
        (g.sublist_quads_insertAll inserted)
  exact ⟨_, _, hOutcome g, hOutcome _, hWithin.schema_eq, hWithin.sublist,
    fun r => hWithin.sublist.count_le r⟩

/-- Two statements, of which one passes the filter only once it is repeated in a named graph; an
alternative pattern has a column of its own, and a second group brings in values. -/
theorem Evaluator.outcome_groups_grow_named :
    let node : Iri := Datatype.integer.iri
    let first : Quad := ⟨none, .iri node, node, .simple "a", rfl⟩
    let second : Quad := ⟨none, .iri node, node, .simple "b", rfl⟩
    let named : Quad := ⟨some node, .iri node, node, .simple "b", rfl⟩
    let p : Pattern :=
      ⟨none, .var ⟨"x"⟩, .term (.iri node), .var ⟨"y"⟩, ⟨false, .union⟩, rfl, rfl, rfl⟩
    let q : Pattern := ⟨none, .var ⟨"y"⟩, .var ⟨"z"⟩, .term (.iri node), .plain, rfl, rfl, rfl⟩
    let repeated : SubPattern :=
      ⟨⟨some (.var ⟨"g"⟩), .var ⟨"x"⟩, .var ⟨"p"⟩, .var ⟨"y"⟩, .plain, rfl, rfl, rfl⟩, rfl⟩
    let f : Filter := .or (.hasMatch repeated) (.not (.sameTerm (.var ⟨"y"⟩) (.term (.simple "b"))))
    let vs : Values := ⟨[(⟨"y"⟩, [some (.simple "b"), none])], by decide, by decide⟩
    let matched : Group := ⟨[.operand (.pattern p), .filter f, .operand (.pattern q)], .plain, none,
      by decide, rfl, by decide, trivial⟩
    let listed : Group := ⟨[.operand (.values vs)], .plain, none, by decide, trivial⟩
    let g := Graph.empty.insertAll [first, second]
    ∃ t u, ((Evaluator.mk (.graph g) none .empty).groups [matched, listed]).outcome = .ok t ∧
      ((Evaluator.mk (.graph (g.insertAll [named, first])) none .empty).groups
        [matched, listed]).outcome = .ok u ∧
      t.rows.length = 1 ∧ u.rows.length = 3 ∧ ∀ r, t.rows.count r ≤ u.rows.count r := by
  intro node first second named p q repeated f vs matched listed g
  have hMatched : matched.IsPositive :=
    { required := rfl
      not_minus := rfl
      operands := fun o ho => by
        have hOperands : o = .pattern p ∨ o = .pattern q := by simpa [matched] using ho
        rcases hOperands with rfl | rfl
        · exact ⟨rfl, rfl⟩
        · exact ⟨rfl, rfl⟩
      filters := List.forall_mem_singleton.mpr ⟨trivial, rfl⟩ }
  have hListed : listed.IsPositive :=
    { required := rfl
      not_minus := rfl
      operands := fun o ho => by
        have hOperand : o = .values vs := by simpa [listed] using ho
        exact hOperand ▸ ⟨rfl, rfl⟩
      filters := fun f hf => nomatch hf }
  have hGroups : ∀ group ∈ [matched, listed], group.service = none ∧ group.IsPositive :=
    List.forall_mem_cons.mpr ⟨⟨rfl, hMatched⟩, List.forall_mem_singleton.mpr ⟨rfl, hListed⟩⟩
  obtain ⟨t, u, ht, hu, _, _, hCount⟩ := outcome_groups_grow g [named, first] none .empty hGroups
  have hLength : ((Evaluator.mk (.graph g) none .empty).groups [matched, listed]).outcome.map
      (·.rows.length) = .ok 1 := by decide +kernel
  have hLength' : ((Evaluator.mk (.graph (g.insertAll [named, first])) none .empty).groups
      [matched, listed]).outcome.map (·.rows.length) = .ok 3 := by decide +kernel
  rw [ht] at hLength
  rw [hu] at hLength'
  exact ⟨t, u, ht, hu, Except.ok.inj hLength, Except.ok.inj hLength', hCount⟩

end GraphQuery
