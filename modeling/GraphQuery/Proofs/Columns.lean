import GraphQuery.Proofs.Similar
import GraphQuery.Proofs.Walks

/-! # The columns of a group

Which columns the table of a group has is settled by the group, before anything is matched.

* `Block.produced`, `Group.Phase.produced` — the variables that a block and a phase bring in.
* `Group.columns` — the columns of a group in order.
* `Group.schema_tableIn` — among any quads the table of the group has these columns.
* `Group.mem_columns`, `Group.isReserved_of_mem_columns`, `Group.mem_vars_of_mem_columns` — which
  variables they are.
* `Evaluator.outcome_group_columns` — so it is for every local source.
-/

namespace GraphQuery

/-! ## Blocks -/

namespace Block

variable {α : Type} {f : α → Table} {columns columns' : α → List Variable} {b : Block α} {x : Variable}

/-- The variables that a block brings in: those of its alternatives, unless they are subtracted. -/
def produced (columns : α → List Variable) (b : Block α) : List Variable :=
  match b.combination with
  | .minus => []
  | .join | .leftJoin => b.items.flatMap columns

theorem mem_produced :
    x ∈ b.produced columns ↔ b.combination ≠ .minus ∧ ∃ item ∈ b.items, x ∈ columns item := by
  unfold produced
  cases b.combination <;> simp

theorem mem_produced_congr (h : ∀ item ∈ b.items, x ∈ columns item ↔ x ∈ columns' item) :
    x ∈ b.produced columns ↔ x ∈ b.produced columns' := by
  rw [mem_produced, mem_produced]
  refine and_congr_right fun _ => exists_congr fun item => and_congr_right fun hItem => h item hItem

/-- A table gets the new columns of a block at its end, whatever rows the block has. -/
theorem schema_tableOf {t : Table} (ht : t.WellFormed)
    (h : ∀ item, (f item).WellFormed ∧ (f item).schema = columns item) :
    (tableOf f t b).schema = (b.produced columns).foldl addNew t.schema := by
  have hUnion : (Table.union (b.items.map f)).schema = firsts (b.items.flatMap columns) := by
    rw [Table.union_map_eq fun item _ => (h item).1]
    exact congrArg firsts (List.flatMap_congr fun item _ => (h item).2)
  have hJoint : t.jointVariables (Table.union (b.items.map f)) =
      (b.items.flatMap columns).foldl addNew t.schema := by
    rw [foldl_addNew, Table.jointVariables, hUnion]
    simp [Table.hasColumn]
  unfold tableOf produced
  cases b.combination with
  | join => exact (congrArg Table.schema (Table.join_eq ht (Table.wellFormed_union _))).trans hJoint
  | leftJoin =>
    exact (congrArg Table.schema (Table.leftJoin_eq ht (Table.wellFormed_union _))).trans hJoint
  | minus =>
    show (t.minus _).schema = t.schema
    unfold Table.minus
    dsimp only
    split <;> rfl

end Block

/-! ## Operands -/

namespace Operand

/-- The columns of an operand in order. -/
def columns : Operand → List Variable
  | pattern p => p.vars
  | path p =>
    match p.compile with
    | .ok patterns => Path.shownVariables patterns
    | .error _ => []
  | values vs => vs.vars

theorem schema_tableIn (quads : List Quad) (o : Operand) : (o.tableIn quads).schema = o.columns := by
  cases o with
  | pattern p => exact congrArg Table.schema (p.solutionsIn_eq quads)
  | path p =>
    show (p.walksIn quads p.fingerprint).schema = _
    cases h : p.compile with
    | ok patterns =>
      rw [Path.walksIn_eq h, columns, h]
    | error e =>
      rw [columns, h]
      unfold Path.walksIn
      rw [show p.compileWith p.fingerprint = .error e from h]
      rfl
  | values vs =>
    show (Table.ofRows vs.vars (vs.tuples.map Row.ofList)).schema = vs.vars
    rw [Table.ofRows_of_subset fun r hr v hv => ?_]
    · exact firsts_eq_self vs.distinct
    · obtain ⟨tuple, hTuple, rfl⟩ := List.mem_map.mp hr
      obtain ⟨n, _, rfl⟩ := List.mem_map.mp hTuple
      rw [Row.mem_vars_ofList, Values.tuple, List.map_map] at hv
      exact hv

/-- The columns of an operand of a group are its variables: the inner nodes of a path are none, and
all variables of the path are there. -/
theorem mem_columns {g : Group} {o : Operand} (ho : .operand o ∈ g.members) {x : Variable} :
    x ∈ o.columns ↔ x ∈ o.vars := by
  cases o with
  | pattern p => exact .rfl
  | path p =>
    obtain ⟨patterns, h⟩ := g.compile_of_mem ho
    obtain ⟨pss, rfl, hCompiled⟩ := Path.compiled_of_compileWith h
    rw [columns, h]
    exact Path.mem_shownVariables.trans
      (hCompiled.mem_vars_iff (Path.levels_ne_nil_of_compileWith h))
  | values vs => exact .rfl

end Operand

/-! ## Groups -/

namespace Group

variable {g : Group} {x : Variable}

/-- The variables that a phase brings in. -/
def Phase.produced (columns : Operand → List Variable) : Phase → List Variable
  | combine b => b.produced columns
  | extend b => [b.target]

theorem Phase.schema_tableIn {t : Table} (ht : t.WellFormed) (quads : List Quad) (phase : Phase) :
    (phase.tableIn quads t).schema = (phase.produced Operand.columns).foldl addNew t.schema := by
  cases phase with
  | combine b =>
    exact Block.schema_tableOf ht fun o => ⟨o.wellFormed_tableIn quads, o.schema_tableIn quads⟩
  | extend b => exact congrArg Table.schema (Table.extend_eq ht b)

theorem schema_foldl_phase {t : Table} (ht : t.WellFormed) (quads : List Quad) (phases : List Phase) :
    (phases.foldl (Phase.tableIn quads) t).schema =
      (phases.flatMap (Phase.produced Operand.columns)).foldl addNew t.schema := by
  induction phases generalizing t with
  | nil => rfl
  | cons phase phases ih =>
    rw [List.foldl_cons, ih (wellFormed_phase ht quads phase), Phase.schema_tableIn ht,
      List.flatMap_cons, List.foldl_append]

/-- The columns of a group in order: what its phases bring in, each variable at its first place. -/
def columns (g : Group) : List Variable := firsts (g.plan.flatMap (Phase.produced Operand.columns))

/-- The quads have no part in the columns, and neither have the filters. -/
theorem schema_tableIn (quads : List Quad) (g : Group) : (g.tableIn quads).schema = g.columns :=
  schema_foldl_phase Table.wellFormed_unit quads g.plan

theorem mem_of_extend_mem_phasesAfter {run : List Operand} {ms : List Member} {b : Binding}
    (h : .extend b ∈ phasesAfter run ms) : .binding b ∈ ms := by
  have hRun : ∀ {run : List Operand}, Phase.extend b ∉ (Block.plan run).map .combine := by
    intro run h
    obtain ⟨_, _, e⟩ := List.mem_map.mp h
    cases e
  induction ms generalizing run with
  | nil => exact absurd h hRun
  | cons m ms ih =>
    cases m with
    | operand o => exact List.mem_cons_of_mem _ (ih h)
    | binding b' =>
      rcases List.mem_append.mp h with h | h
      · exact absurd h hRun
      · rcases List.mem_cons.mp h with e | h
        · cases e
          exact List.mem_cons_self
        · exact List.mem_cons_of_mem _ (ih h)
    | filter f => exact List.mem_cons_of_mem _ (ih h)

/-- The columns of a group are the variables of the operands that are joined, required or not, and
of the bindings. -/
theorem mem_columns :
    x ∈ g.columns ↔
      (∃ b, .combine b ∈ g.plan ∧ b.combination ≠ .minus ∧ ∃ o ∈ b.items, x ∈ o.vars) ∨
        ∃ b, .extend b ∈ g.plan ∧ x = b.target := by
  have hBlock : ∀ b, .combine b ∈ g.plan →
      (x ∈ b.produced Operand.columns ↔ b.combination ≠ .minus ∧ ∃ o ∈ b.items, x ∈ o.vars) :=
    fun b hb => (Block.mem_produced_congr fun o ho =>
      Operand.mem_columns (mem_of_mem_plan hb ho)).trans Block.mem_produced
  rw [Group.columns, mem_firsts, List.mem_flatMap]
  constructor
  · rintro ⟨phase, hPhase, hx⟩
    cases phase with
    | combine b => exact .inl ⟨b, hPhase, (hBlock b hPhase).mp hx⟩
    | extend b => exact .inr ⟨b, hPhase, List.mem_singleton.mp hx⟩
  · rintro (⟨b, hb, hx⟩ | ⟨b, hb, hx⟩)
    · exact ⟨_, hb, (hBlock b hb).mpr hx⟩
    · exact ⟨_, hb, List.mem_singleton.mpr hx⟩

/-- Every column is a variable of a member. -/
theorem exists_member_of_mem_columns (hx : x ∈ g.columns) : ∃ m ∈ g.members, x ∈ m.vars := by
  rcases mem_columns.mp hx with ⟨b, hb, _, o, ho, hx⟩ | ⟨b, hb, rfl⟩
  · exact ⟨_, mem_of_mem_plan hb ho, hx⟩
  · exact ⟨_, mem_of_extend_mem_phasesAfter hb, List.mem_singleton_self _⟩

theorem mem_vars_of_mem_columns (hx : x ∈ g.columns) : x ∈ g.vars := by
  rw [vars, mem_firsts, List.mem_flatMap]
  exact exists_member_of_mem_columns hx

end Group

namespace Member

variable {x : Variable} {vs : List Variable}

theorem isReserved_of_reservation? (h : reservation? vs = none) (hx : x ∈ vs) :
    x.isReserved = false := by
  rw [reservation?, Option.map_eq_none_iff, List.find?_eq_none] at h
  exact Bool.eq_false_iff.mpr (h x hx)

/-- A member without fault has no reserved variables. -/
theorem isReserved_of_fault? {m : Member} {earlier : List Variable} (h : m.fault? earlier = none)
    (hx : x ∈ m.vars) : x.isReserved = false := by
  cases m with
  | operand o =>
    cases o with
    | pattern p => exact isReserved_of_reservation? h hx
    | path p => exact Path.isReserved_of_mem_vars hx
    | values vs => exact isReserved_of_reservation? h hx
  | binding b => exact isReserved_of_reservation? (Option.or_eq_none_iff.mp h).1 hx
  | filter f => cases hx

end Member

theorem Group.isReserved_of_mem_columns {g : Group} {x : Variable} (hx : x ∈ g.columns) :
    x.isReserved = false := by
  obtain ⟨m, hm, hx⟩ := exists_member_of_mem_columns hx
  obtain ⟨_, hFault⟩ := g.faultless.exists_fault?_eq_none hm
  exact Member.isReserved_of_fault? hFault hx

/-- A group without endpoint evaluates, over graphs and federations of graphs, to a table whose
columns the group alone decides: the variables of the operands that are joined, required or not, and
of the bindings. Each row has exactly these columns. None of them is an inner node of a path, and all
are variables of the group. -/
theorem Evaluator.outcome_group_columns {v : Evaluator} (hv : v.source.IsLocal) {g : Group}
    (hg : g.service = none) :
    ∃ t, (v.group g).outcome = .ok t ∧ t.schema = g.columns ∧
      (∀ r ∈ t.rows, ∀ x, x ∈ r.vars ↔ x ∈ g.columns) ∧
      (∀ x, x ∈ g.columns ↔
        (∃ b, .combine b ∈ g.plan ∧ b.combination ≠ .minus ∧ ∃ o ∈ b.items, x ∈ o.vars) ∨
          ∃ b, .extend b ∈ g.plan ∧ x = b.target) ∧
      ∀ x ∈ g.columns, x.isReserved = false ∧ x ∈ g.vars := by
  have hSchema := Group.schema_tableIn v.source.quads g
  have hWell := Group.wellFormed_tableIn v.source.quads g
  refine ⟨_, (yields_group hv hg).outcome_eq, hSchema, fun r hr x => ?_, fun x => Group.mem_columns,
    fun x hx => ⟨Group.isReserved_of_mem_columns hx, Group.mem_vars_of_mem_columns hx⟩⟩
  rw [← hSchema]
  exact hWell.mem_vars r hr x

/-- In a federation of an empty graph, a path of two steps, an optional pattern with an alternative, a
subtracted pattern and a binding of a variable that only the subtracted pattern has. -/
theorem Evaluator.outcome_group_columns_mixed :
    let node : Iri := Datatype.integer.iri
    let step : Path.Step := ⟨.term (.iri node), false, rfl, rfl⟩
    let p : Path := ⟨.var ⟨"x"⟩, .var ⟨"y"⟩, [.single step, .single step], .plain, by decide, by decide⟩
    let optional : Pattern := ⟨none, .var ⟨"x"⟩, .var ⟨"u"⟩, .var ⟨"x"⟩, ⟨true, .union⟩, rfl, rfl, rfl⟩
    let other : Pattern :=
      ⟨none, .var ⟨"z"⟩, .term (.iri node), .var ⟨"x"⟩, ⟨false, .minus⟩, rfl, rfl, rfl⟩
    let subtracted : Pattern :=
      ⟨none, .var ⟨"x"⟩, .term (.iri node), .var ⟨"w"⟩, .plain, rfl, rfl, rfl⟩
    let b : Binding := ⟨⟨"b"⟩, .var ⟨"w"⟩⟩
    let v : Evaluator := ⟨.federation [.graph .empty] .standard, none, .empty⟩
    ∃ g : Group, g.members = [.operand (.path p), .operand (.pattern optional),
        .operand (.pattern other), .operand (.pattern subtracted), .binding b] ∧
      ∃ t, (v.group g).outcome = .ok t ∧
        ∀ x, x ∈ t.schema ↔ x ∈ [⟨"x"⟩, ⟨"y"⟩, ⟨"u"⟩, ⟨"z"⟩, ⟨"b"⟩] := by
  intro node step p optional other subtracted b v
  obtain ⟨patterns, h⟩ : ∃ patterns, p.compile = .ok patterns :=
    Path.exists_compileWith_iff.mpr ⟨List.cons_ne_nil _ _, fun _ _ _ _ _ => rfl, fun _ _ _ _ _ => rfl⟩
  have hPath : Member.fault? [] (.operand (.path p)) = none := by
    rw [Member.fault?, h]
  let g : Group := ⟨[.operand (.path p), .operand (.pattern optional), .operand (.pattern other),
    .operand (.pattern subtracted), .binding b], .plain, none,
    hPath, by decide, by decide, by decide, by decide, trivial⟩
  obtain ⟨t, ht, hSchema, _, hColumns, _⟩ := outcome_group_columns (v := v) ⟨trivial, trivial⟩ (g := g) rfl
  refine ⟨g, rfl, t, ht, fun x => ?_⟩
  have hPlan : g.plan = [.combine ⟨.join, [.path p]⟩,
      .combine ⟨.leftJoin, [.pattern optional, .pattern other]⟩,
      .combine ⟨.minus, [.pattern subtracted]⟩, .extend b] := rfl
  have hVars : Operand.vars (.path p) = [⟨"x"⟩, ⟨"y"⟩] ∧
      Operand.vars (.pattern optional) = [⟨"x"⟩, ⟨"u"⟩] ∧
      Operand.vars (.pattern other) = [⟨"z"⟩, ⟨"x"⟩] := by decide
  rw [hSchema, hColumns, hPlan]
  simp only [hVars, b, List.mem_cons, List.not_mem_nil, Group.Phase.combine.injEq,
    Group.Phase.extend.injEq, reduceCtorEq, ne_eq, exists_eq_or_imp, exists_eq_left, ↓existsAndEq,
    not_false_eq_true, not_true_eq_false, false_and, and_false, true_and, or_self, or_false, false_or]
  grind

end GraphQuery
