import GraphQuery.Proofs.Columns

/-! # Bindings in the plan

A binding is checked against the variables of the members before it, and computed on the running
table, whose columns come from the phases before it. The plan keeps the order of the members, so the
check is good for the table.

* `Group.flatMap_members_plan` — the plan holds the members in order, the filters left out.
* `Group.target_notMem_schema` — the running table lacks the column that a binding is to fill.
* `Table.Gains` — a table that has one column more than another.
* `Evaluator.phase_extend_gains` — so the phase of a binding adds its column and changes nothing else.
-/

namespace GraphQuery

namespace Member

variable {earlier : List Variable} {ms ms' : List Member} {b : Binding}

/-- The member has a place in the plan. Filters have none. -/
def isPlanned : Member → Bool
  | operand _ => true
  | binding _ => true
  | filter _ => false

/-- Filters produce no variables, so without them the other members meet the same ones. -/
theorem Faultless.filter_isPlanned (h : Faultless earlier ms) :
    Faultless earlier (ms.filter isPlanned) := by
  induction ms generalizing earlier with
  | nil => exact trivial
  | cons m ms ih =>
    cases m with
    | operand o => exact ⟨h.1, ih h.2⟩
    | binding b => exact ⟨h.1, ih h.2⟩
    | filter f =>
      have hRest : Faultless (earlier ++ []) ms := h.2
      rw [List.append_nil] at hRest
      exact ih hRest

theorem target_notMem_of_fault? (h : (binding b).fault? earlier = none) : b.target ∉ earlier := by
  have hBound := (Option.or_eq_none_iff.mp h).2
  by_contra hMem
  rw [if_pos hMem] at hBound
  cases hBound

theorem Faultless.target_notMem (h : Faultless earlier (ms ++ binding b :: ms')) :
    b.target ∉ earlier ++ ms.flatMap vars := by
  induction ms generalizing earlier with
  | nil => simpa using target_notMem_of_fault? h.1
  | cons m ms ih =>
    rw [List.flatMap_cons, ← List.append_assoc]
    exact ih h.2

end Member

namespace Group

variable {g : Group} {before after : List Phase} {b : Binding} {x : Variable}

/-! ## Members of phases -/

/-- The members that a phase is made of. -/
def Phase.members : Phase → List Member
  | combine block => block.items.map .operand
  | extend b => [.binding b]

theorem flatMap_members_combine (run : List Operand) :
    ((Block.plan run).map Phase.combine).flatMap Phase.members = run.map .operand := by
  conv => rhs; rw [← Block.flatMap_items_plan run]
  rw [List.flatMap_map, List.map_flatMap]
  rfl

/-- The run holds the operands that have been met since the last binding. -/
theorem flatMap_members_phasesAfter (run : List Operand) (ms : List Member) :
    (phasesAfter run ms).flatMap Phase.members = run.map .operand ++ ms.filter Member.isPlanned := by
  induction ms generalizing run with
  | nil => simp [phasesAfter, flatMap_members_combine]
  | cons m ms ih =>
    cases m with
    | operand o => simp [phasesAfter, ih, List.filter_cons, Member.isPlanned]
    | binding b =>
      simp [phasesAfter, ih, flatMap_members_combine, Phase.members, List.filter_cons, Member.isPlanned]
    | filter f => simp [phasesAfter, ih, Member.isPlanned]

/-- The plan holds every member but the filters, in order. -/
theorem flatMap_members_plan (g : Group) :
    g.plan.flatMap Phase.members = g.members.filter Member.isPlanned :=
  flatMap_members_phasesAfter [] g.members

theorem Phase.mem_vars_of_mem_produced {phase : Phase} (h : phase ∈ g.plan)
    (hx : x ∈ phase.produced Operand.columns) : x ∈ phase.members.flatMap Member.vars := by
  cases phase with
  | combine block =>
    obtain ⟨_, o, ho, hx⟩ := Block.mem_produced.mp hx
    have hVar := (Operand.mem_columns (mem_of_mem_plan h ho)).mp hx
    exact List.mem_flatMap.mpr ⟨.operand o, List.mem_map_of_mem ho, hVar⟩
  | extend b => simpa [Phase.members, Member.vars, Phase.produced] using hx

/-- No member before a binding has its target, so no phase before it brings the target in. -/
theorem target_notMem_schema (hPlan : g.plan = before ++ .extend b :: after) (quads : List Quad) :
    b.target ∉ (before.foldl (Phase.tableIn quads) .unit).schema := by
  have hFaultless := g.faultless.filter_isPlanned
  rw [← flatMap_members_plan, hPlan, List.flatMap_append, List.flatMap_cons] at hFaultless
  have hFresh : b.target ∉ (before.flatMap Phase.members).flatMap Member.vars :=
    Member.Faultless.target_notMem hFaultless
  intro hx
  rw [schema_foldl_phase Table.wellFormed_unit, mem_foldl_addNew] at hx
  obtain ⟨phase, hPhase, hx⟩ := List.mem_flatMap.mp (hx.resolve_left List.not_mem_nil)
  have hVar := Phase.mem_vars_of_mem_produced
    (hPlan ▸ List.mem_append_left _ hPhase : phase ∈ g.plan) hx
  rw [List.flatMap_assoc] at hFresh
  exact hFresh (List.mem_flatMap.mpr ⟨phase, hPhase, hVar⟩)

end Group

/-! ## One column more -/

theorem Row.cell_set {r : Row} {v w : Variable} {x : Option Term} :
    (r.set v x).cell w = if w = v then .ofColumn x else r.cell w := by
  unfold Row.cell
  rw [Row.column?_set]
  by_cases h : w = v <;> simp [h]

/-- The second table has a column that the first one lacks. It has a row for each row of the first
table, in the same order, with the same cells, and in the new column what the row is given. -/
structure Table.Gains (t u : Table) (v : Variable) (given : Row → Option Term) : Prop where
  notMem_schema : v ∉ t.schema
  cell_eq_noColumn : ∀ r ∈ t.rows, r.cell v = .noColumn
  schema_eq : u.schema = t.schema ++ [v]
  length_eq : u.rows.length = t.rows.length
  cell_eq : ∀ (i : Nat) (r r' : Row), t.rows[i]? = some r → u.rows[i]? = some r' →
    r'.cell v = .ofColumn (given r) ∧ ∀ w, w ≠ v → r'.cell w = r.cell w

theorem Table.gains_extend {t : Table} (ht : t.WellFormed) {b : Binding} (h : b.target ∉ t.schema) :
    t.Gains (t.extend b) b.target b.expression.evaluate? := by
  rw [Table.extend_eq ht]
  refine ⟨h, fun r hr => ?_, if_neg h, List.length_map _, fun i r r' hr hr' => ?_⟩
  · have hColumn := Row.column?_eq_none_iff.mpr (mt (ht.mem_vars r hr b.target).mp h)
    rw [Row.cell, hColumn]
  · rw [List.getElem?_map, hr] at hr'
    cases hr'
    exact ⟨by rw [Row.cell_set, if_pos rfl], fun w hw => by rw [Row.cell_set, if_neg hw]⟩

/-! ## The phase of a binding -/

namespace Evaluator

variable {v : Evaluator} {g : Group} {before after : List Group.Phase} {b : Binding}

theorem group_eq_of_plan (hg : g.service = none) (hPlan : g.plan = before ++ .extend b :: after) :
    v.group g = (do
      let t ← before.foldlM v.phase .unit
      let extended ← v.phase t (.extend b)
      let t ← after.foldlM v.phase extended
      let t ← v.filtered g.filters t
      Run.report (.evaluatedGroup g.members.length t.rows.length)
      return t) := by
  unfold group
  rw [hg, hPlan]
  simp only [List.foldlM_append, List.foldlM_cons, bind_assoc]

/-- Over graphs and federations of graphs, wherever a binding stands in a group, the phases before it
yield a table without its column. The phase of the binding adds this column, with the value of the
expression on each row or without value, and leaves everything else as it is. A group without endpoint
evaluates through this phase. -/
theorem phase_extend_gains (hv : v.source.IsLocal) (hPlan : g.plan = before ++ .extend b :: after) :
    (∃ t extended, (before.foldlM v.phase .unit).outcome = .ok t ∧
      (v.phase t (.extend b)).outcome = .ok extended ∧
      t.Gains extended b.target b.expression.evaluate?) ∧
    (g.service = none → v.group g = (do
      let t ← before.foldlM v.phase .unit
      let extended ← v.phase t (.extend b)
      let t ← after.foldlM v.phase extended
      let t ← v.filtered g.filters t
      Run.report (.evaluatedGroup g.members.length t.rows.length)
      return t)) := by
  refine ⟨?_, fun hg => group_eq_of_plan hg hPlan⟩
  have hBefore : ∀ phase ∈ before, phase ∈ g.plan := fun phase h =>
    hPlan ▸ List.mem_append_left _ h
  have hWell : (before.foldl (Group.Phase.tableIn v.source.quads) .unit).WellFormed :=
    List.foldlRecOn before _ Table.wellFormed_unit fun t ht phase _ => Group.wellFormed_phase ht _ phase
  have hRun := Run.yields_foldlM (fun t phase h => yields_phase hv (hBefore phase h) t) Table.unit
  exact ⟨_, _, hRun.outcome_eq, rfl,
    Table.gains_extend hWell (Group.target_notMem_schema hPlan v.source.quads)⟩

/-- A binding after inline values with a gap, an optional pattern, a subtracted one and a binding of an
optional variable. -/
theorem phase_extend_gains_second :
    let values : Values := ⟨[(⟨"x"⟩, [some (.simple "1"), none])], by decide, by decide⟩
    let optional : Pattern :=
      ⟨none, .var ⟨"x"⟩, .var ⟨"w"⟩, .var ⟨"x"⟩, ⟨true, .minus⟩, rfl, rfl, rfl⟩
    let subtracted : Pattern := ⟨none, .var ⟨"x"⟩, .var ⟨"w"⟩, .var ⟨"y"⟩, .plain, rfl, rfl, rfl⟩
    let first : Binding := ⟨⟨"a"⟩, .var ⟨"w"⟩⟩
    let second : Binding := ⟨⟨"b"⟩, .var ⟨"x"⟩⟩
    let v : Evaluator := ⟨.federation [.graph .empty] .standard, none, .empty⟩
    ∃ (g : Group) (before : List Group.Phase) (t extended : Table),
      g.members = [.operand (.values values), .operand (.pattern optional),
        .operand (.pattern subtracted), .binding first, .binding second] ∧
      g.plan = before ++ [.extend second] ∧
      (before.foldlM v.phase .unit).outcome = .ok t ∧
      (v.phase t (.extend second)).outcome = .ok extended ∧
      t.Gains extended ⟨"b"⟩ second.expression.evaluate? := by
  intro values optional subtracted first second v
  let g : Group := ⟨[.operand (.values values), .operand (.pattern optional),
    .operand (.pattern subtracted), .binding first, .binding second], .plain, none,
    by decide, by decide, by decide, by decide, by decide, trivial⟩
  let before : List Group.Phase := [.combine ⟨.join, [.values values]⟩,
    .combine ⟨.leftJoin, [.pattern optional]⟩, .combine ⟨.minus, [.pattern subtracted]⟩, .extend first]
  have hPlan : g.plan = before ++ [.extend second] := rfl
  obtain ⟨⟨t, extended, ht, hExtended, hGains⟩, _⟩ :=
    phase_extend_gains (v := v) ⟨trivial, trivial⟩ hPlan
  exact ⟨g, before, t, extended, rfl, hPlan, ht, hExtended, hGains⟩

end Evaluator

end GraphQuery
