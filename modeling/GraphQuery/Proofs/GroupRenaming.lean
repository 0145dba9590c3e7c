import GraphQuery.Proofs.Columns
import GraphQuery.Proofs.FilterRenaming
import Mathlib.Algebra.GroupWithZero.Nat
import Mathlib.Algebra.Order.BigOperators.Group.List
import Mathlib.Algebra.Order.Group.Nat

/-! # Renamed groups

Groups are evaluated in the same way whatever their variables are called. Not even the names of inner
nodes, which come from the written paths, nor the order of the names show in a table.

* `Group.rename` — the group under other variables, which has no faults either.
* `Group.tableIn_rename` — its table among quads is the renamed one.
* `Variable.NamesApart` — new names for some variables.
* `Evaluator.outcome_groups_rename` — evaluation under other names.
-/

namespace GraphQuery

variable {σ : Renaming} {quads : List Quad}

/-! ## Operands and members -/

namespace Operand

/-- The operand under other variables. -/
def rename (σ : Renaming) : Operand → Operand
  | pattern p => .pattern (p.rename σ.name)
  | path p => .path (p.rename σ)
  | values vs => .values (vs.rename σ)

theorem vars_rename {o : Operand} : (o.rename σ).vars = o.vars.map σ.name := by
  cases o with
  | pattern p => exact Pattern.vars_rename σ.injective
  | path p => exact Path.vars_rename
  | values vs => exact Values.vars_rename

theorem linking_rename {o : Operand} : (o.rename σ).linking = o.linking := by
  cases o <;> rfl

theorem plan_rename (os : List Operand) :
    Block.plan (os.map (rename σ)) = (Block.plan os).map (Block.map (rename σ)) :=
  Block.planAfter_map (h := rename σ) (fun _ => congrArg Linking.optional linking_rename)
    (fun _ => congrArg Linking.isUnion linking_rename)
    (fun _ => congrArg Linking.isMinus linking_rename) false os

theorem tableIn_rename {g : Group} {o : Operand} (ho : .operand o ∈ g.members) :
    (o.rename σ).tableIn quads = (o.tableIn quads).rename σ.name := by
  cases o with
  | pattern p => exact Pattern.solutionsIn_rename σ.injective
  | path p => exact Path.walksIn_rename (g.compile_of_mem ho)
  | values vs => exact Values.toTable_rename

end Operand

namespace Member

/-- The member under other variables. -/
def rename (σ : Renaming) : Member → Member
  | operand o => .operand (o.rename σ)
  | binding b => .binding (b.rename σ.name)
  | filter f => .filter (f.rename σ)

variable {m : Member} {ms : List Member} {earlier : List Variable}

theorem vars_rename : (m.rename σ).vars = m.vars.map σ.name := by
  cases m with
  | operand o => exact Operand.vars_rename
  | binding b => rfl
  | filter f => rfl

theorem reservation?_rename (vs : List Variable) : reservation? (vs.map σ.name) = none := by
  rw [reservation?, Option.map_eq_none_iff, List.find?_eq_none]
  intro w hw
  obtain ⟨v, _, rfl⟩ := List.mem_map.mp hw
  rw [σ.free]
  exact Bool.false_ne_true

theorem fault?_rename (h : m.fault? earlier = none) :
    (m.rename σ).fault? (earlier.map σ.name) = none := by
  cases m with
  | operand o =>
    cases o with
    | pattern p =>
      show reservation? (p.rename σ.name).vars = none
      rw [Pattern.vars_rename σ.injective, reservation?_rename]
    | path p =>
      obtain ⟨ps, hps⟩ := Path.exists_compile_rename (σ := σ) (compile_of_fault? h)
      simp only [rename, Operand.rename, fault?, hps]
    | values vs =>
      show reservation? (vs.rename σ).vars = none
      rw [Values.vars_rename, reservation?_rename]
  | binding b =>
    -- Different names stay different, so a target that was new is still new.
    obtain ⟨_, hNew⟩ := Option.or_eq_none_iff.mp h
    refine Option.or_eq_none_iff.mpr ⟨reservation?_rename [b.target], ?_⟩
    show (if σ.name b.target ∈ earlier.map σ.name then _ else _) = _
    by_cases hTarget : b.target ∈ earlier
    · rw [if_pos hTarget] at hNew
      cases hNew
    · exact if_neg (mt (List.mem_map_of_injective σ.injective).mp hTarget)
  | filter f => rfl

theorem Faultless.rename (h : Faultless earlier ms) :
    Faultless (earlier.map σ.name) (ms.map (Member.rename σ)) := by
  induction ms generalizing earlier with
  | nil => trivial
  | cons m ms ih =>
    refine ⟨fault?_rename h.1, ?_⟩
    have hRest := ih h.2
    rw [List.map_append, ← vars_rename] at hRest
    exact hRest

end Member

/-! ## Groups -/

namespace Group

/-- The group under other variables. -/
def rename (σ : Renaming) (g : Group) : Group where
  members := g.members.map (Member.rename σ)
  linking := g.linking
  service := g.service
  faultless := g.faultless.rename

variable {g : Group}

theorem filters_rename : (g.rename σ).filters = g.filters.map (Filter.rename σ) := by
  unfold filters rename
  rw [List.filterMap_map, List.map_filterMap]
  refine List.filterMap_congr fun m _ => ?_
  cases m <;> rfl

/-- The phase under other variables. -/
def Phase.rename (σ : Renaming) : Phase → Phase
  | combine block => .combine (block.map (Operand.rename σ))
  | extend b => .extend (b.rename σ.name)

theorem phasesAfter_rename (run : List Operand) (ms : List Member) :
    phasesAfter (run.map (Operand.rename σ)) (ms.map (Member.rename σ)) =
      (phasesAfter run ms).map (Phase.rename σ) := by
  have hRun : ∀ run : List Operand, (Block.plan (run.map (Operand.rename σ))).map Phase.combine =
      ((Block.plan run).map Phase.combine).map (Phase.rename σ) := by
    intro run
    rw [Operand.plan_rename, List.map_map, List.map_map]
    rfl
  induction ms generalizing run with
  | nil => exact hRun run
  | cons m ms ih =>
    cases m with
    | operand o =>
      have hRest := ih (run ++ [o])
      rw [List.map_append] at hRest
      exact hRest
    | binding b =>
      have hRest := ih []
      show (Block.plan (run.map (Operand.rename σ))).map Phase.combine ++ _ :: _ = _
      rw [hRun, phasesAfter, List.map_append, List.map_cons, ← hRest]
      rfl
    | filter f => exact ih run

theorem plan_rename : (g.rename σ).plan = g.plan.map (Phase.rename σ) :=
  phasesAfter_rename [] g.members

theorem Phase.tableIn_rename {t : Table} (ht : t.WellFormed) {phase : Phase} (h : phase ∈ g.plan) :
    (phase.rename σ).tableIn quads (t.rename σ.name) = (phase.tableIn quads t).rename σ.name := by
  cases phase with
  | combine b =>
    exact Block.tableOf_map σ.injective ht (Operand.wellFormed_tableIn quads) fun o ho =>
      Operand.tableIn_rename (mem_of_mem_plan h ho)
  | extend b => exact (Table.rename_extend σ.injective ht b).symm

theorem foldl_phase_rename {t : Table} (ht : t.WellFormed) {phases : List Phase}
    (h : ∀ phase ∈ phases, phase ∈ g.plan) :
    (phases.map (Phase.rename σ)).foldl (Phase.tableIn quads) (t.rename σ.name) =
      (phases.foldl (Phase.tableIn quads) t).rename σ.name := by
  -- Before each phase the running table of the renamed group is the renamed running table.
  induction phases generalizing t with
  | nil => rfl
  | cons phase phases ih =>
    obtain ⟨hPhase, hRest⟩ := List.forall_mem_cons.mp h
    rw [List.map_cons, List.foldl_cons, List.foldl_cons, Phase.tableIn_rename ht hPhase,
      ih (wellFormed_phase ht quads phase) hRest]

theorem tableIn_rename : (g.rename σ).tableIn quads = (g.tableIn quads).rename σ.name := by
  have hPhases : (g.plan.map (Phase.rename σ)).foldl (Phase.tableIn quads) .unit =
      (g.plan.foldl (Phase.tableIn quads) .unit).rename σ.name :=
    foldl_phase_rename Table.wellFormed_unit fun phase h => h
  unfold tableIn
  rw [plan_rename, filters_rename, hPhases]
  refine (Table.rename_retain fun r _ => ?_).symm
  rw [List.all_map]
  exact congrArg g.filters.all (funext fun f => Filter.keeps_subPatternsIn_rename g.filters f)

theorem plan_groups_rename (gs : List Group) :
    Block.plan (gs.map (rename σ)) = (Block.plan gs).map (Block.map (rename σ)) :=
  Block.planAfter_map (h := rename σ) (fun _ => rfl) (fun _ => rfl) (fun _ => rfl) false gs

end Group

/-! ## The variables of groups -/

/-- The variables that occur in the member, with repetitions. -/
def Member.occurrences : Member → List Variable
  | operand o => o.vars
  | binding b => b.target :: b.expression.vars
  | filter f => f.vars

/-- The variables that occur in the members of the group, with repetitions. -/
def Group.occurrences (g : Group) : List Variable := g.members.flatMap Member.occurrences

theorem Group.mem_occurrences_of_mem_columns {g : Group} {x : Variable} (hx : x ∈ g.columns) :
    x ∈ g.occurrences := by
  obtain ⟨m, hm, hx⟩ := exists_member_of_mem_columns hx
  refine List.mem_flatMap.mpr ⟨m, hm, ?_⟩
  cases m with
  | operand o => exact hx
  | binding b => exact List.mem_cons.mpr (.inl (List.mem_singleton.mp hx))
  | filter f => cases hx

namespace Block

variable {α : Type} {F : α → Table} {columns : α → List Variable} {blocks : List (Block α)}
  {t : Table} {x : Variable}

theorem mem_schema_of_foldl_tableOf (h : ∀ item, (F item).WellFormed ∧ (F item).schema = columns item)
    (ht : t.WellFormed) (hx : x ∈ (blocks.foldl (tableOf F) t).schema) :
    x ∈ t.schema ∨ ∃ item ∈ blocks.flatMap items, x ∈ columns item := by
  induction blocks generalizing t with
  | nil => exact .inl hx
  | cons b blocks ih =>
    rw [List.flatMap_cons]
    rcases ih (wellFormed_tableOf ht b) hx with hx | ⟨item, hItem, hx⟩
    · -- A column that is there after the first block was there before or is brought in by the block.
      rw [schema_tableOf ht h, mem_foldl_addNew] at hx
      refine hx.imp_right fun hx => ?_
      obtain ⟨_, item, hItem, hx⟩ := mem_produced.mp hx
      exact ⟨item, List.mem_append_left _ hItem, hx⟩
    · exact .inr ⟨item, List.mem_append_right _ hItem, hx⟩

/-- Every column of a sequence of blocks comes from an item. -/
theorem exists_of_mem_schema_tableOfAll
    (h : ∀ item, (F item).WellFormed ∧ (F item).schema = columns item)
    (hx : x ∈ (tableOfAll F blocks).schema) : ∃ item ∈ blocks.flatMap items, x ∈ columns item :=
  (mem_schema_of_foldl_tableOf h Table.wellFormed_unit hx).resolve_left List.not_mem_nil

end Block

/-! ## New names for some variables -/

/-- The variables of a list get different names, none of them reserved. -/
structure Variable.NamesApart (ρ : Variable → Variable) (vs : List Variable) : Prop where
  injective : ∀ x ∈ vs, ∀ y ∈ vs, ρ x = ρ y → x = y
  free : ∀ x ∈ vs, (ρ x).isReserved = false

/-- The variable with a prefix of a length. -/
def Variable.padded (length : Nat) (v : Variable) : Variable :=
  ⟨String.ofList (List.replicate (length + 1) 'v' ++ v.name.toList)⟩

namespace Variable

theorem padded_injective (length : Nat) : Function.Injective (padded length) := by
  intro v w h
  have hLists : List.replicate (length + 1) 'v' ++ v.name.toList =
      List.replicate (length + 1) 'v' ++ w.name.toList :=
    String.ofList_injective (congrArg name h)
  cases v
  cases w
  exact congrArg mk (String.toList_injective (List.append_cancel_left hLists))

theorem isReserved_padded (length : Nat) (v : Variable) : (padded length v).isReserved = false := by
  have hName : (padded length v).name.toList =
      'v' :: (List.replicate length 'v' ++ v.name.toList) := by
    rw [padded, String.toList_ofList, List.replicate_succ, List.cons_append]
  rw [isReserved, hName]
  rfl

theorem length_lt_padded (length : Nat) (v : Variable) : length < (padded length v).name.length := by
  simp only [padded, String.length_ofList, List.length_append, List.length_replicate]
  omega

/-- New names for the variables of a list, and for all others names that are longer than these. -/
def extended (ρ : Variable → Variable) (vs : List Variable) (x : Variable) : Variable :=
  if x ∈ vs then ρ x else padded (vs.map fun y => (ρ y).name.length).sum x

variable {ρ : Variable → Variable} {vs : List Variable} {x y : Variable}

theorem extended_of_mem (hx : x ∈ vs) : extended ρ vs x = ρ x := if_pos hx

theorem extended_of_not_mem (hx : x ∉ vs) :
    extended ρ vs x = padded (vs.map fun y => (ρ y).name.length).sum x := if_neg hx

theorem name_ne_extended (hx : x ∈ vs) (hy : y ∉ vs) : ρ x ≠ extended ρ vs y := by
  intro e
  have hBound : (ρ x).name.length ≤ (vs.map fun y => (ρ y).name.length).sum :=
    List.le_sum_of_mem (List.mem_map_of_mem (f := fun y => (ρ y).name.length) hx)
  have hLong := length_lt_padded (vs.map fun y => (ρ y).name.length).sum y
  rw [← extended_of_not_mem hy, ← e] at hLong
  omega

theorem NamesApart.extended_injective (h : NamesApart ρ vs) : Function.Injective (extended ρ vs) := by
  intro x y e
  by_cases hx : x ∈ vs <;> by_cases hy : y ∈ vs
  · rw [extended_of_mem hx, extended_of_mem hy] at e
    exact h.injective x hx y hy e
  · rw [extended_of_mem hx] at e
    exact absurd e (name_ne_extended hx hy)
  · rw [extended_of_mem hy] at e
    exact absurd e.symm (name_ne_extended hy hx)
  · rw [extended_of_not_mem hx, extended_of_not_mem hy] at e
    exact padded_injective _ e

theorem NamesApart.isReserved_extended (h : NamesApart ρ vs) (x : Variable) :
    (extended ρ vs x).isReserved = false := by
  by_cases hx : x ∈ vs
  · rw [extended_of_mem hx]
    exact h.free x hx
  · rw [extended_of_not_mem hx]
    exact isReserved_padded _ x

theorem NamesApart.exists_renaming (h : NamesApart ρ vs) :
    ∃ σ : Renaming, ∀ x ∈ vs, σ.name x = ρ x :=
  ⟨⟨extended ρ vs, h.extended_injective, h.isReserved_extended⟩, fun _ => extended_of_mem⟩

end Variable

/-! ## Evaluation -/

/-- Groups without endpoints, evaluated over graphs and federations of graphs, do not depend on what
their variables are called. New names for the variables that occur in the groups, different ones for
different variables and none of them reserved, are part of a renaming of all variables, and whichever
that is, the renamed groups have the renamed table: the columns in the same order, and the same rows
in the same order. -/
theorem Evaluator.outcome_groups_rename {v : Evaluator} (hv : v.source.IsLocal) {gs : List Group}
    (hgs : ∀ g ∈ gs, g.service = none) {ρ : Variable → Variable}
    (hρ : Variable.NamesApart ρ (gs.flatMap Group.occurrences)) :
    (∃ σ : Renaming, ∀ x ∈ gs.flatMap Group.occurrences, σ.name x = ρ x) ∧
      ∃ t, (v.groups gs).outcome = .ok t ∧ (∀ x ∈ t.schema, x ∈ gs.flatMap Group.occurrences) ∧
        ∀ σ : Renaming, (∀ x ∈ gs.flatMap Group.occurrences, σ.name x = ρ x) →
          (v.groups (gs.map (Group.rename σ))).outcome = .ok (t.rename ρ) := by
  have hTables : ∀ g : Group, (g.tableIn v.source.quads).WellFormed ∧
      (g.tableIn v.source.quads).schema = g.columns := fun g =>
    ⟨g.wellFormed_tableIn v.source.quads, g.schema_tableIn v.source.quads⟩
  have hColumns : ∀ x ∈ (Block.tableOfAll (Group.tableIn v.source.quads) (Block.plan gs)).schema,
      x ∈ gs.flatMap Group.occurrences := by
    intro x hx
    obtain ⟨g, hg, hx⟩ := Block.exists_of_mem_schema_tableOfAll hTables hx
    rw [Block.flatMap_items_plan] at hg
    exact List.mem_flatMap.mpr ⟨g, hg, Group.mem_occurrences_of_mem_columns hx⟩
  refine ⟨hρ.exists_renaming, _, (yields_groups hv hgs).outcome_eq, hColumns, fun σ hσ => ?_⟩
  have hRenamed : ∀ g ∈ gs.map (Group.rename σ), g.service = none := by
    intro renamed h
    obtain ⟨g, hg, rfl⟩ := List.mem_map.mp h
    exact hgs g hg
  rw [(yields_groups hv hRenamed).outcome_eq, Group.plan_groups_rename,
    Block.tableOfAll_map σ.injective (Group.wellFormed_tableIn v.source.quads)
      fun _ _ _ _ => Group.tableIn_rename]
  congr 1
  -- Columns are variables of the groups, and on these the renaming gives the new names.
  refine (Block.wellFormed_tableOfAll _).rename_congr fun x hx => ?_
  exact hσ x (hColumns x hx)

/-- Two variables exchange their names, and with them their order: the ends of a path over an inner
node, with a filter that asks whether there is a way back. -/
theorem Evaluator.outcome_groups_rename_exchange :
    let x : Variable := ⟨"x"⟩
    let y : Variable := ⟨"y"⟩
    let node : Iri := Datatype.integer.iri
    let step : Path.Step := ⟨.term (.iri node), false, rfl, rfl⟩
    let p : Path := ⟨.var x, .var y, [.single step, .single step], .plain, by decide, by decide⟩
    let back : SubPattern := ⟨⟨none, .var y, .var ⟨"p"⟩, .var x, .plain, rfl, rfl, rfl⟩, rfl⟩
    let loop : Quad := ⟨none, .iri node, node, .iri node, rfl⟩
    let v : Evaluator := ⟨.graph (Graph.empty.insert loop), none, .empty⟩
    let ρ : Variable → Variable := fun z => if z = x then y else if z = y then x else z
    ∃ g : Group, g.members = [.operand (.path p), .filter (.hasMatch back)] ∧
      ∃ σ : Renaming, σ.name x = y ∧ σ.name y = x ∧
        ∃ t, (v.groups [g]).outcome = .ok t ∧ (v.groups [g.rename σ]).outcome = .ok (t.rename ρ) := by
  intro x y node step p back loop v ρ
  obtain ⟨patterns, h⟩ : ∃ patterns, p.compile = .ok patterns :=
    Path.exists_compileWith_iff.mpr ⟨List.cons_ne_nil _ _, fun _ _ _ _ _ => rfl, fun _ _ _ _ _ => rfl⟩
  have hPath : Member.fault? [] (.operand (.path p)) = none := by
    rw [Member.fault?, h]
  let g : Group := ⟨[.operand (.path p), .filter (.hasMatch back)], .plain, none, hPath, rfl, trivial⟩
  have hOccurrences : [g].flatMap Group.occurrences = [x, y, y, ⟨"p"⟩, x] := by
    have hOperand : Member.occurrences (.operand (.path p)) = [x, y] := by decide
    have hFilter : Member.occurrences (.filter (.hasMatch back)) = [y, ⟨"p"⟩, x] := by decide
    show (Member.occurrences _ ++ (Member.occurrences _ ++ [])) ++ [] = _
    rw [hOperand, hFilter]
    rfl
  have hρ : Variable.NamesApart ρ ([g].flatMap Group.occurrences) := by
    rw [hOccurrences]
    exact ⟨by decide, by decide⟩
  have hService : ∀ g' ∈ [g], g'.service = none := List.forall_mem_singleton.mpr rfl
  obtain ⟨⟨σ, hσ⟩, t, ht, _, hRenamed⟩ := outcome_groups_rename (v := v) trivial hService hρ
  have hNames := hσ
  rw [hOccurrences] at hNames
  exact ⟨g, rfl, σ, hNames x List.mem_cons_self, hNames y (by decide), t, ht, hRenamed σ hσ⟩

end GraphQuery
