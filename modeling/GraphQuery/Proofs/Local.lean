import GraphQuery.Evaluator
import GraphQuery.Proofs.Matching

/-! # Evaluation over local sources

A source that is made of graphs only answers at once and never fails, so what a group evaluates to
is a function of the quads.

* `Run.Yields` — a run that takes no time and has a result.
* `Source.IsLocal`, `Source.quads` — graphs and federations of graphs, and what they hold.
* `Group.tableIn` — the table of a group among quads.
* `Evaluator.yields_group`, `Evaluator.yields_groups` — evaluation is this function.
-/

namespace GraphQuery

/-! ## Runs that answer at once -/

/-- The run takes no time and has the result. -/
structure Run.Yields {α : Type} (a : Run α) (x : α) : Prop where
  outcome_eq : a.outcome = .ok x
  duration_eq : a.duration = 0

namespace Run

variable {α β : Type} {a : Run α} {x : α} {y : β}

theorem yields_pure (x : α) : (pure x : Run α).Yields x := ⟨rfl, rfl⟩

theorem yields_report (r : Report) : (report r).Yields () := ⟨rfl, rfl⟩

theorem Yields.bind {f : α → Run β} (ha : a.Yields x) (hf : (f x).Yields y) : (a >>= f).Yields y := by
  rw [bind_def, andThen_of_ok ha.outcome_eq]
  refine ⟨hf.outcome_eq, ?_⟩
  show a.duration + (f x).duration = 0
  rw [ha.duration_eq, hf.duration_eq]

theorem yields_mapM {xs : List α} {f : α → Run β} {g : α → β} (h : ∀ x ∈ xs, (f x).Yields (g x)) :
    (xs.mapM f).Yields (xs.map g) := by
  induction xs with
  | nil => exact yields_pure []
  | cons x xs ih =>
    rw [List.mapM_cons]
    have hRest := ih fun y hy => h y (List.mem_cons_of_mem x hy)
    exact (h x List.mem_cons_self).bind (hRest.bind (yields_pure _))

theorem yields_foldlM {xs : List α} {f : β → α → Run β} {g : β → α → β}
    (h : ∀ acc, ∀ x ∈ xs, (f acc x).Yields (g acc x)) (acc : β) :
    (xs.foldlM f acc).Yields (xs.foldl g acc) := by
  induction xs generalizing acc with
  | nil => exact yields_pure acc
  | cons x xs ih =>
    rw [List.foldlM_cons]
    have hRest := ih (fun acc y hy => h acc y (List.mem_cons_of_mem x hy)) (g acc x)
    exact (h acc x List.mem_cons_self).bind hRest

theorem Yields.within (h : a.Yields x) (limit : Nat) : (a.within limit).Yields x := by
  have hNow : a.duration ≤ limit := h.duration_eq ▸ Nat.zero_le limit
  unfold Run.within
  rw [if_pos hNow]
  exact h

theorem yields_together {xs : List β} {run : β → Run α} {result : β → α}
    (h : ∀ x ∈ xs, (run x).Yields (result x)) :
    (together (xs.map run)).Yields (xs.map fun x => .ok (result x)) where
  outcome_eq := by
    show Except.ok ((xs.map run).map outcome) = _
    rw [List.map_map]
    exact congrArg Except.ok (List.map_congr_left fun x hx => (h x hx).outcome_eq)
  duration_eq := by
    show ((xs.map run).map duration).foldl max 0 = 0
    rw [List.map_map]
    induction xs with
    | nil => rfl
    | cons x xs ih =>
      have hx : (duration ∘ run) x = 0 := (h x List.mem_cons_self).duration_eq
      rw [List.map_cons, List.foldl_cons, hx]
      exact ih fun y hy => h y (List.mem_cons_of_mem x hy)

end Run

/-! ## Local sources -/

namespace Source

mutual

/-- The graphs of a source, in the order of the members of federations. -/
def leaves : Source → List Graph
  | graph g => [g]
  | endpoint _ => []
  | broken _ => []
  | federation members _ => leavesOfAll members

/-- The graphs of several sources. -/
def leavesOfAll : List Source → List Graph
  | [] => []
  | s :: rest => s.leaves ++ leavesOfAll rest

end

mutual

/-- The source is made of graphs and of federations of graphs. -/
def IsLocal : Source → Prop
  | graph _ => True
  | endpoint _ => False
  | broken _ => False
  | federation members _ => AllLocal members

/-- All of the sources are local. -/
def AllLocal : List Source → Prop
  | [] => True
  | s :: rest => s.IsLocal ∧ AllLocal rest

end

/-- The quads of all graphs of a source. -/
def quads (s : Source) : List Quad := s.leaves.flatMap Graph.quads

end Source

/-- The tables of the members of a federation make up the table of all their quads. -/
theorem union_solutionsIn {α : Type} (p : Pattern) (xs : List α) (quads : α → List Quad) :
    Table.union (.ofVariables p.vars :: xs.map fun x => p.solutionsIn (quads x)) =
      p.solutionsIn (xs.flatMap quads) := by
  have hSchema : (Table.ofVariables p.vars).schema = p.vars := by
    rw [Table.schema_ofVariables, firsts_eq_self p.nodup_vars]
  rw [Table.union_of_schema, hSchema, Pattern.solutionsIn_eq, List.flatMap_cons,
    Table.rows_ofVariables, List.nil_append, List.flatMap_map, List.filterMap_flatMap]
  · congr 1
    exact List.flatMap_congr fun x _ => by rw [Pattern.solutionsIn_eq]
  · intro u hu
    rcases List.mem_cons.mp hu with rfl | hu
    · exact ⟨Table.wellFormed_ofVariables p.vars, rfl⟩
    · obtain ⟨x, _, rfl⟩ := List.mem_map.mp hu
      exact ⟨p.wellFormed_solutionsIn _, by rw [Pattern.solutionsIn_eq, hSchema]⟩

namespace Source

theorem yields_recoverFrom {policy : ErrorPolicy} {vs : List Variable} (tables : List Table)
    (index : Nat) : (recoverFrom policy vs index (tables.map .ok)).Yields tables := by
  induction tables generalizing index with
  | nil => exact Run.yields_pure []
  | cons t tables ih =>
    have hHead : (Service.recover policy ("federation member " ++ toString index) vs (.ok t)).Yields t :=
      Run.yields_pure t
    exact hHead.bind ((ih (index + 1)).bind (Run.yields_pure _))

theorem yields_gather (options : FederationOptions) (p : Pattern) {members : List Source}
    (h : ∀ s ∈ members, (s.solutions p).Yields (p.solutionsIn s.quads)) :
    (gather options p (members.map (solutions p))).Yields
      (p.solutionsIn (members.flatMap quads)) := by
  -- No member takes time or fails, so that neither the timeout nor the policy comes into play.
  have hTogether :
      (Run.together ((members.map (solutions p)).map (Run.within options.timeout))).Yields
        ((members.map fun s => p.solutionsIn s.quads).map .ok) := by
    rw [List.map_map, List.map_map]
    exact Run.yields_together fun s hs => (h s hs).within options.timeout
  rw [← union_solutionsIn]
  unfold gather
  exact (Run.yields_report _).bind
    (hTogether.bind ((yields_recoverFrom _ 0).bind (Run.yields_pure _)))

theorem solutionsOfAll_eq (p : Pattern) (members : List Source) :
    solutionsOfAll p members = members.map (solutions p) := by
  induction members with
  | nil => rfl
  | cons s members ih => rw [solutionsOfAll, ih, List.map_cons]

theorem leavesOfAll_eq (members : List Source) : leavesOfAll members = members.flatMap leaves := by
  induction members with
  | nil => rfl
  | cons s members ih => rw [leavesOfAll, ih, List.flatMap_cons]

theorem quads_graph (g : Graph) : (graph g).quads = g.quads := by
  rw [quads, leaves, List.flatMap_singleton]

theorem quads_federation (members : List Source) (options : FederationOptions) :
    (federation members options).quads = members.flatMap quads := by
  unfold quads
  rw [leaves, leavesOfAll_eq, List.flatMap_assoc]

mutual

/-- However graphs are nested in federations, a pattern is matched against the quads of all of
them. -/
theorem yields_solutions (p : Pattern) :
    ∀ s : Source, s.IsLocal → (s.solutions p).Yields (p.solutionsIn s.quads)
  | graph g, _ => by
    rw [solutions, quads_graph]
    exact Run.yields_pure _
  | endpoint _, h => h.elim
  | broken _, h => h.elim
  | federation members options, h => by
    rw [solutions, solutionsOfAll_eq, quads_federation]
    exact yields_gather options p (yields_solutions_of_mem p members h)

theorem yields_solutions_of_mem (p : Pattern) :
    ∀ members : List Source, AllLocal members →
      ∀ s ∈ members, (s.solutions p).Yields (p.solutionsIn s.quads)
  | [], _ => fun _ hs => nomatch hs
  | t :: members, h => fun s hs => by
    rcases List.mem_cons.mp hs with e | hs
    · exact e ▸ yields_solutions p t h.1
    · exact yields_solutions_of_mem p members h.2 s hs

end

end Source

/-! ## Tables of blocks -/

namespace Block

variable {α : Type}

/-- A table combined with the union of the tables of the alternatives of a block. -/
def tableOf (f : α → Table) (t : Table) (b : Block α) : Table :=
  t.combine (.union (b.items.map f)) b.combination

/-- The table of a sequence of blocks. -/
def tableOfAll (f : α → Table) (blocks : List (Block α)) : Table := blocks.foldl (tableOf f) .unit

theorem yields_evaluate {run : α → Run Table} {f : α → Table} {b : Block α}
    (h : ∀ x ∈ b.items, (run x).Yields (f x)) (t : Table) :
    (b.evaluate run t).Yields (tableOf f t b) :=
  (Run.yields_mapM h).bind (Run.yields_pure _)

theorem yields_evaluateAll {run : α → Run Table} {f : α → Table} {blocks : List (Block α)}
    (h : ∀ x ∈ blocks.flatMap items, (run x).Yields (f x)) :
    (evaluateAll run blocks).Yields (tableOfAll f blocks) :=
  Run.yields_foldlM
    (fun t b hb => yields_evaluate (fun x hx => h x (List.mem_flatMap.mpr ⟨b, hb, hx⟩)) t) _

variable [Linked α]

/-- No item is lost or moved when blocks are planned. -/
theorem flatMap_items_planAfter (subtracted : Bool) (xs : List α) :
    (planAfter subtracted xs).flatMap items = xs := by
  induction xs generalizing subtracted with
  | nil => rfl
  | cons x xs ih =>
    have hRest := ih (Linked.isMinus x)
    rw [planAfter]
    split
    · rename_i next blocks _ hBlocks
      rw [hBlocks, List.flatMap_cons] at hRest
      rw [List.flatMap_cons, List.cons_append, hRest]
    · rw [List.flatMap_cons, hRest, List.singleton_append]

theorem flatMap_items_plan (xs : List α) : (plan xs).flatMap items = xs :=
  flatMap_items_planAfter false xs

theorem mem_of_mem_plan {xs : List α} {b : Block α} {x : α} (hb : b ∈ plan xs) (hx : x ∈ b.items) :
    x ∈ xs :=
  flatMap_items_plan xs ▸ List.mem_flatMap.mpr ⟨b, hb, hx⟩

end Block

/-! ## Paths -/

/-- The table of a path among quads, whose inner nodes are named after a fingerprint. -/
def Path.walksIn (quads : List Quad) (fingerprint : String) (p : Path) : Table :=
  match p.compileWith fingerprint with
  | .error _ => .empty
  | .ok patterns =>
    (Block.tableOfAll (Pattern.solutionsIn quads) (Block.plan patterns)).removeColumns
      (Path.reservedVariables patterns)

theorem Source.yields_walks {s : Source} (hs : s.IsLocal) {fingerprint : String} {p : Path}
    {patterns : List Pattern} (h : p.compileWith fingerprint = .ok patterns) :
    (s.walks fingerprint p).Yields (p.walksIn s.quads fingerprint) := by
  unfold Source.walks Path.walksIn
  rw [h]
  exact (Block.yields_evaluateAll fun q _ => s.yields_solutions q hs).bind (Run.yields_pure _)

/-! ## Groups -/

/-- The table of an operand among quads. -/
def Operand.tableIn (quads : List Quad) : Operand → Table
  | pattern p => p.solutionsIn quads
  | path p => p.walksIn quads p.fingerprint
  | values vs => vs.toTable

namespace Group

/-- The running table after a phase. -/
def Phase.tableIn (quads : List Quad) (t : Table) : Phase → Table
  | combine block => block.tableOf (Operand.tableIn quads) t
  | extend b => t.extend b

/-- The sub-patterns of filters with their solutions. -/
def subPatternsIn (quads : List Quad) (filters : List Filter) : SubPatternResults :=
  (firsts (filters.flatMap Filter.subPatterns)).foldl
    (fun results p => results.insert p (p.solutionsIn quads)) .empty

/-- The table of a group among quads. -/
def tableIn (quads : List Quad) (g : Group) : Table :=
  (g.plan.foldl (Phase.tableIn quads) .unit).retain fun r =>
    g.filters.all fun f => f.keeps (subPatternsIn quads g.filters) r

end Group

theorem Member.Faultless.exists_fault?_eq_none {earlier : List Variable} {ms : List Member}
    (h : Faultless earlier ms) {m : Member} (hm : m ∈ ms) : ∃ vs, m.fault? vs = none := by
  induction ms generalizing earlier with
  | nil => cases hm
  | cons n ms ih =>
    rcases List.mem_cons.mp hm with rfl | hm
    · exact ⟨earlier, h.1⟩
    · exact ih h.2 hm

theorem Member.compile_of_fault? {p : Path} {vs : List Variable}
    (h : (operand (.path p)).fault? vs = none) : ∃ patterns, p.compile = .ok patterns := by
  cases hCompile : p.compile with
  | ok patterns => exact ⟨patterns, rfl⟩
  | error e => simp [fault?, hCompile] at h

theorem Group.compile_of_mem (g : Group) {p : Path} (h : .operand (.path p) ∈ g.members) :
    ∃ patterns, p.compile = .ok patterns := by
  obtain ⟨_, hFault⟩ := g.faultless.exists_fault?_eq_none h
  exact Member.compile_of_fault? hFault

/-- A block of the plan of members is a block of the plan of some run of operands. -/
theorem Group.exists_run_of_mem_phasesAfter {run : List Operand} {ms : List Member} {b : Block Operand}
    (hb : .combine b ∈ phasesAfter run ms) :
    ∃ run', (∀ o ∈ run', o ∈ run ∨ .operand o ∈ ms) ∧ b ∈ Block.plan run' := by
  have hRun : ∀ {run : List Operand}, Phase.combine b ∈ (Block.plan run).map .combine →
      b ∈ Block.plan run := by
    intro run h
    obtain ⟨b', hb', e⟩ := List.mem_map.mp h
    cases e
    exact hb'
  -- The run holds the operands since the last binding, which are planned when the next one comes.
  induction ms generalizing run with
  | nil => exact ⟨run, fun o ho => .inl ho, hRun hb⟩
  | cons m ms ih =>
    cases m with
    | operand o' =>
      obtain ⟨run', hRun', hb'⟩ := ih hb
      refine ⟨run', fun o ho => ?_, hb'⟩
      rcases hRun' o ho with h | h
      · rcases List.mem_append.mp h with h | h
        · exact .inl h
        · exact .inr (List.mem_singleton.mp h ▸ List.mem_cons_self)
      · exact .inr (List.mem_cons_of_mem _ h)
    | binding _ =>
      rcases List.mem_append.mp hb with h | h
      · exact ⟨run, fun o ho => .inl ho, hRun h⟩
      · rcases List.mem_cons.mp h with h | h
        · cases h
        · obtain ⟨run', hRun', hb'⟩ := ih h
          refine ⟨run', fun o ho => .inr (List.mem_cons_of_mem _ ?_), hb'⟩
          exact (hRun' o ho).resolve_left List.not_mem_nil
    | filter _ =>
      obtain ⟨run', hRun', hb'⟩ := ih hb
      exact ⟨run', fun o ho => (hRun' o ho).imp_right (List.mem_cons_of_mem _), hb'⟩

theorem Group.exists_run_of_mem_plan {g : Group} {b : Block Operand} (hb : .combine b ∈ g.plan) :
    ∃ run, (∀ o ∈ run, .operand o ∈ g.members) ∧ b ∈ Block.plan run := by
  obtain ⟨run, hRun, hb⟩ := exists_run_of_mem_phasesAfter hb
  exact ⟨run, fun o ho => (hRun o ho).resolve_left List.not_mem_nil, hb⟩

theorem Group.mem_of_mem_plan {g : Group} {b : Block Operand} (hb : .combine b ∈ g.plan)
    {o : Operand} (ho : o ∈ b.items) : .operand o ∈ g.members := by
  obtain ⟨run, hRun, hb⟩ := exists_run_of_mem_plan hb
  exact hRun o (Block.mem_of_mem_plan hb ho)

namespace Evaluator

variable {v : Evaluator} {g : Group}

theorem yields_operand (hv : v.source.IsLocal) {o : Operand} (ho : .operand o ∈ g.members) :
    (v.operand o).Yields (o.tableIn v.source.quads) := by
  cases o with
  | pattern p => exact v.source.yields_solutions p hv
  | path p =>
    obtain ⟨patterns, h⟩ := g.compile_of_mem ho
    exact Source.yields_walks hv h
  | values vs => exact Run.yields_pure _

theorem yields_phase (hv : v.source.IsLocal) {phase : Group.Phase} (h : phase ∈ g.plan) (t : Table) :
    (v.phase t phase).Yields (phase.tableIn v.source.quads t) := by
  cases phase with
  | combine b =>
    exact Block.yields_evaluate (fun o ho => yields_operand hv (Group.mem_of_mem_plan h ho)) t
  | extend b => exact Run.yields_pure _

theorem yields_phases (hv : v.source.IsLocal) (g : Group) :
    (g.plan.foldlM v.phase .unit).Yields
      (g.plan.foldl (Group.Phase.tableIn v.source.quads) .unit) :=
  Run.yields_foldlM (fun t _ h => yields_phase hv h t) _

theorem yields_subPatternResults (hv : v.source.IsLocal) (filters : List Filter) :
    (v.subPatternResults filters).Yields (Group.subPatternsIn v.source.quads filters) :=
  Run.yields_foldlM
    (fun results p _ => (v.source.yields_solutions p hv).bind
      (Run.yields_pure (results.insert p (p.solutionsIn v.source.quads)))) _

theorem yields_filtered (hv : v.source.IsLocal) (filters : List Filter) (t : Table) :
    (v.filtered filters t).Yields
      (t.retain fun r =>
        filters.all fun f => f.keeps (Group.subPatternsIn v.source.quads filters) r) := by
  refine (yields_subPatternResults hv filters).bind ?_
  dsimp only
  -- Whether the sub-patterns are reported makes no difference to the result.
  split
  · exact (Run.yields_report _).bind (Run.yields_pure _)
  · exact Run.yields_pure _

/-- A group without endpoint evaluates to its table among the quads of the source. -/
theorem yields_group (hv : v.source.IsLocal) (hg : g.service = none) :
    (v.group g).Yields (g.tableIn v.source.quads) := by
  unfold group
  rw [hg]
  exact (yields_phases hv g).bind
    ((yields_filtered hv g.filters _).bind ((Run.yields_report _).bind (Run.yields_pure _)))

theorem yields_groups (hv : v.source.IsLocal) {gs : List Group} (hgs : ∀ g ∈ gs, g.service = none) :
    (v.groups gs).Yields (Block.tableOfAll (Group.tableIn v.source.quads) (Block.plan gs)) :=
  Block.yields_evaluateAll fun g hg =>
    yields_group hv (hgs g (Block.flatMap_items_plan gs ▸ hg))

end Evaluator

end GraphQuery
