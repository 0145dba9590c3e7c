import GraphQuery.Proofs.Conjunction
import GraphQuery.Proofs.Similar

/-! # Existence in filters

Filters may ask whether a pattern has a match. While a group is evaluated, that is decided by the
quads, wherever in a filter the question stands.

* `Pattern.solution?_eq_some_iff_assignment` — the solutions of a pattern as assignments.
* `Pattern.Agrees` — a row agrees with some instance of a pattern among quads.
* `Filter.nodes`, `Filter.mem_subPatterns` — no node is overlooked when sub-patterns are collected.
* `Evaluator.outcome_group_existence` — how the nodes of the filters of a group are decided.
-/

namespace GraphQuery

namespace Pattern

variable {p : Pattern} {q : Quad} {quads : List Quad} {r : Row}

/-- A quad has a solution for each assignment that makes it an instance of the pattern. -/
theorem solution?_eq_some_iff_assignment :
    p.solution? q = some r ↔ ∃ σ, p.IsInstance σ q ∧ r = Row.ofAssignment p.vars σ := by
  rw [solution?_eq_some_iff]
  constructor
  · rintro ⟨places, hPlaces, hSolves⟩
    obtain ⟨σ, hσ⟩ := hSolves.exists_assignment
    refine ⟨σ, isInstance_iff.mpr ⟨places, hPlaces, hσ⟩, ?_⟩
    exact hSolves.unique (Row.solves_ofAssignment (mem_vars_of_places? hPlaces) hσ)
  · rintro ⟨σ, hInstance, rfl⟩
    obtain ⟨places, hPlaces, hσ⟩ := isInstance_iff.mp hInstance
    exact ⟨places, hPlaces, Row.solves_ofAssignment (mem_vars_of_places? hPlaces) hσ⟩

/-- Some quad is an instance of the pattern under an assignment that the row shares: it binds each
variable of the pattern that it has a column for to the assigned term. -/
def Agrees (quads : List Quad) (p : Pattern) (r : Row) : Prop :=
  ∃ q ∈ quads, ∃ σ, p.IsInstance σ q ∧ ∀ x ∈ p.vars, x ∈ r.vars → r.term? x = some (σ x)

/-- A row has a partner among the solutions of a pattern exactly if it agrees with an instance. -/
theorem hasPartner_solutionsIn : (p.solutionsIn quads).hasPartner r = true ↔ p.Agrees quads r := by
  -- The shared columns are the variables of the pattern, and a solution binds all of them.
  have hAgrees : ∀ σ, r.agreesOn (p.vars.filter r.hasColumn) (Row.ofAssignment p.vars σ) = true ↔
      ∀ x ∈ p.vars, x ∈ r.vars → r.term? x = some (σ x) := by
    intro σ
    simp only [Row.agreesOn_iff, List.mem_filter, Row.hasColumn_iff, and_imp]
    refine forall₂_congr fun x hx => imp_congr_right fun _ => ?_
    simp [Row.term?_ofAssignment, hx]
  rw [Table.hasPartner, solutionsIn_eq, List.any_eq_true]
  simp only [List.mem_filterMap, solution?_eq_some_iff_assignment]
  constructor
  · rintro ⟨s, ⟨q, hq, σ, hInstance, rfl⟩, hs⟩
    exact ⟨q, hq, σ, hInstance, (hAgrees σ).mp hs⟩
  · rintro ⟨q, hq, σ, hInstance, hr⟩
    exact ⟨_, ⟨q, hq, σ, hInstance, rfl⟩, (hAgrees σ).mpr hr⟩

/-- A column without value agrees with no term. -/
theorem not_agrees_of_noValue {x : Variable} (hx : x ∈ p.vars) (hCell : r.cell x = .noValue) :
    ¬ p.Agrees quads r := by
  rintro ⟨q, _, σ, _, h⟩
  have hColumn : x ∈ r.vars := by
    rw [← Row.hasColumn_iff, Row.hasColumn, hCell]
    rfl
  have hTerm := h x hx hColumn
  rw [Row.term?, hCell] at hTerm
  cases hTerm

end Pattern

/-! ## Nodes of filters -/

namespace Filter

/-- The filter and what its connectives apply to, at any depth. -/
def nodes : Filter → List Filter
  | and f g => and f g :: (f.nodes ++ g.nodes)
  | or f g => or f g :: (f.nodes ++ g.nodes)
  | not f => not f :: f.nodes
  | f => [f]

/-- The sub-patterns of a filter are those of its nodes. -/
theorem mem_subPatterns {f node : Filter} (h : node ∈ f.nodes) {p : Pattern}
    (hp : p ∈ node.subPatterns) : p ∈ f.subPatterns := by
  induction f with
  | and f g ihf ihg =>
    simp only [nodes, List.mem_cons, List.mem_append] at h
    rcases h with rfl | h | h
    · exact hp
    · exact List.mem_append_left _ (ihf h)
    · exact List.mem_append_right _ (ihg h)
  | or f g ihf ihg =>
    simp only [nodes, List.mem_cons, List.mem_append] at h
    rcases h with rfl | h | h
    · exact hp
    · exact List.mem_append_left _ (ihf h)
    · exact List.mem_append_right _ (ihg h)
  | not f ih =>
    simp only [nodes, List.mem_cons] at h
    rcases h with rfl | h
    · exact hp
    · exact ih h
  | _ =>
    simp only [nodes, List.mem_singleton] at h
    exact h ▸ hp

variable {results : SubPatternResults} {quads : List Quad} {p : SubPattern} {r : Row}

/-- Once a sub-pattern has been matched, a filter that asks for a match decides by the quads. -/
theorem keeps_hasMatch (h : results.table? p.pattern = some (p.pattern.solutionsIn quads)) :
    (hasMatch p).keeps results r = true ↔ p.pattern.Agrees quads r := by
  simp only [keeps, h, Option.any_some, Pattern.hasPartner_solutionsIn]

theorem keeps_hasNoMatch (h : results.table? p.pattern = some (p.pattern.solutionsIn quads)) :
    (hasNoMatch p).keeps results r = true ↔ ¬ p.pattern.Agrees quads r := by
  rw [← keeps_hasMatch (r := r) h, keeps, keeps, Bool.not_eq_true', Bool.not_eq_true]

end Filter

/-! ## Filters of groups -/

/-- The filters of a group are applied to the rows that its phases make. Wherever one of them asks
whether a pattern has a match, the pattern has been matched in the graph by then, and the answer is
whether the row agrees with an instance of the pattern. A row without value in a variable of the
pattern does not. -/
theorem Evaluator.outcome_group_existence {v : Evaluator} {graph : Graph} (hv : v.source = .graph graph)
    {g : Group} (hg : g.service = none) :
    ∃ (candidates : Table) (results : SubPatternResults),
      (g.plan.foldlM v.phase .unit).outcome = .ok candidates ∧
      (v.subPatternResults g.filters).outcome = .ok results ∧
      (v.group g).outcome =
        .ok (candidates.retain fun r => g.filters.all fun f => f.keeps results r) ∧
      ∀ f ∈ g.filters, ∀ p, .hasMatch p ∈ f.nodes ∨ .hasNoMatch p ∈ f.nodes →
        results.table? p.pattern = some (graph.solutions p.pattern) ∧
        ∀ r, ((Filter.hasMatch p).keeps results r = true ↔ p.pattern.Agrees graph.quads r) ∧
          ((Filter.hasNoMatch p).keeps results r = true ↔ ¬ p.pattern.Agrees graph.quads r) ∧
          ((∃ x ∈ p.pattern.vars, r.cell x = .noValue) →
            (Filter.hasMatch p).keeps results r = false ∧
              (Filter.hasNoMatch p).keeps results r = true) := by
  have hLocal : v.source.IsLocal := by
    rw [hv]
    trivial
  have hQuads : v.source.quads = graph.quads := by
    rw [hv, Source.quads_graph]
  have hGroup := (yields_group hLocal hg).outcome_eq
  have hPhases := (yields_phases hLocal g).outcome_eq
  have hResults := (yields_subPatternResults hLocal g.filters).outcome_eq
  rw [hQuads] at hGroup hPhases hResults
  refine ⟨_, _, hPhases, hResults, hGroup, fun f hf p hp => ?_⟩
  have hMem : p.pattern ∈ g.filters.flatMap Filter.subPatterns := by
    rw [List.mem_flatMap]
    refine ⟨f, hf, ?_⟩
    rcases hp with hp | hp
    · exact Filter.mem_subPatterns hp (List.mem_singleton_self _)
    · exact Filter.mem_subPatterns hp (List.mem_singleton_self _)
  have hTable : (Group.subPatternsIn graph.quads g.filters).table? p.pattern =
      some (p.pattern.solutionsIn graph.quads) := by
    rw [Group.table?_subPatternsIn, if_pos hMem]
  have hMatch := fun r => Filter.keeps_hasMatch (r := r) hTable
  have hNoMatch := fun r => Filter.keeps_hasNoMatch (r := r) hTable
  refine ⟨hTable, fun r => ⟨hMatch r, hNoMatch r, ?_⟩⟩
  rintro ⟨x, hx, hCell⟩
  have hNot : ¬ p.pattern.Agrees graph.quads r := Pattern.not_agrees_of_noValue hx hCell
  rw [← Bool.not_eq_true, hMatch, hNoMatch]
  exact ⟨hNot, hNot⟩

/-- Below two negations, of a row that agrees with a statement and of one without value. -/
theorem Evaluator.outcome_group_existence_gap :
    let node : Iri := Datatype.integer.iri
    let edge : Quad := ⟨none, .iri node, node, .simple "b", rfl⟩
    let p : SubPattern := ⟨⟨none, .term (.iri node), .var ⟨"p"⟩, .var ⟨"x"⟩, .plain, rfl, rfl, rfl⟩, rfl⟩
    let vs : Values := ⟨[(⟨"x"⟩, [some (.simple "b"), none])], by decide, by decide⟩
    let f : Filter := .or (.not (.not (.hasMatch p))) (.not (.hasNoMatch p))
    let g : Group := ⟨[.operand (.values vs), .filter f], .plain, none, by decide, rfl, trivial⟩
    let v : Evaluator := ⟨.graph (Graph.empty.insert edge), none, .empty⟩
    let bound := Row.empty.bind ⟨"x"⟩ (.simple "b")
    let gap := Row.empty.set ⟨"x"⟩ none
    ∃ (candidates : Table) (results : SubPatternResults), candidates.rows = [bound, gap] ∧
      (v.group g).outcome =
        .ok (candidates.retain fun r => g.filters.all fun f => f.keeps results r) ∧
      (Filter.hasMatch p).keeps results bound = true ∧
      (Filter.hasMatch p).keeps results gap = false ∧
      (Filter.hasNoMatch p).keeps results gap = true := by
  intro node edge p vs f g v bound gap
  have hSource : v.source = .graph (Graph.empty.insert edge) := rfl
  have hService : g.service = none := rfl
  obtain ⟨candidates, results, hPhases, _, hGroup, hNodes⟩ := outcome_group_existence hSource hService
  have hNode : Filter.hasMatch p ∈ f.nodes := by simp [f, Filter.nodes]
  obtain ⟨_, hDecided⟩ := hNodes f (List.mem_singleton_self f) p (.inl hNode)
  have hRows : candidates.rows = [bound, gap] := by
    have hTable : (g.plan.foldlM v.phase .unit).outcome = .ok ⟨[⟨"x"⟩], [bound, gap]⟩ := by
      decide +kernel
    rw [hTable] at hPhases
    cases hPhases
    rfl
  have hInstance : p.pattern.Agrees (Graph.empty.insert edge).quads bound := by
    refine ⟨edge, by decide, fun x => if x = ⟨"x"⟩ then .simple "b" else .iri node, ?_, ?_⟩
    · exact ⟨rfl, rfl, rfl, rfl⟩
    · decide +kernel
  have hGap := (hDecided gap).2.2 ⟨⟨"x"⟩, by decide, by decide +kernel⟩
  exact ⟨candidates, results, hRows, hGroup, (hDecided bound).1.mpr hInstance, hGap⟩

end GraphQuery
