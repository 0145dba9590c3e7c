import GraphQuery.Proofs.Similar
import Mathlib.Data.List.Nodup

/-! # Federations stand for one graph

Quads may be spread over the graphs of a federation. As long as each of them is in one place only,
nobody who asks can tell the federation from a single graph.

* `Source.Distributes` — each quad of a graph is in exactly one leaf of a source.
* `Source.Distributes.perm` — the leaves together hold the quads of the graph, in some order.
* `Evaluator.similar_groups_of_distributes` — the source answers like the graph.
-/

namespace GraphQuery

/-- The source is local, each quad of the graph is in exactly one of its leaves, and the leaves have
no other quads. -/
structure Source.Distributes (s : Source) (g : Graph) : Prop where
  isLocal : s.IsLocal
  countP_leaves : ∀ q ∈ g.quads, s.leaves.countP (·.contains q) = 1
  mem_quads : ∀ leaf ∈ s.leaves, ∀ q ∈ leaf.quads, q ∈ g.quads

theorem Graph.contains_iff {g : Graph} {q : Quad} : g.contains q = true ↔ q ∈ g.quads :=
  decide_eq_true_iff

theorem Graph.count_quads (g : Graph) (q : Quad) :
    g.quads.count q = if g.contains q then 1 else 0 := by
  split
  · rename_i hq
    exact List.count_eq_one_of_mem g.distinct (contains_iff.mp hq)
  · rename_i hq
    exact List.count_eq_zero_of_not_mem (mt contains_iff.mpr hq)

/-- A graph has a quad once or not at all, so that copies of a quad are in different graphs. -/
theorem Graph.count_flatMap_quads (leaves : List Graph) (q : Quad) :
    (leaves.flatMap quads).count q = leaves.countP (·.contains q) := by
  induction leaves with
  | nil => rfl
  | cons leaf leaves ih =>
    rw [List.flatMap_cons, List.count_append, ih, count_quads, List.countP_cons, Nat.add_comm]

theorem Source.Distributes.perm {s : Source} {g : Graph} (h : s.Distributes g) :
    s.quads.Perm g.quads := by
  -- Permutations are told by counting: once or not at all, on both sides.
  rw [List.perm_iff_count]
  intro q
  unfold quads
  rw [Graph.count_flatMap_quads, Graph.count_quads]
  split
  · rename_i hq
    exact h.countP_leaves q (Graph.contains_iff.mp hq)
  · rename_i hq
    rw [List.countP_eq_zero]
    intro leaf hLeaf hContains
    have hMem := h.mem_quads leaf hLeaf q (Graph.contains_iff.mp hContains)
    exact hq (Graph.contains_iff.mpr hMem)

theorem Evaluator.outcome_ask {v : Evaluator} {t : Table} {q : AskQuery}
    (h : (v.groups q.groups).outcome = .ok t) : (v.ask q).outcome = .ok !t.rows.isEmpty := by
  unfold ask
  rw [Run.outcome_bind, h]
  rfl

/-- Groups without endpoints have similar tables over a graph and over a source that distributes it,
whatever the federations in the source are allowed to wait for and to ignore. -/
theorem Evaluator.similar_groups_of_distributes {s : Source} {g : Graph} (h : s.Distributes g)
    (handler handler' : Option Handler) (options options' : QueryOptions) (q : AskQuery)
    (hGroups : ∀ group ∈ q.groups, group.service = none) :
    ∃ t u, ((Evaluator.mk s handler options).groups q.groups).outcome = .ok t ∧
      ((Evaluator.mk (.graph g) handler' options').groups q.groups).outcome = .ok u ∧
      t.Similar u ∧
      ∃ answer, ((Evaluator.mk s handler options).ask q).outcome = .ok answer ∧
        ((Evaluator.mk (.graph g) handler' options').ask q).outcome = .ok answer := by
  have hGraph : (Source.graph g).quads = g.quads := by
    rw [Source.quads, Source.leaves, List.flatMap_singleton]
  have hSource := (yields_groups (v := ⟨s, handler, options⟩) h.isLocal hGroups).outcome_eq
  have hSingle := (yields_groups (v := ⟨.graph g, handler', options'⟩) trivial hGroups).outcome_eq
  rw [hGraph] at hSingle
  have hSimilar := Block.similar_tableOfAll (Group.wellFormed_tableIn s.quads)
    (Group.similar_tableIn h.perm) (Block.plan q.groups)
  refine ⟨_, _, hSource, hSingle, hSimilar, _, outcome_ask hSource, ?_⟩
  rw [outcome_ask hSingle, hSimilar.perm.isEmpty_eq]

/-- Two statements are matched across a federation inside of a federation, beside an empty graph. -/
theorem Evaluator.similar_groups_of_distributes_nested :
    let node : Iri := Datatype.integer.iri
    let first : Quad := ⟨none, .iri node, node, .simple "a", rfl⟩
    let second : Quad := ⟨some node, .iri node, node, .simple "b", rfl⟩
    let g := Graph.empty.insertAll [second, first]
    let inner : Source := .federation [.graph .empty, .graph (Graph.empty.insert second)] .standard
    let s : Source := .federation [.graph (Graph.empty.insert first), inner] .standard
    let p : Pattern := ⟨none, .var ⟨"x"⟩, .var ⟨"p"⟩, .var ⟨"y"⟩, .plain, rfl, rfl, rfl⟩
    let q : Pattern := ⟨some (.var ⟨"g"⟩), .var ⟨"x"⟩, .var ⟨"p"⟩, .var ⟨"z"⟩, .plain, rfl, rfl, rfl⟩
    let group : Group := ⟨[.operand (.pattern p), .operand (.pattern q)], .plain, none,
      by decide, by decide, trivial⟩
    ∃ t u, ((Evaluator.mk s none .empty).groups [group]).outcome = .ok t ∧
      ((Evaluator.mk (.graph g) none .empty).groups [group]).outcome = .ok u ∧ t.Similar u := by
  intro node first second g inner s p q group
  have hDistributes : s.Distributes g :=
    { isLocal := ⟨trivial, ⟨trivial, trivial, trivial⟩, trivial⟩
      countP_leaves := by decide +kernel
      mem_quads := by decide +kernel }
  obtain ⟨t, u, hs, hg, hSimilar, _⟩ :=
    similar_groups_of_distributes hDistributes none none .empty .empty ⟨[group], []⟩
      (List.forall_mem_singleton.mpr rfl)
  exact ⟨t, u, hs, hg, hSimilar⟩

end GraphQuery
