import GraphQuery.Proofs.Assignment
import GraphQuery.Proofs.Local
import Mathlib.Data.List.Nodup

/-! # Conjunctions

Blocks that are joined one after the other make one choice of places for each block.

* `concatenations` — one list from each of several lists of lists, put one after the other.
* `Block.Alternatives`, `Block.plan_flatten` — how alternatives that are joined are planned.
* `Block.lists_tableOfAll`, `Block.schema_tableOfAll` — the table of such blocks.
* `Pattern.IsInstance` — a pattern that is a quad once its variables are replaced.
* `Evaluator.outcome_group_of_patterns` — a group of patterns evaluates to the assignments under
  which all of its patterns are quads, each of them once.
-/

namespace GraphQuery

/-! ## One choice for each block -/

section Concatenations

variable {β : Type}

/-- All ways to take one list from each list of lists, each way as one list. -/
def concatenations : List (List (List β)) → List (List β)
  | [] => [[]]
  | choices :: rest => choices.flatMap fun xs => (concatenations rest).map (xs ++ ·)

theorem foldl_concatenations (blocks : List (List (List β))) (acc : List (List β)) :
    blocks.foldl (fun acc choices => acc.flatMap fun xs => choices.map (xs ++ ·)) acc =
      acc.flatMap fun xs => (concatenations blocks).map (xs ++ ·) := by
  induction blocks generalizing acc with
  | nil => simp [concatenations]
  | cons choices blocks ih =>
    rw [List.foldl_cons, ih, List.flatMap_assoc]
    refine List.flatMap_congr fun xs _ => ?_
    rw [List.flatMap_map, concatenations, List.map_flatMap]
    refine List.flatMap_congr fun ys _ => ?_
    rw [List.map_map]
    exact List.map_congr_left fun zs _ => List.append_assoc xs ys zs

theorem mem_concatenations_cons {choices : List (List β)} {rest : List (List (List β))}
    {xs : List β} :
    xs ∈ concatenations (choices :: rest) ↔
      ∃ ys ∈ choices, ∃ zs ∈ concatenations rest, xs = ys ++ zs := by
  simp only [concatenations, List.mem_flatMap, List.mem_map, eq_comm]

/-- Choices of one length for each block can be told apart in their concatenation. -/
theorem nodup_concatenations {blocks : List (List (List β))}
    (hNodup : ∀ choices ∈ blocks, choices.Nodup)
    (hLength : ∀ choices ∈ blocks, ∀ xs ∈ choices, ∀ ys ∈ choices, xs.length = ys.length) :
    (concatenations blocks).Nodup := by
  induction blocks with
  | nil => exact List.nodup_singleton []
  | cons choices rest ih =>
    have hRest := ih (fun c hc => hNodup c (List.mem_cons_of_mem _ hc))
      fun c hc => hLength c (List.mem_cons_of_mem _ hc)
    rw [concatenations, List.nodup_flatMap]
    refine ⟨fun xs _ => hRest.map (List.append_right_injective xs), ?_⟩
    refine (hNodup choices List.mem_cons_self).imp_of_mem fun {xs ys} hxs hys hne => ?_
    intro zs hx hy
    -- Both splits of the joint list are at the same length, so they have the same first parts.
    obtain ⟨a, _, rfl⟩ := List.mem_map.mp hx
    obtain ⟨b, _, e⟩ := List.mem_map.mp hy
    have hSame := hLength choices List.mem_cons_self ys hys xs hxs
    exact hne (List.append_inj_left e hSame).symm

theorem flatten_map_singleton {α : Type} (f : α → β) (xs : List α) :
    (xs.map fun x => [f x]).flatten = xs.map f := by
  induction xs with
  | nil => rfl
  | cons x xs ih => rw [List.map_cons, List.flatten_cons, ih, List.map_cons, List.singleton_append]

end Concatenations

/-! ## Blocks that are joined -/

namespace Block

variable {α : Type}

/-- A sequence of items that are alternatives of each other, the last of which asks nothing of the
next item. -/
inductive Alternatives [Linked α] : List α → Prop
  | last {x : α} : Linked.isUnion x = false → Linked.isMinus x = false → Alternatives [x]
  | cons {x : α} {xs : List α} : Linked.isUnion x = true → Alternatives xs → Alternatives (x :: xs)

theorem planAfter_append [Linked α] {xs : List α} (h : Alternatives xs) (subtracted : Bool)
    (rest : List α) :
    ∃ x, xs.head? = some x ∧
      planAfter subtracted (xs ++ rest) = ⟨combinationOf subtracted x, xs⟩ :: planAfter false rest := by
  -- The last alternative draws nothing into its block and subtracts nothing, so the rest is planned
  -- as if it stood alone.
  induction h generalizing subtracted with
  | @last x hUnion hMinus =>
    refine ⟨x, rfl, ?_⟩
    rw [List.singleton_append, planAfter, hUnion, hMinus]
  | @cons x xs hUnion _ ih =>
    obtain ⟨y, _, hPlan⟩ := ih (Linked.isMinus x)
    refine ⟨x, rfl, ?_⟩
    rw [List.cons_append, planAfter, hUnion, hPlan]

/-- Required alternatives make one block each, to be joined. -/
theorem plan_flatten [Linked α] (xss : List (List α)) (h : ∀ xs ∈ xss, Alternatives xs)
    (hRequired : ∀ xs ∈ xss, ∀ x ∈ xs, Linked.isOptional x = false) :
    plan xss.flatten = xss.map fun xs => ⟨.join, xs⟩ := by
  induction xss with
  | nil => rfl
  | cons xs xss ih =>
    obtain ⟨x, hHead, hPlan⟩ := planAfter_append (h xs List.mem_cons_self) false xss.flatten
    have hx := hRequired xs List.mem_cons_self x (List.mem_of_mem_head? hHead)
    have hRest := ih (fun ys hys => h ys (List.mem_cons_of_mem xs hys))
      fun ys hys => hRequired ys (List.mem_cons_of_mem xs hys)
    rw [plan] at hRest
    rw [plan, List.flatten_cons, hPlan, hRest, combinationOf, hx]
    rfl

variable {f : α → Table} {choicesOf : α → List (List (Slot × Term))}

theorem foldl_join_lists {xss : List (List α)} (h : ∀ xs ∈ xss, ∀ x ∈ xs, (f x).Lists (choicesOf x))
    {t : Table} {acc : List (List (Slot × Term))} (ht : t.Lists acc) :
    ((xss.map fun xs => Block.mk .join xs).foldl (tableOf f) t).Lists
      ((xss.map (·.flatMap choicesOf)).foldl
        (fun acc choices => acc.flatMap fun places => choices.map (places ++ ·)) acc) := by
  induction xss generalizing t acc with
  | nil => exact ht
  | cons xs xss ih =>
    have hUnion := Table.lists_union (h xs List.mem_cons_self)
    exact ih (fun ys hys => h ys (List.mem_cons_of_mem xs hys)) (ht.join hUnion)

/-- The rows of joined blocks: for each block the places of one of its alternatives. -/
theorem lists_tableOfAll (xss : List (List α))
    (h : ∀ xs ∈ xss, ∀ x ∈ xs, (f x).Lists (choicesOf x)) :
    (tableOfAll f (xss.map fun xs => ⟨.join, xs⟩)).Lists
      (concatenations (xss.map (·.flatMap choicesOf))) := by
  have hLists := foldl_join_lists h Table.lists_unit
  rw [foldl_concatenations] at hLists
  simpa [tableOfAll] using hLists

theorem schema_tableOf_join {t : Table} (ht : t.WellFormed) {xs : List α}
    (h : ∀ x ∈ xs, (f x).WellFormed) {vs : List Variable} (hSchema : t.schema = firsts vs) :
    (tableOf f t ⟨.join, xs⟩).schema = firsts (vs ++ xs.flatMap fun x => (f x).schema) := by
  show (t.join (Table.union (xs.map f))).schema = _
  rw [Table.join_eq ht (Table.wellFormed_union _), Table.union_map_eq h, firsts_append]
  simp only [Table.jointVariables, Table.hasColumn, hSchema]
  congr 1
  refine List.filter_congr fun v _ => ?_
  simp [mem_firsts]

theorem schema_tableOfAll (xss : List (List α)) (h : ∀ xs ∈ xss, ∀ x ∈ xs, (f x).WellFormed) :
    (tableOfAll f (xss.map fun xs => ⟨.join, xs⟩)).schema =
      firsts (xss.flatten.flatMap fun x => (f x).schema) := by
  -- The running table has the distinct columns of the blocks so far.
  suffices hFold : ∀ (t : Table) (vs : List Variable), t.WellFormed → t.schema = firsts vs →
      ((xss.map fun xs => Block.mk .join xs).foldl (tableOf f) t).schema =
        firsts (vs ++ xss.flatten.flatMap fun x => (f x).schema) from
    hFold .unit [] Table.wellFormed_unit rfl
  induction xss with
  | nil => intro t vs _ hSchema; simpa using hSchema
  | cons xs xss ih =>
    intro t vs ht hSchema
    have hHead := schema_tableOf_join ht (h xs List.mem_cons_self) hSchema
    have hWell : (tableOf f t ⟨.join, xs⟩).WellFormed := Table.wellFormed_join t _
    rw [List.map_cons, List.foldl_cons,
      ih (fun ys hys => h ys (List.mem_cons_of_mem xs hys)) _ _ hWell hHead]
    simp

end Block

/-! ## Instances of patterns -/

/-- With its variables replaced the pattern is the quad: a quad of the default graph if the pattern
has no context, and otherwise a quad of the graph that its context names. -/
structure Pattern.IsInstance (σ : Variable → Term) (p : Pattern) (q : Quad) : Prop where
  context : p.context.map (Slot.instantiate σ) = q.graph.map .iri
  subject : p.subject.instantiate σ = q.subject
  predicate : p.predicate.instantiate σ = .iri q.predicate
  object : p.object.instantiate σ = q.object

namespace Pattern

variable {r : Row} {places : List (Slot × Term)} {σ : Variable → Term} {p : Pattern} {q : Quad}
  {ps : List Pattern} {quads : List Quad}

theorem forall_triplePlaces :
    (∀ x ∈ p.triplePlaces q, x.1.instantiate σ = x.2) ↔
      p.subject.instantiate σ = q.subject ∧ p.predicate.instantiate σ = .iri q.predicate ∧
        p.object.instantiate σ = q.object := by
  simp [triplePlaces]

theorem isInstance_iff :
    p.IsInstance σ q ↔
      ∃ places, p.places? q = some places ∧ ∀ x ∈ places, x.1.instantiate σ = x.2 := by
  constructor
  · rintro ⟨hContext, hSubject, hPredicate, hObject⟩
    have hTriple := forall_triplePlaces.mpr ⟨hSubject, hPredicate, hObject⟩
    cases hc : p.context with
    | none =>
      rw [hc] at hContext
      have hGraph : q.graph = none := Option.map_eq_none_iff.mp hContext.symm
      exact ⟨_, places?_eq_some_iff.mpr (.inl ⟨hc, hGraph, rfl⟩), hTriple⟩
    | some context =>
      rw [hc] at hContext
      obtain ⟨graph, hGraph, e⟩ := Option.map_eq_some_iff.mp hContext.symm
      refine ⟨_, places?_eq_some_iff.mpr (.inr ⟨context, graph, hc, hGraph, rfl⟩), ?_⟩
      exact List.forall_mem_cons.mpr ⟨e.symm, hTriple⟩
  · rintro ⟨places, hPlaces, h⟩
    rcases places?_eq_some_iff.mp hPlaces with ⟨hc, hg, rfl⟩ | ⟨context, graph, hc, hg, rfl⟩
    · obtain ⟨hSubject, hPredicate, hObject⟩ := forall_triplePlaces.mp h
      exact ⟨by rw [hc, hg]; rfl, hSubject, hPredicate, hObject⟩
    · obtain ⟨hContext, hTriple⟩ := List.forall_mem_cons.mp h
      obtain ⟨hSubject, hPredicate, hObject⟩ := forall_triplePlaces.mp hTriple
      exact ⟨by rw [hc, hg]; exact congrArg some hContext, hSubject, hPredicate, hObject⟩

theorem places?_injective {q' : Quad} (h : p.places? q = some places)
    (h' : p.places? q' = some places) : q = q' := by
  have hTriple : q.graph = q'.graph → p.triplePlaces q = p.triplePlaces q' → q = q' := by
    intro hGraph e
    cases q
    cases q'
    simp_all [triplePlaces]
  -- The places have all parts of the quad but its graph, which the context of the pattern tells.
  rcases places?_eq_some_iff.mp h with ⟨hc, hg, rfl⟩ | ⟨context, graph, hc, hg, rfl⟩
  · rcases places?_eq_some_iff.mp h' with ⟨_, hg', e⟩ | ⟨_, _, hc', _, _⟩
    · exact hTriple (hg.trans hg'.symm) e
    · simp [hc] at hc'
  · rcases places?_eq_some_iff.mp h' with ⟨hc', _, _⟩ | ⟨_, graph', hc', hg', e⟩
    · simp [hc] at hc'
    · obtain ⟨eHead, eRest⟩ := List.cons.inj e
      have hGraph : graph = graph' := by simpa using congrArg Prod.snd eHead
      exact hTriple (by rw [hg, hg', hGraph]) eRest

/-- The choices of quads that match patterns are the assignments that make the patterns quads. -/
theorem exists_concatenations_iff :
    (∀ p ∈ ps, ∃ q ∈ quads, p.IsInstance σ q) ↔
      ∃ places ∈ concatenations (ps.map fun p => quads.filterMap p.places?),
        ∀ x ∈ places, x.1.instantiate σ = x.2 := by
  induction ps with
  | nil => simp [concatenations]
  | cons p ps ih =>
    rw [List.forall_mem_cons, ih, List.map_cons]
    simp only [mem_concatenations_cons]
    constructor
    · rintro ⟨⟨q, hq, hInstance⟩, zs, hzs, hRest⟩
      obtain ⟨ys, hys, hHead⟩ := isInstance_iff.mp hInstance
      refine ⟨ys ++ zs, ⟨ys, List.mem_filterMap.mpr ⟨q, hq, hys⟩, zs, hzs, rfl⟩, fun x hx => ?_⟩
      exact (List.mem_append.mp hx).elim (hHead x) (hRest x)
    · rintro ⟨_, ⟨ys, hys, zs, hzs, rfl⟩, h⟩
      obtain ⟨q, hq, hPlaces⟩ := List.mem_filterMap.mp hys
      refine ⟨⟨q, hq, isInstance_iff.mpr ⟨ys, hPlaces, fun x hx => ?_⟩⟩, zs, hzs, fun x hx => ?_⟩
      · exact h x (List.mem_append_left _ hx)
      · exact h x (List.mem_append_right _ hx)

theorem map_fst_of_mem_concatenations
    (h : places ∈ concatenations (ps.map fun p => quads.filterMap p.places?)) :
    places.map (·.1) = ps.flatMap slots := by
  induction ps generalizing places with
  | nil => rw [List.mem_singleton.mp h]; rfl
  | cons p ps ih =>
    obtain ⟨ys, hys, zs, hzs, rfl⟩ := mem_concatenations_cons.mp h
    obtain ⟨q, _, hPlaces⟩ := List.mem_filterMap.mp hys
    rw [List.map_append, map_fst_places? hPlaces, ih hzs, List.flatMap_cons]

theorem nodup_concatenations_places? (hQuads : quads.Nodup) :
    (concatenations (ps.map fun p => quads.filterMap p.places?)).Nodup := by
  refine nodup_concatenations (fun choices h => ?_) fun choices h xs hxs ys hys => ?_
  · obtain ⟨p, _, rfl⟩ := List.mem_map.mp h
    exact hQuads.filterMap fun q q' _ hq hq' => places?_injective hq hq'
  · obtain ⟨p, _, rfl⟩ := List.mem_map.mp h
    obtain ⟨q, _, hq⟩ := List.mem_filterMap.mp hxs
    obtain ⟨q', _, hq'⟩ := List.mem_filterMap.mp hys
    have hSlots : xs.map (·.1) = ys.map (·.1) := (map_fst_places? hq).trans (map_fst_places? hq').symm
    simpa using congrArg List.length hSlots

/-- The table that patterns make when they are joined in order. -/
def conjunctionIn (quads : List Quad) (ps : List Pattern) : Table :=
  Block.tableOfAll (solutionsIn quads) (ps.map fun p => ⟨.join, [p]⟩)

theorem schema_conjunctionIn : (conjunctionIn quads ps).schema = firsts (ps.flatMap vars) := by
  have h := Block.schema_tableOfAll (f := solutionsIn quads) (ps.map fun p => [p])
    fun xs _ p _ => p.wellFormed_solutionsIn quads
  have hFlatten : (ps.map fun p => [p]).flatten = ps :=
    (flatten_map_singleton id ps).trans (List.map_id ps)
  rw [List.map_map, hFlatten] at h
  refine h.trans (congrArg firsts ?_)
  exact List.flatMap_congr fun p _ => by rw [solutionsIn_eq]

theorem lists_conjunctionIn :
    (conjunctionIn quads ps).Lists (concatenations (ps.map fun p => quads.filterMap p.places?)) := by
  have h := Block.lists_tableOfAll (f := solutionsIn quads) (ps.map fun p => [p])
    fun xs _ p _ => p.lists_solutionsIn quads
  rw [List.map_map, List.map_map] at h
  simpa [conjunctionIn, Function.comp_def] using h

theorem mem_vars_iff_of_mem_concatenations
    (h : places ∈ concatenations (ps.map fun p => quads.filterMap p.places?)) (v : Variable) :
    v ∈ firsts (ps.flatMap vars) ↔ ∃ t, (.var v, t) ∈ places := by
  have hSlot : (∃ t, (.var v, t) ∈ places) ↔ Slot.var v ∈ ps.flatMap slots := by
    rw [← map_fst_of_mem_concatenations h]
    simp
  rw [hSlot, mem_firsts, List.mem_flatMap, List.mem_flatMap]
  simp only [mem_vars_iff_mem_slots]

/-- All variables of the patterns are bound, so that nothing is left to be widened. -/
theorem rows_conjunctionIn :
    (conjunctionIn quads ps).rows =
      (concatenations (ps.map fun p => quads.filterMap p.places?)).filterMap solve? := by
  rw [lists_conjunctionIn.rows_eq]
  -- Every choice of quads has places for all variables.
  refine List.filterMap_congr fun places h => ?_
  cases hr : solve? places with
  | none => rfl
  | some r =>
    refine congrArg some (Row.widen_eq_self fun v hv => ?_)
    rw [schema_conjunctionIn, mem_vars_iff_of_mem_concatenations h] at hv
    exact ((solve?_eq_some_iff.mp hr).mem_vars v).mpr hv

theorem nodup_rows_conjunctionIn (hQuads : quads.Nodup) : (conjunctionIn quads ps).rows.Nodup := by
  rw [rows_conjunctionIn]
  -- Different choices of quads have different places, and the row gives the places away.
  refine List.pairwise_filterMap.mpr ?_
  refine (nodup_concatenations_places? hQuads).imp_of_mem fun {xs ys} hxs hys hne r hr s hs e => ?_
  subst e
  refine hne (eq_of_fits ?_ (solve?_eq_some_iff.mp hr).fits (solve?_eq_some_iff.mp hs).fits)
  rw [map_fst_of_mem_concatenations hxs, map_fst_of_mem_concatenations hys]

/-- The rows are the assignments under which every pattern is a quad. -/
theorem mem_rows_conjunctionIn :
    r ∈ (conjunctionIn quads ps).rows ↔
      ∃ σ, (∀ p ∈ ps, ∃ q ∈ quads, p.IsInstance σ q) ∧
        r = Row.ofAssignment (firsts (ps.flatMap vars)) σ := by
  rw [rows_conjunctionIn, List.mem_filterMap]
  constructor
  · rintro ⟨places, hPlaces, hr⟩
    have hr := solve?_eq_some_iff.mp hr
    obtain ⟨σ, hσ⟩ := hr.exists_assignment
    refine ⟨σ, exists_concatenations_iff.mpr ⟨places, hPlaces, hσ⟩, ?_⟩
    exact hr.unique (Row.solves_ofAssignment (mem_vars_iff_of_mem_concatenations hPlaces) hσ)
  · rintro ⟨σ, hInstances, rfl⟩
    obtain ⟨places, hPlaces, hσ⟩ := exists_concatenations_iff.mp hInstances
    refine ⟨places, hPlaces, solve?_eq_some_iff.mpr ?_⟩
    exact Row.solves_ofAssignment (mem_vars_iff_of_mem_concatenations hPlaces) hσ

end Pattern

/-! ## Groups of patterns -/

theorem Group.phasesAfter_operands (run os : List Operand) :
    phasesAfter run (os.map .operand) = (Block.plan (run ++ os)).map .combine := by
  induction os generalizing run with
  | nil => rw [List.append_nil]; rfl
  | cons o os ih =>
    rw [List.map_cons, phasesAfter, ih, List.append_assoc, List.singleton_append]

theorem Group.tableIn_of_patterns {quads : List Quad} {g : Group} {ps : List Pattern}
    (hg : g.members = ps.map fun p => .operand (.pattern p)) (hPlain : ∀ p ∈ ps, p.linking = .plain) :
    g.tableIn quads = Pattern.conjunctionIn quads ps := by
  -- Without links each pattern is a block of its own.
  have hPlan : g.plan = ps.map fun p => .combine ⟨.join, [.pattern p]⟩ := by
    have hOperands : g.members = (ps.map Operand.pattern).map .operand := by
      rw [hg, List.map_map]
      rfl
    have hBlocks := Block.plan_flatten (ps.map fun p => [Operand.pattern p])
      (fun xs hxs => by
        obtain ⟨p, hp, rfl⟩ := List.mem_map.mp hxs
        have hLinking : (Operand.pattern p).linking = .plain := hPlain p hp
        exact .last (congrArg Linking.isUnion hLinking) (congrArg Linking.isMinus hLinking))
      (fun xs hxs o ho => by
        obtain ⟨p, hp, rfl⟩ := List.mem_map.mp hxs
        rw [List.mem_singleton.mp ho]
        exact congrArg Linking.optional (hPlain p hp))
    rw [flatten_map_singleton] at hBlocks
    rw [plan, hOperands, phasesAfter_operands, List.nil_append, hBlocks, List.map_map, List.map_map]
    rfl
  have hFilters : g.filters = [] := by
    rw [filters, hg, List.filterMap_map]
    exact List.filterMap_eq_nil_iff.mpr fun p _ => rfl
  unfold tableIn Pattern.conjunctionIn Block.tableOfAll
  rw [hPlan, hFilters, List.foldl_map, List.foldl_map]
  simp [Table.retain]
  rfl

theorem Graph.mem_quads_insertAll {g : Graph} {inserted : List Quad} {q : Quad} :
    q ∈ (g.insertAll inserted).quads ↔ q ∈ g.quads ∨ q ∈ inserted := by
  have hFold : ∀ g : Graph, (g.insertAll inserted).quads = inserted.foldl addNew g.quads := by
    induction inserted with
    | nil => exact fun g => rfl
    | cons r inserted ih => exact fun g => ih (g.insert r)
  rw [hFold, mem_foldl_addNew]

theorem Group.vars_of_patterns {g : Group} {ps : List Pattern}
    (hg : g.members = ps.map fun p => .operand (.pattern p)) :
    g.vars = firsts (ps.flatMap Pattern.vars) := by
  rw [vars, hg, List.flatMap_map]
  rfl

/-- A group of patterns that ask nothing of each other evaluates to the assignments to its variables
under which every pattern is a quad. Quads that were inserted twice do not count twice, and however
many quads agree with an assignment, it has one row. -/
theorem Evaluator.outcome_group_of_patterns {v : Evaluator} {inserted : List Quad}
    (hv : v.source = .graph (Graph.empty.insertAll inserted)) {g : Group} {ps : List Pattern}
    (hg : g.members = ps.map fun p => .operand (.pattern p)) (hService : g.service = none)
    (hPlain : ∀ p ∈ ps, p.linking = .plain) :
    ∃ t, (v.group g).outcome = .ok t ∧ t.schema = g.vars ∧
      (∀ r ∈ t.rows, ∃ σ, (∀ p ∈ ps, ∃ q ∈ inserted, p.IsInstance σ q) ∧
        r = Row.ofAssignment g.vars σ) ∧
      ∀ σ, (∀ p ∈ ps, ∃ q ∈ inserted, p.IsInstance σ q) →
        t.rows.count (Row.ofAssignment g.vars σ) = 1 := by
  have hLocal : v.source.IsLocal := by
    rw [hv]
    trivial
  have hQuads : v.source.quads = (Graph.empty.insertAll inserted).quads := by
    rw [hv, Source.quads, Source.leaves, List.flatMap_singleton]
  have hInserted : ∀ σ : Variable → Term,
      (∀ p ∈ ps, ∃ q ∈ inserted, p.IsInstance σ q) ↔
        ∀ p ∈ ps, ∃ q ∈ v.source.quads, p.IsInstance σ q := fun σ => by
    simp only [hQuads, Graph.mem_quads_insertAll, Graph.empty, List.not_mem_nil, false_or]
  have hOutcome := (yields_group hLocal hService).outcome_eq
  rw [Group.tableIn_of_patterns hg hPlain] at hOutcome
  refine ⟨_, hOutcome, ?_, fun r hr => ?_, fun σ hσ => ?_⟩
  · rw [Pattern.schema_conjunctionIn, Group.vars_of_patterns hg]
  · obtain ⟨σ, hσ, hr⟩ := Pattern.mem_rows_conjunctionIn.mp hr
    exact ⟨σ, (hInserted σ).mpr hσ, Group.vars_of_patterns hg ▸ hr⟩
  · have hNodup : v.source.quads.Nodup := hQuads ▸ (Graph.empty.insertAll inserted).distinct
    refine List.count_eq_one_of_mem (Pattern.nodup_rows_conjunctionIn hNodup) ?_
    exact Pattern.mem_rows_conjunctionIn.mpr
      ⟨σ, (hInserted σ).mp hσ, by rw [Group.vars_of_patterns hg]⟩

/-- A loop that was inserted twice and a statement about it in a named graph make one row. -/
theorem Evaluator.outcome_group_of_patterns_loop :
    let node : Iri := Datatype.integer.iri
    let loop : Quad := ⟨none, .iri node, node, .iri node, rfl⟩
    let named : Quad := ⟨some node, .iri node, node, .simple "y", rfl⟩
    let p : Pattern := ⟨none, .var ⟨"x"⟩, .var ⟨"p"⟩, .var ⟨"x"⟩, .plain, rfl, rfl, rfl⟩
    let q : Pattern := ⟨some (.var ⟨"g"⟩), .var ⟨"x"⟩, .var ⟨"p"⟩, .var ⟨"y"⟩, .plain, rfl, rfl, rfl⟩
    let g : Group := ⟨[.operand (.pattern p), .operand (.pattern q)], .plain, none,
      by decide, by decide, trivial⟩
    let v : Evaluator := ⟨.graph (Graph.empty.insertAll [loop, named, loop]), none, .empty⟩
    let σ : Variable → Term := fun x => if x = ⟨"y"⟩ then .simple "y" else .iri node
    ∃ t, (v.group g).outcome = .ok t ∧ t.rows.count (Row.ofAssignment g.vars σ) = 1 := by
  intro node loop named p q g v σ
  have hLoop : p.IsInstance σ loop := ⟨rfl, rfl, rfl, rfl⟩
  have hNamed : q.IsInstance σ named := ⟨rfl, rfl, rfl, rfl⟩
  have hMembers : g.members = [p, q].map fun p => .operand (.pattern p) := rfl
  obtain ⟨t, ht, _, _, hCount⟩ := outcome_group_of_patterns (v := v) rfl hMembers rfl
    (List.forall_mem_cons.mpr ⟨rfl, List.forall_mem_singleton.mpr rfl⟩)
  refine ⟨t, ht, hCount σ ?_⟩
  exact List.forall_mem_cons.mpr ⟨⟨loop, List.mem_cons_self, hLoop⟩,
    List.forall_mem_singleton.mpr ⟨named, by simp, hNamed⟩⟩

end GraphQuery
