import GraphQuery.Graph
import GraphQuery.Proofs.Table

/-! # Matching

A pattern and a quad make a list of places, each a slot beside the term that it has to be.

* `Row.Solves` — the row binds the variables of the places and nothing else, each to its term.
* `solve?_eq_some_iff` — matching finds the row that solves the places, if there is one.
* `solve?_append` — places are solved together when their rows are compatible.
* `Table.Lists` — the rows of a table are the solutions of some lists of places, in order. Joins
  and unions of such tables are such tables again.
-/

namespace GraphQuery

/-- The slot stands for the term in the row. -/
def Slot.Fits (r : Row) : Slot → Term → Prop
  | .term expected, t => expected = t
  | .var v, t => r.term? v = some t

/-- The row binds the variables of the places and nothing else, and every slot stands for the term
beside it. -/
structure Row.Solves (r : Row) (places : List (Slot × Term)) : Prop where
  mem_vars : ∀ v, v ∈ r.vars ↔ ∃ t, (.var v, t) ∈ places
  fits : ∀ s t, (s, t) ∈ places → s.Fits r t

/-- The row of places that are matched one after the other. -/
def solve? (places : List (Slot × Term)) : Option Row :=
  places.foldlM (fun r place => place.1.bindTo? place.2 r) Row.empty

variable {r s : Row} {places others : List (Slot × Term)}

/-! ## Solutions of places -/

namespace Row.Solves

theorem term?_of_mem (h : r.Solves places) {v : Variable} {t : Term} (hMem : (.var v, t) ∈ places) :
    r.term? v = some t := h.fits _ _ hMem

theorem exists_term? (h : r.Solves places) {v : Variable} (hv : v ∈ r.vars) :
    ∃ t, (.var v, t) ∈ places ∧ r.term? v = some t := by
  obtain ⟨t, ht⟩ := (h.mem_vars v).mp hv
  exact ⟨t, ht, h.term?_of_mem ht⟩

/-- Only the set of the places counts. -/
theorem congr (h : r.Solves places) (hMem : ∀ x, x ∈ places ↔ x ∈ others) : r.Solves others where
  mem_vars v := by simp only [h.mem_vars v, hMem]
  fits s t hst := h.fits s t ((hMem _).mpr hst)

theorem unique (hr : r.Solves places) (hs : s.Solves places) : r = s := by
  refine Row.ext_vars (fun v => (hr.mem_vars v).trans (hs.mem_vars v).symm) fun v => ?_
  by_cases hv : v ∈ r.vars
  · obtain ⟨t, ht, hTerm⟩ := hr.exists_term? hv
    rw [hTerm, hs.term?_of_mem ht]
  · have hv' : v ∉ s.vars := fun h => hv ((hr.mem_vars v).mpr ((hs.mem_vars v).mp h))
    rw [Row.term?_eq_none hv, Row.term?_eq_none hv']

theorem empty : Row.empty.Solves [] := ⟨fun v => by simp, fun s t h => nomatch h⟩

/-- A slot that fits already adds nothing. -/
theorem snoc (h : r.Solves places) {slot : Slot} {t : Term} (hFits : slot.Fits r t) :
    r.Solves (places ++ [(slot, t)]) where
  mem_vars v := by
    rw [h.mem_vars v]
    constructor
    · rintro ⟨u, hu⟩
      exact ⟨u, List.mem_append_left _ hu⟩
    · rintro ⟨u, hu⟩
      rcases List.mem_append.mp hu with hu | hu
      · exact ⟨u, hu⟩
      · cases List.mem_singleton.mp hu
        exact (h.mem_vars v).mp (Row.mem_vars_of_term? hFits)
  fits s u hu := by
    rcases List.mem_append.mp hu with hu | hu
    · exact h.fits s u hu
    · cases List.mem_singleton.mp hu
      exact hFits

/-- A variable that is not bound yet is bound to its term. -/
theorem snoc_bind (h : r.Solves places) {v : Variable} (t : Term) (hv : r.term? v = none) :
    (r.bind v t).Solves (places ++ [(.var v, t)]) where
  mem_vars w := by
    simp only [Row.bind, Row.mem_vars_set, h.mem_vars w, List.mem_append, List.mem_singleton,
      Prod.mk.injEq, Slot.var.injEq, exists_or, exists_and_left, exists_eq, and_true]
    exact or_comm
  fits s u hu := by
    rcases List.mem_append.mp hu with hu | hu
    · cases s with
      | term expected => exact h.fits _ _ hu
      | var w =>
        have hw := h.term?_of_mem hu
        -- An earlier place of the variable would have bound it.
        have hne : w ≠ v := by
          rintro rfl
          rw [hv] at hw
          cases hw
        simpa [Slot.Fits, Row.bind, hne] using hw
    · cases List.mem_singleton.mp hu
      simp [Slot.Fits, Row.bind]

end Row.Solves

/-- Matching goes on from a row that solves the places so far. The induction is on the places still
to come, and the row stands for those behind. -/
theorem foldlM_bindTo?_eq_some_iff (hr : r.Solves places) (rest : List (Slot × Term)) :
    rest.foldlM (fun r place => place.1.bindTo? place.2 r) r = some s ↔
      s.Solves (places ++ rest) := by
  induction rest generalizing r places with
  | nil =>
    rw [List.append_nil]
    constructor
    · rintro ⟨⟩
      exact hr
    · intro hs
      exact congrArg some (hr.unique hs)
  | cons place rest ih =>
    obtain ⟨slot, t⟩ := place
    have hNext : ∀ q : Row, q.Solves (places ++ [(slot, t)]) →
        (rest.foldlM (fun r place => place.1.bindTo? place.2 r) q = some s ↔
          s.Solves (places ++ (slot, t) :: rest)) := fun q hq => by
      rw [ih hq, List.append_assoc, List.singleton_append]
    have hMem : (slot, t) ∈ places ++ (slot, t) :: rest := by simp
    rw [List.foldlM_cons]
    cases slot with
    | term expected =>
      by_cases e : expected = t
      · simpa [Slot.bindTo?, e] using hNext r (hr.snoc e)
      · simp only [Slot.bindTo?, if_neg e]
        exact ⟨(fun h => nomatch h), fun hs => absurd (hs.fits _ _ hMem) e⟩
    | var v =>
      cases hv : r.term? v with
      | none => simpa [Slot.bindTo?, hv] using hNext _ (hr.snoc_bind t hv)
      | some bound =>
        by_cases e : bound = t
        · simpa [Slot.bindTo?, hv, e] using hNext r (hr.snoc (hv.trans (congrArg some e)))
        · simp only [Slot.bindTo?, hv, if_neg e]
          refine ⟨(fun h => nomatch h), fun hs => absurd ?_ e⟩
          -- The earlier place of the variable is a place of the solution as well.
          obtain ⟨u, hu, hTerm⟩ := hr.exists_term? (Row.mem_vars_of_term? hv)
          have hBound : some u = some bound := hTerm.symm.trans hv
          have hEarlier := hs.term?_of_mem (List.mem_append_left _ hu)
          have hNow := hs.term?_of_mem hMem
          rw [hEarlier, hBound] at hNow
          exact Option.some.inj hNow

theorem solve?_eq_some_iff : solve? places = some r ↔ r.Solves places :=
  foldlM_bindTo?_eq_some_iff Row.Solves.empty places

theorem solve?_isSome_of_append (h : (solve? (places ++ others)).isSome) :
    (solve? places).isSome := by
  unfold solve? at h ⊢
  rw [List.foldlM_append] at h
  cases hr : places.foldlM (fun r place => place.1.bindTo? place.2 r) Row.empty with
  | none =>
    rw [hr] at h
    cases h
  | some r => rfl

theorem solve?_congr (h : ∀ x, x ∈ places ↔ x ∈ others) : solve? places = solve? others := by
  apply Option.ext
  intro r
  rw [solve?_eq_some_iff, solve?_eq_some_iff]
  exact ⟨fun hr => hr.congr h, fun hr => hr.congr fun x => (h x).symm⟩

theorem Row.Solves.merge (hr : r.Solves places) (hs : s.Solves others)
    (h : r.isCompatible s = true) : (r.merge s).Solves (places ++ others) where
  mem_vars v := by
    simp only [Row.mem_vars_merge, hr.mem_vars v, hs.mem_vars v, List.mem_append, exists_or]
  fits slot t hMem := by
    cases slot with
    | term expected =>
      rcases List.mem_append.mp hMem with hMem | hMem
      · exact hr.fits _ _ hMem
      · exact hs.fits _ _ hMem
    | var v =>
      show (r.merge s).term? v = some t
      rw [Row.term?_merge]
      -- The first row's terms count, and where the second row has one, too, it is the same.
      rcases List.mem_append.mp hMem with hMem | hMem
      · rw [hr.term?_of_mem hMem]
        rfl
      · have ht := hs.term?_of_mem hMem
        cases hu : r.term? v with
        | none => exact ht
        | some u => exact congrArg some (Row.isCompatible_iff.mp h v u t hu ht)

theorem Row.Solves.isCompatible {m : Row} (hr : r.Solves places) (hs : s.Solves others)
    (hm : m.Solves (places ++ others)) : r.isCompatible s = true := by
  rw [Row.isCompatible_iff]
  intro v a b ha hb
  obtain ⟨t, ht, hTerm⟩ := hr.exists_term? (Row.mem_vars_of_term? ha)
  obtain ⟨u, hu, hTerm'⟩ := hs.exists_term? (Row.mem_vars_of_term? hb)
  have hSame : some t = some u := by
    rw [← hm.term?_of_mem (List.mem_append_left _ ht), hm.term?_of_mem (List.mem_append_right _ hu)]
  exact Option.some.inj (ha.symm.trans (hTerm.trans (hSame.trans (hTerm'.symm.trans hb))))

/-- Places are solved together exactly when they are solved on their own by compatible rows. -/
theorem solve?_append (places others : List (Slot × Term)) :
    solve? (places ++ others) =
      (solve? places).bind fun r => (solve? others).bind fun s =>
        if r.isCompatible s then some (r.merge s) else none := by
  -- A part that cannot be solved keeps the whole from being solved. For the second part this is
  -- seen with the parts the other way round.
  have hSwap : solve? (places ++ others) = solve? (others ++ places) :=
    solve?_congr fun x => by simp only [List.mem_append, or_comm]
  cases hr : solve? places with
  | none =>
    cases h : solve? (places ++ others) with
    | none => rfl
    | some m =>
      have := solve?_isSome_of_append (Option.isSome_of_mem h)
      simp [hr] at this
  | some r =>
    cases hs : solve? others with
    | none =>
      cases h : solve? (places ++ others) with
      | none => rfl
      | some m =>
        have := solve?_isSome_of_append (Option.isSome_of_mem (hSwap ▸ h))
        simp [hs] at this
    | some s =>
      have hr := solve?_eq_some_iff.mp hr
      have hs := solve?_eq_some_iff.mp hs
      simp only [Option.bind_some]
      split
      · rename_i hc
        exact solve?_eq_some_iff.mpr (hr.merge hs hc)
      · rename_i hc
        cases h : solve? (places ++ others) with
        | none => rfl
        | some m => exact absurd (hr.isCompatible hs (solve?_eq_some_iff.mp h)) hc

/-! ## Tables of solutions -/

/-- The rows of the table are the solutions of lists of places, in order, widened to a schema that
has the variables of all places. -/
structure Table.Lists (t : Table) (choices : List (List (Slot × Term))) : Prop where
  nodup_schema : t.schema.Nodup
  mem_schema : ∀ places ∈ choices, ∀ v u, (.var v, u) ∈ places → v ∈ t.schema
  rows_eq : t.rows = choices.filterMap fun places => (solve? places).map (·.widen t.schema)

namespace Table

variable {t u : Table} {choices more : List (List (Slot × Term))}

theorem Lists.wellFormed (h : t.Lists choices) : t.WellFormed where
  nodup_schema := h.nodup_schema
  mem_vars r hr v := by
    rw [h.rows_eq] at hr
    obtain ⟨places, hMem, hr⟩ := List.mem_filterMap.mp hr
    obtain ⟨s, hs, rfl⟩ := Option.map_eq_some_iff.mp hr
    rw [Row.mem_vars_widen, or_iff_right_iff_imp]
    intro hv
    obtain ⟨u, hu⟩ := ((solve?_eq_some_iff.mp hs).mem_vars v).mp hv
    exact h.mem_schema places hMem v u hu

theorem lists_unit : unit.Lists [[]] :=
  ⟨List.nodup_nil, fun places h v u hu => by simp_all, rfl⟩

/-- The places of a joint row are those of its two parts. -/
theorem Lists.join (ht : t.Lists choices) (hu : u.Lists more) :
    (t.join u).Lists (choices.flatMap fun places => more.map (places ++ ·)) := by
  rw [join_eq ht.wellFormed hu.wellFormed]
  refine ⟨nodup_jointVariables ht.nodup_schema hu.nodup_schema, ?_, ?_⟩
  · intro joint hJoint v x hx
    obtain ⟨places, hPlaces, hJoint⟩ := List.mem_flatMap.mp hJoint
    obtain ⟨others, hOthers, rfl⟩ := List.mem_map.mp hJoint
    rcases List.mem_append.mp hx with hx | hx
    · exact mem_jointVariables.mpr (.inl (ht.mem_schema places hPlaces v x hx))
    · exact mem_jointVariables.mpr (.inr (hu.mem_schema others hOthers v x hx))
  · show t.rows.flatMap u.partners = _
    rw [ht.rows_eq, List.filterMap_flatMap, List.filterMap_eq_flatMap_toList, List.flatMap_assoc]
    -- For each list of places of the first table: what its solution makes of the second table.
    refine List.flatMap_congr fun places _ => ?_
    rw [List.filterMap_map]
    cases hr : solve? places with
    | none => simp [solve?_append, hr]
    | some r =>
      simp only [Option.map_some, Option.toList_some, List.flatMap_singleton, partners, hu.rows_eq,
        List.filter_filterMap, List.map_filterMap]
      refine List.filterMap_congr fun others _ => ?_
      rw [Function.comp_apply, solve?_append, hr]
      cases hs : solve? others with
      | none => rfl
      | some s =>
        simp only [Option.map_some, Option.bind_some, Option.filter_some, Row.isCompatible_widen]
        split
        · simp only [Option.map_some, Row.merge_widen fun v => mem_jointVariables]
        · rfl

/-- The rows of a union are the solutions for all its tables. -/
theorem lists_union {α : Type} {xs : List α} {tableOf : α → Table}
    {choicesOf : α → List (List (Slot × Term))} (h : ∀ x ∈ xs, (tableOf x).Lists (choicesOf x)) :
    (union (xs.map tableOf)).Lists (xs.flatMap choicesOf) := by
  have hSchema : ∀ x ∈ xs, ∀ v ∈ (tableOf x).schema, v ∈ xs.flatMap fun x => (tableOf x).schema :=
    fun x hx v hv => List.mem_flatMap.mpr ⟨x, hx, hv⟩
  rw [union_map_eq fun x hx => (h x hx).wellFormed]
  refine ⟨nodup_firsts _, ?_, ?_⟩
  · intro places hPlaces v u hu
    obtain ⟨x, hx, hPlaces⟩ := List.mem_flatMap.mp hPlaces
    exact mem_firsts.mpr (hSchema x hx v ((h x hx).mem_schema places hPlaces v u hu))
  · dsimp only
    rw [List.filterMap_flatMap]
    -- Widening to the schema of one table first makes no difference to widening to that of all.
    refine List.flatMap_congr fun x hx => ?_
    rw [(h x hx).rows_eq, List.map_filterMap]
    refine List.filterMap_congr fun places _ => ?_
    rw [Option.map_map]
    congr 1
    funext r
    rw [Function.comp_apply, Row.widen_widen (hSchema x hx)]
    exact Row.widen_congr fun v => mem_firsts.symm

end Table

/-! ## Solutions of patterns -/

/-- The places of subject, predicate and object. -/
def Pattern.triplePlaces (p : Pattern) (q : Quad) : List (Slot × Term) :=
  [(p.subject, q.subject), (p.predicate, .iri q.predicate), (p.object, q.object)]

theorem places?_eq_some_iff {p : Pattern} {q : Quad} :
    p.places? q = some places ↔
      (p.context = none ∧ q.graph = none ∧ places = p.triplePlaces q) ∨
        ∃ context graph, p.context = some context ∧ q.graph = some graph ∧
          places = (context, .iri graph) :: p.triplePlaces q := by
  unfold Pattern.places?
  cases p.context <;> cases q.graph <;> simp [Pattern.triplePlaces, eq_comm]

theorem map_fst_places? {p : Pattern} {q : Quad} (h : p.places? q = some places) :
    places.map (·.1) = p.slots := by
  unfold Pattern.slots
  rcases places?_eq_some_iff.mp h with ⟨hContext, _, rfl⟩ | ⟨context, graph, hContext, _, rfl⟩
  · rw [hContext]
    rfl
  · rw [hContext]
    rfl

/-- The solutions of a pattern among quads. -/
def Pattern.solutionsIn (quads : List Quad) (p : Pattern) : Table :=
  .ofRows p.vars (quads.filterMap p.solution?)

namespace Pattern

variable {p : Pattern} {q : Quad} {quads : List Quad}

theorem mem_vars_iff_mem_slots {v : Variable} : v ∈ p.vars ↔ Slot.var v ∈ p.slots := by
  rw [vars, mem_firsts, List.mem_filterMap]
  constructor
  · rintro ⟨slot, hSlot, hv⟩
    cases slot with
    | var w => cases hv; exact hSlot
    | term t => cases hv
  · exact fun hSlot => ⟨_, hSlot, rfl⟩

theorem mem_vars_of_places? (h : p.places? q = some places) (v : Variable) :
    v ∈ p.vars ↔ ∃ t, (.var v, t) ∈ places := by
  rw [mem_vars_iff_mem_slots, ← map_fst_places? h]
  simp

theorem solution?_eq (p : Pattern) (q : Quad) : p.solution? q = (p.places? q).bind solve? := rfl

theorem solution?_eq_some_iff :
    p.solution? q = some r ↔ ∃ places, p.places? q = some places ∧ r.Solves places := by
  rw [solution?_eq, Option.bind_eq_some_iff]
  simp only [solve?_eq_some_iff]

theorem mem_vars_of_solution? (h : p.solution? q = some r) (v : Variable) : v ∈ r.vars ↔ v ∈ p.vars := by
  obtain ⟨places, hPlaces, hr⟩ := solution?_eq_some_iff.mp h
  rw [hr.mem_vars, mem_vars_of_places? hPlaces]

theorem nodup_vars (p : Pattern) : p.vars.Nodup := nodup_firsts _

theorem solutionsIn_eq (quads : List Quad) (p : Pattern) :
    p.solutionsIn quads = ⟨p.vars, quads.filterMap p.solution?⟩ := by
  refine Table.ofRows_of_exact p.nodup_vars fun r hr => ?_
  obtain ⟨q, _, hq⟩ := List.mem_filterMap.mp hr
  exact mem_vars_of_solution? hq

theorem lists_solutionsIn (quads : List Quad) (p : Pattern) :
    (p.solutionsIn quads).Lists (quads.filterMap p.places?) := by
  rw [solutionsIn_eq]
  refine ⟨p.nodup_vars, ?_, ?_⟩
  · intro places hPlaces v u hu
    obtain ⟨q, _, hq⟩ := List.mem_filterMap.mp hPlaces
    exact (mem_vars_of_places? hq v).mpr ⟨u, hu⟩
  · dsimp only
    rw [List.filterMap_filterMap]
    refine List.filterMap_congr fun q _ => ?_
    rw [solution?_eq]
    cases hPlaces : p.places? q with
    | none => rfl
    | some places =>
      cases hr : solve? places with
      | none => simp [hr]
      | some r =>
        have hq : p.solution? q = some r := by rw [solution?_eq, hPlaces, Option.bind_some, hr]
        have hSelf : r.widen p.vars = r :=
          Row.widen_eq_self fun v => (mem_vars_of_solution? hq v).mpr
        simp [hr, hSelf]

theorem wellFormed_solutionsIn (quads : List Quad) (p : Pattern) : (p.solutionsIn quads).WellFormed :=
  (p.lists_solutionsIn quads).wellFormed

end Pattern

end GraphQuery
