import GraphQuery.Proofs.Compiled

/-! # Walks

A path is walked by taking, at each of its levels, one of the steps along one quad of the default
graph. What the inner nodes of the compiled path are called plays no part in this.

* `Path.Move`, `Path.choices` — steps along quads, and all ways to choose one for each level.
* `Path.IsWalk` — the moves lead from one to the next and agree with the path.
* `Path.rowOf` — the row of a walk.
* `Path.walksIn_eq` — the rows of a path are the rows of its walks.
* `Evaluator.outcome_path` — so they are for every choice of names.
-/

namespace GraphQuery

namespace Path

/-- A step that is taken along a quad. -/
structure Move where
  step : Step
  quad : Quad

/-- The node where the move begins. -/
def Move.source (m : Move) : Term := if m.step.inverse then m.quad.object else m.quad.subject

/-- The node where the move ends. -/
def Move.target (m : Move) : Term := if m.step.inverse then m.quad.subject else m.quad.object

/-- All moves at a level: each of its steps along each quad of the default graph. -/
def Level.moves (quads : List Quad) (l : Level) : List Move :=
  l.steps.flatMap fun s => (quads.filter fun q => q.graph = none).map fun q => ⟨s, q⟩

/-- All ways to choose one move for each level. -/
def choices (quads : List Quad) : List Level → List (List Move)
  | [] => [[]]
  | l :: levels => (l.moves quads).flatMap fun m => (choices quads levels).map (m :: ·)

/-- The predicate of the step beside that of the quad. -/
def Move.label (m : Move) : Slot × Term := (m.step.predicate, .iri m.quad.predicate)

/-- What is said about moves between two nodes: the first node, the last one, and the predicates. -/
def occurrencesBetween (start finish : Slot) (ms : List Move) : List (Slot × Term) :=
  (ms.head?.map fun m => (start, m.source)).toList ++
    (ms.getLast?.map fun m => (finish, m.target)).toList ++ ms.map Move.label

/-- What a path says about moves: where its slots occur, each beside the term that is there. -/
def occurrences (p : Path) (ms : List Move) : List (Slot × Term) :=
  occurrencesBetween p.start p.finish ms

/-- Each move ends where the next one begins, and the path can say what it says about them. -/
structure IsWalk (p : Path) (ms : List Move) : Prop where
  chain : ms.IsChain fun m m' => m.target = m'.source
  consistent : Consistent (p.occurrences ms)

/-- The row of moves: the variables of the path, each with the term that the moves give it, if they
do. -/
def rowOf (p : Path) (ms : List Move) : Row :=
  .ofList (p.vars.map fun v => (v, (p.occurrences ms).lookup (.var v)))

instance decidableIsWalk (p : Path) (ms : List Move) : Decidable (p.IsWalk ms) :=
  decidable_of_iff (ms.IsChain (fun m m' => m.target = m'.source) ∧ Consistent (p.occurrences ms))
    ⟨fun h => ⟨h.1, h.2⟩, fun h => ⟨h.1, h.2⟩⟩

variable {fingerprint : String} {start finish left right : Slot} {nodes : List Slot} {vs : List Variable}
  {m : Move} {ms : List Move} {level : Level} {levels : List Level} {ps : List Pattern}
  {pss : List (List Pattern)} {quads : List Quad} {x : Slot × Term}

/-! ## Places along nodes -/

/-- The places of the pattern of a step, between two nodes, in the quad of the move. -/
def Move.places (left right : Slot) (m : Move) : List (Slot × Term) :=
  (m.step.slotsBetween left right).zip [m.quad.subject, .iri m.quad.predicate, m.quad.object]

/-- The places of moves along nodes. -/
def placesAlong (left : Slot) : List Slot → List Move → List (Slot × Term)
  | right :: nodes, m :: ms => m.places left right ++ placesAlong right nodes ms
  | _, _ => []

/-- The places of inner nodes: each is where one move ends and where the next one begins. -/
def junctions : List Variable → List Move → List (Slot × Term)
  | v :: vs, m :: m' :: ms => (.var v, m.target) :: (.var v, m'.source) :: junctions vs (m' :: ms)
  | _, _ => []

theorem Move.mem_places :
    x ∈ m.places left right ↔ x = (left, m.source) ∨ x = m.label ∨ x = (right, m.target) := by
  unfold Move.places Step.slotsBetween Move.source Move.target Move.label
  split <;> simp [or_comm, or_left_comm]

/-- The places of moves along nodes are those of the two ends and of the predicates, and for each
inner node two more. -/
theorem mem_placesAlong (h : ms.length = vs.length + 1) :
    x ∈ placesAlong start (vs.map .var ++ [finish]) ms ↔
      x ∈ occurrencesBetween start finish ms ∨ x ∈ junctions vs ms := by
  -- The induction is on the inner nodes: for the moves after the first one, its end is the start.
  induction vs generalizing start ms with
  | nil =>
    obtain ⟨m, rfl⟩ := List.length_eq_one_iff.mp h
    simp only [placesAlong, List.map_nil, List.nil_append, List.append_nil, Move.mem_places]
    simp [occurrencesBetween, junctions, or_comm, or_left_comm]
  | cons v vs ih =>
    obtain ⟨m, m', ms, rfl⟩ : ∃ m m' ms', ms = m :: m' :: ms' := by
      match ms, h with
      | m :: m' :: ms', _ => exact ⟨m, m', ms', rfl⟩
    have hRest := @ih (.var v) (m' :: ms) (Nat.succ.inj h)
    rw [List.map_cons, List.cons_append, placesAlong, List.mem_append, hRest, Move.mem_places]
    simp only [occurrencesBetween, junctions, List.head?_cons, List.getLast?_cons_cons, Option.map_some,
      Option.toList_some, List.map_cons, List.mem_append, List.mem_cons, List.not_mem_nil, or_false]
    tauto

/-! ## Junctions -/

theorem exists_of_mem_junctions (h : x ∈ junctions vs ms) : ∃ v ∈ vs, x.1 = .var v := by
  induction vs generalizing ms with
  | nil => simp [junctions] at h
  | cons v vs ih =>
    match ms, h with
    | m :: m' :: ms, h =>
      rw [junctions] at h
      rcases List.mem_cons.mp h with rfl | h
      · exact ⟨v, List.mem_cons_self, rfl⟩
      · rcases List.mem_cons.mp h with rfl | h
        · exact ⟨v, List.mem_cons_self, rfl⟩
        · obtain ⟨w, hw, e⟩ := ih h
          exact ⟨w, List.mem_cons_of_mem v hw, e⟩

theorem consistent_pair {v : Variable} {t u : Term} :
    Consistent [(.var v, t), (.var v, u)] ↔ t = u := by
  constructor
  · exact fun h => h.agree v t u (by simp) (by simp)
  · rintro rfl
    refine ⟨by simp, fun w a b ha hb => ?_⟩
    simp only [List.mem_cons, Prod.mk.injEq, List.not_mem_nil, or_false, or_self] at ha hb
    exact ha.2.trans hb.2.symm

/-- Distinct inner nodes can be given terms exactly if each move ends where the next one begins. -/
theorem consistent_junctions (hNodup : vs.Nodup) (h : ms.length = vs.length + 1) :
    Consistent (junctions vs ms) ↔ ms.IsChain fun m m' => m.target = m'.source := by
  induction vs generalizing ms with
  | nil =>
    obtain ⟨m, rfl⟩ := List.length_eq_one_iff.mp h
    exact ⟨fun _ => .singleton m, fun _ => ⟨by simp [junctions], by simp [junctions]⟩⟩
  | cons v vs ih =>
    match ms, h with
    | m :: m' :: ms, h =>
      obtain ⟨hv, hNodup⟩ := List.nodup_cons.mp hNodup
      rw [List.isChain_cons_cons, ← ih hNodup (Nat.succ.inj h), ← consistent_pair (v := v)]
      show Consistent ([(.var v, m.target), (.var v, m'.source)] ++ junctions vs (m' :: ms)) ↔ _
      refine consistent_append fun x hx y hy e => hv ?_
      -- The node itself is no later node, because the nodes are distinct.
      obtain ⟨w, hw, hy⟩ := exists_of_mem_junctions hy
      have hx : x.1 = .var v := by
        rcases List.mem_cons.mp hx with rfl | hx
        · rfl
        · rw [List.mem_singleton.mp hx]
      have hSame : Slot.var v = .var w := hx.symm.trans (e.trans hy)
      cases hSame
      exact hw

/-! ## Choices of moves -/

theorem length_of_mem_choices (h : ms ∈ choices quads levels) : ms.length = levels.length := by
  induction levels generalizing ms with
  | nil =>
    rw [List.mem_singleton.mp h]
    rfl
  | cons l levels ih =>
    obtain ⟨m, _, h⟩ := List.mem_flatMap.mp h
    obtain ⟨rest, hRest, rfl⟩ := List.mem_map.mp h
    exact congrArg (· + 1) (ih hRest)

theorem filterMap_ite {α β : Type} (p : α → Prop) [DecidablePred p] (f : α → β) (xs : List α) :
    (xs.filterMap fun x => if p x then some (f x) else none) = (xs.filter p).map f := by
  induction xs with
  | nil => rfl
  | cons x xs ih =>
    by_cases hp : p x <;> simp [hp, ih]

/-- The pattern of a step has no context, so it is matched along the quads of the default graph. -/
theorem filterMap_places?_of_slots {s : Step} {p : Pattern} (h : p.slots = s.slotsBetween left right) :
    quads.filterMap p.places? =
      (quads.filter fun q => q.graph = none).map fun q => Move.places left right ⟨s, q⟩ := by
  -- With a context there would be a fourth slot.
  have hContext : p.context = none := by
    cases hc : p.context with
    | none => rfl
    | some c =>
      have hLength := congrArg List.length h
      unfold Pattern.slots Step.slotsBetween at hLength
      rw [hc] at hLength
      split at hLength <;> cases hLength
  rw [← filterMap_ite]
  refine List.filterMap_congr fun q _ => ?_
  split
  · rename_i hGraph
    refine places?_eq_some_iff.mpr (.inl ⟨hContext, hGraph, ?_⟩)
    unfold Move.places
    rw [← h, Pattern.slots, hContext]
    rfl
  · rename_i hGraph
    obtain ⟨graph, hGraph⟩ := Option.ne_none_iff_exists'.mp hGraph
    simp [Pattern.places?, hContext, hGraph]

theorem flatMap_places? {steps : List Step}
    (h : ps.map Pattern.slots = steps.map fun s => s.slotsBetween left right) :
    (ps.flatMap fun p => quads.filterMap p.places?) =
      (steps.flatMap fun s => (quads.filter fun q => q.graph = none).map fun q => ⟨s, q⟩).map
        (Move.places left right) := by
  induction steps generalizing ps with
  | nil =>
    rw [List.map_eq_nil_iff.mp h]
    rfl
  | cons s steps ih =>
    cases ps with
    | nil => cases h
    | cons p ps =>
      obtain ⟨hHead, hRest⟩ := List.cons.inj h
      rw [List.flatMap_cons, List.flatMap_cons, List.map_append, ih hRest,
        filterMap_places?_of_slots hHead, List.map_map]
      rfl

/-- The places that the joined blocks choose from are those of the moves. -/
theorem Compiled.concatenations_eq (h : Compiled left nodes levels pss) :
    concatenations (pss.map (·.flatMap fun p => quads.filterMap p.places?)) =
      (choices quads levels).map (placesAlong left nodes) := by
  induction h with
  | nil node => rfl
  | @cons left right nodes l levels ps pss hLevel _ ih =>
    have hMoves : (ps.flatMap fun p => quads.filterMap p.places?) =
        (l.moves quads).map (Move.places left right) := flatMap_places? hLevel.slots_eq
    rw [List.map_cons, concatenations, ih, hMoves, choices, List.flatMap_map, List.map_flatMap]
    refine List.flatMap_congr fun m _ => ?_
    rw [List.map_map, List.map_map]
    rfl

/-! ## Columns -/

theorem IsLevel.mem_slots {steps : List Step} (hSteps : steps ≠ []) (h : IsLevel left right steps ps)
    {slot : Slot} :
    slot ∈ ps.flatMap Pattern.slots ↔ slot = left ∨ slot = right ∨ ∃ s ∈ steps, slot = s.predicate := by
  have hSlots : ps.flatMap Pattern.slots = steps.flatMap fun s => s.slotsBetween left right := by
    rw [List.flatMap_def, List.flatMap_def, h.slots_eq]
  simp only [hSlots, List.mem_flatMap, mem_slotsBetween]
  constructor
  · rintro ⟨s, hs, h | h | h⟩
    · exact .inl h
    · exact .inr (.inl h)
    · exact .inr (.inr ⟨s, hs, h⟩)
  · obtain ⟨s, hs⟩ := List.exists_mem_of_ne_nil steps hSteps
    rintro (h | h | ⟨s', hs', h⟩)
    · exact ⟨s, hs, .inl h⟩
    · exact ⟨s, hs, .inr (.inl h)⟩
    · exact ⟨s', hs', .inr (.inr h)⟩

/-- The node before the levels is in the first level, if there is one. -/
theorem Compiled.mem_slots_or (h : Compiled left nodes levels pss) {slot : Slot} :
    slot ∈ pss.flatten.flatMap Pattern.slots ∨ slot = left ↔
      slot = left ∨ slot ∈ nodes ∨ ∃ l ∈ levels, ∃ s ∈ l.steps, slot = s.predicate := by
  induction h with
  | nil node => simp
  | @cons left right nodes l levels ps pss hLevel _ ih =>
    rw [List.flatten_cons, List.flatMap_append, List.mem_append, hLevel.mem_slots l.steps_ne_nil]
    simp only [List.mem_cons, exists_eq_or_imp]
    generalize (∃ s ∈ l.steps, slot = s.predicate) = here at *
    generalize (∃ l ∈ levels, ∃ s ∈ l.steps, slot = s.predicate) = later at *
    tauto

theorem Compiled.mem_slots (h : Compiled left nodes levels pss) (hLevels : levels ≠ []) {slot : Slot} :
    slot ∈ pss.flatten.flatMap Pattern.slots ↔
      slot = left ∨ slot ∈ nodes ∨ ∃ l ∈ levels, ∃ s ∈ l.steps, slot = s.predicate := by
  rw [← h.mem_slots_or, or_iff_left_of_imp]
  rintro rfl
  cases h with
  | nil => exact absurd rfl hLevels
  | @cons _ _ _ l _ ps pss hLevel _ =>
    rw [List.flatten_cons, List.flatMap_append, List.mem_append]
    exact .inl ((hLevel.mem_slots l.steps_ne_nil).mpr (.inl rfl))

theorem var?_eq_some_iff {slot : Slot} {v : Variable} : slot.var? = some v ↔ .var v = slot := by
  cases slot <;> simp [Slot.var?, eq_comm]

theorem isReserved_of_free {slot : Slot} {v : Variable} (hFree : slot.reserved? = none)
    (hv : .var v = slot) : v.isReserved = false := by
  subst hv
  simpa [Slot.reserved?, Slot.var?] using hFree

theorem mem_vars {p : Path} {v : Variable} :
    v ∈ p.vars ↔ .var v = p.start ∨ .var v = p.finish ∨
      ∃ l ∈ p.levels, ∃ s ∈ l.steps, .var v = s.predicate := by
  unfold vars
  simp only [mem_firsts, List.mem_filterMap, List.mem_cons, List.mem_map, List.mem_flatMap,
    var?_eq_some_iff, exists_eq_or_imp]
  refine or_congr .rfl (or_congr .rfl ?_)
  constructor
  · rintro ⟨_, ⟨s, ⟨l, hl, hs⟩, rfl⟩, hv⟩
    exact ⟨l, hl, s, hs, hv⟩
  · rintro ⟨l, hl, s, hs, hv⟩
    exact ⟨s.predicate, ⟨s, ⟨l, hl, hs⟩, rfl⟩, hv⟩

theorem isReserved_of_mem_vars {p : Path} {v : Variable} (hv : v ∈ p.vars) : v.isReserved = false := by
  rcases mem_vars.mp hv with hv | hv | ⟨_, _, s, _, hv⟩
  · exact isReserved_of_free p.start_free hv
  · exact isReserved_of_free p.finish_free hv
  · exact isReserved_of_free s.free hv

/-- The variables of the patterns whose names are not reserved are those of the path. -/
theorem Compiled.mem_vars_iff {p : Path} {emitted : Nat} (hLevels : p.levels ≠ [])
    (h : Compiled p.start (nodesAfter fingerprint p.finish emitted p.levels) p.levels pss)
    {v : Variable} :
    v ∈ pss.flatten.flatMap Pattern.vars ∧ v.isReserved = false ↔ v ∈ p.vars := by
  -- The slots of the patterns are those of the path and the inner nodes, and only these are reserved.
  have hVars : v ∈ pss.flatten.flatMap Pattern.vars ↔ .var v ∈ pss.flatten.flatMap Pattern.slots := by
    simp only [List.mem_flatMap, Pattern.mem_vars_iff_mem_slots]
  rw [hVars, h.mem_slots hLevels, nodesAfter, List.mem_append, List.mem_singleton]
  constructor
  · rintro ⟨hv | (hv | hv) | hv, hFree⟩
    · exact mem_vars.mpr (.inl hv)
    · obtain ⟨w, hw, e⟩ := List.mem_map.mp hv
      cases e
      rw [isReserved_of_mem_innerNodesAfter hw] at hFree
      cases hFree
    · exact mem_vars.mpr (.inr (.inl hv))
    · exact mem_vars.mpr (.inr (.inr hv))
  · intro hv
    refine ⟨?_, isReserved_of_mem_vars hv⟩
    rcases mem_vars.mp hv with hv | hv | hv
    · exact .inl hv
    · exact .inr (.inl (.inr hv))
    · exact .inr (.inr hv)

/-! ## Rows -/

theorem reserved?_of_mem_occurrences {p : Path} (h : x ∈ p.occurrences ms) : x.1.reserved? = none := by
  unfold occurrences occurrencesBetween at h
  simp only [List.mem_append, Option.mem_toList, Option.map_eq_some_iff, List.mem_map] at h
  rcases h with (⟨_, _, rfl⟩ | ⟨_, _, rfl⟩) | ⟨m, _, rfl⟩
  · exact p.start_free
  · exact p.finish_free
  · exact m.step.free

/-- No slot of a path is an inner node. -/
theorem occurrences_ne_junctions {p : Path} (hReserved : ∀ v ∈ vs, v.isReserved = true)
    {y : Slot × Term} (hx : x ∈ p.occurrences ms) (hy : y ∈ junctions vs ms) : x.1 ≠ y.1 := by
  intro e
  obtain ⟨v, hv, hNode⟩ := exists_of_mem_junctions hy
  have hFree := isReserved_of_free (reserved?_of_mem_occurrences hx) (e.trans hNode).symm
  rw [hReserved v hv] at hFree
  cases hFree

/-- The places of moves can be solved exactly if the moves are a walk. -/
theorem isWalk_iff {p : Path} (hNodup : vs.Nodup) (hReserved : ∀ v ∈ vs, v.isReserved = true)
    (h : ms.length = vs.length + 1) :
    Consistent (placesAlong p.start (vs.map .var ++ [p.finish]) ms) ↔ p.IsWalk ms := by
  have hMem : ∀ x, x ∈ placesAlong p.start (vs.map .var ++ [p.finish]) ms ↔
      x ∈ p.occurrences ms ++ junctions vs ms := fun x => by
    rw [mem_placesAlong h, List.mem_append]
    rfl
  have hDisjoint : ∀ x ∈ p.occurrences ms, ∀ y ∈ junctions vs ms, x.1 ≠ y.1 := fun _ hx _ hy =>
    occurrences_ne_junctions hReserved hx hy
  -- So what the path says and what the inner nodes say are two separate conditions.
  have hSplit := consistent_append hDisjoint
  rw [consistent_junctions hNodup h] at hSplit
  constructor
  · intro hConsistent
    obtain ⟨hOccurrences, hChain⟩ := hSplit.mp (hConsistent.congr hMem)
    exact ⟨hChain, hOccurrences⟩
  · rintro ⟨hChain, hOccurrences⟩
    exact (hSplit.mpr ⟨hOccurrences, hChain⟩).congr fun x => (hMem x).symm

theorem not_mem_junctions {v : Variable} {t : Term} (hReserved : ∀ v ∈ vs, v.isReserved = true)
    (hv : v.isReserved = false) : (.var v, t) ∉ junctions vs ms := by
  intro hMem
  obtain ⟨w, hw, e⟩ := exists_of_mem_junctions hMem
  cases e
  rw [hReserved v hw] at hv
  cases hv

/-- A solution gives a variable of the path the term of its first occurrence. -/
theorem term?_eq_lookup {p : Path} (hReserved : ∀ v ∈ vs, v.isReserved = true)
    (h : ms.length = vs.length + 1) {r : Row}
    (hr : r.Solves (placesAlong p.start (vs.map .var ++ [p.finish]) ms)) {v : Variable}
    (hv : v ∈ p.vars) : r.term? v = (p.occurrences ms).lookup (.var v) := by
  cases hTerm : (p.occurrences ms).lookup (.var v) with
  | some t =>
    have hMem := (mem_placesAlong h).mpr (.inl (Row.mem_of_lookup_eq_some hTerm))
    exact hr.term?_of_mem hMem
  | none =>
    refine Row.term?_eq_none fun hBound => ?_
    obtain ⟨t, ht⟩ := (hr.mem_vars v).mp hBound
    rcases (mem_placesAlong h).mp ht with ht | ht
    · have hNone := List.lookup_eq_none_iff.mp hTerm _ ht
      simp at hNone
    · -- Junctions are places of inner nodes, and those are no variables of the path.
      exact not_mem_junctions hReserved (isReserved_of_mem_vars hv) ht

/-- What is left of a solution without the inner nodes is the row of the walk. -/
theorem without_eq_rowOf {p : Path} (hReserved : ∀ v ∈ vs, v.isReserved = true)
    (h : ms.length = vs.length + 1) {r : Row}
    (hr : r.Solves (placesAlong p.start (vs.map .var ++ [p.finish]) ms)) {schema hidden : List Variable}
    (hSchema : ∀ v ∈ r.vars, v ∈ schema) (hVars : ∀ v, v ∈ schema ∧ v ∉ hidden ↔ v ∈ p.vars) :
    (r.widen schema).without hidden = p.rowOf ms := by
  refine Row.ext_vars (fun v => ?_) fun v => ?_
  · rw [Row.mem_vars_without, Row.mem_vars_widen, or_iff_right_of_imp (hSchema v), hVars, rowOf,
      Row.mem_vars_ofList]
    simp
  · rw [Row.term?_without, Row.term?_widen, rowOf, Row.term?_ofList_map]
    by_cases hv : v ∈ p.vars
    · obtain ⟨_, hShown⟩ := (hVars v).mpr hv
      rw [if_neg hShown, if_pos hv]
      exact term?_eq_lookup hReserved h hr hv
    · rw [if_neg hv]
      split
      · rfl
      · rename_i hShown
        exact Row.term?_eq_none fun hBound => hv ((hVars v).mp ⟨hSchema v hBound, hShown⟩)

/-- Without the inner nodes the solution of moves is the row of a walk, or there is none. -/
theorem map_solve?_placesAlong {p : Path} (hNodup : vs.Nodup) (hReserved : ∀ v ∈ vs, v.isReserved = true)
    (h : ms.length = vs.length + 1) {schema hidden : List Variable}
    (hSchema : ∀ v t, (.var v, t) ∈ placesAlong p.start (vs.map .var ++ [p.finish]) ms → v ∈ schema)
    (hVars : ∀ v, v ∈ schema ∧ v ∉ hidden ↔ v ∈ p.vars) :
    (solve? (placesAlong p.start (vs.map .var ++ [p.finish]) ms)).map
        (fun r => (r.widen schema).without hidden) =
      if p.IsWalk ms then some (p.rowOf ms) else none := by
  have hWalk := isWalk_iff (p := p) hNodup hReserved h
  split
  · rename_i hMoves
    obtain ⟨r, hr⟩ := exists_solves_iff.mpr (hWalk.mpr hMoves)
    have hColumns : ∀ v ∈ r.vars, v ∈ schema := fun v hv => by
      obtain ⟨t, ht⟩ := (hr.mem_vars v).mp hv
      exact hSchema v t ht
    rw [solve?_eq_some_iff.mpr hr, Option.map_some, without_eq_rowOf hReserved h hr hColumns hVars]
  · rename_i hMoves
    rw [Option.map_eq_none_iff, Option.eq_none_iff_forall_ne_some]
    intro r hr
    exact hMoves (hWalk.mp (exists_solves_iff.mp ⟨r, solve?_eq_some_iff.mp hr⟩))

/-! ## The table of a path -/

theorem Compiled.exists_isLevel (h : Compiled left nodes levels pss) (hMem : ps ∈ pss) :
    ∃ left right steps, IsLevel left right steps ps := by
  induction h with
  | nil node => cases hMem
  | cons hLevel _ ih =>
    rcases List.mem_cons.mp hMem with rfl | hMem
    · exact ⟨_, _, _, hLevel⟩
    · exact ih hMem

theorem Compiled.plan_eq (h : Compiled left nodes levels pss) :
    Block.plan pss.flatten = pss.map fun ps => ⟨.join, ps⟩ := by
  refine Block.plan_flatten pss (fun ps hps => ?_) fun ps hps => ?_
  · obtain ⟨_, _, _, hLevel⟩ := h.exists_isLevel hps
    exact hLevel.alternatives
  · obtain ⟨_, _, _, hLevel⟩ := h.exists_isLevel hps
    exact hLevel.required

theorem mem_reservedVariables {patterns : List Pattern} {v : Variable} :
    v ∈ reservedVariables patterns ↔ v ∈ patterns.flatMap Pattern.vars ∧ v.isReserved = true := by
  rw [reservedVariables, mem_firsts, List.mem_filter]

/-- The distinct variables of patterns whose names are not reserved. -/
def shownVariables (patterns : List Pattern) : List Variable :=
  (firsts (patterns.flatMap Pattern.vars)).filter fun v => !v.isReserved

theorem mem_shownVariables {patterns : List Pattern} {v : Variable} :
    v ∈ shownVariables patterns ↔ v ∈ patterns.flatMap Pattern.vars ∧ v.isReserved = false := by
  simp [shownVariables, mem_firsts]

/-- The rows of a path are the rows of its walks, one for each walk. -/
theorem walksIn_eq {p : Path} {patterns : List Pattern} (h : p.compileWith fingerprint = .ok patterns) :
    p.walksIn quads fingerprint =
      ⟨shownVariables patterns,
        ((choices quads p.levels).filter fun ms => p.IsWalk ms).map p.rowOf⟩ := by
  have hLevels := levels_ne_nil_of_compileWith h
  obtain ⟨pss, rfl, hCompiled⟩ := compiled_of_compileWith h
  have hSchema := Block.schema_tableOfAll (f := Pattern.solutionsIn quads) pss
    fun ps _ q _ => q.wellFormed_solutionsIn quads
  have hLists := Block.lists_tableOfAll (f := Pattern.solutionsIn quads) pss
    fun ps _ q _ => q.lists_solutionsIn quads
  -- Before the inner nodes are dropped, there is a row for each choice of moves that can be solved.
  rw [hCompiled.concatenations_eq] at hLists
  have hSolutions : ∀ q : Pattern, (q.solutionsIn quads).schema = q.vars := fun q => by
    rw [Pattern.solutionsIn_eq]
  simp only [hSolutions] at hSchema
  unfold walksIn
  rw [h]
  dsimp only
  rw [hCompiled.plan_eq, Table.removeColumns_eq, hLists.rows_eq, hSchema, List.filterMap_map,
    List.map_filterMap]
  congr 1
  · refine List.filter_congr fun v hv => ?_
    rw [mem_firsts] at hv
    simp [mem_reservedVariables, hv]
  · rw [← filterMap_ite]
    refine List.filterMap_congr fun ms hms => ?_
    rw [Function.comp_apply, Option.map_map]
    refine map_solve?_placesAlong nodup_innerNodesAfter (fun v => isReserved_of_mem_innerNodesAfter) ?_
      (fun v t hMem => ?_) fun v => ?_
    · rw [length_of_mem_choices hms, length_innerNodesAfter hLevels]
    · have hColumn := hLists.mem_schema _ (List.mem_map_of_mem hms) v t hMem
      rwa [hSchema] at hColumn
    · rw [← hCompiled.mem_vars_iff hLevels, mem_firsts, mem_reservedVariables, not_and]
      refine and_congr_right fun hv => ?_
      simp [hv]

/-! ## Names of inner nodes -/

/-- The variable in the slot, if its name is not reserved. -/
def shown? (slot : Slot) : Option Variable := slot.var?.filter fun v => !v.isReserved

theorem map_shown?_nodesAfter (hLevels : levels ≠ []) {emitted : Nat} :
    (nodesAfter fingerprint finish emitted levels).map shown? =
      List.replicate (levels.length - 1) none ++ [shown? finish] := by
  have hNodes : (innerNodesAfter fingerprint emitted levels).map (shown? ∘ .var) =
      List.replicate (levels.length - 1) none := by
    rw [List.eq_replicate_iff]
    refine ⟨?_, fun x hx => ?_⟩
    · rw [List.length_map, ← length_innerNodesAfter hLevels]
      rfl
    · obtain ⟨v, hv, rfl⟩ := List.mem_map.mp hx
      simp [shown?, Slot.var?, isReserved_of_mem_innerNodesAfter hv]
  rw [nodesAfter, List.map_append, List.map_map, hNodes]
  rfl

theorem map_shown?_slotsBetween (s : Step) {left' right' : Slot} (hLeft : shown? left = shown? left')
    (hRight : shown? right = shown? right') :
    (s.slotsBetween left right).map shown? = (s.slotsBetween left' right').map shown? := by
  unfold Step.slotsBetween
  split <;> simp [hLeft, hRight]

/-- Paths that are compiled with different inner nodes have the same variables in the same places,
apart from those whose names are reserved. -/
theorem Compiled.map_shown?_slots {left' : Slot} {nodes' : List Slot} {pss' : List (List Pattern)}
    (h : Compiled left nodes levels pss) (h' : Compiled left' nodes' levels pss')
    (hLeft : shown? left = shown? left') (hNodes : nodes.map shown? = nodes'.map shown?) :
    (pss.flatten.map fun q => q.slots.map shown?) = pss'.flatten.map fun q => q.slots.map shown? := by
  induction h generalizing left' nodes' pss' with
  | nil node =>
    cases h'
    rfl
  | @cons left right nodes l levels ps pss hLevel _ ih =>
    cases h' with
    | @cons _ right' nodes' _ _ ps' pss' hLevel' hRest' =>
      obtain ⟨hRight, hNodes⟩ := List.cons.inj hNodes
      have hSlots : (ps.map fun q => q.slots.map shown?) = ps'.map fun q => q.slots.map shown? := by
        have hMap : ∀ qs : List Pattern, (qs.map fun q => q.slots.map shown?) =
            (qs.map Pattern.slots).map (List.map shown?) := fun qs => by rw [List.map_map]; rfl
        rw [hMap, hMap, hLevel.slots_eq, hLevel'.slots_eq, List.map_map, List.map_map]
        exact List.map_congr_left fun s _ => map_shown?_slotsBetween s hLeft hRight
      rw [List.flatten_cons, List.flatten_cons, List.map_append, List.map_append, hSlots,
        ih hRest' hRight hNodes]

theorem filter_vars (q : Pattern) :
    (q.vars.filter fun v => !v.isReserved) = firsts ((q.slots.map shown?).filterMap id) := by
  rw [Pattern.vars, ← firsts_filter, List.filterMap_map, List.filter_filterMap]
  rfl

/-- The columns of a path have nothing to do with the names of the inner nodes. -/
theorem shownVariables_eq {p : Path} {fingerprint' : String} {patterns patterns' : List Pattern}
    (h : p.compileWith fingerprint = .ok patterns) (h' : p.compileWith fingerprint' = .ok patterns') :
    shownVariables patterns = shownVariables patterns' := by
  have hLevels := levels_ne_nil_of_compileWith h
  obtain ⟨pss, rfl, hCompiled⟩ := compiled_of_compileWith h
  obtain ⟨pss', rfl, hCompiled'⟩ := compiled_of_compileWith h'
  -- Under either names the nodes after the start show nothing, but for the finish.
  have hSlots := hCompiled.map_shown?_slots hCompiled' rfl <| by
    rw [map_shown?_nodesAfter hLevels, map_shown?_nodesAfter hLevels]
  have hColumns : ∀ qs : List Pattern, shownVariables qs =
      firsts ((qs.map fun q => q.slots.map shown?).flatMap fun slots => firsts (slots.filterMap id)) :=
    fun qs => by
      rw [shownVariables, ← firsts_filter, List.filter_flatMap, List.flatMap_map]
      exact congrArg firsts (List.flatMap_congr fun q _ => filter_vars q)
  rw [hColumns, hColumns, hSlots]

end Path

/-- A path that compiles evaluates to the rows of its walks, one for each walk, in the order in which
the walks are chosen. Each row has the variables of the path as its columns. It does not matter how
the inner nodes are named. -/
theorem Evaluator.outcome_path {v : Evaluator} {g : Graph} (hv : v.source = .graph g) {p : Path}
    {patterns : List Pattern} (h : p.compile = .ok patterns) :
    ∃ t, (v.operand (.path p)).outcome = .ok t ∧
      (∀ fingerprint, (v.source.walks fingerprint p).outcome = .ok t) ∧
      (∀ x, x ∈ t.schema ↔ x ∈ p.vars) ∧
      t.rows = ((Path.choices g.quads p.levels).filter fun ms => p.IsWalk ms).map p.rowOf := by
  have hLocal : v.source.IsLocal := by
    rw [hv]
    trivial
  have hQuads : v.source.quads = g.quads := by
    rw [hv, Source.quads, Source.leaves, List.flatMap_singleton]
  have hLevels := Path.levels_ne_nil_of_compileWith h
  have hNames : ∀ fingerprint,
      (v.source.walks fingerprint p).outcome = .ok (p.walksIn g.quads p.fingerprint) := by
    intro fingerprint
    -- Whether a path compiles does not depend on the names, so it compiles with these, too.
    obtain ⟨patterns', h'⟩ : ∃ patterns', p.compileWith fingerprint = .ok patterns' :=
      Path.exists_compileWith_iff.mpr (Path.exists_compileWith_iff.mp ⟨patterns, h⟩)
    rw [(Source.yields_walks hLocal h').outcome_eq, hQuads, Path.walksIn_eq h', Path.walksIn_eq h,
      Path.shownVariables_eq h' h]
  refine ⟨_, hNames p.fingerprint, hNames, fun x => ?_, ?_⟩
  · obtain ⟨pss, rfl, hCompiled⟩ := Path.compiled_of_compileWith h
    rw [Path.walksIn_eq h, Path.mem_shownVariables, hCompiled.mem_vars_iff hLevels]
  · rw [Path.walksIn_eq h]

/-- From a node by either of two steps and back by the inverse of the first: the second step binds a
variable that the first one leaves without value. -/
theorem Evaluator.outcome_path_alternatives :
    let node : Iri := Datatype.integer.iri
    let edge : Quad := ⟨none, .iri node, node, .simple "b", rfl⟩
    let named : Quad := ⟨some node, .iri node, node, .simple "b", rfl⟩
    let forward : Path.Step := ⟨.term (.iri node), false, rfl, rfl⟩
    let backward : Path.Step := ⟨.term (.iri node), true, rfl, rfl⟩
    let any : Path.Step := ⟨.var ⟨"v"⟩, false, rfl, by decide⟩
    let p : Path := ⟨.var ⟨"x"⟩, .var ⟨"x"⟩, [.choice forward any [], .single backward], .plain,
      by decide, by decide⟩
    let v : Evaluator := ⟨.graph (Graph.empty.insertAll [edge, named]), none, .empty⟩
    ∃ t, (v.operand (.path p)).outcome = .ok t ∧
      t.rows = [(Row.empty.bind ⟨"x"⟩ (.iri node)).ensure ⟨"v"⟩,
        (Row.empty.bind ⟨"x"⟩ (.iri node)).bind ⟨"v"⟩ (.iri node)] := by
  intro node edge named forward backward any p v
  obtain ⟨patterns, h⟩ : ∃ patterns, p.compile = .ok patterns :=
    Path.exists_compileWith_iff.mpr ⟨List.cons_ne_nil _ _, fun _ _ _ _ _ => rfl, fun _ _ _ _ _ => rfl⟩
  obtain ⟨t, ht, _, _, hRows⟩ := outcome_path (v := v) rfl h
  exact ⟨t, ht, hRows.trans (by decide +kernel)⟩

end GraphQuery
