import GraphQuery.Proofs.Walks

/-! # Chains of patterns

The patterns of a compiled path lead from node to node, level by level.

* `Path.Connects` — the patterns that connect two nodes along a level.
* `Path.Compiled.exists_connects` — compiled levels connect each node with the next one.
* `Path.Compiled.reserved_eq` — the reserved variables come in the order of the nodes.
* `Path.exists_error_iff` — when there is no chain.
* `Path.compile_chain` — what there is otherwise: a chain over inner nodes that nothing else uses, and
  one joined block for each of its levels.
-/

namespace GraphQuery

/-- The slot holds a literal. -/
def Slot.isLiteral (s : Slot) : Bool := s.term?.any Term.isLiteral

theorem Slot.admits_subject (s : Slot) : Position.subject.admits s = !s.isLiteral := by
  cases s <;> rfl

theorem Linking.eq_of_isUnion {k : Linking} (hRequired : k.optional = false) (h : k.isUnion = true) :
    k = ⟨false, .union⟩ := by
  obtain ⟨optional, link⟩ := k
  cases hRequired
  cases link with
  | union => rfl
  | plain => cases h
  | minus => cases h

theorem Linking.eq_plain {k : Linking} (hRequired : k.optional = false) (hUnion : k.isUnion = false)
    (hMinus : k.isMinus = false) : k = .plain := by
  obtain ⟨optional, link⟩ := k
  cases hRequired
  cases link with
  | plain => rfl
  | union => cases hUnion
  | minus => cases hMinus

/-- Required alternatives ask for a union with the next one, but for the last, which asks for nothing. -/
theorem Block.Alternatives.map_linking {ps : List Pattern} (h : Alternatives ps)
    (hRequired : ∀ p ∈ ps, p.linking.optional = false) :
    ps.map Pattern.linking = List.replicate (ps.length - 1) ⟨false, .union⟩ ++ [.plain] := by
  induction h with
  | @last p hUnion hMinus =>
    exact congrArg (· :: []) (Linking.eq_plain (hRequired p List.mem_cons_self) hUnion hMinus)
  | @cons p ps hUnion h ih =>
    have hHead := Linking.eq_of_isUnion (hRequired p List.mem_cons_self) hUnion
    have hLength : ps.length = (ps.length - 1) + 1 := by cases h <;> rfl
    rw [List.map_cons, hHead, ih fun q hq => hRequired q (List.mem_cons_of_mem p hq),
      List.length_cons, Nat.add_sub_cancel]
    conv => rhs; rw [hLength]
    rfl

namespace Path

variable {left right : Slot} {nodes : List Slot} {levels : List Level} {l : Level} {ps : List Pattern}
  {pss : List (List Pattern)}

/-! ## From node to node -/

/-- The patterns between two nodes: one for each step of a level, in the direction of the step. Each but
the last is an alternative of the next one, and nothing else is asked of any. -/
structure Connects (left right : Slot) (l : Level) (ps : List Pattern) : Prop where
  slots_eq : ps.map Pattern.slots = l.steps.map fun s => s.slotsBetween left right
  linking_eq : ps.map Pattern.linking =
    List.replicate (l.steps.length - 1) ⟨false, .union⟩ ++ [.plain]

theorem IsLevel.connects (h : IsLevel left right l.steps ps) : Connects left right l ps where
  slots_eq := h.slots_eq
  linking_eq := by
    have hLength : ps.length = l.steps.length := by simpa using congrArg List.length h.slots_eq
    rw [← hLength]
    exact h.alternatives.map_linking h.required

theorem Compiled.length_eq (h : Compiled left nodes levels pss) :
    nodes.length = levels.length ∧ pss.length = levels.length := by
  induction h with
  | nil node => exact ⟨rfl, rfl⟩
  | cons _ _ ih => exact ⟨congrArg (· + 1) ih.1, congrArg (· + 1) ih.2⟩

theorem Compiled.exists_connects (h : Compiled left nodes levels pss) {i : Nat}
    (hl : levels[i]? = some l) :
    ∃ left' right' ps, (left :: nodes)[i]? = some left' ∧ (left :: nodes)[i + 1]? = some right' ∧
      pss[i]? = some ps ∧ Connects left' right' l ps := by
  induction h generalizing i with
  | nil node => simp at hl
  | @cons left right nodes l₀ levels ps pss hLevel _ ih =>
    cases i with
    | zero =>
      cases hl
      exact ⟨left, right, ps, rfl, rfl, rfl, hLevel.connects⟩
    | succ i => exact ih hl

/-! ## The reserved variables -/

theorem eq_toList_of_nodup {α : Type} {xs : List α} {o : Option α} (h : xs.Nodup)
    (hMem : ∀ x, x ∈ xs ↔ x ∈ o) : xs = o.toList := by
  cases o with
  | none => exact List.eq_nil_iff_forall_not_mem.mpr fun x hx => nomatch (hMem x).mp hx
  | some y =>
    refine List.perm_singleton.mp ((List.perm_ext_iff_of_nodup h (List.nodup_singleton y)).mpr ?_)
    exact fun x => by rw [hMem, Option.mem_some, List.mem_singleton, eq_comm]

theorem mem_reserved? {slot : Slot} {v : Variable} :
    v ∈ slot.reserved? ↔ slot = .var v ∧ v.isReserved = true := by
  cases slot <;> simp [Slot.reserved?, Slot.var?, Option.filter_eq_some_iff]

/-- The reserved variables of a level are those of its two nodes, for no predicate is one. -/
theorem IsLevel.mem_reserved {steps : List Step} (hSteps : steps ≠ [])
    (h : IsLevel left right steps ps) {v : Variable} :
    v ∈ (ps.flatMap Pattern.vars).filter Variable.isReserved ↔
      v ∈ left.reserved? ∨ v ∈ right.reserved? := by
  have hVars : v ∈ ps.flatMap Pattern.vars ↔ .var v ∈ ps.flatMap Pattern.slots := by
    simp only [List.mem_flatMap, Pattern.mem_vars_iff_mem_slots]
  have hFree : v.isReserved = true → ¬ ∃ s ∈ steps, .var v = s.predicate := by
    rintro hv ⟨s, _, hs⟩
    rw [isReserved_of_free s.free hs] at hv
    cases hv
  rw [List.mem_filter, hVars, h.mem_slots hSteps, mem_reserved?, mem_reserved?]
  constructor
  · rintro ⟨hSlot | hSlot | hSlot, hv⟩
    · exact .inl ⟨hSlot.symm, hv⟩
    · exact .inr ⟨hSlot.symm, hv⟩
    · exact absurd hSlot (hFree hv)
  · rintro (⟨hSlot, hv⟩ | ⟨hSlot, hv⟩)
    · exact ⟨.inl hSlot.symm, hv⟩
    · exact ⟨.inr (.inl hSlot.symm), hv⟩

/-- The reserved variables of levels are those of their nodes, in the order of the nodes, if the node
before the levels was seen already and the others are new. -/
theorem Compiled.reserved_eq (h : Compiled left nodes levels pss) {seen : List Variable}
    (hLeft : ∀ v ∈ left.reserved?, v ∈ seen) (hNodup : (seen ++ nodes.filterMap Slot.reserved?).Nodup) :
    ((pss.flatten.flatMap Pattern.vars).filter Variable.isReserved).foldl addNew seen =
      seen ++ nodes.filterMap Slot.reserved? := by
  induction h generalizing seen with
  | nil node => simp
  | @cons left right nodes l levels ps pss hLevel _ ih =>
    have hSplit : (right :: nodes).filterMap Slot.reserved? =
        right.reserved?.toList ++ nodes.filterMap Slot.reserved? := by
      cases hRight : right.reserved? <;> simp [hRight]
    rw [hSplit, ← List.append_assoc] at hNodup ⊢
    have hNew : ∀ v ∈ right.reserved?, v ∉ seen := fun v hv hSeen =>
      List.disjoint_of_nodup_append (List.nodup_append.mp hNodup).1 hSeen (Option.mem_toList.mpr hv)
    have hHere : ((ps.flatMap Pattern.vars).filter Variable.isReserved).foldl addNew seen =
        seen ++ right.reserved?.toList := by
      rw [foldl_addNew]
      refine congrArg (seen ++ ·) (eq_toList_of_nodup ((nodup_firsts _).filter _) fun v => ?_)
      rw [List.mem_filter, mem_firsts, hLevel.mem_reserved l.steps_ne_nil, decide_eq_true_eq]
      constructor
      · rintro ⟨hv | hv, hSeen⟩
        · exact absurd (hLeft v hv) hSeen
        · exact hv
      · exact fun hv => ⟨.inr hv, hNew v hv⟩
    rw [List.flatten_cons, List.flatMap_append, List.filter_append, List.foldl_append, hHere]
    exact ih (fun v hv => List.mem_append_right _ (Option.mem_toList.mpr hv)) hNodup

/-- The reserved variables of a path's patterns are its inner nodes in order. -/
theorem reservedVariables_eq {p : Path} {fingerprint : String}
    (h : Compiled p.start (nodesAfter fingerprint p.finish 0 p.levels) p.levels pss) :
    reservedVariables pss.flatten = innerNodesAfter fingerprint 0 p.levels := by
  have hInner : ∀ v ∈ innerNodesAfter fingerprint 0 p.levels,
      (Slot.reserved? ∘ .var) v = some v := fun v hv =>
    mem_reserved?.mpr ⟨rfl, isReserved_of_mem_innerNodesAfter hv⟩
  have hNodes : (nodesAfter fingerprint p.finish 0 p.levels).filterMap Slot.reserved? =
      innerNodesAfter fingerprint 0 p.levels := by
    rw [nodesAfter, List.filterMap_append, List.filterMap_map, List.filterMap_congr hInner,
      List.filterMap_some, List.filterMap_cons_none p.finish_free, List.filterMap_nil, List.append_nil]
  have hStart : ∀ v ∈ p.start.reserved?, v ∈ ([] : List Variable) := by
    rw [p.start_free]
    intro v hv
    cases hv
  have hNodup : ([] ++ (nodesAfter fingerprint p.finish 0 p.levels).filterMap Slot.reserved?).Nodup := by
    rw [hNodes]
    exact nodup_innerNodesAfter
  have hFirsts := h.reserved_eq hStart hNodup
  rwa [hNodes] at hFirsts

/-! ## Chains -/

/-- A path has no chain of patterns if it has no levels, or if a literal would be the subject of a
pattern: a start that is left by a forward step, or a finish that is reached by an inverse one. -/
theorem exists_error_iff {p : Path} {fingerprint : String} :
    (∃ e, p.compileWith fingerprint = .error e) ↔
      p.levels = [] ∨
      (p.start.isLiteral = true ∧ ∃ l ∈ p.levels.head?, ∃ s ∈ l.steps, s.inverse = false) ∨
      (p.finish.isLiteral = true ∧ ∃ l ∈ p.levels.getLast?, ∃ s ∈ l.steps, s.inverse = true) := by
  have hOk : (∃ e, p.compileWith fingerprint = .error e) ↔
      ¬ ∃ patterns, p.compileWith fingerprint = .ok patterns := by
    cases p.compileWith fingerprint <;> simp
  rw [hOk, exists_compileWith_iff, not_and_or, not_and_or, not_not]
  refine or_congr .rfl (or_congr ?_ ?_)
  · rw [Slot.admits_subject]
    cases p.start.isLiteral <;> simp
  · rw [Slot.admits_subject]
    cases p.finish.isLiteral <;> simp

/-- The nodes of a path: the start, the inner nodes and the finish. -/
def nodesOver (p : Path) (inner : List Variable) : List Slot := p.start :: inner.map .var ++ [p.finish]

/-- Whatever names its inner nodes are given, a path compiles unless it has no levels or has a literal
where a pattern needs a subject. Its patterns then connect each node with the next one, level by level.
The inner nodes are distinct and no variables of the path, they are the reserved variables of the
patterns, and each level is a block of its own, to be joined. -/
theorem compile_chain (p : Path) (fingerprint : String) :
    (∀ l ∈ p.levels, (∀ s, l ≠ .single s) → 2 ≤ l.steps.length) ∧
    ((∃ e, p.compileWith fingerprint = .error e) ↔
      p.levels = [] ∨
      (p.start.isLiteral = true ∧ ∃ l ∈ p.levels.head?, ∃ s ∈ l.steps, s.inverse = false) ∨
      (p.finish.isLiteral = true ∧ ∃ l ∈ p.levels.getLast?, ∃ s ∈ l.steps, s.inverse = true)) ∧
    ∀ patterns, p.compileWith fingerprint = .ok patterns →
      ∃ (inner : List Variable) (pss : List (List Pattern)),
        inner.Nodup ∧ (∀ v ∈ inner, v ∉ p.vars) ∧ (p.nodesOver inner).length = p.depth + 1 ∧
        patterns = pss.flatten ∧ pss.length = p.depth ∧
        (∀ i l, p.levels[i]? = some l → ∃ left right ps, (p.nodesOver inner)[i]? = some left ∧
          (p.nodesOver inner)[i + 1]? = some right ∧ pss[i]? = some ps ∧ Connects left right l ps) ∧
        Block.plan patterns = pss.map (fun ps => ⟨.join, ps⟩) ∧
        reservedVariables patterns = inner ∧
        (fingerprint = p.fingerprint → p.innerNodes = .ok inner) := by
  refine ⟨fun l _ hl => ?_, exists_error_iff, fun patterns h => ?_⟩
  · cases l with
    | single s => exact absurd rfl (hl s)
    | choice first second more => exact Nat.le_add_left 2 more.length
  · obtain ⟨pss, rfl, hCompiled⟩ := compiled_of_compileWith h
    obtain ⟨hNodes, hPatterns⟩ := hCompiled.length_eq
    have hReserved := reservedVariables_eq hCompiled
    refine ⟨innerNodesAfter fingerprint 0 p.levels, pss, nodup_innerNodesAfter, fun v hv hVar => ?_,
      congrArg (· + 1) hNodes, rfl, hPatterns, fun i l hl => hCompiled.exists_connects hl,
      hCompiled.plan_eq, hReserved, ?_⟩
    · have hFree := isReserved_of_mem_vars hVar
      rw [isReserved_of_mem_innerNodesAfter hv] at hFree
      cases hFree
    · rintro rfl
      rw [innerNodes, compile, h, ← hReserved]
      rfl

/-- To a literal over a choice with an inverse step in front, an inverse step and a forward one. -/
theorem compile_chain_mixed :
    let node : Iri := Datatype.integer.iri
    let forward : Step := ⟨.term (.iri node), false, rfl, rfl⟩
    let backward : Step := ⟨.term (.iri node), true, rfl, rfl⟩
    let p : Path := ⟨.var ⟨"x"⟩, .term (.simple "a"), [.choice backward forward [forward], .single backward,
      .single forward], .plain, by decide, rfl⟩
    ∃ patterns v w, p.compile = .ok patterns ∧ v ≠ w ∧ p.innerNodes = .ok [v, w] ∧
      (Block.plan patterns).length = 3 ∧
      (patterns.map Pattern.slots) =
        [[.var v, .term (.iri node), .var ⟨"x"⟩], [.var ⟨"x"⟩, .term (.iri node), .var v],
          [.var ⟨"x"⟩, .term (.iri node), .var v], [.var w, .term (.iri node), .var v],
          [.var w, .term (.iri node), .term (.simple "a")]] := by
  intro node forward backward p
  obtain ⟨_, hError, hChain⟩ := compile_chain p p.fingerprint
  obtain ⟨patterns, h⟩ : ∃ patterns, p.compile = .ok patterns := by
    cases h : p.compile with
    | ok patterns => exact ⟨patterns, rfl⟩
    | error e =>
      rcases hError.mp ⟨e, h⟩ with hLevels | ⟨hStart, _⟩ | ⟨_, hFinish⟩
      · cases hLevels
      · cases hStart
      · exact absurd hFinish (by decide)
  obtain ⟨inner, pss, hNodup, _, hNodes, rfl, hDepth, hConnects, hPlan, _, hInner⟩ := hChain patterns h
  have hInnerLength : inner.length + 1 = p.depth := by simpa [nodesOver] using hNodes
  obtain ⟨v, w, rfl⟩ : ∃ v w, inner = [v, w] := List.length_eq_two.mp (Nat.succ.inj hInnerLength)
  obtain ⟨ps, qs, rs, rfl⟩ : ∃ ps qs rs, pss = [ps, qs, rs] := List.length_eq_three.mp hDepth
  refine ⟨_, v, w, h, by simpa using hNodup, hInner rfl, by rw [hPlan]; rfl, ?_⟩
  obtain ⟨_, _, _, ⟨⟩, ⟨⟩, ⟨⟩, hFirst⟩ := hConnects 0 _ rfl
  obtain ⟨_, _, _, ⟨⟩, ⟨⟩, ⟨⟩, hSecond⟩ := hConnects 1 _ rfl
  obtain ⟨_, _, _, ⟨⟩, ⟨⟩, ⟨⟩, hThird⟩ := hConnects 2 _ rfl
  simp only [List.flatten_cons, List.flatten_nil, List.append_nil, List.map_append, hFirst.slots_eq,
    hSecond.slots_eq, hThird.slots_eq]
  rfl

end Path

end GraphQuery
