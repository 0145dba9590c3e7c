import GraphQuery.Proofs.Similar

/-! # Where filters stand in a group

Filters are applied when everything else is done, so neither their places between the other members
nor their order makes a difference: not to what is wrong with a group, not to its plan, and not to its
table.

* `Member.filter?`, `Member.others` — the filters among members, and the other members.
* `Member.firstFault?` — what stops a group from being built.
* `Group.ofMembers`, `Group.ofMembers_eq` — groups that are built member by member.
* `Group.phasesAfter_others`, `Group.tableIn_eq_of_perm` — plan and table do not see the places.
* `Evaluator.outcome_group_filter_places` — nor does evaluation.
-/

namespace GraphQuery

namespace Member

/-- The filter that the member is, if it is one. -/
def filter? : Member → Option Filter
  | filter f => some f
  | _ => none

/-- The members that are no filters, in order. -/
def others (ms : List Member) : List Member := ms.filter (·.filter?.isNone)

/-- The first fault of members that follow members with certain variables. -/
def firstFault? (earlier : List Variable) : List Member → Option ConstructionError
  | [] => none
  | m :: rest => (m.fault? earlier).or (firstFault? (earlier ++ m.vars) rest)

variable {ms : List Member}

theorem others_cons_filter (f : Filter) : others (filter f :: ms) = others ms :=
  List.filter_cons_of_neg (by simp [filter?])

/-- A filter has no faults, and it has no variables that a later member could clash with. -/
theorem firstFault?_others (earlier : List Variable) :
    firstFault? earlier (others ms) = firstFault? earlier ms := by
  induction ms generalizing earlier with
  | nil => rfl
  | cons m ms ih =>
    cases m with
    | filter f =>
      have hVars : earlier ++ (filter f).vars = earlier := List.append_nil earlier
      rw [others_cons_filter, ih, firstFault?, hVars, fault?, Option.none_or]
    | operand o =>
      show firstFault? earlier (operand o :: others ms) = _
      rw [firstFault?, firstFault?, ih]
    | binding b =>
      show firstFault? earlier (binding b :: others ms) = _
      rw [firstFault?, firstFault?, ih]

end Member

namespace Group

/-! ## Building -/

theorem add_of_fault? {g : Group} {m : Member} {e : ConstructionError}
    (h : m.fault? (g.members.flatMap Member.vars) = some e) : g.add m = .error e := by
  unfold add
  split
  · rename_i hNone
    rw [hNone] at h
    cases h
  · rename_i e' hSome
    rw [hSome] at h
    cases h
    rfl

theorem exists_add_of_fault? {g : Group} {m : Member}
    (h : m.fault? (g.members.flatMap Member.vars) = none) :
    ∃ g', g.add m = .ok g' ∧ g'.members = g.members ++ [m] ∧ g'.service = g.service := by
  unfold add
  split
  · exact ⟨_, rfl, rfl, rfl⟩
  · rename_i hSome
    rw [hSome] at h
    cases h

/-- The group without endpoint whose members are added one after the other. -/
def ofMembers (linking : Linking) (ms : List Member) : Except ConstructionError Group :=
  ms.foldlM add { empty with linking }

theorem foldlM_add_of_firstFault? {g : Group} {ms : List Member} {e : ConstructionError}
    (h : Member.firstFault? (g.members.flatMap Member.vars) ms = some e) :
    ms.foldlM add g = .error e := by
  induction ms generalizing g with
  | nil => cases h
  | cons m ms ih =>
    rw [List.foldlM_cons]
    cases hFault : m.fault? (g.members.flatMap Member.vars) with
    | some e' =>
      rw [Member.firstFault?, hFault, Option.some_or, Option.some.injEq] at h
      rw [add_of_fault? hFault, h]
      rfl
    | none =>
      obtain ⟨g', hAdd, hMembers, _⟩ := exists_add_of_fault? hFault
      rw [Member.firstFault?, hFault, Option.none_or] at h
      rw [hAdd]
      refine ih ?_
      rw [hMembers, List.flatMap_append, List.flatMap_singleton]
      exact h

theorem exists_foldlM_add {g : Group} {ms : List Member}
    (h : Member.firstFault? (g.members.flatMap Member.vars) ms = none) :
    ∃ g', ms.foldlM add g = .ok g' ∧ g'.members = g.members ++ ms ∧ g'.service = g.service := by
  induction ms generalizing g with
  | nil => exact ⟨g, rfl, (List.append_nil g.members).symm, rfl⟩
  | cons m ms ih =>
    rw [Member.firstFault?, Option.or_eq_none_iff] at h
    obtain ⟨g₁, hAdd, hMembers, hService⟩ := exists_add_of_fault? h.1
    have hRest : Member.firstFault? (g₁.members.flatMap Member.vars) ms = none := by
      rw [hMembers, List.flatMap_append, List.flatMap_singleton]
      exact h.2
    obtain ⟨g₂, hFold, hMembers', hService'⟩ := ih hRest
    refine ⟨g₂, ?_, ?_, hService'.trans hService⟩
    · rw [List.foldlM_cons, hAdd]
      exact hFold
    · rw [hMembers', hMembers, List.append_assoc, List.singleton_append]

/-- Building stops at the first fault. Without faults all members are there, in order. -/
theorem ofMembers_eq (linking : Linking) (ms : List Member) :
    (∃ e, Member.firstFault? [] ms = some e ∧ ofMembers linking ms = .error e) ∨
      Member.firstFault? [] ms = none ∧
        ∃ g, ofMembers linking ms = .ok g ∧ g.members = ms ∧ g.service = none := by
  cases h : Member.firstFault? [] ms with
  | some e => exact .inl ⟨e, rfl, foldlM_add_of_firstFault? (g := { empty with linking }) h⟩
  | none => exact .inr ⟨rfl, exists_foldlM_add (g := { empty with linking }) h⟩

/-! ## Evaluation -/

theorem phasesAfter_others (run : List Operand) (ms : List Member) :
    phasesAfter run (Member.others ms) = phasesAfter run ms := by
  induction ms generalizing run with
  | nil => rfl
  | cons m ms ih =>
    cases m with
    | filter f =>
      rw [Member.others_cons_filter, phasesAfter]
      exact ih run
    | operand o =>
      show phasesAfter run (.operand o :: Member.others ms) = _
      rw [phasesAfter, phasesAfter]
      exact ih (run ++ [o])
    | binding b =>
      show phasesAfter run (.binding b :: Member.others ms) = _
      rw [phasesAfter, phasesAfter, ih]

theorem filters_eq (g : Group) : g.filters = g.members.filterMap Member.filter? := rfl

/-- Which sub-patterns are matched is not a matter of the order of the filters, and a row has to pass
all of them anyway. -/
theorem tableIn_eq_of_perm (quads : List Quad) {g h : Group} (hPlan : g.plan = h.plan)
    (hFilters : g.filters.Perm h.filters) : g.tableIn quads = h.tableIn quads := by
  have hTable : ∀ p, (subPatternsIn quads g.filters).table? p =
      (subPatternsIn quads h.filters).table? p := fun p => by
    rw [table?_subPatternsIn, table?_subPatternsIn]
    simp only [(hFilters.flatMap_right Filter.subPatterns).mem_iff]
  have hKeeps : ∀ r, (g.filters.all fun f => f.keeps (subPatternsIn quads g.filters) r) =
      h.filters.all fun f => f.keeps (subPatternsIn quads h.filters) r := fun r => by
    rw [hFilters.all_eq]
    congr 1
    funext f
    exact Filter.keeps_congr fun p _ => by rw [hTable p]
  unfold tableIn
  rw [hPlan, funext hKeeps]

end Group

/-- Two groups are built from the same operands and bindings in the same order, and from the same
filters, which may stand anywhere in any order. Either both have a fault, and it is the same one, or
both are built. Then they have the same plan, and over every local source the same table, with its
columns and rows in the same order. -/
theorem Evaluator.outcome_group_filter_places {ms ns : List Member} (linking linking' : Linking)
    (hOthers : Member.others ms = Member.others ns)
    (hFilters : (ms.filterMap Member.filter?).Perm (ns.filterMap Member.filter?)) :
    (∃ e, Group.ofMembers linking ms = .error e ∧ Group.ofMembers linking' ns = .error e) ∨
      ∃ g h, Group.ofMembers linking ms = .ok g ∧ Group.ofMembers linking' ns = .ok h ∧
        g.plan = h.plan ∧
        ∀ v : Evaluator, v.source.IsLocal →
          ∃ t, (v.group g).outcome = .ok t ∧ (v.group h).outcome = .ok t := by
  have hFault : Member.firstFault? [] ms = Member.firstFault? [] ns := by
    rw [← Member.firstFault?_others, hOthers, Member.firstFault?_others]
  rcases Group.ofMembers_eq linking ms with ⟨e, he, hBuilt⟩ | ⟨hNone, g, hBuilt, hMembers, hService⟩
  · rcases Group.ofMembers_eq linking' ns with ⟨e', he', hBuilt'⟩ | ⟨hNone', _⟩
    · rw [← hFault, he] at he'
      cases he'
      exact .inl ⟨e, hBuilt, hBuilt'⟩
    · rw [← hFault, he] at hNone'
      cases hNone'
  · rcases Group.ofMembers_eq linking' ns with ⟨e', he', _⟩ | ⟨_, h, hBuilt', hMembers', hService'⟩
    · rw [← hFault, hNone] at he'
      cases he'
    · have hPlan : g.plan = h.plan := by
        unfold Group.plan
        rw [hMembers, hMembers', ← Group.phasesAfter_others, hOthers, Group.phasesAfter_others]
      have hPerm : g.filters.Perm h.filters := by
        rw [Group.filters_eq, Group.filters_eq, hMembers, hMembers']
        exact hFilters
      refine .inr ⟨g, h, hBuilt, hBuilt', hPlan, fun v hv => ⟨g.tableIn v.source.quads, ?_, ?_⟩⟩
      · exact (yields_group hv hService).outcome_eq
      · rw [Group.tableIn_eq_of_perm v.source.quads hPlan hPerm]
        exact (yields_group hv hService').outcome_eq

/-- A filter between two alternatives and one after a binding move to the front and change places. -/
theorem Evaluator.outcome_group_filter_places_front :
    let node : Iri := Datatype.integer.iri
    let p : Pattern :=
      ⟨none, .var ⟨"x"⟩, .term (.iri node), .var ⟨"y"⟩, ⟨false, .union⟩, rfl, rfl, rfl⟩
    let q : Pattern := ⟨none, .var ⟨"y"⟩, .var ⟨"z"⟩, .var ⟨"x"⟩, .plain, rfl, rfl, rfl⟩
    let f : Filter := .isLiteral ⟨"b"⟩
    let f' : Filter := .hasNoMatch
      ⟨⟨some (.term (.iri node)), .var ⟨"x"⟩, .var ⟨"p"⟩, .var ⟨"y"⟩, .plain, rfl, rfl, rfl⟩, rfl⟩
    let b : Binding := ⟨⟨"b"⟩, .unary .str (.var ⟨"y"⟩)⟩
    let ms : List Member :=
      [.operand (.pattern p), .filter f, .operand (.pattern q), .binding b, .filter f']
    let ns : List Member :=
      [.filter f', .filter f, .operand (.pattern p), .operand (.pattern q), .binding b]
    ∃ g h, Group.ofMembers .plain ms = .ok g ∧ Group.ofMembers ⟨true, .minus⟩ ns = .ok h ∧
      g.members = ms ∧ h.members = ns ∧ g.plan = h.plan ∧
      ∀ v : Evaluator, v.source.IsLocal →
        ∃ t, (v.group g).outcome = .ok t ∧ (v.group h).outcome = .ok t := by
  intro node p q f f' b ms ns
  have hOthers : Member.others ms = Member.others ns := rfl
  have hPerm : (ms.filterMap Member.filter?).Perm (ns.filterMap Member.filter?) := .swap f' f []
  have hBuilt : ∀ linking xs, Member.firstFault? [] xs = none →
      ∃ g, Group.ofMembers linking xs = .ok g ∧ g.members = xs := fun linking xs hNone => by
    rcases Group.ofMembers_eq linking xs with ⟨e, he, _⟩ | ⟨_, g, hg, hMembers, _⟩
    · rw [hNone] at he
      cases he
    · exact ⟨g, hg, hMembers⟩
  obtain ⟨g, hg, hMembers⟩ := hBuilt .plain ms (by decide)
  obtain ⟨h, hh, hMembers'⟩ := hBuilt ⟨true, .minus⟩ ns (by decide)
  rcases outcome_group_filter_places .plain ⟨true, .minus⟩ hOthers hPerm with
    ⟨e, he, _⟩ | ⟨g', h', hg', hh', hPlan, hTable⟩
  · rw [hg] at he
    cases he
  · cases hg.symm.trans hg'
    cases hh.symm.trans hh'
    exact ⟨g, h, hg, hh, hMembers, hMembers', hPlan, hTable⟩

end GraphQuery
