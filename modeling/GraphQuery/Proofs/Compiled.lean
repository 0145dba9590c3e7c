import GraphQuery.Proofs.Conjunction

/-! # Compiled paths

What compiling a path makes: level by level, alternatives between the nodes before and after it.

* `Path.innerNodesAfter`, `Path.nodesAfter` — the nodes that levels lead to.
* `Path.Compiled` — alternatives that stand for levels between nodes.
* `Path.compiled_of_compileWith` — compiling makes such alternatives.
* `Path.exists_compileWith_iff` — when it does, which has nothing to do with the names of the nodes.
* `Path.nodup_innerNodesAfter`, `Path.isReserved_of_mem_innerNodesAfter` — the inner nodes are
  distinct and their names reserved.
-/

namespace GraphQuery.Path

/-! ## Nodes -/

/-- The inner nodes that levels lead to, after a number of patterns. -/
def innerNodesAfter (fingerprint : String) (emitted : Nat) : List Level → List Variable
  | [] => []
  | [_] => []
  | level :: rest =>
    innerNode fingerprint emitted :: innerNodesAfter fingerprint (emitted + level.steps.length) rest

/-- The nodes that levels lead to: the inner nodes, and last the finish. -/
def nodesAfter (fingerprint : String) (finish : Slot) (emitted : Nat) (levels : List Level) :
    List Slot :=
  (innerNodesAfter fingerprint emitted levels).map .var ++ [finish]

variable {fingerprint : String} {start finish left right : Slot} {emitted : Nat}

theorem innerNode_injective {m n : Nat} (h : innerNode fingerprint m = innerNode fingerprint n) :
    m = n := by
  have hRepr : m.repr = n.repr := (String.append_right_inj _).mp (congrArg Variable.name h)
  have hDigits := congrArg String.toList hRepr
  rw [Nat.toList_repr, Nat.toList_repr] at hDigits
  rw [← Nat.ofDigitChars_ten_toDigits (n := m), hDigits, Nat.ofDigitChars_ten_toDigits]

theorem isReserved_innerNode (n : Nat) : (innerNode fingerprint n).isReserved = true := by
  simp [innerNode, Variable.isReserved, Variable.reservedStart]

theorem Level.steps_ne_nil (l : Level) : l.steps ≠ [] := by
  cases l <;> exact List.cons_ne_nil _ _

theorem length_innerNodesAfter {levels : List Level} (h : levels ≠ []) :
    (innerNodesAfter fingerprint emitted levels).length + 1 = levels.length := by
  induction levels generalizing emitted with
  | nil => exact absurd rfl h
  | cons l rest ih =>
    cases rest with
    | nil => rfl
    | cons l' rest => exact congrArg (· + 1) (ih (List.cons_ne_nil l' rest))

/-- The number of patterns grows with every level, for no level is without steps. -/
theorem exists_innerNode_of_mem {levels : List Level} {v : Variable}
    (h : v ∈ innerNodesAfter fingerprint emitted levels) :
    ∃ n, emitted ≤ n ∧ v = innerNode fingerprint n := by
  induction levels generalizing emitted with
  | nil => cases h
  | cons l rest ih =>
    cases rest with
    | nil => cases h
    | cons l' rest =>
      rcases List.mem_cons.mp h with rfl | h
      · exact ⟨emitted, Nat.le_refl _, rfl⟩
      · obtain ⟨n, hn, hv⟩ := ih h
        exact ⟨n, by omega, hv⟩

theorem isReserved_of_mem_innerNodesAfter {levels : List Level} {v : Variable}
    (h : v ∈ innerNodesAfter fingerprint emitted levels) : v.isReserved = true := by
  obtain ⟨n, _, rfl⟩ := exists_innerNode_of_mem h
  exact isReserved_innerNode n

theorem nodup_innerNodesAfter {levels : List Level} :
    (innerNodesAfter fingerprint emitted levels).Nodup := by
  induction levels generalizing emitted with
  | nil => exact List.nodup_nil
  | cons l rest ih =>
    cases rest with
    | nil => exact List.nodup_nil
    | cons l' rest =>
      refine List.nodup_cons.mpr ⟨fun hMem => ?_, ih⟩
      -- Later inner nodes have larger numbers than this one.
      obtain ⟨n, hn, hNode⟩ := exists_innerNode_of_mem hMem
      have hSame := innerNode_injective hNode
      have hSteps := List.length_pos_iff.mpr l.steps_ne_nil
      omega

/-! ## Steps -/

/-- The slots of the pattern of a step between two nodes. -/
def Step.slotsBetween (s : Step) (left right : Slot) : List Slot :=
  if s.inverse then [right, s.predicate, left] else [left, s.predicate, right]

/-- The node that becomes the subject of the pattern of a step. -/
def Step.subjectOf (s : Step) (left right : Slot) : Slot := if s.inverse then right else left

theorem mem_slotsBetween {s : Step} {x : Slot} :
    x ∈ s.slotsBetween left right ↔ x = left ∨ x = right ∨ x = s.predicate := by
  unfold Step.slotsBetween
  split <;> simp only [List.mem_cons, List.not_mem_nil, or_false] <;> tauto

theorem ofTriple_eq {subject predicate object : Slot}
    (hSubject : Position.subject.admits subject = true)
    (hPredicate : Position.predicate.admits predicate = true) :
    Pattern.ofTriple subject predicate object =
      .ok ⟨none, subject, predicate, object, .plain, rfl, hSubject, hPredicate⟩ := by
  simp [Pattern.ofTriple, Pattern.ofSlots, hSubject, hPredicate]

theorem admits_of_ofTriple {subject predicate object : Slot} {p : Pattern}
    (h : Pattern.ofTriple subject predicate object = .ok p) :
    Position.subject.admits subject = true := by
  unfold Pattern.ofTriple Pattern.ofSlots at h
  split at h
  · split at h
    · assumption
    · cases h
  · cases h

/-- A step has a pattern exactly if the slot in its subject is admitted there. -/
theorem Step.exists_toPattern_iff {s : Step} :
    (∃ p, s.toPattern left right = .ok p) ↔
      Position.subject.admits (s.subjectOf left right) = true := by
  unfold toPattern subjectOf
  split
  · exact ⟨fun ⟨_, h⟩ => admits_of_ofTriple h, fun h => ⟨_, ofTriple_eq h s.admitted⟩⟩
  · exact ⟨fun ⟨_, h⟩ => admits_of_ofTriple h, fun h => ⟨_, ofTriple_eq h s.admitted⟩⟩

theorem Step.slots_of_toPattern {s : Step} {p : Pattern} (h : s.toPattern left right = .ok p) :
    p.slots = s.slotsBetween left right ∧ p.linking = .plain := by
  have hSubject := exists_toPattern_iff.mp ⟨p, h⟩
  unfold toPattern at h
  unfold subjectOf at hSubject
  unfold slotsBetween
  split at h
  · rename_i hInverse
    rw [if_pos hInverse] at hSubject ⊢
    rw [ofTriple_eq hSubject s.admitted] at h
    cases h
    exact ⟨rfl, rfl⟩
  · rename_i hInverse
    rw [if_neg hInverse] at hSubject ⊢
    rw [ofTriple_eq hSubject s.admitted] at h
    cases h
    exact ⟨rfl, rfl⟩

/-! ## Levels -/

/-- Required patterns, one for each step between two nodes, each but the last an alternative of the
next one. -/
structure IsLevel (left right : Slot) (steps : List Step) (ps : List Pattern) : Prop where
  slots_eq : ps.map Pattern.slots = steps.map fun s => s.slotsBetween left right
  alternatives : Block.Alternatives ps
  required : ∀ p ∈ ps, p.linking.optional = false

theorem patternsOfSteps_cons {s s' : Step} {steps : List Step} {ps : List Pattern} :
    patternsOfSteps left right (s :: s' :: steps) = .ok ps ↔
      ∃ p qs, s.toPattern left right = .ok p ∧ patternsOfSteps left right (s' :: steps) = .ok qs ∧
        ps = { p with linking := p.linking.withUnion true } :: qs := by
  rw [patternsOfSteps]
  · cases s.toPattern left right with
    | error e => exact ⟨(fun h => nomatch h), fun ⟨_, _, h, _⟩ => nomatch h⟩
    | ok p =>
      cases patternsOfSteps left right (s' :: steps) with
      | error e => exact ⟨(fun h => nomatch h), fun ⟨_, _, _, h, _⟩ => nomatch h⟩
      | ok qs =>
        constructor
        · rintro ⟨⟩
          exact ⟨p, qs, rfl, rfl, rfl⟩
        · rintro ⟨_, _, ⟨⟩, ⟨⟩, rfl⟩
          rfl
  · exact fun e => nomatch e

theorem isLevel_of_patternsOfSteps {steps : List Step} {ps : List Pattern} (hSteps : steps ≠ [])
    (h : patternsOfSteps left right steps = .ok ps) : IsLevel left right steps ps := by
  induction steps generalizing ps with
  | nil => exact absurd rfl hSteps
  | cons s steps ih =>
    cases steps with
    | nil =>
      cases hp : s.toPattern left right with
      | error e =>
        rw [patternsOfSteps, hp] at h
        cases h
      | ok p =>
        rw [patternsOfSteps, hp] at h
        cases h
        obtain ⟨hSlots, hLinking⟩ := Step.slots_of_toPattern hp
        refine ⟨congrArg (· :: []) hSlots, .last ?_ ?_, List.forall_mem_singleton.mpr ?_⟩
        · exact congrArg Linking.isUnion hLinking
        · exact congrArg Linking.isMinus hLinking
        · exact congrArg Linking.optional hLinking
    | cons s' steps =>
      obtain ⟨p, qs, hp, hqs, rfl⟩ := patternsOfSteps_cons.mp h
      obtain ⟨hSlots, hLinking⟩ := Step.slots_of_toPattern hp
      have hRest := ih (List.cons_ne_nil s' steps) hqs
      refine ⟨?_, .cons ?_ hRest.alternatives, List.forall_mem_cons.mpr ⟨?_, hRest.required⟩⟩
      · rw [List.map_cons, List.map_cons, hRest.slots_eq]
        exact congrArg (· :: _) hSlots
      · show (p.linking.withUnion true).isUnion = true
        rw [hLinking]
        rfl
      · show (p.linking.withUnion true).optional = false
        rw [hLinking]
        rfl

/-- Steps have patterns exactly if each of them has one. -/
theorem exists_patternsOfSteps_iff {steps : List Step} :
    (∃ ps, patternsOfSteps left right steps = .ok ps) ↔
      ∀ s ∈ steps, Position.subject.admits (s.subjectOf left right) = true := by
  induction steps with
  | nil => exact ⟨fun _ _ hs => absurd hs List.not_mem_nil, fun _ => ⟨[], rfl⟩⟩
  | cons s steps ih =>
    rw [List.forall_mem_cons, ← Step.exists_toPattern_iff, ← ih]
    cases steps with
    | nil =>
      constructor
      · rintro ⟨ps, h⟩
        cases hp : s.toPattern left right with
        | error e =>
          rw [patternsOfSteps, hp] at h
          cases h
        | ok p => exact ⟨⟨p, rfl⟩, [], rfl⟩
      · rintro ⟨⟨p, hp⟩, _⟩
        exact ⟨[p], by rw [patternsOfSteps, hp]; rfl⟩
    | cons s' steps =>
      constructor
      · rintro ⟨ps, h⟩
        obtain ⟨p, qs, hp, hqs, _⟩ := patternsOfSteps_cons.mp h
        exact ⟨⟨p, hp⟩, qs, hqs⟩
      · rintro ⟨⟨p, hp⟩, qs, hqs⟩
        exact ⟨_, patternsOfSteps_cons.mpr ⟨p, qs, hp, hqs, rfl⟩⟩

/-! ## Levels in a row -/

/-- Alternatives for each level, between the nodes before and after it. -/
inductive Compiled : Slot → List Slot → List Level → List (List Pattern) → Prop
  | nil (node : Slot) : Compiled node [] [] []
  | cons {left right : Slot} {nodes : List Slot} {l : Level} {levels : List Level} {ps : List Pattern}
      {pss : List (List Pattern)} : IsLevel left right l.steps ps → Compiled right nodes levels pss →
      Compiled left (right :: nodes) (l :: levels) (ps :: pss)

theorem patternsOfLevels_cons {l l' : Level} {levels : List Level} {patterns : List Pattern} :
    patternsOfLevels fingerprint finish emitted left (l :: l' :: levels) = .ok patterns ↔
      ∃ ps qs, patternsOfSteps left (.var (innerNode fingerprint emitted)) l.steps = .ok ps ∧
        patternsOfLevels fingerprint finish (emitted + l.steps.length)
          (.var (innerNode fingerprint emitted)) (l' :: levels) = .ok qs ∧ patterns = ps ++ qs := by
  rw [patternsOfLevels]
  · cases patternsOfSteps left (.var (innerNode fingerprint emitted)) l.steps with
    | error e => exact ⟨(fun h => nomatch h), fun ⟨_, _, h, _⟩ => nomatch h⟩
    | ok ps =>
      cases patternsOfLevels fingerprint finish (emitted + l.steps.length)
          (.var (innerNode fingerprint emitted)) (l' :: levels) with
      | error e => exact ⟨(fun h => nomatch h), fun ⟨_, _, _, h, _⟩ => nomatch h⟩
      | ok qs =>
        constructor
        · rintro ⟨⟩
          exact ⟨ps, qs, rfl, rfl, rfl⟩
        · rintro ⟨_, _, ⟨⟩, ⟨⟩, rfl⟩
          rfl
  · exact fun e => nomatch e

theorem compiled_of_patternsOfLevels {levels : List Level} {patterns : List Pattern}
    (hLevels : levels ≠ [])
    (h : patternsOfLevels fingerprint finish emitted left levels = .ok patterns) :
    ∃ pss, patterns = pss.flatten ∧
      Compiled left (nodesAfter fingerprint finish emitted levels) levels pss := by
  induction levels generalizing emitted left patterns with
  | nil => exact absurd rfl hLevels
  | cons l levels ih =>
    cases levels with
    | nil =>
      have hLevel := isLevel_of_patternsOfSteps l.steps_ne_nil h
      exact ⟨[patterns], (List.append_nil patterns).symm, .cons hLevel (.nil finish)⟩
    | cons l' levels =>
      obtain ⟨ps, qs, hps, hqs, rfl⟩ := patternsOfLevels_cons.mp h
      obtain ⟨pss, rfl, hRest⟩ := ih (List.cons_ne_nil l' levels) hqs
      exact ⟨ps :: pss, rfl, .cons (isLevel_of_patternsOfSteps l.steps_ne_nil hps) hRest⟩

theorem levels_ne_nil_of_compileWith {p : Path} {patterns : List Pattern}
    (h : p.compileWith fingerprint = .ok patterns) : p.levels ≠ [] := by
  intro e
  unfold compileWith at h
  rw [e] at h
  cases h

theorem compileWith_of_ne_nil {p : Path} (h : p.levels ≠ []) :
    p.compileWith fingerprint = patternsOfLevels fingerprint p.finish 0 p.start p.levels := by
  unfold compileWith
  split
  · rename_i e
    exact absurd e h
  · rfl

/-- The patterns of a path are alternatives for its levels, from the start over the inner nodes to
the finish. -/
theorem compiled_of_compileWith {p : Path} {patterns : List Pattern}
    (h : p.compileWith fingerprint = .ok patterns) :
    ∃ pss, patterns = pss.flatten ∧
      Compiled p.start (nodesAfter fingerprint p.finish 0 p.levels) p.levels pss := by
  have hLevels := levels_ne_nil_of_compileWith h
  rw [compileWith_of_ne_nil hLevels] at h
  exact compiled_of_patternsOfLevels hLevels h

/-! ## When paths compile -/

/-- Inner nodes are variables and admitted everywhere, so only the first level can fail on the node
before it and only the last one on the finish. -/
theorem exists_patternsOfLevels_iff {levels : List Level} (hLevels : levels ≠ []) :
    (∃ patterns, patternsOfLevels fingerprint finish emitted left levels = .ok patterns) ↔
      (∀ l ∈ levels.head?, ∀ s ∈ l.steps, s.inverse = false →
        Position.subject.admits left = true) ∧
      ∀ l ∈ levels.getLast?, ∀ s ∈ l.steps, s.inverse = true →
        Position.subject.admits finish = true := by
  -- Only the last level sees the finish, and after the first level the node before is a variable.
  induction levels generalizing emitted left with
  | nil => exact absurd rfl hLevels
  | cons l levels ih =>
    cases levels with
    | nil =>
      rw [patternsOfLevels, exists_patternsOfSteps_iff]
      simp only [List.head?_cons, List.getLast?_singleton, Option.mem_def, Option.some.injEq,
        forall_eq']
      constructor
      · intro h
        refine ⟨fun s hs hForward => ?_, fun s hs hInverse => ?_⟩
        · simpa [Step.subjectOf, hForward] using h s hs
        · simpa [Step.subjectOf, hInverse] using h s hs
      · rintro ⟨hForward, hInverse⟩ s hs
        unfold Step.subjectOf
        split
        · rename_i hs'
          exact hInverse s hs hs'
        · rename_i hs'
          exact hForward s hs (Bool.eq_false_iff.mpr hs')
    | cons l' levels =>
      have hInner : ∀ v, Position.subject.admits (.var v) = true := fun v => rfl
      have hRest : (∃ patterns, patternsOfLevels fingerprint finish (emitted + l.steps.length)
          (.var (innerNode fingerprint emitted)) (l' :: levels) = .ok patterns) ↔ _ :=
        ih (List.cons_ne_nil l' levels)
      simp only [hInner, implies_true, true_and] at hRest
      rw [List.getLast?_cons_cons, ← hRest]
      simp only [List.head?_cons, Option.mem_def, Option.some.injEq, forall_eq']
      constructor
      · rintro ⟨patterns, h⟩
        obtain ⟨ps, qs, hps, hqs, _⟩ := patternsOfLevels_cons.mp h
        refine ⟨fun s hs hForward => ?_, qs, hqs⟩
        simpa [Step.subjectOf, hForward] using exists_patternsOfSteps_iff.mp ⟨ps, hps⟩ s hs
      · rintro ⟨hForward, qs, hqs⟩
        obtain ⟨ps, hps⟩ : ∃ ps, patternsOfSteps left (.var (innerNode fingerprint emitted))
            l.steps = .ok ps := exists_patternsOfSteps_iff.mpr fun s hs => by
          unfold Step.subjectOf
          split
          · rfl
          · rename_i hs'
            exact hForward s hs (Bool.eq_false_iff.mpr hs')
        exact ⟨ps ++ qs, patternsOfLevels_cons.mpr ⟨ps, qs, hps, hqs, rfl⟩⟩

/-- The names of the inner nodes do not decide whether a path compiles. -/
theorem exists_compileWith_iff {p : Path} :
    (∃ patterns, p.compileWith fingerprint = .ok patterns) ↔
      p.levels ≠ [] ∧
      (∀ l ∈ p.levels.head?, ∀ s ∈ l.steps, s.inverse = false →
        Position.subject.admits p.start = true) ∧
      ∀ l ∈ p.levels.getLast?, ∀ s ∈ l.steps, s.inverse = true →
        Position.subject.admits p.finish = true := by
  by_cases hLevels : p.levels = []
  · refine ⟨fun ⟨patterns, h⟩ => absurd hLevels (levels_ne_nil_of_compileWith h), ?_⟩
    exact fun h => absurd hLevels h.1
  · rw [compileWith_of_ne_nil hLevels, exists_patternsOfLevels_iff hLevels]
    exact ⟨fun h => ⟨hLevels, h⟩, fun h => h.2⟩

end GraphQuery.Path
