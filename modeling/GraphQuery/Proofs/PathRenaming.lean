import GraphQuery.Proofs.Renaming
import GraphQuery.Proofs.Walks

/-! # Renamed patterns and paths

A path is compiled to patterns whose inner nodes are named after the written path, and the written
path changes when its variables are renamed. The names of inner nodes do not matter, so that both
paths may be compiled with the same ones. Then only the other variables are renamed, and these keep
clear of reserved names.

* `Slot.rename`, `Pattern.rename` — patterns under other variables.
* `Pattern.solutionsIn_rename` — their solutions are the renamed ones.
* `Renaming` — new names for all variables, different and not reserved.
* `Path.rename`, `Path.walksIn_rename` — paths under other variables.
-/

namespace GraphQuery

variable {f g : Variable → Variable} {r : Row} {quads : List Quad}

/-! ## Slots -/

namespace Slot

/-- The slot under other variables. -/
def rename (f : Variable → Variable) : Slot → Slot
  | var v => .var (f v)
  | term t => .term t

variable {s : Slot}

@[simp] theorem var?_rename : (s.rename f).var? = s.var?.map f := by
  cases s <;> rfl

@[simp] theorem term?_rename : (s.rename f).term? = s.term? := by
  cases s <;> rfl

theorem admits_rename (position : Position) : position.admits (s.rename f) = position.admits s := by
  cases s with
  | var v => cases position <;> rfl
  | term t => rfl

theorem rename_congr (h : ∀ v ∈ s.var?, f v = g v) : s.rename f = s.rename g := by
  cases s with
  | var v => exact congrArg var (h v rfl)
  | term t => rfl

theorem rename_injective (hf : Function.Injective f) : Function.Injective (rename f) := by
  intro s t h
  cases s with
  | var v => cases t with
    | var w => exact congrArg var (hf (var.inj h))
    | term t => cases h
  | term s => cases t with
    | var w => cases h
    | term t => exact h

/-- The distinct variables of renamed slots. -/
theorem firsts_rename (hf : Function.Injective f) (slots : List Slot) :
    firsts ((slots.map (rename f)).filterMap var?) = (firsts (slots.filterMap var?)).map f := by
  rw [← firsts_map hf, List.filterMap_map, List.map_filterMap]
  exact congrArg firsts (List.filterMap_congr fun s _ => var?_rename)

theorem cell_rename (hf : Function.Injective f) : (s.rename f).cell (r.rename f) = s.cell r := by
  cases s with
  | var v => exact Row.cell_rename hf
  | term t => rfl

theorem bindTo?_rename (hf : Function.Injective f) (t : Term) :
    (s.rename f).bindTo? t (r.rename f) = (s.bindTo? t r).map (Row.rename f) := by
  cases s with
  | term expected =>
    simp only [rename, bindTo?]
    split <;> rfl
  | var v =>
    simp only [rename, bindTo?, Row.term?_rename hf]
    cases r.term? v with
    | none => exact congrArg some (Row.rename_set hf (some t)).symm
    | some bound =>
      dsimp only
      split <;> rfl

theorem foldlM_bindTo?_rename (hf : Function.Injective f) (places : List (Slot × Term)) :
    (places.map fun place => (place.1.rename f, place.2)).foldlM
        (fun r (place : Slot × Term) => place.1.bindTo? place.2 r) (r.rename f) =
      (places.foldlM (fun r (place : Slot × Term) => place.1.bindTo? place.2 r) r).map
        (Row.rename f) := by
  -- Places are solved one after the other, and the rows on the way are the renamed ones.
  induction places generalizing r with
  | nil => rfl
  | cons place places ih =>
    rw [List.map_cons, List.foldlM_cons, List.foldlM_cons, bindTo?_rename hf]
    cases place.1.bindTo? place.2 r with
    | none => rfl
    | some s => exact ih

end Slot

/-! ## Patterns -/

namespace Pattern

/-- The pattern under other variables. -/
def rename (f : Variable → Variable) (p : Pattern) : Pattern where
  context := p.context.map (Slot.rename f)
  subject := p.subject.rename f
  predicate := p.predicate.rename f
  object := p.object.rename f
  linking := p.linking
  context_admitted := by
    rw [Option.all_map, ← p.context_admitted]
    exact congrArg (Option.all · p.context) (funext fun s => Slot.admits_rename .context)
  subject_admitted := (Slot.admits_rename .subject).trans p.subject_admitted
  predicate_admitted := (Slot.admits_rename .predicate).trans p.predicate_admitted

variable {p : Pattern} {q : Quad}

theorem slots_rename : (p.rename f).slots = p.slots.map (Slot.rename f) := by
  obtain ⟨context, subject, predicate, object, linking, _, _, _⟩ := p
  cases context <;> rfl

theorem vars_rename (hf : Function.Injective f) : (p.rename f).vars = p.vars.map f := by
  unfold vars
  rw [slots_rename, Slot.firsts_rename hf]

theorem rename_injective (hf : Function.Injective f) : Function.Injective (rename f) := by
  intro p q h
  have hSlot := Slot.rename_injective hf
  have hContext := Option.map_injective hSlot (congrArg context h)
  have hSubject := hSlot (congrArg subject h)
  have hPredicate := hSlot (congrArg predicate h)
  have hObject := hSlot (congrArg object h)
  have hLinking : (p.rename f).linking = (q.rename f).linking := congrArg linking h
  cases p
  cases q
  cases hContext
  cases hSubject
  cases hPredicate
  cases hObject
  cases hLinking
  rfl

theorem places?_rename :
    (p.rename f).places? q =
      (p.places? q).map (List.map fun place => (place.1.rename f, place.2)) := by
  obtain ⟨context, subject, predicate, object, linking, _, _, _⟩ := p
  unfold places?
  cases context <;> cases q.graph <;> rfl

theorem solution?_rename (hf : Function.Injective f) :
    (p.rename f).solution? q = (p.solution? q).map (Row.rename f) := by
  rw [solution?_eq, solution?_eq, places?_rename]
  cases p.places? q with
  | none => rfl
  | some places => exact Slot.foldlM_bindTo?_rename (r := Row.empty) hf places

/-- A renamed pattern has the renamed solutions. -/
theorem solutionsIn_rename (hf : Function.Injective f) :
    (p.rename f).solutionsIn quads = (p.solutionsIn quads).rename f := by
  rw [solutionsIn_eq, solutionsIn_eq, vars_rename hf]
  unfold Table.rename
  rw [List.map_filterMap]
  congr 1
  exact List.filterMap_congr fun q _ => solution?_rename hf

theorem plan_rename (ps : List Pattern) :
    Block.plan (ps.map (rename f)) = (Block.plan ps).map (Block.map (rename f)) :=
  Block.planAfter_map (h := rename f) (fun _ => rfl) (fun _ => rfl) (fun _ => rfl) false ps

end Pattern

/-! ## Renamings -/

/-- New names for variables, different ones for different variables and none of them reserved. -/
structure Renaming where
  name : Variable → Variable
  injective : Function.Injective name
  free : ∀ v, (name v).isReserved = false

namespace Renaming

variable (σ : Renaming)

/-- Renames all variables but those whose names are reserved. -/
def outer (v : Variable) : Variable := if v.isReserved then v else σ.name v

theorem outer_of_reserved {v : Variable} (h : v.isReserved = true) : σ.outer v = v := if_pos h

theorem outer_of_free {v : Variable} (h : v.isReserved = false) : σ.outer v = σ.name v := by
  rw [outer, h]
  rfl

theorem isReserved_outer (v : Variable) : (σ.outer v).isReserved = v.isReserved := by
  cases h : v.isReserved with
  | true => rw [σ.outer_of_reserved h, h]
  | false => rw [σ.outer_of_free h, σ.free]

theorem outer_injective : Function.Injective σ.outer := by
  intro v w h
  -- New names are not reserved, so a renamed variable is never taken for one that keeps its name.
  have hSame : v.isReserved = w.isReserved := by
    rw [← σ.isReserved_outer, h, σ.isReserved_outer]
  cases hv : v.isReserved with
  | true =>
    rw [σ.outer_of_reserved hv, σ.outer_of_reserved (hSame ▸ hv)] at h
    exact h
  | false =>
    rw [σ.outer_of_free hv, σ.outer_of_free (hSame ▸ hv)] at h
    exact σ.injective h

end Renaming

variable {σ : Renaming}

namespace Slot

theorem reserved?_rename {s : Slot} : (s.rename σ.name).reserved? = none := by
  cases s with
  | var v => simp [rename, reserved?, var?, σ.free]
  | term t => rfl

theorem rename_outer {s : Slot} (h : s.reserved? = none) : s.rename σ.outer = s.rename σ.name := by
  refine rename_congr fun v hv => σ.outer_of_free ?_
  exact Path.isReserved_of_free h (Path.var?_eq_some_iff.mp hv)

end Slot

/-! ## Paths -/

namespace Path

/-- The step under other variables. -/
def Step.rename (σ : Renaming) (s : Step) : Step where
  predicate := s.predicate.rename σ.name
  inverse := s.inverse
  admitted := (Slot.admits_rename .predicate).trans s.admitted
  free := Slot.reserved?_rename

/-- The level under other variables. -/
def Level.rename (σ : Renaming) : Level → Level
  | single step => .single (step.rename σ)
  | choice first second more =>
    .choice (first.rename σ) (second.rename σ) (more.map (Step.rename σ))

/-- The path under other variables. -/
def rename (σ : Renaming) (p : Path) : Path where
  start := p.start.rename σ.name
  finish := p.finish.rename σ.name
  levels := p.levels.map (Level.rename σ)
  linking := p.linking
  start_free := Slot.reserved?_rename
  finish_free := Slot.reserved?_rename

variable {p : Path} {fingerprint fingerprint' : String} {left right finish : Slot} {emitted : Nat}

theorem Level.steps_rename {l : Level} : (l.rename σ).steps = l.steps.map (Step.rename σ) := by
  cases l <;> rfl

theorem vars_rename : (p.rename σ).vars = p.vars.map σ.name := by
  have hPredicates : ((p.rename σ).levels.flatMap Level.steps).map Step.predicate =
      ((p.levels.flatMap Level.steps).map Step.predicate).map (Slot.rename σ.name) := by
    show ((p.levels.map (Level.rename σ)).flatMap Level.steps).map Step.predicate = _
    rw [List.flatMap_map, List.map_map, List.map_flatMap, List.map_flatMap]
    refine List.flatMap_congr fun l _ => ?_
    rw [Level.steps_rename, List.map_map]
    rfl
  unfold vars
  dsimp only
  rw [hPredicates, ← Slot.firsts_rename σ.injective]
  rfl

/-- Between renamed nodes a renamed step makes the renamed pattern. -/
theorem Step.toPattern_rename {s : Step} {q : Pattern} (h : s.toPattern left right = .ok q) :
    (s.rename σ).toPattern (left.rename σ.outer) (right.rename σ.outer) = .ok (q.rename σ.outer) := by
  have hPredicate : (s.rename σ).predicate = s.predicate.rename σ.outer :=
    (Slot.rename_outer s.free).symm
  have hTriple : ∀ {subject object : Slot}, Pattern.ofTriple subject s.predicate object = .ok q →
      Pattern.ofTriple (subject.rename σ.outer) (s.predicate.rename σ.outer) (object.rename σ.outer) =
        .ok (q.rename σ.outer) := by
    intro subject object hq
    have hSubject := admits_of_ofTriple hq
    rw [ofTriple_eq hSubject s.admitted] at hq
    cases hq
    exact ofTriple_eq ((Slot.admits_rename .subject).trans hSubject)
      ((Slot.admits_rename .predicate).trans s.admitted)
  unfold toPattern at h ⊢
  rw [hPredicate]
  show (if s.inverse = true then _ else _) = _
  split at h
  · rename_i hInverse
    rw [if_pos hInverse]
    exact hTriple h
  · rename_i hInverse
    rw [if_neg hInverse]
    exact hTriple h

theorem patternsOfSteps_rename {steps : List Step} {ps : List Pattern}
    (h : patternsOfSteps left right steps = .ok ps) :
    patternsOfSteps (left.rename σ.outer) (right.rename σ.outer) (steps.map (Step.rename σ)) =
      .ok (ps.map (Pattern.rename σ.outer)) := by
  induction steps generalizing ps with
  | nil =>
    cases h
    rfl
  | cons s steps ih =>
    cases steps with
    | nil =>
      cases hq : s.toPattern left right with
      | error e =>
        rw [patternsOfSteps, hq] at h
        cases h
      | ok q =>
        rw [patternsOfSteps, hq] at h
        cases h
        rw [List.map_singleton, patternsOfSteps, Step.toPattern_rename hq]
        rfl
    | cons s' steps =>
      obtain ⟨q, qs, hq, hqs, rfl⟩ := patternsOfSteps_cons.mp h
      exact patternsOfSteps_cons.mpr
        ⟨_, _, Step.toPattern_rename hq, ih hqs, rfl⟩

theorem patternsOfLevels_rename {levels : List Level} {ps : List Pattern}
    (h : patternsOfLevels fingerprint finish emitted left levels = .ok ps) :
    patternsOfLevels fingerprint (finish.rename σ.outer) emitted (left.rename σ.outer)
        (levels.map (Level.rename σ)) = .ok (ps.map (Pattern.rename σ.outer)) := by
  induction levels generalizing emitted left ps with
  | nil =>
    cases h
    rfl
  | cons l levels ih =>
    cases levels with
    | nil =>
      have hSteps := patternsOfSteps_rename (σ := σ) h
      rw [← Level.steps_rename] at hSteps
      exact hSteps
    | cons l' levels =>
      obtain ⟨ps, qs, hps, hqs, rfl⟩ := patternsOfLevels_cons.mp h
      -- The inner node is reserved and keeps its name, whatever the levels around it are.
      have hNode : (Slot.var (innerNode fingerprint emitted)).rename σ.outer =
          .var (innerNode fingerprint emitted) :=
        congrArg Slot.var (σ.outer_of_reserved (isReserved_innerNode emitted))
      have hHead := patternsOfSteps_rename (σ := σ) hps
      have hRest := ih hqs
      rw [hNode, ← Level.steps_rename] at hHead
      rw [hNode] at hRest
      refine patternsOfLevels_cons.mpr ⟨_, _, hHead, ?_, List.map_append⟩
      rw [Level.steps_rename, List.length_map]
      exact hRest

theorem compileWith_rename {ps : List Pattern} (h : p.compileWith fingerprint = .ok ps) :
    (p.rename σ).compileWith fingerprint = .ok (ps.map (Pattern.rename σ.outer)) := by
  have hLevels := levels_ne_nil_of_compileWith h
  have hRenamed : (p.rename σ).levels ≠ [] := mt List.map_eq_nil_iff.mp hLevels
  rw [compileWith_of_ne_nil hLevels] at h
  rw [compileWith_of_ne_nil hRenamed]
  -- Start and finish are not reserved, so both renamings give them the same names.
  have hStart : (p.rename σ).start = p.start.rename σ.outer :=
    (Slot.rename_outer p.start_free).symm
  have hFinish : (p.rename σ).finish = p.finish.rename σ.outer :=
    (Slot.rename_outer p.finish_free).symm
  rw [hStart, hFinish]
  exact patternsOfLevels_rename h

theorem exists_compile_rename (h : ∃ ps, p.compile = .ok ps) :
    ∃ ps, (p.rename σ).compile = .ok ps := by
  obtain ⟨ps, hps⟩ := h
  have hSame := compileWith_rename (σ := σ) hps
  exact exists_compileWith_iff.mpr (exists_compileWith_iff.mp ⟨_, hSame⟩)

theorem reservedVariables_rename (ps : List Pattern) :
    reservedVariables (ps.map (Pattern.rename σ.outer)) = (reservedVariables ps).map σ.outer := by
  unfold reservedVariables
  rw [← firsts_map σ.outer_injective, List.flatMap_map]
  simp only [Pattern.vars_rename σ.outer_injective]
  rw [← List.map_flatMap, List.filter_map]
  congr 2
  exact List.filter_congr fun v _ => σ.isReserved_outer v

/-- However its inner nodes are named, a path has the same table. -/
theorem walksIn_names {ps ps' : List Pattern} (h : p.compileWith fingerprint = .ok ps)
    (h' : p.compileWith fingerprint' = .ok ps') :
    p.walksIn quads fingerprint = p.walksIn quads fingerprint' := by
  rw [walksIn_eq h, walksIn_eq h', shownVariables_eq h h']

/-- The table of a renamed path. Its inner nodes have other names than those of the path. -/
theorem walksIn_rename (h : ∃ ps, p.compile = .ok ps) :
    (p.rename σ).walksIn quads (p.rename σ).fingerprint =
      (p.walksIn quads p.fingerprint).rename σ.name := by
  obtain ⟨ps, hps⟩ := h
  obtain ⟨_, hOther⟩ := exists_compile_rename (σ := σ) ⟨ps, hps⟩
  have hSame := compileWith_rename (σ := σ) hps
  -- The renamed path may be compiled with the inner nodes of the path.
  rw [walksIn_names hOther hSame]
  -- No column that is left has a reserved name.
  have hColumns : ∀ v ∈ (p.walksIn quads p.fingerprint).schema, σ.outer v = σ.name v := by
    intro v hv
    rw [walksIn_eq hps] at hv
    exact σ.outer_of_free (mem_shownVariables.mp hv).2
  rw [← (p.wellFormed_walksIn quads p.fingerprint).rename_congr hColumns]
  have hCompile : p.compileWith p.fingerprint = .ok ps := hps
  unfold walksIn
  rw [hSame, hCompile]
  dsimp only
  rw [Table.rename_removeColumns σ.outer_injective, reservedVariables_rename, Pattern.plan_rename,
    Block.tableOfAll_map σ.outer_injective (Pattern.wellFormed_solutionsIn quads)]
  exact fun _ _ q _ => Pattern.solutionsIn_rename σ.outer_injective

end Path

end GraphQuery
