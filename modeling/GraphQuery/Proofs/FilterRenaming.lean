import GraphQuery.Proofs.FilterExpression
import GraphQuery.Proofs.PathRenaming

/-! # Renamed expressions, values and filters

* `Expression.rename`, `Expression.evaluate?_rename` — on a renamed row an expression yields what it
  yields on the row.
* `Values.rename`, `Values.toTable_rename` — inline values under other variables.
* `Filter.rename`, `Filter.keeps_rename` — a filter keeps a renamed row exactly if it keeps the row.
-/

namespace GraphQuery

variable {f : Variable → Variable} {r : Row} {σ : Renaming} {quads : List Quad}

/-! ## Expressions -/

namespace Expression

mutual

/-- The expression under other variables. -/
def rename (f : Variable → Variable) : Expression → Expression
  | constant t => .constant t
  | var v => .var (f v)
  | bound v => .bound (f v)
  | unary op e => .unary op (e.rename f)
  | binary op a b => .binary op (a.rename f) (b.rename f)
  | regex text pattern => .regex (text.rename f) (pattern.rename f)
  | regexWith text pattern letters =>
    .regexWith (text.rename f) (pattern.rename f) (letters.rename f)
  | isIn needle members => .isIn (needle.rename f) (renameAll f members)
  | conditional c a b => .conditional (c.rename f) (a.rename f) (b.rename f)
  | concat parts => .concat (renameAll f parts)
  | coalesce choices => .coalesce (renameAll f choices)

/-- Each expression of a list under other variables. -/
def renameAll (f : Variable → Variable) : List Expression → List Expression
  | [] => []
  | e :: rest => e.rename f :: renameAll f rest

end

mutual

theorem evaluate?_rename (hf : Function.Injective f) :
    ∀ e : Expression, (e.rename f).evaluate? (r.rename f) = e.evaluate? r
  | constant t => by simp only [rename, evaluate?]
  | var v => by simp only [rename, evaluate?, Row.term?_rename hf]
  | bound v => by simp only [rename, evaluate?, Row.cell_rename hf]
  | unary op e => by simp only [rename, evaluate?, evaluate?_rename hf e]
  | binary op a b => by
    simp only [rename, evaluate?, evaluate?_rename hf a, evaluate?_rename hf b]
  | regex text pattern => by
    simp only [rename, evaluate?, evaluate?_rename hf text, evaluate?_rename hf pattern]
  | regexWith text pattern letters => by
    simp only [rename, evaluate?, evaluate?_rename hf text, evaluate?_rename hf pattern,
      evaluate?_rename hf letters]
  | isIn needle members => by
    simp only [rename, evaluate?, evaluate?_rename hf needle, evaluateAll_rename hf members]
  | conditional c a b => by
    simp only [rename, evaluate?, evaluate?_rename hf c, evaluate?_rename hf a,
      evaluate?_rename hf b]
  | concat parts => by simp only [rename, evaluate?, evaluateAll_rename hf parts]
  | coalesce choices => by simp only [rename, evaluate?, evaluateAll_rename hf choices]

theorem evaluateAll_rename (hf : Function.Injective f) :
    ∀ es : List Expression, evaluateAll (r.rename f) (renameAll f es) = evaluateAll r es
  | [] => by simp only [renameAll, evaluateAll]
  | e :: rest => by
    simp only [renameAll, evaluateAll, evaluate?_rename hf e, evaluateAll_rename hf rest]

end

theorem isTrue?_rename (hf : Function.Injective f) (e : Expression) :
    (e.rename f).isTrue? (r.rename f) = e.isTrue? r := by
  rw [isTrue?, isTrue?, evaluate?_rename hf]

end Expression

/-- The binding under other variables. -/
def Binding.rename (f : Variable → Variable) (b : Binding) : Binding :=
  ⟨f b.target, b.expression.rename f⟩

theorem Table.rename_extend (hf : Function.Injective f) {t : Table} (ht : t.WellFormed)
    (b : Binding) : (t.extend b).rename f = (t.rename f).extend (b.rename f) := by
  rw [extend_eq ht, extend_eq (ht.rename hf)]
  unfold Table.rename
  congr 1
  · exact (addNew_map hf t.schema b.target).symm
  · simp only [List.map_map]
    refine List.map_congr_left fun r _ => ?_
    rw [Function.comp_apply, Function.comp_apply, Row.rename_set hf]
    exact congrArg _ (Expression.evaluate?_rename hf b.expression).symm

/-! ## Inline values -/

namespace Values

/-- The values under other variables. -/
def rename (σ : Renaming) (vs : Values) : Values where
  columns := vs.columns.map fun c => (σ.name c.1, c.2)
  nonempty := mt List.map_eq_nil_iff.mp vs.nonempty
  distinct := by
    have h := List.Nodup.map σ.injective vs.distinct
    rw [List.map_map] at h ⊢
    exact h

variable {vs : Values}

theorem vars_rename : (vs.rename σ).vars = vs.vars.map σ.name := by
  unfold vars rename
  rw [List.map_map, List.map_map]
  rfl

theorem tuples_rename :
    (vs.rename σ).tuples = vs.tuples.map (List.map fun b => (σ.name b.1, b.2)) := by
  have hCount : (vs.rename σ).tupleCount = vs.tupleCount := by
    unfold tupleCount rename
    rw [List.map_map]
    rfl
  have hTuple : ∀ n, (vs.rename σ).tuple n = (vs.tuple n).map fun b => (σ.name b.1, b.2) := by
    intro n
    unfold tuple rename
    rw [List.map_map, List.map_map]
    rfl
  unfold tuples
  rw [hCount, List.map_map]
  exact List.map_congr_left fun n _ => hTuple n

theorem mem_vars_of_mem_tuples {tuple : List (Variable × Option Term)} (h : tuple ∈ vs.tuples)
    {v : Variable} : v ∈ (Row.ofList tuple).vars ↔ v ∈ vs.vars := by
  obtain ⟨n, _, rfl⟩ := List.mem_map.mp h
  rw [Row.mem_vars_ofList, tuple, List.map_map]
  rfl

theorem toTable_rename : (vs.rename σ).toTable = vs.toTable.rename σ.name := by
  unfold toTable
  rw [Table.rename_ofRows σ.injective, vars_rename, tuples_rename]
  · simp only [List.map_map]
    congr 1
    exact List.map_congr_left fun tuple _ => (Row.rename_ofList σ.injective tuple).symm
  · intro r hr v hv
    obtain ⟨tuple, hTuple, rfl⟩ := List.mem_map.mp hr
    exact (mem_vars_of_mem_tuples hTuple).mp hv

theorem admits_rename : (vs.rename σ).admits (r.rename σ.name) = vs.admits r := by
  unfold admits
  rw [vars_rename, tuples_rename, List.any_map, List.any_map]
  have hColumn : (r.rename σ.name).hasColumn ∘ σ.name = r.hasColumn :=
    funext fun v => Row.hasColumn_rename σ.injective
  rw [hColumn]
  refine congrArg (fun p => !vs.vars.any r.hasColumn || vs.tuples.any p) (funext fun tuple => ?_)
  rw [Function.comp_apply, List.all_map]
  refine congrArg tuple.all (funext fun b => ?_)
  rw [Function.comp_apply]
  cases b.2 with
  | none => rfl
  | some t => exact congrArg (Cell.passes · (· == t)) (Row.cell_rename σ.injective)

end Values

/-! ## Filters -/

/-- The sub-pattern under other variables. -/
def SubPattern.rename (f : Variable → Variable) (p : SubPattern) : SubPattern where
  pattern := p.pattern.rename f
  hasVariables := by
    rw [← p.hasVariables, Pattern.isGround, Pattern.isGround, Pattern.slots_rename, List.all_map]
    exact congrArg p.pattern.slots.all (funext fun s => congrArg Option.isSome Slot.term?_rename)

namespace Filter

/-- The filter under other variables. -/
def rename (σ : Renaming) : Filter → Filter
  | bound v => .bound (σ.name v)
  | isIri v => .isIri (σ.name v)
  | isLiteral v => .isLiteral (σ.name v)
  | isNumeric v => .isNumeric (σ.name v)
  | datatype v d => .datatype (σ.name v) d
  | langMatches v range => .langMatches (σ.name v) range
  | regex v pattern => .regex (σ.name v) pattern
  | sameTerm a b => .sameTerm (a.rename σ.name) (b.rename σ.name)
  | isIn v members => .isIn (σ.name v) members
  | compare c a b => .compare c (a.rename σ.name) (b.rename σ.name)
  | and f g => .and (f.rename σ) (g.rename σ)
  | or f g => .or (f.rename σ) (g.rename σ)
  | not f => .not (f.rename σ)
  | hasMatch p => .hasMatch (p.rename σ.name)
  | hasNoMatch p => .hasNoMatch (p.rename σ.name)
  | expression e => .expression (e.rename σ.name)
  | values vs => .values (vs.rename σ)

theorem subPatterns_rename (f : Filter) :
    (f.rename σ).subPatterns = f.subPatterns.map (Pattern.rename σ.name) := by
  induction f with
  | and f g ihf ihg | or f g ihf ihg =>
    rw [rename, subPatterns, ihf, ihg, ← List.map_append]
    rfl
  | not f ih => exact ih
  | _ => rfl

theorem keeps_rename {results results' : SubPatternResults}
    (h : ∀ p, (results'.table? (p.rename σ.name)).any (·.hasPartner (r.rename σ.name)) =
      (results.table? p).any (·.hasPartner r)) (f : Filter) :
    (f.rename σ).keeps results' (r.rename σ.name) = f.keeps results r := by
  -- A filter looks at cells of the row, at expressions on it and at its partners, all of them renamed.
  induction f with
  | and f g ihf ihg => rw [rename, keeps, keeps, ihf, ihg]
  | or f g ihf ihg => rw [rename, keeps, keeps, ihf, ihg]
  | not f ih => rw [rename, keeps, keeps, ih]
  | hasMatch p => exact h p.pattern
  | hasNoMatch p => exact congrArg (!·) (h p.pattern)
  | expression e => exact congrArg (Option.getD · false) (e.isTrue?_rename σ.injective)
  | values vs => exact Values.admits_rename
  | sameTerm a b =>
    rw [rename, keeps, keeps, Slot.cell_rename σ.injective, Slot.cell_rename σ.injective]
  | compare c a b =>
    rw [rename, keeps, keeps, Slot.cell_rename σ.injective, Slot.cell_rename σ.injective]
  | bound v | isIri v | isLiteral v | isNumeric v | datatype v d | langMatches v range
  | regex v pattern | isIn v members =>
    rw [rename, keeps, keeps, Row.cell_rename σ.injective]

theorem keeps_subPatternsIn_rename (filters : List Filter) (f : Filter) :
    (f.rename σ).keeps (Group.subPatternsIn quads (filters.map (rename σ))) (r.rename σ.name) =
      f.keeps (Group.subPatternsIn quads filters) r := by
  have hSubPatterns : (filters.map (rename σ)).flatMap subPatterns =
      (filters.flatMap subPatterns).map (Pattern.rename σ.name) := by
    rw [List.flatMap_map, List.map_flatMap]
    exact List.flatMap_congr fun f _ => subPatterns_rename f
  refine keeps_rename (fun p => ?_) f
  rw [Group.table?_subPatternsIn, Group.table?_subPatternsIn, hSubPatterns]
  -- Different patterns stay different, so no other sub-pattern takes the place of this one.
  simp only [List.mem_map_of_injective (Pattern.rename_injective σ.injective)]
  split
  · rw [Option.any_some, Option.any_some, Pattern.solutionsIn_rename σ.injective,
      Table.hasPartner_rename σ.injective]
  · rfl

end Filter

end GraphQuery
