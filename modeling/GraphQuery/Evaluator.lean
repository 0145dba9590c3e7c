import GraphQuery.Query
import GraphQuery.Source.Basic

/-! # Evaluation

* `Block.evaluateAll` — the table of a sequence of blocks.
* `Evaluator` — a source, what calls services, and options.
* `Evaluator.group`, `Evaluator.groups` — the table of a group and of a sequence of groups.
* `Evaluator.select`, `Evaluator.ask` — the answers to queries.
-/

namespace GraphQuery

namespace Block

variable {α : Type}

/-- A table combined with the union of the tables of the alternatives, which are evaluated in
order. -/
def evaluate (tableOf : α → Run Table) (t : Table) (b : Block α) : Run Table := do
  let tables ← b.items.mapM tableOf
  return t.combine (.union tables) b.combination

/-- The table of a sequence of blocks, beginning with the unit table. -/
def evaluateAll (tableOf : α → Run Table) (blocks : List (Block α)) : Run Table :=
  blocks.foldlM (evaluate tableOf) .unit

end Block

/-- The options of endpoints. Endpoints without options of their own share the default ones. -/
structure QueryOptions where
  standard : ServiceOptions
  endpoints : List (Iri × ServiceOptions)

namespace QueryOptions

def empty : QueryOptions := ⟨.standard, []⟩

def withEndpoint (o : QueryOptions) (endpoint : Iri) (options : ServiceOptions) : QueryOptions :=
  { o with endpoints := (endpoint, options) :: o.endpoints }

def forEndpoint (o : QueryOptions) (endpoint : Iri) : ServiceOptions :=
  (o.endpoints.lookup endpoint).getD o.standard

end QueryOptions

/-- A path matched in a source. The inner nodes, named after a fingerprint, are no columns of the
table. -/
def Source.walks (s : Source) (fingerprint : String) (p : Path) : Run Table :=
  match p.compileWith fingerprint with
  | .error e => .fail (.construction e)
  | .ok patterns => do
    let t ← Block.evaluateAll (fun p => s.solutions p) (Block.plan patterns)
    return t.removeColumns (Path.reservedVariables patterns)

/-- What queries are evaluated with. Without handler no service can be called. -/
structure Evaluator where
  source : Source
  handler : Option Handler
  options : QueryOptions

namespace Evaluator

def operand (v : Evaluator) : Operand → Run Table
  | .pattern p => v.source.solutions p
  | .path p => v.source.walks p.fingerprint p
  | .values vs => pure vs.toTable

def phase (v : Evaluator) (t : Table) : Group.Phase → Run Table
  | .combine block => block.evaluate v.operand t
  | .extend b => pure (t.extend b)

/-- The sub-patterns of filters, each matched once. -/
def subPatternResults (v : Evaluator) (filters : List Filter) : Run SubPatternResults :=
  (firsts (filters.flatMap Filter.subPatterns)).foldlM
    (fun results p => do return results.insert p (← v.source.solutions p)) .empty

def filtered (v : Evaluator) (filters : List Filter) (t : Table) : Run Table := do
  let results ← v.subPatternResults filters
  if !results.isEmpty then
    Run.report (.matchedSubPatterns results.size)
  return t.retain fun r => filters.all fun f => f.keeps results r

def service (v : Evaluator) (endpoint : Iri) (g : Group) : Run Table :=
  match v.handler with
  | none => .fail (.unsupported endpoint)
  | some handler =>
    Service.call handler ⟨endpoint, g.serviceQuery [], v.options.forEndpoint endpoint⟩ g.vars

/-- The table of a group. The phases build it in order, and the filters are applied at the end. -/
def group (v : Evaluator) (g : Group) : Run Table :=
  match g.service with
  | some endpoint => v.service endpoint g
  | none => do
    let t ← g.plan.foldlM v.phase .unit
    let t ← v.filtered g.filters t
    Run.report (.evaluatedGroup g.members.length t.rows.length)
    return t

def groups (v : Evaluator) (gs : List Group) : Run Table :=
  Block.evaluateAll v.group (Block.plan gs)

def select (v : Evaluator) (q : SelectQuery) : Run Table := q.refine <$> v.groups q.groups

/-- The groups of a query have a solution. -/
def ask (v : Evaluator) (q : AskQuery) : Run Bool := do
  return !(← v.groups q.groups).rows.isEmpty

end Evaluator

end GraphQuery
