import GraphQuery.Graph
import GraphQuery.Source.Run
import GraphQuery.Table.Algebra

/-! # Services and sources

* `Handler` — what answers requests.
* `Service.call` — a request under a deadline, with a stand-in for failures.
* `Endpoint` — an endpoint as a source of solutions of patterns.
* `Source` — a graph, an endpoint, a source that always fails, or a federation of sources.
* `Source.solutions` — the solutions of a pattern.
-/

namespace GraphQuery

/-! ## Services -/

/-- What becomes of a request: nothing ever, or an outcome after a delay in milliseconds. -/
inductive Reply where
  | silence
  | answer (delay : Nat) (outcome : Except EvaluationError Table)

/-- What answers requests. -/
abbrev Handler := Request → Reply

def Reply.within (limit : Nat) : Reply → Run Table
  | silence => ⟨.error (.timeout limit), limit, []⟩
  | answer delay outcome => Run.within limit ⟨outcome, delay, []⟩

namespace Service

/-- The table of an outcome. If the policy asks for it, an empty table stands in for a failure of
the source, which is reported. -/
def recover (policy : ErrorPolicy) (source : String) (vs : List Variable) :
    Except EvaluationError Table → Run Table
  | .ok t => pure t
  | .error e =>
    match policy with
    | .throw => .fail e
    | .emptyTable => do
      Run.report (.standingIn source e)
      return Table.ofVariables vs

/-- The answer to a request. A table that stands in for it has the given columns. -/
def call (handler : Handler) (r : Request) (vs : List Variable) : Run Table := do
  Run.report (.calling r.endpoint)
  Run.perform (.request r)
  let outcome ← ((handler r).within r.options.timeout).attempt
  recover r.options.onError r.endpoint.render vs outcome

/-- The report and the request never fail, and an attempt hands on what came of it. -/
theorem outcome_call (handler : Handler) (r : Request) (vs : List Variable) :
    (call handler r vs).outcome = (recover r.options.onError r.endpoint.render vs
      ((handler r).within r.options.timeout).outcome).outcome := rfl

end Service

structure Endpoint where
  iri : Iri
  handler : Handler
  options : ServiceOptions

def Endpoint.solutions (e : Endpoint) (p : Pattern) : Run Table :=
  Service.call e.handler ⟨e.iri, "SELECT * WHERE \x7b " ++ p.canonical ++ " \x7d", e.options⟩
    p.vars

/-! ## Sources -/

structure FederationOptions where
  /-- In milliseconds. -/
  timeout : Nat
  onError : ErrorPolicy
  deriving DecidableEq

def FederationOptions.standard : FederationOptions := ⟨defaultTimeout, .throw⟩

inductive Source where
  | graph (g : Graph)
  | endpoint (e : Endpoint)
  | broken (complaint : String)
  | federation (members : List Source) (options : FederationOptions)

namespace Source

/-- The tables of the outcomes of members, which are numbered from an index. The first member whose
failure is not recovered decides the error. -/
def recoverFrom (policy : ErrorPolicy) (vs : List Variable) (index : Nat) :
    List (Except EvaluationError Table) → Run (List Table)
  | [] => pure []
  | outcome :: rest => do
    let t ← Service.recover policy ("federation member " ++ toString index) vs outcome
    return t :: (← recoverFrom policy vs (index + 1) rest)

/-- The solutions of a pattern in a federation whose members run as given. All members are awaited,
each for no longer than the timeout, and their rows are kept in the order of the members. -/
def gather (options : FederationOptions) (p : Pattern) (runs : List (Run Table)) : Run Table := do
  Run.report (.passingOn runs.length p)
  let outcomes ← Run.together (runs.map (Run.within options.timeout))
  let tables ← recoverFrom options.onError p.vars 0 outcomes
  return Table.union (.ofVariables p.vars :: tables)

mutual

/-- The solutions of a pattern. The table has a column for every variable of the pattern. -/
def solutions (p : Pattern) : Source → Run Table
  | graph g => pure (g.solutions p)
  | endpoint e => e.solutions p
  | broken complaint => .fail (.dataset complaint)
  | federation members options => gather options p (solutionsOfAll p members)

def solutionsOfAll (p : Pattern) : List Source → List (Run Table)
  | [] => []
  | s :: rest => s.solutions p :: solutionsOfAll p rest

end

end Source

end GraphQuery
